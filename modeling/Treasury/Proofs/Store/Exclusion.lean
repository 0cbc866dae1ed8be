import Mathlib.Data.List.Induction
import Treasury.Proofs.Store.Leases
import Treasury.Proofs.Time

/-!
# Who holds a lease

Ticks of one kind take turns by a lease, and a tick that is slow may lose it to another one. Nothing
stops such a tick from going on, so two ticks may well believe that they hold the lease; what is
shown here is that the first of them has had it for more than five minutes by then
(`exclusive_run`), and that it does no harm when it gives the lease back. How old a lease has to be
is `acquireLease_backdated`.

All that counts is who stands in the rows of a name, and since when (`Store.holders`). Both
operations are described by what they do to it, and neither sees or changes another name. What
carries the argument is that the last one who got the lease of a name stands there alone, until the
lease is given back (`Seated`).
-/

namespace Treasury

attribute [ext] Lease

theorem LeaseName.tag_inj {a b : LeaseName} : a.tag = b.tag ↔ a = b := by
  cases a <;> cases b <;> decide

namespace Store

/-- Who holds a lease of this name, and since when. -/
def holders (s : Store) (name : LeaseName) : List (String × Cell) :=
  (s.leases.filter fun row => row.name = name.tag).map fun row => (row.holder, row.lockedAt)

/-- Since when leases are too old that stand in their rows like this. -/
def isOld (now : Int) (since : Cell) : Bool := !(lockedAt (now - leaseTimeout)).le since

/-- **A lease is too old when it was taken more than five minutes ago.** -/
theorem isOld_lockedAt {now since : Int} (hnow : Time.FourDigits now)
    (hsince : Time.FourDigits since) :
    isOld now (lockedAt since) = true ↔ since + leaseTimeout < now := by
  have hearliest : ∀ n, Time.FourDigits n → Time.earliest ≤ n - leaseTimeout := fun n hn =>
    Int.le_trans (by decide : Time.earliest ≤ -62167219200 - leaseTimeout)
      (Int.sub_le_sub_right hn.1 _)
  have hle : isOld now (lockedAt since) = true ↔
      (Time.toText? since).getD "" < (Time.toText? (now - leaseTimeout)).getD "" := by
    unfold isOld lockedAt Cell.le
    rw [Bool.not_eq_true', decide_eq_false_iff_not, String.not_le]
  rw [hle]
  -- the texts are compared, which stand in the order of the times that they show
  rcases Int.lt_trichotomy since (now - leaseTimeout) with hlt | rfl | hgt
  · have hlater : Time.FourDigits (now - leaseTimeout) :=
      ⟨Int.le_trans hsince.1 (Int.le_of_lt hlt), Int.le_trans (Int.sub_le_self _ (by decide)) hnow.2⟩
    obtain ⟨text, text', htext, htext', horder⟩ := Time.toText?_lt
      (Int.le_trans (hearliest since hsince) (Int.sub_le_self _ (by decide))) hlater hlt
    rw [htext, htext']
    exact iff_of_true horder (by omega)
  · exact iff_of_false (String.not_lt.2 (String.le_refl _)) (by omega)
  · obtain ⟨text, text', htext, htext', horder⟩ := Time.toText?_lt (hearliest now hnow) hsince hgt
    rw [htext, htext']
    exact iff_of_false (String.lt_asymm horder) (by omega)

/-! ## What the operations do to the holders -/

theorem isAbandoned_eq (now : Int) (name : LeaseName) (row : LeaseRow) :
    isAbandoned now name.tag row = (decide (row.name = name.tag) && isOld now row.lockedAt) := by
  unfold isAbandoned isOld lockedAt
  rw [Bool.decide_and, Bool.decide_coe]

theorem holders_filter {s : Store} {name : LeaseName} {p : LeaseRow → Bool}
    {q : String × Cell → Bool}
    (h : ∀ row ∈ s.leases, row.name = name.tag → p row = q (row.holder, row.lockedAt)) :
    holders { s with leases := s.leases.filter p } name = (s.holders name).filter q := by
  unfold holders
  dsimp only
  rw [List.filter_map, List.filter_filter, List.filter_filter]
  refine congrArg _ (List.filter_congr fun row hrow => ?_)
  by_cases hname : row.name = name.tag
  · simp [hname, h row hrow hname]
  · simp [hname]

theorem holders_filter_of_ne {s : Store} {name : LeaseName} {p : LeaseRow → Bool}
    (h : ∀ row ∈ s.leases, row.name = name.tag → p row = true) :
    holders { s with leases := s.leases.filter p } name = s.holders name :=
  (holders_filter (q := fun _ => true) h).trans (List.filter_true _)

theorem holders_release (s : Store) (lease : Lease) :
    (s.releaseLease lease).1.holders lease.name =
      (s.holders lease.name).filter fun held => held.1 ≠ lease.holder :=
  holders_filter fun row _ hname => by simp [isHeldBy, hname]

theorem holders_release_of_ne (s : Store) {lease : Lease} {name : LeaseName}
    (h : lease.name ≠ name) : (s.releaseLease lease).1.holders name = s.holders name := by
  refine holders_filter_of_ne fun row _ hname => ?_
  have hne : row.name ≠ lease.name.tag := fun he =>
    h (LeaseName.tag_inj.1 (he.symm.trans hname))
  simp [isHeldBy, hne]

/-- Nothing is given back by somebody who does not stand in a row of the name. -/
theorem releaseLease_of_not_mem {s : Store} {lease : Lease}
    (h : ∀ held ∈ s.holders lease.name, held.1 ≠ lease.holder) :
    s.releaseLease lease = (s, false) := by
  have hnone : ∀ row ∈ s.leases, isHeldBy lease row = false := by
    intro row hrow
    unfold isHeldBy
    rw [decide_eq_false_iff_not]
    rintro ⟨hname, hholder⟩
    exact h (row.holder, row.lockedAt)
      (List.mem_map_of_mem (List.mem_filter.2 ⟨hrow, decide_eq_true hname⟩)) hholder
  unfold releaseLease
  rw [List.filter_eq_self.2 fun row hrow => by rw [hnone row hrow]; rfl,
    List.any_eq_false.2 fun row hrow => by rw [hnone row hrow]; decide]

theorem releaseLease_of_mem {s : Store} {lease : Lease} {since : Cell}
    (h : (lease.holder, since) ∈ s.holders lease.name) : (s.releaseLease lease).2 = true := by
  obtain ⟨row, hrow, heq⟩ := List.mem_map.mp h
  obtain ⟨hmem, hname⟩ := List.mem_filter.mp hrow
  refine List.any_eq_true.2 ⟨row, hmem, decide_eq_true ⟨of_decide_eq_true hname, ?_⟩⟩
  exact congrArg Prod.fst heq

theorem leaseAlive_iff {s : Store} {name : LeaseName} {now : Int} :
    s.LeaseAlive name now ↔ ∃ held ∈ s.holders name, isOld now held.2 = false := by
  constructor
  · rintro ⟨row, hrow, hname, halive⟩
    rw [isAbandoned_eq, hname, decide_eq_true rfl, Bool.true_and] at halive
    exact ⟨_, List.mem_map_of_mem (List.mem_filter.2 ⟨hrow, decide_eq_true hname⟩), halive⟩
  · rintro ⟨held, hheld, halive⟩
    obtain ⟨row, hrow, rfl⟩ := List.mem_map.mp hheld
    obtain ⟨hmem, hname⟩ := List.mem_filter.mp hrow
    refine ⟨row, hmem, of_decide_eq_true hname, ?_⟩
    rw [isAbandoned_eq, hname, Bool.true_and]
    exact halive

/-- **Asking for a lease takes away those of the name that are too old, and gets one if there is no
other.** -/
theorem acquireLease_spec (s : Store) (name : LeaseName) (holder : String) (now : Int) :
    let kept := (s.holders name).filter fun held => !isOld now held.2
    ((s.acquireLease name holder now).1.holders name =
        if kept = [] then [(holder, lockedAt now)] else kept)
      ∧ (s.acquireLease name holder now).2.lease =
        if kept = [] then some ⟨name, holder⟩ else none := by
  intro kept
  have hkept : holders (s.withoutAbandoned name now) name = kept :=
    holders_filter fun row _ hname => by rw [isAbandoned_eq, hname]; simp
  have halive : kept ≠ [] ↔ s.LeaseAlive name now := by
    rw [leaseAlive_iff, ← List.isEmpty_eq_false_iff, List.isEmpty_eq_false_iff_exists_mem]
    simp only [kept, List.mem_filter, Bool.not_eq_true']
  by_cases h : s.LeaseAlive name now
  · obtain ⟨reclaimed, hask⟩ := acquireLease_of_alive h holder
    rw [hask, if_neg (halive.2 h), if_neg (halive.2 h)]
    exact ⟨hkept, rfl⟩
  · obtain ⟨reclaimed, row, hask, hname, hholder, hsince⟩ := acquireLease_of_not_alive h holder
    have hnone : kept = [] := by
      by_contra hsome
      exact h (halive.1 hsome)
    rw [hask, if_pos hnone, if_pos hnone]
    refine ⟨?_, rfl⟩
    unfold holders otherLeases
    simp [List.filter_append, List.filter_filter, hname, hholder, hsince]

theorem holders_acquire_of_ne (s : Store) {asked name : LeaseName} (h : asked ≠ name)
    (holder : String) (now : Int) :
    (s.acquireLease asked holder now).1.holders name = s.holders name := by
  have hne : ∀ row : LeaseRow, row.name = name.tag → row.name ≠ asked.tag := fun row hname he =>
    h (LeaseName.tag_inj.1 (he.symm.trans hname))
  -- whether the other lease is got or not, only rows of its own name go or come
  by_cases halive : s.LeaseAlive asked now
  · obtain ⟨reclaimed, hask⟩ := acquireLease_of_alive halive holder
    rw [hask]
    exact holders_filter_of_ne fun row _ hname => by simp [isAbandoned_eq, hne row hname]
  · obtain ⟨reclaimed, row, hask, hname, -⟩ := acquireLease_of_not_alive halive holder
    have hrow : row.name ≠ name.tag := fun he => hne row he hname
    rw [hask]
    have hothers : holders { s with leases := s.otherLeases asked } name = s.holders name :=
      holders_filter_of_ne fun row _ hname => decide_eq_true (hne row hname)
    rw [← hothers]
    unfold holders
    simp [List.filter_append, hrow]

/-! ## Leases that have been made older -/

/-- The names that are listed are those under which somebody holds a lease. -/
theorem mem_leaseNames {s : Store} {name : LeaseName} :
    name.tag ∈ s.leaseNames ↔ s.holders name ≠ [] := by
  unfold leaseNames holders
  rw [List.mem_mergeSort, ne_eq, List.map_eq_nil_iff, List.filter_eq_nil_iff, List.mem_map]
  simp

/-- Rewriting since when leases of a name are held leaves everybody where they stand. -/
theorem holders_rewrite (s : Store) (name other : LeaseName) (since : Cell) :
    holders { s with leases := s.leases.map fun row =>
        if row.name = name.tag then { row with lockedAt := since } else row } other =
      (s.holders other).map fun held => if other = name then (held.1, since) else held := by
  have hname : (fun row => decide (row.name = other.tag)) ∘ (fun row : LeaseRow =>
      if row.name = name.tag then { row with lockedAt := since } else row) =
        fun row => decide (row.name = other.tag) := by
    funext row
    dsimp only [Function.comp_apply]
    split <;> rfl
  unfold holders
  rw [List.filter_map, hname, List.map_map, List.map_map]
  refine List.map_congr_left fun row hrow => ?_
  have hrow : row.name = other.tag := of_decide_eq_true (List.mem_filter.1 hrow).2
  simp only [Function.comp_apply, hrow, LeaseName.tag_inj]
  split <;> rfl

/-- **Making the leases of a name older changes since when they are held, and nothing else.** -/
theorem backdateLease_spec {s aged : Store} {name : LeaseName} {now minutes : Int} {count : Nat}
    (h : s.backdateLease name.tag now minutes = .ok (aged, count)) :
    count = (s.holders name).length
      ∧ ∀ other, aged.holders other = (s.holders other).map fun held =>
        if other = name then (held.1, lockedAt (now - 60 * minutes)) else held := by
  have hcount : s.leases.countP (·.name = name.tag) = (s.holders name).length := by
    rw [List.countP_eq_length_filter, holders, List.length_map]
  unfold backdateLease at h
  rw [hcount] at h
  split at h
  · -- nobody holds a lease of the name
    rename_i _ hnone
    cases h
    refine ⟨hnone.symm, fun other => ?_⟩
    by_cases hother : other = name
    · rw [hother, List.length_eq_zero_iff.1 hnone, List.map_nil]
    · simp [hother]
  · cases h
  · rename_i time htime _
    cases h
    have hsince : Cell.text time = lockedAt (now - 60 * minutes) := by
      unfold Time.minutesAgo? at htime
      split at htime
      · cases htime
      · rw [lockedAt, htime]
        rfl
    rw [← hsince]
    exact ⟨rfl, fun other => s.holders_rewrite name other (.text time)⟩

/--
**A lease is taken over when it is more than five minutes old.**

Whoever asks for a lease that was taken `minutes` ago gets it if that is more than five, and is then
the only one to hold it. Otherwise all stays as it is. Either way the same names are held.
-/
theorem acquireLease_backdated {s aged : Store} {name : LeaseName} {now minutes : Int} {count : Nat}
    (h : s.backdateLease name.tag now minutes = .ok (aged, count)) (hcount : count ≠ 0)
    (hnow : Time.FourDigits now) (hsince : Time.FourDigits (now - 60 * minutes))
    (holder : String) :
    let asked := aged.acquireLease name holder now
    (asked.1.holders name, asked.2.lease) =
        (if 5 < minutes then ([(holder, lockedAt now)], some ⟨name, holder⟩)
          else (aged.holders name, none))
      ∧ ∀ other : LeaseName, other.tag ∈ asked.1.leaseNames ↔ other.tag ∈ s.leaseNames := by
  obtain ⟨hlength, hholders⟩ := backdateLease_spec h
  have hsome : s.holders name ≠ [] := by
    rw [← List.length_pos_iff, ← hlength]
    exact Nat.pos_of_ne_zero hcount
  -- all leases of the name are as old as one another
  have hold : ∀ held ∈ aged.holders name, isOld now held.2 = decide (5 < minutes) := by
    intro held hheld
    rw [hholders name] at hheld
    obtain ⟨_, _, rfl⟩ := List.mem_map.1 hheld
    rw [if_pos rfl, Bool.eq_iff_iff, isOld_lockedAt hnow hsince, decide_eq_true_eq, leaseTimeout]
    omega
  have hkept : (aged.holders name).filter (fun held => !isOld now held.2) =
      if 5 < minutes then [] else aged.holders name := by
    split
    · rename_i hlong
      exact List.filter_eq_nil_iff.2 fun held hheld => by simp [hold held hheld, hlong]
    · rename_i hshort
      exact List.filter_eq_self.2 fun held hheld => by simp [hold held hheld, hshort]
  have hheld : aged.holders name ≠ [] := by
    rw [hholders name, ne_eq, List.map_eq_nil_iff]
    exact hsome
  obtain ⟨hnext, hlease⟩ := aged.acquireLease_spec name holder now
  refine ⟨?_, fun other => ?_⟩
  · rw [hnext, hlease, hkept]
    by_cases hlong : 5 < minutes
    · rw [if_pos hlong, if_pos hlong, if_pos rfl, if_pos rfl]
    · rw [if_neg hlong, if_neg hlong, if_neg hheld, if_neg hheld]
  · rw [mem_leaseNames, mem_leaseNames]
    by_cases hother : other = name
    · subst hother
      refine iff_of_true ?_ hsome
      rw [hnext]
      split
      · exact List.cons_ne_nil _ _
      · assumption
    · rw [holders_acquire_of_ne _ (Ne.symm hother), hholders other, ne_eq, List.map_eq_nil_iff]

end Store

/-! ## Schedules -/

/-- What somebody does about leases. -/
inductive LeaseMove where
  /-- A lease is asked for, with a token. -/
  | ask (name : LeaseName) (holder : String) (now : Int)
  | giveBack (lease : Lease)
  deriving DecidableEq, Repr

namespace LeaseMove

def name : LeaseMove → LeaseName
  | ask name _ _ => name
  | giveBack lease => lease.name

/-- The token and the time, when a lease is asked for. -/
def asked? : LeaseMove → Option (String × Int)
  | ask _ holder now => some (holder, now)
  | giveBack _ => none

end LeaseMove

/-- The tokens and the times of all who ask for leases, in their order. -/
def asked (moves : List LeaseMove) : List (String × Int) := moves.filterMap LeaseMove.asked?

/-- No token is used twice, the clock does not go back, and it shows years of four digits. -/
structure Fair (moves : List LeaseMove) : Prop where
  distinct : ((asked moves).map (·.1)).Nodup
  ordered : ((asked moves).map (·.2)).Pairwise (· ≤ ·)
  dated : ∀ now ∈ (asked moves).map (·.2), Time.FourDigits now

theorem Fair.of_append {moves later : List LeaseMove} (h : Fair (moves ++ later)) : Fair moves := by
  obtain ⟨hdistinct, hordered, hdated⟩ := h
  unfold asked at *
  rw [List.filterMap_append, List.map_append] at *
  exact ⟨hdistinct.of_append_left, (List.pairwise_append.1 hordered).1, fun now hnow =>
    hdated now (List.mem_append_left _ hnow)⟩

/-- A lease that somebody got. -/
structure Grant where
  lease : Lease
  since : Int
  /-- It has been given back since. -/
  returned : Bool
  deriving DecidableEq, Repr

/-- The lease after somebody has given back one, this or another. -/
def Grant.after (lease : Lease) (g : Grant) : Grant :=
  if g.lease = lease then { g with returned := true } else g

@[simp]
theorem Grant.after_lease (lease : Lease) (g : Grant) : (g.after lease).lease = g.lease := by
  unfold after
  split <;> rfl

@[simp]
theorem Grant.after_since (lease : Lease) (g : Grant) : (g.after lease).since = g.since := by
  unfold after
  split <;> rfl

theorem Grant.returned_of_after {lease : Lease} {g : Grant} (h : (g.after lease).returned = false) :
    g.returned = false := by
  unfold after at h
  split at h
  · exact absurd h nofun
  · exact h

/-- A store, and who has got leases from it. -/
structure LeaseBook where
  store : Store
  /-- The first one first. -/
  grants : List Grant

namespace LeaseBook

def start (s : Store) : LeaseBook := ⟨s, []⟩

def after (b : LeaseBook) : LeaseMove → LeaseBook
  | .ask name holder now =>
    let (next, acquired) := b.store.acquireLease name holder now
    ⟨next, b.grants ++ (acquired.lease.map fun lease => ⟨lease, now, false⟩).toList⟩
  | .giveBack lease => ⟨(b.store.releaseLease lease).1, b.grants.map (Grant.after lease)⟩

def run (b : LeaseBook) (moves : List LeaseMove) : LeaseBook := moves.foldl after b

/-- The leases of a name that somebody got. -/
def grantsOf (b : LeaseBook) (name : LeaseName) : List Grant :=
  b.grants.filter (·.lease.name = name)

theorem name_of_mem {b : LeaseBook} {name : LeaseName} {g : Grant} (h : g ∈ b.grantsOf name) :
    g.lease.name = name :=
  of_decide_eq_true (List.mem_filter.mp h).2

theorem run_append (b : LeaseBook) (moves later : List LeaseMove) :
    b.run (moves ++ later) = (b.run moves).run later :=
  List.foldl_append

/-! ## One name -/

variable {b b' : LeaseBook} {name : LeaseName} {move : LeaseMove}

theorem grants_ask (b : LeaseBook) (name : LeaseName) (holder : String) (now : Int) :
    (b.after (.ask name holder now)).grants = b.grants
      ++ if (b.store.holders name).filter (fun held => !Store.isOld now held.2) = [] then
        [⟨⟨name, holder⟩, now, false⟩] else [] := by
  obtain ⟨-, hlease⟩ := b.store.acquireLease_spec name holder now
  unfold after
  dsimp only
  rw [hlease]
  split <;> rfl

theorem grantsOf_ask (b : LeaseBook) (name : LeaseName) (holder : String) (now : Int) :
    (b.after (.ask name holder now)).grantsOf name = b.grantsOf name
      ++ if (b.store.holders name).filter (fun held => !Store.isOld now held.2) = [] then
        [⟨⟨name, holder⟩, now, false⟩] else [] := by
  unfold grantsOf
  rw [grants_ask, List.filter_append]
  split <;> simp

theorem grantsOf_giveBack (b : LeaseBook) (lease : Lease) (name : LeaseName) :
    (b.after (.giveBack lease)).grantsOf name = (b.grantsOf name).map (Grant.after lease) := by
  unfold after grantsOf
  dsimp only
  rw [List.filter_map]
  refine congrArg _ (List.filter_congr fun g _ => ?_)
  rw [Function.comp_apply, Grant.after_lease]

/-- Two books agree about a name. -/
def Agree (name : LeaseName) (b b' : LeaseBook) : Prop :=
  b.store.holders name = b'.store.holders name ∧ b.grantsOf name = b'.grantsOf name

/-- **What is done about one name cannot be seen under the other.** -/
theorem agree_after_of_ne (h : move.name ≠ name) : Agree name (b.after move) b := by
  cases move with
  | ask other holder now =>
    refine ⟨b.store.holders_acquire_of_ne h holder now, ?_⟩
    have hother : other ≠ name := h
    unfold grantsOf
    rw [grants_ask, List.filter_append]
    split <;> simp [hother]
  | giveBack lease =>
    refine ⟨b.store.holders_release_of_ne h, ?_⟩
    have hsame : ∀ g ∈ b.grantsOf name, g.after lease = g := by
      intro g hg
      have hname := name_of_mem hg
      refine if_neg fun he => h ?_
      rw [← hname, he]
      rfl
    rw [grantsOf_giveBack, List.map_congr_left hsame]
    exact List.map_id _

/-- What is done about a name depends on nothing else. -/
theorem Agree.after (h : Agree name b b') (hmove : move.name = name) :
    Agree name (b.after move) (b'.after move) := by
  obtain ⟨hholders, hgrants⟩ := h
  cases move with
  | ask other holder now =>
    obtain rfl : other = name := hmove
    obtain ⟨hnext, -⟩ := b.store.acquireLease_spec other holder now
    obtain ⟨hnext', -⟩ := b'.store.acquireLease_spec other holder now
    refine ⟨?_, ?_⟩
    · exact (hnext.trans (by rw [hholders])).trans hnext'.symm
    · rw [grantsOf_ask, grantsOf_ask, hholders, hgrants]
  | giveBack lease =>
    obtain rfl : lease.name = name := hmove
    refine ⟨?_, ?_⟩
    · show (b.store.releaseLease lease).1.holders _ = (b'.store.releaseLease lease).1.holders _
      rw [Store.holders_release, Store.holders_release, hholders]
    · rw [grantsOf_giveBack, grantsOf_giveBack, hgrants]

theorem Agree.run (h : Agree name b b') (moves : List LeaseMove) :
    Agree name (b.run moves) (b'.run (moves.filter (·.name = name))) := by
  induction moves generalizing b b' with
  | nil => exact h
  | cons move moves ih =>
    by_cases hmove : move.name = name
    · have hfilter : (move :: moves).filter (·.name = name) = move :: moves.filter (·.name = name) :=
        List.filter_cons_of_pos (decide_eq_true hmove)
      rw [hfilter]
      exact ih (h.after hmove)
    · have hfilter : (move :: moves).filter (·.name = name) = moves.filter (·.name = name) :=
        List.filter_cons_of_neg (by simpa using hmove)
      rw [hfilter]
      obtain ⟨hholders, hgrants⟩ := agree_after_of_ne (b := b) hmove
      exact ih ⟨hholders.trans h.1, hgrants.trans h.2⟩

/-- Whoever got a lease has asked for it. -/
theorem grants_sublist (s : Store) (moves : List LeaseMove) :
    (((start s).run moves).grants.map fun g => (g.lease.holder, g.since)).Sublist
      (asked moves) := by
  induction moves using List.reverseRecOn with
  | nil => exact .slnil
  | append_singleton moves move ih =>
    rw [run_append]
    unfold asked
    rw [List.filterMap_append]
    cases move with
    | ask name holder now =>
      show (List.map _ (((start s).run moves).after (.ask name holder now)).grants).Sublist _
      rw [grants_ask, List.map_append]
      refine ih.append ?_
      split
      · exact .refl _
      · exact List.nil_sublist _
    | giveBack lease =>
      show (List.map _ (List.map _ _)).Sublist _
      rw [List.map_map]
      have hsame : (fun g : Grant => (g.lease.holder, g.since)) ∘ Grant.after lease =
          fun g => (g.lease.holder, g.since) := by
        funext g
        simp
      rw [hsame]
      exact ih.trans (List.sublist_append_left _ _)

/-! ## Exclusion -/

/-- Who got the lease of a name last stands in its row alone, until it is given back; and whoever
had it before and has not given it back had had it for too long. -/
structure Seated (b : LeaseBook) (name : LeaseName) : Prop where
  single : (b.store.holders name).length ≤ 1
  last : ∀ earlier g, b.grantsOf name = earlier ++ [g] →
    b.store.holders name = if g.returned then [] else [(g.lease.holder, Store.lockedAt g.since)]
  exclusive : (b.grantsOf name).Pairwise fun g g' =>
    g.returned = false → g.since + leaseTimeout < g'.since

/-- Whoever gets a lease gets it from somebody who has given it back or had it for too long. -/
theorem Seated.expired (h : Seated b name) {now : Int} (hnow : Time.FourDigits now)
    (hsince : ∀ g ∈ b.grantsOf name, g.since ≤ now ∧ Time.FourDigits g.since)
    (hold : (b.store.holders name).filter (fun held => !Store.isOld now held.2) = []) :
    ∀ g ∈ b.grantsOf name, g.returned = false → g.since + leaseTimeout < now := by
  intro g hg hreturned
  obtain hnone | ⟨earlier, last, hgrants⟩ := (b.grantsOf name).eq_nil_or_concat
  · exact absurd hg (hnone ▸ List.not_mem_nil)
  rw [List.concat_eq_append] at hgrants
  have hlast := h.last earlier last hgrants
  have hexclusive := h.exclusive
  rw [hgrants] at hg hexclusive
  rcases List.mem_append.mp hg with hearlier | hmem
  · -- it was too old when the last one came, which was not later than now
    have hbefore := (List.pairwise_append.1 hexclusive).2.2 g hearlier last
      List.mem_cons_self hreturned
    have hle := (hsince last (by rw [hgrants]; simp)).1
    omega
  · -- it stands in the row, which is too old
    obtain rfl := List.mem_singleton.mp hmem
    rw [hreturned] at hlast
    rw [hlast] at hold
    have hdated := (hsince g (by rw [hgrants]; simp)).2
    rw [← Store.isOld_lockedAt hnow hdated]
    simpa using hold

theorem seated_start {s : Store} (h : (s.holders name).length ≤ 1) : Seated (start s) name where
  single := h
  last := by
    intro earlier g hgrants
    exact absurd (congrArg List.length hgrants) (by simp [grantsOf, start])
  exclusive := .nil

/-- Whoever asks gets the lease of nobody who has had it for five minutes or less. -/
theorem Seated.ask (h : Seated b name) {holder : String} {now : Int} (hnow : Time.FourDigits now)
    (hsince : ∀ g ∈ b.grantsOf name, g.since ≤ now ∧ Time.FourDigits g.since) :
    Seated (b.after (.ask name holder now)) name := by
  obtain ⟨hholders, -⟩ := b.store.acquireLease_spec name holder now
  have hgrants := grantsOf_ask b name holder now
  by_cases hold : (b.store.holders name).filter (fun held => !Store.isOld now held.2) = []
  · rw [if_pos hold] at hgrants hholders
    refine ⟨?_, ?_, ?_⟩
    · exact (congrArg List.length hholders).le
    · intro earlier g hlast
      obtain ⟨-, hg⟩ := List.append_inj' (hgrants.symm.trans hlast) rfl
      obtain rfl := List.singleton_inj.1 hg
      exact hholders
    · rw [hgrants]
      refine List.pairwise_append.2 ⟨h.exclusive, List.pairwise_singleton _ _, ?_⟩
      intro g hg new hnew
      obtain rfl := List.mem_singleton.mp hnew
      exact h.expired hnow hsince hold g hg
  · -- there is one row at most, and it is not too old: all stays as it is
    have hsame : (b.store.holders name).filter (fun held => !Store.isOld now held.2) =
        b.store.holders name := by
      have hsome : b.store.holders name ≠ [] := fun hnone => hold (by rw [hnone]; rfl)
      have hlength : (b.store.holders name).length = 1 :=
        Nat.le_antisymm h.single (List.length_pos_iff.2 hsome)
      obtain ⟨held, hone⟩ := List.length_eq_one_iff.1 hlength
      rw [hone] at hold ⊢
      simpa using hold
    rw [if_neg hold, hsame] at hholders
    rw [if_neg hold, List.append_nil] at hgrants
    exact ⟨hholders ▸ h.single, hholders ▸ hgrants ▸ h.last, hgrants ▸ h.exclusive⟩

theorem Seated.giveBack {lease : Lease} (h : Seated b lease.name) :
    Seated (b.after (.giveBack lease)) lease.name := by
  have hholders : (b.after (.giveBack lease)).store.holders lease.name =
      (b.store.holders lease.name).filter fun held => held.1 ≠ lease.holder :=
    b.store.holders_release lease
  have hgrants := grantsOf_giveBack b lease lease.name
  refine ⟨?_, ?_, ?_⟩
  · rw [hholders]
    exact (List.length_filter_le _ _).trans h.single
  · intro earlier g hlast
    obtain ⟨before, end', hbefore, -, hend⟩ :=
      List.map_eq_append_iff.1 (hgrants.symm.trans hlast)
    obtain ⟨last, rfl, rfl⟩ := List.map_eq_singleton_iff.1 hend
    rw [hholders, h.last before last hbefore, Grant.after_lease, Grant.after_since]
    -- either it is the last one that is given back, or it is somebody else's token
    unfold Grant.after
    by_cases hsame : last.lease = lease
    · rw [if_pos hsame, hsame]
      split <;> simp
    · have hname : last.lease.name = lease.name :=
        name_of_mem (b := b) (by rw [hbefore]; simp)
      have hholder : last.lease.holder ≠ lease.holder := fun he => hsame (Lease.ext hname he)
      rw [if_neg hsame]
      split <;> simp [hholder]
  · -- a lease that is not given back after the move was not given back before it
    rw [hgrants, List.pairwise_map]
    refine h.exclusive.imp fun hbefore hreturned => ?_
    rw [Grant.after_since, Grant.after_since]
    exact hbefore (Grant.returned_of_after hreturned)

/-- **Every move keeps it so.** -/
theorem Seated.after (h : Seated b name)
    (hmove : ∀ holder now, move = .ask name holder now → Time.FourDigits now
      ∧ ∀ g ∈ b.grantsOf name, g.since ≤ now ∧ Time.FourDigits g.since) :
    Seated (b.after move) name := by
  by_cases hname : move.name = name
  · cases move with
    | ask asked holder now =>
      obtain rfl : asked = name := hname
      obtain ⟨hnow, hsince⟩ := hmove holder now rfl
      exact h.ask hnow hsince
    | giveBack lease =>
      obtain rfl : lease.name = name := hname
      exact h.giveBack
  · obtain ⟨hholders, hgrants⟩ := agree_after_of_ne (b := b) hname
    exact ⟨hholders ▸ h.single, hholders ▸ hgrants ▸ h.last, hgrants ▸ h.exclusive⟩

theorem seated_run {s : Store} (hs : (s.holders name).length ≤ 1) {moves : List LeaseMove}
    (h : Fair moves) : Seated ((start s).run moves) name := by
  induction moves using List.reverseRecOn with
  | nil => exact seated_start hs
  | append_singleton moves move ih =>
    have hfair := h.of_append
    rw [run_append]
    refine (ih hfair).after ?_
    rintro holder now rfl
    obtain ⟨-, hordered, hdated⟩ := h
    unfold asked at hordered hdated
    rw [List.filterMap_append, List.map_append] at hordered hdated
    have hnow : now ∈ (List.filterMap LeaseMove.asked? [.ask name holder now]).map (·.2) :=
      List.mem_cons_self
    refine ⟨hdated now (List.mem_append_right _ hnow), fun g hg => ?_⟩
    -- whoever got a lease has asked for it before
    have hsince : g.since ∈ (asked moves).map (·.2) := by
      have hmem := (grants_sublist s moves).subset (List.mem_map_of_mem (List.mem_of_mem_filter hg))
      exact List.mem_map_of_mem hmem
    exact ⟨(List.pairwise_append.1 hordered).2.2 _ hsince _ hnow, hfair.dated _ hsince⟩

/-- How those stand to each other who ask for the leases of a name. -/
structure Exclusive (s : Store) (moves : List LeaseMove) (name : LeaseName) : Prop where
  /-- There is one row at most. -/
  single : (((start s).run moves).store.holders name).length ≤ 1
  /-- Whoever got a lease while somebody else had not given back his, which he got before, got it
  more than five minutes later. -/
  exclusive : (((start s).run moves).grantsOf name).Pairwise fun g g' =>
    g.returned = false → g.since + leaseTimeout < g'.since
  /-- Nothing happens when somebody gives a lease back that others have got since. -/
  late : ∀ earlier g later, ((start s).run moves).grantsOf name = earlier ++ g :: later →
    later ≠ [] →
    ((start s).run moves).store.releaseLease g.lease = (((start s).run moves).store, false)
  /-- Who got the lease last, and has not given it back, stands in its row. When he gives it back the
  row is gone, and the next one who asks gets the lease. -/
  current : ∀ earlier g, ((start s).run moves).grantsOf name = earlier ++ [g] →
    g.returned = false →
    ((start s).run moves).store.holders name = [(g.lease.holder, Store.lockedAt g.since)]
      ∧ (((start s).run moves).store.releaseLease g.lease).2 = true
      ∧ (((start s).run moves).store.releaseLease g.lease).1.holders name = []
      ∧ ∀ holder now, ((((start s).run moves).store.releaseLease g.lease).1.acquireLease name
        holder now).2.lease = some ⟨name, holder⟩
  /-- All is as if nobody had ever asked for another lease or given one back. -/
  alone : Agree name ((start s).run moves) ((start s).run (moves.filter (·.name = name)))

/--
**Leases exclude each other.**

In whatever order leases are asked for and given back, by however many ticks, as long as no two of
them use one token and the clock does not go back.
-/
theorem exclusive_run (s : Store) (moves : List LeaseMove) (name : LeaseName)
    (hs : (s.holders name).length ≤ 1) (hmoves : Fair moves) : Exclusive s moves name := by
  have h := seated_run hs hmoves
  have hholders : ((((start s).run moves).grantsOf name).map (·.lease.holder)).Nodup := by
    have hsub := (grants_sublist s moves).map Prod.fst
    rw [List.map_map] at hsub
    exact (hmoves.distinct.sublist hsub).sublist (List.filter_sublist.map _)
  refine ⟨h.single, h.exclusive, ?_, ?_, (Agree.run ⟨rfl, rfl⟩ moves)⟩
  · intro earlier g later hgrants hlater
    obtain ⟨between, last, rfl⟩ := later.eq_nil_or_concat'.resolve_left hlater
    have hname := name_of_mem (g := g) (by rw [hgrants]; simp)
    refine Store.releaseLease_of_not_mem fun held hheld => ?_
    -- who stands in the row is the last one, whose token is another one
    rw [hname, h.last (earlier ++ g :: between) last (by rw [hgrants]; simp)] at hheld
    rw [hgrants, List.map_append, List.map_cons] at hholders
    have hother := (List.nodup_cons.1 (List.nodup_append.1 hholders).2.1).1
    split at hheld
    · exact absurd hheld List.not_mem_nil
    · obtain rfl := List.mem_singleton.mp hheld
      exact fun he => hother (he ▸ List.mem_map_of_mem (by simp))
  · intro earlier g hgrants hreturned
    have hrow := h.last earlier g hgrants
    rw [hreturned] at hrow
    have hname := name_of_mem (g := g) (by rw [hgrants]; simp)
    have hafter : (((start s).run moves).store.releaseLease g.lease).1.holders name = [] := by
      rw [← hname, Store.holders_release, hname, hrow]
      simp
    have hmem : (g.lease.holder, Store.lockedAt g.since) ∈
        ((start s).run moves).store.holders g.lease.name := by
      rw [hname, hrow]
      exact List.mem_cons_self
    refine ⟨hrow, Store.releaseLease_of_mem hmem, hafter, fun holder now => ?_⟩
    rw [(Store.acquireLease_spec _ name holder now).2, hafter]
    rfl

/-- A tick takes over from a slow one, which then gives its lease back to no avail, while a tick of
the other kind is at work. -/
theorem exclusive_run_slowTick :
    let moves : List LeaseMove :=
      [.ask .orchestrator "a" 0, .ask .assetTransfer "b" 299, .ask .orchestrator "c" 300,
        .ask .orchestrator "d" 301, .giveBack ⟨.orchestrator, "a"⟩]
    Fair moves ∧ Exclusive .empty moves .orchestrator
      ∧ ((start .empty).run moves).grantsOf .orchestrator =
        [⟨⟨.orchestrator, "a"⟩, 0, true⟩, ⟨⟨.orchestrator, "d"⟩, 301, false⟩] := by
  intro moves
  have hmoves : Fair moves := ⟨by decide, by decide, by decide⟩
  exact ⟨hmoves, exclusive_run .empty moves .orchestrator (Nat.zero_le 1) hmoves,
    by decide +kernel⟩

end LeaseBook

end Treasury
