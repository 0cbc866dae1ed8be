import Mathlib.Data.List.Nodup
import Treasury.Store.Leases

/-!
# Leases and the rest of the store

Asking for a lease changes nothing but leases. A lease that is alive is not given to anybody else;
otherwise there is one lease of the name afterwards, which is gone again when it is given back.
-/

namespace Treasury.Store

theorem acquireLease_frame (s : Store) (name : LeaseName) (holder : String) (now : Int) :
    ∃ leases, (s.acquireLease name holder now).1 = { s with leases := leases } := by
  unfold acquireLease insertLease
  dsimp only
  by_cases h : (s.leases.filter fun row => !isAbandoned now name.tag row).any (·.name = name.tag)
  · rw [if_pos h]
    exact ⟨_, rfl⟩
  · rw [if_neg h]
    exact ⟨_, rfl⟩

/-- A time as it stands in the row of a lease. -/
def lockedAt (now : Int) : Cell := .text ((Time.toText? now).getD "")

/-- Somebody holds a lease of this name that has not grown too old. -/
def LeaseAlive (s : Store) (name : LeaseName) (now : Int) : Prop :=
  ∃ row ∈ s.leases, row.name = name.tag ∧ isAbandoned now name.tag row = false

/-- The leases of other names. -/
def otherLeases (s : Store) (name : LeaseName) : List LeaseRow :=
  s.leases.filter fun row => row.name ≠ name.tag

/-- The store without the leases of a name that have grown too old. -/
def withoutAbandoned (s : Store) (name : LeaseName) (now : Int) : Store :=
  { s with leases := s.leases.filter fun row => !isAbandoned now name.tag row }

theorem any_kept_iff {s : Store} {name : LeaseName} {now : Int} :
    (s.leases.filter fun row => !isAbandoned now name.tag row).any (·.name = name.tag) = true ↔
      s.LeaseAlive name now := by
  simp only [List.any_eq_true, List.mem_filter, Bool.not_eq_true', decide_eq_true_eq]
  constructor
  · rintro ⟨row, ⟨hmem, halive⟩, hname⟩
    exact ⟨row, hmem, hname, halive⟩
  · rintro ⟨row, hmem, hname, halive⟩
    exact ⟨row, ⟨hmem, halive⟩, hname⟩

/-- **A lease that is alive is left alone.** -/
theorem acquireLease_of_alive {s : Store} {name : LeaseName} {now : Int}
    (h : s.LeaseAlive name now) (holder : String) :
    ∃ reclaimed, s.acquireLease name holder now =
      (s.withoutAbandoned name now, ⟨none, reclaimed⟩) := by
  unfold acquireLease insertLease withoutAbandoned
  dsimp only
  rw [if_pos (any_kept_iff.2 h)]
  exact ⟨_, rfl⟩

/-- **A lease that is not alive is taken, and then is the only one of its name.** -/
theorem acquireLease_of_not_alive {s : Store} {name : LeaseName} {now : Int}
    (h : ¬s.LeaseAlive name now) (holder : String) :
    ∃ reclaimed row, s.acquireLease name holder now =
        ({ s with leases := s.otherLeases name ++ [row] }, ⟨some ⟨name, holder⟩, reclaimed⟩)
      ∧ row.name = name.tag ∧ row.holder = holder ∧ row.lockedAt = lockedAt now := by
  -- what is kept are the leases of other names, for those of this one have grown too old
  have hkept : (s.leases.filter fun row => !isAbandoned now name.tag row) =
      s.otherLeases name := by
    refine List.filter_congr fun row hrow => ?_
    by_cases hname : row.name = name.tag
    · have hold : isAbandoned now name.tag row = true := by
        rw [← Bool.not_eq_false]
        exact fun halive => h ⟨row, hrow, hname, halive⟩
      simp [hold, hname]
    · simp [isAbandoned, hname]
  unfold acquireLease insertLease
  dsimp only
  rw [if_neg (fun hany => h (any_kept_iff.1 hany))]
  rw [hkept]
  exact ⟨_, ⟨_, name.tag, holder, _⟩, rfl, rfl, rfl, rfl⟩

/-- A lease that is given back is gone, and no other. -/
theorem filter_isHeldBy {s : Store} {lease : Lease} {row : LeaseRow}
    (hname : row.name = lease.name.tag) (hholder : row.holder = lease.holder) :
    (s.otherLeases lease.name ++ [row]).filter (fun row => !isHeldBy lease row) =
      s.otherLeases lease.name := by
  rw [List.filter_append, List.filter_eq_self.2, List.filter_eq_nil_iff.2, List.append_nil]
  · intro other hother
    rw [List.mem_singleton.mp hother]
    simp [isHeldBy, hname, hholder]
  · intro other hother
    have hne := of_decide_eq_true (List.mem_filter.mp hother).2
    simp [isHeldBy, hne]

/-- Where each name has one lease at most, a lease that is alive is the only one to look at. -/
theorem withoutAbandoned_of_alive {s : Store} {name : LeaseName} {now : Int}
    (hnodup : (s.leases.map (·.name)).Nodup) (h : s.LeaseAlive name now) :
    s.withoutAbandoned name now = s := by
  obtain ⟨row, hrow, hname, halive⟩ := h
  have hall : ∀ other ∈ s.leases, (!isAbandoned now name.tag other) = true := by
    intro other hother
    by_cases hsame : other.name = name.tag
    · rw [List.inj_on_of_nodup_map hnodup hother hrow (hsame.trans hname.symm), halive]
      decide
    · simp [isAbandoned, hsame]
  unfold withoutAbandoned
  rw [List.filter_eq_self.2 hall]

end Treasury.Store
