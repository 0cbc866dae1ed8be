import Treasury.Proofs.Gas
import Treasury.Proofs.Settings.Accepted
import Treasury.Proofs.Store.Cell
import Treasury.Proofs.Text.Hex

/-!
# Inserting a batch that was just prepared

A batch that goes on where the queues of the store end has nonces of its own, and with chains that
are usable its rows are in order. So there are two ways left in which inserting it can fail:
a queue has no nonces left that a column can hold, or the table has no numbers left
(`inserts_of_sequential`).
-/

namespace Treasury

/-- How many numbers a table has left to give out. -/
def Table.left {α : Type} (t : Table α) : Nat := (maxId - t.last).toNat

/-- How many nonces a column can still hold for a sender, after the highest one that is stored. -/
def noncesLeft : Option UInt64 → Nat
  | none => maxColumn + 1
  | some highest => maxColumn - highest.toNat

/-- The queue of no other sender or chain has the same columns. -/
theorem Queue.key_inj {a b : Queue} : a.key = b.key ↔ a = b := by
  constructor
  · intro h
    obtain ⟨hchain, hsender⟩ := Prod.mk.inj h
    have hsender : a.2 = b.2 := by
      have h : FixedBytes.ofText? a.2.toText = some b.2 := hsender ▸ FixedBytes.ofText?_toText b.2
      exact Option.some.inj ((FixedBytes.ofText?_toText a.2).symm.trans h)
    have hchain : a.1 = b.1 := by
      have := Cell.int.inj hchain
      exact UInt64.toNat_inj.1 (by omega)
    exact Prod.ext hchain hsender
  · rintro rfl
    rfl

/-- A nonce that a column can hold is followed by another. -/
theorem toNat_add_one {nonce : UInt64} (h : nonce.toNat ≤ maxColumn) :
    nonce.toNat + 1 < UInt64.size ∧ (nonce + 1).toNat = nonce.toNat + 1 := by
  have hlt : nonce.toNat + 1 < UInt64.size := by
    unfold maxColumn at h
    unfold UInt64.size
    omega
  refine ⟨hlt, ?_⟩
  rw [UInt64.toNat_add, UInt64.toNat_one]
  exact Nat.mod_eq_of_lt hlt

theorem toNat_nextNonce {nonce : UInt64} (h : nonce.toNat ≤ maxColumn) :
    (nextNonce nonce).toNat = nonce.toNat + 1 := by
  obtain ⟨hlt, hnat⟩ := toNat_add_one h
  unfold nextNonce
  rw [if_pos hlt, hnat]

/-- A transaction that is in order, whatever its nonce. -/
structure Prepared.Usable (p : Prepared) : Prop where
  chainId : p.draft.chainId.toNat ≤ maxColumn
  gasLimit : p.gas.gasLimit.toNat ≤ maxColumn
  gas : p.gas.gasLimit ≠ 0

namespace Store

/-- The whole numbers that are stored as nonces have sixty-four bits, one of them for the sign. -/
def NoncesFit (s : Store) : Prop := ∀ row ∈ s.tasks.rows, ∀ n, row.nonce = .int n → n ≤ maxColumn

/-- No whole number that is stored in a queue is as high as `nonce`. -/
def Clear (s : Store) (queue : Queue) (nonce : Nat) : Prop :=
  ∀ n, Cell.int n ∈ s.queueNonces queue.key → n < nonce

/-- Each queue has nonces left for its part of a batch. -/
def NoncesSuffice (s : Store) (drafts : List Draft) : Prop :=
  ∀ (queue : Queue) highest, s.highestNonce queue.1 queue.2 = .ok highest →
    drafts.countP (·.queue = queue) ≤ noncesLeft highest

theorem NoncesFit.le_of_mem {s : Store} (hs : s.NoncesFit) {key : QueueKey} {n : Int}
    (h : Cell.int n ∈ s.queueNonces key) : n ≤ maxColumn := by
  obtain ⟨row, hrow, hnonce⟩ := List.mem_map.mp h
  exact hs row (List.mem_filter.mp hrow).1 n hnonce

/-- What fits a column and is not below zero is read back as it is. -/
theorem toNat_ofNat_of_fits {n : Int} (h : n ≤ maxColumn) :
    (UInt64.ofNat n.toNat).toNat = n.toNat := by
  rw [UInt64.toNat_ofNat']
  refine Nat.mod_eq_of_lt ?_
  unfold maxColumn at h
  omega

/-! ## Where a queue goes on -/

/-- Nothing is found where nothing is stored, and else the largest cell, which is no text. -/
theorem highestNonce_cases {s : Store} {queue : Queue} {highest : Option UInt64}
    (h : s.highestNonce queue.1 queue.2 = .ok highest) :
    (highest = none ∧ s.queueNonces queue.key = [])
      ∨ ∃ n : Int, highest = some (UInt64.ofNat n.toNat) ∧ 0 ≤ n
        ∧ Cell.max? (s.queueNonces queue.key) = some (.int n) := by
  obtain ⟨column, hcolumn, h⟩ := bind_eq_ok.1 h
  obtain ⟨-, rfl⟩ := columnOfWord_eq_ok.1 hcolumn
  rw [nonces_eq_queueNonces] at h
  unfold Queue.key
  split at h
  · rename_i hnone
    cases h
    left
    cases hcells : s.queueNonces (.int queue.1.toNat, queue.2.toText) with
    | nil => exact ⟨rfl, rfl⟩
    | cons cell rest =>
      rw [hcells] at hnone
      exact absurd hnone (by simp [Cell.max?])
  · rename_i cell hcell
    obtain ⟨n, hn, h⟩ := bind_eq_ok.1 h
    obtain ⟨w, hw, h⟩ := bind_eq_ok.1 h
    cases h
    -- where the largest cell is no whole number, nothing is found at all
    cases cell with
    | int m =>
      cases hn
      unfold wordOfColumn at hw
      split at hw
      · cases hw
        exact .inr ⟨_, rfl, ‹_›, hcell⟩
      · exact absurd hw (by simp)
    | real x => exact absurd hn (by simp [Cell.read, StoreError.ofColumn])
    | text t => exact absurd hn (by simp [Cell.read, StoreError.ofColumn])

/-- The highest nonce that was found is the highest there is, and fits its column. -/
theorem le_highestNonce {s : Store} (hs : s.NoncesFit) {queue : Queue} {highest : UInt64}
    (h : s.highestNonce queue.1 queue.2 = .ok (some highest)) :
    highest.toNat ≤ maxColumn
      ∧ ∀ n, Cell.int n ∈ s.queueNonces queue.key → n ≤ highest.toNat := by
  obtain ⟨hnone, -⟩ | ⟨top, hfound, hnonneg, htop⟩ := highestNonce_cases h
  · cases hnone
  cases hfound
  have hfits := hs.le_of_mem (Cell.mem_of_max? htop)
  rw [toNat_ofNat_of_fits hfits]
  refine ⟨by omega, fun n hn => ?_⟩
  have hle : n ≤ top := of_decide_eq_true (Cell.le_of_max? htop _ hn)
  omega

/-- A queue goes on after the highest nonce that it holds. -/
theorem freshNonce_eq_ok {s : Store} (hs : s.NoncesFit) {queue : Queue} {nonce : UInt64} :
    s.freshNonce queue = .ok nonce ↔
      ∃ highest, s.highestNonce queue.1 queue.2 = .ok highest
        ∧ nonce.toNat + noncesLeft highest = maxColumn + 1 := by
  unfold freshNonce
  cases hh : s.highestNonce queue.1 queue.2 with
  | error e => simp
  | ok found =>
    cases found with
    | none =>
      simp only [Except.ok.injEq, exists_eq_left', noncesLeft]
      rw [← UInt64.toNat_inj, UInt64.toNat_zero]
      omega
    | some highest =>
      have hfits := (le_highestNonce hs hh).1
      obtain ⟨hlt, hnat⟩ := toNat_add_one hfits
      simp only [if_pos hlt, Except.ok.injEq, exists_eq_left', noncesLeft]
      rw [← UInt64.toNat_inj, hnat]
      omega

/-- **Where a queue goes on, it is clear.** -/
theorem clear_of_freshNonce {s : Store} (hs : s.NoncesFit) {queue : Queue} {nonce : UInt64}
    (h : s.freshNonce queue = .ok nonce) : s.Clear queue nonce.toNat := by
  obtain ⟨found, hfound, hnonce⟩ := (freshNonce_eq_ok hs).1 h
  intro n hn
  cases found with
  | none =>
    obtain ⟨-, hempty⟩ | ⟨_, hsome, -⟩ := highestNonce_cases hfound
    · rw [hempty] at hn
      exact absurd hn List.not_mem_nil
    · cases hsome
  | some highest =>
    obtain ⟨hfits, hle⟩ := le_highestNonce hs hfound
    have := hle n hn
    rw [noncesLeft] at hnonce
    omega

/-! ## Inserting one row -/

theorem checkNonce_of_not_mem {s : Store} {row : TaskRow}
    (h : row.nonce ∉ s.queueNonces row.queueKey) : s.checkNonce row = .ok () := by
  unfold checkNonce
  rw [if_neg]
  intro hany
  obtain ⟨other, hother, hsame⟩ := List.any_eq_true.mp hany
  obtain ⟨hchain, hsender, hnonce⟩ := of_decide_eq_true hsame
  refine h (List.mem_map.mpr ⟨other, List.mem_filter.mpr ⟨hother, decide_eq_true ?_⟩, hnonce.symm⟩)
  exact Prod.ext hchain.symm hsender.symm

/-- The row of a transaction that has gas is in order. -/
theorem check_rowAt {p : Prepared} (h : p.gas.gasLimit ≠ 0) (id : Int) :
    (p.rowAt id).check = .ok () := by
  have hpos : p.gas.gasLimit.toNat ≠ 0 := fun hz => h (UInt64.toNat_inj.1 hz)
  have hkind : [TaskOwner.kind (.workflow 0), TaskOwner.kind (.assetTransfer 0)].contains
      p.draft.owner.kind = true := by
    cases p.draft.owner <;> rfl
  have htype : (TransactionType.all.map TransactionType.tag).contains p.draft.type.tag = true := by
    cases p.draft.type <;> rfl
  have hnonce : (Cell.int 0).le (.int p.gas.nonce.toNat) = true := by simp [Cell.le]
  have hgas : (!(Cell.int p.gas.gasLimit.toNat).le (.int 0)) = true := by simp [Cell.le, hpos]
  have hstate : (TransactionState.all.map TransactionState.tag).contains
      TransactionState.unsigned.tag = true := by decide
  unfold TaskRow.check checkWord checkThat Prepared.rowAt
  dsimp only
  rw [if_pos hkind, if_pos htype, if_pos hnonce, if_pos hgas, if_pos hstate]
  rfl

/-- Writing one transaction whose nonce is higher than all in its queue. -/
theorem saveTask_of_clear {s : Store} {p : Prepared} (hp : p.Usable)
    (hclear : s.Clear p.draft.queue p.gas.nonce.toNat) :
    (p.gas.nonce.toNat ≤ maxColumn ∧ 0 < s.tasks.left
        ∧ s.saveTask p = .ok (s.withTask p (s.tasks.last + 1), s.tasks.last + 1))
      ∨ (maxColumn < p.gas.nonce.toNat
        ∧ s.saveTask p = .error (.integerOverflow "nonce" p.gas.nonce))
      ∨ (p.gas.nonce.toNat ≤ maxColumn ∧ s.tasks.left = 0
        ∧ s.saveTask p = .error (.violation .full)) := by
  by_cases hnonce : p.gas.nonce.toNat ≤ maxColumn
  · have hfits : p.Fits := ⟨hp.chainId, hnonce, hp.gasLimit⟩
    by_cases hlast : s.tasks.last < Table.maxId
    · refine .inl ⟨hnonce, by unfold Table.left; omega, saveTask_eq_ok.2 ⟨hfits, ?_, ?_, ?_, rfl⟩⟩
      · exact if_pos hlast
      · exact check_rowAt hp.gas _
      · refine checkNonce_of_not_mem fun hmem => ?_
        exact absurd (hclear _ hmem) (lt_irrefl _)
    · have hnumber : s.tasks.nextNumber = .error .full := by
        unfold Table.nextNumber Table.nextId?
        rw [if_neg hlast]
      refine .inr (.inr ⟨hnonce, by unfold Table.left; omega, ?_⟩)
      unfold saveTask insertTask
      rw [Prepared.row_eq_ok.2 ⟨hfits, rfl⟩, hnumber]
      rfl
  · refine .inr (.inl ⟨by omega, ?_⟩)
    have hrow : p.row = .error (.integerOverflow "nonce" p.gas.nonce) := by
      have hchain : columnOfWord "chain_id" p.draft.chainId = .ok (p.draft.chainId.toNat : Int) :=
        columnOfWord_eq_ok.2 ⟨hp.chainId, rfl⟩
      unfold Prepared.row
      rw [hchain]
      unfold columnOfWord
      rw [if_neg hnonce]
      rfl
    unfold saveTask
    rw [hrow]

/-- A queue that has gone on by one is clear at the nonce that follows. -/
theorem clear_withTask {s : Store} {p : Prepared} {id : Int} {queue : Queue} {nonce : Nat}
    (h : s.Clear queue nonce)
    (hnext : p.draft.queue = queue → p.gas.nonce.toNat < nonce) :
    (s.withTask p id).Clear queue nonce := by
  intro n hn
  rw [queueNonces_withTask] at hn
  rcases List.mem_append.mp hn with hn | hn
  · exact h n hn
  · split at hn
    · rename_i hkey
      have := hnext (Queue.key_inj.1 hkey)
      have := Cell.int.inj (List.mem_singleton.mp hn)
      omega
    · exact absurd hn List.not_mem_nil

/-- A row takes one of the numbers that are left. -/
theorem left_withTask {s : Store} (p : Prepared) (h : 0 < s.tasks.left) :
    (s.withTask p (s.tasks.last + 1)).tasks.left + 1 = s.tasks.left := by
  have hlast : (s.withTask p (s.tasks.last + 1)).tasks.last = s.tasks.last + 1 := rfl
  unfold Table.left at h ⊢
  rw [hlast]
  omega

/-! ## Inserting a batch -/

/-- How inserting a batch comes out: it is written if its nonces suffice and there are numbers for
its rows; else it fails for want of the one or the other. -/
inductive Inserts (s : Store) (batch : List Prepared) (nonces : Prop) :
    Except StoreError (Store × List Int) → Prop
  | written (saved : Store) (ids : List Int) (hnonces : nonces)
    (hrows : batch.length ≤ s.tasks.left) : Inserts s batch nonces (.ok (saved, ids))
  | noNonce (p : Prepared) (hp : p ∈ batch) (hover : maxColumn < p.gas.nonce.toNat)
    (hnonces : ¬nonces) : Inserts s batch nonces (.error (.integerOverflow "nonce" p.gas.nonce))
  | noNumber (hrows : s.tasks.left < batch.length) :
    Inserts s batch nonces (.error (.violation .full))

end Store

namespace GasAssigner

variable {fresh : Queue → Except AssignError UInt64} {chains : Chains}

/-- Each queue has nonces left for its part of the rest of a batch. -/
def Suffices (fresh : Queue → Except AssignError UInt64) (next : List (Queue × UInt64))
    (drafts : List Draft) : Prop :=
  ∀ queue nonce, nonceFor fresh next queue = .ok nonce →
    drafts.countP (·.queue = queue) ≤ maxColumn + 1 - nonce.toNat

theorem nonceFor_cons (next : List (Queue × UInt64)) (queue other : Queue) (nonce : UInt64) :
    nonceFor fresh ((queue, nonce) :: next) other =
      if other = queue then .ok nonce else nonceFor fresh next other := by
  unfold nonceFor
  rw [List.lookup_cons]
  by_cases h : other = queue
  · rw [if_pos h, beq_iff_eq.2 h]
  · rw [if_neg h, beq_eq_false_iff_ne.2 h]

/-- The first of a queue takes one of the nonces that are left. -/
theorem suffices_cons {next : List (Queue × UInt64)} {d : Draft} {rest : List Draft}
    {nonce : UInt64} (h : nonceFor fresh next d.queue = .ok nonce)
    (hfits : nonce.toNat ≤ maxColumn) :
    Suffices fresh next (d :: rest) ↔ Suffices fresh ((d.queue, nextNonce nonce) :: next) rest := by
  have hnext := toNat_nextNonce hfits
  have hself : (d :: rest).countP (·.queue = d.queue) = rest.countP (·.queue = d.queue) + 1 :=
    List.countP_cons_of_pos (by simp)
  have hother : ∀ queue, queue ≠ d.queue →
      (d :: rest).countP (·.queue = queue) = rest.countP (·.queue = queue) :=
    fun queue hne => List.countP_cons_of_neg (by simpa using hne.symm)
  constructor
  · intro hs queue n hn
    rw [nonceFor_cons] at hn
    split at hn
    · rename_i heq
      cases hn
      have := hs d.queue nonce h
      rw [heq]
      omega
    · rename_i hne
      have := hs queue n hn
      rwa [hother queue hne] at this
  · intro hs queue n hn
    have hs := hs queue
    rw [nonceFor_cons] at hs
    by_cases heq : queue = d.queue
    · rw [heq] at hn ⊢
      cases h.symm.trans hn
      have := hs (nextNonce nonce) (if_pos heq)
      rw [heq] at this
      omega
    · rw [hother queue heq]
      exact hs n (by rw [if_neg heq, hn])

/-- Queues are clear where a batch goes on after its first transaction was written. -/
theorem clear_nonceFor_cons {next : List (Queue × UInt64)} {s : Store} {p : Prepared} {id : Int}
    (hclear : ∀ queue nonce, nonceFor fresh next queue = .ok nonce → s.Clear queue nonce.toNat)
    (hnonce : nonceFor fresh next p.draft.queue = .ok p.gas.nonce)
    (hfits : p.gas.nonce.toNat ≤ maxColumn) {queue : Queue} {nonce : UInt64}
    (h : nonceFor fresh ((p.draft.queue, nextNonce p.gas.nonce) :: next) queue = .ok nonce) :
    (s.withTask p id).Clear queue nonce.toNat := by
  have hnext := toNat_nextNonce hfits
  rw [nonceFor_cons] at h
  split at h
  · rename_i heq
    cases h
    refine Store.clear_withTask (fun n hn => ?_) fun _ => by omega
    have := hclear _ _ hnonce n (heq ▸ hn)
    omega
  · rename_i hne
    exact Store.clear_withTask (hclear _ _ h) fun heq => absurd heq.symm hne

/-- A batch on usable chains that goes on where queues are clear can only be stopped by the end of
the nonces or the end of the numbers. -/
theorem inserts_of_assignFrom (hchains : ∀ entry ∈ chains.byName.entries, entry.2.Usable)
    {next : List (Queue × UInt64)} {drafts : List Draft} {batch : List Prepared} {s : Store}
    (hclear : ∀ queue nonce, nonceFor fresh next queue = .ok nonce → s.Clear queue nonce.toNat)
    (h : assignFrom fresh chains next drafts = .ok batch) :
    s.Inserts batch (Suffices fresh next drafts) (s.saveTasks batch) := by
  -- `next` and the store go on together: where the one has a nonce, the other is clear
  induction drafts generalizing next batch s with
  | nil =>
    cases h
    exact .written s [] (fun _ _ _ => Nat.zero_le _) (Nat.zero_le _)
  | cons d rest ih =>
    obtain ⟨entry, nonce, tail, hfind, hnonce, htail, rfl⟩ := assignFrom_cons_eq_ok.1 h
    have husable := hchains entry (List.mem_of_find?_eq_some hfind)
    have hid : entry.2.chainId = d.chainId := by simpa using List.find?_some hfind
    -- the transaction for the first draft
    generalize hp : (⟨d, ⟨nonce, Word256.ofUInt64 entry.2.gasPrice, entry.2.gasLimit⟩⟩ : Prepared)
      = p
    obtain rfl : p.draft = d := hp ▸ rfl
    obtain rfl : p.gas.nonce = nonce := hp ▸ rfl
    have hpusable : p.Usable := hp ▸ ⟨hid ▸ husable.chainId, husable.gasLimit, husable.gas⟩
    rw [Store.saveTasks]
    rcases Store.saveTask_of_clear hpusable (hclear _ _ hnonce) with
      ⟨hle, hleft, hsave⟩ | ⟨hover, hsave⟩ | ⟨-, hleft, hsave⟩
    · -- what is left of the nonces and the numbers is for the rest
      have hleft' := Store.left_withTask p hleft
      have hsuffices : Suffices fresh next (p.draft :: rest) ↔
          Suffices fresh ((p.draft.queue, nextNonce p.gas.nonce) :: next) rest :=
        suffices_cons hnonce hle
      have hrest := ih (s := s.withTask p (s.tasks.last + 1))
        (fun _ _ => clear_nonceFor_cons hclear hnonce hle) htail
      rw [hsave]
      dsimp only
      generalize (s.withTask p (s.tasks.last + 1)).saveTasks tail = result at hrest
      cases hrest with
      | written saved ids hnonces hrows =>
        exact .written saved _ (hsuffices.2 hnonces) (by rw [List.length_cons]; omega)
      | noNonce q hq hover hnonces =>
        exact .noNonce q (List.mem_cons_of_mem _ hq) hover fun h => hnonces (hsuffices.1 h)
      | noNumber hrows => exact .noNumber (by rw [List.length_cons]; omega)
    · rw [hsave]
      refine .noNonce p List.mem_cons_self hover fun hsuffices => ?_
      have hcount := hsuffices p.draft.queue p.gas.nonce hnonce
      rw [List.countP_cons_of_pos (by simp)] at hcount
      omega
    · rw [hsave]
      exact .noNumber (by rw [List.length_cons]; omega)

end GasAssigner

namespace Store

theorem suffices_iff {s : Store} (hs : s.NoncesFit) (drafts : List Draft) :
    GasAssigner.Suffices s.freshNonce [] drafts ↔ s.NoncesSuffice drafts := by
  have hfresh : ∀ queue, GasAssigner.nonceFor s.freshNonce [] queue = s.freshNonce queue :=
    fun _ => rfl
  constructor
  · intro h queue highest hh
    have hle : noncesLeft highest ≤ maxColumn + 1 := by
      unfold noncesLeft
      split <;> omega
    have hsize : maxColumn + 1 < UInt64.size := by decide
    -- the nonce with which the queue goes on
    have hnat : (UInt64.ofNat (maxColumn + 1 - noncesLeft highest)).toNat =
        maxColumn + 1 - noncesLeft highest := by
      rw [UInt64.toNat_ofNat']
      exact Nat.mod_eq_of_lt (by unfold UInt64.size at hsize; omega)
    have hcount := h queue (UInt64.ofNat (maxColumn + 1 - noncesLeft highest)) (by
      rw [hfresh, freshNonce_eq_ok hs]
      exact ⟨highest, hh, by omega⟩)
    omega
  · intro h queue nonce hnonce
    rw [hfresh, freshNonce_eq_ok hs] at hnonce
    obtain ⟨highest, hh, heq⟩ := hnonce
    have := h queue highest hh
    omega

/-- **A batch that was just prepared can only be stopped by the end of the nonces or the end of the
numbers.** -/
theorem inserts_of_sequential {s : Store} (hs : s.NoncesFit) {chains : Chains}
    (hchains : ∀ entry ∈ chains.byName.entries, entry.2.Usable) {drafts : List Draft}
    {batch : List Prepared} (h : GasAssigner.sequential.assign chains s drafts = .ok batch) :
    s.Inserts batch (s.NoncesSuffice drafts) (s.saveTasks batch) := by
  rw [← suffices_iff hs]
  exact GasAssigner.inserts_of_assignFrom hchains (fun _ _ => clear_of_freshNonce hs) h

end Store

end Treasury
