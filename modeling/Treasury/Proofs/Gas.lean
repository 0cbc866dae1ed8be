import Treasury.Proofs.Store.Queues

/-!
# Prepared batches

What the assigner makes of a list of drafts: the same drafts in the same order
(`map_draft_of_assignFrom`), each with the gas of the first chain of its number
(`gas_of_assignFrom`), and with nonces that follow wherever the queues were looked up
(`follows_of_assignFrom`).
-/

namespace Treasury

namespace GasAssigner

variable {fresh : Queue → Except AssignError UInt64} {chains : Chains}

/-- A draft is prepared if its chain is known and its queue could be looked up. -/
theorem assignFrom_cons_eq_ok {next : List (Queue × UInt64)} {d : Draft} {rest : List Draft}
    {batch : List Prepared} :
    assignFrom fresh chains next (d :: rest) = .ok batch ↔
      ∃ entry nonce tail, chains.findById? d.chainId = some entry
        ∧ nonceFor fresh next d.queue = .ok nonce
        ∧ assignFrom fresh chains ((d.queue, nextNonce nonce) :: next) rest = .ok tail
        ∧ batch = ⟨d, ⟨nonce, Word256.ofUInt64 entry.2.gasPrice, entry.2.gasLimit⟩⟩ :: tail := by
  rw [assignFrom]
  cases hfind : chains.findById? d.chainId with
  | none => simp
  | some entry =>
    simp only [bind_eq_ok]
    constructor
    · rintro ⟨nonce, hnonce, tail, htail, h⟩
      exact ⟨entry, nonce, tail, rfl, hnonce, htail, (Except.ok.inj h).symm⟩
    · rintro ⟨_, nonce, tail, ⟨⟩, hnonce, htail, rfl⟩
      exact ⟨nonce, hnonce, tail, htail, rfl⟩

/-- The drafts stay what they are. -/
theorem map_draft_of_assignFrom {next : List (Queue × UInt64)} {drafts : List Draft}
    {batch : List Prepared} (h : assignFrom fresh chains next drafts = .ok batch) :
    batch.map Prepared.draft = drafts := by
  induction drafts generalizing next batch with
  | nil =>
    cases h
    rfl
  | cons d rest ih =>
    obtain ⟨_, _, tail, _, _, htail, rfl⟩ := assignFrom_cons_eq_ok.1 h
    rw [List.map_cons, ih htail]

/-- The assigner prepares the drafts that it is given, all of them and in their order. -/
def KeepsDrafts (gas : GasAssigner) : Prop :=
  ∀ chains s drafts batch, gas.assign chains s drafts = .ok batch →
    batch.map Prepared.draft = drafts

theorem keepsDrafts_continuing (fresh : Queue → Except AssignError UInt64) :
    (continuing fresh).KeepsDrafts := fun _ _ _ _ h => map_draft_of_assignFrom h

theorem keepsDrafts_sequential : sequential.KeepsDrafts := fun _ _ _ _ h =>
  map_draft_of_assignFrom h

theorem keepsDrafts_fixed (assignment : GasAssignment) : (fixed assignment).KeepsDrafts := by
  rintro _ _ drafts _ ⟨⟩
  rw [List.map_map]
  exact List.map_id drafts

/-- Every transaction of a batch has been drafted. -/
theorem draft_mem_of_assignFrom {next : List (Queue × UInt64)} {drafts : List Draft}
    {batch : List Prepared} (h : assignFrom fresh chains next drafts = .ok batch) :
    ∀ p ∈ batch, p.draft ∈ drafts := by
  intro p hp
  rw [← map_draft_of_assignFrom h]
  exact List.mem_map_of_mem hp

/-- The gas of a transaction is that of the first chain of its number. -/
theorem gas_of_assignFrom {next : List (Queue × UInt64)} {drafts : List Draft}
    {batch : List Prepared} (h : assignFrom fresh chains next drafts = .ok batch) :
    ∀ p ∈ batch, ∃ entry, chains.findById? p.draft.chainId = some entry
      ∧ p.gas.gasPrice = Word256.ofUInt64 entry.2.gasPrice
      ∧ p.gas.gasLimit = entry.2.gasLimit := by
  induction drafts generalizing next batch with
  | nil =>
    cases h
    simp
  | cons d rest ih =>
    obtain ⟨entry, nonce, tail, hfind, _, htail, rfl⟩ := assignFrom_cons_eq_ok.1 h
    intro p hp
    rcases List.mem_cons.mp hp with rfl | hp
    · exact ⟨entry, hfind, rfl, rfl⟩
    · exact ih htail p hp

/-- No number is more than one past the last. -/
theorem toNat_nextNonce_le (nonce : UInt64) : (nextNonce nonce).toNat ≤ nonce.toNat + 1 := by
  unfold nextNonce
  split
  · rw [UInt64.toNat_add, UInt64.toNat_one]
    exact Nat.mod_le _ _
  · omega

/-- The queues that a batch has come to take up the nonces that follow. -/
theorem nonceFor_le_extend {next : List (Queue × UInt64)} {reached : QueueKey → Nat}
    (hr : ∀ queue nonce, nonceFor fresh next queue = .ok nonce → nonce.toNat ≤ reached queue.key)
    (queue : Queue) (nonce : UInt64) :
    ∀ other n, nonceFor fresh ((queue, nextNonce nonce) :: next) other = .ok n →
      n.toNat ≤ Store.extend reached queue.key nonce.toNat other.key := by
  intro other n h
  unfold nonceFor at h
  rw [List.lookup_cons] at h
  by_cases hq : other = queue
  · subst hq
    rw [beq_self_eq_true] at h
    cases h
    have := toNat_nextNonce_le nonce
    unfold Store.extend
    rw [if_pos rfl]
    omega
  · rw [beq_eq_false_iff_ne.mpr hq] at h
    exact Nat.le_trans (hr other n h) (Store.le_extend _ _ _ _)

/-- **A batch follows if each queue was looked up within its length.** -/
theorem follows_of_assignFrom {next : List (Queue × UInt64)} {drafts : List Draft}
    {batch : List Prepared} {reached : QueueKey → Nat}
    (hr : ∀ queue nonce, nonceFor fresh next queue = .ok nonce → nonce.toNat ≤ reached queue.key)
    (h : assignFrom fresh chains next drafts = .ok batch) : Store.Follows reached batch := by
  -- `reached` grows with the queues that the batch has come to, which is what `next` holds
  induction drafts generalizing next batch reached with
  | nil =>
    cases h
    trivial
  | cons d rest ih =>
    obtain ⟨_, nonce, tail, _, hnonce, htail, rfl⟩ := assignFrom_cons_eq_ok.1 h
    exact ⟨hr _ _ hnonce, ih (nonceFor_le_extend hr d.queue nonce) htail⟩

end GasAssigner

end Treasury
