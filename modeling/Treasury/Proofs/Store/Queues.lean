import Treasury.Gas
import Treasury.Proofs.Store.Tasks

/-!
# Queues

The rows of one sender on one chain are a queue. A store is `Contiguous` if every queue is
numbered from zero without a gap. A batch whose nonces nowhere lie beyond the end of their queue
(`Follows`) keeps it so: a nonce below the end is taken, and the batch is refused for it
(`contiguous_saveTasks`).

So it does not matter when the end of a queue was looked up. Queues only grow, and a nonce
that was the next one once is never beyond the end later.
-/

namespace Treasury

/-- A queue as the columns of a row name it. -/
abbrev QueueKey := Cell × String

/-- The columns that name a queue. -/
def Queue.key (queue : Queue) : QueueKey := (.int queue.1.toNat, queue.2.toText)

/-- The queue that a row stands in. -/
def TaskRow.queueKey (row : TaskRow) : QueueKey := (row.chainId, row.sender)

namespace Store

/-- The nonces of a queue, in the order in which they were written. -/
def queueNonces (s : Store) (key : QueueKey) : List Cell :=
  (s.tasks.rows.filter fun row => row.queueKey = key).map (·.nonce)

/-- How many rows stand in a queue. -/
def queueLength (s : Store) (key : QueueKey) : Nat := (s.queueNonces key).length

/-- The nonces from zero up to below `k`, as a column holds them. -/
def firstNonces (k : Nat) : List Cell := (List.range k).map fun n : Nat => Cell.int n

/-- Every queue is numbered from zero without a gap. -/
def Contiguous (s : Store) : Prop :=
  ∀ key : QueueKey, s.queueNonces key = firstNonces (s.queueLength key)

theorem mem_firstNonces {k n : Nat} : Cell.int n ∈ firstNonces k ↔ n < k := by
  unfold firstNonces
  constructor
  · intro h
    obtain ⟨m, hm, he⟩ := List.mem_map.mp h
    have := List.mem_range.mp hm
    have := Cell.int.inj he
    omega
  · intro h
    exact List.mem_map.mpr ⟨n, List.mem_range.mpr h, rfl⟩

theorem contiguous_of_no_rows {s : Store} (h : s.tasks.rows = []) : s.Contiguous := by
  intro key
  simp [queueNonces, queueLength, firstNonces, h]

theorem queueNonces_congr {s s' : Store} (h : s'.tasks = s.tasks) (key : QueueKey) :
    s'.queueNonces key = s.queueNonces key := by
  unfold queueNonces
  rw [h]

/-- A store with the same queues is contiguous as well, and no queue is shorter. -/
theorem Contiguous.congr {s s' : Store} (h : s.Contiguous)
    (hq : ∀ key, s'.queueNonces key = s.queueNonces key) :
    s'.Contiguous ∧ ∀ key, s.queueLength key ≤ s'.queueLength key := by
  refine ⟨fun key => ?_, fun key => ?_⟩
  · unfold queueLength
    rw [hq]
    exact h key
  · exact Nat.le_of_eq (congrArg List.length (hq key).symm)

/-- The pipeline moves no queue. -/
theorem queueNonces_setTask (s : Store) (id : Int) (state : TransactionState)
    (message : String) (hash : Option TransactionHash) (key : QueueKey) :
    (s.setTask id state message hash).queueNonces key = s.queueNonces key :=
  s.filter_map_setTask id (fun _ => rfl) (fun _ => rfl)

theorem nonces_eq_queueNonces (s : Store) (chainId : Int) (sender : Address) :
    s.nonces chainId sender = s.queueNonces (.int chainId, sender.toText) := by
  unfold nonces queueNonces TaskRow.queueKey
  simp only [Prod.mk.injEq]

/-! ## Writing a row -/

theorem queueNonces_withTask (s : Store) (p : Prepared) (id : Int) (key : QueueKey) :
    (s.withTask p id).queueNonces key =
      s.queueNonces key ++ if p.draft.queue.key = key then [.int p.gas.nonce.toNat] else [] := by
  have hkey : (p.rowAt id).queueKey = p.draft.queue.key := rfl
  unfold queueNonces withTask Table.push
  rw [List.filter_append, List.map_append, List.filter_singleton, hkey]
  by_cases h : p.draft.queue.key = key <;> simp [h, Prepared.rowAt]

theorem queueLength_withTask (s : Store) (p : Prepared) (id : Int) (key : QueueKey) :
    (s.withTask p id).queueLength key =
      s.queueLength key + if p.draft.queue.key = key then 1 else 0 := by
  unfold queueLength
  rw [queueNonces_withTask]
  split <;> simp

/-- A nonce that a queue holds is refused. -/
theorem nonce_not_mem_of_checkNonce {s : Store} {row : TaskRow} (h : s.checkNonce row = .ok ()) :
    row.nonce ∉ s.queueNonces row.queueKey := by
  intro hmem
  obtain ⟨r, hr, hn⟩ := List.mem_map.mp hmem
  obtain ⟨hrows, hkey⟩ := List.mem_filter.mp hr
  have hkey : r.queueKey = row.queueKey := of_decide_eq_true hkey
  obtain ⟨hchain, hsender⟩ := Prod.mk.inj hkey
  have hany : s.tasks.rows.any row.sameNonce = true :=
    List.any_eq_true.mpr ⟨r, hrows, by simp [TaskRow.sameNonce, hchain, hsender, hn]⟩
  unfold checkNonce at h
  rw [if_pos hany] at h
  exact absurd h (by simp)

/-- A nonce not beyond the end of its queue is written only if it is the next one. -/
theorem nonce_eq_of_saveTask {s s' : Store} {p : Prepared} {id : Int} (hs : s.Contiguous)
    (hle : p.gas.nonce.toNat ≤ s.queueLength p.draft.queue.key)
    (h : s.saveTask p = .ok (s', id)) :
    p.gas.nonce.toNat = s.queueLength p.draft.queue.key := by
  obtain ⟨_, _, _, hcheck, _⟩ := saveTask_eq_ok.1 h
  have hfree : Cell.int p.gas.nonce.toNat ∉ s.queueNonces p.draft.queue.key :=
    nonce_not_mem_of_checkNonce hcheck
  -- every nonce below the length is taken
  rw [hs, mem_firstNonces] at hfree
  omega

theorem contiguous_saveTask {s s' : Store} {p : Prepared} {id : Int} (hs : s.Contiguous)
    (hle : p.gas.nonce.toNat ≤ s.queueLength p.draft.queue.key)
    (h : s.saveTask p = .ok (s', id)) : s'.Contiguous := by
  have hnext := nonce_eq_of_saveTask hs hle h
  obtain ⟨_, _, _, _, rfl⟩ := saveTask_eq_ok.1 h
  intro key
  rw [queueNonces_withTask, queueLength_withTask, hs key]
  by_cases hkey : p.draft.queue.key = key
  · subst hkey
    rw [if_pos rfl, if_pos rfl, hnext, firstNonces, firstNonces, List.range_succ, List.map_append]
    rfl
  · simp [hkey]

/-! ## Writing a batch -/

/-- `reached` with one queue a row longer than `nonce`, if it was not longer before. -/
def extend (reached : QueueKey → Nat) (key : QueueKey) (nonce : Nat) : QueueKey → Nat :=
  fun other => if other = key then max (reached other) (nonce + 1) else reached other

/-- No nonce of a batch lies beyond the end of its queue, where the queues are as long as
`reached` says and grow with the batch. -/
def Follows (reached : QueueKey → Nat) : List Prepared → Prop
  | [] => True
  | p :: rest =>
    p.gas.nonce.toNat ≤ reached p.draft.queue.key
      ∧ Follows (extend reached p.draft.queue.key p.gas.nonce.toNat) rest

theorem extend_mono {f g : QueueKey → Nat} (h : ∀ key, f key ≤ g key) (key : QueueKey)
    (nonce : Nat) : ∀ other, extend f key nonce other ≤ extend g key nonce other := by
  intro other
  have := h other
  unfold extend
  split <;> omega

theorem le_extend (f : QueueKey → Nat) (key : QueueKey) (nonce : Nat) (other : QueueKey) :
    f other ≤ extend f key nonce other := by
  unfold extend
  split <;> omega

/-- **Longer queues do no harm.** -/
theorem Follows.mono {f g : QueueKey → Nat} {batch : List Prepared} (h : Follows f batch)
    (hle : ∀ key, f key ≤ g key) : Follows g batch := by
  induction batch generalizing f g with
  | nil => trivial
  | cons p rest ih =>
    exact ⟨Nat.le_trans h.1 (hle _), ih h.2 (extend_mono hle _ _)⟩

/-- **A batch that follows keeps a store contiguous, if it is written at all.** -/
theorem contiguous_saveTasks {s s' : Store} {batch : List Prepared} {ids : List Int}
    (hs : s.Contiguous) (hb : Follows s.queueLength batch)
    (h : s.saveTasks batch = .ok (s', ids)) : s'.Contiguous := by
  -- on the batch; what is written of it makes its queue as long as the rest takes it to be
  induction batch generalizing s ids with
  | nil =>
    cases h
    exact hs
  | cons p rest ih =>
    obtain ⟨next, id, ids', hp, hrest, rfl⟩ := saveTasks_cons_eq_ok.1 h
    refine ih (contiguous_saveTask hs hb.1 hp) ?_ hrest
    have hnext := nonce_eq_of_saveTask hs hb.1 hp
    obtain ⟨_, _, _, _, rfl⟩ := saveTask_eq_ok.1 hp
    refine hb.2.mono fun key => ?_
    rw [queueLength_withTask]
    unfold extend
    by_cases hkey : key = p.draft.queue.key
    · rw [if_pos hkey, if_pos hkey.symm, hnext, hkey]
      omega
    · rw [if_neg hkey]
      omega

/-- Queues never get shorter by writing. -/
theorem queueLength_le_saveTasks {s s' : Store} {batch : List Prepared} {ids : List Int}
    (h : s.saveTasks batch = .ok (s', ids)) (key : QueueKey) :
    s.queueLength key ≤ s'.queueLength key := by
  unfold queueLength queueNonces
  rw [(saveTasks_rows h).1, List.filter_append, List.map_append, List.length_append]
  omega

/-! ## Looking up the end of a queue -/

theorem max?_firstNonces (k : Nat) :
    Cell.max? (firstNonces k) = if k = 0 then none else some (.int (k - 1 : Nat)) := by
  have hcells : firstNonces k = ((List.range k).map fun n : Nat => (n : Int)).map Cell.int := by
    simp [firstNonces]
  rw [hcells, Cell.max?_map_int]
  split
  · rename_i h
    rw [h]
    rfl
  · rename_i h
    have hmax : ((List.range k).map fun n : Nat => (n : Int)).max? =
        some ((k - 1 : Nat) : Int) := by
      rw [List.max?_eq_some_iff]
      refine ⟨List.mem_map.mpr ⟨k - 1, List.mem_range.mpr (by omega), rfl⟩, ?_⟩
      intro n hn
      obtain ⟨m, hm, rfl⟩ := List.mem_map.mp hn
      have := List.mem_range.mp hm
      omega
    rw [hmax]
    rfl

/-- The highest nonce of a queue is one less than its length. -/
theorem highestNonce_eq_ok {s : Store} {queue : Queue} {highest : Option UInt64}
    (hs : s.Contiguous) :
    s.highestNonce queue.1 queue.2 = .ok highest ↔
      queue.1.toNat ≤ maxColumn
        ∧ highest = if s.queueLength queue.key = 0 then none
          else some (UInt64.ofNat (s.queueLength queue.key - 1)) := by
  have hn : s.nonces queue.1.toNat queue.2 = firstNonces (s.queueLength queue.key) := by
    rw [nonces_eq_queueNonces]
    exact hs queue.key
  unfold highestNonce
  rw [bind_eq_ok]
  simp only [columnOfWord_eq_ok, and_assoc, exists_and_left, exists_eq_left, hn, max?_firstNonces]
  refine and_congr_right fun _ => ?_
  by_cases hz : s.queueLength queue.key = 0
  · simp [hz, pure, Except.pure, eq_comm]
  · simp [hz, Cell.read, StoreError.ofColumn, wordOfColumn, bind, Except.bind, pure, Except.pure,
      eq_comm]

/-- **What is looked up is not beyond the end of the queue.** -/
theorem freshNonce_le {s : Store} {queue : Queue} {nonce : UInt64} (hs : s.Contiguous)
    (h : s.freshNonce queue = .ok nonce) : nonce.toNat ≤ s.queueLength queue.key := by
  unfold freshNonce at h
  split at h
  · exact absurd h (by simp)
  · cases h
    exact Nat.zero_le _
  · rename_i highest hh
    obtain ⟨_, hlen⟩ := (highestNonce_eq_ok hs).1 hh
    split at hlen
    · exact absurd hlen (by simp)
    · cases hlen
      split at h
      · cases h
        have hle : (UInt64.ofNat (s.queueLength queue.key - 1)).toNat
            ≤ s.queueLength queue.key - 1 := by
          rw [UInt64.toNat_ofNat']
          exact Nat.mod_le _ _
        rw [UInt64.toNat_add, UInt64.toNat_one]
        have := Nat.mod_le ((UInt64.ofNat (s.queueLength queue.key - 1)).toNat + 1) (2 ^ 64)
        omega
      · exact absurd h (by simp)

end Store

end Treasury
