import Treasury.Proofs.Gas
import Treasury.Proofs.World.Basic

/-!
# No nonce is used twice, and none is left out

Ticks of the two kinds hold different leases, and a tick looks up the ends of its queues long
before it writes its batch. What makes this safe is that queues have no gaps: a batch planned
on an old end of a queue starts with a nonce that is taken by now, and is refused as a whole.

The invariant therefore has three parts, which need each other: every store there has been is
contiguous, queues have only grown, and the batch that a tick is about to write follows.
-/

namespace Treasury

/-- The batch that a tick is about to write. -/
def Tick.batch : Tick → List Prepared
  | .workflow _ _ (.executing _ _ (.prepared _ batch)) => batch
  | .transfer _ _ (.prepared _ _ batch) => batch
  | _ => []

/-! ## What a phase means for queues -/

/-- A phase writes the batch of its tick or no transaction at all. -/
theorem Tick.Advances.tasks {fresh : Queue → Except AssignError UInt64} {s next : Store}
    {tick tick' : Tick} {events : List Event} (h : Advances fresh s tick (next, tick', events)) :
    next.tasks = s.tasks
      ∨ ∃ saved ids, s.saveTasks tick.batch = .ok (saved, ids) ∧ next.tasks = saved.tasks := by
  cases h with
  | workflow h =>
    cases h with
    | skip lease id w next hu => exact .inl (Store.updateWorkflow_tasks hu)
    | save lease id w batch next hc =>
      obtain ⟨⟨saved, ids⟩, hsave, hu⟩ := bind_eq_ok.1 hc
      exact .inr ⟨saved, ids, hsave, Store.updateWorkflow_tasks hu⟩
    | settle lease w check next hu => exact .inl (Store.updateWorkflow_tasks hu)
    | _ => exact .inl rfl
  | transfer h =>
    cases h with
    | save lease t batch next hc =>
      obtain ⟨⟨saved, ids⟩, hsave, hu⟩ := bind_eq_ok.1 hc
      exact .inr ⟨saved, ids, hsave, (Store.updateTransfer_frame hu).2⟩
    | settle lease t progress next hu => exact .inl ((Store.updateTransfer_frame hu).2)
    | _ => exact .inl rfl

/-- A tick that is about to write has just prepared its batch. -/
theorem Tick.Advances.batch {fresh : Queue → Except AssignError UInt64} {s next : Store}
    {tick tick' : Tick} {events : List Event} (h : Advances fresh s tick (next, tick', events)) :
    tick'.batch = []
      ∨ ∃ chains drafts, GasAssigner.assignFrom fresh chains [] drafts = .ok tick'.batch := by
  cases h with
  | @workflow desk _ _ _ _ _ h =>
    cases h with
    | prepare lease id w drafts batch _ hb => exact .inr ⟨desk.chains, drafts, hb⟩
    | _ => exact .inl rfl
  | @transfer chains _ _ _ _ _ h =>
    cases h with
    | prepare lease t batch hb => exact .inr ⟨chains, t.drafts, hb⟩
    | _ => exact .inl rfl

namespace World

/-! ## What a move means for queues -/

/-- Queues stay what they are, or a tick writes its batch. -/
theorem queues_of_writes {w : World} {next : Store} (h : Writes w next) :
    (∀ key, next.queueNonces key = w.store.queueNonces key)
      ∨ ∃ tick ∈ w.ticks, ∃ saved ids, w.store.saveTasks tick.batch = .ok (saved, ids)
        ∧ next.tasks = saved.tasks := by
  cases h with
  | rest => exact .inl fun _ => rfl
  | openWorkflow h => exact .inl (Store.queueNonces_congr (Store.insertWorkflow_tasks h))
  | updateWorkflow h => exact .inl (Store.queueNonces_congr (Store.updateWorkflow_tasks h))
  | createTransfer h => exact .inl (Store.queueNonces_congr (Store.insertTransfer_frame h).2)
  | updateTransfer h => exact .inl (Store.queueNonces_congr (Store.updateTransfer_frame h).2)
  | setTask id state message hash =>
    exact .inl (w.store.queueNonces_setTask id state message hash)
  | @advance tick _ _ _ _ htick h =>
    rcases h.tasks with h | ⟨saved, ids, hsave, h⟩
    · exact .inl (Store.queueNonces_congr h)
    · exact .inr ⟨tick, htick, saved, ids, hsave, h⟩

/-- A tick is an old one, is not about to write, or has just looked up its queues. -/
theorem batch_of_arises {w : World} {tick : Tick} (h : Arises w tick) :
    tick ∈ w.ticks ∨ tick.batch = []
      ∨ ∃ ago : Queue → Nat, ∃ chains drafts,
        GasAssigner.assignFrom (fun queue => (w.storeAgo (ago queue)).freshNonce queue) chains []
          drafts = .ok tick.batch := by
  cases h with
  | old h => exact .inl h
  | newWorkflow desk turn => exact .inr (.inl rfl)
  | newTransfer chains turn => exact .inr (.inl rfl)
  | @advance _ _ ago _ _ _ h =>
    rcases h.batch with h | ⟨chains, drafts, h⟩
    · exact .inr (.inl h)
    · exact .inr (.inr ⟨ago, chains, drafts, h⟩)

/-! ## The invariant -/

/-- Queues are contiguous and only grow, and whoever is about to write follows. -/
structure QueueInv (w : World) : Prop where
  /-- Every store there has been is contiguous. -/
  contiguous : ∀ s ∈ w.store :: w.past, s.Contiguous
  /-- No queue has ever been longer than it is now. -/
  grows : ∀ s ∈ w.store :: w.past, ∀ key, s.queueLength key ≤ w.store.queueLength key
  /-- No batch that is about to be written has a nonce beyond the end of its queue. -/
  follows : ∀ tick ∈ w.ticks, Store.Follows w.store.queueLength tick.batch

theorem queueInv_start {s : Store} (h : s.tasks.rows = []) : QueueInv (start s) where
  contiguous := by
    intro s' hs
    rw [List.mem_singleton.mp hs]
    exact Store.contiguous_of_no_rows h
  grows := by
    intro s' hs key
    obtain rfl := List.mem_singleton.mp hs
    exact Nat.le_refl _
  follows := by intro tick h; simp [start] at h

/-- Wherever in the past a queue was looked up, its end has not moved back since. -/
theorem QueueInv.freshNonce_le {w : World} (h : QueueInv w) {n : Nat} {queue : Queue}
    {nonce : UInt64} (hf : (w.storeAgo n).freshNonce queue = .ok nonce) :
    nonce.toNat ≤ w.store.queueLength queue.key :=
  Nat.le_trans (Store.freshNonce_le (h.contiguous _ (w.storeAgo_mem n)) hf)
    (h.grows _ (w.storeAgo_mem n) queue.key)

/-- A move leaves the store contiguous, and no queue gets shorter. -/
theorem contiguous_of_writes {w : World} (h : QueueInv w) {next : Store} (hw : Writes w next) :
    next.Contiguous ∧ ∀ key, w.store.queueLength key ≤ next.queueLength key := by
  have hstore : w.store.Contiguous := h.contiguous _ List.mem_cons_self
  rcases queues_of_writes hw with hq | ⟨tick, htick, saved, ids, hsave, htasks⟩
  · exact hstore.congr hq
  · -- a batch that does not follow any more is not written
    have hsaved := Store.contiguous_saveTasks hstore (h.follows tick htick) hsave
    obtain ⟨hnext, hle⟩ := hsaved.congr (Store.queueNonces_congr htasks)
    exact ⟨hnext, fun key => Nat.le_trans (Store.queueLength_le_saveTasks hsave key) (hle key)⟩

/-- **The invariant is preserved by every move.** -/
theorem queueInv_after {w : World} (h : QueueInv w) (move : Move) : QueueInv (w.after move) := by
  have hnext := contiguous_of_writes h (w.writes_after move)
  have hgrows : ∀ s ∈ w.store :: w.past, ∀ key,
      s.queueLength key ≤ (w.after move).store.queueLength key :=
    fun s hs key => Nat.le_trans (h.grows s hs key) (hnext.2 key)
  refine ⟨?_, ?_, ?_⟩
  · intro s hs
    rcases List.mem_cons.mp hs with rfl | hs
    · exact hnext.1
    · exact h.contiguous s (w.past_after move ▸ hs)
  · intro s hs key
    rcases List.mem_cons.mp hs with rfl | hs
    · exact Nat.le_refl _
    · exact hgrows s (w.past_after move ▸ hs) key
  · intro tick htick
    rcases batch_of_arises (w.arises_after move tick htick) with
      hold | hnone | ⟨ago, chains, drafts, hb⟩
    · exact (h.follows tick hold).mono hnext.2
    · rw [hnone]
      trivial
    · -- the queues were looked up in stores of the past, and are at least as long by now
      have hfresh : ∀ queue nonce,
          GasAssigner.nonceFor (fun queue => (w.storeAgo (ago queue)).freshNonce queue) [] queue
            = .ok nonce → nonce.toNat ≤ w.store.queueLength queue.key := by
        intro queue nonce hf
        exact h.freshNonce_le (n := ago queue) hf
      exact (GasAssigner.follows_of_assignFrom hfresh hb).mono hnext.2

theorem queueInv_run {w : World} (h : QueueInv w) (moves : List Move) :
    QueueInv (w.run moves) := by
  induction moves generalizing w with
  | nil => exact h
  | cons move moves ih => exact ih (queueInv_after h move)

/--
**Nonces are used once each, and without a gap.**

Whatever workflows and transfer tasks there are at first, and whoever does what in whichever
order from then on: as long as no transactions were there at first, the nonces of each sender
on each chain are zero, one, two and so on, in the order in which the rows were written.
-/
theorem queueNonces_run (s : Store) (last : Int) (moves : List Move) (key : QueueKey) :
    ∃ k : Nat, ((start { s with tasks := ⟨[], last⟩ }).run moves).store.queueNonces key =
      (List.range k).map fun n : Nat => Cell.int n := by
  have hinv := queueInv_run (queueInv_start (s := { s with tasks := ⟨[], last⟩ }) rfl) moves
  exact ⟨_, hinv.contiguous _ List.mem_cons_self key⟩

end World

end Treasury
