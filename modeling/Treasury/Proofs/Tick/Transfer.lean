import Treasury.Proofs.Store.Leases
import Treasury.Proofs.Tick.Events

/-!
# What a phase of a transfer tick does

The same for transfer ticks as for workflow ticks: `Advances` has a case for each thing that a
phase can do, and there is no other (`advances_step`).
-/

namespace Treasury.TransferTick

/-- A phase leads from one store to the next, to the next phase and to what can be seen. -/
inductive Advances (gas : GasAssigner) (chains : Chains) (s : Store) :
    Phase → Store × Phase × List Event → Prop where
  /-- The lease is free, or has been taken away from somebody. -/
  | acquire (lease : Lease) (leases : List LeaseRow) (events : List Event) :
    (∀ event ∈ events, event.IsLogged) →
    Advances gas chains s .waiting ({ s with leases := leases }, .holding lease, events)
  /-- Somebody else holds the lease. -/
  | leaseHeld (leases : List LeaseRow) (events : List Event) :
    (∀ event ∈ events, event.IsLogged) →
    Advances gas chains s .waiting ({ s with leases := leases }, .done (.ok .leaseHeld), events)
  /-- No task can be loaded, or there is nothing to do. -/
  | pass (lease : Lease) (result : TransferResult) (events : List Event) :
    (∀ event ∈ events, event.IsLogged) →
    Advances gas chains s (.holding lease) (s, .releasing lease result, events)
  /-- The oldest open task is new. -/
  | submit (lease : Lease) (t : TransferTask) (rest : List TransferTask) (events : List Event) :
    s.findOpenTransfers = .ok (t :: rest) → t.state = .init →
    (∀ event ∈ events, event.IsLogged) →
    Advances gas chains s (.holding lease) (s, .submitting lease t, events)
  /-- The oldest open task has been submitted. -/
  | poll (lease : Lease) (t : TransferTask) (rest : List TransferTask) (events : List Event) :
    s.findOpenTransfers = .ok (t :: rest) → t.state = .ongoing →
    (∀ event ∈ events, event.IsLogged) →
    Advances gas chains s (.holding lease) (s, .polling lease t, events)
  /-- Nonces and gas are found. -/
  | prepare (lease : Lease) (t : TransferTask) (batch : List Prepared) :
    gas.assign chains s t.drafts = .ok batch →
    Advances gas chains s (.submitting lease t) (s, .prepared lease t batch, [])
  /-- Nonces or gas cannot be found. -/
  | unprepared (lease : Lease) (t : TransferTask) (cause : AssignError) :
    Advances gas chains s (.submitting lease t) (s, .releasing lease (.error (.assign cause)), [])
  /-- The transactions are stored together with the move of the task. -/
  | save (lease : Lease) (t : TransferTask) (batch : List Prepared) (next : Store) :
    commit s t batch = .ok next →
    Advances gas chains s (.prepared lease t batch)
      (next, .releasing lease (.ok (.submitted t.id batch.length)), [])
  /-- The transactions cannot be stored, or the task has moved. -/
  | unsaved (lease : Lease) (t : TransferTask) (batch : List Prepared) (cause : StoreError) :
    Advances gas chains s (.prepared lease t batch)
      (s, .releasing lease (.error (.store cause)), [])
  /-- The transactions are loaded and tallied. -/
  | tally (lease : Lease) (t : TransferTask) (tasks : List Task) :
    s.findTasks t.owner t.type.transactionType = .ok tasks →
    Advances gas chains s (.polling lease t) (s, .tallied lease t (Progress.ofTasks tasks), [])
  /-- The transactions cannot be loaded. -/
  | misread (lease : Lease) (t : TransferTask) (cause : StoreError) :
    Advances gas chains s (.polling lease t) (s, .releasing lease (.error (.store cause)), [])
  /-- The tally is stored. -/
  | settle (lease : Lease) (t : TransferTask) (progress : Progress) (next : Store) :
    s.updateTransfer t.state (t.tallied progress) = .ok next →
    Advances gas chains s (.tallied lease t progress)
      (next, .releasing lease (.ok (.polled t.id (TransferTask.stateOf progress) progress)), [])
  /-- The tally comes too late. -/
  | refuse (lease : Lease) (t : TransferTask) (progress : Progress) (cause : StoreError) :
    Advances gas chains s (.tallied lease t progress)
      (s, .releasing lease (.error (.store cause)), [])
  /-- The lease is given back, or was taken away. -/
  | release (lease : Lease) (result : TransferResult) (leases : List LeaseRow)
    (events : List Event) :
    (∀ event ∈ events, event.IsLogged) →
    Advances gas chains s (.releasing lease result)
      ({ s with leases := leases }, .done result, events)
  /-- Nothing is left to do. -/
  | rest (result : TransferResult) :
    Advances gas chains s (.done result) (s, .done result, [])

/-- The task that a tick works on. -/
def Phase.task? : Phase → Option TransferTask
  | submitting _ t | prepared _ t _ | polling _ t | tallied _ t _ => some t
  | _ => none

/-- All that can be seen of a transfer tick is in the log. -/
theorem Advances.isLogged {gas : GasAssigner} {chains : Chains} {s next : Store}
    {phase phase' : Phase} {events : List Event}
    (h : Advances gas chains s phase (next, phase', events)) :
    ∀ event ∈ events, event.IsLogged := by
  cases h with
  | acquire lease leases events hevents => exact hevents
  | leaseHeld leases events hevents => exact hevents
  | pass lease result events hevents => exact hevents
  | submit lease t rest events _ _ hevents => exact hevents
  | poll lease t rest events _ _ hevents => exact hevents
  | release lease result leases events hevents => exact hevents
  | _ => exact Event.isLogged_nil

theorem advances_acquire (gas : GasAssigner) (chains : Chains) (turn : Turn) (s : Store) :
    Advances gas chains s .waiting (acquire turn s) := by
  obtain ⟨leases, hframe⟩ := s.acquireLease_frame .assetTransfer turn.holder turn.now
  unfold acquire
  dsimp only
  rw [hframe]
  split
  · exact .acquire _ leases _ (WorkflowTick.isLogged_acquireEvents _)
  · exact .leaseHeld leases _ (WorkflowTick.isLogged_acquireEvents _)

theorem advances_dispatch {gas : GasAssigner} {chains : Chains} {s : Store} (lease : Lease)
    {t : TransferTask} {rest : List TransferTask} {events : List Event}
    (h : s.findOpenTransfers = .ok (t :: rest)) (hevents : ∀ event ∈ events, event.IsLogged) :
    Advances gas chains s (.holding lease) (s, dispatch lease t, events) := by
  unfold dispatch
  split
  · rename_i hs
    exact .submit lease t rest events h hs hevents
  · rename_i hs
    exact .poll lease t rest events h hs hevents
  · exact .pass _ _ _ hevents
  · exact .pass _ _ _ hevents

theorem advances_load (gas : GasAssigner) (chains : Chains) (s : Store) (lease : Lease) :
    Advances gas chains s (.holding lease) (s, load lease s) := by
  have hevents := isLogged_load lease s
  unfold load at hevents ⊢
  split at hevents
  · exact .pass _ _ _ hevents
  · exact .pass _ _ _ hevents
  · rename_i h
    exact advances_dispatch lease h hevents
  · rename_i h
    exact advances_dispatch lease h hevents

/-- **Every phase advances in one of these ways.** -/
theorem advances_step (gas : GasAssigner) (chains : Chains) (turn : Turn) (s : Store)
    (p : Phase) : Advances gas chains s p (step gas chains turn s p) := by
  cases p with
  | waiting => exact advances_acquire gas chains turn s
  | holding lease => exact advances_load gas chains s lease
  | submitting lease t =>
    unfold step prepare
    dsimp only
    split
    · exact .unprepared _ _ _
    · rename_i batch hb
      exact .prepare lease t batch hb
  | prepared lease t batch =>
    unfold step save
    dsimp only
    split
    · exact .unsaved _ _ _ _
    · rename_i next hc
      exact .save lease t batch next hc
  | polling lease t =>
    unfold step tally
    dsimp only
    split
    · exact .misread _ _ _
    · rename_i tasks ht
      exact .tally lease t tasks ht
  | tallied lease t progress =>
    unfold step settle
    dsimp only
    split
    · exact .refuse _ _ _ _
    · rename_i next hu
      exact .settle lease t progress next hu
  | releasing lease result => exact .release lease result _ _ (WorkflowTick.isLogged_releaseEvents _)
  | done result => exact .rest result

/-! ## Carrying out what is left -/

theorem run_of_result {gas : GasAssigner} {chains : Chains} {turn : Turn} {s : Store}
    {p : Phase}
    {result : TransferResult} (h : p.result? = some result) :
    run gas chains turn s p = (s, result, []) := by
  rw [run]
  split
  · rename_i heq
    cases h.symm.trans heq
    rfl
  · rename_i heq
    exact absurd (h.symm.trans heq) (by simp)

theorem run_of_step {gas : GasAssigner} {chains : Chains} {turn : Turn} {s : Store}
    {p : Phase} (h : p.result? = none) :
    run gas chains turn s p =
      ((run gas chains turn (step gas chains turn s p).1 (step gas chains turn s p).2.1).1,
        (run gas chains turn (step gas chains turn s p).1 (step gas chains turn s p).2.1).2.1,
        (step gas chains turn s p).2.2 ++
          (run gas chains turn (step gas chains turn s p).1
            (step gas chains turn s p).2.1).2.2) := by
  rw [run]
  split
  · rename_i heq
    exact absurd (h.symm.trans heq) (by simp)
  · rfl

end Treasury.TransferTick
