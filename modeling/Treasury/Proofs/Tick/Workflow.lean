import Treasury.Proofs.Store.Leases
import Treasury.Proofs.Tick.Events

/-!
# What a phase of a workflow tick does

`Advances` says once what a phase can do: what it needs to have found, what it writes and where
it leads. Every argument about overlapping ticks goes by its cases (`advances_step`).
-/

namespace Treasury.WorkflowTick

/-- A tick with this result has not worked on a workflow, or has failed. -/
def Idles : TickResult → Prop
  | .ok (.executed _ _) | .ok (.polled _ _ _ _) => False
  | _ => True

/-- A phase leads from one store to the next, to the next phase and to what can be seen. -/
inductive Advances (desk : Desk) (s : Store) :
    Phase → Store × Phase × List Event → Prop where
  /-- The lease is free, or has been taken away from somebody. -/
  | acquire (lease : Lease) (leases : List LeaseRow) (events : List Event) :
    (∀ event ∈ events, event.IsLogged) →
    Advances desk s .waiting ({ s with leases := leases }, .holding lease, events)
  /-- Somebody else holds the lease. -/
  | leaseHeld (leases : List LeaseRow) (events : List Event) :
    (∀ event ∈ events, event.IsLogged) →
    Advances desk s .waiting ({ s with leases := leases }, .done (.ok .leaseHeld), events)
  /-- No workflow can be loaded, or there is nothing to do with it. -/
  | pass (lease : Lease) (result : TickResult) (events : List Event) :
    Idles result → (∀ event ∈ events, event.IsLogged) →
    Advances desk s (.holding lease) (s, .releasing lease result, events)
  /-- The oldest open workflow is in its first state. -/
  | enter (lease : Lease) (w : Workflow) (rest : List Workflow) (events : List Event) :
    s.findOpenWorkflows = .ok (w :: rest) → w.state = .init →
    (∀ event ∈ events, event.IsLogged) →
    Advances desk s (.holding lease) (s, .executing lease w.id (.entering w), events)
  /-- The oldest open workflow is in the stage. -/
  | check (lease : Lease) (w : Workflow) (rest : List Workflow) (events : List Event) :
    s.findOpenWorkflows = .ok (w :: rest) → w.state = .claimLp →
    (∀ event ∈ events, event.IsLogged) →
    Advances desk s (.holding lease) (s, .checking lease w, events)
  /-- The provider reports nothing. -/
  | nothing (lease : Lease) (id : Int) (w : Workflow) (snapshot : Snapshot) :
    desk.liquidity = .ok snapshot → Claim.plan desk w.id snapshot = .ok none →
    Advances desk s (.executing lease id (.entering w))
      (s, .releasing lease (.ok (.executed id .nothingToDo)), [])
  /-- The claims of the report are drafted. -/
  | draft (lease : Lease) (id : Int) (w : Workflow) (snapshot : Snapshot) (drafts : List Draft) :
    desk.liquidity = .ok snapshot → Claim.plan desk w.id snapshot = .ok (some drafts) →
    Advances desk s (.executing lease id (.entering w))
      (s, .executing lease id (.drafted w drafts), [])
  /-- There is nothing to claim, and the workflow moves on without transactions. -/
  | skip (lease : Lease) (id : Int) (w : Workflow) (next : Store) :
    s.updateWorkflow w.state (Claim.advancedEmpty w) = .ok next →
    Advances desk s (.executing lease id (.drafted w []))
      (next, .releasing lease (.ok (.executed id (.advanced 0))), [])
  /-- Nonces and gas are found. -/
  | prepare (lease : Lease) (id : Int) (w : Workflow) (drafts : List Draft)
    (batch : List Prepared) :
    drafts ≠ [] → desk.gas.assign desk.chains s drafts = .ok batch →
    Advances desk s (.executing lease id (.drafted w drafts))
      (s, .executing lease id (.prepared w batch), [])
  /-- The transactions are stored together with the move of the workflow. -/
  | save (lease : Lease) (id : Int) (w : Workflow) (batch : List Prepared) (next : Store) :
    Claim.commit s w batch = .ok next →
    Advances desk s (.executing lease id (.prepared w batch))
      (next, .executing lease id (.announcing (Claim.createdAlert w batch) batch.length), [])
  /-- The transactions are reported. -/
  | report (lease : Lease) (id : Int) (alert : StageAlert) (transactions : Nat) :
    Advances desk s (.executing lease id (.announcing alert transactions))
      (s, .releasing lease (.ok (.executed id (.advanced transactions))),
        alert.publish desk.notifier desk.recipients)
  /-- The stage cannot be entered. -/
  | fail (lease : Lease) (id : Int) (phase : Claim.Phase) (cause : StageError)
    (events : List Event) :
    (∀ alert transactions, phase ≠ .announcing alert transactions) →
    (∀ event ∈ events, event.IsLogged) →
    Advances desk s (.executing lease id phase)
      (s, .releasing lease (.error (.stage id .claimLp cause)), events)
  /-- Entering the stage is over already. -/
  | leave (lease : Lease) (id : Int) (outcome : ExecuteOutcome) :
    Advances desk s (.executing lease id (.finished (.ok outcome)))
      (s, .releasing lease (.ok (.executed id outcome)), [])
  /-- The tasks are loaded and judged. -/
  | judge (lease : Lease) (w : Workflow) (check : StageCheck) :
    Claim.check s w = .ok check →
    Advances desk s (.checking lease w)
      (s, .judged lease w check, Claim.verdictEvents check)
  /-- The tasks cannot be loaded. -/
  | misread (lease : Lease) (w : Workflow) (cause : StoreError) :
    Advances desk s (.checking lease w)
      (s, .releasing lease (.error (.stage w.id .claimLp (.store cause))), [])
  /-- The verdict is stored. -/
  | settle (lease : Lease) (w : Workflow) (check : StageCheck) (next : Store) :
    s.updateWorkflow w.state (settled w check) = .ok next →
    Advances desk s (.judged lease w check)
      (next, .announcing lease check.alert
        (.polled w.id w.state check.nextState check.progress), [])
  /-- The verdict comes too late. -/
  | refuse (lease : Lease) (w : Workflow) (check : StageCheck) (cause : StoreError) :
    Advances desk s (.judged lease w check) (s, .releasing lease (.error (.store cause)), [])
  /-- The verdict is reported, if it is one to report. -/
  | announce (lease : Lease) (alert : Option StageAlert) (outcome : TickOutcome) :
    Advances desk s (.announcing lease alert outcome)
      (s, .releasing lease (.ok outcome),
        (alert.map (·.publish desk.notifier desk.recipients)).getD [])
  /-- The lease is given back, or was taken away. -/
  | release (lease : Lease) (result : TickResult) (leases : List LeaseRow)
    (events : List Event) :
    (∀ event ∈ events, event.IsLogged) →
    Advances desk s (.releasing lease result) ({ s with leases := leases }, .done result, events)
  /-- Nothing is left to do. -/
  | rest (result : TickResult) : Advances desk s (.done result) (s, .done result, [])

theorem advances_acquire (desk : Desk) (turn : Turn) (s : Store) :
    Advances desk s .waiting (acquire turn s) := by
  obtain ⟨leases, hframe⟩ := s.acquireLease_frame .orchestrator turn.holder turn.now
  unfold acquire
  dsimp only
  rw [hframe]
  split
  · exact .acquire _ leases _ (isLogged_acquireEvents _)
  · exact .leaseHeld leases _ (isLogged_acquireEvents _)

theorem eq_of_dispatch {state : WorkflowState} {stage : Stage} :
    (state.dispatch = .execute stage → state = .init)
      ∧ (state.dispatch = .checkFinished stage → state = .claimLp) := by
  cases state <;> simp [WorkflowState.dispatch]

theorem advances_dispatch {desk : Desk} {s : Store} (lease : Lease) {w : Workflow}
    {rest : List Workflow} {events : List Event} (h : s.findOpenWorkflows = .ok (w :: rest))
    (hevents : ∀ event ∈ events, event.IsLogged) :
    Advances desk s (.holding lease) (s, (dispatch lease w).1, events) := by
  unfold dispatch
  split
  · rename_i hd
    exact .enter lease w rest _ h (eq_of_dispatch.1 hd) hevents
  · rename_i hd
    exact .check lease w rest _ h (eq_of_dispatch.2 hd) hevents
  · exact .pass _ _ _ trivial hevents

theorem advances_load (desk : Desk) (s : Store) (lease : Lease) :
    Advances desk s (.holding lease) (s, load lease s) := by
  have hevents := isLogged_load lease s
  unfold load at hevents ⊢
  split at hevents
  · exact .pass _ _ _ trivial hevents
  · exact .pass _ _ _ trivial hevents
  · rename_i w h
    exact advances_dispatch lease h hevents
  · rename_i w rest _ h
    exact advances_dispatch lease h hevents

theorem advances_enter (desk : Desk) (s : Store) (lease : Lease) (id : Int) (w : Workflow) :
    Advances desk s (.executing lease id (.entering w))
      (s, afterStage lease id (Claim.enter desk w).1, (Claim.enter desk w).2) := by
  have hevents := Claim.isLogged_enter desk w
  unfold Claim.enter at hevents ⊢
  split at hevents
  · exact .fail _ _ _ _ _ nofun hevents
  · rename_i snapshot hl
    split at hevents
    · exact .fail _ _ _ _ _ nofun hevents
    · rename_i hp
      exact .nothing lease id w snapshot hl hp
    · rename_i drafts hp
      exact .draft lease id w snapshot drafts hl hp

theorem advances_prepare (desk : Desk) (s : Store) (lease : Lease) (id : Int) (w : Workflow)
    (drafts : List Draft) :
    Advances desk s (.executing lease id (.drafted w drafts))
      ((Claim.prepare desk s w drafts).1, afterStage lease id (Claim.prepare desk s w drafts).2,
        []) := by
  unfold Claim.prepare
  split
  · rename_i hempty
    rw [List.isEmpty_iff.mp hempty]
    split
    · exact .fail _ _ _ _ _ nofun Event.isLogged_nil
    · rename_i next hu
      exact .skip lease id w next hu
  · rename_i hempty
    split
    · exact .fail _ _ _ _ _ nofun Event.isLogged_nil
    · rename_i batch hb
      exact .prepare lease id w drafts batch (fun h => hempty (h ▸ rfl)) hb

theorem advances_save (desk : Desk) (s : Store) (lease : Lease) (id : Int) (w : Workflow)
    (batch : List Prepared) :
    Advances desk s (.executing lease id (.prepared w batch))
      ((Claim.save s w batch).1, afterStage lease id (Claim.save s w batch).2, []) := by
  unfold Claim.save
  split
  · exact .fail _ _ _ _ _ nofun Event.isLogged_nil
  · rename_i next hc
    exact .save lease id w batch next hc

/-- **Every phase advances in one of these ways.** -/
theorem advances_step (desk : Desk) (turn : Turn) (s : Store) (p : Phase) :
    Advances desk s p (step desk turn s p) := by
  cases p with
  | waiting => exact advances_acquire desk turn s
  | holding lease => exact advances_load desk s lease
  | executing lease id phase =>
    cases phase with
    | entering w => exact advances_enter desk s lease id w
    | drafted w drafts => exact advances_prepare desk s lease id w drafts
    | prepared w batch => exact advances_save desk s lease id w batch
    | announcing alert transactions => exact .report lease id alert transactions
    | finished result =>
      cases result with
      | error cause => exact .fail _ _ _ _ _ nofun Event.isLogged_nil
      | ok outcome => exact .leave lease id outcome
  | checking lease w =>
    unfold step judge
    dsimp only
    split
    · exact .misread _ _ _
    · rename_i check hc
      exact .judge lease w check hc
  | judged lease w check =>
    unfold step settle
    dsimp only
    split
    · exact .refuse _ _ _ _
    · rename_i next hu
      exact .settle lease w check next hu
  | announcing lease alert outcome =>
    cases alert with
    | none => exact .announce lease none outcome
    | some alert => exact .announce lease (some alert) outcome
  | releasing lease result => exact .release lease result _ _ (isLogged_releaseEvents _)
  | done result => exact .rest result

/-! ## Carrying out what is left -/

theorem run_of_result {desk : Desk} {turn : Turn} {s : Store} {p : Phase}
    {result : TickResult} (h : p.result? = some result) : run desk turn s p = (s, result, []) := by
  rw [run]
  split
  · rename_i heq
    cases h.symm.trans heq
    rfl
  · rename_i heq
    exact absurd (h.symm.trans heq) (by simp)

theorem run_of_step {desk : Desk} {turn : Turn} {s : Store} {p : Phase} (h : p.result? = none) :
    run desk turn s p =
      ((run desk turn (step desk turn s p).1 (step desk turn s p).2.1).1,
        (run desk turn (step desk turn s p).1 (step desk turn s p).2.1).2.1,
        (step desk turn s p).2.2
          ++ (run desk turn (step desk turn s p).1 (step desk turn s p).2.1).2.2) := by
  rw [run]
  split
  · rename_i heq
    exact absurd (h.symm.trans heq) (by simp)
  · rfl

end Treasury.WorkflowTick
