import Treasury.Claim.Stage
import Treasury.Store.Leases

/-!
# The workflow tick

One tick advances the oldest open workflow by one step, under the lease of such ticks: it
enters the stage the workflow has come to, or checks the stage it is in and stores the
verdict. Nothing but the store survives from one tick to the next.

A tick is a sequence of phases, each of which reads or writes the store at most once. Ticks
that overlap, because a lease has grown too old, are interleaved phase by phase.
-/

namespace Treasury

/-- Why a workflow tick fails. -/
inductive TickError where
  | store (cause : StoreError)
  | stage (workflowId : Int) (stage : Stage) (cause : StageError)
  deriving DecidableEq, Repr

/-- The sentence shown for an error. -/
def TickError.message : TickError → String
  | store cause => cause.message
  | stage workflowId which _ => s!"Stage {which.name} failed for workflow {workflowId}"

/-- What came of a workflow tick. -/
inductive TickOutcome where
  /-- Another tick holds the lease. -/
  | leaseHeld
  /-- No workflow is open. -/
  | idle
  | executed (workflowId : Int) (outcome : ExecuteOutcome)
  | polled (workflowId : Int) (before after : WorkflowState) (progress : Progress)
  /-- The state of the workflow is somebody else's to deal with. -/
  | unhandled (workflowId : Int) (state : WorkflowState)
  deriving DecidableEq, Repr

/-- What came of a tick, or why it failed. -/
abbrev TickResult := Except TickError TickOutcome

/-- When a tick starts, and the token that it leaves with its lease. -/
structure Turn where
  now : Int
  holder : String
  deriving DecidableEq, Repr

namespace WorkflowTick

/-- How far a tick has got. -/
inductive Phase where
  /-- The lease is not taken. -/
  | waiting
  /-- The lease is taken; nothing is loaded. -/
  | holding (lease : Lease)
  /-- The workflow enters a stage. -/
  | executing (lease : Lease) (workflowId : Int) (phase : Claim.Phase)
  /-- The workflow is loaded; its tasks are not. -/
  | checking (lease : Lease) (w : Workflow)
  /-- The verdict is known; it is not stored. -/
  | judged (lease : Lease) (w : Workflow) (check : StageCheck)
  /-- The verdict is stored; it is not reported. -/
  | announcing (lease : Lease) (alert : Option StageAlert) (outcome : TickOutcome)
  /-- Only the lease has to be given back. -/
  | releasing (lease : Lease) (result : TickResult)
  /-- Nothing is left to do. -/
  | done (result : TickResult)

namespace Phase

/-- How many phases are still to come, at most. -/
def left : Phase → Nat
  | waiting => 8
  | holding _ => 7
  | executing _ _ phase => 2 + phase.left
  | checking _ _ => 4
  | judged _ _ _ => 3
  | announcing _ _ _ => 2
  | releasing _ _ => 1
  | done _ => 0

/-- What came of the tick, when nothing is left to do. -/
def result? : Phase → Option TickResult
  | done result => some result
  | _ => none

end Phase

/-- Asks for a lease. -/
def acquireEvents (acquired : Acquired) : List Event :=
  if acquired.reclaimed then [.log .warn "Reclaimed lease abandoned by an earlier tick"] else []

/-- What is logged when a lease is given back. -/
def releaseEvents (released : Bool) : List Event :=
  if released then [] else [.log .warn "Lease was reclaimed by another tick before release"]

/-- Takes the lease, if nobody holds it. -/
def acquire (turn : Turn) (s : Store) : Store × Phase × List Event :=
  let (next, acquired) := s.acquireLease .orchestrator turn.holder turn.now
  match acquired.lease with
  | some lease => (next, .holding lease, acquireEvents acquired)
  | none => (next, .done (.ok .leaseHeld), acquireEvents acquired)

/-- What is done with the oldest open workflow. -/
def dispatch (lease : Lease) (w : Workflow) : Phase × List Event :=
  match w.state.dispatch with
  | .execute .claimLp => (.executing lease w.id (.entering w), [])
  | .checkFinished .claimLp => (.checking lease w, [])
  | .unhandled =>
    (.releasing lease (.ok (.unhandled w.id w.state)),
      [.log .warn "No stage handler for workflow state"])

/-- Loads the open workflows. -/
def load (lease : Lease) (s : Store) : Phase × List Event :=
  match s.findOpenWorkflows with
  | .error e => (.releasing lease (.error (.store e)), [])
  | .ok [] => (.releasing lease (.ok .idle), [])
  | .ok [w] => dispatch lease w
  | .ok (w :: _) =>
    let (phase, events) := dispatch lease w
    (phase,
      .log .error "More than one rebalance workflow open, continuing with the oldest" :: events)

/-- Where a tick is when its workflow has got this far in entering the stage. -/
def afterStage (lease : Lease) (workflowId : Int) (phase : Claim.Phase) : Phase :=
  match phase with
  | .finished (.ok outcome) => .releasing lease (.ok (.executed workflowId outcome))
  | .finished (.error cause) => .releasing lease (.error (.stage workflowId .claimLp cause))
  | other => .executing lease workflowId other

/-- Loads the tasks of the workflow and judges them. -/
def judge (lease : Lease) (s : Store) (w : Workflow) : Phase × List Event :=
  match Claim.check s w with
  | .error e => (.releasing lease (.error (.stage w.id .claimLp (.store e))), [])
  | .ok check => (.judged lease w check, Claim.verdictEvents check)

/-- The workflow with the verdict. -/
def settled (w : Workflow) (check : StageCheck) : Workflow :=
  { w with
    state := check.nextState
    progress := check.progress.toText
    message := check.message.getD w.message }

/-- Stores the verdict. -/
def settle (lease : Lease) (s : Store) (w : Workflow) (check : StageCheck) : Store × Phase :=
  match s.updateWorkflow w.state (settled w check) with
  | .error e => (s, .releasing lease (.error (.store e)))
  | .ok next =>
    (next, .announcing lease check.alert (.polled w.id w.state check.nextState check.progress))

/-- Carries out one phase. -/
def step (desk : Desk) (turn : Turn) (s : Store) : Phase → Store × Phase × List Event
  | .waiting => acquire turn s
  | .holding lease =>
    let (phase, events) := load lease s
    (s, phase, events)
  | .executing lease workflowId phase =>
    let (next, phase, events) := Claim.step desk s phase
    (next, afterStage lease workflowId phase, events)
  | .checking lease w =>
    let (phase, events) := judge lease s w
    (s, phase, events)
  | .judged lease w check =>
    let (next, phase) := settle lease s w check
    (next, phase, [])
  | .announcing lease alert outcome =>
    let events := match alert with
      | some alert => alert.publish desk.notifier desk.recipients
      | none => []
    (s, .releasing lease (.ok outcome), events)
  | .releasing lease result =>
    let (next, released) := s.releaseLease lease
    (next, .done result, releaseEvents released)
  | .done result => (s, .done result, [])

theorem left_dispatch_lt (lease : Lease) (w : Workflow) : (dispatch lease w).1.left < 7 := by
  unfold dispatch
  split <;> simp [Phase.left, Claim.Phase.left]

theorem left_load_lt (lease : Lease) (s : Store) : (load lease s).1.left < 7 := by
  unfold load
  split
  · simp [Phase.left]
  · simp [Phase.left]
  · exact left_dispatch_lt _ _
  · exact left_dispatch_lt _ _

theorem left_afterStage_le (lease : Lease) (workflowId : Int) (phase : Claim.Phase) :
    (afterStage lease workflowId phase).left ≤ max 1 (2 + phase.left) := by
  unfold afterStage
  split
  · exact Nat.le_max_left 1 _
  · exact Nat.le_max_left 1 _
  · exact Nat.le_max_right 1 _

theorem left_step_lt (desk : Desk) (turn : Turn) (s : Store) (p : Phase)
    (h : p.result? = none) : (step desk turn s p).2.1.left < p.left := by
  cases p with
  | waiting =>
    simp only [step, acquire]
    split <;> simp [Phase.left]
  | holding lease => exact left_load_lt lease s
  | executing lease workflowId phase =>
    cases hr : phase.result? with
    | none =>
      have hlt := Claim.left_step_lt desk s phase hr
      have hle := left_afterStage_le lease workflowId (Claim.step desk s phase).2.1
      have hnext : (step desk turn s (.executing lease workflowId phase)).2.1.left ≤
          max 1 (2 + (Claim.step desk s phase).2.1.left) := hle
      have hthis : (Phase.executing lease workflowId phase).left = 2 + phase.left := rfl
      omega
    | some result =>
      cases phase with
      | finished result =>
        cases result <;> simp [step, Claim.step, afterStage, Phase.left, Claim.Phase.left]
      | _ => simp [Claim.Phase.result?] at hr
  | checking lease w =>
    simp only [step, judge]
    split <;> simp [Phase.left]
  | judged lease w check =>
    simp only [step, settle]
    split <;> simp [Phase.left]
  | announcing lease alert outcome => simp [step, Phase.left]
  | releasing lease result => simp [step, Phase.left]
  | done result => simp [Phase.result?] at h

/-- Carries out all phases that are left, with nobody in between. -/
def run (desk : Desk) (turn : Turn) (s : Store) (p : Phase) : Store × TickResult × List Event :=
  match _h : p.result? with
  | some result => (s, result, [])
  | none =>
    let next := step desk turn s p
    let rest := run desk turn next.1 next.2.1
    (rest.1, rest.2.1, next.2.2 ++ rest.2.2)
termination_by p.left
decreasing_by exact left_step_lt desk turn s p _h

end WorkflowTick

/-- A whole workflow tick. -/
def Store.workflowTick (s : Store) (desk : Desk) (turn : Turn) :
    Store × TickResult × List Event :=
  WorkflowTick.run desk turn s .waiting

end Treasury
