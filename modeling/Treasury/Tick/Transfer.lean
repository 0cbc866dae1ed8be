import Treasury.Store.Transfers
import Treasury.Tick.Workflow

/-!
# The transfer tick

One tick advances the oldest open transfer task by one step, under the lease of such ticks,
which is not that of workflow ticks: it submits the calls of a new task, or tallies the
transactions of a task that has been submitted.
-/

namespace Treasury

/-- Why a transfer tick fails. -/
inductive TransferTickError where
  | store (cause : StoreError)
  | assign (cause : AssignError)
  deriving DecidableEq, Repr

/-- The sentence shown for an error. -/
def TransferTickError.message : TransferTickError → String
  | store cause => cause.message
  | assign cause => cause.message

/-- What came of a transfer tick. -/
inductive TransferOutcome where
  /-- Another tick holds the lease. -/
  | leaseHeld
  /-- No task is open. -/
  | idle
  | submitted (taskId : Int) (transactions : Nat)
  | polled (taskId : Int) (state : TransferState) (progress : Progress)
  deriving DecidableEq, Repr

/-- What came of a tick, or why it failed. -/
abbrev TransferResult := Except TransferTickError TransferOutcome

namespace TransferTask

/-- The drafted transactions of a task, in the order of its calls. -/
def drafts (t : TransferTask) : List Draft :=
  t.params.transfers.map fun call =>
    ⟨t.owner, t.type.transactionType, call.chainId, call.chainName, call.sender, call.receiver,
      call.inputData, call.toJson.sorted⟩

/-- The task with this many transactions submitted. -/
def submitted (t : TransferTask) (count : Nat) : TransferTask :=
  { t with state := .ongoing, progress := (Progress.untouched count).toText }

/-- Where a task stands whose transactions have this tally. A failure counts more than
anything else. -/
def stateOf (progress : Progress) : TransferState :=
  if progress.hasFailures then .failed
  else if progress.allSucceeded then .success
  else .ongoing

/-- The task with this tally. -/
def tallied (t : TransferTask) (progress : Progress) : TransferTask :=
  { t with state := stateOf progress, progress := progress.toText }

end TransferTask

namespace TransferTick

/-- How far a tick has got. -/
inductive Phase where
  /-- The lease is not taken. -/
  | waiting
  /-- The lease is taken; nothing is loaded. -/
  | holding (lease : Lease)
  /-- A new task is loaded; nonces are not known. -/
  | submitting (lease : Lease) (t : TransferTask)
  /-- Nonces and gas are known; nothing is stored. -/
  | prepared (lease : Lease) (t : TransferTask) (batch : List Prepared)
  /-- A submitted task is loaded; its transactions are not. -/
  | polling (lease : Lease) (t : TransferTask)
  /-- The tally is known; it is not stored. -/
  | tallied (lease : Lease) (t : TransferTask) (progress : Progress)
  /-- Only the lease has to be given back. -/
  | releasing (lease : Lease) (result : TransferResult)
  /-- Nothing is left to do. -/
  | done (result : TransferResult)

namespace Phase

/-- How many phases are still to come, at most. -/
def left : Phase → Nat
  | waiting => 5
  | holding _ => 4
  | submitting _ _ | polling _ _ => 3
  | prepared _ _ _ | tallied _ _ _ => 2
  | releasing _ _ => 1
  | done _ => 0

/-- What came of the tick, when nothing is left to do. -/
def result? : Phase → Option TransferResult
  | done result => some result
  | _ => none

end Phase

/-- Takes the lease, if nobody holds it. -/
def acquire (turn : Turn) (s : Store) : Store × Phase × List Event :=
  let (next, acquired) := s.acquireLease .assetTransfer turn.holder turn.now
  match acquired.lease with
  | some lease => (next, .holding lease, WorkflowTick.acquireEvents acquired)
  | none => (next, .done (.ok .leaseHeld), WorkflowTick.acquireEvents acquired)

/-- What is done with the oldest open task. -/
def dispatch (lease : Lease) (t : TransferTask) : Phase :=
  match t.state with
  | .init => .submitting lease t
  | .ongoing => .polling lease t
  | .success | .failed => .releasing lease (.ok .idle)

/-- Loads the open tasks. -/
def load (lease : Lease) (s : Store) : Phase × List Event :=
  match s.findOpenTransfers with
  | .error e => (.releasing lease (.error (.store e)), [])
  | .ok [] => (.releasing lease (.ok .idle), [])
  | .ok [t] => (dispatch lease t, [])
  | .ok (t :: _) =>
    (dispatch lease t,
      [.log .error "More than one asset transfer task open, continuing with the oldest"])

/-- Prepares the transactions of a task. -/
def prepare (gas : GasAssigner) (chains : Chains) (lease : Lease) (s : Store) (t : TransferTask) :
    Phase :=
  match gas.assign chains s t.drafts with
  | .error e => .releasing lease (.error (.assign e))
  | .ok batch => .prepared lease t batch

/-- Stores the transactions of a task together with its move. -/
def commit (s : Store) (t : TransferTask) (batch : List Prepared) : Except StoreError Store := do
  let (saved, _) ← s.saveTasks batch
  saved.updateTransfer t.state (t.submitted batch.length)

/-- Stores prepared transactions. -/
def save (lease : Lease) (s : Store) (t : TransferTask) (batch : List Prepared) :
    Store × Phase :=
  match commit s t batch with
  | .error e => (s, .releasing lease (.error (.store e)))
  | .ok next => (next, .releasing lease (.ok (.submitted t.id batch.length)))

/-- Loads the transactions of a task and tallies them. -/
def tally (lease : Lease) (s : Store) (t : TransferTask) : Phase :=
  match s.findTasks t.owner t.type.transactionType with
  | .error e => .releasing lease (.error (.store e))
  | .ok tasks => .tallied lease t (Progress.ofTasks tasks)

/-- Stores the tally. -/
def settle (lease : Lease) (s : Store) (t : TransferTask) (progress : Progress) :
    Store × Phase :=
  match s.updateTransfer t.state (t.tallied progress) with
  | .error e => (s, .releasing lease (.error (.store e)))
  | .ok next =>
    (next, .releasing lease (.ok (.polled t.id (TransferTask.stateOf progress) progress)))

/-- Carries out one phase. -/
def step (gas : GasAssigner) (chains : Chains) (turn : Turn) (s : Store) :
    Phase → Store × Phase × List Event
  | .waiting => acquire turn s
  | .holding lease =>
    let (phase, events) := load lease s
    (s, phase, events)
  | .submitting lease t => (s, prepare gas chains lease s t, [])
  | .prepared lease t batch =>
    let (next, phase) := save lease s t batch
    (next, phase, [])
  | .polling lease t => (s, tally lease s t, [])
  | .tallied lease t progress =>
    let (next, phase) := settle lease s t progress
    (next, phase, [])
  | .releasing lease result =>
    let (next, released) := s.releaseLease lease
    (next, .done result, WorkflowTick.releaseEvents released)
  | .done result => (s, .done result, [])

theorem left_dispatch_lt (lease : Lease) (t : TransferTask) : (dispatch lease t).left < 4 := by
  unfold dispatch
  split <;> simp [Phase.left]

theorem left_step_lt (gas : GasAssigner) (chains : Chains) (turn : Turn) (s : Store) (p : Phase)
    (h : p.result? = none) : (step gas chains turn s p).2.1.left < p.left := by
  cases p with
  | waiting =>
    simp only [step, acquire]
    split <;> simp [Phase.left]
  | holding lease =>
    simp only [step, load]
    split
    · simp [Phase.left]
    · simp [Phase.left]
    · exact left_dispatch_lt _ _
    · exact left_dispatch_lt _ _
  | submitting lease t =>
    simp only [step, prepare]
    split <;> simp [Phase.left]
  | prepared lease t batch =>
    simp only [step, save]
    split <;> simp [Phase.left]
  | polling lease t =>
    simp only [step, tally]
    split <;> simp [Phase.left]
  | tallied lease t progress =>
    simp only [step, settle]
    split <;> simp [Phase.left]
  | releasing lease result => simp [step, Phase.left]
  | done result => simp [Phase.result?] at h

/-- Carries out all phases that are left, with nobody in between. -/
def run (gas : GasAssigner) (chains : Chains) (turn : Turn) (s : Store) (p : Phase) :
    Store × TransferResult × List Event :=
  match _h : p.result? with
  | some result => (s, result, [])
  | none =>
    let next := step gas chains turn s p
    let rest := run gas chains turn next.1 next.2.1
    (rest.1, rest.2.1, next.2.2 ++ rest.2.2)
termination_by p.left
decreasing_by exact left_step_lt gas chains turn s p _h

end TransferTick

/-- A whole transfer tick. -/
def Store.transferTick (s : Store) (gas : GasAssigner) (chains : Chains) (turn : Turn) :
    Store × TransferResult × List Event :=
  TransferTick.run gas chains turn s .waiting

end Treasury
