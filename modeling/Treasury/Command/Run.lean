import Treasury.Command.Line
import Treasury.Tick.Transfer

/-!
# Carrying out commands

What each command does to the store and what it prints. Lines that were printed before
something failed stay printed.
-/

namespace Treasury

/-- Why a command fails. -/
inductive CommandError where
  | store (cause : StoreError)
  | workflow (cause : TickError)
  | transfer (cause : TransferTickError)
  deriving DecidableEq, Repr

/-- The sentence shown for an error. -/
def CommandError.message : CommandError → String
  | store cause => cause.message
  | workflow cause => cause.message
  | transfer cause => cause.message

/-- What a command leaves behind. -/
structure CommandResult where
  store : Store
  output : String
  events : List Event
  outcome : Except CommandError Unit

namespace Command

/-- What is printed of a workflow tick. -/
def describeTick : TickOutcome → String
  | .leaseHeld => "another tick is in progress"
  | .idle => "no open workflow"
  | .executed id .nothingToDo => s!"workflow {id} has nothing to claim yet"
  | .executed id (.advanced transactions) =>
    s!"workflow {id} created {transactions} claim transactions"
  | .polled id before after progress =>
    if before = after then s!"workflow {id} still {before.tag} ({progress})"
    else s!"workflow {id} moved {before.tag} -> {after.tag} ({progress})"
  | .unhandled id state => s!"workflow {id} waits in {state.tag} for another runner"

/-- What is printed of a transfer tick. -/
def describeTransfer : TransferOutcome → String
  | .leaseHeld => "another tick is in progress"
  | .idle => "no open task"
  | .submitted id transactions => s!"task {id} submitted {transactions} transfers"
  | .polled id state progress => s!"task {id} {state.tag} ({progress})"

/-- What is printed and logged of the result of a workflow tick. -/
def reportTick : TickResult → String × List Event
  | .ok outcome => (s!"🔄 Workflow: {describeTick outcome}\n", [])
  | .error e =>
    (s!"❌ Workflow tick failed: {e.message}\n", [.log .error "Orchestrator tick failed"])

/-- What is printed and logged of the result of a transfer tick. -/
def reportTransfer : TransferResult → String × List Event
  | .ok outcome => (s!"🔄 Asset transfer: {describeTransfer outcome}\n", [])
  | .error e =>
    (s!"❌ Asset transfer tick failed: {e.message}\n",
      [.log .error "Asset transfer tick failed"])

/-- Carries out both ticks; the second also if the first has failed. -/
def tickBoth (desk : Desk) (first second : Turn) (s : Store) : CommandResult :=
  let (s, workflow, workflowEvents) := s.workflowTick desk first
  let (workflowText, workflowNotes) := reportTick workflow
  let (s, transfer, transferEvents) := s.transferTick desk.gas desk.chains second
  let (transferText, transferNotes) := reportTransfer transfer
  { store := s
    output := workflowText ++ transferText
    events := workflowEvents ++ workflowNotes ++ transferEvents ++ transferNotes
    outcome := match workflow, transfer with
      | .error e, _ => .error (.workflow e)
      | .ok _, .error e => .error (.transfer e)
      | .ok _, .ok _ => .ok () }

/-- Opens a workflow. -/
def openOne (params : WorkflowParams) (s : Store) : CommandResult :=
  match s.openWorkflow params with
  | (next, .ok w) => ⟨next, s!"✅ Opened rebalance workflow {w.id}\n", [], .ok ()⟩
  | (next, .error e) =>
    let output := match e with
      | .workflowAlreadyOpen id =>
        s!"❌ Workflow {id} is still open, refusing to open another\n"
      | _ => ""
    ⟨next, output, [], .error (.store e)⟩

/-- What is shown of an open workflow. -/
def describeWorkflow (w : Workflow) (claims : Progress) : String :=
  s!"Workflow {w.id}\n   State: {w.state.tag}\n   Params: {w.params.toText}\n" ++
    s!"   Claims: {claims}\n" ++
    if w.message = "" then "" else s!"   Message: {w.message}\n"

/-- What is shown of an open transfer task. -/
def describeTask (t : TransferTask) : String :=
  s!"Asset transfer {t.id} ({t.type.tag}) for rebalance {t.rebalanceId}: " ++
    s!"{t.state.tag} {t.progress}\n"

/-- Shows workflows with their claims, up to the first whose claims cannot be loaded. -/
def showWorkflows (s : Store) : List Workflow → String × Except StoreError Unit
  | [] => ("", .ok ())
  | w :: rest =>
    match s.findTasks (.workflow w.id) .claimFromVault with
    | .error e => ("", .error e)
    | .ok tasks =>
      let (text, outcome) := showWorkflows s rest
      (describeWorkflow w (Progress.ofTasks tasks) ++ text, outcome)

/-- Shows the open transfer tasks. -/
def showTransfers (s : Store) : String × Except StoreError Unit :=
  match s.findOpenTransfers with
  | .error e => ("", .error e)
  | .ok tasks => (String.join (tasks.map describeTask), .ok ())

/-- Shows everything that is open. -/
def overview (s : Store) : String × Except StoreError Unit :=
  match s.findOpenWorkflows with
  | .error e => ("", .error e)
  | .ok workflows =>
    let empty := if workflows.isEmpty then "No open rebalance workflow\n" else ""
    match showWorkflows s workflows with
    | (text, .error e) => (empty ++ text, .error e)
    | (text, .ok ()) =>
      let (more, outcome) := showTransfers s
      (empty ++ text ++ more, outcome)

/-- Carries out a command. -/
def run (desk : Desk) (first second : Turn) (s : Store) : Command → CommandResult
  | .tick => tickBoth desk first second s
  | .openWorkflow initiatedBy note => openOne ⟨initiatedBy, note⟩ s
  | .status =>
    let (output, outcome) := overview s
    { store := s
      output := output
      events := []
      outcome := match outcome with
        | .ok () => .ok ()
        | .error e => .error (.store e) }

end Command

end Treasury
