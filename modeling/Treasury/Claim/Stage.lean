import Treasury.Alert.Notifier
import Treasury.Claim.Aggregate
import Treasury.Claim.Call
import Treasury.Gas
import Treasury.Liquidity.Source
import Treasury.Store.Workflows

/-!
# The claim stage

A workflow enters the stage with a fetch of the current snapshot, which is turned into one
drafted transaction for each claim. The transactions are stored together with the move of
the workflow to its next state, and only then reported. Later the stage is checked: when all
transactions have succeeded it is finished, and when one has failed so has the workflow.

Entering is a sequence of phases, each of which reads or writes the store at most once, so
that what happens when several ticks overlap can be said.
-/

namespace Treasury

/-- Why a stage fails. -/
inductive StageError where
  | liquidity (cause : FetchError)
  | emptyVaultList
  | aggregation (cause : AggregationError)
  | claimCall (cause : ClaimCallError)
  | missingChain (chain : String)
  | assign (cause : AssignError)
  | store (cause : StoreError)
  deriving DecidableEq, Repr

/-- The sentence shown for an error. -/
def StageError.message : StageError → String
  | liquidity _ => "Failed to fetch liquidity data"
  | emptyVaultList => "Liquidity data lists providers but no vaults"
  | aggregation cause => cause.message
  | claimCall cause => cause.message
  | missingChain chain => s!"No chain configured named {chain}"
  | assign cause => cause.message
  | store cause => cause.message

/-- What came of entering a stage. -/
inductive ExecuteOutcome where
  /-- There was nothing to act on; the workflow stays where it is. -/
  | nothingToDo
  /-- The workflow has moved into the stage with this many transactions. -/
  | advanced (transactions : Nat)
  deriving DecidableEq, Repr

/-- What came of checking a stage. -/
structure StageCheck where
  finished : Bool
  /-- The state to store, which is the current one while transactions are pending. -/
  nextState : WorkflowState
  progress : Progress
  /-- The message to store, if it changes. -/
  message : Option String
  alert : Option StageAlert
  deriving DecidableEq, Repr

/-- What a stage works with. -/
structure Desk where
  tokens : TokenRegistry
  chains : Chains
  gas : GasAssigner
  /-- What the provider answers. -/
  liquidity : Except FetchError Snapshot
  notifier : Notifier
  /-- The people called upon by alerts. -/
  recipients : List String

namespace Claim

/-- The report of transactions that were created. -/
def createdReport : String := "claimlp_tx_created"

/-- The report of transactions that have succeeded. -/
def succeededReport : String := "claimlp_suc"

/-- The report of transactions that have failed. -/
def failedReport : String := "claimlp_failed"

/-- The drafted transaction of a claim: sent by the bridge account of its chain to its
vault. -/
def draft (desk : Desk) (workflowId : Int) (p : ClaimParam) : Except StageError Draft :=
  match buildClaimCall desk.tokens p with
  | .error cause => .error (.claimCall cause)
  | .ok inputData =>
    match desk.chains.get? p.chainName with
    | none => .error (.missingChain p.chainName)
    | some chain =>
      .ok ⟨.workflow workflowId, .claimFromVault, p.chainId, p.chainName, chain.bridge, p.vault,
        inputData, p.toJson.sorted⟩

/-- The drafts of a snapshot; `none` if it reports no providers. -/
def plan (desk : Desk) (workflowId : Int) (snapshot : Snapshot) :
    Except StageError (Option (List Draft)) :=
  if snapshot.providers.isEmpty then .ok none
  else if snapshot.vaults.isEmpty then .error .emptyVaultList
  else
    match aggregateClaims desk.tokens snapshot.vaults snapshot.providers with
    | .error cause => .error (.aggregation cause)
    | .ok claims => (claims.mapM (draft desk workflowId)).map some

/-- What is logged when no plan can be made. -/
def planFailure : StageError → List Event
  | .aggregation _ => [.log .error "Failed to aggregate claims"]
  | .claimCall _ => [.log .error "Failed to build claim call"]
  | _ => []

/-- The workflow with no claims to make. -/
def advancedEmpty (w : Workflow) : Workflow :=
  { w with state := .claimLp, message := "nothing to claim" }

/-- The workflow with this many claims. -/
def advanced (w : Workflow) (count : Nat) : Workflow :=
  { w with
    state := .claimLp
    message := "claim transactions created"
    progress := (Progress.untouched count).toText }

/-- Stores the transactions of a workflow together with its move. -/
def commit (s : Store) (w : Workflow) (prepared : List Prepared) : Except StoreError Store := do
  let (saved, _) ← s.saveTasks prepared
  saved.updateWorkflow w.state (advanced w prepared.length)

/-- The report of transactions that were created. -/
def createdAlert (w : Workflow) (prepared : List Prepared) : StageAlert where
  severity := .notify
  channel := claimChannel
  report := .ofWorkflow createdReport (advanced w prepared.length) prepared

/-! ## Entering the stage -/

/-- How far entering the stage has got. -/
inductive Phase where
  /-- The workflow is loaded. -/
  | entering (w : Workflow)
  /-- The snapshot is fetched and turned into drafts. -/
  | drafted (w : Workflow) (drafts : List Draft)
  /-- Nonces and gas are known; nothing is stored. -/
  | prepared (w : Workflow) (batch : List Prepared)
  /-- The transactions are stored; nothing is reported. -/
  | announcing (alert : StageAlert) (transactions : Nat)
  /-- Nothing is left to do. -/
  | finished (result : Except StageError ExecuteOutcome)

namespace Phase

/-- How many phases are still to come, at most. -/
def left : Phase → Nat
  | entering _ => 4
  | drafted _ _ => 3
  | prepared _ _ => 2
  | announcing _ _ => 1
  | finished _ => 0

/-- What came of it, when nothing is left to do. -/
def result? : Phase → Option (Except StageError ExecuteOutcome)
  | finished result => some result
  | _ => none

end Phase

/-- Fetches the snapshot and makes a plan of it. -/
def enter (desk : Desk) (w : Workflow) : Phase × List Event :=
  match desk.liquidity with
  | .error cause => (.finished (.error (.liquidity cause)), [])
  | .ok snapshot =>
    match plan desk w.id snapshot with
    | .error e => (.finished (.error e), planFailure e)
    | .ok none => (.finished (.ok .nothingToDo), [])
    | .ok (some drafts) => (.drafted w drafts, [])

/-- Prepares drafts, or moves the workflow on if there are none. -/
def prepare (desk : Desk) (s : Store) (w : Workflow) (drafts : List Draft) : Store × Phase :=
  if drafts.isEmpty then
    match s.updateWorkflow w.state (advancedEmpty w) with
    | .error e => (s, .finished (.error (.store e)))
    | .ok next => (next, .finished (.ok (.advanced 0)))
  else
    match desk.gas.assign desk.chains s drafts with
    | .error e => (s, .finished (.error (.assign e)))
    | .ok batch => (s, .prepared w batch)

/-- Stores prepared transactions. -/
def save (s : Store) (w : Workflow) (batch : List Prepared) : Store × Phase :=
  match commit s w batch with
  | .error e => (s, .finished (.error (.store e)))
  | .ok next => (next, .announcing (createdAlert w batch) batch.length)

/-- Carries out one phase. -/
def step (desk : Desk) (s : Store) : Phase → Store × Phase × List Event
  | .entering w =>
    let (phase, events) := enter desk w
    (s, phase, events)
  | .drafted w drafts =>
    let (next, phase) := prepare desk s w drafts
    (next, phase, [])
  | .prepared w batch =>
    let (next, phase) := save s w batch
    (next, phase, [])
  | .announcing alert transactions =>
    (s, .finished (.ok (.advanced transactions)), alert.publish desk.notifier desk.recipients)
  | .finished result => (s, .finished result, [])

theorem left_step_lt (desk : Desk) (s : Store) (p : Phase) (h : p.result? = none) :
    (step desk s p).2.1.left < p.left := by
  cases p with
  | entering w =>
    simp only [step, enter]
    repeat' split
    all_goals simp [Phase.left]
  | drafted w drafts =>
    simp only [step, prepare]
    repeat' split
    all_goals simp [Phase.left]
  | prepared w batch =>
    simp only [step, save]
    repeat' split
    all_goals simp [Phase.left]
  | announcing alert transactions => simp [step, Phase.left]
  | finished result => simp [Phase.result?] at h

/-- Carries out all phases that are left. -/
def run (desk : Desk) (s : Store) (p : Phase) :
    Store × Except StageError ExecuteOutcome × List Event :=
  match _h : p.result? with
  | some result => (s, result, [])
  | none =>
    let next := step desk s p
    let rest := run desk next.1 next.2.1
    (rest.1, rest.2.1, next.2.2 ++ rest.2.2)
termination_by p.left
decreasing_by exact left_step_lt desk s p _h

/-- Enters the stage with a workflow, which may be a copy that is no longer up to date. -/
def execute (desk : Desk) (s : Store) (w : Workflow) :
    Store × Except StageError ExecuteOutcome × List Event :=
  run desk s (.entering w)

/-! ## Checking the stage -/

/-- What the tasks of a workflow in the stage amount to. -/
def verdict (w : Workflow) (tasks : List Task) : StageCheck :=
  let progress := Progress.ofTasks tasks
  let alert (severity : Severity) (report : String) (tasks : List Task) : StageAlert :=
    ⟨severity, claimChannel, .ofWorkflow report w (tasks.map Task.prepared)⟩
  if tasks.isEmpty then
    ⟨true, .marginBalanceTransferOut, progress, some "nothing claimed", none⟩
  else if progress.allSucceeded then
    ⟨true, .marginBalanceTransferOut, progress, some "claim succeeded",
      some (alert .notify succeededReport tasks)⟩
  else if progress.hasFailures then
    ⟨false, .failed, progress, some s!"claim failed: {progress}",
      some (alert .alert failedReport (tasks.filter (·.state = .failed)))⟩
  else ⟨false, w.state, progress, none, none⟩

/-- What is logged of a verdict. -/
def verdictEvents (check : StageCheck) : List Event :=
  if check.progress.allSucceeded then []
  else if check.progress.hasFailures then
    [.log .warn "Claim transactions failed, failing workflow"]
  else []

/-- Checks the stage for a workflow. Nothing is written. -/
def check (s : Store) (w : Workflow) : Except StoreError StageCheck :=
  (s.findTasks (.workflow w.id) .claimFromVault).map (verdict w)

end Claim

end Treasury
