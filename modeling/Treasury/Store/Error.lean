import Treasury.Store.Basic
import Treasury.Transfer.Basic
import Treasury.Workflow.Basic

/-!
# Why the store refuses

Every way in which reading or writing the store can fail, other than the store being out of
reach.
-/

namespace Treasury

/-- The kinds of record that carry parameters. -/
inductive Entity where
  | workflow
  | task
  | transfer
  deriving DecidableEq, Repr

/-- What a kind of record is called. -/
def Entity.name : Entity → String
  | workflow => "rebalance workflow"
  | task => "transaction task"
  | transfer => "asset transfer task"

/-- Why the store refuses. -/
inductive StoreError where
  | violation (violation : Violation)
  | unreadable (fault : ColumnFault)
  | malformedParams (entity : Entity) (id : Int) (reason : String)
  | unknownTag (tag : UnknownTag)
  | invalidColumn (column value : String)
  | workflowNotFound (id : Int)
  | workflowAlreadyOpen (id : Int)
  | invalidTransition (id : Int) (current next : WorkflowState)
  | staleWorkflow (id : Int) (expected stored : WorkflowState)
  | transferNotFound (id : Int)
  | invalidTransferTransition (id : Int) (current next : TransferState)
  | staleTransfer (id : Int) (expected stored : TransferState)
  | integerOverflow (column : String) (value : UInt64)
  deriving DecidableEq, Repr

namespace StoreError

/-- The sentence shown for an error, without the reason why parameters are malformed. -/
def summary : StoreError → String
  | violation v => s!"Database error: {v.report}"
  | unreadable fault => s!"Database error: {fault.message}"
  | malformedParams entity id _ => s!"Malformed params on {entity.name} {id}"
  | unknownTag tag => tag.message
  | invalidColumn column value => s!"Invalid {column} stored in database: {value}"
  | workflowNotFound id => s!"Rebalance workflow {id} not found"
  | workflowAlreadyOpen id => s!"Rebalance workflow {id} is still open"
  | invalidTransition id current next =>
    s!"Rebalance workflow {id} cannot move from {current.tag} to {next.tag}"
  | staleWorkflow id expected stored =>
    s!"Rebalance workflow {id} was expected in {expected.tag} but is {stored.tag}"
  | transferNotFound id => s!"Asset transfer task {id} not found"
  | invalidTransferTransition id current next =>
    s!"Asset transfer task {id} cannot move from {current.tag} to {next.tag}"
  | staleTransfer id expected stored =>
    s!"Asset transfer task {id} was expected in {expected.tag} but is {stored.tag}"
  | integerOverflow column value =>
    s!"Value {value} for {column} does not fit an SQLite integer"

/-- The sentence shown for an error. -/
def message (e : StoreError) : String :=
  match e with
  | malformedParams _ _ reason => s!"{e.summary}: {reason}"
  | _ => e.summary

/-- Turns a violation into an error. -/
def ofViolation {α : Type} : Except Violation α → Except StoreError α
  | .ok a => .ok a
  | .error v => .error (.violation v)

/-- Turns a column that cannot be read back into an error. -/
def ofColumn {α : Type} : Except ColumnFault α → Except StoreError α
  | .ok a => .ok a
  | .error fault => .error (.unreadable fault)

/-- Turns an unknown tag into an error. -/
def ofTag {α : Type} : Except UnknownTag α → Except StoreError α
  | .ok a => .ok a
  | .error t => .error (.unknownTag t)

end StoreError

end Treasury
