import Treasury.Chain.Address
import Treasury.Json.Value
import Treasury.Tag
import Treasury.Word256

/-!
# Sub-transactions

A stage drafts contract calls; a draft with its place in the sender's queue and its gas is a
prepared transaction; once it is stored it is a task, which the submission pipeline signs,
sends and settles.
-/

namespace Treasury

/-- What a transaction is for. -/
inductive TransactionType where
  | claimFromVault
  | assetTransferOut
  | assetTransferIn
  | invest
  deriving DecidableEq, Repr

namespace TransactionType

/-- Every type. -/
def all : List TransactionType := [claimFromVault, assetTransferOut, assetTransferIn, invest]

/-- The word for a type. -/
def tag : TransactionType → String
  | claimFromVault => "claim_from_vault"
  | assetTransferOut => "asset_transfer_out"
  | assetTransferIn => "asset_transfer_in"
  | invest => "invest"

/-- The type a word stands for. -/
def ofTag (value : String) : Except UnknownTag TransactionType :=
  findTag "transaction type" tag all value

end TransactionType

/-- How far the pipeline has got with a transaction. -/
inductive TransactionState where
  | unsigned
  | signed
  | submitted
  | success
  | failed
  deriving DecidableEq, Repr

namespace TransactionState

/-- Every state. -/
def all : List TransactionState := [unsigned, signed, submitted, success, failed]

/-- The word for a state. -/
def tag : TransactionState → String
  | unsigned => "unsigned"
  | signed => "signed"
  | submitted => "submitted"
  | success => "success"
  | failed => "failed"

/-- The state a word stands for. -/
def ofTag (value : String) : Except UnknownTag TransactionState :=
  findTag "transaction state" tag all value

end TransactionState

/-- The record a transaction belongs to. Records of the two kinds are numbered apart, so the
kind is part of the key. -/
inductive TaskOwner where
  | workflow (id : Int)
  | assetTransfer (id : Int)
  deriving DecidableEq, Repr

namespace TaskOwner

/-- The word for the kind of record. -/
def kind : TaskOwner → String
  | workflow _ => "rebalance_workflow"
  | assetTransfer _ => "asset_transfer"

/-- The number of the record. -/
def id : TaskOwner → Int
  | workflow id => id
  | assetTransfer id => id

/-- The record of a kind and number. -/
def ofParts (kind : String) (id : Int) : Except UnknownTag TaskOwner :=
  findTag "task owner" TaskOwner.kind [workflow id, assetTransfer id] kind

end TaskOwner

/-- A contract call that is wanted, before its place in the queue and its gas are known. -/
structure Draft where
  owner : TaskOwner
  type : TransactionType
  chainId : UInt64
  chainName : String
  sender : Address
  receiver : Address
  inputData : List UInt8
  /-- What the call does, for people to read; a document in its one form. -/
  params : Json

/-- The place of a transaction in its sender's queue, and its gas. -/
structure GasAssignment where
  nonce : UInt64
  gasPrice : Word256
  gasLimit : UInt64
  deriving DecidableEq, Repr

/-- A transaction that can be sent. -/
structure Prepared where
  draft : Draft
  gas : GasAssignment

/-- A stored transaction. -/
structure Task where
  id : Int
  draft : Draft
  gas : GasAssignment
  state : TransactionState
  message : String
  hash : Option TransactionHash

/-- The transaction of a task. -/
def Task.prepared (t : Task) : Prepared := ⟨t.draft, t.gas⟩

/-! ## Progress -/

/-- How many transactions there are, and how many have settled either way. -/
structure Progress where
  all : Nat
  success : Nat
  failed : Nat
  deriving DecidableEq, Repr

namespace Progress

/-- The tally of a list of states. -/
def ofStates (states : List TransactionState) : Progress where
  all := states.length
  success := states.count .success
  failed := states.count .failed

/-- The tally of a list of tasks. -/
def ofTasks (tasks : List Task) : Progress := ofStates (tasks.map (·.state))

/-- The tally of transactions that nobody has touched. -/
def untouched (all : Nat) : Progress := ⟨all, 0, 0⟩

/-- How many have not settled. -/
def pending (p : Progress) : Nat := p.all - p.success - p.failed

/-- True if all have succeeded. -/
def allSucceeded (p : Progress) : Bool := p.success = p.all

/-- True if one has failed. -/
def hasFailures (p : Progress) : Bool := 0 < p.failed

/-- The tally as it is stored and shown. -/
def toText (p : Progress) : String := s!"{p.success}/{p.all} failed:{p.failed}"

instance : ToString Progress := ⟨toText⟩

end Progress

end Treasury
