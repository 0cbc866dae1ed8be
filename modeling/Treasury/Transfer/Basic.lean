import Treasury.Json.Scalar
import Treasury.Json.Versioned
import Treasury.Transaction.Basic

/-!
# Asset transfers

A transfer task moves funds into or out of the treasury by calls that were prepared by
whoever opened it. It is submitted once and then watched until all calls have succeeded or
one has failed.
-/

namespace Treasury

/-- Where a transfer task stands. -/
inductive TransferState where
  | init
  | ongoing
  | success
  | failed
  deriving DecidableEq, Repr

namespace TransferState

/-- Every state. -/
def all : List TransferState := [init, ongoing, success, failed]

/-- The word for a state. -/
def tag : TransferState → String
  | init => "init"
  | ongoing => "ongoing"
  | success => "success"
  | failed => "failed"

/-- The state a word stands for. -/
def ofTag (value : String) : Except UnknownTag TransferState :=
  findTag "asset transfer state" tag all value

/-- True if a task may go from one state to the next. Settled tasks stay as they are. -/
def canMoveTo : TransferState → TransferState → Bool
  | init, init | init, ongoing | init, failed => true
  | ongoing, ongoing | ongoing, success | ongoing, failed => true
  | _, _ => false

end TransferState

/-- Which way funds are moved. -/
inductive TransferType where
  | outward
  | inward
  deriving DecidableEq, Repr

namespace TransferType

/-- Both ways. -/
def all : List TransferType := [outward, inward]

/-- The word for a way. -/
def tag : TransferType → String
  | outward => "out"
  | inward => "in"

/-- The way a word stands for. -/
def ofTag (value : String) : Except UnknownTag TransferType :=
  findTag "transfer type" tag all value

/-- The type of the transactions of a task. -/
def transactionType : TransferType → TransactionType
  | outward => .assetTransferOut
  | inward => .assetTransferIn

end TransferType

/-- One prepared call. -/
structure TransferCall where
  chainId : UInt64
  chainName : String
  sender : Address
  receiver : Address
  inputData : List UInt8
  symbol : String
  amount : Decimal
  deriving DecidableEq, Repr

/-- The calls of a task. -/
structure TransferParams where
  transfers : List TransferCall
  deriving DecidableEq, Repr

open Json (Reader)

/-- Reads a call. -/
def TransferCall.read : Reader TransferCall := fun document => do
  let r ← Json.record "struct TransferCall"
    ["chain_id", "chain_name", "from", "to", "input_data", "symbol", "amount"] document
  let chainId ← r.required "chain_id" Reader.uint64
  let chainName ← r.required "chain_name" Reader.text
  let sender ← r.required "from" Reader.address
  let receiver ← r.required "to" Reader.address
  let inputData ← r.required "input_data" Reader.bytes
  let symbol ← r.required "symbol" Reader.text
  let amount ← r.required "amount" Reader.decimal
  return ⟨chainId, chainName, sender, receiver, inputData, symbol, amount⟩

/-- Writes a call. -/
def TransferCall.toJson (t : TransferCall) : Json :=
  .object [("chain_id", .word t.chainId), ("chain_name", .text t.chainName),
    ("from", t.sender.toJson), ("to", t.receiver.toJson),
    ("input_data", .text (Hex.toText t.inputData)), ("symbol", .text t.symbol),
    ("amount", t.amount.toJson)]

namespace TransferParams

/-- Reads the fields of the first version. -/
def readFields : Reader TransferParams := fun document => do
  let r ← Json.record "struct variant TransferParams::V1" ["transfers"] document
  let transfers ← r.required "transfers" (Reader.list TransferCall.read)
  return ⟨transfers⟩

/-- Reads the stored text. -/
def ofText : String → Except Json.ReadError TransferParams :=
  Json.readVersioned "TransferParams" "v1" readFields

/-- The versioned record. -/
def toJson (p : TransferParams) : Json :=
  .object [("version", .text "v1"), ("transfers", .array (p.transfers.map TransferCall.toJson))]

/-- The text that is stored. -/
def toText (p : TransferParams) : String := p.toJson.render

end TransferParams

/-- A transfer task. -/
structure TransferTask where
  id : Int
  /-- The workflow the transfer is made for. -/
  rebalanceId : Int
  type : TransferType
  state : TransferState
  params : TransferParams
  progress : String
  message : String
  deriving DecidableEq, Repr

/-- The key under which the transactions of a task are kept. -/
def TransferTask.owner (t : TransferTask) : TaskOwner := .assetTransfer t.id

end Treasury
