import Treasury.Json.Read
import Treasury.Store.Basic

/-!
# The store as a document

Between two commands the store is kept in a file that holds one document: an object with a
member for each table. A table is an object of its rows and of the highest number it has
given out, so that a number is never given twice, also not after the row that had it is gone.
-/

namespace Treasury

open Json (record)

/-- A cell as a document. -/
def Cell.toJson : Cell → Json
  | .int n => .int n
  | .real x => .real x
  | .text s => .text s

/-- Reads a cell. -/
def Cell.ofJson : Json.Reader Cell
  | .int n => .ok (.int n)
  | .real x => .ok (.real x)
  | .text s => .ok (.text s)
  | other => .error (.wrongType other.kind "a cell")

/-- A stamp as a document: nothing, or what stands in the place of a time. -/
def Stamp.toJson : Stamp → Json
  | .readable => .null
  | .unreadable value => .text value

/-- Reads a stamp. -/
def Stamp.ofJson : Json.Reader Stamp
  | .null => .ok .readable
  | .text value => .ok (.unreadable value)
  | other => .error (.wrongType other.kind "a time")

/-- A workflow row as a document. -/
def WorkflowRow.toJson (r : WorkflowRow) : Json :=
  .object [("id", .int r.id), ("state", .text r.state), ("params", .text r.params),
    ("message", .text r.message), ("progress", .text r.progress),
    ("created_at", r.createdAt.toJson), ("updated_at", r.updatedAt.toJson)]

/-- Reads a workflow row. -/
def WorkflowRow.read : Json.Reader WorkflowRow := fun document => do
  let r ← record "a workflow"
    ["id", "state", "params", "message", "progress", "created_at", "updated_at"] document
  return ⟨← r.required "id" Json.Reader.int64, ← r.required "state" Json.Reader.text,
    ← r.required "params" Json.Reader.text, ← r.required "message" Json.Reader.text,
    ← r.required "progress" Json.Reader.text,
    ← r.required "created_at" Stamp.ofJson, ← r.required "updated_at" Stamp.ofJson⟩

/-- A transaction row as a document. -/
def TaskRow.toJson (r : TaskRow) : Json :=
  .object [("id", .int r.id), ("owner_kind", .text r.ownerKind), ("owner_id", r.ownerId.toJson),
    ("transaction_type", .text r.type), ("chain_id", r.chainId.toJson),
    ("chain_name", .text r.chainName), ("from_address", .text r.sender),
    ("to_address", .text r.receiver), ("nonce", r.nonce.toJson), ("gas_price", .text r.gasPrice),
    ("gas_limit", r.gasLimit.toJson), ("input_data", .text r.inputData),
    ("params", .text r.params), ("state", .text r.state), ("message", .text r.message),
    ("tx_hash", match r.hash with
      | some hash => .text hash
      | none => .null),
    ("created_at", r.createdAt.toJson), ("updated_at", r.updatedAt.toJson)]

/-- Reads a transaction row. -/
def TaskRow.read : Json.Reader TaskRow := fun document => do
  let r ← record "a transaction"
    ["id", "owner_kind", "owner_id", "transaction_type", "chain_id", "chain_name",
      "from_address", "to_address", "nonce", "gas_price", "gas_limit", "input_data", "params",
      "state", "message", "tx_hash", "created_at", "updated_at"] document
  return ⟨← r.required "id" Json.Reader.int64, ← r.required "owner_kind" Json.Reader.text,
    ← r.required "owner_id" Cell.ofJson,
    ← r.required "transaction_type" Json.Reader.text,
    ← r.required "chain_id" Cell.ofJson, ← r.required "chain_name" Json.Reader.text,
    ← r.required "from_address" Json.Reader.text, ← r.required "to_address" Json.Reader.text,
    ← r.required "nonce" Cell.ofJson, ← r.required "gas_price" Json.Reader.text,
    ← r.required "gas_limit" Cell.ofJson, ← r.required "input_data" Json.Reader.text,
    ← r.required "params" Json.Reader.text, ← r.required "state" Json.Reader.text,
    ← r.required "message" Json.Reader.text, ← r.nullable "tx_hash" Json.Reader.text,
    ← r.required "created_at" Stamp.ofJson, ← r.required "updated_at" Stamp.ofJson⟩

/-- A transfer row as a document. -/
def TransferRow.toJson (r : TransferRow) : Json :=
  .object [("id", .int r.id), ("rebalance_id", r.rebalanceId.toJson),
    ("transfer_type", .text r.type), ("state", .text r.state), ("params", .text r.params),
    ("progress", .text r.progress), ("message", .text r.message),
    ("created_at", r.createdAt.toJson), ("updated_at", r.updatedAt.toJson)]

/-- Reads a transfer row. -/
def TransferRow.read : Json.Reader TransferRow := fun document => do
  let r ← record "a transfer"
    ["id", "rebalance_id", "transfer_type", "state", "params", "progress", "message",
      "created_at", "updated_at"] document
  return ⟨← r.required "id" Json.Reader.int64, ← r.required "rebalance_id" Cell.ofJson,
    ← r.required "transfer_type" Json.Reader.text, ← r.required "state" Json.Reader.text,
    ← r.required "params" Json.Reader.text, ← r.required "progress" Json.Reader.text,
    ← r.required "message" Json.Reader.text, ← r.required "created_at" Stamp.ofJson,
    ← r.required "updated_at" Stamp.ofJson⟩

/-- A lease row as a document. -/
def LeaseRow.toJson (r : LeaseRow) : Json :=
  .object [("row", .int r.row), ("name", .text r.name), ("holder", .text r.holder),
    ("locked_at", r.lockedAt.toJson)]

/-- Reads a lease row. -/
def LeaseRow.read : Json.Reader LeaseRow := fun document => do
  let r ← record "a lease" ["row", "name", "holder", "locked_at"] document
  return ⟨← r.required "row" Json.Reader.int64, ← r.required "name" Json.Reader.text,
    ← r.required "holder" Json.Reader.text, ← r.required "locked_at" Cell.ofJson⟩

/-- A table as a document. -/
def Table.toJson {α : Type} (row : α → Json) (t : Table α) : Json :=
  .object [("rows", .array (t.rows.map row)), ("last", .int t.last)]

/-- Reads a table. -/
def Table.read {α : Type} (row : Json.Reader α) : Json.Reader (Table α) := fun document => do
  let r ← record "a table" ["rows", "last"] document
  return ⟨← r.required "rows" (Json.Reader.list row), ← r.required "last" Json.Reader.int64⟩

namespace Store

/-- The store as a document. -/
def toJson (s : Store) : Json :=
  .object [("workflows", s.workflows.toJson WorkflowRow.toJson),
    ("tasks", s.tasks.toJson TaskRow.toJson),
    ("transfers", s.transfers.toJson TransferRow.toJson),
    ("leases", .array (s.leases.map LeaseRow.toJson))]

/-- Reads the store. -/
def read : Json.Reader Store := fun document => do
  let r ← record "a store" ["workflows", "tasks", "transfers", "leases"] document
  return ⟨← r.required "workflows" (Table.read WorkflowRow.read),
    ← r.required "tasks" (Table.read TaskRow.read),
    ← r.required "transfers" (Table.read TransferRow.read),
    ← r.required "leases" (Json.Reader.list LeaseRow.read)⟩

/-- The text of the file that keeps the store. -/
def toText (s : Store) : String := s.toJson.render

/-- Reads the text of the file that keeps the store. -/
def ofText? (text : String) : Option Store :=
  match Json.parse text with
  | .error _ => none
  | .ok document => (read document).toOption

/-- The file that a database address names: what stands behind the scheme, without a query.
The address of a store that is not kept names none. -/
def fileOf? (databaseUrl : String) : Option String :=
  let cs := databaseUrl.toList
  let behind := match cs.dropWhile (· ≠ ':') with
    | ':' :: '/' :: '/' :: rest => rest
    | ':' :: rest => rest
    | _ => cs
  let name := String.ofList (behind.takeWhile (· ≠ '?'))
  if name = "" ∨ name = ":memory:" then none else some name

end Store

end Treasury
