import Treasury.Json.Read
import Treasury.Store.Leases
import Treasury.Store.Tasks
import Treasury.Store.Transfers
import Treasury.Store.Workflows
import Treasury.Text.Lowercase

/-!
# Rows from elsewhere

Other programs write to the tables too. A row comes as the list of its columns; a column
that is left out takes its default, and a row without a number of its own gets the next.
A column takes anything: a column of text takes a number as it is written, and a column of
numbers takes text that reads as one for a number.

The rules of the tables hold, but the conditions on single columns can be waived. Of several
faults the first counts in this order: the table and its columns, the number of the row, columns
that hold nothing, conditions, and rows that agree.
-/

namespace Treasury

namespace Import

/-- A name as the tables know it: the case of its letters does not count. -/
def plainName (name : String) : String := String.ofList (name.toList.map Text.lowerAscii)

/-- A row by its columns. -/
structure Row where
  table : String
  columns : List (String × Json)

namespace Row

/-- What a column is given. -/
def value? (row : Row) (name : String) : Option Json :=
  (row.columns.find? fun column => plainName column.1 = name).map (·.2)

/-! ## Values -/

/-- A value in a column of text. An array or an object is written as a document. -/
def toText : Json → String
  | .text s => s
  | .int n =>
    match Cell.ofInt n with
    | .real x => x.toColumnText
    | _ => toString n
  | .real x => x.toColumnText
  | .bool b => if b then "1" else "0"
  | document => document.sorted.render

/-- A value in a column of numbers. -/
def toCell : Json → Cell
  | .int n => Cell.ofInt n
  | .real x => Cell.ofReal x
  | .bool b => .int (if b then 1 else 0)
  | value => Cell.ofText (toText value)

/-! ## Columns -/

/-- A column that has to hold something, with the value it takes if it is left out. -/
def column {α : Type} (row : Row) (name : String) (default : Option α) (convert : Json → α) :
    Except Violation α :=
  match row.value? name, default with
  | some .null, _ | none, none => .error (.notNull (row.table ++ "." ++ name))
  | none, some a => .ok a
  | some value, _ => .ok (convert value)

/-- A column of text. -/
def text (row : Row) (name : String) (default : Option String) : Except Violation String :=
  row.column name default toText

/-- A column of text that may be empty. -/
def nullableText (row : Row) (name : String) : Option String :=
  match row.value? name with
  | some .null | none => none
  | some value => some (toText value)

/-- A column of numbers. -/
def cell (row : Row) (name : String) : Except Violation Cell := row.column name none toCell

/-- A column of times; left out, it holds the time of writing. -/
def stamp (row : Row) (name : String) : Except Violation Stamp :=
  row.column name (some .readable) fun value => .ofCell (toCell value)

/-- The number of the row: its own or the next of the table. -/
def number {α : Type} (row : Row) (table : Table α) : Except Violation Int :=
  match row.value? "id" with
  | some .null | none => table.nextNumber
  | some value =>
    match toCell value with
    | .int id => .ok id
    | _ => .error .mismatch

/-- Refuses a row with a column that its table does not have. -/
def checkColumns (row : Row) (names : List String) : Except Violation Unit :=
  let unknown := (row.columns.map (·.1)).filter fun name => !names.contains (plainName name)
  match unknown.mergeSort (fun a b => a ≤ b) with
  | [] => .ok ()
  | name :: _ => .error (.noColumn row.table name)

end Row

/-- Checks a row unless that is waived. -/
def checked (check : Bool) (rule : Except Violation Unit) : Except Violation Unit :=
  if check then rule else .ok ()

/-- Puts a row into a table in order of its number, which must be new. -/
def place {α : Type} (name : String) (table : Table α) (number : α → Int) (row : α) :
    Except Violation (Table α) :=
  if table.rows.any (number · = number row) then .error (.primaryKey (name ++ ".id"))
  else .ok (table.place number row)

/-- Writes a row of the workflow table. -/
def workflow (s : Store) (row : Row) (check : Bool) : Except Violation (Store × Int) := do
  row.checkColumns ["id", "state", "params", "message", "progress", "created_at", "updated_at"]
  let id ← row.number s.workflows
  let state ← row.text "state" none
  let params ← row.text "params" none
  let message ← row.text "message" (some "")
  let progress ← row.text "progress" (some "")
  let createdAt ← row.stamp "created_at"
  let updatedAt ← row.stamp "updated_at"
  let written : WorkflowRow := ⟨id, state, params, message, progress, createdAt, updatedAt⟩
  checked check written.check
  return ({ s with workflows := ← place row.table s.workflows WorkflowRow.id written }, id)

/-- Writes a row of the transaction table. -/
def task (s : Store) (row : Row) (check : Bool) : Except Violation (Store × Int) := do
  row.checkColumns
    ["id", "owner_kind", "owner_id", "transaction_type", "chain_id", "chain_name",
      "from_address", "to_address", "nonce", "gas_price", "gas_limit", "input_data", "params",
      "state", "message", "tx_hash", "created_at", "updated_at"]
  let id ← row.number s.tasks
  let ownerKind ← row.text "owner_kind" none
  let ownerId ← row.cell "owner_id"
  let type ← row.text "transaction_type" none
  let chainId ← row.cell "chain_id"
  let chainName ← row.text "chain_name" none
  let sender ← row.text "from_address" none
  let receiver ← row.text "to_address" none
  let nonce ← row.cell "nonce"
  let gasPrice ← row.text "gas_price" none
  let gasLimit ← row.cell "gas_limit"
  let inputData ← row.text "input_data" none
  let params ← row.text "params" none
  let state ← row.text "state" none
  let message ← row.text "message" (some "")
  let hash := row.nullableText "tx_hash"
  let createdAt ← row.stamp "created_at"
  let updatedAt ← row.stamp "updated_at"
  let written : TaskRow :=
    ⟨id, ownerKind, ownerId, type, chainId, chainName, sender, receiver, nonce, gasPrice,
      gasLimit, inputData, params, state, message, hash, createdAt, updatedAt⟩
  checked check written.check
  let table ← place row.table s.tasks TaskRow.id written
  s.checkNonce written
  return ({ s with tasks := table }, id)

/-- Writes a row of the transfer table. -/
def transfer (s : Store) (row : Row) (check : Bool) : Except Violation (Store × Int) := do
  row.checkColumns
    ["id", "rebalance_id", "transfer_type", "state", "params", "progress", "message",
      "created_at", "updated_at"]
  let id ← row.number s.transfers
  let rebalanceId ← row.cell "rebalance_id"
  let type ← row.text "transfer_type" none
  let state ← row.text "state" none
  let params ← row.text "params" none
  let progress ← row.text "progress" (some "")
  let message ← row.text "message" (some "")
  let createdAt ← row.stamp "created_at"
  let updatedAt ← row.stamp "updated_at"
  let written : TransferRow :=
    ⟨id, rebalanceId, type, state, params, progress, message, createdAt, updatedAt⟩
  checked check written.check
  return ({ s with transfers := ← place row.table s.transfers TransferRow.id written }, id)

/-- Writes a row of the lease table; the lease starts now unless the row says otherwise. -/
def lease (s : Store) (row : Row) (now : Int) : Except Violation (Store × Int) := do
  row.checkColumns ["name", "holder", "locked_at"]
  let name ← row.text "name" none
  let holder ← row.text "holder" none
  let lockedAt ← row.column "locked_at" ((Time.toText? now).map Cell.text) Row.toCell
  s.insertLease name holder lockedAt

end Import

/-- Writes a row as it is and gives its number. -/
def Store.importRow (s : Store) (table : String) (columns : List (String × Json)) (check : Bool)
    (now : Int) : Except Violation (Store × Int) :=
  let row : Import.Row := ⟨Import.plainName table, columns⟩
  if row.table = "rebalance_workflows" then Import.workflow s row check
  else if row.table = "transaction_tasks" then Import.task s row check
  else if row.table = "asset_transfer_tasks" then Import.transfer s row check
  else if row.table = "orchestrator_leases" then Import.lease s row now
  else .error (.noTable table)

end Treasury
