import Treasury.Store.Stamp
import Treasury.Store.Table

/-!
# The store

Four tables: workflows, transactions, transfer tasks, and the leases of ticks. Rows hold
plain text and numbers, also where only certain words, formats or numbers have a meaning,
because other programs write to the tables as well. What a row means is found out when it
is loaded.

The tables guard a few rules themselves: some columns hold one of certain words, no two
transactions of a sender on a chain have one nonce, and a lease has one row. A row against
the rules is a `Violation` and is not written; so is a row for which a table has no number, no
column or no room.
-/

namespace Treasury

/-- A row of the workflow table. -/
structure WorkflowRow where
  id : Int
  state : String
  params : String
  message : String
  progress : String
  createdAt : Stamp := .readable
  updatedAt : Stamp := .readable
  deriving DecidableEq, Repr

/-- A row of the transaction table. -/
structure TaskRow where
  id : Int
  ownerKind : String
  ownerId : Cell
  type : String
  chainId : Cell
  chainName : String
  sender : String
  receiver : String
  nonce : Cell
  gasPrice : String
  gasLimit : Cell
  inputData : String
  params : String
  state : String
  message : String
  hash : Option String
  createdAt : Stamp := .readable
  updatedAt : Stamp := .readable
  deriving DecidableEq, Repr

/-- A row of the transfer table. -/
structure TransferRow where
  id : Int
  rebalanceId : Cell
  type : String
  state : String
  params : String
  progress : String
  message : String
  createdAt : Stamp := .readable
  updatedAt : Stamp := .readable
  deriving DecidableEq, Repr

/-- A row of the lease table. -/
structure LeaseRow where
  /-- The number of the row, which nothing refers to. -/
  row : Int
  name : String
  /-- The token of the tick that holds the lease. -/
  holder : String
  /-- When the lease was taken. -/
  lockedAt : Cell
  deriving DecidableEq, Repr

/-- All tables. -/
structure Store where
  workflows : Table WorkflowRow
  tasks : Table TaskRow
  transfers : Table TransferRow
  leases : List LeaseRow
  deriving DecidableEq, Repr

/-- The store before anything has happened. -/
def Store.empty : Store := ⟨.empty, .empty, .empty, []⟩

/-! ## Rules -/

/-- A rule that a row is against. -/
inductive Violation where
  /-- A column has to hold a value. -/
  | notNull (column : String)
  /-- A column has to fulfil a condition. -/
  | check (condition : String)
  /-- No two rows may agree in these columns. -/
  | unique (columns : String)
  /-- No two rows may have one key. -/
  | primaryKey (column : String)
  /-- The number of a row has to be a whole number. -/
  | mismatch
  /-- No number is left for another row. -/
  | full
  /-- There is no such table. -/
  | noTable (table : String)
  /-- A table has no such column. -/
  | noColumn (table column : String)
  deriving DecidableEq, Repr

namespace Violation

/-- The sentence for a violation. -/
def message : Violation → String
  | notNull column => s!"NOT NULL constraint failed: {column}"
  | check condition => s!"CHECK constraint failed: {condition}"
  | unique columns => s!"UNIQUE constraint failed: {columns}"
  | primaryKey column => s!"UNIQUE constraint failed: {column}"
  | mismatch => "datatype mismatch"
  | full => "database or disk is full"
  | noTable table => s!"no such table: {table}"
  | noColumn table column => s!"table {table} has no column named {column}"

/-- The number of a kind of violation. -/
def code : Violation → Nat
  | notNull _ => 1299
  | check _ => 275
  | unique _ => 2067
  | primaryKey _ => 1555
  | mismatch => 20
  | full => 13
  | noTable _ => 1
  | noColumn _ _ => 1

/-- The sentence with the number. -/
def report (v : Violation) : String :=
  s!"error returned from database: (code: {v.code}) {v.message}"

end Violation

/-- The number the next row of a table gets. -/
def Table.nextNumber {α : Type} (t : Table α) : Except Violation Int :=
  match t.nextId? with
  | some id => .ok id
  | none => .error .full

/-- The condition that a column holds one of some words. -/
def oneOf (column : String) (words : List String) : String :=
  column ++ " IN (" ++ ", ".intercalate (words.map fun w => "'" ++ w ++ "'") ++ ")"

/-- Refuses a row whose column does not hold one of some words. -/
def checkWord (column : String) (words : List String) (value : String) :
    Except Violation Unit :=
  if words.contains value then .ok () else .error (.check (oneOf column words))

/-- Refuses a row that is against a condition. -/
def checkThat (condition : String) (holds : Bool) : Except Violation Unit :=
  if holds then .ok () else .error (.check condition)

end Treasury
