/-!
# Tables as text

Large tables are written as text: rows with blanks between them, each a list of hexadecimal
numbers with commas between them. `hexRows` reads such a table in one pass.
-/

namespace Treasury.Text

/-- A table as far as it has been read; rows and numbers stand backwards. -/
structure RowReader where
  rows : List (List Nat)
  /-- The finished numbers of the current row. -/
  row : List Nat
  /-- The number that is being read, if it has a digit. -/
  number : Option Nat

namespace RowReader

/-- Nothing read. -/
def empty : RowReader := ⟨[], [], none⟩

/-- The current row with the number that is being read. -/
def current (r : RowReader) : List Nat :=
  match r.number with
  | some n => n :: r.row
  | none => r.row

/-- Ends the current row, if it has a number. -/
def endRow (r : RowReader) : RowReader :=
  match r.current with
  | [] => r
  | row => ⟨row.reverse :: r.rows, [], none⟩

/-- The value of a capital hexadecimal digit. -/
def digit? (c : Char) : Option Nat :=
  if '0' ≤ c ∧ c ≤ '9' then some (c.toNat - '0'.toNat)
  else if 'A' ≤ c ∧ c ≤ 'F' then some (c.toNat - 'A'.toNat + 10)
  else none

/-- Takes the next character. -/
def take (r : RowReader) (c : Char) : RowReader :=
  match digit? c with
  | some d => { r with number := some (16 * r.number.getD 0 + d) }
  | none => if c = ',' then ⟨r.rows, r.current, none⟩ else r.endRow

end RowReader

/-- The rows of a table. -/
def hexRows (table : String) : List (List Nat) :=
  (table.toList.foldl RowReader.take RowReader.empty).endRow.rows.reverse

/-- The rows of a table of two columns. -/
def hexPairs (table : String) : List (Nat × Nat) :=
  (hexRows table).filterMap fun row =>
    match row with
    | [a, b] => some (a, b)
    | _ => none

/-- The rows of a table of three columns. -/
def hexTriples (table : String) : List (Nat × Nat × Nat) :=
  (hexRows table).filterMap fun row =>
    match row with
    | [a, b, c] => some (a, b, c)
    | _ => none

/-- The value of the run that `n` belongs to; a run has a first and a last number. -/
def valueIn? (runs : List (Nat × Nat × Nat)) (n : Nat) : Option Nat :=
  (runs.find? fun run => run.1 ≤ n ∧ n ≤ run.2.1).map (·.2.2)

end Treasury.Text
