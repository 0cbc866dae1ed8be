/-!
# Tables

A table numbers its rows from one upwards and never gives a number twice, also when the row
that had it is gone. Rows are kept in order of their numbers. Numbers have sixty-four bits; once
the largest has been given out, no row can be added.
-/

namespace Treasury

/-- The rows of a table, and the highest number it has given out. -/
structure Table (α : Type) where
  rows : List α
  last : Int
  deriving DecidableEq, Repr

namespace Table

variable {α : Type}

/-- A table that has never held a row. -/
def empty : Table α := ⟨[], 0⟩

/-- The largest number of a row. -/
def maxId : Int := 0x7FFFFFFFFFFFFFFF

/-- The number the next row gets, if one is left. -/
def nextId? (t : Table α) : Option Int := if t.last < maxId then some (t.last + 1) else none

/-- Adds a row under the number that it got. -/
def push (t : Table α) (id : Int) (row : α) : Table α := ⟨t.rows ++ [row], id⟩

/-- Puts a row of a number of its own into its place. -/
def place (t : Table α) (number : α → Int) (row : α) : Table α :=
  let before := t.rows.takeWhile fun r => number r < number row
  let after := t.rows.dropWhile fun r => number r < number row
  ⟨before ++ row :: after, max t.last (number row)⟩

/-- Applies `f` to the rows of which `p` holds, and counts them. -/
def update (t : Table α) (p : α → Bool) (f : α → α) : Table α × Nat :=
  (⟨t.rows.map fun r => if p r then f r else r, t.last⟩, t.rows.countP p)

end Table

end Treasury
