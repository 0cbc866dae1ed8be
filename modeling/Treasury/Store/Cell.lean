import Treasury.Store.Numeral

/-!
# Columns of numbers

A column is meant for whole numbers or for times, but another program may have left anything
there. What reads as a whole number becomes one. Other numbers and text stay what they are: such
a cell takes its place in the order of the column, numbers before text, but a row with it is
not loaded where a whole number is asked for.

Numbers of different kinds are compared exactly (`Cell.le`). Where a column holds nothing but whole
numbers, its greatest cell is the greatest of them (`Cell.max?_map_int`).
-/

namespace Treasury

/-- What a column of numbers holds in one row. -/
inductive Cell where
  | int (value : Int)
  | real (value : Binary64)
  | text (value : String)
  deriving DecidableEq, Repr

/-- Why a column cannot be read back. A column without a name is the only one of an answer. -/
inductive ColumnFault where
  /-- It holds something of another kind than a whole number. -/
  | mismatch (column : Option String) (kind : String)
  /-- It holds no time. -/
  | noTime (column value : String)
  deriving DecidableEq, Repr

namespace ColumnFault

/-- The sentence for a column that cannot be read back. -/
def sentence (column : Option String) (reason : String) : String :=
  let place := match column with
    | some name => "\x22" ++ name ++ "\x22"
    | none => "0"
  s!"error occurred while decoding column {place}: {reason}"

/-- The sentence for a fault. A column of an answer may be empty, one of a row may not. -/
def message : ColumnFault → String
  | mismatch column kind =>
    let wanted := if column.isSome then "i64" else "core::option::Option<i64>"
    sentence column (s!"mismatched types; Rust type \x60{wanted}\x60 (as SQL type " ++
      s!"\x60INTEGER\x60) is not compatible with SQL type \x60{kind}\x60")
  | noTime column value => sentence (some column) s!"invalid datetime: {value}"

end ColumnFault

namespace Cell

/-! ## What a column makes of a value -/

/-- A binary number in a column of numbers. -/
def ofReal (x : Binary64) : Cell :=
  match x.int? with
  | some n => .int n
  | none => .real x

/-- A whole number in a column of numbers, which holds at most sixty-four bits. -/
def ofInt (n : Int) : Cell :=
  if -0x8000000000000000 ≤ n ∧ n < 0x8000000000000000 then .int n
  else ofReal (Binary64.nearest (n < 0) n.natAbs 1)

/-- A text in a column of numbers. -/
def ofText (s : String) : Cell :=
  match Numeral.ofText? s with
  | none => .text s
  | some n =>
    match n.int? with
    | some i => .int i
    | none => .real n.real

/-! ## Reading a cell -/

/-- What kind of value a cell holds. -/
def kind : Cell → String
  | int _ => "INTEGER"
  | real _ => "REAL"
  | text _ => "TEXT"

/-- The text of a cell. -/
def toText : Cell → String
  | int n => toString n
  | real x => x.toColumnText
  | text s => s

/-- The whole number that the cell of a column holds. -/
def read (column : Option String) : Cell → Except ColumnFault Int
  | int n => .ok n
  | cell => .error (.mismatch column cell.kind)

/-! ## The order of a column -/

/-- The numerator of a number; its denominator is positive. -/
def numerator : Cell → Int
  | int n => n
  | real x => if x.negative then -(x.fraction.1 : Int) else x.fraction.1
  | text _ => 0

/-- The denominator of a number. -/
def denominator : Cell → Int
  | real x => x.fraction.2
  | _ => 1

/-- True of two cells in order. -/
def le : Cell → Cell → Bool
  | int a, int b => a ≤ b
  | text a, text b => a ≤ b
  | text _, _ => false
  | _, text _ => true
  | a, b => a.numerator * b.denominator ≤ b.numerator * a.denominator

/-- The greater of two cells. -/
def max (a b : Cell) : Cell := if a.le b then b else a

/-- The greatest cell of a column. -/
def max? : List Cell → Option Cell
  | [] => none
  | cell :: rest => some (rest.foldl max cell)

theorem max_int (a b : Int) : max (.int a) (.int b) = .int (Max.max a b) := by
  unfold max le
  by_cases h : a ≤ b
  · rw [Int.max_eq_right h]
    simp [h]
  · rw [Int.max_eq_left (Int.le_of_lt (Int.not_le.1 h))]
    simp [h]

theorem foldl_max_int (ns : List Int) (n : Int) :
    (ns.map int).foldl max (.int n) = .int (ns.foldl Max.max n) := by
  induction ns generalizing n with
  | nil => rfl
  | cons m ns ih => rw [List.map_cons, List.foldl_cons, max_int, ih, List.foldl_cons]

theorem max?_map_int (ns : List Int) : max? (ns.map int) = ns.max?.map int := by
  cases ns with
  | nil => rfl
  | cons n ns => simp only [List.map_cons, max?, foldl_max_int, List.max?_cons']; rfl

end Cell

end Treasury
