import Treasury.Store.Cell
import Treasury.Text.Blank

/-!
# Times of rows

A row carries the time of its first writing and of its last change. Nothing is made of either, but a
row with one that is no time cannot be loaded. A time may be text, the seconds since 1970 as a
whole number, or the days of the count that astronomers use as a number with a fraction.
-/

namespace Treasury

/-- The time that a row carries. -/
inductive Stamp where
  | readable
  /-- It is no time; as it stands in its column. -/
  | unreadable (value : String)
  deriving DecidableEq, Repr

namespace Stamp

/-! ## Times as text -/

/-- A reader of the start of a text; it gives what follows. -/
abbrev Reader := List Char → Option (List Char)

/-- Skips blanks. -/
def skipBlanks (cs : List Char) : List Char := cs.dropWhile Text.isBlank

/-- A number of at most `width` digits, behind blanks. -/
def number? (width : Nat) (cs : List Char) : Option (Nat × List Char) :=
  let cs := skipBlanks cs
  let digits := (cs.take width).takeWhile Char.isDigit
  (Decimal.natural? digits).map fun n => (n, cs.drop digits.length)

/-- A number of at most two digits from `low` to `high`. -/
def within (low high : Nat) : Reader := fun cs =>
  (number? 2 cs).bind fun (n, rest) => if low ≤ n ∧ n ≤ high then some rest else none

/-- One of some characters. -/
def mark (isMark : Char → Bool) : Reader
  | c :: rest => if isMark c then some rest else none
  | [] => none

/-- A year: up to four digits, or any number of them behind a sign. -/
def year? (cs : List Char) : Option (Int × List Char) :=
  match skipBlanks cs with
  | '-' :: rest => (number? rest.length rest).map fun (n, rest) => (-(n : Int), rest)
  | '+' :: rest => (number? rest.length rest).map fun (n, rest) => ((n : Int), rest)
  | cs => (number? 4 cs).map fun (n, rest) => ((n : Int), rest)

/-- A date, year first, of the years that the calendar is kept for. -/
def date? : Reader := fun cs => do
  let (year, rest) ← year? cs
  let (month, rest) ← number? 2 (← mark (· = '-') rest)
  let rest ← mark (· = '-') rest
  if -262143 ≤ year ∧ year ≤ 262142 ∧ 1 ≤ month ∧ month ≤ 12 then
    within 1 (Time.daysIn (year.emod 400).toNat month) rest
  else none

/-- A fraction of a second, if there is one. -/
def fraction? : Reader
  | '.' :: rest => if rest.head?.any Char.isDigit then some (rest.dropWhile Char.isDigit) else none
  | cs => some cs

/-- Hours and minutes, and seconds if there are any. -/
def clock? : Reader := fun cs => do
  let rest ← within 0 59 (← mark (· = ':') (← within 0 23 cs))
  match rest with
  | ':' :: rest => fraction? (← within 0 60 rest)
  | rest => return rest

/-- The offset from universal time, if there is one. -/
def offset? : Reader
  | [] => some []
  | 'Z' :: rest | 'z' :: rest => some rest
  | cs => do
    let startsWithPair (cs : List Char) : Bool :=
      (cs.take 2).length = 2 ∧ (cs.take 2).all Char.isDigit
    let hours ← mark (fun c => c = '+' ∨ c = '-') (skipBlanks cs)
    let minutes := (hours.drop 2).dropWhile fun c => c = ':' ∨ Text.isBlank c
    if startsWithPair hours ∧ startsWithPair minutes then within 0 59 minutes else none

/-- True of a text that is a date and a time of the day. -/
def isTime (text : String) : Bool :=
  let behind : Option (List Char) := do
    let rest ← date? text.toList
    let rest := match rest with
      | 'T' :: rest | 't' :: rest => rest
      | rest => skipBlanks rest
    offset? (← clock? rest)
  behind = some []

/-! ## Stamps -/

/-- True of the seconds since 1970 that lie in the years that the calendar is kept for. -/
def isSecond (seconds : Int) : Bool := -8334601228800 ≤ seconds ∧ seconds ≤ 8210266876799

/-- True of what a row may carry as a time. The count of astronomers was at 2440587 days and a half
when 1970 started. -/
def isReadable : Cell → Bool
  | .int n => isSecond n
  | .real x =>
    let cell := Cell.real x
    isSecond (((2 * cell.numerator - 4881175 * cell.denominator) * 43200).tdiv cell.denominator)
  | .text s => isTime s

/-- The time that a cell holds. -/
def ofCell (cell : Cell) : Stamp := if isReadable cell then .readable else .unreadable cell.toText

/-- Refuses a column that holds no time. -/
def check (column : String) : Stamp → Except ColumnFault Unit
  | readable => .ok ()
  | unreadable value => .error (.noTime column value)

end Stamp

end Treasury
