import Treasury.Binary64
import Treasury.Settings.Toml.Text
import Treasury.Settings.Toml.Basic
import Treasury.Time

/-!
# Values of one word

Whole numbers in all four bases, numbers with a fraction or an exponent, dates, times and
truth values. A word is everything up to the next blank, comma or bracket, with one
exception: one blank may stand between a date and a time.
-/

namespace Treasury.Toml

/-! ## Numbers -/

/-- The value of a digit in a base. -/
def digit? (base : Nat) (c : Char) : Option Nat :=
  (Hex.digit? c).bind fun d => if d < base then some d else none

/-- Digits of a base, with single underscores between them. -/
def digits? (base : Nat) (n : Nat) : List Char → Option Nat
  | [] => none
  | [c] => (digit? base c).map (base * n + ·)
  | c :: '_' :: rest => (digit? base c).bind fun d => digits? base (base * n + d) rest
  | c :: rest => (digit? base c).bind fun d => digits? base (base * n + d) rest

/-- Digits of a decimal number, which starts with zero only if it is zero. -/
def decimal? : List Char → Option Nat
  | ['0'] => some 0
  | '0' :: _ => none
  | cs => digits? 10 0 cs

/-- A whole number in any notation. -/
def number? : List Char → Option Int
  | '0' :: 'x' :: cs => (digits? 16 0 cs).map Int.ofNat
  | '0' :: 'o' :: cs => (digits? 8 0 cs).map Int.ofNat
  | '0' :: 'b' :: cs => (digits? 2 0 cs).map Int.ofNat
  | '+' :: cs => (decimal? cs).map Int.ofNat
  | '-' :: cs => (decimal? cs).map fun n => -Int.ofNat n
  | cs => (decimal? cs).map Int.ofNat

/-- Without a leading sign; true for minus. -/
def splitSign : List Char → Bool × List Char
  | '-' :: cs => (true, cs)
  | '+' :: cs => (false, cs)
  | cs => (false, cs)

/-- The digits in front of the first character for which `stop` holds, and the rest. -/
def cutAt (stop : Char → Bool) (cs : List Char) : List Char × List Char :=
  (cs.takeWhile (!stop ·), cs.dropWhile (!stop ·))

/-- True of the marks before an exponent. -/
def isMark (c : Char) : Bool := c = 'e' ∨ c = 'E'

/-- The exponent behind its mark; zero if there is none. -/
def exponent? : List Char → Option Int
  | [] => some 0
  | _ :: cs =>
    let (negative, digits) := splitSign cs
    (digits? 10 0 digits).map fun n => if negative then -Int.ofNat n else n

/-- True if `digits * 10 ^ power` is beyond the largest binary number of sixty-four bits. The
power is compared first, so that no number beyond reason is worked out. -/
def isBeyond (digits : Nat) (power : Int) : Bool :=
  let size := ((toString digits).length : Int) + power
  if digits = 0 ∨ size ≤ 300 then false
  else if 310 < size then true
  else
    (Binary64.nearest? false (digits * Nat.pow 10 power.toNat)
      (Nat.pow 10 (-power).toNat)).isNone

/-- True of a number with a fraction, an exponent or both. It may be too small, and below zero
also too large, but not too large above zero. -/
def isReal (cs : List Char) : Bool :=
  let (negative, unsigned) := splitSign cs
  let (mantissa, exponent) := cutAt isMark unsigned
  let (whole, fraction) := cutAt (· = '.') mantissa
  let places := fraction.drop 1
  if fraction.isEmpty ∧ exponent.isEmpty then false
  else
    match decimal? whole, if fraction.isEmpty then some 0 else digits? 10 0 places,
        exponent? exponent with
    | some n, some f, some e =>
      let width := (places.filter (· ≠ '_')).length
      negative || !isBeyond (n * Nat.pow 10 width + f) (e - width)
    | _, _, _ => false

/-- True of the words for what is no number, or none that is finite. -/
def isUnusual (cs : List Char) : Bool :=
  let (_, unsigned) := splitSign cs
  unsigned = ['i', 'n', 'f'] ∨ unsigned = ['n', 'a', 'n']

/-! ## Dates and times -/

/-- The number that exactly `width` digits make. -/
def fixed? (width : Nat) (cs : List Char) : Option Nat :=
  if cs.length = width then Decimal.natural? cs else none

/-- True if the digits make a number from `low` to `high`. -/
def isWithin (low high : Nat) (digits : List Char) : Bool :=
  match fixed? 2 digits with
  | some n => low ≤ n ∧ n ≤ high
  | none => false

/-- True of a date. -/
def isDate (cs : List Char) : Bool :=
  match cs.splitOn '-' with
  | [year, month, day] =>
    match fixed? 4 year, fixed? 2 month with
    | some y, some m => 1 ≤ m ∧ m ≤ 12 ∧ isWithin 1 (Time.daysIn y m) day
    | _, _ => false
  | _ => false

/-- True of hours and minutes. -/
def isClock (cs : List Char) : Bool :=
  match cs.splitOn ':' with
  | [hours, minutes] => isWithin 0 23 hours ∧ isWithin 0 59 minutes
  | _ => false

/-- True of a time; a minute may have a leap second. -/
def isTime (cs : List Char) : Bool :=
  let (clock, fraction) := cutAt (· = '.') cs
  let places := fraction.drop 1
  match clock.splitOn ':' with
  | [hours, minutes, seconds] =>
    isWithin 0 23 hours ∧ isWithin 0 59 minutes ∧ isWithin 0 60 seconds ∧
      (fraction.isEmpty ∨ (!places.isEmpty ∧ places.all fun c => (Decimal.digit? c).isSome))
  | _ => false

/-- True of a time with an offset from universal time behind it. -/
def isOffsetTime (cs : List Char) : Bool :=
  let (time, offset) := cutAt (fun c => c = 'Z' ∨ c = 'z' ∨ c = '+' ∨ c = '-') cs
  match offset with
  | [] => false
  | [c] => isTime time ∧ (c = 'Z' ∨ c = 'z')
  | c :: clock => isTime time ∧ (c = '+' ∨ c = '-') ∧ isClock clock

/-- True of what may follow a date. -/
def isTimeOfDay (cs : List Char) : Bool := isTime cs ∨ isOffsetTime cs

/-- True of a date and time joined by a letter. -/
def isJoined (cs : List Char) : Bool :=
  let (date, time) := cutAt (fun c => c = 'T' ∨ c = 't') cs
  isDate date ∧ isTimeOfDay (time.drop 1)

/-! ## Words -/

/-- True of the characters that a word can hold. -/
def isWordChar (c : Char) : Bool := isBare c ∨ c = '+' ∨ c = '.' ∨ c = ':'

/-- The value of one word. Whole numbers have sixty-four bits. -/
def word? (cs : List Char) : Option Toml :=
  if cs = ['t', 'r', 'u', 'e'] then some (.boolean true)
  else if cs = ['f', 'a', 'l', 's', 'e'] then some (.boolean false)
  else if isReal cs ∨ isUnusual cs then some (.real (String.ofList cs))
  else if isTime cs ∨ isDate cs ∨ isJoined cs then some (.moment (String.ofList cs))
  else
    (number? cs).bind fun n =>
      if -0x8000000000000000 ≤ n ∧ n < 0x8000000000000000 then some (.integer n) else none

/-- Reads a word, or a date and a time with a blank between them. -/
def scalar? (cs : List Char) : Option (Toml × List Char) :=
  let word := cs.takeWhile isWordChar
  let rest := cs.dropWhile isWordChar
  let time := (rest.drop 1).takeWhile isWordChar
  if isDate word ∧ rest.head? = some ' ' ∧ !time.isEmpty then
    if isTimeOfDay time then
      some (.moment (String.ofList (word ++ ' ' :: time)), (rest.drop 1).dropWhile isWordChar)
    else none
  else (word? word).map fun v => (v, rest)

end Treasury.Toml
