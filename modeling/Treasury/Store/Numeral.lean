import Treasury.Binary64
import Treasury.Time

/-!
# Numbers in columns

A column of whole numbers takes text that reads as one: digits with a sign, a point or an
exponent, and blanks around them. Text without point and exponent is taken exactly if it has
at most sixty-four bits. Any other number is rounded to a binary one first, which has to be
whole then.

A column of text takes a binary number by its first fifteen digits.
-/

namespace Treasury

/-- The number `digits * 10 ^ power` with a sign. -/
structure Numeral where
  negative : Bool
  digits : Nat
  power : Int
  /-- It is written without point and exponent. -/
  plain : Bool
  deriving DecidableEq, Repr

namespace Numeral

/-- True of the blanks that may stand around a number. -/
def isBlank (c : Char) : Bool := c = ' ' ∨ (9 ≤ c.toNat ∧ c.toNat ≤ 13)

/-- The digits at the start, and the rest. -/
def spanDigits (cs : List Char) : List Char × List Char :=
  (cs.takeWhile Char.isDigit, cs.dropWhile Char.isDigit)

/-- The number that digits make; zero if there are none. -/
def valueOf (digits : List Char) : Nat :=
  digits.foldl (fun n c => 10 * n + (c.toNat - '0'.toNat)) 0

/-- True for a minus sign in front, and the text without a sign. -/
def splitSign : List Char → Bool × List Char
  | '-' :: cs => (true, cs)
  | '+' :: cs => (false, cs)
  | cs => (false, cs)

/-- The exponent that ends a number; zero if there is none. -/
def exponent? : List Char → Option Int
  | [] => some 0
  | mark :: cs =>
    let (negative, digits) := splitSign cs
    if (mark = 'e' ∨ mark = 'E') ∧ !digits.isEmpty ∧ digits.all Char.isDigit then
      some (if negative then -(valueOf digits : Int) else valueOf digits)
    else none

/-- Reads a number. -/
def ofText? (text : String) : Option Numeral :=
  let cs := text.toList.dropWhile isBlank
  let cs := (cs.reverse.dropWhile isBlank).reverse
  let (negative, cs) := splitSign cs
  let (whole, rest) := spanDigits cs
  let (fraction, last) := match rest with
    | '.' :: rest => spanDigits rest
    | rest => ([], rest)
  if whole.isEmpty ∧ fraction.isEmpty then none
  else
    (exponent? last).map fun e =>
      ⟨negative, valueOf (whole ++ fraction), e - fraction.length, rest.isEmpty⟩

/-- The binary number nearest to the number, or the largest. The power is looked at first, so
that no number beyond reason is worked out. -/
def real (n : Numeral) : Binary64 :=
  let size := ((toString n.digits).length : Int) + n.power
  if n.digits = 0 ∨ size < -400 then Binary64.zero n.negative
  else if 400 < size then Binary64.largest n.negative
  else
    Binary64.nearest n.negative (n.digits * Nat.pow 10 n.power.toNat) (Nat.pow 10 (-n.power).toNat)

end Numeral

namespace Binary64

/-- The whole number that a binary one is, if it is one of less than sixty-four bits. -/
def int? (x : Binary64) : Option Int :=
  let (n, d) := x.fraction
  if n % d = 0 ∧ n / d < 0x8000000000000000 then
    some (if x.negative then -(n / d : Nat) else (n / d : Nat))
  else none

/-! ## Text of fifteen digits -/

/-- The power of ten of the first digit of `n / d`, which is not zero. -/
def leadingPower (n d : Nat) : Int :=
  if d ≤ n then ((toString (n / d)).length : Int) - 1
  else
    let k := (toString d).length - (toString n).length
    if d ≤ n * Nat.pow 10 k then -(k : Int) else -(k : Int) - 1

/-- The first fifteen digits of `n / d`, a half going up, and the power of ten of the first of
them. -/
def fifteenDigits (n d : Nat) : Nat × Int :=
  let e := leadingPower n d
  let top := n * Nat.pow 10 (14 - e).toNat
  let bottom := d * Nat.pow 10 (e - 14).toNat
  let digits := (2 * top + bottom) / (2 * bottom)
  if digits = Nat.pow 10 15 then (Nat.pow 10 14, e + 1) else (digits, e)

/-- Digits with a point in front of the last `places` of them, without zeros at the end, but with
at least one digit behind the point. -/
def pointed (digits places : Nat) : String :=
  let (digits, places) := Decimal.stripZeros digits places
  if places = 0 then toString digits ++ ".0" else Decimal.magnitudeText digits places

/-- A binary number in a column of text: in plain form from `10 ^ -4` to below `10 ^ 15`, otherwise
with an exponent of at least two digits. -/
def toColumnText (x : Binary64) : String :=
  if x.isZero then "0.0"
  else
    let (digits, e) := fifteenDigits x.fraction.1 x.fraction.2
    let magnitude :=
      if -5 < e ∧ e < 15 then pointed digits (14 - e).toNat
      else
        let mark := if e < 0 then "e-" else "e+"
        pointed digits 14 ++ mark ++ Time.padded 2 e.natAbs
    if x.negative then "-" ++ magnitude else magnitude

end Binary64

/-- The whole number that a number in a column is taken for. -/
def Numeral.int? (n : Numeral) : Option Int :=
  let exact : Int := if n.negative then -(n.digits : Int) else n.digits
  if n.plain ∧ -0x8000000000000000 ≤ exact ∧ exact < 0x8000000000000000 then some exact
  else n.real.int?

end Treasury
