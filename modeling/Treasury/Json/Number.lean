import Treasury.Json.Syntax
import Treasury.Json.Value

/-!
# Numbers in documents

Numbers are read one character at a time. A number without fraction and exponent that fits
a machine word is whole; every other number becomes binary. Its significand is gathered in a
word: once the word is full, further digits only move the point. The significand is rounded
to a binary number, which is then multiplied or divided by the binary number nearest to the
power of ten.
-/

namespace Treasury.Json

/-- What may come next in a number. -/
inductive NumberStage where
  | sign
  | zero
  | whole
  | wholeFull
  | point
  | fraction
  | fractionFull
  | mark
  | markSign
  | exponent
  deriving DecidableEq, Repr

/-- A number as far as it has been read. -/
structure Scan where
  stage : NumberStage
  negative : Bool
  significand : Nat
  /-- The power of ten that the significand is in units of. -/
  power : Int
  exponentNegative : Bool
  exponent : Nat
  deriving Repr

namespace Scan

/-- After a minus sign. -/
def afterSign : Scan := ⟨.sign, true, 0, 0, false, 0⟩

/-- What to do with a character that comes next. -/
inductive Step where
  | more (scan : Scan)
  | stop
  | refuse (fault : Fault)

/-- The number with its first digit. -/
def firstDigit (negative : Bool) (d : Nat) : Scan :=
  ⟨if d = 0 then .zero else .whole, negative, d, 0, false, 0⟩

/-- Starts the fraction or the exponent, or ends the number. -/
def leaveWhole (s : Scan) (c : Char) : Step :=
  if c = '.' then .more { s with stage := .point }
  else if c = 'e' ∨ c = 'E' then .more { s with stage := .mark }
  else .stop

/-- Starts the exponent, or ends the number. -/
def leaveFraction (s : Scan) (c : Char) : Step :=
  if c = 'e' ∨ c = 'E' then .more { s with stage := .mark } else .stop

/-- Takes a digit of the fraction. -/
def fractionDigit (s : Scan) (d : Nat) : Scan :=
  if 10 * s.significand + d < UInt64.size then
    { s with stage := .fraction, significand := 10 * s.significand + d, power := s.power - 1 }
  else { s with stage := .fractionFull }

/-- Takes the next character. -/
def next (s : Scan) (c : Char) : Step :=
  match s.stage, Decimal.digit? c with
  | .sign, some d => .more (firstDigit true d)
  | .sign, none => .refuse .badNumber
  | .zero, some _ => .refuse .badNumber
  | .zero, none => s.leaveWhole c
  | .whole, some d =>
    if 10 * s.significand + d < UInt64.size then
      .more { s with significand := 10 * s.significand + d }
    else .more { s with stage := .wholeFull, power := 1 }
  | .whole, none => s.leaveWhole c
  | .wholeFull, some _ => .more { s with power := s.power + 1 }
  | .wholeFull, none => s.leaveWhole c
  | .point, some d => .more (s.fractionDigit d)
  | .point, none => .refuse .badNumber
  | .fraction, some d => .more (s.fractionDigit d)
  | .fraction, none => s.leaveFraction c
  | .fractionFull, some _ => .more s
  | .fractionFull, none => s.leaveFraction c
  | .mark, some d => .more { s with stage := .exponent, exponent := d }
  | .mark, none =>
    if c = '+' then .more { s with stage := .markSign }
    else if c = '-' then .more { s with stage := .markSign, exponentNegative := true }
    else .refuse .badNumber
  | .markSign, some d => .more { s with stage := .exponent, exponent := d }
  | .markSign, none => .refuse .badNumber
  | .exponent, some d => .more { s with exponent := 10 * s.exponent + d }
  | .exponent, none => .stop

/-- Multiplies by a power of ten, at most 308 places at a time. Four times are enough for any
power: by then a significand of one word has become zero. -/
def scaleByTen (x : Binary64) (power : Int) : Nat → Option Binary64
  | 0 => some (Binary64.zero x.negative)
  | fuel + 1 =>
    if power.natAbs ≤ 308 then
      (Binary64.powerOfTen? power.natAbs).bind fun ten =>
        if 0 ≤ power then x.mul? ten else x.div? ten
    else if x.isZero then some x
    else if 0 ≤ power then none
    else
      (Binary64.powerOfTen? 308).bind fun ten =>
        (x.div? ten).bind fun y => scaleByTen y (power + 308) fuel

/-- The binary number that has been read. -/
def real? (s : Scan) : Option Binary64 :=
  (Binary64.nearest? s.negative s.significand 1).bind fun x =>
    let exponent : Int := if s.exponentNegative then -s.exponent else s.exponent
    scaleByTen x (s.power + exponent) 4

/-- The binary number as a document. -/
def realValue (s : Scan) : Except Fault Json :=
  match s.real? with
  | some x => .ok (.real x)
  | none => .error .numberOutOfRange

/-- The number that has been read, when a character that does not belong to it follows. -/
def value (s : Scan) : Except Fault Json :=
  match s.stage with
  | .zero | .whole =>
    if !s.negative then .ok (.int s.significand)
    else if 0 < s.significand ∧ s.significand ≤ 0x8000000000000000 then .ok (.int (-s.significand))
    else s.realValue
  | .sign | .point | .mark | .markSign => .error .badNumber
  | .wholeFull | .fraction | .fractionFull | .exponent => s.realValue

/-- The number that has been read, when the text ends. -/
def valueAtEnd (s : Scan) : Except Fault Json :=
  match s.stage with
  | .sign | .point | .mark | .markSign => .error .endInValue
  | _ => s.value

end Scan

end Treasury.Json
