import Treasury.Decimal.Basic

/-!
# Decimal amounts as text

`Decimal.toText` writes an amount with exactly its places. `Decimal.ofText?` reads what
people write: an optional sign, digits with at most one point, and underscores after the
first digit. Digits after the last place that fits are rounded away by the first of
them, a half upwards. A number that is not written in plain form may be written with an
exponent, which moves the point of what stands before it: to the right without losing a
digit, to the left by giving up the places that no amount has.
-/

namespace Treasury.Decimal

/-- The value of a decimal digit. -/
def digit? (c : Char) : Option Nat :=
  if '0' ≤ c ∧ c ≤ '9' then some (c.toNat - '0'.toNat) else none

/-- The value of a non-empty run of decimal digits. -/
def natural? (cs : List Char) : Option Nat :=
  if cs.isEmpty then none
  else cs.foldlM (fun n c => (digit? c).map (10 * n + ·)) 0

/-- What has been read of an unsigned number. -/
structure Reading where
  coefficient : Nat
  scale : Nat
  /-- The point has been passed. -/
  fraction : Bool
  /-- Some digit has been seen. -/
  started : Bool

namespace Reading

/-- Nothing read. -/
def empty : Reading := ⟨0, 0, false, false⟩

/-- Adds one to the last place; a place is given up if that no longer fits. -/
def roundUp? (r : Reading) : Option (Nat × Nat) :=
  if r.coefficient + 1 < bound then some (r.coefficient + 1, r.scale)
  else if r.scale = 0 then none
  else some ((r.coefficient + 5) / 10, r.scale - 1)

/-- Ends the number in front of places without room: only digits and underscores may
stand there, and the first digit decides whether the last place goes up. -/
def close (r : Reading) (cs : List Char) : Option (Nat × Nat) :=
  if cs.all fun c => c = '_' ∨ (digit? c).isSome then
    match cs.findSome? digit? with
    | some d => if d < 5 then some (r.coefficient, r.scale) else r.roundUp?
    | none => some (r.coefficient, r.scale)
  else none

/-- Reads the rest of an unsigned number. -/
def scan (r : Reading) : List Char → Option (Nat × Nat)
  | [] => if r.started then some (r.coefficient, r.scale) else none
  | c :: rest =>
    if r.scale = maxScale then r.close (c :: rest)
    else match digit? c with
      | some d =>
        let next := 10 * r.coefficient + d
        if next < bound then
          scan ⟨next, if r.fraction then r.scale + 1 else 0, r.fraction, true⟩ rest
        else if r.fraction then r.close (c :: rest)
        else none
      | none =>
        if c = '.' ∧ !r.fraction then scan { r with fraction := true } rest
        else if c = '_' ∧ r.started then scan r rest
        else none

end Reading

/-- The amount of a magnitude with its sign put back. -/
def signed? (negative : Bool) (magnitude scale : Nat) : Option Decimal :=
  ofParts? (if negative then -(magnitude : Int) else magnitude) scale

/-- Splits a leading sign off; true for minus. -/
def splitSign : List Char → Bool × List Char
  | '-' :: rest => (true, rest)
  | '+' :: rest => (false, rest)
  | cs => (false, cs)

/-- Reads a number in plain form. -/
def ofPlain? (cs : List Char) : Option Decimal :=
  let (negative, unsigned) := splitSign cs
  (Reading.empty.scan unsigned).bind fun (magnitude, scale) => signed? negative magnitude scale

/-- The whole number after an exponent mark; a plus sign may stand in front. -/
def exponent? : List Char → Option Nat
  | '+' :: rest => natural? rest
  | cs => natural? cs

/-- Moves the point of `d` to the right by `n` places: first the places are used up, then
zeros are appended. -/
def shiftUp? (d : Decimal) (n : Nat) : Option Decimal :=
  if n ≤ d.scale then ofParts? d.coefficient (d.scale - n)
  else if n ≤ maxScale then ofParts? (d.coefficient * Nat.pow 10 (n - d.scale)) 0
  else none

/-- Gives up all places after the first `places`. The first digit given up decides whether
the last place that stays goes up, from five onwards. -/
def cut (magnitude scale places : Nat) : Nat :=
  if scale ≤ places then magnitude
  else (magnitude / Nat.pow 10 (scale - places - 1) + 5) / 10

/-- Moves the point of `d` to the left by `n` places, giving up the places for which there
is no room then. -/
def shiftDown? (d : Decimal) (n : Nat) : Option Decimal :=
  if maxScale < n then none
  else if d.scale + n ≤ maxScale then ofParts? d.coefficient (d.scale + n)
  else
    let magnitude := cut d.coefficient.natAbs d.scale (maxScale - n)
    if magnitude = 0 then some (vanished d.isNegative)
    else signed? d.isNegative magnitude maxScale

/-- Reads a number with an exponent. -/
def ofScientific? (cs : List Char) : Option Decimal :=
  let isMark (c : Char) : Bool := c = 'e' ∨ c = 'E'
  match cs.dropWhile (!isMark ·) with
  | [] => none
  | _ :: exponent =>
    (ofPlain? (cs.takeWhile (!isMark ·))).bind fun d =>
      match exponent with
      | '-' :: rest => (exponent? rest).bind d.shiftDown?
      | _ => (exponent? exponent).bind d.shiftUp?

/-- Reads an amount in either form. -/
def ofText? (text : String) : Option Decimal :=
  (ofPlain? text.toList).orElse fun _ => ofScientific? text.toList

/-- The digits of a magnitude with the point `scale` places from the right. -/
def magnitudeText (magnitude scale : Nat) : String :=
  let digits := toString magnitude
  if scale = 0 then digits
  else
    let padded := List.replicate (scale + 1 - digits.length) '0' ++ digits.toList
    let whole := padded.length - scale
    String.ofList (padded.take whole ++ '.' :: padded.drop whole)

/-- Writes an amount with all its places. -/
def toText (d : Decimal) : String :=
  let magnitude := magnitudeText d.coefficient.natAbs d.scale
  if d.isNegative || d.minusZero then "-" ++ magnitude else magnitude

instance : ToString Decimal := ⟨toText⟩

end Treasury.Decimal
