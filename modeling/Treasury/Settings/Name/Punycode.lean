/-!
# Labels in plain ASCII

Name servers know only ASCII. Any other label is written as its ASCII characters, a hyphen and
digits that tell which further characters stand where. The digits count through all places of
all characters, in order of code points; the number of steps from one to the next is written in
letters and digits whose weights depend on the steps before it, so that close characters take
few of them.
-/

namespace Treasury.Name

/-- The letter or digit of a value below 36. -/
def stepDigit (n : Nat) : Char := if n < 26 then Char.ofNat (97 + n) else Char.ofNat (22 + n)

/-- The value of a letter or digit. -/
def stepValue? (c : Char) : Option Nat :=
  if 'a' ≤ c ∧ c ≤ 'z' then some (c.toNat - 97)
  else if '0' ≤ c ∧ c ≤ '9' then some (c.toNat - 22)
  else none

/-- A digit of the place `k` ends a number if its value is below this. -/
def threshold (bias k : Nat) : Nat :=
  if k ≤ bias then 1 else if bias + 26 ≤ k then 26 else k - bias

theorem threshold_pos (bias k : Nat) : 0 < threshold bias k := by
  unfold threshold
  split
  · omega
  · split <;> omega

/-- Brings the bias close to the size of the last number of steps. -/
def settleBias (steps k : Nat) : Nat :=
  if 455 < steps then settleBias (steps / 35) (k + 36) else k + 36 * steps / (steps + 38)
termination_by steps
decreasing_by exact Nat.div_lt_self (by omega) (by omega)

/-- The bias after a number of steps; `total` is the number of characters so far. -/
def nextBias (steps total : Nat) (first : Bool) : Nat :=
  let start := if first then steps / 700 else steps / 2
  settleBias (start + start / total) 0

/-! ## Writing -/

/-- A number of steps in digits, from the place `k` on. -/
def stepDigits (bias k n : Nat) : List Char :=
  let t := threshold bias k
  if n < t then [stepDigit n]
  else stepDigit (t + (n - t) % (36 - t)) :: stepDigits bias (k + 36) ((n - t) / (36 - t))
termination_by n
decreasing_by
  have h := threshold_pos bias k
  exact Nat.lt_of_le_of_lt (Nat.div_le_self _ _) (by omega)

/-- How far a label has been written. -/
structure Encoding where
  /-- The steps since the last character. -/
  steps : Nat
  bias : Nat
  /-- The number of characters that have been written. -/
  count : Nat
  digits : List Char

/-- Goes past one character of the label on the round for the code point `n`; `basic` is the
number of ASCII characters. -/
def Encoding.pass (n basic : Nat) (e : Encoding) (c : Char) : Encoding :=
  if c.toNat < n then { e with steps := e.steps + 1 }
  else if c.toNat = n then
    ⟨0, nextBias e.steps (e.count + 1) (e.count = basic), e.count + 1,
      e.digits ++ stepDigits e.bias 36 e.steps⟩
  else e

/-- Goes on with the least code point from `n` on, until none is left; there are at most as
many rounds as characters. -/
def Encoding.rounds (label : List Char) (basic n : Nat) (e : Encoding) : Nat → Encoding
  | 0 => e
  | left + 1 =>
    match ((label.map Char.toNat).filter (n ≤ ·)).min? with
    | none => e
    | some m =>
      let started := { e with steps := e.steps + (m - n) * (e.count + 1) }
      let after := label.foldl (Encoding.pass m basic) started
      rounds label basic (m + 1) { after with steps := after.steps + 1 } left

/-- The ASCII form of a label, without the mark in front of it. -/
def encode (label : List Char) : List Char :=
  let basic := label.filter (·.toNat < 0x80)
  let start : Encoding := ⟨0, 72, basic.length, []⟩
  let digits := (start.rounds label basic.length 0x80 label.length).digits
  if basic.isEmpty then digits else basic ++ '-' :: digits

/-! ## Reading -/

/-- How far a label has been read. -/
structure Decoding where
  label : List Char
  /-- The code point that was put in last. -/
  code : Nat
  /-- The place where the current number of steps started. -/
  start : Nat
  /-- The place reached by the digits of the current number of steps. -/
  place : Nat
  weight : Nat
  /-- The place of the next digit. -/
  k : Nat
  bias : Nat

/-- Puts in the character that the finished number of steps leads to. -/
def Decoding.insert? (d : Decoding) : Option Decoding :=
  let total := d.label.length + 1
  let code := d.code + d.place / total
  if code < 0xD800 ∨ (0xDFFF < code ∧ code < 0x110000) then
    let place := d.place % total
    some ⟨d.label.insertIdx place (Char.ofNat code), code, place + 1, place + 1, 1, 36,
      nextBias (d.place - d.start) total (d.start = 0)⟩
  else none

/-- Takes the next digit. Numbers stay within thirty-two bits. -/
def Decoding.take? (d : Decoding) (c : Char) : Option Decoding :=
  (stepValue? c).bind fun n =>
    let place := d.place + n * d.weight
    let t := threshold d.bias d.k
    if 0x100000000 ≤ place then none
    else if n < t then { d with place := place }.insert?
    else if 0x100000000 ≤ d.weight * (36 - t) then none
    else some { d with place := place, weight := d.weight * (36 - t), k := d.k + 36 }

/-- The label of an ASCII form. The last hyphen divides the ASCII characters from the digits,
if something stands before it. -/
def decode? (code : List Char) : Option (List Char) :=
  let digits := (code.reverse.takeWhile (· ≠ '-')).reverse
  let basic := (code.reverse.dropWhile (· ≠ '-')).drop 1 |>.reverse
  let digits := if basic.isEmpty then code else digits
  let start : Decoding := ⟨basic, 0x80, 0, 0, 1, 36, 72⟩
  (digits.foldlM Decoding.take? start).bind fun d => if d.k = 36 then some d.label else none

end Treasury.Name
