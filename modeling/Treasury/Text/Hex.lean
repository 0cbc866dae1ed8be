/-!
# Bytes in hexadecimal

`Hex.encode` writes two lower-case digits for each byte; `Hex.decode?` reads digits of
either case. `Hex.ofText?` also takes the mark `0x` in front, which `Hex.toText` always
writes.
-/

namespace Treasury.Hex

/-- The lower-case digit of a value below sixteen. -/
def digit (n : Nat) : Char :=
  if n < 10 then Char.ofNat (48 + n) else Char.ofNat (87 + n)

/-- The value of a digit of either case. -/
def digit? (c : Char) : Option Nat :=
  if '0' ≤ c ∧ c ≤ '9' then some (c.toNat - 48)
  else if 'a' ≤ c ∧ c ≤ 'f' then some (c.toNat - 87)
  else if 'A' ≤ c ∧ c ≤ 'F' then some (c.toNat - 55)
  else none

/-- Two digits for each byte, the higher half first. -/
def encode : List UInt8 → List Char
  | [] => []
  | b :: rest => digit (b.toNat / 16) :: digit (b.toNat % 16) :: encode rest

/-- The bytes of an even number of digits. -/
def decode? : List Char → Option (List UInt8)
  | [] => some []
  | [_] => none
  | high :: low :: rest =>
    match digit? high, digit? low, decode? rest with
    | some h, some l, some bytes => some (UInt8.ofNat (16 * h + l) :: bytes)
    | _, _, _ => none

/-- Without the mark in front, if there is one. -/
def dropMark : List Char → List Char
  | '0' :: 'x' :: rest => rest
  | '0' :: 'X' :: rest => rest
  | cs => cs

/-- Reads digits with or without the mark. -/
def ofText? (text : String) : Option (List UInt8) := decode? (dropMark text.toList)

/-- Writes the mark and the digits. -/
def toText (bytes : List UInt8) : String := String.ofList ('0' :: 'x' :: encode bytes)

end Treasury.Hex
