import Treasury.Chain.Address
import Treasury.Json.Read

/-!
# Amounts, addresses and bytes in documents

An amount stands in a document as text or as a number, and is written as text. Bytes and
addresses stand as hexadecimal text or as arrays of small numbers, and are written as text.
-/

namespace Treasury.Json.Reader

/-- An amount. A whole number is taken exactly, another number by its shortest digits. -/
def decimal : Reader Decimal := fun document =>
  let amount? : Option Decimal := match document with
    | .text s => Decimal.ofText? s
    | .int n => Decimal.ofParts? n 0
    | .real x => Decimal.ofPlain? x.toPositional.toList
    | _ => none
  match amount? with
  | some d => .ok d
  | none =>
    let expected := "a Decimal type representing a fixed-point number"
    match document with
    | .text _ | .int _ | .real _ => .error (.wrongValue document.kind expected)
    | _ => .error (.wrongType document.kind expected)

/-- What is wrong with hexadecimal text that should hold `size` bytes, or any number. -/
def hexFault (size : Option Nat) (text : String) : String :=
  let digits := Hex.dropMark text.toList
  if digits.length % 2 = 1 then "odd number of digits"
  else if size.any (2 * · ≠ digits.length) then "invalid string length"
  else match (digits.zipIdx.find? fun digit => (Hex.digit? digit.1).isNone) with
    | some (c, index) => "invalid character '" ++ c.toString ++ s!"' at position {index}"
    | none => "invalid string length"

/-- Bytes of any number. -/
def bytes : Reader (List UInt8)
  | .text s =>
    match Hex.ofText? s with
    | some bytes => .ok bytes
    | none => .error (.other (hexFault none s))
  | .array items => items.mapM uint8
  | other => .error (.wrongType other.kind "a valid hex string or a list of u8")

/-- Exactly `n` bytes. In an array one more item may follow that is no byte; it is passed over. -/
def fixedBytes (n : Nat) : Reader (FixedBytes n) := fun document =>
  match document with
  | .text s =>
    match FixedBytes.ofText? s with
    | some value => .ok value
    | none => .error (.other (hexFault (some n) s))
  | .array items =>
    ((items.take n).mapM uint8).bind fun bytes =>
      let expected := s!"exactly {n} bytes"
      match FixedBytes.ofBytes? bytes, items.drop n with
      | some value, [] => .ok value
      | some value, [surplus] =>
        if (uint8 surplus).isOk then .error (.wrongLength (n + 1) expected) else .ok value
      | some _, surplus :: _ =>
        .error (.wrongLength (if (uint8 surplus).isOk then n + 1 else items.length) expected)
      | none, _ => .error (.wrongLength bytes.length expected)
  | other =>
    .error (.wrongType other.kind
      (s!"{n} bytes, represented as a hex string of length {2 * n}, " ++
        "an array of u8, or raw bytes"))

/-- An address. -/
def address : Reader Address := fixedBytes 20

end Treasury.Json.Reader

namespace Treasury

/-- An amount as a document. -/
def Decimal.toJson (d : Decimal) : Json := .text d.toText

/-- Exactly `n` bytes as a document. -/
def FixedBytes.toJson {n : Nat} (value : FixedBytes n) : Json := .text value.toText

/-- A machine word as a document. -/
def Json.word (n : UInt64) : Json := .int n.toNat

end Treasury
