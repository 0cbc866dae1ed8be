import Treasury.Chain.Keccak
import Treasury.Text.Hex

/-!
# Addresses and transaction hashes

An address is twenty bytes and a transaction hash thirty-two. Stored text is lower-case
hexadecimal; what people read is the checksummed form, in which the case of each letter
carries a bit of the digest of the lower-case digits. Reading accepts any case and does not
check it.
-/

namespace Treasury

/-- Exactly `n` bytes. -/
structure FixedBytes (n : Nat) where
  bytes : List UInt8
  size : bytes.length = n
  deriving DecidableEq, Repr

/-- The address of an account or contract. -/
abbrev Address := FixedBytes 20

/-- The hash by which a transaction is known on its chain. -/
abbrev TransactionHash := FixedBytes 32

namespace FixedBytes

variable {n : Nat}

/-- The value of exactly `n` bytes. -/
def ofBytes? (bytes : List UInt8) : Option (FixedBytes n) :=
  if h : bytes.length = n then some ⟨bytes, h⟩ else none

/-- Reads hexadecimal digits with or without the mark `0x`. -/
def ofText? (text : String) : Option (FixedBytes n) :=
  (Hex.ofText? text).bind ofBytes?

/-- Writes lower-case digits behind the mark `0x`. -/
def toText (value : FixedBytes n) : String := Hex.toText value.bytes

end FixedBytes

namespace Address

/-- The capital form of a letter from a to f. -/
def capital (c : Char) : Char :=
  if 'a' ≤ c ∧ c ≤ 'f' then Char.ofNat (c.toNat - 32) else c

/-- The form shown to people: a letter is a capital where the digest of the lower-case digits
has a half-byte of at least eight. -/
def checksummed (address : Address) : String :=
  let digits := Hex.encode address.bytes
  let digest := Keccak.digest (digits.map fun c => UInt8.ofNat c.toNat)
  let halves := digest.flatMap fun b => [b.toNat / 16, b.toNat % 16]
  String.ofList ('0' :: 'x' :: digits.zipWith (fun c half => if half < 8 then c else capital c)
    halves)

end Address

end Treasury
