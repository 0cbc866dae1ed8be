import Treasury.Chain.Address
import Treasury.Word256

/-!
# Contract arguments as bytes

The arguments of a contract call when all of them are arrays of single slots, which is all
a claim needs. A slot is thirty-two bytes. First comes, for each array, the position at
which it starts; then each array in turn, its length in front of its elements.

`Abi.decodeArrays?` is the reading side of `Abi.encodeArrays`; it follows the positions and
trusts nothing else about the layout.
-/

namespace Treasury.Abi

/-- Thirty-two bytes, the unit of the encoding. -/
abbrev Slot := FixedBytes 32

/-- The lowest `k` bytes of a number, the highest first. -/
def bigEndian : Nat → Nat → List UInt8
  | 0, _ => []
  | k + 1, n => bigEndian k (n / 256) ++ [UInt8.ofNat (n % 256)]

@[simp] theorem length_bigEndian (k n : Nat) : (bigEndian k n).length = k := by
  induction k generalizing n with
  | zero => rfl
  | succ k ih => simp [bigEndian, ih]

/-- The number that bytes make, the highest first. -/
def ofBigEndian (bytes : List UInt8) : Nat :=
  bytes.foldl (fun n b => 256 * n + b.toNat) 0

namespace Slot

/-- The slot of a number, by its lowest thirty-two bytes. -/
def ofNat (n : Nat) : Slot := ⟨bigEndian 32 n, length_bigEndian 32 n⟩

/-- The number in a slot. -/
def toNat (slot : Slot) : Nat := ofBigEndian slot.bytes

/-- The slot of a word. -/
def ofWord (w : Word256) : Slot := ofNat w.toNat

/-- The word in a slot; every slot holds one. -/
def toWord? (slot : Slot) : Option Word256 := Word256.ofNat? slot.toNat

/-- The slot of an address: twelve zeros in front of its bytes. -/
def ofAddress (a : Address) : Slot :=
  ⟨List.replicate 12 0 ++ a.bytes, by simp [a.size]⟩

/-- The address in a slot, if the slot holds one. -/
def toAddress? (slot : Slot) : Option Address :=
  if slot.bytes.take 12 = List.replicate 12 0 then FixedBytes.ofBytes? (slot.bytes.drop 12)
  else none

end Slot

/-- The slots of one array: how many, and then each. -/
def arraySlots (elements : List Slot) : List Slot :=
  Slot.ofNat elements.length :: elements

/-- Where each array starts, the first at `start`. -/
def positions (start : Nat) : List (List Slot) → List Nat
  | [] => []
  | array :: rest => start :: positions (start + 32 * (array.length + 1)) rest

/-- The bytes of a list of arrays. -/
def encodeArrays (arrays : List (List Slot)) : List UInt8 :=
  let heads := (positions (32 * arrays.length) arrays).map Slot.ofNat
  (heads ++ arrays.flatMap arraySlots).flatMap (·.bytes)

/-- The slot at a position. -/
def slotAt? (data : List UInt8) (position : Nat) : Option Slot :=
  FixedBytes.ofBytes? ((data.drop position).take 32)

/-- The array at a position. -/
def arrayAt? (data : List UInt8) (position : Nat) : Option (List Slot) :=
  (slotAt? data position).bind fun length =>
    if data.length < length.toNat then none
    else (List.range length.toNat).mapM fun i => slotAt? data (position + 32 * (i + 1))

/-- Reads `count` arrays. -/
def decodeArrays? (count : Nat) (data : List UInt8) : Option (List (List Slot)) :=
  (List.range count).mapM fun i =>
    (slotAt? data (32 * i)).bind fun position => arrayAt? data position.toNat

/-- The four bytes that name a function: the start of the digest of its signature. -/
def selector (signature : String) : List UInt8 := (Keccak.digestText signature).take 4

end Treasury.Abi
