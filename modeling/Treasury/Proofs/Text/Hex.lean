import Treasury.Chain.Address

/-!
# Hexadecimal text that is read back

The digits that are written for some bytes are read as those bytes, and the text of an address or
of a hash as that address or hash.
-/

namespace Treasury

namespace Hex

theorem digit?_digit {n : Nat} (h : n < 16) : digit? (digit n) = some n := by
  have hall : ∀ n < 16, digit? (digit n) = some n := by decide
  exact hall n h

theorem decode?_encode (bytes : List UInt8) : decode? (encode bytes) = some bytes := by
  induction bytes with
  | nil => rfl
  | cons b rest ih =>
    have hlt : b.toNat < 256 := b.toNat_lt
    have hhigh := digit?_digit (n := b.toNat / 16) (by omega)
    have hlow := digit?_digit (n := b.toNat % 16) (by omega)
    have hbyte : UInt8.ofNat (16 * (b.toNat / 16) + b.toNat % 16) = b := by
      rw [Nat.div_add_mod, UInt8.ofNat_toNat]
    rw [encode, decode?, hhigh, hlow, ih]
    dsimp only
    rw [hbyte]

theorem ofText?_toText (bytes : List UInt8) : ofText? (toText bytes) = some bytes := by
  unfold ofText? toText
  rw [String.toList_ofList]
  exact decode?_encode bytes

end Hex

namespace FixedBytes

variable {n : Nat}

theorem ofBytes?_bytes (value : FixedBytes n) : ofBytes? value.bytes = some value := by
  unfold ofBytes?
  rw [dif_pos value.size]

theorem ofText?_toText (value : FixedBytes n) : ofText? value.toText = some value := by
  unfold ofText? toText
  rw [Hex.ofText?_toText]
  exact ofBytes?_bytes value

end FixedBytes

end Treasury
