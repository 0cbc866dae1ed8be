import Treasury.Decimal.Text

/-!
# Words of 256 bits

The whole numbers a contract call carries. As text they are plain decimal digits;
reading also skips underscores and takes the empty text as zero.
-/

namespace Treasury

/-- The number of words: two to the power of 256. -/
abbrev Word256.size : Nat :=
  0x10000000000000000000000000000000000000000000000000000000000000000

/-- A whole number below `Word256.size`. -/
structure Word256 where
  toNat : Nat
  fits : toNat < Word256.size
  deriving DecidableEq, Repr

namespace Word256

/-- The word of a number, if it fits. -/
def ofNat? (n : Nat) : Option Word256 :=
  if h : n < size then some ⟨n, h⟩ else none

theorem ofNat?_eq_some_iff {n : Nat} {w : Word256} : ofNat? n = some w ↔ w.toNat = n := by
  unfold ofNat?
  split
  · constructor
    · intro h
      cases h
      rfl
    · rintro rfl
      rfl
  · rename_i h
    constructor
    · intro he
      cases he
    · rintro rfl
      exact absurd w.fits h

/-- Zero. -/
def zero : Word256 := ⟨0, by decide⟩

/-- Every machine word is a word. -/
def ofUInt64 (n : UInt64) : Word256 :=
  ⟨n.toNat, Nat.lt_trans n.toNat_lt (by decide)⟩

/-- Reads decimal digits. -/
def ofText? (text : String) : Option Word256 :=
  let step (n : Nat) (c : Char) : Option Nat :=
    if c = '_' then some n
    else (Decimal.digit? c).bind fun d => if 10 * n + d < size then some (10 * n + d) else none
  (text.toList.foldlM step 0).bind ofNat?

/-- Writes decimal digits. -/
def toText (w : Word256) : String := toString w.toNat

instance : ToString Word256 := ⟨toText⟩

end Word256

end Treasury
