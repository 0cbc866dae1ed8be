import Treasury.Rounding

/-!
# Decimal amounts

A token amount as people write it: a whole number of tenths, hundredths and so on,
at most twenty-eight places, with a coefficient of at most ninety-six bits. The
number of places is kept, so `1.5` and `1.50` are two amounts of one value.

Zero has no sign, with one exception: an amount below zero that is read in exponent form
and is too small for its places leaves a zero which is still written with its minus sign.

Adding keeps the longer of the two fractions for as long as the coefficient fits, and
otherwise gives up as few places as it must, a half going to the even neighbour.
-/

namespace Treasury

/-- Coefficients stay below this in magnitude: the number of values of ninety-six bits. -/
abbrev Decimal.bound : Nat := 0x1000000000000000000000000

/-- The number `coefficient / 10 ^ scale`. -/
structure Decimal where
  coefficient : Int
  scale : Nat
  fits : coefficient.natAbs < Decimal.bound
  scale_le : scale ≤ 28
  /-- A zero that is written with a minus sign. -/
  minusZero : Bool := false
  coefficient_eq_zero : minusZero = true → coefficient = 0 := by exact Bool.noConfusion
  deriving DecidableEq, Repr

namespace Decimal

/-- The most places an amount can have. -/
def maxScale : Nat := 28

/-- The amount with these parts, if they fit one. -/
def ofParts? (coefficient : Int) (scale : Nat) : Option Decimal :=
  if h : coefficient.natAbs < bound ∧ scale ≤ 28 then
    some { coefficient, scale, fits := h.1, scale_le := h.2 }
  else
    none

theorem ofParts?_eq_some_iff {c : Int} {s : Nat} {d : Decimal} :
    ofParts? c s = some d ↔ d.coefficient = c ∧ d.scale = s ∧ d.minusZero = false := by
  unfold ofParts?
  split
  · rename_i h
    constructor
    · intro he
      cases he
      exact ⟨rfl, rfl, rfl⟩
    · obtain ⟨_, _, _, _, _, _⟩ := d
      rintro ⟨rfl, rfl, rfl⟩
      rfl
  · rename_i h
    constructor
    · intro he
      cases he
    · rintro ⟨rfl, rfl, _⟩
      exact absurd ⟨d.fits, d.scale_le⟩ h

/-- Nothing, without places. -/
def zero : Decimal where
  coefficient := 0
  scale := 0
  fits := by decide
  scale_le := by decide

/-- Zero with the most places, for what an amount too small for them comes to; it keeps the
minus sign of an amount below zero. -/
def vanished (negative : Bool) : Decimal where
  coefficient := 0
  scale := 28
  fits := by decide
  scale_le := by decide
  minusZero := negative
  coefficient_eq_zero := fun _ => rfl

/-- True of the amounts whose value is zero, with whatever places. -/
def isZero (d : Decimal) : Bool := d.coefficient = 0

/-- True below zero. -/
def isNegative (d : Decimal) : Bool := d.coefficient < 0

/-- Drops trailing zeros of `magnitude / 10 ^ scale` for as long as there are places. -/
def stripZeros (magnitude : Nat) : Nat → Nat × Nat
  | 0 => (magnitude, 0)
  | scale + 1 =>
    if magnitude % 10 = 0 then stripZeros (magnitude / 10) scale else (magnitude, scale + 1)

theorem stripZeros_fst_le (magnitude scale : Nat) : (stripZeros magnitude scale).1 ≤ magnitude := by
  induction scale generalizing magnitude with
  | zero => exact Nat.le_refl _
  | succ scale ih =>
    unfold stripZeros
    split
    · exact Nat.le_trans (ih _) (Nat.div_le_self _ _)
    · exact Nat.le_refl _

theorem stripZeros_snd_le (magnitude scale : Nat) : (stripZeros magnitude scale).2 ≤ scale := by
  induction scale generalizing magnitude with
  | zero => exact Nat.le_refl _
  | succ scale ih =>
    unfold stripZeros
    split
    · exact Nat.le_trans (ih _) (Nat.le_succ _)
    · exact Nat.le_refl _

/-- The same value in the fewest places. -/
def normalize (d : Decimal) : Decimal where
  coefficient := d.coefficient.sign * (stripZeros d.coefficient.natAbs d.scale).1
  scale := (stripZeros d.coefficient.natAbs d.scale).2
  fits := by
    have h := stripZeros_fst_le d.coefficient.natAbs d.scale
    have hd := d.fits
    rw [Int.natAbs_mul, Int.natAbs_natCast]
    have hs : d.coefficient.sign.natAbs ≤ 1 := by
      rw [Int.natAbs_sign]
      split <;> decide
    exact Nat.lt_of_le_of_lt (Nat.le_trans (Nat.mul_le_mul hs h) (by omega)) hd
  scale_le := Nat.le_trans (stripZeros_snd_le _ _) d.scale_le

/-- The number of places to give up, at least `dropped`, before `magnitude` fits;
`none` if there are not that many. -/
def fitMagnitude (magnitude : Nat) (dropped : Nat) : Nat → Option (Nat × Nat)
  | 0 =>
    let m := divHalfEven magnitude (Nat.pow 10 dropped)
    if m < bound then some (m, 0) else none
  | scale + 1 =>
    let m := divHalfEven magnitude (Nat.pow 10 dropped)
    if m < bound then some (m, scale + 1) else fitMagnitude magnitude (dropped + 1) scale

/-- The amount of value `coefficient / 10 ^ scale`, rounded to the places that fit. -/
def ofExact? (coefficient : Int) (scale : Nat) : Option Decimal :=
  (fitMagnitude coefficient.natAbs 0 scale).bind fun fitted =>
    ofParts? (coefficient.sign * fitted.1) fitted.2

/-- The coefficient of `d` when it is written with `scale` places. -/
def coefficientAt (d : Decimal) (scale : Nat) : Int :=
  d.coefficient * Nat.pow 10 (scale - d.scale)

/-- The sum, with the places of the longer fraction if they fit; `none` when even the whole
part is too large. A zero leaves the other amount as it is. -/
def add? (a b : Decimal) : Option Decimal :=
  if a.isZero then some b
  else if b.isZero then some a
  else
    let scale := max a.scale b.scale
    ofExact? (a.coefficientAt scale + b.coefficientAt scale) scale

end Decimal

end Treasury
