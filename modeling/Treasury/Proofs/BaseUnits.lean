import Mathlib.Tactic.NormNum
import Treasury.BaseUnits
import Treasury.Proofs.Decimal.Normal

/-!
# Base units are exact

A number of base units is the value of an amount times a power of ten, and never a number near it.
An amount is converted if this product is a whole number that a word can hold (`toBaseUnits_eq_ok`),
and a word is converted if there is an amount for what it stands for (`fromBaseUnits_of_value`);
each conversion undoes the other.

There is one exception. The power of ten is computed before anything is multiplied by it, so nothing
at all cannot be converted either where the power alone is no word, which it is up to the
seventy-seventh.
-/

namespace Treasury

/-- The powers of ten that are words. -/
theorem Word256.pow_ten_lt_size_iff {n : Nat} : 10 ^ n < size ↔ n ≤ 77 := by
  constructor
  · intro h
    by_contra hmore
    have hpow : 10 ^ 78 ≤ 10 ^ n := Nat.pow_le_pow_right (by decide) (by omega)
    have hsize : size ≤ 10 ^ 78 := by norm_num
    omega
  · intro h
    have hpow : 10 ^ n ≤ 10 ^ 77 := Nat.pow_le_pow_right (by decide) h
    have hsize : 10 ^ 77 < size := by norm_num
    omega

/-! ## From amounts to units -/

section ToBaseUnits

variable {amount : Decimal} {decimals : UInt8}

theorem toBaseUnits_of_negative (h : amount.value < 0) :
    toBaseUnits amount decimals = .error (.negative amount) :=
  if_pos (Decimal.value_neg_iff.1 h)

theorem toBaseUnits_of_fraction (hpos : 0 ≤ amount.value)
    (h : ∀ n : Nat, amount.value * 10 ^ decimals.toNat ≠ n) :
    toBaseUnits amount decimals = .error (.nonIntegral amount decimals) := by
  have hscale : decimals.toNat < amount.normalize.scale := by
    by_contra hfew
    obtain ⟨n, hn⟩ := Decimal.scale_normalize_le_iff.1 (not_lt.1 hfew)
    have hnonneg : 0 ≤ n := by
      have : (0 : ℚ) ≤ n := hn ▸ mul_nonneg hpos (by positivity)
      exact_mod_cast this
    obtain ⟨m, rfl⟩ := Int.eq_ofNat_of_zero_le hnonneg
    exact h m hn
  unfold toBaseUnits
  rw [if_neg (Decimal.not_isNegative_of_value_nonneg hpos)]
  exact if_pos hscale

/-- **A whole number of units is given or overflows.** -/
theorem toBaseUnits_of_whole {n : Nat} (h : amount.value * 10 ^ decimals.toNat = n) :
    toBaseUnits amount decimals =
      if hn : n < Word256.size ∧ (n = 0 → decimals.toNat ≤ 77) then .ok ⟨n, hn.1⟩
      else .error (.overflow amount decimals) := by
  have hvalue : amount.value = n / 10 ^ decimals.toNat := eq_div_of_mul_eq (by positivity) h
  have hpos : 0 ≤ amount.value := by
    rw [hvalue]
    exact div_nonneg (Nat.cast_nonneg n) (by positivity)
  have hscale : amount.normalize.scale ≤ decimals.toNat := Decimal.scale_normalize_le_iff.2 ⟨n, h⟩
  have hunits : amount.normalize.coefficient.natAbs
      * 10 ^ (decimals.toNat - amount.normalize.scale) = n := by
    have hint := Decimal.value_mul_pow hscale
    rw [h] at hint
    have hint : (n : Int) =
        amount.normalize.coefficient * 10 ^ (decimals.toNat - amount.normalize.scale) := by
      exact_mod_cast hint
    rw [← Int.natAbs_natCast n, hint, Int.natAbs_mul, Int.natAbs_pow]
    rfl
  have hfits : n < Word256.size ∧ (n = 0 → decimals.toNat ≤ 77) ↔
      10 ^ (decimals.toNat - amount.normalize.scale) < Word256.size ∧ n < Word256.size := by
    rcases Nat.eq_zero_or_pos n with rfl | hn
    · -- nothing has no places, and the power is that of all decimals
      have hplaces : amount.normalize.scale = 0 := by
        refine Nat.le_zero.1 (Decimal.scale_normalize_le_iff.2 ⟨0, ?_⟩)
        simp [hvalue]
      rw [hplaces, Nat.sub_zero, Word256.pow_ten_lt_size_iff]
      simp only [true_imp_iff]
      exact And.comm
    · have hle : 10 ^ (decimals.toNat - amount.normalize.scale) ≤ n := by
        rw [← hunits] at hn ⊢
        exact Nat.le_mul_of_pos_left _ (Nat.pos_of_mul_pos_right hn)
      exact ⟨fun hlt => ⟨Nat.lt_of_le_of_lt hle hlt.1, hlt.1⟩, fun hlt => ⟨hlt.2, by omega⟩⟩
  unfold toBaseUnits
  rw [if_neg (Decimal.not_isNegative_of_value_nonneg hpos)]
  dsimp only
  rw [if_neg (not_lt.2 hscale), Nat.pow_eq, hunits]
  unfold Word256.ofNat?
  by_cases hfactor : 10 ^ (decimals.toNat - amount.normalize.scale) < Word256.size
  · rw [if_pos hfactor]
    by_cases hn : n < Word256.size
    · rw [dif_pos hn, dif_pos (hfits.2 ⟨hfactor, hn⟩)]
    · rw [dif_neg hn, dif_neg fun hall => hn hall.1]
  · rw [if_neg hfactor, dif_neg fun hall => hfactor (hfits.1 hall).1]

/-- An amount is below zero, or leaves a fraction, or comes to a whole number of units. -/
theorem Decimal.units_cases (amount : Decimal) (decimals : UInt8) :
    amount.value < 0 ∨ (0 ≤ amount.value ∧ ∀ n : Nat, amount.value * 10 ^ decimals.toNat ≠ n)
      ∨ ∃ n : Nat, amount.value * 10 ^ decimals.toNat = n := by
  rcases lt_or_ge amount.value 0 with hneg | hpos
  · exact .inl hneg
  · by_cases hwhole : ∃ n : Nat, amount.value * 10 ^ decimals.toNat = n
    · exact .inr (.inr hwhole)
    · exact .inr (.inl ⟨hpos, fun n hn => hwhole ⟨n, hn⟩⟩)

/-- **What is converted is converted exactly**, and all that a word can hold is converted, but
nothing at all only for so many decimals. -/
theorem toBaseUnits_eq_ok {units : Word256} :
    toBaseUnits amount decimals = .ok units ↔
      amount.value * 10 ^ decimals.toNat = units.toNat
        ∧ (units.toNat = 0 → decimals.toNat ≤ 77) := by
  constructor
  · intro h
    rcases amount.units_cases decimals with hneg | ⟨hpos, hfraction⟩ | ⟨n, hn⟩
    · rw [toBaseUnits_of_negative hneg] at h
      exact absurd h (by simp)
    · rw [toBaseUnits_of_fraction hpos hfraction] at h
      exact absurd h (by simp)
    · rw [toBaseUnits_of_whole hn] at h
      split at h
      · rename_i hfits
        cases h
        exact ⟨hn, hfits.2⟩
      · exact absurd h (by simp)
  · rintro ⟨hunits, hpower⟩
    rw [toBaseUnits_of_whole hunits, dif_pos ⟨units.fits, hpower⟩]

/-- The one cause for which an amount is refused. -/
theorem toBaseUnits_eq_error {cause : BaseUnitsError} :
    toBaseUnits amount decimals = .error cause ↔
      (cause = .negative amount ∧ amount.value < 0)
        ∨ (cause = .nonIntegral amount decimals ∧ 0 ≤ amount.value
          ∧ ∀ n : Nat, amount.value * 10 ^ decimals.toNat ≠ n)
        ∨ (cause = .overflow amount decimals ∧ ∃ n : Nat, amount.value * 10 ^ decimals.toNat = n
          ∧ (Word256.size ≤ n ∨ (n = 0 ∧ 77 < decimals.toNat))) := by
  constructor
  · intro h
    rcases amount.units_cases decimals with hneg | ⟨hpos, hfraction⟩ | ⟨n, hn⟩
    · rw [toBaseUnits_of_negative hneg] at h
      exact .inl ⟨(Except.error.inj h).symm, hneg⟩
    · rw [toBaseUnits_of_fraction hpos hfraction] at h
      exact .inr (.inl ⟨(Except.error.inj h).symm, hpos, hfraction⟩)
    · rw [toBaseUnits_of_whole hn] at h
      split at h
      · exact absurd h (by simp)
      · rename_i hfits
        refine .inr (.inr ⟨(Except.error.inj h).symm, n, hn, ?_⟩)
        omega
  · rintro (⟨rfl, hneg⟩ | ⟨rfl, hpos, hfraction⟩ | ⟨rfl, n, hn, hmuch⟩)
    · exact toBaseUnits_of_negative hneg
    · exact toBaseUnits_of_fraction hpos hfraction
    · rw [toBaseUnits_of_whole hn, dif_neg]
      omega

/-- **An amount that is converted is converted exactly.** -/
theorem value_of_toBaseUnits {units : Word256} (h : toBaseUnits amount decimals = .ok units) :
    (units.toNat : ℚ) = amount.value * 10 ^ decimals.toNat :=
  (toBaseUnits_eq_ok.1 h).1.symm

end ToBaseUnits

/--
**Converting an amount is scaling it by a power of ten.**

The number of units is the value of the amount times the power, and each amount is either converted
or refused for the one cause that applies: it is below zero, or the product has a fraction, or it is
too large for a word. Nothing at all is refused as too large if there are more than seventy-seven
decimals.
-/
theorem toBaseUnits_scales (amount : Decimal) (decimals : UInt8) :
    (∀ units, toBaseUnits amount decimals = .ok units ↔
      amount.value * 10 ^ decimals.toNat = units.toNat
        ∧ (units.toNat = 0 → decimals.toNat ≤ 77))
      ∧ ∀ cause, toBaseUnits amount decimals = .error cause ↔
        (cause = .negative amount ∧ amount.value < 0)
          ∨ (cause = .nonIntegral amount decimals ∧ 0 ≤ amount.value
            ∧ ∀ n : Nat, amount.value * 10 ^ decimals.toNat ≠ n)
          ∨ (cause = .overflow amount decimals ∧ ∃ n : Nat, amount.value * 10 ^ decimals.toNat = n
            ∧ (Word256.size ≤ n ∨ (n = 0 ∧ 77 < decimals.toNat))) :=
  ⟨fun _ => toBaseUnits_eq_ok, fun _ => toBaseUnits_eq_error⟩

/-- Nothing at all is nothing with seventy-seven decimals, and too much with seventy-eight. -/
example : toBaseUnits .zero 77 = .ok .zero ∧ toBaseUnits .zero 78 = .error (.overflow .zero 78) :=
  ⟨rfl, rfl⟩

/-! ## From units to amounts -/

section FromBaseUnits

variable {value : Word256} {decimals : UInt8} {amount : Decimal}

/-- **If there is an amount for a number of units, its normal form is found.** -/
theorem fromBaseUnits_of_value (h : amount.value = value.toNat / 10 ^ decimals.toNat) :
    fromBaseUnits value decimals = .ok amount.normalize := by
  unfold fromBaseUnits
  split
  · rename_i hzero
    have hnothing : amount.value = Decimal.zero.value := by
      rw [h, hzero, Decimal.value_of_isZero rfl]
      simp
    rw [Decimal.normalize_eq_iff.2 hnothing]
    rfl
  · rename_i hsome
    obtain ⟨hcoefficient, hscale⟩ := Decimal.normalize_of_value (n := value.toNat) h
    rw [Int.natAbs_natCast, Int.sign_eq_one_of_pos (by omega), one_mul] at hcoefficient
    rw [Int.natAbs_natCast] at hscale
    have hparts := amount.ofParts?_normalize
    rw [hcoefficient, hscale] at hparts
    dsimp only
    rw [hparts]

/-- The amount that is found stands for the units. -/
theorem value_of_fromBaseUnits (h : fromBaseUnits value decimals = .ok amount) :
    amount.value = value.toNat / 10 ^ decimals.toNat := by
  unfold fromBaseUnits at h
  split at h
  · rename_i hzero
    cases h
    rw [hzero, Decimal.value_of_isZero rfl]
    simp
  · dsimp only at h
    split at h
    · rename_i found hparts
      cases h
      obtain ⟨hcoefficient, hscale, -⟩ := Decimal.ofParts?_eq_some_iff.1 hparts
      refine Decimal.value_eq_div_iff (n := value.toNat).2 ?_
      rw [hcoefficient, hscale]
      exact_mod_cast Decimal.stripZeros_mul_pow value.toNat decimals.toNat
    · exact absurd h (by simp)

end FromBaseUnits

/--
**Each conversion undoes the other.**

Units are converted if there is an amount for what they stand for, and to this amount in the fewest
places. It is converted back to the units, unless these are nothing with more than seventy-seven
decimals; and an amount that has been converted to the units is found again in the fewest places.
-/
theorem fromBaseUnits_inverse (value : Word256) (decimals : UInt8) :
    ((∃ amount, fromBaseUnits value decimals = .ok amount) ↔
        Decimal.Held (value.toNat / 10 ^ decimals.toNat))
      ∧ (∀ amount, fromBaseUnits value decimals = .ok amount →
        amount.value = value.toNat / 10 ^ decimals.toNat ∧ amount.normalize = amount
          ∧ (toBaseUnits amount decimals = .ok value ↔ (value.toNat = 0 → decimals.toNat ≤ 77)))
      ∧ ∀ amount, toBaseUnits amount decimals = .ok value →
        fromBaseUnits value decimals = .ok amount.normalize := by
  refine ⟨⟨?_, ?_⟩, fun amount h => ?_, fun amount h => ?_⟩
  · rintro ⟨amount, h⟩
    exact ⟨amount, value_of_fromBaseUnits h⟩
  · rintro ⟨amount, h⟩
    exact ⟨amount.normalize, fromBaseUnits_of_value h⟩
  · have hvalue := value_of_fromBaseUnits h
    have hunits : amount.value * 10 ^ decimals.toNat = value.toNat := by
      rw [hvalue]
      exact div_mul_cancel₀ _ (by positivity)
    refine ⟨hvalue, ?_, ?_⟩
    · rw [fromBaseUnits_of_value hvalue] at h
      exact Except.ok.inj h
    · rw [toBaseUnits_eq_ok, and_iff_right hunits]
  · exact fromBaseUnits_of_value (eq_div_of_mul_eq (by positivity) (toBaseUnits_eq_ok.1 h).1)

end Treasury
