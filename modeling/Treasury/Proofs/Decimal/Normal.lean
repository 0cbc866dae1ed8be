import Treasury.Proofs.Decimal.Value

/-!
# Amounts in the fewest places

Dropping the zeros at the end of an amount keeps its value (`value_normalize`), and what is left has
the fewest places that the value can be written with (`scale_normalize_le_iff`). So all amounts of
one value come to the same one when their zeros are dropped (`normalize_eq_iff`).
-/

namespace Treasury.Decimal

/-! ## Zeros at the end -/

/-- Dropping zeros does not change the number that is written. -/
theorem stripZeros_mul_pow (magnitude scale : Nat) :
    (stripZeros magnitude scale).1 * 10 ^ scale =
      magnitude * 10 ^ (stripZeros magnitude scale).2 := by
  induction scale generalizing magnitude with
  | zero => rfl
  | succ scale ih =>
    unfold stripZeros
    split
    · rename_i hzero
      have hten : magnitude = magnitude / 10 * 10 := by omega
      calc (stripZeros (magnitude / 10) scale).1 * 10 ^ (scale + 1)
          = magnitude / 10 * 10 ^ (stripZeros (magnitude / 10) scale).2 * 10 := by
            rw [pow_succ, ← Nat.mul_assoc, ih]
        _ = magnitude * 10 ^ (stripZeros (magnitude / 10) scale).2 := by
            rw [Nat.mul_right_comm, ← hten]
    · rfl

/-- Zeros that are put on are dropped. -/
theorem stripZeros_of_mul_pow (magnitude scale zeros : Nat) :
    stripZeros (magnitude * 10 ^ zeros) (scale + zeros) = stripZeros magnitude scale := by
  induction zeros with
  | zero => rw [pow_zero, Nat.mul_one, Nat.add_zero]
  | succ zeros ih =>
    rw [pow_succ, ← Nat.mul_assoc, ← Nat.add_assoc, stripZeros, if_pos (Nat.mul_mod_left _ _),
      Nat.mul_div_cancel _ (by decide), ih]

/-- **Two ways to write one number come to the same when zeros are dropped.** -/
theorem stripZeros_eq {m n s t : Nat} (h : m * 10 ^ t = n * 10 ^ s) :
    stripZeros m s = stripZeros n t := by
  -- the one with more places is the other with zeros put on
  have hlonger : ∀ {m n s t : Nat}, s ≤ t → m * 10 ^ t = n * 10 ^ s →
      stripZeros m s = stripZeros n t := by
    intro m n s t hle h
    have hn : n = m * 10 ^ (t - s) := by
      refine Nat.eq_of_mul_eq_mul_right (Nat.pow_pos (n := s) (by decide : 0 < 10)) ?_
      rw [← h, Nat.mul_assoc, ← pow_add, Nat.sub_add_cancel hle]
    have hstrip := stripZeros_of_mul_pow m s (t - s)
    rw [← hn, Nat.add_sub_cancel' hle] at hstrip
    exact hstrip.symm
  rcases Nat.le_total s t with hle | hle
  · exact hlonger hle h
  · exact (hlonger hle h.symm).symm

/-! ## Values as fractions -/

theorem value_eq_div_iff {d : Decimal} {n : Int} {scale : Nat} :
    d.value = n / 10 ^ scale ↔ d.coefficient * 10 ^ scale = n * 10 ^ d.scale := by
  unfold value
  rw [div_eq_div_iff (by positivity) (by positivity)]
  exact_mod_cast Iff.rfl

theorem value_neg_iff {d : Decimal} : d.value < 0 ↔ d.isNegative = true := by
  unfold value isNegative
  rw [div_lt_iff₀ (by positivity), zero_mul, Int.cast_lt_zero, decide_eq_true_eq]

theorem value_nonneg_iff {d : Decimal} : 0 ≤ d.value ↔ d.isNegative = false := by
  rw [← not_lt, value_neg_iff, Bool.not_eq_true]

theorem not_isNegative_of_value_nonneg {d : Decimal} (h : 0 ≤ d.value) : ¬d.isNegative = true :=
  fun hneg => absurd (value_neg_iff.2 hneg) (not_lt.2 h)

/-! ## Normal forms -/

/-- **The normal form of an amount is known from its value**, however that is written. -/
theorem normalize_of_value {d : Decimal} {n : Int} {scale : Nat} (h : d.value = n / 10 ^ scale) :
    d.normalize.coefficient = n.sign * (stripZeros n.natAbs scale).1
      ∧ d.normalize.scale = (stripZeros n.natAbs scale).2 := by
  have hcross := value_eq_div_iff.1 h
  have hpow : ∀ k : Nat, ((10 : Int) ^ k).sign = 1 := fun k =>
    Int.sign_eq_one_of_pos (by positivity)
  have hsign := congrArg Int.sign hcross
  rw [Int.sign_mul, Int.sign_mul, hpow, hpow, mul_one, mul_one] at hsign
  have habs := congrArg Int.natAbs hcross
  rw [Int.natAbs_mul, Int.natAbs_mul, Int.natAbs_pow, Int.natAbs_pow] at habs
  unfold normalize
  dsimp only
  rw [hsign, stripZeros_eq habs]
  exact ⟨rfl, rfl⟩

theorem value_normalize (d : Decimal) : d.normalize.value = d.value := by
  refine value_eq_div_iff.2 ?_
  have hstrip := stripZeros_mul_pow d.coefficient.natAbs d.scale
  unfold normalize
  dsimp only
  calc d.coefficient.sign * ((stripZeros d.coefficient.natAbs d.scale).1 : Int) * 10 ^ d.scale
      = d.coefficient.sign * d.coefficient.natAbs
          * 10 ^ (stripZeros d.coefficient.natAbs d.scale).2 := by
        rw [mul_assoc, mul_assoc]
        exact congrArg _ (by exact_mod_cast hstrip)
    _ = d.coefficient * 10 ^ (stripZeros d.coefficient.natAbs d.scale).2 := by
        rw [Int.sign_mul_natAbs]

/-- A normal form is what its parts make. -/
theorem ofParts?_normalize (d : Decimal) :
    ofParts? d.normalize.coefficient d.normalize.scale = some d.normalize :=
  ofParts?_eq_some_iff.2 ⟨rfl, rfl, rfl⟩

/-- **Amounts of one value, and no others, have one normal form.** -/
theorem normalize_eq_iff {a b : Decimal} : a.normalize = b.normalize ↔ a.value = b.value := by
  constructor
  · intro h
    rw [← a.value_normalize, h, b.value_normalize]
  · intro h
    obtain ⟨hcoefficient, hscale⟩ := normalize_of_value (n := b.coefficient) h
    have hparts := a.ofParts?_normalize
    rw [hcoefficient, hscale] at hparts
    exact (Option.some.inj (b.ofParts?_normalize.symm.trans hparts)).symm

/-- An amount times a power of ten that takes all its places away. -/
theorem value_mul_pow {d : Decimal} {places : Nat} (h : d.normalize.scale ≤ places) :
    d.value * 10 ^ places =
      (d.normalize.coefficient * 10 ^ (places - d.normalize.scale) : Int) := by
  have hsplit : (10 : ℚ) ^ places = 10 ^ (places - d.normalize.scale) * 10 ^ d.normalize.scale := by
    rw [← pow_add, Nat.sub_add_cancel h]
  rw [← d.value_normalize, hsplit]
  unfold value
  push_cast
  field_simp

/-- **A normal form has the fewest places**: no fewer can hold the value. -/
theorem scale_normalize_le_iff {d : Decimal} {places : Nat} :
    d.normalize.scale ≤ places ↔ ∃ n : Int, d.value * 10 ^ places = n := by
  constructor
  · exact fun h => ⟨_, value_mul_pow h⟩
  · rintro ⟨n, h⟩
    have hvalue : d.value = n / 10 ^ places := eq_div_of_mul_eq (by positivity) h
    have hle := stripZeros_snd_le n.natAbs places
    rwa [← (normalize_of_value hvalue).2] at hle

end Treasury.Decimal
