import Treasury.Proofs.Binary64

/-!
# Numbers that are rounded to are in their one form

Rounding picks the unit in the last place by the number of bits, so that the quotient in these units
has fifty-three bits (`half_le_units`, `units_lt`), or fewer only where the unit is the smallest
there is. A quotient that is rounded up to one bit more is halved. So every number that is read or
calculated is `Canonical` (`canonical_of_nearest?`).
-/

namespace Treasury.Binary64

variable {n d : ℕ} {e : ℤ}

/-! ## Quotients in units -/

theorem inUnits_eq (n d : ℕ) (e : ℤ) : ((inUnits n d e).1 : ℚ) = n * 2 ^ (-e).toNat ∧
    ((inUnits n d e).2 : ℚ) = d * 2 ^ e * 2 ^ (-e).toNat := by
  have h := zpow_mul_pow_neg (b := 2) (by norm_num) e
  unfold inUnits
  simp only [Nat.pow_eq]
  push_cast
  exact ⟨rfl, by rw [mul_assoc, h]⟩

theorem inUnits_snd_pos (hd : 0 < d) (n : ℕ) (e : ℤ) : 0 < (inUnits n d e).2 := by
  unfold inUnits
  simp only [Nat.pow_eq]
  positivity

/-- A whole number of units is not above the quotient. -/
theorem le_units_iff (hd : 0 < d) {c : ℕ} :
    c ≤ (inUnits n d e).1 / (inUnits n d e).2 ↔ (c * 2 ^ e : ℚ) ≤ n / d := by
  obtain ⟨hfst, hsnd⟩ := inUnits_eq n d e
  have hd' : (0 : ℚ) < d := by exact_mod_cast hd
  rw [Nat.le_div_iff_mul_le (inUnits_snd_pos hd n e), ← Nat.cast_le (α := ℚ), Nat.cast_mul, hfst,
    hsnd, le_div_iff₀ hd', ← mul_assoc, mul_le_mul_iff_left₀ (by positivity)]
  rw [mul_comm (d : ℚ), ← mul_assoc]

/-- Below a whole number of units. -/
theorem units_lt_iff (hd : 0 < d) {c : ℕ} :
    (inUnits n d e).1 / (inUnits n d e).2 < c ↔ (n / d : ℚ) < c * 2 ^ e := by
  rw [← not_le, le_units_iff hd, not_le]

/-! ## Bits -/

/-- The quotient lies within a factor of two of the power that the numbers of bits say. -/
theorem quotient_bounds (hn : n ≠ 0) (hd : 0 < d) :
    (2 : ℚ) ^ ((n.log2 : ℤ) - d.log2 - 1) ≤ n / d ∧
      (n / d : ℚ) < 2 ^ ((n.log2 : ℤ) - d.log2 + 1) := by
  have hd' : (0 : ℚ) < d := by exact_mod_cast hd
  have hnlow : (2 : ℚ) ^ (n.log2 : ℤ) ≤ n := by
    rw [zpow_natCast]
    exact_mod_cast Nat.log2_self_le hn
  have hnhigh : (n : ℚ) < 2 ^ ((n.log2 : ℤ) + 1) := by
    have h := Nat.lt_log2_self (n := n)
    exact_mod_cast h
  have hdlow : (2 : ℚ) ^ (d.log2 : ℤ) ≤ d := by
    rw [zpow_natCast]
    exact_mod_cast Nat.log2_self_le hd.ne'
  have hdhigh : (d : ℚ) < 2 ^ ((d.log2 : ℤ) + 1) := by
    have h := Nat.lt_log2_self (n := d)
    exact_mod_cast h
  rw [le_div_iff₀ hd', div_lt_iff₀ hd']
  constructor
  · calc (2 : ℚ) ^ ((n.log2 : ℤ) - d.log2 - 1) * d
        ≤ 2 ^ ((n.log2 : ℤ) - d.log2 - 1) * 2 ^ ((d.log2 : ℤ) + 1) :=
          mul_le_mul_of_nonneg_left hdhigh.le (zpow_nonneg (by norm_num) _)
      _ = 2 ^ (n.log2 : ℤ) := by
          rw [← zpow_add₀ (by norm_num)]
          congr 1
          ring
      _ ≤ n := hnlow
  · calc (n : ℚ) < 2 ^ ((n.log2 : ℤ) + 1) := hnhigh
      _ = 2 ^ ((n.log2 : ℤ) - d.log2 + 1) * 2 ^ (d.log2 : ℤ) := by
          rw [← zpow_add₀ (by norm_num)]
          congr 1
          ring
      _ ≤ 2 ^ ((n.log2 : ℤ) - d.log2 + 1) * d :=
          mul_le_mul_of_nonneg_left hdlow (zpow_nonneg (by norm_num) _)

/-- The unit in the last place that is tried first. -/
def firstUnit (n d : ℕ) : ℤ := max minExponent ((n.log2 : ℤ) - d.log2 - 53)

/-- In the first unit there are at most fifty-four bits. -/
theorem units_firstUnit_lt (hn : n ≠ 0) (hd : 0 < d) :
    (inUnits n d (firstUnit n d)).1 / (inUnits n d (firstUnit n d)).2 < 2 * bound := by
  rw [units_lt_iff hd]
  have hbound : ((2 * bound : ℕ) : ℚ) = 2 ^ (54 : ℤ) := by norm_num [bound]
  rw [hbound, ← zpow_add₀ (by norm_num)]
  refine (quotient_bounds hn hd).2.trans_le (zpow_le_zpow_right₀ (by norm_num) ?_)
  unfold firstUnit
  omega

/-- There are at least fifty-three, unless it is the smallest unit. -/
theorem half_le_units_firstUnit (hn : n ≠ 0) (hd : 0 < d) (h : firstUnit n d ≠ minExponent) :
    half ≤ (inUnits n d (firstUnit n d)).1 / (inUnits n d (firstUnit n d)).2 := by
  rw [le_units_iff hd]
  have hhalf : ((half : ℕ) : ℚ) = 2 ^ (52 : ℤ) := by norm_num [half]
  rw [hhalf, ← zpow_add₀ (by norm_num)]
  refine (zpow_le_zpow_right₀ (by norm_num) ?_).trans (quotient_bounds hn hd).1
  unfold firstUnit at h ⊢
  omega

/-- In a unit twice as large there is one bit less. -/
theorem units_succ (hd : 0 < d) (hlow : bound ≤ (inUnits n d e).1 / (inUnits n d e).2)
    (hhigh : (inUnits n d e).1 / (inUnits n d e).2 < 2 * bound) :
    half ≤ (inUnits n d (e + 1)).1 / (inUnits n d (e + 1)).2 ∧
      (inUnits n d (e + 1)).1 / (inUnits n d (e + 1)).2 < bound := by
  rw [le_units_iff hd] at hlow ⊢
  rw [units_lt_iff hd] at hhigh ⊢
  have hbound : (bound : ℚ) = 2 * half := by norm_num [bound, half]
  rw [zpow_add_one₀ (by norm_num)]
  push_cast at hhigh
  rw [hbound] at hlow hhigh ⊢
  constructor <;> linarith

/-! ## Rounding -/

theorem divHalfEven_bounds (a b : ℕ) : a / b ≤ divHalfEven a b ∧ divHalfEven a b ≤ a / b + 1 := by
  unfold divHalfEven
  dsimp only
  split
  · exact ⟨le_rfl, Nat.le_succ _⟩
  · exact ⟨Nat.le_succ _, le_rfl⟩

/-- The unit in the last place. -/
def unit (n d : ℕ) : ℤ :=
  if (inUnits n d (firstUnit n d)).1 / (inUnits n d (firstUnit n d)).2 < bound then firstUnit n d
  else firstUnit n d + 1

/-- The quotient, rounded to units. -/
def rounded (n d : ℕ) : ℕ := divHalfEven (inUnits n d (unit n d)).1 (inUnits n d (unit n d)).2

/-- A significand that has one bit too many is halved. -/
def settled (m : ℕ) (e : ℤ) : ℕ × ℤ := if m = bound then (half, e + 1) else (m, e)

theorem nearest?_eq (negative : Bool) (hn : n ≠ 0) : nearest? negative n d =
    if (settled (rounded n d) (unit n d)).2 ≤ maxExponent then
      some ⟨negative, (settled (rounded n d) (unit n d)).1, (settled (rounded n d) (unit n d)).2⟩
    else none := by
  unfold nearest?
  rw [if_neg hn]
  rfl

theorem minExponent_le_unit (n d : ℕ) : minExponent ≤ unit n d := by
  have hfirst : minExponent ≤ firstUnit n d := le_max_left _ _
  unfold unit
  split <;> omega

/-- Rounding leaves fifty-three bits, or one bit more that is to be halved; fewer are left only in
the smallest unit. -/
theorem rounded_bounds (hn : n ≠ 0) (hd : 0 < d) :
    rounded n d ≤ bound ∧ (unit n d = minExponent ∨ half ≤ rounded n d) := by
  have hround := divHalfEven_bounds (inUnits n d (unit n d)).1 (inUnits n d (unit n d)).2
  unfold rounded
  have hunits : (inUnits n d (unit n d)).1 / (inUnits n d (unit n d)).2 < bound ∧
      (unit n d = minExponent ∨
        half ≤ (inUnits n d (unit n d)).1 / (inUnits n d (unit n d)).2) := by
    unfold unit
    split
    · rename_i hfew
      refine ⟨hfew, ?_⟩
      by_cases hsmallest : firstUnit n d = minExponent
      · exact .inl hsmallest
      · exact .inr (half_le_units_firstUnit hn hd hsmallest)
    · rename_i hmany
      obtain ⟨hlow, hhigh⟩ := units_succ hd (Nat.le_of_not_lt hmany) (units_firstUnit_lt hn hd)
      exact ⟨hhigh, .inr hlow⟩
  exact ⟨hround.2.trans hunits.1, hunits.2.imp_right fun h => h.trans hround.1⟩

theorem canonical_settled {m : ℕ} {e : ℤ} (negative : Bool) (hm : m ≤ bound)
    (hmin : minExponent ≤ e) (hfull : e = minExponent ∨ half ≤ m)
    (hmax : (settled m e).2 ≤ maxExponent) :
    Canonical ⟨negative, (settled m e).1, (settled m e).2⟩ := by
  unfold settled at hmax ⊢
  split at hmax
  · rename_i hbound
    rw [if_pos hbound]
    exact ⟨show half < bound by decide, by dsimp only; omega, hmax, .inr (Nat.le_refl half)⟩
  · rename_i hbound
    rw [if_neg hbound]
    exact ⟨Nat.lt_of_le_of_ne hm hbound, hmin, hmax, hfull⟩

theorem canonical_zero (negative : Bool) : (zero negative).Canonical :=
  ⟨show 0 < bound by decide, le_rfl, show minExponent ≤ maxExponent by decide, .inl rfl⟩

/-- **A number that is rounded to is in its one form.** -/
theorem canonical_of_nearest? {negative : Bool} (hd : 0 < d) {x : Binary64}
    (h : nearest? negative n d = some x) : x.Canonical := by
  by_cases hn : n = 0
  · rw [hn] at h
    cases h
    exact canonical_zero negative
  · rw [nearest?_eq negative hn] at h
    obtain ⟨hbound, hfull⟩ := rounded_bounds hn hd
    split at h
    · rename_i hmax
      cases h
      exact canonical_settled negative hbound (minExponent_le_unit n d) hfull hmax
    · exact absurd h (by simp)

/-! ## Arithmetic -/

theorem fraction_snd_pos (x : Binary64) : 0 < x.fraction.2 := by
  unfold fraction
  simp only [Nat.pow_eq]
  positivity

theorem canonical_of_mul? {x y z : Binary64} (h : x.mul? y = some z) : z.Canonical :=
  canonical_of_nearest? (Nat.mul_pos x.fraction_snd_pos y.fraction_snd_pos) h

theorem canonical_of_div? {x y z : Binary64} (hy : y.significand ≠ 0) (h : x.div? y = some z) :
    z.Canonical := by
  have hpos : 0 < y.fraction.1 := by
    unfold fraction
    simp only [Nat.pow_eq]
    positivity
  exact canonical_of_nearest? (Nat.mul_pos x.fraction_snd_pos hpos) h

/-- No power of ten is rounded to zero. -/
theorem significand_ne_zero_of_powerOfTen? {k : ℕ} (hk : k ≤ 308) {ten : Binary64}
    (h : powerOfTen? k = some ten) : ten.significand ≠ 0 := by
  have hall : ∀ k < 309, (powerOfTen? k).all (·.significand ≠ 0) = true := by decide +kernel
  have hten := hall k (by omega)
  rw [h] at hten
  simpa using hten

end Treasury.Binary64
