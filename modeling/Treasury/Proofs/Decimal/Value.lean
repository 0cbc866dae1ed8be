import Mathlib.Algebra.Order.Ring.Rat
import Mathlib.Tactic.FieldSimp
import Mathlib.Tactic.Linarith
import Mathlib.Tactic.Ring
import Treasury.Decimal.Basic

/-!
# What an amount is worth

An amount stands for a rational number, and not every rational number, not even every whole one, has
an amount that stands for it: `Held` says of which there is one. Adding gives the exact sum
whenever it is held (`add?_of_held`), and then only. A sum that is not held is refused only if it
is too large; otherwise it is rounded.
-/

namespace Treasury.Decimal

/-- The number that an amount stands for. -/
def value (d : Decimal) : ℚ := d.coefficient / 10 ^ d.scale

/-- There is an amount that stands for the number. -/
def Held (q : ℚ) : Prop := ∃ d : Decimal, d.value = q

theorem held_zero : Held 0 := ⟨zero, by simp [value, zero]⟩

theorem value_of_isZero {d : Decimal} (h : d.isZero = true) : d.value = 0 := by
  have hc : d.coefficient = 0 := of_decide_eq_true h
  simp [value, hc]

/-- An amount written with more places. -/
theorem value_eq_coefficientAt (d : Decimal) {scale : Nat} (h : d.scale ≤ scale) :
    d.value = d.coefficientAt scale / 10 ^ scale := by
  have hsplit : (10 : ℚ) ^ scale = 10 ^ (scale - d.scale) * 10 ^ d.scale := by
    rw [← pow_add, Nat.sub_add_cancel h]
  have hat : (d.coefficientAt scale : ℚ) = d.coefficient * 10 ^ (scale - d.scale) := by
    unfold coefficientAt
    rw [Nat.pow_eq]
    push_cast
    rfl
  unfold value
  rw [hat, hsplit]
  field_simp

/-! ## Rounding -/

theorem divHalfEven_of_dvd {n d : Nat} (hd : 0 < d) (h : d ∣ n) : divHalfEven n d = n / d := by
  unfold divHalfEven
  have hr : n % d = 0 := Nat.mod_eq_zero_of_dvd h
  simp only [hr]
  rw [if_pos (.inl (by omega))]

/-- Places are given up without a loss as long as the digits there are zeros. -/
theorem fitMagnitude_of_dvd {magnitude dropped scale t : Nat} (ht : t ≤ scale)
    (hdvd : 10 ^ (dropped + (scale - t)) ∣ magnitude)
    (hlt : magnitude / 10 ^ (dropped + (scale - t)) < bound) :
    ∃ s ≤ scale, 10 ^ (dropped + (scale - s)) ∣ magnitude
      ∧ magnitude / 10 ^ (dropped + (scale - s)) < bound
      ∧ fitMagnitude magnitude dropped scale =
        some (magnitude / 10 ^ (dropped + (scale - s)), s) := by
  induction scale generalizing dropped with
  | zero =>
    obtain rfl : t = 0 := by omega
    refine ⟨0, Nat.le_refl 0, hdvd, hlt, ?_⟩
    unfold fitMagnitude
    have hexact := divHalfEven_of_dvd (Nat.pow_pos (n := dropped) (by decide : 0 < 10)) hdvd
    simp only [Nat.pow_eq, Nat.sub_self, Nat.add_zero] at hlt hexact ⊢
    rw [hexact, if_pos hlt]
  | succ scale ih =>
    have hfirst : 10 ^ dropped ∣ magnitude :=
      Nat.dvd_trans (Nat.pow_dvd_pow 10 (Nat.le_add_right _ _)) hdvd
    have hexact := divHalfEven_of_dvd (Nat.pow_pos (n := dropped) (by decide : 0 < 10)) hfirst
    unfold fitMagnitude
    simp only [Nat.pow_eq, hexact]
    by_cases hfits : magnitude / 10 ^ dropped < bound
    · refine ⟨scale + 1, Nat.le_refl _, ?_⟩
      rw [Nat.sub_self, Nat.add_zero, if_pos hfits]
      exact ⟨hfirst, hfits, rfl⟩
    · -- as `t` places fit and all of them do not, `t` is among the rest
      have hlow : t ≤ scale := by
        rcases Nat.lt_or_eq_of_le ht with h | rfl
        · omega
        · rw [Nat.sub_self, Nat.add_zero] at hlt
          exact absurd hlt hfits
      have hplaces : ∀ u ≤ scale, dropped + 1 + (scale - u) = dropped + (scale + 1 - u) := by
        intro u hu
        omega
      rw [← hplaces t hlow] at hdvd hlt
      obtain ⟨s, hs, hdvd', hlt', hfit⟩ := ih hlow hdvd hlt
      rw [hplaces s hs] at hdvd' hlt' hfit
      refine ⟨s, Nat.le_succ_of_le hs, hdvd', hlt', ?_⟩
      rw [if_neg hfits, hfit]

/-- A held number is a small enough numerator over some of the places that it is written with. -/
theorem exists_places_of_held {n : Int} {scale : Nat} (h : Held (n / 10 ^ scale)) :
    ∃ t ≤ scale, t ≤ 28 ∧ 10 ^ (scale - t) ∣ n.natAbs
      ∧ n.natAbs / 10 ^ (scale - t) < bound := by
  obtain ⟨d, hd⟩ := h
  have hcross : (d.coefficient : ℚ) * 10 ^ scale = n * 10 ^ d.scale := by
    unfold value at hd
    field_simp at hd
    linarith
  have hcross : d.coefficient * 10 ^ scale = n * 10 ^ d.scale := by exact_mod_cast hcross
  rcases Nat.le_total d.scale scale with hle | hle
  · -- the amount needs no more places, and the further digits of the numerator are zeros
    have hn : n = d.coefficient * 10 ^ (scale - d.scale) := by
      have hsplit : (10 : Int) ^ scale = 10 ^ (scale - d.scale) * 10 ^ d.scale := by
        rw [← pow_add, Nat.sub_add_cancel hle]
      rw [hsplit, ← mul_assoc] at hcross
      exact (mul_right_cancel₀ (by positivity) hcross).symm
    have habs : n.natAbs = d.coefficient.natAbs * 10 ^ (scale - d.scale) := by
      rw [hn, Int.natAbs_mul, Int.natAbs_pow]
      rfl
    refine ⟨d.scale, hle, d.scale_le, ⟨d.coefficient.natAbs, by rw [habs, Nat.mul_comm]⟩, ?_⟩
    rw [habs, Nat.mul_div_cancel _ (by positivity)]
    exact d.fits
  · -- the amount has zeros to spare
    have hn : d.coefficient = n * 10 ^ (d.scale - scale) := by
      have hsplit : (10 : Int) ^ d.scale = 10 ^ (d.scale - scale) * 10 ^ scale := by
        rw [← pow_add, Nat.sub_add_cancel hle]
      rw [hsplit, ← mul_assoc] at hcross
      exact mul_right_cancel₀ (by positivity) hcross
    have habs : d.coefficient.natAbs = n.natAbs * 10 ^ (d.scale - scale) := by
      rw [hn, Int.natAbs_mul, Int.natAbs_pow]
      rfl
    refine ⟨scale, Nat.le_refl _, Nat.le_trans hle d.scale_le, ?_, ?_⟩
    · rw [Nat.sub_self, pow_zero]
      exact Nat.one_dvd _
    · rw [Nat.sub_self, pow_zero, Nat.div_one]
      have hfits := d.fits
      have hle : n.natAbs ≤ d.coefficient.natAbs := by
        rw [habs]
        exact Nat.le_mul_of_pos_right _ (by positivity)
      omega

/-- A held number is not rounded. -/
theorem ofExact?_of_held {n : Int} {scale : Nat} (hscale : scale ≤ 28)
    (h : Held (n / 10 ^ scale)) : ∃ d, ofExact? n scale = some d ∧ d.value = n / 10 ^ scale := by
  obtain ⟨t, ht, -, hdvd, hlt⟩ := exists_places_of_held h
  rw [← Nat.zero_add (scale - t)] at hdvd hlt
  obtain ⟨s, hs, hdvd, hlt, hfit⟩ := fitMagnitude_of_dvd ht hdvd hlt
  rw [Nat.zero_add] at hdvd hlt hfit
  obtain ⟨m, hm⟩ := hdvd
  have hquot : n.natAbs / 10 ^ (scale - s) = m := by
    rw [hm, Nat.mul_div_cancel_left _ (by positivity)]
  rw [hquot] at hlt hfit
  have hsign : n.sign.natAbs ≤ 1 := by
    rw [Int.natAbs_sign]
    split <;> decide
  have hfits : (n.sign * (m : Int)).natAbs < bound := by
    rw [Int.natAbs_mul, Int.natAbs_natCast]
    have := Nat.mul_le_mul_right m hsign
    omega
  have hs28 : s ≤ 28 := by omega
  refine ⟨⟨n.sign * m, s, hfits, hs28, false, Bool.noConfusion⟩, ?_, ?_⟩
  · unfold ofExact?
    rw [hfit, Option.bind_some, ofParts?_eq_some_iff]
    exact ⟨rfl, rfl, rfl⟩
  · have hn : n = n.sign * m * 10 ^ (scale - s) := by
      have habs := Int.sign_mul_natAbs n
      rw [hm] at habs
      push_cast at habs
      calc n = n.sign * (10 ^ (scale - s) * m) := habs.symm
        _ = n.sign * m * 10 ^ (scale - s) := by ring
    have hsplit : (10 : ℚ) ^ scale = 10 ^ (scale - s) * 10 ^ s := by
      rw [← pow_add, Nat.sub_add_cancel hs]
    have hcast : (n : ℚ) = n.sign * m * 10 ^ (scale - s) := by exact_mod_cast hn
    unfold value
    rw [hcast, hsplit]
    push_cast
    field_simp

/-- **A sum is exact if it is held.** -/
theorem add?_of_held {a b : Decimal} (h : Held (a.value + b.value)) :
    ∃ c, a.add? b = some c ∧ c.value = a.value + b.value := by
  unfold add?
  by_cases ha : a.isZero = true
  · rw [if_pos ha]
    exact ⟨b, rfl, by rw [value_of_isZero ha, zero_add]⟩
  rw [if_neg ha]
  by_cases hb : b.isZero = true
  · rw [if_pos hb]
    exact ⟨a, rfl, by rw [value_of_isZero hb, add_zero]⟩
  rw [if_neg hb]
  have hsum : a.value + b.value =
      ((a.coefficientAt (max a.scale b.scale) + b.coefficientAt (max a.scale b.scale) : Int) : ℚ)
        / 10 ^ max a.scale b.scale := by
    rw [a.value_eq_coefficientAt (Nat.le_max_left _ _),
      b.value_eq_coefficientAt (Nat.le_max_right _ _)]
    push_cast
    ring
  rw [hsum] at h ⊢
  exact ofExact?_of_held (Nat.max_le.2 ⟨a.scale_le, b.scale_le⟩) h

/-- Rounding does not go below zero. -/
theorem isNegative_of_ofExact? {n : Int} {scale : Nat} {d : Decimal} (hn : 0 ≤ n)
    (h : ofExact? n scale = some d) : d.isNegative = false := by
  obtain ⟨fitted, -, hparts⟩ := Option.bind_eq_some_iff.1 h
  obtain ⟨hcoefficient, -, -⟩ := ofParts?_eq_some_iff.1 hparts
  refine decide_eq_false (not_lt.2 ?_)
  rw [hcoefficient]
  exact Int.mul_nonneg (Int.sign_nonneg_iff.2 hn) (Int.natCast_nonneg _)

/-- **A sum of amounts that are not below zero is not below zero either.** -/
theorem isNegative_of_add? {a b c : Decimal} (h : a.add? b = some c)
    (ha : a.isNegative = false) (hb : b.isNegative = false) : c.isNegative = false := by
  have hat : ∀ {d : Decimal} (scale : Nat), d.isNegative = false → 0 ≤ d.coefficientAt scale :=
    fun scale hd => Int.mul_nonneg (not_lt.1 (of_decide_eq_false hd)) (Int.natCast_nonneg _)
  unfold add? at h
  split at h
  · cases h
    exact hb
  split at h
  · cases h
    exact ha
  · exact isNegative_of_ofExact? (Int.add_nonneg (hat _ ha) (hat _ hb)) h

/-- Four tenths are lost on the largest amount. -/
example : ((ofParts? (bound - 1) 0).bind fun a => (ofParts? 4 1).bind a.add?) =
    ofParts? (bound - 1) 0 := by decide

end Treasury.Decimal
