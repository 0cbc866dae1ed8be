import Mathlib.Algebra.Order.Field.Rat
import Mathlib.Tactic.FieldSimp
import Mathlib.Tactic.Linarith
import Mathlib.Tactic.NormNum
import Mathlib.Tactic.Ring
import Treasury.Binary64

/-!
# Numbers are told apart by their digits

The shortest digits of a binary number lie among the reals that round to it (`names_shortest`).
Every real rounds to one number only, because a number has one form (`Canonical`) and the reals
between two neighbours are shared out: the one with the even significand gets the middle. So no two
numbers have the same digits (`eq_of_shortestValue`).

That there are digits at all is a matter of the finest grid that is tried. It is finer than half
the distance between the smallest numbers, so one of its points is never missed.
-/

namespace Treasury.Binary64

/-- The one form in which sixty-four bits hold a number: the significand has all of its bits, unless
the exponent is the smallest. -/
structure Canonical (x : Binary64) : Prop where
  lt_bound : x.significand < bound
  minExponent_le : minExponent ≤ x.exponent
  le_maxExponent : x.exponent ≤ maxExponent
  full : x.exponent = minExponent ∨ half ≤ x.significand

/-! ## The reals that round to a number -/

/-- A quarter of the unit in the last place. -/
def quarter (x : Binary64) : ℚ := 2 ^ (x.exponent - 2)

theorem quarter_pos (x : Binary64) : 0 < x.quarter := zpow_pos (by norm_num) _

/-- The real rounds to the magnitude of the number. -/
structure Names (x : Binary64) (q : ℚ) : Prop where
  low : x.interval.low * x.quarter ≤ q
  high : q ≤ x.interval.high * x.quarter
  /-- Without their ends the reals of an odd significand. -/
  inside : x.interval.closed = false →
    x.interval.low * x.quarter < q ∧ q < x.interval.high * x.quarter

variable {x y : Binary64} {q : ℚ}

/-- Where the bounds of one number lie in front of those of another, no real is named by both. -/
theorem Names.not_of_bounds (hx : x.Names q) (high low : ℕ) {unit : ℚ} (hunit : 0 < unit)
    (hhigh : x.interval.high * x.quarter ≤ high * unit)
    (hlow : low * unit ≤ y.interval.low * y.quarter)
    (h : high < low ∨ high = low ∧ (x.interval.closed = false ∨ y.interval.closed = false)) :
    ¬y.Names q := by
  intro hy
  have hle : x.interval.high * x.quarter ≤ y.interval.low * y.quarter := by
    have hcast : (high : ℚ) ≤ low := by
      exact_mod_cast h.elim Nat.le_of_lt fun h => Nat.le_of_eq h.1
    exact hhigh.trans ((mul_le_mul_of_nonneg_right hcast hunit.le).trans hlow)
  rcases h with hlt | ⟨-, hopen | hopen⟩
  · have hcast : (high : ℚ) * unit < low * unit :=
      mul_lt_mul_of_pos_right (by exact_mod_cast hlt) hunit
    linarith [hx.high, hy.low]
  · linarith [(hx.inside hopen).2, hy.low]
  · linarith [hx.high, (hy.inside hopen).1]

theorem closed_eq (x : Binary64) : x.interval.closed = decide (x.significand % 2 = 0) := rfl

theorem high_eq (x : Binary64) : x.interval.high = 4 * x.significand + 2 := rfl

theorem low_ge (x : Binary64) : 4 * x.significand - 2 ≤ x.interval.low := by
  unfold interval
  dsimp only
  split <;> omega

/-- In the middle between two neighbours one of them gives way. -/
theorem not_names_of_significand_lt (hexponent : x.exponent = y.exponent)
    (hlt : x.significand < y.significand) (hq : x.Names q) : ¬y.Names q := by
  have hunit : x.quarter = y.quarter := by unfold quarter; rw [hexponent]
  have hlow := low_ge y
  refine hq.not_of_bounds x.interval.high (4 * y.significand - 2) x.quarter_pos le_rfl ?_ ?_
  · rw [hunit]
    exact mul_le_mul_of_nonneg_right (by exact_mod_cast hlow) y.quarter_pos.le
  · rw [high_eq, closed_eq, closed_eq, decide_eq_false_iff_not, decide_eq_false_iff_not]
    omega

/-- The largest significand of one exponent is odd, so the power of two above it takes the
middle. -/
theorem not_names_of_exponent_lt (hx : x.Canonical) (hy : y.Canonical)
    (hlt : x.exponent < y.exponent) (hq : x.Names q) : ¬y.Names q := by
  have hsignificand := hx.lt_bound
  have hfull : half ≤ y.significand := hy.full.resolve_left fun h => by
    have := hx.minExponent_le
    omega
  have hlow : 4 * half - 1 ≤ y.interval.low := by
    unfold interval
    dsimp only
    split
    · omega
    · rename_i h
      have hne : y.significand ≠ half := fun he => h ⟨he, by have := hx.minExponent_le; omega⟩
      omega
  have hunit : 2 * x.quarter ≤ y.quarter := by
    unfold quarter
    rw [← zpow_one_add₀ (by norm_num)]
    exact zpow_le_zpow_right₀ (by norm_num) (by omega)
  have hbound : bound = 2 * half := rfl
  refine hq.not_of_bounds x.interval.high (2 * (4 * half - 1)) x.quarter_pos le_rfl ?_ ?_
  · calc ((2 * (4 * half - 1) : ℕ) : ℚ) * x.quarter
        = ((4 * half - 1 : ℕ) : ℚ) * (2 * x.quarter) := by push_cast; ring
      _ ≤ y.interval.low * y.quarter :=
          mul_le_mul (by exact_mod_cast hlow) hunit (by linarith [x.quarter_pos])
            (Nat.cast_nonneg _)
  · rw [high_eq, closed_eq, closed_eq, decide_eq_false_iff_not, decide_eq_false_iff_not]
    omega

/-- **A real rounds to one magnitude only.** -/
theorem eq_of_names (hx : x.Canonical) (hy : y.Canonical) (hqx : x.Names q) (hqy : y.Names q) :
    x.exponent = y.exponent ∧ x.significand = y.significand := by
  have hexponent : x.exponent = y.exponent := by
    rcases lt_trichotomy x.exponent y.exponent with h | h | h
    · exact absurd hqy (not_names_of_exponent_lt hx hy h hqx)
    · exact h
    · exact absurd hqx (not_names_of_exponent_lt hy hx h hqy)
  refine ⟨hexponent, ?_⟩
  rcases lt_trichotomy x.significand y.significand with h | h | h
  · exact absurd hqy (not_names_of_significand_lt hexponent h hqx)
  · exact h
  · exact absurd hqx (not_names_of_significand_lt hexponent.symm h hqy)

/-! ## Grids -/

/-- What makes whole numbers of the multiples of a power of two and of those of a power of ten. -/
def clearing (e p : ℤ) : ℚ := 2 ^ (-e).toNat * 10 ^ (-p).toNat

theorem clearing_pos (e p : ℤ) : 0 < clearing e p := by unfold clearing; positivity

theorem zpow_mul_pow_neg {b : ℚ} (hb : b ≠ 0) (e : ℤ) :
    b ^ e * b ^ (-e).toNat = b ^ e.toNat := by
  rw [← zpow_natCast, ← zpow_natCast, ← zpow_add₀ hb]
  congr 1
  omega

theorem clear_two (a : ℕ) (e p : ℤ) :
    (a * (Nat.pow 2 e.toNat * Nat.pow 10 (-p).toNat) : ℕ) = a * 2 ^ e * clearing e p := by
  have h := zpow_mul_pow_neg (b := 2) (by norm_num) e
  unfold clearing
  simp only [Nat.pow_eq]
  push_cast
  rw [← h]
  ring

theorem clear_ten (c : ℕ) (e p : ℤ) :
    (c * (Nat.pow 2 (-e).toNat * Nat.pow 10 p.toNat) : ℕ) = c * 10 ^ p * clearing e p := by
  have h := zpow_mul_pow_neg (b := 10) (by norm_num) p
  unfold clearing
  simp only [Nat.pow_eq]
  push_cast
  rw [← h]
  ring

section

variable {a c : ℕ} {e p : ℤ}

theorem clear_le_iff : a * (Nat.pow 2 e.toNat * Nat.pow 10 (-p).toNat)
    ≤ c * (Nat.pow 2 (-e).toNat * Nat.pow 10 p.toNat) ↔ (a * 2 ^ e : ℚ) ≤ c * 10 ^ p := by
  rw [← Nat.cast_le (α := ℚ), clear_two, clear_ten, mul_le_mul_iff_left₀ (clearing_pos e p)]

theorem clear_lt_iff : a * (Nat.pow 2 e.toNat * Nat.pow 10 (-p).toNat)
    < c * (Nat.pow 2 (-e).toNat * Nat.pow 10 p.toNat) ↔ (a * 2 ^ e : ℚ) < c * 10 ^ p := by
  rw [← Nat.cast_lt (α := ℚ), clear_two, clear_ten, mul_lt_mul_iff_left₀ (clearing_pos e p)]

theorem le_clear_iff : c * (Nat.pow 2 (-e).toNat * Nat.pow 10 p.toNat)
    ≤ a * (Nat.pow 2 e.toNat * Nat.pow 10 (-p).toNat) ↔ (c * 10 ^ p : ℚ) ≤ a * 2 ^ e := by
  rw [← Nat.cast_le (α := ℚ), clear_two, clear_ten, mul_le_mul_iff_left₀ (clearing_pos e p)]

theorem lt_clear_iff : c * (Nat.pow 2 (-e).toNat * Nat.pow 10 p.toNat)
    < a * (Nat.pow 2 e.toNat * Nat.pow 10 (-p).toNat) ↔ (c * 10 ^ p : ℚ) < a * 2 ^ e := by
  rw [← Nat.cast_lt (α := ℚ), clear_two, clear_ten, mul_lt_mul_iff_left₀ (clearing_pos e p)]

end

/-- What `onGrid?` asks of a multiple. -/
def IsInside (x : Binary64) (p : ℤ) (c : ℕ) : Prop :=
  let i := x.interval
  let e := x.exponent - 2
  let up := Nat.pow 2 e.toNat * Nat.pow 10 (-p).toNat
  let step := Nat.pow 2 (-e).toNat * Nat.pow 10 p.toNat
  c ≠ 0 ∧ (if i.closed then i.low * up ≤ c * step ∧ c * step ≤ i.high * up
    else i.low * up < c * step ∧ c * step < i.high * up)

theorem isInside_iff {p : ℤ} {c : ℕ} : x.IsInside p c ↔ c ≠ 0 ∧ x.Names (c * 10 ^ p) := by
  unfold IsInside
  dsimp only
  rw [clear_le_iff, clear_lt_iff, le_clear_iff, lt_clear_iff]
  refine and_congr_right fun _ => ?_
  split
  · rename_i hclosed
    exact ⟨fun h => ⟨h.1, h.2, fun hopen => absurd (hclosed.symm.trans hopen) (by simp)⟩,
      fun h => ⟨h.low, h.high⟩⟩
  · rename_i hopen
    exact ⟨fun h => ⟨h.1.le, h.2.le, fun _ => h⟩, fun h => h.inside (by simpa using hopen)⟩

instance (x : Binary64) (p : ℤ) (c : ℕ) : Decidable (x.IsInside p c) :=
  inferInstanceAs (Decidable (c ≠ 0 ∧ ite _ _ _))

/-- The multiple of `10 ^ p` next below the number. -/
def below (x : Binary64) (p : ℤ) : ℕ :=
  x.interval.middle * (Nat.pow 2 (x.exponent - 2).toNat * Nat.pow 10 (-p).toNat)
    / (Nat.pow 2 (-(x.exponent - 2)).toNat * Nat.pow 10 p.toNat)

/-- One of the two multiples next to the number is picked, if one of them names it. -/
theorem onGrid?_cases (x : Binary64) (p : ℤ) :
    (∃ c, x.onGrid? p = some c ∧ x.IsInside p c)
      ∨ x.onGrid? p = none ∧ ¬x.IsInside p (x.below p + 1) := by
  by_cases hbelow : x.IsInside p (x.below p) <;> by_cases habove : x.IsInside p (x.below p + 1)
  · have h : x.onGrid? p = ite _ _ _ :=
      (if_pos (decide_eq_true hbelow)).trans (if_pos (decide_eq_true habove))
    -- the nearer of the two
    rw [h]
    split
    · exact .inl ⟨_, rfl, hbelow⟩
    · exact .inl ⟨_, rfl, habove⟩
  · have h : x.onGrid? p = some (x.below p) :=
      (if_pos (decide_eq_true hbelow)).trans (if_neg (mt of_decide_eq_true habove))
    exact .inl ⟨_, h, hbelow⟩
  · have h : x.onGrid? p = some (x.below p + 1) :=
      (if_neg (mt of_decide_eq_true hbelow)).trans (if_pos (decide_eq_true habove))
    exact .inl ⟨_, h, habove⟩
  · have h : x.onGrid? p = none :=
      (if_neg (mt of_decide_eq_true hbelow)).trans (if_neg (mt of_decide_eq_true habove))
    exact .inr ⟨h, habove⟩

theorem isInside_of_onGrid? {p : ℤ} {c : ℕ} (h : x.onGrid? p = some c) : x.IsInside p c := by
  rcases onGrid?_cases x p with ⟨c', hsome, hinside⟩ | ⟨hnone, -⟩
  · rw [hsome] at h
    cases h
    exact hinside
  · rw [hnone] at h
    exact absurd h (by simp)

/-- The finest grid that is tried. -/
def finest : ℤ := -330

theorem finest_lt_quarter (hx : x.Canonical) : (10 : ℚ) ^ finest < x.quarter := by
  have hmin : (2 : ℚ) ^ (-1076 : ℤ) ≤ x.quarter := by
    have h := hx.minExponent_le
    unfold minExponent at h
    exact zpow_le_zpow_right₀ (by norm_num) (by omega)
  have hfine : (10 : ℚ) ^ finest < 2 ^ (-1076 : ℤ) := by
    unfold finest
    have hpow : (2 : ℚ) ^ 1076 < 10 ^ 330 := calc
      (2 : ℚ) ^ 1076 ≤ 2 ^ (98 * 11) := pow_le_pow_right₀ (by norm_num) (by norm_num)
      _ = (2 ^ 98) ^ 11 := pow_mul ..
      _ < (10 ^ 30) ^ 11 := pow_lt_pow_left₀ (by norm_num) (by positivity) (by norm_num)
      _ = 10 ^ 330 := (pow_mul ..).symm
    rw [zpow_neg, zpow_neg]
    exact inv_strictAnti₀ (zpow_pos (by norm_num) _) hpow
  exact hfine.trans_le hmin

/-- The number lies between two neighbours of every grid. -/
theorem below_le (x : Binary64) (p : ℤ) :
    x.below p * 10 ^ p ≤ x.interval.middle * x.quarter
      ∧ x.interval.middle * x.quarter < (x.below p + 1 : ℕ) * (10 : ℚ) ^ p := by
  have hstep : 0 < Nat.pow 2 (-(x.exponent - 2)).toNat * Nat.pow 10 p.toNat :=
    Nat.mul_pos (Nat.pow_pos (by decide)) (Nat.pow_pos (by decide))
  refine ⟨le_clear_iff.1 (Nat.div_mul_le_self _ _), clear_lt_iff.1 ?_⟩
  rw [Nat.succ_mul]
  exact Nat.lt_div_mul_add hstep

/-- **The finest grid has a multiple that names the number.** -/
theorem isSome_onGrid?_finest (hx : x.Canonical) : (x.onGrid? finest).isSome := by
  rcases onGrid?_cases x finest with ⟨c, hsome, -⟩ | ⟨-, hinside⟩
  · rw [hsome]
    rfl
  · refine absurd (isInside_iff.2 ⟨Nat.succ_ne_zero _, ?_⟩) hinside
    obtain ⟨hle, hlt⟩ := below_le x finest
    have hquarter := x.quarter_pos
    have hfine := finest_lt_quarter hx
    have hlow : x.interval.low * x.quarter ≤ x.interval.middle * x.quarter := by
      refine mul_le_mul_of_nonneg_right ?_ hquarter.le
      have hnat : x.interval.low ≤ x.interval.middle := by
        unfold interval
        dsimp only
        split <;> omega
      exact_mod_cast hnat
    have hhigh : (x.interval.high : ℚ) * x.quarter =
        x.interval.middle * x.quarter + 2 * x.quarter := by
      have hnat : x.interval.high = x.interval.middle + 2 := rfl
      rw [hnat]
      push_cast
      ring
    -- one step of the grid leads from below the number to less than half a unit above it
    have hstep : ((x.below finest + 1 : ℕ) : ℚ) * 10 ^ finest =
        x.below finest * 10 ^ finest + 10 ^ finest := by
      push_cast
      ring
    have habove : x.interval.low * x.quarter < ((x.below finest + 1 : ℕ) : ℚ) * 10 ^ finest :=
      hlow.trans_lt hlt
    have hbelow : ((x.below finest + 1 : ℕ) : ℚ) * 10 ^ finest < x.interval.high * x.quarter := by
      rw [hstep, hhigh]
      linarith
    exact ⟨habove.le, hbelow.le, fun _ => ⟨habove, hbelow⟩⟩

/-! ## The shortest digits -/

theorem shortestFrom_spec {p : ℤ} {fuel n : ℕ} (hn : n < fuel)
    (hsome : (x.onGrid? (p - n)).isSome) :
    ∃ c q, x.onGrid? q = some c ∧ x.shortestFrom p fuel = (c, q) := by
  induction fuel generalizing p n with
  | zero => exact absurd hn (by omega)
  | succ fuel ih =>
    unfold shortestFrom
    cases hgrid : x.onGrid? p with
    | some c => exact ⟨c, p, hgrid, rfl⟩
    | none =>
      cases n with
      | zero =>
        rw [Nat.cast_zero, sub_zero, hgrid] at hsome
        exact absurd hsome (by simp)
      | succ n =>
        refine ih (p := p - 1) (n := n) (by omega) ?_
        rwa [show p - 1 - n = p - (n + 1 : ℕ) by push_cast; ring]

/-- The real that the shortest digits make. -/
def shortestValue (x : Binary64) : ℚ := x.shortest.1 * 10 ^ x.shortest.2

/-- **The shortest digits name the number.** -/
theorem names_shortest (hx : x.Canonical) (hzero : x.isZero = false) :
    x.shortest.1 ≠ 0 ∧ x.Names x.shortestValue := by
  have hfinest : (x.onGrid? (309 - (639 : ℕ))).isSome := isSome_onGrid?_finest hx
  obtain ⟨c, q, hgrid, hfrom⟩ := shortestFrom_spec (show 639 < 640 by omega) hfinest
  have hshortest : x.shortest = (c, q) := by
    unfold shortest
    rw [hzero, hfrom]
    rfl
  unfold shortestValue
  rw [hshortest]
  exact isInside_iff.1 (isInside_of_onGrid? hgrid)

theorem shortestValue_of_isZero (hzero : x.isZero = true) : x.shortestValue = 0 := by
  unfold shortestValue shortest
  rw [hzero]
  simp

theorem shortestValue_eq_zero_iff (hx : x.Canonical) : x.shortestValue = 0 ↔ x.isZero = true := by
  refine ⟨fun h => ?_, shortestValue_of_isZero⟩
  by_contra hzero
  have hdigits := (names_shortest hx (by simpa using hzero)).1
  rcases mul_eq_zero.1 h with h | h
  · exact hdigits (by exact_mod_cast h)
  · exact absurd h (zpow_ne_zero _ (by norm_num))

/-- **Numbers with the same digits and the same sign are one.** -/
theorem eq_of_shortestValue (hx : x.Canonical) (hy : y.Canonical) (hsign : x.negative = y.negative)
    (h : x.shortestValue = y.shortestValue) : x = y := by
  have hmagnitude : x.exponent = y.exponent ∧ x.significand = y.significand := by
    cases hzero : x.isZero with
    | true =>
      have hzero' : y.isZero = true := by
        rw [← shortestValue_eq_zero_iff hy, ← h, shortestValue_of_isZero hzero]
      have hsignificand : x.significand = 0 := of_decide_eq_true hzero
      have hsignificand' : y.significand = 0 := of_decide_eq_true hzero'
      have hexponent := hx.full.resolve_right (by rw [hsignificand]; decide)
      have hexponent' := hy.full.resolve_right (by rw [hsignificand']; decide)
      exact ⟨hexponent.trans hexponent'.symm, hsignificand.trans hsignificand'.symm⟩
    | false =>
      have hzero' : y.isZero = false := by
        rw [← Bool.not_eq_true, ← shortestValue_eq_zero_iff hy, ← h, shortestValue_eq_zero_iff hx,
          hzero]
        simp
      refine eq_of_names hx hy (names_shortest hx hzero).2 ?_
      rw [h]
      exact (names_shortest hy hzero').2
  obtain ⟨negative, significand, exponent⟩ := x
  obtain ⟨rfl, rfl⟩ := hmagnitude
  cases hsign
  rfl

end Treasury.Binary64
