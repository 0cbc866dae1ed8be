import Mathlib.Data.List.TakeWhile
import Treasury.Proofs.Decimal.Text

/-!
# What a text denotes

A text can say more than an amount holds. Then the amount that is read is not what the text says, and
nobody is told: digits for which there is no room are rounded away. `number` is what the text
says, whatever its length; the amount that is read is worth this number exactly if amounts can hold
it, and hold what stands in front of the exponent mark, where digits are rounded away first
(`value_eq_number_iff`).
-/

namespace Treasury.Decimal

open Nat (ofDigitChars)

/-! ## Numbers -/

/-- True of the marks in front of an exponent. -/
def isMark (c : Char) : Bool := c = 'e' ∨ c = 'E'

/-- The characters without the underscores, which mean nothing. -/
def withoutGaps (cs : List Char) : List Char := cs.filter (· ≠ '_')

/-- The number that digits with at most one point between them make. -/
def unsignedNumber (cs : List Char) : ℚ :=
  let whole := (withoutGaps cs).takeWhile (· ≠ '.')
  let places := ((withoutGaps cs).dropWhile (· ≠ '.')).drop 1
  ofDigitChars 10 (whole ++ places) 0 / 10 ^ places.length

/-- The number with the sign that may stand in front. -/
def signedNumber (cs : List Char) : ℚ :=
  let (negative, unsigned) := splitSign cs
  if negative then -unsignedNumber unsigned else unsignedNumber unsigned

/-- The number in front of the exponent mark, which is the whole text if there is no mark. -/
def mantissa (text : String) : ℚ := signedNumber (text.toList.takeWhile (!isMark ·))

/-- The number behind the exponent mark; zero if there is no mark. -/
def exponent (text : String) : ℤ :=
  match text.toList.dropWhile (!isMark ·) with
  | [] => 0
  | _ :: '-' :: digits => -((exponent? digits).getD 0 : ℤ)
  | _ :: digits => (exponent? digits).getD 0

/-- The number that a text denotes. -/
def number (text : String) : ℚ := mantissa text * 10 ^ exponent text

/-! ## Digits -/

theorem ofDigitChars_eq (cs : List Char) (n : Nat) :
    ofDigitChars 10 cs n = n * 10 ^ cs.length + ofDigitChars 10 cs 0 := by
  induction cs generalizing n with
  | nil => simp
  | cons c cs ih =>
    rw [Nat.ofDigitChars_cons, Nat.ofDigitChars_cons, ih, ih (10 * 0 + _), List.length_cons, pow_succ]
    ring

theorem digit?_eq_some {c : Char} {d : Nat} (h : digit? c = some d) :
    d = c.toNat - '0'.toNat ∧ d < 10 ∧ c ≠ '.' ∧ c ≠ '_' := by
  unfold digit? at h
  split at h
  · rename_i hc
    cases h
    have hlow : '0'.toNat ≤ c.toNat := hc.1
    have hhigh : c.toNat ≤ '9'.toNat := hc.2
    have hzero : '0'.toNat = 48 := rfl
    have hnine : '9'.toNat = 57 := rfl
    refine ⟨rfl, by omega, ?_, ?_⟩
    · rintro rfl
      exact absurd hlow (by decide)
    · rintro rfl
      exact absurd hhigh (by decide)
  · exact absurd h (by simp)

theorem ofDigitChars_lt {cs : List Char} (h : ∀ c ∈ cs, (digit? c).isSome) :
    ofDigitChars 10 cs 0 < 10 ^ cs.length := by
  induction cs with
  | nil => simp
  | cons c cs ih =>
    obtain ⟨d, hd⟩ := Option.isSome_iff_exists.1 (h c List.mem_cons_self)
    obtain ⟨hvalue, hlt, -, -⟩ := digit?_eq_some hd
    have hrest := ih fun c hc => h c (List.mem_cons_of_mem _ hc)
    rw [Nat.ofDigitChars_cons, ofDigitChars_eq, ← hvalue, List.length_cons, pow_succ, Nat.mul_zero,
      Nat.zero_add]
    have := Nat.mul_le_mul_right (10 ^ cs.length) (show d ≤ 9 by omega)
    omega

theorem withoutGaps_digit {c : Char} {d : Nat} (hd : digit? c = some d) (rest : List Char) :
    withoutGaps (c :: rest) = c :: withoutGaps rest :=
  List.filter_cons_of_pos (by simpa using (digit?_eq_some hd).2.2.2)

/-- What is left without underscores is digits, and the first of them is the first there is. -/
theorem findSome?_digit? {cs : List Char} (h : ∀ c ∈ cs, c = '_' ∨ (digit? c).isSome) :
    (∀ c ∈ withoutGaps cs, (digit? c).isSome)
      ∧ cs.findSome? digit? = (withoutGaps cs).head?.bind digit? := by
  induction cs with
  | nil => exact ⟨fun _ h => absurd h List.not_mem_nil, rfl⟩
  | cons c cs ih =>
    obtain ⟨hdigits, hfirst⟩ := ih fun c hc => h c (List.mem_cons_of_mem _ hc)
    rcases h c List.mem_cons_self with rfl | hc
    · have hgap : withoutGaps ('_' :: cs) = withoutGaps cs := rfl
      have hnone : digit? '_' = none := by decide
      rw [hgap, List.findSome?_cons, hnone]
      exact ⟨hdigits, hfirst⟩
    · obtain ⟨d, hd⟩ := Option.isSome_iff_exists.1 hc
      rw [withoutGaps_digit hd, List.findSome?_cons, hd]
      exact ⟨List.forall_mem_cons.2 ⟨hc, hdigits⟩, by simp [hd]⟩

/-! ## Reading without a loss -/

/-- The number can be read without a loss: an amount holds it, or it has no fraction. -/
def Lossless (q : ℚ) : Prop := Held q ∨ ∃ n : ℤ, q = n

/-- If there is no more room after `scale` places, then the digits further on are zeros. -/
theorem dvd_of_lossless {n length : Nat} (scale : Nat) (h : Lossless (n / 10 ^ (scale + length)))
    (hroom : scale = 28 ∨ 0 < length ∧ bound ≤ n / 10 ^ (length - 1)) : 10 ^ length ∣ n := by
  rcases h with h | ⟨m, hm⟩
  · rw [← Int.cast_natCast] at h
    obtain ⟨t, ht, ht28, hdvd, hlt⟩ := exists_places_of_held h
    rw [Int.natAbs_natCast] at hdvd hlt
    by_cases hle : t ≤ scale
    · exact Nat.dvd_trans (Nat.pow_dvd_pow 10 (by omega)) hdvd
    · obtain ⟨hpos, hbound⟩ := hroom.resolve_left (by omega)
      have hpow : 10 ^ (scale + length - t) ≤ 10 ^ (length - 1) :=
        Nat.pow_le_pow_right (by decide) (by omega)
      have := Nat.div_le_div_left (a := n) hpow (Nat.pow_pos (by decide))
      omega
  · have hcast : (n : ℚ) = m * 10 ^ (scale + length) := by
      field_simp at hm
      rw [hm, mul_comm]
    have hint : (n : ℤ) = m * 10 ^ (scale + length) := by exact_mod_cast hcast
    have hdvd : ((10 ^ length : ℕ) : ℤ) ∣ n := by
      rw [hint, pow_add]
      push_cast
      exact ⟨m * 10 ^ scale, by ring⟩
    exact_mod_cast hdvd

namespace Reading

/-- The number that is read if `cs` follows what has been read. -/
def number (r : Reading) (cs : List Char) : ℚ :=
  let digits := withoutGaps cs
  if r.fraction then ofDigitChars 10 digits r.coefficient / 10 ^ (r.scale + digits.length)
  else
    let whole := digits.takeWhile (· ≠ '.')
    let places := (digits.dropWhile (· ≠ '.')).drop 1
    ofDigitChars 10 (whole ++ places) r.coefficient / 10 ^ (r.scale + places.length)

/-- What has been read fits an amount, and has places only behind the point. -/
structure Fits (r : Reading) : Prop where
  coefficient : r.coefficient < bound
  scale : r.scale ≤ maxScale
  whole : r.fraction = false → r.scale = 0

/-- All places that there can be are behind the point. -/
theorem Fits.fraction_of_full {r : Reading} (hr : r.Fits) (hfull : r.scale = maxScale) :
    r.fraction = true := by
  by_contra hf
  have hzero := hr.whole (Bool.not_eq_true _ ▸ hf)
  rw [hzero] at hfull
  exact absurd hfull (by decide)

/-- A digit for which there is room still fits. -/
theorem Fits.digit {r : Reading} (hr : r.Fits) {d : Nat} (hlt : 10 * r.coefficient + d < bound)
    (hplace : r.scale ≠ maxScale) :
    Fits ⟨10 * r.coefficient + d, if r.fraction then r.scale + 1 else 0, r.fraction, true⟩ := by
  have hscale := hr.scale
  refine ⟨hlt, ?_, fun hf => if_neg (by simpa using hf)⟩
  dsimp only
  split
  · omega
  · exact Nat.zero_le _

theorem number_of_fraction {r : Reading} (hf : r.fraction = true) (cs : List Char) :
    r.number cs = ofDigitChars 10 (withoutGaps cs) r.coefficient
      / 10 ^ (r.scale + (withoutGaps cs).length) :=
  if_pos hf

/-- Zeros that are passed over are not missed. -/
theorem close_of_dvd {r : Reading} {cs : List Char} {magnitude scale : Nat}
    (h : r.close cs = some (magnitude, scale)) (hfraction : r.fraction = true)
    (hdvd : 10 ^ (withoutGaps cs).length ∣ ofDigitChars 10 (withoutGaps cs) r.coefficient) :
    (magnitude : ℚ) / 10 ^ scale = r.number cs := by
  unfold close at h
  split at h
  · rename_i hall
    have hall : ∀ c ∈ cs, c = '_' ∨ (digit? c).isSome := by simpa using hall
    obtain ⟨hdigits, hfirst⟩ := findSome?_digit? hall
    rw [hfirst] at h
    rw [number_of_fraction hfraction]
    generalize withoutGaps cs = digits at hdigits hdvd h ⊢
    -- what is passed over is less than one of the last place that was read, so it is nothing
    have hlt := ofDigitChars_lt hdigits
    rw [ofDigitChars_eq, Nat.dvd_add_right (Nat.dvd_mul_left _ _)] at hdvd
    have hzero := Nat.eq_zero_of_dvd_of_lt hdvd hlt
    have hread : magnitude = r.coefficient ∧ scale = r.scale := by
      cases digits with
      | nil =>
        cases h
        exact ⟨rfl, rfl⟩
      | cons c rest =>
        obtain ⟨d, hd⟩ := Option.isSome_iff_exists.1 (hdigits c List.mem_cons_self)
        have hle := le_ofDigitChars rest (10 * 0 + (c.toNat - '0'.toNat))
        rw [← Nat.ofDigitChars_cons, hzero, ← (digit?_eq_some hd).1] at hle
        rw [List.head?_cons, Option.bind_some, hd] at h
        dsimp only at h
        rw [if_pos (by omega)] at h
        cases h
        exact ⟨rfl, rfl⟩
    rw [hread.1, hread.2, ofDigitChars_eq, hzero, pow_add]
    push_cast
    field_simp
    ring
  · exact absurd h (by simp)

theorem number_digit {r : Reading} {c : Char} {d : Nat} (hd : digit? c = some d) (rest : List Char)
    (hwhole : r.fraction = false → r.scale = 0) (started : Bool) :
    r.number (c :: rest) =
      number ⟨10 * r.coefficient + d, if r.fraction then r.scale + 1 else 0, r.fraction, started⟩
        rest := by
  obtain ⟨hvalue, -, hpoint, -⟩ := digit?_eq_some hd
  unfold number
  dsimp only
  rw [withoutGaps_digit hd]
  cases hf : r.fraction with
  | true =>
    simp only [if_true]
    rw [Nat.ofDigitChars_cons, ← hvalue, List.length_cons]
    congr 2
    omega
  | false =>
    simp only [Bool.false_eq_true, if_false]
    rw [List.takeWhile_cons_of_pos (by simpa using hpoint),
      List.dropWhile_cons_of_pos (by simpa using hpoint), List.cons_append,
      Nat.ofDigitChars_cons, ← hvalue, hwhole hf]

theorem number_point {r : Reading} (hf : r.fraction = false) (rest : List Char) :
    r.number ('.' :: rest) = number { r with fraction := true } rest := by
  have hkept : withoutGaps ('.' :: rest) = '.' :: withoutGaps rest := rfl
  unfold number
  dsimp only
  rw [hkept, hf]
  simp

theorem number_gap (r : Reading) (rest : List Char) : r.number ('_' :: rest) = r.number rest := rfl

/-- **Where there is no more room, a number that can be read without a loss has only zeros left.** -/
theorem close_lossless {r : Reading} {cs : List Char} {magnitude scale : Nat}
    (h : r.close cs = some (magnitude, scale)) (hfraction : r.fraction = true)
    (hlossless : Lossless (r.number cs))
    (hroom : r.scale = 28 ∨ 0 < (withoutGaps cs).length
      ∧ bound ≤ ofDigitChars 10 (withoutGaps cs) r.coefficient
        / 10 ^ ((withoutGaps cs).length - 1)) :
    (magnitude : ℚ) / 10 ^ scale = r.number cs := by
  rw [number_of_fraction hfraction] at hlossless
  exact close_of_dvd h hfraction (dvd_of_lossless r.scale hlossless hroom)

/-- A digit for which there is no room makes a number that is too large, whatever follows it. -/
theorem bound_le_of_digit {r : Reading} {c : Char} {d : Nat} (hd : digit? c = some d)
    (hbound : ¬10 * r.coefficient + d < bound) (rest : List Char) :
    0 < (withoutGaps (c :: rest)).length
      ∧ bound ≤ ofDigitChars 10 (withoutGaps (c :: rest)) r.coefficient
        / 10 ^ ((withoutGaps (c :: rest)).length - 1) := by
  rw [withoutGaps_digit hd, List.length_cons, Nat.add_sub_cancel, Nat.ofDigitChars_cons,
    ← (digit?_eq_some hd).1]
  refine ⟨Nat.succ_pos _, ?_⟩
  rw [Nat.le_div_iff_mul_le (Nat.pow_pos (by decide)), ofDigitChars_eq]
  have := Nat.mul_le_mul_right (10 ^ (withoutGaps rest).length) (Nat.not_lt.1 hbound)
  omega

/-- **A number is read without a loss if it can be.** -/
theorem scan_lossless {r : Reading} {cs : List Char} {magnitude scale : Nat} (hr : r.Fits)
    (h : r.scan cs = some (magnitude, scale)) (hlossless : Lossless (r.number cs)) :
    (magnitude : ℚ) / 10 ^ scale = r.number cs := by
  induction cs generalizing r with
  | nil =>
    unfold scan at h
    split at h
    · cases h
      unfold number withoutGaps
      cases r.fraction <;> simp
    · exact absurd h (by simp)
  | cons c rest ih =>
    unfold scan at h
    split at h
    · -- there are no more places
      rename_i hfull
      exact close_lossless h (hr.fraction_of_full hfull) hlossless (.inl hfull)
    · rename_i hplace
      split at h
      · rename_i d hd
        dsimp only at h
        split at h
        · rename_i hlt
          rw [number_digit hd rest hr.whole true] at hlossless ⊢
          exact ih (hr.digit hlt hplace) h hlossless
        · rename_i hbound
          split at h
          · -- there are no more bits
            rename_i hfraction
            exact close_lossless h hfraction hlossless (.inr (bound_le_of_digit hd hbound rest))
          · exact absurd h (by simp)
      · split at h
        · rename_i hpoint
          obtain ⟨rfl, hf⟩ := hpoint
          have hf : r.fraction = false := by simpa using hf
          rw [number_point hf] at hlossless ⊢
          exact ih ⟨hr.coefficient, hr.scale, nofun⟩ h hlossless
        · split at h
          · rename_i hgap
            obtain ⟨rfl, -⟩ := hgap
            rw [number_gap] at hlossless ⊢
            exact ih hr h hlossless
          · exact absurd h (by simp)

theorem isMark_of_digit? {c : Char} {d : Nat} (hd : digit? c = some d) : isMark c = false := by
  unfold isMark
  refine decide_eq_false ?_
  have hlower : digit? 'e' = none := by decide
  have hupper : digit? 'E' = none := by decide
  rintro (rfl | rfl)
  · exact absurd (hlower.symm.trans hd) (by simp)
  · exact absurd (hupper.symm.trans hd) (by simp)

/-- Numbers in plain form have no exponent mark. -/
theorem isMark_of_scan {r : Reading} {cs : List Char} {read : Nat × Nat}
    (h : r.scan cs = some read) : ∀ c ∈ cs, isMark c = false := by
  have hclose : ∀ {r : Reading} {cs : List Char}, r.close cs = some read →
      ∀ c ∈ cs, isMark c = false := by
    intro r cs h c hc
    unfold close at h
    split at h
    · rename_i hall
      rcases of_decide_eq_true (List.all_eq_true.1 hall c hc) with rfl | hdigit
      · rfl
      · obtain ⟨d, hd⟩ := Option.isSome_iff_exists.1 hdigit
        exact isMark_of_digit? hd
    · exact absurd h (by simp)
  induction cs generalizing r with
  | nil => exact fun _ h => absurd h List.not_mem_nil
  | cons c rest ih =>
    unfold scan at h
    split at h
    · exact hclose h
    · split at h
      · rename_i d hd
        dsimp only at h
        split at h
        · exact List.forall_mem_cons.2 ⟨isMark_of_digit? hd, ih h⟩
        · split at h
          · exact hclose h
          · exact absurd h (by simp)
      · split at h
        · rename_i hpoint
          exact List.forall_mem_cons.2 ⟨by rw [hpoint.1]; rfl, ih h⟩
        · split at h
          · rename_i hgap
            exact List.forall_mem_cons.2 ⟨by rw [hgap.1]; rfl, ih h⟩
          · exact absurd h (by simp)

end Reading

/-! ## Signs -/

theorem held_neg {q : ℚ} : Held (-q) ↔ Held q := by
  have hneg : ∀ q, Held q → Held (-q) := by
    rintro _ ⟨d, rfl⟩
    refine ⟨⟨-d.coefficient, d.scale, by rw [Int.natAbs_neg]; exact d.fits, d.scale_le, false,
      Bool.noConfusion⟩, ?_⟩
    unfold value
    push_cast
    ring
  exact ⟨fun h => neg_neg q ▸ hneg (-q) h, hneg q⟩

theorem lossless_neg {q : ℚ} : Lossless (-q) ↔ Lossless q := by
  unfold Lossless
  rw [held_neg]
  refine or_congr_right ⟨?_, ?_⟩
  · rintro ⟨n, hn⟩
    exact ⟨-n, by push_cast; linarith⟩
  · rintro ⟨n, rfl⟩
    exact ⟨-n, by push_cast; rfl⟩

theorem value_of_ofParts? {c : Int} {s : Nat} {d : Decimal} (h : ofParts? c s = some d) :
    d.value = c / 10 ^ s := by
  obtain ⟨hc, hs, -⟩ := ofParts?_eq_some_iff.1 h
  unfold value
  rw [hc, hs]

theorem value_of_signed? {negative : Bool} {magnitude scale : Nat} {d : Decimal}
    (h : signed? negative magnitude scale = some d) :
    d.value = if negative then -((magnitude : ℚ) / 10 ^ scale) else magnitude / 10 ^ scale := by
  rw [value_of_ofParts? h]
  cases negative
  · simp
  · simp [neg_div]

/-- **What is in front of the exponent mark is read without a loss if it can be.** -/
theorem value_of_ofPlain? {cs : List Char} {d : Decimal} (h : ofPlain? cs = some d)
    (hlossless : Lossless (signedNumber cs)) : d.value = signedNumber cs := by
  unfold ofPlain? at h
  unfold signedNumber at hlossless ⊢
  generalize splitSign cs = split at h hlossless ⊢
  obtain ⟨negative, unsigned⟩ := split
  obtain ⟨⟨magnitude, scale⟩, hread, hd⟩ := Option.bind_eq_some_iff.1 h
  have hfits : Reading.empty.Fits := ⟨by decide, by decide, fun _ => rfl⟩
  have hnumber : Reading.empty.number unsigned = unsignedNumber unsigned := by
    unfold Reading.number unsignedNumber Reading.empty
    simp
  have hlossless : Lossless (unsignedNumber unsigned) := by
    cases negative with
    | false => exact hlossless
    | true => exact lossless_neg.1 hlossless
  rw [← hnumber] at hlossless
  have hvalue := Reading.scan_lossless hfits hread hlossless
  rw [value_of_signed? hd, hvalue, hnumber]

theorem isMark_of_ofPlain? {cs : List Char} {d : Decimal} (h : ofPlain? cs = some d) :
    ∀ c ∈ cs, isMark c = false := by
  obtain ⟨read, hread, -⟩ := Option.bind_eq_some_iff.1 h
  have hunsigned := Reading.isMark_of_scan hread
  split at hunsigned
  · exact List.forall_mem_cons.2 ⟨rfl, hunsigned⟩
  · exact List.forall_mem_cons.2 ⟨rfl, hunsigned⟩
  · exact hunsigned

/-! ## Exponents -/

theorem value_mul_pow_of_le (d : Decimal) {n : Nat} (h : n ≤ d.scale) :
    d.value * 10 ^ n = d.coefficient / 10 ^ (d.scale - n) := by
  unfold value
  rw [← pow_sub_mul_pow 10 h]
  field_simp

theorem value_mul_pow_of_ge (d : Decimal) {n : Nat} (h : d.scale ≤ n) :
    d.value * 10 ^ n = (d.coefficient * 10 ^ (n - d.scale) : ℤ) := by
  unfold value
  rw [← pow_sub_mul_pow 10 h]
  push_cast
  field_simp

/-- To the right the point is moved without a loss. -/
theorem value_of_shiftUp? {d moved : Decimal} {n : Nat} (h : d.shiftUp? n = some moved) :
    moved.value = d.value * 10 ^ n := by
  unfold shiftUp? at h
  split at h
  · rename_i hle
    rw [value_of_ofParts? h, d.value_mul_pow_of_le hle]
  · rename_i hlt
    split at h
    · rw [value_of_ofParts? h, d.value_mul_pow_of_ge (Nat.le_of_not_le hlt), pow_zero, div_one,
        Nat.pow_eq]
      push_cast
      rfl
    · exact absurd h (by simp)

/-- An amount with its point moved to the right can be read without a loss. -/
theorem lossless_mul_pow (d : Decimal) (n : Nat) : Lossless (d.value * 10 ^ n) := by
  rcases Nat.le_total n d.scale with hle | hge
  · have hscale : d.scale - n ≤ maxScale := Nat.le_trans (Nat.sub_le _ _) d.scale_le
    rw [d.value_mul_pow_of_le hle]
    exact .inl ⟨⟨d.coefficient, d.scale - n, d.fits, hscale, false, Bool.noConfusion⟩, rfl⟩
  · exact .inr ⟨_, d.value_mul_pow_of_ge hge⟩

theorem value_div_pow (d : Decimal) (n : Nat) :
    d.value / 10 ^ n = d.coefficient / 10 ^ (d.scale + n) := by
  unfold value
  rw [pow_add, div_div]

/-- A coefficient is its magnitude with the sign put back. -/
theorem coefficient_eq (d : Decimal) :
    (d.coefficient : ℚ) =
      if d.isNegative then -(d.coefficient.natAbs : ℚ) else d.coefficient.natAbs := by
  unfold isNegative
  by_cases hneg : d.coefficient < 0
  · rw [if_pos (decide_eq_true hneg), Nat.cast_natAbs, abs_of_neg hneg]
    push_cast
    ring
  · rw [if_neg (by simpa using hneg), Nat.cast_natAbs, abs_of_nonneg (not_lt.1 hneg)]

/-- Zeros are given up without a loss. -/
theorem cut_mul {magnitude k : Nat} (places : Nat) (h : 10 ^ (k + 1) ∣ magnitude) :
    cut magnitude (places + (k + 1)) places * 10 ^ (k + 1) = magnitude := by
  obtain ⟨m, rfl⟩ := h
  unfold cut
  have hk : places + (k + 1) - places - 1 = k := by omega
  have hquot : 10 ^ (k + 1) * m / 10 ^ k = 10 * m := by
    rw [pow_succ, Nat.mul_assoc, Nat.mul_div_cancel_left _ (Nat.pow_pos (by decide))]
  rw [if_neg (by omega), hk, Nat.pow_eq, hquot]
  have hround : (10 * m + 5) / 10 = m := by omega
  rw [hround, Nat.mul_comm]

/-- To the left the point is moved without a loss if amounts can hold what comes of it. -/
theorem value_of_shiftDown? {d moved : Decimal} {n : Nat} (h : d.shiftDown? n = some moved)
    (hheld : Held (d.value / 10 ^ n)) : moved.value = d.value / 10 ^ n := by
  rw [value_div_pow] at hheld ⊢
  unfold shiftDown? at h
  split at h
  · exact absurd h (by simp)
  rename_i hn
  split at h
  · exact value_of_ofParts? h
  rename_i hmore
  -- `k + 1` places are given up, in which there are only zeros
  obtain ⟨k, hk⟩ : ∃ k, d.scale + n = maxScale + (k + 1) := ⟨d.scale + n - maxScale - 1, by omega⟩
  have hscale : d.scale = maxScale - n + (k + 1) := by omega
  have hdvd : 10 ^ (k + 1) ∣ d.coefficient.natAbs := by
    obtain ⟨t, ht, ht28, hdvd, -⟩ := exists_places_of_held hheld
    refine Nat.dvd_trans (Nat.pow_dvd_pow 10 ?_) hdvd
    unfold maxScale at hk
    omega
  have hcut := cut_mul (maxScale - n) hdvd
  rw [← hscale] at hcut
  dsimp only at h
  generalize cut d.coefficient.natAbs d.scale (maxScale - n) = magnitude at h hcut
  have hcast : (d.coefficient.natAbs : ℚ) = magnitude * 10 ^ (k + 1) := by
    rw [← hcut]
    push_cast
    rfl
  rw [hk, pow_add]
  split at h
  · rename_i hzero
    rw [hzero, Nat.zero_mul] at hcut
    have hc : d.coefficient = 0 := Int.natAbs_eq_zero.1 hcut.symm
    cases h
    rw [hc]
    simp [value, vanished]
  · rw [value_of_signed? h, d.coefficient_eq, hcast]
    split
    · field_simp
    · field_simp

/-- The amount is what stands in front of the exponent mark, with the point moved as the exponent
says. -/
def Moved (text : String) (d : Decimal) : Prop :=
  ∃ m, ofPlain? (text.toList.takeWhile (!isMark ·)) = some m
    ∧ ((∃ n : ℕ, exponent text = n ∧ d.value = m.value * 10 ^ n)
      ∨ ∃ n : ℕ, exponent text = -n ∧ m.shiftDown? n = some d)

/-- In plain form there is no mark, and the point stays where it is. -/
theorem moved_of_ofPlain? {text : String} {d : Decimal} (h : ofPlain? text.toList = some d) :
    Moved text d := by
  have hmark := isMark_of_ofPlain? h
  have hall : text.toList.takeWhile (!isMark ·) = text.toList :=
    List.takeWhile_eq_self_iff.2 fun c hc => by simp [hmark c hc]
  have hnone : text.toList.dropWhile (!isMark ·) = [] :=
    List.dropWhile_eq_nil_iff.2 fun c hc => by simp [hmark c hc]
  refine ⟨d, hall.symm ▸ h, .inl ⟨0, ?_, by simp⟩⟩
  unfold exponent
  rw [hnone]
  rfl

theorem moved_of_ofScientific? {text : String} {d : Decimal}
    (h : ofScientific? text.toList = some d) : Moved text d := by
  unfold ofScientific? at h
  have hmarks : (fun c => !(decide (c = 'e' ∨ c = 'E'))) = fun c => !isMark c := rfl
  dsimp only at h
  rw [hmarks] at h
  unfold Moved exponent
  split at h
  · exact absurd h (by simp)
  · rename_i mark digits hrest
    obtain ⟨m, hm, h⟩ := Option.bind_eq_some_iff.1 h
    refine ⟨m, hm, ?_⟩
    rw [hrest]
    split at h
    · obtain ⟨n, hn, h⟩ := Option.bind_eq_some_iff.1 h
      refine .inr ⟨n, ?_, h⟩
      show -(((exponent? _).getD 0 : ℕ) : ℤ) = -n
      rw [hn]
      rfl
    · rename_i hsign
      obtain ⟨n, hn, h⟩ := Option.bind_eq_some_iff.1 h
      refine .inl ⟨n, ?_, value_of_shiftUp? h⟩
      -- `exponent` splits where `ofScientific?` does, and there is no minus sign here
      split
      · rename_i heq
        exact absurd heq (by simp)
      · rename_i heq
        exact absurd (List.cons.inj heq).2 (hsign _)
      · rename_i heq
        rw [← (List.cons.inj heq).2, hn]
        rfl

theorem moved_of_ofText? {text : String} {d : Decimal} (h : ofText? text = some d) :
    Moved text d := by
  unfold ofText? at h
  cases hplain : ofPlain? text.toList with
  | some plain =>
    rw [hplain] at h
    cases h
    exact moved_of_ofPlain? hplain
  | none =>
    rw [hplain] at h
    exact moved_of_ofScientific? h

/--
**An amount is worth what its text denotes exactly if amounts can hold it.**

Amounts have to hold the number, and they have to hold what stands in front of the exponent mark,
as that is read first and the exponent cannot bring back what it has lost.
-/
theorem value_eq_number_iff {text : String} {d : Decimal} (h : ofText? text = some d) :
    d.value = number text ↔ Held (mantissa text) ∧ Held (number text) := by
  obtain ⟨m, hm, hmoved⟩ := moved_of_ofText? h
  have hmantissa : Lossless (mantissa text) → m.value = mantissa text := value_of_ofPlain? hm
  unfold number
  rcases hmoved with ⟨n, hn, hvalue⟩ | ⟨n, hn, hdown⟩
  · rw [hn, hvalue, zpow_natCast]
    constructor
    · intro heq
      have heq := mul_right_cancel₀ (by positivity) heq
      exact ⟨⟨m, heq⟩, d, by rw [hvalue, heq]⟩
    · rintro ⟨hheld, -⟩
      rw [hmantissa (.inl hheld)]
  · rw [hn, zpow_neg, zpow_natCast, ← div_eq_mul_inv]
    constructor
    · intro heq
      -- the number in front of the mark is the amount with the point moved back
      have hback : mantissa text = d.value * 10 ^ n := ((eq_div_iff (by positivity)).1 heq).symm
      exact ⟨⟨m, hmantissa (hback ▸ d.lossless_mul_pow n)⟩, d, heq⟩
    · rintro ⟨hheld, hnumber⟩
      have hread := hmantissa (.inl hheld)
      rw [← hread] at hnumber ⊢
      exact value_of_shiftDown? hdown hnumber

/-- The last digit is lost. -/
example : ofText? "1.00000000000000000000000000001" = ofParts? (10 ^ 28) 28 := by decide

end Treasury.Decimal
