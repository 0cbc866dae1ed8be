import Treasury.Json.Value
import Treasury.Proofs.Binary64
import Treasury.Proofs.Decimal.Number

/-!
# Numbers with a fraction or an exponent, as they are written

A binary number is written by its shortest digits, in one of three forms: zeros and one place behind
the digits, a point among them, or one digit in front of the point and an exponent. Each form
denotes the digits times their power of ten (`writes_realMagnitudeText`), so the text says which
number it is (`realText_injective`). None of them can be taken for a whole number.
-/

namespace Treasury.Json

open Nat (toDigits ofDigitChars)

/-! ## Forms -/

/-- Places behind a point; without places there is no point. -/
def pointed : List Char → List Char
  | [] => []
  | places => '.' :: places

/-- An exponent behind its mark; one that is not below zero has a sign, too. -/
def marked : Option ℤ → List Char
  | none => []
  | some e => 'e' :: ((if 0 ≤ e then ['+'] else []) ++ (toString e).toList)

/-- The parts of a number. -/
structure Numeral where
  whole : List Char
  places : List Char
  exponent : Option ℤ

namespace Numeral

/-- The number in front of the exponent. -/
def mantissa (n : Numeral) : List Char := n.whole ++ pointed n.places

/-- The number as it is written. -/
def chars (n : Numeral) : List Char := n.mantissa ++ marked n.exponent

/-- What the number denotes. -/
def value (n : Numeral) : ℚ :=
  ofDigitChars 10 (n.whole ++ n.places) 0 / 10 ^ n.places.length * 10 ^ (n.exponent.getD 0)

/-- The parts are digits, and there is a point or an exponent. -/
structure WellFormed (n : Numeral) : Prop where
  digits : ∀ c ∈ n.whole ++ n.places, IsDigit c
  whole_ne_nil : n.whole ≠ []
  fractional : n.places ≠ [] ∨ n.exponent.isSome

end Numeral

theorem pointed_of_ne_nil {places : List Char} (h : places ≠ []) :
    pointed places = '.' :: places := by
  cases places with
  | nil => exact absurd rfl h
  | cons c rest => rfl

theorem ofDigitChars_append_zeros (cs : List Char) (n : ℕ) :
    ofDigitChars 10 (cs ++ List.replicate n '0') 0 = ofDigitChars 10 cs 0 * 10 ^ n := by
  rw [Nat.ofDigitChars_append, Nat.ofDigitChars_replicate_zero, mul_comm]

/-- The characters are a number that denotes `digits * 10 ^ power`. -/
def Writes (digits : ℕ) (power : ℤ) (cs : List Char) : Prop :=
  ∃ n : Numeral, n.WellFormed ∧ cs = n.chars ∧ n.value = digits * 10 ^ power

section

variable {digits : ℕ} {power : ℤ}

theorem isDigit_zero : IsDigit '0' := ⟨0, by decide, rfl⟩

theorem writes_zero (power : ℤ) : Writes 0 power ['0', '.', '0'] := by
  refine ⟨⟨['0'], ['0'], none⟩, ⟨by simpa using isDigit_zero, by simp, .inl (by simp)⟩, rfl, ?_⟩
  simp [Numeral.value, ofDigitChars]

/-- Zeros behind the digits. -/
theorem writes_whole (hpower : 0 ≤ power) :
    Writes digits power
      (toDigits 10 digits ++ List.replicate power.toNat '0' ++ ['.', '0']) := by
  refine ⟨⟨toDigits 10 digits ++ List.replicate power.toNat '0', ['0'], none⟩,
    ⟨?_, ?_, .inl (by simp)⟩, ?_, ?_⟩
  · intro c hc
    simp only [List.append_assoc, List.mem_append, List.mem_replicate, List.mem_singleton] at hc
    rcases hc with hc | ⟨-, rfl⟩ | rfl
    · exact isDigit_of_mem_toDigits c hc
    · exact isDigit_zero
    · exact isDigit_zero
  · simp [Nat.toDigits_ne_nil]
  · simp [Numeral.chars, Numeral.mantissa, pointed, marked]
  · have hone : ['0'] = List.replicate 1 '0' := rfl
    have hzpow : (10 : ℚ) ^ power = 10 ^ power.toNat := by
      rw [← zpow_natCast, Int.toNat_of_nonneg hpower]
    unfold Numeral.value
    dsimp only
    rw [hone, ofDigitChars_append_zeros, ofDigitChars_append_zeros, Nat.ofDigitChars_ten_toDigits,
      hzpow]
    push_cast
    simp

/-- A point among the digits. -/
theorem writes_point (hpower : power < 0) :
    Writes digits power (Decimal.magnitudeText digits (-power).toNat).toList := by
  have hscale : 0 < (-power).toNat := by omega
  have hzpow : (10 : ℚ) ^ power = (10 ^ (-power).toNat)⁻¹ := by
    rw [← zpow_natCast, ← zpow_neg, Int.toNat_of_nonneg (by omega), neg_neg]
  rw [Decimal.toList_magnitudeText, if_neg (Nat.ne_of_gt hscale)]
  unfold Writes
  rw [hzpow]
  dsimp only
  have hlt := Decimal.lt_length_paddedDigits digits (-power).toNat
  have hvalue := Decimal.ofDigitChars_paddedDigits digits (-power).toNat
  have hdigits := @Decimal.isDigit_of_mem_paddedDigits digits (-power).toNat
  generalize Decimal.paddedDigits digits (-power).toNat = padded at hlt hvalue hdigits ⊢
  generalize (-power).toNat = scale at hscale hlt ⊢
  have hlength : (padded.drop (padded.length - scale)).length = scale := by
    rw [List.length_drop]
    omega
  have hplaces : padded.drop (padded.length - scale) ≠ [] := by
    rwa [← List.length_pos_iff_ne_nil, hlength]
  refine ⟨⟨padded.take (padded.length - scale), padded.drop (padded.length - scale), none⟩,
    ⟨?_, ?_, .inl hplaces⟩, ?_, ?_⟩
  · rw [List.take_append_drop]
    exact hdigits
  · rw [← List.length_pos_iff_ne_nil, List.length_take]
    omega
  · simp [Numeral.chars, Numeral.mantissa, pointed_of_ne_nil hplaces, marked]
  · unfold Numeral.value
    dsimp only
    rw [List.take_append_drop, hvalue, hlength]
    simp [div_eq_mul_inv]

/-- One digit in front of the point, and an exponent. -/
theorem writes_scientific {first : Char} {rest : List Char}
    (hdigits : toDigits 10 digits = first :: rest) :
    Writes digits power (first :: pointed rest ++ marked (some (power + rest.length))) := by
  refine ⟨⟨[first], rest, some (power + rest.length)⟩, ⟨?_, by simp, .inr rfl⟩, rfl, ?_⟩
  · rw [List.singleton_append, ← hdigits]
    exact isDigit_of_mem_toDigits
  · unfold Numeral.value
    dsimp only
    rw [List.singleton_append, ← hdigits, Nat.ofDigitChars_ten_toDigits, Option.getD_some,
      zpow_add₀ (by norm_num), zpow_natCast]
    field_simp

/-- **The text of a magnitude denotes it.** -/
theorem writes_realMagnitudeText (digits : ℕ) (power : ℤ) :
    Writes digits power (realMagnitudeText digits power).toList := by
  obtain ⟨first, rest, hdigits⟩ : ∃ first rest, toDigits 10 digits = first :: rest :=
    List.exists_cons_of_ne_nil Nat.toDigits_ne_nil
  have hlength : ((toDigits 10 digits).length : ℤ) + power = power + rest.length + 1 := by
    rw [hdigits, List.length_cons]
    push_cast
    ring
  unfold realMagnitudeText
  dsimp only
  rw [toList_toString]
  split
  · rename_i hzero
    rw [hzero]
    exact writes_zero power
  · split
    · rename_i hwhole
      rw [String.toList_ofList]
      exact writes_whole hwhole.1
    · split
      · rename_i hpoint
        exact writes_point hpoint.1
      · have hmark : (1 ≤ power + rest.length + 1) = (0 ≤ power + rest.length) :=
          propext ⟨fun h => by omega, fun h => by omega⟩
        have htext : first :: pointed rest ++ marked (some (power + rest.length)) =
            (String.ofList (first :: pointed rest)
              ++ (if 1 ≤ power + rest.length + 1 then "e+" else "e")
              ++ toString (power + rest.length + 1 - 1)).toList := by
          rw [add_sub_cancel_right]
          simp only [hmark, marked, String.toList_append, String.toList_ofList]
          split <;> simp
        have hscientific : Writes digits power
            (first :: pointed rest ++ marked (some (power + rest.length))) :=
          writes_scientific hdigits
        rw [htext] at hscientific
        rw [hlength, hdigits]
        -- without places there is no point
        cases rest <;> exact hscientific

end

/-! ## What they denote -/

theorem toList_toString_int (e : ℤ) :
    (toString e).toList = (if e < 0 then ['-'] else []) ++ toDigits 10 e.natAbs := by
  rcases e with k | k
  · have hle : ¬Int.ofNat k < 0 := Int.not_lt.2 (Int.natCast_nonneg k)
    rw [if_neg hle]
    exact toList_toString k
  · rw [if_pos (Int.negSucc_lt_zero k), ← toList_toString]
    exact String.toList_append

theorem minus_or_isDigit_of_mem {e : ℤ} {c : Char} (hc : c ∈ (toString e).toList) :
    c = '-' ∨ IsDigit c := by
  rw [toList_toString_int] at hc
  rcases List.mem_append.mp hc with hc | hc
  · split at hc
    · exact .inl (List.mem_singleton.mp hc)
    · exact absurd hc List.not_mem_nil
  · exact .inr (isDigit_of_mem_toDigits c hc)

theorem ne_of_isDigit {c d : Char} (h : IsDigit c) (hd : ∀ n < 10, Nat.digitChar n ≠ d) :
    c ≠ d := by
  obtain ⟨n, hn, rfl⟩ := h
  exact hd n hn

namespace Numeral

variable {n : Numeral}

theorem WellFormed.whole (h : n.WellFormed) : ∀ c ∈ n.whole, IsDigit c :=
  fun c hc => h.digits c (List.mem_append_left _ hc)

theorem WellFormed.places (h : n.WellFormed) : ∀ c ∈ n.places, IsDigit c :=
  fun c hc => h.digits c (List.mem_append_right _ hc)

theorem isDigit_or_point_of_mem_mantissa (h : n.WellFormed) :
    ∀ c ∈ n.mantissa, IsDigit c ∨ c = '.' := by
  intro c hc
  rcases List.mem_append.mp hc with hc | hc
  · exact .inl (h.whole c hc)
  · cases hplaces : n.places with
    | nil =>
      rw [hplaces] at hc
      exact absurd hc List.not_mem_nil
    | cons d rest =>
      rw [hplaces] at hc
      rcases List.mem_cons.mp hc with rfl | hc
      · exact .inr rfl
      · exact .inl (h.places c (hplaces ▸ hc))

/-- A number starts with a digit. -/
theorem exists_mantissa_eq_cons (h : n.WellFormed) :
    ∃ first rest, IsDigit first ∧ n.mantissa = first :: rest := by
  obtain ⟨first, rest, hcons⟩ := List.exists_cons_of_ne_nil h.whole_ne_nil
  refine ⟨first, rest ++ pointed n.places, h.whole first (hcons ▸ List.mem_cons_self), ?_⟩
  unfold mantissa
  rw [hcons, List.cons_append]

theorem unsignedNumber_mantissa (h : n.WellFormed) :
    Decimal.unsignedNumber n.mantissa =
      ofDigitChars 10 (n.whole ++ n.places) 0 / 10 ^ n.places.length := by
  have hgaps : Decimal.withoutGaps n.mantissa = n.mantissa := by
    refine List.filter_eq_self.2 fun c hc => decide_eq_true ?_
    rcases isDigit_or_point_of_mem_mantissa h c hc with hdigit | rfl
    · exact ne_of_isDigit hdigit (by decide)
    · decide
  have hwhole : ∀ c ∈ n.whole, decide (c ≠ '.') = true :=
    fun c hc => decide_eq_true (ne_of_isDigit (h.whole c hc) (by decide))
  unfold Decimal.unsignedNumber
  rw [hgaps]
  unfold mantissa
  dsimp only
  rw [List.takeWhile_append_of_pos hwhole, List.dropWhile_append_of_pos hwhole]
  cases n.places <;> simp [pointed]

theorem isMark_of_mem_mantissa (h : n.WellFormed) :
    ∀ c ∈ n.mantissa, (!Decimal.isMark c) = true := by
  intro c hc
  unfold Decimal.isMark
  rw [Bool.not_eq_true', decide_eq_false_iff_not]
  rcases isDigit_or_point_of_mem_mantissa h c hc with hdigit | rfl
  · exact not_or.2 ⟨ne_of_isDigit hdigit (by decide), ne_of_isDigit hdigit (by decide)⟩
  · decide

theorem natural?_toDigits (k : ℕ) : Decimal.natural? (toDigits 10 k) = some k := by
  unfold Decimal.natural?
  rw [if_neg (by simp)]
  refine foldlM_toDigits (Nat.lt_succ_self k) fun m c hc _ => ?_
  rw [hc.digit?]
  rfl

theorem exponent?_toDigits (k : ℕ) : Decimal.exponent? (toDigits 10 k) = some k := by
  unfold Decimal.exponent?
  split
  · rename_i rest hplus
    have hdigit : IsDigit '+' := isDigit_of_mem_toDigits (n := k) _ (hplus ▸ List.mem_cons_self)
    exact absurd rfl (ne_of_isDigit hdigit (by decide))
  · exact natural?_toDigits k

/-- The exponent is read behind its mark. -/
theorem exponent_marked {cs : List Char} (hcs : ∀ c ∈ cs, (!Decimal.isMark c) = true)
    (e : Option ℤ) : Decimal.exponent (String.ofList (cs ++ marked e)) = e.getD 0 := by
  unfold Decimal.exponent
  rw [String.toList_ofList, List.dropWhile_append_of_pos hcs]
  cases e with
  | none => rfl
  | some e =>
    rw [marked, toList_toString_int, List.dropWhile_cons_of_neg (by decide)]
    rcases lt_or_ge e 0 with hneg | hpos
    · have hread := congrArg (fun read => -((Option.getD read 0 : ℕ) : ℤ))
        (exponent?_toDigits e.natAbs)
      rw [if_neg (by omega), if_pos hneg]
      refine hread.trans ?_
      simp only [Option.getD_some]
      omega
    · have hread := congrArg (fun read => ((Option.getD read 0 : ℕ) : ℤ))
        (natural?_toDigits e.natAbs)
      rw [if_pos hpos, if_neg (by omega)]
      refine hread.trans ?_
      simp only [Option.getD_some]
      omega

/-- What the text of a number denotes, with the sign that may stand in front. -/
theorem number_chars (h : n.WellFormed) (negative : Bool) :
    Decimal.number (String.ofList ((if negative then ['-'] else []) ++ n.chars)) =
      if negative then -n.value else n.value := by
  obtain ⟨first, rest, hfirst, hcons⟩ := exists_mantissa_eq_cons h
  have hunmarked : ∀ c ∈ (if negative then ['-'] else []) ++ n.mantissa,
      (!Decimal.isMark c) = true := by
    intro c hc
    rcases List.mem_append.mp hc with hc | hc
    · cases negative with
      | false => exact absurd hc List.not_mem_nil
      | true =>
        rw [List.mem_singleton.mp hc]
        decide
    · exact isMark_of_mem_mantissa h c hc
  have hmantissa : Decimal.mantissa
      (String.ofList ((if negative then ['-'] else []) ++ n.mantissa ++ marked n.exponent)) =
        Decimal.signedNumber ((if negative then ['-'] else []) ++ n.mantissa) := by
    unfold Decimal.mantissa
    rw [String.toList_ofList, List.takeWhile_append_of_pos hunmarked]
    cases n.exponent with
    | none => rw [marked, List.takeWhile_nil, List.append_nil]
    | some e => rw [marked, List.takeWhile_cons_of_neg (by decide), List.append_nil]
  have hsigned : Decimal.signedNumber ((if negative then ['-'] else []) ++ n.mantissa) =
      if negative then -Decimal.unsignedNumber n.mantissa
        else Decimal.unsignedNumber n.mantissa := by
    have hminus : first ≠ '-' := ne_of_isDigit hfirst (by decide)
    have hplus : first ≠ '+' := ne_of_isDigit hfirst (by decide)
    unfold Decimal.signedNumber
    rw [hcons]
    cases negative with
    | true => rfl
    | false =>
      have hsplit : Decimal.splitSign (first :: rest) = (false, first :: rest) := by
        unfold Decimal.splitSign
        split
        · rename_i h
          exact absurd (List.cons.inj h).1 hminus
        · rename_i h
          exact absurd (List.cons.inj h).1 hplus
        · rfl
      exact congrArg (fun r : Bool × List Char =>
        if r.1 then -Decimal.unsignedNumber r.2 else Decimal.unsignedNumber r.2) hsplit
  unfold Decimal.number chars
  rw [← List.append_assoc, hmantissa, hsigned, exponent_marked hunmarked, unsignedNumber_mantissa h]
  unfold value
  cases negative with
  | false => rfl
  | true => exact neg_mul _ _

/-- The characters that numbers are written with. -/
def isPart (c : Char) : Bool := (Decimal.digit? c).isSome || ['-', '+', '.', 'e'].contains c

theorem isPart_of_isDigit {c : Char} (h : IsDigit c) : isPart c = true := by
  unfold isPart
  rw [h.digit?]
  rfl

theorem isPart_toString (e : ℤ) : ∀ c ∈ (toString e).toList, isPart c = true := by
  intro c hc
  rcases minus_or_isDigit_of_mem hc with rfl | hdigit
  · decide
  · exact isPart_of_isDigit hdigit

theorem isPart_chars (h : n.WellFormed) : ∀ c ∈ n.chars, isPart c = true := by
  intro c hc
  rcases List.mem_append.mp hc with hc | hc
  · rcases isDigit_or_point_of_mem_mantissa h c hc with hdigit | rfl
    · exact isPart_of_isDigit hdigit
    · decide
  · cases hexponent : n.exponent with
    | none =>
      rw [hexponent] at hc
      exact absurd hc List.not_mem_nil
    | some e =>
      rw [hexponent] at hc
      rcases List.mem_cons.mp hc with rfl | hc
      · decide
      · rcases List.mem_append.mp hc with hc | hc
        · split at hc
          · rw [List.mem_singleton.mp hc]
            decide
          · exact absurd hc List.not_mem_nil
        · exact isPart_toString e c hc

/-- No whole number is written so. -/
theorem exists_mem_chars (h : n.WellFormed) : '.' ∈ n.chars ∨ 'e' ∈ n.chars := by
  rcases h.fractional with hplaces | hexponent
  · refine .inl (List.mem_append_left _ (List.mem_append_right _ ?_))
    rw [pointed_of_ne_nil hplaces]
    exact List.mem_cons_self
  · obtain ⟨e, he⟩ := Option.isSome_iff_exists.1 hexponent
    refine .inr (List.mem_append_right _ ?_)
    rw [he]
    exact List.mem_cons_self

end Numeral

/-! ## Binary numbers -/

/-- A binary number is written by the digits that name it. -/
theorem toList_realText (x : Binary64) :
    ∃ n : Numeral, n.WellFormed ∧ n.value = x.shortestValue
      ∧ (realText x).toList = (if x.negative then ['-'] else []) ++ n.chars := by
  obtain ⟨n, hn, htext, hvalue⟩ := writes_realMagnitudeText x.shortest.1 x.shortest.2
  refine ⟨n, hn, hvalue, ?_⟩
  rw [← htext]
  unfold realText
  dsimp only
  split
  · exact String.toList_append
  · rfl

/-- **The text of a binary number denotes what its shortest digits make.** -/
theorem number_realText (x : Binary64) :
    Decimal.number (realText x) = if x.negative then -x.shortestValue else x.shortestValue := by
  obtain ⟨n, hn, hvalue, htext⟩ := toList_realText x
  rw [← String.ofList_toList (s := realText x), htext, Numeral.number_chars hn, hvalue]

/-- The sign is seen, also that of zero. -/
theorem negative_iff_head? (x : Binary64) :
    x.negative = true ↔ (realText x).toList.head? = some '-' := by
  obtain ⟨n, hn, -, htext⟩ := toList_realText x
  rw [htext]
  cases x.negative with
  | true => exact iff_of_true rfl rfl
  | false =>
    obtain ⟨first, rest, hfirst, hcons⟩ := Numeral.exists_mantissa_eq_cons hn
    have hhead : (([] : List Char) ++ n.chars).head? = some first := by
      unfold Numeral.chars
      rw [hcons]
      rfl
    refine iff_of_false Bool.false_ne_true fun h => ?_
    exact ne_of_isDigit hfirst (by decide) (Option.some.inj (hhead.symm.trans h))

/-- **Numbers that are written in the same way are one.** -/
theorem realText_injective {x y : Binary64} (hx : x.Canonical) (hy : y.Canonical)
    (h : realText x = realText y) : x = y := by
  have hsign : x.negative = y.negative := by
    rw [Bool.eq_iff_iff, negative_iff_head?, negative_iff_head?, h]
  have hnumber := congrArg Decimal.number h
  rw [number_realText, number_realText, hsign] at hnumber
  refine Binary64.eq_of_shortestValue hx hy hsign ?_
  split at hnumber
  · exact neg_injective hnumber
  · exact hnumber

end Treasury.Json
