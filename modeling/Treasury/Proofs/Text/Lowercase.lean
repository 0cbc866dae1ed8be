import Treasury.Text.Lowercase

/-!
# Lower case and the letters from A to Z

Texts that differ only in the case of the letters from A to Z have one lower-case form, though
lower case is more than that: whether a sigma ends a word does not depend on the case of the letters
around it.
-/

namespace Treasury.Text

/-- The letters from A to Z, and the rest. -/
theorem lowerAscii_cases (c : Char) :
    lowerAscii c = c ∨ ∃ n < 26, c = Char.ofNat (65 + n) ∧ lowerAscii c = Char.ofNat (97 + n) := by
  unfold lowerAscii
  split
  · rename_i h
    right
    have hlow : 65 ≤ c.toNat := h.1
    have hhigh : c.toNat ≤ 90 := h.2
    refine ⟨c.toNat - 65, by omega, ?_, ?_⟩
    · rw [show 65 + (c.toNat - 65) = c.toNat by omega, Char.ofNat_toNat]
    · rw [show 97 + (c.toNat - 65) = c.toNat + 32 by omega]
  · exact .inl rfl

/-- What the tables say of a letter from A to Z, they say of its small form. -/
theorem tables_ascii : ∀ n < 26,
    isCased (Char.ofNat (97 + n)) = isCased (Char.ofNat (65 + n))
      ∧ isCaseIgnorable (Char.ofNat (97 + n)) = isCaseIgnorable (Char.ofNat (65 + n))
      ∧ lowerChar (Char.ofNat (97 + n)) = lowerChar (Char.ofNat (65 + n))
      ∧ Char.ofNat (65 + n) ≠ capitalSigma ∧ Char.ofNat (65 + n) ≠ dottedI
      ∧ Char.ofNat (97 + n) ≠ capitalSigma ∧ Char.ofNat (97 + n) ≠ dottedI := by
  decide +kernel

theorem isCased_lowerAscii (c : Char) : isCased (lowerAscii c) = isCased c := by
  rcases lowerAscii_cases c with h | ⟨n, hn, hc, h⟩
  · rw [h]
  · rw [h, hc, (tables_ascii n hn).1]

theorem isCaseIgnorable_lowerAscii (c : Char) :
    isCaseIgnorable (lowerAscii c) = isCaseIgnorable c := by
  rcases lowerAscii_cases c with h | ⟨n, hn, hc, h⟩
  · rw [h]
  · rw [h, hc, (tables_ascii n hn).2.1]

theorem startsWithLetter_lowerAscii (cs : List Char) :
    startsWithLetter (cs.map lowerAscii) = startsWithLetter cs := by
  unfold startsWithLetter
  rw [List.dropWhile_map]
  have hignorable : isCaseIgnorable ∘ lowerAscii = isCaseIgnorable :=
    funext isCaseIgnorable_lowerAscii
  rw [hignorable]
  cases cs.dropWhile isCaseIgnorable with
  | nil => rfl
  | cons c rest => exact isCased_lowerAscii c

theorem lowerBetween_lowerAscii (before : List Char) (c : Char) (after : List Char) :
    lowerBetween (before.map lowerAscii) (lowerAscii c) (after.map lowerAscii) =
      lowerBetween before c after := by
  rcases lowerAscii_cases c with h | ⟨n, hn, hc, h⟩
  · unfold lowerBetween
    rw [h, startsWithLetter_lowerAscii, startsWithLetter_lowerAscii]
  · obtain ⟨_, _, hlower, hs, hi, hs', hi'⟩ := tables_ascii n hn
    unfold lowerBetween
    rw [h, hc, if_neg hs', if_neg hi', if_neg hs, if_neg hi, hlower]

theorem lowerAfter_lowerAscii (before cs : List Char) :
    lowerAfter (before.map lowerAscii) (cs.map lowerAscii) = lowerAfter before cs := by
  induction cs generalizing before with
  | nil => rfl
  | cons c rest ih =>
    rw [List.map_cons, lowerAfter, lowerAfter, lowerBetween_lowerAscii, ← List.map_cons, ih]

/-- **Names that differ only in the case of the letters from A to Z are one name.** -/
theorem toLower_eq_of_equalIgnoringAsciiCase {a b : String}
    (h : equalIgnoringAsciiCase a b = true) : toLower a = toLower b := by
  have hmap : a.toList.map lowerAscii = b.toList.map lowerAscii := of_decide_eq_true h
  unfold toLower
  rw [← lowerAfter_lowerAscii [] a.toList, hmap, lowerAfter_lowerAscii]

end Treasury.Text
