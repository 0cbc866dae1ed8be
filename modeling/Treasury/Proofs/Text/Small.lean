import Treasury.Text.Lowercase

/-!
# Lower case of lower case

The lower-case form of a text is its own lower-case form (`toLower_toLower`), so a name that is
kept in lower case is found again under whatever is kept. Two things could get in the way: that the
counterpart of a letter is a letter with a counterpart, and that the two letters with rules of
their own come back. The first is a fact about the table, run against run (`isSettled_caseRuns`);
what it says of a single letter is `isSmall_lowerChar`.
-/

namespace Treasury.Text

/-! ## The table -/

namespace CaseRun

/-- The lower-case counterpart of a code point of the run. -/
def lower (run : CaseRun) (n : Nat) : Nat := ((n : Int) + run.offset).toNat

/-- True if `other` has none of the code points from `first` to `last` that are a multiple of `step`
away from `first`: it lies aside, or has those in between. -/
def avoids (other : CaseRun) (first last step : Nat) : Bool :=
  Nat.blt other.last first || Nat.blt last other.first
    || (other.step == 2 && step % 2 == 0 && (first + other.first) % 2 == 1)

/-- The dotted capital I as a run of its own; it has no counterpart of one character. -/
def dotted : CaseRun := ⟨dottedI.toNat, dottedI.toNat, 1, 0⟩

/-- True if the letters of the run become characters, and none of these is a letter with another
counterpart. -/
def isSettled (run : CaseRun) : Bool :=
  -- the letters of a run of one are no step apart
  let step := if run.first = run.last then 0 else run.step
  decide (0 ≤ run.first + run.offset)
    && (Nat.blt (run.lower run.last) 0xD800
      || (Nat.blt 0xDFFF (run.lower run.first) && Nat.blt (run.lower run.last) 0x110000))
    && (dotted :: caseRuns).all (·.avoids (run.lower run.first) (run.lower run.last) step)

theorem contains_iff {run : CaseRun} {n : Nat} :
    run.contains n = true ↔ run.first ≤ n ∧ n ≤ run.last ∧ (n - run.first) % run.step = 0 := by
  unfold contains
  rw [decide_eq_true_eq]

/-- The counterpart of a letter is as far from that of the first as the letter from the first. -/
theorem lower_eq {run : CaseRun} {n : Nat} (h : run.contains n = true)
    (hlow : 0 ≤ run.first + run.offset) :
    run.lower n = run.lower run.first + (n - run.first) ∧ run.lower n ≤ run.lower run.last := by
  obtain ⟨hfirst, hlast, -⟩ := contains_iff.1 h
  unfold lower
  omega

/-- **A run that avoids the counterparts of another has none of them.** -/
theorem not_contains_of_avoids {run other : CaseRun} {n : Nat} (h : run.contains n = true)
    (hlow : 0 ≤ run.first + run.offset)
    (havoids : other.avoids (run.lower run.first) (run.lower run.last)
      (if run.first = run.last then 0 else run.step) = true) :
    other.contains (run.lower n) = false := by
  obtain ⟨hfirst, hlast, hstep⟩ := contains_iff.1 h
  obtain ⟨hlower, hle⟩ := lower_eq h hlow
  rw [Bool.eq_false_iff]
  intro hother
  obtain ⟨hfirst', hlast', hstep'⟩ := contains_iff.1 hother
  unfold avoids at havoids
  simp only [Bool.or_eq_true, Bool.and_eq_true, Nat.blt_eq, beq_iff_eq] at havoids
  rcases havoids with (haside | haside) | ⟨⟨htwo, heven⟩, hodd⟩
  · omega
  · omega
  · rw [htwo] at hstep'
    have hparity : (n - run.first) % 2 = 0 := by
      split at heven
      · omega
      · exact Nat.mod_eq_zero_of_dvd
          (Nat.dvd_trans (Nat.dvd_of_mod_eq_zero heven) (Nat.dvd_of_mod_eq_zero hstep))
    omega

end CaseRun

/-- **No letter becomes a letter with a counterpart of its own.** -/
theorem isSettled_caseRuns : caseRuns.all CaseRun.isSettled = true := by
  decide +kernel

/-! ## Letters -/

/-- A character that lower case leaves as it is, wherever it stands. -/
structure IsSmall (c : Char) : Prop where
  ne_sigma : c ≠ capitalSigma
  ne_dottedI : c ≠ dottedI
  lower : lowerChar c = c

instance (c : Char) : Decidable (IsSmall c) :=
  decidable_of_iff (c ≠ capitalSigma ∧ c ≠ dottedI ∧ lowerChar c = c)
    ⟨fun h => ⟨h.1, h.2.1, h.2.2⟩, fun h => ⟨h.1, h.2, h.3⟩⟩

/-- A character that no run has is small. -/
theorem isSmall_of_not_contains {c : Char}
    (h : ∀ run ∈ CaseRun.dotted :: caseRuns, run.contains c.toNat = false) : IsSmall c where
  ne_sigma := by
    rintro rfl
    have hsigma : caseRuns.any (·.contains capitalSigma.toNat) = true := by decide +kernel
    obtain ⟨run, hrun, hc⟩ := List.any_eq_true.1 hsigma
    exact absurd ((h run (List.mem_cons_of_mem _ hrun)).symm.trans hc) (by simp)
  ne_dottedI := by
    rintro rfl
    exact absurd (h .dotted List.mem_cons_self) (by decide)
  lower := by
    have hnone : caseRuns.find? (·.contains c.toNat) = none :=
      List.find?_eq_none.2 fun run hrun hc =>
        absurd ((h run (List.mem_cons_of_mem _ hrun)).symm.trans hc) (by simp)
    unfold lowerChar
    rw [hnone]

/-- **What the table makes of a letter is small.** -/
theorem isSmall_lowerChar {c : Char} (hs : c ≠ capitalSigma) (hi : c ≠ dottedI) :
    IsSmall (lowerChar c) := by
  cases hfind : caseRuns.find? (·.contains c.toNat) with
  | none =>
    have hsame : lowerChar c = c := by
      unfold lowerChar
      rw [hfind]
    rw [hsame]
    exact ⟨hs, hi, hsame⟩
  | some run =>
    have hcontains : run.contains c.toNat = true := by simpa using List.find?_some hfind
    have hsettled := List.all_eq_true.1 isSettled_caseRuns run (List.mem_of_find?_eq_some hfind)
    unfold CaseRun.isSettled at hsettled
    simp only [Bool.and_eq_true, Bool.or_eq_true, Nat.blt_eq, decide_eq_true_eq,
      List.all_eq_true] at hsettled
    obtain ⟨⟨hlow, hvalid⟩, havoids⟩ := hsettled
    have hlower : lowerChar c = Char.ofNat (run.lower c.toNat) := by
      unfold lowerChar
      rw [hfind]
      rfl
    have hcode : (lowerChar c).toNat = run.lower c.toNat := by
      obtain ⟨hfrom, hto⟩ := CaseRun.lower_eq hcontains hlow
      have hchar : (run.lower c.toNat).isValidChar := by
        unfold Nat.isValidChar
        omega
      rw [hlower, Char.ofNat, dif_pos hchar]
      rfl
    refine isSmall_of_not_contains fun other hother => ?_
    rw [hcode]
    exact CaseRun.not_contains_of_avoids hcontains hlow (havoids other hother)

/-! ## Texts -/

theorem isSmall_of_mem_lowerBetween {before after : List Char} {c small : Char}
    (h : small ∈ lowerBetween before c after) : IsSmall small := by
  unfold lowerBetween at h
  split at h
  · rw [List.mem_singleton] at h
    split at h
    · rw [h]
      decide
    · rw [h]
      decide
  · rename_i hs
    split at h
    · rcases List.mem_cons.1 h with rfl | h
      · decide
      · rw [List.mem_singleton.1 h]
        decide
    · rename_i hi
      rw [List.mem_singleton.1 h]
      exact isSmall_lowerChar hs hi

theorem isSmall_of_mem_lowerAfter {before cs : List Char} {small : Char}
    (h : small ∈ lowerAfter before cs) : IsSmall small := by
  induction cs generalizing before with
  | nil => exact absurd h List.not_mem_nil
  | cons c rest ih =>
    rw [lowerAfter] at h
    rcases List.mem_append.1 h with h | h
    · exact isSmall_of_mem_lowerBetween h
    · exact ih h

/-- Small characters stay, whatever stands before them. -/
theorem lowerAfter_of_isSmall {cs : List Char} (h : ∀ c ∈ cs, IsSmall c) (before : List Char) :
    lowerAfter before cs = cs := by
  induction cs generalizing before with
  | nil => rfl
  | cons c rest ih =>
    obtain ⟨hs, hi, hlower⟩ := h c List.mem_cons_self
    have hc : lowerBetween before c rest = [c] := by
      unfold lowerBetween
      rw [if_neg hs, if_neg hi, hlower]
    rw [lowerAfter, hc, ih fun d hd => h d (List.mem_cons_of_mem _ hd)]
    rfl

/-- **A lower-case form is its own lower-case form.** -/
theorem toLower_toLower (text : String) : toLower (toLower text) = toLower text := by
  have hsmall : ∀ c ∈ lowerAfter [] text.toList, IsSmall c := fun _ h => isSmall_of_mem_lowerAfter h
  have hlist : (toLower text).toList = lowerAfter [] text.toList := String.toList_ofList
  show String.ofList (lowerAfter [] (toLower text).toList) = toLower text
  rw [hlist, lowerAfter_of_isSmall hsmall]
  rfl

end Treasury.Text
