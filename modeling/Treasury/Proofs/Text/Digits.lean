import Treasury.Word256

/-!
# Numbers that are read back

The digits of a number, read one after the other from the left, make the number again. Whoever reads
digits keeps what they make so far, which never goes down (`le_ofDigitChars`), so a number that
fits is never found too large on the way.
-/

namespace Treasury

open Nat (toDigits ofDigitChars)

/-- A character that is a decimal digit. -/
def IsDigit (c : Char) : Prop := ∃ d < 10, c = Nat.digitChar d

theorem digit?_digitChar {d : Nat} (h : d < 10) : Decimal.digit? (Nat.digitChar d) = some d := by
  have hall : ∀ d < 10, Decimal.digit? (Nat.digitChar d) = some d := by decide
  exact hall d h

theorem digitChar_sub {d : Nat} (h : d < 10) : (Nat.digitChar d).toNat - '0'.toNat = d := by
  have hall : ∀ d < 10, (Nat.digitChar d).toNat - '0'.toNat = d := by decide
  exact hall d h

/-- What a digit is read as. -/
theorem IsDigit.digit? {c : Char} (h : IsDigit c) :
    Decimal.digit? c = some (c.toNat - '0'.toNat) := by
  obtain ⟨d, hd, rfl⟩ := h
  rw [digit?_digitChar hd, digitChar_sub hd]

theorem isDigit_of_mem_toDigits {n : Nat} : ∀ c ∈ toDigits 10 n, IsDigit c := by
  induction n using Nat.strongRecOn with
  | ind n ih =>
    intro c hc
    rw [Nat.toDigits_eq_if (by decide)] at hc
    split at hc
    · rename_i hlt
      exact ⟨n, hlt, List.mem_singleton.mp hc⟩
    · rename_i hge
      rcases List.mem_append.mp hc with hc | hc
      · exact ih (n / 10) (by omega) c hc
      · exact ⟨n % 10, by omega, List.mem_singleton.mp hc⟩

/-- The text of a number is its digits. -/
theorem toList_toString (n : Nat) : (toString n).toList = toDigits 10 n := by
  rw [Nat.toString_eq_ofList_toDigits, String.toList_ofList]

/-- A number above zero does not start with a zero. -/
theorem toDigits_eq_cons {n : Nat} (h : n ≠ 0) :
    ∃ d rest, 0 < d ∧ d < 10 ∧ toDigits 10 n = Nat.digitChar d :: rest := by
  induction n using Nat.strongRecOn with
  | ind n ih =>
    rw [Nat.toDigits_eq_if (by decide)]
    split
    · rename_i hlt
      exact ⟨n, [], by omega, hlt, rfl⟩
    · rename_i hge
      obtain ⟨d, rest, hpos, hlt, heq⟩ := ih (n / 10) (by omega) (by omega)
      exact ⟨d, rest ++ [Nat.digitChar (n % 10)], hpos, hlt, by rw [heq, List.cons_append]⟩

/-- Reading on never makes a number smaller. -/
theorem le_ofDigitChars (cs : List Char) (n : Nat) : n ≤ ofDigitChars 10 cs n := by
  induction cs generalizing n with
  | nil => exact Nat.le_refl n
  | cons c cs ih =>
    rw [Nat.ofDigitChars_cons]
    exact Nat.le_trans (by omega) (ih _)

/-- Whoever reads digits into a state reads a number if each digit is taken as a digit and the
limit is not reached. -/
theorem foldlM_toDigits {step : Nat → Char → Option Nat} {n limit : Nat} (hn : n < limit)
    (hstep : ∀ m c, IsDigit c → 10 * m + (c.toNat - '0'.toNat) < limit →
      step m c = some (10 * m + (c.toNat - '0'.toNat))) :
    (toDigits 10 n).foldlM step 0 = some n := by
  have hall : ∀ (cs : List Char) (m : Nat), (∀ c ∈ cs, IsDigit c) →
      ofDigitChars 10 cs m < limit → cs.foldlM step m = some (ofDigitChars 10 cs m) := by
    intro cs
    induction cs with
    | nil => intro m _ _; rfl
    | cons c cs ih =>
      intro m hdigits hlt
      rw [Nat.ofDigitChars_cons] at hlt ⊢
      -- what has been read so far is below the limit because what will be read is
      have hle := le_ofDigitChars cs (10 * m + (c.toNat - '0'.toNat))
      rw [List.foldlM_cons, hstep m c (hdigits c List.mem_cons_self) (by omega)]
      exact ih _ (fun d hd => hdigits d (List.mem_cons_of_mem _ hd)) hlt
  have hread := hall (toDigits 10 n) 0 isDigit_of_mem_toDigits
  rw [Nat.ofDigitChars_ten_toDigits] at hread
  exact hread hn

namespace Word256

theorem ofNat?_toNat (w : Word256) : ofNat? w.toNat = some w :=
  ofNat?_eq_some_iff.2 rfl

/-- A word is read back from its digits. -/
theorem ofText?_toText (w : Word256) : ofText? w.toText = some w := by
  unfold ofText? toText
  dsimp only
  rw [toList_toString, foldlM_toDigits w.fits fun m c hc hlt => ?_]
  · exact ofNat?_toNat w
  · obtain ⟨d, hd, rfl⟩ := hc
    have hne : Nat.digitChar d ≠ '_' := by
      have hall : ∀ d < 10, Nat.digitChar d ≠ '_' := by decide
      exact hall d hd
    rw [digitChar_sub hd] at hlt ⊢
    rw [if_neg hne, digit?_digitChar hd]
    exact if_pos hlt

end Word256

end Treasury
