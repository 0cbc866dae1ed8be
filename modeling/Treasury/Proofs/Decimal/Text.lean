import Treasury.Proofs.Decimal.Value
import Treasury.Proofs.Text.Digits

/-!
# Amounts that are read back

The text of an amount has all its places, and reading it needs no rounding: the places that are
read are at most those that an amount can have, and what has been read so far is never too large.
Only the minus sign of a zero is not read back.
-/

namespace Treasury.Decimal

open Nat (toDigits ofDigitChars)

/-- The amount, where a zero has no minus sign. -/
def plain (d : Decimal) : Decimal where
  coefficient := d.coefficient
  scale := d.scale
  fits := d.fits
  scale_le := d.scale_le

@[simp] theorem value_plain (d : Decimal) : d.plain.value = d.value := rfl

theorem plain_plain (d : Decimal) : d.plain.plain = d.plain := rfl

theorem ofParts?_plain (d : Decimal) : ofParts? d.coefficient d.scale = some d.plain :=
  ofParts?_eq_some_iff.2 ⟨rfl, rfl, rfl⟩

/-- Only a zero with a minus sign has another text than its plain form. -/
theorem toText_plain_iff {d : Decimal} : d.plain.toText = d.toText ↔ d.minusZero = false := by
  obtain ⟨coefficient, scale, fits, scale_le, minusZero, hzero⟩ := d
  cases minusZero with
  | false => exact iff_of_true rfl rfl
  | true =>
    obtain rfl := hzero rfl
    refine iff_of_false (fun h => ?_) Bool.true_eq_false_eq_False
    have hlength := congrArg String.length h
    simp [toText, plain, isNegative] at hlength

/-- Such a zero is left of an amount below zero that is too small. -/
example : ofText? "-0.1e-28" = some (vanished true) := by decide

namespace Reading

/-- Digits for which there is room. -/
theorem scan_digits {cs : List Char} (hcs : ∀ c ∈ cs, IsDigit c) {n scale : Nat} {fraction : Bool}
    (hn : ofDigitChars 10 cs n < bound)
    (hscale : if fraction then scale + cs.length ≤ maxScale else scale = 0) {started : Bool}
    (rest : List Char) :
    scan ⟨n, scale, fraction, started⟩ (cs ++ rest) =
      scan ⟨ofDigitChars 10 cs n, if fraction then scale + cs.length else scale, fraction,
        started || !cs.isEmpty⟩ rest := by
  induction cs generalizing n scale started with
  | nil =>
    cases fraction <;> cases started <;> rfl
  | cons c cs ih =>
    rw [Nat.ofDigitChars_cons] at hn ⊢
    have hle := le_ofDigitChars cs (10 * n + (c.toNat - '0'.toNat))
    have hroom : scale ≠ maxScale := by
      cases fraction with
      | true =>
        simp only [if_true, List.length_cons] at hscale
        omega
      | false =>
        simp only [Bool.false_eq_true, if_false] at hscale
        rw [hscale]
        decide
    rw [List.cons_append, scan, if_neg hroom, (hcs c List.mem_cons_self).digit?]
    dsimp only
    rw [if_pos (Nat.lt_of_le_of_lt hle hn), ih (fun d hd => hcs d (List.mem_cons_of_mem _ hd)) hn]
    · cases fraction with
      | true =>
        simp only [if_true, List.length_cons, List.isEmpty_cons, Bool.true_or, Bool.not_false,
          Bool.or_true]
        congr 2
        omega
      | false =>
        simp only [Bool.false_eq_true, if_false] at hscale
        simp [hscale]
    · cases fraction with
      | true =>
        simp only [if_true, List.length_cons] at hscale ⊢
        omega
      | false => rfl

/-- Digits on both sides of a point. -/
theorem scan_point {before after : List Char} (hbefore : ∀ c ∈ before, IsDigit c)
    (hafter : ∀ c ∈ after, IsDigit c) (hsome : before ≠ [])
    (hn : ofDigitChars 10 (before ++ after) 0 < bound) (hscale : after.length ≤ maxScale) :
    empty.scan (before ++ '.' :: after) =
      some (ofDigitChars 10 (before ++ after) 0, after.length) := by
  rw [Nat.ofDigitChars_append] at hn ⊢
  have hstarted : (false || !before.isEmpty) = true := by
    rw [List.isEmpty_eq_false_iff.2 hsome]
    rfl
  have hle := le_ofDigitChars after (ofDigitChars 10 before 0)
  have hpoint : digit? '.' = none := by decide
  unfold empty
  rw [scan_digits hbefore (Nat.lt_of_le_of_lt hle hn) (by simp), hstarted, scan,
    if_neg (by simp [maxScale]), hpoint]
  dsimp only
  rw [if_pos (by decide), ← List.append_nil after, scan_digits hafter hn (by simpa using hscale)]
  simp [scan]

/-- Digits without a point. -/
theorem scan_whole {cs : List Char} (hcs : ∀ c ∈ cs, IsDigit c) (hsome : cs ≠ [])
    (hn : ofDigitChars 10 cs 0 < bound) : empty.scan cs = some (ofDigitChars 10 cs 0, 0) := by
  have hstarted : (false || !cs.isEmpty) = true := by
    rw [List.isEmpty_eq_false_iff.2 hsome]
    rfl
  unfold empty
  rw [← List.append_nil cs, scan_digits hcs hn (by simp), hstarted, List.append_nil]
  rfl

end Reading

/-- The digits of a magnitude, with zeros in front so that there is one before the point. -/
def paddedDigits (magnitude scale : Nat) : List Char :=
  List.replicate (scale + 1 - (toDigits 10 magnitude).length) '0' ++ toDigits 10 magnitude

theorem isDigit_of_mem_paddedDigits {magnitude scale : Nat} :
    ∀ c ∈ paddedDigits magnitude scale, IsDigit c := by
  intro c hc
  rcases List.mem_append.mp hc with hc | hc
  · exact ⟨0, by decide, (List.mem_replicate.mp hc).2⟩
  · exact isDigit_of_mem_toDigits c hc

theorem lt_length_paddedDigits (magnitude scale : Nat) :
    scale < (paddedDigits magnitude scale).length := by
  unfold paddedDigits
  rw [List.length_append, List.length_replicate]
  omega

theorem ofDigitChars_paddedDigits (magnitude scale : Nat) :
    ofDigitChars 10 (paddedDigits magnitude scale) 0 = magnitude := by
  unfold paddedDigits
  rw [Nat.ofDigitChars_append, Nat.ofDigitChars_replicate_zero, Nat.mul_zero]
  exact Nat.ofDigitChars_ten_toDigits

theorem toList_magnitudeText (magnitude scale : Nat) :
    (magnitudeText magnitude scale).toList =
      if scale = 0 then toDigits 10 magnitude
      else
        let whole := (paddedDigits magnitude scale).length - scale
        (paddedDigits magnitude scale).take whole
          ++ '.' :: (paddedDigits magnitude scale).drop whole := by
  have hlength : (toString magnitude).length = (toDigits 10 magnitude).length := by
    rw [← String.length_toList, toList_toString]
  unfold magnitudeText
  dsimp only
  split
  · exact toList_toString magnitude
  · rw [String.toList_ofList, hlength, toList_toString]
    rfl

/-- A magnitude is read back with all its places. -/
theorem scan_magnitudeText {magnitude scale : Nat} (hm : magnitude < bound)
    (hscale : scale ≤ maxScale) :
    Reading.empty.scan (magnitudeText magnitude scale).toList = some (magnitude, scale) := by
  rw [toList_magnitudeText]
  split
  · rename_i hzero
    have hread := Reading.scan_whole (isDigit_of_mem_toDigits (n := magnitude))
      Nat.toDigits_ne_nil
    rw [Nat.ofDigitChars_ten_toDigits] at hread
    rw [hread hm, hzero]
  · dsimp only
    have hlt := lt_length_paddedDigits magnitude scale
    have hdigits := @isDigit_of_mem_paddedDigits magnitude scale
    have hvalue := ofDigitChars_paddedDigits magnitude scale
    generalize paddedDigits magnitude scale = padded at hlt hdigits hvalue ⊢
    rw [Reading.scan_point (fun c hc => hdigits c (List.mem_of_mem_take hc))
      (fun c hc => hdigits c (List.mem_of_mem_drop hc)), List.take_append_drop, hvalue]
    · rw [List.length_drop, Nat.sub_sub_self (Nat.le_of_lt hlt)]
    · intro hnone
      rw [List.take_eq_nil_iff] at hnone
      rcases hnone with hnone | rfl
      · omega
      · exact absurd hlt (Nat.not_lt_zero scale)
    · rw [List.take_append_drop, hvalue]
      exact hm
    · rw [List.length_drop]
      omega

/-- The text of a magnitude starts with a digit, and so with no sign. -/
theorem splitSign_magnitudeText (magnitude scale : Nat) :
    splitSign (magnitudeText magnitude scale).toList =
      (false, (magnitudeText magnitude scale).toList) := by
  have hhead : ∃ c rest, (magnitudeText magnitude scale).toList = c :: rest ∧ IsDigit c := by
    rw [toList_magnitudeText]
    split
    · cases hdigits : toDigits 10 magnitude with
      | nil => exact absurd hdigits Nat.toDigits_ne_nil
      | cons c rest =>
        exact ⟨c, rest, rfl, isDigit_of_mem_toDigits c (hdigits ▸ List.mem_cons_self)⟩
    · dsimp only
      have hlt := lt_length_paddedDigits magnitude scale
      have hdigits := @isDigit_of_mem_paddedDigits magnitude scale
      generalize paddedDigits magnitude scale = padded at hlt hdigits ⊢
      cases padded with
      | nil => exact absurd hlt (Nat.not_lt_zero scale)
      | cons c rest =>
        have hsucc : (c :: rest).length - scale = (rest.length - scale) + 1 := by
          rw [List.length_cons] at hlt ⊢
          omega
        rw [hsucc, List.take_succ_cons, List.cons_append]
        exact ⟨c, _, rfl, hdigits c List.mem_cons_self⟩
  obtain ⟨c, rest, heq, d, hd, rfl⟩ := hhead
  rw [heq]
  have hall : ∀ d < 10, Nat.digitChar d ≠ '-' ∧ Nat.digitChar d ≠ '+' := by decide
  obtain ⟨hminus, hplus⟩ := hall d hd
  unfold splitSign
  split
  · rename_i h
    exact absurd (List.cons.inj h).1 hminus
  · rename_i h
    exact absurd (List.cons.inj h).1 hplus
  · rfl

/-- **An amount is read back from its text, with all its places.** -/
theorem ofText?_toText (d : Decimal) : ofText? d.toText = some d.plain := by
  have hscan := scan_magnitudeText d.fits d.scale_le
  have hplain : ofPlain? d.toText.toList = some d.plain := by
    unfold toText
    dsimp only
    split
    · rename_i hsign
      have hminus : ("-" ++ magnitudeText d.coefficient.natAbs d.scale).toList =
          '-' :: (magnitudeText d.coefficient.natAbs d.scale).toList := by
        rw [String.toList_append]
        rfl
      -- below zero, or a zero that is written with a minus sign
      have hneg : -(d.coefficient.natAbs : Int) = d.coefficient := by
        rcases Bool.or_eq_true _ _ ▸ hsign with hneg | hzero
        · have := of_decide_eq_true hneg
          omega
        · rw [d.coefficient_eq_zero hzero]
          rfl
      have hread : ofPlain? ('-' :: (magnitudeText d.coefficient.natAbs d.scale).toList) =
          (Reading.empty.scan (magnitudeText d.coefficient.natAbs d.scale).toList).bind
            fun r => signed? true r.1 r.2 := rfl
      rw [hminus, hread, hscan, Option.bind_some]
      unfold signed?
      rw [if_pos rfl, hneg, ofParts?_plain]
    · rename_i hsign
      have hpos : (d.coefficient.natAbs : Int) = d.coefficient := by
        have hnonneg : ¬d.coefficient < 0 := by
          intro hneg
          exact hsign (by simp [isNegative, hneg])
        omega
      unfold ofPlain?
      rw [splitSign_magnitudeText]
      dsimp only
      rw [hscan, Option.bind_some]
      unfold signed?
      rw [if_neg Bool.false_ne_true, hpos, ofParts?_plain]
  unfold ofText?
  rw [hplain]
  rfl

end Treasury.Decimal
