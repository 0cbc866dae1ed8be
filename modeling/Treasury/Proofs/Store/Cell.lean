import Mathlib.Tactic.Push
import Mathlib.Tactic.Ring
import Treasury.Store.Cell

/-!
# The order of a column

A column may hold numbers of different kinds and text in any order. Numbers are compared by their
values, texts among themselves, and no text is less than a number. This orders all cells
(`le_trans`, `le_of_not_le`), so the greatest cell of a column is not less than any other
(`le_of_max?`).
-/

namespace Treasury.Cell

/-- Numbers are compared by their cross products. -/
theorem le_iff_cross {a b : Cell} (ha : ∀ s, a ≠ .text s) (hb : ∀ s, b ≠ .text s) :
    a.le b = true ↔ a.numerator * b.denominator ≤ b.numerator * a.denominator := by
  cases a with
  | text s => exact absurd rfl (ha s)
  | int n =>
    cases b with
    | text s => exact absurd rfl (hb s)
    | int m => simp [le, numerator, denominator]
    | real y => simp [le]
  | real x =>
    cases b with
    | text s => exact absurd rfl (hb s)
    | int m => simp [le]
    | real y => simp [le]

theorem denominator_pos (a : Cell) : 0 < a.denominator := by
  cases a with
  | real x =>
    have hpos : 0 < Nat.pow 2 (-x.exponent).toNat := Nat.pow_pos (by decide)
    exact Int.natCast_pos.2 hpos
  | int n => exact Int.one_pos
  | text s => exact Int.one_pos

theorem le_refl (a : Cell) : a.le a = true := by
  cases a with
  | int n => exact decide_eq_true (Int.le_refl n)
  | real x => exact decide_eq_true (Int.le_refl _)
  | text s => exact decide_eq_true (String.le_refl s)

/-- Only a text is not less than a text. -/
theorem ne_text_of_le {a b : Cell} (h : a.le b = true) (hb : ∀ s, b ≠ .text s) :
    ∀ s, a ≠ .text s := by
  rintro s rfl
  cases b with
  | text t => exact hb t rfl
  | int m => exact absurd h (by simp [le])
  | real x => exact absurd h (by simp [le])

theorem le_trans {a b c : Cell} (hab : a.le b = true) (hbc : b.le c = true) :
    a.le c = true := by
  by_cases hc : ∃ t, c = .text t
  · obtain ⟨t, rfl⟩ := hc
    cases a with
    | int n => rfl
    | real x => rfl
    | text r =>
      cases b with
      | int m => exact absurd hab (by simp [le])
      | real x => exact absurd hab (by simp [le])
      | text s =>
        exact decide_eq_true (String.le_trans (of_decide_eq_true hab) (of_decide_eq_true hbc))
  · push Not at hc
    have hb := ne_text_of_le hbc hc
    have ha := ne_text_of_le hab hb
    rw [le_iff_cross ha hb] at hab
    rw [le_iff_cross hb hc] at hbc
    rw [le_iff_cross ha hc]
    -- multiply by the denominator in between, which is positive
    refine Int.le_of_mul_le_mul_right ?_ b.denominator_pos
    calc a.numerator * c.denominator * b.denominator
        = a.numerator * b.denominator * c.denominator := by ring
      _ ≤ b.numerator * a.denominator * c.denominator :=
        Int.mul_le_mul_of_nonneg_right hab c.denominator_pos.le
      _ = b.numerator * c.denominator * a.denominator := by ring
      _ ≤ c.numerator * b.denominator * a.denominator :=
        Int.mul_le_mul_of_nonneg_right hbc a.denominator_pos.le
      _ = c.numerator * a.denominator * b.denominator := by ring

theorem le_of_not_le {a b : Cell} (h : ¬a.le b = true) : b.le a = true := by
  by_cases ha : ∃ s, a = .text s
  · obtain ⟨s, rfl⟩ := ha
    cases b with
    | int m => rfl
    | real x => rfl
    | text t =>
      have hnot : ¬s ≤ t := fun hle => h (decide_eq_true hle)
      exact decide_eq_true ((String.le_total s t).resolve_left hnot)
  · push Not at ha
    by_cases hb : ∃ t, b = .text t
    · obtain ⟨t, rfl⟩ := hb
      cases a with
      | int n => exact absurd rfl h
      | real x => exact absurd rfl h
      | text s => exact absurd rfl (ha s)
    · push Not at hb
      rw [le_iff_cross ha hb] at h
      rw [le_iff_cross hb ha]
      omega

theorem le_max_left (a b : Cell) : a.le (max a b) = true := by
  unfold max
  split
  · assumption
  · exact le_refl a

theorem le_max_right (a b : Cell) : b.le (max a b) = true := by
  unfold max
  split
  · exact le_refl b
  · rename_i h
    exact le_of_not_le h

/-- **No cell of a column is greater than its greatest cell.** -/
theorem le_of_max? {cells : List Cell} {top : Cell} (h : max? cells = some top) :
    ∀ c ∈ cells, c.le top = true := by
  -- what has come up so far is carried along as the cell `a`
  have hfold : ∀ (cells : List Cell) (a c : Cell), c.le a = true ∨ c ∈ cells →
      c.le (cells.foldl max a) = true := by
    intro cells
    induction cells with
    | nil => exact fun _ _ h => h.resolve_right List.not_mem_nil
    | cons b rest ih =>
      intro a c h
      rw [List.foldl_cons]
      rcases h with h | h
      · exact ih _ c (.inl (le_trans h (le_max_left a b)))
      rcases List.mem_cons.mp h with rfl | h
      · exact ih _ c (.inl (le_max_right a c))
      · exact ih _ c (.inr h)
  cases cells with
  | nil => exact absurd h (by simp [max?])
  | cons a rest =>
    cases h
    intro c hc
    rcases List.mem_cons.mp hc with rfl | hc
    · exact hfold rest c c (.inl (le_refl c))
    · exact hfold rest a c (.inr hc)

/-- The greatest cell of a column is one of them. -/
theorem mem_of_max? {cells : List Cell} {top : Cell} (h : max? cells = some top) :
    top ∈ cells := by
  have hfold : ∀ (cells : List Cell) (a : Cell), cells.foldl max a ∈ a :: cells := by
    intro cells
    induction cells with
    | nil => exact fun a => List.mem_cons_self
    | cons b rest ih =>
      intro a
      rw [List.foldl_cons]
      rcases List.mem_cons.mp (ih (max a b)) with hmax | hmem
      · rw [hmax]
        unfold max
        split <;> simp
      · simp [hmem]
  cases cells with
  | nil => exact absurd h (by simp [max?])
  | cons a rest =>
    cases h
    exact hfold rest a

end Treasury.Cell
