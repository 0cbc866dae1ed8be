import Treasury.Text.CompositionTable
import Treasury.Text.Rows

/-!
# Letters and their marks

A letter with a mark can be one character or two, and two marks on one letter can stand in
either order. `compose` gives equal texts one form: every character is taken apart, marks are
put in order of their classes, and then letters and marks are joined again wherever one
character stands for both. Korean syllables are taken apart and joined by arithmetic.
-/

namespace Treasury.Text

/-- The combining classes by runs of marks. -/
def combiningClasses : List (Nat × Nat × Nat) := hexTriples combiningClassRows

/-- The composed characters with their two parts. -/
def composites : List (Nat × Nat × Nat) := hexTriples compositeRows

/-- The combining class of a character; zero for all that are not marks. -/
def combiningClass (c : Char) : Nat :=
  if c.toNat < 0x300 then 0 else (valueIn? combiningClasses c.toNat).getD 0

/-! ## Taking apart -/

/-- The letters of a Korean syllable. -/
def syllableLetters (c : Char) : List Char :=
  let n := c.toNat - 0xAC00
  let vowel := [Char.ofNat (0x1100 + n / 588), Char.ofNat (0x1161 + n / 28 % 21)]
  if n % 28 = 0 then vowel else vowel ++ [Char.ofNat (0x11A7 + n % 28)]

/-- The parts of a character; three steps are enough for every character. -/
def decomposed : Nat → Char → List Char
  | 0, c => [c]
  | steps + 1, c =>
    if 0xAC00 ≤ c.toNat ∧ c.toNat ≤ 0xD7A3 then syllableLetters c
    else
      match composites.find? (·.1 = c.toNat) with
      | some (_, first, second) => decomposed steps (Char.ofNat first) ++ [Char.ofNat second]
      | none => [c]

/-! ## Order of marks -/

/-- Puts a mark behind those of its class or a lower one; `before` stands backwards. -/
def insertMark (c : Char) : List Char → List Char
  | [] => [c]
  | d :: before =>
    if combiningClass c < combiningClass d then d :: insertMark c before else c :: d :: before

/-- Puts the marks behind each letter in order of their classes. -/
def orderMarks (cs : List Char) : List Char :=
  (cs.foldl (fun before c =>
    if combiningClass c = 0 then c :: before else insertMark c before) []).reverse

/-! ## Joining -/

/-- The Korean syllable of two letters, or of a syllable and its last letter. -/
def syllable? (a b : Char) : Option Char :=
  let m := a.toNat
  let n := b.toNat
  if 0x1100 ≤ m ∧ m ≤ 0x1112 ∧ 0x1161 ≤ n ∧ n ≤ 0x1175 then
    some (Char.ofNat (0xAC00 + ((m - 0x1100) * 21 + (n - 0x1161)) * 28))
  else if 0xAC00 ≤ m ∧ m ≤ 0xD7A3 ∧ (m - 0xAC00) % 28 = 0 ∧ 0x11A8 ≤ n ∧ n ≤ 0x11C2 then
    some (Char.ofNat (m + (n - 0x11A7)))
  else none

/-- The character that stands for two. -/
def composite? (a b : Char) : Option Char :=
  (syllable? a b).orElse fun _ =>
    (composites.find? (·.2 = (a.toNat, b.toNat))).map fun entry => Char.ofNat entry.1

/-- A text as far as it has been joined. -/
structure Joining where
  /-- What is finished, backwards. -/
  done : List Char
  /-- The letter that a mark may still join. -/
  letter : Option Char
  /-- The marks that did not join it, backwards. -/
  marks : List Char

namespace Joining

/-- Everything so far, backwards. -/
def flush (j : Joining) : List Char := j.marks ++ j.letter.toList ++ j.done

/-- True if nothing stands between the letter and a mark of class `n` that would keep them
apart: no mark, or only marks of lower classes. -/
def isFree (j : Joining) (n : Nat) : Bool :=
  match j.marks with
  | [] => true
  | d :: _ => combiningClass d < n

/-- Takes the next character. -/
def take (j : Joining) (c : Char) : Joining :=
  let n := combiningClass c
  match (if j.isFree n then j.letter.bind (composite? · c) else none) with
  | some joined => { j with letter := some joined }
  | none =>
    if n = 0 then ⟨j.flush, some c, []⟩
    else { j with marks := c :: j.marks }

end Joining

/-- The one form of a text. Nothing below the first mark is ever joined. -/
def compose (cs : List Char) : List Char :=
  if cs.all (·.toNat < 0x300) then cs
  else
    let joined := (orderMarks (cs.flatMap (decomposed 3))).foldl Joining.take ⟨[], none, []⟩
    joined.flush.reverse

end Treasury.Text
