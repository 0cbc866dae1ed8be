import Treasury.Settings.Name.Mapping
import Treasury.Settings.Name.Punycode
import Treasury.Settings.Name.ScriptTable

/-!
# Labels of names

A label beyond ASCII has to be readable: it does not start with a mark, it holds the invisible
joiners only where they change how letters are drawn, and if any label of the name is written
from right to left, every label keeps to one direction.
-/

namespace Treasury.Name

/-- True of the characters of ASCII. -/
def isAscii (c : Char) : Bool := c.toNat < 0x80

/-! ## Marks and joiners -/

/-- The marks. -/
def marks : List (Nat × Nat) := Text.hexPairs markRows

/-- True of a mark. -/
def isMark (c : Char) : Bool := Text.inRanges marks c.toNat

/-- How a letter is joined to its neighbours. -/
inductive Joint where
  | following
  | preceding
  | both
  /-- A mark, which does not come between letters. -/
  | transparent
  | none
  deriving DecidableEq, Repr

/-- The joints by runs of characters. -/
def joints : List (Nat × Nat × Nat) := Text.hexTriples joiningRows

/-- How a character is joined. -/
def joint (c : Char) : Joint :=
  match Text.valueIn? joints c.toNat with
  | some 1 => .following
  | some 2 => .preceding
  | some 3 => .both
  | some 4 => .transparent
  | _ => .none

/-- True if the first character that is no mark is joined in one of these ways. -/
def meets (ways : List Joint) (cs : List Char) : Bool :=
  match cs.find? (joint · ≠ .transparent) with
  | some c => ways.contains (joint c)
  | none => false

/-- The sign that keeps letters apart. -/
def nonJoiner : Char := '\u200C'

/-- The sign that joins letters. -/
def joiner : Char := '\u200D'

/-- True if both joiners stand only where they may: behind a sign that silences a vowel, and
the one that keeps letters apart also between two letters that would be joined. `before` has
been passed, backwards. -/
def joinersFit (before : List Char) : List Char → Bool
  | [] => true
  | c :: rest =>
    let fits :=
      if c = nonJoiner ∨ c = joiner then
        match before with
        | [] => false
        | previous :: _ =>
          Text.combiningClass previous = 9 ∨
            (c = nonJoiner ∧ meets [.following, .both] before ∧ meets [.preceding, .both] rest)
      else true
    fits && joinersFit (c :: before) rest

/-! ## Direction -/

/-- The direction in which a character is written. -/
inductive Direction where
  | leftToRight
  | rightToLeft
  | arabicLetter
  | arabicNumber
  | number
  | sign
  | separator
  | terminator
  | neutral
  | control
  | mark
  deriving DecidableEq, Repr

/-- The directions by runs of characters. -/
def directions : List (Nat × Nat × Nat) := Text.hexTriples directionRows

/-- The direction of a character. -/
def direction (c : Char) : Direction :=
  match Text.valueIn? directions c.toNat with
  | some 1 => .rightToLeft
  | some 2 => .arabicLetter
  | some 3 => .arabicNumber
  | some 4 => .number
  | some 5 => .sign
  | some 6 => .separator
  | some 7 => .terminator
  | some 8 => .neutral
  | some 9 => .control
  | some 10 => .mark
  | _ => .leftToRight

/-- True of characters that are written from right to left; the first is a Hebrew one. -/
def isRightToLeft (c : Char) : Bool :=
  0x590 ≤ c.toNat && [.rightToLeft, .arabicLetter, .arabicNumber].contains (direction c)

/-- The directions that a label of either direction may hold between its ends. -/
def common : List Direction :=
  [.number, .sign, .separator, .terminator, .neutral, .control, .mark]

/-- True of a label that keeps to the direction of its first character. Marks at its end do
not count, and numbers of two kinds do not mix. -/
def keepsDirection (label : List Char) : Bool :=
  match label.map direction with
  | [] => true
  | first :: rest =>
    match rest.reverse.dropWhile (· = .mark) with
    | [] => [.leftToRight, .rightToLeft, .arabicLetter].contains first
    | last :: middle =>
      match first with
      | .leftToRight =>
        [.leftToRight, .number].contains last ∧
          middle.all fun d => d = .leftToRight ∨ common.contains d
      | .rightToLeft | .arabicLetter =>
        let letters : List Direction := [.rightToLeft, .arabicLetter, .arabicNumber]
        (last = .number ∨ letters.contains last) ∧
          (middle.all fun d => letters.contains d ∨ common.contains d) ∧
          !((last :: middle).contains .number ∧ (last :: middle).contains .arabicNumber)
      | _ => false

/-! ## Labels -/

/-- What stands in front of the ASCII form of a label. -/
def codeMark : List Char := ['x', 'n', '-', '-']

/-- The characters that a label stands for, if it is an ASCII form; it must be the form of a
label that needs no further preparation. -/
def revealed? (label : List Char) : Option (List Char) :=
  if codeMark.isPrefixOf label then
    let code := label.drop 4
    if !code.all isAscii ∨ code.isEmpty ∨ code.getLast? = some '-' ∨ 2000 < code.length then none
    else (decode? code).bind fun hidden => if prepare? hidden = some hidden then some hidden else none
  else some label

/-- True of a label that can be shown. -/
def isReadable (label : List Char) : Bool :=
  label.all isAscii ∨
    (!(label.take 1).any isMark ∧ joinersFit [] label ∧ label.length ≤ 1000)

/-- A label in plain ASCII. -/
def asciiLabel (label : List Char) : List Char :=
  if label.all isAscii then label else codeMark ++ encode label

end Treasury.Name
