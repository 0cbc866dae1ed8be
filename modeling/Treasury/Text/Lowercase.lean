import Treasury.Text.CaseTable

/-!
# Lower case

`toLower` maps every letter to its lower-case counterpart by the full rules of Unicode. Two
letters need more than a table: the dotted capital I becomes an i and a combining dot, and a
capital sigma becomes the final form at the end of a word, that is after a letter with no
letter following, where marks and apostrophes in between do not count.

Two names that differ only in case have one lower-case form; names are compared by it.
-/

namespace Treasury.Text

/-- True of a letter of the run. -/
def CaseRun.contains (run : CaseRun) (n : Nat) : Bool :=
  run.first ≤ n ∧ n ≤ run.last ∧ (n - run.first) % run.step = 0

/-- True of a code point in one of the ranges. -/
def inRanges (ranges : List (Nat × Nat)) (n : Nat) : Bool :=
  ranges.any fun range => range.1 ≤ n ∧ n ≤ range.2

/-- True of a letter that has a case. -/
def isCased (c : Char) : Bool := inRanges casedRanges c.toNat

/-- True of a mark that is passed over when a word's end is looked for. -/
def isCaseIgnorable (c : Char) : Bool := inRanges ignorableRanges c.toNat

/-- The lower-case counterpart of a letter, by the table alone. -/
def lowerChar (c : Char) : Char :=
  match caseRuns.find? (·.contains c.toNat) with
  | some run => Char.ofNat (c.toNat + run.offset).toNat
  | none => c

/-- True if a letter comes first, marks aside. -/
def startsWithLetter (cs : List Char) : Bool :=
  match cs.dropWhile isCaseIgnorable with
  | [] => false
  | c :: _ => isCased c

/-- The capital sigma. -/
def capitalSigma : Char := 'Σ'

/-- The capital I with a dot. -/
def dottedI : Char := 'İ'

/-- The lower-case form of `c` between what stands `before` it, read backwards, and what
stands `after` it. -/
def lowerBetween (before : List Char) (c : Char) (after : List Char) : List Char :=
  if c = capitalSigma then
    [if startsWithLetter before && !startsWithLetter after then 'ς' else 'σ']
  else if c = dottedI then ['i', Char.ofNat 0x307]
  else [lowerChar c]

/-- The lower-case form of the rest of a text; `before` is what has been passed, backwards. -/
def lowerAfter (before : List Char) : List Char → List Char
  | [] => []
  | c :: rest => lowerBetween before c rest ++ lowerAfter (c :: before) rest

/-- The lower-case form of a text. -/
def toLower (text : String) : String := String.ofList (lowerAfter [] text.toList)

/-- The lower-case form of a letter from A to Z; every other character is kept. -/
def lowerAscii (c : Char) : Char :=
  if 'A' ≤ c ∧ c ≤ 'Z' then Char.ofNat (c.toNat + 32) else c

/-- True of texts that differ at most in the case of the letters from A to Z. -/
def equalIgnoringAsciiCase (a b : String) : Bool :=
  a.toList.map lowerAscii = b.toList.map lowerAscii

end Treasury.Text
