import Treasury.Settings.Name.MappingTable
import Treasury.Text.Composition
import Treasury.Text.Lowercase

/-!
# Equal names

Capital letters, letters of other shapes and widths, and letters with marks written apart all
name the same host. `prepare?` gives such names one form: each character is mapped, left out or
refused, and then letters and marks are joined.
-/

namespace Treasury.Name

/-- A run of characters `first`, `first + step`, … up to `last`, which become the characters
from `target` on in parallel. -/
structure Shift where
  first : Nat
  last : Nat
  step : Nat
  target : Nat

/-- The runs of characters that become one other each. -/
def shifts : List Shift :=
  (Text.hexRows shiftedRows).filterMap fun row =>
    match row with
    | [first, last, step, target] => some ⟨first, last, step, target⟩
    | _ => none

/-- What a character of a run becomes. -/
def Shift.target? (s : Shift) (n : Nat) : Option Nat :=
  if s.first ≤ n ∧ n ≤ s.last ∧ (n - s.first) % s.step = 0 then some (s.target + (n - s.first))
  else none

/-- The characters that become several. -/
def spellings : List (List Nat) := Text.hexRows spelledRows

/-- What a character becomes that stands for several. -/
def spelled? (n : Nat) : Option (List Nat) :=
  (spellings.find? (·.head? = some n)).map (·.drop 1)

/-- The characters that are left out. -/
def omitted : List (Nat × Nat) := Text.hexPairs omittedRows

/-- The characters that no name can hold. -/
def refused : List (Nat × Nat) := Text.hexPairs refusedRows

/-- What becomes of a character; `none` if no name can hold it. -/
def mapChar? (c : Char) : Option (List Char) :=
  let n := c.toNat
  if n < 0x80 then some [Text.lowerAscii c]
  else if Text.inRanges refused n then none
  else if Text.inRanges omitted n then some []
  else
    match shifts.findSome? (·.target? n), spelled? n with
    | some m, _ => some [Char.ofNat m]
    | none, some ms => some (ms.map Char.ofNat)
    | none, none => some [c]

/-- The one form of a name. -/
def prepare? (cs : List Char) : Option (List Char) :=
  (cs.mapM mapChar?).map fun parts => Text.compose parts.flatten

end Treasury.Name
