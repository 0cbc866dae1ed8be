import Treasury.Settings.Name.Label

/-!
# Names of hosts

`Name.toAscii?` brings a name into the form that name servers know. Names that differ only in
case, width or the way in which marks are written have one form.
-/

namespace Treasury.Name

/-- Splits at every character of which `p` holds. -/
def splitOn (p : Char → Bool) : List Char → List (List Char)
  | [] => [[]]
  | c :: rest =>
    if p c then [] :: splitOn p rest
    else match splitOn p rest with
      | [] => [[c]]
      | part :: parts => (c :: part) :: parts

/-- The form of a name that name servers know. -/
def toAscii? (cs : List Char) : Option (List Char) := do
  let labels ← (splitOn (· = '.') (← prepare? cs)).mapM revealed?
  let mixed := labels.any (·.any isRightToLeft)
  if labels.all isReadable ∧ (!mixed ∨ labels.all keepsDirection) then
    return (List.intersperse ['.'] (labels.map asciiLabel)).flatten
  else none

end Treasury.Name
