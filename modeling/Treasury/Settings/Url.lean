import Treasury.Settings.Host

/-!
# Addresses on the net

An absolute address, in the one form in which browsers and servers write it: scheme and host
in lower case, the usual port left out, steps like `.` and `..` carried out, and characters
that cannot stand as they are written with a percent sign.
-/

namespace Treasury

/-- An absolute address in its one form. -/
structure Url where
  text : String
  deriving DecidableEq, Repr

namespace Url

open Host (percentEncode isControl)
open Name (splitOn)

/-- True of the characters that cannot stand in a fragment. -/
def breaksFragment (c : Char) : Bool :=
  isControl c ∨ [' ', '\x22', '<', '>', '\x60'].contains c

/-- True of the characters that cannot stand in a path. -/
def breaksPath (c : Char) : Bool := breaksFragment c ∨ ['#', '?', '\x7b', '\x7d'].contains c

/-- True of the characters that cannot stand in a query. -/
def breaksQuery (special : Bool) (c : Char) : Bool :=
  isControl c ∨ [' ', '\x22', '#', '<', '>'].contains c ∨ (special && c = '\x27')

/-- True of the characters that cannot stand in a user name. -/
def breaksUser (c : Char) : Bool :=
  breaksPath c ∨ ['/', ':', ';', '=', '@', '[', '\\', ']', '^', '|'].contains c

/-- The port that a scheme uses anyway. -/
def usualPort : List Char → Option Nat
  | ['h', 't', 't', 'p'] | ['w', 's'] => some 80
  | ['h', 't', 't', 'p', 's'] | ['w', 's', 's'] => some 443
  | ['f', 't', 'p'] => some 21
  | _ => none

/-- True of the scheme for files. -/
def isFile (scheme : List Char) : Bool := scheme = ['f', 'i', 'l', 'e']

/-- True of the schemes whose addresses have a host and a path of steps. -/
def isSpecial (scheme : List Char) : Bool := (usualPort scheme).isSome ∨ isFile scheme

/-- The scheme and what follows its colon. -/
def scheme? (cs : List Char) : Option (List Char × List Char) :=
  let isSchemeChar (c : Char) : Bool := c.isAlphanum ∨ c = '+' ∨ c = '-' ∨ c = '.'
  match cs.takeWhile isSchemeChar, cs.dropWhile isSchemeChar with
  | first :: name, ':' :: rest =>
    if first.isAlpha then some ((first :: name).map Text.lowerAscii, rest) else none
  | _, _ => none

/-- True of the characters that divide the steps of a path. -/
def isSlash (special : Bool) (c : Char) : Bool := c = '/' ∨ (special && c = '\\')

/-- True of a step that stays where it is. -/
def isHere (step : List Char) : Bool :=
  let s := step.map Text.lowerAscii
  s = ['.'] ∨ s = ['%', '2', 'e']

/-- True of a step upwards. -/
def isUp (step : List Char) : Bool :=
  let s := step.map Text.lowerAscii
  s = ['.', '.'] ∨ s = ['.', '%', '2', 'e'] ∨ s = ['%', '2', 'e', '.'] ∨
    s = ['%', '2', 'e', '%', '2', 'e']

/-- True of the name of a drive: a letter and a colon or a bar. -/
def isDrive (step : List Char) : Bool :=
  match step with
  | [c, d] => c.isAlpha ∧ (d = ':' ∨ d = '|')
  | _ => false

/-- The steps after a step upwards, backwards: the last one is given up, unless it is a
drive. -/
def stepUp : List (List Char) → List (List Char)
  | [] => []
  | step :: taken => if isDrive step then step :: taken else taken

/-- A step as it is written. In the address of a file a drive that comes `first` gets a
colon. -/
def shownStep (file first : Bool) (step : List Char) : List Char :=
  match step with
  | [c, _] => if file && first && isDrive step then [c, ':'] else percentEncode breaksPath step
  | _ => percentEncode breaksPath step

/-- The line breaks, and what counts as one, that may stand anywhere in an address. -/
def isBreak (c : Char) : Bool := c = '\t' ∨ c = '\n' ∨ c = '\r'

/-- Without the line breaks within. -/
def joined (cs : List Char) : List Char := cs.filter (!isBreak ·)

/-- Carries out one step after the steps `taken`, which stand backwards. A path that ends with a
step upwards or with one that stays ends with a slash. -/
def carryOut (file last : Bool) (taken : List (List Char)) (step : List Char) :
    List (List Char) :=
  if isUp step then if last then [] :: stepUp taken else stepUp taken
  else if isHere step then if last then [] :: taken else taken
  else shownStep file taken.isEmpty step :: taken

/-- Carries out a step in the address of a file. A line break right behind the drive that comes
first divides it from what follows. -/
def carryOutFile (last : Bool) (taken : List (List Char)) (step : List Char) :
    List (List Char) :=
  let drive := joined (step.takeWhile (· ≠ ':')) ++ [':']
  let behind := (step.dropWhile (· ≠ ':')).drop 1
  if taken.isEmpty ∧ isDrive drive ∧ behind.head?.any isBreak ∧ joined behind ≠ [] then
    carryOut true last [drive] (joined behind)
  else carryOut true last taken (joined step)

/-- Carries out the steps of a path with `carry`; `taken` are the steps so far, backwards. -/
def walk (carry : Bool → List (List Char) → List Char → List (List Char))
    (taken : List (List Char)) : List (List Char) → List (List Char)
  | [] => taken.reverse
  | step :: rest => walk carry (carry rest.isEmpty taken step) rest

/-- Without one slash in front. -/
def dropSlash (special : Bool) (cs : List Char) : List Char :=
  match cs with
  | c :: rest => if isSlash special c then rest else cs
  | [] => []

/-- Steps with a slash in front of each. -/
def joinSteps (steps : List (List Char)) : List Char := steps.flatMap fun step => '/' :: step

/-- A path in its one form. -/
def path (special : Bool) (cs : List Char) : List Char :=
  joinSteps (walk (carryOut false) [] (splitOn (isSlash special) (dropSlash special cs)))

/-- The steps of the path of a file without empty ones in front. -/
def fileSteps (steps : List (List Char)) : List (List Char) :=
  match steps.dropWhile List.isEmpty with
  | [] => [[]]
  | steps => steps

/-- The part before a mark, and the part from the mark on, if it is there. -/
def cut (mark : Char) (cs : List Char) : List Char × Option (List Char) :=
  match cs.dropWhile (· ≠ mark) with
  | [] => (cs, none)
  | _ :: rest => (cs.takeWhile (· ≠ mark), some rest)

/-- Query and fragment as they are written. -/
def tail (special : Bool) (query fragment : Option (List Char)) : List Char :=
  (match query with
    | some q => '?' :: percentEncode (breaksQuery special) q
    | none => []) ++
  (match fragment with
    | some f => '#' :: percentEncode breaksFragment f
    | none => [])

/-- The port after a colon, unless it is the usual one. -/
def port? (scheme ds : List Char) : Option (List Char) :=
  if ds.isEmpty then some []
  else
    (Decimal.natural? ds).bind fun n =>
      if 65535 < n then none
      else if usualPort scheme = some n then some []
      else some (':' :: (toString n).toList)

/-- Splits off the part up to the last character `mark`. -/
def cutLast (mark : Char) (cs : List Char) : Option (List Char × List Char) :=
  match cs.reverse.dropWhile (· ≠ mark) with
  | [] => none
  | _ :: before => some (before.reverse, (cs.reverse.takeWhile (· ≠ mark)).reverse)

/-- User name and password as they are written. -/
def user (cs : List Char) : List Char :=
  let (name, password) := cut ':' cs
  let shown := percentEncode breaksUser name
  match password with
  | some secret =>
    if secret.isEmpty then if name.isEmpty then [] else shown ++ ['@']
    else shown ++ ':' :: percentEncode breaksUser secret ++ ['@']
  | none => if name.isEmpty then [] else shown ++ ['@']

/-- Splits a host from what follows the first colon outside of brackets. -/
def splitPort (inside : Bool) : List Char → List Char × Option (List Char)
  | [] => ([], none)
  | c :: rest =>
    if c = ':' ∧ !inside then ([], some rest)
    else
      let (host, port) := splitPort (c = '[' ∨ (inside ∧ c ≠ ']')) rest
      (c :: host, port)

/-- User, host and port as they are written, and what follows the port before the next slash;
only a backslash can start that. `alone` if the address ends with them. -/
def authority? (scheme : List Char) (alone : Bool) (cs : List Char) :
    Option (List Char × List Char) := do
  let (credentials, hostPort) ← match cutLast '@' cs with
    | some ([], after) => if after.isEmpty ∧ !alone then none else some ([], after)
    | some (before, after) => some (user before, after)
    | none => some ([], cs)
  let (host, port) := splitPort false hostPort
  if host.isEmpty ∧ (isSpecial scheme ∨ !credentials.isEmpty ∨ port.isSome) then none
  else
    let shown ← if isSpecial scheme then Host.parse? host else Host.verbatim? host
    let behind := port.getD []
    let rest := behind.dropWhile Char.isDigit
    if rest.isEmpty ∨ rest.head? = some '\\' then
      let port ← port? scheme (behind.takeWhile Char.isDigit)
      return (credentials ++ shown ++ port, rest)
    else none

/-- Everything after the scheme of an address with host and steps. -/
def hierarchical? (scheme cs : List Char) (query fragment : Option (List Char)) :
    Option (List Char) := do
  let special := isSpecial scheme
  let isEnd (c : Char) : Bool := isSlash special c
  let steps := cs.dropWhile (!isEnd ·)
  let alone := steps.isEmpty ∧ query.isNone ∧ fragment.isNone
  let (authority, rest) ← authority? scheme alone (cs.takeWhile (!isEnd ·))
  let steps := rest ++ steps
  let steps := if steps.isEmpty ∧ !special then [] else path special steps
  return '/' :: '/' :: authority ++ steps ++ tail special query fragment

/-- Everything after the scheme of the address of a file, in which line breaks may still stand. A
drive has no host: it is not taken for one, and a host in front of it is dropped, unless a
line break divides the drive from what follows. -/
def file? (cs : List Char) (query fragment : Option (List Char)) : Option (List Char) := do
  let shown (host : List Char) (steps : List (List Char)) : List Char :=
    '/' :: '/' :: host ++ joinSteps (fileSteps steps) ++ tail true query fragment
  let steps (cs : List Char) : List (List Char) :=
    walk carryOutFile [] (splitOn (isSlash true) cs)
  let cs := cs.dropWhile isBreak
  let behind := (dropSlash true cs).dropWhile isBreak
  if cs.length = (dropSlash true cs).length ∨ behind.length = (dropSlash true behind).length then
    return shown [] (steps behind)
  else
    let cs := dropSlash true behind
    let host := joined (cs.takeWhile (!isSlash true ·))
    let path := steps (dropSlash true (cs.dropWhile (!isSlash true ·)))
    if isDrive host then return shown [] (steps cs)
    else if host.isEmpty then return shown [] path
    else
      let host ← Host.parse? host
      let whole := steps (joined (dropSlash true (cs.dropWhile (!isSlash true ·))))
      if host = "localhost".toList ∨ ((path.take 1).any isDrive ∧ path = whole) then
        return shown [] path
      else return shown host path

/-- Everything after the scheme, in which line breaks may still stand. -/
def rest? (scheme cs : List Char) : Option (List Char) :=
  let (before, fragment) := cut '#' cs
  let (main, query) := cut '?' before
  let fragment := fragment.map joined
  let query := query.map joined
  if isFile scheme then file? main query fragment
  else if isSpecial scheme then
    hierarchical? scheme ((joined main).dropWhile (isSlash true)) query fragment
  else
    match joined main with
    | '/' :: '/' :: rest => hierarchical? scheme rest query fragment
    | '/' :: _ =>
      let steps := path false (joined main)
      let here := if ['/', '/'].isPrefixOf steps then ['/', '.'] else []
      some (here ++ steps ++ tail false query fragment)
    | main => some (percentEncode isControl main ++ tail false query fragment)

/-- Reads an absolute address. Blanks around it and line breaks within are passed over. -/
def ofText? (text : String) : Option Url := do
  let isEdge (c : Char) : Bool := c.toNat ≤ 0x20
  let cs := text.toList.dropWhile isEdge
  let cs := (cs.reverse.dropWhile isEdge).reverse
  let (scheme, _) ← scheme? (joined cs)
  let rest ← rest? scheme ((cs.dropWhile (· ≠ ':')).drop 1)
  return ⟨String.ofList (scheme ++ ':' :: rest)⟩

instance : ToString Url := ⟨Url.text⟩

end Url

end Treasury
