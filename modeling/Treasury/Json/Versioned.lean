import Treasury.Json.Read

/-!
# Versioned records

A record that is stored for long carries its version beside its fields, so that records of
several versions can be told apart: `version` is one of the members of an object, or the
first item of an array. The version is looked at before the fields.
-/

namespace Treasury.Json

/-- Why a text is not a versioned record. -/
inductive ReadError where
  /-- The text is no document. -/
  | misprint (misprint : Misprint)
  /-- The version does not match; the offset is where that was found out. -/
  | version (mismatch : Mismatch) (offset : Nat)
  /-- The fields do not match. -/
  | content (mismatch : Mismatch)
  deriving DecidableEq, Repr

/-- The sentence for an error in `text`. -/
def ReadError.message (e : ReadError) (text : String) : String :=
  match e with
  | misprint m => m.message text
  | version m offset => withPlace m.message text offset
  | content m => m.message

/-- Where a reader has got to when it has looked at a token: behind it, or in front of a
bracket. -/
def readUpTo (t : Located) : Nat :=
  match t.token with
  | .openArray | .openObject => t.start
  | _ => t.stop

/-- A place in a text where a version stands. -/
structure VersionPlace where
  /-- The first token of the version. -/
  token : Located
  /-- Where the colon in front of it stands, in an object. -/
  colon : Option Nat

/-- The places of values that stand under `name` in an object or in the first place of an array,
at the given depth of nesting. -/
def placesUnder (name : String) : Nat → List Located → List VersionPlace
  | depth, ⟨.openArray, _, _⟩ :: t :: rest =>
    if depth = 0 then [⟨t, none⟩] else placesUnder name (depth + 1) (t :: rest)
  | depth, ⟨.openObject, _, _⟩ :: rest => placesUnder name (depth + 1) rest
  | depth, ⟨.closeArray, _, _⟩ :: rest => placesUnder name (depth - 1) rest
  | depth, ⟨.closeObject, _, _⟩ :: rest => placesUnder name (depth - 1) rest
  | depth, ⟨.text s, _, _⟩ :: ⟨.colon, colon, _⟩ :: t :: rest =>
    if depth = 1 ∧ s = name then ⟨t, some colon⟩ :: placesUnder name depth (t :: rest)
    else placesUnder name depth (t :: rest)
  | depth, _ :: rest => placesUnder name depth rest
  | _, [] => []

/-- The value that starts with a token, as far as the token tells. -/
def valueAt? : Token → Option Json
  | .scalar value => some value
  | .text s => some (.text s)
  | .openArray => some (.array [])
  | .openObject => some (.object [])
  | _ => none

/-- How far a text has been read when its last token is. -/
def endOf (ts : List Located) : Nat :=
  match ts.getLast? with
  | some t => t.stop
  | none => 0

/-- The name of a version. -/
def versionName (known : String) : Json → Except Mismatch Unit
  | .text name =>
    if name = known then .ok () else .error (.unknownVariant name known)
  | other => .error (.wrongType other.kind "variant identifier")

/-- What is wrong with the versions that stand in front of `limit`: the first has the wrong name, or
there is a second one. -/
def versionFault? (known : String) (limit : Nat) : List VersionPlace → Option ReadError
  | [] => none
  | first :: rest =>
    if limit ≤ first.token.start then none
    else
      (valueAt? first.token.token).bind fun value =>
        match versionName known value, rest with
        | .error m, _ => some (.version m (readUpTo first.token))
        | .ok (), ⟨_, some colon⟩ :: _ =>
          if colon < limit then some (.version (.duplicate "version") colon) else none
        | .ok (), _ => none

/-- Splits a document into what stands for the version and the fields. -/
def splitVersion (title : String) : Json → Except Mismatch (Json × Json)
  | .object members =>
    match members.filter (·.1 = "version") with
    | [] => .error (.missing "version")
    | [(_, version)] => .ok (version, .object (members.filter (·.1 ≠ "version")))
    | _ => .error (.duplicate "version")
  | .array [] => .error (.missing "version")
  | .array (version :: fields) => .ok (version, .array fields)
  | other => .error (.wrongType other.kind ("internally tagged enum " ++ title))

/-- Reads a document, which has been read up to `stop`, as a record of the one version `known`. -/
def readDocument {α : Type} (title known : String) (read : Reader α) (places : List VersionPlace)
    (stop : Nat) (document : Json) : Except ReadError α :=
  let fault (m : Mismatch) : ReadError :=
    (versionFault? known stop places).getD (.version m stop)
  match splitVersion title document with
  | .error m => .error (fault m)
  | .ok (version, fields) =>
    match versionName known version with
    | .error m => .error (fault m)
    | .ok () =>
      match read fields with
      | .error m => .error (.content m)
      | .ok value => .ok value

/-- Reads a text as a record of the one version `known`. A misprint shows only if nothing is wrong
with what stands in front of it. -/
def readVersioned {α : Type} (title known : String) (read : Reader α) (text : String) :
    Except ReadError α :=
  let places := placesUnder "version" 0 (tokens text)
  match parse text with
  | .ok document => readDocument title known read places (endOf (tokens text)) document
  | .error m =>
    let before := (tokens text).takeWhile fun t => t.start + 1 < m.offset
    match m.fault, (Parser.atValue []).run text.utf8ByteSize before with
    | .trailingCharacters, .ok document =>
      match readDocument title known read places (endOf before) document with
      | .error e => .error e
      | .ok _ => .error (.misprint m)
    | _, _ => .error ((versionFault? known m.offset places).getD (.misprint m))

end Treasury.Json
