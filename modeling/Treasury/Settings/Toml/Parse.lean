import Treasury.Settings.Toml.Scalar

/-!
# Reading settings documents

`Toml.parse?` reads a document line by line: headers of tables, and keys with their values.
-/

namespace Treasury.Toml

/-- Arrays and tables in braces stand at most this deep inside each other. -/
def maxDepth : Nat := 79

mutual

/-- A value. Arrays and tables in braces may stand inside it `room` deep; `fuel` bounds the
number of parts. -/
def value : Nat → Nat → List Char → Option (Toml × List Char)
  | 0, _, _ => none
  | fuel + 1, room, cs =>
    match cs with
    | '\x22' :: '\x22' :: '\x22' :: rest =>
      (multiBasic .keep [] (dropFirstBreak rest)).map fun s => (.text s.1, s.2)
    | '\x22' :: rest => (basic [] rest).map fun s => (.text s.1, s.2)
    | '\x27' :: '\x27' :: '\x27' :: rest =>
      (multiLiteral [] (dropFirstBreak rest)).map fun s => (.text s.1, s.2)
    | '\x27' :: rest => (literal [] rest).map fun s => (.text s.1, s.2)
    | '[' :: rest =>
      match room with
      | 0 => none
      | room + 1 =>
        (items fuel room (skipLines false rest)).map fun s => (.array false s.1, s.2)
    | '\x7b' :: rest =>
      match room with
      | 0 => none
      | room + 1 =>
        match skipBlanks rest with
        | '\x7d' :: rest => some (.table .inline [], rest)
        | rest => (members fuel room [] rest).map fun s => (.table .inline s.1, s.2)
    | _ => scalar? cs

/-- The items of an array up to its end. -/
def items : Nat → Nat → List Char → Option (List Toml × List Char)
  | 0, _, _ => none
  | fuel + 1, room, cs =>
    match cs with
    | ']' :: rest => some ([], rest)
    | _ => do
      let (item, rest) ← value fuel room cs
      match skipLines false rest with
      | ']' :: rest => return ([item], rest)
      | ',' :: rest =>
        let (others, rest) ← items fuel room (skipLines false rest)
        return (item :: others, rest)
      | _ => none

/-- The members of a table in braces up to its end. -/
def members : Nat → Nat → Entries → List Char → Option (Entries × List Char)
  | 0, _, _, _ => none
  | fuel + 1, room, entries, cs => do
    let (path, rest) ← key cs
    match rest with
    | '=' :: rest =>
      let (value, rest) ← value fuel room (skipBlanks rest)
      let entries ← assign value path entries
      match skipBlanks rest with
      | '\x7d' :: rest => return (entries, rest)
      | ',' :: rest => members fuel room entries rest
      | _ => none
    | _ => none

end

/-- A document as far as it has been read: its entries, and the header that lines stand
under. -/
structure Document where
  entries : Entries
  header : List String

/-- Sets a key under the current header. -/
def Document.assign (d : Document) (path : List String) (v : Toml) : Option Document :=
  if d.header.isEmpty then
    (Toml.assign v path d.entries).map fun entries => { d with entries := entries }
  else
    (atHeader (inOpened (Toml.assign v path)) d.header d.entries).map fun entries =>
      { d with entries := entries }

/-- Goes on under a new header. -/
def Document.enter (d : Document) (change : Option Toml → Option Toml) (path : List String) :
    Option Document :=
  (atHeader change path d.entries).map fun entries => ⟨entries, path⟩

/-- Reads one line that says something. -/
def Document.line (d : Document) (fuel : Nat) (cs : List Char) :
    Option (Document × List Char) := do
  match cs with
  | '[' :: '[' :: rest =>
    let (path, rest) ← key rest
    match rest with
    | ']' :: ']' :: rest => return (← d.enter openItem path, ← lineEnd? rest)
    | _ => none
  | '[' :: rest =>
    let (path, rest) ← key rest
    match rest with
    | ']' :: rest => return (← d.enter openTable path, ← lineEnd? rest)
    | _ => none
  | _ =>
    let (path, rest) ← key cs
    match rest with
    | '=' :: rest =>
      let (v, rest) ← value fuel maxDepth (skipBlanks rest)
      return (← d.assign path v, ← lineEnd? rest)
    | _ => none

/-- Reads all lines that are left; `fuel` bounds their number. -/
def Document.lines (d : Document) : Nat → List Char → Option Document
  | 0, _ => none
  | fuel + 1, cs =>
    match skipLines false cs with
    | [] => some d
    | rest =>
      match d.line (rest.length + 1) rest with
      | some (next, rest) => next.lines fuel rest
      | none => none

/-- Reads a document; a byte-order mark may stand in front. -/
def parse? (text : String) : Option Entries :=
  let cs := match text.toList with
    | '\uFEFF' :: rest => rest
    | cs => cs
  ((Document.mk [] []).lines (cs.length + 1) cs).map (·.entries)

end Treasury.Toml
