/-!
# Settings documents

Settings are written in TOML. `Toml` holds what a document says. No setting takes a number
with a fraction or a date, so these are kept only as they are written.

Tables may be written piece by piece, but nothing may be said twice: `Toml.Origin` keeps how
a table came about, which decides what may still be added to it.
-/

namespace Treasury

/-- How a table came about. -/
inductive Toml.Origin where
  /-- Written out in braces; nothing can be added. -/
  | inline
  /-- As a step on the way to another table's header; it may still get one of its own. -/
  | implied
  /-- By a header of its own. -/
  | header
  /-- By a key with points; keys of that form may add to it. -/
  | dotted
  deriving DecidableEq, Repr

/-- A value of a settings document. -/
inductive Toml where
  | text (value : String)
  | integer (value : Int)
  | boolean (value : Bool)
  /-- A number with a fraction or an exponent, or none at all; as it is written. -/
  | real (value : String)
  /-- A date, a time or both; as they are written. -/
  | moment (value : String)
  /-- An array; `headed` if it is made of tables with headers of their own. -/
  | array (headed : Bool) (items : List Toml)
  | table (origin : Toml.Origin) (entries : List (String × Toml))
  deriving Repr

namespace Toml

/-- The entries of a table. -/
abbrev Entries := List (String × Toml)

/-! ## Building tables -/

/-- Puts a value in place of the entry `key`, or at the end. -/
def put (key : String) (value : Toml) : Entries → Entries
  | [] => [(key, value)]
  | entry :: rest =>
    if entry.1 = key then (key, value) :: rest else entry :: put key value rest

/-- Sets a key below a table to which such keys may add if `growing`. A key with points leads
through tables without headers of their own, and into the last table of an array. -/
def assignBelow (value : Toml) : Bool → List String → Entries → Option Entries
  | _, [], _ => none
  | growing, [key], entries =>
    match entries.lookup key with
    | none => if growing then some (entries ++ [(key, value)]) else none
    | some _ => none
  | _, key :: path, entries =>
    match entries.lookup key with
    | none =>
      (assignBelow value true path []).map fun sub => entries ++ [(key, .table .dotted sub)]
    | some (.table .dotted sub) =>
      (assignBelow value true path sub).map fun sub => put key (.table .dotted sub) entries
    | some (.table .implied sub) =>
      (assignBelow value false path sub).map fun sub => put key (.table .implied sub) entries
    | some (.array true items) =>
      match items.getLast? with
      | some (.table origin sub) =>
        (assignBelow value false path sub).map fun sub =>
          put key (.array true (items.dropLast ++ [.table origin sub])) entries
      | _ => none
    | some _ => none

/-- Sets a key, which may have points and must be new. With points it ends in a table that such
keys have made. -/
def assign (value : Toml) (path : List String) (entries : Entries) : Option Entries :=
  assignBelow value true path entries

/-- Follows a path of headers, making the tables that are missing, and changes what is at
its end. -/
def atHeader (change : Option Toml → Option Toml) : List String → Entries → Option Entries
  | [], _ => none
  | [key], entries => (change (entries.lookup key)).map fun value => put key value entries
  | key :: path, entries =>
    match entries.lookup key with
    | none => (atHeader change path []).map fun sub => entries ++ [(key, .table .implied sub)]
    | some (.table origin sub) =>
      if origin = .inline then none
      else (atHeader change path sub).map fun sub => put key (.table origin sub) entries
    | some (.array true items) =>
      match items.getLast? with
      | some (.table origin sub) =>
        (atHeader change path sub).map fun sub =>
          put key (.array true (items.dropLast ++ [.table origin sub])) entries
      | _ => none
    | some _ => none

/-- Opens a table by its header. -/
def openTable : Option Toml → Option Toml
  | none => some (.table .header [])
  | some (.table .implied sub) => some (.table .header sub)
  | some _ => none

/-- Opens one more table of an array by its header. -/
def openItem : Option Toml → Option Toml
  | none => some (.array true [.table .header []])
  | some (.array true items) => some (.array true (items ++ [.table .header []]))
  | some _ => none

/-- Changes the entries of the table that was opened last. -/
def inOpened (change : Entries → Option Entries) : Option Toml → Option Toml
  | some (.table origin sub) => (change sub).map (.table origin)
  | some (.array true items) =>
    match items.getLast? with
    | some (.table origin sub) =>
      (change sub).map fun sub => .array true (items.dropLast ++ [.table origin sub])
    | _ => none
  | _ => none

end Toml

end Treasury
