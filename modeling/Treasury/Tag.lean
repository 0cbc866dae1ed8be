/-!
# Tags

States and kinds are stored and exchanged as short words. A word that stands for nothing is
an `UnknownTag`.
-/

namespace Treasury

/-- A word that is no tag of its kind. -/
structure UnknownTag where
  kind : String
  value : String
  deriving DecidableEq, Repr

/-- The sentence shown for an error. -/
def UnknownTag.message (e : UnknownTag) : String := s!"Unknown {e.kind}: {e.value}"

/-- The value among `all` whose tag is `value`. -/
def findTag {α : Type} (kind : String) (tag : α → String) (all : List α) (value : String) :
    Except UnknownTag α :=
  match all.find? fun a => tag a = value with
  | some a => .ok a
  | none => .error ⟨kind, value⟩

end Treasury
