/-!
# Maps keyed by names

A map from names to values, held as the list of its entries in order of the names. Names are
ordered by their code points, which is also the order of their bytes. One map has one list,
so maps are equal when their entries are.
-/

namespace Treasury

theorem name_lt_of_not_lt {a b : String} (h : ¬a < b) (hne : a ≠ b) : b < a := by
  rcases String.le_total a b with hab | hba
  · exact absurd (String.le_antisymm hab (String.not_lt.1 h)) hne
  · exact String.not_le.1 fun hab => hne (String.le_antisymm hab hba)

/-- Entries in strictly increasing order of their names. -/
structure NameMap (α : Type) where
  entries : List (String × α)
  sorted : entries.Pairwise (fun a b => a.1 < b.1)
  deriving DecidableEq

namespace NameMap

variable {α : Type}

/-- No entries. -/
def empty : NameMap α := ⟨[], .nil⟩

instance : Inhabited (NameMap α) := ⟨empty⟩

/-- The value of the entry called `name`. -/
def get? (m : NameMap α) (name : String) : Option α := m.entries.lookup name

/-- True if an entry is called `name`. -/
def contains (m : NameMap α) (name : String) : Bool := (m.get? name).isSome

/-- Puts an entry in its place, in place of one of the same name. -/
def insertEntry (name : String) (value : α) : List (String × α) → List (String × α)
  | [] => [(name, value)]
  | entry :: rest =>
    if name < entry.1 then (name, value) :: entry :: rest
    else if name = entry.1 then (name, value) :: rest
    else entry :: insertEntry name value rest

theorem lt_of_mem_insertEntry {name bound : String} {value : α} {entries : List (String × α)}
    (hname : bound < name) (hrest : ∀ e ∈ entries, bound < e.1) :
    ∀ e ∈ insertEntry name value entries, bound < e.1 := by
  induction entries with
  | nil =>
    intro e he
    rw [insertEntry, List.mem_singleton] at he
    exact he ▸ hname
  | cons entry rest ih =>
    intro e he
    unfold insertEntry at he
    split at he
    · rcases List.mem_cons.1 he with rfl | he
      · exact hname
      · exact hrest e he
    · split at he
      · rcases List.mem_cons.1 he with rfl | he
        · exact hname
        · exact hrest e (List.mem_cons_of_mem _ he)
      · rcases List.mem_cons.1 he with rfl | he
        · exact hrest _ List.mem_cons_self
        · exact ih (fun e he => hrest e (List.mem_cons_of_mem _ he)) e he

theorem sorted_insertEntry {name : String} {value : α} {entries : List (String × α)}
    (h : entries.Pairwise (fun a b => a.1 < b.1)) :
    (insertEntry name value entries).Pairwise (fun a b => a.1 < b.1) := by
  induction entries with
  | nil => exact List.pairwise_singleton _ _
  | cons entry rest ih =>
    have hp := List.pairwise_cons.1 h
    unfold insertEntry
    split
    · rename_i hlt
      refine List.pairwise_cons.2 ⟨?_, h⟩
      intro e he
      rcases List.mem_cons.1 he with rfl | he
      · exact hlt
      · exact String.lt_trans hlt (hp.1 e he)
    · split
      · rename_i heq
        exact List.pairwise_cons.2 ⟨fun e he => by simpa [heq] using hp.1 e he, hp.2⟩
      · rename_i hnlt hne
        exact List.pairwise_cons.2
          ⟨lt_of_mem_insertEntry (name_lt_of_not_lt hnlt hne) hp.1, ih hp.2⟩

/-- The map with one entry put in, in place of one of the same name. -/
def insert (m : NameMap α) (name : String) (value : α) : NameMap α :=
  ⟨insertEntry name value m.entries, sorted_insertEntry m.sorted⟩

/-- The map of a list of entries; of two with one name the later stays. -/
def ofList (entries : List (String × α)) : NameMap α :=
  entries.foldl (fun m entry => m.insert entry.1 entry.2) empty

/-- The first entry, in order of the names, of which `p` holds. -/
def find? (m : NameMap α) (p : String × α → Bool) : Option (String × α) := m.entries.find? p

end NameMap

end Treasury
