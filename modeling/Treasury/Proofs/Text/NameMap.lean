import Mathlib.Tactic.Tauto
import Treasury.Text.NameMap

/-!
# Looking up names

As the entries are in order of their names, no name stands twice (`nodup_names`), and what is found
under a name is all that stands there. The map of entries of which no two have one name has just
these entries (`mem_ofList`), so a map is known by its entries (`ofList_entries`).
-/

namespace Treasury.NameMap

variable {α : Type}

theorem lookup_eq_some_iff {entries : List (String × α)} (h : (entries.map (·.1)).Nodup)
    {name : String} {value : α} :
    entries.lookup name = some value ↔ (name, value) ∈ entries := by
  induction entries with
  | nil => simp
  | cons entry rest ih =>
    obtain ⟨hfirst, hrest⟩ := List.nodup_cons.1 h
    rw [List.lookup_cons, List.mem_cons]
    by_cases heq : name = entry.1
    · rw [beq_iff_eq.2 heq]
      constructor
      · intro hv
        exact .inl (Prod.ext heq (Option.some.inj hv).symm)
      · rintro (hv | hv)
        · rw [← hv]
        · exact absurd (List.mem_map.2 ⟨_, hv, heq⟩) hfirst
    · rw [beq_eq_false_iff_ne.2 heq]
      refine (ih hrest).trans ⟨.inr, fun hv => hv.resolve_left fun he => heq ?_⟩
      rw [← he]

/-- No name stands twice. -/
theorem nodup_names (m : NameMap α) : (m.entries.map (·.1)).Nodup :=
  List.pairwise_map.2 (m.sorted.imp fun hlt => String.ne_of_lt hlt)

theorem nodup_entries (m : NameMap α) : m.entries.Nodup :=
  m.sorted.imp fun hlt heq => String.ne_of_lt hlt (congrArg Prod.fst heq)

/-- **A name has one entry.** -/
theorem get?_eq_some_iff {m : NameMap α} {name : String} {value : α} :
    m.get? name = some value ↔ (name, value) ∈ m.entries :=
  lookup_eq_some_iff m.nodup_names

/-! ## Putting an entry in -/

theorem lookup_cons_eq (entry : String × α) (rest : List (String × α)) (name : String) :
    (entry :: rest).lookup name = if name = entry.1 then some entry.2 else rest.lookup name := by
  rw [List.lookup_cons]
  by_cases h : name = entry.1
  · rw [if_pos h, beq_iff_eq.2 h]
  · rw [if_neg h, beq_eq_false_iff_ne.2 h]

theorem lookup_insertEntry (name : String) (value : α) (entries : List (String × α))
    (other : String) : (insertEntry name value entries).lookup other =
      if other = name then some value else entries.lookup other := by
  induction entries with
  | nil => exact lookup_cons_eq ..
  | cons entry rest ih =>
    unfold insertEntry
    split
    · exact lookup_cons_eq ..
    · split
      · rename_i heq
        rw [lookup_cons_eq, lookup_cons_eq, ← heq]
        split <;> rfl
      · rename_i hne
        rw [lookup_cons_eq, lookup_cons_eq, ih]
        -- the entry in front has another name than the one that is put in behind it
        by_cases hname : other = name
        · rw [if_neg fun h => hne (hname ▸ h), if_pos hname, if_pos hname]
        · rw [if_neg hname, if_neg hname]

/-- **The entry that was put in is found, and all others are found as before.** -/
theorem get?_insert (m : NameMap α) (name : String) (value : α) (other : String) :
    (m.insert name value).get? other = if other = name then some value else m.get? other :=
  lookup_insertEntry ..

/-! ## The map of a list -/

theorem mem_insertEntry {name : String} {value : α} {entries : List (String × α)}
    {e : String × α} (hname : ∀ e ∈ entries, e.1 ≠ name) :
    e ∈ insertEntry name value entries ↔ e = (name, value) ∨ e ∈ entries := by
  induction entries with
  | nil => rw [insertEntry, List.mem_singleton, or_iff_left List.not_mem_nil]
  | cons entry rest ih =>
    rw [insertEntry]
    split
    · exact List.mem_cons
    · rw [if_neg (hname entry List.mem_cons_self).symm, List.mem_cons,
        ih fun e he => hname e (List.mem_cons_of_mem _ he), List.mem_cons]
      exact or_left_comm

theorem mem_foldl_insert {entries : List (String × α)} (h : (entries.map (·.1)).Nodup)
    {m : NameMap α} (hm : ∀ e ∈ entries, ∀ e' ∈ m.entries, e'.1 ≠ e.1) {e : String × α} :
    e ∈ (entries.foldl (fun m entry => m.insert entry.1 entry.2) m).entries ↔
      e ∈ entries ∨ e ∈ m.entries := by
  induction entries generalizing m with
  | nil => simp
  | cons entry rest ih =>
    obtain ⟨hfresh, hrest⟩ := List.nodup_cons.1 h
    have hmem : ∀ {e'}, e' ∈ (m.insert entry.1 entry.2).entries ↔ e' = entry ∨ e' ∈ m.entries :=
      mem_insertEntry (hm entry List.mem_cons_self)
    rw [List.foldl_cons, ih hrest, hmem, List.mem_cons]
    · tauto
    · -- the entry that was put in has a name of its own
      intro e he e' he'
      rcases hmem.1 he' with rfl | he'
      · exact fun heq => hfresh (List.mem_map.2 ⟨e, he, heq.symm⟩)
      · exact hm e (List.mem_cons_of_mem _ he) e' he'

theorem mem_of_mem_insertEntry {name : String} {value : α} {entries : List (String × α)}
    {e : String × α} (h : e ∈ insertEntry name value entries) :
    e = (name, value) ∨ e ∈ entries := by
  induction entries with
  | nil => exact .inl (List.mem_singleton.mp h)
  | cons entry rest ih =>
    rw [insertEntry] at h
    split at h
    · exact List.mem_cons.mp h
    · split at h
      · exact (List.mem_cons.mp h).imp_right (List.mem_cons_of_mem _)
      · rcases List.mem_cons.mp h with rfl | h
        · exact .inr List.mem_cons_self
        · exact (ih h).imp_right (List.mem_cons_of_mem _)

/-- Nothing is in a map that was not in its list. -/
theorem mem_of_mem_ofList {entries : List (String × α)} {e : String × α}
    (h : e ∈ (ofList entries).entries) : e ∈ entries := by
  have hfold : ∀ (entries : List (String × α)) (m : NameMap α),
      e ∈ (entries.foldl (fun m entry => m.insert entry.1 entry.2) m).entries →
        e ∈ entries ∨ e ∈ m.entries := by
    intro entries
    induction entries with
    | nil => exact fun _ => .inr
    | cons entry rest ih =>
      intro m he
      rcases ih _ he with he | he
      · exact .inl (List.mem_cons_of_mem _ he)
      · rcases mem_of_mem_insertEntry he with rfl | he
        · exact .inl List.mem_cons_self
        · exact .inr he
  exact (hfold entries empty h).resolve_right List.not_mem_nil

/-- **If no two entries have one name, all of them are kept.** -/
theorem mem_ofList {entries : List (String × α)} (h : (entries.map (·.1)).Nodup)
    {e : String × α} : e ∈ (ofList entries).entries ↔ e ∈ entries := by
  have hmem := mem_foldl_insert h (m := empty) (fun _ _ _ he => absurd he List.not_mem_nil) (e := e)
  exact hmem.trans (or_iff_left List.not_mem_nil)

/-- **A map is the map of its entries.** -/
theorem ofList_entries (m : NameMap α) : (ofList m.entries).entries = m.entries := by
  have hperm : (ofList m.entries).entries.Perm m.entries :=
    (List.perm_ext_iff_of_nodup (nodup_entries _) m.nodup_entries).2
      fun _ => mem_ofList m.nodup_names
  exact hperm.eq_of_pairwise (fun a b _ _ hab hba => absurd hab (String.lt_asymm hba))
    (ofList m.entries).sorted m.sorted

theorem ofList_eq (m : NameMap α) : ofList m.entries = m := by
  have hentries := ofList_entries m
  generalize ofList m.entries = made at hentries
  obtain ⟨_, _⟩ := made
  obtain ⟨_, _⟩ := m
  cases hentries
  rfl

/-! ## Other values -/

/-- The map with other values under its names. -/
def mapValues {β : Type} (f : α → β) (m : NameMap α) : NameMap β where
  entries := m.entries.map fun entry => (entry.1, f entry.2)
  sorted := List.pairwise_map.2 m.sorted

theorem mapValues_mapValues {β γ : Type} (f : α → β) (g : β → γ) (m : NameMap α) :
    (m.mapValues f).mapValues g = m.mapValues fun value => g (f value) := by
  unfold mapValues
  simp only [List.map_map]
  rfl

theorem get?_mapValues {β : Type} (f : α → β) (m : NameMap α) (name : String) :
    (m.mapValues f).get? name = (m.get? name).map f := by
  unfold get? mapValues
  dsimp only
  induction m.entries with
  | nil => rfl
  | cons entry rest ih =>
    rw [List.map_cons, List.lookup_cons, List.lookup_cons]
    cases name == entry.1 with
    | true => rfl
    | false => exact ih

theorem find?_mapValues {β : Type} (f : α → β) (m : NameMap α) (p : String → Bool) :
    (m.mapValues f).find? (fun entry => p entry.1) =
      (m.find? fun entry => p entry.1).map fun entry => (entry.1, f entry.2) :=
  List.find?_map

end Treasury.NameMap
