import Treasury.Settings.Toml.Parse

/-!
# Whole numbers of settings documents

Every whole number of a document has sixty-four bits (`inRange_of_parse?`). Words are where
numbers come from (`inRange_of_word?`); everything else that a reader does only puts together and
takes apart what it has read before.
-/

namespace Treasury.Toml

/-- Every whole number in a value has sixty-four bits, one of them for its sign. -/
inductive InRange : Toml → Prop
  | text (s : String) : InRange (.text s)
  | integer {n : Int} (low : -0x8000000000000000 ≤ n) (high : n < 0x8000000000000000) :
    InRange (.integer n)
  | boolean (b : Bool) : InRange (.boolean b)
  | real (s : String) : InRange (.real s)
  | moment (s : String) : InRange (.moment s)
  | array (headed : Bool) {items : List Toml} (h : ∀ item ∈ items, InRange item) :
    InRange (.array headed items)
  | table (origin : Origin) {entries : Entries} (h : ∀ entry ∈ entries, InRange entry.2) :
    InRange (.table origin entries)

/-- All numbers in the entries of a table are in range. -/
def EntriesInRange (entries : Entries) : Prop := ∀ entry ∈ entries, entry.2.InRange

theorem entriesInRange_nil : EntriesInRange [] := fun _ h => absurd h List.not_mem_nil

theorem InRange.entries {origin : Origin} {entries : Entries}
    (h : (Toml.table origin entries).InRange) : EntriesInRange entries := by
  cases h with
  | table _ h => exact h

theorem InRange.items {headed : Bool} {items : List Toml} (h : (Toml.array headed items).InRange) :
    ∀ item ∈ items, item.InRange := by
  cases h with
  | array _ h => exact h

/-- The entries of the table that stands last in an array. -/
theorem InRange.lastEntries {headed : Bool} {items : List Toml} {origin : Origin} {sub : Entries}
    (h : (Toml.array headed items).InRange) (hlast : items.getLast? = some (.table origin sub)) :
    EntriesInRange sub :=
  (h.items _ (List.mem_of_getLast? hlast)).entries

theorem InRange.integer_lt {n : Int} (h : (Toml.integer n).InRange) : n < 0x8000000000000000 := by
  cases h with
  | integer _ high => exact high

/-! ## Building tables -/

theorem inRange_of_lookup {entries : Entries} {key : String} {v : Toml} (h : EntriesInRange entries)
    (hv : entries.lookup key = some v) : v.InRange := by
  obtain ⟨before, after, rfl, -⟩ := List.lookup_eq_some_iff.1 hv
  exact h (key, v) (by simp)

theorem entriesInRange_concat {entries : Entries} {key : String} {v : Toml}
    (h : EntriesInRange entries) (hv : v.InRange) : EntriesInRange (entries ++ [(key, v)]) := by
  intro entry hentry
  rcases List.mem_append.mp hentry with hentry | hentry
  · exact h entry hentry
  · rw [List.mem_singleton.mp hentry]
    exact hv

theorem entriesInRange_put {entries : Entries} {key : String} {v : Toml}
    (h : EntriesInRange entries) (hv : v.InRange) : EntriesInRange (put key v entries) := by
  induction entries with
  | nil =>
    intro entry hentry
    rw [List.mem_singleton.mp hentry]
    exact hv
  | cons first rest ih =>
    have hrest : EntriesInRange rest := fun e he => h e (List.mem_cons_of_mem _ he)
    rw [put]
    split
    · exact List.forall_mem_cons.2 ⟨hv, hrest⟩
    · exact List.forall_mem_cons.2 ⟨h first List.mem_cons_self, ih hrest⟩

/-- The last table of an array is replaced by one that is in range too. -/
theorem inRange_dropLast_concat {items : List Toml} {v : Toml} (h : ∀ item ∈ items, item.InRange)
    (hv : v.InRange) : (Toml.array true (items.dropLast ++ [v])).InRange := by
  refine .array _ fun item hitem => ?_
  rcases List.mem_append.mp hitem with hitem | hitem
  · exact h item (List.dropLast_subset _ hitem)
  · rw [List.mem_singleton.mp hitem]
    exact hv

theorem entriesInRange_assignBelow {v : Toml} (hv : v.InRange) {growing : Bool}
    {path : List String} {entries result : Entries} (h : EntriesInRange entries)
    (hresult : assignBelow v growing path entries = some result) : EntriesInRange result := by
  -- along the path a name is new, has a table or has an array, whose last table is gone on with
  induction growing, path, entries using assignBelow.induct generalizing result with
  | case1 => exact absurd hresult (by simp [assignBelow])
  | case2 key entries hnone =>
    simp only [assignBelow, hnone, ↓reduceIte, Option.some.injEq] at hresult
    exact hresult ▸ entriesInRange_concat h hv
  | case3 growing key entries hnone hgrowing =>
    exact absurd hresult (by simp [assignBelow, hnone, hgrowing])
  | case4 growing key entries old hold => exact absurd hresult (by simp [assignBelow, hold])
  | case5 growing key path entries hpath hnone ih =>
    simp only [assignBelow, hnone, Option.map_eq_some_iff] at hresult
    obtain ⟨sub, hsub, rfl⟩ := hresult
    exact entriesInRange_concat h (.table _ (ih entriesInRange_nil hsub))
  | case6 growing key path entries hpath sub hold ih =>
    simp only [assignBelow, hold, Option.map_eq_some_iff] at hresult
    obtain ⟨new, hnew, rfl⟩ := hresult
    exact entriesInRange_put h (.table _ (ih (inRange_of_lookup h hold).entries hnew))
  | case7 growing key path entries hpath sub hold ih =>
    simp only [assignBelow, hold, Option.map_eq_some_iff] at hresult
    obtain ⟨new, hnew, rfl⟩ := hresult
    exact entriesInRange_put h (.table _ (ih (inRange_of_lookup h hold).entries hnew))
  | case8 growing key path entries hpath items hold origin sub hlast ih =>
    simp only [assignBelow, hold, hlast, Option.map_eq_some_iff] at hresult
    obtain ⟨new, hnew, rfl⟩ := hresult
    have harray := inRange_of_lookup h hold
    have hnew := ih (harray.lastEntries hlast) hnew
    exact entriesInRange_put h (inRange_dropLast_concat harray.items (.table _ hnew))
  | case9 growing key path entries hpath items hold hlast =>
    simp only [assignBelow, hold] at hresult
    exact absurd hresult (by simp)
  | case10 growing key path entries hpath old hdotted himplied harray hold =>
    simp only [assignBelow, hold] at hresult
    exact absurd hresult (by simp)

/-- A change keeps values in range, one that is new included. -/
def KeepsRange (change : Option Toml → Option Toml) : Prop :=
  ∀ old new, (∀ v, old = some v → v.InRange) → change old = some new → new.InRange

theorem keepsRange_openTable : KeepsRange openTable := by
  intro old new hold hnew
  unfold openTable at hnew
  split at hnew
  · cases hnew
    exact .table _ entriesInRange_nil
  · cases hnew
    exact .table _ (hold _ rfl).entries
  · exact absurd hnew (by simp)

theorem keepsRange_openItem : KeepsRange openItem := by
  have hempty : (Toml.table .header []).InRange := .table _ entriesInRange_nil
  intro old new hold hnew
  unfold openItem at hnew
  split at hnew
  · cases hnew
    exact .array _ (List.forall_mem_singleton.2 hempty)
  · cases hnew
    exact .array _ (List.forall_mem_append.2
      ⟨(hold _ rfl).items, List.forall_mem_singleton.2 hempty⟩)
  · exact absurd hnew (by simp)

theorem keepsRange_inOpened {change : Entries → Option Entries}
    (h : ∀ entries result, EntriesInRange entries → change entries = some result →
      EntriesInRange result) : KeepsRange (inOpened change) := by
  intro old new hold hnew
  unfold inOpened at hnew
  split at hnew
  · obtain ⟨sub, hsub, rfl⟩ := Option.map_eq_some_iff.1 hnew
    exact .table _ (h _ _ (hold _ rfl).entries hsub)
  · split at hnew
    · rename_i hlast
      obtain ⟨sub, hsub, rfl⟩ := Option.map_eq_some_iff.1 hnew
      have harray := hold _ rfl
      have hnew := h _ _ (harray.lastEntries hlast) hsub
      exact inRange_dropLast_concat harray.items (.table _ hnew)
    · exact absurd hnew (by simp)
  · exact absurd hnew (by simp)

theorem entriesInRange_atHeader {change : Option Toml → Option Toml} (hchange : KeepsRange change)
    {path : List String} {entries result : Entries} (h : EntriesInRange entries)
    (hresult : atHeader change path entries = some result) : EntriesInRange result := by
  -- the same walk, but at its end is the change instead of a value
  induction path, entries using atHeader.induct generalizing result with
  | case1 => exact absurd hresult (by simp [atHeader])
  | case2 key entries =>
    obtain ⟨v, hv, rfl⟩ := Option.map_eq_some_iff.1 hresult
    exact entriesInRange_put h (hchange _ _ (fun _ => inRange_of_lookup h) hv)
  | case3 key path entries hpath hnone ih =>
    simp only [atHeader, hnone, Option.map_eq_some_iff] at hresult
    obtain ⟨sub, hsub, rfl⟩ := hresult
    exact entriesInRange_concat h (.table _ (ih entriesInRange_nil hsub))
  | case4 key path entries hpath sub hold => exact absurd hresult (by simp [atHeader, hold])
  | case5 key path entries hpath origin sub hold horigin ih =>
    simp only [atHeader, hold, if_neg horigin, Option.map_eq_some_iff] at hresult
    obtain ⟨new, hnew, rfl⟩ := hresult
    exact entriesInRange_put h (.table _ (ih (inRange_of_lookup h hold).entries hnew))
  | case6 key path entries hpath items hold origin sub hlast ih =>
    simp only [atHeader, hold, hlast, Option.map_eq_some_iff] at hresult
    obtain ⟨new, hnew, rfl⟩ := hresult
    have harray := inRange_of_lookup h hold
    have hnew := ih (harray.lastEntries hlast) hnew
    exact entriesInRange_put h (inRange_dropLast_concat harray.items (.table _ hnew))
  | case7 key path entries hpath items hold hlast =>
    simp only [atHeader, hold] at hresult
    exact absurd hresult (by simp)
  | case8 key path entries hpath old htable harray hold =>
    simp only [atHeader, hold] at hresult
    exact absurd hresult (by simp)

/-! ## Reading values -/

theorem inRange_of_word? {cs : List Char} {v : Toml} (h : word? cs = some v) : v.InRange := by
  unfold word? at h
  split at h
  · cases h
    exact .boolean _
  split at h
  · cases h
    exact .boolean _
  split at h
  · cases h
    exact .real _
  split at h
  · cases h
    exact .moment _
  · obtain ⟨n, -, h⟩ := Option.bind_eq_some_iff.1 h
    split at h
    · rename_i hrange
      cases h
      exact .integer hrange.1 hrange.2
    · exact absurd h (by simp)

theorem inRange_of_scalar? {cs rest : List Char} {v : Toml} (h : scalar? cs = some (v, rest)) :
    v.InRange := by
  unfold scalar? at h
  dsimp only at h
  split at h
  · split at h
    · cases h
      exact .moment _
    · exact absurd h (by simp)
  · obtain ⟨word, hword, h⟩ := Option.map_eq_some_iff.1 h
    cases h
    exact inRange_of_word? hword

/-- What the three readers of values keep in range with a given fuel. -/
structure ReadsInRange (fuel : Nat) : Prop where
  value : ∀ {room cs v rest}, Toml.value fuel room cs = some (v, rest) → v.InRange
  items : ∀ {room cs vs rest}, Toml.items fuel room cs = some (vs, rest) → ∀ v ∈ vs, v.InRange
  members : ∀ {room entries cs result rest}, EntriesInRange entries →
    Toml.members fuel room entries cs = some (result, rest) → EntriesInRange result

theorem inRange_value_succ {fuel : Nat} (ih : ReadsInRange fuel) {room : Nat} {cs rest : List Char}
    {v : Toml} (h : value (fuel + 1) room cs = some (v, rest)) : v.InRange := by
  have htext : ∀ scanned : Scanned, (scanned.map fun s => (Toml.text s.1, s.2)) = some (v, rest) →
      v.InRange := by
    intro scanned h
    obtain ⟨s, -, h⟩ := Option.map_eq_some_iff.1 h
    cases h
    exact .text _
  unfold value at h
  split at h
  · exact htext _ h
  · exact htext _ h
  · exact htext _ h
  · exact htext _ h
  · split at h
    · exact absurd h (by simp)
    · obtain ⟨s, hs, h⟩ := Option.map_eq_some_iff.1 h
      cases h
      exact .array _ (ih.items hs)
  · split at h
    · exact absurd h (by simp)
    · split at h
      · cases h
        exact .table _ entriesInRange_nil
      · obtain ⟨s, hs, h⟩ := Option.map_eq_some_iff.1 h
        cases h
        exact .table _ (ih.members entriesInRange_nil hs)
  · exact inRange_of_scalar? h

theorem inRange_items_succ {fuel : Nat} (ih : ReadsInRange fuel) {room : Nat} {cs rest : List Char}
    {vs : List Toml} (h : items (fuel + 1) room cs = some (vs, rest)) : ∀ v ∈ vs, v.InRange := by
  unfold items at h
  split at h
  · cases h
    exact fun _ h => absurd h List.not_mem_nil
  · obtain ⟨⟨item, rest'⟩, hitem, h⟩ := Option.bind_eq_some_iff.1 h
    dsimp only at h
    split at h
    · cases h
      exact List.forall_mem_singleton.2 (ih.value hitem)
    · obtain ⟨⟨others, rest''⟩, hothers, h⟩ := Option.bind_eq_some_iff.1 h
      cases h
      exact List.forall_mem_cons.2 ⟨ih.value hitem, ih.items hothers⟩
    · exact absurd h (by simp)

theorem inRange_members_succ {fuel : Nat} (ih : ReadsInRange fuel) {room : Nat}
    {entries result : Entries} {cs rest : List Char} (hentries : EntriesInRange entries)
    (h : members (fuel + 1) room entries cs = some (result, rest)) : EntriesInRange result := by
  unfold members at h
  obtain ⟨⟨path, rest'⟩, -, h⟩ := Option.bind_eq_some_iff.1 h
  dsimp only at h
  split at h
  · obtain ⟨⟨v, rest''⟩, hv, h⟩ := Option.bind_eq_some_iff.1 h
    obtain ⟨more, hmore, h⟩ := Option.bind_eq_some_iff.1 h
    have hmore := entriesInRange_assignBelow (ih.value hv) hentries hmore
    split at h
    · cases h
      exact hmore
    · exact ih.members hmore h
    · exact absurd h (by simp)
  · exact absurd h (by simp)

theorem readsInRange (fuel : Nat) : ReadsInRange fuel := by
  -- the readers call each other, each time with less fuel, so they are kept together
  induction fuel with
  | zero =>
    refine ⟨fun h => ?_, fun h => ?_, fun _ h => ?_⟩
    · exact absurd h (by simp [value])
    · exact absurd h (by simp [items])
    · exact absurd h (by simp [members])
  | succ fuel ih =>
    exact ⟨inRange_value_succ ih, inRange_items_succ ih, inRange_members_succ ih⟩

/-! ## Reading documents -/

theorem inRange_assign {d next : Document} {path : List String} {v : Toml} (hv : v.InRange)
    (h : EntriesInRange d.entries) (hnext : d.assign path v = some next) :
    EntriesInRange next.entries := by
  unfold Document.assign at hnext
  split at hnext
  · obtain ⟨entries, hentries, rfl⟩ := Option.map_eq_some_iff.1 hnext
    exact entriesInRange_assignBelow hv h hentries
  · obtain ⟨entries, hentries, rfl⟩ := Option.map_eq_some_iff.1 hnext
    exact entriesInRange_atHeader
      (keepsRange_inOpened fun _ _ => entriesInRange_assignBelow hv) h hentries

theorem inRange_enter {d next : Document} {change : Option Toml → Option Toml}
    {path : List String} (hchange : KeepsRange change) (h : EntriesInRange d.entries)
    (hnext : d.enter change path = some next) : EntriesInRange next.entries := by
  obtain ⟨entries, hentries, rfl⟩ := Option.map_eq_some_iff.1 hnext
  exact entriesInRange_atHeader hchange h hentries

theorem inRange_line {d next : Document} {fuel : Nat} {cs rest : List Char}
    (h : EntriesInRange d.entries) (hnext : d.line fuel cs = some (next, rest)) :
    EntriesInRange next.entries := by
  unfold Document.line at hnext
  split at hnext
  · obtain ⟨⟨path, rest'⟩, -, hnext⟩ := Option.bind_eq_some_iff.1 hnext
    dsimp only at hnext
    split at hnext
    · obtain ⟨entered, hentered, hnext⟩ := Option.bind_eq_some_iff.1 hnext
      obtain ⟨_, -, hnext⟩ := Option.bind_eq_some_iff.1 hnext
      cases hnext
      exact inRange_enter keepsRange_openItem h hentered
    · exact absurd hnext (by simp)
  · obtain ⟨⟨path, rest'⟩, -, hnext⟩ := Option.bind_eq_some_iff.1 hnext
    dsimp only at hnext
    split at hnext
    · obtain ⟨entered, hentered, hnext⟩ := Option.bind_eq_some_iff.1 hnext
      obtain ⟨_, -, hnext⟩ := Option.bind_eq_some_iff.1 hnext
      cases hnext
      exact inRange_enter keepsRange_openTable h hentered
    · exact absurd hnext (by simp)
  · obtain ⟨⟨path, rest'⟩, -, hnext⟩ := Option.bind_eq_some_iff.1 hnext
    dsimp only at hnext
    split at hnext
    · obtain ⟨⟨v, rest''⟩, hv, hnext⟩ := Option.bind_eq_some_iff.1 hnext
      obtain ⟨assigned, hassigned, hnext⟩ := Option.bind_eq_some_iff.1 hnext
      obtain ⟨_, -, hnext⟩ := Option.bind_eq_some_iff.1 hnext
      cases hnext
      exact inRange_assign ((readsInRange fuel).value hv) h hassigned
    · exact absurd hnext (by simp)

theorem inRange_lines {d last : Document} {fuel : Nat} {cs : List Char}
    (h : EntriesInRange d.entries) (hlast : d.lines fuel cs = some last) :
    EntriesInRange last.entries := by
  induction fuel generalizing d cs with
  | zero => exact absurd hlast (by simp [Document.lines])
  | succ fuel ih =>
    unfold Document.lines at hlast
    split at hlast
    · cases hlast
      exact h
    · split at hlast
      · rename_i next rest hline
        exact ih (inRange_line h hline) hlast
      · exact absurd hlast (by simp)

/-- **No document says a number of more than sixty-four bits.** -/
theorem inRange_of_parse? {text : String} {entries : Entries} (h : parse? text = some entries) :
    EntriesInRange entries := by
  obtain ⟨d, hd, rfl⟩ := Option.map_eq_some_iff.1 h
  exact inRange_lines entriesInRange_nil hd

end Treasury.Toml
