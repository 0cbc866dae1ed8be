import Treasury.Json.Read
import Treasury.Proofs.Except
import Treasury.Proofs.Json.Parse
import Treasury.Proofs.Text.NameMap

/-!
# Records that are read back

What a document has in its one form: the members that it had, in another order. So a record whose
fields are each known by a name of its own is read from the one form as from the document
(`required_object`, `required_record`), and the one form of a plain document is plain (`plain_sorted`).
-/

namespace Treasury.Json

theorem sortedItems_eq_map (items : List Json) : sortedItems items = items.map sorted := by
  induction items with
  | nil => rfl
  | cons item rest ih => rw [sortedItems, ih, List.map_cons]

theorem sortedMembers_eq_map (members : List (String × Json)) :
    sortedMembers members = members.map fun member => (member.1, member.2.sorted) := by
  induction members with
  | nil => rfl
  | cons member rest ih => rw [sortedMembers, ih, List.map_cons]

/-! ## Records -/

theorem firstRepeated?_eq_none {names : List String} (h : names.Nodup) :
    firstRepeated? names = none := by
  induction names with
  | nil => rfl
  | cons name rest ih =>
    obtain ⟨hname, hrest⟩ := List.nodup_cons.1 h
    rw [firstRepeated?, if_neg (by simpa using hname)]
    exact ih hrest

/-- **The fields of a record are found in the object.** -/
theorem required_object (title : String) (names : List String) {members : List (String × Json)}
    (h : (members.map (·.1)).Nodup) :
    ∃ r, record title names (object members) = .ok r
      ∧ ∀ {α : Type} (read : Reader α) {name : String} {value : Json}, name ∈ names →
        (name, value) ∈ members → r.required name read = read value := by
  have hknown : ((members.filter fun member => names.contains member.1).map (·.1)).Nodup :=
    h.sublist (List.filter_sublist.map _)
  rw [record, firstRepeated?_eq_none hknown]
  refine ⟨_, rfl, fun read name value hname hmem => ?_⟩
  unfold Record.required
  rw [(NameMap.lookup_eq_some_iff hknown).2
    (List.mem_filter.2 ⟨hmem, List.contains_iff_mem.2 hname⟩)]

/-- **They are found in the one form of the object, too.** -/
theorem required_record (title : String) (names : List String) {members : List (String × Json)}
    (h : (members.map (·.1)).Nodup) :
    ∃ r, record title names (object members).sorted = .ok r
      ∧ ∀ {α : Type} (read : Reader α) {name : String} {value : Json}, name ∈ names →
        (name, value) ∈ members → r.required name read = read value.sorted := by
  have hsorted : ((sortedMembers members).map (·.1)).Nodup := by
    rwa [sortedMembers_eq_map, List.map_map]
  obtain ⟨r, hr, hfield⟩ :=
    required_object title names (NameMap.ofList (sortedMembers members)).nodup_names
  refine ⟨r, hr, fun read name value hname hmem => hfield read hname ?_⟩
  rw [NameMap.mem_ofList hsorted, sortedMembers_eq_map]
  exact List.mem_map_of_mem hmem

/-- An object with none but known fields is the record of its members. -/
theorem record_object (title : String) {names : List String} {members : List (String × Json)}
    (hknown : ∀ member ∈ members, member.1 ∈ names) (h : (members.map (·.1)).Nodup) :
    record title names (object members) = .ok ⟨title, members, names.length, false⟩ := by
  have hall : members.filter (fun member => names.contains member.1) = members :=
    List.filter_eq_self.2 fun member hmember => List.contains_iff_mem.2 (hknown member hmember)
  rw [record, hall, firstRepeated?_eq_none h]

/-! ## Lists and maps -/

variable {α β : Type} {read : Reader α} {write : β → Json} {f : β → α}

/-- What is read back one by one is read back as a list. -/
theorem read_list (h : ∀ b, read (write b) = .ok (f b)) (bs : List β) :
    Reader.list read (array (bs.map write)) = .ok (bs.map f) := by
  refine mapM_eq_ok.2 ?_
  rw [List.forall₂_map_left_iff, List.forall₂_map_right_iff, List.forall₂_same]
  exact fun b _ => h b

/-- What is read back one by one is read back as a map. -/
theorem read_map (h : ∀ b, read (write b) = .ok (f b)) (m : NameMap β) :
    Reader.map read (object (m.entries.map fun entry => (entry.1, write entry.2))) =
      .ok (m.mapValues f) := by
  have hentries : (m.entries.map fun entry => (entry.1, write entry.2)).mapM
      (fun member => (read member.2).map fun value => (member.1, value)) =
        .ok (m.mapValues f).entries := by
    refine mapM_eq_ok.2 ?_
    unfold NameMap.mapValues
    rw [List.forall₂_map_left_iff, List.forall₂_map_right_iff, List.forall₂_same]
    intro entry _
    rw [h]
    rfl
  unfold Reader.map
  dsimp only
  rw [hentries]
  exact congrArg Except.ok (NameMap.ofList_eq _)

/-! ## Plain documents -/

mutual

/-- **The one form of a plain document is plain.** -/
theorem plain_sorted (document : Json) {room : Nat} (h : document.Plain room) :
    document.sorted.Plain room := by
  cases document with
  | null => trivial
  | bool => trivial
  | int => exact h
  | real => exact h
  | text => trivial
  | array items =>
    cases room with
    | zero => exact h
    | succ room => exact plainItems_sorted items h
  | object members =>
    cases room with
    | zero => exact h
    | succ room =>
      exact plainMembers_iff.2 fun member hmember =>
        plainMembers_sorted members h member (NameMap.mem_of_mem_ofList hmember)

theorem plainItems_sorted (items : List Json) {room : Nat} (h : PlainItems room items) :
    PlainItems room (sortedItems items) := by
  cases items with
  | nil => trivial
  | cons item rest => exact ⟨plain_sorted item h.1, plainItems_sorted rest h.2⟩

theorem plainMembers_sorted (members : List (String × Json)) {room : Nat}
    (h : PlainMembers room members) : ∀ member ∈ sortedMembers members, member.2.Plain room := by
  cases members with
  | nil => simp [sortedMembers]
  | cons member rest =>
    rw [sortedMembers, List.forall_mem_cons]
    exact ⟨plain_sorted member.2 h.1, plainMembers_sorted rest h.2⟩

end

/-! ## The one form -/

mutual

/-- **The one form of a document is its own one form.** -/
theorem sorted_sorted (document : Json) : document.sorted.sorted = document.sorted := by
  cases document with
  | null => rfl
  | bool => rfl
  | int => rfl
  | real => rfl
  | text => rfl
  | array items => rw [sorted, sorted, sortedItems_sortedItems]
  | object members =>
    have hsame : sortedMembers (NameMap.ofList (sortedMembers members)).entries =
        (NameMap.ofList (sortedMembers members)).entries := by
      rw [sortedMembers_eq_map, List.map_congr_left, List.map_id]
      intro member hmember
      exact Prod.ext rfl (sorted_of_mem_sortedMembers members member
        (NameMap.mem_of_mem_ofList hmember))
    rw [sorted, sorted, hsame, NameMap.ofList_entries]

theorem sortedItems_sortedItems (items : List Json) :
    sortedItems (sortedItems items) = sortedItems items := by
  cases items with
  | nil => rfl
  | cons item rest => rw [sortedItems, sortedItems, sorted_sorted, sortedItems_sortedItems]

theorem sorted_of_mem_sortedMembers (members : List (String × Json)) :
    ∀ member ∈ sortedMembers members, member.2.sorted = member.2 := by
  cases members with
  | nil => simp [sortedMembers]
  | cons member rest =>
    rw [sortedMembers, List.forall_mem_cons]
    exact ⟨sorted_sorted member.2, sorted_of_mem_sortedMembers rest⟩

end

end Treasury.Json
