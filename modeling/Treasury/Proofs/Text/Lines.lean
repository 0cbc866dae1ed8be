import Treasury.Alert.Report

/-!
# Texts and their lines

A text is its lines with a line break between any two (`linesOf_injective`). So two texts are
compared line by line, once it is known which lines a text has that is put together from others:
`linesOf_break`, `linesOf_append` and `linesOf_ended` say so for what is written before a line
break, for a label in front of a text and for lines that are each ended.
-/

namespace Treasury.Text

/-- The lines of a text: what stands before, between and behind its line breaks. -/
def linesOf (text : String) : List String := (text.toList.splitOn '\n').map String.ofList

/-- The lines as a text in which each is ended. -/
def ended (lines : List String) : String := String.join (lines.map (· ++ "\n"))

/-- What stands before the first line break. -/
def firstLine (text : String) : String := (linesOf text).headD ""

/-- The lines behind the first. -/
def innerLines (text : String) : List String := (linesOf text).tail

theorem ofList_comp_toList : String.ofList ∘ String.toList = id :=
  funext fun _ => String.ofList_toList

theorem splitOn_eq (s : String) : s.toList.splitOn '\n' = (linesOf s).map String.toList := by
  have hid : String.toList ∘ String.ofList = id := funext fun _ => String.toList_ofList
  unfold linesOf
  rw [List.map_map, hid, List.map_id]

theorem linesOf_injective {a b : String} (h : linesOf a = linesOf b) : a = b := by
  have hsplit : a.toList.splitOn '\n' = b.toList.splitOn '\n' := by
    rw [splitOn_eq, splitOn_eq, h]
  have hjoin : ['\n'].intercalate (a.toList.splitOn '\n') =
      ['\n'].intercalate (b.toList.splitOn '\n') := congrArg _ hsplit
  rw [List.intercalate_splitOn, List.intercalate_splitOn] at hjoin
  exact String.toList_inj.1 hjoin

/-- What has no line break is one line. -/
theorem linesOf_of_not_mem {s : String} (h : '\n' ∉ s.toList) : linesOf s = [s] := by
  unfold linesOf
  rw [List.splitOn_eq_singleton h, List.map_singleton, String.ofList_toList]

/-- A line break ends a line and starts another. -/
theorem linesOf_break (a b : String) : linesOf (a ++ "\n" ++ b) = linesOf a ++ linesOf b := by
  have htext : (a ++ "\n" ++ b).toList = a.toList ++ '\n' :: b.toList := by
    rw [String.toList_append, String.toList_append, List.append_assoc]
    rfl
  unfold linesOf
  rw [htext, List.splitOn_append_cons_self, List.map_append]

theorem linesOf_eq_cons (s : String) : linesOf s = firstLine s :: innerLines s := by
  have hne : linesOf s ≠ [] := by
    unfold linesOf
    simp
  unfold firstLine innerLines
  cases h : linesOf s with
  | nil => exact absurd h hne
  | cons first rest => rfl

theorem break_not_mem_append {a b : String} (ha : '\n' ∉ a.toList) (hb : '\n' ∉ b.toList) :
    '\n' ∉ (a ++ b).toList := by
  rw [String.toList_append]
  intro h
  exact (List.mem_append.1 h).elim ha hb

theorem splitOn_append {cs : List Char} (h : '\n' ∉ cs) (ds : List Char) :
    (cs ++ ds).splitOn '\n' = (ds.splitOn '\n').modifyHead (cs ++ ·) := by
  induction cs with
  | nil =>
    rw [List.nil_append]
    cases ds.splitOn '\n' <;> rfl
  | cons c cs ih =>
    have hc : ¬(c == '\n') = true := fun heq => h (by rw [eq_of_beq heq]; exact List.mem_cons_self)
    rw [List.cons_append, List.splitOn_cons_eq_if_modifyHead, if_neg hc,
      ih fun hmem => h (List.mem_cons_of_mem _ hmem)]
    cases ds.splitOn '\n' <;> rfl

/-- A label stands in front of the first line. -/
theorem linesOf_append {label : String} (h : '\n' ∉ label.toList) (s : String) :
    linesOf (label ++ s) = (label ++ firstLine s) :: innerLines s := by
  unfold linesOf
  rw [String.toList_append, splitOn_append h, splitOn_eq, linesOf_eq_cons, List.map_cons,
    List.modifyHead_cons, List.map_cons, List.map_map, ofList_comp_toList, List.map_id,
    ← String.toList_append, String.ofList_toList]

/-! ## Lines that are ended -/

theorem ended_cons (line : String) (lines : List String) :
    ended (line :: lines) = line ++ "\n" ++ ended lines := by
  rw [← String.toList_inj]
  unfold ended
  rw [List.map_cons, String.toList_append, String.toList_join, String.toList_join,
    List.flatMap_cons]

theorem ended_append (before after : List String) :
    ended (before ++ after) = ended before ++ ended after := by
  induction before with
  | nil => exact (String.empty_append).symm
  | cons line before ih =>
    have hassoc : line ++ "\n" ++ ended before ++ ended after =
        line ++ "\n" ++ (ended before ++ ended after) := String.append_assoc
    rw [List.cons_append, ended_cons, ended_cons, ih, hassoc]

theorem linesOf_ended (lines : List String) (s : String) :
    linesOf (ended lines ++ s) = lines.flatMap linesOf ++ linesOf s := by
  induction lines with
  | nil =>
    have hempty : ended [] = "" := rfl
    rw [hempty, String.empty_append]
    rfl
  | cons line lines ih =>
    rw [ended_cons, String.append_assoc, linesOf_break, ih, List.flatMap_cons, List.append_assoc]

/-- Lines that have no line breaks are what they are written as. -/
theorem flatMap_linesOf {lines : List String} (h : ∀ line ∈ lines, '\n' ∉ line.toList) :
    lines.flatMap linesOf = lines := by
  induction lines with
  | nil => rfl
  | cons line lines ih =>
    rw [List.flatMap_cons, linesOf_of_not_mem (h line List.mem_cons_self),
      ih fun other hother => h other (List.mem_cons_of_mem _ hother), List.singleton_append]

/-! ## Texts that are made of lines -/

theorem break_not_mem_of_mem_splitOn {cs piece : List Char} (h : piece ∈ cs.splitOn '\n') :
    '\n' ∉ piece := by
  induction cs generalizing piece with
  | nil =>
    rw [List.splitOn_nil, List.mem_singleton] at h
    rw [h]
    exact List.not_mem_nil
  | cons c cs ih =>
    rw [List.splitOn_cons_eq_if_modifyHead] at h
    split at h
    · rcases List.mem_cons.1 h with rfl | h
      · exact List.not_mem_nil
      · exact ih h
    · rename_i hc
      cases hsplit : cs.splitOn '\n' with
      | nil => exact absurd hsplit (List.splitOn_ne_nil _ _)
      | cons first rest =>
        rw [hsplit] at h ih
        rcases List.mem_cons.1 h with rfl | h
        · intro hmem
          rcases List.mem_cons.1 hmem with heq | hmem
          · exact hc (by rw [heq]; exact beq_self_eq_true c)
          · exact ih List.mem_cons_self hmem
        · exact ih (List.mem_cons_of_mem _ h)

theorem break_not_mem_of_mem_linesOf {line s : String} (h : line ∈ linesOf s) :
    '\n' ∉ line.toList := by
  obtain ⟨piece, hpiece, rfl⟩ := List.mem_map.1 h
  rw [String.toList_ofList]
  exact break_not_mem_of_mem_splitOn hpiece

/-- Lines are those of a text, unless there are none. -/
theorem exists_linesOf_eq {lines : List String} (hne : lines ≠ [])
    (h : ∀ line ∈ lines, '\n' ∉ line.toList) : ∃ s, linesOf s = lines := by
  refine ⟨String.ofList (['\n'].intercalate (lines.map String.toList)), ?_⟩
  have hpieces : ∀ piece ∈ lines.map String.toList, '\n' ∉ piece := by
    intro piece hpiece
    obtain ⟨line, hline, rfl⟩ := List.mem_map.1 hpiece
    exact h line hline
  unfold linesOf
  rw [String.toList_ofList, List.splitOn_intercalate '\n' hpieces (by simpa using hne),
    List.map_map, ofList_comp_toList, List.map_id]

end Treasury.Text
