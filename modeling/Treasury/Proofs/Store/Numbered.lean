import Mathlib.Data.List.Nodup
import Treasury.Proofs.Store.Tasks

/-!
# Rows with numbers of their own

A table gives out its numbers in order and never twice, so its rows stand in the order of their
numbers (`Table.Numbered`), and one of them at most has a given number (`filter_number`). All
tables are rewritten in place: an update looks for the row of a number with a given word in one of
its columns, and changes the word (`words_update`).
-/

namespace Treasury

variable {α : Type} {number : α → Int}

/-- Where no two rows have one number, one row at most has a given number. -/
theorem filter_number {rows : List α} (h : (rows.map number).Nodup) (n : Int) :
    rows.filter (fun row => number row = n) = []
      ∨ ∃ row ∈ rows, number row = n ∧ rows.filter (fun row => number row = n) = [row] := by
  have hmem : ∀ row ∈ rows.filter (fun row => number row = n), row ∈ rows ∧ number row = n :=
    fun row hrow => ⟨(List.mem_filter.1 hrow).1, of_decide_eq_true (List.mem_filter.1 hrow).2⟩
  have hnodup := h.sublist (List.filter_sublist (p := fun row => number row = n) |>.map number)
  cases hrows : rows.filter fun row => number row = n with
  | nil => exact .inl rfl
  | cons row rest =>
    rw [hrows] at hmem hnodup
    obtain ⟨hrow, hid⟩ := hmem row List.mem_cons_self
    refine .inr ⟨row, hrow, hid, congrArg _ (List.eq_nil_iff_forall_not_mem.2 fun other hother => ?_)⟩
    -- another row would have the number too
    refine (List.nodup_cons.1 hnodup).1 ?_
    rw [hid, ← (hmem other (List.mem_cons_of_mem _ hother)).2]
    exact List.mem_map_of_mem hother

/-- So it is the one that is found under it. -/
theorem find?_number {rows : List α} (h : (rows.map number).Nodup) {row : α} (hrow : row ∈ rows)
    {n : Int} (hn : number row = n) : rows.find? (fun r => number r = n) = some row := by
  obtain ⟨found, hfound⟩ := Option.isSome_iff_exists.1
    (List.find?_isSome (p := fun r => decide (number r = n)).2 ⟨row, hrow, decide_eq_true hn⟩)
  have hnumber : number found = n := by simpa using List.find?_some hfound
  rw [hfound, List.inj_on_of_nodup_map h (List.mem_of_find?_eq_some hfound) hrow
    (hnumber.trans hn.symm)]

/-- Rows in the order of their numbers have a piece of the list wherever they have its numbers. -/
theorem filter_numbers {before piece after : List α}
    (h : (before ++ piece ++ after).Pairwise fun a b => number a < number b) :
    (before ++ piece ++ after).filter (fun row => number row ∈ piece.map number) = piece := by
  obtain ⟨hfront, -, hback⟩ := List.pairwise_append.1 h
  obtain ⟨-, -, hbefore⟩ := List.pairwise_append.1 hfront
  have hnone : before.filter (fun row => number row ∈ piece.map number) = [] := by
    refine List.filter_eq_nil_iff.2 fun row hrow hmem => ?_
    obtain ⟨other, hother, heq⟩ := List.mem_map.1 (of_decide_eq_true hmem)
    have := hbefore row hrow other hother
    omega
  have hnone' : after.filter (fun row => number row ∈ piece.map number) = [] := by
    refine List.filter_eq_nil_iff.2 fun row hrow hmem => ?_
    obtain ⟨other, hother, heq⟩ := List.mem_map.1 (of_decide_eq_true hmem)
    have := hback other (List.mem_append_right _ hother) row hrow
    omega
  have hall : piece.filter (fun row => number row ∈ piece.map number) = piece :=
    List.filter_eq_self.2 fun row hrow => decide_eq_true (List.mem_map_of_mem hrow)
  rw [List.filter_append, List.filter_append, hnone, hnone', hall, List.nil_append,
    List.append_nil]

/-- **What an update of the rows of one number with one word does to the words of a number.** -/
theorem words_update (number : α → Int) (word : α → String) {p : α → Bool} {f : α → α} {n : Int}
    {old new : String}
    (hp : ∀ row, p row = true ↔ number row = n ∧ word row = old)
    (hnumber : ∀ row, number (f row) = number row) (hword : ∀ row, word (f row) = new)
    (rows : List α) (m : Int) :
    ((rows.map fun row => if p row then f row else row).filter fun row => number row = m).map word =
      if m = n then
        ((rows.filter fun row => number row = m).map word).map fun t => if t = old then new else t
      else (rows.filter fun row => number row = m).map word := by
  have hsame : (fun row => decide (number row = m)) ∘ (fun row => if p row then f row else row) =
      fun row => decide (number row = m) := by
    funext row
    dsimp only [Function.comp_apply]
    split
    · rw [hnumber]
    · rfl
  rw [List.filter_map, List.map_map, hsame]
  split
  · rename_i heq
    rw [List.map_map]
    refine List.map_congr_left fun row hrow => ?_
    have hrow : number row = n := (of_decide_eq_true (List.mem_filter.1 hrow).2).trans heq
    dsimp only [Function.comp_apply]
    by_cases hold : word row = old
    · rw [if_pos ((hp row).2 ⟨hrow, hold⟩), if_pos hold, hword]
    · rw [if_neg fun h => hold ((hp row).1 h).2, if_neg hold]
  · rename_i hne
    refine List.map_congr_left fun row hrow => ?_
    have hrow : number row = m := of_decide_eq_true (List.mem_filter.1 hrow).2
    exact congrArg word (if_neg fun h => hne (hrow ▸ ((hp row).1 h).1))

namespace Table

/-- The rows stand in the order of their numbers, which were all given out. -/
structure Numbered (t : Table α) (number : α → Int) : Prop where
  increasing : t.rows.Pairwise fun a b => number a < number b
  le_last : ∀ row ∈ t.rows, number row ≤ t.last

theorem Numbered.empty : Numbered (α := α) .empty number where
  increasing := .nil
  le_last := fun _ h => absurd h List.not_mem_nil

theorem Numbered.nodup {t : Table α} (h : t.Numbered number) : (t.rows.map number).Nodup :=
  List.pairwise_map.2 (h.increasing.imp Int.ne_of_lt)

/-- A row under the next number stands at its place. -/
theorem Numbered.push {t : Table α} (h : t.Numbered number) {id : Int} {row : α}
    (hid : t.nextId? = some id) (hrow : number row = id) : (t.push id row).Numbered number where
  increasing := by
    refine List.pairwise_append.2 ⟨h.increasing, List.pairwise_singleton _ _, fun a ha b hb => ?_⟩
    have := h.le_last a ha
    have := nextId?_eq_some hid
    rw [List.mem_singleton.mp hb]
    omega
  le_last := by
    intro a ha
    show number a ≤ id
    rcases List.mem_append.mp ha with ha | ha
    · have := h.le_last a ha
      have := nextId?_eq_some hid
      omega
    · obtain rfl := List.mem_singleton.mp ha
      exact Int.le_of_eq hrow

/-- Rows that are rewritten keep their places. -/
theorem Numbered.update {t : Table α} (h : t.Numbered number) (p : α → Bool) {f : α → α}
    (hf : ∀ row, number (f row) = number row) : (t.update p f).1.Numbered number where
  increasing := by
    refine List.pairwise_map.2 (h.increasing.imp fun {a b} hab => ?_)
    split <;> split <;> simpa only [hf] using hab
  le_last := by
    intro a ha
    obtain ⟨row, hrow, rfl⟩ := List.mem_map.mp ha
    show _ ≤ t.last
    have := h.le_last row hrow
    split <;> simpa only [hf] using this

end Table

/-! ## Transactions -/

namespace Store

theorem numbered_saveTasks {s s' : Store} {batch : List Prepared} {ids : List Int}
    (h : s.saveTasks batch = .ok (s', ids)) (hs : s.tasks.Numbered TaskRow.id) :
    s'.tasks.Numbered TaskRow.id := by
  induction batch generalizing s ids with
  | nil =>
    cases h
    exact hs
  | cons p rest ih =>
    obtain ⟨next, id, ids', hp, hrest, rfl⟩ := saveTasks_cons_eq_ok.1 h
    obtain ⟨-, hid, -, -, rfl⟩ := saveTask_eq_ok.1 hp
    exact ih hrest (hs.push hid rfl)

theorem numbered_setTask {s : Store} (hs : s.tasks.Numbered TaskRow.id) (id : Int)
    (state : TransactionState) (message : String) (hash : Option TransactionHash) :
    (s.setTask id state message hash).tasks.Numbered TaskRow.id :=
  hs.update _ fun _ => rfl

end Store

end Treasury
