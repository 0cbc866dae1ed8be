import Treasury.Proofs.Params
import Treasury.Proofs.Store.History
import Treasury.Proofs.Store.Numbered
import Treasury.Proofs.Store.Transfers

/-!
# The transfer table

Two views of it: the states in which it holds a task, and what is filed there about the task. A
table that keeps its rules (`Store.TransferRules`) holds each task once, a write moves at most one
of them (`Store.TransferRules.moves`), and what is filed is never written again.
-/

namespace Treasury

/-- The rule of a row is that it moves funds one way or the other and is in a state. -/
theorem TransferRow.check_eq_ok {row : TransferRow} :
    row.check = .ok () ↔ (∃ type : TransferType, row.type = type.tag)
      ∧ ∃ state : TransferState, row.state = state.tag := by
  unfold check
  simp only [bind_eq_ok, checkWord_eq_ok, List.mem_map]
  constructor
  · rintro ⟨-, ⟨type, -, htype⟩, state, -, hstate⟩
    exact ⟨⟨type, htype.symm⟩, state, hstate.symm⟩
  · rintro ⟨⟨type, htype⟩, state, hstate⟩
    exact ⟨(), ⟨type, by cases type <;> decide, htype.symm⟩, state, by cases state <;> decide,
      hstate.symm⟩

/-- What is found in a row. -/
theorem TransferRow.load_eq_ok {row : TransferRow} {rebalanceId : Int} {t : TransferTask}
    (h : row.load rebalanceId = .ok t) :
    t.id = row.id ∧ row.type = t.type.tag ∧ row.state = t.state.tag
      ∧ TransferParams.ofText row.params = .ok t.params := by
  unfold load at h
  split at h
  · exact absurd h (by simp)
  · rename_i params hparams
    split at h
    · exact absurd h (by simp)
    · rename_i type htype
      split at h
      · exact absurd h (by simp)
      · rename_i state hstate
        cases h
        exact ⟨rfl, (TransferType.ofTag_eq_ok htype).symm, (TransferState.ofTag_eq_ok hstate).symm,
          hparams⟩

namespace Store

/-- The words for the states in which the table holds a task. -/
def transferStates (s : Store) (id : Int) : List String :=
  (s.transfers.rows.filter fun row => row.id = id).map (·.state)

/-- A task of this type and with these calls is filed under a number. -/
def Files (s : Store) (id : Int) (type : TransferType) (params : TransferParams) : Prop :=
  ∃ row ∈ s.transfers.rows, row.id = id ∧ row.type = type.tag
    ∧ TransferParams.ofText row.params = .ok params

/-- The rules of the transfer table: its rows are numbered, each is one that the table takes, and
the calls of each can be read. -/
structure TransferRules (s : Store) : Prop where
  numbered : s.transfers.Numbered (·.id)
  checked : ∀ row ∈ s.transfers.rows, row.check = .ok ()
  readable : ∀ row ∈ s.transfers.rows, ∃ params, TransferParams.ofText row.params = .ok params

theorem transferRules_empty : TransferRules .empty where
  numbered := .empty
  checked := by intro row h; exact absurd h List.not_mem_nil
  readable := by intro row h; exact absurd h List.not_mem_nil

theorem transferStates_congr {s s' : Store} (h : s'.transfers = s.transfers) (id : Int) :
    s'.transferStates id = s.transferStates id := by
  unfold transferStates
  rw [h]

theorem mem_transferStates {s : Store} {expected : TransferState} {id : Int} :
    expected.tag ∈ s.transferStates id ↔
      ∃ row ∈ s.transfers.rows, row.isAt expected id = true := by
  simp [transferStates, TransferRow.isAt, and_assoc]

/-- Whatever is found open is filed, and in the state in which it is found. -/
theorem files_of_findOpenTransfers {s : Store} {ts : List TransferTask}
    (h : s.findOpenTransfers = .ok ts) :
    ∀ t ∈ ts, s.Files t.id t.type t.params ∧ t.state.tag ∈ s.transferStates t.id := by
  obtain ⟨read, hread, hload⟩ := bind_eq_ok.1 h
  intro t ht
  obtain ⟨⟨row, rebalanceId⟩, hrow, hloaded⟩ := exists_mem_of_forall₂ (mapM_eq_ok.1 hload) ht
  obtain ⟨row', hrow', hcolumns⟩ := exists_mem_of_forall₂ (mapM_eq_ok.1 hread) hrow
  obtain ⟨_, -, ⟨⟩⟩ := map_eq_ok.1 hcolumns
  obtain ⟨hid, htype, hstate, hparams⟩ := TransferRow.load_eq_ok hloaded
  have hmem := List.mem_of_mem_filter hrow'
  exact ⟨⟨row, hmem, hid.symm, htype, hparams⟩,
    mem_transferStates.2 ⟨row, hmem, decide_eq_true ⟨hid.symm, hstate⟩⟩⟩

namespace TransferRules

theorem congr {s s' : Store} (hs : s.TransferRules) (h : s'.transfers = s.transfers) :
    s'.TransferRules := by
  obtain ⟨hnumbered, hchecked, hreadable⟩ := hs
  exact ⟨h ▸ hnumbered, h ▸ hchecked, h ▸ hreadable⟩

/-- A number stands for one task at most. -/
theorem states_of_mem {s : Store} (hs : s.TransferRules) {row : TransferRow}
    (hrow : row ∈ s.transfers.rows) : s.transferStates row.id = [row.state] := by
  unfold transferStates
  rcases filter_number hs.numbered.nodup row.id with hnone | ⟨only, -, -, honly⟩
  · exact absurd (decide_eq_true rfl) (List.filter_eq_nil_iff.1 hnone row hrow)
  · have hmem : row ∈ s.transfers.rows.filter fun other => other.id = row.id :=
      List.mem_filter.2 ⟨hrow, decide_eq_true rfl⟩
    rw [honly] at hmem ⊢
    rw [List.mem_singleton.mp hmem, List.map_singleton]

/-- It is in one state, and something is filed about it. -/
theorem filed {s : Store} (hs : s.TransferRules) (id : Int) :
    s.transferStates id = [] ∨ ∃ state type params,
      s.transferStates id = [TransferState.tag state] ∧ s.Files id type params := by
  rcases filter_number hs.numbered.nodup id with hnone | ⟨row, hrow, rfl, -⟩
  · left
    unfold transferStates
    rw [hnone]
    rfl
  · obtain ⟨⟨type, htype⟩, state, hstate⟩ := TransferRow.check_eq_ok.1 (hs.checked row hrow)
    obtain ⟨params, hparams⟩ := hs.readable row hrow
    exact .inr ⟨state, type, params, hstate ▸ hs.states_of_mem hrow, row, hrow, rfl, htype, hparams⟩

theorem transferStates_eq {s : Store} (hs : s.TransferRules) {id : Int} {state : TransferState}
    (hmem : state.tag ∈ s.transferStates id) : s.transferStates id = [state.tag] := by
  obtain ⟨row, hrow, hat⟩ := mem_transferStates.1 hmem
  obtain ⟨rfl, hstate⟩ := of_decide_eq_true hat
  rw [hs.states_of_mem hrow, hstate]

/-- What is filed under a number is one task. -/
theorem files_inj {s : Store} (hs : s.TransferRules) {id : Int} {type type' : TransferType}
    {params params' : TransferParams} (h : s.Files id type params)
    (h' : s.Files id type' params') : type = type' ∧ params = params' := by
  obtain ⟨row, hrow, hid, htype, hparams⟩ := h
  obtain ⟨row', hrow', hid', htype', hparams'⟩ := h'
  have heq : row = row' :=
    List.inj_on_of_nodup_map hs.numbered.nodup hrow hrow' (hid.trans hid'.symm)
  subst heq
  exact ⟨TransferType.tag_inj.1 (htype.symm.trans htype'),
    Except.ok.inj (hparams.symm.trans hparams')⟩

/-! ## Writes to the table -/

theorem insertTransfer {s s' : Store} {rebalanceId : Int} {type : TransferType}
    {params : TransferParams} {new : Int} (hs : s.TransferRules)
    (h : s.insertTransfer rebalanceId type params = .ok (s', new)) : s'.TransferRules := by
  obtain ⟨hnext, rfl⟩ := insertTransfer_eq_ok.1 h
  refine ⟨hs.numbered.push hnext rfl, fun row hrow => ?_, fun row hrow => ?_⟩
  · rcases List.mem_append.mp hrow with hrow | hrow
    · exact hs.checked row hrow
    · rw [List.mem_singleton.mp hrow]
      exact TransferRow.check_eq_ok.2 ⟨⟨type, rfl⟩, .init, rfl⟩
  · rcases List.mem_append.mp hrow with hrow | hrow
    · exact hs.readable row hrow
    · rw [List.mem_singleton.mp hrow]
      exact ⟨params.plain, params.ofText_toText⟩

theorem updateTransfer {s s' : Store} {expected : TransferState} {t : TransferTask}
    (hs : s.TransferRules) (h : s.updateTransfer expected t = .ok s') : s'.TransferRules := by
  obtain ⟨-, -, rfl⟩ := updateTransfer_eq_ok.1 h
  refine ⟨hs.numbered.update _ fun _ => rfl, fun row hrow => ?_, fun row hrow => ?_⟩
  · obtain ⟨old, hold, rfl⟩ := List.mem_map.mp hrow
    split
    · exact TransferRow.check_eq_ok.2
        ⟨(TransferRow.check_eq_ok.1 (hs.checked old hold)).1, t.state, rfl⟩
    · exact hs.checked old hold
  · obtain ⟨old, hold, rfl⟩ := List.mem_map.mp hrow
    split <;> exact hs.readable old hold

/-- A new task is under a number of its own, and in its first state. -/
theorem opens {s s' : Store} {rebalanceId : Int} {type : TransferType} {params : TransferParams}
    {new : Int} (hs : s.TransferRules)
    (h : s.insertTransfer rebalanceId type params = .ok (s', new)) (id : Int) :
    if id = new then s.transferStates id = [] ∧ s'.transferStates id = [TransferState.init.tag]
    else s'.transferStates id = s.transferStates id := by
  obtain ⟨hnext, rfl⟩ := insertTransfer_eq_ok.1 h
  unfold transferStates Table.push
  dsimp only
  rw [List.filter_append, List.map_append]
  split
  · rename_i heq
    have hnone : s.transfers.rows.filter (fun row => row.id = id) = [] := by
      refine List.filter_eq_nil_iff.2 fun row hrow hid => ?_
      have := hs.numbered.le_last row hrow
      have := Table.nextId?_eq_some hnext
      have := of_decide_eq_true hid
      omega
    rw [hnone]
    simp [TransferRow.opened, heq]
  · rename_i hne
    simp [TransferRow.opened, Ne.symm hne]

/-- **An update moves the task of its copy from where that was, and no other.** -/
theorem moves {s s' : Store} {expected : TransferState} {t : TransferTask}
    (hs : s.TransferRules) (h : s.updateTransfer expected t = .ok s') :
    expected.canMoveTo t.state = true
      ∧ s.transferStates t.id = [expected.tag] ∧ s'.transferStates t.id = [t.state.tag]
      ∧ ∀ id, id ≠ t.id → s'.transferStates id = s.transferStates id := by
  obtain ⟨hmove, hrow, rfl⟩ := updateTransfer_eq_ok.1 h
  have hstate := hs.transferStates_eq (mem_transferStates.2 hrow)
  have hwords := words_update TransferRow.id TransferRow.state
    (p := TransferRow.isAt expected t.id) (f := TransferRow.updated t)
    (fun _ => decide_eq_true_iff) (fun _ => rfl)
    (fun row => show (row.updated t).state = t.state.tag from rfl) s.transfers.rows
  refine ⟨hmove, hstate, ?_, fun id hid => (hwords id).trans (if_neg hid)⟩
  refine (hwords t.id).trans ?_
  rw [if_pos rfl]
  show (s.transferStates t.id).map _ = _
  rw [hstate, List.map_singleton, if_pos rfl]

end TransferRules

/-- What is filed under a number stays there, whatever is opened or updated. -/
theorem Files.insertTransfer {s s' : Store} {rebalanceId : Int} {newType : TransferType}
    {newParams : TransferParams} {new : Int} {id : Int} {type : TransferType}
    {params : TransferParams} (h : s.Files id type params)
    (hopened : s.insertTransfer rebalanceId newType newParams = .ok (s', new)) :
    s'.Files id type params := by
  obtain ⟨-, rfl⟩ := insertTransfer_eq_ok.1 hopened
  obtain ⟨row, hrow, hfiled⟩ := h
  exact ⟨row, List.mem_append_left _ hrow, hfiled⟩

theorem Files.updateTransfer {s s' : Store} {expected : TransferState} {t : TransferTask}
    {id : Int} {type : TransferType} {params : TransferParams} (h : s.Files id type params)
    (hu : s.updateTransfer expected t = .ok s') : s'.Files id type params := by
  obtain ⟨-, -, rfl⟩ := updateTransfer_eq_ok.1 hu
  obtain ⟨row, hrow, hfiled⟩ := h
  refine ⟨_, List.mem_map_of_mem hrow, ?_⟩
  split <;> exact hfiled

end Store

end Treasury
