import Treasury.Proofs.Params
import Treasury.Proofs.Store.History

/-!
# Open workflows

Nothing in the workflow table keeps a second workflow from being open. What does is that a
workflow is opened only while none is (`openWorkflow_of_none`, `openWorkflow_of_open`), and that no
update opens one again: whatever state the copy claims to have been loaded in, an update that is
written leaves open only what was open (`opens_none`).
-/

namespace Treasury

namespace WorkflowState

theorem isTerminal_eq_contains (state : WorkflowState) :
    state.isTerminal = ([success, failed].map tag).contains state.tag := by
  cases state <;> decide

/-- A state that is not final cannot be reached from one that is. -/
theorem not_isTerminal_of_canMoveTo {state next : WorkflowState}
    (h : state.canMoveTo next = true) (hopen : next.isTerminal = false) :
    state.isTerminal = false := by
  revert h hopen
  cases state <;> cases next <;> decide

end WorkflowState

theorem WorkflowRow.isOpen_of_state {row : WorkflowRow} {state : WorkflowState}
    (h : row.state = state.tag) : row.isOpen = !state.isTerminal := by
  rw [isOpen, h, state.isTerminal_eq_contains]

/-- An update leaves open only what was open. -/
theorem WorkflowRow.isOpen_of_updated {row : WorkflowRow} {expected : WorkflowState}
    {w : Workflow} (hmove : expected.canMoveTo w.state = true)
    (hat : row.isAt expected w.id = true) (h : (row.updated w).isOpen = true) :
    row.isOpen = true := by
  have hnew : (row.updated w).isOpen = !w.state.isTerminal := isOpen_of_state rfl
  have hopen : w.state.isTerminal = false := by simpa [hnew] using h
  rw [isOpen_of_state (of_decide_eq_true hat).2,
    WorkflowState.not_isTerminal_of_canMoveTo hmove hopen]
  rfl

/-- What is found in the row of a workflow that has just been opened. -/
theorem WorkflowRow.load_opened (params : WorkflowParams) (id : Int) :
    (opened params id).load = .ok ⟨id, .init, params, "", ""⟩ := by
  have hparams : WorkflowParams.ofText (opened params id).params = .ok params :=
    params.ofText_toText
  have hstate : WorkflowState.ofTag (opened params id).state = .ok .init :=
    show WorkflowState.ofTag WorkflowState.init.tag = .ok .init by decide
  unfold load
  rw [hparams, hstate]
  rfl

namespace Store

/-- A workflow is in a state that is not final. -/
def IsOpen (s : Store) (id : Int) : Prop :=
  ∃ state : WorkflowState, state.isTerminal = false ∧ s.workflowStates id = [state.tag]

theorem isOpen_of_mem {s : Store} (hs : s.WorkflowRules) {row : WorkflowRow}
    (hrow : row ∈ s.openWorkflowRows) : s.IsOpen row.id := by
  obtain ⟨hmem, hopen⟩ := List.mem_filter.mp hrow
  obtain ⟨state, hstate⟩ := WorkflowRow.check_eq_ok.1 (hs.checked row hmem)
  refine ⟨state, by simpa [WorkflowRow.isOpen_of_state hstate] using hopen, ?_⟩
  exact hs.workflowStates_eq (mem_workflowStates.2 ⟨row, hmem, decide_eq_true ⟨rfl, hstate⟩⟩)

theorem IsOpen.exists_mem {s : Store} {id : Int} (h : s.IsOpen id) :
    ∃ row ∈ s.openWorkflowRows, row.id = id := by
  obtain ⟨state, hopen, hstates⟩ := h
  obtain ⟨row, hrow, hat⟩ := mem_workflowStates.1 (hstates ▸ List.mem_singleton_self state.tag)
  obtain ⟨hid, hstate⟩ := of_decide_eq_true hat
  refine ⟨row, List.mem_filter.2 ⟨hrow, ?_⟩, hid⟩
  rw [WorkflowRow.isOpen_of_state hstate, hopen]
  rfl

/-- The workflow that is open, where only one is. -/
theorem IsOpen.rows_eq {s : Store} (hone : s.openWorkflowRows.length ≤ 1) {id : Int}
    (h : s.IsOpen id) : ∃ row, s.openWorkflowRows = [row] ∧ row.id = id := by
  obtain ⟨row, hrow, hid⟩ := h.exists_mem
  obtain ⟨only, honly⟩ := List.length_eq_one_iff.1
    (Nat.le_antisymm hone (List.length_pos_of_mem hrow))
  rw [honly] at hrow ⊢
  rw [List.mem_singleton.mp hrow] at hid
  exact ⟨only, rfl, hid⟩

theorem openWorkflowRows_eq_nil {s : Store} (hs : s.WorkflowRules)
    (h : ∀ id, ¬s.IsOpen id) : s.openWorkflowRows = [] :=
  List.eq_nil_iff_forall_not_mem.2 fun row hrow => h row.id (isOpen_of_mem hs hrow)

/-! ## Opening -/

/-- **While a workflow is open, none is opened.** -/
theorem openWorkflow_of_open {s : Store} {row : WorkflowRow} {rest : List WorkflowRow}
    (h : s.openWorkflowRows = row :: rest) (params : WorkflowParams) :
    s.openWorkflow params = (s, .error (.workflowAlreadyOpen row.id)) := by
  have hinsert : s.insertWorkflow params = .error (.workflowAlreadyOpen row.id) := by
    unfold insertWorkflow
    rw [h]
  unfold openWorkflow
  rw [hinsert]

/-- The store with a workflow in its first state under the next number. -/
def withOpened (s : Store) (params : WorkflowParams) : Store :=
  { s with workflows :=
      s.workflows.push (s.workflows.last + 1) (.opened params (s.workflows.last + 1)) }

/-- A workflow that has just been opened is found under its number. -/
theorem findWorkflow_withOpened {s : Store} (hs : s.WorkflowRules) (params : WorkflowParams) :
    (s.withOpened params).findWorkflow (s.workflows.last + 1) =
      .ok ⟨s.workflows.last + 1, .init, params, "", ""⟩ := by
  have hfind : (s.withOpened params).workflows.rows.find? (·.id = s.workflows.last + 1) =
      some (.opened params (s.workflows.last + 1)) := by
    show (s.workflows.rows ++ [_]).find? _ = _
    rw [List.find?_append, List.find?_eq_none.2, Option.none_or]
    · exact List.find?_cons_of_pos (decide_eq_true rfl)
    · intro row hrow
      have := hs.numbered row hrow
      simp only [decide_eq_true_eq]
      omega
  have hcolumns : (WorkflowRow.opened params (s.workflows.last + 1)).checkColumns = .ok () := rfl
  unfold findWorkflow
  rw [hfind]
  dsimp only
  rw [hcolumns]
  show WorkflowRow.load _ = _
  exact WorkflowRow.load_opened params _

/-- **While no workflow is open, one is opened under the next number**, as long as there is one. -/
theorem openWorkflow_of_none {s : Store} (hs : s.WorkflowRules) (h : s.openWorkflowRows = [])
    (params : WorkflowParams) :
    s.openWorkflow params =
      if s.workflows.last < Table.maxId then
        (s.withOpened params, .ok ⟨s.workflows.last + 1, .init, params, "", ""⟩)
      else (s, .error (.violation .full)) := by
  split
  · rename_i hleft
    have hinsert : s.insertWorkflow params = .ok (s.withOpened params, s.workflows.last + 1) :=
      insertWorkflow_eq_ok.2 ⟨h, if_pos hleft, rfl⟩
    unfold openWorkflow
    rw [hinsert]
    exact congrArg (Prod.mk _) (findWorkflow_withOpened hs params)
  · rename_i hfull
    have hnumber : s.workflows.nextNumber = .error .full := by
      unfold Table.nextNumber Table.nextId?
      rw [if_neg hfull]
    have hinsert : s.insertWorkflow params = .error (.violation .full) := by
      unfold insertWorkflow
      rw [h, hnumber]
    unfold openWorkflow
    rw [hinsert]

/-! ## Updating -/

/-- **No update opens a workflow again**, whatever state its copy is said to have been in. -/
theorem opens_none {s s' : Store} {expected : WorkflowState} {w : Workflow}
    (h : s.updateWorkflow expected w = .ok s') :
    s'.openWorkflowRows.length ≤ s.openWorkflowRows.length := by
  obtain ⟨hmove, _, rfl⟩ := updateWorkflow_eq_ok.1 h
  unfold openWorkflowRows
  rw [← List.countP_eq_length_filter, ← List.countP_eq_length_filter]
  show (s.workflows.rows.map _).countP _ ≤ _
  rw [List.countP_map]
  refine List.countP_mono_left fun row _ hopen => ?_
  dsimp only [Function.comp_apply] at hopen
  split at hopen
  · rename_i hat
    exact WorkflowRow.isOpen_of_updated hmove hat hopen
  · exact hopen

end Store

end Treasury
