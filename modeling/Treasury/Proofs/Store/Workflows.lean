import Treasury.Proofs.Store.Tasks
import Treasury.Proofs.Tag
import Treasury.Store.Workflows

/-!
# Writing workflows

What opening a workflow and updating one add to the store or change in it. Neither touches another
table.
-/

namespace Treasury

/-- A workflow never comes back to its first state. -/
theorem WorkflowState.ne_init_of_canMoveTo {state next : WorkflowState}
    (h : state.canMoveTo next = true) (hne : state ≠ .init) : next ≠ .init := by
  rintro rfl
  cases state
  case init => exact hne rfl
  all_goals exact absurd h (by decide)

/-- The row after an update by the copy `w`. -/
def WorkflowRow.updated (w : Workflow) (row : WorkflowRow) : WorkflowRow :=
  { row with
    state := w.state.tag, message := w.message, progress := w.progress, updatedAt := .readable }

/-- The row that a copy loaded in the state `expected` updates. -/
def WorkflowRow.isAt (expected : WorkflowState) (id : Int) (row : WorkflowRow) : Bool :=
  row.id = id ∧ row.state = expected.tag

/-- The row of a workflow that is opened. -/
def WorkflowRow.opened (params : WorkflowParams) (id : Int) : WorkflowRow where
  id := id
  state := WorkflowState.init.tag
  params := params.toText
  message := ""
  progress := ""

namespace Store

/-- The store after an update. -/
def withWorkflow (s : Store) (expected : WorkflowState) (w : Workflow) : Store :=
  { s with
    workflows := (s.workflows.update (WorkflowRow.isAt expected w.id) (WorkflowRow.updated w)).1 }

/-- **An update is written if it is a move of the graph and finds the row where the copy was.** -/
theorem updateWorkflow_eq_ok {s s' : Store} {expected : WorkflowState} {w : Workflow} :
    s.updateWorkflow expected w = .ok s' ↔
      expected.canMoveTo w.state = true
        ∧ (∃ row ∈ s.workflows.rows, row.isAt expected w.id = true)
        ∧ s' = s.withWorkflow expected w := by
  have hcount : 0 < (s.workflows.update (WorkflowRow.isAt expected w.id)
      (WorkflowRow.updated w)).2 ↔ ∃ row ∈ s.workflows.rows, row.isAt expected w.id = true :=
    List.countP_pos_iff
  constructor
  · intro h
    unfold updateWorkflow at h
    split at h
    · exact absurd h (by simp)
    · rename_i hmove
      dsimp only [Table.update] at h
      split at h
      · rename_i hpos
        exact ⟨by simpa using hmove, hcount.1 hpos, (Except.ok.inj h).symm⟩
      · -- no row was found, and what is left to say is why
        split at h
        · exact absurd h (by simp)
        · split at h <;> exact absurd h (by simp)
  · rintro ⟨hmove, hrow, rfl⟩
    unfold updateWorkflow
    rw [if_neg (by simp [hmove])]
    exact if_pos (hcount.2 hrow)

/-- **A workflow is opened under the next number if no other is open.** -/
theorem insertWorkflow_eq_ok {s s' : Store} {params : WorkflowParams} {id : Int} :
    s.insertWorkflow params = .ok (s', id) ↔
      s.openWorkflowRows = [] ∧ s.workflows.nextId? = some id
        ∧ s' = { s with workflows := s.workflows.push id (.opened params id) } := by
  unfold insertWorkflow
  cases hopen : s.openWorkflowRows with
  | cons row rest => simp
  | nil =>
    cases hnext : s.workflows.nextNumber with
    | error v =>
      have hne : s.workflows.nextId? ≠ some id := fun h => by
        rw [Table.nextNumber_eq_ok.2 h] at hnext
        exact absurd hnext (by simp)
      simp [hne]
    | ok id' =>
      have hid := Table.nextNumber_eq_ok.1 hnext
      constructor
      · intro h
        cases h
        exact ⟨rfl, hid, rfl⟩
      · rintro ⟨_, hid', rfl⟩
        cases hid.symm.trans hid'
        rfl

/-- Opening a workflow either opens it or leaves the store as it is. -/
theorem openWorkflow_cases (s : Store) (params : WorkflowParams) :
    (s.openWorkflow params).1 = s
      ∨ ∃ id, s.insertWorkflow params = .ok ((s.openWorkflow params).1, id) := by
  unfold openWorkflow
  cases h : s.insertWorkflow params with
  | error e => exact .inl rfl
  | ok r => exact .inr ⟨r.2, rfl⟩

theorem insertWorkflow_tasks {s s' : Store} {params : WorkflowParams} {id : Int}
    (h : s.insertWorkflow params = .ok (s', id)) : s'.tasks = s.tasks := by
  rw [(insertWorkflow_eq_ok.1 h).2.2]

theorem updateWorkflow_tasks {s s' : Store} {expected : WorkflowState} {w : Workflow}
    (h : s.updateWorkflow expected w = .ok s') : s'.tasks = s.tasks := by
  rw [(updateWorkflow_eq_ok.1 h).2.2]
  rfl

theorem insertWorkflow_transfers {s s' : Store} {params : WorkflowParams} {id : Int}
    (h : s.insertWorkflow params = .ok (s', id)) : s'.transfers = s.transfers := by
  rw [(insertWorkflow_eq_ok.1 h).2.2]

theorem updateWorkflow_transfers {s s' : Store} {expected : WorkflowState} {w : Workflow}
    (h : s.updateWorkflow expected w = .ok s') : s'.transfers = s.transfers := by
  rw [(updateWorkflow_eq_ok.1 h).2.2]
  rfl

end Store

end Treasury
