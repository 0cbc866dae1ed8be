import Treasury.Store.Error

/-!
# Workflows in the store

A workflow is opened only while no other is open. Afterwards it changes only by
`Store.updateWorkflow`, which names the state the caller has loaded it in: if it has left
that state since, nothing is written.
-/

namespace Treasury

/-- Refuses a row with a column that cannot be read back. -/
def WorkflowRow.checkColumns (row : WorkflowRow) : Except StoreError Unit :=
  StoreError.ofColumn do
    row.createdAt.check "created_at"
    row.updatedAt.check "updated_at"

/-- What a row says whose columns can be read back. -/
def WorkflowRow.load (row : WorkflowRow) : Except StoreError Workflow :=
  match WorkflowParams.ofText row.params with
  | .error e => .error (.malformedParams .workflow row.id (e.message row.params))
  | .ok params =>
    match WorkflowState.ofTag row.state with
    | .error t => .error (.unknownTag t)
    | .ok state => .ok ⟨row.id, state, params, row.message, row.progress⟩

/-- True of the row of an open workflow. -/
def WorkflowRow.isOpen (row : WorkflowRow) : Bool :=
  !([WorkflowState.success, WorkflowState.failed].map WorkflowState.tag).contains row.state

/-- The rules of the workflow table. -/
def WorkflowRow.check (row : WorkflowRow) : Except Violation Unit :=
  checkWord "state" (WorkflowState.all.map WorkflowState.tag) row.state

namespace Store

/-- The workflow of a number. -/
def findWorkflow (s : Store) (id : Int) : Except StoreError Workflow :=
  match s.workflows.rows.find? (·.id = id) with
  | some row => row.checkColumns.bind fun _ => row.load
  | none => .error (.workflowNotFound id)

/-- The rows of the open workflows, oldest first. -/
def openWorkflowRows (s : Store) : List WorkflowRow := s.workflows.rows.filter (·.isOpen)

/-- The open workflows, oldest first. The columns of all rows are read before any row is
understood. -/
def findOpenWorkflows (s : Store) : Except StoreError (List Workflow) := do
  s.openWorkflowRows.forM WorkflowRow.checkColumns
  s.openWorkflowRows.mapM WorkflowRow.load

/-- Writes a workflow in its first state, if none is open. -/
def insertWorkflow (s : Store) (params : WorkflowParams) : Except StoreError (Store × Int) :=
  match s.openWorkflowRows with
  | row :: _ => .error (.workflowAlreadyOpen row.id)
  | [] =>
    match s.workflows.nextNumber with
    | .error v => .error (.violation v)
    | .ok id =>
      let row : WorkflowRow :=
        { id := id, state := WorkflowState.init.tag, params := params.toText, message := "",
          progress := "" }
      .ok ({ s with workflows := s.workflows.push id row }, id)

/-- Opens a workflow and loads it. -/
def openWorkflow (s : Store) (params : WorkflowParams) : Store × Except StoreError Workflow :=
  match s.insertWorkflow params with
  | .error e => (s, .error e)
  | .ok (next, id) => (next, next.findWorkflow id)

/-- Writes state, message and progress of a workflow that is still in the state `expected`. -/
def updateWorkflow (s : Store) (expected : WorkflowState) (w : Workflow) :
    Except StoreError Store :=
  if !expected.canMoveTo w.state then .error (.invalidTransition w.id expected w.state)
  else
    let (table, count) := s.workflows.update (fun row => row.id = w.id ∧ row.state = expected.tag)
      fun row =>
        { row with
          state := w.state.tag, message := w.message, progress := w.progress,
          updatedAt := .readable }
    if 0 < count then .ok { s with workflows := table }
    else
      match s.workflows.rows.find? (·.id = w.id) with
      | none => .error (.workflowNotFound w.id)
      | some row =>
        match WorkflowState.ofTag row.state with
        | .error t => .error (.unknownTag t)
        | .ok stored => .error (.staleWorkflow w.id expected stored)

end Store

end Treasury
