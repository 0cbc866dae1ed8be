import Treasury.Store.Error

/-!
# Transfer tasks in the store

Any number of transfer tasks may be open. A task changes only by `Store.updateTransfer`,
which names the state the caller has loaded it in.
-/

namespace Treasury

/-- The workflow that a row names. It is refused, and so is the row, if one of its columns cannot
be read back. -/
def TransferRow.readColumns (row : TransferRow) : Except StoreError Int :=
  StoreError.ofColumn do
    let rebalanceId ← row.rebalanceId.read (some "rebalance_id")
    row.createdAt.check "created_at"
    row.updatedAt.check "updated_at"
    return rebalanceId

/-- What a row says that names the workflow `rebalanceId`. -/
def TransferRow.load (row : TransferRow) (rebalanceId : Int) : Except StoreError TransferTask :=
  match TransferParams.ofText row.params with
  | .error e => .error (.malformedParams .transfer row.id (e.message row.params))
  | .ok params =>
    match TransferType.ofTag row.type with
    | .error t => .error (.unknownTag t)
    | .ok type =>
      match TransferState.ofTag row.state with
      | .error t => .error (.unknownTag t)
      | .ok state =>
        .ok ⟨row.id, rebalanceId, type, state, params, row.progress, row.message⟩

/-- True of the row of an open task. -/
def TransferRow.isOpen (row : TransferRow) : Bool :=
  ([TransferState.init, TransferState.ongoing].map TransferState.tag).contains row.state

/-- The rules of the transfer table. -/
def TransferRow.check (row : TransferRow) : Except Violation Unit := do
  checkWord "transfer_type" (TransferType.all.map TransferType.tag) row.type
  checkWord "state" (TransferState.all.map TransferState.tag) row.state

namespace Store

/-- The task of a number. -/
def findTransfer (s : Store) (id : Int) : Except StoreError TransferTask :=
  match s.transfers.rows.find? (·.id = id) with
  | some row => row.readColumns.bind row.load
  | none => .error (.transferNotFound id)

/-- The open tasks, oldest first. The columns of all rows are read before any row is
understood. -/
def findOpenTransfers (s : Store) : Except StoreError (List TransferTask) := do
  let rows := s.transfers.rows.filter (·.isOpen)
  let read ← rows.mapM fun row => row.readColumns.map fun rebalanceId => (row, rebalanceId)
  read.mapM fun (row, rebalanceId) => row.load rebalanceId

/-- Writes a task in its first state. -/
def insertTransfer (s : Store) (rebalanceId : Int) (type : TransferType)
    (params : TransferParams) : Except Violation (Store × Int) := do
  let id ← s.transfers.nextNumber
  let row : TransferRow :=
    { id := id, rebalanceId := .int rebalanceId, type := type.tag,
      state := TransferState.init.tag, params := params.toText, progress := "", message := "" }
  return ({ s with transfers := s.transfers.push id row }, id)

/-- Opens a task and loads it. -/
def createTransfer (s : Store) (rebalanceId : Int) (type : TransferType)
    (params : TransferParams) : Store × Except StoreError TransferTask :=
  match s.insertTransfer rebalanceId type params with
  | .error v => (s, .error (.violation v))
  | .ok (next, id) => (next, next.findTransfer id)

/-- Writes state, progress and message of a task that is still in the state `expected`. -/
def updateTransfer (s : Store) (expected : TransferState) (t : TransferTask) :
    Except StoreError Store :=
  if !expected.canMoveTo t.state then
    .error (.invalidTransferTransition t.id expected t.state)
  else
    let (table, count) := s.transfers.update (fun row => row.id = t.id ∧ row.state = expected.tag)
      fun row =>
        { row with
          state := t.state.tag, progress := t.progress, message := t.message,
          updatedAt := .readable }
    if 0 < count then .ok { s with transfers := table }
    else
      match s.transfers.rows.find? (·.id = t.id) with
      | none => .error (.transferNotFound t.id)
      | some row =>
        match TransferState.ofTag row.state with
        | .error tag => .error (.unknownTag tag)
        | .ok stored => .error (.staleTransfer t.id expected stored)

end Store

end Treasury
