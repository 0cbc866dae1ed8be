import Treasury.Proofs.Store.Tasks
import Treasury.Store.Transfers

/-!
# Writing transfer tasks

What opening a transfer task and updating one add to the store or change in it. Neither touches
another table.
-/

namespace Treasury

/-- The row after an update by the copy `t`. -/
def TransferRow.updated (t : TransferTask) (row : TransferRow) : TransferRow :=
  { row with
    state := t.state.tag, progress := t.progress, message := t.message, updatedAt := .readable }

/-- The row that a copy loaded in the state `expected` updates. -/
def TransferRow.isAt (expected : TransferState) (id : Int) (row : TransferRow) : Bool :=
  row.id = id ∧ row.state = expected.tag

/-- The row of a task that is opened. -/
def TransferRow.opened (rebalanceId : Int) (type : TransferType) (params : TransferParams)
    (id : Int) : TransferRow where
  id := id
  rebalanceId := .int rebalanceId
  type := type.tag
  state := TransferState.init.tag
  params := params.toText
  progress := ""
  message := ""

namespace Store

/-- The store after an update. -/
def withTransfer (s : Store) (expected : TransferState) (t : TransferTask) : Store :=
  { s with
    transfers := (s.transfers.update (TransferRow.isAt expected t.id) (TransferRow.updated t)).1 }

/-- **An update is written if it is a move of the graph and finds the row where the copy was.** -/
theorem updateTransfer_eq_ok {s s' : Store} {expected : TransferState} {t : TransferTask} :
    s.updateTransfer expected t = .ok s' ↔
      expected.canMoveTo t.state = true
        ∧ (∃ row ∈ s.transfers.rows, row.isAt expected t.id = true)
        ∧ s' = s.withTransfer expected t := by
  have hcount : 0 < (s.transfers.update (TransferRow.isAt expected t.id)
      (TransferRow.updated t)).2 ↔ ∃ row ∈ s.transfers.rows, row.isAt expected t.id = true :=
    List.countP_pos_iff
  constructor
  · intro h
    unfold updateTransfer at h
    split at h
    · exact absurd h (by simp)
    · rename_i hmove
      dsimp only [Table.update] at h
      split at h
      · rename_i hpos
        exact ⟨by simpa using hmove, hcount.1 hpos, (Except.ok.inj h).symm⟩
      · -- no row was found, and what is left to say is why
        split at h
        · exact absurd h (by simp)
        · split at h <;> exact absurd h (by simp)
  · rintro ⟨hmove, hrow, rfl⟩
    unfold updateTransfer
    rw [if_neg (by simp [hmove])]
    exact if_pos (hcount.2 hrow)

/-- **A task is opened under the next number.** -/
theorem insertTransfer_eq_ok {s s' : Store} {rebalanceId : Int} {type : TransferType}
    {params : TransferParams} {id : Int} :
    s.insertTransfer rebalanceId type params = .ok (s', id) ↔
      s.transfers.nextId? = some id
        ∧ s' = { s with
          transfers := s.transfers.push id (.opened rebalanceId type params id) } := by
  unfold insertTransfer
  rw [bind_eq_ok]
  simp only [Table.nextNumber_eq_ok]
  constructor
  · rintro ⟨_, hid, h⟩
    cases h
    exact ⟨hid, rfl⟩
  · rintro ⟨hid, rfl⟩
    exact ⟨id, hid, rfl⟩

/-- Opening a task either opens it or leaves the store as it is. -/
theorem createTransfer_cases (s : Store) (rebalanceId : Int) (type : TransferType)
    (params : TransferParams) :
    (s.createTransfer rebalanceId type params).1 = s
      ∨ ∃ id, s.insertTransfer rebalanceId type params =
        .ok ((s.createTransfer rebalanceId type params).1, id) := by
  unfold createTransfer
  cases h : s.insertTransfer rebalanceId type params with
  | error e => exact .inl rfl
  | ok r => exact .inr ⟨r.2, rfl⟩

/-- Opening a task touches no other table. -/
theorem insertTransfer_frame {s s' : Store} {rebalanceId : Int} {type : TransferType}
    {params : TransferParams} {id : Int}
    (h : s.insertTransfer rebalanceId type params = .ok (s', id)) :
    s'.workflows = s.workflows ∧ s'.tasks = s.tasks := by
  rw [(insertTransfer_eq_ok.1 h).2]
  exact ⟨rfl, rfl⟩

/-- Updating a task touches no other table. -/
theorem updateTransfer_frame {s s' : Store} {expected : TransferState} {t : TransferTask}
    (h : s.updateTransfer expected t = .ok s') :
    s'.workflows = s.workflows ∧ s'.tasks = s.tasks := by
  rw [(updateTransfer_eq_ok.1 h).2.2]
  exact ⟨rfl, rfl⟩

end Store

end Treasury
