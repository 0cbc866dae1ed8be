import Treasury.Proofs.Store.OpenWorkflows
import Treasury.Proofs.Store.TransferTable

/-!
# Rows that can be loaded

A row that was written here is that of a record (`WorkflowRow.ofWorkflow`, `TransferRow.ofTask`),
and the record is read from it. So whoever asks for the record, by its number or among the open
ones, gets it with its parameters (`Store.HoldsWorkflow.keeps`, `Store.HoldsTransfer.keeps`). Other
rows may have been left by somebody else, and may be malformed.
-/

namespace Treasury

theorem StoreError.ofColumn_ne_malformed {α : Type} (x : Except ColumnFault α) (entity : Entity)
    (id : Int) (reason : String) : ofColumn x ≠ .error (.malformedParams entity id reason) := by
  cases x <;> simp [ofColumn]

theorem StoreError.ofColumn_eq_ok {α : Type} {x : Except ColumnFault α} {a : α} :
    ofColumn x = .ok a ↔ x = .ok a := by
  cases x <;> simp [ofColumn]

/-! ## The row of a record -/

/-- What is found in a row, columns first. -/
def WorkflowRow.fetch (row : WorkflowRow) : Except StoreError Workflow :=
  row.checkColumns.bind fun _ => row.load

/-- The row of a workflow. -/
def WorkflowRow.ofWorkflow (w : Workflow) : WorkflowRow where
  id := w.id
  state := w.state.tag
  params := w.params.toText
  message := w.message
  progress := w.progress

/-- A state is read from its word. -/
theorem WorkflowState.ofTag_tag (state : WorkflowState) : ofTag state.tag = .ok state := by
  cases state <;> decide

/-- **A workflow is read from its row.** -/
theorem WorkflowRow.fetch_ofWorkflow (w : Workflow) : (ofWorkflow w).fetch = .ok w := by
  have hparams : WorkflowParams.ofText (ofWorkflow w).params = .ok w.params :=
    w.params.ofText_toText
  have hstate : WorkflowState.ofTag (ofWorkflow w).state = .ok w.state := w.state.ofTag_tag
  show (ofWorkflow w).load = .ok w
  unfold load
  rw [hparams, hstate]
  rfl

/-- A copy that was read from a row, and changed, is read from the row that it was written to. -/
theorem WorkflowRow.fetch_updated {row : WorkflowRow} {w w' : Workflow} (h : row.fetch = .ok w)
    (hid : w'.id = w.id) (hparams : w'.params = w.params) : (row.updated w').fetch = .ok w' := by
  obtain ⟨_, hcolumns, hload⟩ := bind_eq_ok.1 h
  obtain ⟨_, hcreated, -⟩ := bind_eq_ok.1 (StoreError.ofColumn_eq_ok.1 hcolumns)
  have hcolumns' : (row.updated w').checkColumns = .ok () :=
    StoreError.ofColumn_eq_ok.2 (bind_eq_ok.2 ⟨(), hcreated, rfl⟩)
  refine bind_eq_ok.2 ⟨(), hcolumns', ?_⟩
  unfold load at hload ⊢
  split at hload
  · exact absurd hload (by simp)
  split at hload
  · exact absurd hload (by simp)
  rename_i params hread _ state _
  cases hload
  have hread' : WorkflowParams.ofText (row.updated w').params = .ok params := hread
  have hstate' : WorkflowState.ofTag (row.updated w').state = .ok w'.state := w'.state.ofTag_tag
  rw [hread', hstate']
  obtain ⟨_, _, _, _, _⟩ := w'
  cases hid
  cases hparams
  rfl

theorem WorkflowRow.id_of_fetch_eq_ok {row : WorkflowRow} {w : Workflow} (h : row.fetch = .ok w) :
    row.id = w.id := by
  obtain ⟨-, -, hload⟩ := bind_eq_ok.1 h
  exact (load_eq_ok hload).1.symm

/-- Malformed parameters are those of the row that is named. -/
theorem WorkflowRow.id_of_fetch_eq_malformed {row : WorkflowRow} {id : Int} {reason : String}
    (h : row.fetch = .error (.malformedParams .workflow id reason)) : row.id = id := by
  rcases bind_eq_error.1 h with h | ⟨-, -, h⟩
  · exact absurd h (StoreError.ofColumn_ne_malformed _ _ _ _)
  · unfold load at h
    split at h
    · exact (StoreError.malformedParams.inj (Except.error.inj h)).2.1
    · split at h <;> exact absurd h (by simp)

/-- What is found in a row, columns first. -/
def TransferRow.fetch (row : TransferRow) : Except StoreError TransferTask :=
  row.readColumns.bind row.load

/-- The row of a transfer task. -/
def TransferRow.ofTask (t : TransferTask) : TransferRow where
  id := t.id
  rebalanceId := .int t.rebalanceId
  type := t.type.tag
  state := t.state.tag
  params := t.params.toText
  progress := t.progress
  message := t.message

/-- The task, where no zero amount has a minus sign. -/
def TransferTask.plain (t : TransferTask) : TransferTask := { t with params := t.params.plain }

/-- A state is read from its word. -/
theorem TransferState.ofTag_tag (state : TransferState) : ofTag state.tag = .ok state := by
  cases state <;> decide

/-- **A transfer task is read from its row.** -/
theorem TransferRow.fetch_ofTask (t : TransferTask) : (ofTask t).fetch = .ok t.plain := by
  have hparams : TransferParams.ofText (ofTask t).params = .ok t.params.plain :=
    t.params.ofText_toText
  have htype : TransferType.ofTag (ofTask t).type = .ok t.type := by
    show TransferType.ofTag t.type.tag = .ok t.type
    cases t.type <;> decide
  have hstate : TransferState.ofTag (ofTask t).state = .ok t.state := t.state.ofTag_tag
  show (ofTask t).load t.rebalanceId = .ok t.plain
  unfold load
  rw [hparams, htype, hstate]
  rfl

/-- A copy that was read from a row, and changed, is read from the row that it was written to. -/
theorem TransferRow.fetch_updated {row : TransferRow} {t t' : TransferTask} (h : row.fetch = .ok t)
    (hid : t'.id = t.id) (hrebalance : t'.rebalanceId = t.rebalanceId) (htype : t'.type = t.type)
    (hparams : t'.params = t.params) : (row.updated t').fetch = .ok t' := by
  obtain ⟨rebalanceId, hcolumns, hload⟩ := bind_eq_ok.1 h
  obtain ⟨_, hnumber, hstamps⟩ := bind_eq_ok.1 (StoreError.ofColumn_eq_ok.1 hcolumns)
  obtain ⟨_, hcreated, hrest⟩ := bind_eq_ok.1 hstamps
  obtain ⟨_, -, hread⟩ := bind_eq_ok.1 hrest
  cases hread
  have hcolumns' : (row.updated t').readColumns = .ok rebalanceId :=
    StoreError.ofColumn_eq_ok.2
      (bind_eq_ok.2 ⟨rebalanceId, hnumber, bind_eq_ok.2 ⟨(), hcreated, rfl⟩⟩)
  refine bind_eq_ok.2 ⟨rebalanceId, hcolumns', ?_⟩
  unfold load at hload ⊢
  split at hload
  · exact absurd hload (by simp)
  split at hload
  · exact absurd hload (by simp)
  split at hload
  · exact absurd hload (by simp)
  rename_i params hread _ type hword _ state _
  cases hload
  have hread' : TransferParams.ofText (row.updated t').params = .ok params := hread
  have hword' : TransferType.ofTag (row.updated t').type = .ok type := hword
  have hstate' : TransferState.ofTag (row.updated t').state = .ok t'.state := t'.state.ofTag_tag
  rw [hread', hword', hstate']
  obtain ⟨_, _, _, _, _, _, _⟩ := t'
  cases hid
  cases hrebalance
  cases htype
  cases hparams
  rfl

theorem TransferRow.id_of_fetch_eq_ok {row : TransferRow} {t : TransferTask}
    (h : row.fetch = .ok t) : row.id = t.id := by
  obtain ⟨_, -, hload⟩ := bind_eq_ok.1 h
  exact (load_eq_ok hload).1.symm

theorem TransferRow.id_of_fetch_eq_malformed {row : TransferRow} {id : Int} {reason : String}
    (h : row.fetch = .error (.malformedParams .transfer id reason)) : row.id = id := by
  rcases bind_eq_error.1 h with h | ⟨_, -, h⟩
  · exact absurd h (StoreError.ofColumn_ne_malformed _ _ _ _)
  · unfold load at h
    split at h
    · exact (StoreError.malformedParams.inj (Except.error.inj h)).2.1
    · split at h
      · exact absurd h (by simp)
      · split at h <;> exact absurd h (by simp)

namespace Store

/-! ## What comes of the open records comes of one of their rows -/

theorem exists_of_findOpenWorkflows {s : Store} {ws : List Workflow}
    (h : s.findOpenWorkflows = .ok ws) : ∀ w ∈ ws, ∃ row ∈ s.workflows.rows, row.fetch = .ok w := by
  intro w hw
  obtain ⟨_, hcolumns, hload⟩ := bind_eq_ok.1 h
  obtain ⟨row, hrow, hloaded⟩ := exists_mem_of_forall₂ (mapM_eq_ok.1 hload) hw
  have hchecked : row.checkColumns = .ok () := forM_eq_ok.1 hcolumns row hrow
  exact ⟨row, List.mem_of_mem_filter hrow, bind_eq_ok.2 ⟨(), hchecked, hloaded⟩⟩

theorem exists_of_findOpenWorkflows_eq_error {s : Store} {e : StoreError}
    (h : s.findOpenWorkflows = .error e) : ∃ row ∈ s.workflows.rows, row.fetch = .error e := by
  rcases bind_eq_error.1 h with hcolumns | ⟨_, hcolumns, hload⟩
  · obtain ⟨row, hrow, hfailed⟩ := exists_of_forM_eq_error hcolumns
    exact ⟨row, List.mem_of_mem_filter hrow, bind_eq_error.2 (.inl hfailed)⟩
  · obtain ⟨row, hrow, hfailed⟩ := exists_of_mapM_eq_error hload
    have hchecked : row.checkColumns = .ok () := forM_eq_ok.1 hcolumns row hrow
    exact ⟨row, List.mem_of_mem_filter hrow, bind_eq_error.2 (.inr ⟨(), hchecked, hfailed⟩)⟩

theorem exists_of_findOpenTransfers {s : Store} {ts : List TransferTask}
    (h : s.findOpenTransfers = .ok ts) : ∀ t ∈ ts, ∃ row ∈ s.transfers.rows, row.fetch = .ok t := by
  intro t ht
  obtain ⟨read, hread, hload⟩ := bind_eq_ok.1 h
  obtain ⟨pair, hpair, hloaded⟩ := exists_mem_of_forall₂ (mapM_eq_ok.1 hload) ht
  obtain ⟨row, hrow, hpaired⟩ := exists_mem_of_forall₂ (mapM_eq_ok.1 hread) hpair
  obtain ⟨rebalanceId, hcolumns, rfl⟩ := map_eq_ok.1 hpaired
  exact ⟨row, List.mem_of_mem_filter hrow, bind_eq_ok.2 ⟨rebalanceId, hcolumns, hloaded⟩⟩

theorem exists_of_findOpenTransfers_eq_error {s : Store} {e : StoreError}
    (h : s.findOpenTransfers = .error e) : ∃ row ∈ s.transfers.rows, row.fetch = .error e := by
  rcases bind_eq_error.1 h with hread | ⟨read, hread, hload⟩
  · obtain ⟨row, hrow, hfailed⟩ := exists_of_mapM_eq_error hread
    exact ⟨row, List.mem_of_mem_filter hrow, bind_eq_error.2 (.inl (map_eq_error.1 hfailed))⟩
  · obtain ⟨pair, hpair, hfailed⟩ := exists_of_mapM_eq_error hload
    obtain ⟨row, hrow, hpaired⟩ := exists_mem_of_forall₂ (mapM_eq_ok.1 hread) hpair
    obtain ⟨rebalanceId, hcolumns, rfl⟩ := map_eq_ok.1 hpaired
    exact ⟨row, List.mem_of_mem_filter hrow,
      bind_eq_error.2 (.inr ⟨rebalanceId, hcolumns, hfailed⟩)⟩

/-! ## Rows that were written here -/

/-- A workflow with these parameters stands under a number. -/
def HoldsWorkflow (s : Store) (id : Int) (params : WorkflowParams) : Prop :=
  ∃ w : Workflow, w.id = id ∧ w.params = params ∧ .ofWorkflow w ∈ s.workflows.rows

/-- A transfer task with these parameters stands under a number. -/
def HoldsTransfer (s : Store) (id : Int) (params : TransferParams) : Prop :=
  ∃ t : TransferTask, t.id = id ∧ t.params = params ∧ .ofTask t ∈ s.transfers.rows

/-- What the store says of a workflow that was opened with these parameters, however it is asked. -/
structure KeepsWorkflow (s : Store) (id : Int) (params : WorkflowParams) : Prop where
  /-- It is found under its number, with its parameters. -/
  found : ∃ w, s.findWorkflow id = .ok w ∧ w.id = id ∧ w.params = params
  /-- It has them among the open ones, too. -/
  listed : ∀ ws, s.findOpenWorkflows = .ok ws → ∀ w ∈ ws, w.id = id → w.params = params
  /-- It is never the one that keeps the others from being found. -/
  wellFormed : ∀ reason, s.findOpenWorkflows ≠ .error (.malformedParams .workflow id reason)

/-- What the store says of a transfer task that was opened with these parameters. -/
structure KeepsTransfer (s : Store) (id : Int) (params : TransferParams) : Prop where
  /-- It is found under its number, with its parameters. -/
  found : ∃ t, s.findTransfer id = .ok t ∧ t.id = id ∧ t.params = params
  /-- It has them among the open ones, too. -/
  listed : ∀ ts, s.findOpenTransfers = .ok ts → ∀ t ∈ ts, t.id = id → t.params = params
  /-- It is never the one that keeps the others from being found. -/
  wellFormed : ∀ reason, s.findOpenTransfers ≠ .error (.malformedParams .transfer id reason)

theorem HoldsWorkflow.keeps {s : Store} (hs : (s.workflows.rows.map (·.id)).Nodup) {id : Int}
    {params : WorkflowParams} (h : s.HoldsWorkflow id params) : s.KeepsWorkflow id params := by
  obtain ⟨w, rfl, rfl, hrow⟩ := h
  -- whatever is read under the number is read from this row
  have honly : ∀ row ∈ s.workflows.rows, row.id = w.id → row.fetch = .ok w := by
    intro row hmem hid
    rw [List.inj_on_of_nodup_map hs hmem hrow hid]
    exact WorkflowRow.fetch_ofWorkflow w
  refine ⟨⟨w, ?_, rfl, rfl⟩, fun ws hws other hother hid => ?_, fun reason hfailed => ?_⟩
  · unfold findWorkflow
    rw [find?_number (n := w.id) hs hrow rfl]
    exact WorkflowRow.fetch_ofWorkflow w
  · obtain ⟨row, hmem, hread⟩ := exists_of_findOpenWorkflows hws other hother
    have hrowid := (WorkflowRow.id_of_fetch_eq_ok hread).trans hid
    rw [Except.ok.inj (hread.symm.trans (honly row hmem hrowid))]
  · obtain ⟨row, hmem, hread⟩ := exists_of_findOpenWorkflows_eq_error hfailed
    have hrowid := WorkflowRow.id_of_fetch_eq_malformed hread
    exact absurd (hread.symm.trans (honly row hmem hrowid)) (by simp)

theorem HoldsTransfer.keeps {s : Store} (hs : (s.transfers.rows.map (·.id)).Nodup) {id : Int}
    {params : TransferParams} (h : s.HoldsTransfer id params) :
    s.KeepsTransfer id params.plain := by
  obtain ⟨t, rfl, rfl, hrow⟩ := h
  have honly : ∀ row ∈ s.transfers.rows, row.id = t.id → row.fetch = .ok t.plain := by
    intro row hmem hid
    rw [List.inj_on_of_nodup_map hs hmem hrow hid]
    exact TransferRow.fetch_ofTask t
  refine ⟨⟨t.plain, ?_, rfl, rfl⟩, fun ts hts other hother hid => ?_, fun reason hfailed => ?_⟩
  · unfold findTransfer
    rw [find?_number (n := t.id) hs hrow rfl]
    exact TransferRow.fetch_ofTask t
  · obtain ⟨row, hmem, hread⟩ := exists_of_findOpenTransfers hts other hother
    have hrowid := (TransferRow.id_of_fetch_eq_ok hread).trans hid
    rw [Except.ok.inj (hread.symm.trans (honly row hmem hrowid))]
    rfl
  · obtain ⟨row, hmem, hread⟩ := exists_of_findOpenTransfers_eq_error hfailed
    have hrowid := TransferRow.id_of_fetch_eq_malformed hread
    exact absurd (hread.symm.trans (honly row hmem hrowid)) (by simp)

/-! ## Opening -/

/-- The store with a transfer task in its first state under the next number. -/
def withCreated (s : Store) (rebalanceId : Int) (type : TransferType) (params : TransferParams) :
    Store :=
  let id := s.transfers.last + 1
  { s with transfers := s.transfers.push id (.opened rebalanceId type params id) }

theorem holdsTransfer_withCreated (s : Store) (rebalanceId : Int) (type : TransferType)
    (params : TransferParams) :
    (s.withCreated rebalanceId type params).HoldsTransfer (s.transfers.last + 1) params :=
  ⟨⟨_, rebalanceId, type, .init, params, "", ""⟩, rfl, rfl,
    List.mem_append_right _ (List.mem_singleton_self _)⟩

/-- **A transfer task is opened under the next number**, as long as there is one. -/
theorem createTransfer_eq {s : Store} (hs : s.transfers.Numbered TransferRow.id)
    (rebalanceId : Int) (type : TransferType) (params : TransferParams) :
    s.createTransfer rebalanceId type params =
      if s.transfers.last < Table.maxId then
        (s.withCreated rebalanceId type params,
          .ok ⟨s.transfers.last + 1, rebalanceId, type, .init, params.plain, "", ""⟩)
      else (s, .error (.violation .full)) := by
  split
  · rename_i hleft
    have hnext : s.transfers.nextId? = some (s.transfers.last + 1) := if_pos hleft
    have hinsert : s.insertTransfer rebalanceId type params =
        .ok (s.withCreated rebalanceId type params, s.transfers.last + 1) :=
      insertTransfer_eq_ok.2 ⟨hnext, rfl⟩
    have hnumbered : (s.withCreated rebalanceId type params).transfers.Numbered TransferRow.id :=
      hs.push hnext rfl
    have hrow : .ofTask ⟨s.transfers.last + 1, rebalanceId, type, .init, params, "", ""⟩ ∈
        (s.withCreated rebalanceId type params).transfers.rows :=
      List.mem_append_right _ (List.mem_singleton_self _)
    unfold createTransfer
    rw [hinsert]
    dsimp only
    unfold findTransfer
    rw [find?_number (n := s.transfers.last + 1) hnumbered.nodup hrow rfl]
    exact congrArg (Prod.mk _) (TransferRow.fetch_ofTask _)
  · rename_i hfull
    have hnumber : s.transfers.nextNumber = .error .full := by
      unfold Table.nextNumber Table.nextId?
      rw [if_neg hfull]
    have hinsert : s.insertTransfer rebalanceId type params = .error .full := by
      unfold insertTransfer
      rw [hnumber]
      rfl
    unfold createTransfer
    rw [hinsert]

end Store

end Treasury
