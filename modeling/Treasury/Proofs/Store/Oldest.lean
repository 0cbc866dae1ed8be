import Mathlib.Data.List.TakeWhile
import Treasury.Proofs.Store.Numbered
import Treasury.Proofs.Store.Params
import Treasury.Store.Import

/-!
# The oldest open record

Ticks take the first of the open records that they find. As rows stand in the order of their
numbers, also those that other programs have written (`Store.Ordered.importRow`), this is the one
with the least number (`Store.oldestWorkflow?_eq_some`, `Store.oldestTransfer?_eq_some`). And an
update finds no other row than the one of its number, so it replaces that row where it stands
(`Table.Numbered.update_eq`).
-/

namespace Treasury

variable {α : Type} {number : α → Int}

/-- The first of the rows that are looked for is the one with the least number. -/
theorem head?_filter_eq_some {rows : List α} (h : rows.Pairwise fun a b => number a < number b)
    {q : α → Bool} {row : α} :
    (rows.filter q).head? = some row ↔
      row ∈ rows ∧ q row = true ∧ ∀ other ∈ rows, q other = true → number row ≤ number other := by
  constructor
  · intro hhead
    obtain ⟨rest, hrows⟩ := List.head?_eq_some_iff.1 hhead
    have hsorted := h.sublist (List.filter_sublist (p := q))
    rw [hrows] at hsorted
    have hmem : row ∈ rows.filter q := hrows ▸ List.mem_cons_self
    refine ⟨(List.mem_filter.1 hmem).1, (List.mem_filter.1 hmem).2, fun other hother hq => ?_⟩
    have hfound : other ∈ row :: rest := hrows ▸ List.mem_filter.2 ⟨hother, hq⟩
    rcases List.mem_cons.1 hfound with rfl | hrest
    · exact Int.le_refl _
    · exact Int.le_of_lt ((List.pairwise_cons.1 hsorted).1 other hrest)
  · rintro ⟨hrow, hq, hleast⟩
    have hsorted := h.sublist (List.filter_sublist (p := q))
    have hmem : row ∈ rows.filter q := List.mem_filter.2 ⟨hrow, hq⟩
    cases hrows : rows.filter q with
    | nil => exact absurd (hrows ▸ hmem) List.not_mem_nil
    | cons first rest =>
      rw [hrows] at hsorted hmem
      rcases List.mem_cons.1 hmem with rfl | hrest
      · rfl
      · -- the first row would have a number below the least one
        have hfirst : first ∈ rows.filter q := hrows ▸ List.mem_cons_self
        have hlt := (List.pairwise_cons.1 hsorted).1 row hrest
        have hle := hleast first (List.mem_filter.1 hfirst).1 (List.mem_filter.1 hfirst).2
        omega

/-- What is not dropped from rows in order is not below the bound. -/
theorem le_of_mem_dropWhile {rows : List α} (h : rows.Pairwise fun a b => number a < number b)
    {bound : Int} : ∀ row ∈ rows.dropWhile (fun r => number r < bound), bound ≤ number row := by
  induction rows with
  | nil => exact fun _ hrow => absurd hrow List.not_mem_nil
  | cons first rest ih =>
    obtain ⟨hfirst, hrest⟩ := List.pairwise_cons.1 h
    rw [List.dropWhile_cons]
    split
    · exact ih hrest
    · rename_i hge
      have hbound : bound ≤ number first := by simpa using hge
      refine List.forall_mem_cons.2 ⟨hbound, fun row hrow => ?_⟩
      exact Int.le_trans hbound (Int.le_of_lt (hfirst row hrow))

namespace Table

/-- A row with a number of its own is put where its number belongs. -/
theorem Numbered.place {t : Table α} (h : t.Numbered number) {row : α}
    (hnew : ∀ r ∈ t.rows, number r ≠ number row) : (t.place number row).Numbered number where
  increasing := by
    have hbefore : ∀ r ∈ t.rows.takeWhile (fun r => number r < number row),
        number r < number row := fun r hr => by simpa using List.mem_takeWhile_imp hr
    have hafter : ∀ r ∈ t.rows.dropWhile (fun r => number r < number row),
        number row < number r := by
      intro r hr
      have hle := le_of_mem_dropWhile h.increasing r hr
      have hne := hnew r ((List.dropWhile_sublist _).subset hr)
      omega
    refine List.pairwise_append.2 ⟨h.increasing.sublist (List.takeWhile_sublist _),
      List.pairwise_cons.2 ⟨hafter, h.increasing.sublist (List.dropWhile_sublist _)⟩, ?_⟩
    intro a ha b hb
    rcases List.mem_cons.1 hb with rfl | hb
    · exact hbefore a ha
    · exact Int.lt_trans (hbefore a ha) (hafter b hb)
  le_last := by
    intro a ha
    show number a ≤ max t.last (number row)
    have hrows : a = row ∨ a ∈ t.rows := by
      rcases List.mem_append.1 ha with ha | ha
      · exact .inr ((List.takeWhile_sublist _).subset ha)
      · exact (List.mem_cons.1 ha).imp_right fun ha => (List.dropWhile_sublist _).subset ha
    rcases hrows with rfl | hmem
    · exact Int.le_max_right _ _
    · exact Int.le_trans (h.le_last a hmem) (Int.le_max_left _ _)

/-- Between two tables, one row has been replaced by another. -/
def Replaces (t t' : Table α) (row row' : α) : Prop :=
  ∃ before after, t.rows = before ++ row :: after ∧ t'.rows = before ++ row' :: after
    ∧ t'.last = t.last

theorem replaces_of_eq {t t' : Table α} (h : t' = t) {row : α} (hrow : row ∈ t.rows) :
    t.Replaces t' row row := by
  obtain ⟨before, after, hrows⟩ := List.append_of_mem hrow
  exact ⟨before, after, hrows, h ▸ hrows, congrArg last h⟩

/-- **An update of the row of a number replaces that row and no other.** -/
theorem Numbered.update_eq {t : Table α} (h : t.Numbered number) {p : α → Bool} {f : α → α}
    {row : α} (hrow : row ∈ t.rows) (hp : p row = true)
    (honly : ∀ r, p r = true → number r = number row) :
    t.Replaces (t.update p f).1 row (f row) := by
  obtain ⟨before, after, hrows⟩ := List.append_of_mem hrow
  have hsorted := h.increasing
  rw [hrows] at hsorted
  obtain ⟨-, hback, hfront⟩ := List.pairwise_append.1 hsorted
  obtain ⟨hafter, -⟩ := List.pairwise_cons.1 hback
  have hkept : ∀ rows : List α, (∀ r ∈ rows, number r ≠ number row) →
      (rows.map fun r => if p r then f r else r) = rows := by
    intro rows hne
    refine (List.map_congr_left fun r hr => ?_).trans (List.map_id rows)
    exact if_neg fun hpr => hne r hr (honly r hpr)
  refine ⟨before, after, hrows, ?_, rfl⟩
  show (t.rows.map fun r => if p r then f r else r) = _
  rw [hrows, List.map_append, List.map_cons, if_pos hp,
    hkept before fun r hr => Int.ne_of_lt (hfront r hr row List.mem_cons_self),
    hkept after fun r hr => (Int.ne_of_lt (hafter r hr)).symm]

/-- What is done twice to the same rows is as good as done once. -/
theorem update_update {t : Table α} {p : α → Bool} {f : α → α}
    (hp : ∀ r, p r = true → p (f r) = true) (hf : ∀ r, f (f r) = f r) :
    ((t.update p f).1.update p f).1 = (t.update p f).1 := by
  refine congrArg (Table.mk · t.last) ?_
  show (t.rows.map _).map _ = t.rows.map _
  rw [List.map_map]
  refine List.map_congr_left fun r _ => ?_
  dsimp only [Function.comp_apply]
  by_cases hr : p r = true
  · rw [if_pos hr, if_pos (hp r hr), hf]
  · rw [if_neg hr, if_neg hr]

theorem Replaces.mem {t t' : Table α} {row row' : α} (h : t.Replaces t' row row') :
    row' ∈ t'.rows := by
  obtain ⟨before, after, -, hrows, -⟩ := h
  exact hrows ▸ List.mem_append_right _ List.mem_cons_self

/-- A row that is the first one looked for still is when it has been replaced by one that is looked
for. -/
theorem Replaces.filter_eq {t t' : Table α} {row row' : α} (h : t.Replaces t' row row')
    (ht : t.Numbered number) {q : α → Bool} {rest : List α}
    (hfirst : t.rows.filter q = row :: rest) (hq : q row' = true) :
    t'.rows.filter q = row' :: rest := by
  obtain ⟨before, after, hrows, hrows', -⟩ := h
  obtain ⟨-, hrow, hleast⟩ := (head?_filter_eq_some ht.increasing).1
    (List.head?_eq_some_iff.2 ⟨rest, hfirst⟩)
  have hsorted := ht.increasing
  rw [hrows] at hsorted hfirst hleast
  -- whatever stands before the row has a lesser number, so it is not looked for
  have hbefore : before.filter q = [] := by
    refine List.filter_eq_nil_iff.2 fun r hr hqr => ?_
    have hlt := (List.pairwise_append.1 hsorted).2.2 r hr row List.mem_cons_self
    have hle := hleast r (List.mem_append_left _ hr) hqr
    omega
  rw [List.filter_append, hbefore, List.filter_cons_of_pos hrow] at hfirst
  rw [hrows', List.filter_append, hbefore, List.filter_cons_of_pos hq]
  exact congrArg (row' :: ·) (List.cons.inj hfirst).2

end Table

namespace Store

/-- The rows of every table stand in the order of their numbers. -/
structure Ordered (s : Store) : Prop where
  workflows : s.workflows.Numbered WorkflowRow.id
  tasks : s.tasks.Numbered TaskRow.id
  transfers : s.transfers.Numbered TransferRow.id

instance (s : Store) : Decidable s.Ordered :=
  decidable_of_iff
    (((s.workflows.rows.Pairwise fun a b => a.id < b.id)
        ∧ ∀ row ∈ s.workflows.rows, row.id ≤ s.workflows.last)
      ∧ ((s.tasks.rows.Pairwise fun a b => a.id < b.id)
        ∧ ∀ row ∈ s.tasks.rows, row.id ≤ s.tasks.last)
      ∧ (s.transfers.rows.Pairwise fun a b => a.id < b.id)
        ∧ ∀ row ∈ s.transfers.rows, row.id ≤ s.transfers.last)
    ⟨fun ⟨hw, ht, hx⟩ => ⟨⟨hw.1, hw.2⟩, ⟨ht.1, ht.2⟩, ⟨hx.1, hx.2⟩⟩,
      fun ⟨hw, ht, hx⟩ => ⟨⟨hw.1, hw.2⟩, ⟨ht.1, ht.2⟩, ⟨hx.1, hx.2⟩⟩⟩

theorem ordered_empty : Ordered .empty := ⟨.empty, .empty, .empty⟩

end Store

namespace Import

theorem numbered_place {name : String} {table placed : Table α} {row : α}
    (h : place name table number row = .ok placed) (hs : table.Numbered number) :
    placed.Numbered number := by
  unfold place at h
  split at h
  · exact absurd h (by simp)
  · rename_i hnew
    cases h
    exact hs.place fun r hr he => hnew (List.any_eq_true.2 ⟨r, hr, beq_iff_eq.2 he⟩)

theorem exists_of_workflow {s s' : Store} {row : Row} {check : Bool} {id : Int}
    (h : workflow s row check = .ok (s', id)) : ∃ written placed,
      place row.table s.workflows WorkflowRow.id written = .ok placed
        ∧ s' = { s with workflows := placed } := by
  unfold workflow at h
  simp only [bind_eq_ok] at h
  obtain ⟨-, -, _, -, _, -, _, -, _, -, _, -, _, -, _, -, -, -, placed, hplaced, h⟩ := h
  cases h
  exact ⟨_, placed, hplaced, rfl⟩

theorem exists_of_task {s s' : Store} {row : Row} {check : Bool} {id : Int}
    (h : task s row check = .ok (s', id)) : ∃ written placed,
      place row.table s.tasks TaskRow.id written = .ok placed
        ∧ s' = { s with tasks := placed } := by
  unfold task at h
  simp only [bind_eq_ok] at h
  obtain ⟨-, -, _, -, _, -, _, -, _, -, _, -, _, -, _, -, _, -, _, -, _, -, _, -, _, -, _, -, _, -,
    _, -, _, -, _, -, -, -, placed, hplaced, -, -, h⟩ := h
  cases h
  exact ⟨_, placed, hplaced, rfl⟩

theorem exists_of_transfer {s s' : Store} {row : Row} {check : Bool} {id : Int}
    (h : transfer s row check = .ok (s', id)) : ∃ written placed,
      place row.table s.transfers TransferRow.id written = .ok placed
        ∧ s' = { s with transfers := placed } := by
  unfold transfer at h
  simp only [bind_eq_ok] at h
  obtain ⟨-, -, _, -, _, -, _, -, _, -, _, -, _, -, _, -, _, -, _, -, -, -, placed, hplaced, h⟩ := h
  cases h
  exact ⟨_, placed, hplaced, rfl⟩

theorem exists_of_lease {s s' : Store} {row : Row} {now id : Int}
    (h : lease s row now = .ok (s', id)) : ∃ leases, s' = { s with leases := leases } := by
  unfold lease Store.insertLease at h
  simp only [bind_eq_ok] at h
  obtain ⟨-, -, _, -, _, -, _, -, h⟩ := h
  split at h
  · exact absurd h (by simp)
  · cases h
    exact ⟨_, rfl⟩

end Import

namespace Store

/-- **Rows from elsewhere keep the order**, also where no condition on their columns is checked. -/
theorem Ordered.importRow {s s' : Store} (hs : s.Ordered) {table : String}
    {columns : List (String × Json)} {check : Bool} {now id : Int}
    (h : s.importRow table columns check now = .ok (s', id)) : s'.Ordered := by
  unfold Store.importRow at h
  dsimp only at h
  split at h
  · obtain ⟨_, _, hplaced, rfl⟩ := Import.exists_of_workflow h
    exact ⟨Import.numbered_place hplaced hs.workflows, hs.tasks, hs.transfers⟩
  split at h
  · obtain ⟨_, _, hplaced, rfl⟩ := Import.exists_of_task h
    exact ⟨hs.workflows, Import.numbered_place hplaced hs.tasks, hs.transfers⟩
  split at h
  · obtain ⟨_, _, hplaced, rfl⟩ := Import.exists_of_transfer h
    exact ⟨hs.workflows, hs.tasks, Import.numbered_place hplaced hs.transfers⟩
  split at h
  · obtain ⟨_, rfl⟩ := Import.exists_of_lease h
    exact ⟨hs.workflows, hs.tasks, hs.transfers⟩
  · exact absurd h (by simp)

/-! ## Open records -/

/-- The row of the oldest open workflow. -/
def oldestWorkflow? (s : Store) : Option WorkflowRow := s.openWorkflowRows.head?

/-- The rows of the open transfer tasks, oldest first. -/
def openTransferRows (s : Store) : List TransferRow := s.transfers.rows.filter (·.isOpen)

/-- The row of the oldest open transfer task. -/
def oldestTransfer? (s : Store) : Option TransferRow := s.openTransferRows.head?

theorem oldestWorkflow?_eq_some {s : Store} (hs : s.workflows.Numbered WorkflowRow.id)
    {row : WorkflowRow} : s.oldestWorkflow? = some row ↔
      row ∈ s.workflows.rows ∧ row.isOpen = true
        ∧ ∀ other ∈ s.workflows.rows, other.isOpen = true → row.id ≤ other.id :=
  head?_filter_eq_some hs.increasing

theorem oldestTransfer?_eq_some {s : Store} (hs : s.transfers.Numbered TransferRow.id)
    {row : TransferRow} : s.oldestTransfer? = some row ↔
      row ∈ s.transfers.rows ∧ row.isOpen = true
        ∧ ∀ other ∈ s.transfers.rows, other.isOpen = true → row.id ≤ other.id :=
  head?_filter_eq_some hs.increasing

/-- **The open workflows are what is found in the open rows.** -/
theorem findOpenWorkflows_eq_ok {s : Store} {ws : List Workflow} :
    s.findOpenWorkflows = .ok ws ↔
      List.Forall₂ (fun row w => WorkflowRow.fetch row = .ok w) s.openWorkflowRows ws := by
  have hfetch : ∀ (row : WorkflowRow) (w : Workflow),
      row.fetch = .ok w ↔ row.checkColumns = .ok () ∧ row.load = .ok w := fun row w =>
    bind_eq_ok.trans ⟨fun ⟨_, hcheck, hload⟩ => ⟨hcheck, hload⟩,
      fun ⟨hcheck, hload⟩ => ⟨(), hcheck, hload⟩⟩
  simp only [hfetch, List.forall₂_and_left, ← mapM_eq_ok]
  refine bind_eq_ok.trans ⟨fun ⟨_, hcheck, hload⟩ => ⟨forM_eq_ok.1 hcheck, hload⟩,
    fun ⟨hcheck, hload⟩ => ⟨(), forM_eq_ok.2 hcheck, hload⟩⟩

/-- **The open transfer tasks are what is found in the open rows.** -/
theorem findOpenTransfers_eq_ok {s : Store} {ts : List TransferTask} :
    s.findOpenTransfers = .ok ts ↔
      List.Forall₂ (fun row t => TransferRow.fetch row = .ok t) s.openTransferRows ts := by
  unfold openTransferRows
  refine bind_eq_ok.trans ?_
  simp only [mapM_eq_ok]
  generalize s.transfers.rows.filter (·.isOpen) = rows
  constructor
  · rintro ⟨read, hread, hload⟩
    refine forall₂_trans hread hload fun row _ pair t hpair ht => ?_
    obtain ⟨rebalanceId, hcolumns, rfl⟩ := map_eq_ok.1 hpair
    exact bind_eq_ok.2 ⟨rebalanceId, hcolumns, ht⟩
  · intro h
    induction h with
    | nil => exact ⟨[], .nil, .nil⟩
    | cons hrow _ ih =>
      obtain ⟨rebalanceId, hcolumns, hload⟩ := bind_eq_ok.1 hrow
      obtain ⟨read, hread, hloaded⟩ := ih
      exact ⟨(_, rebalanceId) :: read, .cons (map_eq_ok.2 ⟨rebalanceId, hcolumns, rfl⟩) hread,
        .cons hload hloaded⟩

/-- **The first workflow that is found is read from the oldest row.** -/
theorem oldest_of_findOpenWorkflows {s : Store} {w : Workflow} {rest : List Workflow}
    (h : s.findOpenWorkflows = .ok (w :: rest)) :
    ∃ row, s.oldestWorkflow? = some row ∧ row.fetch = .ok w := by
  obtain ⟨row, rows, hfetch, -, hrows⟩ :=
    List.forall₂_cons_right_iff.1 (findOpenWorkflows_eq_ok.1 h)
  exact ⟨row, List.head?_eq_some_iff.2 ⟨rows, hrows⟩, hfetch⟩

/-- **The first transfer task that is found is read from the oldest row.** -/
theorem oldest_of_findOpenTransfers {s : Store} {t : TransferTask} {rest : List TransferTask}
    (h : s.findOpenTransfers = .ok (t :: rest)) :
    ∃ row, s.oldestTransfer? = some row ∧ row.fetch = .ok t := by
  obtain ⟨row, rows, hfetch, -, hrows⟩ :=
    List.forall₂_cons_right_iff.1 (findOpenTransfers_eq_ok.1 h)
  exact ⟨row, List.head?_eq_some_iff.2 ⟨rows, hrows⟩, hfetch⟩

/-! ## Writing the oldest record -/

/-- **An update replaces the row of its workflow.** -/
theorem replaces_of_updateWorkflow {s s' : Store} (hs : s.workflows.Numbered WorkflowRow.id)
    {row : WorkflowRow} (hrow : row ∈ s.workflows.rows) {expected : WorkflowState} {w : Workflow}
    (hid : row.id = w.id) (h : s.updateWorkflow expected w = .ok s') :
    s.workflows.Replaces s'.workflows row (row.updated w) := by
  obtain ⟨-, ⟨found, hfound, hat⟩, rfl⟩ := updateWorkflow_eq_ok.1 h
  obtain rfl := List.inj_on_of_nodup_map hs.nodup hfound hrow
    ((of_decide_eq_true hat).1.trans hid.symm)
  exact hs.update_eq hfound hat fun r hr => (of_decide_eq_true hr).1.trans hid.symm

/-- **An update replaces the row of its transfer task.** -/
theorem replaces_of_updateTransfer {s s' : Store} (hs : s.transfers.Numbered TransferRow.id)
    {row : TransferRow} (hrow : row ∈ s.transfers.rows) {expected : TransferState}
    {t : TransferTask} (hid : row.id = t.id) (h : s.updateTransfer expected t = .ok s') :
    s.transfers.Replaces s'.transfers row (row.updated t) := by
  obtain ⟨-, ⟨found, hfound, hat⟩, rfl⟩ := updateTransfer_eq_ok.1 h
  obtain rfl := List.inj_on_of_nodup_map hs.nodup hfound hrow
    ((of_decide_eq_true hat).1.trans hid.symm)
  exact hs.update_eq hfound hat fun r hr => (of_decide_eq_true hr).1.trans hid.symm

/-- **The oldest open workflow can be written**, and is found as it was written. -/
theorem updateWorkflow_oldest {s : Store} (hs : s.workflows.Numbered WorkflowRow.id)
    {w : Workflow} {rest : List Workflow} (h : s.findOpenWorkflows = .ok (w :: rest))
    (w' : Workflow) (hmove : w.state.canMoveTo w'.state = true) (hid : w'.id = w.id)
    (hparams : w'.params = w.params) :
    s.updateWorkflow w.state w' = .ok (s.withWorkflow w.state w')
      ∧ (s.withWorkflow w.state w').findWorkflow w.id = .ok w'
      ∧ (w'.state.isTerminal = false →
        (s.withWorkflow w.state w').findOpenWorkflows = .ok (w' :: rest)) := by
  obtain ⟨row, rows, hfetch, hrest, hrows⟩ :=
    List.forall₂_cons_right_iff.1 (findOpenWorkflows_eq_ok.1 h)
  have hrow : row ∈ s.workflows.rows :=
    List.mem_of_mem_filter (hrows ▸ List.mem_cons_self : row ∈ s.openWorkflowRows)
  have hrowId : row.id = w.id := WorkflowRow.id_of_fetch_eq_ok hfetch
  obtain ⟨_, -, hload⟩ := bind_eq_ok.1 hfetch
  have hat : row.isAt w.state w'.id = true :=
    decide_eq_true ⟨hrowId.trans hid.symm, (WorkflowRow.load_eq_ok hload).2.symm⟩
  have hupdate : s.updateWorkflow w.state w' = .ok (s.withWorkflow w.state w') :=
    updateWorkflow_eq_ok.2 ⟨hmove, ⟨row, hrow, hat⟩, rfl⟩
  have hreplaced := replaces_of_updateWorkflow hs hrow (hrowId.trans hid.symm) hupdate
  have hfetch' : (row.updated w').fetch = .ok w' := WorkflowRow.fetch_updated hfetch hid hparams
  refine ⟨hupdate, ?_, fun hopen => findOpenWorkflows_eq_ok.2 ?_⟩
  · have hnodup := (hs.update (WorkflowRow.isAt w.state w'.id) (f := WorkflowRow.updated w')
      fun _ => rfl).nodup
    have hfound := find?_number hnodup hreplaced.mem (show (row.updated w').id = w.id from hrowId)
    unfold findWorkflow
    rw [show (s.withWorkflow w.state w').workflows.rows.find? _ = _ from hfound]
    exact hfetch'
  · have hopen' : (row.updated w').isOpen = true := by
      rw [show (row.updated w').isOpen = !w'.state.isTerminal from
        WorkflowRow.isOpen_of_state rfl, hopen]
      rfl
    rw [show (s.withWorkflow w.state w').openWorkflowRows = _ from
      hreplaced.filter_eq hs hrows hopen']
    exact .cons hfetch' hrest

/-- **The oldest open transfer task can be written**, and is found as it was written. -/
theorem updateTransfer_oldest {s : Store} (hs : s.transfers.Numbered TransferRow.id)
    {t : TransferTask} {rest : List TransferTask} (h : s.findOpenTransfers = .ok (t :: rest))
    (t' : TransferTask) (hmove : t.state.canMoveTo t'.state = true) (hid : t'.id = t.id)
    (hrebalance : t'.rebalanceId = t.rebalanceId) (htype : t'.type = t.type)
    (hparams : t'.params = t.params) :
    s.updateTransfer t.state t' = .ok (s.withTransfer t.state t')
      ∧ (s.withTransfer t.state t').findTransfer t.id = .ok t'
      ∧ (t'.state = .ongoing →
        (s.withTransfer t.state t').findOpenTransfers = .ok (t' :: rest)) := by
  obtain ⟨row, rows, hfetch, hrest, hrows⟩ :=
    List.forall₂_cons_right_iff.1 (findOpenTransfers_eq_ok.1 h)
  have hrow : row ∈ s.transfers.rows :=
    List.mem_of_mem_filter (hrows ▸ List.mem_cons_self : row ∈ s.openTransferRows)
  have hrowId : row.id = t.id := TransferRow.id_of_fetch_eq_ok hfetch
  obtain ⟨_, -, hload⟩ := bind_eq_ok.1 hfetch
  have hat : row.isAt t.state t'.id = true :=
    decide_eq_true ⟨hrowId.trans hid.symm, (TransferRow.load_eq_ok hload).2.2.1⟩
  have hupdate : s.updateTransfer t.state t' = .ok (s.withTransfer t.state t') :=
    updateTransfer_eq_ok.2 ⟨hmove, ⟨row, hrow, hat⟩, rfl⟩
  have hreplaced := replaces_of_updateTransfer hs hrow (hrowId.trans hid.symm) hupdate
  have hfetch' : (row.updated t').fetch = .ok t' :=
    TransferRow.fetch_updated hfetch hid hrebalance htype hparams
  refine ⟨hupdate, ?_, fun hopen => findOpenTransfers_eq_ok.2 ?_⟩
  · have hnodup := (hs.update (TransferRow.isAt t.state t'.id) (f := TransferRow.updated t')
      fun _ => rfl).nodup
    have hfound := find?_number hnodup hreplaced.mem (show (row.updated t').id = t.id from hrowId)
    unfold findTransfer
    rw [show (s.withTransfer t.state t').transfers.rows.find? _ = _ from hfound]
    exact hfetch'
  · have hopen' : (row.updated t').isOpen = true := by
      unfold TransferRow.isOpen
      rw [show (row.updated t').state = TransferState.ongoing.tag from
        congrArg TransferState.tag hopen]
      decide
    rw [show (s.withTransfer t.state t').openTransferRows = _ from
      hreplaced.filter_eq hs hrows hopen']
    exact .cons hfetch' hrest

end Store

end Treasury
