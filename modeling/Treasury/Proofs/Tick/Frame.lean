import Treasury.Proofs.Gas
import Treasury.Proofs.Store.Oldest
import Treasury.Proofs.Tick.Failure

/-!
# What a tick leaves alone

A tick works on the oldest open record of its kind, and it writes that record and transactions for
it, and nothing else. Up to the phase that writes, all that is carried from one phase to the next is
a copy of that record and what was made of it (`Phase.Confined`); there is one case for each way to
advance (`confined_step`). So it does not matter what else is in the store, whether several records
are open, or whether a workflow and a transfer task have one number.
-/

namespace Treasury

namespace Store

/-- Leases aside, two stores hold the same. -/
structure SameRecords (s s' : Store) : Prop where
  workflows : s'.workflows = s.workflows
  tasks : s'.tasks = s.tasks
  transfers : s'.transfers = s.transfers

/-- Transactions were added behind those that were there, all for one owner and of these types. -/
def AddsFor (s : Store) (owner : TaskOwner) (types : TransactionType → Prop) (s' : Store) : Prop :=
  ∃ added, s'.tasks.rows = s.tasks.rows ++ added
    ∧ ∀ row ∈ added, row.ownerKind = owner.kind ∧ row.ownerId = .int owner.id
      ∧ ∃ type, types type ∧ row.type = type.tag

/-- At most the state, the message and the progress of one workflow have changed, and claims of
this workflow were added. -/
structure TouchesWorkflow (s s' : Store) (row : WorkflowRow) : Prop where
  workflows : ∃ state message progress updatedAt, s.workflows.Replaces s'.workflows row
    { row with state := state, message := message, progress := progress, updatedAt := updatedAt }
  tasks : s.AddsFor (.workflow row.id) (· = .claimFromVault) s'
  transfers : s'.transfers = s.transfers

/-- At most the state and the progress of one transfer task have changed, and transactions of this
task were added, all of its own type. -/
structure TouchesTransfer (s s' : Store) (row : TransferRow) : Prop where
  workflows : s'.workflows = s.workflows
  tasks : s.AddsFor (.assetTransfer row.id)
    (fun type => ∃ way : TransferType, row.type = way.tag ∧ type = way.transactionType) s'
  transfers : ∃ state progress updatedAt, s.transfers.Replaces s'.transfers row
    { row with state := state, progress := progress, updatedAt := updatedAt }

theorem SameRecords.refl (s : Store) : s.SameRecords s := ⟨rfl, rfl, rfl⟩

/-- Leases are no records. -/
theorem SameRecords.withLeases {s s' : Store} (h : s.SameRecords s') (leases : List LeaseRow) :
    s.SameRecords { s' with leases := leases } := ⟨h.workflows, h.tasks, h.transfers⟩

theorem addsFor_of_tasks {s s' : Store} (h : s'.tasks = s.tasks) (owner : TaskOwner)
    (types : TransactionType → Prop) : s.AddsFor owner types s' :=
  ⟨[], by rw [h, List.append_nil], fun _ hrow => absurd hrow List.not_mem_nil⟩

/-- A written batch adds transactions for its owner. -/
theorem addsFor_saveTasks {s s' : Store} {batch : List Prepared} {ids : List Int}
    {owner : TaskOwner} (types : TransactionType → Prop) (h : s.saveTasks batch = .ok (s', ids))
    (hb : ∀ p ∈ batch, p.draft.owner = owner ∧ types p.draft.type) :
    s.AddsFor owner types s' := by
  refine ⟨_, (saveTasks_rows h).1, fun row hrow => ?_⟩
  obtain ⟨p, hp, id, rfl⟩ := exists_of_mem_zipWith hrow
  obtain ⟨howner, htype⟩ := hb p hp
  exact ⟨congrArg TaskOwner.kind howner, congrArg (Cell.int ∘ TaskOwner.id) howner,
    p.draft.type, htype, rfl⟩

end Store

/-! ## Workflow ticks -/

namespace WorkflowTick

variable {desk : Desk} {s₀ s next : Store} {w : Workflow}

/-- The copy was loaded from the row of the oldest open workflow. -/
structure Copies (s₀ : Store) (w : Workflow) (row : WorkflowRow) : Prop where
  oldest : s₀.oldestWorkflow? = some row
  fetch : row.fetch = .ok w
  /-- There is something to do with it. -/
  state : w.state = .init ∨ w.state = .claimLp

/-- What a tick does to the store in the end. -/
def Touched (s₀ s : Store) : Prop :=
  s₀.SameRecords s
    ∨ ∃ row, s₀.oldestWorkflow? = some row ∧ s₀.TouchesWorkflow s row
      ∧ (row.state = WorkflowState.init.tag ∨ row.state = WorkflowState.claimLp.tag)

/-- What a tick that has come to this phase has done to the store, and what it is going to write. -/
def Phase.Confined (s₀ s : Store) : Phase → Prop
  | .waiting | .holding _ => s₀.SameRecords s
  | .executing _ _ (.entering w) => s₀.SameRecords s ∧ ∃ row, Copies s₀ w row
  | .executing _ _ (.drafted w drafts) =>
    s₀.SameRecords s ∧ (∃ row, Copies s₀ w row)
      ∧ ∀ d ∈ drafts, d.owner = .workflow w.id ∧ d.type = .claimFromVault
  | .executing _ _ (.prepared w batch) =>
    s₀.SameRecords s ∧ (∃ row, Copies s₀ w row)
      ∧ ∀ p ∈ batch, p.draft.owner = .workflow w.id ∧ p.draft.type = .claimFromVault
  | .checking _ w | .judged _ w _ => s₀.SameRecords s ∧ ∃ row, Copies s₀ w row
  | _ => Touched s₀ s

theorem Copies.row_state {row : WorkflowRow} (h : Copies s₀ w row) :
    row.state = WorkflowState.init.tag ∨ row.state = WorkflowState.claimLp.tag := by
  obtain ⟨-, -, hload⟩ := bind_eq_ok.1 h.fetch
  rw [← (WorkflowRow.load_eq_ok hload).2]
  exact h.state.imp (congrArg WorkflowState.tag) (congrArg WorkflowState.tag)

/-- A tick that moves its workflow has touched no other. -/
theorem Copies.touched {row : WorkflowRow} (h : Copies s₀ w row) (hs : s₀.Ordered)
    (hworkflows : s.workflows = s₀.workflows) (htransfers : s.transfers = s₀.transfers)
    (htasks : s₀.AddsFor (.workflow w.id) (· = .claimFromVault) s) {expected : WorkflowState}
    {w' : Workflow} (hid : w'.id = w.id) (hu : s.updateWorkflow expected w' = .ok next) :
    Touched s₀ next := by
  have hrow : row.id = w.id := WorkflowRow.id_of_fetch_eq_ok h.fetch
  have hmem := ((Store.oldestWorkflow?_eq_some hs.workflows).1 h.oldest).1
  rw [← hworkflows] at hmem
  have hreplaced := Store.replaces_of_updateWorkflow (hworkflows ▸ hs.workflows) hmem
    (hrow.trans hid.symm) hu
  rw [hworkflows] at hreplaced
  refine .inr ⟨row, h.oldest, ⟨⟨_, _, _, _, hreplaced⟩, ?_, ?_⟩, h.row_state⟩
  · obtain ⟨added, hadded, howner⟩ := htasks
    exact ⟨added, (congrArg Table.rows (Store.updateWorkflow_tasks hu)).trans hadded, hrow ▸ howner⟩
  · exact (Store.updateWorkflow_transfers hu).trans htransfers

/-- The same for a tick that writes claims, too. -/
theorem Copies.touched_of_commit {row : WorkflowRow} (h : Copies s₀ w row) (hs : s₀.Ordered)
    (hsame : s₀.SameRecords s) {batch : List Prepared}
    (hb : ∀ p ∈ batch, p.draft.owner = .workflow w.id ∧ p.draft.type = .claimFromVault)
    (hc : Claim.commit s w batch = .ok next) : Touched s₀ next := by
  obtain ⟨saved, ids, hsave, hu⟩ := Claim.commit_eq_ok.1 hc
  obtain ⟨hworkflows, htransfers, -⟩ := Store.saveTasks_frame hsave
  refine h.touched hs (hworkflows.trans hsame.workflows) (htransfers.trans hsame.transfers) ?_
    (by rfl) hu
  obtain ⟨added, hadded, howner⟩ := Store.addsFor_saveTasks (· = .claimFromVault) hsave hb
  exact ⟨added, hadded.trans (congrArg (·.rows ++ added) hsame.tasks), howner⟩

theorem copies_of_findOpenWorkflows (hsame : s₀.SameRecords s) {rest : List Workflow}
    (h : s.findOpenWorkflows = .ok (w :: rest)) (hstate : w.state = .init ∨ w.state = .claimLp) :
    ∃ row, Copies s₀ w row := by
  obtain ⟨row, holdest, hfetch⟩ := Store.oldest_of_findOpenWorkflows h
  refine ⟨row, ?_, hfetch, hstate⟩
  unfold Store.oldestWorkflow? Store.openWorkflowRows at holdest ⊢
  rw [← hsame.workflows]
  exact holdest

/-- **Every phase keeps to the oldest open workflow.** -/
theorem confined_step (hs : s₀.Ordered) (hgas : desk.gas.KeepsDrafts) {p next' : Phase}
    {events : List Event} (h : p.Confined s₀ s) (hadv : Advances desk s p (next, next', events)) :
    next'.Confined s₀ next := by
  cases hadv with
  | acquire lease leases events _ => exact h.withLeases leases
  | leaseHeld leases events _ => exact .inl (h.withLeases leases)
  | pass lease result events _ _ => exact .inl h
  | enter lease w rest events hopen hstate _ =>
    exact ⟨h, copies_of_findOpenWorkflows h hopen (.inl hstate)⟩
  | check lease w rest events hopen hstate _ =>
    exact ⟨h, copies_of_findOpenWorkflows h hopen (.inr hstate)⟩
  | nothing lease id w snapshot _ _ => exact .inl h.1
  | draft lease id w snapshot drafts _ hplan => exact ⟨h.1, h.2, Claim.claim_of_plan hplan⟩
  | skip lease id w next hu =>
    obtain ⟨hsame, ⟨row, hcopy⟩, -⟩ := h
    exact hcopy.touched hs hsame.workflows hsame.transfers
      (Store.addsFor_of_tasks hsame.tasks _ _) (by rfl) hu
  | prepare lease id w drafts batch _ hassign =>
    obtain ⟨hsame, hcopy, hdrafts⟩ := h
    have hkept := hgas _ _ _ _ hassign
    exact ⟨hsame, hcopy, fun p hp => hdrafts p.draft (hkept ▸ List.mem_map_of_mem hp)⟩
  | save lease id w batch next hc =>
    obtain ⟨hsame, ⟨row, hcopy⟩, hbatch⟩ := h
    exact hcopy.touched_of_commit hs hsame hbatch hc
  | report lease id alert transactions => exact h
  | fail lease id phase cause events hne _ =>
    cases phase with
    | entering w => exact .inl h.1
    | drafted w drafts => exact .inl h.1
    | prepared w batch => exact .inl h.1
    | announcing alert transactions => exact absurd rfl (hne alert transactions)
    | finished result => exact h
  | leave lease id outcome => exact h
  | judge lease w check _ => exact h
  | misread lease w cause => exact .inl h.1
  | settle lease w check next hu =>
    obtain ⟨hsame, row, hcopy⟩ := h
    exact hcopy.touched hs hsame.workflows hsame.transfers
      (Store.addsFor_of_tasks hsame.tasks _ _) (by rfl) hu
  | refuse lease w check cause => exact .inl h.1
  | announce lease alert outcome => exact h
  | release lease result leases events _ =>
    rcases h with h | ⟨row, holdest, h, hstate⟩
    · exact .inl (h.withLeases leases)
    · exact .inr ⟨row, holdest, ⟨h.workflows, h.tasks, h.transfers⟩, hstate⟩
  | rest result => exact h

/-- **A tick touches the oldest open workflow at most.** -/
theorem touched_run (hs : s₀.Ordered) (hgas : desk.gas.KeepsDrafts) (turn : Turn) :
    Touched s₀ (run desk turn s₀ .waiting).1 := by
  obtain ⟨last, hresult, hconfined⟩ := (phases desk turn).run_keeps
    (P := fun s p => p.Confined s₀ s)
    (fun s p h => confined_step hs hgas h (advances_step desk turn s p))
    (s := s₀) (p := .waiting) (.refl s₀)
  cases last with
  | done result => exact hconfined
  | _ => exact absurd hresult nofun

end WorkflowTick

/-! ## Transfer ticks -/

/-- What a copy of a transfer task has of its row, and no tick writes. -/
theorem TransferRow.kept_of_fetch {row : TransferRow} {t : TransferTask} (h : row.fetch = .ok t) :
    row.id = t.id ∧ row.type = t.type.tag ∧ row.message = t.message := by
  obtain ⟨rebalanceId, -, hload⟩ := bind_eq_ok.1 h
  obtain ⟨hid, htype, -, -⟩ := load_eq_ok hload
  refine ⟨hid.symm, htype, ?_⟩
  unfold load at hload
  split at hload
  · exact absurd hload (by simp)
  split at hload
  · exact absurd hload (by simp)
  split at hload
  · exact absurd hload (by simp)
  cases hload
  rfl

namespace TransferTick

variable {gas : GasAssigner} {chains : Chains} {s₀ s next : Store} {t : TransferTask}

/-- The copy was loaded from the row of the oldest open transfer task. -/
structure Copies (s₀ : Store) (t : TransferTask) (row : TransferRow) : Prop where
  oldest : s₀.oldestTransfer? = some row
  fetch : row.fetch = .ok t

/-- What a tick does to the store in the end. -/
def Touched (s₀ s : Store) : Prop :=
  s₀.SameRecords s ∨ ∃ row, s₀.oldestTransfer? = some row ∧ s₀.TouchesTransfer s row

/-- What a tick that has come to this phase has done to the store, and what it is going to write. -/
def Phase.Confined (s₀ s : Store) : Phase → Prop
  | .waiting | .holding _ => s₀.SameRecords s
  | .submitting _ t | .polling _ t | .tallied _ t _ => s₀.SameRecords s ∧ ∃ row, Copies s₀ t row
  | .prepared _ t batch =>
    s₀.SameRecords s ∧ (∃ row, Copies s₀ t row) ∧ batch.map Prepared.draft = t.drafts
  | .releasing _ _ | .done _ => Touched s₀ s

/-- A tick that moves its task has touched no other. -/
theorem Copies.touched {row : TransferRow} (h : Copies s₀ t row) (hs : s₀.Ordered)
    (hworkflows : s.workflows = s₀.workflows) (htransfers : s.transfers = s₀.transfers)
    (htasks : s₀.AddsFor t.owner (· = t.type.transactionType) s) {expected : TransferState}
    {t' : TransferTask} (hid : t'.id = t.id) (hmessage : t'.message = t.message)
    (hu : s.updateTransfer expected t' = .ok next) : Touched s₀ next := by
  obtain ⟨hrow, htype, hrowMessage⟩ := TransferRow.kept_of_fetch h.fetch
  have hmem := ((Store.oldestTransfer?_eq_some hs.transfers).1 h.oldest).1
  rw [← htransfers] at hmem
  have hreplaced := Store.replaces_of_updateTransfer (htransfers ▸ hs.transfers) hmem
    (hrow.trans hid.symm) hu
  rw [htransfers] at hreplaced
  have hkept : row.updated t' =
      { row with state := t'.state.tag, progress := t'.progress, updatedAt := .readable } := by
    unfold TransferRow.updated
    rw [hmessage, ← hrowMessage]
  refine .inr ⟨row, h.oldest, ?_, ?_, ⟨_, _, _, hkept ▸ hreplaced⟩⟩
  · exact (Store.updateTransfer_frame hu).1.trans hworkflows
  · obtain ⟨added, hadded, howner⟩ := htasks
    refine ⟨added, (congrArg Table.rows (Store.updateTransfer_frame hu).2).trans hadded, ?_⟩
    intro r hr
    obtain ⟨hkind, hownerId, _, rfl, htypeTag⟩ := howner r hr
    exact ⟨hkind, hrow ▸ hownerId, t.type.transactionType, ⟨t.type, htype, rfl⟩, htypeTag⟩

/-- The same for a tick that writes the transactions of its task, too. -/
theorem Copies.touched_of_commit {row : TransferRow} (h : Copies s₀ t row) (hs : s₀.Ordered)
    (hsame : s₀.SameRecords s) {batch : List Prepared} (hb : batch.map Prepared.draft = t.drafts)
    (hc : commit s t batch = .ok next) : Touched s₀ next := by
  obtain ⟨⟨saved, ids⟩, hsave, hu⟩ := bind_eq_ok.1 hc
  obtain ⟨hworkflows, htransfers, -⟩ := Store.saveTasks_frame hsave
  have hdrafts : ∀ p ∈ batch, p.draft.owner = t.owner ∧ p.draft.type = t.type.transactionType := by
    intro p hp
    have hmem : p.draft ∈ t.drafts := hb ▸ List.mem_map_of_mem hp
    obtain ⟨call, -, hcall⟩ := List.mem_map.1 hmem
    rw [← hcall]
    exact ⟨rfl, rfl⟩
  refine h.touched hs (hworkflows.trans hsame.workflows) (htransfers.trans hsame.transfers) ?_
    (by rfl) (by rfl) hu
  obtain ⟨added, hadded, howner⟩ :=
    Store.addsFor_saveTasks (· = t.type.transactionType) hsave hdrafts
  exact ⟨added, hadded.trans (congrArg (·.rows ++ added) hsame.tasks), howner⟩

theorem copies_of_findOpenTransfers (hsame : s₀.SameRecords s) {rest : List TransferTask}
    (h : s.findOpenTransfers = .ok (t :: rest)) : ∃ row, Copies s₀ t row := by
  obtain ⟨row, holdest, hfetch⟩ := Store.oldest_of_findOpenTransfers h
  refine ⟨row, ?_, hfetch⟩
  unfold Store.oldestTransfer? Store.openTransferRows at holdest ⊢
  rw [← hsame.transfers]
  exact holdest

/-- **Every phase keeps to the oldest open task.** -/
theorem confined_step (hs : s₀.Ordered) (hgas : gas.KeepsDrafts) {p next' : Phase}
    {events : List Event} (h : p.Confined s₀ s)
    (hadv : Advances gas chains s p (next, next', events)) : next'.Confined s₀ next := by
  cases hadv with
  | acquire lease leases events _ => exact h.withLeases leases
  | leaseHeld leases events _ => exact .inl (h.withLeases leases)
  | pass lease result events _ => exact .inl h
  | submit lease t rest events hopen _ _ => exact ⟨h, copies_of_findOpenTransfers h hopen⟩
  | poll lease t rest events hopen _ _ => exact ⟨h, copies_of_findOpenTransfers h hopen⟩
  | prepare lease t batch hassign => exact ⟨h.1, h.2, hgas _ _ _ _ hassign⟩
  | unprepared lease t cause => exact .inl h.1
  | save lease t batch next hc =>
    obtain ⟨hsame, ⟨row, hcopy⟩, hbatch⟩ := h
    exact hcopy.touched_of_commit hs hsame hbatch hc
  | unsaved lease t batch cause => exact .inl h.1
  | tally lease t tasks _ => exact h
  | misread lease t cause => exact .inl h.1
  | settle lease t progress next hu =>
    obtain ⟨hsame, row, hcopy⟩ := h
    exact hcopy.touched hs hsame.workflows hsame.transfers
      (Store.addsFor_of_tasks hsame.tasks _ _) (by rfl) (by rfl) hu
  | refuse lease t progress cause => exact .inl h.1
  | release lease result leases events _ =>
    rcases h with h | ⟨row, holdest, h⟩
    · exact .inl (h.withLeases leases)
    · exact .inr ⟨row, holdest, ⟨h.workflows, h.tasks, h.transfers⟩⟩
  | rest result => exact h

/-- **A tick touches the oldest open task at most.** -/
theorem touched_run (hs : s₀.Ordered) (hgas : gas.KeepsDrafts) (turn : Turn) :
    Touched s₀ (run gas chains turn s₀ .waiting).1 := by
  obtain ⟨last, hresult, hconfined⟩ := (phases gas chains turn).run_keeps
    (P := fun s p => p.Confined s₀ s)
    (fun s p h => confined_step hs hgas h (advances_step gas chains turn s p))
    (s := s₀) (p := .waiting) (.refl s₀)
  cases last with
  | done result => exact hconfined
  | _ => exact absurd hresult nofun

end TransferTick

/-! ## Both kinds -/

/-- What a workflow tick may do to a store. -/
structure KeepsToOldestWorkflow (s s' : Store) : Prop where
  /-- Where no workflow is open, nothing changes. -/
  idle : (∀ row ∈ s.workflows.rows, row.isOpen = false) → s.SameRecords s'
  /-- Otherwise the open workflow with the least number is the only one to change, and the only one
  that gets transactions. -/
  oldest : ∀ row ∈ s.workflows.rows, row.isOpen = true →
    (∀ other ∈ s.workflows.rows, other.isOpen = true → row.id ≤ other.id) →
    s.TouchesWorkflow s' row
  /-- A workflow whose claims are through is not dealt with here. -/
  waits : ∀ row ∈ s.workflows.rows, row.state = WorkflowState.marginBalanceTransferOut.tag →
    (∀ other ∈ s.workflows.rows, other.isOpen = true → row.id ≤ other.id) → s.SameRecords s'
  /-- Where no such tick has left a lease, none is there afterwards, and no other is touched. -/
  leases : (∀ row ∈ s.leases, row.name ≠ LeaseName.orchestrator.tag) → s'.leases = s.leases

/-- What a transfer tick may do to a store. -/
structure KeepsToOldestTransfer (s s' : Store) : Prop where
  /-- Where no task is open, nothing changes. -/
  idle : (∀ row ∈ s.transfers.rows, row.isOpen = false) → s.SameRecords s'
  /-- Otherwise the open task with the least number is the only one to change, and the only one that
  gets transactions. -/
  oldest : ∀ row ∈ s.transfers.rows, row.isOpen = true →
    (∀ other ∈ s.transfers.rows, other.isOpen = true → row.id ≤ other.id) →
    s.TouchesTransfer s' row
  /-- Where no such tick has left a lease, none is there afterwards, and no other is touched. -/
  leases : (∀ row ∈ s.leases, row.name ≠ LeaseName.assetTransfer.tag) → s'.leases = s.leases

/-- A lease that was not there before the tick is gone with it. -/
theorem Tidy.leases_eq {ε ω : Type} {leaseHeld : ω} {name : LeaseName} {now : Int} {s : Store}
    {r : Store × Except ε ω × List Event} (h : Tidy leaseHeld name now s r)
    (hnone : ∀ row ∈ s.leases, row.name ≠ name.tag) : r.1.leases = s.leases := by
  have hdead : ¬s.LeaseAlive name now := fun ⟨row, hrow, hname, _⟩ => hnone row hrow hname
  exact (h.released hdead).2.trans
    (List.filter_eq_self.2 fun row hrow => decide_eq_true (hnone row hrow))

theorem WorkflowTick.keepsToOldest_run {desk : Desk} {s : Store} (hs : s.Ordered)
    (hgas : desk.gas.KeepsDrafts) (turn : Turn) :
    KeepsToOldestWorkflow s (run desk turn s .waiting).1 := by
  have htouched := touched_run hs hgas turn
  have hfirst := fun row => @Store.oldestWorkflow?_eq_some s hs.workflows row
  refine ⟨fun hnone => ?_, fun row hrow hopen hleast => ?_, fun row hrow hstate hleast => ?_,
    (tidy_run desk turn s).leases_eq⟩
  · refine htouched.resolve_right fun ⟨row, holdest, _⟩ => ?_
    obtain ⟨hrow, hopen, -⟩ := (hfirst row).1 holdest
    exact absurd (hopen.symm.trans (hnone row hrow)) (by simp)
  · rcases htouched with h | ⟨found, hfound, htouches, -⟩
    · exact ⟨⟨row.state, row.message, row.progress, row.updatedAt,
        Table.replaces_of_eq h.workflows hrow⟩, Store.addsFor_of_tasks h.tasks _ _, h.transfers⟩
    · have holdest := (hfirst row).2 ⟨hrow, hopen, hleast⟩
      rw [Option.some.inj (holdest.symm.trans hfound)]
      exact htouches
  · refine htouched.resolve_right fun ⟨found, hfound, _, hdue⟩ => ?_
    have hopen : row.isOpen = true := by
      unfold WorkflowRow.isOpen
      rw [hstate]
      decide
    have holdest := (hfirst row).2 ⟨hrow, hopen, hleast⟩
    rw [← Option.some.inj (holdest.symm.trans hfound), hstate] at hdue
    exact absurd hdue (by decide)

theorem TransferTick.keepsToOldest_run {gas : GasAssigner} {chains : Chains} {s : Store}
    (hs : s.Ordered) (hgas : gas.KeepsDrafts) (turn : Turn) :
    KeepsToOldestTransfer s (run gas chains turn s .waiting).1 := by
  have htouched : Touched s (run gas chains turn s .waiting).1 := touched_run hs hgas turn
  have hfirst := fun row => @Store.oldestTransfer?_eq_some s hs.transfers row
  refine ⟨fun hnone => ?_, fun row hrow hopen hleast => ?_,
    (tidy_run gas chains turn s).leases_eq⟩
  · refine htouched.resolve_right fun ⟨row, holdest, _⟩ => ?_
    obtain ⟨hrow, hopen, -⟩ := (hfirst row).1 holdest
    exact absurd (hopen.symm.trans (hnone row hrow)) (by simp)
  · rcases htouched with h | ⟨found, hfound, htouches⟩
    · exact ⟨h.workflows, Store.addsFor_of_tasks h.tasks _ _, ⟨row.state, row.progress,
        row.updatedAt, Table.replaces_of_eq h.transfers hrow⟩⟩
    · have holdest := (hfirst row).2 ⟨hrow, hopen, hleast⟩
      rw [Option.some.inj (holdest.symm.trans hfound)]
      exact htouches

/--
**A tick touches only the oldest open record.**

This holds of every store whose rows stand in the order of their numbers, whatever they say and
whoever has written them, and whatever the provider reports; the gas assigner has to prepare the
drafts it is given. Apart from leases and from the time of the last change, a workflow tick changes
at most state, message and progress of the open workflow with the least number, a transfer tick at
most state and progress of the open transfer task with the least number. Transactions are only
added, behind all others, and only for that record and of its type.
-/
theorem ticks_touch_oldest (s : Store) (hs : s.Ordered) (desk : Desk)
    (hdesk : desk.gas.KeepsDrafts) (gas : GasAssigner) (hgas : gas.KeepsDrafts) (chains : Chains)
    (turn : Turn) :
    KeepsToOldestWorkflow s (s.workflowTick desk turn).1
      ∧ KeepsToOldestTransfer s (s.transferTick gas chains turn).1 :=
  ⟨WorkflowTick.keepsToOldest_run hs hdesk turn, TransferTick.keepsToOldest_run hs hgas turn⟩

/-- Two open workflows and two open transfer tasks, under the same numbers. -/
def Store.crowded : Store where
  workflows := ⟨[.opened ⟨"ops", none⟩ 1, .opened ⟨"desk", none⟩ 2], 2⟩
  tasks := .empty
  transfers := ⟨[.opened 1 .outward ⟨[]⟩ 1, .opened 2 .inward ⟨[]⟩ 2], 2⟩
  leases := []

/-- The first workflow gets its claim, and the first transfer task is submitted; the others wait. -/
theorem ticks_touch_oldest_crowded :
    let swept := Store.crowded.workflowTick Claim.oneClaimDesk ⟨0, "a"⟩
    let sent := Store.crowded.transferTick .sequential Claim.oneClaimDesk.chains ⟨0, "a"⟩
    KeepsToOldestWorkflow .crowded swept.1 ∧ KeepsToOldestTransfer .crowded sent.1
      ∧ swept.1.workflows.rows.map (·.state) = ["claim_lp", "init"]
      ∧ swept.1.tasks.rows.map (·.ownerId) = [.int 1]
      ∧ sent.1.transfers.rows.map (·.state) = ["ongoing", "init"] := by
  intro swept sent
  have hordered : Store.crowded.Ordered := by decide
  obtain ⟨hswept, hsent⟩ := ticks_touch_oldest .crowded hordered Claim.oneClaimDesk
    GasAssigner.keepsDrafts_sequential .sequential GasAssigner.keepsDrafts_sequential
    Claim.oneClaimDesk.chains ⟨0, "a"⟩
  exact ⟨hswept, hsent, by decide +kernel⟩

end Treasury
