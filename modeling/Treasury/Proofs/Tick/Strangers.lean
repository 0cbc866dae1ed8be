import Treasury.Proofs.Store.Oldest
import Treasury.Proofs.Tick.Failure

/-!
# What a poll does not see

A tick that polls the oldest open record reads the leases, the table of its records, and the
transactions that are filed under this record and its type. Whatever else is in the store can be
replaced: each phase does the same, and leaves what was put in as it is (`shadows_step`). So no
transaction of a stranger can fail a workflow or be in its way, be it one of another workflow, of a
transfer task with the same number, of the same owner but of another type, or one that cannot be
read at all.
-/

namespace Treasury

namespace Store

/-- The store with other transactions and other transfer tasks. -/
def withOthers (s : Store) (tasks : Table TaskRow) (transfers : Table TransferRow) : Store :=
  { s with tasks := tasks, transfers := transfers }

/-- The store with other workflows and other transactions. -/
def withStrangers (s : Store) (workflows : Table WorkflowRow) (tasks : Table TaskRow) : Store :=
  { s with workflows := workflows, tasks := tasks }

/-- The leases are all that matters to those who ask for one. -/
theorem acquireLease_congr (s s' : Store) (h : s'.leases = s.leases) (name : LeaseName)
    (holder : String) (now : Int) :
    s'.acquireLease name holder now =
      ({ s' with leases := (s.acquireLease name holder now).1.leases },
        (s.acquireLease name holder now).2) := by
  unfold acquireLease insertLease nextLeaseRow
  dsimp only
  rw [h]
  by_cases hheld :
    (s.leases.filter fun row => !isAbandoned now name.tag row).any (·.name = name.tag)
  · simp only [if_pos hheld]
  · simp only [if_neg hheld]

theorem updateWorkflow_withOthers (s : Store) (tasks : Table TaskRow)
    (transfers : Table TransferRow) (expected : WorkflowState) (w : Workflow) :
    (s.withOthers tasks transfers).updateWorkflow expected w =
      (s.updateWorkflow expected w).map (·.withOthers tasks transfers) := by
  unfold updateWorkflow withOthers
  dsimp only
  split
  · rfl
  split
  · rfl
  split
  · rfl
  split <;> rfl

theorem updateTransfer_withStrangers (s : Store) (workflows : Table WorkflowRow)
    (tasks : Table TaskRow) (expected : TransferState) (t : TransferTask) :
    (s.withStrangers workflows tasks).updateTransfer expected t =
      (s.updateTransfer expected t).map (·.withStrangers workflows tasks) := by
  unfold updateTransfer withStrangers
  dsimp only
  split
  · rfl
  split
  · rfl
  split
  · rfl
  split <;> rfl

theorem findTasks_congr {s s' : Store} {owner : TaskOwner} {type : TransactionType}
    (h : s'.taskRows owner type = s.taskRows owner type) :
    s'.findTasks owner type = s.findTasks owner type := by
  unfold findTasks
  rw [h]

end Store

/-! ## Workflow ticks -/

namespace WorkflowTick

variable {desk : Desk} {turn : Turn} {row : WorkflowRow} {tasks : Table TaskRow}
  {transfers : Table TransferRow}

/-- A tick in this phase polls the workflow in the row, or has done so. -/
def Phase.Polls (s : Store) (row : WorkflowRow) : Phase → Prop
  | .waiting | .holding _ => s.oldestWorkflow? = some row
  | .checking _ w => w.id = row.id
  | .executing _ _ _ => False
  | _ => True

theorem acquire_withOthers (turn : Turn) (s : Store) (tasks : Table TaskRow)
    (transfers : Table TransferRow) :
    acquire turn (s.withOthers tasks transfers) =
      ((acquire turn s).1.withOthers tasks transfers, (acquire turn s).2) := by
  obtain ⟨leases, hframe⟩ := s.acquireLease_frame .orchestrator turn.holder turn.now
  unfold acquire
  rw [Store.acquireLease_congr s (s.withOthers tasks transfers) rfl]
  dsimp only
  rw [hframe]
  cases (s.acquireLease .orchestrator turn.holder turn.now).2.lease <;> rfl

theorem settle_withOthers (lease : Lease) (s : Store) (tasks : Table TaskRow)
    (transfers : Table TransferRow) (w : Workflow) (check : StageCheck) :
    settle lease (s.withOthers tasks transfers) w check =
      ((settle lease s w check).1.withOthers tasks transfers, (settle lease s w check).2) := by
  unfold settle
  rw [Store.updateWorkflow_withOthers]
  cases s.updateWorkflow w.state (settled w check) <;> rfl

/-- **A phase of a poll does the same beside other transactions and transfer tasks**, if the claims
of the workflow are the same. -/
theorem step_withOthers {s : Store} {p : Phase} (hp : p.Polls s row)
    (hclaims : (s.withOthers tasks transfers).taskRows (.workflow row.id) .claimFromVault =
      s.taskRows (.workflow row.id) .claimFromVault) :
    step desk turn (s.withOthers tasks transfers) p =
      ((step desk turn s p).1.withOthers tasks transfers, (step desk turn s p).2) := by
  cases p with
  | waiting => exact acquire_withOthers turn s tasks transfers
  | executing lease id phase => exact hp.elim
  | checking lease w =>
    have hjudge : judge lease (s.withOthers tasks transfers) w = judge lease s w := by
      rw [← (show w.id = row.id from hp)] at hclaims
      unfold judge Claim.check
      rw [Store.findTasks_congr hclaims]
    show (s.withOthers tasks transfers, judge lease (s.withOthers tasks transfers) w) = _
    rw [hjudge]
    rfl
  | judged lease w check =>
    unfold step
    dsimp only
    rw [settle_withOthers]
  | _ => rfl

/-- A poll leaves all transactions as they are. -/
theorem tasks_step_of_polls {s : Store} {p : Phase} (hp : p.Polls s row) :
    (step desk turn s p).1.tasks = s.tasks := by
  have hadv := advances_step desk turn s p
  generalize step desk turn s p = r at hadv
  cases hadv with
  | settle lease w check next hu => exact Store.updateWorkflow_tasks hu
  | skip | save => exact hp.elim
  | _ => rfl

/-- The first workflow that is found is the one in the oldest row. -/
theorem eq_of_oldest {s : Store} {w : Workflow} {rest : List Workflow}
    (holdest : s.oldestWorkflow? = some row) (hstate : row.state = WorkflowState.claimLp.tag)
    (hopen : s.findOpenWorkflows = .ok (w :: rest)) : w.id = row.id ∧ w.state = .claimLp := by
  obtain ⟨found, hfound, hfetch⟩ := Store.oldest_of_findOpenWorkflows hopen
  obtain rfl := Option.some.inj (holdest.symm.trans hfound)
  obtain ⟨-, -, hload⟩ := bind_eq_ok.1 hfetch
  obtain ⟨hid, htag⟩ := WorkflowRow.load_eq_ok hload
  exact ⟨hid, WorkflowState.tag_inj.1 (htag.trans hstate)⟩

/-- **A poll goes on as a poll.** -/
theorem polls_step {s : Store} {p : Phase} (hstate : row.state = WorkflowState.claimLp.tag)
    (hp : p.Polls s row) : (step desk turn s p).2.1.Polls (step desk turn s p).1 row := by
  have hadv := advances_step desk turn s p
  generalize step desk turn s p = r at hadv
  cases hadv with
  | acquire lease leases events _ => exact hp
  | enter lease w rest events hopen hinit _ =>
    exact absurd (hinit.symm.trans (eq_of_oldest hp hstate hopen).2) (by decide)
  | check lease w rest events hopen _ _ => exact (eq_of_oldest hp hstate hopen).1
  | draft | prepare | save => exact hp.elim
  | _ => trivial

/-- The second store has other transactions and transfer tasks, but the same claims of the workflow
that is polled. -/
structure Shadows (row : WorkflowRow) (tasks : Table TaskRow) (transfers : Table TransferRow)
    (s₁ s₂ : Store) (p : Phase) : Prop where
  store : s₂ = s₁.withOthers tasks transfers
  claims : s₂.taskRows (.workflow row.id) .claimFromVault =
    s₁.taskRows (.workflow row.id) .claimFromVault
  polls : p.Polls s₁ row

theorem shadows_step (hstate : row.state = WorkflowState.claimLp.tag) {s₁ s₂ : Store} {p : Phase}
    (h : Shadows row tasks transfers s₁ s₂ p) :
    (step desk turn s₁ p).2 = (step desk turn s₂ p).2
      ∧ Shadows row tasks transfers (step desk turn s₁ p).1 (step desk turn s₂ p).1
        (step desk turn s₁ p).2.1 := by
  obtain ⟨rfl, hclaims, hpolls⟩ := h
  rw [step_withOthers hpolls hclaims]
  refine ⟨rfl, rfl, ?_, polls_step hstate hpolls⟩
  unfold Store.taskRows at hclaims ⊢
  rw [tasks_step_of_polls hpolls]
  exact hclaims

/-- **A poll comes to the same, whoever else is in the store.** -/
theorem run_eq_of_claims {s₁ s₂ : Store} (hworkflows : s₂.workflows = s₁.workflows)
    (hleases : s₂.leases = s₁.leases) (holdest : s₁.oldestWorkflow? = some row)
    (hstate : row.state = WorkflowState.claimLp.tag)
    (hclaims : s₂.taskRows (.workflow row.id) .claimFromVault =
      s₁.taskRows (.workflow row.id) .claimFromVault) :
    (run desk turn s₁ .waiting).2 = (run desk turn s₂ .waiting).2
      ∧ (run desk turn s₂ .waiting).1 =
        (run desk turn s₁ .waiting).1.withOthers s₂.tasks s₂.transfers := by
  have hstore : s₂ = s₁.withOthers s₂.tasks s₂.transfers := by
    obtain ⟨_, _, _, _⟩ := s₁
    obtain ⟨_, _, _, _⟩ := s₂
    cases hworkflows
    cases hleases
    rfl
  obtain ⟨hsame, _, -, hlast⟩ := (phases desk turn).run_agree
    (R := Shadows row s₂.tasks s₂.transfers) (fun _ _ _ h => shadows_step hstate h)
    (p := .waiting) ⟨hstore, hclaims, holdest⟩
  exact ⟨hsame, hlast.store⟩

end WorkflowTick

/-! ## Transfer ticks -/

namespace TransferTick

variable {gas : GasAssigner} {chains : Chains} {turn : Turn} {row : TransferRow}
  {workflows : Table WorkflowRow} {tasks : Table TaskRow}

/-- A tick in this phase polls the task in the row, or has done so. -/
def Phase.Polls (s : Store) (row : TransferRow) : Phase → Prop
  | .waiting | .holding _ => s.oldestTransfer? = some row
  | .polling _ t => t.id = row.id ∧ row.type = t.type.tag
  | .submitting _ _ | .prepared _ _ _ => False
  | _ => True

/-- Both stores have the same transactions of the task in the row, of its own type. -/
def SameCalls (row : TransferRow) (s s' : Store) : Prop :=
  ∀ type : TransferType, row.type = type.tag →
    s'.taskRows (.assetTransfer row.id) type.transactionType =
      s.taskRows (.assetTransfer row.id) type.transactionType

theorem acquire_withStrangers (turn : Turn) (s : Store) (workflows : Table WorkflowRow)
    (tasks : Table TaskRow) :
    acquire turn (s.withStrangers workflows tasks) =
      ((acquire turn s).1.withStrangers workflows tasks, (acquire turn s).2) := by
  obtain ⟨leases, hframe⟩ := s.acquireLease_frame .assetTransfer turn.holder turn.now
  unfold acquire
  rw [Store.acquireLease_congr s (s.withStrangers workflows tasks) rfl]
  dsimp only
  rw [hframe]
  cases (s.acquireLease .assetTransfer turn.holder turn.now).2.lease <;> rfl

theorem settle_withStrangers (lease : Lease) (s : Store) (workflows : Table WorkflowRow)
    (tasks : Table TaskRow) (t : TransferTask) (progress : Progress) :
    settle lease (s.withStrangers workflows tasks) t progress =
      ((settle lease s t progress).1.withStrangers workflows tasks,
        (settle lease s t progress).2) := by
  unfold settle
  rw [Store.updateTransfer_withStrangers]
  cases s.updateTransfer t.state (t.tallied progress) <;> rfl

/-- **A phase of a poll does the same beside other workflows and transactions**, if the transactions
of the task are the same. -/
theorem step_withStrangers {s : Store} {p : Phase} (hp : p.Polls s row)
    (hcalls : SameCalls row s (s.withStrangers workflows tasks)) :
    step gas chains turn (s.withStrangers workflows tasks) p =
      ((step gas chains turn s p).1.withStrangers workflows tasks,
        (step gas chains turn s p).2) := by
  cases p with
  | waiting => exact acquire_withStrangers turn s workflows tasks
  | submitting lease t => exact hp.elim
  | prepared lease t batch => exact hp.elim
  | polling lease t =>
    obtain ⟨hid, htype⟩ := hp
    have hread := hcalls t.type htype
    rw [← hid] at hread
    have htally : tally lease (s.withStrangers workflows tasks) t = tally lease s t := by
      unfold tally TransferTask.owner
      rw [Store.findTasks_congr hread]
    unfold step
    dsimp only
    rw [htally]
  | tallied lease t progress =>
    unfold step
    dsimp only
    rw [settle_withStrangers]
  | _ => rfl

/-- A poll leaves all transactions as they are. -/
theorem tasks_step_of_polls {s : Store} {p : Phase} (hp : p.Polls s row) :
    (step gas chains turn s p).1.tasks = s.tasks := by
  have hadv := advances_step gas chains turn s p
  generalize step gas chains turn s p = r at hadv
  cases hadv with
  | settle lease t progress next hu => exact (Store.updateTransfer_frame hu).2
  | save => exact hp.elim
  | _ => rfl

/-- The first task that is found is the one in the oldest row. -/
theorem eq_of_oldest {s : Store} {t : TransferTask} {rest : List TransferTask}
    (holdest : s.oldestTransfer? = some row) (hstate : row.state = TransferState.ongoing.tag)
    (hopen : s.findOpenTransfers = .ok (t :: rest)) :
    t.id = row.id ∧ row.type = t.type.tag ∧ t.state = .ongoing := by
  obtain ⟨found, hfound, hfetch⟩ := Store.oldest_of_findOpenTransfers hopen
  obtain rfl := Option.some.inj (holdest.symm.trans hfound)
  obtain ⟨_, -, hload⟩ := bind_eq_ok.1 hfetch
  obtain ⟨hid, htype, htag, -⟩ := TransferRow.load_eq_ok hload
  exact ⟨hid, htype, TransferState.tag_inj.1 (htag.symm.trans hstate)⟩

/-- **A poll goes on as a poll.** -/
theorem polls_step {s : Store} {p : Phase} (hstate : row.state = TransferState.ongoing.tag)
    (hp : p.Polls s row) :
    (step gas chains turn s p).2.1.Polls (step gas chains turn s p).1 row := by
  have hadv := advances_step gas chains turn s p
  generalize step gas chains turn s p = r at hadv
  cases hadv with
  | acquire lease leases events _ => exact hp
  | submit lease t rest events hopen hinit _ =>
    exact absurd (hinit.symm.trans (eq_of_oldest hp hstate hopen).2.2) (by decide)
  | poll lease t rest events hopen _ _ =>
    obtain ⟨hid, htype, -⟩ := eq_of_oldest hp hstate hopen
    exact ⟨hid, htype⟩
  | prepare => exact hp.elim
  | _ => trivial

/-- The second store has other workflows and transactions, but the same transactions of the task
that is polled. -/
structure Shadows (row : TransferRow) (workflows : Table WorkflowRow) (tasks : Table TaskRow)
    (s₁ s₂ : Store) (p : Phase) : Prop where
  store : s₂ = s₁.withStrangers workflows tasks
  calls : SameCalls row s₁ s₂
  polls : p.Polls s₁ row

theorem shadows_step (hstate : row.state = TransferState.ongoing.tag) {s₁ s₂ : Store} {p : Phase}
    (h : Shadows row workflows tasks s₁ s₂ p) :
    (step gas chains turn s₁ p).2 = (step gas chains turn s₂ p).2
      ∧ Shadows row workflows tasks (step gas chains turn s₁ p).1 (step gas chains turn s₂ p).1
        (step gas chains turn s₁ p).2.1 := by
  obtain ⟨rfl, hcalls, hpolls⟩ := h
  rw [step_withStrangers hpolls hcalls]
  refine ⟨rfl, rfl, fun type htype => ?_, polls_step hstate hpolls⟩
  have hread := hcalls type htype
  unfold Store.taskRows at hread ⊢
  rw [tasks_step_of_polls hpolls]
  exact hread

/-- **A poll comes to the same, whoever else is in the store.** -/
theorem run_eq_of_calls {s₁ s₂ : Store} (htransfers : s₂.transfers = s₁.transfers)
    (hleases : s₂.leases = s₁.leases) (holdest : s₁.oldestTransfer? = some row)
    (hstate : row.state = TransferState.ongoing.tag) (hcalls : SameCalls row s₁ s₂) :
    (run gas chains turn s₁ .waiting).2 = (run gas chains turn s₂ .waiting).2
      ∧ (run gas chains turn s₂ .waiting).1 =
        (run gas chains turn s₁ .waiting).1.withStrangers s₂.workflows s₂.tasks := by
  have hstore : s₂ = s₁.withStrangers s₂.workflows s₂.tasks := by
    obtain ⟨_, _, _, _⟩ := s₁
    obtain ⟨_, _, _, _⟩ := s₂
    cases htransfers
    cases hleases
    rfl
  obtain ⟨hsame, _, -, hlast⟩ := (phases gas chains turn).run_agree
    (R := Shadows row s₂.workflows s₂.tasks) (fun _ _ _ h => shadows_step hstate h)
    (p := .waiting) ⟨hstore, hcalls, holdest⟩
  exact ⟨hsame, hlast.store⟩

end TransferTick

/--
**Owners do not interfere.**

Take two stores with the same leases, and tick both at the same time. If the workflows are the same,
the oldest open one is in the stage, and its claims are the same, then a workflow tick has the same
result on both, stores the same, and shows the same: the log, the reports and the alerts. If the
transfer tasks are the same, the oldest open one has been submitted, and its transactions of its own
type are the same, then the same is true of a transfer tick. Everything else may differ as it likes;
each store keeps what it has of it.
-/
theorem polls_ignore_strangers (s₁ s₂ : Store) (hleases : s₂.leases = s₁.leases) (turn : Turn) :
    (∀ (desk : Desk) (row : WorkflowRow), s₂.workflows = s₁.workflows →
      s₁.oldestWorkflow? = some row → row.state = WorkflowState.claimLp.tag →
      s₂.taskRows (.workflow row.id) .claimFromVault =
        s₁.taskRows (.workflow row.id) .claimFromVault →
      (s₁.workflowTick desk turn).2 = (s₂.workflowTick desk turn).2
        ∧ (s₂.workflowTick desk turn).1 =
          { (s₁.workflowTick desk turn).1 with tasks := s₂.tasks, transfers := s₂.transfers })
    ∧ (∀ (gas : GasAssigner) (chains : Chains) (row : TransferRow), s₂.transfers = s₁.transfers →
      s₁.oldestTransfer? = some row → row.state = TransferState.ongoing.tag →
      (∀ type : TransferType, row.type = type.tag →
        s₂.taskRows (.assetTransfer row.id) type.transactionType =
          s₁.taskRows (.assetTransfer row.id) type.transactionType) →
      (s₁.transferTick gas chains turn).2 = (s₂.transferTick gas chains turn).2
        ∧ (s₂.transferTick gas chains turn).1 =
          { (s₁.transferTick gas chains turn).1 with
            workflows := s₂.workflows, tasks := s₂.tasks }) :=
  ⟨fun _ _ hworkflows holdest hstate hclaims =>
      WorkflowTick.run_eq_of_claims hworkflows hleases holdest hstate hclaims,
    fun _ _ _ htransfers holdest hstate hcalls =>
      TransferTick.run_eq_of_calls htransfers hleases holdest hstate hcalls⟩

/-- The row of a transaction that was made for an owner and has come to this state. -/
def TaskRow.reachedBy (owner : TaskOwner) (type : TransactionType) (state : TransactionState)
    (id : Int) : TaskRow :=
  let sender : Address := ⟨List.replicate 20 1, List.length_replicate⟩
  let draft : Draft := ⟨owner, type, 56, "bsc", sender, sender, [], .null⟩
  { Prepared.rowAt ⟨draft, ⟨.ofNat id.toNat, .ofUInt64 1, 1⟩⟩ id with state := state.tag }

/-- A workflow in the stage and a submitted transfer task under one number, each with a transaction
that has succeeded. -/
def Store.succeeding : Store where
  workflows := ⟨[{ WorkflowRow.opened ⟨"ops", none⟩ 1 with state := WorkflowState.claimLp.tag }], 1⟩
  tasks := ⟨[.reachedBy (.workflow 1) .claimFromVault .success 1,
    .reachedBy (.assetTransfer 1) .assetTransferOut .success 2], 2⟩
  transfers :=
    ⟨[{ TransferRow.opened 1 .outward ⟨[]⟩ 1 with state := TransferState.ongoing.tag }], 1⟩
  leases := []

/-- The same with transactions of others that have failed or cannot be read. -/
def Store.besieged : Store :=
  { Store.succeeding with
    tasks := ⟨[.reachedBy (.workflow 1) .claimFromVault .success 1,
      .reachedBy (.assetTransfer 1) .assetTransferOut .success 2,
      .reachedBy (.workflow 2) .claimFromVault .failed 3,
      .reachedBy (.workflow 1) .assetTransferOut .failed 4,
      { TaskRow.reachedBy (.assetTransfer 1) .claimFromVault .failed 5 with gasPrice := "cheap" }],
      5⟩ }

/-- Both succeed, with and without the others. -/
theorem polls_ignore_strangers_besieged :
    let swept := fun s : Store => (s.workflowTick Claim.oneClaimDesk ⟨0, "a"⟩)
    let tallied := fun s : Store => (s.transferTick .sequential Claim.oneClaimDesk.chains ⟨0, "a"⟩)
    (swept .succeeding).2 = (swept .besieged).2
      ∧ (swept .succeeding).2.1 = .ok (.polled 1 .claimLp .marginBalanceTransferOut ⟨1, 1, 0⟩)
      ∧ (tallied .succeeding).2 = (tallied .besieged).2
      ∧ (tallied .succeeding).2.1 = .ok (.polled 1 .success ⟨1, 1, 0⟩) := by
  intro swept tallied
  obtain ⟨hworkflow, htransfer⟩ := polls_ignore_strangers .succeeding .besieged rfl ⟨0, "a"⟩
  have hswept := hworkflow Claim.oneClaimDesk _ rfl rfl rfl (by decide +kernel)
  have htallied := htransfer .sequential Claim.oneClaimDesk.chains _ rfl rfl rfl (by
    intro type _
    cases type <;> decide +kernel)
  exact ⟨hswept.1, by decide +kernel, htallied.1, by decide +kernel⟩

end Treasury
