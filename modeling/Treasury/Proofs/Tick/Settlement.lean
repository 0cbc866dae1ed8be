import Treasury.Proofs.Tick.Poll

/-!
# What becomes of what is polled

The tally of its transactions decides what becomes of a workflow or a transfer task that is polled
(`Store.SettlesWorkflow`, `Store.SettlesTransfer`), and both kinds of tick decide in the same way.
Ticks poll nothing but what is due, and whatever is due and can be read is polled
(`Store.PollsWorkflows`, `Store.PollsTransfers`); so these structures are all there is to say of
polls.
-/

namespace Treasury

namespace Store

/-- What a poll with this tally makes of a workflow in the stage. -/
structure SettlesWorkflow (s : Store) (desk : Desk) (turn : Turn) (w : Workflow) (p : Progress)
    (next : WorkflowState) : Prop where
  decides : p.Decides (next = .marginBalanceTransferOut) (next = .failed) (next = .claimLp)
  /-- The outcome says where the workflow has come to, and the tally. -/
  outcome : (s.workflowTick desk turn).2.1 = .ok (.polled w.id .claimLp next p)
  /-- The workflow is stored with both; its message is kept as long as it stays in the stage. -/
  stored : ∃ message, (next = .claimLp → message = w.message)
    ∧ (s.workflowTick desk turn).1.findWorkflow w.id =
      .ok { w with
        state := next, message := message, progress := s!"{p.success}/{p.all} failed:{p.failed}" }
  /-- As long as it does, any later tick says the same and leaves the same. -/
  again : next = .claimLp → ∀ desk' turn',
    ((s.workflowTick desk turn).1.workflowTick desk' turn').1 = (s.workflowTick desk turn).1
      ∧ ((s.workflowTick desk turn).1.workflowTick desk' turn').2.1 =
        (s.workflowTick desk turn).2.1

/-- What a poll with this tally makes of a transfer task that has been submitted. -/
structure SettlesTransfer (s : Store) (gas : GasAssigner) (chains : Chains) (turn : Turn)
    (t : TransferTask) (p : Progress) (next : TransferState) : Prop where
  decides : p.Decides (next = .success) (next = .failed) (next = .ongoing)
  /-- The outcome says where the task has come to, and the tally. -/
  outcome : (s.transferTick gas chains turn).2.1 = .ok (.polled t.id next p)
  /-- The task is stored with both. -/
  stored : (s.transferTick gas chains turn).1.findTransfer t.id =
    .ok { t with state := next, progress := s!"{p.success}/{p.all} failed:{p.failed}" }
  /-- As long as it is pending, any later tick says the same and leaves the same. -/
  again : next = .ongoing → ∀ gas' chains' turn',
    ((s.transferTick gas chains turn).1.transferTick gas' chains' turn').1 =
        (s.transferTick gas chains turn).1
      ∧ ((s.transferTick gas chains turn).1.transferTick gas' chains' turn').2.1 =
        (s.transferTick gas chains turn).2.1

/-- What workflow ticks at this turn poll, and what comes of it. -/
structure PollsWorkflows (s : Store) (desk : Desk) (turn : Turn) : Prop where
  /-- If a workflow is polled, it is due, and the lease was free. -/
  polled : ∀ id before after p, (s.workflowTick desk turn).2.1 = .ok (.polled id before after p) →
    ∃ w, w.id = id ∧ s.PollsWorkflow turn.now w
  /-- Such a workflow is settled by the tally of its claims, if these can be read. -/
  settles : ∀ w tasks, s.PollsWorkflow turn.now w →
    s.findTasks (.workflow w.id) .claimFromVault = .ok tasks →
    ∃ next, s.SettlesWorkflow desk turn w (s.tally (.workflow w.id) .claimFromVault) next
  misread : ∀ w e, s.PollsWorkflow turn.now w →
    s.findTasks (.workflow w.id) .claimFromVault = .error e →
    (s.workflowTick desk turn).2.1 = .error (.stage w.id .claimLp (.store e))

/-- What transfer ticks at this turn poll, and what comes of it. -/
structure PollsTransfers (s : Store) (gas : GasAssigner) (chains : Chains) (turn : Turn) :
    Prop where
  /-- If a transfer task is polled, it is due, and the lease was free. -/
  polled : ∀ id state p, (s.transferTick gas chains turn).2.1 = .ok (.polled id state p) →
    ∃ t, t.id = id ∧ s.PollsTransfer turn.now t
  /-- Such a task is settled by the tally of its transactions, if these can be read. -/
  settles : ∀ t tasks, s.PollsTransfer turn.now t →
    s.findTasks t.owner t.type.transactionType = .ok tasks →
    ∃ next, s.SettlesTransfer gas chains turn t (s.tally t.owner t.type.transactionType) next
  misread : ∀ t e, s.PollsTransfer turn.now t →
    s.findTasks t.owner t.type.transactionType = .error e →
    (s.transferTick gas chains turn).2.1 = .error (.store e)

theorem settlesWorkflow {s : Store} (hs : s.Ordered) (desk : Desk) {turn : Turn} {w : Workflow}
    {tasks : List Task} (h : s.PollsWorkflow turn.now w)
    (htasks : s.findTasks (.workflow w.id) .claimFromVault = .ok tasks) :
    ∃ next, s.SettlesWorkflow desk turn w (s.tally (.workflow w.id) .claimFromVault) next := by
  obtain ⟨rest, hopen⟩ := h.oldest
  obtain ⟨hstore, houtcome⟩ := WorkflowTick.run_poll desk turn hs.workflows h htasks
  obtain ⟨-, hfound, -⟩ := updateWorkflow_oldest hs.workflows hopen
    (WorkflowTick.settled w (Claim.verdict w tasks))
    (WorkflowTick.canMoveTo_verdict h.state tasks) rfl rfl
  have hprogress := Claim.progress_verdict w tasks
  rw [← ofTasks_eq_tally htasks]
  refine ⟨(Claim.verdict w tasks).nextState, Claim.decides_verdict h.state tasks,
    hprogress ▸ houtcome, ⟨(Claim.verdict w tasks).message.getD w.message, fun hstays => ?_, ?_⟩,
    fun hstays desk' turn' =>
      WorkflowTick.run_again desk turn hs.workflows h htasks hstays desk' turn'⟩
  · rw [Claim.message_verdict hstays]
    rfl
  · have hleft : (s.workflowTick desk turn).1.findWorkflow w.id =
        .ok (WorkflowTick.settled w (Claim.verdict w tasks)) :=
      (congrArg (findWorkflow · w.id) hstore).trans hfound
    rw [hleft, ← hprogress]
    rfl

theorem settlesTransfer {s : Store} (hs : s.Ordered) (gas : GasAssigner) (chains : Chains)
    {turn : Turn} {t : TransferTask} {tasks : List Task} (h : s.PollsTransfer turn.now t)
    (htasks : s.findTasks t.owner t.type.transactionType = .ok tasks) :
    ∃ next, s.SettlesTransfer gas chains turn t (s.tally t.owner t.type.transactionType) next := by
  obtain ⟨rest, hopen⟩ := h.oldest
  obtain ⟨hstore, houtcome⟩ := TransferTick.run_poll gas chains turn hs.transfers h htasks
  obtain ⟨-, hfound, -⟩ := updateTransfer_oldest hs.transfers hopen
    (t.tallied (Progress.ofTasks tasks)) (TransferTick.canMoveTo_stateOf h.state _) rfl rfl rfl rfl
  rw [← ofTasks_eq_tally htasks]
  exact ⟨TransferTask.stateOf (Progress.ofTasks tasks), TransferTask.decides_stateOf tasks,
    houtcome, (congrArg (findTransfer · t.id) hstore).trans hfound, fun hstays gas' chains' turn' =>
      TransferTick.run_again gas chains turn hs.transfers h htasks hstays gas' chains' turn'⟩

theorem pollsWorkflows {s : Store} (hs : s.Ordered) (desk : Desk) (turn : Turn) :
    s.PollsWorkflows desk turn where
  polled := fun _ _ _ _ h => WorkflowTick.pollsWorkflow_of_polled desk turn h
  settles := fun _ _ hw => settlesWorkflow hs desk hw
  misread := by
    intro w e hw he
    obtain ⟨lease, leases, -, hresult⟩ := WorkflowTick.run_waiting desk hw
    exact hresult.trans
      (WorkflowTick.run_misread desk turn (s := { s with leases := leases }) lease he)

theorem pollsTransfers {s : Store} (hs : s.Ordered) (gas : GasAssigner) (chains : Chains)
    (turn : Turn) : s.PollsTransfers gas chains turn where
  polled := fun _ _ _ h => TransferTick.pollsTransfer_of_polled gas chains turn h
  settles := fun _ _ ht => settlesTransfer hs gas chains ht
  misread := by
    intro t e ht he
    obtain ⟨lease, leases, -, hresult⟩ := TransferTick.run_waiting gas chains ht
    exact hresult.trans
      (TransferTick.run_misread gas chains turn (s := { s with leases := leases }) lease he)

end Store

/--
**A poll does what the tally says.**

This holds of every store whose rows stand in the order of their numbers. A tick that polls a
workflow or a transfer task moves it to success when all its transactions have succeeded, also when
it has none, to failure when one has failed, and leaves it pending otherwise: both kinds in the same
cases, though they ask in different orders. The tally is stored and is part of the outcome. A poll
that leaves its record pending can be repeated, and changes nothing more. If the transactions cannot
be read, the tick says so. And as no transaction settles twice, those that are pending can be
counted by subtraction.
-/
theorem polls_follow_tally (s : Store) (hs : s.Ordered) (turn : Turn) :
    (∀ desk, s.PollsWorkflows desk turn)
      ∧ (∀ gas chains, s.PollsTransfers gas chains turn)
      ∧ ∀ tasks : List Task, (Progress.ofTasks tasks).pending + (Progress.ofTasks tasks).success
        + (Progress.ofTasks tasks).failed = (Progress.ofTasks tasks).all :=
  ⟨fun desk => Store.pollsWorkflows hs desk turn,
    fun gas chains => Store.pollsTransfers hs gas chains turn, Progress.pending_add⟩

/-- A workflow of whose claims one is through and one is pending, and a transfer task of whose
transactions one is through and one has failed. -/
def Store.midway : Store where
  workflows := ⟨[{ WorkflowRow.opened ⟨"ops", none⟩ 1 with
    state := WorkflowState.claimLp.tag, message := "claim created" }], 1⟩
  tasks := ⟨[.reachedBy (.workflow 1) .claimFromVault .success 1,
    .reachedBy (.workflow 1) .claimFromVault .submitted 2,
    .reachedBy (.assetTransfer 1) .assetTransferOut .success 3,
    .reachedBy (.assetTransfer 1) .assetTransferOut .failed 4], 4⟩
  transfers :=
    ⟨[{ TransferRow.opened 1 .outward ⟨[]⟩ 1 with state := TransferState.ongoing.tag }], 1⟩
  leases := []

theorem polls_follow_tally_midway :
    Store.midway.SettlesWorkflow Claim.oneClaimDesk ⟨0, "a"⟩
        ⟨1, .claimLp, ⟨"ops", none⟩, "claim created", ""⟩ ⟨2, 1, 0⟩ .claimLp
      ∧ Store.midway.SettlesTransfer .sequential Claim.oneClaimDesk.chains ⟨0, "a"⟩
        ⟨1, 1, .outward, .ongoing, ⟨[]⟩, "", ""⟩ ⟨2, 1, 1⟩ .failed := by
  have hordered : Store.midway.Ordered := by decide
  have hfree : ∀ name, ¬Store.midway.LeaseAlive name 0 :=
    fun _ ⟨_, hrow, _⟩ => absurd hrow List.not_mem_nil
  have hread : ∀ owner type, (Store.midway.findTasks owner type).isOk = true →
      ∃ tasks, Store.midway.findTasks owner type = .ok tasks := by
    intro owner type hok
    cases hfind : Store.midway.findTasks owner type with
    | ok tasks => exact ⟨tasks, rfl⟩
    | error e =>
      rw [hfind] at hok
      exact absurd hok (by simp [Except.isOk, Except.toBool])
  obtain ⟨claims, hclaims⟩ := hread (.workflow 1) .claimFromVault (by decide +kernel)
  obtain ⟨calls, hcalls⟩ := hread (.assetTransfer 1) .assetTransferOut (by decide +kernel)
  obtain ⟨hworkflow, htransfer, -⟩ := polls_follow_tally .midway hordered ⟨0, "a"⟩
  obtain ⟨next, hnext⟩ := (hworkflow Claim.oneClaimDesk).settles
    ⟨1, .claimLp, ⟨"ops", none⟩, "claim created", ""⟩ claims
    ⟨⟨⟨[], by decide +kernel⟩, rfl⟩, hfree _⟩ hclaims
  obtain ⟨next', hnext'⟩ := (htransfer .sequential Claim.oneClaimDesk.chains).settles
    ⟨1, 1, .outward, .ongoing, ⟨[]⟩, "", ""⟩ calls ⟨⟨⟨[], by decide +kernel⟩, rfl⟩, hfree _⟩ hcalls
  have htally : Store.midway.tally (.workflow 1) .claimFromVault = ⟨2, 1, 0⟩ := by decide +kernel
  have htally' : Store.midway.tally (.assetTransfer 1) .assetTransferOut = ⟨2, 1, 1⟩ := by
    decide +kernel
  obtain rfl : next = .claimLp := hnext.decides.pending.2 (htally ▸ by decide)
  obtain rfl : next' = .failed := hnext'.decides.failed.2 (htally' ▸ by decide)
  exact ⟨htally ▸ hnext, htally' ▸ hnext'⟩

end Treasury
