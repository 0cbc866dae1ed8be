import Treasury.Proofs.Tick.Strangers
import Treasury.Proofs.Tick.Verdict

/-!
# What a poll stores

A tick that polls a record goes through the same phases whatever the tally says, up to the one that
stores it; so what it leaves can be said in one equation (`WorkflowTick.run_poll`,
`TransferTick.run_poll`). Where the record stays as it is, the store that is left is one in which
the same record is polled with the same tally. The equation then says that nothing changes any more
(`WorkflowTick.run_again`, `TransferTick.run_again`).

What is polled is always due. This is kept from the phase that loads the open records on
(`Phase.PollsDue`).
-/

namespace Treasury

namespace Store

/-- The workflow is the oldest open one, and it is in the stage. -/
structure DueWorkflow (s : Store) (w : Workflow) : Prop where
  oldest : ∃ rest, s.findOpenWorkflows = .ok (w :: rest)
  state : w.state = .claimLp

/-- A workflow tick polls this workflow: it is due, and nobody holds the lease. -/
structure PollsWorkflow (s : Store) (now : Int) (w : Workflow) : Prop extends s.DueWorkflow w where
  free : ¬s.LeaseAlive .orchestrator now

/-- The transfer task is the oldest open one, and it has been submitted. -/
structure DueTransfer (s : Store) (t : TransferTask) : Prop where
  oldest : ∃ rest, s.findOpenTransfers = .ok (t :: rest)
  state : t.state = .ongoing

/-- A transfer tick polls this task: it is due, and nobody holds the lease. -/
structure PollsTransfer (s : Store) (now : Int) (t : TransferTask) : Prop
    extends s.DueTransfer t where
  free : ¬s.LeaseAlive .assetTransfer now

/-- The store with the workflow `w` written as `w'`, and the lease given back. -/
def afterWorkflowPoll (s : Store) (w w' : Workflow) : Store :=
  { s.withWorkflow w.state w' with leases := s.otherLeases .orchestrator }

/-- The store with the transfer task `t` written as `t'`, and the lease given back. -/
def afterTransferPoll (s : Store) (t t' : TransferTask) : Store :=
  { s.withTransfer t.state t' with leases := s.otherLeases .assetTransfer }

/-! ## Stores that polls leave -/

/-- Who has given back the lease can take it again. -/
theorem not_leaseAlive_of_otherLeases {s s' : Store} {name : LeaseName}
    (h : s'.leases = s.otherLeases name) (now : Int) : ¬s'.LeaseAlive name now := by
  rintro ⟨row, hrow, hname, -⟩
  rw [h] at hrow
  exact of_decide_eq_true (List.mem_filter.1 hrow).2 hname

theorem otherLeases_eq_self {s s' : Store} {name : LeaseName} (h : s'.leases = s.otherLeases name) :
    s'.otherLeases name = s'.leases := by
  refine List.filter_eq_self.2 fun row hrow => ?_
  rw [h] at hrow
  exact (List.mem_filter.1 hrow).2

/-- A workflow that has stayed in the stage is polled next. -/
theorem PollsWorkflow.again {s : Store} {now : Int} {w : Workflow} (h : s.PollsWorkflow now w)
    (hs : s.workflows.Numbered WorkflowRow.id) (w' : Workflow) (hstate : w'.state = .claimLp)
    (hid : w'.id = w.id) (hparams : w'.params = w.params) (now' : Int) :
    (s.afterWorkflowPoll w w').PollsWorkflow now' w' := by
  obtain ⟨rest, hopen⟩ := h.oldest
  have hmove : w.state.canMoveTo w'.state = true := by
    rw [h.state, hstate]
    decide
  obtain ⟨-, -, hopen'⟩ := updateWorkflow_oldest hs hopen w' hmove hid hparams
  exact ⟨⟨⟨rest, hopen' (hstate ▸ rfl)⟩, hstate⟩, not_leaseAlive_of_otherLeases (s := s) rfl now'⟩

/-- A transfer task that is pending still is polled next. -/
theorem PollsTransfer.again {s : Store} {now : Int} {t : TransferTask} (h : s.PollsTransfer now t)
    (hs : s.transfers.Numbered TransferRow.id) (t' : TransferTask) (hstate : t'.state = .ongoing)
    (hid : t'.id = t.id) (hrebalance : t'.rebalanceId = t.rebalanceId) (htype : t'.type = t.type)
    (hparams : t'.params = t.params) (now' : Int) :
    (s.afterTransferPoll t t').PollsTransfer now' t' := by
  obtain ⟨rest, hopen⟩ := h.oldest
  have hmove : t.state.canMoveTo t'.state = true := by
    rw [h.state, hstate]
    decide
  obtain ⟨-, -, hopen'⟩ := updateTransfer_oldest hs hopen t' hmove hid hrebalance htype hparams
  exact ⟨⟨⟨rest, hopen' hstate⟩, hstate⟩, not_leaseAlive_of_otherLeases (s := s) rfl now'⟩

/-- A workflow that has stayed where it was is written as it was. -/
theorem afterWorkflowPoll_again (s : Store) {w w' : Workflow} (hstate : w'.state = w.state) :
    (s.afterWorkflowPoll w w').afterWorkflowPoll w' w' = s.afterWorkflowPoll w w' := by
  have htable := Table.update_update (t := s.workflows) (p := WorkflowRow.isAt w'.state w'.id)
    (f := WorkflowRow.updated w')
    (fun row hrow => decide_eq_true ⟨(of_decide_eq_true hrow).1, rfl⟩) fun _ => rfl
  have hleases : (s.afterWorkflowPoll w w').otherLeases .orchestrator =
      s.otherLeases .orchestrator := otherLeases_eq_self (s := s) rfl
  unfold afterWorkflowPoll at hleases ⊢
  rw [hleases, ← hstate]
  exact congrArg (fun table => Store.mk table _ _ _) htable

/-- A transfer task that has stayed where it was is written as it was. -/
theorem afterTransferPoll_again (s : Store) {t t' : TransferTask} (hstate : t'.state = t.state) :
    (s.afterTransferPoll t t').afterTransferPoll t' t' = s.afterTransferPoll t t' := by
  have htable := Table.update_update (t := s.transfers) (p := TransferRow.isAt t'.state t'.id)
    (f := TransferRow.updated t')
    (fun row hrow => decide_eq_true ⟨(of_decide_eq_true hrow).1, rfl⟩) fun _ => rfl
  have hleases : (s.afterTransferPoll t t').otherLeases .assetTransfer =
      s.otherLeases .assetTransfer := otherLeases_eq_self (s := s) rfl
  unfold afterTransferPoll at hleases ⊢
  rw [hleases, ← hstate]
  exact congrArg (fun table => Store.mk _ _ table _) htable

end Store

/-! ## Workflow ticks -/

namespace WorkflowTick

variable (desk : Desk) (turn : Turn) {s : Store} {w : Workflow} {tasks : List Task}

theorem step_waiting {turn : Turn} (h : ¬s.LeaseAlive .orchestrator turn.now) : ∃ leases events,
    step desk turn s .waiting =
      ({ s with leases := leases }, .holding ⟨.orchestrator, turn.holder⟩, events) := by
  obtain ⟨reclaimed, row, hacquire, -⟩ := Store.acquireLease_of_not_alive h turn.holder
  show ∃ leases events, acquire turn s = _
  unfold acquire
  rw [hacquire]
  exact ⟨_, _, rfl⟩

theorem step_holding (lease : Lease) {rest : List Workflow}
    (hopen : s.findOpenWorkflows = .ok (w :: rest)) (hw : w.state = .claimLp) :
    ∃ events, step desk turn s (.holding lease) = (s, .checking lease w, events) := by
  have hdispatch : dispatch lease w = (.checking lease w, []) := by
    unfold dispatch
    rw [hw]
    rfl
  unfold step load
  rw [hopen]
  cases rest with
  | nil => exact ⟨[], by dsimp only; rw [hdispatch]⟩
  | cons other rest =>
    dsimp only
    rw [hdispatch]
    exact ⟨_, rfl⟩

/-- A poll takes the lease and loads its workflow. -/
theorem run_waiting {turn : Turn} (h : s.PollsWorkflow turn.now w) : ∃ lease leases,
    (run desk turn s .waiting).1 = (run desk turn { s with leases := leases } (.checking lease w)).1
      ∧ (run desk turn s .waiting).2.1 =
        (run desk turn { s with leases := leases } (.checking lease w)).2.1 := by
  obtain ⟨rest, hopen⟩ := h.oldest
  obtain ⟨leases, _, htake⟩ := step_waiting desk h.free
  have hopen' : ({ s with leases := leases } : Store).findOpenWorkflows = .ok (w :: rest) := hopen
  obtain ⟨_, hload⟩ :=
    step_holding desk turn ⟨.orchestrator, turn.holder⟩ hopen' h.state
  refine ⟨⟨.orchestrator, turn.holder⟩, leases, ?_⟩
  rw [run_of_step (p := .waiting) rfl, htake]
  dsimp only
  rw [run_of_step (p := .holding _) rfl, hload]
  exact ⟨rfl, rfl⟩

/-- Where the claims cannot be loaded, this is what comes of the tick. -/
theorem run_misread (lease : Lease) {e : StoreError}
    (h : s.findTasks (.workflow w.id) .claimFromVault = .error e) :
    (run desk turn s (.checking lease w)).2.1 = .error (.stage w.id .claimLp (.store e)) := by
  have hjudge : step desk turn s (.checking lease w) =
      (s, .releasing lease (.error (.stage w.id .claimLp (.store e))), []) := by
    show (s, judge lease s w) = _
    unfold judge Claim.check
    rw [h]
    rfl
  rw [run_of_step (p := .checking lease w) rfl, hjudge]
  dsimp only
  rw [run_of_step (p := .releasing _ _) rfl, run_of_result rfl]

/-- Otherwise the verdict is stored. -/
theorem run_checking (lease : Lease) {next : Store} (hw : w.state = .claimLp)
    (htasks : s.findTasks (.workflow w.id) .claimFromVault = .ok tasks)
    (hu : s.updateWorkflow w.state (settled w (Claim.verdict w tasks)) = .ok next) :
    (∃ leases, (run desk turn s (.checking lease w)).1 = { next with leases := leases })
      ∧ (run desk turn s (.checking lease w)).2.1 =
        .ok (.polled w.id .claimLp (Claim.verdict w tasks).nextState
          (Claim.verdict w tasks).progress) := by
  have hjudge : step desk turn s (.checking lease w) =
      (s, .judged lease w (Claim.verdict w tasks),
        Claim.verdictEvents (Claim.verdict w tasks)) := by
    show (s, judge lease s w) = _
    unfold judge Claim.check
    rw [htasks]
    rfl
  have hsettle : step desk turn s (.judged lease w (Claim.verdict w tasks)) =
      (next, .announcing lease (Claim.verdict w tasks).alert
        (.polled w.id .claimLp (Claim.verdict w tasks).nextState
          (Claim.verdict w tasks).progress), []) := by
    unfold step settle
    dsimp only
    rw [hu, hw]
  rw [run_of_step (p := .checking lease w) rfl, hjudge]
  dsimp only
  rw [run_of_step (p := .judged _ _ _) rfl, hsettle]
  dsimp only
  rw [run_of_step (p := .announcing _ _ _) rfl]
  dsimp only [step]
  rw [run_of_step (p := .releasing _ _) rfl, run_of_result rfl]
  exact ⟨⟨_, rfl⟩, rfl⟩

/-- A workflow in the stage can move to whatever the verdict says. -/
theorem canMoveTo_verdict (hw : w.state = .claimLp) (tasks : List Task) :
    w.state.canMoveTo (Claim.verdict w tasks).nextState = true := by
  rw [Claim.nextState_verdict, hw]
  split
  · decide
  · split <;> decide

/-- **What a poll leaves, and what it says.** -/
theorem run_poll (hs : s.workflows.Numbered WorkflowRow.id)
    (h : s.PollsWorkflow turn.now w)
    (htasks : s.findTasks (.workflow w.id) .claimFromVault = .ok tasks) :
    (run desk turn s .waiting).1 = s.afterWorkflowPoll w (settled w (Claim.verdict w tasks))
      ∧ (run desk turn s .waiting).2.1 =
        .ok (.polled w.id .claimLp (Claim.verdict w tasks).nextState
          (Claim.verdict w tasks).progress) := by
  obtain ⟨rest, hopen⟩ := h.oldest
  obtain ⟨lease, leases, hstore, hresult⟩ := run_waiting desk h
  obtain ⟨hu, -⟩ := Store.updateWorkflow_oldest (s := { s with leases := leases }) hs hopen
    (settled w (Claim.verdict w tasks)) (canMoveTo_verdict h.state tasks) rfl rfl
  obtain ⟨⟨left, hrun⟩, houtcome⟩ :=
    run_checking desk turn (s := { s with leases := leases }) lease h.state htasks hu
  -- that the lease is given back is known of all ticks
  have hleases := ((tidy_run desk turn s).released h.free).2
  rw [hstore, hrun] at hleases ⊢
  obtain rfl : left = s.otherLeases .orchestrator := hleases
  exact ⟨rfl, hresult.trans houtcome⟩

theorem settled_eq_self {check : StageCheck} (hstate : check.nextState = w.state)
    (hprogress : check.progress.toText = w.progress) (hmessage : check.message = none) :
    settled w check = w := by
  unfold settled
  rw [hstate, hprogress, hmessage]
  rfl

/-- Who judges a workflow again that has stayed in the stage writes what it has written. -/
theorem settled_settled (hstays : (Claim.verdict w tasks).nextState = w.state)
    (hw : w.state = .claimLp) :
    settled (settled w (Claim.verdict w tasks))
        (Claim.verdict (settled w (Claim.verdict w tasks)) tasks) =
      settled w (Claim.verdict w tasks) := by
  have hstate : (settled w (Claim.verdict w tasks)).state = w.state := hstays
  have hnext : (Claim.verdict (settled w (Claim.verdict w tasks)) tasks).nextState =
      (Claim.verdict w tasks).nextState := by
    rw [Claim.nextState_verdict, Claim.nextState_verdict w, hstate]
  refine settled_eq_self hnext (congrArg Progress.toText ?_)
    (Claim.message_verdict (hnext.trans (hstays.trans hw)))
  rw [Claim.progress_verdict, Claim.progress_verdict]

/-- **A poll that leaves its workflow in the stage can be repeated.** -/
theorem run_again (hs : s.workflows.Numbered WorkflowRow.id) (h : s.PollsWorkflow turn.now w)
    (htasks : s.findTasks (.workflow w.id) .claimFromVault = .ok tasks)
    (hstays : (Claim.verdict w tasks).nextState = .claimLp) (desk' : Desk) (turn' : Turn) :
    (run desk' turn' (run desk turn s .waiting).1 .waiting).1 = (run desk turn s .waiting).1
      ∧ (run desk' turn' (run desk turn s .waiting).1 .waiting).2.1 =
        (run desk turn s .waiting).2.1 := by
  have hkept : (Claim.verdict w tasks).nextState = w.state := hstays.trans h.state.symm
  have hsettled := settled_settled hkept h.state
  obtain ⟨hstore, houtcome⟩ := run_poll desk turn hs h htasks
  have hpolls := h.again hs (settled w (Claim.verdict w tasks)) hstays rfl rfl turn'.now
  have hs' := hs.update (WorkflowRow.isAt w.state w.id)
    (f := WorkflowRow.updated (settled w (Claim.verdict w tasks))) fun _ => rfl
  obtain ⟨hstore', houtcome'⟩ := run_poll desk' turn' hs' hpolls htasks
  rw [hsettled] at hstore'
  rw [hstore, houtcome, hstore', houtcome', s.afterWorkflowPoll_again hkept]
  refine ⟨rfl, ?_⟩
  rw [show (Claim.verdict (settled w (Claim.verdict w tasks)) tasks).nextState = _ from
      congrArg Workflow.state hsettled, Claim.progress_verdict, Claim.progress_verdict]
  rfl

/-- Of a tick in this phase it is certain, if it polls a workflow, that the workflow was due. -/
def Phase.PollsDue (s₀ s : Store) : Phase → Prop
  | .waiting | .holding _ => s.findOpenWorkflows = s₀.findOpenWorkflows
  | .executing _ _ _ => True
  | .checking _ w | .judged _ w _ => s₀.DueWorkflow w
  | .announcing _ _ outcome =>
    ∀ id before after p, outcome = .polled id before after p → ∃ w, w.id = id ∧ s₀.DueWorkflow w
  | .releasing _ result | .done result =>
    ∀ id before after p, result = .ok (.polled id before after p) →
      ∃ w, w.id = id ∧ s₀.DueWorkflow w

theorem pollsDue_step {s₀ s next : Store} {p next' : Phase} {events : List Event}
    (h : p.PollsDue s₀ s) (hadv : Advances desk s p (next, next', events)) :
    next'.PollsDue s₀ next := by
  cases hadv with
  | acquire lease leases events _ => exact h
  | pass lease result events hidle _ =>
    rintro id before after p rfl
    exact hidle.elim
  | check lease w rest events hopen hw _ => exact ⟨⟨rest, h.symm.trans hopen⟩, hw⟩
  | judge lease w check _ => exact h
  | settle lease w check next _ =>
    intro id before after p houtcome
    cases houtcome
    exact ⟨w, rfl, h⟩
  | announce lease alert outcome =>
    intro id before after p houtcome
    exact h id before after p (Except.ok.inj houtcome)
  | release lease result leases events _ => exact h
  | rest result => exact h
  | enter | draft | prepare | save => trivial
  | leaseHeld | nothing | skip | report | fail | leave | misread | refuse => nofun

/-- **Nothing else is polled.** -/
theorem pollsWorkflow_of_polled {id : Int} {before after : WorkflowState} {p : Progress}
    (h : (run desk turn s .waiting).2.1 = .ok (.polled id before after p)) :
    ∃ w, w.id = id ∧ s.PollsWorkflow turn.now w := by
  have hfree : ¬s.LeaseAlive .orchestrator turn.now := by
    intro halive
    have hheld := ((tidy_run desk turn s).excluded halive).1
    exact absurd (hheld.symm.trans h) (by simp)
  obtain ⟨last, hresult, hlast⟩ := (phases desk turn).run_keeps
    (P := fun s' p => p.PollsDue s s')
    (fun s' p h => pollsDue_step desk h (advances_step desk turn s' p))
    (s := s) (p := .waiting) rfl
  cases last with
  | done result =>
    obtain ⟨w, hid, hdue⟩ := hlast id before after p ((Option.some.inj hresult).trans h)
    exact ⟨w, hid, hdue, hfree⟩
  | _ => exact absurd hresult nofun

end WorkflowTick

/-! ## Transfer ticks -/

namespace TransferTick

variable (gas : GasAssigner) (chains : Chains) (turn : Turn) {s : Store} {t : TransferTask}
  {tasks : List Task}

theorem step_waiting {turn : Turn} (h : ¬s.LeaseAlive .assetTransfer turn.now) : ∃ leases events,
    step gas chains turn s .waiting =
      ({ s with leases := leases }, .holding ⟨.assetTransfer, turn.holder⟩, events) := by
  obtain ⟨reclaimed, row, hacquire, -⟩ := Store.acquireLease_of_not_alive h turn.holder
  show ∃ leases events, acquire turn s = _
  unfold acquire
  rw [hacquire]
  exact ⟨_, _, rfl⟩

theorem step_holding (lease : Lease) {rest : List TransferTask}
    (hopen : s.findOpenTransfers = .ok (t :: rest)) (ht : t.state = .ongoing) :
    ∃ events, step gas chains turn s (.holding lease) = (s, .polling lease t, events) := by
  have hdispatch : dispatch lease t = .polling lease t := by
    unfold dispatch
    rw [ht]
  unfold step load
  rw [hopen]
  cases rest with
  | nil => exact ⟨[], by dsimp only; rw [hdispatch]⟩
  | cons other rest =>
    dsimp only
    rw [hdispatch]
    exact ⟨_, rfl⟩

/-- A poll takes the lease and loads its task. -/
theorem run_waiting {turn : Turn} (h : s.PollsTransfer turn.now t) : ∃ lease leases,
    (run gas chains turn s .waiting).1 =
        (run gas chains turn { s with leases := leases } (.polling lease t)).1
      ∧ (run gas chains turn s .waiting).2.1 =
        (run gas chains turn { s with leases := leases } (.polling lease t)).2.1 := by
  obtain ⟨rest, hopen⟩ := h.oldest
  obtain ⟨leases, _, htake⟩ := step_waiting gas chains h.free
  have hopen' : ({ s with leases := leases } : Store).findOpenTransfers = .ok (t :: rest) := hopen
  obtain ⟨_, hload⟩ := step_holding gas chains turn
    ⟨.assetTransfer, turn.holder⟩ hopen' h.state
  refine ⟨⟨.assetTransfer, turn.holder⟩, leases, ?_⟩
  rw [run_of_step (p := .waiting) rfl, htake]
  dsimp only
  rw [run_of_step (p := .holding _) rfl, hload]
  exact ⟨rfl, rfl⟩

/-- Where the transactions cannot be loaded, this is what comes of the tick. -/
theorem run_misread (lease : Lease) {e : StoreError}
    (h : s.findTasks t.owner t.type.transactionType = .error e) :
    (run gas chains turn s (.polling lease t)).2.1 = .error (.store e) := by
  have htally : step gas chains turn s (.polling lease t) =
      (s, .releasing lease (.error (.store e)), []) := by
    unfold step tally
    dsimp only
    rw [h]
  rw [run_of_step (p := .polling lease t) rfl, htally]
  dsimp only
  rw [run_of_step (p := .releasing _ _) rfl, run_of_result rfl]

/-- Otherwise the tally is stored. -/
theorem run_polling (lease : Lease) {next : Store}
    (htasks : s.findTasks t.owner t.type.transactionType = .ok tasks)
    (hu : s.updateTransfer t.state (t.tallied (Progress.ofTasks tasks)) = .ok next) :
    (∃ leases, (run gas chains turn s (.polling lease t)).1 = { next with leases := leases })
      ∧ (run gas chains turn s (.polling lease t)).2.1 =
        .ok (.polled t.id (TransferTask.stateOf (Progress.ofTasks tasks))
          (Progress.ofTasks tasks)) := by
  have htally : step gas chains turn s (.polling lease t) =
      (s, .tallied lease t (Progress.ofTasks tasks), []) := by
    unfold step tally
    dsimp only
    rw [htasks]
  have hsettle : step gas chains turn s (.tallied lease t (Progress.ofTasks tasks)) =
      (next, .releasing lease (.ok (.polled t.id (TransferTask.stateOf (Progress.ofTasks tasks))
        (Progress.ofTasks tasks))), []) := by
    unfold step settle
    dsimp only
    rw [hu]
  rw [run_of_step (p := .polling lease t) rfl, htally]
  dsimp only
  rw [run_of_step (p := .tallied _ _ _) rfl, hsettle]
  dsimp only
  rw [run_of_step (p := .releasing _ _) rfl, run_of_result rfl]
  exact ⟨⟨_, rfl⟩, rfl⟩

/-- A task that has been submitted can move to whatever the tally says. -/
theorem canMoveTo_stateOf (ht : t.state = .ongoing) (p : Progress) :
    t.state.canMoveTo (TransferTask.stateOf p) = true := by
  rw [ht]
  unfold TransferTask.stateOf
  split
  · rfl
  · split <;> rfl

/-- **What a poll leaves, and what it says.** -/
theorem run_poll (hs : s.transfers.Numbered TransferRow.id)
    (h : s.PollsTransfer turn.now t)
    (htasks : s.findTasks t.owner t.type.transactionType = .ok tasks) :
    (run gas chains turn s .waiting).1 = s.afterTransferPoll t (t.tallied (Progress.ofTasks tasks))
      ∧ (run gas chains turn s .waiting).2.1 =
        .ok (.polled t.id (TransferTask.stateOf (Progress.ofTasks tasks))
          (Progress.ofTasks tasks)) := by
  obtain ⟨rest, hopen⟩ := h.oldest
  obtain ⟨lease, leases, hstore, hresult⟩ := run_waiting gas chains h
  obtain ⟨hu, -⟩ := Store.updateTransfer_oldest (s := { s with leases := leases }) hs hopen
    (t.tallied (Progress.ofTasks tasks)) (canMoveTo_stateOf h.state _) rfl rfl rfl
    rfl
  obtain ⟨⟨left, hrun⟩, houtcome⟩ := run_polling gas chains turn
    (s := { s with leases := leases }) lease htasks hu
  have hleases := ((tidy_run gas chains turn s).released h.free).2
  rw [hstore, hrun] at hleases ⊢
  obtain rfl : left = s.otherLeases .assetTransfer := hleases
  exact ⟨rfl, hresult.trans houtcome⟩

/-- **A poll that leaves its task pending can be repeated.** -/
theorem run_again (hs : s.transfers.Numbered TransferRow.id) (h : s.PollsTransfer turn.now t)
    (htasks : s.findTasks t.owner t.type.transactionType = .ok tasks)
    (hstays : TransferTask.stateOf (Progress.ofTasks tasks) = .ongoing) (gas' : GasAssigner)
    (chains' : Chains) (turn' : Turn) :
    (run gas' chains' turn' (run gas chains turn s .waiting).1 .waiting).1 =
        (run gas chains turn s .waiting).1
      ∧ (run gas' chains' turn' (run gas chains turn s .waiting).1 .waiting).2.1 =
        (run gas chains turn s .waiting).2.1 := by
  obtain ⟨hstore, houtcome⟩ := run_poll gas chains turn hs h htasks
  have hpolls := h.again hs (t.tallied (Progress.ofTasks tasks)) hstays rfl rfl rfl rfl turn'.now
  have hs' := hs.update (TransferRow.isAt t.state t.id)
    (f := TransferRow.updated (t.tallied (Progress.ofTasks tasks))) fun _ => rfl
  obtain ⟨hstore', houtcome'⟩ := run_poll gas' chains' turn' hs' hpolls htasks
  -- the same tally, written once more
  have htallied : (t.tallied (Progress.ofTasks tasks)).tallied (Progress.ofTasks tasks) =
      t.tallied (Progress.ofTasks tasks) := rfl
  rw [htallied] at hstore'
  rw [hstore, houtcome, hstore', houtcome',
    s.afterTransferPoll_again (hstays.trans h.state.symm)]
  exact ⟨rfl, rfl⟩

/-- Of a tick in this phase it is certain, if it polls a task, that the task was due. -/
def Phase.PollsDue (s₀ s : Store) : Phase → Prop
  | .waiting | .holding _ => s.findOpenTransfers = s₀.findOpenTransfers
  | .submitting _ _ | .prepared _ _ _ => True
  | .polling _ t | .tallied _ t _ => s₀.DueTransfer t
  | .releasing _ result | .done result =>
    ∀ id state p, result = .ok (.polled id state p) → ∃ t, t.id = id ∧ s₀.DueTransfer t

theorem pollsDue_dispatch {s₀ : Store} (lease : Lease) {rest : List TransferTask}
    (h : s₀.findOpenTransfers = .ok (t :: rest)) : (dispatch lease t).PollsDue s₀ s := by
  unfold dispatch
  split
  · trivial
  · exact ⟨⟨rest, h⟩, ‹_›⟩
  · nofun
  · nofun

theorem pollsDue_load {s₀ : Store} (lease : Lease)
    (h : s.findOpenTransfers = s₀.findOpenTransfers) : (load lease s).1.PollsDue s₀ s := by
  unfold load
  split
  · nofun
  · nofun
  · rename_i t hopen
    exact pollsDue_dispatch lease (h.symm.trans hopen)
  · rename_i t rest _ hopen
    exact pollsDue_dispatch lease (h.symm.trans hopen)

theorem pollsDue_step {s₀ : Store} {p : Phase} (h : p.PollsDue s₀ s) :
    (step gas chains turn s p).2.1.PollsDue s₀ (step gas chains turn s p).1 := by
  by_cases hholding : ∃ lease, p = .holding lease
  · obtain ⟨lease, rfl⟩ := hholding
    exact pollsDue_load lease h
  · have hadv := advances_step gas chains turn s p
    generalize step gas chains turn s p = r at hadv
    cases hadv with
    | acquire lease leases events _ => exact h
    | pass | submit | poll => exact absurd ⟨_, rfl⟩ hholding
    | tally lease t tasks _ => exact h
    | settle lease t progress next _ =>
      intro id state p houtcome
      cases houtcome
      exact ⟨t, rfl, h⟩
    | release lease result leases events _ => exact h
    | rest result => exact h
    | prepare => trivial
    | leaseHeld | unprepared | save | unsaved | misread | refuse => nofun

/-- **Nothing else is polled.** -/
theorem pollsTransfer_of_polled {id : Int} {state : TransferState} {p : Progress}
    (h : (run gas chains turn s .waiting).2.1 = .ok (.polled id state p)) :
    ∃ t, t.id = id ∧ s.PollsTransfer turn.now t := by
  have hfree : ¬s.LeaseAlive .assetTransfer turn.now := by
    intro halive
    have hheld := ((tidy_run gas chains turn s).excluded halive).1
    exact absurd (hheld.symm.trans h) (by simp)
  obtain ⟨last, hresult, hlast⟩ := (phases gas chains turn).run_keeps
    (P := fun s' p => p.PollsDue s s') (fun _ _ h => pollsDue_step gas chains turn h)
    (s := s) (p := .waiting) rfl
  cases last with
  | done result =>
    obtain ⟨t, hid, hdue⟩ := hlast id state p ((Option.some.inj hresult).trans h)
    exact ⟨t, hid, hdue, hfree⟩
  | _ => exact absurd hresult nofun

end TransferTick

end Treasury
