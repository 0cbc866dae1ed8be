import Treasury.Proofs.Claim.Stage
import Treasury.Proofs.Store.Transfers
import Treasury.Proofs.Tick.Tidy
import Treasury.Proofs.Tick.Transfer
import Treasury.Proofs.Tick.Workflow

/-!
# Ticks that fail

A tick writes at most once, and whatever it does from then on cannot fail (`Phase.Certain`). So a
tick that has failed has written nothing and told nobody, wherever it failed. And whatever comes of
it, its last phase gives the lease back.
-/

namespace Treasury

namespace Store

theorem updateWorkflow_leases {s s' : Store} {expected : WorkflowState} {w : Workflow}
    (h : s.updateWorkflow expected w = .ok s') : s'.leases = s.leases := by
  rw [(updateWorkflow_eq_ok.1 h).2.2]
  rfl

theorem updateTransfer_leases {s s' : Store} {expected : TransferState} {t : TransferTask}
    (h : s.updateTransfer expected t = .ok s') : s'.leases = s.leases := by
  rw [(updateTransfer_eq_ok.1 h).2.2]
  rfl

end Store

theorem Claim.commit_leases {s s' : Store} {w : Workflow} {batch : List Prepared}
    (h : commit s w batch = .ok s') : s'.leases = s.leases := by
  obtain ⟨saved, ids, hsave, hu⟩ := commit_eq_ok.1 h
  exact (Store.updateWorkflow_leases hu).trans (Store.saveTasks_frame hsave).2.2

theorem TransferTick.commit_leases {s s' : Store} {t : TransferTask} {batch : List Prepared}
    (h : commit s t batch = .ok s') : s'.leases = s.leases := by
  obtain ⟨⟨saved, ids⟩, hsave, hu⟩ := bind_eq_ok.1 h
  exact (Store.updateTransfer_leases hu).trans (Store.saveTasks_frame hsave).2.2

/-! ## Workflow ticks -/

namespace WorkflowTick

/-- A tick in this phase works under the lease. -/
def Phase.WorksUnder (lease : Lease) : Phase → Prop
  | .holding l | .executing l _ _ | .checking l _ | .judged l _ _ => l = lease
  | .announcing l _ outcome => l = lease ∧ outcome ≠ .leaseHeld
  | .releasing l result => l = lease ∧ result ≠ .ok .leaseHeld
  | .waiting | .done _ => False

/-- A tick in this phase cannot fail any more. -/
def Phase.Certain : Phase → Prop
  | .executing _ _ (.announcing _ _) | .executing _ _ (.finished (.ok _)) | .announcing _ _ _
  | .releasing _ (.ok _) | .done (.ok _) => True
  | _ => False

variable {desk : Desk} {turn : Turn} {s : Store} {p : Phase} {lease : Lease}

theorem certain_step (h : p.Certain) : (step desk turn s p).2.1.Certain := by
  cases p with
  | executing lease id phase =>
    cases phase with
    | announcing alert transactions => trivial
    | finished result =>
      cases result with
      | ok outcome => trivial
      | error cause => exact h.elim
    | _ => exact h.elim
  | announcing lease alert outcome => trivial
  | releasing lease result =>
    cases result with
    | ok outcome => trivial
    | error cause => exact h.elim
  | done result => exact h
  | _ => exact h.elim

/-- As long as a tick can fail, it makes no difference who would be told. -/
theorem step_eq_of_not_certain (h : ¬p.Certain) (notifier : Notifier) (recipients : List String) :
    step { desk with notifier := notifier, recipients := recipients } turn s p =
      step desk turn s p := by
  cases p with
  | executing lease id phase =>
    cases phase with
    | announcing alert transactions => exact absurd trivial h
    | _ => rfl
  | announcing lease alert outcome => exact absurd trivial h
  | _ => rfl

theorem worksUnder_dispatch (lease : Lease) (w : Workflow) :
    (dispatch lease w).1.WorksUnder lease := by
  unfold dispatch
  split
  · rfl
  · rfl
  · exact ⟨rfl, by simp⟩

theorem proceeds_load (lease : Lease) (s : Store) :
    Phases.Proceeds (Phase.WorksUnder lease) Phase.Certain s (s, load lease s) := by
  refine ⟨?_, rfl, .inr ⟨rfl, isLogged_load lease s⟩⟩
  unfold load
  split
  · exact ⟨rfl, by simp⟩
  · exact ⟨rfl, by simp⟩
  · exact worksUnder_dispatch lease _
  · exact worksUnder_dispatch lease _

theorem proceeds_enter (desk : Desk) (lease : Lease) (s : Store) (id : Int) (w : Workflow) :
    Phases.Proceeds (Phase.WorksUnder lease) Phase.Certain s
      (s, afterStage lease id (Claim.enter desk w).1, (Claim.enter desk w).2) := by
  refine ⟨?_, rfl, .inr ⟨rfl, Claim.isLogged_enter desk w⟩⟩
  unfold Claim.enter
  split
  · exact ⟨rfl, by simp⟩
  · split
    · exact ⟨rfl, by simp⟩
    · exact ⟨rfl, by simp⟩
    · rfl

theorem proceeds_prepare (desk : Desk) (lease : Lease) (s : Store) (id : Int) (w : Workflow)
    (drafts : List Draft) :
    Phases.Proceeds (Phase.WorksUnder lease) Phase.Certain s
      ((Claim.prepare desk s w drafts).1, afterStage lease id (Claim.prepare desk s w drafts).2,
        []) := by
  unfold Claim.prepare
  split
  · split
    · exact ⟨⟨rfl, by simp⟩, rfl, .inr ⟨rfl, by simp⟩⟩
    · rename_i next hu
      exact ⟨⟨rfl, by simp⟩, Store.updateWorkflow_leases hu, .inl trivial⟩
  · split
    · exact ⟨⟨rfl, by simp⟩, rfl, .inr ⟨rfl, by simp⟩⟩
    · exact ⟨rfl, rfl, .inr ⟨rfl, by simp⟩⟩

theorem proceeds_save (lease : Lease) (s : Store) (id : Int) (w : Workflow)
    (batch : List Prepared) :
    Phases.Proceeds (Phase.WorksUnder lease) Phase.Certain s
      ((Claim.save s w batch).1, afterStage lease id (Claim.save s w batch).2, []) := by
  unfold Claim.save
  split
  · exact ⟨⟨rfl, by simp⟩, rfl, .inr ⟨rfl, by simp⟩⟩
  · rename_i next hc
    exact ⟨rfl, Claim.commit_leases hc, .inl trivial⟩

/-- **Until the lease is given back, a tick works under it; and until nothing can fail any more, it
has written nothing.** -/
theorem proceeds_step (h : p.WorksUnder lease)
    (hne : ∀ result, p ≠ .releasing lease result) :
    Phases.Proceeds (Phase.WorksUnder lease) Phase.Certain s (step desk turn s p) := by
  cases p with
  | waiting => exact h.elim
  | holding l =>
    obtain rfl := h
    exact proceeds_load l s
  | executing l id phase =>
    obtain rfl := h
    cases phase with
    | entering w => exact proceeds_enter desk l s id w
    | drafted w drafts => exact proceeds_prepare desk l s id w drafts
    | prepared w batch => exact proceeds_save l s id w batch
    | announcing alert transactions => exact ⟨⟨rfl, by simp⟩, rfl, .inl trivial⟩
    | finished result =>
      cases result with
      | error cause => exact ⟨⟨rfl, by simp⟩, rfl, .inr ⟨rfl, by simp [step, Claim.step]⟩⟩
      | ok outcome => exact ⟨⟨rfl, by simp⟩, rfl, .inl trivial⟩
  | checking l w =>
    obtain rfl := h
    unfold step judge
    dsimp only
    split
    · exact ⟨⟨rfl, by simp⟩, rfl, .inr ⟨rfl, by simp⟩⟩
    · exact ⟨rfl, rfl, .inr ⟨rfl, Claim.isLogged_verdictEvents _⟩⟩
  | judged l w check =>
    obtain rfl := h
    unfold step settle
    dsimp only
    split
    · exact ⟨⟨rfl, by simp⟩, rfl, .inr ⟨rfl, by simp⟩⟩
    · rename_i next hu
      exact ⟨⟨rfl, by simp⟩, Store.updateWorkflow_leases hu, .inl trivial⟩
  | announcing l alert outcome =>
    exact ⟨⟨h.1, fun he => h.2 (Except.ok.inj he)⟩, rfl, .inl trivial⟩
  | releasing l result =>
    obtain ⟨rfl, -⟩ := h
    exact absurd rfl (hne result)
  | done result => exact h.elim

/-- A workflow tick by its phases. -/
def phases (desk : Desk) (turn : Turn) : Phases Phase TickError TickOutcome where
  step := step desk turn
  result? := Phase.result?
  run := run desk turn
  run_of_result := run_of_result
  run_of_step := run_of_step
  left := Phase.left
  left_step_lt := left_step_lt desk turn

theorem underLease (desk : Desk) (turn : Turn) (lease : Lease) :
    (phases desk turn).UnderLease .leaseHeld lease (Phase.WorksUnder lease) Phase.Certain where
  unfinished := by
    intro p hp
    cases p with
    | done result => exact hp.elim
    | _ => rfl
  certain_step := certain_step
  certain_result := by
    intro p result hp hresult
    cases p with
    | done found =>
      cases found with
      | ok outcome => exact ⟨outcome, (Option.some.inj hresult).symm⟩
      | error cause => exact hp.elim
    | _ => exact absurd hresult nofun
  phase := by
    intro s p hp
    by_cases hrelease : ∃ result, p = .releasing lease result
    · obtain ⟨result, rfl⟩ := hrelease
      exact .inr ⟨result, .done result, hp.2, rfl, rfl⟩
    · exact .inl (proceeds_step hp fun result he => hrelease ⟨result, he⟩)

theorem tidy_run (desk : Desk) (turn : Turn) (s : Store) :
    Tidy .leaseHeld .orchestrator turn.now s (run desk turn s .waiting) := by
  refine (underLease desk turn ⟨.orchestrator, turn.holder⟩).tidy_run .waiting
    (.done (.ok .leaseHeld)) .holding rfl rfl rfl (fun s => ?_) s
  show acquire turn s = _
  unfold acquire
  dsimp only
  cases (s.acquireLease .orchestrator turn.holder turn.now).2.lease <;> rfl

/-- A tick that has failed would have failed in the same way whoever was to be told. -/
theorem run_eq_of_error {e : TickError} (he : (run desk turn s p).2.1 = .error e)
    (notifier : Notifier) (recipients : List String) :
    run { desk with notifier := notifier, recipients := recipients } turn s p =
      run desk turn s p := by
  induction s, p using run.induct desk turn with
  | case1 s p result hresult => rw [run_of_result hresult, run_of_result hresult]
  | case2 s p hresult next ih =>
    -- a tick that has failed has not come to a phase that cannot
    by_cases hcertain : p.Certain
    · obtain ⟨outcome, hok⟩ := (underLease desk turn ⟨.orchestrator, turn.holder⟩).ok_of_certain
        hcertain
      exact absurd (hok.symm.trans he) (by simp)
    · rw [run_of_step hresult] at he
      rw [run_of_step hresult, run_of_step hresult,
        step_eq_of_not_certain hcertain notifier recipients, ih he]

end WorkflowTick

/-! ## Transfer ticks -/

namespace TransferTick

/-- A tick in this phase works under the lease. -/
def Phase.WorksUnder (lease : Lease) : Phase → Prop
  | .holding l | .submitting l _ | .prepared l _ _ | .polling l _ | .tallied l _ _ => l = lease
  | .releasing l result => l = lease ∧ result ≠ .ok .leaseHeld
  | .waiting | .done _ => False

/-- A tick in this phase cannot fail any more. -/
def Phase.Certain : Phase → Prop
  | .releasing _ (.ok _) | .done (.ok _) => True
  | _ => False

variable {gas : GasAssigner} {chains : Chains} {turn : Turn} {s : Store} {p : Phase}
  {lease : Lease}

theorem certain_step (h : p.Certain) : (step gas chains turn s p).2.1.Certain := by
  cases p with
  | releasing lease result =>
    cases result with
    | ok outcome => trivial
    | error cause => exact h.elim
  | done result => exact h
  | _ => exact h.elim

theorem worksUnder_dispatch (lease : Lease) (t : TransferTask) :
    (dispatch lease t).WorksUnder lease := by
  unfold dispatch
  split
  · rfl
  · rfl
  · exact ⟨rfl, by simp⟩
  · exact ⟨rfl, by simp⟩

theorem proceeds_load (lease : Lease) (s : Store) :
    Phases.Proceeds (Phase.WorksUnder lease) Phase.Certain s (s, load lease s) := by
  refine ⟨?_, rfl, .inr ⟨rfl, isLogged_load lease s⟩⟩
  unfold load
  split
  · exact ⟨rfl, by simp⟩
  · exact ⟨rfl, by simp⟩
  · exact worksUnder_dispatch lease _
  · exact worksUnder_dispatch lease _

/-- **A transfer tick writes nothing before its last phase but one.** -/
theorem proceeds_step (h : p.WorksUnder lease)
    (hne : ∀ result, p ≠ .releasing lease result) :
    Phases.Proceeds (Phase.WorksUnder lease) Phase.Certain s (step gas chains turn s p) := by
  cases p with
  | waiting => exact h.elim
  | holding l =>
    obtain rfl := h
    exact proceeds_load l s
  | submitting l t =>
    obtain rfl := h
    unfold step prepare
    dsimp only
    split
    · exact ⟨⟨rfl, by simp⟩, rfl, .inr ⟨rfl, by simp⟩⟩
    · exact ⟨rfl, rfl, .inr ⟨rfl, by simp⟩⟩
  | prepared l t batch =>
    obtain rfl := h
    unfold step save
    dsimp only
    split
    · exact ⟨⟨rfl, by simp⟩, rfl, .inr ⟨rfl, by simp⟩⟩
    · rename_i next hc
      exact ⟨⟨rfl, by simp⟩, commit_leases hc, .inl trivial⟩
  | polling l t =>
    obtain rfl := h
    unfold step tally
    dsimp only
    split
    · exact ⟨⟨rfl, by simp⟩, rfl, .inr ⟨rfl, by simp⟩⟩
    · exact ⟨rfl, rfl, .inr ⟨rfl, by simp⟩⟩
  | tallied l t progress =>
    obtain rfl := h
    unfold step settle
    dsimp only
    split
    · exact ⟨⟨rfl, by simp⟩, rfl, .inr ⟨rfl, by simp⟩⟩
    · rename_i next hu
      exact ⟨⟨rfl, by simp⟩, Store.updateTransfer_leases hu, .inl trivial⟩
  | releasing l result =>
    obtain ⟨rfl, -⟩ := h
    exact absurd rfl (hne result)
  | done result => exact h.elim

/-- A transfer tick by its phases. -/
def phases (gas : GasAssigner) (chains : Chains) (turn : Turn) :
    Phases Phase TransferTickError TransferOutcome where
  step := step gas chains turn
  result? := Phase.result?
  run := run gas chains turn
  run_of_result := run_of_result
  run_of_step := run_of_step
  left := Phase.left
  left_step_lt := left_step_lt gas chains turn

theorem underLease (gas : GasAssigner) (chains : Chains) (turn : Turn) (lease : Lease) :
    (phases gas chains turn).UnderLease .leaseHeld lease (Phase.WorksUnder lease)
      Phase.Certain where
  unfinished := by
    intro p hp
    cases p with
    | done result => exact hp.elim
    | _ => rfl
  certain_step := certain_step
  certain_result := by
    intro p result hp hresult
    cases p with
    | done found =>
      cases found with
      | ok outcome => exact ⟨outcome, (Option.some.inj hresult).symm⟩
      | error cause => exact hp.elim
    | _ => exact absurd hresult nofun
  phase := by
    intro s p hp
    by_cases hrelease : ∃ result, p = .releasing lease result
    · obtain ⟨result, rfl⟩ := hrelease
      exact .inr ⟨result, .done result, hp.2, rfl, rfl⟩
    · exact .inl (proceeds_step hp fun result he => hrelease ⟨result, he⟩)

theorem tidy_run (gas : GasAssigner) (chains : Chains) (turn : Turn) (s : Store) :
    Tidy .leaseHeld .assetTransfer turn.now s (run gas chains turn s .waiting) := by
  refine (underLease gas chains turn ⟨.assetTransfer, turn.holder⟩).tidy_run .waiting
    (.done (.ok .leaseHeld)) .holding rfl rfl rfl (fun s => ?_) s
  show acquire turn s = _
  unfold acquire
  dsimp only
  cases (s.acquireLease .assetTransfer turn.holder turn.now).2.lease <;> rfl

end TransferTick

/--
**A tick that fails leaves no trace.**

This holds of every store, whatever the provider reports, whatever is configured and however nonces
and gas are given out, also where they are refused only when half of a batch has been written. A
tick that fails has changed none of the tables, nor the numbers they give out next; all that can be
seen of it are lines in the log, which are the same whoever is to be told. No tick keeps its lease,
and one that comes while somebody else's lease is alive says so and changes nothing.
-/
theorem tidy_ticks (s : Store) (turn : Turn) (desk : Desk) (gas : GasAssigner)
    (chains : Chains) :
    Tidy .leaseHeld .orchestrator turn.now s (s.workflowTick desk turn)
      ∧ (∀ e, (s.workflowTick desk turn).2.1 = .error e → ∀ notifier recipients,
        s.workflowTick { desk with notifier := notifier, recipients := recipients } turn =
          s.workflowTick desk turn)
      ∧ Tidy .leaseHeld .assetTransfer turn.now s (s.transferTick gas chains turn) :=
  ⟨WorkflowTick.tidy_run desk turn s, fun _ he => WorkflowTick.run_eq_of_error he,
    TransferTick.tidy_run gas chains turn s⟩

end Treasury
