import Treasury.Proofs.Store.Params
import Treasury.Proofs.World.Order
import Treasury.Proofs.World.Submission

/-!
# Parameters stay what they were

A workflow or transfer task is opened with parameters, and from then on nobody writes that column of
its row again: every update makes the row that of another record with the same parameters
(`Rewrites.holds`, `Refiles.holds`). As such a row can be loaded, whoever loads it later reads the
parameters that it was opened with.
-/

namespace Treasury

namespace World

/-! ## What a move does to them -/

/-- **No move writes the parameters of a workflow again.** -/
theorem Rewrites.holds {w : World} {move : Move} {next : Store} (h : Rewrites w move next)
    {id : Int} {params : WorkflowParams} (hw : w.store.HoldsWorkflow id params) :
    next.HoldsWorkflow id params := by
  obtain ⟨copy, hid, hparams, hrow⟩ := hw
  cases h with
  | rest h => exact ⟨copy, hid, hparams, h ▸ hrow⟩
  | opened h =>
    obtain ⟨-, -, rfl⟩ := Store.insertWorkflow_eq_ok.1 h
    exact ⟨copy, hid, hparams, List.mem_append_left _ hrow⟩
  | @updated expected new saved _ hsaved hu =>
    obtain ⟨-, -, rfl⟩ := Store.updateWorkflow_eq_ok.1 hu
    have hmem := List.mem_map_of_mem (hsaved ▸ hrow) (f := fun row =>
      if row.isAt expected new.id = true then row.updated new else row)
    split at hmem
    · exact ⟨{ new with id := copy.id, params := copy.params }, hid, hparams, hmem⟩
    · exact ⟨copy, hid, hparams, hmem⟩

end World

/-- **No write changes the parameters of a transfer task.** -/
theorem Store.Refiles.holds {s next : Store} (h : s.Refiles next) {id : Int}
    {params : TransferParams} (hs : s.HoldsTransfer id params) : next.HoldsTransfer id params := by
  obtain ⟨copy, hid, hparams, hrow⟩ := hs
  cases h with
  | rest h => exact ⟨copy, hid, hparams, h ▸ hrow⟩
  | opened h =>
    obtain ⟨-, rfl⟩ := Store.insertTransfer_eq_ok.1 h
    exact ⟨copy, hid, hparams, List.mem_append_left _ hrow⟩
  | @updated saved expected new hsaved hu =>
    obtain ⟨-, -, rfl⟩ := Store.updateTransfer_eq_ok.1 hu
    have hmem := List.mem_map_of_mem (hsaved ▸ hrow) (f := fun row =>
      if row.isAt expected new.id = true then row.updated new else row)
    split at hmem
    · exact ⟨{ copy with state := new.state, progress := new.progress, message := new.message },
        hid, hparams, hmem⟩
    · exact ⟨copy, hid, hparams, hmem⟩

namespace World

theorem holdsWorkflow_run {w : World} {id : Int} {params : WorkflowParams}
    (h : w.store.HoldsWorkflow id params) (moves : List Move) :
    (w.run moves).store.HoldsWorkflow id params := by
  induction moves generalizing w with
  | nil => exact h
  | cons move moves ih => exact ih ((w.rewrites_after move).holds h)

theorem holdsTransfer_run {w : World} {id : Int} {params : TransferParams}
    (h : w.store.HoldsTransfer id params) (moves : List Move) :
    (w.run moves).store.HoldsTransfer id params := by
  induction moves generalizing w with
  | nil => exact h
  | cons move moves ih => exact ih ((w.refiles_after move).holds h)

/-- What comes of opening a workflow with these parameters, whatever is done afterwards. -/
structure OpensWorkflow (w : World) (params : WorkflowParams) (later : List Move) : Prop where
  /-- This is refused only where a workflow is open or no number is left, and then nothing is
  written. -/
  refused : ∀ e, (w.store.openWorkflow params).2 = .error e →
    (w.store.openWorkflow params).1 = w.store
      ∧ ((∃ id, e = .workflowAlreadyOpen id) ∨ e = .violation .full)
  /-- Otherwise the workflow has these parameters, at once and for good. -/
  opened : ∀ copy, (w.store.openWorkflow params).2 = .ok copy → copy.params = params
    ∧ ((w.after (.openWorkflow params)).run later).store.KeepsWorkflow copy.id params

/-- What comes of opening a transfer task with these parameters, whatever is done afterwards. -/
structure OpensTransfer (w : World) (rebalanceId : Int) (type : TransferType)
    (params : TransferParams) (later : List Move) : Prop where
  /-- This is refused only where no number is left, and then nothing is written. -/
  refused : ∀ e, (w.store.createTransfer rebalanceId type params).2 = .error e →
    (w.store.createTransfer rebalanceId type params).1 = w.store ∧ e = .violation .full
  /-- Otherwise the task has these parameters, at once and for good. No zero amount has a minus
  sign. -/
  opened : ∀ copy, (w.store.createTransfer rebalanceId type params).2 = .ok copy →
    copy.params = params.plain
      ∧ ((w.after (.createTransfer rebalanceId type params)).run later).store.KeepsTransfer copy.id
        params.plain

theorem opensWorkflow {w : World} (hw : w.store.WorkflowRules) (params : WorkflowParams)
    (later : List Move) : w.OpensWorkflow params later := by
  cases hrows : w.store.openWorkflowRows with
  | cons row rest =>
    have hopen := Store.openWorkflow_of_open hrows params
    refine ⟨fun e he => ?_, fun copy hcopy => ?_⟩
    · rw [hopen] at he ⊢
      exact ⟨rfl, .inl ⟨row.id, (Except.error.inj he).symm⟩⟩
    · rw [hopen] at hcopy
      exact absurd hcopy (by simp)
  | nil =>
    have hopen := Store.openWorkflow_of_none hw hrows params
    split at hopen
    · refine ⟨fun e he => ?_, fun copy hcopy => ?_⟩
      · rw [hopen] at he
        exact absurd he (by simp)
      · rw [hopen] at hcopy
        obtain rfl := Except.ok.inj hcopy
        have hholds : (w.after (.openWorkflow params)).store.HoldsWorkflow
            (w.store.workflows.last + 1) params := by
          show (w.store.openWorkflow params).1.HoldsWorkflow _ _
          rw [hopen]
          exact ⟨⟨_, .init, params, "", ""⟩, rfl, rfl,
            List.mem_append_right _ (List.mem_singleton_self _)⟩
        have hrules := rules_run ((w.rewrites_after (.openWorkflow params)).rules hw) later
        exact ⟨rfl, (holdsWorkflow_run hholds later).keeps hrules.nodup⟩
    · refine ⟨fun e he => ?_, fun copy hcopy => ?_⟩
      · rw [hopen] at he ⊢
        exact ⟨rfl, .inr (Except.error.inj he).symm⟩
      · rw [hopen] at hcopy
        exact absurd hcopy (by simp)

theorem opensTransfer {w : World} (hw : w.store.transfers.Numbered TransferRow.id)
    (rebalanceId : Int) (type : TransferType) (params : TransferParams) (later : List Move) :
    w.OpensTransfer rebalanceId type params later := by
  have hcreate := Store.createTransfer_eq hw rebalanceId type params
  split at hcreate
  · refine ⟨fun e he => ?_, fun copy hcopy => ?_⟩
    · rw [hcreate] at he
      exact absurd he (by simp)
    · rw [hcreate] at hcopy
      obtain rfl := Except.ok.inj hcopy
      have hholds : (w.after (.createTransfer rebalanceId type params)).store.HoldsTransfer
          (w.store.transfers.last + 1) params := by
        show (w.store.createTransfer rebalanceId type params).1.HoldsTransfer _ _
        rw [hcreate]
        exact w.store.holdsTransfer_withCreated rebalanceId type params
      have hnumbered :=
        (w.keepsOrder_run (.createTransfer rebalanceId type params :: later)).transfers hw
      exact ⟨rfl, (holdsTransfer_run hholds later).keeps hnumbered.nodup⟩
  · refine ⟨fun e he => ?_, fun copy hcopy => ?_⟩
    · rw [hcreate] at he ⊢
      exact ⟨rfl, (Except.error.inj he).symm⟩
    · rw [hcreate] at hcopy
      exact absurd hcopy (by simp)

/--
**Parameters survive storage.**

Their text is read back, and written again as it was unless a zero amount has a minus sign, which
is not read. A workflow or transfer task that is opened has its parameters at once and after
whatever else is done, whoever has left malformed rows beside it.
-/
theorem params_survive_run {s : Store} (hw : s.WorkflowRules)
    (ht : s.transfers.Numbered TransferRow.id) (earlier later : List Move) :
    (∀ p : WorkflowParams, WorkflowParams.ofText p.toText = .ok p
      ∧ ((start s).run earlier).OpensWorkflow p later)
    ∧ ∀ p : TransferParams,
      (TransferParams.ofText p.toText = .ok p.plain
        ∧ TransferParams.ofText p.plain.toText = .ok p.plain
        ∧ (p.plain.toText = p.toText ↔ ∀ c ∈ p.transfers, c.amount.minusZero = false))
      ∧ ∀ rebalanceId type, ((start s).run earlier).OpensTransfer rebalanceId type p later := by
  have hrules := rules_run (w := start s) hw earlier
  have hnumbered := ((start s).keepsOrder_run earlier).transfers ht
  refine ⟨fun p => ⟨p.ofText_toText, opensWorkflow hrules p later⟩, fun p => ⟨⟨p.ofText_toText,
    ?_, TransferParams.toText_plain_iff⟩, fun rebalanceId type => ?_⟩⟩
  · rw [p.plain.ofText_toText, p.plain_plain]
  · exact opensTransfer hnumbered rebalanceId type p later

/-- Beside rows that cannot be loaded, a workflow and a transfer task are opened and updated. -/
theorem params_survive_run_badNeighbours :
    let s : Store :=
      { workflows := ⟨[⟨2, "failed", "gone", "", "", .readable, .unreadable "never"⟩], 4⟩
        tasks := .empty
        transfers := ⟨[⟨1, .text "one", "sideways", "lost", "[]", "", "", .readable, .readable⟩], 1⟩
        leases := [] }
    let p : WorkflowParams := ⟨"Zoë\n", some "\x00\x22"⟩
    let call : TransferCall := ⟨0xFFFFFFFFFFFFFFFF, "", ⟨List.replicate 20 1, rfl⟩,
      ⟨List.replicate 20 2, rfl⟩, [], "", .vanished true⟩
    s.WorkflowRules ∧ s.transfers.Numbered TransferRow.id
      ∧ ((start s).run []).OpensWorkflow p
        [.updateWorkflow .init ⟨5, .failed, ⟨"", none⟩, "m", "p"⟩]
      ∧ ((start s).run []).OpensTransfer 7 .inward ⟨[call]⟩
        [.updateTransfer .init ⟨2, 8, .outward, .ongoing, ⟨[]⟩, "p", "m"⟩] := by
  intro s p call
  have hw : s.WorkflowRules := by
    refine ⟨by decide, ?_, ?_⟩
    · exact List.forall_mem_singleton.2 (by decide)
    · exact List.forall_mem_singleton.2 (by decide)
  have ht : s.transfers.Numbered TransferRow.id :=
    ⟨List.pairwise_singleton _ _, List.forall_mem_singleton.2 (by decide)⟩
  exact ⟨hw, ht, ((params_survive_run hw ht [] _).1 p).2,
    ((params_survive_run hw ht [] _).2 ⟨[call]⟩).2 7 .inward⟩

end World

end Treasury
