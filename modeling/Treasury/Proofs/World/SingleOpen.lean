import Treasury.Proofs.Alert.Delivery
import Treasury.Proofs.Store.OpenWorkflows
import Treasury.Proofs.World.History

/-!
# One workflow is open at a time

This rests on no rule of the table, only on the ways there are to write it: a workflow is opened
while none is open, and nothing that is written afterwards opens one again. So the count of open
workflows never passes one (`single_after`), whoever writes, in which order, and from however old a
copy.

A tick that finds two workflows open goes on with the older one and says so in the log. Since there
never are two, this line is never written (`uncrowded_after`).
-/

namespace Treasury

/-- The line that a workflow tick logs when it has found more than one workflow open. -/
def crowded : Event :=
  .log .error "More than one rebalance workflow open, continuing with the oldest"

theorem crowded_ne_log {level : LogLevel} {text : String}
    (h : level ≠ .error
      ∨ text ≠ "More than one rebalance workflow open, continuing with the oldest") :
    crowded ≠ .log level text := by
  intro heq
  cases heq
  simp at h

/-! ## What ticks log -/

theorem WorkflowTick.crowded_not_mem_acquireEvents (acquired : Acquired) :
    crowded ∉ acquireEvents acquired := by
  unfold acquireEvents
  split <;> simp [crowded_ne_log]

theorem WorkflowTick.crowded_not_mem_releaseEvents (released : Bool) :
    crowded ∉ releaseEvents released := by
  unfold releaseEvents
  split <;> simp [crowded_ne_log]

/-- A report is not mistaken for the line, whatever it says: reports are not logged as errors. -/
theorem StageAlert.crowded_not_mem_publish (alert : StageAlert) (n : Notifier)
    (recipients : List String) : crowded ∉ alert.publish n recipients := by
  have hundelivered : crowded ≠ undelivered := crowded_ne_log (.inr (by decide))
  generalize hevents : alert.publish n recipients = events
  have hshows := hevents ▸ alert.shows_publish n recipients
  cases hshows with
  | noted _ => exact mt List.mem_singleton.1 (crowded_ne_log (.inl (by decide)))
  | warned _ => exact mt List.mem_singleton.1 (crowded_ne_log (.inl (by decide)))
  | taken _ => exact mt List.mem_singleton.1 nofun
  | refused _ => exact mt List.mem_pair.1 (not_or.2 ⟨nofun, hundelivered⟩)
  | unreachable => exact mt List.mem_singleton.1 hundelivered
  | sent => exact mt List.mem_singleton.1 nofun
  | returned => exact mt List.mem_pair.1 (not_or.2 ⟨nofun, hundelivered⟩)

theorem Claim.crowded_not_mem_enter (desk : Desk) (w : Workflow) :
    crowded ∉ (enter desk w).2 := by
  unfold enter
  split
  · exact List.not_mem_nil
  · split
    · rename_i e _
      cases e <;> simp [planFailure, crowded_ne_log]
    · exact List.not_mem_nil
    · exact List.not_mem_nil

theorem Claim.crowded_not_mem_verdictEvents (check : StageCheck) :
    crowded ∉ verdictEvents check := by
  unfold verdictEvents
  split
  · exact List.not_mem_nil
  · split <;> simp [crowded_ne_log]

theorem WorkflowTick.crowded_not_mem_dispatch (lease : Lease) (w : Workflow) :
    crowded ∉ (dispatch lease w).2 := by
  unfold dispatch
  split <;> simp [crowded_ne_log]

namespace Store

theorem length_findOpenWorkflows {s : Store} {ws : List Workflow}
    (h : s.findOpenWorkflows = .ok ws) : ws.length = s.openWorkflowRows.length := by
  obtain ⟨_, _, hload⟩ := bind_eq_ok.1 h
  exact (mapM_eq_ok.1 hload).length_eq.symm

end Store

/-- **The line is only logged where more than one workflow is open.** -/
theorem WorkflowTick.crowded_not_mem_load {s : Store} (h : s.openWorkflowRows.length ≤ 1)
    (lease : Lease) : crowded ∉ (load lease s).2 := by
  unfold load
  split
  · exact List.not_mem_nil
  · exact List.not_mem_nil
  · exact crowded_not_mem_dispatch lease _
  · rename_i w rest hne hfound
    have hlength := Store.length_findOpenWorkflows hfound
    rw [List.length_cons] at hlength
    exact absurd (List.length_eq_zero_iff.1 (by omega)) hne

theorem WorkflowTick.crowded_not_mem_step {s : Store} (h : s.openWorkflowRows.length ≤ 1)
    (desk : Desk) (turn : Turn) (p : Phase) : crowded ∉ (step desk turn s p).2.2 := by
  cases p with
  | waiting =>
    have hevents : (step desk turn s .waiting).2.2 =
        acquireEvents (s.acquireLease .orchestrator turn.holder turn.now).2 := by
      unfold step acquire
      dsimp only
      split <;> rfl
    rw [hevents]
    exact crowded_not_mem_acquireEvents _
  | holding lease => exact crowded_not_mem_load h lease
  | executing lease id phase =>
    cases phase with
    | entering w => exact Claim.crowded_not_mem_enter desk w
    | announcing alert transactions => exact alert.crowded_not_mem_publish _ _
    | drafted w drafts => exact List.not_mem_nil
    | prepared w batch => exact List.not_mem_nil
    | finished result => exact List.not_mem_nil
  | checking lease w =>
    unfold step judge
    dsimp only
    split
    · exact List.not_mem_nil
    · exact Claim.crowded_not_mem_verdictEvents _
  | judged lease w check => exact List.not_mem_nil
  | announcing lease alert outcome =>
    cases alert with
    | none => exact List.not_mem_nil
    | some alert => exact alert.crowded_not_mem_publish _ _
  | releasing lease result => exact crowded_not_mem_releaseEvents _
  | done result => exact List.not_mem_nil

/-- Transfer ticks have nothing to say about workflows. -/
theorem TransferTick.crowded_not_mem_step (gas : GasAssigner) (chains : Chains) (turn : Turn)
    (s : Store) (p : Phase) : crowded ∉ (step gas chains turn s p).2.2 := by
  cases p with
  | waiting =>
    have hevents : (step gas chains turn s .waiting).2.2 =
        WorkflowTick.acquireEvents (s.acquireLease .assetTransfer turn.holder turn.now).2 := by
      unfold step acquire
      dsimp only
      split <;> rfl
    rw [hevents]
    exact WorkflowTick.crowded_not_mem_acquireEvents _
  | holding lease =>
    unfold step load
    dsimp only
    split <;> simp [crowded_ne_log]
  | releasing lease result => exact WorkflowTick.crowded_not_mem_releaseEvents _
  | _ => exact List.not_mem_nil

theorem Tick.crowded_not_mem_step {s : Store} (h : s.openWorkflowRows.length ≤ 1)
    (fresh : Queue → Except AssignError UInt64) (tick : Tick) :
    crowded ∉ (tick.step fresh s).2.2 := by
  cases tick with
  | workflow desk turn phase => exact WorkflowTick.crowded_not_mem_step h _ turn phase
  | transfer chains turn phase => exact TransferTick.crowded_not_mem_step _ chains turn s phase

/-! ## What a move does -/

namespace World

/-- At most one workflow is open, no number was given out without a move, and nobody has seen more
than one workflow open. -/
structure SingleInv (w : World) (moves : Nat) : Prop where
  rules : w.store.WorkflowRules
  single : w.store.openWorkflowRows.length ≤ 1
  numbered : w.store.workflows.last ≤ moves
  unlogged : crowded ∉ w.events

theorem singleInv_start : SingleInv (start .empty) 0 where
  rules := Store.workflowRules_empty
  single := Nat.zero_le 1
  numbered := Int.le_refl 0
  unlogged := List.not_mem_nil

/-- **No move opens a workflow beside another.** -/
theorem Rewrites.single {w : World} {move : Move} {next : Store} (h : Rewrites w move next)
    (hw : w.store.openWorkflowRows.length ≤ 1) : next.openWorkflowRows.length ≤ 1 := by
  cases h with
  | rest h =>
    unfold Store.openWorkflowRows
    rw [h]
    exact hw
  | @opened params new h =>
    obtain ⟨hnone, -, rfl⟩ := Store.insertWorkflow_eq_ok.1 h
    show ((w.store.workflows.rows ++ [_]).filter _).length ≤ 1
    have hrows : w.store.workflows.rows.filter (·.isOpen) = [] := hnone
    rw [List.filter_append, hrows, List.nil_append]
    exact List.length_filter_le _ [_]
  | updated _ hsaved hu =>
    refine Nat.le_trans (Store.opens_none hu) ?_
    unfold Store.openWorkflowRows
    rw [hsaved]
    exact hw

/-- A move gives out one number at most. -/
theorem Rewrites.numbered {w : World} {move : Move} {next : Store} (h : Rewrites w move next) :
    next.workflows.last ≤ w.store.workflows.last + 1 := by
  cases h with
  | rest h =>
    rw [h]
    omega
  | opened h =>
    obtain ⟨-, hnext, rfl⟩ := Store.insertWorkflow_eq_ok.1 h
    exact Int.le_of_eq (Table.nextId?_eq_some hnext)
  | @updated expected new saved _ hsaved hu =>
    obtain ⟨-, -, rfl⟩ := Store.updateWorkflow_eq_ok.1 hu
    show saved.workflows.last ≤ _
    rw [hsaved]
    omega

/-- **No move writes the line while at most one workflow is open.** -/
theorem uncrowded_after {w : World} (hw : w.store.openWorkflowRows.length ≤ 1)
    (hevents : crowded ∉ w.events) (move : Move) : crowded ∉ (w.after move).events := by
  cases move with
  | advance n ago =>
    simp only [after, advance]
    cases w.ticks[n]? with
    | none => exact hevents
    | some tick =>
      rw [List.mem_append, not_or]
      exact ⟨hevents, tick.crowded_not_mem_step hw _⟩
  | _ => exact hevents

theorem singleInv_after {w : World} {n : Nat} (h : SingleInv w n) (move : Move) :
    SingleInv (w.after move) (n + 1) where
  rules := (w.rewrites_after move).rules h.rules
  single := (w.rewrites_after move).single h.single
  numbered := by
    have := (w.rewrites_after move).numbered
    have := h.numbered
    omega
  unlogged := uncrowded_after h.single h.unlogged move

theorem singleInv_run (moves : List Move) : SingleInv ((start .empty).run moves) moves.length := by
  induction moves using List.reverseRecOn with
  | nil => exact singleInv_start
  | append_singleton moves move ih =>
    rw [run_append, List.length_append]
    exact singleInv_after ih move

/-! ## All moves -/

/-- What can be said of the workflows that are open after some moves. -/
structure SingleOpen (w : World) (moves : Nat) : Prop where
  /-- At most one workflow is open. -/
  single : ∀ a b, w.store.IsOpen a → w.store.IsOpen b → a = b
  /-- While one is, no other is opened. Whoever asks is told its number, and nothing is written. -/
  refuses : ∀ id, w.store.IsOpen id → ∀ params,
    w.store.openWorkflow params = (w.store, .error (.workflowAlreadyOpen id))
  /-- While none is, one is opened, in its first state and under the next number, unless all numbers
  have been given out. -/
  opens : (∀ id, ¬w.store.IsOpen id) → ∀ params,
    w.store.openWorkflow params =
      if w.store.workflows.last < Table.maxId then
        (w.store.withOpened params, .ok ⟨w.store.workflows.last + 1, .init, params, "", ""⟩)
      else (w.store, .error (.violation .full))
  /-- This takes more moves than there will ever be: a move gives out one number at most. -/
  numbered : w.store.workflows.last ≤ moves
  /-- Whoever looks for open workflows finds one at most. -/
  found : ∀ ws, w.store.findOpenWorkflows = .ok ws → ws.length ≤ 1
  /-- So no tick has ever said that it has found more. -/
  unlogged : crowded ∉ w.events

/--
**One workflow is open at a time.**

From an empty store on, whoever opens, updates, ticks or reports in whichever order and from
however old a copy.
-/
theorem singleOpen_run (moves : List Move) :
    SingleOpen ((start .empty).run moves) moves.length := by
  have h := singleInv_run moves
  refine ⟨fun a b ha hb => ?_, fun id hid params => ?_, fun hnone params => ?_, h.numbered,
    fun ws hws => ?_, h.unlogged⟩
  · obtain ⟨row, hrows, rfl⟩ := ha.rows_eq h.single
    obtain ⟨row', hrows', rfl⟩ := hb.rows_eq h.single
    rw [List.singleton_inj.1 (hrows.symm.trans hrows')]
  · obtain ⟨row, hrows, rfl⟩ := hid.rows_eq h.single
    exact Store.openWorkflow_of_open hrows params
  · exact Store.openWorkflow_of_none h.rules (Store.openWorkflowRows_eq_nil h.rules hnone) params
  · rw [Store.length_findOpenWorkflows hws]
    exact h.single

end World

end Treasury
