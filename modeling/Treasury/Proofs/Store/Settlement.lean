import Treasury.Proofs.Store.History

/-!
# Transactions that have settled

The pipeline carries a transaction to success or to failure and leaves it there. So what somebody
has read of a batch can be out of date, but where it says that a transaction has settled it is not
(`Lasts`). A verdict rests on nothing else: a stage is finished when all its transactions have
succeeded, and fails when one has failed (`Claim.nextState_verdict`).

`Settles` says what one write can mean for the claims of a workflow.
-/

namespace Treasury

/-- The words for the state of a transaction at two times: once it has settled, it stays so. -/
def Lasts (before after : String) : Prop :=
  before = TransactionState.success.tag ∨ before = TransactionState.failed.tag → after = before

instance (before after : String) : Decidable (Lasts before after) :=
  inferInstanceAs (Decidable (_ → _))

theorem Lasts.refl (word : String) : Lasts word word := fun _ => rfl

theorem Lasts.trans {a b c : String} (hab : Lasts a b) (hbc : Lasts b c) : Lasts a c := by
  intro ha
  obtain rfl := hab ha
  exact hbc ha

/-- A batch that has succeeded as a whole still has later. -/
theorem Lasts.all_success {before after : List String} (h : List.Forall₂ Lasts before after)
    (hall : ∀ word ∈ before, word = TransactionState.success.tag) :
    ∀ word ∈ after, word = TransactionState.success.tag := by
  intro word hword
  obtain ⟨old, hold, hlasts⟩ := exists_mem_of_forall₂ h hword
  rw [hlasts (.inl (hall old hold)), hall old hold]

/-- A batch in which one has failed still is one later. -/
theorem Lasts.mem_failed {before after : List String} (h : List.Forall₂ Lasts before after)
    (hmem : TransactionState.failed.tag ∈ before) : TransactionState.failed.tag ∈ after := by
  induction h with
  | nil => exact hmem
  | cons hlasts _ ih =>
    rcases List.mem_cons.mp hmem with rfl | hmem
    · rw [hlasts (.inr rfl)]
      exact List.mem_cons_self
    · exact List.mem_cons_of_mem _ (ih hmem)

/-! ## Verdicts -/

namespace Progress

theorem allSucceeded_ofTasks {tasks : List Task} :
    (ofTasks tasks).allSucceeded = true ↔ ∀ t ∈ tasks, t.state = .success := by
  unfold allSucceeded ofTasks ofStates
  rw [decide_eq_true_eq, List.count_eq_length]
  simp only [List.forall_mem_map, eq_comm]

theorem hasFailures_ofTasks {tasks : List Task} :
    (ofTasks tasks).hasFailures = true ↔ ∃ t ∈ tasks, t.state = .failed := by
  unfold hasFailures ofTasks ofStates
  rw [decide_eq_true_eq, List.count_pos_iff, List.mem_map]

end Progress

/-- **The stage is finished when all transactions have succeeded, and fails when one has failed.**
No transactions at all have all succeeded. -/
theorem Claim.nextState_verdict (w : Workflow) (tasks : List Task) :
    (verdict w tasks).nextState =
      if ∀ t ∈ tasks, t.state = .success then .marginBalanceTransferOut
      else if ∃ t ∈ tasks, t.state = .failed then .failed
      else w.state := by
  simp only [← Progress.allSucceeded_ofTasks, ← Progress.hasFailures_ofTasks]
  unfold verdict
  by_cases hempty : tasks.isEmpty = true
  · obtain rfl := List.isEmpty_iff.mp hempty
    rfl
  · dsimp only
    rw [if_neg hempty]
    split
    · rfl
    · split <;> rfl

/-- What is found in a row. -/
theorem TaskRow.load_eq_ok {row : TaskRow} {numbers : TaskNumbers} {t : Task}
    (h : row.load numbers = .ok t) : t.id = row.id ∧ t.state.tag = row.state := by
  unfold load at h
  simp only [bind_eq_ok] at h
  obtain ⟨_, _, _, _, _, _, _, _, _, _, _, _, _, _, _, _, _, _, _, _, _, _, state, hstate, h⟩ := h
  cases h
  cases hof : TransactionState.ofTag row.state with
  | error e =>
    rw [hof] at hstate
    exact absurd hstate (by simp [StoreError.ofTag])
  | ok found =>
    rw [hof] at hstate
    cases hstate
    exact ⟨rfl, TransactionState.ofTag_eq_ok hof⟩

namespace Store

/-- The words for the states of the claims of a workflow, in the order of their numbers. -/
def claimStates (s : Store) (id : Int) : List String :=
  (s.taskRows (.workflow id) .claimFromVault).map (·.state)

/-- The report that a transaction is in `state` leaves what has settled. -/
def KeepsSettled (s : Store) (n : Int) (state : TransactionState) : Prop :=
  ∀ row ∈ s.tasks.rows, row.id = n → Lasts row.state state.tag

instance (s : Store) (n : Int) (state : TransactionState) : Decidable (s.KeepsSettled n state) :=
  inferInstanceAs (Decidable (∀ row ∈ s.tasks.rows, row.id = n → Lasts row.state state.tag))

/-- The verdict rests on all claims of the workflow, of which none has been unsettled since. -/
def Bears (s : Store) (w : Workflow) (check : StageCheck) : Prop :=
  ∃ tasks, check = Claim.verdict w tasks ∧ tasks.map (·.id) = s.claimIds w.id
    ∧ List.Forall₂ Lasts (tasks.map (·.state.tag)) (s.claimStates w.id)

/-- Whoever loads transactions reads the numbers and the states of their rows, in their order. -/
theorem map_id_of_findTasks {s : Store} {owner : TaskOwner} {type : TransactionType}
    {tasks : List Task} (h : s.findTasks owner type = .ok tasks) :
    tasks.map (·.id) = (s.taskRows owner type).map (·.id) := by
  have hload := findTasks_eq_ok.1 h
  generalize s.taskRows owner type = rows at hload ⊢
  clear h
  induction hload with
  | nil => rfl
  | cons hrow _ ih =>
    obtain ⟨numbers, -, hrow⟩ := hrow
    rw [List.map_cons, List.map_cons, ih, (TaskRow.load_eq_ok hrow).1]

theorem states_of_findTasks {s : Store} {owner : TaskOwner} {type : TransactionType}
    {tasks : List Task} (h : s.findTasks owner type = .ok tasks) :
    tasks.map (·.state.tag) = (s.taskRows owner type).map (·.state) := by
  have hload := findTasks_eq_ok.1 h
  generalize s.taskRows owner type = rows at hload ⊢
  clear h
  induction hload with
  | nil => rfl
  | cons hrow _ ih =>
    obtain ⟨numbers, -, hrow⟩ := hrow
    rw [List.map_cons, List.map_cons, ih, (TaskRow.load_eq_ok hrow).2]

/-- Whoever checks the stage reads all claims of the workflow. -/
theorem bears_of_check {s : Store} {w : Workflow} {check : StageCheck}
    (h : Claim.check s w = .ok check) : s.Bears w check := by
  obtain ⟨tasks, hfind, rfl⟩ := map_eq_ok.1 h
  refine ⟨tasks, rfl, map_id_of_findTasks hfind, ?_⟩
  rw [states_of_findTasks hfind]
  exact List.forall₂_same.2 fun word _ => .refl word

/-- A workflow whose verdict is that the stage is finished has nothing but successful claims. -/
theorem Bears.all_success {s : Store} {w : Workflow} {check : StageCheck} (h : s.Bears w check)
    (hw : w.state = .claimLp) (hnext : check.nextState = .marginBalanceTransferOut) :
    ∀ word ∈ s.claimStates w.id, word = TransactionState.success.tag := by
  obtain ⟨tasks, rfl, -, hstates⟩ := h
  rw [Claim.nextState_verdict, hw] at hnext
  split at hnext
  · rename_i hall
    refine Lasts.all_success hstates fun word hword => ?_
    obtain ⟨t, ht, rfl⟩ := List.mem_map.mp hword
    rw [hall t ht]
  · split at hnext <;> exact absurd hnext (by decide)

/-- A workflow whose verdict is failure has a claim that has failed. -/
theorem Bears.mem_failed {s : Store} {w : Workflow} {check : StageCheck} (h : s.Bears w check)
    (hw : w.state = .claimLp) (hnext : check.nextState = .failed) :
    TransactionState.failed.tag ∈ s.claimStates w.id := by
  obtain ⟨tasks, rfl, -, hstates⟩ := h
  rw [Claim.nextState_verdict, hw] at hnext
  split at hnext
  · exact absurd hnext (by decide)
  · split at hnext
    · rename_i hone
      obtain ⟨t, ht, hfailed⟩ := hone
      refine Lasts.mem_failed hstates (List.mem_map.2 ⟨t, ht, ?_⟩)
      rw [hfailed]
    · exact absurd hnext (by decide)

/-! ## What a write does to the claims of a workflow -/

/-- What one write can mean for the claims of a workflow. -/
inductive Settles (s s' : Store) (id : Int) : Prop where
  /-- They are the same ones, and have settled further. -/
  | kept : s'.claimIds id = s.claimIds id →
    List.Forall₂ Lasts (s.claimStates id) (s'.claimStates id) → Settles s s' id
  /-- They have just been written. -/
  | claimed : s.workflowStates id = [WorkflowState.init.tag] →
    s'.workflowStates id = [WorkflowState.claimLp.tag] → Settles s s' id

theorem settles_of_rows {s s' : Store} {id : Int}
    (h : s'.taskRows (.workflow id) .claimFromVault = s.taskRows (.workflow id) .claimFromVault) :
    Settles s s' id := by
  refine .kept (congrArg (List.map TaskRow.id) h) ?_
  unfold claimStates
  rw [h]
  exact List.forall₂_same.2 fun word _ => .refl word

theorem settles_of_tasks {s s' : Store} (h : s'.tasks = s.tasks) (id : Int) : Settles s s' id := by
  refine settles_of_rows ?_
  unfold taskRows
  rw [h]

/-- A lawful report settles claims, and unsettles none. -/
theorem settles_setTask {s : Store} {n : Int} {state : TransactionState}
    (h : s.KeepsSettled n state) (message : String) (hash : Option TransactionHash) (id : Int) :
    Settles s (s.setTask n state message hash) id := by
  refine .kept (s.claimIds_setTask n state message hash id) ?_
  unfold claimStates taskRows
  rw [filter_setTask s n fun _ => rfl, List.map_map, List.forall₂_map_left_iff,
    List.forall₂_map_right_iff, List.forall₂_same]
  intro row hrow
  dsimp only [Function.comp_apply]
  split
  · rename_i hid
    exact h row (List.mem_of_mem_filter hrow) hid
  · exact .refl _

/-- A batch of claims is new to its workflow and means nothing to others. -/
theorem settles_commit {s s' : Store} (hs : s.WorkflowRules) {w : Workflow}
    {batch : List Prepared} (hw : w.state = .init)
    (hb : ∀ p ∈ batch, p.draft.owner = .workflow w.id ∧ p.draft.type = .claimFromVault)
    (h : Claim.commit s w batch = .ok s') (id : Int) : Settles s s' id := by
  obtain ⟨saved, ids, hsave, hu⟩ := Claim.commit_eq_ok.1 h
  have hworkflows := (saveTasks_frame hsave).1
  -- the workflow of the batch comes into the stage with it; to any other the batch is foreign
  by_cases hid : id = w.id
  · obtain ⟨-, hbefore, hafter, -⟩ := (hs.congr hworkflows).moves hu
    rw [workflowStates_congr hworkflows, hw] at hbefore
    exact .claimed (hid ▸ hbefore) (hid ▸ hafter)
  · have hother : ∀ p ∈ batch, p.draft.owner ≠ .workflow id := by
      intro p hp he
      rw [(hb p hp).1] at he
      exact hid (TaskOwner.workflow.inj he).symm
    refine settles_of_rows (Eq.trans ?_ (claimRows_saveTasks_of_ne hsave hother))
    unfold taskRows
    rw [updateWorkflow_tasks hu]

end Store

end Treasury
