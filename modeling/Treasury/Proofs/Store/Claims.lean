import Treasury.Proofs.Claim.Stage
import Treasury.Proofs.Store.Numbered

/-!
# Where a workflow stands and what it has claimed

Two views of a store: the states in which the table holds a workflow, and the numbers of its
claims. Each way to write a store is described by what it does to the two.
-/

namespace Treasury.Store

/-- The words for the states in which the table holds a workflow. -/
def workflowStates (s : Store) (id : Int) : List String :=
  (s.workflows.rows.filter fun row => row.id = id).map (·.state)

/-- The numbers of the claims of a workflow, in the order in which they were written. -/
def claimIds (s : Store) (id : Int) : List Int :=
  (s.taskRows (.workflow id) .claimFromVault).map (·.id)

/-! ## States -/

theorem workflowStates_congr {s s' : Store} (h : s'.workflows = s.workflows) (id : Int) :
    s'.workflowStates id = s.workflowStates id := by
  unfold workflowStates
  rw [h]

theorem mem_workflowStates {s : Store} {expected : WorkflowState} {id : Int} :
    expected.tag ∈ s.workflowStates id ↔
      ∃ row ∈ s.workflows.rows, row.isAt expected id = true := by
  simp [workflowStates, WorkflowRow.isAt, and_assoc]

/-- An update moves a workflow from the state in which it was expected to be. -/
theorem workflowStates_withWorkflow (s : Store) (expected : WorkflowState) (w : Workflow)
    (id : Int) :
    (s.withWorkflow expected w).workflowStates id =
      if id = w.id then
        (s.workflowStates id).map fun t => if t = expected.tag then w.state.tag else t
      else s.workflowStates id :=
  words_update WorkflowRow.id WorkflowRow.state (p := WorkflowRow.isAt expected w.id)
    (f := WorkflowRow.updated w) (fun _ => decide_eq_true_iff) (fun _ => rfl) (fun _ => rfl)
    s.workflows.rows id

/-- Opening a workflow adds one in its first state. -/
theorem workflowStates_insertWorkflow {s s' : Store} {params : WorkflowParams} {new : Int}
    (h : s.insertWorkflow params = .ok (s', new)) (id : Int) :
    s'.workflowStates id =
      s.workflowStates id ++ if id = new then [WorkflowState.init.tag] else [] := by
  obtain ⟨_, _, rfl⟩ := insertWorkflow_eq_ok.1 h
  unfold workflowStates Table.push
  dsimp only
  rw [List.filter_append, List.map_append]
  congr 1
  by_cases heq : id = new
  · rw [if_pos heq]
    simp [WorkflowRow.opened, heq]
  · rw [if_neg heq]
    simp [WorkflowRow.opened, Ne.symm heq]

/-! ## Claims -/

theorem claimIds_congr {s s' : Store} (h : s'.tasks = s.tasks) (id : Int) :
    s'.claimIds id = s.claimIds id := by
  unfold claimIds taskRows
  rw [h]

/-- A batch of claims of one workflow adds to its claims the numbers that were given out. -/
theorem claimIds_saveTasks {s s' : Store} {batch : List Prepared} {ids : List Int} {id : Int}
    (h : s.saveTasks batch = .ok (s', ids))
    (hb : ∀ p ∈ batch, p.draft.owner = .workflow id ∧ p.draft.type = .claimFromVault) :
    s'.claimIds id = s.claimIds id ++ ids := by
  unfold claimIds taskRows
  rw [filter_saveTasks_of_all h, List.map_append, map_id_zipWith (saveTasks_rows h).2]
  intro p hp n
  obtain ⟨howner, htype⟩ := hb p hp
  simp [Prepared.rowAt, howner, htype]

/-- A batch of others is not among the claims of a workflow. -/
theorem claimRows_saveTasks_of_ne {s s' : Store} {batch : List Prepared} {ids : List Int}
    {id : Int} (h : s.saveTasks batch = .ok (s', ids))
    (hb : ∀ p ∈ batch, p.draft.owner ≠ .workflow id) :
    s'.taskRows (.workflow id) .claimFromVault = s.taskRows (.workflow id) .claimFromVault := by
  refine filter_saveTasks_of_none h fun p hp n => ?_
  have hne := hb p hp
  cases howner : p.draft.owner with
  | workflow other =>
    have hid : other ≠ id := fun he => hne (howner.trans (congrArg TaskOwner.workflow he))
    simp [Prepared.rowAt, howner, TaskOwner.id, hid]
  | assetTransfer other => simp [Prepared.rowAt, howner, TaskOwner.kind]

/-- A batch of others adds nothing to the claims of a workflow. -/
theorem claimIds_saveTasks_of_ne {s s' : Store} {batch : List Prepared} {ids : List Int}
    {id : Int} (h : s.saveTasks batch = .ok (s', ids))
    (hb : ∀ p ∈ batch, p.draft.owner ≠ .workflow id) : s'.claimIds id = s.claimIds id :=
  congrArg (List.map TaskRow.id) (claimRows_saveTasks_of_ne h hb)

/-- The pipeline makes no claim and takes none away. -/
theorem claimIds_setTask (s : Store) (n : Int) (state : TransactionState) (message : String)
    (hash : Option TransactionHash) (id : Int) :
    (s.setTask n state message hash).claimIds id = s.claimIds id :=
  s.filter_map_setTask n (fun _ => rfl) (fun _ => rfl)

/-! ## What a write does to a workflow -/

/-- The transaction that wrote `ids` as the claims of a workflow and moved it into the stage. -/
structure Claimed (s s' : Store) (id : Int) (ids : List Int) : Prop where
  before : s.workflowStates id = [WorkflowState.init.tag]
  unclaimed : s.claimIds id = []
  written : ∃ w batch saved, w.id = id ∧ w.state = .init ∧ Claim.commit s w batch = .ok s'
    ∧ s.saveTasks batch = .ok (saved, ids)
  after : s'.workflowStates id = [WorkflowState.claimLp.tag]
  claims : s'.claimIds id = ids

/-- What one write can mean for a workflow. -/
inductive Changes (s s' : Store) (id : Int) : Prop where
  | rest : s'.workflowStates id = s.workflowStates id → s'.claimIds id = s.claimIds id →
    Changes s s' id
  | opened : s.workflowStates id = [] → s'.workflowStates id = [WorkflowState.init.tag] →
    id ≤ s'.workflows.last → s'.claimIds id = s.claimIds id → Changes s s' id
  | moved (state next : WorkflowState) : state.canMoveTo next = true →
    s.workflowStates id = [state.tag] → s'.workflowStates id = [next.tag] →
    s'.claimIds id = s.claimIds id → Changes s s' id
  | claimed (ids : List Int) : Claimed s s' id ids → Changes s s' id

/-- A write as all workflows see it. -/
structure Evolves (s s' : Store) : Prop where
  last_le : s.workflows.last ≤ s'.workflows.last
  changes : ∀ id, Changes s s' id

/-- No number is given twice, no row is in two states, and nothing is claimed before its time. -/
structure Sound (s : Store) : Prop where
  numbered : ∀ id, s.workflows.last < id → s.workflowStates id = []
  single : ∀ id, s.workflowStates id = []
    ∨ ∃ state : WorkflowState, s.workflowStates id = [state.tag]
  unclaimed : ∀ id, s.workflowStates id = [] ∨ s.workflowStates id = [WorkflowState.init.tag] →
    s.claimIds id = []

/-- A workflow that has been found in a state is in no other. -/
theorem Sound.workflowStates_eq {s : Store} (h : s.Sound) {id : Int} {state : WorkflowState}
    (hmem : state.tag ∈ s.workflowStates id) : s.workflowStates id = [state.tag] := by
  rcases h.single id with hnone | ⟨other, hother⟩
  · rw [hnone] at hmem
    exact absurd hmem List.not_mem_nil
  · rw [hother] at hmem ⊢
    rw [List.mem_singleton.mp hmem]

/-- **Sound stores stay sound.** -/
theorem Sound.of_evolves {s s' : Store} (hs : s.Sound) (h : Evolves s s') : s'.Sound where
  numbered := by
    intro id hid
    have hnone := hs.numbered id (Int.lt_of_le_of_lt h.last_le hid)
    cases h.changes id with
    | rest hstates _ => rw [hstates, hnone]
    | opened _ _ hle _ => omega
    | moved _ _ _ hstates _ _ => exact absurd (hnone.symm.trans hstates) (by simp)
    | claimed _ hc => exact absurd (hnone.symm.trans hc.before) (by simp)
  single := by
    intro id
    cases h.changes id with
    | rest hstates _ => exact hstates ▸ hs.single id
    | opened _ hstates _ _ => exact .inr ⟨_, hstates⟩
    | moved _ _ _ _ hstates _ => exact .inr ⟨_, hstates⟩
    | claimed _ hc => exact .inr ⟨_, hc.after⟩
  unclaimed := by
    intro id hid
    cases h.changes id with
    | rest hstates hclaims => exact hclaims.trans (hs.unclaimed id (hstates ▸ hid))
    | opened hnone _ _ hclaims => exact hclaims.trans (hs.unclaimed id (.inl hnone))
    | moved state next hmove hstate hnext hclaims =>
      rw [hclaims]
      rw [hnext] at hid
      -- only a workflow that has not left its first state can still be in it
      have hinit : next = .init := by
        rcases hid with hid | hid
        · exact absurd hid (by simp)
        · exact WorkflowState.tag_inj.1 (List.singleton_inj.1 hid)
      by_cases hne : state = .init
      · exact hs.unclaimed id (.inr (hne ▸ hstate))
      · exact absurd hinit (WorkflowState.ne_init_of_canMoveTo hmove hne)
    | claimed ids hc =>
      rw [hc.after] at hid
      rcases hid with hid | hid
      · exact absurd hid (by simp)
      · exact absurd hid (by decide)

/-- A write that concerns neither workflows nor claims. -/
theorem evolves_of_same {s s' : Store} (hw : s'.workflows = s.workflows)
    (hc : ∀ id, s'.claimIds id = s.claimIds id) : Evolves s s' where
  last_le := Int.le_of_eq (congrArg Table.last hw.symm)
  changes id := .rest (workflowStates_congr hw id) (hc id)

theorem evolves_insertWorkflow {s s' : Store} (hs : s.Sound) {params : WorkflowParams}
    {new : Int} (h : s.insertWorkflow params = .ok (s', new)) : Evolves s s' := by
  have hstates := workflowStates_insertWorkflow h
  obtain ⟨_, hnext, rfl⟩ := insertWorkflow_eq_ok.1 h
  have hnew := Table.nextId?_eq_some hnext
  refine ⟨?_, fun id => ?_⟩
  · show s.workflows.last ≤ new
    omega
  · by_cases hid : id = new
    · -- the number has never been given out before
      have hnone := hs.numbered id (by omega)
      refine .opened hnone ?_ (Int.le_of_eq hid) rfl
      rw [hstates, hnone, if_pos hid, List.nil_append]
    · refine .rest ?_ rfl
      rw [hstates, if_neg hid, List.append_nil]

theorem evolves_updateWorkflow {s s' : Store} (hs : s.Sound) {expected : WorkflowState}
    {w : Workflow} (h : s.updateWorkflow expected w = .ok s') : Evolves s s' := by
  obtain ⟨hmove, hrow, rfl⟩ := updateWorkflow_eq_ok.1 h
  have hstate := hs.workflowStates_eq (mem_workflowStates.2 hrow)
  refine ⟨Int.le_refl _, fun id => ?_⟩
  by_cases hid : id = w.id
  · refine .moved expected w.state hmove (hid ▸ hstate) ?_ rfl
    rw [workflowStates_withWorkflow, if_pos hid, hid, hstate]
    simp
  · refine .rest ?_ rfl
    rw [workflowStates_withWorkflow, if_neg hid]

/-- **Writing the claims of a workflow moves it, and finds it without claims.** -/
theorem evolves_commit {s s' : Store} (hs : s.Sound) {w : Workflow} {batch : List Prepared}
    (hw : w.state = .init)
    (hb : ∀ p ∈ batch, p.draft.owner = .workflow w.id ∧ p.draft.type = .claimFromVault)
    (h : Claim.commit s w batch = .ok s') : Evolves s s' := by
  obtain ⟨saved, ids, hsave, hupdate⟩ := Claim.commit_eq_ok.1 h
  obtain ⟨hworkflows, -, -⟩ := saveTasks_frame hsave
  -- the update comes last; what it needs to find was there before the batch was written
  obtain ⟨-, hrow, rfl⟩ := updateWorkflow_eq_ok.1 hupdate
  rw [hworkflows, hw] at hrow
  have hstate : s.workflowStates w.id = [WorkflowState.init.tag] :=
    hs.workflowStates_eq (mem_workflowStates.2 hrow)
  have hnext : ∀ id, (saved.withWorkflow w.state (Claim.advanced w batch.length)).workflowStates id
      = if id = w.id then [WorkflowState.claimLp.tag] else s.workflowStates id := by
    intro id
    rw [workflowStates_withWorkflow, workflowStates_congr hworkflows, hw]
    show (if id = w.id then _ else _) = _
    by_cases hid : id = w.id
    · rw [if_pos hid, if_pos hid, hid, hstate]
      simp [Claim.advanced]
    · rw [if_neg hid, if_neg hid]
  refine ⟨Int.le_of_eq (congrArg Table.last hworkflows).symm, fun id => ?_⟩
  by_cases hid : id = w.id
  · subst hid
    have hnone := hs.unclaimed w.id (.inr hstate)
    have hclaims := claimIds_saveTasks hsave hb
    rw [hnone, List.nil_append] at hclaims
    refine .claimed ids ⟨hstate, hnone, ⟨w, batch, saved, rfl, hw, h, hsave⟩, ?_, hclaims⟩
    rw [hnext, if_pos rfl]
  · have hother : ∀ p ∈ batch, p.draft.owner ≠ .workflow id := by
      intro p hp he
      rw [(hb p hp).1] at he
      exact hid (TaskOwner.workflow.inj he).symm
    have hsame := claimIds_saveTasks_of_ne hsave hother
    refine .rest ?_ hsame
    rw [hnext, if_neg hid]

end Treasury.Store
