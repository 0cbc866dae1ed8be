import Mathlib.Data.List.Destutter
import Treasury.Proofs.Store.Claims
import Treasury.Proofs.Tag

/-!
# Where a workflow can go

States are in order: a workflow that can move from one state to another, by however many moves,
can do so by one, and cannot come back (`WorkflowState.canMoveTo_antisymm`). A workflow table that
keeps its rules holds each workflow once, and a write moves at most one of them, along the order
(`Store.WorkflowRules.moves`). What a row says of who opened the workflow is never written again
(`Store.records_updateWorkflow`).
-/

namespace Treasury

namespace WorkflowState

theorem canMoveTo_refl (state : WorkflowState) : state.canMoveTo state = true := by
  cases state <;> decide

theorem canMoveTo_trans {a b c : WorkflowState} (hab : a.canMoveTo b = true)
    (hbc : b.canMoveTo c = true) : a.canMoveTo c = true := by
  revert hab hbc
  cases a <;> cases b <;> cases c <;> decide

/-- **There is no way back.** -/
theorem canMoveTo_antisymm {a b : WorkflowState} (hab : a.canMoveTo b = true)
    (hba : b.canMoveTo a = true) : a = b := by
  revert hab hba
  cases a <;> cases b <;> decide

/-- Success and failure are never left. -/
theorem eq_of_isTerminal {a b : WorkflowState} (ha : a.isTerminal = true)
    (hab : a.canMoveTo b = true) : b = a := by
  revert ha hab
  cases a <;> cases b <;> decide

/-- **States that follow each other in order are entered once each.** -/
theorem nodup_destutter {states : List WorkflowState}
    (h : states.Pairwise fun a b => a.canMoveTo b = true) :
    (states.destutter (· ≠ ·)).Nodup := by
  have hmoves := (h.sublist (List.destutter_sublist (· ≠ ·) states)).isChain
  have hleaves := List.isChain_destutter (· ≠ ·) states
  rw [List.isChain_iff_getElem] at hmoves hleaves
  have : Trans (fun a b : WorkflowState => a.canMoveTo b = true ∧ a ≠ b)
      (fun a b => a.canMoveTo b = true ∧ a ≠ b) (fun a b => a.canMoveTo b = true ∧ a ≠ b) :=
    ⟨fun {a b c} hab hbc => ⟨canMoveTo_trans hab.1 hbc.1, fun he =>
      hab.2 (canMoveTo_antisymm hab.1 (he ▸ hbc.1))⟩⟩
  have hchain : (states.destutter (· ≠ ·)).IsChain
      fun a b => a.canMoveTo b = true ∧ a ≠ b :=
    List.isChain_iff_getElem.2 fun i hi => ⟨hmoves i hi, hleaves i hi⟩
  exact hchain.pairwise.imp And.right

end WorkflowState

/-- What is found in a row. -/
theorem WorkflowRow.load_eq_ok {row : WorkflowRow} {w : Workflow} (h : row.load = .ok w) :
    w.id = row.id ∧ w.state.tag = row.state := by
  unfold load at h
  split at h
  · exact absurd h (by simp)
  · split at h
    · exact absurd h (by simp)
    · rename_i state hstate
      cases h
      exact ⟨rfl, WorkflowState.ofTag_eq_ok hstate⟩

theorem checkWord_eq_ok {column value : String} {words : List String} {u : Unit} :
    checkWord column words value = .ok u ↔ value ∈ words := by
  unfold checkWord
  by_cases h : value ∈ words <;> simp [h]

/-- The rule of a row is that it is in a state. -/
theorem WorkflowRow.check_eq_ok {row : WorkflowRow} {u : Unit} :
    row.check = .ok u ↔ ∃ state : WorkflowState, row.state = state.tag := by
  unfold check
  rw [checkWord_eq_ok, List.mem_map]
  constructor
  · rintro ⟨state, -, hstate⟩
    exact ⟨state, hstate.symm⟩
  · rintro ⟨state, hstate⟩
    exact ⟨state, by cases state <;> decide, hstate.symm⟩

namespace Store

/-- The rules of the workflow table: each row has a number of its own that was given out, and is
in a state. -/
structure WorkflowRules (s : Store) : Prop where
  nodup : (s.workflows.rows.map (·.id)).Nodup
  numbered : ∀ row ∈ s.workflows.rows, row.id ≤ s.workflows.last
  checked : ∀ row ∈ s.workflows.rows, row.check = .ok ()

/-- The numbers of the workflows, and how they were opened. -/
def workflowRecords (s : Store) : List (Int × String) :=
  s.workflows.rows.map fun row => (row.id, row.params)

/-- A copy of a workflow has been loaded. -/
def Loads (s : Store) (copy : Workflow) : Prop := ∃ row ∈ s.workflows.rows, row.load = .ok copy

theorem workflowRules_empty : WorkflowRules .empty where
  nodup := List.nodup_nil
  numbered := by intro row h; exact absurd h List.not_mem_nil
  checked := by intro row h; exact absurd h List.not_mem_nil

theorem WorkflowRules.congr {s s' : Store} (hs : s.WorkflowRules)
    (h : s'.workflows = s.workflows) : s'.WorkflowRules := by
  obtain ⟨hnodup, hnumbered, hchecked⟩ := hs
  exact ⟨h ▸ hnodup, h ▸ hnumbered, h ▸ hchecked⟩

/-- A number stands for one workflow at most, which is in one state. -/
theorem WorkflowRules.single {s : Store} (hs : s.WorkflowRules) (id : Int) :
    s.workflowStates id = []
      ∨ ∃ state : WorkflowState, s.workflowStates id = [state.tag] := by
  unfold workflowStates
  rcases filter_number hs.nodup id with hnone | ⟨row, hrow, -, hone⟩
  · rw [hnone]
    exact .inl rfl
  · obtain ⟨state, hstate⟩ := WorkflowRow.check_eq_ok.1 (hs.checked row hrow)
    rw [hone, List.map_singleton, hstate]
    exact .inr ⟨state, rfl⟩

/-- Nothing stands under a number that was not given out. -/
theorem WorkflowRules.unused {s : Store} (hs : s.WorkflowRules) {id : Int}
    (h : s.workflows.last < id) : s.workflowStates id = [] := by
  unfold workflowStates
  rw [List.map_eq_nil_iff, List.filter_eq_nil_iff]
  intro row hrow hid
  have := hs.numbered row hrow
  have := of_decide_eq_true hid
  omega

theorem WorkflowRules.workflowStates_eq {s : Store} (hs : s.WorkflowRules) {id : Int}
    {state : WorkflowState} (hmem : state.tag ∈ s.workflowStates id) :
    s.workflowStates id = [state.tag] := by
  rcases hs.single id with hnone | ⟨other, hother⟩
  · rw [hnone] at hmem
    exact absurd hmem List.not_mem_nil
  · rw [hother] at hmem ⊢
    rw [List.mem_singleton.mp hmem]

/-- A copy that was loaded was in the state in which the store had the workflow. -/
theorem Loads.mem_workflowStates {s : Store} {copy : Workflow} (h : s.Loads copy) :
    copy.state.tag ∈ s.workflowStates copy.id := by
  obtain ⟨row, hrow, hload⟩ := h
  obtain ⟨hid, hstate⟩ := WorkflowRow.load_eq_ok hload
  rw [Store.mem_workflowStates]
  exact ⟨row, hrow, decide_eq_true ⟨hid.symm, hstate.symm⟩⟩

/-- Whatever is found open has been loaded. -/
theorem loads_of_findOpenWorkflows {s : Store} {ws : List Workflow}
    (h : s.findOpenWorkflows = .ok ws) : ∀ w ∈ ws, s.Loads w := by
  obtain ⟨_, _, hload⟩ := bind_eq_ok.1 h
  intro w hw
  obtain ⟨row, hrow, hw⟩ := exists_mem_of_forall₂ (mapM_eq_ok.1 hload) hw
  exact ⟨row, List.mem_of_mem_filter hrow, hw⟩

/-! ## Opening -/

theorem WorkflowRules.insertWorkflow {s s' : Store} {params : WorkflowParams} {new : Int}
    (hs : s.WorkflowRules) (h : s.insertWorkflow params = .ok (s', new)) : s'.WorkflowRules := by
  obtain ⟨_, hnext, rfl⟩ := insertWorkflow_eq_ok.1 h
  have hnew := Table.nextId?_eq_some hnext
  refine ⟨?_, ?_, ?_⟩
  · show (List.map (·.id) (s.workflows.rows ++ [.opened params new])).Nodup
    rw [List.map_append, List.nodup_append]
    refine ⟨hs.nodup, List.nodup_singleton _, ?_⟩
    intro a ha b hb hab
    obtain ⟨row, hrow, rfl⟩ := List.mem_map.mp ha
    obtain rfl : b = new := List.mem_singleton.mp hb
    have := hs.numbered row hrow
    omega
  · intro row hrow
    show row.id ≤ new
    rcases List.mem_append.mp hrow with hrow | hrow
    · have := hs.numbered row hrow
      omega
    · rw [List.mem_singleton.mp hrow]
      exact Int.le_refl _
  · intro row hrow
    rcases List.mem_append.mp hrow with hrow | hrow
    · exact hs.checked row hrow
    · rw [List.mem_singleton.mp hrow]
      exact WorkflowRow.check_eq_ok.2 ⟨.init, rfl⟩

theorem records_insertWorkflow {s s' : Store} {params : WorkflowParams} {new : Int}
    (h : s.insertWorkflow params = .ok (s', new)) :
    s'.workflowRecords = s.workflowRecords ++ [(new, params.toText)] := by
  obtain ⟨_, _, rfl⟩ := insertWorkflow_eq_ok.1 h
  exact List.map_append

/-! ## Updating -/

/-- An update keeps everything of a row but state, message and progress. -/
theorem map_withWorkflow {β : Type} (s : Store) (expected : WorkflowState) (w : Workflow)
    {g : WorkflowRow → β} (hg : ∀ row : WorkflowRow, g (row.updated w) = g row) :
    (s.withWorkflow expected w).workflows.rows.map g = s.workflows.rows.map g := by
  unfold withWorkflow Table.update
  dsimp only
  rw [List.map_map]
  refine List.map_congr_left fun row _ => ?_
  dsimp only [Function.comp_apply]
  split
  · exact hg row
  · rfl

theorem WorkflowRules.updateWorkflow {s s' : Store} {expected : WorkflowState} {w : Workflow}
    (hs : s.WorkflowRules) (h : s.updateWorkflow expected w = .ok s') : s'.WorkflowRules := by
  obtain ⟨_, _, rfl⟩ := updateWorkflow_eq_ok.1 h
  have hids := s.map_withWorkflow expected w (g := (·.id)) fun _ => rfl
  refine ⟨hids ▸ hs.nodup, ?_, ?_⟩
  · intro row hrow
    have hmem : row.id ∈ s.workflows.rows.map (·.id) := hids ▸ List.mem_map_of_mem hrow
    obtain ⟨old, hold, hid⟩ := List.mem_map.mp hmem
    show row.id ≤ s.workflows.last
    rw [← hid]
    exact hs.numbered old hold
  · intro row hrow
    obtain ⟨old, hold, rfl⟩ := List.mem_map.mp hrow
    split
    · exact WorkflowRow.check_eq_ok.2 ⟨w.state, rfl⟩
    · exact hs.checked old hold

theorem records_updateWorkflow {s s' : Store} {expected : WorkflowState} {w : Workflow}
    (h : s.updateWorkflow expected w = .ok s') : s'.workflowRecords = s.workflowRecords := by
  obtain ⟨_, _, rfl⟩ := updateWorkflow_eq_ok.1 h
  exact s.map_withWorkflow expected w fun _ => rfl

/-- **An update moves the workflow of its copy from where that was, and no other.** -/
theorem WorkflowRules.moves {s s' : Store} {expected : WorkflowState} {w : Workflow}
    (hs : s.WorkflowRules) (h : s.updateWorkflow expected w = .ok s') :
    expected.canMoveTo w.state = true
      ∧ s.workflowStates w.id = [expected.tag] ∧ s'.workflowStates w.id = [w.state.tag]
      ∧ ∀ id, id ≠ w.id → s'.workflowStates id = s.workflowStates id := by
  obtain ⟨hmove, hrow, rfl⟩ := updateWorkflow_eq_ok.1 h
  have hstate := hs.workflowStates_eq (mem_workflowStates.2 hrow)
  refine ⟨hmove, hstate, ?_, fun id hid => ?_⟩
  · rw [workflowStates_withWorkflow, if_pos rfl, hstate]
    simp
  · rw [workflowStates_withWorkflow, if_neg hid]

end Store

end Treasury
