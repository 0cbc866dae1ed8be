import Mathlib.Data.List.Induction
import Treasury.Proofs.Store.History
import Treasury.Proofs.World.Basic

/-!
# Workflows only move forward

An update names the state in which its copy was loaded, not a version of it. This is enough: a
workflow that has left a state does not come back, so a copy that still fits has not missed any
move. Copies may be as old as they like, and there may be any number of them (`Move.Updates` says
what a move writes, and from which copy).

What one write can do to the workflow table is said once (`Rewrites`), and from it follows where
each workflow can be later (`leads_run`).
-/

namespace Treasury

/-- The copy of a workflow that a tick works on. -/
def Tick.copy? : Tick → Option Workflow
  | .workflow _ _ (.executing _ _ (.entering w)) => some w
  | .workflow _ _ (.executing _ _ (.drafted w _)) => some w
  | .workflow _ _ (.executing _ _ (.prepared w _)) => some w
  | .workflow _ _ (.checking _ w) => some w
  | .workflow _ _ (.judged _ w _) => some w
  | _ => none

/-- A tick works on the copy that it has loaded, and on no other. -/
theorem Tick.Advances.copy {fresh : Queue → Except AssignError UInt64} {s next : Store}
    {tick tick' : Tick} {events : List Event} (h : Advances fresh s tick (next, tick', events))
    {copy : Workflow} (hcopy : tick'.copy? = some copy) :
    tick.copy? = some copy ∨ s.Loads copy := by
  cases h with
  | workflow h =>
    cases h with
    | enter lease w rest events hopen _ =>
      obtain rfl := Option.some.inj hcopy
      exact .inr (Store.loads_of_findOpenWorkflows hopen _ List.mem_cons_self)
    | check lease w rest events hopen _ =>
      obtain rfl := Option.some.inj hcopy
      exact .inr (Store.loads_of_findOpenWorkflows hopen _ List.mem_cons_self)
    | draft lease id w snapshot drafts _ _ => exact .inl hcopy
    | prepare lease id w drafts batch _ _ => exact .inl hcopy
    | judge lease w check _ => exact .inl hcopy
    | rest result => exact .inl hcopy
    | _ => exact absurd hcopy (by simp [copy?])
  | transfer h =>
    cases h <;> exact absurd hcopy (by simp [copy?])

/-- A tick is about to write a workflow, of which it has loaded `copy`, as `new`. -/
inductive Tick.Updates : Tick → Workflow → Workflow → Prop where
  | skip (desk : Desk) (turn : Turn) (lease : Lease) (id : Int) (w : Workflow) :
    Updates (.workflow desk turn (.executing lease id (.drafted w []))) w (Claim.advancedEmpty w)
  | save (desk : Desk) (turn : Turn) (lease : Lease) (id : Int) (w : Workflow)
    (batch : List Prepared) :
    Updates (.workflow desk turn (.executing lease id (.prepared w batch))) w
      (Claim.advanced w batch.length)
  | settle (desk : Desk) (turn : Turn) (lease : Lease) (w : Workflow) (check : StageCheck) :
    Updates (.workflow desk turn (.judged lease w check)) w (WorkflowTick.settled w check)

/-- A tick writes the workflow of its copy, if it is where the copy was, or no workflow. -/
theorem Tick.Advances.workflows {fresh : Queue → Except AssignError UInt64} {s next : Store}
    {tick tick' : Tick} {events : List Event} (h : Advances fresh s tick (next, tick', events)) :
    next.workflows = s.workflows
      ∨ ∃ (copy new : Workflow) (saved : Store), tick.Updates copy new
        ∧ saved.workflows = s.workflows ∧ saved.updateWorkflow copy.state new = .ok next := by
  cases h with
  | workflow h =>
    cases h with
    | skip lease id w next hu => exact .inr ⟨w, _, s, .skip _ _ _ _ _, rfl, hu⟩
    | save lease id w batch next hc =>
      obtain ⟨saved, ids, hsave, hu⟩ := Claim.commit_eq_ok.1 hc
      exact .inr ⟨w, _, saved, .save _ _ _ _ _ _, (Store.saveTasks_frame hsave).1, hu⟩
    | settle lease w check next hu => exact .inr ⟨w, _, s, .settle _ _ _ _ _, rfl, hu⟩
    | _ => exact .inl rfl
  | transfer h =>
    cases h with
    | save lease t batch next hc =>
      obtain ⟨⟨saved, ids⟩, hsave, hu⟩ := bind_eq_ok.1 hc
      exact .inl ((Store.updateTransfer_frame hu).1.trans (Store.saveTasks_frame hsave).1)
    | settle lease t progress next hu => exact .inl (Store.updateTransfer_frame hu).1
    | _ => exact .inl rfl

/-- A move is about to write a workflow as `new`, from a copy that was loaded in this state. -/
inductive Move.Updates (w : World) : WorkflowState → Workflow → Move → Prop where
  /-- Whoever updates a workflow says in which state the copy was loaded. -/
  | client (expected : WorkflowState) (new : Workflow) :
    Updates w expected new (.updateWorkflow expected new)
  | tick {n : Nat} {ago : Queue → Nat} {tick : Tick} {copy new : Workflow} :
    w.ticks[n]? = some tick → tick.Updates copy new → Updates w copy.state new (.advance n ago)

namespace World

/-! ## One write -/

/-- What a move makes of the workflow table. -/
inductive Rewrites (w : World) (move : Move) (next : Store) : Prop where
  | rest : next.workflows = w.store.workflows → Rewrites w move next
  | opened {params : WorkflowParams} {new : Int} :
    w.store.insertWorkflow params = .ok (next, new) → Rewrites w move next
  /-- Transactions may have been written before the update. -/
  | updated {expected : WorkflowState} {new : Workflow} {saved : Store} :
    move.Updates w expected new → saved.workflows = w.store.workflows →
    saved.updateWorkflow expected new = .ok next → Rewrites w move next

/-- **Every move rewrites the workflow table in one of these ways.** -/
theorem rewrites_after (w : World) (move : Move) : Rewrites w move (w.after move).store := by
  cases move with
  | openWorkflow params =>
    rcases w.store.openWorkflow_cases params with h | ⟨id, h⟩
    · exact .rest (congrArg Store.workflows h)
    · exact .opened h
  | updateWorkflow expected copy =>
    simp only [after, become]
    cases h : w.store.updateWorkflow expected copy with
    | error e => exact .rest rfl
    | ok next => exact .updated (.client expected copy) rfl h
  | createTransfer rebalanceId type params =>
    rcases w.store.createTransfer_cases rebalanceId type params with h | ⟨id, h⟩
    · exact .rest (congrArg Store.workflows h)
    · exact .rest (Store.insertTransfer_frame h).1
  | updateTransfer expected copy =>
    simp only [after, become]
    cases h : w.store.updateTransfer expected copy with
    | error e => exact .rest rfl
    | ok next => exact .rest (Store.updateTransfer_frame h).1
  | setTask id state message hash => exact .rest rfl
  | startWorkflowTick desk turn => exact .rest rfl
  | startTransferTick chains turn => exact .rest rfl
  | advance n ago =>
    simp only [after, advance]
    cases hn : w.ticks[n]? with
    | none => exact .rest rfl
    | some tick =>
      rcases (tick.advances_step _ w.store).workflows with h | ⟨copy, new, saved, hupdates, hw, hu⟩
      · exact .rest h
      · exact .updated (.tick hn hupdates) hw hu

/-- The rules of the table are kept. -/
theorem Rewrites.rules {w : World} {move : Move} {next : Store} (h : Rewrites w move next)
    (hw : w.store.WorkflowRules) : next.WorkflowRules := by
  cases h with
  | rest h => exact hw.congr h
  | opened h => exact hw.insertWorkflow h
  | updated _ hsaved hu => exact (hw.congr hsaved).updateWorkflow hu

/-- No row disappears, and none is opened by somebody else than before. -/
theorem Rewrites.records {w : World} {move : Move} {next : Store} (h : Rewrites w move next) :
    w.store.workflowRecords <+: next.workflowRecords := by
  cases h with
  | rest h =>
    unfold Store.workflowRecords
    rewrite [h]
    exact List.prefix_rfl
  | opened h =>
    rw [Store.records_insertWorkflow h]
    exact List.prefix_append _ _
  | updated _ hsaved hu =>
    rw [Store.records_updateWorkflow hu]
    unfold Store.workflowRecords
    rewrite [hsaved]
    exact List.prefix_rfl

/-- **A workflow stays, is opened, or is moved by a copy that was loaded in the state that it
leaves.** -/
theorem Rewrites.states {w : World} {move : Move} {next : Store} (h : Rewrites w move next)
    (hw : w.store.WorkflowRules) (id : Int) :
    next.workflowStates id = w.store.workflowStates id
      ∨ (w.store.workflowStates id = [] ∧ next.workflowStates id = [WorkflowState.init.tag])
      ∨ ∃ state new, move.Updates w state new ∧ new.id = id ∧ state.canMoveTo new.state = true
        ∧ w.store.workflowStates id = [state.tag]
        ∧ next.workflowStates id = [new.state.tag] := by
  cases h with
  | rest h => exact .inl (Store.workflowStates_congr h id)
  | opened h =>
    rename_i params new
    have hstates := Store.workflowStates_insertWorkflow h id
    by_cases hid : id = new
    · obtain ⟨-, hnext, -⟩ := Store.insertWorkflow_eq_ok.1 h
      have hlast := Table.nextId?_eq_some hnext
      have hnone : w.store.workflowStates id = [] := hw.unused (by omega)
      rw [if_pos hid, hnone] at hstates
      exact .inr (.inl ⟨hnone, hstates⟩)
    · rw [if_neg hid, List.append_nil] at hstates
      exact .inl hstates
  | updated hupdates hsaved hu =>
    rename_i expected new saved
    -- the update found the row in the state of the copy, so this is where the workflow was
    obtain ⟨hmove, hbefore, hafter, hother⟩ := (hw.congr hsaved).moves hu
    by_cases hid : id = new.id
    · subst hid
      rw [Store.workflowStates_congr hsaved] at hbefore
      exact .inr (.inr ⟨expected, new, hupdates, rfl, hmove, hbefore, hafter⟩)
    · exact .inl ((hother id hid).trans (Store.workflowStates_congr hsaved id))

/-! ## All writes -/

theorem rules_run {w : World} (hw : w.store.WorkflowRules) (moves : List Move) :
    (w.run moves).store.WorkflowRules := by
  induction moves generalizing w with
  | nil => exact hw
  | cons move moves ih => exact ih ((w.rewrites_after move).rules hw)

theorem records_run (w : World) (moves : List Move) :
    w.store.workflowRecords <+: (w.run moves).store.workflowRecords := by
  induction moves generalizing w with
  | nil => exact List.prefix_rfl
  | cons move moves ih => exact (w.rewrites_after move).records.trans (ih (w.after move))

/-- A workflow is later where it could have moved at once. -/
theorem leads_after {w : World} (hw : w.store.WorkflowRules) (move : Move) {id : Int}
    {state : WorkflowState} (hstate : w.store.workflowStates id = [state.tag]) :
    ∃ state', (w.after move).store.workflowStates id = [state'.tag]
      ∧ state.canMoveTo state' = true := by
  rcases (w.rewrites_after move).states hw id with
    h | ⟨hnone, -⟩ | ⟨old, new, -, -, hmove, hold, h⟩
  · exact ⟨state, h.trans hstate, state.canMoveTo_refl⟩
  · exact absurd (hnone.symm.trans hstate) (by simp)
  · have heq := WorkflowState.tag_inj.1 (List.singleton_inj.1 (hold.symm.trans hstate))
    exact ⟨new.state, h, heq ▸ hmove⟩

theorem leads_run {w : World} (hw : w.store.WorkflowRules) {id : Int} {state : WorkflowState}
    (hstate : w.store.workflowStates id = [state.tag]) (moves : List Move) :
    ∃ state', (w.run moves).store.workflowStates id = [state'.tag]
      ∧ state.canMoveTo state' = true := by
  induction moves generalizing w state with
  | nil => exact ⟨state, hstate, state.canMoveTo_refl⟩
  | cons move moves ih =>
    obtain ⟨next, hnext, hmove⟩ := leads_after hw move hstate
    obtain ⟨last, hlast, hmoves⟩ := ih ((w.rewrites_after move).rules hw) hnext
    exact ⟨last, hlast, WorkflowState.canMoveTo_trans hmove hmoves⟩

/-- **Where a workflow still is, it has been all the time.** -/
theorem stays_run {w : World} (hw : w.store.WorkflowRules) {id : Int} {state : WorkflowState}
    (hstate : w.store.workflowStates id = [state.tag]) {earlier later : List Move}
    (hend : (w.run (earlier ++ later)).store.workflowStates id = [state.tag]) :
    (w.run earlier).store.workflowStates id = [state.tag] := by
  -- what it has been between leads from here and back to here
  obtain ⟨between, hbetween, hleads⟩ := leads_run hw hstate earlier
  obtain ⟨last, hlast, hback⟩ := leads_run (rules_run hw earlier) hbetween later
  rw [← run_append, hend] at hlast
  obtain rfl := WorkflowState.tag_inj.1 (List.singleton_inj.1 hlast)
  rw [hbetween, WorkflowState.canMoveTo_antisymm hback hleads]

/-! ## The states that are stored one after the other -/

/-- The words for the states of a workflow in all stores there have been, the first one first. -/
def storedStates (w : World) (id : Int) : List String :=
  (w.store :: w.past).reverse.flatMap (·.workflowStates id)

theorem storedStates_after (w : World) (move : Move) (id : Int) :
    (w.after move).storedStates id =
      w.storedStates id ++ (w.after move).store.workflowStates id := by
  unfold storedStates
  rw [past_after, List.reverse_cons, List.flatMap_append, List.flatMap_singleton]

/-- The states of a workflow follow each other in order, up to the one it is in. -/
structure Path (w : World) (id : Int) (states : List WorkflowState) : Prop where
  stored : w.storedStates id = states.map WorkflowState.tag
  ordered : states.Pairwise fun a b => a.canMoveTo b = true
  leads : ∀ state ∈ states, ∃ now, w.store.workflowStates id = [WorkflowState.tag now]
    ∧ state.canMoveTo now = true

theorem path_start {s : Store} (hs : s.WorkflowRules) (id : Int) :
    ∃ states, Path (start s) id states := by
  have hstored : (start s).storedStates id = s.workflowStates id := by
    unfold storedStates start
    rw [List.reverse_singleton, List.flatMap_singleton]
  rcases hs.single id with hnone | ⟨state, hstate⟩
  · exact ⟨[], hstored.trans hnone, .nil, fun state h => absurd h List.not_mem_nil⟩
  · refine ⟨[state], hstored.trans hstate, List.pairwise_singleton _ _, fun old hold => ?_⟩
    rw [List.mem_singleton.mp hold]
    exact ⟨state, hstate, state.canMoveTo_refl⟩

theorem path_after {w : World} (hw : w.store.WorkflowRules) (move : Move) {id : Int}
    {states : List WorkflowState} (h : Path w id states) :
    ∃ states', Path (w.after move) id states' := by
  have hleads : ∀ state ∈ states, ∃ now, (w.after move).store.workflowStates id = [now.tag]
      ∧ state.canMoveTo now = true := by
    intro state hstate
    obtain ⟨now, hnow, hmove⟩ := h.leads state hstate
    obtain ⟨next, hnext, hmove'⟩ := leads_after hw move hnow
    exact ⟨next, hnext, WorkflowState.canMoveTo_trans hmove hmove'⟩
  rcases ((w.rewrites_after move).rules hw).single id with hnone | ⟨now, hnow⟩
  · refine ⟨states, ?_, h.ordered, hleads⟩
    rw [storedStates_after, h.stored, hnone, List.append_nil]
  · -- all states so far lead to the one that is stored now
    have hnext : ∀ state ∈ states, state.canMoveTo now = true := by
      intro state hstate
      obtain ⟨now', hnow', hmove⟩ := hleads state hstate
      rwa [WorkflowState.tag_inj.1 (List.singleton_inj.1 (hnow.symm.trans hnow'))]
    refine ⟨states ++ [now], ?_, ?_, ?_⟩
    · rw [storedStates_after, h.stored, hnow, List.map_append, List.map_singleton]
    · refine List.pairwise_append.2 ⟨h.ordered, List.pairwise_singleton _ _, ?_⟩
      intro state hstate last hlast
      rw [List.mem_singleton.mp hlast]
      exact hnext state hstate
    · intro state hstate
      rcases List.mem_append.mp hstate with hstate | hstate
      · exact ⟨now, hnow, hnext state hstate⟩
      · rw [List.mem_singleton.mp hstate]
        exact ⟨now, hnow, now.canMoveTo_refl⟩

theorem path_run {w : World} (hw : w.store.WorkflowRules) {id : Int}
    {states : List WorkflowState} (h : Path w id states) (moves : List Move) :
    ∃ states', Path (w.run moves) id states' := by
  induction moves generalizing w states with
  | nil => exact ⟨states, h⟩
  | cons move moves ih =>
    obtain ⟨next, hnext⟩ := path_after hw move h
    exact ih ((w.rewrites_after move).rules hw) hnext

/-! ## Copies -/

/-- Whatever a tick works on was loaded from the store at some time. -/
theorem copies_run (s : Store) (moves : List Move) :
    ∀ tick ∈ ((start s).run moves).ticks, ∀ copy, tick.copy? = some copy →
      ∃ earlier later, moves = earlier ++ later ∧ ((start s).run earlier).store.Loads copy := by
  induction moves using List.reverseRecOn with
  | nil =>
    intro tick htick
    exact absurd htick List.not_mem_nil
  | append_singleton moves move ih =>
    have hold : ∀ tick ∈ ((start s).run moves).ticks, ∀ copy, tick.copy? = some copy →
        ∃ earlier later, moves ++ [move] = earlier ++ later
          ∧ ((start s).run earlier).store.Loads copy := by
      intro tick htick copy hcopy
      obtain ⟨earlier, later, hmoves, hloads⟩ := ih tick htick copy hcopy
      exact ⟨earlier, later ++ [move], by rw [hmoves, List.append_assoc], hloads⟩
    intro tick htick copy hcopy
    rw [run_append] at htick
    cases ((start s).run moves).arises_after move tick htick with
    | old h => exact hold tick h copy hcopy
    | newWorkflow desk turn => exact absurd hcopy (by simp [Tick.copy?])
    | newTransfer chains turn => exact absurd hcopy (by simp [Tick.copy?])
    | @advance before _ _ _ _ h hadvances =>
      rcases hadvances.copy hcopy with hcopy | hloads
      · exact hold before h copy hcopy
      · exact ⟨moves, [move], rfl, hloads⟩

/-- What happens to a workflow in a run that starts from a store. -/
structure ForwardOnly (s : Store) (moves : List Move) (id : Int) : Prop where
  /-- The states follow each other along the graph, none is entered twice, and success and failure
  are not left. -/
  path : ∃ states : List WorkflowState,
    ((start s).run moves).storedStates id = states.map WorkflowState.tag
      ∧ states.IsChain (fun a b => a.canMoveTo b = true)
      ∧ (states.destutter (· ≠ ·)).Nodup
      ∧ ∀ earlier state later, states = earlier ++ state :: later → state.isTerminal = true →
        ∀ next ∈ later, next = state
  /-- Whatever moves the workflow next works on a copy loaded in the state that the workflow is in;
  and at whichever time it was in that state, it has not left it since. -/
  current : ∀ move, ((start s).run moves).store.workflowStates id ≠ [] →
    ((start s).run (moves ++ [move])).store.workflowStates id ≠
      ((start s).run moves).store.workflowStates id →
    ∃ state new, move.Updates ((start s).run moves) state new ∧ new.id = id
      ∧ ∀ earlier between later, moves = earlier ++ between ++ later →
        state.tag ∈ ((start s).run earlier).store.workflowStates id →
        ((start s).run (earlier ++ between)).store.workflowStates id = [state.tag]
  /-- There is a time at which a tick has loaded its copy. -/
  loaded : ∀ tick ∈ ((start s).run moves).ticks, ∀ copy, tick.copy? = some copy →
    ∃ earlier later, moves = earlier ++ later ∧ ((start s).run earlier).store.Loads copy
  /-- No row disappears, and the number and the parameters of none are written again. -/
  records : ∀ earlier later, moves = earlier ++ later →
    ((start s).run earlier).store.workflowRecords <+:
      ((start s).run moves).store.workflowRecords

/--
**Workflows only move forward, and no move is lost or made twice.**

This holds whatever workflows there are at first, and whoever does what in whichever order from then
on, with copies as old as they may be.
-/
theorem forwardOnly_run (s : Store) (hs : s.WorkflowRules) (moves : List Move) (id : Int) :
    ForwardOnly s moves id where
  path := by
    obtain ⟨before, hbefore⟩ := path_start hs id
    obtain ⟨states, hpath⟩ := path_run hs hbefore moves
    refine ⟨states, hpath.stored, hpath.ordered.isChain,
      WorkflowState.nodup_destutter hpath.ordered, ?_⟩
    rintro earlier state later rfl hterminal next hnext
    have hordered := (List.pairwise_append.1 hpath.ordered).2.1
    exact WorkflowState.eq_of_isTerminal hterminal ((List.pairwise_cons.1 hordered).1 next hnext)
  current := by
    intro move hsome hchange
    have hrules := rules_run (w := start s) hs moves
    rw [run_append] at hchange
    rcases (rewrites_after _ move).states hrules id with
      h | ⟨hnone, -⟩ | ⟨state, new, hupdates, hid, -, hnow, -⟩
    · exact absurd h hchange
    · exact absurd hnone hsome
    · refine ⟨state, new, hupdates, hid, ?_⟩
      rintro earlier between later rfl hmem
      have hrules' := rules_run (w := start s) hs earlier
      have hthen := hrules'.workflowStates_eq hmem
      rw [List.append_assoc, run_append] at hnow
      rw [run_append]
      exact stays_run hrules' hthen hnow
  loaded := copies_run s moves
  records := by
    rintro earlier later rfl
    rw [run_append]
    exact records_run _ later

/-- Two people have loaded one workflow in the stage, and one of them comes too late. -/
theorem forwardOnly_run_twoCopies :
    let w : Workflow := ⟨2, .claimLp, ⟨"ops", none⟩, "", ""⟩
    let s : Store := { Store.empty with workflows :=
      ⟨[{ WorkflowRow.opened w.params 1 with state := WorkflowState.failed.tag },
        { WorkflowRow.opened w.params 2 with state := WorkflowState.claimLp.tag }], 2⟩ }
    s.WorkflowRules
      ∧ ForwardOnly s [.updateWorkflow .claimLp { w with state := .marginBalanceTransferOut },
        .updateWorkflow .claimLp { w with state := .failed }] 2 := by
  intro w s
  have hs : s.WorkflowRules := by
    refine ⟨by decide, by decide, fun row hrow => WorkflowRow.check_eq_ok.2 ?_⟩
    rcases List.mem_cons.mp hrow with rfl | hrow
    · exact ⟨.failed, rfl⟩
    · rw [List.mem_singleton.mp hrow]
      exact ⟨.claimLp, rfl⟩
  exact ⟨hs, forwardOnly_run s hs _ 2⟩

end World

end Treasury
