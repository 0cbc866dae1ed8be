import Treasury.Proofs.Store.Settlement
import Treasury.Proofs.World.Batches
import Treasury.Proofs.World.Claims
import Treasury.Proofs.World.History

/-!
# A workflow agrees with its claims

A tick reads the claims of a workflow, comes to a verdict, and stores it some time later. Between
the two the pipeline goes on, and other ticks may store verdicts of their own. The verdict still
holds when it is stored: the claims are all there when the workflow comes into the stage, what has
settled stays settled, and a verdict of which the workflow is no longer in need is refused.

`Tick.Informed` says what a tick has found out that is still true. It is kept by all lawful moves
(`informed_after`), and so the state of a workflow says what has become of its claims
(`agrees_run`). Nor does a verdict fail to come: a tick that checks a workflow and is not disturbed
brings it where its claims say (`settles_of_checked`).
-/

namespace Treasury

/-- A workflow has left its first state. -/
def Store.HasLeft (s : Store) (id : Int) : Prop :=
  ∃ state : WorkflowState, state ≠ .init ∧ s.workflowStates id = [state.tag]

/-- A tick that checks a workflow has found it in the stage, and what it has found out about the
claims bears its verdict. -/
def Tick.Informed (s : Store) : Tick → Prop
  | .workflow _ _ (.checking _ w) => w.state = .claimLp ∧ s.HasLeft w.id
  | .workflow _ _ (.judged _ w check) => w.state = .claimLp ∧ s.HasLeft w.id ∧ s.Bears w check
  | _ => True

/-- The workflow that a tick is about to check. -/
def Tick.checked? : Tick → Option Workflow
  | .workflow _ _ (.checking _ copy) => some copy
  | _ => none

/-- What the state of a workflow says about its claims. -/
structure Store.Agrees (s : Store) (id : Int) : Prop where
  unclaimed : s.workflowStates id = [WorkflowState.init.tag] → s.claimIds id = []
  finished : s.workflowStates id = [WorkflowState.marginBalanceTransferOut.tag] →
    ∀ word ∈ s.claimStates id, word = TransactionState.success.tag
  failed : s.workflowStates id = [WorkflowState.failed.tag] →
    TransactionState.failed.tag ∈ s.claimStates id

/-- The pipeline leaves what has settled, and only ticks update workflows. -/
def Move.Lawful (s : Store) : Move → Prop
  | .updateWorkflow _ _ => False
  | .setTask n state _ _ => s.KeepsSettled n state
  | _ => True

instance (s : Store) : DecidablePred (Move.Lawful s) := fun move =>
  match move with
  | .updateWorkflow _ _ => inferInstanceAs (Decidable False)
  | .setTask n state _ _ => inferInstanceAs (Decidable (s.KeepsSettled n state))
  | .openWorkflow _ | .createTransfer _ _ _ | .updateTransfer _ _ | .startWorkflowTick _ _
  | .startTransferTick _ _ | .advance _ _ => inferInstanceAs (Decidable True)

/-- A tick informs itself before it judges. -/
theorem Tick.Advances.informed {fresh : Queue → Except AssignError UInt64} {s next : Store}
    {tick tick' : Tick} {events : List Event} (h : Advances fresh s tick (next, tick', events))
    (hs : s.WorkflowRules) (htick : tick.Informed s) : tick'.Informed s := by
  cases h with
  | workflow h =>
    cases h with
    | check lease w rest events hopen hstate =>
      have hloads := Store.loads_of_findOpenWorkflows hopen w List.mem_cons_self
      refine ⟨hstate, .claimLp, by decide, ?_⟩
      rw [← hstate]
      exact hs.workflowStates_eq hloads.mem_workflowStates
    | judge lease w check hcheck => exact ⟨htick.1, htick.2, Store.bears_of_check hcheck⟩
    | _ => trivial
  | transfer h => cases h <;> trivial

/-- What a tick writes settles claims, or makes them. -/
theorem Tick.Advances.settles {fresh : Queue → Except AssignError UInt64} {s next : Store}
    {tick tick' : Tick} {events : List Event} (h : Advances fresh s tick (next, tick', events))
    (hs : s.WorkflowRules) (htick : tick.Sound) (id : Int) : Store.Settles s next id := by
  cases h with
  | workflow h =>
    cases h with
    | skip lease n w next hu => exact Store.settles_of_tasks (Store.updateWorkflow_tasks hu) id
    | save lease n w batch next hc => exact Store.settles_commit hs htick.1 htick.2 hc id
    | settle lease w check next hu =>
      exact Store.settles_of_tasks (Store.updateWorkflow_tasks hu) id
    | _ => exact Store.settles_of_tasks (by rfl) id
  | transfer h =>
    cases h with
    | save lease t batch next hc =>
      obtain ⟨⟨saved, ids⟩, hsave, hu⟩ := bind_eq_ok.1 hc
      have htasks := (Store.updateTransfer_frame hu).2
      have hother : ∀ p ∈ batch, p.draft.owner ≠ .workflow id := by
        intro p hp
        rw [htick p hp]
        exact TaskOwner.noConfusion
      have hrows := Store.claimRows_saveTasks_of_ne hsave hother
      refine Store.settles_of_rows (Eq.trans ?_ hrows)
      unfold Store.taskRows
      rw [htasks]
    | settle lease t progress next hu =>
      exact Store.settles_of_tasks (Store.updateTransfer_frame hu).2 id
    | _ => exact Store.settles_of_tasks (by rfl) id

/-- **A lawful update comes from the stage's own ticks.** It moves a workflow into the stage, or
stores a verdict on it. -/
theorem Move.Updates.judged_or_claimLp {w : World} {move : Move} {state : WorkflowState}
    {new : Workflow} (h : move.Updates w state new) (hmove : move.Lawful w.store) :
    new.state = .claimLp
      ∨ ∃ n ago desk turn lease copy check, move = .advance n ago
        ∧ w.ticks[n]? = some (.workflow desk turn (.judged lease copy check))
        ∧ new = WorkflowTick.settled copy check := by
  cases h with
  | client expected new => exact hmove.elim
  | @tick n ago _ copy _ htick hupdates =>
    cases hupdates with
    | skip => exact .inl rfl
    | save => exact .inl rfl
    | settle desk turn lease _ check =>
      exact .inr ⟨n, ago, desk, turn, lease, copy, check, rfl, htick, rfl⟩

namespace World

/-- All moves are lawful when they are made. -/
def Lawful (w : World) : List Move → Prop
  | [] => True
  | move :: moves => move.Lawful w.store ∧ (w.after move).Lawful moves

instance decidableLawful : (w : World) → (moves : List Move) → Decidable (w.Lawful moves)
  | _, [] => inferInstanceAs (Decidable True)
  | w, move :: moves =>
    have := decidableLawful (w.after move) moves
    inferInstanceAs (Decidable (move.Lawful w.store ∧ (w.after move).Lawful moves))

/-- The rules of the table are kept, ticks know what they do, and workflows agree with their
claims. -/
structure SettlementInv (w : World) : Prop where
  claims : ClaimInv w
  rules : w.store.WorkflowRules
  informed : ∀ tick ∈ w.ticks, tick.Informed w.store
  agrees : ∀ id, w.store.Agrees id

theorem settlementInv_start : SettlementInv (start .empty) where
  claims := claimInv_start
  rules := Store.workflowRules_empty
  informed := by intro tick h; exact absurd h List.not_mem_nil
  agrees id := ⟨fun _ => rfl, fun h => absurd h (by simp [start, Store.workflowStates, Store.empty,
    Table.empty]), fun h => absurd h (by simp [start, Store.workflowStates, Store.empty,
    Table.empty])⟩

/-- **A lawful move settles claims, or makes them.** -/
theorem settles_after {w : World} (h : SettlementInv w) {move : Move}
    (hmove : move.Lawful w.store) (id : Int) :
    Store.Settles w.store (w.after move).store id := by
  cases move with
  | openWorkflow params =>
    refine Store.settles_of_tasks ?_ id
    rcases w.store.openWorkflow_cases params with h | ⟨new, h⟩
    · exact congrArg Store.tasks h
    · exact Store.insertWorkflow_tasks h
  | updateWorkflow expected copy => exact hmove.elim
  | createTransfer rebalanceId type params =>
    refine Store.settles_of_tasks ?_ id
    rcases w.store.createTransfer_cases rebalanceId type params with h | ⟨new, h⟩
    · exact congrArg Store.tasks h
    · exact (Store.insertTransfer_frame h).2
  | updateTransfer expected copy =>
    simp only [after, become]
    cases h : w.store.updateTransfer expected copy with
    | error e => exact Store.settles_of_tasks rfl id
    | ok next => exact Store.settles_of_tasks (Store.updateTransfer_frame h).2 id
  | setTask n state message hash => exact Store.settles_setTask hmove message hash id
  | startWorkflowTick desk turn => exact Store.settles_of_tasks rfl id
  | startTransferTick chains turn => exact Store.settles_of_tasks rfl id
  | advance n ago =>
    simp only [after, advance]
    cases hn : w.ticks[n]? with
    | none => exact Store.settles_of_tasks rfl id
    | some tick =>
      have hsound := h.claims.ticks tick (List.mem_of_getElem? hn)
      exact (tick.advances_step _ w.store).settles h.rules hsound id

/-- A workflow that has left its first state keeps its claims, which settle further. -/
theorem kept_after {w : World} (h : SettlementInv w) {move : Move}
    (hmove : move.Lawful w.store) {id : Int} (hleft : w.store.HasLeft id) :
    (w.after move).store.HasLeft id
      ∧ (w.after move).store.claimIds id = w.store.claimIds id
      ∧ List.Forall₂ Lasts (w.store.claimStates id) ((w.after move).store.claimStates id) := by
  obtain ⟨state, hne, hstate⟩ := hleft
  obtain ⟨next, hnext, hmoves⟩ := leads_after h.rules move hstate
  refine ⟨⟨next, WorkflowState.ne_init_of_canMoveTo hmoves hne, hnext⟩, ?_⟩
  cases settles_after h hmove id with
  | kept hids hstates => exact ⟨hids, hstates⟩
  | claimed hinit _ =>
    exact absurd (WorkflowState.tag_inj.1 (List.singleton_inj.1 (hstate.symm.trans hinit))) hne

/-- **What a tick has found out stays true.** -/
theorem informed_after {w : World} (h : SettlementInv w) {move : Move}
    (hmove : move.Lawful w.store) : ∀ tick ∈ (w.after move).ticks,
      tick.Informed (w.after move).store := by
  intro tick htick
  have hbefore : tick.Informed w.store := by
    cases w.arises_after move tick htick with
    | old hold => exact h.informed tick hold
    | newWorkflow desk turn => trivial
    | newTransfer chains turn => trivial
    | @advance old _ _ _ _ hold hadvances => exact hadvances.informed h.rules (h.informed old hold)
  -- only ticks that check a workflow have found out anything
  cases tick with
  | transfer chains turn phase => trivial
  | workflow desk turn phase =>
    cases phase with
    | checking lease copy => exact ⟨hbefore.1, (kept_after h hmove hbefore.2).1⟩
    | judged lease copy check =>
      obtain ⟨hstate, hleft, tasks, hcheck, hids, hstates⟩ := hbefore
      obtain ⟨hleft, hkept, hlasts⟩ := kept_after h hmove hleft
      exact ⟨hstate, hleft, tasks, hcheck, hids.trans hkept.symm,
        forall₂_trans hstates hlasts fun _ _ _ _ => Lasts.trans⟩
    | _ => trivial

/-- Whatever state a lawful move brings a workflow into, its claims agreed with that state before
the move was made. -/
theorem agreed_before {w : World} (h : SettlementInv w) {move : Move}
    (hmove : move.Lawful w.store) (id : Int) :
    ((w.after move).store.workflowStates id = [WorkflowState.marginBalanceTransferOut.tag] →
      w.store.HasLeft id
        ∧ ∀ word ∈ w.store.claimStates id, word = TransactionState.success.tag)
    ∧ ((w.after move).store.workflowStates id = [WorkflowState.failed.tag] →
      w.store.HasLeft id ∧ TransactionState.failed.tag ∈ w.store.claimStates id) := by
  rcases (w.rewrites_after move).states h.rules id with
    hsame | ⟨-, hinit⟩ | ⟨state, new, hupdates, rfl, -, hbefore, hafter⟩
  · rw [hsame]
    exact ⟨fun hs => ⟨⟨_, by decide, hs⟩, (h.agrees id).finished hs⟩,
      fun hs => ⟨⟨_, by decide, hs⟩, (h.agrees id).failed hs⟩⟩
  · rw [hinit]
    exact ⟨fun hs => absurd hs (by decide), fun hs => absurd hs (by decide)⟩
  · rw [hafter]
    rcases hupdates.judged_or_claimLp hmove with
      hstage | ⟨n, ago, desk, turn, lease, copy, check, -, htick, rfl⟩
    · rw [hstage]
      exact ⟨fun hs => absurd hs (by decide), fun hs => absurd hs (by decide)⟩
    · -- the verdict that is stored was borne by the claims all the time
      obtain ⟨hstate, hleft, hbears⟩ := h.informed _ (List.mem_of_getElem? htick)
      refine ⟨fun hs => ⟨hleft, ?_⟩, fun hs => ⟨hleft, ?_⟩⟩
      · exact hbears.all_success hstate (WorkflowState.tag_inj.1 (List.singleton_inj.1 hs))
      · exact hbears.mem_failed hstate (WorkflowState.tag_inj.1 (List.singleton_inj.1 hs))

/-- **Workflows that agree with their claims go on doing so.** -/
theorem settlementInv_after {w : World} (h : SettlementInv w) {move : Move}
    (hmove : move.Lawful w.store) : SettlementInv (w.after move) where
  claims := claimInv_after h.claims move
  rules := (w.rewrites_after move).rules h.rules
  informed := informed_after h hmove
  agrees := by
    intro id
    refine ⟨fun hinit => ?_, fun hs => ?_, fun hs => ?_⟩
    · exact (claimInv_after h.claims move).store.unclaimed id (.inr hinit)
    · obtain ⟨hleft, hall⟩ := (agreed_before h hmove id).1 hs
      exact Lasts.all_success (kept_after h hmove hleft).2.2 hall
    · obtain ⟨hleft, hmem⟩ := (agreed_before h hmove id).2 hs
      exact Lasts.mem_failed (kept_after h hmove hleft).2.2 hmem

theorem settlementInv_run {w : World} (h : SettlementInv w) {moves : List Move}
    (hmoves : w.Lawful moves) : SettlementInv (w.run moves) := by
  induction moves generalizing w with
  | nil => exact h
  | cons move moves ih => exact ih (settlementInv_after h hmoves.1) hmoves.2

/-- A lawful move takes a workflow out of the stage. Then it stores the verdict of a tick that has
read all claims of the workflow. -/
structure Leaves (w : World) (move : Move) (id : Int) (copy : Workflow) (tasks : List Task) :
    Prop where
  judged : ∃ n ago desk turn lease, move = .advance n ago
    ∧ w.ticks[n]? = some (.workflow desk turn (.judged lease copy (Claim.verdict copy tasks)))
  workflow : copy.id = id
  all : tasks.map (·.id) = w.store.claimIds id
  /-- It is not the verdict on a workflow without claims, unless there are none. -/
  counted : w.store.claimIds id ≠ [] → tasks.isEmpty = false
  /-- Those that had settled when they were read have not been unsettled since. -/
  lasts : List.Forall₂ Lasts (tasks.map (·.state.tag)) (w.store.claimStates id)
  leads : (w.after move).store.workflowStates id = [(Claim.verdict copy tasks).nextState.tag]

/--
**A workflow agrees with its claims.**

From an empty store on, in whatever order things happen, with ticks as slow as they may be, and
with a pipeline that leaves what has settled: a workflow in its first state has no claims; when it
has passed the stage all its claims have succeeded; when it has failed one of them has failed. And
it only leaves the stage by a verdict on all the claims it has, so not as one without claims unless
it is one.
-/
theorem agrees_run (moves : List Move) (hmoves : (start .empty).Lawful moves) (id : Int) :
    ((start .empty).run moves).store.Agrees id
      ∧ ∀ move, move.Lawful ((start .empty).run moves).store →
        ((start .empty).run moves).store.workflowStates id = [WorkflowState.claimLp.tag] →
        ((start .empty).run (moves ++ [move])).store.workflowStates id ≠
          [WorkflowState.claimLp.tag] →
        ∃ copy tasks, Leaves ((start .empty).run moves) move id copy tasks := by
  have h := settlementInv_run settlementInv_start hmoves
  refine ⟨h.agrees id, fun move hmove hstage hleaves => ?_⟩
  rw [run_append] at hleaves
  rcases (rewrites_after _ move).states h.rules id with
    hsame | ⟨hnone, -⟩ | ⟨state, new, hupdates, hid, -, -, hafter⟩
  · exact absurd (hsame.trans hstage) hleaves
  · exact absurd (hnone.symm.trans hstage) (by simp)
  · rcases hupdates.judged_or_claimLp hmove with
      hnew | ⟨n, ago, desk, turn, lease, copy, check, hadvance, htick, rfl⟩
    · rw [hnew] at hafter
      exact absurd hafter hleaves
    · obtain ⟨-, -, tasks, rfl, hids, hstates⟩ := h.informed _ (List.mem_of_getElem? htick)
      subst hid
      refine ⟨copy, tasks, ⟨n, ago, desk, turn, lease, hadvance, htick⟩, rfl, hids, ?_, hstates,
        hafter⟩
      intro hsome
      rw [List.isEmpty_eq_false_iff]
      rintro rfl
      exact hsome hids.symm

/--
**A tick that checks a workflow brings it where its claims say**, if nothing else happens while it
carries out its last four phases. The claims stay as they are.
-/
theorem settles_of_checked {w : World} (hrules : w.store.WorkflowRules) {n : Nat} {tick : Tick}
    (hn : w.ticks[n]? = some tick) {copy : Workflow} (hcopy : tick.checked? = some copy)
    (hstage : copy.state = .claimLp)
    (hstate : w.store.workflowStates copy.id = [WorkflowState.claimLp.tag]) {tasks : List Task}
    (htasks : w.store.findTasks (.workflow copy.id) .claimFromVault = .ok tasks)
    (ago : Queue → Nat) :
    (w.run (List.replicate 4 (.advance n ago))).store.workflowStates copy.id =
        [(Claim.verdict copy tasks).nextState.tag]
      ∧ (w.run (List.replicate 4 (.advance n ago))).store.tasks = w.store.tasks := by
  obtain ⟨desk, turn, lease, rfl⟩ :
      ∃ desk turn lease, tick = .workflow desk turn (.checking lease copy) := by
    unfold Tick.checked? at hcopy
    split at hcopy
    · cases hcopy
      exact ⟨_, _, _, rfl⟩
    · cases hcopy
  let check := Claim.verdict copy tasks
  let settled := w.store.withWorkflow copy.state (WorkflowTick.settled copy check)
  have hcheck : Claim.check w.store copy = .ok check := by
    rw [Claim.check, htasks]
    rfl
  have hupdate : w.store.updateWorkflow copy.state (WorkflowTick.settled copy check) =
      .ok settled := by
    refine Store.updateWorkflow_eq_ok.2 ⟨?_, Store.mem_workflowStates.1 ?_, rfl⟩
    · rw [WorkflowTick.settled, Claim.nextState_verdict, hstage]
      split
      · rfl
      · split <;> rfl
    · rw [hstage]
      exact hstate ▸ List.mem_singleton_self _
  have hjudge : ∀ fresh, (Tick.workflow desk turn (.checking lease copy)).step fresh w.store =
      (w.store, .workflow desk turn (.judged lease copy check), Claim.verdictEvents check) := by
    intro fresh
    simp only [Tick.step, WorkflowTick.step, WorkflowTick.judge, hcheck]
  have hsettle : ∀ fresh, (Tick.workflow desk turn (.judged lease copy check)).step fresh w.store =
      (settled, .workflow desk turn (.announcing lease check.alert
        (.polled copy.id copy.state check.nextState check.progress)), []) := by
    intro fresh
    simp only [Tick.step, WorkflowTick.step, WorkflowTick.settle, hupdate]
  -- of the four phases only the second writes the workflow
  obtain ⟨hstore, hn⟩ := store_advance hn ago (hjudge _)
  obtain ⟨hstore, hn⟩ := store_advance hn ago (hstore.symm ▸ hsettle _)
  obtain ⟨hannounced, hn⟩ := store_advance hn ago rfl
  obtain ⟨hreleased, -⟩ := store_advance hn ago rfl
  rw [hannounced, hstore] at hreleased
  have hkept : settled.tasks = w.store.tasks := Store.updateWorkflow_tasks hupdate
  exact ⟨(Store.workflowStates_congr (congrArg Store.workflows hreleased) _).trans
    (hrules.moves hupdate).2.2.1, (congrArg Store.tasks hreleased).trans hkept⟩

/-- A claim is made, the pipeline reports that it has succeeded, and the next tick takes note. -/
theorem agrees_run_oneClaim :
    let moves : List Move :=
      [.openWorkflow ⟨"ops", none⟩, .startWorkflowTick Claim.oneClaimDesk ⟨0, "a"⟩]
        ++ List.replicate 8 (.advance 0 fun _ => 0)
        ++ [.setTask 1 .success "" none, .startWorkflowTick Claim.oneClaimDesk ⟨1, "b"⟩]
        ++ List.replicate 6 (.advance 1 fun _ => 0)
    (start .empty).Lawful moves ∧ ((start .empty).run moves).store.Agrees 1
      ∧ ((start .empty).run moves).store.workflowStates 1 =
        [WorkflowState.marginBalanceTransferOut.tag]
      ∧ ((start .empty).run moves).store.claimStates 1 = [TransactionState.success.tag] := by
  intro moves
  -- the second tick has found the workflow when it has carried out two phases
  let earlier := moves.take 14
  obtain ⟨hmoves, hfound, hstate, hclaims⟩ : (start .empty).Lawful moves
      ∧ (((start .empty).run earlier).ticks[1]?.bind Tick.checked?).map
        (fun copy => (copy.id, copy.state)) = some (1, .claimLp)
      ∧ ((start .empty).run earlier).store.workflowStates 1 = [WorkflowState.claimLp.tag]
      ∧ ((start .empty).run earlier).store.claimStates 1 = [TransactionState.success.tag] := by
    decide +kernel
  refine ⟨hmoves, (agrees_run moves hmoves 1).1, ?_⟩
  -- its other four phases are not evaluated, as they would read all bytes of the call again
  have hrules := rules_run (w := start .empty) Store.workflowRules_empty earlier
  obtain ⟨held, hholds⟩ := holds_run earlier
  have hsplit : moves = earlier ++ List.replicate 4 (.advance 1 fun _ => 0) := rfl
  rw [hsplit, run_append]
  generalize (start .empty).run earlier = w at *
  obtain ⟨copy, hcopy, hfound⟩ := Option.map_eq_some_iff.1 hfound
  obtain ⟨tick, hn, hcopy⟩ := Option.bind_eq_some_iff.1 hcopy
  obtain ⟨hid, hstage⟩ := Prod.mk.inj hfound
  have htasks := hholds.findTasks (.workflow copy.id) .claimFromVault
  obtain ⟨hlast, hkept⟩ := settles_of_checked hrules hn hcopy hstage (by rw [hid]; exact hstate)
    htasks (fun _ => 0)
  have hwords := Store.states_of_findTasks htasks
  rw [hid] at hlast hwords
  constructor
  · rw [hlast, Claim.nextState_verdict, if_pos]
    intro t ht
    have hword := List.mem_map_of_mem (f := fun t : Task => t.state.tag) ht
    rw [hwords.trans hclaims] at hword
    exact TransactionState.tag_inj.1 (List.mem_singleton.1 hword)
  · unfold Store.claimStates Store.taskRows
    rw [hkept]
    exact hclaims

end World

end Treasury
