import Treasury.Proofs.Alert.Delivery
import Treasury.Proofs.Tick.Alerts
import Treasury.Proofs.World.Deliveries
import Treasury.Proofs.World.Order
import Treasury.Proofs.World.Settlement

/-!
# Reports follow what they report

Operators are told of a workflow when its claims have been made and when they have settled. Two
ticks may come to the same verdict, and either may be slow to tell; but only one of them stores the
verdict, the other is refused, and only who has stored it has a report to hand over. So there is one
report at most for each of the two (`once_run`), it comes after the transaction that it is about
(`announced_run`), and what a tick has reported can be told from its result (`reports_run`).
-/

namespace Treasury

/-- A report of this kind about this workflow. -/
def StageAlert.isAbout (alert : StageAlert) (id : Int) (stages : List String) : Bool :=
  alert.report.workflowId = id ∧ alert.report.stage ∈ stages

/-- A workflow is in a state from which this one cannot be entered. -/
def Store.HasPassed (s : Store) (id : Int) (stage : WorkflowState) : Prop :=
  ∃ state : WorkflowState, s.workflowStates id = [state.tag] ∧ state.canMoveTo stage = false

namespace Tick

/-- The report that a tick hands over in its next phase. -/
def attempt? : Tick → Option StageAlert
  | .workflow _ _ phase => phase.attempt?
  | .transfer _ _ _ => none

/-- Where a tick sends its reports, and whom they call upon. -/
def audience : Tick → Notifier × List String
  | .workflow desk _ _ => (desk.notifier, desk.recipients)
  | .transfer _ _ _ => (.log, [])

/-- Which reports a tick has handed over when it has come to its phase. -/
def Reports (read : Int → List Task → Prop) (made : List StageAlert) : Tick → Prop
  | .workflow _ _ phase => phase.Reports read made
  | .transfer _ _ _ => made = []

@[simp]
theorem attempt?_mute (tick : Tick) : tick.mute.attempt? = tick.attempt? := by
  cases tick <;> rfl

theorem IsNew.attempt? {tick : Tick} (h : tick.IsNew) : tick.attempt? = none := by
  cases tick with
  | workflow desk turn phase =>
    cases phase with
    | waiting => rfl
    | _ => exact h.elim
  | transfer chains turn phase => rfl

theorem IsNew.reports {tick : Tick} (h : tick.IsNew) (read : Int → List Task → Prop) :
    tick.Reports read [] := by
  cases tick with
  | workflow desk turn phase =>
    cases phase with
    | waiting => rfl
    | _ => exact h.elim
  | transfer chains turn phase => rfl

variable {fresh : Queue → Except AssignError UInt64} {s next : Store} {tick tick' : Tick}
  {events : List Event} {read read' : Int → List Task → Prop} {made : List StageAlert}

theorem Reports.mono (hread : ∀ id tasks, read id tasks → read' id tasks)
    (h : tick.Reports read made) : tick.Reports read' made := by
  cases tick with
  | workflow desk turn phase => exact WorkflowTick.Phase.Reports.mono hread h
  | transfer chains turn phase => exact h

theorem Advances.reports (h : Advances fresh s tick (next, tick', events))
    (hread : ∀ copy tasks, tick.copy? = some copy → copy.state = .claimLp →
      s.findTasks (.workflow copy.id) .claimFromVault = .ok tasks → read copy.id tasks)
    (hreports : tick.Reports read made) : tick'.Reports read (made ++ tick.attempt?.toList) := by
  cases h with
  | workflow h =>
    refine h.reports (GasAssigner.keepsDrafts_continuing fresh) ?_ hreports
    rintro lease w tasks rfl
    exact hread w tasks rfl
  | transfer h => exact (List.append_nil made).trans hreports

theorem Advances.announces (h : Advances fresh s tick (next, tick', events))
    (hreports : tick.Reports read made) {alert : StageAlert}
    (halert : tick'.attempt? = some alert) :
    tick.attempt? = none ∧ WorkflowTick.Announces read s next alert := by
  cases h with
  | workflow h => exact WorkflowTick.Advances.announces h hreports halert
  | transfer h => exact absurd halert nofun

/-- What can be seen of a phase is its report, or lines in the log. -/
theorem Advances.publishes (h : Advances fresh s tick (next, tick', events)) :
    (∀ alert, tick.attempt? = some alert → ∃ desk turn phase, tick = .workflow desk turn phase
      ∧ events = alert.publish desk.notifier desk.recipients)
    ∧ (tick.attempt? = none → ∀ event ∈ events, event.IsLogged) := by
  cases h with
  | @workflow desk turn phase _ _ _ h =>
    obtain ⟨hsome, hnone⟩ := h.publishes
    exact ⟨fun alert halert => ⟨desk, turn, phase, rfl, hsome alert halert⟩, hnone⟩
  | transfer h => exact ⟨nofun, fun _ => h.isLogged⟩

end Tick

namespace World

/-! ## Attempts -/

theorem length_ticks_after (w : World) (move : Move) :
    w.ticks.length ≤ (w.after move).ticks.length := by
  cases w.proceeds_after move with
  | joins new _ _ hticks _ => simp [hticks]
  | advances n ago old new events _ _ _ hticks _ => simp [hticks]

theorem events_prefix_after (w : World) (move : Move) : w.events <+: (w.after move).events := by
  cases w.proceeds_after move with
  | joins new _ _ _ hevents => exact hevents ▸ List.prefix_rfl
  | advances n ago old new events _ _ _ _ hevents =>
    rw [hevents]
    exact List.prefix_append _ _

/-- What could be seen once does not go away. -/
theorem events_prefix_run (w : World) (moves : List Move) : w.events <+: (w.run moves).events := by
  induction moves generalizing w with
  | nil => exact List.prefix_rfl
  | cons move moves ih => exact (w.events_prefix_after move).trans (ih (w.after move))

/-- The report that is handed over in a move, with the number of the tick that does. -/
def attempt? (w : World) : Move → Option (Nat × StageAlert)
  | .advance n _ => (w.ticks[n]?.bind Tick.attempt?).map (n, ·)
  | _ => none

/-- The reports that are handed over in a run, in their order. -/
def attempts (w : World) : List Move → List (Nat × StageAlert)
  | [] => []
  | move :: moves => (w.attempt? move).toList ++ (w.after move).attempts moves

/-- The reports that the `n`-th tick hands over in a run. -/
def attemptsOf (w : World) (moves : List Move) (n : Nat) : List StageAlert :=
  ((w.attempts moves).filter (·.1 = n)).map (·.2)

theorem attempt?_of_none {w : World} {move : Move}
    (h : ∀ n ago, move = .advance n ago → w.ticks[n]? = none) : w.attempt? move = none := by
  cases move with
  | advance n ago =>
    unfold attempt?
    dsimp only
    rw [h n ago rfl]
    rfl
  | _ => rfl

theorem attempt?_of_some {w : World} {n : Nat} {tick : Tick} (h : w.ticks[n]? = some tick)
    (ago : Queue → Nat) : w.attempt? (.advance n ago) = tick.attempt?.map (n, ·) := by
  unfold attempt?
  dsimp only
  rw [h, Option.bind_some]

theorem attempt?_mute (w : World) (move : Move) : w.mute.attempt? move.mute = w.attempt? move := by
  cases move with
  | advance n ago =>
    unfold attempt? mute Move.mute
    dsimp only
    rw [List.getElem?_map]
    cases w.ticks[n]? <;> simp
  | _ => rfl

theorem attempt?_eq_some {w : World} {move : Move} {n : Nat} {alert : StageAlert} :
    w.attempt? move = some (n, alert) ↔
      ∃ ago tick, move = .advance n ago ∧ w.ticks[n]? = some tick
        ∧ tick.attempt? = some alert := by
  constructor
  · intro h
    cases move with
    | advance m ago =>
      obtain ⟨alert', hbind, heq⟩ := Option.map_eq_some_iff.1 h
      cases heq
      obtain ⟨tick, htick, hattempt⟩ := Option.bind_eq_some_iff.1 hbind
      exact ⟨ago, tick, rfl, htick, hattempt⟩
    | _ => exact absurd h nofun
  · rintro ⟨ago, tick, rfl, htick, hattempt⟩
    rw [attempt?_of_some htick, hattempt]
    rfl

theorem attempts_mute {w w' : World} {moves moves' : List Move} (hw : w.mute = w'.mute)
    (hmoves : moves.map Move.mute = moves'.map Move.mute) :
    w.attempts moves = w'.attempts moves' := by
  induction moves generalizing w w' moves' with
  | nil =>
    obtain rfl := List.map_eq_nil_iff.1 hmoves.symm
    rfl
  | cons move moves ih =>
    obtain ⟨move', rest, rfl, hmove, hrest⟩ := List.map_eq_cons_iff.1 hmoves.symm
    have hafter : (w.after move).mute = (w'.after move').mute := by
      rw [w.mute_after, w'.mute_after, hw, hmove]
    show _ ++ (w.after move).attempts moves = _ ++ (w'.after move').attempts rest
    rw [ih hafter hrest.symm, ← attempt?_mute w, ← attempt?_mute w', hw, hmove]

theorem attempts_concat (w : World) (moves : List Move) (move : Move) :
    w.attempts (moves ++ [move]) = w.attempts moves ++ ((w.run moves).attempt? move).toList := by
  induction moves generalizing w with
  | nil => exact List.append_nil _
  | cons first moves ih =>
    show (w.attempt? first).toList ++ (w.after first).attempts (moves ++ [move]) = _
    rw [ih]
    exact (List.append_assoc _ _ _).symm

theorem attemptsOf_concat (w : World) (moves : List Move) (move : Move) (n : Nat) :
    w.attemptsOf (moves ++ [move]) n =
      w.attemptsOf moves n
        ++ (((w.run moves).attempt? move).toList.filter (·.1 = n)).map (·.2) := by
  unfold attemptsOf
  rw [attempts_concat, List.filter_append, List.map_append]

theorem attemptsOf_concat_of_ne (w : World) (moves : List Move) {move : Move} {n : Nat}
    (h : ∀ ago, move = .advance n ago → (w.run moves).ticks[n]? = none) :
    w.attemptsOf (moves ++ [move]) n = w.attemptsOf moves n := by
  rw [attemptsOf_concat]
  cases move with
  | advance m ago =>
    by_cases hmn : m = n
    · subst hmn
      rw [attempt?_of_none (by rintro _ _ ⟨⟩; exact h ago rfl)]
      exact List.append_nil _
    · unfold attempt?
      dsimp only
      cases (w.run moves).ticks[m]?.bind Tick.attempt? <;> simp [hmn]
  | _ => exact List.append_nil _

theorem attemptsOf_concat_advance (w : World) (moves : List Move) {n : Nat} {tick : Tick}
    (ago : Queue → Nat) (h : (w.run moves).ticks[n]? = some tick) :
    w.attemptsOf (moves ++ [.advance n ago]) n = w.attemptsOf moves n ++ tick.attempt?.toList := by
  rw [attemptsOf_concat, attempt?_of_some h]
  cases tick.attempt? <;> simp

theorem attemptsOf_of_length_le (s : Store) (moves : List Move) {n : Nat}
    (h : ((start s).run moves).ticks.length ≤ n) : (start s).attemptsOf moves n = [] := by
  induction moves using List.reverseRecOn with
  | nil => rfl
  | append_singleton moves move ih =>
    rw [run_append] at h
    have hbefore := Nat.le_trans (length_ticks_after _ move) h
    rw [attemptsOf_concat_of_ne _ _ fun _ _ => List.getElem?_eq_none hbefore]
    exact ih hbefore

/-! ## Each tick -/

/-- Somebody has read these claims of a workflow at some time of a run, when it had left its first
state. -/
def HasRead (s : Store) (moves : List Move) (id : Int) (tasks : List Task) : Prop :=
  ∃ earlier, earlier <+: moves ∧ ((start s).run earlier).store.HasLeft id
    ∧ ((start s).run earlier).store.findTasks (.workflow id) .claimFromVault = .ok tasks

theorem HasRead.mono {s : Store} {moves later : List Move} (hpre : moves <+: later) (id : Int)
    (tasks : List Task) (h : HasRead s moves id tasks) : HasRead s later id tasks := by
  obtain ⟨earlier, hearlier, hfind⟩ := h
  exact ⟨earlier, hearlier.trans hpre, hfind⟩

/-- Whoever checks a workflow has found it in the stage. -/
theorem hasLeft_of_copy {s : Store} (hs : s.WorkflowRules) {moves : List Move} {tick : Tick}
    (htick : tick ∈ ((start s).run moves).ticks) {copy : Workflow}
    (hcopy : tick.copy? = some copy) (hstage : copy.state = .claimLp) :
    ((start s).run moves).store.HasLeft copy.id := by
  -- it was in the stage when the copy was loaded, and cannot have gone back since
  obtain ⟨earlier, later, rfl, hloads⟩ := copies_run s moves tick htick copy hcopy
  have hrules := rules_run (w := start s) hs earlier
  have hthen := hrules.workflowStates_eq hloads.mem_workflowStates
  obtain ⟨state, hnow, hmove⟩ := leads_run hrules hthen later
  rw [run_append]
  exact ⟨state, WorkflowState.ne_init_of_canMoveTo hmove (by rw [hstage]; decide), hnow⟩

/-- **What a tick has handed over is what it has to by the phase that it is in.** -/
theorem reports_run {s : Store} (hs : s.WorkflowRules) (moves : List Move) :
    ∀ (n : Nat) (tick : Tick),
    ((start s).run moves).ticks[n]? = some tick →
    tick.Reports (HasRead s moves) ((start s).attemptsOf moves n) := by
  induction moves using List.reverseRecOn with
  | nil => exact fun n tick h => absurd h nofun
  | append_singleton moves move ih =>
    intro n tick htick
    rw [run_append] at htick
    cases ((start s).run moves).comes_after move htick with
    | stays hstays hmove =>
      rw [attemptsOf_concat_of_ne _ _ fun ago he => absurd he (hmove ago)]
      exact (ih n tick hstays).mono (HasRead.mono (List.prefix_append _ _))
    | starts hlength hnew =>
      -- the number has not been given to a tick before, so nothing was handed over under it
      have hnone := List.getElem?_eq_none hlength
      rw [attemptsOf_concat_of_ne _ _ fun _ _ => hnone, attemptsOf_of_length_le s moves hlength]
      exact hnew.reports _
    | advances ago old events hmove hn hadvances =>
      subst hmove
      rw [attemptsOf_concat_advance _ _ _ hn]
      refine (hadvances.reports ?_ (ih n old hn)).mono (HasRead.mono (List.prefix_append _ _))
      intro copy tasks hcopy hstage hfind
      exact ⟨moves, List.prefix_rfl, hasLeft_of_copy hs (List.mem_of_getElem? hn) hcopy hstage,
        hfind⟩

/-- **A tick that has a report to hand over has carried out the transaction that it is about.** -/
theorem announced_run {s : Store} (hs : s.WorkflowRules) (moves : List Move) :
    ∀ (n : Nat) (tick : Tick) (alert : StageAlert), ((start s).run moves).ticks[n]? = some tick →
      tick.attempt? = some alert →
      ∃ earlier ago, earlier ++ [.advance n ago] <+: moves
        ∧ WorkflowTick.Announces (HasRead s earlier) ((start s).run earlier).store
          ((start s).run (earlier ++ [.advance n ago])).store alert := by
  induction moves using List.reverseRecOn with
  | nil => exact fun n tick alert h => absurd h nofun
  | append_singleton moves move ih =>
    intro n tick alert htick halert
    rw [run_append] at htick
    cases ((start s).run moves).comes_after move htick with
    | stays hstays _ =>
      obtain ⟨earlier, ago, hpre, hannounces⟩ := ih n tick alert hstays halert
      exact ⟨earlier, ago, hpre.trans (List.prefix_append _ _), hannounces⟩
    | starts _ hnew => exact absurd (hnew.attempt?.symm.trans halert) nofun
    | advances ago old events hmove hn hadvances =>
      -- a report comes to be due in the very phase that writes
      subst hmove
      refine ⟨moves, ago, List.prefix_rfl, ?_⟩
      rw [run_append]
      exact (hadvances.announces (reports_run hs moves n old hn) halert).2

/-! ## Once -/

theorem hasPassed_after {w : World} (hw : w.store.WorkflowRules) (move : Move) {id : Int}
    {stage : WorkflowState} (h : w.store.HasPassed id stage) :
    (w.after move).store.HasPassed id stage := by
  obtain ⟨state, hstate, hpassed⟩ := h
  -- if the stage could be entered from the state that it is in now, so it could from the one before
  obtain ⟨next, hnext, hmove⟩ := leads_after hw move hstate
  refine ⟨next, hnext, Bool.eq_false_iff.2 fun hback => ?_⟩
  rw [WorkflowState.canMoveTo_trans hmove hback] at hpassed
  exact absurd hpassed nofun

/-- How many reports of some kind have been handed over, or are about to be. -/
def told (s : Store) (moves : List Move) (p : StageAlert → Bool) : Nat :=
  ((start s).attempts moves).countP (fun made => p made.2)
    + ((start s).run moves).ticks.countP fun tick => tick.attempt?.any p

theorem told_concat (s : Store) (moves : List Move) (move : Move) (p : StageAlert → Bool) :
    told s (moves ++ [move]) p =
      ((start s).attempts moves).countP (fun made => p made.2)
        + (((start s).run moves).attempt? move).toList.countP (fun made => p made.2)
        + (((start s).run moves).after move).ticks.countP fun tick => tick.attempt?.any p := by
  unfold told
  rw [attempts_concat, List.countP_append, run_append]
  rfl

theorem told_advance {s : Store} {moves : List Move} {n : Nat} {ago : Queue → Nat}
    {old new : Tick} (hn : ((start s).run moves).ticks[n]? = some old)
    (hticks : (((start s).run moves).after (.advance n ago)).ticks =
      ((start s).run moves).ticks.set n new) (p : StageAlert → Bool) :
    told s (moves ++ [.advance n ago]) p =
      told s moves p + if new.attempt?.any p = true then 1 else 0 := by
  obtain ⟨hlt, hget⟩ := List.getElem?_eq_some_iff.1 hn
  have hmade : (((start s).run moves).attempt? (.advance n ago)).toList.countP
      (fun made => p made.2) = if old.attempt?.any p = true then 1 else 0 := by
    rw [attempt?_of_some hn]
    cases old.attempt? <;> simp [List.countP_cons]
  have hdue : old.attempt?.any p = true →
      0 < ((start s).run moves).ticks.countP fun tick => tick.attempt?.any p := fun h =>
    List.countP_pos_iff.2 ⟨old, List.mem_of_getElem? hn, h⟩
  -- a report that is handed over was due before and is not any more
  rw [told_concat, hmade, hticks, List.countP_set hlt, hget]
  unfold told
  split
  · rename_i h
    have := hdue h
    omega
  · omega

/--
**No move is reported twice.** Reports of a kind that are about leaving one stage are so few
because a workflow does not come back to it.
-/
theorem once_run {s : Store} (hs : s.WorkflowRules) (id : Int) (stage : WorkflowState)
    (p : StageAlert → Bool)
    (hp : ∀ read (s s' : Store) alert, s.WorkflowRules → WorkflowTick.Announces read s s' alert →
      p alert = true → s.workflowStates id = [stage.tag] ∧ s'.HasPassed id stage)
    (moves : List Move) :
    told s moves p ≤ 1
      ∧ (0 < told s moves p → ((start s).run moves).store.HasPassed id stage) := by
  induction moves using List.reverseRecOn with
  | nil => exact ⟨Nat.zero_le 1, fun h => absurd h (Nat.lt_irrefl 0)⟩
  | append_singleton moves move ih =>
    have hrules := rules_run (w := start s) hs moves
    have hkeep : told s (moves ++ [move]) p = told s moves p →
        told s (moves ++ [move]) p ≤ 1 ∧ (0 < told s (moves ++ [move]) p →
          ((start s).run (moves ++ [move])).store.HasPassed id stage) := by
      intro hsame
      rw [hsame, run_append]
      exact ⟨ih.1, fun hpos => hasPassed_after hrules move (ih.2 hpos)⟩
    cases ((start s).run moves).proceeds_after move with
    | joins new hnew hmove hticks _ =>
      have hnone : new.countP (fun tick => tick.attempt?.any p) = 0 :=
        List.countP_eq_zero.2 fun tick htick => by rw [(hnew tick htick).attempt?]; simp
      refine hkeep ?_
      rw [told_concat, attempt?_of_none hmove, hticks, List.countP_append, hnone]
      rfl
    | advances n ago old new events hmove hn hadvances hticks _ =>
      subst hmove
      have htold := told_advance hn hticks p
      by_cases hnew : new.attempt?.any p = true
      · rw [if_pos hnew] at htold
        obtain ⟨alert, halert, hkind⟩ := (Option.any_eq_true _ _).1 hnew
        -- the tick has just moved the workflow out of the stage, so nobody had before
        have hannounces := (hadvances.announces (reports_run hs moves n old hn) halert).2
        obtain ⟨hstage, hpassed⟩ := hp _ _ _ _ hrules hannounces hkind
        have hzero : told s moves p = 0 := by
          by_contra hpos
          obtain ⟨state, hstate, hgone⟩ := ih.2 (Nat.pos_of_ne_zero hpos)
          obtain rfl := WorkflowState.tag_inj.1 (List.singleton_inj.1 (hstate.symm.trans hstage))
          rw [state.canMoveTo_refl] at hgone
          exact absurd hgone nofun
        rw [htold, hzero, run_append]
        exact ⟨Nat.le_refl 1, fun _ => hpassed⟩
      · rw [if_neg hnew, Nat.add_zero] at htold
        exact hkeep htold

theorem created_once {s : Store} (hs : s.WorkflowRules) (moves : List Move) (id : Int) :
    ((start s).attempts moves).countP (fun made => made.2.isAbout id [Claim.createdReport]) ≤ 1 := by
  have honce := once_run hs id .init (·.isAbout id [Claim.createdReport]) ?_ moves
  · exact Nat.le_trans (Nat.le_add_right _ _) honce.1
  · intro read before next alert hrules hannounces hkind
    obtain ⟨rfl, hstage⟩ := of_decide_eq_true hkind
    rcases hannounces.moves hrules with
      ⟨-, hbefore, hafter⟩ | ⟨hother, -⟩ | ⟨hother, -⟩
    · exact ⟨hbefore, .claimLp, hafter, by decide⟩
    · exact absurd (hother ▸ hstage) (by decide)
    · exact absurd (hother ▸ hstage) (by decide)

theorem settled_once {s : Store} (hs : s.WorkflowRules) (moves : List Move) (id : Int) :
    ((start s).attempts moves).countP
      (fun made => made.2.isAbout id [Claim.succeededReport, Claim.failedReport]) ≤ 1 := by
  have honce := once_run hs id .claimLp
    (·.isAbout id [Claim.succeededReport, Claim.failedReport]) ?_ moves
  · exact Nat.le_trans (Nat.le_add_right _ _) honce.1
  · intro read before next alert hrules hannounces hkind
    obtain ⟨rfl, hstage⟩ := of_decide_eq_true hkind
    rcases hannounces.moves hrules with
      ⟨hother, -⟩ | ⟨-, hbefore, hafter⟩ | ⟨-, hbefore, hafter⟩
    · exact absurd (hother ▸ hstage) (by decide)
    · exact ⟨hbefore, .marginBalanceTransferOut, hafter, by decide⟩
    · exact ⟨hbefore, .failed, hafter, by decide⟩

/-! ## Contents -/

/-- **Whoever has read the claims of a workflow that has left its first state has read all that it
ever has, in the order of their numbers.** -/
theorem HasRead.ids {s : Store} (hs : s.Sound) (hnumbered : s.tasks.Numbered TaskRow.id)
    {moves : List Move} {id : Int} {tasks : List Task} (h : HasRead s moves id tasks) :
    tasks.map (·.id) = ((start s).run moves).store.claimIds id
      ∧ (tasks.map (·.id)).Pairwise (· < ·) := by
  -- no claims are made of a workflow that has left its first state
  obtain ⟨earlier, ⟨later, rfl⟩, ⟨state, hleft, hstate⟩, hfind⟩ := h
  have hclaims : ClaimInv (start s) := ⟨hs, fun tick htick => absurd htick List.not_mem_nil⟩
  have hids := Store.map_id_of_findTasks hfind
  refine ⟨?_, ?_⟩
  · rw [run_append, claimIds_run_of_left (claimInv_run hclaims earlier) hleft hstate]
    exact hids
  · rw [hids, List.pairwise_map]
    have hordered := ((start s).keepsOrder_run earlier).tasks hnumbered
    exact hordered.increasing.sublist List.filter_sublist

/-! ## What operators are told -/

/-- The message of a report that is due calls upon people if it is about a failure, and upon nobody
otherwise. -/
theorem delivery_of_announces {read : Int → List Task → Prop} {s s' : Store} {alert : StageAlert}
    (h : WorkflowTick.Announces read s s' alert) (recipients : List String) :
    alert.delivery recipients =
      if alert.report.stage = Claim.failedReport then
        ⟨.alert, claimChannel, alert.report.render, recipients⟩
      else ⟨.notify, claimChannel, alert.report.render, []⟩ := by
  cases h with
  | created => exact (if_neg (by decide : Claim.createdReport ≠ Claim.failedReport)).symm
  | succeeded => exact (if_neg (by decide : Claim.succeededReport ≠ Claim.failedReport)).symm
  | failed => exact (if_pos rfl).symm

/-- What operators are told in a run that starts from a store. -/
structure Told (s : Store) (moves : List Move) : Prop where
  /-- They are told of a workflow once at most that its claims have been made, and once that those
  have settled. -/
  once : ∀ id,
    ((start s).attempts moves).countP (fun made => made.2.isAbout id [Claim.createdReport]) ≤ 1
      ∧ ((start s).attempts moves).countP
        (fun made => made.2.isAbout id [Claim.succeededReport, Claim.failedReport]) ≤ 1
  /-- Whoever hands a report over has stored what it is about before. -/
  follows : ∀ move n alert, ((start s).run moves).attempt? move = some (n, alert) →
    ∃ earlier ago, earlier ++ [.advance n ago] <+: moves
      ∧ WorkflowTick.Announces (HasRead s earlier) ((start s).run earlier).store
        ((start s).run (earlier ++ [.advance n ago])).store alert
  /-- What somebody has read of a workflow that has claims is all of them, in order. -/
  complete : ∀ id tasks, HasRead s moves id tasks →
    tasks.map (·.id) = ((start s).run moves).store.claimIds id
      ∧ (tasks.map (·.id)).Pairwise (· < ·)
  /-- A report reaches the notifier of the desk of its tick as one message, which calls upon the people
  named there if claims have failed. Nothing else can be seen of the move. -/
  handed : ∀ move n alert, ((start s).run moves).attempt? move = some (n, alert) →
    ∃ desk turn phase shown, ((start s).run moves).ticks[n]? = some (.workflow desk turn phase)
      ∧ ((start s).run (moves ++ [move])).events = ((start s).run moves).events ++ shown
      ∧ desk.notifier.Shows
        (if alert.report.stage = Claim.failedReport then
          ⟨.alert, claimChannel, alert.report.render, desk.recipients⟩
        else ⟨.notify, claimChannel, alert.report.render, []⟩) shown
  /-- Nothing else is handed over. -/
  quiet : ∀ move, ((start s).run moves).attempt? move = none →
    ∃ lines, (∀ event ∈ lines, event.IsLogged)
      ∧ ((start s).run (moves ++ [move])).events = ((start s).run moves).events ++ lines
  /-- A tick that is through has handed over the one report that its result calls for, or none. -/
  results : ∀ (n : Nat) desk turn result,
    ((start s).run moves).ticks[n]? = some (.workflow desk turn (.done result)) →
    WorkflowTick.Reported result ((start s).attemptsOf moves n)
  /-- With other notifiers the same is stored, the same comes of all ticks, and the same reports are
  handed over. -/
  indifferent : ∀ moves', moves'.map Move.mute = moves.map Move.mute →
    ((start s).run moves').mute = ((start s).run moves).mute
      ∧ (start s).attempts moves' = (start s).attempts moves

/--
**Reports follow what they report, once each.**

From any store that keeps the rules of its tables, in whatever order things happen, with ticks as
slow as they may be, and whatever becomes of the messages.
-/
theorem told_run (s : Store) (hrules : s.WorkflowRules) (hsound : s.Sound)
    (hnumbered : s.tasks.Numbered TaskRow.id) (moves : List Move) : Told s moves where
  once := fun id => ⟨created_once hrules moves id, settled_once hrules moves id⟩
  follows := by
    intro move n alert hattempt
    obtain ⟨ago, tick, rfl, hn, htick⟩ := attempt?_eq_some.1 hattempt
    exact announced_run hrules moves n tick alert hn htick
  complete := fun _ _ => HasRead.ids hsound hnumbered
  handed := by
    intro move n alert hattempt
    obtain ⟨ago, tick, rfl, hn, htick⟩ := attempt?_eq_some.1 hattempt
    obtain ⟨_, _, _, hannounces⟩ := announced_run hrules moves n tick alert hn htick
    rw [run_append]
    cases ((start s).run moves).proceeds_after (.advance n ago) with
    | joins new _ hmove _ _ => exact absurd ((hmove n ago rfl).symm.trans hn) nofun
    | advances m ago old new events hmove hm hadvances _ hevents =>
      cases hmove
      obtain rfl := Option.some.inj (hm.symm.trans hn)
      obtain ⟨desk, turn, phase, rfl, hpublish⟩ := hadvances.publishes.1 alert htick
      refine ⟨desk, turn, phase, events, hn, hevents, ?_⟩
      rw [hpublish, ← delivery_of_announces hannounces desk.recipients]
      exact alert.shows_publish desk.notifier desk.recipients
  quiet := by
    intro move hattempt
    rw [run_append]
    cases ((start s).run moves).proceeds_after move with
    | joins new _ _ _ hevents =>
      exact ⟨[], Event.isLogged_nil, hevents.trans (List.append_nil _).symm⟩
    | advances n ago old new events hmove hn hadvances _ hevents =>
      subst hmove
      rw [attempt?_of_some hn, Option.map_eq_none_iff] at hattempt
      exact ⟨events, hadvances.publishes.2 hattempt, hevents⟩
  results := fun n _ _ _ hn => reports_run hrules moves n _ hn
  indifferent := fun _ hmoves => ⟨mute_run rfl hmoves, attempts_mute rfl hmoves⟩

/-- Two ticks find that a claim has failed; only the one that comes first tells of it. Its message
reaches the people that it is for, although they refuse it. -/
theorem told_run_twoVerdicts :
    let w : Workflow := ⟨1, .claimLp, ⟨"ops", none⟩, "", ""⟩
    let row : TaskRow :=
      { id := 1, ownerKind := (TaskOwner.workflow 1).kind, ownerId := .int 1
        type := TransactionType.claimFromVault.tag, chainId := .int 56, chainName := "bsc"
        sender := "0x" ++ String.join (List.replicate 20 "01")
        receiver := "0x" ++ String.join (List.replicate 20 "02")
        nonce := .int 0, gasPrice := "1", gasLimit := .int 1, inputData := "0x", params := "1"
        state := TransactionState.failed.tag, message := "reverted", hash := none }
    let s : Store := { Store.empty with
      workflows := ⟨[{ WorkflowRow.opened w.params 1 with state := w.state.tag }], 1⟩
      tasks := ⟨[row], 1⟩ }
    let desk : Desk := { Claim.oneClaimDesk with notifier := .direct true, recipients := ["ops"] }
    let moves : List Move :=
      [.startWorkflowTick desk ⟨1, "a"⟩] ++ List.replicate 3 (.advance 0 fun _ => 0)
        ++ [.startWorkflowTick desk ⟨400, "b"⟩] ++ List.replicate 6 (.advance 1 fun _ => 0)
        ++ List.replicate 3 (.advance 0 fun _ => 0)
    Told s moves
      ∧ ((start s).attempts moves).map (fun made => (made.1, made.2.report.stage)) =
        [(1, Claim.failedReport)]
      ∧ ∃ report : StageReport, report.stage = Claim.failedReport
        ∧ ((start s).run moves).events.filterMap Event.delivery? =
          [⟨.alert, claimChannel, report.render, ["ops"]⟩] := by
  intro w row s desk moves
  have hrules : s.WorkflowRules := by
    refine ⟨by decide, by decide, fun row hrow => WorkflowRow.check_eq_ok.2 ?_⟩
    rw [List.mem_singleton.mp hrow]
    exact ⟨.claimLp, rfl⟩
  have hsound : s.Sound := by
    refine ⟨fun id => hrules.unused, hrules.single, fun id hid => ?_⟩
    by_cases hone : 1 = id
    · subst hone
      exact absurd hid (by decide)
    · simp [Store.claimIds, Store.taskRows, s, row, hone, TaskOwner.id]
  have hnumbered : s.tasks.Numbered TaskRow.id := ⟨List.pairwise_singleton _ _, by decide⟩
  refine ⟨told_run s hrules hsound hnumbered moves, by decide +kernel, ?_⟩
  -- the second tick has its report to hand over when it has carried out four phases
  let earlier := moves.take 9
  have hattempt : (((start s).run earlier).attempt? (.advance 1 fun _ => 0)).map
      (fun made => (made.1, made.2.report.stage)) = some (1, Claim.failedReport) := by
    decide +kernel
  obtain ⟨⟨n, alert⟩, hattempt, hmade⟩ := Option.map_eq_some_iff.1 hattempt
  obtain ⟨rfl, hstage⟩ := Prod.mk.inj hmade
  obtain ⟨desk', turn, phase, shown, htick, hevents, hshows⟩ :=
    (told_run s hrules hsound hnumbered earlier).handed _ _ _ hattempt
  have hdesk : ((start s).run earlier).ticks[1]?.map Tick.audience =
      some (.direct true, ["ops"]) := by
    decide +kernel
  rw [htick] at hdesk
  obtain ⟨hnotifier, hrecipients⟩ := Prod.mk.inj (Option.some.inj hdesk)
  rw [if_pos hstage, hnotifier, hrecipients] at hshows
  refine ⟨alert.report, hstage, ?_⟩
  have hsent : ⟨.alert, claimChannel, alert.report.render, ["ops"]⟩ ∈
      ((start s).run moves).events.filterMap Event.delivery? := by
    have hmoves : moves = earlier ++ [.advance 1 fun _ => 0] ++ moves.drop 10 := rfl
    have hmem : .sent ⟨.alert, claimChannel, alert.report.render, ["ops"]⟩ ∈
        ((start s).run (earlier ++ [.advance 1 fun _ => 0])).events := by
      rw [hevents]
      cases hshows
      exact List.mem_append_right _ List.mem_cons_self
    rw [hmoves, run_append]
    exact List.mem_filterMap.2 ⟨_, (events_prefix_run _ _).subset hmem, rfl⟩
  have honce : (((start s).run moves).events.filterMap Event.delivery?).length = 1 := by
    decide +kernel
  obtain ⟨delivery, hdelivery⟩ := List.length_eq_one_iff.1 honce
  rw [hdelivery] at hsent ⊢
  rw [List.mem_singleton.1 hsent]

end World

end Treasury
