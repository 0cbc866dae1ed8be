import Treasury.Proofs.Gas
import Treasury.Proofs.Store.Settlement
import Treasury.Proofs.Tick.Workflow

/-!
# What a workflow tick reports

A tick hands over a report in a phase of its own, after the one in which it has written what the
report is about. `Announces` says what that was, and what the report lists. `Phase.Reports` says
which reports a tick has handed over when it has come to a phase, and `Reported` which ones when it
is through: one for claims that were made or have settled, and none for anything else.
-/

namespace Treasury

/-! ## Verdicts -/

/-- **A verdict on claims that have all succeeded is reported for information, with all of them, and
one on claims of which some have failed is an alert, with those.** No other is reported. -/
theorem Claim.alert_verdict (w : Workflow) (tasks : List Task) :
    (verdict w tasks).alert =
      if tasks = [] then none
      else if ∀ t ∈ tasks, t.state = .success then
        some ⟨.notify, claimChannel, .ofWorkflow succeededReport w (tasks.map Task.prepared)⟩
      else if ∃ t ∈ tasks, t.state = .failed then
        some ⟨.alert, claimChannel, .ofWorkflow failedReport w
          ((tasks.filter (·.state = .failed)).map Task.prepared)⟩
      else none := by
  simp only [← Progress.allSucceeded_ofTasks, ← Progress.hasFailures_ofTasks]
  unfold verdict
  dsimp only
  by_cases hempty : tasks = []
  · rw [if_pos hempty, if_pos (List.isEmpty_iff.2 hempty)]
  · rw [if_neg hempty, if_neg fun h => hempty (List.isEmpty_iff.1 h)]
    split
    · rfl
    · split <;> rfl

namespace WorkflowTick

/-! ## Reports -/

/-- The report that is handed over in a phase. -/
def Phase.attempt? : Phase → Option StageAlert
  | .executing _ _ (.announcing alert _) => some alert
  | .announcing _ alert _ => alert
  | _ => none

/-- What has been stored by the transaction that a report is about. The verdicts rest on `tasks`
that have been read for the workflow. -/
inductive Announces (read : Int → List Task → Prop) (s s' : Store) : StageAlert → Prop where
  /-- Claims were stored with the move of their workflow: all of them are listed. -/
  | created {w : Workflow} {batch : List Prepared} :
    w.state = .init → batch ≠ [] → Claim.commit s w batch = .ok s' →
    Announces read s s'
      ⟨.notify, claimChannel, .ofWorkflow Claim.createdReport w batch⟩
  /-- It was stored that all claims have succeeded: all of them are listed. -/
  | succeeded {w : Workflow} {tasks : List Task} :
    w.state = .claimLp → read w.id tasks → tasks ≠ [] → (∀ t ∈ tasks, t.state = .success) →
    s.updateWorkflow .claimLp (settled w (Claim.verdict w tasks)) = .ok s' →
    Announces read s s'
      ⟨.notify, claimChannel, .ofWorkflow Claim.succeededReport w (tasks.map Task.prepared)⟩
  /-- It was stored that claims have failed: those are listed. -/
  | failed {w : Workflow} {tasks : List Task} :
    w.state = .claimLp → read w.id tasks → (∃ t ∈ tasks, t.state = .failed) →
    s.updateWorkflow .claimLp (settled w (Claim.verdict w tasks)) = .ok s' →
    Announces read s s'
      ⟨.alert, claimChannel, .ofWorkflow Claim.failedReport w
        ((tasks.filter (·.state = .failed)).map Task.prepared)⟩

theorem announces_of_verdict {read : Int → List Task → Prop} {s s' : Store} {w : Workflow}
    {tasks : List Task} {alert : StageAlert} (hw : w.state = .claimLp) (hread : read w.id tasks)
    (halert : (Claim.verdict w tasks).alert = some alert)
    (hu : s.updateWorkflow .claimLp (settled w (Claim.verdict w tasks)) = .ok s') :
    Announces read s s' alert := by
  rw [Claim.alert_verdict] at halert
  split at halert
  · exact absurd halert (by simp)
  · rename_i hsome
    split at halert
    · rename_i hall
      obtain rfl := Option.some.inj halert
      exact .succeeded hw hread hsome hall hu
    · split at halert
      · rename_i hone
        obtain rfl := Option.some.inj halert
        exact .failed hw hread hone hu
      · exact absurd halert (by simp)

/-- **A report is about a move of its workflow**: into the stage, or out of it. -/
theorem Announces.moves {read : Int → List Task → Prop} {s s' : Store} {alert : StageAlert}
    (h : Announces read s s' alert) (hs : s.WorkflowRules) :
    (alert.report.stage = Claim.createdReport
      ∧ s.workflowStates alert.report.workflowId = [WorkflowState.init.tag]
      ∧ s'.workflowStates alert.report.workflowId = [WorkflowState.claimLp.tag])
    ∨ (alert.report.stage = Claim.succeededReport
      ∧ s.workflowStates alert.report.workflowId = [WorkflowState.claimLp.tag]
      ∧ s'.workflowStates alert.report.workflowId = [WorkflowState.marginBalanceTransferOut.tag])
    ∨ (alert.report.stage = Claim.failedReport
      ∧ s.workflowStates alert.report.workflowId = [WorkflowState.claimLp.tag]
      ∧ s'.workflowStates alert.report.workflowId = [WorkflowState.failed.tag]) := by
  cases h with
  | @created w batch hinit _ hc =>
    obtain ⟨saved, ids, hsave, hu⟩ := Claim.commit_eq_ok.1 hc
    have hworkflows := (Store.saveTasks_frame hsave).1
    obtain ⟨-, hbefore, hafter, -⟩ := (hs.congr hworkflows).moves hu
    rw [Store.workflowStates_congr hworkflows, hinit] at hbefore
    exact .inl ⟨rfl, hbefore, hafter⟩
  | @succeeded w tasks _ _ _ hall hu =>
    obtain ⟨-, hbefore, hafter, -⟩ := hs.moves hu
    have hnext : (settled w (Claim.verdict w tasks)).state = .marginBalanceTransferOut :=
      (Claim.nextState_verdict w tasks).trans (if_pos hall)
    rw [hnext] at hafter
    exact .inr (.inl ⟨rfl, hbefore, hafter⟩)
  | @failed w tasks _ _ hone hu =>
    obtain ⟨-, hbefore, hafter, -⟩ := hs.moves hu
    have hnot : ¬∀ t ∈ tasks, t.state = .success := by
      intro hall
      obtain ⟨t, ht, hfailed⟩ := hone
      exact absurd ((hall t ht).symm.trans hfailed) (by decide)
    have hnext : (settled w (Claim.verdict w tasks)).state = .failed :=
      (Claim.nextState_verdict w tasks).trans ((if_neg hnot).trans (if_pos hone))
    rw [hnext] at hafter
    exact .inr (.inr ⟨rfl, hbefore, hafter⟩)

/-- What a tick with this result has reported: claims that it has made, or that have settled. -/
def Reported : TickResult → List StageAlert → Prop
  | .ok (.executed id (.advanced n)), made =>
    if 0 < n then
      ∃ alert, made = [alert] ∧ alert.report.stage = Claim.createdReport
        ∧ alert.report.workflowId = id ∧ alert.report.transactions.length = n
    else made = []
  | .ok (.polled id before after progress), made =>
    if before ≠ after ∧ 0 < progress.all then
      ∃ alert, made = [alert] ∧ alert.report.workflowId = id
        ∧ alert.report.stage =
          if after = .failed then Claim.failedReport else Claim.succeededReport
    else made = []
  | _, made => made = []

theorem reported_polled {id : Int} {before after : WorkflowState} {progress : Progress}
    {made : List StageAlert} :
    Reported (.ok (.polled id before after progress)) made ↔
      if before ≠ after ∧ 0 < progress.all then
        ∃ alert, made = [alert] ∧ alert.report.workflowId = id
          ∧ alert.report.stage =
            if after = .failed then Claim.failedReport else Claim.succeededReport
      else made = [] :=
  Iff.rfl

theorem reported_of_idles {result : TickResult} (h : Idles result) : Reported result [] := by
  cases result with
  | error cause => rfl
  | ok outcome =>
    cases outcome with
    | executed id outcome => exact h.elim
    | polled id before after progress => exact h.elim
    | _ => rfl

/-- A verdict is reported if it moves the workflow and there is anything to report. -/
theorem reported_verdict {w : Workflow} (hw : w.state = .claimLp) (tasks : List Task) :
    Reported (.ok (.polled w.id w.state (Claim.verdict w tasks).nextState
      (Claim.verdict w tasks).progress)) (Claim.verdict w tasks).alert.toList := by
  have hprogress : (Claim.verdict w tasks).progress = Progress.ofTasks tasks := by
    unfold Claim.verdict
    dsimp only
    repeat' split
    all_goals rfl
  have hall : (Progress.ofTasks tasks).all = tasks.length := List.length_map _
  rw [reported_polled, hprogress, hall, Claim.nextState_verdict, Claim.alert_verdict, hw]
  by_cases hempty : tasks = []
  · subst hempty
    simp
  · have hpos : 0 < tasks.length := List.length_pos_iff.2 hempty
    rw [if_neg hempty]
    by_cases hsucceeded : ∀ t ∈ tasks, t.state = .success
    · rw [if_pos hsucceeded, if_pos hsucceeded, if_pos ⟨by decide, hpos⟩]
      exact ⟨_, rfl, rfl, rfl⟩
    · rw [if_neg hsucceeded, if_neg hsucceeded]
      by_cases hfailed : ∃ t ∈ tasks, t.state = .failed
      · rw [if_pos hfailed, if_pos hfailed, if_pos ⟨by decide, hpos⟩]
        exact ⟨_, rfl, rfl, rfl⟩
      · rw [if_neg hfailed, if_neg hfailed, if_neg fun h => h.1 rfl]
        rfl

/-! ## Phases -/

/-- Which reports a tick has handed over when it has come to a phase, and what it works on. -/
def Phase.Reports (read : Int → List Task → Prop) (made : List StageAlert) : Phase → Prop
  | .executing _ id (.entering w) | .executing _ id (.drafted w _) =>
    made = [] ∧ w.id = id ∧ w.state = .init
  | .executing _ id (.prepared w batch) =>
    made = [] ∧ w.id = id ∧ w.state = .init ∧ batch ≠ []
  | .executing _ id (.announcing alert transactions) =>
    made = [] ∧ Reported (.ok (.executed id (.advanced transactions))) [alert]
  | .executing _ _ (.finished _) => False
  | .checking _ w => made = [] ∧ w.state = .claimLp
  | .judged _ w check =>
    made = [] ∧ w.state = .claimLp ∧ ∃ tasks, read w.id tasks ∧ check = Claim.verdict w tasks
  | .announcing _ alert outcome => made = [] ∧ Reported (.ok outcome) alert.toList
  | .releasing _ result | .done result => Reported result made
  | .waiting | .holding _ => made = []

variable {desk : Desk} {s next : Store} {phase phase' : Phase} {events : List Event}
  {read : Int → List Task → Prop} {made : List StageAlert}

theorem Phase.Reports.mono {read' : Int → List Task → Prop}
    (hread : ∀ id tasks, read id tasks → read' id tasks) (h : phase.Reports read made) :
    phase.Reports read' made := by
  cases phase with
  | executing lease id inner => cases inner <;> exact h
  | judged lease w check =>
    obtain ⟨hmade, hstage, tasks, hfound, hcheck⟩ := h
    exact ⟨hmade, hstage, tasks, hread _ _ hfound, hcheck⟩
  | _ => exact h

/-- A tick that has failed to enter the stage has reported nothing. -/
theorem Phase.Reports.nil_of_executing {lease : Lease} {id : Int} {inner : Claim.Phase}
    (h : Phase.Reports read made (.executing lease id inner)) : made = [] := by
  cases inner with
  | finished result => exact h.elim
  | _ => exact h.1

/-- **The reports of a tick are those that it has handed over.** -/
theorem Advances.reports (h : Advances desk s phase (next, phase', events))
    (hgas : desk.gas.KeepsDrafts)
    (hread : ∀ lease w tasks, phase = .checking lease w → w.state = .claimLp →
      s.findTasks (.workflow w.id) .claimFromVault = .ok tasks → read w.id tasks)
    (hreports : phase.Reports read made) : phase'.Reports read (made ++ phase.attempt?.toList) := by
  cases h with
  | acquire lease leases events _ => exact (List.append_nil made).trans hreports
  | leaseHeld leases events _ => exact (List.append_nil made).trans hreports
  | pass lease result events hidle _ =>
    obtain rfl := hreports
    exact reported_of_idles hidle
  | enter lease w rest events _ hinit _ =>
    exact ⟨(List.append_nil made).trans hreports, rfl, hinit⟩
  | check lease w rest events _ hstage _ => exact ⟨(List.append_nil made).trans hreports, hstage⟩
  | nothing lease id w snapshot _ _ => exact (List.append_nil made).trans hreports.1
  | draft lease id w snapshot drafts _ _ =>
    exact ⟨(List.append_nil made).trans hreports.1, hreports.2⟩
  | skip lease id w next _ => exact (List.append_nil made).trans hreports.1
  | prepare lease id w drafts batch hne hb =>
    refine ⟨(List.append_nil made).trans hreports.1, hreports.2.1, hreports.2.2, ?_⟩
    -- whoever prepares drafts, of which there are some, has something to write
    rintro rfl
    exact hne (hgas _ _ _ _ hb).symm
  | save lease id w batch next _ =>
    obtain ⟨rfl, rfl, -, hne⟩ := hreports
    refine ⟨rfl, ?_⟩
    unfold Reported
    dsimp only
    rw [if_pos (List.length_pos_iff.2 hne)]
    exact ⟨_, rfl, rfl, rfl, List.length_map _⟩
  | report lease id alert transactions =>
    obtain ⟨rfl, hreported⟩ := hreports
    exact hreported
  | fail lease id inner cause events hne _ =>
    obtain rfl := Phase.Reports.nil_of_executing hreports
    cases inner with
    | announcing alert transactions => exact absurd rfl (hne alert transactions)
    | _ => rfl
  | leave lease id outcome => exact hreports.elim
  | judge lease w check hcheck =>
    obtain ⟨rfl, hstage⟩ := hreports
    obtain ⟨tasks, hfind, rfl⟩ := map_eq_ok.1 hcheck
    exact ⟨rfl, hstage, tasks, hread _ _ _ rfl hstage hfind, rfl⟩
  | misread lease w cause => exact (List.append_nil made).trans hreports.1
  | settle lease w check next _ =>
    obtain ⟨rfl, hstage, tasks, -, rfl⟩ := hreports
    exact ⟨rfl, reported_verdict hstage tasks⟩
  | refuse lease w check cause => exact (List.append_nil made).trans hreports.1
  | announce lease alert outcome =>
    obtain ⟨rfl, hreported⟩ := hreports
    exact hreported
  | release lease result leases events _ => exact (List.append_nil made).symm ▸ hreports
  | rest result => exact (List.append_nil made).symm ▸ hreports

/-- **A report is due when what it is about has just been stored.** -/
theorem Advances.announces (h : Advances desk s phase (next, phase', events))
    (hreports : phase.Reports read made) {alert : StageAlert}
    (halert : phase'.attempt? = some alert) :
    phase.attempt? = none ∧ Announces read s next alert := by
  cases h with
  | save lease id w batch next hc =>
    obtain ⟨-, -, hinit, hne⟩ := hreports
    obtain rfl := Option.some.inj halert
    have hcreated : Announces read s next
        ⟨.notify, claimChannel, .ofWorkflow Claim.createdReport w batch⟩ := .created hinit hne hc
    exact ⟨rfl, hcreated⟩
  | settle lease w check next hu =>
    obtain ⟨-, hstage, tasks, hread, rfl⟩ := hreports
    rw [hstage] at hu
    exact ⟨rfl, announces_of_verdict hstage hread halert hu⟩
  | _ => exact absurd halert (by simp [Phase.attempt?])

/-- What can be seen of a phase is that it hands over its report, or lines in the log. -/
theorem Advances.publishes (h : Advances desk s phase (next, phase', events)) :
    (∀ alert, phase.attempt? = some alert →
      events = alert.publish desk.notifier desk.recipients)
    ∧ (phase.attempt? = none → ∀ event ∈ events, event.IsLogged) := by
  cases h with
  | report lease id alert transactions =>
    refine ⟨fun other hother => ?_, fun hnone => absurd hnone (by simp [Phase.attempt?])⟩
    rw [Option.some.inj hother]
  | announce lease alert outcome =>
    refine ⟨fun other hother => ?_, fun hnone => ?_⟩
    · have halert : alert = some other := hother
      rw [halert]
      rfl
    · have halert : alert = none := hnone
      rw [halert]
      exact Event.isLogged_nil
  | acquire lease leases events hevents => exact ⟨nofun, fun _ => hevents⟩
  | leaseHeld leases events hevents => exact ⟨nofun, fun _ => hevents⟩
  | pass lease result events _ hevents => exact ⟨nofun, fun _ => hevents⟩
  | enter lease w rest events _ _ hevents => exact ⟨nofun, fun _ => hevents⟩
  | check lease w rest events _ _ hevents => exact ⟨nofun, fun _ => hevents⟩
  | fail lease id inner cause events hne hevents =>
    refine ⟨fun alert halert => ?_, fun _ => hevents⟩
    cases inner with
    | announcing alert transactions => exact absurd rfl (hne alert transactions)
    | _ => exact absurd halert nofun
  | judge lease w check _ => exact ⟨nofun, fun _ => Claim.isLogged_verdictEvents check⟩
  | release lease result leases events hevents => exact ⟨nofun, fun _ => hevents⟩
  | _ => exact ⟨nofun, fun _ => Event.isLogged_nil⟩

end WorkflowTick

end Treasury
