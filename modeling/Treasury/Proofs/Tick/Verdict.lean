import Treasury.Proofs.Store.Settlement
import Treasury.Proofs.Store.Submission

/-!
# What the tally of a batch says

Both kinds of tick tally the transactions of the record that they poll. One asks first whether all
have succeeded, the other whether one has failed; but no transaction has settled twice
(`Progress.settled_le_all`), so both questions never have the answer yes at once, and the order
does not matter (`Progress.Decides`). What is tallied are the words in the rows, whatever else they
say, as long as they can be read (`Store.ofTasks_eq_tally`).
-/

namespace Treasury

/-! ## Tallies -/

namespace Progress

/-- **No transaction has both succeeded and failed.** -/
theorem settled_le_all (states : List TransactionState) :
    (ofStates states).success + (ofStates states).failed ≤ (ofStates states).all := by
  induction states with
  | nil => exact Nat.le_refl _
  | cons state rest ih =>
    unfold ofStates at ih ⊢
    dsimp only at ih ⊢
    rw [List.count_cons, List.count_cons, List.length_cons]
    cases state <;> simp <;> omega

/-- Those that are pending can be counted by subtraction. -/
theorem pending_add (tasks : List Task) :
    (ofTasks tasks).pending + (ofTasks tasks).success + (ofTasks tasks).failed =
      (ofTasks tasks).all := by
  have := settled_le_all (tasks.map (·.state))
  unfold pending ofTasks
  omega

/-- What becomes of a record is decided by the tally of its transactions. -/
structure Decides (p : Progress) (succeeded failed pending : Prop) : Prop where
  /-- All have succeeded; there may be none. -/
  succeeded : succeeded ↔ p.success = p.all
  failed : failed ↔ 0 < p.failed
  pending : pending ↔ p.success < p.all ∧ p.failed = 0

variable {α : Type} {a b c next : α} {p : Progress}

/-- Success is asked for first. -/
theorem decides_of_succeededFirst (hp : p.success + p.failed ≤ p.all) (hab : a ≠ b) (hac : a ≠ c)
    (hbc : b ≠ c) (h : next = if p.allSucceeded then a else if p.hasFailures then b else c) :
    p.Decides (next = a) (next = b) (next = c) := by
  unfold allSucceeded hasFailures at h
  simp only [decide_eq_true_eq] at h
  subst h
  by_cases hall : p.success = p.all
  · rw [if_pos hall]
    exact ⟨by simp [hall], ⟨fun h => absurd h hab, by omega⟩, ⟨fun h => absurd h hac, by omega⟩⟩
  · rw [if_neg hall]
    by_cases hone : 0 < p.failed
    · rw [if_pos hone]
      exact ⟨⟨fun h => absurd h.symm hab, by omega⟩, by simp [hone],
        ⟨fun h => absurd h hbc, by omega⟩⟩
    · rw [if_neg hone]
      exact ⟨⟨fun h => absurd h.symm hac, by omega⟩, ⟨fun h => absurd h.symm hbc, by omega⟩,
        ⟨fun _ => by omega, fun _ => rfl⟩⟩

/-- **Failure may as well be asked for first.** -/
theorem ite_hasFailures_first (hp : p.success + p.failed ≤ p.all) :
    (if p.hasFailures then b else if p.allSucceeded then a else c) =
      if p.allSucceeded then a else if p.hasFailures then b else c := by
  unfold allSucceeded hasFailures
  simp only [decide_eq_true_eq]
  by_cases hone : 0 < p.failed
  · rw [if_pos hone, if_neg (by omega), if_pos hone]
  · rw [if_neg hone, if_neg hone]

end Progress

namespace Store

/-- The tally of the transactions of one type that belong to an owner, by the words in their
rows. -/
def tally (s : Store) (owner : TaskOwner) (type : TransactionType) : Progress where
  all := (s.taskRows owner type).length
  success := (s.taskRows owner type).countP (·.state = TransactionState.success.tag)
  failed := (s.taskRows owner type).countP (·.state = TransactionState.failed.tag)

theorem countP_state {tasks : List Task} {rows : List TaskRow}
    (h : tasks.map (·.state.tag) = rows.map (·.state)) (state : TransactionState) :
    (tasks.map (·.state)).count state = rows.countP (·.state = state.tag) := by
  have hrows : rows.countP (·.state = state.tag) = (rows.map (·.state)).countP (· = state.tag) := by
    rw [List.countP_map]
    rfl
  rw [hrows, ← h, List.count, List.countP_map, List.countP_map]
  refine List.countP_congr fun t _ => ?_
  simp [TransactionState.tag_inj]

/-- **Whoever tallies what was loaded tallies the rows.** -/
theorem ofTasks_eq_tally {s : Store} {owner : TaskOwner} {type : TransactionType}
    {tasks : List Task} (h : s.findTasks owner type = .ok tasks) :
    Progress.ofTasks tasks = s.tally owner type := by
  have hstates := states_of_findTasks h
  have hlength := congrArg List.length hstates
  rw [List.length_map, List.length_map] at hlength
  unfold Progress.ofTasks Progress.ofStates tally
  rw [countP_state hstates, countP_state hstates, List.length_map, hlength]

end Store

/-! ## Verdicts -/

theorem Claim.progress_verdict (w : Workflow) (tasks : List Task) :
    (verdict w tasks).progress = Progress.ofTasks tasks := by
  unfold verdict
  dsimp only
  split
  · rfl
  split
  · rfl
  split <;> rfl

/-- The verdict on a workflow in the stage. -/
theorem Claim.decides_verdict {w : Workflow} (hw : w.state = .claimLp) (tasks : List Task) :
    (Progress.ofTasks tasks).Decides ((verdict w tasks).nextState = .marginBalanceTransferOut)
      ((verdict w tasks).nextState = .failed) ((verdict w tasks).nextState = .claimLp) := by
  refine Progress.decides_of_succeededFirst (Progress.settled_le_all _) (by decide) (by decide)
    (by decide) ?_
  rw [nextState_verdict, hw]
  simp only [← Progress.allSucceeded_ofTasks, ← Progress.hasFailures_ofTasks]

/-- A workflow that stays in the stage keeps its message. -/
theorem Claim.message_verdict {w : Workflow} {tasks : List Task}
    (h : (verdict w tasks).nextState = .claimLp) : (verdict w tasks).message = none := by
  unfold verdict at h ⊢
  dsimp only at h ⊢
  split at h
  · exact absurd h (by simp)
  split at h
  · exact absurd h (by simp)
  split at h
  · exact absurd h (by simp)
  · rename_i hempty hall hone
    rw [if_neg hempty, if_neg hall, if_neg hone]

/-- The state of a task that has been submitted. -/
theorem TransferTask.decides_stateOf (tasks : List Task) :
    (Progress.ofTasks tasks).Decides (stateOf (Progress.ofTasks tasks) = .success)
      (stateOf (Progress.ofTasks tasks) = .failed)
      (stateOf (Progress.ofTasks tasks) = .ongoing) := by
  have hp := Progress.settled_le_all (tasks.map (·.state))
  exact Progress.decides_of_succeededFirst hp (by decide) (by decide) (by decide)
    (Progress.ite_hasFailures_first hp)

end Treasury
