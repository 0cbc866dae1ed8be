import Treasury.Proofs.Store.OpenTransfers
import Treasury.Proofs.World.Submission

/-!
# First come, first served

A tick may be slow: between its finding a task and its submitting it, others may have filed more
tasks, or submitted and settled this one. That does not let a task overtake another. The task was at
the front when the tick found it, and there a task stays (`Refiles.atFront`), so whatever the tick
writes later keeps the turns (`inTurn_after`).

Settled tasks are out of everybody's reach, at any time and for any copy (`settled_run`).
-/

namespace Treasury

/-! ## Settled tasks and the front -/

/-- The row is the only one of its number, and nobody can update it, also not together with writes
to other tables. -/
structure Store.Keeps (s : Store) (row : TransferRow) : Prop where
  only : s.transfers.rows.filter (fun other => other.id = row.id) = [row]
  refuses : ∀ saved : Store, saved.transfers = s.transfers →
    ∀ (expected : TransferState) (copy : TransferTask), copy.id = row.id →
    ∃ cause, saved.updateTransfer expected copy = .error cause

theorem Store.keeps_of_isSettled {s : Store} (hs : s.TransferRules) {row : TransferRow}
    (hrow : row ∈ s.transfers.rows) (hsettled : row.IsSettled) : s.Keeps row where
  only := by
    rcases filter_number hs.numbered.nodup row.id with hnone | ⟨other, hother, hid, honly⟩
    · exact absurd (decide_eq_true rfl) (List.filter_eq_nil_iff.1 hnone row hrow)
    · rw [honly, List.inj_on_of_nodup_map hs.numbered.nodup hother hrow hid]
  refuses saved hsaved expected _ hid :=
    updateTransfer_of_isSettled (hs.congr hsaved) (hsaved ▸ hrow) hsettled expected hid

namespace Store.Refiles

/-- **No move writes a settled task.** -/
theorem mem_of_isSettled {s next : Store} (h : s.Refiles next) {row : TransferRow}
    (hrow : row ∈ s.transfers.rows) (hsettled : row.IsSettled) : row ∈ next.transfers.rows := by
  cases h with
  | rest h => exact h ▸ hrow
  | opened h => exact mem_insertTransfer h hrow
  | updated hsaved hu => exact mem_updateTransfer hu (hsaved ▸ hrow) hsettled

/-- **A task stays at the front.** -/
theorem atFront {s next : Store} (h : s.Refiles next) {id : Int} (hfront : s.AtFront id) :
    next.AtFront id := by
  cases h with
  | rest h => exact hfront.congr h
  | opened h => exact hfront.insertTransfer h
  | updated hsaved hu => exact (hfront.congr hsaved).updateTransfer hu

end Store.Refiles

/-! ## What a tick knows -/

/-- The task that a tick works on is at the front. -/
def Tick.Leads (s : Store) (tick : Tick) : Prop :=
  ∀ t, tick.task? = some t → s.AtFront t.id

theorem Tick.leads_of_none {s : Store} {tick : Tick} (h : tick.task? = none) : tick.Leads s := by
  intro t htask
  rw [h] at htask
  exact absurd htask nofun

/-- A tick finds its task at the front. -/
theorem Tick.Advances.leads {fresh : Queue → Except AssignError UInt64} {s next : Store}
    {tick tick' : Tick} {events : List Event} (h : Advances fresh s tick (next, tick', events))
    (hs : s.TransferRules) (htick : tick.Leads s) : tick'.Leads s := by
  cases h with
  | workflow h => exact leads_of_none rfl
  | transfer h =>
    cases h with
    | submit lease t rest events hopen =>
      rintro _ ⟨⟩
      exact Store.atFront_of_findOpenTransfers hs hopen
    | poll lease t rest events hopen =>
      rintro _ ⟨⟩
      exact Store.atFront_of_findOpenTransfers hs hopen
    | prepare lease t batch => exact htick
    | tally lease t tasks => exact htick
    | _ => exact leads_of_none rfl

/-! ## What a move does -/

/-- Only ticks take a task out of its first state. -/
def Move.AwaitsTurn : Move → Prop
  | .updateTransfer expected copy => expected = .init → copy.state = .init
  | _ => True

instance : DecidablePred Move.AwaitsTurn := fun move =>
  match move with
  | .updateTransfer expected copy =>
    inferInstanceAs (Decidable (expected = .init → copy.state = .init))
  | .openWorkflow _ | .updateWorkflow _ _ | .createTransfer _ _ _ | .setTask _ _ _ _
  | .startWorkflowTick _ _ | .startTransferTick _ _ | .advance _ _ =>
    inferInstanceAs (Decidable True)

namespace World

/-- The tasks are in turn, and each tick works on the task at the front. -/
structure TurnInv (w : World) : Prop where
  rules : w.store.TransferRules
  inTurn : w.store.InTurn
  leads : ∀ tick ∈ w.ticks, tick.Leads w.store

theorem turnInv_start : TurnInv (start .empty) where
  rules := Store.transferRules_empty
  inTurn := Store.inTurn_empty
  leads := by intro tick h; exact absurd h List.not_mem_nil

/-- **The tasks stay in turn**, whoever is the one to update a task. -/
theorem inTurn_after {w : World} (h : TurnInv w) {move : Move} (hmove : move.AwaitsTurn) :
    (w.after move).store.InTurn := by
  cases w.reworks_after move with
  | rest hsame => exact h.inTurn.congr hsame
  | opened hopened => exact h.inTurn.insertTransfer hopened
  | updated hupdates hsaved hu =>
    refine (h.inTurn.congr hsaved).updateTransfer hu fun hinit hleft => ?_
    cases hupdates with
    | client expected new => exact absurd (hmove hinit) hleft
    | @tick n _ tick copy _ hn htask hid =>
      rw [hid]
      exact (h.leads tick (List.mem_of_getElem? hn) copy htask).congr hsaved

/-- **However long ago a tick has found its task, that is still at the front.** -/
theorem leading_after {w : World} (h : TurnInv w) (move : Move) :
    ∀ tick ∈ (w.after move).ticks, tick.Leads (w.after move).store := by
  intro tick htick
  have hbefore : tick.Leads w.store := by
    cases w.arises_after move tick htick with
    | old hold => exact h.leads tick hold
    | newWorkflow desk turn => exact Tick.leads_of_none rfl
    | newTransfer chains turn => exact Tick.leads_of_none rfl
    | @advance old _ _ _ _ hold hadvances => exact hadvances.leads h.rules (h.leads old hold)
  exact fun t htask => (w.refiles_after move).atFront (hbefore t htask)

theorem turnInv_after {w : World} (h : TurnInv w) {move : Move} (hmove : move.AwaitsTurn) :
    TurnInv (w.after move) where
  rules := (w.refiles_after move).rules h.rules
  inTurn := inTurn_after h hmove
  leads := leading_after h move

theorem turnInv_run {w : World} (h : TurnInv w) {moves : List Move}
    (hmoves : ∀ move ∈ moves, move.AwaitsTurn) : TurnInv (w.run moves) := by
  induction moves generalizing w with
  | nil => exact h
  | cons move moves ih =>
    obtain ⟨hmove, hmoves⟩ := List.forall_mem_cons.1 hmoves
    exact ih (turnInv_after h hmove) hmoves

/-! ## All moves -/

/-- **What has settled is kept for good**, whatever anybody does. -/
theorem settled_run {w : World} (hs : w.store.TransferRules) {row : TransferRow}
    (hrow : row ∈ w.store.transfers.rows) (hsettled : row.IsSettled) (moves : List Move) :
    (w.run moves).store.Keeps row := by
  induction moves generalizing w with
  | nil => exact Store.keeps_of_isSettled hs hrow hsettled
  | cons move moves ih =>
    have hrefiles := w.refiles_after move
    exact ih (hrefiles.rules hs) (hrefiles.mem_of_isSettled hrow hsettled)

/-- How the transfer tasks stand after some moves. -/
structure FirstInFirstOut (w : World) : Prop where
  /-- When a task has left its first state, all tasks before it have settled. -/
  order : ∀ row ∈ w.store.transfers.rows, row.state ≠ TransferState.init.tag →
    ∀ earlier ∈ w.store.transfers.rows, earlier.id < row.id → earlier.IsSettled
  /-- So one task is ongoing at most. -/
  single : (w.store.transfers.rows.filter fun row =>
    row.state = TransferState.ongoing.tag).length ≤ 1
  /-- The row of a settled task stays as it is, whatever is done later. -/
  frozen : ∀ row ∈ w.store.transfers.rows, row.IsSettled → ∀ later : List Move,
    (w.run later).store.Keeps row

/--
**Transfer tasks are processed first in, first out, and settled ones are frozen.**

From an empty store on, with any number of tasks open at once and any number of ticks under way,
each on as old a find as may be, and with workflows and the pipeline going on beside them; as long
as it is left to ticks to take a task out of its first state. What has settled is not even reached
by those who do not keep to that.
-/
theorem firstInFirstOut_run (moves : List Move) (hmoves : ∀ move ∈ moves, move.AwaitsTurn) :
    FirstInFirstOut ((start .empty).run moves) := by
  have h := turnInv_run turnInv_start hmoves
  exact {
    order := fun row hrow hstate => (h.inTurn row hrow hstate).settled
    single := h.inTurn.length_ongoing_le_one h.rules
    frozen := fun row hrow hsettled => settled_run h.rules hrow hsettled }

/-- Two tasks without calls. A tick finds the first one, and is overtaken by three ticks: they
submit the task, find that it has succeeded, and submit the next one. Then it comes too late. -/
theorem firstInFirstOut_run_slowTick :
    let tick (now : Int) : Move := .startTransferTick Claim.oneClaimDesk.chains ⟨now, "a"⟩
    let phases (n count : Nat) : List Move := List.replicate count (.advance n fun _ => 0)
    let moves : List Move :=
      [.createTransfer 1 .outward ⟨[]⟩, .createTransfer 1 .inward ⟨[]⟩, tick 0, tick 600, tick 601,
          tick 602]
        ++ phases 0 3 ++ phases 1 5 ++ phases 2 5 ++ phases 3 5 ++ phases 0 2
    (∀ move ∈ moves, move.AwaitsTurn) ∧ FirstInFirstOut ((start .empty).run moves)
      ∧ ((start .empty).run moves).store.transfers.rows.map (·.state) = ["success", "ongoing"] := by
  intro tick phases moves
  have hmoves : ∀ move ∈ moves, move.AwaitsTurn := by decide
  exact ⟨hmoves, firstInFirstOut_run moves hmoves, by decide +kernel⟩

end World

end Treasury
