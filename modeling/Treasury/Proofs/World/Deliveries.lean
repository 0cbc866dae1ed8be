import Treasury.Proofs.World.Basic

/-!
# Deliveries decide nothing

A tick hands a report over and goes on, whatever becomes of it. So a run stays the same, up to what
can be seen of it, when other notifiers are put in the place of those that ticks have, which may
lose the reports that those deliver and deliver the ones that they lose (`mute_run`).
-/

namespace Treasury

/-- The desk with a notifier that loses nothing. -/
def Desk.mute (desk : Desk) : Desk := { desk with notifier := .log }

/-- The tick with such a notifier. -/
def Tick.mute : Tick → Tick
  | .workflow desk turn phase => .workflow desk.mute turn phase
  | .transfer chains turn phase => .transfer chains turn phase

def Move.mute : Move → Move
  | .startWorkflowTick desk turn => .startWorkflowTick desk.mute turn
  | move => move

/-- **A phase writes the same and leads to the same phase whatever the notifier.** -/
theorem WorkflowTick.step_mute (desk : Desk) (turn : Turn) (s : Store) (phase : Phase) :
    (step desk.mute turn s phase).1 = (step desk turn s phase).1
      ∧ (step desk.mute turn s phase).2.1 = (step desk turn s phase).2.1 := by
  cases phase with
  | executing lease id inner => cases inner <;> exact ⟨rfl, rfl⟩
  | _ => exact ⟨rfl, rfl⟩

theorem Tick.step_mute (fresh : Queue → Except AssignError UInt64) (s : Store) (tick : Tick) :
    ∃ events, tick.mute.step fresh s =
      ((tick.step fresh s).1, (tick.step fresh s).2.1.mute, events) := by
  cases tick with
  | workflow desk turn phase =>
    obtain ⟨hstore, hphase⟩ :=
      WorkflowTick.step_mute { desk with gas := .continuing fresh } turn s phase
    exact ⟨_, Prod.ext hstore (Prod.ext (congrArg (Tick.workflow desk.mute turn) hphase) rfl)⟩
  | transfer chains turn phase => exact ⟨_, rfl⟩

@[simp]
theorem Tick.mute_mute (tick : Tick) : tick.mute.mute = tick.mute := by
  cases tick <;> rfl

@[simp]
theorem Tick.mute_comp_mute : Tick.mute ∘ Tick.mute = Tick.mute :=
  funext mute_mute

namespace World

/-- The world in which such notifiers are at work, and of which nothing can be seen. -/
def mute (w : World) : World := { w with ticks := w.ticks.map Tick.mute, events := [] }

theorem mute_become (w : World) (next : Store) : (w.become next).mute = (w.mute.become next).mute := by
  simp [mute, become]

theorem mute_join (w : World) (tick : Tick) : (w.join tick).mute = (w.mute.join tick.mute).mute := by
  simp [mute, join, become]

theorem mute_advance (w : World) (n : Nat) (ago : Queue → Nat) :
    (w.advance n ago).mute = (w.mute.advance n ago).mute := by
  have hticks : w.mute.ticks[n]? = w.ticks[n]?.map Tick.mute := List.getElem?_map
  cases hn : w.ticks[n]? with
  | none =>
    rw [hn] at hticks
    rw [advance_of_none hn, advance_of_none hticks]
    exact w.mute_become w.store
  | some tick =>
    rw [hn] at hticks
    obtain ⟨events, hstep⟩ :=
      tick.step_mute (fun queue => (w.storeAgo (ago queue)).freshNonce queue) w.store
    rcases hown : tick.step (fun queue => (w.storeAgo (ago queue)).freshNonce queue) w.store
      with ⟨next, tick', own⟩
    rw [hown] at hstep
    rw [advance_of_some hn ago hown, advance_of_some hticks ago hstep]
    simp [mute, become]

/-- **What a move does does not depend on notifiers.** -/
theorem mute_after (w : World) (move : Move) :
    (w.after move).mute = (w.mute.after move.mute).mute := by
  cases move with
  | startWorkflowTick desk turn => exact w.mute_join _
  | startTransferTick chains turn => exact w.mute_join _
  | advance n ago => exact w.mute_advance n ago
  | _ => exact w.mute_become _

/-- **What becomes of a world does not depend on what is delivered.** -/
theorem mute_run {w w' : World} {moves moves' : List Move} (hw : w.mute = w'.mute)
    (hmoves : moves.map Move.mute = moves'.map Move.mute) :
    (w.run moves).mute = (w'.run moves').mute := by
  induction moves generalizing w w' moves' with
  | nil =>
    obtain rfl := List.map_eq_nil_iff.1 hmoves.symm
    exact hw
  | cons move moves ih =>
    obtain ⟨move', rest, rfl, hmove, hrest⟩ := List.map_eq_cons_iff.1 hmoves.symm
    have hafter : (w.after move).mute = (w'.after move').mute := by
      rw [w.mute_after, w'.mute_after, hw, hmove]
    show ((w.after move).run moves).mute = ((w'.after move').run rest).mute
    exact ih hafter hrest.symm

end World

end Treasury
