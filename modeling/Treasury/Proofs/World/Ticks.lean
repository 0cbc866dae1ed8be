import Treasury.Proofs.World.Basic

/-!
# Ticks that nobody comes in between

A whole tick (`Store.workflowTick`, `Store.transferTick`) is a special case of what can happen
in a world: it is started, carries out all its phases one after another, and looks up its queues
where it stands. What holds of every world therefore holds of whole ticks, in whatever order.
-/

namespace Treasury

/-- What becomes of the store, and what can be seen, if nobody comes in between. -/
def Tick.finish (s : Store) : Tick → Store × List Event
  | .workflow desk turn phase =>
    let (next, _, events) := WorkflowTick.run { desk with gas := .sequential } turn s phase
    (next, events)
  | .transfer chains turn phase =>
    let (next, _, events) := TransferTick.run .sequential chains turn s phase
    (next, events)

/-- How many phases are still to come, at most. -/
def Tick.left : Tick → Nat
  | .workflow _ _ phase => phase.left
  | .transfer _ _ phase => phase.left

/-- It makes no difference whether queues are looked up before a phase or by it. -/
theorem WorkflowTick.step_sequential (desk : Desk) (turn : Turn) (s : Store) (phase : Phase) :
    step { desk with gas := .sequential } turn s phase =
      step { desk with gas := .continuing s.freshNonce } turn s phase := by
  cases phase with
  | executing lease id phase => cases phase <;> rfl
  | _ => rfl

theorem TransferTick.step_sequential (chains : Chains) (turn : Turn) (s : Store) (phase : Phase) :
    step .sequential chains turn s phase =
      step (.continuing s.freshNonce) chains turn s phase := by
  cases phase <;> rfl

/-- **A tick has nothing left to do, or carries out one phase and then the rest.** -/
theorem Tick.finish_cases (s : Store) (tick : Tick) :
    tick.finish s = (s, []) ∨ (tick.step s.freshNonce s).2.1.left < tick.left
      ∧ tick.finish s =
        (((tick.step s.freshNonce s).2.1.finish (tick.step s.freshNonce s).1).1,
          (tick.step s.freshNonce s).2.2
            ++ ((tick.step s.freshNonce s).2.1.finish (tick.step s.freshNonce s).1).2) := by
  cases tick with
  | workflow desk turn phase =>
    cases hresult : phase.result? with
    | some result =>
      left
      rw [finish, WorkflowTick.run_of_result hresult]
    | none =>
      right
      refine ⟨WorkflowTick.left_step_lt _ turn s phase hresult, ?_⟩
      rw [finish, WorkflowTick.run_of_step hresult, WorkflowTick.step_sequential]
      rfl
  | transfer chains turn phase =>
    cases hresult : phase.result? with
    | some result =>
      left
      rw [finish, TransferTick.run_of_result hresult]
    | none =>
      right
      refine ⟨TransferTick.left_step_lt _ chains turn s phase hresult, ?_⟩
      rw [finish, TransferTick.run_of_step hresult, TransferTick.step_sequential]
      rfl

namespace World

/-- A phase that looks up its queues where it stands. -/
theorem after_advance {w : World} {n : Nat} {tick : Tick} (h : w.ticks[n]? = some tick) :
    (w.after (.advance n fun _ => 0)).store = (tick.step w.store.freshNonce w.store).1
      ∧ (w.after (.advance n fun _ => 0)).ticks[n]? =
        some (tick.step w.store.freshNonce w.store).2.1
      ∧ (w.after (.advance n fun _ => 0)).events =
        w.events ++ (tick.step w.store.freshNonce w.store).2.2 := by
  obtain ⟨hlt, -⟩ := List.getElem?_eq_some_iff.1 h
  simp only [after, advance, h]
  exact ⟨rfl, List.getElem?_set_self hlt, rfl⟩

/-- A tick under way can be finished at once. -/
theorem exists_run_finish {w : World} {n : Nat} {tick : Tick} (h : w.ticks[n]? = some tick) :
    ∃ moves, (w.run moves).store = (tick.finish w.store).1
      ∧ (w.run moves).events = w.events ++ (tick.finish w.store).2 := by
  -- on the number of phases that are still to come
  induction hleft : tick.left using Nat.strongRecOn generalizing w tick with
  | ind left ih =>
    rcases tick.finish_cases w.store with hdone | ⟨hlt, hrest⟩
    · refine ⟨[], ?_, ?_⟩
      · rw [hdone]
        rfl
      · rw [hdone, List.append_nil]
        rfl
    · obtain ⟨hstore, htick, hevents⟩ := after_advance h
      obtain ⟨moves, hstore', hevents'⟩ := ih _ (hleft ▸ hlt) htick rfl
      refine ⟨.advance n (fun _ => 0) :: moves, ?_, ?_⟩
      · rw [hrest, ← hstore]
        exact hstore'
      · rw [hrest, ← List.append_assoc, ← hevents, ← hstore]
        exact hevents'

/-- **A whole workflow tick is something that can happen.** -/
theorem exists_run_workflowTick (w : World) (desk : Desk) (turn : Turn) :
    ∃ moves, (w.run moves).store =
        (w.store.workflowTick { desk with gas := .sequential } turn).1
      ∧ (w.run moves).events =
        w.events ++ (w.store.workflowTick { desk with gas := .sequential } turn).2.2 := by
  have hstart : (w.after (.startWorkflowTick desk turn)).ticks[w.ticks.length]? =
      some (.workflow desk turn .waiting) := List.getElem?_concat_length
  obtain ⟨moves, hstore, hevents⟩ := exists_run_finish hstart
  exact ⟨.startWorkflowTick desk turn :: moves, hstore, hevents⟩

/-- **So is a whole transfer tick.** -/
theorem exists_run_transferTick (w : World) (chains : Chains) (turn : Turn) :
    ∃ moves, (w.run moves).store = (w.store.transferTick .sequential chains turn).1
      ∧ (w.run moves).events =
        w.events ++ (w.store.transferTick .sequential chains turn).2.2 := by
  have hstart : (w.after (.startTransferTick chains turn)).ticks[w.ticks.length]? =
      some (.transfer chains turn .waiting) := List.getElem?_concat_length
  obtain ⟨moves, hstore, hevents⟩ := exists_run_finish hstart
  exact ⟨.startTransferTick chains turn :: moves, hstore, hevents⟩

end World

end Treasury
