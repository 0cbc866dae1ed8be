import Treasury.Tick.Transfer

/-!
# What ticks log

All that can be seen of most phases are lines in the log. Only a phase that hands over a report
shows anything else (`StageAlert.publish`).
-/

namespace Treasury

/-- A line in the log, and nothing else, can be seen. -/
def Event.IsLogged (event : Event) : Prop := ∃ line, event = .logged line

theorem Event.isLogged_log (level : LogLevel) (text : String) :
    ∀ event ∈ [Event.log level text], event.IsLogged := by
  intro event hevent
  exact ⟨_, List.mem_singleton.mp hevent⟩

theorem Event.isLogged_nil : ∀ event ∈ ([] : List Event), event.IsLogged :=
  fun _ hevent => absurd hevent List.not_mem_nil

namespace Claim

theorem isLogged_enter (desk : Desk) (w : Workflow) :
    ∀ event ∈ (enter desk w).2, event.IsLogged := by
  unfold enter
  split
  · exact Event.isLogged_nil
  · split
    · unfold planFailure
      split
      · exact Event.isLogged_log _ _
      · exact Event.isLogged_log _ _
      · exact Event.isLogged_nil
    · exact Event.isLogged_nil
    · exact Event.isLogged_nil

theorem isLogged_verdictEvents (check : StageCheck) :
    ∀ event ∈ verdictEvents check, event.IsLogged := by
  unfold verdictEvents
  split
  · exact Event.isLogged_nil
  · split
    · exact Event.isLogged_log _ _
    · exact Event.isLogged_nil

end Claim

namespace WorkflowTick

theorem isLogged_acquireEvents (acquired : Acquired) :
    ∀ event ∈ acquireEvents acquired, event.IsLogged := by
  unfold acquireEvents
  split
  · exact Event.isLogged_log _ _
  · exact Event.isLogged_nil

theorem isLogged_releaseEvents (released : Bool) :
    ∀ event ∈ releaseEvents released, event.IsLogged := by
  unfold releaseEvents
  split
  · exact Event.isLogged_nil
  · exact Event.isLogged_log _ _

theorem isLogged_dispatch (lease : Lease) (w : Workflow) :
    ∀ event ∈ (dispatch lease w).2, event.IsLogged := by
  unfold dispatch
  split
  · exact Event.isLogged_nil
  · exact Event.isLogged_nil
  · exact Event.isLogged_log _ _

theorem isLogged_load (lease : Lease) (s : Store) :
    ∀ event ∈ (load lease s).2, event.IsLogged := by
  unfold load
  split
  · exact Event.isLogged_nil
  · exact Event.isLogged_nil
  · exact isLogged_dispatch lease _
  · -- where there is more than one open workflow, this is logged as well
    exact List.forall_mem_cons.2 ⟨⟨_, rfl⟩, isLogged_dispatch lease _⟩

end WorkflowTick

theorem TransferTick.isLogged_load (lease : Lease) (s : Store) :
    ∀ event ∈ (load lease s).2, event.IsLogged := by
  unfold load
  split
  · exact Event.isLogged_nil
  · exact Event.isLogged_nil
  · exact Event.isLogged_nil
  · exact Event.isLogged_log _ _

end Treasury
