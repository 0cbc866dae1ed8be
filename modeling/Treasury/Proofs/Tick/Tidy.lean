import Treasury.Proofs.Store.Leases
import Treasury.Proofs.Tick.Events

/-!
# Ticks that leave everything in order

What both kinds of tick owe the others (`Tidy`): one that has failed has written nothing and told
nobody, none keeps its lease, and one that somebody else's lease excludes changes nothing.

The two kinds go through different phases, but all that matters here is which of them work under
the lease, and from which on nothing can fail any more (`Phases.UnderLease`). So both are tidy for
one reason (`Phases.UnderLease.tidy_run`).
-/

namespace Treasury

/-- How a tick ends that works under a lease; `leaseHeld` is the answer of those that do not. -/
structure EndsWell {ε ω : Type} (leaseHeld : ω) (lease : Lease) (s : Store)
    (r : Store × Except ε ω × List Event) : Prop where
  released : r.1.leases = s.leases.filter fun row => !Store.isHeldBy lease row
  answered : r.2.1 ≠ .ok leaseHeld
  untouched : ∀ e, r.2.1 = .error e →
    r.1.workflows = s.workflows ∧ r.1.tasks = s.tasks ∧ r.1.transfers = s.transfers
  silent : ∀ e, r.2.1 = .error e → ∀ event ∈ r.2.2, event.IsLogged

/-- One phase and the rest, if the phase writes nothing when the rest fails. -/
theorem EndsWell.of_step {ε ω : Type} {leaseHeld : ω} {lease : Lease} {s next : Store}
    {r : Store × Except ε ω × List Event} {events : List Event}
    (h : EndsWell leaseHeld lease next r) (hleases : next.leases = s.leases)
    (hquiet : ∀ e, r.2.1 = .error e → next = s ∧ ∀ event ∈ events, event.IsLogged) :
    EndsWell leaseHeld lease s (r.1, r.2.1, events ++ r.2.2) where
  released := hleases ▸ h.released
  answered := h.answered
  untouched := by
    intro e he
    obtain ⟨rfl, -⟩ := hquiet e he
    exact h.untouched e he
  silent := by
    intro e he event hevent
    rcases List.mem_append.mp hevent with hevent | hevent
    · exact (hquiet e he).2 event hevent
    · exact h.silent e he event hevent

theorem EndsWell.of_release {ε ω : Type} {leaseHeld : ω} {lease : Lease} {s : Store}
    {result : Except ε ω} (h : result ≠ .ok leaseHeld) :
    EndsWell leaseHeld lease s
      ((s.releaseLease lease).1, result,
        WorkflowTick.releaseEvents (s.releaseLease lease).2 ++ []) where
  released := rfl
  answered := h
  untouched := fun _ _ => ⟨rfl, rfl, rfl⟩
  silent := by
    intro _ _
    rw [List.append_nil]
    exact WorkflowTick.isLogged_releaseEvents _

/-- A tick of this name leaves everything in order, whatever comes of it. -/
structure Tidy {ε ω : Type} (leaseHeld : ω) (name : LeaseName) (now : Int) (s : Store)
    (r : Store × Except ε ω × List Event) : Prop where
  /-- If it has failed, no row has been written and no number given out. -/
  untouched : ∀ e, r.2.1 = .error e →
    r.1.workflows = s.workflows ∧ r.1.tasks = s.tasks ∧ r.1.transfers = s.transfers
  silent : ∀ e, r.2.1 = .error e → ∀ event ∈ r.2.2, event.IsLogged
  /-- A tick that has had the lease does not have it any more. -/
  released : ¬s.LeaseAlive name now → r.2.1 ≠ .ok leaseHeld ∧ r.1.leases = s.otherLeases name
  /-- A tick that somebody else's lease excludes changes nothing. -/
  excluded : s.LeaseAlive name now → r.2.1 = .ok leaseHeld ∧ r.1 = s.withoutAbandoned name now
    ∧ ((s.leases.map (·.name)).Nodup → r.1 = s)

theorem Tidy.of_alive {ε ω : Type} {leaseHeld : ω} {name : LeaseName} {now : Int} {s : Store}
    (h : s.LeaseAlive name now) (events : List Event) :
    Tidy (ε := ε) leaseHeld name now s (s.withoutAbandoned name now, .ok leaseHeld, events) where
  untouched := fun _ he => absurd he (by simp)
  silent := fun _ he => absurd he (by simp)
  released := fun hn => absurd h hn
  excluded := fun _ => ⟨rfl, rfl, fun hnodup => Store.withoutAbandoned_of_alive hnodup h⟩

/-- A tick that takes the lease and ends well has left everything in order. -/
theorem Tidy.of_endsWell {ε ω : Type} {leaseHeld : ω} {lease : Lease} {now : Int} {s : Store}
    {row : LeaseRow} {r : Store × Except ε ω × List Event} {events : List Event}
    (hdead : ¬s.LeaseAlive lease.name now) (hname : row.name = lease.name.tag)
    (hholder : row.holder = lease.holder)
    (h : EndsWell leaseHeld lease { s with leases := s.otherLeases lease.name ++ [row] } r)
    (hevents : ∀ event ∈ events, event.IsLogged) :
    Tidy leaseHeld lease.name now s (r.1, r.2.1, events ++ r.2.2) where
  untouched := h.untouched
  silent := by
    intro e he event hevent
    rcases List.mem_append.mp hevent with hevent | hevent
    · exact hevents event hevent
    · exact h.silent e he event hevent
  released := fun _ => ⟨h.answered, h.released.trans (Store.filter_isHeldBy hname hholder)⟩
  excluded := fun halive => absurd halive hdead

/-! ## Phases of either kind -/

/-- A tick as phases that are carried out one after the other, until there is a result. -/
structure Phases (σ ε ω : Type) where
  step : Store → σ → Store × σ × List Event
  result? : σ → Option (Except ε ω)
  run : Store → σ → Store × Except ε ω × List Event
  run_of_result : ∀ {s p result}, result? p = some result → run s p = (s, result, [])
  run_of_step : ∀ {s p}, result? p = none →
    run s p = ((run (step s p).1 (step s p).2.1).1, (run (step s p).1 (step s p).2.1).2.1,
      (step s p).2.2 ++ (run (step s p).1 (step s p).2.1).2.2)
  /-- How many phases are still to come, at most. -/
  left : σ → Nat
  left_step_lt : ∀ s p, result? p = none → left (step s p).2.1 < left p

namespace Phases

variable {σ ε ω : Type} {m : Phases σ ε ω} {leaseHeld : ω} {lease : Lease}
  {works certain : σ → Prop}

theorem induct (m : Phases σ ε ω) {motive : Store → σ → Prop}
    (done : ∀ s p result, m.result? p = some result → motive s p)
    (step : ∀ s p, m.result? p = none → motive (m.step s p).1 (m.step s p).2.1 → motive s p)
    (s : Store) (p : σ) : motive s p := by
  induction hn : m.left p using Nat.strongRecOn generalizing s p with
  | ind n ih =>
    cases hresult : m.result? p with
    | some result => exact done s p result hresult
    | none => exact step s p hresult (ih _ (hn ▸ m.left_step_lt s p hresult) _ _ rfl)

/-- **What every phase keeps holds when there is a result.** -/
theorem run_keeps (m : Phases σ ε ω) {P : Store → σ → Prop}
    (hstep : ∀ s p, P s p → P (m.step s p).1 (m.step s p).2.1) {s : Store} {p : σ} (h : P s p) :
    ∃ last, m.result? last = some (m.run s p).2.1 ∧ P (m.run s p).1 last := by
  induction s, p using m.induct with
  | done s p result hresult =>
    rw [m.run_of_result hresult]
    exact ⟨p, hresult, h⟩
  | step s p hresult ih =>
    rw [m.run_of_step hresult]
    exact ih (hstep s p h)

/-- **Two runs that do the same in every phase come to the same**, though their stores differ. -/
theorem run_agree (m : Phases σ ε ω) {R : Store → Store → σ → Prop}
    (hstep : ∀ s₁ s₂ p, R s₁ s₂ p → (m.step s₁ p).2 = (m.step s₂ p).2
      ∧ R (m.step s₁ p).1 (m.step s₂ p).1 (m.step s₁ p).2.1)
    {s₁ s₂ : Store} {p : σ} (h : R s₁ s₂ p) :
    (m.run s₁ p).2 = (m.run s₂ p).2
      ∧ ∃ last, m.result? last = some (m.run s₁ p).2.1
        ∧ R (m.run s₁ p).1 (m.run s₂ p).1 last := by
  induction s₁, p using m.induct generalizing s₂ with
  | done s₁ p result hresult =>
    rw [m.run_of_result hresult, m.run_of_result hresult]
    exact ⟨rfl, p, hresult, h⟩
  | step s₁ p hresult ih =>
    obtain ⟨hsame, hnext⟩ := hstep s₁ s₂ p h
    obtain ⟨hrest, hlast⟩ := ih hnext
    rw [hsame] at hrest hlast
    rw [m.run_of_step hresult, m.run_of_step hresult, hsame]
    exact ⟨by rw [hrest], hlast⟩

/-- What a phase does under a lease that it keeps. -/
structure Proceeds (works certain : σ → Prop) (s : Store) (r : Store × σ × List Event) :
    Prop where
  works : works r.2.1
  leases : r.1.leases = s.leases
  /-- As long as the tick can fail, nothing is written. -/
  quiet : certain r.2.1 ∨ (r.1 = s ∧ ∀ event ∈ r.2.2, event.IsLogged)

/-- The phases work under a lease, up to the one that gives it back; those that are `certain`
cannot fail any more. -/
structure UnderLease (m : Phases σ ε ω) (leaseHeld : ω) (lease : Lease)
    (works certain : σ → Prop) : Prop where
  unfinished : ∀ {p}, works p → m.result? p = none
  certain_step : ∀ {s p}, certain p → certain (m.step s p).2.1
  certain_result : ∀ {p result}, certain p → m.result? p = some result →
    ∃ outcome, result = .ok outcome
  phase : ∀ {s p}, works p →
    Proceeds works certain s (m.step s p)
      ∨ ∃ result done, result ≠ .ok leaseHeld ∧ m.result? done = some result
        ∧ m.step s p = ((s.releaseLease lease).1, done,
          WorkflowTick.releaseEvents (s.releaseLease lease).2)

namespace UnderLease

/-- **A tick that cannot fail does not.** -/
theorem ok_of_certain (h : m.UnderLease leaseHeld lease works certain) {s : Store} {p : σ}
    (hp : certain p) : ∃ outcome, (m.run s p).2.1 = .ok outcome := by
  induction s, p using m.induct with
  | done s p result hresult =>
    obtain ⟨outcome, rfl⟩ := h.certain_result hp hresult
    exact ⟨outcome, by rw [m.run_of_result hresult]⟩
  | step s p hresult ih =>
    rw [m.run_of_step hresult]
    exact ih (h.certain_step hp)

/-- **A tick that works under a lease ends well.** -/
theorem endsWell_run (h : m.UnderLease leaseHeld lease works certain) {s : Store} {p : σ}
    (hp : works p) : EndsWell leaseHeld lease s (m.run s p) := by
  induction s, p using m.induct with
  | done s p result hresult => exact absurd ((h.unfinished hp).symm.trans hresult) (by simp)
  | step s p hresult ih =>
    rw [m.run_of_step hresult]
    rcases h.phase hp with hkeeps | ⟨result, done, hne, hdone, hstep⟩
    · refine (ih hkeeps.works).of_step hkeeps.leases fun e he => ?_
      -- what can still fail has written nothing, and the rest is certain
      refine hkeeps.quiet.resolve_left fun hcertain => ?_
      obtain ⟨outcome, hok⟩ := h.ok_of_certain hcertain
      exact absurd (hok.symm.trans he) (by simp)
    · rw [hstep, m.run_of_result hdone]
      exact EndsWell.of_release hne

/-- **A tick that first takes its lease is tidy.** -/
theorem tidy_run {name : LeaseName} {turn : Turn}
    (h : m.UnderLease leaseHeld ⟨name, turn.holder⟩ works certain) (waiting held : σ)
    (holding : Lease → σ)
    (hwaiting : m.result? waiting = none) (hheld : m.result? held = some (.ok leaseHeld))
    (hholding : works (holding ⟨name, turn.holder⟩))
    (hacquire : ∀ s : Store, m.step s waiting =
      ((s.acquireLease name turn.holder turn.now).1,
        (s.acquireLease name turn.holder turn.now).2.lease.elim held holding,
        WorkflowTick.acquireEvents (s.acquireLease name turn.holder turn.now).2))
    (s : Store) : Tidy leaseHeld name turn.now s (m.run s waiting) := by
  rw [m.run_of_step hwaiting, hacquire]
  by_cases halive : s.LeaseAlive name turn.now
  · obtain ⟨reclaimed, hlease⟩ := Store.acquireLease_of_alive halive turn.holder
    rw [hlease]
    dsimp only [Option.elim]
    rw [m.run_of_result hheld]
    exact Tidy.of_alive halive _
  · obtain ⟨reclaimed, row, hlease, hname, hholder, -⟩ :=
      Store.acquireLease_of_not_alive halive turn.holder
    rw [hlease]
    exact Tidy.of_endsWell halive hname hholder (h.endsWell_run hholding)
      (WorkflowTick.isLogged_acquireEvents _)

end UnderLease

end Phases

end Treasury
