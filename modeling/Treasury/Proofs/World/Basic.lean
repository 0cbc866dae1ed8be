import Treasury.Proofs.Store.Transfers
import Treasury.Proofs.Store.Workflows
import Treasury.Proofs.Tick.Transfer
import Treasury.Proofs.Tick.Workflow

/-!
# Everybody at work at once

A `World` is a store with any number of ticks under way, of both kinds and each at a phase of its
own. `World.after` says what one move of one of those involved makes of it: somebody opens or
updates a record, the pipeline reports on a transaction, a tick starts, or one of the ticks
carries out one phase. `World.run` carries out a list of moves, in whatever order they come.

A move writes the store at most once, as one transaction of the database does. Ticks may stop for
good at any point, and the clocks and tokens of their turns are anything: a lease may be taken
away at any time, so no argument rests on leases.

A tick that prepares a batch looks up each queue of the batch by a query of its own. How long ago
each of them was is part of the move; the batch is written by a later one.

What a move can do is said once: `Writes` for the store, `Arises` for the ticks.
-/

namespace Treasury

/-- A tick under way. -/
inductive Tick where
  | workflow (desk : Desk) (turn : Turn) (phase : WorkflowTick.Phase)
  | transfer (chains : Chains) (turn : Turn) (phase : TransferTick.Phase)

/-- Carries out one phase of a tick. Queues go on as `fresh` has found them. -/
def Tick.step (fresh : Queue → Except AssignError UInt64) (s : Store) :
    Tick → Store × Tick × List Event
  | workflow desk turn phase =>
    let (next, phase, events) :=
      WorkflowTick.step { desk with gas := .continuing fresh } turn s phase
    (next, .workflow desk turn phase, events)
  | transfer chains turn phase =>
    let (next, phase, events) := TransferTick.step (.continuing fresh) chains turn s phase
    (next, .transfer chains turn phase, events)

/-- A tick of either kind advances. -/
inductive Tick.Advances (fresh : Queue → Except AssignError UInt64) (s : Store) :
    Tick → Store × Tick × List Event → Prop where
  | workflow {desk : Desk} {turn : Turn} {phase phase' : WorkflowTick.Phase} {next : Store}
    {events : List Event} :
    WorkflowTick.Advances { desk with gas := .continuing fresh } s phase (next, phase', events) →
    Advances fresh s (.workflow desk turn phase) (next, .workflow desk turn phase', events)
  | transfer {chains : Chains} {turn : Turn} {phase phase' : TransferTick.Phase} {next : Store}
    {events : List Event} :
    TransferTick.Advances (.continuing fresh) chains s phase (next, phase', events) →
    Advances fresh s (.transfer chains turn phase) (next, .transfer chains turn phase', events)

theorem Tick.advances_step (fresh : Queue → Except AssignError UInt64) (s : Store)
    (tick : Tick) : Advances fresh s tick (tick.step fresh s) := by
  cases tick with
  | workflow desk turn phase => exact .workflow (WorkflowTick.advances_step _ turn s phase)
  | transfer chains turn phase => exact .transfer (TransferTick.advances_step _ chains turn s phase)

/-- A tick that has just been started. -/
def Tick.IsNew : Tick → Prop
  | .workflow _ _ .waiting | .transfer _ _ .waiting => True
  | _ => False

/-- A store with everybody who works on it. -/
structure World where
  store : Store
  /-- The stores there have been before, the latest first. -/
  past : List Store
  /-- The ticks that have been started, the first one first. -/
  ticks : List Tick
  /-- What could be seen so far. -/
  events : List Event

/-- What one of those involved does next. -/
inductive Move where
  | openWorkflow (params : WorkflowParams)
  /-- Somebody updates a workflow from a copy loaded in the state `expected`. -/
  | updateWorkflow (expected : WorkflowState) (copy : Workflow)
  | createTransfer (rebalanceId : Int) (type : TransferType) (params : TransferParams)
  /-- Somebody updates a transfer task from a copy loaded in the state `expected`. -/
  | updateTransfer (expected : TransferState) (copy : TransferTask)
  /-- The pipeline reports on a transaction. -/
  | setTask (id : Int) (state : TransactionState) (message : String)
    (hash : Option TransactionHash)
  | startWorkflowTick (desk : Desk) (turn : Turn)
  | startTransferTick (chains : Chains) (turn : Turn)
  /-- The `n`-th tick carries out a phase; `ago` is how many moves ago it has looked up a queue. -/
  | advance (n : Nat) (ago : Queue → Nat)

namespace World

/-- Nobody has done anything. -/
def start (s : Store) : World := ⟨s, [], [], []⟩

/-- The store some moves ago. -/
def storeAgo (w : World) (n : Nat) : Store := (w.store :: w.past).getD n w.store

/-- The world with the next store. -/
def become (w : World) (next : Store) : World :=
  { w with store := next, past := w.store :: w.past }

/-- The world with one more tick. -/
def join (w : World) (tick : Tick) : World :=
  { w.become w.store with ticks := w.ticks ++ [tick] }

/-- Carries out a phase of the `n`-th tick. -/
def advance (w : World) (n : Nat) (ago : Queue → Nat) : World :=
  match w.ticks[n]? with
  | none => w.become w.store
  | some tick =>
    let fresh := fun queue => (w.storeAgo (ago queue)).freshNonce queue
    let (next, tick, events) := tick.step fresh w.store
    { w.become next with ticks := w.ticks.set n tick, events := w.events ++ events }

/-- The world after a move. A transaction that fails leaves the store as it is. -/
def after (w : World) : Move → World
  | .openWorkflow params => w.become (w.store.openWorkflow params).1
  | .updateWorkflow expected copy =>
    w.become ((w.store.updateWorkflow expected copy).toOption.getD w.store)
  | .createTransfer rebalanceId type params =>
    w.become (w.store.createTransfer rebalanceId type params).1
  | .updateTransfer expected copy =>
    w.become ((w.store.updateTransfer expected copy).toOption.getD w.store)
  | .setTask id state message hash => w.become (w.store.setTask id state message hash)
  | .startWorkflowTick desk turn => w.join (.workflow desk turn .waiting)
  | .startTransferTick chains turn => w.join (.transfer chains turn .waiting)
  | .advance n ago => w.advance n ago

/-- The world after some moves. -/
def run (w : World) (moves : List Move) : World := moves.foldl after w

theorem run_append (w : World) (moves later : List Move) :
    w.run (moves ++ later) = (w.run moves).run later :=
  List.foldl_append

/-! ## What a move can do -/

theorem advance_of_none {w : World} {n : Nat} (h : w.ticks[n]? = none) (ago : Queue → Nat) :
    w.advance n ago = w.become w.store := by
  unfold advance
  rw [h]

theorem advance_of_some {w : World} {n : Nat} {tick : Tick} (h : w.ticks[n]? = some tick)
    (ago : Queue → Nat) {next : Store} {tick' : Tick} {events : List Event}
    (hstep : tick.step (fun queue => (w.storeAgo (ago queue)).freshNonce queue) w.store =
      (next, tick', events)) :
    w.advance n ago =
      { w.become next with ticks := w.ticks.set n tick', events := w.events ++ events } := by
  unfold advance
  rw [h]
  dsimp only
  rw [hstep]

/-- Where the world and its `n`-th tick are after a phase of the tick. -/
theorem store_advance {w : World} {n : Nat} {tick : Tick} (h : w.ticks[n]? = some tick)
    (ago : Queue → Nat) {next : Store} {tick' : Tick} {events : List Event}
    (hstep : tick.step (fun queue => (w.storeAgo (ago queue)).freshNonce queue) w.store =
      (next, tick', events)) :
    (w.advance n ago).store = next ∧ (w.advance n ago).ticks[n]? = some tick' := by
  rw [advance_of_some h ago hstep]
  exact ⟨rfl, List.getElem?_set_self (List.getElem?_eq_some_iff.1 h).1⟩

/-- What a move can make of the store. -/
inductive Writes (w : World) : Store → Prop where
  /-- Nothing is written. -/
  | rest : Writes w w.store
  | openWorkflow {params : WorkflowParams} {next : Store} {id : Int} :
    w.store.insertWorkflow params = .ok (next, id) → Writes w next
  | updateWorkflow {expected : WorkflowState} {copy : Workflow} {next : Store} :
    w.store.updateWorkflow expected copy = .ok next → Writes w next
  | createTransfer {rebalanceId : Int} {type : TransferType} {params : TransferParams}
    {next : Store} {id : Int} :
    w.store.insertTransfer rebalanceId type params = .ok (next, id) → Writes w next
  | updateTransfer {expected : TransferState} {copy : TransferTask} {next : Store} :
    w.store.updateTransfer expected copy = .ok next → Writes w next
  | setTask (id : Int) (state : TransactionState) (message : String)
    (hash : Option TransactionHash) : Writes w (w.store.setTask id state message hash)
  /-- A tick carries out a phase, having looked up each queue at some time in the past. -/
  | advance {tick tick' : Tick} {ago : Queue → Nat} {next : Store} {events : List Event} :
    tick ∈ w.ticks →
    tick.Advances (fun queue => (w.storeAgo (ago queue)).freshNonce queue) w.store
      (next, tick', events) →
    Writes w next

/-- **Every move writes in one of these ways.** -/
theorem writes_after (w : World) (move : Move) : Writes w (w.after move).store := by
  cases move with
  | openWorkflow params =>
    rcases w.store.openWorkflow_cases params with h | ⟨id, h⟩
    · have hsame : (w.after (.openWorkflow params)).store = w.store := h
      rw [hsame]
      exact .rest
    · exact .openWorkflow h
  | updateWorkflow expected copy =>
    simp only [after, become]
    cases h : w.store.updateWorkflow expected copy with
    | error e => exact .rest
    | ok next => exact .updateWorkflow h
  | createTransfer rebalanceId type params =>
    rcases w.store.createTransfer_cases rebalanceId type params with h | ⟨id, h⟩
    · have hsame : (w.after (.createTransfer rebalanceId type params)).store = w.store := h
      rw [hsame]
      exact .rest
    · exact .createTransfer h
  | updateTransfer expected copy =>
    simp only [after, become]
    cases h : w.store.updateTransfer expected copy with
    | error e => exact .rest
    | ok next => exact .updateTransfer h
  | setTask id state message hash => exact .setTask id state message hash
  | startWorkflowTick desk turn => exact .rest
  | startTransferTick chains turn => exact .rest
  | advance n ago =>
    simp only [after, advance]
    cases hn : w.ticks[n]? with
    | none => exact .rest
    | some tick =>
      exact @Writes.advance w tick _ ago _ _ (List.mem_of_getElem? hn) (tick.advances_step _ w.store)

/-! ## What a move does to ticks -/

/-- What a move can make of the ticks. -/
inductive Proceeds (w : World) (move : Move) : Prop where
  /-- No tick goes on; one may have been started. -/
  | joins (new : List Tick) : (∀ tick ∈ new, tick.IsNew) →
    (∀ n ago, move = .advance n ago → w.ticks[n]? = none) →
    (w.after move).ticks = w.ticks ++ new → (w.after move).events = w.events → Proceeds w move
  /-- One tick goes on. -/
  | advances (n : Nat) (ago : Queue → Nat) (old new : Tick) (events : List Event) :
    move = .advance n ago → w.ticks[n]? = some old →
    old.Advances (fun queue => (w.storeAgo (ago queue)).freshNonce queue) w.store
      ((w.after move).store, new, events) →
    (w.after move).ticks = w.ticks.set n new → (w.after move).events = w.events ++ events →
    Proceeds w move

theorem proceeds_after (w : World) (move : Move) : Proceeds w move := by
  cases move with
  | startWorkflowTick desk turn =>
    have hnew : ∀ tick ∈ [Tick.workflow desk turn .waiting], tick.IsNew :=
      List.forall_mem_singleton.2 (by trivial)
    exact .joins _ hnew nofun rfl rfl
  | startTransferTick chains turn =>
    have hnew : ∀ tick ∈ [Tick.transfer chains turn .waiting], tick.IsNew :=
      List.forall_mem_singleton.2 (by trivial)
    exact .joins _ hnew nofun rfl rfl
  | advance n ago =>
    cases hn : w.ticks[n]? with
    | none =>
      have hrest : w.after (.advance n ago) = w.become w.store := advance_of_none hn ago
      refine .joins [] (fun _ h => absurd h List.not_mem_nil) ?_ ?_ ?_
      · rintro _ _ ⟨⟩
        exact hn
      · rw [hrest, List.append_nil]
        rfl
      · rw [hrest]
        rfl
    | some old =>
      rcases hstep : old.step (fun queue => (w.storeAgo (ago queue)).freshNonce queue) w.store
        with ⟨next, new, events⟩
      have hnext : w.after (.advance n ago) =
          { w.become next with ticks := w.ticks.set n new, events := w.events ++ events } :=
        advance_of_some hn ago hstep
      have hadvances := old.advances_step
        (fun queue => (w.storeAgo (ago queue)).freshNonce queue) w.store
      rw [hstep] at hadvances
      refine .advances n ago old new events rfl hn ?_ (congrArg ticks hnext)
        (congrArg World.events hnext)
      rw [hnext]
      exact hadvances
  | _ => exact .joins [] (fun _ h => absurd h List.not_mem_nil) nofun (List.append_nil _).symm rfl

/-- Where the `n`-th tick comes from. -/
inductive Comes (w : World) (move : Move) (n : Nat) (tick : Tick) : Prop where
  | stays : w.ticks[n]? = some tick → (∀ ago, move ≠ .advance n ago) → Comes w move n tick
  | starts : w.ticks.length ≤ n → tick.IsNew → Comes w move n tick
  | advances (ago : Queue → Nat) (old : Tick) (events : List Event) :
    move = .advance n ago → w.ticks[n]? = some old →
    old.Advances (fun queue => (w.storeAgo (ago queue)).freshNonce queue) w.store
      ((w.after move).store, tick, events) →
    Comes w move n tick

/-- **A tick was there before, or has just been started, or has gone on.** -/
theorem comes_after (w : World) (move : Move) {n : Nat} {tick : Tick}
    (h : (w.after move).ticks[n]? = some tick) : Comes w move n tick := by
  cases w.proceeds_after move with
  | joins new hnew hmove hticks _ =>
    rw [hticks] at h
    rcases Nat.lt_or_ge n w.ticks.length with hlt | hge
    · rw [List.getElem?_append_left hlt] at h
      refine .stays h fun ago hadvance => ?_
      exact absurd ((hmove n ago hadvance).symm.trans h) nofun
    · rw [List.getElem?_append_right hge] at h
      exact .starts hge (hnew tick (List.mem_of_getElem? h))
  | advances m ago old new events hmove hm hadvances hticks _ =>
    rw [hticks] at h
    by_cases hmn : m = n
    · subst hmn
      rw [List.getElem?_set_self (List.getElem?_eq_some_iff.1 hm).1] at h
      obtain rfl := Option.some.inj h
      exact .advances ago old events hmove hm hadvances
    · rw [List.getElem?_set_ne hmn] at h
      refine .stays h fun _ hadvance => hmn ?_
      rw [hmove] at hadvance
      exact (Move.advance.inj hadvance).1

/-- Where a tick of the next moment comes from. -/
inductive Arises (w : World) : Tick → Prop where
  | old {tick : Tick} : tick ∈ w.ticks → Arises w tick
  | newWorkflow (desk : Desk) (turn : Turn) : Arises w (.workflow desk turn .waiting)
  | newTransfer (chains : Chains) (turn : Turn) : Arises w (.transfer chains turn .waiting)
  | advance {tick tick' : Tick} {ago : Queue → Nat} {next : Store} {events : List Event} :
    tick ∈ w.ticks →
    tick.Advances (fun queue => (w.storeAgo (ago queue)).freshNonce queue) w.store
      (next, tick', events) →
    Arises w tick'

/-- **Every tick is an old one, a new one, or one that has advanced.** -/
theorem arises_after (w : World) (move : Move) : ∀ tick ∈ (w.after move).ticks, Arises w tick := by
  intro tick htick
  obtain ⟨n, hn⟩ := List.getElem?_of_mem htick
  cases w.comes_after move hn with
  | stays hold _ => exact .old (List.mem_of_getElem? hold)
  | starts _ hnew =>
    cases tick with
    | workflow desk turn phase =>
      cases phase with
      | waiting => exact .newWorkflow desk turn
      | _ => exact hnew.elim
    | transfer chains turn phase =>
      cases phase with
      | waiting => exact .newTransfer chains turn
      | _ => exact hnew.elim
  | advances ago old events _ hold hadvances =>
    exact .advance (List.mem_of_getElem? hold) hadvances

theorem past_after (w : World) (move : Move) : (w.after move).past = w.store :: w.past := by
  cases move with
  | advance n ago =>
    simp only [after, advance]
    split <;> rfl
  | _ => rfl

theorem storeAgo_mem (w : World) (n : Nat) : w.storeAgo n ∈ w.store :: w.past := by
  unfold storeAgo
  rw [List.getD_eq_getElem?_getD]
  cases h : (w.store :: w.past)[n]? with
  | none => exact List.mem_cons_self
  | some s => exact List.mem_of_getElem? h

end World

end Treasury
