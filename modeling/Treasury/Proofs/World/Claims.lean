import Mathlib.Data.List.Induction
import Treasury.Proofs.Gas
import Treasury.Proofs.Store.Claims
import Treasury.Proofs.World.Basic

/-!
# A workflow claims once

Two ticks may both have loaded a workflow in its first state, one of them long ago and under a
lease that has been taken away from it since, and both may get as far as writing. Each writes its
batch together with the move of the workflow out of its first state. The second finds that the
workflow has moved, its batch is taken back with the rest, and as no workflow ever moves back,
nobody writes another one later.

Stores stay sound (`Store.Sound`) because ticks do: whoever is about to write claims has loaded
their workflow in its first state.
-/

namespace Treasury

/-- Entering the stage goes on from the first state, with nothing but claims of the workflow. -/
def Claim.Phase.Sound : Claim.Phase → Prop
  | .entering w => w.state = .init
  | .drafted w drafts =>
    w.state = .init ∧ ∀ d ∈ drafts, d.owner = .workflow w.id ∧ d.type = .claimFromVault
  | .prepared w batch =>
    w.state = .init
      ∧ ∀ p ∈ batch, p.draft.owner = .workflow w.id ∧ p.draft.type = .claimFromVault
  | _ => True

/-- Workflow ticks write claims of their workflow only, and transfer ticks write no claims. -/
def Tick.Sound : Tick → Prop
  | .workflow _ _ (.executing _ _ phase) => phase.Sound
  | .transfer _ _ (.prepared _ t batch) => ∀ p ∈ batch, p.draft.owner = t.owner
  | _ => True

/-- **A sound tick stays sound.** -/
theorem Tick.Advances.sound {fresh : Queue → Except AssignError UInt64} {s next : Store}
    {tick tick' : Tick} {events : List Event} (h : Advances fresh s tick (next, tick', events))
    (hs : tick.Sound) : tick'.Sound := by
  cases h with
  | workflow h =>
    cases h with
    | enter lease w rest events _ hinit => exact hinit
    | draft lease id w snapshot drafts _ hplan => exact ⟨hs, Claim.claim_of_plan hplan⟩
    | prepare lease id w drafts batch _ hb =>
      -- preparing leaves the drafts what they are
      refine ⟨hs.1, fun p hp => ?_⟩
      exact hs.2 p.draft (GasAssigner.draft_mem_of_assignFrom hb p hp)
    | _ => trivial
  | transfer h =>
    cases h with
    | prepare lease t batch hb =>
      intro p hp
      obtain ⟨call, _, hcall⟩ := List.mem_map.mp (GasAssigner.draft_mem_of_assignFrom hb p hp)
      rw [← hcall]
    | _ => trivial

/-- **A phase of a sound tick is a write as workflows see it.** -/
theorem Tick.Advances.evolves {fresh : Queue → Except AssignError UInt64} {s next : Store}
    {tick tick' : Tick} {events : List Event} (h : Advances fresh s tick (next, tick', events))
    (htick : tick.Sound) (hs : s.Sound) : Store.Evolves s next := by
  cases h with
  | workflow h =>
    cases h with
    | skip lease id w next hu => exact Store.evolves_updateWorkflow hs hu
    | save lease id w batch next hc => exact Store.evolves_commit hs htick.1 htick.2 hc
    | settle lease w check next hu => exact Store.evolves_updateWorkflow hs hu
    | _ => exact Store.evolves_of_same rfl fun _ => rfl
  | transfer h =>
    cases h with
    | save lease t batch next hc =>
      obtain ⟨⟨saved, ids⟩, hsave, hu⟩ := bind_eq_ok.1 hc
      obtain ⟨hworkflows, htasks⟩ := Store.updateTransfer_frame hu
      refine Store.evolves_of_same (hworkflows.trans (Store.saveTasks_frame hsave).1) fun id => ?_
      rw [Store.claimIds_congr htasks]
      refine Store.claimIds_saveTasks_of_ne hsave fun p hp => ?_
      rw [htick p hp]
      exact TaskOwner.noConfusion
    | settle lease t progress next hu =>
      obtain ⟨hworkflows, htasks⟩ := Store.updateTransfer_frame hu
      exact Store.evolves_of_same hworkflows (Store.claimIds_congr htasks)
    | _ => exact Store.evolves_of_same rfl fun _ => rfl

namespace World

/-- The store is sound, and so are all ticks. -/
structure ClaimInv (w : World) : Prop where
  store : w.store.Sound
  ticks : ∀ tick ∈ w.ticks, tick.Sound

theorem claimInv_start : ClaimInv (start .empty) where
  store := ⟨fun _ _ => rfl, fun _ => .inl rfl, fun _ _ => rfl⟩
  ticks := by intro tick h; simp [start] at h

/-- **Every move is a write as workflows see it.** -/
theorem evolves_of_writes {w : World} (h : ClaimInv w) {next : Store} (hw : Writes w next) :
    Store.Evolves w.store next := by
  cases hw with
  | rest => exact Store.evolves_of_same rfl fun _ => rfl
  | openWorkflow hopened => exact Store.evolves_insertWorkflow h.store hopened
  | updateWorkflow hu => exact Store.evolves_updateWorkflow h.store hu
  | createTransfer hopened =>
    obtain ⟨hworkflows, htasks⟩ := Store.insertTransfer_frame hopened
    exact Store.evolves_of_same hworkflows (Store.claimIds_congr htasks)
  | updateTransfer hu =>
    obtain ⟨hworkflows, htasks⟩ := Store.updateTransfer_frame hu
    exact Store.evolves_of_same hworkflows (Store.claimIds_congr htasks)
  | setTask id state message hash =>
    exact Store.evolves_of_same rfl (w.store.claimIds_setTask id state message hash)
  | @advance tick _ _ _ _ htick hadvances =>
    exact hadvances.evolves (h.ticks tick htick) h.store

theorem evolves_after {w : World} (h : ClaimInv w) (move : Move) :
    Store.Evolves w.store (w.after move).store :=
  evolves_of_writes h (w.writes_after move)

theorem claimInv_after {w : World} (h : ClaimInv w) (move : Move) : ClaimInv (w.after move) := by
  refine ⟨h.store.of_evolves (evolves_after h move), fun tick htick => ?_⟩
  cases w.arises_after move tick htick with
  | old hold => exact h.ticks tick hold
  | newWorkflow desk turn => trivial
  | newTransfer chains turn => trivial
  | @advance old _ _ _ _ hold hadvances => exact hadvances.sound (h.ticks old hold)

theorem claimInv_run {w : World} (h : ClaimInv w) (moves : List Move) :
    ClaimInv (w.run moves) := by
  induction moves generalizing w with
  | nil => exact h
  | cons move moves ih => exact ih (claimInv_after h move)

/-! ## One batch -/

/-- A workflow that has left its first state makes no more claims, and does not go back. -/
theorem claimIds_run_of_left {w : World} (h : ClaimInv w) {id : Int} {state : WorkflowState}
    (hne : state ≠ .init) (hstate : w.store.workflowStates id = [state.tag])
    (moves : List Move) : (w.run moves).store.claimIds id = w.store.claimIds id := by
  -- from a state that is not the first, only moves to such states are left
  induction moves generalizing w state with
  | nil => rfl
  | cons move moves ih =>
    have hinv := claimInv_after h move
    cases (evolves_after h move).changes id with
    | rest hstates hclaims =>
      exact (ih hinv hne (hstates.trans hstate)).trans hclaims
    | opened hnone _ _ _ => exact absurd (hnone.symm.trans hstate) (by simp)
    | moved old next hmove hold hnext hclaims =>
      have heq := WorkflowState.tag_inj.1 (List.singleton_inj.1 (hold.symm.trans hstate))
      have hleft := WorkflowState.ne_init_of_canMoveTo hmove (heq ▸ hne)
      exact (ih hinv hleft hnext).trans hclaims
    | claimed ids hc =>
      have heq := WorkflowState.tag_inj.1 (List.singleton_inj.1 (hc.before.symm.trans hstate))
      exact absurd heq.symm hne

/-- Whatever claims there are have been written by one transaction. -/
theorem claimed_of_run (moves : List Move) (id : Int) :
    ((start .empty).run moves).store.claimIds id = []
      ∨ ∃ earlier move later, moves = earlier ++ move :: later
        ∧ Store.Claimed ((start .empty).run earlier).store
          ((start .empty).run (earlier ++ [move])).store id
          (((start .empty).run moves).store.claimIds id) := by
  -- on the moves from the last one backwards: it keeps the claims, or has written them all
  induction moves using List.reverseRecOn with
  | nil => exact .inl rfl
  | append_singleton moves move ih =>
    have hinv := claimInv_run claimInv_start moves
    have hkeep : ((start .empty).run (moves ++ [move])).store.claimIds id =
        ((start .empty).run moves).store.claimIds id →
        ((start .empty).run (moves ++ [move])).store.claimIds id = []
          ∨ ∃ earlier m later, moves ++ [move] = earlier ++ m :: later
            ∧ Store.Claimed ((start .empty).run earlier).store
              ((start .empty).run (earlier ++ [m])).store id
              (((start .empty).run (moves ++ [move])).store.claimIds id) := by
      intro hsame
      rw [hsame]
      rcases ih with hnone | ⟨earlier, m, later, hmoves, hc⟩
      · exact .inl hnone
      · refine .inr ⟨earlier, m, later ++ [move], ?_, hc⟩
        rw [hmoves, List.append_assoc, List.cons_append]
    have hstep := (evolves_after hinv move).changes id
    have hrun : ((start .empty).run moves).after move = (start .empty).run (moves ++ [move]) :=
      (run_append (start .empty) moves [move]).symm
    rw [hrun] at hstep
    cases hstep with
    | rest _ hclaims => exact hkeep hclaims
    | opened _ _ _ hclaims => exact hkeep hclaims
    | moved _ _ _ _ _ hclaims => exact hkeep hclaims
    | claimed ids hc =>
      refine .inr ⟨moves, move, [], rfl, ?_⟩
      rw [hc.claims]
      exact hc

/--
**A workflow claims once.**

In whatever order things happen from an empty store on, and with however many ticks under way on
however old copies: a workflow in its first state has no claims; the claims that there are were
all written by one transaction, the one that moved the workflow from its first state into the
stage; and from the time the workflow has left its first state on, they stay the same.
-/
theorem claimIds_run (moves : List Move) (id : Int) :
    (((start .empty).run moves).store.workflowStates id = [WorkflowState.init.tag] →
      ((start .empty).run moves).store.claimIds id = [])
    ∧ (((start .empty).run moves).store.claimIds id = []
      ∨ ∃ earlier move later, moves = earlier ++ move :: later
        ∧ Store.Claimed ((start .empty).run earlier).store
          ((start .empty).run (earlier ++ [move])).store id
          (((start .empty).run moves).store.claimIds id))
    ∧ ∀ state : WorkflowState, state ≠ .init →
      ((start .empty).run moves).store.workflowStates id = [state.tag] →
      ∀ later, ((start .empty).run (moves ++ later)).store.claimIds id =
        ((start .empty).run moves).store.claimIds id := by
  have hinv := claimInv_run claimInv_start moves
  refine ⟨fun hinit => hinv.store.unclaimed id (.inr hinit), claimed_of_run moves id, ?_⟩
  intro state hne hstate later
  rw [run_append]
  exact claimIds_run_of_left hinv hne hstate later

end World

end Treasury
