import Treasury.Proofs.Store.Submission
import Treasury.Proofs.World.Claims
import Treasury.Proofs.World.History

/-!
# Transfers are submitted once, and as a whole

A transfer tick writes the calls of a task together with the move of the task out of its first
state. So whoever comes second, from however old a copy and under whatever lease, finds that the
task has moved, and writes nothing. From then on the task is only moved by what a tick has read of
its transactions; as these settle for good, the tick may be slow and is still right.

`Move.Spares` says what all this needs of the others: the states of the task are left to ticks, and
the pipeline leaves what has settled. What a tick has found out about its task (`Tick.Tracks`) stays
true, so every move is one of the writes that keep a task and its transactions together
(`submits_after`).
-/

namespace Treasury

/-- The task has been submitted. -/
def Store.Launched (s : Store) (id : Int) : Prop :=
  ∃ state : TransferState, state ≠ .init ∧ s.transferStates id = [state.tag]

/-- **What has been submitted stays so**, and from then on is only reported on. -/
theorem Store.launched_of_submits {s s' : Store} {id : Int} (h : s.Launched id)
    (hw : s.Submits s' id) :
    s'.Launched id ∧ List.Forall₂ TaskRow.Ages (s.ownedRows id) (s'.ownedRows id) := by
  obtain ⟨state, hne, hstate⟩ := h
  cases hw with
  | kept hstates hages => exact ⟨⟨state, hne, hstates.trans hstate⟩, hages⟩
  | opened hnone _ _ => exact absurd (hnone.symm.trans hstate) (by simp)
  | submitted _ _ _ hinit _ _ _ _ =>
    exact absurd (TransferState.tag_inj.1 (List.singleton_inj.1 (hstate.symm.trans hinit))) hne
  | settled tasks _ hnext _ hsame =>
    refine ⟨⟨_, TransferTask.stateOf_ne_init _, hnext⟩, ?_⟩
    rw [hsame]
    exact List.forall₂_same.2 fun row _ => .refl row

/-! ## What a tick knows -/

/-- What a transfer tick has found out: what is filed about the task of its copy, and, if that is
the task `id`, what its transactions have come to. -/
def Tick.Tracks (s : Store) (id : Int) : Tick → Prop
  | .transfer _ _ (.submitting _ t) => t.state = .init ∧ s.Files t.id t.type t.params
  | .transfer _ _ (.prepared _ t batch) =>
    t.state = .init ∧ s.Files t.id t.type t.params ∧ batch.map Prepared.draft = t.drafts
  | .transfer _ _ (.polling _ t) =>
    t.state = .ongoing ∧ s.Files t.id t.type t.params ∧ (t.id = id → s.Launched id)
  | .transfer _ _ (.tallied _ t progress) =>
    t.state = .ongoing ∧ ∃ tasks, progress = Progress.ofTasks tasks ∧ (t.id = id →
      s.Launched id
        ∧ List.Forall₂ Lasts (tasks.map (·.state.tag)) ((s.ownedRows id).map (·.state)))
  | _ => True

/-- A tick informs itself before it writes. -/
theorem Tick.Advances.tracks {fresh : Queue → Except AssignError UInt64} {s next : Store}
    {tick tick' : Tick} {events : List Event} (h : Advances fresh s tick (next, tick', events))
    (hs : s.TransferRules) {id : Int} (hserves : s.Serves id) (htick : tick.Tracks s id) :
    tick'.Tracks s id := by
  cases h with
  | workflow h => trivial
  | transfer h =>
    cases h with
    | submit lease t rest events hopen hinit =>
      exact ⟨hinit, (Store.files_of_findOpenTransfers hopen t List.mem_cons_self).1⟩
    | poll lease t rest events hopen hongoing =>
      obtain ⟨hfiled, hmem⟩ := Store.files_of_findOpenTransfers hopen t List.mem_cons_self
      refine ⟨hongoing, hfiled, ?_⟩
      rintro rfl
      refine ⟨.ongoing, by decide, ?_⟩
      rw [← hongoing]
      exact hs.transferStates_eq hmem
    | prepare lease t batch hb =>
      exact ⟨htick.1, htick.2, GasAssigner.map_draft_of_assignFrom hb⟩
    | tally lease t tasks hfind =>
      obtain ⟨hongoing, hfiled, hlaunched⟩ := htick
      refine ⟨hongoing, tasks, rfl, ?_⟩
      rintro rfl
      exact ⟨hlaunched rfl, Store.lasts_of_findTasks hs hserves hfiled hfind⟩
    | _ => trivial

/-- What a tick has found out is as true after a write. -/
theorem Tick.Tracks.of_submits {s s' : Store} {id : Int} {tick : Tick} (h : tick.Tracks s id)
    (hw : s.Submits s' id)
    (hfiles : ∀ n type params, s.Files n type params → s'.Files n type params) :
    tick.Tracks s' id := by
  cases tick with
  | workflow desk turn phase => trivial
  | transfer chains turn phase =>
    cases phase with
    | submitting lease t => exact ⟨h.1, hfiles _ _ _ h.2⟩
    | prepared lease t batch => exact ⟨h.1, hfiles _ _ _ h.2.1, h.2.2⟩
    | polling lease t =>
      exact ⟨h.1, hfiles _ _ _ h.2.1, fun hid => (Store.launched_of_submits (h.2.2 hid) hw).1⟩
    | tallied lease t progress =>
      obtain ⟨hongoing, tasks, htasks, hknown⟩ := h
      refine ⟨hongoing, tasks, htasks, fun hid => ?_⟩
      obtain ⟨hlaunched, hlasts⟩ := hknown hid
      obtain ⟨hlaunched, hages⟩ := Store.launched_of_submits hlaunched hw
      exact ⟨hlaunched, forall₂_trans hlasts (TaskRow.lasts_of_ages hages)
        fun _ _ _ _ => Lasts.trans⟩
    | _ => trivial

/-- **What a tick writes keeps a task and its transactions together.** -/
theorem Tick.Advances.submits {fresh : Queue → Except AssignError UInt64} {s next : Store}
    {tick tick' : Tick} {events : List Event} (h : Advances fresh s tick (next, tick', events))
    (hs : s.TransferRules) {id : Int} (hsound : tick.Sound) (htick : tick.Tracks s id) :
    s.Submits next id := by
  cases h with
  | workflow h =>
    cases h with
    | skip lease n w next hu =>
      exact Store.submits_of_tables (Store.updateWorkflow_transfers hu)
        (Store.updateWorkflow_tasks hu) id
    | save lease n w batch next hc =>
      obtain ⟨saved, ids, hsave, hu⟩ := Claim.commit_eq_ok.1 hc
      have hother : ∀ p ∈ batch, p.draft.owner ≠ .assetTransfer id := by
        intro p hp
        rw [(hsound.2 p hp).1]
        exact TaskOwner.noConfusion
      have htransfers := (Store.updateWorkflow_transfers hu).trans (Store.saveTasks_frame hsave).2.1
      refine Store.submits_of_same (Store.transferStates_congr htransfers id) ?_
      exact (Store.ownedRows_congr (Store.updateWorkflow_tasks hu) id).trans
        (Store.ownedRows_saveTasks_of_ne hsave hother)
    | settle lease w check next hu =>
      exact Store.submits_of_tables (Store.updateWorkflow_transfers hu)
        (Store.updateWorkflow_tasks hu) id
    | _ => exact Store.submits_of_tables (by rfl) (by rfl) id
  | transfer h =>
    cases h with
    | save lease t batch next hc =>
      exact Store.submits_commit hs htick.1 htick.2.1 htick.2.2 hc id
    | settle lease t progress next hu =>
      obtain ⟨hongoing, tasks, rfl, hknown⟩ := htick
      refine Store.submits_tally hs hongoing (fun hid => ?_) hu
      exact (hknown hid).2
    | _ => exact Store.submits_of_tables (by rfl) (by rfl) id

/-! ## What a move does -/

/-- The states of a task are left to ticks, and what has settled is left as it is. -/
def Move.Spares (s : Store) (id : Int) : Move → Prop
  | .updateTransfer expected copy => copy.id = id → copy.state = expected
  | .setTask n state _ _ => s.KeepsSettled n state
  | _ => True

instance (s : Store) (id : Int) : DecidablePred (Move.Spares s id) := fun move =>
  match move with
  | .updateTransfer expected copy =>
    inferInstanceAs (Decidable (copy.id = id → copy.state = expected))
  | .setTask n state _ _ => inferInstanceAs (Decidable (s.KeepsSettled n state))
  | .openWorkflow _ | .updateWorkflow _ _ | .createTransfer _ _ _ | .startWorkflowTick _ _
  | .startTransferTick _ _ | .advance _ _ => inferInstanceAs (Decidable True)

/-- What a move makes of the transfer table. -/
inductive Store.Refiles (s next : Store) : Prop where
  | rest : next.transfers = s.transfers → Refiles s next
  | opened {rebalanceId : Int} {type : TransferType} {params : TransferParams} {new : Int} :
    s.insertTransfer rebalanceId type params = .ok (next, new) → Refiles s next
  /-- Transactions may have been written before the update. -/
  | updated {saved : Store} {expected : TransferState} {t : TransferTask} :
    saved.transfers = s.transfers → saved.updateTransfer expected t = .ok next → Refiles s next

theorem Store.Refiles.rules {s next : Store} (h : s.Refiles next) (hs : s.TransferRules) :
    next.TransferRules := by
  cases h with
  | rest h => exact hs.congr h
  | opened h => exact hs.insertTransfer h
  | updated hsaved hu => exact (hs.congr hsaved).updateTransfer hu

/-- What is filed stays filed. -/
theorem Store.Refiles.files {s next : Store} (h : s.Refiles next) {id : Int} {type : TransferType}
    {params : TransferParams} (hfiled : s.Files id type params) : next.Files id type params := by
  cases h with
  | rest h =>
    unfold Files
    rw [h]
    exact hfiled
  | opened h => exact hfiled.insertTransfer h
  | updated hsaved hu =>
    refine Files.updateTransfer ?_ hu
    unfold Files
    rw [hsaved]
    exact hfiled

/-- The transfer task that a tick works on. -/
def Tick.task? : Tick → Option TransferTask
  | workflow _ _ _ => none
  | transfer _ _ phase => phase.task?

/-- **A tick leaves the tasks as they are, or updates the one that it works on.** -/
theorem Tick.Advances.transfers {fresh : Queue → Except AssignError UInt64} {s next : Store}
    {tick tick' : Tick} {events : List Event} (h : Advances fresh s tick (next, tick', events)) :
    next.transfers = s.transfers
      ∨ ∃ (copy new : TransferTask) (saved : Store), tick.task? = some copy ∧ new.id = copy.id
        ∧ saved.transfers = s.transfers ∧ saved.updateTransfer copy.state new = .ok next := by
  cases h with
  | workflow h =>
    refine .inl ?_
    cases h with
    | skip lease id w next hu => exact Store.updateWorkflow_transfers hu
    | save lease id w batch next hc =>
      obtain ⟨saved, ids, hsave, hu⟩ := Claim.commit_eq_ok.1 hc
      exact (Store.updateWorkflow_transfers hu).trans (Store.saveTasks_frame hsave).2.1
    | settle lease w check next hu => exact Store.updateWorkflow_transfers hu
    | _ => rfl
  | transfer h =>
    cases h with
    | save lease t batch next hc =>
      obtain ⟨⟨saved, ids⟩, hsave, hu⟩ := bind_eq_ok.1 hc
      exact .inr ⟨t, t.submitted batch.length, saved, rfl, rfl, (Store.saveTasks_frame hsave).2.1,
        hu⟩
    | settle lease t progress next hu =>
      exact .inr ⟨t, t.tallied progress, s, rfl, rfl, rfl, hu⟩
    | _ => exact .inl rfl

theorem Tick.Advances.refiles {fresh : Queue → Except AssignError UInt64} {s next : Store}
    {tick tick' : Tick} {events : List Event} (h : Advances fresh s tick (next, tick', events)) :
    s.Refiles next := by
  rcases h.transfers with hsame | ⟨copy, new, saved, -, -, hsaved, hu⟩
  · exact .rest hsame
  · exact .updated hsaved hu

/-! ## Whose transactions there are -/

/-- The record that a row belongs to, and what the transaction is for. -/
def TaskRow.key (row : TaskRow) : String × Cell × String := (row.ownerKind, row.ownerId, row.type)

/-- A transaction belongs to a task that is filed, and moves funds the way the task does; or it is
the claim of a workflow. -/
inductive Store.Placed (s : Store) : String × Cell × String → Prop where
  | transfer {id : Int} {type : TransferType} {params : TransferParams} :
    s.Files id type params →
    Placed s ((TaskOwner.assetTransfer id).kind, .int id, type.transactionType.tag)
  | claim {id : Int} {params : String} : (id, params) ∈ s.workflowRecords →
    Placed s ((TaskOwner.workflow id).kind, .int id, TransactionType.claimFromVault.tag)

theorem Store.Placed.mono {s s' : Store} {key : String × Cell × String} (h : s.Placed key)
    (hfiles : ∀ id type params, s.Files id type params → s'.Files id type params)
    (hrecords : s.workflowRecords <+: s'.workflowRecords) : s'.Placed key := by
  cases h with
  | transfer hfiled => exact .transfer (hfiles _ _ _ hfiled)
  | claim hrecord => exact .claim (hrecords.subset hrecord)

theorem Store.keys_setTask (s : Store) (n : Int) (state : TransactionState) (message : String)
    (hash : Option TransactionHash) :
    (s.setTask n state message hash).tasks.rows.map TaskRow.key = s.tasks.rows.map TaskRow.key := by
  show (s.tasks.rows.map fun row => if decide (row.id = n) then row.reported state message hash
    else row).map TaskRow.key = _
  rw [List.map_map]
  refine List.map_congr_left fun row _ => ?_
  dsimp only [Function.comp_apply]
  split <;> rfl

/-- A batch adds the keys of its transactions. -/
theorem Store.keys_saveTasks {s s' : Store} {batch : List Prepared} {ids : List Int}
    (h : s.saveTasks batch = .ok (s', ids)) {key : String × Cell × String}
    (hkey : key ∈ s'.tasks.rows.map TaskRow.key) :
    key ∈ s.tasks.rows.map TaskRow.key
      ∨ ∃ p ∈ batch, key = (p.draft.owner.kind, .int p.draft.owner.id, p.draft.type.tag) := by
  rw [(saveTasks_rows h).1, List.map_append, List.mem_append] at hkey
  refine hkey.imp id fun hkey => ?_
  obtain ⟨row, hrow, rfl⟩ := List.mem_map.mp hkey
  obtain ⟨p, hp, id, rfl⟩ := exists_of_mem_zipWith hrow
  exact ⟨p, hp, rfl⟩

/-- **A tick writes no transaction that does not belong to its workflow or task.** -/
theorem Tick.Advances.placed {fresh : Queue → Except AssignError UInt64} {s next : Store}
    {tick tick' : Tick} {events : List Event} (h : Advances fresh s tick (next, tick', events))
    {id : Int} (hsound : tick.Sound) (htick : tick.Tracks s id) :
    ∀ key ∈ next.tasks.rows.map TaskRow.key,
      key ∈ s.tasks.rows.map TaskRow.key ∨ next.Placed key := by
  have hfiles := h.refiles
  intro key hkey
  cases h with
  | workflow h =>
    cases h with
    | skip lease n w next hu => exact .inl (Store.updateWorkflow_tasks hu ▸ hkey)
    | save lease n w batch next hc =>
      obtain ⟨saved, ids, hsave, hu⟩ := Claim.commit_eq_ok.1 hc
      rw [Store.updateWorkflow_tasks hu] at hkey
      refine (Store.keys_saveTasks hsave hkey).imp_right ?_
      rintro ⟨p, hp, rfl⟩
      rw [(hsound.2 p hp).1, (hsound.2 p hp).2]
      -- the workflow has been found when it was moved
      obtain ⟨-, ⟨row, hrow, hat⟩, -⟩ := Store.updateWorkflow_eq_ok.1 hu
      have hid : row.id = w.id := (of_decide_eq_true hat).1
      have hrecord : (w.id, row.params) ∈ next.workflowRecords := by
        rw [Store.records_updateWorkflow hu]
        exact List.mem_map.2 ⟨row, hrow, congrArg (·, row.params) hid⟩
      exact .claim hrecord
    | settle lease w check next hu => exact .inl (Store.updateWorkflow_tasks hu ▸ hkey)
    | _ => exact .inl hkey
  | transfer h =>
    cases h with
    | save lease t batch next hc =>
      obtain ⟨⟨saved, ids⟩, hsave, hu⟩ := bind_eq_ok.1 hc
      rw [(Store.updateTransfer_frame hu).2] at hkey
      refine (Store.keys_saveTasks hsave hkey).imp_right ?_
      rintro ⟨p, hp, rfl⟩
      have hmem : p.draft ∈ t.drafts := htick.2.2 ▸ List.mem_map_of_mem hp
      obtain ⟨call, -, hcall⟩ := List.mem_map.mp hmem
      rw [← hcall]
      exact .transfer (hfiles.files htick.2.1)
    | settle lease t progress next hu => exact .inl ((Store.updateTransfer_frame hu).2 ▸ hkey)
    | _ => exact .inl hkey

namespace World

/-- All moves spare the task when they are made. -/
def Spares (w : World) (id : Int) : List Move → Prop
  | [] => True
  | move :: moves => move.Spares w.store id ∧ (w.after move).Spares id moves

instance decidableSpares (id : Int) : (w : World) → (moves : List Move) →
    Decidable (w.Spares id moves)
  | _, [] => inferInstanceAs (Decidable True)
  | w, move :: moves =>
    have := decidableSpares id (w.after move) moves
    inferInstanceAs (Decidable (move.Spares w.store id ∧ (w.after move).Spares id moves))

/-- A move is about to write a task as `new`, from a copy that was loaded in this state. -/
inductive UpdatesTransfer (w : World) : TransferState → TransferTask → Move → Prop where
  | client (expected : TransferState) (new : TransferTask) :
    UpdatesTransfer w expected new (.updateTransfer expected new)
  /-- A tick writes the task that it works on. -/
  | tick {n : Nat} {ago : Queue → Nat} {tick : Tick} {copy new : TransferTask} :
    w.ticks[n]? = some tick → tick.task? = some copy → new.id = copy.id →
    UpdatesTransfer w copy.state new (.advance n ago)

/-- What a move makes of the transfer table, and by whose update. -/
inductive Reworks (w : World) (move : Move) (next : Store) : Prop where
  | rest : next.transfers = w.store.transfers → Reworks w move next
  | opened {rebalanceId : Int} {type : TransferType} {params : TransferParams} {new : Int} :
    w.store.insertTransfer rebalanceId type params = .ok (next, new) → Reworks w move next
  /-- Transactions may have been written before the update. -/
  | updated {expected : TransferState} {new : TransferTask} {saved : Store} :
    UpdatesTransfer w expected new move → saved.transfers = w.store.transfers →
    saved.updateTransfer expected new = .ok next → Reworks w move next

/-- **Every move reworks the transfer table in one of these ways.** -/
theorem reworks_after (w : World) (move : Move) : Reworks w move (w.after move).store := by
  cases move with
  | openWorkflow params =>
    rcases w.store.openWorkflow_cases params with h | ⟨new, h⟩
    · exact .rest (congrArg Store.transfers h)
    · exact .rest (Store.insertWorkflow_transfers h)
  | updateWorkflow expected copy =>
    simp only [after, become]
    cases h : w.store.updateWorkflow expected copy with
    | error e => exact .rest rfl
    | ok next => exact .rest (Store.updateWorkflow_transfers h)
  | createTransfer rebalanceId type params =>
    rcases w.store.createTransfer_cases rebalanceId type params with h | ⟨new, h⟩
    · exact .rest (congrArg Store.transfers h)
    · exact .opened h
  | updateTransfer expected copy =>
    simp only [after, become]
    cases h : w.store.updateTransfer expected copy with
    | error e => exact .rest rfl
    | ok next => exact .updated (.client expected copy) rfl h
  | setTask n state message hash => exact .rest rfl
  | startWorkflowTick desk turn => exact .rest rfl
  | startTransferTick chains turn => exact .rest rfl
  | advance n ago =>
    simp only [after, advance]
    cases hn : w.ticks[n]? with
    | none => exact .rest rfl
    | some tick =>
      rcases (tick.advances_step _ w.store).transfers with
        h | ⟨copy, new, saved, htask, hid, hsaved, hu⟩
      · exact .rest h
      · exact .updated (.tick hn htask hid) hsaved hu

theorem refiles_after (w : World) (move : Move) : w.store.Refiles (w.after move).store := by
  cases w.reworks_after move with
  | rest h => exact .rest h
  | opened h => exact .opened h
  | updated _ hsaved hu => exact .updated hsaved hu

/-- The task and its transactions go together, ticks know what they do, and all transactions have
their place. -/
structure SubmissionInv (w : World) (id : Int) : Prop where
  claims : ClaimInv w
  rules : w.store.TransferRules
  serves : w.store.Serves id
  tracks : ∀ tick ∈ w.ticks, tick.Tracks w.store id
  placed : ∀ key ∈ w.store.tasks.rows.map TaskRow.key, w.store.Placed key

theorem submissionInv_start (id : Int) : SubmissionInv (start .empty) id where
  claims := claimInv_start
  rules := Store.transferRules_empty
  serves := Store.serves_empty id
  tracks := by intro tick h; exact absurd h List.not_mem_nil
  placed := by intro key h; exact absurd h List.not_mem_nil

/-- **A move that spares a task keeps it and its transactions together.** -/
theorem submits_after {w : World} {id : Int} (h : SubmissionInv w id) {move : Move}
    (hmove : move.Spares w.store id) : w.store.Submits (w.after move).store id := by
  cases move with
  | openWorkflow params =>
    rcases w.store.openWorkflow_cases params with hsame | ⟨new, hopened⟩
    · exact Store.submits_of_tables (congrArg Store.transfers hsame) (congrArg Store.tasks hsame) id
    · exact Store.submits_of_tables (Store.insertWorkflow_transfers hopened)
        (Store.insertWorkflow_tasks hopened) id
  | updateWorkflow expected copy =>
    simp only [after, become]
    cases hu : w.store.updateWorkflow expected copy with
    | error e => exact Store.submits_of_tables rfl rfl id
    | ok next =>
      exact Store.submits_of_tables (Store.updateWorkflow_transfers hu)
        (Store.updateWorkflow_tasks hu) id
  | createTransfer rebalanceId type params =>
    rcases w.store.createTransfer_cases rebalanceId type params with hsame | ⟨new, hopened⟩
    · exact Store.submits_of_tables (congrArg Store.transfers hsame) (congrArg Store.tasks hsame) id
    · exact Store.submits_insertTransfer h.rules hopened id
  | updateTransfer expected copy =>
    simp only [after, become]
    cases hu : w.store.updateTransfer expected copy with
    | error e => exact Store.submits_of_tables rfl rfl id
    | ok next => exact Store.submits_updateTransfer h.rules hmove hu
  | setTask n state message hash =>
    exact .kept (Store.transferStates_congr rfl id) (Store.ages_setTask hmove message hash id)
  | startWorkflowTick desk turn => exact Store.submits_of_tables rfl rfl id
  | startTransferTick chains turn => exact Store.submits_of_tables rfl rfl id
  | advance n ago =>
    simp only [after, advance]
    cases hn : w.ticks[n]? with
    | none => exact Store.submits_of_tables rfl rfl id
    | some tick =>
      have hmem := List.mem_of_getElem? hn
      exact (tick.advances_step _ w.store).submits h.rules (h.claims.ticks tick hmem)
        (h.tracks tick hmem)

/-- **What a tick has found out stays true.** -/
theorem tracks_after {w : World} {id : Int} (h : SubmissionInv w id) {move : Move}
    (hmove : move.Spares w.store id) :
    ∀ tick ∈ (w.after move).ticks, tick.Tracks (w.after move).store id := by
  intro tick htick
  have hbefore : tick.Tracks w.store id := by
    cases w.arises_after move tick htick with
    | old hold => exact h.tracks tick hold
    | newWorkflow desk turn => trivial
    | newTransfer chains turn => trivial
    | @advance old _ _ _ _ hold hadvances =>
      exact hadvances.tracks h.rules h.serves (h.tracks old hold)
  exact hbefore.of_submits (submits_after h hmove) fun _ _ _ => (w.refiles_after move).files

/-- **No transaction is written out of its place.** -/
theorem placed_of_writes {w : World} {id : Int} (h : SubmissionInv w id) {next : Store}
    (hw : Writes w next) : ∀ key ∈ next.tasks.rows.map TaskRow.key,
      key ∈ w.store.tasks.rows.map TaskRow.key ∨ next.Placed key := by
  intro key hkey
  cases hw with
  | rest => exact .inl hkey
  | openWorkflow hopened => exact .inl (Store.insertWorkflow_tasks hopened ▸ hkey)
  | updateWorkflow hu => exact .inl (Store.updateWorkflow_tasks hu ▸ hkey)
  | createTransfer hopened => exact .inl ((Store.insertTransfer_frame hopened).2 ▸ hkey)
  | updateTransfer hu => exact .inl ((Store.updateTransfer_frame hu).2 ▸ hkey)
  | setTask n state message hash => exact .inl (w.store.keys_setTask n state message hash ▸ hkey)
  | advance htick hadvances =>
    exact hadvances.placed (h.claims.ticks _ htick) (h.tracks _ htick) key hkey

/-- **Tasks that go together with their transactions go on doing so.** -/
theorem submissionInv_after {w : World} {id : Int} (h : SubmissionInv w id) {move : Move}
    (hmove : move.Spares w.store id) : SubmissionInv (w.after move) id where
  claims := claimInv_after h.claims move
  rules := (w.refiles_after move).rules h.rules
  serves := h.serves.of_submits (submits_after h hmove) fun _ _ => (w.refiles_after move).files
  tracks := tracks_after h hmove
  placed := by
    intro key hkey
    rcases placed_of_writes h (w.writes_after move) key hkey with hold | hnew
    · exact (h.placed key hold).mono (fun _ _ _ => (w.refiles_after move).files)
        (w.rewrites_after move).records
    · exact hnew

theorem submissionInv_run {w : World} {id : Int} (h : SubmissionInv w id) {moves : List Move}
    (hmoves : w.Spares id moves) : SubmissionInv (w.run moves) id := by
  induction moves generalizing w with
  | nil => exact h
  | cons move moves ih => exact ih (submissionInv_after h hmoves.1) hmoves.2

/-- The transactions of a task that has been submitted are the same ones later. -/
theorem ages_run {w : World} {id : Int} (h : SubmissionInv w id) (hlaunched : w.store.Launched id)
    {moves : List Move} (hmoves : w.Spares id moves) :
    List.Forall₂ TaskRow.Ages (w.store.ownedRows id) ((w.run moves).store.ownedRows id) := by
  induction moves generalizing w with
  | nil => exact List.forall₂_same.2 fun row _ => .refl row
  | cons move moves ih =>
    obtain ⟨hlaunched, hages⟩ := Store.launched_of_submits hlaunched (submits_after h hmoves.1)
    exact forall₂_trans hages (ih (submissionInv_after h hmoves.1) hlaunched hmoves.2)
      fun _ _ _ _ => TaskRow.Ages.trans

/-- How a task and its transactions stand after some moves. -/
structure Submitted (s : Store) (id : Int) : Prop where
  /-- The number stands for no task, or for one, which is in one state and whose calls can be
  read. -/
  filed : s.transferStates id = []
    ∨ ∃ state type params, s.transferStates id = [TransferState.tag state] ∧ s.Files id type params
  /-- What is filed under it is one type and one list of calls. -/
  files_inj : ∀ type params type' params', s.Files id type params → s.Files id type' params' →
    type = type' ∧ params = params'
  /-- No transactions belong to it before it is submitted; then one for each of its calls, in their
  order; and its success or failure is theirs. -/
  serves : s.Serves id
  /-- No transaction is anybody else's: each belongs to a task that is filed, and is of its type,
  or is the claim of a workflow. -/
  placed : ∀ row ∈ s.tasks.rows, s.Placed row.key

/--
**A transfer is submitted once, and as a whole.**

From an empty store on, in whatever order things happen, with ticks as slow as they may be and on
copies as old as they may be, as long as the states of the task are left to ticks and the pipeline
leaves what has settled. Once the task has been submitted its transactions are the same ones for
good.
-/
theorem submitted_run (moves : List Move) (id : Int) (hmoves : (start .empty).Spares id moves) :
    Submitted ((start .empty).run moves).store id
      ∧ ∀ later, ((start .empty).run moves).Spares id later →
        ((start .empty).run moves).store.Launched id →
        List.Forall₂ TaskRow.Ages (((start .empty).run moves).store.ownedRows id)
          (((start .empty).run (moves ++ later)).store.ownedRows id) := by
  have h := submissionInv_run (submissionInv_start id) hmoves
  refine ⟨⟨h.rules.filed id, fun _ _ _ _ => h.rules.files_inj, h.serves, fun row hrow =>
    h.placed _ (List.mem_map_of_mem hrow)⟩, fun later hlater hlaunched => ?_⟩
  rw [run_append]
  exact ages_run h hlaunched hlater

/-- One call is submitted, and the pipeline reports that it has succeeded: the task is under way, and
its one transaction is through. -/
theorem submitted_run_oneCall :
    let call : TransferCall := ⟨56, "", ⟨List.replicate 20 1, rfl⟩, ⟨List.replicate 20 2, rfl⟩,
      [], "", .zero⟩
    let moves : List Move :=
      [.createTransfer 1 .outward ⟨[call]⟩, .startTransferTick Claim.oneClaimDesk.chains ⟨0, "a"⟩]
        ++ List.replicate 5 (.advance 0 fun _ => 0) ++ [.setTask 1 .success "" none]
    (start .empty).Spares 1 moves ∧ Submitted ((start .empty).run moves).store 1
      ∧ ((start .empty).run moves).store.transferStates 1 = [TransferState.ongoing.tag]
      ∧ (((start .empty).run moves).store.ownedRows 1).map (·.state) =
        [TransactionState.success.tag] := by
  intro call moves
  -- the run is carried out once for all three
  have hrun : (start .empty).Spares 1 moves
      ∧ ((start .empty).run moves).store.transferStates 1 = [TransferState.ongoing.tag]
      ∧ (((start .empty).run moves).store.ownedRows 1).map (·.state) =
        [TransactionState.success.tag] := by
    decide +kernel
  exact ⟨hrun.1, (submitted_run moves 1 hrun.1).1, hrun.2⟩

end World

end Treasury
