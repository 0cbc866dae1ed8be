import Mathlib.Data.List.Induction
import Treasury.Proofs.Claim.Stage
import Treasury.Proofs.Store.Loading
import Treasury.Proofs.World.Nonces

/-!
# What was written is found

Transactions are written in batches, by ticks or by whoever else prepares some (`Act`). All that is
ever done to one afterwards is to report on it. So the transaction table is at any time the list of
all transactions so far, each with the last report about it (`holds_acts`): a batch is found in one
piece among the transactions of its records, however much is written before and after it.

The list is in the order of the numbers, so the batch is known by its numbers
(`filter_numbers`).
-/

namespace Treasury

/-- What is done: a move, or a batch that somebody writes. -/
inductive Act where
  | move (move : Move)
  | save (batch : List Prepared)

/-- What the pipeline has to say of a transaction. -/
structure Report where
  state : TransactionState
  message : String
  hash : Option TransactionHash

namespace Act

/-- The report about a transaction, if the act is one. -/
def report? (id : Int) : Act → Option Report
  | move (.setTask n state message hash) => if n = id then some ⟨state, message, hash⟩ else none
  | _ => none

/-- All reports about a transaction, the first one first. -/
def reports (id : Int) (acts : List Act) : List Report := acts.filterMap (report? id)

/-- Batches are of claims and of calls that were wanted. -/
def Recorded : Act → Prop
  | move _ => True
  | save batch => ∀ p ∈ batch, p.draft.Recorded

/-- What an act makes of a transaction that is there. -/
def on : Act → Task → Task
  | move (.setTask id state message hash), t => t.reported id state message hash
  | _, t => t

end Act

/-- A transaction of a batch after these reports: it is where the last of them says, and has the last
hash that any has given. -/
def Prepared.taskAfter (p : Prepared) (id : Int) (reports : List Report) : Task :=
  { p.taskAt id with
    state := (reports.getLast?.map (·.state)).getD .unsigned
    message := (reports.getLast?.map (·.message)).getD ""
    hash := (reports.filterMap Report.hash).getLast? }

/-- A report makes of a transaction what all reports with this one say. -/
theorem Prepared.on_taskAfter (p : Prepared) (id : Int) (reports : List Report) (act : Act) :
    act.on (p.taskAfter id reports) = p.taskAfter id (reports ++ (act.report? id).toList) := by
  cases act with
  | save batch => exact congrArg (p.taskAfter id) (List.append_nil reports).symm
  | move move =>
    cases move with
    | setTask n state message hash =>
      show (p.taskAfter id reports).reported n state message hash = p.taskAfter id
        (reports ++ (if n = id then some (⟨state, message, hash⟩ : Report) else none).toList)
      unfold Task.reported
      by_cases hn : n = id
      · have hid : (p.taskAfter id reports).id = n := hn.symm
        have hhash : hash.orElse (fun _ => (reports.filterMap Report.hash).getLast?) =
            ((reports ++ [(⟨state, message, hash⟩ : Report)]).filterMap Report.hash).getLast? := by
          cases hash <;> simp [List.filterMap_append]
        rw [if_pos hid, if_pos hn]
        simp only [taskAfter, hhash, Option.toList_some, List.getLast?_concat, Option.map_some,
          Option.getD_some]
      · have hid : (p.taskAfter id reports).id ≠ n := Ne.symm hn
        rw [if_neg hid, if_neg hn, Option.toList_none, List.append_nil]
    | _ => exact congrArg (p.taskAfter id) (List.append_nil reports).symm

/-- **After all acts a transaction is what the reports about it say.** -/
theorem Prepared.foldl_on (p : Prepared) (id : Int) (acts : List Act) :
    acts.foldl (fun t act => act.on t) (p.taskAt id) = p.taskAfter id (Act.reports id acts) := by
  induction acts using List.reverseRecOn with
  | nil => rfl
  | append_singleton acts act ih =>
    have hreports : Act.reports id (acts ++ [act]) =
        Act.reports id acts ++ (act.report? id).toList := by
      unfold Act.reports
      rw [List.filterMap_append]
      cases h : act.report? id <;> simp [h]
    rw [List.foldl_append, ih, hreports]
    exact p.on_taskAfter id _ act

/-! ## What ticks are about to write -/

/-- What a tick has drafted is a claim, or a call of its task. -/
def Tick.Recorded : Tick → Prop
  | .workflow _ _ (.executing _ _ (.drafted _ drafts)) => ∀ d ∈ drafts, d.Recorded
  | tick => ∀ p ∈ tick.batch, p.draft.Recorded

/-- Every draft of a plan is the claim that it is for. -/
theorem Claim.recorded_of_plan {desk : Desk} {id : Int} {snapshot : Snapshot} {drafts : List Draft}
    (h : plan desk id snapshot = .ok (some drafts)) : ∀ d ∈ drafts, d.Recorded := by
  obtain ⟨_, _, claims, _, hdrafts⟩ := plan_eq_ok.1 h
  intro d hd
  obtain ⟨p, _, hp⟩ := exists_mem_of_forall₂ hdrafts hd
  obtain ⟨_, _, _, _, rfl⟩ := draft_eq_ok.1 hp
  exact .inl ⟨p, rfl⟩

theorem Tick.Recorded.batch {tick : Tick} (h : tick.Recorded) :
    ∀ p ∈ tick.batch, p.draft.Recorded := by
  unfold Recorded at h
  split at h
  · intro p hp
    exact absurd hp List.not_mem_nil
  · exact h

theorem Tick.Advances.recorded {fresh : Queue → Except AssignError UInt64} {s next : Store}
    {tick tick' : Tick} {events : List Event} (h : Advances fresh s tick (next, tick', events))
    (htick : tick.Recorded) : tick'.Recorded := by
  have hnone : ∀ p ∈ ([] : List Prepared), p.draft.Recorded := fun p hp =>
    absurd hp List.not_mem_nil
  cases h with
  | workflow h =>
    cases h with
    | draft lease id w snapshot drafts _ hplan => exact Claim.recorded_of_plan hplan
    | prepare lease id w drafts batch _ hb =>
      exact fun p hp => htick p.draft (GasAssigner.draft_mem_of_assignFrom hb p hp)
    | _ => exact hnone
  | transfer h =>
    cases h with
    | prepare lease t batch hb =>
      intro p hp
      obtain ⟨call, _, hcall⟩ := List.mem_map.mp (GasAssigner.draft_mem_of_assignFrom hb p hp)
      rw [← hcall]
      exact .inr ⟨call, rfl⟩
    | _ => exact hnone

namespace World

/-- The world after an act. A batch that is refused leaves the store as it is. -/
def act (w : World) : Act → World
  | .move move => w.after move
  | .save batch => w.become (((w.store.saveTasks batch).toOption.map (·.1)).getD w.store)

/-- The world after some acts. -/
def acts (w : World) (list : List Act) : World := list.foldl act w

theorem acts_append (w : World) (earlier later : List Act) :
    w.acts (earlier ++ later) = (w.acts earlier).acts later :=
  List.foldl_append

/-- The act has written the batch, under these numbers. -/
def Commits (w : World) (act : Act) (batch : List Prepared) (ids : List Int) : Prop :=
  ∃ saved, w.store.saveTasks batch = .ok (saved, ids) ∧ (w.act act).store.tasks = saved.tasks

/-- Whoever writes a batch has written it, unless it is refused. -/
theorem commits_save {w : World} {batch : List Prepared} {ids : List Int}
    (h : (w.store.saveTasks batch).toOption.map (·.2) = some ids) :
    w.Commits (.save batch) batch ids := by
  cases hsave : w.store.saveTasks batch with
  | error e =>
    rw [hsave] at h
    exact absurd h (by simp [Except.toOption])
  | ok r =>
    rw [hsave] at h
    obtain rfl : r.2 = ids := Option.some.inj h
    refine ⟨r.1, hsave, ?_⟩
    show (((w.store.saveTasks batch).toOption.map (·.1)).getD w.store).tasks = _
    rw [hsave]
    rfl

/-- What an act makes of the transaction table. -/
inductive Appends (w : World) (act : Act) : Prop where
  | rest : (∀ t, act.on t = t) → (w.act act).store.tasks = w.store.tasks → Appends w act
  | reports (id : Int) (state : TransactionState) (message : String)
    (hash : Option TransactionHash) : act = .move (.setTask id state message hash) → Appends w act
  | saves (batch : List Prepared) (ids : List Int) : (∀ t, act.on t = t) →
    (∀ p ∈ batch, p.draft.Recorded) → w.Commits act batch ids → Appends w act

/-- Rows have their numbers, each is that of a transaction, and ticks know what they write. -/
structure TaskInv (w : World) : Prop where
  numbered : w.store.tasks.Numbered TaskRow.id
  holds : ∃ tasks, w.store.Holds tasks
  recorded : ∀ tick ∈ w.ticks, tick.Recorded

theorem taskInv_start : TaskInv (start .empty) where
  numbered := .empty
  holds := ⟨[], Store.holds_empty⟩
  recorded := by intro tick h; exact absurd h List.not_mem_nil

/-- **Every act leaves the transactions alone, reports on one, or writes a batch.** -/
theorem appends_act {w : World} (hw : ∀ tick ∈ w.ticks, tick.Recorded) {act : Act}
    (hact : act.Recorded) : Appends w act := by
  cases act with
  | save batch =>
    cases hsave : w.store.saveTasks batch with
    | error e =>
      refine .rest (fun _ => rfl) ?_
      show (((w.store.saveTasks batch).toOption.map (·.1)).getD w.store).tasks = _
      rw [hsave]
      rfl
    | ok r => exact .saves batch r.2 (fun _ => rfl) hact (commits_save (by rw [hsave]; rfl))
  | move move =>
    cases move with
    | openWorkflow params =>
      refine .rest (fun _ => rfl) ?_
      rcases w.store.openWorkflow_cases params with hsame | ⟨id, hopened⟩
      · exact congrArg Store.tasks hsame
      · exact Store.insertWorkflow_tasks hopened
    | updateWorkflow expected copy =>
      refine .rest (fun _ => rfl) ?_
      show ((w.store.updateWorkflow expected copy).toOption.getD w.store).tasks = _
      cases hu : w.store.updateWorkflow expected copy with
      | error e => rfl
      | ok next => exact Store.updateWorkflow_tasks hu
    | createTransfer rebalanceId type params =>
      refine .rest (fun _ => rfl) ?_
      rcases w.store.createTransfer_cases rebalanceId type params with hsame | ⟨id, hopened⟩
      · exact congrArg Store.tasks hsame
      · exact (Store.insertTransfer_frame hopened).2
    | updateTransfer expected copy =>
      refine .rest (fun _ => rfl) ?_
      show ((w.store.updateTransfer expected copy).toOption.getD w.store).tasks = _
      cases hu : w.store.updateTransfer expected copy with
      | error e => rfl
      | ok next => exact (Store.updateTransfer_frame hu).2
    | setTask id state message hash => exact .reports id state message hash rfl
    | startWorkflowTick desk turn => exact .rest (fun _ => rfl) rfl
    | startTransferTick chains turn => exact .rest (fun _ => rfl) rfl
    | advance n ago =>
      cases hn : w.ticks[n]? with
      | none => exact .rest (fun _ => rfl) (congrArg (·.store.tasks) (advance_of_none hn ago))
      | some tick =>
        -- the nonces may have been looked up in an earlier store, but this one is written to
        have hadvances := tick.advances_step
          (fun queue => (w.storeAgo (ago queue)).freshNonce queue) w.store
        have hnext := congrArg (·.store.tasks) (advance_of_some hn ago rfl)
        rcases hadvances.tasks with hsame | ⟨saved, ids, hsave, htasks⟩
        · exact .rest (fun _ => rfl) (hnext.trans hsame)
        · exact .saves tick.batch ids (fun _ => rfl) (hw tick (List.mem_of_getElem? hn)).batch
            ⟨saved, hsave, hnext.trans htasks⟩

/-- **The list of transactions goes on as it is**, up to reports. -/
theorem Appends.holds {w : World} {act : Act} (h : Appends w act) {tasks : List Task}
    (hw : w.store.Holds tasks) :
    ∃ new, (w.act act).store.Holds (tasks.map act.on ++ new) := by
  have hsame : (∀ t, act.on t = t) → tasks.map act.on = tasks := fun hon =>
    (List.map_congr_left fun t _ => hon t).trans (List.map_id _)
  cases h with
  | rest hon htasks =>
    refine ⟨[], ?_⟩
    rw [hsame hon, List.append_nil]
    exact hw.congr htasks
  | reports id state message hash hact =>
    subst hact
    refine ⟨[], ?_⟩
    rw [List.append_nil]
    exact hw.setTask id state message hash
  | saves batch ids hon hbatch hcommits =>
    obtain ⟨saved, hsave, htasks⟩ := hcommits
    refine ⟨batch.zipWith Prepared.taskAt ids, ?_⟩
    rw [hsame hon]
    exact (hw.saveTasks hsave hbatch).congr htasks

theorem Appends.numbered {w : World} {act : Act} (h : Appends w act)
    (hw : w.store.tasks.Numbered TaskRow.id) : (w.act act).store.tasks.Numbered TaskRow.id := by
  cases h with
  | rest _ htasks => exact htasks ▸ hw
  | reports id state message hash hact =>
    subst hact
    exact Store.numbered_setTask hw id state message hash
  | saves batch ids _ _ hcommits =>
    obtain ⟨saved, hsave, htasks⟩ := hcommits
    exact htasks ▸ Store.numbered_saveTasks hsave hw

theorem recorded_act {w : World} (hw : ∀ tick ∈ w.ticks, tick.Recorded) (act : Act) :
    ∀ tick ∈ (w.act act).ticks, tick.Recorded := by
  cases act with
  | save batch => exact hw
  | move move =>
    intro tick htick
    cases w.arises_after move tick htick with
    | old hold => exact hw tick hold
    | newWorkflow desk turn => exact fun p hp => absurd hp List.not_mem_nil
    | newTransfer chains turn => exact fun p hp => absurd hp List.not_mem_nil
    | @advance old _ _ _ _ hold hadvances => exact hadvances.recorded (hw old hold)

theorem taskInv_act {w : World} (h : TaskInv w) {act : Act} (hact : act.Recorded) :
    TaskInv (w.act act) := by
  have happends := appends_act h.recorded hact
  obtain ⟨tasks, htasks⟩ := h.holds
  obtain ⟨new, hnew⟩ := happends.holds htasks
  exact ⟨happends.numbered h.numbered, ⟨_, hnew⟩, recorded_act h.recorded act⟩

theorem taskInv_acts {w : World} (h : TaskInv w) {list : List Act}
    (hlist : ∀ act ∈ list, act.Recorded) : TaskInv (w.acts list) := by
  induction list generalizing w with
  | nil => exact h
  | cons act list ih =>
    obtain ⟨hact, hlist⟩ := List.forall_mem_cons.1 hlist
    exact ih (taskInv_act h hact) hlist

/-- **Whatever is on the list stays on it, up to reports.** -/
theorem holds_acts {w : World} (h : TaskInv w) {tasks : List Task} (hw : w.store.Holds tasks)
    {list : List Act} (hlist : ∀ act ∈ list, act.Recorded) :
    ∃ new, (w.acts list).store.Holds
      (tasks.map (fun t => list.foldl (fun t act => act.on t) t) ++ new) := by
  -- what an act appends is among the transactions that the later acts report on
  induction list generalizing w tasks with
  | nil =>
    refine ⟨[], ?_⟩
    rw [List.append_nil]
    exact (List.map_id tasks).symm ▸ hw
  | cons act list ih =>
    obtain ⟨hact, hlist⟩ := List.forall_mem_cons.1 hlist
    obtain ⟨new, hnew⟩ := (appends_act h.recorded hact).holds hw
    obtain ⟨later, hlater⟩ := ih (taskInv_act h hact) hnew hlist
    rw [List.map_append, List.map_map, List.append_assoc] at hlater
    exact ⟨_, hlater⟩

/-- After any moves, the transaction table is a list of transactions. -/
theorem holds_run (moves : List Move) : ∃ tasks, ((start .empty).run moves).store.Holds tasks := by
  have hacts : (start .empty).acts (moves.map .move) = (start .empty).run moves := List.foldl_map
  rw [← hacts]
  refine (taskInv_acts taskInv_start ?_).holds
  exact List.forall_mem_map.2 fun _ _ => trivial

/--
**What was written is found.**

From an empty store on, whoever moves, reports or writes batches of claims and calls in whichever
order: the transactions of a batch that was written are found under their numbers among those of
their record and type, in the order of the batch, as they were prepared, and where the last report
has brought each of them.
-/
theorem written_acts {earlier later : List Act} {act : Act} {batch : List Prepared}
    {ids : List Int} (hacts : ∀ act' ∈ earlier ++ act :: later, act'.Recorded)
    (hbatch : ∀ p ∈ batch, p.draft.Recorded)
    (hcommits : ((start .empty).acts earlier).Commits act batch ids) :
    ids.Pairwise (· < ·) ∧ ids.length = batch.length
      ∧ ∀ owner type, ∃ tasks,
        ((start .empty).acts (earlier ++ act :: later)).store.findTasks owner type = .ok tasks
          ∧ tasks.Pairwise (fun a b => a.id < b.id)
          ∧ tasks.filter (fun t => t.id ∈ ids) =
            (batch.zipWith (fun p id => p.taskAfter id (Act.reports id later)) ids).filter
              fun t => t.draft.owner = owner ∧ t.draft.type = type := by
  have hbefore := taskInv_acts taskInv_start fun a ha => hacts a (List.mem_append_left _ ha)
  obtain ⟨hact, hlater⟩ := List.forall_mem_cons.1 fun a ha => hacts a (List.mem_append_right _ ha)
  have hafter := taskInv_act hbefore hact
  obtain ⟨old, hold⟩ := hbefore.holds
  obtain ⟨saved, hsave, htasks⟩ := hcommits
  -- the batch stands behind what was there, and goes on standing there
  obtain ⟨new, hnew⟩ := holds_acts hafter ((hold.saveTasks hsave hbatch).congr htasks) hlater
  have hrun : (((start .empty).acts earlier).act act).acts later =
      (start .empty).acts (earlier ++ act :: later) := (acts_append _ earlier (act :: later)).symm
  have hnumbered := (taskInv_acts hafter hlater).numbered.increasing
  rw [hrun] at hnew hnumbered
  rw [hnew.rows, List.pairwise_map] at hnumbered
  change List.Pairwise (fun a b : Task => a.id < b.id) _ at hnumbered
  have hlength := (Store.saveTasks_rows hsave).2
  have hmap : (batch.zipWith Prepared.taskAt ids).map
      (fun t => later.foldl (fun t act => act.on t) t) =
        batch.zipWith (fun p id => p.taskAfter id (Act.reports id later)) ids := by
    rw [List.map_zipWith]
    simp only [Prepared.foldl_on]
  have hids : (batch.zipWith (fun p id => p.taskAfter id (Act.reports id later)) ids).map
      (·.id) = ids := by
    rw [List.map_zipWith, ← List.map_uncurry_zip_eq_zipWith]
    exact List.map_snd_zip (Nat.le_of_eq hlength)
  rw [List.map_append, hmap] at hnew hnumbered
  refine ⟨?_, hlength, fun owner type => ⟨_, hnew.findTasks owner type, hnumbered.filter _, ?_⟩⟩
  · rw [← hids, List.pairwise_map]
    exact (List.pairwise_append.1 (List.pairwise_append.1 hnumbered).1).2.1
  · have hpiece := filter_numbers hnumbered
    rw [hids] at hpiece
    rw [List.filter_filter]
    refine Eq.trans ?_ (congrArg (List.filter _) hpiece)
    rw [List.filter_filter]
    exact List.filter_congr fun t _ => Bool.and_comm _ _

/-- Two transactions of different records are written behind another one. One of them is reported on
twice, the second time without a hash. -/
theorem written_acts_twoRecords :
    let sender : Address := ⟨List.replicate 20 1, rfl⟩
    let claim : ClaimParam := ⟨56, "bsc", sender, []⟩
    let call : TransferCall := ⟨56, "bsc", sender, sender, [7], "USDT", .vanished true⟩
    let hash : TransactionHash := ⟨List.replicate 32 9, rfl⟩
    let claimed (nonce : UInt64) : Prepared :=
      ⟨⟨.workflow 1, .claimFromVault, 56, "bsc", sender, sender, [1, 2], claim.toJson.sorted⟩,
        ⟨nonce, .ofUInt64 5, 21000⟩⟩
    let moved : Prepared :=
      ⟨⟨.assetTransfer 1, .assetTransferOut, 56, "bsc", sender, sender, [7], call.toJson.sorted⟩,
        ⟨2, .ofUInt64 5, 21000⟩⟩
    let earlier : List Act := [.save [claimed 0]]
    let batch : List Prepared := [claimed 1, moved]
    let later : List Act :=
      [.move (.setTask 2 .submitted "sent" (some hash)), .save [claimed 1, claimed 3],
        .move (.setTask 2 .success "done" none)]
    (∀ act ∈ earlier ++ .save batch :: later, act.Recorded) ∧ (∀ p ∈ batch, p.draft.Recorded)
      ∧ ((start .empty).acts earlier).Commits (.save batch) batch [2, 3]
      ∧ ∃ tasks, ((start .empty).acts (earlier ++ .save batch :: later)).store.findTasks
          (.workflow 1) .claimFromVault = .ok tasks
        ∧ tasks.filter (fun t => t.id ∈ [2, 3]) =
          [⟨2, (claimed 1).draft, (claimed 1).gas, .success, "done", some hash⟩] := by
  intro sender claim call hash claimed moved earlier batch later
  have hclaimed : ∀ nonce, (claimed nonce).draft.Recorded := fun _ => .inl ⟨claim, rfl⟩
  have hbatch : ∀ p ∈ batch, p.draft.Recorded :=
    List.forall_mem_cons.2 ⟨hclaimed 1, List.forall_mem_singleton.2 (.inr ⟨call, rfl⟩)⟩
  have hacts : ∀ act ∈ earlier ++ .save batch :: later, act.Recorded := by
    refine List.forall_mem_cons.2 ⟨List.forall_mem_singleton.2 (hclaimed 0), ?_⟩
    refine List.forall_mem_cons.2 ⟨hbatch, List.forall_mem_cons.2 ⟨trivial, ?_⟩⟩
    refine List.forall_mem_cons.2 ⟨?_, List.forall_mem_singleton.2 trivial⟩
    exact List.forall_mem_cons.2 ⟨hclaimed 1, List.forall_mem_singleton.2 (hclaimed 3)⟩
  have hids : (((start .empty).acts earlier).store.saveTasks batch).toOption.map (·.2) =
      some [2, 3] := by decide +kernel
  have hcommits : ((start .empty).acts earlier).Commits (.save batch) batch [2, 3] :=
    commits_save hids
  obtain ⟨-, -, hfound⟩ := written_acts hacts hbatch hcommits
  obtain ⟨tasks, htasks, -, hpiece⟩ := hfound (.workflow 1) .claimFromVault
  exact ⟨hacts, hbatch, hcommits, tasks, htasks, hpiece⟩

end World

end Treasury
