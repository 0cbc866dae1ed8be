import Treasury.Proofs.Store.Settlement
import Treasury.Proofs.Store.TransferTable
import Treasury.Tick.Transfer

/-!
# Transfer tasks and their transactions

The transactions of a task are the rows that belong to it, of whatever type. They are written with
the move of the task out of its first state, one row for each call of the task
(`submits_commit`); from then on the pipeline reports on them (`TaskRow.Ages`), and the task is
moved by what somebody has read of them (`submits_tally`).

`Submits` says what one write can mean for a task, and `Serves` what its state says of its
transactions; what it says goes on being true (`Serves.of_submits`).
-/

namespace Treasury

/-! ## Rows -/

/-- The row of a transaction that carries out a call of a task of this type. -/
structure TaskRow.Carries (type : TransferType) (call : TransferCall) (row : TaskRow) : Prop where
  type : row.type = type.transactionType.tag
  chainId : row.chainId = .int call.chainId.toNat
  chainName : row.chainName = call.chainName
  sender : row.sender = call.sender.toText
  receiver : row.receiver = call.receiver.toText
  inputData : row.inputData = Hex.toText call.inputData

/-- A row at two times: the pipeline may have reported on it, but has left it where it had
settled. -/
structure TaskRow.Ages (old new : TaskRow) : Prop where
  reported : ∃ state message hash updatedAt,
    new = { old with state := state, message := message, hash := hash, updatedAt := updatedAt }
  lasts : Lasts old.state new.state

theorem TaskRow.Ages.refl (row : TaskRow) : Ages row row :=
  ⟨⟨row.state, row.message, row.hash, row.updatedAt, rfl⟩, .refl _⟩

theorem TaskRow.Ages.trans {a b c : TaskRow} (hab : Ages a b) (hbc : Ages b c) : Ages a c := by
  obtain ⟨⟨state, message, hash, updatedAt, rfl⟩, hlasts⟩ := hab
  obtain ⟨⟨state', message', hash', updatedAt', rfl⟩, hlasts'⟩ := hbc
  exact ⟨⟨state', message', hash', updatedAt', rfl⟩, hlasts.trans hlasts'⟩

/-- A row carries out its call whatever is reported of it. -/
theorem TaskRow.Carries.of_ages {type : TransferType} {call : TransferCall} {old new : TaskRow}
    (h : Carries type call old) (hages : Ages old new) : Carries type call new := by
  obtain ⟨⟨_, _, _, _, rfl⟩, -⟩ := hages
  exact ⟨h.type, h.chainId, h.chainName, h.sender, h.receiver, h.inputData⟩

theorem TaskRow.lasts_of_ages {olds news : List TaskRow} (h : List.Forall₂ Ages olds news) :
    List.Forall₂ Lasts (olds.map (·.state)) (news.map (·.state)) := by
  rw [List.forall₂_map_left_iff, List.forall₂_map_right_iff]
  exact h.imp fun _ _ hages => hages.lasts

/-- The rows of the prepared drafts of a task carry out its calls, one by one. -/
theorem TransferTask.carries_zipWith {t : TransferTask} {batch : List Prepared} {ids : List Int}
    (hdrafts : batch.map Prepared.draft = t.drafts) (hids : ids.length = batch.length) :
    List.Forall₂ (TaskRow.Carries t.type) t.params.transfers (batch.zipWith Prepared.rowAt ids) := by
  have hdrafted : List.Forall₂ (fun d (p : Prepared) => d = p.draft) t.drafts batch := by
    rw [← hdrafts, List.forall₂_map_left_iff, List.forall₂_same]
    exact fun _ _ => rfl
  rw [drafts, List.forall₂_map_left_iff] at hdrafted
  refine forall₂_trans hdrafted (Store.forall₂_zipWith hids) ?_
  rintro call - p row hdraft ⟨id, rfl⟩
  constructor <;> simp [Prepared.rowAt, ← hdraft]

/-! ## Tallies -/

namespace TransferTask

/-- Whatever the tally, a task that has been submitted is never new again. -/
theorem stateOf_ne_init (progress : Progress) : stateOf progress ≠ .init := by
  unfold stateOf
  split
  · decide
  · split <;> decide

theorem stateOf_eq_success {tasks : List Task} (h : stateOf (Progress.ofTasks tasks) = .success) :
    ∀ t ∈ tasks, t.state = .success := by
  unfold stateOf at h
  split at h
  · exact absurd h (by decide)
  · split at h
    · rename_i hall
      exact Progress.allSucceeded_ofTasks.1 hall
    · exact absurd h (by decide)

theorem stateOf_eq_failed {tasks : List Task} (h : stateOf (Progress.ofTasks tasks) = .failed) :
    ∃ t ∈ tasks, t.state = .failed := by
  unfold stateOf at h
  split at h
  · rename_i hone
    exact Progress.hasFailures_ofTasks.1 hone
  · split at h <;> exact absurd h (by decide)

end TransferTask

namespace Store

/-- The rows of the transactions that belong to a task, of whatever type. -/
def ownedRows (s : Store) (id : Int) : List TaskRow :=
  s.tasks.rows.filter fun row =>
    row.ownerKind = (TaskOwner.assetTransfer id).kind ∧ row.ownerId = .int id

theorem ownedRows_congr {s s' : Store} (h : s'.tasks = s.tasks) (id : Int) :
    s'.ownedRows id = s.ownedRows id := by
  unfold ownedRows
  rw [h]

/-! ## What a write does to the transactions of a task -/

/-- A batch of others adds nothing to what a task owns. -/
theorem ownedRows_saveTasks_of_ne {s s' : Store} {batch : List Prepared} {ids : List Int}
    {id : Int} (h : s.saveTasks batch = .ok (s', ids))
    (hb : ∀ p ∈ batch, p.draft.owner ≠ .assetTransfer id) :
    s'.ownedRows id = s.ownedRows id := by
  refine filter_saveTasks_of_none h fun p hp n => ?_
  have hne := hb p hp
  cases howner : p.draft.owner with
  | workflow other => simp [Prepared.rowAt, howner, TaskOwner.kind]
  | assetTransfer other =>
    have hid : other ≠ id := fun he => hne (howner.trans (congrArg TaskOwner.assetTransfer he))
    simp [Prepared.rowAt, howner, TaskOwner.id, hid]

/-- A report of the pipeline that keeps what has settled ages the transactions. -/
theorem ages_setTask {s : Store} {n : Int} {state : TransactionState}
    (h : s.KeepsSettled n state) (message : String) (hash : Option TransactionHash) (id : Int) :
    List.Forall₂ TaskRow.Ages (s.ownedRows id) ((s.setTask n state message hash).ownedRows id) := by
  unfold ownedRows
  rw [filter_setTask s n fun _ => rfl, List.forall₂_map_right_iff, List.forall₂_same]
  intro row hrow
  split
  · rename_i hid
    exact ⟨⟨_, _, _, _, rfl⟩, h row (List.mem_of_mem_filter hrow) hid⟩
  · exact .refl row

/-- What one write can mean for a task and its transactions. -/
inductive Submits (s s' : Store) (id : Int) : Prop where
  /-- The task stays where it is, and its transactions are the same ones. -/
  | kept : s'.transferStates id = s.transferStates id →
    List.Forall₂ TaskRow.Ages (s.ownedRows id) (s'.ownedRows id) → Submits s s' id
  | opened : s.transferStates id = [] → s'.transferStates id = [TransferState.init.tag] →
    s'.ownedRows id = s.ownedRows id → Submits s s' id
  /-- Its calls have just been written, one row for each. -/
  | submitted (type : TransferType) (params : TransferParams) (rows : List TaskRow) :
    s.transferStates id = [TransferState.init.tag] →
    s'.transferStates id = [TransferState.ongoing.tag] → s.Files id type params →
    List.Forall₂ (TaskRow.Carries type) params.transfers rows →
    s'.ownedRows id = s.ownedRows id ++ rows → Submits s s' id
  /-- It is where its transactions bring it, as somebody has read them. -/
  | settled (tasks : List Task) : s.transferStates id = [TransferState.ongoing.tag] →
    s'.transferStates id = [(TransferTask.stateOf (Progress.ofTasks tasks)).tag] →
    List.Forall₂ Lasts (tasks.map (·.state.tag)) ((s.ownedRows id).map (·.state)) →
    s'.ownedRows id = s.ownedRows id → Submits s s' id

/-- What the state of a task says of its transactions. -/
structure Serves (s : Store) (id : Int) : Prop where
  unfiled : s.transferStates id = [] → s.ownedRows id = []
  waiting : s.transferStates id = [TransferState.init.tag] → s.ownedRows id = []
  submitted : ∀ state : TransferState, state ≠ .init → s.transferStates id = [state.tag] →
    ∃ type params, s.Files id type params
      ∧ List.Forall₂ (TaskRow.Carries type) params.transfers (s.ownedRows id)
  finished : s.transferStates id = [TransferState.success.tag] →
    ∀ word ∈ (s.ownedRows id).map (·.state), word = TransactionState.success.tag
  failed : s.transferStates id = [TransferState.failed.tag] →
    TransactionState.failed.tag ∈ (s.ownedRows id).map (·.state)

theorem serves_empty (id : Int) : Serves .empty id where
  unfiled _ := rfl
  waiting _ := rfl
  submitted _ _ h := absurd h (by simp [transferStates, empty, Table.empty])
  finished h := absurd h (by simp [transferStates, empty, Table.empty])
  failed h := absurd h (by simp [transferStates, empty, Table.empty])

/-- **Whatever the state of a task says of its transactions goes on being true.** -/
theorem Serves.of_submits {s s' : Store} {id : Int} (h : s.Serves id) (hw : s.Submits s' id)
    (hfiles : ∀ type params, s.Files id type params → s'.Files id type params) :
    s'.Serves id := by
  cases hw with
  | kept hstates hages =>
    refine ⟨fun hnone => ?_, fun hinit => ?_, fun state hne hstate => ?_, fun hs => ?_, fun hs => ?_⟩
    · rw [h.unfiled (hstates ▸ hnone)] at hages
      exact List.forall₂_nil_left_iff.1 hages
    · rw [h.waiting (hstates ▸ hinit)] at hages
      exact List.forall₂_nil_left_iff.1 hages
    · obtain ⟨type, params, hfiled, hcarries⟩ := h.submitted state hne (hstates ▸ hstate)
      exact ⟨type, params, hfiles type params hfiled,
        forall₂_trans hcarries hages fun _ _ _ _ => TaskRow.Carries.of_ages⟩
    · exact Lasts.all_success (TaskRow.lasts_of_ages hages) (h.finished (hstates ▸ hs))
    · exact Lasts.mem_failed (TaskRow.lasts_of_ages hages) (h.failed (hstates ▸ hs))
  | opened hnone hinit hsame =>
    have hstate : ∀ state : TransferState, s'.transferStates id = [state.tag] → state = .init :=
      fun state hstate => TransferState.tag_inj.1 (List.singleton_inj.1 (hstate.symm.trans hinit))
    refine ⟨fun h' => absurd (h'.symm.trans hinit) (by simp),
      fun _ => hsame.trans (h.unfiled hnone), fun state hne hs => absurd (hstate state hs) hne,
      fun hs => absurd (hstate .success hs) (by decide),
      fun hs => absurd (hstate .failed hs) (by decide)⟩
  | submitted type params rows hinit hongoing hfiled hcarries hrows =>
    have hstate : ∀ state : TransferState, s'.transferStates id = [state.tag] → state = .ongoing :=
      fun state hs => TransferState.tag_inj.1 (List.singleton_inj.1 (hs.symm.trans hongoing))
    rw [h.waiting hinit, List.nil_append] at hrows
    refine ⟨fun h' => absurd (h'.symm.trans hongoing) (by simp),
      fun hs => absurd (hstate .init hs) (by decide), fun state _ _ => ?_,
      fun hs => absurd (hstate .success hs) (by decide),
      fun hs => absurd (hstate .failed hs) (by decide)⟩
    rw [hrows]
    exact ⟨type, params, hfiles type params hfiled, hcarries⟩
  | settled tasks hongoing hnext hlasts hsame =>
    have hstate : ∀ state : TransferState, s'.transferStates id = [state.tag] →
        TransferTask.stateOf (Progress.ofTasks tasks) = state :=
      fun state hs => TransferState.tag_inj.1 (List.singleton_inj.1 (hnext.symm.trans hs))
    rw [← hsame] at hlasts
    refine ⟨fun h' => absurd (h'.symm.trans hnext) (by simp),
      fun hs => absurd (hstate .init hs) (TransferTask.stateOf_ne_init _), fun state _ _ => ?_,
      fun hs => ?_, fun hs => ?_⟩
    · obtain ⟨type, params, hfiled, hcarries⟩ := h.submitted .ongoing (by decide) hongoing
      rw [hsame]
      exact ⟨type, params, hfiles type params hfiled, hcarries⟩
    · refine Lasts.all_success hlasts fun word hword => ?_
      obtain ⟨t, ht, rfl⟩ := List.mem_map.mp hword
      rw [TransferTask.stateOf_eq_success (hstate .success hs) t ht]
    · obtain ⟨t, ht, hfailed⟩ := TransferTask.stateOf_eq_failed (hstate .failed hs)
      refine Lasts.mem_failed hlasts (List.mem_map.2 ⟨t, ht, ?_⟩)
      rw [hfailed]

/-! ## Writes -/

/-- A write that concerns neither the task nor its transactions. -/
theorem submits_of_same {s s' : Store} {id : Int}
    (hstates : s'.transferStates id = s.transferStates id)
    (hrows : s'.ownedRows id = s.ownedRows id) : s.Submits s' id := by
  refine .kept hstates ?_
  rw [hrows]
  exact List.forall₂_same.2 fun row _ => .refl row

theorem submits_of_tables {s s' : Store} (ht : s'.transfers = s.transfers)
    (htasks : s'.tasks = s.tasks) (id : Int) : s.Submits s' id :=
  submits_of_same (transferStates_congr ht id) (ownedRows_congr htasks id)

theorem submits_insertTransfer {s s' : Store} (hs : s.TransferRules) {rebalanceId : Int}
    {type : TransferType} {params : TransferParams} {new : Int}
    (h : s.insertTransfer rebalanceId type params = .ok (s', new)) (id : Int) :
    s.Submits s' id := by
  have hopens := hs.opens h id
  have hrows := ownedRows_congr (insertTransfer_frame h).2 id
  split at hopens
  · exact .opened hopens.1 hopens.2 hrows
  · exact submits_of_same hopens hrows

/-- **A batch that is written with the move of its task is new to the task**, one row for each of
its calls, and means nothing to others. -/
theorem submits_commit {s s' : Store} (hs : s.TransferRules) {t : TransferTask}
    {batch : List Prepared} (ht : t.state = .init) (hfiled : s.Files t.id t.type t.params)
    (hdrafts : batch.map Prepared.draft = t.drafts)
    (h : TransferTick.commit s t batch = .ok s') (id : Int) : s.Submits s' id := by
  obtain ⟨⟨saved, ids⟩, hsave, hu⟩ := bind_eq_ok.1 h
  have howner : ∀ p ∈ batch, p.draft.owner = t.owner := by
    intro p hp
    have hmem : p.draft ∈ t.drafts := hdrafts ▸ List.mem_map_of_mem hp
    obtain ⟨call, -, hcall⟩ := List.mem_map.mp hmem
    rw [← hcall]
  have htransfers := (saveTasks_frame hsave).2.1
  have htasks := (updateTransfer_frame hu).2
  -- the update comes last; what it needs to find was there before the batch was written
  obtain ⟨-, hbefore, hafter, hother⟩ := (hs.congr htransfers).moves hu
  by_cases hid : id = t.id
  · subst hid
    rw [transferStates_congr htransfers, ht] at hbefore
    refine .submitted t.type t.params _ hbefore hafter hfiled
      (TransferTask.carries_zipWith hdrafts (saveTasks_rows hsave).2) ?_
    refine (ownedRows_congr htasks t.id).trans (filter_saveTasks_of_all hsave fun p hp n => ?_)
    simp [Prepared.rowAt, howner p hp, TransferTask.owner, TaskOwner.id]
  · refine submits_of_same ((hother id hid).trans (transferStates_congr htransfers id)) ?_
    refine (ownedRows_congr htasks id).trans (ownedRows_saveTasks_of_ne hsave fun p hp he => ?_)
    rw [howner p hp] at he
    exact hid (TaskOwner.assetTransfer.inj he).symm

/-- **A tally moves its task to where its transactions have brought it.** -/
theorem submits_tally {s s' : Store} (hs : s.TransferRules) {t : TransferTask}
    {tasks : List Task} (ht : t.state = .ongoing) {id : Int}
    (hread : t.id = id →
      List.Forall₂ Lasts (tasks.map (·.state.tag)) ((s.ownedRows id).map (·.state)))
    (h : s.updateTransfer t.state (t.tallied (Progress.ofTasks tasks)) = .ok s') :
    s.Submits s' id := by
  obtain ⟨-, hbefore, hafter, hother⟩ := hs.moves h
  have hrows := ownedRows_congr (updateTransfer_frame h).2 id
  by_cases hid : id = t.id
  · subst hid
    rw [ht] at hbefore
    exact .settled tasks hbefore hafter (hread rfl) hrows
  · exact submits_of_same (hother id hid) hrows

/-- An update that leaves a task in its state, or updates another, is none of its business. -/
theorem submits_updateTransfer {s s' : Store} (hs : s.TransferRules) {expected : TransferState}
    {t : TransferTask} {id : Int} (hstays : t.id = id → t.state = expected)
    (h : s.updateTransfer expected t = .ok s') : s.Submits s' id := by
  obtain ⟨-, hbefore, hafter, hother⟩ := hs.moves h
  refine submits_of_same ?_ (ownedRows_congr (updateTransfer_frame h).2 id)
  by_cases hid : id = t.id
  · subst hid
    rw [hafter, hbefore, hstays rfl]
  · exact hother id hid

/-- **Whoever tallies the transactions of a task reads all of them.** -/
theorem lasts_of_findTasks {s : Store} (hs : s.TransferRules) {t : TransferTask}
    (hserves : s.Serves t.id) (hfiled : s.Files t.id t.type t.params) {tasks : List Task}
    (h : s.findTasks t.owner t.type.transactionType = .ok tasks) :
    List.Forall₂ Lasts (tasks.map (·.state.tag)) ((s.ownedRows t.id).map (·.state)) := by
  have htypes : ∀ row ∈ s.ownedRows t.id, row.type = t.type.transactionType.tag := by
    intro row hrow
    rcases hs.filed t.id with hnone | ⟨state, -, -, hstate, -⟩
    · rw [hserves.unfiled hnone] at hrow
      exact absurd hrow List.not_mem_nil
    · by_cases hne : state = .init
      · rw [hserves.waiting (hne ▸ hstate)] at hrow
        exact absurd hrow List.not_mem_nil
      · obtain ⟨type, params, hfiled', hcarries⟩ := hserves.submitted state hne hstate
        obtain ⟨rfl, -⟩ := hs.files_inj hfiled hfiled'
        obtain ⟨call, -, hcarries⟩ := exists_mem_of_forall₂ hcarries hrow
        exact hcarries.type
  -- the type by which they are looked up is that of all of them
  have hrows : s.taskRows t.owner t.type.transactionType = s.ownedRows t.id := by
    refine Eq.trans ?_ (List.filter_eq_self.2 fun row hrow => decide_eq_true (htypes row hrow))
    unfold ownedRows taskRows
    rw [List.filter_filter]
    refine List.filter_congr fun row _ => ?_
    rw [Bool.eq_iff_iff]
    simp only [decide_eq_true_eq, Bool.and_eq_true]
    exact ⟨fun ⟨hkind, hid, htype⟩ => ⟨htype, hkind, hid⟩,
      fun ⟨htype, hkind, hid⟩ => ⟨hkind, hid, htype⟩⟩
  rw [states_of_findTasks h, hrows]
  exact List.forall₂_same.2 fun word _ => .refl word

end Store

end Treasury
