import Treasury.Proofs.Except
import Treasury.Store.Tasks

/-!
# Writing batches

A batch that is written adds one row for each of its transactions, in its order and under the
next numbers, and changes nothing else (`saveTasks_rows`, `saveTasks_frame`).
-/

namespace Treasury

/-- The row of a prepared transaction whose numbers fit their columns. -/
def Prepared.rowAt (p : Prepared) (id : Int) : TaskRow where
  id := id
  ownerKind := p.draft.owner.kind
  ownerId := .int p.draft.owner.id
  type := p.draft.type.tag
  chainId := .int p.draft.chainId.toNat
  chainName := p.draft.chainName
  sender := p.draft.sender.toText
  receiver := p.draft.receiver.toText
  nonce := .int p.gas.nonce.toNat
  gasPrice := p.gas.gasPrice.toText
  gasLimit := .int p.gas.gasLimit.toNat
  inputData := Hex.toText p.draft.inputData
  params := p.draft.params.render
  state := TransactionState.unsigned.tag
  message := ""
  hash := none

/-- The row after a report of the pipeline. -/
def TaskRow.reported (state : TransactionState) (message : String)
    (hash : Option TransactionHash) (row : TaskRow) : TaskRow :=
  { row with
    state := state.tag
    message := message
    hash := (hash.map FixedBytes.toText).orElse fun _ => row.hash
    updatedAt := .readable }

/-- The numbers of a prepared transaction fit their columns. -/
structure Prepared.Fits (p : Prepared) : Prop where
  chainId : p.draft.chainId.toNat ≤ maxColumn
  nonce : p.gas.nonce.toNat ≤ maxColumn
  gasLimit : p.gas.gasLimit.toNat ≤ maxColumn

theorem columnOfWord_eq_ok {column : String} {value : UInt64} {n : Int} :
    columnOfWord column value = .ok n ↔ value.toNat ≤ maxColumn ∧ n = value.toNat := by
  unfold columnOfWord
  split
  · rename_i h
    exact ⟨fun he => ⟨h, (Except.ok.inj he).symm⟩, fun he => he.2 ▸ rfl⟩
  · rename_i h
    exact ⟨nofun, fun he => absurd he.1 h⟩

theorem Prepared.row_eq_ok {p : Prepared} {row : Int → TaskRow} :
    p.row = .ok row ↔ p.Fits ∧ row = p.rowAt := by
  unfold Prepared.row
  simp only [bind_eq_ok, columnOfWord_eq_ok]
  constructor
  · rintro ⟨_, ⟨hc, rfl⟩, _, ⟨hn, rfl⟩, _, ⟨hg, rfl⟩, h⟩
    exact ⟨⟨hc, hn, hg⟩, (Except.ok.inj h).symm⟩
  · rintro ⟨⟨hc, hn, hg⟩, rfl⟩
    exact ⟨_, ⟨hc, rfl⟩, _, ⟨hn, rfl⟩, _, ⟨hg, rfl⟩, rfl⟩

theorem Table.nextNumber_eq_ok {α : Type} {t : Table α} {id : Int} :
    t.nextNumber = .ok id ↔ t.nextId? = some id := by
  unfold Table.nextNumber
  split
  · rename_i h
    rw [h]
    exact ⟨fun he => Except.ok.inj he ▸ rfl, fun he => Option.some.inj he ▸ rfl⟩
  · rename_i h
    rw [h]
    exact ⟨nofun, nofun⟩

theorem Table.nextId?_eq_some {α : Type} {t : Table α} {id : Int} (h : t.nextId? = some id) :
    id = t.last + 1 := by
  unfold Table.nextId? at h
  split at h
  · exact (Option.some.inj h).symm
  · exact absurd h (by simp)

namespace Store

/-- The store with one more row of the transaction table. -/
def withTask (s : Store) (p : Prepared) (id : Int) : Store :=
  { s with tasks := s.tasks.push id (p.rowAt id) }

theorem saveTask_eq_ok {s s' : Store} {p : Prepared} {id : Int} :
    s.saveTask p = .ok (s', id) ↔
      p.Fits ∧ s.tasks.nextId? = some id ∧ (p.rowAt id).check = .ok ()
        ∧ s.checkNonce (p.rowAt id) = .ok () ∧ s' = s.withTask p id := by
  unfold saveTask
  split
  · rename_i e he
    refine ⟨nofun, fun ⟨hf, _⟩ => ?_⟩
    rw [Prepared.row_eq_ok.2 ⟨hf, rfl⟩] at he
    exact absurd he (by simp)
  · rename_i row hrow
    obtain ⟨hf, rfl⟩ := Prepared.row_eq_ok.1 hrow
    constructor
    · intro h
      cases hi : s.insertTask p.rowAt with
      | error v => rw [hi] at h; exact absurd h (by simp [StoreError.ofViolation])
      | ok r =>
        rw [hi] at h
        cases h
        unfold insertTask at hi
        simp only [bind_eq_ok, Table.nextNumber_eq_ok] at hi
        obtain ⟨_, hid, ⟨⟩, hcheck, ⟨⟩, hnonce, h⟩ := hi
        cases h
        exact ⟨hf, hid, hcheck, hnonce, rfl⟩
    · rintro ⟨_, hid, hcheck, hnonce, rfl⟩
      have hi : s.insertTask p.rowAt = .ok (s.withTask p id, id) := by
        unfold insertTask
        simp only [bind_eq_ok, Table.nextNumber_eq_ok]
        exact ⟨id, hid, (), hcheck, (), hnonce, rfl⟩
      rw [hi]
      rfl

theorem saveTasks_cons_eq_ok {s s' : Store} {p : Prepared} {rest : List Prepared}
    {ids : List Int} :
    s.saveTasks (p :: rest) = .ok (s', ids) ↔
      ∃ next id ids', s.saveTask p = .ok (next, id) ∧ next.saveTasks rest = .ok (s', ids')
        ∧ ids = id :: ids' := by
  rw [saveTasks]
  constructor
  · intro h
    split at h
    · exact absurd h (by simp)
    · rename_i next id hp
      split at h
      · exact absurd h (by simp)
      · rename_i last ids' hrest
        cases h
        exact ⟨next, id, ids', hp, hrest, rfl⟩
  · rintro ⟨next, id, ids', hp, hrest, rfl⟩
    rw [hp]
    simp only [hrest]

/-- **A written batch is added row by row, in its order.** -/
theorem saveTasks_rows {s s' : Store} {batch : List Prepared} {ids : List Int}
    (h : s.saveTasks batch = .ok (s', ids)) :
    s'.tasks.rows = s.tasks.rows ++ batch.zipWith Prepared.rowAt ids
      ∧ ids.length = batch.length := by
  induction batch generalizing s ids with
  | nil =>
    cases h
    exact ⟨by simp, rfl⟩
  | cons p rest ih =>
    obtain ⟨next, id, ids', hp, hrest, rfl⟩ := saveTasks_cons_eq_ok.1 h
    obtain ⟨_, _, _, _, rfl⟩ := saveTask_eq_ok.1 hp
    obtain ⟨hrows, hlen⟩ := ih hrest
    refine ⟨?_, by simp [hlen]⟩
    rw [hrows, List.zipWith_cons_cons]
    simp [withTask, Table.push]

/-- A written batch gets the numbers that follow. -/
theorem saveTasks_ids {s s' : Store} {batch : List Prepared} {ids : List Int}
    (h : s.saveTasks batch = .ok (s', ids)) :
    ids = (List.range batch.length).map fun (k : Nat) => s.tasks.last + 1 + k := by
  induction batch generalizing s ids with
  | nil =>
    cases h
    rfl
  | cons p rest ih =>
    obtain ⟨next, id, ids', hp, hrest, rfl⟩ := saveTasks_cons_eq_ok.1 h
    obtain ⟨_, hnext, _, _, rfl⟩ := saveTask_eq_ok.1 hp
    have hid := Table.nextId?_eq_some hnext
    have hlast : (s.withTask p id).tasks.last = s.tasks.last + 1 := hid
    rw [ih hrest, hlast, List.length_cons, List.range_succ_eq_map, List.map_cons, List.map_map, hid]
    congr 1
    · simp
    · refine List.map_congr_left fun k _ => ?_
      rw [Function.comp_apply]
      omega

/-- The rows of a written batch stand for its transactions one by one. -/
theorem forall₂_zipWith {batch : List Prepared} {ids : List Int}
    (h : ids.length = batch.length) :
    List.Forall₂ (fun p row => ∃ id, row = Prepared.rowAt p id) batch
      (batch.zipWith Prepared.rowAt ids) := by
  induction batch generalizing ids with
  | nil => exact .nil
  | cons p rest ih =>
    cases ids with
    | nil => exact absurd h (by simp)
    | cons id ids => exact .cons ⟨id, rfl⟩ (ih (Nat.succ.inj h))

/-- Every row of a written batch is that of one of its transactions. -/
theorem exists_of_mem_zipWith {batch : List Prepared} {ids : List Int} {row : TaskRow}
    (h : row ∈ batch.zipWith Prepared.rowAt ids) : ∃ p ∈ batch, ∃ id, row = p.rowAt id := by
  rw [← List.map_uncurry_zip_eq_zipWith] at h
  obtain ⟨⟨p, id⟩, hmem, rfl⟩ := List.mem_map.mp h
  exact ⟨p, (List.of_mem_zip hmem).1, id, rfl⟩

/-- The rows of a written batch have the numbers that were given out for them. -/
theorem map_id_zipWith {batch : List Prepared} {ids : List Int}
    (h : ids.length = batch.length) : (batch.zipWith Prepared.rowAt ids).map (·.id) = ids := by
  rw [List.map_zipWith]
  have hsnd : (fun (p : Prepared) (id : Int) => (p.rowAt id).id) = fun _ id => id := rfl
  rw [hsnd, ← List.map_uncurry_zip_eq_zipWith]
  exact List.map_snd_zip (Nat.le_of_eq h)

/-- A written batch cannot be seen where none of its transactions is looked for. -/
theorem filter_saveTasks_of_none {s s' : Store} {batch : List Prepared} {ids : List Int}
    {q : TaskRow → Bool} (h : s.saveTasks batch = .ok (s', ids))
    (hq : ∀ p ∈ batch, ∀ id, q (p.rowAt id) = false) :
    s'.tasks.rows.filter q = s.tasks.rows.filter q := by
  have hnone : (batch.zipWith Prepared.rowAt ids).filter q = [] := by
    refine List.filter_eq_nil_iff.2 fun row hrow => ?_
    obtain ⟨p, hp, id, rfl⟩ := exists_of_mem_zipWith hrow
    simp [hq p hp id]
  rw [(saveTasks_rows h).1, List.filter_append, hnone, List.append_nil]

/-- A written batch follows what is looked for, where all its transactions are. -/
theorem filter_saveTasks_of_all {s s' : Store} {batch : List Prepared} {ids : List Int}
    {q : TaskRow → Bool} (h : s.saveTasks batch = .ok (s', ids))
    (hq : ∀ p ∈ batch, ∀ id, q (p.rowAt id) = true) :
    s'.tasks.rows.filter q = s.tasks.rows.filter q ++ batch.zipWith Prepared.rowAt ids := by
  rw [(saveTasks_rows h).1, List.filter_append]
  refine congrArg _ (List.filter_eq_self.2 fun row hrow => ?_)
  obtain ⟨p, hp, id, rfl⟩ := exists_of_mem_zipWith hrow
  exact hq p hp id

/-- Writing a batch touches no other table. -/
theorem saveTasks_frame {s s' : Store} {batch : List Prepared} {ids : List Int}
    (h : s.saveTasks batch = .ok (s', ids)) :
    s'.workflows = s.workflows ∧ s'.transfers = s.transfers ∧ s'.leases = s.leases := by
  induction batch generalizing s ids with
  | nil =>
    cases h
    exact ⟨rfl, rfl, rfl⟩
  | cons p rest ih =>
    obtain ⟨next, id, ids', hp, hrest, rfl⟩ := saveTasks_cons_eq_ok.1 h
    obtain ⟨_, _, _, _, rfl⟩ := saveTask_eq_ok.1 hp
    have hnext := ih hrest
    exact hnext

/-- A report of the pipeline goes into the row of its number. -/
theorem filter_setTask (s : Store) (id : Int) {state : TransactionState} {message : String}
    {hash : Option TransactionHash} {p : TaskRow → Bool}
    (hp : ∀ row : TaskRow, p (row.reported state message hash) = p row) :
    (s.setTask id state message hash).tasks.rows.filter p =
      (s.tasks.rows.filter p).map fun row =>
        if row.id = id then row.reported state message hash else row := by
  have hrows : (s.setTask id state message hash).tasks.rows = s.tasks.rows.map fun row =>
      if decide (row.id = id) = true then row.reported state message hash else row := rfl
  have hp' : p ∘ (fun row => if decide (row.id = id) = true then
      row.reported state message hash else row) = p := by
    funext row
    dsimp only [Function.comp_apply]
    split
    · exact hp row
    · rfl
  rw [hrows, List.filter_map, hp']
  simp only [decide_eq_true_eq]

/-- A report of the pipeline cannot be seen where its columns are not looked at. -/
theorem filter_map_setTask {β : Type} (s : Store) (id : Int) {state : TransactionState}
    {message : String} {hash : Option TransactionHash} {p : TaskRow → Bool} {g : TaskRow → β}
    (hp : ∀ row : TaskRow, p (row.reported state message hash) = p row)
    (hg : ∀ row : TaskRow, g (row.reported state message hash) = g row) :
    ((s.setTask id state message hash).tasks.rows.filter p).map g =
      (s.tasks.rows.filter p).map g := by
  rw [s.filter_setTask id hp, List.map_map]
  refine List.map_congr_left fun row _ => ?_
  dsimp only [Function.comp_apply]
  split
  · exact hg row
  · rfl

/-! ## Loading -/

/-- **The transactions that are found are those of the rows, each loaded by itself.** -/
theorem findTasks_eq_ok {s : Store} {owner : TaskOwner} {type : TransactionType}
    {tasks : List Task} :
    s.findTasks owner type = .ok tasks ↔
      List.Forall₂
        (fun row t => ∃ numbers, row.readColumns = .ok numbers ∧ row.load numbers = .ok t)
        (s.taskRows owner type) tasks := by
  unfold findTasks
  simp only [bind_eq_ok, mapM_eq_ok, map_eq_ok]
  generalize s.taskRows owner type = rows
  constructor
  · rintro ⟨read, hread, hload⟩
    induction hread generalizing tasks with
    | nil =>
      cases hload
      exact .nil
    | cons hrow _ ih =>
      obtain ⟨numbers, hnumbers, rfl⟩ := hrow
      cases hload with
      | cons hload hrest => exact .cons ⟨numbers, hnumbers, hload⟩ (ih hrest)
  · intro h
    induction h with
    | nil => exact ⟨[], .nil, .nil⟩
    | cons hrow _ ih =>
      obtain ⟨numbers, hnumbers, hload⟩ := hrow
      obtain ⟨read, hread, hrest⟩ := ih
      exact ⟨_, .cons ⟨numbers, hnumbers, rfl⟩ hread, .cons hload hrest⟩

end Store

end Treasury
