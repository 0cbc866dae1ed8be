import Treasury.Proofs.Claim.Param
import Treasury.Proofs.Params
import Treasury.Proofs.Store.Numbered
import Treasury.Proofs.Tag

/-!
# Transactions that are loaded back

A transaction that was written here has a row from which it is read back, column by column
(`TaskRow.load_ofTask`). So the transaction table is a list of transactions, in the order of their
numbers (`Store.Holds`): a batch is appended to the list (`Store.Holds.saveTasks`), a report changes
the one transaction that it is about (`Store.Holds.setTask`), and whoever looks for the transactions
of a record finds those on the list (`Store.Holds.findTasks`).
-/

namespace Treasury

/-! ## Documents that are kept beside a call -/

/-- The document is that of a claim or of a call that was wanted. -/
def Draft.Recorded (d : Draft) : Prop :=
  (∃ p : ClaimParam, d.params = p.toJson.sorted) ∨ ∃ c : TransferCall, d.params = c.toJson.sorted

theorem TransferCall.plain_toJson (c : TransferCall) : c.toJson.Plain Json.Parser.maxDepth := by
  have hword : (Json.word c.chainId).Plain 126 :=
    ⟨Int.le_trans (by decide) (Int.natCast_nonneg _), Int.ofNat_lt.2 c.chainId.toNat_lt_size⟩
  exact ⟨hword, trivial, trivial, trivial, trivial, trivial, trivial, trivial⟩

/-- The document of a draft is read back from its text. -/
theorem Draft.Recorded.parseParams {d : Draft} (h : d.Recorded) (id : Int) :
    parseParams id d.params.render = .ok d.params := by
  have hread : ∀ document : Json, document.Plain Json.Parser.maxDepth →
      Treasury.parseParams id document.sorted.render = .ok document.sorted := by
    intro document hplain
    unfold Treasury.parseParams
    rw [Json.parse_render (Json.plain_sorted document hplain)]
    dsimp only
    rw [Json.sorted_sorted]
  obtain ⟨p, hp⟩ | ⟨c, hc⟩ := h
  · rw [hp]
    exact hread _ p.plain_toJson
  · rw [hc]
    exact hread _ c.plain_toJson

/-! ## The row of a transaction -/

theorem TaskOwner.eq_iff {a b : TaskOwner} : a.kind = b.kind ∧ a.id = b.id ↔ a = b := by
  cases a <;> cases b <;> simp [kind, id]

/-- The row of a transaction. -/
def TaskRow.ofTask (t : Task) : TaskRow where
  id := t.id
  ownerKind := t.draft.owner.kind
  ownerId := .int t.draft.owner.id
  type := t.draft.type.tag
  chainId := .int t.draft.chainId.toNat
  chainName := t.draft.chainName
  sender := t.draft.sender.toText
  receiver := t.draft.receiver.toText
  nonce := .int t.gas.nonce.toNat
  gasPrice := t.gas.gasPrice.toText
  gasLimit := .int t.gas.gasLimit.toNat
  inputData := Hex.toText t.draft.inputData
  params := t.draft.params.render
  state := t.state.tag
  message := t.message
  hash := t.hash.map FixedBytes.toText

/-- The numbers of a row. -/
def Task.numbers (t : Task) : TaskNumbers :=
  ⟨t.draft.owner.id, t.draft.chainId.toNat, t.gas.nonce.toNat, t.gas.gasLimit.toNat⟩

theorem wordOfColumn_toNat (column : String) (n : UInt64) :
    wordOfColumn column n.toNat = .ok n := by
  unfold wordOfColumn
  rw [if_pos (Int.natCast_nonneg _), Int.toNat_natCast, UInt64.ofNat_toNat]

theorem parseColumn_eq_ok {α : Type} {column value : String} {parse : String → Option α} {a : α}
    (h : parse value = some a) : parseColumn column parse value = .ok a := by
  unfold parseColumn
  rw [h]

theorem parseHash_toText (hash : Option TransactionHash) :
    parseHash (hash.map FixedBytes.toText) = .ok hash := by
  cases hash with
  | none => rfl
  | some value =>
    exact map_eq_ok.2 ⟨value, parseColumn_eq_ok (FixedBytes.ofText?_toText value), rfl⟩

/-- **A transaction is read from its row.** -/
theorem TaskRow.load_ofTask {t : Task} (h : t.draft.Recorded) :
    (ofTask t).load t.numbers = .ok t := by
  have howner : StoreError.ofTag (TaskOwner.ofParts t.draft.owner.kind t.draft.owner.id) =
      .ok t.draft.owner := by
    cases t.draft.owner <;> rfl
  have htype : StoreError.ofTag (TransactionType.ofTag t.draft.type.tag) = .ok t.draft.type := by
    cases t.draft.type <;> rfl
  have hstate : StoreError.ofTag (TransactionState.ofTag t.state.tag) = .ok t.state := by
    cases t.state <;> rfl
  unfold load
  refine bind_eq_ok.2 ⟨_, h.parseParams t.id, ?_⟩
  refine bind_eq_ok.2 ⟨_, parseColumn_eq_ok (Word256.ofText?_toText t.gas.gasPrice), ?_⟩
  refine bind_eq_ok.2 ⟨_, parseHash_toText t.hash, ?_⟩
  refine bind_eq_ok.2 ⟨_, howner, bind_eq_ok.2 ⟨_, htype, ?_⟩⟩
  refine bind_eq_ok.2 ⟨_, wordOfColumn_toNat _ _, ?_⟩
  refine bind_eq_ok.2 ⟨_, parseColumn_eq_ok (FixedBytes.ofText?_toText t.draft.sender), ?_⟩
  refine bind_eq_ok.2 ⟨_, parseColumn_eq_ok (FixedBytes.ofText?_toText t.draft.receiver), ?_⟩
  refine bind_eq_ok.2 ⟨_, parseColumn_eq_ok (Hex.ofText?_toText t.draft.inputData), ?_⟩
  refine bind_eq_ok.2 ⟨_, wordOfColumn_toNat _ _, bind_eq_ok.2 ⟨_, wordOfColumn_toNat _ _, ?_⟩⟩
  exact bind_eq_ok.2 ⟨_, hstate, rfl⟩

/-- The transaction of a batch that has just been written. -/
def Prepared.taskAt (p : Prepared) (id : Int) : Task := ⟨id, p.draft, p.gas, .unsigned, "", none⟩

/-- The transaction after a report of the pipeline. -/
def Task.reported (id : Int) (state : TransactionState) (message : String)
    (hash : Option TransactionHash) (t : Task) : Task :=
  if t.id = id then
    { t with state := state, message := message, hash := hash.orElse fun _ => t.hash }
  else t

theorem TaskRow.ofTask_reported (id : Int) (state : TransactionState) (message : String)
    (hash : Option TransactionHash) (t : Task) :
    ofTask (t.reported id state message hash) =
      if (ofTask t).id = id then (ofTask t).reported state message hash else ofTask t := by
  show _ = if t.id = id then _ else _
  unfold Task.reported
  split
  · cases hash <;> rfl
  · rfl

namespace Store

/-! ## The table as a list of transactions -/

/-- The rows are those of these transactions. -/
structure Holds (s : Store) (tasks : List Task) : Prop where
  rows : s.tasks.rows = tasks.map .ofTask
  recorded : ∀ t ∈ tasks, t.draft.Recorded

theorem Holds.congr {s s' : Store} {tasks : List Task} (hs : s.Holds tasks)
    (h : s'.tasks = s.tasks) : s'.Holds tasks := by
  obtain ⟨hrows, hrecorded⟩ := hs
  exact ⟨h ▸ hrows, hrecorded⟩

theorem holds_empty : Holds .empty [] where
  rows := rfl
  recorded := by intro t h; exact absurd h List.not_mem_nil

/-- **A batch is appended.** -/
theorem Holds.saveTasks {s s' : Store} {tasks : List Task} {batch : List Prepared} {ids : List Int}
    (hs : s.Holds tasks) (h : s.saveTasks batch = .ok (s', ids))
    (hbatch : ∀ p ∈ batch, p.draft.Recorded) :
    s'.Holds (tasks ++ batch.zipWith Prepared.taskAt ids) where
  rows := by
    rw [(saveTasks_rows h).1, hs.rows, List.map_append, List.map_zipWith]
    rfl
  recorded := by
    intro t ht
    rcases List.mem_append.mp ht with ht | ht
    · exact hs.recorded t ht
    · rw [← List.map_uncurry_zip_eq_zipWith] at ht
      obtain ⟨⟨p, id⟩, hmem, rfl⟩ := List.mem_map.mp ht
      exact hbatch p (List.of_mem_zip hmem).1

/-- **A report changes what it is about.** -/
theorem Holds.setTask {s : Store} {tasks : List Task} (hs : s.Holds tasks) (id : Int)
    (state : TransactionState) (message : String) (hash : Option TransactionHash) :
    (s.setTask id state message hash).Holds (tasks.map (.reported id state message hash)) where
  rows := by
    have hrows : (s.setTask id state message hash).tasks.rows = s.tasks.rows.map fun row =>
        if decide (row.id = id) = true then row.reported state message hash else row := rfl
    rw [hrows, hs.rows, List.map_map, List.map_map]
    refine List.map_congr_left fun t _ => ?_
    simp only [Function.comp_apply, decide_eq_true_eq, TaskRow.ofTask_reported]
  recorded := by
    intro t ht
    obtain ⟨old, hold, rfl⟩ := List.mem_map.mp ht
    unfold Task.reported
    split <;> exact hs.recorded old hold

/-- **The transactions of a record are found on the list.** -/
theorem Holds.findTasks {s : Store} {tasks : List Task} (hs : s.Holds tasks) (owner : TaskOwner)
    (type : TransactionType) :
    s.findTasks owner type =
      .ok (tasks.filter fun t => t.draft.owner = owner ∧ t.draft.type = type) := by
  have hrows : s.taskRows owner type =
      (tasks.filter fun t => t.draft.owner = owner ∧ t.draft.type = type).map .ofTask := by
    unfold taskRows
    rw [hs.rows, List.filter_map]
    refine congrArg (List.map _) (List.filter_congr fun t _ => ?_)
    simp only [Function.comp_apply, TaskRow.ofTask, Cell.int.injEq, ← TaskOwner.eq_iff,
      ← TransactionType.tag_inj, and_assoc]
  rw [findTasks_eq_ok, hrows, List.forall₂_map_left_iff, List.forall₂_same]
  exact fun t ht => ⟨t.numbers, rfl, TaskRow.load_ofTask (hs.recorded t (List.mem_of_mem_filter ht))⟩

end Store

end Treasury
