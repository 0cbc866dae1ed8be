import Treasury.Proofs.Alert.Delivery
import Treasury.Proofs.Claim.Call
import Treasury.Proofs.Claim.Param
import Treasury.Proofs.Claim.Stage
import Treasury.Proofs.Claim.Tally
import Treasury.Proofs.Gas

/-!
# What people read is what is signed

A claim is written down twice: as a document, for people, and as a call, which is signed. The two
come about apart, and each is stored as text. Read back, the document is the claim that the report
asked for, and the call claims just what the document says (`recorded_of_execute`): as a claim names
each of its strategies once, there are never so many that a call could not be read.
-/

namespace Treasury

/-- A row has the claim for people to read, and a call that claims just this. -/
structure ClaimParam.RecordedIn (tokens : TokenRegistry) (p : ClaimParam) (row : TaskRow) :
    Prop where
  /-- The claim is read back with all places of its amounts. A zero that was written with a minus
  sign has none any more, which makes no other amount of it. -/
  params : ∃ document, Json.parse row.params = .ok document ∧ ClaimParam.read document = .ok p.plain
  chainId : row.chainId = .int p.chainId.toNat
  chainName : row.chainName = p.chainName
  receiver : FixedBytes.ofText? row.receiver = some p.vault
  /-- The call has the strategies of the document in their order, with just the amounts that the
  document has, and with no claim number but zero. -/
  inputData : ∃ data lines, Hex.ofText? row.inputData = some data
    ∧ decodeClaim? data = some lines
    ∧ List.Forall₂ (ClaimLine.Shows tokens p.chainName) p.plain.strategies lines

/-- A report shows the transaction of a row. -/
structure TaskRow.ShownAs (row : TaskRow) (t : ReportedTransaction) : Prop where
  type : row.type = t.type.tag
  nonce : row.nonce = .int t.nonce.toNat
  gasPrice : row.gasPrice = t.gasPrice
  gasLimit : row.gasLimit = .int t.gasLimit.toNat
  params : row.params = t.amount
  chainId : row.chainId = .int t.chainId.toNat
  chainName : row.chainName = t.chainName
  sender : ∃ sender : Address, FixedBytes.ofText? row.sender = some sender
    ∧ t.sender = sender.checksummed
  receiver : ∃ receiver : Address, FixedBytes.ofText? row.receiver = some receiver
    ∧ t.receiver = receiver.checksummed

theorem Prepared.shownAs (p : Prepared) (id : Int) : (p.rowAt id).ShownAs p.reported where
  type := rfl
  nonce := rfl
  gasPrice := rfl
  gasLimit := rfl
  params := rfl
  chainId := rfl
  chainName := rfl
  sender := ⟨p.draft.sender, FixedBytes.ofText?_toText _, rfl⟩
  receiver := ⟨p.draft.receiver, FixedBytes.ofText?_toText _, rfl⟩

namespace Claim

/-- A claim that names each strategy once has a call that can be read back. -/
theorem size_of_nodup {strategies : List Strategy} (h : (strategies.map (·.address)).Nodup) :
    32 * (8 + 4 * strategies.length) < Word256.size := by
  have hle := Abi.length_le_of_nodup h
  rw [List.length_map] at hle
  have hsize : 32 * (8 + 4 * 256 ^ 20) < Word256.size := by decide
  omega

/-- **The call of a draft is read back with one line for each strategy of the claim.** -/
theorem lines_of_draft {desk : Desk} {id : Int} {p : ClaimParam} {d : Draft}
    (hdraft : draft desk id p = .ok d) (hnodup : (p.strategies.map (·.address)).Nodup) :
    ∃ lines, decodeClaim? d.inputData = some lines
      ∧ List.Forall₂ (ClaimLine.Shows desk.tokens p.chainName) p.strategies lines := by
  obtain ⟨inputData, chain, hcall, -, rfl⟩ := draft_eq_ok.1 hdraft
  obtain ⟨lines, rfl, hlines⟩ := shows_of_buildClaimCall hcall
  -- there are not enough addresses for a call whose places could not be written down
  exact ⟨lines, decodeClaim?_encodeClaim (hlines.length_eq ▸ size_of_nodup hnodup), hlines⟩

/-- **The row of a draft has what the claim asks for, in both forms.** -/
theorem recordedIn_of_draft {desk : Desk} {id : Int} {p : ClaimParam} {prepared : Prepared}
    (hdraft : draft desk id p = .ok prepared.draft)
    (hnodup : (p.strategies.map (·.address)).Nodup) (rowId : Int) :
    p.RecordedIn desk.tokens (prepared.rowAt rowId) := by
  obtain ⟨lines, hread, hlines⟩ := lines_of_draft hdraft hnodup
  obtain ⟨inputData, chain, -, -, hd⟩ := draft_eq_ok.1 hdraft
  have hplain : List.Forall₂ (ClaimLine.Shows desk.tokens p.chainName) p.plain.strategies lines :=
    List.forall₂_map_left_iff.2
      (hlines.imp fun _ _ h => ⟨h.strategy, h.base, h.quote, h.claimId⟩)
  rw [hd] at hread
  unfold Prepared.rowAt
  rw [hd]
  exact {
    params := ⟨_, p.parse_render_toJson, p.read_toJson⟩
    chainId := rfl
    chainName := rfl
    receiver := FixedBytes.ofText?_toText p.vault
    inputData := ⟨_, lines, Hex.ofText?_toText _, hread, hplain⟩ }

/-- What has happened when the stage was entered with `n` transactions: `rows` have been added for
`claims`. -/
structure Recorded (desk : Desk) (s s' : Store) (n : Nat) (events : List Event)
    (claims : List ClaimParam) (rows : List TaskRow) : Prop where
  /-- The claims are those that the report asks for. -/
  asked : ∃ snapshot, desk.liquidity = .ok snapshot
    ∧ aggregateClaims desk.tokens snapshot.vaults snapshot.providers = .ok claims
  /-- There are `n` new rows, and those before have stayed as they were. -/
  added : s'.tasks.rows = s.tasks.rows ++ rows ∧ rows.length = n
  /-- The new rows have the numbers that follow. -/
  ids : rows.map (·.id) = (List.range n).map fun (k : Nat) => s.tasks.last + 1 + k
  /-- Each claim has its row. -/
  recorded : List.Forall₂ (ClaimParam.RecordedIn desk.tokens) claims rows
  /-- The report of new transactions shows all of them, and reaches the notifier as one message for
  information. -/
  shown : 0 < n → ∃ report : StageReport, report.stage = createdReport
    ∧ desk.notifier.Shows ⟨.notify, claimChannel, report.render, []⟩ events
    ∧ List.Forall₂ TaskRow.ShownAs rows report.transactions

/--
**What people read is what is signed.**

Whatever the report, the tokens, the chains and the store: if the stage is entered with `n`
transactions, then just `n` rows are added. They stand for the claims that the report asks for, one
by one and in their order. From each row the claim is read back, from the document as from the call,
and the document is what the report of new transactions shows.
-/
theorem recorded_of_execute {desk : Desk} {s s' : Store} {w : Workflow} {n : Nat}
    {events : List Event} (hgas : desk.gas.KeepsDrafts)
    (h : execute desk s w = (s', .ok (.advanced n), events)) :
    ∃ claims rows, Recorded desk s s' n events claims rows := by
  obtain ⟨snapshot, drafts, hl, hplan, hrun⟩ := execute_eq_advanced h
  obtain ⟨-, -, claims, hclaims, hdrafts⟩ := plan_eq_ok.1 hplan
  refine ⟨claims, ?_⟩
  rcases run_drafted_eq_advanced hrun with
    ⟨rfl, rfl, -, hu⟩ | ⟨-, batch, hassign, hcommit, rfl, rfl⟩
  · -- there is nothing to claim, and no row is added
    cases hdrafts
    have hrows : s'.tasks.rows = s.tasks.rows ++ [] := by
      rw [Store.updateWorkflow_tasks hu, List.append_nil]
    exact ⟨[], ⟨snapshot, hl, hclaims⟩, ⟨hrows, rfl⟩, rfl, .nil,
      fun hpos => absurd hpos (Nat.lt_irrefl 0)⟩
  · obtain ⟨saved, ids, hsave, hu⟩ := commit_eq_ok.1 hcommit
    obtain ⟨hrows, hlength⟩ := Store.saveTasks_rows hsave
    rw [← Store.updateWorkflow_tasks hu] at hrows
    -- claims, drafts, transactions and rows go along with each other one by one
    have hbatch := Store.forall₂_zipWith hlength
    have hnodup := nodup_address_of_aggregateClaims hclaims
    refine ⟨batch.zipWith Prepared.rowAt ids, ⟨snapshot, hl, hclaims⟩,
      ⟨hrows, hbatch.length_eq.symm⟩, ?_, ?_, fun _ =>
        ⟨_, rfl, (createdAlert w batch).shows_publish desk.notifier desk.recipients, ?_⟩⟩
    · rw [Store.map_id_zipWith hlength, Store.saveTasks_ids hsave]
    · rw [← hgas _ _ _ _ hassign, List.forall₂_map_right_iff] at hdrafts
      refine forall₂_trans hdrafts hbatch ?_
      rintro p hp prepared _ hdraft ⟨rowId, rfl⟩
      exact recordedIn_of_draft hdraft (hnodup p hp) rowId
    · have hshown : List.Forall₂ (fun prepared row => TaskRow.ShownAs row prepared.reported) batch
          (batch.zipWith Prepared.rowAt ids) := by
        refine hbatch.imp ?_
        rintro prepared _ ⟨rowId, rfl⟩
        exact prepared.shownAs rowId
      exact List.forall₂_map_right_iff.2 hshown.flip

/-- One claim, entered from a store with one workflow. -/
theorem recorded_of_execute_oneClaim :
    let opened := (Store.empty.openWorkflow ⟨"ops", none⟩).1
    let w : Workflow := ⟨1, .init, ⟨"ops", none⟩, "", ""⟩
    let entered := execute oneClaimDesk opened w
    entered.2.1 = .ok (.advanced 1)
      ∧ ∃ claims rows, Recorded oneClaimDesk opened entered.1 1 entered.2.2 claims rows := by
  intro opened w entered
  have hadvanced : entered.2.1 = .ok (.advanced 1) := by decide +kernel
  exact ⟨hadvanced, recorded_of_execute GasAssigner.keepsDrafts_sequential
    (Prod.ext rfl (Prod.ext hadvanced rfl))⟩

end Claim

end Treasury
