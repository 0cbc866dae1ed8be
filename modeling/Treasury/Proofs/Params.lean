import Treasury.Proofs.Claim.Param
import Treasury.Transfer.Basic
import Treasury.Workflow.Basic

/-!
# Parameters that are read back

Workflows and transfer tasks are opened with parameters, which are stored as versioned records. A
record of the one version there is, is read back as it was written (`readVersioned_render`), and so
are the parameters: those of a workflow as they were, those of a transfer task with all calls in
their order, where only the minus sign of a zero amount is lost.
-/

namespace Treasury

open Json (Reader)

/-! ## Versioned records -/

/-- **A versioned record is read from its text as its fields are read.** -/
theorem Json.readVersioned_render {α : Type} (title : String) {known : String} {read : Reader α}
    {fields : List (String × Json)} {value : α}
    (hplain : (object (("version", .text known) :: fields)).Plain Parser.maxDepth)
    (hnames : "version" ∉ fields.map (·.1)) (h : read (object fields) = .ok value) :
    readVersioned title known read (object (("version", .text known) :: fields)).render =
      .ok value := by
  have hversion : fields.filter (fun member => member.1 = "version") = [] := by
    refine List.filter_eq_nil_iff.2 fun member hmember heq => hnames ?_
    exact List.mem_map.2 ⟨member, hmember, of_decide_eq_true heq⟩
  have hfields : fields.filter (fun member => member.1 ≠ "version") = fields := by
    refine List.filter_eq_self.2 fun member hmember => decide_eq_true fun heq => hnames ?_
    exact List.mem_map.2 ⟨member, hmember, heq⟩
  have hsplit : splitVersion title (object (("version", .text known) :: fields)) =
      .ok (.text known, object fields) := by
    rw [splitVersion, List.filter_cons_of_pos (by simp), hversion,
      List.filter_cons_of_neg (by simp), hfields]
  have hname : versionName known (.text known) = .ok () := if_pos rfl
  rw [readVersioned, parse_render hplain]
  dsimp only
  rw [readDocument, hsplit]
  dsimp only
  rw [hname]
  dsimp only
  rw [h]

/-! ## Workflows -/

namespace WorkflowParams

/-- The fields of the record. -/
def fields (p : WorkflowParams) : List (String × Json) :=
  ("initiated_by", .text p.initiatedBy) :: match p.note with
    | some note => [("note", .text note)]
    | none => []

theorem readFields_fields (p : WorkflowParams) : readFields (.object p.fields) = .ok p := by
  obtain ⟨initiatedBy, note⟩ := p
  cases note <;> rfl

/-- **The parameters of a workflow are read back.** -/
theorem ofText_toText (p : WorkflowParams) : ofText p.toText = .ok p := by
  have hplain : p.toJson.Plain Json.Parser.maxDepth := by
    obtain ⟨initiatedBy, note⟩ := p
    cases note <;> exact ⟨trivial, trivial, by trivial⟩
  have hnames : "version" ∉ p.fields.map (·.1) := by
    obtain ⟨initiatedBy, note⟩ := p
    cases note <;> simp [fields]
  exact Json.readVersioned_render "WorkflowParams" hplain hnames p.readFields_fields

end WorkflowParams

/-! ## Transfer tasks -/

/-- The call, where a zero amount has no minus sign. -/
def TransferCall.plain (c : TransferCall) : TransferCall := { c with amount := c.amount.plain }

/-- The fields of the document of a call. -/
def TransferCall.fields (c : TransferCall) : List (String × Json) :=
  [("chain_id", .word c.chainId), ("chain_name", .text c.chainName),
    ("from", c.sender.toJson), ("to", c.receiver.toJson),
    ("input_data", .text (Hex.toText c.inputData)), ("symbol", .text c.symbol),
    ("amount", c.amount.toJson)]

/-- **A call is read back from its document.** -/
theorem TransferCall.read_toJson (c : TransferCall) : TransferCall.read c.toJson = .ok c.plain := by
  have hnames : (c.fields.map (·.1)).Nodup := by simp [fields]
  obtain ⟨r, hr, hfield⟩ := Json.required_object "struct TransferCall"
    ["chain_id", "chain_name", "from", "to", "input_data", "symbol", "amount"] hnames
  have hchainId := hfield Reader.uint64 (by simp) (.head _)
  have hchainName := hfield Reader.text (by simp) (.tail _ (.head _))
  have hsender := hfield Reader.address (by simp) (.tail _ (.tail _ (.head _)))
  have hreceiver := hfield Reader.address (by simp) (.tail _ (.tail _ (.tail _ (.head _))))
  have hinputData := hfield Reader.bytes (by simp)
    (.tail _ (.tail _ (.tail _ (.tail _ (.head _)))))
  have hsymbol := hfield Reader.text (by simp)
    (.tail _ (.tail _ (.tail _ (.tail _ (.tail _ (.head _))))))
  have hamount := hfield Reader.decimal (by simp)
    (.tail _ (.tail _ (.tail _ (.tail _ (.tail _ (.tail _ (.head _)))))))
  have hbytes : Reader.bytes (.text (Hex.toText c.inputData)) = .ok c.inputData := by
    rw [Reader.bytes, Hex.ofText?_toText]
  unfold TransferCall.read
  refine bind_eq_ok.2 ⟨r, hr, bind_eq_ok.2 ⟨_, hchainId.trans (Json.read_word _), ?_⟩⟩
  refine bind_eq_ok.2 ⟨_, hchainName, bind_eq_ok.2 ⟨_, hsender.trans (FixedBytes.read_toJson _), ?_⟩⟩
  refine bind_eq_ok.2 ⟨_, hreceiver.trans (FixedBytes.read_toJson _), ?_⟩
  refine bind_eq_ok.2 ⟨_, hinputData.trans hbytes, bind_eq_ok.2 ⟨_, hsymbol, ?_⟩⟩
  exact bind_eq_ok.2 ⟨_, hamount.trans (Decimal.read_toJson _), rfl⟩

namespace TransferParams

/-- The parameters, where no zero amount has a minus sign. -/
def plain (p : TransferParams) : TransferParams := ⟨p.transfers.map TransferCall.plain⟩

theorem plain_plain (p : TransferParams) : p.plain.plain = p.plain := by
  unfold plain
  rw [List.map_map]
  rfl

theorem plain_toJson (p : TransferParams) : p.toJson.Plain Json.Parser.maxDepth := by
  refine ⟨trivial, Json.plainItems_iff.2 fun item hitem => ?_, trivial⟩
  obtain ⟨c, -, rfl⟩ := List.mem_map.mp hitem
  exact ⟨Json.plain_word _ _, trivial, trivial, trivial, trivial, trivial, trivial, trivial⟩

/-- **The parameters of a transfer task are read back, call by call.** -/
theorem ofText_toText (p : TransferParams) : ofText p.toText = .ok p.plain := by
  refine Json.readVersioned_render "TransferParams" p.plain_toJson (by simp) ?_
  have hlist := Json.read_list TransferCall.read_toJson p.transfers
  have hnames : ([("transfers", Json.array (p.transfers.map TransferCall.toJson))].map
      (·.1)).Nodup := by simp
  obtain ⟨r, hr, hfield⟩ := Json.required_object "struct variant TransferParams::V1" ["transfers"]
    hnames
  have htransfers := hfield (Reader.list TransferCall.read) (by simp) (.head _)
  unfold readFields
  exact bind_eq_ok.2 ⟨r, hr, bind_eq_ok.2 ⟨_, htransfers.trans hlist, rfl⟩⟩

theorem toText_inj {p q : TransferParams} : p.toText = q.toText ↔ p.toJson = q.toJson := by
  refine ⟨fun h => ?_, congrArg Json.render⟩
  have hp := Json.parse_render p.plain_toJson
  have hq := Json.parse_render q.plain_toJson
  have htext : p.toJson.render = q.toJson.render := h
  rw [htext, hq] at hp
  exact (Except.ok.inj hp).symm

/-- **What is read is written as it was**, unless there is a zero amount with a minus sign. -/
theorem toText_plain_iff {p : TransferParams} :
    p.plain.toText = p.toText ↔ ∀ c ∈ p.transfers, c.amount.minusZero = false := by
  have hcall : ∀ c : TransferCall, c.plain.toJson = c.toJson ↔ c.amount.minusZero = false := by
    intro c
    rw [← Decimal.toText_plain_iff]
    simp [TransferCall.toJson, TransferCall.plain, Decimal.toJson]
  rw [toText_inj]
  simp [toJson, plain, hcall]

/-- A zero amount that is written with a minus sign is written without one when it has been read. -/
theorem exists_ofText_toText_ne :
    let p : TransferParams := ⟨[⟨56, "bsc", ⟨List.replicate 20 1, rfl⟩,
      ⟨List.replicate 20 2, rfl⟩, [], "USDT", .vanished true⟩]⟩
    ∃ q, ofText p.toText = .ok q ∧ q.toText ≠ p.toText := by
  intro p
  refine ⟨p.plain, p.ofText_toText, fun h => ?_⟩
  exact absurd (toText_plain_iff.1 h _ List.mem_cons_self) (by decide)

end TransferParams

end Treasury
