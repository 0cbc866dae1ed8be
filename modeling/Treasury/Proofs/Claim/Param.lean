import Treasury.Claim.Param
import Treasury.Proofs.Decimal.Text
import Treasury.Proofs.Except
import Treasury.Proofs.Json.Read
import Treasury.Proofs.Text.Hex

/-!
# Claims that are read back

The text that is kept of a claim is read back as the claim (`parse_render_toJson`,
`read_toJson`): all strategies in their order, each amount with its places. Only the minus sign of
a zero amount is lost.
-/

namespace Treasury

open Json (Reader)

/-! ## Amounts, addresses and words -/

theorem Decimal.read_toJson (d : Decimal) : Reader.decimal d.toJson.sorted = .ok d.plain := by
  have htext : ofText? d.toText = some d.plain := ofText?_toText d
  unfold Reader.decimal toJson
  rw [Json.sorted]
  dsimp only
  rw [htext]

theorem FixedBytes.read_toJson {n : Nat} (value : FixedBytes n) :
    Reader.fixedBytes n value.toJson.sorted = .ok value := by
  unfold Reader.fixedBytes toJson
  rw [Json.sorted]
  dsimp only
  rw [ofText?_toText]

theorem Json.read_word (n : UInt64) : Reader.uint64 (word n).sorted = .ok n := by
  have hlt : (n.toNat : Int) < UInt64.size := Int.ofNat_lt.2 n.toNat_lt_size
  unfold Reader.uint64 Reader.whole word
  rw [sorted]
  dsimp only
  rw [if_pos ⟨Int.natCast_nonneg _, hlt⟩]
  simp [Except.map]

theorem Json.plain_word (n : UInt64) (room : Nat) : (word n).Plain room :=
  ⟨Int.le_trans (by decide) (Int.natCast_nonneg _), Int.ofNat_lt.2 n.toNat_lt_size⟩

/-! ## Claims -/

/-- The strategy, where no zero amount has a minus sign. -/
def Strategy.plain (s : Strategy) : Strategy :=
  { s with baseAmount := s.baseAmount.plain, quoteAmount := s.quoteAmount.plain }

/-- The claim, where no zero amount has a minus sign. -/
def ClaimParam.plain (p : ClaimParam) : ClaimParam :=
  { p with strategies := p.strategies.map Strategy.plain }

/-- The members of the document of a strategy. -/
def Strategy.members (s : Strategy) : List (String × Json) :=
  [("strategy_address", s.address.toJson), ("base_symbol", .text s.baseSymbol),
    ("quote_symbol", .text s.quoteSymbol), ("base_amount", s.baseAmount.toJson),
    ("quote_amount", s.quoteAmount.toJson)]

/-- The members of the document of a claim. -/
def ClaimParam.members (p : ClaimParam) : List (String × Json) :=
  [("chain_id", .word p.chainId), ("chain_name", .text p.chainName),
    ("vault_address", p.vault.toJson), ("strategies", .array (p.strategies.map Strategy.toJson))]

theorem Strategy.read_toJson (s : Strategy) : Strategy.read s.toJson.sorted = .ok s.plain := by
  have hnames : (s.members.map (·.1)).Nodup := by simp [members]
  obtain ⟨r, hr, hfield⟩ := Json.required_record "a strategy"
    ["strategy_address", "base_symbol", "quote_symbol", "base_amount", "quote_amount"] hnames
  have haddress := hfield Reader.address (by simp) (.head _)
  have hbase := hfield Reader.text (by simp) (.tail _ (.head _))
  have hquote := hfield Reader.text (by simp) (.tail _ (.tail _ (.head _)))
  have hbaseAmount := hfield Reader.decimal (by simp) (.tail _ (.tail _ (.tail _ (.head _))))
  have hquoteAmount := hfield Reader.decimal (by simp)
    (.tail _ (.tail _ (.tail _ (.tail _ (.head _)))))
  rw [Decimal.read_toJson] at hbaseAmount hquoteAmount
  rw [Reader.address, FixedBytes.read_toJson] at haddress
  unfold Strategy.read
  refine bind_eq_ok.2 ⟨r, hr, ?_⟩
  refine bind_eq_ok.2 ⟨_, haddress, bind_eq_ok.2 ⟨_, hbase, bind_eq_ok.2 ⟨_, hquote, ?_⟩⟩⟩
  exact bind_eq_ok.2 ⟨_, hbaseAmount, bind_eq_ok.2 ⟨_, hquoteAmount, rfl⟩⟩

/-- **A claim is read back from the one form of its document.** -/
theorem ClaimParam.read_toJson (p : ClaimParam) :
    ClaimParam.read p.toJson.sorted = .ok p.plain := by
  have hnames : (p.members.map (·.1)).Nodup := by simp [members]
  obtain ⟨r, hr, hfield⟩ := Json.required_record "a claim"
    ["chain_id", "chain_name", "vault_address", "strategies"] hnames
  have hchainId := hfield Reader.uint64 (by simp) (.head _)
  have hchainName := hfield Reader.text (by simp) (.tail _ (.head _))
  have hvault := hfield Reader.address (by simp) (.tail _ (.tail _ (.head _)))
  have hstrategies := hfield (Reader.list Strategy.read) (by simp)
    (.tail _ (.tail _ (.tail _ (.head _))))
  have hlist : Reader.list Strategy.read (Json.array (p.strategies.map Strategy.toJson)).sorted =
      .ok (p.strategies.map Strategy.plain) := by
    rw [Json.sorted, Json.sortedItems_eq_map, List.map_map]
    exact Json.read_list Strategy.read_toJson p.strategies
  rw [Json.read_word] at hchainId
  rw [Reader.address, FixedBytes.read_toJson] at hvault
  rw [hlist] at hstrategies
  unfold ClaimParam.read
  refine bind_eq_ok.2 ⟨r, hr, bind_eq_ok.2 ⟨_, hchainId, bind_eq_ok.2 ⟨_, hchainName, ?_⟩⟩⟩
  exact bind_eq_ok.2 ⟨_, hvault, bind_eq_ok.2 ⟨_, hstrategies, rfl⟩⟩

/-- The document of a claim has no fractions, and no more than three brackets around anything. -/
theorem ClaimParam.plain_toJson (p : ClaimParam) : p.toJson.Plain Json.Parser.maxDepth := by
  refine ⟨Json.plain_word _ _, trivial, trivial, Json.plainItems_iff.2 fun item hitem => ?_, trivial⟩
  obtain ⟨s, -, rfl⟩ := List.mem_map.mp hitem
  exact ⟨trivial, trivial, trivial, trivial, trivial, trivial⟩

/-- **The text that is kept of a claim is its document.** -/
theorem ClaimParam.parse_render_toJson (p : ClaimParam) :
    Json.parse p.toJson.sorted.render = .ok p.toJson.sorted :=
  Json.parse_render (Json.plain_sorted p.toJson p.plain_toJson)

end Treasury
