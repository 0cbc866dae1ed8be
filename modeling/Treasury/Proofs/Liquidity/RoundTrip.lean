import Treasury.Liquidity.Source
import Treasury.Proofs.Liquidity.Plain

/-!
# Snapshots that are read back

A snapshot is written with all its fields, also those that a provider may leave out, and amounts are
written as text, also those that a provider gives as numbers. So a snapshot is fetched again as it
was from the answer that reports it (`ofExchange_report`), with the value and the places of every
amount. Only the minus sign of a zero amount is lost, and it makes no difference to the claims.
-/

namespace Treasury

open Json (Reader)

theorem Json.read_byte (n : UInt8) : Reader.uint8 (.int n.toNat) = .ok n := by
  have hlt : (n.toNat : Int) < UInt8.size := Int.ofNat_lt.2 n.toNat_lt_size
  unfold Reader.uint8 Reader.whole
  dsimp only
  rw [if_pos ⟨Int.natCast_nonneg _, hlt⟩]
  simp [Except.map]

theorem read_optionalAmount (amount : Option Decimal) :
    Reader.option Reader.decimal (optionalAmount amount) = .ok (amount.map Decimal.plain) := by
  cases amount with
  | none => rfl
  | some d =>
    have hread : Reader.decimal d.toJson = .ok d.plain := d.read_toJson
    exact congrArg (Except.map some) hread

/-! ## Records -/

theorem Threshold.read_toJson (t : Threshold) : Threshold.read t.toJson = .ok t.plain := by
  refine bind_eq_ok.2 ⟨_, Json.record_object "a threshold" (by simp) (by simp), ?_⟩
  refine bind_eq_ok.2 ⟨t.tokenAddress, rfl, bind_eq_ok.2 ⟨t.tokenSymbol, rfl, ?_⟩⟩
  refine bind_eq_ok.2 ⟨t.chain, rfl, bind_eq_ok.2 ⟨t.chainId, Json.read_word _, ?_⟩⟩
  refine bind_eq_ok.2 ⟨t.amount.plain, Decimal.read_toJson _, ?_⟩
  exact bind_eq_ok.2 ⟨t.decimal, Json.read_byte _, rfl⟩

theorem Position.read_toJson (p : Position) : Position.read p.toJson = .ok p.plain := by
  refine bind_eq_ok.2 ⟨_, Json.record_object "a position" (by simp) (by simp), ?_⟩
  refine bind_eq_ok.2 ⟨p.index, Json.read_word _, bind_eq_ok.2 ⟨_, read_optionalAmount _, ?_⟩⟩
  refine bind_eq_ok.2 ⟨p.baseAddress, rfl, bind_eq_ok.2 ⟨p.quoteAddress, rfl, ?_⟩⟩
  refine bind_eq_ok.2 ⟨p.baseSymbol, rfl, bind_eq_ok.2 ⟨p.quoteSymbol, rfl, ?_⟩⟩
  refine bind_eq_ok.2 ⟨p.baseAmount.plain, Decimal.read_toJson _, ?_⟩
  refine bind_eq_ok.2 ⟨p.quoteAmount.plain, Decimal.read_toJson _, ?_⟩
  refine bind_eq_ok.2 ⟨p.strategyAddress, ?_, rfl⟩
  rcases p with ⟨_, _, _, _, _, _, _, _, _ | strategyAddress⟩ <;> rfl

theorem Provider.read_toJson (p : Provider) : Provider.read p.toJson = .ok p.plain := by
  refine bind_eq_ok.2 ⟨_, Json.record_object "a provider" (by simp) (by simp), ?_⟩
  refine bind_eq_ok.2 ⟨p.chain, rfl, bind_eq_ok.2 ⟨p.chainId, Json.read_word _, ?_⟩⟩
  refine bind_eq_ok.2 ⟨p.poolSymbol, rfl, bind_eq_ok.2 ⟨_, read_optionalAmount _, ?_⟩⟩
  refine bind_eq_ok.2 ⟨p.poolAddress, rfl, bind_eq_ok.2 ⟨p.platform, rfl, ?_⟩⟩
  exact bind_eq_ok.2 ⟨_, Json.read_list Position.read_toJson p.positions, rfl⟩

theorem Controller.read_toJson (c : Controller) : Controller.read c.toJson = .ok c.plain := by
  refine bind_eq_ok.2 ⟨_, Json.record_object "a controller" (by simp) (by simp), ?_⟩
  exact bind_eq_ok.2 ⟨_, read_optionalAmount _, bind_eq_ok.2 ⟨c.address, rfl, rfl⟩⟩

theorem Vault.read_toJson (v : Vault) : Vault.read v.toJson = .ok v.plain := by
  refine bind_eq_ok.2 ⟨_, Json.record_object "a vault" (by simp) (by simp), ?_⟩
  refine bind_eq_ok.2 ⟨v.tokenSymbol, rfl, bind_eq_ok.2 ⟨v.chain, rfl, ?_⟩⟩
  refine bind_eq_ok.2 ⟨v.currency, rfl, ?_⟩
  exact bind_eq_ok.2 ⟨_, Json.read_map Controller.read_toJson v.controllers, rfl⟩

/-- **A snapshot is read back from its document.** -/
theorem Snapshot.read_toJson (s : Snapshot) : Snapshot.read s.toJson = .ok s.plain := by
  refine bind_eq_ok.2 ⟨_, Json.record_object "a snapshot" (by simp) (by simp), ?_⟩
  refine bind_eq_ok.2 ⟨_, Json.read_list Threshold.read_toJson s.thresholds, ?_⟩
  refine bind_eq_ok.2 ⟨_, Json.read_list Vault.read_toJson s.vaults, ?_⟩
  exact bind_eq_ok.2 ⟨_, Json.read_list Provider.read_toJson s.providers, rfl⟩

/-! ## Texts -/

theorem plain_optionalAmount (amount : Option Decimal) (room : Nat) :
    (optionalAmount amount).Plain room := by
  cases amount <;> trivial

theorem Threshold.plain_toJson (t : Threshold) (room : Nat) : t.toJson.Plain (room + 1) := by
  have hdecimal : (t.decimal.toNat : Int) < UInt64.size :=
    Int.ofNat_lt.2 (Nat.lt_trans t.decimal.toNat_lt_size (by decide))
  exact ⟨trivial, trivial, trivial, Json.plain_word _ _, trivial,
    ⟨Int.le_trans (by decide) (Int.natCast_nonneg _), hdecimal⟩, trivial⟩

theorem Position.plain_toJson (p : Position) (room : Nat) : p.toJson.Plain (room + 1) := by
  refine ⟨Json.plain_word _ _, plain_optionalAmount _ _, trivial, trivial, trivial, trivial,
    trivial, trivial, ?_, trivial⟩
  rcases p with ⟨_, _, _, _, _, _, _, _, _ | strategyAddress⟩ <;> trivial

theorem Provider.plain_toJson (p : Provider) (room : Nat) : p.toJson.Plain (room + 3) := by
  refine ⟨trivial, Json.plain_word _ _, trivial, plain_optionalAmount _ _, trivial, trivial,
    Json.plainItems_iff.2 fun item hitem => ?_, trivial⟩
  obtain ⟨position, -, rfl⟩ := List.mem_map.mp hitem
  exact position.plain_toJson room

theorem Vault.plain_toJson (v : Vault) (room : Nat) : v.toJson.Plain (room + 3) := by
  refine ⟨trivial, trivial, trivial, Json.plainMembers_iff.2 fun member hmember => ?_, trivial⟩
  obtain ⟨entry, -, rfl⟩ := List.mem_map.mp hmember
  exact ⟨plain_optionalAmount _ _, trivial, trivial⟩

/-- The document of a snapshot has no fractions, and no more than five brackets around anything. -/
theorem Snapshot.plain_toJson (s : Snapshot) (room : Nat) : s.toJson.Plain (room + 5) := by
  refine ⟨Json.plainItems_iff.2 fun item hitem => ?_, Json.plainItems_iff.2 fun item hitem => ?_,
    Json.plainItems_iff.2 fun item hitem => ?_, trivial⟩
  · obtain ⟨threshold, -, rfl⟩ := List.mem_map.mp hitem
    exact threshold.plain_toJson _
  · obtain ⟨vault, -, rfl⟩ := List.mem_map.mp hitem
    exact vault.plain_toJson room
  · obtain ⟨provider, -, rfl⟩ := List.mem_map.mp hitem
    exact provider.plain_toJson room

/-! ## Answers -/

/-- The body of an answer that reports a snapshot. -/
def Snapshot.report (s : Snapshot) : String :=
  "\x7b\"code\":0,\"data\":" ++ s.toJson.render ++ "\x7d"

/-- It is the document of an envelope without a message. -/
theorem Snapshot.report_eq (s : Snapshot) :
    s.report = (Json.object [("code", .int 0), ("data", s.toJson)]).render := by
  refine String.toList_inj.1 ?_
  unfold report Json.render
  simp only [String.toList_append, String.toList_ofList]
  rfl

/-- **A snapshot that is reported is fetched.** -/
theorem Snapshot.ofExchange_report (s : Snapshot) :
    ofExchange (.answered 200 s.report) = .ok s.plain := by
  have hparse : Json.parse s.report = .ok (.object [("code", .int 0), ("data", s.toJson)]) := by
    rw [s.report_eq]
    exact Json.parse_render ⟨⟨by decide, by decide⟩, s.plain_toJson 121, trivial⟩
  have hread : Envelope.read (.object [("code", .int 0), ("data", s.toJson)]) =
      .ok ⟨0, "", some s.plain⟩ := by
    refine bind_eq_ok.2 ⟨_, Json.record_object "an envelope" (by simp) (by simp), ?_⟩
    refine bind_eq_ok.2 ⟨0, rfl, bind_eq_ok.2 ⟨"", rfl, ?_⟩⟩
    exact bind_eq_ok.2 ⟨some s.plain, congrArg (Except.map some) s.read_toJson, rfl⟩
  have henvelope : Envelope.ofText? s.report = some ⟨0, "", some s.plain⟩ := by
    unfold Envelope.ofText?
    rw [hparse]
    dsimp only
    rw [hread]
  unfold ofExchange
  dsimp only
  rw [if_pos (by decide), henvelope]
  rfl

/--
**A snapshot that is written down and fetched again is the same.**

Any snapshot is, whatever answer it was fetched from: its lists in their order, its maps, what is
absent, and each amount with its value and its places, where only a zero may lose a minus sign. From
then on it loses nothing. The claims for it are the same, or refused for the same cause.
-/
theorem Snapshot.fetched_again (s : Snapshot) :
    ofExchange (.answered 200 s.report) = .ok s.plain
      ∧ ofExchange (.answered 200 s.plain.report) = .ok s.plain
      ∧ ∀ tokens : TokenRegistry,
        aggregateClaims tokens s.plain.vaults s.plain.providers =
          (aggregateClaims tokens s.vaults s.providers).map (List.map ClaimParam.plain) := by
  have hagain := s.plain.ofExchange_report
  rw [s.plain_plain] at hagain
  exact ⟨s.ofExchange_report, hagain, fun tokens => aggregateClaims_plain tokens s⟩

end Treasury
