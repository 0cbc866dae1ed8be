import Treasury.Proofs.Claim.Origin
import Treasury.Proofs.Claim.Record
import Treasury.Proofs.Decimal.Number
import Treasury.Proofs.Liquidity.Document

/-!
# From what is written to what is signed

The provider writes an amount as text, and a call claims it in base units. On the way the text
becomes an amount, the amount is tallied, gathered into a claim and scaled. Scaling is exact or
refused, and a position that is alone in its tally is not added to anything; so the one place
where an amount can change is where its text is read (`units_of_plan`).
-/

namespace Treasury

/-- The symbol of the token on one side of a position. -/
def Position.symbol (p : Position) : Side → String
  | .base => p.baseSymbol
  | .quote => p.quoteSymbol

/-- What a line claims on one side. -/
def ClaimLine.units (l : ClaimLine) : Side → Word256
  | .base => l.base
  | .quote => l.quote

/-! ## Positions that are alone in their tally -/

/-- The position is the only one of a report that belongs to the tally of the key. -/
def Alone (key : TallyKey) (r : Provider × Position) (reported : List (Provider × Position)) :
    Prop :=
  reported.filter (fun q => keyOf? q = some key) = [r]

instance (key : TallyKey) (r : Provider × Position) (reported : List (Provider × Position)) :
    Decidable (Alone key r reported) := inferInstanceAs (Decidable (_ = _))

section

variable {tokens : TokenRegistry} {vaults : List Vault} {key : TallyKey}

/-- **A position that is alone in its tally makes the strategy of it.** -/
theorem strategy_of_alone {reported : List (Provider × Position)} {r : Provider × Position}
    {tallies : List Tally} (h : reported.foldlM (tallyPosition tokens vaults) [] = .ok tallies)
    (hr : Alone key r reported) :
    ∃ t ∈ tallies, t.key = key ∧ t.strategy = r.2.asStrategy key.2 := by
  have hpositions : positionsOf key reported = [r] := hr
  have hmem : r ∈ positionsOf key reported := by simp [hpositions]
  obtain ⟨hreported, hkey⟩ := mem_positionsOf.1 hmem
  obtain ⟨t, ht, rfl⟩ := (talliesOf_fold h).exists_tally hreported hkey
  refine ⟨t, ht, rfl, ?_⟩
  obtain ⟨hbase, hquote⟩ := (madeOf_fold h t ht).symbols r hmem
  -- the one amount on each side is what the tally has come to
  have hamount : ∀ side, r.2.amount side = t.strategy.amount side := by
    intro side
    have hsum := (madeOf_fold h t ht).sums side
    rw [hpositions, runningSum?_singleton] at hsum
    exact Option.some.inj hsum
  have hbaseAmount : r.2.baseAmount = t.strategy.baseAmount := hamount .base
  have hquoteAmount : r.2.quoteAmount = t.strategy.quoteAmount := hamount .quote
  unfold Position.asStrategy
  rw [hbase, hquote, hbaseAmount, hquoteAmount]
  rfl

end

namespace Claim

/-! ## Lines of a key -/

/-- The lines that the calls of drafts have for a key, each with the name of its chain. -/
def linesFor (key : TallyKey) (drafts : List Draft) : List (String × ClaimLine) :=
  drafts.flatMap fun d =>
    (((decodeClaim? d.inputData).getD []).filter fun l =>
      (Text.toLower d.chainName, l.strategy) = key).map fun l => (d.chainName, l)

/-- **A plan has a line for each strategy that its claims have for a key.** -/
theorem linesFor_of_plan {desk : Desk} {id : Int} {snapshot : Snapshot} {drafts : List Draft}
    (h : plan desk id snapshot = .ok (some drafts)) :
    ∃ claims, aggregateClaims desk.tokens snapshot.vaults snapshot.providers = .ok claims
      ∧ ∀ key, List.Forall₂ (fun s line => line.2.Shows desk.tokens line.1 s)
        (builtFor key claims) (linesFor key drafts) := by
  obtain ⟨-, -, claims, hclaims, hdrafts⟩ := plan_eq_ok.1 h
  refine ⟨claims, hclaims, fun key => ?_⟩
  have hdrafts := (List.forall₂_and_left _ _).2 ⟨nodup_address_of_aggregateClaims hclaims, hdrafts⟩
  -- draft for draft the lines go along with the strategies, and the key picks the same of both
  refine List.rel_flatMap hdrafts fun p d hpd => ?_
  obtain ⟨hnodup, hdraft⟩ := hpd
  obtain ⟨lines, hread, hlines⟩ := lines_of_draft hdraft hnodup
  obtain ⟨_, _, -, -, hd⟩ := draft_eq_ok.1 hdraft
  have hchain : d.chainName = p.chainName := by rw [hd]
  rw [hread, hchain, Option.getD_some]
  refine List.forall₂_map_right_iff.2 (List.rel_filter ?_ hlines)
  intro s l hl
  have hstrategy : l.strategy = s.address := hl.strategy
  dsimp only
  rw [hstrategy]

/-- What a line shows on one side of a position's strategy. -/
theorem isScaled_of_shows {tokens : TokenRegistry} {chain : String} {p : Position}
    {address : Address} {l : ClaimLine} (h : l.Shows tokens chain (p.asStrategy address))
    (side : Side) : IsScaled tokens chain (p.symbol side) (p.amount side) (l.units side) := by
  cases side with
  | base => exact h.base
  | quote => exact h.quote

/-- **A position that is alone has one line, with its amounts in base units.** -/
theorem linesFor_of_alone {desk : Desk} {id : Int} {snapshot : Snapshot} {drafts : List Draft}
    (h : plan desk id snapshot = .ok (some drafts)) {key : TallyKey} {r : Provider × Position}
    (hr : Alone key r (reportedPositions snapshot.providers)) :
    ∃ chain line, linesFor key drafts = [(chain, line)]
      ∧ ∀ side, IsScaled desk.tokens chain (r.2.symbol side) (r.2.amount side) (line.units side) := by
  obtain ⟨claims, hclaims, hlines⟩ := linesFor_of_plan h
  obtain ⟨tallies, htallies, rfl⟩ := map_eq_ok.1 hclaims
  obtain ⟨t, ht, rfl, hstrategy⟩ := strategy_of_alone htallies hr
  have hlines := hlines t.key
  rw [(talliesOf_fold htallies).builtFor_eq ht, hstrategy] at hlines
  obtain ⟨⟨chain, line⟩, rest, hshows, hrest, heq⟩ := List.forall₂_cons_left_iff.1 hlines
  cases hrest
  exact ⟨chain, line, heq, isScaled_of_shows hshows⟩

/-! ## An amount that is too long -/

/-- A text with more places than amounts have. -/
def longAmountText : String := "1.00000000000000000000000000001"

/-- An answer with one position, which has this base amount. -/
def longAmountBody : String := "[0,\"\",[[],
[[\"\",\"\",\"USDT\",\x7b\"bsc\":[null,\"0202020202020202020202020202020202020202\"]\x7d]],
[[\"bsc\",1,\"\",null,\"\",\"\",[[0,null,\"\",\"\",\"B\",\"Q\",
\"1.00000000000000000000000000001\",\"0\",\"0303030303030303030303030303030303030303\"]]]]]]"

/-- The position as it is read. -/
def longAmount : Position where
  index := 0
  poolAmount := none
  baseAddress := ""
  quoteAddress := ""
  baseSymbol := "B"
  quoteSymbol := "Q"
  baseAmount := (Decimal.ofText? longAmountText).getD .zero
  quoteAmount := .zero
  strategyAddress := some "0303030303030303030303030303030303030303"

/-- The provider that reports it. -/
def longAmountProvider : Provider := ⟨"bsc", 1, "", none, "", "", [longAmount]⟩

/-- The snapshot as it is read. -/
def longAmountSnapshot : Snapshot where
  thresholds := []
  vaults := [⟨"", "", "USDT", ⟨[("bsc", ⟨none, "0202020202020202020202020202020202020202"⟩)],
    List.pairwise_singleton _ _⟩⟩]
  providers := [longAmountProvider]

/-- What the answer says, and what is read from it. -/
theorem parse_longAmountBody :
    ∃ answer, Json.parse longAmountBody = .ok answer
      ∧ (reportedDocuments answer).map (Position.amountText? .base) = [some longAmountText]
      ∧ (Envelope.read answer).toOption.map Envelope.snapshot = some (.ok longAmountSnapshot) := by
  have hread : (Json.parse longAmountBody).toOption.map (fun answer =>
      ((reportedDocuments answer).map (Position.amountText? .base),
        (Envelope.read answer).toOption.map Envelope.snapshot)) =
      some ([some longAmountText], some (.ok longAmountSnapshot)) := by decide +kernel
  cases hparse : Json.parse longAmountBody with
  | error fault =>
    rw [hparse] at hread
    cases hread
  | ok answer =>
    rw [hparse] at hread
    obtain ⟨htext, hsnapshot⟩ := Prod.ext_iff.1 (Option.some.inj hread)
    exact ⟨answer, rfl, htext, hsnapshot⟩

theorem ofExchange_longAmountBody :
    Snapshot.ofExchange (.answered 200 longAmountBody) = .ok longAmountSnapshot := by
  obtain ⟨answer, hparse, -, hsnapshot⟩ := parse_longAmountBody
  obtain ⟨envelope, hread, hsnapshot⟩ := Option.map_eq_some_iff.1 hsnapshot
  have henvelope : Envelope.ofText? longAmountBody = some envelope := by
    refine Envelope.ofText?_eq_some.2 ⟨answer, hparse, ?_⟩
    cases h : Envelope.read answer with
    | error fault =>
      rw [h] at hread
      cases hread
    | ok other =>
      rw [h] at hread
      exact congrArg Except.ok (Option.some.inj hread)
  unfold Snapshot.ofExchange
  dsimp only
  rw [henvelope]
  exact hsnapshot

theorem exists_plan_longAmount :
    ∃ drafts, plan oneClaimDesk 1 longAmountSnapshot = .ok (some drafts) := by
  have hsome : (plan oneClaimDesk 1 longAmountSnapshot).toOption.join.isSome = true := by
    decide +kernel
  cases hplan : plan oneClaimDesk 1 longAmountSnapshot with
  | error fault =>
    rw [hplan] at hsome
    cases hsome
  | ok planned =>
    rw [hplan] at hsome
    obtain ⟨drafts, hdrafts⟩ := Option.isSome_iff_exists.1 hsome
    exact ⟨drafts, congrArg Except.ok hdrafts⟩

theorem not_held_longAmountText : ¬Decimal.Held (Decimal.number longAmountText) := by
  have hnumber : Decimal.number longAmountText = ((10 ^ 29 + 1 : ℤ) : ℚ) / 10 ^ 29 := by
    decide +kernel
  rw [hnumber]
  intro h
  obtain ⟨t, -, ht, hdvd, -⟩ := Decimal.exists_places_of_held h
  have hten : 10 ∣ (10 ^ 29 + 1 : ℤ).natAbs := Nat.dvd_trans (dvd_pow_self 10 (by omega)) hdvd
  exact absurd hten (by decide)

/-! ## What is claimed is what was written -/

/--
**What is claimed is what was written, as long as amounts can hold it, and not any longer.**

Whatever the provider answers, if a plan is made of it: each position that is alone in its tally
has one line in the calls. An amount of it that was written as text is claimed as exactly the
number that the text denotes, in base units of its token, if and only if amounts can hold this
number, and hold what stands in front of its exponent mark. A text that says more is not refused for
that: it is rounded, and what is claimed is near it.
-/
theorem units_of_plan {desk : Desk} {status : Nat} {body : String} {id : Int} {snapshot : Snapshot}
    {drafts : List Draft} (hfetch : Snapshot.ofExchange (.answered status body) = .ok snapshot)
    (hplan : plan desk id snapshot = .ok (some drafts)) :
    ∃ answer, Json.parse body = .ok answer
      ∧ List.Forall₂ (fun document r =>
          ∀ key, Alone key r (reportedPositions snapshot.providers) →
            ∃ chain line, linesFor key drafts = [(chain, line)]
              ∧ ∀ side text, Position.amountText? side document = some text →
                ∃ decimals, desk.tokens.decimals? chain (r.2.symbol side) = some decimals
                  ∧ (((line.units side).toNat : ℚ) = Decimal.number text * 10 ^ decimals.toNat ↔
                    Decimal.Held (Decimal.mantissa text) ∧ Decimal.Held (Decimal.number text)))
        (reportedDocuments answer) (reportedPositions snapshot.providers) := by
  obtain ⟨answer, hparse, hreported⟩ := reportedDocuments_of_ofExchange hfetch
  refine ⟨answer, hparse, hreported.imp fun document r hread key halone => ?_⟩
  obtain ⟨chain, line, hline, hscaled⟩ := linesFor_of_alone hplan halone
  refine ⟨chain, line, hline, fun side text htext => ?_⟩
  obtain ⟨decimals, hdecimals, hunits⟩ := hscaled side
  refine ⟨decimals, hdecimals, ?_⟩
  rw [hunits, mul_left_inj' (by positivity)]
  exact Decimal.value_eq_number_iff (Position.ofText?_of_read hread htext)

/-- The last digit of the one amount is lost, and the claim is planned without it. -/
theorem units_of_plan_longAmount :
    Snapshot.ofExchange (.answered 200 longAmountBody) = .ok longAmountSnapshot
      ∧ ∃ drafts chain line, plan oneClaimDesk 1 longAmountSnapshot = .ok (some drafts)
        ∧ linesFor ("bsc", ⟨List.replicate 20 3, rfl⟩) drafts = [(chain, line)]
        ∧ (line.base.toNat : ℚ) ≠ Decimal.number longAmountText * 10 ^ 18 := by
  obtain ⟨drafts, hplan⟩ := exists_plan_longAmount
  obtain ⟨answer, hparse, hlines⟩ := units_of_plan ofExchange_longAmountBody hplan
  obtain ⟨_, hsame, htext, -⟩ := parse_longAmountBody
  cases hparse.symm.trans hsame
  have hreported : reportedPositions longAmountSnapshot.providers =
      [(longAmountProvider, longAmount)] := rfl
  rw [hreported, List.forall₂_cons_right_iff] at hlines
  obtain ⟨document, rest, hline, -, hdocuments⟩ := hlines
  rw [hdocuments, List.map_cons] at htext
  obtain ⟨chain, line, hlinesFor, hexact⟩ :=
    hline ("bsc", ⟨List.replicate 20 3, rfl⟩) (by decide +kernel)
  obtain ⟨decimals, hdecimals, hiff⟩ := hexact .base longAmountText (List.cons.inj htext).1
  cases hdecimals
  exact ⟨ofExchange_longAmountBody, drafts, chain, line, hplan, hlinesFor,
    fun hunits => not_held_longAmountText (hiff.1 hunits).2⟩

end Claim

end Treasury
