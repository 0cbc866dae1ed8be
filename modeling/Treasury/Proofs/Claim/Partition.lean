import Treasury.Proofs.Claim.CallData
import Treasury.Proofs.Claim.Gathering

/-!
# The claims of a report divide its positions among them

Every position of an accepted report goes into one strategy of one claim, that of its key, and
nothing else does (`partition_of_fold`). Strategies stand in the order in which their
keys first come up, and claims in the order of the first positions that go into them.

Both orders come from one fact: tallies are in first-seen order, and gathering keeps the order of
the tallies of one bucket and of the first tallies of all buckets.
-/

namespace Treasury

/-- Where the first position of a key stands. -/
def comesUpAt (key : TallyKey) (reported : List (Provider × Position)) : Nat :=
  (reported.map keyOf?).idxOf (some key)

/-- Where the first position stands that goes into a claim. -/
def startsAt (p : ClaimParam) (reported : List (Provider × Position)) : Nat :=
  reported.findIdx fun r => p.keys.any fun key => keyOf? r = some key

/-- The positions are divided among the strategies of the claims. -/
structure Partition (reported : List (Provider × Position)) (claims : List ClaimParam) : Prop where
  /-- Every position has a key. -/
  keyed : ∀ r ∈ reported, ∃ key, keyOf? r = some key
  /-- No two strategies have one key, not even in two claims. -/
  nodup : (claims.flatMap ClaimParam.keys).Nodup
  /-- The strategies have the keys of the positions. -/
  keys : ∀ key, key ∈ claims.flatMap ClaimParam.keys ↔ ∃ r ∈ reported, keyOf? r = some key
  /-- A strategy has the two tokens of each of its positions. -/
  symbols : ∀ p ∈ claims, ∀ s ∈ p.strategies, ∀ r ∈ reported,
    keyOf? r = some (Text.toLower p.chainName, s.address) →
      r.2.baseSymbol = s.baseSymbol ∧ r.2.quoteSymbol = s.quoteSymbol
  nonempty : ∀ p ∈ claims, p.strategies ≠ []
  /-- No two claims are for one vault on one chain. -/
  apart : claims.Pairwise fun p q =>
    ¬(p.vault = q.vault ∧ Text.equalIgnoringAsciiCase p.chainName q.chainName = true)
  /-- The strategies of a claim are in the order of their first positions. -/
  strategiesInOrder : ∀ p ∈ claims,
    p.keys.Pairwise fun key key' => comesUpAt key reported < comesUpAt key' reported
  /-- The claims are in the order of their first positions. -/
  claimsInOrder : claims.Pairwise fun p q => startsAt p reported < startsAt q reported
  nonnegative : ∀ p ∈ claims, ∀ s ∈ p.strategies, ∀ side, 0 ≤ (s.amount side).value

/-! ## Places in the report -/

section

variable {reported : List (Provider × Position)} {p : ClaimParam} {key : TallyKey}

/-- A claim starts no later than any of its keys comes up. -/
theorem startsAt_le_comesUpAt (hkey : key ∈ p.keys) :
    startsAt p reported ≤ comesUpAt key reported := by
  unfold comesUpAt List.idxOf
  rw [List.findIdx_map]
  refine List.findIdx_le_findIdx fun r _ hr => ?_
  exact List.any_eq_true.2 ⟨key, hkey, decide_eq_true (beq_iff_eq.1 hr)⟩

/-- A claim starts where one of its keys has come up. -/
theorem exists_comesUpAt_le_startsAt (h : ∃ r ∈ reported, ∃ key ∈ p.keys, keyOf? r = some key) :
    ∃ key ∈ p.keys, comesUpAt key reported ≤ startsAt p reported := by
  have hlt : startsAt p reported < reported.length := by
    obtain ⟨r, hr, key, hkey, heq⟩ := h
    exact List.findIdx_lt_length.2 ⟨r, hr, List.any_eq_true.2 ⟨key, hkey, decide_eq_true heq⟩⟩
  have hat : (p.keys.any fun key => keyOf? reported[startsAt p reported] = some key) = true :=
    List.findIdx_getElem (w := hlt)
  obtain ⟨key, hkey, heq⟩ := List.any_eq_true.1 hat
  refine ⟨key, hkey, not_lt.1 fun hbefore => ?_⟩
  -- nothing that stands before the first position of a key has this key
  have hnot := List.not_of_lt_findIdx hbefore
  rw [List.getElem_map, of_decide_eq_true heq] at hnot
  simp at hnot

end

/-! ## Tallies and claims in order -/

section

variable {tokens : TokenRegistry} {vaults : List Vault} {reported : List (Provider × Position)}
  {tallies : List Tally}

theorem pairwise_comesUpAt (h : reported.foldlM (tallyPosition tokens vaults) [] = .ok tallies) :
    tallies.Pairwise fun t u => comesUpAt t.key reported < comesUpAt u.key reported := by
  have horder := pairwise_idxOf_eraseDups (reported.map keyOf?)
  rwa [← keys_fold h, List.pairwise_map] at horder

theorem pairwise_startsAt (h : reported.foldlM (tallyPosition tokens vaults) [] = .ok tallies) :
    (gatherAll tallies).Pairwise fun p q => startsAt p reported < startsAt q reported := by
  have hof := talliesOf_fold h
  have horder := pairwise_eraseDups_of_pairwise Tally.bucket (pairwise_comesUpAt h)
  rw [← buckets_gatherAll, List.pairwise_map] at horder
  refine horder.imp_of_mem fun {p q} hp hq hfirst => ?_
  obtain ⟨t, ht, hbucket, hbefore⟩ := hfirst
  have htkey : t.key ∈ p.keys := (mem_keys_of_gatherAll hof.chainKey hp).2 ⟨t, ht, hbucket, rfl⟩
  have hseen : ∃ r ∈ reported, ∃ key ∈ q.keys, keyOf? r = some key := by
    obtain ⟨u, hu, hubucket⟩ := exists_tally_of_claim hq
    obtain ⟨r, hr, hrkey⟩ := hof.exists_position hu
    exact ⟨r, hr, u.key, (mem_keys_of_gatherAll hof.chainKey hq).2 ⟨u, hu, hubucket, rfl⟩, hrkey⟩
  obtain ⟨key, hkey, hle⟩ := exists_comesUpAt_le_startsAt hseen
  obtain ⟨u, hu, hubucket, rfl⟩ := (mem_keys_of_gatherAll hof.chainKey hq).1 hkey
  -- the first tally of the one claim comes up before all those of the other
  calc startsAt p reported ≤ comesUpAt t.key reported := startsAt_le_comesUpAt htkey
    _ < comesUpAt u.key reported := hbefore u hu hubucket
    _ ≤ startsAt q reported := hle

/-! ## Keys and claims -/

/-- No two claims share a key, because no two tallies do. -/
theorem disjoint_keys_of_gatherAll (h : TalliesOf reported tallies) :
    (gatherAll tallies).Pairwise fun p q => p.keys.Disjoint q.keys := by
  refine (List.pairwise_map.1 (nodup_buckets_gatherAll tallies)).imp_of_mem
    fun {p q} hp hq hne key hkey hkey' => ?_
  obtain ⟨t, ht, hbucket, htkey⟩ := (mem_keys_of_gatherAll h.chainKey hp).1 hkey
  obtain ⟨u, hu, hbucket', hukey⟩ := (mem_keys_of_gatherAll h.chainKey hq).1 hkey'
  have hsame : t = u := List.inj_on_of_nodup_map h.nodup ht hu (htkey.trans hukey.symm)
  exact hne (hbucket.symm.trans (hsame ▸ hbucket'))

theorem nodup_keys_of_gatherAll (h : TalliesOf reported tallies) :
    ((gatherAll tallies).flatMap ClaimParam.keys).Nodup := by
  refine List.nodup_flatMap.2 ⟨fun p hp => ?_, disjoint_keys_of_gatherAll h⟩
  rw [keys_of_gatherAll h.chainKey hp]
  exact h.nodup.sublist (List.filter_sublist.map _)

theorem mem_flatMap_keys_of_gatherAll (h : TalliesOf reported tallies) {key : TallyKey} :
    key ∈ (gatherAll tallies).flatMap ClaimParam.keys ↔ ∃ r ∈ reported, keyOf? r = some key := by
  rw [← h.keys, List.mem_flatMap, List.mem_map]
  constructor
  · rintro ⟨p, hp, hkey⟩
    obtain ⟨t, ht, -, htkey⟩ := (mem_keys_of_gatherAll h.chainKey hp).1 hkey
    exact ⟨t, ht, htkey⟩
  · rintro ⟨t, ht, htkey⟩
    obtain ⟨p, hp, hbucket⟩ := exists_claim_of_bucket ht
    exact ⟨p, hp, (mem_keys_of_gatherAll h.chainKey hp).2 ⟨t, ht, hbucket.symm, htkey⟩⟩

/-- **The claims of an accepted report divide its positions among them.** -/
theorem partition_of_fold (h : reported.foldlM (tallyPosition tokens vaults) [] = .ok tallies) :
    Partition reported (gatherAll tallies) := by
  have hof := talliesOf_fold h
  have hmade := madeOf_fold h
  refine
    { keyed := fun r hr => (attributed_of_fold h r hr).1
      nodup := nodup_keys_of_gatherAll hof
      keys := fun key => mem_flatMap_keys_of_gatherAll hof
      symbols := ?_
      nonempty := strategies_ne_nil_of_gatherAll tallies
      apart := ?_
      strategiesInOrder := ?_
      claimsInOrder := pairwise_startsAt h
      nonnegative := ?_ }
  · intro p hp s hs r hr hkey
    obtain ⟨t, ht, hbucket, rfl⟩ := exists_tally_of_mem hp hs
    rw [← key_of_bucket (hof.chainKey t ht) hbucket] at hkey
    exact (hmade t ht).symbols r (mem_positionsOf.2 ⟨hr, hkey⟩)
  · refine (List.pairwise_map.1 (nodup_buckets_gatherAll tallies)).imp fun hne hsame => hne ?_
    exact Prod.ext hsame.1 (of_decide_eq_true hsame.2)
  · intro p hp
    rw [keys_of_gatherAll hof.chainKey hp, List.pairwise_map]
    exact (pairwise_comesUpAt h).sublist List.filter_sublist
  · intro p hp s hs side
    obtain ⟨t, ht, -, rfl⟩ := exists_tally_of_mem hp hs
    refine value_nonneg_of_runningSum? ((hmade t ht).sums side) fun r hr => ?_
    exact (attributed_of_fold h r (mem_positionsOf.1 hr).1).2 side

end

/-! ## Calls -/

/-- Amounts that are not below zero are not refused for being so, whatever the registry. -/
theorem buildClaimCall_ne_negative {tokens : TokenRegistry} {p : ClaimParam}
    (h : ∀ s ∈ p.strategies, ∀ side, 0 ≤ (s.amount side).value) (symbol : String)
    (amount : Decimal) :
    buildClaimCall tokens p ≠ .error (.amount symbol (.negative amount)) := by
  have hunits : ∀ {symbol' : String} {amount' : Decimal}, 0 ≤ amount'.value →
      ¬IsUnconverted tokens p.chainName symbol' amount' (.amount symbol (.negative amount)) := by
    rintro symbol' amount' hsign (_ | ⟨_, hcause⟩)
    rcases toBaseUnits_eq_error.1 hcause with ⟨-, hnegative⟩ | ⟨hother, -⟩ | ⟨hother, -⟩
    · exact absurd hnegative (not_lt.2 hsign)
    · exact absurd hother (by simp)
    · exact absurd hother (by simp)
  intro hcall
  obtain ⟨s, hs, he⟩ := exists_of_mapM_eq_error (map_eq_error.1 hcall)
  rcases ClaimLine.ofStrategy_eq_error.1 he with hbase | ⟨-, hquote⟩
  · exact hunits (h s hs .base) hbase
  · exact hunits (h s hs .quote) hquote

/--
**The claims of a report divide its positions among them, in first-seen order.**

If a report is accepted, each of its positions has a key, and the keys are those of the strategies
of all claims, where none stands twice. A strategy has the tokens of its positions. Each claim is
for some strategy, and no two are for one vault on one chain, letters from A to Z in either case.
Strategies of a claim are in the order in which their keys first come up, and claims in the order of
their first positions. No amount is below zero, and so no call is refused for that.
-/
theorem partition_of_aggregateClaims {tokens : TokenRegistry} {vaults : List Vault}
    {providers : List Provider} {claims : List ClaimParam}
    (h : aggregateClaims tokens vaults providers = .ok claims) :
    Partition (reportedPositions providers) claims
      ∧ ∀ registry, ∀ p ∈ claims, ∀ symbol amount,
        buildClaimCall registry p ≠ .error (.amount symbol (.negative amount)) := by
  obtain ⟨tallies, htallies, rfl⟩ := map_eq_ok.1 h
  have hpartition := partition_of_fold htallies
  exact ⟨hpartition, fun registry p hp => buildClaimCall_ne_negative (hpartition.nonnegative p hp)⟩

/-! ## Two spellings of a chain -/

/-- A position of the strategy at this address, with as much of either token. -/
def evenPosition (strategy : String) (amount : Decimal) : Position where
  index := 0
  poolAmount := none
  baseAddress := ""
  quoteAddress := ""
  baseSymbol := "B"
  quoteSymbol := "Q"
  baseAmount := amount
  quoteAmount := amount
  strategyAddress := some strategy

/-- Two strategies on one chain, the first of them reported under another spelling as well. -/
def twoSpellings : List Provider :=
  let amount (n : Nat) : Decimal := (Decimal.ofParts? n 0).getD .zero
  [⟨"bsc", 56, "", none, "", "",
      [evenPosition "0303030303030303030303030303030303030303" (amount 1),
        evenPosition "0404040404040404040404040404040404040404" (amount 2)]⟩,
    ⟨"BSC", 56, "", none, "", "",
      [evenPosition "0303030303030303030303030303030303030303" (amount 3)]⟩]

/-- The tokens of these positions. -/
def twoTokens : Tokens := ⟨[(("bsc", "B"), ⟨6, "USDT"⟩), (("bsc", "Q"), ⟨6, "USDT"⟩)]⟩

/-- A vault on this chain. -/
def oneVault : List Vault :=
  [⟨"", "", "USDT", ⟨[("bsc", ⟨none, "0101010101010101010101010101010101010101"⟩)],
    List.pairwise_singleton _ _⟩⟩]

/-- The claim for both strategies. -/
def twoSpellingsClaim : ClaimParam :=
  let address (b : UInt8) : Address := ⟨List.replicate 20 b, List.length_replicate⟩
  let amount (n : Nat) : Decimal := (Decimal.ofParts? n 0).getD .zero
  ⟨56, "bsc", address 1,
    [⟨address 3, "B", "Q", amount 4, amount 4⟩, ⟨address 4, "B", "Q", amount 2, amount 2⟩]⟩

theorem aggregateClaims_twoSpellings :
    aggregateClaims twoTokens oneVault twoSpellings = .ok [twoSpellingsClaim] := by
  decide +kernel

theorem partition_of_aggregateClaims_twoSpellings :
    aggregateClaims twoTokens oneVault twoSpellings = .ok [twoSpellingsClaim]
      ∧ Partition (reportedPositions twoSpellings) [twoSpellingsClaim] :=
  ⟨aggregateClaims_twoSpellings, (partition_of_aggregateClaims aggregateClaims_twoSpellings).1⟩

end Treasury
