import Treasury.Proofs.Claim.Routing

/-!
# Which number of a chain a claim has

A claim has the name and the number of its chain from the first position that goes into it
(`chain_of_fold_startsAt`). Positions come together in a claim by the names of their chains and by
the vault that they lead to, and no number is looked at on the way. So a claim has the numbers of
all its positions exactly if providers agree on a number wherever their positions come together.
-/

namespace Treasury

/-- The claim has a strategy that the position goes into. -/
def ClaimParam.Covers (p : ClaimParam) (r : Provider × Position) : Prop :=
  ∃ key ∈ p.keys, keyOf? r = some key

/-- The position goes into this bucket: the first position of its key leads to the vault, and has
its name for the chain. -/
def GoesInto (tokens : TokenRegistry) (vaults : List Vault) (reported : List (Provider × Position))
    (r : Provider × Position) (b : Bucket) : Prop :=
  ∃ key, keyOf? r = some key ∧ ∃ first ∈ (positionsOf key reported).head?,
    RoutesTo tokens vaults first.1.chain first.2.baseSymbol b.1
      ∧ first.1.chain.toList.map Text.lowerAscii = b.2

/-- The first position of a key is the one that stands where the key comes up. -/
theorem head?_positionsOf (key : TallyKey) (reported : List (Provider × Position)) :
    (positionsOf key reported).head? = reported[comesUpAt key reported]? := by
  unfold positionsOf comesUpAt List.idxOf
  have hsame : (fun r => decide (keyOf? r = some key)) = (· == some key) ∘ keyOf? :=
    funext fun r => (beq_eq_decide (keyOf? r) (some key)).symm
  rw [List.head?_filter, List.find?_eq_getElem?_findIdx, List.findIdx_map, hsame]

/-- A claim has the name and the number of its chain from the first tally of its bucket. -/
theorem chain_of_gatherAll_head (tallies : List Tally) :
    ∀ p ∈ gatherAll tallies, ∃ t ∈ (talliesIn p.bucket tallies).head?,
      p.chainName = t.chainName ∧ p.chainId = t.chainId := by
  induction tallies using List.reverseRecOn with
  | nil => exact fun p hp => absurd hp List.not_mem_nil
  | append_singleton tallies t ih =>
    -- what comes behind does not change which tally of a bucket is the first
    have hkept : ∀ q ∈ gatherAll tallies, ∃ u ∈ (talliesIn q.bucket (tallies ++ [t])).head?,
        q.chainName = u.chainName ∧ q.chainId = u.chainId := by
      intro q hq
      obtain ⟨u, hu, hchain⟩ := ih q hq
      refine ⟨u, ?_, hchain⟩
      unfold talliesIn at hu ⊢
      rw [List.filter_append, List.head?_append, Option.mem_def.1 hu]
      rfl
    rw [gatherAll_concat]
    intro p hp
    rcases cases_of_mem_gather (nodup_buckets_gatherAll tallies) hp with
      ⟨hp, -⟩ | ⟨q, hq, -, rfl⟩ | ⟨hnone, rfl⟩
    · exact hkept p hp
    · exact hkept q hq
    · have hsame : ClaimParam.bucket ⟨t.chainId, t.chainName, t.vault, [t.strategy]⟩ =
          t.bucket := rfl
      refine ⟨t, ?_, rfl, rfl⟩
      rw [hsame, talliesIn_concat_self, talliesIn_eq_nil_of_gatherAll hnone]
      rfl

section

variable {tokens : TokenRegistry} {vaults : List Vault} {reported : List (Provider × Position)}
  {tallies : List Tally} {r : Provider × Position} {p : ClaimParam}

theorem covers_of_gatherAll (h : TalliesOf reported tallies) (hp : p ∈ gatherAll tallies) :
    p.Covers r ↔ ∃ t ∈ tallies, keyOf? r = some t.key ∧ t.bucket = p.bucket := by
  unfold ClaimParam.Covers
  simp only [mem_keys_of_gatherAll h.chainKey hp]
  constructor
  · rintro ⟨key, ⟨t, ht, hbucket, rfl⟩, hkey⟩
    exact ⟨t, ht, hkey, hbucket⟩
  · rintro ⟨t, ht, hkey, hbucket⟩
    exact ⟨t.key, ⟨t, ht, hbucket, rfl⟩, hkey⟩

/-- **A position goes into the bucket of its tally.** -/
theorem goesInto_iff (h : reported.foldlM (tallyPosition tokens vaults) [] = .ok tallies)
    (hr : r ∈ reported) {b : Bucket} :
    GoesInto tokens vaults reported r b ↔ ∃ t ∈ tallies, keyOf? r = some t.key ∧ t.bucket = b := by
  have hmade := madeOf_fold h
  constructor
  · rintro ⟨key, hkey, first, hfirst, hroute, hname⟩
    obtain ⟨t, ht, rfl⟩ := (talliesOf_fold h).exists_tally hr hkey
    obtain ⟨opener, hopener, hchain, -, hvault⟩ := (hmade t ht).opened
    obtain rfl := Option.mem_unique hfirst hopener
    have hsame : t.vault = b.1 :=
      Except.ok.inj (hvault.symm.trans (Position.route_eq_ok.2 hroute))
    exact ⟨t, ht, hkey, Prod.ext hsame (by rw [← hname, ← hchain]; rfl)⟩
  · rintro ⟨t, ht, hkey, rfl⟩
    obtain ⟨first, hfirst, hchain, -, hvault⟩ := (hmade t ht).opened
    exact ⟨t.key, hkey, first, hfirst, Position.route_eq_ok.1 hvault, by rw [← hchain]; rfl⟩

/-- **A claim covers what goes into its bucket.** -/
theorem covers_iff_goesInto (h : reported.foldlM (tallyPosition tokens vaults) [] = .ok tallies)
    (hp : p ∈ gatherAll tallies) (hr : r ∈ reported) :
    p.Covers r ↔ GoesInto tokens vaults reported r p.bucket :=
  (covers_of_gatherAll (talliesOf_fold h) hp).trans (goesInto_iff h hr).symm

/-- **A claim starts where the key of its first tally comes up.** -/
theorem startsAt_of_head (h : reported.foldlM (tallyPosition tokens vaults) [] = .ok tallies)
    (hp : p ∈ gatherAll tallies) {t : Tally} (ht : t ∈ (talliesIn p.bucket tallies).head?) :
    startsAt p reported = comesUpAt t.key reported := by
  have hof := talliesOf_fold h
  have hkeys := keys_of_gatherAll hof.chainKey hp
  obtain ⟨rest, hrest⟩ := List.head?_eq_some_iff.1 (Option.mem_def.1 ht)
  rw [hrest, List.map_cons] at hkeys
  refine le_antisymm (startsAt_le_comesUpAt (hkeys ▸ List.mem_cons_self)) ?_
  have hseen : ∃ r ∈ reported, ∃ key ∈ p.keys, keyOf? r = some key := by
    have htallies := (mem_talliesIn.1 (List.mem_of_mem_head? ht)).1
    obtain ⟨r, hr, hkey⟩ := hof.exists_position htallies
    exact ⟨r, hr, t.key, hkeys ▸ List.mem_cons_self, hkey⟩
  obtain ⟨key, hkey, hle⟩ := exists_comesUpAt_le_startsAt hseen
  refine le_trans ?_ hle
  -- the first tally of the bucket comes up before the others
  have horder : (talliesIn p.bucket tallies).Pairwise fun t u =>
      comesUpAt t.key reported < comesUpAt u.key reported :=
    (pairwise_comesUpAt h).sublist List.filter_sublist
  rw [hrest] at horder
  rw [hkeys] at hkey
  rcases List.mem_cons.mp hkey with rfl | hkey
  · exact le_rfl
  · obtain ⟨u, hu, rfl⟩ := List.mem_map.mp hkey
    exact (List.rel_of_pairwise_cons horder hu).le

/-- **A claim has the chain of the first position that goes into it.** -/
theorem chain_of_fold_startsAt (h : reported.foldlM (tallyPosition tokens vaults) [] = .ok tallies)
    (hp : p ∈ gatherAll tallies) :
    ∃ first, reported[startsAt p reported]? = some first ∧ p.Covers first
      ∧ p.chainName = first.1.chain ∧ p.chainId = first.1.chainId := by
  obtain ⟨t, ht, hname, hid⟩ := chain_of_gatherAll_head tallies p hp
  obtain ⟨htallies, hbucket⟩ := mem_talliesIn.1 (List.mem_of_mem_head? ht)
  obtain ⟨first, hfirst, hname', hid', -⟩ := (madeOf_fold h t htallies).opened
  have hkey := (mem_positionsOf.1 (List.mem_of_mem_head? hfirst)).2
  refine ⟨first, ?_, ?_, hname.trans hname', hid.trans hid'⟩
  · rw [startsAt_of_head h hp ht, ← head?_positionsOf]
    exact hfirst
  · exact (covers_of_gatherAll (talliesOf_fold h) hp).2 ⟨t, htallies, hkey, hbucket⟩

/-- What goes into a bucket is covered by some claim for the bucket. -/
theorem exists_claim_of_goesInto
    (h : reported.foldlM (tallyPosition tokens vaults) [] = .ok tallies) (hr : r ∈ reported)
    {b : Bucket} (hb : GoesInto tokens vaults reported r b) :
    ∃ p ∈ gatherAll tallies, p.bucket = b := by
  obtain ⟨t, ht, -, rfl⟩ := (goesInto_iff h hr).1 hb
  exact exists_claim_of_bucket ht

end

/--
**A claim keeps the number of its first position, whatever numbers the others have.**

If a report is accepted, each claim has the name and the number of its chain from the first position
that goes into it. The number is that of all positions that the claim covers, for all claims,
exactly if no two positions that go into one bucket were reported with different numbers. Two
providers that use one name for a chain with different numbers may well go into one.
-/
theorem chainId_of_aggregateClaims {tokens : TokenRegistry} {vaults : List Vault}
    {providers : List Provider} {claims : List ClaimParam}
    (h : aggregateClaims tokens vaults providers = .ok claims) :
    (∀ p ∈ claims, ∃ first,
        (reportedPositions providers)[startsAt p (reportedPositions providers)]? = some first
          ∧ p.Covers first ∧ p.chainName = first.1.chain ∧ p.chainId = first.1.chainId)
      ∧ ((∀ r ∈ reportedPositions providers, ∀ p ∈ claims, p.Covers r → p.chainId = r.1.chainId) ↔
        ∀ b, ∀ r ∈ reportedPositions providers, ∀ r' ∈ reportedPositions providers,
          GoesInto tokens vaults (reportedPositions providers) r b →
          GoesInto tokens vaults (reportedPositions providers) r' b →
            r.1.chainId = r'.1.chainId) := by
  obtain ⟨tallies, htallies, rfl⟩ := map_eq_ok.1 h
  refine ⟨fun p hp => chain_of_fold_startsAt htallies hp, fun hkept => ?_, fun hagree => ?_⟩
  · intro b r hr r' hr' hb hb'
    obtain ⟨p, hp, rfl⟩ := exists_claim_of_goesInto htallies hr hb
    have hcovers := (covers_iff_goesInto htallies hp hr).2 hb
    have hcovers' := (covers_iff_goesInto htallies hp hr').2 hb'
    exact (hkept r hr p hp hcovers).symm.trans (hkept r' hr' p hp hcovers')
  · intro r hr p hp hcovers
    obtain ⟨first, hfirst, hcovers', -, hid⟩ := chain_of_fold_startsAt htallies hp
    have hmem : first ∈ reportedPositions providers := List.mem_of_getElem? hfirst
    rw [hid]
    exact hagree p.bucket first hmem r hr ((covers_iff_goesInto htallies hp hmem).1 hcovers')
      ((covers_iff_goesInto htallies hp hr).1 hcovers)

/-! ## One name with two numbers -/

/-- Two providers that give one chain different numbers. -/
def twoNumbers : List Provider :=
  let amount (n : Nat) : Decimal := (Decimal.ofParts? n 0).getD .zero
  [⟨"bsc", 56, "", none, "", "",
      [evenPosition "0303030303030303030303030303030303030303" (amount 4)]⟩,
    ⟨"bsc", 137, "", none, "", "",
      [evenPosition "0404040404040404040404040404040404040404" (amount 2)]⟩]

/-- They are claimed for as if both had given the first. -/
theorem aggregateClaims_twoNumbers :
    aggregateClaims twoTokens oneVault twoNumbers = .ok [twoSpellingsClaim] := by
  decide +kernel

/-- What was reported with the number 137 is claimed with the number 56. -/
theorem chainId_of_aggregateClaims_twoNumbers :
    aggregateClaims twoTokens oneVault twoNumbers = .ok [twoSpellingsClaim]
      ∧ (∃ r ∈ reportedPositions twoNumbers, twoSpellingsClaim.Covers r
        ∧ r.1.chainId = 137 ∧ twoSpellingsClaim.chainId = 56)
      ∧ ¬∀ b, ∀ r ∈ reportedPositions twoNumbers, ∀ r' ∈ reportedPositions twoNumbers,
        GoesInto twoTokens oneVault (reportedPositions twoNumbers) r b →
        GoesInto twoTokens oneVault (reportedPositions twoNumbers) r' b →
          r.1.chainId = r'.1.chainId := by
  have hsecond : ∃ r ∈ reportedPositions twoNumbers, twoSpellingsClaim.Covers r
      ∧ r.1.chainId = 137 ∧ twoSpellingsClaim.chainId = 56 := by
    refine ⟨(reportedPositions twoNumbers)[1], List.getElem_mem _, ?_, rfl, rfl⟩
    exact ⟨twoSpellingsClaim.keys[1], List.getElem_mem _, by decide +kernel⟩
  refine ⟨aggregateClaims_twoNumbers, hsecond, fun hagree => ?_⟩
  obtain ⟨r, hr, hcovers, hid, hid'⟩ := hsecond
  have hkept := (chainId_of_aggregateClaims aggregateClaims_twoNumbers).2.2 hagree r hr
    twoSpellingsClaim (List.mem_singleton_self _) hcovers
  rw [hid, hid'] at hkept
  exact absurd hkept (by decide)

end Treasury
