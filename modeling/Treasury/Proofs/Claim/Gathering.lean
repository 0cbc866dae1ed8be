import Treasury.Proofs.Claim.Origin

/-!
# Which tallies a claim gathers

A claim gathers the tallies of one vault on one chain, where names of chains count as one if they
differ only in the case of the letters from A to Z: this is its bucket. Each bucket that comes up
has one claim, in the order in which they come up (`buckets_gatherAll`), and the claim has the
strategies of all tallies of its bucket, in their order (`strategies_of_gatherAll`).

Tallies are told apart by the full lower case of their chains, which is more than the letters from A
to Z. That does no harm: names that share a bucket have one lower-case form, so a strategy is found
in a claim under the key of its tally (`keys_of_gatherAll`).
-/

namespace Treasury

/-- The vault and the chain's name, the case of the letters from A to Z aside. -/
abbrev Bucket := Address × List Char

/-- The bucket that a tally goes into. -/
def Tally.bucket (t : Tally) : Bucket := (t.vault, t.chainName.toList.map Text.lowerAscii)

/-- The bucket that a claim is for. -/
def ClaimParam.bucket (p : ClaimParam) : Bucket := (p.vault, p.chainName.toList.map Text.lowerAscii)

theorem ClaimParam.takes_iff {t : Tally} {p : ClaimParam} :
    p.takes t = true ↔ p.bucket = t.bucket := by
  unfold takes bucket Tally.bucket Text.equalIgnoringAsciiCase
  rw [decide_eq_true_iff, Prod.mk.injEq, decide_eq_true_iff]

/-- The keys under which a claim has its strategies. -/
def ClaimParam.keys (p : ClaimParam) : List TallyKey :=
  p.strategies.map fun s => (Text.toLower p.chainName, s.address)

/-- The tallies that go into a bucket. -/
def talliesIn (b : Bucket) (tallies : List Tally) : List Tally :=
  tallies.filter fun t => t.bucket = b

theorem mem_talliesIn {b : Bucket} {tallies : List Tally} {t : Tally} :
    t ∈ talliesIn b tallies ↔ t ∈ tallies ∧ t.bucket = b := by
  unfold talliesIn
  rw [List.mem_filter, decide_eq_true_iff]

theorem talliesIn_eq_nil {b : Bucket} {tallies : List Tally} :
    talliesIn b tallies = [] ↔ ∀ t ∈ tallies, t.bucket ≠ b := by
  simp [talliesIn]

theorem talliesIn_concat_self (tallies : List Tally) (t : Tally) :
    talliesIn t.bucket (tallies ++ [t]) = talliesIn t.bucket tallies ++ [t] := by
  simp [talliesIn]

theorem talliesIn_concat_of_ne {b : Bucket} {t : Tally} (h : b ≠ t.bucket) (tallies : List Tally) :
    talliesIn b (tallies ++ [t]) = talliesIn b tallies := by
  simp [talliesIn, h.symm]

/-! ## One tally -/

/-- **A tally joins the claim for its bucket, or gets one of its own if there is none.** -/
theorem gather_cases (t : Tally) (claims : List ClaimParam) :
    (∃ before p after, claims = before ++ p :: after ∧ (∀ q ∈ before, q.bucket ≠ t.bucket)
      ∧ p.bucket = t.bucket
      ∧ gather t claims = before ++ { p with strategies := p.strategies ++ [t.strategy] } :: after)
    ∨ ((∀ q ∈ claims, q.bucket ≠ t.bucket)
      ∧ gather t claims = claims ++ [⟨t.chainId, t.chainName, t.vault, [t.strategy]⟩]) := by
  induction claims with
  | nil => exact .inr ⟨fun _ hq => absurd hq List.not_mem_nil, rfl⟩
  | cons p rest ih =>
    rw [gather]
    by_cases hp : p.bucket = t.bucket
    · rw [if_pos (ClaimParam.takes_iff.2 hp)]
      exact .inl ⟨[], p, rest, rfl, fun _ hq => absurd hq List.not_mem_nil, hp, rfl⟩
    · rw [if_neg fun htakes => hp (ClaimParam.takes_iff.1 htakes)]
      rcases ih with ⟨before, q, after, rfl, hbefore, hq, hgather⟩ | ⟨hnone, hgather⟩
      · exact .inl ⟨p :: before, q, after, rfl, List.forall_mem_cons.2 ⟨hp, hbefore⟩, hq, by
          rw [hgather, List.cons_append]⟩
      · exact .inr ⟨List.forall_mem_cons.2 ⟨hp, hnone⟩, by rw [hgather, List.cons_append]⟩

theorem gatherAll_concat (tallies : List Tally) (t : Tally) :
    gatherAll (tallies ++ [t]) = gather t (gatherAll tallies) := by
  unfold gatherAll
  rw [List.foldl_append]
  rfl

/-! ## All tallies -/

/-- **Each bucket that comes up has one claim, in the order in which they come up.** -/
theorem buckets_gatherAll (tallies : List Tally) :
    (gatherAll tallies).map ClaimParam.bucket = (tallies.map Tally.bucket).eraseDups := by
  induction tallies using List.reverseRecOn with
  | nil => rfl
  | append_singleton tallies t ih =>
    have hseen : t.bucket ∈ tallies.map Tally.bucket ↔
        ∃ p ∈ gatherAll tallies, p.bucket = t.bucket := by
      rw [← List.mem_eraseDups, ← ih, List.mem_map]
    rw [gatherAll_concat, List.map_append, List.map_singleton]
    rcases gather_cases t (gatherAll tallies) with
      ⟨before, p, after, hclaims, -, hp, hgather⟩ | ⟨hnone, hgather⟩
    · rw [eraseDups_concat_of_mem (hseen.2 ⟨p, by simp [hclaims], hp⟩), ← ih, hgather, hclaims,
        List.map_append, List.map_append]
      rfl
    · have hnew : t.bucket ∉ tallies.map Tally.bucket := by
        intro hmem
        obtain ⟨p, hp, heq⟩ := hseen.1 hmem
        exact hnone p hp heq
      rw [eraseDups_concat_of_not_mem hnew, ← ih, hgather, List.map_append]
      rfl

/-- No two claims are for one bucket. -/
theorem nodup_buckets_gatherAll (tallies : List Tally) :
    ((gatherAll tallies).map ClaimParam.bucket).Nodup := by
  rw [buckets_gatherAll]
  exact (pairwise_idxOf_eraseDups _).imp fun hlt heq => absurd hlt (by rw [heq]; exact lt_irrefl _)

/-- What a claim is after a tally has been put in: the one it was, the one for the bucket, or a new
one. -/
theorem cases_of_mem_gather {t : Tally} {claims : List ClaimParam}
    (h : (claims.map ClaimParam.bucket).Nodup) {p : ClaimParam} (hp : p ∈ gather t claims) :
    (p ∈ claims ∧ p.bucket ≠ t.bucket)
    ∨ (∃ q ∈ claims, q.bucket = t.bucket
      ∧ p = { q with strategies := q.strategies ++ [t.strategy] })
    ∨ ((∀ q ∈ claims, q.bucket ≠ t.bucket)
      ∧ p = ⟨t.chainId, t.chainName, t.vault, [t.strategy]⟩) := by
  rcases gather_cases t claims with ⟨before, q, after, rfl, hbefore, hq, hgather⟩ | ⟨hnone, hgather⟩
  · rw [hgather] at hp
    rcases List.mem_append.mp hp with hp | hp
    · exact .inl ⟨List.mem_append_left _ hp, hbefore p hp⟩
    rcases List.mem_cons.mp hp with rfl | hp
    · exact .inr (.inl ⟨q, by simp, hq, rfl⟩)
    · -- no bucket has two claims, so none of those behind is for this one
      rw [List.map_append, List.map_cons, hq] at h
      have hafter := (List.nodup_cons.1 (List.nodup_append.1 h).2.1).1
      exact .inl ⟨by simp [hp], fun heq => hafter (heq ▸ List.mem_map_of_mem hp)⟩
  · rw [hgather] at hp
    rcases List.mem_append.mp hp with hp | hp
    · exact .inl ⟨hp, hnone p hp⟩
    · exact .inr (.inr ⟨hnone, List.mem_singleton.mp hp⟩)

/-- A tally has a claim for its bucket. -/
theorem exists_claim_of_bucket {tallies : List Tally} {t : Tally} (ht : t ∈ tallies) :
    ∃ p ∈ gatherAll tallies, p.bucket = t.bucket := by
  have hmem : t.bucket ∈ (gatherAll tallies).map ClaimParam.bucket := by
    rw [buckets_gatherAll, List.mem_eraseDups]
    exact List.mem_map_of_mem ht
  exact List.mem_map.mp hmem

/-- A bucket for which there is no claim has no tallies. -/
theorem talliesIn_eq_nil_of_gatherAll {b : Bucket} {tallies : List Tally}
    (h : ∀ p ∈ gatherAll tallies, p.bucket ≠ b) : talliesIn b tallies = [] := by
  refine talliesIn_eq_nil.2 fun t ht heq => ?_
  obtain ⟨p, hp, hbucket⟩ := exists_claim_of_bucket ht
  exact h p hp (hbucket.trans heq)

/-- A claim is for the bucket of some tally. -/
theorem exists_tally_of_claim {tallies : List Tally} {p : ClaimParam} (hp : p ∈ gatherAll tallies) :
    ∃ t ∈ tallies, t.bucket = p.bucket := by
  have hmem := List.mem_map_of_mem (f := ClaimParam.bucket) hp
  rw [buckets_gatherAll, List.mem_eraseDups] at hmem
  exact List.mem_map.mp hmem

/-- **A claim has the strategies of the tallies of its bucket, in their order.** -/
theorem strategies_of_gatherAll (tallies : List Tally) :
    ∀ p ∈ gatherAll tallies, p.strategies = (talliesIn p.bucket tallies).map (·.strategy) := by
  induction tallies using List.reverseRecOn with
  | nil => exact fun p hp => absurd hp List.not_mem_nil
  | append_singleton tallies t ih =>
    rw [gatherAll_concat]
    intro p hp
    rcases cases_of_mem_gather (nodup_buckets_gatherAll tallies) hp with
      ⟨hp, hne⟩ | ⟨q, hq, hbucket, rfl⟩ | ⟨hnone, rfl⟩
    · rw [talliesIn_concat_of_ne hne]
      exact ih p hp
    · have hstrategies := ih q hq
      rw [hbucket] at hstrategies
      have hsame : ClaimParam.bucket { q with strategies := q.strategies ++ [t.strategy] } =
          t.bucket := hbucket
      rw [hsame, talliesIn_concat_self, List.map_append, ← hstrategies]
      rfl
    · have hsame : ClaimParam.bucket ⟨t.chainId, t.chainName, t.vault, [t.strategy]⟩ =
          t.bucket := rfl
      rw [hsame, talliesIn_concat_self, talliesIn_eq_nil_of_gatherAll hnone]
      rfl

section

variable {tallies : List Tally} {p : ClaimParam}

/-- The lower-case form of a chain's name is that of its bucket. -/
theorem toLower_of_bucket {t : Tally} (h : t.bucket = p.bucket) :
    Text.toLower t.chainName = Text.toLower p.chainName :=
  Text.toLower_eq_of_equalIgnoringAsciiCase (decide_eq_true (Prod.mk.inj h).2)

/-- A tally is found in the claim for its bucket under its key. -/
theorem key_of_bucket {t : Tally} (ht : t.chainKey = Text.toLower t.chainName)
    (h : t.bucket = p.bucket) : t.key = (Text.toLower p.chainName, t.strategy.address) := by
  rw [← toLower_of_bucket h, ← ht]
  rfl

/-- **The keys of a claim are those of the tallies of its bucket.** -/
theorem keys_of_gatherAll (h : ∀ t ∈ tallies, t.chainKey = Text.toLower t.chainName)
    (hp : p ∈ gatherAll tallies) :
    p.keys = (talliesIn p.bucket tallies).map Tally.key := by
  unfold ClaimParam.keys
  rw [strategies_of_gatherAll tallies p hp, List.map_map]
  refine List.map_congr_left fun t ht => ?_
  obtain ⟨ht, hbucket⟩ := mem_talliesIn.1 ht
  exact (key_of_bucket (h t ht) hbucket).symm

theorem mem_keys_of_gatherAll (h : ∀ t ∈ tallies, t.chainKey = Text.toLower t.chainName)
    (hp : p ∈ gatherAll tallies) {key : TallyKey} :
    key ∈ p.keys ↔ ∃ t ∈ tallies, t.bucket = p.bucket ∧ t.key = key := by
  rw [keys_of_gatherAll h hp, List.mem_map]
  simp only [mem_talliesIn, and_assoc]

/-- A strategy of a claim is that of a tally. -/
theorem exists_tally_of_mem (hp : p ∈ gatherAll tallies) {s : Strategy} (hs : s ∈ p.strategies) :
    ∃ t ∈ tallies, t.bucket = p.bucket ∧ t.strategy = s := by
  rw [strategies_of_gatherAll tallies p hp] at hs
  obtain ⟨t, ht, rfl⟩ := List.mem_map.mp hs
  obtain ⟨ht, hbucket⟩ := mem_talliesIn.1 ht
  exact ⟨t, ht, hbucket, rfl⟩

/-- A tally has its strategy in the claim for its bucket. -/
theorem exists_claim_of_mem {t : Tally} (ht : t ∈ tallies) :
    ∃ p ∈ gatherAll tallies, t.bucket = p.bucket ∧ t.strategy ∈ p.strategies := by
  obtain ⟨p, hp, hbucket⟩ := exists_claim_of_bucket ht
  refine ⟨p, hp, hbucket.symm, ?_⟩
  rw [strategies_of_gatherAll tallies p hp]
  exact List.mem_map_of_mem (mem_talliesIn.2 ⟨ht, hbucket.symm⟩)

end

end Treasury
