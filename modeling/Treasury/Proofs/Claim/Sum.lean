import Mathlib.Algebra.BigOperators.Group.List.Basic
import Treasury.Proofs.Claim.Origin
import Treasury.Proofs.Decimal.Value

/-!
# What is claimed and what is there to claim

The amount claimed from a strategy is a running total over its positions, and so it is the exact sum
only as long as an amount can hold each of the sums on the way. The first sum that none can
hold is refused if it is too large, and rounded if it only has too many digits: the claim is
then for less than there is, or for more, and nobody is told.
-/

namespace Treasury

/-- The sum of the amounts on one side of all positions of a key. -/
def sumOf (side : Side) (key : TallyKey) (reported : List (Provider × Position)) : ℚ :=
  ((reported.filter fun r => keyOf? r = some key).map fun r => (r.2.amount side).value).sum

/-- The claims of the first positions of a report. -/
def claimsOf (tokens : TokenRegistry) (vaults : List Vault)
    (reported : List (Provider × Position)) : Except AggregationError (List ClaimParam) :=
  (reported.foldlM (tallyPosition tokens vaults) []).map gatherAll

theorem claimsOf_reportedPositions (tokens : TokenRegistry) (vaults : List Vault)
    (providers : List Provider) :
    claimsOf tokens vaults (reportedPositions providers) =
      aggregateClaims tokens vaults providers := rfl

theorem sumOf_concat (side : Side) (key : TallyKey) (reported : List (Provider × Position))
    (r : Provider × Position) :
    sumOf side key (reported ++ [r]) = sumOf side key reported +
      if keyOf? r = some key then (r.2.amount side).value else 0 := by
  unfold sumOf
  rw [List.filter_append, List.map_append, List.sum_append, List.filter_singleton]
  by_cases h : keyOf? r = some key <;> simp [h]

/-- What has not come up sums up to nothing. -/
theorem sumOf_eq_zero {side : Side} {key : TallyKey} {reported : List (Provider × Position)}
    (h : ¬∃ r ∈ reported, keyOf? r = some key) : sumOf side key reported = 0 := by
  unfold sumOf
  rw [List.filter_eq_nil_iff.2, List.map_nil, List.sum_nil]
  intro r hr hkey
  exact h ⟨r, hr, of_decide_eq_true hkey⟩

/-! ## Exact tallies -/

/-- The tally of a key has the exact sum on one side. -/
def Exact (side : Side) (key : TallyKey) (reported : List (Provider × Position))
    (tallies : List Tally) : Prop :=
  ∀ t ∈ tallies, t.key = key → (t.strategy.amount side).value = sumOf side key reported

/-- **A running sum is exact as long as every sum on the way is held.** -/
theorem value_of_runningSum? {side : Side} {positions : List (Provider × Position)}
    {total : Decimal} (h : runningSum? side positions = some total)
    (hheld : ∀ seen, seen <+: positions →
      Decimal.Held (seen.map fun r => (r.2.amount side).value).sum) :
    total.value = (positions.map fun r => (r.2.amount side).value).sum := by
  induction positions using List.reverseRecOn generalizing total with
  | nil =>
    cases h
    exact Decimal.value_of_isZero rfl
  | append_singleton positions r ih =>
    rw [runningSum?_concat] at h
    obtain ⟨before, hbefore, hadd⟩ := Option.bind_eq_some_iff.1 h
    have hsum := ih hbefore fun seen hseen => hheld seen (hseen.trans (List.prefix_append _ _))
    have hlast := hheld _ List.prefix_rfl
    rw [List.map_append, List.sum_append, List.map_singleton, List.sum_singleton, ← hsum]
      at hlast ⊢
    obtain ⟨total', htotal, hvalue⟩ := Decimal.add?_of_held hlast
    rw [hadd] at htotal
    cases htotal
    exact hvalue

theorem exact_fold {tokens : TokenRegistry} {vaults : List Vault}
    {reported : List (Provider × Position)} {tallies : List Tally} {side : Side} {key : TallyKey}
    (h : reported.foldlM (tallyPosition tokens vaults) [] = .ok tallies)
    (hheld : ∀ seen, seen <+: reported → Decimal.Held (sumOf side key seen)) :
    Exact side key reported tallies := by
  rintro t ht rfl
  refine value_of_runningSum? ((madeOf_fold h t ht).sums side) ?_
  rintro seen ⟨rest, hrest⟩
  -- the first positions of a key are those of the key among the first positions
  obtain ⟨first, last, rfl, rfl, -⟩ := List.filter_eq_append_iff.1 hrest.symm
  exact hheld first (List.prefix_append first last)

/-- Who has an exact tally and cannot add to it has come to a sum that is not held. -/
theorem not_held_of_add? {tallies : List Tally} {reported : List (Provider × Position)}
    {r : Provider × Position} {side : Side} {key : TallyKey} {t : Tally}
    (h : Exact side key reported tallies) (ht : t ∈ tallies) (hkey : t.key = key)
    (hr : keyOf? r = some key)
    (hadd : (t.strategy.amount side).add? (r.2.amount side) = none) :
    ¬Decimal.Held (sumOf side key (reported ++ [r])) := by
  intro hheld
  rw [sumOf_concat, if_pos hr, ← h t ht hkey] at hheld
  obtain ⟨total, htotal, -⟩ := Decimal.add?_of_held hheld
  exact absurd (hadd.symm.trans htotal) (by simp)

/--
**What is claimed is exactly what is there as long as amounts can hold it, and not any longer.**

A report overflows for a strategy only if an amount cannot hold one of the sums that the strategy
has on the way. If it is accepted, each key that has come up has one strategy; and the claims of the
report, and those of every beginning of it, are for the exact sums on a side if and only if an
amount can hold each of these sums.
-/
theorem claims_exact_iff_held (tokens : TokenRegistry) (vaults : List Vault)
    (providers : List Provider) :
    (∀ strategy, aggregateClaims tokens vaults providers = .error (.overflow strategy) →
      ∃ chain side, ∃ seen, seen <+: reportedPositions providers
        ∧ ¬Decimal.Held (sumOf side (chain, strategy) seen))
    ∧ ∀ claims, aggregateClaims tokens vaults providers = .ok claims → ∀ key,
      ((∃ r ∈ reportedPositions providers, keyOf? r = some key) →
        ∃ s, builtFor key claims = [s])
      ∧ ∀ side,
        (∀ seen, seen <+: reportedPositions providers →
          ∃ begun, claimsOf tokens vaults seen = .ok begun
            ∧ ∀ s ∈ builtFor key begun, (s.amount side).value = sumOf side key seen)
        ↔ ∀ seen, seen <+: reportedPositions providers →
          Decimal.Held (sumOf side key seen) := by
  constructor
  · intro strategy h
    rw [← claimsOf_reportedPositions] at h
    obtain ⟨before, r, after, tallies, hsplit, hbefore, hfail⟩ :=
      exists_of_foldlM_eq_error (map_eq_error.1 h)
    obtain ⟨chain, hkey, t, ht, htkey, side, hadd⟩ := overflow_of_tallyPosition hfail
    refine ⟨chain, side, ?_⟩
    by_contra hheld
    push Not at hheld
    have hbegins : before ++ [r] <+: reportedPositions providers :=
      ⟨after, by rw [hsplit, List.append_assoc, List.singleton_append]⟩
    have hexact := exact_fold hbefore fun seen hseen =>
      hheld seen ((hseen.trans (List.prefix_append _ _)).trans hbegins)
    exact not_held_of_add? hexact ht htkey hkey hadd (hheld _ hbegins)
  · intro claims h key
    rw [← claimsOf_reportedPositions] at h
    obtain ⟨tallies, htallies, rfl⟩ := map_eq_ok.1 h
    have hof := talliesOf_fold htallies
    refine ⟨?_, fun side => ⟨?_, ?_⟩⟩
    · intro hseen
      obtain ⟨t, ht, rfl⟩ := List.mem_map.mp ((hof.keys key).2 hseen)
      exact ⟨t.strategy, hof.builtFor_eq ht⟩
    · -- an exact total is held by the amount that it is
      intro hexact seen hseen
      obtain ⟨begun, hbegun, hvalues⟩ := hexact seen hseen
      obtain ⟨first, hfirst, rfl⟩ := map_eq_ok.1 hbegun
      by_cases hup : ∃ r ∈ seen, keyOf? r = some key
      · have hof := talliesOf_fold hfirst
        obtain ⟨t, ht, rfl⟩ := List.mem_map.mp ((hof.keys key).2 hup)
        exact ⟨t.strategy.amount side, hvalues _ (by simp [hof.builtFor_eq ht])⟩
      · rw [sumOf_eq_zero hup]
        exact Decimal.held_zero
    · intro hheld seen hseen
      obtain ⟨rest, hrest⟩ := hseen
      rw [← hrest, List.foldlM_append, bind_eq_ok] at htallies
      obtain ⟨first, hfirst, -⟩ := htallies
      refine ⟨gatherAll first, map_eq_ok.2 ⟨first, hfirst, rfl⟩, fun s hs => ?_⟩
      have hexact := exact_fold hfirst fun begun hbegun =>
        hheld begun (hbegun.trans ⟨rest, hrest⟩)
      have hof := talliesOf_fold hfirst
      have hs := (builtFor_gatherAll hof.chainKey key).mem_iff.1 hs
      obtain ⟨t, ht, rfl⟩ := List.mem_map.mp hs
      obtain ⟨ht, hkey⟩ := List.mem_filter.mp ht
      exact hexact t ht (of_decide_eq_true hkey)

end Treasury
