import Treasury.Proofs.Claim.Tally
import Treasury.Proofs.Decimal.Normal

/-!
# Where a tally comes from

A tally can be told from the positions of its key alone: the first of them opened it and chose the
vault, all of them have its two tokens, and its amounts are what adding theirs one by one comes to
(`madeOf_fold`). Positions of other keys leave no trace in it, wherever they stand in between. The
tallies are in the order in which their keys first come up (`keys_fold`).
-/

namespace Treasury

/-! ## The order in which labels first come up -/

section

variable {κ : Type} [BEq κ] [LawfulBEq κ]

theorem eraseDups_concat_of_mem {labels : List κ} {k : κ} (h : k ∈ labels) :
    (labels ++ [k]).eraseDups = labels.eraseDups := by
  have hnone : [k].removeAll labels = [] := by simp [List.removeAll, h]
  rw [List.eraseDups_append, hnone, List.eraseDups_nil, List.append_nil]

theorem eraseDups_concat_of_not_mem {labels : List κ} {k : κ} (h : k ∉ labels) :
    (labels ++ [k]).eraseDups = labels.eraseDups ++ [k] := by
  have hone : [k].removeAll labels = [k] := by simp [List.removeAll, h]
  rw [List.eraseDups_append, hone, List.eraseDups_cons, List.filter_nil, List.eraseDups_nil]

/-- **Without their repetitions, labels are in the order of their first places.** -/
theorem pairwise_idxOf_eraseDups (labels : List κ) :
    labels.eraseDups.Pairwise fun k k' => labels.idxOf k < labels.idxOf k' := by
  induction labels using List.reverseRecOn with
  | nil => exact .nil
  | append_singleton labels k ih =>
    have hplace : ∀ a ∈ labels.eraseDups, (labels ++ [k]).idxOf a = labels.idxOf a :=
      fun a ha => List.idxOf_append_of_mem (List.mem_eraseDups.1 ha)
    have hkept : labels.eraseDups.Pairwise fun a b =>
        (labels ++ [k]).idxOf a < (labels ++ [k]).idxOf b :=
      ih.imp_of_mem fun ha hb hlt => by rwa [hplace _ ha, hplace _ hb]
    by_cases hk : k ∈ labels
    · rw [eraseDups_concat_of_mem hk]
      exact hkept
    · rw [eraseDups_concat_of_not_mem hk]
      refine List.pairwise_append.2 ⟨hkept, List.pairwise_singleton _ _, fun a ha b hb => ?_⟩
      rw [List.mem_singleton.mp hb, hplace a ha, List.idxOf_append_of_notMem hk]
      exact Nat.lt_add_right _ (List.idxOf_lt_length_of_mem (List.mem_eraseDups.1 ha))

/-- **Where elements are in an order, an earlier label has one that comes before all of a later
label.** -/
theorem pairwise_eraseDups_of_pairwise {α : Type} {R : α → α → Prop} {xs : List α} (g : α → κ)
    (h : xs.Pairwise R) :
    (xs.map g).eraseDups.Pairwise fun k k' =>
      ∃ x ∈ xs, g x = k ∧ ∀ y ∈ xs, g y = k' → R x y := by
  induction xs using List.reverseRecOn with
  | nil => exact .nil
  | append_singleton xs last ih =>
    obtain ⟨hbefore, -, hlast⟩ := List.pairwise_append.1 h
    have hlast : ∀ x ∈ xs, R x last := fun x hx => hlast x hx last (List.mem_singleton_self _)
    have hkept : (xs.map g).eraseDups.Pairwise fun k k' =>
        ∃ x ∈ xs ++ [last], g x = k ∧ ∀ y ∈ xs ++ [last], g y = k' → R x y := by
      refine (ih hbefore).imp ?_
      rintro k k' ⟨x, hx, hk, hall⟩
      refine ⟨x, List.mem_append_left _ hx, hk, fun y hy hk' => ?_⟩
      rcases List.mem_append.mp hy with hy | hy
      · exact hall y hy hk'
      · exact List.mem_singleton.mp hy ▸ hlast x hx
    rw [List.map_append, List.map_singleton]
    by_cases hin : g last ∈ xs.map g
    · rw [eraseDups_concat_of_mem hin]
      exact hkept
    · rw [eraseDups_concat_of_not_mem hin]
      refine List.pairwise_append.2 ⟨hkept, List.pairwise_singleton _ _, fun k hk k' hk' => ?_⟩
      obtain ⟨x, hx, rfl⟩ := List.mem_map.mp (List.mem_eraseDups.1 hk)
      refine ⟨x, List.mem_append_left _ hx, rfl, fun y hy heq => ?_⟩
      rw [List.mem_singleton.mp hk'] at heq
      rcases List.mem_append.mp hy with hy | hy
      · exact absurd (heq ▸ List.mem_map_of_mem hy) hin
      · exact List.mem_singleton.mp hy ▸ hlast x hx

end

/-! ## The positions of a key -/

/-- The positions of a report that belong to the tally of a key. -/
def positionsOf (key : TallyKey) (reported : List (Provider × Position)) :
    List (Provider × Position) :=
  reported.filter fun r => keyOf? r = some key

theorem mem_positionsOf {key : TallyKey} {reported : List (Provider × Position)}
    {r : Provider × Position} :
    r ∈ positionsOf key reported ↔ r ∈ reported ∧ keyOf? r = some key := by
  unfold positionsOf
  rw [List.mem_filter, decide_eq_true_iff]

theorem positionsOf_eq_nil {key : TallyKey} {reported : List (Provider × Position)} :
    positionsOf key reported = [] ↔ ∀ r ∈ reported, keyOf? r ≠ some key := by
  simp [positionsOf]

theorem positionsOf_concat_self {key : TallyKey} {r : Provider × Position} (h : keyOf? r = some key)
    (reported : List (Provider × Position)) :
    positionsOf key (reported ++ [r]) = positionsOf key reported ++ [r] := by
  simp [positionsOf, h]

theorem positionsOf_concat_of_ne {key : TallyKey} {r : Provider × Position}
    (h : keyOf? r ≠ some key) (reported : List (Provider × Position)) :
    positionsOf key (reported ++ [r]) = positionsOf key reported := by
  simp [positionsOf, h]

/-! ## Running sums -/

/-- What adding the amounts on one side one by one comes to, unless one of the sums overflows. -/
def runningSum? (side : Side) (positions : List (Provider × Position)) : Option Decimal :=
  positions.foldlM (fun total r => total.add? (r.2.amount side)) Decimal.zero

theorem runningSum?_concat (side : Side) (positions : List (Provider × Position))
    (r : Provider × Position) :
    runningSum? side (positions ++ [r]) =
      (runningSum? side positions).bind (·.add? (r.2.amount side)) := by
  unfold runningSum?
  rw [List.foldlM_append]
  simp only [List.foldlM_cons, List.foldlM_nil, bind_pure]
  rfl

/-- The first amount is the first sum. -/
theorem runningSum?_singleton (side : Side) (r : Provider × Position) :
    runningSum? side [r] = some (r.2.amount side) := rfl

/-- Amounts that are not below zero do not sum up to one that is. -/
theorem value_nonneg_of_runningSum? {side : Side} {positions : List (Provider × Position)}
    {total : Decimal} (h : runningSum? side positions = some total)
    (hpositions : ∀ r ∈ positions, 0 ≤ (r.2.amount side).value) : 0 ≤ total.value := by
  induction positions using List.reverseRecOn generalizing total with
  | nil =>
    cases h
    exact (Decimal.value_of_isZero rfl).ge
  | append_singleton positions r ih =>
    rw [runningSum?_concat] at h
    obtain ⟨before, hbefore, hadd⟩ := Option.bind_eq_some_iff.1 h
    have hsum := ih hbefore fun q hq => hpositions q (List.mem_append_left _ hq)
    have hlast := hpositions r (by simp)
    rw [Decimal.value_nonneg_iff] at hsum hlast ⊢
    exact Decimal.isNegative_of_add? hadd hsum hlast

/-! ## What a tally is made of -/

/-- The tally is what these positions make, the first of them having opened it. -/
structure Tally.MadeOf (tokens : TokenRegistry) (vaults : List Vault)
    (positions : List (Provider × Position)) (t : Tally) : Prop where
  /-- The first position has given its chain and chosen the vault. -/
  opened : ∃ first ∈ positions.head?, t.chainName = first.1.chain ∧ t.chainId = first.1.chainId
    ∧ Position.route tokens vaults first.1.chain first.2.baseSymbol = .ok t.vault
  symbols : ∀ r ∈ positions,
    r.2.baseSymbol = t.strategy.baseSymbol ∧ r.2.quoteSymbol = t.strategy.quoteSymbol
  sums : ∀ side, runningSum? side positions = some (t.strategy.amount side)

section

variable {tokens : TokenRegistry} {vaults : List Vault}

theorem Tally.madeOf_opened {r : Provider × Position} {key : TallyKey} {vault : Address}
    (h : Position.route tokens vaults r.1.chain r.2.baseSymbol = .ok vault) :
    (opened r key vault).MadeOf tokens vaults [r] where
  opened := ⟨r, rfl, rfl, rfl, h⟩
  symbols := by
    intro q hq
    rw [List.mem_singleton.mp hq]
    exact ⟨rfl, rfl⟩
  sums := by
    intro side
    rw [runningSum?_singleton]
    cases side <;> rfl

/-- A tally has a first position, which is of its tokens. -/
theorem Tally.MadeOf.exists_first {positions : List (Provider × Position)} {t : Tally}
    (h : t.MadeOf tokens vaults positions) :
    ∃ first ∈ positions.head?, first.2.baseSymbol = t.strategy.baseSymbol
      ∧ first.2.quoteSymbol = t.strategy.quoteSymbol := by
  obtain ⟨first, hfirst, -⟩ := h.opened
  exact ⟨first, hfirst, h.symbols first (List.mem_of_mem_head? hfirst)⟩

/-- What the next sum is on one side of a tally. -/
theorem Tally.MadeOf.nextSum {positions : List (Provider × Position)} {t : Tally}
    (h : t.MadeOf tokens vaults positions) (side : Side) (r : Provider × Position) :
    runningSum? side (positions ++ [r]) = (t.strategy.amount side).add? (r.2.amount side) := by
  rw [runningSum?_concat, h.sums side]
  rfl

/-- **A position that is added is one of those that make the tally.** -/
theorem Tally.MadeOf.add {positions : List (Provider × Position)} {r : Provider × Position}
    {t : Tally} {s : Strategy} (h : t.MadeOf tokens vaults positions)
    (hadd : r.2.addTo r.1.chain t.strategy = .ok s) :
    MadeOf tokens vaults (positions ++ [r]) { t with strategy := s } := by
  obtain ⟨hbase, hquote, base, quote, -, -, rfl⟩ := Position.addTo_eq_ok.1 hadd
  obtain ⟨first, hfirst, hopened⟩ := h.opened
  refine ⟨⟨first, ?_, hopened⟩, ?_, ?_⟩
  · rw [List.head?_append_of_ne_nil]
    · exact hfirst
    · rintro rfl
      exact absurd hfirst (by simp)
  · intro q hq
    rcases List.mem_append.mp hq with hq | hq
    · exact h.symbols q hq
    · rw [List.mem_singleton.mp hq]
      exact ⟨hbase.symm, hquote.symm⟩
  · intro side
    rw [h.nextSum side r]
    exact (Position.amount_of_addTo hadd).2 side

/-! ## All tallies -/

/-- What a tally is after a position has been taken in: the one it was, one that has been added to,
or a new one. -/
theorem cases_of_mem_tallyPosition {reported : List (Provider × Position)}
    {tallies tallies' : List Tally} {r : Provider × Position} (h : TalliesOf reported tallies)
    (hr : tallyPosition tokens vaults tallies r = .ok tallies') :
    ∃ key, keyOf? r = some key ∧ ∀ u ∈ tallies',
      (u ∈ tallies ∧ u.key ≠ key)
      ∨ (∃ t ∈ tallies, t.key = key ∧ ∃ s, r.2.addTo r.1.chain t.strategy = .ok s
        ∧ u = { t with strategy := s })
      ∨ (positionsOf key reported = [] ∧ ∃ vault,
        Position.route tokens vaults r.1.chain r.2.baseSymbol = .ok vault
          ∧ u = .opened r key vault) := by
  obtain ⟨key, hkey, -, hcases⟩ := tallyPosition_eq_ok.1 hr
  refine ⟨key, hkey, fun u hu => ?_⟩
  rcases hcases with ⟨before, t, after, s, rfl, hbefore, ht, hadd, rfl⟩ | ⟨hout, vault, hvault, rfl⟩
  · rcases List.mem_append.mp hu with hu | hu
    · exact .inl ⟨List.mem_append_left _ hu, hbefore u hu⟩
    rcases List.mem_cons.mp hu with rfl | hu
    · exact .inr (.inl ⟨t, by simp, ht, s, hadd, rfl⟩)
    · -- no key has two tallies, so none of those behind has this one
      have hnodup := h.nodup
      rw [List.map_append, List.map_cons, ht] at hnodup
      have hafter := (List.nodup_cons.1 (List.nodup_append.1 hnodup).2.1).1
      exact .inl ⟨by simp [hu], fun heq => hafter (heq ▸ List.mem_map_of_mem hu)⟩
  · rcases List.mem_append.mp hu with hu | hu
    · exact .inl ⟨hu, hout u hu⟩
    · refine .inr (.inr ⟨positionsOf_eq_nil.2 fun q hq hqkey => ?_, vault, hvault,
        List.mem_singleton.mp hu⟩)
      obtain ⟨t, ht, hkey'⟩ := h.exists_tally hq hqkey
      exact hout t ht hkey'

/-- **Preserved by every position.** -/
theorem madeOf_step {reported : List (Provider × Position)} {tallies tallies' : List Tally}
    {r : Provider × Position} (h : TalliesOf reported tallies)
    (hmade : ∀ t ∈ tallies, t.MadeOf tokens vaults (positionsOf t.key reported))
    (hr : tallyPosition tokens vaults tallies r = .ok tallies') :
    ∀ t ∈ tallies', t.MadeOf tokens vaults (positionsOf t.key (reported ++ [r])) := by
  obtain ⟨key, hkey, hcases⟩ := cases_of_mem_tallyPosition h hr
  intro u hu
  rcases hcases u hu with ⟨hu, hne⟩ | ⟨t, ht, rfl, s, hadd, rfl⟩ | ⟨hnone, vault, hvault, rfl⟩
  · rw [positionsOf_concat_of_ne fun heq => hne (Option.some.inj (hkey.symm.trans heq)).symm]
    exact hmade u hu
  · rw [Tally.key_of_addTo hadd, positionsOf_concat_self hkey]
    exact (hmade t ht).add hadd
  · have hsame : (Tally.opened r key vault).key = key := rfl
    rw [hsame, positionsOf_concat_self hkey, hnone]
    exact Tally.madeOf_opened hvault

theorem madeOf_fold {reported : List (Provider × Position)} {tallies : List Tally}
    (h : reported.foldlM (tallyPosition tokens vaults) [] = .ok tallies) :
    ∀ t ∈ tallies, t.MadeOf tokens vaults (positionsOf t.key reported) := by
  induction reported using List.reverseRecOn generalizing tallies with
  | nil =>
    cases h
    exact fun t ht => absurd ht List.not_mem_nil
  | append_singleton reported r ih =>
    obtain ⟨before, hbefore, hr⟩ := foldlM_concat_eq_ok.1 h
    exact madeOf_step (talliesOf_fold hbefore) (ih hbefore) hr

/-- **The tallies are in the order in which their keys first come up.** -/
theorem keys_fold {reported : List (Provider × Position)} {tallies : List Tally}
    (h : reported.foldlM (tallyPosition tokens vaults) [] = .ok tallies) :
    tallies.map (fun t => some t.key) = (reported.map keyOf?).eraseDups := by
  induction reported using List.reverseRecOn generalizing tallies with
  | nil =>
    cases h
    rfl
  | append_singleton reported r ih =>
    obtain ⟨old, hold, hr⟩ := foldlM_concat_eq_ok.1 h
    have hkeys := ih hold
    obtain ⟨key, hkey, -, hcases⟩ := tallyPosition_eq_ok.1 hr
    have hseen : some key ∈ reported.map keyOf? ↔ ∃ t ∈ old, t.key = key := by
      rw [← List.mem_eraseDups, ← hkeys, List.mem_map]
      simp only [Option.some.injEq]
    rw [List.map_append, List.map_singleton, hkey]
    rcases hcases with ⟨before, t, after, s, rfl, -, ht, hadd, rfl⟩ | ⟨hout, vault, -, rfl⟩
    · rw [eraseDups_concat_of_mem (hseen.2 ⟨t, by simp, ht⟩), ← hkeys, List.map_append,
        List.map_append, List.map_cons, List.map_cons, Tally.key_of_addTo hadd]
    · rw [eraseDups_concat_of_not_mem fun hmem => ?_, ← hkeys, List.map_append]
      · rfl
      · obtain ⟨t, ht, hkey'⟩ := hseen.1 hmem
        exact hout t ht hkey'

/-- No position of an accepted report is without a key, or has an amount below zero. -/
theorem attributed_of_fold {reported : List (Provider × Position)} {tallies : List Tally}
    (h : reported.foldlM (tallyPosition tokens vaults) [] = .ok tallies) :
    ∀ r ∈ reported, (∃ key, keyOf? r = some key) ∧ ∀ side, 0 ≤ (r.2.amount side).value := by
  induction reported using List.reverseRecOn generalizing tallies with
  | nil => exact fun r hr => absurd hr List.not_mem_nil
  | append_singleton reported r ih =>
    obtain ⟨before, hbefore, hr⟩ := foldlM_concat_eq_ok.1 h
    obtain ⟨key, hkey, hsigns, -⟩ := tallyPosition_eq_ok.1 hr
    intro q hq
    rcases List.mem_append.mp hq with hq | hq
    · exact ih hbefore q hq
    · rw [List.mem_singleton.mp hq]
      exact ⟨⟨key, hkey⟩, fun side => Decimal.value_nonneg_iff.2 (hsigns side)⟩

end

end Treasury
