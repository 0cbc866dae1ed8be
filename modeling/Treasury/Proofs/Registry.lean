import Treasury.Proofs.Except
import Treasury.Proofs.Text.NameMap
import Treasury.Proofs.Text.Small
import Treasury.Registry.Chains
import Treasury.Registry.Tokens

/-!
# The tables of chains and tokens

Both tables are filled one entry after the other, and both refuse an entry whose key is taken. So
what can be said of one can be said of the other (`FillsBy`): a list is taken as a whole if all its
entries are fit and no two have one key (`FillsBy.exists_foldlM`), and the table then has what
stands in the list and nothing else (`FillsBy.look_foldlM`).

Chains are kept under their names in lower case, and looked up in lower case once more. A name that
the table itself gives is one of these, so it needs the lower case of lower case
(`Chains.get?_of_findById?`).
-/

namespace Treasury

/-! ## Tables that are filled one by one -/

/-- A table in which entries are looked up by their keys takes one more entry if this is fit and its
key is not taken. -/
structure FillsBy {σ α κ ν ε : Type} [DecidableEq κ] (add : σ → α → Except ε σ)
    (look : σ → κ → Option ν) (fit : α → Prop) (key : α → κ) (value : α → ν) : Prop where
  exists_add : ∀ s a, (∃ s', add s a = .ok s') ↔ fit a ∧ look s (key a) = none
  look_add : ∀ s a s', add s a = .ok s' → ∀ k,
    look s' k = if k = key a then some (value a) else look s k

namespace FillsBy

variable {σ α κ ν ε : Type} [DecidableEq κ] {add : σ → α → Except ε σ} {look : σ → κ → Option ν}
  {fit : α → Prop} {key : α → κ} {value : α → ν}

/-- **A list is taken if its entries are fit and all keys are different.** -/
theorem exists_foldlM (h : FillsBy add look fit key value) {as : List α} {s : σ} :
    (∃ s', as.foldlM add s = .ok s') ↔
      (∀ a ∈ as, fit a ∧ look s (key a) = none) ∧ as.Pairwise fun a b => key a ≠ key b := by
  induction as generalizing s with
  | nil => simp [pure, Except.pure]
  | cons a as ih =>
    rw [List.forall_mem_cons, List.pairwise_cons]
    constructor
    · rintro ⟨s', hs'⟩
      rw [List.foldlM_cons] at hs'
      obtain ⟨next, hnext, hs'⟩ := bind_eq_ok.1 hs'
      obtain ⟨hrest, hpairs⟩ := ih.1 ⟨s', hs'⟩
      have hfree : ∀ b ∈ as, key b ≠ key a ∧ look s (key b) = none := by
        intro b hb
        have hnone := (hrest b hb).2
        rw [h.look_add s a next hnext] at hnone
        split at hnone
        · exact absurd hnone (by simp)
        · rename_i hne
          exact ⟨hne, hnone⟩
      exact ⟨⟨(h.exists_add s a).1 ⟨next, hnext⟩, fun b hb => ⟨(hrest b hb).1, (hfree b hb).2⟩⟩,
        fun b hb => (hfree b hb).1.symm, hpairs⟩
    · rintro ⟨⟨hfirst, hrest⟩, hne, hpairs⟩
      obtain ⟨next, hnext⟩ := (h.exists_add s a).2 hfirst
      have hfree : ∀ b ∈ as, fit b ∧ look next (key b) = none := by
        intro b hb
        rw [h.look_add s a next hnext, if_neg (hne b hb).symm]
        exact hrest b hb
      obtain ⟨s', hs'⟩ := ih.2 ⟨hfree, hpairs⟩
      exact ⟨s', (List.foldlM_cons ..).trans (bind_eq_ok.2 ⟨next, hnext, hs'⟩)⟩

/-- **Afterwards the table has the entries of the list, and what it had before.** -/
theorem look_foldlM (h : FillsBy add look fit key value) {as : List α} {s s' : σ}
    (hs' : as.foldlM add s = .ok s') (k : κ) (v : ν) :
    look s' k = some v ↔ (∃ a ∈ as, key a = k ∧ value a = v) ∨ look s k = some v := by
  induction as generalizing s with
  | nil =>
    cases hs'
    simp
  | cons a as ih =>
    rw [List.foldlM_cons] at hs'
    obtain ⟨next, hnext, hs'⟩ := bind_eq_ok.1 hs'
    have hfree := ((h.exists_add s a).1 ⟨next, hnext⟩).2
    rw [ih hs', h.look_add s a next hnext]
    simp only [List.mem_cons, exists_eq_or_imp]
    by_cases hk : k = key a
    · subst hk
      rw [if_pos rfl, hfree]
      simp only [Option.some.injEq, reduceCtorEq, or_false, true_and]
      exact or_comm
    · rw [if_neg hk]
      simp only [Ne.symm hk, false_and, false_or]

end FillsBy

/-! ## Chains -/

namespace Chains

theorem add_eq_ok {chains next : Chains} {entry : String × ChainInfo} :
    chains.add entry = .ok next ↔
      (0 < entry.2.gasLimit ∧ chains.byName.get? (Text.toLower entry.1) = none)
        ∧ next = ⟨chains.byName.insert (Text.toLower entry.1) entry.2⟩ := by
  unfold add NameMap.contains
  rw [UInt64.pos_iff_ne_zero]
  by_cases hgas : entry.2.gasLimit = 0
  · simp [hgas]
  · rw [if_neg hgas]
    cases hname : chains.byName.get? (Text.toLower entry.1) with
    | none => simp [hgas, hname, eq_comm]
    | some info => simp [hname]

theorem fillsBy_add : FillsBy add (fun chains name => chains.byName.get? name)
    (fun entry => 0 < entry.2.gasLimit) (fun entry => Text.toLower entry.1) Prod.snd where
  exists_add := fun chains entry => by simp only [add_eq_ok, exists_and_left, exists_eq, and_true]
  look_add := by
    intro chains entry next hnext name
    obtain ⟨-, rfl⟩ := add_eq_ok.1 hnext
    exact NameMap.get?_insert ..

theorem get?_empty (name : String) : empty.byName.get? name = none := rfl

/-- **Chains are taken if all have gas and no two have one name in lower case.** -/
theorem exists_ofConfigured {configured : NameMap ChainInfo} :
    (∃ chains, ofConfigured configured = .ok chains) ↔
      (∀ entry ∈ configured.entries, 0 < entry.2.gasLimit)
        ∧ configured.entries.Pairwise fun a b => Text.toLower a.1 ≠ Text.toLower b.1 := by
  unfold ofConfigured
  rw [fillsBy_add.exists_foldlM]
  simp only [get?_empty, and_true]

/-- **Each of them is found under its name, in whatever case**, and nothing else is. -/
theorem get?_ofConfigured {configured : NameMap ChainInfo} {chains : Chains}
    (h : ofConfigured configured = .ok chains) (name : String) (info : ChainInfo) :
    chains.get? name = some info ↔
      ∃ entry ∈ configured.entries, Text.toLower entry.1 = Text.toLower name ∧ entry.2 = info := by
  refine (fillsBy_add.look_foldlM h (Text.toLower name) info).trans ?_
  simp only [get?_empty, reduceCtorEq, or_false]

/-- **What is found by its number is found under the name that comes with it.** -/
theorem get?_of_findById? {configured : NameMap ChainInfo} {chains : Chains}
    (h : ofConfigured configured = .ok chains) {id : UInt64} {name : String} {info : ChainInfo}
    (hfind : chains.findById? id = some (name, info)) : chains.get? name = some info := by
  have hmem : chains.byName.get? name = some info :=
    NameMap.get?_eq_some_iff.2 (List.mem_of_find?_eq_some hfind)
  -- the name stands in the table, so it is the lower-case form of one that was configured
  rcases (fillsBy_add.look_foldlM h name info).1 hmem with ⟨entry, -, rfl, -⟩ | hnone
  · unfold get?
    rw [Text.toLower_toLower]
    exact hmem
  · exact absurd hnone (by rw [get?_empty]; simp)

end Chains

/-! ## Tokens -/

namespace Tokens

theorem add_eq_ok {tokens next : Tokens} {entry : TokenEntry} :
    tokens.add entry = .ok next ↔
      tokens.entries.lookup (key entry.chain entry.symbol) = none
        ∧ next = ⟨tokens.entries
          ++ [(key entry.chain entry.symbol, ⟨entry.decimals, entry.currency⟩)]⟩ := by
  unfold add
  dsimp only
  cases tokens.entries.lookup (key entry.chain entry.symbol) with
  | none => simp [eq_comm]
  | some info => simp

theorem fillsBy_add : FillsBy add (fun tokens k => tokens.entries.lookup k) (fun _ => True)
    (fun entry => key entry.chain entry.symbol)
    (fun entry => ⟨entry.decimals, entry.currency⟩) where
  exists_add := fun tokens entry => by
    simp only [add_eq_ok, exists_and_left, exists_eq, and_true, true_and]
  look_add := by
    intro tokens entry next hnext k
    obtain ⟨hfree, rfl⟩ := add_eq_ok.1 hnext
    dsimp only
    rw [List.lookup_append, List.lookup_cons]
    by_cases hk : k = key entry.chain entry.symbol
    · rw [if_pos hk, hk, hfree, beq_self_eq_true]
      rfl
    · rw [if_neg hk, beq_eq_false_iff_ne.2 hk]
      exact Option.or_none

/-- **Tokens are taken if no two of one symbol are on one chain.** -/
theorem exists_ofList {entries : List TokenEntry} :
    (∃ tokens, ofList entries = .ok tokens) ↔
      entries.Pairwise fun a b => key a.chain a.symbol ≠ key b.chain b.symbol := by
  unfold ofList
  rw [fillsBy_add.exists_foldlM]
  simp only [List.lookup_nil, and_self, implies_true, true_and]

/-- **Each of them is found under its symbol and the name of its chain, in whatever case**, and
nothing else is. -/
theorem find?_ofList {entries : List TokenEntry} {tokens : Tokens} (h : ofList entries = .ok tokens)
    (chain symbol : String) (info : TokenInfo) :
    tokens.find? chain symbol = some info ↔
      ∃ entry ∈ entries, key entry.chain entry.symbol = key chain symbol
        ∧ ⟨entry.decimals, entry.currency⟩ = info := by
  refine (fillsBy_add.look_foldlM h (key chain symbol) info).trans ?_
  simp only [List.lookup_nil, reduceCtorEq, or_false]

end Tokens

end Treasury
