import Mathlib.Data.List.Induction
import Mathlib.Data.List.Nodup
import Treasury.Claim.Aggregate
import Treasury.Proofs.Except
import Treasury.Proofs.Text.Lowercase

/-!
# Tallies of a report

A position belongs to the tally of its key: the strategy that it names, and the name of its
chain in lower case. Taking it in changes that tally or opens it (`tallyPosition_eq_ok`), so that
there is one tally for each key that has come up, and no other (`talliesOf_fold`). Gathering the
tallies into claims leaves each strategy what it is (`builtFor_gatherAll`).
-/

namespace Treasury

/-- What one tally is for: the name of a chain in lower case, and a strategy. -/
abbrev TallyKey := String × Address

/-- What a tally is for. -/
def Tally.key (t : Tally) : TallyKey := (t.chainKey, t.strategy.address)

/-- The tally that a reported position belongs to, if it names a strategy. -/
def keyOf? (reported : Provider × Position) : Option TallyKey :=
  (reported.2.strategyOn reported.1.chain).toOption.map fun strategy =>
    (Text.toLower reported.1.chain, strategy)

/-- The amount on one side of a position. -/
def Position.amount (p : Position) : Side → Decimal
  | .base => p.baseAmount
  | .quote => p.quoteAmount

/-- The amount on one side of a strategy. -/
def Strategy.amount (s : Strategy) : Side → Decimal
  | .base => s.baseAmount
  | .quote => s.quoteAmount

theorem Tally.isFor_iff {t : Tally} {chainKey : String} {strategy : Address} :
    t.isFor chainKey strategy = true ↔ t.key = (chainKey, strategy) := by
  unfold isFor key
  rw [decide_eq_true_iff, Prod.mk.injEq]

theorem any_isFor_iff {tallies : List Tally} {chainKey : String} {strategy : Address} :
    tallies.any (Tally.isFor chainKey strategy) = true ↔
      ∃ t ∈ tallies, t.key = (chainKey, strategy) := by
  rw [List.any_eq_true]
  simp only [Tally.isFor_iff]

theorem Side.forall_iff {P : Side → Prop} : (∀ side, P side) ↔ P .base ∧ P .quote := by
  refine ⟨fun h => ⟨h .base, h .quote⟩, fun h side => ?_⟩
  cases side with
  | base => exact h.1
  | quote => exact h.2

theorem Side.exists_iff {P : Side → Prop} : (∃ side, P side) ↔ P .base ∨ P .quote := by
  rw [← not_iff_not, not_exists, forall_iff, not_or]

theorem keyOf?_eq_some {r : Provider × Position} {key : TallyKey} :
    keyOf? r = some key ↔
      ∃ strategy, r.2.strategyOn r.1.chain = .ok strategy
        ∧ key = (Text.toLower r.1.chain, strategy) := by
  unfold keyOf?
  cases r.2.strategyOn r.1.chain <;> simp [Except.toOption, eq_comm]

/-! ## Taking in a position -/

theorem Position.checkSign_eq_ok {strategy : Address} {side : Side} {amount : Decimal} {u : Unit} :
    checkSign strategy side amount = .ok u ↔ amount.isNegative = false := by
  unfold checkSign
  cases amount.isNegative <;> simp

theorem Position.checkSign_eq_error {strategy : Address} {side : Side} {amount : Decimal}
    {e : AggregationError} :
    checkSign strategy side amount = .error e ↔
      amount.isNegative = true ∧ e = .negativeAmount strategy side amount := by
  unfold checkSign
  cases amount.isNegative <;> simp [eq_comm]

/-- **Amounts are added on both sides, to a strategy of the same tokens.** -/
theorem Position.addTo_eq_ok {p : Position} {chain : String} {s s' : Strategy} :
    p.addTo chain s = .ok s' ↔
      s.baseSymbol = p.baseSymbol ∧ s.quoteSymbol = p.quoteSymbol
        ∧ ∃ base quote, s.baseAmount.add? p.baseAmount = some base
          ∧ s.quoteAmount.add? p.quoteAmount = some quote
          ∧ s' = { s with baseAmount := base, quoteAmount := quote } := by
  unfold addTo
  by_cases hs : s.baseSymbol = p.baseSymbol ∧ s.quoteSymbol = p.quoteSymbol
  · rw [if_neg (by simp [hs.1, hs.2])]
    cases s.baseAmount.add? p.baseAmount <;> cases s.quoteAmount.add? p.quoteAmount <;>
      simp [hs.1, hs.2, eq_comm]
  · rw [if_pos (by
      by_contra hne
      exact hs (not_or.1 hne |>.imp not_not.1 not_not.1))]
    exact ⟨fun h => absurd h (by simp), fun h => absurd ⟨h.1, h.2.1⟩ hs⟩

/-- **Amounts are not added to a strategy of other tokens, nor if either sum is too large.** -/
theorem Position.addTo_eq_error {p : Position} {chain : String} {s : Strategy}
    {e : AggregationError} :
    p.addTo chain s = .error e ↔
      (¬(s.baseSymbol = p.baseSymbol ∧ s.quoteSymbol = p.quoteSymbol)
          ∧ e = .symbolMismatch chain s.address (s.baseSymbol, s.quoteSymbol)
            (p.baseSymbol, p.quoteSymbol))
        ∨ ((s.baseSymbol = p.baseSymbol ∧ s.quoteSymbol = p.quoteSymbol)
          ∧ (∃ side, (s.amount side).add? (p.amount side) = none) ∧ e = .overflow s.address) := by
  rw [Side.exists_iff]
  dsimp only [Strategy.amount, amount]
  unfold addTo
  by_cases hs : s.baseSymbol = p.baseSymbol ∧ s.quoteSymbol = p.quoteSymbol
  · rw [if_neg (by simp [hs.1, hs.2])]
    cases s.baseAmount.add? p.baseAmount <;> cases s.quoteAmount.add? p.quoteAmount <;>
      simp [hs.1, hs.2, eq_comm]
  · rw [if_pos (not_and_or.1 hs)]
    simp [hs, eq_comm]

/-- On each side, the amount of the strategy is added to. -/
theorem Position.amount_of_addTo {p : Position} {chain : String} {s s' : Strategy}
    (h : p.addTo chain s = .ok s') :
    s'.address = s.address ∧ ∀ side, (s.amount side).add? (p.amount side) = some (s'.amount side)
    := by
  obtain ⟨_, _, base, quote, hbase, hquote, rfl⟩ := addTo_eq_ok.1 h
  refine ⟨rfl, fun side => ?_⟩
  cases side with
  | base => exact hbase
  | quote => exact hquote

/-- A tally that is added to stays the tally of its key. -/
theorem Tally.key_of_addTo {p : Position} {chain : String} {t : Tally} {s : Strategy}
    (h : p.addTo chain t.strategy = .ok s) : key { t with strategy := s } = t.key := by
  unfold key
  rw [(Position.amount_of_addTo h).1]

/-- The first element of which `p` holds is changed, and no other. -/
theorem modifyFirst_eq_ok {α ε : Type} {p : α → Bool} {f : α → Except ε α} {as bs : List α}
    (hany : as.any p = true) :
    modifyFirst p f as = .ok bs ↔
      ∃ before a after b, as = before ++ a :: after ∧ (∀ x ∈ before, p x = false) ∧ p a = true
        ∧ f a = .ok b ∧ bs = before ++ b :: after := by
  induction as generalizing bs with
  | nil => exact absurd hany (by simp)
  | cons a rest ih =>
    rw [modifyFirst]
    cases hp : p a with
    | true =>
      rw [if_pos rfl, map_eq_ok]
      constructor
      · rintro ⟨b, hb, rfl⟩
        exact ⟨[], a, rest, b, rfl, by simp, hp, hb, rfl⟩
      · rintro ⟨before, a', after, b, heq, hbefore, ha', hb, rfl⟩
        cases before with
        | nil =>
          cases heq
          exact ⟨b, hb, rfl⟩
        | cons x before =>
          cases heq
          exact absurd (hbefore a List.mem_cons_self) (by simp [hp])
    | false =>
      have hrest : rest.any p = true := by simpa [hp] using hany
      rw [if_neg (by simp), map_eq_ok]
      constructor
      · rintro ⟨cs, hcs, rfl⟩
        obtain ⟨before, a', after, b, rfl, hbefore, ha', hb, rfl⟩ := (ih hrest).1 hcs
        refine ⟨a :: before, a', after, b, rfl, ?_, ha', hb, rfl⟩
        intro x hx
        rcases List.mem_cons.mp hx with rfl | hx
        · exact hp
        · exact hbefore x hx
      · rintro ⟨before, a', after, b, heq, hbefore, ha', hb, rfl⟩
        cases before with
        | nil =>
          cases heq
          exact absurd ha' (by simp [hp])
        | cons x before =>
          cases heq
          exact ⟨before ++ b :: after, (ih hrest).2 ⟨before, a', after, b, rfl,
            fun x hx => hbefore x (List.mem_cons_of_mem _ hx), ha', hb, rfl⟩, rfl⟩

/-- The tally that the first position of a key opens. -/
def Tally.opened (r : Provider × Position) (key : TallyKey) (vault : Address) : Tally :=
  ⟨key.1, r.1.chain, r.1.chainId, vault, r.2.asStrategy key.2⟩

/-- **A position joins the tally of its key, or opens one if there is none.** -/
theorem tallyPosition_eq_ok {tokens : TokenRegistry} {vaults : List Vault}
    {tallies tallies' : List Tally} {r : Provider × Position} :
    tallyPosition tokens vaults tallies r = .ok tallies' ↔
      ∃ key, keyOf? r = some key ∧ (∀ side, (r.2.amount side).isNegative = false)
        ∧ ((∃ before t after s, tallies = before ++ t :: after ∧ (∀ u ∈ before, u.key ≠ key)
              ∧ t.key = key ∧ r.2.addTo r.1.chain t.strategy = .ok s
              ∧ tallies' = before ++ { t with strategy := s } :: after)
          ∨ ((∀ t ∈ tallies, t.key ≠ key)
              ∧ ∃ vault, Position.route tokens vaults r.1.chain r.2.baseSymbol = .ok vault
                ∧ tallies' = tallies ++ [.opened r key vault])) := by
  obtain ⟨provider, position⟩ := r
  unfold tallyPosition
  simp only [bind_eq_ok, Position.checkSign_eq_ok, Side.forall_iff]
  constructor
  · rintro ⟨strategy, hstrategy, ⟨⟩, hbase, ⟨⟩, hquote, h⟩
    refine ⟨_, keyOf?_eq_some.2 ⟨strategy, hstrategy, rfl⟩, ⟨hbase, hquote⟩, ?_⟩
    split at h
    · rename_i hin
      left
      obtain ⟨before, t, after, t', rfl, hbefore, ht, hadd, rfl⟩ := (modifyFirst_eq_ok hin).1 h
      obtain ⟨s, hs, rfl⟩ := map_eq_ok.1 hadd
      refine ⟨before, t, after, s, rfl, ?_, Tally.isFor_iff.1 ht, hs, rfl⟩
      intro u hu hkey
      exact absurd (Tally.isFor_iff.2 hkey) (by simp [hbefore u hu])
    · rename_i hout
      right
      obtain ⟨vault, hvault, h⟩ := bind_eq_ok.1 h
      cases h
      refine ⟨?_, vault, hvault, rfl⟩
      intro t ht hkey
      exact hout (any_isFor_iff.2 ⟨t, ht, hkey⟩)
  · rintro ⟨key, hkey, ⟨hbase, hquote⟩, h⟩
    obtain ⟨strategy, hstrategy, rfl⟩ := keyOf?_eq_some.1 hkey
    refine ⟨strategy, hstrategy, (), hbase, (), hquote, ?_⟩
    rcases h with ⟨before, t, after, s, rfl, hbefore, ht, hadd, rfl⟩ | ⟨hout, vault, hvault, rfl⟩
    · have hin : (before ++ t :: after).any (Tally.isFor (Text.toLower provider.chain) strategy) =
          true := any_isFor_iff.2 ⟨t, by simp, ht⟩
      rw [if_pos hin, modifyFirst_eq_ok hin]
      refine ⟨before, t, after, { t with strategy := s }, rfl, ?_, Tally.isFor_iff.2 ht, ?_, rfl⟩
      · intro u hu
        exact Bool.eq_false_iff.2 fun hfor => hbefore u hu (Tally.isFor_iff.1 hfor)
      · exact map_eq_ok.2 ⟨s, hadd, rfl⟩
    · have hin : ¬ tallies.any (Tally.isFor (Text.toLower provider.chain) strategy) = true := by
        intro hin
        obtain ⟨t, ht, hkey⟩ := any_isFor_iff.1 hin
        exact hout t ht hkey
      rw [if_neg hin, bind_eq_ok]
      exact ⟨vault, hvault, rfl⟩

/-! ## Amounts that are too large -/

theorem Position.parseAddress_ne_overflow {field : AddressField} {value : String}
    {strategy : Address} : parseAddress field value ≠ .error (.overflow strategy) := by
  unfold parseAddress
  split <;> simp

theorem Position.strategyOn_ne_overflow {p : Position} {chain : String} {strategy : Address} :
    p.strategyOn chain ≠ .error (.overflow strategy) := by
  unfold strategyOn
  dsimp only
  split
  · exact parseAddress_ne_overflow
  · simp

theorem Position.checkSign_ne_overflow {owner strategy : Address} {side : Side}
    {amount : Decimal} : checkSign owner side amount ≠ .error (.overflow strategy) := by
  unfold checkSign
  split <;> simp

theorem Position.route_ne_overflow {tokens : TokenRegistry} {vaults : List Vault}
    {chain symbol : String} {strategy : Address} :
    route tokens vaults chain symbol ≠ .error (.overflow strategy) := by
  unfold route
  cases tokens.currency? chain symbol with
  | none => exact nofun
  | some currency =>
    dsimp only
    cases vaults.find? (·.currency = currency) with
    | none => exact nofun
    | some vault =>
      dsimp only
      cases vault.controller? chain with
      | none => exact nofun
      | some controller => exact parseAddress_ne_overflow

/-- Adding overflows for the strategy that is added to, because of one of the two sides. -/
theorem Position.overflow_of_addTo {p : Position} {chain : String} {s : Strategy}
    {strategy : Address} (h : p.addTo chain s = .error (.overflow strategy)) :
    strategy = s.address ∧ ∃ side, (s.amount side).add? (p.amount side) = none := by
  rcases addTo_eq_error.1 h with ⟨-, hmismatch⟩ | ⟨-, hside, hoverflow⟩
  · exact absurd hmismatch (by simp)
  · exact ⟨AggregationError.overflow.inj hoverflow, hside⟩

/-- The first element of which `p` holds decides why a list is not changed. -/
theorem modifyFirst_eq_error {α ε : Type} {p : α → Bool} {f : α → Except ε α} {as : List α}
    {e : ε} : modifyFirst p f as = .error e ↔
      ∃ before a after, as = before ++ a :: after ∧ (∀ x ∈ before, p x = false) ∧ p a = true
        ∧ f a = .error e := by
  induction as with
  | nil => simp [modifyFirst]
  | cons a rest ih =>
    rw [modifyFirst]
    cases hp : p a with
    | true =>
      rw [if_pos rfl, map_eq_error]
      constructor
      · exact fun h => ⟨[], a, rest, rfl, fun _ hx => absurd hx List.not_mem_nil, hp, h⟩
      · rintro ⟨before, a', after, heq, hbefore, ha', h⟩
        cases before with
        | nil =>
          cases heq
          exact h
        | cons x before =>
          cases heq
          exact absurd (hbefore a List.mem_cons_self) (by simp [hp])
    | false =>
      rw [if_neg (by simp), map_eq_error, ih]
      constructor
      · rintro ⟨before, a', after, rfl, hbefore, h⟩
        exact ⟨a :: before, a', after, rfl, List.forall_mem_cons.2 ⟨hp, hbefore⟩, h⟩
      · rintro ⟨before, a', after, heq, hbefore, ha', h⟩
        cases before with
        | nil =>
          cases heq
          exact absurd ha' (by simp [hp])
        | cons x before =>
          cases heq
          exact ⟨before, a', after, rfl, (List.forall_mem_cons.1 hbefore).2, ha', h⟩

theorem exists_of_modifyFirst_eq_error {α ε : Type} {p : α → Bool} {f : α → Except ε α}
    {as : List α} {e : ε} (h : modifyFirst p f as = .error e) :
    ∃ a ∈ as, p a = true ∧ f a = .error e := by
  obtain ⟨before, a, after, rfl, -, ha, hf⟩ := modifyFirst_eq_error.1 h
  exact ⟨a, by simp, ha, hf⟩

/-- **A position overflows because it cannot be added to the tally of its key.** -/
theorem overflow_of_tallyPosition {tokens : TokenRegistry} {vaults : List Vault}
    {tallies : List Tally} {r : Provider × Position} {strategy : Address}
    (h : tallyPosition tokens vaults tallies r = .error (.overflow strategy)) :
    ∃ chain, keyOf? r = some (chain, strategy) ∧ ∃ t ∈ tallies, t.key = (chain, strategy)
      ∧ ∃ side, (t.strategy.amount side).add? (r.2.amount side) = none := by
  obtain ⟨provider, position⟩ := r
  unfold tallyPosition at h
  rcases bind_eq_error.1 h with h | ⟨named, hnamed, h⟩
  · exact absurd h Position.strategyOn_ne_overflow
  rcases bind_eq_error.1 h with h | ⟨_, _, h⟩
  · exact absurd h Position.checkSign_ne_overflow
  rcases bind_eq_error.1 h with h | ⟨_, _, h⟩
  · exact absurd h Position.checkSign_ne_overflow
  split at h
  · obtain ⟨t, ht, hfor, h⟩ := exists_of_modifyFirst_eq_error h
    have hkey := Tally.isFor_iff.1 hfor
    obtain ⟨rfl, hside⟩ := Position.overflow_of_addTo (map_eq_error.1 h)
    have haddress : t.strategy.address = named := congrArg Prod.snd hkey
    rw [haddress]
    exact ⟨_, keyOf?_eq_some.2 ⟨named, hnamed, rfl⟩, t, ht, hkey, hside⟩
  · rcases bind_eq_error.1 h with h | ⟨_, _, h⟩
    · exact absurd h Position.route_ne_overflow
    · exact absurd h (by simp [pure, Except.pure])

/-! ## All tallies -/

/-- One tally for each key that has come up, under the lower-case form of its chain's name. -/
structure TalliesOf (reported : List (Provider × Position)) (tallies : List Tally) : Prop where
  nodup : (tallies.map Tally.key).Nodup
  chainKey : ∀ t ∈ tallies, t.chainKey = Text.toLower t.chainName
  keys : ∀ key, key ∈ tallies.map Tally.key ↔ ∃ r ∈ reported, keyOf? r = some key

/-- **Preserved by every position.** -/
theorem talliesOf_step {tokens : TokenRegistry} {vaults : List Vault}
    {reported : List (Provider × Position)} {tallies tallies' : List Tally}
    {r : Provider × Position} (h : TalliesOf reported tallies)
    (hr : tallyPosition tokens vaults tallies r = .ok tallies') :
    TalliesOf (reported ++ [r]) tallies' := by
  obtain ⟨key, hkey, -, hcases⟩ := tallyPosition_eq_ok.1 hr
  have hseen : ∀ other, (∃ q ∈ reported ++ [r], keyOf? q = some other) ↔
      other ∈ tallies.map Tally.key ∨ other = key := by
    intro other
    rw [h.keys]
    simp only [List.mem_append, List.mem_singleton, or_and_right, exists_or, exists_eq_left, hkey,
      Option.some.injEq]
    rw [eq_comm (a := key)]
  rcases hcases with ⟨before, t, after, s, rfl, -, ht, hadd, rfl⟩ | ⟨hout, vault, -, rfl⟩
  · -- the keys stay what they are, as adding leaves the address alone
    have hsame := Tally.key_of_addTo hadd
    have hmap : (before ++ { t with strategy := s } :: after).map Tally.key =
        (before ++ t :: after).map Tally.key := by
      rw [List.map_append, List.map_append, List.map_cons, List.map_cons, hsame]
    refine ⟨hmap ▸ h.nodup, ?_, ?_⟩
    · intro u hu
      rcases List.mem_append.mp hu with hu | hu
      · exact h.chainKey u (List.mem_append_left _ hu)
      rcases List.mem_cons.mp hu with rfl | hu
      · exact h.chainKey t (by simp)
      · exact h.chainKey u (by simp [hu])
    · intro other
      rw [hmap, hseen]
      refine ⟨.inl, fun hother => hother.elim id ?_⟩
      rintro rfl
      rw [← ht]
      exact List.mem_map_of_mem (by simp)
  · -- the key that is added was not there
    have hopened : (Tally.opened r key vault).key = key := rfl
    refine ⟨?_, ?_, ?_⟩
    · rw [List.map_append, List.map_singleton, hopened]
      refine List.nodup_append.2 ⟨h.nodup, by simp, ?_⟩
      intro a ha b hb he
      obtain ⟨t, ht, rfl⟩ := List.mem_map.mp ha
      exact hout t ht (he.trans (List.mem_singleton.mp hb))
    · intro u hu
      rcases List.mem_append.mp hu with hu | hu
      · exact h.chainKey u hu
      · obtain ⟨_, _, rfl⟩ := keyOf?_eq_some.1 hkey
        rw [List.mem_singleton.mp hu]
        rfl
    · intro other
      rw [hseen, List.map_append, List.map_singleton, hopened, List.mem_append,
        List.mem_singleton]

theorem talliesOf_fold {tokens : TokenRegistry} {vaults : List Vault}
    {reported : List (Provider × Position)} {tallies : List Tally}
    (h : reported.foldlM (tallyPosition tokens vaults) [] = .ok tallies) :
    TalliesOf reported tallies := by
  induction reported using List.reverseRecOn generalizing tallies with
  | nil =>
    cases h
    exact ⟨List.nodup_nil, by simp, by simp⟩
  | append_singleton reported r ih =>
    obtain ⟨before, hbefore, hr⟩ := foldlM_concat_eq_ok.1 h
    exact talliesOf_step (ih hbefore) hr

theorem TalliesOf.exists_tally {reported : List (Provider × Position)} {tallies : List Tally}
    (h : TalliesOf reported tallies) {r : Provider × Position} (hr : r ∈ reported) {key : TallyKey}
    (hkey : keyOf? r = some key) : ∃ t ∈ tallies, t.key = key :=
  List.mem_map.mp ((h.keys key).2 ⟨r, hr, hkey⟩)

theorem TalliesOf.exists_position {reported : List (Provider × Position)} {tallies : List Tally}
    (h : TalliesOf reported tallies) {t : Tally} (ht : t ∈ tallies) :
    ∃ r ∈ reported, keyOf? r = some t.key :=
  (h.keys t.key).1 (List.mem_map_of_mem ht)

/-- A key that has come up has one tally. -/
theorem TalliesOf.filter_key {reported : List (Provider × Position)} {tallies : List Tally}
    (h : TalliesOf reported tallies) {t : Tally} (ht : t ∈ tallies) :
    tallies.filter (·.key = t.key) = [t] := by
  obtain ⟨before, after, rfl⟩ := List.append_of_mem ht
  have hnodup := h.nodup
  rw [List.map_append, List.map_cons] at hnodup
  obtain ⟨-, hafter, hbefore⟩ := List.nodup_append.1 hnodup
  have hafter := (List.nodup_cons.1 hafter).1
  have hnone : ∀ part : List Tally, t.key ∉ part.map Tally.key →
      part.filter (·.key = t.key) = [] := by
    intro part hpart
    rw [List.filter_eq_nil_iff]
    intro u hu hkey
    exact hpart (of_decide_eq_true hkey ▸ List.mem_map_of_mem hu)
  rw [List.filter_append, List.filter_cons_of_pos (by simp), hnone after hafter,
    hnone before fun hmem => hbefore _ hmem _ List.mem_cons_self rfl, List.nil_append]

/-- A tally has the chain of a position that was reported for it. -/
theorem chain_of_fold {tokens : TokenRegistry} {vaults : List Vault}
    {reported : List (Provider × Position)} {tallies : List Tally}
    (h : reported.foldlM (tallyPosition tokens vaults) [] = .ok tallies) :
    ∀ t ∈ tallies, ∃ r ∈ reported, t.chainName = r.1.chain ∧ t.chainId = r.1.chainId := by
  induction reported using List.reverseRecOn generalizing tallies with
  | nil =>
    cases h
    intro t ht
    exact absurd ht List.not_mem_nil
  | append_singleton reported r ih =>
    obtain ⟨old, hold, hr⟩ := foldlM_concat_eq_ok.1 h
    have hkeep : ∀ t ∈ old, ∃ q ∈ reported ++ [r],
        t.chainName = q.1.chain ∧ t.chainId = q.1.chainId := by
      intro t ht
      obtain ⟨q, hq, hchain⟩ := ih hold t ht
      exact ⟨q, List.mem_append_left _ hq, hchain⟩
    obtain ⟨key, -, -, hcases⟩ := tallyPosition_eq_ok.1 hr
    intro u hu
    rcases hcases with ⟨before, t, after, s, rfl, -, -, -, rfl⟩ | ⟨-, vault, -, rfl⟩
    · rcases List.mem_append.mp hu with hu | hu
      · exact hkeep u (List.mem_append_left _ hu)
      rcases List.mem_cons.mp hu with rfl | hu
      · exact hkeep t (by simp)
      · exact hkeep u (by simp [hu])
    · rcases List.mem_append.mp hu with hu | hu
      · exact hkeep u hu
      · rw [List.mem_singleton.mp hu]
        exact ⟨r, by simp, rfl, rfl⟩

/-! ## Gathering -/

/-- The strategies that claims have for a key. -/
def builtFor (key : TallyKey) (claims : List ClaimParam) : List Strategy :=
  claims.flatMap fun p => p.strategies.filter fun s => (Text.toLower p.chainName, s.address) = key

/-- A tally goes where its key is looked for. -/
theorem builtFor_gather {t : Tally} (ht : t.chainKey = Text.toLower t.chainName) (key : TallyKey)
    (claims : List ClaimParam) :
    (builtFor key (gather t claims)).Perm
      (builtFor key claims ++ if t.key = key then [t.strategy] else []) := by
  have hkey : (Text.toLower t.chainName, t.strategy.address) = t.key := by rw [← ht]; rfl
  have hone : [t.strategy].filter (fun s => (Text.toLower t.chainName, s.address) = key) =
      if t.key = key then [t.strategy] else [] := by
    rw [List.filter_singleton, hkey]
    simp
  induction claims with
  | nil =>
    unfold builtFor gather
    rw [List.flatMap_singleton, hone]
    exact .refl _
  | cons p rest ih =>
    rw [gather]
    split
    · rename_i htakes
      have hname : Text.toLower p.chainName = Text.toLower t.chainName :=
        Text.toLower_eq_of_equalIgnoringAsciiCase (of_decide_eq_true htakes).2
      unfold builtFor
      rw [List.flatMap_cons, List.flatMap_cons, List.filter_append]
      dsimp only
      rw [hname, hone, List.append_assoc, List.append_assoc]
      exact List.Perm.append_left _ List.perm_append_comm
    · unfold builtFor at ih ⊢
      rw [List.flatMap_cons, List.flatMap_cons, List.append_assoc]
      exact List.Perm.append_left _ ih

/-- **Claims have the strategies of the tallies, each under its key.** -/
theorem builtFor_gatherAll {tallies : List Tally}
    (h : ∀ t ∈ tallies, t.chainKey = Text.toLower t.chainName) (key : TallyKey) :
    (builtFor key (gatherAll tallies)).Perm
      ((tallies.filter (·.key = key)).map (·.strategy)) := by
  induction tallies using List.reverseRecOn with
  | nil => exact .refl _
  | append_singleton tallies t ih =>
    have hlast := builtFor_gather (h t (by simp)) key (gatherAll tallies)
    have hbefore := ih fun u hu => h u (List.mem_append_left _ hu)
    unfold gatherAll at hlast hbefore ⊢
    rw [List.foldl_append, List.filter_append, List.map_append]
    refine hlast.trans (hbefore.append (.of_eq ?_))
    rw [List.filter_singleton]
    by_cases hkey : t.key = key <;> simp [hkey]

/-- **Putting in a tally leaves a claim as it is, adds a strategy to it or makes a new one.** -/
theorem mem_gather {t : Tally} {claims : List ClaimParam} {p : ClaimParam}
    (h : p ∈ gather t claims) :
    p ∈ claims ∨ (∃ q ∈ claims, p = { q with strategies := q.strategies ++ [t.strategy] })
      ∨ p = ⟨t.chainId, t.chainName, t.vault, [t.strategy]⟩ := by
  induction claims with
  | nil => exact .inr (.inr (List.mem_singleton.mp h))
  | cons q rest ih =>
    rw [gather] at h
    split at h
    · rcases List.mem_cons.mp h with rfl | h
      · exact .inr (.inl ⟨q, List.mem_cons_self, rfl⟩)
      · exact .inl (List.mem_cons_of_mem _ h)
    · rcases List.mem_cons.mp h with rfl | h
      · exact .inl List.mem_cons_self
      · refine (ih h).imp (List.mem_cons_of_mem _) (Or.imp_left ?_)
        rintro ⟨q', hq', heq⟩
        exact ⟨q', List.mem_cons_of_mem _ hq', heq⟩

/-- Each claim is for some strategy. -/
theorem strategies_ne_nil_of_gatherAll (tallies : List Tally) :
    ∀ p ∈ gatherAll tallies, p.strategies ≠ [] := by
  induction tallies using List.reverseRecOn with
  | nil => exact fun _ h => absurd h List.not_mem_nil
  | append_singleton tallies t ih =>
    intro p hp
    unfold gatherAll at hp
    rw [List.foldl_append] at hp
    rcases mem_gather hp with hp | ⟨q, -, rfl⟩ | rfl
    · exact ih p hp
    · exact List.concat_ne_nil _ _
    · exact List.cons_ne_nil _ _

/-- A claim has the chain of the first tally that was put into it. -/
theorem chain_of_gatherAll (tallies : List Tally) :
    ∀ p ∈ gatherAll tallies, ∃ t ∈ tallies,
      p.chainName = t.chainName ∧ p.chainId = t.chainId := by
  induction tallies using List.reverseRecOn with
  | nil =>
    intro p hp
    exact absurd hp List.not_mem_nil
  | append_singleton tallies t ih =>
    intro p hp
    have hkeep : ∀ q ∈ gatherAll tallies, ∃ u ∈ tallies ++ [t],
        q.chainName = u.chainName ∧ q.chainId = u.chainId := by
      intro q hq
      obtain ⟨u, hu, hchain⟩ := ih q hq
      exact ⟨u, List.mem_append_left _ hu, hchain⟩
    unfold gatherAll at hp
    rw [List.foldl_append] at hp
    rcases mem_gather hp with hp | ⟨q, hq, rfl⟩ | rfl
    · exact hkeep p hp
    · exact hkeep q hq
    · exact ⟨t, by simp, rfl, rfl⟩

/-- **A claim has the name and the number of its chain from one provider.** -/
theorem provider_of_aggregateClaims {tokens : TokenRegistry} {vaults : List Vault}
    {providers : List Provider} {claims : List ClaimParam}
    (h : aggregateClaims tokens vaults providers = .ok claims) :
    ∀ p ∈ claims, ∃ provider ∈ providers,
      p.chainName = provider.chain ∧ p.chainId = provider.chainId := by
  obtain ⟨tallies, htallies, rfl⟩ := map_eq_ok.1 h
  intro p hp
  obtain ⟨t, ht, hname, hid⟩ := chain_of_gatherAll tallies p hp
  obtain ⟨r, hr, hname', hid'⟩ := chain_of_fold htallies t ht
  obtain ⟨provider, hprovider, hr⟩ := List.mem_flatMap.mp hr
  obtain ⟨position, -, rfl⟩ := List.mem_map.mp hr
  exact ⟨provider, hprovider, hname.trans hname', hid.trans hid'⟩

/-- The one strategy of a key is that of its tally. -/
theorem TalliesOf.builtFor_eq {reported : List (Provider × Position)} {tallies : List Tally}
    (h : TalliesOf reported tallies) {t : Tally} (ht : t ∈ tallies) :
    builtFor t.key (gatherAll tallies) = [t.strategy] := by
  have hperm := builtFor_gatherAll h.chainKey t.key
  rw [h.filter_key ht] at hperm
  exact List.perm_singleton.1 hperm

/-- No key has two strategies. -/
theorem TalliesOf.length_builtFor_le {reported : List (Provider × Position)}
    {tallies : List Tally} (h : TalliesOf reported tallies) (key : TallyKey) :
    (builtFor key (gatherAll tallies)).length ≤ 1 := by
  by_cases hkey : ∃ t ∈ tallies, t.key = key
  · obtain ⟨t, ht, rfl⟩ := hkey
    rw [h.builtFor_eq ht]
    exact Nat.le_refl 1
  · have hnone : tallies.filter (·.key = key) = [] := by
      rw [List.filter_eq_nil_iff]
      exact fun t ht heq => hkey ⟨t, ht, of_decide_eq_true heq⟩
    rw [(builtFor_gatherAll h.chainKey key).length_eq, hnone]
    exact Nat.zero_le 1

/-- **A claim names each of its strategies once.** -/
theorem nodup_address_of_aggregateClaims {tokens : TokenRegistry} {vaults : List Vault}
    {providers : List Provider} {claims : List ClaimParam}
    (h : aggregateClaims tokens vaults providers = .ok claims) :
    ∀ p ∈ claims, (p.strategies.map (·.address)).Nodup := by
  obtain ⟨tallies, htallies, rfl⟩ := map_eq_ok.1 h
  intro p hp
  rw [List.nodup_iff_count_le_one]
  intro address
  -- those of one address are among the strategies of one key
  have hone := (talliesOf_fold htallies).length_builtFor_le (Text.toLower p.chainName, address)
  obtain ⟨before, after, hclaims⟩ := List.append_of_mem hp
  rw [hclaims] at hone
  unfold builtFor at hone
  rw [List.flatMap_append, List.flatMap_cons, List.length_append, List.length_append] at hone
  rw [List.count, List.countP_map, List.countP_eq_length_filter]
  have hsame : p.strategies.filter ((· == address) ∘ (·.address)) = p.strategies.filter fun s =>
      (Text.toLower p.chainName, s.address) = (Text.toLower p.chainName, address) := by
    refine List.filter_congr fun s _ => ?_
    rw [Function.comp_apply, Bool.eq_iff_iff]
    simp
  rw [hsame]
  omega

end Treasury
