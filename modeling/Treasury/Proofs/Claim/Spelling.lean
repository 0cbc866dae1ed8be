import Treasury.Proofs.Claim.Coverage
import Treasury.Proofs.Folds

/-!
# Spellings of a chain

Keys and tokens go by the lower case of all letters of a chain's name. Vaults, and claims when they
gather strategies, go by the letters from A to Z only. So a report can be spelled otherwise without
a change of its keys, and yet a vault may find a controller under the one spelling and none under
the other.

Nothing else can come of it. If no vault has a chain twice, a controller that is found under both
spellings is filed under one name, and then they differ in letters from A to Z only
(`Vault.controller?_respelled`). Hence two spellings of a report are gone through side by side, with
the same tallies, as long as none of them wants for a controller where the other has one
(`tallyPosition_respelled`).
-/

namespace Treasury

/-- The names have one lower-case form. -/
def OneLower (a b : String) : Prop := Text.toLower a = Text.toLower b

/-- The names differ at most in the case of the letters from A to Z. -/
def OneAscii (a b : String) : Prop := Text.equalIgnoringAsciiCase a b = true

theorem oneLower_of_oneAscii (a b : String) (h : OneAscii a b) : OneLower a b :=
  Text.toLower_eq_of_equalIgnoringAsciiCase h

theorem oneAscii_iff {a b : String} :
    OneAscii a b ↔ a.toList.map Text.lowerAscii = b.toList.map Text.lowerAscii :=
  decide_eq_true_iff

/-- The second provider is the first under another name of its chain. -/
def Provider.Respelled (same : String → String → Prop) (p q : Provider) : Prop :=
  ∃ name, same p.chain name ∧ q = { p with chain := name }

theorem Provider.Respelled.mono {same same' : String → String → Prop} {p q : Provider}
    (h : p.Respelled same q) (hsame : ∀ a b, same a b → same' a b) : p.Respelled same' q := by
  obtain ⟨name, hname, rfl⟩ := h
  exact ⟨name, hsame _ _ hname, rfl⟩

/-- The second claim is the first under another name of its chain. -/
def ClaimParam.Respelled (same : String → String → Prop) (p q : ClaimParam) : Prop :=
  ∃ name, same p.chainName name ∧ q = { p with chainName := name }

theorem ClaimParam.Respelled.mono {same same' : String → String → Prop} {p q : ClaimParam}
    (h : p.Respelled same q) (hsame : ∀ a b, same a b → same' a b) : p.Respelled same' q := by
  obtain ⟨name, hname, rfl⟩ := h
  exact ⟨name, hsame _ _ hname, rfl⟩

/-- The error with the chain's name in lower case. -/
def AggregationError.lowered : AggregationError → AggregationError
  | missingStrategyAddress chain index => missingStrategyAddress (Text.toLower chain) index
  | invalidAddress field value => invalidAddress field value
  | negativeAmount strategy side amount => negativeAmount strategy side amount
  | symbolMismatch chain strategy expected found =>
    symbolMismatch (Text.toLower chain) strategy expected found
  | unknownCurrency chain symbol => unknownCurrency (Text.toLower chain) symbol
  | vaultNotFound chain symbol currency => vaultNotFound (Text.toLower chain) symbol currency
  | controllerNotFound chain currency => controllerNotFound (Text.toLower chain) currency
  | overflow strategy => overflow strategy

/-- The errors are one, but for the spelling of a chain. -/
def SameError (e e' : AggregationError) : Prop := e.lowered = e'.lowered

theorem SameError.refl (e : AggregationError) : SameError e e := rfl

/-- No chain stands twice among the controllers of the vault, however it is spelled. -/
def Vault.NamesChainsOnce (vault : Vault) : Prop :=
  (vault.controllers.entries.map fun entry => Text.toLower entry.1).Nodup

/-- A report is refused for its position at this place, the first of all being at 0. -/
def RefusedAt (tokens : TokenRegistry) (vaults : List Vault) (providers : List Provider) (n : Nat)
    (e : AggregationError) : Prop :=
  FailsAt (tallyPosition tokens vaults) [] (reportedPositions providers) n e

/-- **A report that is refused is refused at a place.** -/
theorem exists_refusedAt_iff {tokens : TokenRegistry} {vaults : List Vault}
    {providers : List Provider} {e : AggregationError} :
    (∃ n, RefusedAt tokens vaults providers n e) ↔
      aggregateClaims tokens vaults providers = .error e :=
  exists_failsAt_iff.trans map_eq_error.symm

/-- Two reports come to the same, but for the spelling of chains: both are refused for one reason
at one place, or they have the same claims, which have the same calls. -/
inductive SameOutcome (tokens : TokenRegistry) (vaults : List Vault)
    (providers providers' : List Provider) : Prop
  | refused {n : Nat} {e e' : AggregationError} : RefusedAt tokens vaults providers n e →
      RefusedAt tokens vaults providers' n e' → SameError e e' →
      SameOutcome tokens vaults providers providers'
  | accepted {claims claims' : List ClaimParam} :
      aggregateClaims tokens vaults providers = .ok claims →
      aggregateClaims tokens vaults providers' = .ok claims' →
      List.Forall₂ (ClaimParam.Respelled OneLower) claims claims' →
      List.Forall₂ (fun p q => ∀ bytes,
        buildClaimCall tokens p = .ok bytes ↔ buildClaimCall tokens q = .ok bytes) claims claims' →
      SameOutcome tokens vaults providers providers'

/-- A report is refused at this place because a vault has no controller on the chain. -/
def LacksControllerAt (tokens : TokenRegistry) (vaults : List Vault) (providers : List Provider)
    (n : Nat) : Prop :=
  ∃ chain currency, RefusedAt tokens vaults providers n (.controllerNotFound chain currency)

/-! ## Controllers under two spellings -/

section

variable {chain chain' : String}

/-- Names that differ only in letters from A to Z find the same. -/
theorem OneAscii.equalIgnoringAsciiCase (h : OneAscii chain chain') (name : String) :
    Text.equalIgnoringAsciiCase name chain = Text.equalIgnoringAsciiCase name chain' := by
  unfold Text.equalIgnoringAsciiCase
  rw [oneAscii_iff.1 h]

theorem Vault.hasControllerOn_iff_of_oneAscii (h : OneAscii chain chain') (vault : Vault) :
    vault.HasControllerOn chain ↔ vault.HasControllerOn chain' := by
  unfold HasControllerOn
  simp only [h.equalIgnoringAsciiCase]

/-- **A controller that is found under two spellings is filed under one name.** -/
theorem Vault.controller?_respelled {vault : Vault} (honce : vault.NamesChainsOnce)
    (hlower : OneLower chain chain') {controller controller' : Controller}
    (h : vault.controller? chain = some controller)
    (h' : vault.controller? chain' = some controller') :
    controller = controller' ∧ OneAscii chain chain' := by
  obtain ⟨name, hentry, hname⟩ := exists_entry_of_controller? h
  obtain ⟨name', hentry', hname'⟩ := exists_entry_of_controller? h'
  have hnames : Text.toLower name = Text.toLower name' :=
    calc Text.toLower name = Text.toLower chain := oneLower_of_oneAscii _ _ hname
      _ = Text.toLower chain' := hlower
      _ = Text.toLower name' := (oneLower_of_oneAscii _ _ hname').symm
  have hsame : (name, controller) = (name', controller') :=
    List.inj_on_of_nodup_map honce hentry hentry' hnames
  obtain ⟨rfl, rfl⟩ := Prod.mk.inj hsame
  exact ⟨rfl, oneAscii_iff.2 ((oneAscii_iff.1 hname).symm.trans (oneAscii_iff.1 hname'))⟩

end

/-! ## One position under two spellings -/

section

variable {tokens : Tokens} {vaults : List Vault} {chain chain' : String}

theorem Position.strategyOn_respelled (p : Position) (h : OneLower chain chain') :
    Corresponds Eq SameError (p.strategyOn chain) (p.strategyOn chain') := by
  unfold strategyOn
  dsimp only
  split
  · exact corresponds_refl (fun _ => rfl) SameError.refl _
  · exact .error (congrArg (AggregationError.missingStrategyAddress · p.index) h)

theorem Position.addTo_respelled (p : Position) (s : Strategy) (h : OneLower chain chain') :
    Corresponds Eq SameError (p.addTo chain s) (p.addTo chain' s) := by
  unfold addTo
  split
  · exact .error (congrArg (AggregationError.symbolMismatch · _ _ _) h)
  · exact corresponds_refl (fun _ => rfl) SameError.refl _

theorem unserved_iff_of_oneAscii (h : OneAscii chain chain') (symbol : String) :
    Unserved tokens vaults chain symbol ↔ Unserved tokens vaults chain' symbol := by
  have hcurrency :
      tokens.registry.currency? chain symbol = tokens.registry.currency? chain' symbol :=
    tokens.currency?_eq_of_toLower (oneLower_of_oneAscii _ _ h) symbol
  unfold Unserved Uncontrolled
  simp only [hcurrency, Vault.hasControllerOn_iff_of_oneAscii h]

/-- **A token leads to the same vault under two spellings, unless a controller is found under one of
them only.** -/
theorem Position.route_respelled (honce : ∀ vault ∈ vaults, vault.NamesChainsOnce)
    (h : OneLower chain chain') {symbol : String}
    (hnone : Unserved tokens vaults chain symbol ↔ Unserved tokens vaults chain' symbol) :
    Corresponds (fun vault vault' => vault = vault' ∧ OneAscii chain chain') SameError
      (route tokens vaults chain symbol) (route tokens vaults chain' symbol) := by
  have hcurrency :
      tokens.registry.currency? chain symbol = tokens.registry.currency? chain' symbol :=
    tokens.currency?_eq_of_toLower h symbol
  unfold route
  rw [hcurrency]
  cases hknown : tokens.registry.currency? chain' symbol with
  | none => exact .error (congrArg (AggregationError.unknownCurrency · symbol) h)
  | some currency =>
    dsimp only
    cases hfirst : vaults.find? (·.currency = currency) with
    | none => exact .error (congrArg (AggregationError.vaultNotFound · symbol currency) h)
    | some vault =>
      dsimp only
      have hboth : vault.HasControllerOn chain ↔ vault.HasControllerOn chain' := by
        rwa [unserved_iff (hcurrency.trans hknown) hfirst, unserved_iff hknown hfirst,
          not_iff_not] at hnone
      by_cases hserved : vault.HasControllerOn chain
      · obtain ⟨controller, hc⟩ := Vault.hasControllerOn_iff.1 hserved
        obtain ⟨controller', hc'⟩ := Vault.hasControllerOn_iff.1 (hboth.1 hserved)
        have hvault := honce vault (List.mem_of_find?_eq_some hfirst)
        obtain ⟨rfl, hascii⟩ := Vault.controller?_respelled hvault h hc hc'
        rw [hc, hc']
        exact corresponds_refl (fun _ => ⟨rfl, hascii⟩) SameError.refl _
      · have hc := Vault.controller?_eq_none.2 (Vault.not_hasControllerOn_iff.1 hserved)
        have hserved' := hserved ∘ hboth.2
        have hc' := Vault.controller?_eq_none.2 (Vault.not_hasControllerOn_iff.1 hserved')
        rw [hc, hc']
        exact .error (congrArg (AggregationError.controllerNotFound · currency) h)

end

/-! ## Tallies under two spellings -/

/-- The second tally is the first under another name of its chain. -/
def Tally.Respelled (t u : Tally) : Prop :=
  ∃ name, OneAscii t.chainName name ∧ u = { t with chainName := name }

/-- The second position is the first under another name of its chain. -/
def PositionRespelled (same : String → String → Prop) (r q : Provider × Position) : Prop :=
  r.1.Respelled same q.1 ∧ r.2 = q.2

theorem Tally.Respelled.key {t u : Tally} (h : t.Respelled u) : u.key = t.key := by
  obtain ⟨name, -, rfl⟩ := h
  rfl

/-- Tallies that go along with tallies have the same keys. -/
theorem map_key_respelled {tallies tallies' : List Tally}
    (h : List.Forall₂ Tally.Respelled tallies tallies') :
    tallies'.map Tally.key = tallies.map Tally.key :=
  (map_eq_map_of_forall₂ (h.imp fun _ _ htu => htu.key.symm)).symm

theorem any_isFor_respelled {tallies tallies' : List Tally}
    (h : List.Forall₂ Tally.Respelled tallies tallies') (chainKey : String) (strategy : Address) :
    tallies'.any (Tally.isFor chainKey strategy) = tallies.any (Tally.isFor chainKey strategy) := by
  have hkeys := map_key_respelled h
  rw [Bool.eq_iff_iff, any_isFor_iff, any_isFor_iff, ← List.mem_map, ← List.mem_map, hkeys]

/-- Lists that go along with each other are changed at the same element. -/
theorem modifyFirst_corresponds {α β ε : Type} {S : α → β → Prop} {E : ε → ε → Prop}
    {p : α → Bool} {q : β → Bool} {f : α → Except ε α} {g : β → Except ε β} {as : List α}
    {bs : List β} (h : List.Forall₂ S as bs) (hpq : ∀ a b, S a b → p a = q b)
    (hfg : ∀ a b, S a b → Corresponds S E (f a) (g b)) :
    Corresponds (List.Forall₂ S) E (modifyFirst p f as) (modifyFirst q g bs) := by
  induction h with
  | nil => exact .ok .nil
  | cons hab hrest ih =>
    rw [modifyFirst, modifyFirst, hpq _ _ hab]
    split
    · exact (hfg _ _ hab).map fun _ _ hchanged => .cons hchanged hrest
    · exact ih.map fun _ _ hchanged => .cons hab hchanged

section

variable {tokens : Tokens} {vaults : List Vault} {tallies tallies' : List Tally}
  {r r' : Provider × Position}

/-- **A position is taken in alike under two spellings**, unless a controller is found under one of
them only. -/
theorem tallyPosition_respelled (honce : ∀ vault ∈ vaults, vault.NamesChainsOnce)
    (htallies : List.Forall₂ Tally.Respelled tallies tallies')
    (hr : PositionRespelled OneLower r r')
    (hnone : OpensTally tallies r → (Unserved tokens vaults r.1.chain r.2.baseSymbol ↔
      Unserved tokens vaults r'.1.chain r'.2.baseSymbol)) :
    Corresponds (List.Forall₂ Tally.Respelled) SameError (tallyPosition tokens vaults tallies r)
      (tallyPosition tokens vaults tallies' r') := by
  obtain ⟨provider, position⟩ := r
  obtain ⟨provider', position'⟩ := r'
  obtain ⟨⟨name, hname, rfl⟩, hposition⟩ := hr
  dsimp only at hname hposition hnone
  subst hposition
  unfold tallyPosition
  dsimp only
  refine (position.strategyOn_respelled hname).bind fun strategy _ hstrategy _ heq => ?_
  subst heq
  refine (corresponds_refl (fun _ => rfl) SameError.refl _).bind fun _ _ hbase _ _ => ?_
  refine (corresponds_refl (fun _ => rfl) SameError.refl _).bind fun _ _ hquote _ _ => ?_
  have hsame : Text.toLower name = Text.toLower provider.chain := hname.symm
  rw [hsame, any_isFor_respelled htallies]
  split
  · refine modifyFirst_corresponds htallies (fun t u htu => ?_) fun t u htu => ?_
    · rw [Bool.eq_iff_iff, Tally.isFor_iff, Tally.isFor_iff, htu.key]
    · obtain ⟨spelled, hspelled, rfl⟩ := htu
      refine (position.addTo_respelled t.strategy hname).map fun s _ heq => ?_
      subst heq
      exact ⟨spelled, hspelled, rfl⟩
  · rename_i hout
    have hsigns : ∀ side, 0 ≤ (position.amount side).value := by
      refine Side.forall_iff.2 ⟨?_, ?_⟩
      · exact Decimal.value_nonneg_iff.2 (Position.checkSign_eq_ok.1 hbase)
      · exact Decimal.value_nonneg_iff.2 (Position.checkSign_eq_ok.1 hquote)
    have hnew : ∀ t ∈ tallies, t.key ≠ (Text.toLower provider.chain, strategy) :=
      fun t ht hkey => hout (any_isFor_iff.2 ⟨t, ht, hkey⟩)
    have hboth := hnone ⟨strategy, Position.strategyOn_eq_ok.1 hstrategy, hsigns, hnew⟩
    refine (Position.route_respelled honce hname hboth).bind fun vault _ _ _ hvault => ?_
    obtain ⟨rfl, hascii⟩ := hvault
    exact .ok (List.rel_append htallies (.cons ⟨name, hascii, rfl⟩ .nil))

theorem opensTally_respelled (htallies : List.Forall₂ Tally.Respelled tallies tallies')
    (hr : PositionRespelled OneLower r r') : OpensTally tallies r ↔ OpensTally tallies' r' := by
  obtain ⟨provider, position⟩ := r
  obtain ⟨provider', position'⟩ := r'
  obtain ⟨⟨name, hname, rfl⟩, hposition⟩ := hr
  dsimp only at hname hposition
  subst hposition
  have hnew : ∀ key, (∀ t ∈ tallies, t.key ≠ key) ↔ ∀ t ∈ tallies', t.key ≠ key := by
    intro key
    have hmap : ∀ ts : List Tally, (∀ t ∈ ts, t.key ≠ key) ↔ ∀ k ∈ ts.map Tally.key, k ≠ key :=
      fun ts => (List.forall_mem_map (P := (· ≠ key))).symm
    rw [hmap, hmap, map_key_respelled htallies]
  unfold OpensTally
  simp only [hnew]
  rw [hname]

end

/-! ## Claims and calls under two spellings -/

section

variable {t u : Tally} {p q : ClaimParam}

theorem ClaimParam.takes_respelled (htu : t.Respelled u) (hpq : p.Respelled OneAscii q) :
    p.takes t = q.takes u := by
  obtain ⟨name, hname, rfl⟩ := htu
  obtain ⟨name', hname', rfl⟩ := hpq
  unfold takes Text.equalIgnoringAsciiCase
  rw [oneAscii_iff.1 hname, oneAscii_iff.1 hname']

/-- **A tally joins the same claim under two spellings.** -/
theorem gather_respelled (htu : t.Respelled u) {ps qs : List ClaimParam}
    (h : List.Forall₂ (ClaimParam.Respelled OneAscii) ps qs) :
    List.Forall₂ (ClaimParam.Respelled OneAscii) (gather t ps) (gather u qs) := by
  induction h with
  | nil =>
    obtain ⟨name, hname, rfl⟩ := htu
    exact .cons ⟨name, hname, rfl⟩ .nil
  | cons hpq hrest ih =>
    rw [gather, gather, ClaimParam.takes_respelled htu hpq]
    split
    · obtain ⟨name, -, rfl⟩ := htu
      obtain ⟨name', hname', rfl⟩ := hpq
      exact .cons ⟨name', hname', rfl⟩ hrest
    · exact .cons hpq ih

theorem gatherAll_respelled {tallies tallies' : List Tally}
    (h : List.Forall₂ Tally.Respelled tallies tallies') :
    List.Forall₂ (ClaimParam.Respelled OneAscii) (gatherAll tallies) (gatherAll tallies') := by
  refine List.rel_foldl (P := List.Forall₂ (ClaimParam.Respelled OneAscii)) ?_ .nil h
  intro ps qs hclaims t u htu
  exact gather_respelled htu hclaims

/-- **A claim has the same call under two spellings.** -/
theorem buildClaimCall_respelled (tokens : Tokens) (h : p.Respelled OneLower q)
    (bytes : List UInt8) :
    buildClaimCall tokens p = .ok bytes ↔ buildClaimCall tokens q = .ok bytes := by
  obtain ⟨name, hname, rfl⟩ := h
  have hdecimals : ∀ symbol, tokens.registry.decimals? p.chainName symbol =
      tokens.registry.decimals? name symbol := tokens.decimals?_eq_of_toLower hname
  unfold buildClaimCall claimLines
  simp only [map_eq_ok, mapM_eq_ok, ClaimLine.ofStrategy_eq_ok, IsConverted, hdecimals]

end

/-! ## Reports under two spellings -/

theorem reportedPositions_respelled {same : String → String → Prop}
    {providers providers' : List Provider}
    (h : List.Forall₂ (Provider.Respelled same) providers providers') :
    List.Forall₂ (PositionRespelled same) (reportedPositions providers)
      (reportedPositions providers') := by
  refine List.rel_flatMap h fun p q hpq => ?_
  have hpositions : p.positions = q.positions := by
    obtain ⟨name, -, rfl⟩ := hpq
    rfl
  rw [hpositions, List.forall₂_map_left_iff, List.forall₂_map_right_iff]
  exact List.forall₂_same.2 fun position _ => ⟨hpq, rfl⟩

section

variable {tokens : Tokens} {vaults : List Vault} {providers providers' : List Provider} {n : Nat}

/-- Where a report has come to a position, a controller is missing if the position would open a
tally and its vault has none. -/
theorem lacksControllerAt_iff {tallies : List Tally} {r : Provider × Position}
    (h : ComesTo (tallyPosition tokens vaults) [] (reportedPositions providers) n tallies r) :
    LacksControllerAt tokens vaults providers n ↔
      OpensTally tallies r ∧ Unserved tokens vaults r.1.chain r.2.baseSymbol := by
  have hnodup := (talliesOf_fold h.1).nodup
  unfold LacksControllerAt RefusedAt
  constructor
  · rintro ⟨chain, currency, tallies', r', h', he⟩
    obtain ⟨rfl, rfl⟩ := h.unique h'
    obtain ⟨-, hopens, hnone⟩ := (tallyPosition_controllerNotFound_iff hnodup).1 he
    exact ⟨hopens, currency, hnone⟩
  · rintro ⟨hopens, currency, hnone⟩
    have he := (tallyPosition_controllerNotFound_iff hnodup).2 ⟨rfl, hopens, hnone⟩
    exact ⟨r.1.chain, currency, tallies, r, h, he⟩

/-- **Two spellings come to the same, or else to a position that would open a tally and finds a
controller under one of them only.** -/
theorem sameOutcome_or_apart (honce : ∀ vault ∈ vaults, vault.NamesChainsOnce)
    {same : String → String → Prop} (hlower : ∀ a b, same a b → OneLower a b)
    (hspelled : List.Forall₂ (Provider.Respelled same) providers providers') :
    SameOutcome tokens vaults providers providers' ∨ ∃ n tallies tallies' r r',
      ComesTo (tallyPosition tokens vaults) [] (reportedPositions providers) n tallies r
        ∧ ComesTo (tallyPosition tokens vaults) [] (reportedPositions providers') n tallies' r'
        ∧ List.Forall₂ Tally.Respelled tallies tallies' ∧ PositionRespelled same r r'
        ∧ ¬(OpensTally tallies r → (Unserved tokens vaults r.1.chain r.2.baseSymbol ↔
          Unserved tokens vaults r'.1.chain r'.2.baseSymbol)) := by
  rcases foldlM_apart (reportedPositions_respelled hspelled) List.Forall₂.nil with
    ⟨tallies, tallies', h, h', htallies⟩ |
      ⟨n, tallies, r, tallies', r', hcomes, hcomes', htallies, hr, hapart⟩
  · have hclaims : List.Forall₂ (ClaimParam.Respelled OneLower) (gatherAll tallies)
        (gatherAll tallies') :=
      (gatherAll_respelled htallies).imp fun _ _ hpq => hpq.mono oneLower_of_oneAscii
    have hcalls := hclaims.imp fun _ _ hpq => buildClaimCall_respelled tokens hpq
    exact .inl (.accepted (map_eq_ok.2 ⟨tallies, h, rfl⟩) (map_eq_ok.2 ⟨tallies', h', rfl⟩)
      hclaims hcalls)
  · by_cases hnone : OpensTally tallies r → (Unserved tokens vaults r.1.chain r.2.baseSymbol ↔
      Unserved tokens vaults r'.1.chain r'.2.baseSymbol)
    · have hstep := tallyPosition_respelled honce htallies ⟨hr.1.mono hlower, hr.2⟩ hnone
      rcases corresponds_iff.1 hstep with ⟨us, us', h, h', hus⟩ | ⟨e, e', he, he', hsame⟩
      · exact absurd ⟨us, us', h, h', hus⟩ hapart
      · exact .inl (.refused ⟨tallies, r, hcomes, he⟩ ⟨tallies', r', hcomes', he'⟩ hsame)
    · exact .inr ⟨n, tallies, tallies', r, r', hcomes, hcomes', htallies, hr, hnone⟩

/-- Where both reports are refused for one reason at one place, a controller is missing from both if
it is from one. -/
theorem lacksControllerAt_of_refused {m : Nat} {e e' : AggregationError}
    (h : RefusedAt tokens vaults providers n e) (h' : RefusedAt tokens vaults providers' n e')
    (he : SameError e e') (hlack : LacksControllerAt tokens vaults providers m) :
    LacksControllerAt tokens vaults providers' m := by
  obtain ⟨chain, currency, hm⟩ := hlack
  obtain ⟨rfl, rfl⟩ := h.unique hm
  cases e' with
  | controllerNotFound chain' currency' => exact ⟨chain', currency', h'⟩
  | _ => exact absurd he (by simp [SameError, AggregationError.lowered])

/-- A report that is accepted lacks no controller. -/
theorem not_lacksControllerAt {claims : List ClaimParam}
    (h : aggregateClaims tokens vaults providers = .ok claims) :
    ¬LacksControllerAt tokens vaults providers n := by
  rintro ⟨chain, currency, hrefused⟩
  have he := exists_refusedAt_iff.1 ⟨n, hrefused⟩
  exact absurd (h.symm.trans he) (by simp)

/-- Reports that come to the same lack controllers at the same places. -/
theorem SameOutcome.lacksControllerAt_iff (h : SameOutcome tokens vaults providers providers') :
    LacksControllerAt tokens vaults providers n ↔ LacksControllerAt tokens vaults providers' n := by
  cases h with
  | refused hrefused hrefused' he =>
    exact ⟨lacksControllerAt_of_refused hrefused hrefused' he,
      lacksControllerAt_of_refused hrefused' hrefused he.symm⟩
  | accepted hclaims hclaims' _ _ =>
    exact iff_of_false (not_lacksControllerAt hclaims) (not_lacksControllerAt hclaims')

end

/--
**The spelling of chains matters only to whether a vault has a controller.**

Take two reports that differ in the spelling of chains only, each pair of names with one lower-case
form, and vaults that name no chain twice. The reports come to the same exactly if a controller is
missing at the same places: they are refused for one reason at one place, or they have the same
claims, with the same calls. Names that differ only in the case of letters from A to Z always do.
-/
theorem sameOutcome_iff_lacksControllerAt {tokens : Tokens} {vaults : List Vault}
    {providers providers' : List Provider} (honce : ∀ vault ∈ vaults, vault.NamesChainsOnce)
    (hspelled : List.Forall₂ (Provider.Respelled OneLower) providers providers') :
    (SameOutcome tokens vaults providers providers' ↔
        ∀ n, LacksControllerAt tokens vaults providers n ↔
          LacksControllerAt tokens vaults providers' n)
      ∧ (List.Forall₂ (Provider.Respelled OneAscii) providers providers' →
        SameOutcome tokens vaults providers providers') := by
  refine ⟨⟨fun h n => h.lacksControllerAt_iff, fun hlack => ?_⟩, fun hascii => ?_⟩
  · refine (sameOutcome_or_apart honce (fun _ _ hname => hname) hspelled).resolve_right ?_
    rintro ⟨n, tallies, tallies', r, r', hcomes, hcomes', htallies, hr, hapart⟩
    refine hapart fun hopens => ?_
    have hlack := hlack n
    rw [lacksControllerAt_iff hcomes, lacksControllerAt_iff hcomes',
      ← opensTally_respelled htallies hr] at hlack
    exact (and_congr_right_iff.1 hlack) hopens
  · refine (sameOutcome_or_apart honce oneLower_of_oneAscii hascii).resolve_right ?_
    rintro ⟨n, tallies, tallies', r, r', -, -, -, hr, hapart⟩
    obtain ⟨⟨name, hname, hprovider⟩, hposition⟩ := hr
    refine hapart fun _ => ?_
    rw [hprovider, ← hposition]
    exact unserved_iff_of_oneAscii hname r.2.baseSymbol

/-! ## An umlaut -/

/-- A position in Zürich, spelled like this. -/
def inZurich (chain : String) : List Provider :=
  [⟨chain, 56, "", none, "", "",
    [evenPosition "0303030303030303030303030303030303030303" .zero]⟩]

/-- The token of the position. -/
def zurichToken : Tokens := oneToken "zürich" "USDT"

/-- The vault for the position. -/
def zurichVault : Vault :=
  ⟨"", "", "USDT", ⟨[("zürich", ⟨none, "0101010101010101010101010101010101010101"⟩)],
    List.pairwise_singleton _ _⟩⟩

theorem respelled_inZurich {same : String → String → Prop} {chain chain' : String}
    (h : same chain chain') :
    List.Forall₂ (Provider.Respelled same) (inZurich chain) (inZurich chain') :=
  .cons ⟨chain', h, rfl⟩ .nil

/-- In capital letters the vault is not found, unless the umlaut stays small. -/
theorem sameOutcome_iff_lacksControllerAt_inZurich :
    (∀ vault ∈ [zurichVault], vault.NamesChainsOnce) ∧ OneLower "zürich" "ZÜRICH"
      ∧ ¬SameOutcome zurichToken [zurichVault] (inZurich "zürich") (inZurich "ZÜRICH")
      ∧ SameOutcome zurichToken [zurichVault] (inZurich "zürich") (inZurich "ZüRICH") := by
  have honce : ∀ vault ∈ [zurichVault], vault.NamesChainsOnce := by
    intro vault hvault
    rw [List.mem_singleton.mp hvault]
    exact List.nodup_singleton _
  have hlower : OneLower "zürich" "ZÜRICH" := by
    unfold OneLower
    decide +kernel
  have hascii : OneAscii "zürich" "ZüRICH" := by
    unfold OneAscii
    decide +kernel
  refine ⟨honce, hlower, fun hsame => ?_, ?_⟩
  · have hlacks : LacksControllerAt zurichToken [zurichVault] (inZurich "ZÜRICH") 0 :=
      ⟨"ZÜRICH", "USDT", failsAt_zero.2 (by decide +kernel)⟩
    have hlacks' := ((sameOutcome_iff_lacksControllerAt honce
      (respelled_inZurich hlower)).1.1 hsame 0).2 hlacks
    have haccepted : ∃ claims, aggregateClaims zurichToken [zurichVault] (inZurich "zürich") =
        .ok claims := ⟨_, rfl⟩
    obtain ⟨claims, hclaims⟩ := haccepted
    exact not_lacksControllerAt hclaims hlacks'
  · have hspelled := respelled_inZurich (oneLower_of_oneAscii _ _ hascii)
    exact (sameOutcome_iff_lacksControllerAt honce hspelled).2 (respelled_inZurich hascii)

end Treasury
