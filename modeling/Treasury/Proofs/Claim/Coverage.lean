import Treasury.Proofs.Claim.Acceptance

/-!
# Which chains are within reach

A token's currency leads to the first vault that has it, and no further (`RoutesTo`). A report is
refused for want of a controller because this one vault has none on the chain, whatever the vaults
behind it have (`tallyPosition_controllerNotFound_iff`). So a list of vaults serves all chains that
any of them serves exactly if the first vault of each currency does so by itself.

That less would not do is seen from a report of one position: any currency on any chain can be made
the currency of its token.
-/

namespace Treasury

/-- A controller of the vault is filed under the chain's name, in whatever case its letters from A
to Z are. -/
def Vault.HasControllerOn (vault : Vault) (chain : String) : Prop :=
  ∃ entry ∈ vault.controllers.entries, Text.equalIgnoringAsciiCase entry.1 chain = true

theorem Vault.not_hasControllerOn_iff {vault : Vault} {chain : String} :
    ¬vault.HasControllerOn chain ↔
      ∀ entry ∈ vault.controllers.entries, Text.equalIgnoringAsciiCase entry.1 chain = false := by
  unfold HasControllerOn
  simp only [not_exists, not_and, Bool.not_eq_true]

theorem Vault.hasControllerOn_iff {vault : Vault} {chain : String} :
    vault.HasControllerOn chain ↔ ∃ controller, vault.controller? chain = some controller := by
  rw [← not_iff_not, not_hasControllerOn_iff, ← controller?_eq_none, ← Option.ne_none_iff_exists',
    not_not]

/-- No report is refused for want of a controller that some vault of the currency has. -/
def RoutingComplete (vaults : List Vault) : Prop :=
  ∀ tokens providers chain currency,
    aggregateClaims tokens vaults providers = .error (.controllerNotFound chain currency) →
      ∀ vault ∈ vaults, vault.currency = currency → ¬vault.HasControllerOn chain

/-- The first vault of each currency has a controller wherever some vault of the currency has. -/
def FirstVaultsSuffice (vaults : List Vault) : Prop :=
  ∀ vault ∈ vaults, ∀ first, vaults.find? (·.currency = vault.currency) = some first →
    ∀ chain, vault.HasControllerOn chain → first.HasControllerOn chain

/-! ## Want of a controller -/

/-- The first vault of the token's currency has no controller on the chain. -/
def Uncontrolled (tokens : TokenRegistry) (vaults : List Vault) (chain symbol currency : String) :
    Prop :=
  tokens.currency? chain symbol = some currency
    ∧ ∃ first, vaults.find? (·.currency = currency) = some first ∧ ¬first.HasControllerOn chain

/-- The token has a currency, and the first vault of the currency has no controller on the chain. -/
def Unserved (tokens : TokenRegistry) (vaults : List Vault) (chain symbol : String) : Prop :=
  ∃ currency, Uncontrolled tokens vaults chain symbol currency

/-- The position can be attributed, and has a key that no tally has. -/
def OpensTally (tallies : List Tally) (r : Provider × Position) : Prop :=
  ∃ strategy, r.2.Names strategy ∧ (∀ side, 0 ≤ (r.2.amount side).value)
    ∧ ∀ t ∈ tallies, t.key ≠ (Text.toLower r.1.chain, strategy)

section

variable {tokens : TokenRegistry} {vaults : List Vault} {chain currency : String}

theorem unserved_iff {symbol : String} {first : Vault}
    (hcurrency : tokens.currency? chain symbol = some currency)
    (hfirst : vaults.find? (·.currency = currency) = some first) :
    Unserved tokens vaults chain symbol ↔ ¬first.HasControllerOn chain := by
  constructor
  · rintro ⟨currency', hcurrency', first', hfirst', hnone⟩
    obtain rfl := Option.some.inj (hcurrency.symm.trans hcurrency')
    obtain rfl := Option.some.inj (hfirst.symm.trans hfirst')
    exact hnone
  · exact fun hnone => ⟨currency, hcurrency, first, hfirst, hnone⟩

theorem misrouted_controllerNotFound_iff {chain' symbol : String} :
    Misrouted tokens vaults chain' symbol (.controllerNotFound chain currency) ↔
      chain = chain' ∧ Uncontrolled tokens vaults chain' symbol currency := by
  constructor
  · intro h
    cases h with
    | controller hcurrency hfirst hnone =>
      exact ⟨rfl, hcurrency, _, hfirst, Vault.not_hasControllerOn_iff.2 hnone⟩
  · rintro ⟨rfl, hcurrency, first, hfirst, hnone⟩
    exact .controller hcurrency hfirst (Vault.not_hasControllerOn_iff.1 hnone)

/-- **A controller is missing only for a position that opens a tally, and only where the first vault
of its currency has none.** -/
theorem tallyPosition_controllerNotFound_iff {tallies : List Tally} {r : Provider × Position}
    (hnodup : (tallies.map Tally.key).Nodup) :
    tallyPosition tokens vaults tallies r = .error (.controllerNotFound chain currency) ↔
      chain = r.1.chain ∧ OpensTally tallies r
        ∧ Uncontrolled tokens vaults r.1.chain r.2.baseSymbol currency := by
  rw [tallyPosition_eq_error hnodup]
  constructor
  · rintro (hmisnamed | ⟨strategy, hnames, ⟨-, hother⟩ | ⟨hbase, ⟨-, hother⟩ |
      ⟨hquote, ⟨t, -, -, hadd⟩ | ⟨hnew, hmisrouted⟩⟩⟩⟩)
    · cases hmisnamed
    · cases hother
    · cases hother
    · rcases Position.addTo_eq_error.1 hadd with ⟨-, hother⟩ | ⟨-, -, hother⟩ <;> cases hother
    · obtain ⟨hchain, hnone⟩ := misrouted_controllerNotFound_iff.1 hmisrouted
      have hsigns : ∀ side, 0 ≤ (r.2.amount side).value := Side.forall_iff.2 ⟨hbase, hquote⟩
      exact ⟨hchain, ⟨strategy, hnames, hsigns, hnew⟩, hnone⟩
  · rintro ⟨hchain, ⟨strategy, hnames, hsigns, hnew⟩, hnone⟩
    have hmisrouted := misrouted_controllerNotFound_iff.2 ⟨hchain, hnone⟩
    exact .inr ⟨strategy, hnames, .inr ⟨hsigns .base, .inr ⟨hsigns .quote, .inr
      ⟨hnew, hmisrouted⟩⟩⟩⟩

/-- What is missing is a controller of the first vault of the currency. -/
theorem exists_first_of_controllerNotFound {providers : List Provider}
    (h : aggregateClaims tokens vaults providers = .error (.controllerNotFound chain currency)) :
    ∃ first, vaults.find? (·.currency = currency) = some first ∧ ¬first.HasControllerOn chain := by
  obtain ⟨before, r, after, tallies, -, htallies, he⟩ := foldlM_eq_error.1 (map_eq_error.1 h)
  have hnodup := (talliesOf_fold htallies).nodup
  obtain ⟨rfl, -, -, hfirst⟩ := (tallyPosition_controllerNotFound_iff hnodup).1 he
  exact hfirst

end

/-! ## A report of one position -/

/-- A position on this chain, of nothing. -/
def onePosition (chain : String) : Provider × Position :=
  let position := evenPosition "0303030303030303030303030303030303030303" .zero
  (⟨chain, 0, "", none, "", "", [position]⟩, position)

/-- Its token has this currency on the chain. -/
def oneToken (chain currency : String) : Tokens :=
  ⟨[(Tokens.key chain "B", ⟨0, currency⟩)]⟩

theorem currency?_oneToken (chain currency : String) :
    (oneToken chain currency).registry.currency? chain "B" = some currency := by
  have hfind : (oneToken chain currency).find? chain "B" = some ⟨0, currency⟩ :=
    List.lookup_cons_self
  exact congrArg (Option.map (·.currency)) hfind

/-- **A position finds any controller missing that the first vault of a currency does not have.** -/
theorem aggregateClaims_onePosition {vaults : List Vault} {chain currency : String} {first : Vault}
    (hfirst : vaults.find? (·.currency = currency) = some first)
    (hnone : ¬first.HasControllerOn chain) :
    aggregateClaims (oneToken chain currency) vaults [(onePosition chain).1] =
      .error (.controllerNotFound chain currency) := by
  have hnamed : (onePosition "").2.strategyOn "" =
      .ok ⟨List.replicate 20 3, List.length_replicate⟩ := by decide +kernel
  have hsigns : ∀ side, 0 ≤ ((onePosition chain).2.amount side).value := by
    intro side
    have hzero : ((onePosition chain).2.amount side).isZero = true := by cases side <;> rfl
    exact (Decimal.value_of_isZero hzero).ge
  have hopens : OpensTally [] (onePosition chain) :=
    ⟨_, Position.strategyOn_eq_ok.1 hnamed, hsigns, fun t ht => absurd ht List.not_mem_nil⟩
  have hfirst : Uncontrolled (oneToken chain currency) vaults chain "B" currency :=
    ⟨currency?_oneToken chain currency, first, hfirst, hnone⟩
  have hnodup : (([] : List Tally).map Tally.key).Nodup := List.nodup_nil
  have he := (tallyPosition_controllerNotFound_iff hnodup).2 ⟨rfl, hopens, hfirst⟩
  exact map_eq_error.2 (foldlM_eq_error.2 ⟨[], onePosition chain, [], [], rfl, rfl, he⟩)

/-! ## All reports -/

/--
**Routing is complete exactly if the first vault of each currency serves whatever a vault of the
currency serves.**

A report is refused for want of a controller on a chain if the first vault of the currency has none
there. Unless that vault has one wherever any vault of the currency has, some report is refused
although a vault further behind could have claimed for it.
-/
theorem routingComplete_iff_firstVaultsSuffice (vaults : List Vault) :
    RoutingComplete vaults ↔ FirstVaultsSuffice vaults := by
  constructor
  · intro hcomplete vault hvault first hfirst chain hserved
    by_contra hnone
    have hrefused := aggregateClaims_onePosition hfirst hnone
    exact hcomplete _ _ chain vault.currency hrefused vault hvault rfl hserved
  · rintro hsuffice tokens providers chain currency hrefused vault hvault rfl hserved
    obtain ⟨first, hfirst, hnone⟩ := exists_first_of_controllerNotFound hrefused
    exact hnone (hsuffice vault hvault first hfirst chain hserved)

/-- Two vaults of one currency, on one chain each. -/
def twoVaults : List Vault :=
  [⟨"", "polygon", "USDT", ⟨[("polygon", ⟨none, "0101010101010101010101010101010101010101"⟩)],
      List.pairwise_singleton _ _⟩⟩,
    ⟨"", "bsc", "USDT", ⟨[("bsc", ⟨none, "0404040404040404040404040404040404040404"⟩)],
      List.pairwise_singleton _ _⟩⟩]

/-- What the second of them serves is refused. -/
theorem not_routingComplete_twoVaults : ¬RoutingComplete twoVaults := by
  intro hcomplete
  have hrefused : aggregateClaims twoTokens twoVaults twoSpellings =
      .error (.controllerNotFound "bsc" "USDT") := by decide +kernel
  exact hcomplete _ _ _ _ hrefused twoVaults[1] (List.getElem_mem _) rfl
    ⟨_, List.mem_singleton_self _, by decide⟩

end Treasury
