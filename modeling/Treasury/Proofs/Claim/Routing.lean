import Treasury.Proofs.Claim.Partition
import Treasury.Proofs.Text.NameMap
import Treasury.Registry.Chains

/-!
# The way from a position to its vault

A token has a currency on its chain, the first vault of the currency is asked for its controller on
the chain, and the controller's address is who claims. This is gone through only for the first
position of a key. Positions that are added later have the same token, and a name for the chain that
has the same lower-case form, so the vault is one of their currency, too (`serves_of_madeOf`).

Two notions of one chain meet here. Vaults compare the letters from A to Z in either case, and so do
claims when strategies are gathered; keys, tokens and chains compare the lower case of all letters.
The first implies the second, and nothing that is looked up by a claim needs more than the second.
-/

namespace Treasury

/-! ## Controllers -/

/-- A controller is filed under a name of the chain. -/
theorem Vault.exists_entry_of_controller? {vault : Vault} {chain : String} {controller : Controller}
    (h : vault.controller? chain = some controller) :
    ∃ name, (name, controller) ∈ vault.controllers.entries
      ∧ Text.equalIgnoringAsciiCase name chain = true := by
  unfold controller? at h
  cases hexact : vault.controllers.get? chain with
  | some exact' =>
    rw [hexact] at h
    cases h
    exact ⟨chain, NameMap.get?_eq_some_iff.1 hexact, decide_eq_true rfl⟩
  | none =>
    rw [hexact] at h
    obtain ⟨⟨name, controller'⟩, hfind, rfl⟩ := Option.map_eq_some_iff.1 h
    have hmatched := List.find?_some hfind
    exact ⟨name, List.mem_of_find?_eq_some hfind, hmatched⟩

/-- No controller is found only if none is filed under the chain's name, in whatever case its
letters from A to Z are. -/
theorem Vault.controller?_eq_none {vault : Vault} {chain : String} :
    vault.controller? chain = none ↔
      ∀ entry ∈ vault.controllers.entries, Text.equalIgnoringAsciiCase entry.1 chain = false := by
  unfold controller? NameMap.find?
  cases hexact : vault.controllers.get? chain with
  | some controller =>
    have hentry := NameMap.get?_eq_some_iff.1 hexact
    have hequal : Text.equalIgnoringAsciiCase chain chain = true := decide_eq_true rfl
    simp only [Option.orElse_some, reduceCtorEq, false_iff]
    exact fun h => absurd (h _ hentry) (by simp [hequal])
  | none => simp

/-! ## Routes -/

/-- What leads from a token on a chain to an address. Of several vaults of the currency only the
first is asked. -/
def RoutesTo (tokens : TokenRegistry) (vaults : List Vault) (chain symbol : String)
    (address : Address) : Prop :=
  ∃ currency, tokens.currency? chain symbol = some currency
    ∧ ∃ vault, vaults.find? (·.currency = currency) = some vault
    ∧ ∃ controller, vault.controller? chain = some controller
    ∧ FixedBytes.ofText? (Text.trim controller.address) = some address

/-- What keeps a token on a chain from leading to any address. -/
inductive Misrouted (tokens : TokenRegistry) (vaults : List Vault) (chain symbol : String) :
    AggregationError → Prop where
  | currency : tokens.currency? chain symbol = none →
      Misrouted tokens vaults chain symbol (.unknownCurrency chain symbol)
  | vault {currency : String} : tokens.currency? chain symbol = some currency →
      (∀ vault ∈ vaults, vault.currency ≠ currency) →
      Misrouted tokens vaults chain symbol (.vaultNotFound chain symbol currency)
  | controller {currency : String} {vault : Vault} : tokens.currency? chain symbol = some currency →
      vaults.find? (·.currency = currency) = some vault →
      (∀ entry ∈ vault.controllers.entries, Text.equalIgnoringAsciiCase entry.1 chain = false) →
      Misrouted tokens vaults chain symbol (.controllerNotFound chain currency)
  | address {currency : String} {vault : Vault} {controller : Controller} :
      tokens.currency? chain symbol = some currency →
      vaults.find? (·.currency = currency) = some vault →
      vault.controller? chain = some controller →
      (FixedBytes.ofText? (Text.trim controller.address) : Option Address) = none →
      Misrouted tokens vaults chain symbol (.invalidAddress .controller controller.address)

section

variable {tokens : TokenRegistry} {vaults : List Vault} {chain symbol : String}

theorem Position.parseAddress_eq_ok {field : AddressField} {value : String} {address : Address} :
    parseAddress field value = .ok address ↔
      FixedBytes.ofText? (Text.trim value) = some address := by
  unfold parseAddress
  cases (FixedBytes.ofText? (Text.trim value) : Option Address) <;> simp

theorem Position.parseAddress_eq_error {field : AddressField} {value : String}
    {e : AggregationError} :
    parseAddress field value = .error e ↔
      (FixedBytes.ofText? (Text.trim value) : Option Address) = none
        ∧ e = .invalidAddress field value := by
  unfold parseAddress
  cases (FixedBytes.ofText? (Text.trim value) : Option Address) <;> simp [eq_comm]

theorem find?_currency_eq_none {currency : String} :
    vaults.find? (·.currency = currency) = none ↔ ∀ vault ∈ vaults, vault.currency ≠ currency := by
  rw [List.find?_eq_none]
  simp only [decide_eq_true_eq, ne_eq]

theorem Position.route_eq_ok {address : Address} :
    route tokens vaults chain symbol = .ok address ↔
      RoutesTo tokens vaults chain symbol address := by
  unfold route RoutesTo
  cases tokens.currency? chain symbol with
  | none => simp
  | some currency =>
    simp only [Option.some.injEq, exists_eq_left']
    cases vaults.find? (·.currency = currency) with
    | none => simp
    | some vault =>
      simp only [Option.some.injEq, exists_eq_left']
      cases vault.controller? chain with
      | none => simp
      | some controller =>
        simp only [Option.some.injEq, exists_eq_left']
        exact parseAddress_eq_ok

theorem Position.route_eq_error {e : AggregationError} :
    route tokens vaults chain symbol = .error e ↔ Misrouted tokens vaults chain symbol e := by
  unfold route
  constructor
  · intro h
    split at h
    · rename_i hcurrency
      cases h
      exact .currency hcurrency
    rename_i currency hcurrency
    split at h
    · rename_i hvault
      cases h
      exact .vault hcurrency (find?_currency_eq_none.1 hvault)
    rename_i vault hvault
    split at h
    · rename_i hcontroller
      cases h
      exact .controller hcurrency hvault (Vault.controller?_eq_none.1 hcontroller)
    · rename_i controller hcontroller
      obtain ⟨haddress, rfl⟩ := parseAddress_eq_error.1 h
      exact .address hcurrency hvault hcontroller haddress
  · intro h
    cases h with
    | currency hcurrency => rw [hcurrency]
    | vault hcurrency hvaults => simp only [hcurrency, find?_currency_eq_none.2 hvaults]
    | controller hcurrency hvault hcontroller =>
      simp only [hcurrency, hvault, Vault.controller?_eq_none.2 hcontroller]
    | address hcurrency hvault hcontroller haddress =>
      simp only [hcurrency, hvault, hcontroller]
      exact parseAddress_eq_error.2 ⟨haddress, rfl⟩

end

/-! ## One chain -/

section

variable {chain chain' : String}

theorem Tokens.find?_eq_of_toLower (tokens : Tokens) (h : Text.toLower chain = Text.toLower chain')
    (symbol : String) : tokens.find? chain symbol = tokens.find? chain' symbol := by
  unfold find? key
  rw [h]

theorem Tokens.decimals?_eq_of_toLower (tokens : Tokens)
    (h : Text.toLower chain = Text.toLower chain') (symbol : String) :
    tokens.decimals? chain symbol = tokens.decimals? chain' symbol := by
  unfold decimals?
  rw [tokens.find?_eq_of_toLower h]

theorem Tokens.currency?_eq_of_toLower (tokens : Tokens)
    (h : Text.toLower chain = Text.toLower chain') (symbol : String) :
    tokens.currency? chain symbol = tokens.currency? chain' symbol := by
  unfold currency?
  rw [tokens.find?_eq_of_toLower h]

theorem Chains.get?_eq_of_toLower (chains : Chains) (h : Text.toLower chain = Text.toLower chain') :
    chains.get? chain = chains.get? chain' := by
  unfold get?
  rw [h]

end

/-! ## Positions and their vaults -/

/-- The address is a controller's, on the chain of the position, of a vault that has the currency of
the position's base token. -/
def Serves (tokens : TokenRegistry) (vaults : List Vault) (r : Provider × Position)
    (address : Address) : Prop :=
  ∃ currency, tokens.currency? r.1.chain r.2.baseSymbol = some currency
    ∧ ∃ vault ∈ vaults, vault.currency = currency
    ∧ ∃ name controller, (name, controller) ∈ vault.controllers.entries
    ∧ Text.toLower name = Text.toLower r.1.chain
    ∧ FixedBytes.ofText? (Text.trim controller.address) = some address

/-- The route of one token serves all positions with this token, on chains of one name. -/
theorem serves_of_routesTo {tokens : Tokens} {vaults : List Vault} {chain symbol : String}
    {address : Address} {r : Provider × Position} (h : RoutesTo tokens vaults chain symbol address)
    (hchain : Text.toLower chain = Text.toLower r.1.chain) (hsymbol : r.2.baseSymbol = symbol) :
    Serves tokens vaults r address := by
  obtain ⟨currency, hcurrency, vault, hvault, controller, hcontroller, haddress⟩ := h
  obtain ⟨name, hentry, hname⟩ := Vault.exists_entry_of_controller? hcontroller
  have hsame := List.find?_some hvault
  refine ⟨currency, ?_, vault, List.mem_of_find?_eq_some hvault, of_decide_eq_true hsame, name,
    controller, hentry, (Text.toLower_eq_of_equalIgnoringAsciiCase hname).trans hchain, haddress⟩
  rw [hsymbol]
  exact (tokens.currency?_eq_of_toLower hchain symbol).symm.trans hcurrency

/-- **The vault of a tally serves all of its positions**, not only the one that it was looked up
for. -/
theorem serves_of_madeOf {tokens : Tokens} {vaults : List Vault}
    {reported : List (Provider × Position)} {t : Tally} {r : Provider × Position}
    (h : t.MadeOf tokens vaults (positionsOf t.key reported))
    (hr : r ∈ positionsOf t.key reported) : Serves tokens vaults r t.vault := by
  obtain ⟨first, hfirst, -, -, hroute⟩ := h.opened
  have hmem : first ∈ positionsOf t.key reported := List.mem_of_mem_head? hfirst
  -- all of them have one key and the tokens of the tally
  obtain ⟨_, -, hkey⟩ := keyOf?_eq_some.1 (mem_positionsOf.1 hmem).2
  obtain ⟨_, -, hkey'⟩ := keyOf?_eq_some.1 (mem_positionsOf.1 hr).2
  have hchain := (congrArg Prod.fst hkey).symm.trans (congrArg Prod.fst hkey')
  have hsymbol := (h.symbols r hr).1.trans (h.symbols first hmem).1.symm
  exact serves_of_routesTo (Position.route_eq_ok.1 hroute) hchain hsymbol

/--
**No position is claimed by a wrong vault, and nothing is looked up on a wrong chain.**

If a report is accepted by configured tokens, each of its positions has a strategy in some claim.
The claim's vault is a controller's address, which a vault that has the currency of the position's
base token has under the position's chain. And the claim's name for the chain finds the same
decimals and currencies of all tokens, and the same entry of any chain table, as the position's.
-/
theorem served_of_aggregateClaims {tokens : Tokens} {vaults : List Vault}
    {providers : List Provider} {claims : List ClaimParam}
    (h : aggregateClaims tokens vaults providers = .ok claims) :
    ∀ r ∈ reportedPositions providers,
      (∃ p ∈ claims, ∃ s ∈ p.strategies, keyOf? r = some (Text.toLower p.chainName, s.address))
      ∧ ∀ p ∈ claims, ∀ s ∈ p.strategies, keyOf? r = some (Text.toLower p.chainName, s.address) →
        Serves tokens vaults r p.vault
        ∧ (∀ symbol, tokens.decimals? p.chainName symbol = tokens.decimals? r.1.chain symbol
          ∧ tokens.currency? p.chainName symbol = tokens.currency? r.1.chain symbol)
        ∧ ∀ chains : Chains, chains.get? p.chainName = chains.get? r.1.chain := by
  obtain ⟨tallies, htallies, rfl⟩ := map_eq_ok.1 h
  have hof := talliesOf_fold htallies
  intro r hr
  constructor
  · obtain ⟨key, hkey⟩ := (attributed_of_fold htallies r hr).1
    obtain ⟨t, ht, rfl⟩ := hof.exists_tally hr hkey
    obtain ⟨p, hp, hbucket, hs⟩ := exists_claim_of_mem ht
    have htkey := key_of_bucket (hof.chainKey t ht) hbucket
    exact ⟨p, hp, t.strategy, hs, hkey.trans (congrArg some htkey)⟩
  · intro p hp s hs hkey
    obtain ⟨_, -, hname⟩ := keyOf?_eq_some.1 hkey
    have hchain : Text.toLower p.chainName = Text.toLower r.1.chain := congrArg Prod.fst hname
    obtain ⟨t, ht, hbucket, rfl⟩ := exists_tally_of_mem hp hs
    rw [← key_of_bucket (hof.chainKey t ht) hbucket] at hkey
    have hserves := serves_of_madeOf (madeOf_fold htallies t ht) (mem_positionsOf.2 ⟨hr, hkey⟩)
    have hvault : t.vault = p.vault := congrArg Prod.fst hbucket
    exact ⟨hvault ▸ hserves,
      fun symbol => ⟨tokens.decimals?_eq_of_toLower hchain symbol,
        tokens.currency?_eq_of_toLower hchain symbol⟩,
      fun chains => chains.get?_eq_of_toLower hchain⟩

/-- Both spellings of the chain lead to the vault. -/
theorem served_of_aggregateClaims_twoSpellings :
    aggregateClaims twoTokens oneVault twoSpellings = .ok [twoSpellingsClaim]
      ∧ ∀ r ∈ reportedPositions twoSpellings, ∀ s ∈ twoSpellingsClaim.strategies,
        keyOf? r = some (Text.toLower twoSpellingsClaim.chainName, s.address) →
          Serves twoTokens oneVault r twoSpellingsClaim.vault :=
  ⟨aggregateClaims_twoSpellings, fun r hr s hs hkey =>
    ((served_of_aggregateClaims aggregateClaims_twoSpellings r hr).2 _ (List.mem_singleton_self _) s
      hs hkey).1⟩

end Treasury
