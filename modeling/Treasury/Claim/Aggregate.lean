import Treasury.Claim.Error
import Treasury.Claim.Param
import Treasury.Liquidity.Snapshot
import Treasury.Registry.Tokens
import Treasury.Text.Blank

/-!
# From positions to claims

The positions of a report are taken one by one. Positions of one strategy on one chain,
whatever the spelling of the chain's name, are summed into one tally; the first of them
decides which vault claims from the strategy. The tallies, in the order in which their
strategies were first seen, are then gathered by vault and chain into claims.

The first position that cannot be attributed, summed or routed refuses the whole report.
-/

namespace Treasury

/-- What is claimed from one strategy so far. -/
structure Tally where
  /-- The chain's name in lower case. -/
  chainKey : String
  /-- The chain's name as the first position spells it. -/
  chainName : String
  chainId : UInt64
  vault : Address
  strategy : Strategy
  deriving DecidableEq, Repr

namespace Tally

/-- True of the tally of a strategy on a chain. -/
def isFor (chainKey : String) (strategy : Address) (t : Tally) : Bool :=
  t.chainKey = chainKey ∧ t.strategy.address = strategy

end Tally

namespace Position

/-- The address in a field of a report, blanks aside. -/
def parseAddress (field : AddressField) (value : String) : Except AggregationError Address :=
  match FixedBytes.ofText? (Text.trim value) with
  | some address => .ok address
  | none => .error (.invalidAddress field value)

/-- The strategy a position names. -/
def strategyOn (p : Position) (chain : String) : Except AggregationError Address :=
  let named := (p.strategyAddress.map Text.trim).filter (· ≠ "")
  match named with
  | some value => parseAddress .strategy value
  | none => .error (.missingStrategyAddress chain p.index)

/-- Refuses an amount below zero. -/
def checkSign (strategy : Address) (side : Side) (amount : Decimal) :
    Except AggregationError Unit :=
  if amount.isNegative then .error (.negativeAmount strategy side amount) else .ok ()

/-- The vault that claims for `symbol` on `chain`: the controller on the chain of the first
vault of the symbol's currency. -/
def route (tokens : TokenRegistry) (vaults : List Vault) (chain symbol : String) :
    Except AggregationError Address :=
  match tokens.currency? chain symbol with
  | none => .error (.unknownCurrency chain symbol)
  | some currency =>
    match vaults.find? (·.currency = currency) with
    | none => .error (.vaultNotFound chain symbol currency)
    | some vault =>
      match vault.controller? chain with
      | none => .error (.controllerNotFound chain currency)
      | some controller => parseAddress .controller controller.address

/-- Adds the amounts of a position to its strategy, which has to have the same tokens. -/
def addTo (p : Position) (chain : String) (s : Strategy) : Except AggregationError Strategy :=
  if s.baseSymbol ≠ p.baseSymbol ∨ s.quoteSymbol ≠ p.quoteSymbol then
    .error (.symbolMismatch chain s.address (s.baseSymbol, s.quoteSymbol)
      (p.baseSymbol, p.quoteSymbol))
  else
    match s.baseAmount.add? p.baseAmount, s.quoteAmount.add? p.quoteAmount with
    | some base, some quote => .ok { s with baseAmount := base, quoteAmount := quote }
    | _, _ => .error (.overflow s.address)

/-- The strategy of a position that is the first to name it. -/
def asStrategy (p : Position) (address : Address) : Strategy :=
  ⟨address, p.baseSymbol, p.quoteSymbol, p.baseAmount, p.quoteAmount⟩

end Position

/-- Applies `f` to the first element of which `p` holds. -/
def modifyFirst {α ε : Type} (p : α → Bool) (f : α → Except ε α) : List α → Except ε (List α)
  | [] => .ok []
  | a :: rest =>
    if p a then (f a).map (· :: rest) else (modifyFirst p f rest).map (a :: ·)

/-- Takes one position of a provider into the tallies. -/
def tallyPosition (tokens : TokenRegistry) (vaults : List Vault) (tallies : List Tally)
    (reported : Provider × Position) : Except AggregationError (List Tally) := do
  let (provider, position) := reported
  let chainKey := Text.toLower provider.chain
  let strategy ← position.strategyOn provider.chain
  Position.checkSign strategy .base position.baseAmount
  Position.checkSign strategy .quote position.quoteAmount
  if tallies.any (Tally.isFor chainKey strategy) then
    modifyFirst (Tally.isFor chainKey strategy)
      (fun t => (position.addTo provider.chain t.strategy).map fun s => { t with strategy := s })
      tallies
  else
    let vault ← Position.route tokens vaults provider.chain position.baseSymbol
    return tallies ++
      [⟨chainKey, provider.chain, provider.chainId, vault, position.asStrategy strategy⟩]

/-- The positions of a report, each with its provider, in the order in which they stand. -/
def reportedPositions (providers : List Provider) : List (Provider × Position) :=
  providers.flatMap fun provider => provider.positions.map fun position => (provider, position)

/-- The tallies of a report. -/
def tallyAll (tokens : TokenRegistry) (vaults : List Vault) (providers : List Provider) :
    Except AggregationError (List Tally) :=
  (reportedPositions providers).foldlM (tallyPosition tokens vaults) []

/-- True of the claims a tally belongs to: those of its vault, on a chain of its name but for
the case of the letters from A to Z. -/
def ClaimParam.takes (t : Tally) (p : ClaimParam) : Bool :=
  p.vault = t.vault ∧ Text.equalIgnoringAsciiCase p.chainName t.chainName

/-- Puts a tally into the first claim it belongs to, or into a claim of its own. -/
def gather (t : Tally) : List ClaimParam → List ClaimParam
  | [] => [⟨t.chainId, t.chainName, t.vault, [t.strategy]⟩]
  | p :: rest =>
    if p.takes t then { p with strategies := p.strategies ++ [t.strategy] } :: rest
    else p :: gather t rest

/-- The claims of a list of tallies. -/
def gatherAll (tallies : List Tally) : List ClaimParam :=
  tallies.foldl (fun claims t => gather t claims) []

/-- The claims that a report asks for, one for each vault and chain. -/
def aggregateClaims (tokens : TokenRegistry) (vaults : List Vault) (providers : List Provider) :
    Except AggregationError (List ClaimParam) :=
  (tallyAll tokens vaults providers).map gatherAll

end Treasury
