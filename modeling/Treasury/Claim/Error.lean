import Treasury.BaseUnits
import Treasury.Chain.Address

/-!
# Why claims cannot be made

The causes for which a report of positions is refused as a whole, and those for which a
claim cannot be turned into a call.
-/

namespace Treasury

/-- The two tokens of a position. -/
inductive Side where
  | base
  | quote
  deriving DecidableEq, Repr

/-- The word for a side. -/
def Side.name : Side → String
  | base => "base"
  | quote => "quote"

/-- The places where an address stands in a report. -/
inductive AddressField where
  | strategy
  | controller
  deriving DecidableEq, Repr

/-- The name of the field. -/
def AddressField.name : AddressField → String
  | strategy => "strategyAddress"
  | controller => "controllerAddress"

/-- Why a report of positions is refused. -/
inductive AggregationError where
  | missingStrategyAddress (chain : String) (index : UInt64)
  | invalidAddress (field : AddressField) (value : String)
  | negativeAmount (strategy : Address) (side : Side) (amount : Decimal)
  | symbolMismatch (chain : String) (strategy : Address) (expected found : String × String)
  | unknownCurrency (chain symbol : String)
  | vaultNotFound (chain symbol currency : String)
  | controllerNotFound (chain currency : String)
  | overflow (strategy : Address)
  deriving DecidableEq, Repr

/-- The sentence shown for an error. -/
def AggregationError.message : AggregationError → String
  | missingStrategyAddress chain index => s!"Position {index} on {chain} has no strategy address"
  | invalidAddress field value => s!"Invalid {field.name}: {value}"
  | negativeAmount strategy side amount =>
    s!"Negative {side.name} amount {amount} for strategy {strategy.checksummed}"
  | symbolMismatch chain strategy expected found =>
    s!"Strategy {strategy.checksummed} on {chain} reported as {found.1}/{found.2} " ++
      s!"after {expected.1}/{expected.2}"
  | unknownCurrency chain symbol => s!"No currency registered for {symbol} on {chain}"
  | vaultNotFound chain symbol currency =>
    s!"No vault manages currency {currency} (token {symbol} on {chain})"
  | controllerNotFound chain currency =>
    s!"Vault for currency {currency} has no controller on {chain}"
  | overflow strategy => s!"Accumulated amount for strategy {strategy.checksummed} overflows"

/-- Why a claim has no call. -/
inductive ClaimCallError where
  | unknownDecimals (chain symbol : String)
  | amount (symbol : String) (cause : BaseUnitsError)
  deriving DecidableEq, Repr

/-- The sentence shown for an error. -/
def ClaimCallError.message : ClaimCallError → String
  | unknownDecimals chain symbol => s!"No decimals registered for {symbol} on {chain}"
  | amount symbol _ => s!"Cannot convert {symbol} amount to base units"

end Treasury
