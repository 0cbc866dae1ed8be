import Treasury.Chain.Address
import Treasury.Decimal.Basic
import Treasury.Text.Lowercase
import Treasury.Text.NameMap

/-!
# Liquidity snapshots

What the data provider reports: the open positions, grouped by the token of the pool they
are in, and the vaults of the treasury with a controller contract on each chain.
-/

namespace Treasury

/-- The least amount of a token that is worth moving. -/
structure Threshold where
  tokenAddress : String
  tokenSymbol : String
  chain : String
  chainId : UInt64
  amount : Decimal
  decimal : UInt8
  deriving DecidableEq, Repr

/-- One position in a pool. -/
structure Position where
  index : UInt64
  poolAmount : Option Decimal
  baseAddress : String
  quoteAddress : String
  baseSymbol : String
  quoteSymbol : String
  baseAmount : Decimal
  quoteAmount : Decimal
  /-- The contract that holds the funds of the position. -/
  strategyAddress : Option String
  deriving DecidableEq, Repr

/-- The positions held in one pool token on one chain. -/
structure Provider where
  chain : String
  chainId : UInt64
  poolSymbol : String
  poolAmount : Option Decimal
  poolAddress : String
  platform : String
  positions : List Position
  deriving DecidableEq, Repr

/-- The contract of a vault on one chain. -/
structure Controller where
  amount : Option Decimal
  address : String
  deriving DecidableEq, Repr

/-- A vault, with its controllers by chain name. -/
structure Vault where
  tokenSymbol : String
  chain : String
  currency : String
  controllers : NameMap Controller
  deriving DecidableEq

/-- The controller on `chain`: the one filed under exactly this name, or else the first, by
name, that differs only in the case of the letters from A to Z. -/
def Vault.controller? (vault : Vault) (chain : String) : Option Controller :=
  (vault.controllers.get? chain).orElse fun _ =>
    (vault.controllers.find? fun entry =>
      Text.equalIgnoringAsciiCase entry.1 chain).map (·.2)

/-- Everything the provider reports at one time. -/
structure Snapshot where
  thresholds : List Threshold
  vaults : List Vault
  providers : List Provider
  deriving DecidableEq

/-- A report of nothing. -/
def Snapshot.empty : Snapshot := ⟨[], [], []⟩

end Treasury
