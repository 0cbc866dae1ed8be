import Treasury.Json.Scalar

/-!
# Claims

What one vault claims in one call: the strategies it claims from, each with the amounts of
two tokens. A claim is kept as a document beside the call it was turned into, for people
to read.
-/

namespace Treasury

/-- The amounts to claim from one strategy contract. -/
structure Strategy where
  address : Address
  baseSymbol : String
  quoteSymbol : String
  baseAmount : Decimal
  quoteAmount : Decimal
  deriving DecidableEq, Repr

/-- Everything one vault claims on one chain. -/
structure ClaimParam where
  chainId : UInt64
  chainName : String
  vault : Address
  strategies : List Strategy
  deriving DecidableEq, Repr

open Json (Reader)

/-- Reads a strategy. -/
def Strategy.read : Reader Strategy := fun document => do
  let r ← Json.record "a strategy"
    ["strategy_address", "base_symbol", "quote_symbol", "base_amount", "quote_amount"] document
  let address ← r.required "strategy_address" Reader.address
  let baseSymbol ← r.required "base_symbol" Reader.text
  let quoteSymbol ← r.required "quote_symbol" Reader.text
  let baseAmount ← r.required "base_amount" Reader.decimal
  let quoteAmount ← r.required "quote_amount" Reader.decimal
  return ⟨address, baseSymbol, quoteSymbol, baseAmount, quoteAmount⟩

/-- Reads a claim. -/
def ClaimParam.read : Reader ClaimParam := fun document => do
  let r ← Json.record "a claim" ["chain_id", "chain_name", "vault_address", "strategies"]
    document
  let chainId ← r.required "chain_id" Reader.uint64
  let chainName ← r.required "chain_name" Reader.text
  let vault ← r.required "vault_address" Reader.address
  let strategies ← r.required "strategies" (Reader.list Strategy.read)
  return ⟨chainId, chainName, vault, strategies⟩

/-- Writes a strategy. -/
def Strategy.toJson (s : Strategy) : Json :=
  .object [("strategy_address", s.address.toJson), ("base_symbol", .text s.baseSymbol),
    ("quote_symbol", .text s.quoteSymbol), ("base_amount", s.baseAmount.toJson),
    ("quote_amount", s.quoteAmount.toJson)]

/-- Writes a claim. -/
def ClaimParam.toJson (p : ClaimParam) : Json :=
  .object [("chain_id", .word p.chainId), ("chain_name", .text p.chainName),
    ("vault_address", p.vault.toJson), ("strategies", .array (p.strategies.map Strategy.toJson))]

end Treasury
