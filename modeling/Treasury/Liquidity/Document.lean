import Treasury.Json.Scalar
import Treasury.Liquidity.Snapshot

/-!
# Snapshots as documents

The format in which the data provider reports. Reading lets the provider leave out what has
a default; writing gives every field.
-/

namespace Treasury

open Json (Record Reader Mismatch)

/-! ## Reading -/

/-- Reads a threshold. -/
def Threshold.read : Reader Threshold := fun document => do
  let r ← Json.record "a threshold"
    ["tokenAddress", "tokenSymbol", "chain", "chainId", "thresholdAmount", "decimal"] document
  let tokenAddress ← r.required "tokenAddress" Reader.text
  let tokenSymbol ← r.required "tokenSymbol" Reader.text
  let chain ← r.required "chain" Reader.text
  let chainId ← r.required "chainId" Reader.uint64
  let amount ← r.required "thresholdAmount" Reader.decimal
  let decimal ← r.required "decimal" Reader.uint8
  return ⟨tokenAddress, tokenSymbol, chain, chainId, amount, decimal⟩

/-- Reads a position. -/
def Position.read : Reader Position := fun document => do
  let r ← Json.record "a position"
    ["lpIndex", "lpAmount", "baseTokenAddress", "quoteTokenAddress", "baseTokenSymbol",
      "quoteTokenSymbol", "baseTokenAmount", "quoteTokenAmount", "strategyAddress"] document
  let index ← r.required "lpIndex" Reader.uint64
  let poolAmount ← r.withDefault "lpAmount" (Reader.option Reader.decimal) none
  let baseAddress ← r.withDefault "baseTokenAddress" Reader.text ""
  let quoteAddress ← r.withDefault "quoteTokenAddress" Reader.text ""
  let baseSymbol ← r.required "baseTokenSymbol" Reader.text
  let quoteSymbol ← r.required "quoteTokenSymbol" Reader.text
  let baseAmount ← r.required "baseTokenAmount" Reader.decimal
  let quoteAmount ← r.required "quoteTokenAmount" Reader.decimal
  let strategyAddress ← r.withDefault "strategyAddress" (Reader.option Reader.text) none
  return ⟨index, poolAmount, baseAddress, quoteAddress, baseSymbol, quoteSymbol, baseAmount,
    quoteAmount, strategyAddress⟩

/-- Reads a provider. -/
def Provider.read : Reader Provider := fun document => do
  let r ← Json.record "a provider"
    ["chain", "chainId", "lpSymbol", "lpAmount", "lpTokenAddress", "lpPlatform", "lpInfoList"]
    document
  let chain ← r.required "chain" Reader.text
  let chainId ← r.required "chainId" Reader.uint64
  let poolSymbol ← r.withDefault "lpSymbol" Reader.text ""
  let poolAmount ← r.withDefault "lpAmount" (Reader.option Reader.decimal) none
  let poolAddress ← r.withDefault "lpTokenAddress" Reader.text ""
  let platform ← r.withDefault "lpPlatform" Reader.text ""
  let positions ← r.withDefault "lpInfoList" (Reader.list Position.read) []
  return ⟨chain, chainId, poolSymbol, poolAmount, poolAddress, platform, positions⟩

/-- Reads a controller. -/
def Controller.read : Reader Controller := fun document => do
  let r ← Json.record "a controller" ["amount", "controllerAddress"] document
  let amount ← r.withDefault "amount" (Reader.option Reader.decimal) none
  let address ← r.required "controllerAddress" Reader.text
  return ⟨amount, address⟩

/-- Reads a vault. -/
def Vault.read : Reader Vault := fun document => do
  let r ← Json.record "a vault" ["tokenSymbol", "chain", "currency", "activeAmount"]
    document
  let tokenSymbol ← r.required "tokenSymbol" Reader.text
  let chain ← r.withDefault "chain" Reader.text ""
  let currency ← r.required "currency" Reader.text
  let controllers ← r.withDefault "activeAmount" (Reader.map Controller.read) NameMap.empty
  return ⟨tokenSymbol, chain, currency, controllers⟩

/-- Reads a snapshot. -/
def Snapshot.read : Reader Snapshot := fun document => do
  let r ← Json.record "a snapshot"
    ["threshold", "vaultInfoList", "liquidityProviderList"] document
  let thresholds ← r.withDefault "threshold" (Reader.list Threshold.read) []
  let vaults ← r.withDefault "vaultInfoList" (Reader.list Vault.read) []
  let providers ← r.withDefault "liquidityProviderList" (Reader.list Provider.read) []
  return ⟨thresholds, vaults, providers⟩

/-! ## Writing -/

/-- An amount that may be absent. -/
def optionalAmount : Option Decimal → Json
  | some amount => amount.toJson
  | none => .null

/-- Writes a threshold. -/
def Threshold.toJson (t : Threshold) : Json :=
  .object [("tokenAddress", .text t.tokenAddress), ("tokenSymbol", .text t.tokenSymbol),
    ("chain", .text t.chain), ("chainId", .word t.chainId),
    ("thresholdAmount", t.amount.toJson), ("decimal", .int t.decimal.toNat)]

/-- Writes a position. -/
def Position.toJson (p : Position) : Json :=
  .object [("lpIndex", .word p.index), ("lpAmount", optionalAmount p.poolAmount),
    ("baseTokenAddress", .text p.baseAddress), ("quoteTokenAddress", .text p.quoteAddress),
    ("baseTokenSymbol", .text p.baseSymbol), ("quoteTokenSymbol", .text p.quoteSymbol),
    ("baseTokenAmount", p.baseAmount.toJson), ("quoteTokenAmount", p.quoteAmount.toJson),
    ("strategyAddress", match p.strategyAddress with | some a => .text a | none => .null)]

/-- Writes a provider. -/
def Provider.toJson (p : Provider) : Json :=
  .object [("chain", .text p.chain), ("chainId", .word p.chainId),
    ("lpSymbol", .text p.poolSymbol), ("lpAmount", optionalAmount p.poolAmount),
    ("lpTokenAddress", .text p.poolAddress), ("lpPlatform", .text p.platform),
    ("lpInfoList", .array (p.positions.map Position.toJson))]

/-- Writes a controller. -/
def Controller.toJson (c : Controller) : Json :=
  .object [("amount", optionalAmount c.amount), ("controllerAddress", .text c.address)]

/-- Writes a vault. -/
def Vault.toJson (v : Vault) : Json :=
  .object [("tokenSymbol", .text v.tokenSymbol), ("chain", .text v.chain),
    ("currency", .text v.currency),
    ("activeAmount",
      .object (v.controllers.entries.map fun entry => (entry.1, entry.2.toJson)))]

/-- Writes a snapshot. -/
def Snapshot.toJson (s : Snapshot) : Json :=
  .object [("threshold", .array (s.thresholds.map Threshold.toJson)),
    ("vaultInfoList", .array (s.vaults.map Vault.toJson)),
    ("liquidityProviderList", .array (s.providers.map Provider.toJson))]

end Treasury
