import Treasury.Chain.Address
import Treasury.Text.Lowercase
import Treasury.Text.NameMap

/-!
# Chain table

The chains on which the treasury sends transactions, by the lower-case form of their names:
the number by which a chain is known, the bridge account that sends, and the gas it pays.
-/

namespace Treasury

/-- How transactions are sent on a chain. -/
structure ChainInfo where
  chainId : UInt64
  /-- The sender of every transaction. -/
  bridge : Address
  gasPrice : UInt64
  gasLimit : UInt64
  deriving DecidableEq, Repr

/-- Why a chain is refused. -/
inductive ChainFault where
  | noGas
  | repeated
  deriving DecidableEq, Repr

/-- The wording of a fault. -/
def ChainFault.message : ChainFault → String
  | noGas => "gas_limit must be positive"
  | repeated => "configured more than once"

/-- A chain is refused. -/
structure InvalidChain where
  chain : String
  fault : ChainFault
  deriving DecidableEq, Repr

/-- The sentence shown for an error. -/
def InvalidChain.message (e : InvalidChain) : String :=
  s!"invalid config for chain {e.chain}: {e.fault.message}"

/-- Chains by the lower-case form of their names. -/
structure Chains where
  byName : NameMap ChainInfo

namespace Chains

/-- No chains. -/
def empty : Chains := ⟨NameMap.empty⟩

/-- The chain called `name`, in whatever case. -/
def get? (chains : Chains) (name : String) : Option ChainInfo :=
  chains.byName.get? (Text.toLower name)

/-- The first chain, by name, with this number. -/
def findById? (chains : Chains) (id : UInt64) : Option (String × ChainInfo) :=
  chains.byName.find? fun entry => entry.2.chainId = id

/-- The table of a list of chains; of two of one name the later stays. -/
def ofList (entries : List (String × ChainInfo)) : Chains :=
  ⟨NameMap.ofList (entries.map fun entry => (Text.toLower entry.1, entry.2))⟩

/-- Adds one configured chain, which needs gas and a name of its own. -/
def add (chains : Chains) (entry : String × ChainInfo) : Except InvalidChain Chains :=
  if entry.2.gasLimit = 0 then .error ⟨entry.1, .noGas⟩
  else
    let name := Text.toLower entry.1
    if chains.byName.contains name then .error ⟨entry.1, .repeated⟩
    else .ok ⟨chains.byName.insert name entry.2⟩

/-- The table of the configured chains, which are taken in order of their names. -/
def ofConfigured (configured : NameMap ChainInfo) : Except InvalidChain Chains :=
  configured.entries.foldlM add empty

end Chains

end Treasury
