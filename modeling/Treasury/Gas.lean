import Treasury.Registry.Chains
import Treasury.Store.Tasks

/-!
# Nonces and gas

A sender's transactions on a chain are numbered without gaps. A batch continues after the
highest nonce that the store holds for the sender; within the batch each draft takes the
next. Gas comes from the chain table. The nonces are only read here: if somebody else stores
a batch of the same sender first, storing this one is refused.
-/

namespace Treasury

/-- Why a batch cannot be prepared. -/
inductive AssignError where
  | unknownChain (chainId : UInt64) (chainName : String)
  | nonceOverflow (chainId : UInt64) (sender : Address)
  | store (error : StoreError)
  deriving DecidableEq, Repr

/-- The sentence shown for an error. -/
def AssignError.message : AssignError → String
  | unknownChain chainId chainName => s!"No chain configured with id {chainId} ({chainName})"
  | nonceOverflow chainId sender =>
    s!"Nonce space exhausted for {sender.checksummed} on chain {chainId}"
  | store error => error.message

/-- One queue of transactions: a chain and a sender on it. -/
abbrev Queue := UInt64 × Address

/-- The queue of a draft. -/
def Draft.queue (d : Draft) : Queue := (d.chainId, d.sender)

/-- The number after `n`; the last number stays. -/
def nextNonce (n : UInt64) : UInt64 := if n.toNat + 1 < UInt64.size then n + 1 else n

namespace Store

/-- The nonce with which a queue goes on after what the store holds. -/
def freshNonce (s : Store) (queue : Queue) : Except AssignError UInt64 :=
  match s.highestNonce queue.1 queue.2 with
  | .error e => .error (.store e)
  | .ok none => .ok 0
  | .ok (some highest) =>
    if highest.toNat + 1 < UInt64.size then .ok (highest + 1)
    else .error (.nonceOverflow queue.1 queue.2)

end Store

/-- A way to give out nonces and gas. -/
structure GasAssigner where
  /-- Prepares a batch, in its order, looking at what the store holds. -/
  assign : Chains → Store → List Draft → Except AssignError (List Prepared)

namespace GasAssigner

/-- The nonce of the next draft of a queue. `next` holds the queues that the batch has come to,
and `fresh` says how any other goes on. -/
def nonceFor (fresh : Queue → Except AssignError UInt64) (next : List (Queue × UInt64))
    (queue : Queue) : Except AssignError UInt64 :=
  match next.lookup queue with
  | some nonce => .ok nonce
  | none => fresh queue

/-- Prepares the rest of a batch. -/
def assignFrom (fresh : Queue → Except AssignError UInt64) (chains : Chains)
    (next : List (Queue × UInt64)) : List Draft → Except AssignError (List Prepared)
  | [] => .ok []
  | d :: rest => do
    match chains.findById? d.chainId with
    | none => .error (.unknownChain d.chainId d.chainName)
    | some (_, chain) =>
      let nonce ← nonceFor fresh next d.queue
      let prepared ← assignFrom fresh chains ((d.queue, nextNonce nonce) :: next) rest
      return ⟨d, ⟨nonce, Word256.ofUInt64 chain.gasPrice, chain.gasLimit⟩⟩ :: prepared

/-- Each queue goes on as `fresh` has found it, and the gas is that of each chain. -/
def continuing (fresh : Queue → Except AssignError UInt64) : GasAssigner where
  assign chains _ drafts := assignFrom fresh chains [] drafts

/-- The next nonces of each queue, and the gas of each chain. -/
def sequential : GasAssigner where
  assign chains s drafts := (continuing s.freshNonce).assign chains s drafts

/-- The same for every draft. -/
def fixed (assignment : GasAssignment) : GasAssigner where
  assign _ _ drafts := .ok (drafts.map fun d => ⟨d, assignment⟩)

end GasAssigner

end Treasury
