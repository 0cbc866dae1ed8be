import Treasury.Tag

/-!
# States of a rebalance workflow

A workflow passes through its stages in one direction. It may fail from every open state,
and it never leaves success or failure.
-/

namespace Treasury

/-- Where a workflow stands. -/
inductive WorkflowState where
  | init
  | claimLp
  | marginBalanceTransferOut
  | success
  | failed
  deriving DecidableEq, Repr

namespace WorkflowState

/-- Every state. -/
def all : List WorkflowState := [init, claimLp, marginBalanceTransferOut, success, failed]

/-- The word for a state. -/
def tag : WorkflowState → String
  | init => "init"
  | claimLp => "claim_lp"
  | marginBalanceTransferOut => "margin_balance_transfer_out"
  | success => "success"
  | failed => "failed"

/-- The state a word stands for. -/
def ofTag (value : String) : Except UnknownTag WorkflowState :=
  findTag "rebalance state" tag all value

/-- True of the states that are never left. -/
def isTerminal : WorkflowState → Bool
  | success | failed => true
  | _ => false

/-- How far along a state is. -/
def position : WorkflowState → Nat
  | init => 0
  | claimLp => 1
  | marginBalanceTransferOut => 2
  | success | failed => 3

/-- True if a workflow may go from one state to the next: it may stay, fail while it is open,
or move forward. -/
def canMoveTo (state next : WorkflowState) : Bool :=
  if state = next then true
  else if state.isTerminal then false
  else next = failed ∨ state.position < next.position

end WorkflowState

/-! ## What is done in each state -/

/-- The stages that are carried out here. -/
inductive Stage where
  | claimLp
  deriving DecidableEq, Repr

/-- The word for a stage. -/
def Stage.name : Stage → String
  | claimLp => "claim_lp"

/-- What is done with a workflow. -/
inductive Dispatch where
  | execute (stage : Stage)
  | checkFinished (stage : Stage)
  /-- Nothing: somebody else carries on, or nobody. -/
  | unhandled
  deriving DecidableEq, Repr

/-- What is done with a workflow in a state. -/
def WorkflowState.dispatch : WorkflowState → Dispatch
  | init => .execute .claimLp
  | claimLp => .checkFinished .claimLp
  | marginBalanceTransferOut | success | failed => .unhandled

end Treasury
