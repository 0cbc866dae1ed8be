import Treasury.Transaction.Basic
import Treasury.Workflow.Basic

/-!
# Stage reports

What operators are told about a stage: the workflow it belongs to and, line by line, its
transactions.
-/

namespace Treasury

/-- One transaction of a report. -/
structure ReportedTransaction where
  type : TransactionType
  nonce : UInt64
  gasPrice : String
  gasLimit : UInt64
  /-- What the transaction does: its parameters as text. -/
  amount : String
  chainId : UInt64
  chainName : String
  sender : String
  receiver : String
  deriving DecidableEq, Repr

/-- A transaction as a report shows it. -/
def Prepared.reported (p : Prepared) : ReportedTransaction where
  type := p.draft.type
  nonce := p.gas.nonce
  gasPrice := p.gas.gasPrice.toText
  gasLimit := p.gas.gasLimit
  amount := p.draft.params.render
  chainId := p.draft.chainId
  chainName := p.draft.chainName
  sender := p.draft.sender.checksummed
  receiver := p.draft.receiver.checksummed

/-- What is reported about a stage. -/
structure StageReport where
  stage : String
  workflowId : Int
  workflowParams : String
  transactions : List ReportedTransaction
  deriving DecidableEq, Repr

/-- The report of a stage of a workflow. -/
def StageReport.ofWorkflow (stage : String) (w : Workflow) (transactions : List Prepared) :
    StageReport :=
  ⟨stage, w.id, w.params.toText, transactions.map Prepared.reported⟩

/-- The line that closes each transaction. -/
def separator : String := "--------------------"

/-- The lines of a transaction. -/
def ReportedTransaction.lines (t : ReportedTransaction) : List String :=
  [s!"type: {t.type.tag}", s!"nonce: {t.nonce}", s!"gas_price: {t.gasPrice}",
    s!"gas_limit: {t.gasLimit}", s!"amount: {t.amount}", s!"chain_id: {t.chainId}",
    s!"chain_name: {t.chainName}", s!"from: {t.sender}", s!"to: {t.receiver}", separator]

/-- The lines of a report. -/
def StageReport.lines (r : StageReport) : List String :=
  [s!"stage: {r.stage}", s!"workflow_id: {r.workflowId}",
    s!"workflow_params: {r.workflowParams}"] ++ r.transactions.flatMap ReportedTransaction.lines

/-- The text of a report; every line is ended. -/
def StageReport.render (r : StageReport) : String :=
  String.join (r.lines.map (· ++ "\n"))

end Treasury
