import Treasury.Alert.Notifier
import Treasury.Alert.Report
import Treasury.BaseUnits
import Treasury.Binary64
import Treasury.Chain.Abi
import Treasury.Chain.Address
import Treasury.Chain.Keccak
import Treasury.Claim.Aggregate
import Treasury.Claim.Call
import Treasury.Claim.Error
import Treasury.Claim.Param
import Treasury.Claim.Stage
import Treasury.Command.Line
import Treasury.Command.Run
import Treasury.Command.Usage
import Treasury.Decimal.Basic
import Treasury.Decimal.Text
import Treasury.Exchange
import Treasury.Gas
import Treasury.Json.Number
import Treasury.Json.Parse
import Treasury.Json.Read
import Treasury.Json.Scalar
import Treasury.Json.Syntax
import Treasury.Json.Token
import Treasury.Json.Value
import Treasury.Json.Versioned
import Treasury.Liquidity.Document
import Treasury.Liquidity.Snapshot
import Treasury.Liquidity.Source
import Treasury.Log
import Treasury.Main
import Treasury.Proofs.Alert.Delivery
import Treasury.Proofs.Claim.Chain
import Treasury.Proofs.Claim.Stage
import Treasury.Proofs.Claim.Sum
import Treasury.Proofs.Claim.Tally
import Treasury.Proofs.Decimal.Value
import Treasury.Proofs.Decimal.Normal
import Treasury.Proofs.Except
import Treasury.Proofs.Folds
import Treasury.Proofs.Gas
import Treasury.Proofs.Store.Claims
import Treasury.Proofs.Store.Leases
import Treasury.Proofs.Store.Queues
import Treasury.Proofs.Store.Tasks
import Treasury.Proofs.Store.Transfers
import Treasury.Proofs.Store.Workflows
import Treasury.Proofs.Text.Lowercase
import Treasury.Proofs.Text.NameMap
import Treasury.Proofs.Tick.Transfer
import Treasury.Proofs.Tick.Workflow
import Treasury.Proofs.World.Basic
import Treasury.Proofs.World.Claims
import Treasury.Proofs.World.Nonces
import Treasury.Proofs.World.Order
import Treasury.Proofs.World.Ticks
import Treasury.Registry.Chains
import Treasury.Registry.Tokens
import Treasury.Rounding
import Treasury.Settings.Basic
import Treasury.Settings.Host
import Treasury.Settings.Name.Basic
import Treasury.Settings.Name.Label
import Treasury.Settings.Name.Mapping
import Treasury.Settings.Name.MappingTable
import Treasury.Settings.Name.Punycode
import Treasury.Settings.Name.ScriptTable
import Treasury.Settings.Toml.Basic
import Treasury.Settings.Toml.Parse
import Treasury.Settings.Toml.Scalar
import Treasury.Settings.Toml.Text
import Treasury.Settings.Url
import Treasury.Store.Basic
import Treasury.Store.Cell
import Treasury.Store.Document
import Treasury.Store.Error
import Treasury.Store.Import
import Treasury.Store.Leases
import Treasury.Store.Numeral
import Treasury.Store.Stamp
import Treasury.Store.Table
import Treasury.Store.Tasks
import Treasury.Store.Transfers
import Treasury.Store.Workflows
import Treasury.Tag
import Treasury.Text.Blank
import Treasury.Text.CaseTable
import Treasury.Text.Composition
import Treasury.Text.CompositionTable
import Treasury.Text.Hex
import Treasury.Text.Lowercase
import Treasury.Text.NameMap
import Treasury.Text.Rows
import Treasury.Tick.Transfer
import Treasury.Tick.Workflow
import Treasury.Time
import Treasury.Transaction.Basic
import Treasury.Transfer.Basic
import Treasury.Word256
import Treasury.Workflow.Basic
import Treasury.Workflow.State
import Treasury.Proofs.Store.History
import Treasury.Proofs.World.History
import Treasury.Proofs.Store.Settlement
import Treasury.Proofs.World.Settlement
import Treasury.Proofs.Tick.Failure
import Treasury.Proofs.Decimal.Text
import Treasury.Proofs.Text.Hex
import Treasury.Proofs.BaseUnits
import Treasury.Proofs.Chain.Abi
import Treasury.Proofs.Claim.Call
import Treasury.Proofs.Claim.CallData
import Treasury.Proofs.Claim.Origin
import Treasury.Proofs.Claim.Gathering
import Treasury.Proofs.Claim.Partition
import Treasury.Proofs.Claim.Routing
import Treasury.Proofs.Claim.ChainNumber
import Treasury.Proofs.Claim.Acceptance
import Treasury.Proofs.Claim.Coverage
import Treasury.Proofs.Json.Parse
import Treasury.Proofs.Json.Read
import Treasury.Proofs.Claim.Param
import Treasury.Proofs.Claim.Record
import Treasury.Proofs.Params
import Treasury.Proofs.Store.OpenWorkflows
import Treasury.Proofs.World.SingleOpen
import Treasury.Proofs.Store.Submission
import Treasury.Proofs.World.Submission
import Treasury.Proofs.Store.OpenTransfers
import Treasury.Proofs.Tick.Alerts
import Treasury.Proofs.World.Alerts
import Treasury.Proofs.World.Deliveries
import Treasury.Proofs.Store.Exclusion
import Treasury.Proofs.Store.Params
import Treasury.Proofs.World.Params
import Treasury.Proofs.Store.Loading
import Treasury.Proofs.World.Batches
import Treasury.Proofs.Settings.Toml
import Treasury.Proofs.Settings.Accepted
import Treasury.Proofs.Store.Cell
import Treasury.Proofs.Store.Insertion
import Treasury.Proofs.Claim.Configured
import Treasury.Proofs.Decimal.Number
import Treasury.Proofs.Liquidity.Document
import Treasury.Proofs.Liquidity.Plain
import Treasury.Proofs.Liquidity.RoundTrip
import Treasury.Proofs.Claim.Amounts
import Treasury.Proofs.World.InTurn
import Treasury.Proofs.Claim.Spelling
import Treasury.Proofs.Store.Assignment
import Treasury.Proofs.Text.Small
import Treasury.Proofs.Registry
import Treasury.Proofs.Settings.Acceptance
import Treasury.Proofs.Store.Oldest
import Treasury.Proofs.Tick.Frame
import Treasury.Proofs.Tick.Strangers
import Treasury.Proofs.Tick.Verdict
import Treasury.Proofs.Tick.Poll
import Treasury.Proofs.Tick.Settlement
import Treasury.Proofs.Binary64
import Treasury.Proofs.Json.Numeral
import Treasury.Proofs.Json.Render
import Treasury.Proofs.Chain.Address
import Treasury.Proofs.Text.Lines
import Treasury.Proofs.Alert.Report
