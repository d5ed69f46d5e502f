import IpoOne.Lib.Fallible
import IpoOne.Lib.Rounding
import IpoOne.Lib.Run
import IpoOne.Lib.Evm
import IpoOne.Pool.Math
import IpoOne.Pool.Storage
import IpoOne.Pool.Contract
import IpoOne.Pool.Book
import IpoOne.Pool.Effect
import IpoOne.Pool.Invariant
import IpoOne.Pool.Claim
import IpoOne.Pool.Fairness
import IpoOne.Domain.Errors
import IpoOne.Domain.Validators
import IpoOne.Domain.StableSerialize
import IpoOne.Pool.Reference
import IpoOne.Pool.Rate
import IpoOne.Pool.Positions
import IpoOne.Pool.Limits
import IpoOne.Pool.Windows
import IpoOne.Pool.CatchUp
import IpoOne.Pool.Oracle
import IpoOne.Lib.InsertionMap
import IpoOne.Lib.PrefixCode
import IpoOne.Lib.Throwing
import IpoOne.Indexer.Projection
import IpoOne.Indexer.Abi
import IpoOne.Indexer.Payload
import IpoOne.Indexer.Digest
import IpoOne.Indexer.Observation
import IpoOne.Indexer.Engine
import IpoOne.Indexer.Reconcile
import IpoOne.Indexer.System
import IpoOne.Indexer.Refinement
import IpoOne.Indexer.Atomicity
import IpoOne.Indexer.Freeze
import IpoOne.Indexer.Order
import IpoOne.Indexer.Exposure
import IpoOne.Indexer.Debt
import IpoOne.Credit.Record
import IpoOne.Credit.Schedule
import IpoOne.Credit.Ledger
import IpoOne.Credit.PoolEffect
import IpoOne.Credit.Import
import IpoOne.Credit.PoolLedger
import IpoOne.Credit.SourceOrder
import IpoOne.Credit.Sandbox
import IpoOne.Credit.SandboxSystem
import IpoOne.Credit.Conservation
import IpoOne.Credit.Servicing
import IpoOne.Credit.Accrual
import IpoOne.Credit.Additivity
import IpoOne.Credit.Cure
import IpoOne.Credit.Decision
import IpoOne.Trading.Facility
import IpoOne.Trading.System
import IpoOne.Trading.Invariant
import IpoOne.Trading.Progress
import IpoOne.Hyperliquid.Waterfall
import IpoOne.Hyperliquid.Settlement
import IpoOne.Hyperliquid.SettlementService
import IpoOne.Hyperliquid.Posting
import IpoOne.Hyperliquid.Dividing
import IpoOne.Hyperliquid.Revocation
import IpoOne.Hyperliquid.Prepare
import IpoOne.Hyperliquid.Funding
import IpoOne.Hyperliquid.FundingRepository
import IpoOne.Hyperliquid.FundingRuns
import IpoOne.Lib.MessagePack
import IpoOne.Lib.NumberText
import IpoOne.Lib.JsonText
import IpoOne.Hypercore.OfficialSigning
import IpoOne.Ledger.Service
import IpoOne.Ledger.Integrity
import IpoOne.Authorization.MandateService
import IpoOne.Authorization.Utilization
import IpoOne.AbuseControl.QuotaStore
import IpoOne.AbuseControl.Moves
import IpoOne.AbuseControl.Capacity
import IpoOne.AbuseControl.Commands
import IpoOne.AbuseControl.Windows
import IpoOne.SpendPolicy.Service
import IpoOne.SpendPolicy.Reserved
import IpoOne.Rail.TransferIntent
import IpoOne.Rail.EventRepository
import IpoOne.Rail.Service
import IpoOne.Rail.Streams
import IpoOne.Rail.Calls
import IpoOne.Rail.Interleaving
import IpoOne.Rail.Settlement
import IpoOne.Rail.Spend
import IpoOne.Approval.Repository
import IpoOne.Approval.BreakGlass
import IpoOne.Approval.BreakGlassService
import IpoOne.Approval.Incidents
import IpoOne.Approval.Bounded
import IpoOne.Lib.Amendments
import IpoOne.Metered.Evidence
import IpoOne.Metered.Handler
import IpoOne.Metered.Admission
import IpoOne.Metered.Accounting
import IpoOne.Metered.Agreement
import IpoOne.Metered.CreditBound
import IpoOne.Metered.Corrections
import IpoOne.Reconciliation.Record
import IpoOne.Reconciliation.Transition
import IpoOne.Reconciliation.Repository
import IpoOne.Reconciliation.Accounting
import IpoOne.Reconciliation.Breaker
import IpoOne.Reconciliation.Honest
import IpoOne.Reconciliation.Service
import IpoOne.RiskGuardian.Protection
import IpoOne.Execution.Record
import IpoOne.Execution.Repository
import IpoOne.Execution.Gateway
import IpoOne.Execution.Interleaving
import IpoOne.Execution.Guarded
