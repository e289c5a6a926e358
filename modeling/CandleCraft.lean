import CandleCraft.Kernel.Table
import CandleCraft.Kernel.Transition
import CandleCraft.Kernel.Grid
import CandleCraft.Kernel.Scan
import CandleCraft.Kernel.Text
import CandleCraft.Kernel.Decimal
import CandleCraft.Kernel.DecimalText
import CandleCraft.Kernel.Numeral
import CandleCraft.Kernel.AsyncLock
import CandleCraft.Kernel.Bounded
import CandleCraft.Kernel.Greedy
import CandleCraft.Kernel.RankBounds
import CandleCraft.Kernel.Window
import CandleCraft.Kernel.Drawdown
import CandleCraft.Kernel.Json
import CandleCraft.Kernel.NumeralText
import CandleCraft.Basic
import CandleCraft.Outbox.Schema
import CandleCraft.Outbox.Ownership
import CandleCraft.Outbox.Operations
import CandleCraft.Outbox.Ledger
import CandleCraft.Outbox.Simulation
import CandleCraft.Outbox.Intent
import CandleCraft.Outbox.Delivery
import CandleCraft.Outbox.Fence
import CandleCraft.Outbox.Terminal
import CandleCraft.Outbox.Projection
import CandleCraft.Outbox.Protocol
import CandleCraft.Outbox.Evidence
import CandleCraft.Outbox.Lease
import CandleCraft.Outbox.MessageParts
import CandleCraft.Outbox.ClaimBudget
import CandleCraft.Outbox.Payload
import CandleCraft.Microstructure.OrderBook
import CandleCraft.Microstructure.Liquidity
import CandleCraft.Microstructure.BookInvariant
import CandleCraft.Microstructure.BookRefinement
import CandleCraft.Microstructure.BookReport
import CandleCraft.Microstructure.Flow
import CandleCraft.Microstructure.FlowBuckets
import CandleCraft.Microstructure.FlowCoverage
import CandleCraft.Microstructure.FlowTotals
import CandleCraft.Microstructure.Subscriptions
import CandleCraft.Microstructure.StreamEvidence
import CandleCraft.Candles.Integrity
import CandleCraft.Candles.Values
import CandleCraft.Plan.TradePlan
import CandleCraft.Plan.Levels
import CandleCraft.Lifecycle.Record
import CandleCraft.Lifecycle.PlanIdentity
import CandleCraft.Lifecycle.StoredGeometry
import CandleCraft.Lifecycle.Observation
import CandleCraft.Lifecycle.StateMachine
import CandleCraft.Lifecycle.Progress
import CandleCraft.Lifecycle.Proposals
import CandleCraft.Lifecycle.PlanLock
import CandleCraft.Lifecycle.Confirmation
import CandleCraft.Lifecycle.Outcome
import CandleCraft.Lifecycle.CandleStep
import CandleCraft.Lifecycle.Evaluation
import CandleCraft.Lifecycle.Window
import CandleCraft.Lifecycle.PlanRun
import CandleCraft.Lifecycle.MilestoneOrder
import CandleCraft.Lifecycle.Admission
import CandleCraft.Lifecycle.Service
import CandleCraft.Lifecycle.Managed
import CandleCraft.Lifecycle.EconomicIdentity
import CandleCraft.Lifecycle.PlanVersionBinding
import CandleCraft.Lifecycle.PublicPlan
import CandleCraft.Lifecycle.BreakevenOutcome
import CandleCraft.Lifecycle.Decay
import CandleCraft.Lifecycle.EventLog
import CandleCraft.Lifecycle.Legality
import CandleCraft.Analytics.EdgeMetrics
import CandleCraft.Analytics.PerformanceMemory
import CandleCraft.MarketData.CandleCache
import CandleCraft.MarketData.SharedFetch
import CandleCraft.MarketData.Provenance
import CandleCraft.MarketData.SingleFlight
import CandleCraft.MarketData.CacheValues
import CandleCraft.Portfolio.Selection
import CandleCraft.Portfolio.Limits
import CandleCraft.Strategy.Fibonacci
import CandleCraft.Strategy.StructureShift
import CandleCraft.Strategy.Repaint
import CandleCraft.Strategy.Mirror
import CandleCraft.Strategy.FairValueGap
import CandleCraft.Strategy.ProtectedStop
import CandleCraft.Strategy.SelectiveTarget
import CandleCraft.Strategy.LiquidityLevels
import CandleCraft.Replay.Simulation
import CandleCraft.Replay.History
import CandleCraft.Replay.SymbolReplay
import CandleCraft.Replay.Summary
import CandleCraft.Universe.Qualification
import CandleCraft.Universe.CohortRanks
import CandleCraft.Universe.BoundaryRanks
import CandleCraft.Runtime.Worker
import CandleCraft.Runtime.LifecycleWorker
import CandleCraft.Runtime.DiskWorker
import CandleCraft.Runtime.Waiting
import CandleCraft.Runtime.Origins
import CandleCraft.Cmc.Credits
import CandleCraft.Cmc.Pages
