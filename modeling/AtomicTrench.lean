import AtomicTrench.Solana.Runtime
import AtomicTrench.Executor.Wire
import AtomicTrench.Executor.Guards
import AtomicTrench.Executor.Process
import AtomicTrench.Executor.Run
import AtomicTrench.Executor.Capital
import AtomicTrench.Encoder.Build
import AtomicTrench.Solana.Ledger
import AtomicTrench.Settlement.RoundTrip
import AtomicTrench.Settlement.Accounting
import AtomicTrench.Shadow.DirectRoute
import AtomicTrench.Settlement.WalletNet
import AtomicTrench.Coordination.Provenance
import AtomicTrench.LiveLoop.LockCalls
import AtomicTrench.LiveLoop.DailyLoss
import AtomicTrench.Coordination.ShadowDirect
import AtomicTrench.Lib.Rounding
import AtomicTrench.Watchers.Transaction
import AtomicTrench.StrategyLoop.Frame
import AtomicTrench.StrategyLoop.Positions
import AtomicTrench.StrategyLoop.Sales
import AtomicTrench.StrategyLoop.Tracking
import AtomicTrench.StrategyLoop.Drawdown
import AtomicTrench.StrategyLoop.Sizing
import AtomicTrench.StrategyLoop.Reserve
import AtomicTrench.Watchers.HotFlow
import AtomicTrench.Watchers.Momentum
import AtomicTrench.Watchers.CopyTrade
import AtomicTrench.Executor.Canonical
import AtomicTrench.LiveLoop.Gate
import AtomicTrench.Coordination.Operator
import AtomicTrench.Coordination.Runtime
import AtomicTrench.StrategyLoop.SignalCap
import AtomicTrench.Lib.Occurs
import AtomicTrench.StrategyLoop.ExitRule
import AtomicTrench.Settlement.BuyToken
import AtomicTrench.Sniper.Instruction
import AtomicTrench.Sniper.Scorer
import AtomicTrench.Sniper.CreatorCache
import AtomicTrench.Sniper.PumpSniper
import AtomicTrench.Risk
import AtomicTrench.Watchers.Balances
import AtomicTrench.Detector.Reference
import AtomicTrench.Detector.Attribution
import AtomicTrench.Detector.Sales
import AtomicTrench.Watchers.Processing
import AtomicTrench.Detector.Watcher
import AtomicTrench.Sniper.CreatorLayout
import AtomicTrench.Encoder.DynamicOffset
import AtomicTrench.Settlement.BuyFunding
import AtomicTrench.Lib.Binary64
import AtomicTrench.Settlement.Payload
import AtomicTrench.LiveLoop.SlotWindow
import AtomicTrench.Config.Values
import AtomicTrench.Config.Load
import AtomicTrench.Config.FailClosed
import AtomicTrench.LiveLoop.CapitalAtRisk
import AtomicTrench.Coordination.Promotion
import AtomicTrench.StrategyLoop.TradeLog
import AtomicTrench.StrategyLoop.BuyOnce
import AtomicTrench.Coordination.LockText
import AtomicTrench.Coordination.EvidenceText
import AtomicTrench.Coordination.RuntimeState
import AtomicTrench.ShadowLoop.Observed
import AtomicTrench.StrategyLoop.Threads
import AtomicTrench.ShadowLoop.Sources
import AtomicTrench.LiveLoop.RawAnswers
