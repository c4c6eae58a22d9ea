import TradingAdvisor.Lib.Rounding
import TradingAdvisor.Lib.Transition
import TradingAdvisor.Lib.Binary64
import TradingAdvisor.Lib.AgreeOff
import TradingAdvisor.Lib.Newest
import TradingAdvisor.MarketData.Reconnect
import TradingAdvisor.MarketData.Transport
import TradingAdvisor.MarketData.TransportRuns
import TradingAdvisor.MarketData.Subscriptions
import TradingAdvisor.MarketData.OrderBookSoundness
import TradingAdvisor.MarketData.Resync
import TradingAdvisor.Flow.OrderBookCoverage
import TradingAdvisor.Diversification.WorstCaseDay
import TradingAdvisor.Orchestration.NettingIssuance
import TradingAdvisor.Orchestration.PositionClaims
import TradingAdvisor.Decision.HighImpactEventGate
import TradingAdvisor.Decision.NextSafeTime
import TradingAdvisor.Production.Bootstrap
import TradingAdvisor.Production.EventGate
import TradingAdvisor.Production.OwnContours
import TradingAdvisor.Mt5.DealClock
import TradingAdvisor.MarketEvaluation.Supervisor
import TradingAdvisor.Core.Text
import TradingAdvisor.Flow.FlowContour
import TradingAdvisor.Technical.TechnicalContour
import TradingAdvisor.Lib.Windows
import TradingAdvisor.Telegram.Rendering
import TradingAdvisor.Lib.RevisionLog
import TradingAdvisor.ExternalIntelligence.Histories
import TradingAdvisor.Lib.OrderFree
import TradingAdvisor.ExternalIntelligence.Trends
import TradingAdvisor.MarketData.TakerFlow
import TradingAdvisor.Technical.CandleHistory
import TradingAdvisor.Technical.CandleStore
import TradingAdvisor.Technical.Oscillators
import TradingAdvisor.Technical.StructureFeatures
import TradingAdvisor.Technical.Indicators
import TradingAdvisor.Technical.MarketStructure
import TradingAdvisor.Technical.Analysts
import TradingAdvisor.Technical.Mirror
import TradingAdvisor.Technical.MirrorStructure
import TradingAdvisor.Technical.NoRepaint
import TradingAdvisor.MarketData.H4Synthesis
import TradingAdvisor.Technical.Coherence
import TradingAdvisor.ExternalIntelligence.NewsSentiment
import TradingAdvisor.Judge.Verdict
import TradingAdvisor.Judge.Judge
import TradingAdvisor.Judge.OwnVerdicts
import TradingAdvisor.MarketEvaluation.Evaluator
import TradingAdvisor.Core.ZoneInfo
import TradingAdvisor.Core.LocalTime
import TradingAdvisor.Lib.Tiling
import TradingAdvisor.Mt5.TradingDay
import TradingAdvisor.Mt5.Sizing
import TradingAdvisor.Mt5.GridSizing
import TradingAdvisor.Decision.SetupConstruction
import TradingAdvisor.Decision.SetupGeometry
import TradingAdvisor.Statistics.SessionGate
import TradingAdvisor.Orchestration.DecisionRiskPipeline
import TradingAdvisor.Orchestration.FinalRecommendation
import TradingAdvisor.Lib.Stages
import TradingAdvisor.Lib.Recheck
import TradingAdvisor.Decision.PolicyGate
import TradingAdvisor.Orchestration.RiskBudget
import TradingAdvisor.Orchestration.EventSafety
import TradingAdvisor.Mt5.RecommendationPersistence
import TradingAdvisor.Orchestration.DocumentIsolation
import TradingAdvisor.HighImpactEventBridge.CalendarProducer
import TradingAdvisor.HighImpactEventBridge.FileReader
import TradingAdvisor.HighImpactEventBridge.CalendarDocument
import TradingAdvisor.HighImpactEventBridge.RoundTrip
import TradingAdvisor.Orchestration.CycleResult
import TradingAdvisor.Application.Identity
import TradingAdvisor.Mt5.ExactMatching
import TradingAdvisor.Mt5.DocumentFiles
import TradingAdvisor.Mt5.SharedDirectory
import TradingAdvisor.Application.AdvisoryService
import TradingAdvisor.Application.RunOnce
import TradingAdvisor.Application.NoTrade
import TradingAdvisor.Application.NoTradeAccounting
import TradingAdvisor.Technical.MirrorAnalysts
import TradingAdvisor.Technical.Supervision
import TradingAdvisor.Judge.Mirror
import TradingAdvisor.Orchestration.StageResults
import TradingAdvisor.Mt5.Lifecycle
import TradingAdvisor.Mt5.BrokerLedger
import TradingAdvisor.Mt5.TypedResults
import TradingAdvisor.ExternalIntelligence.RatesYield
import TradingAdvisor.ExternalIntelligence.OnChain
import TradingAdvisor.Lib.Paths
import TradingAdvisor.Orchestration.CycleReport
import TradingAdvisor.Orchestration.ExplanationContext
import TradingAdvisor.Orchestration.Explanation
import TradingAdvisor.Orchestration.ExplainedCycles
import TradingAdvisor.Lib.Citations
import TradingAdvisor.Lib.Labelled
import TradingAdvisor.Flow.WindowFeatures
import TradingAdvisor.Flow.FlowHistories
import TradingAdvisor.Flow.CompleteFeatures
import TradingAdvisor.Flow.FlowAnalysts
import TradingAdvisor.Flow.GradedObservations
import TradingAdvisor.Flow.FlowSupervision
import TradingAdvisor.MarketData.MarketStream
import TradingAdvisor.Flow.RealtimeFeed
import TradingAdvisor.Lib.DropOldest
import TradingAdvisor.MarketData.StreamMappers
import TradingAdvisor.Lib.Brackets
import TradingAdvisor.Production.ComposerCycles
import TradingAdvisor.Production.ComposerRuns
