import TradingAdvisor.Decision.HighImpactEventGate
import TradingAdvisor.Mt5.Rollover

/-!
# Production configuration

The immutable configuration of one production process: one instrument under its three names, and
the settings of the components the process wires together.

* `SymbolMapping`, `ProductionAdvisoryConfig` — the configuration;
* `ProductionAdvisoryConfig.context` — the evaluation identity that every cycle builds from it.
-/

namespace TradingAdvisor

/-- The three names of the configured instrument. -/
structure SymbolMapping where
  logicalSymbol : Symbol
  binanceSymbol : Symbol
  mt5Symbol : Symbol

/-- Market domain of an instrument. -/
inductive MarketType
  | us
  | eu
  | fx
  | crypto
  | metals
  | energies
  deriving DecidableEq, Repr

/-- Explicit login of the terminal. -/
structure MT5Credentials where
  login : Option {n : ℤ // 0 < n} := none
  password : Option String := none
  server : Option NonemptyText := none

/-- Configuration of the explanation client. -/
structure OpenAIExplanationClientConfig (F : Type) where
  apiKey : String
  model : NonemptyText
  timeoutSeconds : F

/-- The calendar is stale after fifteen minutes. -/
def calendarStalenessThresholdDefault : Timestamp := minutes 15

/-- The configuration of one process. -/
structure ProductionAdvisoryConfig (F : Type) where
  symbolMapping : SymbolMapping
  contractType : ContractType
  market : MarketType
  baseAsset : Option Asset := none
  network : Option String := none
  currencyExposures : List CurrencyCode := []
  rolloverPolicy : MT5RolloverPolicyConfig
  mt5Path : Option String := none
  mt5Credentials : Option MT5Credentials := none
  rolloverStatePath : String
  trackingDirectory : String
  provenanceDirectory : String
  calendarBridgePath : String
  calendarServerTimezone : NonemptyText
  calendarStalenessThreshold : Timestamp := calendarStalenessThresholdDefault
  eventSymbolScopeConfig : HighImpactEventSymbolScopeConfig := defaultSymbolScopeConfig
  llmEnabled : Bool := false
  llmConfig : Option (OpenAIExplanationClientConfig F) := none
  lockedOverride : Bool := false
  onChainPair : baseAsset.isNone = network.isNone
  llmConfig_isSome : llmEnabled = true → llmConfig.isSome

/-- The evaluation identity of a cycle. -/
def ProductionAdvisoryConfig.context {F : Type} (config : ProductionAdvisoryConfig F) :
    MarketEvaluationContext where
  symbol := config.symbolMapping.binanceSymbol
  contractType := config.contractType
  baseAsset := config.baseAsset
  network := config.network
  currencyExposures := config.currencyExposures
  onChainPair := config.onChainPair

end TradingAdvisor
