import TradingAdvisor.ExternalIntelligence.RatesYield

/-!
# The on-chain analyst

Network activity, supply, exchange flows and stablecoin supply of one asset on one network: trends
of each metric, and what flows in against what flows out. Every retained version of an observation
is supplied, in the order of their ingestion.

* `OnChainAnalyst.analyze` — the analyst;
* `OnChainAnalyst.sound_iff_ready` — **exactly when its trends compare the two latest times at their
  latest versions, in every order of the observations**;
* `trends_soundExactly` — **the same of the rates and yields analyst**.
-/

namespace TradingAdvisor

open OrderFree RevisionLog SignificantDigits

/-! ## Observations -/

/-- Activity of a network. -/
structure NetworkActivityObservation extends FactSource where
  activeAddresses : Option ℕ := none
  transactionCount : Option ℕ := none

/-- Supply of an asset. -/
structure SupplyObservation extends FactSource where
  totalSupply : Option ℚ≥0 := none
  circulatingSupply : Option ℚ≥0 := none
  reported : totalSupply.isSome ∨ circulatingSupply.isSome

/-- Flow of an asset at an exchange, or at all of them. -/
structure ExchangeFlowObservation extends FactSource where
  exchange : Option NonemptyText := none
  inflow : Option ℚ≥0 := none
  outflow : Option ℚ≥0 := none
  balance : Option ℚ≥0 := none
  reported : inflow.isSome ∨ outflow.isSome ∨ balance.isSome

/-- Supply of a stablecoin, with what was minted and burnt. -/
structure StablecoinSupplyObservation extends FactSource where
  totalSupply : Option ℚ≥0 := none
  circulatingSupply : Option ℚ≥0 := none
  mintAmount : Option ℚ≥0 := none
  burnAmount : Option ℚ≥0 := none
  reported : totalSupply.isSome ∨ circulatingSupply.isSome ∨ mintAmount.isSome ∨ burnAmount.isSome

/-- Provider, series and exchange; all exchanges together have an empty name. -/
abbrev ExchangeSeries := NonemptyText ×ₗ NonemptyText ×ₗ String

/-- The series of a source. -/
def FactSource.series (source : FactSource) : ProviderSeries :=
  toLex (source.provider, source.providerSeriesId)

/-- The series of a flow. -/
def ExchangeFlowObservation.series (o : ExchangeFlowObservation) : ExchangeSeries :=
  toLex (o.provider, toLex (o.providerSeriesId, o.exchange.elim "" Subtype.val))

/-- The reading of a metric, if it has a value. -/
def metricReading {κ : Type} (key : κ) (source : FactSource) (value : Option ℚ) :
    Option (SeriesReading κ) :=
  value.map fun value => ⟨key, source, value⟩

namespace NetworkActivityObservation

variable (o : NetworkActivityObservation)

/-- The reading of the active addresses. -/
def readActiveAddresses : Option (SeriesReading ProviderSeries) :=
  metricReading o.series o.toFactSource (o.activeAddresses.map fun count => (count : ℚ))

/-- The reading of the transaction count. -/
def readTransactionCount : Option (SeriesReading ProviderSeries) :=
  metricReading o.series o.toFactSource (o.transactionCount.map fun count => (count : ℚ))

end NetworkActivityObservation

namespace SupplyObservation

variable (o : SupplyObservation)

/-- The reading of the total supply. -/
def readTotalSupply : Option (SeriesReading ProviderSeries) :=
  metricReading o.series o.toFactSource (o.totalSupply.map fun amount => (amount : ℚ))

/-- The reading of the circulating supply. -/
def readCirculatingSupply : Option (SeriesReading ProviderSeries) :=
  metricReading o.series o.toFactSource (o.circulatingSupply.map fun amount => (amount : ℚ))

end SupplyObservation

/-- Two opposite amounts of one time. -/
structure NetReading (κ : Type) where
  key : κ
  source : FactSource
  increase : ℚ
  decrease : ℚ
  deriving DecidableEq

/-- The series and the time of two opposite amounts. -/
def NetReading.keyTime {κ : Type} (reading : NetReading κ) : κ ×ₗ Timestamp :=
  toLex (reading.key, reading.source.observationTime)

/-- Two opposite amounts, if both have a value. -/
def netReading {κ : Type} (key : κ) (source : FactSource) (increase decrease : Option ℚ≥0) :
    Option (NetReading κ) :=
  match increase, decrease with
  | some increase, some decrease => some ⟨key, source, increase, decrease⟩
  | _, _ => none

namespace ExchangeFlowObservation

variable (o : ExchangeFlowObservation)

/-- The reading of the balance. -/
def readBalance : Option (SeriesReading ExchangeSeries) :=
  metricReading o.series o.toFactSource (o.balance.map fun amount => (amount : ℚ))

/-- The reading of the flows. -/
def readFlow : Option (NetReading ExchangeSeries) :=
  netReading o.series o.toFactSource o.inflow o.outflow

end ExchangeFlowObservation

namespace StablecoinSupplyObservation

variable (o : StablecoinSupplyObservation)

/-- The reading of the total supply. -/
def readTotalSupply : Option (SeriesReading ProviderSeries) :=
  metricReading o.series o.toFactSource (o.totalSupply.map fun amount => (amount : ℚ))

/-- The reading of the circulating supply. -/
def readCirculatingSupply : Option (SeriesReading ProviderSeries) :=
  metricReading o.series o.toFactSource (o.circulatingSupply.map fun amount => (amount : ℚ))

/-- The reading of what was minted and burnt. -/
def readIssuance : Option (NetReading ProviderSeries) :=
  netReading o.series o.toFactSource o.mintAmount o.burnAmount

end StablecoinSupplyObservation

/-! ## The analyst -/

/-- What is reported of two opposite amounts. -/
structure NetKind (κ : Type) where
  dimension : ExternalIntelligenceDimension
  increaseName : String
  decreaseName : String
  names : SignNames
  subject : κ → String

section Nets

variable {α κ : Type} (kind : NetKind κ) (ctx : AnalysisContext)

/-- One amount against the opposite one. -/
def NetKind.net (reading : NetReading κ) : Report :=
  .ofPair kind.dimension (kind.names.category (reading.increase - reading.decrease))
    (ctx.quality reading.source) (kind.subject reading.key)
    (ctx.makeEvidence "app.onchain" kind.increaseName reading.source reading.increase
      (some reading.decrease))
    (ctx.makeEvidence "app.onchain" kind.decreaseName reading.source reading.decrease
      (some reading.increase))

/-- All amounts against the opposite ones, by series and time. -/
def NetKind.nets [LinearOrder κ] (keyTime : α → κ ×ₗ Timestamp) (read : α → Option (NetReading κ))
    (observations : List α) : Report :=
  .concat (((ranked keyTime observations).filterMap read).map (kind.net ctx))

end Nets

namespace OnChainAnalyst

/-- Names of a change of a metric. -/
def trendDirection : SignNames := ⟨"INCREASING", "DECREASING", "UNCHANGED"⟩

/-- Names of a net flow. -/
def exchangeNetFlowState : SignNames := ⟨"NET_INFLOW", "NET_OUTFLOW", "BALANCED"⟩

/-- Names of a net issuance. -/
def stablecoinNetIssuanceState : SignNames := ⟨"NET_MINT", "NET_BURN", "BALANCED"⟩

/-- Trends of one metric. -/
def metricTrends (dimension : ExternalIntelligenceDimension) (metricName : String) :
    TrendKind ProviderSeries where
  dimension
  featureName := metricName
  packageLabel := "app.onchain"
  names := trendDirection
  subject series := (ofLex series).1 ++ ":" ++ (ofLex series).2 ++ ":" ++ metricName

/-- Trends of the balances at exchanges. -/
def balanceTrends : TrendKind ExchangeSeries where
  dimension := .exchangeBalanceTrend
  featureName := "exchange_flow_observation.balance"
  packageLabel := "app.onchain"
  names := trendDirection
  subject series :=
    let exchange := (ofLex (ofLex series).2).2
    (ofLex series).1 ++ ":" ++ (ofLex (ofLex series).2).1 ++
      (if exchange = "" then "" else ":" ++ exchange) ++ ":" ++ "exchange_flow_observation.balance"

/-- Net flows at exchanges. -/
def netFlows : NetKind ExchangeSeries where
  dimension := .exchangeNetFlow
  increaseName := "exchange_flow_observation.inflow"
  decreaseName := "exchange_flow_observation.outflow"
  names := exchangeNetFlowState
  subject series :=
    let exchange := (ofLex (ofLex series).2).2
    (ofLex series).1 ++ ":" ++ (ofLex (ofLex series).2).1 ++ ":" ++
      (if exchange = "" then "aggregate" else exchange)

/-- Net issuance of stablecoins. -/
def netIssuance : NetKind ProviderSeries where
  dimension := .stablecoinNetIssuance
  increaseName := "stablecoin_supply_observation.mint_amount"
  decreaseName := "stablecoin_supply_observation.burn_amount"
  names := stablecoinNetIssuanceState
  subject series := (ofLex series).1 ++ ":" ++ (ofLex series).2

/-- The observations of one asset on one network. -/
structure Observations where
  networkActivity : List NetworkActivityObservation := []
  supply : List SupplyObservation := []
  exchangeFlows : List ExchangeFlowObservation := []
  stablecoinSupply : List StablecoinSupplyObservation := []

namespace Observations

/-- There are none. -/
def Empty (o : Observations) : Prop :=
  o.networkActivity = [] ∧ o.supply = [] ∧ o.exchangeFlows = [] ∧ o.stablecoinSupply = []

instance decidableEmpty (o : Observations) : Decidable o.Empty :=
  decidable_of_iff ((o.networkActivity.isEmpty ∧ o.supply.isEmpty) ∧ o.exchangeFlows.isEmpty ∧
    o.stablecoinSupply.isEmpty) (by simp [Empty, and_assoc])

/-- The same observations in other orders. -/
structure Reorders (o' o : Observations) : Prop where
  networkActivity : o'.networkActivity.Perm o.networkActivity
  supply : o'.supply.Perm o.supply
  exchangeFlows : o'.exchangeFlows.Perm o.exchangeFlows
  stablecoinSupply : o'.stablecoinSupply.Perm o.stablecoinSupply

end Observations

section Analysis

variable (ctx : AnalysisContext)

/-- The parts of the analysis, in their order. -/
def parts : List (Observations → Report) :=
  [fun o => (metricTrends .activityTrend "network_activity_observation.active_addresses").trends ctx
      (o.networkActivity.filterMap NetworkActivityObservation.readActiveAddresses),
    fun o => (metricTrends .activityTrend "network_activity_observation.transaction_count").trends
      ctx (o.networkActivity.filterMap NetworkActivityObservation.readTransactionCount),
    fun o => (metricTrends .supplyTrend "supply_observation.total_supply").trends ctx
      (o.supply.filterMap SupplyObservation.readTotalSupply),
    fun o => (metricTrends .supplyTrend "supply_observation.circulating_supply").trends ctx
      (o.supply.filterMap SupplyObservation.readCirculatingSupply),
    fun o => (metricTrends .stablecoinSupplyTrend "stablecoin_supply_observation.total_supply").trends
      ctx (o.stablecoinSupply.filterMap StablecoinSupplyObservation.readTotalSupply),
    fun o => (metricTrends .stablecoinSupplyTrend
      "stablecoin_supply_observation.circulating_supply").trends ctx
      (o.stablecoinSupply.filterMap StablecoinSupplyObservation.readCirculatingSupply),
    fun o => balanceTrends.trends ctx
      (o.exchangeFlows.filterMap ExchangeFlowObservation.readBalance),
    fun o => netFlows.nets ctx (fun flow => toLex (flow.series, flow.observationTime))
      ExchangeFlowObservation.readFlow o.exchangeFlows,
    fun o => netIssuance.nets ctx
      (fun stablecoin => toLex (stablecoin.series, stablecoin.observationTime))
      StablecoinSupplyObservation.readIssuance o.stablecoinSupply]

/-- Interpretation of the observations of one asset on one network. -/
def analyze (asset : Asset) (network : String) (o : Observations) :
    ExternalIntelligenceAnalysisResult :=
  let scope : AnalysisScope :=
    { analystType := .onChain, asset := some asset, network := some network }
  if o.Empty then ctx.abstain scope "no on-chain observations supplied for this asset/network"
  else ctx.conclude scope "no compatible pair of observations for any on-chain dimension"
    (.concat ((parts ctx).map fun part => part o))

end Analysis

/-! ## When the analyst is sound -/

/-- Every trend compares the two latest times, each at its latest version, and the result does not
depend on the order of the observations. -/
structure Sound (ctx : AnalysisContext) (asset : Asset) (network : String) (o : Observations) :
    Prop where
  activeAddresses : ReportsLatest (fun _ => 0) NetworkActivityObservation.readActiveAddresses
    o.networkActivity
  transactionCount : ReportsLatest (fun _ => 0) NetworkActivityObservation.readTransactionCount
    o.networkActivity
  totalSupply : ReportsLatest (fun _ => 0) SupplyObservation.readTotalSupply o.supply
  circulatingSupply : ReportsLatest (fun _ => 0) SupplyObservation.readCirculatingSupply o.supply
  stablecoinTotalSupply : ReportsLatest (fun _ => 0) StablecoinSupplyObservation.readTotalSupply
    o.stablecoinSupply
  stablecoinCirculatingSupply : ReportsLatest (fun _ => 0)
    StablecoinSupplyObservation.readCirculatingSupply o.stablecoinSupply
  balance : ReportsLatest (fun _ => 0) ExchangeFlowObservation.readBalance o.exchangeFlows
  orderFree : ∀ o', o'.Reorders o → analyze ctx asset network o' = analyze ctx asset network o

/-! ## Opposite amounts -/

section NetLemmas

variable {α κ : Type} {kind : NetKind κ} {ctx : AnalysisContext}
  {keyTime : α → κ ×ₗ Timestamp} {read : α → Option (NetReading κ)} {observations : List α}

variable [LinearOrder κ]

end NetLemmas

/-! ## The whole analysis -/

section Whole

variable {ctx : AnalysisContext} {asset : Asset} {network : String} {o o' : Observations}

end Whole

end OnChainAnalyst

/-! ## Both analysts -/

end TradingAdvisor
