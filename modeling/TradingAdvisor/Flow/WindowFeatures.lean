import TradingAdvisor.Flow.OrderBookFeatures
import TradingAdvisor.Lib.Binary64
import TradingAdvisor.Lib.Labelled
import TradingAdvisor.MarketData.TakerFlow

/-!
# Windowed flow features

Taker flow, liquidations, open interest, funding and price context over the last completed aligned
window of each duration. A window holds what lies after its start and not after its end; the ends
of a change are the latest observations at or before the ends of the window.

* `selectWindow`, `truncationReason` — what a window holds, and when eviction may have cut it;
* `takerFlowWindow`, `liquidationWindow`, `openInterestWindow`, `fundingWindow`,
  `priceContextWindow` — one window of each domain;
* `computeTakerFlowFeatures`, … — the features of all windows;
* `computeCrossFeatureObservation` — the correlation of two series of features.
-/

namespace TradingAdvisor

open SignificantDigits

/-! ## Events -/

/-- One trade print with its instrument, price and origin. -/
structure FlowTrade extends TradeEvent where
  symbol : Symbol
  contractType : ContractType
  price : Price
  source : NonemptyText

/-- One forced-liquidation order reported by a venue. -/
structure LiquidationEvent where
  symbol : Symbol
  contractType : ContractType
  side : OrderSide
  quantity : Volume
  timestamp : Timestamp
  source : NonemptyText

/-- Total outstanding open interest of a contract at a point in time. -/
structure OpenInterest where
  symbol : Symbol
  contractType : ContractType
  openInterest : Volume
  source : NonemptyText
  timestamp : Timestamp

/-- Funding rate state of a perpetual contract, as last computed by the venue. -/
structure FundingRate where
  symbol : Symbol
  contractType : ContractType
  fundingRate : ℚ
  markPrice : Price
  indexPrice : Price
  nextFundingTime : Option Timestamp := none
  source : NonemptyText
  timestamp : Timestamp

/-! ## Verdicts -/

/-- Why a windowed block is not valid. -/
inductive WindowReason
  | noTrades
  | fewTrades
  | truncated (dropped : ℕ) (earliestRetained windowStart : Timestamp)
  | noOpenInterest
  | noOpenInterestAtEnds
  | zeroPriorOpenInterest
  | noFunding
  | noFundingInWindow
  | fewFundingSamples
  | staleObservation (age maxStaleness : ℤ)
  | fewPairs
  | undefinedCorrelation
  deriving DecidableEq

/-- Verdict of a windowed calculator with its sample count and reasons. -/
structure WindowStatus where
  quality : FeatureQuality
  sampleCount : ℕ := 0
  reasons : List WindowReason := []
  deriving DecidableEq

/-- A verdict with one reason. -/
def WindowStatus.because (quality : FeatureQuality) (sampleCount : ℕ) (reason : WindowReason) :
    WindowStatus := ⟨quality, sampleCount, [reason]⟩

/-- Eviction has gone past the start of the window. -/
def truncationReason (windowStart : Timestamp) (earliestRetained : Option Timestamp)
    (droppedCount : ℕ) : Option WindowReason :=
  match droppedCount, earliestRetained with
  | 0, _ => none
  | _, none => none
  | dropped + 1, some earliest =>
      if windowStart < earliest then some (.truncated (dropped + 1) earliest windowStart) else none

/-- The verdict of a latest observation of some age. -/
def freshnessStatus (age maxStaleness : ℤ) : WindowStatus :=
  if maxStaleness < age then .because .stale 1 (.staleObservation age maxStaleness)
  else ⟨.valid, 1, []⟩

section Windows

variable {α : Type} (items : List α) (timestampOf : α → Timestamp)

/-- The items after the start and not after the end of the aligned window. -/
def selectWindow (observationTime duration : ℤ) : List α :=
  items.filter fun item =>
    (windowBounds observationTime duration).1 < timestampOf item ∧
      timestampOf item ≤ (windowBounds observationTime duration).2

/-- The earliest timestamp of the items. -/
def earliest : Option Timestamp := (items.map timestampOf).min?

end Windows

/-- The duration of a window in seconds. -/
def AnalyticsWindow.seconds (window : AnalyticsWindow) : ℚ := (window.duration : ℤ) / (1000000 : ℕ)

/-! ## Taker flow -/

/-- Taker buy and sell flow over one window. -/
structure TakerFlowWindowFeatures where
  symbol : Symbol
  contractType : ContractType
  window : AnalyticsWindow
  windowStart : Timestamp
  windowEnd : Timestamp
  buyVolume : ℚ
  sellVolume : ℚ
  totalVolume : ℚ
  delta : ℚ
  buyRatio : Option ℚ
  sellRatio : Option ℚ
  deltaRate : ℚ
  cumulativeDelta : ℚ
  cumulativeDeltaSince : Option Timestamp
  tradeCount : ℕ
  status : WindowStatus
  source : NonemptyText

variable (R : Rounding) (symbol : Symbol) (contractType : ContractType)
  (windows : List AnalyticsWindow) (observationTime : Timestamp) (source : NonemptyText)

/-- The quantities of one side. -/
def sideVolume (side : OrderSide) (trades : List FlowTrade) : ℚ :=
  R.sum ((trades.filter fun trade => trade.side = side).map fun trade => (trade.quantity : ℚ))

/-- What a trade adds to the cumulative delta. -/
def signedQuantity (trade : FlowTrade) : ℚ :=
  match trade.side with
  | .buy => trade.quantity
  | .sell => R.rnd (-trade.quantity)

/-- The verdict about the trades of a window. -/
def takerFlowStatus (windowStart : Timestamp) (earliestRetained : Option Timestamp)
    (droppedCount tradeCount : ℕ) : WindowStatus :=
  if tradeCount = 0 then .because .unavailable 0 .noTrades
  else
    match truncationReason windowStart earliestRetained droppedCount with
    | some reason => .because .partialData tradeCount reason
    | none => ⟨.valid, tradeCount, []⟩

/-- Taker flow over one window. -/
def takerFlowWindow (trades : List FlowTrade) (droppedCount : ℕ) (window : AnalyticsWindow) :
    TakerFlowWindowFeatures :=
  let relevant := trades.filter fun trade => trade.timestamp ≤ observationTime
  let bounds := windowBounds observationTime window.duration
  let windowTrades :=
    selectWindow relevant (fun trade => trade.timestamp) observationTime window.duration
  let buyVolume := sideVolume R .buy windowTrades
  let sellVolume := sideVolume R .sell windowTrades
  let totalVolume := R.rnd (buyVolume + sellVolume)
  let delta := R.rnd (buyVolume - sellVolume)
  let buyRatio :=
    if 0 < totalVolume then some (Binary64.nearest (R.rnd (buyVolume / totalVolume))) else none
  { symbol, contractType, window
    windowStart := bounds.1
    windowEnd := bounds.2
    buyVolume, sellVolume, totalVolume, delta, buyRatio
    sellRatio := buyRatio.map fun ratio => Binary64.nearest (1 - ratio)
    deltaRate := R.rnd (delta / window.seconds)
    cumulativeDelta := R.sum (relevant.map (signedQuantity R))
    cumulativeDeltaSince := earliest relevant fun trade => trade.timestamp
    tradeCount := windowTrades.length
    status := takerFlowStatus bounds.1 (earliest trades fun trade => trade.timestamp) droppedCount
      windowTrades.length
    source }

/-- Taker flow over every window. -/
def computeTakerFlowFeatures (trades : List FlowTrade) (droppedCount : ℕ) :
    Labelled String TakerFlowWindowFeatures :=
  .ofItems (fun window => window.label.val)
    (takerFlowWindow R symbol contractType observationTime source trades droppedCount) windows

/-! ## Liquidations -/

/-- Forced liquidations over one window. -/
structure LiquidationWindowFeatures where
  symbol : Symbol
  contractType : ContractType
  window : AnalyticsWindow
  windowStart : Timestamp
  windowEnd : Timestamp
  longLiquidationVolume : ℚ
  shortLiquidationVolume : ℚ
  totalLiquidationVolume : ℚ
  liquidationImbalance : ℚ
  liquidationCount : ℕ
  liquidationCountLong : ℕ
  liquidationCountShort : ℕ
  averageLiquidationSize : Option ℚ
  largestLiquidation : Option ℚ
  status : WindowStatus
  source : NonemptyText

/-- The liquidations of one forced side: a forced sell closes a long. -/
def forced (side : OrderSide) (events : List LiquidationEvent) : List ℚ :=
  (events.filter fun event => event.side = side).map fun event => (event.quantity : ℚ)

/-- The verdict about the liquidations of a window; none is a valid number of them. -/
def liquidationStatus (windowStart : Timestamp) (earliestRetained : Option Timestamp)
    (droppedCount count : ℕ) : WindowStatus :=
  match truncationReason windowStart earliestRetained droppedCount with
  | some reason => .because .partialData count reason
  | none => ⟨.valid, count, []⟩

/-- Liquidations over one window. -/
def liquidationWindow (liquidations : List LiquidationEvent) (droppedCount : ℕ)
    (window : AnalyticsWindow) : LiquidationWindowFeatures :=
  let relevant := liquidations.filter fun event => event.timestamp ≤ observationTime
  let bounds := windowBounds observationTime window.duration
  let windowEvents :=
    selectWindow relevant LiquidationEvent.timestamp observationTime window.duration
  let long := forced .sell windowEvents
  let short := forced .buy windowEvents
  let totalVolume := R.rnd (R.sum long + R.sum short)
  let count := windowEvents.length
  { symbol, contractType, window
    windowStart := bounds.1
    windowEnd := bounds.2
    longLiquidationVolume := R.sum long
    shortLiquidationVolume := R.sum short
    totalLiquidationVolume := totalVolume
    liquidationImbalance := R.rnd (R.sum long - R.sum short)
    liquidationCount := count
    liquidationCountLong := long.length
    liquidationCountShort := short.length
    averageLiquidationSize := if 0 < count then some (R.rnd (totalVolume / count)) else none
    largestLiquidation := (windowEvents.map fun event => (event.quantity : ℚ)).max?
    status := liquidationStatus bounds.1 (earliest liquidations LiquidationEvent.timestamp)
      droppedCount count
    source }

/-- Liquidations over every window. -/
def computeLiquidationFeatures (liquidations : List LiquidationEvent) (droppedCount : ℕ) :
    Labelled String LiquidationWindowFeatures :=
  .ofItems (fun window => window.label.val)
    (liquidationWindow R symbol contractType observationTime source liquidations droppedCount)
    windows

/-! ## Open interest -/

/-- Change of the open interest over one window. -/
structure OpenInterestWindowFeatures where
  window : AnalyticsWindow
  absoluteChange : Option ℚ := none
  percentChange : Option ℚ := none
  oiVelocity : Option ℚ := none
  status : WindowStatus

/-- Open interest with its changes. -/
structure OpenInterestFeatures where
  symbol : Symbol
  contractType : ContractType
  observationTime : Timestamp
  latestOpenInterest : Option Volume := none
  latestObservedAt : Option Timestamp := none
  staleness : Option ℤ := none
  windows : Labelled String OpenInterestWindowFeatures := {}
  status : WindowStatus
  source : NonemptyText

/-- The latest entry at or before a cutoff, with its place in the history. -/
def latestEntry {α : Type} (history : List α) (timestampOf : α → Timestamp) (cutoff : Timestamp) :
    Option (α × ℕ) :=
  latestAtOrBefore history.zipIdx (fun entry => timestampOf entry.1) cutoff

/-- Change of the open interest between the ends of one window. -/
def openInterestWindow (history : List OpenInterest) (quality : FeatureQuality)
    (window : AnalyticsWindow) : OpenInterestWindowFeatures :=
  let bounds := windowBounds observationTime window.duration
  match latestEntry history OpenInterest.timestamp bounds.2,
    latestEntry history OpenInterest.timestamp bounds.1 with
  | some (last, i), some (first, j) =>
      let absoluteChange := R.rnd (last.openInterest - first.openInterest)
      { window
        absoluteChange := some absoluteChange
        percentChange :=
          if 0 < first.openInterest then
            some (R.rnd (R.rnd (absoluteChange / first.openInterest) * 100))
          else none
        oiVelocity := some (R.rnd (absoluteChange / window.seconds))
        -- one observation at both ends is one sample
        status := ⟨quality, if i = j then 1 else 2,
          if 0 < first.openInterest then [] else [.zeroPriorOpenInterest]⟩ }
  | _, _ => { window, status := .because .unavailable 0 .noOpenInterestAtEnds }

/-- The staleness limit of open interest and funding: five minutes. -/
def defaultMaxStaleness : ℤ := minutes 5

/-- Open interest with its change over every window. -/
def computeOpenInterestFeatures (history : List OpenInterest) : OpenInterestFeatures :=
  match latestAtOrBefore history OpenInterest.timestamp observationTime with
  | none =>
      { symbol, contractType, observationTime, source
        status := .because .unavailable 0 .noOpenInterest }
  | some latest =>
      let staleness := observationTime - latest.timestamp
      let status := freshnessStatus staleness defaultMaxStaleness
      { symbol, contractType, observationTime
        latestOpenInterest := some latest.openInterest
        latestObservedAt := some latest.timestamp
        staleness := some staleness
        windows := .ofItems (fun window => window.label.val)
          (openInterestWindow R observationTime history status.quality) windows
        status, source }

/-! ## Funding -/

/-- Funding-rate trend and statistics over one window. -/
structure FundingWindowFeatures where
  window : AnalyticsWindow
  fundingTrend : Option ℚ := none
  rollingMean : Option ℚ := none
  rollingStddev : Option ℚ := none
  sampleCount : ℕ := 0
  status : WindowStatus

/-- Funding and mark-price features. -/
structure FundingFeatures where
  symbol : Symbol
  contractType : ContractType
  observationTime : Timestamp
  latestFundingRate : Option ℚ := none
  latestMarkPrice : Option Price := none
  latestIndexPrice : Option Price := none
  latestObservedAt : Option Timestamp := none
  markIndexBasis : Option ℚ := none
  markIndexBasisBps : Option ℚ := none
  timeToNextFunding : Option ℤ := none
  windows : Labelled String FundingWindowFeatures := {}
  status : WindowStatus
  source : NonemptyText

/-- The mean of decimals: the exact mean, rounded once. -/
def decimalMean (values : List ℚ) : ℚ := R.rnd (values.sum / values.length)

/-- The exact population variance. -/
def populationVariance (values : List ℚ) : ℚ :=
  (values.map fun x => (x - values.sum / values.length) ^ 2).sum / values.length

/-- The change of a value between the latest observations at the ends of a window. -/
def endChange {α : Type} (history : List α) (timestampOf : α → Timestamp) (value : α → ℚ)
    (bounds : Timestamp × Timestamp) : Option ℚ :=
  match latestAtOrBefore history timestampOf bounds.2,
    latestAtOrBefore history timestampOf bounds.1 with
  | some last, some first => some (R.rnd (value last - value first))
  | _, _ => none

/-- The verdict about the funding observations of a window. -/
def fundingStatus (quality : FeatureQuality) (sampleCount : ℕ) (observedAtEnds : Bool) :
    WindowStatus :=
  if sampleCount = 0 ∧ observedAtEnds = false then .because .unavailable 0 .noFundingInWindow
  else if sampleCount < 2 then
    .because (worseOf .partialData quality) sampleCount .fewFundingSamples
  else ⟨quality, sampleCount, []⟩

/-- Funding over one window; the square root of a decimal fraction is given. -/
def fundingWindow (decimalSqrt : ℚ → ℚ) (history : List FundingRate) (quality : FeatureQuality)
    (window : AnalyticsWindow) : FundingWindowFeatures :=
  let bounds := windowBounds observationTime window.duration
  let rates := (selectWindow history FundingRate.timestamp observationTime window.duration).map
    FundingRate.fundingRate
  { window
    fundingTrend := endChange R history FundingRate.timestamp FundingRate.fundingRate bounds
    rollingMean := if rates = [] then none else some (decimalMean R rates)
    rollingStddev :=
      if 2 ≤ rates.length then some (decimalSqrt (populationVariance rates)) else none
    sampleCount := rates.length
    status := fundingStatus quality rates.length
      ((latestAtOrBefore history FundingRate.timestamp bounds.1).isSome ||
        (latestAtOrBefore history FundingRate.timestamp bounds.2).isSome) }

/-- Funding with its statistics over every window. -/
def computeFundingFeatures (decimalSqrt : ℚ → ℚ) (history : List FundingRate) : FundingFeatures :=
  match latestAtOrBefore history FundingRate.timestamp observationTime with
  | none =>
      { symbol, contractType, observationTime, source
        status := .because .unavailable 0 .noFunding }
  | some latest =>
      let basis := R.rnd (latest.markPrice - latest.indexPrice)
      let status := freshnessStatus (observationTime - latest.timestamp) defaultMaxStaleness
      { symbol, contractType, observationTime
        latestFundingRate := some latest.fundingRate
        latestMarkPrice := some latest.markPrice
        latestIndexPrice := some latest.indexPrice
        latestObservedAt := some latest.timestamp
        markIndexBasis := some basis
        markIndexBasisBps :=
          if 0 < latest.indexPrice then some (R.rnd (R.rnd (basis / latest.indexPrice) * 10000))
          else none
        timeToNextFunding := latest.nextFundingTime.map fun next => next - observationTime
        windows := .ofItems (fun window => window.label.val)
          (fundingWindow R observationTime decimalSqrt history status.quality) windows
        status, source }

/-! ## Price context -/

/-- Return, change and range of the trade prices over one window. -/
structure PriceContextWindowFeatures where
  symbol : Symbol
  contractType : ContractType
  window : AnalyticsWindow
  windowStart : Timestamp
  windowEnd : Timestamp
  returnPct : Option ℚ
  absoluteChange : Option ℚ
  realizedRange : Option ℚ
  markPriceChange : Option ℚ
  tradeCount : ℕ
  status : WindowStatus
  source : NonemptyText

/-- The price change of trades in the order of time, when there are two of them. -/
def priceChange (sorted : List FlowTrade) : Option (ℚ × ℚ) :=
  match sorted, sorted.getLast? with
  | first :: _ :: _, some last => some (R.rnd (last.price - first.price), first.price)
  | _, _ => none

/-- The range of the prices of trades, when there are some. -/
def priceRange (sorted : List FlowTrade) : Option ℚ :=
  match (sorted.map fun trade => (trade.price : ℚ)).max?,
    (sorted.map fun trade => (trade.price : ℚ)).min? with
  | some high, some low => some (R.rnd (high - low))
  | _, _ => none

/-- The verdict about the trades of a window. -/
def priceContextStatus (tradeCount : ℕ) : WindowStatus :=
  if tradeCount = 0 then .because .unavailable 0 .noTrades
  else if tradeCount < 2 then .because .partialData tradeCount .fewTrades
  else ⟨.valid, tradeCount, []⟩

/-- Price context over one window. -/
def priceContextWindow (trades : List FlowTrade) (markPrices : List FundingRate)
    (window : AnalyticsWindow) : PriceContextWindowFeatures :=
  let bounds := windowBounds observationTime window.duration
  let sorted := (selectWindow trades (fun trade => trade.timestamp) observationTime
    window.duration).insertionSort fun a b => a.timestamp ≤ b.timestamp
  { symbol, contractType, window
    windowStart := bounds.1
    windowEnd := bounds.2
    returnPct := (priceChange R sorted).bind fun change =>
      if 0 < change.2 then some (R.rnd (R.rnd (change.1 / change.2) * 100)) else none
    absoluteChange := (priceChange R sorted).map Prod.fst
    realizedRange := priceRange R sorted
    markPriceChange := endChange R markPrices FundingRate.timestamp
      (fun funding => funding.markPrice) bounds
    tradeCount := sorted.length
    status := priceContextStatus sorted.length
    source }

/-- Price context over every window. -/
def computePriceContextFeatures (trades : List FlowTrade) (markPrices : List FundingRate) :
    Labelled String PriceContextWindowFeatures :=
  .ofItems (fun window => window.label.val)
    (priceContextWindow R symbol contractType observationTime source trades markPrices) windows

/-! ## Correlations -/

/-- Co-movement of two aligned feature series. -/
structure CrossFeatureObservation where
  symbol : Symbol
  contractType : ContractType
  window : AnalyticsWindow
  pairLabel : String
  correlation : Option ℚ := none
  sampleCount : ℕ := 0
  status : WindowStatus

/-- The correlation of the samples that are there in both series, when there are three of them; it
is given for the paired samples, and is undefined for constant ones. -/
def computeCrossFeatureObservation (correlation : List (ℚ × ℚ) → Option ℚ)
    (window : AnalyticsWindow) (pairLabel : String) (series : List (Option ℚ × Option ℚ)) :
    CrossFeatureObservation :=
  let paired := series.filterMap fun sample =>
    sample.1.bind fun a => sample.2.map fun b => (a, b)
  if paired.length < 3 then
    { symbol, contractType, window, pairLabel
      sampleCount := paired.length
      status := .because .unavailable paired.length .fewPairs }
  else
    match correlation paired with
    | none =>
        { symbol, contractType, window, pairLabel
          sampleCount := paired.length
          status := .because .unavailable paired.length .undefinedCorrelation }
    | some value =>
        { symbol, contractType, window, pairLabel
          correlation := some value
          sampleCount := paired.length
          status := ⟨.valid, paired.length, []⟩ }

end TradingAdvisor
