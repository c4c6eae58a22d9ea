import Mathlib.Data.List.Dedup
import TradingAdvisor.Technical.Coherence
import TradingAdvisor.Technical.MarketStructure

/-!
# The technical analysts

Each analyst reads one feature block and names the side of a neutral reference on which its values
lie: zero, a midpoint, a ratio of one. An analyst whose block is unavailable, or that observes
nothing, abstains.

* `TechnicalFeatureBlocks`, `computeBlocks` — the blocks of a snapshot;
* `trendObservations`, …, `rangeStateObservations` — what the analysts observe;
* `TechnicalAnalyst.analyze` — one analyst on one snapshot;
* `analyzeSeries` — the supervised results of candle series, one per timeframe.
-/

namespace TradingAdvisor

/-! ## Snapshots -/

/-- The parameters of the calculators, within the bounds that each of them checks. -/
structure TechnicalParameters where
  trendLookback : ℕ := 20
  leftBars : ℕ := 2
  rightBars : ℕ := 2
  atrPeriod : ℕ := 14
  rocPeriod : ℕ := 12
  rsiPeriod : ℕ := 14
  maPeriods : List ℕ := [20, 50]
  rangeStateLookback : ℕ := 20
  source : String := "technical_engine"
  two_le_trendLookback : 2 ≤ trendLookback := by decide
  bars_pos : 0 < leftBars ∧ 0 < rightBars := by decide
  atrPeriod_pos : 0 < atrPeriod := by decide
  rocPeriod_pos : 0 < rocPeriod := by decide
  rsiPeriod_pos : 0 < rsiPeriod := by decide
  maPeriods_ne_nil : maPeriods ≠ [] := by decide
  maPeriods_pos : ∀ period ∈ maPeriods, 0 < period := by decide
  two_le_rangeStateLookback : 2 ≤ rangeStateLookback := by decide

/-- The feature blocks of one snapshot. -/
structure TechnicalFeatureBlocks where
  trend : TrendFeatures
  marketStructure : MarketStructureFeatures
  volatility : VolatilityFeatures
  momentum : MomentumFeatures
  movingAverage : MovingAverageFeatures
  candleStructure : CandleStructureFeatures
  rangeState : RangeStateFeatures
  source : String

/-- Run the calculators over closed candles. -/
def computeBlocks (parameters : TechnicalParameters) (timeframe : Timeframe)
    (closed : List OHLCVCandle) : TechnicalFeatureBlocks where
  trend := computeTrendFeatures timeframe closed parameters.trendLookback
  marketStructure :=
    computeMarketStructureFeatures timeframe closed parameters.leftBars parameters.rightBars
  volatility := computeVolatilityFeatures timeframe closed parameters.atrPeriod
  momentum := computeMomentumFeatures timeframe closed parameters.rocPeriod parameters.rsiPeriod
  movingAverage := computeMovingAverageFeatures timeframe closed parameters.maPeriods
  candleStructure := computeCandleStructureFeatures closed
  rangeState :=
    computeRangeStateFeatures timeframe closed parameters.rangeStateLookback parameters.atrPeriod
  source := parameters.source

namespace TechnicalAnalyst

/-! ## Neutral references -/

/-- Sign of a value, in the words of its dimension. -/
def signCategory (positive negative zero : String) (value : ℚ) : String :=
  if 0 < value then positive else if value < 0 then negative else zero

/-- A ratio against one. -/
def referenceComparison (value : ℚ) : String :=
  if 1 < value then "ABOVE_REFERENCE" else if value < 1 then "BELOW_REFERENCE" else "AT_REFERENCE"

/-- A value against its natural midpoint. -/
def midpointRelation (midpoint value : ℚ) : String :=
  if midpoint < value then "ABOVE_MIDPOINT"
  else if value < midpoint then "BELOW_MIDPOINT" else "AT_MIDPOINT"

/-- A value against its natural bounds. -/
def boundaryPosition (minimum maximum value : ℚ) : String :=
  if value = minimum then "AT_MINIMUM"
  else if value = maximum then "AT_MAXIMUM" else "BETWEEN_BOUNDS"

/-- Two values compared, in the words of their dimension. -/
def comparison (greater less equal : String) (a b : ℚ) : String :=
  if b < a then greater else if a < b then less else equal

/-- Whether two primitives agree; both have to be directional. -/
def primitiveAgreement (directional agree : Prop) [Decidable directional] [Decidable agree] :
    String :=
  if directional then if agree then "ALL_AGREE" else "MIXED" else "INSUFFICIENT_DATA"

/-- The observations of a value, if there is one. -/
def observe (quality : FeatureQuality) (dimension : TechnicalAnalysisDimension)
    (value : Option String) (subject : Option String := none) :
    List TechnicalAnalysisObservation :=
  value.toList.map fun value => { dimension, value, quality, subject }

/-! ## What the analysts observe -/

/-- The signs of return and slope, and the balance of highs and lows. -/
def trendObservations (trend : TrendFeatures) : List TechnicalAnalysisObservation :=
  let returnDirection := trend.returnPct.map (signCategory "UPWARD" "DOWNWARD" "FLAT")
  let slopeDirection := trend.slope.map (signCategory "UPWARD" "DOWNWARD" "FLAT")
  let upCount := trend.higherHighCount + trend.higherLowCount
  let downCount := trend.lowerHighCount + trend.lowerLowCount
  let directional := [some "UPWARD", some "DOWNWARD"]
  observe trend.quality .returnDirection returnDirection ++
  observe trend.quality .slopeDirection slopeDirection ++
  observe trend.quality .structuralSequenceBalance
    (some (comparison "UPWARD_STRUCTURE" "DOWNWARD_STRUCTURE" "MIXED_STRUCTURE" upCount
      downCount)) ++
  observe trend.quality .trendPrimitiveAgreement
    (if returnDirection = none ∧ slopeDirection = none then none
      else some (primitiveAgreement
        (returnDirection ∈ directional ∧ slopeDirection ∈ directional)
        (returnDirection = slopeDirection))) ++
  observe trend.quality .directionalPersistence
    (trend.directionalPersistence.map (boundaryPosition 0 1))

/-- Whether a break is confirmed. -/
def breakPresence (directions : List BreakDirection) : String :=
  if directions = [] then "NO_BREAK_CONFIRMED" else "BREAK_CONFIRMED"

/-- Whether the two latest breaks, newest first, repeat their direction. -/
def breakSequencePattern : List BreakDirection → String
  | latest :: second :: _ => if latest = second then "REPEATED_DIRECTION" else "ALTERNATING"
  | _ => "INSUFFICIENT_DATA"

/-- The presence of breaks, the latest one, and whether the last two repeat. -/
def marketStructureObservations (market : MarketStructureFeatures) :
    List TechnicalAnalysisObservation :=
  let directions := (market.breaks.map StructuralBreak.direction).reverse
  observe market.quality .structuralBreakPresence
    (some (breakPresence directions)) ++
  observe market.quality .latestBreakDirection (directions.head?.map BreakDirection.value) ++
  observe market.quality .breakSequencePattern
    (some (breakSequencePattern directions))

/-- The current true range against its average. -/
def volatilityObservations (volatility : VolatilityFeatures) : List TechnicalAnalysisObservation :=
  observe volatility.quality .rangeExpansionReference
    (volatility.rangeExpansionRatio.map referenceComparison)

/-- The sign of the rate of change, and the strength index against its midpoint. -/
def momentumObservations (momentum : MomentumFeatures) : List TechnicalAnalysisObservation :=
  let rocSign := momentum.roc.map (signCategory "POSITIVE" "NEGATIVE" "ZERO")
  let rsiRelation := momentum.rsi.map (midpointRelation 50)
  observe momentum.quality .rocSign rocSign ++
  observe momentum.quality .rsiMidpointRelation rsiRelation ++
  observe momentum.quality .momentumPrimitiveAgreement
    (if rocSign = none ∧ rsiRelation = none then none
      else some (primitiveAgreement
        (rocSign ∈ [some "POSITIVE", some "NEGATIVE"] ∧
          rsiRelation ∈ [some "ABOVE_MIDPOINT", some "BELOW_MIDPOINT"])
        (rocSign = some "POSITIVE" ↔ rsiRelation = some "ABOVE_MIDPOINT")))

/-- Price against each average, the slope of each, and the order of the outermost ones. -/
def movingAverageObservations (movingAverage : MovingAverageFeatures) :
    List TechnicalAnalysisObservation :=
  let periods := movingAverage.periods
  (periods.flatMap fun period =>
    observe movingAverage.quality .priceVsSmaPosition
      ((movingAverage.distanceFromSmaPct.lookup period).map
        (signCategory "ABOVE_SMA" "BELOW_SMA" "AT_SMA")) (some (toString period)) ++
    observe movingAverage.quality .maSlopeDirection
      ((movingAverage.maSlope.lookup period).map (signCategory "UPWARD" "DOWNWARD" "FLAT"))
      (some (toString period))) ++
  match periods.min?, periods.max? with
  | some fastest, some slowest =>
      if periods.dedup.length < 2 then []
      else observe movingAverage.quality .multiPeriodMaOrdering
        (comparison "FASTER_ABOVE_SLOWER" "FASTER_BELOW_SLOWER" "EQUAL" <$>
          movingAverage.sma.lookup fastest <*> movingAverage.sma.lookup slowest)
        (some (toString fastest ++ "_vs_" ++ toString slowest))
  | _, _ => []

/-- The geometry of the newest candle. -/
def candleStructureObservations (candle : CandleStructureFeatures) :
    List TechnicalAnalysisObservation :=
  observe candle.quality .rangeSizeState
    (candle.rangeSize.map fun range => if range = 0 then "ZERO_RANGE" else "NON_ZERO_RANGE") ++
  (match candle.bodySize, candle.upperWick, candle.lowerWick with
    | some body, some upper, some lower =>
        observe candle.quality .bodyWickDominance
          (some (comparison "BODY_DOMINANT" "WICK_DOMINANT" "EQUAL" body (upper + lower))) ++
        observe candle.quality .wickSideComparison
          (some (comparison "UPPER_WICK_LARGER" "LOWER_WICK_LARGER" "EQUAL" upper lower))
    | _, _, _ => []) ++
  observe candle.quality .closeLocationRelation
    (candle.closeLocationValue.map (midpointRelation (1 / 2)))

/-- The range against one, and the efficiency against its bounds. -/
def rangeStateObservations (rangeState : RangeStateFeatures) : List TechnicalAnalysisObservation :=
  observe rangeState.quality .normalizedRangeReference
    (rangeState.normalizedRange.map referenceComparison) ++
  observe rangeState.quality .directionalEfficiencyBoundary
    (rangeState.directionalEfficiency.map (boundaryPosition 0 1))

/-! ## Results -/

/-- The label, the quality and the observations of each analyst. -/
def reading (blocks : TechnicalFeatureBlocks) :
    TechnicalAnalystType → String × FeatureQuality × List TechnicalAnalysisObservation
  | .trend => ("trend", blocks.trend.quality, trendObservations blocks.trend)
  | .marketStructure => ("market_structure", blocks.marketStructure.quality,
      marketStructureObservations blocks.marketStructure)
  | .volatility =>
      ("volatility", blocks.volatility.quality, volatilityObservations blocks.volatility)
  | .momentum => ("momentum", blocks.momentum.quality, momentumObservations blocks.momentum)
  | .movingAverage => ("moving_average", blocks.movingAverage.quality,
      movingAverageObservations blocks.movingAverage)
  | .candleStructure => ("candle_structure", blocks.candleStructure.quality,
      candleStructureObservations blocks.candleStructure)
  | .rangeState =>
      ("range_state", blocks.rangeState.quality, rangeStateObservations blocks.rangeState)

/-- The result on one snapshot, given the reading of the analyst. -/
def result (key : Cell) (identity : TechnicalIdentity) (source : String) :
    String × FeatureQuality × List TechnicalAnalysisObservation → TechnicalAnalysisResult
  | (label, quality, observations) =>
      if quality = .unavailable ∨ observations = [] then
        { key, identity, status := .abstained, quality := .unavailable, observations := []
          abstained_empty := fun _ => rfl }
      else
        { key, identity, status := .analyzed, quality, provenance := [(label, source)]
          observations, abstained_empty := fun h => absurd h (by decide) }

/-- One analyst on one snapshot. -/
def analyze (snapshot : TechnicalFeatureSnapshot TechnicalFeatureBlocks)
    (analyst : TechnicalAnalystType) : TechnicalAnalysisResult :=
  result (analyst, snapshot.timeframe) snapshot.identity snapshot.blocks.source
    (reading snapshot.blocks analyst)

end TechnicalAnalyst

/-- The calculators and analysts of the contour. -/
def technicalComponents (parameters : TechnicalParameters) :
    TechnicalComponents TechnicalFeatureBlocks where
  compute _ _ timeframe closed := computeBlocks parameters timeframe closed
  interpret analyst snapshot :=
    let result := TechnicalAnalyst.analyze snapshot analyst
    (result.status, result.quality, result.provenance)

/-- The contour sees of a result what the analyst puts in it. -/
theorem technicalComponents_analyze (parameters : TechnicalParameters)
    (snapshot : TechnicalFeatureSnapshot TechnicalFeatureBlocks)
    (analyst : TechnicalAnalystType) :
    (technicalComponents parameters).analyze snapshot analyst =
      (TechnicalAnalyst.analyze snapshot analyst).toAnalystResult := by
  unfold TechnicalComponents.analyze technicalComponents TechnicalAnalyst.analyze
    TechnicalAnalyst.result
  dsimp only
  split <;> rfl

/-- The snapshot of closed candles. -/
def snapshotOf (parameters : TechnicalParameters) (identity : TechnicalIdentity)
    (timeframe : Timeframe) (closed : List OHLCVCandle) :
    TechnicalFeatureSnapshot TechnicalFeatureBlocks where
  identity
  timeframe
  lastClosedCandleTime := closed.getLast?.map OHLCVCandle.timestamp
  liveCandle := none
  blocks := computeBlocks parameters timeframe closed

/-- Calculators, analysts and supervisor over candle series, one per timeframe. -/
def analyzeSeries (parameters : TechnicalParameters) (analysts : List TechnicalAnalystType)
    (timeframes : List Timeframe) (identity : TechnicalIdentity)
    (series : List (Timeframe × List OHLCVCandle)) : Except CoherenceError TechnicalSupervision :=
  TechnicalSupervisor.supervise analysts timeframes (series.flatMap fun (timeframe, closed) =>
    analysts.map (TechnicalAnalyst.analyze (snapshotOf parameters identity timeframe closed)))

/-! ## A rising series -/

/-- A candle at one price. -/
def candleAt (timestamp : Timestamp) (price : Price) : OHLCVCandle := .still timestamp price 0

/-- Three rising candles on two timeframes. -/
def risingSeries : List (Timeframe × List OHLCVCandle) :=
  [.m1, .m5].map fun timeframe => (timeframe,
    [candleAt 0 (10 : ℕ), candleAt (timeframeDuration timeframe) 20,
      candleAt (2 * timeframeDuration timeframe) 30])

/-- Short lookbacks. -/
def shortLookbacks : TechnicalParameters where
  trendLookback := 2
  rsiPeriod := 2
  maPeriods := [2]

/-- The identity of the samples. -/
def sampleIdentity : TechnicalIdentity := ⟨btcusdt, .perpetual, 0⟩

end TradingAdvisor
