import Mathlib.Algebra.Order.Field.Rat
import Mathlib.Data.List.DropRight
import TradingAdvisor.Technical.TechnicalContour

/-!
# Calculators over closed candles

Every calculator reads the contiguous run of candles that ends at the newest one. Values are exact
rationals; a value without enough history is absent.

* `contiguousTail` — the candles up to the last gap;
* `olsSlope`, `simpleMovingAverage`, `exponentialMovingAverage`, `wilderRsi`, `wilderAtr` — the
  indicators;
* `computeTrendFeatures`, …, `computeRangeStateFeatures` — the feature blocks.
-/

namespace TradingAdvisor

/-- Closing price as a number. -/
def OHLCVCandle.closeValue (candle : OHLCVCandle) : ℚ := candle.close

/-! ## The contiguous run -/

/-- The candles from the first one on, newest first, up to the first gap. -/
def contiguousRun (duration : Timestamp) : List OHLCVCandle → List OHLCVCandle
  | [] => []
  | [candle] => [candle]
  | candle :: previous :: older =>
      if candle.timestamp - previous.timestamp = duration then
        candle :: contiguousRun duration (previous :: older)
      else [candle]

/-- The trailing run of candles without a missing interval, oldest first. -/
def contiguousTail (candles : List OHLCVCandle) (timeframe : Timeframe) : List OHLCVCandle :=
  (contiguousRun (timeframeDuration timeframe) candles.reverse).reverse

/-- The consecutive pairs of a series. -/
def consecutive {α : Type} (series : List α) : List (α × α) := series.zip series.tail

/-! ## Indicators -/

/-- Change from a positive base, in percent. -/
def changePct (base last : ℚ) : Option ℚ :=
  if 0 < base then some ((last - base) / base * 100) else none

/-- Change to the last close, in percent. -/
def changeFrom (base : Option ℚ) (closes : List ℚ) : Option ℚ :=
  base.bind fun base => closes.getLast?.bind (changePct base)

/-- Least-squares slope of values against their index. -/
def olsSlope (values : List ℚ) : Option ℚ :=
  let n := values.length
  let meanI : ℚ := ((n : ℚ) - 1) / 2
  let meanV := values.sum / n
  let numerator := (values.zipIdx.map fun (v, i) => ((i : ℚ) - meanI) * (v - meanV)).sum
  let denominator := ((List.range n).map fun i : ℕ => ((i : ℚ) - meanI) ^ 2).sum
  if n < 2 then none else if denominator = 0 then none else some (numerator / denominator)

/-- Mean of the last `period` closes. -/
def simpleMovingAverage (closes : List ℚ) (period : ℕ) : Option ℚ :=
  if closes.length < period then none else some ((closes.rtake period).sum / period)

/-- The exponential average, seeded with the mean of the first full period. -/
def exponentialMovingAverage (closes : List ℚ) (period : ℕ) : List ℚ :=
  if closes.length < period then []
  else
    let alpha : ℚ := 2 / (period + 1)
    (closes.drop period).scanl (fun prev close => (close - prev) * alpha + prev)
      ((closes.take period).sum / period)

/-- Wilder's smoothing, seeded with the mean of the first full period. -/
def wilderSmooth (values : List ℚ) (period : ℕ) : List ℚ :=
  (values.drop period).scanl (fun average value => (average * (period - 1) + value) / period)
    ((values.take period).sum / period)

/-- The gains between consecutive closes; a loss counts as zero. -/
def gains (closes : List ℚ) : List ℚ :=
  (consecutive closes).map fun (prev, curr) => if 0 < curr - prev then curr - prev else 0

/-- The losses between consecutive closes; a gain counts as zero. -/
def losses (closes : List ℚ) : List ℚ :=
  (consecutive closes).map fun (prev, curr) => if curr - prev < 0 then -(curr - prev) else 0

/-- The strength index of an average gain and an average loss; a flat series is neutral. -/
def rsiOf (avgGain avgLoss : ℚ) : ℚ :=
  if avgGain = 0 ∧ avgLoss = 0 then 50
  else if avgLoss = 0 then 100
  else if avgGain = 0 then 0
  else 100 - 100 / (1 + avgGain / avgLoss)

/-- Wilder's relative strength index of parallel gains and losses. -/
def wilderRsi (gains losses : List ℚ) (period : ℕ) : Option ℚ :=
  if gains.length < period then none
  else rsiOf <$> (wilderSmooth gains period).getLast? <*> (wilderSmooth losses period).getLast?

/-- True range of every candle that has a predecessor. -/
def trueRanges (candles : List OHLCVCandle) : List ℚ :=
  (consecutive candles).map fun (prev, curr) =>
    max (max ((curr.high : ℚ) - curr.low) |(curr.high : ℚ) - prev.close|)
      |(curr.low : ℚ) - prev.close|

/-- Wilder's average true range, from the first full period on. -/
def wilderAtr (trueRangeSeries : List ℚ) (period : ℕ) : List ℚ :=
  if trueRangeSeries.length < period then [] else wilderSmooth trueRangeSeries period

/-! ## Feature blocks -/

/-- Deterministic trend facts. -/
structure TrendFeatures where
  returnPct : Option ℚ := none
  slope : Option ℚ := none
  higherHighCount : ℕ := 0
  higherLowCount : ℕ := 0
  lowerHighCount : ℕ := 0
  lowerLowCount : ℕ := 0
  directionalPersistence : Option ℚ := none
  quality : FeatureQuality

theorem consecutive_map {α β : Type} (f : α → β) (l : List α) :
    consecutive (l.map f) = (consecutive l).map (Prod.map f f) := by
  rw [consecutive, consecutive, ← List.map_tail, List.zip_map]

/-- The share of the changes that go the way of the whole return. -/
def directionalPersistence (returnPct : ℚ) (closes : List ℚ) : Option ℚ :=
  let changes := ((consecutive closes).map fun (prev, curr) => curr - prev).filter (· ≠ 0)
  if returnPct = 0 ∨ changes = [] then none
  else some ((changes.countP fun diff => 0 < diff ↔ 0 < returnPct) / changes.length)

theorem changes_reflect (k : ℚ) (closes : List ℚ) :
    ((consecutive (closes.map (k - ·))).map fun (prev, curr) => curr - prev) =
      ((consecutive closes).map fun (prev, curr) => curr - prev).map Neg.neg := by
  rw [consecutive_map, List.map_map, List.map_map]
  refine List.map_congr_left fun pair _ => ?_
  simp only [Function.comp, Prod.map]
  rw [sub_sub_sub_cancel_left, neg_sub]

/-- Return over all the closes, when they span the whole lookback. -/
def returnOver (lookback : ℕ) (closes : List ℚ) : Option ℚ :=
  if lookback + 1 ≤ closes.length then changeFrom closes.head? closes else none

/-- Trend facts over up to `lookback` closed intervals. -/
def computeTrendFeatures (timeframe : Timeframe) (candles : List OHLCVCandle) (lookback : ℕ) :
    TrendFeatures :=
  let used := (contiguousTail candles timeframe).rtake (lookback + 1)
  let closes := used.map OHLCVCandle.closeValue
  let returnPct := returnOver lookback closes
  if used.length < 2 then { quality := .unavailable }
  else {
    returnPct
    slope := olsSlope closes
    higherHighCount := (consecutive used).countP fun (prev, curr) => prev.high < curr.high
    higherLowCount := (consecutive used).countP fun (prev, curr) => prev.low < curr.low
    lowerHighCount := (consecutive used).countP fun (prev, curr) => curr.high < prev.high
    lowerLowCount := (consecutive used).countP fun (prev, curr) => curr.low < prev.low
    directionalPersistence := returnPct.bind fun r => directionalPersistence r closes
    quality := if used.length < lookback + 1 then .partialData else .valid }

/-- Deterministic momentum facts. -/
structure MomentumFeatures where
  roc : Option ℚ
  rsi : Option ℚ
  quality : FeatureQuality

/-- Rate of change over the last `rocPeriod` intervals. -/
def rocOver (rocPeriod : ℕ) (closes : List ℚ) : Option ℚ :=
  if rocPeriod + 1 ≤ closes.length then changeFrom (closes.rtake (rocPeriod + 1)).head? closes
  else none

/-- Rate of change and relative strength index. -/
def computeMomentumFeatures (timeframe : Timeframe) (candles : List OHLCVCandle)
    (rocPeriod rsiPeriod : ℕ) : MomentumFeatures :=
  let tail := contiguousTail candles timeframe
  let closes := tail.map OHLCVCandle.closeValue
  let roc := rocOver rocPeriod closes
  let rsi := wilderRsi (gains closes) (losses closes) rsiPeriod
  { roc, rsi
    quality :=
      if tail = [] then .unavailable
      else if roc = none ∨ rsi = none then .partialData
      else .valid }

/-- Deterministic moving-average facts by period; a period without enough history is absent. -/
structure MovingAverageFeatures where
  periods : List ℕ
  sma : List (ℕ × ℚ)
  ema : List (ℕ × ℚ)
  distanceFromSmaPct : List (ℕ × ℚ)
  maSlope : List (ℕ × ℚ)
  quality : FeatureQuality

/-- Number of averages that the slope of an average is taken over. -/
def maSlopeWindow : ℕ := 3

/-- A value per period, for the periods that have one. -/
def perPeriod (periods : List ℕ) (value : ℕ → Option ℚ) : List (ℕ × ℚ) :=
  periods.dedup.filterMap fun period => (value period).map fun v => (period, v)

/-- Averages, distances and slopes per period. -/
def computeMovingAverageFeatures (timeframe : Timeframe) (candles : List OHLCVCandle)
    (periods : List ℕ) : MovingAverageFeatures :=
  let tail := contiguousTail candles timeframe
  let closes := tail.map OHLCVCandle.closeValue
  let sma := perPeriod periods (simpleMovingAverage closes)
  { periods, sma
    ema := perPeriod periods fun period => (exponentialMovingAverage closes period).getLast?
    distanceFromSmaPct := perPeriod periods fun period =>
      changeFrom (simpleMovingAverage closes period) closes
    maSlope := perPeriod periods fun period =>
      olsSlope ((exponentialMovingAverage closes period).rtake maSlopeWindow)
    quality :=
      if tail = [] then .unavailable
      else if sma.length < periods.length then .partialData
      else .valid }

/-- Deterministic volatility facts. -/
structure VolatilityFeatures where
  rangeExpansionRatio : Option ℚ
  quality : FeatureQuality

/-- The current true range against its average. -/
def computeVolatilityFeatures (timeframe : Timeframe) (candles : List OHLCVCandle)
    (atrPeriod : ℕ) : VolatilityFeatures :=
  let tail := contiguousTail candles timeframe
  let trs := trueRanges tail
  let currentAtr := (wilderAtr trs atrPeriod).getLast?
  { rangeExpansionRatio := trs.getLast?.bind fun currentTrueRange =>
      currentAtr.bind fun atr => if atr ≠ 0 then some (currentTrueRange / atr) else none
    quality :=
      if tail = [] then .unavailable else if currentAtr = none then .partialData else .valid }

/-- Deterministic geometry of one candle. -/
structure CandleStructureFeatures where
  bodySize : Option ℚ := none
  upperWick : Option ℚ := none
  lowerWick : Option ℚ := none
  rangeSize : Option ℚ := none
  closeLocationValue : Option ℚ := none
  quality : FeatureQuality

/-- Geometry of the newest candle. -/
def computeCandleStructureFeatures (candles : List OHLCVCandle) : CandleStructureFeatures :=
  match candles.getLast? with
  | none => { quality := .unavailable }
  | some candle =>
      let rangeSize : ℚ := (candle.high : ℚ) - candle.low
      { bodySize := some |(candle.close : ℚ) - candle.openPrice|
        upperWick := some ((candle.high : ℚ) - max (candle.openPrice : ℚ) candle.close)
        lowerWick := some (min (candle.openPrice : ℚ) candle.close - candle.low)
        rangeSize := some rangeSize
        closeLocationValue :=
          if 0 < rangeSize then some (((candle.close : ℚ) - candle.low) / rangeSize) else none
        quality := .valid }

/-- Deterministic range facts. -/
structure RangeStateFeatures where
  normalizedRange : Option ℚ
  directionalEfficiency : Option ℚ
  quality : FeatureQuality

/-- Highest high less lowest low. -/
def rollingRange (window : List OHLCVCandle) : Option ℚ :=
  (window.map fun candle => (candle.high : ℚ)).max?.bind fun high =>
    (window.map fun candle => (candle.low : ℚ)).min?.map fun low => high - low

/-- The net change against the gross change. -/
def directionalEfficiency (closes : List ℚ) : Option ℚ :=
  let grossChange := ((consecutive closes).map fun (prev, curr) => |curr - prev|).sum
  if closes.length < 2 then none
  else closes.head?.bind fun first => closes.getLast?.bind fun last =>
    if 0 < grossChange then some (|last - first| / grossChange) else none

theorem moves_reflect (k : ℚ) (closes : List ℚ) :
    (consecutive (closes.map (k - ·))).map (fun (prev, curr) => |curr - prev|) =
      (consecutive closes).map fun (prev, curr) => |curr - prev| := by
  rw [consecutive_map, List.map_map]
  refine List.map_congr_left fun pair _ => ?_
  show |k - pair.2 - (k - pair.1)| = |pair.2 - pair.1|
  rw [sub_sub_sub_cancel_left, abs_sub_comm]

/-- The range against the average true range, and the efficiency. -/
def computeRangeStateFeatures (timeframe : Timeframe) (candles : List OHLCVCandle)
    (lookback atrPeriod : ℕ) : RangeStateFeatures :=
  let tail := contiguousTail candles timeframe
  let window := tail.rtake lookback
  let currentAtr := (wilderAtr (trueRanges tail) atrPeriod).getLast?
  { normalizedRange := (rollingRange window).bind fun range =>
      currentAtr.bind fun atr => if atr ≠ 0 then some (range / atr) else none
    directionalEfficiency := directionalEfficiency (window.map OHLCVCandle.closeValue)
    quality :=
      if tail = [] then .unavailable
      else if window.length < lookback ∨ currentAtr = none then .partialData
      else .valid }

end TradingAdvisor
