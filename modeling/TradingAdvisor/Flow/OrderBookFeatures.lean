import TradingAdvisor.Flow.Features
import TradingAdvisor.Lib.Binary64
import TradingAdvisor.Lib.Rounding

/-!
# Order-book features

Depth of both sides within configured bands, from the latest snapshot of a bounded history. A
band is reported as valid only when the retained levels reach it.

* `sideBandDepth` — depth of one side within a band, and whether the levels cover the band;
* `bandFeatures`, `computeOrderBookFeatures` — the feature block with its verdict.
-/

namespace TradingAdvisor

open VersionedStore SignificantDigits

/-- How far a depth band reaches: a number of levels, or basis points from the mid price. -/
inductive BandReach
  | topN (n : {n : ℕ // 0 < n})
  | maxDistanceBps (bps : {d : ℚ // 0 < d})

/-- A depth band of a label and exactly one reach. -/
structure DepthBand where
  label : NonemptyText
  reach : BandReach

/-- Depth features of both sides within one band; the windows of the changes have unique labels. -/
structure DepthBandFeatures where
  band : DepthBand
  bidDepth : Option ℚ
  askDepth : Option ℚ
  depthImbalance : Option ℚ
  bidDepthChange : Dict String ℚ
  askDepthChange : Dict String ℚ
  status : FeatureStatus

/-- Point-in-time order-book features of one symbol; the bands have unique labels. -/
structure OrderBookFeatures where
  symbol : Symbol
  contractType : ContractType
  asOf : Timestamp
  bestBid : Option Price := none
  bestAsk : Option Price := none
  spread : Option ℚ := none
  spreadBps : Option ℚ := none
  midPrice : Option ℚ := none
  bands : Dict String DepthBandFeatures := ∅
  status : FeatureStatus
  source : NonemptyText

variable (R : Rounding)

/-- The mid price of a book with both sides. -/
def midPrice (bids asks : List OrderBookLevel) : Option ℚ :=
  match bids.head?, asks.head? with
  | some bid, some ask => some (R.rnd (R.rnd (bid.price + ask.price) / 2))
  | _, _ => none

/-- The largest distance from the mid price within a band. -/
def maxDistance (mid bps : ℚ) : ℚ := R.rnd (R.rnd (mid * bps) / 10000)

/-- The distance of a level from the mid price. -/
def midDistance (mid : ℚ) (level : OrderBookLevel) : ℚ := |R.rnd (level.price - mid)|

/-- The total quantity of levels. -/
def depth (levels : List OrderBookLevel) : ℚ :=
  R.sum (levels.map fun level => (level.quantity : ℚ))

/-- Depth of one side within a band, and whether the levels cover the band. -/
def sideBandDepth (levels : List OrderBookLevel) (band : DepthBand) (mid : Option ℚ) :
    Option ℚ × Bool :=
  match levels.getLast? with
  | none => (none, false)
  | some worst =>
      match band.reach, mid with
      | .topN n, _ => (some (depth R (levels.take n)), decide (n ≤ levels.length))
      | .maxDistanceBps _, none => (none, false)
      | .maxDistanceBps bps, some mid =>
          if mid = 0 then (none, false)
          else
            (some (depth R (levels.filter fun level =>
              midDistance R mid level ≤ maxDistance R mid bps)),
              decide (maxDistance R mid bps ≤ midDistance R mid worst))

/-- The change of one side's depth between the two ends of each window. -/
def depthChange (side : BookSide) (band : DepthBand) (history : List OrderBookSnapshot)
    (windows : List AnalyticsWindow) (observationTime : Timestamp) : Dict String ℚ :=
  windows.foldl (fun changes window =>
    let bounds := windowBounds observationTime window.duration
    let latest := latestAtOrBefore history.zipIdx (fun item => item.1.timestamp)
    match latest bounds.2, latest bounds.1 with
    | some (last, i), some (first, j) =>
        -- the same retained snapshot at both ends measures no change
        if i = j then changes
        else
          let bandDepth snapshot :=
            (sideBandDepth R (OrderBookSnapshot.levels snapshot side) band
              (midPrice R snapshot.bids snapshot.asks)).1
          match bandDepth last, bandDepth first with
          | some lastDepth, some firstDepth =>
              changes.insert window.label (R.rnd (lastDepth - firstDepth))
          | _, _ => changes
    | _, _ => changes) ∅

/-- The sides whose levels do not cover a band. -/
def insufficientSides (bidCovered askCovered : Bool) : List BookSide :=
  (if bidCovered then [] else [.bid]) ++ if askCovered then [] else [.ask]

/-- The features of one band. -/
def bandFeatures (band : DepthBand) (snapshot : OrderBookSnapshot)
    (history : List OrderBookSnapshot) (windows : List AnalyticsWindow)
    (observationTime : Timestamp) (freshnessQuality : FeatureQuality)
    (freshnessReason : Option FeatureReason) : DepthBandFeatures :=
  let mid := midPrice R snapshot.bids snapshot.asks
  let (bidDepth, bidCovered) := sideBandDepth R snapshot.bids band mid
  let (askDepth, askCovered) := sideBandDepth R snapshot.asks band mid
  let sampleCount := snapshot.bids.length + snapshot.asks.length
  let (quality, reasons, depthImbalance) :=
    match bidDepth, askDepth with
    | some bid, some ask =>
        let total := R.rnd (bid + ask)
        (worseOf freshnessQuality (if bidCovered ∧ askCovered then .valid else .partialData),
          if bidCovered ∧ askCovered then []
          else [FeatureReason.bandExceedsDepth band.label
            (insufficientSides bidCovered askCovered)],
          if 0 < total then some (Binary64.nearest (R.rnd (R.rnd (bid - ask) / total))) else none)
    | _, _ => (.unavailable, [.noBandData band.label], none)
  { band, bidDepth, askDepth, depthImbalance
    bidDepthChange := depthChange R .bid band history windows observationTime
    askDepthChange := depthChange R .ask band history windows observationTime
    status := ⟨quality, sampleCount, freshnessReason.toList ++ reasons⟩ }

/-- The difference of the best prices. -/
def spread (snapshot : OrderBookSnapshot) : Option ℚ :=
  match snapshot.bids.head?, snapshot.asks.head? with
  | some bid, some ask => some (R.rnd (ask.price - bid.price))
  | _, _ => none

/-- Point-in-time order-book features of the latest snapshot at or before an observation. -/
def computeOrderBookFeatures (symbol : Symbol) (contractType : ContractType)
    (history : List OrderBookSnapshot) (bands : List DepthBand) (windows : List AnalyticsWindow)
    (observationTime : Timestamp) (source : NonemptyText) (maxStaleness : ℤ) :
    OrderBookFeatures :=
  match latestAtOrBefore history OrderBookSnapshot.timestamp observationTime with
  | none =>
      { symbol, contractType, asOf := observationTime, source
        status := ⟨.unavailable, 0, [.noSnapshot]⟩ }
  | some latest =>
      let mid := midPrice R latest.bids latest.asks
      let staleness := observationTime - latest.timestamp
      let freshnessQuality : FeatureQuality :=
        if maxStaleness < staleness then .stale else .valid
      let freshnessReason :=
        if maxStaleness < staleness then some (.staleSnapshot staleness maxStaleness) else none
      { symbol, contractType, asOf := latest.timestamp
        bestBid := latest.bids.head?.map OrderBookLevel.price
        bestAsk := latest.asks.head?.map OrderBookLevel.price
        spread := spread R latest
        spreadBps :=
          match spread R latest, mid with
          | some spread, some mid =>
              if 0 < mid then some (R.rnd (R.rnd (spread / mid) * 10000)) else none
          | _, _ => none
        midPrice := mid
        bands := bands.foldl (fun features band => features.insert band.label
          (bandFeatures R band latest history windows observationTime freshnessQuality
            freshnessReason)) ∅
        status := ⟨freshnessQuality, 1, freshnessReason.toList⟩
        source }

end TradingAdvisor
