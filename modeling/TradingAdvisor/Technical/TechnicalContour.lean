import TradingAdvisor.Flow.FlowContour

/-!
# The technical contour

For every configured timeframe the composer fetches candles, records the closed ones it does not
retain yet, composes a snapshot and runs seven analysts over it; the supervisor aggregates all the
cells. A failed fetch leaves the history of its timeframe as it was.

* `TechnicalFeatureEngine`, `refresh` — one timeframe;
* `buildTechnicalResult` — the result of the contour;
* `buildTechnicalResult_identity` — **it carries the upper-case symbol and the time of the
  request**.
-/

namespace TradingAdvisor

open Checks VersionedStore

/-- Candle timeframe. -/
inductive Timeframe
  | m1
  | m5
  | m15
  | m30
  | h1
  | h4
  | d1
  | w1
  deriving DecidableEq, Repr

/-- The timeframes in their canonical order. -/
def canonicalTimeframes : List Timeframe := [.m1, .m5, .m15, .m30, .h1, .h4, .d1, .w1]

/-- Nominal duration of one candle. -/
def timeframeDuration : Timeframe → Timestamp
  | .m1 => minutes 1
  | .m5 => minutes 5
  | .m15 => minutes 15
  | .m30 => minutes 30
  | .h1 => minutes 60
  | .h4 => minutes 240
  | .d1 => minutes 1440
  | .w1 => minutes 10080

theorem timeframeDuration_pos (timeframe : Timeframe) : 0 < timeframeDuration timeframe := by
  cases timeframe <;> decide

/-- The specialists of the technical contour. -/
inductive TechnicalAnalystType
  | trend
  | marketStructure
  | volatility
  | momentum
  | movingAverage
  | candleStructure
  | rangeState
  deriving DecidableEq, Repr

/-- The specialists in their canonical order. -/
def technicalAnalysts : List TechnicalAnalystType :=
  [.trend, .marketStructure, .volatility, .momentum, .movingAverage, .candleStructure, .rangeState]

/-- A single bar as delivered by a data source. -/
structure OHLCVCandle where
  timestamp : Timestamp
  openPrice : Price
  high : Price
  low : Price
  close : Price
  volume : Volume
  openInRange : low ≤ openPrice ∧ openPrice ≤ high
  closeInRange : low ≤ close ∧ close ≤ high

/-- A bar of a market that does not move. -/
def OHLCVCandle.still (timestamp : Timestamp) (price : Price) (volume : Volume) : OHLCVCandle where
  timestamp
  openPrice := price
  high := price
  low := price
  close := price
  volume
  openInRange := ⟨le_rfl, le_rfl⟩
  closeInRange := ⟨le_rfl, le_rfl⟩

/-- The epoch-aligned boundary at or before a timestamp. The source floors the seconds as a double,
which is the same within `2 ^ 34` seconds of the epoch (`bucketStartFor_eq`). -/
def expectedOpenTime (timestamp : Timestamp) (timeframe : Timeframe) : Timestamp :=
  timestamp / timeframeDuration timeframe * timeframeDuration timeframe

/-- The candle has fully closed. -/
def OHLCVCandle.IsClosed (candle : OHLCVCandle) (timeframe : Timeframe) (asOf : Timestamp) : Prop :=
  candle.timestamp + timeframeDuration timeframe ≤ asOf

instance (candle : OHLCVCandle) (timeframe : Timeframe) (asOf : Timestamp) :
    Decidable (candle.IsClosed timeframe asOf) :=
  inferInstanceAs (Decidable (_ ≤ _))

/-- The closed candles, and the last candle if it is still forming. -/
def splitClosedAndForming (candles : List OHLCVCandle) (timeframe : Timeframe) (asOf : Timestamp) :
    List OHLCVCandle × Option OHLCVCandle :=
  (candles.filter fun candle => candle.IsClosed timeframe asOf,
    candles.getLast?.filter fun candle => ¬ candle.IsClosed timeframe asOf)

/-- Bounded retention of candles by their timestamps. -/
structure ChronologicalCandleStore where
  capacity : ℕ
  byTimestamp : Dict Timestamp OHLCVCandle := ∅
  droppedCount : ℕ := 0

/-- The retained candles, oldest first. -/
def ChronologicalCandleStore.latest (store : ChronologicalCandleStore) : List OHLCVCandle :=
  (sortedPairs (· ≤ ·) store.byTimestamp).map Prod.snd

/-- Insert one candle; the oldest one is evicted on overflow. -/
def ChronologicalCandleStore.append {κ : Type} (store : ChronologicalCandleStore)
    (candle : OHLCVCandle) : Except (ContourError κ) ChronologicalCandleStore := do
  check (candle.timestamp ∉ store.byTimestamp) .duplicateCandleTimestamp
  let grown := store.byTimestamp.insert candle.timestamp candle
  let oldest := (sortedPairs (· ≤ ·) grown).head?
  return { store with
    byTimestamp :=
      if store.capacity < grown.keys.length then oldest.elim grown fun kv => grown.erase kv.1
      else grown
    droppedCount :=
      if store.capacity < grown.keys.length then store.droppedCount + 1 else store.droppedCount }

/-- What the results about one snapshot have in common. -/
structure TechnicalIdentity where
  symbol : Symbol
  contractType : ContractType
  observationTime : Timestamp
  deriving DecidableEq

/-- Synchronized snapshot of one timeframe. -/
structure TechnicalFeatureSnapshot (B : Type) where
  identity : TechnicalIdentity
  timeframe : Timeframe
  lastClosedCandleTime : Option Timestamp
  liveCandle : Option OHLCVCandle
  blocks : B

/-- Bounded history of one symbol, contract type and timeframe. -/
structure SymbolTimeframeHistory (B : Type) where
  candles : ChronologicalCandleStore := { capacity := 1000 }
  snapshots : List (TechnicalFeatureSnapshot B) := []

/-- The analyst and the timeframe of a result. -/
abbrev Cell := TechnicalAnalystType × Timeframe

/-- The calculators over closed candles and the interpretation of the analysts. -/
structure TechnicalComponents (B : Type) where
  compute : Symbol → ContractType → Timeframe → List OHLCVCandle → B
  interpret : TechnicalAnalystType → TechnicalFeatureSnapshot B →
    AnalystOutcome × FeatureQuality × List (String × String)

/-- Bounded history per symbol, contract type and timeframe. -/
structure TechnicalFeatureEngine (B : Type) where
  state : Dict (String × ContractType × Timeframe) (SymbolTimeframeHistory B)

/-- Source of candles; a failure is named by its type. -/
abbrev OHLCVProvider := Symbol → Timeframe → (limit : ℕ) → (asOf : Timestamp) →
  Except String (List OHLCVCandle)

/-- One timeframe's fetch failure. -/
structure TechnicalFetchFailure where
  timeframe : Timeframe
  errorType : String
  deriving DecidableEq

/-- Number of candles fetched per timeframe. -/
def technicalOhlcvFetchLimit : ℕ := 51

/-- The bounded snapshot buffer keeps the last 200. -/
def snapshotCapacity : ℕ := 200

variable {B : Type} (m : CaseMapping) (c : TechnicalComponents B)

namespace TechnicalFeatureEngine

/-- The history of one key; an empty one at first. -/
def historyFor (engine : TechnicalFeatureEngine B) (symbol : String) (contractType : ContractType)
    (timeframe : Timeframe) : SymbolTimeframeHistory B :=
  (engine.state.lookup (m.upper symbol, contractType, timeframe)).getD {}

/-- Ingest one candle. -/
def recordCandle (engine : TechnicalFeatureEngine B) (symbol : String) (contractType : ContractType)
    (timeframe : Timeframe) (candle : OHLCVCandle) :
    Except (ContourError Cell) (TechnicalFeatureEngine B) := do
  let symbol := m.upper symbol
  check (candle.timestamp = expectedOpenTime candle.timestamp timeframe) .misalignedCandle
  let history := engine.historyFor m symbol contractType timeframe
  let candles ← history.candles.append candle
  let state := engine.state.insert (m.upper symbol, contractType, timeframe)
    { history with candles := candles }
  return { state }

/-- Ingest candles in the supplied order. -/
def recordCandles (engine : TechnicalFeatureEngine B) (symbol : String)
    (contractType : ContractType) (timeframe : Timeframe) (candles : List OHLCVCandle) :
    Except (ContourError Cell) (TechnicalFeatureEngine B) :=
  candles.foldlM (fun engine => engine.recordCandle m symbol contractType timeframe) engine

/-- Compose one synchronized snapshot from the closed candles. -/
def buildSnapshot (engine : TechnicalFeatureEngine B) (symbol : String)
    (contractType : ContractType) (timeframe : Timeframe) (asOf : Timestamp) :
    Except (ContourError Cell) (TechnicalFeatureSnapshot B × TechnicalFeatureEngine B) := do
  let symbol := m.upper symbol
  let history := engine.historyFor m symbol contractType timeframe
  let (closed, liveCandle) := splitClosedAndForming history.candles.latest timeframe asOf
  let stamped ← validSymbol symbol
  let snapshot : TechnicalFeatureSnapshot B := {
    identity := { symbol := stamped, contractType, observationTime := asOf }
    timeframe
    lastClosedCandleTime := closed.getLast?.map OHLCVCandle.timestamp
    liveCandle
    blocks := c.compute stamped contractType timeframe closed }
  let snapshots := (snapshot :: history.snapshots).take snapshotCapacity
  let state := engine.state.insert (m.upper symbol, contractType, timeframe)
    { history with snapshots := snapshots }
  return (snapshot, { state })

end TechnicalFeatureEngine

/-- One specialist on one snapshot. -/
def TechnicalComponents.analyze (snapshot : TechnicalFeatureSnapshot B)
    (analyst : TechnicalAnalystType) : AnalystResult Cell TechnicalIdentity :=
  let (status, quality, provenance) := c.interpret analyst snapshot
  { key := (analyst, snapshot.timeframe), identity := snapshot.identity, status, quality,
    provenance }

/-- Aggregation over the cells of the timeframes, timeframe-major. -/
def TechnicalSupervisor.aggregate (timeframes : List Timeframe)
    (results : List (AnalystResult Cell TechnicalIdentity)) :
    Except (SupervisorInputError Cell) (SupervisorResult Cell TechnicalIdentity) :=
  let expectedTimeframes := canonicalTimeframes.filter (· ∈ timeframes)
  TradingAdvisor.aggregate
    (expectedTimeframes.flatMap fun t => technicalAnalysts.map fun a => (a, t))
    (fun key =>
      if key.1 ∉ technicalAnalysts then some (.unexpectedAnalyst key)
      else if key.2 ∉ expectedTimeframes then some (.unexpectedTimeframe key)
      else none)
    results results

/-- The result of the contour, the snapshot that Setup Construction reads, and what failed. -/
structure TechnicalProductionResult (B : Type) where
  technical : SupervisorResult Cell TechnicalIdentity
  m15 : TechnicalFeatureSnapshot B
  fetchFailures : List TechnicalFetchFailure

/-- Record the closed candles of a fetch that are not retained yet. -/
def ingest (engine : TechnicalFeatureEngine B) (symbol : Symbol) (contractType : ContractType)
    (asOf : Timestamp) (timeframe : Timeframe) :
    Except String (List OHLCVCandle) →
      Except (ContourError Cell) (List TechnicalFetchFailure × TechnicalFeatureEngine B)
  | .error errorType => .ok ([{ timeframe, errorType }], engine)
  | .ok candles => do
      let (closed, _) := splitClosedAndForming candles timeframe asOf
      let history := engine.historyFor m symbol.val contractType timeframe
      let retained := history.candles.latest.map OHLCVCandle.timestamp
      let newClosed := closed.filter fun candle => candle.timestamp ∉ retained
      let engine ← engine.recordCandles m symbol.val contractType timeframe newClosed
      return ([], engine)

/-- Refresh one timeframe from a fresh fetch and compose its snapshot. -/
def refresh (provider : OHLCVProvider) (engine : TechnicalFeatureEngine B) (symbol : Symbol)
    (contractType : ContractType) (asOf : Timestamp) (timeframe : Timeframe) :
    Except (ContourError Cell)
      (TechnicalFeatureSnapshot B × List TechnicalFetchFailure × TechnicalFeatureEngine B) := do
  let (failures, engine) ← ingest m engine symbol contractType asOf timeframe
    (provider symbol timeframe technicalOhlcvFetchLimit asOf)
  let (snapshot, engine) ← engine.buildSnapshot m c symbol.val contractType timeframe asOf
  return (snapshot, failures, engine)

/-- Refresh the timeframes in order. -/
def refreshAll (provider : OHLCVProvider) (symbol : Symbol) (contractType : ContractType)
    (asOf : Timestamp) : TechnicalFeatureEngine B → List Timeframe →
      Except (ContourError Cell) (List (TechnicalFeatureSnapshot B) × List TechnicalFetchFailure ×
        TechnicalFeatureEngine B)
  | engine, [] => .ok ([], [], engine)
  | engine, timeframe :: timeframes => do
      let (snapshot, failures, engine) ←
        refresh m c provider engine symbol contractType asOf timeframe
      let (snapshots, later, engine) ←
        refreshAll provider symbol contractType asOf engine timeframes
      return (snapshot :: snapshots, failures ++ later, engine)

/-- Build the current technical result; the composer rejects timeframes without `m15`. -/
def buildTechnicalResult (provider : OHLCVProvider) (timeframes : List Timeframe)
    (engine : TechnicalFeatureEngine B) (symbol : Symbol) (contractType : ContractType)
    (asOf : Timestamp) : Except (ContourError Cell)
      (Option (TechnicalProductionResult B) × TechnicalFeatureEngine B) := do
  let (snapshots, fetchFailures, engine) ←
    refreshAll m c provider symbol contractType asOf engine timeframes
  let results := snapshots.flatMap fun snapshot => technicalAnalysts.map (c.analyze snapshot)
  let technical ← supervised (TechnicalSupervisor.aggregate timeframes results)
  let m15 := (snapshots.filter fun snapshot => snapshot.timeframe = .m15).getLast?
  return (m15.map fun m15 => { technical, m15, fetchFailures }, engine)

variable {m c} {provider : OHLCVProvider} {timeframes : List Timeframe} {timeframe : Timeframe}
  {engine engine' : TechnicalFeatureEngine B} {symbol : Symbol} {contractType : ContractType}
  {asOf : Timestamp}

/-- The snapshot is stamped with the upper-case symbol and the time of the request. -/
def StampedAs (m : CaseMapping) (symbol : Symbol) (contractType : ContractType) (asOf : Timestamp)
    (identity : TechnicalIdentity) : Prop :=
  identity.symbol.val = m.upper symbol.val ∧ identity.contractType = contractType ∧
    identity.observationTime = asOf

theorem TechnicalFeatureEngine.buildSnapshot_ok {snapshot : TechnicalFeatureSnapshot B}
    (h : engine.buildSnapshot m c symbol.val contractType timeframe asOf =
      .ok (snapshot, engine')) : StampedAs m symbol contractType asOf snapshot.identity := by
  obtain ⟨stamped, hstamped, h⟩ := bind_ok_iff.mp h
  cases h
  exact ⟨validSymbol_ok_iff.mp hstamped, rfl, rfl⟩

theorem refresh_ok {snapshot : TechnicalFeatureSnapshot B} {failures : List TechnicalFetchFailure}
    (h : refresh m c provider engine symbol contractType asOf timeframe =
      .ok (snapshot, failures, engine')) :
    StampedAs m symbol contractType asOf snapshot.identity := by
  obtain ⟨⟨failures', engine₁⟩, -, h⟩ := bind_ok_iff.mp h
  obtain ⟨⟨snapshot', engine₂⟩, hsnap, h⟩ := bind_ok_iff.mp h
  cases h
  exact TechnicalFeatureEngine.buildSnapshot_ok hsnap

theorem refreshAll_ok {snapshots : List (TechnicalFeatureSnapshot B)}
    {failures : List TechnicalFetchFailure}
    (h : refreshAll m c provider symbol contractType asOf engine timeframes =
      .ok (snapshots, failures, engine')) :
    ∀ snapshot ∈ snapshots, StampedAs m symbol contractType asOf snapshot.identity := by
  induction timeframes generalizing engine snapshots failures engine' with
  | nil =>
      cases h
      exact fun _ hmem => absurd hmem List.not_mem_nil
  | cons timeframe timeframes ih =>
      obtain ⟨⟨first, failures₁, engine₁⟩, hfirst, h⟩ := bind_ok_iff.mp h
      obtain ⟨⟨rest, failures₂, engine₂⟩, hrest, h⟩ := bind_ok_iff.mp h
      cases h
      exact List.forall_mem_cons.mpr ⟨refresh_ok hfirst, ih hrest⟩

/-- **The contour stamps the upper-case symbol and the time of the request.** -/
theorem buildTechnicalResult_identity {result : TechnicalProductionResult B}
    (h : buildTechnicalResult m c provider timeframes engine symbol contractType asOf =
      .ok (some result, engine')) :
    StampedAs m symbol contractType asOf result.technical.identity := by
  obtain ⟨⟨snapshots, failures, engine₁⟩, hsnaps, h⟩ := bind_ok_iff.mp h
  obtain ⟨technical, htech, h⟩ := bind_ok_iff.mp h
  injection h with h
  obtain ⟨m15, -, rfl⟩ := Option.map_eq_some_iff.mp (Prod.ext_iff.mp h).1
  obtain ⟨cell, hmem, hid⟩ := aggregate_identity (supervised_ok_iff.mp htech)
  obtain ⟨snapshot, hsnap, hcell⟩ := List.mem_flatMap.mp hmem
  obtain ⟨analyst, -, rfl⟩ := List.mem_map.mp hcell
  show StampedAs m symbol contractType asOf technical.identity
  rw [hid]
  exact refreshAll_ok hsnaps snapshot hsnap

end TradingAdvisor
