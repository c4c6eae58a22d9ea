import Mathlib.Data.PNat.Basic
import TradingAdvisor.Flow.FlowContour
import TradingAdvisor.Flow.WindowFeatures

/-!
# Bounded flow histories

The engine keeps a bounded buffer per domain for each upper-case symbol and contract type; a full
buffer drops its oldest item and counts it. The blocks of a snapshot are computed from what is
retained.

* `BoundedBuffer`, `SymbolFeatureHistory`, `FlowEvent` — the histories and what is recorded;
* `computeBlocks` — the blocks of one snapshot;
* `FlowCall`, `FlowFeatureEngine.run` — the calls of an engine;
* `historyFor_run` — **after any calls a history holds the newest events of its key, and has
  counted the others**.
-/

namespace TradingAdvisor

open VersionedStore SignificantDigits

/-! ## Buffers -/

/-- Fixed-capacity ring buffer with a drop-oldest overflow policy. -/
structure BoundedBuffer (α : Type) where
  maxlen : ℕ+
  items : List α := []
  droppedCount : ℕ := 0

namespace BoundedBuffer

variable {α : Type}

/-- Append an item; a full buffer drops its oldest one. -/
def append (buffer : BoundedBuffer α) (item : α) : BoundedBuffer α :=
  if buffer.items.length = buffer.maxlen then
    { buffer with items := buffer.items.tail ++ [item], droppedCount := buffer.droppedCount + 1 }
  else { buffer with items := buffer.items ++ [item] }

/-- The items a buffer of some capacity has dropped from a sequence. -/
def dropped (maxlen : ℕ+) (all : List α) : List α := all.take (all.length - maxlen)

/-- The items a buffer of some capacity keeps of a sequence. -/
def kept (maxlen : ℕ+) (all : List α) : List α := all.drop (all.length - maxlen)

/-- The buffer holds what it keeps of a sequence, and has counted the rest. -/
structure Holds (buffer : BoundedBuffer α) (maxlen : ℕ+) (all : List α) : Prop where
  capacity : buffer.maxlen = maxlen
  items : buffer.items = kept maxlen all
  droppedCount : buffer.droppedCount = (dropped maxlen all).length

variable {maxlen : ℕ+} {all : List α} {buffer : BoundedBuffer α}

theorem dropped_append_kept (maxlen : ℕ+) (all : List α) :
    dropped maxlen all ++ kept maxlen all = all := List.take_append_drop _ all

theorem length_dropped (maxlen : ℕ+) (all : List α) :
    (dropped maxlen all).length = all.length - maxlen := by
  rw [dropped, List.length_take]
  omega

theorem length_kept (maxlen : ℕ+) (all : List α) :
    (kept maxlen all).length = min all.length maxlen := by
  rw [kept, List.length_drop]
  omega

theorem getLast?_kept (maxlen : ℕ+) (all : List α) : (kept maxlen all).getLast? = all.getLast? := by
  have hpos := maxlen.pos
  cases all with
  | nil => simp [kept]
  | cons a all =>
      rw [kept, List.getLast?_drop, if_neg]
      rw [List.length_cons]
      omega

theorem holds_nil (maxlen : ℕ+) : Holds (α := α) { maxlen } maxlen [] :=
  ⟨rfl, by simp [kept], by simp [dropped]⟩

theorem Holds.append (h : Holds buffer maxlen all) (item : α) :
    Holds (buffer.append item) maxlen (all ++ [item]) := by
  obtain ⟨rfl, hitems, hcount⟩ := h
  have hpos := buffer.maxlen.pos
  have hlen : buffer.items.length = min all.length buffer.maxlen := hitems ▸ length_kept _ all
  unfold BoundedBuffer.append
  split_ifs with hfull
  · have hle : (buffer.maxlen : ℕ) ≤ all.length := by omega
    refine ⟨rfl, ?_, ?_⟩
    · show buffer.items.tail ++ [item] = _
      rw [hitems, kept, kept, List.tail_drop, List.length_append, List.length_singleton,
        Nat.sub_add_comm hle, List.drop_append_of_le_length (by omega)]
    · show buffer.droppedCount + 1 = _
      rw [hcount, length_dropped, length_dropped, List.length_append, List.length_singleton]
      omega
  · have hlt : all.length < buffer.maxlen := by omega
    refine ⟨rfl, ?_, ?_⟩
    · show buffer.items ++ [item] = _
      rw [hitems, kept, kept, List.length_append, List.length_singleton,
        Nat.sub_eq_zero_of_le hlt.le, Nat.sub_eq_zero_of_le (Nat.succ_le_of_lt hlt), List.drop_zero,
        List.drop_zero]
    · show buffer.droppedCount = _
      rw [hcount, length_dropped, length_dropped, List.length_append, List.length_singleton]
      omega

end BoundedBuffer

/-! ## Histories -/

/-- The feature blocks of one snapshot. -/
structure FlowBlocks where
  takerFlow : Labelled String TakerFlowWindowFeatures := {}
  liquidation : Labelled String LiquidationWindowFeatures := {}
  orderBook : Option OrderBookFeatures := none
  openInterest : Option OpenInterestFeatures := none
  funding : Option FundingFeatures := none
  priceContext : Labelled String PriceContextWindowFeatures := {}
  crossFeatures : Labelled String CrossFeatureObservation := {}

/-- Retention of one history. -/
structure FlowCapacities where
  raw : ℕ+ := 5000
  orderBook : ℕ+ := 500
  openInterest : ℕ+ := 500
  funding : ℕ+ := 500
  snapshots : ℕ+ := 500

/-- Bounded raw-event and snapshot history of one symbol and contract type. -/
structure SymbolFeatureHistory where
  trades : BoundedBuffer FlowTrade
  liquidations : BoundedBuffer LiquidationEvent
  orderBook : BoundedBuffer OrderBookSnapshot
  openInterest : BoundedBuffer OpenInterest
  funding : BoundedBuffer FundingRate
  snapshots : BoundedBuffer (FlowFeatureSnapshot FlowBlocks)

/-- A history with nothing in it. -/
def SymbolFeatureHistory.withCapacity (capacities : FlowCapacities) : SymbolFeatureHistory where
  trades := { maxlen := capacities.raw }
  liquidations := { maxlen := capacities.raw }
  orderBook := { maxlen := capacities.orderBook }
  openInterest := { maxlen := capacities.openInterest }
  funding := { maxlen := capacities.funding }
  snapshots := { maxlen := capacities.snapshots }

/-- An event that an engine records. -/
inductive FlowEvent
  | trade (trade : FlowTrade)
  | liquidation (event : LiquidationEvent)
  | orderBook (snapshot : OrderBookSnapshot)
  | openInterest (observation : OpenInterest)
  | funding (observation : FundingRate)

/-- The instrument of an event. -/
def FlowEvent.key : FlowEvent → String × ContractType
  | .trade event => (event.symbol.val, event.contractType)
  | .liquidation event => (event.symbol.val, event.contractType)
  | .orderBook event => (event.symbol.val, event.contractType)
  | .openInterest event => (event.symbol.val, event.contractType)
  | .funding event => (event.symbol.val, event.contractType)

/-- Append an event to the buffer of its domain. -/
def SymbolFeatureHistory.record (history : SymbolFeatureHistory) :
    FlowEvent → SymbolFeatureHistory
  | .trade trade => { history with trades := history.trades.append trade }
  | .liquidation event => { history with liquidations := history.liquidations.append event }
  | .orderBook snapshot => { history with orderBook := history.orderBook.append snapshot }
  | .openInterest observation =>
      { history with openInterest := history.openInterest.append observation }
  | .funding observation => { history with funding := history.funding.append observation }

/-! ## Blocks -/

/-- What the calculators take as given: decimal rounding, the square root of a decimal fraction, the
correlation of samples, the depth bands and the label of a domain without history. -/
structure FlowSetting where
  rounding : Rounding
  decimalSqrt : ℚ → ℚ
  correlation : List (ℚ × ℚ) → Option ℚ
  bands : List DepthBand
  defaultSource : NonemptyText
  capacities : FlowCapacities := {}

/-- The events of each domain that the calculators read, with the numbers of dropped ones. -/
structure FlowRecords where
  trades : List FlowTrade
  tradesDropped : ℕ
  liquidations : List LiquidationEvent
  liquidationsDropped : ℕ
  orderBooks : List OrderBookSnapshot
  openInterests : List OpenInterest
  fundings : List FundingRate
  snapshots : List (FlowFeatureSnapshot FlowBlocks)

/-- What is retained. -/
def SymbolFeatureHistory.records (history : SymbolFeatureHistory) : FlowRecords where
  trades := history.trades.items
  tradesDropped := history.trades.droppedCount
  liquidations := history.liquidations.items
  liquidationsDropped := history.liquidations.droppedCount
  orderBooks := history.orderBook.items
  openInterests := history.openInterest.items
  fundings := history.funding.items
  snapshots := history.snapshots.items

/-- The origin of the most recent item. -/
def latestSource {α : Type} (source : α → NonemptyText) (items : List α)
    (default : NonemptyText) : NonemptyText := (items.getLast?.map source).getD default

/-- The staleness limit of an order book: ten seconds. -/
def orderBookMaxStaleness : ℤ := 10 * 1000000

namespace FlowSetting

variable (setting : FlowSetting) (symbol : Symbol) (contractType : ContractType)
  (observationTime : Timestamp) (windows : List AnalyticsWindow) (records : FlowRecords)

/-- The sample of a window in the two series that are correlated. -/
def crossSample (label : String) (takerFlow : Labelled String TakerFlowWindowFeatures)
    (priceContext : Labelled String PriceContextWindowFeatures) : Option ℚ × Option ℚ :=
  ((priceContext.get? label).bind fun price => price.returnPct.map Binary64.nearest,
    (takerFlow.get? label).map fun taker => Binary64.nearest taker.delta)

/-- The correlation of return and taker delta over the retained snapshots and this one. -/
def computeCrossFeatures (takerFlow : Labelled String TakerFlowWindowFeatures)
    (priceContext : Labelled String PriceContextWindowFeatures) :
    Labelled String CrossFeatureObservation :=
  .ofItems (fun window => window.label.val) (fun window =>
    computeCrossFeatureObservation symbol contractType setting.correlation window
      "return_pct_vs_taker_delta"
      (records.snapshots.map (fun snapshot => crossSample window.label.val
          snapshot.blocks.takerFlow snapshot.blocks.priceContext) ++
        [crossSample window.label.val takerFlow priceContext])) windows

/-- The blocks of one snapshot. -/
def computeBlocks : FlowBlocks :=
  let R := setting.rounding
  let tradeSource := latestSource FlowTrade.source records.trades setting.defaultSource
  let takerFlow := computeTakerFlowFeatures R symbol contractType windows observationTime
    tradeSource records.trades records.tradesDropped
  let priceContext := computePriceContextFeatures R symbol contractType windows observationTime
    tradeSource records.trades records.fundings
  { takerFlow
    liquidation := computeLiquidationFeatures R symbol contractType windows observationTime
      (latestSource LiquidationEvent.source records.liquidations setting.defaultSource)
      records.liquidations records.liquidationsDropped
    orderBook := some (computeOrderBookFeatures R symbol contractType records.orderBooks
      setting.bands windows observationTime
      (latestSource OrderBookSnapshot.source records.orderBooks setting.defaultSource)
      orderBookMaxStaleness)
    openInterest := some (computeOpenInterestFeatures R symbol contractType windows observationTime
      (latestSource OpenInterest.source records.openInterests setting.defaultSource)
      records.openInterests)
    funding := some (computeFundingFeatures R symbol contractType windows observationTime
      (latestSource FundingRate.source records.fundings setting.defaultSource)
      setting.decimalSqrt records.fundings)
    priceContext
    crossFeatures := setting.computeCrossFeatures symbol contractType windows records takerFlow
      priceContext }

end FlowSetting

/-- The origin of each domain: the label its calculator was given. -/
def FlowBlocks.provenance (blocks : FlowBlocks) : List (String × String) :=
  (blocks.orderBook.map fun features => ("order_book", features.source.val)).toList ++
    (blocks.openInterest.map fun features => ("open_interest", features.source.val)).toList ++
    (blocks.funding.map fun features => ("funding", features.source.val)).toList ++
    (blocks.takerFlow.entries.head?.map fun entry => ("taker_flow", entry.2.source.val)).toList ++
    (blocks.liquidation.entries.head?.map fun entry =>
      ("liquidation", entry.2.source.val)).toList ++
    (blocks.priceContext.entries.head?.map fun entry =>
      ("price_context", entry.2.source.val)).toList

/-- The components of the engine; the interpretation is that of some analysts. -/
def FlowSetting.components (setting : FlowSetting)
    (interpret : FlowAnalystType → FlowFeatureSnapshot FlowBlocks →
      AnalystOutcome × FeatureQuality × List (String × String)) :
    FlowComponents SymbolFeatureHistory FlowBlocks where
  withCapacity := .withCapacity setting.capacities
  compute symbol contractType observationTime windows history :=
    setting.computeBlocks symbol contractType observationTime windows history.records
  provenance := FlowBlocks.provenance
  append history snapshot := { history with snapshots := history.snapshots.append snapshot }
  interpret

/-! ## Calls -/

/-- A call of the engine. -/
inductive FlowCall
  | record (event : FlowEvent)
  | build (symbol : String) (contractType : ContractType) (observationTime : Timestamp)

section Calls

variable (m : CaseMapping) (c : FlowComponents SymbolFeatureHistory FlowBlocks)

/-- Record an event in the history of its instrument. -/
def FlowFeatureEngine.record (engine : FlowFeatureEngine SymbolFeatureHistory)
    (event : FlowEvent) : FlowFeatureEngine SymbolFeatureHistory :=
  let history := engine.historyFor m c event.key.1 event.key.2
  { engine with
    state := engine.state.insert (m.upper event.key.1, event.key.2) (history.record event) }

/-- One call; a snapshot that cannot be built changes nothing. -/
def FlowFeatureEngine.call (engine : FlowFeatureEngine SymbolFeatureHistory) :
    FlowCall → FlowFeatureEngine SymbolFeatureHistory
  | .record event => engine.record m c event
  | .build symbol contractType observationTime =>
      match engine.buildSnapshot m c symbol contractType observationTime with
      | .ok (_, engine) => engine
      | .error _ => engine

/-- The engine after some calls. -/
def FlowFeatureEngine.run (windows : List AnalyticsWindow) (calls : List FlowCall) :
    FlowFeatureEngine SymbolFeatureHistory :=
  calls.foldl (FlowFeatureEngine.call m c) { windows, state := ∅ }

/-- The events recorded for an instrument, in the order of the calls. -/
def eventsFor (symbol : String) (contractType : ContractType) (calls : List FlowCall) :
    List FlowEvent :=
  calls.filterMap fun call =>
    match call with
    | .record event =>
        if (m.upper event.key.1, event.key.2) = (m.upper symbol, contractType) then some event
        else none
    | .build .. => none

end Calls

/-- The trades among some events. -/
def tradesOf (events : List FlowEvent) : List FlowTrade :=
  events.filterMap fun event =>
    match event with
    | .trade trade => some trade
    | _ => none

/-- The liquidations among some events. -/
def liquidationsOf (events : List FlowEvent) : List LiquidationEvent :=
  events.filterMap fun event =>
    match event with
    | .liquidation event => some event
    | _ => none

/-- The observations of the open interest among some events. -/
def openInterestsOf (events : List FlowEvent) : List OpenInterest :=
  events.filterMap fun event =>
    match event with
    | .openInterest observation => some observation
    | _ => none

/-- The funding observations among some events. -/
def fundingsOf (events : List FlowEvent) : List FundingRate :=
  events.filterMap fun event =>
    match event with
    | .funding observation => some observation
    | _ => none

/-- The history holds the newest of some events, domain by domain. -/
structure SymbolFeatureHistory.Holds (history : SymbolFeatureHistory) (capacities : FlowCapacities)
    (events : List FlowEvent) : Prop where
  trades : history.trades.Holds capacities.raw (tradesOf events)
  liquidations : history.liquidations.Holds capacities.raw (liquidationsOf events)
  openInterest : history.openInterest.Holds capacities.openInterest (openInterestsOf events)
  funding : history.funding.Holds capacities.funding (fundingsOf events)

namespace SymbolFeatureHistory.Holds

variable {history : SymbolFeatureHistory} {capacities : FlowCapacities} {events : List FlowEvent}

theorem withCapacity (capacities : FlowCapacities) :
    (SymbolFeatureHistory.withCapacity capacities).Holds capacities [] :=
  ⟨BoundedBuffer.holds_nil _, BoundedBuffer.holds_nil _, BoundedBuffer.holds_nil _,
    BoundedBuffer.holds_nil _⟩

theorem record (h : history.Holds capacities events) (event : FlowEvent) :
    (history.record event).Holds capacities (events ++ [event]) := by
  obtain ⟨htrades, hliquidations, hopenInterest, hfunding⟩ := h
  cases event with
  | trade event =>
      refine ⟨?_, by simpa [liquidationsOf], by simpa [openInterestsOf], by simpa [fundingsOf]⟩
      rw [tradesOf, List.filterMap_append]
      exact htrades.append event
  | liquidation event =>
      refine ⟨by simpa [tradesOf], ?_, by simpa [openInterestsOf], by simpa [fundingsOf]⟩
      rw [liquidationsOf, List.filterMap_append]
      exact hliquidations.append event
  | orderBook event =>
      exact ⟨by simpa [tradesOf], by simpa [liquidationsOf], by simpa [openInterestsOf],
        by simpa [fundingsOf]⟩
  | openInterest event =>
      refine ⟨by simpa [tradesOf], by simpa [liquidationsOf], ?_, by simpa [fundingsOf]⟩
      rw [openInterestsOf, List.filterMap_append]
      exact hopenInterest.append event
  | funding event =>
      refine ⟨by simpa [tradesOf], by simpa [liquidationsOf], by simpa [openInterestsOf], ?_⟩
      rw [fundingsOf, List.filterMap_append]
      exact hfunding.append event

end SymbolFeatureHistory.Holds

section Runs

variable {m : CaseMapping} {setting : FlowSetting}
  {interpret : FlowAnalystType → FlowFeatureSnapshot FlowBlocks →
    AnalystOutcome × FeatureQuality × List (String × String)}
  {engine : FlowFeatureEngine SymbolFeatureHistory} {calls : List FlowCall}

/-- Every history of the engine holds the newest of the events of its instrument. -/
def FlowFeatureEngine.Retains (engine : FlowFeatureEngine SymbolFeatureHistory) (m : CaseMapping)
    (setting : FlowSetting)
    (interpret : FlowAnalystType → FlowFeatureSnapshot FlowBlocks →
      AnalystOutcome × FeatureQuality × List (String × String)) (calls : List FlowCall) : Prop :=
  ∀ symbol contractType, (engine.historyFor m (setting.components interpret) symbol
    contractType).Holds setting.capacities (eventsFor m symbol contractType calls)

theorem eventsFor_record (symbol : String) (contractType : ContractType) (event : FlowEvent) :
    eventsFor m symbol contractType (calls ++ [.record event]) =
      eventsFor m symbol contractType calls ++
        if (m.upper event.key.1, event.key.2) = (m.upper symbol, contractType) then [event]
        else [] := by
  rw [eventsFor, List.filterMap_append, List.filterMap_cons, List.filterMap_nil]
  dsimp only
  split_ifs <;> rfl

theorem eventsFor_build (symbol : String) (contractType : ContractType) (other : String)
    (otherType : ContractType) (observationTime : Timestamp) :
    eventsFor m symbol contractType (calls ++ [.build other otherType observationTime]) =
      eventsFor m symbol contractType calls := by
  rw [eventsFor, List.filterMap_append]
  exact List.append_nil _

/-- A history that is set is found under its instrument, the others are as before. -/
theorem FlowFeatureEngine.historyFor_insert (m : CaseMapping)
    (engine : FlowFeatureEngine SymbolFeatureHistory)
    (c : FlowComponents SymbolFeatureHistory FlowBlocks)
    (key : String × ContractType) (history : SymbolFeatureHistory) (symbol : String)
    (contractType : ContractType) :
    ({ engine with state := engine.state.insert (m.upper key.1, key.2) history } :
        FlowFeatureEngine SymbolFeatureHistory).historyFor m c symbol contractType =
      if (m.upper key.1, key.2) = (m.upper symbol, contractType) then history
      else engine.historyFor m c symbol contractType := by
  unfold FlowFeatureEngine.historyFor
  dsimp only
  split_ifs with hkey
  · rw [← hkey, AList.lookup_insert, Option.getD_some]
  · rw [AList.lookup_insert_ne (Ne.symm hkey)]

theorem FlowFeatureEngine.Retains.record (h : engine.Retains m setting interpret calls)
    (event : FlowEvent) : (engine.record m (setting.components interpret) event).Retains m setting
      interpret (calls ++ [.record event]) := by
  intro symbol contractType
  rw [FlowFeatureEngine.record, FlowFeatureEngine.historyFor_insert, eventsFor_record]
  by_cases hkey : (m.upper event.key.1, event.key.2) = (m.upper symbol, contractType)
  · have hsame : engine.historyFor m (setting.components interpret) event.key.1 event.key.2 =
        engine.historyFor m (setting.components interpret) symbol contractType := by
      unfold FlowFeatureEngine.historyFor
      rw [hkey]
    rw [if_pos hkey, if_pos hkey, hsame]
    exact (h symbol contractType).record event
  · rw [if_neg hkey, if_neg hkey, List.append_nil]
    exact h symbol contractType

/-- A snapshot that is built is appended to its history, whose other buffers stay. -/
theorem FlowFeatureEngine.Retains.build (h : engine.Retains m setting interpret calls)
    {symbol : String} {contractType : ContractType} {observationTime : Timestamp}
    {snapshot : FlowFeatureSnapshot FlowBlocks} {engine' : FlowFeatureEngine SymbolFeatureHistory}
    (hbuild : engine.buildSnapshot m (setting.components interpret) symbol contractType
      observationTime = .ok (snapshot, engine')) : engine'.Retains m setting interpret calls := by
  obtain ⟨stamped, -, hbuild⟩ := Checks.bind_ok_iff.mp hbuild
  cases hbuild
  intro other otherType
  have hinsert := FlowFeatureEngine.historyFor_insert m engine (setting.components interpret)
    (m.upper symbol, contractType)
  rw [hinsert]
  split_ifs with hkey
  · dsimp only at hkey
    rw [CaseMapping.upper_upper] at hkey
    have hsame : engine.historyFor m (setting.components interpret) (m.upper symbol) contractType =
        engine.historyFor m (setting.components interpret) other otherType := by
      unfold FlowFeatureEngine.historyFor
      rw [CaseMapping.upper_upper, hkey]
    obtain ⟨htrades, hliquidations, hopenInterest, hfunding⟩ := h other otherType
    rw [hsame]
    exact ⟨htrades, hliquidations, hopenInterest, hfunding⟩
  · exact h other otherType

theorem FlowFeatureEngine.Retains.call (h : engine.Retains m setting interpret calls)
    (call : FlowCall) : (engine.call m (setting.components interpret) call).Retains m setting
      interpret (calls ++ [call]) := by
  cases call with
  | record event => exact h.record event
  | build symbol contractType observationTime =>
      have hsame : engine.Retains m setting interpret
          (calls ++ [.build symbol contractType observationTime]) := by
        intro other otherType
        rw [eventsFor_build]
        exact h other otherType
      unfold FlowFeatureEngine.call
      dsimp only
      split
      next hbuild => exact hsame.build hbuild
      next => exact hsame

/-- **After any calls, a history holds the newest events of its instrument.** -/
theorem historyFor_run (m : CaseMapping) (setting : FlowSetting)
    (interpret : FlowAnalystType → FlowFeatureSnapshot FlowBlocks →
      AnalystOutcome × FeatureQuality × List (String × String))
    (windows : List AnalyticsWindow) (calls : List FlowCall) :
    (FlowFeatureEngine.run m (setting.components interpret) windows calls).Retains m setting
      interpret calls := by
  induction calls using List.reverseRecOn with
  | nil => exact fun _ _ => .withCapacity setting.capacities
  | append_singleton calls call ih =>
      rw [FlowFeatureEngine.run, List.foldl_append]
      exact ih.call call

end Runs

end TradingAdvisor
