import TradingAdvisor.MarketData.Resync
import TradingAdvisor.MarketData.StreamMappers

/-!
# The dispatch loops

A dispatch loop takes one message after the other, maps it and hands the event to the queue of its
consumer. An exception that the router or a synchronizer raises ends the loop for good.

* `BinanceFuturesMarketStream.receive`, `BinanceFuturesOrderBookStream.receive` — one message;
* `Registered` — what holds of the synchronizers of an order-book stream in every run;
* **`dispatch_loops_survive_iff`**: a loop lives on exactly until a message of three kinds: a stream
  name that is not a text, a trade whose quote quantity no decimal holds, or a depth update that
  leaves a synchronized book crossed.
-/

namespace TradingAdvisor

open Checks JsonText SignificantDigits VersionedStore

/-! ## The market stream -/

/-- What the market connection carries. -/
inductive MarketEvent
  | trade (trade : AggTrade)
  | markPrice (update : MarkPriceUpdate)
  | liquidation (order : ForceOrder)

/-- A name ends with a text. -/
def endsWith (ending : String) (name : List ℕ) : Bool := (codePoints ending.toList).isSuffixOf name

/-- A name contains a text. -/
def contains (part : String) (name : List ℕ) : Bool := codePoints part.toList <:+: name

/-- The stream of the liquidations of all symbols. -/
def allMarketLiquidationStream : String := "!forceOrder@arr"

section Routers

variable (R : Rounding) (reader : NumberReader)

/-- Map a mark price with the interval that is cached for its symbol. -/
def mapMarkPriceCached (intervals : List ℕ → Option ℕ+) (payload : Json) :
    Except MapperFailure MarkPriceUpdate :=
  let interval :=
    match payload with
    | .obj members =>
        match field "s" members with
        | some (.str symbol) => intervals symbol
        | _ => none
    | _ => none
  mapMarkPrice reader interval payload

/-- The router of the market stream. -/
def marketRouter (intervals : List ℕ → Option ℕ+) : EventRouter MarketEvent :=
  (({} : EventRouter MarketEvent).registerPattern (endsWith "@aggTrade") fun payload =>
      (mapAggTrade R reader payload).map .trade).registerPattern (contains "@markPrice")
        (fun payload => (mapMarkPriceCached reader intervals payload).map .markPrice)
    |>.registerPattern
      (fun name => endsWith "@forceOrder" name ||
        name == codePoints allMarketLiquidationStream.toList)
      fun payload => (mapLiquidation reader payload).map .liquidation

/-- The router of the order-book stream. -/
def depthRouter : EventRouter DepthUpdate :=
  ({} : EventRouter DepthUpdate).registerPattern (contains "@depth") (mapDepthUpdate reader)

end Routers

/-- Owns the shared market connection. -/
structure BinanceFuturesMarketStream where
  queueMaxsize : ℤ
  tradeQueues : Dict String (List AggTrade)
  markPriceQueues : Dict String (List MarkPriceUpdate)
  liquidationQueue : List ForceOrder
  /-- Whether the dispatch loop runs; an exception of the router ends it. -/
  dispatching : Bool

namespace BinanceFuturesMarketStream

/-- A new stream whose dispatch loop has been started. -/
def init (queueMaxsize : ℤ) : BinanceFuturesMarketStream := ⟨queueMaxsize, ∅, ∅, [], true⟩

/-- Hand an event to its consumer, if there is one. -/
def dispatch (s : BinanceFuturesMarketStream) : MarketEvent → BinanceFuturesMarketStream
  | .trade trade =>
      match s.tradeQueues.lookup trade.symbol.val with
      | none => s
      | some queue =>
          { s with tradeQueues := s.tradeQueues.insert trade.symbol.val
                     (dropOldestPut s.queueMaxsize queue trade) }
  | .markPrice update =>
      match s.markPriceQueues.lookup update.symbol.val with
      | none => s
      | some queue =>
          { s with markPriceQueues := s.markPriceQueues.insert update.symbol.val
                     (dropOldestPut s.queueMaxsize queue update) }
  | .liquidation order =>
      { s with liquidationQueue := dropOldestPut s.queueMaxsize s.liquidationQueue order }

variable (R : Rounding) (reader : NumberReader)

/-- One message through the dispatch loop; a loop that has ended takes none. -/
def receive (s : BinanceFuturesMarketStream) (intervals : List ℕ → Option ℕ+)
    (message : RawStreamMessage) : BinanceFuturesMarketStream :=
  if s.dispatching then
    match (marketRouter R reader intervals).route message with
    | .error _ => { s with dispatching := false }
    | .ok none => s
    | .ok (some event) => s.dispatch event
  else s

end BinanceFuturesMarketStream

/-- One message through the dispatch loop of the order books. -/
def BinanceFuturesOrderBookStream.receive (reader : NumberReader)
    (s : BinanceFuturesOrderBookStream) (message : RawStreamMessage) :
    BinanceFuturesOrderBookStream :=
  if s.dispatching then
    match (depthRouter reader).route message with
    | .error _ => { s with dispatching := false }
    | .ok none => s
    | .ok (some update) => s.dispatch update.toOrderBookDeltaEvent
  else s

/-! ## What holds of the synchronizers -/

namespace OrderBookSynchronizer

/-- Two synchronizers of one symbol, with one room for buffered events. -/
def SameScope (s s' : OrderBookSynchronizer) : Prop :=
  s'.symbol = s.symbol ∧ s'.maxBuffer = s.maxBuffer

theorem sameScope_onDelta (s : OrderBookSynchronizer) (delta : OrderBookDeltaEvent) :
    s.SameScope (s.onDelta delta).1 := by
  unfold onDelta
  split
  · unfold bufferDelta
    split_ifs
    · split <;> exact ⟨rfl, rfl⟩
    · exact ⟨rfl, rfl⟩
  · split_ifs <;> exact ⟨rfl, rfl⟩
  · exact ⟨rfl, rfl⟩
  · exact ⟨rfl, rfl⟩

theorem sameScope_applySnapshot (s : OrderBookSynchronizer) (snapshot : OrderBookSnapshot) :
    s.SameScope (s.applySnapshot snapshot).1 := by
  rcases applySnapshot_cases s snapshot with
    ⟨-, h⟩ | ⟨delta, rest, book, -, ⟨-, h⟩ | ⟨-, h⟩⟩ <;>
  · rw [h]
    exact ⟨rfl, rfl⟩

/-- A delta that leaves a synchronized book crossed. -/
def Crosses (s : OrderBookSynchronizer) (delta : OrderBookDeltaEvent) : Prop :=
  s.state = .synced ∧ s.book.Continues delta ∧
    ¬ Uncrossed (sortedLevels (s.book.apply delta) .bid) (sortedLevels (s.book.apply delta) .ask)

/-- A synchronizer with room for an event raises an exception on a crossed book alone. -/
theorem onDelta_error_iff {s : OrderBookSynchronizer} (hroom : 0 < s.maxBuffer)
    {delta : OrderBookDeltaEvent} : (∃ e, (s.onDelta delta).2 = .error e) ↔ s.Crosses delta := by
  cases hstate : s.state with
  | synced =>
      by_cases hc : s.book.Continues delta
      · rw [onDelta_continues hstate hc]
        unfold materialize Crosses
        split_ifs with hu
        · exact iff_of_false (by rintro ⟨e, ⟨⟩⟩) fun h => h.2.2 hu
        · exact iff_of_true ⟨_, rfl⟩ ⟨hstate, hc, hu⟩
      · rw [onDelta_gap hstate hc]
        exact iff_of_false (by rintro ⟨e, ⟨⟩⟩) fun h => hc h.2.1
  | buffering =>
      refine iff_of_false ?_ fun h => absurd (hstate.symm.trans h.1) (by decide)
      rw [onDelta_buffering hstate]
      unfold bufferDelta
      split_ifs with hfull
      · cases hbuffer : s.buffer with
        | nil =>
            rw [hbuffer, List.length_nil] at hfull
            exact absurd hroom (not_lt.mpr hfull)
        | cons oldest rest => rintro ⟨e, ⟨⟩⟩
      · rintro ⟨e, ⟨⟩⟩
  | unsynced | resyncRequired =>
      refine iff_of_false ?_ fun h => absurd (hstate.symm.trans h.1) (by decide)
      rw [onDelta_idle (by simp [hstate])]
      rintro ⟨e, ⟨⟩⟩

end OrderBookSynchronizer

namespace BinanceFuturesOrderBookStream

variable {power : FloatPower} {s s' : BinanceFuturesOrderBookStream} {y : Symbol}
  {sync sync' : OrderBookSynchronizer}

/-- Every synchronizer is that of its symbol and has room for an event. -/
def Registered (s : BinanceFuturesOrderBookStream) : Prop :=
  ∀ y sync, s.synchronizers.lookup y = some sync → sync.symbol = y ∧ 0 < sync.maxBuffer

theorem Registered.of_eq (h : s.Registered) (heq : s'.synchronizers = s.synchronizers) :
    s'.Registered := by
  intro y sync hlookup
  rw [heq] at hlookup
  exact h y sync hlookup

theorem publish_synchronizers (s : BinanceFuturesOrderBookStream) (y : Symbol)
    (snapshot : OrderBookSnapshot) : (s.publish y snapshot).synchronizers = s.synchronizers := by
  unfold publish
  split <;> rfl

theorem Registered.setSync (h : s.Registered) (hlookup : s.synchronizers.lookup y = some sync)
    (hscope : sync.SameScope sync') : (s.setSync y sync').Registered := by
  intro z other hother
  unfold BinanceFuturesOrderBookStream.setSync at hother
  rcases eq_or_ne z y with rfl | hne
  · rw [AList.lookup_insert, Option.some_inj] at hother
    subst hother
    obtain ⟨hsymbol, hroom⟩ := h z sync hlookup
    exact ⟨hscope.1.trans hsymbol, hscope.2.symm ▸ hroom⟩
  · rw [AList.lookup_insert_ne hne] at hother
    exact h z other hother

theorem Registered.startBuffering (h : s.Registered) (y : Symbol) :
    (s.startBuffering y).Registered := by
  unfold BinanceFuturesOrderBookStream.startBuffering
  split
  · exact h
  · next sync hlookup => exact h.setSync hlookup ⟨rfl, rfl⟩

theorem Registered.failAttempt (h : s.Registered) (i : ℕ) (y : Symbol) (attempt : ℕ)
    (jitter : Jitter) : (s.failAttempt power i y attempt jitter).Registered := by
  unfold BinanceFuturesOrderBookStream.failAttempt
  split_ifs
  · split <;> exact h.of_eq rfl
  · exact (h.startBuffering y).of_eq rfl

theorem Registered.dispatch (h : s.Registered) (delta : OrderBookDeltaEvent) :
    (s.dispatch delta).Registered := by
  unfold BinanceFuturesOrderBookStream.dispatch
  split
  · exact h
  · next sync hlookup =>
      have hset := h.setSync hlookup (sync.sameScope_onDelta delta)
      dsimp only
      split
      · exact hset.of_eq rfl
      · exact hset.of_eq (publish_synchronizers _ _ _)
      · split_ifs
        · exact hset.of_eq rfl
        · exact hset

theorem Registered.fetched (h : s.Registered) (hlookup : s.synchronizers.lookup y = some sync)
    (i attempt : ℕ) (jitter : Jitter) (outcome : FetchOutcome) :
    (s.fetched power i y attempt jitter sync outcome).Registered := by
  cases outcome with
  | marketDataError => exact h.failAttempt i y attempt jitter
  | snapshot snapshot =>
      have hset := h.setSync hlookup (sync.sameScope_applySnapshot snapshot)
      unfold BinanceFuturesOrderBookStream.fetched
      dsimp only
      split
      · exact hset.of_eq (publish_synchronizers _ _ _)
      · exact hset.failAttempt i y attempt jitter
      · exact hset.of_eq rfl

theorem Registered.orderBook (h : s.Registered) (y : Symbol) : (s.orderBook y).Registered := by
  intro z sync hsync
  unfold BinanceFuturesOrderBookStream.orderBook at hsync
  dsimp only at hsync
  split at hsync
  · rcases eq_or_ne z y with rfl | hne
    · rw [AList.lookup_insert, Option.some_inj] at hsync
      subst hsync
      exact ⟨rfl, by simp [OrderBookSynchronizer.init]⟩
    · rw [AList.lookup_insert_ne hne] at hsync
      exact h z sync hsync
  · exact h z sync hsync

theorem Registered.step {a : StreamAction} (h : s.Registered)
    (hstep : s.step power a = some s') : s'.Registered := by
  cases a with
  | depthEvent delta =>
      simp only [BinanceFuturesOrderBookStream.step] at hstep
      split_ifs at hstep
      exact Option.some.inj hstep ▸ h.dispatch delta
  | orderBook y => exact Option.some.inj hstep ▸ h.orderBook y
  | subscribed y =>
      simp only [BinanceFuturesOrderBookStream.step] at hstep
      split_ifs at hstep
      exact Option.some.inj hstep ▸ h.of_eq rfl
  | taskStart i =>
      simp only [BinanceFuturesOrderBookStream.step] at hstep
      split at hstep
      next y ht =>
        split_ifs at hstep <;> exact Option.some.inj hstep ▸ (h.startBuffering y).of_eq rfl
      next => cases hstep
  | fetchDone i outcome jitter =>
      simp only [BinanceFuturesOrderBookStream.step] at hstep
      split at hstep
      next y attempt ht =>
        obtain ⟨sync, hlookup, rfl⟩ := Option.map_eq_some_iff.mp hstep
        exact h.fetched hlookup i attempt jitter outcome
      next => cases hstep
  | sleepDone i =>
      simp only [BinanceFuturesOrderBookStream.step] at hstep
      split at hstep
      next y attempt delay ht =>
        split_ifs at hstep
        exact Option.some.inj hstep ▸ (h.startBuffering y).of_eq rfl
      next => cases hstep
  | sleepRaises i =>
      simp only [BinanceFuturesOrderBookStream.step] at hstep
      split at hstep
      next y attempt delay ht =>
        split_ifs at hstep
        exact Option.some.inj hstep ▸ h.of_eq rfl
      next => cases hstep

theorem Registered.receive (h : s.Registered) (reader : NumberReader)
    (message : RawStreamMessage) : (s.receive reader message).Registered := by
  unfold BinanceFuturesOrderBookStream.receive
  split_ifs
  · split
    · exact h.of_eq rfl
    · exact h
    · exact h.dispatch _
  · exact h

/-! ## What ends a loop -/

/-- A message that ends the loop of the order books. -/
def Kills (reader : NumberReader) (s : BinanceFuturesOrderBookStream)
    (message : RawStreamMessage) : Prop :=
  (∀ name, message.stream ≠ .str name) ∨
    ∃ name update sync, message.stream = .str name ∧ contains "@depth" name = true ∧
      mapDepthUpdate reader message.payload = .ok update ∧
      s.synchronizers.lookup update.symbol = some sync ∧
      sync.Crosses update.toOrderBookDeltaEvent

theorem dispatch_dispatching (h : s.Registered) {delta : OrderBookDeltaEvent} :
    (s.dispatch delta).dispatching = true ↔ s.dispatching = true ∧
      ¬ ∃ sync, s.synchronizers.lookup delta.symbol = some sync ∧ sync.Crosses delta := by
  rw [dispatch_dispatching_iff]
  refine and_congr_right fun _ => not_congr (exists_congr fun sync =>
    and_congr_right fun hlookup => ?_)
  exact OrderBookSynchronizer.onDelta_error_iff (h _ _ hlookup).2

theorem depthRouter_select (reader : NumberReader) (name : List ℕ) :
    (depthRouter reader).select name =
      if contains "@depth" name then some (mapDepthUpdate reader) else none := by
  unfold depthRouter EventRouter.select EventRouter.registerPattern
  by_cases h : contains "@depth" name = true <;> simp [Keyed.lastOf, h]

theorem depthRouter_some_iff {reader : NumberReader} {message : RawStreamMessage}
    {update : DepthUpdate} : (depthRouter reader).route message = .ok (some update) ↔
      ∃ name, message.stream = .str name ∧ contains "@depth" name = true ∧
        mapDepthUpdate reader message.payload = .ok update := by
  rw [EventRouter.route_some_iff]
  constructor
  · rintro ⟨name, mapper, hstream, hselect, hmap⟩
    rw [depthRouter_select] at hselect
    split_ifs at hselect with hname
    obtain rfl := Option.some.inj hselect
    exact ⟨name, hstream, hname, hmap⟩
  · rintro ⟨name, hstream, hname, hmap⟩
    exact ⟨name, _, hstream, by rw [depthRouter_select, if_pos hname], hmap⟩

theorem receive_dispatching (h : s.Registered) {reader : NumberReader}
    {message : RawStreamMessage} : (s.receive reader message).dispatching = true ↔
      s.dispatching = true ∧ ¬ s.Kills reader message := by
  unfold receive
  by_cases hrunning : s.dispatching = true
  swap
  · rw [if_neg hrunning]
    exact iff_of_false hrunning fun hk => hrunning hk.1
  rw [if_pos hrunning]
  have hname {result : Option DepthUpdate} (hok : (depthRouter reader).route message = .ok result) :
      ¬ ∀ name, message.stream ≠ .str name := fun hname => by
    cases hok.symm.trans (EventRouter.route_error_iff.mpr (.inl ⟨rfl, hname⟩))
  cases hroute : (depthRouter reader).route message with
  | error e =>
      refine iff_of_false (by simp) fun hk => hk.2 ?_
      rcases EventRouter.route_error_iff.mp hroute with ⟨-, hname⟩ | ⟨-, name, mapper, -, hmap⟩
      · exact .inl hname
      · rw [depthRouter_select] at hmap
        split_ifs at hmap
        · obtain rfl := Option.some.inj hmap.1
          exact absurd hmap.2 (guarded_mapDepthUpdate reader _)
        · cases hmap.1
  | ok result =>
      cases result with
      | none =>
          refine iff_of_true hrunning ⟨hrunning, ?_⟩
          rintro (hbad | ⟨name, update, sync, hstream, hdepth, hmap, -⟩)
          · exact hname hroute hbad
          · cases hroute.symm.trans (depthRouter_some_iff.mpr ⟨name, hstream, hdepth, hmap⟩)
      | some update =>
          dsimp only
          rw [dispatch_dispatching h]
          refine and_congr_right fun _ => not_congr ⟨?_, ?_⟩
          · rintro ⟨sync, hlookup, hcrosses⟩
            obtain ⟨name, hstream, hdepth, hmap⟩ := depthRouter_some_iff.mp hroute
            exact .inr ⟨name, update, sync, hstream, hdepth, hmap, hlookup, hcrosses⟩
          · rintro (hbad | ⟨name, update', sync, hstream, hdepth, hmap, hlookup, hcrosses⟩)
            · exact absurd hbad (hname hroute)
            · cases hroute.symm.trans (depthRouter_some_iff.mpr ⟨name, hstream, hdepth, hmap⟩)
              exact ⟨sync, hlookup, hcrosses⟩

end BinanceFuturesOrderBookStream

namespace BinanceFuturesMarketStream

variable {R : Rounding} {reader : NumberReader} {s : BinanceFuturesMarketStream}
  {intervals : List ℕ → Option ℕ+} {message : RawStreamMessage}

variable (R reader) in
/-- A message that ends the loop of the market stream. -/
def Kills (message : RawStreamMessage) : Prop :=
  (∀ name, message.stream ≠ .str name) ∨
    ∃ name, message.stream = .str name ∧ endsWith "@aggTrade" name = true ∧
      QuoteOverflows R reader message.payload

theorem map_overflow_iff {α β : Type} {x : Except MapperFailure α} {f : α → β} :
    x.map f = .error .overflow ↔ x = .error .overflow := by
  cases x <;> simp [Except.map]

theorem marketRouter_select (name : List ℕ) :
    (marketRouter R reader intervals).select name =
      if endsWith "@aggTrade" name then
        some fun payload => (mapAggTrade R reader payload).map .trade
      else if contains "@markPrice" name then
        some fun payload => (mapMarkPriceCached reader intervals payload).map .markPrice
      else if endsWith "@forceOrder" name ||
          name == codePoints allMarketLiquidationStream.toList then
        some fun payload => (mapLiquidation reader payload).map .liquidation
      else none := by
  unfold marketRouter EventRouter.select EventRouter.registerPattern
  by_cases htrade : endsWith "@aggTrade" name = true
  · simp [Keyed.lastOf, htrade]
  · by_cases hmark : contains "@markPrice" name = true
    · simp [Keyed.lastOf, htrade, hmark]
    · by_cases hforce : (endsWith "@forceOrder" name ||
          name == codePoints allMarketLiquidationStream.toList) = true <;>
        simp_all [Keyed.lastOf]

theorem dispatch_dispatching (s : BinanceFuturesMarketStream) (event : MarketEvent) :
    (s.dispatch event).dispatching = s.dispatching := by
  unfold dispatch
  split
  · split <;> rfl
  · split <;> rfl
  · rfl

theorem marketRouter_error_iff :
    (∃ e, (marketRouter R reader intervals).route message = .error e) ↔
      Kills R reader message := by
  simp only [EventRouter.route_error_iff]
  constructor
  · rintro ⟨e, ⟨-, hname⟩ | ⟨-, name, mapper, hstream, hselect, hmap⟩⟩
    · exact .inl hname
    rw [marketRouter_select] at hselect
    split_ifs at hselect with htrade hmark hforce <;> obtain rfl := Option.some.inj hselect <;>
      dsimp only at hmap <;> rw [map_overflow_iff] at hmap
    · exact .inr ⟨name, hstream, htrade, mapAggTrade_overflow_iff R reader |>.mp hmap⟩
    · exact absurd hmap (guarded_mapMarkPrice reader _ _)
    · exact absurd hmap (guarded_mapLiquidation reader _)
  · rintro (hname | ⟨name, hstream, htrade, hoverflow⟩)
    · exact ⟨_, .inl ⟨rfl, hname⟩⟩
    · refine ⟨_, .inr ⟨rfl, name, _, hstream, by rw [marketRouter_select, if_pos htrade], ?_⟩⟩
      exact map_overflow_iff.mpr ((mapAggTrade_overflow_iff R reader).mpr hoverflow)

theorem receive_dispatching : (s.receive R reader intervals message).dispatching = true ↔
    s.dispatching = true ∧ ¬ Kills R reader message := by
  have hkills : (∃ e, (marketRouter R reader intervals).route message = .error e) ↔
      Kills R reader message := marketRouter_error_iff
  unfold receive
  rw [← hkills]
  by_cases hrunning : s.dispatching = true
  · rw [if_pos hrunning]
    split
    next e he => simp [he]
    next he => simp [he, hrunning]
    next event he => simp [he, hrunning, dispatch_dispatching]
  · rw [if_neg hrunning]
    exact iff_of_false hrunning fun hk => hrunning hk.1

end BinanceFuturesMarketStream

end TradingAdvisor
