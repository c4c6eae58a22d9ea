import TradingAdvisor.Flow.FlowHistories
import TradingAdvisor.Lib.DropOldest
import TradingAdvisor.Lib.Transition
import TradingAdvisor.MarketData.MarketStream

/-!
# The realtime feed of the flow engine

One instrument's events go from the dispatch loops through bounded queues to forwarders, which hand
them to the flow engine. Loops, forwarders, resyncs and calls of the engine are interleaved freely.

* `FlowRealtimeBootstrap.step`, `Trace` — the steps, and what a run puts into the queues, drops
  from them and calls;
* `step_moves` — what one step does to the queue of a channel;
* **`dispatch_loops_survive_iff`**: the messages that end a dispatch loop, in every run;
* **`realtime_feed_in_order`**: the engine records the instrument's own events, each once and in
  the order of their messages; missing are exactly those that a full queue dropped.
-/

namespace TradingAdvisor

open DropOldest JsonText SignificantDigits Transition VersionedStore

/-! ## The bootstrap -/

/-- Owns the realtime connections of one instrument. -/
structure FlowRealtimeBootstrap where
  symbol : Symbol
  contractType : ContractType
  market : BinanceFuturesMarketStream
  orderBook : BinanceFuturesOrderBookStream

/-- The steps of the running bootstrap. -/
inductive BootstrapAction
  | marketFrame (intervals : List ℕ → Option ℕ+) (message : RawStreamMessage)
  | depthFrame (message : RawStreamMessage)
  | orderBookStep (action : StreamAction)
  | startTrades
  | startMarkPrice
  | forwardTrade
  | forwardLiquidation
  | forwardOrderBook
  | forwardFunding
  | openInterestPolled (observation : OpenInterest)
  | buildFlowResult (asOf : Timestamp)

/-- Create the queue of a symbol, if there is none. -/
def setDefault {α : Type} (queues : Dict String (List α)) (symbol : String) :
    Dict String (List α) :=
  match queues.lookup symbol with
  | none => queues.insert symbol []
  | some _ => queues

namespace FlowRealtimeBootstrap

/-- The bootstrap after its start. -/
def init (symbol : Symbol) (contractType : ContractType) (marketMaxsize bookMaxsize : ℤ)
    (source : NonemptyText) (maxResyncAttempts : ℕ) : FlowRealtimeBootstrap where
  symbol
  contractType
  market := .init marketMaxsize
  orderBook := .init source bookMaxsize maxResyncAttempts .snapshotRetry

variable (m : CaseMapping) (R : Rounding) (reader : NumberReader) (power : FloatPower)
  (s : FlowRealtimeBootstrap)

/-- The upper-case symbol, by which the queues are kept. -/
def upper : String := m.upper s.symbol.val

/-- Forward the next trade to the engine. -/
def forwardTrade : Option (FlowRealtimeBootstrap × List FlowCall) :=
  match s.market.tradeQueues.lookup (s.upper m) with
  | some (trade :: rest) =>
      some ({ s with market.tradeQueues := s.market.tradeQueues.insert (s.upper m) rest },
        [.record (.trade trade.toFlowTrade)])
  | _ => none

/-- Forward the next funding rate to the engine. -/
def forwardFunding : Option (FlowRealtimeBootstrap × List FlowCall) :=
  match s.market.markPriceQueues.lookup (s.upper m) with
  | some (update :: rest) =>
      some ({ s with market.markPriceQueues := s.market.markPriceQueues.insert (s.upper m) rest },
        [.record (.funding update.toFundingRate)])
  | _ => none

/-- Take the next liquidation; only one of the symbol is recorded. -/
def forwardLiquidation : Option (FlowRealtimeBootstrap × List FlowCall) :=
  match s.market.liquidationQueue with
  | order :: rest =>
      some ({ s with market.liquidationQueue := rest },
        if order.symbol.val = s.upper m then [.record (.liquidation order.toLiquidationEvent)]
        else [])
  | [] => none

/-- Forward the next order book to the engine. -/
def forwardOrderBook : Option (FlowRealtimeBootstrap × List FlowCall) :=
  (toSymbol (s.upper m)).bind fun y =>
    match s.orderBook.queues.lookup y with
    | some (snapshot :: rest) =>
        some ({ s with orderBook.queues := s.orderBook.queues.insert y rest },
          [.record (.orderBook snapshot)])
    | _ => none

/-- One step with its calls of the engine; `none` when the action is not enabled. -/
def step : BootstrapAction → Option (FlowRealtimeBootstrap × List FlowCall)
  | .marketFrame intervals message =>
      some ({ s with market := s.market.receive R reader intervals message }, [])
  | .depthFrame message => some ({ s with orderBook := s.orderBook.receive reader message }, [])
  | .orderBookStep (.depthEvent _) => none
  | .orderBookStep action =>
      (s.orderBook.step power action).map fun orderBook => ({ s with orderBook }, [])
  | .startTrades =>
      some ({ s with market.tradeQueues := setDefault s.market.tradeQueues (s.upper m) }, [])
  | .startMarkPrice =>
      some ({ s with market.markPriceQueues :=
                       setDefault s.market.markPriceQueues (s.upper m) }, [])
  | .forwardTrade => s.forwardTrade m
  | .forwardLiquidation => s.forwardLiquidation m
  | .forwardOrderBook => s.forwardOrderBook m
  | .forwardFunding => s.forwardFunding m
  | .openInterestPolled observation => some (s, [.record (.openInterest observation)])
  | .buildFlowResult asOf => some (s, [.build s.symbol.val s.contractType asOf])

/-- The state after one step. -/
def next (s : FlowRealtimeBootstrap) (a : BootstrapAction) : Option FlowRealtimeBootstrap :=
  (s.step m R reader power a).map Prod.fst

/-! ## The dispatch loops -/

section Loops

variable {m : CaseMapping} {R : Rounding} {reader : NumberReader} {power : FloatPower}
  {s s' : FlowRealtimeBootstrap} {a : BootstrapAction} {calls : List FlowCall}

/-- What a step does to the two streams. -/
theorem step_streams (h : s.step m R reader power a = some (s', calls)) :
    (∃ intervals message, a = .marketFrame intervals message ∧
        s'.market = s.market.receive R reader intervals message ∧ s'.orderBook = s.orderBook) ∨
      (∃ message, a = .depthFrame message ∧ s'.market = s.market ∧
        s'.orderBook = s.orderBook.receive reader message) ∨
      (∃ action, a = .orderBookStep action ∧ (∀ delta, action ≠ .depthEvent delta) ∧
        s'.market = s.market ∧ s.orderBook.step power action = some s'.orderBook) ∨
      ((∀ intervals message, a ≠ .marketFrame intervals message) ∧
        (∀ message, a ≠ .depthFrame message) ∧
        s'.market.dispatching = s.market.dispatching ∧
        s'.orderBook.dispatching = s.orderBook.dispatching ∧
        s'.orderBook.synchronizers = s.orderBook.synchronizers) := by
  cases a with
  | marketFrame intervals message =>
      cases h
      exact .inl ⟨intervals, message, rfl, rfl, rfl⟩
  | depthFrame message =>
      cases h
      exact .inr (.inl ⟨message, rfl, rfl, rfl⟩)
  | orderBookStep action =>
      refine .inr (.inr (.inl ⟨action, rfl, ?_⟩))
      cases action with
      | depthEvent delta => cases h
      | orderBook | subscribed | taskStart | fetchDone | sleepDone | sleepRaises =>
          simp only [step, Option.map_eq_some_iff] at h
          obtain ⟨orderBook, hstep, heq⟩ := h
          cases heq
          exact ⟨nofun, rfl, hstep⟩
  | startTrades | startMarkPrice | openInterestPolled | buildFlowResult =>
      cases h
      exact .inr (.inr (.inr ⟨nofun, nofun, rfl, rfl, rfl⟩))
  | forwardTrade | forwardFunding | forwardLiquidation =>
      refine .inr (.inr (.inr ⟨nofun, nofun, ?_⟩))
      simp only [step, forwardTrade, forwardFunding, forwardLiquidation] at h
      split at h
      · cases h
        exact ⟨rfl, rfl, rfl⟩
      · cases h
  | forwardOrderBook =>
      refine .inr (.inr (.inr ⟨nofun, nofun, ?_⟩))
      obtain ⟨y, -, h⟩ := Option.bind_eq_some_iff.mp h
      split at h
      · cases h
        exact ⟨rfl, rfl, rfl⟩
      · cases h

theorem step_registered (h : s.step m R reader power a = some (s', calls))
    (hs : s.orderBook.Registered) : s'.orderBook.Registered := by
  rcases step_streams h with ⟨_, _, -, -, heq⟩ | ⟨message, -, -, heq⟩ |
    ⟨action, -, -, -, hstep⟩ | ⟨-, -, -, -, heq⟩
  · exact heq ▸ hs
  · exact heq ▸ hs.receive reader message
  · exact hs.step hstep
  · exact hs.of_eq heq

/-- One step ends a loop exactly when it takes a message that does. -/
theorem step_dispatching (h : s.step m R reader power a = some (s', calls))
    (hs : s.orderBook.Registered) :
    (s'.market.dispatching = true ↔ s.market.dispatching = true ∧
      ∀ intervals message, a = .marketFrame intervals message →
        ¬ BinanceFuturesMarketStream.Kills R reader message) ∧
    (s'.orderBook.dispatching = true ↔ s.orderBook.dispatching = true ∧
      ∀ message, a = .depthFrame message → ¬ s.orderBook.Kills reader message) := by
  rcases step_streams h with ⟨intervals, message, rfl, hmarket, hbook⟩ |
    ⟨message, rfl, hmarket, hbook⟩ | ⟨action, rfl, hother, hmarket, hstep⟩ |
    ⟨hframe, hdepth, hmarket, hbook, -⟩
  · rw [hmarket, hbook, BinanceFuturesMarketStream.receive_dispatching]
    exact ⟨by simp, by simp⟩
  · rw [hmarket, hbook, BinanceFuturesOrderBookStream.receive_dispatching hs]
    exact ⟨by simp, by simp⟩
  · rw [hmarket, BinanceFuturesOrderBookStream.step_dispatching hstep hother]
    exact ⟨by simp, by simp⟩
  · rw [hmarket, hbook]
    exact ⟨(and_iff_left fun i message ha => absurd ha (hframe i message)).symm,
      (and_iff_left fun message ha => absurd ha (hdepth message)).symm⟩

theorem next_eq_some : s.next m R reader power a = some s' ↔
    ∃ calls, s.step m R reader power a = some (s', calls) := by
  simp [next]

end Loops

end FlowRealtimeBootstrap

/-! ## The channels -/

/-- The queues of the feed. -/
inductive FlowChannel
  | trade
  | liquidation
  | orderBook
  | funding
  deriving DecidableEq, Repr

/-- The queue an event goes through, if any. -/
def FlowEvent.channel : FlowEvent → Option FlowChannel
  | .trade _ => some .trade
  | .liquidation _ => some .liquidation
  | .orderBook _ => some .orderBook
  | .openInterest _ => none
  | .funding _ => some .funding

/-- The events of a channel. -/
def onChannel (k : FlowChannel) (events : List FlowEvent) : List FlowEvent :=
  events.filter fun event => event.channel = some k

section HandOver

variable {κ β : Type} [DecidableEq κ]

/-- Change the queue of a key, if there is one. -/
def handOver (queues : Dict κ (List β)) (key : κ) (f : List β → List β) : Dict κ (List β) :=
  match queues.lookup key with
  | none => queues
  | some queue => queues.insert key (f queue)

theorem getD_lookup_handOver (queues : Dict κ (List β)) (key u : κ) (f : List β → List β) :
    ((handOver queues key f).lookup u).getD [] =
      if key = u ∧ (queues.lookup u).isSome then f ((queues.lookup u).getD [])
      else (queues.lookup u).getD [] := by
  unfold handOver
  split
  · next hnone =>
      refine (if_neg ?_).symm
      rintro ⟨rfl, hsome⟩
      rw [hnone] at hsome
      cases hsome
  · next queue hqueue =>
      rcases eq_or_ne u key with rfl | hne
      · simp [hqueue]
      · rw [AList.lookup_insert_ne hne, if_neg fun h => hne h.1.symm]

theorem getD_lookup_setDefault (queues : Dict String (List β)) (key u : String) :
    ((setDefault queues key).lookup u).getD [] = (queues.lookup u).getD [] := by
  unfold setDefault
  split
  · next hnone =>
      rcases eq_or_ne u key with rfl | hne
      · simp [hnone]
      · rw [AList.lookup_insert_ne hne]
  · rfl

/-- An item that is put in moves the oldest one out, if the queue is full. -/
theorem map_dropOldestPut {γ : Type} (f : β → γ) (maxsize : ℤ) (queue : List β) (item : β) :
    queue.map f ++ [f item] =
      (if maxsize ≤ 0 ∨ ((queue.map f).length : ℤ) < maxsize then []
        else (queue.map f).head?.toList) ++ (dropOldestPut maxsize queue item).map f := by
  rw [List.length_map]
  unfold dropOldestPut
  split_ifs
  · simp
  · cases queue <;> simp

end HandOver

/-- The order book that a call of the synchronizer of a symbol gives. -/
def givenBook (symbol : Symbol) :
    Except SyncFailure (Option OrderBookSnapshot) → Option (Symbol × OrderBookSnapshot)
  | .ok (some snapshot) => some (symbol, snapshot)
  | _ => none

/-- The order book that a step of the stream publishes. -/
def BinanceFuturesOrderBookStream.published (s : BinanceFuturesOrderBookStream) :
    StreamAction → Option (Symbol × OrderBookSnapshot)
  | .depthEvent delta =>
      (s.synchronizers.lookup delta.symbol).bind fun sync =>
        givenBook delta.symbol (sync.onDelta delta).2
  | .fetchDone i (.snapshot snapshot) _ =>
      match s.tasks[i]? with
      | some ⟨symbol, .fetching _⟩ =>
          (s.synchronizers.lookup symbol).bind fun sync =>
            givenBook symbol ((sync.applySnapshot snapshot).2.map some)
      | _ => none
  | _ => none

namespace BinanceFuturesOrderBookStream

variable {power : FloatPower} {s s' : BinanceFuturesOrderBookStream} {y : Symbol}

/-- What waits for the consumer of a symbol. -/
def waiting (s : BinanceFuturesOrderBookStream) (y : Symbol) : List OrderBookSnapshot :=
  (s.queues.lookup y).getD []

/-- What waits once an order book is published, or none is. -/
def waitingAfter (s : BinanceFuturesOrderBookStream) (y : Symbol) :
    Option (Symbol × OrderBookSnapshot) → List OrderBookSnapshot
  | some (z, snapshot) =>
      if z = y ∧ (s.queues.lookup y).isSome then
        dropOldestPut s.queueMaxsize (s.waiting y) snapshot
      else s.waiting y
  | none => s.waiting y

theorem waiting_publish (s : BinanceFuturesOrderBookStream) (y z : Symbol)
    (snapshot : OrderBookSnapshot) :
    (s.publish z snapshot).waiting y = s.waitingAfter y (some (z, snapshot)) := by
  have hqueues : (s.publish z snapshot).queues =
      handOver s.queues z fun queue => dropOldestPut s.queueMaxsize queue snapshot := by
    unfold publish handOver
    cases s.queues.lookup z <;> rfl
  unfold waiting
  rw [hqueues, getD_lookup_handOver]
  rfl

theorem waiting_startBuffering (s : BinanceFuturesOrderBookStream) (y z : Symbol) :
    (s.startBuffering z).waiting y = s.waiting y := by
  unfold startBuffering
  split <;> rfl

theorem waiting_failAttempt (s : BinanceFuturesOrderBookStream) (i : ℕ) (z : Symbol)
    (attempt : ℕ) (jitter : Jitter) :
    (s.failAttempt power i z attempt jitter).waiting y = s.waiting y := by
  unfold failAttempt
  split_ifs
  · split <;> rfl
  · exact s.waiting_startBuffering y z

theorem waiting_dispatch (s : BinanceFuturesOrderBookStream) (delta : OrderBookDeltaEvent)
    (y : Symbol) :
    (s.dispatch delta).waiting y = s.waitingAfter y (s.published (.depthEvent delta)) := by
  unfold dispatch
  change _ = s.waitingAfter y ((s.synchronizers.lookup delta.symbol).bind _)
  cases s.synchronizers.lookup delta.symbol with
  | none => rfl
  | some sync =>
      dsimp only [Option.bind_some]
      cases (sync.onDelta delta).2 with
      | error e => rfl
      | ok published =>
          cases published with
          | none =>
              dsimp only
              split_ifs <;> rfl
          | some snapshot => exact waiting_publish (s.setSync delta.symbol _) y delta.symbol snapshot

theorem waiting_step {a : StreamAction} (h : s.step power a = some s') (y : Symbol) :
    s'.waiting y = s.waitingAfter y (s.published a) := by
  cases a with
  | depthEvent delta =>
      simp only [step] at h
      split_ifs at h
      exact Option.some.inj h ▸ s.waiting_dispatch delta y
  | orderBook z =>
      obtain rfl := Option.some.inj h
      change (s.orderBook z).waiting y = s.waiting y
      unfold orderBook waiting
      dsimp only
      split
      · next hnone =>
          rcases eq_or_ne y z with rfl | hne
          · simp [hnone]
          · rw [AList.lookup_insert_ne hne]
      · rfl
  | subscribed z =>
      simp only [step] at h
      split_ifs at h
      exact Option.some.inj h ▸ rfl
  | taskStart i =>
      simp only [step] at h
      split at h
      next z ht =>
        split_ifs at h <;> exact Option.some.inj h ▸ s.waiting_startBuffering y z
      next => cases h
  | sleepDone i =>
      simp only [step] at h
      split at h
      next z attempt delay ht =>
        split_ifs at h
        exact Option.some.inj h ▸ s.waiting_startBuffering y z
      next => cases h
  | sleepRaises i =>
      simp only [step] at h
      split at h
      next z attempt delay ht =>
        split_ifs at h
        exact Option.some.inj h ▸ rfl
      next => cases h
  | fetchDone i outcome jitter =>
      simp only [step] at h
      split at h
      next z attempt ht =>
        obtain ⟨sync, hlookup, rfl⟩ := Option.map_eq_some_iff.mp h
        cases outcome with
        | marketDataError => exact s.waiting_failAttempt i z attempt jitter
        | snapshot snapshot =>
            simp only [published, ht, hlookup, Option.bind_some]
            unfold fetched
            dsimp only
            cases (sync.applySnapshot snapshot).2 with
            | ok published => exact waiting_publish (s.setSync z _) y z published
            | error e =>
                cases e with
                | synchronization e =>
                    exact waiting_failAttempt (s.setSync z _) i z attempt jitter
                | validation | indexError => rfl
      next => cases h

end BinanceFuturesOrderBookStream

namespace FlowRealtimeBootstrap

variable (m : CaseMapping) (R : Rounding) (reader : NumberReader) (s : FlowRealtimeBootstrap)

/-- Whether there is a queue of order books. -/
def HasBookQueue : Prop :=
  ∃ y, toSymbol (s.upper m) = some y ∧ (s.orderBook.queues.lookup y).isSome = true

instance : Decidable (s.HasBookQueue m) :=
  match h : toSymbol (s.upper m) with
  | none => .isFalse fun ⟨y, hy, _⟩ => by rw [h] at hy; cases hy
  | some y =>
      decidable_of_iff ((s.orderBook.queues.lookup y).isSome = true) (by simp [HasBookQueue, h])

/-- The order books that wait. -/
def waitingBooks : List OrderBookSnapshot :=
  ((toSymbol (s.upper m)).map fun y => s.orderBook.waiting y).getD []

/-- What waits in the queue of a channel. -/
def pending : FlowChannel → List FlowEvent
  | .trade => ((s.market.tradeQueues.lookup (s.upper m)).getD []).map fun trade =>
      .trade trade.toFlowTrade
  | .liquidation => s.market.liquidationQueue.map fun order =>
      .liquidation order.toLiquidationEvent
  | .orderBook => (s.waitingBooks m).map .orderBook
  | .funding => ((s.market.markPriceQueues.lookup (s.upper m)).getD []).map fun update =>
      .funding update.toFundingRate

/-- The room of a channel; without a bound there is room for everything. -/
def maxsize : FlowChannel → ℤ
  | .orderBook => s.orderBook.queueMaxsize
  | _ => s.market.queueMaxsize

/-- The event that a message of the market stream brings into a queue. -/
def marketEvent (intervals : List ℕ → Option ℕ+) (message : RawStreamMessage) : List FlowEvent :=
  if s.market.dispatching then
    match (marketRouter R reader intervals).route message with
    | .ok (some (.trade trade)) =>
        if trade.symbol.val = s.upper m ∧ (s.market.tradeQueues.lookup (s.upper m)).isSome then
          [.trade trade.toFlowTrade]
        else []
    | .ok (some (.markPrice update)) =>
        if update.symbol.val = s.upper m ∧
            (s.market.markPriceQueues.lookup (s.upper m)).isSome then
          [.funding update.toFundingRate]
        else []
    | .ok (some (.liquidation order)) => [.liquidation order.toLiquidationEvent]
    | _ => []
  else []

/-- The order book that a step of the stream brings into the queue. -/
def bookEvent (action : StreamAction) : List FlowEvent :=
  match s.orderBook.published action with
  | some (y, snapshot) =>
      if y.val = s.upper m ∧ s.HasBookQueue m then [.orderBook snapshot] else []
  | none => []

/-- What a step brings into the queues. -/
def put : BootstrapAction → List FlowEvent
  | .marketFrame intervals message => s.marketEvent m R reader intervals message
  | .depthFrame message =>
      if s.orderBook.dispatching then
        match (depthRouter reader).route message with
        | .ok (some update) => s.bookEvent m (.depthEvent update.toOrderBookDeltaEvent)
        | _ => []
      else []
  | .orderBookStep action => s.bookEvent m action
  | _ => []

/-- What a full queue drops for an event. -/
def evicted (event : FlowEvent) : List FlowEvent :=
  match event.channel with
  | some k =>
      if s.maxsize k ≤ 0 ∨ (s.pending m k).length < s.maxsize k then []
      else (s.pending m k).head?.toList
  | none => []

/-- What a step drops from the queues. -/
def lost (a : BootstrapAction) : List FlowEvent := (s.put m R reader a).flatMap (s.evicted m)

/-- What a step takes out of the queues. -/
def taken : BootstrapAction → List FlowEvent
  | .forwardTrade => (s.pending m .trade).head?.toList
  | .forwardLiquidation => (s.pending m .liquidation).head?.toList
  | .forwardOrderBook => (s.pending m .orderBook).head?.toList
  | .forwardFunding => (s.pending m .funding).head?.toList
  | _ => []

end FlowRealtimeBootstrap

/-! ## What a step moves -/

section Moves

theorem onChannel_append (k : FlowChannel) (events events' : List FlowEvent) :
    onChannel k (events ++ events') = onChannel k events ++ onChannel k events' :=
  List.filter_append ..

theorem onChannel_eq {k : FlowChannel} {events : List FlowEvent}
    (h : ∀ event ∈ events, event.channel = some k) : onChannel k events = events :=
  List.filter_eq_self.mpr fun event hevent => by simpa using h event hevent

theorem onChannel_eq_nil {k k' : FlowChannel} {events : List FlowEvent}
    (h : ∀ event ∈ events, event.channel = some k') (hne : k' ≠ k) : onChannel k events = [] :=
  List.filter_eq_nil_iff.mpr fun event hevent => by simpa [h event hevent] using hne

namespace FlowRealtimeBootstrap

variable {m : CaseMapping} {R : Rounding} {reader : NumberReader} {power : FloatPower}
  {s s' : FlowRealtimeBootstrap} {a : BootstrapAction} {calls : List FlowCall} {k : FlowChannel}

theorem channel_of_pending {event : FlowEvent} (h : event ∈ s.pending m k) :
    event.channel = some k := by
  cases k <;>
  · obtain ⟨item, -, rfl⟩ := List.mem_map.mp h
    rfl

theorem channel_of_head {event : FlowEvent} (h : event ∈ (s.pending m k).head?.toList) :
    event.channel = some k :=
  channel_of_pending (List.mem_of_mem_head? (Option.mem_toList.mp h))

variable (m R reader s a s') in
/-- What a step puts into the queues, drops and takes explains what waits after it. -/
def Moves : Prop :=
  ∀ k, s.pending m k ++ onChannel k (s.put m R reader a) =
    onChannel k (s.lost m R reader a) ++ onChannel k (s.taken m a) ++ s'.pending m k

theorem moves_none (hput : s.put m R reader a = []) (htaken : s.taken m a = [])
    (h : ∀ k, s'.pending m k = s.pending m k) : s.Moves m R reader s' a := by
  intro k
  unfold lost
  rw [hput, htaken, h]
  simp [onChannel]

theorem moves_put {event : FlowEvent} (hchannel : event.channel = some k)
    (hput : s.put m R reader a = [event]) (htaken : s.taken m a = [])
    (hk : s.pending m k ++ [event] =
      (if s.maxsize k ≤ 0 ∨ (s.pending m k).length < s.maxsize k then []
        else (s.pending m k).head?.toList) ++ s'.pending m k)
    (hother : ∀ k', k' ≠ k → s'.pending m k' = s.pending m k') : s.Moves m R reader s' a := by
  intro k'
  have hevicted : s.lost m R reader a =
      if s.maxsize k ≤ 0 ∨ (s.pending m k).length < s.maxsize k then []
      else (s.pending m k).head?.toList := by
    unfold lost evicted
    rw [hput, List.flatMap_cons, List.flatMap_nil, List.append_nil]
    simp only [hchannel]
  have hlost : ∀ event ∈ s.lost m R reader a, event.channel = some k := by
    rw [hevicted]
    split_ifs
    · exact fun event h => absurd h List.not_mem_nil
    · exact fun event h => channel_of_head h
  have hevent : ∀ event' ∈ [event], event'.channel = some k := by simpa using hchannel
  rw [hput, htaken]
  rcases eq_or_ne k' k with rfl | hne
  · rw [onChannel_eq hevent, onChannel_eq hlost, hk, hevicted]
    simp [onChannel]
  · rw [onChannel_eq_nil hevent hne.symm, onChannel_eq_nil hlost hne.symm, hother k' hne]
    simp [onChannel]

theorem moves_take (hput : s.put m R reader a = [])
    (htaken : s.taken m a = (s.pending m k).head?.toList)
    (hk : s'.pending m k = (s.pending m k).tail)
    (hother : ∀ k', k' ≠ k → s'.pending m k' = s.pending m k') : s.Moves m R reader s' a := by
  intro k'
  have hhead : ∀ event ∈ (s.pending m k).head?.toList, event.channel = some k :=
    fun event h => channel_of_head h
  have hall (events : List FlowEvent) : events = events.head?.toList ++ events.tail := by
    cases events <;> rfl
  unfold lost
  rw [hput, htaken]
  rcases eq_or_ne k' k with rfl | hne
  · rw [onChannel_eq hhead, hk]
    simpa [onChannel] using hall (s.pending m k')
  · rw [onChannel_eq_nil hhead hne.symm, hother k' hne]
    simp [onChannel]

/-- An order book that is published, or none, moves the queue of the order books. -/
theorem moves_book {action : StreamAction} (hmarket : s'.market = s.market)
    (hsymbol : s'.symbol = s.symbol)
    (hwaiting : ∀ y, s'.orderBook.waiting y =
      s.orderBook.waitingAfter y (s.orderBook.published action))
    (hput : s.put m R reader a = s.bookEvent m action) (htaken : s.taken m a = []) :
    s.Moves m R reader s' a := by
  have hupper : s'.upper m = s.upper m :=
    congrArg (fun symbol : Symbol => m.upper symbol.val) hsymbol
  have hother (k' : FlowChannel) (hk' : k' ≠ .orderBook) : s'.pending m k' = s.pending m k' := by
    cases k' with
    | trade | funding =>
        unfold pending
        rw [hupper, hmarket]
    | liquidation =>
        unfold pending
        rw [hmarket]
    | orderBook => exact absurd rfl hk'
  have hbooks (hsame : ∀ y, toSymbol (s.upper m) = some y →
      s'.orderBook.waiting y = s.orderBook.waiting y) : s'.pending m .orderBook =
        s.pending m .orderBook := by
    simp only [pending, waitingBooks, hupper]
    cases hy : toSymbol (s.upper m) with
    | none => rfl
    | some y => rw [Option.map_some, Option.map_some, hsame y hy]
  have hquiet (hnone : s.put m R reader a = []) (hsame : ∀ y, toSymbol (s.upper m) = some y →
      s'.orderBook.waiting y = s.orderBook.waiting y) : s.Moves m R reader s' a :=
    moves_none hnone htaken fun k' => by
      by_cases hk' : k' = .orderBook
      · exact hk' ▸ hbooks hsame
      · exact hother k' hk'
  unfold bookEvent at hput
  cases hpublished : s.orderBook.published action with
  | none =>
      rw [hpublished] at hput
      exact hquiet hput fun y _ => by rw [hwaiting, hpublished]; rfl
  | some published =>
      obtain ⟨z, snapshot⟩ := published
      rw [hpublished] at hput
      dsimp only at hput
      split_ifs at hput with hown
      · obtain ⟨hz, y, hy, hsome⟩ := hown
        obtain rfl : z = y := Subtype.ext (hz.trans (toSymbol_eq_some.mp hy).symm)
        refine moves_put rfl hput htaken ?_ hother
        have hpending : s.pending m .orderBook = (s.orderBook.waiting z).map .orderBook := by
          simp [pending, waitingBooks, hy]
        have hpending' : s'.pending m .orderBook =
            (dropOldestPut s.orderBook.queueMaxsize (s.orderBook.waiting z) snapshot).map
              .orderBook := by
          simp only [pending, waitingBooks, hupper, hy, Option.map_some, Option.getD_some, hwaiting,
            hpublished, BinanceFuturesOrderBookStream.waitingAfter]
          rw [if_pos ⟨trivial, hsome⟩]
        rw [hpending, hpending']
        exact map_dropOldestPut _ _ _ _
      · refine hquiet hput fun y hy => ?_
        rw [hwaiting, hpublished]
        refine if_neg fun h => hown ⟨?_, y, hy, h.2⟩
        exact h.1 ▸ toSymbol_eq_some.mp hy

theorem dispatch_trade (market : BinanceFuturesMarketStream) (trade : AggTrade) :
    market.dispatch (.trade trade) = { market with
      tradeQueues := handOver market.tradeQueues trade.symbol.val fun queue =>
        dropOldestPut market.queueMaxsize queue trade } := by
  unfold BinanceFuturesMarketStream.dispatch handOver
  dsimp only
  cases market.tradeQueues.lookup trade.symbol.val <;> rfl

theorem dispatch_markPrice (market : BinanceFuturesMarketStream) (update : MarkPriceUpdate) :
    market.dispatch (.markPrice update) = { market with
      markPriceQueues := handOver market.markPriceQueues update.symbol.val fun queue =>
        dropOldestPut market.queueMaxsize queue update } := by
  unfold BinanceFuturesMarketStream.dispatch handOver
  dsimp only
  cases market.markPriceQueues.lookup update.symbol.val <;> rfl

theorem moves_market (intervals : List ℕ → Option ℕ+) (message : RawStreamMessage) :
    s.Moves m R reader { s with market := s.market.receive R reader intervals message }
      (.marketFrame intervals message) := by
  have hquiet {market : BinanceFuturesMarketStream}
      (hnone : s.put m R reader (.marketFrame intervals message) = [])
      (htrade : (market.tradeQueues.lookup (s.upper m)).getD [] =
        (s.market.tradeQueues.lookup (s.upper m)).getD [])
      (hmark : (market.markPriceQueues.lookup (s.upper m)).getD [] =
        (s.market.markPriceQueues.lookup (s.upper m)).getD [])
      (hliquidation : market.liquidationQueue = s.market.liquidationQueue) :
      s.Moves m R reader { s with market } (.marketFrame intervals message) :=
    moves_none hnone rfl fun k => by
      cases k with
      | trade => exact congrArg (List.map _) htrade
      | liquidation => exact congrArg (List.map _) hliquidation
      | orderBook => rfl
      | funding => exact congrArg (List.map _) hmark
  have hput : s.put m R reader (.marketFrame intervals message) =
      s.marketEvent m R reader intervals message := rfl
  unfold marketEvent at hput
  unfold BinanceFuturesMarketStream.receive
  split_ifs with hrunning
  · rw [if_pos hrunning] at hput
    cases hroute : (marketRouter R reader intervals).route message with
    | error e =>
        rw [hroute] at hput
        exact hquiet hput rfl rfl rfl
    | ok result =>
        rw [hroute] at hput
        cases result with
        | none => exact hquiet hput rfl rfl rfl
        | some event =>
            cases event with
            | trade trade =>
                dsimp only at hput ⊢
                rw [dispatch_trade]
                split_ifs at hput with hown
                · refine moves_put rfl hput rfl ?_ fun k' hk' => ?_
                  · have hafter := getD_lookup_handOver s.market.tradeQueues trade.symbol.val
                      (s.upper m) fun queue => dropOldestPut s.market.queueMaxsize queue trade
                    rw [if_pos hown] at hafter
                    refine (map_dropOldestPut (fun trade : AggTrade =>
                      FlowEvent.trade trade.toFlowTrade) _ _ _).trans (congrArg _ ?_)
                    exact congrArg (List.map _) hafter.symm
                  · cases k' <;> first | rfl | exact absurd rfl hk'
                · refine hquiet hput ?_ rfl rfl
                  rw [getD_lookup_handOver, if_neg hown]
            | markPrice update =>
                dsimp only at hput ⊢
                rw [dispatch_markPrice]
                split_ifs at hput with hown
                · refine moves_put rfl hput rfl ?_ fun k' hk' => ?_
                  · have hafter := getD_lookup_handOver s.market.markPriceQueues update.symbol.val
                      (s.upper m) fun queue => dropOldestPut s.market.queueMaxsize queue update
                    rw [if_pos hown] at hafter
                    refine (map_dropOldestPut (fun update : MarkPriceUpdate =>
                      FlowEvent.funding update.toFundingRate) _ _ _).trans (congrArg _ ?_)
                    exact congrArg (List.map _) hafter.symm
                  · cases k' <;> first | rfl | exact absurd rfl hk'
                · refine hquiet hput rfl ?_ rfl
                  rw [getD_lookup_handOver, if_neg hown]
            | liquidation order =>
                refine moves_put rfl hput rfl ?_ fun k' hk' => ?_
                · exact map_dropOldestPut (fun order : ForceOrder =>
                    FlowEvent.liquidation order.toLiquidationEvent) _ _ _
                · cases k' <;> first | rfl | exact absurd rfl hk'
  · rw [if_neg hrunning] at hput
    exact hquiet hput rfl rfl rfl

/-- **What a step puts into the queues, drops from them and takes out explains what waits.** -/
theorem step_moves (h : s.step m R reader power a = some (s', calls)) : s.Moves m R reader s' a := by
  cases a with
  | marketFrame intervals message =>
      cases h
      exact moves_market intervals message
  | depthFrame message =>
      cases h
      have hput : s.put m R reader (.depthFrame message) = if s.orderBook.dispatching then
          match (depthRouter reader).route message with
          | .ok (some update) => s.bookEvent m (.depthEvent update.toOrderBookDeltaEvent)
          | _ => []
        else [] := rfl
      unfold BinanceFuturesOrderBookStream.receive
      split_ifs with hrunning
      · rw [if_pos hrunning] at hput
        cases hroute : (depthRouter reader).route message with
        | error e =>
            rw [hroute] at hput
            exact moves_none hput rfl fun k => by cases k <;> rfl
        | ok result =>
            rw [hroute] at hput
            cases result with
            | none => exact moves_none hput rfl fun k => rfl
            | some update =>
                exact moves_book rfl rfl (fun y => s.orderBook.waiting_dispatch _ y) hput rfl
      · rw [if_neg hrunning] at hput
        exact moves_none hput rfl fun k => rfl
  | orderBookStep action =>
      cases action with
      | depthEvent delta => cases h
      | orderBook | subscribed | taskStart | fetchDone | sleepDone | sleepRaises =>
          simp only [step, Option.map_eq_some_iff] at h
          obtain ⟨orderBook, hstep, heq⟩ := h
          cases heq
          exact moves_book rfl rfl
            (fun y => BinanceFuturesOrderBookStream.waiting_step hstep y) rfl rfl
  | startTrades =>
      cases h
      refine moves_none rfl rfl fun k => ?_
      cases k with
      | trade => exact congrArg (List.map _) (getD_lookup_setDefault ..)
      | liquidation | orderBook | funding => rfl
  | startMarkPrice =>
      cases h
      refine moves_none rfl rfl fun k => ?_
      cases k with
      | funding => exact congrArg (List.map _) (getD_lookup_setDefault ..)
      | liquidation | orderBook | trade => rfl
  | openInterestPolled | buildFlowResult =>
      cases h
      exact moves_none rfl rfl fun k => rfl
  | forwardTrade =>
      simp only [step, forwardTrade] at h
      split at h
      · next trade rest hqueue =>
          cases h
          have hpending : s.pending m .trade = (trade :: rest).map fun trade : AggTrade =>
              FlowEvent.trade trade.toFlowTrade := by
            unfold pending
            rw [hqueue, Option.getD_some]
          refine moves_take rfl rfl ?_ fun k' hk' => ?_
          · rw [hpending, List.map_cons, List.tail_cons]
            change List.map _ (((s.market.tradeQueues.insert (s.upper m) rest).lookup
              (s.upper m)).getD []) = _
            rw [AList.lookup_insert, Option.getD_some]
          · cases k' with
            | trade => exact absurd rfl hk'
            | liquidation | orderBook | funding => rfl
      · cases h
  | forwardFunding =>
      simp only [step, forwardFunding] at h
      split at h
      · next update rest hqueue =>
          cases h
          have hpending : s.pending m .funding = (update :: rest).map
              fun update : MarkPriceUpdate => FlowEvent.funding update.toFundingRate := by
            unfold pending
            rw [hqueue, Option.getD_some]
          refine moves_take rfl rfl ?_ fun k' hk' => ?_
          · rw [hpending, List.map_cons, List.tail_cons]
            change List.map _ (((s.market.markPriceQueues.insert (s.upper m) rest).lookup
              (s.upper m)).getD []) = _
            rw [AList.lookup_insert, Option.getD_some]
          · cases k' with
            | funding => exact absurd rfl hk'
            | liquidation | orderBook | trade => rfl
      · cases h
  | forwardLiquidation =>
      simp only [step, forwardLiquidation] at h
      split at h
      · next order rest hqueue =>
          cases h
          refine moves_take rfl rfl ?_ fun k' hk' => ?_
          · simp [pending, hqueue]
          · cases k' with
            | liquidation => exact absurd rfl hk'
            | trade | orderBook | funding => rfl
      · cases h
  | forwardOrderBook =>
      obtain ⟨y, hy, h⟩ := Option.bind_eq_some_iff.mp h
      split at h
      · next snapshot rest hqueue =>
          cases h
          have hbooks (orderBook : BinanceFuturesOrderBookStream) :
              ({ s with orderBook } : FlowRealtimeBootstrap).waitingBooks m =
                orderBook.waiting y := by
            change ((toSymbol (s.upper m)).map fun y => orderBook.waiting y).getD [] = _
            rw [hy, Option.map_some, Option.getD_some]
          have hpending : s.pending m .orderBook = (snapshot :: rest).map .orderBook := by
            refine congrArg (List.map _) ((hbooks s.orderBook).trans ?_)
            rw [BinanceFuturesOrderBookStream.waiting, hqueue, Option.getD_some]
          refine moves_take rfl rfl ?_ fun k' hk' => ?_
          · rw [hpending, List.map_cons, List.tail_cons]
            refine congrArg (List.map _) ((hbooks _).trans ?_)
            rw [BinanceFuturesOrderBookStream.waiting, AList.lookup_insert, Option.getD_some]
          · cases k' with
            | orderBook => exact absurd rfl hk'
            | trade | liquidation | funding => rfl
      · cases h

end FlowRealtimeBootstrap

end Moves

/-! ## What is recorded -/

/-- The events that some calls record. -/
def recorded (calls : List FlowCall) : List FlowEvent :=
  calls.filterMap fun call =>
    match call with
    | .record event => some event
    | .build .. => none

/-- The events of a symbol. -/
def eventsOf (symbol : String) (events : List FlowEvent) : List FlowEvent :=
  events.filter fun event => event.key.1 = symbol

namespace FlowRealtimeBootstrap

variable {m : CaseMapping} {R : Rounding} {reader : NumberReader} {power : FloatPower}
  {s s' : FlowRealtimeBootstrap} {a : BootstrapAction} {calls : List FlowCall} {k : FlowChannel}

theorem step_symbol (h : s.step m R reader power a = some (s', calls)) : s'.symbol = s.symbol := by
  cases a with
  | marketFrame | depthFrame | startTrades | startMarkPrice | openInterestPolled
  | buildFlowResult =>
      cases h
      rfl
  | orderBookStep action =>
      cases action with
      | depthEvent delta => cases h
      | orderBook | subscribed | taskStart | fetchDone | sleepDone | sleepRaises =>
          simp only [step, Option.map_eq_some_iff] at h
          obtain ⟨orderBook, -, heq⟩ := h
          cases heq
          rfl
  | forwardTrade | forwardFunding | forwardLiquidation =>
      simp only [step, forwardTrade, forwardFunding, forwardLiquidation] at h
      split at h <;> cases h
      rfl
  | forwardOrderBook =>
      obtain ⟨y, -, h⟩ := Option.bind_eq_some_iff.mp h
      split at h <;> cases h
      rfl

theorem givenBook_eq_some {y z : Symbol} {result : Except SyncFailure (Option OrderBookSnapshot)}
    {snapshot : OrderBookSnapshot} (h : givenBook y result = some (z, snapshot)) :
    z = y ∧ result = .ok (some snapshot) := by
  unfold givenBook at h
  split at h
  · cases h
    exact ⟨rfl, rfl⟩
  · cases h

theorem materialize_symbol {sync : OrderBookSynchronizer} {snapshot : OrderBookSnapshot}
    (h : sync.materialize = .ok snapshot) : snapshot.symbol = sync.symbol := by
  unfold OrderBookSynchronizer.materialize at h
  split_ifs at h
  cases h
  rfl

theorem published_symbol {stream : BinanceFuturesOrderBookStream} (hs : stream.Registered)
    {action : StreamAction} {y : Symbol} {snapshot : OrderBookSnapshot}
    (h : stream.published action = some (y, snapshot)) : snapshot.symbol = y := by
  cases action with
  | depthEvent delta =>
      obtain ⟨sync, hlookup, hgiven⟩ := Option.bind_eq_some_iff.mp h
      obtain ⟨rfl, hresult⟩ := givenBook_eq_some hgiven
      have hcall := OrderBookSynchronizer.materialize_of_call (c := .onDelta delta) hresult
      exact (materialize_symbol hcall.2).trans
        ((sync.sameScope_onDelta delta).1.trans (hs _ _ hlookup).1)
  | fetchDone i outcome jitter =>
      cases outcome with
      | marketDataError => cases h
      | snapshot fetched =>
          simp only [BinanceFuturesOrderBookStream.published] at h
          split at h
          · next z attempt ht =>
              obtain ⟨sync, hlookup, hgiven⟩ := Option.bind_eq_some_iff.mp h
              obtain ⟨rfl, hresult⟩ := givenBook_eq_some hgiven
              have hcall :=
                OrderBookSynchronizer.materialize_of_call (c := .applySnapshot fetched) hresult
              exact (materialize_symbol hcall.2).trans
                ((sync.sameScope_applySnapshot fetched).1.trans (hs _ _ hlookup).1)
          · cases h
  | orderBook | subscribed | taskStart | sleepDone | sleepRaises => cases h

theorem put_own (hs : s.orderBook.Registered) {event : FlowEvent}
    (h : event ∈ s.put m R reader a) (hchannel : event.channel ≠ some .liquidation) :
    event.key.1 = s.upper m := by
  have hbook {action : StreamAction} (h : event ∈ s.bookEvent m action) :
      event.key.1 = s.upper m := by
    unfold bookEvent at h
    cases hpublished : s.orderBook.published action with
    | none =>
        rw [hpublished] at h
        cases h
    | some published =>
        obtain ⟨y, snapshot⟩ := published
        rw [hpublished] at h
        dsimp only at h
        split_ifs at h with hown
        · obtain rfl := List.mem_singleton.mp h
          exact (congrArg Subtype.val (published_symbol hs hpublished)).trans hown.1
        · cases h
  cases a with
  | marketFrame intervals message =>
      simp only [put, marketEvent] at h
      split_ifs at h
      · split at h
        · split_ifs at h with hown
          · obtain rfl := List.mem_singleton.mp h
            exact hown.1
          · cases h
        · split_ifs at h with hown
          · obtain rfl := List.mem_singleton.mp h
            exact hown.1
          · cases h
        · obtain rfl := List.mem_singleton.mp h
          exact absurd rfl hchannel
        · cases h
      · cases h
  | depthFrame message =>
      simp only [put] at h
      split_ifs at h
      · split at h
        · exact hbook h
        · cases h
      · cases h
  | orderBookStep action => exact hbook h
  | startTrades | startMarkPrice | forwardTrade | forwardLiquidation | forwardOrderBook
  | forwardFunding | openInterestPolled | buildFlowResult => cases h

/-- Of what is taken out, the events of the symbol are recorded. -/
theorem step_records (h : s.step m R reader power a = some (s', calls))
    (hown : ∀ k, k ≠ .liquidation → ∀ event ∈ s.pending m k, event.key.1 = s.upper m)
    (k : FlowChannel) :
    onChannel k (recorded calls) = eventsOf (s.upper m) (onChannel k (s.taken m a)) := by
  have hall (k' : FlowChannel) (hk' : k' ≠ .liquidation) :
      onChannel k (s.pending m k').head?.toList =
        eventsOf (s.upper m) (onChannel k (s.pending m k').head?.toList) := by
    refine (List.filter_eq_self.mpr fun event hevent => ?_).symm
    have hmem := List.mem_of_mem_head? (Option.mem_toList.mp (List.mem_of_mem_filter hevent))
    simpa using hown k' hk' event hmem
  cases a with
  | marketFrame | depthFrame | startTrades | startMarkPrice | openInterestPolled
  | buildFlowResult =>
      cases h
      rfl
  | orderBookStep action =>
      cases action with
      | depthEvent delta => cases h
      | orderBook | subscribed | taskStart | fetchDone | sleepDone | sleepRaises =>
          simp only [step, Option.map_eq_some_iff] at h
          obtain ⟨orderBook, -, heq⟩ := h
          cases heq
          rfl
  | forwardTrade =>
      simp only [step, forwardTrade] at h
      split at h
      · next trade rest hqueue =>
          cases h
          refine Eq.trans ?_ (hall .trade (by decide))
          unfold pending
          rw [hqueue]
          rfl
      · cases h
  | forwardFunding =>
      simp only [step, forwardFunding] at h
      split at h
      · next update rest hqueue =>
          cases h
          refine Eq.trans ?_ (hall .funding (by decide))
          unfold pending
          rw [hqueue]
          rfl
      · cases h
  | forwardLiquidation =>
      simp only [step, forwardLiquidation] at h
      split at h
      · next order rest hqueue =>
          cases h
          have htaken : s.taken m .forwardLiquidation =
              [.liquidation order.toLiquidationEvent] := by
            simp [taken, pending, hqueue]
          rw [htaken]
          by_cases hsymbol : order.symbol.val = s.upper m
          · cases k <;> simp [recorded, onChannel, eventsOf, FlowEvent.channel, FlowEvent.key,
              hsymbol]
          · cases k <;> simp [recorded, onChannel, eventsOf, FlowEvent.channel, FlowEvent.key,
              hsymbol]
      · cases h
  | forwardOrderBook =>
      obtain ⟨y, hy, h⟩ := Option.bind_eq_some_iff.mp h
      split at h
      · next snapshot rest hqueue =>
          cases h
          refine Eq.trans ?_ (hall .orderBook (by decide))
          simp [pending, waitingBooks, hy, BinanceFuturesOrderBookStream.waiting, hqueue, recorded]
      · cases h

end FlowRealtimeBootstrap

/-! ## Runs -/

section Traces

variable (m : CaseMapping) (R : Rounding) (reader : NumberReader) (power : FloatPower)
  (start : FlowRealtimeBootstrap)

/-- A run, with what came into the queues, what full queues dropped, and the calls of the engine. -/
inductive Trace : List FlowEvent → List FlowEvent → List FlowCall → FlowRealtimeBootstrap → Prop
  | start : Trace [] [] [] start
  | step {put lost : List FlowEvent} {calls more : List FlowCall} {s s' : FlowRealtimeBootstrap}
      {a : BootstrapAction} (before : Trace put lost calls s)
      (next : s.step m R reader power a = some (s', more)) :
      Trace (put ++ s.put m R reader a) (lost ++ s.lost m R reader a) (calls ++ more) s'

/-- Take the actions in order after what a trace has so far. -/
def traceFrom : List FlowEvent × List FlowEvent × List FlowCall × FlowRealtimeBootstrap →
    List BootstrapAction →
    Option (List FlowEvent × List FlowEvent × List FlowCall × FlowRealtimeBootstrap)
  | t, [] => some t
  | (put, lost, calls, s), a :: as =>
      (s.step m R reader power a).bind fun (s', more) =>
        traceFrom (put ++ s.put m R reader a, lost ++ s.lost m R reader a, calls ++ more, s') as

variable {m R reader power start} {put lost : List FlowEvent} {calls : List FlowCall}
  {s : FlowRealtimeBootstrap} {k : FlowChannel}

theorem eventsOf_append (symbol : String) (events events' : List FlowEvent) :
    eventsOf symbol (events ++ events') = eventsOf symbol events ++ eventsOf symbol events' :=
  List.filter_append ..

theorem Trace.of_traceFrom {as : List BootstrapAction}
    {t : List FlowEvent × List FlowEvent × List FlowCall × FlowRealtimeBootstrap}
    (h : Trace m R reader power start put lost calls s)
    (ht : traceFrom m R reader power (put, lost, calls, s) as = some t) :
    Trace m R reader power start t.1 t.2.1 t.2.2.1 t.2.2.2 := by
  induction as generalizing put lost calls s with
  | nil => exact Option.some.inj ht ▸ h
  | cons a as ih =>
      obtain ⟨⟨s', more⟩, hstep, hrest⟩ := Option.bind_eq_some_iff.mp ht
      exact ih (h.step hstep) hrest

/-- What holds in every state of a run, in which some events were taken out of the queues. -/
structure FeedInvariant (m : CaseMapping) (start : FlowRealtimeBootstrap)
    (put lost taken : List FlowEvent) (calls : List FlowCall) (s : FlowRealtimeBootstrap) :
    Prop where
  symbol : s.symbol = start.symbol
  registered : s.orderBook.Registered
  own : ∀ event ∈ put, event.channel ≠ some .liquidation → event.key.1 = start.upper m
  accounts : ∀ k, Accounts (onChannel k put) (onChannel k taken) (onChannel k lost) (s.pending m k)
  records : ∀ k, onChannel k (recorded calls) = eventsOf (start.upper m) (onChannel k taken)

theorem FeedInvariant.own_of_pending {taken : List FlowEvent}
    (h : FeedInvariant m start put lost taken calls s) (hk : k ≠ .liquidation) {event : FlowEvent}
    (hevent : event ∈ s.pending m k) : event.key.1 = start.upper m := by
  have hput : event ∈ onChannel k put :=
    (h.accounts k).sublist.subset (List.mem_append_right _ hevent)
  refine h.own event (List.mem_of_mem_filter hput) fun hchannel => hk ?_
  exact Option.some.inj ((FlowRealtimeBootstrap.channel_of_pending hevent).symm.trans hchannel)

/-- One step keeps the invariant. -/
theorem FeedInvariant.step {taken : List FlowEvent} {more : List FlowCall}
    {s' : FlowRealtimeBootstrap} {a : BootstrapAction}
    (h : FeedInvariant m start put lost taken calls s)
    (hstep : s.step m R reader power a = some (s', more)) :
    FeedInvariant m start (put ++ s.put m R reader a) (lost ++ s.lost m R reader a)
      (taken ++ s.taken m a) (calls ++ more) s' := by
  have hupper : s.upper m = start.upper m :=
    congrArg (fun symbol : Symbol => m.upper symbol.val) h.symbol
  refine ⟨(FlowRealtimeBootstrap.step_symbol hstep).trans h.symbol,
    FlowRealtimeBootstrap.step_registered hstep h.registered, ?_, fun k => ?_, fun k => ?_⟩
  · intro event hevent hchannel
    rcases List.mem_append.mp hevent with hold | hnew
    · exact h.own event hold hchannel
    · exact (FlowRealtimeBootstrap.put_own h.registered hnew hchannel).trans hupper
  · rw [onChannel_append, onChannel_append, onChannel_append]
    exact (h.accounts k).step (FlowRealtimeBootstrap.step_moves hstep k)
  · have hrecords := FlowRealtimeBootstrap.step_records hstep
      (fun k hk event hevent => (h.own_of_pending hk hevent).trans hupper.symm) k
    rw [hupper] at hrecords
    rw [recorded, List.filterMap_append, onChannel_append, onChannel_append, eventsOf_append]
    exact congrArg₂ (· ++ ·) (h.records k) hrecords

theorem Trace.invariant (h : Trace m R reader power start put lost calls s)
    (hregistered : start.orderBook.Registered) (hempty : ∀ k, start.pending m k = []) :
    ∃ taken, FeedInvariant m start put lost taken calls s := by
  induction h with
  | start =>
      refine ⟨[], rfl, hregistered, fun event hevent => absurd hevent List.not_mem_nil,
        fun k => ?_, fun k => rfl⟩
      rw [hempty]
      exact accounts_nil
  | step before next ih =>
      obtain ⟨taken, hinvariant⟩ := ih
      exact ⟨_, hinvariant.step next⟩

/-- **In every run, the engine records of each channel the events of the instrument that came into
the queue, in their order and each once: what was recorded, what still waits and what a full queue
dropped is all there was, and without a drop nothing is missing.** -/
theorem realtime_feed_in_order (symbol : Symbol) (contractType : ContractType)
    (marketMaxsize bookMaxsize : ℤ) (source : NonemptyText) (maxResyncAttempts : ℕ)
    (h : Trace m R reader power (.init symbol contractType marketMaxsize bookMaxsize source
      maxResyncAttempts) put lost calls s) (k : FlowChannel) :
    Accounts (eventsOf (m.upper symbol.val) (onChannel k put)) (onChannel k (recorded calls))
      (eventsOf (m.upper symbol.val) (onChannel k lost))
      (eventsOf (m.upper symbol.val) (s.pending m k)) ∧
    (onChannel k lost = [] → onChannel k (recorded calls) ++
      eventsOf (m.upper symbol.val) (s.pending m k) =
        eventsOf (m.upper symbol.val) (onChannel k put)) := by
  have hempty (k : FlowChannel) : (FlowRealtimeBootstrap.init symbol contractType marketMaxsize
      bookMaxsize source maxResyncAttempts).pending m k = [] := by
    cases k with
    | trade | liquidation | funding => rfl
    | orderBook =>
        simp only [FlowRealtimeBootstrap.pending, FlowRealtimeBootstrap.waitingBooks]
        cases toSymbol _ <;> rfl
  obtain ⟨taken, hinvariant⟩ := h.invariant (fun y sync hlookup => by cases hlookup) hempty
  have haccounts := (hinvariant.accounts k).filter fun event => event.key.1 = m.upper symbol.val
  have hrecords : onChannel k (recorded calls) =
      eventsOf (m.upper symbol.val) (onChannel k taken) := hinvariant.records k
  rw [hrecords]
  refine ⟨haccounts, fun hlost => ?_⟩
  rw [hlost] at haccounts
  exact haccounts.complete

end Traces

/-- The reader of a sample in which every number is an integer already. -/
def sampleNumberReader : NumberReader := ⟨fun _ => none, fun _ => none⟩

/-- The bootstrap of the samples; its queues hold one item. -/
def sampleBootstrap : FlowRealtimeBootstrap :=
  .init btcusdt .perpetual 1 1 defaultSource 3

/-- A forced order of the symbol of the samples. -/
def sampleForceOrder (quantity : ℤ) : RawStreamMessage where
  stream := .str (codePoints "btcusdt@forceOrder".toList)
  payload := .obj [(codePoints "o".toList, .obj [
    (codePoints "S".toList, .str (codePoints "SELL".toList)), (codePoints "ap".toList, .int 2),
    (codePoints "s".toList, .str (codePoints "BTCUSDT".toList)),
    (codePoints "q".toList, .int quantity), (codePoints "T".toList, .int 0)])]
  receivedAt := 0

/-- Three liquidations, the second of which is dropped for the third. -/
theorem realtime_feed_in_order_sample : ∃ put lost calls s,
    Trace .ascii .exact sampleNumberReader .rounded sampleBootstrap put lost calls s ∧
      (onChannel .liquidation put).length = 3 ∧ (onChannel .liquidation lost).length = 1 ∧
      (onChannel .liquidation (recorded calls)).length = 1 ∧
      (Accounts (eventsOf "BTCUSDT" (onChannel .liquidation put))
        (onChannel .liquidation (recorded calls))
        (eventsOf "BTCUSDT" (onChannel .liquidation lost))
        (eventsOf "BTCUSDT" (s.pending .ascii .liquidation)) ∧
      (onChannel .liquidation lost = [] → onChannel .liquidation (recorded calls) ++
        eventsOf "BTCUSDT" (s.pending .ascii .liquidation) =
          eventsOf "BTCUSDT" (onChannel .liquidation put))) := by
  have hend : (traceFrom .ascii .exact sampleNumberReader .rounded ([], [], [], sampleBootstrap)
      [.marketFrame (fun _ => none) (sampleForceOrder 3), .forwardLiquidation,
        .marketFrame (fun _ => none) (sampleForceOrder 4),
        .marketFrame (fun _ => none) (sampleForceOrder 5)]).map
      (fun t => ((onChannel .liquidation t.1).length, (onChannel .liquidation t.2.1).length,
        (onChannel .liquidation (recorded t.2.2.1)).length)) = some (3, 1, 1) := by
    decide +kernel
  obtain ⟨⟨put, lost, calls, s⟩, ht, hlengths⟩ := Option.map_eq_some_iff.mp hend
  simp only [Prod.mk.injEq] at hlengths
  obtain ⟨hput, hlost, hcalls⟩ := hlengths
  have htrace := Trace.of_traceFrom .start ht
  exact ⟨put, lost, calls, s, htrace, hput, hlost, hcalls,
    realtime_feed_in_order btcusdt .perpetual 1 1 defaultSource 3 htrace .liquidation⟩

/-! ## The loops in every run -/

section Runs

variable {m : CaseMapping} {R : Rounding} {reader : NumberReader} {power : FloatPower}

/-- **In every run, a dispatch loop lives on exactly as long as no message comes whose stream has no
name, no trade whose quote quantity no decimal holds, and no depth update that leaves a
synchronized book crossed.** -/
theorem dispatch_loops_survive_iff (symbol : Symbol) (contractType : ContractType)
    (marketMaxsize bookMaxsize : ℤ) (source : NonemptyText) (maxResyncAttempts : ℕ)
    {actions : List BootstrapAction} {s : FlowRealtimeBootstrap}
    (h : run (FlowRealtimeBootstrap.next m R reader power)
      (.init symbol contractType marketMaxsize bookMaxsize source maxResyncAttempts) actions =
        some s) :
    (s.market.dispatching = true ↔ Along (FlowRealtimeBootstrap.next m R reader power)
      (fun _ a => ∀ intervals message, a = .marketFrame intervals message →
        ¬ BinanceFuturesMarketStream.Kills R reader message)
      (.init symbol contractType marketMaxsize bookMaxsize source maxResyncAttempts) actions) ∧
    (s.orderBook.dispatching = true ↔ Along (FlowRealtimeBootstrap.next m R reader power)
      (fun s a => ∀ message, a = .depthFrame message → ¬ s.orderBook.Kills reader message)
      (.init symbol contractType marketMaxsize bookMaxsize source maxResyncAttempts) actions) := by
  have hregistered : (FlowRealtimeBootstrap.init symbol contractType marketMaxsize bookMaxsize
      source maxResyncAttempts).orderBook.Registered := fun y sync hlookup => by cases hlookup
  have hkeeps (s : FlowRealtimeBootstrap) (a : BootstrapAction) (s' : FlowRealtimeBootstrap)
      (hs : s.orderBook.Registered) (hnext : s.next m R reader power a = some s') :
      s'.orderBook.Registered := by
    obtain ⟨calls, hstep⟩ := FlowRealtimeBootstrap.next_eq_some.mp hnext
    exact FlowRealtimeBootstrap.step_registered hstep hs
  have hmarket := run_iff_along hkeeps (fun s a s' hs hnext => by
    obtain ⟨calls, hstep⟩ := FlowRealtimeBootstrap.next_eq_some.mp hnext
    exact (FlowRealtimeBootstrap.step_dispatching hstep hs).1) hregistered h
  have hbook := run_iff_along hkeeps (fun s a s' hs hnext => by
    obtain ⟨calls, hstep⟩ := FlowRealtimeBootstrap.next_eq_some.mp hnext
    exact (FlowRealtimeBootstrap.step_dispatching hstep hs).2) hregistered h
  exact ⟨hmarket.trans (and_iff_right rfl), hbook.trans (and_iff_right rfl)⟩

end Runs

/-- A depth update of the symbol of the samples. -/
def sampleDepthUpdate (previous first final : ℤ) (bids asks : List (ℤ × ℤ)) : RawStreamMessage where
  stream := .str (codePoints "btcusdt@depth".toList)
  payload := .obj [(codePoints "s".toList, .str (codePoints "BTCUSDT".toList)),
    (codePoints "U".toList, .int first), (codePoints "u".toList, .int final),
    (codePoints "pu".toList, .int previous), (codePoints "E".toList, .int 0),
    (codePoints "b".toList, .arr (bids.map fun level => .arr [.int level.1, .int level.2])),
    (codePoints "a".toList, .arr (asks.map fun level => .arr [.int level.1, .int level.2]))]
  receivedAt := 0

/-- A run with a full queue, a depth update that crosses a synchronized book, and a message whose
stream is a number. -/
def fatalRun : List BootstrapAction :=
  [.marketFrame (fun _ => none) (sampleForceOrder 3),
    .marketFrame (fun _ => none) (sampleForceOrder 4),
    .orderBookStep (.orderBook btcusdt), .orderBookStep (.subscribed btcusdt),
    .orderBookStep (.taskStart 0), .depthFrame (sampleDepthUpdate 3 4 5 [(100, 1)] [(101, 1)]),
    .orderBookStep (.fetchDone 0
      (.snapshot (BinanceFuturesOrderBookStream.emptySnapshot 4)) noJitter),
    .depthFrame (sampleDepthUpdate 5 6 6 [(102, 1)] []),
    .marketFrame (fun _ => none) ⟨.int 5, .obj [], 0⟩]

theorem dispatch_loops_survive_iff_sample : ∃ s,
    run (FlowRealtimeBootstrap.next .ascii .exact sampleNumberReader .rounded) sampleBootstrap
      fatalRun = some s ∧
    s.market.dispatching = false ∧ s.orderBook.dispatching = false ∧
    (s.market.dispatching = true ↔
      Along (FlowRealtimeBootstrap.next .ascii .exact sampleNumberReader .rounded)
        (fun _ a => ∀ intervals message, a = .marketFrame intervals message →
          ¬ BinanceFuturesMarketStream.Kills .exact sampleNumberReader message)
        sampleBootstrap fatalRun) ∧
    (s.orderBook.dispatching = true ↔
      Along (FlowRealtimeBootstrap.next .ascii .exact sampleNumberReader .rounded)
        (fun s a => ∀ message, a = .depthFrame message →
          ¬ s.orderBook.Kills sampleNumberReader message)
        sampleBootstrap fatalRun) := by
  have hend : (run (FlowRealtimeBootstrap.next .ascii .exact sampleNumberReader .rounded)
      sampleBootstrap fatalRun).map (fun s => (s.market.dispatching, s.orderBook.dispatching)) =
      some (false, false) := by decide +kernel
  obtain ⟨s, hs, hloops⟩ := Option.map_eq_some_iff.mp hend
  obtain ⟨hmarket, hbook⟩ := Prod.mk.inj hloops
  exact ⟨s, hs, hmarket, hbook,
    dispatch_loops_survive_iff btcusdt .perpetual 1 1 defaultSource 3 hs⟩

end TradingAdvisor
