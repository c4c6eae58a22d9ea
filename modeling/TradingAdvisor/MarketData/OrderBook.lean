import Mathlib.Data.List.Chain
import TradingAdvisor.Core.Base
import TradingAdvisor.Lib.VersionedStore

/-!
# Order book contracts

A snapshot is a point-in-time view of both sides, best price first; a delta event is one
record of the depth-diff stream. Both are validated values: a snapshot is never crossed, and a
delta never ends before it starts.
-/

namespace TradingAdvisor

open VersionedStore

/-- The two sides of a book. -/
inductive BookSide
  | bid
  | ask
  deriving DecidableEq, Repr

/-- One price level of an order book side. -/
structure OrderBookLevel where
  price : Price
  quantity : Volume
  deriving DecidableEq

/-- The level as a price with its quantity. -/
def OrderBookLevel.pair (level : OrderBookLevel) : Price × Volume := (level.price, level.quantity)

/-- The level of a price with its quantity. -/
def OrderBookLevel.ofPair (kv : Price × Volume) : OrderBookLevel := ⟨kv.1, kv.2⟩

@[simp] theorem OrderBookLevel.pair_ofPair (kv : Price × Volume) : (ofPair kv).pair = kv := rfl

@[simp] theorem OrderBookLevel.ofPair_pair (level : OrderBookLevel) : ofPair level.pair = level :=
  rfl

/-- On its side, the first level has the strictly better price. -/
def Better : BookSide → OrderBookLevel → OrderBookLevel → Prop
  | .bid, level, level' => level'.price < level.price
  | .ask, level, level' => level.price < level'.price

instance (side : BookSide) : Std.Asymm (Better side) :=
  ⟨fun _ _ h => by cases side <;> exact lt_asymm h⟩

/-- The best ask is not below the best bid. -/
def Uncrossed (bids asks : List OrderBookLevel) : Prop :=
  ∀ b ∈ bids.head?, ∀ a ∈ asks.head?, b.price ≤ a.price

instance (bids asks : List OrderBookLevel) : Decidable (Uncrossed bids asks) :=
  inferInstanceAs (Decidable (∀ b ∈ bids.head?, ∀ a ∈ asks.head?, b.price ≤ a.price))

/-- Bounded, point-in-time order book snapshot of one symbol. -/
structure OrderBookSnapshot where
  symbol : Symbol
  contractType : ContractType
  lastUpdateId : ℕ
  bids : List OrderBookLevel
  asks : List OrderBookLevel
  source : NonemptyText
  timestamp : Timestamp
  uncrossed : Uncrossed bids asks
  deriving DecidableEq

/-- Raw incremental order book update; a quantity of `0` removes its level. -/
structure OrderBookDeltaEvent where
  symbol : Symbol
  firstUpdateId : ℕ
  finalUpdateId : ℕ
  previousFinalUpdateId : Option ℕ
  bidUpdates : List OrderBookLevel
  askUpdates : List OrderBookLevel
  eventTime : Timestamp
  ordered : firstUpdateId ≤ finalUpdateId
  deriving DecidableEq

/-- The levels of one side. -/
def OrderBookSnapshot.levels (snapshot : OrderBookSnapshot) : BookSide → List OrderBookLevel
  | .bid => snapshot.bids
  | .ask => snapshot.asks

/-- The updates of one side. -/
def OrderBookDeltaEvent.updates (delta : OrderBookDeltaEvent) : BookSide → List OrderBookLevel
  | .bid => delta.bidUpdates
  | .ask => delta.askUpdates

/-- The prices a list of levels names. -/
def prices (levels : List OrderBookLevel) : Set Price := keySet (levels.map OrderBookLevel.pair)

theorem mem_prices {levels : List OrderBookLevel} {p : Price} :
    p ∈ prices levels ↔ ∃ level ∈ levels, level.price = p := by
  simp [prices, keySet, OrderBookLevel.pair]

/-! ## The exchange -/

/-- An exchange: its true book at every update id, and the diff events it emits. Each event
carries the final quantity of every level changed since the event before it. -/
structure Exchange where
  /-- Quantity per side, update id and price; `0` where there is no level. -/
  book : BookSide → History Price Volume
  events : List OrderBookDeltaEvent
  carries : ∀ e ∈ events, ∃ pu, e.previousFinalUpdateId = some pu ∧ pu < e.firstUpdateId ∧
    ∀ side, Carries (book side) pu e.finalUpdateId ((e.updates side).map OrderBookLevel.pair)
  chained : events.IsChain fun e e' => e'.previousFinalUpdateId = some e.finalUpdateId

namespace Exchange

variable {x : Exchange} {e e' : OrderBookDeltaEvent}

theorem lt_final_of_previous (he : e ∈ x.events) {pu : ℕ} (h : e.previousFinalUpdateId = some pu) :
    pu < e.finalUpdateId := by
  obtain ⟨pu', hpu', hlt, -⟩ := x.carries e he
  rw [h, Option.some.injEq] at hpu'
  have := e.ordered
  omega

/-- Along a chained list an event ends no later than the one before any later event. -/
theorem pairwise_of_chain {l : List OrderBookDeltaEvent}
    (hlt : ∀ e ∈ l, ∀ pu, e.previousFinalUpdateId = some pu → pu < e.finalUpdateId)
    (hl : l.IsChain fun e e' => e'.previousFinalUpdateId = some e.finalUpdateId) :
    l.Pairwise fun e e' => ∀ pu, e'.previousFinalUpdateId = some pu → e.finalUpdateId ≤ pu := by
  induction l with
  | nil => exact List.Pairwise.nil
  | cons e rest ih =>
      obtain ⟨hhead, htail⟩ := List.isChain_cons.mp hl
      have ih := ih (fun e' he' => hlt e' (List.mem_cons_of_mem _ he')) htail
      refine List.pairwise_cons.mpr ⟨?_, ih⟩
      cases rest with
      | nil => simp
      | cons e₁ rest =>
          have hprev := hhead e₁ rfl
          intro e' he' pu hpu
          rcases List.mem_cons.mp he' with rfl | he'
          · rw [hprev, Option.some.injEq] at hpu
            omega
          · have h₁ := (List.pairwise_cons.mp ih).1 e' he' pu hpu
            have h₀ := hlt e₁ (by simp) _ hprev
            omega

theorem events_pairwise (x : Exchange) :
    x.events.Pairwise fun e e' => ∀ pu, e'.previousFinalUpdateId = some pu →
      e.finalUpdateId ≤ pu :=
  pairwise_of_chain (fun _ he _ => lt_final_of_previous he) x.chained

/-- **No event ends strictly between the predecessor of an event and the event itself.** -/
theorem final_le_previous (he : e ∈ x.events) (he' : e' ∈ x.events) {pu : ℕ}
    (h : e.previousFinalUpdateId = some pu) (hlt : e'.finalUpdateId < e.finalUpdateId) :
    e'.finalUpdateId ≤ pu := by
  obtain ⟨l₁, l₂, hsplit⟩ := List.append_of_mem he
  have hpair := x.events_pairwise
  rw [hsplit] at he' hpair
  rcases List.mem_append.mp he' with h₁ | h₂
  · exact (List.pairwise_append.mp hpair).2.2 e' h₁ e (by simp) pu h
  · rcases List.mem_cons.mp h₂ with rfl | h₂
    · omega
    · have hmem : e' ∈ x.events := by rw [hsplit]; simp [h₂]
      obtain ⟨pu', hpu', -⟩ := x.carries e' hmem
      have h₁ := (List.pairwise_cons.mp (List.pairwise_append.mp hpair).2.1).1 e' h₂ pu' hpu'
      have h₂ := lt_final_of_previous hmem hpu'
      omega

theorem eq_of_final_eq (he : e ∈ x.events) (he' : e' ∈ x.events)
    (h : e.finalUpdateId = e'.finalUpdateId) : e = e' := by
  have hnodup : (x.events.map OrderBookDeltaEvent.finalUpdateId).Nodup := by
    refine List.pairwise_map.mpr (x.events_pairwise.imp_of_mem fun {a b} _ hb hab => ?_)
    obtain ⟨pu, hpu, -⟩ := x.carries b hb
    have := lt_final_of_previous hb hpu
    have := hab pu hpu
    omega
  exact List.inj_on_of_nodup_map hnodup he he' h

/-- The levels of the true book at an update id, best price first. -/
structure Listing (x : Exchange) (u : ℕ) (levels : BookSide → List OrderBookLevel) : Prop where
  sorted : ∀ side, (levels side).Pairwise (Better side)
  complete : ∀ side level, level ∈ levels side ↔
    x.book side u level.price = level.quantity ∧ level.quantity ≠ 0

end Exchange

/-- The snapshot lists exactly the levels of the true book at its update id. -/
def OrderBookSnapshot.IsFullDepth (snapshot : OrderBookSnapshot) (x : Exchange) : Prop :=
  ∀ side level, level ∈ snapshot.levels side ↔
    x.book side snapshot.lastUpdateId level.price = level.quantity ∧ level.quantity ≠ 0

/-- The snapshot lists the best `limit` levels of each side at its update id. -/
def OrderBookSnapshot.IsDepthLimited (snapshot : OrderBookSnapshot) (x : Exchange) (limit : ℕ) :
    Prop :=
  ∃ full, x.Listing snapshot.lastUpdateId full ∧
    ∀ side, snapshot.levels side = (full side).take limit

end TradingAdvisor
