import TradingAdvisor.MarketData.OrderBookSync

/-!
# Soundness of the local book under loss

The exchange's diff events may be lost anywhere on the way, snapshots may be taken at any update
id, and the calls may come in any order. A synchronized book still is the true book at its last
update id.

* `Book.Tracks` — the book agrees with the exchange on a set of known prices;
* `Book.Tracks.apply` — an event takes the book to the end of the event;
* **`synchronizer_sound`**: a synchronized book, and every snapshot returned, is the true book.
-/

namespace TradingAdvisor

open VersionedStore OrderBookSynchronizer

/-! ## Books that track an exchange -/

namespace Book

/-- On the known prices `K` the book is the true book at its update id; it has no other level. -/
def Tracks (x : Exchange) (K : BookSide → Set Price) (book : Book) : Prop :=
  ∀ side, Replica (x.book side) book.lastUpdateId (K side) (book.levels side)

/-- Both maps of the book are the true book at its update id. -/
def IsTrueBook (x : Exchange) (book : Book) : Prop :=
  ∀ side p q, (book.levels side).lookup p = some q ↔
    x.book side book.lastUpdateId p = q ∧ q ≠ 0

variable {x : Exchange} {K : BookSide → Set Price} {book : Book} {e : OrderBookDeltaEvent}

theorem tracks_univ_iff : book.Tracks x (fun _ => Set.univ) ↔ book.IsTrueBook x := by
  simp [Tracks, IsTrueBook, Replica]

/-- An event takes a book inside its range of update ids to its end; the prices it lists are
known from then on. -/
theorem Tracks.apply (h : book.Tracks x K) (he : e ∈ x.events)
    (hlo : ∀ pu, e.previousFinalUpdateId = some pu → pu ≤ book.lastUpdateId)
    (hhi : book.lastUpdateId ≤ e.finalUpdateId) :
    (book.apply e).Tracks x fun side => K side ∪ prices (e.updates side) := by
  obtain ⟨pu, hpu, -, hcarries⟩ := x.carries e he
  intro side
  rw [apply_levels, apply_lastUpdateId]
  exact (h side).applyDiff (hcarries side) (hlo pu hpu) hhi

theorem Tracks.apply_continues (h : book.Tracks x K) (he : e ∈ x.events)
    (hc : book.Continues e) :
    (book.apply e).Tracks x fun side => K side ∪ prices (e.updates side) := by
  refine h.apply he (fun pu hpu => ?_) (Exchange.lt_final_of_previous he hc).le
  rw [hc, Option.some.injEq] at hpu
  exact hpu.ge

theorem Tracks.apply_bridges {snapshot : OrderBookSnapshot}
    (h : (ofSnapshot snapshot).Tracks x K) (he : e ∈ x.events) (hb : Bridges snapshot e) :
    ((ofSnapshot snapshot).apply e).Tracks x fun side => K side ∪ prices (e.updates side) := by
  obtain ⟨pu, hpu, hlt, -⟩ := x.carries e he
  refine h.apply he (fun pu' hpu' => ?_) hb.2
  rw [hpu, Option.some.injEq] at hpu'
  have := hb.1
  rw [ofSnapshot_lastUpdateId]
  omega

/-- A snapshot whose levels are levels of the true book knows the prices it lists. -/
theorem tracks_ofSnapshot {snapshot : OrderBookSnapshot}
    (h : ∀ side, ∀ level ∈ snapshot.levels side,
      x.book side snapshot.lastUpdateId level.price = level.quantity ∧ level.quantity ≠ 0) :
    (ofSnapshot snapshot).Tracks x fun side => prices (snapshot.levels side) := by
  intro side
  rw [ofSnapshot_levels]
  refine replica_ofPairs fun kv hkv => ?_
  obtain ⟨level, hlevel, rfl⟩ := List.mem_map.mp hkv
  exact h side level hlevel

theorem isTrueBook_ofSnapshot {snapshot : OrderBookSnapshot} (h : snapshot.IsFullDepth x) :
    (ofSnapshot snapshot).IsTrueBook x := by
  rw [← tracks_univ_iff]
  intro side
  refine (tracks_ofSnapshot (fun side level => (h side level).mp) side).enlarge
    (Set.subset_univ _) fun p _ hp => ?_
  by_contra hq
  exact hp (mem_prices.mpr ⟨⟨p, _⟩, (h side ⟨p, _⟩).mpr ⟨rfl, hq⟩, rfl⟩)

theorem IsTrueBook.apply_continues (h : book.IsTrueBook x) (he : e ∈ x.events)
    (hc : book.Continues e) : (book.apply e).IsTrueBook x := by
  rw [← tracks_univ_iff] at h ⊢
  simpa using h.apply_continues he hc

theorem IsTrueBook.apply_bridges {snapshot : OrderBookSnapshot} (h : snapshot.IsFullDepth x)
    (he : e ∈ x.events) (hb : Bridges snapshot e) :
    ((ofSnapshot snapshot).apply e).IsTrueBook x := by
  have htracks := tracks_univ_iff.mpr (isTrueBook_ofSnapshot h)
  rw [← tracks_univ_iff]
  simpa using htracks.apply_bridges he hb

theorem IsTrueBook.materialize {s : OrderBookSynchronizer} (h : s.book.IsTrueBook x)
    {snapshot : OrderBookSnapshot} (hm : s.materialize = .ok snapshot) :
    snapshot.IsFullDepth x := by
  obtain ⟨hid, hlevels⟩ := materialize_ok hm
  intro side level
  rw [hlevels, mem_sortedLevels, hid]
  exact h side level.price level.quantity

end Book

/-! ## Runs -/

namespace OrderBookSynchronizer

/-- Deltas of the exchange are buffered, and a synchronized book is the true book. -/
def Sound (x : Exchange) : OrderBookSynchronizer → Prop := Inv x.events (Book.IsTrueBook x)

theorem calls_sound {x : Exchange} {cs : List SyncCall} {s : OrderBookSynchronizer}
    (hs : s.Sound x) (hdelta : ∀ e ∈ delivered cs, e ∈ x.events)
    (hsnap : ∀ snapshot, .applySnapshot snapshot ∈ cs → snapshot.IsFullDepth x) :
    (s.calls cs).Sound x :=
  calls_inv (fun _ _ he h hc => h.apply_continues he hc) hdelta
    (fun snapshot hmem _ he hb => Book.IsTrueBook.apply_bridges (hsnap snapshot hmem) he hb) hs

/-- A delta that a synchronized book applies is the next event of the exchange after it. -/
theorem no_event_skipped {x : Exchange} {s : OrderBookSynchronizer} {delta : OrderBookDeltaEvent}
    (hdelta : delta ∈ x.events) (hs : s.state = .synced)
    (happlied : (s.onDelta delta).1.state = .synced) :
    ∀ e ∈ x.events, ¬ (s.book.lastUpdateId < e.finalUpdateId ∧
      e.finalUpdateId < delta.finalUpdateId) := by
  rintro e he ⟨hlt, hlt'⟩
  have := Exchange.final_le_previous hdelta he ((onDelta_synced_iff hs).mp happlied) hlt'
  omega

/-- **Order-book soundness under loss.** After any calls whose deltas are a subsequence of the
exchange's events and whose snapshots are true books, a synchronized book and every snapshot
returned are the true book at their update id, and a delta is applied to a synchronized book only
when no event between them was lost. -/
theorem synchronizer_sound (x : Exchange) (symbol : Symbol) (contractType : ContractType)
    (source : NonemptyText) (maxBuffer : ℤ) (cs : List SyncCall) (c : SyncCall)
    (hdelta : (delivered (cs ++ [c])).Sublist x.events)
    (hsnap : ∀ snapshot, .applySnapshot snapshot ∈ cs ++ [c] → snapshot.IsFullDepth x) :
    let s := (init symbol contractType source maxBuffer).calls cs
    (s.state = .synced → s.book.IsTrueBook x) ∧
    ((s.call c).1.state = .synced → (s.call c).1.book.IsTrueBook x) ∧
    (∀ snapshot, (s.call c).2 = .ok (some snapshot) → snapshot.IsFullDepth x) ∧
    (∀ delta, c = .onDelta delta → s.state = .synced → (s.call c).1.state = .synced →
      ∀ e ∈ x.events, ¬ (s.book.lastUpdateId < e.finalUpdateId ∧
        e.finalUpdateId < delta.finalUpdateId)) := by
  intro s
  have hmem : ∀ e ∈ delivered (cs ++ [c]), e ∈ x.events := fun e he => hdelta.subset he
  have hs : s.Sound x := by
    refine calls_sound (init_inv _ _ _ _) (fun e he => hmem e ?_) fun snapshot h => hsnap _ ?_
    · simp only [delivered, List.filterMap_append, List.mem_append]
      exact .inl he
    · exact List.mem_append_left _ h
  have hs' : (s.call c).1.Sound x := by
    have h := calls_sound (init_inv symbol contractType source maxBuffer) hmem hsnap
    simpa [calls, List.foldl_append, s] using h
  refine ⟨hs.book, hs'.book, fun snapshot hres => ?_, fun delta hc hst hst' => ?_⟩
  · obtain ⟨hst, hm⟩ := materialize_of_call hres
    exact (hs'.book hst).materialize hm
  · subst hc
    exact no_event_skipped (hmem delta (by simp [delivered])) hst hst'

/-! A single bid at `100` whose quantity goes from `1` to `2` at update id `5`. -/

/-- The event with update ids `4` to `5`. -/
def sampleEvent : OrderBookDeltaEvent :=
  ⟨btcusdt, 4, 5, some 3, [⟨100, 2⟩], [], 0, Nat.le_succ 4⟩

/-- The exchange that emits it. -/
def sampleExchange : Exchange where
  book side i p := if side = .bid ∧ p = 100 then if i < 5 then 1 else 2 else 0
  events := [sampleEvent]
  carries := by
    simp only [List.mem_singleton, forall_eq]
    refine ⟨3, rfl, by decide, fun side => ?_⟩
    cases side with
    | bid =>
        refine ⟨by simp [sampleEvent, OrderBookDeltaEvent.updates, OrderBookLevel.pair], ?_⟩
        intro p hp i _ _
        have : p ≠ 100 := by
          rintro rfl
          exact hp ⟨2, by simp [sampleEvent, OrderBookDeltaEvent.updates, OrderBookLevel.pair]⟩
        simp [this]
    | ask => exact ⟨by simp [sampleEvent, OrderBookDeltaEvent.updates], by simp⟩
  chained := List.isChain_singleton _

/-- The true book inside the event, at update id `4`. -/
def sampleSnapshot : OrderBookSnapshot :=
  ⟨btcusdt, .perpetual, 4, [⟨100, 1⟩], [], defaultSource, 0, by decide⟩

theorem sampleSnapshot_isFullDepth : sampleSnapshot.IsFullDepth sampleExchange := by
  intro side level
  obtain ⟨p, q⟩ := level
  cases side with
  | bid =>
      by_cases hp : p = 100
      · simp [sampleSnapshot, OrderBookSnapshot.levels, sampleExchange, hp]
        exact ⟨fun h => ⟨h.symm, by simp [h]⟩, fun h => h.1.symm⟩
      · simp [sampleSnapshot, OrderBookSnapshot.levels, sampleExchange, hp]
        exact Eq.symm
  | ask =>
      simp [sampleSnapshot, OrderBookSnapshot.levels, sampleExchange]
      exact Eq.symm

theorem synchronizer_sound_sample :
    (((init btcusdt .perpetual defaultSource 2000).calls
      [.startBuffering, .onDelta sampleEvent]).call (.applySnapshot sampleSnapshot)).1.book.IsTrueBook
        sampleExchange := by
  refine (synchronizer_sound sampleExchange btcusdt .perpetual defaultSource 2000
    [.startBuffering, .onDelta sampleEvent] (.applySnapshot sampleSnapshot) (List.Sublist.refl _)
    fun snapshot h => ?_).2.1 (by decide +kernel)
  obtain rfl : snapshot = sampleSnapshot := by simpa using h
  exact sampleSnapshot_isFullDepth

end OrderBookSynchronizer

end TradingAdvisor
