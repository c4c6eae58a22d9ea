import TradingAdvisor.Technical.CandleHistory

/-!
# The candle store in any order of arrival

Candles may arrive out of order. The store evicts by timestamp and not by arrival, so a late old
candle is dropped as if it had arrived first.

* `appendInPlace`, `appendAll` — the store is changed in place;
* `appendInPlace_run` — a rejected candle leaves the store as it was;
* `candleStore_orderIndependent` — **the same candles in any order leave the same store**.
-/

namespace TradingAdvisor

open Checks VersionedStore Newest

namespace ChronologicalCandleStore

/-- The retained candles with the oldest timestamp removed. -/
def withoutOldest (byTimestamp : Dict Timestamp OHLCVCandle) : Dict Timestamp OHLCVCandle :=
  (sortedPairs (· ≤ ·) byTimestamp).head?.elim byTimestamp fun kv => byTimestamp.erase kv.1

/-- Insert one candle in place, and the error it raises; the duplicate check comes before any
change. -/
def appendInPlace (store : ChronologicalCandleStore) (candle : OHLCVCandle) :
    ChronologicalCandleStore × Option (ContourError Cell) :=
  if candle.timestamp ∈ store.byTimestamp then (store, some .duplicateCandleTimestamp)
  else
    let store := { store with byTimestamp := store.byTimestamp.insert candle.timestamp candle }
    if store.capacity < store.byTimestamp.keys.length then
      let store := { store with byTimestamp := withoutOldest store.byTimestamp }
      ({ store with droppedCount := store.droppedCount + 1 }, none)
    else (store, none)

/-- Append candles in the order they arrive, until one raises. -/
def appendAll : ChronologicalCandleStore → List OHLCVCandle →
    ChronologicalCandleStore × Option (ContourError Cell)
  | store, [] => (store, none)
  | store, candle :: candles =>
      match store.appendInPlace candle with
      | (store, none) => appendAll store candles
      | (store, some error) => (store, some error)

/-- The retained candles limited to the `count` most recent ones: `ordered[-count:]`, which keeps
all of them at `0`. -/
def latestCount (store : ChronologicalCandleStore) : Option ℤ → List OHLCVCandle
  | none => store.latest
  | some count =>
      if 0 < count then store.latest.drop (store.latest.length - count.toNat)
      else store.latest.drop (-count).toNat

/-- What the methods of a store read: the dictionary up to the order of its keys, the capacity and
the count. -/
structure Same (store store' : ChronologicalCandleStore) : Prop where
  capacity : store.capacity = store'.capacity
  droppedCount : store.droppedCount = store'.droppedCount
  lookup : ∀ t, store.byTimestamp.lookup t = store'.byTimestamp.lookup t

variable {store store' : ChronologicalCandleStore} {candle : OHLCVCandle}
  {candles order : List OHLCVCandle} {series : Set OHLCVCandle} {seen : Finset Timestamp}
  {capacity : ℕ}

theorem Same.latest (h : store.Same store') : store.latest = store'.latest :=
  congrArg (List.map Prod.snd) (sortedPairs_congr (· ≤ ·) h.lookup)

theorem Same.latestCount (h : store.Same store') (count : Option ℤ) :
    store.latestCount count = store'.latestCount count := by
  cases count <;> simp only [ChronologicalCandleStore.latestCount, h.latest]

/-! ## One candle -/

/-- **A candle whose timestamp is retained raises and leaves the store as it was.** -/
theorem appendInPlace_of_mem (h : candle.timestamp ∈ store.byTimestamp) :
    store.appendInPlace candle = (store, some .duplicateCandleTimestamp) := by
  rw [appendInPlace, if_pos h]

theorem appendInPlace_of_append
    (h : (store.append candle : Except (ContourError Cell) _) = .ok store') :
    store.appendInPlace candle = (store', none) := by
  obtain ⟨hnew, h⟩ := check_bind_ok.mp h
  cases h
  rw [appendInPlace, if_neg hnew]
  dsimp only
  split_ifs <;> rfl

/-- Every candle inserted is retained or counted as dropped. -/
theorem droppedCount_append
    (h : (store.append candle : Except (ContourError Cell) _) = .ok store') :
    store'.droppedCount + store'.timestamps.card =
      store.droppedCount + store.timestamps.card + 1 := by
  obtain ⟨hnew, h⟩ := check_bind_ok.mp h
  cases h
  set grown := store.byTimestamp.insert candle.timestamp candle
  have hcard : grown.keys.toFinset.card = store.timestamps.card + 1 := by
    rw [timestamps_insert]
    exact Finset.card_insert_of_notMem fun h => hnew (mem_timestamps.mp h)
  obtain ⟨kv, hhead⟩ := exists_head_sortedPairs
    (show candle.timestamp ∈ grown from (AList.mem_insert _).mpr (.inl rfl))
  dsimp only [timestamps]
  rw [hhead, Option.elim_some]
  split_ifs with hover
  · -- one more dropped, and as many retained as before
    rw [timestamps_erase, Finset.card_erase_of_mem (head_sortedPairs hhead).1, hcard]
    simp only [timestamps]
    omega
  · rw [hcard]
    exact (Nat.add_assoc _ _ _).symm

/-! ## All candles -/

/-- **Candles with distinct timestamps not seen yet are all accepted**, and the newest ones are
retained. -/
theorem appendAll_ok (hs : Retains series seen store) (hseries : ∀ candle ∈ candles, candle ∈ series)
    (hnodup : (candles.map OHLCVCandle.timestamp).Nodup)
    (hnew : ∀ candle ∈ candles, candle.timestamp ∉ seen) :
    ∃ store', store.appendAll candles = (store', none) ∧ store'.capacity = store.capacity ∧
      Retains series (seen ∪ (candles.map OHLCVCandle.timestamp).toFinset) store' ∧
      store'.droppedCount + store'.timestamps.card =
        store.droppedCount + store.timestamps.card + candles.length := by
  induction candles generalizing store seen with
  | nil => exact ⟨store, rfl, rfl, by simpa using hs, rfl⟩
  | cons candle candles ih =>
      obtain ⟨hcandle, hseries⟩ := List.forall_mem_cons.mp hseries
      obtain ⟨hfresh, hnew⟩ := List.forall_mem_cons.mp hnew
      obtain ⟨hout, hnodup⟩ := List.nodup_cons.mp hnodup
      have habsent : candle.timestamp ∉ store.byTimestamp := fun h =>
        hfresh (newest_subset _ _ (hs.newest ▸ mem_timestamps.mpr h))
      obtain ⟨store₁, happend, hcap, hs₁⟩ := append_ok hs habsent hcandle
      have hcount := droppedCount_append happend
      have hnew₁ : ∀ c ∈ candles, c.timestamp ∉ insert candle.timestamp seen := by
        intro c hc hmem
        rcases Finset.mem_insert.mp hmem with heq | hmem
        · exact hout (heq ▸ List.mem_map_of_mem hc)
        · exact hnew c hc hmem
      obtain ⟨store', hrun, hcap', hs', hcount'⟩ := ih hs₁ hseries hnodup hnew₁
      refine ⟨store', ?_, hcap'.trans hcap, ?_, ?_⟩
      · rw [appendAll, appendInPlace_of_append happend]
        exact hrun
      · rw [List.map_cons, List.toFinset_cons, Finset.union_insert, ← Finset.insert_union]
        exact hs'
      · rw [List.length_cons]
        omega

/-- Stores that retain the newest of the same candles look up the same. -/
theorem Retains.lookup_eq (hdistinct : series.InjOn OHLCVCandle.timestamp)
    (hcap : store.capacity = store'.capacity) (hs : Retains series seen store)
    (hs' : Retains series seen store') (t : Timestamp) :
    store.byTimestamp.lookup t = store'.byTimestamp.lookup t := by
  have hmem : t ∈ store.byTimestamp ↔ t ∈ store'.byTimestamp := by
    rw [← mem_timestamps, ← mem_timestamps, hs.newest, hs'.newest, hcap]
  cases h : store.byTimestamp.lookup t with
  | none =>
      rw [AList.lookup_eq_none, hmem] at h
      exact (AList.lookup_eq_none.mpr h).symm
  | some v =>
      obtain ⟨v', h'⟩ := Option.isSome_iff_exists.mp
        (AList.lookup_isSome.mpr (hmem.mp (AList.lookup_isSome.mp (by rw [h]; rfl))))
      obtain ⟨htime, hv⟩ := hs.candles t v h
      obtain ⟨htime', hv'⟩ := hs'.candles t v' h'
      rw [h', hdistinct hv hv' (htime.trans htime'.symm)]

end ChronologicalCandleStore

/-- What appending the candles in any order does to an empty store. -/
structure OrderIndependent (capacity : ℕ) (candles : List OHLCVCandle) : Prop where
  accepted : ∀ order : List OHLCVCandle, order.Perm candles →
    (({ capacity } : ChronologicalCandleStore).appendAll order).2 = none
  same : ∀ order order' : List OHLCVCandle, order.Perm candles → order'.Perm candles →
    (({ capacity } : ChronologicalCandleStore).appendAll order).1.Same
      (({ capacity } : ChronologicalCandleStore).appendAll order').1
  latest : ∀ order : List OHLCVCandle, order.Perm candles →
    NewestOf capacity candles (({ capacity } : ChronologicalCandleStore).appendAll order).1.latest
  dropped : ∀ order : List OHLCVCandle, order.Perm candles →
    (({ capacity } : ChronologicalCandleStore).appendAll order).1.droppedCount =
      candles.length - capacity
  duplicate : ∀ (store : ChronologicalCandleStore) (candle : OHLCVCandle),
    candle.timestamp ∈ store.byTimestamp →
      store.appendInPlace candle = (store, some .duplicateCandleTimestamp)

open ChronologicalCandleStore

variable {candles order : List OHLCVCandle}

/-- The store that one order of the candles leaves. -/
theorem appendAll_of_perm (capacity : ℕ)
    (hnodup : (candles.map OHLCVCandle.timestamp).Nodup) (h : order.Perm candles) :
    ∃ store, ({ capacity } : ChronologicalCandleStore).appendAll order = (store, none) ∧
      store.capacity = capacity ∧
      store.Retains {candle | candle ∈ candles} (candles.map OHLCVCandle.timestamp).toFinset ∧
      store.droppedCount = candles.length - capacity := by
  have hperm := h.map OHLCVCandle.timestamp
  have hempty : Retains {candle | candle ∈ candles} ∅ { capacity } := retains_empty capacity
  obtain ⟨store, hrun, hcap, hs, hcount⟩ := appendAll_ok hempty
    (fun candle hc => h.mem_iff.mp hc) (hperm.nodup_iff.mpr hnodup)
    (fun _ _ => Finset.notMem_empty _)
  rw [Finset.empty_union, List.toFinset_eq_of_perm _ _ hperm] at hs
  refine ⟨store, hrun, hcap, hs, ?_⟩
  have hcard : store.timestamps.card = min capacity candles.length := by
    rw [hs.newest, card_newest, hcap, List.toFinset_card_of_nodup hnodup, List.length_map]
  have hnone : ({ capacity } : ChronologicalCandleStore).timestamps.card = 0 := rfl
  rw [hnone, hcard, h.length_eq] at hcount
  change _ = 0 + 0 + candles.length at hcount
  omega

/-- **The same candles in any order leave the same store**: the newest ones in ascending order and
the same count of dropped ones; a candle whose timestamp is retained changes nothing. -/
theorem candleStore_orderIndependent (capacity : ℕ) (candles : List OHLCVCandle)
    (hnodup : (candles.map OHLCVCandle.timestamp).Nodup) : OrderIndependent capacity candles where
  accepted order h := by
    obtain ⟨store, hrun, -⟩ := appendAll_of_perm capacity hnodup h
    rw [hrun]
  same order order' h h' := by
    obtain ⟨store, hrun, hcap, hs, hdropped⟩ := appendAll_of_perm capacity hnodup h
    obtain ⟨store', hrun', hcap', hs', hdropped'⟩ :=
      appendAll_of_perm capacity hnodup h'
    rw [hrun, hrun']
    exact ⟨hcap.trans hcap'.symm, hdropped.trans hdropped'.symm,
      hs.lookup_eq (List.inj_on_of_nodup_map hnodup) (hcap.trans hcap'.symm) hs'⟩
  latest order h := by
    obtain ⟨store, hrun, hcap, hs, -⟩ := appendAll_of_perm capacity hnodup h
    rw [hrun]
    exact hcap ▸ hs.newestOf (List.inj_on_of_nodup_map hnodup) fun _ hc => hc
  dropped order h := by
    obtain ⟨store, hrun, -, -, hdropped⟩ := appendAll_of_perm capacity hnodup h
    rw [hrun, hdropped]
  duplicate store candle h := appendInPlace_of_mem h

theorem orderIndependent_sample :
    OrderIndependent 1 [flatCandle (minutes 15), flatCandle 0] :=
  candleStore_orderIndependent 1 _ (by decide)

end TradingAdvisor
