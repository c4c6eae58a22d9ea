import TradingAdvisor.Lib.Newest
import TradingAdvisor.Technical.TechnicalContour

/-!
# The retained candles over many cycles

Every cycle fetches a window of each timeframe's series and records the closed candles that are
not retained. The store forgets its oldest candle on overflow, so a window may bring back a candle
that was forgotten. A cycle that raises has taken some of its steps.

* `TechnicalStep`, `TechnicalCycle` — what a cycle does to the engine, step by step;
* `StableSeries`, `Window` — the series behind the fetches;
* `Retains` — the store holds the newest of the timestamps seen;
* `technical_history` — **the history is the newest closed candles fetched, no fetch raises a
  duplicate and no forming candle enters a calculation**.
-/

namespace TradingAdvisor

open Checks VersionedStore Newest

/-! ## One store -/

/-- Kept are the `n` newest of the candles, in ascending order. -/
structure NewestOf (n : ℕ) (candles kept : List OHLCVCandle) : Prop where
  ascending : kept.Pairwise fun a b => a.timestamp < b.timestamp
  mem_iff : ∀ candle, candle ∈ kept ↔
    candle ∈ candles ∧ candle.timestamp ∈ newest n (candles.map OHLCVCandle.timestamp).toFinset

namespace ChronologicalCandleStore

variable {store : ChronologicalCandleStore} {candle : OHLCVCandle} {series : Set OHLCVCandle}
  {seen : Finset Timestamp}

/-- The retained timestamps. -/
def timestamps (store : ChronologicalCandleStore) : Finset Timestamp :=
  store.byTimestamp.keys.toFinset

theorem mem_timestamps {t : Timestamp} : t ∈ store.timestamps ↔ t ∈ store.byTimestamp := by
  rw [timestamps, List.mem_toFinset]
  rfl

theorem mem_latest : candle ∈ store.latest ↔ ∃ t, store.byTimestamp.lookup t = some candle := by
  simp only [latest, List.mem_map, Prod.exists, exists_eq_right]
  exact exists_congr fun t => lookup_sortedPairs _ _

/-- The store holds candles of the series under their timestamps, the newest of those seen. -/
structure Retains (series : Set OHLCVCandle) (seen : Finset Timestamp)
    (store : ChronologicalCandleStore) : Prop where
  newest : store.timestamps = newest store.capacity seen
  candles : ∀ t v, store.byTimestamp.lookup t = some v → v.timestamp = t ∧ v ∈ series

theorem retains_empty (capacity : ℕ) : Retains series ∅ { capacity } where
  newest := by simp [timestamps]
  candles t v h := by simp at h

/-- The smallest retained timestamp goes first. -/
theorem head_sortedPairs {d : Dict Timestamp OHLCVCandle} {kv : Timestamp × OHLCVCandle}
    (h : (sortedPairs (· ≤ ·) d).head? = some kv) :
    kv.1 ∈ d.keys.toFinset ∧ ∀ t ∈ d.keys.toFinset, kv.1 ≤ t := by
  obtain ⟨rest, hrest⟩ := List.head?_eq_some_iff.mp h
  have hsorted := sortedPairs_pairwise (· ≤ ·) d
  rw [hrest, List.pairwise_cons] at hsorted
  have hkey : ∀ {t v}, (t, v) ∈ sortedPairs (· ≤ ·) d → t ∈ d.keys.toFinset := fun hmem => by
    rw [List.mem_toFinset, ← AList.mem_keys]
    exact AList.lookup_isSome.mp (by rw [(lookup_sortedPairs _ _).mp hmem]; rfl)
  refine ⟨hkey (v := kv.2) (hrest ▸ List.mem_cons_self), fun t ht => ?_⟩
  obtain ⟨v, hv⟩ := Option.isSome_iff_exists.mp
    (AList.lookup_isSome.mpr (AList.mem_keys.mpr (List.mem_toFinset.mp ht)))
  have hmem : (t, v) ∈ sortedPairs (· ≤ ·) d := (lookup_sortedPairs _ _).mpr hv
  rw [hrest] at hmem
  rcases List.mem_cons.mp hmem with heq | hmem
  · exact (congrArg Prod.fst heq).ge
  · exact hsorted.1 _ hmem

theorem exists_head_sortedPairs {d : Dict Timestamp OHLCVCandle} {t : Timestamp} (h : t ∈ d) :
    ∃ kv, (sortedPairs (· ≤ ·) d).head? = some kv := by
  obtain ⟨v, hv⟩ := Option.isSome_iff_exists.mp (AList.lookup_isSome.mpr h)
  have hmem : (t, v) ∈ sortedPairs (· ≤ ·) d := (lookup_sortedPairs _ _).mpr hv
  exact ⟨_, List.head?_eq_some_head (List.ne_nil_of_mem hmem)⟩

theorem timestamps_insert {d : Dict Timestamp OHLCVCandle} {t : Timestamp} :
    (d.insert t candle).keys.toFinset = insert t d.keys.toFinset := by
  ext x
  rw [List.mem_toFinset, ← AList.mem_keys, AList.mem_insert, Finset.mem_insert, List.mem_toFinset,
    ← AList.mem_keys]

theorem timestamps_erase {d : Dict Timestamp OHLCVCandle} {t : Timestamp} :
    (d.erase t).keys.toFinset = d.keys.toFinset.erase t := by
  ext x
  rw [List.mem_toFinset, ← AList.mem_keys, AList.mem_erase, Finset.mem_erase, List.mem_toFinset,
    ← AList.mem_keys]

/-- **One insertion keeps the newest timestamps**, also when the candle was seen and forgotten. -/
theorem append_ok (hs : Retains series seen store) (hnew : candle.timestamp ∉ store.byTimestamp)
    (hcandle : candle ∈ series) :
    ∃ store', (store.append candle : Except (ContourError Cell) _) = .ok store' ∧
      store'.capacity = store.capacity ∧
      Retains series (insert candle.timestamp seen) store' := by
  set grown := store.byTimestamp.insert candle.timestamp candle with hgrown
  have hin : candle.timestamp ∈ grown := (AList.mem_insert _).mpr (.inl rfl)
  have hkeys : grown.keys.toFinset = insert candle.timestamp store.timestamps := timestamps_insert
  have hcard : grown.keys.toFinset.card = store.timestamps.card + 1 := by
    rw [hkeys, Finset.card_insert_of_notMem fun h => hnew (mem_timestamps.mp h)]
  have hlength : grown.keys.length = store.timestamps.card + 1 := by
    rw [← hcard, List.toFinset_card_of_nodup grown.keys_nodup]
  have hbound : store.timestamps.card ≤ store.capacity := by
    rw [hs.newest, card_newest]
    exact min_le_left _ _
  have htarget : newest store.capacity (insert candle.timestamp seen) =
      newest store.capacity grown.keys.toFinset := by
    rw [hkeys, hs.newest, newest_insert_newest]
  have hlookup : ∀ t v, grown.lookup t = some v → v.timestamp = t ∧ v ∈ series := by
    intro t v h
    by_cases ht : t = candle.timestamp
    · subst ht
      rw [hgrown, AList.lookup_insert, Option.some.injEq] at h
      exact h ▸ ⟨rfl, hcandle⟩
    · rw [hgrown, AList.lookup_insert_ne ht] at h
      exact hs.candles t v h
  refine ⟨_, check_bind_ok.mpr ⟨hnew, rfl⟩, rfl, ?_, ?_⟩
  · show (if store.capacity < grown.keys.length then _ else grown).keys.toFinset = _
    show _ = newest store.capacity (insert candle.timestamp seen)
    rw [htarget]
    by_cases hover : store.capacity < grown.keys.length
    · rw [if_pos hover]
      -- the store was full: the new set exceeds the capacity by one
      have hfull : grown.keys.toFinset.card = store.capacity + 1 := by omega
      obtain ⟨kv, hhead⟩ := exists_head_sortedPairs hin
      obtain ⟨hmem, hmin⟩ := head_sortedPairs hhead
      rw [newest_of_card_eq_succ hfull hmem hmin]
      show ((sortedPairs (· ≤ ·) grown).head?.elim grown _).keys.toFinset = _
      rw [hhead]
      exact timestamps_erase
    · rw [if_neg hover, newest_of_card_le (by omega)]
  · intro t v h
    change (if store.capacity < grown.keys.length then _ else grown).lookup t = some v at h
    by_cases hover : store.capacity < grown.keys.length
    · rw [if_pos hover] at h
      obtain ⟨kv, hhead⟩ := exists_head_sortedPairs hin
      change ((sortedPairs (· ≤ ·) grown).head?.elim grown _).lookup t = some v at h
      rw [hhead] at h
      by_cases ht : t = kv.1
      · subst ht
        change (grown.erase kv.1).lookup kv.1 = some v at h
        rw [AList.lookup_erase] at h
        cases h
      · exact hlookup t v ((AList.lookup_erase_ne ht).symm.trans h)
    · rw [if_neg hover] at h
      exact hlookup t v h

/-- What is retained, in terms of the candles seen. -/
theorem Retains.newestOf {candles : List OHLCVCandle}
    (hs : Retains series (candles.map OHLCVCandle.timestamp).toFinset store)
    (hdistinct : series.InjOn OHLCVCandle.timestamp)
    (hcandles : ∀ candle ∈ candles, candle ∈ series) :
    NewestOf store.capacity candles store.latest := by
  have hnewest : ∀ t, t ∈ store.byTimestamp ↔
      t ∈ Newest.newest store.capacity (candles.map OHLCVCandle.timestamp).toFinset := fun t => by
    rw [← mem_timestamps, hs.newest]
  refine ⟨?_, fun candle => mem_latest.trans ⟨?_, ?_⟩⟩
  · -- the pairs are sorted by keys, and every candle is stored under its timestamp
    refine List.pairwise_map.mpr ((sortedPairs_pairwise_ne (· ≤ ·) store.byTimestamp).imp_of_mem ?_)
    intro a b ha hb hab
    rw [(hs.candles _ _ ((lookup_sortedPairs _ _).mp ha)).1,
      (hs.candles _ _ ((lookup_sortedPairs _ _).mp hb)).1]
    exact lt_of_le_of_ne hab.1 hab.2
  · rintro ⟨t, ht⟩
    obtain ⟨rfl, hseries⟩ := hs.candles t candle ht
    have hmem := (hnewest _).mp (AList.lookup_isSome.mp (by rw [ht]; rfl))
    obtain ⟨other, hother, heq⟩ := List.mem_map.mp (List.mem_toFinset.mp (newest_subset _ _ hmem))
    have : other = candle := hdistinct (hcandles other hother) hseries heq
    exact ⟨this ▸ hother, hmem⟩
  · rintro ⟨hcandle, hmem⟩
    obtain ⟨v, hv⟩ := Option.isSome_iff_exists.mp
      (AList.lookup_isSome.mpr ((hnewest _).mpr hmem))
    obtain ⟨htime, hseries⟩ := hs.candles _ v hv
    have : v = candle := hdistinct hseries (hcandles candle hcandle) htime
    exact ⟨candle.timestamp, this ▸ hv⟩

end ChronologicalCandleStore

/-! ## The engine, step by step -/

/-- One change of the engine in a cycle: the fetch of a timeframe, or its snapshot. -/
inductive TechnicalStep
  | fetched (timeframe : Timeframe) (asOf : Timestamp) (candles : Except String (List OHLCVCandle))
  | composed (timeframe : Timeframe) (asOf : Timestamp)

/-- A cycle with the number of steps it takes; one that raises does not take them all. -/
structure TechnicalCycle where
  provider : OHLCVProvider
  asOf : Timestamp
  taken : ℕ

variable {B : Type} (m : CaseMapping) (c : TechnicalComponents B) (symbol : Symbol)
  (contractType : ContractType) (timeframes : List Timeframe)

/-- The steps of a full cycle. -/
def cycleSteps (provider : OHLCVProvider) (asOf : Timestamp) : List TechnicalStep :=
  timeframes.flatMap fun timeframe =>
    [.fetched timeframe asOf (provider symbol timeframe technicalOhlcvFetchLimit asOf),
      .composed timeframe asOf]

/-- The steps a cycle takes. -/
def TechnicalCycle.steps (cycle : TechnicalCycle) : List TechnicalStep :=
  (cycleSteps symbol timeframes cycle.provider cycle.asOf).take cycle.taken

/-- The candles of a fetch that are closed and not retained yet. -/
def TechnicalFeatureEngine.newClosed (engine : TechnicalFeatureEngine B) (timeframe : Timeframe)
    (asOf : Timestamp) (candles : List OHLCVCandle) : List OHLCVCandle :=
  (splitClosedAndForming candles timeframe asOf).1.filter fun candle =>
    candle.timestamp ∉
      (engine.historyFor m symbol.val contractType timeframe).candles.latest.map
        OHLCVCandle.timestamp

/-- Record candles until one of them is rejected. -/
def TechnicalFeatureEngine.recordUntil (timeframe : Timeframe) :
    TechnicalFeatureEngine B → List OHLCVCandle →
      TechnicalFeatureEngine B × Option (ContourError Cell)
  | engine, [] => (engine, none)
  | engine, candle :: candles =>
      match engine.recordCandle m symbol.val contractType timeframe candle with
      | .ok engine => TechnicalFeatureEngine.recordUntil timeframe engine candles
      | .error error => (engine, some error)

/-- The engine after a step, and the error the step raises. -/
def TechnicalFeatureEngine.step (engine : TechnicalFeatureEngine B) :
    TechnicalStep → TechnicalFeatureEngine B × Option (ContourError Cell)
  | .fetched _ _ (.error _) => (engine, none)
  | .fetched timeframe asOf (.ok candles) =>
      engine.recordUntil m symbol contractType timeframe
        (engine.newClosed m symbol contractType timeframe asOf candles)
  | .composed timeframe asOf =>
      match engine.buildSnapshot m c symbol.val contractType timeframe asOf with
      | .ok (_, engine) => (engine, none)
      | .error error => (engine, some error)

/-- The engine after some steps. -/
def TechnicalFeatureEngine.after (engine : TechnicalFeatureEngine B) (steps : List TechnicalStep) :
    TechnicalFeatureEngine B :=
  steps.foldl (fun engine s => (engine.step m c symbol contractType s).1) engine

/-- The closed candles of a timeframe that a step fetches. -/
def TechnicalStep.closed (timeframe : Timeframe) : TechnicalStep → List OHLCVCandle
  | .fetched timeframe' asOf (.ok candles) =>
      if timeframe' = timeframe then (splitClosedAndForming candles timeframe asOf).1 else []
  | _ => []

/-! ## The series behind the fetches -/

/-- Per timeframe a series of aligned candles with distinct timestamps. -/
structure StableSeries where
  candles : Timeframe → Set OHLCVCandle
  aligned : ∀ timeframe, ∀ candle ∈ candles timeframe,
    candle.timestamp = expectedOpenTime candle.timestamp timeframe
  distinct : ∀ timeframe, (candles timeframe).InjOn OHLCVCandle.timestamp

/-- A fetch in ascending order whose closed candles are those of the series; a forming candle is
whatever it is at that time. -/
structure Window (series : Set OHLCVCandle) (timeframe : Timeframe) (asOf : Timestamp)
    (candles : List OHLCVCandle) : Prop where
  ascending : candles.Pairwise fun a b => a.timestamp < b.timestamp
  closed : ∀ candle ∈ candles, candle.IsClosed timeframe asOf → candle ∈ series

/-- The step fetches a window of the series, or nothing. -/
def TechnicalStep.Reads (series : StableSeries) : TechnicalStep → Prop
  | .fetched timeframe asOf (.ok candles) =>
      Window (series.candles timeframe) timeframe asOf candles
  | _ => True

/-- The capacity of a history. -/
def candleCapacity : ℕ := 1000

variable {m c symbol contractType timeframes} {engine engine' : TechnicalFeatureEngine B}
  {series : StableSeries} {timeframe : Timeframe} {asOf : Timestamp} {candle : OHLCVCandle}
  {candles : List OHLCVCandle} {seen : Timeframe → Finset Timestamp}

/-! ## Histories of the timeframes -/

theorem historyFor_insert (history : SymbolTimeframeHistory B) (timeframe' : Timeframe) :
    (⟨engine.state.insert (m.upper symbol.val, contractType, timeframe) history⟩ :
      TechnicalFeatureEngine B).historyFor m symbol.val contractType timeframe' =
      if timeframe' = timeframe then history
      else engine.historyFor m symbol.val contractType timeframe' := by
  unfold TechnicalFeatureEngine.historyFor
  by_cases h : timeframe' = timeframe
  · subst h
    rw [if_pos rfl, AList.lookup_insert]
    rfl
  · rw [if_neg h, AList.lookup_insert_ne]
    exact fun hkey => h (Prod.ext_iff.mp (Prod.ext_iff.mp hkey).2).2

/-- Every history retains the newest of the timestamps seen for its timeframe. -/
def HistoriesRetain (m : CaseMapping) (symbol : Symbol) (contractType : ContractType)
    (series : StableSeries) (seen : Timeframe → Finset Timestamp)
    (engine : TechnicalFeatureEngine B) : Prop :=
  ∀ timeframe,
    (engine.historyFor m symbol.val contractType timeframe).candles.capacity = candleCapacity ∧
      (engine.historyFor m symbol.val contractType timeframe).candles.Retains
        (series.candles timeframe) (seen timeframe)

theorem holds_empty (B : Type) (m : CaseMapping) (symbol : Symbol) (contractType : ContractType)
    (series : StableSeries) : HistoriesRetain m symbol contractType series (fun _ => ∅)
      (⟨∅⟩ : TechnicalFeatureEngine B) :=
  fun _ => ⟨rfl, ChronologicalCandleStore.retains_empty _⟩

theorem historyFor_upper : engine.historyFor m (m.upper symbol.val) contractType timeframe =
    engine.historyFor m symbol.val contractType timeframe :=
  congrArg (fun key => (engine.state.lookup (key, contractType, timeframe)).getD {})
    (m.upper_upper symbol.val)

theorem recordCandle_of_append {store : ChronologicalCandleStore}
    (haligned : candle.timestamp = expectedOpenTime candle.timestamp timeframe)
    (h : (engine.historyFor m symbol.val contractType timeframe).candles.append candle =
      (.ok store : Except (ContourError Cell) _)) :
    engine.recordCandle m symbol.val contractType timeframe candle =
      .ok ⟨engine.state.insert (m.upper symbol.val, contractType, timeframe)
        { engine.historyFor m symbol.val contractType timeframe with candles := store }⟩ := by
  rw [← historyFor_upper] at h ⊢
  rw [← m.upper_upper symbol.val]
  exact check_bind_ok.mpr ⟨haligned, bind_ok_iff.mpr ⟨store, h, by rw [m.upper_upper]; rfl⟩⟩

theorem recordCandle_ok (hE : HistoriesRetain m symbol contractType series seen engine)
    (hcandle : candle ∈ series.candles timeframe)
    (hnew : candle.timestamp ∉
      (engine.historyFor m symbol.val contractType timeframe).candles.byTimestamp) :
    ∃ engine', engine.recordCandle m symbol.val contractType timeframe candle = .ok engine' ∧
      HistoriesRetain m symbol contractType series
        (Function.update seen timeframe (insert candle.timestamp (seen timeframe))) engine' := by
  obtain ⟨hcap, hret⟩ := hE timeframe
  obtain ⟨store, hstore, hstoreCap, hstoreRet⟩ :=
    ChronologicalCandleStore.append_ok hret hnew hcandle
  refine ⟨_, recordCandle_of_append (series.aligned _ _ hcandle) hstore, fun timeframe' => ?_⟩
  rw [historyFor_insert]
  by_cases h : timeframe' = timeframe
  · subst h
    rw [if_pos rfl, Function.update_self]
    exact ⟨hstoreCap.trans hcap, hstoreRet⟩
  · rw [if_neg h, Function.update_of_ne h]
    exact hE timeframe'

/-- Only the recorded timestamp is new in a store. -/
theorem HistoriesRetain.mem_of_update {t : Timestamp}
    (hE : HistoriesRetain m symbol contractType series seen engine)
    (hE' : HistoriesRetain m symbol contractType series
      (Function.update seen timeframe (insert candle.timestamp (seen timeframe))) engine')
    (ht : t ∈ (engine'.historyFor m symbol.val contractType timeframe).candles.byTimestamp) :
    t = candle.timestamp ∨
      t ∈ (engine.historyFor m symbol.val contractType timeframe).candles.byTimestamp := by
  have hcap := (hE timeframe).1
  have hcap' := (hE' timeframe).1
  have hmem := ChronologicalCandleStore.mem_timestamps.mpr ht
  rw [(hE' timeframe).2.newest, Function.update_self, hcap', ← newest_insert_newest, ← hcap,
    ← (hE timeframe).2.newest] at hmem
  rcases Finset.mem_insert.mp (newest_subset _ _ hmem) with h | h
  · exact .inl h
  · exact .inr (ChronologicalCandleStore.mem_timestamps.mp h)

/-- **Candles of the series that are not retained are recorded without an error.** -/
theorem recordUntil_ok (hE : HistoriesRetain m symbol contractType series seen engine)
    (hasc : candles.Pairwise fun a b => a.timestamp < b.timestamp)
    (hcandles : ∀ candle ∈ candles, candle ∈ series.candles timeframe ∧ candle.timestamp ∉
      (engine.historyFor m symbol.val contractType timeframe).candles.byTimestamp) :
    ∃ engine', engine.recordUntil m symbol contractType timeframe candles = (engine', none) ∧
      HistoriesRetain m symbol contractType series (Function.update seen timeframe
        (seen timeframe ∪ (candles.map OHLCVCandle.timestamp).toFinset)) engine' := by
  induction candles generalizing engine seen with
  | nil =>
      refine ⟨engine, rfl, ?_⟩
      simpa using hE
  | cons candle candles ih =>
      obtain ⟨hfirst, hrest⟩ := List.forall_mem_cons.mp hcandles
      obtain ⟨hlt, hasc⟩ := List.pairwise_cons.mp hasc
      obtain ⟨engine₁, hrec, hE₁⟩ := recordCandle_ok hE hfirst.1 hfirst.2
      have hnew : ∀ x ∈ candles, x ∈ series.candles timeframe ∧ x.timestamp ∉
          (engine₁.historyFor m symbol.val contractType timeframe).candles.byTimestamp :=
        fun x hx => ⟨(hrest x hx).1, fun hmem =>
          (hE.mem_of_update hE₁ hmem).elim (fun h => (hlt x hx).ne h.symm) (hrest x hx).2⟩
      obtain ⟨engine', hrun, hE'⟩ := ih hE₁ hasc hnew
      refine ⟨engine', ?_, ?_⟩
      · rw [TechnicalFeatureEngine.recordUntil, hrec]
        exact hrun
      · convert hE' using 1
        rw [Function.update_idem, Function.update_self, List.map_cons, List.toFinset_cons,
          Finset.union_insert, Finset.insert_union]

/-! ## Steps -/

/-- The closed candles that some steps fetch for a timeframe. -/
def fetchedClosed (timeframe : Timeframe) (steps : List TechnicalStep) : List OHLCVCandle :=
  steps.flatMap (TechnicalStep.closed timeframe)

theorem HistoriesRetain.mem_latest_timestamp {t : Timestamp}
    (hE : HistoriesRetain m symbol contractType series seen engine)
    (ht : t ∈ (engine.historyFor m symbol.val contractType timeframe).candles.byTimestamp) :
    t ∈ (engine.historyFor m symbol.val contractType timeframe).candles.latest.map
      OHLCVCandle.timestamp := by
  obtain ⟨v, hv⟩ := Option.isSome_iff_exists.mp (AList.lookup_isSome.mpr ht)
  exact List.mem_map.mpr ⟨v, ChronologicalCandleStore.mem_latest.mpr ⟨t, hv⟩,
    ((hE timeframe).2.candles t v hv).1⟩

theorem HistoriesRetain.mem_seen {t : Timestamp}
    (hE : HistoriesRetain m symbol contractType series seen engine)
    (ht : t ∈ (engine.historyFor m symbol.val contractType timeframe).candles.latest.map
      OHLCVCandle.timestamp) : t ∈ seen timeframe := by
  obtain ⟨v, hv, rfl⟩ := List.mem_map.mp ht
  obtain ⟨t, hlook⟩ := ChronologicalCandleStore.mem_latest.mp hv
  have hmem : t ∈ (engine.historyFor m symbol.val contractType timeframe).candles.timestamps :=
    ChronologicalCandleStore.mem_timestamps.mpr (AList.lookup_isSome.mp (by rw [hlook]; rfl))
  rw [(hE timeframe).2.newest] at hmem
  rw [((hE timeframe).2.candles t v hlook).1]
  exact newest_subset _ _ hmem

/-- **Recording a window makes its closed candles seen**, the retained ones among them included. -/
theorem recordWindow_ok (hE : HistoriesRetain m symbol contractType series seen engine)
    (hwindow : Window (series.candles timeframe) timeframe asOf candles) :
    ∃ engine', engine.recordUntil m symbol contractType timeframe
        (engine.newClosed m symbol contractType timeframe asOf candles) = (engine', none) ∧
      HistoriesRetain m symbol contractType series (Function.update seen timeframe (seen timeframe ∪
        ((splitClosedAndForming candles timeframe asOf).1.map
          OHLCVCandle.timestamp).toFinset)) engine' := by
  have hmem : ∀ candle ∈ engine.newClosed m symbol contractType timeframe asOf candles,
      candle ∈ series.candles timeframe ∧ candle.timestamp ∉
        (engine.historyFor m symbol.val contractType timeframe).candles.byTimestamp := by
    intro candle hcandle
    obtain ⟨hclosed, hnew⟩ := List.mem_filter.mp hcandle
    obtain ⟨hcandle, hclosed⟩ := List.mem_filter.mp hclosed
    exact ⟨hwindow.closed candle hcandle (of_decide_eq_true hclosed),
      fun h => of_decide_eq_true hnew (hE.mem_latest_timestamp h)⟩
  obtain ⟨engine', hrun, hE'⟩ := recordUntil_ok hE
    ((hwindow.ascending.filter _).filter _) hmem
  refine ⟨engine', hrun, ?_⟩
  convert hE' using 2
  ext t
  rw [Finset.mem_union, Finset.mem_union, List.mem_toFinset, List.mem_toFinset, List.mem_map,
    List.mem_map]
  constructor
  · rintro (h | ⟨candle, hcandle, rfl⟩)
    · exact .inl h
    · by_cases hret : candle.timestamp ∈
          (engine.historyFor m symbol.val contractType timeframe).candles.latest.map
            OHLCVCandle.timestamp
      · exact .inl (hE.mem_seen hret)
      · exact .inr ⟨candle, List.mem_filter.mpr ⟨hcandle, decide_eq_true hret⟩, rfl⟩
  · rintro (h | ⟨candle, hcandle, rfl⟩)
    · exact .inl h
    · exact .inr ⟨candle, (List.mem_filter.mp hcandle).1, rfl⟩

/-- A snapshot reads the closed candles and leaves the histories. -/
theorem buildSnapshot_cases (m : CaseMapping) (c : TechnicalComponents B) (symbol : Symbol)
    (contractType : ContractType) (engine : TechnicalFeatureEngine B) (timeframe : Timeframe)
    (asOf : Timestamp) :
    engine.buildSnapshot m c symbol.val contractType timeframe asOf = .error .invalidSymbol ∨
      ∃ snapshot engine', engine.buildSnapshot m c symbol.val contractType timeframe asOf =
          .ok (snapshot, engine') ∧
        snapshot.timeframe = timeframe ∧
        snapshot.blocks = c.compute snapshot.identity.symbol contractType timeframe
          (splitClosedAndForming (engine.historyFor m symbol.val contractType
            timeframe).candles.latest timeframe asOf).1 ∧
        ∀ timeframe', (engine'.historyFor m symbol.val contractType timeframe').candles =
          (engine.historyFor m symbol.val contractType timeframe').candles := by
  cases hsymbol : (validSymbol (m.upper symbol.val) : Except (ContourError Cell) Symbol) with
  | error e =>
      have he : e = .invalidSymbol := by
        unfold validSymbol at hsymbol
        split at hsymbol <;> cases hsymbol
        rfl
      refine .inl ?_
      simp only [TechnicalFeatureEngine.buildSnapshot, splitClosedAndForming, hsymbol, he]
      rfl
  | ok stamped =>
      refine .inr ⟨_, _, bind_ok_iff.mpr ⟨stamped, hsymbol, rfl⟩, rfl, ?_, ?_⟩
      · rw [historyFor_upper]
        rfl
      · intro timeframe'
        rw [CaseMapping.upper_upper, historyFor_insert, historyFor_upper]
        split_ifs with h
        · rw [h]
        · rfl

/-- The timestamps seen after some closed candles more. -/
def seenWith (seen : Timeframe → Finset Timestamp) (closed : Timeframe → List OHLCVCandle) :
    Timeframe → Finset Timestamp :=
  fun timeframe => seen timeframe ∪ ((closed timeframe).map OHLCVCandle.timestamp).toFinset

theorem seenWith_nil : seenWith seen (fun _ => []) = seen := by
  funext timeframe
  simp [seenWith]

/-- **A step raises no duplicate, and it adds the closed candles it fetches.** -/
theorem step_holds (hE : HistoriesRetain m symbol contractType series seen engine)
    {s : TechnicalStep} (hs : s.Reads series) :
    (engine.step m c symbol contractType s).2 ≠ some .duplicateCandleTimestamp ∧
      HistoriesRetain m symbol contractType series
        (seenWith seen fun timeframe => s.closed timeframe)
        (engine.step m c symbol contractType s).1 := by
  rcases s with ⟨timeframe, asOf, error | candles⟩ | ⟨timeframe, asOf⟩
  · refine ⟨fun h => (by cases h), ?_⟩
    show HistoriesRetain m symbol contractType series (seenWith seen fun _ => []) engine
    rwa [seenWith_nil]
  · obtain ⟨engine', hrun, hE'⟩ := recordWindow_ok hE hs
    rw [TechnicalFeatureEngine.step, hrun]
    refine ⟨fun h => (by cases h), ?_⟩
    convert hE' using 1
    funext timeframe'
    by_cases h : timeframe' = timeframe
    · subst h
      simp [seenWith, TechnicalStep.closed]
    · simp [seenWith, TechnicalStep.closed, h, Ne.symm h]
  · have hseen : seenWith seen (fun timeframe' =>
        (TechnicalStep.composed timeframe asOf).closed timeframe') = seen := seenWith_nil
    rw [hseen]
    rcases buildSnapshot_cases m c symbol contractType engine timeframe asOf
      with h | ⟨snapshot, engine', h, -, -, hsame⟩
    · rw [TechnicalFeatureEngine.step, h]
      exact ⟨fun h => (by cases h), hE⟩
    · rw [TechnicalFeatureEngine.step, h]
      refine ⟨fun h => (by cases h), fun timeframe' => ?_⟩
      rw [hsame]
      exact hE timeframe'

/-- **After any steps the histories hold the newest of all the closed candles fetched.** -/
theorem after_holds (hE : HistoriesRetain m symbol contractType series seen engine)
    {steps : List TechnicalStep} (hsteps : ∀ s ∈ steps, s.Reads series) :
    HistoriesRetain m symbol contractType series
      (seenWith seen fun timeframe => fetchedClosed timeframe steps)
      (engine.after m c symbol contractType steps) := by
  induction steps generalizing engine seen with
  | nil =>
      show HistoriesRetain m symbol contractType series (seenWith seen fun _ => []) engine
      rwa [seenWith_nil]
  | cons s steps ih =>
      obtain ⟨hs, hrest⟩ := List.forall_mem_cons.mp hsteps
      convert ih (step_holds (c := c) hE hs).2 hrest using 1
      · funext timeframe
        simp only [seenWith, fetchedClosed, List.flatMap_cons, List.map_append,
          List.toFinset_append, Finset.union_assoc]
      · rfl

/-- What is retained, in terms of the candles fetched. -/
theorem HistoriesRetain.newestOf (hE : HistoriesRetain m symbol contractType series seen engine)
    (hseen : seen timeframe = (candles.map OHLCVCandle.timestamp).toFinset)
    (hcandles : ∀ candle ∈ candles, candle ∈ series.candles timeframe) :
    NewestOf candleCapacity candles
      (engine.historyFor m symbol.val contractType timeframe).candles.latest := by
  obtain ⟨hcap, hret⟩ := hE timeframe
  rw [hseen] at hret
  exact hcap ▸ hret.newestOf (series.distinct timeframe) hcandles

/-! ## Whole cycles -/

theorem recordCandles_of_recordUntil
    (h : engine.recordUntil m symbol contractType timeframe candles = (engine', none)) :
    engine.recordCandles m symbol.val contractType timeframe candles = .ok engine' := by
  induction candles generalizing engine with
  | nil =>
      cases h
      rfl
  | cons candle candles ih =>
      rw [TechnicalFeatureEngine.recordUntil] at h
      rw [TechnicalFeatureEngine.recordCandles, List.foldlM_cons]
      cases hrec : engine.recordCandle m symbol.val contractType timeframe candle with
      | error e =>
          rw [hrec] at h
          cases h
      | ok engine₁ =>
          rw [hrec] at h
          exact ih h

variable {provider : OHLCVProvider}

/-- Ingesting a window is the step of the fetch. -/
theorem ingest_ok (hE : HistoriesRetain m symbol contractType series seen engine)
    {outcome : Except String (List OHLCVCandle)}
    (hreads : (TechnicalStep.fetched timeframe asOf outcome).Reads series) :
    ∃ failures, ingest m engine symbol contractType asOf timeframe outcome =
      .ok (failures,
        (engine.step m c symbol contractType (.fetched timeframe asOf outcome)).1) := by
  cases outcome with
  | error e => exact ⟨_, rfl⟩
  | ok candles =>
      obtain ⟨engine', hrun, -⟩ := recordWindow_ok hE hreads
      refine ⟨[], bind_ok_iff.mpr ⟨engine', recordCandles_of_recordUntil hrun, ?_⟩⟩
      rw [TechnicalFeatureEngine.step, hrun]
      rfl

/-- The snapshot is computed from closed candles of the series. -/
def ComputedFromClosed (c : TechnicalComponents B) (contractType : ContractType)
    (series : StableSeries) (asOf : Timestamp) (snapshot : TechnicalFeatureSnapshot B) : Prop :=
  ∃ closed : List OHLCVCandle,
    snapshot.blocks =
      c.compute snapshot.identity.symbol contractType snapshot.timeframe closed ∧
    ∀ candle ∈ closed,
      candle.IsClosed snapshot.timeframe asOf ∧ candle ∈ series.candles snapshot.timeframe

theorem after_append (engine : TechnicalFeatureEngine B) (steps steps' : List TechnicalStep) :
    engine.after m c symbol contractType (steps ++ steps') =
      (engine.after m c symbol contractType steps).after m c symbol contractType steps' :=
  List.foldl_append

theorem after_pair (engine : TechnicalFeatureEngine B) :
    engine.after m c symbol contractType (cycleSteps symbol [timeframe] provider asOf) =
      ((engine.step m c symbol contractType (.fetched timeframe asOf
        (provider symbol timeframe technicalOhlcvFetchLimit asOf))).1.step m c symbol contractType
          (.composed timeframe asOf)).1 := by
  simp only [TechnicalFeatureEngine.after, cycleSteps, List.flatMap_cons, List.flatMap_nil,
    List.append_nil, List.foldl_cons, List.foldl_nil]

/-- A refreshed timeframe takes the two steps of the timeframe, unless no symbol can be stamped. -/
theorem refresh_cases (hE : HistoriesRetain m symbol contractType series seen engine)
    (hreads : (TechnicalStep.fetched timeframe asOf
      (provider symbol timeframe technicalOhlcvFetchLimit asOf)).Reads series) :
    refresh m c provider engine symbol contractType asOf timeframe = .error .invalidSymbol ∨
      ∃ snapshot failures, refresh m c provider engine symbol contractType asOf timeframe =
          .ok (snapshot, failures, engine.after m c symbol contractType
            (cycleSteps symbol [timeframe] provider asOf)) ∧
        ComputedFromClosed c contractType series asOf snapshot := by
  obtain ⟨failures, hingest⟩ := ingest_ok (c := c) hE hreads
  have hE₁ := (step_holds (c := c) hE hreads).2
  set engine₁ := (engine.step m c symbol contractType (.fetched timeframe asOf
    (provider symbol timeframe technicalOhlcvFetchLimit asOf))).1 with hengine₁
  rcases buildSnapshot_cases m c symbol contractType engine₁ timeframe asOf
    with h | ⟨snapshot, engine₂, h, htf, hblocks, -⟩
  · refine .inl ?_
    rw [refresh, hingest]
    show (engine₁.buildSnapshot m c symbol.val contractType timeframe asOf >>= _) = _
    rw [h]
    rfl
  · refine .inr ⟨snapshot, failures, ?_, _, htf ▸ hblocks, fun candle hcandle => ?_⟩
    · have hafter : engine.after m c symbol contractType
          (cycleSteps symbol [timeframe] provider asOf) = engine₂ := by
        rw [after_pair, ← hengine₁, TechnicalFeatureEngine.step, h]
      rw [hafter]
      exact bind_ok_iff.mpr ⟨_, hingest, bind_ok_iff.mpr ⟨_, h, rfl⟩⟩
    · obtain ⟨hlatest, hclosed⟩ := List.mem_filter.mp hcandle
      obtain ⟨t, hlook⟩ := ChronologicalCandleStore.mem_latest.mp hlatest
      exact ⟨of_decide_eq_true hclosed, ((hE₁ _).2.candles t candle hlook).2⟩

theorem refreshAll_cases (hE : HistoriesRetain m symbol contractType series seen engine)
    (hreads : ∀ s ∈ cycleSteps symbol timeframes provider asOf, s.Reads series) :
    refreshAll m c provider symbol contractType asOf engine timeframes = .error .invalidSymbol ∨
      ∃ snapshots failures,
        refreshAll m c provider symbol contractType asOf engine timeframes =
          .ok (snapshots, failures,
            engine.after m c symbol contractType (cycleSteps symbol timeframes provider asOf)) ∧
        ∀ snapshot ∈ snapshots, ComputedFromClosed c contractType series asOf snapshot := by
  induction timeframes generalizing engine seen with
  | nil => exact .inr ⟨[], [], rfl, fun _ h => absurd h List.not_mem_nil⟩
  | cons timeframe timeframes ih =>
      have hsplit : cycleSteps symbol (timeframe :: timeframes) provider asOf =
          cycleSteps symbol [timeframe] provider asOf ++
            cycleSteps symbol timeframes provider asOf := by
        simp [cycleSteps]
      rw [hsplit] at hreads ⊢
      rcases refresh_cases (c := c) hE (hreads _ (List.mem_append_left _ List.mem_cons_self))
        with h | ⟨snapshot, failures₁, h, hsnapshot⟩
      · refine .inl ?_
        rw [refreshAll, h]
        rfl
      · have hfirst : ∀ s ∈ cycleSteps symbol [timeframe] provider asOf, s.Reads series :=
          fun s hs => hreads s (List.mem_append_left _ hs)
        have hE₁ := after_holds (c := c) hE hfirst
        rcases ih hE₁ fun s hs => hreads s (List.mem_append_right _ hs)
          with h' | ⟨snapshots, failures₂, h', hsnapshots⟩
        · refine .inl ?_
          rw [refreshAll, h]
          show (refreshAll m c provider symbol contractType asOf _ timeframes >>= _) = _
          rw [h']
          rfl
        · refine .inr ⟨snapshot :: snapshots, failures₁ ++ failures₂, ?_,
            List.forall_mem_cons.mpr ⟨hsnapshot, hsnapshots⟩⟩
          rw [after_append]
          exact bind_ok_iff.mpr ⟨_, h, bind_ok_iff.mpr ⟨_, h', rfl⟩⟩

theorem supervised_bind_ne {α β : Type} {x : Except (SupervisorInputError Cell) α} {f : α → β} :
    (supervised x >>= fun a => pure (f a)) ≠ .error .duplicateCandleTimestamp := by
  intro h
  cases x <;> cases h

theorem cycle_steps_reads {cycles : List TechnicalCycle}
    (hcycles : ∀ cycle ∈ cycles, ∀ s ∈ cycleSteps symbol timeframes cycle.provider cycle.asOf,
      s.Reads series) :
    ∀ s ∈ cycles.flatMap (TechnicalCycle.steps symbol timeframes), s.Reads series := by
  intro s hs
  obtain ⟨cycle, hcycle, hs⟩ := List.mem_flatMap.mp hs
  exact hcycles cycle hcycle s (List.mem_of_mem_take hs)

theorem fetchedClosed_mem {steps : List TechnicalStep} (hsteps : ∀ s ∈ steps, s.Reads series)
    (h : candle ∈ fetchedClosed timeframe steps) : candle ∈ series.candles timeframe := by
  obtain ⟨s, hs, h⟩ := List.mem_flatMap.mp h
  have hreads := hsteps s hs
  rcases s with ⟨timeframe', asOf, error | candles⟩ | ⟨timeframe', asOf⟩
  · cases h
  · by_cases htf : timeframe' = timeframe
    · subst htf
      simp only [TechnicalStep.closed, if_pos] at h
      obtain ⟨hcandle, hclosed⟩ := List.mem_filter.mp h
      exact hreads.closed candle hcandle (of_decide_eq_true hclosed)
    · simp [TechnicalStep.closed, htf] at h
  · cases h

/-- **Technical history does not depend on how it was fetched.** After any cycles over windows of
the series, however far each got, the history of a timeframe is the newest of all its closed
candles fetched so far; the next cycle raises no duplicate, leaves the engine that its steps lead
to, and computes from closed candles of the series only. -/
theorem technical_history (m : CaseMapping) (c : TechnicalComponents B) (symbol : Symbol)
    (contractType : ContractType) (timeframes : List Timeframe) (series : StableSeries)
    (cycles : List TechnicalCycle)
    (hcycles : ∀ cycle ∈ cycles, ∀ s ∈ cycleSteps symbol timeframes cycle.provider cycle.asOf,
      s.Reads series) :
    let steps := cycles.flatMap (TechnicalCycle.steps symbol timeframes)
    let engine : TechnicalFeatureEngine B :=
      (⟨∅⟩ : TechnicalFeatureEngine B).after m c symbol contractType steps
    (∀ timeframe, NewestOf candleCapacity (fetchedClosed timeframe steps)
      (engine.historyFor m symbol.val contractType timeframe).candles.latest) ∧
    ∀ (provider : OHLCVProvider) (asOf : Timestamp),
      (∀ s ∈ cycleSteps symbol timeframes provider asOf, s.Reads series) →
      buildTechnicalResult m c provider timeframes engine symbol contractType asOf ≠
          .error .duplicateCandleTimestamp ∧
        (∀ result engine', buildTechnicalResult m c provider timeframes engine symbol contractType
          asOf = .ok (result, engine') → engine' = engine.after m c symbol contractType
            (cycleSteps symbol timeframes provider asOf)) ∧
        ∀ snapshots failures engine',
          refreshAll m c provider symbol contractType asOf engine timeframes =
            .ok (snapshots, failures, engine') →
          ∀ snapshot ∈ snapshots, ComputedFromClosed c contractType series asOf snapshot := by
  intro steps engine
  have hreads := cycle_steps_reads hcycles
  have hE := after_holds (c := c) (holds_empty B m symbol contractType series) hreads
  refine ⟨fun timeframe => hE.newestOf (by simp [seenWith]; rfl) fun candle =>
    fetchedClosed_mem hreads, fun provider asOf hprovider => ?_⟩
  rcases refreshAll_cases (c := c) hE hprovider with h | ⟨snapshots, failures, h, hsnapshots⟩
  · refine ⟨fun hdup => ?_, fun result engine' hok => ?_, fun snapshots failures engine' hok => ?_⟩
    · rw [buildTechnicalResult, h] at hdup
      cases hdup
    · rw [buildTechnicalResult, h] at hok
      cases hok
    · rw [h] at hok
      cases hok
  · refine ⟨fun hdup => ?_, fun result engine' hok => ?_, fun snapshots failures engine' hok => ?_⟩
    · rw [buildTechnicalResult, h] at hdup
      exact supervised_bind_ne hdup
    · obtain ⟨⟨snapshots', failures', engine₁⟩, hrefresh, hok⟩ := bind_ok_iff.mp hok
      obtain ⟨technical, -, hok⟩ := bind_ok_iff.mp hok
      rw [h] at hrefresh
      cases hrefresh
      cases hok
      rfl
    · rw [h] at hok
      cases hok
      exact hsnapshots

/-- A flat candle. -/
def flatCandle (timestamp : Timestamp) : OHLCVCandle := .still timestamp 1 0

/-- The provider of a market that does not move: the last candles, of which one is forming. -/
def rollingProvider : OHLCVProvider := fun _ timeframe limit asOf =>
  .ok ((List.range limit).map fun i : ℕ => flatCandle
    ((asOf / timeframeDuration timeframe - limit + 1 + i) * timeframeDuration timeframe))

/-- The candles of that market. -/
def rollingSeries : StableSeries where
  candles timeframe := {candle | ∃ k : ℤ, candle = flatCandle (k * timeframeDuration timeframe)}
  aligned timeframe := by
    rintro _ ⟨k, rfl⟩
    show k * timeframeDuration timeframe = _
    exact congrArg (· * _) (Int.mul_ediv_cancel k (timeframeDuration_pos timeframe).ne').symm
  distinct timeframe := by
    rintro _ ⟨k, rfl⟩ _ ⟨k', rfl⟩ h
    exact congrArg flatCandle h

/-- Twenty-seven cycles, ten hours apart; each fetches fifty closed candles, ten of them again. -/
def rollingCycles : List TechnicalCycle :=
  (List.range 27).map fun i : ℕ => ⟨rollingProvider, minutes 15 * (40 * i), 2⟩

/-- No calculators and no interpretation. -/
def noComponents : TechnicalComponents Unit where
  compute _ _ _ _ := ()
  interpret _ _ := (.abstained, .unavailable, [])

theorem rolling_reads {asOf : Timestamp} :
    ∀ s ∈ cycleSteps btcusdt [.m15] rollingProvider asOf, s.Reads rollingSeries := by
  intro s hs
  rcases List.mem_cons.mp hs with rfl | hs
  · constructor
    · refine List.pairwise_map.mpr (List.pairwise_lt_range.imp fun {i j} hij => ?_)
      exact Int.mul_lt_mul_of_pos_right (Int.add_lt_add_left (Int.ofNat_lt.mpr hij) _)
        (timeframeDuration_pos .m15)
    · intro candle hcandle _
      obtain ⟨i, -, rfl⟩ := List.mem_map.mp hcandle
      exact ⟨_, rfl⟩
  · rw [List.mem_singleton.mp hs]
    trivial

/-- A cycle of the sample fetches the fifty candles before it. -/
theorem mem_fetchedClosed_rolling {i : ℕ} (hi : i < 27) {k : ℤ} (hlow : 40 * i - 50 ≤ k)
    (hhigh : k < 40 * i) : flatCandle (minutes 15 * k) ∈
      fetchedClosed .m15 (rollingCycles.flatMap (TechnicalCycle.steps btcusdt [.m15])) := by
  have hduration : timeframeDuration .m15 = minutes 15 := rfl
  refine List.mem_flatMap.mpr ⟨.fetched .m15 (minutes 15 * (40 * i))
    (rollingProvider btcusdt .m15 technicalOhlcvFetchLimit (minutes 15 * (40 * i))),
    List.mem_flatMap.mpr ⟨_, List.mem_map_of_mem (List.mem_range.mpr hi), List.mem_cons_self⟩, ?_⟩
  refine List.mem_filter.mpr ⟨List.mem_map.mpr ⟨(k - 40 * i + 50).toNat, ?_, ?_⟩, ?_⟩
  · rw [List.mem_range, technicalOhlcvFetchLimit]
    omega
  · have hindex : 40 * (i : ℤ) - (51 : ℕ) + 1 + ((k - 40 * i + 50).toNat : ℤ) = k := by omega
    rw [hduration, Int.mul_ediv_cancel_left _ (by decide), technicalOhlcvFetchLimit, hindex,
      Int.mul_comm]
  · refine decide_eq_true ?_
    have hclosed : (15 * 60000000 : ℤ) * k + 15 * 60000000 ≤ 15 * 60000000 * (40 * i) := by omega
    exact hclosed

/-- The oldest candle was fetched, and has been evicted; the next cycle goes on from there. -/
theorem technical_history_sample :
    let steps := rollingCycles.flatMap (TechnicalCycle.steps btcusdt [.m15])
    let engine : TechnicalFeatureEngine Unit :=
      (⟨∅⟩ : TechnicalFeatureEngine Unit).after .ascii noComponents btcusdt .spot steps
    let latest := (engine.historyFor .ascii btcusdt.val .spot .m15).candles.latest
    NewestOf candleCapacity (fetchedClosed .m15 steps) latest ∧
      flatCandle (minutes 15 * -50) ∈ fetchedClosed .m15 steps ∧
      flatCandle (minutes 15 * -50) ∉ latest ∧
      buildTechnicalResult .ascii noComponents rollingProvider [.m15] engine btcusdt .spot
        (minutes 15 * 1080) ≠ .error .duplicateCandleTimestamp := by
  intro steps engine latest
  obtain ⟨hnewest, hcycle⟩ := technical_history .ascii noComponents btcusdt .spot [.m15]
    rollingSeries rollingCycles fun cycle hcycle => by
      obtain ⟨i, -, rfl⟩ := List.mem_map.mp hcycle
      exact rolling_reads
  refine ⟨hnewest .m15, mem_fetchedClosed_rolling (i := 0) (by decide) (by decide) (by decide),
    fun hmem => ?_, (hcycle rollingProvider _ rolling_reads).1⟩
  -- a thousand newer candles were fetched
  have hcard := (mem_newest.mp ((hnewest .m15).mem_iff _ |>.mp hmem).2).2
  refine absurd hcard (not_lt.mpr ?_)
  have hsubset : (Finset.range 1000).image (fun j : ℕ => minutes 15 * ((j : ℤ) - 40)) ⊆
      {l ∈ ((fetchedClosed .m15 steps).map OHLCVCandle.timestamp).toFinset |
        minutes 15 * -50 < l} := by
    intro t ht
    obtain ⟨j, hj, rfl⟩ := Finset.mem_image.mp ht
    have hlt := Finset.mem_range.mp hj
    refine Finset.mem_filter.mpr ⟨List.mem_toFinset.mpr (List.mem_map.mpr ⟨_,
      mem_fetchedClosed_rolling (i := j / 40) (k := (j : ℤ) - 40) ?_ ?_ ?_, rfl⟩), ?_⟩
    · omega
    · omega
    · omega
    · have hold : (15 * 60000000 : ℤ) * -50 < 15 * 60000000 * ((j : ℤ) - 40) := by omega
      exact hold
  calc candleCapacity = (Finset.range 1000).card := (Finset.card_range 1000).symm
    _ = ((Finset.range 1000).image fun j : ℕ => minutes 15 * ((j : ℤ) - 40)).card := by
        refine (Finset.card_image_of_injective _ fun a b hab => ?_).symm
        have hscaled : (15 * 60000000 : ℤ) * ((a : ℤ) - 40) = 15 * 60000000 * ((b : ℤ) - 40) := hab
        omega
    _ ≤ _ := Finset.card_le_card hsubset

end TradingAdvisor
