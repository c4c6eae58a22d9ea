import TradingAdvisor.Lib.Keyed
import TradingAdvisor.Technical.MirrorStructure

/-!
# Market structure over a growing series

Swings and breaks are found by their neighbours and by later closes. Candles that come later add
swings and breaks, and change none that the series confirmed before.

* `Ascending`, `Covers` — a series in the order of time, and the instants up to its end;
* `detectSwings_append`, `detectBreaks_append` — what a longer series says of the shorter one;
* `FirstBeyond` — the candle that breaks a swing;
* `NoRepaint`, `Unambiguous` — the two together, and what swings and breaks are;
* **`marketStructure_sound`**: every ascending series has both.
-/

namespace TradingAdvisor

/-- The candles are in the order of time. -/
def Ascending (candles : List OHLCVCandle) : Prop :=
  candles.Pairwise fun a b => a.timestamp < b.timestamp

/-- The instant is not after the series. -/
def Covers (candles : List OHLCVCandle) (t : Timestamp) : Prop :=
  ∃ candle ∈ candles, t ≤ candle.timestamp

instance (candles : List OHLCVCandle) (t : Timestamp) : Decidable (Covers candles t) :=
  inferInstanceAs (Decidable (∃ candle ∈ candles, _))

/-- No candle is missing. -/
def Contiguous (timeframe : Timeframe) (candles : List OHLCVCandle) : Prop :=
  candles.IsChain fun a b => b.timestamp - a.timestamp = timeframeDuration timeframe

variable {candles later : List OHLCVCandle} {leftBars rightBars i j : ℕ} {candle : OHLCVCandle}
  {swing : ConfirmedSwing}

/-! ## Order -/

theorem Ascending.lt (h : Ascending candles) {a b : OHLCVCandle} (ha : candles[i]? = some a)
    (hb : candles[j]? = some b) : a.timestamp < b.timestamp ↔ i < j := by
  obtain ⟨hi, rfl⟩ := List.getElem?_eq_some_iff.mp ha
  obtain ⟨hj, rfl⟩ := List.getElem?_eq_some_iff.mp hb
  have hlt := List.pairwise_iff_getElem.mp h
  refine ⟨fun hab => ?_, hlt i j hi hj⟩
  by_contra hcon
  rcases (not_lt.mp hcon).eq_or_lt with rfl | hji
  · exact lt_irrefl _ hab
  · exact lt_asymm hab (hlt j i hj hi hji)

theorem Ascending.times (h : Ascending candles) : TimesDistinct candles :=
  List.pairwise_map.mpr (h.imp fun hlt => hlt.ne)

theorem Ascending.left (h : Ascending (candles ++ later)) : Ascending candles :=
  (List.pairwise_append.mp h).1

theorem Ascending.covers_iff (h : Ascending (candles ++ later))
    (hcandle : (candles ++ later)[i]? = some candle) :
    Covers candles candle.timestamp ↔ i < candles.length := by
  constructor
  · rintro ⟨last, hlast, hle⟩
    obtain ⟨k, hk⟩ := List.mem_iff_getElem?.mp hlast
    obtain ⟨hklt, -⟩ := List.getElem?_eq_some_iff.mp hk
    have hk' : (candles ++ later)[k]? = some last := by
      rw [List.getElem?_append_left hklt, hk]
    have hnot := (h.lt hk' hcandle).not.mp (not_lt.mpr hle)
    omega
  · intro hi
    rw [List.getElem?_append_left hi] at hcandle
    exact ⟨candle, List.mem_of_getElem? hcandle, le_rfl⟩

theorem Ascending.mem_of_covers (h : Ascending (candles ++ later))
    (hcandle : candle ∈ candles ++ later)
    (hcovers : Covers candles candle.timestamp) : candle ∈ candles := by
  obtain ⟨k, hk⟩ := List.mem_iff_getElem?.mp hcandle
  have hlt := (h.covers_iff hk).mp hcovers
  rw [List.getElem?_append_left hlt] at hk
  exact List.mem_of_getElem? hk

/-! ## Swings -/

theorem bars_append (h : i + rightBars < candles.length) :
    bars (candles ++ later) leftBars rightBars i = bars candles leftBars rightBars i := by
  unfold bars
  rw [List.take_append_of_le_length (by omega), List.drop_append_of_le_length (by omega),
    List.take_append_of_le_length (by rw [List.length_drop]; omega)]

/-- A pivot that the series confirms does not see what comes later. -/
theorem swingsAt_append (h : i + rightBars < candles.length) :
    swingsAt (candles ++ later) leftBars rightBars i = swingsAt candles leftBars rightBars i := by
  unfold swingsAt
  rw [List.getElem?_append_left h, List.getElem?_append_left (by omega), bars_append h]

theorem mem_swingsAt (h : swing ∈ swingsAt candles leftBars rightBars i) :
    ∃ pivot confirming, candles[i]? = some pivot ∧ candles[i + rightBars]? = some confirming ∧
      swing.candleTime = pivot.timestamp ∧ swing.confirmedAt = confirming.timestamp := by
  unfold swingsAt at h
  split at h
  · rename_i pivot confirming hpivot hconfirming
    refine ⟨pivot, confirming, hpivot, hconfirming, ?_⟩
    rcases List.mem_append.mp h with h | h
    · split_ifs at h
      · obtain rfl := List.mem_singleton.mp h
        exact ⟨rfl, rfl⟩
      · cases h
    · split_ifs at h
      · obtain rfl := List.mem_singleton.mp h
        exact ⟨rfl, rfl⟩
      · cases h
  · cases h

instance swingLe_total : Std.Total swingLe := by
  refine ⟨fun a b => ?_⟩
  rcases lt_trichotomy a.confirmedAt b.confirmedAt with hlt | heq | hgt
  · exact .inl (.inl hlt)
  · rcases lt_trichotomy a.candleTime b.candleTime with hlt' | heq' | hgt'
    · exact .inl (.inr ⟨heq, .inl hlt'⟩)
    · rcases le_total a.kind.value b.kind.value with hle | hle
      · exact .inl (.inr ⟨heq, .inr ⟨heq', hle⟩⟩)
      · exact .inr (.inr ⟨heq.symm, .inr ⟨heq'.symm, hle⟩⟩)
    · exact .inr (.inr ⟨heq.symm, .inl hgt'⟩)
  · exact .inr (.inl hgt)

instance swingLe_trans : IsTrans ConfirmedSwing swingLe := by
  refine ⟨fun a b c hab hbc => ?_⟩
  rcases hab with hab | ⟨hab, hab'⟩ <;> rcases hbc with hbc | ⟨hbc, hbc'⟩
  · exact .inl (hab.trans hbc)
  · exact .inl (hbc ▸ hab)
  · exact .inl (hab ▸ hbc)
  · refine .inr ⟨hab.trans hbc, ?_⟩
    rcases hab' with hab' | ⟨hab', hkind⟩ <;> rcases hbc' with hbc' | ⟨hbc', hkind'⟩
    · exact .inl (hab'.trans hbc')
    · exact .inl (hbc' ▸ hab')
    · exact .inl (hab' ▸ hbc')
    · exact .inr ⟨hab'.trans hbc', hkind.trans hkind'⟩

/-- **Swings do not repaint.** The swings that the series confirms are the same in a longer one. -/
theorem detectSwings_append (h : Ascending (candles ++ later)) (leftBars rightBars : ℕ) :
    (detectSwings (candles ++ later) leftBars rightBars).filter
        (fun swing => Covers candles swing.confirmedAt) =
      detectSwings candles leftBars rightBars := by
  unfold detectSwings
  rw [Keyed.filter_insertionSort, List.filter_flatMap]
  congr 1
  obtain ⟨rest, hrest⟩ : ∃ rest, (candles ++ later).length - rightBars - leftBars =
      candles.length - rightBars - leftBars + rest := by
    rw [List.length_append]
    exact ⟨_, (Nat.add_sub_cancel' (by omega)).symm⟩
  rw [hrest, ← List.range'_append_1, List.flatMap_append]
  have hown : ∀ i ∈ List.range' leftBars (candles.length - rightBars - leftBars),
      (swingsAt (candles ++ later) leftBars rightBars i).filter
        (fun swing => Covers candles swing.confirmedAt) =
      swingsAt candles leftBars rightBars i := by
    intro i hi
    have hlt : i + rightBars < candles.length := by
      rw [List.mem_range'_1] at hi
      omega
    rw [swingsAt_append hlt, List.filter_eq_self]
    intro swing hswing
    obtain ⟨-, confirming, -, hconfirming, -, htime⟩ := mem_swingsAt hswing
    exact decide_eq_true ⟨confirming, List.mem_of_getElem? hconfirming, htime.le⟩
  have hother : ∀ i ∈ List.range' (leftBars + (candles.length - rightBars - leftBars)) rest,
      (swingsAt (candles ++ later) leftBars rightBars i).filter
        (fun swing => Covers candles swing.confirmedAt) = [] := by
    intro i hi
    have hle : candles.length ≤ i + rightBars := by
      rw [List.mem_range'_1] at hi
      omega
    refine List.filter_eq_nil_iff.mpr fun swing hswing hcovers => ?_
    obtain ⟨-, confirming, -, hconfirming, -, htime⟩ := mem_swingsAt hswing
    rw [htime] at hcovers
    exact absurd ((h.covers_iff hconfirming).mp (of_decide_eq_true hcovers)) (not_lt.mpr hle)
  rw [List.flatMap_congr hown, List.flatMap_eq_nil_iff.mpr hother, List.append_nil]

/-! ## Breaks -/

/-- The candle is the first after the confirmation that closes beyond the swing. -/
structure FirstBeyond (candles : List OHLCVCandle) (swing : ConfirmedSwing)
    (candle : OHLCVCandle) : Prop where
  mem : candle ∈ candles
  later : swing.confirmedAt < candle.timestamp
  breaks : BreaksSwing swing candle
  first : ∀ c ∈ candles, swing.confirmedAt < c.timestamp → c.timestamp < candle.timestamp →
    ¬ BreaksSwing swing c

/-- The break of a swing by a candle. -/
def breakBy (swing : ConfirmedSwing) (candle : OHLCVCandle) : ConfirmedBreak :=
  ⟨⟨swing.kind.breakDirection, swing.toSwingPoint⟩, candle.timestamp⟩

theorem FirstBeyond.unique (h : Ascending candles) {a b : OHLCVCandle}
    (ha : FirstBeyond candles swing a) (hb : FirstBeyond candles swing b) : a = b := by
  obtain ⟨i, hi⟩ := List.mem_iff_getElem?.mp ha.mem
  obtain ⟨k, hk⟩ := List.mem_iff_getElem?.mp hb.mem
  rcases lt_trichotomy a.timestamp b.timestamp with hlt | heq | hgt
  · exact absurd ha.breaks (hb.first a ha.mem ha.later hlt)
  · obtain rfl := h.times.index_eq hi hk heq
    exact Option.some.inj (hi.symm.trans hk)
  · exact absurd hb.breaks (ha.first b hb.mem hb.later hgt)

theorem indexByTime_of_getElem? (h : Ascending candles) (hcandle : candles[i]? = some candle) :
    indexByTime candles candle.timestamp = some i := by
  have hmem : (candle, i) ∈ candles.zipIdx.reverse :=
    List.mem_reverse.mpr (List.mem_zipIdx_iff_getElem?.mpr hcandle)
  obtain ⟨found, hfound⟩ : ∃ found, candles.zipIdx.reverse.find?
      (fun member => member.1.timestamp = candle.timestamp) = some found :=
    Option.isSome_iff_exists.mp (List.find?_isSome.mpr ⟨(candle, i), hmem, by simp⟩)
  have hindex : indexByTime candles candle.timestamp = some found.2 := by
    rw [indexByTime, hfound]
    rfl
  obtain ⟨other, hother, htime⟩ := indexByTime_some hindex
  rw [hindex, h.times.index_eq hother hcandle htime]

/-- What the scan from the confirmation on finds is the first candle beyond the swing. -/
theorem firstBeyond_of_find? (h : Ascending candles) {confirming : OHLCVCandle}
    (hconfirming : candles[i]? = some confirming)
    (htime : swing.confirmedAt = confirming.timestamp)
    (hfind : (candles.drop (i + 1)).find? (fun candle => BreaksSwing swing candle) = some candle) :
    FirstBeyond candles swing candle := by
  obtain ⟨hbreaks, before, after, hsplit, hbefore⟩ := List.find?_eq_some_iff_append.mp hfind
  have hget (m : ℕ) : candles[i + 1 + m]? = (before ++ candle :: after)[m]? := by
    rw [← hsplit, List.getElem?_drop]
  have hcandle : candles[i + 1 + before.length]? = some candle := by
    rw [hget, List.getElem?_append_right le_rfl, Nat.sub_self]
    rfl
  refine ⟨List.mem_of_getElem? hcandle, ?_, of_decide_eq_true hbreaks, fun c hc hlater hfirst => ?_⟩
  · rw [htime]
    exact (h.lt hconfirming hcandle).mpr (by omega)
  · obtain ⟨m, hm⟩ := List.mem_iff_getElem?.mp hc
    have hlow : i < m := (h.lt hconfirming hm).mp (htime ▸ hlater)
    have hhigh : m < i + 1 + before.length := (h.lt hm hcandle).mp hfirst
    obtain ⟨offset, rfl⟩ : ∃ offset, m = i + 1 + offset := ⟨m - (i + 1), by omega⟩
    rw [hget, List.getElem?_append_left (by omega)] at hm
    simpa using hbefore c (List.mem_of_getElem? hm)

theorem find?_of_firstBeyond (h : Ascending candles) {confirming : OHLCVCandle}
    (hconfirming : candles[i]? = some confirming)
    (htime : swing.confirmedAt = confirming.timestamp) (hfirst : FirstBeyond candles swing candle) :
    (candles.drop (i + 1)).find? (fun candle => BreaksSwing swing candle) = some candle := by
  obtain ⟨m, hm⟩ := List.mem_iff_getElem?.mp hfirst.mem
  have hlow : i < m := (h.lt hconfirming hm).mp (htime ▸ hfirst.later)
  have hmem : candle ∈ candles.drop (i + 1) := by
    refine List.mem_of_getElem? (i := m - (i + 1)) ?_
    rw [List.getElem?_drop, ← hm]
    congr 1
    omega
  obtain ⟨found, hfound⟩ : ∃ found, (candles.drop (i + 1)).find?
      (fun candle => BreaksSwing swing candle) = some found :=
    Option.isSome_iff_exists.mp
      (List.find?_isSome.mpr ⟨candle, hmem, decide_eq_true hfirst.breaks⟩)
  rw [hfound, (firstBeyond_of_find? h hconfirming htime hfound).unique h hfirst]

/-- A swing breaks at the first candle beyond it. -/
theorem breakOf_eq_some_iff (h : Ascending candles) {confirming : OHLCVCandle}
    (hconfirming : candles[i]? = some confirming)
    (htime : swing.confirmedAt = confirming.timestamp) {found : ConfirmedBreak} :
    breakOf candles swing = some found ↔
      ∃ candle, FirstBeyond candles swing candle ∧ found = breakBy swing candle := by
  have hfind (candle : OHLCVCandle) :
      (candles.drop (i + 1)).find? (fun candle => BreaksSwing swing candle) = some candle ↔
        FirstBeyond candles swing candle :=
    ⟨firstBeyond_of_find? h hconfirming htime, find?_of_firstBeyond h hconfirming htime⟩
  unfold breakOf
  rw [htime, indexByTime_of_getElem? h hconfirming, Option.bind_some, Option.map_eq_some_iff]
  simp only [hfind, breakBy, eq_comm]

/-- What comes later breaks no swing before the end of the series. -/
theorem firstBeyond_append (h : Ascending (candles ++ later)) :
    FirstBeyond (candles ++ later) swing candle ∧ Covers candles candle.timestamp ↔
      FirstBeyond candles swing candle := by
  constructor
  · rintro ⟨hfirst, hcovers⟩
    exact ⟨h.mem_of_covers hfirst.mem hcovers, hfirst.later, hfirst.breaks,
      fun c hc => hfirst.first c (List.mem_append_left _ hc)⟩
  · intro hfirst
    have hcovers : Covers candles candle.timestamp := ⟨candle, hfirst.mem, le_rfl⟩
    refine ⟨⟨List.mem_append_left _ hfirst.mem, hfirst.later, hfirst.breaks,
      fun c hc hlater hbefore => ?_⟩, hcovers⟩
    exact hfirst.first c (h.mem_of_covers hc ⟨candle, hfirst.mem, hbefore.le⟩) hlater hbefore

theorem exists_swingsAt (h : swing ∈ detectSwings candles leftBars rightBars) :
    ∃ i, swing ∈ swingsAt candles leftBars rightBars i := by
  rw [detectSwings, List.mem_insertionSort, List.mem_flatMap] at h
  obtain ⟨i, -, hi⟩ := h
  exact ⟨i, hi⟩

/-- **Breaks do not repaint.** The breaks up to the end of the series are the same in a longer
one. -/
theorem detectBreaks_append (h : Ascending (candles ++ later)) (leftBars rightBars : ℕ) :
    (detectBreaks (candles ++ later) (detectSwings (candles ++ later) leftBars rightBars)).filter
        (fun found => Covers candles found.breakCandleTime) =
      detectBreaks candles (detectSwings candles leftBars rightBars) := by
  unfold detectBreaks
  rw [Keyed.filter_insertionSort, ← detectSwings_append h leftBars rightBars,
    List.filter_filterMap, List.filterMap_filter]
  congr 1
  refine List.filterMap_congr fun swing hswing => Option.ext fun found => ?_
  obtain ⟨i, hi⟩ := exists_swingsAt hswing
  obtain ⟨-, confirming, -, hconfirming, -, htime⟩ := mem_swingsAt hi
  rw [Option.filter_eq_some_iff, breakOf_eq_some_iff h hconfirming htime]
  split_ifs with hcovers
  · have hlt : i + rightBars < candles.length := by
      rw [htime] at hcovers
      exact (h.covers_iff hconfirming).mp (of_decide_eq_true hcovers)
    rw [List.getElem?_append_left hlt] at hconfirming
    rw [breakOf_eq_some_iff h.left hconfirming htime]
    constructor
    · rintro ⟨⟨candle, hfirst, rfl⟩, hfound⟩
      exact ⟨candle, (firstBeyond_append h).mp ⟨hfirst, of_decide_eq_true hfound⟩, rfl⟩
    · rintro ⟨candle, hfirst, rfl⟩
      obtain ⟨hlong, hcandle⟩ := (firstBeyond_append h).mpr hfirst
      exact ⟨⟨candle, hlong, rfl⟩, decide_eq_true hcandle⟩
  · -- A swing that is confirmed later is broken later.
    refine iff_of_false ?_ (by simp)
    rintro ⟨⟨candle, hfirst, rfl⟩, hfound⟩
    obtain ⟨last, hlast, hle⟩ := of_decide_eq_true hfound
    exact hcovers (decide_eq_true ⟨last, hlast, hfirst.later.le.trans hle⟩)

/-! ## What swings and breaks are -/

/-- Swings and breaks of one series: a swing is broken by the first candle beyond it and by no
other, no candle up to its confirmation is beyond it, and the breaks of one candle have one
direction. -/
structure Unambiguous (candles : List OHLCVCandle) (leftBars rightBars : ℕ) : Prop where
  breaks : ∀ found, found ∈ detectBreaks candles (detectSwings candles leftBars rightBars) ↔
    ∃ swing ∈ detectSwings candles leftBars rightBars, ∃ candle,
      FirstBeyond candles swing candle ∧ found = breakBy swing candle
  once : ((detectBreaks candles (detectSwings candles leftBars rightBars)).map
    fun found => found.brokenSwing).Nodup
  inside : ∀ swing ∈ detectSwings candles leftBars rightBars, ∀ candle ∈ candles,
    swing.candleTime ≤ candle.timestamp → candle.timestamp ≤ swing.confirmedAt →
      ¬ BreaksSwing swing candle
  direction : ∀ found ∈ detectBreaks candles (detectSwings candles leftBars rightBars),
    ∀ other ∈ detectBreaks candles (detectSwings candles leftBars rightBars),
      found.breakCandleTime = other.breakCandleTime → found.direction = other.direction
  latest : ∀ last ∈ (detectBreaks candles (detectSwings candles leftBars rightBars)).getLast?,
    ∀ found ∈ detectBreaks candles (detectSwings candles leftBars rightBars),
      found.breakCandleTime ≤ last.breakCandleTime

theorem mem_detectBreaks_iff (h : Ascending candles) {found : ConfirmedBreak} :
    found ∈ detectBreaks candles (detectSwings candles leftBars rightBars) ↔
      ∃ swing ∈ detectSwings candles leftBars rightBars, ∃ candle,
        FirstBeyond candles swing candle ∧ found = breakBy swing candle := by
  rw [detectBreaks, List.mem_insertionSort, List.mem_filterMap]
  refine exists_congr fun swing => and_congr_right fun hswing => ?_
  obtain ⟨i, hi⟩ := exists_swingsAt hswing
  obtain ⟨-, confirming, -, hconfirming, -, htime⟩ := mem_swingsAt hi
  exact breakOf_eq_some_iff h hconfirming htime

theorem swingsAt_nodup :
    ((swingsAt candles leftBars rightBars i).map ConfirmedSwing.toSwingPoint).Nodup := by
  unfold swingsAt
  split
  · split_ifs <;> simp
  · exact List.nodup_nil

theorem detectSwings_nodup (h : Ascending candles) :
    ((detectSwings candles leftBars rightBars).map ConfirmedSwing.toSwingPoint).Nodup := by
  rw [detectSwings, ((List.perm_insertionSort _ _).map _).nodup_iff, List.map_flatMap,
    List.nodup_flatMap]
  have hdistinct : (List.range' leftBars (candles.length - rightBars - leftBars)).Nodup :=
    List.nodup_range' 1
  refine ⟨fun i _ => swingsAt_nodup, hdistinct.imp fun hne point hpoint hpoint' => hne ?_⟩
  obtain ⟨swing, hswing, rfl⟩ := List.mem_map.mp hpoint
  obtain ⟨other, hother, hsame⟩ := List.mem_map.mp hpoint'
  obtain ⟨pivot, -, hpivot, -, htime, -⟩ := mem_swingsAt hswing
  obtain ⟨pivot', -, hpivot', -, htime', -⟩ := mem_swingsAt hother
  refine h.times.index_eq hpivot hpivot' ?_
  rw [← htime, ← htime', hsame]

theorem detectBreaks_nodup (h : Ascending candles) :
    ((detectBreaks candles (detectSwings candles leftBars rightBars)).map
      fun found => found.brokenSwing).Nodup := by
  rw [detectBreaks, ((List.perm_insertionSort _ _).map _).nodup_iff]
  refine (detectSwings_nodup h).sublist
    (Keyed.map_filterMap_sublist (fun swing found hfound => ?_) _)
  obtain ⟨n, -, hfound⟩ := Option.bind_eq_some_iff.mp hfound
  obtain ⟨candle, -, rfl⟩ := Option.map_eq_some_iff.mp hfound
  rfl

/-- No candle up to the confirmation closes beyond the swing. -/
theorem not_breaksSwing_of_inside (h : Ascending candles)
    (hswing : swing ∈ detectSwings candles leftBars rightBars) (hcandle : candle ∈ candles)
    (hfrom : swing.candleTime ≤ candle.timestamp) (hto : candle.timestamp ≤ swing.confirmedAt) :
    ¬ BreaksSwing swing candle := by
  obtain ⟨i, hi⟩ := exists_swingsAt hswing
  obtain ⟨pivot, confirming, hpivot, hconfirming, htime, hconfirmed⟩ := mem_swingsAt hi
  obtain ⟨marked, hmarked⟩ := swingsAt_marked hi
  cases hmarked.pivot_eq.symm.trans hpivot
  obtain ⟨m, hm⟩ := List.mem_iff_getElem?.mp hcandle
  have hlow : i ≤ m := not_lt.mp ((h.lt hm hpivot).not.mp (not_lt.mpr (htime ▸ hfrom)))
  have hhigh : m ≤ i + rightBars :=
    not_lt.mp ((h.lt hconfirming hm).not.mp (not_lt.mpr (hconfirmed ▸ hto)))
  have hprice := hmarked.price
  unfold BreaksSwing
  rcases hlow.eq_or_lt with rfl | hlt
  · cases hm.symm.trans hpivot
    cases hkind : swing.kind <;> rw [hkind] at hprice <;> dsimp only at hprice ⊢ <;> rw [hprice]
    · exact not_lt.mpr candle.closeInRange.2
    · exact not_lt.mpr candle.closeInRange.1
  · have hright := hmarked.right m candle hlt hhigh hm
    cases hkind : swing.kind <;> rw [hkind] at hprice hright <;> dsimp only at hprice hright ⊢ <;>
      rw [hprice]
    · exact not_lt.mpr (candle.closeInRange.2.trans hright.le)
    · exact not_lt.mpr (hright.le.trans candle.closeInRange.1)

theorem unambiguous (h : Ascending candles) (leftBars rightBars : ℕ) :
    Unambiguous candles leftBars rightBars where
  breaks _ := mem_detectBreaks_iff h
  once := detectBreaks_nodup h
  inside _ hswing _ := not_breaksSwing_of_inside h hswing
  direction found hfound other hother htime := by
    obtain ⟨s, hs, hbreak⟩ := List.mem_filterMap.mp ((List.mem_insertionSort _).mp hfound)
    obtain ⟨s', hs', hbreak'⟩ := List.mem_filterMap.mp ((List.mem_insertionSort _).mp hother)
    exact same_direction_of_same_candle h.times hs hs' hbreak hbreak' htime
  latest last hlast found hfound := by
    have hsorted : (detectBreaks candles (detectSwings candles leftBars rightBars)).Pairwise
        fun a b => a.breakCandleTime ≤ b.breakCandleTime := detectBreaks_pairwise _
    obtain ⟨before, hsplit⟩ := List.getLast?_eq_some_iff.mp hlast
    rw [hsplit] at hsorted hfound
    rcases List.mem_append.mp hfound with hmem | hmem
    · exact (List.pairwise_append.mp hsorted).2.2 found hmem last (List.mem_singleton_self last)
    · rw [List.mem_singleton.mp hmem]

/-! ## The contiguous run -/

theorem contiguousRun_eq_self {duration : Timestamp} {candles : List OHLCVCandle}
    (h : candles.IsChain fun a b => a.timestamp - b.timestamp = duration) :
    contiguousRun duration candles = candles := by
  induction candles using contiguousRun.induct with
  | duration => exact duration
  | case1 => rfl
  | case2 candle => rfl
  | case3 candle previous older hgap ih =>
      rw [contiguousRun, if_pos hgap, ih (List.isChain_cons_cons.mp h).2]
  | case4 candle previous older hgap =>
      exact absurd (List.isChain_cons_cons.mp h).1 hgap

theorem contiguousTail_eq_self {timeframe : Timeframe} (h : Contiguous timeframe candles) :
    contiguousTail candles timeframe = candles := by
  rw [contiguousTail, contiguousRun_eq_self (List.isChain_reverse.mpr h), List.reverse_reverse]

/-- What the series confirms of a longer one is all of its own. -/
structure NoRepaint (candles later : List OHLCVCandle) (leftBars rightBars : ℕ) : Prop where
  swings : (detectSwings (candles ++ later) leftBars rightBars).filter
      (fun swing => Covers candles swing.confirmedAt) =
    detectSwings candles leftBars rightBars
  breaks : (detectBreaks (candles ++ later)
        (detectSwings (candles ++ later) leftBars rightBars)).filter
      (fun found => Covers candles found.breakCandleTime) =
    detectBreaks candles (detectSwings candles leftBars rightBars)

/-- **Market structure is sound.** It does not look ahead, does not repaint and is unambiguous, for
every series, every longer one and every number of neighbours; and a contiguous series is all that
the features see. -/
theorem marketStructure_sound (candles later : List OHLCVCandle) (leftBars rightBars : ℕ)
    (h : Ascending (candles ++ later)) :
    NoRepaint candles later leftBars rightBars ∧
      Unambiguous (candles ++ later) leftBars rightBars ∧
      ∀ timeframe, Contiguous timeframe (candles ++ later) →
        contiguousTail candles timeframe = candles ∧
          contiguousTail (candles ++ later) timeframe = candles ++ later :=
  ⟨⟨detectSwings_append h leftBars rightBars, detectBreaks_append h leftBars rightBars⟩,
    unambiguous h leftBars rightBars, fun _ hcontiguous =>
      ⟨contiguousTail_eq_self hcontiguous.left_of_append, contiguousTail_eq_self hcontiguous⟩⟩

/-- A candle of one price. -/
def quoteCandle (n : ℤ) (price : Price) : OHLCVCandle := .still (n * minutes 15) price 0

/-- A peak that a later close breaks. -/
theorem marketStructure_sound_peak :
    NoRepaint [quoteCandle 0 1, quoteCandle 1 2, quoteCandle 2 1] [quoteCandle 3 3] 1 1 ∧
      Unambiguous ([quoteCandle 0 1, quoteCandle 1 2, quoteCandle 2 1] ++ [quoteCandle 3 3]) 1 1 ∧
      (detectBreaks ([quoteCandle 0 1, quoteCandle 1 2, quoteCandle 2 1] ++ [quoteCandle 3 3])
        (detectSwings ([quoteCandle 0 1, quoteCandle 1 2, quoteCandle 2 1] ++ [quoteCandle 3 3])
          1 1)).length = 1 := by
  have hascending : Ascending ([quoteCandle 0 1, quoteCandle 1 2, quoteCandle 2 1] ++
      [quoteCandle 3 3]) := by
    unfold Ascending
    decide
  obtain ⟨hrepaint, hunambiguous, -⟩ := marketStructure_sound
    [quoteCandle 0 1, quoteCandle 1 2, quoteCandle 2 1] [quoteCandle 3 3] 1 1 hascending
  exact ⟨hrepaint, hunambiguous, by decide +kernel⟩

end TradingAdvisor
