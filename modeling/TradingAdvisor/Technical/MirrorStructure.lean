import Mathlib.Data.List.Find
import Mathlib.Data.String.Basic
import TradingAdvisor.Technical.MarketStructure
import TradingAdvisor.Technical.Mirror

/-!
# Mirrored market structure

In a mirrored series highs and lows change places, and so do the directions of the breaks. Breaks
are sorted by candle and then by direction, so the order could favour a direction; it cannot,
because no candle breaks a high and a low.

* `detectSwings_mirror` — the swings of a mirrored series;
* `same_direction_of_same_candle` — **the breaks of one candle have one direction**;
* `computeMarketStructureFeatures_mirror` — the directions of the breaks change places, in order.
-/

namespace TradingAdvisor

/-- The other extreme. -/
def SwingKind.flip : SwingKind → SwingKind
  | high => low
  | low => high

/-- The other direction. -/
def BreakDirection.flip : BreakDirection → BreakDirection
  | upwardBreak => downwardBreak
  | downwardBreak => upwardBreak

/-- The swing of the mirrored series. -/
def ConfirmedSwing.mirror (c : Price) (swing : ConfirmedSwing) : ConfirmedSwing :=
  ⟨⟨swing.kind.flip, swing.candleTime, c - swing.price⟩, swing.confirmedAt⟩

variable {c : Price} {candles : List OHLCVCandle} {timeframe : Timeframe}
  {leftBars rightBars i j n : ℕ} {swing : ConfirmedSwing} {candle : OHLCVCandle}

/-! ## Mirrored swings -/

theorem bars_mirror : bars (candles.map (OHLCVCandle.mirror c)) leftBars rightBars i =
    (bars candles leftBars rightBars i).map (OHLCVCandle.mirror c) := by
  rw [bars, bars, List.map_append, List.map_drop, List.map_take, List.map_take, List.map_drop]

theorem mem_of_mem_bars (h : candle ∈ bars candles leftBars rightBars i) : candle ∈ candles := by
  rcases List.mem_append.mp h with h | h
  · exact List.mem_of_mem_take (List.mem_of_mem_drop h)
  · exact List.mem_of_mem_drop (List.mem_of_mem_take h)

theorem swingsAt_mirror (h : ∀ candle ∈ candles, candle.Within c) :
    (swingsAt (candles.map (OHLCVCandle.mirror c)) leftBars rightBars i).Perm
      ((swingsAt candles leftBars rightBars i).map (ConfirmedSwing.mirror c)) := by
  unfold swingsAt
  rw [List.getElem?_map, List.getElem?_map, bars_mirror]
  cases hpivot : candles[i]? with
  | none => exact List.Perm.refl _
  | some pivot =>
      cases hconfirming : candles[i + rightBars]? with
      | none => exact List.Perm.refl _
      | some confirming =>
          have hp := h pivot (List.mem_of_getElem? hpivot)
          have hhigh : (∀ b ∈ (bars candles leftBars rightBars i).map (OHLCVCandle.mirror c),
              b.high < (pivot.mirror c).high) ↔
                ∀ b ∈ bars candles leftBars rightBars i, pivot.low < b.low := by
            rw [List.forall_mem_map]
            exact forall₂_congr fun b hb => mirror_high_lt (h b (mem_of_mem_bars hb)) hp
          have hlow : (∀ b ∈ (bars candles leftBars rightBars i).map (OHLCVCandle.mirror c),
              (pivot.mirror c).low < b.low) ↔
                ∀ b ∈ bars candles leftBars rightBars i, b.high < pivot.high := by
            rw [List.forall_mem_map]
            exact forall₂_congr fun b hb => mirror_low_lt hp (h b (mem_of_mem_bars hb))
          simp only [Option.map_some, hhigh, hlow, List.map_append]
          refine List.perm_append_comm.trans (List.Perm.append ?_ ?_)
          · split_ifs <;> exact List.Perm.refl _
          · split_ifs <;> exact List.Perm.refl _

theorem detectSwings_mirror (h : ∀ candle ∈ candles, candle.Within c) :
    (detectSwings (candles.map (OHLCVCandle.mirror c)) leftBars rightBars).Perm
      ((detectSwings candles leftBars rightBars).map (ConfirmedSwing.mirror c)) := by
  unfold detectSwings
  rw [List.length_map]
  refine (List.perm_insertionSort _ _).trans (.trans ?_
    ((List.perm_insertionSort _ _).symm.map (ConfirmedSwing.mirror c)))
  rw [List.map_flatMap]
  exact List.Perm.flatMap_left _ fun i _ => swingsAt_mirror h

/-! ## Positions -/

/-- What marks a swing: the pivot, its neighbours and the candle that confirms it. -/
structure MarkedAt (candles : List OHLCVCandle) (rightBars : ℕ) (swing : ConfirmedSwing) (i : ℕ)
    (pivot : OHLCVCandle) : Prop where
  pivot_eq : candles[i]? = some pivot
  confirmed : ∃ confirming, candles[i + rightBars]? = some confirming ∧
    swing.confirmedAt = confirming.timestamp
  price : swing.price = match swing.kind with | .high => pivot.high | .low => pivot.low
  right : ∀ m candle, i < m → m ≤ i + rightBars → candles[m]? = some candle →
    match swing.kind with
    | .high => candle.high < pivot.high
    | .low => pivot.low < candle.low

theorem mem_bars_of_right (h : candles[j]? = some candle) (hij : i < j) (hji : j ≤ i + rightBars) :
    candle ∈ bars candles leftBars rightBars i := by
  refine List.mem_append_right _ (List.mem_of_getElem? (i := j - (i + 1)) ?_)
  rw [List.getElem?_take, if_pos (by omega), List.getElem?_drop, ← h]
  congr 1
  omega

theorem swingsAt_marked (h : swing ∈ swingsAt candles leftBars rightBars i) :
    ∃ pivot, MarkedAt candles rightBars swing i pivot := by
  unfold swingsAt at h
  split at h
  · rename_i pivot confirming hpivot hconfirming
    rcases List.mem_append.mp h with h | h
    · split_ifs at h with hbars
      · obtain rfl := List.mem_singleton.mp h
        exact ⟨pivot, hpivot, ⟨confirming, hconfirming, rfl⟩, rfl, fun m candle him hmi hm =>
          hbars candle (mem_bars_of_right hm him hmi)⟩
      · cases h
    · split_ifs at h with hbars
      · obtain rfl := List.mem_singleton.mp h
        exact ⟨pivot, hpivot, ⟨confirming, hconfirming, rfl⟩, rfl, fun m candle him hmi hm =>
          hbars candle (mem_bars_of_right hm him hmi)⟩
      · cases h
  · cases h

theorem detectSwings_marked (h : swing ∈ detectSwings candles leftBars rightBars) :
    ∃ i pivot, MarkedAt candles rightBars swing i pivot := by
  rw [detectSwings, List.mem_insertionSort, List.mem_flatMap] at h
  obtain ⟨i, -, h⟩ := h
  exact ⟨i, swingsAt_marked h⟩

/-- The times of a contiguous run fall. -/
theorem contiguousRun_pairwise {duration : Timestamp} (hd : 0 < duration)
    (candles : List OHLCVCandle) :
    (contiguousRun duration candles).Pairwise fun a b => b.timestamp < a.timestamp := by
  induction candles using contiguousRun.induct with
  | duration => exact duration
  | case1 => exact List.Pairwise.nil
  | case2 candle => exact List.pairwise_singleton _ _
  | case3 candle previous older hgap ih =>
      rw [contiguousRun, if_pos hgap]
      refine List.pairwise_cons.mpr ⟨fun b hb => ?_, ih⟩
      have hprev : previous.timestamp < candle.timestamp := by
        have : candle.timestamp - previous.timestamp = duration := hgap
        exact Int.lt_of_sub_pos (by rw [this]; exact hd)
      obtain ⟨rest, hrest⟩ : ∃ rest, contiguousRun duration (previous :: older) =
          previous :: rest := by
        cases older with
        | nil => exact ⟨[], rfl⟩
        | cons next older =>
            rw [contiguousRun]
            split <;> exact ⟨_, rfl⟩
      rw [hrest] at hb ih
      rcases List.mem_cons.mp hb with rfl | hb
      · exact hprev
      · exact (List.rel_of_pairwise_cons ih hb).trans hprev
  | case4 candle previous older hgap =>
      rw [contiguousRun, if_neg hgap]
      exact List.pairwise_singleton _ _

/-- No time comes twice. -/
def TimesDistinct (candles : List OHLCVCandle) : Prop :=
  (candles.map OHLCVCandle.timestamp).Nodup

theorem contiguousTail_times : TimesDistinct (contiguousTail candles timeframe) := by
  rw [TimesDistinct, contiguousTail, List.map_reverse, List.nodup_reverse]
  exact List.pairwise_map.mpr
    ((contiguousRun_pairwise (timeframeDuration_pos timeframe) _).imp fun hlt => hlt.ne')

theorem TimesDistinct.index_eq {a b : OHLCVCandle} (h : TimesDistinct candles)
    (ha : candles[i]? = some a) (hb : candles[j]? = some b) (hab : a.timestamp = b.timestamp) :
    i = j := by
  have hi : (candles.map OHLCVCandle.timestamp)[i]? = some a.timestamp := by
    rw [List.getElem?_map, ha]
    rfl
  have hj : (candles.map OHLCVCandle.timestamp)[j]? = some a.timestamp := by
    rw [List.getElem?_map, hb, hab]
    rfl
  obtain ⟨hilt, -⟩ := List.getElem?_eq_some_iff.mp hi
  exact (List.getElem?_inj hilt h).mp (hi.trans hj.symm)

theorem indexByTime_some {time : Timestamp} (h : indexByTime candles time = some n) :
    ∃ candle, candles[n]? = some candle ∧ candle.timestamp = time := by
  obtain ⟨⟨candle, m⟩, hfind, rfl⟩ := Option.map_eq_some_iff.mp h
  refine ⟨candle, ?_, by simpa using List.find?_some hfind⟩
  exact List.mem_zipIdx_iff_getElem?.mp (List.mem_reverse.mp (List.mem_of_find?_eq_some hfind))

/-! ## The candle that breaks -/

/-- The swing breaks at position `j` and nowhere between its confirmation and `j`. -/
structure BrokenAt (candles : List OHLCVCandle) (rightBars : ℕ) (swing : ConfirmedSwing)
    (i j : ℕ) (candle : OHLCVCandle) : Prop where
  later : i + rightBars < j
  candle_eq : candles[j]? = some candle
  breaks : BreaksSwing swing candle
  first : ∀ m candle, i + rightBars < m → m < j → candles[m]? = some candle →
    ¬ BreaksSwing swing candle

theorem breakOf_brokenAt {pivot : OHLCVCandle} {found : ConfirmedBreak}
    (hd : TimesDistinct candles) (hm : MarkedAt candles rightBars swing i pivot)
    (h : breakOf candles swing = some found) :
    ∃ j candle, BrokenAt candles rightBars swing i j candle ∧
      found.breakCandleTime = candle.timestamp ∧ found.direction = swing.kind.breakDirection := by
  obtain ⟨n, hn, h⟩ := Option.bind_eq_some_iff.mp h
  obtain ⟨candle, hfind, rfl⟩ := Option.map_eq_some_iff.mp h
  obtain ⟨confirming, hconfirming, htime⟩ := hm.confirmed
  obtain ⟨at', hat, htime'⟩ := indexByTime_some hn
  obtain rfl : n = i + rightBars := hd.index_eq hat hconfirming (htime'.trans htime)
  obtain ⟨hbreaks, before, after, hsplit, hbefore⟩ := List.find?_eq_some_iff_append.mp hfind
  have hget : ∀ m, (candles.drop (i + rightBars + 1))[m]? = candles[i + rightBars + 1 + m]? :=
    fun m => List.getElem?_drop
  refine ⟨i + rightBars + 1 + before.length, candle, ⟨by omega, ?_, by simpa using hbreaks, ?_⟩,
    rfl, rfl⟩
  · rw [← hget, hsplit, List.getElem?_append_right (le_refl _), Nat.sub_self]
    rfl
  · intro m earlier hlater hbefore' hm' hbroken
    obtain ⟨offset, rfl⟩ : ∃ offset, m = i + rightBars + 1 + offset :=
      ⟨m - (i + rightBars + 1), by omega⟩
    rw [← hget, hsplit, List.getElem?_append_left (by omega)] at hm'
    have hnot := hbefore earlier (List.mem_of_getElem? hm')
    simp [hbroken] at hnot

/-- A high and a low that the same candle breaks: whichever pivot is the later one already broke
the other swing, or stood in its way. -/
theorem not_both_broken {high low : ConfirmedSwing} {k : ℕ} {p q : OHLCVCandle}
    (hh : high.kind = .high) (hl : low.kind = .low)
    (hp : MarkedAt candles rightBars high i p) (hq : MarkedAt candles rightBars low k q)
    (hbh : BrokenAt candles rightBars high i j candle)
    (hbl : BrokenAt candles rightBars low k j candle) : False := by
  have hprice : high.price = p.high := by rw [hp.price, hh]
  have hprice' : low.price = q.low := by rw [hq.price, hl]
  have habove : p.high < candle.close := by
    have := hbh.breaks
    rw [BreaksSwing, hh] at this
    rwa [← hprice]
  have hbelow : candle.close < q.low := by
    have := hbl.breaks
    rw [BreaksSwing, hl] at this
    rwa [← hprice']
  have hgap : p.high < q.low := habove.trans hbelow
  rcases lt_trichotomy i k with hik | rfl | hki
  · by_cases hright : k ≤ i + rightBars
    · have hq' := hp.right k q hik hright hq.pivot_eq
      rw [hh] at hq'
      exact absurd (hq'.trans hgap) (not_lt.mpr (q.openInRange.1.trans q.openInRange.2))
    · refine hbh.first k q (by omega) (by have := hbl.later; omega) hq.pivot_eq ?_
      rw [BreaksSwing, hh]
      exact (hprice ▸ hgap).trans_le q.closeInRange.1
  · cases hp.pivot_eq.symm.trans hq.pivot_eq
    exact absurd hgap (not_lt.mpr (p.openInRange.1.trans p.openInRange.2))
  · by_cases hright : i ≤ k + rightBars
    · have hp' := hq.right i p hki hright hp.pivot_eq
      rw [hl] at hp'
      exact absurd (hgap.trans hp') (not_lt.mpr (p.openInRange.1.trans p.openInRange.2))
    · refine hbl.first i p (by omega) (by have := hbh.later; omega) hp.pivot_eq ?_
      rw [BreaksSwing, hl]
      exact p.closeInRange.2.trans_lt (hprice' ▸ hgap)

/-- **The breaks of one candle have one direction.** -/
theorem same_direction_of_same_candle {s s' : ConfirmedSwing} {b b' : ConfirmedBreak}
    (hd : TimesDistinct candles) (hs : s ∈ detectSwings candles leftBars rightBars)
    (hs' : s' ∈ detectSwings candles leftBars rightBars) (hb : breakOf candles s = some b)
    (hb' : breakOf candles s' = some b') (htime : b.breakCandleTime = b'.breakCandleTime) :
    b.direction = b'.direction := by
  obtain ⟨i, p, hp⟩ := detectSwings_marked hs
  obtain ⟨k, q, hq⟩ := detectSwings_marked hs'
  obtain ⟨j, candle, hj, ht, hdir⟩ := breakOf_brokenAt hd hp hb
  obtain ⟨j', candle', hj', ht', hdir'⟩ := breakOf_brokenAt hd hq hb'
  have hsame : candle.timestamp = candle'.timestamp := by rw [← ht, ← ht', htime]
  obtain rfl : j = j' := hd.index_eq hj.candle_eq hj'.candle_eq hsame
  cases hj.candle_eq.symm.trans hj'.candle_eq
  rw [hdir, hdir']
  cases hk : s.kind <;> cases hk' : s'.kind
  · rfl
  · exact (not_both_broken hk hk' hp hq hj hj').elim
  · exact (not_both_broken hk' hk hq hp hj' hj).elim
  · rfl

/-! ## Mirrored breaks -/

/-- The break of the mirrored series. -/
def ConfirmedBreak.mirror (c : Price) (b : ConfirmedBreak) : ConfirmedBreak :=
  ⟨⟨b.direction.flip, ⟨b.brokenSwing.kind.flip, b.brokenSwing.candleTime,
    c - b.brokenSwing.price⟩⟩, b.breakCandleTime⟩

theorem breaksSwing_mirror (hs : swing.price ≤ c) (hc : candle.Within c) :
    BreaksSwing (swing.mirror c) (candle.mirror c) ↔ BreaksSwing swing candle := by
  have hswing : ((swing.mirror c).price : ℚ) = c - swing.price := NNRat.coe_sub hs
  have hclose := OHLCVCandle.mirror_close hc
  cases hk : swing.kind with
  | high =>
      have hk' : (swing.mirror c).kind = .low := by
        change swing.kind.flip = _
        rw [hk]
        rfl
      rw [BreaksSwing, hk', BreaksSwing, hk]
      dsimp only
      rw [← NNRat.coe_lt_coe, hswing, hclose, sub_lt_sub_iff_left, NNRat.coe_lt_coe]
  | low =>
      have hk' : (swing.mirror c).kind = .high := by
        change swing.kind.flip = _
        rw [hk]
        rfl
      rw [BreaksSwing, hk', BreaksSwing, hk]
      dsimp only
      rw [← NNRat.coe_lt_coe, hswing, hclose, sub_lt_sub_iff_left, NNRat.coe_lt_coe]

theorem indexByTime_mirror (time : Timestamp) :
    indexByTime (candles.map (OHLCVCandle.mirror c)) time = indexByTime candles time := by
  rw [indexByTime, indexByTime, List.zipIdx_map, ← List.map_reverse, List.find?_map,
    Option.map_map]
  rfl

theorem breakOf_mirror (h : ∀ candle ∈ candles, candle.Within c) (hs : swing.price ≤ c) :
    breakOf (candles.map (OHLCVCandle.mirror c)) (swing.mirror c) =
      (breakOf candles swing).map (ConfirmedBreak.mirror c) := by
  have hflip : swing.kind.flip.breakDirection = swing.kind.breakDirection.flip := by
    cases swing.kind <;> rfl
  unfold breakOf
  rw [show (swing.mirror c).confirmedAt = swing.confirmedAt from rfl, indexByTime_mirror]
  cases indexByTime candles swing.confirmedAt with
  | none => rfl
  | some n =>
      have hfind : (candles.drop (n + 1)).find?
          ((fun candle => decide (BreaksSwing (swing.mirror c) candle)) ∘ OHLCVCandle.mirror c) =
          (candles.drop (n + 1)).find? fun candle => BreaksSwing swing candle :=
        List.find?_congr fun candle hmem =>
          decide_eq_decide.mpr (breaksSwing_mirror hs (h candle (List.mem_of_mem_drop hmem)))
      rw [Option.bind_some, Option.bind_some, ← List.map_drop, List.find?_map, hfind]
      cases (candles.drop (n + 1)).find? fun candle => BreaksSwing swing candle with
      | none => rfl
      | some candle =>
          refine congrArg some ?_
          rw [ConfirmedBreak.mirror]
          dsimp only
          rw [← hflip]
          rfl

theorem detectSwings_price_le (h : ∀ candle ∈ candles, candle.Within c)
    (hs : swing ∈ detectSwings candles leftBars rightBars) : swing.price ≤ c := by
  obtain ⟨i, pivot, hm⟩ := detectSwings_marked hs
  have hp := h pivot (List.mem_of_getElem? hm.pivot_eq)
  rw [hm.price]
  cases swing.kind
  · exact hp.high_le
  · exact hp.low_le

/-- The breaks that the swings lead to, before they are sorted. -/
theorem filterMap_breakOf_mirror (h : ∀ candle ∈ candles, candle.Within c) :
    ((detectSwings (candles.map (OHLCVCandle.mirror c)) leftBars rightBars).filterMap
        (breakOf (candles.map (OHLCVCandle.mirror c)))).Perm
      (((detectSwings candles leftBars rightBars).filterMap (breakOf candles)).map
        (ConfirmedBreak.mirror c)) := by
  refine ((detectSwings_mirror h).filterMap _).trans ?_
  rw [List.filterMap_map, List.map_filterMap]
  refine List.Perm.of_eq (List.filterMap_congr fun swing hs => ?_)
  exact breakOf_mirror h (detectSwings_price_le h hs)

/-- The candle and the direction of a break. -/
def ConfirmedBreak.key (b : ConfirmedBreak) : Timestamp × BreakDirection :=
  (b.breakCandleTime, b.direction)

instance breakLe_total : Std.Total breakLe := by
  refine ⟨fun a b => ?_⟩
  rcases lt_trichotomy a.breakCandleTime b.breakCandleTime with hlt | heq | hgt
  · exact Or.inl (Or.inl hlt)
  · rcases le_total a.direction.value b.direction.value with hle | hle
    · exact Or.inl (Or.inr ⟨heq, hle⟩)
    · exact Or.inr (Or.inr ⟨heq.symm, hle⟩)
  · exact Or.inr (Or.inl hgt)

instance breakLe_trans : IsTrans ConfirmedBreak breakLe := by
  refine ⟨fun a b d hab hbd => ?_⟩
  rcases hab with hab | ⟨hab, hab'⟩ <;> rcases hbd with hbd | ⟨hbd, hbd'⟩
  · exact Or.inl (hab.trans hbd)
  · exact Or.inl (hbd ▸ hab)
  · exact Or.inl (hab ▸ hbd)
  · exact Or.inr ⟨hab.trans hbd, hab'.trans hbd'⟩

theorem detectBreaks_pairwise (swings : List ConfirmedSwing) :
    (detectBreaks candles swings).Pairwise fun a b => a.breakCandleTime ≤ b.breakCandleTime := by
  refine (List.pairwise_insertionSort breakLe _).imp fun hab => ?_
  rcases hab with hlt | ⟨heq, -⟩
  · exact hlt.le
  · exact heq.le

/-- The directions of the breaks of a mirrored series, in order, are the other ones. -/
theorem detectBreaks_mirror (leftBars rightBars : ℕ)
    (h : ∀ candle ∈ candles, candle.Within c) (hd : TimesDistinct candles) :
    (detectBreaks (candles.map (OHLCVCandle.mirror c))
        (detectSwings (candles.map (OHLCVCandle.mirror c)) leftBars rightBars)).map
          ConfirmedBreak.key =
      ((detectBreaks candles (detectSwings candles leftBars rightBars)).map
        ConfirmedBreak.key).map (Prod.map id BreakDirection.flip) := by
  have hperm : ((detectBreaks (candles.map (OHLCVCandle.mirror c))
      (detectSwings (candles.map (OHLCVCandle.mirror c)) leftBars rightBars)).map
        ConfirmedBreak.key).Perm
      (((detectBreaks candles (detectSwings candles leftBars rightBars)).map
        ConfirmedBreak.key).map (Prod.map id BreakDirection.flip)) := by
    rw [List.map_map]
    refine ((List.perm_insertionSort _ _).map _).trans (((filterMap_breakOf_mirror h).map _).trans
      (.trans ?_ ((List.perm_insertionSort _ _).symm.map _)))
    rw [List.map_map]
    rfl
  have hsorted : ∀ breaks : List ConfirmedBreak,
      (breaks.Pairwise fun a b => a.breakCandleTime ≤ b.breakCandleTime) →
        (breaks.map ConfirmedBreak.key).Pairwise fun a b => a.1 ≤ b.1 :=
    fun _ hbreaks => List.pairwise_map.mpr hbreaks
  refine List.Perm.eq_of_pairwise ?_ (hsorted _ (detectBreaks_pairwise _))
    (List.pairwise_map.mpr (hsorted _ (detectBreaks_pairwise _))) hperm
  · intro a b ha hb hab hba
    have htime : a.1 = b.1 := le_antisymm hab hba
    obtain ⟨x, hx, rfl⟩ := List.mem_map.mp (hperm.mem_iff.mp ha)
    obtain ⟨y, hy, rfl⟩ := List.mem_map.mp hb
    obtain ⟨found, hfound, rfl⟩ := List.mem_map.mp hx
    obtain ⟨found', hfound', rfl⟩ := List.mem_map.mp hy
    obtain ⟨s, hs, hbreak⟩ := List.mem_filterMap.mp ((List.mem_insertionSort _).mp hfound)
    obtain ⟨s', hs', hbreak'⟩ := List.mem_filterMap.mp ((List.mem_insertionSort _).mp hfound')
    have hdir := same_direction_of_same_candle hd hs hs' hbreak hbreak' htime
    exact Prod.ext htime (congrArg BreakDirection.flip hdir)

/-- **The directions of the breaks change places, in order.** -/
theorem computeMarketStructureFeatures_mirror (h : ∀ candle ∈ candles, candle.Within c) :
    (computeMarketStructureFeatures timeframe (candles.map (OHLCVCandle.mirror c)) leftBars
        rightBars).breaks.map StructuralBreak.direction =
      ((computeMarketStructureFeatures timeframe candles leftBars rightBars).breaks.map
        StructuralBreak.direction).map BreakDirection.flip ∧
    (computeMarketStructureFeatures timeframe (candles.map (OHLCVCandle.mirror c)) leftBars
        rightBars).quality =
      (computeMarketStructureFeatures timeframe candles leftBars rightBars).quality := by
  have htail : ∀ candle ∈ contiguousTail candles timeframe, candle.Within c :=
    fun candle hmem => h candle (contiguousTail_subset hmem)
  have hd : TimesDistinct (contiguousTail candles timeframe) := contiguousTail_times
  unfold computeMarketStructureFeatures
  rw [contiguousTail_mirror]
  generalize contiguousTail candles timeframe = tail at htail hd ⊢
  simp only [List.map_eq_nil_iff, List.length_map]
  by_cases hnil : tail = []
  · rw [if_pos hnil, if_pos hnil]
    exact ⟨rfl, rfl⟩
  · rw [if_neg hnil, if_neg hnil]
    refine ⟨?_, rfl⟩
    have hkeys := congrArg (List.map Prod.snd)
      (detectBreaks_mirror leftBars rightBars htail hd)
    simp only [List.map_map] at hkeys ⊢
    exact hkeys

end TradingAdvisor
