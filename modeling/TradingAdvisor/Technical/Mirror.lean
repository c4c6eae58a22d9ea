import Mathlib.Algebra.BigOperators.Group.List.Basic
import Mathlib.Algebra.Order.Group.MinMax
import Mathlib.Data.Sign.Basic
import Mathlib.Tactic.FieldSimp
import Mathlib.Tactic.Linarith
import Mathlib.Tactic.Ring
import TradingAdvisor.Technical.Indicators

/-!
# Mirrored candles

Every price `p` of a candle is replaced by `c - p`, so that high and low change places. What the
calculators compute changes sign, changes places, or stays.

* `OHLCVCandle.mirror`, `Within` — the mirrored candle;
* `changePct_opposite`, `olsSlope_reflect`, `exponentialMovingAverage_reflect`,
  `wilderRsi_reflect` — **the indicators of reflected closes**;
* `computeTrendFeatures_mirror`, … — the blocks.
-/

namespace TradingAdvisor

/-! ## Candles -/

theorem price_sub_le_sub_left {a b : Price} (h : a ≤ b) (c : Price) : c - b ≤ c - a := by
  rw [NNRat.sub_def, NNRat.sub_def]
  exact NNRat.toNNRat_mono (sub_le_sub_left (NNRat.coe_le_coe.mpr h) _)

/-- The candle with every price `p` replaced by `c - p`. -/
def OHLCVCandle.mirror (c : Price) (candle : OHLCVCandle) : OHLCVCandle where
  timestamp := candle.timestamp
  openPrice := c - candle.openPrice
  high := c - candle.low
  low := c - candle.high
  close := c - candle.close
  volume := candle.volume
  openInRange :=
    ⟨price_sub_le_sub_left candle.openInRange.2 c, price_sub_le_sub_left candle.openInRange.1 c⟩
  closeInRange :=
    ⟨price_sub_le_sub_left candle.closeInRange.2 c, price_sub_le_sub_left candle.closeInRange.1 c⟩

/-- All prices of the candle lie strictly between zero and `c`. -/
def OHLCVCandle.Within (c : Price) (candle : OHLCVCandle) : Prop :=
  0 < candle.low ∧ candle.high < c

instance (c : Price) (candle : OHLCVCandle) : Decidable (candle.Within c) :=
  inferInstanceAs (Decidable (_ ∧ _))

variable {c : Price} {candle : OHLCVCandle} {candles : List OHLCVCandle} {timeframe : Timeframe}

namespace OHLCVCandle

@[simp] theorem mirror_timestamp : (candle.mirror c).timestamp = candle.timestamp := rfl

theorem Within.high_le (h : candle.Within c) : candle.high ≤ c := h.2.le

theorem Within.low_le (h : candle.Within c) : candle.low ≤ c :=
  (candle.openInRange.1.trans candle.openInRange.2).trans h.high_le

theorem Within.open_le (h : candle.Within c) : candle.openPrice ≤ c :=
  candle.openInRange.2.trans h.high_le

theorem Within.close_le (h : candle.Within c) : candle.close ≤ c :=
  candle.closeInRange.2.trans h.high_le

theorem mirror_high (h : candle.Within c) : ((candle.mirror c).high : ℚ) = c - candle.low :=
  NNRat.coe_sub h.low_le

theorem mirror_low (h : candle.Within c) : ((candle.mirror c).low : ℚ) = c - candle.high :=
  NNRat.coe_sub h.high_le

theorem mirror_open (h : candle.Within c) :
    ((candle.mirror c).openPrice : ℚ) = c - candle.openPrice :=
  NNRat.coe_sub h.open_le

theorem mirror_close (h : candle.Within c) : ((candle.mirror c).close : ℚ) = c - candle.close :=
  NNRat.coe_sub h.close_le

theorem Within.closeValue_pos (h : candle.Within c) : 0 < candle.closeValue :=
  NNRat.coe_pos.mpr (h.1.trans_le candle.closeInRange.1)

theorem Within.closeValue_lt (h : candle.Within c) : candle.closeValue < c :=
  NNRat.coe_lt_coe.mpr (candle.closeInRange.2.trans_lt h.2)

end OHLCVCandle

theorem contiguousRun_mirror (duration : Timestamp) (candles : List OHLCVCandle) :
    contiguousRun duration (candles.map (OHLCVCandle.mirror c)) =
      (contiguousRun duration candles).map (OHLCVCandle.mirror c) := by
  induction candles using contiguousRun.induct with
  | duration => exact duration
  | case1 => rfl
  | case2 candle => rfl
  | case3 candle previous older hgap ih =>
      have hgap' : (candle.mirror c).timestamp - (previous.mirror c).timestamp = duration := hgap
      rw [List.map_cons, List.map_cons, contiguousRun, if_pos hgap', contiguousRun, if_pos hgap,
        List.map_cons, ← ih, List.map_cons]
  | case4 candle previous older hgap =>
      have hgap' : ¬ (candle.mirror c).timestamp - (previous.mirror c).timestamp = duration := hgap
      rw [List.map_cons, List.map_cons, contiguousRun, if_neg hgap', contiguousRun, if_neg hgap,
        List.map_singleton]

theorem contiguousTail_mirror :
    contiguousTail (candles.map (OHLCVCandle.mirror c)) timeframe =
      (contiguousTail candles timeframe).map (OHLCVCandle.mirror c) := by
  rw [contiguousTail, contiguousTail, ← List.map_reverse, contiguousRun_mirror, List.map_reverse]

theorem contiguousRun_subset (duration : Timestamp) (candles : List OHLCVCandle) :
    contiguousRun duration candles ⊆ candles := by
  induction candles using contiguousRun.induct with
  | duration => exact duration
  | case1 => exact List.Subset.refl _
  | case2 candle => exact List.Subset.refl _
  | case3 candle previous older hgap ih =>
      rw [contiguousRun, if_pos hgap]
      exact List.cons_subset_cons _ ih
  | case4 candle previous older hgap =>
      rw [contiguousRun, if_neg hgap]
      exact List.cons_subset_cons _ (List.nil_subset _)

theorem contiguousTail_subset : contiguousTail candles timeframe ⊆ candles := by
  intro candle h
  exact List.mem_reverse.mp (contiguousRun_subset _ _ (List.mem_reverse.mp h))

theorem consecutive_subset {α : Type} {l : List α} {pair : α × α} (h : pair ∈ consecutive l) :
    pair.1 ∈ l ∧ pair.2 ∈ l :=
  ⟨(List.of_mem_zip h).1, List.mem_of_mem_tail (List.of_mem_zip h).2⟩

theorem rtake_map {α β : Type} (f : α → β) (l : List α) (n : ℕ) :
    (l.map f).rtake n = (l.rtake n).map f := by
  rw [List.rtake, List.rtake, List.length_map, List.map_drop]

theorem closeValue_mirror (h : ∀ candle ∈ candles, candle.Within c) :
    (candles.map (OHLCVCandle.mirror c)).map OHLCVCandle.closeValue =
      (candles.map OHLCVCandle.closeValue).map ((c : ℚ) - ·) := by
  rw [List.map_map, List.map_map]
  exact List.map_congr_left fun candle hmem => OHLCVCandle.mirror_close (h candle hmem)

/-! ## Reflected values -/

variable {k a b : ℚ} {values : List ℚ} {period : ℕ}

/-- The second value lies on the other side of zero. -/
def OppositeSign (a b : ℚ) : Prop := SignType.sign b = -SignType.sign a

theorem oppositeSign_neg (a : ℚ) : OppositeSign a (-a) := Left.sign_neg a

theorem OppositeSign.pos_iff (h : OppositeSign a b) : 0 < b ↔ a < 0 := by
  rw [← sign_eq_one_iff, h, neg_eq_iff_eq_neg, sign_eq_neg_one_iff]

theorem OppositeSign.neg_iff (h : OppositeSign a b) : b < 0 ↔ 0 < a := by
  rw [← sign_eq_neg_one_iff, h, neg_inj, sign_eq_one_iff]

theorem OppositeSign.eq_zero_iff (h : OppositeSign a b) : b = 0 ↔ a = 0 := by
  rw [← sign_eq_zero_iff, h, ← sign_eq_zero_iff (a := a)]
  cases SignType.sign a <;> decide

theorem changePct_opposite (ha : 0 < a) (hak : a < k) (b : ℚ) :
    Option.Rel OppositeSign (changePct a b) (changePct (k - a) (k - b)) := by
  have hbase : 0 < k - a := sub_pos.mpr hak
  rw [changePct, if_pos ha, changePct, if_pos hbase]
  refine Option.Rel.some ?_
  have hsign : ∀ {x : ℚ} (y : ℚ), 0 < x → SignType.sign (y / x * 100) = SignType.sign y := by
    intro x y hx
    rw [div_eq_mul_inv, mul_assoc, sign_mul, sign_pos (mul_pos (inv_pos.mpr hx) (by norm_num)),
      mul_one]
  rw [OppositeSign, hsign _ hbase, hsign _ ha, ← Left.sign_neg]
  congr 1
  ring

theorem sum_reflect (k : ℚ) (values : List ℚ) :
    (values.map (k - ·)).sum = values.length * k - values.sum := by
  induction values with
  | nil => simp
  | cons v values ih =>
      rw [List.map_cons, List.sum_cons, ih, List.length_cons, List.sum_cons]
      push_cast
      ring

theorem sum_map_neg (l : List (ℚ × ℕ)) (f : ℚ × ℕ → ℚ) :
    (l.map fun x => -f x).sum = -(l.map f).sum := by
  induction l with
  | nil => simp
  | cons x l ih =>
      rw [List.map_cons, List.sum_cons, ih, List.map_cons, List.sum_cons]
      ring

theorem olsSlope_reflect (k : ℚ) (values : List ℚ) :
    olsSlope (values.map (k - ·)) = (olsSlope values).map Neg.neg := by
  unfold olsSlope
  dsimp only
  rw [List.length_map]
  by_cases hn : values.length < 2
  · rw [if_pos hn, if_pos hn]
    rfl
  · have hlen : (values.length : ℚ) ≠ 0 := by
      have : values.length ≠ 0 := by omega
      exact_mod_cast this
    have hmean : (values.map (k - ·)).sum / values.length =
        k - values.sum / values.length := by
      rw [sum_reflect]
      field_simp
    rw [if_neg hn, if_neg hn, hmean, List.zipIdx_map, List.map_map]
    split_ifs with hden
    · rfl
    · rw [Option.map_some, ← neg_div, ← sum_map_neg]
      congr 2
      refine congrArg List.sum (List.map_congr_left fun member _ => ?_)
      simp only [Function.comp, Prod.map, id]
      ring

theorem mean_reflect (hlen : values.length = period) (hpos : 0 < period) :
    (values.map (k - ·)).sum / period = k - values.sum / period := by
  have hne : (period : ℚ) ≠ 0 := by exact_mod_cast hpos.ne'
  rw [sum_reflect, hlen]
  field_simp

theorem simpleMovingAverage_reflect (hpos : 0 < period) :
    simpleMovingAverage (values.map (k - ·)) period =
      (simpleMovingAverage values period).map (k - ·) := by
  unfold simpleMovingAverage
  rw [List.length_map]
  split_ifs with hlen
  · rfl
  · have hwindow : (values.rtake period).length = period := by
      rw [List.rtake, List.length_drop]
      omega
    rw [rtake_map, mean_reflect hwindow hpos]
    rfl

theorem scanl_reflect {f : ℚ → ℚ → ℚ} (hf : ∀ x y, f (k - x) (k - y) = k - f x y) (seed : ℚ) :
    (values.map (k - ·)).scanl f (k - seed) = (values.scanl f seed).map (k - ·) := by
  induction values generalizing seed with
  | nil => rfl
  | cons v values ih =>
      rw [List.map_cons, List.scanl_cons, List.scanl_cons, List.map_cons, hf, ih]

theorem exponentialMovingAverage_reflect (hpos : 0 < period) :
    exponentialMovingAverage (values.map (k - ·)) period =
      (exponentialMovingAverage values period).map (k - ·) := by
  unfold exponentialMovingAverage
  rw [List.length_map]
  split_ifs with hlen
  · rfl
  · dsimp only
    have hwindow : (values.take period).length = period := by
      rw [List.length_take]
      omega
    rw [← List.map_take, ← List.map_drop, mean_reflect hwindow hpos]
    refine scanl_reflect (fun x y => ?_) _
    ring

/-! ## Gains and losses -/

theorem gains_reflect (k : ℚ) (closes : List ℚ) : gains (closes.map (k - ·)) = losses closes := by
  rw [gains, losses, consecutive_map, List.map_map]
  refine List.map_congr_left fun pair _ => ?_
  have hdiff : k - pair.2 - (k - pair.1) = -(pair.2 - pair.1) := by ring
  simp only [Function.comp, Prod.map, hdiff, Left.neg_pos_iff]

theorem losses_reflect (k : ℚ) (closes : List ℚ) : losses (closes.map (k - ·)) = gains closes := by
  rw [gains, losses, consecutive_map, List.map_map]
  refine List.map_congr_left fun pair _ => ?_
  have hdiff : k - pair.2 - (k - pair.1) = -(pair.2 - pair.1) := by ring
  simp only [Function.comp, Prod.map, hdiff, Left.neg_neg_iff, neg_neg]

theorem gains_nonneg {closes : List ℚ} : ∀ v ∈ gains closes, 0 ≤ v := by
  intro v hv
  obtain ⟨pair, -, rfl⟩ := List.mem_map.mp hv
  dsimp only
  split_ifs with h
  · exact h.le
  · exact le_refl 0

theorem losses_nonneg {closes : List ℚ} : ∀ v ∈ losses closes, 0 ≤ v := by
  intro v hv
  obtain ⟨pair, -, rfl⟩ := List.mem_map.mp hv
  dsimp only
  split_ifs with h
  · exact neg_nonneg.mpr h.le
  · exact le_refl 0

theorem length_gains (closes : List ℚ) : (gains closes).length = (losses closes).length := by
  rw [gains, losses, List.length_map, List.length_map]

theorem wilderSmooth_nonneg (hpos : 0 < period) (h : ∀ v ∈ values, 0 ≤ v) :
    ∀ v ∈ wilderSmooth values period, 0 ≤ v := by
  have hperiod : (1 : ℚ) ≤ period := by exact_mod_cast hpos
  have hscan : ∀ (l : List ℚ) (seed : ℚ), (∀ v ∈ l, 0 ≤ v) → 0 ≤ seed →
      ∀ v ∈ l.scanl (fun average value : ℚ => (average * (period - 1) + value) / period) seed,
        0 ≤ v := by
    intro l
    induction l with
    | nil =>
        intro seed _ hseed v hv
        rw [List.scanl_nil, List.mem_singleton] at hv
        exact hv ▸ hseed
    | cons w l ih =>
        intro seed hl hseed v hv
        rw [List.scanl_cons, List.mem_cons] at hv
        rcases hv with rfl | hv
        · exact hseed
        · refine ih _ (fun u hu => hl u (List.mem_cons_of_mem _ hu)) ?_ v hv
          have hw := hl w List.mem_cons_self
          exact div_nonneg (add_nonneg (mul_nonneg hseed (by linarith)) hw) (by linarith)
  refine hscan _ _ (fun v hv => h v (List.mem_of_mem_drop hv)) ?_
  exact div_nonneg (List.sum_nonneg fun v hv => h v (List.mem_of_mem_take hv)) (by linarith)

theorem rsiOf_swap (ha : 0 ≤ a) (hb : 0 ≤ b) : rsiOf b a = 100 - rsiOf a b := by
  unfold rsiOf
  by_cases ha0 : a = 0 <;> by_cases hb0 : b = 0
  · norm_num [ha0, hb0]
  · norm_num [ha0, hb0]
  · norm_num [ha0, hb0]
  · have hapos : 0 < a := lt_of_le_of_ne ha (Ne.symm ha0)
    have hbpos : 0 < b := lt_of_le_of_ne hb (Ne.symm hb0)
    have hba : 1 + b / a ≠ 0 := (add_pos one_pos (div_pos hbpos hapos)).ne'
    have hab : 1 + a / b ≠ 0 := (add_pos one_pos (div_pos hapos hbpos)).ne'
    simp only [ha0, hb0, and_self, if_false]
    field_simp
    ring

theorem wilderRsi_reflect (k : ℚ) (closes : List ℚ) (hpos : 0 < period) :
    wilderRsi (gains (closes.map (k - ·))) (losses (closes.map (k - ·))) period =
      (wilderRsi (gains closes) (losses closes) period).map (100 - ·) := by
  rw [gains_reflect, losses_reflect, wilderRsi, wilderRsi, length_gains]
  split_ifs with hlen
  · rfl
  · cases hg : (wilderSmooth (gains closes) period).getLast? with
    | none => cases (wilderSmooth (losses closes) period).getLast? <;> rfl
    | some avgGain =>
        cases hl : (wilderSmooth (losses closes) period).getLast? with
        | none => rfl
        | some avgLoss =>
            have hg' := wilderSmooth_nonneg hpos gains_nonneg _ (List.mem_of_getLast? hg)
            have hl' := wilderSmooth_nonneg hpos losses_nonneg _ (List.mem_of_getLast? hl)
            exact congrArg some (rsiOf_swap hg' hl')

/-! ## Ranges -/

theorem trueRanges_mirror (h : ∀ candle ∈ candles, candle.Within c) :
    trueRanges (candles.map (OHLCVCandle.mirror c)) = trueRanges candles := by
  rw [trueRanges, trueRanges, consecutive_map, List.map_map]
  refine List.map_congr_left fun pair hpair => ?_
  obtain ⟨hprev, hcurr⟩ := consecutive_subset hpair
  simp only [Function.comp, Prod.map, OHLCVCandle.mirror_high (h _ hcurr),
    OHLCVCandle.mirror_low (h _ hcurr), OHLCVCandle.mirror_close (h _ hprev)]
  have hrange : (c : ℚ) - pair.2.low - (c - pair.2.high) = pair.2.high - pair.2.low := by ring
  have hlow : (c : ℚ) - pair.2.low - (c - pair.1.close) = -(pair.2.low - pair.1.close) := by ring
  have hhigh : (c : ℚ) - pair.2.high - (c - pair.1.close) = -(pair.2.high - pair.1.close) := by
    ring
  rw [hrange, hlow, hhigh, abs_neg, abs_neg, max_right_comm]

theorem max?_reflect (k : ℚ) (values : List ℚ) :
    (values.map (k - ·)).max? = values.min?.map (k - ·) := by
  have hfold : ∀ (l : List ℚ) (seed : ℚ), (l.map (k - ·)).foldl max (k - seed) =
      k - l.foldl min seed := by
    intro l
    induction l with
    | nil => exact fun _ => rfl
    | cons v l ih =>
        intro seed
        rw [List.map_cons, List.foldl_cons, max_sub_sub_left, ih]
        rfl
  cases values with
  | nil => rfl
  | cons v values => exact congrArg some (hfold values v)

theorem min?_reflect (k : ℚ) (values : List ℚ) :
    (values.map (k - ·)).min? = values.max?.map (k - ·) := by
  have htwice : (values.map (k - ·)).map (k - ·) = values := by
    rw [List.map_map]
    exact (List.map_congr_left fun v _ => sub_sub_cancel k v).trans (List.map_id values)
  have hmax := max?_reflect k (values.map (k - ·))
  rw [htwice] at hmax
  rw [hmax, Option.map_map]
  cases (values.map (k - ·)).min? with
  | none => rfl
  | some v => exact congrArg some (sub_sub_cancel k v).symm

theorem rollingRange_mirror (h : ∀ candle ∈ candles, candle.Within c) :
    rollingRange (candles.map (OHLCVCandle.mirror c)) = rollingRange candles := by
  have hhigh : (candles.map (OHLCVCandle.mirror c)).map (fun candle => (candle.high : ℚ)) =
      (candles.map fun candle => (candle.low : ℚ)).map ((c : ℚ) - ·) := by
    rw [List.map_map, List.map_map]
    exact List.map_congr_left fun candle hmem => OHLCVCandle.mirror_high (h candle hmem)
  have hlow : (candles.map (OHLCVCandle.mirror c)).map (fun candle => (candle.low : ℚ)) =
      (candles.map fun candle => (candle.high : ℚ)).map ((c : ℚ) - ·) := by
    rw [List.map_map, List.map_map]
    exact List.map_congr_left fun candle hmem => OHLCVCandle.mirror_low (h candle hmem)
  rw [rollingRange, hhigh, hlow, max?_reflect, min?_reflect, rollingRange]
  cases (candles.map fun candle => (candle.low : ℚ)).min? with
  | none => cases (candles.map fun candle => (candle.high : ℚ)).max? <;> rfl
  | some low =>
      cases (candles.map fun candle => (candle.high : ℚ)).max? with
      | none => rfl
      | some high => exact congrArg some (sub_sub_sub_cancel_left _ _ _)

theorem directionalEfficiency_reflect (k : ℚ) (closes : List ℚ) :
    directionalEfficiency (closes.map (k - ·)) = directionalEfficiency closes := by
  have hchange : ∀ x y : ℚ, |k - x - (k - y)| = |x - y| := by
    intro x y
    rw [sub_sub_sub_cancel_left, abs_sub_comm]
  unfold directionalEfficiency
  rw [moves_reflect, List.length_map, List.head?_map, List.getLast?_map]
  cases closes.head? with
  | none => rfl
  | some first =>
      cases closes.getLast? with
      | none => rfl
      | some last =>
          simp only [Option.map_some, Option.bind_some, hchange]

/-! ## The blocks -/

/-- The share of the changes that go the way of the return stays. -/
theorem directionalPersistence_reflect {r r' : ℚ} (hr : OppositeSign r r') (k : ℚ)
    (closes : List ℚ) :
    directionalPersistence r' (closes.map (k - ·)) = directionalPersistence r closes := by
  unfold directionalPersistence
  dsimp only
  rw [changes_reflect, List.filter_map]
  have hnonzero : ((fun x : ℚ => decide (x ≠ 0)) ∘ Neg.neg) = fun x => decide (x ≠ 0) := by
    funext x
    simp
  rw [hnonzero]
  simp only [hr.eq_zero_iff, List.map_eq_nil_iff, List.length_map, List.countP_map]
  split_ifs with hnone
  · rfl
  · congr 3
    refine List.countP_congr fun x hx => ?_
    have hx0 : x ≠ 0 := by simpa using (List.mem_filter.mp hx).2
    have hr0 : r ≠ 0 := fun h0 => hnone (Or.inl h0)
    simp only [Function.comp, decide_eq_true_eq, hr.pos_iff, Left.neg_pos_iff]
    rw [← not_le, ← not_le, not_iff_not, le_iff_lt_or_eq, le_iff_lt_or_eq]
    simp [hx0.symm, hr0.symm]

variable {lookback rocPeriod rsiPeriod atrPeriod : ℕ} {periods : List ℕ}

/-- The trend facts of mirrored candles: signs change, highs and lows change places. -/
structure TrendFeatures.Mirrors (f f' : TrendFeatures) : Prop where
  returnPct : Option.Rel OppositeSign f.returnPct f'.returnPct
  slope : Option.Rel OppositeSign f.slope f'.slope
  higherHigh : f'.higherHighCount = f.lowerLowCount
  higherLow : f'.higherLowCount = f.lowerHighCount
  lowerHigh : f'.lowerHighCount = f.higherLowCount
  lowerLow : f'.lowerLowCount = f.higherHighCount
  persistence : f'.directionalPersistence = f.directionalPersistence
  quality : f'.quality = f.quality

theorem rel_map_neg (v : Option ℚ) : Option.Rel OppositeSign v (v.map Neg.neg) := by
  cases v with
  | none => exact .none
  | some v => exact .some (oppositeSign_neg v)

/-- Counting pairs of mirrored candles. -/
theorem countP_mirror {p p' : OHLCVCandle × OHLCVCandle → Bool}
    (h : ∀ candle ∈ candles, candle.Within c)
    (hp : ∀ prev curr, prev.Within c → curr.Within c →
      p' (prev.mirror c, curr.mirror c) = p (prev, curr)) :
    (consecutive (candles.map (OHLCVCandle.mirror c))).countP p' =
      (consecutive candles).countP p := by
  rw [consecutive_map, List.countP_map]
  refine List.countP_congr fun pair hpair => ?_
  obtain ⟨hprev, hcurr⟩ := consecutive_subset hpair
  exact (Bool.eq_iff_iff.mp (hp pair.1 pair.2 (h _ hprev) (h _ hcurr)))

theorem mirror_high_lt {prev curr : OHLCVCandle} (hp : prev.Within c) (hc : curr.Within c) :
    (prev.mirror c).high < (curr.mirror c).high ↔ curr.low < prev.low := by
  rw [← NNRat.coe_lt_coe, OHLCVCandle.mirror_high hp, OHLCVCandle.mirror_high hc,
    sub_lt_sub_iff_left, NNRat.coe_lt_coe]

theorem mirror_low_lt {prev curr : OHLCVCandle} (hp : prev.Within c) (hc : curr.Within c) :
    (prev.mirror c).low < (curr.mirror c).low ↔ curr.high < prev.high := by
  rw [← NNRat.coe_lt_coe, OHLCVCandle.mirror_low hp, OHLCVCandle.mirror_low hc,
    sub_lt_sub_iff_left, NNRat.coe_lt_coe]

/-- The change to the last one of reflected closes. -/
theorem changeFrom_opposite {base : Option ℚ} (h : ∀ a ∈ base, 0 < a ∧ a < k)
    (closes : List ℚ) :
    Option.Rel OppositeSign (changeFrom base closes)
      (changeFrom (base.map (k - ·)) (closes.map (k - ·))) := by
  rw [changeFrom, changeFrom, List.getLast?_map]
  cases base with
  | none => exact .none
  | some a =>
      cases closes.getLast? with
      | none => exact .none
      | some b => exact changePct_opposite (h a rfl).1 (h a rfl).2 b

theorem returnOver_opposite (lookback : ℕ) (h : ∀ v ∈ values, 0 < v ∧ v < k) :
    Option.Rel OppositeSign (returnOver lookback values)
      (returnOver lookback (values.map (k - ·))) := by
  rw [returnOver, returnOver, List.length_map, List.head?_map]
  split_ifs
  · exact changeFrom_opposite (fun a ha => h a (List.mem_of_mem_head? ha)) _
  · exact .none

theorem rocOver_opposite (rocPeriod : ℕ) (h : ∀ v ∈ values, 0 < v ∧ v < k) :
    Option.Rel OppositeSign (rocOver rocPeriod values)
      (rocOver rocPeriod (values.map (k - ·))) := by
  rw [rocOver, rocOver, List.length_map, rtake_map, List.head?_map]
  split_ifs
  · exact changeFrom_opposite
      (fun a ha => h a (List.mem_of_mem_drop (List.mem_of_mem_head? ha))) _
  · exact .none

theorem persistence_bind {r r' : Option ℚ} (h : Option.Rel OppositeSign r r') (k : ℚ)
    (closes : List ℚ) :
    (r'.bind fun r => directionalPersistence r (closes.map (k - ·))) =
      r.bind fun r => directionalPersistence r closes := by
  cases h with
  | none => rfl
  | some hsign => exact directionalPersistence_reflect hsign k closes

theorem rel_eq_none_iff {R : ℚ → ℚ → Prop} {r r' : Option ℚ} (h : Option.Rel R r r') :
    r' = none ↔ r = none := by
  cases h <;> simp

theorem closeValue_between (h : ∀ candle ∈ candles, candle.Within c) :
    ∀ v ∈ candles.map OHLCVCandle.closeValue, 0 < v ∧ v < c := by
  intro v hv
  obtain ⟨candle, hmem, rfl⟩ := List.mem_map.mp hv
  exact ⟨(h candle hmem).closeValue_pos, (h candle hmem).closeValue_lt⟩

theorem computeTrendFeatures_mirror (h : ∀ candle ∈ candles, candle.Within c) :
    (computeTrendFeatures timeframe candles lookback).Mirrors
      (computeTrendFeatures timeframe (candles.map (OHLCVCandle.mirror c)) lookback) := by
  have hused : ∀ candle ∈ (contiguousTail candles timeframe).rtake (lookback + 1),
      candle.Within c :=
    fun candle hmem => h candle (contiguousTail_subset (List.mem_of_mem_drop hmem))
  unfold computeTrendFeatures
  rw [contiguousTail_mirror, rtake_map]
  generalize (contiguousTail candles timeframe).rtake (lookback + 1) = used at hused ⊢
  dsimp only
  rw [closeValue_mirror hused, List.length_map]
  have hreturn := returnOver_opposite lookback (closeValue_between hused)
  by_cases hlen : used.length < 2
  · rw [if_pos hlen, if_pos hlen]
    exact ⟨.none, .none, rfl, rfl, rfl, rfl, rfl, rfl⟩
  · rw [if_neg hlen, if_neg hlen]
    refine ⟨hreturn, ?_, ?_, ?_, ?_, ?_, persistence_bind hreturn _ _, rfl⟩
    · rw [olsSlope_reflect]
      exact rel_map_neg _
    · exact countP_mirror hused fun prev curr hp hc => decide_eq_decide.mpr (mirror_high_lt hp hc)
    · exact countP_mirror hused fun prev curr hp hc => decide_eq_decide.mpr (mirror_low_lt hp hc)
    · exact countP_mirror hused fun prev curr hp hc => decide_eq_decide.mpr (mirror_high_lt hc hp)
    · exact countP_mirror hused fun prev curr hp hc => decide_eq_decide.mpr (mirror_low_lt hc hp)

/-- The momentum facts of mirrored candles. -/
structure MomentumFeatures.Mirrors (f f' : MomentumFeatures) : Prop where
  roc : Option.Rel OppositeSign f.roc f'.roc
  rsi : f'.rsi = f.rsi.map (100 - ·)
  quality : f'.quality = f.quality

theorem computeMomentumFeatures_mirror (h : ∀ candle ∈ candles, candle.Within c)
    (hrsi : 0 < rsiPeriod) :
    (computeMomentumFeatures timeframe candles rocPeriod rsiPeriod).Mirrors
      (computeMomentumFeatures timeframe (candles.map (OHLCVCandle.mirror c)) rocPeriod
        rsiPeriod) := by
  have htail : ∀ candle ∈ contiguousTail candles timeframe, candle.Within c :=
    fun candle hmem => h candle (contiguousTail_subset hmem)
  unfold computeMomentumFeatures
  rw [contiguousTail_mirror]
  generalize contiguousTail candles timeframe = tail at htail ⊢
  dsimp only
  rw [closeValue_mirror htail, wilderRsi_reflect _ _ hrsi]
  have hroc := rocOver_opposite rocPeriod (closeValue_between htail)
  refine ⟨hroc, rfl, ?_⟩
  simp only [List.map_eq_nil_iff, rel_eq_none_iff hroc, Option.map_eq_none_iff]

/-- Two lists of values by period, with the same periods and related values. -/
def SamePeriods (R : ℚ → ℚ → Prop) (l l' : List (ℕ × ℚ)) : Prop :=
  List.Forall₂ (fun a b => b.1 = a.1 ∧ R a.2 b.2) l l'

theorem perPeriod_rel {R : ℚ → ℚ → Prop} {value value' : ℕ → Option ℚ}
    (h : ∀ period ∈ periods, Option.Rel R (value period) (value' period)) :
    SamePeriods R (perPeriod periods value) (perPeriod periods value') := by
  have hall : ∀ l : List ℕ, (∀ period ∈ l, Option.Rel R (value period) (value' period)) →
      SamePeriods R (l.filterMap fun period => (value period).map fun v => (period, v))
        (l.filterMap fun period => (value' period).map fun v => (period, v)) := by
    intro l
    induction l with
    | nil => exact fun _ => .nil
    | cons period l ih =>
        intro hl
        have hrest := ih fun q hq => hl q (List.mem_cons_of_mem _ hq)
        have hfirst := hl period List.mem_cons_self
        rw [List.filterMap_cons, List.filterMap_cons]
        cases hv : value period with
        | none =>
            rw [hv] at hfirst
            rw [(rel_eq_none_iff hfirst).mpr rfl]
            exact hrest
        | some a =>
            cases hv' : value' period with
            | none =>
                rw [hv, hv'] at hfirst
                cases hfirst
            | some b =>
                rw [hv, hv'] at hfirst
                cases hfirst with
                | some hab => exact .cons ⟨rfl, hab⟩ hrest
  exact hall _ fun period hperiod => h period (List.mem_dedup.mp hperiod)

theorem SamePeriods.lookup {R : ℚ → ℚ → Prop} {l l' : List (ℕ × ℚ)} (h : SamePeriods R l l')
    (period : ℕ) : Option.Rel R (l.lookup period) (l'.lookup period) := by
  induction h with
  | nil => exact .none
  | @cons a b l l' hab _ ih =>
      rw [List.lookup_cons, List.lookup_cons, hab.1]
      split
      · exact .some hab.2
      · exact ih

theorem rel_map {R : ℚ → ℚ → Prop} {f : ℚ → ℚ} (h : ∀ v, R v (f v)) (v : Option ℚ) :
    Option.Rel R v (v.map f) := by
  cases v with
  | none => exact .none
  | some v => exact .some (h v)

theorem simpleMovingAverage_between (hpos : 0 < period) (h : ∀ v ∈ values, 0 < v ∧ v < k) :
    ∀ a ∈ simpleMovingAverage values period, 0 < a ∧ a < k := by
  have hsum : ∀ l : List ℚ, (∀ v ∈ l, 0 < v ∧ v < k) → l ≠ [] →
      0 < l.sum ∧ l.sum < l.length * k := by
    intro l
    induction l with
    | nil => exact fun _ hne => absurd rfl hne
    | cons v l ih =>
        intro hl _
        obtain ⟨hv, hvk⟩ := hl v List.mem_cons_self
        rw [List.sum_cons, List.length_cons]
        push_cast
        by_cases hnil : l = []
        · rw [hnil]
          exact ⟨by simpa using hv, by simpa using hvk⟩
        · obtain ⟨hlow, hhigh⟩ := ih (fun u hu => hl u (List.mem_cons_of_mem _ hu)) hnil
          exact ⟨add_pos hv hlow, by linarith⟩
  intro a ha
  unfold simpleMovingAverage at ha
  split_ifs at ha with hlen
  · cases ha
  · cases ha
    have hwindow : (values.rtake period).length = period := by
      rw [List.rtake, List.length_drop]
      omega
    have hne : values.rtake period ≠ [] := List.ne_nil_of_length_pos (by omega)
    obtain ⟨hlow, hhigh⟩ :=
      hsum (values.rtake period) (fun v hv => h v (List.mem_of_mem_drop hv)) hne
    rw [hwindow] at hhigh
    have hperiod : (0 : ℚ) < period := by exact_mod_cast hpos
    exact ⟨div_pos hlow hperiod, (div_lt_iff₀ hperiod).mpr (by rwa [mul_comm])⟩

/-- The moving averages of mirrored candles. -/
structure MovingAverageFeatures.Mirrors (k : ℚ) (f f' : MovingAverageFeatures) : Prop where
  periods : f'.periods = f.periods
  sma : SamePeriods (fun a b => b = k - a) f.sma f'.sma
  distance : SamePeriods OppositeSign f.distanceFromSmaPct f'.distanceFromSmaPct
  slope : SamePeriods OppositeSign f.maSlope f'.maSlope
  quality : f'.quality = f.quality

theorem computeMovingAverageFeatures_mirror (h : ∀ candle ∈ candles, candle.Within c)
    (hpos : ∀ period ∈ periods, 0 < period) :
    (computeMovingAverageFeatures timeframe candles periods).Mirrors c
      (computeMovingAverageFeatures timeframe (candles.map (OHLCVCandle.mirror c)) periods) := by
  have htail : ∀ candle ∈ contiguousTail candles timeframe, candle.Within c :=
    fun candle hmem => h candle (contiguousTail_subset hmem)
  unfold computeMovingAverageFeatures
  rw [contiguousTail_mirror]
  generalize contiguousTail candles timeframe = tail at htail ⊢
  dsimp only
  rw [closeValue_mirror htail]
  have hbetween := closeValue_between htail
  generalize tail.map OHLCVCandle.closeValue = closes at hbetween ⊢
  have hsma : SamePeriods (fun a b => b = c - a) (perPeriod periods (simpleMovingAverage closes))
      (perPeriod periods (simpleMovingAverage (closes.map ((c : ℚ) - ·)))) := by
    refine perPeriod_rel fun period hperiod => ?_
    rw [simpleMovingAverage_reflect (hpos period hperiod)]
    exact rel_map (R := fun a b => b = c - a) (fun _ => rfl) _
  refine ⟨rfl, hsma, perPeriod_rel fun period hperiod => ?_, perPeriod_rel fun period hperiod => ?_,
    ?_⟩
  · rw [simpleMovingAverage_reflect (hpos period hperiod)]
    exact changeFrom_opposite (simpleMovingAverage_between (hpos period hperiod) hbetween) _
  · rw [exponentialMovingAverage_reflect (hpos period hperiod), rtake_map, olsSlope_reflect]
    exact rel_map_neg _
  · simp only [List.map_eq_nil_iff, hsma.length_eq]

theorem computeVolatilityFeatures_mirror (h : ∀ candle ∈ candles, candle.Within c) :
    computeVolatilityFeatures timeframe (candles.map (OHLCVCandle.mirror c)) atrPeriod =
      computeVolatilityFeatures timeframe candles atrPeriod := by
  unfold computeVolatilityFeatures
  rw [contiguousTail_mirror]
  dsimp only
  rw [trueRanges_mirror fun candle hmem => h candle (contiguousTail_subset hmem)]
  simp only [List.map_eq_nil_iff]

theorem computeRangeStateFeatures_mirror (h : ∀ candle ∈ candles, candle.Within c) :
    computeRangeStateFeatures timeframe (candles.map (OHLCVCandle.mirror c)) lookback atrPeriod =
      computeRangeStateFeatures timeframe candles lookback atrPeriod := by
  have htail : ∀ candle ∈ contiguousTail candles timeframe, candle.Within c :=
    fun candle hmem => h candle (contiguousTail_subset hmem)
  have hwindow : ∀ candle ∈ (contiguousTail candles timeframe).rtake lookback, candle.Within c :=
    fun candle hmem => htail candle (List.mem_of_mem_drop hmem)
  unfold computeRangeStateFeatures
  rw [contiguousTail_mirror]
  dsimp only
  rw [trueRanges_mirror htail, rtake_map, rollingRange_mirror hwindow, closeValue_mirror hwindow,
    directionalEfficiency_reflect]
  simp only [List.map_eq_nil_iff, List.length_map]

/-- The geometry of a mirrored candle: the wicks change places. -/
structure CandleStructureFeatures.Mirrors (f f' : CandleStructureFeatures) : Prop where
  body : f'.bodySize = f.bodySize
  upper : f'.upperWick = f.lowerWick
  lower : f'.lowerWick = f.upperWick
  range : f'.rangeSize = f.rangeSize
  closeLocation : f'.closeLocationValue = f.closeLocationValue.map (1 - ·)
  quality : f'.quality = f.quality

theorem computeCandleStructureFeatures_mirror (h : ∀ candle ∈ candles, candle.Within c) :
    (computeCandleStructureFeatures candles).Mirrors
      (computeCandleStructureFeatures (candles.map (OHLCVCandle.mirror c))) := by
  unfold computeCandleStructureFeatures
  rw [List.getLast?_map]
  cases hlast : candles.getLast? with
  | none => exact ⟨rfl, rfl, rfl, rfl, rfl, rfl⟩
  | some candle =>
      have hw := h candle (List.mem_of_getLast? hlast)
      simp only [Option.map_some, OHLCVCandle.mirror_high hw, OHLCVCandle.mirror_low hw,
        OHLCVCandle.mirror_open hw, OHLCVCandle.mirror_close hw]
      have hrange : (c : ℚ) - candle.low - (c - candle.high) = candle.high - candle.low := by ring
      refine ⟨?_, ?_, ?_, congrArg some hrange, ?_, rfl⟩
      · rw [sub_sub_sub_cancel_left, abs_sub_comm]
      · rw [max_sub_sub_left]
        exact congrArg some (by ring)
      · rw [min_sub_sub_left]
        exact congrArg some (by ring)
      · dsimp only
        rw [hrange]
        split_ifs with hpos
        · rw [Option.map_some]
          refine congrArg some ?_
          field_simp
          ring
        · rfl

end TradingAdvisor
