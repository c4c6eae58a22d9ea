import Mathlib.Algebra.Group.End
import TradingAdvisor.Technical.Analysts
import TradingAdvisor.Technical.MirrorStructure

/-!
# The analysts on mirrored candles

Each analyst reads the two directions in its own words. On mirrored candles every observation has
the opposite word and everything else is the same; the tallies across timeframes do not change.

* `mirrorValue` — the opposite word;
* `reading_mirror` — the observations of mirrored blocks;
* `supervise_mirror`, `analyzeSeries_mirror` — **the supervised results of mirrored series**.
-/

namespace TradingAdvisor

open Checks

/-- The opposite word; words without a direction stay. -/
def mirrorValue : Equiv.Perm String :=
  Equiv.swap "UPWARD" "DOWNWARD" * Equiv.swap "UPWARD_STRUCTURE" "DOWNWARD_STRUCTURE" *
    Equiv.swap "UPWARD_BREAK" "DOWNWARD_BREAK" * Equiv.swap "POSITIVE" "NEGATIVE" *
    Equiv.swap "ABOVE_MIDPOINT" "BELOW_MIDPOINT" * Equiv.swap "ABOVE_SMA" "BELOW_SMA" *
    Equiv.swap "FASTER_ABOVE_SLOWER" "FASTER_BELOW_SLOWER" *
    Equiv.swap "UPPER_WICK_LARGER" "LOWER_WICK_LARGER"

/-- The words with a direction. -/
def directedWords : List String :=
  ["UPWARD", "DOWNWARD", "UPWARD_STRUCTURE", "DOWNWARD_STRUCTURE", "UPWARD_BREAK", "DOWNWARD_BREAK",
    "POSITIVE", "NEGATIVE", "ABOVE_MIDPOINT", "BELOW_MIDPOINT", "ABOVE_SMA", "BELOW_SMA",
    "FASTER_ABOVE_SLOWER", "FASTER_BELOW_SLOWER", "UPPER_WICK_LARGER", "LOWER_WICK_LARGER"]

theorem mirrorValue_of_notMem {word : String} (h : word ∉ directedWords) :
    mirrorValue word = word := by
  simp only [directedWords, List.mem_cons, List.not_mem_nil, or_false, not_or] at h
  simp [mirrorValue, Equiv.swap_apply_def, h]

theorem mirrorValue_opposite :
    mirrorValue "UPWARD" = "DOWNWARD" ∧ mirrorValue "DOWNWARD" = "UPWARD" ∧
    mirrorValue "UPWARD_STRUCTURE" = "DOWNWARD_STRUCTURE" ∧
    mirrorValue "DOWNWARD_STRUCTURE" = "UPWARD_STRUCTURE" ∧
    mirrorValue "UPWARD_BREAK" = "DOWNWARD_BREAK" ∧
    mirrorValue "DOWNWARD_BREAK" = "UPWARD_BREAK" ∧
    mirrorValue "POSITIVE" = "NEGATIVE" ∧ mirrorValue "NEGATIVE" = "POSITIVE" ∧
    mirrorValue "ABOVE_MIDPOINT" = "BELOW_MIDPOINT" ∧
    mirrorValue "BELOW_MIDPOINT" = "ABOVE_MIDPOINT" ∧
    mirrorValue "ABOVE_SMA" = "BELOW_SMA" ∧ mirrorValue "BELOW_SMA" = "ABOVE_SMA" ∧
    mirrorValue "FASTER_ABOVE_SLOWER" = "FASTER_BELOW_SLOWER" ∧
    mirrorValue "FASTER_BELOW_SLOWER" = "FASTER_ABOVE_SLOWER" ∧
    mirrorValue "UPPER_WICK_LARGER" = "LOWER_WICK_LARGER" ∧
    mirrorValue "LOWER_WICK_LARGER" = "UPPER_WICK_LARGER" := by
  simp [mirrorValue, Equiv.swap_apply_def]

-- From here on the words are looked up, never compared letter by letter.
attribute [irreducible] mirrorValue

/-- The observation with the opposite word. -/
def TechnicalAnalysisObservation.mirror (o : TechnicalAnalysisObservation) :
    TechnicalAnalysisObservation :=
  { o with value := mirrorValue o.value }

/-- The result with the opposite words. -/
def TechnicalAnalysisResult.mirror (result : TechnicalAnalysisResult) : TechnicalAnalysisResult :=
  { result with
    observations := result.observations.map TechnicalAnalysisObservation.mirror
    abstained_empty := fun h => by rw [result.abstained_empty h, List.map_nil] }

namespace TechnicalAnalyst

variable {a b k : ℚ} {positive negative zero : String} {quality : FeatureQuality}
  {dimension : TechnicalAnalysisDimension} {subject : Option String}

/-- The two words are opposite, and the third one is neutral. -/
structure Opposed (positive negative zero : String) : Prop where
  positive_eq : mirrorValue positive = negative
  negative_eq : mirrorValue negative = positive
  zero_eq : mirrorValue zero = zero

theorem signCategory_mirror (h : Opposed positive negative zero) (hab : OppositeSign a b) :
    signCategory positive negative zero b =
      mirrorValue (signCategory positive negative zero a) := by
  unfold signCategory
  rcases lt_trichotomy a 0 with ha | rfl | ha
  · rw [if_pos (hab.pos_iff.mpr ha), if_neg ha.not_gt, if_pos ha, h.negative_eq]
  · rw [hab.eq_zero_iff.mpr rfl, if_neg (lt_irrefl 0), if_neg (lt_irrefl 0), h.zero_eq]
  · have hb := hab.neg_iff.mpr ha
    rw [if_neg hb.not_gt, if_pos hb, if_pos ha, h.positive_eq]

theorem comparison_mirror (h : Opposed positive negative zero) (a b : ℚ) :
    comparison positive negative zero b a =
      mirrorValue (comparison positive negative zero a b) := by
  unfold comparison
  rcases lt_trichotomy a b with hab | rfl | hab
  · rw [if_pos hab, if_neg hab.not_gt, if_pos hab, h.negative_eq]
  · rw [if_neg (lt_irrefl a), if_neg (lt_irrefl a), h.zero_eq]
  · rw [if_neg hab.not_gt, if_pos hab, if_pos hab, h.positive_eq]

theorem comparison_reflect (h : Opposed positive negative zero) (a b k : ℚ) :
    comparison positive negative zero (k - a) (k - b) =
      mirrorValue (comparison positive negative zero a b) := by
  rw [← comparison_mirror h]
  unfold comparison
  simp only [sub_lt_sub_iff_left]

theorem opposed_trend : Opposed "UPWARD" "DOWNWARD" "FLAT" where
  positive_eq := mirrorValue_opposite.1
  negative_eq := mirrorValue_opposite.2.1
  zero_eq := mirrorValue_of_notMem (by simp [directedWords])

theorem opposed_balance :
    Opposed "UPWARD_STRUCTURE" "DOWNWARD_STRUCTURE" "MIXED_STRUCTURE" where
  positive_eq := mirrorValue_opposite.2.2.1
  negative_eq := mirrorValue_opposite.2.2.2.1
  zero_eq := mirrorValue_of_notMem (by simp [directedWords])

theorem opposed_break : Opposed "UPWARD_BREAK" "DOWNWARD_BREAK" "" where
  positive_eq := mirrorValue_opposite.2.2.2.2.1
  negative_eq := mirrorValue_opposite.2.2.2.2.2.1
  zero_eq := mirrorValue_of_notMem (by simp [directedWords])

theorem opposed_roc : Opposed "POSITIVE" "NEGATIVE" "ZERO" where
  positive_eq := mirrorValue_opposite.2.2.2.2.2.2.1
  negative_eq := mirrorValue_opposite.2.2.2.2.2.2.2.1
  zero_eq := mirrorValue_of_notMem (by simp [directedWords])

theorem opposed_midpoint : Opposed "ABOVE_MIDPOINT" "BELOW_MIDPOINT" "AT_MIDPOINT" where
  positive_eq := mirrorValue_opposite.2.2.2.2.2.2.2.2.1
  negative_eq := mirrorValue_opposite.2.2.2.2.2.2.2.2.2.1
  zero_eq := mirrorValue_of_notMem (by simp [directedWords])

theorem opposed_sma : Opposed "ABOVE_SMA" "BELOW_SMA" "AT_SMA" where
  positive_eq := mirrorValue_opposite.2.2.2.2.2.2.2.2.2.2.1
  negative_eq := mirrorValue_opposite.2.2.2.2.2.2.2.2.2.2.2.1
  zero_eq := mirrorValue_of_notMem (by simp [directedWords])

theorem opposed_ordering : Opposed "FASTER_ABOVE_SLOWER" "FASTER_BELOW_SLOWER" "EQUAL" where
  positive_eq := mirrorValue_opposite.2.2.2.2.2.2.2.2.2.2.2.2.1
  negative_eq := mirrorValue_opposite.2.2.2.2.2.2.2.2.2.2.2.2.2.1
  zero_eq := mirrorValue_of_notMem (by simp [directedWords])

theorem opposed_wick : Opposed "UPPER_WICK_LARGER" "LOWER_WICK_LARGER" "EQUAL" where
  positive_eq := mirrorValue_opposite.2.2.2.2.2.2.2.2.2.2.2.2.2.2.1
  negative_eq := mirrorValue_opposite.2.2.2.2.2.2.2.2.2.2.2.2.2.2.2
  zero_eq := mirrorValue_of_notMem (by simp [directedWords])

theorem midpointRelation_mirror {m : ℚ} (hb : b = 2 * m - a) :
    midpointRelation m b = mirrorValue (midpointRelation m a) := by
  unfold midpointRelation
  rw [hb]
  rcases lt_trichotomy a m with ha | rfl | ha
  · rw [if_pos (by linarith), if_neg ha.not_gt, if_pos ha, opposed_midpoint.negative_eq]
  · rw [if_neg (by linarith), if_neg (by linarith), if_neg (lt_irrefl a), if_neg (lt_irrefl a),
      opposed_midpoint.zero_eq]
  · rw [if_neg (by linarith), if_pos (by linarith), if_pos ha, opposed_midpoint.positive_eq]

theorem observe_mirror (value : Option String) :
    (observe quality dimension value subject).map TechnicalAnalysisObservation.mirror =
      observe quality dimension (value.map mirrorValue) subject := by
  cases value <;> rfl

theorem map_mirrorValue_injective : Function.Injective (Option.map mirrorValue) :=
  Option.map_injective mirrorValue.injective

/-- A value that is `none` or one of two opposite words stays so. -/
theorem mem_opposed_iff (h : Opposed positive negative zero) (v : Option String) :
    v.map mirrorValue ∈ [some positive, some negative] ↔ v ∈ [some positive, some negative] := by
  have hpos : v.map mirrorValue = some positive ↔ v = some negative := by
    rw [← h.negative_eq, ← Option.map_some]
    exact map_mirrorValue_injective.eq_iff
  have hneg : v.map mirrorValue = some negative ↔ v = some positive := by
    rw [← h.positive_eq, ← Option.map_some]
    exact map_mirrorValue_injective.eq_iff
  simp only [List.mem_cons, List.not_mem_nil, or_false, hpos, hneg]
  exact or_comm

theorem rel_sign {r r' : Option ℚ} (h : Opposed positive negative zero)
    (hr : Option.Rel OppositeSign r r') :
    r'.map (signCategory positive negative zero) =
      (r.map (signCategory positive negative zero)).map mirrorValue := by
  cases hr with
  | none => rfl
  | some hab => exact congrArg some (signCategory_mirror h hab)

theorem primitiveAgreement_mirror (p q : Prop) [Decidable p] [Decidable q] :
    mirrorValue (primitiveAgreement p q) = primitiveAgreement p q := by
  unfold primitiveAgreement
  split_ifs <;> exact mirrorValue_of_notMem (by simp [directedWords])

/-! ## Observations -/

theorem map_boundaryPosition_mirror (v : Option ℚ) :
    (v.map (boundaryPosition 0 1)).map mirrorValue = v.map (boundaryPosition 0 1) := by
  cases v with
  | none => rfl
  | some v =>
      refine congrArg some ?_
      unfold boundaryPosition
      split_ifs <;> exact mirrorValue_of_notMem (by simp [directedWords])

theorem map_referenceComparison_mirror (v : Option ℚ) :
    (v.map referenceComparison).map mirrorValue = v.map referenceComparison := by
  cases v with
  | none => rfl
  | some v =>
      refine congrArg some ?_
      unfold referenceComparison
      split_ifs <;> exact mirrorValue_of_notMem (by simp [directedWords])

theorem trendAgreement_mirror (r s : Option String) :
    (if r.map mirrorValue = none ∧ s.map mirrorValue = none then none
      else some (primitiveAgreement
        (r.map mirrorValue ∈ [some "UPWARD", some "DOWNWARD"] ∧
          s.map mirrorValue ∈ [some "UPWARD", some "DOWNWARD"])
        (r.map mirrorValue = s.map mirrorValue))) =
      (if r = none ∧ s = none then none
        else some (primitiveAgreement
          (r ∈ [some "UPWARD", some "DOWNWARD"] ∧ s ∈ [some "UPWARD", some "DOWNWARD"])
          (r = s))).map mirrorValue := by
  simp only [Option.map_eq_none_iff, mem_opposed_iff opposed_trend,
    map_mirrorValue_injective.eq_iff]
  split_ifs
  · rfl
  · exact congrArg some (primitiveAgreement_mirror _ _).symm

theorem trendObservations_mirror {f f' : TrendFeatures} (h : f.Mirrors f') :
    trendObservations f' = (trendObservations f).map TechnicalAnalysisObservation.mirror := by
  have hbalance : comparison "UPWARD_STRUCTURE" "DOWNWARD_STRUCTURE" "MIXED_STRUCTURE"
      ((f.lowerLowCount : ℚ) + f.lowerHighCount) (f.higherLowCount + f.higherHighCount) =
      mirrorValue (comparison "UPWARD_STRUCTURE" "DOWNWARD_STRUCTURE" "MIXED_STRUCTURE"
        (f.higherHighCount + f.higherLowCount) (f.lowerHighCount + f.lowerLowCount)) := by
    rw [← comparison_mirror opposed_balance, add_comm (f.lowerLowCount : ℚ),
      add_comm (f.higherLowCount : ℚ)]
  unfold trendObservations
  simp only [List.map_append, observe_mirror, h.quality, rel_sign opposed_trend h.returnPct,
    rel_sign opposed_trend h.slope, h.higherHigh, h.higherLow, h.lowerHigh, h.lowerLow,
    h.persistence, map_boundaryPosition_mirror, Option.map_some, Nat.cast_add, hbalance,
    trendAgreement_mirror]

theorem volatilityObservations_mirror (f : VolatilityFeatures) :
    volatilityObservations f =
      (volatilityObservations f).map TechnicalAnalysisObservation.mirror := by
  unfold volatilityObservations
  rw [observe_mirror, map_referenceComparison_mirror]

theorem rangeStateObservations_mirror (f : RangeStateFeatures) :
    rangeStateObservations f =
      (rangeStateObservations f).map TechnicalAnalysisObservation.mirror := by
  unfold rangeStateObservations
  rw [List.map_append, observe_mirror, observe_mirror, map_referenceComparison_mirror,
    map_boundaryPosition_mirror]

theorem breakDirection_value_flip (d : BreakDirection) : d.flip.value = mirrorValue d.value := by
  cases d with
  | upwardBreak => exact opposed_break.positive_eq.symm
  | downwardBreak => exact opposed_break.negative_eq.symm

theorem BreakDirection.flip_injective : Function.Injective BreakDirection.flip := by
  intro d d' h
  cases d <;> cases d' <;> first | rfl | cases h

theorem breakPresence_flip (directions : List BreakDirection) :
    breakPresence (directions.map BreakDirection.flip) =
      mirrorValue (breakPresence directions) := by
  unfold breakPresence
  simp only [List.map_eq_nil_iff]
  split_ifs <;> exact (mirrorValue_of_notMem (by simp [directedWords])).symm

theorem breakSequencePattern_flip (directions : List BreakDirection) :
    breakSequencePattern (directions.map BreakDirection.flip) =
      mirrorValue (breakSequencePattern directions) := by
  match directions with
  | [] => exact (mirrorValue_of_notMem (by simp [directedWords, breakSequencePattern])).symm
  | [latest] => exact (mirrorValue_of_notMem (by simp [directedWords, breakSequencePattern])).symm
  | latest :: second :: rest =>
      simp only [List.map_cons, breakSequencePattern, BreakDirection.flip_injective.eq_iff]
      split_ifs <;> exact (mirrorValue_of_notMem (by simp [directedWords])).symm

theorem marketStructureObservations_mirror {f f' : MarketStructureFeatures}
    (hbreaks : f'.breaks.map StructuralBreak.direction =
      (f.breaks.map StructuralBreak.direction).map BreakDirection.flip)
    (hquality : f'.quality = f.quality) :
    marketStructureObservations f' =
      (marketStructureObservations f).map TechnicalAnalysisObservation.mirror := by
  unfold marketStructureObservations
  rw [hbreaks, hquality, ← List.map_reverse]
  generalize (f.breaks.map StructuralBreak.direction).reverse = directions
  have hlatest : (directions.map BreakDirection.flip).head?.map BreakDirection.value =
      (directions.head?.map BreakDirection.value).map mirrorValue := by
    rw [List.head?_map, Option.map_map, Option.map_map]
    congr 1
    funext d
    exact breakDirection_value_flip d
  simp only [List.map_append, observe_mirror, hlatest, breakPresence_flip,
    breakSequencePattern_flip, Option.map_some]

theorem momentumAgreement_mirror (r s : Option String) :
    (if r.map mirrorValue = none ∧ s.map mirrorValue = none then none
      else some (primitiveAgreement
        (r.map mirrorValue ∈ [some "POSITIVE", some "NEGATIVE"] ∧
          s.map mirrorValue ∈ [some "ABOVE_MIDPOINT", some "BELOW_MIDPOINT"])
        (r.map mirrorValue = some "POSITIVE" ↔ s.map mirrorValue = some "ABOVE_MIDPOINT"))) =
      (if r = none ∧ s = none then none
        else some (primitiveAgreement
          (r ∈ [some "POSITIVE", some "NEGATIVE"] ∧
            s ∈ [some "ABOVE_MIDPOINT", some "BELOW_MIDPOINT"])
          (r = some "POSITIVE" ↔ s = some "ABOVE_MIDPOINT"))).map mirrorValue := by
  simp only [Option.map_eq_none_iff, mem_opposed_iff opposed_roc, mem_opposed_iff opposed_midpoint]
  by_cases hnone : r = none ∧ s = none
  · rw [if_pos hnone, if_pos hnone]
    rfl
  · rw [if_neg hnone, if_neg hnone]
    refine congrArg some (.trans ?_ (primitiveAgreement_mirror _ _).symm)
    by_cases hdir : r ∈ [some "POSITIVE", some "NEGATIVE"] ∧
        s ∈ [some "ABOVE_MIDPOINT", some "BELOW_MIDPOINT"]
    · obtain ⟨hr, hs⟩ := hdir
      simp only [List.mem_cons, List.not_mem_nil, or_false] at hr hs
      rcases hr with rfl | rfl <;> rcases hs with rfl | rfl <;>
        simp [primitiveAgreement, opposed_roc.positive_eq, opposed_roc.negative_eq,
          opposed_midpoint.positive_eq, opposed_midpoint.negative_eq]
    · rw [primitiveAgreement, if_neg hdir, primitiveAgreement, if_neg hdir]

theorem momentumObservations_mirror {f f' : MomentumFeatures} (h : f.Mirrors f') :
    momentumObservations f' =
      (momentumObservations f).map TechnicalAnalysisObservation.mirror := by
  have hrsi : f'.rsi.map (midpointRelation 50) =
      (f.rsi.map (midpointRelation 50)).map mirrorValue := by
    rw [h.rsi]
    cases f.rsi with
    | none => rfl
    | some v => exact congrArg some (midpointRelation_mirror (by ring))
  unfold momentumObservations
  simp only [List.map_append, observe_mirror, h.quality, rel_sign opposed_roc h.roc, hrsi,
    momentumAgreement_mirror]

theorem movingAverageObservations_mirror {f f' : MovingAverageFeatures} (h : f.Mirrors k f') :
    movingAverageObservations f' =
      (movingAverageObservations f).map TechnicalAnalysisObservation.mirror := by
  have hordering : ∀ fastest slowest,
      (comparison "FASTER_ABOVE_SLOWER" "FASTER_BELOW_SLOWER" "EQUAL" <$>
        f'.sma.lookup fastest <*> f'.sma.lookup slowest) =
      (comparison "FASTER_ABOVE_SLOWER" "FASTER_BELOW_SLOWER" "EQUAL" <$>
        f.sma.lookup fastest <*> f.sma.lookup slowest).map mirrorValue := by
    intro fastest slowest
    have hfast := h.sma.lookup fastest
    have hslow := h.sma.lookup slowest
    generalize f'.sma.lookup fastest = fast' at hfast ⊢
    generalize f.sma.lookup fastest = fast at hfast ⊢
    generalize f'.sma.lookup slowest = slow' at hslow ⊢
    generalize f.sma.lookup slowest = slow at hslow ⊢
    cases hfast with
    | none => rfl
    | some hfast =>
        cases hslow with
        | none => rfl
        | some hslow =>
            rw [hfast, hslow]
            exact congrArg some (comparison_reflect opposed_ordering _ _ k)
  unfold movingAverageObservations
  rw [h.periods, h.quality]
  simp only [List.map_append, List.map_flatMap, observe_mirror, hordering,
    rel_sign opposed_sma (h.distance.lookup _), rel_sign opposed_trend (h.slope.lookup _)]
  congr 1
  cases f.periods.min? with
  | none => rfl
  | some fastest =>
      cases f.periods.max? with
      | none => rfl
      | some slowest =>
          dsimp only
          split_ifs
          · rfl
          · rw [observe_mirror]

theorem candleStructureObservations_mirror {f f' : CandleStructureFeatures} (h : f.Mirrors f') :
    candleStructureObservations f' =
      (candleStructureObservations f).map TechnicalAnalysisObservation.mirror := by
  have hlocation : f'.closeLocationValue.map (midpointRelation (1 / 2)) =
      (f.closeLocationValue.map (midpointRelation (1 / 2))).map mirrorValue := by
    rw [h.closeLocation]
    cases f.closeLocationValue with
    | none => rfl
    | some v => exact congrArg some (midpointRelation_mirror (by ring))
  have hrange : (f.rangeSize.map fun range =>
      if range = 0 then "ZERO_RANGE" else "NON_ZERO_RANGE").map mirrorValue =
      f.rangeSize.map fun range => if range = 0 then "ZERO_RANGE" else "NON_ZERO_RANGE" := by
    cases f.rangeSize with
    | none => rfl
    | some range =>
        refine congrArg some ?_
        dsimp only
        split_ifs <;> exact mirrorValue_of_notMem (by simp [directedWords])
  unfold candleStructureObservations
  rw [h.body, h.upper, h.lower, h.range, h.quality, hlocation]
  simp only [List.map_append, observe_mirror, hrange]
  congr 2
  cases f.bodySize with
  | none => rfl
  | some body =>
      cases f.upperWick with
      | none => cases f.lowerWick <;> rfl
      | some upper =>
          cases f.lowerWick with
          | none => rfl
          | some lower =>
              have hdominance : mirrorValue
                  (comparison "BODY_DOMINANT" "WICK_DOMINANT" "EQUAL" body (upper + lower)) =
                  comparison "BODY_DOMINANT" "WICK_DOMINANT" "EQUAL" body (upper + lower) := by
                unfold comparison
                split_ifs <;> exact mirrorValue_of_notMem (by simp [directedWords])
              simp only [List.map_append, observe_mirror, Option.map_some, hdominance,
                ← comparison_mirror opposed_wick, add_comm lower upper]

/-! ## Blocks -/

/-- The blocks of mirrored candles. -/
structure Mirrors (k : ℚ) (blocks blocks' : TechnicalFeatureBlocks) : Prop where
  trend : blocks.trend.Mirrors blocks'.trend
  breaks : blocks'.marketStructure.breaks.map StructuralBreak.direction =
    (blocks.marketStructure.breaks.map StructuralBreak.direction).map BreakDirection.flip
  structureQuality : blocks'.marketStructure.quality = blocks.marketStructure.quality
  volatility : blocks'.volatility = blocks.volatility
  momentum : blocks.momentum.Mirrors blocks'.momentum
  movingAverage : blocks.movingAverage.Mirrors k blocks'.movingAverage
  candleStructure : blocks.candleStructure.Mirrors blocks'.candleStructure
  rangeState : blocks'.rangeState = blocks.rangeState
  source : blocks'.source = blocks.source

variable {c : Price} {candles : List OHLCVCandle} {timeframe : Timeframe}

theorem computeBlocks_mirror (parameters : TechnicalParameters)
    (h : ∀ candle ∈ candles, candle.Within c) :
    Mirrors c (computeBlocks parameters timeframe candles)
      (computeBlocks parameters timeframe (candles.map (OHLCVCandle.mirror c))) where
  trend := computeTrendFeatures_mirror h
  breaks := (computeMarketStructureFeatures_mirror h).1
  structureQuality := (computeMarketStructureFeatures_mirror h).2
  volatility := computeVolatilityFeatures_mirror h
  momentum := computeMomentumFeatures_mirror h parameters.rsiPeriod_pos
  movingAverage := computeMovingAverageFeatures_mirror h parameters.maPeriods_pos
  candleStructure := computeCandleStructureFeatures_mirror h
  rangeState := computeRangeStateFeatures_mirror h
  source := rfl

/-- Each analyst reads the opposite words in mirrored blocks. -/
theorem reading_mirror {blocks blocks' : TechnicalFeatureBlocks} (h : Mirrors k blocks blocks')
    (analyst : TechnicalAnalystType) :
    reading blocks' analyst =
      Prod.map id (Prod.map id (List.map TechnicalAnalysisObservation.mirror))
        (reading blocks analyst) := by
  cases analyst with
  | trend => exact Prod.ext rfl (Prod.ext h.trend.quality (trendObservations_mirror h.trend))
  | marketStructure =>
      exact Prod.ext rfl (Prod.ext h.structureQuality
        (marketStructureObservations_mirror h.breaks h.structureQuality))
  | volatility =>
      refine Prod.ext rfl (Prod.ext (congrArg VolatilityFeatures.quality h.volatility) ?_)
      exact (congrArg volatilityObservations h.volatility).trans (volatilityObservations_mirror _)
  | momentum =>
      exact Prod.ext rfl (Prod.ext h.momentum.quality (momentumObservations_mirror h.momentum))
  | movingAverage =>
      exact Prod.ext rfl (Prod.ext h.movingAverage.quality
        (movingAverageObservations_mirror h.movingAverage))
  | candleStructure =>
      exact Prod.ext rfl (Prod.ext h.candleStructure.quality
        (candleStructureObservations_mirror h.candleStructure))
  | rangeState =>
      refine Prod.ext rfl (Prod.ext (congrArg RangeStateFeatures.quality h.rangeState) ?_)
      exact (congrArg rangeStateObservations h.rangeState).trans (rangeStateObservations_mirror _)

theorem result_mirror (key : Cell) (identity : TechnicalIdentity) (source : String)
    (read : String × FeatureQuality × List TechnicalAnalysisObservation) :
    result key identity source
        (Prod.map id (Prod.map id (List.map TechnicalAnalysisObservation.mirror)) read) =
      (result key identity source read).mirror := by
  obtain ⟨label, quality, observations⟩ := read
  unfold result
  simp only [Prod.map, id, List.map_eq_nil_iff]
  split_ifs <;> rfl

/-- **The result on mirrored candles has the opposite words.** -/
theorem analyze_mirror (parameters : TechnicalParameters) (identity : TechnicalIdentity)
    (h : ∀ candle ∈ candles, candle.Within c) (analyst : TechnicalAnalystType) :
    analyze (snapshotOf parameters identity timeframe (candles.map (OHLCVCandle.mirror c)))
        analyst =
      (analyze (snapshotOf parameters identity timeframe candles) analyst).mirror := by
  have hblocks : Mirrors c (snapshotOf parameters identity timeframe candles).blocks
      (snapshotOf parameters identity timeframe (candles.map (OHLCVCandle.mirror c))).blocks :=
    computeBlocks_mirror parameters h
  rw [analyze, analyze, reading_mirror hblocks, hblocks.source, result_mirror]
  rfl

end TechnicalAnalyst

/-! ## Tallies -/

variable {results : List TechnicalAnalysisResult}
  {qualifies : TechnicalAnalysisResult → TechnicalAnalysisObservation → Bool}

/-- The entry with the opposite word. -/
def CoherenceEntry.mirror (entry : CoherenceEntry) : CoherenceEntry :=
  { entry with value := mirrorValue entry.value }

theorem tallyGroup_mirror (dimension : TechnicalAnalysisDimension) (subject : Option String)
    (entries : List CoherenceEntry) :
    tallyGroup dimension subject (entries.map CoherenceEntry.mirror) =
      tallyGroup dimension subject entries := by
  have hvalues : (entries.map CoherenceEntry.mirror).map CoherenceEntry.value =
      (entries.map CoherenceEntry.value).map mirrorValue := by
    rw [List.map_map, List.map_map]
    rfl
  unfold tallyGroup
  rw [List.length_map, hvalues, List.dedup_map_of_injective mirrorValue.injective, List.length_map,
    List.map_map, List.map_map]
  rfl

theorem resultEntries_mirror (hq : ∀ result observation,
      qualifies (TechnicalAnalysisResult.mirror result)
        (TechnicalAnalysisObservation.mirror observation) = qualifies result observation)
    (result : TechnicalAnalysisResult) (index : ℕ) :
    resultEntries qualifies result.mirror index =
      (resultEntries qualifies result index).map CoherenceEntry.mirror := by
  unfold resultEntries
  rw [show result.mirror.status = result.status from rfl,
    show result.mirror.observations = result.observations.map TechnicalAnalysisObservation.mirror
      from rfl, List.zipIdx_map, List.filter_map]
  split_ifs
  · rw [List.map_map, List.map_map]
    have hfilter : ((fun member : TechnicalAnalysisObservation × ℕ =>
        qualifies result.mirror member.1) ∘ Prod.map TechnicalAnalysisObservation.mirror id) =
        fun member => qualifies result member.1 := by
      funext member
      exact hq result member.1
    rw [hfilter]
    rfl
  · rfl

theorem qualifyingEntries_mirror (hq : ∀ result observation,
      qualifies (TechnicalAnalysisResult.mirror result)
        (TechnicalAnalysisObservation.mirror observation) = qualifies result observation) :
    qualifyingEntries (results.map TechnicalAnalysisResult.mirror) qualifies =
      (qualifyingEntries results qualifies).map CoherenceEntry.mirror := by
  rw [qualifyingEntries, qualifyingEntries, List.zipIdx_map, List.flatMap_map, List.map_flatMap]
  exact List.flatMap_congr fun member _ => resultEntries_mirror hq member.1 member.2

theorem maGroups_mirror : maGroups (results.map TechnicalAnalysisResult.mirror) =
    maGroups results := by
  unfold maGroups
  rw [List.flatMap_map]
  dsimp only
  congr 3
  funext result
  rw [show result.mirror.observations = result.observations.map TechnicalAnalysisObservation.mirror
    from rfl, List.filterMap_map]
  rfl

/-- **The tallies do not see the mirror.** -/
theorem buildCoherence_mirror :
    buildCoherence (results.map TechnicalAnalysisResult.mirror) = buildCoherence results := by
  unfold buildCoherence
  rw [maGroups_mirror]
  congr 1
  · refine List.map_congr_left fun dimension _ => ?_
    rw [fixedEntries, qualifyingEntries_mirror fun _ _ => rfl, tallyGroup_mirror]
    rfl
  · refine List.map_congr_left fun key _ => ?_
    rw [maEntries, qualifyingEntries_mirror fun _ _ => rfl, tallyGroup_mirror]
    rfl

/-- The supervised results with the opposite words. -/
def TechnicalSupervision.mirror (technical : TechnicalSupervision) : TechnicalSupervision :=
  { technical with
    analystResults := technical.analystResults.map TechnicalAnalysisResult.mirror }

theorem validateRefs_mirror :
    TechnicalCoherenceResult.validateRefs (results.map TechnicalAnalysisResult.mirror) =
      TechnicalCoherenceResult.validateRefs results := by
  funext coherence
  unfold TechnicalCoherenceResult.validateRefs
  congr 1
  funext ref
  rw [List.getElem?_map]
  cases results[ref.1]? with
  | none => rfl
  | some result =>
      simp only [Option.map_some]
      rw [show result.mirror.observations =
        result.observations.map TechnicalAnalysisObservation.mirror from rfl, List.getElem?_map]
      cases result.observations[ref.2]? with
      | none => rfl
      | some observation => rfl

variable {analysts : List TechnicalAnalystType} {timeframes : List Timeframe}

/-- **Supervising mirrored results mirrors what supervising gives.** -/
theorem supervise_mirror :
    TechnicalSupervisor.supervise analysts timeframes
        (results.map TechnicalAnalysisResult.mirror) =
      (TechnicalSupervisor.supervise analysts timeframes results).map
        TechnicalSupervision.mirror := by
  have hplain : (results.map TechnicalAnalysisResult.mirror).map
      TechnicalAnalysisResult.toAnalystResult =
      results.map TechnicalAnalysisResult.toAnalystResult := by
    rw [List.map_map]
    rfl
  have hfind : ∀ cells : List Cell, (cells.filterMap fun cell =>
      (results.map TechnicalAnalysisResult.mirror).find? fun result => result.key = cell) =
      (cells.filterMap fun cell => results.find? fun result => result.key = cell).map
        TechnicalAnalysisResult.mirror := by
    intro cells
    rw [List.map_filterMap]
    congr 1
    funext cell
    rw [List.find?_map]
    rfl
  unfold TechnicalSupervisor.supervise
  dsimp only
  rw [hplain, hfind, buildCoherence_mirror, validateRefs_mirror]
  simp only [bind_map]
  rfl

/-- The series with every candle mirrored. -/
def mirrorSeries (c : Price) (series : List (Timeframe × List OHLCVCandle)) :
    List (Timeframe × List OHLCVCandle) :=
  series.map fun (timeframe, closed) => (timeframe, closed.map (OHLCVCandle.mirror c))

/-- **The supervised results of mirrored series have the opposite words.** -/
theorem analyzeSeries_mirror {c : Price} {series : List (Timeframe × List OHLCVCandle)}
    (parameters : TechnicalParameters) (identity : TechnicalIdentity)
    (h : ∀ member ∈ series, ∀ candle ∈ member.2, candle.Within c) :
    analyzeSeries parameters analysts timeframes identity (mirrorSeries c series) =
      (analyzeSeries parameters analysts timeframes identity series).map
        TechnicalSupervision.mirror := by
  rw [analyzeSeries, analyzeSeries, ← supervise_mirror]
  congr 1
  rw [mirrorSeries, List.flatMap_map, List.map_flatMap]
  refine List.flatMap_congr fun member hmember => ?_
  rw [List.map_map]
  exact List.map_congr_left fun analyst _ =>
    TechnicalAnalyst.analyze_mirror parameters identity (h member hmember) analyst

end TradingAdvisor
