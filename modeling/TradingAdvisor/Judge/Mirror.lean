import TradingAdvisor.Judge.Judge
import TradingAdvisor.Technical.MirrorAnalysts

/-!
# The technical path has no directional bias

The judge reads the words of each dimension as directions. On mirrored candle series every word is
the opposite one, so every direction is the opposite one, and outcomes and references are the same.

* `DirectionMap.Symmetric` — a reading that treats the directions alike;
* `judgeTrendFollowing_mirror`, `judgeBreakout_mirror` — the technical families;
* `judgeSeries_mirror` — **calculators, analysts, supervisor and judge on mirrored series**.
-/

namespace TradingAdvisor

open Checks

/-- The other direction. -/
def DirectionalCandidate.opposite : DirectionalCandidate → DirectionalCandidate
  | longCandidate => shortCandidate
  | shortCandidate => longCandidate

theorem DirectionalCandidate.opposite_injective :
    Function.Injective DirectionalCandidate.opposite := by
  intro d d' h
  cases d <;> cases d' <;> first | rfl | cases h

/-- The resolution with the other direction. -/
def Resolved.mirror (r : Resolved) : Resolved :=
  { r with candidate := r.candidate.map DirectionalCandidate.opposite }

/-- The verdict with the other direction. -/
def JudgeVerdict.mirror (verdict : JudgeVerdict) : JudgeVerdict :=
  { verdict with direction := verdict.direction.map DirectionalCandidate.opposite }

variable {technical : TechnicalSupervision} {mapping : DirectionMap} {role : EvidenceRole}

/-! ## Readings -/

/-- The opposite word is read as the other direction. -/
def DirectionMap.Symmetric (mapping : DirectionMap) : Prop :=
  ∀ value, mapping.lookup (mirrorValue value) =
    (mapping.lookup value).map DirectionalCandidate.opposite

theorem lookup_pair (long short value : String) :
    ([(long, .longCandidate), (short, .shortCandidate)] : DirectionMap).lookup value =
      if value = long then some .longCandidate
      else if value = short then some .shortCandidate else none := by
  rw [List.lookup_cons, List.lookup_cons, List.lookup_nil]
  by_cases hlong : value = long
  · simp [hlong]
  · by_cases hshort : value = short
    · rw [if_neg hlong, if_pos hshort, beq_false_of_ne hlong]
      simp [hshort]
    · simp [hlong, hshort, beq_false_of_ne hlong, beq_false_of_ne hshort]

/-- A reading of two opposite words as the two directions is symmetric. -/
theorem symmetric_of_opposed {long short zero : String}
    (h : TechnicalAnalyst.Opposed long short zero) (hne : long ≠ short) :
    DirectionMap.Symmetric [(long, .longCandidate), (short, .shortCandidate)] := by
  intro value
  have hlong : mirrorValue value = long ↔ value = short := by
    rw [← h.negative_eq]
    exact mirrorValue.injective.eq_iff
  have hshort : mirrorValue value = short ↔ value = long := by
    rw [← h.positive_eq]
    exact mirrorValue.injective.eq_iff
  rw [lookup_pair, lookup_pair]
  simp only [hlong, hshort]
  by_cases hvl : value = long
  · rw [if_pos hvl, if_pos hvl, if_neg fun hvs => hne (hvl.symm.trans hvs)]
    rfl
  · rw [if_neg hvl, if_neg hvl]
    split_ifs <;> rfl

theorem trendDirectionMap_symmetric : trendDirectionMap.Symmetric :=
  symmetric_of_opposed TechnicalAnalyst.opposed_trend (by decide)

theorem breakDirectionMap_symmetric : breakDirectionMap.Symmetric :=
  symmetric_of_opposed TechnicalAnalyst.opposed_break (by decide)

theorem corroborators_symmetric :
    ∀ member ∈ trendFollowingCorroborators, member.2.Symmetric := by
  intro member hmember
  simp only [trendFollowingCorroborators, List.mem_cons, List.not_mem_nil, or_false] at hmember
  rcases hmember with rfl | rfl | rfl | rfl | rfl
  · exact symmetric_of_opposed TechnicalAnalyst.opposed_sma (by decide)
  · exact symmetric_of_opposed TechnicalAnalyst.opposed_trend (by decide)
  · exact symmetric_of_opposed TechnicalAnalyst.opposed_ordering (by decide)
  · exact symmetric_of_opposed TechnicalAnalyst.opposed_balance (by decide)
  · exact symmetric_of_opposed TechnicalAnalyst.opposed_midpoint (by decide)

/-! ## Resolutions -/

theorem observationAt_mirror (results : List TechnicalAnalysisResult) (ref : ℕ × ℕ) :
    observationAt (results.map TechnicalAnalysisResult.mirror) ref =
      (observationAt results ref).map TechnicalAnalysisObservation.mirror := by
  rw [observationAt, observationAt, List.getElem?_map]
  cases results[ref.1]? with
  | none => rfl
  | some result => exact List.getElem?_map

theorem resolveCoherenceEntry_mirror (hmapping : mapping.Symmetric)
    (entry : TechnicalCoherenceResult) :
    resolveCoherenceEntry technical.mirror mapping role entry =
      (resolveCoherenceEntry technical mapping role entry).map Resolved.mirror := by
  unfold resolveCoherenceEntry
  cases entry.verdict with
  | mixed => rfl
  | insufficientData => rfl
  | allAgree =>
      dsimp only
      cases entry.evidenceRefs.head? with
      | none => rfl
      | some first =>
          simp only [Option.bind_some]
          rw [show technical.mirror.analystResults =
            technical.analystResults.map TechnicalAnalysisResult.mirror from rfl,
            observationAt_mirror]
          cases observationAt technical.analystResults first with
          | none => rfl
          | some observation =>
              simp only [Option.map_some]
              rw [show observation.mirror.value = mirrorValue observation.value from rfl,
                hmapping observation.value]
              cases mapping.lookup observation.value <;> rfl

theorem resolveSingleDimension_mirror (hmapping : mapping.Symmetric)
    (dimension : TechnicalAnalysisDimension) :
    resolveSingleDimension technical.mirror dimension mapping role =
      (resolveSingleDimension technical dimension mapping role).map Resolved.mirror := by
  unfold resolveSingleDimension
  rw [show findCoherenceEntries technical.mirror dimension =
    findCoherenceEntries technical dimension from rfl]
  cases findCoherenceEntries technical dimension with
  | nil => rfl
  | cons entry rest => exact resolveCoherenceEntry_mirror hmapping entry

variable {direction : DirectionalCandidate} {resolved : List Resolved}

theorem opposing_mirror : opposing direction.opposite (resolved.map Resolved.mirror) =
    opposing direction resolved := by
  unfold opposing
  rw [List.filter_map, List.flatMap_map]
  congr 1
  refine List.filter_congr fun x _ => ?_
  simp only [Function.comp, Resolved.mirror, Option.isSome_map, decide_eq_decide]
  rw [← Option.map_some, (Option.map_injective
    DirectionalCandidate.opposite_injective).ne_iff]

theorem directions_mirror : directions (resolved.map Resolved.mirror) =
    (directions resolved).map DirectionalCandidate.opposite := by
  unfold directions
  rw [List.filter_map, List.filterMap_map, List.map_filterMap]
  congr 1
  refine List.filter_congr fun x _ => ?_
  simp [Resolved.mirror]

theorem directedRefs_mirror : directedRefs (resolved.map Resolved.mirror) =
    directedRefs resolved := by
  unfold directedRefs
  rw [List.filter_map, List.flatMap_map]
  congr 1
  refine List.filter_congr fun x _ => ?_
  simp [Resolved.mirror]

theorem corroboratingVetoRefs_mirror (direction : DirectionalCandidate) :
    corroboratingVetoRefs technical.mirror direction.opposite =
      corroboratingVetoRefs technical direction := by
  unfold corroboratingVetoRefs
  congr 1
  refine mapM_congr fun member hmember => ?_
  have hresolve : resolveCoherenceEntry technical.mirror member.2 .corroborating =
      fun entry => (resolveCoherenceEntry technical member.2 .corroborating entry).map
        Resolved.mirror :=
    funext fun entry => resolveCoherenceEntry_mirror (corroborators_symmetric member hmember) entry
  dsimp only
  rw [show findCoherenceEntries technical.mirror member.1 =
    findCoherenceEntries technical member.1 from rfl, hresolve, mapM_map_ok]
  cases (findCoherenceEntries technical member.1).mapM
      (resolveCoherenceEntry technical member.2 .corroborating) with
  | error e => rfl
  | ok resolved => exact congrArg Except.ok opposing_mirror

/-! ## The technical families -/

theorem judgePrimaries_mirror (resolved : List Resolved) :
    judgePrimaries technical.mirror (resolved.map Resolved.mirror) =
      (judgePrimaries technical resolved).map JudgeVerdict.mirror := by
  unfold judgePrimaries
  rw [directions_mirror, directedRefs_mirror]
  cases directions resolved with
  | nil => rfl
  | cons direction rest =>
      have hother : (∃ other ∈ rest.map DirectionalCandidate.opposite,
          other ≠ direction.opposite) ↔ ∃ other ∈ rest, other ≠ direction := by
        simp [DirectionalCandidate.opposite_injective.eq_iff]
      simp only [List.map_cons, hother, corroboratingVetoRefs_mirror]
      split_ifs
      · rfl
      · cases corroboratingVetoRefs technical direction with
        | error e => rfl
        | ok vetoRefs =>
            simp only [bind, Except.bind]
            split_ifs <;> rfl

theorem judgeTrendFollowing_mirror (technical : TechnicalSupervision) :
    judgeTrendFollowing (some technical.mirror) =
      (judgeTrendFollowing (some technical)).map JudgeVerdict.mirror := by
  unfold judgeTrendFollowing
  dsimp only
  rw [resolveSingleDimension_mirror trendDirectionMap_symmetric,
    resolveSingleDimension_mirror trendDirectionMap_symmetric]
  cases resolveSingleDimension technical .returnDirection trendDirectionMap .primary with
  | error e => rfl
  | ok returned =>
      simp only [Except.map, bind, Except.bind]
      rw [show returned.mirror.conflict = returned.conflict from rfl]
      split_ifs
      · rfl
      · cases resolveSingleDimension technical .slopeDirection trendDirectionMap .primary with
        | error e => rfl
        | ok slope =>
            dsimp only
            rw [show slope.mirror.conflict = slope.conflict from rfl]
            split_ifs
            · rfl
            · exact judgePrimaries_mirror [returned, slope]

theorem confirmsBreak_mirror (observation : TechnicalAnalysisObservation) :
    ConfirmsBreak observation.mirror ↔ ConfirmsBreak observation := by
  have hfixed : mirrorValue "BREAK_CONFIRMED" = "BREAK_CONFIRMED" := by decide +kernel
  rw [ConfirmsBreak, ConfirmsBreak, ← mirrorValue.injective.eq_iff (a := observation.value), hfixed]
  rfl

theorem structuralBreakConfirmedRefs_mirror (technical : TechnicalSupervision) :
    structuralBreakConfirmedRefs technical.mirror = structuralBreakConfirmedRefs technical := by
  unfold structuralBreakConfirmedRefs
  rw [show technical.mirror.analystResults =
    technical.analystResults.map TechnicalAnalysisResult.mirror from rfl, List.zipIdx_map,
    List.flatMap_map]
  refine List.flatMap_congr fun member _ => ?_
  dsimp only [Prod.map]
  rw [show (TechnicalAnalysisResult.mirror member.1).key = member.1.key from rfl,
    show (TechnicalAnalysisResult.mirror member.1).observations =
      member.1.observations.map TechnicalAnalysisObservation.mirror from rfl, List.zipIdx_map,
    List.filter_map, List.map_map]
  split_ifs
  · refine congrArg₂ List.map rfl (List.filter_congr fun observed _ => ?_)
    obtain ⟨observation, index⟩ := observed
    exact decide_eq_decide.mpr (confirmsBreak_mirror observation)
  · rfl

theorem judgeBreakout_mirror (technical : TechnicalSupervision) :
    judgeBreakout (some technical.mirror) =
      (judgeBreakout (some technical)).map JudgeVerdict.mirror := by
  unfold judgeBreakout
  dsimp only
  rw [resolveSingleDimension_mirror breakDirectionMap_symmetric,
    resolveSingleDimension_mirror trendDirectionMap_symmetric,
    structuralBreakConfirmedRefs_mirror]
  cases resolveSingleDimension technical .latestBreakDirection breakDirectionMap .primary with
  | error e => rfl
  | ok latest =>
      simp only [Except.map, bind, Except.bind]
      rw [show latest.mirror.conflict = latest.conflict from rfl]
      by_cases hconflict : latest.conflict = true
      · rw [if_pos hconflict, if_pos hconflict]
        rfl
      rw [if_neg hconflict, if_neg hconflict]
      cases hcandidate : latest.candidate with
      | none =>
          simp only [Resolved.mirror, hcandidate, Option.map_none]
          rfl
      | some direction =>
          simp only [Resolved.mirror, hcandidate, Option.map_some]
          by_cases hrefs : structuralBreakConfirmedRefs technical = []
          · rw [if_pos hrefs, if_pos hrefs]
            rfl
          rw [if_neg hrefs, if_neg hrefs]
          cases resolveSingleDimension technical .returnDirection trendDirectionMap
              .corroborating with
          | error e => rfl
          | ok returned =>
              have hopposite : ((returned.candidate.map DirectionalCandidate.opposite).isSome ∧
                  returned.candidate.map DirectionalCandidate.opposite ≠
                    some direction.opposite) ↔
                  (returned.candidate.isSome ∧ returned.candidate ≠ some direction) := by
                rw [← Option.map_some, Option.isSome_map, (Option.map_injective
                  DirectionalCandidate.opposite_injective).ne_iff]
              simp only [hopposite]
              split_ifs <;> rfl

/-! ## The whole path -/

/-- The technical families' verdicts with the other direction. -/
def JudgeFamilyResult.mirror (result : JudgeFamilyResult) : JudgeFamilyResult :=
  if result.family = .trendFollowing ∨ result.family = .breakout then
    { result.toJudgeVerdict.mirror with family := result.family }
  else result

/-- The verdict of one family, validated. -/
def judgedFamily (r : RoutedEvaluation) (family : StrategyFamily) :
    Except JudgeError JudgeFamilyResult := do
  let verdict ← judgeFamily r family
  JudgeFamilyResult.construct family verdict

/-- A verdict with the other direction is accepted alike. -/
theorem construct_mirror (family : StrategyFamily) (verdict : JudgeVerdict) :
    JudgeFamilyResult.construct family verdict.mirror =
      (JudgeFamilyResult.construct family verdict).map fun result =>
        { result.toJudgeVerdict.mirror with family := result.family } := by
  have hdirection : JudgeFamilyResult.checkDirection { verdict.mirror with family } =
      JudgeFamilyResult.checkDirection { verdict with family } := by
    unfold JudgeFamilyResult.checkDirection
    cases hd : verdict.direction <;> simp [JudgeVerdict.mirror, hd]
  have hvalid : JudgeFamilyResult.validate { verdict.mirror with family } =
      JudgeFamilyResult.validate { verdict with family } := by
    unfold JudgeFamilyResult.validate
    rw [hdirection]
    rfl
  unfold JudgeFamilyResult.construct
  dsimp only
  rw [hvalid, bind_map]
  rfl

theorem JudgeFamilyResult.mirror_family (result : JudgeFamilyResult) :
    result.mirror.family = result.family := by
  unfold JudgeFamilyResult.mirror
  split_ifs <;> rfl

theorem JudgeFamilyResult.mirror_evidenceRefs (result : JudgeFamilyResult) :
    result.mirror.evidenceRefs = result.evidenceRefs := by
  unfold JudgeFamilyResult.mirror
  split_ifs <;> rfl

/-- A technical family that is judged to the other direction. -/
theorem judged_technical {family : StrategyFamily} (hfamily : family = .trendFollowing ∨
      family = .breakout) {x y : Except JudgeError JudgeVerdict}
    (h : y = x.map JudgeVerdict.mirror) :
    (y >>= JudgeFamilyResult.construct family) =
      (x >>= JudgeFamilyResult.construct family).map JudgeFamilyResult.mirror := by
  rw [h, bind_map]
  cases x with
  | error e => rfl
  | ok verdict =>
      change JudgeFamilyResult.construct family verdict.mirror =
        (JudgeFamilyResult.construct family verdict).map JudgeFamilyResult.mirror
      rw [construct_mirror]
      cases hc : JudgeFamilyResult.construct family verdict with
      | error e => rfl
      | ok result =>
          refine congrArg Except.ok ?_
          rw [JudgeFamilyResult.mirror, if_pos]
          rwa [JudgeFamilyResult.construct_ok hc]

/-- A family that does not read the technical evidence. -/
theorem judged_other {family : StrategyFamily} (hfamily : ¬ (family = .trendFollowing ∨
      family = .breakout)) (x : Except JudgeError JudgeVerdict) :
    (x >>= JudgeFamilyResult.construct family) =
      (x >>= JudgeFamilyResult.construct family).map JudgeFamilyResult.mirror := by
  rw [bind_map]
  cases x with
  | error e => rfl
  | ok verdict =>
      change JudgeFamilyResult.construct family verdict =
        (JudgeFamilyResult.construct family verdict).map JudgeFamilyResult.mirror
      cases hc : JudgeFamilyResult.construct family verdict with
      | error e => rfl
      | ok result =>
          refine congrArg Except.ok ?_
          rw [JudgeFamilyResult.mirror, if_neg]
          rwa [JudgeFamilyResult.construct_ok hc]

theorem judgedFamily_mirror (r : RoutedEvaluation) (technical : TechnicalSupervision)
    (family : StrategyFamily) :
    judgedFamily { r with technical := some technical.mirror } family =
      (judgedFamily { r with technical := some technical } family).map
        JudgeFamilyResult.mirror := by
  cases family with
  | trendFollowing => exact judged_technical (.inl rfl) (judgeTrendFollowing_mirror technical)
  | meanReversion => exact judged_other (by decide) (.ok judgeMeanReversion)
  | breakout => exact judged_technical (.inr rfl) (judgeBreakout_mirror technical)
  | eventDriven =>
      exact judged_other (by decide) (judgeEventDriven { r with technical := some technical })

theorem observationCounts_mirror (r : RoutedEvaluation) (technical : TechnicalSupervision) :
    ({ r with technical := some technical.mirror } : RoutedEvaluation).observationCounts =
      ({ r with technical := some technical } : RoutedEvaluation).observationCounts := by
  funext contour
  cases contour with
  | technical =>
      refine congrArg some ?_
      dsimp only
      rw [show technical.mirror.analystResults =
        technical.analystResults.map TechnicalAnalysisResult.mirror from rfl, List.map_map]
      exact List.map_congr_left fun result _ => List.length_map _
  | flow => rfl
  | external => rfl

theorem validateRef_mirror (r : RoutedEvaluation) (technical : TechnicalSupervision) :
    validateRef { r with technical := some technical.mirror } =
      validateRef { r with technical := some technical } := by
  unfold validateRef
  rw [observationCounts_mirror]

/-- The verdicts on candle series; the other contours are those of a routed evaluation. -/
def judgeSeries (parameters : TechnicalParameters) (analysts : List TechnicalAnalystType)
    (timeframes : List Timeframe) (identity : TechnicalIdentity) (r : RoutedEvaluation)
    (series : List (Timeframe × List OHLCVCandle)) :
    Except (CoherenceError ⊕ JudgeError) (List JudgeFamilyResult) := do
  let technical ← (analyzeSeries parameters analysts timeframes identity series).mapError Sum.inl
  let result ← (Judge.judge { r with technical := some technical }).mapError Sum.inr
  return result.familyResults

theorem judge_mirror (r : RoutedEvaluation) (technical : TechnicalSupervision) :
    (Judge.judge { r with technical := some technical.mirror }).map
        StrategyJudgeResult.familyResults =
      (Judge.judge { r with technical := some technical }).map fun result =>
        result.familyResults.map JudgeFamilyResult.mirror := by
  have hmap : r.eligibleFamilies.mapM
      (judgedFamily { r with technical := some technical.mirror }) =
      (r.eligibleFamilies.mapM (judgedFamily { r with technical := some technical })).map
        (List.map JudgeFamilyResult.mirror) := by
    rw [← mapM_map_ok]
    exact mapM_congr fun family _ => judgedFamily_mirror r technical family
  have hvalid : ∀ familyResults : List JudgeFamilyResult,
      StrategyJudgeResult.validate ⟨{ r with technical := some technical.mirror },
        familyResults.map JudgeFamilyResult.mirror⟩ =
      StrategyJudgeResult.validate ⟨{ r with technical := some technical }, familyResults⟩ := by
    intro familyResults
    unfold StrategyJudgeResult.validate
    dsimp only
    rw [show (familyResults.map JudgeFamilyResult.mirror).forM (fun verdict =>
        verdict.evidenceRefs.forM (validateRef { r with technical := some technical.mirror }
          verdict.family)) = familyResults.forM fun verdict => verdict.mirror.evidenceRefs.forM
        (validateRef { r with technical := some technical.mirror } verdict.mirror.family) from
      List.forM_map, List.map_map, validateRef_mirror]
    simp only [JudgeFamilyResult.mirror_family, JudgeFamilyResult.mirror_evidenceRefs,
      Function.comp_def]
  unfold Judge.judge
  simp only [bind_map]
  change (r.eligibleFamilies.mapM
      (judgedFamily { r with technical := some technical.mirror }) >>= _) =
    (r.eligibleFamilies.mapM (judgedFamily { r with technical := some technical }) >>= _)
  rw [hmap]
  cases r.eligibleFamilies.mapM (judgedFamily { r with technical := some technical }) with
  | error e => rfl
  | ok familyResults =>
      simp only [Except.map, bind, Except.bind, hvalid]
      rfl

/-- **The technical path has no directional bias: on mirrored series the same outcomes rest on the
same references, with the directions exchanged.** -/
theorem judgeSeries_mirror {c : Price} {series : List (Timeframe × List OHLCVCandle)}
    (h : ∀ member ∈ series, ∀ candle ∈ member.2, candle.Within c)
    (parameters : TechnicalParameters) (analysts : List TechnicalAnalystType)
    (timeframes : List Timeframe) (identity : TechnicalIdentity) (r : RoutedEvaluation) :
    judgeSeries parameters analysts timeframes identity r (mirrorSeries c series) =
      (judgeSeries parameters analysts timeframes identity r series).map
        (List.map JudgeFamilyResult.mirror) := by
  unfold judgeSeries
  rw [analyzeSeries_mirror parameters identity h]
  cases analyzeSeries parameters analysts timeframes identity series with
  | error e => rfl
  | ok technical =>
      have hjudge := judge_mirror r technical
      change ((Judge.judge { r with technical := some technical.mirror }).mapError Sum.inr >>=
          fun result => pure result.familyResults) =
        (((Judge.judge { r with technical := some technical }).mapError Sum.inr) >>=
          fun result => pure result.familyResults).map _
      rw [mapError_bind_pure, hjudge]
      cases Judge.judge { r with technical := some technical } <;> rfl

/-! ## The rising series -/

/-- What is judged beside the technical evidence: trends only. -/
def trendsOnly : RoutedEvaluation where
  eligibleFamilies := [.trendFollowing]
  aligned := fun _ h => by cases h
  canonical := by decide

/-- The rising series and its mirror. -/
theorem judgeSeries_mirror_sample :
    judgeSeries shortLookbacks technicalAnalysts canonicalTimeframes sampleIdentity trendsOnly
        (mirrorSeries 100 risingSeries) =
      (judgeSeries shortLookbacks technicalAnalysts canonicalTimeframes sampleIdentity trendsOnly
        risingSeries).map (List.map JudgeFamilyResult.mirror) :=
  judgeSeries_mirror (by decide +kernel) shortLookbacks technicalAnalysts canonicalTimeframes
    sampleIdentity trendsOnly

example : (judgeSeries shortLookbacks technicalAnalysts canonicalTimeframes sampleIdentity
    trendsOnly risingSeries).toOption.map (List.map fun result => result.direction) =
      some [some .longCandidate] := by
  decide +kernel

end TradingAdvisor
