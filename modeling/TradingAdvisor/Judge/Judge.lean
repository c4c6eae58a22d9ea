import TradingAdvisor.ExternalIntelligence.NewsSentiment
import TradingAdvisor.Judge.Verdict
import TradingAdvisor.MarketEvaluation.Evaluator
import TradingAdvisor.Technical.Coherence

/-!
# The judge

For every routed family the judge reads the evidence the family rests on: the coherence of the
technical dimensions, the confirmed breaks, or the agreement of the sentiment providers. Each
dimension has its own reading of values as directions. Evidence of the flow contour is never read.

* `RoutedEvaluation` — what the judge is given;
* `judgeTrendFollowing`, `judgeBreakout`, `judgeEventDriven` — the rules of the families;
* `Judge.judge` — the verdicts, validated.
-/

namespace TradingAdvisor

open Checks

/-! ## What the judge is given -/

/-- One external result by its type, scope and index. -/
structure ExternalIntelligenceScopeSummary where
  analystType : ExternalIntelligenceAnalystType
  symbol : Option Symbol := none
  resultIndex : ℕ
  deriving DecidableEq

/-- The external results and the summaries that point at them. -/
structure ExternalEvidence where
  scopeSummaries : List ExternalIntelligenceScopeSummary
  analysisResults : List ExternalIntelligenceAnalysisResult
  summarizes : ∀ summary ∈ scopeSummaries, ∃ result,
    analysisResults[summary.resultIndex]? = some result ∧ result.analystType = summary.analystType

/-- A routed evaluation; of the flow contour only the number of observations of each result. -/
structure RoutedEvaluation where
  technical : Option TechnicalSupervision := none
  flow : Option (List ℕ) := none
  external : Option ExternalEvidence := none
  externalScopeAlignment : List (ℕ × ExternalScopeMatchKind) := []
  eligibleFamilies : List StrategyFamily
  aligned : ∀ e ∈ external, ∀ ref ∈ externalScopeAlignment, ∃ summary,
    e.scopeSummaries[ref.1]? = some summary ∧
      (ref.2 = .symbol → summary.analystType = .newsSentiment)
  canonical : eligibleFamilies.Sublist StrategyFamily.order

/-! ## Readings of values as directions -/

/-- A reading of the values of one dimension; a value that is absent has no direction. -/
abbrev DirectionMap := List (String × DirectionalCandidate)

/-- Sign of a return or of a slope. -/
def trendDirectionMap : DirectionMap := [("UPWARD", .longCandidate), ("DOWNWARD", .shortCandidate)]

/-- Direction of the latest break. -/
def breakDirectionMap : DirectionMap :=
  [("UPWARD_BREAK", .longCandidate), ("DOWNWARD_BREAK", .shortCandidate)]

/-- Price against a moving average. -/
def priceVsSmaMap : DirectionMap := [("ABOVE_SMA", .longCandidate), ("BELOW_SMA", .shortCandidate)]

/-- Slope of a moving average. -/
def maSlopeMap : DirectionMap := [("UPWARD", .longCandidate), ("DOWNWARD", .shortCandidate)]

/-- Order of the fastest and the slowest moving average. -/
def multiPeriodMaMap : DirectionMap :=
  [("FASTER_ABOVE_SLOWER", .longCandidate), ("FASTER_BELOW_SLOWER", .shortCandidate)]

/-- Balance of the swing sequence. -/
def structuralSequenceMap : DirectionMap :=
  [("UPWARD_STRUCTURE", .longCandidate), ("DOWNWARD_STRUCTURE", .shortCandidate)]

/-- The relative strength index against its midpoint. -/
def rsiMidpointMap : DirectionMap :=
  [("ABOVE_MIDPOINT", .longCandidate), ("BELOW_MIDPOINT", .shortCandidate)]

/-- Sign of a provider's sentiment. -/
def sentimentMap : DirectionMap := [("POSITIVE", .longCandidate), ("NEGATIVE", .shortCandidate)]

/-- The dimensions that may veto a trend. -/
def trendFollowingCorroborators : List (TechnicalAnalysisDimension × DirectionMap) :=
  [(.priceVsSmaPosition, priceVsSmaMap), (.maSlopeDirection, maSlopeMap),
    (.multiPeriodMaOrdering, multiPeriodMaMap), (.structuralSequenceBalance, structuralSequenceMap),
    (.rsiMidpointRelation, rsiMidpointMap)]

/-! ## Technical evidence -/

/-- What one dimension says: a conflict, a direction, or nothing. -/
structure Resolved where
  conflict : Bool := false
  candidate : Option DirectionalCandidate := none
  refs : List JudgeEvidenceRef := []

/-- A dimension that says nothing. -/
def unresolved : Resolved := {}

/-- References to technical observations. -/
def technicalRefs (role : EvidenceRole) (refs : List (ℕ × ℕ)) : List JudgeEvidenceRef :=
  refs.map fun ref => ⟨.technical, role, ref.1, ref.2⟩

/-- What a tally says; when all agree, the first observation has the value of all. -/
def resolveCoherenceEntry (technical : TechnicalSupervision) (mapping : DirectionMap)
    (role : EvidenceRole) (entry : TechnicalCoherenceResult) : Except JudgeError Resolved :=
  match entry.verdict with
  | .mixed => .ok { conflict := true, refs := technicalRefs role entry.evidenceRefs }
  | .insufficientData => .ok unresolved
  | .allAgree =>
      match entry.evidenceRefs.head?.bind (observationAt technical.analystResults) with
      | none => .error .indexError
      | some observation =>
          match mapping.lookup observation.value with
          | none => .ok unresolved
          | some candidate =>
              .ok { candidate := some candidate, refs := technicalRefs role entry.evidenceRefs }

/-- The tallies of a dimension. -/
def findCoherenceEntries (technical : TechnicalSupervision)
    (dimension : TechnicalAnalysisDimension) : List TechnicalCoherenceResult :=
  technical.coherence.filter fun entry => entry.dimension = dimension

/-- What a dimension with at most one tally says. -/
def resolveSingleDimension (technical : TechnicalSupervision)
    (dimension : TechnicalAnalysisDimension) (mapping : DirectionMap) (role : EvidenceRole) :
    Except JudgeError Resolved :=
  match findCoherenceEntries technical dimension with
  | [] => .ok unresolved
  | entry :: _ => resolveCoherenceEntry technical mapping role entry

/-- A conflict of evidence. -/
def mixedVerdict (refs : List JudgeEvidenceRef) : JudgeVerdict where
  outcome := .mixed
  evidenceRefs := canonicalize refs

/-- No usable evidence. -/
def insufficientVerdict : JudgeVerdict where
  outcome := .insufficientEvidence

/-- One agreed direction. -/
def directionalVerdict (direction : DirectionalCandidate) (refs : List JudgeEvidenceRef) :
    JudgeVerdict where
  outcome := .directional
  direction := some direction
  evidenceRefs := canonicalize refs

/-- The references of the resolutions that point the other way. -/
def opposing (direction : DirectionalCandidate) (resolved : List Resolved) :
    List JudgeEvidenceRef :=
  (resolved.filter fun r => r.candidate.isSome ∧ r.candidate ≠ some direction).flatMap Resolved.refs

/-- Only a corroborator with the opposite direction vetoes; one without a direction is silent. -/
def corroboratingVetoRefs (technical : TechnicalSupervision) (direction : DirectionalCandidate) :
    Except JudgeError (List JudgeEvidenceRef) := do
  let vetoes ← trendFollowingCorroborators.mapM fun (dimension, mapping) => do
    let resolved ← (findCoherenceEntries technical dimension).mapM
      (resolveCoherenceEntry technical mapping .corroborating)
    return opposing direction resolved
  return vetoes.flatten

/-- The directions of the resolutions that have one. -/
def directions (resolved : List Resolved) : List DirectionalCandidate :=
  (resolved.filter fun r => r.candidate.isSome).filterMap Resolved.candidate

/-- The references of the resolutions that have a direction. -/
def directedRefs (resolved : List Resolved) : List JudgeEvidenceRef :=
  (resolved.filter fun r => r.candidate.isSome).flatMap Resolved.refs

/-- The direction that the primary dimensions share, unless a corroborator points the other
way. -/
def judgePrimaries (technical : TechnicalSupervision) (resolved : List Resolved) :
    Except JudgeError JudgeVerdict :=
  match directions resolved with
  | [] => .ok insufficientVerdict
  | direction :: rest =>
      if ∃ other ∈ rest, other ≠ direction then .ok (mixedVerdict (directedRefs resolved))
      else do
        let vetoRefs ← corroboratingVetoRefs technical direction
        if vetoRefs ≠ [] then
          return mixedVerdict (directedRefs resolved ++ vetoRefs)
        else
          return directionalVerdict direction (directedRefs resolved)

/-- A trend: the signs of return and slope. -/
def judgeTrendFollowing : Option TechnicalSupervision → Except JudgeError JudgeVerdict
  | none => .ok insufficientVerdict
  | some technical => do
      let returned ← resolveSingleDimension technical .returnDirection trendDirectionMap .primary
      if returned.conflict then
        return mixedVerdict returned.refs
      else do
        let slope ← resolveSingleDimension technical .slopeDirection trendDirectionMap .primary
        if slope.conflict then
          return mixedVerdict slope.refs
        else judgePrimaries technical [returned, slope]

/-- No dimension is evidence of a reversion. -/
def judgeMeanReversion : JudgeVerdict := insufficientVerdict

/-- The observation that a break is confirmed. -/
def ConfirmsBreak (observation : TechnicalAnalysisObservation) : Prop :=
  observation.dimension = .structuralBreakPresence ∧ observation.value = "BREAK_CONFIRMED"

instance (observation : TechnicalAnalysisObservation) : Decidable (ConfirmsBreak observation) :=
  inferInstanceAs (Decidable (_ ∧ _))

/-- The confirmed breaks that the market-structure analysts observed. -/
def structuralBreakConfirmedRefs (technical : TechnicalSupervision) : List JudgeEvidenceRef :=
  technical.analystResults.zipIdx.flatMap fun (result, resultIndex) =>
    if result.key.1 = .marketStructure then
      (result.observations.zipIdx.filter fun (observation, _) => ConfirmsBreak observation).map
        fun (_, observationIndex) => ⟨.technical, .primary, resultIndex, observationIndex⟩
    else []

/-- A breakout: a confirmed break with an agreed direction, unless the return points the other
way. -/
def judgeBreakout : Option TechnicalSupervision → Except JudgeError JudgeVerdict
  | none => .ok insufficientVerdict
  | some technical => do
      let confirmedRefs := structuralBreakConfirmedRefs technical
      let latest ← resolveSingleDimension technical .latestBreakDirection breakDirectionMap .primary
      if latest.conflict then
        return mixedVerdict latest.refs
      else
        match latest.candidate with
        | none => return insufficientVerdict
        | some direction =>
            if confirmedRefs = [] then
              return insufficientVerdict
            else do
              let primaryRefs := confirmedRefs ++ latest.refs
              let returned ← resolveSingleDimension technical .returnDirection trendDirectionMap
                .corroborating
              if returned.candidate.isSome ∧ returned.candidate ≠ some direction then
                return mixedVerdict (primaryRefs ++ returned.refs)
              else
                return directionalVerdict direction primaryRefs

/-! ## News evidence -/

/-- The results of the news scopes that match the symbol, each once and in order. -/
def alignedNewsSentimentResultIndices (r : RoutedEvaluation) : List ℕ :=
  match r.external with
  | none => []
  | some external =>
      ((r.externalScopeAlignment.filterMap fun ref =>
        if ref.2 = .symbol then
          external.scopeSummaries[ref.1]?.bind fun summary =>
            if summary.analystType = .newsSentiment then some summary.resultIndex else none
        else none).dedup).insertionSort (· ≤ ·)

/-- The references to the provider signs of a result whose value satisfies a condition. -/
def signRefs (resultIndex : ℕ) (result : ExternalIntelligenceAnalysisResult)
    (p : String → Bool) : List JudgeEvidenceRef :=
  (result.observations.zipIdx.filter fun (observation, _) =>
    observation.dimension = .perProviderSentimentSign ∧ p observation.value).map
      fun (_, index) => ⟨.external, .primary, resultIndex, index⟩

/-- What the providers of one result say. -/
def resolveNewsSentimentResult (external : ExternalEvidence) (resultIndex : ℕ) :
    Except JudgeError Resolved :=
  match external.analysisResults[resultIndex]? with
  | none => .error .indexError
  | some result =>
      match result.agreement with
      | none => .ok unresolved
      | some agreement =>
          if agreement = "MIXED" then
            .ok {
              conflict := true
              refs := signRefs resultIndex result fun value =>
                value = "POSITIVE" ∨ value = "NEGATIVE" }
          else if agreement ≠ "ALL_AGREE" then .ok unresolved
          else
            match result.providerSigns.find? fun value => (sentimentMap.lookup value).isSome with
            | none => .ok unresolved
            | some value =>
                .ok {
                  candidate := sentimentMap.lookup value
                  refs := signRefs resultIndex result fun value' => value' = value }

/-- The direction that the results share. -/
def judgeDirections (resolved : List Resolved) : JudgeVerdict :=
  match directions resolved with
  | [] => insufficientVerdict
  | direction :: rest =>
      if ∃ other ∈ rest, other ≠ direction then mixedVerdict (directedRefs resolved)
      else directionalVerdict direction (directedRefs resolved)

/-- An event: the agreement of the sentiment providers. -/
def judgeEventDriven (r : RoutedEvaluation) : Except JudgeError JudgeVerdict :=
  match r.external with
  | none => .ok insufficientVerdict
  | some external => do
      let resolved ← (alignedNewsSentimentResultIndices r).mapM
        (resolveNewsSentimentResult external)
      match resolved.find? Resolved.conflict with
      | some conflicting => return mixedVerdict conflicting.refs
      | none => return judgeDirections resolved

/-! ## Verdicts -/

/-- The verdicts of the routed families. -/
structure StrategyJudgeResult where
  routed : RoutedEvaluation
  familyResults : List JudgeFamilyResult

/-- The numbers of observations of a contour's analyst results, when it took part. -/
def RoutedEvaluation.observationCounts (r : RoutedEvaluation) : JudgeContour → Option (List ℕ)
  | .technical => r.technical.map fun technical =>
      technical.analystResults.map fun result => result.observations.length
  | .flow => r.flow
  | .external => r.external.map fun external =>
      external.analysisResults.map fun result => result.observations.length

/-- A reference points at an observation. -/
def validateRef (r : RoutedEvaluation) (family : StrategyFamily) (ref : JudgeEvidenceRef) :
    Except JudgeError Unit :=
  match r.observationCounts ref.contour with
  | none => .error (.unavailableContour ref.contour family)
  | some counts =>
      match counts[ref.analystResultIndex]? with
      | none => .error (.invalidResultIndex ref.analystResultIndex ref.contour)
      | some count => check (ref.observationIndex < count)
          (.invalidObservationIndex ref.observationIndex ref.contour ref.analystResultIndex)

/-- The validators of the verdicts, in order. -/
def StrategyJudgeResult.validate (result : StrategyJudgeResult) : Except JudgeError Unit := do
  check (result.familyResults.map JudgeFamilyResult.family = result.routed.eligibleFamilies)
    (.validation "family_results must cover exactly eligible_families, in canonical order")
  result.familyResults.forM fun verdict =>
    verdict.evidenceRefs.forM (validateRef result.routed verdict.family)

/-- The verdict of one family. -/
def judgeFamily (r : RoutedEvaluation) : StrategyFamily → Except JudgeError JudgeVerdict
  | .trendFollowing => judgeTrendFollowing r.technical
  | .meanReversion => .ok judgeMeanReversion
  | .breakout => judgeBreakout r.technical
  | .eventDriven => judgeEventDriven r

/-- Judge every routed family. -/
def Judge.judge (r : RoutedEvaluation) : Except JudgeError StrategyJudgeResult := do
  let familyResults ← r.eligibleFamilies.mapM fun family => do
    let verdict ← judgeFamily r family
    JudgeFamilyResult.construct family verdict
  let result : StrategyJudgeResult := { routed := r, familyResults }
  result.validate
  return result

end TradingAdvisor
