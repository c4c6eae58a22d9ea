import TradingAdvisor.Judge.Judge
import TradingAdvisor.Lib.Recheck

/-!
# The policy gate

Whether a family that the judge has a verdict on may proceed to risk review: a directional verdict
proceeds unless an observation it cites is stale or unavailable. The gate reads the outcome of the
judge and the quality of the cited observations, and the result model derives its verdicts again.

* `resolveObservationQuality` — the quality of a cited observation;
* `PolicyGate.StrategyPolicyResult.validate` — the checks of the result model;
* `PolicyGate.apply` — the gate;
* **`PolicyGate.accepted_iff`**: a result is accepted exactly when the gate computes it;
* **`PolicyGate.exists_apply`**: the gate never fails on a verdict of the judge.
-/

namespace TradingAdvisor

open Checks Recheck

/-- The verdicts of the judge with the qualities of the flow observations they may cite. -/
structure GradedJudgeResult extends StrategyJudgeResult where
  flowQualities : Option (List (List FeatureQuality))
  flow_counts : routed.flow = flowQualities.map fun results => results.map List.length

namespace PolicyGate

/-- Verdict across every family. -/
inductive PolicyGateOutcome
  | someEligibleForRiskReview
  | noEligibleFamily
  deriving DecidableEq, Repr

/-- The value of the outcome in messages. -/
def PolicyGateOutcome.value : PolicyGateOutcome → String
  | someEligibleForRiskReview => "SOME_ELIGIBLE_FOR_RISK_REVIEW"
  | noEligibleFamily => "NO_ELIGIBLE_FAMILY"

/-- Why a family is blocked. -/
inductive PolicyBlockReason
  | judgeOutcomeMixed
  | judgeOutcomeInsufficientEvidence
  | disallowedEvidenceQuality
  deriving DecidableEq, Repr

namespace PolicyBlockReason

/-- The value of the reason in messages. -/
def value : PolicyBlockReason → String
  | judgeOutcomeMixed => "JUDGE_OUTCOME_MIXED"
  | judgeOutcomeInsufficientEvidence => "JUDGE_OUTCOME_INSUFFICIENT_EVIDENCE"
  | disallowedEvidenceQuality => "DISALLOWED_EVIDENCE_QUALITY"

/-- The reasons in declaration order. -/
def order : List PolicyBlockReason :=
  [judgeOutcomeMixed, judgeOutcomeInsufficientEvidence, disallowedEvidenceQuality]

/-- Position in declaration order. -/
def index (reason : PolicyBlockReason) : ℕ := order.idxOf reason

end PolicyBlockReason

/-- What the gate and its result model can raise. -/
inductive PolicyError
  | validation (message : String)
  | attributeError
  | indexError
  deriving DecidableEq, Repr

/-- A pointer to a cited observation whose quality is not allowed. -/
structure PolicyEvidenceQualityViolation where
  judgeEvidenceRefIndex : ℕ
  resolvedQuality : FeatureQuality
  deriving DecidableEq, Repr

/-- One family's policy verdict, with the reasons of a block. -/
structure PolicyFamilyResult extends TradingAdvisor.PolicyFamilyResult where
  reasons : List PolicyBlockReason := []
  qualityViolations : List PolicyEvidenceQualityViolation := []
  deriving DecidableEq, Repr

/-- The checks of one family result. -/
def PolicyFamilyResult.validate (r : PolicyFamilyResult) : Except PolicyError Unit := do
  check (r.verdict = if r.reasons = [] then .eligibleForRiskReview else .blocked)
    (PolicyError.validation "verdict must be BLOCKED iff reasons is non-empty")
  check ((r.reasons.map PolicyBlockReason.index).Pairwise (· ≤ ·))
    (.validation "reasons must be in canonical PolicyBlockReason order")
  check (r.reasons.map PolicyBlockReason.index).Nodup
    (.validation "reasons must not contain duplicates")
  check (r.qualityViolations ≠ [] ↔ .disallowedEvidenceQuality ∈ r.reasons)
    (.validation ("quality_violations must be non-empty iff DISALLOWED_EVIDENCE_QUALITY is " ++
      "present in reasons"))
  check ((r.qualityViolations.map (·.judgeEvidenceRefIndex)).Pairwise (· ≤ ·))
    (.validation "quality_violations must be ordered by ascending judge_evidence_ref_index")
  check (r.qualityViolations.map (·.judgeEvidenceRefIndex)).Nodup
    (.validation "quality_violations must not contain duplicate judge_evidence_ref_index values")

/-- The policy verdict of every family the judge has a verdict on. -/
structure StrategyPolicyResult where
  strategyJudgeResult : GradedJudgeResult
  outcome : PolicyGateOutcome
  familyResults : List PolicyFamilyResult

/-! ## Qualities of cited observations -/

/-- The qualities of a contour's observations, when it took part. -/
def observationQualities (judge : GradedJudgeResult) :
    JudgeContour → Option (List (List FeatureQuality))
  | .technical => judge.routed.technical.map fun technical =>
      technical.analystResults.map fun result => result.observations.map (·.quality)
  | .flow => judge.flowQualities
  | .external => judge.routed.external.map fun external =>
      external.analysisResults.map fun result => result.observations.map (·.quality)

/-- The quality of the observation a reference points at. -/
def resolveObservationQuality (judge : GradedJudgeResult) (ref : JudgeEvidenceRef) :
    Except PolicyError FeatureQuality :=
  match observationQualities judge ref.contour with
  | none => .error .attributeError
  | some results =>
      match results[ref.analystResultIndex]? with
      | none => .error .indexError
      | some observations =>
          match observations[ref.observationIndex]? with
          | none => .error .indexError
          | some quality => .ok quality

/-- The qualities that may proceed. -/
def allowedEvidenceQualities : List FeatureQuality := [.valid, .partialData]

/-- The references whose quality is not allowed, by index. -/
def violationsOf (qualities : List FeatureQuality) : List PolicyEvidenceQualityViolation :=
  (qualities.zipIdx.filter fun entry => entry.1 ∉ allowedEvidenceQualities).map
    fun entry => ⟨entry.2, entry.1⟩

/-! ## The result model -/

/-- The outcome the family verdicts stand for. -/
def policyOutcome (familyResults : List PolicyFamilyResult) : PolicyGateOutcome :=
  if ∃ r ∈ familyResults, r.verdict = .eligibleForRiskReview then .someEligibleForRiskReview
  else .noEligibleFamily

/-- A verdict without a direction blocks its family for exactly one reason. -/
def validateStructuralBlock (judge : JudgeFamilyResult) (policy : PolicyFamilyResult)
    (reason : PolicyBlockReason) : Except PolicyError Unit := do
  let name := "family " ++ policy.family.value ++ ": " ++ judge.outcome.value
  check (policy.verdict = .blocked)
    (PolicyError.validation (name ++ " Judge outcome must be BLOCKED"))
  check (policy.reasons = [reason])
    (.validation (name ++ " Judge outcome must carry exactly (" ++ reason.value ++ ",)"))

/-- A directional verdict proceeds unless a cited quality is not allowed. -/
def validateDirectionalFamily (judge : GradedJudgeResult) (verdict : JudgeFamilyResult)
    (policy : PolicyFamilyResult) : Except PolicyError Unit := do
  let name := "family " ++ policy.family.value
  let qualities ← verdict.evidenceRefs.mapM (resolveObservationQuality judge)
  if violationsOf qualities = [] then
    check (policy.verdict = .eligibleForRiskReview)
      (PolicyError.validation (name ++ ": DIRECTIONAL Judge outcome with allowed evidence " ++
        "quality must be ELIGIBLE_FOR_RISK_REVIEW"))
  else do
    check (policy.verdict = .blocked)
      (PolicyError.validation (name ++ ": DIRECTIONAL Judge outcome with disallowed evidence " ++
        "quality must be BLOCKED"))
    check (policy.reasons = [.disallowedEvidenceQuality])
      (.validation (name ++
        ": disallowed-quality block must carry exactly (DISALLOWED_EVIDENCE_QUALITY,)"))
    check (SameDict (·.judgeEvidenceRefIndex) policy.qualityViolations (violationsOf qualities))
      (.validation (name ++
        ": quality_violations do not exactly match the disallowed-quality evidence_refs"))

/-- Compare one family result with the verdict of the judge. -/
def validateFamily (judge : GradedJudgeResult) (pair : JudgeFamilyResult × PolicyFamilyResult) :
    Except PolicyError Unit :=
  match pair.1.outcome with
  | .mixed => validateStructuralBlock pair.1 pair.2 .judgeOutcomeMixed
  | .insufficientEvidence =>
      validateStructuralBlock pair.1 pair.2 .judgeOutcomeInsufficientEvidence
  | .directional => validateDirectionalFamily judge pair.1 pair.2

/-- The checks of the whole result. -/
def StrategyPolicyResult.validate (r : StrategyPolicyResult) : Except PolicyError Unit := do
  check (r.familyResults.map (·.family) =
      r.strategyJudgeResult.familyResults.map JudgeFamilyResult.family)
    (PolicyError.validation
      "family_results must cover exactly strategy_judge_result.family_results, in the same order")
  check (r.outcome = policyOutcome r.familyResults)
    (.validation ("outcome " ++ r.outcome.value ++ " does not match per-family-derived outcome " ++
      (policyOutcome r.familyResults).value))
  forM (r.strategyJudgeResult.familyResults.zip r.familyResults)
    (validateFamily r.strategyJudgeResult)

/-- The family results and the whole pass their checks. -/
def StrategyPolicyResult.Accepted (r : StrategyPolicyResult) : Prop :=
  (∀ f ∈ r.familyResults, f.validate = .ok ()) ∧ r.validate = .ok ()

/-! ## The gate -/

/-- Construct a family result. -/
def construct (r : PolicyFamilyResult) : Except PolicyError PolicyFamilyResult := do
  r.validate
  return r

/-- Evaluate one family. -/
def evaluateFamily (judge : GradedJudgeResult) (verdict : JudgeFamilyResult) :
    Except PolicyError PolicyFamilyResult :=
  match verdict.outcome with
  | .mixed =>
      construct { family := verdict.family, verdict := .blocked, reasons := [.judgeOutcomeMixed] }
  | .insufficientEvidence =>
      construct { family := verdict.family, verdict := .blocked,
                  reasons := [.judgeOutcomeInsufficientEvidence] }
  | .directional => do
      let qualities ← verdict.evidenceRefs.mapM (resolveObservationQuality judge)
      if violationsOf qualities = [] then
        construct { family := verdict.family, verdict := .eligibleForRiskReview }
      else
        construct { family := verdict.family, verdict := .blocked,
                    reasons := [.disallowedEvidenceQuality],
                    qualityViolations := violationsOf qualities }

/-- The policy gate. -/
def apply (judge : GradedJudgeResult) : Except PolicyError StrategyPolicyResult := do
  let familyResults ← judge.familyResults.mapM (evaluateFamily judge)
  let result : StrategyPolicyResult :=
    { strategyJudgeResult := judge, outcome := policyOutcome familyResults, familyResults }
  result.validate
  return result

/-! ## The result model accepts exactly what the gate computes -/

variable {judge : GradedJudgeResult} {verdict : JudgeFamilyResult} {p : PolicyFamilyResult}

theorem construct_ok_iff {p' : PolicyFamilyResult} :
    construct p = .ok p' ↔ p.validate = .ok () ∧ p = p' := by
  simp only [construct, unit_bind_ok_iff, pure, Except.pure, Except.ok.injEq]

theorem construct_of_validate {p' : PolicyFamilyResult} (h : p'.validate = .ok ()) :
    construct p' = .ok p ↔ p = p' := by
  rw [construct_ok_iff, and_iff_right h, eq_comm]

theorem violationsOf_sorted (qualities : List FeatureQuality) :
    ((violationsOf qualities).map (·.judgeEvidenceRefIndex)).Pairwise (· < ·) := by
  have hsub : ((violationsOf qualities).map (·.judgeEvidenceRefIndex)).Sublist
      (qualities.zipIdx.map Prod.snd) := by
    rw [violationsOf, List.map_map]
    exact List.filter_sublist.map _
  rw [List.zipIdx_map_snd] at hsub
  exact List.Pairwise.sublist hsub List.pairwise_lt_range'

theorem sorted_of_validate (h : p.validate = .ok ()) :
    (p.qualityViolations.map (·.judgeEvidenceRefIndex)).Pairwise (· < ·) := by
  simp only [PolicyFamilyResult.validate, check_bind_ok, check_ok_iff] at h
  obtain ⟨-, -, -, -, hle, hnodup⟩ := h
  exact (hle.and hnodup).imp fun hab => lt_of_le_of_ne hab.1 hab.2

theorem violations_of_validate (h : p.validate = .ok ()) :
    p.qualityViolations = [] ↔ .disallowedEvidenceQuality ∉ p.reasons := by
  simp only [PolicyFamilyResult.validate, check_bind_ok, check_ok_iff] at h
  exact not_iff_not.mp (h.2.2.2.1.trans not_not.symm)

theorem reasons_of_validate (h : p.validate = .ok ()) :
    p.reasons = [] ↔ p.verdict = .eligibleForRiskReview := by
  simp only [PolicyFamilyResult.validate, check_bind_ok] at h
  rw [h.1]
  split_ifs with hnil <;> simp [hnil]

theorem validate_blocked (family : StrategyFamily) {reason : PolicyBlockReason}
    {violations : List PolicyEvidenceQualityViolation}
    (hreason : violations ≠ [] ↔ reason = .disallowedEvidenceQuality)
    (hsorted : (violations.map (·.judgeEvidenceRefIndex)).Pairwise (· < ·)) :
    PolicyFamilyResult.validate
      { family, verdict := .blocked, reasons := [reason], qualityViolations := violations } =
        .ok () := by
  simp only [PolicyFamilyResult.validate, check_bind_ok, check_ok_iff, List.mem_singleton]
  refine ⟨rfl, List.pairwise_singleton _ _, List.nodup_singleton _, hreason.trans eq_comm, ?_, ?_⟩
  · exact hsorted.imp le_of_lt
  · exact hsorted.imp ne_of_lt

/-- The result of a family, before it is constructed. -/
def familyResult (verdict : JudgeFamilyResult) (qualities : List FeatureQuality) :
    PolicyFamilyResult :=
  match verdict.outcome with
  | .mixed =>
      { family := verdict.family, verdict := .blocked, reasons := [.judgeOutcomeMixed] }
  | .insufficientEvidence =>
      { family := verdict.family, verdict := .blocked,
        reasons := [.judgeOutcomeInsufficientEvidence] }
  | .directional =>
      if violationsOf qualities = [] then
        { family := verdict.family, verdict := .eligibleForRiskReview }
      else
        { family := verdict.family, verdict := .blocked, reasons := [.disallowedEvidenceQuality],
          qualityViolations := violationsOf qualities }

theorem validate_familyResult (verdict : JudgeFamilyResult) (qualities : List FeatureQuality) :
    (familyResult verdict qualities).validate = .ok () := by
  unfold familyResult
  split
  · exact validate_blocked _ (by simp) .nil
  · exact validate_blocked _ (by simp) .nil
  · split_ifs with hnone
    · rfl
    · exact validate_blocked _ (by simp [hnone]) (violationsOf_sorted _)

/-- A family is evaluated on the qualities of the references of a directional verdict. -/
theorem evaluateFamily_ok_iff :
    evaluateFamily judge verdict = .ok p ↔
      ∃ qualities, (verdict.outcome = .directional →
        verdict.evidenceRefs.mapM (resolveObservationQuality judge) = .ok qualities) ∧
        p = familyResult verdict qualities := by
  unfold evaluateFamily
  cases houtcome : verdict.outcome
  · simp only [forall_true_left, bind_ok_iff]
    refine exists_congr fun qualities => and_congr_right fun _ => ?_
    have hvalid := validate_familyResult verdict qualities
    simp only [familyResult, houtcome] at hvalid ⊢
    by_cases hnone : violationsOf qualities = []
    · rw [if_pos hnone] at hvalid ⊢
      rw [if_pos hnone, construct_of_validate hvalid]
    · rw [if_neg hnone] at hvalid ⊢
      rw [if_neg hnone, construct_of_validate hvalid]
  · refine (construct_of_validate ?_).trans (by simp [familyResult, houtcome])
    exact validate_blocked _ (by simp) .nil
  · refine (construct_of_validate ?_).trans (by simp [familyResult, houtcome])
    exact validate_blocked _ (by simp) .nil

/-! ### The comparison -/

theorem validateStructuralBlock_ok_iff {reason : PolicyBlockReason} :
    validateStructuralBlock verdict p reason = .ok () ↔
      p.verdict = .blocked ∧ p.reasons = [reason] := by
  simp only [validateStructuralBlock, check_bind_ok, check_ok_iff]

/-- Of the family results that pass their own checks, the comparison accepts the one the gate
computes. -/
theorem validateFamily_ok_iff (hfamily : p.family = verdict.family) (hvalid : p.validate = .ok ()) :
    validateFamily judge (verdict, p) = .ok () ↔ evaluateFamily judge verdict = .ok p := by
  have hreasons := reasons_of_validate hvalid
  have hviolations := violations_of_validate hvalid
  have hsorted := sorted_of_validate hvalid
  rw [evaluateFamily_ok_iff]
  obtain ⟨⟨family, v⟩, reasons, violations⟩ := p
  dsimp only at hfamily hreasons hviolations hsorted
  subst hfamily
  cases houtcome : verdict.outcome
  · simp only [validateFamily, houtcome, validateDirectionalFamily, bind_ok_iff, forall_true_left]
    refine exists_congr fun qualities => and_congr_right fun _ => ?_
    simp only [familyResult, houtcome]
    by_cases hnone : violationsOf qualities = []
    · rw [if_pos hnone, if_pos hnone, check_ok_iff]
      constructor
      · rintro rfl
        obtain rfl := hreasons.mpr rfl
        obtain rfl := hviolations.mpr (List.not_mem_nil)
        rfl
      · rintro h
        cases h
        rfl
    · rw [if_neg hnone, if_neg hnone]
      simp only [check_bind_ok, check_ok_iff]
      constructor
      · rintro ⟨rfl, rfl, hsame⟩
        obtain rfl := hsame.eq hsorted (violationsOf_sorted qualities)
        rfl
      · rintro h
        cases h
        exact ⟨rfl, rfl, .refl⟩
  all_goals
    simp only [validateFamily, houtcome, validateStructuralBlock_ok_iff, familyResult]
    constructor
    · rintro ⟨rfl, rfl⟩
      obtain rfl := hviolations.mpr (by simp)
      exact ⟨[], by simp⟩
    · rintro ⟨-, -, h⟩
      cases h
      exact ⟨rfl, rfl⟩

theorem rederives (judge : GradedJudgeResult) :
    Rederives JudgeFamilyResult.family (fun p : PolicyFamilyResult => p.family)
      (evaluateFamily judge) (fun p => p.validate = .ok ()) (validateFamily judge) := by
  have hkeyed (verdict : JudgeFamilyResult) (p : PolicyFamilyResult)
      (h : evaluateFamily judge verdict = .ok p) : p.family = verdict.family := by
    obtain ⟨qualities, -, rfl⟩ := evaluateFamily_ok_iff.mp h
    unfold familyResult
    split <;> (try split_ifs) <;> rfl
  have howned (verdict : JudgeFamilyResult) (p : PolicyFamilyResult)
      (h : evaluateFamily judge verdict = .ok p) : p.validate = .ok () := by
    obtain ⟨qualities, -, rfl⟩ := evaluateFamily_ok_iff.mp h
    exact validate_familyResult _ qualities
  refine ⟨hkeyed, howned, fun verdict p h => ?_, fun verdict p hkey hown h => ?_⟩
  · exact (validateFamily_ok_iff (hkeyed _ _ h) (howned _ _ h)).mpr h
  · exact (validateFamily_ok_iff hkey hown).mp h

theorem accepted_iff_mapM {r : StrategyPolicyResult} :
    r.Accepted ↔ r.outcome = policyOutcome r.familyResults ∧
      r.strategyJudgeResult.familyResults.mapM (evaluateFamily r.strategyJudgeResult) =
        .ok r.familyResults := by
  rw [← (rederives r.strategyJudgeResult).accepted_iff]
  simp only [StrategyPolicyResult.Accepted, StrategyPolicyResult.validate, check_bind_ok]
  tauto

theorem apply_judge {r : StrategyPolicyResult} (h : apply judge = .ok r) :
    r.strategyJudgeResult = judge := by
  obtain ⟨_, -, h⟩ := bind_ok_iff.mp h
  obtain ⟨-, h⟩ := unit_bind_ok_iff.mp h
  cases h
  rfl

/-- **A result is accepted exactly when the gate computes it.** -/
theorem accepted_iff {r : StrategyPolicyResult} :
    r.Accepted ↔ apply r.strategyJudgeResult = .ok r := by
  constructor
  · intro h
    obtain ⟨houtcome, hresults⟩ := accepted_iff_mapM.mp h
    obtain ⟨judge, outcome, familyResults⟩ := r
    dsimp only at houtcome hresults
    subst houtcome
    exact bind_ok_iff.mpr ⟨familyResults, hresults, unit_bind_ok_iff.mpr ⟨h.2, rfl⟩⟩
  · intro h
    obtain ⟨familyResults, hresults, h⟩ := bind_ok_iff.mp h
    obtain ⟨-, h⟩ := unit_bind_ok_iff.mp h
    have hr := Except.ok.inj h
    rw [accepted_iff_mapM, ← hr]
    exact ⟨rfl, hresults⟩

/-! ## The gate never fails on verdicts of the judge -/

theorem observationCounts_eq (judge : GradedJudgeResult) (contour : JudgeContour) :
    judge.routed.observationCounts contour =
      (observationQualities judge contour).map fun results => results.map List.length := by
  cases contour
  · simp [RoutedEvaluation.observationCounts, observationQualities, Function.comp_def]
  · exact judge.flow_counts
  · simp [RoutedEvaluation.observationCounts, observationQualities, Function.comp_def]

theorem exists_quality {family : StrategyFamily} {ref : JudgeEvidenceRef}
    (h : validateRef judge.routed family ref = .ok ()) :
    ∃ quality, resolveObservationQuality judge ref = .ok quality := by
  unfold validateRef at h
  rw [observationCounts_eq] at h
  unfold resolveObservationQuality
  cases hresults : observationQualities judge ref.contour with
  | none =>
      rw [hresults] at h
      cases h
  | some results =>
      rw [hresults] at h
      simp only [Option.map_some, List.getElem?_map] at h
      dsimp only
      cases hobservations : results[ref.analystResultIndex]? with
      | none =>
          rw [hobservations] at h
          cases h
      | some observations =>
          rw [hobservations] at h
          have hlt : ref.observationIndex < observations.length := check_ok_iff.mp h
          simp only [List.getElem?_eq_getElem hlt]
          exact ⟨_, rfl⟩

theorem exists_evaluateFamily
    (h : ∀ ref ∈ verdict.evidenceRefs, validateRef judge.routed verdict.family ref = .ok ()) :
    ∃ p, evaluateFamily judge verdict = .ok p := by
  obtain ⟨qualities, hqualities⟩ := mapM_ok_of_exists fun ref href => exists_quality (h ref href)
  exact ⟨_, evaluateFamily_ok_iff.mpr ⟨qualities, fun _ => hqualities, rfl⟩⟩

/-- **The gate never fails on verdicts that passed the checks of the judge.** -/
theorem exists_apply (h : judge.toStrategyJudgeResult.validate = .ok ()) :
    ∃ r, apply judge = .ok r := by
  have hrefs := (check_bind_ok.mp h).2
  have hall : ∀ verdict ∈ judge.familyResults, ∀ ref ∈ verdict.evidenceRefs,
      validateRef judge.routed verdict.family ref = .ok () := fun verdict hverdict =>
    forM_ok_iff.mp (forM_ok_iff.mp hrefs verdict hverdict)
  obtain ⟨familyResults, hresults⟩ := mapM_ok_of_exists fun verdict hverdict =>
    exists_evaluateFamily (hall verdict hverdict)
  have haccepted : StrategyPolicyResult.Accepted
      ⟨judge, policyOutcome familyResults, familyResults⟩ :=
    accepted_iff_mapM.mpr ⟨rfl, hresults⟩
  exact ⟨_, accepted_iff.mp haccepted⟩

end PolicyGate

end TradingAdvisor
