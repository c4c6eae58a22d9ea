import TradingAdvisor.Core.Strategy
import TradingAdvisor.Lib.Keyed
import TradingAdvisor.Lib.Rounding

/-!
# The risk gate

Account-level risk policy: whether each family that policy let through may proceed to portfolio
review, with a risk ceiling per candidate. Every family is evaluated against the same account
facts, and the result model derives the whole chain again to validate it.

* `AccountRiskSnapshot`, `accountRiskState` — the account facts and the budget they leave;
* `RiskFamilyResult.validate`, `StrategyRiskResult.validate` — the checks of the result models;
* `RiskGate.evaluate` — the gate;
* **`RiskGate.evaluate_ok`**: once the candidates are accepted the gate never fails.
-/

namespace TradingAdvisor

open SignificantDigits Checks Keyed

/-- Point-in-time account-risk state. -/
structure AccountRiskSnapshot where
  asOf : Timestamp
  rolloverEquity : {q : ℚ // 0 < q}
  currentEquity : {q : ℚ // 0 < q}
  realizedDailyPnl : ℚ
  floatingPnl : ℚ
  currentOpenRiskToStop : {q : ℚ // 0 ≤ q}
  deriving DecidableEq

/-- The sizing fact of one candidate. -/
structure CandidateRiskInput where
  family : StrategyFamily
  riskPerUnit : ℚ
  deriving DecidableEq, Repr

/-- Per-family risk verdict. -/
inductive RiskFamilyVerdict
  | eligibleForPortfolioReview
  | blockedByRisk
  deriving DecidableEq, Repr

/-- Verdict across every family. -/
inductive RiskGateOutcome
  | someEligibleForPortfolioReview
  | noRiskEligibleFamily
  deriving DecidableEq, Repr

/-- The value of the outcome in messages. -/
def RiskGateOutcome.value : RiskGateOutcome → String
  | someEligibleForPortfolioReview => "SOME_ELIGIBLE_FOR_PORTFOLIO_REVIEW"
  | noRiskEligibleFamily => "NO_RISK_ELIGIBLE_FAMILY"

/-- Why a family is blocked. -/
inductive RiskBlockReason
  | policyNotEligible
  | zeroOrNegativeRiskPerUnit
  | dailyLossLimitReached
  | insufficientRemainingRiskBudget
  deriving DecidableEq, Repr

namespace RiskBlockReason

/-- The reasons in declaration order. -/
def order : List RiskBlockReason :=
  [policyNotEligible, zeroOrNegativeRiskPerUnit, dailyLossLimitReached,
    insufficientRemainingRiskBudget]

/-- Position in declaration order. -/
def index (reason : RiskBlockReason) : ℕ := order.idxOf reason

end RiskBlockReason

/-- One family's account-risk verdict. -/
structure RiskFamilyResult where
  family : StrategyFamily
  verdict : RiskFamilyVerdict
  reasons : List RiskBlockReason := []
  maxIndividualRisk : Option ℚ := none
  recommendedUnits : Option ℚ := none
  deriving DecidableEq, Repr

/-- A sizing figure that is present and positive. -/
def PositiveFigure (figure : Option ℚ) : Prop := ∃ q ∈ figure, 0 < q

instance (figure : Option ℚ) : Decidable (PositiveFigure figure) :=
  inferInstanceAs (Decidable (∃ q ∈ figure, 0 < q))

/-- The checks of one family result. -/
def RiskFamilyResult.validate (r : RiskFamilyResult) : Except ModelError Unit := do
  check (r.verdict = if r.reasons = [] then .eligibleForPortfolioReview else .blockedByRisk)
    (ModelError.validation "verdict must be BLOCKED_BY_RISK iff reasons is non-empty")
  check ((r.reasons.map RiskBlockReason.index).Pairwise (· ≤ ·))
    (.validation "reasons must be in canonical RiskBlockReason order")
  check (r.reasons.map RiskBlockReason.index).Nodup
    (.validation "reasons must not contain duplicates")
  check (.policyNotEligible ∈ r.reasons → r.reasons = [.policyNotEligible])
    (.validation "POLICY_NOT_ELIGIBLE must be the only reason when present")
  check (¬ (.dailyLossLimitReached ∈ r.reasons ∧ .insufficientRemainingRiskBudget ∈ r.reasons))
    (.validation
      "DAILY_LOSS_LIMIT_REACHED and INSUFFICIENT_REMAINING_RISK_BUDGET are mutually exclusive")
  match r.verdict with
  | .eligibleForPortfolioReview =>
      check (PositiveFigure r.maxIndividualRisk)
        (.validation "ELIGIBLE_FOR_PORTFOLIO_REVIEW requires max_individual_risk > 0")
      check (PositiveFigure r.recommendedUnits)
        (.validation "ELIGIBLE_FOR_PORTFOLIO_REVIEW requires recommended_units > 0")
  | .blockedByRisk =>
      check (r.maxIndividualRisk = none)
        (.validation "BLOCKED_BY_RISK must not carry max_individual_risk")
      check (r.recommendedUnits = none)
        (.validation "BLOCKED_BY_RISK must not carry recommended_units")

/-- The risk verdict of every family, with the facts it was derived from. -/
structure StrategyRiskResult where
  strategyPolicyResult : StrategyPolicyResult
  tradingCycleConfig : TradingCycleConfig
  accountSnapshot : AccountRiskSnapshot
  candidateInputs : List CandidateRiskInput
  outcome : RiskGateOutcome
  familyResults : List RiskFamilyResult

variable (R : Rounding)

/-! ## Account arithmetic -/

/-- A share of an equity in percent. -/
def percentOf (equity percent : ℚ) : ℚ := R.rnd (equity * R.rnd (percent / 100))

/-- The daily loss that is left, the new-trade risk it leaves beside the open risk, and the
budget of one trade. -/
def accountRiskState (account : AccountRiskSnapshot) (config : TradingCycleConfig) : ℚ × ℚ × ℚ :=
  let dailyLossLimit := percentOf R account.rolloverEquity config.dailyRiskLimitPercent
  let currentDailyPnl := R.rnd (account.realizedDailyPnl + account.floatingPnl)
  let lossConsumed := max 0 (R.rnd (-currentDailyPnl))
  let remainingDailyLossCapacity := max 0 (R.rnd (dailyLossLimit - lossConsumed))
  let availableNewTradeRisk :=
    max 0 (R.rnd (remainingDailyLossCapacity - account.currentOpenRiskToStop))
  let perTradeRiskBudget := percentOf R account.rolloverEquity config.perTradeRiskLimitPercent
  (remainingDailyLossCapacity, availableNewTradeRisk, perTradeRiskBudget)

theorem percentOf_fixed (equity percent : ℚ) : R.Fixed (percentOf R equity percent) :=
  R.fixed_rnd _

theorem percentOf_pos {equity percent : ℚ} (he : 0 < equity) (hp : 0 < percent) :
    0 < percentOf R equity percent :=
  R.pos (mul_pos he (R.pos (by positivity)))

theorem perTradeRiskBudget_pos (account : AccountRiskSnapshot) (config : TradingCycleConfig) :
    0 < (accountRiskState R account config).2.2 :=
  percentOf_pos R account.rolloverEquity.2 config.perTradeRiskLimitPercent.2.1

theorem perTradeRiskBudget_fixed (account : AccountRiskSnapshot) (config : TradingCycleConfig) :
    R.Fixed (accountRiskState R account config).2.2 :=
  percentOf_fixed R _ _

theorem availableNewTradeRisk_fixed (account : AccountRiskSnapshot)
    (config : TradingCycleConfig) : R.Fixed (accountRiskState R account config).2.1 :=
  R.fixed_zero.max (R.fixed_rnd _)

/-- The verdict of a candidate from the account figures. -/
def expectedCandidateResult (riskPerUnit remainingDailyLossCapacity availableNewTradeRisk
    perTradeRiskBudget : ℚ) :
    RiskFamilyVerdict × List RiskBlockReason × Option ℚ × Option ℚ :=
  let reasonSet : List RiskBlockReason :=
    (if riskPerUnit ≤ 0 then [.zeroOrNegativeRiskPerUnit] else []) ++
      if remainingDailyLossCapacity ≤ 0 then [.dailyLossLimitReached]
      else if availableNewTradeRisk ≤ 0 then [.insufficientRemainingRiskBudget] else []
  let reasons := RiskBlockReason.order.filter (· ∈ reasonSet)
  if reasons ≠ [] then (.blockedByRisk, reasons, none, none)
  else
    let maxIndividualRisk := min perTradeRiskBudget availableNewTradeRisk
    (.eligibleForPortfolioReview, [], some maxIndividualRisk,
      some (R.rnd (maxIndividualRisk / riskPerUnit)))

/-- The two kinds of verdict: blocked without a figure, or sized by the smaller budget. -/
theorem expectedCandidateResult_cases (riskPerUnit remaining available perTrade : ℚ) :
    (∃ reasons, (∀ family, RiskFamilyResult.validate
        { family, verdict := .blockedByRisk, reasons } = .ok ()) ∧
      expectedCandidateResult R riskPerUnit remaining available perTrade =
        (.blockedByRisk, reasons, none, none)) ∨
    (0 < riskPerUnit ∧ 0 < remaining ∧ 0 < available ∧
      expectedCandidateResult R riskPerUnit remaining available perTrade =
        (.eligibleForPortfolioReview, [], some (min perTrade available),
          some (R.rnd (min perTrade available / riskPerUnit)))) := by
  by_cases hfree : 0 < riskPerUnit ∧ 0 < remaining ∧ 0 < available
  · obtain ⟨hr, hrem, hav⟩ := hfree
    right
    simp [expectedCandidateResult, not_le.mpr hr, not_le.mpr hrem, not_le.mpr hav, hr, hrem, hav]
  · left
    simp only [not_and_or, not_lt] at hfree
    by_cases hr : riskPerUnit ≤ 0 <;> by_cases hrem : remaining ≤ 0 <;>
      by_cases hav : available ≤ 0 <;>
      simp only [expectedCandidateResult, hr, hrem, hav, if_true, if_false, or_self] at hfree ⊢ <;>
      exact ⟨_, fun _ => rfl, rfl⟩

/-- A candidate is blocked for its own reasons, or eligible without one. -/
theorem expectedCandidateResult_reasons (riskPerUnit remaining available perTrade : ℚ) :
    ((expectedCandidateResult R riskPerUnit remaining available perTrade).1 = .blockedByRisk ∧
      (expectedCandidateResult R riskPerUnit remaining available perTrade).2.1 ≠ [] ∧
      .policyNotEligible ∉
        (expectedCandidateResult R riskPerUnit remaining available perTrade).2.1) ∨
    ((expectedCandidateResult R riskPerUnit remaining available perTrade).1 =
        .eligibleForPortfolioReview ∧
      (expectedCandidateResult R riskPerUnit remaining available perTrade).2.1 = []) := by
  unfold expectedCandidateResult
  generalize hset : ((if riskPerUnit ≤ 0 then [.zeroOrNegativeRiskPerUnit] else []) ++
    if remaining ≤ 0 then [.dailyLossLimitReached]
    else if available ≤ 0 then [.insufficientRemainingRiskBudget] else [] :
      List RiskBlockReason) = reasonSet
  have hmirror : .policyNotEligible ∉ reasonSet := by
    rw [← hset]
    split_ifs <;> decide
  dsimp only
  split_ifs with hreasons
  · exact .inl ⟨rfl, hreasons, fun hmem => hmirror (by simpa using (List.mem_filter.mp hmem).2)⟩
  · exact .inr ⟨rfl, rfl⟩

/-- Look a candidate up by its family. -/
def candidateFor (candidates : List CandidateRiskInput) (family : StrategyFamily) :
    Option CandidateRiskInput :=
  lastOf CandidateRiskInput.family candidates family

/-- The verdict one family must carry. -/
def StrategyRiskResult.validateFamily (r : StrategyRiskResult)
    (pair : PolicyFamilyResult × RiskFamilyResult) : Except ModelError Unit := do
  let (policy, risk) := pair
  let name := "family " ++ risk.family.value
  match policy.verdict with
  | .blocked =>
      check (risk.verdict = .blockedByRisk)
        (ModelError.validation (name ++ ": Policy-BLOCKED family must be BLOCKED_BY_RISK"))
      check (risk.reasons = [.policyNotEligible])
        (.validation (name ++ ": Policy-BLOCKED family must carry exactly (POLICY_NOT_ELIGIBLE,)"))
  | .eligibleForRiskReview =>
      match candidateFor r.candidateInputs risk.family with
      | none =>
          .error (.validation
            (name ++ ": missing CandidateRiskInput for a Policy-eligible family"))
      | some candidate =>
          let (remaining, available, perTrade) := accountRiskState R r.accountSnapshot
            r.tradingCycleConfig
          let (verdict, reasons, maxIndividualRisk, recommendedUnits) :=
            expectedCandidateResult R candidate.riskPerUnit remaining available perTrade
          check (risk.verdict = verdict)
            (ModelError.validation (name ++ ": verdict does not match expected risk evaluation"))
          check (risk.reasons = reasons)
            (.validation (name ++ ": reasons do not match expected risk evaluation"))
          check (risk.maxIndividualRisk = maxIndividualRisk)
            (.validation (name ++ ": max_individual_risk does not match expected risk evaluation"))
          check (risk.recommendedUnits = recommendedUnits)
            (.validation (name ++ ": recommended_units does not match expected risk evaluation"))

/-- The outcome the family verdicts stand for. -/
def riskOutcome (familyResults : List RiskFamilyResult) : RiskGateOutcome :=
  if ∃ r ∈ familyResults, r.verdict = .eligibleForPortfolioReview then
    .someEligibleForPortfolioReview
  else .noRiskEligibleFamily

/-- The families that policy let through. -/
def StrategyPolicyResult.eligibleFamilies (policy : StrategyPolicyResult) : List StrategyFamily :=
  (policy.familyResults.filter fun r => r.verdict = .eligibleForRiskReview).map
    PolicyFamilyResult.family

/-- The checks of the whole result. -/
def StrategyRiskResult.validate (r : StrategyRiskResult) : Except ModelError Unit := do
  check (r.familyResults.map RiskFamilyResult.family =
      r.strategyPolicyResult.familyResults.map PolicyFamilyResult.family)
    (ModelError.validation
      "family_results must cover exactly strategy_policy_result.family_results, in the same order")
  check (r.candidateInputs.map CandidateRiskInput.family).Nodup
    (.validation "candidate_inputs must not contain duplicate families")
  check (r.candidateInputs.map CandidateRiskInput.family ⊆
      r.strategyPolicyResult.eligibleFamilies ∧
      r.strategyPolicyResult.eligibleFamilies ⊆ r.candidateInputs.map CandidateRiskInput.family)
    (.validation
      "candidate_inputs must cover exactly the Policy-eligible families, no more, no fewer")
  check (r.outcome = riskOutcome r.familyResults)
    (.validation ("outcome " ++ r.outcome.value ++ " does not match per-family-derived outcome " ++
      (riskOutcome r.familyResults).value))
  forM (r.strategyPolicyResult.familyResults.zip r.familyResults) (r.validateFamily R)

/-! ## The gate -/

/-- What the gate can raise. -/
inductive RiskGateError
  | duplicateCandidateFamily (family : StrategyFamily)
  | unknownCandidateFamily (family : StrategyFamily)
  | candidateForBlockedFamily (family : StrategyFamily)
  | missingCandidateForEligibleFamily (family : StrategyFamily)
  | model (error : ModelError)
  deriving DecidableEq

namespace RiskGate

/-- Check one candidate against the ones before it and the policy verdicts. -/
def validateCandidate (policy : StrategyPolicyResult) (seen : List StrategyFamily)
    (candidate : CandidateRiskInput) : Except RiskGateError Unit := do
  check (candidate.family ∉ seen) (.duplicateCandidateFamily candidate.family)
  match policy.familyResults.find? (fun r => r.family = candidate.family) with
  | none => .error (.unknownCandidateFamily candidate.family)
  | some r => check (r.verdict ≠ .blocked) (.candidateForBlockedFamily candidate.family)

/-- Check the candidates in order, remembering the families seen. -/
def validateCandidates (policy : StrategyPolicyResult) :
    List StrategyFamily → List CandidateRiskInput → Except RiskGateError (List StrategyFamily)
  | seen, [] => .ok seen
  | seen, candidate :: rest => do
      validateCandidate policy seen candidate
      validateCandidates policy (seen ++ [candidate.family]) rest

/-- The candidates cover exactly the families policy let through. -/
def validateCandidateInputs (policy : StrategyPolicyResult)
    (candidates : List CandidateRiskInput) : Except RiskGateError Unit := do
  let seen ← validateCandidates policy [] candidates
  forM policy.familyResults fun r =>
    check (r.verdict = .eligibleForRiskReview → r.family ∈ seen)
      (.missingCandidateForEligibleFamily r.family)

/-- Construct a family result. -/
def construct (r : RiskFamilyResult) : Except RiskGateError RiskFamilyResult :=
  match r.validate with
  | .ok () => .ok r
  | .error e => .error (.model e)

/-- Evaluate one family. -/
def evaluateFamily (candidates : List CandidateRiskInput)
    (state : ℚ × ℚ × ℚ) (policy : PolicyFamilyResult) : Except RiskGateError RiskFamilyResult :=
  match policy.verdict with
  | .blocked =>
      construct { family := policy.family, verdict := .blockedByRisk,
                  reasons := [.policyNotEligible] }
  | .eligibleForRiskReview =>
      match candidateFor candidates policy.family with
      | none => .error (.model .assertion)
      | some candidate =>
          let (verdict, reasons, maxIndividualRisk, recommendedUnits) :=
            expectedCandidateResult R candidate.riskPerUnit state.1 state.2.1 state.2.2
          construct { family := policy.family, verdict, reasons, maxIndividualRisk,
                      recommendedUnits }

/-- The risk gate. -/
def evaluate (policy : StrategyPolicyResult) (account : AccountRiskSnapshot)
    (candidates : List CandidateRiskInput) (config : TradingCycleConfig) :
    Except RiskGateError StrategyRiskResult := do
  validateCandidateInputs policy candidates
  let familyResults ← policy.familyResults.mapM
    (evaluateFamily R candidates (accountRiskState R account config))
  let result : StrategyRiskResult :=
    ⟨policy, config, account, candidates, riskOutcome familyResults, familyResults⟩
  match result.validate R with
  | .ok () => .ok result
  | .error e => .error (.model e)

/-! ## What the gate emits -/

variable {R} {policy : StrategyPolicyResult} {account : AccountRiskSnapshot}
  {candidates : List CandidateRiskInput} {config : TradingCycleConfig}

theorem construct_ok_iff {r r' : RiskFamilyResult} :
    construct r = .ok r' ↔ r.validate = .ok () ∧ r = r' := by
  unfold construct
  rcases r.validate with e | ⟨⟨⟩⟩ <;> simp

/-- One family's verdict is blocked without a figure, or carries the common ceiling. -/
theorem evaluateFamily_cases {p : PolicyFamilyResult} {r : RiskFamilyResult}
    (h : evaluateFamily R candidates (accountRiskState R account config) p = .ok r) :
    r.family = p.family ∧
      ((r.verdict = .blockedByRisk ∧ r.maxIndividualRisk = none) ∨
        (r.verdict = .eligibleForPortfolioReview ∧
          0 < (accountRiskState R account config).2.1 ∧
          r.maxIndividualRisk = some (min (accountRiskState R account config).2.2
            (accountRiskState R account config).2.1))) := by
  unfold evaluateFamily at h
  split at h
  · obtain ⟨-, rfl⟩ := construct_ok_iff.mp h
    exact ⟨rfl, .inl ⟨rfl, rfl⟩⟩
  · split at h
    · cases h
    · next candidate _ =>
        rcases expectedCandidateResult_cases R candidate.riskPerUnit
            (accountRiskState R account config).1 (accountRiskState R account config).2.1
            (accountRiskState R account config).2.2 with ⟨reasons, -, he⟩ | ⟨-, -, hav, he⟩
        all_goals
          rw [he] at h
          obtain ⟨-, rfl⟩ := construct_ok_iff.mp h
        · exact ⟨rfl, .inl ⟨rfl, rfl⟩⟩
        · exact ⟨rfl, .inr ⟨rfl, hav, rfl⟩⟩

/-- A family that policy let through is blocked for a reason of the gate, or has none. -/
theorem evaluateFamily_reasons {p : PolicyFamilyResult} {r : RiskFamilyResult}
    (h : evaluateFamily R candidates (accountRiskState R account config) p = .ok r)
    (heligible : p.verdict = .eligibleForRiskReview) :
    (r.verdict = .blockedByRisk ∧ r.reasons ≠ [] ∧ r.reasons ≠ [.policyNotEligible]) ∨
      (r.verdict = .eligibleForPortfolioReview ∧ r.reasons = []) := by
  unfold evaluateFamily at h
  rw [heligible] at h
  dsimp only at h
  split at h
  · cases h
  · next candidate _ =>
      have hcases := expectedCandidateResult_reasons R candidate.riskPerUnit
        (accountRiskState R account config).1 (accountRiskState R account config).2.1
        (accountRiskState R account config).2.2
      obtain ⟨-, rfl⟩ := construct_ok_iff.mp h
      rcases hcases with ⟨hverdict, hne, hmirror⟩ | hpassed
      · refine .inl ⟨hverdict, hne, fun heq => hmirror ?_⟩
        exact (congrArg (.policyNotEligible ∈ ·) heq).mpr (List.mem_singleton_self _)
      · exact .inr hpassed

/-- An eligible family has a candidate of positive risk. -/
theorem candidate_of_eligible {p : PolicyFamilyResult} {r : RiskFamilyResult}
    (h : evaluateFamily R candidates (accountRiskState R account config) p = .ok r)
    (heligible : r.verdict = .eligibleForPortfolioReview) :
    ∃ c ∈ candidates, c.family = r.family ∧ 0 < c.riskPerUnit := by
  have hfamily := (evaluateFamily_cases h).1
  unfold evaluateFamily at h
  split at h
  · obtain ⟨-, rfl⟩ := construct_ok_iff.mp h
    cases heligible
  · split at h
    · cases h
    · next candidate hcandidate =>
        obtain ⟨hmem, hkey⟩ := mem_of_lastOf hcandidate
        refine ⟨candidate, hmem, hkey.trans hfamily.symm, ?_⟩
        rcases expectedCandidateResult_cases R candidate.riskPerUnit
            (accountRiskState R account config).1 (accountRiskState R account config).2.1
            (accountRiskState R account config).2.2 with ⟨reasons, -, he⟩ | ⟨hr, -, -, he⟩
        · rw [he] at h
          obtain ⟨-, rfl⟩ := construct_ok_iff.mp h
          cases heligible
        · exact hr

/-- What a result of the gate carries. -/
theorem evaluate_cases {risk : StrategyRiskResult}
    (h : evaluate R policy account candidates config = .ok risk) :
    risk.tradingCycleConfig = config ∧ risk.accountSnapshot = account ∧
      policy.familyResults.mapM (evaluateFamily R candidates (accountRiskState R account config)) =
        .ok risk.familyResults := by
  unfold evaluate at h
  obtain ⟨-, h⟩ := unit_bind_ok_iff.mp h
  obtain ⟨familyResults, hresults, h⟩ := bind_ok_iff.mp h
  dsimp only at h
  split at h
  · cases h
    exact ⟨rfl, rfl, hresults⟩
  · cases h

/-! ## The gate never fails on accepted candidates -/

theorem mem_eligibleFamilies_of_validateCandidate {seen : List StrategyFamily}
    {candidate : CandidateRiskInput} (h : validateCandidate policy seen candidate = .ok ()) :
    candidate.family ∉ seen ∧ candidate.family ∈ policy.eligibleFamilies := by
  unfold validateCandidate at h
  obtain ⟨hseen, h⟩ := check_bind_ok.mp h
  refine ⟨hseen, ?_⟩
  split at h
  · cases h
  · next r hr =>
      have hfam : r.family = candidate.family := by simpa using List.find?_some hr
      have hverdict : r.verdict = .eligibleForRiskReview := by
        have := check_ok_iff.mp h
        cases hv : r.verdict <;> simp_all
      rw [← hfam]
      exact List.mem_map_of_mem
        (List.mem_filter.mpr ⟨List.mem_of_find?_eq_some hr, by simpa using hverdict⟩)

theorem validateCandidates_ok {seen seen' : List StrategyFamily}
    (h : validateCandidates policy seen candidates = .ok seen') :
    seen' = seen ++ candidates.map CandidateRiskInput.family ∧
      (candidates.map CandidateRiskInput.family).Nodup ∧
      ∀ c ∈ candidates, c.family ∉ seen ∧ c.family ∈ policy.eligibleFamilies := by
  induction candidates generalizing seen with
  | nil =>
      cases h
      simp
  | cons candidate rest ih =>
      obtain ⟨hc, h⟩ := unit_bind_ok_iff.mp h
      obtain ⟨rfl, hnodup, hrest⟩ := ih h
      refine ⟨by simp, ?_, ?_⟩
      · refine List.nodup_cons.mpr ⟨fun hmem => ?_, hnodup⟩
        obtain ⟨c, hcmem, hcfam⟩ := List.mem_map.mp hmem
        exact (hrest c hcmem).1 (by simp [hcfam])
      · refine List.forall_mem_cons.mpr ⟨mem_eligibleFamilies_of_validateCandidate hc, ?_⟩
        intro c hmem
        exact ⟨fun hseen => (hrest c hmem).1 (List.mem_append_left _ hseen), (hrest c hmem).2⟩

/-- Accepted candidates have distinct families, exactly the ones policy let through. -/
theorem validateCandidateInputs_ok (h : validateCandidateInputs policy candidates = .ok ()) :
    (candidates.map CandidateRiskInput.family).Nodup ∧
      candidates.map CandidateRiskInput.family ⊆ policy.eligibleFamilies ∧
      policy.eligibleFamilies ⊆ candidates.map CandidateRiskInput.family := by
  obtain ⟨seen, hseen, hall⟩ := bind_ok_iff.mp h
  obtain ⟨rfl, hnodup, hmem⟩ := validateCandidates_ok hseen
  refine ⟨hnodup, ?_, ?_⟩
  · intro family hf
    obtain ⟨c, hc, rfl⟩ := List.mem_map.mp hf
    exact (hmem c hc).2
  · intro family hf
    obtain ⟨r, hr, rfl⟩ := List.mem_map.mp hf
    obtain ⟨hrmem, hverdict⟩ := List.mem_filter.mp hr
    have := check_ok_iff.mp (forM_ok_iff.mp hall r hrmem) (by simpa using hverdict)
    simpa using this

theorem evaluateFamily_ok {p : PolicyFamilyResult}
    (h : p.verdict = .eligibleForRiskReview → ∃ c, candidateFor candidates p.family = some c) :
    ∃ r, evaluateFamily R candidates (accountRiskState R account config) p = .ok r := by
  unfold evaluateFamily
  split
  · exact ⟨_, construct_ok_iff.mpr ⟨rfl, rfl⟩⟩
  · next hverdict =>
      obtain ⟨candidate, hcandidate⟩ := h hverdict
      rw [hcandidate]
      dsimp only
      rcases expectedCandidateResult_cases R candidate.riskPerUnit
          (accountRiskState R account config).1 (accountRiskState R account config).2.1
          (accountRiskState R account config).2.2 with ⟨reasons, hvalid, he⟩ | ⟨hr, -, hav, he⟩
      all_goals rw [he]
      · exact ⟨_, construct_ok_iff.mpr ⟨hvalid _, rfl⟩⟩
      · have hceiling : 0 < min (accountRiskState R account config).2.2
            (accountRiskState R account config).2.1 :=
          lt_min (perTradeRiskBudget_pos R account config) hav
        refine ⟨_, construct_ok_iff.mpr ⟨?_, rfl⟩⟩
        have hunits := R.pos (div_pos hceiling hr)
        simpa [RiskFamilyResult.validate, PositiveFigure, hunits] using hceiling

/-- The result model derives the verdict the gate has given. -/
theorem validateFamily_of_evaluateFamily {risk : StrategyRiskResult} {p : PolicyFamilyResult}
    {r : RiskFamilyResult}
    (h : evaluateFamily R risk.candidateInputs
      (accountRiskState R risk.accountSnapshot risk.tradingCycleConfig) p = .ok r) :
    risk.validateFamily R (p, r) = .ok () := by
  have hfamily := (evaluateFamily_cases h).1
  unfold evaluateFamily at h
  simp only [StrategyRiskResult.validateFamily, hfamily]
  split at h
  · obtain ⟨-, rfl⟩ := construct_ok_iff.mp h
    simp
  · split at h
    · cases h
    · generalize expectedCandidateResult R _ _ _ _ = expected at h ⊢
      obtain ⟨-, rfl⟩ := construct_ok_iff.mp h
      simp

theorem families_eq {policies : List PolicyFamilyResult} {results : List RiskFamilyResult}
    (h : policies.mapM (evaluateFamily R candidates (accountRiskState R account config)) =
      .ok results) :
    results.map RiskFamilyResult.family = policies.map PolicyFamilyResult.family := by
  have hforall := mapM_ok_forall₂ h
  clear h
  induction hforall with
  | nil => rfl
  | cons hp _ ih => rw [List.map_cons, List.map_cons, ih, (evaluateFamily_cases hp).1]

/-- **Once the candidates are accepted the gate never fails.** -/
theorem evaluate_ok (h : validateCandidateInputs policy candidates = .ok ()) :
    ∃ risk, evaluate R policy account candidates config = .ok risk := by
  obtain ⟨hnodup, hsub, hcover⟩ := validateCandidateInputs_ok h
  have hfamily : ∀ p ∈ policy.familyResults,
      ∃ r, evaluateFamily R candidates (accountRiskState R account config) p = .ok r := by
    intro p hp
    refine evaluateFamily_ok fun hverdict => exists_lastOf (hcover ?_)
    exact List.mem_map_of_mem (List.mem_filter.mpr ⟨hp, by simpa using hverdict⟩)
  obtain ⟨familyResults, hresults⟩ := mapM_ok_of_exists hfamily
  refine ⟨⟨policy, config, account, candidates, riskOutcome familyResults, familyResults⟩, ?_⟩
  have hvalid : StrategyRiskResult.validate R
      ⟨policy, config, account, candidates, riskOutcome familyResults, familyResults⟩ =
        .ok () := by
    simp only [StrategyRiskResult.validate, check_bind_ok, forM_ok_iff]
    refine ⟨families_eq hresults, hnodup, ⟨hsub, hcover⟩, trivial, ?_⟩
    rintro ⟨p, r⟩ hpair
    exact validateFamily_of_evaluateFamily (List.forall₂_zip (mapM_ok_forall₂ hresults) hpair)
  simp only [evaluate, h, hresults, hvalid, bind, Except.bind]

end RiskGate

end TradingAdvisor
