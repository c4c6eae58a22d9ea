import TradingAdvisor.Risk.RiskGate

/-!
# The portfolio supervisor

Jointly allocates the risk that is left to every family the risk gate let through. When the
families ask for more than the smaller of two capacities, each gets the same share of its
ceiling. The result model derives the allocation again and checks that it fits.

* `jointNewRiskCapacity` — the smaller of the daily and the portfolio capacity;
* `StrategyPortfolioResult.validate` — the checks of the result model;
* `PortfolioSupervisor.evaluate` — the supervisor;
* `PortfolioSupervisor.exists_evaluate_iff` — only the total of the shares can fail;
* **`PortfolioSupervisor.evaluate_ok_of_leavesRoom`**: the supervisor succeeds where the scaling
  leaves room for its roundings, and fails where it overshoots by more than they can hide.
-/

namespace TradingAdvisor

open SignificantDigits Checks Keyed

/-- Per-family portfolio verdict. -/
inductive PortfolioFamilyVerdict
  | eligibleForSessionReview
  | blockedByPortfolio
  deriving DecidableEq, Repr

/-- Verdict across every family. -/
inductive PortfolioGateOutcome
  | someEligibleForSessionReview
  | noPortfolioEligibleFamily
  deriving DecidableEq, Repr

/-- The value of the outcome in messages. -/
def PortfolioGateOutcome.value : PortfolioGateOutcome → String
  | someEligibleForSessionReview => "SOME_ELIGIBLE_FOR_SESSION_REVIEW"
  | noPortfolioEligibleFamily => "NO_PORTFOLIO_ELIGIBLE_FAMILY"

/-- Why a family is blocked. -/
inductive PortfolioBlockReason
  | riskNotEligible
  | dailyRiskCapacityExhausted
  | globalPortfolioCapReached
  deriving DecidableEq, Repr

/-- One family's portfolio verdict. -/
structure PortfolioFamilyResult where
  family : StrategyFamily
  verdict : PortfolioFamilyVerdict
  reasons : List PortfolioBlockReason := []
  portfolioAllocatedRisk : Option ℚ := none
  deriving DecidableEq, Repr

/-- The checks of one family result. -/
def PortfolioFamilyResult.validate (r : PortfolioFamilyResult) : Except ModelError Unit := do
  check (r.verdict = if r.reasons = [] then .eligibleForSessionReview else .blockedByPortfolio)
    (ModelError.validation "verdict must be BLOCKED_BY_PORTFOLIO iff reasons is non-empty")
  check (r.reasons.length ≤ 1)
    (.validation "reasons must carry at most one canonical reason")
  match r.verdict with
  | .eligibleForSessionReview =>
      check (PositiveFigure r.portfolioAllocatedRisk)
        (.validation "ELIGIBLE_FOR_SESSION_REVIEW requires portfolio_allocated_risk > 0")
  | .blockedByPortfolio =>
      check (r.portfolioAllocatedRisk = none)
        (.validation "BLOCKED_BY_PORTFOLIO must not carry portfolio_allocated_risk")

/-- The portfolio verdict of every family the risk gate produced a result for. -/
structure StrategyPortfolioResult where
  strategyRiskResult : StrategyRiskResult
  outcome : PortfolioGateOutcome
  familyResults : List PortfolioFamilyResult

variable (R : Rounding)

/-! ## Capacities -/

/-- The shared daily capacity of the risk gate, derived again. -/
def stage7SharedCapacity (account : AccountRiskSnapshot) (config : TradingCycleConfig) : ℚ :=
  (accountRiskState R account config).2.1

/-- The portfolio share of the current equity that the open risk leaves. -/
def remainingPortfolioCapacity (account : AccountRiskSnapshot) (config : TradingCycleConfig) :
    ℚ :=
  max 0 (R.rnd (percentOf R account.currentEquity config.portfolioRiskLimitPercent -
    account.currentOpenRiskToStop))

/-- The smaller of the two capacities. -/
def jointNewRiskCapacity (account : AccountRiskSnapshot) (config : TradingCycleConfig) : ℚ :=
  min (stage7SharedCapacity R account config) (remainingPortfolioCapacity R account config)

/-- The ceilings of the families the risk gate let through. -/
def StrategyRiskResult.requested (risk : StrategyRiskResult) : List ℚ :=
  (risk.familyResults.filter fun r => r.verdict = .eligibleForPortfolioReview).filterMap
    RiskFamilyResult.maxIndividualRisk

/-- What a family with this ceiling is allocated. -/
def allocatedRisk (joint total maxIndividualRisk : ℚ) : ℚ :=
  if total ≤ joint then maxIndividualRisk else R.scale joint total maxIndividualRisk

/-! ## The result model -/

/-- A verdict with its reasons and allocation. -/
abbrev ExpectedFamilyResult := PortfolioFamilyVerdict × List PortfolioBlockReason × Option ℚ

/-- The verdict one family must carry. -/
def expectedGroupResult (stage7 stage8 joint total : ℚ) (r : RiskFamilyResult) :
    ExpectedFamilyResult :=
  if r.verdict = .blockedByRisk then (.blockedByPortfolio, [.riskNotEligible], none)
  else if stage7 ≤ 0 then (.blockedByPortfolio, [.dailyRiskCapacityExhausted], none)
  else if stage8 ≤ 0 then (.blockedByPortfolio, [.globalPortfolioCapReached], none)
  else (.eligibleForSessionReview, [], r.maxIndividualRisk.map (allocatedRisk R joint total))

/-- The verdict of every family, by family. -/
def expectedGroupResults (risk : StrategyRiskResult) :
    List (StrategyFamily × ExpectedFamilyResult) :=
  risk.familyResults.map fun r =>
    (r.family, expectedGroupResult R
      (stage7SharedCapacity R risk.accountSnapshot risk.tradingCycleConfig)
      (remainingPortfolioCapacity R risk.accountSnapshot risk.tradingCycleConfig)
      (jointNewRiskCapacity R risk.accountSnapshot risk.tradingCycleConfig)
      (R.sum risk.requested) r)

/-- The outcome the family verdicts stand for. -/
def portfolioOutcome (familyResults : List PortfolioFamilyResult) : PortfolioGateOutcome :=
  if ∃ r ∈ familyResults, r.verdict = .eligibleForSessionReview then .someEligibleForSessionReview
  else .noPortfolioEligibleFamily

/-- Compare one family result with the verdict it must carry. -/
def StrategyPortfolioResult.validateExpected (r : StrategyPortfolioResult)
    (f : PortfolioFamilyResult) : Except ModelError Unit :=
  let name := "family " ++ f.family.value
  match lastOf Prod.fst (expectedGroupResults R r.strategyRiskResult) f.family with
  | none => .error .assertion
  | some (_, verdict, reasons, allocation) => do
      check (f.verdict = verdict)
        (ModelError.validation (name ++ ": verdict does not match expected portfolio evaluation"))
      check (f.reasons = reasons)
        (.validation (name ++ ": reasons do not match expected portfolio evaluation"))
      check (f.portfolioAllocatedRisk = allocation)
        (.validation
          (name ++ ": portfolio_allocated_risk does not match expected portfolio evaluation"))

/-- An allocation is at most the ceiling of the risk gate. -/
def StrategyPortfolioResult.validateCeiling (r : StrategyPortfolioResult)
    (f : PortfolioFamilyResult) : Except ModelError Unit :=
  match f.portfolioAllocatedRisk with
  | none => .ok ()
  | some allocation =>
      match lastOf RiskFamilyResult.family r.strategyRiskResult.familyResults f.family with
      | none => .error .assertion
      | some risk =>
          check (∃ m ∈ risk.maxIndividualRisk, allocation ≤ m)
            (.validation ("family " ++ f.family.value ++
              ": portfolio_allocated_risk exceeds its Stage 7 max_individual_risk"))

/-- The checks of the whole result. -/
def StrategyPortfolioResult.validate (r : StrategyPortfolioResult) : Except ModelError Unit := do
  let risk := r.strategyRiskResult
  check (r.familyResults.map PortfolioFamilyResult.family =
      risk.familyResults.map RiskFamilyResult.family)
    (ModelError.validation
      "family_results must cover exactly strategy_risk_result.family_results, in the same order")
  check (r.outcome = portfolioOutcome r.familyResults)
    (.validation ("outcome " ++ r.outcome.value ++ " does not match per-family-derived outcome " ++
      (portfolioOutcome r.familyResults).value))
  forM r.familyResults (r.validateExpected R)
  forM r.familyResults r.validateCeiling
  let total := R.sum (r.familyResults.filterMap PortfolioFamilyResult.portfolioAllocatedRisk)
  check (total ≤ stage7SharedCapacity R risk.accountSnapshot risk.tradingCycleConfig)
    (.validation "sum of portfolio_allocated_risk exceeds stage7_shared_capacity")
  check (total ≤ remainingPortfolioCapacity R risk.accountSnapshot risk.tradingCycleConfig)
    (.validation "sum of portfolio_allocated_risk exceeds stage8_portfolio_capacity")
  check (total ≤ jointNewRiskCapacity R risk.accountSnapshot risk.tradingCycleConfig)
    (.validation "sum of portfolio_allocated_risk exceeds joint_new_risk_capacity")

/-! ## The supervisor -/

namespace PortfolioSupervisor

/-- Construct a family result. -/
def construct (r : PortfolioFamilyResult) : Except ModelError PortfolioFamilyResult := do
  r.validate
  return r

/-- Evaluate one family. -/
def evaluateFamily (stage7 stage8 joint total : ℚ) (r : RiskFamilyResult) :
    Except ModelError PortfolioFamilyResult :=
  if r.verdict = .blockedByRisk then
    construct { family := r.family, verdict := .blockedByPortfolio, reasons := [.riskNotEligible] }
  else if stage7 ≤ 0 then
    construct { family := r.family, verdict := .blockedByPortfolio,
                reasons := [.dailyRiskCapacityExhausted] }
  else if stage8 ≤ 0 then
    construct { family := r.family, verdict := .blockedByPortfolio,
                reasons := [.globalPortfolioCapReached] }
  else
    match r.maxIndividualRisk with
    | none => .error .assertion
    | some m =>
        construct { family := r.family, verdict := .eligibleForSessionReview,
                    portfolioAllocatedRisk := some (allocatedRisk R joint total m) }

/-- The supervisor. -/
def evaluate (risk : StrategyRiskResult) : Except ModelError StrategyPortfolioResult := do
  let stage7 := stage7SharedCapacity R risk.accountSnapshot risk.tradingCycleConfig
  let stage8 := remainingPortfolioCapacity R risk.accountSnapshot risk.tradingCycleConfig
  let joint := min stage7 stage8
  let familyResults ← risk.familyResults.mapM
    (evaluateFamily R stage7 stage8 joint (R.sum risk.requested))
  let result : StrategyPortfolioResult := ⟨risk, portfolioOutcome familyResults, familyResults⟩
  result.validate R
  return result

/-! ## What the supervisor relies on -/

variable {R} {risk : StrategyRiskResult} {r : RiskFamilyResult}

variable (R) in
/-- One verdict of the risk gate: no ceiling, or a positive one of the account arithmetic. -/
def Ceiling (risk : StrategyRiskResult) (r : RiskFamilyResult) : Prop :=
  (r.verdict = .blockedByRisk ∧ r.maxIndividualRisk = none) ∨
    (r.verdict = .eligibleForPortfolioReview ∧
      0 < stage7SharedCapacity R risk.accountSnapshot risk.tradingCycleConfig ∧
      ∃ m, r.maxIndividualRisk = some m ∧ 0 < m ∧ R.Fixed m)

theorem ceiling_of_evaluate {policy : StrategyPolicyResult} {account : AccountRiskSnapshot}
    {candidates : List CandidateRiskInput} {config : TradingCycleConfig}
    (h : RiskGate.evaluate R policy account candidates config = .ok risk) :
    (risk.familyResults.map RiskFamilyResult.family).Nodup ∧
      ∀ r ∈ risk.familyResults, Ceiling R risk r := by
  obtain ⟨rfl, rfl, hresults⟩ := RiskGate.evaluate_cases h
  refine ⟨RiskGate.families_eq hresults ▸ policy.families_nodup, fun r hr => ?_⟩
  obtain ⟨p, -, hp⟩ := exists_of_mem_mapM hresults hr
  rcases (RiskGate.evaluateFamily_cases hp).2 with hblocked | ⟨hverdict, hav, hceiling⟩
  · exact .inl hblocked
  · exact .inr ⟨hverdict, hav, _, hceiling,
      lt_min (perTradeRiskBudget_pos R _ _) hav,
      (perTradeRiskBudget_fixed R _ _).min (availableNewTradeRisk_fixed R _ _)⟩

/-! ## The supervisor fails only on the total -/

section

variable {stage7 stage8 total : ℚ}

variable (R) in
/-- The result of one family as the result model derives it. -/
def expectedFamily (stage7 stage8 joint total : ℚ) (r : RiskFamilyResult) :
    PortfolioFamilyResult :=
  let expected := expectedGroupResult R stage7 stage8 joint total r
  ⟨r.family, expected.1, expected.2.1, expected.2.2⟩

/-- A family is blocked with a reason, which repeats the risk gate only on its block, or has none. -/
theorem expectedFamily_reasons {joint : ℚ} :
    ((expectedFamily R stage7 stage8 joint total r).verdict = .blockedByPortfolio ∧
      (expectedFamily R stage7 stage8 joint total r).reasons ≠ [] ∧
      ((expectedFamily R stage7 stage8 joint total r).reasons = [.riskNotEligible] →
        r.verdict = .blockedByRisk)) ∨
    ((expectedFamily R stage7 stage8 joint total r).verdict = .eligibleForSessionReview ∧
      (expectedFamily R stage7 stage8 joint total r).reasons = []) := by
  dsimp only [expectedFamily, expectedGroupResult]
  split_ifs with hblocked h7 h8
  · exact .inl ⟨rfl, List.cons_ne_nil _ _, fun _ => hblocked⟩
  · exact .inl ⟨rfl, List.cons_ne_nil _ _, fun hmirror => by cases hmirror⟩
  · exact .inl ⟨rfl, List.cons_ne_nil _ _, fun hmirror => by cases hmirror⟩
  · exact .inr ⟨rfl, rfl⟩

theorem construct_of_validate {f : PortfolioFamilyResult} (h : f.validate = .ok ()) :
    construct f = .ok f := by
  simp [construct, h, bind, Except.bind, pure, Except.pure]

theorem allocatedRisk_pos {joint m : ℚ} (hjoint : 0 < joint) (hm : 0 < m) :
    0 < allocatedRisk R joint total m := by
  unfold allocatedRisk
  split_ifs with htotal
  · exact hm
  · exact Rounding.scale_pos hjoint (hjoint.trans (not_le.mp htotal)) hm

theorem allocatedRisk_le {joint m : ℚ} (hjoint : 0 < joint) (hm : 0 < m) (hfix : R.Fixed m) :
    allocatedRisk R joint total m ≤ m := by
  unfold allocatedRisk
  split_ifs with htotal
  · exact le_rfl
  · have hlt := not_le.mp htotal
    exact Rounding.scale_le hfix hm.le (hjoint.trans hlt) hlt.le

theorem evaluateFamily_eq (h : Ceiling R risk r) :
    evaluateFamily R stage7 stage8 (min stage7 stage8) total r =
      .ok (expectedFamily R stage7 stage8 (min stage7 stage8) total r) := by
  unfold evaluateFamily expectedFamily expectedGroupResult
  rcases h with ⟨hverdict, -⟩ | ⟨hverdict, -, m, hm, hpos, -⟩
  · rw [if_pos hverdict, if_pos hverdict]
    exact construct_of_validate rfl
  · have hblocked : r.verdict ≠ .blockedByRisk := by rw [hverdict]; decide
    rw [if_neg hblocked, if_neg hblocked]
    split_ifs with h7 h8
    · exact construct_of_validate rfl
    · exact construct_of_validate rfl
    · rw [hm]
      have hjoint : 0 < min stage7 stage8 := lt_min (not_le.mp h7) (not_le.mp h8)
      have halloc : 0 < allocatedRisk R (min stage7 stage8) total m :=
        allocatedRisk_pos hjoint hpos
      refine construct_of_validate ?_
      simpa [PortfolioFamilyResult.validate, PositiveFigure] using halloc

theorem expectedFamily_alloc_of_blocked {joint : ℚ} (h : r.verdict = .blockedByRisk) :
    (expectedFamily R stage7 stage8 joint total r).portfolioAllocatedRisk = none := by
  simp [expectedFamily, expectedGroupResult, h]

/-- With portfolio capacity left, exactly the requested ceilings are allocated. -/
theorem filterMap_expectedFamily {joint : ℚ} (h8 : 0 < stage8)
    {l : List RiskFamilyResult} (h : ∀ r ∈ l, Ceiling R risk r) :
    (l.map (expectedFamily R
        (stage7SharedCapacity R risk.accountSnapshot risk.tradingCycleConfig) stage8 joint
        total)).filterMap PortfolioFamilyResult.portfolioAllocatedRisk =
      ((l.filter fun r => r.verdict = .eligibleForPortfolioReview).filterMap
        RiskFamilyResult.maxIndividualRisk).map (allocatedRisk R joint total) := by
  induction l with
  | nil => rfl
  | cons r l ih =>
      obtain ⟨hr, hl⟩ := List.forall_mem_cons.mp h
      rw [List.map_cons, List.filterMap_cons, ih hl]
      rcases hr with ⟨hverdict, -⟩ | ⟨hverdict, h7, m, hm, -⟩
      · simp [expectedFamily_alloc_of_blocked hverdict, hverdict]
      · have halloc : (expectedFamily R
            (stage7SharedCapacity R risk.accountSnapshot risk.tradingCycleConfig) stage8 joint
            total r).portfolioAllocatedRisk = some (allocatedRisk R joint total m) := by
          simp [expectedFamily, expectedGroupResult, hverdict, not_le.mpr h7, not_le.mpr h8, hm]
        simp [halloc, hverdict, hm]

/-- Without portfolio capacity nothing is allocated. -/
theorem filterMap_expectedFamily_of_le {joint : ℚ} (h8 : stage8 ≤ 0)
    {l : List RiskFamilyResult} :
    (l.map (expectedFamily R stage7 stage8 joint total)).filterMap
        PortfolioFamilyResult.portfolioAllocatedRisk = [] := by
  rw [List.filterMap_map, List.filterMap_eq_nil_iff]
  intro r _
  simp only [Function.comp_apply, expectedFamily, expectedGroupResult, if_pos h8]
  split_ifs <;> rfl

end

theorem stage7SharedCapacity_nonneg (account : AccountRiskSnapshot)
    (config : TradingCycleConfig) : 0 ≤ stage7SharedCapacity R account config :=
  le_max_left ..

theorem remainingPortfolioCapacity_nonneg (account : AccountRiskSnapshot)
    (config : TradingCycleConfig) : 0 ≤ remainingPortfolioCapacity R account config :=
  le_max_left ..

theorem jointNewRiskCapacity_nonneg (account : AccountRiskSnapshot)
    (config : TradingCycleConfig) : 0 ≤ jointNewRiskCapacity R account config :=
  le_min (stage7SharedCapacity_nonneg account config)
    (remainingPortfolioCapacity_nonneg account config)

variable (R) in
/-- The family results the supervisor computes. -/
def expectedFamilies (risk : StrategyRiskResult) : List PortfolioFamilyResult :=
  let stage7 := stage7SharedCapacity R risk.accountSnapshot risk.tradingCycleConfig
  let stage8 := remainingPortfolioCapacity R risk.accountSnapshot risk.tradingCycleConfig
  risk.familyResults.map (expectedFamily R stage7 stage8 (min stage7 stage8) (R.sum risk.requested))

/-- The result of the supervisor before it is validated. -/
def candidateResult (risk : StrategyRiskResult) (results : List PortfolioFamilyResult) :
    StrategyPortfolioResult :=
  ⟨risk, portfolioOutcome results, results⟩

theorem evaluate_eq (h : ∀ r ∈ risk.familyResults, Ceiling R risk r) :
    evaluate R risk =
      ((candidateResult risk (expectedFamilies R risk)).validate R >>= fun _ =>
        .ok (candidateResult risk (expectedFamilies R risk))) := by
  have hmap : risk.familyResults.mapM (evaluateFamily R
      (stage7SharedCapacity R risk.accountSnapshot risk.tradingCycleConfig)
      (remainingPortfolioCapacity R risk.accountSnapshot risk.tradingCycleConfig)
      (min (stage7SharedCapacity R risk.accountSnapshot risk.tradingCycleConfig)
        (remainingPortfolioCapacity R risk.accountSnapshot risk.tradingCycleConfig))
      (R.sum risk.requested)) = .ok (expectedFamilies R risk) :=
    mapM_ok_of_forall fun r hr => evaluateFamily_eq (h r hr)
  simp only [evaluate, hmap]
  rfl

theorem validateExpected_expectedFamilies (result : StrategyPortfolioResult)
    (hnodup : (result.strategyRiskResult.familyResults.map RiskFamilyResult.family).Nodup) :
    ∀ f ∈ expectedFamilies R result.strategyRiskResult,
      result.validateExpected R f = .ok () := by
  intro f hf
  obtain ⟨r, hr, rfl⟩ := List.mem_map.mp hf
  have hkeys : ((expectedGroupResults R result.strategyRiskResult).map Prod.fst).Nodup := by
    simpa [expectedGroupResults, Function.comp_def] using hnodup
  have hlookup := lastOf_of_nodup hkeys (List.mem_map_of_mem hr)
  simp only [StrategyPortfolioResult.validateExpected, expectedFamily]
  rw [hlookup]
  simp [jointNewRiskCapacity]

/-- **Every allocation of the supervisor is positive and within the ceiling.** -/
theorem allocation_mem (h : ∀ r ∈ risk.familyResults, Ceiling R risk r) (hr : r ∈ risk.familyResults)
    {a stage7 stage8 total : ℚ}
    (ha : (expectedFamily R stage7 stage8 (min stage7 stage8) total r).portfolioAllocatedRisk =
      some a) :
    ∃ m, r.maxIndividualRisk = some m ∧ 0 < a ∧ a ≤ m := by
  rcases h r hr with ⟨hverdict, -⟩ | ⟨hverdict, -, m, hm, hpos, hfix⟩
  · rw [expectedFamily_alloc_of_blocked hverdict] at ha
    cases ha
  · have hblocked : r.verdict ≠ .blockedByRisk := by rw [hverdict]; decide
    simp only [expectedFamily, expectedGroupResult, if_neg hblocked] at ha
    split_ifs at ha with h7 h8
    · have hjoint : 0 < min stage7 stage8 := lt_min (not_le.mp h7) (not_le.mp h8)
      rw [hm] at ha
      cases ha
      exact ⟨m, hm, allocatedRisk_pos hjoint hpos, allocatedRisk_le hjoint hpos hfix⟩

theorem validateCeiling_expectedFamilies (result : StrategyPortfolioResult)
    (hnodup : (result.strategyRiskResult.familyResults.map RiskFamilyResult.family).Nodup)
    (h : ∀ r ∈ result.strategyRiskResult.familyResults,
      Ceiling R result.strategyRiskResult r) :
    ∀ f ∈ expectedFamilies R result.strategyRiskResult, result.validateCeiling f = .ok () := by
  intro f hf
  obtain ⟨r, hr, rfl⟩ := List.mem_map.mp hf
  unfold StrategyPortfolioResult.validateCeiling
  split
  · rfl
  · next a ha =>
      obtain ⟨m, hm, -, ham⟩ := allocation_mem h hr ha
      have hlookup := lastOf_of_nodup hnodup hr
      simp only [expectedFamily]
      rw [hlookup]
      exact check_ok_iff.mpr ⟨m, hm, ham⟩

/-- Of all the checks of the result only the total can fail. -/
theorem validate_candidateResult_iff
    (hnodup : (risk.familyResults.map RiskFamilyResult.family).Nodup)
    (h : ∀ r ∈ risk.familyResults, Ceiling R risk r) :
    (candidateResult risk (expectedFamilies R risk)).validate R = .ok () ↔
      R.sum ((expectedFamilies R risk).filterMap PortfolioFamilyResult.portfolioAllocatedRisk) ≤
        jointNewRiskCapacity R risk.accountSnapshot risk.tradingCycleConfig := by
  have hfamilies : (expectedFamilies R risk).map PortfolioFamilyResult.family =
      risk.familyResults.map RiskFamilyResult.family := by
    simp [expectedFamilies, expectedFamily, Function.comp_def]
  have hexpected : forM (candidateResult risk (expectedFamilies R risk)).familyResults
      ((candidateResult risk (expectedFamilies R risk)).validateExpected R) = .ok () :=
    forM_ok_iff.mpr (validateExpected_expectedFamilies
      (candidateResult risk (expectedFamilies R risk)) hnodup)
  have hceiling : forM (candidateResult risk (expectedFamilies R risk)).familyResults
      (candidateResult risk (expectedFamilies R risk)).validateCeiling = .ok () :=
    forM_ok_iff.mpr (validateCeiling_expectedFamilies
      (candidateResult risk (expectedFamilies R risk)) hnodup h)
  simp only [StrategyPortfolioResult.validate, check_ok_iff, unit_bind_ok_iff, hexpected, hceiling]
  simp only [candidateResult, hfamilies, jointNewRiskCapacity, le_min_iff, true_and]
  exact ⟨fun hall => hall.2.2, fun hle => ⟨hle.1, hle.2, hle⟩⟩

theorem requested_eq_nil (h : ∀ r ∈ risk.familyResults, Ceiling R risk r)
    (h7 : stage7SharedCapacity R risk.accountSnapshot risk.tradingCycleConfig ≤ 0) :
    risk.requested = [] := by
  have hnone : risk.familyResults.filter (fun r => r.verdict = .eligibleForPortfolioReview) =
      [] := by
    refine List.filter_eq_nil_iff.mpr fun r hr hverdict => ?_
    rcases h r hr with ⟨hblocked, -⟩ | ⟨-, hpos, -⟩
    · simp [hblocked] at hverdict
    · exact absurd h7 hpos.not_ge
  rw [StrategyRiskResult.requested, hnone, List.filterMap_nil]

theorem total_le_iff (h : ∀ r ∈ risk.familyResults, Ceiling R risk r) :
    R.sum ((expectedFamilies R risk).filterMap PortfolioFamilyResult.portfolioAllocatedRisk) ≤
        jointNewRiskCapacity R risk.accountSnapshot risk.tradingCycleConfig ↔
      jointNewRiskCapacity R risk.accountSnapshot risk.tradingCycleConfig ≤ 0 ∨
        R.ScalesWithin (jointNewRiskCapacity R risk.accountSnapshot risk.tradingCycleConfig)
          risk.requested := by
  have hstage8 : 0 ≤ remainingPortfolioCapacity R risk.accountSnapshot risk.tradingCycleConfig :=
    remainingPortfolioCapacity_nonneg _ _
  have hjoint := jointNewRiskCapacity_nonneg (R := R) risk.accountSnapshot
    risk.tradingCycleConfig
  rcases hstage8.eq_or_lt with h8 | h8
  · have hnone : (expectedFamilies R risk).filterMap
        PortfolioFamilyResult.portfolioAllocatedRisk = [] := filterMap_expectedFamily_of_le h8.ge
    rw [hnone]
    exact iff_of_true hjoint (.inl ((min_le_right _ _).trans h8.ge))
  · have halloc : (expectedFamilies R risk).filterMap
        PortfolioFamilyResult.portfolioAllocatedRisk =
          risk.requested.map (allocatedRisk R
            (jointNewRiskCapacity R risk.accountSnapshot risk.tradingCycleConfig)
            (R.sum risk.requested)) := filterMap_expectedFamily h8 h
    rw [halloc]
    unfold Rounding.ScalesWithin allocatedRisk
    split_ifs with htotal
    · rw [List.map_id']
      exact iff_of_true htotal (.inr (.inl htotal))
    · refine ⟨fun hfit => .inr (.inr hfit), ?_⟩
      rintro (hzero | hle | hfit)
      · have h7 := (min_le_iff.mp hzero).resolve_right h8.not_ge
        rw [requested_eq_nil h h7] at htotal
        exact absurd hjoint htotal
      · exact absurd hle htotal
      · exact hfit

theorem exists_evaluate_iff (hnodup : (risk.familyResults.map RiskFamilyResult.family).Nodup)
    (h : ∀ r ∈ risk.familyResults, Ceiling R risk r) :
    (∃ result, evaluate R risk = .ok result) ↔
      jointNewRiskCapacity R risk.accountSnapshot risk.tradingCycleConfig ≤ 0 ∨
        R.ScalesWithin (jointNewRiskCapacity R risk.accountSnapshot risk.tradingCycleConfig)
          risk.requested := by
  rw [← total_le_iff h, ← validate_candidateResult_iff hnodup h, evaluate_eq h]
  simp only [unit_bind_ok_iff, Except.ok.injEq]
  tauto

section

variable {policy : StrategyPolicyResult} {account : AccountRiskSnapshot}
  {candidates : List CandidateRiskInput} {config : TradingCycleConfig}

/-- The supervisor accepts a result of the risk gate exactly when there is nothing to share or the
ceilings scale to within the capacity. -/
theorem evaluate_ok_iff (h : RiskGate.evaluate R policy account candidates config = .ok risk) :
    (∃ result, evaluate R risk = .ok result) ↔
      jointNewRiskCapacity R account config ≤ 0 ∨
        R.ScalesWithin (jointNewRiskCapacity R account config) risk.requested := by
  obtain ⟨hnodup, hceilings⟩ := ceiling_of_evaluate h
  obtain ⟨rfl, rfl, -⟩ := RiskGate.evaluate_cases h
  exact exists_evaluate_iff hnodup hceilings

theorem requested_nonneg (h : RiskGate.evaluate R policy account candidates config = .ok risk) :
    ∀ m ∈ risk.requested, 0 ≤ m := by
  intro m hm
  obtain ⟨r, hr, hceiling⟩ := List.mem_filterMap.mp hm
  rcases (ceiling_of_evaluate h).2 r (List.mem_of_mem_filter hr) with
    ⟨-, hnone⟩ | ⟨-, -, n, hn, hpos, -⟩
  · rw [hnone] at hceiling
    cases hceiling
  · rw [hn] at hceiling
    cases hceiling
    exact hpos.le

/-- **The supervisor accepts a result of the risk gate** when there is nothing to share, when the
ceilings ask for no more than the capacity, and when scaling them down leaves room for the
roundings of the shares. **It fails** when the shares overshoot however they are rounded. -/
theorem evaluate_ok_of_leavesRoom
    (h : RiskGate.evaluate .decimal28 policy account candidates config = .ok risk) :
    (jointNewRiskCapacity .decimal28 account config ≤ 0 ∨
        Rounding.decimal28.sum risk.requested ≤ jointNewRiskCapacity .decimal28 account config ∨
        Rounding.LeavesRoom 27 (jointNewRiskCapacity .decimal28 account config) risk.requested →
      ∃ result, evaluate .decimal28 risk = .ok result) ∧
    (0 < jointNewRiskCapacity .decimal28 account config →
      jointNewRiskCapacity .decimal28 account config < Rounding.decimal28.sum risk.requested →
      Rounding.Overshoots 27 (jointNewRiskCapacity .decimal28 account config) risk.requested →
      ¬ ∃ result, evaluate .decimal28 risk = .ok result) := by
  rw [evaluate_ok_iff h]
  have hcapacity := jointNewRiskCapacity_nonneg (R := .decimal28) account config
  refine ⟨?_, fun hpos hscaled hover => ?_⟩
  · rintro (hnone | hfits | hroom)
    · exact .inl hnone
    · exact .inr (.inl hfits)
    · exact .inr (hroom.scalesWithin hcapacity (requested_nonneg h))
  · rintro (hnone | hwithin)
    · exact hnone.not_gt hpos
    · exact hover.not_scalesWithin hcapacity (requested_nonneg h) hscaled hwithin

/-- Ceilings in units of a power of ten that add up to no more than the capacity are let
through. -/
theorem evaluate_ok_of_units {e : ℤ}
    (h : RiskGate.evaluate .decimal28 policy account candidates config = .ok risk)
    (hunits : ∀ m ∈ risk.requested, ∃ k : ℤ, m = k * 10 ^ e)
    (hdigits : risk.requested.sum ≤ 10 ^ 28 * 10 ^ e)
    (hsum : risk.requested.sum ≤ jointNewRiskCapacity .decimal28 account config) :
    ∃ result, evaluate .decimal28 risk = .ok result :=
  (evaluate_ok_iff h).mpr
    (.inr (.inl (Rounding.sum_le_of_multiples (requested_nonneg h) hunits hdigits hsum)))

/-- Ceilings that scale exactly are let through: the factor has 28 digits, and every share is
written in units of the capacity. -/
theorem evaluate_ok_of_exact {e k : ℤ}
    (h : RiskGate.evaluate .decimal28 policy account candidates config = .ok risk)
    (hcapacity : jointNewRiskCapacity .decimal28 account config = k * 10 ^ e) (hk : k ≤ 10 ^ 28)
    (hsum : Rounding.decimal28.sum risk.requested = risk.requested.sum)
    (hfactor : Rounding.decimal28.Fixed
      (jointNewRiskCapacity .decimal28 account config / risk.requested.sum))
    (hshares : ∀ m ∈ risk.requested, ∃ j : ℤ,
      m * (jointNewRiskCapacity .decimal28 account config / risk.requested.sum) = j * 10 ^ e) :
    ∃ result, evaluate .decimal28 risk = .ok result := by
  have hnonneg := jointNewRiskCapacity_nonneg (R := .decimal28) account config
  rw [evaluate_ok_iff h]
  rcases le_or_gt risk.requested.sum 0 with hnone | hpos
  · exact .inr (.inl (hsum.symm ▸ hnone.trans hnonneg))
  · exact .inr ((Rounding.leavesRoom_of_exact hcapacity hk hsum hpos hfactor hshares).scalesWithin
      hnonneg (requested_nonneg h))

/-- Ceilings are let through when the factor is rounded down far enough: multiplied back, it leaves
a unit of the capacity for every family but one. -/
theorem evaluate_ok_of_error {e k : ℤ}
    (h : RiskGate.evaluate .decimal28 policy account candidates config = .ok risk)
    (hcapacity : jointNewRiskCapacity .decimal28 account config = k * 10 ^ e) (hk : k ≤ 10 ^ 28)
    (herror : risk.requested.sum *
        Rounding.quotient 27 (jointNewRiskCapacity .decimal28 account config) risk.requested +
      (risk.requested.length - 1) * 10 ^ e ≤ jointNewRiskCapacity .decimal28 account config) :
    ∃ result, evaluate .decimal28 risk = .ok result := by
  have hnonneg := jointNewRiskCapacity_nonneg (R := .decimal28) account config
  rw [evaluate_ok_iff h]
  rcases eq_or_ne risk.requested [] with hnone | hsome
  · rw [hnone]
    exact .inr (.inl hnonneg)
  · exact .inr ((Rounding.leavesRoom_of_error hcapacity hk hsome herror).scalesWithin hnonneg
      (requested_nonneg h))

/-- In exact arithmetic the supervisor accepts every result of the risk gate. -/
theorem exists_evaluate_exact
    (h : RiskGate.evaluate .exact policy account candidates config = .ok risk) :
    ∃ result, evaluate .exact risk = .ok result := by
  obtain ⟨hnodup, hceilings⟩ := ceiling_of_evaluate h
  rw [exists_evaluate_iff hnodup hceilings]
  rcases le_or_gt (jointNewRiskCapacity .exact risk.accountSnapshot risk.tradingCycleConfig) 0
    with hnone | hsome
  · exact .inl hnone
  · exact .inr (Rounding.scalesWithin_exact hsome _)

end

/-- The supervisor returns its family results, allocated within the joint capacity. -/
theorem evaluate_result {result : StrategyPortfolioResult}
    (hceiling : ∀ r ∈ risk.familyResults, Ceiling R risk r) (h : evaluate R risk = .ok result) :
    result = candidateResult risk (expectedFamilies R risk) ∧
      R.sum (result.familyResults.filterMap PortfolioFamilyResult.portfolioAllocatedRisk) ≤
        jointNewRiskCapacity R risk.accountSnapshot risk.tradingCycleConfig := by
  rw [evaluate_eq hceiling] at h
  obtain ⟨hvalid, h⟩ := unit_bind_ok_iff.mp h
  cases h
  refine ⟨rfl, ?_⟩
  simp only [StrategyPortfolioResult.validate, unit_bind_ok_iff, check_ok_iff] at hvalid
  exact hvalid.2.2.2.2.2.2

/-- A family the supervisor lets through was let through by the risk gate. -/
theorem eligible_of_expectedFamily {stage7 stage8 joint total : ℚ}
    (hceiling : ∀ r ∈ risk.familyResults, Ceiling R risk r) (hr : r ∈ risk.familyResults)
    (h : (expectedFamily R stage7 stage8 joint total r).verdict = .eligibleForSessionReview) :
    r.verdict = .eligibleForPortfolioReview := by
  rcases hceiling r hr with ⟨hverdict, -⟩ | ⟨hverdict, -⟩
  · simp [expectedFamily, expectedGroupResult, hverdict] at h
  · exact hverdict

/-- Whatever the supervisor returns is allocated within the daily capacity. -/
theorem allocated_le_of_evaluate {result : StrategyPortfolioResult}
    (h : evaluate R risk = .ok result) :
    R.sum (result.familyResults.filterMap PortfolioFamilyResult.portfolioAllocatedRisk) ≤
      stage7SharedCapacity R risk.accountSnapshot risk.tradingCycleConfig := by
  dsimp only [evaluate] at h
  obtain ⟨results, -, h⟩ := bind_ok_iff.mp h
  obtain ⟨hvalid, h⟩ := unit_bind_ok_iff.mp h
  cases h
  simp only [StrategyPortfolioResult.validate, unit_bind_ok_iff, check_ok_iff] at hvalid
  exact hvalid.2.2.2.2.1

/-! ## Samples -/

/-- One family, let through by policy. -/
def trendPolicy : StrategyPolicyResult where
  familyResults := [⟨.trendFollowing, .eligibleForRiskReview⟩]
  canonical := canonical_singleton .trendFollowing .eligibleForRiskReview

/-- An account whose portfolio capacity is below the ceiling of one trade. -/
def narrowAccount : AccountRiskSnapshot where
  asOf := 0
  rolloverEquity := ⟨66866, by decide⟩
  currentEquity := ⟨66866, by decide⟩
  realizedDailyPnl := 0
  floatingPnl := 0
  currentOpenRiskToStop := ⟨59138 / 100, by decide +kernel⟩

/-- A portfolio limit of one percent. -/
def narrowConfig : TradingCycleConfig where
  portfolioRiskLimitPercent := ⟨1, by decide +kernel⟩
  daily_le_drawdown := by decide +kernel
  perTrade_le_daily := by decide +kernel
  portfolio_le_drawdown := by decide +kernel

/-- The default limits. -/
def defaultConfig : TradingCycleConfig where
  daily_le_drawdown := by decide +kernel
  perTrade_le_daily := by decide +kernel
  portfolio_le_drawdown := by decide +kernel

/-- Two families, both let through by policy. -/
def twoPolicies : StrategyPolicyResult where
  familyResults := [⟨.trendFollowing, .eligibleForRiskReview⟩,
    ⟨.meanReversion, .eligibleForRiskReview⟩]
  canonical := by decide

/-- An account without open risk. -/
def roundAccount : AccountRiskSnapshot where
  asOf := 0
  rolloverEquity := ⟨100000, by decide⟩
  currentEquity := ⟨100000, by decide⟩
  realizedDailyPnl := 0
  floatingPnl := 0
  currentOpenRiskToStop := ⟨0, le_rfl⟩

/-- A portfolio limit of 0.6 percent. -/
def sharedConfig : TradingCycleConfig where
  portfolioRiskLimitPercent := ⟨3 / 5, by decide +kernel⟩
  daily_le_drawdown := by decide +kernel
  perTrade_le_daily := by decide +kernel
  portfolio_le_drawdown := by decide +kernel

/-- The narrow account with less open risk. -/
def lessNarrowAccount : AccountRiskSnapshot :=
  { narrowAccount with currentOpenRiskToStop := ⟨58381 / 100, by decide +kernel⟩ }

/-- Two ceilings of 500 share a capacity of 600 exactly, and one of 334.33 overshoots 84.85. -/
theorem evaluate_ok_of_leavesRoom_sample :
    (∃ risk, RiskGate.evaluate .decimal28 twoPolicies roundAccount
        [⟨.trendFollowing, 1⟩, ⟨.meanReversion, 2⟩] sharedConfig = .ok risk ∧
      risk.requested = [500, 500] ∧ ∃ result, evaluate .decimal28 risk = .ok result) ∧
    ∃ risk, RiskGate.evaluate .decimal28 trendPolicy lessNarrowAccount [⟨.trendFollowing, 1⟩]
        narrowConfig = .ok risk ∧
      risk.requested = [33433 / 100] ∧ ¬ ∃ result, evaluate .decimal28 risk = .ok result := by
  constructor
  · have hgate : ∃ risk, RiskGate.evaluate .decimal28 twoPolicies roundAccount
        [⟨.trendFollowing, 1⟩, ⟨.meanReversion, 2⟩] sharedConfig = .ok risk :=
      RiskGate.evaluate_ok (by decide +kernel)
    obtain ⟨risk, hrisk⟩ := hgate
    have hrequested : risk.requested = [500, 500] := by
      have h : (RiskGate.evaluate .decimal28 twoPolicies roundAccount
          [⟨.trendFollowing, 1⟩, ⟨.meanReversion, 2⟩] sharedConfig).map StrategyRiskResult.requested =
          .ok [500, 500] := by decide +kernel
      rw [hrisk] at h
      exact Except.ok.inj h
    refine ⟨risk, hrisk, hrequested,
      (evaluate_ok_of_leavesRoom hrisk).1 (.inr (.inr ⟨0, 600, ?_, by decide, ?_⟩))⟩
    · decide +kernel
    · rw [hrequested]
      decide +kernel
  · have hgate : ∃ risk, RiskGate.evaluate .decimal28 trendPolicy lessNarrowAccount
        [⟨.trendFollowing, 1⟩] narrowConfig = .ok risk := RiskGate.evaluate_ok (by decide +kernel)
    obtain ⟨risk, hrisk⟩ := hgate
    have hrequested : risk.requested = [33433 / 100] := by
      have h : (RiskGate.evaluate .decimal28 trendPolicy lessNarrowAccount [⟨.trendFollowing, 1⟩]
          narrowConfig).map StrategyRiskResult.requested = .ok [33433 / 100] := by decide +kernel
      rw [hrisk] at h
      exact Except.ok.inj h
    refine ⟨risk, hrisk, hrequested, (evaluate_ok_of_leavesRoom hrisk).2 ?_ ?_
      ⟨-26, 8485 * 10 ^ 24, ?_, by decide, ?_⟩⟩
    · decide +kernel
    · rw [hrequested]
      decide +kernel
    · decide +kernel
    · rw [hrequested]
      decide +kernel

/-- With 28 digits the share of the only family overshoots the capacity it was scaled to. -/
theorem share_overshoots : ∃ risk,
    RiskGate.evaluate .decimal28 trendPolicy narrowAccount [⟨.trendFollowing, 1⟩] narrowConfig =
      .ok risk ∧
    evaluate .decimal28 risk =
      .error (.validation "sum of portfolio_allocated_risk exceeds stage8_portfolio_capacity") := by
  have hgate : ∃ risk, RiskGate.evaluate .decimal28 trendPolicy narrowAccount
      [⟨.trendFollowing, 1⟩] narrowConfig = .ok risk := RiskGate.evaluate_ok (by decide +kernel)
  obtain ⟨risk, hrisk⟩ := hgate
  have hfails : (match RiskGate.evaluate .decimal28 trendPolicy narrowAccount
      [⟨.trendFollowing, 1⟩] narrowConfig with
    | .ok risk => evaluate .decimal28 risk
    | .error _ => .error .assertion) =
      .error (.validation
        "sum of portfolio_allocated_risk exceeds stage8_portfolio_capacity") := by
    decide +kernel
  rw [hrisk] at hfails
  exact ⟨risk, hrisk, hfails⟩

end PortfolioSupervisor

end TradingAdvisor
