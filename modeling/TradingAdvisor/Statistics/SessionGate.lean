import TradingAdvisor.Diversification.PortfolioSupervisor

/-!
# The session gate

Whether the families that the portfolio supervisor let through may proceed under the state of the
trading session. The state is one fact for all families; the gate passes an allocation unchanged
or blocks it.

* `deriveSessionStatus` — the state of the session, most conservative first;
* `StrategySessionResult.validate` — the checks of the result model;
* `SessionGate.evaluate` — the gate;
* **`SessionGate.exists_evaluate`**: the gate never fails on a result of the supervisor.
-/

namespace TradingAdvisor

open SignificantDigits Checks Keyed

/-- Operational state of a trading session. -/
inductive TradingSessionStatus
  | active
  | reducedRisk
  | capitalPreservation
  | targetReached
  | lossLimitReached
  | locked
  deriving DecidableEq, Repr

/-- The value of the status in messages. -/
def TradingSessionStatus.value : TradingSessionStatus → String
  | active => "ACTIVE"
  | reducedRisk => "REDUCED_RISK"
  | capitalPreservation => "CAPITAL_PRESERVATION"
  | targetReached => "TARGET_REACHED"
  | lossLimitReached => "LOSS_LIMIT_REACHED"
  | locked => "LOCKED"

/-- Per-family session verdict. -/
inductive SessionFamilyVerdict
  | eligibleForRuntimeReview
  | blockedBySession
  deriving DecidableEq, Repr

/-- Verdict across every family. -/
inductive SessionGateOutcome
  | someEligibleForRuntimeReview
  | noSessionEligibleFamily
  deriving DecidableEq, Repr

/-- The value of the outcome in messages. -/
def SessionGateOutcome.value : SessionGateOutcome → String
  | someEligibleForRuntimeReview => "SOME_ELIGIBLE_FOR_RUNTIME_REVIEW"
  | noSessionEligibleFamily => "NO_SESSION_ELIGIBLE_FAMILY"

/-- Why a family is blocked. -/
inductive SessionBlockReason
  | portfolioNotEligible
  | sessionLocked
  | lossLimitReached
  | targetReached
  deriving DecidableEq, Repr

/-- The reason a status blocks with. -/
def sessionReasonByStatus : TradingSessionStatus → Option SessionBlockReason
  | .locked => some .sessionLocked
  | .lossLimitReached => some .lossLimitReached
  | .targetReached => some .targetReached
  | .active | .reducedRisk | .capitalPreservation => none

/-- One family's session verdict. -/
structure SessionFamilyResult where
  family : StrategyFamily
  verdict : SessionFamilyVerdict
  reasons : List SessionBlockReason := []
  sessionAllocatedRisk : Option ℚ := none
  deriving DecidableEq, Repr

/-- The checks of one family result. -/
def SessionFamilyResult.validate (r : SessionFamilyResult) : Except ModelError Unit := do
  check (r.verdict = if r.reasons = [] then .eligibleForRuntimeReview else .blockedBySession)
    (ModelError.validation "verdict must be BLOCKED_BY_SESSION iff reasons is non-empty")
  check (r.reasons.length ≤ 1)
    (.validation "reasons must carry at most one canonical reason")
  match r.verdict with
  | .eligibleForRuntimeReview =>
      check (PositiveFigure r.sessionAllocatedRisk)
        (ModelError.validation "ELIGIBLE_FOR_RUNTIME_REVIEW requires session_allocated_risk > 0")
  | .blockedBySession =>
      check (r.sessionAllocatedRisk = none)
        (ModelError.validation "BLOCKED_BY_SESSION must not carry session_allocated_risk")

/-- The session verdict of every family the supervisor produced a result for. -/
structure StrategySessionResult where
  strategyPortfolioResult : StrategyPortfolioResult
  lockedOverride : Bool := false
  sessionStatus : TradingSessionStatus
  outcome : SessionGateOutcome
  familyResults : List SessionFamilyResult

variable (R : Rounding)

/-- The state of the session: a lock wins over the loss limit, the loss limit over the target. -/
def deriveSessionStatus (portfolio : StrategyPortfolioResult) (lockedOverride : Bool) :
    TradingSessionStatus :=
  let account := portfolio.strategyRiskResult.accountSnapshot
  let config := portfolio.strategyRiskResult.tradingCycleConfig
  if lockedOverride then .locked
  else if (accountRiskState R account config).1 ≤ 0 then .lossLimitReached
  else if percentOf R account.rolloverEquity config.targetProfitPercent ≤
      R.rnd (account.currentEquity - account.rolloverEquity) then .targetReached
  else .active

/-- A verdict with its reasons and allocation. -/
abbrev ExpectedSessionResult := SessionFamilyVerdict × List SessionBlockReason × Option ℚ

/-- The verdict one family must carry; a status without a reason is not reachable. -/
def expectedSessionResult (r : PortfolioFamilyResult) (status : TradingSessionStatus) :
    Except ModelError ExpectedSessionResult :=
  if r.verdict = .blockedByPortfolio then
    .ok (.blockedBySession, [.portfolioNotEligible], none)
  else if status = .active then .ok (.eligibleForRuntimeReview, [], r.portfolioAllocatedRisk)
  else
    match sessionReasonByStatus status with
    | some reason => .ok (.blockedBySession, [reason], none)
    | none => .error .assertion

/-- The outcome the family verdicts stand for. -/
def sessionOutcome (familyResults : List SessionFamilyResult) : SessionGateOutcome :=
  if ∃ r ∈ familyResults, r.verdict = .eligibleForRuntimeReview then .someEligibleForRuntimeReview
  else .noSessionEligibleFamily

/-- Compare one family result with the verdict it must carry. -/
def StrategySessionResult.validateExpected (r : StrategySessionResult)
    (pair : PortfolioFamilyResult × SessionFamilyResult) : Except ModelError Unit := do
  let (portfolio, session) := pair
  let name := "family " ++ session.family.value
  let (verdict, reasons, allocation) ← expectedSessionResult portfolio r.sessionStatus
  check (session.verdict = verdict)
    (ModelError.validation (name ++ ": verdict does not match expected session evaluation"))
  check (session.reasons = reasons)
    (.validation (name ++ ": reasons do not match expected session evaluation"))
  check (session.sessionAllocatedRisk = allocation)
    (.validation (name ++ ": session_allocated_risk does not match expected session evaluation"))

/-- The checks of the whole result. -/
def StrategySessionResult.validate (r : StrategySessionResult) : Except ModelError Unit := do
  check (r.familyResults.map SessionFamilyResult.family =
      r.strategyPortfolioResult.familyResults.map PortfolioFamilyResult.family)
    (ModelError.validation
      "family_results must cover exactly strategy_portfolio_result.family_results, in the same order")
  check (r.sessionStatus ∈ [.active, .lossLimitReached, .targetReached, .locked])
    (.validation ("session_status " ++ r.sessionStatus.value ++ " is not reachable in Stage 9 V1"))
  check (r.sessionStatus = deriveSessionStatus R r.strategyPortfolioResult r.lockedOverride)
    (.validation ("session_status " ++ r.sessionStatus.value ++ " does not match expected " ++
      (deriveSessionStatus R r.strategyPortfolioResult r.lockedOverride).value))
  check (r.outcome = sessionOutcome r.familyResults)
    (.validation ("outcome " ++ r.outcome.value ++ " does not match per-family-derived outcome " ++
      (sessionOutcome r.familyResults).value))
  forM (r.strategyPortfolioResult.familyResults.zip r.familyResults) r.validateExpected

/-! ## The gate -/

namespace SessionGate

/-- Construct a family result. -/
def construct (r : SessionFamilyResult) : Except ModelError SessionFamilyResult := do
  r.validate
  return r

/-- Evaluate one family. -/
def evaluateFamily (status : TradingSessionStatus) (r : PortfolioFamilyResult) :
    Except ModelError SessionFamilyResult :=
  if r.verdict = .blockedByPortfolio then
    construct { family := r.family, verdict := .blockedBySession, reasons := [.portfolioNotEligible] }
  else if status = .active then
    construct { family := r.family, verdict := .eligibleForRuntimeReview,
                sessionAllocatedRisk := r.portfolioAllocatedRisk }
  else
    match sessionReasonByStatus status with
    | some reason =>
        construct { family := r.family, verdict := .blockedBySession, reasons := [reason] }
    | none => .error .assertion

/-- The session gate. -/
def evaluate (portfolio : StrategyPortfolioResult) (lockedOverride : Bool) :
    Except ModelError StrategySessionResult := do
  let sessionStatus := deriveSessionStatus R portfolio lockedOverride
  let familyResults ← portfolio.familyResults.mapM (evaluateFamily sessionStatus)
  let result : StrategySessionResult :=
    { strategyPortfolioResult := portfolio, lockedOverride, sessionStatus
      outcome := sessionOutcome familyResults, familyResults }
  result.validate R
  return result

/-! ## What the gate emits -/

variable {R} {portfolio : StrategyPortfolioResult} {lockedOverride : Bool}
  {result : StrategySessionResult} {status : TradingSessionStatus} {r : PortfolioFamilyResult}
  {s : SessionFamilyResult}

theorem construct_ok_iff {s' : SessionFamilyResult} :
    construct s = .ok s' ↔ s.validate = .ok () ∧ s = s' := by
  simp only [construct, unit_bind_ok_iff, pure, Except.pure, Except.ok.injEq]

/-- A family is blocked with a reason, or keeps the allocation of the supervisor. -/
theorem evaluateFamily_cases (h : evaluateFamily status r = .ok s) :
    s.family = r.family ∧
      ((s.verdict = .blockedBySession ∧ s.reasons ≠ [] ∧ s.sessionAllocatedRisk = none ∧
          (s.reasons = [.portfolioNotEligible] → r.verdict = .blockedByPortfolio)) ∨
        (s.verdict = .eligibleForRuntimeReview ∧ s.reasons = [] ∧
          r.verdict = .eligibleForSessionReview ∧
          s.sessionAllocatedRisk = r.portfolioAllocatedRisk ∧
          PositiveFigure r.portfolioAllocatedRisk)) := by
  unfold evaluateFamily at h
  split_ifs at h with hblocked hactive
  · obtain ⟨-, rfl⟩ := construct_ok_iff.mp h
    exact ⟨rfl, .inl ⟨rfl, List.cons_ne_nil _ _, rfl, fun _ => hblocked⟩⟩
  · obtain ⟨hvalid, rfl⟩ := construct_ok_iff.mp h
    have hverdict : r.verdict = .eligibleForSessionReview := by
      cases hv : r.verdict
      · rfl
      · exact absurd hv hblocked
    refine ⟨rfl, .inr ⟨rfl, rfl, hverdict, rfl, ?_⟩⟩
    simpa [SessionFamilyResult.validate] using hvalid
  · rcases hreason : sessionReasonByStatus status with _ | reason
    · rw [hreason] at h
      cases h
    · rw [hreason] at h
      obtain ⟨-, rfl⟩ := construct_ok_iff.mp h
      refine ⟨rfl, .inl ⟨rfl, List.cons_ne_nil _ _, rfl, fun hmirror => ?_⟩⟩
      cases status <;> cases hreason <;> cases hmirror

/-- What a result of the gate carries. -/
theorem evaluate_cases (h : evaluate R portfolio lockedOverride = .ok result) :
    result.strategyPortfolioResult = portfolio ∧
      portfolio.familyResults.mapM (evaluateFamily (deriveSessionStatus R portfolio lockedOverride)) =
        .ok result.familyResults := by
  unfold evaluate at h
  obtain ⟨familyResults, hresults, h⟩ := bind_ok_iff.mp h
  obtain ⟨-, h⟩ := unit_bind_ok_iff.mp h
  cases h
  exact ⟨rfl, hresults⟩

theorem families_eq {l : List PortfolioFamilyResult} {l' : List SessionFamilyResult}
    (h : l.mapM (evaluateFamily status) = .ok l') :
    l'.map SessionFamilyResult.family = l.map PortfolioFamilyResult.family := by
  have hforall := mapM_ok_forall₂ h
  clear h
  induction hforall with
  | nil => rfl
  | cons hr _ ih => rw [List.map_cons, List.map_cons, ih, (evaluateFamily_cases hr).1]

/-! ## The gate never fails -/

theorem deriveSessionStatus_mem :
    deriveSessionStatus R portfolio lockedOverride ∈
      ([.active, .lossLimitReached, .targetReached, .locked] : List TradingSessionStatus) := by
  dsimp only [deriveSessionStatus]
  split_ifs <;> simp

theorem sessionReason_of_mem
    (h : status ∈ ([.active, .lossLimitReached, .targetReached, .locked] : List _))
    (hactive : status ≠ .active) : ∃ reason, sessionReasonByStatus status = some reason := by
  simp only [List.mem_cons, List.not_mem_nil, or_false] at h
  rcases h with rfl | rfl | rfl | rfl
  · exact absurd rfl hactive
  · exact ⟨_, rfl⟩
  · exact ⟨_, rfl⟩
  · exact ⟨_, rfl⟩

theorem exists_evaluateFamily
    (hstatus : status ∈ ([.active, .lossLimitReached, .targetReached, .locked] : List _))
    (hr : r.validate = .ok ()) : ∃ s, evaluateFamily status r = .ok s := by
  unfold evaluateFamily
  split_ifs with hblocked hactive
  · exact ⟨_, construct_ok_iff.mpr ⟨rfl, rfl⟩⟩
  · have hverdict : r.verdict = .eligibleForSessionReview := by
      cases hv : r.verdict
      · rfl
      · exact absurd hv hblocked
    have hpositive : PositiveFigure r.portfolioAllocatedRisk := by
      simp only [PortfolioFamilyResult.validate, check_bind_ok, hverdict, check_ok_iff] at hr
      exact hr.2.2
    refine ⟨_, construct_ok_iff.mpr ⟨?_, rfl⟩⟩
    simpa [SessionFamilyResult.validate] using hpositive
  · obtain ⟨reason, hreason⟩ := sessionReason_of_mem hstatus hactive
    rw [hreason]
    exact ⟨_, construct_ok_iff.mpr ⟨rfl, rfl⟩⟩

/-- The result model derives the verdict the gate has given. -/
theorem validateExpected_of_evaluateFamily
    (h : evaluateFamily result.sessionStatus r = .ok s) :
    result.validateExpected (r, s) = .ok () := by
  unfold evaluateFamily at h
  unfold StrategySessionResult.validateExpected expectedSessionResult
  dsimp only
  by_cases hblocked : r.verdict = .blockedByPortfolio
  · rw [if_pos hblocked] at h ⊢
    obtain ⟨-, rfl⟩ := construct_ok_iff.mp h
    rfl
  rw [if_neg hblocked] at h ⊢
  by_cases hactive : result.sessionStatus = .active
  · rw [if_pos hactive] at h ⊢
    obtain ⟨-, rfl⟩ := construct_ok_iff.mp h
    simp [bind, Except.bind, check]
  rw [if_neg hactive] at h ⊢
  rcases hreason : sessionReasonByStatus result.sessionStatus with _ | reason
  · rw [hreason] at h
    cases h
  · rw [hreason] at h
    obtain ⟨-, rfl⟩ := construct_ok_iff.mp h
    simp [bind, Except.bind, check]

/-- **The gate never fails on results that passed their own checks.** -/
theorem exists_evaluate (h : ∀ r ∈ portfolio.familyResults, r.validate = .ok ()) :
    ∃ result, evaluate R portfolio lockedOverride = .ok result := by
  have hmem : deriveSessionStatus R portfolio lockedOverride ∈
      ([.active, .lossLimitReached, .targetReached, .locked] : List _) := deriveSessionStatus_mem
  obtain ⟨familyResults, hresults⟩ := mapM_ok_of_exists fun r hr =>
    exists_evaluateFamily hmem (h r hr)
  have hvalid : StrategySessionResult.validate R
      { strategyPortfolioResult := portfolio, lockedOverride
        sessionStatus := deriveSessionStatus R portfolio lockedOverride
        outcome := sessionOutcome familyResults, familyResults } = .ok () := by
    simp only [StrategySessionResult.validate, check_bind_ok, forM_ok_iff]
    refine ⟨families_eq hresults, hmem, trivial, trivial, ?_⟩
    rintro ⟨r, s⟩ hpair
    exact validateExpected_of_evaluateFamily
      (List.forall₂_zip (mapM_ok_forall₂ hresults) hpair)
  refine ⟨_, bind_ok_iff.mpr ⟨familyResults, hresults, unit_bind_ok_iff.mpr ⟨hvalid, rfl⟩⟩⟩

end SessionGate

end TradingAdvisor
