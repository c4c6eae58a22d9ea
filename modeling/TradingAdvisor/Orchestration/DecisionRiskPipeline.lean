import TradingAdvisor.Decision.SetupConstruction
import TradingAdvisor.Orchestration.FactAssembly
import TradingAdvisor.Statistics.SessionGate

/-!
# The decision and risk pipeline

One cycle from the setups to the session verdicts. The setups and the event gate always run; the
stages that need an account run only with a ready assembly.

* `DecisionRiskPipelineResult` — what one run produces;
* `riskReview` — the stages from the event gate on, for any setups;
* `evaluateDecisionRiskPipeline` — the pipeline;
* `Reviewed`, `reviewed_of_ok` — the chain of stage results behind a session verdict.
-/

namespace TradingAdvisor

open SignificantDigits Checks Keyed

/-- How far the pipeline got. -/
inductive DecisionRiskPipelineOutcome
  | completed
  | blockedBeforeRisk
  deriving DecidableEq, Repr

/-- What one run produces; it carries session verdicts exactly when it completed. -/
structure DecisionRiskPipelineResult where
  outcome : DecisionRiskPipelineOutcome
  strategySetupResult : StrategySetups
  accountRiskSnapshotAssembly : AccountRiskSnapshotAssembly
  strategySessionResult : Option StrategySessionResult := none
  highImpactEventRiskResult : HighImpactEventRiskResult
  outcome_iff : outcome = .completed ↔ accountRiskSnapshotAssembly.outcome = .ready
  session_iff : strategySessionResult.isSome ↔ outcome = .completed

/-- A failure of a result model, as a failure of the pipeline. -/
def raiseModel {α : Type} (x : Except ModelError α) : Except RiskGateError α :=
  x.mapError RiskGateError.model

theorem raiseModel_ok {α : Type} {x : Except ModelError α} {a : α} :
    raiseModel x = .ok a ↔ x = .ok a :=
  mapError_ok_iff

variable (R : Rounding)

/-- What the stages after the setups are given. -/
structure ReviewInput where
  evaluationTime : Timestamp
  accountRiskSnapshotAssembly : AccountRiskSnapshotAssembly
  tradingCycleConfig : TradingCycleConfig
  lockedOverride : Bool := false
  highImpactEventContext : Option HighImpactEventContext := none
  highImpactEventSymbolScopeConfig : Option HighImpactEventSymbolScopeConfig := none

/-- The event verdicts of some setups. -/
def ReviewInput.eventVerdicts (i : ReviewInput) (setups : StrategySetups) :
    HighImpactEventRiskResult :=
  HighImpactEventGate.evaluate setups.toStrategySetupResult i.highImpactEventContext
    i.evaluationTime i.highImpactEventSymbolScopeConfig

/-- The stages from the event gate to the session gate. -/
def riskReview (i : ReviewInput) (setups : StrategySetups) :
    Except RiskGateError DecisionRiskPipelineResult :=
  let events := i.eventVerdicts setups
  if hready : i.accountRiskSnapshotAssembly.outcome = .ready then
    match i.accountRiskSnapshotAssembly.accountSnapshot with
    | none => .error (.model .assertion)
    | some account => do
        let risk ← RiskGate.evaluate R setups.decision.toStrategyPolicyResult account
          (toEventAdjustedCandidateRiskInputs setups events) i.tradingCycleConfig
        let portfolio ← raiseModel (PortfolioSupervisor.evaluate R risk)
        let session ← raiseModel (SessionGate.evaluate R portfolio i.lockedOverride)
        return {
          outcome := .completed
          strategySetupResult := setups
          accountRiskSnapshotAssembly := i.accountRiskSnapshotAssembly
          strategySessionResult := some session
          highImpactEventRiskResult := events
          outcome_iff := iff_of_true rfl hready
          session_iff := iff_of_true rfl rfl }
  else
    .ok {
      outcome := .blockedBeforeRisk
      strategySetupResult := setups
      accountRiskSnapshotAssembly := i.accountRiskSnapshotAssembly
      strategySessionResult := none
      highImpactEventRiskResult := events
      outcome_iff := iff_of_false (by decide) hready
      session_iff := iff_of_false Bool.false_ne_true (by decide) }

/-- The pipeline, from the decisions upstream on. -/
def evaluateDecisionRiskPipeline (decision : StrategyDecision)
    (symbolFacts : Option MT5SymbolSnapshot) (m15MarketStructure : Option MarketStructureFeatures)
    (brokerSymbol : Symbol) (i : ReviewInput) : Except RiskGateError DecisionRiskPipelineResult := do
  let setups ← raiseModel (constructSetups R decision i.evaluationTime symbolFacts
    m15MarketStructure brokerSymbol)
  riskReview R i setups

/-! ## The chain of stage results -/

/-- The stage results behind the session verdicts of a run. -/
structure Reviewed (i : ReviewInput) (setups : StrategySetups) (session : StrategySessionResult) where
  account : AccountRiskSnapshot
  risk : StrategyRiskResult
  portfolio : StrategyPortfolioResult
  account_eq : i.accountRiskSnapshotAssembly.accountSnapshot = some account
  risk_eq : RiskGate.evaluate R setups.decision.toStrategyPolicyResult account
    (toEventAdjustedCandidateRiskInputs setups (i.eventVerdicts setups)) i.tradingCycleConfig =
      .ok risk
  portfolio_eq : PortfolioSupervisor.evaluate R risk = .ok portfolio
  session_eq : SessionGate.evaluate R portfolio i.lockedOverride = .ok session

variable {R} {i : ReviewInput} {setups : StrategySetups} {p : DecisionRiskPipelineResult}

theorem riskReview_cases (h : riskReview R i setups = .ok p) :
    p.strategySetupResult = setups ∧
      p.accountRiskSnapshotAssembly = i.accountRiskSnapshotAssembly ∧
      p.highImpactEventRiskResult = i.eventVerdicts setups ∧
      ∀ session ∈ p.strategySessionResult, Nonempty (Reviewed R i setups session) := by
  dsimp only [riskReview] at h
  split_ifs at h with hready
  · rcases haccount : i.accountRiskSnapshotAssembly.accountSnapshot with _ | account
    · rw [haccount] at h
      cases h
    · rw [haccount] at h
      obtain ⟨risk, hrisk, h⟩ := bind_ok_iff.mp h
      obtain ⟨portfolio, hportfolio, h⟩ := bind_ok_iff.mp h
      obtain ⟨session, hsession, h⟩ := bind_ok_iff.mp h
      cases h
      refine ⟨rfl, rfl, rfl, ?_⟩
      rintro _ ⟨⟩
      exact ⟨⟨account, risk, portfolio, haccount, hrisk, raiseModel_ok.mp hportfolio,
        raiseModel_ok.mp hsession⟩⟩
  · cases h
    refine ⟨rfl, rfl, rfl, ?_⟩
    intro session hsession
    cases hsession

end TradingAdvisor
