import TradingAdvisor.Orchestration.CycleResult

/-!
# No-trade reasons

What the operator is told about every family of a cycle: its recommendation, once its tracking is
created and persisted, or the stage that it ended at.

* `deriveNoTradeReason` — the walk of one family through the stages;
* `isIssuable`, `deriveIssuanceReason` — whether an actionable family was issued, and why not;
* `mapRecommendations` — the pass over the families.
-/

namespace TradingAdvisor

open SignificantDigits Checks

/-! ## Vocabulary -/

/-- The stage that a no-trade reason ended at. -/
inductive NoTradeStage
  | evaluation
  | judge
  | policy
  | setup
  | event
  | risk
  | portfolio
  | session
  | final
  | issuance
  deriving DecidableEq, Repr

/-- A recommendation that was created but not persisted. -/
inductive IssuanceFailureReason
  | trackingPersistenceFailed
  deriving DecidableEq, Repr

/-- The reason of any stage. -/
inductive NoTradeCode
  | eligibility (reason : StrategyIneligibilityReason)
  | policy (reason : PolicyBlockReason)
  | setup (reason : SetupBlockReason)
  | event (reason : HighImpactEventBlockReason)
  | risk (reason : RiskBlockReason)
  | portfolio (reason : PortfolioBlockReason)
  | session (reason : SessionBlockReason)
  | final (reason : FinalRecommendationBlockReason)
  | netting (outcome : NettingIssuanceOutcome)
  | creation (outcome : MT5TrackedRecommendationCreationOutcome)
  | issuance (reason : IssuanceFailureReason)
  deriving DecidableEq, Repr

/-- Why a family is not traded. -/
structure NoTradeReasonDTO where
  strategyFamily : StrategyFamily
  stage : NoTradeStage
  codes : List NoTradeCode
  codes_ne_nil : codes ≠ []
  deriving DecidableEq

/-- What the operator sees of a recommendation. -/
structure RecommendationDTO where
  tradeId : TradeId
  strategyFamily : StrategyFamily
  symbol : Symbol
  direction : TradeDirection
  entryPrice : Price
  stopLoss : Price
  takeProfitLevels : List Price := []
  approvedVolume : PositiveRat
  approvedRiskAmount : PositiveRat
  accountCurrency : NonemptyText
  signalTime : Timestamp
  validUntil : Timestamp

/-- What the mapping raises. -/
inductive NoTradeMappingError
  | internalApplication
  | model (error : ModelError)
  deriving DecidableEq

/-- How a cycle ends for the operator. -/
inductive ProductionAdvisoryCycleOutcome
  | ready
  | serviceUnavailable
  deriving DecidableEq, Repr

/-- A cycle as the composer returns it. -/
structure ProductionAdvisoryCycleResult where
  outcome : ProductionAdvisoryCycleOutcome
  runtimeCycleResult : RuntimeCycleResult

/-- What the composer makes of a runtime cycle. -/
def RuntimeCycleResult.toProductionCycle (r : RuntimeCycleResult) :
    ProductionAdvisoryCycleResult where
  outcome := if r.outcome = .blocked then .serviceUnavailable else .ready
  runtimeCycleResult := r

/-! ## The walk through the stages -/

/-- The first entry of a family. -/
def findByFamily {α : Type} (family : α → StrategyFamily) (items : List α) (k : StrategyFamily) :
    Option α :=
  items.find? fun a => family a = k

/-- An entry that every result is asserted to hold. -/
def assertFound {α : Type} (found : Option α) : Except NoTradeMappingError α :=
  match found with
  | some a => .ok a
  | none => .error (.model .assertion)

/-- Construct a no-trade reason. -/
def noTradeReason (strategyFamily : StrategyFamily) (stage : NoTradeStage)
    (codes : List NoTradeCode) : Except NoTradeMappingError NoTradeReasonDTO :=
  if h : codes ≠ [] then .ok { strategyFamily, stage, codes, codes_ne_nil := h }
  else .error (.model (.validation "codes must have at least 1 item"))

/-- The reasons of policy that stand for a judgement without a direction. -/
def judgeMirroredPolicyReasons : List PolicyBlockReason :=
  [.judgeOutcomeMixed, .judgeOutcomeInsufficientEvidence]

/-- A block of this stage itself, not the mirror of an earlier one. -/
def IsGenuine {α : Type} (mirror : α) (reasons : List α) : Prop :=
  reasons ≠ [] ∧ reasons ≠ [mirror]

instance {α : Type} [DecidableEq α] (mirror : α) (reasons : List α) :
    Decidable (IsGenuine mirror reasons) :=
  inferInstanceAs (Decidable (_ ∧ _))

/-- The last stage of the walk: the final recommendations. -/
def deriveFinalReason (family : StrategyFamily) (r : RuntimeCycleResult) :
    Except NoTradeMappingError (Option NoTradeReasonDTO) :=
  match r.finalRecommendationConstructionResult with
  | none => .ok none
  | some construction =>
      match findByFamily FinalRecommendationFamilyResult.family construction.familyResults family with
      | none => .ok none
      | some final =>
          match final.verdict with
          | .ok _ => .ok none
          | .error reason =>
              if reason ≠ .sessionNotEligible then
                some <$> noTradeReason family .final [.final reason]
              else .error .internalApplication

/-- The stages of the walk that need an account. -/
def deriveReviewReason (family : StrategyFamily) (r : RuntimeCycleResult)
    (drp : DecisionRiskPipelineResult) : Except NoTradeMappingError (Option NoTradeReasonDTO) :=
  match drp.strategySessionResult with
  | none => .ok none
  | some sessionResult =>
      if drp.outcome = .blockedBeforeRisk then .ok none
      else do
        let portfolioResult := sessionResult.strategyPortfolioResult
        let risk ← assertFound (findByFamily RiskFamilyResult.family
          portfolioResult.strategyRiskResult.familyResults family)
        if IsGenuine .policyNotEligible risk.reasons then
          some <$> noTradeReason family .risk (risk.reasons.map .risk)
        else do
          let portfolio ← assertFound (findByFamily PortfolioFamilyResult.family
            portfolioResult.familyResults family)
          if IsGenuine .riskNotEligible portfolio.reasons then
            some <$> noTradeReason family .portfolio (portfolio.reasons.map .portfolio)
          else do
            let session ← assertFound (findByFamily SessionFamilyResult.family
              sessionResult.familyResults family)
            if IsGenuine .portfolioNotEligible session.reasons then
              some <$> noTradeReason family .session (session.reasons.map .session)
            else deriveFinalReason family r

/-- The stages of the walk from the setup on. -/
def deriveSetupReason (family : StrategyFamily) (r : RuntimeCycleResult)
    (drp : DecisionRiskPipelineResult) : Except NoTradeMappingError (Option NoTradeReasonDTO) := do
  let setup ← assertFound
    (findByFamily FamilySetup.family drp.strategySetupResult.familyResults family)
  match setup.verdict with
  | .error reason => some <$> noTradeReason family .setup [.setup reason]
  | .ok _ =>
      match (findByFamily HighImpactEventFamilyResult.family
          drp.highImpactEventRiskResult.familyResults family).filter
            fun event => event.verdict = .blocked with
      | some event => some <$> noTradeReason family .event (event.reasons.map .event)
      | none => deriveReviewReason family r drp

/-- The first stage that is genuinely the end of a family, or none. -/
def deriveNoTradeReason (family : StrategyFamily) (r : RuntimeCycleResult) :
    Except NoTradeMappingError (Option NoTradeReasonDTO) :=
  match r.decisionRiskPipelineResult with
  | none => .ok none
  | some drp =>
      let decision := drp.strategySetupResult.decision
      if decision.ineligibilityReasons family ≠ [] then
        some <$> noTradeReason family .evaluation
          ((decision.ineligibilityReasons family).map .eligibility)
      else do
        let policy ← assertFound
          (findByFamily PolicyFamilyResult.family decision.familyResults family)
        if policy.verdict = .blocked then
          let reasons := decision.policyReasons family
          let stage : NoTradeStage :=
            if ∃ reason ∈ reasons.head?, reason ∈ judgeMirroredPolicyReasons then .judge else .policy
          some <$> noTradeReason family stage (reasons.map .policy)
        else deriveSetupReason family r drp

/-! ## Issuance -/

/-- The tracking of this trade was created and persisted in the cycle. -/
def IsIssuable (tradeId : TradeId) (r : RuntimeCycleResult) : Prop :=
  ∃ outcome ∈ r.newTrackingPersistenceOutcomes,
    outcome.tradeId = tradeId ∧ outcome.trackingCreationOutcome = .created ∧
      outcome.trackingPersisted = true

instance (tradeId : TradeId) (r : RuntimeCycleResult) : Decidable (IsIssuable tradeId r) :=
  inferInstanceAs (Decidable (∃ outcome ∈ r.newTrackingPersistenceOutcomes, _))

/-- Why an actionable family was not issued: the guard, or how its creation went. -/
def deriveIssuanceReason (tradeId : TradeId) (r : RuntimeCycleResult) :
    Except NoTradeMappingError NoTradeCode :=
  match r.nettingGuardResult.filter fun guard => guard.outcome ≠ .allowed with
  | some guard => .ok (.netting guard.outcome)
  | none =>
      match r.newTrackingPersistenceOutcomes.find? fun outcome => outcome.tradeId = tradeId with
      | some outcome =>
          if outcome.trackingCreationOutcome = .created then
            .ok (.issuance .trackingPersistenceFailed)
          else .ok (.creation outcome.trackingCreationOutcome)
      | none => .error .internalApplication

/-- What the operator sees of a recommendation. -/
def mapRecommendation (recommendation : FinalRecommendation) : RecommendationDTO where
  tradeId := recommendation.tradeId
  strategyFamily := recommendation.family
  symbol := recommendation.symbol
  direction := recommendation.direction
  entryPrice := recommendation.entryPrice
  stopLoss := recommendation.stopLoss
  takeProfitLevels := recommendation.takeProfitLevels
  approvedVolume := recommendation.approvedVolume
  approvedRiskAmount := recommendation.approvedRiskAmount
  accountCurrency := recommendation.accountCurrency
  signalTime := recommendation.signalTime
  validUntil := recommendation.validUntil

/-! ## The pass over the families -/

/-- The recommendations and the no-trade reasons so far. -/
abbrev MappedFamilies := List RecommendationDTO × List NoTradeReasonDTO

/-- Expose an actionable family, or say why it was not issued. -/
def mapActionable (family : StrategyFamily) (r : RuntimeCycleResult) (mapped : MappedFamilies)
    (recommendation : FinalRecommendation) : Except NoTradeMappingError MappedFamilies :=
  if IsIssuable recommendation.tradeId r then
    .ok (mapped.1 ++ [mapRecommendation recommendation], mapped.2)
  else do
    let issuanceCode ← deriveIssuanceReason recommendation.tradeId r
    let noTrade ← noTradeReason family .issuance [issuanceCode]
    return (mapped.1, mapped.2 ++ [noTrade])

/-- Map one family. -/
def mapFamily (r : RuntimeCycleResult) (mapped : MappedFamilies) (family : StrategyFamily) :
    Except NoTradeMappingError MappedFamilies := do
  match ← deriveNoTradeReason family r with
  | some noTrade => return (mapped.1, mapped.2 ++ [noTrade])
  | none =>
      match r.finalRecommendationConstructionResult with
      | none => return mapped
      | some construction =>
          match findByFamily FinalRecommendationFamilyResult.family construction.familyResults
            family with
          | none => return mapped
          | some final =>
              match final.verdict with
              | .error _ => .error .internalApplication
              | .ok recommendation => mapActionable family r mapped recommendation

/-- The recommendations of a cycle and its no-trade reasons. -/
def mapRecommendations (cycle : ProductionAdvisoryCycleResult) :
    Except NoTradeMappingError MappedFamilies :=
  if cycle.outcome = .serviceUnavailable then .ok ([], [])
  else StrategyFamily.order.foldlM (mapFamily cycle.runtimeCycleResult) ([], [])

end TradingAdvisor
