import TradingAdvisor.Mt5.TradingDay
import TradingAdvisor.Orchestration.FinalRecommendation
import TradingAdvisor.Orchestration.RuntimeCycle

/-!
# The result of a runtime cycle

What a cycle reports beside the documents it writes. Each part is computed only from reads that
were confirmed, so a cycle may end anywhere between its connection and its last write.

* `AdvisoryCycleInput` — what one cycle is given, and what its reads and writes return;
* `assembly`, `pipeline`, `finalConstruction`, `issuance` — the parts of the cycle;
* `runtimeCycleResult` — the result;
* `CycleTrace`, `runtimeCycleResult_cases` — the parts behind a result.
-/

namespace TradingAdvisor

open SignificantDigits Checks VersionedStore

/-! ## Vocabulary -/

/-- How a cycle went as a whole. -/
inductive RuntimeCycleOutcome
  | ready
  | partialDegraded
  | blocked
  deriving DecidableEq, Repr

/-- Outcome of the creation of a tracked recommendation. -/
inductive MT5TrackedRecommendationCreationOutcome
  | created
  | snapshotUnavailable
  deriving DecidableEq, Repr

/-- How the persistence of one issued recommendation went. -/
structure TrackingIssuancePersistenceOutcome where
  tradeId : TradeId
  trackingCreationOutcome : MT5TrackedRecommendationCreationOutcome
  trackingPersisted : Bool
  provenancePersisted : Bool
  deriving DecidableEq

/-- One evaluation of the guard. -/
structure NettingGuardResult where
  symbol : Symbol
  accountPositionMode : AccountPositionMode
  outcome : NettingIssuanceOutcome
  deriving DecidableEq

/-- The account facts of a cycle. -/
structure AccountFacts extends MT5AccountFacts where
  marginMode : AccountPositionMode
  currency : NonemptyText

/-- Which writes of a cycle succeed. -/
structure CycleWrites where
  advanced : TradeId → Bool := fun _ => true
  rollover : Bool := true
  tracking : StrategyFamily → Bool := fun _ => true
  provenance : StrategyFamily → Bool := fun _ => true

/-- What one cycle is given, and what its reads and writes return. -/
structure AdvisoryCycleInput where
  asOf : Timestamp
  connectivityAvailable : Bool
  accountFacts : Option AccountFacts
  readStatus : TradeId → DocumentReadStatus
  rolloverPolicy : MT5RolloverPolicyConfig
  rolloverDocument : Option MT5RolloverDocument
  rolloverFault : Option ReadFault := none
  tradingDayKey : String
  tradingDayStart : Timestamp
  tradingDayEnd : Timestamp
  historyDeals : Timestamp → Timestamp → MT5HistoryReadStatus × List MT5Deal
  positionsReadStatus : MT5PositionsReadStatus
  positions : List MT5Position
  symbolFacts : Symbol → Option MT5SymbolSnapshot
  mt5Symbol : Symbol
  decision : StrategyDecision
  m15MarketStructure : Option MarketStructureFeatures := none
  tradingCycleConfig : TradingCycleConfig
  lockedOverride : Bool := false
  highImpactEventContext : Option HighImpactEventContext := none
  highImpactEventSymbolScopeConfig : Option HighImpactEventSymbolScopeConfig := none
  tradeIds : StrategyFamily → TradeId
  writes : CycleWrites := {}

/-- What a cycle raises. -/
inductive RuntimeCycleError
  | model (error : ModelError)
  | risk (error : RiskGateError)
  | final (error : FinalRecommendationError)
  deriving DecidableEq

/-- What a cycle reports. -/
structure RuntimeCycleResult where
  outcome : RuntimeCycleOutcome
  decisionRiskPipelineResult : Option DecisionRiskPipelineResult := none
  finalRecommendationConstructionResult : Option FinalRecommendationConstructionResult := none
  nettingGuardResult : Option NettingGuardResult := none
  newTrackingPersistenceOutcomes : List TrackingIssuancePersistenceOutcome := []

/-- The guard's evaluation and the persistence of what it let through. -/
structure Issuance where
  nettingGuardResult : Option NettingGuardResult := none
  newTrackingPersistenceOutcomes : List TrackingIssuancePersistenceOutcome := []

namespace AdvisoryCycleInput

variable (R : Rounding) (c : AdvisoryCycleInput)

/-! ## The parts of the cycle -/

/-- What the tracking part of the cycle is given, with what the pipeline makes actionable. -/
def toRuntimeCycleInput (pipeline : Option (List ActionableFamily)) : RuntimeCycleInput where
  asOf := c.asOf
  connectivityAvailable := c.connectivityAvailable
  marginMode := c.accountFacts.map AccountFacts.marginMode
  readStatus := c.readStatus
  tradingDayStart := c.tradingDayStart
  historyDeals := c.historyDeals
  positionsReadStatus := c.positionsReadStatus
  positions := c.positions
  mt5Symbol := c.mt5Symbol
  symbolFactsAvailable := (c.symbolFacts c.mt5Symbol).isSome
  tradeIds := c.tradeIds
  pipeline

/-- The read of the history. -/
def history (s : TrackingStore) : HistoryRead := (c.toRuntimeCycleInput none).history s

/-- What the cycle brings to the rollover. -/
def rolloverCycle : RolloverCycle where
  asOf := c.asOf
  tradingDayKey := c.tradingDayKey
  policy := c.rolloverPolicy
  accountFacts := c.accountFacts.map AccountFacts.toMT5AccountFacts
  fault := c.rolloverFault

/-- The realized PnL of the current trading day. -/
def realizedDailyPnl (deals : List MT5Deal) : MT5RealizedDailyPnLAssessment :=
  let assessed := computeRealizedDailyPnl R deals c.tradingDayStart c.tradingDayEnd
  { asOf := c.asOf
    tradingDayKey := c.tradingDayKey
    outcome := assessed.outcome
    realizedDailyPnl := assessed.realizedDailyPnl
    pnl_iff := by
      dsimp only [assessed, computeRealizedDailyPnl]
      split_ifs
      · exact iff_of_false Bool.false_ne_true (by decide)
      · exact iff_of_true rfl rfl }

/-- The economics of the symbols that the cycle asks for: its own, and those of the positions. -/
def symbolFactsBySymbol : Dict Symbol MT5SymbolFacts :=
  let positionSymbols :=
    if c.positionsReadStatus = .ok then c.positions.map MT5Position.symbol else []
  ofPairs ((c.mt5Symbol :: positionSymbols).dedup.filterMap fun symbol =>
    (c.symbolFacts symbol).map fun facts => (symbol, facts.toMT5SymbolFacts))

/-- The open risk of the positions, once they are confirmed. -/
def openRisk : Except ModelError (Option MT5OpenRiskAssessment) :=
  if c.positionsReadStatus = .ok then
    some <$> assessOpenRisk R c.asOf c.positions c.symbolFactsBySymbol
  else .ok none

/-- The assembly of the account facts; nothing is assembled unless all three were computed. -/
def assembly (h : HistoryRead) : Except ModelError (Option AccountRiskSnapshotAssembly) := do
  let rollover ← runRollover c.rolloverDocument c.rolloverCycle
  let openRisk ← c.openRisk R
  let realized := if h.status = .ok then some (c.realizedDailyPnl R h.deals) else none
  match rollover.1, realized, openRisk with
  | some rollover, some realized, some openRisk =>
      some <$> assembleAccountRiskSnapshot c.asOf rollover realized openRisk
  | _, _, _ => return none

/-- What the stages after the setups are given. -/
def reviewInput (assembly : AccountRiskSnapshotAssembly) : ReviewInput where
  evaluationTime := c.asOf
  accountRiskSnapshotAssembly := assembly
  tradingCycleConfig := c.tradingCycleConfig
  lockedOverride := c.lockedOverride
  highImpactEventContext := c.highImpactEventContext
  highImpactEventSymbolScopeConfig := c.highImpactEventSymbolScopeConfig

/-- The decision and risk pipeline, once there is an assembly. -/
def pipeline (assembly : Option AccountRiskSnapshotAssembly) :
    Except RiskGateError (Option DecisionRiskPipelineResult) :=
  match assembly with
  | none => .ok none
  | some assembly =>
      some <$> evaluateDecisionRiskPipeline R c.decision (c.symbolFacts c.mt5Symbol)
        c.m15MarketStructure c.mt5Symbol (c.reviewInput assembly)

/-- The final recommendations, once the pipeline has run with the account and the symbol known. -/
def finalConstruction (drp : Option DecisionRiskPipelineResult) :
    Except FinalRecommendationError (Option FinalRecommendationConstructionResult) :=
  match drp, c.accountFacts, c.symbolFacts c.mt5Symbol with
  | some p, some facts, some symbolFacts =>
      some <$> constructFinalRecommendations R p symbolFacts facts.currency
        (fun family => some (c.tradeIds family)) c.asOf
  | _, _, _ => .ok none

/-- The record of a recommendation. -/
def recommendationRecord (recommendation : FinalRecommendation) : PositionRecord where
  tradeId := recommendation.tradeId
  symbol := recommendation.symbol
  direction := recommendation.direction
  signalTime := recommendation.signalTime
  validUntil := recommendation.validUntil
  plannedEntry := recommendation.entryPrice
  stopLoss := recommendation.stopLoss
  takeProfitLevels := recommendation.takeProfitLevels

/-- Create the tracking of one recommendation and write it; both writes are attempted. -/
def issueRecommendation (recommendation : FinalRecommendation) :
    Except ModelError TrackingIssuancePersistenceOutcome := do
  let created ← createTrackedRecommendation (recommendationRecord recommendation)
    recommendation.approvedVolume c.positionsReadStatus c.positions
  match created with
  | some _ =>
      return {
        tradeId := recommendation.tradeId
        trackingCreationOutcome := .created
        trackingPersisted := c.writes.tracking recommendation.family
        provenancePersisted := c.writes.provenance recommendation.family }
  | none =>
      return {
        tradeId := recommendation.tradeId
        trackingCreationOutcome := .snapshotUnavailable
        trackingPersisted := false
        provenancePersisted := false }

/-- The guard of an account that is not hedging. -/
def nettingGuard (marginMode : AccountPositionMode)
    (advanced : List (TradeId × MT5TrackedRecommendation)) (actionableCount : ℕ) :
    Option NettingGuardResult :=
  if marginMode = .hedging then none
  else
    some {
      symbol := c.mt5Symbol
      accountPositionMode := marginMode
      outcome := evaluateNettingGuard c.mt5Symbol c.positionsReadStatus c.positions advanced
        actionableCount }

/-- What is actionable may be issued. -/
def IssuanceAllowed (guard : Option NettingGuardResult) (actionableCount : ℕ) : Prop :=
  match guard with
  | none => 0 < actionableCount
  | some result => result.outcome = .allowed

instance (guard : Option NettingGuardResult) (actionableCount : ℕ) :
    Decidable (IssuanceAllowed guard actionableCount) := by
  unfold IssuanceAllowed
  cases guard <;> exact inferInstance

/-- Issue the recommendations, when the guard allows it. -/
def issuance (advanced : List (TradeId × MT5TrackedRecommendation))
    (construction : Option FinalRecommendationConstructionResult) : Except ModelError Issuance :=
  match construction, c.accountFacts with
  | none, _ => .ok {}
  | some _, none => .error .assertion
  | some f, some facts =>
      let actionableCount := f.recommendations.length
      let guard := c.nettingGuard facts.marginMode advanced actionableCount
      if IssuanceAllowed guard actionableCount then do
        let outcomes ← f.recommendations.mapM c.issueRecommendation
        return { nettingGuardResult := guard, newTrackingPersistenceOutcomes := outcomes }
      else .ok { nettingGuardResult := guard }

/-- A write of the rollover document was attempted and failed. -/
def RolloverWriteFailed : Prop :=
  (advanceRollover c.rolloverDocument c.rolloverCycle).2 ≠ c.rolloverDocument ∧ ¬ c.writes.rollover

instance : Decidable c.RolloverWriteFailed := inferInstanceAs (Decidable (_ ∧ _))

/-- Something of the cycle could not be read, computed, written or issued. -/
def Degraded (s : TrackingStore) (advanced : List (TradeId × MT5TrackedRecommendation))
    (assembly : Option AccountRiskSnapshotAssembly) (issuance : Issuance) : Prop :=
  assembly = none ∨
    (∃ doc ∈ sortedPairs (· ≤ ·) s, c.readStatus doc.1 ≠ .valid) ∨
    (∃ doc ∈ advanced, ¬ c.writes.advanced doc.1) ∨
    (∃ entry ∈ issuance.newTrackingPersistenceOutcomes,
      entry.trackingCreationOutcome = .created ∧
        (¬ entry.trackingPersisted ∨ ¬ entry.provenancePersisted)) ∨
    c.RolloverWriteFailed ∨
    c.positionsReadStatus ≠ .ok ∨
    (c.history s).status ≠ .ok ∨
    (∃ guard ∈ issuance.nettingGuardResult,
      guard.outcome ≠ .allowed ∧ guard.outcome ≠ .noActionableRecommendations) ∨
    c.symbolFacts c.mt5Symbol = none

instance (s : TrackingStore) (advanced : List (TradeId × MT5TrackedRecommendation))
    (assembly : Option AccountRiskSnapshotAssembly) (issuance : Issuance) :
    Decidable (c.Degraded s advanced assembly issuance) :=
  inferInstanceAs (Decidable (_ ∨ (∃ doc ∈ _, _) ∨ (∃ doc ∈ advanced, _) ∨ (∃ entry ∈ _, _) ∨ _ ∨ _ ∨
    _ ∨ (∃ guard ∈ _, _) ∨ _))

end AdvisoryCycleInput

variable (R : Rounding)

/-- One cycle, with what it reports. -/
def runtimeCycleResult (s : TrackingStore) (c : AdvisoryCycleInput) :
    Except RuntimeCycleError RuntimeCycleResult :=
  if c.connectivityAvailable then do
    let advanced ← ((c.toRuntimeCycleInput none).advanced R s).mapError RuntimeCycleError.model
    let assembly ← (c.assembly R (c.history s)).mapError RuntimeCycleError.model
    let drp ← (c.pipeline R assembly).mapError RuntimeCycleError.risk
    let construction ← (c.finalConstruction R drp).mapError RuntimeCycleError.final
    let issuance ← (c.issuance advanced construction).mapError RuntimeCycleError.model
    return {
      outcome := if c.Degraded s advanced assembly issuance then .partialDegraded else .ready
      decisionRiskPipelineResult := drp
      finalRecommendationConstructionResult := construction
      nettingGuardResult := issuance.nettingGuardResult
      newTrackingPersistenceOutcomes := issuance.newTrackingPersistenceOutcomes }
  else .ok { outcome := .blocked }

/-! ## The parts behind a result -/

/-- The parts behind the result of a cycle that had a connection. -/
structure CycleTrace (s : TrackingStore) (c : AdvisoryCycleInput) (result : RuntimeCycleResult) where
  advanced : List (TradeId × MT5TrackedRecommendation)
  assembly : Option AccountRiskSnapshotAssembly
  issuance : Issuance
  assembly_eq : c.assembly R (c.history s) = .ok assembly
  pipeline_eq : c.pipeline R assembly = .ok result.decisionRiskPipelineResult
  construction_eq : c.finalConstruction R result.decisionRiskPipelineResult =
    .ok result.finalRecommendationConstructionResult
  issuance_eq : c.issuance advanced result.finalRecommendationConstructionResult = .ok issuance
  guard_eq : result.nettingGuardResult = issuance.nettingGuardResult
  outcomes_eq : result.newTrackingPersistenceOutcomes = issuance.newTrackingPersistenceOutcomes

variable {R} {s : TrackingStore} {c : AdvisoryCycleInput} {result : RuntimeCycleResult}

/-- A cycle without a connection reports nothing else; every other cycle reports its parts. -/
theorem runtimeCycleResult_cases (h : runtimeCycleResult R s c = .ok result) :
    result = { outcome := .blocked } ∨
      result.outcome ≠ .blocked ∧ Nonempty (CycleTrace R s c result) := by
  unfold runtimeCycleResult at h
  split_ifs at h with hconnected
  · obtain ⟨advanced, -, h⟩ := bind_ok_iff.mp h
    obtain ⟨assembly, hassembly, h⟩ := bind_ok_iff.mp h
    obtain ⟨drp, hdrp, h⟩ := bind_ok_iff.mp h
    obtain ⟨construction, hconstruction, h⟩ := bind_ok_iff.mp h
    obtain ⟨issuance, hissuance, h⟩ := bind_ok_iff.mp h
    cases h
    refine .inr ⟨?_, ⟨{
      advanced, assembly, issuance
      assembly_eq := mapError_ok_iff.mp hassembly
      pipeline_eq := mapError_ok_iff.mp hdrp
      construction_eq := mapError_ok_iff.mp hconstruction
      issuance_eq := mapError_ok_iff.mp hissuance
      guard_eq := rfl
      outcomes_eq := rfl }⟩⟩
    dsimp only
    split_ifs
    · decide
    · decide
  · exact .inl (Except.ok.inj h).symm

namespace AdvisoryCycleInput

/-- Account facts are behind every assembly. -/
theorem accountFacts_of_assembly {h : HistoryRead} {a : AccountRiskSnapshotAssembly}
    (hok : c.assembly R h = .ok (some a)) : ∃ facts, c.accountFacts = some facts := by
  rcases hfacts : c.accountFacts with - | facts
  · have hnone : runRollover c.rolloverDocument c.rolloverCycle = .ok (none, c.rolloverDocument) := by
      simp [runRollover, rolloverCycle, hfacts]
    obtain ⟨rollover, hrollover, hok⟩ := bind_ok_iff.mp hok
    cases hnone.symm.trans hrollover
    obtain ⟨openRisk, -, hok⟩ := bind_ok_iff.mp hok
    cases hok
  · exact ⟨facts, rfl⟩

end AdvisoryCycleInput

namespace CycleTrace

/-- The setups and the review behind a run of the pipeline. -/
theorem review (trace : CycleTrace R s c result) {p : DecisionRiskPipelineResult}
    (hp : result.decisionRiskPipelineResult = some p) :
    ∃ a setups, trace.assembly = some a ∧
      constructSetups R c.decision c.asOf (c.symbolFacts c.mt5Symbol) c.m15MarketStructure
        c.mt5Symbol = .ok setups ∧
      riskReview R (c.reviewInput a) setups = .ok p := by
  have hpipeline := trace.pipeline_eq
  rw [hp] at hpipeline
  unfold AdvisoryCycleInput.pipeline at hpipeline
  split at hpipeline
  · cases hpipeline
  · next a ha =>
      obtain ⟨p', hrun, heq⟩ := map_ok_iff.mp hpipeline
      cases heq
      obtain ⟨setups, hsetups, hreview⟩ := bind_ok_iff.mp hrun
      exact ⟨a, setups, ha, raiseModel_ok.mp hsetups, hreview⟩

/-- Final recommendations are constructed from a run of the pipeline. -/
theorem construction (trace : CycleTrace R s c result) {f : FinalRecommendationConstructionResult}
    (hf : result.finalRecommendationConstructionResult = some f) :
    ∃ p symbolFacts facts, result.decisionRiskPipelineResult = some p ∧
      c.accountFacts = some facts ∧
      constructFinalRecommendations R p symbolFacts facts.currency
        (fun family => some (c.tradeIds family)) c.asOf = .ok f := by
  have hconstruction := trace.construction_eq
  rw [hf] at hconstruction
  unfold AdvisoryCycleInput.finalConstruction at hconstruction
  split at hconstruction
  · next p facts symbolFacts hp hfacts _ =>
      obtain ⟨f', hok, heq⟩ := map_ok_iff.mp hconstruction
      cases heq
      exact ⟨p, symbolFacts, facts, hp, hfacts, hok⟩
  · cases hconstruction

/-- Only an unknown symbol keeps a run of the pipeline from its final recommendations. -/
theorem symbolFacts_eq_none (trace : CycleTrace R s c result) {p : DecisionRiskPipelineResult}
    (hp : result.decisionRiskPipelineResult = some p)
    (hf : result.finalRecommendationConstructionResult = none) :
    c.symbolFacts c.mt5Symbol = none := by
  obtain ⟨a, -, ha, -⟩ := trace.review hp
  have hassembly := trace.assembly_eq
  rw [ha] at hassembly
  obtain ⟨facts, hfacts⟩ := AdvisoryCycleInput.accountFacts_of_assembly hassembly
  have hconstruction := trace.construction_eq
  rw [hp, hf] at hconstruction
  unfold AdvisoryCycleInput.finalConstruction at hconstruction
  rw [hfacts] at hconstruction
  rcases hsymbol : c.symbolFacts c.mt5Symbol with - | symbolFacts
  · rfl
  · rw [hsymbol] at hconstruction
    obtain ⟨f, -, heq⟩ := map_ok_iff.mp hconstruction
    cases heq

theorem issueRecommendation_tradeId {recommendation : FinalRecommendation}
    {outcome : TrackingIssuancePersistenceOutcome}
    (h : c.issueRecommendation recommendation = .ok outcome) :
    outcome.tradeId = recommendation.tradeId := by
  obtain ⟨created, -, h⟩ := bind_ok_iff.mp h
  cases created with
  | none =>
      cases h
      rfl
  | some tracked =>
      cases h
      rfl

/-- Every recommendation has its persistence outcome, unless the guard has blocked it. -/
theorem outcome_of_recommendation (trace : CycleTrace R s c result)
    {f : FinalRecommendationConstructionResult}
    (hf : result.finalRecommendationConstructionResult = some f)
    {recommendation : FinalRecommendation} (h : recommendation ∈ f.recommendations) :
    (∃ guard, result.nettingGuardResult = some guard ∧ guard.outcome ≠ .allowed) ∨
      ∃ outcome ∈ result.newTrackingPersistenceOutcomes,
        outcome.tradeId = recommendation.tradeId := by
  obtain ⟨-, -, facts, -, hfacts, -⟩ := trace.construction hf
  have hissuance := trace.issuance_eq
  rw [hf] at hissuance
  unfold AdvisoryCycleInput.issuance at hissuance
  rw [hfacts] at hissuance
  dsimp only at hissuance
  split_ifs at hissuance with hallowed
  · obtain ⟨outcomes, houtcomes, heq⟩ := bind_ok_iff.mp hissuance
    have hissued : trace.issuance.newTrackingPersistenceOutcomes = outcomes := by
      rw [← Except.ok.inj heq]
    obtain ⟨outcome, hmem, hok⟩ := exists_of_mem_left (mapM_ok_forall₂ houtcomes) h
    rw [trace.outcomes_eq, hissued]
    exact .inr ⟨outcome, hmem, issueRecommendation_tradeId hok⟩
  · have hguard : trace.issuance.nettingGuardResult =
        c.nettingGuard facts.marginMode trace.advanced f.recommendations.length := by
      rw [← Except.ok.inj hissuance]
    rw [trace.guard_eq, hguard]
    unfold AdvisoryCycleInput.nettingGuard at hallowed ⊢
    split_ifs at hallowed ⊢ with hhedging
    · exact absurd (List.length_pos_of_mem h) hallowed
    · exact .inl ⟨_, rfl, hallowed⟩

end CycleTrace

end TradingAdvisor
