import TradingAdvisor.MarketEvaluation.Context
import TradingAdvisor.Technical.TechnicalContour

/-!
# Market evaluation

The evaluator takes the results of the contours, checks that they belong to the evaluation it was
asked for, and folds their participation and quality. An absent contour is missing; a contour of
another scope or of a later time is refused.

* `MarketEvaluator.evaluate` — the evaluation;
* `Accepts`, `marketEvaluation_ok_iff` — which contours it accepts.
-/

namespace TradingAdvisor

open Checks

/-- Participation of one contour. -/
inductive MarketEvaluationContourStatus
  | missing
  | analyzed
  | partialEvidence
  | insufficientEvidence
  deriving DecidableEq, Repr

/-- Participation of the evaluation. -/
inductive MarketEvaluationOutcome
  | evaluated
  | partialEvidence
  | insufficientEvidence
  deriving DecidableEq, Repr

/-- Native scope of one external result. -/
inductive ExternalScope
  | newsSentiment (symbol : Symbol)
  | onChain (asset : Asset) (network : String)
  | macroEvent (currency : CurrencyCode)
  | ratesYield (currency : CurrencyCode)
  deriving DecidableEq

/-- The context field an external scope was matched on. -/
inductive ExternalScopeMatchKind
  | symbol
  | assetNetwork
  | currency
  deriving DecidableEq, Repr

/-- Whether an external scope matched the context. -/
inductive ExternalAlignmentStatus
  | missing
  | matched
  | noMatchingScope
  deriving DecidableEq, Repr

/-- Aggregation of the external intelligence results. -/
structure ExternalIntelligenceSupervisorResult where
  analysisTime : Timestamp
  outcome : SupervisorOutcome
  overallQuality : FeatureQuality
  scopeSummaries : List ExternalScope

/-- Why the contours cannot be evaluated together. -/
inductive MarketEvaluationInputError
  | scopeMismatch (message : String)
  | futureContourTime (message : String)
  deriving DecidableEq

/-- Result of the flow supervisor. -/
abbrev FlowSupervisorResult := SupervisorResult FlowAnalystType FlowIdentity

/-- Result of the technical supervisor. -/
abbrev TechnicalSupervisorResult := SupervisorResult Cell TechnicalIdentity

/-- Deterministic aggregation of one evaluation. -/
structure MarketEvaluationResult where
  evaluationTime : Timestamp
  context : MarketEvaluationContext
  outcome : MarketEvaluationOutcome
  flowStatus : MarketEvaluationContourStatus
  technicalStatus : MarketEvaluationContourStatus
  externalStatus : MarketEvaluationContourStatus
  flowQuality : Option FeatureQuality
  technicalQuality : Option FeatureQuality
  externalQuality : Option FeatureQuality
  overallQuality : FeatureQuality
  flow : Option FlowSupervisorResult
  technical : Option TechnicalSupervisorResult
  external : Option ExternalIntelligenceSupervisorResult
  externalAlignmentStatus : ExternalAlignmentStatus
  externalScopeAlignment : List (ℕ × ExternalScopeMatchKind)

/-- The status of a contour with this outcome. -/
def contourStatus : Option SupervisorOutcome → MarketEvaluationContourStatus
  | none => .missing
  | some .analyzed => .analyzed
  | some .partialEvidence => .partialEvidence
  | some .insufficientEvidence => .insufficientEvidence

/-- The statuses of a contour that takes part. -/
def qualifyingStatuses : List MarketEvaluationContourStatus := [.analyzed, .partialEvidence]

/-- The context field that matches a scope. -/
def matchedBy (context : MarketEvaluationContext) : ExternalScope → Option ExternalScopeMatchKind
  | .newsSentiment symbol => if symbol = context.symbol then some .symbol else none
  | .onChain asset network =>
      if context.baseAsset = some asset ∧ context.network = some network then some .assetNetwork
      else none
  | .macroEvent currency | .ratesYield currency =>
      if currency ∈ context.currencyExposures then some .currency else none

/-- The scopes that match the context, with their indices. -/
def alignExternalScopes (external : Option ExternalIntelligenceSupervisorResult)
    (context : MarketEvaluationContext) : List (ℕ × ExternalScopeMatchKind) :=
  match external with
  | none => []
  | some external => external.scopeSummaries.zipIdx.filterMap fun (scope, index) =>
      (matchedBy context scope).map fun kind => (index, kind)

/-- The flow contour belongs to the evaluation. -/
def checkFlow (context : MarketEvaluationContext) (evaluationTime : Timestamp) :
    Option FlowSupervisorResult → Except MarketEvaluationInputError Unit
  | none => .ok ()
  | some flow => do
      check (flow.identity.symbol = context.symbol ∧
          flow.identity.contractType = context.contractType)
        (.scopeMismatch "flow result (symbol, contract_type) does not match context")
      check (flow.identity.observationTime ≤ evaluationTime)
        (.futureContourTime "flow.observation_time is after evaluation_time")

/-- The technical contour belongs to the evaluation; letter case does not matter. -/
def checkTechnical (m : CaseMapping) (context : MarketEvaluationContext)
    (evaluationTime : Timestamp) (expectedTechnicalSymbol : Symbol) :
    Option TechnicalSupervisorResult → Except MarketEvaluationInputError Unit
  | none => .ok ()
  | some technical => do
      check (m.upper technical.identity.symbol.val = m.upper expectedTechnicalSymbol.val ∧
          technical.identity.contractType = context.contractType)
        (.scopeMismatch ("technical result (symbol, contract_type) does not match " ++
          "expected_technical_symbol/context"))
      check (technical.identity.observationTime ≤ evaluationTime)
        (.futureContourTime "technical.observation_time is after evaluation_time")

/-- The external contour is not of a later time. -/
def checkExternal (evaluationTime : Timestamp) :
    Option ExternalIntelligenceSupervisorResult → Except MarketEvaluationInputError Unit
  | none => .ok ()
  | some external =>
      check (external.analysisTime ≤ evaluationTime)
        (.futureContourTime "external.analysis_time is after evaluation_time")

/-- Deterministic aggregation over the three contours. -/
def MarketEvaluator.evaluate (m : CaseMapping) (flow : Option FlowSupervisorResult)
    (technical : Option TechnicalSupervisorResult)
    (external : Option ExternalIntelligenceSupervisorResult) (context : MarketEvaluationContext)
    (evaluationTime : Timestamp) (expectedTechnicalSymbol : Symbol) :
    Except MarketEvaluationInputError MarketEvaluationResult := do
  checkFlow context evaluationTime flow
  checkTechnical m context evaluationTime expectedTechnicalSymbol technical
  checkExternal evaluationTime external
  let flowStatus := contourStatus (flow.map SupervisorResult.outcome)
  let technicalStatus := contourStatus (technical.map SupervisorResult.outcome)
  let externalStatus := contourStatus (external.map fun result => result.outcome)
  let flowQuality := flow.map SupervisorResult.overallQuality
  let technicalQuality := technical.map SupervisorResult.overallQuality
  let externalQuality := external.map fun result => result.overallQuality
  let statuses := [flowStatus, technicalStatus, externalStatus]
  let qualifyingQualities := [(flowStatus, flowQuality), (technicalStatus, technicalQuality),
    (externalStatus, externalQuality)].filterMap fun (status, quality) =>
      if status ∈ qualifyingStatuses then quality else none
  let refs := alignExternalScopes external context
  return {
    evaluationTime, context
    outcome :=
      if ∀ status ∈ statuses, status = .analyzed then .evaluated
      else if ∃ status ∈ statuses, status ∈ qualifyingStatuses then .partialEvidence
      else .insufficientEvidence
    flowStatus, technicalStatus, externalStatus, flowQuality, technicalQuality, externalQuality
    overallQuality :=
      if qualifyingQualities = [] then .unavailable else worseOfMany qualifyingQualities
    flow, technical, external
    externalAlignmentStatus :=
      if external.isNone then .missing else if refs = [] then .noMatchingScope else .matched
    externalScopeAlignment := refs }

/-- The contours belong to the evaluation of this context at this time. -/
structure Accepts (m : CaseMapping) (context : MarketEvaluationContext) (evaluationTime : Timestamp)
    (expectedTechnicalSymbol : Symbol) (flow : Option FlowSupervisorResult)
    (technical : Option TechnicalSupervisorResult)
    (external : Option ExternalIntelligenceSupervisorResult) : Prop where
  flowScope : ∀ r ∈ flow, r.identity.symbol = context.symbol ∧
    r.identity.contractType = context.contractType
  flowTime : ∀ r ∈ flow, r.identity.observationTime ≤ evaluationTime
  technicalScope : ∀ r ∈ technical,
    m.upper r.identity.symbol.val = m.upper expectedTechnicalSymbol.val ∧
      r.identity.contractType = context.contractType
  technicalTime : ∀ r ∈ technical, r.identity.observationTime ≤ evaluationTime
  externalTime : ∀ r ∈ external, r.analysisTime ≤ evaluationTime

variable {m : CaseMapping} {flow : Option FlowSupervisorResult}
  {technical : Option TechnicalSupervisorResult}
  {external : Option ExternalIntelligenceSupervisorResult} {context : MarketEvaluationContext}
  {evaluationTime : Timestamp} {expectedTechnicalSymbol : Symbol}

theorem checkFlow_ok_iff : checkFlow context evaluationTime flow = .ok () ↔
    (∀ r ∈ flow, r.identity.symbol = context.symbol ∧
      r.identity.contractType = context.contractType) ∧
    ∀ r ∈ flow, r.identity.observationTime ≤ evaluationTime := by
  cases flow <;> simp [checkFlow]

theorem checkTechnical_ok_iff :
    checkTechnical m context evaluationTime expectedTechnicalSymbol technical = .ok () ↔
      (∀ r ∈ technical, m.upper r.identity.symbol.val = m.upper expectedTechnicalSymbol.val ∧
        r.identity.contractType = context.contractType) ∧
      ∀ r ∈ technical, r.identity.observationTime ≤ evaluationTime := by
  cases technical <;> simp [checkTechnical]

theorem checkExternal_ok_iff : checkExternal evaluationTime external = .ok () ↔
    ∀ r ∈ external, r.analysisTime ≤ evaluationTime := by
  cases external <;> simp [checkExternal]

theorem evaluate_flow_mismatch {r : FlowSupervisorResult}
    (h : r.identity.symbol ≠ context.symbol) :
    MarketEvaluator.evaluate m (some r) technical external context evaluationTime
      expectedTechnicalSymbol =
        .error (.scopeMismatch "flow result (symbol, contract_type) does not match context") := by
  have hflow : checkFlow context evaluationTime (some r) = .error
      (.scopeMismatch "flow result (symbol, contract_type) does not match context") :=
    check_bind_of_not fun hscope => h hscope.1
  rw [MarketEvaluator.evaluate, hflow]
  rfl

/-- **The evaluator refuses exactly the contours of another scope or of a later time.** -/
theorem marketEvaluation_ok_iff :
    (MarketEvaluator.evaluate m flow technical external context evaluationTime
      expectedTechnicalSymbol).isOk = true ↔
      Accepts m context evaluationTime expectedTechnicalSymbol flow technical external := by
  rw [isOk_iff]
  constructor
  · rintro ⟨result, h⟩
    obtain ⟨hflow, h⟩ := unit_bind_ok_iff.mp h
    obtain ⟨htechnical, h⟩ := unit_bind_ok_iff.mp h
    obtain ⟨hexternal, -⟩ := unit_bind_ok_iff.mp h
    obtain ⟨hflowScope, hflowTime⟩ := checkFlow_ok_iff.mp hflow
    obtain ⟨htechnicalScope, htechnicalTime⟩ := checkTechnical_ok_iff.mp htechnical
    exact ⟨hflowScope, hflowTime, htechnicalScope, htechnicalTime,
      checkExternal_ok_iff.mp hexternal⟩
  · intro h
    have hflow := checkFlow_ok_iff.mpr ⟨h.flowScope, h.flowTime⟩
    have htechnical := checkTechnical_ok_iff.mpr ⟨h.technicalScope, h.technicalTime⟩
    have hexternal := checkExternal_ok_iff.mpr h.externalTime
    exact ⟨_, unit_bind_ok_iff.mpr ⟨hflow, unit_bind_ok_iff.mpr
      ⟨htechnical, unit_bind_ok_iff.mpr ⟨hexternal, rfl⟩⟩⟩⟩

end TradingAdvisor
