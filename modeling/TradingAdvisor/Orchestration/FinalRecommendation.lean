import TradingAdvisor.Orchestration.DecisionRiskPipeline

/-!
# Final recommendations

Converts every family that the session gate let through into a recommendation sized for the
broker. The setup of a family is looked up by its name; every check blocks with one reason.

* `FinalRecommendationFamilyResult` — a recommendation, or the reason against it, with the sizing
  that was attempted;
* `constructFinalRecommendations` — the construction;
* `Recommended`, `evaluateFamily_ok` — what stands behind a recommendation.
-/

namespace TradingAdvisor

open SignificantDigits Checks Keyed

/-- Verdict across every family. -/
inductive FinalRecommendationOutcome
  | someActionable
  | noActionableFamily
  | pipelineBlockedBeforeRisk
  deriving DecidableEq, Repr

/-- Why a family is not actionable. -/
inductive FinalRecommendationBlockReason
  | sessionNotEligible
  | symbolFactsMismatch
  | setupExpired
  | sizingNotActionable
  deriving DecidableEq, Repr

/-- One recommendation, sized for the broker. -/
structure FinalRecommendation where
  tradeId : TradeId
  family : StrategyFamily
  symbol : Symbol
  direction : TradeDirection
  entryPrice : Price
  stopLoss : Price
  takeProfitLevels : List Price := []
  approvedVolume : PositiveRat
  approvedRiskAmount : PositiveRat
  accountCurrency : NonemptyText
  signalTime : Timestamp
  validUntil : Timestamp

/-- The final verdict of one family; it carries a sizing exactly when one was attempted, and the
sizing is actionable exactly when the verdict is. -/
structure FinalRecommendationFamilyResult where
  family : StrategyFamily
  verdict : Except FinalRecommendationBlockReason FinalRecommendation
  sizingResult : Option MT5BrokerSizingResult := none
  family_eq : ∀ recommendation, verdict = .ok recommendation → recommendation.family = family
  sizing_iff : sizingResult.isSome ↔ verdict.isOk ∨ verdict = .error .sizingNotActionable
  actionable_iff : ∀ sizing ∈ sizingResult, sizing.outcome = .actionable ↔ verdict.isOk

namespace FinalRecommendationFamilyResult

/-- The recommendation of an actionable family. -/
def recommendation (r : FinalRecommendationFamilyResult) : Option FinalRecommendation :=
  r.verdict.toOption

theorem recommendation_eq_some_iff {r : FinalRecommendationFamilyResult}
    {recommendation : FinalRecommendation} :
    r.recommendation = some recommendation ↔ r.verdict = .ok recommendation := by
  unfold FinalRecommendationFamilyResult.recommendation
  cases r.verdict <;> simp [Except.toOption]

/-- A family that is blocked before a sizing. -/
def blocked (family : StrategyFamily) (reason : FinalRecommendationBlockReason)
    (h : reason ≠ .sizingNotActionable) : FinalRecommendationFamilyResult where
  family
  verdict := .error reason
  sizingResult := none
  family_eq := by
    intro _ h
    cases h
  sizing_iff := iff_of_false Bool.false_ne_true (by simpa [Except.isOk, Except.toBool] using h)
  actionable_iff := by
    intro _ h
    cases h

/-- A family whose sizing is not actionable. -/
def unsized (family : StrategyFamily) (sizing : MT5BrokerSizingResult)
    (h : sizing.outcome ≠ .actionable) : FinalRecommendationFamilyResult where
  family
  verdict := .error .sizingNotActionable
  sizingResult := some sizing
  family_eq := by
    intro _ h
    cases h
  sizing_iff := iff_of_true rfl (.inr rfl)
  actionable_iff := by
    rintro _ ⟨⟩
    exact iff_of_false h Bool.false_ne_true

/-- A family with its recommendation. -/
def actionable (recommendation : FinalRecommendation) (sizing : MT5BrokerSizingResult)
    (h : sizing.outcome = .actionable) : FinalRecommendationFamilyResult where
  family := recommendation.family
  verdict := .ok recommendation
  sizingResult := some sizing
  family_eq := by
    rintro _ ⟨⟩
    rfl
  sizing_iff := iff_of_true rfl (.inl rfl)
  actionable_iff := by
    rintro _ ⟨⟩
    exact iff_of_true h rfl

end FinalRecommendationFamilyResult

/-- What the construction can raise. -/
inductive FinalRecommendationError
  | missingTradeIdForActionableFamily (family : StrategyFamily)
  | model (error : ModelError)
  deriving DecidableEq

/-- A failure of a result model, as a failure of the construction. -/
def raiseFinal {α : Type} (x : Except ModelError α) : Except FinalRecommendationError α :=
  x.mapError FinalRecommendationError.model

theorem raiseFinal_ok {α : Type} {x : Except ModelError α} {a : α} :
    raiseFinal x = .ok a ↔ x = .ok a := by
  cases x <;> simp [raiseFinal, Except.mapError]

/-- The final verdicts of a run, in the order of its session verdicts. -/
structure FinalRecommendationConstructionResult where
  decisionRiskPipelineResult : DecisionRiskPipelineResult
  outcome : FinalRecommendationOutcome
  familyResults : List FinalRecommendationFamilyResult
  covers : familyResults.map FinalRecommendationFamilyResult.family =
    decisionRiskPipelineResult.strategySessionResult.elim []
      fun session => session.familyResults.map SessionFamilyResult.family
  outcome_eq : outcome =
    if decisionRiskPipelineResult.outcome = .blockedBeforeRisk then .pipelineBlockedBeforeRisk
    else if ∃ r ∈ familyResults, r.recommendation.isSome then .someActionable
    else .noActionableFamily

/-- The recommendations of a run. -/
def FinalRecommendationConstructionResult.recommendations
    (f : FinalRecommendationConstructionResult) : List FinalRecommendation :=
  f.familyResults.filterMap FinalRecommendationFamilyResult.recommendation

/-- The approved risk amounts of a run. -/
def FinalRecommendationConstructionResult.approvedRisks
    (f : FinalRecommendationConstructionResult) : List ℚ :=
  f.recommendations.map fun r => (r.approvedRiskAmount : ℚ)

namespace FinalConstruction

variable (R : Rounding)

/-- The allocation of a family, as the risk of a sizing request. -/
def allocatedRisk (s : SessionFamilyResult) : Except ModelError PositiveRat :=
  match s.sessionAllocatedRisk with
  | none => .error (.validation "session_allocated_risk must be a decimal")
  | some q => positiveField "session_allocated_risk" q

/-- The recommendation of a sized setup. -/
def recommend (family : StrategyFamily) (setup : PricedTradeSetup) (sizing : MT5BrokerSizingResult)
    (tradeIds : StrategyFamily → Option TradeId) (accountCurrency : NonemptyText) :
    Except FinalRecommendationError FinalRecommendationFamilyResult :=
  if hsizing : sizing.outcome = .actionable then
    match tradeIds family with
    | none => .error (.missingTradeIdForActionableFamily family)
    | some tradeId =>
        match sizing.brokerVolume, sizing.actualMonetaryRisk with
        | some approvedVolume, some approvedRiskAmount =>
            .ok (.actionable
              { tradeId, family, accountCurrency, approvedVolume, approvedRiskAmount
                symbol := setup.symbol
                direction := setup.direction
                entryPrice := setup.entryPrice
                stopLoss := setup.stopLoss
                takeProfitLevels := setup.takeProfitLevels
                signalTime := setup.signalTime
                validUntil := setup.validUntil } sizing hsizing)
        | _, _ => .error (.model .assertion)
  else .ok (.unsized family sizing hsizing)

/-- Evaluate one family. -/
def evaluateFamily (setups : StrategySetups) (facts : MT5SymbolSnapshot)
    (accountCurrency : NonemptyText) (tradeIds : StrategyFamily → Option TradeId)
    (asOf : Timestamp) (s : SessionFamilyResult) :
    Except FinalRecommendationError FinalRecommendationFamilyResult :=
  if s.verdict ≠ .eligibleForRuntimeReview then
    .ok (.blocked s.family .sessionNotEligible (by decide))
  else
    match (lastOf FamilySetup.family setups.familyResults s.family).map FamilySetup.verdict with
    | none | some (.error _) => .error (.model .assertion)
    | some (.ok setup) =>
        if setup.symbol ≠ facts.symbol then
          .ok (.blocked s.family .symbolFactsMismatch (by decide))
        else if setup.validUntil < asOf then
          .ok (.blocked s.family .setupExpired (by decide))
        else do
          let sessionAllocatedRisk ← raiseFinal (allocatedRisk s)
          let request : MT5BrokerSizingRequest :=
            { symbol := setup.symbol
              direction := setup.direction
              stopLoss := setup.stopLoss
              entryPrice := some setup.entryPrice
              sessionAllocatedRisk
              actionable := setup.actionable }
          let sizing ← raiseFinal (computeBrokerSizing R asOf request facts)
          recommend s.family setup sizing tradeIds accountCurrency

end FinalConstruction

variable (R : Rounding)

/-- The construction of the final recommendations. -/
def constructFinalRecommendations (p : DecisionRiskPipelineResult) (facts : MT5SymbolSnapshot)
    (accountCurrency : NonemptyText) (tradeIds : StrategyFamily → Option TradeId)
    (asOf : Timestamp) : Except FinalRecommendationError FinalRecommendationConstructionResult :=
  if hblocked : p.outcome = .blockedBeforeRisk then
    .ok {
      decisionRiskPipelineResult := p
      outcome := .pipelineBlockedBeforeRisk
      familyResults := []
      covers := by
        have hnone : p.strategySessionResult = none := by
          by_contra hsome
          have hcompleted := p.session_iff.mp (Option.isSome_iff_ne_none.mpr hsome)
          rw [hblocked] at hcompleted
          cases hcompleted
        rw [hnone]
        rfl
      outcome_eq := (if_pos hblocked).symm }
  else
    match hsession : p.strategySessionResult with
    | none => .error (.model .assertion)
    | some session => do
        let familyResults ← session.familyResults.mapM (FinalConstruction.evaluateFamily R
          p.strategySetupResult facts accountCurrency tradeIds asOf)
        if hcovers : familyResults.map FinalRecommendationFamilyResult.family =
            session.familyResults.map SessionFamilyResult.family then
          return {
            decisionRiskPipelineResult := p
            outcome := if ∃ r ∈ familyResults, r.recommendation.isSome then .someActionable
              else .noActionableFamily
            familyResults
            covers := by rw [hsession]; exact hcovers
            outcome_eq := (if_neg hblocked).symm }
        else
          .error (.model (.validation
            ("family_results must cover exactly " ++
              "strategy_session_result.family_results, in the same order")))

/-! ## What stands behind a recommendation -/

variable {R} {p : DecisionRiskPipelineResult} {setups : StrategySetups} {facts : MT5SymbolSnapshot}
  {accountCurrency : NonemptyText} {tradeIds : StrategyFamily → Option TradeId} {asOf : Timestamp}
  {s : SessionFamilyResult} {setup : PricedTradeSetup} {r : FinalRecommendationFamilyResult}
  {f : FinalRecommendationConstructionResult} {recommendation : FinalRecommendation}

/-- The recommendation is for this session verdict: the family is eligible, its setup gives the
validity, its name is the one supplied, and its risk is within the allocation. -/
structure Recommended (setups : StrategySetups) (tradeIds : StrategyFamily → Option TradeId)
    (s : SessionFamilyResult) (recommendation : FinalRecommendation) : Prop where
  eligible : s.verdict = .eligibleForRuntimeReview
  family : recommendation.family = s.family
  tradeId : tradeIds s.family = some recommendation.tradeId
  setup : ∃ result ∈ setups.familyResults, result.family = s.family ∧
    ∃ setup, result.verdict = .ok setup ∧ recommendation.signalTime = setup.signalTime ∧
      recommendation.validUntil = setup.validUntil
  within : ∃ q, s.sessionAllocatedRisk = some q ∧ (recommendation.approvedRiskAmount : ℚ) ≤ q

namespace FinalConstruction

theorem allocatedRisk_ok {q : PositiveRat} (h : allocatedRisk s = .ok q) :
    s.sessionAllocatedRisk = some (q : ℚ) := by
  unfold allocatedRisk at h
  split at h
  · cases h
  · next allocation hallocation => rw [hallocation, positiveField_ok h]

/-- A sized setup is blocked, or it is recommended with the sizing's risk. -/
theorem recommend_ok {family : StrategyFamily} {sizing : MT5BrokerSizingResult}
    (h : recommend family setup sizing tradeIds accountCurrency = .ok r) :
    r.family = family ∧ ∀ recommendation, r.verdict = .ok recommendation →
      recommendation.family = family ∧ tradeIds family = some recommendation.tradeId ∧
        recommendation.signalTime = setup.signalTime ∧
        recommendation.validUntil = setup.validUntil ∧
        sizing.actualMonetaryRisk = some recommendation.approvedRiskAmount := by
  unfold recommend at h
  split_ifs at h with hsizing
  · split at h
    · cases h
    · next tradeId htradeId =>
        split at h
        · next volume risk hvolume hrisk =>
            cases h
            refine ⟨rfl, ?_⟩
            intro recommendation hverdict
            cases hverdict
            exact ⟨rfl, htradeId, rfl, rfl, hrisk⟩
        · cases h
  · cases h
    refine ⟨rfl, ?_⟩
    intro recommendation hverdict
    cases hverdict

/-- A final verdict keeps its family, and a recommendation is for its session verdict. -/
theorem evaluateFamily_ok
    (h : evaluateFamily R setups facts accountCurrency tradeIds asOf s = .ok r) :
    r.family = s.family ∧
      ∀ recommendation, r.verdict = .ok recommendation →
        Recommended setups tradeIds s recommendation := by
  have hblocked {reason : FinalRecommendationBlockReason} {hreason : reason ≠ .sizingNotActionable} :
      ∀ recommendation, (FinalRecommendationFamilyResult.blocked s.family reason hreason).verdict =
        .ok recommendation → Recommended setups tradeIds s recommendation := by
    intro recommendation hverdict
    cases hverdict
  unfold evaluateFamily at h
  split_ifs at h with heligible
  · cases h
    exact ⟨rfl, hblocked⟩
  · split at h
    · cases h
    · cases h
    · next setup hsetup =>
        split_ifs at h with hsymbol hexpired
        · cases h
          exact ⟨rfl, hblocked⟩
        · cases h
          exact ⟨rfl, hblocked⟩
        · obtain ⟨allocated, hallocated, h⟩ := bind_ok_iff.mp h
          obtain ⟨sizing, hsizing, h⟩ := bind_ok_iff.mp h
          obtain ⟨hfamily, hrecommended⟩ := recommend_ok h
          refine ⟨hfamily, fun recommendation hverdict => ?_⟩
          obtain ⟨hfam, htradeId, hsignal, huntil, hrisk⟩ := hrecommended recommendation hverdict
          obtain ⟨result, hresult, hok⟩ := Option.map_eq_some_iff.mp hsetup
          obtain ⟨hmem, hkey⟩ := mem_of_lastOf hresult
          have hwithin := computeBrokerSizing_actionable (raiseFinal_ok.mp hsizing)
            recommendation.approvedRiskAmount hrisk
          exact ⟨not_not.mp heligible, hfam, htradeId,
            ⟨result, hmem, hkey, setup, hok, hsignal, huntil⟩,
            allocated, allocatedRisk_ok (raiseFinal_ok.mp hallocated), hwithin⟩

/-- A family repeats the block of the session gate only if the gate has blocked it. -/
theorem evaluateFamily_mirror
    (h : evaluateFamily R setups facts accountCurrency tradeIds asOf s = .ok r)
    (hmirror : r.verdict = .error .sessionNotEligible) : s.verdict ≠ .eligibleForRuntimeReview := by
  unfold evaluateFamily at h
  split_ifs at h with heligible
  · exact heligible
  · split at h
    · cases h
    · cases h
    · split_ifs at h with hsymbol hexpired
      · cases h
        cases hmirror
      · cases h
        cases hmirror
      · obtain ⟨allocated, -, h⟩ := bind_ok_iff.mp h
        obtain ⟨sizing, -, h⟩ := bind_ok_iff.mp h
        unfold recommend at h
        split_ifs at h
        · split at h
          · cases h
          · split at h
            · cases h
              cases hmirror
            · cases h
        · cases h
          cases hmirror

end FinalConstruction

/-- What a construction does: nothing without session verdicts, else one verdict for each. -/
theorem constructFinalRecommendations_cases
    (h : constructFinalRecommendations R p facts accountCurrency tradeIds asOf = .ok f) :
    f.decisionRiskPipelineResult = p ∧
      ((p.strategySessionResult = none ∧ f.familyResults = []) ∨
        ∃ session, p.strategySessionResult = some session ∧
          session.familyResults.mapM (FinalConstruction.evaluateFamily R p.strategySetupResult facts
            accountCurrency tradeIds asOf) = .ok f.familyResults) := by
  unfold constructFinalRecommendations at h
  split_ifs at h with hblocked
  · cases h
    refine ⟨rfl, .inl ⟨?_, rfl⟩⟩
    by_contra hsome
    have hcompleted := p.session_iff.mp (Option.isSome_iff_ne_none.mpr hsome)
    rw [hblocked] at hcompleted
    cases hcompleted
  · split at h
    · cases h
    · next session hsession =>
        obtain ⟨results, hresults, h⟩ := bind_ok_iff.mp h
        by_cases hcovers : results.map FinalRecommendationFamilyResult.family =
            session.familyResults.map SessionFamilyResult.family
        · rw [dif_pos hcovers] at h
          cases h
          exact ⟨rfl, .inr ⟨session, hsession, hresults⟩⟩
        · rw [dif_neg hcovers] at h
          cases h

end TradingAdvisor
