import TradingAdvisor.Orchestration.RiskBudget

/-!
# No recommendation overlaps a hard event

The event gate's verdict reaches the recommendations through the risk of the candidates: a family
that the gate blocks has no risk to review. The verdict depends only on which events there are.

* `SameFamilies`, `verdicts_mono` — the verdicts of two event lists;
* **`no_recommendation_overlaps`**: no recommendation's validity overlaps the window of an event
  that can block it.
-/

namespace TradingAdvisor

open SignificantDigits Checks Keyed Stages

/-- Family by family, the verdicts are at most as severe. -/
def AtMostAsSevere (a b : HighImpactEventRiskResult) : Prop :=
  List.Forall₂ (fun x y => x.family = y.family ∧ x.verdict.severity ≤ y.verdict.severity)
    a.familyResults b.familyResults

/-- The families of a result with their verdicts. -/
def HighImpactEventRiskResult.verdicts (result : HighImpactEventRiskResult) :
    List (StrategyFamily × HighImpactEventVerdict) :=
  result.familyResults.map fun r => (r.family, r.verdict)

/-- The event can block at this instrument and its block window shares a positive duration with
the interval. -/
def HardOverlap (evaluation : MarketEvaluationContext)
    (scopes : Option HighImpactEventSymbolScopeConfig) (event : HighImpactEventRecord)
    (signalTime validUntil : Timestamp) : Prop :=
  IsRelevant event evaluation.symbol (instrumentScopeTags evaluation) scopes ∧
    IsHardBlockEligible event ∧
      max signalTime (event.eventTime - minutes 5) < min validUntil (event.eventTime + minutes 5)

section Verdicts

variable {s : StrategySetupResult} {context context' : HighImpactEventContext}
  {asOf asOf' : Timestamp} {scopes : Option HighImpactEventSymbolScopeConfig}

/-- More events never make a verdict less severe. -/
theorem verdicts_mono (h : context.events ⊆ context'.events) :
    AtMostAsSevere (HighImpactEventGate.evaluate s (some context) asOf scopes)
      (HighImpactEventGate.evaluate s (some context') asOf' scopes) := by
  show List.Forall₂ _
    (s.familyResults.filterMap (HighImpactEventGate.familyResult s (some context) scopes))
    (s.familyResults.filterMap (HighImpactEventGate.familyResult s (some context') scopes))
  generalize s.familyResults = results
  induction results with
  | nil => exact .nil
  | cons result results ih =>
      rw [List.filterMap_cons, List.filterMap_cons]
      rcases hsetup : result.setup with _ | setup
      · simpa [HighImpactEventGate.familyResult, hsetup] using ih
      · simp only [HighImpactEventGate.familyResult, hsetup, Option.map_some]
        refine .cons ⟨?_, evaluateFamily_severity_mono h⟩ ih
        rw [evaluateFamily_family, evaluateFamily_family]

/-- The verdicts depend only on which events there are. -/
theorem verdicts_congr (h : ∀ event, event ∈ context.events ↔ event ∈ context'.events) :
    (HighImpactEventGate.evaluate s (some context) asOf scopes).verdicts =
      (HighImpactEventGate.evaluate s (some context') asOf' scopes).verdicts := by
  have hle : AtMostAsSevere (HighImpactEventGate.evaluate s (some context) asOf scopes)
      (HighImpactEventGate.evaluate s (some context') asOf' scopes) :=
    verdicts_mono fun event hevent => (h event).mp hevent
  have hge : AtMostAsSevere (HighImpactEventGate.evaluate s (some context') asOf' scopes)
      (HighImpactEventGate.evaluate s (some context) asOf scopes) :=
    verdicts_mono fun event hevent => (h event).mpr hevent
  unfold HighImpactEventRiskResult.verdicts
  unfold AtMostAsSevere at hle hge
  generalize (HighImpactEventGate.evaluate s (some context) asOf scopes).familyResults = l at hle hge
  generalize (HighImpactEventGate.evaluate s (some context') asOf' scopes).familyResults = l'
    at hle hge
  induction hle with
  | nil => rfl
  | cons hxy _ ih =>
      obtain ⟨hyx, hrest⟩ := List.forall₂_cons.mp hge
      have hverdict := HighImpactEventVerdict.severity_injective (le_antisymm hxy.2 hyx.2)
      rw [List.map_cons, List.map_cons, ih hrest, hxy.1, hverdict]

end Verdicts

variable {R : Rounding} {i : ReviewInput} {setups : StrategySetups}
  {p : DecisionRiskPipelineResult} {f : FinalRecommendationConstructionResult}
  {facts : MT5SymbolSnapshot} {accountCurrency : NonemptyText}
  {tradeIds : StrategyFamily → Option TradeId} {asOf : Timestamp}
  {recommendation : FinalRecommendation} {context : HighImpactEventContext}

theorem mem_toStrategySetupResult {r : FamilySetup} {setup : PricedTradeSetup}
    (hr : r ∈ setups.familyResults) (hsetup : r.verdict = .ok setup) :
    ∃ result ∈ setups.toStrategySetupResult.familyResults,
      result.setup = some setup.toCandidateTradeSetup := by
  refine ⟨_, List.mem_map_of_mem hr, ?_⟩
  show r.verdict.toOption.map PricedTradeSetup.toCandidateTradeSetup = _
  rw [hsetup]
  rfl

/-- A recommendation's validity overlaps no event that can block it. -/
theorem not_hardOverlap (hcontext : i.highImpactEventContext = some context)
    (hp : riskReview R i setups = .ok p)
    (hf : constructFinalRecommendations R p facts accountCurrency tradeIds asOf = .ok f)
    (h : recommendation ∈ f.recommendations) {event : HighImpactEventRecord}
    (hevent : event ∈ context.events) :
    ¬ HardOverlap setups.decision.context i.highImpactEventSymbolScopeConfig event
      recommendation.signalTime recommendation.validUntil := by
  rintro ⟨hrelevant, heligible, hoverlap⟩
  obtain ⟨-, -, s, -, hrecommended, -⟩ := exists_session hf h
  obtain ⟨r, hr, hfamily, setup, hsetup, hsignal, huntil⟩ := hrecommended.setup
  obtain ⟨hsetups, -, hevents, -⟩ := riskReview_cases hp
  rw [hsetups] at hr
  obtain ⟨result, hresult, hgate⟩ := mem_toStrategySetupResult hr hsetup
  have hpassed := (passed_of_recommendation hp hf h).event
  rw [hevents] at hpassed
  refine hpassed _ (HighImpactEventGate.mem_evaluate.mpr
    ⟨result, hresult, setup.toCandidateTradeSetup, hgate, rfl⟩) ?_ ?_
  · rw [evaluateFamily_family, hrecommended.family, ← hfamily]
    exact r.family_eq setup hsetup
  · rw [hcontext]
    rw [hsignal, huntil, max_lt_iff, lt_min_iff, lt_min_iff] at hoverlap
    exact evaluateFamily_blocked_iff.mpr
      ⟨event, hevent, hrelevant, heligible, hoverlap.1.2, hoverlap.2.1⟩

/-- **No recommendation overlaps a hard event.** Whatever the setups and the inputs downstream, no
recommendation's validity shares a positive duration with the window of an event of the context
that the gate selects; and the verdicts depend only on which events there are, and get no less
severe with more of them. -/
theorem no_recommendation_overlaps (R : Rounding) (context : HighImpactEventContext) :
    (∀ (i : ReviewInput) (setups : StrategySetups) (p : DecisionRiskPipelineResult)
        (facts : MT5SymbolSnapshot) (accountCurrency : NonemptyText)
        (tradeIds : StrategyFamily → Option TradeId) (asOf : Timestamp)
        (f : FinalRecommendationConstructionResult),
      i.highImpactEventContext = some context → riskReview R i setups = .ok p →
        constructFinalRecommendations R p facts accountCurrency tradeIds asOf = .ok f →
          ∀ recommendation ∈ f.recommendations, ∀ event ∈ context.events,
            ¬ HardOverlap setups.decision.context i.highImpactEventSymbolScopeConfig event
              recommendation.signalTime recommendation.validUntil) ∧
      ∀ (context' : HighImpactEventContext) (s : StrategySetupResult) (asOf asOf' : Timestamp)
        (scopes : Option HighImpactEventSymbolScopeConfig),
        ((∀ event, event ∈ context.events ↔ event ∈ context'.events) →
          (HighImpactEventGate.evaluate s (some context) asOf scopes).verdicts =
            (HighImpactEventGate.evaluate s (some context') asOf' scopes).verdicts) ∧
        (context.events ⊆ context'.events →
          AtMostAsSevere (HighImpactEventGate.evaluate s (some context) asOf scopes)
            (HighImpactEventGate.evaluate s (some context') asOf' scopes)) :=
  ⟨fun _ _ _ _ _ _ _ _ hcontext hp hf _ h _ hevent => not_hardOverlap hcontext hp hf h hevent,
    fun _ _ _ _ _ => ⟨verdicts_congr, verdicts_mono⟩⟩

/-- The consumer prices, at the end of the first hour. -/
def sampleEvents : HighImpactEventContext where
  events := [⟨firstEvent, minutes 60, .high, usCpi⟩]
  dataQuality := .fresh
  producer := ⟨"calendar", by decide⟩
  generatedAt := some 0
  fresh_of_events _ := rfl
  generatedAt_eq_none := by decide

/-- Trend following on an instrument with a dollar exposure. -/
def dollarDecision : StrategyDecision :=
  { trendDecision with
    context :=
      { symbol := btcusdt, contractType := .perpetual, onChainPair := onChainPair_none
        currencyExposures := [usdCode] } }

/-- The review of the samples, with the event. -/
def sampleEventReview : ReviewInput :=
  { sampleReview with highImpactEventContext := some sampleEvents }

theorem no_recommendation_overlaps_sample : ∃ p f,
    evaluateDecisionRiskPipeline .exact dollarDecision (some sampleSymbol) (some sampleStructure)
        btcusdt sampleEventReview = .ok p ∧
      constructFinalRecommendations .exact p sampleSymbol usd sampleTradeIds 0 = .ok f ∧
      f.approvedRisks = [500] ∧
      ∀ r ∈ f.recommendations, ∀ event ∈ sampleEvents.events,
        ¬ HardOverlap dollarDecision.context none event r.signalTime r.validUntil := by
  have hp : (evaluateDecisionRiskPipeline .exact dollarDecision (some sampleSymbol)
      (some sampleStructure) btcusdt
      sampleEventReview).isOk = true := by
    decide +kernel
  obtain ⟨p, hp⟩ := isOk_iff.mp hp
  have hrun : (match evaluateDecisionRiskPipeline .exact dollarDecision (some sampleSymbol)
      (some sampleStructure) btcusdt
      sampleEventReview with
    | .ok p => (constructFinalRecommendations .exact p sampleSymbol usd sampleTradeIds 0).map
        FinalRecommendationConstructionResult.approvedRisks
    | .error _ => .ok []) = .ok [500] := by decide +kernel
  rw [hp] at hrun
  obtain ⟨f, hf, hrisk⟩ := map_ok_iff.mp hrun
  obtain ⟨setups, hsetups, hreview⟩ := bind_ok_iff.mp hp
  have hdecision : setups.decision = dollarDecision :=
    constructSetups_decision (raiseModel_ok.mp hsetups)
  have hsafe := (no_recommendation_overlaps .exact sampleEvents).1 _ setups p sampleSymbol usd
    sampleTradeIds 0 f rfl hreview hf
  rw [hdecision] at hsafe
  exact ⟨p, f, hp, hf, hrisk, hsafe⟩

end TradingAdvisor
