import TradingAdvisor.Lib.Stages
import TradingAdvisor.Orchestration.FinalRecommendation

/-!
# The risk budget end to end

A recommendation has passed every stage, and what the recommendations of one run risk together
fits the capacities of the account.

* `Passed` — a family is eligible at every stage of a run;
* `Reviewed.eligible`, `Reviewed.session_total` — the stages that need an account;
* **`recommendations_within_budget`**: the budget, in exact arithmetic.
-/

namespace TradingAdvisor

open SignificantDigits Checks Keyed Stages

/-- The family is eligible at every stage of the run, from its setup to its sizing. -/
structure Passed (p : DecisionRiskPipelineResult) (f : FinalRecommendationConstructionResult)
    (family : StrategyFamily) : Prop where
  setup : AllOf FamilySetup.family p.strategySetupResult.familyResults family
    fun r => ∃ setup, r.verdict = .ok setup
  event : ∀ r ∈ p.highImpactEventRiskResult.familyResults, r.family = family → r.verdict ≠ .blocked
  session : ∃ session ∈ p.strategySessionResult,
    AllOf RiskFamilyResult.family
      session.strategyPortfolioResult.strategyRiskResult.familyResults family
        (fun r => r.verdict = .eligibleForPortfolioReview) ∧
      AllOf PortfolioFamilyResult.family session.strategyPortfolioResult.familyResults family
        (fun r => r.verdict = .eligibleForSessionReview) ∧
      AllOf SessionFamilyResult.family session.familyResults family
        fun r => r.verdict = .eligibleForRuntimeReview
  sizing : AllOf FinalRecommendationFamilyResult.family f.familyResults family
    fun r => ∃ sizing ∈ r.sizingResult, sizing.outcome = .actionable

variable {R : Rounding} {i : ReviewInput} {setups : StrategySetups}
  {session : StrategySessionResult} {p : DecisionRiskPipelineResult}
  {f : FinalRecommendationConstructionResult}

/-! ## One family through the account stages -/

namespace Reviewed

variable (c : Reviewed R i setups session)

theorem ceilings : (c.risk.familyResults.map RiskFamilyResult.family).Nodup ∧
    ∀ r ∈ c.risk.familyResults, PortfolioSupervisor.Ceiling R c.risk r :=
  PortfolioSupervisor.ceiling_of_evaluate c.risk_eq

theorem portfolio_result :
    c.portfolio = PortfolioSupervisor.candidateResult c.risk
        (PortfolioSupervisor.expectedFamilies R c.risk) ∧
      R.sum (c.portfolio.familyResults.filterMap PortfolioFamilyResult.portfolioAllocatedRisk) ≤
        jointNewRiskCapacity R c.risk.accountSnapshot c.risk.tradingCycleConfig :=
  PortfolioSupervisor.evaluate_result c.ceilings.2 c.portfolio_eq

theorem risk_result : c.risk.tradingCycleConfig = i.tradingCycleConfig ∧
    c.risk.accountSnapshot = c.account :=
  ⟨(RiskGate.evaluate_cases c.risk_eq).1, (RiskGate.evaluate_cases c.risk_eq).2.1⟩

theorem session_results : session.strategyPortfolioResult = c.portfolio ∧
    c.portfolio.familyResults.mapM (SessionGate.evaluateFamily
      (deriveSessionStatus R c.portfolio i.lockedOverride)) = .ok session.familyResults :=
  SessionGate.evaluate_cases c.session_eq

theorem portfolio_families :
    c.portfolio.familyResults.map PortfolioFamilyResult.family =
      c.risk.familyResults.map RiskFamilyResult.family := by
  rw [c.portfolio_result.1]
  simp [PortfolioSupervisor.candidateResult, PortfolioSupervisor.expectedFamilies,
    PortfolioSupervisor.expectedFamily, Function.comp_def]

theorem portfolio_nodup :
    (c.portfolio.familyResults.map PortfolioFamilyResult.family).Nodup :=
  c.portfolio_families ▸ c.ceilings.1

theorem session_nodup (c : Reviewed R i setups session) :
    (session.familyResults.map SessionFamilyResult.family).Nodup :=
  SessionGate.families_eq c.session_results.2 ▸ c.portfolio_nodup

/-- Every verdict of the supervisor is the one it derives from a verdict of the risk gate. -/
theorem exists_risk {q : PortfolioFamilyResult} (hq : q ∈ c.portfolio.familyResults) :
    ∃ r ∈ c.risk.familyResults, ∃ stage7 stage8 total,
      PortfolioSupervisor.expectedFamily R stage7 stage8 (min stage7 stage8) total r = q := by
  rw [c.portfolio_result.1] at hq
  obtain ⟨r, hr, rfl⟩ := List.mem_map.mp hq
  exact ⟨r, hr, _, _, _, rfl⟩

/-- Every session verdict is the one the gate gives to a verdict of the supervisor. -/
theorem exists_portfolio {s : SessionFamilyResult} (hs : s ∈ session.familyResults) :
    ∃ q ∈ c.portfolio.familyResults, SessionGate.evaluateFamily
      (deriveSessionStatus R c.portfolio i.lockedOverride) q = .ok s :=
  exists_of_mem_mapM c.session_results.2 hs

/-- A family eligible for runtime review was let through by the supervisor and by the risk gate,
with an allocation within the ceiling of both budgets. -/
theorem eligible {s : SessionFamilyResult} (hs : s ∈ session.familyResults)
    (heligible : s.verdict = .eligibleForRuntimeReview) :
    ∃ q ∈ c.portfolio.familyResults, q.family = s.family ∧ q.verdict = .eligibleForSessionReview ∧
      ∃ r ∈ c.risk.familyResults, r.family = s.family ∧
        r.verdict = .eligibleForPortfolioReview ∧
        ∀ a ∈ s.sessionAllocatedRisk, ∃ m, r.maxIndividualRisk = some m ∧ 0 < a ∧ a ≤ m := by
  obtain ⟨q, hq, hverdict⟩ := c.exists_portfolio hs
  obtain ⟨hfamily, hcases⟩ := SessionGate.evaluateFamily_cases hverdict
  rcases hcases with ⟨hblocked, -⟩ | ⟨-, -, hq', hallocation, -⟩
  · rw [heligible] at hblocked
    cases hblocked
  · obtain ⟨r, hr, stage7, stage8, total, rfl⟩ := c.exists_risk hq
    refine ⟨_, hq, hfamily.symm, hq', r, hr, hfamily.symm,
      PortfolioSupervisor.eligible_of_expectedFamily c.ceilings.2 hr hq', fun a ha => ?_⟩
    rw [Option.mem_def, hallocation] at ha
    exact PortfolioSupervisor.allocation_mem c.ceilings.2 hr ha

/-- The allocations of the session fit the joint capacity. -/
theorem session_total (c : Reviewed .exact i setups session) :
    (session.familyResults.filterMap SessionFamilyResult.sessionAllocatedRisk).sum ≤
      jointNewRiskCapacity .exact c.account i.tradingCycleConfig := by
  have htotal := c.portfolio_result.2
  rw [c.risk_result.1, c.risk_result.2, Rounding.sum_exact] at htotal
  refine le_trans (sum_filterMap_le ?_ ?_) htotal
  · refine (mapM_ok_forall₂ c.session_results.2).imp fun q s h a ha => ?_
    rcases (SessionGate.evaluateFamily_cases h).2 with ⟨-, -, hnone, -⟩ | ⟨-, -, -, hsome, -⟩
    · rw [hnone] at ha
      cases ha
    · rw [hsome] at ha
      exact ⟨a, ha, le_rfl⟩
  · intro q hq a ha
    obtain ⟨r, hr, stage7, stage8, total, rfl⟩ := c.exists_risk hq
    obtain ⟨m, -, hpos, -⟩ := PortfolioSupervisor.allocation_mem c.ceilings.2 hr ha
    exact hpos.le

end Reviewed

/-! ## Recommendations -/

section

variable {facts : MT5SymbolSnapshot} {accountCurrency : NonemptyText}
  {tradeIds : StrategyFamily → Option TradeId} {asOf : Timestamp}
  {recommendation : FinalRecommendation}

/-- Behind a recommendation stands a session verdict of its family. -/
theorem exists_session
    (hf : constructFinalRecommendations R p facts accountCurrency tradeIds asOf = .ok f)
    (h : recommendation ∈ f.recommendations) :
    ∃ session, p.strategySessionResult = some session ∧ ∃ s ∈ session.familyResults,
      Recommended p.strategySetupResult tradeIds s recommendation ∧
        ∃ r ∈ f.familyResults, r.family = recommendation.family ∧
          r.verdict = .ok recommendation := by
  obtain ⟨r, hr, hsome⟩ := List.mem_filterMap.mp h
  have hverdict := FinalRecommendationFamilyResult.recommendation_eq_some_iff.mp hsome
  rcases (constructFinalRecommendations_cases hf).2 with ⟨-, hnil⟩ | ⟨session, hsession, hresults⟩
  · rw [hnil] at hr
    cases hr
  · obtain ⟨s, hs, hok⟩ := exists_of_mem_mapM hresults hr
    have hrecommended := (FinalConstruction.evaluateFamily_ok hok).2 recommendation hverdict
    exact ⟨session, hsession, s, hs, hrecommended, r, hr,
      (r.family_eq recommendation hverdict).symm, hverdict⟩

/-- **A recommendation has passed every stage of its run.** -/
theorem passed_of_recommendation (hp : riskReview R i setups = .ok p)
    (hf : constructFinalRecommendations R p facts accountCurrency tradeIds asOf = .ok f)
    (h : recommendation ∈ f.recommendations) : Passed p f recommendation.family := by
  obtain ⟨session, hsession, s, hs, hrecommended, r, hr, hrfamily, hverdict⟩ := exists_session hf h
  obtain ⟨hsetups, -, hevents, hreviewed⟩ := riskReview_cases hp
  obtain ⟨c⟩ := hreviewed session hsession
  obtain ⟨q, hq, hqfamily, hqverdict, k, hk, hkfamily, hkverdict, -⟩ :=
    c.eligible hs hrecommended.eligible
  -- the candidate behind the risk verdict is of positive risk, so its setup was let through
  obtain ⟨policy, -, hpolicy⟩ := exists_of_mem_mapM (RiskGate.evaluate_cases c.risk_eq).2.2 hk
  obtain ⟨candidate, hcandidate, hcfamily, hcrisk⟩ := RiskGate.candidate_of_eligible hpolicy hkverdict
  obtain ⟨hunblocked, t, ht, htfamily, htverdict⟩ := setup_of_candidate hcandidate hcrisk
  have hfam := hrecommended.family
  refine ⟨?_, ?_, ⟨session, hsession, ?_, ?_, ?_⟩, ?_⟩
  · rw [hsetups, hfam, ← hkfamily, ← hcfamily]
    exact allOf_of_mem setups.nodup ht htfamily htverdict
  · intro e he hefamily hblocked
    refine hunblocked ?_
    rw [hcfamily, hkfamily, ← hfam, ← hefamily]
    rw [hevents] at he
    exact List.mem_map_of_mem (List.mem_filter.mpr ⟨he, by simpa using hblocked⟩)
  · rw [c.session_results.1, c.portfolio_result.1]
    exact allOf_of_mem c.ceilings.1 hk (hkfamily.trans hfam.symm) hkverdict
  · rw [c.session_results.1]
    exact allOf_of_mem c.portfolio_nodup hq (hqfamily.trans hfam.symm) hqverdict
  · exact allOf_of_mem c.session_nodup hs hfam.symm hrecommended.eligible
  · have hnodup : (f.familyResults.map FinalRecommendationFamilyResult.family).Nodup := by
      rw [f.covers, (constructFinalRecommendations_cases hf).1, hsession]
      exact c.session_nodup
    obtain ⟨sizing, hsizing⟩ :=
      Option.isSome_iff_exists.mp (r.sizing_iff.mpr (.inl (by rw [hverdict]; rfl)))
    refine allOf_of_mem hnodup hr hrfamily ⟨sizing, hsizing, ?_⟩
    exact (r.actionable_iff sizing hsizing).mpr (by rw [hverdict]; rfl)

/-- What the recommendations of a run risk is within the allocations of its session. -/
theorem recommended_total (c : Reviewed .exact i p.strategySetupResult session)
    (hsession : p.strategySessionResult = some session)
    (hf : constructFinalRecommendations .exact p facts accountCurrency tradeIds asOf = .ok f) :
    f.approvedRisks.sum ≤
      (session.familyResults.filterMap SessionFamilyResult.sessionAllocatedRisk).sum := by
  rcases (constructFinalRecommendations_cases hf).2 with ⟨hnone, -⟩ | ⟨session', hsession', hresults⟩
  · rw [hsession] at hnone
    cases hnone
  · obtain rfl : session = session' := Option.some.inj (hsession.symm.trans hsession')
    rw [FinalRecommendationConstructionResult.approvedRisks,
      FinalRecommendationConstructionResult.recommendations, List.map_filterMap]
    refine sum_filterMap_le ((mapM_ok_forall₂ hresults).imp fun s r h a ha => ?_) ?_
    · obtain ⟨recommendation, hrec, rfl⟩ := Option.map_eq_some_iff.mp ha
      have hverdict := FinalRecommendationFamilyResult.recommendation_eq_some_iff.mp hrec
      exact ((FinalConstruction.evaluateFamily_ok h).2 recommendation hverdict).within
    · intro s hs a ha
      obtain ⟨q, -, hverdict⟩ := c.exists_portfolio hs
      rcases (SessionGate.evaluateFamily_cases hverdict).2 with
        ⟨-, -, hnone, -⟩ | ⟨-, -, -, hsome, b, hb, hpos⟩
      · rw [hnone] at ha
        cases ha
      · rw [hsome, Option.mem_def.mp hb] at ha
        cases ha
        exact hpos.le

theorem perTrade_of_mem (c : Reviewed R i setups session) {k : RiskFamilyResult} {m : ℚ}
    (hk : k ∈ c.risk.familyResults) (hm : k.maxIndividualRisk = some m) :
    m ≤ (accountRiskState R c.account i.tradingCycleConfig).2.2 := by
  obtain ⟨policy, -, hpolicy⟩ := exists_of_mem_mapM (RiskGate.evaluate_cases c.risk_eq).2.2 hk
  rcases (RiskGate.evaluateFamily_cases hpolicy).2 with ⟨-, hnone⟩ | ⟨-, -, hsome⟩
  · rw [hnone] at hm
    cases hm
  · rw [hsome, Option.some.injEq] at hm
    exact hm ▸ min_le_left _ _

/-- **The risk budget of one run, in exact arithmetic.** Together the recommendations risk at most
what the account leaves for new trades and at most the joint capacity of the portfolio; each risks
at most the maximum of one trade and the session's allocation to its family; and each family
recommended has passed every stage. -/
theorem recommendations_within_budget (decision : StrategyDecision)
    (symbolFacts : Option MT5SymbolSnapshot) (m15 : Option MarketStructureFeatures)
    (brokerSymbol : Symbol) (i : ReviewInput) (p : DecisionRiskPipelineResult)
    (hp : evaluateDecisionRiskPipeline .exact decision symbolFacts m15 brokerSymbol i = .ok p)
    (facts : MT5SymbolSnapshot) (accountCurrency : NonemptyText)
    (tradeIds : StrategyFamily → Option TradeId) (asOf : Timestamp)
    (f : FinalRecommendationConstructionResult)
    (hf : constructFinalRecommendations .exact p facts accountCurrency tradeIds asOf = .ok f) :
    (∀ account ∈ i.accountRiskSnapshotAssembly.accountSnapshot,
      f.approvedRisks.sum ≤
          (accountRiskState .exact account i.tradingCycleConfig).2.1 ∧
        f.approvedRisks.sum ≤
          jointNewRiskCapacity .exact account i.tradingCycleConfig ∧
        ∀ r ∈ f.recommendations, (r.approvedRiskAmount : ℚ) ≤
          (accountRiskState .exact account i.tradingCycleConfig).2.2) ∧
      ∀ r ∈ f.recommendations, Passed p f r.family ∧
        ∃ session ∈ p.strategySessionResult,
          AllOf SessionFamilyResult.family session.familyResults r.family
            fun s => ∃ q ∈ s.sessionAllocatedRisk, (r.approvedRiskAmount : ℚ) ≤ q := by
  obtain ⟨setups, -, hreview⟩ := bind_ok_iff.mp hp
  obtain ⟨rfl, -, -, hreviewed⟩ := riskReview_cases hreview
  constructor
  · intro account haccount
    have htotal : f.approvedRisks.sum ≤
        jointNewRiskCapacity .exact account i.tradingCycleConfig := by
      rcases hsession : p.strategySessionResult with _ | session
      · have hnone : f.recommendations = [] := by
          refine List.eq_nil_iff_forall_not_mem.mpr fun r hr => ?_
          obtain ⟨session, hsome, -⟩ := exists_session hf hr
          rw [hsession] at hsome
          cases hsome
        rw [FinalRecommendationConstructionResult.approvedRisks, hnone]
        exact le_min (PortfolioSupervisor.stage7SharedCapacity_nonneg _ _)
          (PortfolioSupervisor.remainingPortfolioCapacity_nonneg _ _)
      · obtain ⟨c⟩ := hreviewed session hsession
        obtain rfl : account = c.account := Option.some.inj (haccount.symm.trans c.account_eq)
        exact (recommended_total c hsession hf).trans c.session_total
    refine ⟨htotal.trans (min_le_left _ _), htotal, fun r hr => ?_⟩
    obtain ⟨session, hsession, s, hs, hrecommended, -⟩ := exists_session hf hr
    obtain ⟨c⟩ := hreviewed session hsession
    obtain rfl : account = c.account := Option.some.inj (haccount.symm.trans c.account_eq)
    obtain ⟨-, -, -, -, k, hk, -, -, hceiling⟩ := c.eligible hs hrecommended.eligible
    obtain ⟨q, hq, hle⟩ := hrecommended.within
    obtain ⟨m, hm, -, hqm⟩ := hceiling q hq
    exact hle.trans (hqm.trans (perTrade_of_mem c hk hm))
  · intro r hr
    refine ⟨passed_of_recommendation hreview hf hr, ?_⟩
    obtain ⟨session, hsession, s, hs, hrecommended, -⟩ := exists_session hf hr
    obtain ⟨c⟩ := hreviewed session hsession
    exact ⟨session, hsession, allOf_of_mem c.session_nodup hs hrecommended.family.symm
      hrecommended.within⟩

end

/-! ## Samples -/

/-- Trend following is routed and reads long. -/
def trendDecision : StrategyDecision := trendOnly .longCandidate

/-- Trend following and breakout are routed and read long. -/
def twoFamilyDecision : StrategyDecision where
  familyResults := [⟨.trendFollowing, .eligibleForRiskReview⟩, ⟨.breakout, .eligibleForRiskReview⟩]
  canonical := by decide
  context := { symbol := btcusdt, contractType := .perpetual, onChainPair := onChainPair_none }
  ineligibilityReasons family :=
    if family = .trendFollowing ∨ family = .breakout then [] else [.contourMissing]
  direction _ := some .longCandidate
  policyReasons _ := []
  routed := by decide
  blocked_iff := by decide
  directional _ _ _ := rfl

/-- A symbol at 100, with a tick of one unit. -/
def sampleSymbol : MT5SymbolSnapshot where
  tradeTickSize := 1
  tradeTickValueLoss := 1
  symbol := btcusdt
  point := 1
  volumeMin := 1 / 100
  volumeMax := 100
  volumeStep := 1 / 100
  tradeStopsLevel := 0
  tradeMode := .full
  bid := 99
  ask := 100

/-- A low swing at 90, and an upward break of the high at 95. -/
def sampleStructure : MarketStructureFeatures where
  swings := [{ kind := .low, candleTime := 0, price := (90 : ℕ) }]
  breaks := [⟨.upwardBreak, { kind := .high, candleTime := 0, price := (95 : ℕ) }⟩]
  quality := .valid

/-- An account of one hundred thousand that trades nothing. -/
def reviewAssembly : AccountRiskSnapshotAssembly where
  asOf := 0
  outcome := .ready
  accountSnapshot := some PortfolioSupervisor.roundAccount
  reasons := []

/-- The default limits, without events. -/
def sampleReview : ReviewInput where
  evaluationTime := 0
  accountRiskSnapshotAssembly := reviewAssembly
  tradingCycleConfig := PortfolioSupervisor.defaultConfig

/-- A portfolio limit of 0.6 percent, without events. -/
def sharedReview : ReviewInput :=
  { sampleReview with tradingCycleConfig := PortfolioSupervisor.sharedConfig }

/-- The trade ids of the samples. -/
def sampleTradeIds (_ : StrategyFamily) : Option TradeId := some ⟨"trade", by decide⟩

/-- The two families, each with a ceiling of 500, share 600. -/
theorem recommendations_within_budget_sample : ∃ p f,
    evaluateDecisionRiskPipeline .exact twoFamilyDecision (some sampleSymbol)
        (some sampleStructure) btcusdt sharedReview = .ok p ∧
      constructFinalRecommendations .exact p sampleSymbol usd sampleTradeIds 0 = .ok f ∧
      f.approvedRisks = [300, 300] ∧
      (∀ account ∈ reviewAssembly.accountSnapshot, f.approvedRisks.sum ≤
        jointNewRiskCapacity .exact account PortfolioSupervisor.sharedConfig) ∧
      ∀ r ∈ f.recommendations, Passed p f r.family := by
  have hp : (evaluateDecisionRiskPipeline .exact twoFamilyDecision (some sampleSymbol)
      (some sampleStructure) btcusdt sharedReview).isOk = true := by decide +kernel
  obtain ⟨p, hp⟩ := isOk_iff.mp hp
  have hrun : (match evaluateDecisionRiskPipeline .exact twoFamilyDecision (some sampleSymbol)
      (some sampleStructure) btcusdt sharedReview with
    | .ok p => (constructFinalRecommendations .exact p sampleSymbol usd sampleTradeIds 0).map
        FinalRecommendationConstructionResult.approvedRisks
    | .error _ => .ok []) = .ok [300, 300] := by decide +kernel
  rw [hp] at hrun
  obtain ⟨f, hf, hrisk⟩ := map_ok_iff.mp hrun
  have hbudget := recommendations_within_budget twoFamilyDecision (some sampleSymbol)
    (some sampleStructure) btcusdt sharedReview p hp sampleSymbol usd sampleTradeIds 0 f hf
  exact ⟨p, f, hp, hf, hrisk, fun account haccount => (hbudget.1 account haccount).2.1,
    fun r hr => (hbudget.2 r hr).1⟩

end TradingAdvisor
