import TradingAdvisor.Application.NoTrade
import TradingAdvisor.Orchestration.RiskBudget

/-!
# Every family is accounted for

The mapping of a cycle never fails. A family that the pipeline has looked at ends with one
recommendation or one no-trade reason, except where the account facts were not ready: a family with
a setup that may be traded has neither then.

* `AwaitsRisk` — a setup that only the account stages can stop;
* `deriveNoTradeReason_cases`, `deriveReviewReason_cases` — the walk, up to the setups and after;
* `mapFamily_spec` — what one family adds to the mapping;
* **`families_accounted`** — what the mapping of a cycle holds.
-/

namespace TradingAdvisor

open SignificantDigits Checks Keyed Stages

/-- The family has a setup, and the event gate lets it through. -/
def AwaitsRisk (p : DecisionRiskPipelineResult) (family : StrategyFamily) : Prop :=
  AllOf FamilySetup.family p.strategySetupResult.familyResults family
      (fun r => ∃ setup, r.verdict = .ok setup) ∧
    ∀ e ∈ p.highImpactEventRiskResult.familyResults, e.family = family → e.verdict ≠ .blocked

/-- A step of the walk that ends with a reason for the family. -/
def Ends (family : StrategyFamily)
    (x : Except NoTradeMappingError (Option NoTradeReasonDTO)) : Prop :=
  ∃ noTrade : NoTradeReasonDTO, noTrade.strategyFamily = family ∧ x = .ok (some noTrade)

variable {α : Type} {key : α → StrategyFamily} {items : List α} {family : StrategyFamily} {a : α}

theorem mem_of_findByFamily (h : findByFamily key items family = some a) :
    a ∈ items ∧ key a = family :=
  ⟨List.mem_of_find?_eq_some h, by simpa using List.find?_some h⟩

theorem exists_findByFamily (h : family ∈ items.map key) :
    ∃ a ∈ items, key a = family ∧ findByFamily key items family = some a := by
  obtain ⟨a, ha, hkey⟩ := List.mem_map.mp h
  obtain ⟨b, hb⟩ := Option.isSome_iff_exists.mp
    (List.find?_isSome.mpr ⟨a, ha, by simpa using hkey⟩ :
      (items.find? fun a => key a = family).isSome)
  obtain ⟨hmem, hfamily⟩ := mem_of_findByFamily hb
  exact ⟨b, hmem, hfamily, hb⟩

theorem ends_noTradeReason {stage : NoTradeStage} {codes : List NoTradeCode} (h : codes ≠ []) :
    Ends family (some <$> noTradeReason family stage codes) := by
  refine ⟨{ strategyFamily := family, stage, codes, codes_ne_nil := h }, rfl, ?_⟩
  rw [noTradeReason, dif_pos h]
  rfl

/-! ## Up to the setups -/

section

variable {r : RuntimeCycleResult} {p : DecisionRiskPipelineResult}

/-- A family without a setup that may be traded ends before the account stages. -/
theorem deriveSetupReason_cases
    (h : family ∈ p.strategySetupResult.decision.eligibleFamilies) :
    (¬ AwaitsRisk p family ∧ Ends family (deriveSetupReason family r p)) ∨
      (AwaitsRisk p family ∧ deriveSetupReason family r p = deriveReviewReason family r p) := by
  rw [← p.strategySetupResult.covers] at h
  obtain ⟨setup, hsetup, hfamily, hfind⟩ := exists_findByFamily h
  unfold deriveSetupReason
  rw [hfind]
  dsimp only [assertFound, bind, Except.bind]
  rcases hverdict : setup.verdict with reason | constructed
  · refine .inl ⟨fun hawaits => ?_, ends_noTradeReason (List.cons_ne_nil _ _)⟩
    obtain ⟨constructed, hconstructed⟩ := hawaits.1.2 setup hsetup hfamily
    rw [hverdict] at hconstructed
    cases hconstructed
  · dsimp only
    rcases hevent : (findByFamily HighImpactEventFamilyResult.family
        p.highImpactEventRiskResult.familyResults family).filter
          (fun event => event.verdict = .blocked) with - | event
    · rw [hevent]
      refine .inr ⟨⟨allOf_of_mem p.strategySetupResult.nodup hsetup hfamily
        ⟨constructed, hverdict⟩, fun e he hefamily hblocked => ?_⟩, rfl⟩
      obtain ⟨found, hfound, hfoundfamily, hfindevent⟩ :=
        exists_findByFamily (List.mem_map.mpr ⟨e, he, hefamily⟩)
      have hnodup : (p.highImpactEventRiskResult.familyResults.map
          HighImpactEventFamilyResult.family).Nodup :=
        StrategyFamily.order_nodup.sublist p.highImpactEventRiskResult.canonical
      obtain rfl : found = e :=
        List.inj_on_of_nodup_map hnodup hfound he (hfoundfamily.trans hefamily.symm)
      rw [hfindevent] at hevent
      simp [hblocked] at hevent
    · rw [hevent]
      obtain ⟨hfound, hblocked⟩ := Option.filter_eq_some_iff.mp hevent
      obtain ⟨hmem, hefamily⟩ := mem_of_findByFamily hfound
      rw [decide_eq_true_eq] at hblocked
      refine .inl ⟨fun hawaits => hawaits.2 event hmem hefamily hblocked, ends_noTradeReason ?_⟩
      rw [event.reasons_eq, if_pos hblocked]
      exact List.cons_ne_nil _ _

/-- **The walk up to the setups**: a family ends there, or it awaits the account stages. -/
theorem deriveNoTradeReason_cases (family : StrategyFamily)
    (hp : r.decisionRiskPipelineResult = some p) :
    (¬ AwaitsRisk p family ∧ Ends family (deriveNoTradeReason family r)) ∨
      (AwaitsRisk p family ∧ family ∈ p.strategySetupResult.decision.eligibleFamilies ∧
        deriveNoTradeReason family r = deriveReviewReason family r p) := by
  have heligible (hawaits : AwaitsRisk p family) :
      family ∈ p.strategySetupResult.decision.eligibleFamilies := by
    obtain ⟨setup, hsetup, hfamily⟩ := hawaits.1.1
    rw [← p.strategySetupResult.covers]
    exact List.mem_map.mpr ⟨setup, hsetup, hfamily⟩
  unfold deriveNoTradeReason
  rw [hp]
  dsimp only
  by_cases hineligible : p.strategySetupResult.decision.ineligibilityReasons family ≠ []
  · rw [if_pos hineligible]
    refine .inl ⟨fun hawaits => ?_, ends_noTradeReason (by simpa using hineligible)⟩
    obtain ⟨policy, hpolicy, hfamily⟩ := List.mem_map.mp (heligible hawaits)
    have hrouted : family ∈ StrategyFamily.order.filter fun family =>
        p.strategySetupResult.decision.ineligibilityReasons family = [] := by
      rw [← p.strategySetupResult.decision.routed]
      exact List.mem_map.mpr ⟨policy, (List.mem_filter.mp hpolicy).1, hfamily⟩
    exact hineligible (by simpa using (List.mem_filter.mp hrouted).2)
  · rw [if_neg hineligible]
    rw [not_not] at hineligible
    have hrouted : family ∈ p.strategySetupResult.decision.familyResults.map
        PolicyFamilyResult.family := by
      rw [p.strategySetupResult.decision.routed, List.mem_filter]
      exact ⟨by cases family <;> decide, by simpa using hineligible⟩
    obtain ⟨policy, hpolicy, hfamily, hfind⟩ := exists_findByFamily hrouted
    rw [hfind]
    dsimp only [assertFound, bind, Except.bind]
    by_cases hblocked : policy.verdict = .blocked
    · rw [if_pos hblocked]
      refine .inl ⟨fun hawaits => ?_, ends_noTradeReason ?_⟩
      · obtain ⟨passed, hpassed, hpassedfamily⟩ := List.mem_map.mp (heligible hawaits)
        obtain ⟨hmem, hverdict⟩ := List.mem_filter.mp hpassed
        obtain rfl : passed = policy := List.inj_on_of_nodup_map
          p.strategySetupResult.decision.families_nodup hmem hpolicy
            (hpassedfamily.trans hfamily.symm)
        rw [decide_eq_true_eq, hblocked] at hverdict
        cases hverdict
      · have hreasons := (p.strategySetupResult.decision.blocked_iff policy hpolicy).mp hblocked
        rw [hfamily] at hreasons
        simpa using hreasons
    · rw [if_neg hblocked]
      have hmem : family ∈ p.strategySetupResult.decision.eligibleFamilies := by
        refine List.mem_map.mpr ⟨policy, List.mem_filter.mpr ⟨hpolicy, ?_⟩, hfamily⟩
        cases hverdict : policy.verdict
        · rfl
        · exact absurd hverdict hblocked
      rcases deriveSetupReason_cases hmem with hends | ⟨hawaits, hwalk⟩
      · exact .inl hends
      · exact .inr ⟨hawaits, hmem, hwalk⟩

end

/-! ## The account stages -/

section

variable {R : Rounding} {i : ReviewInput} {setups : StrategySetups} {session : StrategySessionResult}
  {r : RuntimeCycleResult} {p : DecisionRiskPipelineResult}

namespace Reviewed

variable (c : Reviewed R i setups session)

theorem risk_eq_strategyRiskResult :
    session.strategyPortfolioResult.strategyRiskResult = c.risk := by
  rw [c.session_results.1, c.portfolio_result.1]
  rfl

theorem risk_families : c.risk.familyResults.map RiskFamilyResult.family =
    setups.decision.familyResults.map PolicyFamilyResult.family :=
  RiskGate.families_eq (RiskGate.evaluate_cases c.risk_eq).2.2

/-- The risk gate blocks a family that policy let through for a reason of its own. -/
theorem risk_reasons (h : family ∈ setups.decision.eligibleFamilies) {k : RiskFamilyResult}
    (hk : k ∈ c.risk.familyResults) (hfamily : k.family = family) :
    (k.verdict = .blockedByRisk ∧ IsGenuine .policyNotEligible k.reasons) ∨
      (k.verdict = .eligibleForPortfolioReview ∧ k.reasons = []) := by
  obtain ⟨policy, hpolicy, hok⟩ := exists_of_mem_mapM (RiskGate.evaluate_cases c.risk_eq).2.2 hk
  obtain ⟨passed, hpassed, hpassedfamily⟩ := List.mem_map.mp h
  obtain ⟨hmem, hverdict⟩ := List.mem_filter.mp hpassed
  have hsame : passed.family = policy.family :=
    hpassedfamily.trans (hfamily.symm.trans (RiskGate.evaluateFamily_cases hok).1)
  obtain rfl : passed = policy :=
    List.inj_on_of_nodup_map setups.decision.families_nodup hmem hpolicy hsame
  rcases RiskGate.evaluateFamily_reasons hok (by simpa using hverdict) with hblocked | hpassed
  · exact .inl hblocked
  · exact .inr hpassed

/-- The supervisor blocks a family that the risk gate let through for a reason of its own. -/
theorem portfolio_reasons {k : RiskFamilyResult} (hk : k ∈ c.risk.familyResults)
    (heligible : k.verdict = .eligibleForPortfolioReview) {q : PortfolioFamilyResult}
    (hq : q ∈ c.portfolio.familyResults) (hfamily : q.family = k.family) :
    (q.verdict = .blockedByPortfolio ∧ IsGenuine .riskNotEligible q.reasons) ∨
      (q.verdict = .eligibleForSessionReview ∧ q.reasons = []) := by
  obtain ⟨k', hk', stage7, stage8, total, rfl⟩ := c.exists_risk hq
  obtain rfl : k' = k := List.inj_on_of_nodup_map c.ceilings.1 hk' hk hfamily
  rcases PortfolioSupervisor.expectedFamily_reasons with
    ⟨hverdict, hne, hmirror⟩ | hpassed
  · refine .inl ⟨hverdict, hne, fun heq => ?_⟩
    rw [hmirror heq] at heligible
    cases heligible
  · exact .inr hpassed

/-- The session gate blocks a family that the supervisor let through for a reason of its own. -/
theorem session_reasons {q : PortfolioFamilyResult} (hq : q ∈ c.portfolio.familyResults)
    (heligible : q.verdict = .eligibleForSessionReview) {s : SessionFamilyResult}
    (hs : s ∈ session.familyResults) (hfamily : s.family = q.family) :
    (s.verdict = .blockedBySession ∧ IsGenuine .portfolioNotEligible s.reasons) ∨
      (s.verdict = .eligibleForRuntimeReview ∧ s.reasons = []) := by
  obtain ⟨q', hq', hok⟩ := c.exists_portfolio hs
  obtain ⟨hsame, hcases⟩ := SessionGate.evaluateFamily_cases hok
  obtain rfl : q' = q :=
    List.inj_on_of_nodup_map c.portfolio_nodup hq' hq (hsame.symm.trans hfamily)
  rcases hcases with ⟨hverdict, hne, -, hmirror⟩ | ⟨hverdict, hnil, -⟩
  · refine .inl ⟨hverdict, hne, fun heq => ?_⟩
    rw [hmirror heq] at heligible
    cases heligible
  · exact .inr ⟨hverdict, hnil⟩

end Reviewed

theorem not_isGenuine_nil {β : Type} {mirror : β} {reasons : List β} (h : reasons = []) :
    ¬ IsGenuine mirror reasons :=
  fun hgenuine => hgenuine.1 h

/-- The session gate has let the family through. -/
def SessionEligible (session : StrategySessionResult) (family : StrategyFamily) : Prop :=
  ∃ s ∈ session.familyResults, s.family = family ∧ s.verdict = .eligibleForRuntimeReview

/-- **The walk through the account stages**: a family ends there, or the session gate has let it
through. -/
theorem deriveReviewReason_cases (c : Reviewed R i setups session)
    (hsession : p.strategySessionResult = some session)
    (h : family ∈ setups.decision.eligibleFamilies) :
    (¬ SessionEligible session family ∧ Ends family (deriveReviewReason family r p)) ∨
      (SessionEligible session family ∧
        deriveReviewReason family r p = deriveFinalReason family r) := by
  have hcompleted : p.outcome ≠ .blockedBeforeRisk := by
    rw [p.session_iff.mp (by rw [hsession]; rfl)]
    decide
  have hrisk : family ∈ c.risk.familyResults.map RiskFamilyResult.family := by
    rw [c.risk_families]
    exact (List.filter_sublist.map PolicyFamilyResult.family).subset h
  have hportfolio : family ∈ c.portfolio.familyResults.map PortfolioFamilyResult.family := by
    rw [c.portfolio_families]
    exact hrisk
  have hsessions : family ∈ session.familyResults.map SessionFamilyResult.family := by
    rw [SessionGate.families_eq c.session_results.2]
    exact hportfolio
  obtain ⟨k, hk, hkfamily, hfindk⟩ := exists_findByFamily hrisk
  obtain ⟨q, hq, hqfamily, hfindq⟩ := exists_findByFamily hportfolio
  obtain ⟨s, hs, hsfamily, hfinds⟩ := exists_findByFamily hsessions
  -- a family that the session gate lets through was let through by the gates before it
  have hchain (heligible : SessionEligible session family) :
      s.verdict = .eligibleForRuntimeReview ∧ q.verdict = .eligibleForSessionReview ∧
        k.verdict = .eligibleForPortfolioReview := by
    obtain ⟨s', hs', hs'family, hs'verdict⟩ := heligible
    obtain rfl : s' = s :=
      List.inj_on_of_nodup_map c.session_nodup hs' hs (hs'family.trans hsfamily.symm)
    obtain ⟨q', hq', hq'family, hq'verdict, k', hk', hk'family, hk'verdict, -⟩ :=
      c.eligible hs hs'verdict
    obtain rfl : q' = q := List.inj_on_of_nodup_map c.portfolio_nodup hq' hq
      (hq'family.trans (hsfamily.trans hqfamily.symm))
    obtain rfl : k' = k := List.inj_on_of_nodup_map c.ceilings.1 hk' hk
      (hk'family.trans (hsfamily.trans hkfamily.symm))
    exact ⟨hs'verdict, hq'verdict, hk'verdict⟩
  unfold deriveReviewReason
  rw [hsession]
  dsimp only
  rw [if_neg hcompleted, c.risk_eq_strategyRiskResult, c.session_results.1, hfindk, hfindq, hfinds]
  dsimp only [assertFound, bind, Except.bind]
  rcases c.risk_reasons h hk hkfamily with ⟨hblocked, hgenuine⟩ | ⟨hkverdict, hnil⟩
  · rw [if_pos hgenuine]
    refine .inl ⟨fun heligible => ?_, ends_noTradeReason (by simpa using hgenuine.1)⟩
    rw [(hchain heligible).2.2] at hblocked
    cases hblocked
  rw [if_neg (not_isGenuine_nil hnil)]
  rcases c.portfolio_reasons hk hkverdict hq (hqfamily.trans hkfamily.symm) with
    ⟨hblocked, hgenuine⟩ | ⟨hqverdict, hnil⟩
  · rw [if_pos hgenuine]
    refine .inl ⟨fun heligible => ?_, ends_noTradeReason (by simpa using hgenuine.1)⟩
    rw [(hchain heligible).2.1] at hblocked
    cases hblocked
  rw [if_neg (not_isGenuine_nil hnil)]
  rcases c.session_reasons hq hqverdict hs (hsfamily.trans hqfamily.symm) with
    ⟨hblocked, hgenuine⟩ | ⟨hsverdict, hnil⟩
  · rw [if_pos hgenuine]
    refine .inl ⟨fun heligible => ?_, ends_noTradeReason (by simpa using hgenuine.1)⟩
    rw [(hchain heligible).1] at hblocked
    cases hblocked
  rw [if_neg (not_isGenuine_nil hnil)]
  exact .inr ⟨⟨s, hs, hsfamily, hsverdict⟩, rfl⟩

/-- The family is actionable. -/
def Actionable (r : RuntimeCycleResult) (family : StrategyFamily)
    (recommendation : FinalRecommendation) : Prop :=
  ∃ f final, r.finalRecommendationConstructionResult = some f ∧
    findByFamily FinalRecommendationFamilyResult.family f.familyResults family = some final ∧
    final.verdict = .ok recommendation

/-- The last stage of the walk: a family that the session gate has let through ends there, or it
is actionable. -/
theorem deriveFinalReason_cases {f : FinalRecommendationConstructionResult}
    {facts : MT5SymbolSnapshot} {accountCurrency : NonemptyText}
    {tradeIds : StrategyFamily → Option TradeId} {asOf : Timestamp}
    (c : Reviewed R i setups session) (hsession : p.strategySessionResult = some session)
    (hr : r.finalRecommendationConstructionResult = some f)
    (hf : constructFinalRecommendations R p facts accountCurrency tradeIds asOf = .ok f)
    (h : SessionEligible session family) :
    ((∀ recommendation, ¬ Actionable r family recommendation) ∧
        Ends family (deriveFinalReason family r)) ∨
      ((∃ recommendation, Actionable r family recommendation) ∧
        deriveFinalReason family r = .ok none) := by
  obtain ⟨s, hs, hfamily, heligible⟩ := h
  rcases (constructFinalRecommendations_cases hf).2 with ⟨hnone, -⟩ | ⟨session', hsome, hresults⟩
  · rw [hsession] at hnone
    cases hnone
  obtain rfl : session = session' := Option.some.inj (hsession.symm.trans hsome)
  obtain ⟨final', hmem', hok'⟩ := exists_of_mem_left (mapM_ok_forall₂ hresults) hs
  have hfamily' := (FinalConstruction.evaluateFamily_ok hok').1
  obtain ⟨final, hfinal, hffamily, hfind⟩ := exists_findByFamily
    (List.mem_map.mpr ⟨final', hmem', hfamily'.trans hfamily⟩)
  -- the entry that is found is the one of this session verdict
  obtain ⟨s', hs', hok⟩ := exists_of_mem_mapM hresults hfinal
  have hsame : s'.family = s.family :=
    (FinalConstruction.evaluateFamily_ok hok).1.symm.trans (hffamily.trans hfamily.symm)
  obtain rfl : s' = s := List.inj_on_of_nodup_map c.session_nodup hs' hs hsame
  unfold deriveFinalReason
  rw [hr]
  dsimp only
  rw [hfind]
  dsimp only
  rcases hverdict : final.verdict with reason | recommendation
  · have hmirror : reason ≠ .sessionNotEligible := by
      rintro rfl
      exact FinalConstruction.evaluateFamily_mirror hok hverdict heligible
    dsimp only
    rw [if_pos hmirror]
    refine .inl ⟨?_, ends_noTradeReason (List.cons_ne_nil _ _)⟩
    rintro recommendation ⟨f', final', hf', hfind', hok⟩
    cases hr.symm.trans hf'
    cases hfind.symm.trans hfind'
    rw [hverdict] at hok
    cases hok
  · exact .inr ⟨⟨recommendation, f, final, hr, hfind, hverdict⟩, rfl⟩

end

/-! ## One family of a cycle -/

section

variable {R : Rounding} {s : TrackingStore} {c : AdvisoryCycleInput} {result : RuntimeCycleResult}
  {p : DecisionRiskPipelineResult} {recommendation : FinalRecommendation}

/-- The family is stopped nowhere, but the account facts to review it were not ready. -/
def Unreviewed (p : DecisionRiskPipelineResult) (family : StrategyFamily) : Prop :=
  p.outcome = .blockedBeforeRisk ∧ AwaitsRisk p family

/-- The pipeline has looked at the family, and what became of it is known. -/
def Accounted (r : RuntimeCycleResult) (family : StrategyFamily) : Prop :=
  ∃ p, r.decisionRiskPipelineResult = some p ∧ ¬ Unreviewed p family

theorem mem_recommendations_of_actionable {r : RuntimeCycleResult}
    (h : Actionable r family recommendation) :
    recommendation.family = family ∧
      ∃ f, r.finalRecommendationConstructionResult = some f ∧
        recommendation ∈ f.recommendations := by
  obtain ⟨f, final, hf, hfind, hverdict⟩ := h
  obtain ⟨hmem, hfamily⟩ := mem_of_findByFamily hfind
  refine ⟨(final.family_eq recommendation hverdict).trans hfamily, f, hf, ?_⟩
  exact List.mem_filterMap.mpr ⟨final, hmem,
    FinalRecommendationFamilyResult.recommendation_eq_some_iff.mpr hverdict⟩

/-- An actionable family has passed every stage before. -/
theorem passed_of_actionable (trace : CycleTrace R s c result)
    (hp : result.decisionRiskPipelineResult = some p) (h : Actionable result family recommendation) :
    AwaitsRisk p family ∧
      ∃ session, p.strategySessionResult = some session ∧ SessionEligible session family := by
  obtain ⟨rfl, f, hf, hmem⟩ := mem_recommendations_of_actionable h
  obtain ⟨p', facts, account, hp', -, hconstruct⟩ := trace.construction hf
  obtain rfl : p = p' := Option.some.inj (hp.symm.trans hp')
  obtain ⟨assembly, setups, -, -, hreview⟩ := trace.review hp
  have hpassed := passed_of_recommendation hreview hconstruct hmem
  obtain ⟨session, hsession, s', hs', hrecommended, -⟩ := exists_session hconstruct hmem
  exact ⟨⟨hpassed.setup, hpassed.event⟩, session, hsession, s', hs', hrecommended.family.symm,
    hrecommended.eligible⟩

theorem exists_construction (trace : CycleTrace R s c result)
    (hp : result.decisionRiskPipelineResult = some p) (h : AwaitsRisk p family) :
    ∃ f, result.finalRecommendationConstructionResult = some f := by
  rcases hf : result.finalRecommendationConstructionResult with - | f
  · obtain ⟨assembly, setups, -, hsetups, hreview⟩ := trace.review hp
    rw [trace.symbolFacts_eq_none hp hf] at hsetups
    obtain ⟨⟨setup, hsetup, hfamily⟩, hconstructed⟩ := h.1
    obtain ⟨constructed, hok⟩ := hconstructed setup hsetup hfamily
    rw [(riskReview_cases hreview).1] at hsetup
    obtain ⟨reason, hblocked⟩ := constructSetups_of_unknown_symbol hsetups hsetup
    rw [hok] at hblocked
    cases hblocked
  · exact ⟨f, rfl⟩

/-- **What the walk finds of a family**: the stage it ended at, that it is actionable, or that
nothing could review it. -/
theorem walk_cases (trace : CycleTrace R s c result)
    (hp : result.decisionRiskPipelineResult = some p) (family : StrategyFamily) :
    ((¬ Unreviewed p family ∧ ∀ recommendation, ¬ Actionable result family recommendation) ∧
        Ends family (deriveNoTradeReason family result)) ∨
      ((¬ Unreviewed p family ∧ ∃ recommendation, Actionable result family recommendation) ∧
        deriveNoTradeReason family result = .ok none) ∨
      (Unreviewed p family ∧ deriveNoTradeReason family result = .ok none) := by
  rcases deriveNoTradeReason_cases family hp with
    ⟨hnot, hends⟩ | ⟨hawaits, helig, hwalk⟩
  · refine .inl ⟨⟨fun hunreviewed => hnot hunreviewed.2, fun recommendation hactionable => ?_⟩, hends⟩
    exact hnot (passed_of_actionable trace hp hactionable).1
  obtain ⟨assembly, setups, -, -, hreview⟩ := trace.review hp
  obtain ⟨rfl, -, -, hreviewed⟩ := riskReview_cases hreview
  rw [hwalk]
  rcases hsession : p.strategySessionResult with - | session
  · refine .inr (.inr ⟨⟨?_, hawaits⟩, by rw [deriveReviewReason, hsession]⟩)
    cases houtcome : p.outcome with
    | completed =>
        have hsome := p.session_iff.mpr houtcome
        rw [hsession] at hsome
        cases hsome
    | blockedBeforeRisk => rfl
  · have hcompleted : ¬ Unreviewed p family := by
      rintro ⟨hblocked, -⟩
      rw [p.session_iff.mp (by rw [hsession]; rfl)] at hblocked
      cases hblocked
    obtain ⟨reviewed⟩ := hreviewed session hsession
    obtain ⟨f, hf⟩ := exists_construction trace hp hawaits
    obtain ⟨p', facts, account, hp', -, hconstruct⟩ := trace.construction hf
    obtain rfl : p = p' := Option.some.inj (hp.symm.trans hp')
    rcases deriveReviewReason_cases reviewed hsession helig with ⟨hnot, hends⟩ | ⟨heligible, hfinal⟩
    · refine .inl ⟨⟨hcompleted, fun recommendation hactionable => hnot ?_⟩, hends⟩
      obtain ⟨session', hsession', heligible⟩ := (passed_of_actionable trace hp hactionable).2
      cases hsession.symm.trans hsession'
      exact heligible
    · rw [hfinal]
      rcases deriveFinalReason_cases reviewed hsession hf hconstruct heligible with
        ⟨hnone, hends⟩ | ⟨hactionable, hnone⟩
      · exact .inl ⟨⟨hcompleted, hnone⟩, hends⟩
      · exact .inr (.inl ⟨⟨hcompleted, hactionable⟩, hnone⟩)

/-- What one family adds to the mapping of its cycle. -/
inductive Adds (r : RuntimeCycleResult) (family : StrategyFamily) :
    List RecommendationDTO → List NoTradeReasonDTO → Prop
  | silent (h : ¬ Accounted r family)
      (hnone : ∀ recommendation, ¬ Actionable r family recommendation) : Adds r family [] []
  | noTrade (noTrade : NoTradeReasonDTO) (h : Accounted r family)
      (hfamily : noTrade.strategyFamily = family)
      (hnone : ∀ recommendation, Actionable r family recommendation →
        ¬ IsIssuable recommendation.tradeId r) : Adds r family [] [noTrade]
  | exposed (recommendation : FinalRecommendation) (h : Accounted r family)
      (hactionable : Actionable r family recommendation)
      (hissuable : IsIssuable recommendation.tradeId r) :
      Adds r family [mapRecommendation recommendation] []

theorem exists_issuanceReason (trace : CycleTrace R s c result)
    (h : Actionable result family recommendation) :
    ∃ code, deriveIssuanceReason recommendation.tradeId result = .ok code := by
  obtain ⟨-, f, hf, hmem⟩ := mem_recommendations_of_actionable h
  unfold deriveIssuanceReason
  split
  · exact ⟨_, rfl⟩
  · next hguard =>
      rcases trace.outcome_of_recommendation hf hmem with ⟨guard, hsome, hblocked⟩ | hfound
      · rw [hsome] at hguard
        simp [hblocked] at hguard
      · obtain ⟨outcome, houtcome, hid⟩ := hfound
        split
        · split_ifs
          · exact ⟨_, rfl⟩
          · exact ⟨_, rfl⟩
        · next hnone =>
            exact absurd hid (by simpa using List.find?_eq_none.mp hnone outcome houtcome)

theorem Actionable.eq {r : RuntimeCycleResult} {recommendation' : FinalRecommendation}
    (h : Actionable r family recommendation) (h' : Actionable r family recommendation') :
    recommendation = recommendation' := by
  obtain ⟨f, final, hf, hfind, hok⟩ := h
  obtain ⟨f', final', hf', hfind', hok'⟩ := h'
  cases hf.symm.trans hf'
  cases hfind.symm.trans hfind'
  exact Except.ok.inj (hok.symm.trans hok')

/-- **What one family adds to the mapping**, whatever is mapped before it. -/
theorem mapFamily_spec (trace : CycleTrace R s c result) (family : StrategyFamily) :
    ∃ recommendations reasons, Adds result family recommendations reasons ∧
      ∀ mapped, mapFamily result mapped family =
        .ok (mapped.1 ++ recommendations, mapped.2 ++ reasons) := by
  rcases hp : result.decisionRiskPipelineResult with - | p
  · have hnone : result.finalRecommendationConstructionResult = none := by
      rcases hf : result.finalRecommendationConstructionResult with - | f
      · rfl
      · obtain ⟨p, -, -, hsome, -⟩ := trace.construction hf
        rw [hp] at hsome
        cases hsome
    refine ⟨[], [], .silent ?_ ?_, fun mapped => ?_⟩
    · rintro ⟨p, hsome, -⟩
      rw [hp] at hsome
      cases hsome
    · rintro recommendation ⟨f, final, hf, -⟩
      rw [hnone] at hf
      cases hf
    · unfold mapFamily deriveNoTradeReason
      rw [hp, hnone]
      simp [bind, Except.bind, pure, Except.pure]
  rcases walk_cases trace hp family with
    ⟨⟨hreviewed, hnone⟩, noTrade, hfamily, hends⟩ | ⟨⟨hreviewed, recommendation, h⟩, hwalk⟩ |
      ⟨hunreviewed, hwalk⟩
  · refine ⟨[], [noTrade], .noTrade noTrade ⟨p, hp, hreviewed⟩ hfamily ?_, fun mapped => ?_⟩
    · exact fun recommendation hactionable => absurd hactionable (hnone recommendation)
    · unfold mapFamily
      rw [hends, List.append_nil]
      rfl
  · have hmap (mapped : MappedFamilies) : mapFamily result mapped family =
        mapActionable family result mapped recommendation := by
      obtain ⟨f, final, hf, hfind, hverdict⟩ := h
      unfold mapFamily
      rw [hwalk, hf]
      dsimp only [bind, Except.bind]
      rw [hfind]
      dsimp only
      rw [hverdict]
    by_cases hissuable : IsIssuable recommendation.tradeId result
    · refine ⟨[mapRecommendation recommendation], [],
        .exposed recommendation ⟨p, hp, hreviewed⟩ h hissuable, fun mapped => ?_⟩
      rw [hmap, mapActionable, if_pos hissuable, List.append_nil]
    · obtain ⟨code, hcode⟩ := exists_issuanceReason trace h
      refine ⟨[], [⟨family, .issuance, [code], List.cons_ne_nil _ _⟩],
        .noTrade _ ⟨p, hp, hreviewed⟩ rfl ?_, fun mapped => ?_⟩
      · intro recommendation' h'
        rw [← h.eq h']
        exact hissuable
      · rw [hmap, mapActionable, if_neg hissuable, hcode, List.append_nil]
        rfl
  · have hsession (session : StrategySessionResult) : p.strategySessionResult ≠ some session := by
      intro hsession
      have hcompleted := p.session_iff.mp (by rw [hsession]; rfl)
      rw [hunreviewed.1] at hcompleted
      cases hcompleted
    have hactionable (recommendation : FinalRecommendation) :
        ¬ Actionable result family recommendation := by
      intro h
      obtain ⟨session, hsome, -⟩ := (passed_of_actionable trace hp h).2
      exact hsession session hsome
    refine ⟨[], [], .silent ?_ hactionable, fun mapped => ?_⟩
    · rintro ⟨p', hp', hreviewed⟩
      cases hp.symm.trans hp'
      exact hreviewed hunreviewed
    · unfold mapFamily
      rw [hwalk, List.append_nil, List.append_nil]
      rcases hf : result.finalRecommendationConstructionResult with - | f
      · rfl
      · obtain ⟨p', facts, account, hp', -, hconstruct⟩ := trace.construction hf
        cases hp.symm.trans hp'
        rcases (constructFinalRecommendations_cases hconstruct).2 with
          ⟨-, hnil⟩ | ⟨session, hsome, -⟩
        · dsimp only [bind, Except.bind]
          rw [hnil]
          rfl
        · exact absurd hsome (hsession session)

/-! ## The mapping of a cycle -/

/-- How many entries of the mapping are of the family. -/
def entries (mapped : MappedFamilies) (family : StrategyFamily) : ℕ :=
  (mapped.1.filter fun dto => dto.strategyFamily = family).length +
    (mapped.2.filter fun noTrade => noTrade.strategyFamily = family).length

theorem Adds.family_eq {r : RuntimeCycleResult} {recommendations : List RecommendationDTO}
    {reasons : List NoTradeReasonDTO} (h : Adds r family recommendations reasons) :
    (∀ dto ∈ recommendations, dto.strategyFamily = family) ∧
      ∀ noTrade ∈ reasons, noTrade.strategyFamily = family := by
  cases h with
  | silent => simp
  | noTrade noTrade _ hfamily => simpa using hfamily
  | exposed recommendation _ hactionable =>
      simpa [mapRecommendation] using (mem_recommendations_of_actionable hactionable).1

/-- A family adds one entry once it is accounted for, and nothing before. -/
theorem Adds.length {r : RuntimeCycleResult} {recommendations : List RecommendationDTO}
    {reasons : List NoTradeReasonDTO} (h : Adds r family recommendations reasons) :
    recommendations.length + reasons.length ≤ 1 ∧
      (recommendations.length + reasons.length = 1 ↔ Accounted r family) := by
  cases h with
  | silent hnot => simpa using hnot
  | noTrade _ haccounted => simpa using haccounted
  | exposed _ haccounted => simpa using haccounted

/-- A family adds exactly the recommendations of it that were issued. -/
theorem Adds.mem_iff {r : RuntimeCycleResult} {recommendations : List RecommendationDTO}
    {reasons : List NoTradeReasonDTO} (h : Adds r family recommendations reasons)
    (dto : RecommendationDTO) : dto ∈ recommendations ↔ ∃ recommendation,
      Actionable r family recommendation ∧ IsIssuable recommendation.tradeId r ∧
        dto = mapRecommendation recommendation := by
  cases h with
  | silent _ hnone => simpa using fun recommendation hactionable => absurd hactionable (hnone _)
  | noTrade _ _ _ hnone =>
      simpa using fun recommendation hactionable hissuable =>
        absurd hissuable (hnone recommendation hactionable)
  | exposed recommendation _ hactionable hissuable =>
      rw [List.mem_singleton]
      constructor
      · exact fun heq => ⟨recommendation, hactionable, hissuable, heq⟩
      · rintro ⟨recommendation', hactionable', -, heq⟩
        rw [heq, hactionable.eq hactionable']

/-- The pass puts the families' entries one after the other. -/
theorem foldlM_mapFamily {r : RuntimeCycleResult}
    {recommendations : StrategyFamily → List RecommendationDTO}
    {reasons : StrategyFamily → List NoTradeReasonDTO}
    (h : ∀ family mapped, mapFamily r mapped family =
      .ok (mapped.1 ++ recommendations family, mapped.2 ++ reasons family))
    (families : List StrategyFamily) (mapped : MappedFamilies) :
    families.foldlM (mapFamily r) mapped =
      .ok (mapped.1 ++ families.flatMap recommendations, mapped.2 ++ families.flatMap reasons) := by
  induction families generalizing mapped with
  | nil => simp [pure, Except.pure]
  | cons family families ih =>
      rw [List.foldlM_cons, h]
      dsimp only [bind, Except.bind]
      rw [ih, List.flatMap_cons, List.flatMap_cons, List.append_assoc, List.append_assoc]

/-- **Every family of a cycle is accounted for.** For every result of a cycle the mapping succeeds;
a family has at most one entry, a recommendation or a no-trade reason, and it has one exactly when
the pipeline has looked at it, except where it awaits account stages whose facts were not ready;
and the recommendations are those whose tracking was created and persisted. -/
theorem families_accounted (R : Rounding) (s : TrackingStore) (c : AdvisoryCycleInput)
    (result : RuntimeCycleResult) (h : runtimeCycleResult R s c = .ok result) :
    ∃ mapped, mapRecommendations result.toProductionCycle = .ok mapped ∧
      (∀ family, entries mapped family ≤ 1 ∧
        (entries mapped family = 1 ↔ Accounted result family)) ∧
      ∀ dto, dto ∈ mapped.1 ↔ ∃ family recommendation, Actionable result family recommendation ∧
        IsIssuable recommendation.tradeId result ∧ dto = mapRecommendation recommendation := by
  rcases runtimeCycleResult_cases h with rfl | ⟨hconnected, ⟨trace⟩⟩
  · refine ⟨([], []), rfl, fun family => ?_, fun dto => ?_⟩
    · have hnot : ¬ Accounted { outcome := .blocked } family := by
        rintro ⟨p, hp, -⟩
        cases hp
      exact ⟨Nat.zero_le _, iff_of_false Nat.zero_ne_one hnot⟩
    · refine iff_of_false List.not_mem_nil ?_
      rintro ⟨family, recommendation, ⟨f, final, hf, -⟩, -⟩
      cases hf
  choose recommendations reasons hadds hmap using mapFamily_spec trace
  have hmapped : mapRecommendations result.toProductionCycle =
      .ok (StrategyFamily.order.flatMap recommendations, StrategyFamily.order.flatMap reasons) := by
    have houtcome : result.toProductionCycle.outcome ≠ .serviceUnavailable := by
      intro hunavailable
      rw [RuntimeCycleResult.toProductionCycle, if_neg hconnected] at hunavailable
      cases hunavailable
    rw [mapRecommendations, if_neg houtcome]
    exact foldlM_mapFamily hmap StrategyFamily.order ([], [])
  have horder (family : StrategyFamily) : family ∈ StrategyFamily.order := by
    cases family <;> decide
  refine ⟨_, hmapped, fun family => ?_, fun dto => ?_⟩
  · have hrecommendations := filter_flatMap_of_nodup StrategyFamily.order_nodup
      (fun k => (hadds k).family_eq.1) (horder family)
    have hreasons := filter_flatMap_of_nodup StrategyFamily.order_nodup
      (fun k => (hadds k).family_eq.2) (horder family)
    rw [entries, hrecommendations, hreasons]
    exact (hadds family).length
  · rw [List.mem_flatMap]
    constructor
    · rintro ⟨family, -, hmem⟩
      obtain ⟨recommendation, hactionable⟩ := ((hadds family).mem_iff dto).mp hmem
      exact ⟨family, recommendation, hactionable⟩
    · rintro ⟨family, recommendation, hactionable⟩
      exact ⟨family, horder family, ((hadds family).mem_iff dto).mpr ⟨recommendation, hactionable⟩⟩

/-! ## Samples -/

/-- A cycle in which trend following is recommended. -/
def sampleAdvisoryCycle : AdvisoryCycleInput where
  asOf := minutes 60
  connectivityAvailable := true
  accountFacts := some { equity := 100000, floatingPnl := 0, marginMode := .netting, currency := usd }
  readStatus _ := .valid
  rolloverPolicy := { rolloverTimezone := utc }
  rolloverDocument := none
  tradingDayKey := "1970-01-01"
  tradingDayStart := 0
  tradingDayEnd := hours 24
  historyDeals _ _ := (.ok, [])
  positionsReadStatus := .ok
  positions := []
  symbolFacts _ := some sampleSymbol
  mt5Symbol := btcusdt
  decision := trendDecision
  m15MarketStructure := some sampleStructure
  tradingCycleConfig := PortfolioSupervisor.defaultConfig
  tradeIds := sampleTradeId 1

theorem families_accounted_sample : ∃ result mapped,
    runtimeCycleResult .decimal28 ∅ sampleAdvisoryCycle = .ok result ∧
      mapRecommendations result.toProductionCycle = .ok mapped ∧
      ∀ family, entries mapped family ≤ 1 ∧
        (entries mapped family = 1 ↔ Accounted result family) := by
  have hrun : (runtimeCycleResult .decimal28 ∅ sampleAdvisoryCycle).isOk = true := by decide +kernel
  obtain ⟨result, hresult⟩ := isOk_iff.mp hrun
  obtain ⟨mapped, hmapped, hentries, -⟩ :=
    families_accounted .decimal28 ∅ sampleAdvisoryCycle result hresult
  exact ⟨result, mapped, hresult, hmapped, hentries⟩

/-- The same cycle, with a rollover document that cannot be parsed. -/
def corruptRolloverCycle : AdvisoryCycleInput :=
  { sampleAdvisoryCycle with rolloverFault := some .corrupt }

/-- Trend following has a setup there, and neither a recommendation nor a no-trade reason. -/
theorem unreviewed_family_unreported :
    ¬ ∀ result p, runtimeCycleResult .decimal28 ∅ corruptRolloverCycle = .ok result →
      result.decisionRiskPipelineResult = some p →
      ∃ mapped, mapRecommendations result.toProductionCycle = .ok mapped ∧
        ∀ family, entries mapped family = 1 := by
  have hrun : (runtimeCycleResult .decimal28 ∅ corruptRolloverCycle).map (fun result =>
      (result.decisionRiskPipelineResult.isSome, (mapRecommendations result.toProductionCycle).map
        fun mapped => entries mapped .trendFollowing)) = .ok (true, .ok 0) := by decide +kernel
  obtain ⟨result, hresult, hmapped⟩ := map_ok_iff.mp hrun
  rw [Prod.mk.injEq] at hmapped
  obtain ⟨p, hp⟩ := Option.isSome_iff_exists.mp hmapped.1
  obtain ⟨mapped, hok, hentries⟩ := map_ok_iff.mp hmapped.2
  intro h
  obtain ⟨mapped', hok', hone⟩ := h result p hresult hp
  cases hok.symm.trans hok'
  have hfamily := hone .trendFollowing
  omega

end

end TradingAdvisor
