import TradingAdvisor.Decision.PolicyGate
import TradingAdvisor.Statistics.SessionGate

/-!
# Stage results cannot be forged

Every stage result carries what it was derived from, and its model derives the verdicts again. A
result that passes the checks of its model is therefore the one the stage computes.

* `RiskGate.accepted_iff`, `PortfolioSupervisor.evaluate_of_accepted`, `SessionGate.accepted_iff` —
  the results of the single stages;
* **`stage_results_unforgeable`**: the results of all four.
-/

namespace TradingAdvisor

open SignificantDigits Checks Keyed Recheck

variable {R : Rounding}

/-! ## The risk gate -/

variable (R) in
/-- The family results and the whole pass their checks. -/
def StrategyRiskResult.Accepted (r : StrategyRiskResult) : Prop :=
  (∀ f ∈ r.familyResults, f.validate = .ok ()) ∧ r.validate R = .ok ()

namespace RiskGate

variable {policy : StrategyPolicyResult} {candidates : List CandidateRiskInput}
  {risk : StrategyRiskResult} {p : PolicyFamilyResult} {r : RiskFamilyResult}

theorem figures_of_validate (h : r.validate = .ok ()) (hverdict : r.verdict = .blockedByRisk) :
    r.maxIndividualRisk = none ∧ r.recommendedUnits = none := by
  simp only [RiskFamilyResult.validate, check_bind_ok, hverdict, check_ok_iff] at h
  exact h.2.2.2.2.2

/-- Of the family results that pass their own checks, the comparison accepts the one the gate
computes. -/
theorem validateFamily_ok_iff (hfamily : r.family = p.family) (hvalid : r.validate = .ok ()) :
    risk.validateFamily R (p, r) = .ok () ↔
      evaluateFamily R risk.candidateInputs
        (accountRiskState R risk.accountSnapshot risk.tradingCycleConfig) p = .ok r := by
  refine ⟨fun h => ?_, validateFamily_of_evaluateFamily⟩
  have hfigures := figures_of_validate hvalid
  obtain ⟨family, verdict, reasons, maxIndividualRisk, recommendedUnits⟩ := r
  dsimp only at hfamily hfigures
  subst hfamily
  unfold evaluateFamily
  unfold StrategyRiskResult.validateFamily at h
  dsimp only at h
  cases hp : p.verdict
  · rw [hp] at h
    dsimp only at h ⊢
    cases hcandidate : candidateFor risk.candidateInputs p.family with
    | none =>
        rw [hcandidate] at h
        cases h
    | some candidate =>
        rw [hcandidate] at h
        simp only [check_bind_ok, check_ok_iff] at h
        obtain ⟨rfl, rfl, rfl, rfl⟩ := h
        exact construct_ok_iff.mpr ⟨hvalid, rfl⟩
  · rw [hp] at h
    simp only [check_bind_ok, check_ok_iff] at h
    obtain ⟨rfl, rfl⟩ := h
    obtain ⟨rfl, rfl⟩ := hfigures rfl
    exact construct_ok_iff.mpr ⟨hvalid, rfl⟩

theorem rederives (risk : StrategyRiskResult) :
    Rederives PolicyFamilyResult.family RiskFamilyResult.family
      (evaluateFamily R risk.candidateInputs
        (accountRiskState R risk.accountSnapshot risk.tradingCycleConfig))
      (fun r => r.validate = .ok ()) (risk.validateFamily R) where
  keyed _ _ h := (evaluateFamily_cases h).1
  owned p r h := by
    unfold evaluateFamily at h
    split at h
    · obtain ⟨hvalid, rfl⟩ := construct_ok_iff.mp h
      exact hvalid
    · split at h
      · cases h
      · obtain ⟨hvalid, rfl⟩ := construct_ok_iff.mp h
        exact hvalid
  accepts _ _ h := validateFamily_of_evaluateFamily h
  forces _ _ hkey hown h := (validateFamily_ok_iff hkey hown).mp h

/-! ### The candidates -/

theorem validateCandidate_of_mem {seen : List StrategyFamily} {candidate : CandidateRiskInput}
    (hseen : candidate.family ∉ seen) (hmem : candidate.family ∈ policy.eligibleFamilies) :
    validateCandidate policy seen candidate = .ok () := by
  obtain ⟨q, hq, hfamily⟩ := List.mem_map.mp hmem
  obtain ⟨hq, hverdict⟩ := List.mem_filter.mp hq
  refine check_bind_ok.mpr ⟨hseen, ?_⟩
  have hfind : (policy.familyResults.find? fun r => r.family = candidate.family).isSome := by
    rw [List.find?_isSome]
    exact ⟨q, hq, by simpa using hfamily⟩
  obtain ⟨q', hq'⟩ := Option.isSome_iff_exists.mp hfind
  have hfamily' : q'.family = candidate.family := by simpa using List.find?_some hq'
  obtain rfl : q' = q := List.inj_on_of_nodup_map policy.families_nodup
    (List.mem_of_find?_eq_some hq') hq (hfamily'.trans hfamily.symm)
  rw [hq']
  have heligible : q'.verdict = .eligibleForRiskReview := by simpa using hverdict
  exact check_ok_iff.mpr (by rw [heligible]; decide)

theorem validateCandidates_of_nodup {seen : List StrategyFamily}
    (hnodup : (candidates.map CandidateRiskInput.family).Nodup)
    (h : ∀ c ∈ candidates, c.family ∉ seen ∧ c.family ∈ policy.eligibleFamilies) :
    validateCandidates policy seen candidates =
      .ok (seen ++ candidates.map CandidateRiskInput.family) := by
  induction candidates generalizing seen with
  | nil => simp [validateCandidates]
  | cons candidate rest ih =>
      obtain ⟨hnot, hnodup⟩ := List.nodup_cons.mp hnodup
      obtain ⟨hcandidate, hrest⟩ := List.forall_mem_cons.mp h
      have htail : ∀ c ∈ rest,
          c.family ∉ seen ++ [candidate.family] ∧ c.family ∈ policy.eligibleFamilies := by
        refine fun c hc => ⟨fun hmem => ?_, (hrest c hc).2⟩
        rcases List.mem_append.mp hmem with hmem | hmem
        · exact (hrest c hc).1 hmem
        · exact hnot (List.mem_singleton.mp hmem ▸ List.mem_map_of_mem hc)
      refine unit_bind_ok_iff.mpr ⟨validateCandidate_of_mem hcandidate.1 hcandidate.2, ?_⟩
      rw [ih hnodup htail, List.append_assoc]
      rfl

/-- The gate accepts the candidates exactly when the result model does. -/
theorem validateCandidateInputs_ok_iff :
    validateCandidateInputs policy candidates = .ok () ↔
      (candidates.map CandidateRiskInput.family).Nodup ∧
        candidates.map CandidateRiskInput.family ⊆ policy.eligibleFamilies ∧
        policy.eligibleFamilies ⊆ candidates.map CandidateRiskInput.family := by
  refine ⟨validateCandidateInputs_ok, ?_⟩
  rintro ⟨hnodup, hsub, hcover⟩
  have hseen : validateCandidates policy [] candidates =
      .ok ([] ++ candidates.map CandidateRiskInput.family) :=
    validateCandidates_of_nodup hnodup fun c hc =>
      ⟨List.not_mem_nil, hsub (List.mem_map_of_mem hc)⟩
  refine bind_ok_iff.mpr ⟨_, hseen, forM_ok_iff.mpr fun q hq => check_ok_iff.mpr fun hverdict => ?_⟩
  exact hcover (List.mem_map_of_mem (List.mem_filter.mpr ⟨hq, by simpa using hverdict⟩))

/-! ### The whole result -/

theorem evaluate_inputs {account : AccountRiskSnapshot} {config : TradingCycleConfig}
    (h : evaluate R policy account candidates config = .ok risk) :
    risk.strategyPolicyResult = policy ∧ risk.tradingCycleConfig = config ∧
      risk.accountSnapshot = account ∧ risk.candidateInputs = candidates := by
  obtain ⟨-, h⟩ := unit_bind_ok_iff.mp h
  obtain ⟨_, -, h⟩ := bind_ok_iff.mp h
  dsimp only at h
  split at h
  · cases h
    exact ⟨rfl, rfl, rfl, rfl⟩
  · cases h

theorem accepted_iff_mapM :
    risk.Accepted R ↔
      validateCandidateInputs risk.strategyPolicyResult risk.candidateInputs = .ok () ∧
        risk.outcome = riskOutcome risk.familyResults ∧
        risk.strategyPolicyResult.familyResults.mapM (evaluateFamily R risk.candidateInputs
          (accountRiskState R risk.accountSnapshot risk.tradingCycleConfig)) =
          .ok risk.familyResults := by
  rw [← (rederives risk).accepted_iff, validateCandidateInputs_ok_iff]
  simp only [StrategyRiskResult.Accepted, StrategyRiskResult.validate, check_bind_ok]
  tauto

/-- **A result is accepted exactly when the gate computes it from what it carries.** -/
theorem accepted_iff :
    risk.Accepted R ↔
      evaluate R risk.strategyPolicyResult risk.accountSnapshot risk.candidateInputs
        risk.tradingCycleConfig = .ok risk := by
  constructor
  · intro h
    obtain ⟨hcandidates, houtcome, hresults⟩ := accepted_iff_mapM.mp h
    have hvalid := h.2
    obtain ⟨policy, config, account, candidates, outcome, familyResults⟩ := risk
    dsimp only at hcandidates houtcome hresults
    subst houtcome
    simp only [evaluate, hcandidates, hresults, hvalid, bind, Except.bind]
  · intro h
    obtain ⟨hcandidates, h⟩ := unit_bind_ok_iff.mp h
    obtain ⟨familyResults, hresults, h⟩ := bind_ok_iff.mp h
    dsimp only at h
    split at h
    · have hrisk := Except.ok.inj h
      have hfamilies : familyResults = risk.familyResults := by rw [← hrisk]
      have houtcome : risk.outcome = riskOutcome familyResults := by rw [← hrisk]
      exact accepted_iff_mapM.mpr ⟨hcandidates, hfamilies ▸ houtcome, hfamilies ▸ hresults⟩
    · cases h

end RiskGate

/-! ## The portfolio supervisor -/

variable (R) in
/-- The family results and the whole pass their checks. -/
def StrategyPortfolioResult.Accepted (r : StrategyPortfolioResult) : Prop :=
  (∀ f ∈ r.familyResults, f.validate = .ok ()) ∧ r.validate R = .ok ()

namespace PortfolioSupervisor

variable {portfolio : StrategyPortfolioResult}

/-- The checks of the result leave the family results no choice. -/
theorem familyResults_of_validate
    (hnodup : (portfolio.strategyRiskResult.familyResults.map RiskFamilyResult.family).Nodup)
    (h : portfolio.validate R = .ok ()) :
    portfolio.outcome = portfolioOutcome portfolio.familyResults ∧
      portfolio.familyResults = expectedFamilies R portfolio.strategyRiskResult := by
  simp only [StrategyPortfolioResult.validate, check_bind_ok] at h
  obtain ⟨hfamilies, houtcome, h⟩ := h
  obtain ⟨hexpected, -⟩ := unit_bind_ok_iff.mp h
  refine ⟨houtcome, eq_map_of_keys hfamilies fun r hr f hf hkey => ?_⟩
  have hkeys : ((expectedGroupResults R portfolio.strategyRiskResult).map Prod.fst).Nodup := by
    simpa [expectedGroupResults, Function.comp_def] using hnodup
  have hlookup := lastOf_of_nodup hkeys (List.mem_map_of_mem hr)
  have hcheck := forM_ok_iff.mp hexpected f hf
  rw [StrategyPortfolioResult.validateExpected, hkey, hlookup] at hcheck
  simp only [check_bind_ok, check_ok_iff] at hcheck
  obtain ⟨family, verdict, reasons, allocation⟩ := f
  obtain ⟨rfl, rfl, rfl⟩ := hcheck
  cases hkey
  rfl

/-- **On a valid risk result only what the supervisor computes is accepted.** -/
theorem evaluate_of_accepted (hrisk : portfolio.strategyRiskResult.Accepted R)
    (h : portfolio.Accepted R) : evaluate R portfolio.strategyRiskResult = .ok portfolio := by
  obtain ⟨hnodup, hceiling⟩ := ceiling_of_evaluate (RiskGate.accepted_iff.mp hrisk)
  obtain ⟨houtcome, hresults⟩ := familyResults_of_validate hnodup h.2
  have hcandidate : candidateResult portfolio.strategyRiskResult
      (expectedFamilies R portfolio.strategyRiskResult) = portfolio := by
    obtain ⟨risk, outcome, familyResults⟩ := portfolio
    dsimp only at houtcome hresults
    rw [candidateResult, houtcome, hresults]
  rw [evaluate_eq hceiling, hcandidate]
  exact unit_bind_ok_iff.mpr ⟨h.2, rfl⟩

end PortfolioSupervisor

/-! ## The session gate -/

variable (R) in
/-- The family results and the whole pass their checks. -/
def StrategySessionResult.Accepted (r : StrategySessionResult) : Prop :=
  (∀ f ∈ r.familyResults, f.validate = .ok ()) ∧ r.validate R = .ok ()

namespace SessionGate

variable {session : StrategySessionResult} {r : PortfolioFamilyResult} {s : SessionFamilyResult}

/-- Of the family results that pass their own checks, the comparison accepts the one the gate
computes. -/
theorem evaluateFamily_of_validateExpected (hfamily : s.family = r.family)
    (hvalid : s.validate = .ok ()) (h : session.validateExpected (r, s) = .ok ()) :
    evaluateFamily session.sessionStatus r = .ok s := by
  obtain ⟨family, verdict, reasons, allocation⟩ := s
  dsimp only at hfamily
  subst hfamily
  obtain ⟨expected, hexpected, h⟩ := bind_ok_iff.mp h
  simp only [check_bind_ok, check_ok_iff] at h
  obtain ⟨rfl, rfl, rfl⟩ := h
  unfold expectedSessionResult at hexpected
  unfold evaluateFamily
  by_cases hblocked : r.verdict = .blockedByPortfolio
  · rw [if_pos hblocked] at hexpected ⊢
    cases hexpected
    exact construct_ok_iff.mpr ⟨hvalid, rfl⟩
  rw [if_neg hblocked] at hexpected ⊢
  by_cases hactive : session.sessionStatus = .active
  · rw [if_pos hactive] at hexpected ⊢
    cases hexpected
    exact construct_ok_iff.mpr ⟨hvalid, rfl⟩
  rw [if_neg hactive] at hexpected ⊢
  rcases hreason : sessionReasonByStatus session.sessionStatus with _ | reason
  · rw [hreason] at hexpected
    cases hexpected
  · rw [hreason] at hexpected
    cases hexpected
    exact construct_ok_iff.mpr ⟨hvalid, rfl⟩

theorem rederives (session : StrategySessionResult) :
    Rederives PortfolioFamilyResult.family SessionFamilyResult.family
      (evaluateFamily session.sessionStatus) (fun s => s.validate = .ok ())
      session.validateExpected where
  keyed _ _ h := (evaluateFamily_cases h).1
  owned r s h := by
    unfold evaluateFamily at h
    split_ifs at h
    · obtain ⟨hvalid, rfl⟩ := construct_ok_iff.mp h
      exact hvalid
    · obtain ⟨hvalid, rfl⟩ := construct_ok_iff.mp h
      exact hvalid
    · split at h
      · obtain ⟨hvalid, rfl⟩ := construct_ok_iff.mp h
        exact hvalid
      · cases h
  accepts _ _ h := validateExpected_of_evaluateFamily h
  forces _ _ hkey hown h := evaluateFamily_of_validateExpected hkey hown h

theorem accepted_iff_mapM :
    session.Accepted R ↔
      session.sessionStatus =
          deriveSessionStatus R session.strategyPortfolioResult session.lockedOverride ∧
        session.outcome = sessionOutcome session.familyResults ∧
        session.strategyPortfolioResult.familyResults.mapM (evaluateFamily session.sessionStatus) =
          .ok session.familyResults := by
  rw [← (rederives session).accepted_iff]
  simp only [StrategySessionResult.Accepted, StrategySessionResult.validate, check_bind_ok]
  have hreachable (h : session.sessionStatus =
      deriveSessionStatus R session.strategyPortfolioResult session.lockedOverride) :
      session.sessionStatus ∈
        ([.active, .lossLimitReached, .targetReached, .locked] : List TradingSessionStatus) :=
    h ▸ deriveSessionStatus_mem
  tauto

/-- **A result is accepted exactly when the gate computes it from what it carries.** -/
theorem accepted_iff :
    session.Accepted R ↔
      evaluate R session.strategyPortfolioResult session.lockedOverride = .ok session := by
  constructor
  · intro h
    obtain ⟨hstatus, houtcome, hresults⟩ := accepted_iff_mapM.mp h
    have hvalid := h.2
    obtain ⟨portfolio, lockedOverride, status, outcome, familyResults⟩ := session
    dsimp only at hstatus houtcome hresults
    subst hstatus houtcome
    exact bind_ok_iff.mpr ⟨familyResults, hresults, unit_bind_ok_iff.mpr ⟨hvalid, rfl⟩⟩
  · intro h
    obtain ⟨familyResults, hresults, h⟩ := bind_ok_iff.mp h
    obtain ⟨-, h⟩ := unit_bind_ok_iff.mp h
    have hsession := Except.ok.inj h
    rw [accepted_iff_mapM, ← hsession]
    exact ⟨rfl, rfl, hresults⟩

theorem evaluate_inputs {portfolio : StrategyPortfolioResult} {lockedOverride : Bool}
    (h : evaluate R portfolio lockedOverride = .ok session) :
    session.strategyPortfolioResult = portfolio ∧ session.lockedOverride = lockedOverride := by
  obtain ⟨_, -, h⟩ := bind_ok_iff.mp h
  obtain ⟨-, h⟩ := unit_bind_ok_iff.mp h
  cases h
  exact ⟨rfl, rfl⟩

end SessionGate

/-! ## All four stages -/

/-- **A policy, risk or session result is accepted exactly when its status, outcome and family
results are what its stage computes from what it carries; a portfolio result only then.** -/
theorem stage_results_unforgeable (R : Rounding) :
    (∀ r : PolicyGate.StrategyPolicyResult, r.Accepted ↔
      ∃ computed, PolicyGate.apply r.strategyJudgeResult = .ok computed ∧
        r.outcome = computed.outcome ∧ r.familyResults = computed.familyResults) ∧
    (∀ r : StrategyRiskResult, r.Accepted R ↔
      ∃ computed, RiskGate.evaluate R r.strategyPolicyResult r.accountSnapshot r.candidateInputs
          r.tradingCycleConfig = .ok computed ∧
        r.outcome = computed.outcome ∧ r.familyResults = computed.familyResults) ∧
    (∀ r : StrategyPortfolioResult, r.strategyRiskResult.Accepted R → r.Accepted R →
      ∃ computed, PortfolioSupervisor.evaluate R r.strategyRiskResult = .ok computed ∧
        r.outcome = computed.outcome ∧ r.familyResults = computed.familyResults) ∧
    (∀ r : StrategySessionResult, r.Accepted R ↔
      ∃ computed, SessionGate.evaluate R r.strategyPortfolioResult r.lockedOverride = .ok computed ∧
        r.sessionStatus = computed.sessionStatus ∧
        r.outcome = computed.outcome ∧ r.familyResults = computed.familyResults) := by
  refine ⟨fun r => ?_, fun r => ?_, fun r hrisk h => ?_, fun r => ?_⟩
  · rw [PolicyGate.accepted_iff]
    refine ⟨fun h => ⟨r, h, rfl, rfl⟩, ?_⟩
    rintro ⟨computed, h, houtcome, hresults⟩
    have hr : r = computed := by
      have hjudge := PolicyGate.apply_judge h
      cases r
      cases computed
      simp_all
    rw [h, ← hr]
  · rw [RiskGate.accepted_iff]
    refine ⟨fun h => ⟨r, h, rfl, rfl⟩, ?_⟩
    rintro ⟨computed, h, houtcome, hresults⟩
    have hr : r = computed := by
      have hinputs := RiskGate.evaluate_inputs h
      cases r
      cases computed
      simp_all
    rw [h, ← hr]
  · exact ⟨r, PortfolioSupervisor.evaluate_of_accepted hrisk h, rfl, rfl⟩
  · rw [SessionGate.accepted_iff]
    refine ⟨fun h => ⟨r, h, rfl, rfl, rfl⟩, ?_⟩
    rintro ⟨computed, h, hstatus, houtcome, hresults⟩
    have hr : r = computed := by
      have hinputs := SessionGate.evaluate_inputs h
      cases r
      cases computed
      simp_all
    rw [h, ← hr]

/-- A risk result whose only family policy has blocked. -/
def blockedRisk : StrategyRiskResult where
  strategyPolicyResult := ⟨[⟨.trendFollowing, .blocked⟩], by decide⟩
  tradingCycleConfig := PortfolioSupervisor.defaultConfig
  accountSnapshot := PortfolioSupervisor.narrowAccount
  candidateInputs := []
  outcome := .noRiskEligibleFamily
  familyResults :=
    [{ family := .trendFollowing, verdict := .blockedByRisk, reasons := [.policyNotEligible] }]

/-- The portfolio result of the blocked family. -/
def blockedPortfolio : StrategyPortfolioResult where
  strategyRiskResult := blockedRisk
  outcome := .noPortfolioEligibleFamily
  familyResults :=
    [{ family := .trendFollowing, verdict := .blockedByPortfolio, reasons := [.riskNotEligible] }]

/-- The session result of the blocked family, in a given state of the session. -/
def blockedSession (sessionStatus : TradingSessionStatus) : StrategySessionResult where
  strategyPortfolioResult := blockedPortfolio
  sessionStatus
  outcome := .noSessionEligibleFamily
  familyResults := [{
    family := .trendFollowing, verdict := .blockedBySession, reasons := [.portfolioNotEligible] }]

/-- A session that is not locked rejects a result that says so, though the outcome and the family
results are the ones the gate computes. -/
theorem false_lock_rejected :
    (blockedRisk.Accepted .decimal28 ∧ blockedPortfolio.Accepted .decimal28) ∧
      ¬ (blockedSession .locked).Accepted .decimal28 ∧
      ∃ computed, SessionGate.evaluate .decimal28 (blockedSession .locked).strategyPortfolioResult
          (blockedSession .locked).lockedOverride = .ok computed ∧
        (blockedSession .locked).outcome = computed.outcome ∧
        (blockedSession .locked).familyResults = computed.familyResults := by
  refine ⟨⟨⟨by decide, by decide +kernel⟩, by decide, by decide +kernel⟩, fun h => ?_, ?_⟩
  · exact absurd h.2 (by decide +kernel)
  · have hactive : (blockedSession .active).Accepted .decimal28 := ⟨by decide, by decide +kernel⟩
    exact ⟨blockedSession .active, SessionGate.accepted_iff.mp hactive, rfl, rfl⟩

end TradingAdvisor
