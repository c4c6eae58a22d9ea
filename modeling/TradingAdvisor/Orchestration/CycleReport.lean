import TradingAdvisor.Orchestration.CycleResult
import TradingAdvisor.Orchestration.DocumentIsolation
import TradingAdvisor.Orchestration.RiskBudget

/-!
# The report of a runtime cycle

A cycle reports every part it has computed, also when a later part could not be. The report adds to
the result of the cycle what it has read, what it has advanced and what it has issued.

* `ObservedCycle` — the input of a cycle, with the state of the connection;
* `CycleReport`, `cycleReport` — the report;
* **`cycleReport_result`**: without these additions the report is the result of the cycle;
* `Distinct`, **`distinct_of_fresh`** — the trade ids of a report name different trades.
-/

namespace TradingAdvisor

open SignificantDigits Checks VersionedStore

/-! ## Vocabulary -/

/-- Coarse state of the local terminal and account. -/
inductive MT5ConnectivityState
  | available
  | initializationFailed
  | loginFailed
  | terminalUnavailable
  | accountUnavailable
  deriving DecidableEq, Repr

/-- The state of the connection; a reason is given only against one. -/
structure MT5RuntimeStatus where
  state : MT5ConnectivityState
  reason : Option NonemptyText := none
  reason_absent : state = .available → reason = none

/-- A document advanced in the cycle, and whether it was written. -/
structure AdvancedTrackedRecommendationOutcome where
  tradeId : TradeId
  trackedRecommendation : MT5TrackedRecommendation
  persisted : Bool

/-- The creation of the tracking of one recommendation, with its provenance. -/
structure TrackedRecommendationConstructionResult where
  tradeId : TradeId
  trackedRecommendation : Option MT5TrackedRecommendation
  provenance : FinalRecommendationProvenance
  provenance_tradeId : provenance.tradeId = tradeId
  tracked_tradeId : ∀ tracked ∈ trackedRecommendation, tracked.positionRecord.tradeId = tradeId

/-- How the creation went. -/
def TrackedRecommendationConstructionResult.outcome (r : TrackedRecommendationConstructionResult) :
    MT5TrackedRecommendationCreationOutcome :=
  if r.trackedRecommendation.isSome then .created else .snapshotUnavailable

/-- The input of a cycle, with the state of the connection. -/
structure ObservedCycle extends AdvisoryCycleInput where
  runtimeStatus : MT5RuntimeStatus
  connected : connectivityAvailable = decide (runtimeStatus.state = .available)

/-- Everything that a cycle reports. -/
structure CycleReport extends RuntimeCycleResult where
  asOf : Timestamp
  mt5RuntimeStatus : MT5RuntimeStatus
  accountFacts : Option AccountFacts := none
  accountPositionMode : Option AccountPositionMode := none
  positionsReadStatus : Option MT5PositionsReadStatus := none
  historyReadStatus : Option MT5HistoryReadStatus := none
  targetSymbolFactsAvailable : Option Bool := none
  rolloverSnapshot : Option MT5RolloverSnapshot := none
  realizedDailyPnlAssessment : Option MT5RealizedDailyPnLAssessment := none
  openRiskAssessment : Option MT5OpenRiskAssessment := none
  accountRiskSnapshotAssembly : Option AccountRiskSnapshotAssembly := none
  newTrackingResults : List TrackedRecommendationConstructionResult := []
  advancedTracking : List AdvancedTrackedRecommendationOutcome := []
  excludedTrackedRecommendations : List ExcludedTrackedRecommendation := []

namespace AdvisoryCycleInput

variable (R : Rounding) (c : AdvisoryCycleInput)

/-! ## The parts of the report -/

/-- The documents that cannot be read. -/
def excluded (s : TrackingStore) : List ExcludedTrackedRecommendation :=
  ((sortedPairs (· ≤ ·) s).filter fun doc => c.readStatus doc.1 ≠ .valid).map fun doc =>
    ⟨doc.1, c.readStatus doc.1⟩

/-- The outcome of one advanced document. -/
def advancedOutcome (doc : TradeId × MT5TrackedRecommendation) :
    AdvancedTrackedRecommendationOutcome where
  tradeId := doc.1
  trackedRecommendation := doc.2
  persisted := c.writes.advanced doc.1

/-- The assembly of the three facts, once there are all of them. -/
def assembleFacts (rollover : Option MT5RolloverSnapshot)
    (realized : Option MT5RealizedDailyPnLAssessment) (openRisk : Option MT5OpenRiskAssessment) :
    Except ModelError (Option AccountRiskSnapshotAssembly) :=
  match rollover, realized, openRisk with
  | some rollover, some realized, some openRisk =>
      some <$> assembleAccountRiskSnapshot c.asOf rollover realized openRisk
  | _, _, _ => return none

/-- Create the tracking of one recommendation. -/
def trackRecommendation (recommendation : FinalRecommendation) :
    Except ModelError TrackedRecommendationConstructionResult := do
  let created ← createTrackedRecommendation (recommendationRecord recommendation)
    recommendation.approvedVolume c.positionsReadStatus c.positions
  if h : ∀ tracked ∈ created, tracked.positionRecord.tradeId = recommendation.tradeId then
    return {
      tradeId := recommendation.tradeId
      trackedRecommendation := created
      provenance := {
        tradeId := recommendation.tradeId
        family := recommendation.family
        approvedRiskAmount := recommendation.approvedRiskAmount
        accountCurrency := recommendation.accountCurrency }
      provenance_tradeId := rfl
      tracked_tradeId := h }
  else .error (.validation "tracking_creation_result's trade_id must equal trade_id")

/-- Write what was created; both writes are attempted. -/
def persistenceOutcome (r : TrackedRecommendationConstructionResult) :
    TrackingIssuancePersistenceOutcome where
  tradeId := r.tradeId
  trackingCreationOutcome := r.outcome
  trackingPersisted := r.trackedRecommendation.isSome && c.writes.tracking r.provenance.family
  provenancePersisted := r.trackedRecommendation.isSome && c.writes.provenance r.provenance.family

/-- The guard's evaluation, and the tracking of what it lets through. -/
def newTracking (advanced : List (TradeId × MT5TrackedRecommendation))
    (construction : Option FinalRecommendationConstructionResult) :
    Except ModelError (Option NettingGuardResult × List TrackedRecommendationConstructionResult) :=
  match construction, c.accountFacts with
  | none, _ => .ok (none, [])
  | some _, none => .error .assertion
  | some f, some facts =>
      let actionableCount := f.recommendations.length
      let guard := c.nettingGuard facts.marginMode advanced actionableCount
      if IssuanceAllowed guard actionableCount then
        (guard, ·) <$> f.recommendations.mapM c.trackRecommendation
      else .ok (guard, [])

/-- The issuance of a report. -/
def reportedIssuance (r : Option NettingGuardResult × List TrackedRecommendationConstructionResult) :
    Issuance where
  nettingGuardResult := r.1
  newTrackingPersistenceOutcomes := r.2.map c.persistenceOutcome

end AdvisoryCycleInput

variable (R : Rounding)

/-- One cycle, with everything it reports. -/
def cycleReport (s : TrackingStore) (c : ObservedCycle) : Except RuntimeCycleError CycleReport :=
  if c.connectivityAvailable then do
    let history := c.history s
    let advanced ← ((c.toRuntimeCycleInput none).advanced R s).mapError RuntimeCycleError.model
    let rollover ← (runRollover c.rolloverDocument c.rolloverCycle).mapError RuntimeCycleError.model
    let realized := if history.status = .ok then some (c.realizedDailyPnl R history.deals) else none
    let openRisk ← (c.openRisk R).mapError RuntimeCycleError.model
    let assembly ← (c.assembleFacts rollover.1 realized openRisk).mapError RuntimeCycleError.model
    let drp ← (c.pipeline R assembly).mapError RuntimeCycleError.risk
    let construction ← (c.finalConstruction R drp).mapError RuntimeCycleError.final
    let tracking ← (c.newTracking advanced construction).mapError RuntimeCycleError.model
    let issuance := c.reportedIssuance tracking
    return {
      asOf := c.asOf
      outcome := if c.Degraded s advanced assembly issuance then .partialDegraded else .ready
      mt5RuntimeStatus := c.runtimeStatus
      accountFacts := c.accountFacts
      accountPositionMode := c.accountFacts.map AccountFacts.marginMode
      positionsReadStatus := some c.positionsReadStatus
      historyReadStatus := some history.status
      targetSymbolFactsAvailable := some (c.symbolFacts c.mt5Symbol).isSome
      rolloverSnapshot := rollover.1
      realizedDailyPnlAssessment := realized
      openRiskAssessment := openRisk
      accountRiskSnapshotAssembly := assembly
      decisionRiskPipelineResult := drp
      finalRecommendationConstructionResult := construction
      nettingGuardResult := issuance.nettingGuardResult
      newTrackingResults := tracking.2
      newTrackingPersistenceOutcomes := issuance.newTrackingPersistenceOutcomes
      advancedTracking := advanced.map c.advancedOutcome
      excludedTrackedRecommendations := c.excluded s }
  else .ok { asOf := c.asOf, outcome := .blocked, mt5RuntimeStatus := c.runtimeStatus }

/-! ## The report and the result -/

variable {R} {s : TrackingStore}

theorem createTracked_record {record : PositionRecord} {volume : PositiveRat}
    {status : MT5PositionsReadStatus} {positions : List MT5Position}
    {created : Option MT5TrackedRecommendation}
    (h : createTrackedRecommendation record volume status positions = .ok created) :
    ∀ tracked ∈ created, tracked.positionRecord = record := by
  dsimp only [createTrackedRecommendation] at h
  split_ifs at h
  · cases h
    intro tracked htracked
    cases htracked
  · obtain ⟨tracked, htracked, rfl⟩ := map_ok_iff.mp h
    cases (MT5TrackedRecommendation.construct_ok_iff.mp htracked).2
    rintro _ ⟨⟩
    rfl

namespace AdvisoryCycleInput

variable {c : AdvisoryCycleInput}

theorem issueRecommendation_eq (recommendation : FinalRecommendation) :
    c.issueRecommendation recommendation =
      (c.trackRecommendation recommendation).map c.persistenceOutcome := by
  unfold issueRecommendation trackRecommendation
  rcases hcreated : createTrackedRecommendation (recommendationRecord recommendation)
    recommendation.approvedVolume c.positionsReadStatus c.positions with e | created
  · rfl
  · have hids : ∀ tracked ∈ created, tracked.positionRecord.tradeId = recommendation.tradeId := by
      intro tracked htracked
      rw [createTracked_record hcreated tracked htracked]
      rfl
    cases created with
    | none => rfl
    | some tracked =>
        dsimp only [bind, Except.bind]
        rw [dif_pos hids]
        rfl

theorem issuance_eq (advanced : List (TradeId × MT5TrackedRecommendation))
    (construction : Option FinalRecommendationConstructionResult) :
    c.issuance advanced construction =
      (c.newTracking advanced construction).map c.reportedIssuance := by
  unfold issuance newTracking
  rcases construction with - | f
  · rfl
  · rcases c.accountFacts with - | facts
    · rfl
    · dsimp only
      split_ifs
      · rw [mapM_congr (g := fun r => (c.trackRecommendation r).map c.persistenceOutcome)
          fun r _ => issueRecommendation_eq r, mapM_map_ok]
        cases f.recommendations.mapM c.trackRecommendation <;> rfl
      · rfl

theorem assembly_eq (h : HistoryRead) :
    c.assembly R h = (do
      let rollover ← runRollover c.rolloverDocument c.rolloverCycle
      let openRisk ← c.openRisk R
      let realized := if h.status = .ok then some (c.realizedDailyPnl R h.deals) else none
      c.assembleFacts rollover.1 realized openRisk) := by
  unfold assembly assembleFacts
  rfl

end AdvisoryCycleInput

theorem mapError_bind {ε ε' α β : Type} {f : ε → ε'} {x : Except ε α} {g : α → Except ε β} :
    (x >>= g).mapError f = x.mapError f >>= fun a => (g a).mapError f := by
  cases x <;> rfl

theorem mapError_map {ε ε' α β : Type} {f : ε → ε'} {g : α → β} {x : Except ε α} :
    (x.map g).mapError f = (x.mapError f).map g := by
  cases x <;> rfl

/-- **Without its additions the report of a cycle is the result of the cycle.** -/
theorem cycleReport_result (s : TrackingStore) (c : ObservedCycle) :
    (cycleReport R s c).map CycleReport.toRuntimeCycleResult =
      runtimeCycleResult R s c.toAdvisoryCycleInput := by
  unfold cycleReport runtimeCycleResult
  split_ifs
  · dsimp only
    rw [bind_map]
    congr 1
    funext advanced
    rw [AdvisoryCycleInput.assembly_eq, mapError_bind, bind_map, bind_assoc]
    congr 1
    funext rollover
    rw [mapError_bind, bind_map, bind_assoc]
    congr 1
    funext openRisk
    dsimp only
    rw [bind_map]
    congr 1
    funext assembly
    rw [bind_map]
    congr 1
    funext drp
    rw [bind_map]
    congr 1
    funext construction
    rw [AdvisoryCycleInput.issuance_eq, mapError_map]
    rcases (c.newTracking advanced construction).mapError RuntimeCycleError.model with e | tracking
    · rfl
    · rfl
  · rfl

/-! ## The trade ids of a report -/

namespace CycleReport

/-- The recommendations of the report. -/
def recommendations (r : CycleReport) : List FinalRecommendation :=
  r.finalRecommendationConstructionResult.elim []
    FinalRecommendationConstructionResult.recommendations

/-- The trade ids advanced in the cycle, and those issued by it. -/
def trackedIds (r : CycleReport) : List TradeId :=
  r.advancedTracking.map AdvancedTrackedRecommendationOutcome.tradeId ++
    r.newTrackingResults.map TrackedRecommendationConstructionResult.tradeId

/-- The trade ids of the report name different trades. -/
structure Distinct (r : CycleReport) : Prop where
  recommended : (r.recommendations.map FinalRecommendation.tradeId).Nodup
  tracked : r.trackedIds.Nodup
  excluded : (r.excludedTrackedRecommendations.map ExcludedTrackedRecommendation.tradeId).Nodup
  issued : r.newTrackingPersistenceOutcomes.map TrackingIssuancePersistenceOutcome.tradeId =
    r.newTrackingResults.map TrackedRecommendationConstructionResult.tradeId

end CycleReport

section TradeIds

variable {p : DecisionRiskPipelineResult} {symbolFacts : MT5SymbolSnapshot}
  {accountCurrency : NonemptyText} {tradeIds : StrategyFamily → TradeId} {asOf : Timestamp}
  {f : FinalRecommendationConstructionResult} {recommendation : FinalRecommendation}

theorem mem_recommendations :
    recommendation ∈ f.recommendations ↔ ∃ r ∈ f.familyResults, r.verdict = .ok recommendation := by
  simp [FinalRecommendationConstructionResult.recommendations,
    FinalRecommendationFamilyResult.recommendation_eq_some_iff]

/-- A recommendation has the trade id of its family. -/
theorem tradeId_of_mem_recommendations
    (hf : constructFinalRecommendations R p symbolFacts accountCurrency
      (fun family => some (tradeIds family)) asOf = .ok f)
    (h : recommendation ∈ f.recommendations) :
    recommendation.tradeId = tradeIds recommendation.family := by
  obtain ⟨r, hr, hverdict⟩ := mem_recommendations.mp h
  rcases (constructFinalRecommendations_cases hf).2 with ⟨-, hnil⟩ | ⟨session, -, hresults⟩
  · rw [hnil] at hr
    cases hr
  · obtain ⟨s, -, hs⟩ := exists_of_mem_mapM hresults hr
    have hrecommended := (FinalConstruction.evaluateFamily_ok hs).2 recommendation hverdict
    rw [hrecommended.family]
    exact (Option.some.inj hrecommended.tradeId).symm

/-- No family has two recommendations. -/
theorem recommendations_families_nodup {i : ReviewInput} {setups : StrategySetups}
    (hp : riskReview R i setups = .ok p)
    (hf : constructFinalRecommendations R p symbolFacts accountCurrency
      (fun family => some (tradeIds family)) asOf = .ok f) :
    (f.recommendations.map FinalRecommendation.family).Nodup := by
  have hfamilies : (f.familyResults.map FinalRecommendationFamilyResult.family).Nodup := by
    rw [f.covers, (constructFinalRecommendations_cases hf).1]
    rcases hsession : p.strategySessionResult with - | session
    · exact List.nodup_nil
    · obtain ⟨reviewed⟩ := (riskReview_cases hp).2.2.2 session hsession
      exact reviewed.session_nodup
  refine hfamilies.sublist (Keyed.map_filterMap_sublist ?_ f.familyResults)
  intro r recommendation h
  exact r.family_eq recommendation
    (FinalRecommendationFamilyResult.recommendation_eq_some_iff.mp h)

end TradeIds

/-- The trade ids of new tracking are those of the recommendations, or there is none. -/
theorem newTracking_tradeIds {c : AdvisoryCycleInput}
    {advanced : List (TradeId × MT5TrackedRecommendation)}
    {construction : Option FinalRecommendationConstructionResult}
    {tracking : Option NettingGuardResult × List TrackedRecommendationConstructionResult}
    (h : c.newTracking advanced construction = .ok tracking) :
    tracking.2 = [] ∨ ∃ f, construction = some f ∧
      tracking.2.map TrackedRecommendationConstructionResult.tradeId =
        f.recommendations.map FinalRecommendation.tradeId := by
  unfold AdvisoryCycleInput.newTracking at h
  rcases construction with - | f
  · cases h
    exact .inl rfl
  · rcases hfacts : c.accountFacts with - | facts
    · rw [hfacts] at h
      cases h
    · rw [hfacts] at h
      dsimp only at h
      split_ifs at h
      · obtain ⟨results, hresults, rfl⟩ := map_ok_iff.mp h
        refine .inr ⟨f, rfl, map_eq_of_forall₂ (mapM_ok_forall₂ hresults) ?_⟩
        intro recommendation result hresult
        obtain ⟨created, -, hresult⟩ := bind_ok_iff.mp hresult
        by_cases hids : ∀ tracked ∈ created,
            tracked.positionRecord.tradeId = recommendation.tradeId
        · rw [dif_pos hids] at hresult
          cases hresult
          rfl
        · rw [dif_neg hids] at hresult
          cases hresult
      · cases h
        exact .inl rfl

/-- The pipeline behind the final recommendations of a cycle. -/
theorem construction_of_pipeline {c : AdvisoryCycleInput}
    {assembly : Option AccountRiskSnapshotAssembly} {drp : Option DecisionRiskPipelineResult}
    {f : FinalRecommendationConstructionResult} (hdrp : c.pipeline R assembly = .ok drp)
    (hf : c.finalConstruction R drp = .ok (some f)) :
    ∃ (i : ReviewInput) (setups : StrategySetups) (p : DecisionRiskPipelineResult)
      (symbolFacts : MT5SymbolSnapshot) (facts : AccountFacts),
      riskReview R i setups = .ok p ∧
        constructFinalRecommendations R p symbolFacts facts.currency
          (fun family => some (c.tradeIds family)) c.asOf = .ok f := by
  unfold AdvisoryCycleInput.finalConstruction at hf
  split at hf
  · next p facts symbolFacts _ _ =>
      obtain ⟨f', hok, heq⟩ := map_ok_iff.mp hf
      cases heq
      unfold AdvisoryCycleInput.pipeline at hdrp
      split at hdrp
      · cases hdrp
      · next a =>
          obtain ⟨p', hrun, heq⟩ := map_ok_iff.mp hdrp
          cases heq
          obtain ⟨setups, -, hreview⟩ := bind_ok_iff.mp hrun
          exact ⟨_, setups, _, symbolFacts, facts, hreview, hok⟩
  · cases hf

/-- The recommendations of a cycle have the trade ids of different families. -/
theorem recommended_of_pipeline {c : AdvisoryCycleInput} (hinj : Function.Injective c.tradeIds)
    {assembly : Option AccountRiskSnapshotAssembly} {drp : Option DecisionRiskPipelineResult}
    {f : FinalRecommendationConstructionResult} (hdrp : c.pipeline R assembly = .ok drp)
    (hf : c.finalConstruction R drp = .ok (some f)) :
    (f.recommendations.map FinalRecommendation.tradeId).Nodup ∧
      ∀ recommendation ∈ f.recommendations,
        recommendation.tradeId = c.tradeIds recommendation.family := by
  obtain ⟨i, setups, p, symbolFacts, facts, hreview, hok⟩ := construction_of_pipeline hdrp hf
  have hids (recommendation : FinalRecommendation) (hmem : recommendation ∈ f.recommendations) :=
    tradeId_of_mem_recommendations hok hmem
  refine ⟨?_, hids⟩
  have heq : f.recommendations.map FinalRecommendation.tradeId =
      (f.recommendations.map FinalRecommendation.family).map c.tradeIds := by
    rw [List.map_map]
    exact List.map_congr_left hids
  rw [heq]
  exact (recommendations_families_nodup hreview hok).map hinj

theorem loaded_mem_keys {c : RuntimeCycleInput} {k : TradeId}
    (h : k ∈ (c.loaded s).map Prod.fst) : k ∈ s := by
  obtain ⟨⟨k', t⟩, hmem, rfl⟩ := List.mem_map.mp h
  exact AList.lookup_isSome.mp (by rw [(mem_loaded.mp hmem).1]; rfl)

theorem excluded_nodup (c : AdvisoryCycleInput) (s : TrackingStore) :
    ((c.excluded s).map ExcludedTrackedRecommendation.tradeId).Nodup := by
  have hsorted := sortedPairs_pairwise_ne (· ≤ · : TradeId → TradeId → Prop) s
  rw [AdvisoryCycleInput.excluded, List.map_map]
  exact List.pairwise_map.mpr ((hsorted.imp And.right).filter _)

/-- **The trade ids of a report name different trades**, when those of the cycle are different and
not in use. -/
theorem distinct_of_fresh {c : ObservedCycle} {report : CycleReport}
    (hinj : Function.Injective c.tradeIds) (hfresh : ∀ family, c.tradeIds family ∉ s)
    (h : cycleReport R s c = .ok report) : report.Distinct := by
  unfold cycleReport at h
  split_ifs at h
  · obtain ⟨advanced, hadvanced, h⟩ := bind_ok_iff.mp h
    obtain ⟨rollover, -, h⟩ := bind_ok_iff.mp h
    obtain ⟨openRisk, -, h⟩ := bind_ok_iff.mp h
    obtain ⟨assembly, -, h⟩ := bind_ok_iff.mp h
    obtain ⟨drp, hdrp, h⟩ := bind_ok_iff.mp h
    obtain ⟨construction, hconstruction, h⟩ := bind_ok_iff.mp h
    obtain ⟨tracking, htracking, h⟩ := bind_ok_iff.mp h
    rw [mapError_ok_iff] at hadvanced hdrp hconstruction htracking
    have hadvancedIds : (advanced.map c.advancedOutcome).map
        AdvancedTrackedRecommendationOutcome.tradeId =
          ((c.toRuntimeCycleInput none).loaded s).map Prod.fst := by
      rw [List.map_map]
      exact advanceAll_keys hadvanced
    have hrecommended : (construction.elim []
        FinalRecommendationConstructionResult.recommendations).map FinalRecommendation.tradeId
          |>.Nodup := by
      rcases construction with - | f
      · exact List.nodup_nil
      · exact (recommended_of_pipeline hinj hdrp hconstruction).1
    have hissued : (tracking.2.map TrackedRecommendationConstructionResult.tradeId).Nodup ∧
        ∀ k ∈ tracking.2.map TrackedRecommendationConstructionResult.tradeId, k ∉ s := by
      rcases newTracking_tradeIds htracking with hnil | ⟨f, rfl, heq⟩
      · rw [hnil]
        exact ⟨List.nodup_nil, List.forall_mem_nil _⟩
      · rw [heq]
        obtain ⟨hnodup, hids⟩ := recommended_of_pipeline hinj hdrp hconstruction
        refine ⟨hnodup, fun k hk => ?_⟩
        obtain ⟨recommendation, hmem, rfl⟩ := List.mem_map.mp hk
        rw [hids recommendation hmem]
        exact hfresh _
    cases h
    refine ⟨hrecommended, ?_, excluded_nodup _ s, ?_⟩
    · refine List.Nodup.append ?_ hissued.1 ?_
      · rw [hadvancedIds]
        exact loaded_keys_nodup
      · intro k hold hnew
        rw [hadvancedIds] at hold
        exact hissued.2 k hnew (loaded_mem_keys hold)
    · exact List.map_map
  · cases h
    exact ⟨List.nodup_nil, List.nodup_nil, List.nodup_nil, rfl⟩

end TradingAdvisor
