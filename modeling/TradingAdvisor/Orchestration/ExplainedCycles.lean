import TradingAdvisor.Application.Identity
import TradingAdvisor.Application.NoTradeAccounting
import TradingAdvisor.Orchestration.Explanation

/-!
# Every cycle is explained

A cycle runs under trade ids that no document has yet. Its report then names different trades, so
whatever the client does the cycle is explained, and a fact that an explanation cites is one fact of
the context.

* `ExplanationContext.allFacts` — the facts that may be cited;
* **`cycles_explained`** — the explanations of the cycles of a logical id.
-/

namespace TradingAdvisor

open SignificantDigits Checks Paths

/-- The facts that a narrative may cite. -/
def ExplanationContext.allFacts (context : ExplanationContext) : List GroundedFact :=
  context.facts ++ (context.warnings ++
    (context.recommendationFacts.flatten ++ context.trackingFacts.flatten))

theorem factIds_eq (context : ExplanationContext) :
    context.factIds = context.allFacts.map GroundedFact.factId := by
  rw [ExplanationContext.allFacts, List.map_append, List.map_append, List.map_append]
  rfl

variable {R : Rounding} {s : TrackingStore} {c : ObservedCycle} {report : CycleReport}

theorem symbol_of_nettingGuard {c : AdvisoryCycleInput} {marginMode : AccountPositionMode}
    {advanced : List (TradeId × MT5TrackedRecommendation)} {count : ℕ} {guard : NettingGuardResult}
    (h : guard ∈ c.nettingGuard marginMode advanced count) : guard.symbol = c.mt5Symbol := by
  unfold AdvisoryCycleInput.nettingGuard at h
  split_ifs at h
  · cases h
  · cases h
    rfl

theorem symbol_of_issuance {c : AdvisoryCycleInput}
    {advanced : List (TradeId × MT5TrackedRecommendation)}
    {construction : Option FinalRecommendationConstructionResult} {issuance : Issuance}
    (h : c.issuance advanced construction = .ok issuance) {guard : NettingGuardResult}
    (hguard : guard ∈ issuance.nettingGuardResult) : guard.symbol = c.mt5Symbol := by
  unfold AdvisoryCycleInput.issuance at h
  rcases construction with - | f
  · cases h
    cases hguard
  · rcases hfacts : c.accountFacts with - | facts
    · rw [hfacts] at h
      cases h
    · rw [hfacts] at h
      dsimp only at h
      split_ifs at h
      · obtain ⟨outcomes, -, h⟩ := bind_ok_iff.mp h
        cases h
        exact symbol_of_nettingGuard hguard
      · cases h
        exact symbol_of_nettingGuard hguard

theorem symbol_of_guard (h : cycleReport R s c = .ok report) {guard : NettingGuardResult}
    (hguard : guard ∈ report.nettingGuardResult) : guard.symbol = c.mt5Symbol := by
  have hresult : runtimeCycleResult R s c.toAdvisoryCycleInput =
      .ok report.toRuntimeCycleResult := by
    rw [← cycleReport_result, h]
    rfl
  rcases runtimeCycleResult_cases hresult with hblocked | ⟨-, ⟨trace⟩⟩
  · rw [hblocked] at hguard
    cases hguard
  · rw [trace.guard_eq] at hguard
    exact symbol_of_issuance trace.issuance_eq hguard

theorem readable_of_plain (h : cycleReport R s c = .ok report)
    (hplain : Plain ':' ' ' c.mt5Symbol.val.toList) : report.Readable := by
  intro guard hguard
  rw [symbol_of_guard h (Option.filter_eq_some_iff.mp hguard).1]
  exact hplain

/-- **Every cycle is explained.** Under a logical id of which no document exists yet, whatever the
client does the cycle is explained, exactly when the guard's warning can be read back, as it can for
a symbol without the separator; the facts of the cycle have different ids, so each fact that an
explanation cites is one fact of the context; and the explanation is grounded in the cycle. -/
theorem cycles_explained (R : Rounding) (formatDecimal : ℚ → String) (s : TrackingStore)
    (c : ObservedCycle) (logicalCycleId : LogicalCycleId)
    (hids : c.tradeIds = deriveTradeIds logicalCycleId)
    (hfresh : ∀ family, deriveTradeId logicalCycleId family ∉ s) (report : CycleReport)
    (h : cycleReport R s c = .ok report) :
    ((∀ client, ∃ calls r, explainRuntimeCycle formatDecimal report client = (calls, .ok r)) ↔
        report.Readable) ∧
      (Plain ':' ' ' c.mt5Symbol.val.toList → report.Readable) ∧
      (buildExplanationContext report formatDecimal).factIds.Nodup ∧
      ∀ client calls r, explainRuntimeCycle formatDecimal report client = (calls, .ok r) →
        Grounded formatDecimal report r ∧
          ∀ id ∈ r.citedFactIds, ∃! fact,
            fact ∈ (buildExplanationContext report formatDecimal).allFacts ∧ fact.factId = id := by
  have hdistinct : report.Distinct := by
    refine distinct_of_fresh ?_ (fun family => ?_) h
    · intro family family' heq
      rw [hids] at heq
      exact (deriveTradeId_injective heq).2
    · rw [hids]
      exact hfresh family
  have hnodup := factIds_nodup formatDecimal hdistinct
  refine ⟨?_, readable_of_plain h, hnodup, fun client calls r hr => ?_⟩
  · rw [(explained_iff formatDecimal report).1]
    exact ⟨And.right, And.intro (cardsDistinct_of_distinct hdistinct)⟩
  · obtain ⟨-, -, hgrounded⟩ := explained_sound hr
    refine ⟨hgrounded, fun id hid => ?_⟩
    have hmem := hgrounded.cited id hid
    rw [factIds_eq] at hmem hnodup
    obtain ⟨fact, hfact, rfl⟩ := List.mem_map.mp hmem
    refine ⟨fact, ⟨hfact, rfl⟩, fun other hother => ?_⟩
    exact List.inj_on_of_nodup_map hnodup hother.1 hfact hother.2

/-- The logical id of the sample. -/
def explainedCycleId : LogicalCycleId := ⟨"explained-cycle", by decide +kernel⟩

/-- The sample cycle, under trade ids of its logical id. -/
def explainedSample : ObservedCycle :=
  { sampleAdvisoryCycle with
    tradeIds := deriveTradeIds explainedCycleId
    runtimeStatus := { state := .available, reason_absent := fun _ => rfl }
    connected := rfl }

theorem cycles_explained_sample : ∃ report, cycleReport .decimal28 ∅ explainedSample = .ok report ∧
    report.recommendations.length = 1 ∧ report.trackedIds.length = 1 ∧
    ∀ client, ∃ calls r, explainRuntimeCycle (fun _ => "") report client = (calls, .ok r) := by
  have hrun : (cycleReport .decimal28 ∅ explainedSample).map (fun report =>
      (report.recommendations.length, report.trackedIds.length)) = .ok (1, 1) := by
    decide +kernel
  obtain ⟨report, hreport, hcounts⟩ := map_ok_iff.mp hrun
  rw [Prod.mk.injEq] at hcounts
  obtain ⟨hexplained, hplain, -⟩ := cycles_explained .decimal28 (fun _ => "") ∅ explainedSample
    explainedCycleId rfl (fun _ => AList.notMem_empty _) report hreport
  exact ⟨report, hreport, hcounts.1, hcounts.2, hexplained.mpr (hplain (by decide +kernel))⟩

end TradingAdvisor
