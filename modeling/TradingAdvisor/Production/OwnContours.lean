import TradingAdvisor.MarketEvaluation.Evaluator
import TradingAdvisor.Production.Config

/-!
# The pipeline and its own contours

A cycle evaluates the flow of the exchange symbol and the technical state of the broker symbol.
Both engines stamp upper-case symbols; the evaluator reads the flow symbol as it is written.

* `evaluateOwnContours` — the evaluation of a cycle;
* **`accepts_own_contours_iff`** — it succeeds exactly for an upper-case exchange symbol.
-/

namespace TradingAdvisor

open Checks

variable {F H B T : Type} (m : CaseMapping)

/-- The technical result of a cycle; any fetch failure discards it. -/
def currentTechnical (result : Option (TechnicalProductionResult T)) :
    Option TechnicalSupervisorResult :=
  (result.filter fun r => r.fetchFailures = []).map TechnicalProductionResult.technical

/-- The evaluation of a cycle; no external contour is wired. -/
def evaluateOwnContours (config : ProductionAdvisoryConfig F) (asOf : Timestamp)
    (flow : FlowSupervisorResult) (technical : Option (TechnicalProductionResult T)) :
    Except MarketEvaluationInputError MarketEvaluationResult :=
  MarketEvaluator.evaluate m (some flow) (currentTechnical technical) none config.context asOf
    config.symbolMapping.mt5Symbol

/-- The exchange symbol is written in upper case. -/
def UpperCase (config : ProductionAdvisoryConfig F) : Prop :=
  m.upper config.symbolMapping.binanceSymbol.val = config.symbolMapping.binanceSymbol.val

variable {m} {config : ProductionAdvisoryConfig F} {asOf : Timestamp} {fc : FlowComponents H B}
  {tc : TechnicalComponents T} {provider : OHLCVProvider} {timeframes : List Timeframe}
  {fe fe' : FlowFeatureEngine H} {te te' : TechnicalFeatureEngine T} {flow : FlowSupervisorResult}
  {technical : Option (TechnicalProductionResult T)}

/-- The technical contour is accepted under every spelling of the broker symbol. -/
theorem own_technical_accepted
    (h : buildTechnicalResult m tc provider timeframes te config.symbolMapping.mt5Symbol
      config.contractType asOf = .ok (technical, te')) :
    ∀ r ∈ currentTechnical technical,
      (m.upper r.identity.symbol.val = m.upper config.symbolMapping.mt5Symbol.val ∧
        r.identity.contractType = config.context.contractType) ∧
      r.identity.observationTime ≤ asOf := by
  intro r hr
  obtain ⟨result, hresult, rfl⟩ := Option.map_eq_some_iff.mp hr
  obtain ⟨rfl, -⟩ := Option.filter_eq_some_iff.mp hresult
  obtain ⟨hsymbol, hcontract, htime⟩ := buildTechnicalResult_identity h
  exact ⟨⟨by rw [hsymbol, m.upper_upper], hcontract⟩, htime.le⟩

/-- **A cycle accepts its own contours exactly when the exchange symbol is in upper case.** -/
theorem accepts_own_contours_iff
    (hflow : buildFlowResult m fc fe config.symbolMapping.binanceSymbol.val config.contractType
      asOf = .ok (flow, fe'))
    (htechnical : buildTechnicalResult m tc provider timeframes te config.symbolMapping.mt5Symbol
      config.contractType asOf = .ok (technical, te')) :
    (evaluateOwnContours m config asOf flow technical).isOk = true ↔ UpperCase m config := by
  obtain ⟨hsymbol, hcontract, htime⟩ := buildFlowResult_identity hflow
  have htech := own_technical_accepted htechnical
  rw [evaluateOwnContours, marketEvaluation_ok_iff, UpperCase, ← hsymbol]
  constructor
  · intro h
    exact congrArg Subtype.val (h.flowScope flow rfl).1
  · intro h
    refine ⟨?_, ?_, fun r hr => (htech r hr).1, fun r hr => (htech r hr).2, by rintro r ⟨⟩⟩
    · rintro r ⟨⟩
      exact ⟨Subtype.ext h, hcontract⟩
    · rintro r ⟨⟩
      exact htime.le

/-- Analysts that always abstain, over no history. -/
def silentFlow : FlowComponents Unit Unit where
  withCapacity := ()
  compute := fun _ _ _ _ _ => ()
  provenance := fun _ => [("taker_flow", "flow_engine")]
  append := fun _ _ => ()
  interpret := fun _ snapshot => (.abstained, .unavailable, snapshot.provenance)

/-- Analysts that always abstain. -/
def silentTechnical : TechnicalComponents Unit where
  compute := fun _ _ _ _ => ()
  interpret := fun _ _ => (.abstained, .unavailable, [])

/-- A configuration with this exchange symbol. -/
def sampleConfig (binanceSymbol : Symbol) : ProductionAdvisoryConfig ℚ where
  symbolMapping :=
    { logicalSymbol := btcusdt, binanceSymbol, mt5Symbol := ⟨"BTCUSD.a", by decide⟩ }
  contractType := .perpetual
  market := .crypto
  rolloverPolicy := { rolloverTimezone := utc }
  rolloverStatePath := "rollover.json"
  trackingDirectory := "tracking"
  provenanceDirectory := "provenance"
  calendarBridgePath := "calendar.json"
  calendarServerTimezone := utc
  onChainPair := onChainPair_none
  llmConfig_isSome := by decide

/-- The flow result of the sample configuration at the epoch. -/
def sampleFlow (binanceSymbol : Symbol) :=
  buildFlowResult CaseMapping.ascii silentFlow ⟨[], ∅⟩
    (sampleConfig binanceSymbol).symbolMapping.binanceSymbol.val
    (sampleConfig binanceSymbol).contractType 0

/-- The technical result of the sample configuration at the epoch. -/
def sampleTechnical (binanceSymbol : Symbol) :=
  buildTechnicalResult CaseMapping.ascii silentTechnical (fun _ _ _ _ => .ok [])
    [.m1, .m5, .m15, .h1, .h4] ⟨∅⟩ (sampleConfig binanceSymbol).symbolMapping.mt5Symbol
    (sampleConfig binanceSymbol).contractType 0

/-- An upper-case exchange symbol is accepted, next to a mixed-case broker symbol. -/
theorem accepts_btcusdt : ∃ flow technical,
    sampleFlow btcusdt = .ok flow ∧ sampleTechnical btcusdt = .ok technical ∧
      (evaluateOwnContours CaseMapping.ascii (sampleConfig btcusdt) 0 flow.1 technical.1).isOk =
        true := by
  have hflow : (sampleFlow btcusdt).isOk = true := by decide +kernel
  have htechnical : (sampleTechnical btcusdt).isOk = true := by decide +kernel
  obtain ⟨flow, hflow⟩ := isOk_iff.mp hflow
  obtain ⟨technical, htechnical⟩ := isOk_iff.mp htechnical
  refine ⟨flow, technical, hflow, htechnical, ?_⟩
  have hupper : UpperCase CaseMapping.ascii (sampleConfig btcusdt) := by
    unfold UpperCase
    decide +kernel
  exact (accepts_own_contours_iff hflow htechnical).mpr hupper

/-- A lower-case exchange symbol. -/
def btcusdtLower : Symbol := ⟨"btcusdt", by decide⟩

/-- The flow of a lower-case exchange symbol is refused by the evaluator of its own cycle. -/
theorem refuses_btcusdt_lower : ∃ flow technical,
    sampleFlow btcusdtLower = .ok flow ∧ sampleTechnical btcusdtLower = .ok technical ∧
      evaluateOwnContours CaseMapping.ascii (sampleConfig btcusdtLower) 0 flow.1 technical.1 =
        .error (.scopeMismatch "flow result (symbol, contract_type) does not match context") := by
  have hflow : (sampleFlow btcusdtLower).isOk = true := by decide +kernel
  have htechnical : (sampleTechnical btcusdtLower).isOk = true := by decide +kernel
  obtain ⟨flow, hflow⟩ := isOk_iff.mp hflow
  obtain ⟨technical, htechnical⟩ := isOk_iff.mp htechnical
  refine ⟨flow, technical, hflow, htechnical, evaluate_flow_mismatch fun h => ?_⟩
  have hupper := (buildFlowResult_identity hflow).1
  rw [h] at hupper
  exact absurd hupper (by decide +kernel)

end TradingAdvisor
