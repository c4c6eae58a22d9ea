import TradingAdvisor.Orchestration.ExplanationContext

/-!
# The explanation of a cycle

A completed cycle is explained in words. The words may come from a client that is not trusted: its
answer is used only if it tells about every card, in order, and cites facts of the context alone.
Otherwise the words come from fixed templates.

* `renderDeterministicFallback` — the templates;
* `validateNarrative`, `explainRuntimeCycle` — the check of an answer, and the explanation;
* `Grounded`, **`explained_iff`**: an explanation is made, whatever the client does, exactly when
  the cards name different trades and a warning can be read back.
-/

namespace TradingAdvisor

open Checks Paths

/-! ## Narratives -/

/-- The words about one recommendation. -/
structure RecommendationExplanation where
  tradeId : TradeId
  family : StrategyFamily
  narrative : NonemptyText
  citedFactIds : List String := []

/-- The words about one tracked recommendation. -/
structure TrackingExplanation where
  tradeId : TradeId
  narrative : NonemptyText
  citedFactIds : List String := []

/-- All that a client may say. -/
structure ExplanationNarrative where
  headline : NonemptyText
  cycleSummary : NonemptyText
  recommendationExplanations : List RecommendationExplanation := []
  trackingExplanations : List TrackingExplanation := []
  noTradeExplanation : Option String := none
  warnings : List String := []
  dataQualityNotes : List String := []
  riskNotes : List String := []

/-- The input of one call; the error is there only on the retry. -/
structure ExplanationRequest where
  context : ExplanationContext
  previousValidationError : Option String := none
  deriving DecidableEq

/-- How a call ends: it raises, or it answers, perhaps with nothing that has the right shape. -/
inductive ClientAnswer
  | raised
  | answered (narrative : Option ExplanationNarrative)

/-- A client: its answer to a request, after the earlier ones. -/
abbrev ExplanationLLMClient := List ExplanationRequest → ExplanationRequest → ClientAnswer

/-- The cards and the words about them. -/
structure ExplanationResult where
  providerStatus : ExplanationProviderStatus
  headline : NonemptyText
  cycleSummary : NonemptyText
  recommendationCards : List RecommendationFactCard := []
  recommendationExplanations : List RecommendationExplanation := []
  trackingCards : List TrackingFactCard := []
  trackingExplanations : List TrackingExplanation := []
  noTradeExplanation : Option String := none
  warnings : List String := []
  dataQualityNotes : List String := []
  riskNotes : List String := []

/-- What an explanation can raise. -/
inductive ExplanationError
  | validation (message : String)
  | notAnOutcome (value : String)
  deriving DecidableEq, Repr

/-- The words are about the card. -/
def RecommendationExplanation.About (e : RecommendationExplanation) (card : RecommendationFactCard) :
    Prop := e.tradeId = card.tradeId ∧ e.family = card.family

instance (e : RecommendationExplanation) (card : RecommendationFactCard) :
    Decidable (e.About card) := inferInstanceAs (Decidable (_ ∧ _))

/-- The words are about the card. -/
def TrackingExplanation.About (e : TrackingExplanation) (card : TrackingFactCard) : Prop :=
  e.tradeId = card.tradeId

instance (e : TrackingExplanation) (card : TrackingFactCard) : Decidable (e.About card) :=
  inferInstanceAs (Decidable (_ = _))

namespace ExplanationResult

/-- The checks of a result, in their order. -/
def validate (r : ExplanationResult) : Except ExplanationError Unit := do
  check (r.recommendationExplanations.length = r.recommendationCards.length)
    (ExplanationError.validation "recommendation_explanations must match recommendation_cards 1:1")
  check (∀ p ∈ r.recommendationExplanations.zip r.recommendationCards, p.1.About p.2)
    (.validation
      "recommendation_explanations must match recommendation_cards by trade_id/family, in order")
  check (r.trackingExplanations.length = r.trackingCards.length)
    (.validation "tracking_explanations must match tracking_cards 1:1")
  check (∀ p ∈ r.trackingExplanations.zip r.trackingCards, p.1.About p.2)
    (.validation "tracking_explanations must match tracking_cards by trade_id, in order")
  check (r.recommendationCards.map RecommendationFactCard.tradeId).Nodup
    (.validation "recommendation_cards must not contain duplicate trade_id values")
  check (r.trackingCards.map TrackingFactCard.tradeId).Nodup
    (.validation "tracking_cards must not contain duplicate trade_id values")

/-- Construct a result. -/
def construct (r : ExplanationResult) : Except ExplanationError ExplanationResult := do
  r.validate
  return r

end ExplanationResult

/-! ## Templates -/

/-- The wording of a guard's outcome that withholds an issuance. -/
def nettingBlockLabel : NettingIssuanceOutcome → Option String
  | .blockedExistingBrokerPosition => some "an existing broker position already exists on this symbol"
  | .blockedExistingUnresolvedRecommendation =>
      some "a previously issued recommendation on this symbol is still pending or open"
  | .blockedMultipleActionableRecommendations =>
      some ("multiple strategies qualified simultaneously on a netting-style account, and none " ++
        "can be " ++
        "safely distinguished, so all were withheld")
  | .allowed | .noActionableRecommendations => none

/-- The wording of a status. -/
def trackingStatusLabel (status : TradeStatus) : String :=
  match status with
  | .pending => "awaiting broker fill confirmation"
  | .opened => "matched to a broker position and currently open"
  | .win => "closed with a profit"
  | .loss => "closed with a loss"
  | .breakeven => "closed at breakeven"
  | .notFilled => "execution window closed without a confirmed fill"
  | other => other.value

/-- The outcomes of the guard. -/
def NettingIssuanceOutcome.all : List NettingIssuanceOutcome :=
  [allowed, noActionableRecommendations, blockedExistingBrokerPosition,
    blockedExistingUnresolvedRecommendation, blockedMultipleActionableRecommendations]

/-- The outcome of a value. -/
def NettingIssuanceOutcome.ofValue (value : String) :
    Except ExplanationError NettingIssuanceOutcome :=
  match all.find? fun outcome => outcome.value = value with
  | some outcome => .ok outcome
  | none => .error (.notAnOutcome value)

section Templates

variable (formatDecimal : ℚ → String)

/-- The PnL of a card, if it is known; its currency only if that is known too. -/
def formatPnlSuffix (card : TrackingFactCard) : String :=
  match card.pnl, card.accountCurrency with
  | none, _ => ""
  | some pnl, some currency => ", PnL " ++ formatDecimal pnl ++ " " ++ currency.val
  | some pnl, none => ", PnL " ++ formatDecimal pnl

/-- The value of a fact of the cycle. -/
def lookupFact (context : ExplanationContext) (factId : String) : Option String :=
  (context.facts.find? fun fact => fact.factId = factId).map GroundedFact.value

/-- The text before the first colon with a space, and the text after both. -/
def cutAtColon (value : String) : String × String :=
  let cut := partition ':' ' ' value.toList
  (String.ofList cut.1, String.ofList cut.2)

/-- The wording of a warning; one without a template keeps its label. -/
def renderWarning (context : ExplanationContext) (fact : GroundedFact) :
    Except ExplanationError String :=
  if Under "warning.excluded_tracking." fact.factId then
    let cut := cutAtColon fact.value
    .ok ("Tracked recommendation " ++ cut.1 ++ " could not be loaded (" ++ cut.2 ++
      ") and was excluded.")
  else if Under "warning.tracking_persistence_failed." fact.factId then
    .ok ("Failed to persist tracking state for " ++ fact.value ++ ".")
  else if Under "warning.provenance_persistence_failed." fact.factId then
    .ok ("Failed to persist provenance record for " ++ fact.value ++ ".")
  else if fact.factId = "warning.netting_guard_blocked" then do
    let cut := cutAtColon fact.value
    let outcome ← NettingIssuanceOutcome.ofValue cut.2
    let label := (nettingBlockLabel outcome).getD cut.2
    let modeNote :=
      if lookupFact context "netting_guard.account_position_mode" =
          some AccountPositionMode.unknown.value then
        " (the account's position-netting mode could not be determined, so conservative " ++
          "netting-style " ++
          "restrictions were applied)"
      else ""
    return "New recommendation issuance was withheld for " ++ cut.1 ++ ": " ++ label ++ modeNote ++
      "."
  else if fact.factId = "warning.target_symbol_facts_unavailable" then
    .ok ("Target symbol broker facts were unavailable this cycle; new-recommendation issuance " ++
      "could not complete.")
  else if fact.factId = "warning.positions_unavailable" then
    .ok ("Broker open-position read was unavailable this cycle (" ++ fact.value ++ ").")
  else if fact.factId = "warning.history_unavailable" then
    .ok ("Broker deal-history read was unavailable this cycle (" ++ fact.value ++ ").")
  else if fact.factId = "warning.rollover_unusable" then
    .ok ("Rollover state was not usable this cycle (" ++ fact.value ++ ").")
  else .ok (fact.label ++ ": " ++ fact.value ++ ".")

/-- Why there is no recommendation. -/
def buildNoTradeExplanation (context : ExplanationContext)
    (recommendationCards : List RecommendationFactCard) : Option String :=
  if recommendationCards ≠ [] then none
  else (lookupFact context "final_recommendation.outcome").map fun value =>
    "No actionable recommendation this cycle (" ++ value ++ ")."

/-- A text with its full stop. -/
def sentence (s : String) : NonemptyText :=
  ⟨s ++ ".", fun hempty => absurd (String.append_eq_empty_iff.mp hempty).2 (by decide)⟩

/-- The words of the templates about a recommendation. -/
def fallbackRecommendation (card : RecommendationFactCard) : RecommendationExplanation where
  tradeId := card.tradeId
  family := card.family
  narrative := sentence (card.family.value ++ " recommendation: " ++ card.direction.value ++ " " ++
    card.symbol.val ++ ", entry " ++ formatDecimal card.entryPrice ++ ", stop " ++
    formatDecimal card.stopLoss ++ ", take-profit " ++
    formatPriceLevels formatDecimal card.takeProfitLevels ++ ", volume " ++
    formatDecimal card.approvedVolume ++ ", approved risk " ++
    formatDecimal card.approvedRiskAmount ++ " " ++ card.accountCurrency.val)

/-- The words of the templates about a tracked recommendation. -/
def fallbackTracking (card : TrackingFactCard) : TrackingExplanation where
  tradeId := card.tradeId
  narrative := sentence (card.symbol.val ++ ": " ++ trackingStatusLabel card.status ++
    formatPnlSuffix formatDecimal card)

/-- The headline for some recommendations. -/
def actionableHeadline (n : ℕ) : NonemptyText :=
  ⟨toString n ++ " actionable recommendation(s)",
    fun hempty => absurd (String.append_eq_empty_iff.mp hempty).2 (by decide)⟩

/-- The headline and the summary of the templates. -/
def fallbackOverview (context : ExplanationContext)
    (recommendationCards : List RecommendationFactCard) (noTradeExplanation : Option String) :
    NonemptyText × NonemptyText :=
  let outcome := lookupFact context "runtime.outcome"
  let cycleOutcome := sentence ("Cycle outcome: " ++ outcome.getD "None")
  if outcome = some RuntimeCycleOutcome.blocked.value then
    let state := ((lookupFact context "runtime.mt5_runtime_status.state").filter (· ≠ "")).getD
      "UNKNOWN"
    let reason := ((lookupFact context "runtime.mt5_runtime_status.reason").filter (· ≠ "")).elim ""
      fun reason => " (" ++ reason ++ ")"
    (⟨"Runtime cycle blocked", by decide⟩,
      sentence ("MT5 connectivity unavailable: " ++ state ++ reason))
  else if recommendationCards ≠ [] then
    (actionableHeadline recommendationCards.length,
      sentence ("The deterministic engine produced one or more actionable recommendations " ++
        "this cycle"))
  else if noTradeExplanation ≠ none then (⟨"No trade this cycle", by decide⟩, cycleOutcome)
  else if outcome = some RuntimeCycleOutcome.partialDegraded.value then
    (⟨"Runtime cycle degraded", by decide⟩, cycleOutcome)
  else (⟨"Runtime cycle complete", by decide⟩, cycleOutcome)

/-- The cards with the words of the templates. -/
def fallbackResult (context : ExplanationContext)
    (recommendationCards : List RecommendationFactCard) (trackingCards : List TrackingFactCard)
    (providerStatus : ExplanationProviderStatus) (warnings : List String) : ExplanationResult :=
  let noTradeExplanation := buildNoTradeExplanation context recommendationCards
  let overview := fallbackOverview context recommendationCards noTradeExplanation
  { providerStatus
    headline := overview.1
    cycleSummary := overview.2
    recommendationCards
    recommendationExplanations := recommendationCards.map (fallbackRecommendation formatDecimal)
    trackingCards
    trackingExplanations := trackingCards.map (fallbackTracking formatDecimal)
    noTradeExplanation
    warnings }

/-- The words of the templates, from the context and the cards alone. -/
def renderDeterministicFallback (context : ExplanationContext)
    (recommendationCards : List RecommendationFactCard) (trackingCards : List TrackingFactCard)
    (providerStatus : ExplanationProviderStatus) : Except ExplanationError ExplanationResult := do
  let warnings ← context.warnings.mapM (renderWarning context)
  (fallbackResult formatDecimal context recommendationCards trackingCards providerStatus
    warnings).construct

end Templates

/-! ## The client's words -/

section Client

variable (context : ExplanationContext) (recommendationCards : List RecommendationFactCard)
  (trackingCards : List TrackingFactCard)

/-- The answer cites facts of the context alone, and tells about every card, in order. -/
def validateNarrative (narrative : ExplanationNarrative) : Prop :=
  (∀ e ∈ narrative.recommendationExplanations, ∀ id ∈ e.citedFactIds, id ∈ context.factIds) ∧
  (∀ e ∈ narrative.trackingExplanations, ∀ id ∈ e.citedFactIds, id ∈ context.factIds) ∧
  narrative.recommendationExplanations.length = recommendationCards.length ∧
  (∀ p ∈ narrative.recommendationExplanations.zip recommendationCards, p.1.About p.2) ∧
  narrative.trackingExplanations.length = trackingCards.length ∧
  ∀ p ∈ narrative.trackingExplanations.zip trackingCards, p.1.About p.2

instance decidableValidNarrative (narrative : ExplanationNarrative) :
    Decidable (validateNarrative context recommendationCards trackingCards narrative) :=
  inferInstanceAs (Decidable (_ ∧ _ ∧ _ ∧ _ ∧ _ ∧ _))

/-- The cards with the words of the client. -/
def combine (narrative : ExplanationNarrative) : Except ExplanationError ExplanationResult :=
  ExplanationResult.construct {
    providerStatus := .llmSuccess
    headline := narrative.headline
    cycleSummary := narrative.cycleSummary
    recommendationCards
    recommendationExplanations := narrative.recommendationExplanations
    trackingCards
    trackingExplanations := narrative.trackingExplanations
    noTradeExplanation := narrative.noTradeExplanation
    warnings := narrative.warnings
    dataQualityNotes := narrative.dataQualityNotes
    riskNotes := narrative.riskNotes }

/-- What an answer comes to: no provider, or the narrative that was accepted, if any. -/
def attempt (answer : ClientAnswer) : Except Unit (Option ExplanationNarrative) :=
  match answer with
  | .raised => .error ()
  | .answered narrative =>
      .ok (narrative.filter fun narrative =>
        validateNarrative context recommendationCards trackingCards narrative)

end Client

/-- One call: the request and its answer. -/
abbrev ClientCall := ExplanationRequest × ClientAnswer

/-- Explain a cycle: one call, and one more if the answer was not accepted; no call follows one that
raises. -/
def explainRuntimeCycle (formatDecimal : ℚ → String) (report : CycleReport)
    (client : ExplanationLLMClient) : List ClientCall × Except ExplanationError ExplanationResult :=
  let recommendationCards := buildRecommendationCards report
  let trackingCards := buildTrackingCards report
  let context := buildExplanationContext report formatDecimal
  let fallback := renderDeterministicFallback formatDecimal context recommendationCards trackingCards
  let accept := attempt context recommendationCards trackingCards
  let first : ExplanationRequest := { context }
  let answer := client [] first
  match accept answer with
  | .error () => ([(first, answer)], fallback .llmUnavailable)
  | .ok (some narrative) => ([(first, answer)], combine recommendationCards trackingCards narrative)
  | .ok none =>
      let second : ExplanationRequest :=
        { context, previousValidationError := some "previous structured output failed validation" }
      let again := client [first] second
      let calls := [(first, answer), (second, again)]
      match accept again with
      | .error () => (calls, fallback .llmUnavailable)
      | .ok (some narrative) => (calls, combine recommendationCards trackingCards narrative)
      | .ok none => (calls, fallback .llmInvalidOutput)

/-! ## When a warning can be read back -/

theorem ofValue_value (outcome : NettingIssuanceOutcome) :
    NettingIssuanceOutcome.ofValue outcome.value = .ok outcome := by
  have hfind : NettingIssuanceOutcome.all.find? (fun o => o.value = outcome.value) =
      some outcome := by
    cases outcome <;> decide +kernel
  rw [NettingIssuanceOutcome.ofValue, hfind]

theorem ofValue_of_colon {value : String} (h : ':' ∈ value.toList) :
    NettingIssuanceOutcome.ofValue value = .error (.notAnOutcome value) := by
  have hvalues : ∀ o ∈ NettingIssuanceOutcome.all, ':' ∉ o.value.toList := by decide +kernel
  have hfind : NettingIssuanceOutcome.all.find? (fun o => o.value = value) = none := by
    rw [List.find?_eq_none]
    intro o ho heq
    exact hvalues o ho (of_decide_eq_true heq ▸ h)
  rw [NettingIssuanceOutcome.ofValue, hfind]

variable {report : CycleReport} {formatDecimal : ℚ → String} {context : ExplanationContext}

theorem toList_nettingWarning (guard : NettingGuardResult) :
    (nettingWarning guard).value.toList =
      guard.symbol.val.toList ++ ':' :: ' ' :: guard.outcome.value.toList := by
  rw [nettingWarning, String.toList_append, String.toList_append, List.append_assoc]
  rfl

theorem cutAtColon_plain {guard : NettingGuardResult}
    (h : Plain ':' ' ' guard.symbol.val.toList) :
    cutAtColon (nettingWarning guard).value = (guard.symbol.val, guard.outcome.value) := by
  rw [cutAtColon, toList_nettingWarning, partition_plain (by decide) h, String.ofList_toList,
    String.ofList_toList]

theorem cutAtColon_not_plain {guard : NettingGuardResult}
    (h : ¬ Plain ':' ' ' guard.symbol.val.toList) :
    ':' ∈ (cutAtColon (nettingWarning guard).value).2.toList := by
  obtain ⟨r, hr⟩ := partition_not_plain h guard.outcome.value.toList
  rw [cutAtColon, toList_nettingWarning, hr, String.toList_ofList]
  simp

/-- **The guard's warning has a wording exactly when its symbol has no separator.** -/
theorem renderWarning_netting (guard : NettingGuardResult) :
    (∃ text, renderWarning context (nettingWarning guard) = .ok text) ↔
      Plain ':' ' ' guard.symbol.val.toList := by
  have hid : (nettingWarning guard).factId = "warning.netting_guard_blocked" := rfl
  have hstems := (cycleWarningIds_apart "warning.netting_guard_blocked" List.mem_cons_self).2
  rw [not_or, not_or] at hstems
  rw [renderWarning, hid, if_neg hstems.1, if_neg hstems.2.1, if_neg hstems.2.2, if_pos rfl]
  by_cases h : Plain ':' ' ' guard.symbol.val.toList
  · refine iff_of_true ?_ h
    dsimp only
    rw [cutAtColon_plain h, ofValue_value]
    exact ⟨_, rfl⟩
  · refine iff_of_false ?_ h
    rintro ⟨text, htext⟩
    dsimp only at htext
    rw [ofValue_of_colon (cutAtColon_not_plain h)] at htext
    cases htext

theorem renderWarning_other {fact : GroundedFact}
    (h : fact.factId ≠ "warning.netting_guard_blocked") :
    ∃ text, renderWarning context fact = .ok text := by
  unfold renderWarning
  rw [if_neg h]
  split_ifs <;> exact ⟨_, rfl⟩

/-- The warning of a guard that withholds an issuance can be read back. -/
def CycleReport.Readable (report : CycleReport) : Prop :=
  ∀ guard ∈ blockingGuard report, Plain ':' ' ' guard.symbol.val.toList

theorem mem_buildWarnings_netting {guard : NettingGuardResult}
    (h : guard ∈ blockingGuard report) : nettingWarning guard ∈ buildWarnings report := by
  refine List.mem_append_right _ ?_
  rw [cycleWarnings, List.flatten_cons]
  exact List.mem_append_left _ (List.mem_map_of_mem (Option.mem_toList.mpr h))

/-- **The warnings have wordings exactly when they can be read back.** -/
theorem renderWarnings_iff (context : ExplanationContext) :
    (∃ texts, (buildWarnings report).mapM (renderWarning context) = .ok texts) ↔
      report.Readable := by
  constructor
  · rintro ⟨texts, htexts⟩ guard hguard
    obtain ⟨text, -, htext⟩ :=
      exists_of_mem_left (mapM_ok_forall₂ htexts) (mem_buildWarnings_netting hguard)
    exact renderWarning_netting guard |>.mp ⟨text, htext⟩
  · intro h
    refine mapM_ok_of_exists fun fact hfact => ?_
    rcases mem_buildWarnings hfact with ⟨guard, hguard, rfl⟩ | hother
    · exact (renderWarning_netting guard).mpr (h guard hguard)
    · exact renderWarning_other hother

/-! ## What an explanation holds -/

/-- The ids that the words of a result cite. -/
def ExplanationResult.citedFactIds (r : ExplanationResult) : List String :=
  r.recommendationExplanations.flatMap RecommendationExplanation.citedFactIds ++
    r.trackingExplanations.flatMap TrackingExplanation.citedFactIds

/-- The cards are those of the cycle, the words tell about them one by one and cite facts of the
context alone. -/
structure Grounded (formatDecimal : ℚ → String) (report : CycleReport) (r : ExplanationResult) :
    Prop where
  recommendationCards : r.recommendationCards = buildRecommendationCards report
  trackingCards : r.trackingCards = buildTrackingCards report
  recommendations_told : List.Forall₂ RecommendationExplanation.About r.recommendationExplanations
    (buildRecommendationCards report)
  tracking_told : List.Forall₂ TrackingExplanation.About r.trackingExplanations
    (buildTrackingCards report)
  cited : ∀ id ∈ r.citedFactIds, id ∈ (buildExplanationContext report formatDecimal).factIds

/-- The client's answer is accepted for the cycle. -/
def AcceptsNarrative (formatDecimal : ℚ → String) (report : CycleReport)
    (narrative : ExplanationNarrative) : Prop :=
  validateNarrative (buildExplanationContext report formatDecimal) (buildRecommendationCards report)
    (buildTrackingCards report) narrative

/-- The calls of an explanation: one, or one whose answer was not accepted and one more that is told
so; all of them give the context and nothing else. -/
structure Asked (formatDecimal : ℚ → String) (report : CycleReport) (calls : List ClientCall) :
    Prop where
  same : ∀ call ∈ calls, call.1.context = buildExplanationContext report formatDecimal
  shape : (∃ call, calls = [call] ∧ call.1.previousValidationError = none) ∨
    ∃ first second, calls = [first, second] ∧ first.1.previousValidationError = none ∧
      second.1.previousValidationError ≠ none ∧
      ∃ narrative, first.2 = .answered narrative ∧
        ∀ words ∈ narrative, ¬ AcceptsNarrative formatDecimal report words

/-- Where the words come from: from the last answer, if it was accepted; else from the templates,
which no answer has a part in. -/
structure Sourced (formatDecimal : ℚ → String) (report : CycleReport) (calls : List ClientCall)
    (r : ExplanationResult) : Prop where
  client : r.providerStatus = .llmSuccess ↔ ∃ call narrative, calls.getLast? = some call ∧
    call.2 = .answered (some narrative) ∧ AcceptsNarrative formatDecimal report narrative ∧
    combine (buildRecommendationCards report) (buildTrackingCards report) narrative = .ok r
  unavailable : r.providerStatus = .llmUnavailable ↔
    ∃ call, calls.getLast? = some call ∧ call.2 = .raised
  templates : r.providerStatus ≠ .llmSuccess → renderDeterministicFallback formatDecimal
    (buildExplanationContext report formatDecimal) (buildRecommendationCards report)
      (buildTrackingCards report) r.providerStatus = .ok r

/-- The cards name different trades. -/
structure CardsDistinct (report : CycleReport) : Prop where
  recommendations :
    ((buildRecommendationCards report).map RecommendationFactCard.tradeId).Nodup
  tracking : ((buildTrackingCards report).map TrackingFactCard.tradeId).Nodup

theorem cardsDistinct_of_distinct (h : report.Distinct) : CardsDistinct report where
  recommendations := by
    rw [buildRecommendationCards_tradeIds]
    exact h.recommended
  tracking := h.tracked.sublist buildTrackingCards_tradeIds

namespace ExplanationResult

/-- A result is constructed exactly when its words tell about different cards one by one. -/
theorem construct_ok_iff {r r' : ExplanationResult} :
    r.construct = .ok r' ↔ r' = r ∧
      List.Forall₂ RecommendationExplanation.About r.recommendationExplanations
        r.recommendationCards ∧
      List.Forall₂ TrackingExplanation.About r.trackingExplanations r.trackingCards ∧
      (r.recommendationCards.map RecommendationFactCard.tradeId).Nodup ∧
      (r.trackingCards.map TrackingFactCard.tradeId).Nodup := by
  simp only [construct, validate, unit_bind_ok_iff, check_ok_iff, List.forall₂_iff_zip, pure,
    Except.pure, Except.ok.injEq, Prod.forall]
  tauto

end ExplanationResult

/-- The words of the templates tell about the cards. -/
theorem fallback_told (formatDecimal : ℚ → String) (report : CycleReport) :
    List.Forall₂ RecommendationExplanation.About
        ((buildRecommendationCards report).map (fallbackRecommendation formatDecimal))
        (buildRecommendationCards report) ∧
      List.Forall₂ TrackingExplanation.About
        ((buildTrackingCards report).map (fallbackTracking formatDecimal))
        (buildTrackingCards report) := by
  constructor
  · rw [List.forall₂_map_left_iff]
    exact List.forall₂_same.mpr fun card _ => ⟨rfl, rfl⟩
  · rw [List.forall₂_map_left_iff]
    exact List.forall₂_same.mpr fun card _ => rfl

/-- **The templates fail only for cards of one trade or a warning that cannot be read back.** -/
theorem fallback_ok_iff (formatDecimal : ℚ → String) (status : ExplanationProviderStatus) :
    (∃ r, renderDeterministicFallback formatDecimal (buildExplanationContext report formatDecimal)
        (buildRecommendationCards report) (buildTrackingCards report) status = .ok r) ↔
      CardsDistinct report ∧ report.Readable := by
  obtain ⟨hrecommendations, htracking⟩ := fallback_told formatDecimal report
  rw [← renderWarnings_iff (buildExplanationContext report formatDecimal)]
  constructor
  · rintro ⟨r, hr⟩
    obtain ⟨warnings, hwarnings, hr⟩ := bind_ok_iff.mp hr
    obtain ⟨-, -, -, hrec, htrack⟩ := ExplanationResult.construct_ok_iff.mp hr
    exact ⟨⟨hrec, htrack⟩, warnings, hwarnings⟩
  · rintro ⟨hdistinct, warnings, hwarnings⟩
    refine ⟨fallbackResult formatDecimal (buildExplanationContext report formatDecimal)
      (buildRecommendationCards report) (buildTrackingCards report) status warnings,
      bind_ok_iff.mpr ⟨warnings, hwarnings, ?_⟩⟩
    exact ExplanationResult.construct_ok_iff.mpr
      ⟨rfl, hrecommendations, htracking, hdistinct.recommendations, hdistinct.tracking⟩

/-- The result of the templates is grounded. -/
theorem grounded_fallback {status : ExplanationProviderStatus} {r : ExplanationResult}
    (h : renderDeterministicFallback formatDecimal (buildExplanationContext report formatDecimal)
      (buildRecommendationCards report) (buildTrackingCards report) status = .ok r) :
    r.providerStatus = status ∧ Grounded formatDecimal report r := by
  obtain ⟨warnings, -, h⟩ := bind_ok_iff.mp h
  obtain ⟨rfl, htoldRecommendations, htoldTracking, -⟩ := ExplanationResult.construct_ok_iff.mp h
  refine ⟨rfl, rfl, rfl, htoldRecommendations, htoldTracking, ?_⟩
  intro id hid
  simp [ExplanationResult.citedFactIds, fallbackResult, fallbackRecommendation, fallbackTracking]
    at hid

theorem told_of_acceptsNarrative {narrative : ExplanationNarrative}
    (h : AcceptsNarrative formatDecimal report narrative) :
    List.Forall₂ RecommendationExplanation.About narrative.recommendationExplanations
        (buildRecommendationCards report) ∧
      List.Forall₂ TrackingExplanation.About narrative.trackingExplanations
        (buildTrackingCards report) := by
  obtain ⟨-, -, hlenRec, hzipRec, hlenTrack, hzipTrack⟩ := h
  exact ⟨List.forall₂_iff_zip.mpr ⟨hlenRec, fun {a b} hab => hzipRec (a, b) hab⟩,
    List.forall₂_iff_zip.mpr ⟨hlenTrack, fun {a b} hab => hzipTrack (a, b) hab⟩⟩

/-- The result of an accepted answer is grounded. -/
theorem grounded_combine {narrative : ExplanationNarrative} {r : ExplanationResult}
    (haccepted : AcceptsNarrative formatDecimal report narrative)
    (h : combine (buildRecommendationCards report) (buildTrackingCards report) narrative = .ok r) :
    r.providerStatus = .llmSuccess ∧ Grounded formatDecimal report r := by
  obtain ⟨rfl, hrec, htrack, -⟩ := ExplanationResult.construct_ok_iff.mp h
  refine ⟨rfl, rfl, rfl, hrec, htrack, ?_⟩
  intro id hid
  rcases List.mem_append.mp hid with hid | hid
  · obtain ⟨e, he, hid⟩ := List.mem_flatMap.mp hid
    exact haccepted.1 e he id hid
  · obtain ⟨e, he, hid⟩ := List.mem_flatMap.mp hid
    exact haccepted.2.1 e he id hid

/-- An accepted answer fails only for cards of one trade. -/
theorem combine_ok {narrative : ExplanationNarrative} (hdistinct : CardsDistinct report)
    (h : AcceptsNarrative formatDecimal report narrative) :
    ∃ r, combine (buildRecommendationCards report) (buildTrackingCards report) narrative = .ok r := by
  obtain ⟨hrec, htrack⟩ := told_of_acceptsNarrative h
  exact ⟨_, ExplanationResult.construct_ok_iff.mpr
    ⟨rfl, hrec, htrack, hdistinct.recommendations, hdistinct.tracking⟩⟩

/-- What an answer comes to. -/
theorem attempt_cases (formatDecimal : ℚ → String) (report : CycleReport) (answer : ClientAnswer) :
    let outcome := attempt (buildExplanationContext report formatDecimal)
      (buildRecommendationCards report) (buildTrackingCards report) answer
    (answer = .raised ∧ outcome = .error ()) ∨
      (∃ narrative, answer = .answered (some narrative) ∧
        AcceptsNarrative formatDecimal report narrative ∧ outcome = .ok (some narrative)) ∨
      ∃ narrative, answer = .answered narrative ∧
        (∀ words ∈ narrative, ¬ AcceptsNarrative formatDecimal report words) ∧
          outcome = .ok none := by
  dsimp only
  rcases answer with - | (- | narrative)
  · exact .inl ⟨rfl, rfl⟩
  · exact .inr (.inr ⟨none, rfl, by simp, rfl⟩)
  · by_cases h : AcceptsNarrative formatDecimal report narrative
    · refine .inr (.inl ⟨narrative, rfl, h, ?_⟩)
      unfold AcceptsNarrative at h
      rw [attempt, Option.filter_some, if_pos (decide_eq_true h)]
    · refine .inr (.inr ⟨some narrative, rfl, ?_, ?_⟩)
      · rintro _ ⟨⟩
        exact h
      · unfold AcceptsNarrative at h
        rw [attempt, Option.filter_some, if_neg (by simpa using h)]

/-- The calls of the first attempt. -/
theorem asked_once (call : ClientCall)
    (hcontext : call.1.context = buildExplanationContext report formatDecimal)
    (herror : call.1.previousValidationError = none) : Asked formatDecimal report [call] where
  same := by simpa using hcontext
  shape := .inl ⟨call, rfl, herror⟩

/-- The result of the templates comes from no answer. -/
theorem sourced_fallback {calls : List ClientCall} {status : ExplanationProviderStatus}
    {r : ExplanationResult} (hstatus : r.providerStatus = status) (hne : status ≠ .llmSuccess)
    (hlast : ∀ call narrative, calls.getLast? = some call → call.2 = .answered (some narrative) →
      ¬ AcceptsNarrative formatDecimal report narrative)
    (hunavailable : status = .llmUnavailable ↔ ∃ call, calls.getLast? = some call ∧ call.2 = .raised)
    (h : renderDeterministicFallback formatDecimal (buildExplanationContext report formatDecimal)
      (buildRecommendationCards report) (buildTrackingCards report) status = .ok r) :
    Sourced formatDecimal report calls r where
  client := by
    rw [hstatus]
    refine iff_of_false hne ?_
    rintro ⟨call, narrative, hcall, hanswer, haccepted, -⟩
    exact hlast call narrative hcall hanswer haccepted
  unavailable := by rw [hstatus]; exact hunavailable
  templates _ := by rw [hstatus]; exact h

/-- The result of an accepted answer comes from it. -/
theorem sourced_client {calls : List ClientCall} {call : ClientCall}
    {narrative : ExplanationNarrative} {r : ExplanationResult} (hcall : calls.getLast? = some call)
    (hanswer : call.2 = .answered (some narrative))
    (haccepted : AcceptsNarrative formatDecimal report narrative)
    (hstatus : r.providerStatus = .llmSuccess)
    (h : combine (buildRecommendationCards report) (buildTrackingCards report) narrative = .ok r) :
    Sourced formatDecimal report calls r where
  client := iff_of_true hstatus ⟨call, narrative, hcall, hanswer, haccepted, h⟩
  unavailable := by
    rw [hstatus]
    refine iff_of_false (by decide) ?_
    rintro ⟨call', hcall', hraised⟩
    cases hcall.symm.trans hcall'
    rw [hanswer] at hraised
    cases hraised
  templates hne := absurd hstatus hne

/-- What the first answer makes of an explanation. -/
theorem explain_cases (formatDecimal : ℚ → String) (report : CycleReport)
    (client : ExplanationLLMClient) :
    ∃ calls, Asked formatDecimal report calls ∧
      ((∃ call, calls.getLast? = some call ∧ call.2 = .raised ∧
          explainRuntimeCycle formatDecimal report client =
            (calls, renderDeterministicFallback formatDecimal
              (buildExplanationContext report formatDecimal) (buildRecommendationCards report)
              (buildTrackingCards report) .llmUnavailable)) ∨
        (∃ call narrative, calls.getLast? = some call ∧ call.2 = .answered (some narrative) ∧
          AcceptsNarrative formatDecimal report narrative ∧
          explainRuntimeCycle formatDecimal report client = (calls, combine
            (buildRecommendationCards report) (buildTrackingCards report) narrative)) ∨
        ∃ call narrative, calls.getLast? = some call ∧ call.2 = .answered narrative ∧
          (∀ words ∈ narrative, ¬ AcceptsNarrative formatDecimal report words) ∧
          explainRuntimeCycle formatDecimal report client =
            (calls, renderDeterministicFallback formatDecimal
              (buildExplanationContext report formatDecimal) (buildRecommendationCards report)
              (buildTrackingCards report) .llmInvalidOutput)) := by
  let context := buildExplanationContext report formatDecimal
  let first : ExplanationRequest := { context }
  let second : ExplanationRequest :=
    { context, previousValidationError := some "previous structured output failed validation" }
  have honce : Asked formatDecimal report [(first, client [] first)] := asked_once _ rfl rfl
  dsimp only [explainRuntimeCycle]
  rcases attempt_cases formatDecimal report (client [] first) with
    ⟨hanswer, houtcome⟩ | ⟨narrative, hanswer, haccepted, houtcome⟩ |
      ⟨narrative, hanswer, hrejected, houtcome⟩
  · rw [houtcome]
    exact ⟨_, honce, .inl ⟨_, rfl, hanswer, rfl⟩⟩
  · rw [houtcome]
    exact ⟨_, honce, .inr (.inl ⟨_, narrative, rfl, hanswer, haccepted, rfl⟩)⟩
  · -- the first answer is not accepted: one more call
    have htwice : Asked formatDecimal report
        [(first, client [] first), (second, client [first] second)] := {
      same := by
        intro call hcall
        rcases List.mem_pair.mp hcall with rfl | rfl
        · rfl
        · rfl
      shape := .inr ⟨_, _, rfl, rfl, Option.some_ne_none _, narrative, hanswer, hrejected⟩ }
    rw [houtcome]
    dsimp only
    rcases attempt_cases formatDecimal report (client [first] second) with
      ⟨hagain, houtcome⟩ | ⟨narrative, hagain, haccepted, houtcome⟩ |
        ⟨narrative, hagain, hrejected, houtcome⟩
    · rw [houtcome]
      exact ⟨_, htwice, .inl ⟨_, rfl, hagain, rfl⟩⟩
    · rw [houtcome]
      exact ⟨_, htwice, .inr (.inl ⟨_, narrative, rfl, hagain, haccepted, rfl⟩)⟩
    · rw [houtcome]
      exact ⟨_, htwice, .inr (.inr ⟨_, narrative, rfl, hagain, hrejected, rfl⟩)⟩

/-- **What an explanation holds**, whatever the client does. -/
theorem explained_sound {client : ExplanationLLMClient} {calls : List ClientCall}
    {r : ExplanationResult}
    (h : explainRuntimeCycle formatDecimal report client = (calls, .ok r)) :
    Asked formatDecimal report calls ∧ Sourced formatDecimal report calls r ∧
      Grounded formatDecimal report r := by
  obtain ⟨calls', hasked, hcases⟩ := explain_cases formatDecimal report client
  rcases hcases with ⟨call, hlast, hanswer, heq⟩ | ⟨call, narrative, hlast, hanswer, haccepted, heq⟩ |
    ⟨call, narrative, hlast, hanswer, hrejected, heq⟩
  all_goals
    rw [heq, Prod.mk.injEq] at h
    obtain ⟨rfl, h⟩ := h
  · obtain ⟨hstatus, hgrounded⟩ := grounded_fallback h
    refine ⟨hasked, sourced_fallback hstatus (by decide) ?_ ?_ h, hgrounded⟩
    · intro call' narrative hcall' hanswered
      cases hlast.symm.trans hcall'
      rw [hanswer] at hanswered
      cases hanswered
    · exact iff_of_true rfl ⟨call, hlast, hanswer⟩
  · obtain ⟨hstatus, hgrounded⟩ := grounded_combine haccepted h
    exact ⟨hasked, sourced_client hlast hanswer haccepted hstatus h, hgrounded⟩
  · obtain ⟨hstatus, hgrounded⟩ := grounded_fallback h
    refine ⟨hasked, sourced_fallback hstatus (by decide) ?_ ?_ h, hgrounded⟩
    · intro call' words hcall' hanswered
      cases hlast.symm.trans hcall'
      rw [hanswer] at hanswered
      cases hanswered
      exact hrejected words rfl
    · refine iff_of_false (by decide) ?_
      rintro ⟨call', hcall', hraised⟩
      cases hlast.symm.trans hcall'
      rw [hanswer] at hraised
      cases hraised

/-- Whatever the client does, an explanation is made, if the cards name different trades and the
warnings can be read back. -/
theorem explained_ok (hdistinct : CardsDistinct report) (hreadable : report.Readable)
    (client : ExplanationLLMClient) :
    ∃ calls r, explainRuntimeCycle formatDecimal report client = (calls, .ok r) := by
  have hfallback (status : ExplanationProviderStatus) :=
    (fallback_ok_iff formatDecimal status).mpr ⟨hdistinct, hreadable⟩
  obtain ⟨calls, -, hcases⟩ := explain_cases formatDecimal report client
  rcases hcases with ⟨-, -, -, heq⟩ | ⟨-, narrative, -, -, haccepted, heq⟩ | ⟨-, -, -, -, -, heq⟩
  · obtain ⟨r, hr⟩ := hfallback .llmUnavailable
    exact ⟨calls, r, by rw [heq, hr]⟩
  · obtain ⟨r, hr⟩ := combine_ok hdistinct haccepted
    exact ⟨calls, r, by rw [heq, hr]⟩
  · obtain ⟨r, hr⟩ := hfallback .llmInvalidOutput
    exact ⟨calls, r, by rw [heq, hr]⟩

/-- **An explanation is made, whatever the client does, exactly when the cards name different
trades and the warnings can be read back.** Its calls give the context alone, its words come from an
answer that was accepted or from the templates, and they are grounded in the cycle. -/
theorem explained_iff (formatDecimal : ℚ → String) (report : CycleReport) :
    ((∀ client, ∃ calls r, explainRuntimeCycle formatDecimal report client = (calls, .ok r)) ↔
        CardsDistinct report ∧ report.Readable) ∧
      ∀ client calls r, explainRuntimeCycle formatDecimal report client = (calls, .ok r) →
        Asked formatDecimal report calls ∧ Sourced formatDecimal report calls r ∧
          Grounded formatDecimal report r := by
  refine ⟨⟨fun h => ?_, fun h client => explained_ok h.1 h.2 client⟩,
    fun client calls r => explained_sound⟩
  obtain ⟨calls, r, hr⟩ := h fun _ _ => .raised
  exact (fallback_ok_iff formatDecimal .llmUnavailable).mp ⟨r, congrArg Prod.snd hr⟩

end TradingAdvisor
