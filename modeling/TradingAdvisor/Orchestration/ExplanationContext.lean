import TradingAdvisor.Lib.Paths
import TradingAdvisor.Orchestration.CycleReport
import TradingAdvisor.Telegram.Rendering

/-!
# The context of an explanation

What a cycle reports is projected twice: onto cards, which carry the authoritative values, and onto
facts, whose values are texts. Only the facts are ever given to a provider of explanations.

* `RecommendationFactCard`, `TrackingFactCard` — the cards;
* `buildRecommendationCards`, `buildTrackingCards`, `buildExplanationContext` — the projections;
* `ExplanationContext.factIds`, **`factIds_nodup`**: a fact id names one fact of the context.
-/

namespace TradingAdvisor

open Paths

/-! ## Values in messages -/

/-- The value of the outcome in messages. -/
def RuntimeCycleOutcome.value : RuntimeCycleOutcome → String
  | ready => "READY"
  | partialDegraded => "PARTIAL_DEGRADED"
  | blocked => "BLOCKED"

/-- The value of the state in messages. -/
def MT5ConnectivityState.value : MT5ConnectivityState → String
  | available => "AVAILABLE"
  | initializationFailed => "INITIALIZATION_FAILED"
  | loginFailed => "LOGIN_FAILED"
  | terminalUnavailable => "TERMINAL_UNAVAILABLE"
  | accountUnavailable => "ACCOUNT_UNAVAILABLE"

/-- The value of the mode in messages. -/
def AccountPositionMode.value : AccountPositionMode → String
  | hedging => "HEDGING"
  | netting => "NETTING"
  | unknown => "UNKNOWN"

/-- The value of the status in messages. -/
def MT5PositionsReadStatus.value : MT5PositionsReadStatus → String
  | ok => "OK"
  | unavailable => "UNAVAILABLE"
  | unmappablePositionSide => "UNMAPPABLE_POSITION_SIDE"

/-- The value of the status in messages. -/
def MT5HistoryReadStatus.value : MT5HistoryReadStatus → String
  | ok => "OK"
  | unavailable => "UNAVAILABLE"
  | malformedTimestamp => "MALFORMED_TIMESTAMP"

/-- The value of the outcome in messages. -/
def MT5RolloverOutcome.value : MT5RolloverOutcome → String
  | ready => "READY"
  | bootstrappedMidday => "BOOTSTRAPPED_MIDDAY"
  | persistenceUnavailable => "PERSISTENCE_UNAVAILABLE"
  | persistenceCorrupt => "PERSISTENCE_CORRUPT"
  | configMismatch => "CONFIG_MISMATCH"
  | futureState => "FUTURE_STATE"

/-- The value of the outcome in messages. -/
def MT5OpenRiskOutcome.value : MT5OpenRiskOutcome → String
  | ready => "READY"
  | blocked => "BLOCKED"

/-- The value of the outcome in messages. -/
def MT5RealizedPnLOutcome.value : MT5RealizedPnLOutcome → String
  | ready => "READY"
  | blocked => "BLOCKED"

/-- The value of the outcome in messages. -/
def RuntimeFactAssemblyOutcome.value : RuntimeFactAssemblyOutcome → String
  | ready => "READY"
  | blocked => "BLOCKED"

/-- The value of the outcome in messages. -/
def DecisionRiskPipelineOutcome.value : DecisionRiskPipelineOutcome → String
  | completed => "COMPLETED"
  | blockedBeforeRisk => "BLOCKED_BEFORE_RISK"

/-- The value of the outcome in messages. -/
def FinalRecommendationOutcome.value : FinalRecommendationOutcome → String
  | someActionable => "SOME_ACTIONABLE"
  | noActionableFamily => "NO_ACTIONABLE_FAMILY"
  | pipelineBlockedBeforeRisk => "PIPELINE_BLOCKED_BEFORE_RISK"

/-- The value of the outcome in messages. -/
def NettingIssuanceOutcome.value : NettingIssuanceOutcome → String
  | allowed => "ALLOWED"
  | blockedExistingBrokerPosition => "BLOCKED_EXISTING_BROKER_POSITION"
  | blockedExistingUnresolvedRecommendation => "BLOCKED_EXISTING_UNRESOLVED_RECOMMENDATION"
  | noActionableRecommendations => "NO_ACTIONABLE_RECOMMENDATIONS"
  | blockedMultipleActionableRecommendations => "BLOCKED_MULTIPLE_ACTIONABLE_RECOMMENDATIONS"

/-- The value of the outcome in messages. -/
def MT5TrackedRecommendationCreationOutcome.value :
    MT5TrackedRecommendationCreationOutcome → String
  | created => "CREATED"
  | snapshotUnavailable => "SNAPSHOT_UNAVAILABLE"

/-- The value of the status in messages. -/
def TradeStatus.value : TradeStatus → String
  | pending => "PENDING"
  | filled => "FILLED"
  | opened => "OPEN"
  | closed => "CLOSED"
  | win => "WIN"
  | loss => "LOSS"
  | breakeven => "BREAKEVEN"
  | notFilled => "NOT_FILLED"
  | expired => "EXPIRED"
  | cancelled => "CANCELLED"

/-- The value of the status in messages. -/
def DocumentReadStatus.value : DocumentReadStatus → String
  | valid => "VALID"
  | corrupt => "CORRUPT"
  | unavailable => "UNAVAILABLE"

/-! ## Cards -/

/-- The authoritative facts of one recommendation, and how its tracking was created. -/
structure RecommendationFactCard where
  tradeId : TradeId
  family : StrategyFamily
  symbol : Symbol
  direction : TradeDirection
  entryPrice : Price
  stopLoss : Price
  takeProfitLevels : List Price
  approvedVolume : PositiveRat
  approvedRiskAmount : PositiveRat
  accountCurrency : NonemptyText
  trackingCreationOutcome : Option MT5TrackedRecommendationCreationOutcome
  trackingPersisted : Option Bool
  provenancePersisted : Option Bool

/-- The authoritative facts of the lifecycle of one tracked recommendation. -/
structure TrackingFactCard where
  tradeId : TradeId
  symbol : Symbol
  status : TradeStatus
  matchedPositionId : Option ℕ
  pnl : Option ℚ
  accountCurrency : Option NonemptyText

variable (report : CycleReport)

/-- The persistence of a trade; of two entries the later one counts. -/
def persistenceByTradeId (tradeId : TradeId) : Option TrackingIssuancePersistenceOutcome :=
  Keyed.lastOf TrackingIssuancePersistenceOutcome.tradeId report.newTrackingPersistenceOutcomes
    tradeId

/-- The card of a recommendation. -/
def recommendationCard (recommendation : FinalRecommendation) : RecommendationFactCard :=
  let persistence := persistenceByTradeId report recommendation.tradeId
  { tradeId := recommendation.tradeId
    family := recommendation.family
    symbol := recommendation.symbol
    direction := recommendation.direction
    entryPrice := recommendation.entryPrice
    stopLoss := recommendation.stopLoss
    takeProfitLevels := recommendation.takeProfitLevels
    approvedVolume := recommendation.approvedVolume
    approvedRiskAmount := recommendation.approvedRiskAmount
    accountCurrency := recommendation.accountCurrency
    trackingCreationOutcome :=
      persistence.map TrackingIssuancePersistenceOutcome.trackingCreationOutcome
    trackingPersisted := persistence.map TrackingIssuancePersistenceOutcome.trackingPersisted
    provenancePersisted := persistence.map TrackingIssuancePersistenceOutcome.provenancePersisted }

/-- One card for each recommendation, in the order of the families. -/
def buildRecommendationCards : List RecommendationFactCard :=
  report.recommendations.map (recommendationCard report)

/-- The card of a tracked recommendation. -/
def trackingCard (tradeId : TradeId) (tracked : MT5TrackedRecommendation)
    (accountCurrency : Option NonemptyText) : TrackingFactCard where
  tradeId
  symbol := tracked.symbol
  status := tracked.status
  matchedPositionId := tracked.matchedPositionId
  pnl := tracked.positionRecord.pnl
  accountCurrency

/-- The card of what was advanced, in the currency of the account. -/
def advancedCard (entry : AdvancedTrackedRecommendationOutcome) : TrackingFactCard :=
  trackingCard entry.tradeId entry.trackedRecommendation
    (report.accountFacts.map AccountFacts.currency)

/-- The card of what was created. -/
def createdCard (r : TrackedRecommendationConstructionResult) : Option TrackingFactCard :=
  r.trackedRecommendation.map fun tracked =>
    trackingCard r.tradeId tracked (some r.provenance.accountCurrency)

/-- One card for each recommendation advanced, and one for each created. -/
def buildTrackingCards : List TrackingFactCard :=
  report.advancedTracking.map (advancedCard report) ++ report.newTrackingResults.filterMap createdCard

/-! ## Facts -/

/-- One fact, as a text. -/
structure GroundedFact where
  factId : String
  label : String
  value : String
  deriving DecidableEq

/-- A text that a caller supplies; it is data, whatever it says. -/
structure UntrustedTextBlock where
  source : NonemptyText
  text : String
  deriving DecidableEq

/-- All that a provider of explanations is ever given. -/
structure ExplanationContext where
  asOf : Timestamp
  facts : List GroundedFact := []
  recommendationFacts : List (List GroundedFact) := []
  trackingFacts : List (List GroundedFact) := []
  warnings : List GroundedFact := []
  untrustedText : List UntrustedTextBlock := []
  deriving DecidableEq

/-- A fact that is there only with its value. -/
def optionalFact {α : Type} (factId label : String) (text : α → String) (value : Option α) :
    List GroundedFact :=
  value.toList.map fun a => ⟨factId, label, text a⟩

variable (formatDecimal : ℚ → String)

/-- The text of price levels. -/
def formatPriceLevels (levels : List Price) : String :=
  if levels = [] then "none"
  else ", ".intercalate (levels.map fun level => formatDecimal level)

/-- The facts of a recommendation. -/
def projectRecommendationCard (card : RecommendationFactCard) : List GroundedFact :=
  let stem := "recommendation." ++ card.tradeId.val
  [[⟨dotted stem "family", "Family", card.family.value⟩,
    ⟨dotted stem "symbol", "Symbol", card.symbol.val⟩,
    ⟨dotted stem "direction", "Direction", card.direction.value⟩,
    ⟨dotted stem "entry_price", "Entry price", formatDecimal card.entryPrice⟩,
    ⟨dotted stem "stop_loss", "Stop loss", formatDecimal card.stopLoss⟩,
    ⟨dotted stem "take_profit_levels", "Take-profit levels",
      formatPriceLevels formatDecimal card.takeProfitLevels⟩,
    ⟨dotted stem "approved_volume", "Approved volume", formatDecimal card.approvedVolume⟩,
    ⟨dotted stem "approved_risk_amount", "Approved risk amount",
      formatDecimal card.approvedRiskAmount⟩,
    ⟨dotted stem "account_currency", "Account currency", card.accountCurrency.val⟩],
  optionalFact (dotted stem "tracking_creation_outcome") "Tracking creation outcome"
    MT5TrackedRecommendationCreationOutcome.value card.trackingCreationOutcome,
  optionalFact (dotted stem "tracking_persisted") "Tracking persisted" formatBool
    card.trackingPersisted,
  optionalFact (dotted stem "provenance_persisted") "Provenance persisted" formatBool
    card.provenancePersisted].flatten

/-- The facts of a tracked recommendation. -/
def projectTrackingCard (card : TrackingFactCard) : List GroundedFact :=
  let stem := "tracking." ++ card.tradeId.val
  [[⟨dotted stem "symbol", "Symbol", card.symbol.val⟩,
    ⟨dotted stem "status", "Status", card.status.value⟩],
  optionalFact (dotted stem "matched_position_id") "Matched position id" toString
    card.matchedPositionId,
  optionalFact (dotted stem "pnl") "PnL" formatDecimal card.pnl,
  optionalFact (dotted stem "account_currency") "Account currency" Subtype.val
    card.accountCurrency].flatten

/-- The facts of the cycle as a whole. -/
def buildCycleFacts : List GroundedFact :=
  [[⟨"runtime.outcome", "Runtime cycle outcome", report.outcome.value⟩,
    ⟨"runtime.mt5_runtime_status.state", "MT5 connectivity state",
      report.mt5RuntimeStatus.state.value⟩],
  optionalFact "runtime.mt5_runtime_status.reason" "MT5 connectivity reason" Subtype.val
    report.mt5RuntimeStatus.reason,
  optionalFact "runtime.account_position_mode" "Account position mode" AccountPositionMode.value
    report.accountPositionMode,
  optionalFact "runtime.positions_read_status" "Positions read status"
    MT5PositionsReadStatus.value report.positionsReadStatus,
  optionalFact "runtime.history_read_status" "History read status" MT5HistoryReadStatus.value
    report.historyReadStatus,
  optionalFact "runtime.target_symbol_facts_available" "Target symbol facts available" formatBool
    report.targetSymbolFactsAvailable,
  optionalFact "runtime.account_currency" "Account currency" (fun facts => facts.currency.val)
    report.accountFacts,
  optionalFact "rollover.outcome" "Rollover outcome"
    (fun snapshot => snapshot.rolloverOutcome.value) report.rolloverSnapshot,
  optionalFact "open_risk.outcome" "Open risk assessment outcome"
    (fun assessment => assessment.outcome.value) report.openRiskAssessment,
  optionalFact "realized_pnl.outcome" "Realized daily PnL outcome"
    (fun assessment => assessment.outcome.value) report.realizedDailyPnlAssessment,
  optionalFact "account_risk_snapshot_assembly.outcome" "Account risk snapshot assembly outcome"
    (fun assembly => assembly.outcome.value) report.accountRiskSnapshotAssembly,
  optionalFact "decision_risk_pipeline.outcome" "Decision/risk pipeline outcome"
    (fun result => result.outcome.value) report.decisionRiskPipelineResult,
  optionalFact "final_recommendation.outcome" "Final recommendation outcome"
    (fun result => result.outcome.value) report.finalRecommendationConstructionResult,
  optionalFact "netting_guard.outcome" "Netting guard outcome"
    (fun guard => guard.outcome.value) report.nettingGuardResult,
  optionalFact "netting_guard.account_position_mode" "Netting guard account position mode"
    (fun guard => guard.accountPositionMode.value) report.nettingGuardResult].flatten

/-! ## Warnings -/

/-- A guard's outcome that withholds an issuance. -/
def NettingIssuanceOutcome.Blocks (outcome : NettingIssuanceOutcome) : Prop :=
  outcome = blockedExistingBrokerPosition ∨ outcome = blockedExistingUnresolvedRecommendation ∨
    outcome = blockedMultipleActionableRecommendations

instance decidableWithholds (outcome : NettingIssuanceOutcome) : Decidable outcome.Blocks :=
  inferInstanceAs (Decidable (_ ∨ _ ∨ _))

/-- The warning about a document that could not be read. -/
def excludedWarning (excluded : ExcludedTrackedRecommendation) : GroundedFact where
  factId := "warning.excluded_tracking." ++ excluded.tradeId.val
  label := "Excluded tracked recommendation"
  value := excluded.tradeId.val ++ ": " ++ excluded.readStatus.value

/-- The warning about tracking that could not be written. -/
def trackingWarning (tradeId : TradeId) : GroundedFact where
  factId := "warning.tracking_persistence_failed." ++ tradeId.val
  label := "Tracking persistence failure"
  value := tradeId.val

/-- The warning about a provenance that could not be written. -/
def provenanceWarning (tradeId : TradeId) : GroundedFact where
  factId := "warning.provenance_persistence_failed." ++ tradeId.val
  label := "Provenance persistence failure"
  value := tradeId.val

/-- The warnings about what was created and could not be written. -/
def issuanceWarnings (entry : TrackingIssuancePersistenceOutcome) : List GroundedFact :=
  if entry.trackingCreationOutcome ≠ .created then []
  else
    (if entry.trackingPersisted then [] else [trackingWarning entry.tradeId]) ++
      (if entry.provenancePersisted then [] else [provenanceWarning entry.tradeId])

/-- The warning about a guard that withholds an issuance. -/
def nettingWarning (guard : NettingGuardResult) : GroundedFact where
  factId := "warning.netting_guard_blocked"
  label := "Issuance withheld (account-position-mode safety)"
  value := guard.symbol.val ++ ": " ++ guard.outcome.value

/-- The guard's result when it withholds an issuance. -/
def blockingGuard : Option NettingGuardResult :=
  report.nettingGuardResult.filter fun guard => guard.outcome.Blocks

/-- The warnings about trades, by trade id. -/
def tradeWarnings : List GroundedFact :=
  report.excludedTrackedRecommendations.map excludedWarning ++
    (report.advancedTracking.filter fun entry => ¬ entry.persisted).map
      (fun entry => trackingWarning entry.tradeId) ++
    report.newTrackingPersistenceOutcomes.flatMap issuanceWarnings

/-- The warnings about the cycle as a whole. -/
def cycleWarnings : List GroundedFact :=
  [(blockingGuard report).toList.map nettingWarning,
  optionalFact "warning.target_symbol_facts_unavailable" "Target symbol facts unavailable" formatBool
    (report.targetSymbolFactsAvailable.filter (· = false)),
  optionalFact "warning.positions_unavailable" "Positions read unavailable"
    MT5PositionsReadStatus.value (report.positionsReadStatus.filter (· ≠ .ok)),
  optionalFact "warning.history_unavailable" "History read unavailable"
    MT5HistoryReadStatus.value (report.historyReadStatus.filter (· ≠ .ok)),
  optionalFact "warning.rollover_unusable" "Rollover unusable" MT5RolloverOutcome.value
    ((report.rolloverSnapshot.map MT5RolloverSnapshot.rolloverOutcome).filter fun outcome =>
      ¬ outcome.Usable)].flatten

/-- One warning for each cause of degradation. -/
def buildWarnings : List GroundedFact := tradeWarnings report ++ cycleWarnings report

/-- The context of the explanation of a cycle. -/
def buildExplanationContext : ExplanationContext where
  asOf := report.asOf
  facts := buildCycleFacts report
  recommendationFacts :=
    (buildRecommendationCards report).map (projectRecommendationCard formatDecimal)
  trackingFacts := (buildTrackingCards report).map (projectTrackingCard formatDecimal)
  warnings := buildWarnings report

/-- The ids of the facts that a narrative may cite. -/
def ExplanationContext.factIds (context : ExplanationContext) : List String :=
  context.facts.map GroundedFact.factId ++
    (context.warnings.map GroundedFact.factId ++
      (context.recommendationFacts.flatten.map GroundedFact.factId ++
        context.trackingFacts.flatten.map GroundedFact.factId))

/-! ## A fact id names one fact -/

/-- The fields of a recommendation. -/
def recommendationFields : List String :=
  ["family", "symbol", "direction", "entry_price", "stop_loss", "take_profit_levels",
    "approved_volume", "approved_risk_amount", "account_currency", "tracking_creation_outcome",
    "tracking_persisted", "provenance_persisted"]

/-- The fields of a tracked recommendation. -/
def trackingFields : List String :=
  ["symbol", "status", "matched_position_id", "pnl", "account_currency"]

/-- The ids of the facts of the cycle as a whole. -/
def cycleFactIds : List String :=
  ["runtime.outcome", "runtime.mt5_runtime_status.state", "runtime.mt5_runtime_status.reason",
    "runtime.account_position_mode", "runtime.positions_read_status", "runtime.history_read_status",
    "runtime.target_symbol_facts_available", "runtime.account_currency", "rollover.outcome",
    "open_risk.outcome", "realized_pnl.outcome", "account_risk_snapshot_assembly.outcome",
    "decision_risk_pipeline.outcome", "final_recommendation.outcome", "netting_guard.outcome",
    "netting_guard.account_position_mode"]

/-- The ids of the warnings about the cycle as a whole. -/
def cycleWarningIds : List String :=
  ["warning.netting_guard_blocked", "warning.target_symbol_facts_unavailable",
    "warning.positions_unavailable", "warning.history_unavailable", "warning.rollover_unusable"]

variable {report : CycleReport} {formatDecimal : ℚ → String}

theorem ids_optional {α : Type} {factId label : String} {text : α → String} {value : Option α}
    {groups : List (List GroundedFact)} {ids : List String}
    (h : (groups.flatten.map GroundedFact.factId).Sublist ids) :
    ((optionalFact factId label text value :: groups).flatten.map GroundedFact.factId).Sublist
      (factId :: ids) := by
  rw [List.flatten_cons, List.map_append]
  cases value with
  | none => exact h.cons _
  | some a => exact h.cons_cons _

theorem ids_literal {first : List GroundedFact} {groups : List (List GroundedFact)}
    {ids : List String} (h : (groups.flatten.map GroundedFact.factId).Sublist ids) :
    ((first :: groups).flatten.map GroundedFact.factId).Sublist
      (first.map GroundedFact.factId ++ ids) := by
  rw [List.flatten_cons, List.map_append]
  exact (List.Sublist.refl _).append h

theorem ids_nil : (([] : List (List GroundedFact)).flatten.map GroundedFact.factId).Sublist [] :=
  List.Sublist.refl _

theorem projectRecommendationCard_ids (card : RecommendationFactCard) :
    ((projectRecommendationCard formatDecimal card).map GroundedFact.factId).Sublist
      (recommendationFields.map (dotted ("recommendation." ++ card.tradeId.val))) :=
  ids_literal (ids_optional (ids_optional (ids_optional ids_nil)))

theorem projectTrackingCard_ids (card : TrackingFactCard) :
    ((projectTrackingCard formatDecimal card).map GroundedFact.factId).Sublist
      (trackingFields.map (dotted ("tracking." ++ card.tradeId.val))) :=
  ids_literal (ids_optional (ids_optional (ids_optional ids_nil)))

theorem buildCycleFacts_ids :
    ((buildCycleFacts report).map GroundedFact.factId).Sublist cycleFactIds :=
  ids_literal (ids_optional (ids_optional (ids_optional (ids_optional (ids_optional (ids_optional
    (ids_optional (ids_optional (ids_optional (ids_optional (ids_optional (ids_optional (ids_optional
      (ids_optional ids_nil))))))))))))))

theorem cycleWarnings_ids :
    ((cycleWarnings report).map GroundedFact.factId).Sublist cycleWarningIds := by
  have hrest : ((cycleWarnings report).map GroundedFact.factId).Sublist
      ((blockingGuard report).toList.map (fun _ => "warning.netting_guard_blocked") ++
        cycleWarningIds.tail) := by
    have hguard : (blockingGuard report).toList.map (fun _ => "warning.netting_guard_blocked") =
        ((blockingGuard report).toList.map nettingWarning).map GroundedFact.factId := by
      rw [List.map_map]
      rfl
    rw [hguard]
    exact ids_literal (ids_optional (ids_optional (ids_optional (ids_optional ids_nil))))
  refine hrest.trans ?_
  cases blockingGuard report with
  | none => exact List.sublist_cons_self _ _
  | some guard => exact List.Sublist.refl _

/-! ### The ids under a stem -/

theorem nodup_under {l : List TradeId} (stem : String) (h : l.Nodup) :
    (l.map fun k => stem ++ k.val).Nodup := by
  have hstems := (h.map Subtype.val_injective).map (append_injective stem)
  rwa [List.map_map] at hstems

theorem under_dotted {stem s path : String} {fields : List String} (h : Under stem s)
    (hpath : path ∈ fields.map (dotted s)) : Under stem path := by
  obtain ⟨field, -, rfl⟩ := List.mem_map.mp hpath
  rw [dotted]
  exact (h.append _).append _

section Cards

variable {α : Type} (project : α → List GroundedFact) (tradeId : α → TradeId) (stem : String)
  (fields : List String) (cards : List α)

/-- The cards of different trades have different facts. -/
theorem nodup_cards (hids : ∀ card, ((project card).map GroundedFact.factId).Sublist
      (fields.map (dotted (stem ++ (tradeId card).val))))
    (hfields : fields.Nodup) (hplain : ∀ f ∈ fields, Field f) (h : (cards.map tradeId).Nodup) :
    ((cards.map project).flatten.map GroundedFact.factId).Nodup := by
  have hsub : ((cards.map project).flatten.map GroundedFact.factId).Sublist
      ((cards.map fun card => stem ++ (tradeId card).val).flatMap fun s =>
        fields.map (dotted s)) := by
    rw [List.flatMap_map, ← List.flatMap_def, List.map_flatMap]
    exact List.Sublist.flatMap_right cards fun card _ => hids card
  refine (nodup_dotted ?_ hfields hplain).sublist hsub
  have hstems := nodup_under stem h
  rwa [List.map_map] at hstems

theorem under_cards (hids : ∀ card, ((project card).map GroundedFact.factId).Sublist
      (fields.map (dotted (stem ++ (tradeId card).val)))) :
    ∀ path ∈ (cards.map project).flatten.map GroundedFact.factId, Under stem path := by
  intro path hpath
  obtain ⟨fact, hfact, rfl⟩ := List.mem_map.mp hpath
  obtain ⟨group, hgroup, hfact⟩ := List.mem_flatten.mp hfact
  obtain ⟨card, -, rfl⟩ := List.mem_map.mp hgroup
  exact under_dotted (under_append _ _) ((hids card).subset (List.mem_map_of_mem hfact))

end Cards

/-! ### The ids of the warnings -/

/-- The ids that the warnings about trades may have. -/
def tradeWarningIds (report : CycleReport) : List String :=
  (report.excludedTrackedRecommendations.map fun e =>
      "warning.excluded_tracking." ++ e.tradeId.val) ++
    ((report.advancedTracking.map fun e =>
        "warning.tracking_persistence_failed." ++ e.tradeId.val) ++
      report.newTrackingPersistenceOutcomes.flatMap fun e =>
        ["warning.tracking_persistence_failed." ++ e.tradeId.val,
          "warning.provenance_persistence_failed." ++ e.tradeId.val])

theorem issuanceWarnings_ids (entry : TrackingIssuancePersistenceOutcome) :
    ((issuanceWarnings entry).map GroundedFact.factId).Sublist
      ["warning.tracking_persistence_failed." ++ entry.tradeId.val,
        "warning.provenance_persistence_failed." ++ entry.tradeId.val] := by
  unfold issuanceWarnings
  split_ifs
  · exact List.nil_sublist _
  · exact List.nil_sublist _
  · exact List.sublist_append_right [_] [_]
  · exact List.sublist_append_left [_] [_]
  · exact List.Sublist.refl _

theorem tradeWarnings_ids :
    ((tradeWarnings report).map GroundedFact.factId).Sublist (tradeWarningIds report) := by
  rw [tradeWarnings, tradeWarningIds, List.map_append, List.map_append, List.append_assoc,
    List.map_map, List.map_map, List.map_flatMap]
  refine List.Sublist.append (List.Sublist.refl _) (List.Sublist.append ?_ ?_)
  · exact List.filter_sublist.map _
  · exact List.Sublist.flatMap_right _ fun entry _ => issuanceWarnings_ids entry

theorem apart_failures : Apart "warning.tracking_persistence_failed."
    "warning.provenance_persistence_failed." := by decide +kernel

theorem apart_excluded : Apart "warning.excluded_tracking." "warning.tracking_persistence_failed." ∧
    Apart "warning.excluded_tracking." "warning.provenance_persistence_failed." := by
  decide +kernel

theorem nodup_issuanceIds {l : List TradeId} (h : l.Nodup) :
    (l.flatMap fun k => ["warning.tracking_persistence_failed." ++ k.val,
      "warning.provenance_persistence_failed." ++ k.val]).Nodup := by
  rw [List.nodup_flatMap]
  constructor
  · intro k _
    simp [append_ne apart_failures k.val k.val]
  · refine h.imp fun {k k'} hkk' => ?_
    intro path hk hk'
    have hval : k.val ≠ k'.val := fun heq => hkk' (Subtype.ext heq)
    rcases List.mem_pair.mp hk with rfl | rfl
    · rcases List.mem_pair.mp hk' with heq | heq
      · exact hval (append_injective _ heq)
      · exact append_ne apart_failures _ _ heq
    · rcases List.mem_pair.mp hk' with heq | heq
      · exact append_ne apart_failures _ _ heq.symm
      · exact hval (append_injective _ heq)

/-- **The warnings about trades have different ids.** -/
theorem nodup_tradeWarningIds (h : report.Distinct) : (tradeWarningIds report).Nodup := by
  obtain ⟨hadvanced, hissued, hdisjoint⟩ := List.nodup_append'.mp h.tracked
  rw [← h.issued] at hissued hdisjoint
  refine List.Nodup.append ?_ (List.Nodup.append ?_ ?_ ?_) ?_
  · have hids := nodup_under "warning.excluded_tracking." h.excluded
    rwa [List.map_map] at hids
  · have hids := nodup_under "warning.tracking_persistence_failed." hadvanced
    rwa [List.map_map] at hids
  · have hids := nodup_issuanceIds hissued
    rwa [List.flatMap_map] at hids
  · intro path hold hnew
    obtain ⟨e, he, rfl⟩ := List.mem_map.mp hold
    obtain ⟨e', he', hpath⟩ := List.mem_flatMap.mp hnew
    rcases List.mem_pair.mp hpath with heq | heq
    · have hid : e.tradeId = e'.tradeId := Subtype.ext (append_injective _ heq)
      exact hdisjoint (List.mem_map_of_mem he) (hid ▸ List.mem_map_of_mem he')
    · exact append_ne apart_failures _ _ heq
  · intro path hexcluded hfailed
    obtain ⟨e, -, rfl⟩ := List.mem_map.mp hexcluded
    rcases List.mem_append.mp hfailed with hfailed | hfailed
    · obtain ⟨e', -, heq⟩ := List.mem_map.mp hfailed
      exact append_ne apart_excluded.1 _ _ heq.symm
    · obtain ⟨e', -, hpath⟩ := List.mem_flatMap.mp hfailed
      rcases List.mem_pair.mp hpath with heq | heq
      · exact append_ne apart_excluded.1 _ _ heq
      · exact append_ne apart_excluded.2 _ _ heq

theorem under_tradeWarningIds : ∀ path ∈ tradeWarningIds report,
    Under "warning.excluded_tracking." path ∨ Under "warning.tracking_persistence_failed." path ∨
      Under "warning.provenance_persistence_failed." path := by
  intro path hpath
  rcases List.mem_append.mp hpath with hpath | hpath
  · obtain ⟨e, -, rfl⟩ := List.mem_map.mp hpath
    exact .inl (under_append _ _)
  · rcases List.mem_append.mp hpath with hpath | hpath
    · obtain ⟨e, -, rfl⟩ := List.mem_map.mp hpath
      exact .inr (.inl (under_append _ _))
    · obtain ⟨e, -, hpath⟩ := List.mem_flatMap.mp hpath
      rcases List.mem_pair.mp hpath with rfl | rfl
      · exact .inr (.inl (under_append _ _))
      · exact .inr (.inr (under_append _ _))

theorem cycleWarningIds_apart : ∀ path ∈ cycleWarningIds, Under "warning." path ∧
    ¬ (Under "warning.excluded_tracking." path ∨ Under "warning.tracking_persistence_failed." path ∨
      Under "warning.provenance_persistence_failed." path) := by
  decide +kernel

/-- **The warnings have different ids, all under one stem.** -/
theorem buildWarnings_ids (h : report.Distinct) :
    ((buildWarnings report).map GroundedFact.factId).Nodup ∧
      ∀ path ∈ (buildWarnings report).map GroundedFact.factId, Under "warning." path := by
  have hsub : ((buildWarnings report).map GroundedFact.factId).Sublist
      (tradeWarningIds report ++ cycleWarningIds) := by
    rw [buildWarnings, List.map_append]
    exact tradeWarnings_ids.append cycleWarnings_ids
  have hstems : ∀ stem ∈ ["warning.excluded_tracking.", "warning.tracking_persistence_failed.",
      "warning.provenance_persistence_failed."], Under "warning." stem := by
    decide +kernel
  constructor
  · refine (List.Nodup.append (nodup_tradeWarningIds h) (by decide +kernel) ?_).sublist hsub
    intro path htrade hcycle
    exact (cycleWarningIds_apart path hcycle).2 (under_tradeWarningIds path htrade)
  · intro path hpath
    rcases List.mem_append.mp (hsub.subset hpath) with hpath | hpath
    · rcases under_tradeWarningIds path hpath with hunder | hunder | hunder
      · exact (hstems _ (by simp)).trans hunder
      · exact (hstems _ (by simp)).trans hunder
      · exact (hstems _ (by simp)).trans hunder
    · exact (cycleWarningIds_apart path hpath).1

/-- A warning is that of the guard, or has another id. -/
theorem mem_buildWarnings {fact : GroundedFact} (h : fact ∈ buildWarnings report) :
    (∃ guard ∈ blockingGuard report, fact = nettingWarning guard) ∨
      fact.factId ≠ "warning.netting_guard_blocked" := by
  have hblocked : "warning.netting_guard_blocked" ∈ cycleWarningIds := List.mem_cons_self
  have hothers : "warning.netting_guard_blocked" ∉ cycleWarningIds.tail := by decide +kernel
  rcases List.mem_append.mp h with h | h
  · refine .inr fun heq => ?_
    have hmem := tradeWarnings_ids.subset (List.mem_map_of_mem h)
    rw [heq] at hmem
    exact (cycleWarningIds_apart _ hblocked).2 (under_tradeWarningIds _ hmem)
  · rw [cycleWarnings, List.flatten_cons] at h
    rcases List.mem_append.mp h with h | h
    · obtain ⟨guard, hguard, rfl⟩ := List.mem_map.mp h
      exact .inl ⟨guard, Option.mem_toList.mp hguard, rfl⟩
    · refine .inr fun heq => hothers ?_
      have hmem : fact.factId ∈ cycleWarningIds.tail :=
        (ids_optional (ids_optional (ids_optional (ids_optional ids_nil)))).subset
          (List.mem_map_of_mem h)
      rwa [heq] at hmem

/-! ### All ids -/

theorem buildTrackingCards_tradeIds :
    ((buildTrackingCards report).map TrackingFactCard.tradeId).Sublist report.trackedIds := by
  rw [buildTrackingCards, List.map_append, List.map_map]
  refine List.Sublist.append (List.Sublist.refl _) ?_
  refine Keyed.map_filterMap_sublist ?_ _
  intro r card hcard
  obtain ⟨tracked, -, rfl⟩ := Option.map_eq_some_iff.mp hcard
  rfl

theorem buildRecommendationCards_tradeIds :
    (buildRecommendationCards report).map RecommendationFactCard.tradeId =
      report.recommendations.map FinalRecommendation.tradeId := by
  rw [buildRecommendationCards, List.map_map]
  rfl

theorem cycleFactIds_apart : ∀ path ∈ cycleFactIds,
    ¬ Under "warning." path ∧ ¬ Under "recommendation." path ∧ ¬ Under "tracking." path := by
  decide +kernel

theorem apart_stems : Apart "warning." "recommendation." ∧ Apart "warning." "tracking." ∧
    Apart "recommendation." "tracking." := by
  decide +kernel

/-- **A fact id names one fact of the context**, when the trade ids name different trades. -/
theorem factIds_nodup (formatDecimal : ℚ → String) (h : report.Distinct) :
    (buildExplanationContext report formatDecimal).factIds.Nodup := by
  have hrecommended : ((buildRecommendationCards report).map
      RecommendationFactCard.tradeId).Nodup := by
    rw [buildRecommendationCards_tradeIds]
    exact h.recommended
  have htracked := h.tracked.sublist buildTrackingCards_tradeIds
  obtain ⟨hwarnings, hwarning⟩ := buildWarnings_ids h
  have hrecommendation := under_cards (projectRecommendationCard formatDecimal)
    RecommendationFactCard.tradeId "recommendation." recommendationFields
    (buildRecommendationCards report) projectRecommendationCard_ids
  have htracking := under_cards (projectTrackingCard formatDecimal) TrackingFactCard.tradeId
    "tracking." trackingFields (buildTrackingCards report) projectTrackingCard_ids
  have hcycle (path : String) (hpath : path ∈ (buildCycleFacts report).map GroundedFact.factId) :=
    cycleFactIds_apart path (buildCycleFacts_ids.subset hpath)
  refine List.Nodup.append ?_ (List.Nodup.append hwarnings (List.Nodup.append ?_ ?_ ?_) ?_) ?_
  · exact (by decide +kernel : cycleFactIds.Nodup).sublist buildCycleFacts_ids
  · exact nodup_cards _ _ _ _ _ projectRecommendationCard_ids (by decide +kernel) (by decide +kernel)
      hrecommended
  · exact nodup_cards _ _ _ _ _ projectTrackingCard_ids (by decide +kernel) (by decide +kernel)
      htracked
  · exact disjoint_of_stems apart_stems.2.2 hrecommendation htracking
  · intro path hpath hcards
    rcases List.mem_append.mp hcards with hcard | hcard
    · exact disjoint_of_stems apart_stems.1 hwarning hrecommendation hpath hcard
    · exact disjoint_of_stems apart_stems.2.1 hwarning htracking hpath hcard
  · intro path hpath hothers
    obtain ⟨hnotWarning, hnotRecommendation, hnotTracking⟩ := hcycle path hpath
    rcases List.mem_append.mp hothers with hother | hother
    · exact hnotWarning (hwarning path hother)
    · rcases List.mem_append.mp hother with hother | hother
      · exact hnotRecommendation (hrecommendation path hother)
      · exact hnotTracking (htracking path hother)

end TradingAdvisor
