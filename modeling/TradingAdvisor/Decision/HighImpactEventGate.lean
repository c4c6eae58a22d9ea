import TradingAdvisor.Core.Strategy
import TradingAdvisor.Lib.Keyed
import TradingAdvisor.MarketEvaluation.Context
import Mathlib.Data.List.MinMax
import Mathlib.Data.List.Sort
import Mathlib.Data.String.Basic

/-!
# High-impact event gate

Whether the validity window of a constructed setup is safe to issue against a small allowlist of
scheduled macro events. An event counts only for instruments in its scope: a currency exposure, a
base asset, or a symbol that the operator has configured.

* `IsRelevant` — the scope of an event;
* `eventVerdict` — one event against one validity window;
* `HighImpactEventGate.evaluate` — the verdicts of the constructed setups;
* `evaluateFamily_blocked_iff` — when a setup is blocked.
-/

namespace TradingAdvisor

/-! ## Vocabulary -/

/-- Per-family temporal-safety verdict. -/
inductive HighImpactEventVerdict
  | allowed
  | warned
  | blocked
  deriving DecidableEq, Repr

/-- Why a family is blocked. -/
inductive HighImpactEventBlockReason
  | eventWindowOverlap
  deriving DecidableEq, Repr

/-- Provider-reported importance tier. -/
inductive HighImpactEventImportance
  | none
  | low
  | moderate
  | high
  deriving DecidableEq, Repr

/-- Freshness of the calendar bridge. -/
inductive HighImpactEventDataQuality
  | fresh
  | stale
  | unavailable
  | malformed
  deriving DecidableEq, Repr

/-- One scheduled event of the calendar bridge. -/
structure HighImpactEventRecord where
  providerEventId : NonemptyText
  eventTime : Timestamp
  importance : HighImpactEventImportance
  eventCode : NonemptyText
  deriving DecidableEq

/-- The symbols that the operator has declared for one event code. -/
structure HighImpactEventSymbolOverride where
  eventCode : NonemptyText
  symbols : List Symbol
  symbols_ne_nil : symbols ≠ []

/-- The declared symbols of the event codes that no typed fact gives a scope. -/
structure HighImpactEventSymbolScopeConfig where
  overrides : List HighImpactEventSymbolOverride := []
  nodup : (overrides.map HighImpactEventSymbolOverride.eventCode).Nodup := by decide

/-- No symbols are declared unless they are configured. -/
def defaultSymbolScopeConfig : HighImpactEventSymbolScopeConfig := {}

/-- The symbols declared for an event code. -/
def HighImpactEventSymbolScopeConfig.symbolsFor (config : HighImpactEventSymbolScopeConfig)
    (eventCode : NonemptyText) : List Symbol :=
  match config.overrides.find? fun override => override.eventCode = eventCode with
  | some override => override.symbols
  | none => []

/-- What the calendar bridge read; it carries events only when it is fresh. -/
structure HighImpactEventContext where
  events : List HighImpactEventRecord := []
  dataQuality : HighImpactEventDataQuality
  producer : NonemptyText
  generatedAt : Option Timestamp := none
  fresh_of_events : events ≠ [] → dataQuality = .fresh
  generatedAt_eq_none : dataQuality = .unavailable ∨ dataQuality = .malformed →
    generatedAt = none

theorem generatedAt_of_fresh : HighImpactEventDataQuality.fresh = .unavailable ∨
    HighImpactEventDataQuality.fresh = .malformed → (none : Option Timestamp) = none := fun _ => rfl

/-- The provider's id of the first event of the samples. -/
def firstEvent : NonemptyText := ⟨"1", by decide⟩

/-- The code of an inflation report. -/
def usCpi : NonemptyText := ⟨"US_CPI", by decide⟩

/-- The validity window of a setup. -/
structure CandidateTradeSetup where
  family : StrategyFamily
  signalTime : Timestamp
  validUntil : Timestamp
  timeline : signalTime < validUntil

/-- The setup verdict of one family: a constructed setup, or none. -/
structure SetupConstructionResult where
  family : StrategyFamily
  setup : Option CandidateTradeSetup := none
  family_eq : ∀ s ∈ setup, s.family = family

/-- The setup verdicts of one evaluation, in canonical order. -/
structure StrategySetupResult where
  context : MarketEvaluationContext
  familyResults : List SetupConstructionResult
  canonical : (familyResults.map SetupConstructionResult.family).Sublist StrategyFamily.order

/-! ## Policy -/

/-- The block window starts five minutes before the event. -/
def blockPreWindow : Timestamp := minutes 5

/-- The block window ends five minutes after the event. -/
def blockPostWindow : Timestamp := minutes 5

/-- The warn window starts fifteen minutes before the event. -/
def warnPreWindow : Timestamp := minutes 15

/-- The warn window ends ten minutes after the event. -/
def warnPostWindow : Timestamp := minutes 10

/-- Event codes that can block. -/
def hardBlockEventCodes : List String :=
  ["FOMC", "US_CPI", "US_CORE_CPI", "US_PCE", "US_CORE_PCE", "US_NFP", "US_UNEMPLOYMENT",
    "ECB_RATE_DECISION", "EUROZONE_CPI", "BOE_RATE_DECISION", "UK_CPI", "BOJ_RATE_DECISION",
    "EIA_CRUDE_INVENTORIES"]

/-- Event codes that can only warn. -/
def warnOnlyEventCodes : List String := ["US_GDP", "US_ISM", "US_MAJOR_PMI"]

/-- All event codes the gate looks at. -/
def allowlistedEventCodes : List String := hardBlockEventCodes ++ warnOnlyEventCodes

/-- The currency scope of the event codes that have one. -/
def eventCodeScope (eventCode : String) : Option String :=
  if eventCode ∈ ["FOMC", "US_CPI", "US_CORE_CPI", "US_PCE", "US_CORE_PCE", "US_NFP",
      "US_UNEMPLOYMENT", "US_GDP", "US_ISM", "US_MAJOR_PMI"] then some "USD"
  else if eventCode ∈ ["ECB_RATE_DECISION", "EUROZONE_CPI"] then some "EUR"
  else if eventCode ∈ ["BOE_RATE_DECISION", "UK_CPI"] then some "GBP"
  else if eventCode ∈ ["BOJ_RATE_DECISION"] then some "JPY"
  else none

/-- Event codes whose scope is declared by the operator. -/
def symbolOverrideEventCodes : List String := ["EIA_CRUDE_INVENTORIES"]

/-- Currencies that are scopes. -/
def currencyScopes : List String := ["USD", "EUR", "GBP", "JPY"]

/-- Assets in the dollar's scope. -/
def cryptoUsdSensitiveAssets : List String := ["BTC", "ETH"]

/-- Rank of an importance tier. -/
def HighImpactEventImportance.rank : HighImpactEventImportance → ℕ
  | none => 0
  | low => 1
  | moderate => 2
  | high => 3

/-- The least importance with which an event code blocks. -/
def hardBlockMinImportance (eventCode : String) : HighImpactEventImportance :=
  if eventCode = "FOMC" then .moderate else .high

/-! ## The gate -/

/-- The scope tags of an instrument. -/
def instrumentScopeTags (context : MarketEvaluationContext) : List String :=
  (context.currencyExposures.map Subtype.val).filter (· ∈ currencyScopes) ++
    if ∃ asset ∈ context.baseAsset, asset.val ∈ cryptoUsdSensitiveAssets then ["USD"] else []

/-- The event is relevant to the instrument. -/
def IsRelevant (event : HighImpactEventRecord) (symbol : Symbol) (scopeTags : List String)
    (symbolScopeConfig : Option HighImpactEventSymbolScopeConfig) : Prop :=
  event.importance ∉ [.none, .low] ∧ event.eventCode.val ∈ allowlistedEventCodes ∧
    if event.eventCode.val ∈ symbolOverrideEventCodes then
      ∃ config ∈ symbolScopeConfig, symbol ∈ config.symbolsFor event.eventCode
    else ∃ tag ∈ eventCodeScope event.eventCode, tag ∈ scopeTags

instance (event : HighImpactEventRecord) (symbol : Symbol) (scopeTags : List String)
    (symbolScopeConfig : Option HighImpactEventSymbolScopeConfig) :
    Decidable (IsRelevant event symbol scopeTags symbolScopeConfig) :=
  inferInstanceAs (Decidable (_ ∧ _ ∧ _))

/-- The event is able to block. -/
def IsHardBlockEligible (event : HighImpactEventRecord) : Prop :=
  event.eventCode.val ∈ hardBlockEventCodes ∧
    (hardBlockMinImportance event.eventCode).rank ≤ event.importance.rank

instance (event : HighImpactEventRecord) : Decidable (IsHardBlockEligible event) :=
  inferInstanceAs (Decidable (_ ∧ _))

/-- The validity window and the event window share a positive duration. -/
def Overlaps (signalTime validUntil windowStart windowEnd : Timestamp) : Prop :=
  signalTime < windowEnd ∧ windowStart < validUntil

instance (signalTime validUntil windowStart windowEnd : Timestamp) :
    Decidable (Overlaps signalTime validUntil windowStart windowEnd) :=
  inferInstanceAs (Decidable (_ ∧ _))

/-- The verdict of one event, with the end of its block window when it blocks. -/
def eventVerdict (event : HighImpactEventRecord) (signalTime validUntil : Timestamp) :
    HighImpactEventVerdict × Option Timestamp :=
  if IsHardBlockEligible event ∧ Overlaps signalTime validUntil
      (event.eventTime - blockPreWindow) (event.eventTime + blockPostWindow) then
    (.blocked, some (event.eventTime + blockPostWindow))
  else if Overlaps signalTime validUntil
      (event.eventTime - warnPreWindow) (event.eventTime + warnPostWindow) then
    (.warned, none)
  else (.allowed, none)

/-- Severity of a verdict. -/
def HighImpactEventVerdict.severity : HighImpactEventVerdict → ℕ
  | allowed => 0
  | warned => 1
  | blocked => 2

/-- The worst of some verdicts. -/
def worstVerdict (verdicts : List HighImpactEventVerdict) : HighImpactEventVerdict :=
  verdicts.foldl (fun worst v => if worst.severity < v.severity then v else worst) .allowed

/-- Chronological order, by provider id within an instant. -/
def HighImpactEventRecord.Before (a b : HighImpactEventRecord) : Prop :=
  a.eventTime < b.eventTime ∨
    (a.eventTime = b.eventTime ∧ a.providerEventId ≤ b.providerEventId)

instance : DecidableRel HighImpactEventRecord.Before :=
  fun _ _ => inferInstanceAs (Decidable (_ ∨ _))

instance : IsTrans HighImpactEventRecord HighImpactEventRecord.Before where
  trans a b c hab hbc := by
    rcases hab with hab | ⟨hab, hid⟩ <;> rcases hbc with hbc | ⟨hbc, hid'⟩
    · exact .inl (hab.trans hbc)
    · exact .inl (hbc ▸ hab)
    · exact .inl (hab ▸ hbc)
    · exact .inr ⟨hab.trans hbc, hid.trans hid'⟩

instance : Std.Total HighImpactEventRecord.Before where
  total a b := by
    rcases lt_trichotomy a.eventTime b.eventTime with hlt | heq | hgt
    · exact .inl (.inl hlt)
    · exact (le_total a.providerEventId b.providerEventId).imp (fun h => .inr ⟨heq, h⟩)
        fun h => .inr ⟨heq.symm, h⟩
    · exact .inr (.inl hgt)

theorem eventVerdict_blocked_iff {event : HighImpactEventRecord} {signalTime validUntil : Timestamp} :
    (eventVerdict event signalTime validUntil).1 = .blocked ↔
      IsHardBlockEligible event ∧ Overlaps signalTime validUntil
        (event.eventTime - blockPreWindow) (event.eventTime + blockPostWindow) := by
  unfold eventVerdict
  split_ifs with hblock <;> simp [hblock]

theorem worstVerdict_blocked_iff {verdicts : List HighImpactEventVerdict} :
    worstVerdict verdicts = .blocked ↔ .blocked ∈ verdicts := by
  have hfold (worst : HighImpactEventVerdict) : verdicts.foldl (fun worst v =>
      if worst.severity < v.severity then v else worst) worst = .blocked ↔
        worst = .blocked ∨ .blocked ∈ verdicts := by
    induction verdicts generalizing worst with
    | nil => simp
    | cons v verdicts ih =>
        rw [List.foldl_cons, ih, List.mem_cons]
        cases worst <;> cases v <;> simp [HighImpactEventVerdict.severity]
  rw [worstVerdict, hfold]
  exact or_iff_right (by decide)

theorem foldl_severity_le_iff (verdicts : List HighImpactEventVerdict)
    (worst : HighImpactEventVerdict) (n : ℕ) :
    (verdicts.foldl (fun worst v =>
        if worst.severity < v.severity then v else worst) worst).severity ≤ n ↔
      worst.severity ≤ n ∧ ∀ v ∈ verdicts, v.severity ≤ n := by
  induction verdicts generalizing worst with
  | nil => simp
  | cons v verdicts ih =>
      rw [List.foldl_cons, ih, List.forall_mem_cons, ← and_assoc]
      refine and_congr_left fun _ => ?_
      split_ifs with hworse
      · omega
      · omega

/-- The worst verdict is the least upper bound of the verdicts. -/
theorem worstVerdict_severity_le_iff {verdicts : List HighImpactEventVerdict} {n : ℕ} :
    (worstVerdict verdicts).severity ≤ n ↔ ∀ v ∈ verdicts, v.severity ≤ n := by
  rw [worstVerdict, foldl_severity_le_iff]
  exact and_iff_right (Nat.zero_le n)

theorem worstVerdict_severity_mono {verdicts verdicts' : List HighImpactEventVerdict}
    (h : verdicts ⊆ verdicts') :
    (worstVerdict verdicts).severity ≤ (worstVerdict verdicts').severity :=
  worstVerdict_severity_le_iff.mpr fun _ hv =>
    worstVerdict_severity_le_iff.mp (le_refl _) _ (h hv)

theorem HighImpactEventVerdict.severity_injective :
    Function.Injective HighImpactEventVerdict.severity := by
  intro a b h
  cases a <;> cases b <;> first
    | rfl
    | cases h

/-- The verdict of one constructed setup. -/
structure HighImpactEventFamilyResult where
  family : StrategyFamily
  verdict : HighImpactEventVerdict
  relevantEvents : List HighImpactEventRecord
  reasons : List HighImpactEventBlockReason := []
  nextSafeTime : Option Timestamp := none
  dataQuality : HighImpactEventDataQuality
  reasons_eq : reasons = if verdict = .blocked then [.eventWindowOverlap] else []
  nextSafeTime_iff : nextSafeTime.isSome ↔ verdict = .blocked
  ordered : relevantEvents.Pairwise HighImpactEventRecord.Before

/-- The verdicts of the constructed setups, in canonical order. -/
structure HighImpactEventRiskResult where
  asOf : Timestamp
  familyResults : List HighImpactEventFamilyResult
  producer : NonemptyText
  generatedAt : Option Timestamp := none
  canonical :
    (familyResults.map HighImpactEventFamilyResult.family).Sublist StrategyFamily.order

/-- The relevant events, in chronological order. -/
def relevantEvents (events : List HighImpactEventRecord) (symbol : Symbol)
    (scopeTags : List String) (symbolScopeConfig : Option HighImpactEventSymbolScopeConfig) :
    List HighImpactEventRecord :=
  (events.filter fun event =>
    IsRelevant event symbol scopeTags symbolScopeConfig).insertionSort HighImpactEventRecord.Before

/-- The verdicts of some events on a validity window. -/
def windowVerdicts (relevant : List HighImpactEventRecord) (setup : CandidateTradeSetup) :
    List HighImpactEventVerdict :=
  relevant.map fun event => (eventVerdict event setup.signalTime setup.validUntil).1

/-- The ends of the block windows that a validity window runs into. -/
def blockEndTimes (relevant : List HighImpactEventRecord) (setup : CandidateTradeSetup) :
    List Timestamp :=
  relevant.filterMap fun event => (eventVerdict event setup.signalTime setup.validUntil).2

theorem blockEndTimes_ne_nil {relevant : List HighImpactEventRecord} {setup : CandidateTradeSetup}
    (h : worstVerdict (windowVerdicts relevant setup) = .blocked) :
    blockEndTimes relevant setup ≠ [] := by
  obtain ⟨event, hmem, hverdict⟩ := List.mem_map.mp (worstVerdict_blocked_iff.mp h)
  have hend : (eventVerdict event setup.signalTime setup.validUntil).2 =
      some (event.eventTime + blockPostWindow) :=
    congrArg Prod.snd (if_pos (eventVerdict_blocked_iff.mp hverdict))
  exact List.ne_nil_of_mem (List.mem_filterMap.mpr ⟨event, hmem, hend⟩)

/-- The verdict of one setup against the relevant events. -/
def evaluateFamily (setup : CandidateTradeSetup) (symbol : Symbol) (scopeTags : List String)
    (symbolScopeConfig : Option HighImpactEventSymbolScopeConfig)
    (events : List HighImpactEventRecord) (dataQuality : HighImpactEventDataQuality) :
    HighImpactEventFamilyResult :=
  let relevant := relevantEvents events symbol scopeTags symbolScopeConfig
  if hblocked : worstVerdict (windowVerdicts relevant setup) = .blocked then
    { family := setup.family
      verdict := .blocked
      relevantEvents := relevant
      reasons := [.eventWindowOverlap]
      nextSafeTime := (blockEndTimes relevant setup).max?
      dataQuality
      reasons_eq := rfl
      nextSafeTime_iff := by
        rw [List.isSome_max?_iff]
        exact iff_of_true (blockEndTimes_ne_nil hblocked) rfl
      ordered := List.pairwise_insertionSort _ _ }
  else
    { family := setup.family
      verdict := worstVerdict (windowVerdicts relevant setup)
      relevantEvents := relevant
      nextSafeTime := none
      dataQuality
      reasons_eq := (if_neg hblocked).symm
      nextSafeTime_iff := iff_of_false Bool.false_ne_true hblocked
      ordered := List.pairwise_insertionSort _ _ }

section Family

variable {setup : CandidateTradeSetup} {symbol : Symbol} {scopeTags : List String}
  {symbolScopeConfig : Option HighImpactEventSymbolScopeConfig}
  {events : List HighImpactEventRecord} {dataQuality : HighImpactEventDataQuality}

theorem evaluateFamily_family :
    (evaluateFamily setup symbol scopeTags symbolScopeConfig events dataQuality).family =
      setup.family := by
  dsimp only [evaluateFamily]
  split_ifs <;> rfl

theorem evaluateFamily_verdict :
    (evaluateFamily setup symbol scopeTags symbolScopeConfig events dataQuality).verdict =
      worstVerdict
        (windowVerdicts (relevantEvents events symbol scopeTags symbolScopeConfig) setup) := by
  dsimp only [evaluateFamily]
  split_ifs with hblocked
  · exact hblocked.symm
  · rfl

/-- **A setup is blocked exactly by a relevant event that is able to block** and whose block window
shares a positive duration with the setup's validity. -/
theorem evaluateFamily_blocked_iff :
    (evaluateFamily setup symbol scopeTags symbolScopeConfig events dataQuality).verdict =
        .blocked ↔
      ∃ event ∈ events, IsRelevant event symbol scopeTags symbolScopeConfig ∧
        IsHardBlockEligible event ∧ Overlaps setup.signalTime setup.validUntil
          (event.eventTime - blockPreWindow) (event.eventTime + blockPostWindow) := by
  simp only [evaluateFamily_verdict, worstVerdict_blocked_iff, windowVerdicts, relevantEvents,
    List.mem_map, List.mem_insertionSort, List.mem_filter, decide_eq_true_eq,
    eventVerdict_blocked_iff, and_assoc]

/-- More events never make a verdict less severe. -/
theorem evaluateFamily_severity_mono {events' : List HighImpactEventRecord}
    {dataQuality' : HighImpactEventDataQuality} (h : events ⊆ events') :
    (evaluateFamily setup symbol scopeTags symbolScopeConfig events dataQuality).verdict.severity ≤
      (evaluateFamily setup symbol scopeTags symbolScopeConfig events'
        dataQuality').verdict.severity := by
  rw [evaluateFamily_verdict, evaluateFamily_verdict]
  refine worstVerdict_severity_mono fun v hv => ?_
  simp only [windowVerdicts, relevantEvents, List.mem_map, List.mem_insertionSort,
    List.mem_filter] at hv ⊢
  obtain ⟨event, ⟨hevent, hrelevant⟩, hverdict⟩ := hv
  exact ⟨event, ⟨h hevent, hrelevant⟩, hverdict⟩

end Family

namespace HighImpactEventGate

/-- The events of a context; a missing context carries none. -/
def events (context : Option HighImpactEventContext) : List HighImpactEventRecord :=
  context.elim [] HighImpactEventContext.events

/-- The verdict of one setup result; only a constructed setup has one. -/
def familyResult (s : StrategySetupResult) (context : Option HighImpactEventContext)
    (symbolScopeConfig : Option HighImpactEventSymbolScopeConfig)
    (result : SetupConstructionResult) : Option HighImpactEventFamilyResult :=
  result.setup.map fun setup =>
    evaluateFamily setup s.context.symbol (instrumentScopeTags s.context) symbolScopeConfig
      (events context) (context.elim .unavailable HighImpactEventContext.dataQuality)

/-- Evaluate every constructed setup against the tracked events. -/
def evaluate (s : StrategySetupResult) (context : Option HighImpactEventContext)
    (asOf : Timestamp) (symbolScopeConfig : Option HighImpactEventSymbolScopeConfig) :
    HighImpactEventRiskResult where
  asOf
  familyResults := s.familyResults.filterMap (familyResult s context symbolScopeConfig)
  producer := context.elim ⟨"unavailable", by decide⟩ HighImpactEventContext.producer
  generatedAt := context.bind HighImpactEventContext.generatedAt
  canonical := by
    refine (Keyed.map_filterMap_sublist ?_ _).trans s.canonical
    intro result verdict h
    obtain ⟨setup, hsetup, rfl⟩ := Option.map_eq_some_iff.mp h
    exact evaluateFamily_family.trans (result.family_eq setup hsetup)

variable {s : StrategySetupResult} {context : Option HighImpactEventContext} {asOf : Timestamp}
  {symbolScopeConfig : Option HighImpactEventSymbolScopeConfig}

/-- The verdicts of an evaluation are those of its constructed setups. -/
theorem mem_evaluate {verdict : HighImpactEventFamilyResult} :
    verdict ∈ (evaluate s context asOf symbolScopeConfig).familyResults ↔
      ∃ result ∈ s.familyResults, ∃ setup ∈ result.setup,
        evaluateFamily setup s.context.symbol (instrumentScopeTags s.context) symbolScopeConfig
          (events context) (context.elim .unavailable HighImpactEventContext.dataQuality) =
            verdict := by
  simp only [evaluate, familyResult, List.mem_filterMap, Option.map_eq_some_iff, Option.mem_def]

end HighImpactEventGate

end TradingAdvisor
