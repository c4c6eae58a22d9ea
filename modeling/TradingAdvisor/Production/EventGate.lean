import TradingAdvisor.Production.Bootstrap

/-!
# The event gate in production

The gate blocks only on events in the scope that the configuration declares. A configuration built
from the environment declares none.

* `GateLive` — some event code blocks every setup that overlaps its window;
* **`gateLive_iff`** — a configuration makes the gate live exactly when it declares a scope;
* **`gate_not_live`** — no configuration built from the environment does.
-/

namespace TradingAdvisor

open Checks

variable {F : Type}

/-- The gate in a cycle of this configuration. -/
def evaluateGate (config : ProductionAdvisoryConfig F) (setups : StrategySetupResult)
    (context : HighImpactEventContext) (asOf : Timestamp) : HighImpactEventRiskResult :=
  HighImpactEventGate.evaluate { setups with context := config.context } (some context) asOf
    (some config.eventSymbolScopeConfig)

/-- The gate blocks this family. -/
def Blocks (result : HighImpactEventRiskResult) (family : StrategyFamily) : Prop :=
  ∃ verdict ∈ result.familyResults, verdict.family = family ∧ verdict.verdict = .blocked

instance (result : HighImpactEventRiskResult) (family : StrategyFamily) :
    Decidable (Blocks result family) :=
  inferInstanceAs (Decidable (∃ verdict ∈ result.familyResults, _))

/-- An important event of this code at time `t` blocks every constructed setup whose validity
overlaps `(t - 5 min, t + 5 min)` with positive duration. -/
def BlocksAt (config : ProductionAdvisoryConfig F) (code : NonemptyText) (t : Timestamp) : Prop :=
  ∀ setups context asOf event result setup, context.dataQuality = .fresh → event ∈ context.events →
    event.eventCode = code → event.importance = .high → event.eventTime = t →
      result ∈ setups.familyResults → result.setup = some setup →
        max setup.signalTime (t - minutes 5) < min setup.validUntil (t + minutes 5) →
          Blocks (evaluateGate config setups context asOf) setup.family

/-- The gate is live: some event code that can block does so at every time. -/
def GateLive (config : ProductionAdvisoryConfig F) : Prop :=
  ∃ code : NonemptyText, code.val ∈ hardBlockEventCodes ∧ ∀ t, BlocksAt config code t

/-- The event code whose symbols the operator declares. -/
def eiaCrudeInventories : NonemptyText := ⟨"EIA_CRUDE_INVENTORIES", by decide⟩

/-- The configuration declares the instrument to be in the scope of some event code. -/
def DeclaresScope (config : ProductionAdvisoryConfig F) : Prop :=
  (∃ currency ∈ config.currencyExposures, currency.val ∈ currencyScopes) ∨
    (∃ asset ∈ config.baseAsset, asset.val ∈ cryptoUsdSensitiveAssets) ∨
    config.symbolMapping.binanceSymbol ∈
      config.eventSymbolScopeConfig.symbolsFor eiaCrudeInventories

variable {config : ProductionAdvisoryConfig F} {setups : StrategySetupResult}
  {context : HighImpactEventContext} {asOf : Timestamp} {event : HighImpactEventRecord}

/-- The event is relevant to the instrument of this configuration. -/
def ConfigRelevant (config : ProductionAdvisoryConfig F) (event : HighImpactEventRecord) : Prop :=
  IsRelevant event config.symbolMapping.binanceSymbol (instrumentScopeTags config.context)
    (some config.eventSymbolScopeConfig)

theorem mem_instrumentScopeTags {c : MarketEvaluationContext} {tag : String} :
    tag ∈ instrumentScopeTags c ↔
      (tag ∈ currencyScopes ∧ ∃ currency ∈ c.currencyExposures, currency.val = tag) ∨
        (tag = "USD" ∧ ∃ asset ∈ c.baseAsset, asset.val ∈ cryptoUsdSensitiveAssets) := by
  unfold instrumentScopeTags
  rw [List.mem_append, List.mem_filter, decide_eq_true_eq, List.mem_map, and_comm]
  refine or_congr_right ?_
  split_ifs with hasset
  · rw [List.mem_singleton, and_iff_left hasset]
  · exact iff_of_false List.not_mem_nil fun h => hasset h.2

/-- Only a declared scope makes an event relevant. -/
theorem ConfigRelevant.declaresScope (h : ConfigRelevant config event) :
    DeclaresScope config := by
  obtain ⟨-, -, hscope⟩ := h
  split_ifs at hscope with hoverride
  · obtain ⟨scopes, hscopes, hsymbol⟩ := hscope
    cases hscopes
    have hcode : event.eventCode = eiaCrudeInventories :=
      Subtype.ext (List.mem_singleton.mp hoverride)
    exact .inr (.inr (hcode ▸ hsymbol))
  · obtain ⟨tag, -, htag⟩ := hscope
    rcases mem_instrumentScopeTags.mp htag with ⟨hcurrency, currency, hmem, rfl⟩ | ⟨-, hasset⟩
    · exact .inl ⟨currency, hmem, hcurrency⟩
    · exact .inr (.inl hasset)

theorem blocks_iff {family : StrategyFamily} :
    Blocks (evaluateGate config setups context asOf) family ↔
      ∃ result ∈ setups.familyResults, ∃ setup ∈ result.setup, setup.family = family ∧
        ∃ event ∈ context.events, ConfigRelevant config event ∧ IsHardBlockEligible event ∧
          Overlaps setup.signalTime setup.validUntil
            (event.eventTime - blockPreWindow) (event.eventTime + blockPostWindow) := by
  unfold Blocks evaluateGate
  constructor
  · rintro ⟨verdict, hmem, hfamily, hblocked⟩
    obtain ⟨result, hresult, setup, hsetup, rfl⟩ := HighImpactEventGate.mem_evaluate.mp hmem
    exact ⟨result, hresult, setup, hsetup, evaluateFamily_family.symm.trans hfamily,
      evaluateFamily_blocked_iff.mp hblocked⟩
  · rintro ⟨result, hresult, setup, hsetup, hfamily, hblocked⟩
    exact ⟨_, HighImpactEventGate.mem_evaluate.mpr ⟨result, hresult, setup, hsetup, rfl⟩,
      evaluateFamily_family.trans hfamily, evaluateFamily_blocked_iff.mpr hblocked⟩

theorem hardBlockEligible_of_high (hcode : event.eventCode.val ∈ hardBlockEventCodes)
    (himportance : event.importance = .high) : IsHardBlockEligible event := by
  refine ⟨hcode, ?_⟩
  rw [himportance]
  unfold hardBlockMinImportance
  split_ifs <;> decide

/-- A code whose important events are all relevant makes the gate live. -/
theorem gateLive_of_relevant {code : NonemptyText} (hcode : code.val ∈ hardBlockEventCodes)
    (hrelevant : ∀ event : HighImpactEventRecord, event.eventCode = code →
      event.importance = .high → ConfigRelevant config event) : GateLive config := by
  refine ⟨code, hcode, ?_⟩
  rintro t setups context asOf event result setup - hevent rfl himportance rfl hresult hsetup hoverlap
  rw [max_lt_iff, lt_min_iff, lt_min_iff] at hoverlap
  exact blocks_iff.mpr ⟨result, hresult, setup, hsetup, rfl, event, hevent,
    hrelevant event rfl himportance, hardBlockEligible_of_high hcode himportance,
    hoverlap.1.2, hoverlap.2.1⟩

theorem configRelevant_of_tag {tag : String} (himportance : event.importance = .high)
    (hcode : event.eventCode.val ∈ allowlistedEventCodes)
    (hoverride : event.eventCode.val ∉ symbolOverrideEventCodes)
    (hscope : eventCodeScope event.eventCode = some tag)
    (htag : tag ∈ instrumentScopeTags config.context) : ConfigRelevant config event := by
  refine ⟨by rw [himportance]; decide, hcode, ?_⟩
  rw [if_neg hoverride]
  exact ⟨tag, hscope, htag⟩

theorem exists_code_of_scope {tag : String} (htag : tag ∈ currencyScopes) :
    ∃ code : NonemptyText, code.val ∈ hardBlockEventCodes ∧ code.val ∉ symbolOverrideEventCodes ∧
      eventCodeScope code = some tag := by
  simp only [currencyScopes, List.mem_cons, List.not_mem_nil, or_false] at htag
  rcases htag with rfl | rfl | rfl | rfl
  · exact ⟨⟨"US_NFP", by decide⟩, by decide, by decide, by decide⟩
  · exact ⟨⟨"EUROZONE_CPI", by decide⟩, by decide, by decide, by decide⟩
  · exact ⟨⟨"UK_CPI", by decide⟩, by decide, by decide, by decide⟩
  · exact ⟨⟨"BOJ_RATE_DECISION", by decide⟩, by decide, by decide, by decide⟩

theorem gateLive_of_tag {tag : String} (hcurrency : tag ∈ currencyScopes)
    (htag : tag ∈ instrumentScopeTags config.context) : GateLive config := by
  obtain ⟨code, hcode, hoverride, hscope⟩ := exists_code_of_scope hcurrency
  refine gateLive_of_relevant hcode fun event hevent himportance => ?_
  subst hevent
  exact configRelevant_of_tag himportance (List.mem_append_left _ hcode) hoverride hscope htag

theorem relevant_of_blocksAt {code : NonemptyText} (h : BlocksAt config code 0) :
    ∃ event : HighImpactEventRecord, event.eventCode = code ∧ ConfigRelevant config event := by
  let event : HighImpactEventRecord :=
    { providerEventId := ⟨"event", by decide⟩, eventTime := 0, importance := .high
      eventCode := code }
  let context : HighImpactEventContext :=
    { events := [event], dataQuality := .fresh, producer := ⟨"bridge", by decide⟩
      fresh_of_events := fun _ => rfl, generatedAt_eq_none := fun _ => rfl }
  let setup : CandidateTradeSetup :=
    { family := .breakout, signalTime := 0, validUntil := minutes 1, timeline := by decide }
  let result : SetupConstructionResult :=
    { family := .breakout, setup := some setup, family_eq := by rintro s ⟨⟩; rfl }
  let setups : StrategySetupResult :=
    { context := config.context, familyResults := [result], canonical := by decide }
  have hblocks := h setups context 0 event result setup rfl (List.mem_singleton_self _) rfl rfl rfl
    (List.mem_singleton_self _) rfl (by decide)
  obtain ⟨-, -, -, -, -, event', hevent', hrelevant, -⟩ := blocks_iff.mp hblocks
  obtain rfl : event' = event := List.mem_singleton.mp hevent'
  exact ⟨event, rfl, hrelevant⟩

/-- **The gate is live exactly for a configuration that declares a scope.** -/
theorem gateLive_iff : GateLive config ↔ DeclaresScope config := by
  constructor
  · rintro ⟨code, -, hblocks⟩
    obtain ⟨event, rfl, hrelevant⟩ := relevant_of_blocksAt (hblocks 0)
    exact hrelevant.declaresScope
  · rintro (⟨currency, hmem, hcurrency⟩ | hasset | hsymbol)
    · exact gateLive_of_tag hcurrency
        (mem_instrumentScopeTags.mpr (.inl ⟨hcurrency, currency, hmem, rfl⟩))
    · exact gateLive_of_tag (by decide) (mem_instrumentScopeTags.mpr (.inr ⟨rfl, hasset⟩))
    · have hcode : eiaCrudeInventories.val ∈ hardBlockEventCodes := by decide
      refine gateLive_of_relevant hcode fun event hevent himportance => ?_
      refine ⟨by rw [himportance]; decide, by rw [hevent]; decide, ?_⟩
      rw [if_pos (by rw [hevent]; decide), hevent]
      exact ⟨_, rfl, hsymbol⟩

theorem not_declaresScope {py : Runtime F} {env : Environment} {defaultTimeout : F}
    (h : buildProductionAdvisoryConfigFromEnv py env defaultTimeout = .ok config) :
    ¬ DeclaresScope config := by
  obtain ⟨hcurrencies, hasset, hoverrides⟩ := build_ok_scopeless h
  rintro (⟨currency, hmem, -⟩ | ⟨asset, hmem, -⟩ | hsymbol)
  · rw [hcurrencies] at hmem
    cases hmem
  · rw [hasset] at hmem
    cases hmem
  · rw [HighImpactEventSymbolScopeConfig.symbolsFor, hoverrides] at hsymbol
    cases hsymbol

/-- **The gate is never live in production**: no configuration built from the environment declares
a scope. -/
theorem gate_not_live (py : Runtime F) (env : Environment) (defaultTimeout : F)
    (config : ProductionAdvisoryConfig F)
    (h : buildProductionAdvisoryConfigFromEnv py env defaultTimeout = .ok config) :
    ¬ GateLive config :=
  gateLive_iff.not.mpr (not_declaresScope h)

/-- The interpreter on text without surrounding whitespace. -/
def sampleRuntime : Runtime ℚ where
  strip := id
  lower := String.toLower
  repr := fun s => "'" ++ s ++ "'"
  int := String.toInt?
  float := fun s => s.toInt?.map Int.cast
  nonpositive := fun q => q ≤ 0
  positive := fun q => 0 < q
  zoneInfo := fun s => if s = "UTC" then .ok () else .error .notFound

/-- The required variables, for BTCUSDT. -/
def sampleEnvironment : Environment
  | "ADVISORY_LOGICAL_SYMBOL" => some "BTCUSD"
  | "ADVISORY_BINANCE_SYMBOL" => some "BTCUSDT"
  | "ADVISORY_MT5_SYMBOL" => some "BTCUSD"
  | "ADVISORY_CONTRACT_TYPE" => some "PERPETUAL"
  | "ADVISORY_MARKET" => some "CRYPTO"
  | "MT5_ROLLOVER_TIMEZONE" => some "UTC"
  | "CALENDAR_BRIDGE_PATH" => some "calendar.json"
  | "CALENDAR_SERVER_TIMEZONE" => some "UTC"
  | _ => none

theorem gate_not_live_sample : ∃ config,
    buildProductionAdvisoryConfigFromEnv sampleRuntime sampleEnvironment 30 = .ok config ∧
      ¬ GateLive config := by
  have hok : (buildProductionAdvisoryConfigFromEnv sampleRuntime sampleEnvironment 30).isOk =
      true := by decide +kernel
  obtain ⟨config, hconfig⟩ := isOk_iff.mp hok
  exact ⟨config, hconfig, gate_not_live sampleRuntime sampleEnvironment 30 config hconfig⟩

/-- A setup that is valid for five minutes from the epoch. -/
def sampleSetups : StrategySetupResult where
  context := { symbol := btcusdt, contractType := .perpetual, onChainPair := onChainPair_none }
  familyResults :=
    [{ family := .breakout
       setup := some
        { family := .breakout, signalTime := 0, validUntil := minutes 5, timeline := by decide }
       family_eq := by rintro s ⟨⟩; rfl }]
  canonical := by decide

/-- Important payrolls and rate decisions, two minutes into the setup. -/
def sampleNews : HighImpactEventContext where
  events :=
    [{ providerEventId := firstEvent, eventTime := minutes 2, importance := .high
       eventCode := ⟨"US_NFP", by decide⟩ },
     { providerEventId := ⟨"2", by decide⟩, eventTime := minutes 2, importance := .high
       eventCode := ⟨"FOMC", by decide⟩ }]
  dataQuality := .fresh
  producer := ⟨"mt5_calendar_bridge", by decide⟩
  fresh_of_events := fun _ => rfl
  generatedAt_eq_none := generatedAt_of_fresh

/-- The environment of BTCUSDT is accepted, and payrolls in the middle of a setup are allowed. -/
theorem payrolls_allowed : ∃ config,
    buildProductionAdvisoryConfigFromEnv sampleRuntime sampleEnvironment 30 = .ok config ∧
      (evaluateGate config sampleSetups sampleNews 0).familyResults.map
        HighImpactEventFamilyResult.verdict = [.allowed] ∧ ¬ GateLive config := by
  have hrun : (buildProductionAdvisoryConfigFromEnv sampleRuntime sampleEnvironment 30).map
      (fun config => (evaluateGate config sampleSetups sampleNews 0).familyResults.map
        HighImpactEventFamilyResult.verdict) = .ok [.allowed] := by decide +kernel
  obtain ⟨config, hconfig, hverdicts⟩ := map_ok_iff.mp hrun
  exact ⟨config, hconfig, hverdicts, gateLive_iff.not.mpr (not_declaresScope hconfig)⟩

end TradingAdvisor
