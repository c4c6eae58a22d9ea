import TradingAdvisor.Lib.Checks
import TradingAdvisor.Production.Config

/-!
# Configuration from the environment

The production configuration is built from named environment variables only.

* `Runtime` — what the interpreter provides: text, numbers and time zones;
* `buildProductionAdvisoryConfigFromEnv` — the configuration, or why there is none;
* **`build_ok_scopeless`** — a configuration built this way declares no scope at all.
-/

namespace TradingAdvisor

open Checks

/-- Why a time zone cannot be loaded. -/
inductive ZoneError
  | notFound
  | value (message : String)

/-- What the interpreter provides. -/
structure Runtime (F : Type) where
  strip : String → String
  lower : String → String
  repr : String → String
  int : String → Option ℤ
  float : String → Option F
  nonpositive : F → Bool
  positive : F → Bool
  zoneInfo : String → Except ZoneError Unit

/-- One error of a model: the path of its field and its message. -/
abbrev FieldError := String × String

/-- Why no configuration is built. -/
inductive BootstrapError
  | configuration (message : String)
  | validation (errors : List FieldError)
  deriving DecidableEq

/-- The environment variables of a process. -/
abbrev Environment := String → Option String

variable {F : Type} (py : Runtime F) (env : Environment)

/-! ## Variables -/

/-- A variable that must be set. -/
def requireEnv (name : String) : Except BootstrapError String :=
  match env name with
  | none | some "" => .error (.configuration ("Missing required environment variable: " ++ name))
  | some value => .ok value

/-- A variable that may be missing; an empty one counts as missing. -/
def optionalEnv (name : String) : Option String :=
  (env name).filter (· ≠ "")

/-- The error of a variable with a value of the wrong kind. -/
def invalidEnv (name expected : String) : BootstrapError :=
  .configuration
    ("Invalid value for environment variable: " ++ name ++ " (expected " ++ expected ++ ")")

/-- A switch. -/
def parseBoolEnv (name : String) (default : Bool) : Except BootstrapError Bool :=
  match optionalEnv env name with
  | none => .ok default
  | some raw =>
      let normalized := py.lower (py.strip raw)
      if normalized ∈ ["true", "1"] then .ok true
      else if normalized ∈ ["false", "0"] then .ok false
      else .error (invalidEnv name "one of true/false/1/0")

/-- A member of an enumeration, by its value. -/
def parseEnumEnv {α : Type} (name : String) (members : List (String × α)) :
    Except BootstrapError α := do
  let raw ← requireEnv env name
  match members.lookup raw with
  | some member => .ok member
  | none => .error (invalidEnv name ("one of: " ++ ", ".intercalate (members.map Prod.fst)))

/-- A positive duration. -/
def parsePositiveFloatEnv (name : String) (default : F) : Except BootstrapError F :=
  match optionalEnv env name with
  | none => .ok default
  | some raw =>
      match py.float raw with
      | some value =>
          if py.nonpositive value then .error (invalidEnv name "a positive number") else .ok value
      | none => .error (invalidEnv name "a positive number")

/-- A path with a default. -/
def parsePathEnv (name default : String) : String :=
  (optionalEnv env name).getD default

/-! ## Nested models -/

/-- The members of the contract types. -/
def contractTypeMembers : List (String × ContractType) :=
  [("SPOT", .spot), ("PERPETUAL", .perpetual)]

/-- The members of the markets. -/
def marketTypeMembers : List (String × MarketType) :=
  [("US", .us), ("EU", .eu), ("FX", .fx), ("CRYPTO", .crypto), ("METALS", .metals),
    ("ENERGIES", .energies)]

/-- A required text field; its whitespace is stripped. -/
def textField (field raw : String) : Except FieldError NonemptyText :=
  if h : py.strip raw ≠ "" then .ok ⟨py.strip raw, h⟩
  else .error (field, "String should have at least 1 character")

/-- A symbol field; its whitespace is stripped. -/
def symbolField (field raw : String) : Except FieldError Symbol :=
  if h : 1 ≤ (py.strip raw).length ∧ (py.strip raw).length ≤ 32 then .ok ⟨py.strip raw, h⟩
  else if (py.strip raw).length = 0 then
    .error (field, "String should have at least 1 character")
  else .error (field, "String should have at most 32 characters")

/-- The errors of a field. -/
def fieldErrors {α : Type} : Except FieldError α → List FieldError
  | .ok _ => []
  | .error e => [e]

/-- The three names of the instrument, or the errors of all of them. -/
def symbolMapping (logical binance mt5 : String) : Except (List FieldError) SymbolMapping :=
  match symbolField py "logical_symbol" logical, symbolField py "binance_symbol" binance,
      symbolField py "mt5_symbol" mt5 with
  | .ok logicalSymbol, .ok binanceSymbol, .ok mt5Symbol =>
      .ok { logicalSymbol, binanceSymbol, mt5Symbol }
  | logical, binance, mt5 => .error (fieldErrors logical ++ fieldErrors binance ++ fieldErrors mt5)

/-- A time zone that can be loaded. -/
def timezoneField (field raw : String) : Except (List FieldError) NonemptyText := do
  let timezone ← (textField py field raw).mapError fun e => [e]
  match py.zoneInfo timezone with
  | .ok _ => .ok timezone
  | .error .notFound =>
      .error [("", "Value error, unknown " ++ field ++ ": " ++ py.repr timezone)]
  | .error (.value message) => .error [("", "Value error, " ++ message)]

/-- All three login variables make credentials, none of them makes none. -/
def buildMt5Credentials : Except BootstrapError (Option MT5Credentials) :=
  let vars := ["MT5_LOGIN", "MT5_PASSWORD", "MT5_SERVER"]
  match optionalEnv env "MT5_LOGIN", optionalEnv env "MT5_PASSWORD",
      optionalEnv env "MT5_SERVER" with
  | none, none, none => .ok none
  | some login, some password, some server =>
      match py.int login with
      | some n =>
          if hn : 0 < n then do
            let server ← (textField py "server" server).mapError fun e => .validation [e]
            return some { login := some ⟨n, hn⟩, password := some password, server := some server }
          else .error (invalidEnv "MT5_LOGIN" "a positive integer")
      | none => .error (invalidEnv "MT5_LOGIN" "a positive integer")
  | _, _, _ =>
      .error (.configuration
        ("Partial MT5 credentials: MT5_LOGIN, MT5_PASSWORD, and MT5_SERVER must all be present " ++
          "together, or all omitted. Missing: " ++
          ", ".intercalate (vars.filter fun name => optionalEnv env name = none)))

/-- The explanation client's configuration; its variables are read only when it is enabled. -/
def buildLlmConfig (defaultTimeout : F) (llmEnabled : Bool) :
    Except BootstrapError (Option (OpenAIExplanationClientConfig F)) :=
  if llmEnabled then do
    let apiKey ← requireEnv env "OPENAI_API_KEY"
    let model ← requireEnv env "OPENAI_MODEL"
    let timeoutSeconds ← parsePositiveFloatEnv py env "OPENAI_TIMEOUT_SECONDS" defaultTimeout
    let timeoutErrors : List FieldError :=
      if py.positive timeoutSeconds then []
      else [("timeout_seconds", "Input should be greater than 0")]
    match textField py "model" model, timeoutErrors with
    | .ok model, [] => .ok (some { apiKey, model, timeoutSeconds })
    | model, errors => .error (.validation (fieldErrors model ++ errors))
  else .ok none

/-! ## The configuration -/

/-- An invalid model, by its fields only. -/
def invalidConfiguration (errors : List FieldError) : BootstrapError :=
  .configuration
    ("Invalid production configuration: " ++
      "; ".intercalate (errors.map fun e => e.1 ++ ": " ++ e.2))

/-- Build the configuration of this process. The scope fields and the event scopes keep their
defaults. -/
def buildProductionAdvisoryConfigFromEnv (defaultTimeout : F) :
    Except BootstrapError (ProductionAdvisoryConfig F) := do
  let logicalSymbol ← requireEnv env "ADVISORY_LOGICAL_SYMBOL"
  let binanceSymbol ← requireEnv env "ADVISORY_BINANCE_SYMBOL"
  let mt5Symbol ← requireEnv env "ADVISORY_MT5_SYMBOL"
  let contractType ← parseEnumEnv env "ADVISORY_CONTRACT_TYPE" contractTypeMembers
  let market ← parseEnumEnv env "ADVISORY_MARKET" marketTypeMembers
  let rolloverTimezone ← requireEnv env "MT5_ROLLOVER_TIMEZONE"
  let calendarBridgePath ← requireEnv env "CALENDAR_BRIDGE_PATH"
  let calendarServerTimezone ← requireEnv env "CALENDAR_SERVER_TIMEZONE"
  let mt5Credentials ← buildMt5Credentials py env
  let llmEnabled ← parseBoolEnv py env "LLM_ENABLED" false
  let llmConfig ← buildLlmConfig py env defaultTimeout llmEnabled
  let symbolMapping ←
    (symbolMapping py logicalSymbol binanceSymbol mt5Symbol).mapError invalidConfiguration
  let rolloverTimezone ←
    (timezoneField py "rollover_timezone" rolloverTimezone).mapError invalidConfiguration
  let calendarServerTimezone ←
    (timezoneField py "server_timezone" calendarServerTimezone).mapError invalidConfiguration
  if hllm : llmEnabled = true → llmConfig.isSome then
    return {
      symbolMapping, contractType, market
      rolloverPolicy := { rolloverTimezone }
      mt5Path := (optionalEnv env "MT5_PATH").map py.strip
      mt5Credentials
      rolloverStatePath :=
        parsePathEnv env "ADVISORY_ROLLOVER_STATE_PATH" "./data/rollover_state.json"
      trackingDirectory := parsePathEnv env "ADVISORY_TRACKING_DIR" "./data/tracking"
      provenanceDirectory := parsePathEnv env "ADVISORY_PROVENANCE_DIR" "./data/provenance"
      calendarBridgePath, calendarServerTimezone, llmEnabled, llmConfig
      onChainPair := onChainPair_none
      llmConfig_isSome := hllm }
  else
    .error (invalidConfiguration
      [("", "Value error, llm_config is required when llm_enabled is true")])

variable {py env}

/-- **A configuration built from the environment declares no scope**: no currency, no asset and
no symbol of any event code. -/
theorem build_ok_scopeless {defaultTimeout : F} {config : ProductionAdvisoryConfig F}
    (h : buildProductionAdvisoryConfigFromEnv py env defaultTimeout = .ok config) :
    config.currencyExposures = [] ∧ config.baseAsset = none ∧
      config.eventSymbolScopeConfig.overrides = [] := by
  obtain ⟨logicalSymbol, -, h⟩ := bind_ok_iff.mp h
  obtain ⟨binanceSymbol, -, h⟩ := bind_ok_iff.mp h
  obtain ⟨mt5Symbol, -, h⟩ := bind_ok_iff.mp h
  obtain ⟨contractType, -, h⟩ := bind_ok_iff.mp h
  obtain ⟨market, -, h⟩ := bind_ok_iff.mp h
  obtain ⟨rolloverTimezone, -, h⟩ := bind_ok_iff.mp h
  obtain ⟨calendarBridgePath, -, h⟩ := bind_ok_iff.mp h
  obtain ⟨calendarServerTimezone, -, h⟩ := bind_ok_iff.mp h
  obtain ⟨mt5Credentials, -, h⟩ := bind_ok_iff.mp h
  obtain ⟨llmEnabled, -, h⟩ := bind_ok_iff.mp h
  obtain ⟨llmConfig, -, h⟩ := bind_ok_iff.mp h
  obtain ⟨symbolMapping, -, h⟩ := bind_ok_iff.mp h
  obtain ⟨rolloverTimezone, -, h⟩ := bind_ok_iff.mp h
  obtain ⟨calendarServerTimezone, -, h⟩ := bind_ok_iff.mp h
  split_ifs at h
  cases h
  exact ⟨rfl, rfl, rfl⟩

end TradingAdvisor
