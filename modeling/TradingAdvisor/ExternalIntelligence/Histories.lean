import Mathlib.Data.Prod.Lex
import TradingAdvisor.Lib.RevisionLog
import TradingAdvisor.MarketEvaluation.Context

/-!
# Histories of economic events and of rates

The histories are bounded logs of what the providers report. A record is settled once it carries a
value; a settled record of a key is never followed by another one of the key.

* `EconomicEvent`, `PolicyRateObservation`, `GovernmentYieldObservation` — the records, with all
  their facts apart from the time they were received;
* `EconomicEventHistory`, `PolicyRateObservationHistory`, `GovernmentYieldObservationHistory` — the
  histories;
* `histories_keepRevisions` — **no append, eviction or rejection breaks the revisions**.
-/

namespace TradingAdvisor

open RevisionLog

/-! ## Economic events -/

/-- Normalized macro release category. -/
inductive EconomicCategory
  | cpi
  | coreCpi
  | ppi
  | pce
  | corePce
  | nonFarmPayrolls
  | unemploymentRate
  | joblessClaims
  | gdp
  | retailSales
  | pmiIsm
  | consumerConfidence
  | rateDecision
  | other
  deriving DecidableEq, Repr

/-- Lifecycle state of one calendar record. -/
inductive EconomicEventStatus
  | scheduled
  | released
  | revised
  | postponed
  | cancelled
  deriving DecidableEq, Repr

/-- Provider-reported importance tier. -/
inductive EconomicEventImportance
  | high
  | medium
  | low
  deriving DecidableEq, Repr

/-- Central bank identity. -/
inductive CentralBank
  | fed
  | ecb
  | boe
  | boj
  | other
  deriving DecidableEq, Repr

/-- Two upper-case letters. -/
abbrev CountryCode := {s : String // s.length = 2 ∧ ∀ ch ∈ s.toList, 'A' ≤ ch ∧ ch ≤ 'Z'}

/-- Policy-rate facts attached to a rate decision. -/
structure RateDecisionDetail where
  centralBank : CentralBank
  policyRatePrevious : Option ℚ
  policyRateExpected : Option ℚ
  policyRateActual : Option ℚ
  statementTime : Option Timestamp
  pressConferenceTime : Option Timestamp
  deriving DecidableEq

/-- The facts of an economic event. -/
structure EconomicEventFacts where
  provider : NonemptyText
  providerEventId : NonemptyText
  country : CountryCode
  currency : CurrencyCode
  category : EconomicCategory
  categoryRaw : Option NonemptyText
  name : NonemptyText
  eventTime : Timestamp
  publicationTime : Option Timestamp
  actual : Option ℚ
  forecast : Option ℚ
  previous : Option ℚ
  unit : Option NonemptyText
  importance : Option EconomicEventImportance
  status : EconomicEventStatus
  revisionNumber : ℕ
  rateDecisionDetail : Option RateDecisionDetail
  sourceUrl : Option NonemptyText
  deriving DecidableEq

/-- One provider-reported calendar record, at one revision. -/
structure EconomicEvent extends EconomicEventFacts where
  receivedAt : Timestamp
  categoryRawRequired : category = .other → categoryRaw ≠ none
  actualConsistent : actual.isSome ↔ status = .released ∨ status = .revised
  revisionConsistent : status = .revised ↔ revisionNumber ≠ 0
  detailAttached : rateDecisionDetail.isSome ↔ category = .rateDecision
  detailConsistent : ∀ detail ∈ rateDecisionDetail,
    detail.policyRateActual.isSome ↔ actual.isSome

/-- Provider, event and revision. -/
abbrev EventKey := NonemptyText × NonemptyText × ℕ

/-- An event is settled once it carries an actual value. -/
def EconomicEvent.rules : Rules EconomicEvent EventKey EconomicEventFacts where
  key event := (event.provider, event.providerEventId, event.revisionNumber)
  fingerprint event := event.toEconomicEventFacts
  settled event := event.actual.isSome

/-- Bounded, revision-preserving event log. -/
abbrev EconomicEventHistory := Buffer EconomicEvent

namespace EconomicEventHistory

variable (history : EconomicEventHistory)

/-- Append one ingestion observation, or reject it. -/
def append (event : EconomicEvent) : EconomicEventHistory × Option (Rejection EventKey) :=
  EconomicEvent.rules.record history event

/-- All retained observations of one event, by revision. -/
def revisionsFor (provider providerEventId : NonemptyText) : List EconomicEvent :=
  ranked (fun event => event.revisionNumber) (history.items.filter fun event =>
    event.provider = provider ∧ event.providerEventId = providerEventId)

/-- The most recent observation of the highest retained revision. -/
def latestRevision (provider providerEventId : NonemptyText) : Option EconomicEvent :=
  (revisionsFor history provider providerEventId).getLast?

end EconomicEventHistory

/-! ## Rates -/

/-- Which policy-rate quantity an observation reports. -/
inductive PolicyRateKind
  | target
  | targetLower
  | targetUpper
  | effective
  deriving DecidableEq, Repr

/-- Whether a yield is nominal or adjusted for inflation. -/
inductive GovernmentYieldType
  | nominal
  | real
  deriving DecidableEq, Repr

/-- Unit of the value of a series. -/
inductive SeriesUnit
  | percent
  | basisPoints
  deriving DecidableEq, Repr

/-- Unit a tenor was expressed in. -/
inductive TenorUnit
  | months
  | years
  deriving DecidableEq, Repr

/-- A maturity; its fingerprint keeps the unit. -/
structure Tenor where
  value : ℕ+
  unit : TenorUnit
  deriving DecidableEq

/-- The facts of a policy-rate observation. -/
structure PolicyRateFacts where
  provider : NonemptyText
  providerSeriesId : NonemptyText
  centralBank : CentralBank
  currency : CurrencyCode
  rateKind : PolicyRateKind
  value : Option ℚ
  unit : SeriesUnit
  observationTime : Timestamp
  publicationTime : Option Timestamp
  revisionNumber : ℕ
  sourceUrl : Option NonemptyText
  deriving DecidableEq

/-- One policy-rate observation, at one revision. -/
structure PolicyRateObservation extends PolicyRateFacts where
  receivedAt : Timestamp
  deriving DecidableEq

/-- The facts of a government-yield observation. -/
structure GovernmentYieldFacts where
  provider : NonemptyText
  providerSeriesId : NonemptyText
  country : CountryCode
  currency : CurrencyCode
  yieldType : GovernmentYieldType
  tenor : Tenor
  value : Option ℚ
  unit : SeriesUnit
  observationTime : Timestamp
  publicationTime : Option Timestamp
  revisionNumber : ℕ
  sourceUrl : Option NonemptyText
  deriving DecidableEq

/-- One government-yield observation, at one revision. -/
structure GovernmentYieldObservation extends GovernmentYieldFacts where
  receivedAt : Timestamp
  deriving DecidableEq

/-- Provider, series, time and revision. -/
abbrev ObservationKey := NonemptyText × NonemptyText × Timestamp × ℕ

/-- A policy rate is settled once it carries a value. -/
def PolicyRateObservation.rules : Rules PolicyRateObservation ObservationKey PolicyRateFacts where
  key o := (o.provider, o.providerSeriesId, o.observationTime, o.revisionNumber)
  fingerprint o := o.toPolicyRateFacts
  settled o := o.value.isSome

/-- A yield is settled once it carries a value. -/
def GovernmentYieldObservation.rules :
    Rules GovernmentYieldObservation ObservationKey GovernmentYieldFacts where
  key o := (o.provider, o.providerSeriesId, o.observationTime, o.revisionNumber)
  fingerprint o := o.toGovernmentYieldFacts
  settled o := o.value.isSome

/-- Bounded, revision-preserving policy-rate log. -/
abbrev PolicyRateObservationHistory := Buffer PolicyRateObservation

namespace PolicyRateObservationHistory

variable (history : PolicyRateObservationHistory)

/-- Append one ingestion observation, or reject it. -/
def append (observation : PolicyRateObservation) :
    PolicyRateObservationHistory × Option (Rejection ObservationKey) :=
  PolicyRateObservation.rules.record history observation

/-- All retained observations of one series, by time and revision. -/
def observationsFor (provider providerSeriesId : NonemptyText) : List PolicyRateObservation :=
  ranked (fun o => toLex (o.observationTime, o.revisionNumber)) (history.items.filter fun o =>
    o.provider = provider ∧ o.providerSeriesId = providerSeriesId)

/-- The most current retained observation of a series. -/
def latest (provider providerSeriesId : NonemptyText) : Option PolicyRateObservation :=
  (observationsFor history provider providerSeriesId).getLast?

end PolicyRateObservationHistory

/-- Bounded, revision-preserving government-yield log. -/
abbrev GovernmentYieldObservationHistory := Buffer GovernmentYieldObservation

namespace GovernmentYieldObservationHistory

variable (history : GovernmentYieldObservationHistory)

/-- Append one ingestion observation, or reject it. -/
def append (observation : GovernmentYieldObservation) :
    GovernmentYieldObservationHistory × Option (Rejection ObservationKey) :=
  GovernmentYieldObservation.rules.record history observation

/-- All retained observations of one series, by time and revision. -/
def observationsFor (provider providerSeriesId : NonemptyText) : List GovernmentYieldObservation :=
  ranked (fun o => toLex (o.observationTime, o.revisionNumber)) (history.items.filter fun o =>
    o.provider = provider ∧ o.providerSeriesId = providerSeriesId)

/-- The most current retained observation of a series. -/
def latest (provider providerSeriesId : NonemptyText) : Option GovernmentYieldObservation :=
  (observationsFor history provider providerSeriesId).getLast?

end GovernmentYieldObservationHistory

/-! ## What every history keeps -/

/-- What holds of a log and of what is appended to it next. -/
structure KeepsRevisions {α κ φ σ ρ : Type} [DecidableEq κ] [DecidableEq φ] [LinearOrder ρ]
    (rules : Rules α κ φ) (series : α → σ) (rank : α → ρ) (latest : Buffer α → σ → Option α)
    (history : Buffer α) : Prop where
  distinct : history.items.Pairwise fun a b =>
    ¬ (rules.key a = rules.key b ∧ rules.fingerprint a = rules.fingerprint b)
  settledOnce : history.items.Pairwise fun a b =>
    rules.key a = rules.key b → ¬ (rules.settled a ∧ rules.settled b)
  settledLast : ∀ pre a post, history.items = pre ++ a :: post → rules.settled a →
    ∀ b ∈ post, rules.key b ≠ rules.key a
  latest : ∀ a ∈ history.items, rules.settled a →
    (∀ b ∈ history.items, series b = series a → rank b ≤ rank a) →
      latest history (series a) = some a
  rejected : ∀ x why, (rules.record history x).2 = some why → (rules.record history x).1 = history

section Keeps

variable {α κ φ σ ρ : Type} [DecidableEq κ] [DecidableEq φ] [DecidableEq σ] [LinearOrder ρ]
  {rules : Rules α κ φ} {series : α → σ} {rank : α → ρ}

/-- Logs under any rules keep their revisions, when the key is the series and the rank. -/
theorem keepsRevisions_run (hkey : ∀ a b, rules.key a = rules.key b ↔
      series a = series b ∧ rank a = rank b) {latest : Buffer α → σ → Option α}
    (hlatest : ∀ history s, latest history s =
      (ranked rank (history.items.filter fun a => series a = s)).getLast?)
    (capacity : ℕ+) (records : List α) :
    KeepsRevisions rules series rank latest (rules.run (.empty capacity) records) := by
  have hpairwise : (rules.run (.empty capacity) records).items.Pairwise rules.Precedes :=
    Rules.run_empty_pairwise capacity records
  refine ⟨hpairwise.imp fun h hboth => (h hboth.1).1 hboth.2,
    hpairwise.imp fun h hsame hboth => ?_, fun pre a post hsplit hsettled b hb hsame => ?_,
    fun a ha hsettled hmax => ?_, fun x why => Rules.record_of_rejection⟩
  · rw [(h hsame).2] at hboth
    cases hboth.1
  · rw [hsplit] at hpairwise
    have hprecedes := (List.pairwise_cons.mp (List.pairwise_append.mp hpairwise).2.1).1 b hb
    rw [(hprecedes hsame.symm).2] at hsettled
    cases hsettled
  · rw [hlatest]
    refine latest_of_settled hpairwise (fun b c hb hc => ?_) ha (decide_eq_true rfl) hsettled
      fun b hb hseries => hmax b hb (of_decide_eq_true hseries)
    rw [hkey, of_decide_eq_true hb, of_decide_eq_true hc]
    exact (and_iff_right rfl).symm

end Keeps

/-- **The histories keep their revisions**, for every sequence of appends: no two retained
observations share key and content, a settled one is the only one and the last of its key, the
latest revision returns it, and a rejected append changes nothing. -/
theorem histories_keepRevisions (capacity : ℕ+) :
    (∀ events : List EconomicEvent, KeepsRevisions EconomicEvent.rules
      (fun event => (event.provider, event.providerEventId)) (fun event => event.revisionNumber)
      (fun history s => EconomicEventHistory.latestRevision history s.1 s.2)
      (events.foldl (fun history event => (EconomicEventHistory.append history event).1)
        (.empty capacity))) ∧
    (∀ observations : List PolicyRateObservation, KeepsRevisions PolicyRateObservation.rules
      (fun o => (o.provider, o.providerSeriesId))
      (fun o => toLex (o.observationTime, o.revisionNumber))
      (fun history s => PolicyRateObservationHistory.latest history s.1 s.2)
      (observations.foldl (fun history o => (PolicyRateObservationHistory.append history o).1)
        (.empty capacity))) ∧
    (∀ observations : List GovernmentYieldObservation,
      KeepsRevisions GovernmentYieldObservation.rules
        (fun o => (o.provider, o.providerSeriesId))
        (fun o => toLex (o.observationTime, o.revisionNumber))
        (fun history s => GovernmentYieldObservationHistory.latest history s.1 s.2)
        (observations.foldl
          (fun history o => (GovernmentYieldObservationHistory.append history o).1)
          (.empty capacity))) := by
  refine ⟨fun events => keepsRevisions_run (fun a b => ?_) (fun history s => ?_) capacity events,
    fun observations =>
      keepsRevisions_run (fun a b => ?_) (fun history s => ?_) capacity observations,
    fun observations =>
      keepsRevisions_run (fun a b => ?_) (fun history s => ?_) capacity observations⟩
  · simp [EconomicEvent.rules, and_assoc]
  · simp [EconomicEventHistory.latestRevision, EconomicEventHistory.revisionsFor, Prod.ext_iff]
  · simp [PolicyRateObservation.rules, and_assoc]
  · simp [PolicyRateObservationHistory.latest, PolicyRateObservationHistory.observationsFor,
      Prod.ext_iff]
  · simp [GovernmentYieldObservation.rules, and_assoc]
  · simp [GovernmentYieldObservationHistory.latest,
      GovernmentYieldObservationHistory.observationsFor, Prod.ext_iff]

end TradingAdvisor
