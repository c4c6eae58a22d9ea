import TradingAdvisor.Technical.TechnicalContour

/-!
# Coherence across timeframes

The technical supervisor tallies, for each comparable dimension, the values that the analysts of
different timeframes observed. A tally points back at the observations by their indices.

* `TechnicalAnalysisResult` — one analyst's observations;
* `tallyGroup`, `buildCoherence` — the tallies of the supervisor;
* `TechnicalSupervisor.supervise` — aggregation with the tallies;
* `Cites`, `cites_of_mem_buildCoherence` — **a tally that has a verdict cites at least two
  observations of its dimension, each once**.
-/

namespace TradingAdvisor

open Checks

/-- What aspect of technical behaviour an observation describes. -/
inductive TechnicalAnalysisDimension
  | returnDirection
  | slopeDirection
  | structuralSequenceBalance
  | trendPrimitiveAgreement
  | directionalPersistence
  | latestBreakDirection
  | structuralBreakPresence
  | breakSequencePattern
  | rangeExpansionReference
  | rocSign
  | rsiMidpointRelation
  | momentumPrimitiveAgreement
  | priceVsSmaPosition
  | maSlopeDirection
  | multiPeriodMaOrdering
  | rangeSizeState
  | bodyWickDominance
  | wickSideComparison
  | closeLocationRelation
  | normalizedRangeReference
  | directionalEfficiencyBoundary
  deriving DecidableEq, Repr

/-- Tally of a categorical value across a comparison set. -/
inductive TechnicalAgreementVerdict
  | allAgree
  | mixed
  | insufficientData
  deriving DecidableEq, Repr

/-- One structured classification produced by an analyst. -/
structure TechnicalAnalysisObservation where
  dimension : TechnicalAnalysisDimension
  value : String
  quality : FeatureQuality
  subject : Option String := none
  deriving DecidableEq, Repr

/-- Interpretation of one snapshot by one analyst; an abstention observes nothing. -/
structure TechnicalAnalysisResult extends AnalystResult Cell TechnicalIdentity where
  observations : List TechnicalAnalysisObservation
  abstained_empty : status = .abstained → observations = []

/-- One cross-timeframe tally for a comparable dimension and subject. -/
structure TechnicalCoherenceResult where
  dimension : TechnicalAnalysisDimension
  subject : Option String := none
  verdict : TechnicalAgreementVerdict
  contributingTimeframes : List Timeframe := []
  evidenceRefs : List (ℕ × ℕ) := []
  deriving DecidableEq, Repr

/-- What an aggregation can be refused for. -/
inductive CoherenceError
  | input (error : SupervisorInputError Cell)
  | validation (message : String)
  | invalidResultIndex (index : ℕ)
  | invalidObservationIndex (resultIndex index : ℕ)
  | dimensionMismatch (ref : ℕ × ℕ) (dimension : TechnicalAnalysisDimension)
  | subjectMismatch (ref : ℕ × ℕ) (subject : Option String)

/-- One qualifying observation, with the indices of the result and of the observation. -/
structure CoherenceEntry where
  timeframe : Timeframe
  resultIndex : ℕ
  observationIndex : ℕ
  value : String
  deriving DecidableEq, Repr

/-- Tally one group's qualifying observations. -/
def tallyGroup (dimension : TechnicalAnalysisDimension) (subject : Option String)
    (entries : List CoherenceEntry) : TechnicalCoherenceResult :=
  if entries.length < 2 then { dimension, subject, verdict := .insufficientData }
  else {
    dimension, subject
    verdict := if (entries.map CoherenceEntry.value).dedup.length = 1 then .allAgree else .mixed
    contributingTimeframes := entries.map CoherenceEntry.timeframe
    evidenceRefs := entries.map fun entry => (entry.resultIndex, entry.observationIndex) }

/-- The dimensions without a subject that are comparable across timeframes. -/
def fixedCoherenceDimensions : List TechnicalAnalysisDimension :=
  [.returnDirection, .slopeDirection, .structuralSequenceBalance, .latestBreakDirection,
    .rangeExpansionReference, .rocSign, .rsiMidpointRelation, .normalizedRangeReference]

/-- The moving-average dimensions, compared per subject. -/
def maDynamicDimensions : List TechnicalAnalysisDimension :=
  [.priceVsSmaPosition, .maSlopeDirection, .multiPeriodMaOrdering]

/-- The observations of one result that qualify; an abstention has none. -/
def resultEntries (qualifies : TechnicalAnalysisResult → TechnicalAnalysisObservation → Bool)
    (result : TechnicalAnalysisResult) (index : ℕ) : List CoherenceEntry :=
  if result.status = .analyzed then
    (result.observations.zipIdx.filter fun (observation, _) => qualifies result observation).map
      fun (observation, observationIndex) =>
        ⟨result.key.2, index, observationIndex, observation.value⟩
  else []

/-- The observations of all results that qualify, in the order of the results. -/
def qualifyingEntries (analystResults : List TechnicalAnalysisResult)
    (qualifies : TechnicalAnalysisResult → TechnicalAnalysisObservation → Bool) :
    List CoherenceEntry :=
  analystResults.zipIdx.flatMap fun (result, index) => resultEntries qualifies result index

/-- The observations of a dimension that is comparable as it is. -/
def fixedEntries (analystResults : List TechnicalAnalysisResult)
    (dimension : TechnicalAnalysisDimension) : List CoherenceEntry :=
  qualifyingEntries analystResults fun _ observation => observation.dimension = dimension

/-- The moving-average observations of one dimension and subject. -/
def maEntries (analystResults : List TechnicalAnalysisResult)
    (key : TechnicalAnalysisDimension × String) : List CoherenceEntry :=
  qualifyingEntries analystResults fun result observation =>
    result.key.1 = .movingAverage ∧ observation.dimension = key.1 ∧
      observation.subject = some key.2

/-- The dimensions and subjects of the moving-average observations, in canonical order. -/
def maGroups (analystResults : List TechnicalAnalysisResult) :
    List (TechnicalAnalysisDimension × String) :=
  let found := analystResults.flatMap fun result =>
    if result.key.1 = .movingAverage ∧ result.status = .analyzed then
      result.observations.filterMap fun observation =>
        if observation.dimension ∈ maDynamicDimensions then
          observation.subject.map fun subject => (observation.dimension, subject)
        else none
    else []
  found.dedup.insertionSort fun a b =>
    maDynamicDimensions.idxOf a.1 < maDynamicDimensions.idxOf b.1 ∨
      maDynamicDimensions.idxOf a.1 = maDynamicDimensions.idxOf b.1 ∧ a.2 ≤ b.2

/-- The tallies of the supervisor. -/
def buildCoherence (analystResults : List TechnicalAnalysisResult) :
    List TechnicalCoherenceResult :=
  (fixedCoherenceDimensions.map fun dimension =>
      tallyGroup dimension none (fixedEntries analystResults dimension)) ++
    (maGroups analystResults).map fun key =>
      tallyGroup key.1 (some key.2) (maEntries analystResults key)

/-- The checks of a tally on its own. -/
def TechnicalCoherenceResult.validate (coherence : TechnicalCoherenceResult) :
    Except CoherenceError Unit :=
  if coherence.verdict = .insufficientData then do
    check (coherence.contributingTimeframes = [])
      (.validation "INSUFFICIENT_DATA coherence must not carry contributing_timeframes")
    check (coherence.evidenceRefs = [])
      (.validation "INSUFFICIENT_DATA coherence must not carry evidence_refs")
  else do
    check (2 ≤ coherence.contributingTimeframes.length)
      (.validation "ALL_AGREE/MIXED coherence must carry at least 2 contributing timeframes")
    check coherence.contributingTimeframes.Nodup
      (.validation "contributing_timeframes must not contain duplicates")
    check (coherence.evidenceRefs.length = coherence.contributingTimeframes.length)
      (.validation "evidence_refs must carry exactly one entry per contributing timeframe")

/-- The observation that a pair of indices points at. -/
def observationAt (analystResults : List TechnicalAnalysisResult) (ref : ℕ × ℕ) :
    Option TechnicalAnalysisObservation :=
  analystResults[ref.1]?.bind fun result => result.observations[ref.2]?

/-- A tally cites observations of its own dimension and subject. -/
def TechnicalCoherenceResult.validateRefs (analystResults : List TechnicalAnalysisResult)
    (coherence : TechnicalCoherenceResult) : Except CoherenceError Unit :=
  coherence.evidenceRefs.forM fun ref =>
    match analystResults[ref.1]? with
    | none => .error (.invalidResultIndex ref.1)
    | some result =>
        match result.observations[ref.2]? with
        | none => .error (.invalidObservationIndex ref.1 ref.2)
        | some observation => do
            check (observation.dimension = coherence.dimension)
              (.dimensionMismatch ref coherence.dimension)
            check (observation.subject = coherence.subject) (.subjectMismatch ref coherence.subject)

/-- Aggregation of the results with the tallies. -/
structure TechnicalSupervision where
  summary : SupervisorResult Cell TechnicalIdentity
  analystResults : List TechnicalAnalysisResult
  coherence : List TechnicalCoherenceResult

/-- Aggregate results over the expected analysts and timeframes, timeframe-major. -/
def TechnicalSupervisor.supervise (analysts : List TechnicalAnalystType)
    (timeframes : List Timeframe) (results : List TechnicalAnalysisResult) :
    Except CoherenceError TechnicalSupervision := do
  let expectedAnalysts := technicalAnalysts.filter (· ∈ analysts)
  let expectedTimeframes := canonicalTimeframes.filter (· ∈ timeframes)
  let cells := expectedTimeframes.flatMap fun t => expectedAnalysts.map fun a => (a, t)
  let plain := results.map TechnicalAnalysisResult.toAnalystResult
  let summary ← (TradingAdvisor.aggregate cells
    (fun key =>
      if key.1 ∉ expectedAnalysts then some (.unexpectedAnalyst key)
      else if key.2 ∉ expectedTimeframes then some (.unexpectedTimeframe key)
      else none)
    plain plain).mapError CoherenceError.input
  let analystResults := cells.filterMap fun cell => results.find? fun result => result.key = cell
  let coherence := buildCoherence analystResults
  coherence.forM TechnicalCoherenceResult.validate
  coherence.forM (TechnicalCoherenceResult.validateRefs analystResults)
  return { summary, analystResults, coherence }

/-! ## What a tally cites -/

variable {analystResults : List TechnicalAnalysisResult}
  {qualifies : TechnicalAnalysisResult → TechnicalAnalysisObservation → Bool}
  {coherence : TechnicalCoherenceResult} {entry : CoherenceEntry}

/-- The indices of an entry. -/
def CoherenceEntry.ref (entry : CoherenceEntry) : ℕ × ℕ :=
  (entry.resultIndex, entry.observationIndex)

theorem mem_resultEntries {result : TechnicalAnalysisResult} {index : ℕ} :
    entry ∈ resultEntries qualifies result index ↔
      result.status = .analyzed ∧ entry.timeframe = result.key.2 ∧ entry.resultIndex = index ∧
        ∃ observation, result.observations[entry.observationIndex]? = some observation ∧
          entry.value = observation.value ∧ qualifies result observation = true := by
  unfold resultEntries
  split_ifs with hstatus
  · simp only [List.mem_map, List.mem_filter, Prod.exists, List.mem_zipIdx_iff_getElem?]
    constructor
    · rintro ⟨observation, observationIndex, ⟨hobservation, hq⟩, rfl⟩
      exact ⟨hstatus, rfl, rfl, observation, hobservation, rfl, hq⟩
    · rintro ⟨-, ht, hi, observation, hobservation, hv, hq⟩
      refine ⟨observation, entry.observationIndex, ⟨hobservation, hq⟩, ?_⟩
      rw [← ht, ← hi, ← hv]
  · simp [hstatus]

theorem mem_qualifyingEntries : entry ∈ qualifyingEntries analystResults qualifies ↔
    ∃ result, analystResults[entry.resultIndex]? = some result ∧
      entry ∈ resultEntries qualifies result entry.resultIndex := by
  simp only [qualifyingEntries, List.mem_flatMap, Prod.exists, List.mem_zipIdx_iff_getElem?]
  constructor
  · rintro ⟨result, index, hresult, h⟩
    obtain rfl := (mem_resultEntries.mp h).2.2.1
    exact ⟨result, hresult, h⟩
  · rintro ⟨result, hresult, h⟩
    exact ⟨result, _, hresult, h⟩

theorem zipIdx_pairwise {α : Type} (l : List α) : l.zipIdx.Pairwise fun a b => a.2 ≠ b.2 :=
  List.pairwise_map.mp (by rw [List.zipIdx_map_snd]; exact List.nodup_range')

theorem qualifyingEntries_nodup (analystResults : List TechnicalAnalysisResult)
    (qualifies : TechnicalAnalysisResult → TechnicalAnalysisObservation → Bool) :
    ((qualifyingEntries analystResults qualifies).map CoherenceEntry.ref).Nodup := by
  rw [qualifyingEntries, List.map_flatMap, List.nodup_flatMap]
  constructor
  · rintro ⟨result, index⟩ -
    dsimp only
    unfold resultEntries
    split_ifs with hstatus
    · rw [List.map_map]
      refine List.pairwise_map.mpr (((zipIdx_pairwise _).filter _).imp fun hab heq => hab ?_)
      exact (Prod.ext_iff.mp heq).2
    · exact List.nodup_nil
  · refine (zipIdx_pairwise analystResults).imp fun hab x hx hy => hab ?_
    obtain ⟨e, he, rfl⟩ := List.mem_map.mp hx
    obtain ⟨e', he', heq⟩ := List.mem_map.mp hy
    rw [← (mem_resultEntries.mp he).2.2.1, ← (mem_resultEntries.mp he').2.2.1]
    exact (Prod.ext_iff.mp heq).1.symm

/-- A tally that has a verdict cites at least two observations, each once, of its dimension. -/
structure Cites (analystResults : List TechnicalAnalysisResult)
    (coherence : TechnicalCoherenceResult) : Prop where
  nodup : coherence.evidenceRefs.Nodup
  two_le : coherence.verdict ≠ .insufficientData → 2 ≤ coherence.evidenceRefs.length
  observed : ∀ ref ∈ coherence.evidenceRefs, ∃ observation,
    observationAt analystResults ref = some observation ∧
      observation.dimension = coherence.dimension

theorem cites_tallyGroup {dimension : TechnicalAnalysisDimension} {subject : Option String}
    (h : ∀ result observation, qualifies result observation = true →
      observation.dimension = dimension) :
    Cites analystResults
      (tallyGroup dimension subject (qualifyingEntries analystResults qualifies)) := by
  unfold tallyGroup
  by_cases hlt : (qualifyingEntries analystResults qualifies).length < 2
  · rw [if_pos hlt]
    exact ⟨List.nodup_nil, fun hne => absurd rfl hne, fun _ hmem => absurd hmem List.not_mem_nil⟩
  · rw [if_neg hlt]
    refine ⟨qualifyingEntries_nodup analystResults qualifies, fun _ => ?_, fun ref href => ?_⟩
    · rw [List.length_map]
      omega
    · obtain ⟨entry, hentry, rfl⟩ := List.mem_map.mp href
      obtain ⟨result, hresult, hentry⟩ := mem_qualifyingEntries.mp hentry
      obtain ⟨-, -, -, observation, hobservation, -, hq⟩ := mem_resultEntries.mp hentry
      refine ⟨observation, ?_, h result observation hq⟩
      rw [observationAt, hresult]
      exact hobservation

/-- **Every tally of the supervisor cites observations of its dimension.** -/
theorem cites_of_mem_buildCoherence (h : coherence ∈ buildCoherence analystResults) :
    Cites analystResults coherence := by
  rcases List.mem_append.mp h with h | h
  · obtain ⟨dimension, -, rfl⟩ := List.mem_map.mp h
    exact cites_tallyGroup fun _ _ hq => of_decide_eq_true hq
  · obtain ⟨key, -, rfl⟩ := List.mem_map.mp h
    exact cites_tallyGroup fun _ _ hq => (of_decide_eq_true hq).2.1

variable {analysts : List TechnicalAnalystType} {timeframes : List Timeframe}
  {results : List TechnicalAnalysisResult} {technical : TechnicalSupervision}

/-- The supervisor's tallies are those of the results it carries. -/
theorem supervise_ok
    (h : TechnicalSupervisor.supervise analysts timeframes results = .ok technical) :
    technical.coherence = buildCoherence technical.analystResults := by
  obtain ⟨summary, -, h⟩ := bind_ok_iff.mp h
  obtain ⟨-, h⟩ := unit_bind_ok_iff.mp h
  obtain ⟨-, h⟩ := unit_bind_ok_iff.mp h
  cases h
  rfl

end TradingAdvisor
