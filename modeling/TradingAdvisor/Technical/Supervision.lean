import TradingAdvisor.Lib.Binary64
import TradingAdvisor.Technical.Coherence

/-!
# Supervision of the technical contour

The supervisor expects some analysts on some timeframes. It sorts every expected pair into analyzed,
abstained and missing ones, summarizes them by timeframe and by analyst, and tallies what the
analysts of different timeframes observed.

* `TechnicalSupervisor`, `TechnicalSupervisor.aggregateResults` — the supervisor and what it reports;
* `supervise_perm` — the order of the analyst results does not matter;
* `Faithful`, `faithful_of_supervise` — a tally is that of the observations it refers to;
* `aggregateResults_orderFreePartition` — **aggregation is free of order and a partition**.
-/

namespace TradingAdvisor

open Checks VersionedStore

/-- The supervisor with what it expects, in canonical order. -/
structure TechnicalSupervisor where
  expectedAnalysts : List TechnicalAnalystType
  expectedTimeframes : List Timeframe
  analysts_canonical : expectedAnalysts.Sublist technicalAnalysts
  analysts_nonempty : expectedAnalysts ≠ []
  timeframes_canonical : expectedTimeframes.Sublist canonicalTimeframes
  timeframes_nonempty : expectedTimeframes ≠ []

theorem mem_technicalAnalysts (analyst : TechnicalAnalystType) : analyst ∈ technicalAnalysts := by
  cases analyst <;> decide

theorem mem_canonicalTimeframes (timeframe : Timeframe) : timeframe ∈ canonicalTimeframes := by
  cases timeframe <;> decide

theorem filter_mem_ne_nil {α : Type} [DecidableEq α] {every l : List α} (hevery : ∀ a, a ∈ every)
    (hl : l ≠ []) : every.filter (· ∈ l) ≠ [] := by
  obtain ⟨a, ha⟩ := List.exists_mem_of_ne_nil l hl
  exact List.ne_nil_of_mem (List.mem_filter.mpr ⟨hevery a, decide_eq_true ha⟩)

/-- A supervisor is built for analysts and timeframes that do not repeat. -/
def TechnicalSupervisor.create (expectedAnalysts : List TechnicalAnalystType)
    (expectedTimeframes : List Timeframe) : Except String TechnicalSupervisor :=
  if ha : expectedAnalysts = [] then .error "expected_analysts must not be empty"
  else if ¬ expectedAnalysts.Nodup then
    .error "expected_analysts must not contain duplicate TechnicalAnalystType entries"
  else if ht : expectedTimeframes = [] then .error "expected_timeframes must not be empty"
  else if ¬ expectedTimeframes.Nodup then
    .error "expected_timeframes must not contain duplicate Timeframe entries"
  else .ok {
    expectedAnalysts := technicalAnalysts.filter (· ∈ expectedAnalysts)
    expectedTimeframes := canonicalTimeframes.filter (· ∈ expectedTimeframes)
    analysts_canonical := List.filter_sublist
    analysts_nonempty := filter_mem_ne_nil mem_technicalAnalysts ha
    timeframes_canonical := List.filter_sublist
    timeframes_nonempty := filter_mem_ne_nil mem_canonicalTimeframes ht }

/-- The expected cells, timeframe-major. -/
def TechnicalSupervisor.cells (supervisor : TechnicalSupervisor) : List Cell :=
  supervisor.expectedTimeframes.flatMap fun t => supervisor.expectedAnalysts.map fun a => (a, t)

/-- Availability, coverage and quality of the members under one subject. -/
structure ParticipationSummary (σ μ : Type) where
  subject : σ
  analyzed : List μ
  abstained : List μ
  missing : List μ
  analyzedCount : ℕ
  abstainedCount : ℕ
  missingCount : ℕ
  usableRatio : ℚ
  quality : FeatureQuality

/-- The expected analysts on one timeframe. -/
abbrev TechnicalTimeframeSummary := ParticipationSummary Timeframe TechnicalAnalystType

/-- The expected timeframes of one analyst. -/
abbrev TechnicalAnalystSummary := ParticipationSummary TechnicalAnalystType Timeframe

/-- Summarize the cells of the members. -/
def summarize {σ μ : Type} (summary : SupervisorResult Cell TechnicalIdentity) (members : List μ)
    (subject : σ) (cell : μ → Cell) : ParticipationSummary σ μ :=
  let analyzed := members.filter fun member => cell member ∈ summary.analyzed
  let abstained := members.filter fun member => cell member ∈ summary.abstained
  let missing := members.filter fun member => cell member ∈ summary.missing
  let total := analyzed.length + abstained.length + missing.length
  let qualities := analyzed.filterMap fun member =>
    (summary.analystResults.find? fun result => result.key = cell member).map AnalystResult.quality
  { subject, analyzed, abstained, missing
    analyzedCount := analyzed.length
    abstainedCount := abstained.length
    missingCount := missing.length
    usableRatio := Binary64.nearest (analyzed.length / total)
    quality := if analyzed.isEmpty then .unavailable else worseOfMany qualities }

/-- Aggregation of the results across the expected matrix. -/
structure TechnicalSupervisorReport extends TechnicalSupervision where
  expectedAnalysts : List TechnicalAnalystType
  expectedTimeframes : List Timeframe
  expectedCount : ℕ
  analyzedCount : ℕ
  abstainedCount : ℕ
  missingCount : ℕ
  usableCellRatio : ℚ
  perTimeframeSummaries : List TechnicalTimeframeSummary
  perAnalystSummaries : List TechnicalAnalystSummary

/-- The timeframe of the result that a pair of indices points at. -/
def timeframeAt (analystResults : List TechnicalAnalysisResult) (ref : ℕ × ℕ) : Option Timeframe :=
  analystResults[ref.1]?.map fun result => result.key.2

/-- The references of a tally are on different timeframes, those that it names. -/
def TechnicalCoherenceResult.validateTimeframes (analystResults : List TechnicalAnalysisResult)
    (coherence : TechnicalCoherenceResult) : Except CoherenceError Unit := do
  let referencedTimeframes := coherence.evidenceRefs.filterMap (timeframeAt analystResults)
  check referencedTimeframes.Nodup (.validation "evidence_refs reference a duplicate timeframe")
  check (referencedTimeframes ⊆ coherence.contributingTimeframes ∧
      coherence.contributingTimeframes ⊆ referencedTimeframes)
    (.validation "evidence_refs timeframes do not match contributing_timeframes")

/-- The checks of a result on the cells and the tallies. The counts and the summaries are computed
from the cells that their checks compare them with. -/
def TechnicalSupervisorReport.validate (supervisor : TechnicalSupervisor)
    (result : TechnicalSupervisorReport) : Except CoherenceError Unit := do
  let { analyzed, abstained, missing, .. } := result.summary
  check analyzed.Nodup (.validation "analyzed_cells must not contain duplicates")
  check abstained.Nodup (.validation "abstained_cells must not contain duplicates")
  check missing.Nodup (.validation "missing_cells must not contain duplicates")
  check ((∀ cell ∈ analyzed, cell ∉ abstained ∧ cell ∉ missing) ∧ ∀ cell ∈ abstained, cell ∉ missing)
    (.validation "a cell must belong to exactly one participation bucket")
  check (analyzed ++ abstained ++ missing ⊆ supervisor.cells ∧
      supervisor.cells ⊆ analyzed ++ abstained ++ missing)
    (.validation "analyzed/abstained/missing cells must exactly partition the expected matrix")
  check (result.coherence.map fun coherence => (coherence.dimension, coherence.subject)).Nodup
    (.validation "coherence must not contain duplicate (dimension, subject) groups")
  result.coherence.forM (TechnicalCoherenceResult.validateTimeframes result.analystResults)

/-- The result with its counts and summaries. -/
def TechnicalSupervisor.report (supervisor : TechnicalSupervisor)
    (technical : TechnicalSupervision) : TechnicalSupervisorReport :=
  let summary := technical.summary
  let expectedCount := supervisor.expectedAnalysts.length * supervisor.expectedTimeframes.length
  { technical with
    expectedAnalysts := supervisor.expectedAnalysts
    expectedTimeframes := supervisor.expectedTimeframes
    expectedCount
    analyzedCount := summary.analyzed.length
    abstainedCount := summary.abstained.length
    missingCount := summary.missing.length
    usableCellRatio := Binary64.nearest (summary.analyzed.length / expectedCount)
    perTimeframeSummaries := supervisor.expectedTimeframes.map fun t =>
      summarize summary supervisor.expectedAnalysts t fun a => (a, t)
    perAnalystSummaries := supervisor.expectedAnalysts.map fun a =>
      summarize summary supervisor.expectedTimeframes a fun t => (a, t) }

/-- Aggregate analyst results over the expected analysts and timeframes. -/
def TechnicalSupervisor.aggregateResults (supervisor : TechnicalSupervisor)
    (results : List TechnicalAnalysisResult) : Except CoherenceError TechnicalSupervisorReport := do
  let technical ← TechnicalSupervisor.supervise supervisor.expectedAnalysts
    supervisor.expectedTimeframes results
  let result := supervisor.report technical
  result.validate supervisor
  return result

/-! ## The order of the results -/

variable {analysts : List TechnicalAnalystType} {timeframes : List Timeframe}
  {supervisor : TechnicalSupervisor} {results results' : List TechnicalAnalysisResult}
  {technical : TechnicalSupervision} {coherence : TechnicalCoherenceResult}

/-- The supervision with other labels. -/
def TechnicalSupervision.withProvenance (technical : TechnicalSupervision)
    (provenance : Dict String String) : TechnicalSupervision :=
  { technical with summary := { technical.summary with provenance } }

/-- The report with other labels. -/
def TechnicalSupervisorReport.withProvenance (result : TechnicalSupervisorReport)
    (provenance : Dict String String) : TechnicalSupervisorReport :=
  { result with toTechnicalSupervision := result.toTechnicalSupervision.withProvenance provenance }

/-- The cells of some analysts and timeframes, timeframe-major. -/
def expectedCells (analysts : List TechnicalAnalystType) (timeframes : List Timeframe) :
    List Cell :=
  (canonicalTimeframes.filter (· ∈ timeframes)).flatMap fun t =>
    (technicalAnalysts.filter (· ∈ analysts)).map fun a => (a, t)

theorem mem_expectedCells {cell : Cell} :
    cell ∈ expectedCells analysts timeframes ↔ cell.1 ∈ analysts ∧ cell.2 ∈ timeframes := by
  obtain ⟨a, t⟩ := cell
  simp [expectedCells, mem_technicalAnalysts, mem_canonicalTimeframes, and_comm]

theorem expectedCells_nodup : (expectedCells analysts timeframes).Nodup := by
  have htimeframes : canonicalTimeframes.Nodup := by decide
  have hanalysts : technicalAnalysts.Nodup := by decide
  refine List.nodup_flatMap.mpr ⟨fun t _ => ?_, ?_⟩
  · exact (hanalysts.filter _).map fun a b hab => congrArg Prod.fst hab
  · refine (htimeframes.filter _).imp fun hne cell hcell hcell' => hne ?_
    obtain ⟨a, -, rfl⟩ := List.mem_map.mp hcell
    obtain ⟨a', -, heq⟩ := List.mem_map.mp hcell'
    exact (congrArg Prod.snd heq).symm

/-- What is wrong with a key that is not expected. -/
def unexpectedCell (analysts : List TechnicalAnalystType) (timeframes : List Timeframe)
    (key : Cell) : Option (SupervisorInputError Cell) :=
  if key.1 ∉ technicalAnalysts.filter (· ∈ analysts) then some (.unexpectedAnalyst key)
  else if key.2 ∉ canonicalTimeframes.filter (· ∈ timeframes) then some (.unexpectedTimeframe key)
  else none

theorem mem_expectedCells_of_unexpected {cell : Cell}
    (h : unexpectedCell analysts timeframes cell = none) :
    cell ∈ expectedCells analysts timeframes := by
  unfold unexpectedCell at h
  split_ifs at h with ha ht
  rw [mem_expectedCells]
  exact ⟨by simpa using (List.mem_filter.mp (ha)).2,
    by simpa using (List.mem_filter.mp (ht)).2⟩

/-- The result of every expected cell that has one. -/
def embeddedResults (analysts : List TechnicalAnalystType) (timeframes : List Timeframe)
    (results : List TechnicalAnalysisResult) : List TechnicalAnalysisResult :=
  (expectedCells analysts timeframes).filterMap fun cell =>
    results.find? fun result => result.key = cell

/-- The results without what they observed. -/
def plainResults (results : List TechnicalAnalysisResult) :
    List (AnalystResult Cell TechnicalIdentity) :=
  results.map TechnicalAnalysisResult.toAnalystResult

/-- The parts of an aggregation that succeeds. -/
theorem supervise_ok_iff :
    TechnicalSupervisor.supervise analysts timeframes results = .ok technical ↔
      aggregate (expectedCells analysts timeframes) (unexpectedCell analysts timeframes)
        (plainResults results) (plainResults results) = .ok technical.summary ∧
      technical.analystResults = embeddedResults analysts timeframes results ∧
      technical.coherence = buildCoherence technical.analystResults ∧
      ∀ coherence ∈ technical.coherence, coherence.validate = .ok () ∧
        coherence.validateRefs technical.analystResults = .ok () := by
  constructor
  · intro h
    obtain ⟨summary, hsummary, h⟩ := bind_ok_iff.mp h
    obtain ⟨hvalidate, h⟩ := unit_bind_ok_iff.mp h
    obtain ⟨hrefs, h⟩ := unit_bind_ok_iff.mp h
    cases h
    exact ⟨mapError_ok_iff.mp hsummary, rfl, rfl, fun coherence hmem =>
      ⟨forM_ok_iff.mp hvalidate coherence hmem, forM_ok_iff.mp hrefs coherence hmem⟩⟩
  · obtain ⟨summary, analystResults, coherence⟩ := technical
    rintro ⟨hsummary, hembedded, hcoherence, hvalid⟩
    dsimp only at hsummary hembedded hcoherence hvalid
    subst hembedded
    subst hcoherence
    refine bind_ok_iff.mpr ⟨summary, mapError_ok_iff.mpr hsummary, unit_bind_ok_iff.mpr
      ⟨forM_ok_iff.mpr fun coherence hmem => (hvalid coherence hmem).1,
        unit_bind_ok_iff.mpr ⟨forM_ok_iff.mpr fun coherence hmem => (hvalid coherence hmem).2, ?_⟩⟩⟩
    rfl

theorem plainResults_keys :
    (plainResults results).map AnalystResult.key = results.map fun result => result.key :=
  List.map_map

theorem keys_nodup_of_supervise
    (h : TechnicalSupervisor.supervise analysts timeframes results = .ok technical) :
    (results.map fun result => result.key).Nodup :=
  plainResults_keys ▸ (aggregate_isOk_iff.mp ⟨_, (supervise_ok_iff.mp h).1⟩).nodup

/-- **The order of the results does not matter**, but for that of the merged labels. -/
theorem supervise_perm (hperm : results.Perm results')
    (h : TechnicalSupervisor.supervise analysts timeframes results = .ok technical) :
    ∃ provenance, TechnicalSupervisor.supervise analysts timeframes results' =
        .ok (technical.withProvenance provenance) ∧
      ∀ label, provenance.lookup label = technical.summary.provenance.lookup label := by
  have hkeys := keys_nodup_of_supervise h
  obtain ⟨hsummary, hembedded, hcoherence, hvalid⟩ := supervise_ok_iff.mp h
  have hplain : (plainResults results).Perm (plainResults results') := hperm.map _
  obtain ⟨summary', hsummary'⟩ := aggregate_isOk_iff.mpr
    ((aggregate_isOk_iff.mp ⟨_, hsummary⟩).perm hplain)
  have hsame := aggregate_perm hplain hsummary hsummary'
  have hfields : summary' = { technical.summary with provenance := summary'.provenance } := by
    have := congrArg (fun s => { s with provenance := summary'.provenance }) hsame.fields
    exact this.symm
  have hembed : embeddedResults analysts timeframes results =
      embeddedResults analysts timeframes results' :=
    List.filterMap_congr fun _ _ => Keyed.find?_key_eq_of_perm hkeys hperm
  refine ⟨summary'.provenance, supervise_ok_iff.mpr ⟨?_, hembedded.trans hembed, hcoherence, hvalid⟩,
    fun label => (hsame.provenance label).symm⟩
  rw [hsummary']
  exact congrArg Except.ok hfields

/-- The labels of a result are not part of its checks. -/
theorem aggregateResults_perm {result : TechnicalSupervisorReport} (hperm : results.Perm results')
    (h : supervisor.aggregateResults results = .ok result) :
    ∃ provenance, supervisor.aggregateResults results' = .ok (result.withProvenance provenance) ∧
      ∀ label, provenance.lookup label = result.summary.provenance.lookup label := by
  obtain ⟨technical, htechnical, h⟩ := bind_ok_iff.mp h
  obtain ⟨hvalidate, h⟩ := unit_bind_ok_iff.mp h
  cases h
  obtain ⟨provenance, htechnical', hlookup⟩ := supervise_perm hperm htechnical
  exact ⟨provenance, bind_ok_iff.mpr ⟨_, htechnical', unit_bind_ok_iff.mpr ⟨hvalidate, rfl⟩⟩,
    hlookup⟩

/-! ## What a tally refers to -/

variable {analystResults : List TechnicalAnalysisResult}
  {qualifies : TechnicalAnalysisResult → TechnicalAnalysisObservation → Bool}
  {entry : CoherenceEntry}

/-- The value of the observation that a pair of indices points at. -/
def valueAt (analystResults : List TechnicalAnalysisResult) (ref : ℕ × ℕ) : Option String :=
  (observationAt analystResults ref).map TechnicalAnalysisObservation.value

/-- A tally refers to one observation of its dimension and subject on each of its timeframes, and
its verdict is that of their values. -/
structure Faithful (analystResults : List TechnicalAnalysisResult)
    (coherence : TechnicalCoherenceResult) : Prop where
  timeframes : coherence.evidenceRefs.map (timeframeAt analystResults) =
    coherence.contributingTimeframes.map some
  nodup : coherence.contributingTimeframes.Nodup
  observed : ∀ ref ∈ coherence.evidenceRefs, ∃ observation,
    observationAt analystResults ref = some observation ∧
      observation.dimension = coherence.dimension ∧ observation.subject = coherence.subject
  allAgree : coherence.verdict = .allAgree ↔ coherence.evidenceRefs ≠ [] ∧
    ∀ ref ∈ coherence.evidenceRefs, ∀ ref' ∈ coherence.evidenceRefs,
      valueAt analystResults ref = valueAt analystResults ref'
  mixed : coherence.verdict = .mixed ↔
    ∃ ref ∈ coherence.evidenceRefs, ∃ ref' ∈ coherence.evidenceRefs,
      valueAt analystResults ref ≠ valueAt analystResults ref'

@[simp] theorem tallyGroup_dimension (dimension : TechnicalAnalysisDimension)
    (subject : Option String) (entries : List CoherenceEntry) :
    (tallyGroup dimension subject entries).dimension = dimension := by
  unfold tallyGroup
  split_ifs <;> rfl

@[simp] theorem tallyGroup_subject (dimension : TechnicalAnalysisDimension)
    (subject : Option String) (entries : List CoherenceEntry) :
    (tallyGroup dimension subject entries).subject = subject := by
  unfold tallyGroup
  split_ifs <;> rfl

theorem timeframeAt_entry (h : entry ∈ qualifyingEntries analystResults qualifies) :
    timeframeAt analystResults entry.ref = some entry.timeframe := by
  obtain ⟨result, hresult, h⟩ := mem_qualifyingEntries.mp h
  have hresult : analystResults[entry.ref.1]? = some result := hresult
  rw [timeframeAt, hresult, Option.map_some, (mem_resultEntries.mp h).2.1]

theorem valueAt_entry (h : entry ∈ qualifyingEntries analystResults qualifies) :
    valueAt analystResults entry.ref = some entry.value := by
  obtain ⟨result, hresult, h⟩ := mem_qualifyingEntries.mp h
  obtain ⟨-, -, -, observation, hobservation, hvalue, -⟩ := mem_resultEntries.mp h
  have hat : observationAt analystResults entry.ref = some observation := by
    have hresult : analystResults[entry.ref.1]? = some result := hresult
    rw [observationAt, hresult]
    exact hobservation
  rw [valueAt, hat, Option.map_some, hvalue]

theorem length_dedup_eq_one_iff {α : Type} [DecidableEq α] {l : List α} :
    l.dedup.length = 1 ↔ l ≠ [] ∧ ∀ a ∈ l, ∀ b ∈ l, a = b := by
  rw [List.length_eq_one_iff]
  constructor
  · rintro ⟨c, hc⟩
    have hall : ∀ a ∈ l, a = c := fun a ha => by
      simpa [hc] using List.mem_dedup.mpr ha
    refine ⟨?_, fun a ha b hb => (hall a ha).trans (hall b hb).symm⟩
    rintro rfl
    cases hc
  · rintro ⟨hne, hall⟩
    obtain ⟨c, hc⟩ := List.exists_mem_of_ne_nil l hne
    refine ⟨c, ?_⟩
    rw [List.eq_replicate_of_mem fun a ha => hall a ha c hc,
      List.replicate_dedup (List.length_pos_of_mem hc).ne']

/-- A tally of qualifying observations on different timeframes, of its subject, is faithful. -/
theorem faithful_tallyGroup {dimension : TechnicalAnalysisDimension} {subject : Option String}
    (hnodup : (tallyGroup dimension subject
      (qualifyingEntries analystResults qualifies)).contributingTimeframes.Nodup)
    (hobserved : ∀ ref ∈ (tallyGroup dimension subject
      (qualifyingEntries analystResults qualifies)).evidenceRefs, ∃ observation,
        observationAt analystResults ref = some observation ∧
          observation.dimension = dimension ∧ observation.subject = subject) :
    Faithful analystResults
      (tallyGroup dimension subject (qualifyingEntries analystResults qualifies)) := by
  have htimeframe : ∀ entry ∈ qualifyingEntries analystResults qualifies,
      timeframeAt analystResults entry.ref = some entry.timeframe := fun _ => timeframeAt_entry
  have hvalue : ∀ entry ∈ qualifyingEntries analystResults qualifies,
      valueAt analystResults entry.ref = some entry.value := fun _ => valueAt_entry
  revert hnodup hobserved htimeframe hvalue
  generalize qualifyingEntries analystResults qualifies = entries
  intro hnodup hobserved htimeframe hvalue
  by_cases hlt : entries.length < 2
  · rw [tallyGroup, if_pos hlt] at *
    exact ⟨rfl, hnodup, hobserved, ⟨nofun, fun h => absurd rfl h.1⟩,
      ⟨nofun, fun ⟨_, h, _⟩ => absurd h List.not_mem_nil⟩⟩
  · have hne : entries.map CoherenceEntry.value ≠ [] := fun hnil => by simp_all
    have hagree : (∀ ref ∈ entries.map CoherenceEntry.ref, ∀ ref' ∈ entries.map CoherenceEntry.ref,
        valueAt analystResults ref = valueAt analystResults ref') ↔
          (entries.map CoherenceEntry.value).dedup.length = 1 := by
      rw [length_dedup_eq_one_iff, and_iff_right hne]
      simp only [List.forall_mem_map]
      refine forall₂_congr fun entry hentry => forall₂_congr fun entry' hentry' => ?_
      rw [hvalue entry hentry, hvalue entry' hentry', Option.some.injEq]
    have hrefs : entries.map CoherenceEntry.ref ≠ [] := fun hnil => by simp_all
    rw [tallyGroup, if_neg hlt] at *
    refine ⟨?_, hnodup, hobserved, (Iff.trans ?_ hagree.symm).trans (and_iff_right hrefs).symm,
      (Iff.trans ?_ (not_congr hagree).symm).trans ?_⟩
    · rw [List.map_map, List.map_map]
      exact List.map_congr_left htimeframe
    · dsimp only
      split_ifs with hone
      · exact iff_of_true rfl hone
      · exact iff_of_false nofun hone
    · dsimp only
      split_ifs with hone
      · exact iff_of_false nofun (not_not.mpr hone)
      · exact iff_of_true rfl hone
    · push Not
      rfl

theorem nodup_of_validate (h : coherence.validate = .ok ()) :
    coherence.contributingTimeframes.Nodup := by
  unfold TechnicalCoherenceResult.validate at h
  split_ifs at h with hverdict
  · rw [(check_bind_ok.mp h).1]
    exact List.nodup_nil
  · exact (check_bind_ok.mp (check_bind_ok.mp h).2).1

theorem observed_of_validateRefs (h : coherence.validateRefs analystResults = .ok ())
    {ref : ℕ × ℕ} (href : ref ∈ coherence.evidenceRefs) : ∃ observation,
      observationAt analystResults ref = some observation ∧
        observation.dimension = coherence.dimension ∧
        observation.subject = coherence.subject := by
  have h := forM_ok_iff.mp h ref href
  cases hresult : analystResults[ref.1]? with
  | none =>
      rw [hresult] at h
      cases h
  | some result =>
      rw [hresult] at h
      dsimp only at h
      cases hobservation : result.observations[ref.2]? with
      | none =>
          rw [hobservation] at h
          cases h
      | some observation =>
          rw [hobservation] at h
          obtain ⟨hdimension, h⟩ := check_bind_ok.mp h
          refine ⟨observation, ?_, hdimension, check_ok_iff.mp h⟩
          rw [observationAt, hresult, Option.bind_some, hobservation]

/-- **Every tally of a supervision is faithful.** -/
theorem faithful_of_supervise
    (h : TechnicalSupervisor.supervise analysts timeframes results = .ok technical)
    (hmem : coherence ∈ technical.coherence) : Faithful technical.analystResults coherence := by
  obtain ⟨-, -, hcoherence, hvalid⟩ := supervise_ok_iff.mp h
  obtain ⟨hvalidate, hrefs⟩ := hvalid coherence hmem
  have hnodup := nodup_of_validate hvalidate
  have hobserved : ∀ ref ∈ coherence.evidenceRefs, ∃ observation,
      observationAt technical.analystResults ref = some observation ∧
        observation.dimension = coherence.dimension ∧ observation.subject = coherence.subject :=
    fun _ => observed_of_validateRefs hrefs
  rw [hcoherence] at hmem
  rcases List.mem_append.mp hmem with hmem | hmem
  · obtain ⟨dimension, -, rfl⟩ := List.mem_map.mp hmem
    rw [tallyGroup_dimension, tallyGroup_subject] at hobserved
    exact faithful_tallyGroup hnodup hobserved
  · obtain ⟨key, -, rfl⟩ := List.mem_map.mp hmem
    rw [tallyGroup_dimension, tallyGroup_subject] at hobserved
    exact faithful_tallyGroup hnodup hobserved

/-! ## The whole aggregation -/

/-- The two reports are equal, their labels being compared as those of dictionaries. -/
def TechnicalSupervisorReport.Same (result result' : TechnicalSupervisorReport) : Prop :=
  result' = result.withProvenance result'.summary.provenance ∧
    ∀ label, result'.summary.provenance.lookup label = result.summary.provenance.lookup label

/-- Aggregation does not depend on the order of the results. It carries all of them, puts every
expected cell in one bucket, and its tallies are faithful. -/
structure OrderFreePartition (supervisor : TechnicalSupervisor)
    (results : List TechnicalAnalysisResult) : Prop where
  raises : ∀ results', results.Perm results' →
    (supervisor.aggregateResults results').isOk = (supervisor.aggregateResults results).isOk
  same : ∀ results' result result', results.Perm results' →
    supervisor.aggregateResults results = .ok result →
      supervisor.aggregateResults results' = .ok result' → result.Same result'
  embedded : ∀ result, supervisor.aggregateResults results = .ok result →
    result.analystResults.Perm results
  disjoint : ∀ result, supervisor.aggregateResults results = .ok result →
    (result.summary.analyzed ++ result.summary.abstained ++ result.summary.missing).Nodup
  covering : ∀ result, supervisor.aggregateResults results = .ok result → ∀ cell : Cell,
    cell ∈ result.summary.analyzed ++ result.summary.abstained ++ result.summary.missing ↔
      cell.1 ∈ supervisor.expectedAnalysts ∧ cell.2 ∈ supervisor.expectedTimeframes
  tallies : ∀ result, supervisor.aggregateResults results = .ok result →
    ∀ coherence ∈ result.coherence, Faithful result.analystResults coherence

theorem supervise_of_aggregateResults {result : TechnicalSupervisorReport}
    (h : supervisor.aggregateResults results = .ok result) :
    TechnicalSupervisor.supervise supervisor.expectedAnalysts supervisor.expectedTimeframes
      results = .ok result.toTechnicalSupervision := by
  obtain ⟨technical, htechnical, h⟩ := bind_ok_iff.mp h
  obtain ⟨-, h⟩ := unit_bind_ok_iff.mp h
  cases h
  exact htechnical

theorem embedded_of_supervise
    (h : TechnicalSupervisor.supervise analysts timeframes results = .ok technical) :
    technical.analystResults.Perm results := by
  have hkeys := keys_nodup_of_supervise h
  obtain ⟨hsummary, hembedded, -⟩ := supervise_ok_iff.mp h
  have hexpected := (aggregate_isOk_iff.mp ⟨_, hsummary⟩).expected
  rw [hembedded]
  refine Keyed.filterMap_find?_perm hkeys expectedCells_nodup fun result hresult => ?_
  exact mem_expectedCells_of_unexpected (hexpected _ (List.mem_map_of_mem hresult))

/-- **Aggregation is free of order and a partition.** -/
theorem aggregateResults_orderFreePartition (supervisor : TechnicalSupervisor)
    (results : List TechnicalAnalysisResult) : OrderFreePartition supervisor results where
  raises results' hperm := by
    rw [Bool.eq_iff_iff, isOk_iff, isOk_iff]
    constructor
    · rintro ⟨result, h⟩
      obtain ⟨provenance, h, -⟩ := aggregateResults_perm hperm.symm h
      exact ⟨_, h⟩
    · rintro ⟨result, h⟩
      obtain ⟨provenance, h, -⟩ := aggregateResults_perm hperm h
      exact ⟨_, h⟩
  same results' result result' hperm h h' := by
    obtain ⟨provenance, hother, hlookup⟩ := aggregateResults_perm hperm h
    rw [h'] at hother
    cases hother
    exact ⟨rfl, hlookup⟩
  embedded result h := embedded_of_supervise (supervise_of_aggregateResults h)
  disjoint result h := by
    obtain ⟨hsummary, -⟩ := supervise_ok_iff.mp (supervise_of_aggregateResults h)
    exact (aggregate_partition expectedCells_nodup hsummary).1
  covering result h cell := by
    obtain ⟨hsummary, -⟩ := supervise_ok_iff.mp (supervise_of_aggregateResults h)
    rw [(aggregate_partition expectedCells_nodup hsummary).2, mem_expectedCells]
  tallies result h _ hmem := faithful_of_supervise (supervise_of_aggregateResults h) hmem

/-- The trend on two timeframes. -/
def trendSupervisor : TechnicalSupervisor where
  expectedAnalysts := [.trend]
  expectedTimeframes := [.m15, .h1]
  analysts_canonical := List.singleton_sublist.mpr (mem_technicalAnalysts _)
  analysts_nonempty := List.cons_ne_nil _ _
  timeframes_canonical := by decide
  timeframes_nonempty := List.cons_ne_nil _ _

/-- The trend analyst saw the return go one way. -/
def returnSeen (timeframe : Timeframe) (value : String) : TechnicalAnalysisResult where
  key := (.trend, timeframe)
  identity := ⟨btcusdt, .perpetual, 0⟩
  status := .analyzed
  quality := .valid
  observations := [{ dimension := .returnDirection, value, quality := .valid }]
  abstained_empty := nofun

example : ((trendSupervisor.aggregateResults [returnSeen .h1 "UP", returnSeen .m15 "DOWN"]).map
    fun result => result.coherence.head?.map fun coherence =>
      (coherence.verdict, coherence.contributingTimeframes, coherence.evidenceRefs)).toOption =
    some (some (.mixed, [.m15, .h1], [(0, 0), (1, 0)])) := by
  decide +kernel

end TradingAdvisor
