import TradingAdvisor.Flow.GradedObservations

/-!
# Supervision of the flow contour

The supervisor takes the results of the expected analysts in any order. It tallies the three
relationships of the price in two tiers: a relationship speaks when its windows are unanimous, and
the speaking ones are compared.

* `FlowSupervisor.supervise`, `FlowSupervisorReport.validate` — the supervisor and the validators
  of its result;
* `relationshipCoherence`, `speaks` — the tally, and what a relationship says;
* `validate_report` — what the supervisor reports passes its validators;
* **`flow_snapshot_supervised`**: the analysts of a snapshot are supervised without an error, in
  any order, and the coherence is that of the snapshot.
-/

namespace TradingAdvisor

open Checks VersionedStore

/-! ## The supervisor -/

/-- The relationships of the price, which share one vocabulary. -/
def relationshipDimensions : List AnalysisDimension :=
  [.priceTakerRelationship, .priceOpenInterestRelationship, .priceLiquidationRelationship]

/-- The value and the places of the observations of a dimension, when they are unanimous. -/
def representative (observations : List FlowAnalysisObservation) (dimension : AnalysisDimension) :
    Option (String × List ℕ) :=
  let found := observations.zipIdx.filter fun entry => entry.1.dimension = dimension
  if tally (found.map fun entry => entry.1.value) = .allAgree then
    found.head?.map fun entry => (entry.1.value, found.map Prod.snd)
  else none

/-- Two-tier tally of the relationships across domains. -/
def relationshipCoherence (results : List FlowAnalysisResult) :
    AgreementVerdict × List (ℕ × ℕ) :=
  match results.zipIdx.find? fun entry => entry.1.key = .priceFlowRelationship with
  | none => (.insufficientData, [])
  | some (result, i) =>
      let representatives := relationshipDimensions.filterMap (representative result.observations)
      if representatives.length < 2 then (.insufficientData, [])
      else
        (if (representatives.map Prod.fst).dedup.length = 1 then .allAgree else .mixed,
          representatives.flatMap fun found => found.2.map fun j => (i, j))

/-- Aggregation of the analyst results of one snapshot. -/
structure FlowSupervisorReport extends SupervisorResult FlowAnalystType FlowIdentity where
  expectedAnalysts : List FlowAnalystType
  expectedCount : ℕ
  analyzedCount : ℕ
  abstainedCount : ℕ
  missingCount : ℕ
  usableAnalystRatio : ℚ
  coherence : AgreementVerdict
  relationshipEvidenceRefs : List (ℕ × ℕ)
  results : List FlowAnalysisResult

/-- Why the result of a supervisor is not accepted. -/
inductive FlowSupervisorError
  | input (error : SupervisorInputError FlowAnalystType)
  | expectedEmpty
  | expectedDuplicates
  | participation
  | counts
  | ratio
  | analystResult (key : FlowAnalystType)
  | analystResults
  | evidenceRef (ref : ℕ × ℕ)
  | refsWithoutCoherence
  | coherenceWithoutRefs

/-- The validators of a supervisor's result. -/
def FlowSupervisorReport.validate (s : FlowSupervisorReport) : Except FlowSupervisorError Unit := do
  check (s.expectedAnalysts ≠ []) .expectedEmpty
  check s.expectedAnalysts.Nodup .expectedDuplicates
  check (s.analyzed.Nodup ∧ s.abstained.Nodup ∧ s.missing.Nodup) .participation
  check ((∀ key ∈ s.analyzed, key ∉ s.abstained ∧ key ∉ s.missing) ∧
    ∀ key ∈ s.abstained, key ∉ s.missing) .participation
  check (∀ key ∈ defaultExpectedAnalysts,
    (key ∈ s.analyzed ∨ key ∈ s.abstained ∨ key ∈ s.missing) ↔ key ∈ s.expectedAnalysts)
    .participation
  check (s.expectedCount = s.expectedAnalysts.length ∧ s.analyzedCount = s.analyzed.length ∧
    s.abstainedCount = s.abstained.length ∧ s.missingCount = s.missing.length) .counts
  check (|s.usableAnalystRatio - s.analyzedCount / s.expectedCount| ≤ 1 / 10 ^ 9) .ratio
  check (s.results.map fun result => result.key).Nodup .analystResults
  s.results.forM fun result =>
    check (result.key ∈ s.expectedAnalysts ∧ result.identity = s.identity ∧
      (result.key ∈ s.analyzed ∧ result.status = .analyzed ∨
        result.key ∉ s.analyzed ∧ result.key ∈ s.abstained ∧ result.status = .abstained))
      (.analystResult result.key)
  check (∀ key ∈ defaultExpectedAnalysts, key ∈ s.results.map (fun result => result.key) ↔
    key ∈ s.analyzed ∨ key ∈ s.abstained) .analystResults
  s.relationshipEvidenceRefs.forM fun ref =>
    check (∃ result ∈ s.results[ref.1]?, ref.2 < result.observations.length) (.evidenceRef ref)
  match s.coherence with
  | .insufficientData => check (s.relationshipEvidenceRefs = []) .refsWithoutCoherence
  | _ => check (s.relationshipEvidenceRefs ≠ []) .coherenceWithoutRefs

namespace FlowSupervisor

variable (expected : List FlowAnalystType)

/-- A supervisor is built for analysts that do not repeat; it puts them in canonical order. -/
def create : Except String (List FlowAnalystType) :=
  if expected = [] then .error "expected_analysts must not be empty"
  else if expected.Nodup then
    .ok (defaultExpectedAnalysts.filter fun key => key ∈ expected)
  else .error "expected_analysts must not contain duplicate AnalystType entries"

/-- The error for an analyst that is not expected. -/
def unexpected (key : FlowAnalystType) : Option (SupervisorInputError FlowAnalystType) :=
  if key ∈ expected then none else some (.unexpectedAnalyst key)

/-- The results in canonical order. -/
def canonical (results : List FlowAnalysisResult) : List FlowAnalysisResult :=
  defaultExpectedAnalysts.filterMap fun key => results.find? fun result => result.key = key

/-- Aggregate already-produced analyst results of one snapshot. -/
def report (results : List FlowAnalysisResult) :
    Except (SupervisorInputError FlowAnalystType) FlowSupervisorReport := do
  let s ← TradingAdvisor.aggregate expected (unexpected expected)
    (results.map fun result => result.toAnalystResult)
    ((canonical results).map fun result => result.toAnalystResult)
  let ordered := canonical results
  return { s with
    expectedAnalysts := expected
    expectedCount := expected.length
    analyzedCount := s.analyzed.length
    abstainedCount := s.abstained.length
    missingCount := s.missing.length
    usableAnalystRatio := s.analyzed.length / expected.length
    coherence := (relationshipCoherence ordered).1
    relationshipEvidenceRefs := (relationshipCoherence ordered).2
    results := ordered }

/-- The result of the supervisor is constructed when its validators pass. -/
def supervise (results : List FlowAnalysisResult) :
    Except FlowSupervisorError FlowSupervisorReport := do
  let s ← (report expected results).mapError .input
  s.validate
  return s

end FlowSupervisor

/-! ## What the supervisor reports -/

section Checked

variable {κ ι : Type} [DecidableEq κ] [DecidableEq ι] {expected : List κ}
  {unexpected : κ → Option (SupervisorInputError κ)} {results checked : List (AnalystResult κ ι)}
  {s : SupervisorResult κ ι}

/-- The identities may be checked in another order. -/
theorem aggregate_checked_iff (hperm : results.Perm checked) :
    aggregate expected unexpected results checked = .ok s ↔
      aggregate expected unexpected checked checked = .ok s := by
  have hempty : results ≠ [] ↔ checked ≠ [] := by
    rw [← List.length_pos_iff, ← List.length_pos_iff, hperm.length_eq]
  have hmissing : (expected.filter fun key => key ∉ results.map AnalystResult.key) =
      expected.filter fun key => key ∉ checked.map AnalystResult.key := by
    refine List.filter_congr fun key _ => ?_
    exact decide_eq_decide.mpr (not_congr (hperm.map AnalystResult.key).mem_iff)
  have hkeys : checkKeys unexpected [] results = .ok () ↔
      checkKeys unexpected [] checked = .ok () := by
    rw [checkKeys_ok_iff, checkKeys_ok_iff, (hperm.map AnalystResult.key).nodup_iff]
    simp only [hperm.mem_iff]
  unfold aggregate
  rw [check_bind_ok, check_bind_ok, unit_bind_ok_iff, unit_bind_ok_iff, hempty, hkeys]
  refine and_congr_right fun _ => and_congr_right fun hchecked => ?_
  have hnodup := (checkKeys_ok_iff.mp (hkeys.mpr hchecked)).2
  rw [hmissing, inOrder_perm hnodup hperm]

end Checked

namespace FlowSupervisor

variable {expected : List FlowAnalystType} {results : List FlowAnalysisResult}
  {s : FlowSupervisorReport}

theorem mem_defaultExpectedAnalysts (key : FlowAnalystType) : key ∈ defaultExpectedAnalysts := by
  cases key <;> decide

theorem nodup_defaultExpectedAnalysts : defaultExpectedAnalysts.Nodup := by decide

theorem canonical_perm (hnodup : (results.map fun result => result.key).Nodup) :
    (canonical results).Perm results :=
  Keyed.filterMap_find?_perm hnodup nodup_defaultExpectedAnalysts
    fun result _ => mem_defaultExpectedAnalysts result.key

theorem canonical_keys_nodup (results : List FlowAnalysisResult) :
    ((canonical results).map fun result => result.key).Nodup :=
  nodup_defaultExpectedAnalysts.sublist (Keyed.filterMap_find?_keys_sublist _ _ _)

theorem canonical_eq_of_perm {results' : List FlowAnalysisResult}
    (hnodup : (results.map fun result => result.key).Nodup) (h : results.Perm results') :
    canonical results = canonical results' :=
  List.filterMap_congr fun _ _ => Keyed.find?_key_eq_of_perm hnodup h

theorem map_key_map (results : List FlowAnalysisResult) :
    (results.map fun result => result.toAnalystResult).map AnalystResult.key =
      results.map fun result => result.key := by
  rw [List.map_map]
  rfl

/-- What a report is made of. -/
theorem report_ok_iff : report expected results = .ok s ↔
    ∃ base, TradingAdvisor.aggregate expected (unexpected expected)
        ((canonical results).map fun result => result.toAnalystResult)
        ((canonical results).map fun result => result.toAnalystResult) = .ok base ∧
      (results.map fun result => result.key).Nodup ∧
      s = { base with
        expectedAnalysts := expected
        expectedCount := expected.length
        analyzedCount := base.analyzed.length
        abstainedCount := base.abstained.length
        missingCount := base.missing.length
        usableAnalystRatio := base.analyzed.length / expected.length
        coherence := (relationshipCoherence (canonical results)).1
        relationshipEvidenceRefs := (relationshipCoherence (canonical results)).2
        results := canonical results } := by
  unfold report
  rw [bind_ok_iff]
  constructor
  · rintro ⟨base, hbase, hs⟩
    have hnodup : (results.map fun result => result.key).Nodup := by
      obtain ⟨-, hrest⟩ := check_bind_ok.mp hbase
      obtain ⟨hkeys, -⟩ := unit_bind_ok_iff.mp hrest
      exact map_key_map results ▸ (checkKeys_ok_iff.mp hkeys).2
    have hperm := ((canonical_perm hnodup).symm).map fun result => result.toAnalystResult
    exact ⟨base, (aggregate_checked_iff hperm).mp hbase, hnodup, (Except.ok.inj hs).symm⟩
  · rintro ⟨base, hbase, hnodup, rfl⟩
    have hperm := ((canonical_perm hnodup).symm).map fun result => result.toAnalystResult
    exact ⟨base, (aggregate_checked_iff hperm).mpr hbase, rfl⟩

/-- A representative stands for observations of its dimension. -/
theorem representative_some {observations : List FlowAnalysisObservation}
    {dimension : AnalysisDimension} {value : String} {places : List ℕ}
    (h : representative observations dimension = some (value, places)) :
    places ≠ [] ∧ ∀ j ∈ places, ∃ observation, observations[j]? = some observation ∧
      observation.dimension = dimension := by
  unfold representative at h
  dsimp only at h
  split_ifs at h with htally
  obtain ⟨first, hfirst, hpair⟩ := Option.map_eq_some_iff.mp h
  obtain ⟨-, rfl⟩ := Prod.mk.inj hpair
  have hmem := List.mem_of_mem_head? hfirst
  refine ⟨by simpa using List.ne_nil_of_mem hmem, fun j hj => ?_⟩
  obtain ⟨entry, hentry, rfl⟩ := List.mem_map.mp hj
  obtain ⟨hin, hdimension⟩ := List.mem_filter.mp hentry
  exact ⟨entry.1, List.mem_zipIdx_iff_getElem?.mp hin, by simpa using hdimension⟩

theorem relationshipCoherence_refs {results : List FlowAnalysisResult} {ref : ℕ × ℕ}
    (h : ref ∈ (relationshipCoherence results).2) :
    ∃ result ∈ results[ref.1]?, ref.2 < result.observations.length := by
  unfold relationshipCoherence at h
  cases hfind : results.zipIdx.find? fun entry => entry.1.key = .priceFlowRelationship with
  | none =>
      rw [hfind] at h
      exact absurd h List.not_mem_nil
  | some found =>
      rw [hfind] at h
      dsimp only at h
      split_ifs at h
      · exact absurd h List.not_mem_nil
      all_goals
        obtain ⟨speaker, hspeaker, href⟩ := List.mem_flatMap.mp h
        obtain ⟨j, hj, rfl⟩ := List.mem_map.mp href
        obtain ⟨dimension, -, hrep⟩ := List.mem_filterMap.mp hspeaker
        obtain ⟨observation, hobservation, -⟩ := (representative_some hrep).2 j hj
        exact ⟨found.1, List.mem_zipIdx_iff_getElem?.mp (List.mem_of_find?_eq_some hfind),
          (List.getElem?_eq_some_iff.mp hobservation).1⟩

theorem relationshipCoherence_refs_eq_nil {results : List FlowAnalysisResult} :
    (relationshipCoherence results).2 = [] ↔
      (relationshipCoherence results).1 = .insufficientData := by
  unfold relationshipCoherence
  cases hfind : results.zipIdx.find? fun entry => entry.1.key = .priceFlowRelationship with
  | none => simp
  | some found =>
      dsimp only
      split_ifs with hfew hone
      · simp
      all_goals
        refine iff_of_false (fun hnil => ?_) (by simp)
        obtain ⟨speaker, hspeaker⟩ := List.exists_mem_of_length_pos
          (lt_of_lt_of_le two_pos (not_lt.mp hfew))
        obtain ⟨dimension, -, hrep⟩ := List.mem_filterMap.mp hspeaker
        have hplaces := List.flatMap_eq_nil_iff.mp hnil speaker hspeaker
        exact (representative_some hrep).1 (List.map_eq_nil_iff.mp hplaces)

/-- Which bucket a result is in. -/
theorem mem_bucket_iff {results : List (AnalystResult FlowAnalystType FlowIdentity)}
    {base : SupervisorResult FlowAnalystType FlowIdentity}
    (h : TradingAdvisor.aggregate expected (unexpected expected) results results = .ok base)
    {result : AnalystResult FlowAnalystType FlowIdentity} (hresult : result ∈ results) :
    (result.key ∈ base.analyzed ↔ result.status = .analyzed) ∧
      (result.key ∈ base.abstained ↔ result.status = .abstained) ∧ result.key ∈ expected := by
  have hwell := aggregate_isOk_iff.mp ⟨base, h⟩
  have hexpected : result.key ∈ expected := by
    have hkey := hwell.expected result hresult
    unfold unexpected at hkey
    split_ifs at hkey with hin
    exact hin
  obtain ⟨-, -, hanalyzed, habstained, -⟩ := aggregate_ok h
  have hbucket (status : AnalystOutcome) :
      result.key ∈ ((inOrder expected results).filter fun r => r.status = status).map
        AnalystResult.key ↔ result.status = status := by
    simp only [List.mem_map, List.mem_filter, mem_inOrder_iff hwell.nodup, decide_eq_true_eq]
    constructor
    · rintro ⟨other, ⟨⟨hmem, -⟩, hstatus⟩, hkey⟩
      rwa [← List.inj_on_of_nodup_map hwell.nodup hmem hresult hkey]
    · exact fun hstatus => ⟨result, ⟨⟨hresult, hexpected⟩, hstatus⟩, rfl⟩
  rw [hanalyzed, habstained]
  exact ⟨hbucket _, hbucket _, hexpected⟩

/-- **What the supervisor reports passes the validators of its result.** -/
theorem validate_report (hnonempty : expected ≠ []) (hexpected : expected.Nodup)
    (h : report expected results = .ok s) : s.validate = .ok () := by
  obtain ⟨base, hbase, -, rfl⟩ := report_ok_iff.mp h
  have hwell := aggregate_isOk_iff.mp ⟨base, hbase⟩
  obtain ⟨hnodup, hpartition⟩ := aggregate_partition hexpected hbase
  obtain ⟨hidentity, -, hanalyzed, habstained, -⟩ := aggregate_ok hbase
  obtain ⟨hfirst, hmissing, hapart⟩ := List.nodup_append'.mp hnodup
  obtain ⟨hnodupAnalyzed, hnodupAbstained, hdisjoint⟩ := List.nodup_append'.mp hfirst
  have hlength : (expected.length : ℚ) ≠ 0 := by
    simpa using hnonempty
  unfold FlowSupervisorReport.validate
  dsimp only
  rw [check_bind_ok, check_bind_ok, check_bind_ok, check_bind_ok, check_bind_ok, check_bind_ok,
    check_bind_ok, check_bind_ok, unit_bind_ok_iff, check_bind_ok, unit_bind_ok_iff]
  refine ⟨hnonempty, hexpected, ⟨hnodupAnalyzed, hnodupAbstained, hmissing⟩, ⟨?_, ?_⟩, ?_,
    ⟨rfl, rfl, rfl, rfl⟩, ?_, canonical_keys_nodup results, forM_ok_iff.mpr ?_, ?_,
    forM_ok_iff.mpr ?_, ?_⟩
  · exact fun key hkey => ⟨fun h => hdisjoint hkey h,
      fun h => hapart (List.mem_append_left _ hkey) h⟩
  · exact fun key hkey h => hapart (List.mem_append_right _ hkey) h
  · intro key _
    rw [← hpartition key, List.mem_append, List.mem_append, or_assoc]
  · simp
  · intro result hresult
    have hplain : result.toAnalystResult ∈
        (canonical results).map fun result => result.toAnalystResult :=
      List.mem_map_of_mem hresult
    obtain ⟨hin, hout, hkey⟩ := mem_bucket_iff hbase hplain
    refine check_ok_iff.mpr ⟨hkey, hidentity _ hplain, ?_⟩
    cases hstatus : result.status with
    | analyzed => exact .inl ⟨hin.mpr hstatus, rfl⟩
    | abstained =>
        refine .inr ⟨fun h => ?_, hout.mpr hstatus, rfl⟩
        exact absurd (hstatus.symm.trans (hin.mp h)) (by decide)
  · intro key _
    constructor
    · intro hkey
      obtain ⟨result, hresult, rfl⟩ := List.mem_map.mp hkey
      have hplain : result.toAnalystResult ∈
          (canonical results).map fun result => result.toAnalystResult :=
        List.mem_map_of_mem hresult
      obtain ⟨hin, hout, -⟩ := mem_bucket_iff hbase hplain
      cases hstatus : result.status with
      | analyzed => exact .inl (hin.mpr hstatus)
      | abstained => exact .inr (hout.mpr hstatus)
    · intro hkey
      rw [← map_key_map]
      rw [hanalyzed, habstained] at hkey
      rcases hkey with hkey | hkey <;>
      · obtain ⟨result, hresult, rfl⟩ := List.mem_map.mp hkey
        exact List.mem_map_of_mem (mem_of_mem_inOrder (List.mem_of_mem_filter hresult))
  · exact fun ref href => check_ok_iff.mpr (relationshipCoherence_refs href)
  · cases hcoherence : (relationshipCoherence (canonical results)).1 with
    | insufficientData =>
        exact check_ok_iff.mpr (relationshipCoherence_refs_eq_nil.mpr hcoherence)
    | allAgree | mixed =>
        refine check_ok_iff.mpr fun hnil => ?_
        rw [relationshipCoherence_refs_eq_nil.mp hnil] at hcoherence
        cases hcoherence

/-- The validators never turn a report down. -/
theorem supervise_ok_iff' (hnonempty : expected ≠ []) (hexpected : expected.Nodup) :
    supervise expected results = .ok s ↔ report expected results = .ok s := by
  unfold supervise
  rw [bind_ok_iff]
  constructor
  · rintro ⟨r, hr, h⟩
    obtain ⟨-, h⟩ := unit_bind_ok_iff.mp h
    cases h
    exact mapError_ok_iff.mp hr
  · exact fun h => ⟨s, mapError_ok_iff.mpr h,
      unit_bind_ok_iff.mpr ⟨validate_report hnonempty hexpected h, rfl⟩⟩

end FlowSupervisor

/-! ## What the relationships say -/

section Tally

variable {α β : Type} [DecidableEq α] [DecidableEq β] {values : List α} {f : α → β}

theorem tally_map (hf : Function.Injective f) : tally (values.map f) = tally values := by
  unfold tally
  rw [List.length_map, List.dedup_map_of_injective hf, List.length_map]

theorem value_injective : Function.Injective PriceFlowRelationship.value := by
  intro a b h
  cases a <;> cases b <;> first | rfl | exact absurd h (by decide)

end Tally

section Relationships

variable (snapshot : FlowFeatureSnapshot FlowBlocks)

/-- The relationships of the price with one flow, window by window. -/
def relationshipsOf (dimension : AnalysisDimension) : List PriceFlowRelationship :=
  snapshot.blocks.priceContext.entries.flatMap fun entry =>
    if entry.2.status.quality = .unavailable then []
    else
      entry.2.returnPct.elim [] fun returnPct =>
        ((PriceFlowRelationshipAnalyst.legs snapshot entry.1).filter fun comparison =>
          comparison.1 = dimension).map fun comparison =>
            relationship returnPct comparison.2.value

/-- What the windows say of the price and one flow, when there are two and they are unanimous. -/
def speaks (dimension : AnalysisDimension) : Option PriceFlowRelationship :=
  if tally (relationshipsOf snapshot dimension) = .allAgree then
    (relationshipsOf snapshot dimension).head?
  else none

variable {snapshot} {dimension : AnalysisDimension}

theorem foldl_append_flatMap {σ ε ω : Type} {op : σ → ε → σ} (f : σ → List ω) {g : ε → List ω}
    (hop : ∀ s e, f (op s e) = f s ++ g e) (items : List ε) (s : σ) :
    f (items.foldl op s) = f s ++ items.flatMap g := by
  induction items generalizing s with
  | nil => simp
  | cons e items ih => rw [List.foldl_cons, ih, hop, List.flatMap_cons, List.append_assoc]

/-- The values of the observations of a dimension. -/
def observed (dimension : AnalysisDimension) (observations : List FlowAnalysisObservation) :
    List String :=
  (observations.filter fun observation => observation.dimension = dimension).map
    FlowAnalysisObservation.value

theorem observed_append (a b : List FlowAnalysisObservation) :
    observed dimension (a ++ b) = observed dimension a ++ observed dimension b := by
  rw [observed, List.filter_append, List.map_append, observed, observed]

/-- What the analyst observes of a relationship is what the windows say. -/
theorem observed_draft (hdimension : dimension ∈ relationshipDimensions) :
    observed dimension (PriceFlowRelationshipAnalyst.draft snapshot).observations =
      (relationshipsOf snapshot dimension).map PriceFlowRelationship.value := by
  have hcorrelation : dimension ≠ .correlationRelationship := by
    rintro rfl
    exact absurd hdimension (by decide)
  have hcross (draft : FlowDraft) (entry : String × CrossFeatureObservation) :
      observed dimension (PriceFlowRelationshipAnalyst.cross snapshot draft entry).observations =
        observed dimension draft.observations ++ [] := by
    unfold PriceFlowRelationshipAnalyst.cross
    dsimp only
    split_ifs
    · exact (List.append_nil _).symm
    · cases entry.2.correlation with
      | none => exact (List.append_nil _).symm
      | some value =>
          refine (observed_append _ _).trans (congrArg _ ?_)
          simp [observed, hcorrelation.symm]
  have happend (label : String) (returnPct : ℚ) (quality : FeatureQuality) (draft : FlowDraft)
      (comparison : AnalysisDimension × PriceFlowRelationshipAnalyst.Leg) :
      observed dimension (PriceFlowRelationshipAnalyst.appendRelationship snapshot label returnPct
        quality draft comparison).observations = observed dimension draft.observations ++
          if comparison.1 = dimension then [(relationship returnPct comparison.2.value).value]
          else [] := by
    refine (observed_append _ _).trans (congrArg _ ?_)
    by_cases h : comparison.1 = dimension <;> simp [observed, h]
  have hprice (draft : FlowDraft) (entry : String × PriceContextWindowFeatures) :
      observed dimension (PriceFlowRelationshipAnalyst.price snapshot draft entry).observations =
        observed dimension draft.observations ++
          (if entry.2.status.quality = .unavailable then []
          else
            entry.2.returnPct.elim [] fun returnPct =>
              ((PriceFlowRelationshipAnalyst.legs snapshot entry.1).filter fun comparison =>
                comparison.1 = dimension).map fun comparison =>
                  relationship returnPct comparison.2.value).map PriceFlowRelationship.value := by
    unfold PriceFlowRelationshipAnalyst.price
    dsimp only
    split_ifs
    · exact (List.append_nil _).symm
    · cases entry.2.returnPct with
      | none => exact (List.append_nil _).symm
      | some returnPct =>
          refine (foldl_append_flatMap
            (fun draft : FlowDraft => observed dimension draft.observations)
            (happend entry.1 returnPct entry.2.status.quality)
            (PriceFlowRelationshipAnalyst.legs snapshot entry.1) draft).trans (congrArg _ ?_)
          rw [Option.elim_some, List.map_map]
          generalize PriceFlowRelationshipAnalyst.legs snapshot entry.1 = legs
          induction legs with
          | nil => rfl
          | cons leg legs ih =>
              rw [List.flatMap_cons, ih, List.filter_cons]
              by_cases h : leg.1 = dimension <;> simp [h]
  have hdraft := foldl_append_flatMap (fun draft : FlowDraft =>
    observed dimension draft.observations) hprice snapshot.blocks.priceContext.entries
    (snapshot.blocks.crossFeatures.entries.foldl
      (PriceFlowRelationshipAnalyst.cross snapshot) {})
  have hstart := foldl_append_flatMap (fun draft : FlowDraft =>
    observed dimension draft.observations) hcross snapshot.blocks.crossFeatures.entries {}
  rw [hstart] at hdraft
  refine hdraft.trans ?_
  rw [relationshipsOf, List.map_flatMap]
  simp [observed]

theorem representative_fst (hdimension : dimension ∈ relationshipDimensions) :
    (representative (PriceFlowRelationshipAnalyst.draft snapshot).observations dimension).map
      Prod.fst = (speaks snapshot dimension).map PriceFlowRelationship.value := by
  have hvalues : ((PriceFlowRelationshipAnalyst.draft snapshot).observations.zipIdx.filter
      fun entry => entry.1.dimension = dimension).map (fun entry => entry.1.value) =
        (relationshipsOf snapshot dimension).map PriceFlowRelationship.value := by
    rw [← observed_draft hdimension, observed]
    generalize (PriceFlowRelationshipAnalyst.draft snapshot).observations = observations
    conv_rhs => rw [← List.zipIdx_map_fst 0 observations, List.filter_map, List.map_map]
    rfl
  unfold representative speaks
  dsimp only
  rw [hvalues, tally_map value_injective]
  split_ifs
  · rw [Option.map_map, ← List.head?_map]
    exact (congrArg List.head? hvalues).trans List.head?_map
  · rfl

/-- The coherence of some results is the tally of what the relationships of the snapshot say. -/
theorem relationshipCoherence_eq {results : List FlowAnalysisResult}
    (hnodup : (results.map fun result => result.key).Nodup) {result : FlowAnalysisResult}
    (hresult : result ∈ results) (hkey : result.key = .priceFlowRelationship)
    (hobservations : result.observations =
      (PriceFlowRelationshipAnalyst.draft snapshot).observations) :
    (relationshipCoherence results).1 =
      tally (relationshipDimensions.filterMap (speaks snapshot)) := by
  have hfind : ∃ i, results.zipIdx.find? (fun entry =>
      entry.1.key = .priceFlowRelationship) = some (result, i) := by
    obtain ⟨i, hi⟩ := List.getElem?_of_mem hresult
    have hsome : (results.zipIdx.find? fun entry =>
        entry.1.key = .priceFlowRelationship).isSome :=
      List.find?_isSome.mpr ⟨(result, i), List.mem_zipIdx_iff_getElem?.mpr hi, by simpa using hkey⟩
    obtain ⟨found, hfound⟩ := Option.isSome_iff_exists.mp hsome
    have hin := List.mem_of_getElem? (List.mem_zipIdx_iff_getElem?.mp
      (List.mem_of_find?_eq_some hfound))
    have hfoundKey : found.1.key = .priceFlowRelationship := by
      simpa using List.find?_some hfound
    have hsame := List.inj_on_of_nodup_map hnodup hin hresult (hfoundKey.trans hkey.symm)
    exact ⟨found.2, hfound.trans (congrArg some (Prod.ext hsame rfl))⟩
  obtain ⟨i, hfind⟩ := hfind
  have hvalues : (relationshipDimensions.filterMap (representative result.observations)).map
      Prod.fst = (relationshipDimensions.filterMap (speaks snapshot)).map
        PriceFlowRelationship.value := by
    rw [List.map_filterMap, List.map_filterMap, hobservations]
    exact List.filterMap_congr fun dimension hdimension => representative_fst hdimension
  unfold relationshipCoherence
  rw [hfind]
  dsimp only
  rw [← tally_map value_injective, ← hvalues]
  unfold tally
  rw [List.length_map]
  split_ifs <;> rfl

theorem relationshipCoherence_of_not_mem {results : List FlowAnalysisResult}
    (h : FlowAnalystType.priceFlowRelationship ∉ results.map fun result => result.key) :
    (relationshipCoherence results).1 = .insufficientData := by
  have hfind : results.zipIdx.find? (fun entry =>
      entry.1.key = .priceFlowRelationship) = none := by
    refine List.find?_eq_none.mpr fun entry hentry hkey => h (List.mem_map.mpr ⟨entry.1, ?_, ?_⟩)
    · exact List.mem_of_getElem? (List.mem_zipIdx_iff_getElem?.mp hentry)
    · simpa using hkey
  unfold relationshipCoherence
  rw [hfind]

end Relationships

/-! ## The supervised snapshot -/

section Supervised

variable {snapshot : FlowFeatureSnapshot FlowBlocks}

/-- An origin that is reported is the label of its domain. -/
theorem origin_eq_provenanceLabel {analyst : FlowAnalystType} {entry : String × String}
    (h : entry ∈ analyst.origins snapshot) : entry.2 = provenanceLabel snapshot entry.1 := by
  cases analyst with
  | priceFlowRelationship =>
      obtain ⟨domain, -, hfind⟩ := List.mem_filterMap.mp h
      have hdomain : entry.1 = domain := by simpa using List.find?_some hfind
      unfold provenanceLabel
      rw [hdomain, hfind]
      rfl
  | takerFlow | liquidation | orderBookLiquidity | openInterest | funding =>
      obtain rfl := List.mem_singleton.mp h
      rfl

/-- What a report says of the snapshot, some of whose expected analysts were run. -/
structure FlowSupervisorReport.Describes (s : FlowSupervisorReport)
    (snapshot : FlowFeatureSnapshot FlowBlocks) (expected order : List FlowAnalystType) : Prop where
  valid : s.validate = .ok ()
  identity : s.identity = snapshot.identity
  analyzed : ∀ key, key ∈ s.analyzed ↔ key ∈ order ∧ Usable snapshot key
  abstained : ∀ key, key ∈ s.abstained ↔ key ∈ order ∧ ¬ Usable snapshot key
  missing : ∀ key, key ∈ s.missing ↔ key ∈ expected ∧ key ∉ order
  graded : ∀ result ∈ s.results, result.Graded
  /-- The coherence is the tally of what the relationships of the snapshot say. -/
  coherence : s.coherence = if .priceFlowRelationship ∈ order then
    tally (relationshipDimensions.filterMap (speaks snapshot)) else .insufficientData

/-- A report on what the analysts concluded of a snapshot says what the snapshot says. -/
theorem FlowSupervisorReport.describes {expected : List FlowAnalystType}
    {results : List FlowAnalysisResult} {s : FlowSupervisorReport} (hne : expected ≠ [])
    (hexpected : expected.Nodup) (hs : FlowSupervisor.report expected results = .ok s)
    (hconcluded : ∀ result ∈ results, result.identity = snapshot.identity ∧ result.Graded ∧
      result.observations = (result.key.draft snapshot).observations) :
    s.Describes snapshot expected (results.map fun result => result.key) := by
  have hvalid := FlowSupervisor.validate_report hne hexpected hs
  obtain ⟨base, hbase, hnodup, rfl⟩ := FlowSupervisor.report_ok_iff.mp hs
  have hperm := FlowSupervisor.canonical_perm hnodup
  have hplain {result : FlowAnalysisResult} (h : result ∈ results) : result.toAnalystResult ∈
      (FlowSupervisor.canonical results).map fun result => result.toAnalystResult :=
    List.mem_map_of_mem (hperm.mem_iff.mpr h)
  have hkeyOf {key : FlowAnalystType} (h : key ∈
      ((FlowSupervisor.canonical results).map fun result => result.toAnalystResult).map
        AnalystResult.key) : ∃ result ∈ results, result.key = key := by
    rw [FlowSupervisor.map_key_map] at h
    obtain ⟨result, hresult, hkey⟩ := List.mem_map.mp h
    exact ⟨result, hperm.mem_iff.mp hresult, hkey⟩
  obtain ⟨hidentity, -, hanalyzed, habstained, hmissing⟩ := aggregate_ok hbase
  have hstatus {result : FlowAnalysisResult} (h : result ∈ results) :
      result.status = .analyzed ↔ Usable snapshot result.key := by
    obtain ⟨-, hgraded, hobservations⟩ := hconcluded result h
    rw [← (result.key.draft_spec snapshot).2, ← hobservations, ne_eq, ← hgraded.abstains]
    cases result.status <;> decide
  refine ⟨hvalid, ?_, fun key => ?_, fun key => ?_, fun key => ?_, fun result hresult => ?_, ?_⟩
  · have hnonempty := (aggregate_isOk_iff.mp ⟨base, hbase⟩).nonempty
    obtain ⟨plain, hin⟩ := List.exists_mem_of_ne_nil _ hnonempty
    obtain ⟨result, hresult, rfl⟩ := List.mem_map.mp hin
    exact (hidentity _ hin).symm.trans (hconcluded result (hperm.mem_iff.mp hresult)).1
  · constructor
    · intro hkey
      have hmem := hkey
      rw [hanalyzed] at hmem
      obtain ⟨plain, hin, hplainKey⟩ := List.mem_map.mp hmem
      obtain ⟨result, hresult, rfl⟩ := hkeyOf (List.mem_map.mpr
        ⟨plain, mem_of_mem_inOrder (List.mem_of_mem_filter hin), hplainKey⟩)
      have hbucket := FlowSupervisor.mem_bucket_iff hbase (hplain hresult)
      exact ⟨List.mem_map_of_mem hresult, (hstatus hresult).mp (hbucket.1.mp hkey)⟩
    · rintro ⟨hkey, husable⟩
      obtain ⟨result, hresult, rfl⟩ := List.mem_map.mp hkey
      exact (FlowSupervisor.mem_bucket_iff hbase (hplain hresult)).1.mpr
        ((hstatus hresult).mpr husable)
  · constructor
    · intro hkey
      have hmem := hkey
      rw [habstained] at hmem
      obtain ⟨plain, hin, hplainKey⟩ := List.mem_map.mp hmem
      obtain ⟨result, hresult, rfl⟩ := hkeyOf (List.mem_map.mpr
        ⟨plain, mem_of_mem_inOrder (List.mem_of_mem_filter hin), hplainKey⟩)
      have hout := (FlowSupervisor.mem_bucket_iff hbase (hplain hresult)).2.1.mp hkey
      refine ⟨List.mem_map_of_mem hresult, fun husable => ?_⟩
      exact absurd (((hstatus hresult).mpr husable).symm.trans hout) (by decide)
    · rintro ⟨hkey, hunusable⟩
      obtain ⟨result, hresult, rfl⟩ := List.mem_map.mp hkey
      refine (FlowSupervisor.mem_bucket_iff hbase (hplain hresult)).2.1.mpr ?_
      cases houtcome : result.status with
      | analyzed => exact absurd ((hstatus hresult).mp houtcome) hunusable
      | abstained => rfl
  · change key ∈ base.missing ↔ _
    rw [hmissing, List.mem_filter, decide_eq_true_eq, FlowSupervisor.map_key_map,
      (hperm.map fun result => result.key).mem_iff]
  · exact (hconcluded result (hperm.mem_iff.mp hresult)).2.1
  · split_ifs with hin
    · obtain ⟨result, hresult, hkey⟩ := List.mem_map.mp hin
      have hobservations := (hconcluded result hresult).2.2
      rw [hkey] at hobservations
      exact relationshipCoherence_eq (FlowSupervisor.canonical_keys_nodup results)
        (hperm.mem_iff.mpr hresult) hkey hobservations
    · exact relationshipCoherence_of_not_mem fun h =>
        hin ((hperm.map fun result => result.key).mem_iff.mp h)

/-- **The analysts of a snapshot are supervised without an error, the order in which they were run
does not matter, and the report says what the snapshot says.** -/
theorem flow_snapshot_supervised (horigin : Originated snapshot)
    {expected order : List FlowAnalystType} (hexpected : expected.Nodup) (horder : order.Nodup)
    (hnonempty : order ≠ []) (hsub : ∀ key ∈ order, key ∈ expected) :
    ∃ s : FlowSupervisorReport, s.Describes snapshot expected order ∧
      ∀ order' : List FlowAnalystType, order'.Perm order →
        ∃ results, order'.mapM (FlowAnalystType.analyze snapshot) = .ok results ∧
          FlowSupervisor.supervise expected results = .ok s := by
  choose f hf using fun analyst => FlowAnalystType.analyze_spec horigin analyst
  have hkey (key : FlowAnalystType) : (f key).key = key := (hf key).2.1
  have hkeys (l : List FlowAnalystType) : (l.map f).map (fun result => result.key) = l := by
    rw [List.map_map]
    exact List.map_id'' hkey l
  have hnodupKeys : ((order.map f).map fun result => result.key).Nodup := by
    rwa [hkeys]
  have hperm := FlowSupervisor.canonical_perm hnodupKeys
  have hmem {result : FlowAnalysisResult} (h : result ∈ FlowSupervisor.canonical (order.map f)) :
      ∃ key ∈ order, f key = result := List.mem_map.mp (hperm.mem_iff.mp h)
  have hne : expected ≠ [] := by
    obtain ⟨key, hin⟩ := List.exists_mem_of_ne_nil _ hnonempty
    exact List.ne_nil_of_mem (hsub key hin)
  have hlabel {entry : String × String} (h : entry ∈ ((FlowSupervisor.canonical (order.map f)).map
      fun result => result.toAnalystResult).flatMap AnalystResult.provenance) :
      entry.2 = provenanceLabel snapshot entry.1 := by
    obtain ⟨plain, hplain, hentry⟩ := List.mem_flatMap.mp h
    obtain ⟨result, hresult, rfl⟩ := List.mem_map.mp hplain
    obtain ⟨key, -, rfl⟩ := hmem hresult
    obtain ⟨-, -, -, -, -, hprovenance⟩ := hf key
    rw [hprovenance] at hentry
    split_ifs at hentry
    · exact absurd hentry List.not_mem_nil
    · exact origin_eq_provenanceLabel hentry
  have haggregable : Aggregable (FlowSupervisor.unexpected expected)
      ((FlowSupervisor.canonical (order.map f)).map fun result => result.toAnalystResult) := by
    constructor
    · intro hnil
      have hlength := hperm.length_eq
      rw [List.map_eq_nil_iff.mp hnil, List.length_map] at hlength
      exact hnonempty (List.length_eq_zero_iff.mp hlength.symm)
    · intro plain hplain
      obtain ⟨result, hresult, rfl⟩ := List.mem_map.mp hplain
      obtain ⟨key, hin, rfl⟩ := hmem hresult
      unfold FlowSupervisor.unexpected
      rw [if_pos]
      exact (hkey key).symm ▸ hsub key hin
    · rw [FlowSupervisor.map_key_map]
      exact FlowSupervisor.canonical_keys_nodup _
    · intro plain hplain plain' hplain'
      obtain ⟨result, hresult, rfl⟩ := List.mem_map.mp hplain
      obtain ⟨result', hresult', rfl⟩ := List.mem_map.mp hplain'
      obtain ⟨key, -, rfl⟩ := hmem hresult
      obtain ⟨key', -, rfl⟩ := hmem hresult'
      exact (hf key).2.2.1.trans (hf key').2.2.1.symm
    · intro entry hentry entry' hentry' hdomain
      rw [hlabel hentry, hlabel hentry', hdomain]
  obtain ⟨base, hbase⟩ := aggregate_isOk_iff.mpr haggregable
  obtain ⟨s, hs⟩ : ∃ s, FlowSupervisor.report expected (order.map f) = .ok s :=
    ⟨_, FlowSupervisor.report_ok_iff.mpr ⟨base, hbase, (hkeys order).symm ▸ horder, rfl⟩⟩
  refine ⟨s, ?_, ?_⟩
  · refine hkeys order ▸ FlowSupervisorReport.describes hne hexpected hs fun result hresult => ?_
    obtain ⟨key, -, rfl⟩ := List.mem_map.mp hresult
    obtain ⟨-, hkeyEq, hidentity, hgraded, hobservations, -⟩ := hf key
    exact ⟨hidentity, hgraded, hkeyEq.symm ▸ hobservations⟩
  · intro order' hperm'
    refine ⟨order'.map f, mapM_ok_of_forall fun key _ => (hf key).1,
      (FlowSupervisor.supervise_ok_iff' hne hexpected).mpr ?_⟩
    obtain ⟨base, hbase, hnodup, rfl⟩ := FlowSupervisor.report_ok_iff.mp hs
    have hsame := FlowSupervisor.canonical_eq_of_perm hnodup (hperm'.map f).symm
    refine FlowSupervisor.report_ok_iff.mpr ⟨base, hsame ▸ hbase, ?_, by rw [hsame]⟩
    rw [hkeys]
    exact hperm'.nodup_iff.mpr horder

end Supervised

/-- An interest of the sample. -/
def interestAt (timestamp : Timestamp) (openInterest : ℕ) : FlowEvent :=
  .openInterest ⟨btcusdt, .perpetual, ⟨openInterest, openInterest.cast_nonneg⟩,
    ⟨"flow_engine", flow_engine_label⟩, timestamp⟩

/-- A bought trade of the sample. -/
def boughtAt (timestamp : Timestamp) (price : ℕ) : FlowEvent :=
  .trade { sampleTrade timestamp with price := ⟨price, price.cast_nonneg⟩ }

/-- A bought liquidation of the sample. -/
def liquidatedAt (timestamp : Timestamp) : FlowEvent :=
  .liquidation ⟨btcusdt, .perpetual, .buy, 1, timestamp, ⟨"flow_engine", flow_engine_label⟩⟩

/-- In both windows the price rises with the open interest and against the liquidations. -/
def confirmedSnapshot : FlowFeatureSnapshot FlowBlocks :=
  let identity : FlowIdentity := ⟨btcusdt, .perpetual, 40000000, [tenSeconds, thirtySeconds]⟩
  let blocks := wholeBlocks sampleFlowSetting identity [
    boughtAt 10000000 10, boughtAt 20000000 11, boughtAt 32000000 12, boughtAt 38000000 13,
    liquidatedAt 10000000, liquidatedAt 32000000,
    interestAt 0 100, interestAt 15000000 110, interestAt 30000000 120, interestAt 35000000 130]
  ⟨identity, blocks, blocks.provenance⟩

/-- The relationships of three flows are weighed. -/
theorem flow_snapshot_supervised_sample :
    ∃ s : FlowSupervisorReport, s.coherence = .mixed ∧
      s.Describes confirmedSnapshot defaultExpectedAnalysts [.priceFlowRelationship, .takerFlow] ∧
      ∀ order' : List FlowAnalystType, order'.Perm [.priceFlowRelationship, .takerFlow] →
        ∃ results, order'.mapM (FlowAnalystType.analyze confirmedSnapshot) = .ok results ∧
          FlowSupervisor.supervise defaultExpectedAnalysts results = .ok s := by
  have horigin : Originated confirmedSnapshot := originated_provenance _ _
  have horder : ([.priceFlowRelationship, .takerFlow] : List FlowAnalystType).Nodup := by
    decide
  obtain ⟨s, hdescribes, hany⟩ := flow_snapshot_supervised horigin (by decide) horder (by decide)
    fun key _ => FlowSupervisor.mem_defaultExpectedAnalysts key
  refine ⟨s, ?_, hdescribes, hany⟩
  have htally : tally (relationshipDimensions.filterMap (speaks confirmedSnapshot)) = .mixed := by
    decide +kernel
  rw [hdescribes.coherence, if_pos (by decide), htally]

end TradingAdvisor
