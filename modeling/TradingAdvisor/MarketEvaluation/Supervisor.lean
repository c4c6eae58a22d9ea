import TradingAdvisor.Core.Strategy
import TradingAdvisor.Flow.Features
import TradingAdvisor.Lib.Keyed
import TradingAdvisor.Lib.VersionedStore

/-!
# Supervision of analyst results

The supervisors of the contours aggregate analyst results that share one identity. The keys of the
results are what tells the analysts of a contour apart.

* `shareIdentity` — the identity and provenance checks;
* `aggregate` — participation, quality and provenance of the results;
* `aggregate_identity` — the aggregate carries the identity of a result;
* `Aggregable`, `aggregate_isOk_iff` — when results can be aggregated;
* `aggregate_partition` — **every expected key is analyzed, abstained or missing**;
* `aggregate_perm` — **the order of the results does not matter**.
-/

namespace TradingAdvisor

open Checks VersionedStore

/-- Whether an analyst produced observations or abstained. -/
inductive AnalystOutcome
  | analyzed
  | abstained
  deriving DecidableEq, Repr

/-- Evidence-availability verdict across the expected analysts. -/
inductive SupervisorOutcome
  | analyzed
  | partialEvidence
  | insufficientEvidence
  deriving DecidableEq, Repr

/-- Structured interpretation by one analyst. -/
structure AnalystResult (κ ι : Type) where
  key : κ
  identity : ι
  status : AnalystOutcome
  quality : FeatureQuality
  provenance : List (String × String) := []

/-- Why the results cannot be aggregated. -/
inductive SupervisorInputError (κ : Type)
  | emptyResults
  | duplicateResult (key : κ)
  | unexpectedAnalyst (key : κ)
  | unexpectedTimeframe (key : κ)
  | inconsistentSnapshot (key : κ)
  | conflictingProvenance (label : String)
  deriving DecidableEq

/-- Deterministic aggregation of the results. -/
structure SupervisorResult (κ ι : Type) where
  identity : ι
  outcome : SupervisorOutcome
  analyzed : List κ
  abstained : List κ
  missing : List κ
  overallQuality : FeatureQuality
  analystResults : List (AnalystResult κ ι)
  provenance : Dict String String

/-- The most severe of some verdicts. -/
def worseOfMany (qualities : List FeatureQuality) : FeatureQuality :=
  qualities.foldl worseOf .valid

variable {κ ι : Type} [DecidableEq κ] [DecidableEq ι]

/-- Add one label; a label keeps its value. -/
def mergeLabel (provenance : Dict String String) (entry : String × String) :
    Except (SupervisorInputError κ) (Dict String String) :=
  match provenance.lookup entry.1 with
  | some value =>
      if value = entry.2 then .ok provenance else .error (.conflictingProvenance entry.1)
  | none => .ok (provenance.insert entry.1 entry.2)

/-- The results share the identity of the anchor, and their labels agree. -/
def shareIdentity (anchor : ι) :
    Dict String String → List (AnalystResult κ ι) →
      Except (SupervisorInputError κ) (Dict String String)
  | provenance, [] => .ok provenance
  | provenance, result :: rest => do
      check (result.identity = anchor) (.inconsistentSnapshot result.key)
      let provenance ← result.provenance.foldlM mergeLabel provenance
      shareIdentity anchor provenance rest

/-- Every key comes once, and is expected. -/
def checkKeys (unexpected : κ → Option (SupervisorInputError κ)) :
    List κ → List (AnalystResult κ ι) → Except (SupervisorInputError κ) Unit
  | _, [] => .ok ()
  | seen, result :: rest => do
      check (result.key ∉ seen) (.duplicateResult result.key)
      match unexpected result.key with
      | some error => .error error
      | none => checkKeys unexpected (result.key :: seen) rest

/-- The results in the order of the expected keys. -/
def inOrder (expected : List κ) (results : List (AnalystResult κ ι)) :
    List (AnalystResult κ ι) :=
  expected.filterMap fun key => results.find? fun result => result.key = key

/-- Aggregate the results; the first of the checked ones is the anchor of the identity. -/
def aggregate (expected : List κ) (unexpected : κ → Option (SupervisorInputError κ))
    (results checked : List (AnalystResult κ ι)) :
    Except (SupervisorInputError κ) (SupervisorResult κ ι) := do
  check (results ≠ []) .emptyResults
  checkKeys unexpected [] results
  match checked with
  | [] => .error .emptyResults
  | anchor :: _ =>
      let provenance ← shareIdentity anchor.identity ∅ checked
      let analystResults := inOrder expected results
      let analyzedResults := analystResults.filter fun result => result.status = .analyzed
      let abstainedResults := analystResults.filter fun result => result.status = .abstained
      return {
        identity := anchor.identity
        outcome :=
          if analyzedResults = [] then .insufficientEvidence
          else if analyzedResults.length = expected.length then .analyzed else .partialEvidence
        analyzed := analyzedResults.map AnalystResult.key
        abstained := abstainedResults.map AnalystResult.key
        missing := expected.filter fun key => key ∉ results.map AnalystResult.key
        overallQuality :=
          if analyzedResults = [] then .unavailable
          else worseOfMany (analyzedResults.map AnalystResult.quality)
        analystResults, provenance }

variable {expected : List κ} {unexpected : κ → Option (SupervisorInputError κ)}
  {results checked : List (AnalystResult κ ι)} {s : SupervisorResult κ ι}

omit [DecidableEq ι] in
theorem mem_of_mem_inOrder {result : AnalystResult κ ι} (h : result ∈ inOrder expected results) :
    result ∈ results := by
  obtain ⟨key, -, hfind⟩ := List.mem_filterMap.mp h
  exact List.mem_of_find?_eq_some hfind

/-- **The aggregate carries the identity of one of the checked results.** -/
theorem aggregate_identity (h : aggregate expected unexpected results checked = .ok s) :
    ∃ result ∈ checked, s.identity = result.identity := by
  obtain ⟨-, h⟩ := check_bind_ok.mp h
  obtain ⟨-, h⟩ := unit_bind_ok_iff.mp h
  cases checked with
  | nil => cases h
  | cons anchor rest =>
      obtain ⟨provenance, -, h⟩ := bind_ok_iff.mp h
      cases h
      exact ⟨anchor, List.mem_cons_self, rfl⟩

/-! ## The order of the results -/

section Labels

variable {entry : String × String} {entries : List (String × String)}
  {provenance merged : Dict String String} {label value : String}

omit [DecidableEq κ] in
theorem mergeLabel_isOk_iff : (∃ merged, @mergeLabel κ provenance entry = .ok merged) ↔
    ∀ value, provenance.lookup entry.1 = some value → value = entry.2 := by
  unfold mergeLabel
  cases provenance.lookup entry.1 with
  | none => simp
  | some value => by_cases h : value = entry.2 <;> simp [h]

omit [DecidableEq κ] in
theorem mergeLabel_ok (h : @mergeLabel κ provenance entry = .ok merged) :
    merged.lookup label = some value ↔
      provenance.lookup label = some value ∨ (label, value) = entry := by
  unfold mergeLabel at h
  cases hlookup : provenance.lookup entry.1 with
  | none =>
      rw [hlookup] at h
      cases h
      by_cases hlabel : label = entry.1
      · subst hlabel
        rw [AList.lookup_insert, hlookup, Prod.ext_iff]
        simp [eq_comm]
      · simp [AList.lookup_insert_ne hlabel, Prod.ext_iff, hlabel]
  | some found =>
      rw [hlookup] at h
      dsimp only at h
      split_ifs at h with heq
      cases h
      refine ⟨.inl, fun hmem => hmem.elim id ?_⟩
      rintro rfl
      rw [hlookup, heq]

omit [DecidableEq κ] in
theorem mergeLabels_ok (h : entries.foldlM (@mergeLabel κ) provenance = .ok merged) :
    merged.lookup label = some value ↔
      provenance.lookup label = some value ∨ (label, value) ∈ entries := by
  induction entries generalizing provenance with
  | nil =>
      cases h
      simp
  | cons entry entries ih =>
      obtain ⟨next, hnext, h⟩ := bind_ok_iff.mp h
      rw [ih h, mergeLabel_ok hnext, List.mem_cons, or_assoc]

omit [DecidableEq κ] in
/-- Labels merge when no label comes with two values. -/
theorem mergeLabels_isOk_iff :
    (∃ merged, entries.foldlM (@mergeLabel κ) provenance = .ok merged) ↔
      (∀ entry ∈ entries, ∀ value, provenance.lookup entry.1 = some value → value = entry.2) ∧
        ∀ entry ∈ entries, ∀ entry' ∈ entries, entry.1 = entry'.1 → entry.2 = entry'.2 := by
  induction entries generalizing provenance with
  | nil => simpa using ⟨_, rfl⟩
  | cons entry entries ih =>
      rw [List.forall_mem_cons]
      constructor
      · rintro ⟨merged, h⟩
        obtain ⟨next, hnext, h⟩ := bind_ok_iff.mp h
        obtain ⟨hkeep, hagree⟩ := ih.mp ⟨merged, h⟩
        have hfirst (later) (hlater : later ∈ entries) (hlabel : entry.1 = later.1) :
            entry.2 = later.2 :=
          hkeep later hlater _ ((mergeLabel_ok hnext).mpr (.inr (Prod.ext hlabel.symm rfl)))
        refine ⟨⟨mergeLabel_isOk_iff.mp ⟨next, hnext⟩, fun later hlater value hvalue =>
          hkeep later hlater value ((mergeLabel_ok hnext).mpr (.inl hvalue))⟩, ?_⟩
        intro e he e' he' hlabel
        rcases List.mem_cons.mp he with rfl | hmem <;>
          rcases List.mem_cons.mp he' with rfl | hmem'
        · rfl
        · exact hfirst e' hmem' hlabel
        · exact (hfirst e hmem hlabel.symm).symm
        · exact hagree e hmem e' hmem' hlabel
      · rintro ⟨⟨hentry, hkeep⟩, hagree⟩
        have hadded : ∃ next, @mergeLabel κ provenance entry = .ok next :=
          mergeLabel_isOk_iff.mpr hentry
        obtain ⟨next, hnext⟩ := hadded
        have hnextKeep : ∀ later ∈ entries, ∀ value, next.lookup later.1 = some value →
            value = later.2 := by
          intro later hlater value hvalue
          rcases (mergeLabel_ok hnext).mp hvalue with hvalue | heq
          · exact hkeep later hlater value hvalue
          · obtain ⟨hlabel, rfl⟩ := Prod.ext_iff.mp heq
            exact hagree entry List.mem_cons_self later (List.mem_cons_of_mem _ hlater)
              hlabel.symm
        obtain ⟨merged, hmerged⟩ := ih.mpr ⟨hnextKeep, fun e he e' he' =>
          hagree e (List.mem_cons_of_mem _ he) e' (List.mem_cons_of_mem _ he')⟩
        exact ⟨merged, bind_ok_iff.mpr ⟨next, hnext, hmerged⟩⟩

end Labels

omit [DecidableEq κ] in
/-- The identities are compared and the labels of all results are merged in their order. -/
theorem shareIdentity_ok_iff {anchor : ι} {provenance merged : Dict String String} :
    shareIdentity anchor provenance results = .ok merged ↔
      (∀ result ∈ results, result.identity = anchor) ∧
        (results.flatMap AnalystResult.provenance).foldlM (@mergeLabel κ) provenance =
          .ok merged := by
  induction results generalizing provenance with
  | nil => simp [shareIdentity, pure, Except.pure]
  | cons result rest ih =>
      rw [shareIdentity, check_bind_ok, List.forall_mem_cons, List.flatMap_cons,
        List.foldlM_append, bind_ok_iff, bind_ok_iff, and_assoc]
      refine and_congr_right fun _ => ?_
      constructor
      · rintro ⟨next, hnext, h⟩
        exact ⟨(ih.mp h).1, next, hnext, (ih.mp h).2⟩
      · rintro ⟨hrest, next, hnext, h⟩
        exact ⟨next, hnext, ih.mpr ⟨hrest, h⟩⟩

omit [DecidableEq ι] in
theorem checkKeys_ok_iff {seen : List κ} :
    checkKeys unexpected seen results = .ok () ↔
      (∀ result ∈ results, result.key ∉ seen ∧ unexpected result.key = none) ∧
        (results.map AnalystResult.key).Nodup := by
  induction results generalizing seen with
  | nil => simp [checkKeys]
  | cons result rest ih =>
      rw [checkKeys, check_bind_ok, List.forall_mem_cons, List.map_cons, List.nodup_cons]
      cases hunexpected : unexpected result.key with
      | some error => simp
      | none =>
          dsimp only
          rw [ih]
          simp only [List.mem_cons, List.mem_map, not_or, not_exists, not_and]
          constructor
          · rintro ⟨hseen, hrest, hnodup⟩
            exact ⟨⟨⟨hseen, trivial⟩, fun r hr => ⟨(hrest r hr).1.2, (hrest r hr).2⟩⟩,
              fun r hr => (hrest r hr).1.1, hnodup⟩
          · rintro ⟨⟨⟨hseen, -⟩, hrest⟩, hfresh, hnodup⟩
            exact ⟨hseen, fun r hr => ⟨⟨hfresh r hr, (hrest r hr).1⟩, (hrest r hr).2⟩, hnodup⟩

/-- The results can be aggregated: every key is expected and comes once, all share one identity,
and no label comes with two values. -/
structure Aggregable (unexpected : κ → Option (SupervisorInputError κ))
    (results : List (AnalystResult κ ι)) : Prop where
  nonempty : results ≠ []
  expected : ∀ result ∈ results, unexpected result.key = none
  nodup : (results.map AnalystResult.key).Nodup
  identity : ∀ result ∈ results, ∀ result' ∈ results, result.identity = result'.identity
  labels : ∀ entry ∈ results.flatMap AnalystResult.provenance,
    ∀ entry' ∈ results.flatMap AnalystResult.provenance, entry.1 = entry'.1 → entry.2 = entry'.2

omit [DecidableEq κ] [DecidableEq ι] in
theorem Aggregable.perm {results' : List (AnalystResult κ ι)} (h : results.Perm results')
    (ha : Aggregable unexpected results) : Aggregable unexpected results' where
  nonempty := fun hnil => ha.nonempty (h.trans (by rw [hnil])).eq_nil
  expected := fun result hr => ha.expected result (h.mem_iff.mpr hr)
  nodup := (h.map _).nodup_iff.mp ha.nodup
  identity := fun result hr result' hr' =>
    ha.identity result (h.mem_iff.mpr hr) result' (h.mem_iff.mpr hr')
  labels := fun entry he entry' he' =>
    ha.labels entry ((h.flatMap_right _).mem_iff.mpr he) entry' ((h.flatMap_right _).mem_iff.mpr he')

/-- **Results are aggregated when they can be.** -/
theorem aggregate_isOk_iff :
    (∃ s, aggregate expected unexpected results results = .ok s) ↔
      Aggregable unexpected results := by
  constructor
  · rintro ⟨s, h⟩
    obtain ⟨hne, h⟩ := check_bind_ok.mp h
    obtain ⟨hkeys, h⟩ := unit_bind_ok_iff.mp h
    obtain ⟨hexpected, hnodup⟩ := checkKeys_ok_iff.mp hkeys
    cases results with
    | nil => exact absurd rfl hne
    | cons anchor rest =>
        obtain ⟨provenance, hshare, -⟩ := bind_ok_iff.mp h
        obtain ⟨hidentity, hlabels⟩ := shareIdentity_ok_iff.mp hshare
        exact ⟨hne, fun result hr => (hexpected result hr).2, hnodup,
          fun result hr result' hr' => (hidentity result hr).trans (hidentity result' hr').symm,
          (mergeLabels_isOk_iff.mp ⟨provenance, hlabels⟩).2⟩
  · rintro ⟨hne, hexpected, hnodup, hidentity, hlabels⟩
    cases results with
    | nil => exact absurd rfl hne
    | cons anchor rest =>
        have hmerges : ∃ provenance, ((anchor :: rest).flatMap AnalystResult.provenance).foldlM
            (@mergeLabel κ) ∅ = .ok provenance :=
          mergeLabels_isOk_iff.mpr ⟨fun _ _ _ hlookup => absurd hlookup (by simp), hlabels⟩
        obtain ⟨provenance, hmerged⟩ := hmerges
        refine ⟨_, check_bind_ok.mpr ⟨hne, unit_bind_ok_iff.mpr ⟨checkKeys_ok_iff.mpr
          ⟨fun result hr => ⟨List.not_mem_nil, hexpected result hr⟩, hnodup⟩,
          bind_ok_iff.mpr ⟨provenance, shareIdentity_ok_iff.mpr ⟨fun result hr =>
            hidentity result hr anchor List.mem_cons_self, hmerged⟩, rfl⟩⟩⟩⟩

/-- What an aggregation computes. -/
theorem aggregate_ok (h : aggregate expected unexpected results results = .ok s) :
    (∀ result ∈ results, result.identity = s.identity) ∧
      s.analystResults = inOrder expected results ∧
      s.analyzed = ((inOrder expected results).filter fun result => result.status = .analyzed).map
        AnalystResult.key ∧
      s.abstained = ((inOrder expected results).filter fun result =>
        result.status = .abstained).map AnalystResult.key ∧
      s.missing = (expected.filter fun key => key ∉ results.map AnalystResult.key) := by
  obtain ⟨-, h⟩ := check_bind_ok.mp h
  obtain ⟨-, h⟩ := unit_bind_ok_iff.mp h
  cases results with
  | nil => cases h
  | cons anchor rest =>
      obtain ⟨provenance, hshare, h⟩ := bind_ok_iff.mp h
      cases h
      exact ⟨(shareIdentity_ok_iff.mp hshare).1, rfl, rfl, rfl, rfl⟩

omit [DecidableEq ι] in
theorem mem_inOrder_iff (hnodup : (results.map AnalystResult.key).Nodup)
    {result : AnalystResult κ ι} :
    result ∈ inOrder expected results ↔ result ∈ results ∧ result.key ∈ expected :=
  Keyed.mem_filterMap_find? hnodup

omit [DecidableEq ι] in
theorem inOrder_keys_sublist :
    ((inOrder expected results).map AnalystResult.key).Sublist expected :=
  Keyed.filterMap_find?_keys_sublist AnalystResult.key results expected

/-- **Every expected key is analyzed, abstained or missing, and is only one of them.** -/
theorem aggregate_partition (hexpected : expected.Nodup)
    (h : aggregate expected unexpected results results = .ok s) :
    (s.analyzed ++ s.abstained ++ s.missing).Nodup ∧
      ∀ key, key ∈ s.analyzed ++ s.abstained ++ s.missing ↔ key ∈ expected := by
  have hnodup := (aggregate_isOk_iff.mp ⟨s, h⟩).nodup
  obtain ⟨-, -, hanalyzed, habstained, hmissing⟩ := aggregate_ok h
  have hkeys : ((inOrder expected results).map AnalystResult.key).Nodup :=
    hexpected.sublist inOrder_keys_sublist
  have hin (key : κ) (status : AnalystOutcome) :
      key ∈ ((inOrder expected results).filter fun result => result.status = status).map
        AnalystResult.key ↔ ∃ result ∈ results, result.key = key ∧ key ∈ expected ∧
          result.status = status := by
    simp only [List.mem_map, List.mem_filter, mem_inOrder_iff hnodup, decide_eq_true_eq]
    constructor
    · rintro ⟨result, ⟨⟨hmem, hkey⟩, hstatus⟩, rfl⟩
      exact ⟨result, hmem, rfl, hkey, hstatus⟩
    · rintro ⟨result, hmem, rfl, hkey, hstatus⟩
      exact ⟨result, ⟨⟨hmem, hkey⟩, hstatus⟩, rfl⟩
  have hsub (status : AnalystOutcome) : (((inOrder expected results).filter fun result =>
      result.status = status).map AnalystResult.key).Nodup :=
    hkeys.sublist (List.filter_sublist.map _)
  rw [hanalyzed, habstained, hmissing]
  constructor
  · refine List.nodup_append'.mpr ⟨List.nodup_append'.mpr ⟨hsub _, hsub _, ?_⟩,
      hexpected.filter _, ?_⟩
    · intro key ha hb
      obtain ⟨result, hmem, hkey, -, hstatus⟩ := (hin key _).mp ha
      obtain ⟨result', hmem', hkey', -, hstatus'⟩ := (hin key _).mp hb
      obtain rfl := List.inj_on_of_nodup_map hnodup hmem hmem' (hkey.trans hkey'.symm)
      exact absurd (hstatus.symm.trans hstatus') (by decide)
    · intro key ha hb
      have hnone : key ∉ results.map AnalystResult.key := by
        simpa using (List.mem_filter.mp hb).2
      rcases List.mem_append.mp ha with ha | ha <;>
      · obtain ⟨result, hmem, rfl, -⟩ := (hin key _).mp ha
        exact hnone (List.mem_map_of_mem hmem)
  · intro key
    rw [List.mem_append, List.mem_append, hin, hin, List.mem_filter]
    constructor
    · rintro ((⟨_, -, -, hkey, -⟩ | ⟨_, -, -, hkey, -⟩) | ⟨hkey, -⟩) <;> exact hkey
    · intro hkey
      by_cases hsome : key ∈ results.map AnalystResult.key
      · obtain ⟨result, hmem, hresult⟩ := List.mem_map.mp hsome
        cases hstatus : result.status with
        | analyzed => exact .inl (.inl ⟨result, hmem, hresult, hkey, hstatus⟩)
        | abstained => exact .inl (.inr ⟨result, hmem, hresult, hkey, hstatus⟩)
      · exact .inr ⟨hkey, by simpa using hsome⟩

/-- The two results are equal, their labels being compared as those of dictionaries. -/
structure SupervisorResult.Same (s s' : SupervisorResult κ ι) : Prop where
  fields : { s with provenance := ∅ } = { s' with provenance := ∅ }
  provenance : ∀ label, s.provenance.lookup label = s'.provenance.lookup label

omit [DecidableEq ι] in
theorem inOrder_perm {results' : List (AnalystResult κ ι)}
    (hnodup : (results.map AnalystResult.key).Nodup) (h : results.Perm results') :
    inOrder expected results = inOrder expected results' :=
  List.filterMap_congr fun _ _ => Keyed.find?_key_eq_of_perm hnodup h

/-- **The order of the results does not matter.** -/
theorem aggregate_perm {results' : List (AnalystResult κ ι)} {s' : SupervisorResult κ ι}
    (hperm : results.Perm results')
    (h : aggregate expected unexpected results results = .ok s)
    (h' : aggregate expected unexpected results' results' = .ok s') : s.Same s' := by
  have hwell := aggregate_isOk_iff.mp ⟨s, h⟩
  obtain ⟨-, h⟩ := check_bind_ok.mp h
  obtain ⟨-, h⟩ := unit_bind_ok_iff.mp h
  obtain ⟨-, h'⟩ := check_bind_ok.mp h'
  obtain ⟨-, h'⟩ := unit_bind_ok_iff.mp h'
  cases results with
  | nil => cases h
  | cons anchor rest =>
      cases results' with
      | nil => cases h'
      | cons anchor' rest' =>
          obtain ⟨provenance, hshare, h⟩ := bind_ok_iff.mp h
          obtain ⟨provenance', hshare', h'⟩ := bind_ok_iff.mp h'
          cases h
          cases h'
          have hanchor : anchor.identity = anchor'.identity := hwell.identity _
            List.mem_cons_self _ (hperm.mem_iff.mpr List.mem_cons_self)
          have hin : inOrder expected (anchor :: rest) = inOrder expected (anchor' :: rest') :=
            inOrder_perm hwell.nodup hperm
          have hkeys := fun key => (hperm.map AnalystResult.key).mem_iff (a := key)
          constructor
          · simp only [hin, hanchor, hkeys]
          · intro label
            refine Option.ext fun value => ?_
            rw [mergeLabels_ok (shareIdentity_ok_iff.mp hshare).2,
              mergeLabels_ok (shareIdentity_ok_iff.mp hshare').2,
              (hperm.flatMap_right _).mem_iff]

end TradingAdvisor
