import Mathlib.Data.List.Find
import TradingAdvisor.Judge.Judge
import TradingAdvisor.Technical.Analysts

/-!
# Does the judge accept its own verdicts?

The validators ask a mixed verdict for two references. Technical conflicts always cite two
observations. Of a conflict between sentiment providers the judge cites only the providers that
are positive or negative, while the analyst counts a zero sign as a side of the conflict.

* `Acceptable` — the validators accept the verdict;
* `judgeTrendFollowing_acceptable`, `judgeBreakout_acceptable` — the technical families;
* `LoneAgainstZero` — one provider has a direction and another one is at zero;
* `judge_ok_iff` — **the judge rejects its own verdict exactly when the first conflict of
  providers it reads is one direction against zeros**.
-/

namespace TradingAdvisor

open Checks JudgeFamilyResult

variable {r : RoutedEvaluation} {technical : TechnicalSupervision} {verdict : JudgeVerdict}
  {refs : List JudgeEvidenceRef} {ref : JudgeEvidenceRef}

/-! ## Acceptable verdicts -/

/-- The reference points at an observation of the evaluation. -/
def InBounds (r : RoutedEvaluation) (ref : JudgeEvidenceRef) : Prop :=
  ∃ counts, r.observationCounts ref.contour = some counts ∧
    ∃ count, counts[ref.analystResultIndex]? = some count ∧ ref.observationIndex < count

theorem validateRef_ok_iff {family : StrategyFamily} :
    validateRef r family ref = .ok () ↔ InBounds r ref := by
  unfold validateRef InBounds
  cases hcounts : r.observationCounts ref.contour with
  | none => simp
  | some counts =>
      simp only [Option.some.injEq, exists_eq_left']
      cases hcount : counts[ref.analystResultIndex]? with
      | none => simp
      | some count => simp

/-- The references of the verdict are canonical and point at observations. -/
structure Cited (r : RoutedEvaluation) (verdict : JudgeVerdict) : Prop where
  canonical : ∃ refs, verdict.evidenceRefs = canonicalize refs
  inBounds : ∀ ref ∈ verdict.evidenceRefs, InBounds r ref

/-- The validators accept the verdict. -/
structure Acceptable (r : RoutedEvaluation) (verdict : JudgeVerdict) : Prop where
  cited : Cited r verdict
  grounded : Grounded verdict

theorem insufficient_acceptable : Acceptable r insufficientVerdict where
  cited := ⟨⟨[], rfl⟩, fun _ h => absurd h List.not_mem_nil⟩
  grounded := ⟨by simp [insufficientVerdict], fun _ => rfl, fun h => (by cases h),
    fun h => (by cases h)⟩

theorem mixed_cited (hrefs : ∀ ref ∈ refs, InBounds r ref) : Cited r (mixedVerdict refs) :=
  ⟨⟨refs, rfl⟩, fun ref h => hrefs ref (mem_canonicalize.mp h)⟩

theorem mixed_grounded_iff :
    Grounded (mixedVerdict refs) ↔ 2 ≤ (canonicalize refs).length :=
  ⟨fun h => h.mixed rfl, fun h => ⟨by simp [mixedVerdict], fun h => (by cases h),
    fun h => (by cases h), fun _ => h⟩⟩

theorem mixed_acceptable (hrefs : ∀ ref ∈ refs, InBounds r ref)
    (htwo : ∃ a ∈ refs, ∃ b ∈ refs, a ≠ b) : Acceptable r (mixedVerdict refs) := by
  obtain ⟨a, ha, b, hb, hab⟩ := htwo
  exact ⟨mixed_cited hrefs, mixed_grounded_iff.mpr (two_le_canonicalize ha hb hab)⟩

theorem directional_acceptable {direction : DirectionalCandidate}
    (hrefs : ∀ ref ∈ refs, InBounds r ref) (hprimary : ∃ ref ∈ refs, ref.role = .primary) :
    Acceptable r (directionalVerdict direction refs) := by
  obtain ⟨ref, href, hrole⟩ := hprimary
  refine ⟨⟨⟨refs, rfl⟩, fun ref h => hrefs ref (mem_canonicalize.mp h)⟩, ?_⟩
  exact ⟨by simp [directionalVerdict], fun h => (by cases h),
    fun _ => ⟨ref, mem_canonicalize.mpr href, hrole⟩, fun h => (by cases h)⟩

/-! ## Technical evidence -/

/-- The technical part is what the supervisor made of its results. -/
def Supervised (technical : TechnicalSupervision) : Prop :=
  technical.coherence = buildCoherence technical.analystResults

/-- The reference points at a technical observation of this dimension, in this role. -/
structure PointsAt (technical : TechnicalSupervision) (dimension : TechnicalAnalysisDimension)
    (role : EvidenceRole) (ref : JudgeEvidenceRef) : Prop where
  contour : ref.contour = .technical
  role_eq : ref.role = role
  observed : ∃ observation, observationAt technical.analystResults
    (ref.analystResultIndex, ref.observationIndex) = some observation ∧
      observation.dimension = dimension

theorem PointsAt.inBounds {dimension : TechnicalAnalysisDimension} {role : EvidenceRole}
    (h : PointsAt technical dimension role ref) (hr : r.technical = some technical) :
    InBounds r ref := by
  obtain ⟨observation, hobs, -⟩ := h.observed
  obtain ⟨result, hresult, hobs⟩ := Option.bind_eq_some_iff.mp hobs
  refine ⟨technical.analystResults.map fun result => result.observations.length, ?_,
    result.observations.length, ?_, (List.getElem?_eq_some_iff.mp hobs).1⟩
  · rw [h.contour, RoutedEvaluation.observationCounts, hr]
    rfl
  · rw [List.getElem?_map, hresult]
    rfl

theorem PointsAt.ne {d d' : TechnicalAnalysisDimension} {role role' : EvidenceRole}
    {a b : JudgeEvidenceRef} (ha : PointsAt technical d role a)
    (hb : PointsAt technical d' role' b) (hne : d ≠ d') : a ≠ b := by
  rintro rfl
  obtain ⟨o, ho, hd⟩ := ha.observed
  obtain ⟨o', ho', hd'⟩ := hb.observed
  rw [ho] at ho'
  cases ho'
  exact hne (hd.symm.trans hd')

/-- What the resolution of a dimension cites: two references for a conflict, one at least for a
direction. -/
structure Resolves (technical : TechnicalSupervision) (dimension : TechnicalAnalysisDimension)
    (role : EvidenceRole) (resolved : Resolved) : Prop where
  points : ∀ ref ∈ resolved.refs, PointsAt technical dimension role ref
  conflict : resolved.conflict = true → ∃ a ∈ resolved.refs, ∃ b ∈ resolved.refs, a ≠ b
  candidate : resolved.candidate.isSome → ∃ ref, ref ∈ resolved.refs

theorem resolves_unresolved {dimension : TechnicalAnalysisDimension} {role : EvidenceRole} :
    Resolves technical dimension role unresolved :=
  ⟨fun _ h => absurd h List.not_mem_nil, fun h => (by cases h), fun h => (by cases h)⟩

theorem exists_two_of_nodup {α : Type} {l : List α} (hnodup : l.Nodup) (hlen : 2 ≤ l.length) :
    ∃ a ∈ l, ∃ b ∈ l, a ≠ b := by
  match l, hlen with
  | a :: b :: l, _ =>
      exact ⟨a, List.mem_cons_self, b, List.mem_cons_of_mem _ List.mem_cons_self,
        fun h => (List.nodup_cons.mp hnodup).1 (h ▸ List.mem_cons_self)⟩

theorem resolveCoherenceEntry_resolves {entry : TechnicalCoherenceResult}
    (hcites : Cites technical.analystResults entry) (mapping : DirectionMap) (role : EvidenceRole) :
    ∃ resolved, resolveCoherenceEntry technical mapping role entry = .ok resolved ∧
      Resolves technical entry.dimension role resolved := by
  have hpoints : ∀ ref ∈ technicalRefs role entry.evidenceRefs,
      PointsAt technical entry.dimension role ref := by
    intro ref href
    obtain ⟨pair, hpair, rfl⟩ := List.mem_map.mp href
    exact ⟨rfl, rfl, hcites.observed pair hpair⟩
  unfold resolveCoherenceEntry
  cases hverdict : entry.verdict with
  | mixed =>
      refine ⟨_, rfl, hpoints, fun _ => ?_, fun h => (by cases h)⟩
      refine exists_two_of_nodup (hcites.nodup.map ?_) ?_
      · intro a b hab
        exact Prod.ext (congrArg JudgeEvidenceRef.analystResultIndex hab)
          (congrArg JudgeEvidenceRef.observationIndex hab)
      · show 2 ≤ (technicalRefs role entry.evidenceRefs).length
        rw [technicalRefs, List.length_map]
        exact hcites.two_le (by rw [hverdict]; exact fun h => (by cases h))
  | insufficientData => exact ⟨_, rfl, resolves_unresolved⟩
  | allAgree =>
      have hlen := hcites.two_le (by rw [hverdict]; exact fun h => (by cases h))
      cases hfirst : entry.evidenceRefs with
      | nil =>
          rw [hfirst] at hlen
          exact absurd hlen (by decide)
      | cons first rest =>
          have hmem : first ∈ entry.evidenceRefs := hfirst ▸ List.mem_cons_self
          obtain ⟨observation, hobs, -⟩ := hcites.observed first hmem
          simp only [List.head?_cons, Option.bind_some, hobs]
          cases mapping.lookup observation.value with
          | none => exact ⟨_, rfl, resolves_unresolved⟩
          | some candidate =>
              rw [← hfirst]
              refine ⟨_, rfl, hpoints, fun h => (by cases h), fun _ => ?_⟩
              exact ⟨_, List.mem_map_of_mem hmem⟩

theorem mem_findCoherenceEntries {entry : TechnicalCoherenceResult}
    {dimension : TechnicalAnalysisDimension} (hs : Supervised technical)
    (h : entry ∈ findCoherenceEntries technical dimension) :
    Cites technical.analystResults entry ∧ entry.dimension = dimension := by
  obtain ⟨hmem, hdim⟩ := List.mem_filter.mp h
  exact ⟨cites_of_mem_buildCoherence (hs ▸ hmem), of_decide_eq_true hdim⟩

theorem resolveSingleDimension_resolves (hs : Supervised technical)
    (dimension : TechnicalAnalysisDimension) (mapping : DirectionMap) (role : EvidenceRole) :
    ∃ resolved, resolveSingleDimension technical dimension mapping role = .ok resolved ∧
      Resolves technical dimension role resolved := by
  unfold resolveSingleDimension
  cases hfind : findCoherenceEntries technical dimension with
  | nil => exact ⟨_, rfl, resolves_unresolved⟩
  | cons entry rest =>
      obtain ⟨hcites, hdim⟩ := mem_findCoherenceEntries hs (hfind ▸ List.mem_cons_self)
      rw [← hdim]
      exact resolveCoherenceEntry_resolves hcites mapping role

/-- The corroborators are read without an error, and a veto is a corroborating reference. -/
theorem corroboratingVetoRefs_ok (hs : Supervised technical) (direction : DirectionalCandidate) :
    ∃ refs, corroboratingVetoRefs technical direction = .ok refs ∧
      ∀ ref ∈ refs, ∃ dimension, PointsAt technical dimension .corroborating ref := by
  have hresolve : ∀ member ∈ trendFollowingCorroborators, ∀ entry ∈
      findCoherenceEntries technical member.1, ∃ resolved,
        resolveCoherenceEntry technical member.2 .corroborating entry = .ok resolved ∧
          Resolves technical member.1 .corroborating resolved := by
    intro member _ entry hentry
    obtain ⟨hcites, hdim⟩ := mem_findCoherenceEntries hs hentry
    rw [← hdim]
    exact resolveCoherenceEntry_resolves hcites member.2 .corroborating
  have hvetoes : ∀ member ∈ trendFollowingCorroborators, ∃ refs : List JudgeEvidenceRef,
      ((findCoherenceEntries technical member.1).mapM
        (resolveCoherenceEntry technical member.2 .corroborating) >>= fun resolved =>
          pure (opposing direction resolved)) = .ok refs := by
    intro member hmember
    obtain ⟨resolved, hresolved⟩ := mapM_ok_of_exists
      fun entry hentry => (hresolve member hmember entry hentry).imp fun _ h => h.1
    exact ⟨_, bind_ok_iff.mpr ⟨resolved, hresolved, rfl⟩⟩
  obtain ⟨vetoes, h⟩ := mapM_ok_of_exists hvetoes
  refine ⟨vetoes.flatten, bind_ok_iff.mpr ⟨vetoes, h, rfl⟩, fun ref href => ?_⟩
  obtain ⟨refs, hrefs, href⟩ := List.mem_flatten.mp href
  obtain ⟨member, hmember, hmade⟩ := exists_of_mem_mapM h hrefs
  obtain ⟨resolved, hresolved, hmade⟩ := bind_ok_iff.mp hmade
  cases hmade
  obtain ⟨x, hx, href⟩ := List.mem_flatMap.mp href
  obtain ⟨entry, hentry, hx⟩ := exists_of_mem_mapM hresolved (List.mem_of_mem_filter hx)
  obtain ⟨x', hx', hresolves⟩ := hresolve member hmember entry hentry
  cases hx.symm.trans hx'
  exact ⟨member.1, hresolves.points ref href⟩

/-! ## Resolutions with a direction -/

variable {resolved : List Resolved} {direction : DirectionalCandidate}
  {rest : List DirectionalCandidate}

theorem mem_directedRefs {ref : JudgeEvidenceRef} : ref ∈ directedRefs resolved ↔
    ∃ x ∈ resolved, x.candidate.isSome ∧ ref ∈ x.refs := by
  simp [directedRefs, and_assoc]

theorem mem_directions {candidate : DirectionalCandidate} : candidate ∈ directions resolved ↔
    ∃ x ∈ resolved, x.candidate = some candidate := by
  simp only [directions, List.mem_filterMap, List.mem_filter]
  constructor
  · rintro ⟨x, ⟨hx, -⟩, hc⟩
    exact ⟨x, hx, hc⟩
  · rintro ⟨x, hx, hc⟩
    exact ⟨x, ⟨hx, by rw [hc]; rfl⟩, hc⟩

theorem exists_mem_directedRefs
    (hsome : ∀ x ∈ resolved, x.candidate.isSome → ∃ ref, ref ∈ x.refs)
    (h : directions resolved = direction :: rest) : ∃ ref, ref ∈ directedRefs resolved := by
  obtain ⟨x, hx, hc⟩ := mem_directions.mp (h ▸ List.mem_cons_self)
  have hisSome : x.candidate.isSome := by rw [hc]; rfl
  obtain ⟨ref, href⟩ := hsome x hx hisSome
  exact ⟨ref, mem_directedRefs.mpr ⟨x, hx, hisSome, href⟩⟩

/-- Different directions come from different resolutions, which cite different observations. -/
theorem exists_two_directedRefs
    (hsome : ∀ x ∈ resolved, x.candidate.isSome → ∃ ref, ref ∈ x.refs)
    (hapart : resolved.Pairwise fun x y => ∀ a ∈ x.refs, ∀ b ∈ y.refs, a ≠ b)
    (h : directions resolved = direction :: rest) (hother : ∃ other ∈ rest, other ≠ direction) :
    ∃ a ∈ directedRefs resolved, ∃ b ∈ directedRefs resolved, a ≠ b := by
  obtain ⟨other, hmem, hne⟩ := hother
  obtain ⟨x, hx, hxc⟩ := mem_directions.mp (h ▸ List.mem_cons_self)
  obtain ⟨y, hy, hyc⟩ := mem_directions.mp (h ▸ List.mem_cons_of_mem _ hmem)
  have hxy : x ≠ y := by
    rintro rfl
    exact hne (Option.some.inj (hyc.symm.trans hxc))
  have hsymm : Std.Symm fun x y : Resolved => ∀ a ∈ x.refs, ∀ b ∈ y.refs, a ≠ b :=
    ⟨fun _ _ hab a ha b hb => (hab b hb a ha).symm⟩
  have hxs : x.candidate.isSome := by rw [hxc]; rfl
  have hys : y.candidate.isSome := by rw [hyc]; rfl
  obtain ⟨a, ha⟩ := hsome x hx hxs
  obtain ⟨b, hb⟩ := hsome y hy hys
  exact ⟨a, mem_directedRefs.mpr ⟨x, hx, hxs, ha⟩, b, mem_directedRefs.mpr ⟨y, hy, hys, hb⟩,
    hapart.forall hx hy hxy a ha b hb⟩

/-! ## The technical families -/

theorem Resolves.mixed_acceptable {dimension : TechnicalAnalysisDimension} {role : EvidenceRole}
    {x : Resolved} (hx : Resolves technical dimension role x) (hr : r.technical = some technical)
    (hconflict : x.conflict = true) : Acceptable r (mixedVerdict x.refs) :=
  TradingAdvisor.mixed_acceptable (fun ref href => (hx.points ref href).inBounds hr)
    (hx.conflict hconflict)

/-- Primary dimensions that cite different observations are judged acceptably. -/
theorem judgePrimaries_acceptable (hs : Supervised technical) (hr : r.technical = some technical)
    (hprimary : ∀ x ∈ resolved, ∃ dimension, Resolves technical dimension .primary x)
    (hapart : resolved.Pairwise fun x y => ∀ a ∈ x.refs, ∀ b ∈ y.refs, a ≠ b) :
    ∃ verdict, judgePrimaries technical resolved = .ok verdict ∧ Acceptable r verdict := by
  have hrefs : ∀ ref ∈ directedRefs resolved, InBounds r ref ∧ ref.role = .primary := by
    intro ref href
    obtain ⟨x, hx, -, href⟩ := mem_directedRefs.mp href
    obtain ⟨dimension, hres⟩ := hprimary x hx
    exact ⟨(hres.points ref href).inBounds hr, (hres.points ref href).role_eq⟩
  have hsome : ∀ x ∈ resolved, x.candidate.isSome → ∃ ref, ref ∈ x.refs := by
    intro x hx hc
    obtain ⟨dimension, hres⟩ := hprimary x hx
    exact hres.candidate hc
  unfold judgePrimaries
  cases hdir : directions resolved with
  | nil => exact ⟨_, rfl, insufficient_acceptable⟩
  | cons direction rest =>
      dsimp only
      by_cases hother : ∃ other ∈ rest, other ≠ direction
      · rw [if_pos hother]
        exact ⟨_, rfl, mixed_acceptable (fun ref href => (hrefs ref href).1)
          (exists_two_directedRefs hsome hapart hdir hother)⟩
      · obtain ⟨primary, hmem⟩ := exists_mem_directedRefs hsome hdir
        obtain ⟨vetoRefs, hvetoes, hveto⟩ := corroboratingVetoRefs_ok hs direction
        rw [if_neg hother, hvetoes]
        by_cases hempty : vetoRefs = []
        · refine ⟨_, if_neg (not_not.mpr hempty), ?_⟩
          exact directional_acceptable (fun ref href => (hrefs ref href).1)
            ⟨primary, hmem, (hrefs primary hmem).2⟩
        · refine ⟨_, if_pos hempty, mixed_acceptable (fun ref href => ?_) ?_⟩
          · rcases List.mem_append.mp href with href | href
            · exact (hrefs ref href).1
            · obtain ⟨dimension, hpoint⟩ := hveto ref href
              exact hpoint.inBounds hr
          · -- a veto corroborates, so it is not one of the primary references
            obtain ⟨veto, hvetoMem⟩ := List.exists_mem_of_ne_nil vetoRefs hempty
            obtain ⟨dimension, hpoint⟩ := hveto veto hvetoMem
            refine ⟨primary, List.mem_append_left _ hmem, veto,
              List.mem_append_right _ hvetoMem, fun heq => ?_⟩
            have hrole := (hrefs primary hmem).2
            rw [heq, hpoint.role_eq] at hrole
            cases hrole

theorem judgeTrendFollowing_acceptable (hs : Supervised technical)
    (hr : r.technical = some technical) :
    ∃ verdict, judgeTrendFollowing (some technical) = .ok verdict ∧ Acceptable r verdict := by
  obtain ⟨returned, hreturned, hret⟩ :=
    resolveSingleDimension_resolves hs .returnDirection trendDirectionMap .primary
  obtain ⟨slope, hslope, hslo⟩ :=
    resolveSingleDimension_resolves hs .slopeDirection trendDirectionMap .primary
  unfold judgeTrendFollowing
  simp only [hreturned, hslope, bind, Except.bind]
  by_cases hc : returned.conflict
  · rw [if_pos hc]
    exact ⟨_, rfl, hret.mixed_acceptable hr hc⟩
  rw [if_neg hc]
  by_cases hc' : slope.conflict
  · rw [if_pos hc']
    exact ⟨_, rfl, hslo.mixed_acceptable hr hc'⟩
  rw [if_neg hc']
  refine judgePrimaries_acceptable hs hr (fun x hx => ?_) (List.pairwise_pair.mpr ?_)
  · rcases List.mem_pair.mp hx with rfl | rfl
    · exact ⟨_, hret⟩
    · exact ⟨_, hslo⟩
  · exact fun a ha b hb => (hret.points a ha).ne (hslo.points b hb) (fun h => (by cases h))

/-- A confirmed break is an observation of the presence of breaks. -/
theorem structuralBreakConfirmedRefs_points (h : ref ∈ structuralBreakConfirmedRefs technical) :
    PointsAt technical .structuralBreakPresence .primary ref := by
  obtain ⟨⟨result, resultIndex⟩, hresult, h⟩ := List.mem_flatMap.mp h
  dsimp only at h
  split at h
  · obtain ⟨⟨observation, observationIndex⟩, hobs, rfl⟩ := List.mem_map.mp h
    obtain ⟨hobs, hconfirmed⟩ := List.mem_filter.mp hobs
    refine ⟨rfl, rfl, observation, ?_, (of_decide_eq_true hconfirmed).1⟩
    rw [observationAt, List.mem_zipIdx_iff_getElem?.mp hresult]
    exact List.mem_zipIdx_iff_getElem?.mp hobs
  · cases h

theorem judgeBreakout_acceptable (hs : Supervised technical) (hr : r.technical = some technical) :
    ∃ verdict, judgeBreakout (some technical) = .ok verdict ∧ Acceptable r verdict := by
  obtain ⟨latest, hlatest, hlat⟩ :=
    resolveSingleDimension_resolves hs .latestBreakDirection breakDirectionMap .primary
  obtain ⟨returned, hreturned, hret⟩ :=
    resolveSingleDimension_resolves hs .returnDirection trendDirectionMap .corroborating
  unfold judgeBreakout
  simp only [hlatest, hreturned, bind, Except.bind]
  by_cases hc : latest.conflict
  · rw [if_pos hc]
    exact ⟨_, rfl, hlat.mixed_acceptable hr hc⟩
  rw [if_neg hc]
  cases hcand : latest.candidate with
  | none => exact ⟨_, rfl, insufficient_acceptable⟩
  | some direction =>
      dsimp only
      by_cases hempty : structuralBreakConfirmedRefs technical = []
      · rw [if_pos hempty]
        exact ⟨_, rfl, insufficient_acceptable⟩
      rw [if_neg hempty]
      obtain ⟨primary, hprimary⟩ := List.exists_mem_of_ne_nil _ hempty
      have hpoint := structuralBreakConfirmedRefs_points hprimary
      have hrefs : ∀ ref ∈ structuralBreakConfirmedRefs technical ++ latest.refs,
          InBounds r ref := by
        intro ref href
        rcases List.mem_append.mp href with href | href
        · exact (structuralBreakConfirmedRefs_points href).inBounds hr
        · exact (hlat.points ref href).inBounds hr
      split
      · rename_i hopposite
        obtain ⟨veto, hveto⟩ := hret.candidate hopposite.1
        refine ⟨_, rfl, mixed_acceptable (fun ref href => ?_) ⟨primary, ?_, veto, ?_, ?_⟩⟩
        · rcases List.mem_append.mp href with href | href
          · exact hrefs ref href
          · exact (hret.points ref href).inBounds hr
        · exact List.mem_append_left _ (List.mem_append_left _ hprimary)
        · exact List.mem_append_right _ hveto
        · exact hpoint.ne (hret.points veto hveto) (fun h => (by cases h))
      · exact ⟨_, rfl, directional_acceptable hrefs
          ⟨primary, List.mem_append_left _ hprimary, hpoint.role_eq⟩⟩

/-! ## News evidence -/

variable {signs : List String} {external : ExternalEvidence} {resultIndex : ℕ}
  {result : ExternalIntelligenceAnalysisResult}

/-- The value of a provider sign with a direction. -/
def Directional (value : String) : Prop := value = "POSITIVE" ∨ value = "NEGATIVE"

instance (value : String) : Decidable (Directional value) := inferInstanceAs (Decidable (_ ∨ _))

/-- Two providers have different signs, neither of them mixed in itself. -/
def SignsConflict (signs : List String) : Prop :=
  ∃ a ∈ signs, ∃ b ∈ signs, a ≠ b ∧ a ≠ "MIXED" ∧ b ≠ "MIXED"

instance (signs : List String) : Decidable (SignsConflict signs) :=
  inferInstanceAs (Decidable (∃ a ∈ signs, ∃ b ∈ signs, _))

/-- One provider has a direction and another one is at zero. -/
def LoneAgainstZero (signs : List String) : Prop :=
  (signs.filter fun value => Directional value).length = 1 ∧ "ZERO" ∈ signs

instance (signs : List String) : Decidable (LoneAgainstZero signs) :=
  inferInstanceAs (Decidable (_ ∧ _))

theorem SentimentSign.value_injective : Function.Injective SentimentSign.value := by
  intro a b h
  cases a <;> cases b <;> first | rfl | exact absurd h (by decide)

/-- The tally is mixed exactly when two of its signs conflict. -/
theorem agreementOf_eq_mixed_iff {signs : List SentimentSign} :
    NewsSentimentAnalyst.agreementOf signs = .mixed ↔
      SignsConflict (signs.map SentimentSign.value) := by
  have hmem : ∀ a, a ∈ (signs.filter (· ≠ .mixed)).dedup ↔ a ∈ signs ∧ a ≠ .mixed := by simp
  unfold NewsSentimentAnalyst.agreementOf SignsConflict
  dsimp only
  constructor
  · intro h
    split at h
    · cases h
    rename_i hall
    split at h
    · rename_i htwo
      have hlen : 2 ≤ (signs.filter (· ≠ .mixed)).dedup.length := by
        have hne : (signs.filter (· ≠ .mixed)).dedup.length ≠ 1 := fun h => hall ⟨htwo, h⟩
        have hpos : (signs.filter (· ≠ .mixed)).dedup.length ≠ 0 := by
          intro hzero
          rw [List.length_eq_zero_iff, List.dedup_eq_nil] at hzero
          rw [hzero] at htwo
          exact absurd htwo (by decide)
        omega
      obtain ⟨a, ha, b, hb, hab⟩ := exists_two_of_nodup (List.nodup_dedup _) hlen
      obtain ⟨ha, ha'⟩ := (hmem a).mp ha
      obtain ⟨hb, hb'⟩ := (hmem b).mp hb
      exact ⟨_, List.mem_map_of_mem ha, _, List.mem_map_of_mem hb,
        fun h => hab (SentimentSign.value_injective h),
        fun h => ha' (SentimentSign.value_injective h),
        fun h => hb' (SentimentSign.value_injective h)⟩
    · cases h
  · rintro ⟨_, ha, _, hb, hab, ha', hb'⟩
    obtain ⟨a, hsa, rfl⟩ := List.mem_map.mp ha
    obtain ⟨b, hsb, rfl⟩ := List.mem_map.mp hb
    have hne : a ≠ b := fun h => hab (by rw [h])
    have ha := (hmem a).mpr ⟨hsa, fun h => ha' (by rw [h]; rfl)⟩
    have hb := (hmem b).mpr ⟨hsb, fun h => hb' (by rw [h]; rfl)⟩
    have htwo := two_le_length ha hb hne
    have hlen := two_le_length (List.mem_dedup.mp ha) (List.mem_dedup.mp hb) hne
    rw [if_neg (fun h => by omega), if_pos hlen]

/-- A conflict that does not cite two directions is one direction against zeros. -/
theorem two_le_directional_iff {signs : List SentimentSign}
    (h : SignsConflict (signs.map SentimentSign.value)) :
    2 ≤ ((signs.map SentimentSign.value).filter fun value => Directional value).length ↔
      ¬ LoneAgainstZero (signs.map SentimentSign.value) := by
  obtain ⟨a, ha, b, hb, hab, ha', hb'⟩ := h
  have hzero : ∀ value ∈ signs.map SentimentSign.value, value ≠ "MIXED" → ¬ Directional value →
      value = "ZERO" := by
    intro value hvalue hmixed hdir
    obtain ⟨sign, -, rfl⟩ := List.mem_map.mp hvalue
    cases sign with
    | positive => exact absurd (Or.inl rfl) hdir
    | negative => exact absurd (Or.inr rfl) hdir
    | zero => rfl
    | mixed => exact absurd rfl hmixed
  have hdirected : ∀ {value}, value ∈ signs.map SentimentSign.value → Directional value →
      value ∈ (signs.map SentimentSign.value).filter fun value => Directional value :=
    fun hvalue hdir => List.mem_filter.mpr ⟨hvalue, decide_eq_true hdir⟩
  by_cases hda : Directional a <;> by_cases hdb : Directional b
  · have htwo := two_le_length (hdirected ha hda) (hdirected hb hdb) hab
    exact ⟨fun _ h => by have := h.1; omega, fun _ => htwo⟩
  · have hpos := List.length_pos_of_mem (hdirected ha hda)
    have hmem := hzero b hb hb' hdb ▸ hb
    exact ⟨fun _ h => by have := h.1; omega,
      fun h => by have : _ ≠ 1 := fun hone => h ⟨hone, hmem⟩; omega⟩
  · have hpos := List.length_pos_of_mem (hdirected hb hdb)
    have hmem := hzero a ha ha' hda ▸ ha
    exact ⟨fun _ h => by have := h.1; omega,
      fun h => by have : _ ≠ 1 := fun hone => h ⟨hone, hmem⟩; omega⟩
  · exact absurd ((hzero a ha ha' hda).trans (hzero b hb hb' hdb).symm) hab

theorem length_signRefs (p : String → Bool) :
    (canonicalize (signRefs resultIndex result p)).length =
      (result.providerSigns.filter p).length := by
  have hnodup : (signRefs resultIndex result p).Nodup := by
    refine List.pairwise_map.mpr (((zipIdx_pairwise _).filter _).imp fun hab heq => hab ?_)
    exact congrArg JudgeEvidenceRef.observationIndex heq
  rw [length_canonicalize hnodup, signRefs, List.length_map,
    ExternalIntelligenceAnalysisResult.providerSigns, List.filter_map, List.length_map,
    List.filter_filter]
  conv_rhs => rw [← List.zipIdx_map_fst 0 result.observations, List.filter_map, List.length_map]
  congr 1
  refine List.filter_congr fun member _ => ?_
  simp [and_comm]

/-- What the providers of a result say, apart from the error of a missing result. -/
def newsResolution (resultIndex : ℕ) (result : ExternalIntelligenceAnalysisResult) : Resolved :=
  if result.agreement = some "MIXED" then
    { conflict := true, refs := signRefs resultIndex result fun value => Directional value }
  else if result.agreement = some "ALL_AGREE" then
    match result.providerSigns.find? fun value => (sentimentMap.lookup value).isSome with
    | none => unresolved
    | some value =>
        { candidate := sentimentMap.lookup value
          refs := signRefs resultIndex result fun value' => value' = value }
  else unresolved

theorem resolveNewsSentimentResult_ok
    (h : external.analysisResults[resultIndex]? = some result) :
    resolveNewsSentimentResult external resultIndex = .ok (newsResolution resultIndex result) := by
  unfold resolveNewsSentimentResult newsResolution
  rw [h]
  dsimp only
  cases hagr : result.agreement with
  | none => rfl
  | some agreement =>
      simp only [Option.some.injEq]
      by_cases hmixed : agreement = "MIXED"
      · rw [if_pos hmixed, if_pos hmixed]
        rfl
      · rw [if_neg hmixed, if_neg hmixed]
        by_cases hall : agreement = "ALL_AGREE"
        · rw [if_neg (not_not.mpr hall), if_pos hall]
          cases result.providerSigns.find? fun value => (sentimentMap.lookup value).isSome <;> rfl
        · rw [if_pos hall, if_neg hall]

theorem newsResolution_conflict_iff :
    (newsResolution resultIndex result).conflict = true ↔ result.agreement = some "MIXED" := by
  unfold newsResolution
  split_ifs with hmixed hall
  · simp [hmixed]
  · rw [hall]
    split <;> simp [unresolved]
  · simp [hmixed, unresolved]

/-- The analyst reports a mixed agreement exactly when the signs it reports conflict. -/
theorem agreement_eq_mixed_iff (htallied : result.Tallied) :
    result.agreement = some "MIXED" ↔ SignsConflict result.providerSigns := by
  obtain ⟨signs, hsigns, hagreement⟩ := htallied
  rw [hsigns, ← agreementOf_eq_mixed_iff, hagreement]
  by_cases hempty : signs = []
  · rw [hempty]
    decide
  · rw [if_neg hempty, Option.some.injEq]
    cases NewsSentimentAnalyst.agreementOf signs <;> decide

/-- The references of a news result point at its observations. -/
theorem newsResolution_refs (hexternal : r.external = some external)
    (h : external.analysisResults[resultIndex]? = some result) :
    ∀ ref ∈ (newsResolution resultIndex result).refs,
      InBounds r ref ∧ ref.role = .primary ∧ ref.analystResultIndex = resultIndex := by
  have hsignRefs : ∀ p, ∀ ref ∈ signRefs resultIndex result p,
      InBounds r ref ∧ ref.role = .primary ∧ ref.analystResultIndex = resultIndex := by
    intro p ref href
    obtain ⟨⟨observation, index⟩, hmem, rfl⟩ := List.mem_map.mp href
    have hobs := List.mem_zipIdx_iff_getElem?.mp (List.mem_of_mem_filter hmem)
    refine ⟨⟨external.analysisResults.map fun result => result.observations.length, ?_,
      result.observations.length, ?_, (List.getElem?_eq_some_iff.mp hobs).1⟩, rfl, rfl⟩
    · rw [RoutedEvaluation.observationCounts, hexternal]
      rfl
    · rw [List.getElem?_map, h]
      rfl
  unfold newsResolution
  split_ifs
  · exact fun ref => hsignRefs (fun value => Directional value) ref
  · split
    · exact fun _ h => absurd h List.not_mem_nil
    · rename_i value _
      exact fun ref => hsignRefs (fun value' => value' = value) ref
  · exact fun _ h => absurd h List.not_mem_nil

theorem newsResolution_candidate (h : (newsResolution resultIndex result).candidate.isSome) :
    ∃ ref, ref ∈ (newsResolution resultIndex result).refs := by
  unfold newsResolution at h ⊢
  split_ifs at h ⊢
  · cases h
  · split at h
    · cases h
    · rename_i value hfind
      have hmem := List.mem_of_find?_eq_some hfind
      have hlen : 0 < (canonicalize (signRefs resultIndex result
          fun value' => value' = value)).length := by
        rw [length_signRefs]
        exact List.length_pos_of_mem (List.mem_filter.mpr ⟨hmem, decide_eq_true rfl⟩)
      obtain ⟨ref, href⟩ := List.exists_mem_of_length_pos hlen
      exact ⟨ref, mem_canonicalize.mp href⟩
  · cases h

/-- The news results that match the symbol, with their indices. -/
def alignedNews (r : RoutedEvaluation) (external : ExternalEvidence) :
    List (ℕ × ExternalIntelligenceAnalysisResult) :=
  (alignedNewsSentimentResultIndices r).filterMap fun index =>
    external.analysisResults[index]?.map fun result => (index, result)

/-- The first news result whose providers conflict. -/
def firstConflict (r : RoutedEvaluation) : Option ExternalIntelligenceAnalysisResult :=
  r.external.bind fun external =>
    ((alignedNews r external).find? fun member => SignsConflict member.2.providerSigns).map Prod.snd

theorem mem_alignedNews {member : ℕ × ExternalIntelligenceAnalysisResult}
    (h : member ∈ alignedNews r external) :
    external.analysisResults[member.1]? = some member.2 ∧
      member.1 ∈ alignedNewsSentimentResultIndices r := by
  obtain ⟨index, hindex, h⟩ := List.mem_filterMap.mp h
  obtain ⟨result, hresult, rfl⟩ := Option.map_eq_some_iff.mp h
  exact ⟨hresult, hindex⟩

/-- The summaries lead to news results. -/
theorem alignedNewsSentimentResultIndices_spec (hexternal : r.external = some external)
    (h : resultIndex ∈ alignedNewsSentimentResultIndices r) : ∃ result,
      external.analysisResults[resultIndex]? = some result ∧
        result.analystType = .newsSentiment := by
  unfold alignedNewsSentimentResultIndices at h
  rw [hexternal] at h
  simp only [List.mem_insertionSort, List.mem_dedup, List.mem_filterMap] at h
  obtain ⟨ref, href, h⟩ := h
  split at h
  · obtain ⟨summary, hsummary, h⟩ := Option.bind_eq_some_iff.mp h
    split at h
    · rename_i htype
      cases h
      obtain ⟨result, hresult, hsame⟩ :=
        external.summarizes summary (List.mem_of_getElem? hsummary)
      exact ⟨result, hresult, hsame.trans htype⟩
    · cases h
  · cases h

theorem alignedNewsSentimentResultIndices_nodup (r : RoutedEvaluation) :
    (alignedNewsSentimentResultIndices r).Nodup := by
  unfold alignedNewsSentimentResultIndices
  split
  · exact List.nodup_nil
  · exact (List.perm_insertionSort _ _).nodup_iff.mpr (List.nodup_dedup _)

theorem mapM_resolveNewsSentimentResult (hexternal : r.external = some external) :
    (alignedNewsSentimentResultIndices r).mapM (resolveNewsSentimentResult external) =
      .ok ((alignedNews r external).map fun member => newsResolution member.1 member.2) := by
  have hread : ∀ indices : List ℕ, (∀ index ∈ indices, ∃ result,
      external.analysisResults[index]? = some result) →
      indices.mapM (resolveNewsSentimentResult external) =
        .ok ((indices.filterMap fun index => external.analysisResults[index]?.map
          fun result => (index, result)).map fun member => newsResolution member.1 member.2) := by
    intro indices hindices
    induction indices with
    | nil => rfl
    | cons index indices ih =>
        obtain ⟨result, hresult⟩ := hindices index List.mem_cons_self
        rw [List.mapM_cons, resolveNewsSentimentResult_ok hresult,
          ih fun index hindex => hindices index (List.mem_cons_of_mem _ hindex),
          List.filterMap_cons_some (by rw [hresult]; rfl)]
        rfl
  exact hread _ fun index hindex =>
    (alignedNewsSentimentResultIndices_spec hexternal hindex).imp fun _ h => h.1

/-- A conflict is demonstrated by two references unless it is one direction against zeros. -/
theorem newsResolution_grounded (htallied : result.Tallied)
    (hconflict : SignsConflict result.providerSigns) :
    2 ≤ (canonicalize (newsResolution resultIndex result).refs).length ↔
      ¬ LoneAgainstZero result.providerSigns := by
  have hmixed := (agreement_eq_mixed_iff htallied).mpr hconflict
  obtain ⟨signs, hsigns, -⟩ := htallied
  rw [newsResolution, if_pos hmixed, length_signRefs, hsigns]
  exact two_le_directional_iff (hsigns ▸ hconflict)

theorem newsResolution_apart (hexternal : r.external = some external) :
    ((alignedNews r external).map fun member => newsResolution member.1 member.2).Pairwise
      fun x y => ∀ a ∈ x.refs, ∀ b ∈ y.refs, a ≠ b := by
  have hindices : (alignedNews r external).Pairwise fun m m' => m.1 ≠ m'.1 := by
    refine List.pairwise_filterMap.mpr ((alignedNewsSentimentResultIndices_nodup r).imp ?_)
    intro i j hij m hm m' hm'
    obtain ⟨_, -, rfl⟩ := Option.map_eq_some_iff.mp hm
    obtain ⟨_, -, rfl⟩ := Option.map_eq_some_iff.mp hm'
    exact hij
  refine List.pairwise_map.mpr (hindices.imp_of_mem fun hm hm' hne a ha b hb hab => hne ?_)
  have hfst := (newsResolution_refs hexternal (mem_alignedNews hm).1 a ha).2.2
  have hsnd := (newsResolution_refs hexternal (mem_alignedNews hm').1 b hb).2.2
  rw [← hfst, ← hsnd, hab]

/-- Without a conflict the directions of the results are judged acceptably. -/
theorem judgeDirections_acceptable (hexternal : r.external = some external)
    (hresolved : resolved = (alignedNews r external).map fun member =>
      newsResolution member.1 member.2) :
    Acceptable r (judgeDirections resolved) := by
  have hrefs : ∀ ref ∈ directedRefs resolved, InBounds r ref ∧ ref.role = .primary := by
    intro ref href
    obtain ⟨x, hx, -, href⟩ := mem_directedRefs.mp href
    obtain ⟨member, hmember, rfl⟩ := List.mem_map.mp (hresolved ▸ hx)
    obtain ⟨hbounds, hrole, -⟩ :=
      newsResolution_refs hexternal (mem_alignedNews hmember).1 ref href
    exact ⟨hbounds, hrole⟩
  have hsome : ∀ x ∈ resolved, x.candidate.isSome → ∃ ref, ref ∈ x.refs := by
    intro x hx hc
    obtain ⟨member, -, rfl⟩ := List.mem_map.mp (hresolved ▸ hx)
    exact newsResolution_candidate hc
  unfold judgeDirections
  cases hdir : directions resolved with
  | nil => exact insufficient_acceptable
  | cons direction rest =>
      dsimp only
      by_cases hother : ∃ other ∈ rest, other ≠ direction
      · rw [if_pos hother]
        exact mixed_acceptable (fun ref href => (hrefs ref href).1)
          (exists_two_directedRefs hsome (hresolved ▸ newsResolution_apart hexternal) hdir hother)
      · rw [if_neg hother]
        obtain ⟨primary, hmem⟩ := exists_mem_directedRefs hsome hdir
        exact directional_acceptable (fun ref href => (hrefs ref href).1)
          ⟨primary, hmem, (hrefs primary hmem).2⟩

/-- An event is judged without an error; the verdict is acceptable unless the first conflict is
one direction against zeros. -/
theorem judgeEventDriven_acceptable
    (htallied : ∀ e ∈ r.external, ∀ result ∈ e.analysisResults,
      result.analystType = .newsSentiment → result.Tallied) :
    ∃ verdict, judgeEventDriven r = .ok verdict ∧ Cited r verdict ∧
      (Grounded verdict ↔
        ∀ result ∈ firstConflict r, ¬ LoneAgainstZero result.providerSigns) := by
  unfold judgeEventDriven firstConflict
  cases hexternal : r.external with
  | none =>
      have hacceptable : Acceptable r insufficientVerdict := insufficient_acceptable
      exact ⟨_, rfl, hacceptable.cited, iff_of_true hacceptable.grounded fun _ h => (by cases h)⟩
  | some external =>
      have hnews : ∀ member ∈ alignedNews r external, member.2.Tallied := by
        intro member hmember
        obtain ⟨hresult, hindex⟩ := mem_alignedNews hmember
        obtain ⟨result, hresult', htype⟩ := alignedNewsSentimentResultIndices_spec hexternal hindex
        cases hresult.symm.trans hresult'
        exact htallied external hexternal _ (List.mem_of_getElem? hresult) htype
      have hfind : ((alignedNews r external).map fun member =>
          newsResolution member.1 member.2).find? Resolved.conflict =
          ((alignedNews r external).find? fun member =>
            SignsConflict member.2.providerSigns).map fun member =>
              newsResolution member.1 member.2 := by
        rw [List.find?_map]
        congr 1
        refine List.find?_congr fun member hmember => ?_
        rw [Bool.eq_iff_iff, decide_eq_true_iff]
        exact newsResolution_conflict_iff.trans (agreement_eq_mixed_iff (hnews member hmember))
      dsimp only
      rw [mapM_resolveNewsSentimentResult hexternal]
      simp only [bind, Except.bind, Option.bind_some, hfind]
      cases hfirst : (alignedNews r external).find? fun member =>
          SignsConflict member.2.providerSigns with
      | some member =>
          have hmem := List.mem_of_find?_eq_some hfirst
          have hconflict : SignsConflict member.2.providerSigns := by
            simpa using List.find?_some hfirst
          have hresult := (mem_alignedNews hmem).1
          refine ⟨_, rfl, mixed_cited fun ref href =>
            (newsResolution_refs hexternal hresult ref href).1, ?_⟩
          rw [mixed_grounded_iff]
          simpa using newsResolution_grounded (hnews member hmem) hconflict
      | none =>
          have hacceptable := judgeDirections_acceptable hexternal rfl
          exact ⟨_, rfl, hacceptable.cited,
            iff_of_true hacceptable.grounded fun _ h => (by cases h)⟩

/-! ## All families -/

/-- The judge accepts its verdicts exactly when they are grounded. -/
theorem judge_ok_iff_grounded (h : ∀ family ∈ r.eligibleFamilies, ∃ verdict,
      judgeFamily r family = .ok verdict ∧ Cited r verdict) :
    (Judge.judge r).isOk = true ↔ ∀ family ∈ r.eligibleFamilies, ∀ verdict,
      judgeFamily r family = .ok verdict → Grounded verdict := by
  rw [isOk_iff]
  constructor
  · rintro ⟨result, hresult⟩ family hfamily verdict hverdict
    obtain ⟨familyResults, hmap, -⟩ := bind_ok_iff.mp hresult
    obtain ⟨familyResult, -, hmade⟩ := exists_of_mem_left (mapM_ok_forall₂ hmap) hfamily
    obtain ⟨verdict', hverdict', hmade⟩ := bind_ok_iff.mp hmade
    cases hverdict.symm.trans hverdict'
    obtain ⟨_, hjudged, hcited⟩ := h family hfamily
    cases hverdict.symm.trans hjudged
    obtain ⟨refs, hrefs⟩ := hcited.canonical
    exact (construct_ok_iff hrefs).mp (isOk_iff.mpr ⟨_, hmade⟩)
  · intro hgrounded
    have hmade : ∀ family ∈ r.eligibleFamilies, ∃ familyResult : JudgeFamilyResult,
        (judgeFamily r family >>= construct family) = .ok familyResult := by
      intro family hfamily
      obtain ⟨verdict, hverdict, hcited⟩ := h family hfamily
      obtain ⟨refs, hrefs⟩ := hcited.canonical
      obtain ⟨familyResult, hconstruct⟩ : ∃ familyResult, construct family verdict =
          .ok familyResult :=
        isOk_iff.mp ((construct_ok_iff hrefs).mpr (hgrounded family hfamily _ hverdict))
      exact ⟨familyResult, bind_ok_iff.mpr ⟨verdict, hverdict, hconstruct⟩⟩
    obtain ⟨familyResults, hmap⟩ := mapM_ok_of_exists hmade
    have hfamilies : familyResults.map JudgeFamilyResult.family = r.eligibleFamilies := by
      rw [← List.forall₂_eq_eq_eq, List.forall₂_map_left_iff]
      refine (mapM_ok_forall₂ hmap).flip.imp fun familyResult family hresult => ?_
      obtain ⟨verdict, -, hconstruct⟩ := bind_ok_iff.mp hresult
      rw [construct_ok hconstruct]
    have hrefs : ∀ familyResult ∈ familyResults, ∀ ref ∈ familyResult.evidenceRefs,
        InBounds r ref := by
      intro familyResult hmem
      obtain ⟨family, hfamily, hresult⟩ := exists_of_mem_mapM hmap hmem
      obtain ⟨verdict, hverdict, hconstruct⟩ := bind_ok_iff.mp hresult
      obtain ⟨_, hjudged, hcited⟩ := h family hfamily
      cases hverdict.symm.trans hjudged
      rw [construct_ok hconstruct]
      exact hcited.inBounds
    refine ⟨_, bind_ok_iff.mpr ⟨familyResults, hmap, unit_bind_ok_iff.mpr ⟨?_, rfl⟩⟩⟩
    rw [StrategyJudgeResult.validate, check_bind_ok]
    refine ⟨hfamilies, forM_ok_iff.mpr fun familyResult hmem => forM_ok_iff.mpr fun ref href => ?_⟩
    exact validateRef_ok_iff.mpr (hrefs familyResult hmem ref href)

/-- **The judge rejects its own verdict exactly when it judges an event and the first conflict of
providers that it reads is one direction against zeros.** -/
theorem judge_ok_iff
    (htechnical : ∀ technical ∈ r.technical, ∃ analysts timeframes results,
      TechnicalSupervisor.supervise analysts timeframes results = .ok technical)
    (hnews : ∀ external ∈ r.external, ∀ result ∈ external.analysisResults,
      result.analystType = .newsSentiment → ∃ symbol analysisTime config newsItems sentiment,
        result = NewsSentimentAnalyst.analyze symbol analysisTime config newsItems sentiment) :
    (Judge.judge r).isOk = true ↔ (.eventDriven ∈ r.eligibleFamilies →
      ∀ result ∈ firstConflict r, ¬ LoneAgainstZero result.providerSigns) := by
  have htallied : ∀ external ∈ r.external, ∀ result ∈ external.analysisResults,
      result.analystType = .newsSentiment → result.Tallied := by
    intro external hexternal result hresult htype
    obtain ⟨symbol, analysisTime, config, newsItems, sentiment, rfl⟩ :=
      hnews external hexternal result hresult htype
    exact NewsSentimentAnalyst.analyze_tallied
  have htechnicalFamily : ∀ judgeOf : Option TechnicalSupervision → Except JudgeError JudgeVerdict,
      judgeOf none = .ok insufficientVerdict →
      (∀ technical, Supervised technical → r.technical = some technical →
        ∃ verdict, judgeOf (some technical) = .ok verdict ∧ Acceptable r verdict) →
      ∃ verdict, judgeOf r.technical = .ok verdict ∧ Acceptable r verdict := by
    intro judgeOf hnone hsome
    cases ht : r.technical with
    | none => exact ⟨_, hnone, insufficient_acceptable⟩
    | some technical =>
        obtain ⟨analysts, timeframes, results, hsupervise⟩ := htechnical technical ht
        exact hsome technical (supervise_ok hsupervise) ht
  obtain ⟨trend, htrend, htrendAcc⟩ := htechnicalFamily judgeTrendFollowing rfl
    fun _ hs hr => judgeTrendFollowing_acceptable hs hr
  obtain ⟨breakout, hbreakout, hbreakoutAcc⟩ := htechnicalFamily judgeBreakout rfl
    fun _ hs hr => judgeBreakout_acceptable hs hr
  obtain ⟨event, hevent, heventCited, heventIff⟩ := judgeEventDriven_acceptable htallied
  have hreversion : Acceptable r judgeMeanReversion := insufficient_acceptable
  have hjudged : ∀ family ∈ r.eligibleFamilies, ∃ verdict,
      judgeFamily r family = .ok verdict ∧ Cited r verdict := by
    intro family _
    cases family with
    | trendFollowing => exact ⟨trend, htrend, htrendAcc.cited⟩
    | meanReversion => exact ⟨_, rfl, hreversion.cited⟩
    | breakout => exact ⟨breakout, hbreakout, hbreakoutAcc.cited⟩
    | eventDriven => exact ⟨event, hevent, heventCited⟩
  rw [judge_ok_iff_grounded hjudged]
  constructor
  · intro h hrouted
    exact heventIff.mp (h _ hrouted event hevent)
  · intro h family hfamily verdict hverdict
    cases family with
    | trendFollowing =>
        cases hverdict.symm.trans htrend
        exact htrendAcc.grounded
    | meanReversion =>
        cases hverdict
        exact hreversion.grounded
    | breakout =>
        cases hverdict.symm.trans hbreakout
        exact hbreakoutAcc.grounded
    | eventDriven =>
        cases hverdict.symm.trans hevent
        exact heventIff.mpr (h hfamily)

/-! ## A lone direction -/

/-- One news item about one symbol. -/
def soleNewsItem : NewsItem where
  provider := ⟨"newswire", by decide⟩
  providerItemId := ⟨"n1", by decide⟩
  publishedAt := 0
  receivedAt := 0
  providerSymbols := ["BTCUSDT"]

/-- A provider's score of that item. -/
def soleItemScore (provider : NonemptyText) (score : ℚ) : NewsSentimentObservation where
  provider
  sourceProvider := soleNewsItem.provider
  sourceProviderItemId := soleNewsItem.providerItemId
  sourceReceivedAt := 0
  publishedAt := 0
  sentimentScore := some score
  receivedAt := 0

/-- The analyst's result on that item when two providers give these scores. -/
def twoProviders (first second : ℚ) : ExternalIntelligenceAnalysisResult :=
  NewsSentimentAnalyst.analyze btcusdt 0 ⟨60, 60⟩ [soleNewsItem]
    [soleItemScore ⟨"alpha", by decide⟩ first, soleItemScore ⟨"beta", by decide⟩ second]

/-- The result of the two providers, routed as an event. -/
def routedNews (first second : ℚ) : RoutedEvaluation where
  external := some {
    scopeSummaries := [⟨.newsSentiment, none, 0⟩]
    analysisResults := [twoProviders first second]
    summarizes := by
      intro summary hsummary
      obtain rfl := List.mem_singleton.mp hsummary
      exact ⟨_, rfl, NewsSentimentAnalyst.analyze_analystType⟩ }
  externalScopeAlignment := [(0, .symbol)]
  eligibleFamilies := [.eventDriven]
  aligned := by
    intro external hexternal ref href
    cases hexternal
    obtain rfl := List.mem_singleton.mp href
    exact ⟨_, rfl, fun _ => rfl⟩
  canonical := by decide

theorem routedNews_analyzed (first second : ℚ) :
    ∀ external ∈ (routedNews first second).external, ∀ result ∈ external.analysisResults,
      result.analystType = .newsSentiment → ∃ symbol analysisTime config newsItems sentiment,
        result = NewsSentimentAnalyst.analyze symbol analysisTime config newsItems sentiment := by
  intro external hexternal result hresult _
  cases hexternal
  obtain rfl := List.mem_singleton.mp hresult
  exact ⟨_, _, _, _, _, rfl⟩

/-- The two providers, routed beside technical evidence. -/
def routedTrend (technical : TechnicalSupervision) : RoutedEvaluation :=
  { routedNews 1 2 with
    technical := some technical
    eligibleFamilies := [.trendFollowing, .eventDriven]
    canonical := by decide }

/-- A trend and two providers on one side are judged. -/
theorem judge_ok_sample : ∃ technical,
    analyzeSeries shortLookbacks technicalAnalysts canonicalTimeframes sampleIdentity
      risingSeries = .ok technical ∧ (Judge.judge (routedTrend technical)).isOk = true := by
  have hok : (analyzeSeries shortLookbacks technicalAnalysts canonicalTimeframes sampleIdentity
      risingSeries).isOk = true := by
    decide +kernel
  obtain ⟨technical, htechnical⟩ := isOk_iff.mp hok
  refine ⟨technical, htechnical, (judge_ok_iff (r := routedTrend technical) ?_ ?_).mpr ?_⟩
  · intro _ hrouted
    cases hrouted
    exact ⟨_, _, _, htechnical⟩
  · exact routedNews_analyzed 1 2
  · intro _
    exact (by decide +kernel : ∀ result ∈ firstConflict (routedNews 1 2),
      ¬ LoneAgainstZero result.providerSigns)

/-- One provider above zero and one at zero: the judge rejects its own verdict. -/
theorem judge_rejects_lone_direction :
    ¬ ∀ r : RoutedEvaluation,
      (∀ technical ∈ r.technical, ∃ analysts timeframes results,
        TechnicalSupervisor.supervise analysts timeframes results = .ok technical) →
      (∀ external ∈ r.external, ∀ result ∈ external.analysisResults,
        result.analystType = .newsSentiment → ∃ symbol analysisTime config newsItems sentiment,
          result = NewsSentimentAnalyst.analyze symbol analysisTime config newsItems sentiment) →
      (Judge.judge r).isOk = true := by
  intro h
  have hok := h (routedNews 1 0) (fun _ h => (by cases h)) (routedNews_analyzed 1 0)
  exact absurd hok (by decide +kernel)

end TradingAdvisor
