import TradingAdvisor.Lib.Transition
import TradingAdvisor.Orchestration.RuntimeCycle

/-!
# Broker positions are claimed once

A recommendation that is matched with a position keeps it for good. The pass over the documents
reserves every position that a readable document holds, so two recommendations end up with one
position only through a document that could not be read when the second one was matched.

* `advanceAll_claims` — the pass claims no position twice;
* `ClaimsRespected` — what a cycle must not run into;
* `run_keepsClaims` — a claim is never given up or changed;
* **`distinctClaims_iff`** — no position is claimed twice, along runs.
-/

namespace TradingAdvisor

open SignificantDigits Checks VersionedStore Transition

/-- No two documents hold the same position. -/
def DistinctClaims (s : TrackingStore) : Prop :=
  ∀ k k' t t' p, s.lookup k = some t → s.lookup k' = some t' →
    t.matchedPositionId = some p → t'.matchedPositionId = some p → k = k'

/-- Every document keeps the position it holds. -/
def KeepsClaims (s s' : TrackingStore) : Prop :=
  ∀ k t p, s.lookup k = some t → t.matchedPositionId = some p →
    ∃ t', s'.lookup k = some t' ∧ t'.matchedPositionId = some p

/-- The cycle matches no recommendation with a position that an unreadable document holds. -/
def ClaimsRespected (R : Rounding) (s : TrackingStore) (c : RuntimeCycleInput) : Prop :=
  c.Advances R s → ∀ k t others p, c.Turn R s k t others → t.matchedPositionId = none →
    MatchedWith R (c.history s) others t p → ∀ k' t', s.lookup k' = some t' →
      c.readStatus k' ≠ .valid → t'.matchedPositionId ≠ some p

variable {R : Rounding} {s s' : TrackingStore} {c : RuntimeCycleInput} {k : TradeId}
  {t t' : MT5TrackedRecommendation} {docs advanced issued : List (TradeId × MT5TrackedRecommendation)}
  {p : ℕ}

/-! ## The pass -/

theorem mem_claimedIds :
    p ∈ claimedIds docs ↔ ∃ doc ∈ docs, doc.2.matchedPositionId = some p :=
  List.mem_filterMap

theorem claimedIds_cons :
    claimedIds ((k, t) :: docs) = t.matchedPositionId.toList ++ claimedIds docs := by
  unfold claimedIds
  rw [List.filterMap_cons]
  cases t.matchedPositionId <;> rfl

theorem eq_of_nodup_claimedIds (hnodup : (claimedIds docs).Nodup)
    {doc doc' : TradeId × MT5TrackedRecommendation} (hdoc : doc ∈ docs) (hdoc' : doc' ∈ docs)
    (hp : doc.2.matchedPositionId = some p) (hp' : doc'.2.matchedPositionId = some p) :
    doc = doc' := by
  induction docs with
  | nil => cases hdoc
  | cons first docs ih =>
      rw [claimedIds_cons] at hnodup
      obtain ⟨-, hrest, hdisjoint⟩ := List.nodup_append'.mp hnodup
      rcases List.mem_cons.mp hdoc with rfl | hmem <;> rcases List.mem_cons.mp hdoc' with rfl | hmem'
      · rfl
      · exact absurd (mem_claimedIds.mpr ⟨doc', hmem', hp'⟩)
          (hdisjoint (Option.mem_toList.mpr hp))
      · exact absurd (mem_claimedIds.mpr ⟨doc, hmem, hp⟩)
          (hdisjoint (Option.mem_toList.mpr hp'))
      · exact ih hrest hmem hmem'

/-- Advancing a recommendation keeps its position, or matches it with one. -/
theorem advance_claim {h : HistoryRead} {claimed : List ℕ}
    (hok : advanceTrackedRecommendation R h claimed t = .ok t')
    (hp : t'.matchedPositionId = some p) :
    t.matchedPositionId = some p ∨
      (t.matchedPositionId = none ∧ MatchedWith R h claimed t p) := by
  obtain ⟨-, ⟨p', hbefore, hafter, -⟩ | ⟨-, -, hnone, -⟩ | ⟨p', hbefore, hmatched, hafter, -⟩⟩ :=
    advance_cases hok
  · rw [hafter] at hp
    exact .inl (hbefore.trans hp)
  · rw [hnone] at hp
    cases hp
  · rw [hafter] at hp
    cases hp
    exact .inr ⟨hbefore, hmatched⟩

theorem advance_keeps {h : HistoryRead} {claimed : List ℕ}
    (hok : advanceTrackedRecommendation R h claimed t = .ok t')
    (hp : t.matchedPositionId = some p) : t'.matchedPositionId = some p := by
  obtain ⟨-, ⟨p', hbefore, hafter, -⟩ | ⟨hnone, -⟩ | ⟨p', hnone, -⟩⟩ := advance_cases hok
  · exact hafter.trans (hbefore.symm.trans hp)
  · rw [hnone] at hp
    cases hp
  · rw [hnone] at hp
    cases hp

theorem advance_matches {h : HistoryRead} {claimed : List ℕ}
    (hok : advanceTrackedRecommendation R h claimed t = .ok t')
    (hnone : t.matchedPositionId = none) (hmatched : MatchedWith R h claimed t p) :
    t'.matchedPositionId = some p := by
  obtain ⟨-, ⟨p', hbefore, -⟩ | ⟨-, hunmatched, -⟩ | ⟨p', -, hmatched', hafter, -⟩⟩ :=
    advance_cases hok
  · rw [hnone] at hbefore
    cases hbefore
  · exact absurd hmatched (hunmatched p)
  · rw [hafter, hmatched.eq hmatched']

/-- **The pass claims no position twice**: what the documents hold afterwards they held before, or
nobody had claimed it. -/
theorem advanceAll_claims {h : HistoryRead} {claimed : List ℕ}
    (hok : advanceAllExistingTracking R h claimed docs = .ok advanced)
    (hsub : claimedIds docs ⊆ claimed) (hnodup : (claimedIds docs).Nodup) :
    (claimedIds advanced).Nodup ∧
      ∀ p ∈ claimedIds advanced, p ∈ claimedIds docs ∨ p ∉ claimed := by
  induction docs generalizing claimed advanced with
  | nil =>
      cases hok
      exact ⟨List.nodup_nil, fun p hp => .inl hp⟩
  | cons doc docs ih =>
      obtain ⟨k, t⟩ := doc
      obtain ⟨t', hadvance, hok⟩ := bind_ok_iff.mp hok
      obtain ⟨rest, hrest, hok⟩ := bind_ok_iff.mp hok
      cases hok
      rw [claimedIds_cons] at hsub hnodup
      obtain ⟨-, hdocs, hdisjoint⟩ := List.nodup_append'.mp hnodup
      have hsub_docs : claimedIds docs ⊆ claimed := (List.append_subset.mp hsub).2
      obtain ⟨hnodup_rest, hfresh_rest⟩ :=
        ih hrest (List.subset_append_of_subset_right _ hsub_docs) hdocs
      -- the position of this document is its old one, or is unclaimed
      have hown (p : ℕ) (hp : t'.matchedPositionId = some p) :
          t.matchedPositionId = some p ∨ p ∉ claimed := by
        rcases advance_claim hadvance hp with hkept | ⟨hnone, hmatched⟩
        · exact .inl hkept
        · refine .inr fun hmem => hmatched.notMem_claimed (List.mem_filter.mpr ⟨hmem, ?_⟩)
          rw [hnone]
          rfl
      rw [claimedIds_cons, claimedIds_cons]
      refine ⟨List.nodup_append'.mpr ⟨Option.pairwise_toList, hnodup_rest, ?_⟩, ?_⟩
      · intro p hp hp_rest
        rcases hfresh_rest p hp_rest with hp_docs | hp_fresh
        · rcases hown p (Option.mem_toList.mp hp) with hkept | hunclaimed
          · exact hdisjoint (Option.mem_toList.mpr hkept) hp_docs
          · exact hunclaimed (hsub_docs hp_docs)
        · exact hp_fresh (List.mem_append_left _ hp)
      · intro p hp
        rcases List.mem_append.mp hp with hp | hp_rest
        · exact (hown p (Option.mem_toList.mp hp)).imp_left fun hkept =>
            List.mem_append_left _ (Option.mem_toList.mpr hkept)
        · exact (hfresh_rest p hp_rest).imp (List.mem_append_right _)
            fun hp_fresh hp => hp_fresh (List.mem_append_right _ hp)

/-! ## One cycle -/

theorem DistinctClaims.nodup_loaded (hs : DistinctClaims s) :
    (claimedIds (c.loaded s)).Nodup := by
  refine List.pairwise_filterMap.mpr ?_
  refine (List.pairwise_map.mp (loaded_keys_nodup (s := s) (c := c))).imp_of_mem ?_
  rintro ⟨k, t⟩ ⟨k', t'⟩ hdoc hdoc' hne p hp p' hp' rfl
  exact hne (hs k k' t t' p (mem_loaded.mp hdoc).1 (mem_loaded.mp hdoc').1 hp hp')

namespace CycleEffect

theorem notMem_issued (e : CycleEffect R s c advanced issued s')
    (hp : t'.matchedPositionId = some p) : (k, t') ∉ issued := by
  intro hmem
  rcases e.issued_ok with hissued | ⟨rfl, -⟩
  · rw [(issued_spec hissued hmem).2.2.1] at hp
    cases hp
  · cases hmem

/-- Two documents that the cycle could read do not hold one position after it. -/
theorem advanced_claims (e : CycleEffect R s c advanced issued s') (hs : DistinctClaims s)
    {k' : TradeId} {u : MT5TrackedRecommendation} (h : (k, t') ∈ advanced) (h' : (k', u) ∈ advanced)
    (hp : t'.matchedPositionId = some p) (hp' : u.matchedPositionId = some p) : k = k' := by
  have hnodup := (advanceAll_claims e.advanced_ok (List.Subset.refl _) hs.nodup_loaded).1
  exact congrArg Prod.fst (eq_of_nodup_claimedIds hnodup h h' hp hp')

theorem keepsClaims (e : CycleEffect R s c advanced issued s') : KeepsClaims s s' := by
  intro k t p ht hp
  by_cases hread : c.readStatus k = .valid
  · have hkey : k ∈ advanced.map Prod.fst := by
      rw [e.keys_eq]
      exact List.mem_map_of_mem (mem_loaded.mpr ⟨ht, hread⟩)
    obtain ⟨⟨k', t'⟩, hmem, rfl⟩ := List.mem_map.mp hkey
    obtain ⟨u, others, hturn, hadvance⟩ := exists_turn e.advanced_ok hmem
    cases ht.symm.trans (RuntimeCycleInput.Turn.lookup hturn).1
    exact ⟨t', e.lookup_advanced hmem, advance_keeps hadvance hp⟩
  · exact ⟨t, e.lookup_unreadable ht hread, hp⟩

end CycleEffect

/-- A cycle that respects the claims claims no position twice. -/
theorem claimsRespected_step (s : TrackingStore) (c : RuntimeCycleInput) (s' : TrackingStore)
    (hs : DistinctClaims s) (hC : ClaimsRespected R s c) (h : runCycle R s c = some s') :
    DistinctClaims s' := by
  rcases runCycle_cases h with ⟨-, rfl⟩ | ⟨hadvances, advanced, issued, e⟩
  · exact hs
  -- a readable document does not end up with the position of an unreadable one
  have hmixed {k k' : TradeId} {t' u : MT5TrackedRecommendation} {p : ℕ} (hmem : (k, t') ∈ advanced)
      (hp : t'.matchedPositionId = some p) (hu : s.lookup k' = some u)
      (hread : c.readStatus k' ≠ .valid) (hp' : u.matchedPositionId = some p) : k = k' := by
    obtain ⟨t, others, hturn, hadvance⟩ := exists_turn e.advanced_ok hmem
    rcases advance_claim hadvance hp with hkept | ⟨hnone, hmatched⟩
    · exact hs k k' t u p (RuntimeCycleInput.Turn.lookup hturn).1 hu hkept hp'
    · exact absurd hp' (hC hadvances k t others p hturn hnone hmatched k' u hu hread)
  intro k k' t t' p ht ht' hp hp'
  rcases e.lookup_cases ht with hnew | hadv | ⟨hold, hread⟩
  · exact absurd hnew (e.notMem_issued hp)
  all_goals rcases e.lookup_cases ht' with hnew' | hadv' | ⟨hold', hread'⟩
  · exact absurd hnew' (e.notMem_issued hp')
  · exact e.advanced_claims hs hadv hadv' hp hp'
  · exact hmixed hadv hp hold' hread' hp'
  · exact absurd hnew' (e.notMem_issued hp')
  · exact (hmixed hadv' hp' hold hread hp).symm
  · exact hs k k' t t' p hold hold' hp hp'

/-- A cycle that does not respect the claims leaves two documents with one position. -/
theorem not_distinctClaims (s : TrackingStore) (c : RuntimeCycleInput) (s' : TrackingStore)
    (hC : ¬ ClaimsRespected R s c) (h : runCycle R s c = some s') : ¬ DistinctClaims s' := by
  intro hs'
  refine hC fun hadvances k t others p hturn hnone hmatched k' u hu hread hp' => ?_
  rcases runCycle_cases h with ⟨hstays, -⟩ | ⟨-, advanced, issued, e⟩
  · exact hstays hadvances
  obtain ⟨t', hmem, hadvance⟩ := hturn.mem_advanced e.advanced_ok
  have hp : t'.matchedPositionId = some p := advance_matches hadvance hnone hmatched
  have hkey : k = k' :=
    hs' k k' t' u p (e.lookup_advanced hmem) (e.lookup_unreadable hu hread) hp hp'
  exact hread (hkey ▸ hturn.lookup.2)

/-! ## Runs -/

/-- **A claim is never given up or changed.** -/
theorem run_keepsClaims {cycles : List RuntimeCycleInput}
    (h : run (runCycle R) s cycles = some s') : KeepsClaims s s' := by
  induction cycles generalizing s with
  | nil =>
      cases h
      exact fun k t p ht hp => ⟨t, ht, hp⟩
  | cons c cycles ih =>
      obtain ⟨u, hstep, hrun⟩ := run_cons.mp h
      have hfirst : KeepsClaims s u := by
        rcases runCycle_cases hstep with ⟨-, rfl⟩ | ⟨-, advanced, issued, e⟩
        · exact fun k t p ht hp => ⟨t, ht, hp⟩
        · exact e.keepsClaims
      intro k t p ht hp
      obtain ⟨t', ht', hp'⟩ := hfirst k t p ht hp
      exact ih hrun k t' p ht' hp'

/-- **No position is claimed twice and no claim ever changes** in a run from the empty store,
exactly when every cycle of the run respects the claims. -/
theorem distinctClaims_iff (R : Rounding) (cycles : List RuntimeCycleInput) :
    Along (runCycle R) (ClaimsRespected R) ∅ cycles ↔
      Throughout (runCycle R) DistinctClaims ∅ cycles ∧
        ∀ pre mid s s', pre ++ mid <+: cycles → run (runCycle R) ∅ pre = some s →
          run (runCycle R) s mid = some s' → KeepsClaims s s' := by
  have hempty : DistinctClaims ∅ := by
    intro k k' t t' p ht
    rw [AList.lookup_empty] at ht
    cases ht
  have hiff : Along (runCycle R) (ClaimsRespected R) ∅ cycles ↔
      Throughout (runCycle R) DistinctClaims ∅ cycles :=
    along_iff_throughout claimsRespected_step (fun _ hs => hs)
      (fun s c s' _ hC h => not_distinctClaims s c s' hC h) hempty
  exact hiff.trans (iff_self_and.mpr fun _ pre mid s s' _ _ hrun => run_keepsClaims hrun)

/-- The third cycle cannot read the recommendation that the second cycle has matched. -/
def unreadableClaim : List RuntimeCycleInput :=
  [sampleCycle 1 .hedging [] [.trendFollowing, .breakout],
    sampleCycle 2 .hedging [sampleDeal] [],
    { sampleCycle 3 .hedging [sampleDeal] [] with
      readStatus := fun k => if k = sampleTradeId 1 .breakout then .corrupt else .valid }]

/-- Both recommendations hold position 7 in the end. -/
theorem claimedTwice : ¬ Throughout (runCycle .decimal28) DistinctClaims ∅ unreadableClaim := by
  intro h
  have hend : (run (runCycle .decimal28) ∅ unreadableClaim).map (fun s =>
      ((s.lookup (sampleTradeId 1 .trendFollowing)).bind fun t => t.matchedPositionId,
        (s.lookup (sampleTradeId 1 .breakout)).bind fun t => t.matchedPositionId)) =
      some (some 7, some 7) := by decide +kernel
  obtain ⟨s, hs, hobs⟩ := Option.map_eq_some_iff.mp hend
  rw [Prod.mk.injEq] at hobs
  obtain ⟨t, ht, hp⟩ := Option.bind_eq_some_iff.mp hobs.1
  obtain ⟨t', ht', hp'⟩ := Option.bind_eq_some_iff.mp hobs.2
  have hne : sampleTradeId 1 .trendFollowing ≠ sampleTradeId 1 .breakout := by decide +kernel
  exact hne (h _ List.prefix_rfl s hs _ _ t t' 7 ht ht' hp hp')

end TradingAdvisor
