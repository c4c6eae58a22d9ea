import TradingAdvisor.Lib.Keyed
import TradingAdvisor.Mt5.Matching

/-!
# What matching is for

The positions a recommendation could own are a set: the order in which the history lists its deals
does not count. The one volume that is compared is a running sum, which rounds; and a match with
the position id of deals without a position is not a valid result.

* `MatchRequest.Eligible` — a position the recommendation could own;
* `MatchRequest.Describes` — the result the positions call for;
* `MatchesExactly` — every order of the deals gives that result;
* **`matchesExactly_iff`**: it is so exactly when rounding does not change the comparison of the
  volumes, and no match is one with position id 0.
-/

namespace TradingAdvisor

open SignificantDigits Checks Keyed

namespace MatchRequest

variable (q : MatchRequest) (deals : List MT5Deal) (historyCoversUntil : Timestamp)

/-- The earliest deal of the position is as early as an opening fill the recommendation could
own. -/
def Eligible (p : ℕ) : Prop :=
  ∃ first ∈ deals, q.QualifiesStructurally first ∧ first.positionId = p ∧
    ∀ deal ∈ deals, deal.positionId = p → first.time ≤ deal.time

/-- The only position the recommendation could own. -/
def OnlyEligible (p : ℕ) : Prop := ∀ p', q.Eligible deals p' ↔ p' = p

/-- The volume of the opening fills of a position. -/
def totalVolume (p : ℕ) : ℚ := ((q.group deals p).map fun deal => (deal.volume : ℚ)).sum

/-- The result for the only eligible position, by its volume. -/
def volumeVerdict (p : ℕ) (total : ℚ) : MT5MatchResult :=
  if total = q.approvedBrokerVolume then { outcome := .matched, matchedPositionId := some p }
  else if total < q.approvedBrokerVolume then
    { outcome := .partialFill, candidatePositionIds := [p] }
  else { outcome := .volumeMismatch, candidatePositionIds := [p] }

/-- The result without an eligible position. -/
def unfilledVerdict : MT5MatchResult :=
  if q.validUntil ≤ historyCoversUntil then { outcome := .expiredConfirmedUnfilled }
  else { outcome := .noCandidateYet }

/-- The result that the eligible positions call for. -/
structure Describes (r : MT5MatchResult) : Prop where
  ambiguous : ∀ p p', q.Eligible deals p → q.Eligible deals p' → p ≠ p' →
    r.outcome = .ambiguous ∧ r.matchedPositionId = none ∧
      r.candidatePositionIds.Pairwise (· < ·) ∧
      ∀ candidate, candidate ∈ r.candidatePositionIds ↔ q.Eligible deals candidate
  single : ∀ p, q.OnlyEligible deals p → r = q.volumeVerdict p (q.totalVolume deals p)
  unfilled : (∀ p, ¬ q.Eligible deals p) → r = q.unfilledVerdict historyCoversUntil

end MatchRequest

/-- Every order of the deals gives the result that the eligible positions call for. -/
def MatchesExactly (R : Rounding) (q : MatchRequest) (deals : List MT5Deal)
    (historyCoversUntil : Timestamp) : Prop :=
  ∃ r, q.Describes deals historyCoversUntil r ∧ ∀ deals', deals'.Perm deals →
    matchRecommendation R q deals' .ok historyCoversUntil = .ok r

/-- In every order of the fills, their rounded sum compares with the approved volume as their exact
one does; and a match is not one with position id 0. -/
def ComparesExactly (R : Rounding) (q : MatchRequest) (deals : List MT5Deal) : Prop :=
  ∀ p, q.OnlyEligible deals p →
    (∀ fills : List MT5Deal, fills.Perm (q.group deals p) →
      (R.sum (fills.map fun deal => (deal.volume : ℚ)) = q.approvedBrokerVolume ↔
        q.totalVolume deals p = q.approvedBrokerVolume) ∧
      (R.sum (fills.map fun deal => (deal.volume : ℚ)) < q.approvedBrokerVolume ↔
        q.totalVolume deals p < q.approvedBrokerVolume)) ∧
    (q.totalVolume deals p = q.approvedBrokerVolume → p ≠ 0)

namespace MatchRequest

variable {R : Rounding} {q : MatchRequest} {deals deals' : List MT5Deal} {p : ℕ}
  {historyCoversUntil : Timestamp} {r : MT5MatchResult}

/-! ## The eligible positions -/

theorem mem_group {deal : MT5Deal} :
    deal ∈ q.group deals p ↔ deal ∈ deals ∧ q.QualifiesStructurally deal ∧ deal.positionId = p := by
  simp [group]

theorem mem_eligiblePositionIds_iff : p ∈ q.eligiblePositionIds deals ↔ q.Eligible deals p := by
  rw [mem_eligiblePositionIds]
  constructor
  · rintro ⟨⟨deal, hdeal, hqualifies, hp⟩, hconsistent⟩
    have hgroup : (q.group deals p).map MT5Deal.time ≠ [] :=
      List.ne_nil_of_mem (List.mem_map_of_mem (mem_group.mpr ⟨hdeal, hqualifies, hp⟩))
    obtain ⟨time, htime⟩ := Option.isSome_iff_exists.mp (List.isSome_min?_iff.mpr hgroup)
    obtain ⟨first, hfirst, rfl⟩ := List.mem_map.mp (List.min?_eq_some_iff.mp htime).1
    obtain ⟨hmem, hfirstqualifies, hfirstp⟩ := mem_group.mp hfirst
    rw [IsFirstLifecycleConsistent, htime, List.min?_eq_some_iff] at hconsistent
    refine ⟨first, hmem, hfirstqualifies, hfirstp, fun other hother hotherp => ?_⟩
    exact hconsistent.2 _ (List.mem_map_of_mem (List.mem_filter.mpr ⟨hother, by simpa using hotherp⟩))
  · rintro ⟨first, hfirst, hqualifies, rfl, hearliest⟩
    refine ⟨⟨first, hfirst, hqualifies, rfl⟩, ?_⟩
    have hmin : ((q.group deals first.positionId).map MT5Deal.time).min? = some first.time := by
      rw [List.min?_eq_some_iff]
      refine ⟨List.mem_map_of_mem (mem_group.mpr ⟨hfirst, hqualifies, rfl⟩), ?_⟩
      rintro _ ht
      obtain ⟨deal, hdeal, rfl⟩ := List.mem_map.mp ht
      obtain ⟨hmem, -, hp⟩ := mem_group.mp hdeal
      exact hearliest deal hmem hp
    rw [IsFirstLifecycleConsistent, hmin, List.min?_eq_some_iff]
    refine ⟨List.mem_map_of_mem (List.mem_filter.mpr ⟨hfirst, by simp⟩), ?_⟩
    rintro _ ht
    obtain ⟨deal, hdeal, rfl⟩ := List.mem_map.mp ht
    obtain ⟨hmem, hp⟩ := List.mem_filter.mp hdeal
    exact hearliest deal hmem (of_decide_eq_true hp)

theorem eligible_perm (h : deals'.Perm deals) : q.Eligible deals' p ↔ q.Eligible deals p := by
  simp only [Eligible, h.mem_iff]

theorem eligiblePositionIds_perm (h : deals'.Perm deals) :
    q.eligiblePositionIds deals' = q.eligiblePositionIds deals := by
  have hmem (p : ℕ) : p ∈ q.eligiblePositionIds deals' ↔ p ∈ q.eligiblePositionIds deals := by
    rw [mem_eligiblePositionIds_iff, mem_eligiblePositionIds_iff, eligible_perm h]
  simp only [eligiblePositionIds, List.mem_insertionSort] at hmem ⊢
  exact insertionSort_eq_of_mem_iff ((List.nodup_dedup _).filter _) ((List.nodup_dedup _).filter _)
    hmem

theorem eligiblePositionIds_pairwise : (q.eligiblePositionIds deals).Pairwise (· < ·) := by
  have hsorted := List.pairwise_insertionSort (· ≤ ·)
    (((deals.filter fun deal => q.QualifiesStructurally deal).map MT5Deal.positionId).dedup.filter
      fun positionId => q.IsFirstLifecycleConsistent deals positionId)
  have hnodup : (q.eligiblePositionIds deals).Nodup :=
    (List.perm_insertionSort _ _).nodup_iff.mpr ((List.nodup_dedup _).filter _)
  exact hsorted.imp₂ (fun _ _ => lt_of_le_of_ne) hnodup

theorem onlyEligible_iff : q.OnlyEligible deals p ↔ q.eligiblePositionIds deals = [p] := by
  constructor
  · intro h
    have hmem : p ∈ q.eligiblePositionIds deals :=
      mem_eligiblePositionIds_iff.mpr ((h p).mpr rfl)
    have hall : ∀ p' ∈ q.eligiblePositionIds deals, p' = p := fun p' hp' =>
      (h p').mp (mem_eligiblePositionIds_iff.mp hp')
    have hpairwise : (q.eligiblePositionIds deals).Pairwise (· < ·) := eligiblePositionIds_pairwise
    rcases hids : q.eligiblePositionIds deals with _ | ⟨first, rest⟩
    · rw [hids] at hmem
      cases hmem
    · rw [hids] at hall hpairwise
      have hfirst : first = p := hall first List.mem_cons_self
      have hrest : rest = [] := by
        refine List.eq_nil_iff_forall_not_mem.mpr fun p' hp' => ?_
        have hlt := (List.pairwise_cons.mp hpairwise).1 p' hp'
        rw [hall p' (List.mem_cons_of_mem _ hp'), hfirst] at hlt
        exact lt_irrefl p hlt
      rw [hfirst, hrest]
  · intro h p'
    rw [← mem_eligiblePositionIds_iff, h, List.mem_singleton]

/-! ## The result of the code -/

theorem construct_volumeVerdict {total : ℚ} :
    (q.volumeVerdict p total).construct = .ok r ↔
      r = q.volumeVerdict p total ∧ (total = q.approvedBrokerVolume → p ≠ 0) := by
  rw [MT5MatchResult.construct_ok_iff]
  rw [and_comm, eq_comm]
  refine and_congr_right fun _ => ?_
  unfold volumeVerdict
  by_cases heq : total = q.approvedBrokerVolume
  · rw [if_pos heq]
    simp [MT5MatchResult.validate, heq, Nat.pos_iff_ne_zero]
  · rw [if_neg heq]
    split_ifs <;> simp [MT5MatchResult.validate, heq]

theorem construct_unfilledVerdict :
    (q.unfilledVerdict historyCoversUntil).construct =
      .ok (q.unfilledVerdict historyCoversUntil) := by
  unfold unfilledVerdict
  split_ifs <;> rfl

theorem matchRecommendation_nil (h : q.eligiblePositionIds deals = []) :
    matchRecommendation R q deals .ok historyCoversUntil =
      .ok (q.unfilledVerdict historyCoversUntil) := by
  rw [← construct_unfilledVerdict]
  unfold matchRecommendation unfilledVerdict
  rw [if_neg (by simp), h]
  split_ifs <;> rfl

theorem matchRecommendation_singleton (h : q.eligiblePositionIds deals = [p]) :
    matchRecommendation R q deals .ok historyCoversUntil =
      (q.volumeVerdict p
        (R.sum ((q.group deals p).map fun deal => (deal.volume : ℚ)))).construct := by
  unfold matchRecommendation volumeVerdict
  rw [if_neg (by simp), h]
  dsimp only
  split_ifs <;> rfl

theorem matchRecommendation_ambiguous (h : 2 ≤ (q.eligiblePositionIds deals).length) :
    matchRecommendation R q deals .ok historyCoversUntil =
      .ok { outcome := .ambiguous, candidatePositionIds := q.eligiblePositionIds deals } := by
  have hpairwise : (q.eligiblePositionIds deals).Pairwise (· < ·) := eligiblePositionIds_pairwise
  have hconstruct : MT5MatchResult.construct
      { outcome := .ambiguous, candidatePositionIds := q.eligiblePositionIds deals } =
      .ok { outcome := .ambiguous, candidatePositionIds := q.eligiblePositionIds deals } := by
    refine MT5MatchResult.construct_ok_iff.mpr ⟨?_, rfl⟩
    have hsorted : (q.eligiblePositionIds deals).Pairwise (· ≤ ·) := hpairwise.imp le_of_lt
    have hnodup : (q.eligiblePositionIds deals).Nodup := hpairwise.imp ne_of_lt
    simp [MT5MatchResult.validate, h, hsorted, hnodup]
  rw [← hconstruct]
  unfold matchRecommendation
  rw [if_neg (by simp)]
  match hids : q.eligiblePositionIds deals with
  | [] => rw [hids] at h; exact absurd h (by simp)
  | [p] => rw [hids] at h; exact absurd h (by simp)
  | _ :: _ :: _ => rfl

/-- The verdict tells how the volume compares with the approved one. -/
theorem volumeVerdict_inj {total total' : ℚ}
    (h : q.volumeVerdict p total = q.volumeVerdict p total') :
    (total = q.approvedBrokerVolume ↔ total' = q.approvedBrokerVolume) ∧
      (total < q.approvedBrokerVolume ↔ total' < q.approvedBrokerVolume) := by
  unfold volumeVerdict at h
  split_ifs at h
  all_goals first
    | exact ⟨iff_of_false ‹_› ‹_›, iff_of_true ‹_› ‹_›⟩
    | exact ⟨iff_of_false ‹_› ‹_›, iff_of_false ‹_› ‹_›⟩
    | exact ⟨iff_of_true ‹_› ‹_›, iff_of_false (Eq.not_lt ‹_›) (Eq.not_lt ‹_›)⟩
    | exact absurd (congrArg MT5MatchResult.outcome h) (by simp)

theorem volumeVerdict_congr {total total' : ℚ}
    (heq : total = q.approvedBrokerVolume ↔ total' = q.approvedBrokerVolume)
    (hlt : total < q.approvedBrokerVolume ↔ total' < q.approvedBrokerVolume) :
    q.volumeVerdict p total = q.volumeVerdict p total' := by
  simp only [volumeVerdict, heq, hlt]

theorem exists_perm_group {fills : List MT5Deal} (h : fills.Perm (q.group deals p)) :
    ∃ deals' : List MT5Deal, deals'.Perm deals ∧ q.group deals' p = fills := by
  refine ⟨fills ++ deals.filter fun deal =>
    ! decide (q.QualifiesStructurally deal ∧ deal.positionId = p), ?_, ?_⟩
  · exact (h.append_right _).trans (List.filter_append_perm _ deals)
  · have hown : fills.filter
        (fun deal => q.QualifiesStructurally deal ∧ deal.positionId = p) = fills := by
      refine List.filter_eq_self.mpr fun deal hdeal => ?_
      exact decide_eq_true (mem_group.mp (h.mem_iff.mp hdeal)).2
    rw [group, List.filter_append, hown, List.filter_filter]
    simp

/-- Only one of the cases of the description applies. -/
theorem describes_of_onlyEligible (h : q.OnlyEligible deals p) :
    q.Describes deals historyCoversUntil (q.volumeVerdict p (q.totalVolume deals p)) := by
  refine ⟨fun a b ha hb hne => ?_, fun p' hp' => ?_, fun hnone => ?_⟩
  · exact absurd (((h a).mp ha).trans ((h b).mp hb).symm) hne
  · rw [(h p').mp ((hp' p').mpr rfl)]
  · exact absurd ((h p).mpr rfl) (hnone p)

theorem describes_of_ambiguous (h : 2 ≤ (q.eligiblePositionIds deals).length) :
    q.Describes deals historyCoversUntil
      { outcome := .ambiguous, candidatePositionIds := q.eligiblePositionIds deals } := by
  refine ⟨fun _ _ _ _ _ => ⟨rfl, rfl, eligiblePositionIds_pairwise,
    fun _ => mem_eligiblePositionIds_iff⟩, fun p hp => ?_, fun hnone => ?_⟩
  · rw [onlyEligible_iff.mp hp] at h
    exact absurd h (by simp)
  · have hnil : q.eligiblePositionIds deals = [] :=
      List.eq_nil_iff_forall_not_mem.mpr fun p hp => hnone p (mem_eligiblePositionIds_iff.mp hp)
    rw [hnil] at h
    exact absurd h (by simp)

theorem describes_of_nil (h : q.eligiblePositionIds deals = []) :
    q.Describes deals historyCoversUntil (q.unfilledVerdict historyCoversUntil) := by
  have hnone (p : ℕ) : ¬ q.Eligible deals p := by
    rw [← mem_eligiblePositionIds_iff, h]
    exact List.not_mem_nil
  exact ⟨fun p _ hp => absurd hp (hnone p), fun p hp => absurd ((hp p).mpr rfl) (hnone p),
    fun _ => rfl⟩

end MatchRequest

section

open MatchRequest

variable {R : Rounding} {q : MatchRequest} {deals : List MT5Deal} {historyCoversUntil : Timestamp}

theorem comparesExactly_of_matchesExactly (h : MatchesExactly R q deals historyCoversUntil) :
    ComparesExactly R q deals := by
  obtain ⟨r, hdescribes, hrun⟩ := h
  intro p honly
  have hverdict := hdescribes.single p honly
  have hfills (fills : List MT5Deal) (hfills : fills.Perm (q.group deals p)) :
      q.volumeVerdict p (R.sum (fills.map fun deal => (deal.volume : ℚ))) =
          q.volumeVerdict p (q.totalVolume deals p) ∧
        (R.sum (fills.map fun deal => (deal.volume : ℚ)) = q.approvedBrokerVolume → p ≠ 0) := by
    obtain ⟨deals', hperm, hgroup⟩ := exists_perm_group hfills
    have hids : q.eligiblePositionIds deals' = [p] :=
      (eligiblePositionIds_perm hperm).trans (onlyEligible_iff.mp honly)
    have hresult := hrun deals' hperm
    rw [matchRecommendation_singleton hids, hgroup, construct_volumeVerdict] at hresult
    exact ⟨hresult.1.symm.trans hverdict, hresult.2⟩
  refine ⟨fun fills hperm => volumeVerdict_inj (hfills fills hperm).1, fun htotal => ?_⟩
  obtain ⟨hsame, hpositive⟩ := hfills (q.group deals p) (List.Perm.refl _)
  exact hpositive ((volumeVerdict_inj hsame).1.mpr htotal)

theorem matchesExactly_of_comparesExactly (h : ComparesExactly R q deals) :
    MatchesExactly R q deals historyCoversUntil := by
  match hids : q.eligiblePositionIds deals with
  | [] =>
      refine ⟨_, describes_of_nil hids, fun deals' hperm => ?_⟩
      exact matchRecommendation_nil ((eligiblePositionIds_perm hperm).trans hids)
  | [p] =>
      have honly := onlyEligible_iff.mpr hids
      refine ⟨_, describes_of_onlyEligible honly, fun deals' hperm => ?_⟩
      obtain ⟨hcompare, hpositive⟩ := h p honly
      obtain ⟨heq, hlt⟩ := hcompare (q.group deals' p) (hperm.filter _)
      rw [matchRecommendation_singleton ((eligiblePositionIds_perm hperm).trans hids),
        construct_volumeVerdict]
      exact ⟨(volumeVerdict_congr heq hlt).symm, fun hsum => hpositive (heq.mp hsum)⟩
  | a :: b :: rest =>
      have htwo : 2 ≤ (q.eligiblePositionIds deals).length := by rw [hids]; simp
      refine ⟨_, describes_of_ambiguous htwo, fun deals' hperm => ?_⟩
      have hsame := eligiblePositionIds_perm (q := q) hperm
      rw [matchRecommendation_ambiguous (hsame ▸ htwo), hsame]

end

/-- **Matching is exact and order-free** wherever rounding does not change how the fills compare
with the approved volume, and a match is not one with position id 0; and only there. -/
theorem matchesExactly_iff (R : Rounding) (q : MatchRequest) (deals : List MT5Deal)
    (historyCoversUntil : Timestamp) :
    MatchesExactly R q deals historyCoversUntil ↔ ComparesExactly R q deals :=
  ⟨comparesExactly_of_matchesExactly, matchesExactly_of_comparesExactly⟩

section Units

variable {q : MatchRequest} {deals : List MT5Deal} {e : ℤ}

/-- Volumes in units of a power of ten compare exactly, as long as they add up to no more than
`10 ^ 28` units. -/
theorem comparesExactly_iff_of_units
    (hunits : ∀ deal ∈ deals, ∃ k : ℤ, (deal.volume : ℚ) = k * 10 ^ e)
    (htotal : ∀ p, q.totalVolume deals p ≤ 10 ^ 28 * 10 ^ e) :
    ComparesExactly .decimal28 q deals ↔
      (q.OnlyEligible deals 0 → q.totalVolume deals 0 ≠ q.approvedBrokerVolume) := by
  refine ⟨fun h honly htotal => (h 0 honly).2 htotal rfl, fun hzero p honly => ?_⟩
  refine ⟨fun fills hfills => ?_, fun hvolume hp => hzero (hp ▸ honly) (hp ▸ hvolume)⟩
  have hsum : Rounding.decimal28.sum (fills.map fun deal => (deal.volume : ℚ)) =
      q.totalVolume deals p := by
    have hexact : Rounding.decimal28.sum (fills.map fun deal => (deal.volume : ℚ)) =
        (fills.map fun deal => (deal.volume : ℚ)).sum := by
      refine Rounding.sum_significant_multiples (e := e) (fun x hx => ?_) ?_
      · obtain ⟨deal, hdeal, rfl⟩ := List.mem_map.mp hx
        exact hunits deal (MatchRequest.mem_group.mp (hfills.mem_iff.mp hdeal)).1
      · have habs : (fills.map fun deal => (deal.volume : ℚ)).map abs =
            fills.map fun deal => (deal.volume : ℚ) := by
          rw [List.map_map]
          exact List.map_congr_left fun deal _ => abs_of_nonneg deal.volume.property
        rw [habs, (hfills.map _).sum_eq]
        exact htotal p
    rw [hexact, (hfills.map _).sum_eq]
    rfl
  rw [hsum]
  exact ⟨Iff.rfl, Iff.rfl⟩

/-- **In units of a power of ten, matching is exact and order-free** unless the one eligible position
has the id 0 and the approved volume. -/
theorem matchesExactly_iff_of_units
    (hunits : ∀ deal ∈ deals, ∃ k : ℤ, (deal.volume : ℚ) = k * 10 ^ e)
    (htotal : ∀ p, q.totalVolume deals p ≤ 10 ^ 28 * 10 ^ e) (historyCoversUntil : Timestamp) :
    MatchesExactly .decimal28 q deals historyCoversUntil ↔
      (q.OnlyEligible deals 0 → q.totalVolume deals 0 ≠ q.approvedBrokerVolume) :=
  Iff.trans ⟨comparesExactly_of_matchesExactly, matchesExactly_of_comparesExactly⟩
    (comparesExactly_iff_of_units hunits htotal)

end Units

/-! A fill without a position, and fills that differ by 28 digits. -/

/-- A recommendation to buy. -/
def buyRequest (approvedBrokerVolume : PositiveRat) : MatchRequest where
  symbol := btcusdt
  direction := .long
  signalTime := 0
  validUntil := signalExecutionWindow
  approvedBrokerVolume
  preExistingPositionIds := []
  alreadyClaimedPositionIds := []

/-- An opening fill. -/
def openingFill (ticket : ℕ+) (positionId : ℕ) (volume : Volume) : MT5Deal where
  ticket
  positionId
  time := 1
  symbol := some btcusdt
  dealType := .buy
  entry := .entryIn
  volume
  price := 1

theorem vast_positive : (0 : ℚ) < 10 ^ 28 := by norm_num

/-- A large fill, and two small ones. -/
def digitFills : List MT5Deal :=
  [openingFill 1 7 (10 ^ 28), openingFill 2 7 (5 : ℕ), openingFill 3 7 (5 : ℕ)]

/-- The match with position id 0 raises, and the order of the fills decides about a match. -/
theorem matching_zero_and_order :
    (matchRecommendation .decimal28 (buyRequest ⟨1, one_positive⟩) [openingFill 1 0 1] .ok
      1).isOk = false ∧
    ¬ MatchesExactly .decimal28 (buyRequest ⟨1, one_positive⟩) [openingFill 1 0 1] 1 ∧
    matchRecommendation .decimal28 (buyRequest ⟨10 ^ 28, vast_positive⟩) digitFills .ok 1 =
      .ok { outcome := .matched, matchedPositionId := some 7 } ∧
    matchRecommendation .decimal28 (buyRequest ⟨10 ^ 28, vast_positive⟩) digitFills.reverse .ok 1 =
      .ok { outcome := .volumeMismatch, candidatePositionIds := [7] } := by
  have hzero : (matchRecommendation .decimal28 (buyRequest ⟨1, one_positive⟩) [openingFill 1 0 1] .ok
    1).isOk = false := by decide +kernel
  refine ⟨hzero, ?_, by decide +kernel, by decide +kernel⟩
  rintro ⟨r, -, hrun⟩
  rw [hrun _ (List.Perm.refl _)] at hzero
  cases hzero

end TradingAdvisor
