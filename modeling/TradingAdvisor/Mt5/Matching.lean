import TradingAdvisor.Mt5.History
import Mathlib.Data.List.Dedup
import Mathlib.Data.List.Sort

/-!
# Matching a recommendation with a broker position

A position that the history opened for a recommendation is an eligible lifecycle. Exactly one of
them with exactly the approved volume is a match; anything else is inconclusive.

* `QualifiesStructurally`, `IsFirstLifecycleConsistent` — when a deal counts as an opening fill;
* `matchRecommendation` — one matching attempt;
* `matchRecommendation_matched` — what a match says of its position.
-/

namespace TradingAdvisor

open SignificantDigits Checks

/-- The deal type that opens a position of this direction. -/
def TradeDirection.dealType : TradeDirection → Option MT5DealType
  | long => some .buy
  | short => some .sell
  | neutral | wait => none

/-- Outcome of a matching attempt. -/
inductive MT5MatchOutcome
  | matched
  | ambiguous
  | partialFill
  | volumeMismatch
  | noCandidateYet
  | expiredConfirmedUnfilled
  | readUnavailable
  deriving DecidableEq, Repr

/-- The value of the outcome in messages. -/
def MT5MatchOutcome.value : MT5MatchOutcome → String
  | matched => "MATCHED"
  | ambiguous => "AMBIGUOUS"
  | partialFill => "PARTIAL_FILL"
  | volumeMismatch => "VOLUME_MISMATCH"
  | noCandidateYet => "NO_CANDIDATE_YET"
  | expiredConfirmedUnfilled => "EXPIRED_CONFIRMED_UNFILLED"
  | readUnavailable => "READ_UNAVAILABLE"

/-- One matching attempt. -/
structure MT5MatchResult where
  outcome : MT5MatchOutcome
  matchedPositionId : Option ℕ := none
  candidatePositionIds : List ℕ := []
  deriving DecidableEq, Repr

/-- The checks of a matching attempt. -/
def MT5MatchResult.validate (r : MT5MatchResult) : Except ModelError Unit := do
  check (∀ p ∈ r.matchedPositionId, 0 < p)
    (ModelError.validation "matched_position_id must be greater than 0")
  match r.outcome with
  | .matched =>
      check (r.matchedPositionId ≠ none)
        (ModelError.validation "MATCHED requires matched_position_id")
      check (r.candidatePositionIds = [])
        (.validation "MATCHED must not carry candidate_position_ids")
  | .ambiguous =>
      check (r.matchedPositionId = none)
        (ModelError.validation "AMBIGUOUS must not carry matched_position_id")
      check (2 ≤ r.candidatePositionIds.length)
        (.validation "AMBIGUOUS requires at least two candidate_position_ids")
  | .partialFill | .volumeMismatch =>
      check (r.matchedPositionId = none)
        (ModelError.validation (r.outcome.value ++ " must not carry matched_position_id"))
      check (r.candidatePositionIds ≠ [])
        (.validation (r.outcome.value ++ " requires at least one candidate_position_id"))
  | _ =>
      check (r.matchedPositionId = none)
        (ModelError.validation (r.outcome.value ++ " must not carry matched_position_id"))
      check (r.candidatePositionIds = [])
        (.validation (r.outcome.value ++ " must not carry candidate_position_ids"))
  check (r.candidatePositionIds.Pairwise (· ≤ ·))
    (.validation "candidate_position_ids must be sorted ascending")
  check r.candidatePositionIds.Nodup
    (.validation "candidate_position_ids must not contain duplicates")

/-- The recommendation's side of a matching attempt. -/
structure MatchRequest where
  symbol : Symbol
  direction : TradeDirection
  signalTime : Timestamp
  validUntil : Timestamp
  approvedBrokerVolume : PositiveRat
  preExistingPositionIds : List ℕ
  alreadyClaimedPositionIds : List ℕ

namespace MatchRequest

variable (q : MatchRequest)

/-- The deal is an opening fill the recommendation could own. -/
def QualifiesStructurally (deal : MT5Deal) : Prop :=
  q.direction.dealType = some deal.dealType ∧
    deal.entry = .entryIn ∧
    deal.symbol = some q.symbol ∧
    (q.signalTime ≤ deal.time ∧ deal.time ≤ q.validUntil) ∧
    deal.positionId ∉ q.preExistingPositionIds ∧
    deal.positionId ∉ q.alreadyClaimedPositionIds

instance (deal : MT5Deal) : Decidable (q.QualifiesStructurally deal) :=
  inferInstanceAs (Decidable (_ ∧ _ ∧ _ ∧ _ ∧ _ ∧ _))

/-- The opening fills of one position, in the order of the history. -/
def group (deals : List MT5Deal) (positionId : ℕ) : List MT5Deal :=
  deals.filter fun deal => q.QualifiesStructurally deal ∧ deal.positionId = positionId

/-- The opening fills contain the earliest deal of their position. -/
def IsFirstLifecycleConsistent (deals : List MT5Deal) (positionId : ℕ) : Prop :=
  ((deals.filter fun deal => deal.positionId = positionId).map MT5Deal.time).min? =
    ((q.group deals positionId).map MT5Deal.time).min?

instance (deals : List MT5Deal) (positionId : ℕ) :
    Decidable (q.IsFirstLifecycleConsistent deals positionId) :=
  inferInstanceAs (Decidable (_ = _))

/-- The positions the recommendation could own, in ascending order. -/
def eligiblePositionIds (deals : List MT5Deal) : List ℕ :=
  (((deals.filter fun deal => q.QualifiesStructurally deal).map MT5Deal.positionId).dedup.filter
    fun positionId => q.IsFirstLifecycleConsistent deals positionId).insertionSort (· ≤ ·)

end MatchRequest

/-- Construct a matching attempt. -/
def MT5MatchResult.construct (r : MT5MatchResult) : Except ModelError MT5MatchResult := do
  r.validate
  return r

/-- One matching attempt over the history read up to `historyCoversUntil`. -/
def matchRecommendation (R : Rounding) (q : MatchRequest) (deals : List MT5Deal)
    (status : MT5HistoryReadStatus) (historyCoversUntil : Timestamp) :
    Except ModelError MT5MatchResult :=
  if status ≠ .ok then MT5MatchResult.construct { outcome := .readUnavailable }
  else
    match q.eligiblePositionIds deals with
    | [] =>
        if q.validUntil ≤ historyCoversUntil then
          MT5MatchResult.construct { outcome := .expiredConfirmedUnfilled }
        else MT5MatchResult.construct { outcome := .noCandidateYet }
    | [positionId] =>
        let totalOpeningVolume := R.sum ((q.group deals positionId).map fun deal => (deal.volume : ℚ))
        if totalOpeningVolume = q.approvedBrokerVolume then
          MT5MatchResult.construct { outcome := .matched, matchedPositionId := some positionId }
        else if totalOpeningVolume < q.approvedBrokerVolume then
          MT5MatchResult.construct
            { outcome := .partialFill, candidatePositionIds := [positionId] }
        else
          MT5MatchResult.construct
            { outcome := .volumeMismatch, candidatePositionIds := [positionId] }
    | positionIds =>
        MT5MatchResult.construct { outcome := .ambiguous, candidatePositionIds := positionIds }

variable {R : Rounding} {q : MatchRequest} {deals : List MT5Deal} {status : MT5HistoryReadStatus}
  {historyCoversUntil : Timestamp} {r : MT5MatchResult}

theorem MT5MatchResult.construct_ok_iff {r' : MT5MatchResult} :
    r.construct = .ok r' ↔ r.validate = .ok () ∧ r = r' := by
  simp only [MT5MatchResult.construct, unit_bind_ok_iff, pure, Except.pure, Except.ok.injEq]

theorem MatchRequest.mem_eligiblePositionIds {p : ℕ} :
    p ∈ q.eligiblePositionIds deals ↔
      (∃ deal ∈ deals, q.QualifiesStructurally deal ∧ deal.positionId = p) ∧
        q.IsFirstLifecycleConsistent deals p := by
  simp [MatchRequest.eligiblePositionIds, and_assoc]

/-- A match is the only eligible position, opened with exactly the approved volume. -/
theorem matchRecommendation_matched
    (h : matchRecommendation R q deals status historyCoversUntil = .ok r)
    (hmatched : r.outcome = .matched) :
    ∃ p, r.matchedPositionId = some p ∧ status = .ok ∧ q.eligiblePositionIds deals = [p] ∧
      R.sum ((q.group deals p).map fun deal => (deal.volume : ℚ)) = q.approvedBrokerVolume := by
  unfold matchRecommendation at h
  split at h
  · cases (MT5MatchResult.construct_ok_iff.mp h).2
    cases hmatched
  · next hstatus =>
    rw [not_not] at hstatus
    split at h
    · split_ifs at h <;> cases (MT5MatchResult.construct_ok_iff.mp h).2 <;> cases hmatched
    · next p hp =>
        dsimp only at h
        split_ifs at h with hvolume
        · cases (MT5MatchResult.construct_ok_iff.mp h).2
          exact ⟨p, rfl, hstatus, hp, hvolume⟩
        · cases (MT5MatchResult.construct_ok_iff.mp h).2
          cases hmatched
        · cases (MT5MatchResult.construct_ok_iff.mp h).2
          cases hmatched
    · cases (MT5MatchResult.construct_ok_iff.mp h).2
      cases hmatched

/-- A matched position was not claimed. -/
theorem matched_notMem_claimed
    (h : matchRecommendation R q deals status historyCoversUntil = .ok r)
    (hmatched : r.outcome = .matched) {p : ℕ} (hp : r.matchedPositionId = some p) :
    p ∉ q.alreadyClaimedPositionIds := by
  obtain ⟨p', hp', -, heligible, -⟩ := matchRecommendation_matched h hmatched
  rw [hp'] at hp
  cases hp
  have hmem : p ∈ q.eligiblePositionIds deals := by rw [heligible]; exact List.mem_singleton_self p
  obtain ⟨⟨deal, -, hqualifies, rfl⟩, -⟩ := MatchRequest.mem_eligiblePositionIds.mp hmem
  exact hqualifies.2.2.2.2.2

end TradingAdvisor
