import TradingAdvisor.Lib.Keyed
import TradingAdvisor.Mt5.ExactMatching
import TradingAdvisor.Mt5.Lifecycle
import TradingAdvisor.Mt5.TradingDay

/-!
# Typed results

Deals that the history admits may still give values that the result models refuse. For each
assessment over a history: when it returns a result, and when it raises.

* `RealizedDailyPnL.validate` — the checks of a realized PnL, which it always passes;
* `MatchRequest.Matches` — the position that is matched, if it is not 0;
* `Followable` — a lifecycle that a recommendation can take over;
* `ReturnsTyped`, `Admits` — every assessment returns a result, and the condition for it;
* **`returnsTyped_iff`**: the one is the other.
-/

namespace TradingAdvisor

open SignificantDigits Checks MatchRequest

/-! ## The realized PnL of a day -/

/-- The checks of a realized PnL. -/
def RealizedDailyPnL.validate (a : RealizedDailyPnL) : Except ModelError Unit := do
  match a.outcome with
  | .ready =>
      check (a.realizedDailyPnl ≠ none) (ModelError.validation "READY requires realized_daily_pnl")
      check (a.blockedReasons = []) (.validation "READY must not carry blocked_reasons")
      check (a.unsafeDealTickets = []) (.validation "READY must not carry unsafe_deal_tickets")
  | .blocked =>
      check (a.realizedDailyPnl = none)
        (ModelError.validation "BLOCKED must not carry realized_daily_pnl")
      check (a.blockedReasons ≠ []) (.validation "BLOCKED requires at least one blocked_reason")
      check (a.unsafeDealTickets ≠ [])
        (.validation "BLOCKED requires at least one unsafe deal ticket")
  check ((a.blockedReasons.map MT5RealizedPnLBlockReason.index).Pairwise (· ≤ ·))
    (ModelError.validation
      "blocked_reasons must be in canonical MT5RealizedPnLBlockReason order")
  check (a.blockedReasons.map MT5RealizedPnLBlockReason.index).Nodup
    (.validation "blocked_reasons must not contain duplicates")
  check a.unsafeDealTickets.Nodup
    (.validation "unsafe_deal_tickets must not contain duplicates")

section Results

variable {R : Rounding} {deals : List MT5Deal} {windowStart windowEnd : Timestamp}

theorem computeRealizedDailyPnl_valid (htickets : (deals.map MT5Deal.ticket).Nodup) :
    (computeRealizedDailyPnl R deals windowStart windowEnd).validate = .ok () := by
  unfold computeRealizedDailyPnl
  dsimp only
  generalize hblocked : (deals.map fun deal =>
    (deal.ticket, dealVerdict R windowStart windowEnd deal)).filterMap _ = blocked
  have hsublist : (blocked.map Prod.fst).Sublist (deals.map MT5Deal.ticket) := by
    rw [← hblocked, List.filterMap_map]
    refine Keyed.map_filterMap_sublist (fun deal entry hentry => ?_) deals
    dsimp only [Function.comp] at hentry
    split at hentry
    · exact (congrArg Prod.fst (Option.some.inj hentry)).symm
    · cases hentry
  have hdistinct := htickets.sublist hsublist
  by_cases h : blocked = []
  · rw [if_neg (not_not.mpr h)]
    rfl
  · rw [if_pos h]
    obtain ⟨⟨ticket, reason⟩, rest, rfl⟩ := List.exists_cons_of_ne_nil h
    have hreasons : MT5RealizedPnLBlockReason.order.filter
        (fun other => other ∈ (((ticket, reason) :: rest).map Prod.snd)) ≠ [] :=
      List.ne_nil_of_mem (List.mem_filter.mpr ⟨mem_order reason, by simp⟩)
    refine check_bind_ok.mpr ⟨rfl, check_bind_ok.mpr ⟨hreasons, check_bind_ok.mpr ⟨by simp, ?_⟩⟩⟩
    refine check_bind_ok.mpr ⟨?_, check_bind_ok.mpr ⟨?_, check_ok_iff.mpr hdistinct⟩⟩
    · dsimp only
      exact order_filter_sorted _
    · dsimp only
      exact order_filter_nodup _

end Results

/-! ## A matching attempt -/

/-- The position is the only one the recommendation could own, and it has the approved volume. -/
def MatchRequest.Matches (q : MatchRequest) (R : Rounding) (deals : List MT5Deal) (p : ℕ) : Prop :=
  q.OnlyEligible deals p ∧
    R.sum ((q.group deals p).map fun deal => (deal.volume : ℚ)) = q.approvedBrokerVolume

section Matching

variable {R : Rounding} {q : MatchRequest} {deals : List MT5Deal} {status : MT5HistoryReadStatus}
  {historyCoversUntil : Timestamp} {p : ℕ}

/-- What a matching attempt over a complete read gives. -/
theorem matchRecommendation_cases (R : Rounding) (q : MatchRequest) (deals : List MT5Deal)
    (historyCoversUntil : Timestamp) :
    (∃ p, q.Matches R deals p ∧ matchRecommendation R q deals .ok historyCoversUntil =
      MT5MatchResult.construct { outcome := .matched, matchedPositionId := some p }) ∨
    (¬ ∃ p, q.Matches R deals p) ∧
      ∃ r, matchRecommendation R q deals .ok historyCoversUntil = .ok r ∧ r.outcome ≠ .matched := by
  match hids : q.eligiblePositionIds deals with
  | [] =>
      right
      refine ⟨fun ⟨p, honly, _⟩ => ?_, _, matchRecommendation_nil hids, ?_⟩
      · rw [onlyEligible_iff.mp honly] at hids
        cases hids
      · unfold unfilledVerdict
        split_ifs <;> simp
  | [p] =>
      by_cases htotal : R.sum ((q.group deals p).map fun deal => (deal.volume : ℚ)) =
          q.approvedBrokerVolume
      · refine .inl ⟨p, ⟨onlyEligible_iff.mpr hids, htotal⟩, ?_⟩
        rw [matchRecommendation_singleton hids, volumeVerdict, if_pos htotal]
      · refine .inr ⟨fun ⟨p', honly, htotal'⟩ => ?_,
          q.volumeVerdict p (R.sum ((q.group deals p).map fun deal => (deal.volume : ℚ))), ?_, ?_⟩
        · have hp : p = p' := by simpa [hids] using onlyEligible_iff.mp honly
          exact htotal (hp ▸ htotal')
        · rw [matchRecommendation_singleton hids]
          exact construct_volumeVerdict.mpr ⟨rfl, fun h => absurd h htotal⟩
        · unfold volumeVerdict
          rw [if_neg htotal]
          split_ifs <;> simp
  | a :: b :: rest =>
      have htwo : 2 ≤ (q.eligiblePositionIds deals).length := by rw [hids]; simp
      refine .inr ⟨fun ⟨p, honly, _⟩ => ?_, _, matchRecommendation_ambiguous htwo, by simp⟩
      rw [onlyEligible_iff.mp honly] at htwo
      simp at htwo

theorem matchRecommendation_isOk_iff : (∃ r, matchRecommendation R q deals status
    historyCoversUntil = .ok r) ↔ (status = .ok → ¬ q.Matches R deals 0) := by
  by_cases hstatus : status = .ok
  · subst hstatus
    rw [forall_prop_of_true rfl]
    rcases matchRecommendation_cases R q deals historyCoversUntil with
      ⟨p, hmatches, hresult⟩ | ⟨hnone, r, hresult, -⟩
    · rw [hresult]
      have hzero : q.Matches R deals 0 ↔ p = 0 :=
        ⟨fun h => (h.1 p).mp ((hmatches.1 p).mpr rfl), fun h => h ▸ hmatches⟩
      rw [hzero]
      rcases Nat.eq_zero_or_pos p with rfl | hp
      · exact iff_of_false (fun ⟨r, hr⟩ => by cases hr) (not_not.mpr rfl)
      · refine iff_of_true ⟨_, MT5MatchResult.construct_ok_iff.mpr ⟨?_, rfl⟩⟩ hp.ne'
        simp [MT5MatchResult.validate, hp]
    · exact iff_of_true ⟨r, hresult⟩ fun h => hnone ⟨0, h⟩
  · refine iff_of_true ⟨{ outcome := .readUnavailable }, ?_⟩ fun h => absurd h hstatus
    unfold matchRecommendation
    rw [if_pos hstatus]
    rfl

end Matching

/-! ## A matched recommendation -/

/-- The position was opened at the instant, or before. -/
def OpenedBy (deals : List MT5Deal) (positionId : ℕ) (t : Timestamp) : Prop :=
  ∃ deal ∈ tradingDeals positionId deals, deal.entry = .entryIn ∧ deal.time ≤ t

/-- A recommendation can take over the lifecycle: it was opened, was not closed before it was
opened, and an open one was opened before the exit that the record still carries. -/
structure Followable (R : Rounding) (deals : List MT5Deal) (positionId : ℕ)
    (exitTime : Option Timestamp) : Prop where
  opened : LifecycleOpened deals positionId
  closed : netVolume R (tradingDeals positionId deals) ≤ 0 →
    ∃ deal ∈ tradingDeals positionId deals, deal.entry ≠ .entryIn ∧
      OpenedBy deals positionId deal.time
  reopened : 0 < netVolume R (tradingDeals positionId deals) →
    ∀ exit ∈ exitTime, OpenedBy deals positionId exit

section Following

variable {R : Rounding} {h : HistoryRead} {t : MT5TrackedRecommendation} {p : ℕ}
  {deals : List MT5Deal}

theorem openedBy_iff {entry u : Timestamp}
    (hentry : (((tradingDeals p deals).filter fun deal => deal.entry = .entryIn).map
      MT5Deal.time).min? = some entry) : OpenedBy deals p u ↔ entry ≤ u := by
  obtain ⟨hmem, hle⟩ := List.min?_eq_some_iff.mp hentry
  constructor
  · rintro ⟨deal, hdeal, hin, htime⟩
    have hfirst := hle _ (List.mem_map_of_mem (List.mem_filter.mpr ⟨hdeal, decide_eq_true hin⟩))
    exact hfirst.trans htime
  · intro hu
    obtain ⟨deal, hdeal, rfl⟩ := List.mem_map.mp hmem
    obtain ⟨hdeal, hin⟩ := List.mem_filter.mp hdeal
    exact ⟨deal, hdeal, of_decide_eq_true hin, hu⟩

theorem closedAfter_iff {entry : Timestamp}
    (hentry : (((tradingDeals p deals).filter fun deal => deal.entry = .entryIn).map
      MT5Deal.time).min? = some entry)
    (hclosing : ∃ deal ∈ tradingDeals p deals, deal.entry ≠ .entryIn) :
    (∃ deal ∈ tradingDeals p deals, deal.entry ≠ .entryIn ∧ OpenedBy deals p deal.time) ↔
      ∀ exit ∈ (((tradingDeals p deals).filter fun deal => deal.entry ≠ .entryIn).map
        MT5Deal.time).max?, entry ≤ exit := by
  have htimes {deal : MT5Deal} (hdeal : deal ∈ tradingDeals p deals)
      (hout : deal.entry ≠ .entryIn) :
      deal.time ∈ ((tradingDeals p deals).filter fun deal => deal.entry ≠ .entryIn).map
        MT5Deal.time :=
    List.mem_map_of_mem (List.mem_filter.mpr ⟨hdeal, decide_eq_true hout⟩)
  constructor
  · rintro ⟨deal, hdeal, hout, hopened⟩ exit hexit
    exact ((openedBy_iff hentry).mp hopened).trans
      ((List.max?_eq_some_iff.mp hexit).2 _ (htimes hdeal hout))
  · intro hexits
    obtain ⟨closing, hclosing, hout⟩ := hclosing
    obtain ⟨exit, hexit⟩ := Option.isSome_iff_exists.mp (List.isSome_max?_iff.mpr
      (List.ne_nil_of_mem (htimes hclosing hout)))
    obtain ⟨last, hlast, rfl⟩ := List.mem_map.mp (List.max?_eq_some_iff.mp hexit).1
    obtain ⟨hmem, hlastout⟩ := List.mem_filter.mp hlast
    exact ⟨last, hmem, of_decide_eq_true hlastout, (openedBy_iff hentry).mpr (hexits _ hexit)⟩

theorem exists_entryTime (hopened : LifecycleOpened deals p) :
    ∃ entry, (((tradingDeals p deals).filter fun deal => deal.entry = .entryIn).map
      MT5Deal.time).min? = some entry := by
  obtain ⟨deal, hdeal, hin, -⟩ := hopened
  refine Option.isSome_iff_exists.mp (List.isSome_min?_iff.mpr
    (List.ne_nil_of_mem (a := deal.time) ?_))
  exact List.mem_map_of_mem (List.mem_filter.mpr ⟨hdeal, decide_eq_true hin⟩)

theorem classifyTerminalStatus_mem (pnl : ℚ) :
    classifyTerminalStatus pnl ∈ [.opened, .win, .loss, .breakeven] := by
  unfold classifyTerminalStatus
  split_ifs <;> simp

/-- A matched recommendation stays valid with a valid record in a status after the match. -/
theorem validate_matched_iff {record : PositionRecord} {readAt : Option Timestamp}
    (hvalid : t.validate = .ok ()) (hmatched : t.matchedPositionId = some p)
    (hstatus : record.status ∈ [.opened, .win, .loss, .breakeven]) :
    ({ t with positionRecord := record, lastReadAt := readAt } :
      MT5TrackedRecommendation).validate = .ok () ↔ record.validate = .ok () := by
  unfold MT5TrackedRecommendation.validate at hvalid ⊢
  obtain ⟨-, hvalid⟩ := unit_bind_ok_iff.mp hvalid
  rw [unit_bind_ok_iff]
  refine and_iff_left ?_
  obtain ⟨hpositive, hvalid⟩ := check_bind_ok.mp hvalid
  obtain ⟨hnodup, hvalid⟩ := check_bind_ok.mp hvalid
  obtain ⟨hfresh, -⟩ := check_bind_ok.mp hvalid
  refine check_bind_ok.mpr ⟨hpositive, check_bind_ok.mpr ⟨hnodup, check_bind_ok.mpr ⟨hfresh, ?_⟩⟩⟩
  dsimp only
  rw [hmatched]
  exact check_ok_iff.mpr hstatus

theorem mem_tradingDeals_of_qualifies {q : MatchRequest} {deal : MT5Deal} (hdeal : deal ∈ deals)
    (hqualifies : q.QualifiesStructurally deal) (hp : deal.positionId = p) :
    deal ∈ tradingDeals p deals := by
  have htype := hqualifies.1
  have hnot : deal.dealType ≠ .nonTrading := by
    intro heq
    rw [heq] at htype
    cases hdirection : q.direction <;> rw [hdirection] at htype <;> cases htype
  simp [tradingDeals, hdeal, hp, hnot]

theorem exists_construct_iff :
    (∃ t', t.construct = .ok t') ↔ t.validate = .ok () := by
  simp only [MT5TrackedRecommendation.construct_ok_iff]
  exact ⟨fun ⟨_, hvalid, _⟩ => hvalid, fun hvalid => ⟨t, hvalid, rfl⟩⟩

theorem PositionRecord.validate_iff {record : PositionRecord} : record.validate = .ok () ↔
    (∀ q ∈ record.actualEntry, 0 ≤ q) ∧ (∀ q ∈ record.exitPrice, 0 ≤ q) ∧
      record.signalTime < record.validUntil ∧
      ∀ entry ∈ record.actualEntryTime, ∀ exit ∈ record.exitTime, entry ≤ exit := by
  simp only [PositionRecord.validate, check_bind_ok, check_ok_iff]

theorem validate_parts (hvalid : t.validate = .ok ()) (hmatched : t.matchedPositionId = some p) :
    t.positionRecord.validate = .ok () ∧ 0 < p ∧
      t.positionRecord.status ∈ [.opened, .win, .loss, .breakeven] := by
  unfold MT5TrackedRecommendation.validate at hvalid
  obtain ⟨hrecord, hvalid⟩ := unit_bind_ok_iff.mp hvalid
  obtain ⟨hpositive, hvalid⟩ := check_bind_ok.mp hvalid
  obtain ⟨-, hvalid⟩ := check_bind_ok.mp hvalid
  obtain ⟨-, hvalid⟩ := check_bind_ok.mp hvalid
  rw [hmatched] at hvalid hpositive
  exact ⟨hrecord, hpositive p rfl, check_ok_iff.mp hvalid⟩

/-- A matched recommendation is advanced exactly when it can take over the lifecycle. -/
theorem followLifecycle_isOk_iff (hvalid : t.validate = .ok ())
    (hmatched : t.matchedPositionId = some p) (htickets : (h.deals.map MT5Deal.ticket).Nodup) :
    (∃ t', followLifecycle R h t p = .ok t') ↔
      (h.status = .ok → ¬ LifecycleBlocked R h.deals p →
        Followable R h.deals p t.positionRecord.exitTime) := by
  obtain ⟨hrecord, hpositive, hstatus⟩ := validate_parts hvalid hmatched
  have hread : ∃ t', ({ t with lastReadAt := some h.asOf } :
      MT5TrackedRecommendation).construct = .ok t' :=
    exists_construct_iff.mpr ((validate_matched_iff hvalid hmatched hstatus).mpr hrecord)
  unfold followLifecycle
  dsimp only
  by_cases hok : h.status = .ok
  swap
  · rw [if_pos hok]
    exact iff_of_true hread fun hcon => absurd hcon hok
  rw [if_neg (not_not.mpr hok), forall_prop_of_true hok]
  by_cases hblocked : LifecycleBlocked R h.deals p
  · obtain ⟨a, ha, hout⟩ : ∃ a, reconstructPositionLifecycle R h.asOf p h.deals = .ok a ∧
        a.outcome = .blocked := reconstruct_of_blocked hpositive htickets hblocked
    rw [ha]
    dsimp only [bind, Except.bind]
    rw [hout]
    exact iff_of_true hread fun hcon => absurd hblocked hcon
  rw [forall_prop_of_true hblocked]
  by_cases hopened : LifecycleOpened h.deals p
  swap
  · refine iff_of_false (fun ⟨t', ht'⟩ => ?_) fun hfollowable => hopened hfollowable.opened
    obtain ⟨a, ha, -⟩ := bind_ok_iff.mp ht'
    exact reconstruct_of_unopened hblocked hopened ⟨a, ha⟩
  obtain ⟨a, ha, hready⟩ : ∃ a, reconstructPositionLifecycle R h.asOf p h.deals = .ok a ∧
      ReadyLifecycle R (tradingDeals p h.deals) a :=
    reconstruct_of_opened hpositive hblocked hopened
  obtain ⟨entry, hentry, hentryprice⟩ := hready.entry
  obtain ⟨entryTime, hentrytime⟩ := exists_entryTime hopened
  obtain ⟨-, hexitrecord, hordered, -⟩ := PositionRecord.validate_iff.mp hrecord
  rw [ha]
  dsimp only [bind, Except.bind]
  by_cases hnet : netVolume R (tradingDeals p h.deals) ≤ 0
  · obtain ⟨hclosed, ⟨exit, hexit, hexitprice⟩, hexittime⟩ := hready.closed hnet
    rw [hready.outcome, hclosed, hready.pnl]
    dsimp only
    rw [exists_construct_iff]
    refine (validate_matched_iff hvalid hmatched (classifyTerminalStatus_mem _)).trans ?_
    rw [PositionRecord.validate_iff]
    dsimp only
    rw [hentryprice, hexitprice, hready.entryTime, hentrytime, hexittime]
    have hcloses : (∃ deal ∈ tradingDeals p h.deals, deal.entry ≠ .entryIn ∧
        OpenedBy h.deals p deal.time) ↔ ∀ exit ∈ (((tradingDeals p h.deals).filter fun deal =>
          deal.entry ≠ .entryIn).map MT5Deal.time).max?, entryTime ≤ exit := by
      obtain ⟨closing, hclosing, hout, -⟩ := exists_closing hopened hnet
      exact closedAfter_iff hentrytime ⟨closing, hclosing, hout⟩
    simp only [Option.mem_some_iff, forall_eq', hentry, hexit, true_and, ← hcloses]
    refine ⟨fun hvalidrecord => ⟨hopened, fun _ => hvalidrecord.2, fun hpos => ?_⟩,
      fun hfollowable => ⟨hordered, hfollowable.closed hnet⟩⟩
    exact absurd hnet (not_le.mpr hpos)
  · rw [hready.outcome, hready.opened (not_le.mp hnet), hready.pnl]
    dsimp only
    rw [exists_construct_iff]
    refine (validate_matched_iff hvalid hmatched (by simp)).trans ?_
    rw [PositionRecord.validate_iff]
    dsimp only
    rw [hentryprice, hready.entryTime, hentrytime]
    simp only [Option.mem_some_iff, forall_eq', hentry, hordered, true_and,
      ← openedBy_iff hentrytime]
    exact ⟨fun hrecord => ⟨hopened, fun hle => absurd hle hnet, fun _ => hrecord.2⟩,
      fun hfollowable => ⟨hexitrecord, hfollowable.reopened (not_le.mp hnet)⟩⟩

/-! A fresh match needs less: the fills that were matched opened the position, and nothing of it is
earlier. -/

theorem opened_of_matches {q : MatchRequest} (hq : q.Matches R deals p) :
    LifecycleOpened deals p := by
  obtain ⟨-, htotal⟩ := hq
  have hpos : 0 < R.sum ((q.group deals p).map fun deal => (deal.volume : ℚ)) :=
    htotal ▸ q.approvedBrokerVolume.property
  obtain ⟨x, hx, hxpos⟩ := (Rounding.sum_pos_iff fun x hx => by
    obtain ⟨deal, -, rfl⟩ := List.mem_map.mp hx
    exact deal.volume.property).mp hpos
  obtain ⟨deal, hdeal, rfl⟩ := List.mem_map.mp hx
  obtain ⟨hmem, hqualifies, hp⟩ := mem_group.mp hdeal
  exact ⟨deal, mem_tradingDeals_of_qualifies hmem hqualifies hp, hqualifies.2.1, hxpos⟩

theorem openedBy_of_matches {q : MatchRequest} (hq : q.Matches R deals p) {deal : MT5Deal}
    (hdeal : deal ∈ tradingDeals p deals) : OpenedBy deals p deal.time := by
  obtain ⟨first, hfirst, hqualifies, hp, hearliest⟩ := (hq.1 p).mpr rfl
  obtain ⟨hmem, hposition⟩ := List.mem_filter.mp hdeal
  exact ⟨first, mem_tradingDeals_of_qualifies hfirst hqualifies hp, hqualifies.2.1,
    hearliest deal hmem (of_decide_eq_true hposition).1⟩

/-- The lifecycle of a fresh match can be taken over, up to an exit that the record carries. -/
theorem followable_of_matches {q : MatchRequest} {exitTime : Option Timestamp}
    (hq : q.Matches R deals p) : Followable R deals p exitTime ↔
      (0 < netVolume R (tradingDeals p deals) → ∀ exit ∈ exitTime, OpenedBy deals p exit) := by
  refine ⟨fun hfollowable => hfollowable.reopened, fun hreopened =>
    ⟨opened_of_matches hq, fun hnet => ?_, hreopened⟩⟩
  obtain ⟨closing, hclosing, hout, -⟩ := exists_closing (opened_of_matches hq) hnet
  exact ⟨closing, hclosing, hout, openedBy_of_matches hq hclosing⟩

end Following

/-! ## An unmatched recommendation -/

section Advancing

variable {R : Rounding} {h : HistoryRead} {claimed : List ℕ} {t : MT5TrackedRecommendation} {p : ℕ}

/-- An unmatched recommendation stays valid with a valid record in a status before the match. -/
theorem validate_unmatched {record : PositionRecord} {outcome : Option MT5MatchOutcome}
    {readAt : Option Timestamp} (hvalid : t.validate = .ok ())
    (hrecord : record.validate = .ok ()) (hstatus : record.status ∈ [.pending, .notFilled]) :
    ({ t with
        positionRecord := record, matchedPositionId := none
        lastMatchOutcome := outcome, lastReadAt := readAt } :
      MT5TrackedRecommendation).validate = .ok () := by
  unfold MT5TrackedRecommendation.validate at hvalid ⊢
  obtain ⟨-, hvalid⟩ := unit_bind_ok_iff.mp hvalid
  obtain ⟨-, hvalid⟩ := check_bind_ok.mp hvalid
  obtain ⟨hnodup, -⟩ := check_bind_ok.mp hvalid
  exact unit_bind_ok_iff.mpr ⟨hrecord, check_bind_ok.mpr ⟨by simp, check_bind_ok.mpr
    ⟨hnodup, check_bind_ok.mpr ⟨by simp, check_ok_iff.mpr hstatus⟩⟩⟩⟩

theorem unmatched_parts (hvalid : t.validate = .ok ()) (hnone : t.matchedPositionId = none) :
    t.positionRecord.validate = .ok () ∧ t.positionRecord.status ∈ [.pending, .notFilled] := by
  unfold MT5TrackedRecommendation.validate at hvalid
  obtain ⟨hrecord, hvalid⟩ := unit_bind_ok_iff.mp hvalid
  obtain ⟨-, hvalid⟩ := check_bind_ok.mp hvalid
  obtain ⟨-, hvalid⟩ := check_bind_ok.mp hvalid
  obtain ⟨-, hvalid⟩ := check_bind_ok.mp hvalid
  rw [hnone] at hvalid
  exact ⟨hrecord, check_ok_iff.mp hvalid⟩

/-- Without a match nothing can be refused. -/
theorem advance_of_not_matched {r : MT5MatchResult} (hvalid : t.validate = .ok ())
    (hnone : t.matchedPositionId = none)
    (hresult : matchRecommendation R (t.request claimed) h.deals h.status h.coversUntil = .ok r)
    (hr : r.outcome ≠ .matched) : ∃ t', advanceTrackedRecommendation R h claimed t = .ok t' := by
  obtain ⟨hrecord, hstatus⟩ := unmatched_parts hvalid hnone
  unfold advanceTrackedRecommendation
  rw [hnone]
  dsimp only
  rw [hresult]
  dsimp only [bind, Except.bind]
  cases hout : r.outcome with
  | matched => exact absurd hout hr
  | expiredConfirmedUnfilled =>
      have hnotFilled : ({ t.positionRecord with status := .notFilled } :
          PositionRecord).validate = .ok () :=
        PositionRecord.validate_iff.mpr (PositionRecord.validate_iff.mp hrecord)
      exact exists_construct_iff.mpr (validate_unmatched hvalid hnotFilled (by simp))
  | readUnavailable | noCandidateYet | ambiguous | partialFill | volumeMismatch =>
      exact exists_construct_iff.mpr (validate_unmatched hvalid hrecord hstatus)

/-- A fresh match is refused when it has position id 0, and otherwise followed. -/
theorem advance_of_matches (hvalid : t.validate = .ok ()) (hnone : t.matchedPositionId = none)
    (htickets : (h.deals.map MT5Deal.ticket).Nodup) (hok : h.status = .ok)
    (hq : (t.request claimed).Matches R h.deals p)
    (hresult : matchRecommendation R (t.request claimed) h.deals .ok h.coversUntil =
      MT5MatchResult.construct { outcome := .matched, matchedPositionId := some p }) :
    (∃ t', advanceTrackedRecommendation R h claimed t = .ok t') ↔
      p ≠ 0 ∧ (¬ LifecycleBlocked R h.deals p →
        0 < netVolume R (tradingDeals p h.deals) →
          ∀ exit ∈ t.positionRecord.exitTime, OpenedBy h.deals p exit) := by
  obtain ⟨hrecord, -⟩ := unmatched_parts hvalid hnone
  unfold advanceTrackedRecommendation
  rw [hnone]
  dsimp only
  rw [hok, hresult]
  rcases Nat.eq_zero_or_pos p with rfl | hp
  · exact iff_of_false (fun ⟨t', ht'⟩ => by cases ht') fun hcon => hcon.1 rfl
  have hconstruct : MT5MatchResult.construct { outcome := .matched, matchedPositionId := some p } =
      .ok { outcome := .matched, matchedPositionId := some p } :=
    MT5MatchResult.construct_ok_iff.mpr ⟨by simp [MT5MatchResult.validate, hp], rfl⟩
  rw [hconstruct]
  dsimp only [bind, Except.bind]
  generalize hopened : ({ t with
      matchedPositionId := some p, lastMatchOutcome := some .matched, lastReadAt := some h.asOf
      positionRecord := { t.positionRecord with status := .opened } } :
    MT5TrackedRecommendation) = opened
  have hvalidopened : opened.validate = .ok () := by
    obtain ⟨first, -, hqualifies, hfirst, -⟩ := (hq.1 p).mpr rfl
    have hfresh : p ∉ t.preExistingPositionIds := hfirst ▸ hqualifies.2.2.2.2.1
    rw [← hopened]
    unfold MT5TrackedRecommendation.validate at hvalid ⊢
    obtain ⟨-, hvalid⟩ := unit_bind_ok_iff.mp hvalid
    obtain ⟨-, hvalid⟩ := check_bind_ok.mp hvalid
    obtain ⟨hnodup, -⟩ := check_bind_ok.mp hvalid
    have hrecordopened : ({ t.positionRecord with status := .opened } :
        PositionRecord).validate = .ok () :=
      PositionRecord.validate_iff.mpr (PositionRecord.validate_iff.mp hrecord)
    exact unit_bind_ok_iff.mpr ⟨hrecordopened, check_bind_ok.mpr ⟨by simpa using hp,
      check_bind_ok.mpr ⟨hnodup, check_bind_ok.mpr ⟨by simpa using hfresh, rfl⟩⟩⟩⟩
  rw [MT5TrackedRecommendation.construct_ok_iff.mpr ⟨hvalidopened, rfl⟩]
  dsimp only
  rw [followLifecycle_isOk_iff hvalidopened (by rw [← hopened]) htickets, forall_prop_of_true hok,
    followable_of_matches hq, ← hopened]
  exact (and_iff_right hp.ne').symm

theorem MatchRequest.Matches.unique {q : MatchRequest} {deals : List MT5Deal} {p' : ℕ}
    (hp : q.Matches R deals p) (hp' : q.Matches R deals p') : p' = p :=
  (hp.1 p').mp ((hp'.1 p').mpr rfl)

/-- An unmatched recommendation is advanced exactly when its match, if it has one, can be
followed. -/
theorem advance_unmatched_isOk_iff (hvalid : t.validate = .ok ())
    (hnone : t.matchedPositionId = none) (htickets : (h.deals.map MT5Deal.ticket).Nodup) :
    (∃ t', advanceTrackedRecommendation R h claimed t = .ok t') ↔
      (h.status = .ok → ∀ p, (t.request claimed).Matches R h.deals p →
        p ≠ 0 ∧ (¬ LifecycleBlocked R h.deals p →
          0 < netVolume R (tradingDeals p h.deals) →
            ∀ exit ∈ t.positionRecord.exitTime, OpenedBy h.deals p exit)) := by
  by_cases hok : h.status = .ok
  · rw [forall_prop_of_true hok]
    rcases matchRecommendation_cases R (t.request claimed) h.deals h.coversUntil with
      ⟨p, hq, hresult⟩ | ⟨hnomatch, r, hresult, hr⟩
    · rw [advance_of_matches hvalid hnone htickets hok hq hresult]
      exact ⟨fun hp p' hq' => hq.unique hq' ▸ hp, fun hall => hall p hq⟩
    · rw [← hok] at hresult
      exact iff_of_true (advance_of_not_matched hvalid hnone hresult hr)
        fun p hq => absurd ⟨p, hq⟩ hnomatch
  · refine iff_of_true ?_ fun hcon => absurd hcon hok
    have hresult : matchRecommendation R (t.request claimed) h.deals h.status h.coversUntil =
        .ok { outcome := .readUnavailable } := by
      unfold matchRecommendation
      rw [if_pos hok]
      rfl
    exact advance_of_not_matched hvalid hnone hresult (by simp)

/-- The history lets the recommendation be advanced: a fresh match can be followed and is not one
with position id 0, and what it follows can be followed. -/
structure Advanceable (R : Rounding) (h : HistoryRead) (claimed : List ℕ)
    (t : MT5TrackedRecommendation) : Prop where
  fresh : t.matchedPositionId = none → h.status = .ok →
    ∀ p, (t.request claimed).Matches R h.deals p →
      p ≠ 0 ∧ (¬ LifecycleBlocked R h.deals p →
        0 < netVolume R (tradingDeals p h.deals) →
          ∀ exit ∈ t.positionRecord.exitTime, OpenedBy h.deals p exit)
  followed : ∀ p, t.matchedPositionId = some p → h.status = .ok →
    ¬ LifecycleBlocked R h.deals p → Followable R h.deals p t.positionRecord.exitTime

theorem advance_isOk_iff (hvalid : t.validate = .ok ())
    (htickets : (h.deals.map MT5Deal.ticket).Nodup) :
    (∃ t', advanceTrackedRecommendation R h claimed t = .ok t') ↔ Advanceable R h claimed t := by
  cases hmatched : t.matchedPositionId with
  | none =>
      rw [advance_unmatched_isOk_iff hvalid hmatched htickets]
      refine ⟨fun hfresh => ⟨fun _ => hfresh, fun p hp => ?_⟩, fun h => h.fresh hmatched⟩
      rw [hmatched] at hp
      cases hp
  | some p =>
      unfold advanceTrackedRecommendation
      rw [hmatched]
      refine (followLifecycle_isOk_iff hvalid hmatched htickets).trans
        ⟨fun hfollowed => ⟨fun hnone => ?_, fun q hq => ?_⟩, fun h => h.followed p hmatched⟩
      · rw [hmatched] at hnone
        cases hnone
      · obtain rfl : p = q := Option.some.inj (hmatched.symm.trans hq)
        exact hfollowed

end Advancing

/-! ## Every assessment -/

/-- Matching, advancing and the realized PnL of a window return results that pass their checks. -/
structure ReturnsTyped (R : Rounding) (h : HistoryRead) (q : MatchRequest) (claimed : List ℕ)
    (t : MT5TrackedRecommendation) (windowStart windowEnd : Timestamp) : Prop where
  matching : ∃ r, matchRecommendation R q h.deals h.status h.coversUntil = .ok r
  advancing : ∃ t', advanceTrackedRecommendation R h claimed t = .ok t'
  dailyPnl : (computeRealizedDailyPnl R h.deals windowStart windowEnd).validate = .ok ()

/-- The history can be assessed: no match is one with position id 0, and what a recommendation
follows can be followed. -/
structure Admits (R : Rounding) (h : HistoryRead) (q : MatchRequest) (claimed : List ℕ)
    (t : MT5TrackedRecommendation) : Prop where
  request : h.status = .ok → ¬ q.Matches R h.deals 0
  fresh : t.matchedPositionId = none → h.status = .ok →
    ∀ p, (t.request claimed).Matches R h.deals p →
      p ≠ 0 ∧ (¬ LifecycleBlocked R h.deals p →
        0 < netVolume R (tradingDeals p h.deals) →
          ∀ exit ∈ t.positionRecord.exitTime, OpenedBy h.deals p exit)
  followed : ∀ p, t.matchedPositionId = some p → h.status = .ok →
    ¬ LifecycleBlocked R h.deals p → Followable R h.deals p t.positionRecord.exitTime

/-- **Assessments return typed results** exactly where the history can be assessed. -/
theorem returnsTyped_iff (R : Rounding) (h : HistoryRead) (q : MatchRequest) (claimed : List ℕ)
    (t : MT5TrackedRecommendation) (windowStart windowEnd : Timestamp)
    (hvalid : t.validate = .ok ()) (htickets : (h.deals.map MT5Deal.ticket).Nodup) :
    ReturnsTyped R h q claimed t windowStart windowEnd ↔ Admits R h q claimed t := by
  constructor
  · rintro ⟨hmatching, hadvancing, -⟩
    obtain ⟨hfresh, hfollowed⟩ := (advance_isOk_iff hvalid htickets).mp hadvancing
    exact ⟨matchRecommendation_isOk_iff.mp hmatching, hfresh, hfollowed⟩
  · rintro ⟨hrequest, hfresh, hfollowed⟩
    exact ⟨matchRecommendation_isOk_iff.mpr hrequest,
      (advance_isOk_iff hvalid htickets).mpr ⟨hfresh, hfollowed⟩,
      computeRealizedDailyPnl_valid htickets⟩

/-! A recommendation that is matched and followed, and one whose match is refused. -/

/-- A pending recommendation to buy 1. -/
def pendingRecommendation : MT5TrackedRecommendation where
  positionRecord := {
    tradeId := ⟨"t", by decide⟩
    symbol := btcusdt
    direction := .long
    signalTime := 0
    validUntil := signalExecutionWindow
    plannedEntry := 1
    stopLoss := 1 }
  approvedBrokerVolume := ⟨1, one_positive⟩

/-- A history of one opening fill of the position. -/
def fillHistory (positionId : ℕ) : HistoryRead where
  asOf := 1
  status := .ok
  coversUntil := 1
  deals := [openingFill (Nat.succPNat 0) positionId 1]

theorem returnsTyped_pending :
    ReturnsTyped .decimal28 (fillHistory 7) (pendingRecommendation.request []) []
        pendingRecommendation 0 1 ∧
      Admits .decimal28 (fillHistory 7) (pendingRecommendation.request []) []
        pendingRecommendation := by
  have htyped : ReturnsTyped .decimal28 (fillHistory 7) (pendingRecommendation.request []) []
      pendingRecommendation 0 1 :=
    ⟨isOk_iff.mp (by decide +kernel), isOk_iff.mp (by decide +kernel), by decide +kernel⟩
  exact ⟨htyped, (returnsTyped_iff .decimal28 (fillHistory 7) (pendingRecommendation.request []) []
    pendingRecommendation 0 1 (by decide +kernel) (by decide)).mp htyped⟩

/-- A fill without a position is admitted by the history, and refused as a match. -/
theorem zero_match_raises :
    pendingRecommendation.validate = .ok () ∧
      ((fillHistory 0).deals.map MT5Deal.ticket).Nodup ∧
      ¬ ReturnsTyped .decimal28 (fillHistory 0) (pendingRecommendation.request []) []
        pendingRecommendation 0 1 := by
  refine ⟨by decide +kernel, by decide, fun htyped => ?_⟩
  have hraises : (matchRecommendation .decimal28 (pendingRecommendation.request [])
      (fillHistory 0).deals (fillHistory 0).status (fillHistory 0).coversUntil).isOk = false := by
    decide +kernel
  rw [isOk_iff.mpr htyped.matching] at hraises
  cases hraises

end TradingAdvisor
