import TradingAdvisor.Lib.Rounding
import TradingAdvisor.Mt5.Tracker

/-!
# The reconstruction of a position

When the deals of a position block its reconstruction, when they give a ready one, and when they
give none at all.

* `LifecycleBlocked`, `LifecycleOpened` — the two things that decide about it;
* `exists_closing` — a net volume that is not positive has a closing deal;
* `ReadyLifecycle` — what a ready assessment says;
* `reconstruct_of_blocked`, `reconstruct_of_opened`, `reconstruct_of_unopened` — the three cases.
-/

namespace TradingAdvisor

open SignificantDigits Checks

/-- Some deal of the position cannot be classified. -/
def LifecycleBlocked (R : Rounding) (deals : List MT5Deal) (positionId : ℕ) : Prop :=
  ∃ deal ∈ deals, deal.positionId = positionId ∧ lifecycleReason R deal ≠ none

/-- Some deal opens a volume of the position. -/
def LifecycleOpened (deals : List MT5Deal) (positionId : ℕ) : Prop :=
  ∃ deal ∈ tradingDeals positionId deals, deal.entry = .entryIn ∧ 0 < deal.volume

variable {R : Rounding} {asOf : Timestamp} {positionId : ℕ} {deals : List MT5Deal}

/-! ## Prices and volumes -/

theorem exists_averagePrice (h : ∃ deal ∈ deals, 0 < deal.volume) :
    ∃ price, 0 ≤ price ∧ averagePrice R deals = .ok price := by
  obtain ⟨deal, hdeal, hvolume⟩ := h
  have hvolumes : 0 < R.sum (deals.map fun deal => (deal.volume : ℚ)) := by
    refine (Rounding.sum_pos_iff fun x hx => ?_).mpr ⟨_, List.mem_map_of_mem hdeal, hvolume⟩
    obtain ⟨other, -, rfl⟩ := List.mem_map.mp hx
    exact other.volume.property
  have hvalues : 0 ≤ R.sum (deals.map fun deal => R.rnd (deal.price * deal.volume)) := by
    refine Rounding.sum_nonneg fun x hx => ?_
    obtain ⟨other, -, rfl⟩ := List.mem_map.mp hx
    exact R.nonneg (mul_nonneg other.price.property other.volume.property)
  refine ⟨_, R.nonneg (div_nonneg hvalues hvolumes.le), ?_⟩
  unfold averagePrice
  rw [if_neg hvolumes.ne']

theorem averagePrice_eq_error (h : ¬ ∃ deal ∈ deals, 0 < deal.volume) :
    averagePrice R deals = .error .divisionByZero := by
  have hvolumes : R.sum (deals.map fun deal => (deal.volume : ℚ)) = 0 := by
    have hnonneg : ∀ x ∈ deals.map fun deal => (deal.volume : ℚ), 0 ≤ x := by
      intro x hx
      obtain ⟨other, -, rfl⟩ := List.mem_map.mp hx
      exact other.volume.property
    refine le_antisymm (not_lt.mp fun hpos => h ?_) (Rounding.sum_nonneg hnonneg)
    obtain ⟨x, hx, hxpos⟩ := (Rounding.sum_pos_iff hnonneg).mp hpos
    obtain ⟨deal, hdeal, rfl⟩ := List.mem_map.mp hx
    exact ⟨deal, hdeal, hxpos⟩
  unfold averagePrice
  rw [if_pos hvolumes]

/-- The volume that a deal adds, or takes off, in the reconstruction. -/
def MT5Deal.netVolume (deal : MT5Deal) : ℚ :=
  if deal.entry = .entryIn then deal.volume else -deal.volume

theorem netVolume_eq_sum (R : Rounding) (deals : List MT5Deal) :
    netVolume R deals = R.sum (deals.map MT5Deal.netVolume) := by
  unfold netVolume Rounding.sum
  rw [List.foldl_map]
  congr 1
  funext net deal
  unfold MT5Deal.netVolume
  by_cases h : deal.entry = .entryIn
  · rw [if_pos h, if_pos h]
  · rw [if_neg h, if_neg h, sub_eq_add_neg]

theorem exists_closing (hopened : ∃ deal ∈ deals, deal.entry = .entryIn ∧ 0 < deal.volume)
    (hnet : netVolume R deals ≤ 0) :
    ∃ deal ∈ deals, deal.entry ≠ .entryIn ∧ 0 < deal.volume := by
  by_contra hcon
  obtain ⟨opening, hopening, hin, hvolume⟩ := hopened
  have hnonneg : ∀ x ∈ deals.map MT5Deal.netVolume, 0 ≤ x := by
    intro x hx
    obtain ⟨deal, hdeal, rfl⟩ := List.mem_map.mp hx
    unfold MT5Deal.netVolume
    split_ifs with hkind
    · exact deal.volume.property
    · exact neg_nonneg.mpr (not_lt.mp fun hpos => hcon ⟨deal, hdeal, hkind, hpos⟩)
  rw [netVolume_eq_sum] at hnet
  refine not_lt.mpr hnet ((Rounding.sum_pos_iff hnonneg).mpr
    ⟨_, List.mem_map_of_mem hopening, ?_⟩)
  unfold MT5Deal.netVolume
  rw [if_pos hin]
  exact hvolume

/-! ## The three cases -/

/-- What a ready assessment says of the trading deals of its position. -/
structure ReadyLifecycle (R : Rounding) (deals : List MT5Deal)
    (a : MT5PositionLifecycleAssessment) : Prop where
  outcome : a.outcome = .ready
  entry : ∃ price, 0 ≤ price ∧ a.actualEntry = some price
  entryTime : a.actualEntryTime =
    ((deals.filter fun deal => deal.entry = .entryIn).map MT5Deal.time).min?
  pnl : a.realizedPnl = some (R.sum (deals.filterMap fun deal =>
    (classifyTradingDeal R deal).toOption))
  opened : 0 < netVolume R deals → a.isFullyClosed = some false
  closed : netVolume R deals ≤ 0 →
    a.isFullyClosed = some true ∧ (∃ price, 0 ≤ price ∧ a.exitPrice = some price) ∧
      a.exitTime = ((deals.filter fun deal => deal.entry ≠ .entryIn).map MT5Deal.time).max?

theorem exists_filter {side : MT5Deal → Bool}
    (h : ∃ deal ∈ deals, side deal = true ∧ 0 < deal.volume) :
    deals.filter side ≠ [] ∧ ∃ deal ∈ deals.filter side, 0 < deal.volume := by
  obtain ⟨deal, hdeal, hside, hvolume⟩ := h
  have hmem := List.mem_filter.mpr ⟨hdeal, hside⟩
  exact ⟨List.ne_nil_of_mem hmem, deal, hmem, hvolume⟩

/-- Where something was opened, the assessment is ready and valid. -/
theorem assessTradingDeals_of_opened (hpositive : 0 < positionId)
    (hopened : ∃ deal ∈ deals, deal.entry = .entryIn ∧ 0 < deal.volume) :
    ∃ a, assessTradingDeals R asOf positionId deals = .ok a ∧ a.validate = .ok () ∧
      ReadyLifecycle R deals a := by
  obtain ⟨hins, hentries⟩ : deals.filter (fun deal => deal.entry = .entryIn) ≠ [] ∧
      ∃ deal ∈ deals.filter (fun deal => deal.entry = .entryIn), 0 < deal.volume :=
    exists_filter (by simpa using hopened)
  obtain ⟨entry, hentry, hentryok⟩ := exists_averagePrice (R := R) hentries
  dsimp only [assessTradingDeals]
  rw [hentryok]
  by_cases hnet : netVolume R deals ≤ 0
  · obtain ⟨houts, hexits⟩ : deals.filter (fun deal => deal.entry ≠ .entryIn) ≠ [] ∧
        ∃ deal ∈ deals.filter (fun deal => deal.entry ≠ .entryIn), 0 < deal.volume :=
      exists_filter (by simpa using exists_closing hopened hnet)
    obtain ⟨exit, hexit, hexitok⟩ := exists_averagePrice (R := R) hexits
    rw [hexitok]
    refine ⟨_, check_bind_ok.mpr ⟨hins, bind_ok_iff.mpr ⟨entry, rfl,
      (if_pos hnet).trans (check_bind_ok.mpr ⟨houts, rfl⟩)⟩⟩, ?_, ?_⟩
    · simp [MT5PositionLifecycleAssessment.validate, MT5PositionLifecycleAssessment.validateReady,
        hpositive, hentry, hexit]
      obtain ⟨closing, hclosing, hout, -⟩ := exists_closing hopened hnet
      obtain ⟨opening, hopening, hin, -⟩ := hopened
      exact ⟨⟨opening, hopening, hin⟩, closing, hclosing, hout⟩
    · exact ⟨rfl, ⟨entry, hentry, rfl⟩, rfl, rfl, fun hpos => absurd hnet (not_le.mpr hpos),
        fun _ => ⟨rfl, ⟨exit, hexit, rfl⟩, rfl⟩⟩
  · refine ⟨_, check_bind_ok.mpr ⟨hins, bind_ok_iff.mpr ⟨entry, rfl, if_neg hnet⟩⟩, ?_, ?_⟩
    · simp [MT5PositionLifecycleAssessment.validate, MT5PositionLifecycleAssessment.validateReady,
        hpositive, hentry]
      obtain ⟨opening, hopening, hin, -⟩ := hopened
      exact ⟨opening, hopening, hin⟩
    · exact ⟨rfl, ⟨entry, hentry, rfl⟩, rfl, rfl, fun _ => rfl, fun hle => absurd hle hnet⟩

theorem order_filter_sorted (q : MT5RealizedPnLBlockReason → Bool) :
    ((MT5RealizedPnLBlockReason.order.filter q).map MT5RealizedPnLBlockReason.index).Pairwise
      (· ≤ ·) :=
  List.Pairwise.sublist (List.filter_sublist.map _) (by decide :
    (MT5RealizedPnLBlockReason.order.map MT5RealizedPnLBlockReason.index).Pairwise (· ≤ ·))

theorem order_filter_nodup (q : MT5RealizedPnLBlockReason → Bool) :
    ((MT5RealizedPnLBlockReason.order.filter q).map MT5RealizedPnLBlockReason.index).Nodup :=
  List.Nodup.sublist (List.filter_sublist.map _) (by decide :
    (MT5RealizedPnLBlockReason.order.map MT5RealizedPnLBlockReason.index).Nodup)

theorem mem_order (reason : MT5RealizedPnLBlockReason) :
    reason ∈ MT5RealizedPnLBlockReason.order := by
  cases reason <;> decide

theorem reconstruct_of_blocked (hpositive : 0 < positionId)
    (htickets : (deals.map MT5Deal.ticket).Nodup) (h : LifecycleBlocked R deals positionId) :
    ∃ a, reconstructPositionLifecycle R asOf positionId deals = .ok a ∧ a.outcome = .blocked := by
  obtain ⟨deal, hdeal, hposition, hreason⟩ := h
  unfold reconstructPositionLifecycle draftLifecycle
  dsimp only
  generalize hrelevant : deals.filter (fun deal => deal.positionId = positionId) = relevant
  have hmem : deal ∈ relevant := by
    rw [← hrelevant]
    exact List.mem_filter.mpr ⟨hdeal, by simpa using hposition⟩
  have hnodup : (relevant.map MT5Deal.ticket).Nodup := by
    rw [← hrelevant]
    exact htickets.sublist (List.filter_sublist.map _)
  obtain ⟨reason, hsome⟩ := Option.ne_none_iff_exists'.mp hreason
  have hset : reason ∈ relevant.filterMap (lifecycleReason R) :=
    List.mem_filterMap.mpr ⟨deal, hmem, hsome⟩
  have hdistinct (q : MT5Deal → Bool) : ((relevant.filter q).map MT5Deal.ticket).Nodup :=
    hnodup.sublist (List.filter_sublist.map _)
  rw [if_pos (List.ne_nil_of_mem hset)]
  refine ⟨_, bind_ok_iff.mpr ⟨_, rfl, unit_bind_ok_iff.mpr ⟨?_, rfl⟩⟩, rfl⟩
  simp [MT5PositionLifecycleAssessment.validate, MT5PositionLifecycleAssessment.validateBlocked,
    hpositive, order_filter_sorted, order_filter_nodup]
  exact ⟨⟨reason, mem_order reason, deal, hmem, hsome⟩, ⟨deal, hmem, hreason⟩, hdistinct _⟩

theorem draftLifecycle_of_not_blocked (h : ¬ LifecycleBlocked R deals positionId) :
    draftLifecycle R asOf positionId deals =
      assessTradingDeals R asOf positionId (tradingDeals positionId deals) := by
  have hreasons : (deals.filter fun deal => deal.positionId = positionId).filterMap
      (lifecycleReason R) = [] := by
    refine List.filterMap_eq_nil_iff.mpr fun deal hdeal => ?_
    obtain ⟨hmem, hposition⟩ := List.mem_filter.mp hdeal
    by_contra hreason
    exact h ⟨deal, hmem, of_decide_eq_true hposition, hreason⟩
  dsimp only [draftLifecycle]
  rw [hreasons, if_neg (by simp)]

/-- A position that is not blocked, and opened, is reconstructed. -/
theorem reconstruct_of_opened (hpositive : 0 < positionId)
    (hblocked : ¬ LifecycleBlocked R deals positionId) (h : LifecycleOpened deals positionId) :
    ∃ a, reconstructPositionLifecycle R asOf positionId deals = .ok a ∧
      ReadyLifecycle R (tradingDeals positionId deals) a := by
  obtain ⟨a, ha, hvalid, hready⟩ : ∃ a,
      assessTradingDeals R asOf positionId (tradingDeals positionId deals) = .ok a ∧
        a.validate = .ok () ∧ ReadyLifecycle R (tradingDeals positionId deals) a :=
    assessTradingDeals_of_opened hpositive h
  refine ⟨a, ?_, hready⟩
  unfold reconstructPositionLifecycle
  rw [draftLifecycle_of_not_blocked hblocked, ha]
  exact unit_bind_ok_iff.mpr ⟨hvalid, rfl⟩

theorem reconstruct_of_unopened (hblocked : ¬ LifecycleBlocked R deals positionId)
    (h : ¬ LifecycleOpened deals positionId) :
    ¬ ∃ a, reconstructPositionLifecycle R asOf positionId deals = .ok a := by
  rintro ⟨a, ha⟩
  unfold reconstructPositionLifecycle at ha
  rw [draftLifecycle_of_not_blocked hblocked] at ha
  obtain ⟨draft, hdraft, -⟩ := bind_ok_iff.mp ha
  dsimp only [assessTradingDeals] at hdraft
  obtain ⟨-, hdraft⟩ := check_bind_ok.mp hdraft
  have hnone : ¬ ∃ deal ∈ (tradingDeals positionId deals).filter
      (fun deal => deal.entry = .entryIn), 0 < deal.volume := by
    rintro ⟨deal, hdeal, hvolume⟩
    obtain ⟨hmem, hin⟩ := List.mem_filter.mp hdeal
    exact h ⟨deal, hmem, of_decide_eq_true hin, hvolume⟩
  rw [averagePrice_eq_error hnone] at hdraft
  cases hdraft

theorem readyLifecycle_of_ok {a : MT5PositionLifecycleAssessment} (hpositive : 0 < positionId)
    (hblocked : ¬ LifecycleBlocked R deals positionId)
    (ha : reconstructPositionLifecycle R asOf positionId deals = .ok a) :
    ReadyLifecycle R (tradingDeals positionId deals) a := by
  by_cases hopened : LifecycleOpened deals positionId
  · obtain ⟨ready, hok, hready⟩ : ∃ ready,
        reconstructPositionLifecycle R asOf positionId deals = .ok ready ∧
          ReadyLifecycle R (tradingDeals positionId deals) ready :=
      reconstruct_of_opened hpositive hblocked hopened
    rw [hok] at ha
    cases ha
    exact hready
  · exact absurd ⟨a, ha⟩ (reconstruct_of_unopened hblocked hopened)

end TradingAdvisor
