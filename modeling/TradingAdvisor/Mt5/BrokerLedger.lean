import TradingAdvisor.Lib.Keyed
import TradingAdvisor.Lib.Transition
import TradingAdvisor.Mt5.Lifecycle

/-!
# Positions on the broker's side

What a broker does with the exposure of a position, deal by deal, against what is reconstructed from
the deals afterwards. A reversal closes the exposure and opens the rest of its volume the other way
round; the reconstruction takes all of its volume off.

* `brokerStep` — the exposure after one deal;
* `BrokerLedger` — a ledger that a broker can produce, with the exposure it leaves;
* `abs_exposure` — how the net volume of the deals misses the exposure;
* `ReconstructsLedger` — what a reconstruction has to say of a ledger;
* **`reconstructsLedger_iff`**: it says so exactly when the exposure is 0, or more than twice what
  the reversals opened;
* **`reconstructsLedger_iff_of_units`**: the same where amounts come in units of a power of ten,
  which add up exactly.
-/

namespace TradingAdvisor

open SignificantDigits Checks

/-! ## The broker's side -/

/-- The exposure of a position, positive when it is long, and the volume that its reversals have
opened. -/
structure BrokerPosition where
  exposure : ℚ := 0
  reversed : ℚ := 0
  deriving DecidableEq

/-- The volume of a deal, positive when it buys. -/
def MT5Deal.signedVolume (deal : MT5Deal) : ℚ :=
  if deal.dealType = .buy then deal.volume else -deal.volume

/-- The broker can produce this deal at this exposure: an opening deal goes in the direction of the
position, a closing deal takes at most what is open, and a reversal takes all of it. -/
def BrokerPosition.Admits (s : BrokerPosition) (deal : MT5Deal) : Prop :=
  deal.dealType ∈ [.buy, .sell] ∧
    match deal.entry with
    | .entryIn => 0 ≤ s.exposure * deal.signedVolume
    | .out => s.exposure * deal.signedVolume ≤ 0 ∧ (deal.volume : ℚ) ≤ |s.exposure|
    | .inout => s.exposure * deal.signedVolume < 0 ∧ |s.exposure| ≤ deal.volume
    | .outBy | .unknown => False

instance (s : BrokerPosition) (deal : MT5Deal) : Decidable (s.Admits deal) := by
  unfold BrokerPosition.Admits
  cases deal.entry <;> infer_instance

/-- The position after one deal. -/
def brokerStep (s : BrokerPosition) (deal : MT5Deal) : Option BrokerPosition :=
  if s.Admits deal then
    some {
      exposure := s.exposure + deal.signedVolume
      reversed :=
        if deal.entry = .inout then s.reversed + (deal.volume - |s.exposure|) else s.reversed }
  else none

/-- A ledger that a broker can produce for a position, in the order of time. -/
structure BrokerLedger (positionId : ℕ) (ledger : List MT5Deal) (s : BrokerPosition) : Prop where
  positive : 0 < positionId
  position : ∀ deal ∈ ledger, deal.positionId = positionId
  time : ∀ deal ∈ ledger, epoch < deal.time
  run : Transition.run brokerStep {} ledger = some s

/-- The realized profit or loss of a deal. -/
def MT5Deal.realizedPnl (deal : MT5Deal) : ℚ :=
  deal.commission + deal.fee + if deal.entry = .entryIn then 0 else deal.profit + deal.swap

section Broker

variable {positionId : ℕ} {ledger : List MT5Deal} {s s' : BrokerPosition} {deal : MT5Deal}

theorem abs_signedVolume (deal : MT5Deal) : |deal.signedVolume| = deal.volume := by
  unfold MT5Deal.signedVolume
  split_ifs
  · exact abs_of_nonneg deal.volume.property
  · rw [abs_neg]
    exact abs_of_nonneg deal.volume.property

theorem brokerStep_eq_some :
    brokerStep s deal = some s' ↔ s.Admits deal ∧
      s' = {
        exposure := s.exposure + deal.signedVolume
        reversed :=
          if deal.entry = .inout then s.reversed + (deal.volume - |s.exposure|)
          else s.reversed } := by
  unfold brokerStep
  by_cases h : s.Admits deal
  · rw [if_pos h, Option.some_inj, eq_comm]
    exact (and_iff_right h).symm
  · rw [if_neg h]
    exact iff_of_false (by simp) fun hadmits => h hadmits.1

theorem abs_add_of_opposite {x y : ℚ} (h : x * y ≤ 0) : |x + y| = |(|x| - |y|)| := by
  rcases mul_nonpos_iff.mp h with ⟨hx, hy⟩ | ⟨hx, hy⟩
  · rw [abs_of_nonneg hx, abs_of_nonpos hy, sub_neg_eq_add]
  · rw [abs_of_nonpos hx, abs_of_nonneg hy, ← abs_neg, neg_add']

/-- **One deal changes the open volume by its net volume**, up to twice what a reversal opens. -/
theorem abs_exposure_step (h : brokerStep s deal = some s') :
    |s'.exposure| - 2 * s'.reversed = |s.exposure| - 2 * s.reversed + deal.netVolume := by
  obtain ⟨⟨-, hentry⟩, rfl⟩ := brokerStep_eq_some.mp h
  have hvolume := abs_signedVolume deal
  dsimp only
  unfold MT5Deal.netVolume
  cases hkind : deal.entry with
  | entryIn =>
      rw [hkind] at hentry
      have hadd : |s.exposure + deal.signedVolume| = |s.exposure| + |deal.signedVolume| :=
        abs_add_eq_add_abs_iff _ _ |>.mpr (mul_nonneg_iff.mp hentry)
      rw [if_neg (by simp), if_pos rfl, hadd, hvolume]
      ring
  | out =>
      rw [hkind] at hentry
      rw [if_neg (by simp), if_neg (by simp), abs_add_of_opposite hentry.1, hvolume,
        abs_of_nonneg (sub_nonneg.mpr hentry.2)]
      ring
  | inout =>
      rw [hkind] at hentry
      rw [if_pos rfl, if_neg (by simp), abs_add_of_opposite hentry.1.le, hvolume, abs_sub_comm,
        abs_of_nonneg (sub_nonneg.mpr hentry.2)]
      ring
  | outBy =>
      rw [hkind] at hentry
      exact hentry.elim
  | unknown =>
      rw [hkind] at hentry
      exact hentry.elim

/-- The open volume after a ledger is its net volume and twice what the reversals opened. -/
theorem abs_exposure (h : Transition.run brokerStep s ledger = some s') :
    |s'.exposure| - 2 * s'.reversed =
      |s.exposure| - 2 * s.reversed + (ledger.map MT5Deal.netVolume).sum := by
  induction ledger generalizing s with
  | nil =>
      cases h
      simp
  | cons deal ledger ih =>
      obtain ⟨t, hstep, hrun⟩ := Transition.run_cons.mp h
      rw [ih hrun, abs_exposure_step hstep, List.map_cons, List.sum_cons]
      ring

theorem reversed_step (h : brokerStep s deal = some s') : s.reversed ≤ s'.reversed := by
  obtain ⟨⟨-, hentry⟩, rfl⟩ := brokerStep_eq_some.mp h
  dsimp only
  by_cases hkind : deal.entry = .inout
  · rw [hkind] at hentry
    rw [if_pos hkind]
    exact le_add_of_nonneg_right (sub_nonneg.mpr hentry.2)
  · rw [if_neg hkind]

theorem reversed_le (h : Transition.run brokerStep s ledger = some s') :
    s.reversed ≤ s'.reversed := by
  induction ledger generalizing s with
  | nil =>
      cases h
      exact le_rfl
  | cons deal ledger ih =>
      obtain ⟨t, hstep, hrun⟩ := Transition.run_cons.mp h
      exact (reversed_step hstep).trans (ih hrun)

theorem opening_of_flat (h : brokerStep s deal = some s') (hflat : s.exposure = 0) :
    s' = s ∨ (deal.entry = .entryIn ∧ 0 < deal.volume) := by
  obtain ⟨⟨-, hentry⟩, rfl⟩ := brokerStep_eq_some.mp h
  have hzero (hvolume : (deal.volume : ℚ) ≤ 0) : deal.signedVolume = 0 := by
    have habs := abs_signedVolume deal
    rw [le_antisymm hvolume deal.volume.property] at habs
    exact abs_eq_zero.mp habs
  cases hkind : deal.entry with
  | entryIn =>
      rcases deal.volume.property.eq_or_lt with hvolume | hvolume
      · left
        rw [hzero hvolume.ge, add_zero]
        rfl
      · exact .inr ⟨rfl, hvolume⟩
  | out =>
      rw [hkind, hflat, abs_zero] at hentry
      left
      rw [hzero hentry.2, add_zero]
      rfl
  | inout =>
      rw [hkind, hflat, zero_mul] at hentry
      exact absurd hentry.1 (lt_irrefl 0)
  | outBy =>
      rw [hkind] at hentry
      exact hentry.elim
  | unknown =>
      rw [hkind] at hentry
      exact hentry.elim

theorem exists_opening (h : Transition.run brokerStep s ledger = some s') (hflat : s.exposure = 0)
    (hreversed : s'.reversed ≠ s.reversed) :
    ∃ deal ∈ ledger, deal.entry = .entryIn ∧ 0 < deal.volume := by
  induction ledger generalizing s with
  | nil =>
      cases h
      exact absurd rfl hreversed
  | cons deal ledger ih =>
      obtain ⟨t, hstep, hrun⟩ := Transition.run_cons.mp h
      rcases opening_of_flat hstep hflat with rfl | ⟨hkind, hvolume⟩
      · obtain ⟨other, hother, hopening⟩ := ih hrun hflat hreversed
        exact ⟨other, List.mem_cons_of_mem _ hother, hopening⟩
      · exact ⟨deal, List.mem_cons_self, hkind, hvolume⟩

end Broker

/-! ## The reconstruction -/

section Reconstruction

/-- The running sums of the reconstruction do not round, in any order of the deals. -/
structure SumsExactly (R : Rounding) (ledger : List MT5Deal) : Prop where
  net : ∀ deals : List MT5Deal, deals.Perm ledger →
    netVolume R deals = (ledger.map MT5Deal.netVolume).sum
  volumes : ∀ deals : List MT5Deal, ∀ side : MT5Deal → Bool, deals.Perm (ledger.filter side) →
    R.sum (deals.map fun deal => (deal.volume : ℚ)) =
      ((ledger.filter side).map fun deal => (deal.volume : ℚ)).sum
  values : ∀ deals : List MT5Deal, ∀ side : MT5Deal → Bool, deals.Perm (ledger.filter side) →
    R.sum (deals.map fun deal => R.rnd (deal.price * deal.volume)) =
      ((ledger.filter side).map fun deal => R.rnd (deal.price * deal.volume)).sum
  pnl : ∀ deals : List MT5Deal, deals.Perm ledger →
    R.sum (deals.filterMap fun deal => (classifyTradingDeal R deal).toOption) =
      (ledger.map MT5Deal.realizedPnl).sum

/-- A reconstruction that is ready says that the position is closed exactly when no exposure is
left, its PnL is the sum over all deals, and every order of the deals gives the same. -/
def ReconstructsLedger (R : Rounding) (asOf : Timestamp) (positionId : ℕ) (ledger : List MT5Deal)
    (s : BrokerPosition) : Prop :=
  ∀ deals : List MT5Deal, deals.Perm ledger → ∀ assessment,
    reconstructPositionLifecycle R asOf positionId deals = .ok assessment →
    assessment.outcome = .ready →
    (assessment.isFullyClosed = some true ↔ s.exposure = 0) ∧
    assessment.realizedPnl = some (ledger.map MT5Deal.realizedPnl).sum ∧
    ∀ deals' : List MT5Deal, deals'.Perm ledger →
      reconstructPositionLifecycle R asOf positionId deals' = .ok assessment

variable {R : Rounding} {asOf : Timestamp} {positionId : ℕ} {ledger deals : List MT5Deal}
  {s s' : BrokerPosition} {deal : MT5Deal}

theorem trades_of_run (h : Transition.run brokerStep s ledger = some s') :
    ∀ deal ∈ ledger, deal.dealType ∈ [.buy, .sell] ∧ deal.entry ∈ [.entryIn, .out, .inout] := by
  induction ledger generalizing s with
  | nil => simp
  | cons deal ledger ih =>
      obtain ⟨t, hstep, hrun⟩ := Transition.run_cons.mp h
      refine List.forall_mem_cons.mpr ⟨?_, ih hrun⟩
      obtain ⟨⟨htype, hentry⟩, -⟩ := brokerStep_eq_some.mp hstep
      refine ⟨htype, ?_⟩
      cases hkind : deal.entry with
      | entryIn | out | inout => simp
      | outBy | unknown =>
          rw [hkind] at hentry
          exact hentry.elim

theorem lifecycleReason_eq_none (htime : epoch < deal.time) (htype : deal.dealType ∈ [.buy, .sell])
    (hentry : deal.entry ∈ [.entryIn, .out, .inout]) : lifecycleReason R deal = none := by
  have hclassified : ∃ q, classifyTradingDeal R deal = .ok q := by
    unfold classifyTradingDeal
    simp only [List.mem_cons, List.not_mem_nil, or_false] at hentry
    rcases hentry with h | h | h <;> rw [h] <;> exact ⟨_, rfl⟩
  obtain ⟨q, hq⟩ := hclassified
  unfold lifecycleReason
  rw [if_neg (not_le.mpr htime), hq]
  simp only [List.mem_cons, List.not_mem_nil, or_false] at htype
  rcases htype with h | h <;> rw [h]

theorem not_blocked_of_ledger (h : BrokerLedger positionId ledger s) (hperm : deals.Perm ledger) :
    ¬ LifecycleBlocked R deals positionId := by
  rintro ⟨deal, hdeal, -, hreason⟩
  have hmem := hperm.mem_iff.mp hdeal
  obtain ⟨htype, hentry⟩ := trades_of_run h.run deal hmem
  exact hreason (lifecycleReason_eq_none (h.time deal hmem) htype hentry)

theorem tradingDeals_of_ledger (h : BrokerLedger positionId ledger s) (hperm : deals.Perm ledger) :
    tradingDeals positionId deals = deals := by
  refine List.filter_eq_self.mpr fun deal hdeal => ?_
  have hmem := hperm.mem_iff.mp hdeal
  have hnot : deal.dealType ≠ .nonTrading := by
    intro heq
    have htype := (trades_of_run h.run deal hmem).1
    rw [heq] at htype
    simp at htype
  simp [h.position deal hmem, hnot]

theorem averagePrice_congr {deals' : List MT5Deal} (side : MT5Deal → Bool)
    (hexact : SumsExactly R ledger) (h : deals.Perm (ledger.filter side))
    (h' : deals'.Perm (ledger.filter side)) : averagePrice R deals = averagePrice R deals' := by
  unfold averagePrice
  rw [hexact.volumes deals side h, hexact.volumes deals' side h', hexact.values deals side h,
    hexact.values deals' side h']

theorem assessTradingDeals_perm (hexact : SumsExactly R ledger) (hperm : deals.Perm ledger) :
    assessTradingDeals R asOf positionId deals = assessTradingDeals R asOf positionId ledger := by
  have hnil (side : MT5Deal → Bool) : deals.filter side = [] ↔ ledger.filter side = [] := by
    rw [← List.length_eq_zero_iff, (hperm.filter side).length_eq, List.length_eq_zero_iff]
  have hprice (side : MT5Deal → Bool) :
      averagePrice R (deals.filter side) = averagePrice R (ledger.filter side) :=
    averagePrice_congr side hexact (hperm.filter side) (List.Perm.refl _)
  have htimes (side : MT5Deal → Bool) (k : Timestamp) :
      k ∈ (deals.filter side).map MT5Deal.time ↔ k ∈ (ledger.filter side).map MT5Deal.time :=
    ((hperm.filter side).map _).mem_iff
  have hentryTime := Keyed.min?_eq_of_mem_iff (htimes fun deal => deal.entry = .entryIn)
  have hexitTime := Keyed.max?_eq_of_mem_iff (htimes fun deal => deal.entry ≠ .entryIn)
  have hnet : netVolume R deals = netVolume R ledger :=
    (hexact.net deals hperm).trans (hexact.net ledger (List.Perm.refl _)).symm
  have hpnl := (hexact.pnl deals hperm).trans (hexact.pnl ledger (List.Perm.refl _)).symm
  dsimp only [assessTradingDeals]
  simp only [ne_eq, hnil, hprice, hnet, hpnl] at hentryTime hexitTime ⊢
  rw [hentryTime, hexitTime]

/-- The reconstruction closes a position exactly when its reversals opened at least half of what is
open. -/
theorem netVolume_nonpos_iff (h : BrokerLedger positionId ledger s) (hexact : SumsExactly R ledger)
    (hperm : deals.Perm ledger) : netVolume R deals ≤ 0 ↔ |s.exposure| ≤ 2 * s.reversed := by
  have hexposure := abs_exposure h.run
  rw [abs_zero, mul_zero, sub_zero, zero_add] at hexposure
  rw [hexact.net deals hperm, ← hexposure]
  exact sub_nonpos

/-- A position without exposure is closed by its deals. -/
theorem closed_of_flat (h : BrokerLedger positionId ledger s) (hflat : s.exposure = 0) :
    |s.exposure| ≤ 2 * s.reversed := by
  rw [hflat, abs_zero]
  exact mul_nonneg zero_le_two (reversed_le h.run)

/-- A position with a reversal is reconstructed without an error. -/
theorem exists_ready_of_reversed (h : BrokerLedger positionId ledger s)
    (hreversed : s.reversed ≠ 0) :
    ∃ a, reconstructPositionLifecycle R asOf positionId ledger = .ok a ∧ a.outcome = .ready := by
  have hopened : LifecycleOpened ledger positionId := by
    unfold LifecycleOpened
    rw [tradingDeals_of_ledger h (.refl _)]
    exact exists_opening h.run rfl hreversed
  obtain ⟨a, ha, hready⟩ :=
    reconstruct_of_opened h.positive (not_blocked_of_ledger h (.refl _)) hopened
  exact ⟨a, ha, hready.outcome⟩

theorem reconstruct_perm (h : BrokerLedger positionId ledger s) (hexact : SumsExactly R ledger)
    (hperm : deals.Perm ledger) : reconstructPositionLifecycle R asOf positionId deals =
      reconstructPositionLifecycle R asOf positionId ledger := by
  unfold reconstructPositionLifecycle
  rw [draftLifecycle_of_not_blocked (not_blocked_of_ledger h hperm),
    draftLifecycle_of_not_blocked (not_blocked_of_ledger h (.refl _)),
    tradingDeals_of_ledger h hperm, tradingDeals_of_ledger h (.refl _),
    assessTradingDeals_perm hexact hperm]

/-- What a reconstruction says of a ledger. -/
theorem reconstruct_spec {a : MT5PositionLifecycleAssessment} (h : BrokerLedger positionId ledger s)
    (hexact : SumsExactly R ledger)
    (ha : reconstructPositionLifecycle R asOf positionId ledger = .ok a) :
    (a.isFullyClosed = some true ↔ |s.exposure| ≤ 2 * s.reversed) ∧
      a.realizedPnl = some (ledger.map MT5Deal.realizedPnl).sum := by
  have hready := readyLifecycle_of_ok h.positive (not_blocked_of_ledger h (.refl _)) ha
  rw [tradingDeals_of_ledger h (.refl _)] at hready
  have hnet := netVolume_nonpos_iff h hexact (.refl _)
  refine ⟨?_, hready.pnl.trans (congrArg some (hexact.pnl ledger (.refl _)))⟩
  rw [← hnet]
  refine ⟨fun hclosed => not_lt.mp fun hpos => ?_, fun hle => (hready.closed hle).1⟩
  rw [hready.opened hpos] at hclosed
  cases hclosed

theorem exposure_of_reconstructsLedger (h : BrokerLedger positionId ledger s)
    (hexact : SumsExactly R ledger)
    (hreconstructs : ReconstructsLedger R asOf positionId ledger s) :
    s.exposure = 0 ∨ 2 * s.reversed < |s.exposure| := by
  by_contra hcon
  obtain ⟨hopen, hclosed⟩ := not_or.mp hcon
  have hreversed : s.reversed ≠ 0 := by
    intro hzero
    rw [hzero, mul_zero] at hclosed
    exact hopen (abs_nonpos_iff.mp (not_lt.mp hclosed))
  obtain ⟨a, ha, hready⟩ : ∃ a, reconstructPositionLifecycle R asOf positionId ledger = .ok a ∧
      a.outcome = .ready := exists_ready_of_reversed h hreversed
  have hflat := (hreconstructs ledger (.refl _) a ha hready).1
  exact hopen (hflat.mp ((reconstruct_spec h hexact ha).1.mpr (not_lt.mp hclosed)))

theorem reconstructsLedger_of_exposure (h : BrokerLedger positionId ledger s)
    (hexact : SumsExactly R ledger) (hcondition : s.exposure = 0 ∨ 2 * s.reversed < |s.exposure|) :
    ReconstructsLedger R asOf positionId ledger s := by
  rintro deals hperm a ha -
  rw [reconstruct_perm h hexact hperm] at ha
  obtain ⟨hclosed, hpnl⟩ := reconstruct_spec h hexact ha
  refine ⟨hclosed.trans ⟨fun hle => ?_, closed_of_flat h⟩, hpnl, fun deals' hperm' => ?_⟩
  · exact hcondition.resolve_right (not_lt.mpr hle)
  · rw [reconstruct_perm h hexact hperm', ha]

/-- **Closed if and only if flat.** Where no sum rounds, a reconstruction is right about a position
whatever the order of its deals, exactly when the position is flat or its exposure is more than
twice what its reversals opened. -/
theorem reconstructsLedger_iff (R : Rounding) (asOf : Timestamp) {positionId : ℕ}
    {ledger : List MT5Deal} {s : BrokerPosition} (h : BrokerLedger positionId ledger s)
    (hexact : SumsExactly R ledger) :
    ReconstructsLedger R asOf positionId ledger s ↔
      s.exposure = 0 ∨ 2 * s.reversed < |s.exposure| :=
  ⟨exposure_of_reconstructsLedger h hexact, reconstructsLedger_of_exposure h hexact⟩

end Reconstruction

/-! ## When no sum rounds -/

section Units

variable {p : ℕ} {e : ℤ} {ledger : List MT5Deal} {s s' : BrokerPosition} {deal : MT5Deal}

/-- The amounts of a deal that enter the sums. -/
def MT5Deal.amounts (deal : MT5Deal) : List ℚ :=
  [deal.volume, deal.price * deal.volume, deal.commission, deal.fee, deal.profit, deal.swap]

/-- Every amount is a multiple of one power of ten, and all of them together are at most `10 ^ 28`
units. -/
structure InUnits (e : ℤ) (ledger : List MT5Deal) : Prop where
  multiple : ∀ deal ∈ ledger, ∀ x ∈ deal.amounts, ∃ k : ℤ, x = k * 10 ^ e
  size : ((ledger.map fun deal => (deal.amounts.map abs).sum)).sum ≤ 10 ^ 28 * 10 ^ e

theorem le_amounts {x : ℚ} (h : x ∈ deal.amounts) : |x| ≤ (deal.amounts.map abs).sum :=
  List.single_le_sum (fun y hy => by
    obtain ⟨z, -, rfl⟩ := List.mem_map.mp hy
    exact abs_nonneg z) _ (List.mem_map_of_mem h)

theorem sum_filter_le {f : MT5Deal → ℚ} (hf : ∀ deal, 0 ≤ f deal) (side : MT5Deal → Bool)
    (ledger : List MT5Deal) : ((ledger.filter side).map f).sum ≤ (ledger.map f).sum :=
  (List.filter_sublist.map f).sum_le_sum fun x hx => by
    obtain ⟨deal, -, rfl⟩ := List.mem_map.mp hx
    exact hf deal

/-- A function of the deals that stays within their amounts adds up exactly. -/
theorem InUnits.sum_eq (h : InUnits e ledger) {f : MT5Deal → ℚ} {deals : List MT5Deal}
    (side : MT5Deal → Bool) (hperm : deals.Perm (ledger.filter side))
    (hmultiple : ∀ deal ∈ ledger, ∃ k : ℤ, f deal = k * 10 ^ e)
    (hsize : ∀ deal ∈ ledger, |f deal| ≤ (deal.amounts.map abs).sum) :
    Rounding.decimal28.sum (deals.map f) = ((ledger.filter side).map f).sum := by
  rw [← (hperm.map f).sum_eq]
  refine Rounding.sum_significant_multiples (e := e) (fun x hx => ?_) ?_
  · obtain ⟨deal, hdeal, rfl⟩ := List.mem_map.mp hx
    exact hmultiple deal (List.mem_of_mem_filter (hperm.mem_iff.mp hdeal))
  · calc ((deals.map f).map abs).sum
        = ((ledger.filter side).map fun deal => |f deal|).sum := by
          rw [List.map_map]
          exact (hperm.map _).sum_eq
      _ ≤ (ledger.map fun deal => |f deal|).sum := sum_filter_le (fun _ => abs_nonneg _) _ _
      _ ≤ (ledger.map fun deal => (deal.amounts.map abs).sum).sum :=
          List.sum_le_sum hsize
      _ ≤ 10 ^ 28 * 10 ^ e := h.size

theorem InUnits.rnd_eq (h : InUnits e ledger) (hdeal : deal ∈ ledger) {x : ℚ}
    (hmultiple : ∃ k : ℤ, x = k * 10 ^ e) (hsize : |x| ≤ (deal.amounts.map abs).sum) :
    Rounding.decimal28.rnd x = x := by
  obtain ⟨k, rfl⟩ := hmultiple
  refine Rounding.rnd_significant_multiple (hsize.trans (le_trans ?_ h.size))
  refine List.single_le_sum (fun y hy => ?_) _ (List.mem_map_of_mem hdeal)
  obtain ⟨other, -, rfl⟩ := List.mem_map.mp hy
  exact List.sum_nonneg fun z hz => by
    obtain ⟨w, -, rfl⟩ := List.mem_map.mp hz
    exact abs_nonneg w

theorem exists_add_multiple {x y : ℚ} (hx : ∃ k : ℤ, x = k * 10 ^ e)
    (hy : ∃ k : ℤ, y = k * 10 ^ e) :
    ∃ k : ℤ, x + y = k * 10 ^ e := by
  obtain ⟨j, rfl⟩ := hx
  obtain ⟨k, rfl⟩ := hy
  exact ⟨j + k, by push_cast; ring⟩

/-- The contribution of a deal in units is its realized profit or loss. -/
theorem InUnits.classify_eq (h : InUnits e ledger) (hdeal : deal ∈ ledger)
    (hentry : deal.entry ∈ [.entryIn, .out, .inout]) :
    classifyTradingDeal .decimal28 deal = .ok deal.realizedPnl := by
  obtain ⟨hvolume, hvalue, hcommission, hfee, hprofit, hswap⟩ :
      (∃ k : ℤ, (deal.volume : ℚ) = k * 10 ^ e) ∧
      (∃ k : ℤ, (deal.price * deal.volume : ℚ) = k * 10 ^ e) ∧
      (∃ k : ℤ, deal.commission = k * 10 ^ e) ∧ (∃ k : ℤ, deal.fee = k * 10 ^ e) ∧
      (∃ k : ℤ, deal.profit = k * 10 ^ e) ∧ (∃ k : ℤ, deal.swap = k * 10 ^ e) := by
    simpa [MT5Deal.amounts] using h.multiple deal hdeal
  have hsize : (deal.amounts.map abs).sum =
      |(deal.volume : ℚ)| + (|(deal.price * deal.volume : ℚ)| +
        (|deal.commission| + (|deal.fee| + (|deal.profit| + |deal.swap|)))) := by
    simp [MT5Deal.amounts]
  have hcosts := exists_add_multiple hcommission hfee
  have hclosed := exists_add_multiple hcosts hprofit
  have hrest : 0 ≤ |(deal.volume : ℚ)| + |(deal.price * deal.volume : ℚ)| := by positivity
  have hcostssize := abs_add_le deal.commission deal.fee
  have hclosedsize := abs_add_le (deal.commission + deal.fee) deal.profit
  have hallsize := abs_add_le (deal.commission + deal.fee + deal.profit) deal.swap
  have hprofitsize := abs_nonneg deal.profit
  have hswapsize := abs_nonneg deal.swap
  unfold classifyTradingDeal MT5Deal.realizedPnl
  rw [h.rnd_eq hdeal hcosts (by linarith), h.rnd_eq hdeal hclosed (by linarith),
    h.rnd_eq hdeal (exists_add_multiple hclosed hswap) (by linarith)]
  simp only [List.mem_cons, List.not_mem_nil, or_false] at hentry
  rcases hentry with hkind | hkind | hkind <;> rw [hkind]
  · simp
  · simp [add_assoc]
  · simp [add_assoc]

theorem abs_realizedPnl_le (deal : MT5Deal) :
    |deal.realizedPnl| ≤ (deal.amounts.map abs).sum := by
  have hsize : (deal.amounts.map abs).sum =
      |(deal.volume : ℚ)| + (|(deal.price * deal.volume : ℚ)| +
        (|deal.commission| + (|deal.fee| + (|deal.profit| + |deal.swap|)))) := by
    simp [MT5Deal.amounts]
  have hrest : 0 ≤ |(deal.volume : ℚ)| + |(deal.price * deal.volume : ℚ)| := by positivity
  have hcosts := abs_add_le deal.commission deal.fee
  have hclosing := abs_add_le deal.profit deal.swap
  rw [hsize]
  unfold MT5Deal.realizedPnl
  split_ifs
  · rw [add_zero]
    linarith [abs_nonneg deal.profit, abs_nonneg deal.swap]
  · linarith [abs_add_le (deal.commission + deal.fee) (deal.profit + deal.swap)]

theorem InUnits.exists_realizedPnl (h : InUnits e ledger) (hdeal : deal ∈ ledger) :
    ∃ k : ℤ, deal.realizedPnl = k * 10 ^ e := by
  have hmultiple := h.multiple deal hdeal
  have hcosts := exists_add_multiple (hmultiple deal.commission (by simp [MT5Deal.amounts]))
    (hmultiple deal.fee (by simp [MT5Deal.amounts]))
  unfold MT5Deal.realizedPnl
  split_ifs
  · rwa [add_zero]
  · exact exists_add_multiple hcosts (exists_add_multiple
      (hmultiple deal.profit (by simp [MT5Deal.amounts]))
      (hmultiple deal.swap (by simp [MT5Deal.amounts])))

/-- **Deals in units of a power of ten add up exactly**, as long as all their amounts together are
at most `10 ^ 28` units. -/
theorem sumsExactly_of_units (hrun : Transition.run brokerStep s ledger = some s')
    (h : InUnits e ledger) : SumsExactly .decimal28 ledger := by
  have hall : ledger.filter (fun _ => true) = ledger := List.filter_true ledger
  have hvolume : ∀ deal ∈ ledger, ∃ k : ℤ, (deal.volume : ℚ) = k * 10 ^ e := fun deal hdeal =>
    h.multiple deal hdeal _ (by simp [MT5Deal.amounts])
  have hvalue : ∀ deal ∈ ledger, Rounding.decimal28.rnd (deal.price * deal.volume) =
      deal.price * deal.volume := fun deal hdeal =>
    h.rnd_eq hdeal (h.multiple deal hdeal _ (by simp [MT5Deal.amounts])) (le_amounts (by
      simp [MT5Deal.amounts]))
  have hpnl : ∀ deal ∈ ledger, classifyTradingDeal .decimal28 deal = .ok deal.realizedPnl :=
    fun deal hdeal => h.classify_eq hdeal (trades_of_run hrun deal hdeal).2
  refine ⟨fun deals hperm => ?_, fun deals side hperm => ?_, fun deals side hperm => ?_,
    fun deals hperm => ?_⟩
  · rw [netVolume_eq_sum, ← hall]
    refine h.sum_eq _ (hall.symm ▸ hperm) (fun deal hdeal => ?_) fun deal _ => ?_
    · obtain ⟨k, hk⟩ := hvolume deal hdeal
      unfold MT5Deal.netVolume
      split_ifs
      · exact ⟨k, hk⟩
      · exact ⟨-k, by rw [hk]; push_cast; ring⟩
    · have habs : |deal.netVolume| = |(deal.volume : ℚ)| := by
        unfold MT5Deal.netVolume
        split_ifs
        · rfl
        · exact abs_neg _
      rw [habs]
      exact le_amounts (by simp [MT5Deal.amounts])
  · exact h.sum_eq side hperm hvolume fun deal _ => le_amounts (by simp [MT5Deal.amounts])
  · refine h.sum_eq side hperm (fun deal hdeal => ?_) fun deal hdeal => ?_
    · rw [hvalue deal hdeal]
      exact h.multiple deal hdeal _ (by simp [MT5Deal.amounts])
    · rw [hvalue deal hdeal]
      exact le_amounts (by simp [MT5Deal.amounts])
  · have hcontributions : deals.filterMap (fun deal =>
        (classifyTradingDeal .decimal28 deal).toOption) = deals.map MT5Deal.realizedPnl := by
      rw [← List.filterMap_eq_map]
      exact List.filterMap_congr fun deal hdeal => by
        rw [hpnl deal (hperm.mem_iff.mp hdeal)]
        rfl
    rw [hcontributions, ← hall]
    exact h.sum_eq _ (hall.symm ▸ hperm) (fun deal hdeal => h.exists_realizedPnl hdeal)
      fun deal _ => abs_realizedPnl_le deal

/-- **Closed if and only if flat**, for deals in units of a power of ten. -/
theorem reconstructsLedger_iff_of_units (asOf : Timestamp) {positionId : ℕ}
    (h : BrokerLedger positionId ledger s) (hunits : InUnits e ledger) :
    ReconstructsLedger .decimal28 asOf positionId ledger s ↔
      s.exposure = 0 ∨ 2 * s.reversed < |s.exposure| := by
  have hexact : SumsExactly .decimal28 ledger := sumsExactly_of_units h.run hunits
  exact ⟨exposure_of_reconstructsLedger h hexact, reconstructsLedger_of_exposure h hexact⟩

end Units

/-! A reversal that leaves less open than it closes, and one that leaves more. -/

/-- A deal of position 7. -/
def ledgerDeal (ticket : ℕ+) (dealType : MT5DealType) (entry : MT5DealEntry) (volume : Volume)
    (profit : ℚ) : MT5Deal where
  ticket
  positionId := 7
  time := ticket
  symbol := some btcusdt
  dealType
  entry
  volume
  price := 1
  profit

/-- Bought 5, reversed by selling 6, and sold 2 more. -/
def reversedLedger : List MT5Deal :=
  [ledgerDeal (Nat.succPNat 0) .buy .entryIn (5 : ℕ) 0,
    ledgerDeal (Nat.succPNat 1) .sell .inout 6 10,
    ledgerDeal (Nat.succPNat 2) .sell .entryIn (2 : ℕ) 0]

theorem reconstructsLedger_reversed :
    BrokerLedger 7 reversedLedger { exposure := -3, reversed := 1 } ∧
      ReconstructsLedger .decimal28 4 7 reversedLedger { exposure := -3, reversed := 1 } := by
  have hrun : Transition.run brokerStep {} reversedLedger =
      some { exposure := -3, reversed := 1 } := by decide +kernel
  have hledger : BrokerLedger 7 reversedLedger { exposure := -3, reversed := 1 } :=
    ⟨by decide, by decide +kernel, by decide +kernel, hrun⟩
  have hunits : InUnits 0 reversedLedger := by
    refine ⟨fun deal hdeal x hx => ?_, by decide +kernel⟩
    have hwhole : ∀ deal ∈ reversedLedger, ∀ x ∈ deal.amounts, x.den = 1 := by decide +kernel
    exact ⟨x.num, by rw [zpow_zero, mul_one]; exact (Rat.coe_int_num_of_den_eq_one
      (hwhole deal hdeal x hx)).symm⟩
  exact ⟨hledger, (reconstructsLedger_iff .decimal28 4 hledger
    (sumsExactly_of_units hrun hunits)).mpr (.inr (by norm_num))⟩

/-- Bought 1, and reversed by selling 3: the broker holds a short position of 2, and the
reconstruction says that it is closed. -/
theorem reversal_reported_closed :
    BrokerLedger 7 [ledgerDeal 1 .buy .entryIn 1 0, ledgerDeal 2 .sell .inout 3 10]
        { exposure := -2, reversed := 2 } ∧
      ¬ ReconstructsLedger .decimal28 4 7
        [ledgerDeal 1 .buy .entryIn 1 0, ledgerDeal 2 .sell .inout 3 10]
        { exposure := -2, reversed := 2 } := by
  refine ⟨⟨by decide, by decide +kernel, by decide +kernel, by decide +kernel⟩, fun h => ?_⟩
  have hclosed : (reconstructPositionLifecycle .decimal28 4 7
      [ledgerDeal 1 .buy .entryIn 1 0, ledgerDeal 2 .sell .inout 3 10]).map
        (fun a => (a.outcome, a.isFullyClosed)) = .ok (.ready, some true) := by decide +kernel
  obtain ⟨a, ha, hstate⟩ := map_ok_iff.mp hclosed
  obtain ⟨hready, hfully⟩ := Prod.mk.inj hstate
  exact absurd ((h _ (.refl _) a ha hready).1.mp hfully) (by norm_num)

end TradingAdvisor
