import TradingAdvisor.Core.ZoneInfo
import TradingAdvisor.Lib.Tiling
import TradingAdvisor.Mt5.History

/-!
# Trading days

A trading day is named by the broker-local date after the wall clock is set back to the rollover
hour; its interval is computed from that date through the wall clock. Dates are counted in days
from the epoch.

* `computeTradingDayKey`, `tradingDayInterval` — the name of a day and its interval;
* `computeRealizedDailyPnl` — the realized PnL of the deals in an interval;
* `TilesTime` — name and interval fit together, and the intervals tile time;
* **`tilesTime_iff`** — they do exactly when no transition jumps over a rollover boundary.
-/

namespace TradingAdvisor

open SignificantDigits Tiling

/-- Hours in microseconds. -/
def hours (n : ℤ) : Timestamp := minutes (60 * n)

variable (zone : ZoneInfo) (rolloverHour : Fin 24)

/-- The wall time at which a trading day begins. -/
def rolloverWallTime (day : ℤ) : ℤ := hours 24 * day + hours rolloverHour

/-- The broker-local date at the rollover boundary. -/
def computeTradingDayKey (asOf : Timestamp) : ℤ :=
  (zone.localTime asOf - hours rolloverHour) / hours 24

/-- The half-open interval of one trading day; its end is one wall-clock day after its start. -/
def tradingDayInterval (day : ℤ) : Timestamp × Timestamp :=
  let start := rolloverWallTime rolloverHour day
  let stop := start + hours 24
  (zone.toUtc .zero start, zone.toUtc .zero stop)

/-! ## The realized PnL of an interval -/

/-- What one deal means for the realized PnL of a window. -/
inductive DealVerdict
  | outside
  | contribution (value : ℚ)
  | blocked (reason : MT5RealizedPnLBlockReason)
  deriving DecidableEq

/-- The window is half-open; a deal with an unset time is blocked before the window is read. -/
def dealVerdict (R : Rounding) (windowStart windowEnd : Timestamp) (deal : MT5Deal) : DealVerdict :=
  if deal.time ≤ epoch then .blocked .malformedTimestamp
  else if ¬ (windowStart ≤ deal.time ∧ deal.time < windowEnd) then .outside
  else
    match deal.dealType with
    | .nonTrading => .contribution 0
    | .unknown => .blocked .unmappableDealType
    | .buy | .sell =>
        match classifyTradingDeal R deal with
        | .ok value => .contribution value
        | .error reason => .blocked reason

/-- The realized PnL of one window. -/
structure RealizedDailyPnL where
  outcome : MT5RealizedPnLOutcome
  realizedDailyPnl : Option ℚ
  blockedReasons : List MT5RealizedPnLBlockReason
  unsafeDealTickets : List ℕ+

/-- Sum the contributions; a single blocked deal blocks the assessment. -/
def computeRealizedDailyPnl (R : Rounding) (deals : List MT5Deal)
    (windowStart windowEnd : Timestamp) : RealizedDailyPnL :=
  let verdicts := deals.map fun deal => (deal.ticket, dealVerdict R windowStart windowEnd deal)
  let blocked := verdicts.filterMap fun (ticket, verdict) =>
    match verdict with
    | .blocked reason => some (ticket, reason)
    | _ => none
  let contributions := verdicts.filterMap fun (_, verdict) =>
    match verdict with
    | .contribution value => some value
    | _ => none
  if blocked ≠ [] then
    { outcome := .blocked, realizedDailyPnl := none
      blockedReasons :=
        MT5RealizedPnLBlockReason.order.filter fun reason => reason ∈ blocked.map Prod.snd
      unsafeDealTickets := blocked.map Prod.fst }
  else
    { outcome := .ready
      realizedDailyPnl := some (contributions.foldl (fun total value => R.rnd (total + value)) 0)
      blockedReasons := [], unsafeDealTickets := [] }

/-- The deal closes exposure. -/
def MT5Deal.IsClosing (deal : MT5Deal) : Prop :=
  (deal.dealType = .buy ∨ deal.dealType = .sell) ∧ (deal.entry = .out ∨ deal.entry = .inout)

/-- The deal contributes to the realized PnL of a trading day. -/
def CountedOn (R : Rounding) (deal : MT5Deal) (day : ℤ) : Prop :=
  ∃ value, dealVerdict R (tradingDayInterval zone rolloverHour day).1
    (tradingDayInterval zone rolloverHour day).2 deal = .contribution value

/-! ## Tiling -/

/-- The instant lies in the interval of the trading day. -/
def InTradingDay (day : ℤ) (t : Timestamp) : Prop :=
  (tradingDayInterval zone rolloverHour day).1 ≤ t ∧
    t < (tradingDayInterval zone rolloverHour day).2

instance (day : ℤ) (t : Timestamp) : Decidable (InTradingDay zone rolloverHour day t) :=
  inferInstanceAs (Decidable (_ ∧ _))

/-- The trading days tile time. -/
structure TilesTime : Prop where
  contains : ∀ asOf, InTradingDay zone rolloverHour (computeTradingDayKey zone rolloverHour asOf) asOf
  meets : ∀ day, (tradingDayInterval zone rolloverHour day).2 =
    (tradingDayInterval zone rolloverHour (day + 1)).1
  monotone : Monotone (computeTradingDayKey zone rolloverHour)
  once : ∀ t, ∃! day, InTradingDay zone rolloverHour day t
  counted : ∀ (R : Rounding) (deal : MT5Deal), deal.IsClosing → epoch < deal.time →
    ∃! day, CountedOn zone rolloverHour R deal day

/-- No transition passes a rollover boundary twice, or skips over it. -/
def NoBoundaryJump : Prop :=
  ∀ day, ∀ i < zone.size, ¬ zone.JumpsOver i (rolloverWallTime rolloverHour day)

variable {zone rolloverHour}

theorem hours_pos : 0 < hours 24 := by decide

theorem tradingDayInterval_start (day : ℤ) : (tradingDayInterval zone rolloverHour day).1 =
    zone.toUtc .zero (rolloverWallTime rolloverHour day) := rfl

/-- **An interval ends where the next one starts.** -/
theorem tradingDayInterval_meets (day : ℤ) : (tradingDayInterval zone rolloverHour day).2 =
    (tradingDayInterval zone rolloverHour (day + 1)).1 := by
  show zone.toUtc .zero (rolloverWallTime rolloverHour day + hours 24) =
    zone.toUtc .zero (rolloverWallTime rolloverHour (day + 1))
  have hwall : rolloverWallTime rolloverHour day + hours 24 =
      rolloverWallTime rolloverHour (day + 1) := by
    unfold rolloverWallTime
    ring
  rw [hwall]

theorem inTradingDay_iff {day : ℤ} {t : Timestamp} : InTradingDay zone rolloverHour day t ↔
    Covers (fun day => (tradingDayInterval zone rolloverHour day).1) day t := by
  rw [InTradingDay, tradingDayInterval_meets, Covers]

theorem le_computeTradingDayKey_iff {day : ℤ} {t : Timestamp} :
    day ≤ computeTradingDayKey zone rolloverHour t ↔
      rolloverWallTime rolloverHour day ≤ zone.localTime t := by
  rw [computeTradingDayKey, Int.le_ediv_iff_mul_le hours_pos, rolloverWallTime,
    mul_comm day]
  constructor <;> intro h <;> linarith

/-- Without a jump over a boundary, starts and names form a Galois connection. -/
theorem gc_tradingDay (h : NoBoundaryJump zone rolloverHour) :
    GaloisConnection (fun day => (tradingDayInterval zone rolloverHour day).1)
      (computeTradingDayKey zone rolloverHour) := by
  intro day t
  show (tradingDayInterval zone rolloverHour day).1 ≤ t ↔ _
  rw [tradingDayInterval_start, ZoneInfo.toUtc_le_iff (h day), le_computeTradingDayKey_iff]

/-! ## A jump over a boundary breaks the tiling -/

/-- The wall clock reaches a boundary from its instant on, and not before. -/
def ReachedAt (zone : ZoneInfo) (wall : ℤ) : Prop :=
  ∀ t, zone.toUtc .zero wall ≤ t ↔ wall ≤ zone.localTime t

variable {wall : ℤ} {i : ℕ}

/-- A clock set back over the boundary shows an earlier time after it. -/
theorem not_reachedAt_of_setBack (hi : i < zone.size)
    (hback : zone.instantAt i + zone.offsetAt (i + 1) < wall)
    (hwall : wall < zone.instantAt i + zone.offsetAt i) : ¬ ReachedAt zone wall := by
  intro h
  have hbefore := (h (zone.instantAt i - 1)).mpr (by
    rw [ZoneInfo.localTime_before_instantAt hi]
    omega)
  have hafter := (h (zone.instantAt i)).mp (by omega)
  rw [ZoneInfo.localTime_instantAt hi] at hafter
  omega

/-- The transition with a boundary in its gap is the next one of the search. -/
theorem localSegment_of_gap (hi : i < zone.size)
    (hskip : zone.instantAt i + zone.offsetAt i < wall)
    (hwall : wall < zone.instantAt i + zone.offsetAt (i + 1)) (h : ReachedAt zone wall) :
    zone.toUtc .zero wall = zone.instantAt i ∧ zone.localSegment .zero wall = i := by
  have hreached := (h (zone.instantAt i)).mpr (by
    rw [ZoneInfo.localTime_instantAt hi]
    omega)
  have hbefore := (h (zone.instantAt i - 1)).not.mpr (by
    rw [ZoneInfo.localTime_before_instantAt hi]
    omega)
  have hinstant : zone.toUtc .zero wall = zone.instantAt i := by omega
  refine ⟨hinstant, ?_⟩
  have hahead : ∀ j < zone.size, wall < zone.localTransition .zero j ↔ i ≤ j := by
    intro j hj
    show wall < zone.instantAt j + max (zone.offsetAt j) (zone.offsetAt (j + 1)) ↔ _
    rcases lt_trichotomy j i with hlt | rfl | hgt
    · -- an earlier transition is over before the boundary is reached
      have horder := ZoneInfo.instantAt_lt hlt hi
      have hat := (h (zone.instantAt j)).not.mp (by omega)
      have hprev := (h (zone.instantAt j - 1)).not.mp (by omega)
      rw [ZoneInfo.localTime_instantAt hj] at hat
      rw [ZoneInfo.localTime_before_instantAt hj] at hprev
      have hmax : max (zone.offsetAt j) (zone.offsetAt (j + 1)) ≤ wall - zone.instantAt j :=
        max_le (by omega) (by omega)
      omega
    · have hmax := le_max_right (zone.offsetAt j) (zone.offsetAt (j + 1))
      omega
    · -- a later one starts from a clock past the boundary
      have horder := ZoneInfo.instantAt_lt hgt hj
      have hprev := (h (zone.instantAt j - 1)).mp (by omega)
      rw [ZoneInfo.localTime_before_instantAt hj] at hprev
      have hmax := le_max_left (zone.offsetAt j) (zone.offsetAt (j + 1))
      omega
  have hmono : ∀ j k, j ≤ k → k < zone.size → wall < zone.localTransition .zero j →
      wall < zone.localTransition .zero k := by
    intro j k hjk hk hj
    have := (hahead j (by omega)).mp hj
    exact (hahead k hk).mpr (by omega)
  have hle := (ZoneInfo.localSegment_le_iff hmono hi).mpr ((hahead i hi).mpr le_rfl)
  rcases i with _ | i
  · omega
  · have hprev : ¬ zone.localSegment .zero wall ≤ i := by
      rw [ZoneInfo.localSegment_le_iff hmono (by omega), hahead i (by omega)]
      omega
    omega

theorem not_jumpsOver_of_reachedAt (h : ReachedAt zone wall) (hi : i < zone.size) :
    ¬ zone.JumpsOver i wall := by
  rintro ⟨hmin, hmax⟩
  simp only [ZoneInfo.localTransition] at hmin hmax
  by_cases hback : zone.offsetAt (i + 1) ≤ zone.offsetAt i
  · rw [min_eq_right hback] at hmin
    rw [max_eq_left hback] at hmax
    exact not_reachedAt_of_setBack hi hmin hmax h
  · rw [min_eq_left (by omega)] at hmin
    rw [max_eq_right (by omega)] at hmax
    obtain ⟨hinstant, hsegment⟩ := localSegment_of_gap hi hmin hmax h
    -- the first reading of a skipped time lies after the transition
    rw [ZoneInfo.toUtc, ZoneInfo.utcoffset, hsegment] at hinstant
    omega

/-! ## The trading days tile time exactly without such a jump -/

/-- A start is at most the largest offset away from its wall time. -/
theorem exists_start_bound (zone : ZoneInfo) (rolloverHour : Fin 24) : ∃ bound, ∀ day,
    rolloverWallTime rolloverHour day - bound ≤ (tradingDayInterval zone rolloverHour day).1 ∧
      (tradingDayInterval zone rolloverHour day).1 ≤ rolloverWallTime rolloverHour day + bound := by
  obtain ⟨bound, hbound⟩ := zone.exists_offset_bound
  refine ⟨bound, fun day => ?_⟩
  rw [tradingDayInterval_start, ZoneInfo.toUtc, ZoneInfo.utcoffset]
  have := abs_le.mp (hbound (zone.localSegment .zero (rolloverWallTime rolloverHour day)))
  constructor <;> linarith

theorem exists_start_le (t : Timestamp) (day : ℤ) :
    ∃ day' ≤ day, (tradingDayInterval zone rolloverHour day').1 ≤ t := by
  obtain ⟨bound, hbound⟩ := exists_start_bound zone rolloverHour
  refine ⟨min day ((t - bound - hours rolloverHour) / hours 24), min_le_left _ _, ?_⟩
  refine le_trans (hbound _).2 ?_
  have hfloor := Int.ediv_mul_le (t - bound - hours rolloverHour) hours_pos.ne'
  have hmin := min_le_right day ((t - bound - hours rolloverHour) / hours 24)
  rw [rolloverWallTime]
  nlinarith [hours_pos]

theorem exists_lt_start (t : Timestamp) (day : ℤ) :
    ∃ day', day ≤ day' ∧ t < (tradingDayInterval zone rolloverHour day').1 := by
  obtain ⟨bound, hbound⟩ := exists_start_bound zone rolloverHour
  refine ⟨max day ((t + bound - hours rolloverHour) / hours 24 + 1), le_max_left _ _, ?_⟩
  refine lt_of_lt_of_le ?_ (hbound _).1
  have hfloor := Int.lt_ediv_add_one_mul_self (t + bound - hours rolloverHour) hours_pos
  have hmax := le_max_right day ((t + bound - hours rolloverHour) / hours 24 + 1)
  rw [rolloverWallTime]
  nlinarith [hours_pos]

/-- A closing deal counts on a trading day exactly when it lies in its interval. -/
theorem countedOn_iff {R : Rounding} {deal : MT5Deal} {day : ℤ} (hclosing : deal.IsClosing)
    (htime : epoch < deal.time) :
    CountedOn zone rolloverHour R deal day ↔ InTradingDay zone rolloverHour day deal.time := by
  have hvalue : ∃ value, classifyTradingDeal R deal = .ok value := by
    rcases hclosing.2 with h | h <;> exact ⟨_, by rw [classifyTradingDeal, h]⟩
  obtain ⟨value, hvalue⟩ := hvalue
  rw [CountedOn, InTradingDay, dealVerdict, if_neg (not_le.mpr htime)]
  by_cases hwindow : (tradingDayInterval zone rolloverHour day).1 ≤ deal.time ∧
      deal.time < (tradingDayInterval zone rolloverHour day).2
  · rw [if_neg (not_not.mpr hwindow)]
    rcases hclosing.1 with h | h <;> simp [h, hvalue, hwindow]
  · rw [if_pos hwindow]
    simp [hwindow]

theorem tilesTime_of_noBoundaryJump (h : NoBoundaryJump zone rolloverHour) :
    TilesTime zone rolloverHour := by
  have hgc := gc_tradingDay h
  have honce : ∀ t, ∃! day, InTradingDay zone rolloverHour day t := by
    intro t
    refine ⟨computeTradingDayKey zone rolloverHour t, ?_, fun day hday => ?_⟩
    · exact inTradingDay_iff.mpr ((covers_iff_of_gc hgc).mpr rfl)
    · exact ((covers_iff_of_gc hgc).mp (inTradingDay_iff.mp hday)).symm
  refine ⟨fun t => ?_, tradingDayInterval_meets, hgc.monotone_u, honce, ?_⟩
  · exact inTradingDay_iff.mpr ((covers_iff_of_gc hgc).mpr rfl)
  · intro R deal hclosing htime
    simp only [countedOn_iff hclosing htime]
    exact honce deal.time

theorem noBoundaryJump_of_tilesTime (h : TilesTime zone rolloverHour) :
    NoBoundaryJump zone rolloverHour := by
  have hgc : GaloisConnection (fun day => (tradingDayInterval zone rolloverHour day).1)
      (computeTradingDayKey zone rolloverHour) := by
    refine gc_of_covers (fun t day hday => ?_) exists_start_le exists_lt_start
    exact (h.once t).unique (inTradingDay_iff.mpr hday) (h.contains t)
  intro day i hi
  refine not_jumpsOver_of_reachedAt (fun t => ?_) hi
  rw [← le_computeTradingDayKey_iff]
  exact hgc day t

/-- **The trading days tile time exactly when no transition jumps over a rollover boundary.** -/
theorem tilesTime_iff : TilesTime zone rolloverHour ↔ NoBoundaryJump zone rolloverHour :=
  ⟨noBoundaryJump_of_tilesTime, tilesTime_of_noBoundaryJump⟩

/-- Newfoundland in the autumn of 2010: at 00:01 on the seventh of November the clocks went back
to 23:01. -/
def stJohns : ZoneInfo where
  initialOffset := -minutes 150
  transitions := [{ instant := hours 24 * 14920 + minutes 151, offset := -minutes 210 }]
  increasing := by simp

/-- At that instant the day is again the sixth, whose interval ended a minute before. -/
theorem stJohns_not_tilesTime : ¬ TilesTime stJohns 0 := by
  intro h
  have hsixth : ¬ InTradingDay stJohns 0 (computeTradingDayKey stJohns 0
      (hours 24 * 14920 + minutes 151)) (hours 24 * 14920 + minutes 151) := by decide +kernel
  exact hsixth (h.contains _)

end TradingAdvisor
