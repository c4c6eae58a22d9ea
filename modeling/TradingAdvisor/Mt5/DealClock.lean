import TradingAdvisor.Mt5.TradingDay

/-!
# The clock of deals and the clock of bars

The terminal reports bars and deals in one epoch. A bar's seconds are read as the wall clock of
the server; a deal's milliseconds are read as an instant.

* `normalizeMt5ServerTimestamp`, `normalizeDealTimestamp` — the two readings;
* `OneClock` — a deal at the second of a bar is at the instant of the bar;
* **`oneClock_iff`** — it is exactly where the server clock shows UTC.
-/

namespace TradingAdvisor

/-- Seconds in microseconds. -/
def seconds (n : ℤ) : Timestamp := n * 1000000

/-- The first second of year 1. -/
def minSecond : ℤ := -62135596800

/-- The last second of year 9999. -/
def maxSecond : ℤ := 253402300799

/-- The UTC datetime of an epoch second; it exists in the years 1 to 9999. -/
def fromTimestamp (second : ℤ) : Option Timestamp :=
  if minSecond ≤ second ∧ second ≤ maxSecond then some (seconds second) else none

/-- Why a bar time has no instant. -/
inductive BarTimeError
  | outOfRange
  | wallTime (error : ZoneInfo.WallTimeError)
  deriving DecidableEq, Repr

/-- The instant of a bar: its seconds are the digits of the server's wall clock. -/
def normalizeMt5ServerTimestamp (rawEpochSeconds : ℤ) (zone : ZoneInfo) :
    Except BarTimeError Timestamp :=
  match fromTimestamp rawEpochSeconds with
  | none => .error .outOfRange
  | some naiveWallClock =>
      match zone.resolveUnambiguousUtc naiveWallClock with
      | .error e => .error (.wallTime e)
      | .ok t => if seconds minSecond ≤ t ∧ t < seconds (maxSecond + 1) then .ok t
          else .error .outOfRange

/-- The instant of a deal: its milliseconds count from the UTC epoch. -/
def normalizeDealTimestamp (timeMsc : ℤ) : Option Timestamp :=
  if timeMsc ≤ 0 then none
  else (fromTimestamp (timeMsc / 1000)).map fun t => t + timeMsc % 1000 * 1000

/-- A deal at the second of the bar has the bar's instant, and so the same place relative to every
window. -/
structure OneClock (x : ℤ) (bar : Timestamp) : Prop where
  sameInstant : normalizeDealTimestamp (1000 * x) = some bar
  sameWindow : ∀ a b, (∃ deal ∈ normalizeDealTimestamp (1000 * x), a ≤ deal ∧ deal ≤ b) ↔
    a ≤ bar ∧ bar ≤ b

variable {zone : ZoneInfo} {x : ℤ} {bar : Timestamp}

/-- The instant of a bar is its wall time less the offset of the server clock. -/
theorem normalizeMt5ServerTimestamp_ok (h : normalizeMt5ServerTimestamp x zone = .ok bar) :
    fromTimestamp x = some (seconds x) ∧ bar = seconds x - zone.utcoffset .zero (seconds x) := by
  unfold normalizeMt5ServerTimestamp at h
  rcases hx : fromTimestamp x with _ | wall
  · rw [hx] at h
    cases h
  · have hwall : wall = seconds x := by
      unfold fromTimestamp at hx
      split_ifs at hx
      exact (Option.some.inj hx).symm
    subst hwall
    refine ⟨rfl, ?_⟩
    simp only [hx, ZoneInfo.resolveUnambiguousUtc] at h
    by_cases hfold : zone.utcoffset .zero (seconds x) = zone.utcoffset .one (seconds x)
    · simp only [if_pos hfold] at h
      split_ifs at h
      cases h
      rfl
    · simp only [if_neg hfold] at h
      split_ifs at h

theorem normalizeDealTimestamp_thousand (hx : 0 < x) :
    normalizeDealTimestamp (1000 * x) = fromTimestamp x := by
  have hdiv : 1000 * x / 1000 = x := by omega
  have hmod : 1000 * x % 1000 = 0 := by omega
  rw [normalizeDealTimestamp, if_neg (by omega), hdiv, hmod]
  cases fromTimestamp x <;> simp

/-- **A deal at the second of a bar has the instant of the bar exactly when the second is after the
epoch and the server clock shows UTC there.** -/
theorem oneClock_iff (h : normalizeMt5ServerTimestamp x zone = .ok bar) :
    OneClock x bar ↔ 0 < x ∧ zone.utcoffset .zero (seconds x) = 0 := by
  obtain ⟨hrange, hbar⟩ := normalizeMt5ServerTimestamp_ok h
  constructor
  · intro hclock
    have hpos : 0 < x := by
      by_contra hneg
      have hnone : normalizeDealTimestamp (1000 * x) = none := if_pos (by omega)
      rw [hclock.sameInstant] at hnone
      cases hnone
    refine ⟨hpos, ?_⟩
    have hdeal := hclock.sameInstant
    rw [normalizeDealTimestamp_thousand hpos, hrange, Option.some.injEq] at hdeal
    linarith
  · rintro ⟨hpos, hoffset⟩
    have hdeal : normalizeDealTimestamp (1000 * x) = some bar := by
      rw [normalizeDealTimestamp_thousand hpos, hrange, hbar, hoffset, sub_zero]
    refine ⟨hdeal, fun a b => ?_⟩
    rw [hdeal]
    simp

/-- A server that shows UTC. -/
def utcServer : ZoneInfo := .fixed 0

theorem oneClock_utcServer :
    normalizeMt5ServerTimestamp 1700000000 utcServer = .ok (seconds 1700000000) ∧
      OneClock 1700000000 (seconds 1700000000) := by
  have hbar : normalizeMt5ServerTimestamp 1700000000 utcServer = .ok (seconds 1700000000) := by
    decide +kernel
  exact ⟨hbar, (oneClock_iff hbar).mpr (by decide +kernel)⟩

/-- A server three hours ahead of UTC. -/
def eestServer : ZoneInfo := .fixed (hours 3)

/-- On such a server the deal is three hours after the bar that contains it. -/
theorem not_oneClock_eestServer :
    normalizeMt5ServerTimestamp 1700000000 eestServer = .ok (seconds 1699989200) ∧
      normalizeDealTimestamp (1000 * 1700000000) = some (seconds 1700000000) ∧
      ¬ OneClock 1700000000 (seconds 1699989200) := by
  have hdeal : normalizeDealTimestamp (1000 * 1700000000) = some (seconds 1700000000) := by
    decide +kernel
  refine ⟨by decide +kernel, hdeal, fun h => ?_⟩
  have hsame := h.sameInstant
  rw [hdeal] at hsame
  exact absurd hsame (by decide)

end TradingAdvisor
