import Mathlib.Algebra.Order.Ring.Int
import Mathlib.Algebra.Order.BigOperators.Group.List
import TradingAdvisor.Core.Base
import TradingAdvisor.Lib.Bisect

/-!
# Time zones

A zone is a step function from instants to UTC offsets. Its wall clock repeats or skips time at a
transition; a wall time is read with `fold = 0`, the first reading, or `fold = 1`.

* `ZoneInfo`, `ZoneInfo.localTime`, `ZoneInfo.utcoffset` — the zone in both directions;
* `ZoneInfo.toUtc` — the instant of a wall time;
* `ZoneInfo.resolveUnambiguousUtc` — the instant of a wall time that exists exactly once;
* `ZoneInfo.toUtc_le_iff` — **a wall time that no transition jumps over is reached at its
  instant**.
-/

namespace TradingAdvisor

open Bisect

/-- One change of the UTC offset. -/
structure ZoneTransition where
  instant : Timestamp
  offset : ℤ

/-- A time zone: an offset, and its changes in the order of time. -/
structure ZoneInfo where
  initialOffset : ℤ
  transitions : List ZoneTransition
  increasing : transitions.Pairwise fun a b => a.instant < b.instant

/-- A zone whose offset never changes. -/
def ZoneInfo.fixed (offset : ℤ) : ZoneInfo := ⟨offset, [], .nil⟩

/-- Which reading of a wall time is meant. -/
inductive Fold
  | zero
  | one
  deriving DecidableEq, Repr

namespace ZoneInfo

variable (zone : ZoneInfo)

/-- Number of transitions. -/
def size : ℕ := zone.transitions.length

/-- The instant of a transition. -/
def instantAt (i : ℕ) : ℤ := (zone.transitions[i]?.map ZoneTransition.instant).getD 0

/-- The offset after so many transitions. -/
def offsetAt : ℕ → ℤ
  | 0 => zone.initialOffset
  | i + 1 => (zone.transitions[i]?.map ZoneTransition.offset).getD zone.initialOffset

/-- The wall time from which the offset after a transition holds. -/
def localTransition (fold : Fold) (i : ℕ) : ℤ :=
  match fold with
  | .zero => zone.instantAt i + max (zone.offsetAt i) (zone.offsetAt (i + 1))
  | .one => zone.instantAt i + min (zone.offsetAt i) (zone.offsetAt (i + 1))

/-- How many transitions are at or before an instant. -/
def segment (t : ℤ) : ℕ := bisectRight (fun i => t < zone.instantAt i) zone.size

/-- The wall time at an instant. -/
def localTime (t : ℤ) : ℤ := t + zone.offsetAt (zone.segment t)

/-- How many transitions are over at a wall time. -/
def localSegment (fold : Fold) (wall : ℤ) : ℕ :=
  bisectRight (fun i => wall < zone.localTransition fold i) zone.size

/-- The offset at a wall time. -/
def utcoffset (fold : Fold) (wall : ℤ) : ℤ := zone.offsetAt (zone.localSegment fold wall)

/-- The instant of a wall time. -/
def toUtc (fold : Fold) (wall : ℤ) : ℤ := wall - zone.utcoffset fold wall

/-- A transition jumps over a wall time: its clock passes the time twice, or never shows it. -/
def JumpsOver (i : ℕ) (wall : ℤ) : Prop :=
  zone.localTransition .one i < wall ∧ wall < zone.localTransition .zero i

instance (i : ℕ) (wall : ℤ) : Decidable (zone.JumpsOver i wall) :=
  inferInstanceAs (Decidable (_ ∧ _))

/-- Why a wall time has no single instant. -/
inductive WallTimeError
  | ambiguous
  | nonexistent
  deriving DecidableEq, Repr

/-- The instant of a wall time that exists exactly once. -/
def resolveUnambiguousUtc (wall : ℤ) : Except WallTimeError Timestamp :=
  if zone.utcoffset .zero wall = zone.utcoffset .one wall then .ok (zone.toUtc .zero wall)
  else if zone.localTime (zone.toUtc .zero wall) = wall ∧
      zone.localTime (zone.toUtc .one wall) = wall then .error .ambiguous
  else .error .nonexistent

variable {zone} {t wall : ℤ} {i j : ℕ}

/-! ## From instants to wall times -/

theorem instantAt_lt (hij : i < j) (hj : j < zone.size) : zone.instantAt i < zone.instantAt j := by
  have hi : i < zone.transitions.length := lt_trans hij hj
  have h := List.pairwise_iff_getElem.mp zone.increasing i j hi hj hij
  simpa [instantAt, List.getElem?_eq_getElem hi, List.getElem?_eq_getElem hj] using h

theorem instantAt_le (hij : i ≤ j) (hj : j < zone.size) : zone.instantAt i ≤ zone.instantAt j := by
  rcases hij.eq_or_lt with rfl | hlt
  · exact le_refl _
  · exact (instantAt_lt hlt hj).le

theorem segment_mono (i j : ℕ) (hij : i ≤ j) (hj : j < zone.size) (h : t < zone.instantAt i) :
    t < zone.instantAt j :=
  lt_of_lt_of_le h (instantAt_le hij hj)

theorem segment_le_iff (hi : i < zone.size) : zone.segment t ≤ i ↔ t < zone.instantAt i :=
  bisectRight_le_iff segment_mono hi

theorem segment_le_size : zone.segment t ≤ zone.size := bisectRight_le_length segment_mono

/-- The transition before the segment is over. -/
theorem instantAt_le_of_segment (h : zone.segment t = i + 1) : zone.instantAt i ≤ t := by
  have hi : i < zone.size := by
    have : zone.segment t ≤ zone.size := segment_le_size
    omega
  rw [← not_lt, ← segment_le_iff hi]
  omega

theorem segment_instantAt (hi : i < zone.size) : zone.segment (zone.instantAt i) = i + 1 := by
  have hlt : ¬ zone.segment (zone.instantAt i) ≤ i := by
    rw [segment_le_iff hi]
    exact lt_irrefl _
  have hle : zone.segment (zone.instantAt i) ≤ i + 1 := by
    by_cases hnext : i + 1 < zone.size
    · rw [segment_le_iff hnext]
      exact instantAt_lt (Nat.lt_add_one i) hnext
    · have : zone.segment (zone.instantAt i) ≤ zone.size := segment_le_size
      omega
  omega

theorem segment_before_instantAt (hi : i < zone.size) :
    zone.segment (zone.instantAt i - 1) = i := by
  have hle : zone.segment (zone.instantAt i - 1) ≤ i := by
    rw [segment_le_iff hi]
    omega
  rcases i with _ | i
  · omega
  · have hlt : ¬ zone.segment (zone.instantAt (i + 1) - 1) ≤ i := by
      rw [segment_le_iff (by omega)]
      have := instantAt_lt (Nat.lt_add_one i) hi
      omega
    omega

/-- The clock just after a transition. -/
theorem localTime_instantAt (hi : i < zone.size) :
    zone.localTime (zone.instantAt i) = zone.instantAt i + zone.offsetAt (i + 1) := by
  rw [localTime, segment_instantAt hi]

/-- The clock just before a transition. -/
theorem localTime_before_instantAt (hi : i < zone.size) :
    zone.localTime (zone.instantAt i - 1) = zone.instantAt i - 1 + zone.offsetAt i := by
  rw [localTime, segment_before_instantAt hi]

theorem exists_offset_bound : ∃ bound, ∀ i, |zone.offsetAt i| ≤ bound := by
  refine ⟨|zone.initialOffset| + (zone.transitions.map fun tr => |tr.offset|).sum, fun i => ?_⟩
  have hpos : ∀ x ∈ zone.transitions.map fun tr => |tr.offset|, 0 ≤ x := by
    intro x hx
    obtain ⟨tr, -, rfl⟩ := List.mem_map.mp hx
    exact abs_nonneg _
  have hsum := List.sum_nonneg hpos
  have hinitial := abs_nonneg zone.initialOffset
  rcases i with _ | i
  · show |zone.initialOffset| ≤ _
    omega
  · rw [offsetAt]
    rcases htr : zone.transitions[i]? with _ | tr
    · show |zone.initialOffset| ≤ _
      omega
    · have hmem : |tr.offset| ∈ zone.transitions.map fun tr => |tr.offset| :=
        List.mem_map_of_mem (List.mem_of_getElem? htr)
      have hle := List.single_le_sum hpos _ hmem
      show |tr.offset| ≤ _
      omega

/-! ## From wall times to instants -/

/-- What the search among the transitions says of the first reading of a wall time. -/
theorem localSegment_le_iff
    (hmono : ∀ i j, i ≤ j → j < zone.size → wall < zone.localTransition .zero i →
      wall < zone.localTransition .zero j) (hi : i < zone.size) :
    zone.localSegment .zero wall ≤ i ↔ wall < zone.localTransition .zero i :=
  bisectRight_le_iff hmono hi

/-- Over a wall time that no transition jumps over the search is monotone, even where the local
transitions are not in order. -/
theorem localTransition_mono (hjump : ∀ i < zone.size, ¬ zone.JumpsOver i wall) (i j : ℕ)
    (hij : i ≤ j) (hj : j < zone.size) (h : wall < zone.localTransition .zero i) :
    wall < zone.localTransition .zero j := by
  induction j, hij using Nat.le_induction with
  | base => exact h
  | succ j hij ih =>
      have hprev := ih (by omega)
      have hno := hjump j (by omega)
      simp only [JumpsOver, localTransition, not_and, not_lt] at hno hprev ⊢
      have hlt := instantAt_lt (Nat.lt_add_one j) hj
      have hmin := min_le_right (zone.offsetAt j) (zone.offsetAt (j + 1))
      have hmax := le_max_left (zone.offsetAt (j + 1)) (zone.offsetAt (j + 1 + 1))
      by_contra hge
      have := hno (by omega)
      omega

/-- **A wall time that no transition jumps over is reached at its instant**: before it the clock
shows earlier times, from it on later ones. -/
theorem toUtc_le_iff (hjump : ∀ i < zone.size, ¬ zone.JumpsOver i wall) :
    zone.toUtc .zero wall ≤ t ↔ wall ≤ zone.localTime t := by
  have hmono := localTransition_mono hjump
  have hspec := fun i (hi : i < zone.size) => localSegment_le_iff hmono hi
  have hsize : zone.localSegment .zero wall ≤ zone.size := bisectRight_le_length hmono
  rw [toUtc, utcoffset, localTime]
  generalize hp : zone.localSegment .zero wall = p at hspec hsize ⊢
  generalize hs : zone.segment t = s
  have hssize : s ≤ zone.size := hs ▸ segment_le_size
  rcases lt_trichotomy s p with hlt | heq | hgt
  · -- the instant is in an earlier segment than the wall time
    rcases p with _ | p
    · omega
    have hover := (hspec p (by omega)).not.mp (by omega)
    have hfirst := (hspec s (by omega)).not.mp (by omega)
    have hts : t < zone.instantAt s := (segment_le_iff (by omega)).mp hs.le
    have horder : zone.instantAt s ≤ zone.instantAt p := instantAt_le (by omega) (by omega)
    simp only [localTransition, not_lt] at hover hfirst
    have h1 := le_max_right (zone.offsetAt p) (zone.offsetAt (p + 1))
    have h2 := le_max_left (zone.offsetAt s) (zone.offsetAt (s + 1))
    omega
  · rw [heq]
    omega
  · -- the instant is in a later segment
    rcases s with _ | s
    · omega
    have hahead := (hspec s (by omega)).mp (by omega)
    have hfirst := (hspec p (by omega)).mp le_rfl
    have hno := hjump s (by omega)
    have hno' := hjump p (by omega)
    have hst := instantAt_le_of_segment hs
    have horder : zone.instantAt p ≤ zone.instantAt s := instantAt_le (by omega) (by omega)
    simp only [JumpsOver, localTransition, not_and, not_lt] at hno hno' hahead hfirst
    have h1 := min_le_right (zone.offsetAt s) (zone.offsetAt (s + 1))
    have h2 := min_le_left (zone.offsetAt p) (zone.offsetAt (p + 1))
    have h3 : wall ≤ zone.instantAt s + min (zone.offsetAt s) (zone.offsetAt (s + 1)) := by
      by_contra hlt
      have := hno (by omega)
      omega
    have h4 : wall ≤ zone.instantAt p + min (zone.offsetAt p) (zone.offsetAt (p + 1)) := by
      by_contra hlt
      have := hno' (by omega)
      omega
    omega

end ZoneInfo

end TradingAdvisor
