import Mathlib.Algebra.Order.Floor.Ring
import Mathlib.Order.Bounds.Basic
import Mathlib.Tactic.Linarith
import Mathlib.Tactic.Ring

/-!
# Grids anchored at a point

The multiples of a step, counted from an anchor, and the neighbours of a value among them.

* `point` — the points of the grid;
* `floorPoint`, `ceilPoint` — the neighbours of a value;
* **`isGreatest_floorPoint`** — what the first is among the points;
* **`isGreatest_floorPoint_nat`** — the same on the half of the grid from the anchor on.
-/

namespace Grid

variable {α : Type} [Field α] [LinearOrder α] [IsStrictOrderedRing α] [FloorRing α]
  {anchor step x : α}

/-- A point of the grid. -/
def point (anchor step : α) (k : ℤ) : α := anchor + k * step

/-- The greatest point up to `x`. -/
def floorPoint (anchor step x : α) : α := point anchor step ⌊(x - anchor) / step⌋

/-- The least point from `x` on. -/
def ceilPoint (anchor step x : α) : α := point anchor step ⌈(x - anchor) / step⌉

omit [FloorRing α] in
theorem point_le_point (hstep : 0 < step) {k k' : ℤ} :
    point anchor step k ≤ point anchor step k' ↔ k ≤ k' := by
  rw [point, point, add_le_add_iff_left, mul_le_mul_iff_left₀ hstep, Int.cast_le]

theorem point_le_iff (hstep : 0 < step) {k : ℤ} :
    point anchor step k ≤ x ↔ k ≤ ⌊(x - anchor) / step⌋ := by
  rw [Int.le_floor, le_div_iff₀ hstep, le_sub_iff_add_le, add_comm, point]

theorem le_point_iff (hstep : 0 < step) {k : ℤ} :
    x ≤ point anchor step k ↔ ⌈(x - anchor) / step⌉ ≤ k := by
  rw [Int.ceil_le, div_le_iff₀ hstep, sub_le_iff_le_add, add_comm, point]

theorem floorPoint_le (hstep : 0 < step) : floorPoint anchor step x ≤ x :=
  (point_le_iff hstep).mpr le_rfl

theorem le_ceilPoint (hstep : 0 < step) : x ≤ ceilPoint anchor step x :=
  (le_point_iff hstep).mpr le_rfl

theorem lt_floorPoint_add (hstep : 0 < step) : x < floorPoint anchor step x + step := by
  have h := Int.lt_floor_add_one ((x - anchor) / step)
  rw [div_lt_iff₀ hstep] at h
  rw [floorPoint, point]
  linarith

theorem ceilPoint_lt_add (hstep : 0 < step) : ceilPoint anchor step x < x + step := by
  have h := Int.ceil_lt_add_one ((x - anchor) / step)
  rw [← sub_lt_iff_lt_add, lt_div_iff₀ hstep] at h
  rw [ceilPoint, point]
  linarith

/-- **The floor is the greatest point up to `x`.** -/
theorem isGreatest_floorPoint (hstep : 0 < step) :
    IsGreatest {v | (∃ k : ℤ, v = point anchor step k) ∧ v ≤ x} (floorPoint anchor step x) := by
  refine ⟨⟨⟨_, rfl⟩, floorPoint_le hstep⟩, ?_⟩
  rintro v ⟨⟨k, rfl⟩, hle⟩
  exact (point_le_point hstep).mpr ((point_le_iff hstep).mp hle)

theorem exists_floorPoint_eq (hstep : 0 < step) (hanchor : anchor ≤ x) :
    ∃ k : ℕ, floorPoint anchor step x = anchor + k * step := by
  have hcount : 0 ≤ ⌊(x - anchor) / step⌋ :=
    Int.floor_nonneg.mpr (div_nonneg (sub_nonneg.mpr hanchor) hstep.le)
  obtain ⟨k, hk⟩ := Int.eq_ofNat_of_zero_le hcount
  exact ⟨k, by rw [floorPoint, point, hk, Int.cast_natCast]⟩

/-- **On the half grid, too, the floor is the greatest point up to `x`.** -/
theorem isGreatest_floorPoint_nat (hstep : 0 < step) (hanchor : anchor ≤ x) :
    IsGreatest {v | (∃ k : ℕ, v = anchor + k * step) ∧ v ≤ x} (floorPoint anchor step x) := by
  refine ⟨⟨exists_floorPoint_eq hstep hanchor, floorPoint_le hstep⟩, ?_⟩
  rintro v ⟨⟨k, rfl⟩, hle⟩
  exact (isGreatest_floorPoint hstep).2 ⟨⟨k, by rw [point, Int.cast_natCast]⟩, hle⟩

omit [FloorRing α] in
/-- The half grid has a point up to `x` exactly when its anchor is one. -/
theorem exists_le_iff (hstep : 0 < step) :
    (∃ v, (∃ k : ℕ, v = anchor + k * step) ∧ v ≤ x) ↔ anchor ≤ x := by
  constructor
  · rintro ⟨v, ⟨k, rfl⟩, hle⟩
    have : 0 ≤ (k : α) * step := mul_nonneg (Nat.cast_nonneg k) hstep.le
    linarith
  · intro h
    exact ⟨anchor, ⟨0, by simp⟩, h⟩

theorem floorPoint_zero_pos_iff (hstep : 0 < step) : 0 < floorPoint 0 step x ↔ step ≤ x := by
  rw [floorPoint, point, zero_add, mul_pos_iff_of_pos_right hstep, Int.cast_pos, sub_zero,
    Int.lt_iff_add_one_le, zero_add, Int.le_floor, Int.cast_one, le_div_iff₀ hstep, one_mul]

end Grid
