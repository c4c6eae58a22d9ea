import Mathlib

/-!
# Tilings of a line

Consecutive intervals `[start k, start (k + 1))` with a classifier that names an interval for
every point. Classifier and starts fit together when they form a Galois connection.

* `Covers` — the point lies in the interval;
* `covers_iff_of_gc` — with a Galois connection the classifier names the only covering interval;
* `gc_of_covers` — **without gaps or overlaps they form a Galois connection**.
-/

namespace Tiling

variable {τ : Type*} [LinearOrder τ] {start : ℤ → τ} {key : τ → ℤ}

/-- The point lies in the interval of `k`. -/
def Covers (start : ℤ → τ) (k : ℤ) (t : τ) : Prop := start k ≤ t ∧ t < start (k + 1)

theorem covers_iff_of_gc (h : GaloisConnection start key) {k : ℤ} {t : τ} :
    Covers start k t ↔ key t = k := by
  rw [Covers, h k t, ← not_le, h (k + 1) t]
  omega

/-- Walking up from a start at or before a point, some interval covers the point. -/
theorem exists_covers {t : τ} {n : ℕ} {k : ℤ} (hlow : start k ≤ t) (hhigh : t < start (k + n)) :
    ∃ j, k ≤ j ∧ j < k + n ∧ Covers start j t := by
  induction n generalizing k with
  | zero =>
      rw [Nat.cast_zero, add_zero] at hhigh
      exact absurd hhigh (not_lt.mpr hlow)
  | succ n ih =>
      by_cases hnext : t < start (k + 1)
      · exact ⟨k, le_refl k, by omega, hlow, hnext⟩
      · rw [Nat.cast_succ, add_comm (n : ℤ) 1, ← add_assoc] at hhigh
        obtain ⟨j, hj, hjn, hcovers⟩ := ih (not_lt.mp hnext) hhigh
        exact ⟨j, by omega, by push_cast; omega, hcovers⟩

theorem exists_covers_of_le {t : τ} {k k' : ℤ} (hlow : start k ≤ t) (hhigh : t < start k')
    (hle : k ≤ k') : ∃ j, k ≤ j ∧ j < k' ∧ Covers start j t := by
  obtain ⟨n, rfl⟩ := Int.le.dest hle
  exact exists_covers hlow hhigh

/-- **If no point is covered by an interval that its classifier does not name, and the starts are
unbounded, then starts and classifier form a Galois connection.** -/
theorem gc_of_covers (honce : ∀ t k, Covers start k t → k = key t)
    (hbelow : ∀ t k, ∃ j ≤ k, start j ≤ t)
    (habove : ∀ t k, ∃ j, k ≤ j ∧ t < start j) : GaloisConnection start key := by
  intro k t
  constructor
  · -- a start at or before the point leads up to a covering interval
    intro hle
    obtain ⟨j, hkj, hj⟩ := habove t k
    obtain ⟨i, hki, -, hi⟩ := exists_covers_of_le hle hj hkj
    rw [← honce t i hi]
    exact hki
  · -- a start after the point leads down to one
    intro hle
    by_contra hlt
    obtain ⟨j, hjk, hj⟩ := hbelow t k
    obtain ⟨i, -, hik, hi⟩ := exists_covers_of_le hj (not_le.mp hlt) hjk
    have hkey := honce t i hi
    omega

end Tiling
