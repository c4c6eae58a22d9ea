import Mathlib.Order.Nat

/-!
# Binary search

`bisectRight` is the insertion point to the right of every item that is not above the sought
value. The comparison with the `i`-th item is a predicate, so nothing is said about the items.

* `bisectRight` — the loop on `[lo, hi)`, with its length as fuel;
* `bisectRight_le_iff` — **over a monotone comparison it separates the items**.
-/

namespace Bisect

variable (above : ℕ → Prop) [DecidablePred above]

/-- The loop: halve `[lo, hi)` until it is empty. -/
def loop : (fuel lo hi : ℕ) → ℕ
  | 0, lo, _ => lo
  | fuel + 1, lo, hi =>
      if lo < hi then
        if above ((lo + hi) / 2) then loop fuel lo ((lo + hi) / 2)
        else loop fuel ((lo + hi) / 2 + 1) hi
      else lo

/-- The rightmost insertion point among `n` items. -/
def bisectRight (n : ℕ) : ℕ := loop above n 0 n

variable {above} {n : ℕ}

/-- Below `lo` nothing is above the value; from `hi` on everything is. -/
structure Separated (above : ℕ → Prop) (n lo hi : ℕ) : Prop where
  le : lo ≤ hi
  le_length : hi ≤ n
  below : ∀ i < lo, ¬ above i
  beyond : ∀ i, hi ≤ i → i < n → above i

theorem loop_spec (hmono : ∀ i j, i ≤ j → j < n → above i → above j) {fuel lo hi : ℕ}
    (hfuel : hi - lo ≤ fuel) (hsep : Separated above n lo hi) :
    ∃ p, loop above fuel lo hi = p ∧ Separated above n p p := by
  induction fuel generalizing lo hi with
  | zero =>
      have heq : hi = lo := by have := hsep.le; omega
      exact ⟨lo, rfl, heq ▸ hsep⟩
  | succ fuel ih =>
      rw [loop]
      by_cases hlt : lo < hi
      · have hmid : (lo + hi) / 2 < n := by have := hsep.le_length; omega
        rw [if_pos hlt]
        by_cases habove : above ((lo + hi) / 2)
        · rw [if_pos habove]
          refine ih (by omega) ⟨by omega, by omega, hsep.below, fun i hi hn => ?_⟩
          exact hmono _ i hi hn habove
        · rw [if_neg habove]
          refine ih (by omega) ⟨by omega, hsep.le_length, fun i hi ha => ?_, hsep.beyond⟩
          exact habove (hmono i _ (by omega) hmid ha)
      · have heq : hi = lo := by have := hsep.le; omega
        rw [if_neg hlt]
        exact ⟨lo, rfl, heq ▸ hsep⟩

theorem bisectRight_separated (hmono : ∀ i j, i ≤ j → j < n → above i → above j) :
    Separated above n (bisectRight above n) (bisectRight above n) := by
  have hstart : Separated above n 0 n :=
    ⟨by omega, le_refl n, fun i h => absurd h (by omega), fun i h1 h2 => absurd h1 (by omega)⟩
  have hfuel : n - 0 ≤ n := by omega
  obtain ⟨p, hp, hsep⟩ := loop_spec hmono hfuel hstart
  rw [bisectRight, hp]
  exact hsep

/-- **Over a monotone comparison the search separates the items.** -/
theorem bisectRight_le_iff (hmono : ∀ i j, i ≤ j → j < n → above i → above j) {i : ℕ}
    (hi : i < n) : bisectRight above n ≤ i ↔ above i := by
  have hsep := bisectRight_separated hmono
  constructor
  · exact fun h => hsep.beyond i h hi
  · intro ha
    by_cases h : bisectRight above n ≤ i
    · exact h
    · exact absurd ha (hsep.below i (by omega))

theorem bisectRight_le_length (hmono : ∀ i j, i ≤ j → j < n → above i → above j) :
    bisectRight above n ≤ n :=
  (bisectRight_separated hmono).le_length

end Bisect
