import Mathlib.Algebra.Group.Nat.Defs
import Mathlib.Data.List.Basic
import Mathlib.Order.Basic

/-!
# Decimal digits

* `exists_toDigits` — the first digit of a number;
* `padded` — a number with leading zeros;
* `ofDigitChars_padded` — leading zeros do not change the value.
-/

namespace DecimalDigits

theorem exists_toDigits {n : ℕ} (hn : 0 < n) :
    ∃ c cs, Nat.toDigits 10 n = c :: cs ∧ c ≠ '0' := by
  induction n using Nat.strongRecOn with
  | _ n ih =>
      by_cases hsmall : n < 10
      · refine ⟨_, [], Nat.toDigits_of_lt_base hsmall, ?_⟩
        rw [Ne, Nat.digitChar_eq_zero]
        omega
      · obtain ⟨c, cs, hdigits, hc⟩ := ih (n / 10) (by omega) (by omega)
        refine ⟨c, cs ++ [(n % 10).digitChar], ?_, hc⟩
        rw [Nat.toDigits_of_base_le (by omega) (by omega), hdigits]
        rfl

/-- A number of at least so many decimal digits. -/
def padded (width n : ℕ) : List Char := (Nat.toDigits 10 n).leftpad width '0'

theorem isDigit_of_mem_padded {width n : ℕ} {c : Char} (h : c ∈ padded width n) :
    c.isDigit = true := by
  rw [padded, List.leftpad, List.mem_append] at h
  rcases h with h | h
  · rw [List.eq_of_mem_replicate h]
    rfl
  · exact Nat.isDigit_of_mem_toDigits (by omega) (by omega) h

theorem notMem_padded {width n : ℕ} {c : Char} (h : c.isDigit = false) : c ∉ padded width n := by
  intro hc
  rw [isDigit_of_mem_padded hc] at h
  cases h

theorem length_padded {width n : ℕ} (hwidth : 0 < width) (h : n < 10 ^ width) :
    (padded width n).length = width := by
  have hlength := (Nat.length_toDigits_le_iff (b := 10) (by omega) hwidth).mpr h
  rw [padded, List.length_leftpad, Nat.max_eq_left hlength]

theorem ofDigitChars_padded (width n : ℕ) : Nat.ofDigitChars 10 (padded width n) 0 = n := by
  rw [padded, List.leftpad, Nat.ofDigitChars_append, Nat.ofDigitChars_replicate_zero,
    Nat.mul_zero, Nat.ofDigitChars_ten_toDigits]

end DecimalDigits
