import Mathlib.Data.Int.Log
import Mathlib.Data.Rat.Floor
import Mathlib.Algebra.Order.Floor.Ring
import Mathlib.Algebra.Order.Field.Power
import Mathlib.Algebra.BigOperators.Ring.List
import Mathlib.Algebra.BigOperators.Ring.Finset
import Mathlib.Tactic.Linarith
import Mathlib.Tactic.Positivity
import Mathlib.Tactic.FieldSimp
import Mathlib.Tactic.Ring
import Mathlib.Tactic.NormNum

/-!
# Rounding to a fixed number of significant digits

Decimal floating point computes every operation exactly and rounds the result once. A
`Rounding` packages what such a rounding is good for in a proof: it is monotone, it fixes its
own results, `0` and `1`, and it keeps positive numbers positive.

* `roundHalfEven` — nearest integer, ties to even;
* `roundSig p` — nearest number with `p` significant decimal digits, ties to even;
* `roundSig_mono`, `roundSig_roundSig` — the two laws every bound on a rounded value uses;
* `exact`, `significant p` — the instances: no rounding, and `p + 1` significant digits;
* `sum_significant_multiples` — when a running sum is exact;
* `sum_pos_iff` — when a running sum is positive;
* `scale`, `ScalesWithin` — proportional scaling to a capacity;
* `scalesWithin_exact` — without rounding the shares never overshoot it;
* `LeavesRoom.scalesWithin`, `Overshoots.not_scalesWithin` — how far the rounding of the quotient
  decides it.
-/

namespace SignificantDigits

/-! ## Rounding to an integer -/

/-- The nearest integer; a tie goes to the even neighbour. -/
def roundHalfEven (x : ℚ) : ℤ :=
  if x - ⌊x⌋ < 1 / 2 then ⌊x⌋
  else if 1 / 2 < x - ⌊x⌋ then ⌊x⌋ + 1
  else if ⌊x⌋ % 2 = 0 then ⌊x⌋ else ⌊x⌋ + 1

theorem floor_le_roundHalfEven (x : ℚ) : ⌊x⌋ ≤ roundHalfEven x := by
  unfold roundHalfEven
  split_ifs <;> omega

theorem roundHalfEven_le_floor_succ (x : ℚ) : roundHalfEven x ≤ ⌊x⌋ + 1 := by
  unfold roundHalfEven
  split_ifs <;> omega

@[simp] theorem roundHalfEven_intCast (n : ℤ) : roundHalfEven (n : ℚ) = n := by
  simp [roundHalfEven]

theorem roundHalfEven_mono {x y : ℚ} (h : x ≤ y) : roundHalfEven x ≤ roundHalfEven y := by
  rcases (Int.floor_mono h).eq_or_lt with hfl | hfl
  · have hle : x - ⌊x⌋ ≤ y - ⌊y⌋ := by rw [hfl]; linarith
    unfold roundHalfEven
    rw [hfl] at hle ⊢
    split_ifs <;> first | omega | linarith
  · calc roundHalfEven x ≤ ⌊x⌋ + 1 := roundHalfEven_le_floor_succ x
      _ ≤ ⌊y⌋ := hfl
      _ ≤ roundHalfEven y := floor_le_roundHalfEven y

/-! ## Rounding to significant digits -/

/-- The exponent of the last kept digit of `x` at `p` significant digits. -/
def lastDigit (p : ℕ) (x : ℚ) : ℤ := Int.log 10 |x| - (p - 1)

/-- `x` rounded to `p` significant decimal digits, half to even; the exponent is unbounded. -/
def roundSig (p : ℕ) (x : ℚ) : ℚ :=
  if 0 ≤ x then roundHalfEven (x / 10 ^ lastDigit p x) * 10 ^ lastDigit p x
  else -(roundHalfEven (-x / 10 ^ lastDigit p x) * 10 ^ lastDigit p x)

/-- `x` is written with at most `p` significant digits. -/
def HasDigits (p : ℕ) (x : ℚ) : Prop := ∃ k e : ℤ, |k| ≤ 10 ^ p ∧ x = k * 10 ^ e

@[simp] theorem roundSig_zero (p : ℕ) : roundSig p 0 = 0 := by
  simp [roundSig, roundHalfEven]

theorem roundSig_neg (p : ℕ) (x : ℚ) : roundSig p (-x) = -roundSig p x := by
  rcases lt_trichotomy x 0 with h | rfl | h
  · simp [roundSig, lastDigit, h.le, not_le.mpr h]
  · simp
  · simp [roundSig, lastDigit, h.le, not_le.mpr h]

theorem roundSig_of_pos {p : ℕ} {x : ℚ} (h : 0 < x) :
    roundSig p x = roundHalfEven (x / 10 ^ lastDigit p x) * 10 ^ lastDigit p x := by
  simp [roundSig, h.le]

section Positive

variable {p : ℕ} {x y : ℚ}

theorem pow_log_le (hx : 0 < x) : (10 : ℚ) ^ Int.log 10 x ≤ x := by
  exact_mod_cast Int.zpow_log_le_self (b := 10) (by norm_num) hx

theorem lt_pow_log_succ (x : ℚ) : x < (10 : ℚ) ^ (Int.log 10 x + 1) := by
  exact_mod_cast Int.lt_zpow_succ_log_self (b := 10) (by norm_num) x

theorem lastDigit_of_pos (hx : 0 < x) : lastDigit p x = Int.log 10 x - (p - 1) := by
  rw [lastDigit, abs_of_pos hx]

theorem scaled_mem (hx : 0 < x) :
    (10 : ℚ) ^ ((p : ℤ) - 1) ≤ x / 10 ^ lastDigit p x ∧ x / 10 ^ lastDigit p x < 10 ^ p := by
  have hpos : (0 : ℚ) < 10 ^ lastDigit p x := by positivity
  constructor
  · rw [le_div_iff₀ hpos, ← zpow_add₀ (by norm_num), lastDigit_of_pos hx]
    simpa using pow_log_le hx
  · rw [div_lt_iff₀ hpos, ← zpow_natCast, ← zpow_add₀ (by norm_num), lastDigit_of_pos hx]
    have := lt_pow_log_succ x
    ring_nf at this ⊢
    exact this

theorem pow_log_le_roundSig (hp : 1 ≤ p) (hx : 0 < x) : (10 : ℚ) ^ Int.log 10 x ≤ roundSig p x := by
  obtain ⟨n, rfl⟩ := Nat.exists_eq_add_of_le' hp
  have hlow : (10 : ℤ) ^ n ≤ roundHalfEven (x / 10 ^ lastDigit (n + 1) x) := by
    rw [← roundHalfEven_intCast (10 ^ n)]
    apply roundHalfEven_mono
    simpa using (scaled_mem (p := n + 1) hx).1
  have hcast : (10 : ℚ) ^ n ≤ roundHalfEven (x / 10 ^ lastDigit (n + 1) x) := by
    exact_mod_cast hlow
  have hsplit : (10 : ℚ) ^ Int.log 10 x = 10 ^ n * 10 ^ lastDigit (n + 1) x := by
    rw [← zpow_natCast, ← zpow_add₀ (by norm_num), lastDigit_of_pos hx]
    congr 1; push_cast; ring
  rw [roundSig_of_pos hx, hsplit]
  exact mul_le_mul_of_nonneg_right hcast (by positivity)

theorem roundSig_le_pow_log_succ (hx : 0 < x) : roundSig p x ≤ (10 : ℚ) ^ (Int.log 10 x + 1) := by
  have hhigh : roundHalfEven (x / 10 ^ lastDigit p x) ≤ (10 : ℤ) ^ p := by
    rw [← roundHalfEven_intCast (10 ^ p)]
    apply roundHalfEven_mono
    simpa using (scaled_mem (p := p) hx).2.le
  have hcast : (roundHalfEven (x / 10 ^ lastDigit p x) : ℚ) ≤ 10 ^ p := by exact_mod_cast hhigh
  have hsplit : (10 : ℚ) ^ (Int.log 10 x + 1) = 10 ^ p * 10 ^ lastDigit p x := by
    rw [← zpow_natCast, ← zpow_add₀ (by norm_num), lastDigit_of_pos hx]
    congr 1; ring
  rw [roundSig_of_pos hx, hsplit]
  exact mul_le_mul_of_nonneg_right hcast (by positivity)

theorem roundSig_pos (hp : 1 ≤ p) (hx : 0 < x) : 0 < roundSig p x :=
  lt_of_lt_of_le (by positivity) (pow_log_le_roundSig hp hx)

theorem roundSig_mono_pos (hp : 1 ≤ p) (hx : 0 < x) (h : x ≤ y) :
    roundSig p x ≤ roundSig p y := by
  have hy : 0 < y := hx.trans_le h
  rcases (Int.log_mono_right (b := 10) hx h).eq_or_lt with hlog | hlog
  · have hlast : lastDigit p x = lastDigit p y := by
      rw [lastDigit_of_pos hx, lastDigit_of_pos hy, hlog]
    rw [roundSig_of_pos hx, roundSig_of_pos hy, hlast]
    have hscaled : x / 10 ^ lastDigit p y ≤ y / 10 ^ lastDigit p y := by gcongr
    exact mul_le_mul_of_nonneg_right (by exact_mod_cast roundHalfEven_mono hscaled)
      (by positivity)
  · calc roundSig p x ≤ (10 : ℚ) ^ (Int.log 10 x + 1) := roundSig_le_pow_log_succ hx
      _ ≤ (10 : ℚ) ^ Int.log 10 y := zpow_le_zpow_right₀ (by norm_num) hlog
      _ ≤ roundSig p y := pow_log_le_roundSig hp hy

end Positive

/-- **Rounding to significant digits is monotone.** -/
theorem roundSig_mono {p : ℕ} (hp : 1 ≤ p) {x y : ℚ} (h : x ≤ y) :
    roundSig p x ≤ roundSig p y := by
  have nonneg_of {z : ℚ} (hz : 0 ≤ z) : 0 ≤ roundSig p z := by
    rcases hz.eq_or_lt with rfl | hz
    · simp
    · exact (roundSig_pos hp hz).le
  rcases lt_or_ge 0 x with hx | hx
  · exact roundSig_mono_pos hp hx h
  · rcases lt_or_ge y 0 with hy | hy
    · have := roundSig_mono_pos hp (neg_pos.mpr hy) (neg_le_neg h)
      rw [roundSig_neg, roundSig_neg] at this
      linarith
    · have hneg := nonneg_of (neg_nonneg.mpr hx)
      rw [roundSig_neg] at hneg
      linarith [nonneg_of hy]

theorem hasDigits_neg {p : ℕ} {x : ℚ} (h : HasDigits p x) : HasDigits p (-x) := by
  obtain ⟨k, e, hk, rfl⟩ := h
  exact ⟨-k, e, by rwa [abs_neg], by push_cast; ring⟩

theorem hasDigits_roundSig (p : ℕ) (x : ℚ) : HasDigits p (roundSig p x) := by
  have of_pos {z : ℚ} (hz : 0 < z) : HasDigits p (roundSig p z) := by
    refine ⟨roundHalfEven (z / 10 ^ lastDigit p z), lastDigit p z, abs_le.mpr ⟨?_, ?_⟩,
      roundSig_of_pos hz⟩
    · have hnn : (0 : ℤ) ≤ roundHalfEven (z / 10 ^ lastDigit p z) := by
        rw [← roundHalfEven_intCast 0]
        exact roundHalfEven_mono (by push_cast; positivity)
      have : (0 : ℤ) ≤ 10 ^ p := by positivity
      omega
    · rw [← roundHalfEven_intCast (10 ^ p)]
      apply roundHalfEven_mono
      simpa using (scaled_mem (p := p) hz).2.le
  rcases lt_trichotomy x 0 with h | rfl | h
  · rw [← neg_neg x, roundSig_neg]
    exact hasDigits_neg (of_pos (neg_pos.mpr h))
  · exact ⟨0, 0, by simp, by simp⟩
  · exact of_pos h

theorem roundSig_of_hasDigits_pos {p : ℕ} (hp : 1 ≤ p) {x : ℚ} (hx : 0 < x)
    (h : HasDigits p x) : roundSig p x = x := by
  obtain ⟨k, e, hk, hxe⟩ := h
  have integral : ∃ n : ℤ, x / 10 ^ lastDigit p x = n := by
    rcases le_or_gt (lastDigit p x) e with he | he
    · obtain ⟨d, hd⟩ := Int.le.dest he
      refine ⟨k * 10 ^ d, ?_⟩
      rw [div_eq_iff (by positivity)]
      calc x = k * 10 ^ (lastDigit p x + d) := by rw [hd, ← hxe]
        _ = (k * 10 ^ d : ℤ) * 10 ^ lastDigit p x := by
            rw [zpow_add₀ (by norm_num), zpow_natCast]
            push_cast
            ring
    · -- the kept digits end above the last digit of `x`: only `10 ^ (p + e)` is that large
      have hle : (10 : ℚ) ^ ((p : ℤ) + e) ≤ x := by
        refine le_trans (zpow_le_zpow_right₀ (by norm_num) ?_) (pow_log_le hx)
        rw [lastDigit_of_pos hx] at he
        omega
      have hk' : (10 : ℚ) ^ p ≤ k := by
        rw [hxe, zpow_add₀ (by norm_num), zpow_natCast] at hle
        exact le_of_mul_le_mul_right hle (by positivity)
      have hkeq : k = 10 ^ p := by
        have : (10 : ℤ) ^ p ≤ k := by exact_mod_cast hk'
        have := (abs_le.mp hk).2
        omega
      have hlog : Int.log 10 x = p + e := by
        rw [hxe, hkeq]
        push_cast
        rw [← zpow_natCast, ← zpow_add₀ (by norm_num)]
        exact_mod_cast Int.log_zpow (R := ℚ) (b := 10) (by norm_num) (p + e)
      obtain ⟨n, rfl⟩ := Nat.exists_eq_add_of_le' hp
      refine ⟨10 ^ n, ?_⟩
      rw [div_eq_iff (by positivity), lastDigit_of_pos hx, hlog, hxe, hkeq]
      push_cast
      rw [← zpow_natCast, ← zpow_natCast, ← zpow_add₀ (by norm_num), ← zpow_add₀ (by norm_num)]
      congr 1; push_cast; ring
  obtain ⟨n, hn⟩ := integral
  rw [roundSig_of_pos hx, hn, roundHalfEven_intCast, ← hn]
  exact div_mul_cancel₀ x (by positivity)

/-- **A number with `p` digits rounds to itself.** -/
theorem roundSig_of_hasDigits {p : ℕ} (hp : 1 ≤ p) {x : ℚ} (h : HasDigits p x) :
    roundSig p x = x := by
  rcases lt_trichotomy x 0 with hx | rfl | hx
  · have := roundSig_of_hasDigits_pos hp (neg_pos.mpr hx) (hasDigits_neg h)
    rw [roundSig_neg] at this
    linarith
  · simp
  · exact roundSig_of_hasDigits_pos hp hx h

theorem roundSig_roundSig {p : ℕ} (hp : 1 ≤ p) (x : ℚ) :
    roundSig p (roundSig p x) = roundSig p x :=
  roundSig_of_hasDigits hp (hasDigits_roundSig p x)

/-! ## Roundings as a structure -/

/-- A rounding of exact results: monotone, idempotent, and exact at `0` and `1`. -/
structure Rounding where
  /-- The rounded value. -/
  rnd : ℚ → ℚ
  mono : ∀ {x y}, x ≤ y → rnd x ≤ rnd y
  idem : ∀ x, rnd (rnd x) = rnd x
  zero : rnd 0 = 0
  one : rnd 1 = 1
  pos : ∀ {x}, 0 < x → 0 < rnd x

namespace Rounding

/-- Exact arithmetic. -/
def exact : Rounding where
  rnd x := x
  mono h := h
  idem _ := rfl
  zero := rfl
  one := rfl
  pos h := h

/-- Rounding half to even at `p + 1` significant digits. -/
def significant (p : ℕ) : Rounding where
  rnd := roundSig (p + 1)
  mono := roundSig_mono (by omega)
  idem := roundSig_roundSig (by omega)
  zero := roundSig_zero _
  one := roundSig_of_hasDigits (by omega) ⟨1, 0, by simpa using one_le_pow₀ (by norm_num), by simp⟩
  pos := roundSig_pos (by omega)

/-- The default decimal context: 28 significant digits, half to even. -/
def decimal28 : Rounding := significant 27

variable (R : Rounding)

/-- `x` is a value the rounding leaves alone. -/
def Fixed (x : ℚ) : Prop := R.rnd x = x

theorem fixed_rnd (x : ℚ) : R.Fixed (R.rnd x) := R.idem x

theorem fixed_zero : R.Fixed 0 := R.zero

theorem nonneg {x : ℚ} (h : 0 ≤ x) : 0 ≤ R.rnd x := R.zero ▸ R.mono h

/-- A running sum from `0`, each addition rounded. -/
def sum (l : List ℚ) : ℚ := l.foldl (fun acc x => R.rnd (acc + x)) 0

variable {R}

theorem Fixed.max {x y : ℚ} (hx : R.Fixed x) (hy : R.Fixed y) : R.Fixed (max x y) := by
  rcases max_choice x y with h | h <;> rw [h] <;> assumption

theorem Fixed.min {x y : ℚ} (hx : R.Fixed x) (hy : R.Fixed y) : R.Fixed (min x y) := by
  rcases min_choice x y with h | h <;> rw [h] <;> assumption

theorem rnd_le_of_fixed {x y : ℚ} (hy : R.Fixed y) (h : x ≤ y) : R.rnd x ≤ y := by
  have := R.mono h
  rwa [hy] at this

theorem le_rnd_of_fixed {x y : ℚ} (hx : R.Fixed x) (h : x ≤ y) : x ≤ R.rnd y := by
  have := R.mono h
  rwa [hx] at this

theorem rnd_mul_le_of_fixed {m t : ℚ} (hm : R.Fixed m) (h₀ : 0 ≤ m) (ht : t ≤ 1) :
    R.rnd (m * t) ≤ m :=
  rnd_le_of_fixed hm (mul_le_of_le_one_right h₀ ht)

theorem rnd_div_le_one {x y : ℚ} (h : x ≤ y) (hy : 0 < y) : R.rnd (x / y) ≤ 1 :=
  rnd_le_of_fixed R.one ((div_le_one hy).mpr h)

theorem sum_nonneg {l : List ℚ} (hl : ∀ x ∈ l, 0 ≤ x) : 0 ≤ R.sum l := by
  have foldl_nonneg (l : List ℚ) (hl : ∀ x ∈ l, 0 ≤ x) (acc : ℚ) (hacc : 0 ≤ acc) :
      0 ≤ l.foldl (fun acc x => R.rnd (acc + x)) acc := by
    induction l generalizing acc with
    | nil => exact hacc
    | cons x l ih =>
        obtain ⟨hx, htail⟩ := List.forall_mem_cons.mp hl
        exact ih htail _ (R.nonneg (add_nonneg hacc hx))
  exact foldl_nonneg l hl 0 le_rfl

theorem sum_pos_iff {l : List ℚ} (hl : ∀ x ∈ l, 0 ≤ x) : 0 < R.sum l ↔ ∃ x ∈ l, 0 < x := by
  have foldl_pos_iff (l : List ℚ) (hl : ∀ x ∈ l, 0 ≤ x) (acc : ℚ) (hacc : 0 ≤ acc) :
      0 < l.foldl (fun acc x => R.rnd (acc + x)) acc ↔ 0 < acc ∨ ∃ x ∈ l, 0 < x := by
    induction l generalizing acc with
    | nil => simp
    | cons x l ih =>
        obtain ⟨hx, htail⟩ := List.forall_mem_cons.mp hl
        have hadd := add_nonneg hacc hx
        have hstep : 0 < R.rnd (acc + x) ↔ 0 < acc ∨ 0 < x := by
          refine ⟨fun hpos => ?_, fun hpos => R.pos ?_⟩
          · by_contra hcon
            obtain ⟨hacc', hx'⟩ := not_or.mp hcon
            rw [le_antisymm (not_lt.mp hacc') hacc, le_antisymm (not_lt.mp hx') hx, add_zero,
              R.zero] at hpos
            exact lt_irrefl 0 hpos
          · exact hpos.elim (fun h => add_pos_of_pos_of_nonneg h hx) (add_pos_of_nonneg_of_pos hacc)
        rw [List.foldl_cons, ih htail _ (R.nonneg hadd), hstep, or_assoc, List.exists_mem_cons_iff]
  rw [sum, foldl_pos_iff l hl 0 le_rfl]
  simp

/-! ## Proportional scaling -/

variable (R) in
/-- The share of `x` when a `total` is scaled down to a `capacity`. -/
def scale (capacity total x : ℚ) : ℚ := R.rnd (x * R.rnd (capacity / total))

theorem scale_pos {capacity total x : ℚ} (hc : 0 < capacity) (ht : 0 < total) (hx : 0 < x) :
    0 < R.scale capacity total x :=
  R.pos (mul_pos hx (R.pos (div_pos hc ht)))

theorem scale_le {capacity total x : ℚ} (hx : R.Fixed x) (h₀ : 0 ≤ x) (ht : 0 < total)
    (h : capacity ≤ total) : R.scale capacity total x ≤ x :=
  rnd_mul_le_of_fixed hx h₀ (rnd_div_le_one h ht)

theorem sum_exact (l : List ℚ) : exact.sum l = l.sum := by
  have foldl_eq (acc : ℚ) : l.foldl (fun acc x => exact.rnd (acc + x)) acc = acc + l.sum := by
    induction l generalizing acc with
    | nil => simp
    | cons x l ih => rw [List.foldl_cons, ih, List.sum_cons, ← add_assoc]; rfl
  rw [sum, foldl_eq, zero_add]

theorem rnd_significant_multiple {p : ℕ} {e k : ℤ} (h : |(k : ℚ) * 10 ^ e| ≤ 10 ^ (p + 1) * 10 ^ e) :
    (significant p).rnd (k * 10 ^ e) = k * 10 ^ e := by
  have hpow : (0 : ℚ) < 10 ^ e := by positivity
  refine roundSig_of_hasDigits (by omega) ⟨k, e, ?_, rfl⟩
  rw [abs_mul, abs_of_pos hpow] at h
  exact_mod_cast le_of_mul_le_mul_right h hpow

/-- **Values of one power of ten add up exactly**, in any order, as long as their sizes add up to
no more than the kept digits. -/
theorem sum_significant_multiples {p : ℕ} {e : ℤ} {l : List ℚ}
    (hl : ∀ x ∈ l, ∃ k : ℤ, x = k * 10 ^ e) (hsize : (l.map abs).sum ≤ 10 ^ (p + 1) * 10 ^ e) :
    (significant p).sum l = l.sum := by
  have foldl_eq (l : List ℚ) (hl : ∀ x ∈ l, ∃ k : ℤ, x = k * 10 ^ e) (k : ℤ)
      (hsize : |(k : ℚ) * 10 ^ e| + (l.map abs).sum ≤ 10 ^ (p + 1) * 10 ^ e) :
      l.foldl (fun acc x => (significant p).rnd (acc + x)) (k * 10 ^ e) = k * 10 ^ e + l.sum := by
    induction l generalizing k with
    | nil => simp
    | cons x l ih =>
        obtain ⟨⟨j, rfl⟩, htail⟩ := List.forall_mem_cons.mp hl
        rw [List.map_cons, List.sum_cons, ← add_assoc] at hsize
        have hadd : (k : ℚ) * 10 ^ e + j * 10 ^ e = ((k + j : ℤ) : ℚ) * 10 ^ e := by push_cast; ring
        have hle := abs_add_le ((k : ℚ) * 10 ^ e) (j * 10 ^ e)
        have hrest : 0 ≤ (l.map abs).sum :=
          List.sum_nonneg fun y hy => by
            obtain ⟨z, -, rfl⟩ := List.mem_map.mp hy
            exact abs_nonneg z
        rw [hadd] at hle
        rw [List.foldl_cons, hadd, rnd_significant_multiple (by linarith),
          ih htail (k + j) (by linarith), List.sum_cons, ← add_assoc, hadd]
  rw [sum]
  simpa using foldl_eq l hl 0 (by simpa using hsize)

/-- **Without rounding the shares add up to the capacity.** -/
theorem sum_scale_exact {capacity : ℚ} {l : List ℚ} (h : l.sum ≠ 0) :
    exact.sum (l.map (exact.scale capacity (exact.sum l))) = capacity := by
  rw [sum_exact, sum_exact]
  calc (l.map (exact.scale capacity l.sum)).sum
      = (l.map fun x => x * (capacity / l.sum)).sum := rfl
    _ = l.sum * (capacity / l.sum) := by rw [List.sum_map_mul_right, List.map_id']
    _ = capacity := mul_div_cancel₀ capacity h

variable (R) in
/-- The values of `l` add up to at most `capacity`, or their shares do. -/
def ScalesWithin (capacity : ℚ) (l : List ℚ) : Prop :=
  R.sum l ≤ capacity ∨ R.sum (l.map (R.scale capacity (R.sum l))) ≤ capacity

theorem scalesWithin_exact {capacity : ℚ} (hc : 0 < capacity) (l : List ℚ) :
    exact.ScalesWithin capacity l := by
  rcases le_or_gt (exact.sum l) capacity with hle | hlt
  · exact .inl hle
  · refine .inr (sum_scale_exact ?_).le
    rw [sum_exact] at hlt
    exact (hc.trans hlt).ne'

/-! ## Bounds of a running sum in units of a power of ten -/

section Units

variable {α : Type*} {p : ℕ} {e k : ℤ} {x : ℚ} {f : α → ℚ} {c : α → ℤ} {l : List α}

theorem fixed_units (h₀ : 0 ≤ k) (h : k ≤ 10 ^ (p + 1)) : (significant p).Fixed (k * 10 ^ e) := by
  have hle : (k : ℚ) ≤ 10 ^ (p + 1) := by exact_mod_cast h
  have hnonneg : (0 : ℚ) ≤ k := by exact_mod_cast h₀
  refine rnd_significant_multiple ?_
  rw [abs_of_nonneg (by positivity)]
  gcongr

theorem sum_map_le_units (hf : ∀ a ∈ l, f a ≤ c a * 10 ^ e) (hc : ∀ a ∈ l, 0 ≤ c a)
    (hsum : (l.map c).sum ≤ 10 ^ (p + 1)) :
    (significant p).sum (l.map f) ≤ (l.map c).sum * 10 ^ e := by
  have foldl_le (l : List α) (hf : ∀ a ∈ l, f a ≤ c a * 10 ^ e) (hc : ∀ a ∈ l, 0 ≤ c a) (k : ℤ)
      (hk : 0 ≤ k) (hsum : k + (l.map c).sum ≤ 10 ^ (p + 1)) (acc : ℚ) (hacc : acc ≤ k * 10 ^ e) :
      (l.map f).foldl (fun acc x => (significant p).rnd (acc + x)) acc ≤
        (k + (l.map c).sum : ℤ) * 10 ^ e := by
    induction l generalizing k acc with
    | nil => simpa using hacc
    | cons a l ih =>
        obtain ⟨hfa, hfl⟩ := List.forall_mem_cons.mp hf
        obtain ⟨hca, hcl⟩ := List.forall_mem_cons.mp hc
        rw [List.map_cons, List.sum_cons, ← add_assoc] at hsum
        simp only [List.map_cons, List.foldl_cons, List.sum_cons, ← add_assoc]
        have hrest : 0 ≤ (l.map c).sum := List.sum_nonneg (List.forall_mem_map.mpr hcl)
        refine ih hfl hcl (k + c a) (by omega) hsum _
          (rnd_le_of_fixed (fixed_units (by omega) (by omega)) ?_)
        push_cast
        linarith
  have h := foldl_le l hf hc 0 le_rfl (by simpa using hsum) 0 (by simp)
  rwa [zero_add] at h

theorem units_le_sum_map (hf : ∀ a ∈ l, (min (c a) (10 ^ (p + 1)) : ℤ) * 10 ^ e ≤ f a)
    (hc : ∀ a ∈ l, 0 ≤ c a) :
    (min (l.map c).sum (10 ^ (p + 1)) : ℤ) * 10 ^ e ≤ (significant p).sum (l.map f) := by
  have le_foldl (l : List α) (hf : ∀ a ∈ l, (min (c a) (10 ^ (p + 1)) : ℤ) * 10 ^ e ≤ f a)
      (hc : ∀ a ∈ l, 0 ≤ c a) (k : ℤ) (hk : 0 ≤ k) (acc : ℚ)
      (hacc : (min k (10 ^ (p + 1)) : ℤ) * 10 ^ e ≤ acc) :
      (min (k + (l.map c).sum) (10 ^ (p + 1)) : ℤ) * 10 ^ e ≤
        (l.map f).foldl (fun acc x => (significant p).rnd (acc + x)) acc := by
    induction l generalizing k acc with
    | nil => simpa using hacc
    | cons a l ih =>
        obtain ⟨hfa, hfl⟩ := List.forall_mem_cons.mp hf
        obtain ⟨hca, hcl⟩ := List.forall_mem_cons.mp hc
        simp only [List.map_cons, List.foldl_cons, List.sum_cons, ← add_assoc]
        have hmax : (0 : ℤ) ≤ 10 ^ (p + 1) := by positivity
        refine ih hfl hcl (k + c a) (by omega) _
          (le_rnd_of_fixed (fixed_units (by omega) (min_le_right ..)) ?_)
        have hmin : min (k + c a) (10 ^ (p + 1)) ≤
            min k (10 ^ (p + 1)) + min (c a) (10 ^ (p + 1)) := by omega
        calc ((min (k + c a) (10 ^ (p + 1)) : ℤ) : ℚ) * 10 ^ e
            ≤ ((min k (10 ^ (p + 1)) + min (c a) (10 ^ (p + 1)) : ℤ) : ℚ) * 10 ^ e := by gcongr
          _ = (min k (10 ^ (p + 1)) : ℤ) * 10 ^ e + (min (c a) (10 ^ (p + 1)) : ℤ) * 10 ^ e := by
              rw [Int.cast_add, add_mul]
          _ ≤ acc + f a := add_le_add hacc hfa
  have h := le_foldl l hf hc 0 le_rfl 0 (by simp)
  rwa [zero_add] at h

theorem rnd_le_ceil (h₀ : 0 ≤ x) (h : ⌈x / 10 ^ e⌉ ≤ 10 ^ (p + 1)) :
    (significant p).rnd x ≤ ⌈x / 10 ^ e⌉ * 10 ^ e := by
  have hpow : (0 : ℚ) < 10 ^ e := by positivity
  refine rnd_le_of_fixed (fixed_units (Int.ceil_nonneg (by positivity)) h) ?_
  rw [← div_le_iff₀ hpow]
  exact Int.le_ceil _

theorem floor_le_rnd (h₀ : 0 ≤ x) :
    (min ⌊x / 10 ^ e⌋ (10 ^ (p + 1)) : ℤ) * 10 ^ e ≤ (significant p).rnd x := by
  have hpow : (0 : ℚ) < 10 ^ e := by positivity
  have hfloor : (0 : ℤ) ≤ ⌊x / 10 ^ e⌋ := Int.floor_nonneg.mpr (by positivity)
  refine le_rnd_of_fixed (fixed_units (le_min hfloor (by positivity)) (min_le_right ..)) ?_
  rw [← le_div_iff₀ hpow]
  calc ((min ⌊x / 10 ^ e⌋ (10 ^ (p + 1)) : ℤ) : ℚ)
      ≤ ⌊x / 10 ^ e⌋ := by exact_mod_cast min_le_left ..
    _ ≤ x / 10 ^ e := Int.floor_le _

end Units

/-! ## When the shares fit -/

section Shares

variable {p : ℕ} {capacity : ℚ} {l : List ℚ}

/-- The quotient a total is scaled by, at `p + 1` digits. -/
def quotient (p : ℕ) (capacity : ℚ) (l : List ℚ) : ℚ :=
  (significant p).rnd (capacity / (significant p).sum l)

/-- The exact products with the quotient, each rounded up to a unit of the capacity, add up to at
most the capacity. -/
def LeavesRoom (p : ℕ) (capacity : ℚ) (l : List ℚ) : Prop :=
  ∃ e k : ℤ, capacity = k * 10 ^ e ∧ k ≤ 10 ^ (p + 1) ∧
    (l.map fun x => ⌈x * quotient p capacity l / 10 ^ e⌉).sum ≤ k

/-- The exact products with the quotient, each rounded down to a unit of the capacity, add up to
more than the capacity. -/
def Overshoots (p : ℕ) (capacity : ℚ) (l : List ℚ) : Prop :=
  ∃ e k : ℤ, capacity = k * 10 ^ e ∧ k < 10 ^ (p + 1) ∧
    k < (l.map fun x => ⌊x * quotient p capacity l / 10 ^ e⌋).sum

theorem quotient_nonneg (hcapacity : 0 ≤ capacity) (hl : ∀ x ∈ l, 0 ≤ x) :
    0 ≤ quotient p capacity l :=
  (significant p).nonneg (div_nonneg hcapacity (sum_nonneg hl))

/-- **Shares that leave room fit**, whichever way they and their sums are rounded. -/
theorem LeavesRoom.scalesWithin (hcapacity : 0 ≤ capacity) (hl : ∀ x ∈ l, 0 ≤ x)
    (h : LeavesRoom p capacity l) : (significant p).ScalesWithin capacity l := by
  obtain ⟨e, k, hk, hdigits, hsum⟩ := h
  have hpow : (0 : ℚ) < 10 ^ e := by positivity
  have hproduct : ∀ x ∈ l, 0 ≤ x * quotient p capacity l := fun x hx =>
    mul_nonneg (hl x hx) (quotient_nonneg hcapacity hl)
  have hceil : ∀ x ∈ l, 0 ≤ ⌈x * quotient p capacity l / 10 ^ e⌉ := fun x hx =>
    Int.ceil_nonneg (div_nonneg (hproduct x hx) hpow.le)
  have hle : ∀ x ∈ l, ⌈x * quotient p capacity l / 10 ^ e⌉ ≤ 10 ^ (p + 1) := fun x hx =>
    (List.single_le_sum (List.forall_mem_map.mpr hceil) _ (List.mem_map_of_mem hx)).trans
      (hsum.trans hdigits)
  refine .inr ?_
  calc (significant p).sum (l.map ((significant p).scale capacity ((significant p).sum l)))
      ≤ (l.map fun x => ⌈x * quotient p capacity l / 10 ^ e⌉).sum * 10 ^ e :=
        sum_map_le_units (fun x hx => rnd_le_ceil (hproduct x hx) (hle x hx)) hceil
          (hsum.trans hdigits)
    _ ≤ k * 10 ^ e := by gcongr
    _ = capacity := hk.symm

/-- **Shares that overshoot do not fit**, whichever way they and their sums are rounded. -/
theorem Overshoots.not_scalesWithin (hcapacity : 0 ≤ capacity) (hl : ∀ x ∈ l, 0 ≤ x)
    (htotal : capacity < (significant p).sum l) (h : Overshoots p capacity l) :
    ¬ (significant p).ScalesWithin capacity l := by
  obtain ⟨e, k, hk, hdigits, hsum⟩ := h
  have hproduct : ∀ x ∈ l, 0 ≤ x * quotient p capacity l := fun x hx =>
    mul_nonneg (hl x hx) (quotient_nonneg hcapacity hl)
  have hover : capacity <
      (significant p).sum (l.map ((significant p).scale capacity ((significant p).sum l))) := by
    calc capacity = k * 10 ^ e := hk
      _ < (min (l.map fun x => ⌊x * quotient p capacity l / 10 ^ e⌋).sum (10 ^ (p + 1)) : ℤ) *
            10 ^ e := by
          have hlt := lt_min hsum hdigits
          gcongr
      _ ≤ _ := units_le_sum_map (fun x hx => floor_le_rnd (hproduct x hx))
          fun x hx => Int.floor_nonneg.mpr (div_nonneg (hproduct x hx) (by positivity))
  rintro (hle | hle)
  · exact hle.not_gt htotal
  · exact hle.not_gt hover

/-- Values of one power of ten that add up to at most the capacity need no scaling. -/
theorem sum_le_of_multiples {e : ℤ} (hl : ∀ x ∈ l, 0 ≤ x)
    (hunits : ∀ x ∈ l, ∃ k : ℤ, x = k * 10 ^ e)
    (hdigits : l.sum ≤ 10 ^ (p + 1) * 10 ^ e) (h : l.sum ≤ capacity) :
    (significant p).sum l ≤ capacity := by
  have habs : (l.map abs).sum = l.sum := by
    rw [List.map_congr_left fun x hx => abs_of_nonneg (hl x hx), List.map_id']
  rwa [sum_significant_multiples hunits (habs.symm ▸ hdigits)]

/-- Shares that are exact leave room: the quotient has the kept digits, and every product with it
is written in units of the capacity. -/
theorem leavesRoom_of_exact {e k : ℤ} (hk : capacity = k * 10 ^ e) (hdigits : k ≤ 10 ^ (p + 1))
    (hsum : (significant p).sum l = l.sum) (hpos : 0 < l.sum)
    (hquotient : (significant p).Fixed (capacity / l.sum))
    (hshares : ∀ x ∈ l, ∃ j : ℤ, x * (capacity / l.sum) = j * 10 ^ e) :
    LeavesRoom p capacity l := by
  have hpow : (10 : ℚ) ^ e ≠ 0 := by positivity
  have hq : quotient p capacity l = capacity / l.sum := by rw [quotient, hsum, hquotient]
  have hceil : ∀ x ∈ l, ((⌈x * quotient p capacity l / 10 ^ e⌉ : ℤ) : ℚ) =
      x * (capacity / l.sum / 10 ^ e) := fun x hx => by
    obtain ⟨j, hj⟩ := hshares x hx
    rw [hq, hj, mul_div_cancel_right₀ _ hpow, Int.ceil_intCast, ← mul_div_assoc, hj,
      mul_div_cancel_right₀ _ hpow]
  refine ⟨e, k, hk, hdigits, le_of_eq ?_⟩
  have hcast : (((l.map fun x => ⌈x * quotient p capacity l / 10 ^ e⌉).sum : ℤ) : ℚ) = k := by
    calc _ = (l.map fun x => ((⌈x * quotient p capacity l / 10 ^ e⌉ : ℤ) : ℚ)).sum := by
            rw [Int.cast_list_sum, List.map_map]; rfl
      _ = (l.map fun x => x * (capacity / l.sum / 10 ^ e)).sum := by
            rw [List.map_congr_left hceil]
      _ = l.sum * (capacity / l.sum / 10 ^ e) := by rw [List.sum_map_mul_right, List.map_id']
      _ = k := by rw [hk]; field_simp
  exact_mod_cast hcast

theorem sum_ceil_lt (hl : l ≠ []) : (((l.map fun x => ⌈x⌉).sum : ℤ) : ℚ) < l.sum + l.length := by
  induction l with
  | nil => exact absurd rfl hl
  | cons x l ih =>
      have hx := Int.ceil_lt_add_one x
      rcases eq_or_ne l [] with rfl | hne
      · simpa using hx
      · have hrest := ih hne
        simp only [List.map_cons, List.sum_cons, List.length_cons, Nat.cast_add, Nat.cast_one,
          Int.cast_add]
        linarith

/-- Shares leave room when the quotient, multiplied back by the values, stays below the capacity
by a unit for every value but one. -/
theorem leavesRoom_of_error {e k : ℤ} (hk : capacity = k * 10 ^ e) (hdigits : k ≤ 10 ^ (p + 1))
    (hl : l ≠ [])
    (h : l.sum * quotient p capacity l + (l.length - 1) * 10 ^ e ≤ capacity) :
    LeavesRoom p capacity l := by
  have hpow : (0 : ℚ) < 10 ^ e := by positivity
  refine ⟨e, k, hk, hdigits, ?_⟩
  have hceil := sum_ceil_lt (l := l.map fun x => x * quotient p capacity l / 10 ^ e)
    (by simpa using hl)
  have hsum : (l.map fun x => x * quotient p capacity l / 10 ^ e).sum =
      l.sum * quotient p capacity l / 10 ^ e := by
    simp_rw [mul_div_assoc]
    rw [List.sum_map_mul_right, List.map_id']
  have hroom : l.sum * quotient p capacity l / 10 ^ e + (l.length - 1) ≤ k := by
    rw [← le_sub_iff_add_le, div_le_iff₀ hpow]
    linarith [hk ▸ h]
  rw [List.map_map, hsum, List.length_map] at hceil
  have hlt : (((l.map fun x => ⌈x * quotient p capacity l / 10 ^ e⌉).sum : ℤ) : ℚ) <
      ((k + 1 : ℤ) : ℚ) := by
    refine lt_of_lt_of_le hceil ?_
    push_cast
    linarith
  exact Int.lt_add_one_iff.mp (by exact_mod_cast hlt)

end Shares

end Rounding

end SignificantDigits
