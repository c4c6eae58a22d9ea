import Mathlib.Data.Sign.Basic
import TradingAdvisor.Lib.Rounding

/-!
# Double precision numbers

A double is a rational with a 53-bit significand, an infinity or not a number. Every operation
computes exactly and rounds to the nearest double, ties to even; a result of `2 ^ 1024` or more is
an infinity. The sign of a zero is not kept.

* `nearest`, `IsDouble` — rounding to the grid of doubles, and the numbers on it;
* `nearest_le`, `nearest_nearest` — the two laws every bound on a rounded value uses;
* `floor_nearest` — when rounding keeps the integer part;
* `Double`, `Double.ofRat`, `Double.mul`, `Double.value` — the numbers, their product and order.
-/

namespace Binary64

open SignificantDigits

/-! ## Rounding to the grid -/

/-- The exponent of the last bit of `x`: the 53rd of its significand, or the least one there is. -/
def lastBit (x : ℚ) : ℤ := max (Int.log 2 |x| - 52) (-1074)

/-- The nearest multiple of the last bit, ties to even. -/
def nearest (x : ℚ) : ℚ := roundHalfEven (x / 2 ^ lastBit x) * 2 ^ lastBit x

/-- `x` is a finite double. -/
def IsDouble (x : ℚ) : Prop := nearest x = x ∧ |x| < 2 ^ 1024

instance (x : ℚ) : Decidable (IsDouble x) := inferInstanceAs (Decidable (_ ∧ _))

/-- `x` is a multiple of a bit by a significand of 53 bits. -/
def OnGrid (x : ℚ) : Prop := ∃ m k : ℤ, |m| ≤ 2 ^ 53 ∧ -1074 ≤ k ∧ x = m * 2 ^ k

theorem two_zpow_pos (k : ℤ) : (0 : ℚ) < 2 ^ k := by positivity

theorem lastBit_ge (x : ℚ) : -1074 ≤ lastBit x := le_max_right _ _

@[simp] theorem nearest_zero : nearest 0 = 0 := by
  simp [nearest, roundHalfEven]

theorem nearest_nonneg {x : ℚ} (h : 0 ≤ x) : 0 ≤ nearest x := by
  have hround : 0 ≤ roundHalfEven (x / 2 ^ lastBit x) := by
    rw [← roundHalfEven_intCast 0]
    apply roundHalfEven_mono
    simpa using div_nonneg h (two_zpow_pos _).le
  exact mul_nonneg (by exact_mod_cast hround) (two_zpow_pos _).le

theorem nearest_of_multiple {x : ℚ} {n : ℤ} (h : x = n * 2 ^ lastBit x) : nearest x = x := by
  have hdiv : x / 2 ^ lastBit x = n := by
    rw [div_eq_iff (two_zpow_pos _).ne']
    exact h
  rw [nearest, hdiv, roundHalfEven_intCast]
  exact h.symm

theorem abs_div_lt (x : ℚ) : |x / 2 ^ lastBit x| < 2 ^ 53 := by
  rw [abs_div, abs_of_pos (two_zpow_pos (lastBit x)), div_lt_iff₀ (two_zpow_pos _), ← zpow_natCast,
    ← zpow_add₀ (by norm_num)]
  have hlog : |x| < (2 : ℚ) ^ (Int.log 2 |x| + 1) := by
    exact_mod_cast Int.lt_zpow_succ_log_self (b := 2) (by norm_num) |x|
  apply hlog.trans_le
  apply zpow_le_zpow_right₀ (by norm_num)
  have := le_max_left (Int.log 2 |x| - 52) (-1074)
  have : Int.log 2 |x| - 52 ≤ lastBit x := this
  push_cast
  omega

theorem abs_roundHalfEven_le {x : ℚ} {n : ℤ} (h : |x| ≤ n) : |roundHalfEven x| ≤ n := by
  rw [abs_le] at h ⊢
  constructor
  · rw [← roundHalfEven_intCast (-n)]
    apply roundHalfEven_mono
    push_cast
    exact h.1
  · rw [← roundHalfEven_intCast n]
    exact roundHalfEven_mono h.2

theorem nearest_onGrid (x : ℚ) : OnGrid (nearest x) := by
  refine ⟨_, lastBit x, abs_roundHalfEven_le ?_, lastBit_ge x, rfl⟩
  have := abs_div_lt x
  push_cast
  exact this.le

theorem eq_multiple {m k e : ℤ} (h : e ≤ k) : ∃ n : ℤ, (m : ℚ) * 2 ^ k = n * 2 ^ e := by
  obtain ⟨d, rfl⟩ := Int.le.dest h
  refine ⟨m * 2 ^ d, ?_⟩
  rw [zpow_add₀ (by norm_num)]
  push_cast
  rw [zpow_natCast]
  ring

theorem lastBit_le {x : ℚ} {k : ℤ} (hx : x ≠ 0) (hk : -1074 ≤ k) (h : |x| < 2 ^ (53 + k)) :
    lastBit x ≤ k := by
  have hlog : Int.log 2 |x| < 53 + k :=
    (Int.lt_zpow_iff_log_lt (by norm_num) (abs_pos.mpr hx)).mp (by exact_mod_cast h)
  exact max_le (by omega) hk

/-- **The grid is exactly what rounding fixes.** -/
theorem nearest_of_onGrid {x : ℚ} (h : OnGrid x) : nearest x = x := by
  obtain ⟨m, k, hm, hk, rfl⟩ := h
  by_cases hzero : m = 0
  · simp [hzero]
  have habs : |(m : ℚ) * 2 ^ k| = |(m : ℚ)| * 2 ^ k := by
    rw [abs_mul, abs_of_pos (two_zpow_pos k)]
  have hne : (0 : ℚ) < |(m : ℚ) * 2 ^ k| := abs_pos.mpr (mul_ne_zero (by exact_mod_cast hzero)
    (two_zpow_pos k).ne')
  rcases hm.lt_or_eq with hlt | heq
  · -- fewer than 53 bits: the last bit is not above `k`
    have hle : lastBit ((m : ℚ) * 2 ^ k) ≤ k := by
      refine lastBit_le (abs_pos.mp hne) hk ?_
      rw [habs, zpow_add₀ (by norm_num)]
      apply mul_lt_mul_of_pos_right _ (two_zpow_pos k)
      exact_mod_cast hlt
    obtain ⟨n, hn⟩ := eq_multiple (m := m) hle
    exact nearest_of_multiple hn
  · -- a power of two: one bit more, and still a multiple of it
    have hval : |(m : ℚ) * 2 ^ k| = (2 : ℚ) ^ (53 + k) := by
      rw [habs, zpow_add₀ (by norm_num)]
      have : |(m : ℚ)| = 2 ^ 53 := by exact_mod_cast heq
      rw [this]
      norm_num
    have hlog : Int.log 2 |(m : ℚ) * 2 ^ k| = 53 + k := by
      rw [hval]
      exact_mod_cast Int.log_zpow (b := 2) (R := ℚ) (by norm_num) (53 + k)
    have hle : lastBit ((m : ℚ) * 2 ^ k) = k + 1 := by
      rw [lastBit, hlog]
      omega
    rcases abs_eq (by norm_num : (0 : ℤ) ≤ 2 ^ 53) |>.mp heq with hm | hm
    · apply nearest_of_multiple (n := 2 ^ 52)
      rw [hle, hm, zpow_add₀ (by norm_num)]
      push_cast
      ring
    · apply nearest_of_multiple (n := -2 ^ 52)
      rw [hle, hm, zpow_add₀ (by norm_num)]
      push_cast
      ring

@[simp] theorem nearest_nearest (x : ℚ) : nearest (nearest x) = nearest x :=
  nearest_of_onGrid (nearest_onGrid x)

/-- **Rounding does not pass a double.** -/
theorem nearest_le {x c : ℚ} (hx : 0 ≤ x) (hc : nearest c = c) (h : x ≤ c) : nearest x ≤ c := by
  obtain ⟨m, k, hm, hk, hmk⟩ := hc ▸ nearest_onGrid c
  subst hmk
  rcases hx.eq_or_lt with rfl | hpos
  · rw [nearest_zero]
    exact h
  rcases le_or_gt (lastBit x) k with hle | hlt
  · -- `c` is on the grid `x` is rounded to
    obtain ⟨n, hn⟩ := eq_multiple (m := m) hle
    rw [hn] at h ⊢
    apply mul_le_mul_of_nonneg_right _ (two_zpow_pos _).le
    have hround : roundHalfEven (x / 2 ^ lastBit x) ≤ n := by
      rw [← roundHalfEven_intCast n]
      apply roundHalfEven_mono
      rwa [div_le_iff₀ (two_zpow_pos _)]
    exact_mod_cast hround
  · -- the grid of `x` is coarser: then `x` is the power of two that `c` is
    have hbit : lastBit x = Int.log 2 |x| - 52 := by
      rcases max_choice (Int.log 2 |x| - 52) (-1074) with hmax | hmax
      · exact hmax
      · have : lastBit x = -1074 := hmax
        omega
    have hlow : (2 : ℚ) ^ (53 + k) ≤ x := by
      have hself : (2 : ℚ) ^ Int.log 2 |x| ≤ |x| := by
        exact_mod_cast Int.zpow_log_le_self (b := 2) (by norm_num) (abs_pos.mpr hpos.ne')
      rw [abs_of_pos hpos] at hself hbit
      refine le_trans (zpow_le_zpow_right₀ (by norm_num) ?_) hself
      omega
    have hhigh : (m : ℚ) * 2 ^ k ≤ 2 ^ (53 + k) := by
      rw [zpow_add₀ (by norm_num)]
      apply mul_le_mul_of_nonneg_right _ (two_zpow_pos k).le
      have := (abs_le.mp hm).2
      exact_mod_cast this
    have heq : x = m * 2 ^ k := le_antisymm h (hhigh.trans hlow)
    rw [← heq] at hc
    rw [heq] at hc ⊢
    exact hc.le

theorem nearest_le_of_isDouble {x c : ℚ} (hx : 0 ≤ x) (hc : IsDouble c) (h : x ≤ c) :
    nearest x ≤ c :=
  nearest_le hx hc.1 h

theorem isDouble_zero : IsDouble 0 := ⟨nearest_zero, by norm_num⟩

theorem isDouble_one : IsDouble 1 :=
  ⟨nearest_of_onGrid ⟨1, 0, by norm_num, by norm_num, by norm_num⟩, by
    rw [abs_one]
    exact one_lt_pow₀ (by norm_num) (by norm_num)⟩

theorem isDouble_nearest {x : ℚ} (h : |nearest x| < 2 ^ 1024) : IsDouble (nearest x) :=
  ⟨nearest_nearest x, h⟩

/-! ## Integer parts -/

theorem abs_roundHalfEven_sub_le (x : ℚ) : |(roundHalfEven x : ℚ) - x| ≤ 1 / 2 := by
  have hfloor := Int.floor_le x
  have hceil := Int.lt_floor_add_one x
  unfold roundHalfEven
  split_ifs with h1 h2 h3 <;> rw [abs_le] <;> push_cast <;> constructor <;> linarith

/-- Rounding moves a number by at most half of its last bit. -/
theorem abs_nearest_sub_le (x : ℚ) : |nearest x - x| ≤ 2 ^ lastBit x / 2 := by
  have hpos := two_zpow_pos (lastBit x)
  have hx : nearest x - x = (roundHalfEven (x / 2 ^ lastBit x) - x / 2 ^ lastBit x) *
      2 ^ lastBit x := by
    rw [nearest, sub_mul, div_mul_cancel₀ _ hpos.ne']
  rw [hx, abs_mul, abs_of_pos hpos]
  linarith [mul_le_mul_of_nonneg_right (abs_roundHalfEven_sub_le (x / 2 ^ lastBit x)) hpos.le]

/-- A number with bits after the point is not rounded below an integer. -/
theorem intCast_le_nearest {x : ℚ} {n : ℤ} (hbit : lastBit x ≤ 0) (h : (n : ℚ) ≤ x) :
    (n : ℚ) ≤ nearest x := by
  obtain ⟨m, hm⟩ := eq_multiple (m := n) hbit
  rw [zpow_zero, mul_one] at hm
  have hpos := two_zpow_pos (lastBit x)
  have hle : (m : ℚ) ≤ x / 2 ^ lastBit x := (le_div_iff₀ hpos).mpr (hm ▸ h)
  have hround : m ≤ roundHalfEven (x / 2 ^ lastBit x) := by
    rw [← roundHalfEven_intCast m]
    exact roundHalfEven_mono hle
  rw [hm, nearest]
  exact mul_le_mul_of_nonneg_right (by exact_mod_cast hround) hpos.le

/-- **A fraction keeps its integer part** while half of its last bit is less than the fraction's
unit. -/
theorem floor_nearest {x : ℚ} {m : ℤ} {q : ℕ} (hq : 0 < q) (hx : x = m / q)
    (hbit : lastBit x ≤ 0) (hhalf : (2 : ℚ) ^ lastBit x / 2 < 1 / q) :
    ⌊nearest x⌋ = ⌊x⌋ := by
  have hq' : (0 : ℚ) < q := by exact_mod_cast hq
  refine Int.floor_eq_iff.mpr ⟨intCast_le_nearest hbit (Int.floor_le x), ?_⟩
  have hlt : x + 1 / q ≤ ⌊x⌋ + 1 := by
    have hfloor : x < ⌊x⌋ + 1 := Int.lt_floor_add_one x
    rw [hx, div_lt_iff₀ hq'] at hfloor
    have hint : m + 1 ≤ (⌊x⌋ + 1) * q := by
      rw [hx]
      exact_mod_cast hfloor
    have : (m : ℚ) + 1 ≤ (⌊x⌋ + 1) * q := by exact_mod_cast hint
    calc x + 1 / q = (m + 1) / q := by rw [hx]; ring
      _ ≤ ⌊x⌋ + 1 := (div_le_iff₀ hq').mpr this
  have := (abs_le.mp (abs_nearest_sub_le x)).2
  linarith

/-! ## The numbers -/

/-- A double-precision number. -/
inductive Double
  | nan
  | negInf
  | finite (x : ℚ) (h : IsDouble x)
  | posInf
  deriving DecidableEq

namespace Double

/-- The double nearest to a rational. -/
def ofRat (x : ℚ) : Double :=
  if h : |nearest x| < 2 ^ 1024 then .finite (nearest x) (isDouble_nearest h)
  else if 0 < x then .posInf else .negInf

instance : Zero Double := ⟨.finite 0 isDouble_zero⟩

instance : One Double := ⟨.finite 1 isDouble_one⟩

/-- The sign of a number. -/
def sign : Double → SignType
  | .nan => 0
  | .negInf => -1
  | .finite x _ => SignType.sign x
  | .posInf => 1

/-- The infinity of a sign; an infinity times zero is no number. -/
def infinity : SignType → Double
  | .pos => .posInf
  | .neg => .negInf
  | .zero => .nan

/-- The product. -/
def mul : Double → Double → Double
  | .nan, _ => .nan
  | _, .nan => .nan
  | .finite x _, .finite y _ => ofRat (x * y)
  | x, y => infinity (x.sign * y.sign)

instance : Mul Double := ⟨mul⟩

/-- Where a number stands in the order; a NaN stands nowhere. -/
def value : Double → Option (WithBot (WithTop ℚ))
  | .nan => none
  | .negInf => some ⊥
  | .finite x _ => some ((x : WithTop ℚ) : WithBot (WithTop ℚ))
  | .posInf => some ((⊤ : WithTop ℚ) : WithBot (WithTop ℚ))

/-- The comparison `<`; a NaN is not less than anything. -/
def Lt (x y : Double) : Prop := ∃ a ∈ x.value, ∃ b ∈ y.value, a < b

/-- The comparison `≤`. -/
def Le (x y : Double) : Prop := ∃ a ∈ x.value, ∃ b ∈ y.value, a ≤ b

instance : LT Double := ⟨Lt⟩

instance : LE Double := ⟨Le⟩

instance (x y : Double) : Decidable (x < y) :=
  inferInstanceAs (Decidable (∃ a ∈ x.value, ∃ b ∈ y.value, a < b))

instance (x y : Double) : Decidable (x ≤ y) :=
  inferInstanceAs (Decidable (∃ a ∈ x.value, ∃ b ∈ y.value, a ≤ b))

/-- The smaller number; the first one when they do not compare. -/
def min (x y : Double) : Double := if y < x then y else x

section Order

variable {x y : ℚ} {hx : IsDouble x} {hy : IsDouble y} {a : Double}

theorem lt_iff {a b : Double} : a < b ↔ ∃ u ∈ a.value, ∃ v ∈ b.value, u < v := Iff.rfl

theorem le_iff {a b : Double} : a ≤ b ↔ ∃ u ∈ a.value, ∃ v ∈ b.value, u ≤ v := Iff.rfl

@[simp] theorem finite_le_finite : finite x hx ≤ finite y hy ↔ x ≤ y := by
  simp [le_iff, value]

@[simp] theorem finite_lt_finite : finite x hx < finite y hy ↔ x < y := by
  simp [lt_iff, value]

@[simp] theorem finite_le_posInf : finite x hx ≤ posInf := by
  simp [le_iff, value]

@[simp] theorem not_posInf_le_finite : ¬ posInf ≤ finite x hx := by
  simp [le_iff, value]

@[simp] theorem finite_lt_posInf : finite x hx < posInf :=
  ⟨_, rfl, _, rfl, WithBot.coe_lt_coe.mpr (WithTop.coe_lt_top x)⟩

@[simp] theorem not_posInf_lt : ¬ posInf < a := by
  cases a <;> simp [lt_iff, value]

@[simp] theorem posInf_le_posInf : posInf ≤ posInf := by
  simp [le_iff, value]

@[simp] theorem not_nan_le : ¬ nan ≤ a := by
  simp [le_iff, value]

@[simp] theorem not_le_nan : ¬ a ≤ nan := by
  simp [le_iff, value]

@[simp] theorem not_nan_lt : ¬ nan < a := by
  simp [lt_iff, value]

@[simp] theorem not_lt_nan : ¬ a < nan := by
  simp [lt_iff, value]

@[simp] theorem not_finite_le_negInf : ¬ finite x hx ≤ negInf := by
  simp [le_iff, value]

@[simp] theorem negInf_lt_finite : negInf < finite x hx := by
  simp [lt_iff, value]

@[simp] theorem negInf_lt_posInf : negInf < posInf := by
  simp [lt_iff, value]

@[simp] theorem negInf_le_finite : negInf ≤ finite x hx := by
  simp [le_iff, value]

@[simp] theorem zero_eq : (0 : Double) = finite 0 isDouble_zero := rfl

@[simp] theorem one_eq : (1 : Double) = finite 1 isDouble_one := rfl

end Order

theorem zero_le_one : (0 : Double) ≤ 1 := by simp

/-! ## Products of non-negative numbers -/

section Nonneg

variable {a b c j : Double}

theorem nonneg_cases (h : 0 ≤ a) : (∃ x hx, a = finite x hx ∧ 0 ≤ x) ∨ a = posInf := by
  cases a with
  | nan => simp at h
  | negInf => simp at h
  | finite x hx => exact .inl ⟨x, hx, rfl, by simpa using h⟩
  | posInf => exact .inr rfl

theorem ne_nan_of_nonneg (h : 0 ≤ a) : a ≠ nan := by
  rintro rfl
  simp at h

theorem ofRat_nonneg {x : ℚ} (h : 0 ≤ x) : 0 ≤ ofRat x := by
  unfold ofRat
  split_ifs with hfin hpos
  · simpa using nearest_nonneg h
  · simp
  · -- a zero is not rounded to an infinity
    obtain rfl : x = 0 := le_antisymm (not_lt.mp hpos) h
    simp at hfin

theorem ofRat_le {x y : ℚ} (hy : IsDouble y) (hx : 0 ≤ x) (h : x ≤ y) : ofRat x ≤ finite y hy := by
  have hle := nearest_le_of_isDouble hx hy h
  have hfin : |nearest x| < 2 ^ 1024 := by
    rw [abs_of_nonneg (nearest_nonneg hx)]
    exact hle.trans_lt ((le_abs_self y).trans_lt hy.2)
  rw [ofRat, dif_pos hfin]
  simpa using hle

theorem finite_mul_finite {x y : ℚ} (hx : IsDouble x) (hy : IsDouble y) :
    finite x hx * finite y hy = ofRat (x * y) := rfl

@[simp] theorem nan_mul : nan * a = nan := rfl

@[simp] theorem mul_nan (a : Double) : a * nan = nan := by
  cases a <;> rfl

theorem posInf_mul_finite {x : ℚ} {hx : IsDouble x} (h : 0 ≤ x) :
    posInf * finite x hx = if x = 0 then nan else posInf := by
  show infinity (1 * SignType.sign x) = _
  by_cases hzero : x = 0
  · simp [hzero, infinity]
  · rw [if_neg hzero, sign_pos (lt_of_le_of_ne h (Ne.symm hzero))]
    rfl

theorem mul_nonneg (ha : 0 ≤ a) (hb : 0 ≤ b) : a * b = nan ∨ 0 ≤ a * b := by
  rcases nonneg_cases ha with ⟨x, hx, rfl, hx0⟩ | rfl
  · rcases nonneg_cases hb with ⟨y, hy, rfl, hy0⟩ | rfl
    · exact .inr (ofRat_nonneg (Rat.mul_nonneg hx0 hy0))
    · show infinity (SignType.sign x * 1) = _ ∨ 0 ≤ infinity (SignType.sign x * 1)
      rcases hx0.eq_or_lt with rfl | hpos
      · exact .inl (by simp [infinity])
      · exact .inr (by rw [sign_pos hpos]; simp [infinity])
  · rcases nonneg_cases hb with ⟨y, hy, rfl, hy0⟩ | rfl
    · rw [posInf_mul_finite hy0]
      split_ifs
      · exact .inl rfl
      · exact .inr (by simp)
    · exact .inr (by show 0 ≤ infinity (1 * 1); simp [infinity])

theorem mul_ne_nan {x : ℚ} {hx : IsDouble x} (hpos : 0 < x) (hb : 0 ≤ b) :
    finite x hx * b ≠ nan := by
  rcases nonneg_cases hb with ⟨y, hy, rfl, hy0⟩ | rfl
  · exact ne_nan_of_nonneg (ofRat_nonneg (Rat.mul_nonneg hpos.le hy0))
  · show infinity (SignType.sign x * 1) ≠ nan
    rw [sign_pos hpos]
    simp [infinity]

/-- A fraction of a non-negative double lies between zero and the double. -/
theorem mul_fraction {x : ℚ} (hx : IsDouble x) (hx0 : 0 ≤ x) (hj0 : 0 ≤ j)
    (hj1 : j < 1) : 0 ≤ finite x hx * j ∧ finite x hx * j ≤ finite x hx := by
  rcases nonneg_cases hj0 with ⟨y, hy, rfl, hy0⟩ | rfl
  · rw [one_eq, finite_lt_finite] at hj1
    rw [finite_mul_finite]
    exact ⟨ofRat_nonneg (Rat.mul_nonneg hx0 hy0),
      ofRat_le hx (Rat.mul_nonneg hx0 hy0) (mul_le_of_le_one_right hx0 hj1.le)⟩
  · simp at hj1

theorem le_posInf (h : 0 ≤ a) : a ≤ posInf := by
  rcases nonneg_cases h with ⟨x, hx, rfl, -⟩ | rfl
  · exact finite_le_posInf
  · exact posInf_le_posInf

/-- **A fraction of a capped value stays under the cap**, unless one of the numbers is a NaN or an
infinity is multiplied by zero. -/
theorem min_mul_fraction_iff (ha : a = nan ∨ 0 ≤ a) (hc : a ≠ nan → c = nan ∨ 0 ≤ c) (hj0 : 0 ≤ j)
    (hj1 : j < 1) : (0 ≤ a.min c * j ∧ a.min c * j ≤ c) ↔
      (a ≠ nan ∧ ¬ (a = posInf ∧ c = posInf ∧ j = 0)) ∧ c ≠ nan := by
  rcases ha with rfl | ha
  · simp [Double.min]
  rcases hc (ne_nan_of_nonneg ha) with rfl | hc0
  · simp
  have hna := ne_nan_of_nonneg ha
  have hnc := ne_nan_of_nonneg hc0
  rcases nonneg_cases ha with ⟨x, hx, rfl, hx0⟩ | rfl <;>
    rcases nonneg_cases hc0 with ⟨y, hy, rfl, hy0⟩ | rfl
  · have hfrac : 0 ≤ (finite x hx).min (finite y hy) * j ∧
        (finite x hx).min (finite y hy) * j ≤ finite y hy := by
      unfold Double.min
      by_cases hlt : y < x
      · rw [if_pos (by simpa using hlt)]
        exact mul_fraction hy hy0 hj0 hj1
      · rw [if_neg (by simpa using hlt)]
        have hmul := mul_fraction hx hx0 hj0 hj1
        rcases nonneg_cases hmul.1 with ⟨z, hz, hzeq, -⟩ | hinf
        · rw [hzeq] at hmul ⊢
          refine ⟨hmul.1, ?_⟩
          rw [finite_le_finite] at hmul ⊢
          exact hmul.2.trans (not_lt.mp hlt)
        · rw [hinf] at hmul
          simp at hmul
    exact iff_of_true hfrac ⟨⟨hna, by simp⟩, hnc⟩
  · have hmul := mul_fraction hx hx0 hj0 hj1
    have hmin : (finite x hx).min posInf = finite x hx := by simp [Double.min]
    rw [hmin]
    exact iff_of_true ⟨hmul.1, le_posInf hmul.1⟩ ⟨⟨hna, by simp⟩, hnc⟩
  · have hmin : posInf.min (finite y hy) = finite y hy := by simp [Double.min]
    rw [hmin]
    exact iff_of_true (mul_fraction hy hy0 hj0 hj1) ⟨⟨hna, by simp⟩, hnc⟩
  · rcases nonneg_cases hj0 with ⟨z, hz, rfl, hz0⟩ | rfl
    · by_cases hzero : z = 0
      · subst hzero
        simp [Double.min, posInf_mul_finite hz0]
      · simp [Double.min, posInf_mul_finite hz0, hzero]
    · simp at hj1

theorem fraction_ne_posInf {x : ℚ} (hx : IsDouble x) (hx0 : 0 ≤ x) (hj0 : 0 ≤ j) (hj1 : j < 1) :
    finite x hx * j ≠ posInf := by
  intro h
  have hle := (mul_fraction hx hx0 hj0 hj1).2
  rw [h] at hle
  simp at hle

/-- A fraction of a capped value is an infinity only when value and cap are. -/
theorem min_mul_fraction_eq_posInf (hj0 : 0 ≤ j) (hj1 : j < 1)
    (h : 0 ≤ a.min c * j ∧ a.min c * j ≤ c) (ha : a = nan ∨ 0 ≤ a) (hc : a ≠ nan → c = nan ∨ 0 ≤ c) :
    a.min c * j = posInf ↔ a = posInf ∧ c = posInf := by
  obtain ⟨⟨hna, -⟩, hnc⟩ := (min_mul_fraction_iff ha hc hj0 hj1).mp h
  have ha0 := ha.resolve_left hna
  have hc0 := (hc hna).resolve_left hnc
  constructor
  · intro heq
    rcases nonneg_cases ha0 with ⟨x, hx, rfl, hx0⟩ | rfl
    · unfold Double.min at heq
      split_ifs at heq with hlt
      · rcases nonneg_cases hc0 with ⟨y, hy, rfl, hy0⟩ | rfl
        · exact absurd heq (fraction_ne_posInf hy hy0 hj0 hj1)
        · simp at hlt
      · exact absurd heq (fraction_ne_posInf hx hx0 hj0 hj1)
    · refine ⟨rfl, ?_⟩
      rcases nonneg_cases hc0 with ⟨y, hy, rfl, hy0⟩ | rfl
      · have hmin : posInf.min (finite y hy) = finite y hy := by simp [Double.min]
        rw [hmin] at heq
        exact absurd heq (fraction_ne_posInf hy hy0 hj0 hj1)
      · rfl
  · rintro ⟨rfl, rfl⟩
    have hmin : posInf.min posInf = posInf := by simp [Double.min]
    rw [hmin] at h ⊢
    rcases nonneg_cases hj0 with ⟨z, hz, rfl, hz0⟩ | rfl
    · rw [posInf_mul_finite hz0] at h ⊢
      split_ifs at h ⊢
      · simp at h
      · rfl
    · simp at hj1

end Nonneg

end Double

end Binary64
