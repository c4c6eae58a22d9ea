import TradingAdvisor.Lib.Binary64

/-!
# Reconnect backoff policy

Exponential backoff with full jitter. The delay is capped only after the exponential is formed, and
the power of doubles is an error from `2 ^ 1024` on.

* `FloatPower`, `ReconnectPolicy.delayForAttempt` — the power, and the delay before an attempt;
* `DelayFits` — what the numbers must satisfy for the delay to stay under the cap;
* **`delayForAttempt_fits_iff`**: the delay lies between zero and the cap exactly then.
-/

namespace TradingAdvisor

open Binary64 Double

/-- A draw from `[0, 1)`. -/
abbrev Jitter := {j : Double // 0 ≤ j ∧ j < 1}

/-- No jitter. -/
def noJitter : Jitter := ⟨0, by decide +kernel⟩

/-- What computing a delay can raise. -/
inductive BackoffError
  | valueError (message : String)
  | overflowError
  deriving DecidableEq, Repr

/-- The power `x ** n` of a finite double greater than one; `none` is an `OverflowError`. -/
structure FloatPower where
  pow : ℚ → ℕ → Option Double
  overflow : ∀ x n, 1 < x → 2 ^ 1024 ≤ x ^ n → pow x n = none
  nonneg : ∀ x n, 1 < x → x ^ n < 2 ^ 1024 → ∃ v, pow x n = some v ∧ 0 ≤ v

namespace FloatPower

/-- The power of a number that is not finite; an exponent must be a double itself. -/
def ofExponent (n : ℕ) (x : Double) : Option Double :=
  if n = 0 then some 1 else if ofRat n = .posInf then none else some x

/-- The power of any double. -/
def apply (power : FloatPower) : Double → ℕ → Option Double
  | .finite x _, n => power.pow x n
  | .nan, n => ofExponent n .nan
  | .posInf, n => ofExponent n .posInf
  | .negInf, n => ofExponent n (infinity ((-1) ^ n))

theorem ofExponent_eq_some {n : ℕ} {x p : Double} (h : ofExponent n x = some p) :
    p = 1 ∨ p = x := by
  unfold ofExponent at h
  split_ifs at h
  · exact .inl (Option.some.inj h).symm
  · exact .inr (Option.some.inj h).symm

theorem isSome_ofExponent_iff {n : ℕ} {x : Double} :
    (∃ p, ofExponent n x = some p) ↔ n = 0 ∨ ofRat n ≠ .posInf := by
  unfold ofExponent
  by_cases hn : n = 0
  · simp [hn]
  · by_cases ho : ofRat n = .posInf
    · simp [hn, ho]
    · simp [hn, ho]

/-- The power that is rounded once. -/
def rounded : FloatPower where
  pow x n := if 2 ^ 1024 ≤ x ^ n then none else some (ofRat (x ^ n))
  overflow _ _ _ h := if_pos h
  nonneg x n hx h := ⟨_, if_neg (not_le.mpr h), ofRat_nonneg (by positivity)⟩

end FloatPower

/-- Exponential backoff with full jitter; the constructor refuses what compares wrongly. -/
structure ReconnectPolicy where
  baseSeconds : Double
  factor : Double
  maxSeconds : Double
  base_positive : ¬ baseSeconds ≤ 0
  factor_gt_one : ¬ factor ≤ 1
  max_ge_base : ¬ maxSeconds < baseSeconds

namespace ReconnectPolicy

/-- The backoff delay before a reconnect attempt, counted from one. -/
def delayForAttempt (power : FloatPower) (policy : ReconnectPolicy) (attempt : ℤ)
    (jitter : Double) : Except BackoffError Double :=
  if attempt < 1 then .error (.valueError "attempt must be >= 1")
  else if ¬ (0 ≤ jitter ∧ jitter < 1) then .error (.valueError "jitter must be in [0, 1)")
  else
    match power.apply policy.factor (attempt - 1).toNat with
    | none => .error .overflowError
    | some p => .ok ((policy.baseSeconds * p).min policy.maxSeconds * jitter)

/-- The exact power is small enough for a double. -/
def PowerFits (policy : ReconnectPolicy) (n : ℕ) : Prop :=
  match policy.factor with
  | .finite x _ => x ^ n < 2 ^ 1024
  | _ => n = 0 ∨ ofRat n ≠ .posInf

/-- The power is formed, and no step of the delay is without a number. -/
structure DelayFits (power : FloatPower) (policy : ReconnectPolicy) (attempt : ℤ)
    (jitter : Double) : Prop where
  power_fits : policy.PowerFits (attempt - 1).toNat
  product : ∀ p, power.apply policy.factor (attempt - 1).toNat = some p →
    policy.baseSeconds * p ≠ .nan ∧
      ¬ (policy.baseSeconds * p = .posInf ∧ policy.maxSeconds = .posInf ∧ jitter = 0)
  cap : policy.maxSeconds ≠ .nan

/-- The delay fits, and it is not an infinity. -/
def DelayIsFinite (power : FloatPower) (policy : ReconnectPolicy) (attempt : ℤ)
    (jitter : Double) : Prop :=
  policy.DelayFits power attempt jitter ∧
    ∀ p, power.apply policy.factor (attempt - 1).toNat = some p →
      ¬ (policy.baseSeconds * p = .posInf ∧ policy.maxSeconds = .posInf)

/-- The policy of a transport that is given none. -/
def default : ReconnectPolicy where
  baseSeconds := 1
  factor := .finite 2 (by decide +kernel)
  maxSeconds := .finite 60 (by decide +kernel)
  base_positive := by decide +kernel
  factor_gt_one := by decide +kernel
  max_ge_base := by decide +kernel

/-- The policy of an order-book stream that is given none. -/
def snapshotRetry : ReconnectPolicy where
  baseSeconds := 1
  factor := .finite 2 (by decide +kernel)
  maxSeconds := .finite 10 (by decide +kernel)
  base_positive := by decide +kernel
  factor_gt_one := by decide +kernel
  max_ge_base := by decide +kernel

/-- A policy whose third delay overflows. -/
def steep : ReconnectPolicy where
  baseSeconds := 1
  factor := .finite (2 ^ 700) (by decide +kernel)
  maxSeconds := .finite 10 (by decide +kernel)
  base_positive := by decide +kernel
  factor_gt_one := by decide +kernel
  max_ge_base := by decide +kernel

variable {power : FloatPower} {policy : ReconnectPolicy} {attempt : ℤ} {jitter : Double} {n : ℕ}

theorem one_lt_of_finite {x : ℚ} {hx : IsDouble x} (h : policy.factor = .finite x hx) : 1 < x := by
  have := policy.factor_gt_one
  rw [h] at this
  simpa using this

theorem powerFits_iff : policy.PowerFits n ↔ ∃ p, power.apply policy.factor n = some p := by
  unfold PowerFits FloatPower.apply
  cases hf : policy.factor with
  | finite x hx =>
      simp only
      constructor
      · intro h
        obtain ⟨p, hp, -⟩ := power.nonneg x n (one_lt_of_finite hf) h
        exact ⟨p, hp⟩
      · rintro ⟨p, hp⟩
        by_contra hbig
        rw [power.overflow x n (one_lt_of_finite hf) (not_lt.mp hbig)] at hp
        cases hp
  | nan => exact FloatPower.isSome_ofExponent_iff.symm
  | negInf => exact FloatPower.isSome_ofExponent_iff.symm
  | posInf => exact FloatPower.isSome_ofExponent_iff.symm

theorem apply_nonneg {p : Double} (h : power.apply policy.factor n = some p) :
    p = .nan ∨ 0 ≤ p := by
  cases hf : policy.factor with
  | finite x hx =>
      simp only [hf, FloatPower.apply] at h
      have hx1 := one_lt_of_finite hf
      by_cases hbig : 2 ^ 1024 ≤ x ^ n
      · rw [power.overflow x n hx1 hbig] at h
        cases h
      · obtain ⟨v, hv, hv0⟩ := power.nonneg x n hx1 (not_le.mp hbig)
        rw [hv, Option.some.injEq] at h
        exact .inr (h ▸ hv0)
  | negInf =>
      have := policy.factor_gt_one
      simp [hf] at this
  | nan =>
      rw [hf] at h
      rcases FloatPower.ofExponent_eq_some h with rfl | rfl
      · exact .inr zero_le_one
      · exact .inl rfl
  | posInf =>
      rw [hf] at h
      rcases FloatPower.ofExponent_eq_some h with rfl | rfl
      · exact .inr zero_le_one
      · exact .inr (by simp)

theorem base_cases (policy : ReconnectPolicy) :
    policy.baseSeconds = .nan ∨ 0 ≤ policy.baseSeconds := by
  have hpos := policy.base_positive
  cases hb : policy.baseSeconds with
  | nan => exact .inl rfl
  | negInf => simp [hb] at hpos
  | finite x hx =>
      right
      simp only [hb, zero_eq, finite_le_finite] at hpos ⊢
      exact (not_le.mp hpos).le
  | posInf => exact .inr (by simp)

theorem max_cases (h : policy.baseSeconds ≠ .nan) :
    policy.maxSeconds = .nan ∨ 0 ≤ policy.maxSeconds := by
  have hpos := policy.base_positive
  have hge := policy.max_ge_base
  cases hm : policy.maxSeconds with
  | nan => exact .inl rfl
  | posInf => exact .inr (by simp)
  | negInf =>
      cases hb : policy.baseSeconds with
      | nan => exact absurd hb h
      | negInf => simp [hb] at hpos
      | finite x hx => simp [hb, hm] at hge
      | posInf => simp [hb, hm] at hge
  | finite y hy =>
      right
      cases hb : policy.baseSeconds with
      | nan => exact absurd hb h
      | negInf => simp [hb] at hpos
      | posInf => simp [hb, hm] at hge
      | finite x hx =>
          simp only [hb, hm, zero_eq, finite_le_finite, finite_lt_finite] at hpos hge ⊢
          exact (not_le.mp hpos).le.trans (not_lt.mp hge)

theorem product_cases {p : Double} (hp : power.apply policy.factor n = some p) :
    (policy.baseSeconds * p = .nan ∨ 0 ≤ policy.baseSeconds * p) ∧
      (policy.baseSeconds * p ≠ .nan → policy.maxSeconds = .nan ∨ 0 ≤ policy.maxSeconds) := by
  refine ⟨?_, fun hne => max_cases fun hb => hne (by rw [hb, nan_mul])⟩
  rcases policy.base_cases with hb | hb
  · exact .inl (by rw [hb, nan_mul])
  rcases apply_nonneg hp with rfl | hp0
  · exact .inl (mul_nan _)
  · exact mul_nonneg hb hp0

theorem delayForAttempt_eq (h : 1 ≤ attempt) (hj0 : 0 ≤ jitter) (hj1 : jitter < 1) :
    policy.delayForAttempt power attempt jitter =
      match power.apply policy.factor (attempt - 1).toNat with
      | none => .error .overflowError
      | some p => .ok ((policy.baseSeconds * p).min policy.maxSeconds * jitter) := by
  unfold delayForAttempt
  rw [if_neg (by omega), if_neg (not_not.mpr ⟨hj0, hj1⟩)]

/-- **The delay lies between zero and the cap exactly when its numbers fit.** -/
theorem delayForAttempt_fits_iff (h : 1 ≤ attempt) (hj0 : 0 ≤ jitter) (hj1 : jitter < 1) :
    (∃ d, policy.delayForAttempt power attempt jitter = .ok d ∧ 0 ≤ d ∧ d ≤ policy.maxSeconds) ↔
      policy.DelayFits power attempt jitter := by
  rw [delayForAttempt_eq h hj0 hj1]
  cases hp : power.apply policy.factor (attempt - 1).toNat with
  | none =>
      constructor
      · rintro ⟨d, hd, -⟩
        cases hd
      · intro hfits
        obtain ⟨p, hp'⟩ := powerFits_iff.mp hfits.power_fits
        rw [hp] at hp'
        cases hp'
  | some p =>
      obtain ⟨hprod, hcap⟩ := product_cases hp
      have hiff := min_mul_fraction_iff hprod hcap hj0 hj1
      constructor
      · rintro ⟨d, hd, hrange⟩
        cases hd
        obtain ⟨hproduct, hne⟩ := hiff.mp hrange
        exact ⟨powerFits_iff.mpr ⟨p, hp⟩, fun q hq => by
          rw [hp] at hq
          cases hq
          exact hproduct, hne⟩
      · intro hfits
        exact ⟨_, rfl, hiff.mpr ⟨hfits.product p hp, hfits.cap⟩⟩

theorem delayForAttempt_finite_iff (h : 1 ≤ attempt) (hj0 : 0 ≤ jitter) (hj1 : jitter < 1) :
    (∃ d, policy.delayForAttempt power attempt jitter = .ok d ∧ (0 ≤ d ∧ d ≤ policy.maxSeconds) ∧
      d ≠ .posInf) ↔ policy.DelayIsFinite power attempt jitter := by
  have hfits : _ ↔ policy.DelayFits power attempt jitter := delayForAttempt_fits_iff h hj0 hj1
  constructor
  · rintro ⟨d, hd, hrange, hne⟩
    refine ⟨hfits.mp ⟨d, hd, hrange⟩, fun p hp hinf => hne ?_⟩
    rw [delayForAttempt_eq h hj0 hj1, hp] at hd
    cases hd
    obtain ⟨hprod, hcap⟩ := product_cases hp
    exact (min_mul_fraction_eq_posInf hj0 hj1 hrange hprod hcap).mpr hinf
  · rintro ⟨hfit, hfin⟩
    obtain ⟨d, hd, hrange⟩ := hfits.mpr hfit
    refine ⟨d, hd, hrange, fun hinf => ?_⟩
    obtain ⟨p, hp⟩ := powerFits_iff.mp hfit.power_fits
    rw [delayForAttempt_eq h hj0 hj1, hp] at hd
    cases hd
    obtain ⟨hprod, hcap⟩ := product_cases hp
    exact hfin p hp ((min_mul_fraction_eq_posInf hj0 hj1 hrange hprod hcap).mp hinf)

/-- With finite numbers the delay fits as long as the exact power is below `2 ^ 1024`. -/
theorem delayIsFinite_iff_of_finite {b x m : ℚ} {hb : IsDouble b} {hx : IsDouble x}
    {hm : IsDouble m} (hbase : policy.baseSeconds = .finite b hb)
    (hfactor : policy.factor = .finite x hx) (hmax : policy.maxSeconds = .finite m hm) :
    policy.DelayIsFinite power attempt jitter ↔ x ^ (attempt - 1).toNat < 2 ^ 1024 := by
  have hfits : policy.PowerFits (attempt - 1).toNat ↔ x ^ (attempt - 1).toNat < 2 ^ 1024 := by
    unfold PowerFits
    rw [hfactor]
  constructor
  · intro h
    exact hfits.mp h.1.power_fits
  · intro h
    refine ⟨⟨hfits.mpr h, fun p hp => ⟨fun hnan => ?_, by simp [hmax]⟩, by simp [hmax]⟩,
      by simp [hmax]⟩
    -- a positive finite base times a non-negative power is a number
    have hx1 := one_lt_of_finite hfactor
    obtain ⟨v, hv, hv0⟩ := power.nonneg x _ hx1 h
    rw [hfactor] at hp
    have hpv : some p = some v := hp.symm.trans hv
    rw [Option.some.injEq] at hpv
    subst hpv
    have hbase0 := policy.base_positive
    rw [hbase] at hnan hbase0
    exact mul_ne_nan (by simpa using hbase0) hv0 hnan

end ReconnectPolicy

end TradingAdvisor
