import Mathlib.Algebra.Order.Field.Basic
import TradingAdvisor.Technical.Mirror

/-!
# Bounds and symmetry of the oscillators

The strength index and the exponential average with every division checked, over exact rationals.

* `wilderRsiChecked`, `exponentialMovingAverageChecked` — the loops with the divisions they make;
* `wilderRsiChecked_eq`, `exponentialMovingAverageChecked_eq` — **no division by zero occurs**;
* `oscillator_laws` — **the strength index lies between `0` and `100` and is reflected when gains
  and losses are exchanged; the average lies between the closes it has consumed**.
-/

namespace TradingAdvisor

open Checks

/-! ## The loops -/

/-- What an indicator raises. -/
inductive IndicatorError
  | periodBelowOne
  | divisionByZero
  deriving DecidableEq, Repr

/-- `a / b`, which raises on a zero divisor. -/
def divided (a b : ℚ) : Except IndicatorError ℚ := do
  check (b ≠ 0) .divisionByZero
  return a / b

/-- One step of Wilder's smoothing of both averages. -/
def smoothBoth (period : ℕ) (averages move : ℚ × ℚ) : Except IndicatorError (ℚ × ℚ) := do
  let avgGain ← divided (averages.1 * (period - 1) + move.1) period
  let avgLoss ← divided (averages.2 * (period - 1) + move.2) period
  return (avgGain, avgLoss)

/-- The strength index of the smoothed averages. -/
def rsiChecked (avgGain avgLoss : ℚ) : Except IndicatorError ℚ :=
  if avgGain = 0 ∧ avgLoss = 0 then return 50
  else if avgLoss = 0 then return 100
  else if avgGain = 0 then return 0
  else do
    let rs ← divided avgGain avgLoss
    let share ← divided 100 (1 + rs)
    return 100 - share

/-- Wilder's strength index from parallel gains and losses. -/
def wilderRsiChecked (gains losses : List ℚ) (period : ℕ) :
    Except IndicatorError (Option ℚ) := do
  check (1 ≤ period) .periodBelowOne
  if gains.length < period then return none
  let avgGain ← divided (gains.take period).sum period
  let avgLoss ← divided (losses.take period).sum period
  let averages ← ((gains.drop period).zip (losses.drop period)).foldlM (smoothBoth period)
    (avgGain, avgLoss)
  let rsi ← rsiChecked averages.1 averages.2
  return some rsi

/-- The exponential average, seeded with the mean of the first full period. -/
def exponentialMovingAverageChecked (closes : List ℚ) (period : ℕ) :
    Except IndicatorError (List ℚ) := do
  check (1 ≤ period) .periodBelowOne
  if closes.length < period then return []
  let alpha ← divided 2 (period + 1)
  let seed ← divided (closes.take period).sum period
  return (closes.drop period).scanl (fun prev close => (close - prev) * alpha + prev) seed

variable {closes gs ls : List ℚ} {period i : ℕ} {a b lo hi e seed : ℚ}

theorem divided_ok (h : b ≠ 0) : divided a b = .ok (a / b) := check_bind_ok.mpr ⟨h, rfl⟩

/-! ## No division by zero -/

theorem rsiChecked_eq (ha : 0 ≤ a) (hb : 0 ≤ b) : rsiChecked a b = .ok (rsiOf a b) := by
  unfold rsiChecked rsiOf
  split_ifs with hflat hloss hgain
  · rfl
  · rfl
  · rfl
  · have hrs : 0 ≤ a / b := div_nonneg ha hb
    exact bind_ok_iff.mpr ⟨_, divided_ok hloss,
      bind_ok_iff.mpr ⟨_, divided_ok (by linarith), rfl⟩⟩

/-- The loop smooths the gains and the losses separately. -/
theorem foldlM_smoothBoth (hpos : 0 < period) (hlen : gs.length = ls.length) :
    (gs.zip ls).foldlM (smoothBoth period) (a, b) =
      .ok (gs.foldl (fun average value => (average * (period - 1) + value) / period) a,
        ls.foldl (fun average value => (average * (period - 1) + value) / period) b) := by
  have hne : (period : ℚ) ≠ 0 := by exact_mod_cast hpos.ne'
  induction gs generalizing ls a b with
  | nil =>
      rw [List.length_eq_zero_iff.mp hlen.symm]
      rfl
  | cons gain gs ih =>
      cases ls with
      | nil => cases hlen
      | cons loss ls =>
          rw [List.zip_cons_cons, List.foldlM_cons]
          refine bind_ok_iff.mpr ⟨_, bind_ok_iff.mpr ⟨_, divided_ok hne,
            bind_ok_iff.mpr ⟨_, divided_ok hne, rfl⟩⟩, ?_⟩
          exact ih (Nat.succ.inj hlen)

theorem wilderRsiChecked_eq (hpos : 0 < period) (hlen : gs.length = ls.length)
    (hgs : ∀ v ∈ gs, 0 ≤ v) (hls : ∀ v ∈ ls, 0 ≤ v) :
    wilderRsiChecked gs ls period = .ok (wilderRsi gs ls period) := by
  have hne : (period : ℚ) ≠ 0 := by exact_mod_cast hpos.ne'
  refine check_bind_ok.mpr ⟨hpos, ?_⟩
  unfold wilderRsi
  split_ifs with hshort
  · rfl
  · have hgain := wilderSmooth_nonneg hpos hgs
    have hloss := wilderSmooth_nonneg hpos hls
    rw [wilderSmooth, List.getLast?_scanl, wilderSmooth, List.getLast?_scanl]
    refine bind_ok_iff.mpr ⟨_, divided_ok hne, bind_ok_iff.mpr ⟨_, divided_ok hne,
      bind_ok_iff.mpr ⟨_, foldlM_smoothBoth hpos (by simp [hlen]), bind_ok_iff.mpr ⟨_,
        rsiChecked_eq ?_ ?_, rfl⟩⟩⟩⟩
    · exact hgain _ (List.mem_of_getLast? (List.getLast?_scanl))
    · exact hloss _ (List.mem_of_getLast? (List.getLast?_scanl))

theorem exponentialMovingAverageChecked_eq (hpos : 0 < period) :
    exponentialMovingAverageChecked closes period =
      .ok (exponentialMovingAverage closes period) := by
  have hne : (period : ℚ) ≠ 0 := by exact_mod_cast hpos.ne'
  have hsucc : (period : ℚ) + 1 ≠ 0 := by positivity
  refine check_bind_ok.mpr ⟨hpos, ?_⟩
  unfold exponentialMovingAverage
  split_ifs with hshort
  · rfl
  · exact bind_ok_iff.mpr ⟨_, divided_ok hsucc, bind_ok_iff.mpr ⟨_, divided_ok hne, rfl⟩⟩

/-! ## Bounds -/

theorem rsiOf_mem_Icc (ha : 0 ≤ a) (hb : 0 ≤ b) : 0 ≤ rsiOf a b ∧ rsiOf a b ≤ 100 := by
  unfold rsiOf
  split_ifs with hflat hloss hgain
  · norm_num
  · norm_num
  · norm_num
  · have hrs : 1 ≤ 1 + a / b := le_add_of_nonneg_right (div_nonneg ha hb)
    have hshare : 100 / (1 + a / b) ≤ 100 := div_le_self (by norm_num) hrs
    have hpos : 0 ≤ 100 / (1 + a / b) := div_nonneg (by norm_num) (by linarith)
    constructor <;> linarith

/-- A series long enough has a strength index, of averages that are not negative. -/
theorem exists_wilderRsi (hpos : 0 < period) (hlen : gs.length = ls.length)
    (hgs : ∀ v ∈ gs, 0 ≤ v) (hls : ∀ v ∈ ls, 0 ≤ v) (hlong : period ≤ gs.length) :
    ∃ a b, 0 ≤ a ∧ 0 ≤ b ∧ wilderRsi gs ls period = some (rsiOf a b) ∧
      wilderRsi ls gs period = some (rsiOf b a) := by
  refine ⟨_, _, wilderSmooth_nonneg hpos hgs _ (List.mem_of_getLast? List.getLast?_scanl),
    wilderSmooth_nonneg hpos hls _ (List.mem_of_getLast? List.getLast?_scanl), ?_, ?_⟩
  · rw [wilderRsi, if_neg (by omega), wilderSmooth, List.getLast?_scanl, wilderSmooth,
      List.getLast?_scanl]
    rfl
  · rw [wilderRsi, if_neg (by omega), wilderSmooth, List.getLast?_scanl, wilderSmooth,
      List.getLast?_scanl]
    rfl

theorem sum_le_length_mul {values : List ℚ} (h : ∀ v ∈ values, v ≤ hi) :
    values.sum ≤ values.length * hi := by
  simpa using List.sum_le_card_nsmul values hi h

theorem length_mul_le_sum {values : List ℚ} (h : ∀ v ∈ values, lo ≤ v) :
    values.length * lo ≤ values.sum := by
  simpa using List.card_nsmul_le_sum values lo h

/-- The mean of the first full period lies between bounds of its closes. -/
theorem seed_mem (hpos : 0 < period) (hlong : period ≤ closes.length)
    (h : ∀ v ∈ closes.take period, lo ≤ v ∧ v ≤ hi) :
    lo ≤ (closes.take period).sum / period ∧ (closes.take period).sum / period ≤ hi := by
  have hq : (0 : ℚ) < period := by exact_mod_cast hpos
  have hlength : (closes.take period).length = period := by
    rw [List.length_take]
    omega
  have hlow := length_mul_le_sum fun v hv => (h v hv).1
  have hhigh := sum_le_length_mul fun v hv => (h v hv).2
  rw [hlength] at hlow hhigh
  exact ⟨(le_div_iff₀ hq).mpr (by linarith), (div_le_iff₀ hq).mpr (by linarith)⟩

/-- One step moves the average towards the close, not beyond it. -/
theorem step_mem {alpha prev close : ℚ} (h0 : 0 ≤ alpha) (h1 : alpha ≤ 1)
    (hprev : lo ≤ prev ∧ prev ≤ hi) (hclose : lo ≤ close ∧ close ≤ hi) :
    lo ≤ (close - prev) * alpha + prev ∧ (close - prev) * alpha + prev ≤ hi := by
  have hconvex : (close - prev) * alpha + prev = alpha * close + (1 - alpha) * prev := by ring
  rw [hconvex]
  constructor <;> nlinarith

/-- The run of the average stays between bounds of the closes it has consumed. -/
theorem foldl_mem {alpha : ℚ} (h0 : 0 ≤ alpha) (h1 : alpha ≤ 1) (values : List ℚ)
    (hseed : lo ≤ seed ∧ seed ≤ hi) (h : ∀ v ∈ values, lo ≤ v ∧ v ≤ hi) :
    lo ≤ values.foldl (fun prev close => (close - prev) * alpha + prev) seed ∧
      values.foldl (fun prev close => (close - prev) * alpha + prev) seed ≤ hi := by
  induction values generalizing seed with
  | nil => exact hseed
  | cons v values ih =>
      obtain ⟨hv, hvalues⟩ := List.forall_mem_cons.mp h
      exact ih (step_mem h0 h1 hseed hv) hvalues

/-- **Every average lies between bounds of the closes consumed so far.** -/
theorem exponentialMovingAverage_mem (hpos : 0 < period)
    (he : (exponentialMovingAverage closes period)[i]? = some e)
    (h : ∀ v ∈ closes.take (period + i), lo ≤ v ∧ v ≤ hi) : lo ≤ e ∧ e ≤ hi := by
  have hq : (1 : ℚ) ≤ period := by exact_mod_cast hpos
  unfold exponentialMovingAverage at he
  split_ifs at he with hshort
  · cases he
  · rw [List.getElem?_scanl] at he
    split_ifs at he with hi'
    cases he
    rw [List.take_add] at h
    refine foldl_mem (div_nonneg zero_le_two (by linarith))
      ((div_le_one (by linarith)).mpr (by linarith)) _
      (seed_mem hpos (by omega) fun v hv => h v (List.mem_append_left _ hv))
      fun v hv => h v (List.mem_append_right _ hv)

/-- The value lies between the least and the greatest of the closes. -/
def BetweenCloses (closes : List ℚ) (value : ℚ) : Prop :=
  ∃ lo hi, closes.min? = some lo ∧ closes.max? = some hi ∧ lo ≤ value ∧ value ≤ hi

/-- What holds of the oscillators over the closes. -/
structure OscillatorLaws (closes : List ℚ) (period : ℕ) : Prop where
  rsi : period < closes.length → ∃ r,
    wilderRsiChecked (gains closes) (losses closes) period = .ok (some r) ∧ 0 ≤ r ∧ r ≤ 100 ∧
      wilderRsiChecked (losses closes) (gains closes) period = .ok (some (100 - r))
  short : closes.length ≤ period →
    wilderRsiChecked (gains closes) (losses closes) period = .ok none ∧
      wilderRsiChecked (losses closes) (gains closes) period = .ok none
  average : ∃ series, exponentialMovingAverageChecked closes period = .ok series ∧
    series.length = closes.length + 1 - period ∧
      ∀ i e, series[i]? = some e → BetweenCloses (closes.take (period + i)) e

theorem length_gains_eq (closes : List ℚ) : (gains closes).length = closes.length - 1 := by
  rw [gains, List.length_map, consecutive, List.length_zip, List.length_tail]
  omega

/-- **The oscillators obey their laws for every series and every period**: the strength index is a
percentage that exchanging gains and losses reflects, no division by zero occurs, and every
exponential average lies between the closes it has consumed. -/
theorem oscillator_laws (closes : List ℚ) (hpos : 0 < period) : OscillatorLaws closes period where
  rsi hlong := by
    have hgains : period ≤ (gains closes).length := by
      rw [length_gains_eq]
      omega
    obtain ⟨a, b, ha, hb, hab, hba⟩ :=
      exists_wilderRsi hpos (length_gains closes) gains_nonneg losses_nonneg hgains
    obtain ⟨hlow, hhigh⟩ := rsiOf_mem_Icc ha hb
    refine ⟨rsiOf a b, ?_, hlow, hhigh, ?_⟩
    · rw [wilderRsiChecked_eq hpos (length_gains closes) gains_nonneg losses_nonneg, hab]
    · rw [wilderRsiChecked_eq hpos (length_gains closes).symm losses_nonneg gains_nonneg, hba,
        rsiOf_swap ha hb]
  short hshort := by
    have hgains : (gains closes).length < period := by
      rw [length_gains_eq]
      omega
    constructor
    · rw [wilderRsiChecked_eq hpos (length_gains closes) gains_nonneg losses_nonneg, wilderRsi,
        if_pos hgains]
    · rw [wilderRsiChecked_eq hpos (length_gains closes).symm losses_nonneg gains_nonneg,
        wilderRsi, if_pos (length_gains closes ▸ hgains)]
  average := by
    refine ⟨_, exponentialMovingAverageChecked_eq hpos, ?_, fun i e he => ?_⟩
    · unfold exponentialMovingAverage
      split_ifs with hshort
      · rw [List.length_nil]
        omega
      · rw [List.length_scanl, List.length_drop]
        omega
    · have hne : closes.take (period + i) ≠ [] := by
        intro hnil
        unfold exponentialMovingAverage at he
        rw [List.take_eq_nil_iff] at hnil
        rcases hnil with h | h
        · omega
        · rw [h, if_pos (by simpa using hpos)] at he
          cases he
      obtain ⟨lo, hlo⟩ := Option.isSome_iff_exists.mp (List.isSome_min?_of_ne_nil hne)
      obtain ⟨hi, hhi⟩ := Option.isSome_iff_exists.mp (List.isSome_max?_of_ne_nil hne)
      refine ⟨lo, hi, hlo, hhi, exponentialMovingAverage_mem hpos he fun v hv => ?_⟩
      exact ⟨(List.min?_eq_some_iff.mp hlo).2 v hv, (List.max?_eq_some_iff.mp hhi).2 v hv⟩

theorem oscillator_laws_sample : OscillatorLaws [1, 2, 4, 3] 2 := oscillator_laws _ Nat.two_pos

end TradingAdvisor
