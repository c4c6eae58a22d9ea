import TradingAdvisor.Technical.TechnicalContour
import TradingAdvisor.Core.LocalTime
import TradingAdvisor.Lib.Keyed
import TradingAdvisor.Lib.Rounding
import Mathlib.Data.List.Perm.Subperm
import Mathlib.Data.List.DropRight

/-!
# Synthesis of H4 candles

The provider reports minutes and hours directly and derives four-hour candles: it fetches a fixed
number of hourly bars, keeps the closed ones and groups them by the four-hour bucket of their time.
A bucket gives a candle only when its members are its four hours, each once and nothing else.

* `mapMt5Rate` — one raw bar;
* `resampleH4`, `h4Ohlcv`, `getOhlcv` — the synthesis and the provider;
* `completeOrderedMembers_eq_some_iff`, `mem_resampleH4_iff` — which buckets give a candle;
* `filter_hourlyBars` — in a contiguous series every bucket inside it is complete;
* **`h4Synthesis_exact`**: the candles are exact and independent of the order of the input, and the
  fixed lookback yields 51 of them, however the hours lie in their buckets.
-/

namespace TradingAdvisor

open SignificantDigits VersionedStore

/-! ## Raw bars -/

/-- A raw bar; its time is the server's wall clock as epoch seconds. -/
structure MT5RawRate where
  epochSeconds : ℤ
  openPrice : ℚ
  high : ℚ
  low : ℚ
  close : ℚ
  tickVolume : ℤ

/-- What makes a raw bar unusable. -/
inductive RateDefect
  | wallTime (error : ZoneInfo.WallTimeError)
  | nonPositivePrice
  | negativeTickVolume
  | openOutOfRange
  | closeOutOfRange
  | highBelowLow
  deriving DecidableEq, Repr

/-- Failures of the provider. -/
inductive OHLCVError
  | asOfRequired
  | unsupportedTimeframe (timeframe : Timeframe)
  | providerUnavailable (symbol : Symbol) (timeframe : Timeframe)
  | invalidProviderResponse (epochSeconds : ℤ) (defect : RateDefect)
  deriving DecidableEq

/-- One raw bar as a candle; `real_volume` is not read. -/
def mapMt5Rate (serverTimezone : TzInfo) (raw : MT5RawRate) : Except OHLCVError OHLCVCandle :=
  let invalid (defect : RateDefect) : Except OHLCVError OHLCVCandle :=
    .error (.invalidProviderResponse raw.epochSeconds defect)
  match serverTimezone.normalizeMt5ServerTimestamp raw.epochSeconds with
  | .error error => invalid (.wallTime error)
  | .ok timestamp =>
      if hprice : raw.openPrice ≤ 0 ∨ raw.high ≤ 0 ∨ raw.low ≤ 0 ∨ raw.close ≤ 0 then
        invalid .nonPositivePrice
      else if hvolume : raw.tickVolume < 0 then invalid .negativeTickVolume
      else if raw.high < raw.low then invalid .highBelowLow
      else if hopen : ¬ (raw.low ≤ raw.openPrice ∧ raw.openPrice ≤ raw.high) then
        invalid .openOutOfRange
      else if hclose : ¬ (raw.low ≤ raw.close ∧ raw.close ≤ raw.high) then
        invalid .closeOutOfRange
      else
        have hpositive := not_or.mp hprice
        have hpositive' := not_or.mp hpositive.2
        have hpositive'' := not_or.mp hpositive'.2
        .ok
          { timestamp
            openPrice := ⟨raw.openPrice, (not_le.mp hpositive.1).le⟩
            high := ⟨raw.high, (not_le.mp hpositive'.1).le⟩
            low := ⟨raw.low, (not_le.mp hpositive''.1).le⟩
            close := ⟨raw.close, (not_le.mp hpositive''.2).le⟩
            volume := ⟨raw.tickVolume, Int.cast_nonneg (not_lt.mp hvolume)⟩
            openInRange := not_not.mp hopen
            closeInRange := not_not.mp hclose }

/-- The raw bars as candles, up to the first unusable one. -/
def mapMt5Rates (serverTimezone : TzInfo) (raws : List MT5RawRate) :
    Except OHLCVError (List OHLCVCandle) :=
  raws.mapM (mapMt5Rate serverTimezone)

/-! ## Resampling -/

/-- One hour. -/
def h1Hour : Timestamp := minutes 60

/-- The bucket of a candle. -/
def bucketStart (candle : OHLCVCandle) : Timestamp := expectedOpenTime candle.timestamp .h4

/-- The members of a bucket. -/
def memberHours (bucket : Timestamp) : List Timestamp :=
  (List.range 4).map fun i : ℕ => bucket + i * h1Hour

/-- The members in ascending order, if they are the four hours of the bucket. -/
def completeOrderedMembers (bucket : Timestamp) (members : List OHLCVCandle) :
    Option (List OHLCVCandle) :=
  let timestamps := members.map OHLCVCandle.timestamp
  if timestamps.length ≠ timestamps.toFinset.card then none
  else if timestamps.toFinset ≠ (memberHours bucket).toFinset then none
  else some (members.insertionSort fun a b => a.timestamp ≤ b.timestamp)

/-- One candle out of the ordered members of a bucket. -/
def aggregateCandles (R : Rounding) (bucket : Timestamp) (ordered : List OHLCVCandle)
    (h : ordered ≠ []) : OHLCVCandle where
  timestamp := bucket
  openPrice := (ordered.head h).openPrice
  high := (ordered.map OHLCVCandle.high).max (mt List.map_eq_nil_iff.mp h)
  low := (ordered.map OHLCVCandle.low).min (mt List.map_eq_nil_iff.mp h)
  close := (ordered.getLast h).close
  volume := ⟨R.sum (ordered.map fun candle => candle.volume), R.sum_nonneg fun x hx => by
    obtain ⟨candle, -, rfl⟩ := List.mem_map.mp hx
    exact candle.volume.2⟩
  openInRange :=
    ⟨(List.min_le_of_mem (List.mem_map_of_mem (List.head_mem h))).trans
        (ordered.head h).openInRange.1,
      (ordered.head h).openInRange.2.trans
        (List.le_max_of_mem (List.mem_map_of_mem (List.head_mem h)))⟩
  closeInRange :=
    ⟨(List.min_le_of_mem (List.mem_map_of_mem (List.getLast_mem h))).trans
        (ordered.getLast h).closeInRange.1,
      (ordered.getLast h).closeInRange.2.trans
        (List.le_max_of_mem (List.mem_map_of_mem (List.getLast_mem h)))⟩

/-- The candle of one bucket. -/
def bucketCandle (R : Rounding) (bucket : Timestamp) (members : List OHLCVCandle) :
    Option OHLCVCandle :=
  (completeOrderedMembers bucket members).bind fun ordered =>
    if h : ordered ≠ [] then some (aggregateCandles R bucket ordered h) else none

/-- The four-hour candles of the complete buckets, in ascending order. -/
def resampleH4 (R : Rounding) (closedH1Candles : List OHLCVCandle) : List OHLCVCandle :=
  (sortedPairs (· ≤ ·) (Keyed.groupBy bucketStart closedH1Candles)).filterMap fun group =>
    bucketCandle R group.1 group.2

/-! ## The provider -/

/-- The terminal's newest bars of a timeframe, oldest first; `none` when it is unavailable. -/
abbrev RatesRead := Symbol → Timeframe → (count : ℕ) → Option (List MT5RawRate)

/-- Timeframes that are read directly. -/
def directTimeframes : List Timeframe := [.m1, .m5, .m15, .h1]

/-- The number of hourly bars fetched for the synthesis, whatever the limit. -/
def h4RawH1Lookback : ℕ := 208

/-- The bars of a timeframe as candles. -/
def directOhlcv (serverTimezone : TzInfo) (rates : RatesRead) (symbol : Symbol)
    (timeframe : Timeframe) (limit : ℕ) : Except OHLCVError (List OHLCVCandle) :=
  match rates symbol timeframe limit with
  | none => .error (.providerUnavailable symbol timeframe)
  | some raws => mapMt5Rates serverTimezone raws

/-- The newest `limit` four-hour candles; `[-0:]` of a list is the list. -/
def newestCandles (limit : ℕ) (candles : List OHLCVCandle) : List OHLCVCandle :=
  if limit < candles.length ∧ limit ≠ 0 then candles.rtake limit else candles

/-- The four-hour candles out of the closed hourly ones. -/
def h4Ohlcv (R : Rounding) (serverTimezone : TzInfo) (rates : RatesRead) (symbol : Symbol)
    (limit : ℕ) (asOf : Timestamp) : Except OHLCVError (List OHLCVCandle) :=
  match rates symbol .h1 h4RawH1Lookback with
  | none => .error (.providerUnavailable symbol .h1)
  | some raws => do
      let h1Candles ← mapMt5Rates serverTimezone raws
      let (closedH1, _) := splitClosedAndForming h1Candles .h1 asOf
      return newestCandles limit (resampleH4 R closedH1)

/-- The candles of a timeframe. -/
def getOhlcv (R : Rounding) (serverTimezone : TzInfo) (rates : RatesRead) (symbol : Symbol)
    (timeframe : Timeframe) (limit : ℕ) (asOf : Option Timestamp) :
    Except OHLCVError (List OHLCVCandle) :=
  if timeframe ∈ directTimeframes then directOhlcv serverTimezone rates symbol timeframe limit
  else if timeframe = .h4 then
    match asOf with
    | none => .error .asOfRequired
    | some asOf => h4Ohlcv R serverTimezone rates symbol limit asOf
  else .error (.unsupportedTimeframe timeframe)

/-! ## The complete buckets -/

instance : Std.Total fun a b : OHLCVCandle => a.timestamp ≤ b.timestamp :=
  ⟨fun a b => le_total a.timestamp b.timestamp⟩

instance : IsTrans OHLCVCandle fun a b => a.timestamp ≤ b.timestamp :=
  ⟨fun _ _ _ => le_trans⟩

variable {R : Rounding} {bucket : Timestamp} {members ordered candles candles' : List OHLCVCandle}
  {candle candle' : OHLCVCandle}

theorem h1Hour_pos : 0 < h1Hour := by decide

theorem memberHours_pairwise (bucket : Timestamp) : (memberHours bucket).Pairwise (· < ·) := by
  refine List.pairwise_map.mpr (List.pairwise_lt_range.imp fun hij => ?_)
  exact add_lt_add_right (mul_lt_mul_of_pos_right (Nat.cast_lt.mpr hij) h1Hour_pos) _

/-- In order, the members of a complete bucket are its hours. -/
theorem timestamps_insertionSort
    (h : (members.map OHLCVCandle.timestamp).Perm (memberHours bucket)) :
    (members.insertionSort fun a b => a.timestamp ≤ b.timestamp).map OHLCVCandle.timestamp =
      memberHours bucket :=
  List.Perm.eq_of_pairwise (fun _ _ _ _ => le_antisymm)
    (List.pairwise_map.mpr (List.pairwise_insertionSort _ members))
    ((memberHours_pairwise bucket).imp le_of_lt)
    (((List.perm_insertionSort _ members).map _).trans h)

theorem completeOrderedMembers_eq_some_iff :
    completeOrderedMembers bucket members = some ordered ↔
      ordered.Perm members ∧ ordered.map OHLCVCandle.timestamp = memberHours bucket := by
  have hhours : (memberHours bucket).Nodup := (memberHours_pairwise bucket).imp ne_of_lt
  unfold completeOrderedMembers
  dsimp only
  constructor
  · intro h
    split_ifs at h with hcard hset
    cases h
    have hperm := List.perm_insertionSort (fun a b => a.timestamp ≤ b.timestamp) members
    have hnodup : (members.map OHLCVCandle.timestamp).Nodup :=
      Multiset.coe_nodup.mp (Multiset.toFinset_card_eq_card_iff_nodup.mp (not_not.mp hcard).symm)
    exact ⟨hperm, timestamps_insertionSort
      (List.perm_of_nodup_nodup_toFinset_eq hnodup hhours (not_not.mp hset))⟩
  · rintro ⟨hperm, hordered⟩
    have hmembers : (members.map OHLCVCandle.timestamp).Perm (memberHours bucket) :=
      hordered ▸ (hperm.map _).symm
    have hnodup : (members.map OHLCVCandle.timestamp).Nodup := hmembers.nodup_iff.mpr hhours
    rw [if_neg (not_not.mpr (List.toFinset_card_of_nodup hnodup).symm),
      if_neg (not_not.mpr (List.toFinset_eq_of_perm _ _ hmembers))]
    refine congrArg some (List.Perm.eq_of_pairwise (fun a b ha hb hab hba => ?_)
      (List.pairwise_insertionSort (fun a b => a.timestamp ≤ b.timestamp) members)
      (List.pairwise_map.mp (hordered ▸ (memberHours_pairwise bucket).imp le_of_lt))
      ((List.perm_insertionSort _ members).trans hperm.symm))
    exact List.inj_on_of_nodup_map hnodup (List.mem_insertionSort _ |>.mp ha) (hperm.mem_iff.mp hb)
      (le_antisymm hab hba)

theorem bucketCandle_eq_some_iff : bucketCandle R bucket members = some candle ↔
    ∃ ordered, ∃ h : ordered ≠ [], ordered.Perm members ∧
      ordered.map OHLCVCandle.timestamp = memberHours bucket ∧
      aggregateCandles R bucket ordered h = candle := by
  unfold bucketCandle
  rw [Option.bind_eq_some_iff]
  constructor
  · rintro ⟨ordered, hordered, hcandle⟩
    obtain ⟨hperm, hhours⟩ := completeOrderedMembers_eq_some_iff.mp hordered
    by_cases h : ordered ≠ []
    · rw [dif_pos h] at hcandle
      exact ⟨ordered, h, hperm, hhours, Option.some.inj hcandle⟩
    · rw [dif_neg h] at hcandle
      cases hcandle
  · rintro ⟨ordered, h, hperm, hhours, rfl⟩
    exact ⟨ordered, completeOrderedMembers_eq_some_iff.mpr ⟨hperm, hhours⟩, dif_pos h⟩

theorem timestamp_of_bucketCandle (h : bucketCandle R bucket members = some candle) :
    candle.timestamp = bucket := by
  obtain ⟨ordered, hne, -, -, rfl⟩ := bucketCandle_eq_some_iff.mp h
  rfl

/-- The candles of a bucket. -/
def inBucket (candles : List OHLCVCandle) (bucket : Timestamp) : List OHLCVCandle :=
  candles.filter fun candle => bucketStart candle = bucket

theorem lookup_buckets_of_bucketCandle
    (h : bucketCandle R bucket (inBucket candles bucket) = some candle) :
    (Keyed.groupBy bucketStart candles).lookup bucket = some (inBucket candles bucket) := by
  obtain ⟨ordered, hne, hperm, -, -⟩ := bucketCandle_eq_some_iff.mp h
  rw [Keyed.lookup_groupBy, if_neg]
  · rfl
  · intro hnil
    exact hne (List.Perm.eq_nil (hnil ▸ hperm))

theorem mem_resampleH4_iff : candle ∈ resampleH4 R candles ↔
    bucketCandle R candle.timestamp (inBucket candles candle.timestamp) = some candle := by
  unfold resampleH4
  rw [List.mem_filterMap]
  constructor
  · rintro ⟨⟨bucket, members⟩, hmem, hcandle⟩
    have hlookup := (lookup_sortedPairs _ _).mp hmem
    rw [Keyed.lookup_groupBy] at hlookup
    split_ifs at hlookup
    cases hlookup
    obtain rfl := timestamp_of_bucketCandle hcandle
    exact hcandle
  · intro h
    exact ⟨(candle.timestamp, inBucket candles candle.timestamp),
      (lookup_sortedPairs _ _).mpr (lookup_buckets_of_bucketCandle h), h⟩

/-- The four candles are all that is in the bucket, hour by hour, and the candle is made of them. -/
structure MadeOf (R : Rounding) (candles : List OHLCVCandle) (candle : OHLCVCandle)
    (first second third fourth : OHLCVCandle) : Prop where
  members : [first, second, third, fourth].Perm (inBucket candles candle.timestamp)
  hours : first.timestamp = candle.timestamp ∧ second.timestamp = candle.timestamp + h1Hour ∧
    third.timestamp = candle.timestamp + 2 * h1Hour ∧
    fourth.timestamp = candle.timestamp + 3 * h1Hour
  openPrice : candle.openPrice = first.openPrice
  close : candle.close = fourth.close
  high : IsGreatest (OHLCVCandle.high '' {c | c ∈ inBucket candles candle.timestamp}) candle.high
  low : IsLeast (OHLCVCandle.low '' {c | c ∈ inBucket candles candle.timestamp}) candle.low
  volume : (candle.volume : ℚ) =
    R.sum [↑first.volume, ↑second.volume, ↑third.volume, ↑fourth.volume]

theorem memberHours_eq (bucket : Timestamp) :
    memberHours bucket = [bucket, bucket + h1Hour, bucket + 2 * h1Hour, bucket + 3 * h1Hour] := by
  simp [memberHours, List.range_succ]

theorem isGreatest_high (h : ordered ≠ []) (hperm : ordered.Perm members) :
    IsGreatest (OHLCVCandle.high '' {c | c ∈ members})
      (aggregateCandles R bucket ordered h).high := by
  constructor
  · have hmax : (aggregateCandles R bucket ordered h).high ∈ ordered.map OHLCVCandle.high :=
      List.max_mem _
    obtain ⟨c, hc, heq⟩ := List.mem_map.mp hmax
    exact ⟨c, hperm.mem_iff.mp hc, heq⟩
  · rintro _ ⟨c, hc, rfl⟩
    exact List.le_max_of_mem (List.mem_map_of_mem (hperm.mem_iff.mpr hc))

theorem isLeast_low (h : ordered ≠ []) (hperm : ordered.Perm members) :
    IsLeast (OHLCVCandle.low '' {c | c ∈ members}) (aggregateCandles R bucket ordered h).low := by
  constructor
  · have hmin : (aggregateCandles R bucket ordered h).low ∈ ordered.map OHLCVCandle.low :=
      List.min_mem _
    obtain ⟨c, hc, heq⟩ := List.mem_map.mp hmin
    exact ⟨c, hperm.mem_iff.mp hc, heq⟩
  · rintro _ ⟨c, hc, rfl⟩
    exact List.min_le_of_mem (List.mem_map_of_mem (hperm.mem_iff.mpr hc))

/-- Two candles with the same readings are the same. -/
theorem OHLCVCandle.eq_of_fields (htimestamp : candle.timestamp = candle'.timestamp)
    (hopen : candle.openPrice = candle'.openPrice) (hhigh : candle.high = candle'.high)
    (hlow : candle.low = candle'.low) (hclose : candle.close = candle'.close)
    (hvolume : candle.volume = candle'.volume) : candle = candle' := by
  cases candle
  cases candle'
  subst htimestamp hopen hhigh hlow hclose hvolume
  rfl

/-- **A bucket gives a candle when its four hours are present**, and the candle is made of them. -/
theorem mem_resampleH4_iff_madeOf : candle ∈ resampleH4 R candles ↔
    ∃ first second third fourth, MadeOf R candles candle first second third fourth := by
  rw [mem_resampleH4_iff, bucketCandle_eq_some_iff]
  constructor
  · rintro ⟨ordered, h, hperm, hhours, hcandle⟩
    have hfour := hhours
    rw [memberHours_eq] at hfour
    simp only [List.map_eq_cons_iff, List.map_eq_nil_iff] at hfour
    obtain ⟨first, _, rfl, hfirst, second, _, rfl, hsecond, third, _, rfl, hthird, fourth, _, rfl,
      hfourth, rfl⟩ := hfour
    refine ⟨first, second, third, fourth, hperm, ⟨hfirst, hsecond, hthird, hfourth⟩, ?_, ?_, ?_, ?_,
      ?_⟩
    · rw [← hcandle]
      rfl
    · rw [← hcandle]
      rfl
    · exact hcandle ▸ isGreatest_high h hperm
    · exact hcandle ▸ isLeast_low h hperm
    · rw [← hcandle]
      rfl
  · rintro ⟨first, second, third, fourth, h⟩
    obtain ⟨hfirst, hsecond, hthird, hfourth⟩ := h.hours
    refine ⟨[first, second, third, fourth], List.cons_ne_nil _ _, h.members, ?_, ?_⟩
    · rw [memberHours_eq, ← hsecond, ← hthird, ← hfourth, ← hfirst]
      rfl
    · exact OHLCVCandle.eq_of_fields rfl h.openPrice.symm
        ((isGreatest_high _ h.members).unique h.high) ((isLeast_low _ h.members).unique h.low)
        h.close.symm (Subtype.ext h.volume.symm)

theorem resampleH4_ascending (R : Rounding) (candles : List OHLCVCandle) :
    (resampleH4 R candles).Pairwise fun a b => a.timestamp < b.timestamp := by
  refine List.Pairwise.filterMap _ (fun group group' hlt a ha b hb => ?_)
    (sortedPairs_pairwise_ne (· ≤ ·) (Keyed.groupBy bucketStart candles))
  rw [timestamp_of_bucketCandle ha, timestamp_of_bucketCandle hb]
  exact lt_of_le_of_ne hlt.1 hlt.2

theorem resampleH4_perm (h : candles.Perm candles') :
    resampleH4 R candles = resampleH4 R candles' := by
  have hmembers (bucket : Timestamp) : (inBucket candles bucket).Perm (inBucket candles' bucket) :=
    h.filter _
  have hbucket (bucket : Timestamp) : bucketCandle R bucket (inBucket candles bucket) =
      bucketCandle R bucket (inBucket candles' bucket) := by
    refine Option.ext fun candle => ?_
    rw [bucketCandle_eq_some_iff, bucketCandle_eq_some_iff]
    constructor
    · rintro ⟨ordered, hne, hperm, hhours, rfl⟩
      exact ⟨ordered, hne, hperm.trans (hmembers bucket), hhours, rfl⟩
    · rintro ⟨ordered, hne, hperm, hhours, rfl⟩
      exact ⟨ordered, hne, hperm.trans (hmembers bucket).symm, hhours, rfl⟩
  have : Std.Irrefl fun a b : OHLCVCandle => a.timestamp < b.timestamp :=
    ⟨fun a => lt_irrefl a.timestamp⟩
  have : Std.Antisymm fun a b : OHLCVCandle => a.timestamp < b.timestamp :=
    ⟨fun a b hab hba => absurd hab hba.asymm⟩
  refine List.Pairwise.eq_of_mem_iff (resampleH4_ascending R candles)
    (resampleH4_ascending R candles') fun candle => ?_
  rw [mem_resampleH4_iff, mem_resampleH4_iff, hbucket]

/-- The volume is the sum of the four volumes when they and their sum fit in the kept digits. -/
theorem MadeOf.volume_exact {first second third fourth : OHLCVCandle} {e : ℤ}
    (h : MadeOf .decimal28 candles candle first second third fourth)
    (hmultiple : ∀ c ∈ inBucket candles candle.timestamp, ∃ k : ℤ, (c.volume : ℚ) = k * 10 ^ e)
    (hsize : (first.volume + second.volume + third.volume + fourth.volume : ℚ) ≤
      10 ^ 28 * 10 ^ e) :
    (candle.volume : ℚ) = first.volume + second.volume + third.volume + fourth.volume := by
  have hvolumes : ∀ x ∈ [(first.volume : ℚ), second.volume, third.volume, fourth.volume],
      ∃ k : ℤ, x = k * 10 ^ e := by
    intro x hx
    obtain ⟨c, hc, rfl⟩ := List.mem_map.mp
      (show x ∈ [first, second, third, fourth].map fun c => (c.volume : ℚ) from hx)
    exact hmultiple c (h.members.mem_iff.mp hc)
  have hsum := Rounding.sum_significant_multiples (p := 27) hvolumes (by
    simpa [abs_of_nonneg, add_assoc] using hsize)
  rw [h.volume]
  refine hsum.trans ?_
  simp [add_assoc]

theorem exists_bucketCandle (R : Rounding)
    (h : (members.map OHLCVCandle.timestamp).Perm (memberHours bucket)) :
    ∃ candle, bucketCandle R bucket members = some candle := by
  have hhours := timestamps_insertionSort h
  have hne : (members.insertionSort fun a b => a.timestamp ≤ b.timestamp) ≠ [] := by
    intro hnil
    rw [hnil, memberHours_eq] at hhours
    cases hhours
  exact ⟨_, bucketCandle_eq_some_iff.mpr
    ⟨_, hne, List.perm_insertionSort _ members, hhours, rfl⟩⟩

/-! ## Contiguous series -/

/-- One bar for each hour, the first one in hour `start`; the last one has begun. -/
structure HourlyBars (start : ℤ) (count : ℕ) (asOf : Timestamp) (candles : List OHLCVCandle) :
    Prop where
  contiguous : candles.map OHLCVCandle.timestamp =
    (List.range count).map fun i : ℕ => (start + i) * h1Hour
  begun : ∀ i : ℕ, i + 1 = count → (start + i) * h1Hour ≤ asOf

theorem expectedOpenTime_hour (k : ℤ) :
    expectedOpenTime (k * h1Hour) .h4 = k / 4 * (4 * h1Hour) := by
  have hduration : timeframeDuration .h4 = 4 * h1Hour := by decide
  have hdiv : k * h1Hour / (4 * h1Hour) = k / 4 :=
    Int.mul_ediv_mul_of_pos_left k 4 h1Hour_pos
  rw [expectedOpenTime, hduration, hdiv]

variable {start : ℤ} {count : ℕ} {asOf t : Timestamp}

theorem mem_memberHours_iff (q : ℤ) : t ∈ memberHours (q * (4 * h1Hour)) ↔
    ∃ k : ℤ, t = k * h1Hour ∧ k / 4 = q := by
  unfold memberHours
  rw [List.mem_map]
  constructor
  · rintro ⟨i, hi, rfl⟩
    have hlt := List.mem_range.mp hi
    exact ⟨4 * q + i, by ring, by omega⟩
  · rintro ⟨k, rfl, hk⟩
    refine ⟨(k % 4).toNat, List.mem_range.mpr (by omega), ?_⟩
    have hrem : ((k % 4).toNat : ℤ) = k - 4 * q := by omega
    rw [hrem]
    ring

/-- The closed bars of a bucket. -/
def closedInBucket (candles : List OHLCVCandle) (asOf : Timestamp) (bucket : Timestamp) :
    List OHLCVCandle :=
  inBucket (splitClosedAndForming candles .h1 asOf).1 bucket

theorem mem_closedInBucket : candle ∈ closedInBucket candles asOf bucket ↔
    candle ∈ candles ∧ candle.IsClosed .h1 asOf ∧ bucketStart candle = bucket := by
  unfold closedInBucket inBucket splitClosedAndForming
  rw [List.mem_filter, List.mem_filter, decide_eq_true_iff, decide_eq_true_iff, and_assoc]

/-- **A bucket inside a contiguous series is complete**, when its last hour is not the last bar. -/
theorem closedInBucket_complete (h : HourlyBars start count asOf candles) {q : ℤ}
    (hfirst : start ≤ 4 * q) (hlast : 4 * q + 4 < start + count) :
    ((closedInBucket candles asOf (q * (4 * h1Hour))).map OHLCVCandle.timestamp).Perm
      (memberHours (q * (4 * h1Hour))) := by
  have hnodup : (candles.map OHLCVCandle.timestamp).Nodup := by
    rw [h.contiguous]
    refine List.nodup_range.map fun i j hij => ?_
    exact Nat.cast_injective (add_left_cancel (mul_right_cancel₀ h1Hour_pos.ne' hij))
  refine (List.perm_ext_iff_of_nodup (hnodup.sublist ?_)
    ((memberHours_pairwise _).imp ne_of_lt)).mpr fun t => ?_
  · exact (List.filter_sublist.trans List.filter_sublist).map _
  rw [List.mem_map, mem_memberHours_iff]
  constructor
  · rintro ⟨c, hc, rfl⟩
    obtain ⟨hmem, -, hbucket⟩ := mem_closedInBucket.mp hc
    obtain ⟨i, -, hi⟩ := List.mem_map.mp (h.contiguous ▸ List.mem_map_of_mem hmem)
    refine ⟨start + i, hi.symm, ?_⟩
    rw [bucketStart, ← hi, expectedOpenTime_hour] at hbucket
    exact mul_right_cancel₀ (mul_pos four_pos h1Hour_pos).ne' hbucket
  · rintro ⟨k, rfl, hk⟩
    have hindex : ((k - start).toNat : ℤ) = k - start := by omega
    have hmem : k * h1Hour ∈ candles.map OHLCVCandle.timestamp := by
      rw [h.contiguous, List.mem_map]
      exact ⟨(k - start).toNat, List.mem_range.mpr (by omega), by rw [hindex]; ring⟩
    obtain ⟨c, hc, htime⟩ := List.mem_map.mp hmem
    refine ⟨c, mem_closedInBucket.mpr ⟨hc, ?_, ?_⟩, htime⟩
    · -- The next hour has begun: the last bar is not in the bucket.
      have hbegun := h.begun (count - 1) (by omega)
      have hnext : (k + 1) * h1Hour ≤ (start + (count - 1 : ℕ)) * h1Hour :=
        mul_le_mul_of_nonneg_right (by omega) h1Hour_pos.le
      have hclose : c.timestamp + timeframeDuration .h1 = (k + 1) * h1Hour := by
        rw [htime, add_mul, one_mul]
        rfl
      exact hclose.le.trans (hnext.trans hbegun)
    · rw [bucketStart, htime, expectedOpenTime_hour, hk]

/-- With `4 * n + 4` bars, `n` buckets are complete, wherever the first bar lies in its bucket. -/
theorem length_resampleH4_of_hourlyBars (R : Rounding) {n : ℕ}
    (h : HourlyBars start count asOf candles) (hcount : 4 * n + 4 ≤ count) :
    n ≤ (resampleH4 R (splitClosedAndForming candles .h1 asOf).1).length := by
  -- The first bucket that begins inside the series is the one of hour `start + 3`.
  have hsubset : (List.range n).map (fun j : ℕ => ((start + 3) / 4 + j) * (4 * h1Hour)) ⊆
      (resampleH4 R (splitClosedAndForming candles .h1 asOf).1).map OHLCVCandle.timestamp := by
    intro t ht
    obtain ⟨j, hj, rfl⟩ := List.mem_map.mp ht
    have hlt := List.mem_range.mp hj
    obtain ⟨candle, hcandle⟩ := exists_bucketCandle R
      (closedInBucket_complete h (q := (start + 3) / 4 + j) (by omega) (by omega))
    have htime := timestamp_of_bucketCandle hcandle
    refine List.mem_map.mpr ⟨candle, mem_resampleH4_iff.mpr ?_, htime⟩
    rw [htime]
    exact hcandle
  have hnodup : ((List.range n).map
      fun j : ℕ => ((start + 3) / 4 + j) * (4 * h1Hour)).Nodup := by
    refine List.nodup_range.map fun i j hij => ?_
    exact Nat.cast_injective
      (add_left_cancel (mul_right_cancel₀ (mul_pos four_pos h1Hour_pos).ne' hij))
  have hlength := (List.subperm_of_subset hnodup hsubset).length_le
  rwa [List.length_map, List.length_map, List.length_range] at hlength

theorem isClosed_of_mem_resampleH4
    (h : candle ∈ resampleH4 R (splitClosedAndForming candles .h1 asOf).1) :
    candle.IsClosed .h4 asOf := by
  obtain ⟨first, second, third, fourth, hmade⟩ := mem_resampleH4_iff_madeOf.mp h
  have hfourth : fourth ∈ closedInBucket candles asOf candle.timestamp :=
    hmade.members.mem_iff.mp (by simp)
  have hclosed : fourth.timestamp + h1Hour ≤ asOf := (mem_closedInBucket.mp hfourth).2.1
  rw [hmade.hours.2.2.2, add_assoc] at hclosed
  exact hclosed

theorem mem_of_mem_newestCandles {limit : ℕ} (h : candle ∈ newestCandles limit candles) :
    candle ∈ candles := by
  unfold newestCandles at h
  split_ifs at h
  · exact List.mem_of_mem_drop h
  · exact h

theorem le_length_newestCandles {limit n : ℕ} (h : n ≤ candles.length) :
    min limit n ≤ (newestCandles limit candles).length := by
  unfold newestCandles
  split_ifs with hlimit
  · rw [List.rtake, List.length_drop]
    omega
  · omega

/-! ## The synthesis -/

/-- The terminal has an hourly bar for each of the newest `count` hours. -/
def FetchesHourlyBars (serverTimezone : TzInfo) (rates : RatesRead) (symbol : Symbol) (count : ℕ)
    (asOf : Timestamp) : Prop :=
  ∃ raws candles start, rates symbol .h1 count = some raws ∧
    mapMt5Rates serverTimezone raws = .ok candles ∧ HourlyBars start count asOf candles

/-- The synthesis is exact, independent of the order of the input, and sufficient for 51 candles. -/
structure SynthesizesH4 (serverTimezone : TzInfo) : Prop where
  made : ∀ candles candle, candle ∈ resampleH4 .decimal28 candles ↔
    ∃ first second third fourth, MadeOf .decimal28 candles candle first second third fourth
  volume : ∀ candles candle first second third fourth,
    MadeOf .decimal28 candles candle first second third fourth → ∀ e : ℤ,
      (∀ c ∈ inBucket candles candle.timestamp, ∃ k : ℤ, (c.volume : ℚ) = k * 10 ^ e) →
      (first.volume + second.volume + third.volume + fourth.volume : ℚ) ≤ 10 ^ 28 * 10 ^ e →
      (candle.volume : ℚ) = first.volume + second.volume + third.volume + fourth.volume
  ascending : ∀ candles,
    (resampleH4 .decimal28 candles).Pairwise fun a b => a.timestamp < b.timestamp
  orderFree : ∀ candles candles' : List OHLCVCandle, candles.Perm candles' →
    resampleH4 .decimal28 candles = resampleH4 .decimal28 candles'
  sufficient : ∀ rates symbol limit asOf,
    FetchesHourlyBars serverTimezone rates symbol h4RawH1Lookback asOf →
      ∃ candles, getOhlcv .decimal28 serverTimezone rates symbol .h4 limit (some asOf) =
          .ok candles ∧
        min limit 51 ≤ candles.length ∧ ∀ candle ∈ candles, candle.IsClosed .h4 asOf

/-- **The synthesis of four-hour candles is exact**, and its lookback yields 51 of them. -/
theorem h4Synthesis_exact (serverTimezone : TzInfo) : SynthesizesH4 serverTimezone where
  made _ _ := mem_resampleH4_iff_madeOf
  volume _ _ _ _ _ _ h _ hmultiple hsize := h.volume_exact hmultiple hsize
  ascending := resampleH4_ascending .decimal28
  orderFree _ _ := resampleH4_perm
  sufficient rates symbol limit asOf := by
    rintro ⟨raws, candles, start, hrates, hmap, hbars⟩
    refine ⟨newestCandles limit
      (resampleH4 .decimal28 (splitClosedAndForming candles .h1 asOf).1), ?_,
      le_length_newestCandles (length_resampleH4_of_hourlyBars .decimal28 hbars (by decide)),
      fun candle hcandle => isClosed_of_mem_resampleH4 (mem_of_mem_newestCandles hcandle)⟩
    rw [getOhlcv, if_neg (by decide), if_pos rfl]
    simp only [h4Ohlcv, hrates, hmap]
    rfl

/-- A server on UTC. -/
def alwaysUtc : TzInfo where
  offset _ := 0
  utcoffset _ _ := 0

/-- A market that never moves: one bar for each hour since the epoch. -/
def stillRates : RatesRead := fun _ _ count =>
  some ((List.range count).map fun i : ℕ => ⟨i * 3600, 1, 1, 1, 1, 1⟩)

/-- A bar of a still market with the given volume. -/
def stillCandle (hour : ℤ) (volume : Volume) : OHLCVCandle := .still (hour * h1Hour) 1 volume

theorem fetchesHourlyBars_still (symbol : Symbol) :
    FetchesHourlyBars alwaysUtc stillRates symbol 208 (207 * h1Hour) := by
  have htimes : (mapMt5Rates alwaysUtc
      ((List.range 208).map fun i : ℕ => ⟨i * 3600, 1, 1, 1, 1, 1⟩)).map
        (List.map OHLCVCandle.timestamp) =
      .ok ((List.range 208).map fun i : ℕ => (0 + (i : ℤ)) * h1Hour) := by decide +kernel
  cases hmap : mapMt5Rates alwaysUtc
    ((List.range 208).map fun i : ℕ => ⟨i * 3600, 1, 1, 1, 1, 1⟩) with
  | error error =>
      rw [hmap] at htimes
      cases htimes
  | ok candles =>
      rw [hmap] at htimes
      refine ⟨_, candles, 0, rfl, hmap, Except.ok.inj htimes, fun i hi => ?_⟩
      obtain rfl : i = 207 := by omega
      exact le_rfl

/-- Fifty-two candles are more than the lookback yields while the last bar is forming, and a sum
beyond the kept digits is rounded. -/
theorem lookback_too_short :
    FetchesHourlyBars alwaysUtc stillRates btcusdt 208 (207 * h1Hour) ∧
      (getOhlcv .decimal28 alwaysUtc stillRates btcusdt .h4 52 (some (207 * h1Hour))).map
        List.length = .ok 51 ∧
      (resampleH4 .decimal28
        [stillCandle 0 (10 ^ 28), stillCandle 1 1, stillCandle 2 0, stillCandle 3 0]).map
          OHLCVCandle.volume = [10 ^ 28] :=
  ⟨fetchesHourlyBars_still btcusdt, by decide +kernel, by decide +kernel⟩

end TradingAdvisor
