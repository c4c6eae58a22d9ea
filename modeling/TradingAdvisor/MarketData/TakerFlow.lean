import TradingAdvisor.Lib.Binary64
import TradingAdvisor.Lib.Windows
import TradingAdvisor.Technical.TechnicalContour

/-!
# Aggregation of taker volume

Trades are folded into the bucket of their timestamp; the bucket is emitted when a trade of a newer
one arrives. A trade of an older bucket is dropped. The bucket is found from the seconds since the
epoch in double precision, and volumes are added in decimal arithmetic.

* `TakerFlowAggregator`, `addTrade`, `flush` — the aggregator;
* `emit`, `accepted` — the snapshots of a run, and the trades it does not drop;
* `bucketStartFor_eq` — the bucket contains the timestamp for a trade within `2 ^ 34` seconds of the
  epoch;
* `takerFlow_conserves` — **every bucket is emitted once, in ascending order, with the volumes of
  the trades accepted for it**.
-/

namespace TradingAdvisor

open SignificantDigits Windows

/-! ## The aggregator -/

/-- One trade print. -/
structure TradeEvent where
  quantity : Volume
  quoteQuantity : Option Volume := none
  side : OrderSide
  timestamp : Timestamp

/-- Taker volume of one bucket. -/
structure TakerFlowSnapshot where
  symbol : Symbol
  contractType : ContractType
  timeframe : Timeframe
  timestamp : Timestamp
  buyVolume : Volume
  sellVolume : Volume
  buyQuoteVolume : Option Volume
  source : NonemptyText

/-- The bucket that is still filling. -/
structure OpenBucket where
  bucketStart : Timestamp
  buyVolume : Volume := 0
  sellVolume : Volume := 0
  buyQuoteVolume : Volume := 0
  hasQuoteVolume : Bool := true

/-- What an aggregator is about. -/
structure TakerFlowScope where
  symbol : Symbol
  contractType : ContractType
  timeframe : Timeframe
  source : NonemptyText

/-- Accumulates trades into closed snapshots. -/
structure TakerFlowAggregator extends TakerFlowScope where
  opened : Option OpenBucket := none

/-- The start of the bucket: the index is the floor of the seconds as a double by the duration. -/
def bucketStartFor (timeframe : Timeframe) (timestamp : Timestamp) : Timestamp :=
  let epochSeconds := Binary64.nearest (timestamp / (1000000 : ℕ))
  let durationSeconds : ℤ := timeframeDuration timeframe / 1000000
  let bucketIndex := ⌊epochSeconds / durationSeconds⌋
  bucketIndex * durationSeconds * 1000000

variable (R : Rounding)

/-- A sum of volumes, rounded once. -/
def addVolume (a b : Volume) : Volume :=
  ⟨R.rnd (a + b), R.nonneg (add_nonneg a.2 b.2)⟩

/-- Fold a trade into the bucket. -/
def OpenBucket.absorb (bucket : OpenBucket) (trade : TradeEvent) : OpenBucket :=
  let bucket :=
    match trade.side with
    | .buy => { bucket with
        buyVolume := addVolume R bucket.buyVolume trade.quantity
        buyQuoteVolume := trade.quoteQuantity.elim bucket.buyQuoteVolume
          (addVolume R bucket.buyQuoteVolume) }
    | .sell => { bucket with
        sellVolume := addVolume R bucket.sellVolume trade.quantity }
  if trade.quoteQuantity = none then { bucket with hasQuoteVolume := false } else bucket

/-- The snapshot of a bucket. -/
def TakerFlowScope.close (scope : TakerFlowScope) (bucket : OpenBucket) : TakerFlowSnapshot where
  symbol := scope.symbol
  contractType := scope.contractType
  timeframe := scope.timeframe
  timestamp := bucket.bucketStart
  buyVolume := bucket.buyVolume
  sellVolume := bucket.sellVolume
  buyQuoteVolume := if bucket.hasQuoteVolume then some bucket.buyQuoteVolume else none
  source := scope.source

namespace TakerFlowAggregator

/-- Fold a trade into the current bucket; the bucket it closes is returned. -/
def addTrade (aggregator : TakerFlowAggregator) (trade : TradeEvent) :
    TakerFlowAggregator × Option TakerFlowSnapshot :=
  let bucketStart := bucketStartFor aggregator.timeframe trade.timestamp
  match aggregator.opened with
  | none => ({ aggregator with opened := some (.absorb R { bucketStart } trade) }, none)
  | some bucket =>
      if bucketStart < bucket.bucketStart then (aggregator, none)
      else if bucketStart ≠ bucket.bucketStart then
        ({ aggregator with opened := some (.absorb R { bucketStart } trade) },
          some (aggregator.close bucket))
      else ({ aggregator with opened := some (bucket.absorb R trade) }, none)

/-- Close the current bucket. -/
def flush (aggregator : TakerFlowAggregator) : TakerFlowAggregator × Option TakerFlowSnapshot :=
  match aggregator.opened with
  | none => (aggregator, none)
  | some bucket => ({ aggregator with opened := none }, some (aggregator.close bucket))

/-- The snapshots that the trades and a flush after them return. -/
def emit (aggregator : TakerFlowAggregator) : List TradeEvent → List TakerFlowSnapshot
  | [] => aggregator.flush.2.toList
  | trade :: trades =>
      (aggregator.addTrade R trade).2.toList ++ emit (aggregator.addTrade R trade).1 trades

/-- The aggregator after some trades. -/
def after (aggregator : TakerFlowAggregator) (trades : List TradeEvent) : TakerFlowAggregator :=
  trades.foldl (fun aggregator trade => (aggregator.addTrade R trade).1) aggregator

/-- The guard that drops a trade of an older bucket. -/
def Drops (aggregator : TakerFlowAggregator) (trade : TradeEvent) : Prop :=
  ∃ bucket ∈ aggregator.opened,
    bucketStartFor aggregator.timeframe trade.timestamp < bucket.bucketStart

instance decidableDrops (aggregator : TakerFlowAggregator) (trade : TradeEvent) :
    Decidable (aggregator.Drops trade) :=
  inferInstanceAs (Decidable (∃ bucket ∈ aggregator.opened, _))

/-- The trades that are not dropped. -/
def accepted (aggregator : TakerFlowAggregator) : List TradeEvent → List TradeEvent
  | [] => []
  | trade :: trades =>
      if aggregator.Drops trade then accepted (aggregator.addTrade R trade).1 trades
      else trade :: accepted (aggregator.addTrade R trade).1 trades

/-- The accepted trades of one bucket. -/
def acceptedIn (aggregator : TakerFlowAggregator) (trades : List TradeEvent)
    (bucketStart : Timestamp) : List TradeEvent :=
  (aggregator.accepted R trades).filter fun trade =>
    bucketStartFor aggregator.timeframe trade.timestamp = bucketStart

end TakerFlowAggregator

/-- The quantities that trades of one side take. -/
def takenBy (side : OrderSide) (trades : List TradeEvent) : List ℚ :=
  (trades.filter fun trade => trade.side = side).map fun trade => trade.quantity

/-- The quote quantities reported for buys. -/
def quotesOfBuys (trades : List TradeEvent) : List ℚ :=
  (trades.filter fun trade => trade.side = .buy).filterMap fun trade =>
    trade.quoteQuantity.map fun quote : Volume => (quote : ℚ)

/-! ## Buckets -/

variable {R} {timeframe : Timeframe} {timestamp : Timestamp} {aggregator : TakerFlowAggregator}
  {trade : TradeEvent} {trades : List TradeEvent} {bucket : OpenBucket}

theorem floor_epochSeconds (h : |timestamp| < 2 ^ 34 * 1000000) :
    ⌊Binary64.nearest (timestamp / (1000000 : ℕ))⌋ = timestamp / 1000000 := by
  have hexact : ⌊(timestamp / (1000000 : ℕ) : ℚ)⌋ = timestamp / 1000000 :=
    Rat.floor_intCast_div_natCast _ _
  rcases eq_or_ne timestamp 0 with rfl | hne
  · simp
  · have hq : (timestamp : ℚ) / (1000000 : ℕ) ≠ 0 :=
      div_ne_zero (by exact_mod_cast hne) (by norm_num)
    have habs : |(timestamp : ℚ) / (1000000 : ℕ)| < 2 ^ (53 + -19 : ℤ) := by
      rw [abs_div, abs_of_pos (by norm_num : (0 : ℚ) < (1000000 : ℕ)),
        div_lt_iff₀ (by norm_num)]
      calc |(timestamp : ℚ)| < 2 ^ 34 * 1000000 := by exact_mod_cast h
        _ = 2 ^ (53 + -19 : ℤ) * (1000000 : ℕ) := by norm_num
    have hbit := Binary64.lastBit_le hq (by norm_num) habs
    rw [← hexact]
    refine Binary64.floor_nearest (by norm_num) rfl (by omega) ?_
    -- half of the last bit is at most `2 ^ -20`, less than a microsecond
    calc (2 : ℚ) ^ Binary64.lastBit (timestamp / (1000000 : ℕ)) / 2 ≤ 2 ^ (-19 : ℤ) / 2 := by
          gcongr
          norm_num
      _ < 1 / (1000000 : ℕ) := by norm_num

theorem timeframeDuration_seconds (timeframe : Timeframe) :
    0 < timeframeDuration timeframe / 1000000 ∧
      timeframeDuration timeframe / 1000000 * 1000000 = timeframeDuration timeframe := by
  cases timeframe <;> decide

/-- **The bucket of a timestamp within `2 ^ 34` seconds of the epoch is the one that contains
it.** -/
theorem bucketStartFor_eq (h : |timestamp| < 2 ^ 34 * 1000000) :
    bucketStartFor timeframe timestamp = expectedOpenTime timestamp timeframe := by
  obtain ⟨hpos, hduration⟩ := timeframeDuration_seconds timeframe
  have hindex : timestamp / 1000000 / (timeframeDuration timeframe / 1000000) =
      timestamp / timeframeDuration timeframe := by
    rw [Int.ediv_ediv_of_nonneg (by norm_num), mul_comm, hduration]
  rw [bucketStartFor, Int.floor_div_cast_of_nonneg hpos.le, floor_epochSeconds h, hindex, mul_assoc,
    hduration,
    expectedOpenTime]

/-! ## The aggregator as windows -/

@[simp] theorem OpenBucket.absorb_bucketStart :
    (bucket.absorb R trade).bucketStart = bucket.bucketStart := by
  unfold OpenBucket.absorb
  cases trade.side <;> dsimp only <;> split_ifs <;> rfl

variable (R) in
/-- Trades are folded into the bucket of their timestamp. -/
def takerWindows (timeframe : Timeframe) : Windowing TradeEvent Timestamp OpenBucket where
  key trade := bucketStartFor timeframe trade.timestamp
  start := OpenBucket.bucketStart
  fresh bucketStart := { bucketStart }
  absorb := OpenBucket.absorb R
  start_fresh _ := rfl
  start_absorb _ _ := OpenBucket.absorb_bucketStart

theorem addTrade_eq (aggregator : TakerFlowAggregator) (trade : TradeEvent) :
    aggregator.addTrade R trade =
      ({ aggregator with
          opened := ((takerWindows R aggregator.timeframe).add aggregator.opened trade).1 },
        ((takerWindows R aggregator.timeframe).add aggregator.opened trade).2.map
          aggregator.close) := by
  obtain ⟨scope, _ | bucket⟩ := aggregator
  · rfl
  · rcases lt_trichotomy ((takerWindows R scope.timeframe).key trade)
      ((takerWindows R scope.timeframe).start bucket) with h | h | h
    · rw [Windowing.add_of_late h]
      exact if_pos h
    · rw [Windowing.add_of_eq h]
      exact (if_neg h.not_lt).trans (if_neg (not_not_intro h))
    · rw [Windowing.add_of_newer h]
      exact (if_neg h.not_gt).trans (if_pos h.ne')

theorem emit_eq (aggregator : TakerFlowAggregator) (trades : List TradeEvent) :
    aggregator.emit R trades =
      ((takerWindows R aggregator.timeframe).emitted aggregator.opened trades).map
        aggregator.close := by
  induction trades generalizing aggregator with
  | nil => obtain ⟨scope, _ | bucket⟩ := aggregator <;> rfl
  | cons trade trades ih =>
      rw [TakerFlowAggregator.emit, ih, addTrade_eq, Windowing.emitted_cons, List.map_append]
      congr 1
      cases ((takerWindows R aggregator.timeframe).add aggregator.opened trade).2 <;> rfl

theorem drops_iff : aggregator.Drops trade ↔
    (takerWindows R aggregator.timeframe).IsLate aggregator.opened trade := Iff.rfl

theorem accepted_eq (aggregator : TakerFlowAggregator) (trades : List TradeEvent) :
    aggregator.accepted R trades =
      (takerWindows R aggregator.timeframe).accepted aggregator.opened trades := by
  induction trades generalizing aggregator with
  | nil => rfl
  | cons trade trades ih =>
      rw [TakerFlowAggregator.accepted, ih, addTrade_eq, Windowing.accepted]
      exact if_congr Iff.rfl rfl rfl

/-! ## The volumes of a bucket -/

/-- The volume of one side. -/
def OpenBucket.volume (bucket : OpenBucket) : OrderSide → Volume
  | .buy => bucket.buyVolume
  | .sell => bucket.sellVolume

theorem volume_absorb (side : OrderSide) : (bucket.absorb R trade).volume side =
    if trade.side = side then addVolume R (bucket.volume side) trade.quantity
    else bucket.volume side := by
  unfold OpenBucket.absorb
  cases side <;> cases trade.side <;> dsimp only <;> split_ifs <;> trivial

theorem quote_absorb : (bucket.absorb R trade).buyQuoteVolume =
    if trade.side = .buy then
      trade.quoteQuantity.elim bucket.buyQuoteVolume (addVolume R bucket.buyQuoteVolume)
    else bucket.buyQuoteVolume := by
  unfold OpenBucket.absorb
  cases trade.side <;> dsimp only <;> split_ifs <;> trivial

theorem hasQuote_absorb : (bucket.absorb R trade).hasQuoteVolume =
    (bucket.hasQuoteVolume && trade.quoteQuantity.isSome) := by
  unfold OpenBucket.absorb
  cases trade.side <;> cases trade.quoteQuantity <;> simp

theorem volume_foldl (side : OrderSide) (bucket : OpenBucket) (trades : List TradeEvent) :
    ((trades.foldl (OpenBucket.absorb R) bucket).volume side : ℚ) =
      (takenBy side trades).foldl (fun acc x => R.rnd (acc + x)) (bucket.volume side) := by
  induction trades generalizing bucket with
  | nil => rfl
  | cons trade trades ih =>
      rw [List.foldl_cons, ih, volume_absorb, takenBy, takenBy, List.filter_cons]
      simp only [decide_eq_true_eq]
      split_ifs <;> rfl

theorem quote_foldl (bucket : OpenBucket) (trades : List TradeEvent) :
    ((trades.foldl (OpenBucket.absorb R) bucket).buyQuoteVolume : ℚ) =
      (quotesOfBuys trades).foldl (fun acc x => R.rnd (acc + x)) bucket.buyQuoteVolume := by
  induction trades generalizing bucket with
  | nil => rfl
  | cons trade trades ih =>
      rw [List.foldl_cons, ih, quote_absorb, quotesOfBuys, quotesOfBuys, List.filter_cons]
      simp only [decide_eq_true_eq]
      split_ifs with hside
      · rw [List.filterMap_cons]
        cases trade.quoteQuantity <;> rfl
      · rfl

theorem hasQuote_foldl (bucket : OpenBucket) (trades : List TradeEvent) :
    (trades.foldl (OpenBucket.absorb R) bucket).hasQuoteVolume =
      (bucket.hasQuoteVolume && trades.all fun trade => trade.quoteQuantity.isSome) := by
  induction trades generalizing bucket with
  | nil => simp
  | cons trade trades ih =>
      rw [List.foldl_cons, ih, hasQuote_absorb, List.all_cons, Bool.and_assoc]

/-! ## Whole runs -/

/-- The snapshot carries the scope and the volumes of the trades. -/
structure Totals (R : Rounding) (scope : TakerFlowScope) (trades : List TradeEvent)
    (snapshot : TakerFlowSnapshot) : Prop where
  symbol : snapshot.symbol = scope.symbol
  contractType : snapshot.contractType = scope.contractType
  timeframe : snapshot.timeframe = scope.timeframe
  source : snapshot.source = scope.source
  buyVolume : (snapshot.buyVolume : ℚ) = R.sum (takenBy .buy trades)
  sellVolume : (snapshot.sellVolume : ℚ) = R.sum (takenBy .sell trades)
  buyQuoteVolume : snapshot.buyQuoteVolume.map (fun quote : Volume => (quote : ℚ)) =
    if ∀ trade ∈ trades, trade.quoteQuantity.isSome then some (R.sum (quotesOfBuys trades))
    else none

theorem totals_close (scope : TakerFlowScope) (start : Timestamp) (trades : List TradeEvent) :
    Totals R scope trades
      (scope.close (trades.foldl (OpenBucket.absorb R) { bucketStart := start })) where
  symbol := rfl
  contractType := rfl
  timeframe := rfl
  source := rfl
  buyVolume := volume_foldl .buy _ trades
  sellVolume := volume_foldl .sell _ trades
  buyQuoteVolume := by
    have hquote := quote_foldl (R := R) { bucketStart := start } trades
    have hall := hasQuote_foldl (R := R) { bucketStart := start } trades
    rw [Bool.true_and] at hall
    simp only [TakerFlowScope.close, hall, List.all_eq_true]
    split_ifs
    · exact congrArg some hquote
    · rfl

/-- Volumes of one power of ten within the kept digits add up exactly. -/
theorem sum_takenBy_exact (side : OrderSide) {e : ℤ}
    (hmultiple : ∀ trade ∈ trades, ∃ k : ℤ, (trade.quantity : ℚ) = k * 10 ^ e)
    (hsize : (takenBy side trades).sum ≤ 10 ^ 28 * 10 ^ e) :
    Rounding.decimal28.sum (takenBy side trades) = (takenBy side trades).sum := by
  refine Rounding.sum_significant_multiples (p := 27) (e := e) (fun x hx => ?_) ?_
  · obtain ⟨trade, htrade, rfl⟩ := List.mem_map.mp hx
    exact hmultiple trade (List.mem_of_mem_filter htrade)
  · have habs : (takenBy side trades).map abs = takenBy side trades := by
      rw [takenBy, List.map_map]
      exact List.map_congr_left fun trade _ => abs_of_nonneg trade.quantity.2
    rwa [habs]

open TakerFlowAggregator

/-- What holds of every run of an aggregator that starts empty, and of the flush after it. -/
structure ConservesVolume (scope : TakerFlowScope) : Prop where
  ascending : ∀ trades, (emit .decimal28 { scope with } trades).Pairwise fun a b =>
    a.timestamp < b.timestamp
  emitted : ∀ trades start,
    (∃ snapshot ∈ emit .decimal28 { scope with } trades, snapshot.timestamp = start) ↔
      acceptedIn .decimal28 { scope with } trades start ≠ []
  totals : ∀ trades, ∀ snapshot ∈ emit .decimal28 { scope with } trades,
    Totals .decimal28 scope (acceptedIn .decimal28 { scope with } trades snapshot.timestamp)
      snapshot
  exact : ∀ (trades : List TradeEvent) (side : OrderSide) (e : ℤ),
    (∀ trade ∈ trades, ∃ k : ℤ, (trade.quantity : ℚ) = k * 10 ^ e) →
    (takenBy side trades).sum ≤ 10 ^ 28 * 10 ^ e →
      Rounding.decimal28.sum (takenBy side trades) = (takenBy side trades).sum
  accepted : ∀ before trade, accepted .decimal28 { scope with } (before ++ [trade]) =
    accepted .decimal28 { scope with } before ++
      if ∃ earlier ∈ before, bucketStartFor scope.timeframe trade.timestamp <
        bucketStartFor scope.timeframe earlier.timestamp then [] else [trade]
  dropped : ∀ (aggregator : TakerFlowAggregator) trade, aggregator.Drops trade →
    aggregator.addTrade .decimal28 trade = (aggregator, none)
  interval : ∀ timestamp : Timestamp, |timestamp| < 2 ^ 34 * 1000000 →
    bucketStartFor scope.timeframe timestamp ≤ timestamp ∧
      timestamp < bucketStartFor scope.timeframe timestamp + timeframeDuration scope.timeframe

/-- **Taker volume is conserved.** Every bucket with accepted trades is emitted once, in ascending
order, with what they took; a trade is left out exactly when a newer bucket was seen before it. -/
theorem takerFlow_conserves (scope : TakerFlowScope) : ConservesVolume scope where
  ascending trades := by
    rw [emit_eq]
    have hpairwise := Windowing.emitted_pairwise
      (W := takerWindows .decimal28 scope.timeframe) trades
    exact List.pairwise_map.mpr hpairwise
  emitted trades start := by
    rw [emit_eq, acceptedIn, accepted_eq, Ne, List.filter_eq_nil_iff]
    have hiff := Windowing.exists_emitted_iff (W := takerWindows .decimal28 scope.timeframe)
      trades start
    constructor
    · rintro ⟨snapshot, hsnapshot, hstart⟩
      obtain ⟨bucket, hbucket, rfl⟩ := List.mem_map.mp hsnapshot
      obtain ⟨trade, htrade, hkey⟩ := hiff.mp ⟨bucket, hbucket, hstart⟩
      exact fun hnone => hnone trade htrade (decide_eq_true hkey)
    · intro hsome
      push Not at hsome
      obtain ⟨trade, htrade, hkey⟩ := hsome
      obtain ⟨bucket, hbucket, hstart⟩ := hiff.mpr ⟨trade, htrade, of_decide_eq_true hkey⟩
      exact ⟨_, List.mem_map_of_mem hbucket, hstart⟩
  totals trades snapshot hsnapshot := by
    rw [emit_eq] at hsnapshot
    obtain ⟨bucket, hbucket, rfl⟩ := List.mem_map.mp hsnapshot
    have hfold := Windowing.emitted_eq trades bucket hbucket
    have hmembers : acceptedIn .decimal28 { scope with } trades bucket.bucketStart =
        (takerWindows .decimal28 scope.timeframe).members none trades bucket.bucketStart := by
      rw [acceptedIn, accepted_eq]
      rfl
    show Totals .decimal28 scope
      (acceptedIn .decimal28 { scope with } trades bucket.bucketStart) _
    rw [hmembers]
    conv_rhs => rw [hfold]
    exact totals_close scope bucket.bucketStart _
  exact trades side e := sum_takenBy_exact side
  accepted before trade := by
    rw [accepted_eq, accepted_eq, Windowing.accepted_concat]
    exact congrArg _ (if_congr (Windowing.isLate_after_iff before trade) rfl rfl)
  dropped aggregator trade h := by
    rw [addTrade_eq, Windowing.add_of_isLate (drops_iff.mp h)]
    rfl
  interval timestamp h := by
    rw [bucketStartFor_eq h, expectedOpenTime]
    obtain ⟨hpos, hduration⟩ := timeframeDuration_seconds scope.timeframe
    have hD : 0 < timeframeDuration scope.timeframe := by
      rw [← hduration]
      exact mul_pos hpos (by norm_num)
    have hlt := Int.lt_ediv_add_one_mul_self timestamp hD
    rw [add_one_mul] at hlt
    exact ⟨Int.ediv_mul_le _ hD.ne', hlt⟩

/-- An aggregator of one-minute buckets. -/
def minuteScope : TakerFlowScope := ⟨btcusdt, .perpetual, .m1, utc⟩

/-- A buy of a quantity. -/
def buyOf (quantity : Volume) (timestamp : Timestamp) : TradeEvent :=
  { quantity, side := .buy, timestamp }

/-- A volume beyond the kept digits loses the trade added to it, and the last microsecond of a
minute far from the epoch is counted in the next minute. -/
theorem volume_rounded_and_shifted :
    (emit .decimal28 { minuteScope with } [buyOf (10 ^ 28) 0, buyOf 1 1]).map
        (fun snapshot => (snapshot.buyVolume : ℚ)) = [10 ^ 28] ∧
      takenBy .buy [buyOf (10 ^ 28) 0, buyOf 1 1] = [10 ^ 28, 1] ∧
      (emit .decimal28 { minuteScope with } [buyOf 1 (17179869240000000 - 1)]).map
        TakerFlowSnapshot.timestamp = [17179869240000000] := by
  decide +kernel

end TradingAdvisor
