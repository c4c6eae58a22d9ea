import Mathlib.Data.List.Sort
import TradingAdvisor.Technical.Indicators
import TradingAdvisor.Technical.StructureFeatures

/-!
# Swings and breaks

A swing is a candle whose extreme is strictly beyond those of its neighbours on both sides; it is
confirmed by the last of its right neighbours. A later close strictly beyond a confirmed swing
breaks it, once.

* `detectSwings`, `detectBreaks` — the scans over the contiguous run;
* `computeMarketStructureFeatures` — the features.
-/

namespace TradingAdvisor

/-- The value of a swing kind. -/
def SwingKind.value : SwingKind → String
  | high => "HIGH"
  | low => "LOW"

/-- The value of a break direction. -/
def BreakDirection.value : BreakDirection → String
  | upwardBreak => "UPWARD_BREAK"
  | downwardBreak => "DOWNWARD_BREAK"

/-- A swing with the close of its confirmation. -/
structure ConfirmedSwing extends SwingPoint where
  confirmedAt : Timestamp
  deriving DecidableEq

/-- A break with the candle that broke. -/
structure ConfirmedBreak extends StructuralBreak where
  breakCandleTime : Timestamp
  deriving DecidableEq

/-- The candles next to a position, on both sides. -/
def bars (candles : List OHLCVCandle) (leftBars rightBars i : ℕ) : List OHLCVCandle :=
  (candles.take i).drop (i - leftBars) ++ (candles.drop (i + 1)).take rightBars

/-- The swings of one pivot; a candle can mark both extremes. -/
def swingsAt (candles : List OHLCVCandle) (leftBars rightBars i : ℕ) : List ConfirmedSwing :=
  match candles[i]?, candles[i + rightBars]? with
  | some pivot, some confirming =>
      (if ∀ c ∈ bars candles leftBars rightBars i, c.high < pivot.high then
        [⟨⟨.high, pivot.timestamp, pivot.high⟩, confirming.timestamp⟩] else []) ++
      (if ∀ c ∈ bars candles leftBars rightBars i, pivot.low < c.low then
        [⟨⟨.low, pivot.timestamp, pivot.low⟩, confirming.timestamp⟩] else [])
  | _, _ => []

/-- The order of swings: confirmation, candle, kind. -/
def swingLe (a b : ConfirmedSwing) : Prop :=
  a.confirmedAt < b.confirmedAt ∨ a.confirmedAt = b.confirmedAt ∧
    (a.candleTime < b.candleTime ∨ a.candleTime = b.candleTime ∧ a.kind.value ≤ b.kind.value)

instance : DecidableRel swingLe := fun _ _ => inferInstanceAs (Decidable (_ ∨ _))

/-- The confirmed swings; the newest `rightBars` candles confirm none of their own. -/
def detectSwings (candles : List OHLCVCandle) (leftBars rightBars : ℕ) : List ConfirmedSwing :=
  ((List.range' leftBars (candles.length - rightBars - leftBars)).flatMap
    (swingsAt candles leftBars rightBars)).insertionSort swingLe

/-- The close is strictly beyond the swing. -/
def BreaksSwing (swing : ConfirmedSwing) (candle : OHLCVCandle) : Prop :=
  match swing.kind with
  | .high => swing.price < candle.close
  | .low => candle.close < swing.price

instance (swing : ConfirmedSwing) (candle : OHLCVCandle) : Decidable (BreaksSwing swing candle) :=
  match swing with
  | ⟨⟨.high, _, _⟩, _⟩ => inferInstanceAs (Decidable (_ < _))
  | ⟨⟨.low, _, _⟩, _⟩ => inferInstanceAs (Decidable (_ < _))

/-- The direction in which a swing breaks. -/
def SwingKind.breakDirection : SwingKind → BreakDirection
  | high => .upwardBreak
  | low => .downwardBreak

/-- The last position of a time; times come once in a contiguous run. -/
def indexByTime (candles : List OHLCVCandle) (time : Timestamp) : Option ℕ :=
  (candles.zipIdx.reverse.find? fun member => member.1.timestamp = time).map Prod.snd

/-- The first candle after the confirmation that breaks the swing. -/
def breakOf (candles : List OHLCVCandle) (swing : ConfirmedSwing) : Option ConfirmedBreak :=
  (indexByTime candles swing.confirmedAt).bind fun confirmedIdx =>
    ((candles.drop (confirmedIdx + 1)).find? fun candle => BreaksSwing swing candle).map
      fun candle => ⟨⟨swing.kind.breakDirection, swing.toSwingPoint⟩, candle.timestamp⟩

/-- The order of breaks: candle, direction. -/
def breakLe (a b : ConfirmedBreak) : Prop :=
  a.breakCandleTime < b.breakCandleTime ∨
    a.breakCandleTime = b.breakCandleTime ∧ a.direction.value ≤ b.direction.value

instance : DecidableRel breakLe := fun _ _ => inferInstanceAs (Decidable (_ ∨ _))

/-- The breaks of the swings. -/
def detectBreaks (candles : List OHLCVCandle) (swings : List ConfirmedSwing) :
    List ConfirmedBreak :=
  (swings.filterMap (breakOf candles)).insertionSort breakLe

/-- Confirmed swings and structural breaks over closed candles; each side has at least one bar, as
the parameters carry it. -/
def computeMarketStructureFeatures (timeframe : Timeframe) (candles : List OHLCVCandle)
    (leftBars rightBars : ℕ) : MarketStructureFeatures :=
  let tail := contiguousTail candles timeframe
  let swings := detectSwings tail leftBars rightBars
  if tail = [] then { quality := .unavailable }
  else {
    swings := swings.map ConfirmedSwing.toSwingPoint
    breaks := (detectBreaks tail swings).map ConfirmedBreak.toStructuralBreak
    quality := if tail.length < leftBars + rightBars + 1 then .partialData else .valid }

end TradingAdvisor
