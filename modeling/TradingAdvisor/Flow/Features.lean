import TradingAdvisor.Core.Base
import TradingAdvisor.MarketData.OrderBook

/-!
# Feature verdicts and analytics windows

Every derived feature block carries a verdict on its own quality. Windows are aligned to the
epoch; the last completed one is the most recent that ends at or before the observation.

* `worseOf` — the more severe of two verdicts;
* `windowBounds`, `latestAtOrBefore` — the window helpers of the calculators.
-/

namespace TradingAdvisor

/-- Verdict of a feature calculator about one computed block. -/
inductive FeatureQuality
  | valid
  | partialData
  | stale
  | unavailable
  deriving DecidableEq, Repr

/-- Severity of a verdict. -/
def FeatureQuality.severity : FeatureQuality → ℕ
  | .valid => 0
  | .partialData => 1
  | .stale => 2
  | .unavailable => 3

/-- The more severe of two verdicts. -/
def worseOf (a b : FeatureQuality) : FeatureQuality :=
  if b.severity ≤ a.severity then a else b

/-- Why a feature block is not valid. -/
inductive FeatureReason
  | noSnapshot
  | staleSnapshot (age maxStaleness : ℤ)
  | noBandData (label : NonemptyText)
  | bandExceedsDepth (label : NonemptyText) (sides : List BookSide)
  deriving DecidableEq

/-- Verdict of a calculator with its sample count and reasons. -/
structure FeatureStatus where
  quality : FeatureQuality
  sampleCount : ℕ := 0
  reasons : List FeatureReason := []
  deriving DecidableEq

/-- One named, positive-duration lookback window. -/
structure AnalyticsWindow where
  label : NonemptyText
  duration : {d : ℤ // 0 < d}
  deriving DecidableEq

/-- The most recently completed aligned window as of an observation, for windows of whole seconds and
times within `2 ^ 34` seconds of the epoch: the source floors a quotient of doubles. -/
def windowBounds (observationTime duration : ℤ) : ℤ × ℤ :=
  let windowEnd := observationTime / duration * duration
  (windowEnd - duration, windowEnd)

/-- The first item with the latest timestamp at or before the cutoff. -/
def latestAtOrBefore {α : Type} (items : List α) (timestampOf : α → Timestamp)
    (cutoff : Timestamp) : Option α :=
  (items.filter fun item => timestampOf item ≤ cutoff).foldl (fun best item =>
    match best with
    | none => some item
    | some b => if timestampOf b < timestampOf item then some item else some b) none

end TradingAdvisor
