import TradingAdvisor.Flow.Features

/-!
# Market structure facts

Confirmed swing extremes and the close-based breaks of them.

* `SwingPoint`, `StructuralBreak` — a swing and a break;
* `MarketStructureFeatures` — the swings and breaks of one timeframe.
-/

namespace TradingAdvisor

/-- Which extreme a swing marks. -/
inductive SwingKind
  | high
  | low
  deriving DecidableEq, Repr

/-- Direction of a structural break. -/
inductive BreakDirection
  | upwardBreak
  | downwardBreak
  deriving DecidableEq, Repr

/-- A confirmed swing extreme. -/
structure SwingPoint where
  kind : SwingKind
  candleTime : Timestamp
  price : Price
  deriving DecidableEq

/-- A close-based break of a confirmed swing. -/
structure StructuralBreak where
  direction : BreakDirection
  brokenSwing : SwingPoint
  deriving DecidableEq

/-- The confirmed swings and breaks of the fifteen-minute candles. -/
structure MarketStructureFeatures where
  swings : List SwingPoint := []
  breaks : List StructuralBreak := []
  quality : FeatureQuality
  deriving DecidableEq

/-- The structure can be used. -/
def MarketStructureFeatures.Usable (m : MarketStructureFeatures) : Prop :=
  m.quality ∈ [.valid, .partialData]

instance MarketStructureFeatures.decidableUsable (m : MarketStructureFeatures) :
    Decidable m.Usable :=
  inferInstanceAs (Decidable (_ ∈ _))

end TradingAdvisor
