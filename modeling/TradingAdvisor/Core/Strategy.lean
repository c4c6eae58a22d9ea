import TradingAdvisor.Core.Base
import TradingAdvisor.Lib.Checks

/-!
# Strategy families and the trading cycle

* `StrategyFamily`, `TradeDirection`, `DirectionalCandidate` — the families, in canonical order, and
  their directions;
* `StrategyPolicyResult` — which of them may proceed to risk review;
* `TradingCycleConfig` — the risk limits and the target of one trading cycle.
-/

namespace TradingAdvisor

open Checks

/-- What the construction of a model can raise. -/
inductive ModelError
  | validation (message : String)
  | assertion
  | divisionByZero
  deriving DecidableEq, Repr

/-- Strategy family whose structural evidence readiness is evaluated. -/
inductive StrategyFamily
  | trendFollowing
  | meanReversion
  | breakout
  | eventDriven
  deriving DecidableEq, Repr

namespace StrategyFamily

/-- The families in declaration order. -/
def order : List StrategyFamily := [trendFollowing, meanReversion, breakout, eventDriven]

/-- The value of the family in messages. -/
def value : StrategyFamily → String
  | trendFollowing => "TREND_FOLLOWING"
  | meanReversion => "MEAN_REVERSION"
  | breakout => "BREAKOUT"
  | eventDriven => "EVENT_DRIVEN"

theorem order_nodup : order.Nodup := by decide

end StrategyFamily

/-- Direction of a recommendation. -/
inductive TradeDirection
  | long
  | short
  | neutral
  | wait
  deriving DecidableEq, Repr

/-- A strategy-specific directional reading of the evidence. -/
inductive DirectionalCandidate
  | longCandidate
  | shortCandidate
  deriving DecidableEq, Repr

/-- The direction of a trade on a directional reading. -/
def DirectionalCandidate.tradeDirection : DirectionalCandidate → TradeDirection
  | longCandidate => .long
  | shortCandidate => .short

theorem DirectionalCandidate.actionable (d : DirectionalCandidate) :
    d.tradeDirection = .long ∨ d.tradeDirection = .short := by
  cases d
  · exact .inl rfl
  · exact .inr rfl

/-- Per-family policy verdict. -/
inductive PolicyFamilyVerdict
  | eligibleForRiskReview
  | blocked
  deriving DecidableEq, Repr

/-- One family's policy verdict. -/
structure PolicyFamilyResult where
  family : StrategyFamily
  verdict : PolicyFamilyVerdict
  deriving DecidableEq, Repr

/-- The policy verdicts of the routed families, in canonical order. -/
structure StrategyPolicyResult where
  familyResults : List PolicyFamilyResult
  canonical : (familyResults.map PolicyFamilyResult.family).Sublist StrategyFamily.order

theorem canonical_singleton (family : StrategyFamily) (verdict : PolicyFamilyVerdict) :
    (([⟨family, verdict⟩] : List PolicyFamilyResult).map PolicyFamilyResult.family).Sublist
      StrategyFamily.order := by
  have hmem : ∀ f : StrategyFamily, f ∈ StrategyFamily.order := by
    intro f
    cases f <;> decide
  exact List.singleton_sublist.mpr (hmem family)

theorem StrategyPolicyResult.families_nodup (policy : StrategyPolicyResult) :
    (policy.familyResults.map PolicyFamilyResult.family).Nodup :=
  StrategyFamily.order_nodup.sublist policy.canonical

/-- A percentage in `(0, 100]`. -/
abbrev PositivePercent := {p : ℚ // 0 < p ∧ p ≤ 100}

/-- Risk and target envelope of one trading cycle. -/
structure TradingCycleConfig where
  targetProfitPercent : PositivePercent := ⟨6, by decide +kernel⟩
  dailyRiskLimitPercent : PositivePercent := ⟨3 / 2, by decide +kernel⟩
  perTradeRiskLimitPercent : PositivePercent := ⟨1 / 2, by decide +kernel⟩
  portfolioRiskLimitPercent : PositivePercent := ⟨6, by decide +kernel⟩
  maxCycleDrawdownPercent : PositivePercent := ⟨15 / 2, by decide +kernel⟩
  daily_le_drawdown : dailyRiskLimitPercent ≤ maxCycleDrawdownPercent
  perTrade_le_daily : perTradeRiskLimitPercent ≤ dailyRiskLimitPercent
  portfolio_le_drawdown : portfolioRiskLimitPercent ≤ maxCycleDrawdownPercent

end TradingAdvisor
