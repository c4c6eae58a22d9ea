import TradingAdvisor.Core.Strategy
import TradingAdvisor.Lib.Rounding

/-!
# Deal history

One deal of the broker's history, and what it contributes to a realized PnL.

* `MT5Deal` — one normalized deal;
* `classifyTradingDeal` — its contribution, or why it has none.
-/

namespace TradingAdvisor

open SignificantDigits

/-- Kind of a deal. -/
inductive MT5DealType
  | buy
  | sell
  | nonTrading
  | unknown
  deriving DecidableEq, Repr

/-- How a deal changes the exposure of its position. -/
inductive MT5DealEntry
  | entryIn
  | out
  | inout
  | outBy
  | unknown
  deriving DecidableEq, Repr

/-- One deal of the history. -/
structure MT5Deal where
  ticket : ℕ+
  positionId : ℕ
  time : Timestamp
  symbol : Option Symbol
  dealType : MT5DealType
  entry : MT5DealEntry
  volume : Volume
  price : Price
  profit : ℚ := 0
  commission : ℚ := 0
  swap : ℚ := 0
  fee : ℚ := 0

/-- What a history read observed. -/
inductive MT5HistoryReadStatus
  | ok
  | unavailable
  | malformedTimestamp
  deriving DecidableEq, Repr

/-- Why a deal has no contribution. -/
inductive MT5RealizedPnLBlockReason
  | malformedTimestamp
  | unmappableDealType
  | unmappableDealEntry
  | unsupportedOutBy
  deriving DecidableEq, Repr

namespace MT5RealizedPnLBlockReason

/-- The reasons in declaration order. -/
def order : List MT5RealizedPnLBlockReason :=
  [malformedTimestamp, unmappableDealType, unmappableDealEntry, unsupportedOutBy]

/-- Position in declaration order. -/
def index (reason : MT5RealizedPnLBlockReason) : ℕ := order.idxOf reason

end MT5RealizedPnLBlockReason

/-- Coarse result of a realized PnL assessment. -/
inductive MT5RealizedPnLOutcome
  | ready
  | blocked
  deriving DecidableEq, Repr

/-- A deal at or before the epoch carries the broker's "unset" time. -/
def epoch : Timestamp := 0

/-- The contribution of a buy or sell deal, or the reason it has none. -/
def classifyTradingDeal (R : Rounding) (deal : MT5Deal) : Except MT5RealizedPnLBlockReason ℚ :=
  match deal.entry with
  | .entryIn => .ok (R.rnd (deal.commission + deal.fee))
  | .out | .inout =>
      .ok (R.rnd (R.rnd (R.rnd (deal.commission + deal.fee) + deal.profit) + deal.swap))
  | .outBy => .error .unsupportedOutBy
  | .unknown => .error .unmappableDealEntry

end TradingAdvisor
