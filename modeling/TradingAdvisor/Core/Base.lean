import Mathlib.Algebra.Field.Rat
import Mathlib.Data.NNRat.Defs

/-!
# Constrained field types

Money-like values are exact rationals; the constrained ones carry their sign in the type.

* `Price`, `Volume`, `Money` — non-negative values;
* `Symbol` — an instrument identifier of 1 to 32 characters;
* `Timestamp` — microseconds since the epoch, in UTC.
-/

namespace TradingAdvisor

/-- A condition on the characters of a text is decided on these, not on every character there is. -/
instance (priority := 2000) decidableForallChar (p : Char → Prop) [DecidablePred p]
    (l : List Char) : Decidable (∀ ch ∈ l, p ch) :=
  List.decidableBAll p l

instance (priority := 2000) decidableExistsChar (p : Char → Prop) [DecidablePred p]
    (l : List Char) : Decidable (∃ ch ∈ l, p ch) :=
  List.decidableBEx p l

/-- Non-negative instrument price. -/
abbrev Price := ℚ≥0

/-- Non-negative traded volume. -/
abbrev Volume := ℚ≥0

/-- Non-negative monetary amount in account currency. -/
abbrev Money := ℚ≥0

/-- A strictly positive number. -/
abbrev PositiveRat := {q : ℚ // 0 < q}

theorem one_positive : (0 : ℚ) < 1 := one_pos

theorem two_positive : (0 : ℚ) < 2 := by decide

/-- A timezone-aware point in time, in microseconds. -/
abbrev Timestamp := ℤ

/-- The first instant of the calendar in UTC. -/
def minTimestamp : Timestamp := -62135596800000000

/-- The last instant of the calendar in UTC. -/
def maxTimestamp : Timestamp := 253402300799999999

/-- The instant has a date in UTC. -/
def InUtcRange (t : Timestamp) : Prop := minTimestamp ≤ t ∧ t ≤ maxTimestamp

instance (t : Timestamp) : Decidable (InUtcRange t) := inferInstanceAs (Decidable (_ ∧ _))

/-- A timezone-aware datetime: the digits of its clock, and how far they are ahead of UTC. -/
structure AwareDatetime where
  wallClock : Timestamp
  utcoffset : ℤ
  in_range : InUtcRange wallClock
  lt_day : |utcoffset| < 24 * 60 * 60 * 1000000

/-- The instant of a datetime. -/
def AwareDatetime.instant (d : AwareDatetime) : Timestamp := d.wallClock - d.utcoffset

/-- Minutes in microseconds. -/
def minutes (n : ℤ) : Timestamp := n * 60000000

/-- Instrument identifier as reported by the data source. -/
abbrev Symbol := {s : String // 1 ≤ s.length ∧ s.length ≤ 32}

/-- A required text field. -/
abbrev NonemptyText := {s : String // s ≠ ""}

/-- The name of a tracked recommendation. -/
abbrev TradeId := NonemptyText

/-- How long a recommendation stays valid: five minutes. -/
def signalExecutionWindow : Timestamp := 5 * 60 * 1000000

/-- The symbol of the samples. -/
def btcusdt : Symbol := ⟨"BTCUSDT", by decide⟩

/-- The account currency of the samples. -/
def usd : NonemptyText := ⟨"USD", by decide⟩

/-- The timezone of the samples. -/
def utc : NonemptyText := ⟨"UTC", by decide⟩

/-- Side of a raw, venue-reported order. -/
inductive OrderSide
  | buy
  | sell
  deriving DecidableEq, Repr

/-- Kind of tradable contract behind a symbol. -/
inductive ContractType
  | spot
  | perpetual
  deriving DecidableEq, Repr

end TradingAdvisor
