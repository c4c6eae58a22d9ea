import TradingAdvisor.Core.Strategy
import TradingAdvisor.Lib.Rounding
import TradingAdvisor.Lib.VersionedStore

/-!
# Open risk to stop

The account-wide loss from the current marks of the open positions to their protective stops. A
position whose stop is at or beyond its entry is protected and contributes nothing; one position
that cannot be assessed blocks the whole assessment.

* `MT5Position`, `MT5SymbolFacts` — what the broker reports;
* `positionContribution` — one position's contribution, or why it cannot be assessed;
* `assessOpenRisk` — the account-wide sum;
* `assessOpenRisk_ready` — what a ready assessment says of every position.
-/

namespace TradingAdvisor

open SignificantDigits Checks VersionedStore

/-- An existing open position. -/
structure MT5Position where
  asOf : Timestamp
  ticket : ℕ+
  symbol : Symbol
  side : OrderSide
  volume : PositiveRat
  priceOpen : PositiveRat
  priceCurrent : Price
  stopLoss : Option Price := none

/-- The economics of one tick of a symbol. -/
structure MT5SymbolFacts where
  tradeTickSize : ℚ
  tradeTickValueLoss : ℚ
  deriving DecidableEq, Repr

/-- Coarse result of an assessment. -/
inductive MT5OpenRiskOutcome
  | ready
  | blocked
  deriving DecidableEq, Repr

/-- Why a position could not be assessed. -/
inductive MT5OpenRiskBlockReason
  | noProtectiveStop
  | invalidCurrentPrice
  | invalidTickEconomics
  | symbolUnavailable
  deriving DecidableEq, Repr

namespace MT5OpenRiskBlockReason

/-- The reasons in declaration order. -/
def order : List MT5OpenRiskBlockReason :=
  [noProtectiveStop, invalidCurrentPrice, invalidTickEconomics, symbolUnavailable]

/-- Position in declaration order. -/
def index (reason : MT5OpenRiskBlockReason) : ℕ := order.idxOf reason

end MT5OpenRiskBlockReason

/-- Account-wide aggregation of every position's contribution. -/
structure MT5OpenRiskAssessment where
  asOf : Timestamp
  outcome : MT5OpenRiskOutcome
  currentOpenRiskToStop : Option {q : ℚ // 0 ≤ q} := none
  blockedReasons : List MT5OpenRiskBlockReason := []
  unsafeTickets : List ℕ+ := []
  deriving DecidableEq

/-- The checks of an assessment. -/
def MT5OpenRiskAssessment.validate (a : MT5OpenRiskAssessment) : Except ModelError Unit := do
  match a.outcome with
  | .ready =>
      check (a.currentOpenRiskToStop ≠ none)
        (ModelError.validation "READY requires current_open_risk_to_stop")
      check (a.blockedReasons = []) (.validation "READY must not carry blocked_reasons")
      check (a.unsafeTickets = []) (.validation "READY must not carry unsafe_tickets")
  | .blocked =>
      check (a.currentOpenRiskToStop = none)
        (ModelError.validation "BLOCKED must not carry current_open_risk_to_stop")
      check (a.blockedReasons ≠ []) (.validation "BLOCKED requires at least one blocked_reason")
      check (a.unsafeTickets ≠ []) (.validation "BLOCKED requires at least one unsafe ticket")
  check ((a.blockedReasons.map MT5OpenRiskBlockReason.index).Pairwise (· ≤ ·))
    (.validation "blocked_reasons must be in canonical MT5OpenRiskBlockReason order")
  check (a.blockedReasons.map MT5OpenRiskBlockReason.index).Nodup
    (.validation "blocked_reasons must not contain duplicates")
  check a.unsafeTickets.Nodup (.validation "unsafe_tickets must not contain duplicates")

variable (R : Rounding)

/-- The stop is at the entry or on its profit side. -/
def IsProtected (p : MT5Position) : Prop :=
  match p.side with
  | .buy => ∃ stop ∈ p.stopLoss, (p.priceOpen : ℚ) ≤ stop
  | .sell => ∃ stop ∈ p.stopLoss, (stop : ℚ) ≤ p.priceOpen

instance (p : MT5Position) : Decidable (IsProtected p) := by
  unfold IsProtected
  cases p.side <;> exact inferInstance

/-- The distance from the mark to the stop, on the loss side. -/
def priceDistance (p : MT5Position) (stop : Price) : ℚ :=
  match p.side with
  | .buy => max 0 (R.rnd (p.priceCurrent - stop))
  | .sell => max 0 (R.rnd (stop - p.priceCurrent))

/-- One position's contribution, or the reason it cannot be assessed. -/
def positionContribution (facts : Dict Symbol MT5SymbolFacts) (p : MT5Position) :
    Except MT5OpenRiskBlockReason ℚ :=
  match p.stopLoss with
  | none => .error .noProtectiveStop
  | some stop =>
      if IsProtected p then .ok 0
      else if p.priceCurrent ≤ 0 then .error .invalidCurrentPrice
      else
        match facts.lookup p.symbol with
        | none => .error .symbolUnavailable
        | some f =>
            if f.tradeTickSize ≤ 0 ∨ f.tradeTickValueLoss ≤ 0 then .error .invalidTickEconomics
            else
              let riskPerVolumeUnit :=
                R.rnd (R.rnd (priceDistance R p stop / f.tradeTickSize) * f.tradeTickValueLoss)
              .ok (R.rnd (riskPerVolumeUnit * p.volume))

/-- The reason a position cannot be assessed. -/
def unsafeReason (facts : Dict Symbol MT5SymbolFacts) (p : MT5Position) :
    Option MT5OpenRiskBlockReason :=
  match positionContribution R facts p with
  | .ok _ => none
  | .error reason => some reason

/-- The contributions of the positions that can be assessed. -/
def contributions (facts : Dict Symbol MT5SymbolFacts) (positions : List MT5Position) : List ℚ :=
  positions.filterMap fun p => (positionContribution R facts p).toOption

/-- The account-wide aggregation, before it is validated. -/
def aggregateOpenRisk (asOf : Timestamp) (positions : List MT5Position)
    (facts : Dict Symbol MT5SymbolFacts) : Except ModelError MT5OpenRiskAssessment :=
  let blockedReasonSet := positions.filterMap (unsafeReason R facts)
  let total := R.sum (contributions R facts positions)
  if blockedReasonSet ≠ [] then
    .ok { asOf, outcome := .blocked,
          blockedReasons := MT5OpenRiskBlockReason.order.filter (· ∈ blockedReasonSet),
          unsafeTickets := (positions.filter fun p => unsafeReason R facts p ≠ none).map
            MT5Position.ticket }
  else if h : 0 ≤ total then
    .ok { asOf, outcome := .ready, currentOpenRiskToStop := some ⟨total, h⟩ }
  else .error (.validation "current_open_risk_to_stop must be >= 0")

/-- The account-wide assessment. -/
def assessOpenRisk (asOf : Timestamp) (positions : List MT5Position)
    (facts : Dict Symbol MT5SymbolFacts) : Except ModelError MT5OpenRiskAssessment := do
  let assessment ← aggregateOpenRisk R asOf positions facts
  assessment.validate
  return assessment

variable {R} {asOf : Timestamp} {positions : List MT5Position} {facts : Dict Symbol MT5SymbolFacts}
  {p : MT5Position}

/-- Every successful contribution is of a protected position, or priced by its tick economics. -/
theorem positionContribution_ok {c : ℚ} (h : positionContribution R facts p = .ok c) :
    ∃ stop, p.stopLoss = some stop ∧
      ((IsProtected p ∧ c = 0) ∨
        (¬ IsProtected p ∧ ∃ f, facts.lookup p.symbol = some f ∧ 0 < f.tradeTickSize ∧
          0 < f.tradeTickValueLoss ∧
          c = R.rnd (R.rnd (R.rnd (priceDistance R p stop / f.tradeTickSize) *
            f.tradeTickValueLoss) * p.volume))) := by
  unfold positionContribution at h
  split at h
  · cases h
  · next stop hstop =>
      refine ⟨stop, hstop, ?_⟩
      split_ifs at h with hprotected hprice
      · cases h
        exact .inl ⟨hprotected, rfl⟩
      · split at h
        · cases h
        · next f hf =>
            split_ifs at h with hticks
            cases h
            rw [not_or, not_le, not_le] at hticks
            exact .inr ⟨hprotected, f, hf, hticks.1, hticks.2, rfl⟩

/-- **A ready assessment has priced every position**, and carries the sum. -/
theorem assessOpenRisk_ready {a : MT5OpenRiskAssessment}
    (h : assessOpenRisk R asOf positions facts = .ok a) (hready : a.outcome = .ready) :
    (∀ p ∈ positions, ∃ c, positionContribution R facts p = .ok c) ∧
      ∃ r, a.currentOpenRiskToStop = some r ∧
        r = R.sum (contributions R facts positions) := by
  unfold assessOpenRisk at h
  obtain ⟨a', ha', h⟩ := bind_ok_iff.mp h
  obtain ⟨-, h⟩ := unit_bind_ok_iff.mp h
  cases h
  dsimp only [aggregateOpenRisk] at ha'
  split_ifs at ha' with hblocked htotal
  · cases ha'
    cases hready
  · cases ha'
    refine ⟨fun p hp => ?_, _, rfl, rfl⟩
    have hnone : unsafeReason R facts p = none :=
      List.filterMap_eq_nil_iff.mp (not_not.mp hblocked) p hp
    unfold unsafeReason at hnone
    split at hnone
    · next c hc => exact ⟨c, hc⟩
    · cases hnone

end TradingAdvisor
