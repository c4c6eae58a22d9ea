import TradingAdvisor.Decision.HighImpactEventGate
import TradingAdvisor.Flow.Features
import TradingAdvisor.Lib.Keyed
import TradingAdvisor.Mt5.Sizing
import TradingAdvisor.Risk.RiskGate
import TradingAdvisor.Technical.StructureFeatures

/-!
# Setup construction

The price and risk facts of each family that policy let through: the entry is the broker's quote,
the stop is a structural level rounded away from the entry. A family without such a level is
blocked. The setups are bridged to the risk gate as candidates; a family without a setup, or with
a setup that the event gate blocks, becomes a candidate of risk 0.

* `StrategyDecision` — what the router, the judge and the policy gate decided;
* `StrategySetups` — the setup verdict of every family let through;
* `constructSetups` — the construction;
* `toEventAdjustedCandidateRiskInputs` — the bridge to the risk gate;
* **`setup_of_candidate`**: only a constructed setup that is not blocked keeps its risk.
-/

namespace TradingAdvisor

open SignificantDigits Checks Keyed

/-! ## Decisions upstream -/

/-- Why the router finds a family ineligible. -/
inductive StrategyIneligibilityReason
  | contourMissing
  | contourInsufficientEvidence
  | qualityUnavailable
  | externalScopeNotAligned
  deriving DecidableEq, Repr

/-- Why policy blocks a family. -/
inductive PolicyBlockReason
  | judgeOutcomeMixed
  | judgeOutcomeInsufficientEvidence
  | disallowedEvidenceQuality
  deriving DecidableEq, Repr

/-- The decisions that the setups are constructed for: which families are routed, the direction of
each and the reasons against it. -/
structure StrategyDecision extends StrategyPolicyResult where
  context : MarketEvaluationContext
  ineligibilityReasons : StrategyFamily → List StrategyIneligibilityReason
  direction : StrategyFamily → Option DirectionalCandidate
  policyReasons : StrategyFamily → List PolicyBlockReason
  routed : familyResults.map PolicyFamilyResult.family =
    StrategyFamily.order.filter fun family => ineligibilityReasons family = []
  blocked_iff : ∀ r ∈ familyResults, r.verdict = .blocked ↔ policyReasons r.family ≠ []
  directional : ∀ r ∈ familyResults, r.verdict = .eligibleForRiskReview →
    (direction r.family).isSome

/-! ## Setups -/

/-- Why no setup could be constructed. -/
inductive SetupBlockReason
  | familySetupUnavailable
  | missingStopReference
  | invalidStopSide
  | sharedFactUnavailable
  | brokerStopDistance
  deriving DecidableEq, Repr

/-- A setup with its prices; the stop is on the losing side of the entry. -/
structure PricedTradeSetup extends CandidateTradeSetup where
  direction : TradeDirection
  symbol : Symbol
  entryPrice : Price
  stopLoss : Price
  takeProfitLevels : List Price := []
  riskPerUnit : ℚ
  actionable : direction = .long ∨ direction = .short
  stopSide : ValidStopSide direction entryPrice stopLoss

/-- The setup verdict of one family: a setup, or the one reason against it. -/
structure FamilySetup where
  family : StrategyFamily
  verdict : Except SetupBlockReason PricedTradeSetup
  family_eq : ∀ setup, verdict = .ok setup → setup.family = family

/-- The setup verdicts of the families that policy let through, in canonical order. -/
structure StrategySetups where
  decision : StrategyDecision
  familyResults : List FamilySetup
  covers : familyResults.map FamilySetup.family = decision.eligibleFamilies

/-- What the event gate reads of a setup verdict. -/
def FamilySetup.toSetupConstructionResult (r : FamilySetup) : SetupConstructionResult where
  family := r.family
  setup := r.verdict.toOption.map PricedTradeSetup.toCandidateTradeSetup
  family_eq := by
    intro s hs
    obtain ⟨setup, hsetup, rfl⟩ := Option.map_eq_some_iff.mp hs
    refine r.family_eq setup ?_
    rcases hv : r.verdict with reason | setup'
    · rw [hv] at hsetup
      cases hsetup
    · rw [hv] at hsetup
      cases hsetup
      rfl

theorem StrategyPolicyResult.eligibleFamilies_sublist (policy : StrategyPolicyResult) :
    policy.eligibleFamilies.Sublist StrategyFamily.order :=
  (List.filter_sublist.map PolicyFamilyResult.family).trans policy.canonical

/-- What the event gate reads of the setup verdicts. -/
def StrategySetups.toStrategySetupResult (setups : StrategySetups) : StrategySetupResult where
  context := setups.decision.context
  familyResults := setups.familyResults.map FamilySetup.toSetupConstructionResult
  canonical := by
    rw [List.map_map]
    exact setups.covers ▸ setups.decision.eligibleFamilies_sublist

theorem StrategySetups.nodup (setups : StrategySetups) :
    (setups.familyResults.map FamilySetup.family).Nodup := by
  rw [setups.covers]
  exact StrategyFamily.order_nodup.sublist setups.decision.eligibleFamilies_sublist

/-! ## Construction -/

/-- The economics of the symbol can be used. -/
def MT5SymbolSnapshot.Usable (facts : MT5SymbolSnapshot) : Prop :=
  0 < facts.tradeTickSize ∧ 0 < facts.tradeTickValueLoss ∧ 0 < facts.point

instance MT5SymbolSnapshot.decidableUsable (facts : MT5SymbolSnapshot) : Decidable facts.Usable :=
  inferInstanceAs (Decidable (_ ∧ _ ∧ _))

variable (R : Rounding)

/-- The side of the quote that the direction trades at. -/
def resolveEntryPrice (direction : TradeDirection) (facts : MT5SymbolSnapshot) : ℚ :=
  if direction = .long then facts.ask else facts.bid

/-- The distance of the stop from the quote the position would close at. -/
def brokerStopDistance (direction : TradeDirection) (facts : MT5SymbolSnapshot) (stopLoss : ℚ) : ℚ :=
  if direction = .long then R.rnd (facts.bid - stopLoss) else R.rnd (stopLoss - facts.ask)

/-- The least distance of a stop that the broker accepts. -/
def minimumBrokerStopDistance (facts : MT5SymbolSnapshot) : ℚ :=
  R.rnd (facts.tradeStopsLevel * facts.point)

/-- The stop on the tick grid, rounded away from the entry. -/
def roundStopToTick (price : ℚ) (direction : TradeDirection) (tradeTickSize : ℚ) : ℚ :=
  let ticks := R.rnd (price / tradeTickSize)
  let whole : ℤ := if direction = .long then ⌊ticks⌋ else ⌈ticks⌉
  R.rnd (whole * tradeTickSize)

/-- The latest swing of the opposite kind. -/
def selectTrendFollowingStop (direction : TradeDirection) (m : MarketStructureFeatures) :
    Option Price :=
  let requiredKind : SwingKind := if direction = .long then .low else .high
  (Keyed.maxBy SwingPoint.candleTime
    (m.swings.filter fun swing => swing.kind = requiredKind)).map SwingPoint.price

/-- The swing of the last break, when it broke in this direction. -/
def selectBreakoutStop (direction : TradeDirection) (m : MarketStructureFeatures) :
    Option Price :=
  match m.breaks.getLast? with
  | none => none
  | some latest =>
      let expected : BreakDirection :=
        if direction = .long then .upwardBreak else .downwardBreak
      if latest.direction = expected then some latest.brokenSwing.price else none

/-- A price field. -/
def priceField (name : String) (q : ℚ) : Except ModelError {p : Price // (p : ℚ) = q} :=
  if h : 0 ≤ q then .ok ⟨⟨q, h⟩, rfl⟩
  else .error (.validation (name ++ " must be greater than or equal to 0"))

/-- A family that is blocked. -/
def FamilySetup.blocked (family : StrategyFamily) (reason : SetupBlockReason) : FamilySetup where
  family
  verdict := .error reason
  family_eq := by
    intro _ h
    cases h

/-- A family with its setup. -/
def FamilySetup.constructed (setup : PricedTradeSetup) : FamilySetup where
  family := setup.family
  verdict := .ok setup
  family_eq := by
    rintro _ ⟨⟩
    rfl

/-- The setup of a family with a structural stop. -/
def constructStructuralFamily (family : StrategyFamily) (candidate : DirectionalCandidate)
    (brokerSymbol : Symbol) (asOf : Timestamp) (symbolFacts : Option MT5SymbolSnapshot)
    (m15MarketStructure : Option MarketStructureFeatures)
    (selectStop : TradeDirection → MarketStructureFeatures → Option Price) :
    Except ModelError FamilySetup :=
  let direction := candidate.tradeDirection
  match symbolFacts.filter fun facts => facts.Usable,
    m15MarketStructure.filter fun m => m.Usable with
  | some facts, some m15 =>
      let entryPrice := resolveEntryPrice direction facts
      match selectStop direction m15 with
      | none => .ok (.blocked family .missingStopReference)
      | some structuralStop =>
          let stopLoss := roundStopToTick R structuralStop direction facts.tradeTickSize
          if hside : ValidStopSide direction entryPrice stopLoss then
            if brokerStopDistance R direction facts stopLoss < minimumBrokerStopDistance R facts then
              .ok (.blocked family .brokerStopDistance)
            else do
              let entry ← priceField "entry_price" entryPrice
              let stop ← priceField "stop_loss" stopLoss
              return .constructed
                { family, direction, symbol := brokerSymbol
                  entryPrice := entry.val
                  stopLoss := stop.val
                  riskPerUnit := riskPerVolumeUnit R entryPrice stopLoss facts.toMT5SymbolFacts
                  signalTime := asOf
                  validUntil := asOf + signalExecutionWindow
                  timeline := Int.lt_add_of_pos_right asOf (by decide)
                  actionable := candidate.actionable
                  stopSide := by rw [entry.property, stop.property]; exact hside }
          else .ok (.blocked family .invalidStopSide)
  | _, _ => .ok (.blocked family .sharedFactUnavailable)

/-- The setup verdict of one family that policy let through. -/
def constructFamilySetup (direction : Option DirectionalCandidate) (brokerSymbol : Symbol)
    (asOf : Timestamp) (symbolFacts : Option MT5SymbolSnapshot)
    (m15MarketStructure : Option MarketStructureFeatures) (family : StrategyFamily) :
    Except ModelError FamilySetup :=
  if family = .meanReversion ∨ family = .eventDriven then
    .ok (.blocked family .familySetupUnavailable)
  else
    match direction with
    | none => .error .assertion
    | some candidate =>
        constructStructuralFamily R family candidate brokerSymbol asOf symbolFacts
          m15MarketStructure
          (if family = .trendFollowing then selectTrendFollowingStop else selectBreakoutStop)

/-- The construction of the setups. -/
def constructSetups (decision : StrategyDecision) (asOf : Timestamp)
    (symbolFacts : Option MT5SymbolSnapshot) (m15MarketStructure : Option MarketStructureFeatures)
    (brokerSymbol : Symbol) : Except ModelError StrategySetups := do
  let familyResults ← decision.eligibleFamilies.mapM fun family =>
    constructFamilySetup R (decision.direction family) brokerSymbol asOf symbolFacts
      m15MarketStructure family
  if covers : familyResults.map FamilySetup.family = decision.eligibleFamilies then
    return { decision, familyResults, covers }
  else
    .error (.validation
      "family_results must cover exactly the Policy-eligible families, in canonical order")

theorem constructSetups_decision {R : Rounding} {decision : StrategyDecision} {asOf : Timestamp}
    {symbolFacts : Option MT5SymbolSnapshot} {m15MarketStructure : Option MarketStructureFeatures}
    {brokerSymbol : Symbol} {setups : StrategySetups}
    (h : constructSetups R decision asOf symbolFacts m15MarketStructure brokerSymbol =
      .ok setups) : setups.decision = decision := by
  obtain ⟨results, -, h⟩ := bind_ok_iff.mp h
  split_ifs at h
  cases h
  rfl

/-- Without the facts of the symbol every setup is blocked. -/
theorem constructSetups_of_unknown_symbol {R : Rounding} {decision : StrategyDecision}
    {asOf : Timestamp} {m15MarketStructure : Option MarketStructureFeatures}
    {brokerSymbol : Symbol} {setups : StrategySetups} {r : FamilySetup}
    (h : constructSetups R decision asOf none m15MarketStructure brokerSymbol = .ok setups)
    (hr : r ∈ setups.familyResults) : ∃ reason, r.verdict = .error reason := by
  obtain ⟨results, hresults, h⟩ := bind_ok_iff.mp h
  split_ifs at h
  cases h
  obtain ⟨family, -, hok⟩ := exists_of_mem_mapM hresults hr
  unfold constructFamilySetup at hok
  split at hok
  · cases hok
    exact ⟨_, rfl⟩
  · split at hok
    · cases hok
    · cases hok
      exact ⟨_, rfl⟩

/-! ## The bridge to the risk gate -/

/-- The risk of one unit; a family without a setup has none. -/
def FamilySetup.riskPerUnit (r : FamilySetup) : ℚ :=
  match r.verdict with
  | .ok setup => setup.riskPerUnit
  | .error _ => 0

/-- One candidate per setup verdict. -/
def toCandidateRiskInputs (setups : StrategySetups) : List CandidateRiskInput :=
  setups.familyResults.map fun r => ⟨r.family, r.riskPerUnit⟩

/-- The families that the event gate blocks. -/
def HighImpactEventRiskResult.blockedFamilies (result : HighImpactEventRiskResult) :
    List StrategyFamily :=
  (result.familyResults.filter fun r => r.verdict = .blocked).map
    HighImpactEventFamilyResult.family

/-- The candidates, with risk 0 for every family that the event gate blocks. -/
def toEventAdjustedCandidateRiskInputs (setups : StrategySetups)
    (events : HighImpactEventRiskResult) : List CandidateRiskInput :=
  (toCandidateRiskInputs setups).map fun candidate =>
    if candidate.family ∈ events.blockedFamilies then ⟨candidate.family, 0⟩ else candidate

variable {R} {setups : StrategySetups} {events : HighImpactEventRiskResult}
  {candidate : CandidateRiskInput}

/-- **Only a constructed setup that the event gate lets through keeps its risk.** -/
theorem setup_of_candidate (h : candidate ∈ toEventAdjustedCandidateRiskInputs setups events)
    (hrisk : 0 < candidate.riskPerUnit) :
    candidate.family ∉ events.blockedFamilies ∧
      ∃ r ∈ setups.familyResults, r.family = candidate.family ∧
        ∃ setup, r.verdict = .ok setup := by
  obtain ⟨base, hbase, rfl⟩ := List.mem_map.mp h
  obtain ⟨r, hr, rfl⟩ := List.mem_map.mp hbase
  dsimp only at hrisk ⊢
  by_cases hblocked : r.family ∈ events.blockedFamilies
  · rw [if_pos hblocked] at hrisk
    exact absurd hrisk (lt_irrefl 0)
  · rw [if_neg hblocked] at hrisk ⊢
    refine ⟨hblocked, r, hr, rfl, ?_⟩
    rcases hverdict : r.verdict with reason | setup
    · rw [FamilySetup.riskPerUnit, hverdict] at hrisk
      exact absurd hrisk (lt_irrefl 0)
    · exact ⟨setup, rfl⟩

/-- Trend following is let through in one direction. -/
def trendOnly (candidate : DirectionalCandidate) : StrategyDecision where
  familyResults := [⟨.trendFollowing, .eligibleForRiskReview⟩]
  canonical := canonical_singleton .trendFollowing .eligibleForRiskReview
  context := { symbol := btcusdt, contractType := .perpetual, onChainPair := onChainPair_none }
  ineligibilityReasons family := if family = .trendFollowing then [] else [.contourMissing]
  direction _ := some candidate
  policyReasons _ := []
  routed := by decide
  blocked_iff := by decide
  directional _ _ _ := rfl

end TradingAdvisor
