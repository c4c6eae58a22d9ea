import TradingAdvisor.Mt5.OpenRisk

/-!
# Broker sizing

Converts the risk that a session allocates to one candidate into a volume on the broker's grid.
The grid starts at the least volume; the volume is capped before it is floored, and its risk is
checked again against the allocation.

* `floorVolumeToStep` — the floor on the broker's grid;
* `computeBrokerSizing` — the sizing of one candidate;
* **`computeBrokerSizing_actionable`**: an actionable sizing stays within the allocated risk.
-/

namespace TradingAdvisor

open SignificantDigits Checks

/-- Restriction of trading in a symbol. -/
inductive MT5SymbolTradeMode
  | disabled
  | longOnly
  | shortOnly
  | closeOnly
  | full
  | unknown
  deriving DecidableEq, Repr

/-- All trading constraints of a symbol, with its current quote. -/
structure MT5SymbolSnapshot extends MT5SymbolFacts where
  symbol : Symbol
  point : ℚ
  volumeMin : ℚ
  volumeMax : ℚ
  volumeStep : ℚ
  tradeStopsLevel : ℕ
  tradeMode : MT5SymbolTradeMode
  bid : ℚ
  ask : ℚ
  deriving DecidableEq

/-- Outcome of a sizing. -/
inductive MT5SizingOutcome
  | actionable
  | invalidCurrentPrice
  | symbolNotTradable
  | invalidTickEconomics
  | invalidVolumeConstraints
  | invalidStopDistance
  | belowBrokerMinimumVolume
  | riskVerificationFailed
  deriving DecidableEq, Repr

/-- What is asked of a sizing; only a long or a short candidate is sized. -/
structure MT5BrokerSizingRequest where
  symbol : Symbol
  direction : TradeDirection
  stopLoss : Price
  entryPrice : Option Price := none
  sessionAllocatedRisk : PositiveRat
  actionable : direction = .long ∨ direction = .short

/-- A sizing; it carries a volume and its risk exactly when it is actionable. -/
structure MT5BrokerSizingResult where
  asOf : Timestamp
  outcome : MT5SizingOutcome
  brokerVolume : Option PositiveRat := none
  actualMonetaryRisk : Option PositiveRat := none
  volume_iff : brokerVolume.isSome ↔ outcome = .actionable
  risk_iff : actualMonetaryRisk.isSome ↔ outcome = .actionable

/-- A field that has to be greater than 0. -/
def positiveField (name : String) (q : ℚ) : Except ModelError PositiveRat :=
  if h : 0 < q then .ok ⟨q, h⟩ else .error (.validation (name ++ " must be greater than 0"))

theorem positiveField_ok {name : String} {q : ℚ} {p : PositiveRat}
    (h : positiveField name q = .ok p) : (p : ℚ) = q := by
  unfold positiveField at h
  split_ifs at h
  cases h
  rfl

variable (R : Rounding)

/-- The greatest volume of the broker's grid that is at most `volume`. -/
def floorVolumeToStep (volume volumeMin volumeMax volumeStep : ℚ) : Option ℚ :=
  if volumeMin ≤ 0 ∨ volumeStep ≤ 0 ∨ volumeMax < volumeMin then none
  else
    let capped := min volume volumeMax
    if capped < volumeMin then none
    else
      let stepCount : ℚ := (⌊R.rnd (R.rnd (capped - volumeMin) / volumeStep)⌋ : ℤ)
      some (R.rnd (volumeMin + R.rnd (stepCount * volumeStep)))

/-- The trade mode does not let this direction be opened. -/
def DirectionBlocked (direction : TradeDirection) (tradeMode : MT5SymbolTradeMode) : Prop :=
  if direction = .long then tradeMode ∈ [.disabled, .shortOnly, .closeOnly, .unknown]
  else tradeMode ∈ [.disabled, .longOnly, .closeOnly, .unknown]

instance (direction : TradeDirection) (tradeMode : MT5SymbolTradeMode) :
    Decidable (DirectionBlocked direction tradeMode) := by
  unfold DirectionBlocked
  infer_instance

/-- The stop is on the losing side of the reference price. -/
def ValidStopSide (direction : TradeDirection) (referencePrice stopLoss : ℚ) : Prop :=
  if direction = .long then stopLoss < referencePrice else referencePrice < stopLoss

instance (direction : TradeDirection) (referencePrice stopLoss : ℚ) :
    Decidable (ValidStopSide direction referencePrice stopLoss) := by
  unfold ValidStopSide
  infer_instance

/-- The price the sizing starts from: the entry, or else the side of the quote to trade at. -/
def referencePrice (request : MT5BrokerSizingRequest) (facts : MT5SymbolSnapshot) : Option ℚ :=
  match request.entryPrice with
  | some entry => some entry
  | none =>
      let quote := if request.direction = .long then facts.ask else facts.bid
      if quote ≤ 0 then none else some quote

/-- The loss of one unit of volume from the reference price to the stop. -/
def riskPerVolumeUnit (referencePrice stopLoss : ℚ) (facts : MT5SymbolFacts) : ℚ :=
  R.rnd (R.rnd (R.rnd |referencePrice - stopLoss| / facts.tradeTickSize) *
    facts.tradeTickValueLoss)

namespace MT5BrokerSizingResult

/-- A sizing that is not actionable. -/
def refused (asOf : Timestamp) (outcome : MT5SizingOutcome) (h : outcome ≠ .actionable) :
    MT5BrokerSizingResult where
  asOf
  outcome
  brokerVolume := none
  actualMonetaryRisk := none
  volume_iff := iff_of_false Bool.false_ne_true h
  risk_iff := iff_of_false Bool.false_ne_true h

/-- A sizing that is actionable. -/
def sized (asOf : Timestamp) (volume risk : PositiveRat) : MT5BrokerSizingResult where
  asOf
  outcome := .actionable
  brokerVolume := some volume
  actualMonetaryRisk := some risk
  volume_iff := iff_of_true rfl rfl
  risk_iff := iff_of_true rfl rfl

end MT5BrokerSizingResult

open MT5BrokerSizingResult in
/-- The volume of a candidate that passed every check, with the verification of its risk. -/
def sizeVolume (asOf : Timestamp) (sessionAllocatedRisk unitRisk : ℚ)
    (facts : MT5SymbolSnapshot) : Except ModelError MT5BrokerSizingResult :=
  let rawVolume := R.rnd (sessionAllocatedRisk / unitRisk)
  match floorVolumeToStep R rawVolume facts.volumeMin facts.volumeMax facts.volumeStep with
  | none => .ok (refused asOf .belowBrokerMinimumVolume (by decide))
  | some volume =>
      let actualRisk := R.rnd (unitRisk * volume)
      if sessionAllocatedRisk < actualRisk then
        .ok (refused asOf .riskVerificationFailed (by decide))
      else do
        let volume ← positiveField "broker_volume" volume
        let risk ← positiveField "actual_monetary_risk" actualRisk
        return sized asOf volume risk

open MT5BrokerSizingResult in
/-- The sizing of one candidate. -/
def computeBrokerSizing (asOf : Timestamp) (request : MT5BrokerSizingRequest)
    (facts : MT5SymbolSnapshot) : Except ModelError MT5BrokerSizingResult :=
  match referencePrice request facts with
  | none => .ok (refused asOf .invalidCurrentPrice (by decide))
  | some reference =>
      if DirectionBlocked request.direction facts.tradeMode then
        .ok (refused asOf .symbolNotTradable (by decide))
      else if facts.tradeTickSize ≤ 0 ∨ facts.tradeTickValueLoss ≤ 0 then
        .ok (refused asOf .invalidTickEconomics (by decide))
      else if facts.volumeMin ≤ 0 ∨ facts.volumeStep ≤ 0 ∨ facts.volumeMax < facts.volumeMin then
        .ok (refused asOf .invalidVolumeConstraints (by decide))
      else if ¬ ValidStopSide request.direction reference request.stopLoss then
        .ok (refused asOf .invalidStopDistance (by decide))
      else
        sizeVolume R asOf request.sessionAllocatedRisk
          (riskPerVolumeUnit R reference request.stopLoss facts.toMT5SymbolFacts) facts

/-! ## What a sizing allows -/

variable {R} {asOf : Timestamp} {request : MT5BrokerSizingRequest} {facts : MT5SymbolSnapshot}
  {sizing : MT5BrokerSizingResult}

theorem floorVolumeToStep_pos {volume volumeMin volumeMax volumeStep v : ℚ}
    (h : floorVolumeToStep R volume volumeMin volumeMax volumeStep = some v) : 0 < v := by
  dsimp only [floorVolumeToStep] at h
  split_ifs at h with hinvalid hbelow
  cases h
  rw [not_or, not_or, not_le, not_le, not_lt] at hinvalid
  obtain ⟨hmin, hstep, -⟩ := hinvalid
  have hspan : 0 ≤ R.rnd (min volume volumeMax - volumeMin) :=
    R.nonneg (sub_nonneg.mpr (not_lt.mp hbelow))
  have hcount : (0 : ℤ) ≤ ⌊R.rnd (R.rnd (min volume volumeMax - volumeMin) / volumeStep)⌋ :=
    Int.floor_nonneg.mpr (R.nonneg (div_nonneg hspan hstep.le))
  have hsteps : 0 ≤ R.rnd ((⌊R.rnd (R.rnd (min volume volumeMax - volumeMin) / volumeStep)⌋ : ℚ) *
      volumeStep) :=
    R.nonneg (mul_nonneg (by exact_mod_cast hcount) hstep.le)
  exact R.pos (by linarith)

theorem riskPerVolumeUnit_pos {reference stopLoss : ℚ} {facts : MT5SymbolFacts}
    (hstop : reference ≠ stopLoss) (hsize : 0 < facts.tradeTickSize)
    (hvalue : 0 < facts.tradeTickValueLoss) :
    0 < riskPerVolumeUnit R reference stopLoss facts := by
  have hdistance : 0 < R.rnd |reference - stopLoss| := R.pos (abs_pos.mpr (sub_ne_zero.mpr hstop))
  exact R.pos (mul_pos (R.pos (div_pos hdistance hsize)) hvalue)

theorem ValidStopSide.ne {direction : TradeDirection} {reference stopLoss : ℚ}
    (h : ValidStopSide direction reference stopLoss) : reference ≠ stopLoss := by
  unfold ValidStopSide at h
  split_ifs at h
  · exact h.ne'
  · exact h.ne

theorem exists_sizeVolume {allocated unitRisk : ℚ} (hunit : 0 < unitRisk) :
    ∃ sizing, sizeVolume R asOf allocated unitRisk facts = .ok sizing := by
  dsimp only [sizeVolume]
  split
  · exact ⟨_, rfl⟩
  · next volume hvolume =>
      split_ifs
      · exact ⟨_, rfl⟩
      · have hpos : 0 < volume := floorVolumeToStep_pos hvolume
        have hrisk : 0 < R.rnd (unitRisk * volume) := R.pos (mul_pos hunit hpos)
        rw [positiveField, dif_pos hpos, positiveField, dif_pos hrisk]
        exact ⟨_, rfl⟩

theorem exists_computeBrokerSizing :
    ∃ sizing, computeBrokerSizing R asOf request facts = .ok sizing := by
  unfold computeBrokerSizing
  split
  · exact ⟨_, rfl⟩
  · next reference _ =>
      split_ifs with hmode htick hgrid hstop
      iterate 3 exact ⟨_, rfl⟩
      · rw [not_or, not_le, not_le] at htick
        exact exists_sizeVolume (riskPerVolumeUnit_pos hstop.ne htick.1 htick.2)
      · exact ⟨_, rfl⟩

theorem sizeVolume_le {allocated unitRisk : ℚ}
    (h : sizeVolume R asOf allocated unitRisk facts = .ok sizing) :
    ∀ risk ∈ sizing.actualMonetaryRisk, (risk : ℚ) ≤ allocated := by
  intro risk hrisk
  dsimp only [sizeVolume] at h
  split at h
  · cases h
    cases hrisk
  · split_ifs at h with hexceeds
    · cases h
      cases hrisk
    · obtain ⟨volume, -, h⟩ := bind_ok_iff.mp h
      obtain ⟨actual, hactual, h⟩ := bind_ok_iff.mp h
      cases h
      cases hrisk
      rw [positiveField_ok hactual]
      exact not_lt.mp hexceeds

/-- **An actionable sizing stays within the allocated risk.** -/
theorem computeBrokerSizing_actionable
    (h : computeBrokerSizing R asOf request facts = .ok sizing) :
    ∀ risk ∈ sizing.actualMonetaryRisk, (risk : ℚ) ≤ request.sessionAllocatedRisk := by
  unfold computeBrokerSizing at h
  split at h
  · cases h
    exact nofun
  · split_ifs at h
    all_goals first
      | exact sizeVolume_le h
      | (cases h; exact nofun)

end TradingAdvisor
