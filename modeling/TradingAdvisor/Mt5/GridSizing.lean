import TradingAdvisor.Lib.Grid
import TradingAdvisor.Mt5.Sizing

/-!
# What broker sizing is for

Among the volumes of the broker's grid whose risk fits into the allocation, sizing takes the
greatest. The grid starts at the least volume, and its last point can lie below the greatest
volume.

* `Sizable` — the candidate passes the input checks;
* `affordableVolumes` — the volumes of the grid whose risk fits;
* `floorVolumeToStep_exact` — the floor of the code is the floor on the grid;
* **`computeBrokerSizing_greatest`**: without rounding, sizing takes the greatest affordable volume.
-/

namespace TradingAdvisor

open SignificantDigits Checks

/-- The candidate passes the input checks, with this price to start from. -/
structure Sizable (request : MT5BrokerSizingRequest) (facts : MT5SymbolSnapshot)
    (reference : ℚ) : Prop where
  price : referencePrice request facts = some reference
  tradable : ¬ DirectionBlocked request.direction facts.tradeMode
  tickSize : 0 < facts.tradeTickSize
  tickValue : 0 < facts.tradeTickValueLoss
  volumeMin : 0 < facts.volumeMin
  volumeStep : 0 < facts.volumeStep
  volumeMax : facts.volumeMin ≤ facts.volumeMax
  stopSide : ValidStopSide request.direction reference request.stopLoss

/-- The volumes of the broker's grid. -/
def gridVolumes (facts : MT5SymbolSnapshot) : Set ℚ :=
  {v | (∃ k : ℕ, v = facts.volumeMin + k * facts.volumeStep) ∧ v ≤ facts.volumeMax}

/-- The loss of a volume from the reference price to the stop. -/
def volumeRisk (request : MT5BrokerSizingRequest) (facts : MT5SymbolSnapshot)
    (reference volume : ℚ) : ℚ :=
  |reference - request.stopLoss| / facts.tradeTickSize * facts.tradeTickValueLoss * volume

/-- The volumes of the broker's grid whose risk is at most the allocated one. -/
def affordableVolumes (request : MT5BrokerSizingRequest) (facts : MT5SymbolSnapshot)
    (reference : ℚ) : Set ℚ :=
  {v ∈ gridVolumes facts | volumeRisk request facts reference v ≤ request.sessionAllocatedRisk}

section Exact

variable {asOf : Timestamp} {request : MT5BrokerSizingRequest} {facts : MT5SymbolSnapshot}
  {reference : ℚ} {sizing : MT5BrokerSizingResult}

/-- Without rounding the floor of the code is the floor on the grid. -/
theorem floorVolumeToStep_exact {volume volumeMin volumeMax volumeStep : ℚ} (hmin : 0 < volumeMin)
    (hstep : 0 < volumeStep) (hmax : volumeMin ≤ volumeMax) :
    floorVolumeToStep .exact volume volumeMin volumeMax volumeStep =
      if volumeMin ≤ min volume volumeMax then
        some (Grid.floorPoint volumeMin volumeStep (min volume volumeMax))
      else none := by
  have hvalid : ¬ (volumeMin ≤ 0 ∨ volumeStep ≤ 0 ∨ volumeMax < volumeMin) := by
    rw [not_or, not_or, not_le, not_le, not_lt]
    exact ⟨hmin, hstep, hmax⟩
  dsimp only [floorVolumeToStep]
  rw [if_neg hvalid]
  by_cases hle : volumeMin ≤ min volume volumeMax
  · rw [if_pos hle, if_neg (not_lt.mpr hle)]
    rfl
  · rw [if_neg hle, if_pos (not_le.mp hle)]

theorem refused_outcome (asOf : Timestamp) {outcome : MT5SizingOutcome}
    (h : outcome ≠ .actionable) (h' : outcome ≠ .riskVerificationFailed) :
    (MT5BrokerSizingResult.refused asOf outcome h).outcome ≠ .actionable ∧
      (MT5BrokerSizingResult.refused asOf outcome h).outcome ≠ .riskVerificationFailed :=
  ⟨h, h'⟩

theorem outcome_of_not_sizable (h : ¬ ∃ reference, Sizable request facts reference)
    (hsizing : computeBrokerSizing .exact asOf request facts = .ok sizing) :
    sizing.outcome ≠ .actionable ∧ sizing.outcome ≠ .riskVerificationFailed := by
  unfold computeBrokerSizing at hsizing
  cases hprice : referencePrice request facts with
  | none =>
      rw [hprice] at hsizing
      cases hsizing
      exact refused_outcome asOf (by decide) (by decide)
  | some reference =>
      rw [hprice] at hsizing
      dsimp only at hsizing
      split_ifs at hsizing with hmode htick hgrid hstop
      iterate 3
        cases hsizing
        exact refused_outcome asOf (by decide) (by decide)
      · rw [not_or, not_le, not_le] at htick
        rw [not_or, not_or, not_le, not_le, not_lt] at hgrid
        exact absurd ⟨reference, hprice, hmode, htick.1, htick.2, hgrid.1, hgrid.2.1, hgrid.2.2,
          hstop⟩ h
      · cases hsizing
        exact refused_outcome asOf (by decide) (by decide)

/-- A candidate that passes the checks is sized by its risk for one unit of volume. -/
theorem computeBrokerSizing_of_sizable (h : Sizable request facts reference) :
    computeBrokerSizing .exact asOf request facts =
      sizeVolume .exact asOf request.sessionAllocatedRisk
        (riskPerVolumeUnit .exact reference request.stopLoss facts.toMT5SymbolFacts) facts := by
  have htick : ¬ (facts.tradeTickSize ≤ 0 ∨ facts.tradeTickValueLoss ≤ 0) := by
    rw [not_or, not_le, not_le]
    exact ⟨h.tickSize, h.tickValue⟩
  have hgrid : ¬ (facts.volumeMin ≤ 0 ∨ facts.volumeStep ≤ 0 ∨
      facts.volumeMax < facts.volumeMin) := by
    rw [not_or, not_or, not_le, not_le, not_lt]
    exact ⟨h.volumeMin, h.volumeStep, h.volumeMax⟩
  unfold computeBrokerSizing
  rw [h.price]
  dsimp only
  rw [if_neg h.tradable, if_neg htick, if_neg hgrid, if_neg (not_not.mpr h.stopSide)]

theorem Sizable.unitRisk_pos (h : Sizable request facts reference) :
    0 < riskPerVolumeUnit .exact reference request.stopLoss facts.toMT5SymbolFacts :=
  riskPerVolumeUnit_pos h.stopSide.ne h.tickSize h.tickValue

/-- A volume of the grid is affordable up to the allocated risk over the risk of one unit. -/
theorem affordableVolumes_eq (h : Sizable request facts reference) :
    affordableVolumes request facts reference =
      {v | (∃ k : ℕ, v = facts.volumeMin + k * facts.volumeStep) ∧
        v ≤ min (request.sessionAllocatedRisk /
          riskPerVolumeUnit .exact reference request.stopLoss facts.toMT5SymbolFacts)
          facts.volumeMax} := by
  ext v
  have hrisk : volumeRisk request facts reference v ≤ request.sessionAllocatedRisk ↔
      v ≤ request.sessionAllocatedRisk /
        riskPerVolumeUnit .exact reference request.stopLoss facts.toMT5SymbolFacts := by
    rw [le_div_iff₀ h.unitRisk_pos, mul_comm v]
    rfl
  simp only [affordableVolumes, gridVolumes, Set.mem_ofPred_eq, hrisk, le_min_iff]
  tauto

/-- The sizing of a candidate that passes the checks: the greatest affordable volume with its risk,
or no volume because none is affordable. -/
theorem sizing_of_sizable (h : Sizable request facts reference)
    (hsizing : computeBrokerSizing .exact asOf request facts = .ok sizing) :
    (sizing.outcome = .belowBrokerMinimumVolume ∧ sizing.brokerVolume = none ∧
      affordableVolumes request facts reference = ∅) ∨
    (sizing.outcome = .actionable ∧ ∃ volume risk, sizing.brokerVolume = some volume ∧
      sizing.actualMonetaryRisk = some risk ∧
      IsGreatest (affordableVolumes request facts reference) volume ∧
      (risk : ℚ) = volumeRisk request facts reference volume) := by
  have hset := affordableVolumes_eq h
  rw [computeBrokerSizing_of_sizable h, sizeVolume] at hsizing
  set unitRisk := riskPerVolumeUnit .exact reference request.stopLoss facts.toMT5SymbolFacts
  set capped := min (request.sessionAllocatedRisk / unitRisk) facts.volumeMax
  have hfloor : floorVolumeToStep .exact
      (Rounding.exact.rnd (request.sessionAllocatedRisk / unitRisk))
      facts.volumeMin facts.volumeMax facts.volumeStep =
      if facts.volumeMin ≤ capped then
        some (Grid.floorPoint facts.volumeMin facts.volumeStep capped)
      else none := floorVolumeToStep_exact h.volumeMin h.volumeStep h.volumeMax
  dsimp only at hsizing
  rw [hfloor] at hsizing
  by_cases hle : facts.volumeMin ≤ capped
  · have hgreatest := Grid.isGreatest_floorPoint_nat h.volumeStep hle
    rw [← hset] at hgreatest
    have hfits : ¬ (request.sessionAllocatedRisk : ℚ) < Rounding.exact.rnd
      (unitRisk * Grid.floorPoint facts.volumeMin facts.volumeStep capped) :=
        not_lt.mpr hgreatest.1.2
    rw [if_pos hle] at hsizing
    dsimp only at hsizing
    rw [if_neg hfits] at hsizing
    obtain ⟨volume, hvolume, hsizing⟩ := bind_ok_iff.mp hsizing
    obtain ⟨risk, hrisk, hsizing⟩ := bind_ok_iff.mp hsizing
    cases hsizing
    refine .inr ⟨rfl, volume, risk, rfl, rfl, ?_, ?_⟩
    · rw [positiveField_ok hvolume]
      exact hgreatest
    · rw [positiveField_ok hrisk, positiveField_ok hvolume]
      rfl
  · rw [if_neg hle] at hsizing
    cases hsizing
    refine .inl ⟨rfl, rfl, ?_⟩
    rw [hset, Set.eq_empty_iff_forall_notMem]
    intro v hv
    exact hle ((Grid.exists_le_iff h.volumeStep).mp ⟨v, hv⟩)

/-- **Sizing takes the greatest affordable volume.** It is actionable exactly when the candidate
passes the checks and some volume of the grid is affordable; the volume is then the greatest of
them, with its risk within the allocation, and the verification of the risk never fails. -/
theorem computeBrokerSizing_greatest (asOf : Timestamp) (request : MT5BrokerSizingRequest)
    (facts : MT5SymbolSnapshot) :
    ∃ sizing, computeBrokerSizing .exact asOf request facts = .ok sizing ∧
      sizing.outcome ≠ .riskVerificationFailed ∧
      (sizing.outcome = .actionable ↔ ∃ reference, Sizable request facts reference ∧
        (affordableVolumes request facts reference).Nonempty) ∧
      ∀ volume ∈ sizing.brokerVolume, ∃ reference, Sizable request facts reference ∧
        IsGreatest (affordableVolumes request facts reference) volume ∧
        ∃ risk ∈ sizing.actualMonetaryRisk,
          (risk : ℚ) = volumeRisk request facts reference volume ∧
          (risk : ℚ) ≤ request.sessionAllocatedRisk := by
  obtain ⟨sizing, hsizing⟩ : ∃ sizing, computeBrokerSizing .exact asOf request facts = .ok sizing :=
    exists_computeBrokerSizing
  refine ⟨sizing, hsizing, ?_⟩
  by_cases hsizable : ∃ reference, Sizable request facts reference
  · obtain ⟨reference, h⟩ := hsizable
    have honly : ∀ reference', Sizable request facts reference' → reference' = reference :=
      fun reference' h' => Option.some.inj (h'.price.symm.trans h.price)
    rcases sizing_of_sizable h hsizing with ⟨houtcome, hvolume, hempty⟩ |
      ⟨houtcome, volume, risk, hvolume, hrisk, hgreatest, heq⟩
    · refine ⟨by rw [houtcome]; decide, ?_, fun volume hmem => ?_⟩
      · refine iff_of_false (by rw [houtcome]; decide) ?_
        rintro ⟨reference', h', hnonempty⟩
        rw [honly reference' h', hempty] at hnonempty
        exact Set.not_nonempty_empty hnonempty
      · rw [hvolume] at hmem
        cases hmem
    · refine ⟨by rw [houtcome]; decide, ?_, fun volume' hmem => ?_⟩
      · exact iff_of_true houtcome ⟨reference, h, volume, hgreatest.1⟩
      · rw [hvolume] at hmem
        cases hmem
        exact ⟨reference, h, hgreatest, risk, hrisk, heq, heq ▸ hgreatest.1.2⟩
  · obtain ⟨hnot, hverified⟩ := outcome_of_not_sizable hsizable hsizing
    refine ⟨hverified, ?_, fun volume hmem => ?_⟩
    · exact iff_of_false hnot fun ⟨reference, h, _⟩ => hsizable ⟨reference, h⟩
    · have hsome := sizing.volume_iff.mp (Option.isSome_of_mem hmem)
      exact absurd hsome hnot

end Exact

end TradingAdvisor
