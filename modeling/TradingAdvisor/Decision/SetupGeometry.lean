import TradingAdvisor.Decision.SetupConstruction
import TradingAdvisor.Mt5.GridSizing

/-!
# The geometry of constructed setups

The prices of a setup are checked against each other, and never against 0: a quote that is not
positive, and a stop that the tick grid rounds to 0, pass every check.

* `GeometricallySound` — what the prices and the risk of a setup have to satisfy;
* `Constructible` — a structural family passes every check;
* `SoundConstruction` — the construction is typed, and its setups are sound;
* **`soundConstruction_iff`**: it is so exactly when the prices of every setup that passes the
  checks are positive.
-/

namespace TradingAdvisor

open SignificantDigits Checks

/-! ## Sound setups -/

/-- The stop of a family with a structural stop. -/
def selectStop (family : StrategyFamily) : TradeDirection → MarketStructureFeatures → Option Price :=
  if family = .trendFollowing then selectTrendFollowingStop else selectBreakoutStop

/-- The stop is the structural one, or less than a tick beyond it. -/
def RoundedAway (direction : TradeDirection) (structuralStop stopLoss tick : ℚ) : Prop :=
  if direction = .long then stopLoss ≤ structuralStop ∧ structuralStop < stopLoss + tick
  else structuralStop ≤ stopLoss ∧ stopLoss < structuralStop + tick

/-- The prices of the setup fit the quote and the structural stop, and its risk is the one that
broker sizing starts from. -/
structure GeometricallySound (setup : PricedTradeSetup) (facts : MT5SymbolSnapshot)
    (structuralStop : Price) : Prop where
  entry_pos : 0 < setup.entryPrice
  stop_pos : 0 < setup.stopLoss
  side : ValidStopSide setup.direction setup.entryPrice setup.stopLoss
  multiple : ∃ k : ℤ, (setup.stopLoss : ℚ) = k * facts.tradeTickSize
  rounded : RoundedAway setup.direction structuralStop setup.stopLoss facts.tradeTickSize
  distance : facts.tradeStopsLevel * facts.point ≤
    if setup.direction = .long then facts.bid - setup.stopLoss else setup.stopLoss - facts.ask
  risk_pos : 0 < setup.riskPerUnit
  risk_eq : setup.riskPerUnit =
    riskPerVolumeUnit .exact setup.entryPrice setup.stopLoss facts.toMT5SymbolFacts
  sized : ∀ (asOf : Timestamp) (request : MT5BrokerSizingRequest) (sizing : MT5BrokerSizingResult),
    request.direction = setup.direction → request.stopLoss = setup.stopLoss →
    request.entryPrice = some setup.entryPrice →
    computeBrokerSizing .exact asOf request facts = .ok sizing →
    ∀ volume ∈ sizing.brokerVolume, ∀ risk ∈ sizing.actualMonetaryRisk,
      (risk : ℚ) = setup.riskPerUnit * volume

/-! ## The checks of a structural family -/

/-- A structural family passes every check, with this stop. -/
structure Constructible (family : StrategyFamily) (direction : TradeDirection)
    (symbolFacts : Option MT5SymbolSnapshot) (m15MarketStructure : Option MarketStructureFeatures)
    (facts : MT5SymbolSnapshot) (structuralStop : Price) : Prop where
  facts_eq : symbolFacts = some facts
  usable : facts.Usable
  selected : ∃ m ∈ m15MarketStructure, m.Usable ∧ selectStop family direction m = some structuralStop
  side : ValidStopSide direction (resolveEntryPrice direction facts)
    (roundStopToTick .exact structuralStop direction facts.tradeTickSize)
  distance : minimumBrokerStopDistance .exact facts ≤ brokerStopDistance .exact direction facts
    (roundStopToTick .exact structuralStop direction facts.tradeTickSize)

/-- A long stop is at least one tick, and a short is not sold at 0 or below. -/
def PositivePrices (direction : TradeDirection) (facts : MT5SymbolSnapshot)
    (structuralStop : Price) : Prop :=
  if direction = .long then facts.tradeTickSize ≤ structuralStop else 0 < facts.bid

section Family

variable {family : StrategyFamily} {candidate : DirectionalCandidate} {direction : TradeDirection}
  {brokerSymbol : Symbol} {asOf : Timestamp} {symbolFacts : Option MT5SymbolSnapshot}
  {m15MarketStructure : Option MarketStructureFeatures} {facts : MT5SymbolSnapshot}
  {structuralStop : Price} {setup : PricedTradeSetup}

theorem roundStopToTick_exact (price : ℚ) (direction : TradeDirection) (tick : ℚ) :
    roundStopToTick .exact price direction tick =
      if direction = .long then Grid.floorPoint 0 tick price else Grid.ceilPoint 0 tick price := by
  unfold roundStopToTick Grid.floorPoint Grid.ceilPoint Grid.point
  split_ifs <;> simp [Rounding.exact]

theorem roundedAway_roundStopToTick {tick price : ℚ} (htick : 0 < tick) :
    RoundedAway direction price (roundStopToTick .exact price direction tick) tick := by
  rw [roundStopToTick_exact, RoundedAway]
  split_ifs
  · exact ⟨Grid.floorPoint_le htick, Grid.lt_floorPoint_add htick⟩
  · exact ⟨Grid.le_ceilPoint htick, Grid.ceilPoint_lt_add htick⟩

theorem exists_multiple {tick price : ℚ} :
    ∃ k : ℤ, roundStopToTick .exact price direction tick = k * tick := ⟨_, rfl⟩

theorem roundStopToTick_nonneg (direction : TradeDirection) {tick : ℚ} (htick : 0 < tick)
    (price : Price) :
    0 ≤ roundStopToTick .exact price direction tick := by
  have hquotient : 0 ≤ (price : ℚ) / tick := div_nonneg price.property htick.le
  unfold roundStopToTick
  refine mul_nonneg (Int.cast_nonneg ?_) htick.le
  split_ifs
  · exact Int.floor_nonneg.mpr hquotient
  · exact Int.ceil_nonneg hquotient

/-- The prices of a setup that passes the checks are positive exactly when the condition holds. -/
theorem positivePrices_iff
    (h : Constructible family direction symbolFacts m15MarketStructure facts structuralStop) :
    PositivePrices direction facts structuralStop ↔
      0 < resolveEntryPrice direction facts ∧
        0 < roundStopToTick .exact structuralStop direction facts.tradeTickSize := by
  have htick := h.usable.1
  have hside := h.side
  have hnonneg := roundStopToTick_nonneg direction htick structuralStop
  unfold PositivePrices resolveEntryPrice
  unfold ValidStopSide resolveEntryPrice at hside
  by_cases hlong : direction = .long
  · rw [if_pos hlong] at hside ⊢
    rw [if_pos hlong] at hside ⊢
    rw [← Grid.floorPoint_zero_pos_iff htick]
    rw [roundStopToTick_exact, if_pos hlong] at hside hnonneg ⊢
    exact ⟨fun hpos => ⟨hnonneg.trans_lt hside, hpos⟩, And.right⟩
  · rw [if_neg hlong] at hside ⊢
    rw [if_neg hlong] at hside ⊢
    exact ⟨fun hpos => ⟨hpos, hpos.trans hside⟩, And.left⟩

theorem priceField_of_nonneg {name : String} {q : ℚ} (h : 0 ≤ q) :
    priceField name q = .ok ⟨⟨q, h⟩, rfl⟩ := dif_pos h

/-- A family that passes the checks, at prices that are not negative, is constructed. -/
theorem constructStructuralFamily_of_constructible (brokerSymbol : Symbol) (asOf : Timestamp)
    (h : Constructible family candidate.tradeDirection symbolFacts m15MarketStructure facts
      structuralStop) (hentry : 0 ≤ resolveEntryPrice candidate.tradeDirection facts) :
    ∃ setup, constructStructuralFamily .exact family candidate brokerSymbol asOf symbolFacts
        m15MarketStructure (selectStop family) = .ok (.constructed setup) ∧
      setup.family = family ∧ setup.direction = candidate.tradeDirection ∧
      (setup.entryPrice : ℚ) = resolveEntryPrice candidate.tradeDirection facts ∧
      (setup.stopLoss : ℚ) =
        roundStopToTick .exact structuralStop candidate.tradeDirection facts.tradeTickSize ∧
      setup.riskPerUnit = riskPerVolumeUnit .exact setup.entryPrice setup.stopLoss
        facts.toMT5SymbolFacts := by
  obtain ⟨m, hm, husable, hstop⟩ := h.selected
  obtain rfl := h.facts_eq
  obtain rfl := hm
  have hnonneg := roundStopToTick_nonneg candidate.tradeDirection h.usable.1 structuralStop
  unfold constructStructuralFamily
  rw [Option.filter_some, Option.filter_some, if_pos (by simpa using h.usable),
    if_pos (by simpa using husable)]
  dsimp only
  rw [hstop]
  dsimp only
  rw [dif_pos h.side, if_neg (not_lt.mpr h.distance), priceField_of_nonneg hentry,
    priceField_of_nonneg hnonneg]
  exact ⟨_, rfl, rfl, rfl, rfl, rfl, rfl⟩

/-- A family that passes the checks at a negative entry raises. -/
theorem constructStructuralFamily_of_negative
    (h : Constructible family candidate.tradeDirection symbolFacts m15MarketStructure facts
      structuralStop) (hentry : resolveEntryPrice candidate.tradeDirection facts < 0) :
    constructStructuralFamily .exact family candidate brokerSymbol asOf symbolFacts
        m15MarketStructure (selectStop family) =
      .error (.validation ("entry_price" ++ " must be greater than or equal to 0")) := by
  obtain ⟨m, hm, husable, hstop⟩ := h.selected
  obtain rfl := h.facts_eq
  obtain rfl := hm
  unfold constructStructuralFamily
  rw [Option.filter_some, Option.filter_some, if_pos (by simpa using h.usable),
    if_pos (by simpa using husable)]
  dsimp only
  rw [hstop]
  dsimp only
  rw [dif_pos h.side, if_neg (not_lt.mpr h.distance), priceField, dif_neg (not_le.mpr hentry)]
  rfl

/-- A family that fails a check is blocked. -/
theorem constructStructuralFamily_of_not_constructible (brokerSymbol : Symbol) (asOf : Timestamp)
    (h : ∀ facts structuralStop, ¬ Constructible family candidate.tradeDirection symbolFacts
      m15MarketStructure facts structuralStop) :
    ∃ reason, constructStructuralFamily .exact family candidate brokerSymbol asOf symbolFacts
      m15MarketStructure (selectStop family) = .ok (.blocked family reason) := by
  unfold constructStructuralFamily
  cases hfacts : symbolFacts.filter fun facts => facts.Usable with
  | none => exact ⟨_, rfl⟩
  | some facts =>
      cases hm : m15MarketStructure.filter fun m => m.Usable with
      | none => exact ⟨_, rfl⟩
      | some m =>
          dsimp only
          cases hstop : selectStop family candidate.tradeDirection m with
          | none => exact ⟨_, rfl⟩
          | some structuralStop =>
              dsimp only
              by_cases hside : ValidStopSide candidate.tradeDirection
                (resolveEntryPrice candidate.tradeDirection facts)
                (roundStopToTick .exact structuralStop candidate.tradeDirection facts.tradeTickSize)
              · rw [dif_pos hside]
                by_cases hdistance : brokerStopDistance .exact candidate.tradeDirection facts
                  (roundStopToTick .exact structuralStop candidate.tradeDirection
                    facts.tradeTickSize) < minimumBrokerStopDistance .exact facts
                · rw [if_pos hdistance]
                  exact ⟨_, rfl⟩
                · obtain ⟨hfacts, husable⟩ := Option.filter_eq_some_iff.mp hfacts
                  obtain ⟨hm, hmusable⟩ := Option.filter_eq_some_iff.mp hm
                  exact absurd ⟨hfacts, of_decide_eq_true husable,
                    ⟨m, hm, of_decide_eq_true hmusable, hstop⟩, hside, not_lt.mp hdistance⟩
                    (h facts structuralStop)
              · rw [dif_neg hside]
                exact ⟨_, rfl⟩

theorem constructFamilySetup_structural (hfamily : family = .trendFollowing ∨ family = .breakout) :
    constructFamilySetup .exact (some candidate) brokerSymbol asOf symbolFacts m15MarketStructure
        family =
      constructStructuralFamily .exact family candidate brokerSymbol asOf symbolFacts
        m15MarketStructure (selectStop family) := by
  have hnot : ¬ (family = .meanReversion ∨ family = .eventDriven) := by
    rcases hfamily with rfl | rfl <;> decide
  rw [constructFamilySetup, if_neg hnot]
  rfl

/-- The sizing of a setup prices it at the risk of the setup. -/
theorem sized_of_risk (hrisk : setup.riskPerUnit =
      riskPerVolumeUnit .exact setup.entryPrice setup.stopLoss facts.toMT5SymbolFacts)
    (asOf : Timestamp) (request : MT5BrokerSizingRequest) (sizing : MT5BrokerSizingResult)
    (hstop : request.stopLoss = setup.stopLoss) (hentry : request.entryPrice = some setup.entryPrice)
    (hsizing : computeBrokerSizing .exact asOf request facts = .ok sizing) :
    ∀ volume ∈ sizing.brokerVolume, ∀ risk ∈ sizing.actualMonetaryRisk,
      (risk : ℚ) = setup.riskPerUnit * volume := by
  intro volume hvolume risk hmem
  have houtcome : sizing.outcome = .actionable := sizing.volume_iff.mp (Option.isSome_of_mem hvolume)
  by_cases hsizable : ∃ reference, Sizable request facts reference
  · obtain ⟨reference, h⟩ := hsizable
    have hreference : reference = setup.entryPrice := by
      have hprice := h.price
      rw [referencePrice, hentry] at hprice
      exact (Option.some.inj hprice).symm
    rcases sizing_of_sizable h hsizing with ⟨hbelow, -, -⟩ | ⟨-, v, r, hv, hr, -, heq⟩
    · rw [houtcome] at hbelow
      cases hbelow
    · obtain rfl := Option.some.inj (hv.symm.trans hvolume)
      obtain rfl := Option.some.inj (hr.symm.trans hmem)
      rw [heq, volumeRisk, hrisk, hreference, hstop]
      rfl
  · exact absurd houtcome (outcome_of_not_sizable hsizable hsizing).1

/-- A constructed setup at positive prices is sound. -/
theorem geometricallySound_of_positivePrices
    (h : Constructible family direction symbolFacts m15MarketStructure facts structuralStop)
    (hpositive : PositivePrices direction facts structuralStop)
    (hdirection : setup.direction = direction)
    (hentry : (setup.entryPrice : ℚ) = resolveEntryPrice direction facts)
    (hstop : (setup.stopLoss : ℚ) =
      roundStopToTick .exact structuralStop direction facts.tradeTickSize)
    (hrisk : setup.riskPerUnit =
      riskPerVolumeUnit .exact setup.entryPrice setup.stopLoss facts.toMT5SymbolFacts) :
    GeometricallySound setup facts structuralStop := by
  subst hdirection
  obtain ⟨hentrypos, hstoppos⟩ := (positivePrices_iff h).mp hpositive
  obtain ⟨htick, htickvalue, -⟩ := h.usable
  refine ⟨?_, ?_, setup.stopSide, hstop ▸ exists_multiple,
    hstop ▸ roundedAway_roundStopToTick htick, ?_, ?_, hrisk,
    fun asOf request sizing _ => sized_of_risk hrisk asOf request sizing⟩
  · exact_mod_cast hentry ▸ hentrypos
  · exact_mod_cast hstop ▸ hstoppos
  · rw [hstop]
    exact h.distance
  · rw [hrisk]
    exact riskPerVolumeUnit_pos setup.stopSide.ne htick htickvalue

end Family

/-! ## The construction -/

section Construction

variable (decision : StrategyDecision) (asOf : Timestamp) (symbolFacts : Option MT5SymbolSnapshot)
  (m15MarketStructure : Option MarketStructureFeatures) (brokerSymbol : Symbol)

/-- The construction is typed, and every setup is sound for the facts and for the structural stop
of its family. -/
def SoundConstruction : Prop :=
  ∃ setups, constructSetups .exact decision asOf symbolFacts m15MarketStructure brokerSymbol =
      .ok setups ∧
    ∀ r ∈ setups.familyResults, ∀ setup, r.verdict = .ok setup → ∃ facts structuralStop,
      symbolFacts = some facts ∧
      (∃ m ∈ m15MarketStructure, selectStop r.family setup.direction m = some structuralStop) ∧
      GeometricallySound setup facts structuralStop

/-- The prices of every structural family that passes the checks are positive. -/
def PositiveConstruction : Prop :=
  ∀ family ∈ decision.eligibleFamilies, family = .trendFollowing ∨ family = .breakout →
    ∀ candidate ∈ decision.direction family, ∀ facts structuralStop,
      Constructible family candidate.tradeDirection symbolFacts m15MarketStructure facts
        structuralStop →
      PositivePrices candidate.tradeDirection facts structuralStop

variable {decision asOf symbolFacts m15MarketStructure brokerSymbol}
  {family : StrategyFamily} {candidate : DirectionalCandidate} {r : FamilySetup}

/-- The setup verdict is typed and of its family, and its setup is sound. -/
def SoundFamily (direction : Option DirectionalCandidate) (brokerSymbol : Symbol)
    (asOf : Timestamp) (symbolFacts : Option MT5SymbolSnapshot)
    (m15MarketStructure : Option MarketStructureFeatures) (family : StrategyFamily) : Prop :=
  ∃ r, constructFamilySetup .exact direction brokerSymbol asOf symbolFacts m15MarketStructure
      family = .ok r ∧ r.family = family ∧
    ∀ setup, r.verdict = .ok setup → ∃ facts structuralStop, symbolFacts = some facts ∧
      (∃ m ∈ m15MarketStructure, selectStop r.family setup.direction m = some structuralStop) ∧
      GeometricallySound setup facts structuralStop

theorem soundFamily_of_unavailable {direction : Option DirectionalCandidate}
    (hfamily : family = .meanReversion ∨ family = .eventDriven) :
    SoundFamily direction brokerSymbol asOf symbolFacts m15MarketStructure family := by
  refine ⟨.blocked family .familySetupUnavailable, if_pos hfamily, rfl, fun setup hsetup => ?_⟩
  cases hsetup

/-- A structural family is sound exactly when its prices are positive wherever it passes the
checks. -/
theorem soundFamily_iff (hfamily : family = .trendFollowing ∨ family = .breakout) :
    SoundFamily (some candidate) brokerSymbol asOf symbolFacts m15MarketStructure family ↔
      ∀ facts structuralStop, Constructible family candidate.tradeDirection symbolFacts
        m15MarketStructure facts structuralStop →
      PositivePrices candidate.tradeDirection facts structuralStop := by
  unfold SoundFamily
  rw [constructFamilySetup_structural hfamily]
  constructor
  · rintro ⟨r, hr, -, hsound⟩ facts structuralStop h
    rcases lt_or_ge (resolveEntryPrice candidate.tradeDirection facts) 0 with hnegative | hentry
    · rw [constructStructuralFamily_of_negative h hnegative] at hr
      cases hr
    · obtain ⟨setup, hsetup, -, -, hentryeq, hstopeq, -⟩ :=
        constructStructuralFamily_of_constructible brokerSymbol asOf h hentry
      rw [hsetup] at hr
      cases hr
      obtain ⟨facts', stop', -, -, hgeometry⟩ := hsound setup rfl
      rw [positivePrices_iff h, ← hentryeq, ← hstopeq]
      exact ⟨by exact_mod_cast hgeometry.entry_pos, by exact_mod_cast hgeometry.stop_pos⟩
  · intro hpositive
    by_cases hconstructible : ∃ facts structuralStop, Constructible family candidate.tradeDirection
      symbolFacts m15MarketStructure facts structuralStop
    · obtain ⟨facts, structuralStop, h⟩ := hconstructible
      have hprices := hpositive facts structuralStop h
      obtain ⟨setup, hsetup, hfam, hdirection, hentryeq, hstopeq, hrisk⟩ :=
        constructStructuralFamily_of_constructible brokerSymbol asOf h
          ((positivePrices_iff h).mp hprices).1.le
      refine ⟨_, hsetup, hfam, ?_⟩
      rintro setup' hsetup'
      cases hsetup'
      obtain ⟨m, hm, -, hselected⟩ := h.selected
      refine ⟨facts, structuralStop, h.facts_eq, ⟨m, hm, ?_⟩,
        geometricallySound_of_positivePrices h hprices hdirection hentryeq hstopeq hrisk⟩
      rw [hdirection, show (FamilySetup.constructed setup).family = family from hfam]
      exact hselected
    · obtain ⟨reason, hblocked⟩ := constructStructuralFamily_of_not_constructible brokerSymbol asOf
        fun facts structuralStop h => hconstructible ⟨facts, structuralStop, h⟩
      refine ⟨_, hblocked, rfl, fun setup hsetup => ?_⟩
      cases hsetup

theorem exists_direction (h : family ∈ decision.eligibleFamilies) :
    ∃ candidate, decision.direction family = some candidate := by
  obtain ⟨p, hp, rfl⟩ := List.mem_map.mp h
  obtain ⟨hmem, hverdict⟩ := List.mem_filter.mp hp
  exact Option.isSome_iff_exists.mp (decision.directional p hmem (of_decide_eq_true hverdict))

theorem constructFamilySetup_family {direction : Option DirectionalCandidate}
    (h : constructFamilySetup .exact direction brokerSymbol asOf symbolFacts m15MarketStructure
      family = .ok r) : r.family = family := by
  by_cases hfamily : family = .meanReversion ∨ family = .eventDriven
  · unfold constructFamilySetup at h
    rw [if_pos hfamily] at h
    cases h
    rfl
  · have hstructural : family = .trendFollowing ∨ family = .breakout := by
      cases family <;> simp_all
    cases direction with
    | none =>
        unfold constructFamilySetup at h
        rw [if_neg hfamily] at h
        cases h
    | some candidate =>
        rw [constructFamilySetup_structural hstructural] at h
        by_cases hconstructible : ∃ facts structuralStop, Constructible family
          candidate.tradeDirection symbolFacts m15MarketStructure facts structuralStop
        · obtain ⟨facts, structuralStop, hc⟩ := hconstructible
          rcases lt_or_ge (resolveEntryPrice candidate.tradeDirection facts) 0 with hneg | hentry
          · rw [constructStructuralFamily_of_negative hc hneg] at h
            cases h
          · obtain ⟨setup, hsetup, hfam, -⟩ :=
              constructStructuralFamily_of_constructible brokerSymbol asOf hc hentry
            rw [hsetup] at h
            cases h
            exact hfam
        · obtain ⟨reason, hblocked⟩ := constructStructuralFamily_of_not_constructible brokerSymbol
            asOf fun facts structuralStop hc => hconstructible ⟨facts, structuralStop, hc⟩
          rw [hblocked] at h
          cases h
          rfl

/-- The construction is sound exactly when every family is. -/
theorem soundConstruction_iff_forall :
    SoundConstruction decision asOf symbolFacts m15MarketStructure brokerSymbol ↔
      ∀ family ∈ decision.eligibleFamilies, SoundFamily (decision.direction family) brokerSymbol
        asOf symbolFacts m15MarketStructure family := by
  unfold SoundConstruction constructSetups
  constructor
  · rintro ⟨setups, hsetups, hsound⟩ family hfamily
    obtain ⟨results, hresults, hsetups⟩ := bind_ok_iff.mp hsetups
    split_ifs at hsetups
    cases hsetups
    obtain ⟨r, hr, hok⟩ := exists_of_mem_left (mapM_ok_forall₂ hresults) hfamily
    exact ⟨r, hok, constructFamilySetup_family hok, hsound r hr⟩
  · intro h
    obtain ⟨results, hresults⟩ := mapM_ok_of_exists (f := fun family =>
      constructFamilySetup .exact (decision.direction family) brokerSymbol asOf symbolFacts
        m15MarketStructure family) fun family hfamily => (h family hfamily).imp fun _ hr => hr.1
    have hcovers : results.map FamilySetup.family = decision.eligibleFamilies :=
      (map_eq_of_forall₂ (mapM_ok_forall₂ hresults)
        fun _ _ hok => constructFamilySetup_family hok).trans (List.map_id _)
    refine ⟨⟨decision, results, hcovers⟩, bind_ok_iff.mpr ⟨results, hresults, dif_pos hcovers⟩, ?_⟩
    intro r hr
    obtain ⟨family, hfamily, hok⟩ := exists_of_mem_mapM hresults hr
    obtain ⟨r', hok', -, hsound⟩ := h family hfamily
    obtain rfl := Except.ok.inj (hok'.symm.trans hok)
    exact hsound

/-- **The setups are sound exactly when every structural family that passes the checks has positive
prices**: a long stop of at least one tick, and a short entry above 0. -/
theorem soundConstruction_iff (decision : StrategyDecision) (asOf : Timestamp)
    (symbolFacts : Option MT5SymbolSnapshot) (m15MarketStructure : Option MarketStructureFeatures)
    (brokerSymbol : Symbol) :
    SoundConstruction decision asOf symbolFacts m15MarketStructure brokerSymbol ↔
      PositiveConstruction decision symbolFacts m15MarketStructure := by
  rw [soundConstruction_iff_forall]
  unfold PositiveConstruction
  refine forall₂_congr fun family hfamily => ?_
  obtain ⟨candidate, hcandidate⟩ := exists_direction hfamily
  rw [hcandidate]
  by_cases hstructural : family = .trendFollowing ∨ family = .breakout
  · rw [soundFamily_iff hstructural]
    simp [hstructural]
  · have hunavailable : family = .meanReversion ∨ family = .eventDriven := by
      cases family <;> simp_all
    exact iff_of_true (soundFamily_of_unavailable hunavailable) fun h => absurd h hstructural

end Construction

/-! A long stop below the first tick, and a short at a negative quote. -/

/-- A symbol with a tick of one unit. -/
def unitTickFacts (bid ask : ℚ) : MT5SymbolSnapshot where
  tradeTickSize := 1
  tradeTickValueLoss := 1
  symbol := btcusdt
  point := 1
  volumeMin := 1 / 100
  volumeMax := 100
  volumeStep := 1 / 100
  tradeStopsLevel := 0
  tradeMode := .full
  bid
  ask

/-- A swing of half a tick. -/
def halfTickStructure (kind : SwingKind) : MarketStructureFeatures where
  swings := [{ kind, candleTime := 0, price := (1 : ℕ) / (2 : ℕ) }]
  quality := .valid

/-- The prices of the constructed setups. -/
def setupPrices : Except ModelError StrategySetups → List (Option (Price × Price))
  | .ok setups => setups.familyResults.map fun r =>
      r.verdict.toOption.map fun setup => (setup.entryPrice, setup.stopLoss)
  | .error _ => []

/-- A stop of 0 is constructed, and a negative quote raises. -/
theorem zero_stop_and_negative_entry :
    setupPrices (constructSetups .exact (trendOnly .longCandidate) 0 (some (unitTickFacts 99 100))
      (some (halfTickStructure .low)) btcusdt) = [some (100, 0)] ∧
    ¬ SoundConstruction (trendOnly .longCandidate) 0 (some (unitTickFacts 99 100))
      (some (halfTickStructure .low)) btcusdt ∧
    (constructSetups .exact (trendOnly .shortCandidate) 0 (some (unitTickFacts (-2) (-1)))
      (some (halfTickStructure .high)) btcusdt).isOk = false ∧
    ¬ SoundConstruction (trendOnly .shortCandidate) 0 (some (unitTickFacts (-2) (-1)))
      (some (halfTickStructure .high)) btcusdt := by
  have hzero : setupPrices (constructSetups .exact (trendOnly .longCandidate) 0
      (some (unitTickFacts 99 100)) (some (halfTickStructure .low)) btcusdt) = [some (100, 0)] := by
    decide +kernel
  have hraised : (constructSetups .exact (trendOnly .shortCandidate) 0
      (some (unitTickFacts (-2) (-1))) (some (halfTickStructure .high)) btcusdt).isOk = false := by
    decide +kernel
  refine ⟨hzero, ?_, hraised, ?_⟩
  · rintro ⟨setups, hsetups, hsound⟩
    rw [hsetups] at hzero
    have hmem : some ((100 : Price), (0 : Price)) ∈ setupPrices (.ok setups) := by
      rw [hzero]
      exact List.mem_singleton_self _
    obtain ⟨r, hr, hprices⟩ := List.mem_map.mp hmem
    obtain ⟨setup, hsetup, hprice⟩ := Option.map_eq_some_iff.mp hprices
    have hverdict : r.verdict = .ok setup := by
      cases hv : r.verdict with
      | error reason =>
          rw [hv] at hsetup
          cases hsetup
      | ok other =>
          rw [hv] at hsetup
          cases hsetup
          rfl
    obtain ⟨facts, structuralStop, -, -, hgeometry⟩ := hsound r hr setup hverdict
    have hstop : setup.stopLoss = 0 := congrArg Prod.snd hprice
    exact hgeometry.stop_pos.ne' hstop
  · rintro ⟨setups, hsetups, -⟩
    rw [hsetups] at hraised
    cases hraised

end TradingAdvisor
