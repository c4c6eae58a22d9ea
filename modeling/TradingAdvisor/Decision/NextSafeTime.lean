import TradingAdvisor.Decision.HighImpactEventGate

/-!
# The next safe time

A blocked setup is given the end of the last block window that it runs into. A setup that starts
there can run into the block window of another event, which the first one did not reach.

* `StrategySetupResult.startingAt` — the same setups, moved to start at a time;
* `NextSafeTimesSafe` — no setup that starts at its safe time is blocked;
* `Chained` — an event that a setup does not reach, within its duration after one that it does;
* **`nextSafeTimesSafe_iff`**: safe times are safe exactly when no events are chained.
-/

namespace TradingAdvisor

/-! ## Setups moved in time -/

/-- The setup with the same duration, starting at `t`. -/
def CandidateTradeSetup.startingAt (setup : CandidateTradeSetup) (t : Timestamp) :
    CandidateTradeSetup where
  family := setup.family
  signalTime := t
  validUntil := t + (setup.validUntil - setup.signalTime)
  timeline := lt_add_of_pos_right t (sub_pos.mpr setup.timeline)

/-- The setup verdict with its setup starting at `t`. -/
def SetupConstructionResult.startingAt (result : SetupConstructionResult) (t : Timestamp) :
    SetupConstructionResult where
  family := result.family
  setup := result.setup.map fun setup => setup.startingAt t
  family_eq := by
    intro moved hmoved
    obtain ⟨setup, hsetup, rfl⟩ := Option.map_eq_some_iff.mp hmoved
    exact result.family_eq setup hsetup

/-- The setup verdicts with every setup starting at `t`. -/
def StrategySetupResult.startingAt (s : StrategySetupResult) (t : Timestamp) :
    StrategySetupResult where
  context := s.context
  familyResults := s.familyResults.map fun result => result.startingAt t
  canonical := by
    rw [List.map_map]
    exact s.canonical

/-! ## Blocking events -/

/-- The event is relevant to the evaluated instrument and able to block. -/
def CanBlock (s : StrategySetupResult)
    (symbolScopeConfig : Option HighImpactEventSymbolScopeConfig)
    (event : HighImpactEventRecord) : Prop :=
  IsRelevant event s.context.symbol (instrumentScopeTags s.context) symbolScopeConfig ∧
    IsHardBlockEligible event

/-- The setup runs into the block window of the event. -/
def CandidateTradeSetup.RunsInto (setup : CandidateTradeSetup) (event : HighImpactEventRecord) :
    Prop :=
  Overlaps setup.signalTime setup.validUntil (event.eventTime - blockPreWindow)
    (event.eventTime + blockPostWindow)

section Gate

variable (s : StrategySetupResult) (context : Option HighImpactEventContext) (asOf : Timestamp)
  (symbolScopeConfig : Option HighImpactEventSymbolScopeConfig)

/-- No setup that starts at the safe time the gate gives for it is blocked, and no safe time is
before the start of its setup. -/
def NextSafeTimesSafe : Prop :=
  ∀ verdict ∈ (HighImpactEventGate.evaluate s context asOf symbolScopeConfig).familyResults,
    ∀ t ∈ verdict.nextSafeTime,
      (∀ moved ∈ (HighImpactEventGate.evaluate (s.startingAt t) context asOf
          symbolScopeConfig).familyResults,
        moved.family = verdict.family → moved.verdict ≠ .blocked) ∧
      ∀ result ∈ s.familyResults, ∀ setup ∈ result.setup, setup.family = verdict.family →
        setup.signalTime ≤ t

/-- The setup runs into the block window of `first`, and ends before the one of `next`, which starts
less than the setup's duration after the first one ends. -/
def Chained (setup : CandidateTradeSetup) (first next : HighImpactEventRecord) : Prop :=
  setup.RunsInto first ∧ setup.validUntil ≤ next.eventTime - blockPreWindow ∧
    next.eventTime - blockPreWindow <
      first.eventTime + blockPostWindow + (setup.validUntil - setup.signalTime)

/-- No two blocking events are chained for a setup. -/
def Unchained : Prop :=
  ∀ result ∈ s.familyResults, ∀ setup ∈ result.setup,
    ∀ first ∈ HighImpactEventGate.events context, CanBlock s symbolScopeConfig first →
    ∀ next ∈ HighImpactEventGate.events context, CanBlock s symbolScopeConfig next →
      ¬ Chained setup first next

end Gate

section Family

variable {setup : CandidateTradeSetup} {symbol : Symbol} {scopeTags : List String}
  {symbolScopeConfig : Option HighImpactEventSymbolScopeConfig}
  {events : List HighImpactEventRecord} {dataQuality : HighImpactEventDataQuality} {t : Timestamp}

theorem mem_blockEndTimes {relevant : List HighImpactEventRecord} :
    t ∈ blockEndTimes relevant setup ↔ ∃ event ∈ relevant, IsHardBlockEligible event ∧
      setup.RunsInto event ∧ t = event.eventTime + blockPostWindow := by
  rw [blockEndTimes, List.mem_filterMap]
  refine exists_congr fun event => and_congr_right fun _ => ?_
  unfold eventVerdict CandidateTradeSetup.RunsInto
  by_cases hblock : IsHardBlockEligible event ∧ Overlaps setup.signalTime setup.validUntil
    (event.eventTime - blockPreWindow) (event.eventTime + blockPostWindow)
  · rw [if_pos hblock, Option.some_inj, ← and_assoc, eq_comm]
    exact (and_iff_right hblock).symm
  · rw [if_neg hblock, ← and_assoc]
    refine iff_of_false ?_ fun h => hblock h.1
    split_ifs <;> simp

/-- The safe time is the end of the last block window that the setup runs into. -/
theorem mem_nextSafeTime :
    t ∈ (evaluateFamily setup symbol scopeTags symbolScopeConfig events dataQuality).nextSafeTime ↔
      IsGreatest {t | ∃ event ∈ events, IsRelevant event symbol scopeTags symbolScopeConfig ∧
        IsHardBlockEligible event ∧ setup.RunsInto event ∧
        t = event.eventTime + blockPostWindow} t := by
  have hmem (t : Timestamp) :
      t ∈ blockEndTimes (relevantEvents events symbol scopeTags symbolScopeConfig) setup ↔
        ∃ event ∈ events, IsRelevant event symbol scopeTags symbolScopeConfig ∧
          IsHardBlockEligible event ∧ setup.RunsInto event ∧
          t = event.eventTime + blockPostWindow := by
    simp only [mem_blockEndTimes, relevantEvents, List.mem_insertionSort, List.mem_filter,
      decide_eq_true_eq, and_assoc]
  have hgreatest : IsGreatest {t | ∃ event ∈ events,
        IsRelevant event symbol scopeTags symbolScopeConfig ∧ IsHardBlockEligible event ∧
        setup.RunsInto event ∧ t = event.eventTime + blockPostWindow} t ↔
      (blockEndTimes (relevantEvents events symbol scopeTags symbolScopeConfig) setup).max? =
        some t := by
    rw [List.max?_eq_some_iff, hmem]
    refine and_congr_right fun _ => ?_
    simp only [upperBounds, hmem, Set.mem_ofPred_eq]
  rw [hgreatest]
  dsimp only [evaluateFamily]
  split_ifs with hblocked
  · rfl
  · have hnil : blockEndTimes (relevantEvents events symbol scopeTags symbolScopeConfig) setup =
        [] := by
      refine List.eq_nil_iff_forall_not_mem.mpr fun t' ht' => hblocked ?_
      obtain ⟨event, hevent, heligible, hinto, -⟩ := mem_blockEndTimes.mp ht'
      exact worstVerdict_blocked_iff.mpr
        (List.mem_map.mpr ⟨event, hevent, eventVerdict_blocked_iff.mpr ⟨heligible, hinto⟩⟩)
    rw [hnil]
    exact iff_of_false (by simp) (by simp)

/-- A setup that starts at its safe time is blocked exactly by an event that is chained. -/
theorem blocked_startingAt_iff
    (ht : t ∈ (evaluateFamily setup symbol scopeTags symbolScopeConfig events
      dataQuality).nextSafeTime) :
    (evaluateFamily (setup.startingAt t) symbol scopeTags symbolScopeConfig events
        dataQuality).verdict = .blocked ↔
      ∃ first ∈ events, (IsRelevant first symbol scopeTags symbolScopeConfig ∧
          IsHardBlockEligible first) ∧
        ∃ next ∈ events, (IsRelevant next symbol scopeTags symbolScopeConfig ∧
          IsHardBlockEligible next) ∧ Chained setup first next := by
  obtain ⟨⟨last, hlast, hrelevant, heligible, hinto, rfl⟩, hupper⟩ := mem_nextSafeTime.mp ht
  rw [evaluateFamily_blocked_iff]
  simp only [Chained, CandidateTradeSetup.RunsInto, CandidateTradeSetup.startingAt, Overlaps] at *
  constructor
  · rintro ⟨next, hnext, hrelevant', heligible', hstart, hend⟩
    refine ⟨last, hlast, ⟨hrelevant, heligible⟩, next, hnext, ⟨hrelevant', heligible'⟩, hinto, ?_,
      hend⟩
    -- a window that the setup reaches ends by the safe time
    by_contra hreached
    have hle := hupper ⟨next, hnext, hrelevant', heligible',
      ⟨hinto.1.trans hstart, not_le.mp hreached⟩, rfl⟩
    exact absurd hstart (not_lt.mpr hle)
  · rintro ⟨first, hfirst, ⟨hrelevant₁, heligible₁⟩, next, hnext, ⟨hrelevant₂, heligible₂⟩,
      hfirstinto, hafter, hbefore⟩
    have hle := hupper ⟨first, hfirst, hrelevant₁, heligible₁, hfirstinto, rfl⟩
    refine ⟨next, hnext, hrelevant₂, heligible₂, ?_, ?_⟩
    · have hearlier := hinto.2.trans_le hafter
      exact (add_lt_add_iff_right _).mpr ((sub_lt_sub_iff_right _).mp hearlier)
    · exact hbefore.trans_le (add_le_add_left hle _)

end Family

/-! ## When safe times are safe -/

section Safety

variable {s : StrategySetupResult} {context : Option HighImpactEventContext} {asOf t : Timestamp}
  {symbolScopeConfig : Option HighImpactEventSymbolScopeConfig} {setup : CandidateTradeSetup}

theorem eq_of_setup_family {result result' : SetupConstructionResult} {setup' : CandidateTradeSetup}
    (hr : result ∈ s.familyResults) (hsetup : setup ∈ result.setup) (hr' : result' ∈ s.familyResults)
    (hsetup' : setup' ∈ result'.setup) (h : setup.family = setup'.family) : setup = setup' := by
  rw [result.family_eq setup hsetup, result'.family_eq setup' hsetup'] at h
  obtain rfl := List.inj_on_of_nodup_map (StrategyFamily.order_nodup.sublist s.canonical) hr hr' h
  exact Option.mem_unique hsetup hsetup'

/-- **Safe times are safe exactly when no events are chained.** -/
theorem nextSafeTimesSafe_iff (s : StrategySetupResult) (context : Option HighImpactEventContext)
    (asOf : Timestamp) (symbolScopeConfig : Option HighImpactEventSymbolScopeConfig) :
    NextSafeTimesSafe s context asOf symbolScopeConfig ↔
      Unchained s context symbolScopeConfig := by
  constructor
  · intro h result hr setup hsetup first hfirst hcan next hnext hcan' hchained
    set verdict := evaluateFamily setup s.context.symbol (instrumentScopeTags s.context)
      symbolScopeConfig (HighImpactEventGate.events context)
      (context.elim .unavailable HighImpactEventContext.dataQuality) with hverdict
    have hblocked : verdict.verdict = .blocked :=
      evaluateFamily_blocked_iff.mpr ⟨first, hfirst, hcan.1, hcan.2, hchained.1⟩
    obtain ⟨t, ht⟩ := Option.isSome_iff_exists.mp (verdict.nextSafeTime_iff.mpr hblocked)
    have hmem : verdict ∈ (HighImpactEventGate.evaluate s context asOf
        symbolScopeConfig).familyResults :=
      HighImpactEventGate.mem_evaluate.mpr ⟨result, hr, setup, hsetup, rfl⟩
    obtain ⟨hmoved, -⟩ := h verdict hmem t ht
    refine hmoved _ (HighImpactEventGate.mem_evaluate.mpr ⟨result.startingAt t,
      List.mem_map_of_mem hr, setup.startingAt t, Option.mem_map_of_mem _ hsetup, rfl⟩) ?_ ?_
    · rw [hverdict, evaluateFamily_family, evaluateFamily_family]
      rfl
    · exact (blocked_startingAt_iff ht).mpr ⟨first, hfirst, hcan, next, hnext, hcan', hchained⟩
  · intro h verdict hmem t ht
    obtain ⟨result, hr, setup, hsetup, rfl⟩ := HighImpactEventGate.mem_evaluate.mp hmem
    rw [evaluateFamily_family]
    refine ⟨fun moved hmoved hfamily hblocked => ?_, fun result' hr' setup' hsetup' hfamily => ?_⟩
    · obtain ⟨result', hr', setup', hsetup', rfl⟩ := HighImpactEventGate.mem_evaluate.mp hmoved
      obtain ⟨base, hbase, rfl⟩ := List.mem_map.mp hr'
      obtain ⟨original, horiginal, rfl⟩ := Option.map_eq_some_iff.mp hsetup'
      rw [evaluateFamily_family] at hfamily
      obtain rfl := eq_of_setup_family hbase horiginal hr hsetup hfamily
      obtain ⟨first, hfirst, hcan, next, hnext, hcan', hchained⟩ :=
        (blocked_startingAt_iff ht).mp hblocked
      exact h result hr original hsetup first hfirst hcan next hnext hcan' hchained
    · obtain rfl := eq_of_setup_family hr' hsetup' hr hsetup hfamily
      obtain ⟨⟨last, -, -, -, hinto, rfl⟩, -⟩ := mem_nextSafeTime.mp ht
      exact hinto.1.le

/-! Two events ten minutes apart, and a setup of five minutes before the first one. -/

/-- A dollar event. -/
def dollarEvent (eventTime : Timestamp) : HighImpactEventRecord where
  providerEventId := ⟨"cpi", by decide⟩
  eventTime
  importance := .high
  eventCode := usCpi

/-- Two events. -/
def chainedEvents : HighImpactEventContext where
  events := [dollarEvent 0, dollarEvent (minutes 10)]
  dataQuality := .fresh
  producer := ⟨"bridge", by decide⟩
  fresh_of_events _ := rfl
  generatedAt_eq_none := generatedAt_of_fresh

/-- A setup from one minute before the first event to four minutes after it. -/
def dollarSetup : CandidateTradeSetup where
  family := .trendFollowing
  signalTime := minutes (-1)
  validUntil := minutes 4
  timeline := by decide

/-- The setup verdicts of an instrument in the dollar's scope. -/
def dollarSetups : StrategySetupResult where
  context := { symbol := btcusdt, contractType := .perpetual, onChainPair := onChainPair_none,
               currencyExposures := [usdCode] }
  familyResults := [{ family := .trendFollowing, setup := some dollarSetup,
                      family_eq := by rintro _ ⟨⟩; rfl }]
  canonical := by decide

/-- The verdicts of the gate, with their safe times. -/
def safeTimes (result : HighImpactEventRiskResult) :
    List (StrategyFamily × HighImpactEventVerdict × Option Timestamp) :=
  result.familyResults.map fun r => (r.family, r.verdict, r.nextSafeTime)

/-- The setup is blocked again at its safe time. -/
theorem safe_time_blocked :
    safeTimes (HighImpactEventGate.evaluate dollarSetups (some chainedEvents) (minutes (-1)) none) =
      [(.trendFollowing, .blocked, some (minutes 5))] ∧
    safeTimes (HighImpactEventGate.evaluate (dollarSetups.startingAt (minutes 5))
      (some chainedEvents) (minutes (-1)) none) =
      [(.trendFollowing, .blocked, some (minutes 15))] ∧
    ¬ NextSafeTimesSafe dollarSetups (some chainedEvents) (minutes (-1)) none := by
  have hfirst : safeTimes (HighImpactEventGate.evaluate dollarSetups (some chainedEvents)
    (minutes (-1)) none) = [(.trendFollowing, .blocked, some (minutes 5))] := by decide +kernel
  have hsecond : safeTimes (HighImpactEventGate.evaluate (dollarSetups.startingAt (minutes 5))
    (some chainedEvents) (minutes (-1)) none) =
      [(.trendFollowing, .blocked, some (minutes 15))] := by decide +kernel
  refine ⟨hfirst, hsecond, fun h => ?_⟩
  obtain ⟨verdict, hverdict, heq⟩ := List.mem_map.mp (hfirst.symm ▸ List.mem_singleton_self _)
  obtain ⟨moved, hmoved, heq'⟩ := List.mem_map.mp (hsecond.symm ▸ List.mem_singleton_self _)
  obtain ⟨hfamily, hrest⟩ := Prod.ext_iff.mp heq
  obtain ⟨hfamily', hrest'⟩ := Prod.ext_iff.mp heq'
  obtain ⟨hsafe, -⟩ := h verdict hverdict (minutes 5) (Prod.ext_iff.mp hrest).2
  exact hsafe moved hmoved (hfamily'.trans hfamily.symm) (Prod.ext_iff.mp hrest').1

end Safety

end TradingAdvisor
