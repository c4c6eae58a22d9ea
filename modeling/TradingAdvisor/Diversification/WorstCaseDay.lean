import TradingAdvisor.Diversification.PortfolioSupervisor
import TradingAdvisor.Orchestration.FactAssembly

/-!
# The worst case of the day

What the day's PnL can fall to, in exact arithmetic, when every open position is closed at its
stop and every allocation of the supervisor is lost whole.

* `closingChange` — the change of the day's PnL when a position is closed at its stop;
* `protectedLoss` — the part of it that the assessment of a protected position leaves out;
* **`worst_case_daily_pnl`**: the loss stays inside the daily limit, or inside the open risk that
  was already there, up to the protected losses.
-/

namespace TradingAdvisor

open SignificantDigits Checks VersionedStore

variable (economics : Symbol → MT5SymbolFacts)

/-- The signed distance from the mark to the stop, positive when closing there is a gain. -/
def signedDistance (p : MT5Position) (stop : Price) : ℚ :=
  match p.side with
  | .buy => stop - p.priceCurrent
  | .sell => p.priceCurrent - stop

/-- The change of the day's PnL when the position is closed at its stop. -/
def closingChange (p : MT5Position) : ℚ :=
  match p.stopLoss with
  | none => 0
  | some stop =>
      signedDistance p stop / (economics p.symbol).tradeTickSize *
        (economics p.symbol).tradeTickValueLoss * p.volume

/-- The loss from the mark to the stop of a protected position, which the assessment counts as
zero. -/
def protectedLoss (p : MT5Position) : ℚ :=
  if IsProtected p then max 0 (-closingChange economics p) else 0

/-- The day's PnL at the current marks. -/
def AccountRiskSnapshot.dailyPnl (account : AccountRiskSnapshot) : ℚ :=
  account.realizedDailyPnl + account.floatingPnl

/-- The loss the day may make. -/
def dailyLossLimit (account : AccountRiskSnapshot) (config : TradingCycleConfig) : ℚ :=
  percentOf .exact account.rolloverEquity config.dailyRiskLimitPercent

/-- The day's PnL after every stop was hit and every allocation was lost. -/
def worstCaseDailyPnl (account : AccountRiskSnapshot) (positions : List MT5Position)
    (portfolio : StrategyPortfolioResult) : ℚ :=
  account.dailyPnl + (positions.map (closingChange economics)).sum -
    (portfolio.familyResults.filterMap PortfolioFamilyResult.portfolioAllocatedRisk).sum

section

variable {economics} {facts : Dict Symbol MT5SymbolFacts} {asOf : Timestamp}
  {positions : List MT5Position} {p : MT5Position}

theorem neg_signedDistance_le (p : MT5Position) (stop : Price) :
    -signedDistance p stop ≤ priceDistance .exact p stop := by
  unfold signedDistance priceDistance
  cases p.side
  · exact (neg_sub _ _).trans_le (le_max_right _ _)
  · exact (neg_sub _ _).trans_le (le_max_right _ _)

/-- Closing at the stop costs at most the contribution and the protected loss. -/
theorem closingChange_ge {c : ℚ} (heconomics : ∀ s f, facts.lookup s = some f → economics s = f)
    (h : positionContribution .exact facts p = .ok c) :
    -c - protectedLoss economics p ≤ closingChange economics p := by
  obtain ⟨stop, hstop, ⟨hprotected, rfl⟩ | ⟨hprotected, f, hf, htick, hvalue, rfl⟩⟩ :=
    positionContribution_ok h
  · rw [protectedLoss, if_pos hprotected]
    linarith [le_max_right 0 (-closingChange economics p)]
  · rw [protectedLoss, if_neg hprotected, closingChange, hstop, heconomics _ _ hf]
    have hdist : -signedDistance p stop / f.tradeTickSize * f.tradeTickValueLoss * p.volume ≤
        priceDistance .exact p stop / f.tradeTickSize * f.tradeTickValueLoss * p.volume := by
      have hvolume := p.volume.2.le
      have := neg_signedDistance_le p stop
      gcongr
    have hneg : signedDistance p stop / f.tradeTickSize * f.tradeTickValueLoss * p.volume =
        -(-signedDistance p stop / f.tradeTickSize * f.tradeTickValueLoss * p.volume) := by ring
    simp only [Rounding.exact, sub_zero]
    rw [hneg]
    exact neg_le_neg hdist

/-- Closing every position at its stop costs at most the assessed open risk and the protected
losses. -/
theorem sum_closingChange_ge (heconomics : ∀ s f, facts.lookup s = some f → economics s = f)
    (h : ∀ p ∈ positions, ∃ c, positionContribution .exact facts p = .ok c) :
    -(contributions .exact facts positions).sum -
        (positions.map (protectedLoss economics)).sum ≤
      (positions.map (closingChange economics)).sum := by
  induction positions with
  | nil => simp [contributions]
  | cons p positions ih =>
      obtain ⟨⟨c, hc⟩, hrest⟩ := List.forall_mem_cons.mp h
      have hcons : contributions .exact facts (p :: positions) =
          c :: contributions .exact facts positions := by
        simp [contributions, hc, Except.toOption]
      rw [hcons, List.sum_cons, List.map_cons, List.sum_cons, List.map_cons, List.sum_cons]
      linarith [closingChange_ge heconomics hc, ih hrest]

theorem stage7SharedCapacity_exact (account : AccountRiskSnapshot) (config : TradingCycleConfig) :
    stage7SharedCapacity .exact account config =
      max 0 (max 0 (dailyLossLimit account config - max 0 (-account.dailyPnl)) -
        account.currentOpenRiskToStop) :=
  rfl

/-- What the daily budget leaves for allocations keeps their loss inside the limit. -/
theorem budget_bound {limit pnl openLoss allocated : ℚ} (hopen : 0 ≤ openLoss)
    (h : allocated ≤ max 0 (max 0 (limit - max 0 (-pnl)) - openLoss)) :
    min (-limit) (pnl - openLoss) ≤ pnl - openLoss - allocated := by
  rcases le_or_gt (max 0 (limit - max 0 (-pnl)) - openLoss) 0 with hnone | hsome
  · -- the open risk uses the budget up, so nothing is allocated
    rw [max_eq_left hnone] at h
    exact (min_le_right _ _).trans (by linarith)
  · rw [max_eq_right hsome.le] at h
    have hleft : 0 ≤ limit - max 0 (-pnl) := by
      by_contra hneg
      rw [max_eq_left (not_le.mp hneg).le] at hsome
      linarith
    rw [max_eq_right hleft] at h
    have hloss := le_max_right 0 (-pnl)
    exact (min_le_left _ _).trans (by linarith)

/-- **The worst case of the day.** After every stop is hit and every allocation is lost, the day's
PnL is at least minus the daily limit, or what the assessed open risk alone leaves of it when
that is less, up to the protected losses. -/
theorem worst_case_daily_pnl {rollover : MT5RolloverSnapshot}
    {realized : MT5RealizedDailyPnLAssessment} {openRisk : MT5OpenRiskAssessment}
    {assembly : AccountRiskSnapshotAssembly} {account : AccountRiskSnapshot}
    {policy : StrategyPolicyResult} {candidates : List CandidateRiskInput}
    {config : TradingCycleConfig} {risk : StrategyRiskResult} {portfolio : StrategyPortfolioResult}
    (heconomics : ∀ s f, facts.lookup s = some f → economics s = f)
    (hopen : assessOpenRisk .exact asOf positions facts = .ok openRisk)
    (hassembly : assembleAccountRiskSnapshot asOf rollover realized openRisk = .ok assembly)
    (haccount : assembly.accountSnapshot = some account)
    (hrisk : RiskGate.evaluate .exact policy account candidates config = .ok risk)
    (hportfolio : PortfolioSupervisor.evaluate .exact risk = .ok portfolio) :
    min (-dailyLossLimit account config) (account.dailyPnl - account.currentOpenRiskToStop) -
        (positions.map (protectedLoss economics)).sum ≤
      worstCaseDailyPnl economics account positions portfolio := by
  obtain ⟨hready, hcarried, -⟩ := assemble_ready hassembly haccount
  obtain ⟨hpriced, r, hr, hsum⟩ := assessOpenRisk_ready hopen hready
  rw [hcarried] at hr
  cases hr
  rw [Rounding.sum_exact] at hsum
  have hclosing := sum_closingChange_ge heconomics hpriced
  rw [← hsum] at hclosing
  obtain ⟨rfl, rfl, -⟩ := RiskGate.evaluate_cases hrisk
  have hallocated := PortfolioSupervisor.allocated_le_of_evaluate hportfolio
  rw [Rounding.sum_exact, stage7SharedCapacity_exact] at hallocated
  have hopenRisk := risk.accountSnapshot.currentOpenRiskToStop.2
  unfold worstCaseDailyPnl
  have hbudget := budget_bound hopenRisk hallocated
  linarith

end

/-! ## Samples -/

/-- Every tick of every symbol is worth one. -/
def unitEconomics (_ : Symbol) : MT5SymbolFacts := ⟨1, 1⟩

/-- The tick economics the samples are assessed with. -/
def unitFacts : Dict Symbol MT5SymbolFacts := (∅ : Dict Symbol MT5SymbolFacts).insert btcusdt ⟨1, 1⟩

/-- A long position whose stop is at its entry and whose mark is far above. -/
def protectedLong : MT5Position where
  asOf := 0
  ticket := Nat.succPNat 0
  symbol := btcusdt
  side := .buy
  volume := ⟨1, by decide⟩
  priceOpen := ⟨100, by decide⟩
  priceCurrent := 200
  stopLoss := some (100 : ℕ)

/-- A long position whose stop is far below its mark. -/
def deepStopLong : MT5Position :=
  { protectedLong with priceOpen := ⟨500, by decide⟩, priceCurrent := 500 }

/-- A rollover at an equity of ten thousand. -/
def sampleRollover (floatingPnl : ℚ) : MT5RolloverSnapshot where
  asOf := 0
  rolloverOutcome := .ready
  rolloverState := some ⟨"2024-01-01", ⟨10000, by decide⟩⟩
  currentEquity := ⟨10000, by decide⟩
  floatingPnl
  state_iff := by decide

/-- A realized PnL of the same day. -/
def sampleRealized (realizedDailyPnl : ℚ) : MT5RealizedDailyPnLAssessment where
  asOf := 0
  tradingDayKey := "2024-01-01"
  outcome := .ready
  realizedDailyPnl := some realizedDailyPnl
  pnl_iff := by simp

/-- The assessment of a sample day. -/
def sampleOpenRisk (openRisk : {q : ℚ // 0 ≤ q}) : MT5OpenRiskAssessment where
  asOf := 0
  outcome := .ready
  currentOpenRiskToStop := some openRisk

/-- The account a sample day is assembled to. -/
def sampleAccount (realizedDailyPnl floatingPnl : ℚ) (openRisk : {q : ℚ // 0 ≤ q}) :
    AccountRiskSnapshot where
  asOf := 0
  rolloverEquity := ⟨10000, by decide⟩
  currentEquity := ⟨10000, by decide⟩
  realizedDailyPnl
  floatingPnl
  currentOpenRiskToStop := openRisk

theorem unitFacts_agree (s : Symbol) (f : MT5SymbolFacts) (h : unitFacts.lookup s = some f) :
    unitEconomics s = f := by
  rcases eq_or_ne s btcusdt with rfl | hne
  · rw [unitFacts, AList.lookup_insert] at h
    exact Option.some.inj h
  · rw [unitFacts, AList.lookup_insert_ne hne] at h
    cases h

theorem sampleAssembly (realizedDailyPnl floatingPnl : ℚ) (openRisk : {q : ℚ // 0 ≤ q}) :
    assembleAccountRiskSnapshot 0 (sampleRollover floatingPnl) (sampleRealized realizedDailyPnl)
        (sampleOpenRisk openRisk) =
      .ok ⟨0, .ready, some (sampleAccount realizedDailyPnl floatingPnl openRisk), []⟩ :=
  rfl

theorem protectedLong_openRisk :
    assessOpenRisk .exact 0 [protectedLong] unitFacts = .ok (sampleOpenRisk ⟨0, le_rfl⟩) := by
  decide +kernel

theorem deepStopLong_openRisk :
    assessOpenRisk .exact 0 [deepStopLong] unitFacts =
      .ok (sampleOpenRisk ⟨400, by decide⟩) := by
  decide +kernel

/-- With a protected position whose mark is a hundred above its stop the day's PnL stays above
minus the limit and the hundred. -/
theorem worst_case_daily_pnl_protected : ∃ risk portfolio,
    RiskGate.evaluate .exact PortfolioSupervisor.trendPolicy
      (sampleAccount (-200) 100 ⟨0, le_rfl⟩) [⟨.trendFollowing, 1⟩]
      PortfolioSupervisor.defaultConfig = .ok risk ∧
    PortfolioSupervisor.evaluate .exact risk = .ok portfolio ∧
    -250 ≤ worstCaseDailyPnl unitEconomics (sampleAccount (-200) 100 ⟨0, le_rfl⟩)
      [protectedLong] portfolio := by
  have hgate : ∃ risk, RiskGate.evaluate .exact PortfolioSupervisor.trendPolicy
      (sampleAccount (-200) 100 ⟨0, le_rfl⟩) [⟨.trendFollowing, 1⟩]
      PortfolioSupervisor.defaultConfig = .ok risk := RiskGate.evaluate_ok (by decide +kernel)
  obtain ⟨risk, hrisk⟩ := hgate
  obtain ⟨portfolio, hportfolio⟩ := PortfolioSupervisor.exists_evaluate_exact hrisk
  have hworst := worst_case_daily_pnl unitFacts_agree protectedLong_openRisk
    (sampleAssembly (-200) 100 _) rfl hrisk hportfolio
  have hbound : min (-dailyLossLimit (sampleAccount (-200) 100 ⟨0, le_rfl⟩)
      PortfolioSupervisor.defaultConfig) ((sampleAccount (-200) 100 ⟨0, le_rfl⟩).dailyPnl - 0) -
      ([protectedLong].map (protectedLoss unitEconomics)).sum = -250 := by decide +kernel
  exact ⟨risk, portfolio, hrisk, hportfolio, hbound.symm.trans_le hworst⟩

/-- A day on which the PnL at the marks is above minus the limit and the worst case below. -/
def BreaksLimit (position : MT5Position) (realizedDailyPnl floatingPnl : ℚ)
    (openRisk : {q : ℚ // 0 ≤ q}) : Prop :=
  ∃ risk portfolio,
    assessOpenRisk .exact 0 [position] unitFacts = .ok (sampleOpenRisk openRisk) ∧
    assembleAccountRiskSnapshot 0 (sampleRollover floatingPnl) (sampleRealized realizedDailyPnl)
        (sampleOpenRisk openRisk) =
      .ok ⟨0, .ready, some (sampleAccount realizedDailyPnl floatingPnl openRisk), []⟩ ∧
    RiskGate.evaluate .exact PortfolioSupervisor.trendPolicy
      (sampleAccount realizedDailyPnl floatingPnl openRisk) [⟨.trendFollowing, 1⟩]
      PortfolioSupervisor.defaultConfig = .ok risk ∧
    PortfolioSupervisor.evaluate .exact risk = .ok portfolio ∧
    -dailyLossLimit (sampleAccount realizedDailyPnl floatingPnl openRisk)
      PortfolioSupervisor.defaultConfig <
        (sampleAccount realizedDailyPnl floatingPnl openRisk).dailyPnl ∧
    worstCaseDailyPnl unitEconomics (sampleAccount realizedDailyPnl floatingPnl openRisk)
        [position] portfolio <
      -dailyLossLimit (sampleAccount realizedDailyPnl floatingPnl openRisk)
        PortfolioSupervisor.defaultConfig

theorem breaksLimit_of_worst {position : MT5Position} {realizedDailyPnl floatingPnl : ℚ}
    {openRisk : {q : ℚ // 0 ≤ q}}
    (hopen : assessOpenRisk .exact 0 [position] unitFacts = .ok (sampleOpenRisk openRisk))
    (habove : -dailyLossLimit (sampleAccount realizedDailyPnl floatingPnl openRisk)
      PortfolioSupervisor.defaultConfig <
        (sampleAccount realizedDailyPnl floatingPnl openRisk).dailyPnl)
    (hworst : (match RiskGate.evaluate .exact PortfolioSupervisor.trendPolicy
        (sampleAccount realizedDailyPnl floatingPnl openRisk) [⟨.trendFollowing, 1⟩]
        PortfolioSupervisor.defaultConfig with
      | .error _ => false
      | .ok risk =>
          match PortfolioSupervisor.evaluate .exact risk with
          | .error _ => false
          | .ok portfolio =>
              decide (worstCaseDailyPnl unitEconomics
                  (sampleAccount realizedDailyPnl floatingPnl openRisk) [position] portfolio <
                -dailyLossLimit (sampleAccount realizedDailyPnl floatingPnl openRisk)
                  PortfolioSupervisor.defaultConfig)) = true) :
    BreaksLimit position realizedDailyPnl floatingPnl openRisk := by
  split at hworst
  · cases hworst
  · next risk hrisk =>
      split at hworst
      · cases hworst
      · next portfolio hportfolio =>
          exact ⟨risk, portfolio, hopen, rfl, hrisk, hportfolio, habove,
            of_decide_eq_true hworst⟩

/-- A protected position takes the day below its limit, and so does an open risk that was already
deeper than the limit. -/
theorem stops_break_limit :
    BreaksLimit protectedLong (-200) 100 ⟨0, le_rfl⟩ ∧
      BreaksLimit deepStopLong 0 0 ⟨400, by decide⟩ :=
  ⟨breaksLimit_of_worst protectedLong_openRisk (by decide +kernel) (by decide +kernel),
    breaksLimit_of_worst deepStopLong_openRisk (by decide +kernel) (by decide +kernel)⟩

end TradingAdvisor
