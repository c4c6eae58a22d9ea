import TradingAdvisor.Mt5.History
import TradingAdvisor.Mt5.OpenRisk
import TradingAdvisor.Mt5.Rollover
import TradingAdvisor.Risk.RiskGate

/-!
# Runtime fact assembly

Assembles the account snapshot of the risk gate from the rollover snapshot, the realized PnL and
the open risk of one cycle. Nothing is assembled unless all three are usable and coherent.

* `assembleAccountRiskSnapshot` — the assembly;
* `assemble_ready` — the figures a ready assembly carries.
-/

namespace TradingAdvisor

open Checks

/-- The realized PnL of one broker trading day. -/
structure MT5RealizedDailyPnLAssessment where
  asOf : Timestamp
  tradingDayKey : String
  outcome : MT5RealizedPnLOutcome
  realizedDailyPnl : Option ℚ
  pnl_iff : realizedDailyPnl.isSome ↔ outcome = .ready

/-- Coarse result of an assembly. -/
inductive RuntimeFactAssemblyOutcome
  | ready
  | blocked
  deriving DecidableEq, Repr

/-- Why nothing was assembled. -/
inductive RuntimeFactAssemblyBlockReason
  | rolloverUnavailable
  | realizedPnlUnavailable
  | openRiskUnavailable
  | timestampMismatch
  deriving DecidableEq, Repr

/-- One assembly attempt. -/
structure AccountRiskSnapshotAssembly where
  asOf : Timestamp
  outcome : RuntimeFactAssemblyOutcome
  accountSnapshot : Option AccountRiskSnapshot
  reasons : List RuntimeFactAssemblyBlockReason
  deriving DecidableEq

/-- All three facts were taken at `asOf`, for the same trading day. -/
def TimestampsCoherent (asOf : Timestamp) (rollover : MT5RolloverSnapshot)
    (realized : MT5RealizedDailyPnLAssessment) (openRisk : MT5OpenRiskAssessment) : Prop :=
  rollover.asOf = asOf ∧ realized.asOf = asOf ∧ openRisk.asOf = asOf ∧
    ∀ state ∈ rollover.rolloverState, state.tradingDayKey = realized.tradingDayKey

instance (asOf : Timestamp) (rollover : MT5RolloverSnapshot)
    (realized : MT5RealizedDailyPnLAssessment) (openRisk : MT5OpenRiskAssessment) :
    Decidable (TimestampsCoherent asOf rollover realized openRisk) :=
  inferInstanceAs (Decidable (_ ∧ _ ∧ _ ∧ ∀ state ∈ rollover.rolloverState, _))

/-- The reasons against an assembly, in declaration order. -/
def assemblyReasons (asOf : Timestamp) (rollover : MT5RolloverSnapshot)
    (realized : MT5RealizedDailyPnLAssessment) (openRisk : MT5OpenRiskAssessment) :
    List RuntimeFactAssemblyBlockReason :=
  (if rollover.rolloverOutcome.Usable then [] else [.rolloverUnavailable]) ++
    (if realized.outcome = .ready then [] else [.realizedPnlUnavailable]) ++
    (if openRisk.outcome = .ready then [] else [.openRiskUnavailable]) ++
    (if TimestampsCoherent asOf rollover realized openRisk then [] else [.timestampMismatch])

/-- The assembly. -/
def assembleAccountRiskSnapshot (asOf : Timestamp) (rollover : MT5RolloverSnapshot)
    (realized : MT5RealizedDailyPnLAssessment) (openRisk : MT5OpenRiskAssessment) :
    Except ModelError AccountRiskSnapshotAssembly :=
  let reasons := assemblyReasons asOf rollover realized openRisk
  if reasons ≠ [] then
    .ok { asOf, outcome := .blocked, accountSnapshot := none, reasons }
  else
    match rollover.rolloverState, realized.realizedDailyPnl, openRisk.currentOpenRiskToStop with
    | some state, some realizedDailyPnl, some currentOpenRiskToStop =>
        .ok
          { asOf, outcome := .ready, reasons := []
            accountSnapshot := some
              { asOf
                rolloverEquity := state.rolloverEquity
                currentEquity := rollover.currentEquity
                realizedDailyPnl
                floatingPnl := rollover.floatingPnl
                currentOpenRiskToStop } }
    | _, _, _ => .error .assertion

variable {asOf : Timestamp} {rollover : MT5RolloverSnapshot}
  {realized : MT5RealizedDailyPnLAssessment} {openRisk : MT5OpenRiskAssessment}

/-- A ready assembly carries the three facts unchanged, all of them usable. -/
theorem assemble_ready {assembly : AccountRiskSnapshotAssembly} {account : AccountRiskSnapshot}
    (h : assembleAccountRiskSnapshot asOf rollover realized openRisk = .ok assembly)
    (haccount : assembly.accountSnapshot = some account) :
    openRisk.outcome = .ready ∧
      openRisk.currentOpenRiskToStop = some account.currentOpenRiskToStop ∧
      realized.realizedDailyPnl = some account.realizedDailyPnl ∧
      account.floatingPnl = rollover.floatingPnl ∧
      account.currentEquity = rollover.currentEquity ∧
      ∃ state ∈ rollover.rolloverState, account.rolloverEquity = state.rolloverEquity := by
  dsimp only [assembleAccountRiskSnapshot] at h
  split_ifs at h with hreasons
  · cases h
    cases haccount
  · split at h
    · next state pnl risk hstate hpnl hrisk =>
        cases h
        cases haccount
        refine ⟨?_, hrisk, hpnl, rfl, rfl, state, hstate, rfl⟩
        rw [not_not, assemblyReasons, List.append_eq_nil_iff, List.append_eq_nil_iff] at hreasons
        by_contra hready
        simp [hready] at hreasons
    · cases h

end TradingAdvisor
