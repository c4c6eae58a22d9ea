import TradingAdvisor.Core.Text
import TradingAdvisor.MarketEvaluation.Supervisor

/-!
# The flow contour

The engine keeps one history per upper-case symbol and composes a snapshot from it; six analysts
interpret the snapshot and the supervisor aggregates their results. What the calculators and the
analysts compute is a parameter; which identity they stamp is not.

* `FlowFeatureEngine.buildSnapshot` — the snapshot of one symbol;
* `buildFlowResult` — the result of the contour;
* `buildFlowResult_identity` — **it carries the upper-case symbol and the time of the request**.
-/

namespace TradingAdvisor

open Checks VersionedStore

/-- The specialists of the flow contour. -/
inductive FlowAnalystType
  | takerFlow
  | liquidation
  | orderBookLiquidity
  | openInterest
  | funding
  | priceFlowRelationship
  deriving DecidableEq, Repr

/-- The specialists in their canonical order. -/
def defaultExpectedAnalysts : List FlowAnalystType :=
  [.takerFlow, .liquidation, .orderBookLiquidity, .openInterest, .funding, .priceFlowRelationship]

/-- What the results about one snapshot have in common. -/
structure FlowIdentity where
  symbol : Symbol
  contractType : ContractType
  observationTime : Timestamp
  windows : List AnalyticsWindow
  deriving DecidableEq

/-- Synchronized, multi-window flow snapshot. -/
structure FlowFeatureSnapshot (B : Type) where
  identity : FlowIdentity
  blocks : B
  provenance : List (String × String)

/-- Why a contour has no result. -/
inductive ContourError (κ : Type)
  | invalidSymbol
  | misalignedCandle
  | duplicateCandleTimestamp
  | supervisorInput (error : SupervisorInputError κ)
  deriving DecidableEq

/-- Read the error of the supervisor as one of the contour. -/
def supervised {κ α : Type} : Except (SupervisorInputError κ) α → Except (ContourError κ) α
  | .ok a => .ok a
  | .error e => .error (.supervisorInput e)

theorem supervised_ok_iff {κ α : Type} {x : Except (SupervisorInputError κ) α} {a : α} :
    supervised x = .ok a ↔ x = .ok a := by
  cases x <;> simp [supervised]

/-- A model accepts the symbol. -/
def validSymbol {κ : Type} (s : String) : Except (ContourError κ) Symbol :=
  match toSymbol s with
  | some symbol => .ok symbol
  | none => .error .invalidSymbol

theorem validSymbol_ok_iff {κ : Type} {s : String} {symbol : Symbol} :
    (validSymbol s : Except (ContourError κ) Symbol) = .ok symbol ↔ symbol.val = s := by
  rw [← toSymbol_eq_some, validSymbol]
  cases toSymbol s <;> simp

/-- The retained history, the calculators over it and the interpretation of the analysts. -/
structure FlowComponents (H B : Type) where
  withCapacity : H
  compute : Symbol → ContractType → Timestamp → List AnalyticsWindow → H → B
  provenance : B → List (String × String)
  append : H → FlowFeatureSnapshot B → H
  interpret : FlowAnalystType → FlowFeatureSnapshot B →
    AnalystOutcome × FeatureQuality × List (String × String)

/-- Bounded history per symbol and contract type. -/
structure FlowFeatureEngine (H : Type) where
  windows : List AnalyticsWindow
  state : Dict (String × ContractType) H

variable {H B : Type} (m : CaseMapping) (c : FlowComponents H B)

/-- The history of one symbol; an empty one at first. -/
def FlowFeatureEngine.historyFor (engine : FlowFeatureEngine H) (symbol : String)
    (contractType : ContractType) : H :=
  (engine.state.lookup (m.upper symbol, contractType)).getD c.withCapacity

/-- Compose one synchronized snapshot from the retained history. -/
def FlowFeatureEngine.buildSnapshot (engine : FlowFeatureEngine H) (symbol : String)
    (contractType : ContractType) (observationTime : Timestamp) :
    Except (ContourError FlowAnalystType) (FlowFeatureSnapshot B × FlowFeatureEngine H) := do
  let symbol := m.upper symbol
  let history := engine.historyFor m c symbol contractType
  let stamped ← validSymbol symbol
  let blocks := c.compute stamped contractType observationTime engine.windows history
  let snapshot : FlowFeatureSnapshot B := {
    identity := { symbol := stamped, contractType, observationTime, windows := engine.windows }
    blocks
    provenance := c.provenance blocks }
  let state := engine.state.insert (m.upper symbol, contractType) (c.append history snapshot)
  return (snapshot, { engine with state })

/-- One specialist on one snapshot. -/
def FlowComponents.analyze (snapshot : FlowFeatureSnapshot B) (analyst : FlowAnalystType) :
    AnalystResult FlowAnalystType FlowIdentity :=
  let (status, quality, provenance) := c.interpret analyst snapshot
  { key := analyst, identity := snapshot.identity, status, quality, provenance }

/-- Aggregation over the flow analysts. -/
def FlowSupervisor.aggregate (results : List (AnalystResult FlowAnalystType FlowIdentity)) :
    Except (SupervisorInputError FlowAnalystType)
      (SupervisorResult FlowAnalystType FlowIdentity) :=
  TradingAdvisor.aggregate defaultExpectedAnalysts
    (fun key => if key ∈ defaultExpectedAnalysts then none else some (.unexpectedAnalyst key))
    results (inOrder defaultExpectedAnalysts results)

/-- Build the current flow result from what is retained. -/
def buildFlowResult (engine : FlowFeatureEngine H) (symbol : String) (contractType : ContractType)
    (asOf : Timestamp) : Except (ContourError FlowAnalystType)
      (SupervisorResult FlowAnalystType FlowIdentity × FlowFeatureEngine H) := do
  let (snapshot, engine) ← engine.buildSnapshot m c symbol contractType asOf
  let results := defaultExpectedAnalysts.map (c.analyze snapshot)
  let flow ← supervised (FlowSupervisor.aggregate results)
  return (flow, engine)

variable {m c} {engine engine' : FlowFeatureEngine H} {symbol : String}
  {contractType : ContractType} {asOf : Timestamp}

theorem FlowFeatureEngine.buildSnapshot_ok {snapshot : FlowFeatureSnapshot B}
    (h : engine.buildSnapshot m c symbol contractType asOf = .ok (snapshot, engine')) :
    snapshot.identity.symbol.val = m.upper symbol ∧
      snapshot.identity.contractType = contractType ∧
      snapshot.identity.observationTime = asOf := by
  obtain ⟨stamped, hstamped, h⟩ := bind_ok_iff.mp h
  cases h
  exact ⟨validSymbol_ok_iff.mp hstamped, rfl, rfl⟩

/-- **The contour stamps the upper-case symbol and the time of the request.** -/
theorem buildFlowResult_identity {flow : SupervisorResult FlowAnalystType FlowIdentity}
    (h : buildFlowResult m c engine symbol contractType asOf = .ok (flow, engine')) :
    flow.identity.symbol.val = m.upper symbol ∧ flow.identity.contractType = contractType ∧
      flow.identity.observationTime = asOf := by
  obtain ⟨⟨snapshot, engine₁⟩, hsnap, h⟩ := bind_ok_iff.mp h
  obtain ⟨flow', hflow, h⟩ := bind_ok_iff.mp h
  cases h
  obtain ⟨result, hmem, hid⟩ := aggregate_identity (supervised_ok_iff.mp hflow)
  obtain ⟨analyst, -, rfl⟩ := List.mem_map.mp (mem_of_mem_inOrder hmem)
  rw [hid]
  exact FlowFeatureEngine.buildSnapshot_ok hsnap

end TradingAdvisor
