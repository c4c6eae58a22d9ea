import Mathlib.Data.List.Dedup
import Mathlib.Data.List.Sort
import Mathlib.Data.Prod.Lex
import TradingAdvisor.Core.Strategy

/-!
# Judge verdicts

A verdict names an outcome, a direction exactly when the outcome is directional, and the
observations it rests on. References are kept in canonical order without duplicates.

* `canonicalize` — the canonical order;
* `JudgeFamilyResult.validate` — the validators of a verdict;
* `JudgeVerdict.Grounded`, `construct_ok_iff` — which verdicts on canonical references are
  accepted.
-/

namespace TradingAdvisor

open Checks

/-- Role of a cited observation within a verdict. -/
inductive EvidenceRole
  | primary
  | corroborating
  deriving DecidableEq, Repr

/-- The contour a reference points into. -/
inductive JudgeContour
  | technical
  | flow
  | external
  deriving DecidableEq, Repr

/-- Verdict of evidence interpretation for one family. -/
inductive JudgeOutcome
  | directional
  | mixed
  | insufficientEvidence
  deriving DecidableEq, Repr

/-- The value of an outcome in messages. -/
def JudgeOutcome.value : JudgeOutcome → String
  | directional => "DIRECTIONAL"
  | mixed => "MIXED"
  | insufficientEvidence => "INSUFFICIENT_EVIDENCE"

/-- Position in declaration order. -/
def JudgeContour.index : JudgeContour → ℕ
  | technical => 0
  | flow => 1
  | external => 2

/-- Position in declaration order. -/
def EvidenceRole.index : EvidenceRole → ℕ
  | primary => 0
  | corroborating => 1

/-- One typed pointer to an upstream observation. -/
structure JudgeEvidenceRef where
  contour : JudgeContour
  role : EvidenceRole
  analystResultIndex : ℕ
  observationIndex : ℕ
  deriving DecidableEq, Repr

/-- The key of the canonical order. -/
def JudgeEvidenceRef.key (ref : JudgeEvidenceRef) : ℕ ×ₗ ℕ ×ₗ ℕ ×ₗ ℕ :=
  toLex (ref.contour.index, toLex (ref.role.index,
    toLex (ref.analystResultIndex, ref.observationIndex)))

theorem JudgeContour.index_injective : Function.Injective JudgeContour.index := by
  intro c c' h
  cases c <;> cases c' <;> first | rfl | cases h

theorem EvidenceRole.index_injective : Function.Injective EvidenceRole.index := by
  intro r r' h
  cases r <;> cases r' <;> first | rfl | cases h

theorem JudgeEvidenceRef.key_injective : Function.Injective JudgeEvidenceRef.key := by
  rintro ⟨c, r, i, j⟩ ⟨c', r', i', j'⟩ h
  have hc := Prod.ext_iff.mp (toLex_inj.mp h)
  have hr := Prod.ext_iff.mp (toLex_inj.mp hc.2)
  have hi := Prod.ext_iff.mp (toLex_inj.mp hr.2)
  obtain rfl := JudgeContour.index_injective hc.1
  obtain rfl := EvidenceRole.index_injective hr.1
  obtain rfl : i = i' := hi.1
  obtain rfl : j = j' := hi.2
  rfl

/-- Canonical order without duplicates. -/
def canonicalize (refs : List JudgeEvidenceRef) : List JudgeEvidenceRef :=
  refs.dedup.insertionSort fun a b => a.key ≤ b.key

theorem mem_canonicalize {ref : JudgeEvidenceRef} {refs : List JudgeEvidenceRef} :
    ref ∈ canonicalize refs ↔ ref ∈ refs := by
  rw [canonicalize, List.mem_insertionSort, List.mem_dedup]

theorem canonicalize_nodup (refs : List JudgeEvidenceRef) : (canonicalize refs).Nodup :=
  (List.perm_insertionSort _ _).nodup_iff.mpr refs.nodup_dedup

theorem canonicalize_sorted (refs : List JudgeEvidenceRef) :
    (canonicalize refs).Pairwise fun a b => a.key ≤ b.key := by
  have : Std.Total fun a b : JudgeEvidenceRef => a.key ≤ b.key := ⟨fun a b => le_total a.key b.key⟩
  have : IsTrans JudgeEvidenceRef fun a b => a.key ≤ b.key := ⟨fun _ _ _ => le_trans⟩
  exact List.pairwise_insertionSort _ _

theorem two_le_length {α : Type} {l : List α} {a b : α} (ha : a ∈ l) (hb : b ∈ l)
    (hab : a ≠ b) : 2 ≤ l.length := by
  have hsub : [a, b] ⊆ l := by
    intro x hx
    rcases List.mem_pair.mp hx with rfl | rfl
    · exact ha
    · exact hb
  have hnodup : [a, b].Nodup := List.nodup_cons.mpr ⟨by simpa using hab, List.nodup_singleton b⟩
  exact (List.subperm_of_subset hnodup hsub).length_le

theorem two_le_canonicalize {a b : JudgeEvidenceRef} {refs : List JudgeEvidenceRef} (ha : a ∈ refs)
    (hb : b ∈ refs) (hab : a ≠ b) : 2 ≤ (canonicalize refs).length :=
  two_le_length (mem_canonicalize.mpr ha) (mem_canonicalize.mpr hb) hab

theorem length_canonicalize {refs : List JudgeEvidenceRef} (h : refs.Nodup) :
    (canonicalize refs).length = refs.length := by
  rw [canonicalize, List.length_insertionSort, h.dedup]

/-- What the judge concludes about one family. -/
structure JudgeVerdict where
  outcome : JudgeOutcome
  direction : Option DirectionalCandidate := none
  evidenceRefs : List JudgeEvidenceRef := []
  deriving DecidableEq, Repr

/-- One eligible family's verdict. -/
structure JudgeFamilyResult extends JudgeVerdict where
  family : StrategyFamily
  deriving DecidableEq, Repr

/-- What the judge can raise. -/
inductive JudgeError
  | validation (message : String)
  | unavailableContour (contour : JudgeContour) (family : StrategyFamily)
  | invalidResultIndex (index : ℕ) (contour : JudgeContour)
  | invalidObservationIndex (index : ℕ) (contour : JudgeContour) (resultIndex : ℕ)
  | indexError
  deriving DecidableEq, Repr

namespace JudgeFamilyResult

/-- A direction exists exactly for a directional outcome. -/
def checkDirection (result : JudgeFamilyResult) : Except JudgeError Unit :=
  if result.outcome = .directional then
    check result.direction.isSome
      (.validation "DIRECTIONAL outcome requires a non-None direction")
  else
    check (result.direction = none)
      (.validation (result.outcome.value ++ " outcome must not carry a direction"))

/-- The validators of a verdict, in order. -/
def validate (result : JudgeFamilyResult) : Except JudgeError Unit := do
  checkDirection result
  check (¬ (result.outcome = .insufficientEvidence ∧ result.evidenceRefs ≠ []))
    (.validation "INSUFFICIENT_EVIDENCE must not carry evidence_refs")
  check (result.outcome = .directional → ∃ ref ∈ result.evidenceRefs, ref.role = .primary)
    (.validation "DIRECTIONAL outcome requires at least one PRIMARY evidence_ref")
  check (¬ (result.outcome = .mixed ∧ result.evidenceRefs.length < 2))
    (.validation "MIXED outcome requires at least two evidence_refs demonstrating a conflict")
  let keys := result.evidenceRefs.map JudgeEvidenceRef.key
  check (keys = keys.insertionSort (· ≤ ·))
    (.validation ("evidence_refs must be in canonical (contour, role, analyst_result_index, " ++
      "observation_index) order"))
  check (keys.dedup.length = keys.length)
    (.validation "evidence_refs must not contain duplicates")

/-- Construct a family's verdict. -/
def construct (family : StrategyFamily) (verdict : JudgeVerdict) :
    Except JudgeError JudgeFamilyResult := do
  let result : JudgeFamilyResult := { verdict with family }
  result.validate
  return result

theorem construct_ok {family : StrategyFamily} {verdict : JudgeVerdict}
    {result : JudgeFamilyResult} (h : construct family verdict = .ok result) :
    result = { verdict with family } := by
  obtain ⟨-, h⟩ := unit_bind_ok_iff.mp h
  cases h
  rfl

/-- The outcome agrees with the direction and with the references. -/
structure Grounded (verdict : JudgeVerdict) : Prop where
  direction : verdict.direction.isSome ↔ verdict.outcome = .directional
  insufficient : verdict.outcome = .insufficientEvidence → verdict.evidenceRefs = []
  directional : verdict.outcome = .directional → ∃ ref ∈ verdict.evidenceRefs, ref.role = .primary
  mixed : verdict.outcome = .mixed → 2 ≤ verdict.evidenceRefs.length

theorem checkDirection_ok_iff {result : JudgeFamilyResult} :
    checkDirection result = .ok () ↔
      (result.direction.isSome ↔ result.outcome = .directional) := by
  unfold checkDirection
  by_cases h : result.outcome = .directional
  · rw [if_pos h, check_ok_iff]
    simp [h]
  · rw [if_neg h, check_ok_iff]
    simp [h]

theorem keys_canonicalize (refs : List JudgeEvidenceRef) :
    (canonicalize refs).map JudgeEvidenceRef.key =
      ((canonicalize refs).map JudgeEvidenceRef.key).insertionSort (· ≤ ·) := by
  have hsorted : ((canonicalize refs).map JudgeEvidenceRef.key).Pairwise (· ≤ ·) :=
    List.pairwise_map.mpr (canonicalize_sorted refs)
  exact hsorted.insertionSort_eq.symm

/-- **A verdict on canonical references is accepted exactly when it is grounded.** -/
theorem construct_ok_iff {family : StrategyFamily} {verdict : JudgeVerdict}
    {refs : List JudgeEvidenceRef} (hrefs : verdict.evidenceRefs = canonicalize refs) :
    (construct family verdict).isOk = true ↔ Grounded verdict := by
  have hnodup : (verdict.evidenceRefs.map JudgeEvidenceRef.key).Nodup := by
    rw [hrefs]
    exact (canonicalize_nodup refs).map JudgeEvidenceRef.key_injective
  have hsorted := keys_canonicalize refs
  rw [← hrefs] at hsorted
  rw [isOk_iff, construct]
  simp only [unit_bind_ok_iff, validate, check_ok_iff, checkDirection_ok_iff]
  constructor
  · rintro ⟨_, ⟨hdir, hins, hprim, hmix, -, -⟩, -⟩
    exact ⟨hdir, fun h => not_not.mp fun hne => hins ⟨h, hne⟩, hprim,
      fun h => not_lt.mp fun hlt => hmix ⟨h, hlt⟩⟩
  · intro h
    exact ⟨_, ⟨h.direction, fun hc => hc.2 (h.insufficient hc.1), h.directional,
      fun hc => absurd (h.mixed hc.1) (not_le.mpr hc.2), hsorted, by rw [hnodup.dedup]⟩, rfl⟩

end JudgeFamilyResult

end TradingAdvisor
