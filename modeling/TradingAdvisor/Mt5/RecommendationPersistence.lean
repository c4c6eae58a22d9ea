import TradingAdvisor.Core.Strategy
import TradingAdvisor.Core.TextFile
import TradingAdvisor.Lib.VersionedStore
import TradingAdvisor.Mt5.Tracker
import Mathlib.Data.String.Basic

/-!
# Documents on disk

A document of a store is a file named by its trade id. A read turns what the file system answers
into a typed state: the bytes are decoded, parsed and validated.

* `MT5RecommendationPersistence.read`, `MT5RecommendationProvenancePersistence.read` — the reads of
  the two stores;
* **`readDocument_ok_iff`**: a read is typed exactly for text in UTF-8.
-/

namespace TradingAdvisor

open Checks VersionedStore

/-- The platform, for its path separators. -/
inductive Platform
  | posix
  | windows
  deriving DecidableEq, Repr

/-- The separators of path components. -/
def Platform.separators : Platform → List Char
  | posix => ['/']
  | windows => ['\\', '/']

/-- The trade id can be a file name. -/
def IsSafeTradeId (platform : Platform) (tradeId : TradeId) : Prop :=
  tradeId.val ∉ [".", ".."] ∧ ∀ c ∈ platform.separators, c ∉ tradeId.val.toList

instance (platform : Platform) (tradeId : TradeId) : Decidable (IsSafeTradeId platform tradeId) :=
  inferInstanceAs (Decidable (_ ∧ _))

/-- The files of a directory, by the stems of their names. -/
abbrev DocumentDirectory := Dict TradeId FileRead

/-- What a store observed of a document. -/
inductive PersistedRead (α : Type)
  | absent
  | valid (document : α)
  | corrupt
  | unavailable

variable {α : Type}

/-- Read one document; `modelValidateJson` fails with a validation error. -/
def readDocument (modelValidateJson : String → Option α) (platform : Platform)
    (directory : DocumentDirectory) (tradeId : TradeId) :
    Except ReadException (PersistedRead α) :=
  if IsSafeTradeId platform tradeId then
    match (directory.lookup tradeId).getD .fileNotFound with
    | .fileNotFound => .ok .absent
    | .osError => .ok .unavailable
    | .content bytes => do
        let rawText ← readText bytes
        match modelValidateJson rawText with
        | some document => return .valid document
        | none => return .corrupt
  else .ok .unavailable

/-- Write one document; `modelDumpJson` is its text. -/
def writeDocument (modelDumpJson : α → String) (directory : DocumentDirectory)
    (tradeId : TradeId) (document : α) : DocumentDirectory :=
  directory.insert tradeId (.content (modelDumpJson document).toUTF8)

/-- The trade ids of a directory, sorted. -/
def listTradeIds (directory : DocumentDirectory) : List TradeId :=
  directory.keys.insertionSort (· ≤ ·)

section Read

variable {validate : String → Option α} {platform : Platform} {directory : DocumentDirectory}
  {tradeId other : TradeId} {bytes : ByteArray} {file : FileRead}

theorem readDocument_insert_ne (h : other ≠ tradeId) :
    readDocument validate platform (directory.insert tradeId file) other =
      readDocument validate platform directory other := by
  rw [readDocument, readDocument, AList.lookup_insert_ne h]

/-- **A read is typed exactly for text in UTF-8**, or where the name of the file is not safe. -/
theorem readDocument_ok_iff (h : directory.lookup tradeId = some (.content bytes)) :
    (∃ result, readDocument validate platform directory tradeId = .ok result) ↔
      (IsSafeTradeId platform tradeId → bytes.IsValidUTF8) := by
  unfold readDocument
  rw [h]
  by_cases hsafe : IsSafeTradeId platform tradeId
  · rw [if_pos hsafe, forall_prop_of_true hsafe, ← readText_ok_iff]
    show (∃ result, (readText bytes >>= _) = .ok result) ↔ _
    rcases readText bytes with error | text
    · refine iff_of_false ?_ ?_ <;> rintro ⟨result, hok⟩ <;> cases hok
    · refine iff_of_true ?_ ⟨text, rfl⟩
      rcases hdocument : validate text with _ | document
      · exact ⟨.corrupt, bind_ok_iff.mpr ⟨text, rfl, by rw [hdocument]; rfl⟩⟩
      · exact ⟨.valid document, bind_ok_iff.mpr ⟨text, rfl, by rw [hdocument]; rfl⟩⟩
  · rw [if_neg hsafe]
    exact iff_of_true ⟨.unavailable, rfl⟩ fun h => absurd h hsafe

/-- A document that is read has passed the validation of its text. -/
theorem exists_text_of_readDocument {document : α}
    (h : readDocument validate platform directory tradeId = .ok (.valid document)) :
    ∃ text, validate text = some document := by
  unfold readDocument at h
  split_ifs at h with hsafe
  · split at h
    · cases h
    · cases h
    · obtain ⟨text, -, h⟩ := bind_ok_iff.mp h
      rcases hdocument : validate text with _ | found <;> rw [hdocument] at h <;> cases h
      exact ⟨text, hdocument⟩
  · cases h

end Read

/-! ## The two stores -/

/-- What is kept of a recommendation besides its tracking. -/
structure FinalRecommendationProvenance where
  tradeId : TradeId
  family : StrategyFamily
  approvedRiskAmount : PositiveRat
  accountCurrency : NonemptyText

variable (platform : Platform) (directory : DocumentDirectory) (tradeId : TradeId)

/-- Read one tracking document. -/
def MT5RecommendationPersistence.read
    (modelValidateJson : String → Option MT5TrackedRecommendation) :
    Except ReadException (PersistedRead MT5TrackedRecommendation) :=
  readDocument modelValidateJson platform directory tradeId

/-- Write one tracking document. -/
def MT5RecommendationPersistence.write (modelDumpJson : MT5TrackedRecommendation → String)
    (tracked : MT5TrackedRecommendation) : DocumentDirectory :=
  writeDocument modelDumpJson directory tradeId tracked

/-- Read one provenance document. -/
def MT5RecommendationProvenancePersistence.read
    (modelValidateJson : String → Option FinalRecommendationProvenance) :
    Except ReadException (PersistedRead FinalRecommendationProvenance) :=
  readDocument modelValidateJson platform directory tradeId

end TradingAdvisor
