import TradingAdvisor.Core.CivilTime
import TradingAdvisor.Core.JsonFields
import TradingAdvisor.Core.TextFile
import TradingAdvisor.Core.ZoneInfo
import TradingAdvisor.Decision.HighImpactEventGate

/-!
# The calendar file

One read of the file that the producer publishes. Any failure on the way makes the whole file
malformed: no part of it is trusted.

* `BridgeEventRecord`, `BridgeEventContext` — what is read;
* `parseEvent`, `parsePayload` — from JSON to events;
* `readHighImpactEventContext` — the read.
-/

namespace TradingAdvisor

open JsonText Keyed

/-- An event of the file: what the gate reads of it, with its tags and its name. -/
structure BridgeEventRecord extends HighImpactEventRecord where
  scope : List String := []
  name : NonemptyText

/-- What the read returns; it carries events only when it is fresh. -/
structure BridgeEventContext where
  events : List BridgeEventRecord := []
  dataQuality : HighImpactEventDataQuality
  producer : NonemptyText
  generatedAt : Option Timestamp := none
  fresh_of_events : events ≠ [] → dataQuality = .fresh
  generatedAt_eq_none : dataQuality = .unavailable ∨ dataQuality = .malformed →
    generatedAt = none

/-! ## Texts -/

/-- A character that is stripped from the ends of a text. -/
def IsWhitespace (c : Char) : Prop :=
  c.toNat ∈ [0x9, 0xa, 0xb, 0xc, 0xd, 0x20, 0x85, 0xa0, 0x1680, 0x2000, 0x2001, 0x2002, 0x2003,
    0x2004, 0x2005, 0x2006, 0x2007, 0x2008, 0x2009, 0x200a, 0x2028, 0x2029, 0x202f, 0x205f, 0x3000]

instance (c : Char) : Decidable (IsWhitespace c) := inferInstanceAs (Decidable (_ ∈ _))

/-- A text without its surrounding whitespace. -/
def stripped (s : List Char) : List Char :=
  ((s.dropWhile fun c => IsWhitespace c).reverse.dropWhile fun c => IsWhitespace c).reverse

/-- A text field of a record. -/
def modelText : Json → Option String
  | .str s => (toChars s).map fun cs => String.ofList (stripped cs)
  | _ => none

/-- A required text field of a record. -/
def requiredModelText (v : Json) : Option NonemptyText :=
  (modelText v).bind fun s => if h : s ≠ "" then some ⟨s, h⟩ else none

/-! ## Events -/

/-- The importance of an event. -/
def parseImportance : Json → Option HighImpactEventImportance
  | .str s =>
      if s = codePoints "NONE".toList then some .none
      else if s = codePoints "LOW".toList then some .low
      else if s = codePoints "MODERATE".toList then some .moderate
      else if s = codePoints "HIGH".toList then some .high
      else none
  | _ => none

/-- A server time, which has no zone. -/
def parseNaiveServerTimestamp (iso : IsoReader) : Json → Option ℤ
  | .str s =>
      if s = [] then none
      else
        match iso.fromisoformat s with
        | some (.naive wall) => some wall
        | _ => none
  | _ => none

/-- An instant, which has a zone. -/
def parseTimestamp (iso : IsoReader) : Json → Option Timestamp
  | .str s =>
      if s = [] then none
      else
        match iso.fromisoformat s with
        | some (.aware instant) => some instant
        | _ => none
  | _ => none

/-- A list. -/
def listField : Json → Option (List Json)
  | .arr items => some items
  | _ => none

/-- The audit field of an event, of which only the type is checked; a truth value is an integer. -/
def checkInteger : Json → Option Unit
  | .int _ => some ()
  | .bool _ => some ()
  | _ => none

/-- One event of the file. -/
def parseEvent (iso : IsoReader) (zone : ZoneInfo) : Json → Option BridgeEventRecord
  | .obj members => do
      let scopeRaw ← (field "scope" members).bind listField
      (field "observed_offset_seconds" members).bind checkInteger
      let naiveServerTime ← (field "event_time_server" members).bind
        (parseNaiveServerTimestamp iso)
      let eventTime ← (zone.resolveUnambiguousUtc naiveServerTime).toOption
      let importance ← (field "importance" members).bind parseImportance
      let providerEventId ← (field "provider_event_id" members).bind requiredModelText
      let scope ← scopeRaw.mapM modelText
      let eventCode ← (field "event_code" members).bind requiredModelText
      let name ← (field "name" members).bind requiredModelText
      return { providerEventId, eventTime, importance, scope, eventCode, name }
  | _ => none

/-- The schema version is two; a decimal that rounds to two counts. -/
def IsSupportedSchemaVersion : Json → Prop
  | .int n => n = 2
  | .float q => 2 - 1 / 2 ^ 53 ≤ q ∧ q ≤ 2 + 1 / 2 ^ 52
  | _ => False

instance (v : Json) : Decidable (IsSupportedSchemaVersion v) := by
  cases v with
  | int n => exact inferInstanceAs (Decidable (n = 2))
  | float q => exact inferInstanceAs (Decidable (_ ∧ _))
  | null | bool | nonFinite | str | arr | obj => exact instDecidableFalse

/-- A text that is not empty. -/
def nonemptyCodes : Json → Option (List ℕ)
  | .str s => if s = [] then none else some s
  | _ => none

/-- What a document holds. -/
structure BridgePayload where
  producer : List ℕ
  generatedAt : Timestamp
  events : List BridgeEventRecord

/-- The content of a document. -/
def parsePayload (iso : IsoReader) (zone : ZoneInfo) : Json → Option BridgePayload
  | .obj members => do
      let schemaVersion ← field "schema_version" members
      if IsSupportedSchemaVersion schemaVersion then
        let producer ← (field "producer" members).bind nonemptyCodes
        let generatedAt ← (field "generated_at" members).bind (parseTimestamp iso)
        let rawEvents ← (field "events" members).bind listField
        let events ← rawEvents.mapM (parseEvent iso zone)
        return { producer, generatedAt, events }
      else none
  | _ => none

/-! ## The read -/

/-- The result does not satisfy its own checks. -/
inductive BridgeReadError
  | validationError
  deriving DecidableEq, Repr

/-- The content of a file; none when anything about it fails. -/
def readPayload (iso : IsoReader) (zone : ZoneInfo) : FileRead → Option BridgePayload
  | .content bytes => do
      let text ← (readText bytes).toOption
      let payload ← loads text.toList
      parsePayload iso zone payload
  | _ => none

/-- A degraded result. -/
def degraded (quality : HighImpactEventDataQuality) (producer : NonemptyText) :
    BridgeEventContext where
  dataQuality := quality
  producer
  fresh_of_events h := absurd rfl h
  generatedAt_eq_none _ := rfl

/-- Read one bridge file. Without a timezone it is not opened. -/
def readHighImpactEventContext (iso : IsoReader) (file : FileRead) (asOf : Timestamp)
    (stalenessThreshold : ℤ) (timezone : Option ZoneInfo) (producerFallback : NonemptyText) :
    Except BridgeReadError BridgeEventContext :=
  match timezone, file with
  | none, _ => .ok (degraded .unavailable producerFallback)
  | _, .fileNotFound => .ok (degraded .unavailable producerFallback)
  | some zone, file =>
      match readPayload iso zone file with
      | none => .ok (degraded .malformed producerFallback)
      | some payload =>
          match requiredModelText (.str payload.producer) with
          | none => .error .validationError
          | some producer =>
              if stalenessThreshold < asOf - payload.generatedAt then
                .ok {
                  dataQuality := .stale
                  producer
                  generatedAt := some payload.generatedAt
                  fresh_of_events := fun h => absurd rfl h
                  generatedAt_eq_none := by rintro (h | h) <;> cases h }
              else
                .ok {
                  events := payload.events
                  dataQuality := .fresh
                  producer
                  generatedAt := some payload.generatedAt
                  fresh_of_events := fun _ => rfl
                  generatedAt_eq_none := by rintro (h | h) <;> cases h }

end TradingAdvisor
