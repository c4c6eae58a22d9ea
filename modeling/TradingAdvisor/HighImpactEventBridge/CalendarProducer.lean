import TradingAdvisor.Core.CivilTime
import TradingAdvisor.Lib.Json

/-!
# The calendar producer

The expert advisor of the terminal looks up the events of the economic calendar, keeps those that
its table knows, and publishes them as one JSON document, which it puts together from strings.

* `highImpactEventMap`, `tryResolve` — the table;
* `CalendarSnapshot.mapped` — the events that are kept;
* `documentText`, `publishedBytes` — the document;
* `jsonEscapeText_eq`, `serverTimeToNaiveIsoText_eq` — what the string replacements do.
-/

namespace TradingAdvisor

open DecimalDigits JsonText

/-! ## The calendar -/

/-- A point in time of the terminal: seconds since 1970, up to the end of the year 3000. -/
abbrev MqlDatetime := {t : ℕ // t < 32535216000}

/-- Importance of a calendar event. -/
inductive CalendarImportance
  | none
  | low
  | moderate
  | high
  deriving DecidableEq, Repr

/-- One scheduled value of an event. -/
structure MqlCalendarValue where
  id : UInt64
  eventId : UInt64
  time : MqlDatetime

/-- The description of an event. -/
structure MqlCalendarEvent where
  id : UInt64
  countryId : UInt64
  importance : CalendarImportance
  eventCode : String
  name : String

/-- The country of an event. -/
structure MqlCalendarCountry where
  currency : String
  code : String

/-- An entry of the table: the identity of a provider's event and its canonical code. -/
structure HighImpactEventMapEntry where
  eventCode : String
  currency : String
  countryCode : String
  countryId : ℤ
  canonicalCode : String

/-- The events that are published. -/
def highImpactEventMap : List HighImpactEventMapEntry :=
  [⟨"consumer-price-index-mm", "USD", "US", 840, "US_CPI"⟩,
    ⟨"consumer-price-index-yy", "USD", "US", 840, "US_CPI"⟩,
    ⟨"consumer-price-index-ex-food-energy-mm", "USD", "US", 840, "US_CORE_CPI"⟩,
    ⟨"consumer-price-index-ex-food-energy-yy", "USD", "US", 840, "US_CORE_CPI"⟩,
    ⟨"pce-price-index-mm", "USD", "US", 840, "US_PCE"⟩,
    ⟨"pce-price-index-yy", "USD", "US", 840, "US_PCE"⟩,
    ⟨"core-pce-price-index-mm", "USD", "US", 840, "US_CORE_PCE"⟩,
    ⟨"core-pce-price-index-yy", "USD", "US", 840, "US_CORE_PCE"⟩,
    ⟨"nonfarm-payrolls", "USD", "US", 840, "US_NFP"⟩,
    ⟨"unemployment-rate", "USD", "US", 840, "US_UNEMPLOYMENT"⟩,
    ⟨"ecb-deposit-rate-decision", "EUR", "EU", 999, "ECB_RATE_DECISION"⟩,
    ⟨"ecb-interest-rate-decision", "EUR", "EU", 999, "ECB_RATE_DECISION"⟩,
    ⟨"consumer-price-index-yy", "EUR", "EU", 999, "EUROZONE_CPI"⟩,
    ⟨"boe-interest-rate-decision", "GBP", "GB", 826, "BOE_RATE_DECISION"⟩,
    ⟨"cpi-yy", "GBP", "GB", 826, "UK_CPI"⟩,
    ⟨"boj-interest-rate-decision", "JPY", "JP", 392, "BOJ_RATE_DECISION"⟩,
    ⟨"eia-crude-oil-stocks-change", "USD", "US", 840, "EIA_CRUDE_INVENTORIES"⟩,
    ⟨"gross-domestic-product-qq", "USD", "US", 840, "US_GDP"⟩,
    ⟨"ism-manufacturing-pmi", "USD", "US", 840, "US_ISM"⟩,
    ⟨"ism-non-manufacturing-pmi", "USD", "US", 840, "US_ISM"⟩,
    ⟨"markit-manufacturing-pmi", "USD", "US", 840, "US_MAJOR_PMI"⟩,
    ⟨"markit-services-pmi", "USD", "US", 840, "US_MAJOR_PMI"⟩,
    ⟨"markit-composite-pmi", "USD", "US", 840, "US_MAJOR_PMI"⟩,
    ⟨"fomc-meeting-statement", "USD", "US", 840, "FOMC"⟩,
    ⟨"fomc-press-conference", "USD", "US", 840, "FOMC"⟩]

/-- A 64-bit number read as signed. -/
def longOf (n : UInt64) : ℤ := n.toInt64.toInt

/-- The canonical code of a provider's event: an exact match of all four fields. -/
def tryResolve (eventCode currency countryCode : String) (countryId : ℤ) : Option String :=
  (highImpactEventMap.find? fun entry => entry.eventCode = eventCode ∧ entry.currency = currency ∧
    entry.countryCode = countryCode ∧ entry.countryId = countryId).map
      HighImpactEventMapEntry.canonicalCode

/-- A value that the table knows, with all that is published of it. -/
structure MappedCalendarValue where
  event : MqlCalendarEvent
  country : MqlCalendarCountry
  value : MqlCalendarValue
  canonicalCode : String
  resolved : tryResolve event.eventCode country.currency country.code (longOf event.countryId) =
    some canonicalCode

/-- What the terminal answers during one export. -/
structure CalendarSnapshot where
  values : List MqlCalendarValue
  calendarEventById : UInt64 → Option MqlCalendarEvent
  calendarCountryById : UInt64 → Option MqlCalendarCountry
  timeGmt : MqlDatetime
  timeTradeServer : MqlDatetime
  gmtNow : MqlDatetime

/-- One value with its event and its country, if the table knows it. -/
def CalendarSnapshot.resolve (snapshot : CalendarSnapshot) (value : MqlCalendarValue) :
    Option MappedCalendarValue := do
  let event ← snapshot.calendarEventById value.eventId
  let country ← snapshot.calendarCountryById event.countryId
  match h : tryResolve event.eventCode country.currency country.code (longOf event.countryId) with
  | some canonicalCode => some ⟨event, country, value, canonicalCode, h⟩
  | none => none

/-- The mapped values, in the calendar's order. -/
def CalendarSnapshot.mapped (snapshot : CalendarSnapshot) : List MappedCalendarValue :=
  snapshot.values.filterMap snapshot.resolve

/-! ## Strings -/

/-- Replace every occurrence of a character. -/
def stringReplace (text : List Char) (find : Char) (replacement : List Char) : List Char :=
  text.flatMap fun c => if c = find then replacement else [c]

/-- Escape a text for a JSON string. -/
def jsonEscapeText (rawText : List Char) : List Char :=
  stringReplace (stringReplace rawText '\\' ['\\', '\\']) '"' ['\\', '"']

/-- The terminal's text of a time, with date and seconds. -/
def timeToString (t : ℕ) : List Char := timeText '.' ' ' t

/-- The text of a server time. -/
def serverTimeToNaiveIsoText (serverTime : ℕ) : List Char :=
  stringReplace (stringReplace (timeToString serverTime) '.' ['-']) ' ' ['T']

/-- The text of the producer's clock. -/
def serverNowToUtcIsoText (gmtNow : ℕ) : List Char :=
  stringReplace (stringReplace (timeToString gmtNow) '.' ['-']) ' ' ['T'] ++ ['Z']

/-- The text of an importance. -/
def calendarImportanceToText : CalendarImportance → List Char
  | .high => "HIGH".toList
  | .moderate => "MODERATE".toList
  | .low => "LOW".toList
  | .none => "NONE".toList

/-- The identifier of a published event: its event and its value. -/
def MappedCalendarValue.providerEventId (m : MappedCalendarValue) : List Char :=
  intText (longOf m.event.id) ++ [':'] ++ intText (longOf m.value.id)

/-! ## The document -/

/-- A key with the text of its value. -/
def rawMember (key : String) (text : List Char) : List Char :=
  ['"'] ++ key.toList ++ ['"', ':'] ++ text

/-- A key with a text in quotes. -/
def stringMember (key : String) (text : List Char) : List Char :=
  rawMember key (['"'] ++ text ++ ['"'])

/-- One event of the document. -/
def eventText (observedOffsetSeconds : ℤ) (m : MappedCalendarValue) : List Char :=
  ['{'] ++
  (stringMember "provider_event_id" (jsonEscapeText m.providerEventId) ++ [',']) ++
  (stringMember "event_time_server" (serverTimeToNaiveIsoText m.value.time) ++ [',']) ++
  (rawMember "observed_offset_seconds" (intText (observedOffsetSeconds.bmod (2 ^ 32))) ++ [',']) ++
  (stringMember "importance" (calendarImportanceToText m.event.importance) ++ [',']) ++
  (rawMember "scope" (['[', '"'] ++ jsonEscapeText m.country.currency.toList ++ ['"', ']']) ++
    [',']) ++
  (stringMember "event_code" (jsonEscapeText m.canonicalCode.toList) ++ [',']) ++
  stringMember "name" (jsonEscapeText m.event.name.toList) ++
  ['}']

/-- The events of the document: a comma before every event but the first. -/
def eventsJson (observedOffsetSeconds : ℤ) (mapped : List MappedCalendarValue) : List Char :=
  (mapped.foldl (fun (eventsJson, emitted) m =>
    ((if 0 < emitted then eventsJson ++ [','] else eventsJson) ++
      eventText observedOffsetSeconds m, emitted + 1)) (([] : List Char), 0)).1

/-- The document of one export. -/
def documentText (snapshot : CalendarSnapshot) : List Char :=
  ['{'] ++
  (rawMember "schema_version" (intText 2) ++ [',']) ++
  (stringMember "producer" "mt5_calendar_bridge".toList ++ [',']) ++
  (stringMember "generated_at" (serverNowToUtcIsoText snapshot.gmtNow) ++ [',']) ++
  rawMember "events" (['['] ++
    eventsJson ((snapshot.timeGmt : ℤ) - snapshot.timeTradeServer) snapshot.mapped ++ [']']) ++
  ['}']

/-- The bytes of the published file; the conversion to bytes ends at a terminating zero. -/
def publishedBytes (snapshot : CalendarSnapshot) : ByteArray :=
  (String.ofList ((documentText snapshot).takeWhile fun c => c ≠ '\x00')).toUTF8

/-! ## What the replacements do -/

section Replace

variable {text : List Char} {find : Char} {replacement : List Char}

theorem stringReplace_of_notMem (h : find ∉ text) : stringReplace text find replacement = text := by
  induction text with
  | nil => rfl
  | cons c text ih =>
      rw [List.mem_cons, not_or] at h
      rw [stringReplace, List.flatMap_cons, if_neg (Ne.symm h.1)]
      exact congrArg (c :: ·) (ih h.2)

theorem stringReplace_append (text text' : List Char) :
    stringReplace (text ++ text') find replacement =
      stringReplace text find replacement ++ stringReplace text' find replacement :=
  List.flatMap_append

theorem stringReplace_cons (c : Char) (text : List Char) :
    stringReplace (c :: text) find replacement =
      (if c = find then replacement else [c]) ++ stringReplace text find replacement :=
  List.flatMap_cons

end Replace

/-- **The two replacements escape the quotes and the backslashes**, and nothing else. -/
theorem jsonEscapeText_eq (s : List Char) : jsonEscapeText s = escape s := by
  unfold jsonEscapeText
  induction s with
  | nil => rfl
  | cons c s ih =>
      rw [stringReplace_cons, stringReplace_append, ih]
      show _ = escapeChar c ++ escape s
      refine congrArg (· ++ escape s) ?_
      unfold escapeChar
      by_cases hbackslash : c = '\\'
      · rw [if_pos hbackslash, if_pos (.inl hbackslash), hbackslash]
        rfl
      · rw [if_neg hbackslash, stringReplace_cons]
        by_cases hquote : c = '"'
        · rw [if_pos hquote, if_pos (.inr hquote), hquote]
          rfl
        · rw [if_neg hquote, if_neg (not_or.mpr ⟨hbackslash, hquote⟩)]
          rfl

theorem serverTimeToNaiveIsoText_eq (t : ℕ) : serverTimeToNaiveIsoText t = isoformat t := by
  have hdot (width n : ℕ) (r : List Char) :
      stringReplace (padded width n) '.' r = padded width n :=
    stringReplace_of_notMem (notMem_padded rfl)
  have hspace (width n : ℕ) (r : List Char) :
      stringReplace (padded width n) ' ' r = padded width n :=
    stringReplace_of_notMem (notMem_padded rfl)
  simp [serverTimeToNaiveIsoText, timeToString, isoformat, timeText, stringReplace_append,
    stringReplace_cons, hdot, hspace]

theorem serverNowToUtcIsoText_eq (t : ℕ) : serverNowToUtcIsoText t = isoformat t ++ ['Z'] := by
  rw [← serverTimeToNaiveIsoText_eq]
  rfl

end TradingAdvisor
