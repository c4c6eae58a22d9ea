import TradingAdvisor.HighImpactEventBridge.CalendarDocument

/-!
# From the calendar to the gate

The reader undoes the producer, as long as no name holds a control character.

* `Reproduces` — an event that was read is the published one;
* `parseEvent_eventMembers` — an event is read as it was published;
* `readPayload_of_clean`, `readPayload_of_control` — the two kinds of documents;
* **`calendar_round_trip_iff`**: the published file is read as the events it was made of exactly
  when no name holds a control character.
-/

namespace TradingAdvisor

open JsonText Keyed

/-! ## Reading the fields -/

theorem codePoints_injective {s t : List Char} (h : codePoints s = codePoints t) : s = t :=
  List.map_injective_iff.mpr (fun _ _ hc => Char.toNat_inj.mp hc) h

theorem field_codedMembers {members : List (String × Json)} {key : String} {v : Json}
    (hnodup : (members.map Prod.fst).Nodup) (h : (key, v) ∈ members) :
    field key (codedMembers members) = some v := by
  have hkeys : ((codedMembers members).map Prod.fst).Nodup := by
    have hinjective : Function.Injective fun key : String => codePoints key.toList :=
      fun _ _ hcodes => String.toList_injective (codePoints_injective hcodes)
    have hmap := hnodup.map hinjective
    rw [List.map_map] at hmap
    rwa [codedMembers, List.map_map]
  have hmem : (codePoints key.toList, v) ∈ codedMembers members := List.mem_map_of_mem h
  rw [field, lastOf_of_nodup hkeys hmem, Option.map_some]

theorem toChars_codePoints (s : List Char) : toChars (codePoints s) = some s := by
  induction s with
  | nil => rfl
  | cons c s ih =>
      have hc : c.toNat.isValidChar := c.valid
      have hchar : Char.ofNatAux c.toNat hc = c := rfl
      unfold toChars codePoints at ih ⊢
      rw [List.map_cons, List.mapM_cons, dif_pos hc, ih, hchar]
      rfl

theorem modelText_codePoints {s : String} (h : stripped s.toList = s.toList) :
    modelText (.str (codePoints s.toList)) = some s := by
  rw [modelText, toChars_codePoints, Option.map_some, h, String.ofList_toList]

theorem requiredModelText_codePoints {s : String} (h : stripped s.toList = s.toList)
    (hne : s ≠ "") : requiredModelText (.str (codePoints s.toList)) = some ⟨s, hne⟩ := by
  rw [requiredModelText, modelText_codePoints h]
  exact dif_pos hne

/-- The importance that is read of a published one. -/
def CalendarImportance.toHighImpactEventImportance :
    CalendarImportance → HighImpactEventImportance
  | .none => .none
  | .low => .low
  | .moderate => .moderate
  | .high => .high

theorem parseImportance_codePoints (importance : CalendarImportance) :
    parseImportance (.str (codePoints (calendarImportanceToText importance))) =
      some importance.toHighImpactEventImportance := by
  cases importance <;> decide

/-! ## Reading an event -/

/-- An event that was read is the published one, at its server time in the zone. -/
structure Reproduces (zone : ZoneInfo) (m : MappedCalendarValue) (record : BridgeEventRecord) :
    Prop where
  providerEventId : record.providerEventId.1.toList = m.providerEventId
  eventCode : record.eventCode.1 = m.canonicalCode
  name : record.name.1 = m.event.name
  scope : record.scope = [m.country.currency]
  importance : record.importance = m.event.importance.toHighImpactEventImportance
  eventTime : zone.resolveUnambiguousUtc (m.value.time * 1000000) = .ok record.eventTime

/-- A name that the reader takes as it is. -/
def IsTrimmed (name : String) : Prop := name ≠ "" ∧ stripped name.toList = name.toList

instance (name : String) : Decidable (IsTrimmed name) := inferInstanceAs (Decidable (_ ∧ _))

theorem MqlDatetime.lt_maxIsoSeconds (t : MqlDatetime) : t.1 < maxIsoSeconds :=
  t.2.trans (by decide)

section Event

variable (iso : IsoReader) {zone : ZoneInfo} {m : MappedCalendarValue}

theorem parseNaiveServerTimestamp_isoformat (t : MqlDatetime) :
    parseNaiveServerTimestamp iso (.str (codePoints (isoformat t))) = some ((t.1 : ℤ) * 1000000) := by
  have hne : codePoints (isoformat t) ≠ [] := by simp [codePoints, isoformat, timeText]
  have hread : iso.fromisoformat (codePoints (isoformat t)) = some (.naive (t.1 * 1000000)) :=
    iso.naive_eq t t.lt_maxIsoSeconds
  rw [parseNaiveServerTimestamp, if_neg hne, hread]

theorem parseTimestamp_instant (t : MqlDatetime) :
    parseTimestamp iso (.str (codePoints (isoformat t ++ ['Z']))) =
      some ((t.1 : ℤ) * 1000000) := by
  have hne : codePoints (isoformat t ++ ['Z']) ≠ [] := by simp [codePoints]
  have hread : iso.fromisoformat (codePoints (isoformat t ++ ['Z'])) =
      some (.aware (t.1 * 1000000)) :=
    iso.utc_eq t t.lt_maxIsoSeconds
  rw [parseTimestamp, if_neg hne, hread]

/-- What is read of an object whose fields all pass. -/
theorem parseEvent_eq_some {members : List (List ℕ × Json)} {scopeRaw : List Json} {wall : ℤ}
    {eventTime : Timestamp} {importance : HighImpactEventImportance}
    {providerEventId eventCode name : NonemptyText} {scope : List String}
    (hscopeRaw : (field "scope" members).bind listField = some scopeRaw)
    (hoffset : (field "observed_offset_seconds" members).bind checkInteger = some ())
    (hwall : (field "event_time_server" members).bind (parseNaiveServerTimestamp iso) = some wall)
    (htime : zone.resolveUnambiguousUtc wall = .ok eventTime)
    (himportance : (field "importance" members).bind parseImportance = some importance)
    (hid : (field "provider_event_id" members).bind requiredModelText = some providerEventId)
    (hscope : scopeRaw.mapM modelText = some scope)
    (heventCode : (field "event_code" members).bind requiredModelText = some eventCode)
    (hname : (field "name" members).bind requiredModelText = some name) :
    parseEvent iso zone (.obj members) =
      some { providerEventId, eventTime, importance, scope, eventCode, name } := by
  rw [parseEvent, hscopeRaw, hoffset, hwall, himportance, hid, heventCode, hname]
  show (zone.resolveUnambiguousUtc wall).toOption.bind (fun _ => (scopeRaw.mapM modelText).bind _) =
    _
  rw [htime, hscope]
  rfl

/-- **An event is read as it was published.** -/
theorem parseEvent_eventMembers (offset : ℤ) (hname : IsTrimmed m.event.name) {t : Timestamp}
    (htime : zone.resolveUnambiguousUtc (m.value.time * 1000000) = .ok t) :
    ∃ record, parseEvent iso zone (.obj (codedMembers (eventMembers offset m))) = some record ∧
      Reproduces zone m record := by
  obtain ⟨-, hcurrency, -, hcode, hcodeNe⟩ := m.texts
  have hnodup : ((eventMembers offset m).map Prod.fst).Nodup := by
    show ["provider_event_id", "event_time_server", "observed_offset_seconds", "importance",
      "scope", "event_code", "name"].Nodup
    decide
  have hfield (key : String) (v : Json) (h : (key, v) ∈ eventMembers offset m) :
      field key (codedMembers (eventMembers offset m)) = some v :=
    field_codedMembers hnodup h
  have hscope := hfield "scope" (.arr [.str (codePoints m.country.currency.toList)])
    (by simp [eventMembers])
  have hoffset := hfield "observed_offset_seconds" (.int (offset.bmod (2 ^ 32)))
    (by simp [eventMembers])
  have hserverTime := hfield "event_time_server" (.str (codePoints (isoformat m.value.time)))
    (by simp [eventMembers])
  have himportance := hfield "importance"
    (.str (codePoints (calendarImportanceToText m.event.importance))) (by simp [eventMembers])
  have hid := hfield "provider_event_id" (.str (codePoints m.providerEventId))
    (by simp [eventMembers])
  have heventCode := hfield "event_code" (.str (codePoints m.canonicalCode.toList))
    (by simp [eventMembers])
  have hnameField := hfield "name" (.str (codePoints m.event.name.toList))
    (by simp [eventMembers])
  have hidText := requiredModelText_codePoints (s := String.ofList m.providerEventId)
    (by rw [String.toList_ofList]; exact m.stripped_providerEventId) m.providerEventId_ne
  rw [String.toList_ofList] at hidText
  have hscopeText : [Json.str (codePoints m.country.currency.toList)].mapM modelText =
      some [m.country.currency] := by
    rw [List.mapM_cons, modelText_codePoints hcurrency]
    rfl
  refine ⟨{ providerEventId := ⟨_, m.providerEventId_ne⟩, eventTime := t,
            importance := m.event.importance.toHighImpactEventImportance,
            scope := [m.country.currency], eventCode := ⟨_, hcodeNe⟩, name := ⟨_, hname.1⟩ },
    ?_, ⟨String.toList_ofList, rfl, rfl, rfl, rfl, htime⟩⟩
  have hscopeRaw := congrArg (Option.bind · listField) hscope
  have hoffsetRaw := congrArg (Option.bind · checkInteger) hoffset
  refine parseEvent_eq_some iso hscopeRaw hoffsetRaw ?_ htime ?_ ?_ hscopeText ?_ ?_
  · rw [hserverTime, Option.bind_some, parseNaiveServerTimestamp_isoformat]
  · rw [himportance, Option.bind_some, parseImportance_codePoints]
  · rw [hid, Option.bind_some, hidText]
  · rw [heventCode, Option.bind_some, requiredModelText_codePoints hcode hcodeNe]
  · rw [hnameField, Option.bind_some, requiredModelText_codePoints hname.2 hname.1]

end Event

/-! ## Reading the document -/

section Payload

variable {snapshot : CalendarSnapshot} (iso : IsoReader) {zone : ZoneInfo}

/-- Up to the first control character the file is read as it was written. -/
theorem readText_publishedBytes {s tail : List Char} (h : documentText snapshot = s ++ tail)
    (hs : Clean s) :
    readText (publishedBytes snapshot) = .ok (String.ofList
      (s ++ universalNewlines (tail.takeWhile fun c => c ≠ '\x00'))) := by
  rw [publishedBytes, h, hs.takeWhile_append, readText_toUTF8, String.toList_ofList,
    universalNewlines_append hs.carriageReturn_notMem]

/-- What is read of a document whose members all pass. -/
theorem parsePayload_eq_some {members : List (List ℕ × Json)} {schemaVersion : Json}
    {producer : List ℕ} {generatedAt : Timestamp} {rawEvents : List Json}
    {events : List BridgeEventRecord}
    (hschema : field "schema_version" members = some schemaVersion)
    (hsupported : IsSupportedSchemaVersion schemaVersion)
    (hproducer : (field "producer" members).bind nonemptyCodes = some producer)
    (hgenerated : (field "generated_at" members).bind (parseTimestamp iso) = some generatedAt)
    (hraw : (field "events" members).bind listField = some rawEvents)
    (hevents : rawEvents.mapM (parseEvent iso zone) = some events) :
    parsePayload iso zone (.obj members) = some { producer, generatedAt, events } := by
  rw [parsePayload, hschema, hproducer, hgenerated, hraw]
  show (if IsSupportedSchemaVersion schemaVersion then
    (rawEvents.mapM (parseEvent iso zone)).bind _ else none) = _
  rw [if_pos hsupported, hevents]
  rfl

/-- The events of a list of objects, each of which is read. -/
theorem exists_parseEvents (offset : ℤ) {l : List MappedCalendarValue}
    (hnames : ∀ m ∈ l, IsTrimmed m.event.name)
    (htimes : ∀ m ∈ l, ∃ t, zone.resolveUnambiguousUtc (m.value.time * 1000000) = .ok t) :
    ∃ events, (l.map fun m => .obj (codedMembers (eventMembers offset m))).mapM
      (parseEvent iso zone) = some events ∧ List.Forall₂ (Reproduces zone) l events := by
  induction l with
  | nil => exact ⟨[], rfl, .nil⟩
  | cons m l ih =>
      rw [List.forall_mem_cons] at hnames htimes
      obtain ⟨t, ht⟩ := htimes.1
      obtain ⟨record, hrecord, hreproduces⟩ := parseEvent_eventMembers iso offset hnames.1 ht
      obtain ⟨events, hevents, hforall⟩ := ih hnames.2 htimes.2
      refine ⟨record :: events, ?_, .cons hreproduces hforall⟩
      rw [List.map_cons, List.mapM_cons, hrecord, hevents]
      rfl

theorem readPayload_of_readText {bytes : ByteArray} {text : List Char}
    (h : readText bytes = .ok (String.ofList text)) :
    readPayload iso zone (.content bytes) = (loads text).bind (parsePayload iso zone) := by
  rw [readPayload, h]
  show (loads (String.ofList text).toList).bind _ = _
  rw [String.toList_ofList]

theorem field_documentMembers {key : String} {v : Json} (h : (key, v) ∈ documentMembers snapshot) :
    field key (codedMembers (documentMembers snapshot)) = some v := by
  have hnodup : ((documentMembers snapshot).map Prod.fst).Nodup := by
    show ["schema_version", "producer", "generated_at", "events"].Nodup
    decide
  exact field_codedMembers hnodup h

theorem parsePayload_documentMembers {events : List BridgeEventRecord}
    (hevents : (snapshot.mapped.map fun m => .obj (codedMembers
      (eventMembers ((snapshot.timeGmt : ℤ) - snapshot.timeTradeServer) m))).mapM
        (parseEvent iso zone) = some events) :
    parsePayload iso zone (.obj (codedMembers (documentMembers snapshot))) =
      some ⟨codePoints "mt5_calendar_bridge".toList, (snapshot.gmtNow.1 : ℤ) * 1000000, events⟩ := by
  have hproducer : codePoints "mt5_calendar_bridge".toList ≠ [] := by decide
  have hschema : IsSupportedSchemaVersion (.int 2) := rfl
  refine parsePayload_eq_some iso (field_documentMembers List.mem_cons_self) hschema ?_ ?_ ?_ hevents
  · rw [field_documentMembers (List.mem_cons_of_mem _ List.mem_cons_self), Option.bind_some,
      nonemptyCodes, if_neg hproducer]
  · rw [field_documentMembers
      (List.mem_cons_of_mem _ (List.mem_cons_of_mem _ List.mem_cons_self)), Option.bind_some,
      parseTimestamp_instant]
  · rw [field_documentMembers (List.mem_cons_of_mem _
      (List.mem_cons_of_mem _ (List.mem_cons_of_mem _ List.mem_cons_self))), Option.bind_some]
    rfl

/-- **A document of clean names is read as the events it was made of.** -/
theorem readPayload_of_clean (hclean : ∀ m ∈ snapshot.mapped, Clean m.event.name.toList)
    (hnames : ∀ m ∈ snapshot.mapped, IsTrimmed m.event.name)
    (htimes : ∀ m ∈ snapshot.mapped, ∃ t,
      zone.resolveUnambiguousUtc (m.value.time * 1000000) = .ok t) :
    ∃ events, readPayload iso zone (.content (publishedBytes snapshot)) =
      some ⟨codePoints "mt5_calendar_bridge".toList, (snapshot.gmtNow.1 : ℤ) * 1000000, events⟩ ∧
        List.Forall₂ (Reproduces zone) snapshot.mapped events := by
  obtain ⟨events, hevents, hforall⟩ := exists_parseEvents iso
    ((snapshot.timeGmt : ℤ) - snapshot.timeTradeServer) hnames htimes
  refine ⟨events, ?_, hforall⟩
  have htext := readText_publishedBytes (List.append_nil (documentText snapshot)).symm
    (clean_documentText hclean)
  rw [List.takeWhile_nil, universalNewlines, List.append_nil] at htext
  rw [readPayload_of_readText iso htext, loads_documentText snapshot hclean, Option.bind_some,
    parsePayload_documentMembers iso hevents]

/-- **A control character in a name breaks the document.** -/
theorem readPayload_of_control (zone : ZoneInfo) {before after : List MappedCalendarValue}
    {m : MappedCalendarValue} {s t : List Char} {c : Char}
    (hmapped : snapshot.mapped = before ++ m :: after)
    (hbefore : ∀ m ∈ before, Clean m.event.name.toList)
    (hname : m.event.name.toList = s ++ c :: t) (hs : Clean s) (hc : IsControl c) :
    readPayload iso zone (.content (publishedBytes snapshot)) = none := by
  obtain ⟨rest, hrest⟩ := breaksOff_documentText hmapped hname hc
  have hclean := clean_brokenDocument snapshot.gmtNow
    ((snapshot.timeGmt : ℤ) - snapshot.timeTradeServer) before m hbefore hs
  rw [readPayload_of_readText iso (readText_publishedBytes hrest hclean)]
  have htail : Breaks (universalNewlines ((c :: rest).takeWhile fun c => c ≠ '\x00')) := by
    intro d hd
    rcases head?_universalNewlines hd with rfl | hd
    · decide
    · rw [List.head?_takeWhile, Option.mem_def, Option.filter_eq_some_iff] at hd
      cases hd.1
      exact hc
  have hlength := length_brokenDocument snapshot.gmtNow
    ((snapshot.timeGmt : ℤ) - snapshot.timeTradeServer) before m s
  have hstarts : Starts (brokenDocument snapshot.gmtNow
      ((snapshot.timeGmt : ℤ) - snapshot.timeTradeServer) before m s) :=
    ⟨'\x7b', _, rfl, by decide, by decide, by decide⟩
  rw [loads_of_rejects hstarts htail]
  · rfl
  · obtain ⟨n, hn⟩ := Nat.exists_eq_add_of_le hlength
    rw [List.length_append, hn, Nat.add_assoc, Nat.add_comm 5]
    exact rejects_brokenDocument _ _ before m _ hbefore hs

end Payload

/-! ## The round trip -/

section RoundTrip

variable (iso : IsoReader) (zone : ZoneInfo) {bytes : ByteArray} {asOf : Timestamp}
  {stalenessThreshold : ℤ} {producerFallback producer : NonemptyText}

theorem readHighImpactEventContext_eq_malformed
    (h : readPayload iso zone (.content bytes) = none) :
    readHighImpactEventContext iso (.content bytes) asOf stalenessThreshold (some zone)
      producerFallback = .ok (degraded .malformed producerFallback) := by
  rw [readHighImpactEventContext, h]
  intro hfile
  cases hfile

theorem readHighImpactEventContext_fresh {payload : BridgePayload}
    (h : readPayload iso zone (.content bytes) = some payload)
    (hproducer : requiredModelText (.str payload.producer) = some producer)
    (hfresh : asOf - payload.generatedAt ≤ stalenessThreshold) :
    ∃ context, readHighImpactEventContext iso (.content bytes) asOf stalenessThreshold (some zone)
      producerFallback = .ok context ∧ context.dataQuality = .fresh ∧
        context.events = payload.events := by
  rw [readHighImpactEventContext, h]
  · dsimp only
    rw [hproducer]
    dsimp only
    rw [if_neg (not_lt.mpr hfresh)]
    exact ⟨_, rfl, rfl, rfl⟩
  · intro hfile
    cases hfile

theorem exists_first {α : Type} {p : α → Prop} [DecidablePred p] {l : List α}
    (h : ∃ a ∈ l, p a) : ∃ before a after, l = before ++ a :: after ∧ p a ∧ ∀ b ∈ before, ¬ p b := by
  have hfind : (l.find? fun a => p a).isSome := by simpa using h
  obtain ⟨a, ha⟩ := Option.isSome_iff_exists.mp hfind
  obtain ⟨hpa, before, after, hl, hbefore⟩ := List.find?_eq_some_iff_append.mp ha
  exact ⟨before, a, after, hl, by simpa using hpa, fun b hb => by simpa using hbefore b hb⟩

/-- **The published file is read as the events it was made of exactly when no name holds a control
character.** -/
theorem calendar_round_trip_iff (snapshot : CalendarSnapshot) (asOf : Timestamp)
    (stalenessThreshold : ℤ) (producerFallback : NonemptyText)
    (hnames : ∀ m ∈ snapshot.mapped, IsTrimmed m.event.name)
    (htimes : ∀ m ∈ snapshot.mapped, ∃ t,
      zone.resolveUnambiguousUtc (m.value.time * 1000000) = .ok t)
    (hfresh : asOf - snapshot.gmtNow * 1000000 ≤ stalenessThreshold) :
    (∃ context, readHighImpactEventContext iso (.content (publishedBytes snapshot)) asOf
        stalenessThreshold (some zone) producerFallback = .ok context ∧
      context.dataQuality = .fresh ∧
      List.Forall₂ (Reproduces zone) snapshot.mapped context.events) ↔
      ∀ m ∈ snapshot.mapped, Clean m.event.name.toList := by
  constructor
  · rintro ⟨context, hread, hquality, -⟩
    by_contra hdirty
    have hcontrol : ∃ m ∈ snapshot.mapped, ¬ Clean m.event.name.toList := by
      simpa using hdirty
    obtain ⟨before, m, after, hmapped, hname, hbefore⟩ := exists_first hcontrol
    have hchar : ∃ c ∈ m.event.name.toList, IsControl c := by
      simpa [Clean] using hname
    obtain ⟨s, c, t, hsplit, hc, hs⟩ := exists_first hchar
    have hpayload := readPayload_of_control iso zone hmapped
      (fun m' hm' => not_not.mp (hbefore m' hm')) hsplit hs hc
    rw [readHighImpactEventContext_eq_malformed iso zone hpayload] at hread
    cases hread
    cases hquality
  · intro hclean
    obtain ⟨events, hpayload, hevents⟩ := readPayload_of_clean iso hclean hnames htimes
    have hproducer := requiredModelText_codePoints (s := "mt5_calendar_bridge") (by decide)
      (by decide)
    obtain ⟨context, hread, hquality, hcontext⟩ :=
      readHighImpactEventContext_fresh iso zone hpayload hproducer hfresh
    exact ⟨context, hread, hquality, hcontext ▸ hevents⟩

end RoundTrip

theorem resolve_eq_some {snapshot : CalendarSnapshot} {m : MappedCalendarValue}
    (hevent : snapshot.calendarEventById m.value.eventId = some m.event)
    (hcountry : snapshot.calendarCountryById m.event.countryId = some m.country)
    (hcode : tryResolve m.event.eventCode m.country.currency m.country.code
      (longOf m.event.countryId) = some m.canonicalCode) :
    snapshot.resolve m.value = some m := by
  rw [CalendarSnapshot.resolve, hevent, Option.bind_eq_bind, Option.bind_some, hcountry,
    Option.bind_eq_bind, Option.bind_some]
  split
  · next code h =>
      cases Option.some.inj (h.symm.trans hcode)
      rfl
  · next h => exact absurd (h.symm.trans hcode) (by simp)

/-- A zone without transitions. -/
def utcZone : ZoneInfo := .fixed 0

theorem resolveUnambiguousUtc_utcZone (wall : ℤ) :
    ∃ t, utcZone.resolveUnambiguousUtc wall = .ok t :=
  ⟨_, if_pos rfl⟩

/-- A calendar of one payrolls release with the given name. -/
def payrollsCalendar (name : String) : CalendarSnapshot where
  values := [⟨7001, 840030016, ⟨1767967800, by decide⟩⟩]
  calendarEventById _ := some ⟨840030016, 840, .high, "nonfarm-payrolls", name⟩
  calendarCountryById _ := some ⟨"USD", "US"⟩
  timeGmt := ⟨1767960000, by decide⟩
  timeTradeServer := ⟨1767967200, by decide⟩
  gmtNow := ⟨1767960000, by decide⟩

/-- The release of that calendar. -/
def payrollsRelease (name : String) : MappedCalendarValue where
  event := ⟨840030016, 840, .high, "nonfarm-payrolls", name⟩
  country := ⟨"USD", "US"⟩
  value := ⟨7001, 840030016, ⟨1767967800, by decide⟩⟩
  canonicalCode := "US_NFP"
  resolved := by
    show tryResolve "nonfarm-payrolls" "USD" "US" (longOf 840) = some "US_NFP"
    decide +kernel

theorem mapped_payrollsCalendar (name : String) :
    (payrollsCalendar name).mapped = [payrollsRelease name] := by
  have hresolve : (payrollsCalendar name).resolve (payrollsRelease name).value =
      some (payrollsRelease name) :=
    resolve_eq_some rfl rfl (payrollsRelease name).resolved
  show [(payrollsRelease name).value].filterMap (payrollsCalendar name).resolve = _
  rw [List.filterMap_cons, hresolve]
  rfl

theorem calendar_round_trip_payrolls : ∃ context,
    readHighImpactEventContext .extended
      (.content (publishedBytes (payrollsCalendar "Nonfarm \"Payrolls\""))) (1767960060 * 1000000)
        (300 * 1000000) (some utcZone) ⟨"fallback", by decide⟩ = .ok context ∧
      context.dataQuality = .fresh ∧
      List.Forall₂ (Reproduces utcZone) (payrollsCalendar "Nonfarm \"Payrolls\"").mapped
        context.events :=
  (calendar_round_trip_iff .extended utcZone (payrollsCalendar "Nonfarm \"Payrolls\"") _ _ _
    (by decide +kernel) (fun _ _ => resolveUnambiguousUtc_utcZone _) (by decide +kernel)).mpr
      (by decide +kernel)

/-- A tab in a name turns the whole file malformed. -/
theorem tab_in_name_malformed :
    (∀ m ∈ (payrollsCalendar "Nonfarm\tPayrolls").mapped, IsTrimmed m.event.name) ∧
      (∀ m ∈ (payrollsCalendar "Nonfarm\tPayrolls").mapped,
        ∃ t, utcZone.resolveUnambiguousUtc (m.value.time * 1000000) = .ok t) ∧
      readHighImpactEventContext .extended
        (.content (publishedBytes (payrollsCalendar "Nonfarm\tPayrolls"))) (1767960060 * 1000000)
          (300 * 1000000) (some utcZone) ⟨"fallback", by decide⟩ =
        .ok (degraded .malformed ⟨"fallback", by decide⟩) ∧
      ¬ ∃ context, readHighImpactEventContext .extended
          (.content (publishedBytes (payrollsCalendar "Nonfarm\tPayrolls"))) (1767960060 * 1000000)
            (300 * 1000000) (some utcZone) ⟨"fallback", by decide⟩ = .ok context ∧
        context.dataQuality = .fresh ∧
        List.Forall₂ (Reproduces utcZone) (payrollsCalendar "Nonfarm\tPayrolls").mapped
          context.events := by
  have hmalformed : readHighImpactEventContext .extended
      (.content (publishedBytes (payrollsCalendar "Nonfarm\tPayrolls"))) (1767960060 * 1000000)
        (300 * 1000000) (some utcZone) ⟨"fallback", by decide⟩ =
      .ok (degraded .malformed ⟨"fallback", by decide⟩) := by
    have hmapped := mapped_payrollsCalendar "Nonfarm\tPayrolls"
    have hname : (payrollsRelease "Nonfarm\tPayrolls").event.name.toList =
        "Nonfarm".toList ++ '\t' :: "Payrolls".toList := by decide
    have hpayload := readPayload_of_control .extended utcZone
      (hmapped.trans (List.nil_append _).symm) (fun _ h => absurd h List.not_mem_nil) hname
      (by decide) (by decide)
    exact readHighImpactEventContext_eq_malformed _ _ hpayload
  refine ⟨by decide +kernel, fun _ _ => resolveUnambiguousUtc_utcZone _, hmalformed, ?_⟩
  rintro ⟨context, hread, hquality, -⟩
  rw [hmalformed] at hread
  cases hread
  cases hquality

end TradingAdvisor
