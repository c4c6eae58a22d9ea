import TradingAdvisor.HighImpactEventBridge.CalendarProducer
import TradingAdvisor.HighImpactEventBridge.FileReader

/-!
# The published document

The document that the producer puts together from strings is a JSON object, as long as no name
holds a control character: the producer does not escape those. Such a character breaks the
document inside a string.

* `eventText_eq`, `documentText_eq` — the document from its parts;
* **`loads_documentText`** — a document of clean names is the object it is meant to be;
* **`rejects_brokenDocument`**, `breaksOff_documentText` — a control character ends every reading
  of it.
-/

namespace TradingAdvisor

open DecimalDigits JsonText

/-! ## Texts of the producer -/

/-- A text without control characters. -/
def Clean (s : List Char) : Prop := ∀ c ∈ s, ¬ IsControl c

instance (s : List Char) : Decidable (Clean s) := inferInstanceAs (Decidable (∀ c ∈ s, _))

theorem toNat_of_isDigit {c : Char} (h : c.isDigit = true) : 48 ≤ c.toNat ∧ c.toNat ≤ 57 := by
  simpa [Char.isDigit, Char.le_def, UInt32.le_iff_toNat_le] using h

theorem isDigit_not_special {c : Char} (h : c.isDigit = true) :
    ¬ IsControl c ∧ c ≠ '\\' ∧ c ≠ '"' := by
  have hc := toNat_of_isDigit h
  refine ⟨fun hcontrol => ?_, ?_, ?_⟩
  · unfold IsControl at hcontrol
    omega
  · rintro rfl
    cases h
  · rintro rfl
    cases h

theorem mem_isoformat {t : ℕ} {c : Char} (h : c ∈ isoformat t) :
    c.isDigit = true ∨ c = '-' ∨ c = 'T' ∨ c = ':' := by
  simp only [isoformat, timeText, List.mem_append, List.mem_cons] at h
  have hdigit {width n : ℕ} (hc : c ∈ padded width n) : c.isDigit = true := isDigit_of_mem_padded hc
  rcases h with h | h | h | h | h | h | h | h | h | h | h
  all_goals first
    | exact .inl (hdigit h)
    | exact .inr (.inl h)
    | exact .inr (.inr (.inl h))
    | exact .inr (.inr (.inr h))

theorem isoformat_not_special {t : ℕ} {c : Char} (h : c ∈ isoformat t) :
    ¬ IsControl c ∧ c ≠ '\\' ∧ c ≠ '"' := by
  rcases mem_isoformat h with hdigit | rfl | rfl | rfl
  · exact isDigit_not_special hdigit
  all_goals decide

theorem clean_isoformat (t : ℕ) : Clean (isoformat t) := fun _ hc => (isoformat_not_special hc).1

theorem escape_isoformat (t : ℕ) : escape (isoformat t) = isoformat t :=
  escape_of_plain fun _ hc => (isoformat_not_special hc).2

theorem instant_not_special {t : ℕ} {c : Char} (h : c ∈ isoformat t ++ ['Z']) :
    ¬ IsControl c ∧ c ≠ '\\' ∧ c ≠ '"' := by
  rw [List.mem_append, List.mem_singleton] at h
  rcases h with h | rfl
  · exact isoformat_not_special h
  · decide

theorem clean_instant (t : ℕ) : Clean (isoformat t ++ ['Z']) :=
  fun _ hc => (instant_not_special hc).1

theorem escape_instant (t : ℕ) : escape (isoformat t ++ ['Z']) = isoformat t ++ ['Z'] :=
  escape_of_plain fun _ hc => (instant_not_special hc).2

theorem mem_intText {z : ℤ} {c : Char} (h : c ∈ intText z) : c.isDigit = true ∨ c = '-' := by
  have hdigit (hc : c ∈ Nat.toDigits 10 z.natAbs) : c.isDigit = true :=
    Nat.isDigit_of_mem_toDigits (by omega) (by omega) hc
  unfold intText at h
  by_cases hneg : z < 0
  · rw [if_pos hneg, List.mem_cons] at h
    exact h.symm.imp_left hdigit
  · rw [if_neg hneg] at h
    exact .inl (hdigit h)

theorem clean_intText (z : ℤ) : Clean (intText z) := by
  intro c hc
  rcases mem_intText hc with hdigit | rfl
  · exact (isDigit_not_special hdigit).1
  · decide

theorem stripped_of_plain {s : List Char} (h : ∀ c ∈ s, ¬ IsWhitespace c) : stripped s = s := by
  have hdrop (l : List Char) (hl : ∀ c ∈ l, ¬ IsWhitespace c) :
      (l.dropWhile fun c => IsWhitespace c) = l := by
    cases l with
    | nil => rfl
    | cons c l =>
        rw [List.dropWhile_cons_of_neg]
        simpa using hl c List.mem_cons_self
  rw [stripped, hdrop s h, hdrop _ (by simpa using h), List.reverse_reverse]

theorem clean_importance (importance : CalendarImportance) :
    Clean (calendarImportanceToText importance) := by
  cases importance <;> decide

theorem escape_importance (importance : CalendarImportance) :
    escape (calendarImportanceToText importance) = calendarImportanceToText importance := by
  cases importance <;> decide

namespace MappedCalendarValue

variable (m : MappedCalendarValue)

theorem mem_providerEventId {c : Char} (h : c ∈ m.providerEventId) :
    c.isDigit = true ∨ c = '-' ∨ c = ':' := by
  rw [providerEventId, List.mem_append, List.mem_append, List.mem_singleton] at h
  rcases h with (h | h) | h
  · exact (mem_intText h).imp_right .inl
  · exact .inr (.inr h)
  · exact (mem_intText h).imp_right .inl

theorem clean_providerEventId : Clean m.providerEventId := by
  intro c hc
  rcases m.mem_providerEventId hc with hdigit | rfl | rfl
  · exact (isDigit_not_special hdigit).1
  all_goals decide

theorem stripped_providerEventId : stripped m.providerEventId = m.providerEventId := by
  refine stripped_of_plain fun c hc => ?_
  rcases m.mem_providerEventId hc with hdigit | rfl | rfl
  · have hcode := toNat_of_isDigit hdigit
    simp only [IsWhitespace, List.mem_cons, List.not_mem_nil, or_false]
    omega
  all_goals decide

theorem providerEventId_ne : String.ofList m.providerEventId ≠ "" := by
  have hne : m.providerEventId ≠ [] := by simp [providerEventId]
  rwa [Ne, String.ofList_eq_empty_iff]

/-- The texts of the table are clean, trimmed and not empty. -/
theorem table_texts : ∀ entry ∈ highImpactEventMap,
    Clean entry.currency.toList ∧ stripped entry.currency.toList = entry.currency.toList ∧
      Clean entry.canonicalCode.toList ∧
      stripped entry.canonicalCode.toList = entry.canonicalCode.toList ∧
      entry.canonicalCode ≠ "" := by
  decide +kernel

theorem exists_entry : ∃ entry ∈ highImpactEventMap, entry.currency = m.country.currency ∧
    entry.canonicalCode = m.canonicalCode := by
  obtain ⟨entry, hentry, hcode⟩ := Option.map_eq_some_iff.mp m.resolved
  have hmatch := List.find?_some hentry
  rw [decide_eq_true_eq] at hmatch
  exact ⟨entry, List.mem_of_find?_eq_some hentry, hmatch.2.1, hcode⟩

theorem texts : Clean m.country.currency.toList ∧
    stripped m.country.currency.toList = m.country.currency.toList ∧
      Clean m.canonicalCode.toList ∧ stripped m.canonicalCode.toList = m.canonicalCode.toList ∧
      m.canonicalCode ≠ "" := by
  obtain ⟨entry, hentry, hcurrency, hcode⟩ := m.exists_entry
  rw [← hcurrency, ← hcode]
  exact table_texts entry hentry

end MappedCalendarValue

/-! ## The document as JSON -/

section Document

variable (n : ℕ) (offset : ℤ) (m : MappedCalendarValue)

theorem rawMember_eq (key : String) (h : ∀ c ∈ key.toList, c ≠ '\\' ∧ c ≠ '"') (text : List Char) :
    rawMember key text = memberText key.toList text := by
  rw [memberText, quoted, escape_of_plain h]
  simp [rawMember]

theorem stringMember_eq (key : String) (h : ∀ c ∈ key.toList, c ≠ '\\' ∧ c ≠ '"') (s : List Char) :
    stringMember key (escape s) = memberText key.toList (quoted s) := by
  rw [stringMember, rawMember_eq key h]
  rfl

theorem scopeText_eq (s : List Char) :
    ['[', '"'] ++ escape s ++ ['"', ']'] = '[' :: (quoted s ++ [']']) := by
  simp [quoted]

/-- The members of an event before its name. -/
def eventHead : List (Part (scanMember (parseValue (n + 2)))) :=
  [.member "provider_event_id".toList (by decide) (.string (n + 1) _ m.clean_providerEventId),
    .member "event_time_server".toList (by decide)
      (.string (n + 1) _ (clean_isoformat m.value.time)),
    .member "observed_offset_seconds".toList (by decide)
      (.int (n + 1) (offset.bmod (2 ^ 32))),
    .member "importance".toList (by decide)
      (.string (n + 1) _ (clean_importance m.event.importance)),
    .member "scope".toList (by decide) (.array [.string n _ m.texts.1]),
    .member "event_code".toList (by decide) (.string (n + 1) _ m.texts.2.2.1)]

theorem eventHead_text : (eventHead n offset m).map Part.text =
    [memberText "provider_event_id".toList (quoted m.providerEventId),
      memberText "event_time_server".toList (quoted (isoformat m.value.time)),
      memberText "observed_offset_seconds".toList (intText (offset.bmod (2 ^ 32))),
      memberText "importance".toList (quoted (calendarImportanceToText m.event.importance)),
      memberText "scope".toList ('[' :: (quoted m.country.currency.toList ++ [']'])),
      memberText "event_code".toList (quoted m.canonicalCode.toList)] :=
  rfl

/-- An event is an object; its name is the last member. -/
theorem eventText_eq : eventText offset m =
    '{' :: (commaSeparated ((eventHead n offset m).map Part.text ++
      [memberText "name".toList (quoted m.event.name.toList)]) ++ ['}']) := by
  rw [eventHead_text, eventText, jsonEscapeText_eq, jsonEscapeText_eq, jsonEscapeText_eq,
    jsonEscapeText_eq, serverTimeToNaiveIsoText_eq, ← escape_isoformat,
    ← escape_importance m.event.importance, stringMember_eq _ (by decide),
    stringMember_eq _ (by decide), stringMember_eq _ (by decide), stringMember_eq _ (by decide),
    stringMember_eq _ (by decide), rawMember_eq _ (by decide), rawMember_eq _ (by decide),
    escape_isoformat, escape_importance, scopeText_eq, commaSeparated_concat]
  simp only [List.flatMap_cons, List.flatMap_nil, List.append_assoc, List.cons_append,
    List.nil_append]

theorem eventsJson_eq (l : List MappedCalendarValue) :
    eventsJson offset l = commaSeparated (l.map (eventText offset)) := by
  have hfold : l.foldl (fun (state : List Char × ℕ) m =>
      ((if 0 < state.2 then state.1 ++ [','] else state.1) ++ eventText offset m,
        state.2 + 1)) ([], 0) =
      (commaSeparated (l.map (eventText offset)), l.length) := by
    induction l using List.reverseRecOn with
    | nil => rfl
    | append_singleton l m ih =>
        rw [List.foldl_append, ih, List.map_append, List.length_append]
        cases l with
        | nil => rfl
        | cons head l =>
            have hlength : 0 < (head :: l).length := Nat.succ_pos _
            have hne : (head :: l).map (eventText offset) ≠ [] := List.cons_ne_nil _ _
            show ((if 0 < (head :: l).length then _ else _) ++ _, _) =
              (commaSeparated (_ ++ [eventText offset m]), _)
            rw [if_pos hlength, commaSeparated_append_singleton hne, List.append_assoc]
            rfl
  exact congrArg Prod.fst hfold

/-- The members of the document before its events. -/
def documentHead (gmtNow : ℕ) : List (Part (scanMember (parseValue (n + 4)))) :=
  [.member "schema_version".toList (by decide) (.int (n + 3) 2),
    .member "producer".toList (by decide)
      (.string (n + 3) "mt5_calendar_bridge".toList (by decide)),
    .member "generated_at".toList (by decide)
      (.string (n + 3) (isoformat gmtNow ++ ['Z']) (clean_instant gmtNow))]

theorem documentHead_text (gmtNow : ℕ) : (documentHead n gmtNow).map Part.text =
    [memberText "schema_version".toList (intText 2),
      memberText "producer".toList (quoted "mt5_calendar_bridge".toList),
      memberText "generated_at".toList (quoted (isoformat gmtNow ++ ['Z']))] :=
  rfl

/-- The text of the events member. -/
def eventsText (texts : List (List Char)) : List Char :=
  memberText "events".toList ('[' :: (commaSeparated texts ++ [']']))

/-- The document is an object; its events are the last member. -/
theorem documentText_eq (snapshot : CalendarSnapshot) : documentText snapshot =
    '{' :: (commaSeparated ((documentHead n snapshot.gmtNow).map Part.text ++
      [eventsText (snapshot.mapped.map
        (eventText ((snapshot.timeGmt : ℤ) - snapshot.timeTradeServer)))]) ++ ['}']) := by
  rw [documentHead_text, documentText, eventsJson_eq, serverNowToUtcIsoText_eq,
    ← escape_instant, ← escape_of_plain (s := "mt5_calendar_bridge".toList) (by decide),
    stringMember_eq _ (by decide), stringMember_eq _ (by decide), rawMember_eq _ (by decide),
    rawMember_eq _ (by decide), escape_instant, escape_of_plain (s := "mt5_calendar_bridge".toList)
      (by decide), commaSeparated_concat, eventsText]
  simp only [List.flatMap_cons, List.flatMap_nil, List.append_assoc, List.cons_append,
    List.nil_append]

/-! ## Events as they are read -/

/-- An event with a clean name. -/
def eventPart (hname : Clean m.event.name.toList) : Part (parseValue (n + 3)) :=
  .object (eventHead n offset m ++
    [.member "name".toList (by decide) (.string (n + 1) m.event.name.toList hname)])

theorem eventPart_text (hname : Clean m.event.name.toList) :
    (eventPart n offset m hname).text = eventText offset m := by
  rw [eventText_eq n]
  rfl

/-- The members of an event. -/
def eventMembers : List (String × Json) :=
  [("provider_event_id", .str (codePoints m.providerEventId)),
    ("event_time_server", .str (codePoints (isoformat m.value.time))),
    ("observed_offset_seconds", .int (offset.bmod (2 ^ 32))),
    ("importance", .str (codePoints (calendarImportanceToText m.event.importance))),
    ("scope", .arr [.str (codePoints m.country.currency.toList)]),
    ("event_code", .str (codePoints m.canonicalCode.toList)),
    ("name", .str (codePoints m.event.name.toList))]

/-- The members as the reader sees them. -/
def codedMembers (members : List (String × Json)) : List (List ℕ × Json) :=
  members.map fun member => (codePoints member.1.toList, member.2)

theorem eventPart_value (hname : Clean m.event.name.toList) :
    (eventPart n offset m hname).value = .obj (codedMembers (eventMembers offset m)) :=
  rfl

end Document

/-! ## The bytes of the document -/

section Clean

variable {s t : List Char} {texts : List (List Char)}

theorem Clean.append (hs : Clean s) (ht : Clean t) : Clean (s ++ t) :=
  List.forall_mem_append.mpr ⟨hs, ht⟩

theorem Clean.cons {c : Char} (hc : ¬ IsControl c) (hs : Clean s) : Clean (c :: s) :=
  List.forall_mem_cons.mpr ⟨hc, hs⟩

theorem Clean.escape (hs : Clean s) : Clean (escape s) := by
  intro c hc
  obtain ⟨d, hd, hcd⟩ := List.mem_flatMap.mp hc
  unfold escapeChar at hcd
  by_cases hescape : d = '\\' ∨ d = '"'
  · rw [if_pos hescape, List.mem_pair] at hcd
    rcases hcd with rfl | rfl
    · decide
    · exact hs c hd
  · rw [if_neg hescape, List.mem_singleton] at hcd
    rw [hcd]
    exact hs d hd

theorem Clean.quoted (hs : Clean s) : Clean (quoted s) :=
  .cons (by decide) (hs.escape.append (by decide))

theorem Clean.memberText (hs : Clean s) (ht : Clean t) : Clean (memberText s t) :=
  hs.quoted.append (.cons (by decide) ht)

theorem Clean.commaSeparated (h : ∀ text ∈ texts, Clean text) : Clean (commaSeparated texts) := by
  induction texts using List.reverseRecOn with
  | nil => exact fun c hc => absurd hc List.not_mem_nil
  | append_singleton texts text _ =>
      rw [List.forall_mem_append, List.forall_mem_singleton] at h
      rw [commaSeparated_concat]
      refine .append (fun c hc => ?_) h.2
      obtain ⟨text', htext', hmem⟩ := List.mem_flatMap.mp hc
      have hcomma : Clean [','] := by decide
      exact (h.1 text' htext').append hcomma c hmem

theorem Clean.takeWhile_append (hs : Clean s) (t : List Char) :
    ((s ++ t).takeWhile fun c => c ≠ '\x00') = s ++ t.takeWhile fun c => c ≠ '\x00' := by
  refine List.takeWhile_append_of_pos fun c hc => ?_
  rw [decide_eq_true_eq]
  rintro rfl
  exact hs _ hc (by decide)

theorem Clean.carriageReturn_notMem (hs : Clean s) : '\r' ∉ s := fun h => hs _ h (by decide)

end Clean

section Bytes

variable {snapshot : CalendarSnapshot} {m : MappedCalendarValue} {s tail : List Char}

theorem clean_eventHead (n : ℕ) (offset : ℤ) :
    ∀ text ∈ (eventHead n offset m).map Part.text, Clean text := by
  rw [eventHead_text]
  simp only [List.forall_mem_cons]
  refine ⟨.memberText (by decide) m.clean_providerEventId.quoted,
    .memberText (by decide) (clean_isoformat _).quoted, .memberText (by decide) (clean_intText _),
    .memberText (by decide) (clean_importance _).quoted,
    .memberText (by decide) (.cons (by decide) (m.texts.1.quoted.append (by decide))),
    .memberText (by decide) m.texts.2.2.1.quoted, fun _ h => absurd h List.not_mem_nil⟩

theorem clean_documentHead (n gmtNow : ℕ) :
    ∀ text ∈ (documentHead n gmtNow).map Part.text, Clean text := by
  rw [documentHead_text]
  simp only [List.forall_mem_cons]
  refine ⟨.memberText (by decide) (clean_intText 2), .memberText (by decide) (.quoted (by decide)),
    .memberText (by decide) (clean_instant _).quoted, fun _ h => absurd h List.not_mem_nil⟩

theorem clean_eventText (offset : ℤ) (hname : Clean m.event.name.toList) :
    Clean (eventText offset m) := by
  rw [eventText_eq 0]
  refine .cons (by decide) (.append (.commaSeparated ?_) (by decide))
  refine List.forall_mem_append.mpr ⟨clean_eventHead 0 offset, ?_⟩
  rw [List.forall_mem_singleton]
  exact .memberText (by decide) hname.quoted

theorem clean_documentText (hnames : ∀ m ∈ snapshot.mapped, Clean m.event.name.toList) :
    Clean (documentText snapshot) := by
  rw [documentText_eq 0]
  refine .cons (by decide) (.append (.commaSeparated ?_) (by decide))
  refine List.forall_mem_append.mpr ⟨clean_documentHead 0 _, ?_⟩
  rw [List.forall_mem_singleton]
  refine .memberText (by decide) (.cons (by decide) (.append (.commaSeparated ?_) (by decide)))
  intro text htext
  obtain ⟨m, hm, rfl⟩ := List.mem_map.mp htext
  exact clean_eventText _ (hnames m hm)

theorem length_documentText (snapshot : CalendarSnapshot) :
    ∃ n, (documentText snapshot).length = n + 5 := by
  refine ⟨(documentText snapshot).length - 5, ?_⟩
  have hlength : 5 ≤ (documentText snapshot).length := by
    simp only [documentText, rawMember, List.length_append, List.length_cons]
    omega
  omega

theorem starts_documentText (snapshot : CalendarSnapshot) : Starts (documentText snapshot) :=
  ⟨'\x7b', _, rfl, by decide, by decide, by decide⟩

end Bytes

/-! ## A document of clean names -/

section Document

variable (snapshot : CalendarSnapshot)

/-- The members of the document. -/
def documentMembers : List (String × Json) :=
  [("schema_version", .int 2),
    ("producer", .str (codePoints "mt5_calendar_bridge".toList)),
    ("generated_at", .str (codePoints (isoformat snapshot.gmtNow ++ ['Z']))),
    ("events", .arr (snapshot.mapped.map fun m => .obj (codedMembers
      (eventMembers ((snapshot.timeGmt : ℤ) - snapshot.timeTradeServer) m))))]

theorem loads_documentText (hnames : ∀ m ∈ snapshot.mapped, Clean m.event.name.toList) :
    loads (documentText snapshot) = some (.obj (codedMembers (documentMembers snapshot))) := by
  obtain ⟨n, hn⟩ := length_documentText snapshot
  let offset : ℤ := (snapshot.timeGmt : ℤ) - snapshot.timeTradeServer
  let events := snapshot.mapped.pmap (eventPart n offset) hnames
  have htexts : events.map Part.text = snapshot.mapped.map (eventText offset) := by
    simp only [events, List.map_pmap, eventPart_text, List.pmap_eq_map]
  have hvalues : events.map Part.value =
      snapshot.mapped.map fun m => .obj (codedMembers (eventMembers offset m)) := by
    simp only [events, List.map_pmap, eventPart_value, List.pmap_eq_map]
  have hparses := parses_object (documentHead n snapshot.gmtNow ++
    [.member "events".toList (by decide) (.array events)])
  have htext : objectText (documentHead n snapshot.gmtNow ++
      [.member "events".toList (by decide) (.array events)]) = documentText snapshot := by
    rw [documentText_eq n, objectText, List.map_append, ← htexts]
    rfl
  have hvalue : (documentHead n snapshot.gmtNow ++
      [Part.member "events".toList (by decide) (.array events)]).map Part.value =
        codedMembers (documentMembers snapshot) := by
    rw [documentMembers, ← hvalues]
    rfl
  rw [htext, hvalue, ← hn] at hparses
  exact loads_of_parses (starts_documentText snapshot) hparses

end Document

/-! ## A document with a control character -/

section Broken

variable (gmtNow : ℕ) (offset : ℤ) (before : List MappedCalendarValue) (m : MappedCalendarValue)
  {s : List Char}

/-- The text of an event up to a point inside its name. -/
def brokenEvent (s : List Char) : List Char :=
  '{' :: commaSeparated ((eventHead 0 offset m).map Part.text ++
    [memberText "name".toList ('"' :: escape s)])

/-- The text of the events up to a point inside a name. -/
def brokenEvents (s : List Char) : List Char :=
  memberText "events".toList
    ('[' :: commaSeparated (before.map (eventText offset) ++ [brokenEvent offset m s]))

theorem length_memberText (key text : List Char) : 3 ≤ (memberText key text).length := by
  rw [memberText, quoted, List.length_append, List.length_cons, List.length_append,
    List.length_cons, List.length_cons]
  omega

/-- The document up to a point inside a name. -/
def brokenDocument (s : List Char) : List Char :=
  '{' :: commaSeparated ((documentHead 0 gmtNow).map Part.text ++ [brokenEvents offset before m s])

theorem rejects_brokenEvent (n : ℕ) (hs : Clean s) :
    Rejects (parseValue (n + 3)) (brokenEvent offset m s) :=
  rejects_object (eventHead n offset m) (starts_memberText _ _)
    (rejects_member (by decide) ⟨'"', _, rfl, by decide, by decide, by decide⟩
      (rejects_string hs (n + 1)))

theorem rejects_brokenEvents (n : ℕ) (hbefore : ∀ m ∈ before, Clean m.event.name.toList)
    (hs : Clean s) :
    Rejects (scanMember (parseValue (n + 4))) (brokenEvents offset before m s) := by
  have htexts : (before.pmap (eventPart n offset) hbefore).map Part.text =
      before.map (eventText offset) := by
    simp only [List.map_pmap, eventPart_text, List.pmap_eq_map]
  have harray := rejects_array (before.pmap (eventPart n offset) hbefore)
    ⟨'\x7b', _, rfl, by decide, by decide, by decide⟩ (rejects_brokenEvent offset m n hs)
  rw [brokenOff, htexts] at harray
  exact rejects_member (by decide) ⟨'[', _, rfl, by decide, by decide, by decide⟩ harray

theorem rejects_brokenDocument (n : ℕ) (hbefore : ∀ m ∈ before, Clean m.event.name.toList)
    (hs : Clean s) : Rejects (parseValue (n + 5)) (brokenDocument gmtNow offset before m s) :=
  rejects_object (documentHead n gmtNow) (starts_memberText _ _)
    (rejects_brokenEvents offset before m n hbefore hs)

theorem clean_brokenDocument (hbefore : ∀ m ∈ before, Clean m.event.name.toList)
    (hs : Clean s) : Clean (brokenDocument gmtNow offset before m s) := by
  refine .cons (by decide) (.commaSeparated ?_)
  refine List.forall_mem_append.mpr ⟨clean_documentHead 0 _, ?_⟩
  rw [List.forall_mem_singleton]
  refine .memberText (by decide) (.cons (by decide) (.commaSeparated ?_))
  refine List.forall_mem_append.mpr ⟨fun text htext => ?_, ?_⟩
  · obtain ⟨m, hm, rfl⟩ := List.mem_map.mp htext
    exact clean_eventText offset (hbefore m hm)
  · rw [List.forall_mem_singleton]
    refine .cons (by decide) (.commaSeparated ?_)
    refine List.forall_mem_append.mpr ⟨clean_eventHead 0 offset, ?_⟩
    rw [List.forall_mem_singleton]
    exact .memberText (by decide) (.cons (by decide) hs.escape)

theorem length_brokenDocument (s : List Char) :
    5 ≤ (brokenDocument gmtNow offset before m s).length := by
  have hmember := length_memberText "schema_version".toList (intText 2)
  rw [brokenDocument, commaSeparated_concat, documentHead_text, List.flatMap_cons,
    List.length_cons, List.length_append, List.length_append, List.length_append,
    List.length_singleton]
  omega

variable {gmtNow offset before m} {c : Char} {text text' : List Char}

/-- A text that holds another one, up to a character after it. -/
def BreaksOff (c : Char) (text text' : List Char) : Prop := ∃ rest, text' = text ++ c :: rest

theorem BreaksOff.cons (d : Char) (h : BreaksOff c text text') :
    BreaksOff c (d :: text) (d :: text') := by
  obtain ⟨rest, rfl⟩ := h
  exact ⟨rest, rfl⟩

theorem BreaksOff.append (h : BreaksOff c text text') (after : List Char) :
    BreaksOff c text (text' ++ after) := by
  obtain ⟨rest, rfl⟩ := h
  exact ⟨rest ++ after, by rw [List.append_assoc, List.cons_append]⟩

theorem BreaksOff.memberText (key : List Char) (h : BreaksOff c text text') :
    BreaksOff c (memberText key text) (memberText key text') := by
  obtain ⟨rest, rfl⟩ := h
  exact ⟨rest, by simp [JsonText.memberText]⟩

theorem BreaksOff.commaSeparated (texts after : List (List Char)) (h : BreaksOff c text text') :
    BreaksOff c (commaSeparated (texts ++ [text])) (commaSeparated (texts ++ text' :: after)) := by
  obtain ⟨rest, rfl⟩ := h
  refine ⟨rest ++ after.flatMap (',' :: ·), ?_⟩
  rw [commaSeparated_append_cons, commaSeparated_concat, commaSeparated_concat]
  simp only [List.append_assoc, List.cons_append]

theorem breaksOff_quoted (hc : IsControl c) (s t : List Char) :
    BreaksOff c ('"' :: escape s) (quoted (s ++ c :: t)) := by
  have hplain : ¬ (c = '\\' ∨ c = '"') := by
    rintro (rfl | rfl) <;> exact absurd hc (by decide)
  refine ⟨escape t ++ ['"'], ?_⟩
  rw [quoted, escape, List.flatMap_append, List.flatMap_cons, escapeChar, if_neg hplain]
  simp only [escape, List.append_assoc, List.cons_append, List.nil_append]

theorem breaksOff_documentText {snapshot : CalendarSnapshot} {after : List MappedCalendarValue}
    {t : List Char} (hmapped : snapshot.mapped = before ++ m :: after)
    (hname : m.event.name.toList = s ++ c :: t) (hc : IsControl c) :
    BreaksOff c (brokenDocument snapshot.gmtNow
      ((snapshot.timeGmt : ℤ) - snapshot.timeTradeServer) before m s) (documentText snapshot) := by
  rw [documentText_eq 0, eventsText, hmapped, List.map_append, List.map_cons, eventText_eq 0, hname]
  refine .cons _ (.append (.commaSeparated _ [] (.memberText _ (.cons _ (.append
    (.commaSeparated _ _ (.cons _ (.append (.commaSeparated _ [] ?_) _))) _)))) _)
  exact .memberText _ (breaksOff_quoted hc s t)

end Broken

end TradingAdvisor
