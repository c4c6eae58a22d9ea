import TradingAdvisor.Application.NoTrade
import TradingAdvisor.Technical.TechnicalContour

/-!
# Rendering of an advisory

An advisory is rendered as a list of sections, and the sections are packed into messages of bounded
size. A section is never cut; only the narrative is split beforehand, so that its length cannot
keep a recommendation from being sent.

* `renderAdvisoryResponse`, `splitNarrativeText`, `packMessageSections` — the three passes;
* `Packing.Holds`, `foldlM_add_ok` — what the packing has done with the sections so far;
* **`advisory_packsWhole_iff`**: the messages hold every section whole and in order, and only an
  authoritative section can be too long, exactly when the timestamps have a date in UTC.
-/

namespace TradingAdvisor

open Checks

/-! ## The advisory -/

/-- Coarse classification of an advisory. -/
inductive ApplicationAdvisoryStatus
  | ready
  | noTrade
  | degraded
  | serviceUnavailable
  deriving DecidableEq, Repr

/-- How the provider of explanations did. -/
inductive ExplanationProviderStatus
  | llmSuccess
  | llmUnavailable
  | llmInvalidOutput
  deriving DecidableEq, Repr

/-- What is told about the quality of the trading data. -/
structure TradingDataQualityDTO where
  technicalFetchFailedTimeframes : List Timeframe
  accountRiskSnapshotReady : Bool
  accountRiskSnapshotBlockReasons : List RuntimeFactAssemblyBlockReason

/-- Persistence of one issued recommendation. -/
structure IssuancePersistenceDTO where
  trackingPersisted : Bool
  provenancePersisted : Bool

/-- Operational health. -/
structure OperationalDiagnosticsDTO where
  llmProviderStatus : ExplanationProviderStatus
  issuancePersistence : List IssuancePersistenceDTO

/-- The narrative of one recommendation. -/
structure RecommendationNarrativeDTO where
  tradeId : NonemptyText
  strategyFamily : StrategyFamily
  narrative : NonemptyText

/-- Narrative content, of any length. -/
structure ExplanationDTO where
  headline : NonemptyText
  cycleSummary : NonemptyText
  noTradeExplanation : Option String
  warnings : List String
  dataQualityNotes : List String
  riskNotes : List String
  deterministicFallbackUsed : Bool
  recommendationNarratives : List RecommendationNarrativeDTO := []

/-- What the application returns. -/
structure AdvisoryResponse where
  logicalCycleId : String
  asOf : Timestamp
  symbol : Symbol
  status : ApplicationAdvisoryStatus
  recommendations : List RecommendationDTO
  noTradeReasons : List NoTradeReasonDTO
  dataQuality : TradingDataQualityDTO
  diagnostics : OperationalDiagnosticsDTO
  explanation : ExplanationDTO

/-! ## Texts of values -/

/-- The texts of the values that the interpreter writes. -/
structure DisplayText where
  /-- The text of a decimal. -/
  formatDecimal : ℚ → String
  /-- The ISO 8601 text of an instant in UTC. -/
  isoformat : Timestamp → String
  /-- The value of a code. -/
  codeValue : NoTradeCode → String

/-- The value of the status in messages. -/
def ApplicationAdvisoryStatus.value : ApplicationAdvisoryStatus → String
  | ready => "READY"
  | noTrade => "NO_TRADE"
  | degraded => "DEGRADED"
  | serviceUnavailable => "SERVICE_UNAVAILABLE"

/-- The value of the status in messages. -/
def ExplanationProviderStatus.value : ExplanationProviderStatus → String
  | llmSuccess => "LLM_SUCCESS"
  | llmUnavailable => "LLM_UNAVAILABLE"
  | llmInvalidOutput => "LLM_INVALID_OUTPUT"

/-- The value of the direction in messages. -/
def TradeDirection.value : TradeDirection → String
  | long => "LONG"
  | short => "SHORT"
  | neutral => "NEUTRAL"
  | wait => "WAIT"

/-- The value of the timeframe in messages. -/
def Timeframe.value : Timeframe → String
  | m1 => "M1"
  | m5 => "M5"
  | m15 => "M15"
  | m30 => "M30"
  | h1 => "H1"
  | h4 => "H4"
  | d1 => "D1"
  | w1 => "W1"

/-- The value of the stage in messages. -/
def NoTradeStage.value : NoTradeStage → String
  | evaluation => "EVALUATION"
  | judge => "JUDGE"
  | policy => "POLICY"
  | setup => "SETUP"
  | event => "EVENT"
  | risk => "RISK"
  | portfolio => "PORTFOLIO"
  | session => "SESSION"
  | final => "FINAL"
  | issuance => "ISSUANCE"

/-- The value of the reason in messages. -/
def RuntimeFactAssemblyBlockReason.value : RuntimeFactAssemblyBlockReason → String
  | rolloverUnavailable => "ROLLOVER_UNAVAILABLE"
  | realizedPnlUnavailable => "REALIZED_PNL_UNAVAILABLE"
  | openRiskUnavailable => "OPEN_RISK_UNAVAILABLE"
  | timestampMismatch => "TIMESTAMP_MISMATCH"

/-- The text of a truth value. -/
def formatBool (b : Bool) : String := if b then "True" else "False"

/-- Lines of a section. -/
def joinLines (lines : List String) : String := "\n".intercalate lines

/-- A section that cannot be packed. -/
inductive RenderingError
  | oversizedSection (length limit : ℕ)
  deriving DecidableEq, Repr

/-- A conversion to UTC that leaves the calendar. -/
inductive OverflowError
  | dateValueOutOfRange
  deriving DecidableEq, Repr

/-- Why an advisory is not sent. -/
inductive RenderingException
  | overflowError (error : OverflowError)
  | renderingError (error : RenderingError)
  deriving DecidableEq, Repr

/-! ## Sections -/

variable (text : DisplayText)

/-- The text of a timestamp in UTC; the conversion overflows where the calendar ends. -/
def formatTimestamp (value : Timestamp) : Except OverflowError String :=
  if InUtcRange value then .ok (text.isoformat value) else .error .dateValueOutOfRange

/-- Every authoritative field of a recommendation. -/
def renderRecommendation (rec : RecommendationDTO) : Except OverflowError String := do
  let levels := ", ".intercalate (rec.takeProfitLevels.map fun level => text.formatDecimal level)
  let takeProfitLevels := if levels = "" then "none" else levels
  let signalTime ← formatTimestamp text rec.signalTime
  let validUntil ← formatTimestamp text rec.validUntil
  return joinLines [
    "Trade: " ++ rec.tradeId.val,
    "Symbol: " ++ rec.symbol.val,
    "Strategy: " ++ rec.strategyFamily.value,
    "Direction: " ++ rec.direction.value,
    "Entry: " ++ text.formatDecimal rec.entryPrice,
    "Stop: " ++ text.formatDecimal rec.stopLoss,
    "Take-profit: " ++ takeProfitLevels,
    "Volume: " ++ text.formatDecimal rec.approvedVolume,
    "Risk: " ++ text.formatDecimal rec.approvedRiskAmount ++ " " ++ rec.accountCurrency.val,
    "Signal time: " ++ signalTime,
    "Valid until: " ++ validUntil]

/-- Family, stage and codes of a no-trade reason. -/
def renderNoTradeReason (reason : NoTradeReasonDTO) : String :=
  reason.strategyFamily.value ++ " — " ++ reason.stage.value ++ ": " ++
    ", ".intercalate (reason.codes.map text.codeValue)

/-- The diagnostics of a degraded cycle. -/
def renderDegradedDiagnostics (response : AdvisoryResponse) : String :=
  let dataQuality := response.dataQuality
  let failedIssuance := response.diagnostics.issuancePersistence.filter fun entry =>
    ¬ (entry.trackingPersisted ∧ entry.provenancePersisted)
  joinLines (["Diagnostics:"] ++
    (if dataQuality.technicalFetchFailedTimeframes = [] then []
      else ["- Technical fetch failed: " ++
        ", ".intercalate (dataQuality.technicalFetchFailedTimeframes.map Timeframe.value)]) ++
    ["- Account risk snapshot ready: " ++ formatBool dataQuality.accountRiskSnapshotReady] ++
    (if dataQuality.accountRiskSnapshotBlockReasons = [] then []
      else ["- Account risk snapshot blocked: " ++ ", ".intercalate
        (dataQuality.accountRiskSnapshotBlockReasons.map RuntimeFactAssemblyBlockReason.value)]) ++
    ["- LLM provider status: " ++ response.diagnostics.llmProviderStatus.value,
      "- Deterministic fallback used: " ++
        formatBool response.explanation.deterministicFallbackUsed] ++
    (if failedIssuance = [] then []
      else ["- Issuance persistence issues: " ++ toString failedIssuance.length]))

/-- One labelled narrative. -/
def renderRecommendationNarrative (narrative : RecommendationNarrativeDTO) : String :=
  narrative.tradeId.val ++ " — " ++ narrative.strategyFamily.value ++ "\n" ++
    narrative.narrative.val

/-- A labelled line of notes, if there are any. -/
def notesLine (label : String) (notes : List String) : List String :=
  if notes = [] then [] else [label ++ "; ".intercalate notes]

/-- The narrative: one text, whatever it says; `none` when there is nothing to show. -/
def renderExplanation (explanation : ExplanationDTO) : Option String :=
  let lines := (([explanation.headline.val, explanation.cycleSummary.val] ++
      explanation.noTradeExplanation.toList).filter (· ≠ "")) ++
    [if explanation.deterministicFallbackUsed then "Explanation source: deterministic"
      else "Explanation source: AI"] ++
    explanation.recommendationNarratives.map renderRecommendationNarrative ++
    notesLine "Warnings: " explanation.warnings ++
    notesLine "Risk notes: " explanation.riskNotes ++
    notesLine "Data quality notes: " explanation.dataQualityNotes
  if lines = [] then none else some (joinLines lines)

/-- The limit of a message; it leaves room below the limit of the server. -/
def defaultMaxChunkSize : ℕ := 4000

/-- Pieces of at most `maxSize` characters. -/
def splitNarrativeText (narrative : String) (maxSize : ℕ) : List String :=
  if narrative = "" then []
  else if narrative.length ≤ maxSize then [narrative]
  else (List.range ((narrative.length + maxSize - 1) / maxSize)).map fun i =>
    String.ofList ((narrative.toList.drop (i * maxSize)).take maxSize)

/-- Symbol, status, time and cycle. -/
def renderHeader (response : AdvisoryResponse) : Except OverflowError String := do
  let asOf ← formatTimestamp text response.asOf
  return "Symbol: " ++ response.symbol.val ++ "\n" ++
    "Status: " ++ response.status.value ++ "\n" ++
    "As of: " ++ asOf ++ "\n" ++
    "Cycle: " ++ response.logicalCycleId

/-- The sections before the narrative. -/
def fixedSections (response : AdvisoryResponse) : Except OverflowError (List String) := do
  let header ← renderHeader text response
  let recommendations ← response.recommendations.mapM (renderRecommendation text)
  return [header] ++
    (if response.status = .degraded then
      ["DEGRADED — this cycle's data/service quality was degraded."] else []) ++
    (if response.recommendations = [] then ["NO TRADE"] else recommendations) ++
    response.noTradeReasons.map (renderNoTradeReason text) ++
    (if response.status = .degraded then [renderDegradedDiagnostics response] else [])

/-- The sections of an advisory in the order they are sent. -/
def renderAdvisoryResponse (response : AdvisoryResponse) : Except OverflowError (List String) :=
  if response.status = .serviceUnavailable then do
    let header ← renderHeader text response
    return [header, "SERVICE UNAVAILABLE\nNo recommendation available this cycle."]
  else do
    let sections ← fixedSections text response
    return sections ++ (renderExplanation response.explanation).elim []
      fun narrative => splitNarrativeText narrative defaultMaxChunkSize

/-! ## Packing -/

/-- The text of a message. -/
def joinSections (sections : List String) : String := "\n\n".intercalate sections

/-- The messages so far, and the sections of the one that is filling. -/
structure Packing where
  chunks : List String := []
  current : List String := []
  currentLength : ℕ := 0

/-- Place a section in the message that is filling, or in another one. -/
def Packing.place (maxChunkSize : ℕ) (packing : Packing) (block : String) : Packing :=
  let separatorLength := if packing.current = [] then 0 else 2
  if packing.current ≠ [] ∧
      maxChunkSize < packing.currentLength + separatorLength + block.length then
    { chunks := packing.chunks ++ [joinSections packing.current], current := [block]
      currentLength := block.length }
  else
    { packing with
      current := packing.current ++ [block]
      currentLength := packing.currentLength + separatorLength + block.length }

/-- Add a section; one that is too long by itself is not packed at all. -/
def Packing.add (maxChunkSize : ℕ) (packing : Packing) (block : String) :
    Except RenderingError Packing := do
  check (block.length ≤ maxChunkSize) (.oversizedSection block.length maxChunkSize)
  return packing.place maxChunkSize block

/-- Pack the sections into messages; no section is cut or moved. -/
def packMessageSections (sections : List String) (maxChunkSize : ℕ) :
    Except RenderingError (List String) := do
  let packing ← sections.foldlM (Packing.add maxChunkSize) {}
  return packing.chunks ++
    if packing.current = [] then [] else [joinSections packing.current]

/-- The messages of an advisory. -/
def advisoryMessages (response : AdvisoryResponse) : Except RenderingException (List String) := do
  let sections ← (renderAdvisoryResponse text response).mapError .overflowError
  (packMessageSections sections defaultMaxChunkSize).mapError .renderingError

variable {text} {limit : ℕ} {packing : Packing} {block : String} {sections done : List String}
  {response : AdvisoryResponse} {error : RenderingError}

theorem length_joinSections_concat {blocks : List String} (h : blocks ≠ []) (block : String) :
    (joinSections (blocks ++ [block])).length =
      (joinSections blocks).length + 2 + block.length := by
  rw [joinSections, String.intercalate_append_of_ne_nil h (List.cons_ne_nil _ _),
    String.intercalate_singleton, String.length_append, String.length_append]
  rfl

theorem joinSections_singleton (block : String) : joinSections [block] = block :=
  String.intercalate_singleton

/-- What the packing has done with the sections so far. -/
structure Packing.Holds (limit : ℕ) (done : List String) (packing : Packing) : Prop where
  groups : ∃ groups : List (List String), packing.chunks = groups.map joinSections ∧
    groups.flatten ++ packing.current = done ∧
      ∀ group ∈ groups, group ≠ [] ∧ (joinSections group).length ≤ limit
  currentLength : packing.currentLength = (joinSections packing.current).length
  fits : packing.currentLength ≤ limit

theorem Packing.holds_empty (limit : ℕ) : Packing.Holds limit [] {} where
  groups := ⟨[], rfl, rfl, fun _ h => absurd h List.not_mem_nil⟩
  currentLength := by rw [joinSections, String.intercalate_nil]; rfl
  fits := Nat.zero_le _

/-- **One section is placed whole**, in the message that is filling or in a new one. -/
theorem Packing.Holds.place (h : packing.Holds limit done) (hblock : block.length ≤ limit) :
    (packing.place limit block).Holds limit (done ++ [block]) := by
  obtain ⟨⟨groups, hchunks, hflatten, hgroups⟩, hlength, hfits⟩ := h
  by_cases hempty : packing.current = []
  · -- the first section of a message
    rw [hempty, List.append_nil] at hflatten
    have hzero : packing.currentLength = 0 := by
      rw [hlength, hempty, joinSections, String.intercalate_nil]
      rfl
    rw [Packing.place, if_neg (fun hcon => hcon.1 hempty), if_pos hempty, hempty, hzero]
    refine ⟨⟨groups, hchunks, ?_, hgroups⟩, ?_, ?_⟩
    · rw [hflatten, List.nil_append]
    · show 0 + 0 + block.length = (joinSections [block]).length
      rw [joinSections_singleton]
      omega
    · show 0 + 0 + block.length ≤ limit
      omega
  · rw [Packing.place, if_neg hempty]
    by_cases hover : limit < packing.currentLength + 2 + block.length
    · -- the message is full
      rw [if_pos ⟨hempty, hover⟩]
      refine ⟨⟨groups ++ [packing.current], ?_, ?_, ?_⟩, ?_, hblock⟩
      · rw [List.map_append, hchunks]
        rfl
      · rw [List.flatten_append, List.flatten_singleton, hflatten]
      · intro group hgroup
        rcases List.mem_append.mp hgroup with hgroup | hgroup
        · exact hgroups group hgroup
        · rw [List.mem_singleton.mp hgroup]
          exact ⟨hempty, hlength ▸ hfits⟩
      · show block.length = (joinSections [block]).length
        rw [joinSections_singleton]
    · rw [if_neg (fun hcon => hover hcon.2)]
      refine ⟨⟨groups, hchunks, ?_, hgroups⟩, ?_, not_lt.mp hover⟩
      · rw [← List.append_assoc, hflatten]
      · rw [length_joinSections_concat hempty, ← hlength]

/-- Sections that fit are all packed. -/
theorem foldlM_add_ok (h : packing.Holds limit done)
    (hsections : ∀ block ∈ sections, block.length ≤ limit) :
    ∃ packing', sections.foldlM (Packing.add limit) packing = .ok packing' ∧
      packing'.Holds limit (done ++ sections) := by
  induction sections generalizing packing done with
  | nil => exact ⟨packing, rfl, by rwa [List.append_nil]⟩
  | cons block sections ih =>
      obtain ⟨hblock, hsections⟩ := List.forall_mem_cons.mp hsections
      obtain ⟨packing', hrun, hholds⟩ := ih (h.place hblock) hsections
      refine ⟨packing', ?_, by rwa [List.append_assoc] at hholds⟩
      rw [List.foldlM_cons]
      exact bind_ok_iff.mpr ⟨_, check_bind_ok.mpr ⟨hblock, rfl⟩, hrun⟩

theorem foldlM_add_error (h : ∃ block ∈ sections, limit < block.length) (packing : Packing) :
    ∃ block ∈ sections, limit < block.length ∧ sections.foldlM (Packing.add limit) packing =
      .error (.oversizedSection block.length limit) := by
  induction sections generalizing packing with
  | nil => exact absurd h fun ⟨_, hmem, _⟩ => List.not_mem_nil hmem
  | cons block sections ih =>
      rw [List.foldlM_cons, Packing.add, check]
      by_cases hblock : block.length ≤ limit
      · obtain ⟨long, hlong, hlt⟩ := h
        have hrest : ∃ block ∈ sections, limit < block.length := by
          rcases List.mem_cons.mp hlong with rfl | hlong
          · exact absurd hblock hlt.not_ge
          · exact ⟨long, hlong, hlt⟩
        obtain ⟨block', hmem, hlt', hrun⟩ := ih hrest (packing.place limit block)
        rw [if_pos hblock]
        exact ⟨block', List.mem_cons_of_mem _ hmem, hlt', hrun⟩
      · rw [if_neg hblock]
        exact ⟨block, List.mem_cons_self, not_le.mp hblock, rfl⟩

/-- The messages are the sections in order, in groups of bounded size. -/
structure Packed (limit : ℕ) (sections chunks : List String) : Prop where
  groups : ∃ groups : List (List String), chunks = groups.map joinSections ∧
    groups.flatten = sections ∧ ∀ group ∈ groups, group ≠ []
  fits : ∀ chunk ∈ chunks, chunk.length ≤ limit

/-- **Packing loses nothing**, and fails only on a section that does not fit. -/
theorem packMessageSections_cases (sections : List String) (limit : ℕ) :
    (∃ chunks, packMessageSections sections limit = .ok chunks ∧ Packed limit sections chunks ∧
      ∀ block ∈ sections, block.length ≤ limit) ∨
    ∃ block ∈ sections, limit < block.length ∧
      packMessageSections sections limit = .error (.oversizedSection block.length limit) := by
  by_cases hsections : ∀ block ∈ sections, block.length ≤ limit
  · obtain ⟨packing, hrun, ⟨groups, hchunks, hflatten, hgroups⟩, hlength, hfits⟩ :=
      foldlM_add_ok (Packing.holds_empty limit) hsections
    refine .inl ⟨_, bind_ok_iff.mpr ⟨packing, hrun, rfl⟩, ?_, hsections⟩
    rw [List.nil_append] at hflatten
    by_cases hempty : packing.current = []
    · rw [if_pos hempty, List.append_nil, hchunks]
      rw [hempty, List.append_nil] at hflatten
      refine ⟨⟨groups, rfl, hflatten, fun group hgroup => (hgroups group hgroup).1⟩, ?_⟩
      exact List.forall_mem_map.mpr fun group hgroup => (hgroups group hgroup).2
    · rw [if_neg hempty, hchunks]
      refine ⟨⟨groups ++ [packing.current], ?_, ?_, ?_⟩, ?_⟩
      · rw [List.map_append]
        rfl
      · rw [List.flatten_append, List.flatten_singleton, hflatten]
      · exact List.forall_mem_append.mpr ⟨fun group hgroup => (hgroups group hgroup).1,
          List.forall_mem_singleton.mpr hempty⟩
      · exact List.forall_mem_append.mpr
          ⟨List.forall_mem_map.mpr fun group hgroup => (hgroups group hgroup).2,
            List.forall_mem_singleton.mpr (hlength ▸ hfits)⟩
  · push Not at hsections
    obtain ⟨block, hmem, hlt, hrun⟩ := foldlM_add_error hsections {}
    refine .inr ⟨block, hmem, hlt, ?_⟩
    rw [packMessageSections, hrun]
    rfl

/-! ## Splitting the narrative -/

theorem flatten_pieces {α : Type} (l : List α) (n k : ℕ) :
    ((List.range k).map fun i => (l.drop (i * n)).take n).flatten = l.take (k * n) := by
  induction k with
  | zero => rw [Nat.zero_mul, List.take_zero]; rfl
  | succ k ih =>
      rw [List.range_succ, List.map_append, List.flatten_append, ih, List.map_singleton,
        List.flatten_singleton, Nat.succ_mul, List.take_add]

/-- **The pieces of a narrative are the whole narrative**, each within the limit. -/
theorem splitNarrativeText_spec {narrative : String} {maxSize : ℕ} (hpos : 0 < maxSize) :
    (splitNarrativeText narrative maxSize).flatMap String.toList = narrative.toList ∧
      ∀ piece ∈ splitNarrativeText narrative maxSize, piece.length ≤ maxSize := by
  unfold splitNarrativeText
  split_ifs with hempty hshort
  · rw [hempty]
    exact ⟨rfl, fun _ h => absurd h List.not_mem_nil⟩
  · exact ⟨List.flatMap_singleton _ _, List.forall_mem_singleton.mpr hshort⟩
  · constructor
    · rw [List.flatMap_def, List.map_map]
      have hcount : narrative.length ≤
          (narrative.length + maxSize - 1) / maxSize * maxSize := by
        have := Nat.lt_div_mul_add (a := narrative.length + maxSize - 1) hpos
        omega
      calc _ = ((List.range ((narrative.length + maxSize - 1) / maxSize)).map fun i =>
              (narrative.toList.drop (i * maxSize)).take maxSize).flatten := by
            simp [Function.comp_def]
        _ = narrative.toList := by
            rw [flatten_pieces]
            exact List.take_of_length_le (String.length_toList ▸ hcount)
    · intro piece hpiece
      obtain ⟨i, -, rfl⟩ := List.mem_map.mp hpiece
      rw [String.length_ofList]
      exact List.length_take_le _ _

/-! ## The advisory as messages -/

theorem exists_joinSections_eq {group : List String} (h : block ∈ group) :
    ∃ before after, joinSections group = before ++ block ++ after := by
  induction group with
  | nil => exact absurd h List.not_mem_nil
  | cons first rest ih =>
      rcases List.mem_cons.mp h with rfl | hrest
      · by_cases hnil : rest = []
        · exact ⟨"", "", by rw [hnil, joinSections_singleton, String.empty_append,
            String.append_empty]⟩
        · refine ⟨"", "\n\n" ++ joinSections rest, ?_⟩
          rw [joinSections, String.intercalate_cons_of_ne_nil hnil, String.empty_append,
            String.append_assoc]
          rfl
      · obtain ⟨before, after, heq⟩ := ih hrest
        refine ⟨first ++ "\n\n" ++ before, after, ?_⟩
        rw [joinSections, String.intercalate_cons_of_ne_nil (List.ne_nil_of_mem hrest)]
        rw [joinSections] at heq
        rw [heq]
        simp only [String.append_assoc]

theorem Packed.exists_chunk {chunks : List String} (h : Packed limit sections chunks)
    (hblock : block ∈ sections) :
    ∃ chunk ∈ chunks, ∃ before after, chunk = before ++ block ++ after := by
  obtain ⟨groups, hchunks, hflatten, -⟩ := h.groups
  rw [← hflatten] at hblock
  obtain ⟨group, hgroup, hmem⟩ := List.mem_flatten.mp hblock
  exact ⟨joinSections group, hchunks ▸ List.mem_map_of_mem hgroup, exists_joinSections_eq hmem⟩

/-! ### Rendering -/

theorem formatTimestamp_isOk_iff (text : DisplayText) {value : Timestamp} :
    (∃ shown, formatTimestamp text value = .ok shown) ↔ InUtcRange value := by
  unfold formatTimestamp
  split_ifs with hrange <;> simp [hrange]

theorem renderHeader_isOk_iff (text : DisplayText) :
    (∃ header, renderHeader text response = .ok header) ↔ InUtcRange response.asOf := by
  rw [← formatTimestamp_isOk_iff text]
  constructor
  · rintro ⟨header, hok⟩
    obtain ⟨asOf, hasOf, -⟩ := bind_ok_iff.mp hok
    exact ⟨asOf, hasOf⟩
  · rintro ⟨asOf, hasOf⟩
    exact ⟨_, bind_ok_iff.mpr ⟨asOf, hasOf, rfl⟩⟩

theorem renderRecommendation_isOk_iff (text : DisplayText) {rec : RecommendationDTO} :
    (∃ shown, renderRecommendation text rec = .ok shown) ↔
      InUtcRange rec.signalTime ∧ InUtcRange rec.validUntil := by
  rw [← formatTimestamp_isOk_iff text, ← formatTimestamp_isOk_iff text]
  constructor
  · rintro ⟨shown, hok⟩
    obtain ⟨signalTime, hsignalTime, hok⟩ := bind_ok_iff.mp hok
    obtain ⟨validUntil, hvalidUntil, -⟩ := bind_ok_iff.mp hok
    exact ⟨⟨signalTime, hsignalTime⟩, ⟨validUntil, hvalidUntil⟩⟩
  · rintro ⟨⟨signalTime, hsignalTime⟩, ⟨validUntil, hvalidUntil⟩⟩
    exact ⟨_, bind_ok_iff.mpr ⟨signalTime, hsignalTime,
      bind_ok_iff.mpr ⟨validUntil, hvalidUntil, rfl⟩⟩⟩

/-- What is shown of the response has a date in UTC: its time, and unless the service is
unavailable the times of its recommendations. -/
structure AdvisoryResponse.HasUtcDates (response : AdvisoryResponse) : Prop where
  asOf : InUtcRange response.asOf
  recommendations : response.status ≠ .serviceUnavailable → ∀ rec ∈ response.recommendations,
    InUtcRange rec.signalTime ∧ InUtcRange rec.validUntil

/-- **An advisory is rendered exactly when its timestamps have a date in UTC.** -/
theorem renderAdvisoryResponse_isOk_iff (text : DisplayText) :
    (∃ sections, renderAdvisoryResponse text response = .ok sections) ↔ response.HasUtcDates := by
  unfold renderAdvisoryResponse
  by_cases hstatus : response.status = .serviceUnavailable
  · rw [if_pos hstatus]
    constructor
    · rintro ⟨sections, hok⟩
      obtain ⟨header, hheader, -⟩ := bind_ok_iff.mp hok
      exact ⟨(renderHeader_isOk_iff text).mp ⟨header, hheader⟩, fun hcon => absurd hstatus hcon⟩
    · rintro ⟨hasOf, -⟩
      obtain ⟨header, hheader⟩ := (renderHeader_isOk_iff text).mpr hasOf
      exact ⟨_, bind_ok_iff.mpr ⟨header, hheader, rfl⟩⟩
  · rw [if_neg hstatus]
    constructor
    · rintro ⟨sections, hok⟩
      obtain ⟨fixed, hfixed, -⟩ := bind_ok_iff.mp hok
      obtain ⟨header, hheader, hfixed⟩ := bind_ok_iff.mp hfixed
      obtain ⟨shown, hshown, -⟩ := bind_ok_iff.mp hfixed
      refine ⟨(renderHeader_isOk_iff text).mp ⟨header, hheader⟩, fun _ rec hrec => ?_⟩
      obtain ⟨block, -, hblock⟩ := exists_of_mem_left (mapM_ok_forall₂ hshown) hrec
      exact (renderRecommendation_isOk_iff text).mp ⟨block, hblock⟩
    · rintro ⟨hasOf, hrecs⟩
      obtain ⟨header, hheader⟩ := (renderHeader_isOk_iff text).mpr hasOf
      obtain ⟨shown, hshown⟩ := mapM_ok_of_exists fun rec hrec =>
        (renderRecommendation_isOk_iff text).mpr (hrecs hstatus rec hrec)
      exact ⟨_, bind_ok_iff.mpr ⟨_, bind_ok_iff.mpr ⟨header, hheader,
        bind_ok_iff.mpr ⟨shown, hshown, rfl⟩⟩, rfl⟩⟩

/-- A header, recommendation, no-trade reason or diagnostics that is rendered. -/
inductive Authoritative (text : DisplayText) (response : AdvisoryResponse) : String → Prop
  | header {block : String} :
      renderHeader text response = .ok block → Authoritative text response block
  | recommendation {rec : RecommendationDTO} {block : String} :
      response.status ≠ .serviceUnavailable → rec ∈ response.recommendations →
        renderRecommendation text rec = .ok block → Authoritative text response block
  | noTradeReason {reason : NoTradeReasonDTO} :
      response.status ≠ .serviceUnavailable → reason ∈ response.noTradeReasons →
        Authoritative text response (renderNoTradeReason text reason)
  | diagnostics :
      response.status = .degraded → Authoritative text response (renderDegradedDiagnostics response)

theorem length_markers_le :
    ∀ marker ∈ ["SERVICE UNAVAILABLE\nNo recommendation available this cycle.",
      "DEGRADED — this cycle's data/service quality was degraded.", "NO TRADE"],
      marker.length ≤ defaultMaxChunkSize := by decide

theorem length_le_of_mem_narrative
    (h : block ∈ (renderExplanation response.explanation).elim []
      fun narrative => splitNarrativeText narrative defaultMaxChunkSize) :
    block.length ≤ defaultMaxChunkSize := by
  cases hnarrative : renderExplanation response.explanation with
  | none =>
      rw [hnarrative] at h
      cases h
  | some narrative =>
      rw [hnarrative] at h
      exact (splitNarrativeText_spec (by decide)).2 block h

theorem authoritative_of_long (hok : renderAdvisoryResponse text response = .ok sections)
    (hblock : block ∈ sections) (hlong : defaultMaxChunkSize < block.length) :
    Authoritative text response block := by
  have hmarker : ∀ marker, marker.length ≤ defaultMaxChunkSize → block ≠ marker :=
    fun marker hle heq => (heq ▸ hlong).not_ge hle
  obtain ⟨hunavailable, hdegraded, hnoTrade, -⟩ := by
    simpa only [List.forall_mem_cons] using length_markers_le
  unfold renderAdvisoryResponse at hok
  by_cases hstatus : response.status = .serviceUnavailable
  · rw [if_pos hstatus] at hok
    obtain ⟨header, hheader, hok⟩ := bind_ok_iff.mp hok
    cases hok
    rcases List.mem_cons.mp hblock with rfl | hblock
    · exact .header hheader
    · exact absurd (List.mem_singleton.mp hblock) (hmarker _ hunavailable)
  · rw [if_neg hstatus] at hok
    obtain ⟨fixed, hfixed, hok⟩ := bind_ok_iff.mp hok
    cases hok
    rcases List.mem_append.mp hblock with hblock | hpiece
    · obtain ⟨header, hheader, hfixed⟩ := bind_ok_iff.mp hfixed
      obtain ⟨shown, hshown, hfixed⟩ := bind_ok_iff.mp hfixed
      cases hfixed
      simp only [List.mem_append, or_assoc] at hblock
      rcases hblock with hblock | hmark | hrec | hreason | hdiagnostics
      · obtain rfl := List.mem_singleton.mp hblock
        exact .header hheader
      · split_ifs at hmark
        · exact absurd (List.mem_singleton.mp hmark) (hmarker _ hdegraded)
        · cases hmark
      · split_ifs at hrec
        · exact absurd (List.mem_singleton.mp hrec) (hmarker _ hnoTrade)
        · obtain ⟨rec, hmem, hrendered⟩ := exists_of_mem_mapM hshown hrec
          exact .recommendation hstatus hmem hrendered
      · obtain ⟨reason, hmem, rfl⟩ := List.mem_map.mp hreason
        exact .noTradeReason hstatus hmem
      · split_ifs at hdiagnostics with hdeg
        · obtain rfl := List.mem_singleton.mp hdiagnostics
          exact .diagnostics hdeg
        · cases hdiagnostics
    · exact absurd (length_le_of_mem_narrative hpiece) hlong.not_ge

/-- A recommendation that is rendered is a section. -/
theorem exists_section_of_mem {rec : RecommendationDTO}
    (hok : renderAdvisoryResponse text response = .ok sections)
    (hstatus : response.status ≠ .serviceUnavailable) (hrec : rec ∈ response.recommendations) :
    ∃ block ∈ sections, renderRecommendation text rec = .ok block := by
  rw [renderAdvisoryResponse, if_neg hstatus] at hok
  obtain ⟨fixed, hfixed, hok⟩ := bind_ok_iff.mp hok
  cases hok
  obtain ⟨header, -, hfixed⟩ := bind_ok_iff.mp hfixed
  obtain ⟨shown, hshown, hfixed⟩ := bind_ok_iff.mp hfixed
  cases hfixed
  obtain ⟨block, hblock, hrendered⟩ := exists_of_mem_left (mapM_ok_forall₂ hshown) hrec
  refine ⟨block, List.mem_append_left _ ?_, hrendered⟩
  simp only [List.mem_append]
  rw [if_neg (List.ne_nil_of_mem hrec)]
  exact .inl (.inl (.inr hblock))

theorem exists_renderExplanation (explanation : ExplanationDTO) :
    ∃ narrative, renderExplanation explanation = some narrative := by
  refine ⟨_, if_neg ?_⟩
  simp

/-- What sending an advisory does: the messages are its sections in order and whole, every
recommendation is in one of them, the narrative pieces are the whole narrative, and only an
authoritative section that is too long by itself keeps it from being sent. -/
structure PacksWhole (text : DisplayText) (response : AdvisoryResponse) : Prop where
  returns : ∀ chunks, advisoryMessages text response = .ok chunks →
    ∃ sections, renderAdvisoryResponse text response = .ok sections ∧
      Packed defaultMaxChunkSize sections chunks
  recommendations : response.status ≠ .serviceUnavailable → ∀ chunks,
    advisoryMessages text response = .ok chunks → ∀ rec ∈ response.recommendations,
      ∃ block, renderRecommendation text rec = .ok block ∧
        ∃ chunk ∈ chunks, ∃ before after, chunk = before ++ block ++ after
  narrative : response.status ≠ .serviceUnavailable → ∀ sections,
    renderAdvisoryResponse text response = .ok sections → ∃ narrative fixed pieces,
      renderExplanation response.explanation = some narrative ∧
        fixedSections text response = .ok fixed ∧ sections = fixed ++ pieces ∧
          pieces.flatMap String.toList = narrative.toList
  raises : ∀ error, advisoryMessages text response = .error error →
    ∃ block, Authoritative text response block ∧ defaultMaxChunkSize < block.length ∧
      error = .renderingError (.oversizedSection block.length defaultMaxChunkSize)
  answers : (∀ block, Authoritative text response block → block.length ≤ defaultMaxChunkSize) →
    ∃ chunks, advisoryMessages text response = .ok chunks

/-- A rendered advisory is packed, or reports an authoritative section that is too long. -/
theorem advisoryMessages_cases (hok : renderAdvisoryResponse text response = .ok sections) :
    (∃ chunks, advisoryMessages text response = .ok chunks ∧
        Packed defaultMaxChunkSize sections chunks) ∨
      ∃ block, Authoritative text response block ∧ defaultMaxChunkSize < block.length ∧
        advisoryMessages text response =
          .error (.renderingError (.oversizedSection block.length defaultMaxChunkSize)) := by
  have hmessages : advisoryMessages text response =
      (packMessageSections sections defaultMaxChunkSize).mapError .renderingError := by
    rw [advisoryMessages, hok]
    rfl
  rw [hmessages]
  obtain ⟨chunks, hpack, hpacked, -⟩ | ⟨block, hblock, hlong, hpack⟩ :=
    packMessageSections_cases sections defaultMaxChunkSize
  · exact .inl ⟨chunks, by rw [hpack]; rfl, hpacked⟩
  · exact .inr ⟨block, authoritative_of_long hok hblock hlong, hlong, by rw [hpack]; rfl⟩

/-- An advisory that is rendered is packed whole. -/
theorem packsWhole_of_render (hok : renderAdvisoryResponse text response = .ok sections) :
    PacksWhole text response := by
  have hcases := advisoryMessages_cases hok
  have hpacked : ∀ chunks, advisoryMessages text response = .ok chunks →
      Packed defaultMaxChunkSize sections chunks := by
    intro chunks hchunks
    obtain ⟨chunks', hchunks', hpacked⟩ | ⟨block, -, -, herror⟩ := hcases
    · cases hchunks.symm.trans hchunks'
      exact hpacked
    · cases hchunks.symm.trans herror
  refine ⟨fun chunks hchunks => ⟨sections, hok, hpacked chunks hchunks⟩,
    fun hstatus chunks hchunks rec hrec => ?_, fun hstatus sections' hok' => ?_,
    fun error herror => ?_, fun hfit => ?_⟩
  · obtain ⟨block, hblock, hrendered⟩ := exists_section_of_mem hok hstatus hrec
    exact ⟨block, hrendered, (hpacked chunks hchunks).exists_chunk hblock⟩
  · obtain ⟨narrative, hnarrative⟩ := exists_renderExplanation response.explanation
    rw [renderAdvisoryResponse, if_neg hstatus] at hok'
    obtain ⟨fixed, hfixed, hok'⟩ := bind_ok_iff.mp hok'
    cases hok'
    refine ⟨narrative, fixed, splitNarrativeText narrative defaultMaxChunkSize, hnarrative,
      hfixed, ?_, (splitNarrativeText_spec (by decide)).1⟩
    rw [hnarrative]
    rfl
  · obtain ⟨chunks', hchunks', -⟩ | ⟨block, hblock, hlong, herror'⟩ := hcases
    · cases herror.symm.trans hchunks'
    · cases herror.symm.trans herror'
      exact ⟨block, hblock, hlong, rfl⟩
  · obtain ⟨chunks', hchunks', -⟩ | ⟨block, hblock, hlong, -⟩ := hcases
    · exact ⟨chunks', hchunks'⟩
    · exact absurd (hfit block hblock) hlong.not_ge

/-- **Packing an advisory loses nothing exactly when its timestamps have a date in UTC**: else the
conversion of a timestamp overflows, and no message is sent. -/
theorem advisory_packsWhole_iff (text : DisplayText) (response : AdvisoryResponse) :
    PacksWhole text response ↔ response.HasUtcDates := by
  rw [← renderAdvisoryResponse_isOk_iff text]
  constructor
  · intro h
    cases hrender : renderAdvisoryResponse text response with
    | ok sections => exact ⟨sections, rfl⟩
    | error error =>
        -- what the conversion raises is no `RenderingError`
        have hmessages : advisoryMessages text response = .error (.overflowError error) := by
          rw [advisoryMessages, hrender]
          rfl
        obtain ⟨block, -, -, hraised⟩ := h.raises _ hmessages
        cases hraised
  · rintro ⟨sections, hok⟩
    exact packsWhole_of_render hok

/-- The first midnight of the calendar on a clock one hour ahead of UTC. -/
def firstMidnight : AwareDatetime where
  wallClock := minTimestamp
  utcoffset := 60 * 60 * 1000000
  in_range := by decide
  lt_day := by decide

/-- An advisory without recommendations at that midnight. -/
def firstAdvisory : AdvisoryResponse where
  logicalCycleId := "telegram-1"
  asOf := firstMidnight.instant
  symbol := btcusdt
  status := .noTrade
  recommendations := []
  noTradeReasons := []
  dataQuality := {
    technicalFetchFailedTimeframes := []
    accountRiskSnapshotReady := true
    accountRiskSnapshotBlockReasons := [] }
  diagnostics := { llmProviderStatus := .llmSuccess, issuancePersistence := [] }
  explanation := {
    headline := ⟨"headline", by decide⟩
    cycleSummary := ⟨"summary", by decide⟩
    noTradeExplanation := none
    warnings := []
    dataQualityNotes := []
    riskNotes := []
    deterministicFallbackUsed := false }

/-- Values shown as numbers. -/
def plainText : DisplayText where
  formatDecimal value := toString value.num
  isoformat value := toString value
  codeValue _ := ""

/-- The first midnight has no date in UTC, and the advisory is not sent. -/
theorem firstAdvisory_overflows :
    advisoryMessages plainText firstAdvisory =
        .error (.overflowError .dateValueOutOfRange) ∧ ¬ PacksWhole plainText firstAdvisory := by
  have hoverflow : advisoryMessages plainText firstAdvisory =
      .error (.overflowError .dateValueOutOfRange) := by decide +kernel
  refine ⟨hoverflow, fun h => ?_⟩
  obtain ⟨block, -, -, hraised⟩ := h.raises _ hoverflow
  cases hraised

end TradingAdvisor
