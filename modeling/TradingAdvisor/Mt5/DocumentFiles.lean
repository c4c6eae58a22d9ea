import TradingAdvisor.Application.Identity
import TradingAdvisor.Lib.AgreeOff

/-!
# How a document gets into its file

A document is written to a temporary file, which then replaces the file of the document. Each step
can fail or be the last thing the process does, and leaves the temporary file in any state.

* `StoreDirectory` — the files of a store, by what the platform tells apart;
* `StoreDirectory.write` — the write, with the results of its steps as its environment;
* **`write_atomic`** — wherever the write ends, a later read finds the old document or the new one,
  and the other documents and their listing stay.
-/

namespace TradingAdvisor

open Checks VersionedStore

/-! ## Directories -/

/-- The stores of documents: tracked recommendations and their provenance. -/
inductive DocumentStore
  | tracking
  | provenance
  deriving DecidableEq, Repr

/-- What the name of a document ends in. -/
def DocumentStore.suffix : DocumentStore → String
  | tracking => ".json"
  | provenance => ".provenance.json"

/-- A file of the directory. -/
structure DirectoryEntry where
  name : String
  content : FileRead

/-- The files of a directory; each is found under the key of its name. -/
structure StoreDirectory (platform : Platform) where
  files : Dict (List Char) DirectoryEntry
  named : ∀ e ∈ files.entries, platform.fileKey e.2.name.toList = e.1

/-- A directory without files. -/
def StoreDirectory.empty (platform : Platform) : StoreDirectory platform := ⟨∅, by simp⟩

/-- The name of the document of a trade. -/
def documentName (store : DocumentStore) (tradeId : String) : String := tradeId ++ store.suffix

/-- The name of the temporary file of a document. -/
def temporaryName (store : DocumentStore) (tradeId : String) : String :=
  documentName store tradeId ++ ".tmp"

/-- The key of the document of a trade. -/
def documentFile (platform : Platform) (store : DocumentStore) (tradeId : String) : List Char :=
  platform.fileKey (documentName store tradeId).toList

/-- The key of the temporary file of a document. -/
def temporaryFile (platform : Platform) (store : DocumentStore) (tradeId : String) : List Char :=
  platform.fileKey (temporaryName store tradeId).toList

namespace StoreDirectory

variable {platform : Platform} {α : Type}

/-- Put a file of a name into the directory. -/
def put (dir : StoreDirectory platform) (name : String) (content : FileRead) :
    StoreDirectory platform where
  files := dir.files.insert (platform.fileKey name.toList) ⟨name, content⟩
  named e he := by
    rw [AList.entries_insert, List.mem_cons] at he
    rcases he with rfl | he
    · rfl
    · exact dir.named e ((List.kerase_sublist _ _).subset he)

/-- Remove the file of a name. -/
def remove (dir : StoreDirectory platform) (name : String) : StoreDirectory platform where
  files := dir.files.erase (platform.fileKey name.toList)
  named e he := dir.named e ((List.kerase_sublist _ _).subset he)

/-- What the file system answers to the read of a name. -/
def answer (dir : StoreDirectory platform) (name : String) : FileRead :=
  ((dir.files.lookup (platform.fileKey name.toList)).map DirectoryEntry.content).getD .fileNotFound

/-- Read the document of a trade. -/
def read (validate : String → Option α) (store : DocumentStore) (dir : StoreDirectory platform)
    (tradeId : TradeId) : Except ReadException (PersistedRead α) :=
  readDocument validate platform
    ((∅ : DocumentDirectory).insert tradeId (dir.answer (documentName store tradeId.val))) tradeId

/-- The trade id that the name of a file lists, if it is the name of a document. -/
def listedId (platform : Platform) (store : DocumentStore) (name : String) : Option String :=
  if (platform.fileKey store.suffix.toList) <:+ platform.fileKey name.toList then
    -- the stem of a name that is a suffix as a whole is the name
    if store = .tracking ∧ name.length = store.suffix.length then some name
    else some (String.ofList (name.toList.take (name.length - store.suffix.length)))
  else none

/-- The listed trade ids, sorted. -/
def listTradeIds (store : DocumentStore) (dir : StoreDirectory platform) : List String :=
  (dir.files.entries.filterMap fun e => listedId platform store e.2.name).insertionSort (· ≤ ·)

/-! ## The write -/

/-- How a step goes wrong: an `OSError`, another exception, or the end of the process. -/
inductive Fault
  | osError
  | otherError
  | died
  deriving DecidableEq, Repr

/-- The steps before the replacement. -/
inductive WriteStep
  | mkdir
  | openTemporary
  | modelDumpJson
  | writeText
  | flush
  | fsync
  | closeTemporary
  deriving DecidableEq, Repr

/-- The steps before the replacement, in order. -/
def WriteStep.order : List WriteStep :=
  [.mkdir, .openTemporary, .modelDumpJson, .writeText, .flush, .fsync, .closeTemporary]

/-- How the atomic replacement ends; another exception or the end of the process can come before it
or after it. -/
inductive Replacement
  | done
  | osError
  | otherError (replaced : Bool)
  | died (replaced : Bool)
  deriving DecidableEq, Repr

/-- The results of the steps; a fault leaves some temporary file, or none. -/
structure WriteEnvironment where
  prepare : WriteStep → Option (Fault × Option ByteArray)
  replace : Replacement
  unlink : Option (Fault × Option ByteArray)

/-- How the write ends. -/
inductive WriteOutcome
  | returned (written : Bool)
  | raised
  | died
  deriving DecidableEq, Repr

/-- A temporary file is left, or none. -/
def leave (dir : StoreDirectory platform) (name : String) :
    Option ByteArray → StoreDirectory platform
  | some bytes => dir.put name (.content bytes)
  | none => dir.remove name

/-- Clean up after an `OSError`. -/
def cleanUp (dir : StoreDirectory platform) (temporary : String) (env : WriteEnvironment) :
    StoreDirectory platform × WriteOutcome :=
  match env.unlink with
  | none => (dir.remove temporary, .returned false)
  | some (.osError, left) => (dir.leave temporary left, .returned false)
  | some (.otherError, left) => (dir.leave temporary left, .raised)
  | some (.died, left) => (dir.leave temporary left, .died)

/-- The temporary file becomes the document. -/
def replaceFile (dir : StoreDirectory platform) (temporary document : String) :
    StoreDirectory platform :=
  (dir.remove temporary).put document (dir.answer temporary)

/-- Write one document: a temporary file, then its atomic replacement. -/
def write (modelDumpJson : α → String) (store : DocumentStore) (dir : StoreDirectory platform)
    (tradeId : TradeId) (document : α) (env : WriteEnvironment) :
    StoreDirectory platform × WriteOutcome :=
  if ¬ IsSafeTradeId platform tradeId then (dir, .returned false)
  else
    let temporary := temporaryName store tradeId.val
    match WriteStep.order.findSome? env.prepare with
    | some (.osError, left) => (dir.leave temporary left).cleanUp temporary env
    | some (.otherError, left) => (dir.leave temporary left, .raised)
    | some (.died, left) => (dir.leave temporary left, .died)
    | none =>
        let dir := dir.put temporary (.content (modelDumpJson document).toUTF8)
        let replaced := dir.replaceFile temporary (documentName store tradeId.val)
        match env.replace with
        | .done => (replaced, .returned true)
        | .osError => dir.cleanUp temporary env
        | .otherError done => (if done then replaced else dir, .raised)
        | .died done => (if done then replaced else dir, .died)

/-! ## The files a write touches -/

section Keys

variable {store : DocumentStore} {tradeId other name : String}

@[simp] theorem length_fileKey (platform : Platform) (s : List Char) :
    (platform.fileKey s).length = s.length := by
  cases platform <;> simp [Platform.fileKey]

theorem fileKey_take (platform : Platform) (s : List Char) (n : ℕ) :
    platform.fileKey (s.take n) = (platform.fileKey s).take n := by
  cases platform <;> simp [Platform.fileKey, List.map_take]

theorem documentFile_eq (platform : Platform) (store : DocumentStore) (tradeId : String) :
    documentFile platform store tradeId =
      platform.fileKey tradeId.toList ++ platform.fileKey store.suffix.toList := by
  rw [documentFile, documentName, String.toList_append, Platform.fileKey_append]

theorem documentFile_posix_injective (h : documentFile .posix store other =
    documentFile .posix store tradeId) : other = tradeId := by
  rw [documentFile_eq, documentFile_eq] at h
  exact String.toList_injective (List.append_cancel_right h)

theorem temporaryFile_eq (platform : Platform) (store : DocumentStore) (tradeId : String) :
    temporaryFile platform store tradeId =
      documentFile platform store tradeId ++ platform.fileKey ".tmp".toList := by
  rw [temporaryFile, temporaryName, String.toList_append, Platform.fileKey_append]
  rfl

theorem not_suffix_temporaryFile (platform : Platform) (store : DocumentStore) (tradeId : String) :
    ¬ platform.fileKey store.suffix.toList <:+ temporaryFile platform store tradeId := by
  rintro ⟨front, hfront⟩
  have hlast := congrArg List.getLast? hfront
  rw [temporaryFile_eq, List.getLast?_append, List.getLast?_append] at hlast
  have hdocument : (platform.fileKey store.suffix.toList).getLast? = some 'n' := by
    cases platform <;> cases store <;> decide
  have htemporary : (platform.fileKey ".tmp".toList).getLast? = some 'p' := by
    cases platform <;> decide
  rw [hdocument, htemporary] at hlast
  cases hlast

theorem documentFile_ne_temporaryFile (platform : Platform) (store : DocumentStore)
    (other tradeId : String) :
    documentFile platform store other ≠ temporaryFile platform store tradeId := by
  intro h
  apply not_suffix_temporaryFile platform store tradeId
  rw [← h, documentFile_eq]
  exact List.suffix_append _ _

theorem listedId_temporaryFile
    (h : platform.fileKey name.toList = temporaryFile platform store tradeId) :
    listedId platform store name = none := by
  rw [listedId, h, if_neg (not_suffix_temporaryFile platform store tradeId)]

/-- A file with the key of a document is listed under a trade id of that document. -/
theorem documentFile_of_listedId {id : String} (hne : tradeId ≠ "")
    (h : platform.fileKey name.toList = documentFile platform store tradeId)
    (hid : listedId platform store name = some id) :
    documentFile platform store id = documentFile platform store tradeId := by
  have hlen : name.length = tradeId.length + store.suffix.length := by
    have := congrArg List.length h
    rw [documentFile_eq] at this
    simpa [String.length_toList] using this
  have hpos : tradeId.length ≠ 0 := fun hzero => hne (String.length_eq_zero_iff.mp hzero)
  unfold listedId at hid
  split_ifs at hid with hsuffix hwhole
  · omega
  · cases hid
    rw [documentFile_eq, String.toList_ofList, fileKey_take, h, documentFile_eq, hlen,
      Nat.add_sub_cancel, List.take_append_of_le_length 
        (by simp [String.length_toList]), List.take_of_length_le (by simp [String.length_toList])]

end Keys

/-! ## What the steps leave -/

section Steps

variable {store : DocumentStore} {tradeId other : TradeId} {dir dir' : StoreDirectory platform}
  {validate : String → Option α} {modelDumpJson : α → String} {document : α}
  {env : WriteEnvironment}

/-- Only the temporary file of the document differs. -/
def Unreplaced (store : DocumentStore) (tradeId : TradeId) (dir dir' : StoreDirectory platform) :
    Prop :=
  AgreeOff (fun k => k = temporaryFile platform store tradeId.val) dir'.files dir.files

/-- The document has its new bytes; besides it only the temporary file differs. -/
structure Replaced (store : DocumentStore) (tradeId : TradeId) (bytes : ByteArray)
    (dir dir' : StoreDirectory platform) : Prop where
  agree : AgreeOff (fun k => k = documentFile platform store tradeId.val ∨
    k = temporaryFile platform store tradeId.val) dir'.files dir.files
  content : dir'.answer (documentName store tradeId.val) = .content bytes

theorem unreplaced_put (content : FileRead) :
    Unreplaced store tradeId dir (dir.put (temporaryName store tradeId.val) content) :=
  agreeOff_insert (K := fun k => k = temporaryFile platform store tradeId.val) rfl _ _

theorem unreplaced_remove :
    Unreplaced store tradeId dir (dir.remove (temporaryName store tradeId.val)) :=
  agreeOff_erase (K := fun k => k = temporaryFile platform store tradeId.val) rfl _

theorem unreplaced_leave (left : Option ByteArray) :
    Unreplaced store tradeId dir (dir.leave (temporaryName store tradeId.val) left) := by
  cases left with
  | none => exact unreplaced_remove
  | some bytes => exact unreplaced_put _

/-- After an `OSError` the write returns that nothing was written, or does not return. -/
theorem unreplaced_cleanUp (store : DocumentStore) (tradeId : TradeId)
    (dir : StoreDirectory platform) (env : WriteEnvironment) :
    Unreplaced store tradeId dir (dir.cleanUp (temporaryName store tradeId.val) env).1 ∧
      (dir.cleanUp (temporaryName store tradeId.val) env).2 ≠ .returned true := by
  unfold cleanUp
  cases env.unlink with
  | none => exact ⟨unreplaced_remove, by simp⟩
  | some result =>
      obtain ⟨fault, left⟩ := result
      cases fault <;> exact ⟨unreplaced_leave left, by simp⟩

theorem answer_put (dir : StoreDirectory platform) (name : String) (content : FileRead) :
    (dir.put name content).answer name = content := by
  rw [answer, put, AList.lookup_insert]
  rfl

/-- The replacement takes the bytes of the temporary file to the document. -/
theorem replaced_replaceFile (bytes : ByteArray) :
    Replaced store tradeId bytes dir
      ((dir.put (temporaryName store tradeId.val) (.content bytes)).replaceFile
        (temporaryName store tradeId.val) (documentName store tradeId.val)) := by
  constructor
  · exact ((agreeOff_insert (.inl rfl) _ _).trans (agreeOff_erase (.inr rfl) _)).trans
      (agreeOff_insert (.inr rfl) _ _)
  · rw [replaceFile, answer_put, answer_put]

/-- **A write leaves the document as it was and does not return `True`, or it replaces the document
and does not return `False`.** -/
theorem write_cases (modelDumpJson : α → String) (store : DocumentStore)
    (dir : StoreDirectory platform) (tradeId : TradeId) (document : α) (env : WriteEnvironment) :
    (Unreplaced store tradeId dir (dir.write modelDumpJson store tradeId document env).1 ∧
      (dir.write modelDumpJson store tradeId document env).2 ≠ .returned true) ∨
    (IsSafeTradeId platform tradeId ∧ Replaced store tradeId (modelDumpJson document).toUTF8 dir
        (dir.write modelDumpJson store tradeId document env).1 ∧
      (dir.write modelDumpJson store tradeId document env).2 ≠ .returned false) := by
  unfold write
  by_cases hsafe : IsSafeTradeId platform tradeId
  · rw [if_neg (not_not.mpr hsafe)]
    dsimp only
    cases WriteStep.order.findSome? env.prepare with
    | some result =>
        obtain ⟨fault, left⟩ := result
        have hleft : Unreplaced store tradeId dir
          (dir.leave (temporaryName store tradeId.val) left) := unreplaced_leave left
        cases fault with
        | osError =>
            obtain ⟨hclean, hfalse⟩ := unreplaced_cleanUp store tradeId
              (dir.leave (temporaryName store tradeId.val) left) env
            exact .inl ⟨hclean.trans hleft, hfalse⟩
        | otherError => exact .inl ⟨hleft, by simp⟩
        | died => exact .inl ⟨hleft, by simp⟩
    | none =>
        have hput : Unreplaced store tradeId dir (dir.put (temporaryName store tradeId.val)
          (.content (modelDumpJson document).toUTF8)) := unreplaced_put _
        have hreplaced : Replaced store tradeId (modelDumpJson document).toUTF8 dir _ :=
          replaced_replaceFile _
        cases env.replace with
        | done => exact .inr ⟨hsafe, hreplaced, by simp⟩
        | osError =>
            obtain ⟨hclean, hfalse⟩ := unreplaced_cleanUp store tradeId
              (dir.put (temporaryName store tradeId.val)
                (.content (modelDumpJson document).toUTF8)) env
            exact .inl ⟨hclean.trans hput, hfalse⟩
        | otherError replaced =>
            cases replaced with
            | true => exact .inr ⟨hsafe, hreplaced, by simp⟩
            | false => exact .inl ⟨hput, by simp⟩
        | died replaced =>
            cases replaced with
            | true => exact .inr ⟨hsafe, hreplaced, by simp⟩
            | false => exact .inl ⟨hput, by simp⟩
  · rw [if_pos hsafe]
    exact .inl ⟨AgreeOff.refl _, by simp⟩

/-! ## What is read and listed afterwards -/

/-- The text of a document reads back as the document. -/
structure RoundTrips (validate : String → Option α) (modelDumpJson : α → String) (document : α) :
    Prop where
  validate_dump : validate (modelDumpJson document) = some document
  /-- JSON escapes the control characters. -/
  no_return : '\r' ∉ (modelDumpJson document).toList

theorem read_congr (h : dir'.answer (documentName store tradeId.val) =
    dir.answer (documentName store tradeId.val)) :
    dir'.read validate store tradeId = dir.read validate store tradeId := by
  rw [read, read, h]

/-- The text of a file is read and validated. -/
theorem read_of_text {text : String} (hsafe : IsSafeTradeId platform tradeId)
    (hreturn : '\r' ∉ text.toList)
    (h : dir.answer (documentName store tradeId.val) = .content text.toUTF8) :
    dir.read validate store tradeId =
      .ok (match validate text with
        | some document => .valid document
        | none => .corrupt) := by
  unfold read readDocument
  rw [if_pos hsafe, AList.lookup_insert, h]
  have htext : readText text.toUTF8 = .ok text := by
    rw [readText_toUTF8, universalNewlines_of_notMem hreturn, String.ofList_toList]
  show (readText text.toUTF8 >>= _) = _
  refine bind_ok_iff.mpr ⟨_, htext, ?_⟩
  cases validate text <;> rfl

/-- A written document is read. -/
theorem read_of_content (hsafe : IsSafeTradeId platform tradeId)
    (hcodec : RoundTrips validate modelDumpJson document)
    (h : dir.answer (documentName store tradeId.val) = .content (modelDumpJson document).toUTF8) :
    dir.read validate store tradeId = .ok (.valid document) := by
  rw [read_of_text hsafe hcodec.no_return h, hcodec.validate_dump]

variable {K : List Char → Prop} [DecidablePred K]

theorem read_of_agree (h : AgreeOff K dir'.files dir.files)
    (hother : ¬ K (documentFile platform store other.val)) :
    dir'.read validate store other = dir.read validate store other := by
  apply read_congr
  have hlookup : dir'.files.lookup (platform.fileKey (documentName store other.val).toList) =
      dir.files.lookup (platform.fileKey (documentName store other.val).toList) :=
    h.lookup_eq hother
  rw [answer, answer, hlookup]

/-- The ids of the other documents are listed as before. -/
theorem listTradeIds_of_agree (h : AgreeOff (fun k => k = documentFile platform store tradeId.val ∨
      k = temporaryFile platform store tradeId.val) dir'.files dir.files) :
    (dir'.listTradeIds store).filter (fun id =>
        documentFile platform store id ≠ documentFile platform store tradeId.val) =
      (dir.listTradeIds store).filter fun id =>
        documentFile platform store id ≠ documentFile platform store tradeId.val := by
  have hskip : ∀ d : StoreDirectory platform, ∀ e ∈ d.files.entries,
      (e.1 = documentFile platform store tradeId.val ∨
        e.1 = temporaryFile platform store tradeId.val) →
      ((listedId platform store e.2.name).filter fun id => decide
        (documentFile platform store id ≠ documentFile platform store tradeId.val)) = none := by
    intro d e he hkey
    have hname := d.named e he
    rw [Option.filter_eq_none_iff]
    intro id hid
    simp only [decide_eq_true_eq, not_not]
    rcases hkey with hkey | hkey
    · exact documentFile_of_listedId tradeId.property (hname.trans hkey) hid
    · rw [listedId_temporaryFile (hname.trans hkey)] at hid
      cases hid
  rw [listTradeIds, listTradeIds, filter_insertionSort, filter_insertionSort,
    List.filter_filterMap, List.filter_filterMap, h.filterMap_eq (hskip dir') (hskip dir)]

/-- **Document writes are atomic**, wherever they fail or the process dies. A later read finds the
old document or the new one; `True` is returned only with the new one in place, `False` only with
the old one; and the documents in other files, and their listing, stay. -/
theorem write_atomic (platform : Platform) (store : DocumentStore) (dir : StoreDirectory platform)
    (tradeId : TradeId) (validate : String → Option α) (modelDumpJson : α → String) (document : α)
    (env : WriteEnvironment) (hcodec : RoundTrips validate modelDumpJson document) :
    let result := dir.write modelDumpJson store tradeId document env
    (result.1.read validate store tradeId = dir.read validate store tradeId ∨
      result.1.read validate store tradeId = .ok (.valid document)) ∧
    (result.2 = .returned true → result.1.read validate store tradeId = .ok (.valid document)) ∧
    (result.2 = .returned false →
      result.1.read validate store tradeId = dir.read validate store tradeId) ∧
    (∀ other : TradeId, other ≠ tradeId →
      (platform = .windows →
        documentFile platform store other.val ≠ documentFile platform store tradeId.val) →
      result.1.read validate store other = dir.read validate store other) ∧
    (result.1.listTradeIds store).filter (fun id =>
        documentFile platform store id ≠ documentFile platform store tradeId.val) =
      (dir.listTradeIds store).filter fun id =>
        documentFile platform store id ≠ documentFile platform store tradeId.val := by
  intro result
  rcases write_cases modelDumpJson store dir tradeId document env with
    ⟨hold, hnot⟩ | ⟨hsafe, hnew, hnot⟩
  · have hread : result.1.read validate store tradeId = dir.read validate store tradeId :=
      read_of_agree hold (documentFile_ne_temporaryFile _ _ _ _)
    refine ⟨.inl hread, fun h => absurd h hnot, fun _ => hread, fun other _ _ => ?_, ?_⟩
    · exact read_of_agree hold (documentFile_ne_temporaryFile _ _ _ _)
    · exact listTradeIds_of_agree (hold.mono fun k hk => .inr hk)
  · have hread : result.1.read validate store tradeId = .ok (.valid document) :=
      read_of_content hsafe hcodec hnew.content
    refine ⟨.inr hread, fun _ => hread, fun h => absurd h hnot, fun other hne hother => ?_, ?_⟩
    · refine read_of_agree hnew.agree ?_
      rintro (h | h)
      · cases platform with
        | posix => exact hne (Subtype.ext (documentFile_posix_injective h))
        | windows => exact hother rfl h
      · exact documentFile_ne_temporaryFile _ _ _ _ h
    · exact listTradeIds_of_agree hnew.agree

end Steps

/-! Two tracking documents whose trade ids differ in the case of a letter. -/

/-- A pending document of some volume. -/
def sampleDocument (tradeId : TradeId) (volume : PositiveRat) : MT5TrackedRecommendation where
  positionRecord := {
    tradeId
    symbol := btcusdt
    direction := .long
    signalTime := 0
    validUntil := signalExecutionWindow
    plannedEntry := (100 : ℕ)
    stopLoss := 90 }
  approvedBrokerVolume := volume

/-- The trade id `A`, or `a`. -/
def sampleUpper : TradeId := ⟨"A", by decide⟩

/-- The trade id `a`. -/
def sampleLower : TradeId := ⟨"a", by decide⟩

/-- A codec of two documents. -/
def sampleModelValidateJson (text : String) : Option MT5TrackedRecommendation :=
  if text = "upper" then some (sampleDocument sampleUpper ⟨1, one_positive⟩)
  else if text = "lower" then some (sampleDocument sampleLower ⟨2, two_positive⟩)
  else none

/-- The text of the document of `a`. -/
def sampleModelDumpJson (_ : MT5TrackedRecommendation) : String := "lower"

/-- The directory with the document of `A`. -/
def sampleStoreDirectory (platform : Platform) : StoreDirectory platform :=
  StoreDirectory.put (.empty platform) "A.json" (.content "upper".toUTF8)

/-- Every step succeeds. -/
def undisturbed : WriteEnvironment := ⟨fun _ => none, .done, none⟩

/-- The directory after the document of `a` is written. -/
def sampleWritten (platform : Platform) : StoreDirectory platform × WriteOutcome :=
  (sampleStoreDirectory platform).write sampleModelDumpJson .tracking sampleLower
    (sampleDocument sampleLower ⟨2, two_positive⟩) undisturbed

/-- The process dies in the `fsync`, and half of the text is in the temporary file. -/
def diesInFsync : WriteEnvironment where
  prepare step := if step = .fsync then some (.died, some "low".toUTF8) else none
  replace := .done
  unlink := none

/-- The directory after the write of the document of `a` was interrupted. -/
def sampleInterrupted : StoreDirectory .posix × WriteOutcome :=
  (sampleStoreDirectory .posix).write sampleModelDumpJson .tracking sampleLower
    (sampleDocument sampleLower ⟨2, two_positive⟩) diesInFsync

theorem write_atomic_sample :
    sampleInterrupted.2 = .died ∧
      (sampleInterrupted.1.read sampleModelValidateJson .tracking sampleLower =
          (sampleStoreDirectory .posix).read sampleModelValidateJson .tracking sampleLower ∨
        sampleInterrupted.1.read sampleModelValidateJson .tracking sampleLower =
          .ok (.valid (sampleDocument sampleLower ⟨2, two_positive⟩))) ∧
      sampleInterrupted.1.read sampleModelValidateJson .tracking sampleUpper =
        (sampleStoreDirectory .posix).read sampleModelValidateJson .tracking sampleUpper ∧
      (sampleInterrupted.1.listTradeIds .tracking).filter (fun id =>
          documentFile .posix .tracking id ≠ documentFile .posix .tracking sampleLower.val) =
        ((sampleStoreDirectory .posix).listTradeIds .tracking).filter fun id =>
          documentFile .posix .tracking id ≠ documentFile .posix .tracking sampleLower.val := by
  obtain ⟨hread, -, -, hother, hlisted⟩ := write_atomic .posix .tracking
    (sampleStoreDirectory .posix) sampleLower sampleModelValidateJson sampleModelDumpJson
    (sampleDocument sampleLower ⟨2, two_positive⟩) diesInFsync ⟨by rfl, by decide⟩
  exact ⟨by decide +kernel, hread, hother sampleUpper (by decide) nofun, hlisted⟩

/-- Where the case of letters does not count, the write of `a` changes the document of `A`. -/
theorem write_changes_other_case : sampleUpper ≠ sampleLower ∧
    (sampleStoreDirectory .windows).read sampleModelValidateJson .tracking sampleUpper =
      .ok (.valid (sampleDocument sampleUpper ⟨1, one_positive⟩)) ∧
    (sampleWritten .windows).1.read sampleModelValidateJson .tracking sampleUpper =
      .ok (.valid (sampleDocument sampleLower ⟨2, two_positive⟩)) := by
  have hupper : RoundTrips sampleModelValidateJson (fun _ => "upper")
    (sampleDocument sampleUpper ⟨1, one_positive⟩) := ⟨rfl, by decide⟩
  have hlower : RoundTrips sampleModelValidateJson sampleModelDumpJson
    (sampleDocument sampleLower ⟨2, two_positive⟩) := ⟨rfl, by decide⟩
  exact ⟨by decide, read_of_content (by decide) hupper rfl, read_of_content (by decide) hlower rfl⟩

end StoreDirectory

end TradingAdvisor
