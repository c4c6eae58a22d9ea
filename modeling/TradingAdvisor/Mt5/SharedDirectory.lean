import TradingAdvisor.Lib.Keyed
import TradingAdvisor.Mt5.DocumentFiles

/-!
# Two stores in one directory

Tracked recommendations and their provenance are written side by side into one directory. The name
of a provenance document also ends like the name of a tracking document, so the listings of the two
stores are not apart.

* `SharedWrite`, `runWrites` — a sequence of writes of both stores;
* `lookup_runWrites` — the directory holds the last document that was written to each file;
* `Coexist` — both stores list and read what was written to them;
* **`coexist_iff`**: they do so exactly when nothing is written to the provenance store, no tracked
  trade id ends like one, and every trade id has a file of its own.
-/

namespace TradingAdvisor

open Checks VersionedStore Keyed StoreDirectory

/-! ## Writes of both stores -/

/-- A document of one of the stores. -/
inductive SharedDocument
  | tracking (tracked : MT5TrackedRecommendation)
  | provenance (provenance : FinalRecommendationProvenance)

/-- The store of a document. -/
def SharedDocument.store : SharedDocument → DocumentStore
  | tracking _ => .tracking
  | provenance _ => .provenance

/-- The models of the two documents and their texts. -/
structure StoreCodecs where
  trackingValidate : String → Option MT5TrackedRecommendation
  trackingDump : MT5TrackedRecommendation → String
  provenanceValidate : String → Option FinalRecommendationProvenance
  provenanceDump : FinalRecommendationProvenance → String

namespace StoreCodecs

/-- The text of a document. -/
def dump (codecs : StoreCodecs) : SharedDocument → String
  | .tracking tracked => codecs.trackingDump tracked
  | .provenance provenance => codecs.provenanceDump provenance

/-- The document of a text, as a store reads it. -/
def validate (codecs : StoreCodecs) (text : String) : DocumentStore → Option SharedDocument
  | .tracking => (codecs.trackingValidate text).map .tracking
  | .provenance => (codecs.provenanceValidate text).map .provenance

/-- The store of the document reads its text back, and the other store rejects it: neither model
has all the fields of the other. -/
structure Distinguishes (codecs : StoreCodecs) (document : SharedDocument) : Prop where
  own : RoundTrips (codecs.validate · document.store) codecs.dump document
  other : ∀ store, store ≠ document.store → codecs.validate (codecs.dump document) store = none

end StoreCodecs

/-- One write, with the results of its steps. -/
structure SharedWrite where
  tradeId : TradeId
  document : SharedDocument
  env : WriteEnvironment

/-- Every step before the replacement succeeds, and the replacement is done. -/
def StoreDirectory.WriteEnvironment.Replaces (env : WriteEnvironment) : Prop :=
  WriteStep.order.findSome? env.prepare = none ∧
    env.replace ∈ [.done, .otherError true, .died true]

instance (env : WriteEnvironment) : Decidable env.Replaces :=
  decidable_of_iff ((WriteStep.order.findSome? env.prepare).isNone = true ∧
    env.replace ∈ [.done, .otherError true, .died true]) (by
      rw [WriteEnvironment.Replaces, Option.isNone_iff_eq_none])

section Writes

variable (codecs : StoreCodecs) (platform : Platform) (writes : List SharedWrite)
  (store : DocumentStore) (tradeId : TradeId) (w : SharedWrite)

/-- The write puts its document into its file. -/
def SharedWrite.TakesEffect : Prop := IsSafeTradeId platform w.tradeId ∧ w.env.Replaces

instance : Decidable (w.TakesEffect platform) := inferInstanceAs (Decidable (_ ∧ _))

/-- The key of the file that is written. -/
def SharedWrite.file : List Char := documentFile platform w.document.store w.tradeId.val

/-- The file after the write. -/
def SharedWrite.entry : DirectoryEntry :=
  ⟨documentName w.document.store w.tradeId.val, .content (codecs.dump w.document).toUTF8⟩

variable {platform} in
/-- One write into the directory. -/
def runWrite (dir : StoreDirectory platform) (w : SharedWrite) : StoreDirectory platform :=
  (dir.write codecs.dump w.document.store w.tradeId w.document w.env).1

/-- The directory after a sequence of writes. -/
def runWrites : StoreDirectory platform := writes.foldl (runWrite codecs) (.empty platform)

/-- The writes that took effect. -/
def effective : List SharedWrite := writes.filter fun w => w.TakesEffect platform

/-- What was written to a store. -/
def writtenTo : List SharedWrite :=
  (effective platform writes).filter fun w => w.document.store = store

/-- The distinct trade ids written to a store, sorted. -/
def writtenIds : List String :=
  ((writtenTo platform writes store).map fun w => w.tradeId.val).dedup.insertionSort (· ≤ ·)

/-- The last document written to a store for a trade id. -/
def lastWritten : PersistedRead SharedDocument :=
  if IsSafeTradeId platform tradeId then
    match lastOf SharedWrite.tradeId (writtenTo platform writes store) tradeId with
    | some w => .valid w.document
    | none => .absent
  else .unavailable

/-- The platform takes the trade id for another one, that was written to the store. -/
def Respelled : Prop :=
  ∃ w ∈ writtenTo platform writes store, w.tradeId ≠ tradeId ∧
    platform.fileKey w.tradeId.val.toList = platform.fileKey tradeId.val.toList

/-- Each store lists exactly the trade ids written to it, and reads the last document written to it
for each. -/
structure Coexist : Prop where
  listed : ∀ store,
    (runWrites codecs platform writes).listTradeIds store = writtenIds platform writes store
  read : ∀ store tradeId, ¬ Respelled platform writes store tradeId →
    (runWrites codecs platform writes).read (codecs.validate · store) store tradeId =
      .ok (lastWritten platform writes store tradeId)

/-- Nothing is written to the provenance store, no tracked trade id ends like the name of a
provenance document, and different trade ids have different files. -/
structure OwnFiles : Prop where
  noProvenance : writtenTo platform writes .provenance = []
  noSuffix : ∀ w ∈ writtenTo platform writes .tracking,
    ¬ platform.fileKey ".provenance".toList <:+ platform.fileKey w.tradeId.val.toList
  distinct : ∀ w ∈ writtenTo platform writes .tracking,
    ¬ Respelled platform writes .tracking w.tradeId

end Writes

/-! ## What a write leaves in the directory -/

section Files

variable {platform} {dir : StoreDirectory platform} {k : List Char} {store store' : DocumentStore}

/-- The key is one of a temporary file. -/
def IsTemporary (platform : Platform) (k : List Char) : Prop :=
  platform.fileKey ".tmp".toList <:+ k

theorem isTemporary_temporaryFile (store : DocumentStore) (tradeId : String) :
    IsTemporary platform (temporaryFile platform store tradeId) := by
  rw [temporaryFile_eq]
  exact List.suffix_append _ _

theorem not_suffix_of_isTemporary (h : IsTemporary platform k) :
    ¬ platform.fileKey store.suffix.toList <:+ k := by
  rintro ⟨front, hfront⟩
  obtain ⟨front', hfront'⟩ := h
  have hlast := congrArg List.getLast? (hfront.trans hfront'.symm)
  rw [List.getLast?_append, List.getLast?_append] at hlast
  have hdocument : (platform.fileKey store.suffix.toList).getLast? = some 'n' := by
    cases platform <;> cases store <;> decide
  have htemporary : (platform.fileKey ".tmp".toList).getLast? = some 'p' := by
    cases platform <;> decide
  rw [hdocument, htemporary] at hlast
  cases hlast

theorem not_isTemporary_documentFile (platform : Platform) (store : DocumentStore)
    (tradeId : String) :
    ¬ IsTemporary platform (documentFile platform store tradeId) := by
  intro h
  apply not_suffix_of_isTemporary h
  rw [documentFile_eq]
  exact List.suffix_append _ _

theorem listedId_of_isTemporary {name : String}
    (h : IsTemporary platform (platform.fileKey name.toList)) :
    listedId platform store name = none := by
  rw [listedId, if_neg (not_suffix_of_isTemporary h)]

/-- Besides temporary files a write changes the file of its document, when it takes effect. -/
theorem lookup_write {α : Type} {modelDumpJson : α → String} {tradeId : TradeId} {document : α}
    {env : WriteEnvironment} (hk : ¬ IsTemporary platform k) :
    (dir.write modelDumpJson store tradeId document env).1.files.lookup k =
      if (IsSafeTradeId platform tradeId ∧ env.Replaces) ∧
          documentFile platform store tradeId.val = k then
        some ⟨documentName store tradeId.val, .content (modelDumpJson document).toUTF8⟩
      else dir.files.lookup k := by
  have htemporary : k ≠ temporaryFile platform store tradeId.val := by
    rintro rfl
    exact hk (isTemporary_temporaryFile _ _)
  have hunreplaced {dir' : StoreDirectory platform} (h : Unreplaced store tradeId dir dir') :
      dir'.files.lookup k = dir.files.lookup k := h.lookup_eq htemporary
  have hput : Unreplaced store tradeId dir
      (dir.put (temporaryName store tradeId.val) (.content (modelDumpJson document).toUTF8)) :=
    unreplaced_put _
  have hreplaced : ((dir.put (temporaryName store tradeId.val)
      (.content (modelDumpJson document).toUTF8)).replaceFile (temporaryName store tradeId.val)
        (documentName store tradeId.val)).files.lookup k =
      if documentFile platform store tradeId.val = k then
        some ⟨documentName store tradeId.val, .content (modelDumpJson document).toUTF8⟩
      else dir.files.lookup k := by
    rw [replaceFile, answer_put]
    by_cases hkey : documentFile platform store tradeId.val = k
    · rw [if_pos hkey, ← hkey]
      exact AList.lookup_insert _
    · rw [if_neg hkey]
      refine (AList.lookup_insert_ne (Ne.symm hkey)).trans ?_
      exact (AList.lookup_erase_ne htemporary).trans (AList.lookup_insert_ne htemporary)
  have hkept {dir' : StoreDirectory platform} (h : dir'.files.lookup k = dir.files.lookup k)
      (hnot : ¬ env.Replaces) : dir'.files.lookup k =
        if (IsSafeTradeId platform tradeId ∧ env.Replaces) ∧
            documentFile platform store tradeId.val = k then
          some ⟨documentName store tradeId.val, .content (modelDumpJson document).toUTF8⟩
        else dir.files.lookup k := by
    rw [if_neg fun h => hnot h.1.2, h]
  have hdone (hprepare : WriteStep.order.findSome? env.prepare = none)
      (hreplace : env.replace ∈ [.done, .otherError true, .died true])
      (hsafe : IsSafeTradeId platform tradeId) :
      ((dir.put (temporaryName store tradeId.val)
        (.content (modelDumpJson document).toUTF8)).replaceFile (temporaryName store tradeId.val)
          (documentName store tradeId.val)).files.lookup k =
        if (IsSafeTradeId platform tradeId ∧ env.Replaces) ∧
            documentFile platform store tradeId.val = k then
          some ⟨documentName store tradeId.val, .content (modelDumpJson document).toUTF8⟩
        else dir.files.lookup k := by
    have heffect : IsSafeTradeId platform tradeId ∧ env.Replaces := ⟨hsafe, hprepare, hreplace⟩
    simp only [hreplaced, heffect, true_and, and_self]
  unfold write
  by_cases hsafe : IsSafeTradeId platform tradeId
  · rw [if_neg (not_not.mpr hsafe)]
    dsimp only
    cases hprepare : WriteStep.order.findSome? env.prepare with
    | some result =>
        have hnot : ¬ env.Replaces := by simp [WriteEnvironment.Replaces, hprepare]
        obtain ⟨fault, left⟩ := result
        have hleft : Unreplaced store tradeId dir
          (dir.leave (temporaryName store tradeId.val) left) := unreplaced_leave left
        cases fault with
        | osError =>
            exact hkept (hunreplaced ((unreplaced_cleanUp store tradeId
              (dir.leave (temporaryName store tradeId.val) left) env).1.trans hleft)) hnot
        | otherError => exact hkept (hunreplaced hleft) hnot
        | died => exact hkept (hunreplaced hleft) hnot
    | none =>
        cases hreplace : env.replace with
        | done => exact hdone hprepare (by simp [hreplace]) hsafe
        | osError =>
            refine hkept (hunreplaced ((unreplaced_cleanUp store tradeId
              (dir.put (temporaryName store tradeId.val)
                (.content (modelDumpJson document).toUTF8)) env).1.trans hput)) ?_
            simp [WriteEnvironment.Replaces, hreplace]
        | otherError replaced =>
            cases replaced with
            | true => exact hdone hprepare (by simp [hreplace]) hsafe
            | false => exact hkept (hunreplaced hput) (by simp [WriteEnvironment.Replaces, hreplace])
        | died replaced =>
            cases replaced with
            | true => exact hdone hprepare (by simp [hreplace]) hsafe
            | false => exact hkept (hunreplaced hput) (by simp [WriteEnvironment.Replaces, hreplace])
  · rw [if_pos hsafe, if_neg fun h => hsafe h.1.1]

variable {codecs : StoreCodecs} {w : SharedWrite} {writes : List SharedWrite}

theorem lookup_runWrite (hk : ¬ IsTemporary platform k) :
    (runWrite codecs dir w).files.lookup k =
      if w.TakesEffect platform ∧ w.file platform = k then some (w.entry codecs)
      else dir.files.lookup k := lookup_write hk

/-- **The directory holds the last document that was written to each file.** -/
theorem lookup_runWrites (codecs : StoreCodecs) (writes : List SharedWrite)
    (hk : ¬ IsTemporary platform k) :
    (runWrites codecs platform writes).files.lookup k =
      (lastOf (SharedWrite.file platform) (effective platform writes) k).map
        (SharedWrite.entry codecs) := by
  induction writes using List.reverseRecOn with
  | nil => rfl
  | append_singleton writes w ih =>
      have hrun : runWrites codecs platform (writes ++ [w]) =
          runWrite codecs (runWrites codecs platform writes) w := by
        rw [runWrites, List.foldl_append]
        rfl
      rw [hrun, lookup_runWrite hk, ih]
      by_cases heffect : w.TakesEffect platform
      · have hlast : effective platform (writes ++ [w]) = effective platform writes ++ [w] := by
          rw [effective, List.filter_append, List.filter_cons_of_pos (by simpa using heffect)]
          rfl
        rw [hlast, lastOf_append_singleton]
        by_cases hfile : w.file platform = k
        · rw [if_pos hfile, if_pos ⟨heffect, hfile⟩]
          rfl
        · rw [if_neg hfile, if_neg fun h => hfile h.2]
      · have hskip : effective platform (writes ++ [w]) = effective platform writes := by
          rw [effective, List.filter_append, List.filter_cons_of_neg (by simpa using heffect)]
          exact List.append_nil _
        rw [hskip, if_neg fun h => heffect h.1]

end Files

/-! ## What is listed -/

section Listing

variable {platform : Platform} {store : DocumentStore} {codecs : StoreCodecs}
  {writes : List SharedWrite} {name id : String} {w w' : SharedWrite} {tradeId : TradeId}

theorem length_documentName (store : DocumentStore) (tradeId : TradeId) :
    store.suffix.length < (documentName store tradeId.val).length := by
  have hpos : tradeId.val.length ≠ 0 :=
    fun hzero => tradeId.property (String.length_eq_zero_iff.mp hzero)
  rw [documentName, String.length_append]
  omega

theorem listedId_documentName (platform : Platform) (store : DocumentStore) (tradeId : TradeId) :
    listedId platform store (documentName store tradeId.val) = some tradeId.val := by
  have hlen := length_documentName store tradeId
  have hsuffix : platform.fileKey store.suffix.toList <:+
      platform.fileKey (documentName store tradeId.val).toList := by
    rw [documentName, String.toList_append, Platform.fileKey_append]
    exact List.suffix_append _ _
  rw [listedId, if_pos hsuffix, if_neg fun h => hlen.ne' h.2, documentName, String.length_append,
    Nat.add_sub_cancel, String.toList_append,
    List.take_append_of_le_length (by simp [String.length_toList]),
    List.take_of_length_le (by simp [String.length_toList]), String.ofList_toList]

theorem fileKey_of_listedId (hname : store = .tracking → store.suffix.length < name.length)
    (h : listedId platform store name = some id) :
    platform.fileKey name.toList = documentFile platform store id := by
  unfold listedId at h
  split_ifs at h with hsuffix hwhole
  · exact absurd hwhole.2 (hname hwhole.1).ne'
  · obtain ⟨front, hfront⟩ := hsuffix
    have hlen : front.length = name.length - store.suffix.length := by
      have := congrArg List.length hfront
      rw [List.length_append, length_fileKey, length_fileKey, String.length_toList,
        String.length_toList] at this
      omega
    cases h
    rw [documentFile_eq, String.toList_ofList, fileKey_take, ← hfront, ← hlen, List.take_left]

/-- The name of a provenance document lists a tracked trade id. -/
theorem listedId_provenanceName (platform : Platform) (tradeId : TradeId) :
    listedId platform .tracking (documentName .provenance tradeId.val) =
      some (tradeId.val ++ ".provenance") := by
  have hname : documentName .provenance tradeId.val =
      documentName .tracking (tradeId.val ++ ".provenance") := by
    rw [documentName, documentName, String.append_assoc]
    rfl
  have hne : tradeId.val ++ ".provenance" ≠ "" := by
    intro h
    have := congrArg String.length h
    rw [String.length_append] at this
    exact absurd this (by simp)
  rw [hname]
  exact listedId_documentName platform .tracking ⟨_, hne⟩

/-- The name of a tracking document ends like the name of a provenance document exactly when its
trade id does. -/
theorem suffix_trackingName : platform.fileKey DocumentStore.provenance.suffix.toList <:+
      platform.fileKey (documentName .tracking tradeId.val).toList ↔
    platform.fileKey ".provenance".toList <:+ platform.fileKey tradeId.val.toList := by
  have hsplit : DocumentStore.provenance.suffix.toList =
    ".provenance".toList ++ DocumentStore.tracking.suffix.toList := by decide
  rw [documentName, String.toList_append, Platform.fileKey_append, hsplit,
    Platform.fileKey_append]
  constructor
  · rintro ⟨front, hfront⟩
    rw [← List.append_assoc] at hfront
    exact ⟨front, List.append_cancel_right hfront⟩
  · rintro ⟨front, hfront⟩
    exact ⟨front, by rw [← List.append_assoc, hfront]⟩

theorem listedId_trackingName
    (h : ¬ platform.fileKey ".provenance".toList <:+ platform.fileKey tradeId.val.toList) :
    listedId platform .provenance (documentName .tracking tradeId.val) = none :=
  if_neg (mt suffix_trackingName.mp h)

theorem exists_listedId_trackingName
    (h : platform.fileKey ".provenance".toList <:+ platform.fileKey tradeId.val.toList) :
    ∃ id, listedId platform .provenance (documentName .tracking tradeId.val) = some id := by
  rw [listedId, if_pos (suffix_trackingName.mpr h), if_neg (by simp)]
  exact ⟨_, rfl⟩

theorem mem_writtenTo : w ∈ writtenTo platform writes store ↔
    w ∈ effective platform writes ∧ w.document.store = store := by
  simp [writtenTo]

theorem mem_writtenIds : id ∈ writtenIds platform writes store ↔
    ∃ w ∈ writtenTo platform writes store, w.tradeId.val = id := by
  rw [writtenIds, List.mem_insertionSort, List.mem_dedup, List.mem_map]

theorem documentName_ne_whole (w : SharedWrite) (store : DocumentStore)
    (hstore : store = .tracking) :
    store.suffix.length < (documentName w.document.store w.tradeId.val).length := by
  subst hstore
  refine lt_of_le_of_lt ?_ (length_documentName w.document.store w.tradeId)
  cases w.document.store <;> decide

/-- A listed file holds what was last written to it. -/
theorem written_of_listedId {e : Sigma fun _ : List Char => DirectoryEntry}
    (he : e ∈ (runWrites codecs platform writes).files.entries)
    (hlisted : listedId platform store e.2.name = some id) :
    ∃ w, lastOf (SharedWrite.file platform) (effective platform writes) e.1 = some w ∧
      e.2 = w.entry codecs := by
  have hk : ¬ IsTemporary platform e.1 := by
    intro htemporary
    rw [← (runWrites codecs platform writes).named e he] at htemporary
    rw [listedId_of_isTemporary htemporary] at hlisted
    cases hlisted
  have hlookup := lookup_runWrites codecs writes hk
  rw [AList.mem_lookup_iff.mpr he, eq_comm, Option.map_eq_some_iff] at hlookup
  obtain ⟨w, hlast, hentry⟩ := hlookup
  exact ⟨w, hlast, hentry.symm⟩

/-- The listed trade ids are the ones of the files, each with the last write to it. -/
theorem mem_listTradeIds : id ∈ (runWrites codecs platform writes).listTradeIds store ↔
    ∃ w, lastOf (SharedWrite.file platform) (effective platform writes) (w.file platform) = some w ∧
      listedId platform store (documentName w.document.store w.tradeId.val) = some id := by
  rw [StoreDirectory.listTradeIds, List.mem_insertionSort, List.mem_filterMap]
  constructor
  · rintro ⟨e, he, hlisted⟩
    obtain ⟨w, hlast, hentry⟩ := written_of_listedId he hlisted
    rw [hentry] at hlisted
    rw [← (mem_of_lastOf hlast).2] at hlast
    exact ⟨w, hlast, hlisted⟩
  · rintro ⟨w, hlast, hlisted⟩
    have hlookup := lookup_runWrites codecs writes
      (not_isTemporary_documentFile platform w.document.store w.tradeId.val)
    rw [show documentFile platform w.document.store w.tradeId.val = w.file platform from rfl,
      hlast] at hlookup
    exact ⟨⟨w.file platform, w.entry codecs⟩, AList.mem_lookup_iff.mp hlookup, hlisted⟩

/-- Two listed trade ids of one file are one. -/
theorem eq_of_mem_listTradeIds {id' : String}
    (h : id ∈ (runWrites codecs platform writes).listTradeIds store)
    (h' : id' ∈ (runWrites codecs platform writes).listTradeIds store)
    (hkey : platform.fileKey id.toList = platform.fileKey id'.toList) : id = id' := by
  obtain ⟨w, hlast, hlisted⟩ := mem_listTradeIds.mp h
  obtain ⟨w', hlast', hlisted'⟩ := mem_listTradeIds.mp h'
  have hfile : w.file platform = w'.file platform := by
    have hw := fileKey_of_listedId (documentName_ne_whole w store) hlisted
    have hw' := fileKey_of_listedId (documentName_ne_whole w' store) hlisted'
    rw [documentFile_eq, hkey, ← documentFile_eq] at hw
    exact hw.trans hw'.symm
  rw [hfile, hlast'] at hlast
  cases hlast
  exact Option.some.inj (hlisted.symm.trans hlisted')

/-- A store that lists every trade id written to it has a file for each. -/
theorem not_respelled_of_listed
    (h : (runWrites codecs platform writes).listTradeIds store = writtenIds platform writes store)
    (hw : w ∈ writtenTo platform writes store) :
    ¬ Respelled platform writes store w.tradeId := by
  rintro ⟨w', hw', hne, hkey⟩
  have hmem : ∀ v ∈ writtenTo platform writes store,
      v.tradeId.val ∈ (runWrites codecs platform writes).listTradeIds store :=
    fun v hv => h ▸ mem_writtenIds.mpr ⟨v, hv, rfl⟩
  exact hne (Subtype.ext (eq_of_mem_listTradeIds (hmem w' hw') (hmem w hw) hkey))

theorem nodup_listTradeIds :
    ((runWrites codecs platform writes).listTradeIds store).Nodup := by
  rw [StoreDirectory.listTradeIds, List.Perm.nodup_iff (List.perm_insertionSort _ _), List.Nodup,
    List.pairwise_filterMap]
  have hkeys := (runWrites codecs platform writes).files.nodupKeys
  have hkey : ∀ e ∈ (runWrites codecs platform writes).files.entries, ∀ id,
      listedId platform store e.2.name = some id → e.1 = documentFile platform store id := by
    intro e he id hid
    rw [← (runWrites codecs platform writes).named e he]
    obtain ⟨w, -, hentry⟩ := written_of_listedId he hid
    exact fileKey_of_listedId (hentry ▸ documentName_ne_whole w store) hid
  refine (List.pairwise_map.mp hkeys).imp_of_mem ?_
  rintro e e' he he' hne id hid id' hid' rfl
  exact hne ((hkey e he id hid).trans (hkey e' he' id hid').symm)

end Listing

/-! ## What is read -/

section Reads

variable {platform : Platform} {store : DocumentStore} {codecs : StoreCodecs}
  {writes : List SharedWrite} {w : SharedWrite} {tradeId : TradeId}

theorem answer_runWrites (codecs : StoreCodecs) (platform : Platform)
    (writes : List SharedWrite) (store : DocumentStore) (tradeId : TradeId) :
    (runWrites codecs platform writes).answer
      (documentName store tradeId.val) =
    ((lastOf (SharedWrite.file platform) (effective platform writes)
      (documentFile platform store tradeId.val)).map fun w =>
        FileRead.content (codecs.dump w.document).toUTF8).getD .fileNotFound := by
  have hlookup := lookup_runWrites codecs writes
    (not_isTemporary_documentFile platform store tradeId.val)
  rw [answer, show platform.fileKey (documentName store tradeId.val).toList =
    documentFile platform store tradeId.val from rfl, hlookup, Option.map_map]
  rfl

theorem read_of_unsafe (dir : StoreDirectory platform)
    (hnot : ¬ IsSafeTradeId platform tradeId) :
    dir.read (codecs.validate · store) store tradeId = .ok .unavailable := if_neg hnot

/-- Where no document was written to the file, none is read. -/
theorem read_of_none (hsafe : IsSafeTradeId platform tradeId)
    (h : lastOf (SharedWrite.file platform) (effective platform writes)
      (documentFile platform store tradeId.val) = none) :
    (runWrites codecs platform writes).read (codecs.validate · store) store tradeId =
      .ok .absent := by
  rw [StoreDirectory.read, answer_runWrites, h, readDocument, if_pos hsafe, AList.lookup_insert]
  rfl

/-- The last document that was written to the file is read, if it is one of the store. -/
theorem read_of_last (hsafe : IsSafeTradeId platform tradeId)
    (hcodec : codecs.Distinguishes w.document)
    (h : lastOf (SharedWrite.file platform) (effective platform writes)
      (documentFile platform store tradeId.val) = some w) :
    (runWrites codecs platform writes).read (codecs.validate · store) store tradeId =
      .ok (if w.document.store = store then .valid w.document else .corrupt) := by
  have hanswer := answer_runWrites codecs platform writes store tradeId
  rw [h] at hanswer
  by_cases hstore : w.document.store = store
  · subst hstore
    rw [if_pos rfl]
    exact read_of_content hsafe hcodec.own hanswer
  · rw [if_neg hstore]
    rw [read_of_text hsafe hcodec.own.no_return hanswer, hcodec.other store (Ne.symm hstore)]

end Reads

/-! ## When the stores coexist -/

section Coexist

variable {codecs : StoreCodecs} {platform : Platform} {writes : List SharedWrite}
  {store : DocumentStore} {w : SharedWrite}

theorem writtenTo_tracking (h : writtenTo platform writes .provenance = []) :
    writtenTo platform writes .tracking = effective platform writes := by
  refine List.filter_eq_self.mpr fun w hw => ?_
  have hnot : w.document.store ≠ .provenance := by
    intro hstore
    have hmem := mem_writtenTo.mpr ⟨hw, hstore⟩
    rw [h] at hmem
    cases hmem
  cases hstore : w.document.store with
  | tracking => rfl
  | provenance => exact absurd hstore hnot

theorem file_tracking (h : w.document.store = .tracking) :
    w.file platform = documentFile platform .tracking w.tradeId.val := by rw [SharedWrite.file, h]

theorem documentFile_eq_iff {id id' : String} :
    documentFile platform store id = documentFile platform store id' ↔
      platform.fileKey id.toList = platform.fileKey id'.toList := by
  rw [documentFile_eq, documentFile_eq, List.append_cancel_right_eq]

/-- Tracking documents in files of their own are listed. -/
theorem listed_of_ownFiles (h : OwnFiles platform writes) (store : DocumentStore) :
    (runWrites codecs platform writes).listTradeIds store = writtenIds platform writes store := by
  have htracking := writtenTo_tracking h.noProvenance
  have hstore : ∀ w ∈ effective platform writes, w.document.store = .tracking :=
    fun w hw => (mem_writtenTo.mp (htracking ▸ hw)).2
  cases store with
  | provenance =>
      have hnil : writtenIds platform writes .provenance = [] := by
        rw [writtenIds, h.noProvenance]
        rfl
      rw [hnil, List.eq_nil_iff_forall_not_mem]
      intro id hid
      obtain ⟨w, hlast, hlisted⟩ := mem_listTradeIds.mp hid
      have hw := (mem_of_lastOf hlast).1
      rw [hstore w hw, listedId_trackingName (h.noSuffix w (htracking ▸ hw))] at hlisted
      cases hlisted
  | tracking =>
      have hmem (id : String) : id ∈ (runWrites codecs platform writes).listTradeIds .tracking ↔
          id ∈ writtenIds platform writes .tracking := by
        rw [mem_listTradeIds, mem_writtenIds]
        constructor
        · rintro ⟨w, hlast, hlisted⟩
          have hw := (mem_of_lastOf hlast).1
          rw [hstore w hw, listedId_documentName] at hlisted
          exact ⟨w, htracking ▸ hw, Option.some.inj hlisted⟩
        · rintro ⟨w, hw, rfl⟩
          obtain ⟨u, hlast⟩ := exists_lastOf
            (List.mem_map_of_mem (f := SharedWrite.file platform) (htracking ▸ hw))
          obtain ⟨hu, hfile⟩ := mem_of_lastOf hlast
          -- the file holds the last write of the same trade id
          have hid : u.tradeId = w.tradeId := by
            by_contra hne
            refine h.distinct w hw ⟨u, htracking ▸ hu, hne, ?_⟩
            rw [file_tracking (hstore u hu), file_tracking (mem_writtenTo.mp hw).2] at hfile
            exact documentFile_eq_iff.mp hfile
          refine ⟨u, hfile.symm ▸ hlast, ?_⟩
          rw [hstore u hu, listedId_documentName, hid]
      have hnodup : (writtenIds platform writes .tracking).Nodup :=
        (List.perm_insertionSort _ _).nodup_iff.mpr (List.nodup_dedup _)
      exact List.Perm.eq_of_pairwise (fun _ _ _ _ => le_antisymm)
        (List.pairwise_insertionSort (· ≤ ·) _) (List.pairwise_insertionSort (· ≤ ·) _)
        ((List.perm_ext_iff_of_nodup nodup_listTradeIds hnodup).mpr hmem)

/-- Tracking documents in files of their own are read. -/
theorem read_of_ownFiles (hcodecs : ∀ w ∈ writes, codecs.Distinguishes w.document)
    (h : OwnFiles platform writes) (store : DocumentStore) (tradeId : TradeId)
    (hnot : ¬ Respelled platform writes store tradeId) :
    (runWrites codecs platform writes).read (codecs.validate · store) store tradeId =
      .ok (lastWritten platform writes store tradeId) := by
  have htracking := writtenTo_tracking h.noProvenance
  have hstore : ∀ w ∈ effective platform writes, w.document.store = .tracking :=
    fun w hw => (mem_writtenTo.mp (htracking ▸ hw)).2
  unfold lastWritten
  by_cases hsafe : IsSafeTradeId platform tradeId
  · rw [if_pos hsafe]
    cases store with
    | provenance =>
        rw [h.noProvenance]
        refine read_of_none hsafe (lastOf_eq_none fun w hw hfile => ?_)
        rw [file_tracking (hstore w hw)] at hfile
        refine h.noSuffix w (htracking ▸ hw) (suffix_trackingName.mp ?_)
        rw [show platform.fileKey (documentName .tracking w.tradeId.val).toList =
          documentFile platform .tracking w.tradeId.val from rfl, hfile, documentFile_eq]
        exact List.suffix_append _ _
    | tracking =>
        have hlast : lastOf (SharedWrite.file platform) (effective platform writes)
            (documentFile platform .tracking tradeId.val) =
            lastOf SharedWrite.tradeId (writtenTo platform writes .tracking) tradeId := by
          rw [htracking]
          refine lastOf_congr fun w hw => ?_
          rw [file_tracking (hstore w hw), documentFile_eq_iff]
          refine ⟨fun hkey => ?_, fun heq => by rw [heq]⟩
          by_contra hne
          exact hnot ⟨w, htracking ▸ hw, hne, hkey⟩
        cases hwritten : lastOf SharedWrite.tradeId (writtenTo platform writes .tracking) tradeId with
        | none => exact read_of_none hsafe (hlast.trans hwritten)
        | some w =>
            have hw := mem_writtenTo.mp (mem_of_lastOf hwritten).1
            rw [read_of_last hsafe (hcodecs w (List.mem_of_mem_filter hw.1))
              (hlast.trans hwritten), if_pos hw.2]
  · rw [if_neg hsafe]
    exact read_of_unsafe _ hsafe

/-- Where the stores coexist, the file of a written document holds one of its own store. -/
theorem store_of_coexist {u : SharedWrite}
    (hcodecs : ∀ w ∈ writes, codecs.Distinguishes w.document)
    (h : Coexist codecs platform writes) (hw : w ∈ writtenTo platform writes store)
    (hlast : lastOf (SharedWrite.file platform) (effective platform writes)
      (documentFile platform store w.tradeId.val) = some u) :
    u.document.store = store := by
  have hsafe : IsSafeTradeId platform w.tradeId := by
    have heffect := List.of_mem_filter (mem_writtenTo.mp hw).1
    exact (of_decide_eq_true heffect).1
  have hread := h.read store w.tradeId (not_respelled_of_listed (h.listed store) hw)
  obtain ⟨v, hv⟩ := exists_lastOf (List.mem_map_of_mem (f := SharedWrite.tradeId) hw)
  rw [lastWritten, if_pos hsafe, hv, read_of_last hsafe
    (hcodecs u (List.mem_of_mem_filter (mem_of_lastOf hlast).1)) hlast] at hread
  by_contra hne
  rw [if_neg hne] at hread
  cases hread

/-- Where the stores coexist, nothing is written to the provenance store: the tracking store would
list it. -/
theorem noProvenance_of_coexist (hcodecs : ∀ w ∈ writes, codecs.Distinguishes w.document)
    (h : Coexist codecs platform writes) : writtenTo platform writes .provenance = [] := by
  rw [List.eq_nil_iff_forall_not_mem]
  intro p hp
  have hfile : p.file platform = documentFile platform .provenance p.tradeId.val := by
    rw [SharedWrite.file, (mem_writtenTo.mp hp).2]
  obtain ⟨u, hlast⟩ := exists_lastOf
    (List.mem_map_of_mem (f := SharedWrite.file platform) (mem_writtenTo.mp hp).1)
  have hu : u.document.store = .provenance := store_of_coexist hcodecs h hp (hfile ▸ hlast)
  have hufile : u.file platform = p.file platform := (mem_of_lastOf hlast).2
  have hlisted : u.tradeId.val ++ ".provenance" ∈
      (runWrites codecs platform writes).listTradeIds .tracking := by
    refine mem_listTradeIds.mpr ⟨u, hufile.symm ▸ hlast, ?_⟩
    rw [hu, listedId_provenanceName]
  rw [h.listed .tracking] at hlisted
  obtain ⟨v, hv, hid⟩ := mem_writtenIds.mp hlisted
  -- the tracked document of that trade id has the same file
  have hvfile : documentFile platform .tracking v.tradeId.val = p.file platform := by
    rw [← hufile, SharedWrite.file, hu, hid, documentFile, documentFile, documentName, documentName,
      String.append_assoc]
    rfl
  have hv' := store_of_coexist hcodecs h hv (hvfile ▸ hlast)
  rw [hu] at hv'
  cases hv'

/-- **The two stores coexist in one directory exactly when the provenance store is not used**, no
tracked trade id ends in `.provenance`, and every trade id has a file of its own. -/
theorem coexist_iff (codecs : StoreCodecs) (platform : Platform) (writes : List SharedWrite)
    (hcodecs : ∀ w ∈ writes, codecs.Distinguishes w.document) :
    Coexist codecs platform writes ↔ OwnFiles platform writes := by
  refine ⟨fun h => ?_, fun h => ⟨listed_of_ownFiles h, read_of_ownFiles hcodecs h⟩⟩
  have hnone := noProvenance_of_coexist hcodecs h
  refine ⟨hnone, fun w hw hsuffix => ?_,
    fun w hw => not_respelled_of_listed (h.listed .tracking) hw⟩
  have hstore : ∀ v ∈ effective platform writes, v.document.store = .tracking :=
    fun v hv => (mem_writtenTo.mp (writtenTo_tracking hnone ▸ hv)).2
  obtain ⟨hweffective, hwstore⟩ := mem_writtenTo.mp hw
  obtain ⟨u, hlast⟩ := exists_lastOf
    (List.mem_map_of_mem (f := SharedWrite.file platform) hweffective)
  obtain ⟨hu, hufile⟩ := mem_of_lastOf hlast
  have hkey : platform.fileKey u.tradeId.val.toList = platform.fileKey w.tradeId.val.toList := by
    rw [file_tracking (hstore u hu), file_tracking hwstore] at hufile
    exact documentFile_eq_iff.mp hufile
  obtain ⟨id, hlisted⟩ := exists_listedId_trackingName (hkey ▸ hsuffix)
  have hmem : id ∈ (runWrites codecs platform writes).listTradeIds .provenance :=
    mem_listTradeIds.mpr ⟨u, hufile.symm ▸ hlast, by rw [hstore u hu, hlisted]⟩
  rw [h.listed .provenance] at hmem
  obtain ⟨v, hv, -⟩ := mem_writtenIds.mp hmem
  rw [hnone] at hv
  cases hv

end Coexist

/-! A trade is tracked, and its provenance is written. -/

/-- The provenance of the trade `A`. -/
def sampleSharedProvenance : FinalRecommendationProvenance where
  tradeId := sampleUpper
  family := .trendFollowing
  approvedRiskAmount := ⟨1, one_positive⟩
  accountCurrency := usd

/-- A codec of two documents. -/
def sampleStoreCodecs : StoreCodecs where
  trackingValidate text :=
    if text = "tracking" then some (sampleDocument sampleUpper ⟨1, one_positive⟩) else none
  trackingDump _ := "tracking"
  provenanceValidate text := if text = "provenance" then some sampleSharedProvenance else none
  provenanceDump _ := "provenance"

/-- The write of the tracking document. -/
def sampleTrackingWrite : SharedWrite :=
  ⟨sampleUpper, .tracking (sampleDocument sampleUpper ⟨1, one_positive⟩), undisturbed⟩

/-- The two writes. -/
def sampleSharedWrites : List SharedWrite :=
  [sampleTrackingWrite, ⟨sampleUpper, .provenance sampleSharedProvenance, undisturbed⟩]

theorem sampleStoreCodecs_distinguishes :
    ∀ w ∈ sampleSharedWrites, sampleStoreCodecs.Distinguishes w.document := by
  intro w hw
  simp only [sampleSharedWrites, List.mem_cons, List.not_mem_nil, or_false] at hw
  rcases hw with rfl | rfl
  · refine ⟨⟨rfl, by decide⟩, fun store hne => ?_⟩
    cases store with
    | tracking => exact absurd rfl hne
    | provenance => rfl
  · refine ⟨⟨rfl, by decide⟩, fun store hne => ?_⟩
    cases store with
    | tracking => rfl
    | provenance => exact absurd rfl hne

/-- The tracking store lists the provenance document as a trade. -/
theorem provenance_listed_as_trade :
    (∀ w ∈ sampleSharedWrites,
      sampleStoreCodecs.Distinguishes w.document ∧ IsSafeTradeId .posix w.tradeId) ∧
    writtenIds .posix sampleSharedWrites .tracking = ["A"] ∧
    (runWrites sampleStoreCodecs .posix sampleSharedWrites).listTradeIds .tracking =
      ["A", "A.provenance"] ∧
    ¬ Coexist sampleStoreCodecs .posix sampleSharedWrites := by
  have hwritten : writtenIds .posix sampleSharedWrites .tracking = ["A"] := by decide +kernel
  have hlisted : (runWrites sampleStoreCodecs .posix sampleSharedWrites).listTradeIds .tracking =
    ["A", "A.provenance"] := by decide +kernel
  refine ⟨fun w hw => ⟨sampleStoreCodecs_distinguishes w hw, ?_⟩, hwritten, hlisted, fun h => ?_⟩
  · simp only [sampleSharedWrites, List.mem_cons, List.not_mem_nil, or_false] at hw
    rcases hw with rfl | rfl <;> decide
  · have heq := h.listed .tracking
    rw [hwritten, hlisted] at heq
    exact absurd heq (by decide)

/-- A codec of the documents of `A` and `a`. -/
def twoTradesCodecs : StoreCodecs where
  trackingValidate := sampleModelValidateJson
  trackingDump tracked :=
    if tracked.positionRecord.tradeId = sampleUpper then "upper" else "lower"
  provenanceValidate _ := none
  provenanceDump _ := "provenance"

/-- The write of the document of `a`. -/
def sampleLowerWrite : SharedWrite :=
  ⟨sampleLower, .tracking (sampleDocument sampleLower ⟨2, two_positive⟩), undisturbed⟩

/-- A write whose replacement fails. -/
def sampleFailedWrite : SharedWrite :=
  ⟨⟨"b", by decide⟩, .tracking (sampleDocument sampleLower ⟨2, two_positive⟩),
    ⟨fun _ => none, .osError, none⟩⟩

theorem coexist_iff_sample :
    (runWrites twoTradesCodecs .posix
        [sampleTrackingWrite, sampleFailedWrite, sampleLowerWrite, sampleTrackingWrite]).listTradeIds
          .tracking = ["A", "a"] ∧
      Coexist twoTradesCodecs .posix
        [sampleTrackingWrite, sampleFailedWrite, sampleLowerWrite, sampleTrackingWrite] := by
  refine ⟨by decide +kernel, (coexist_iff twoTradesCodecs .posix _ ?_).mpr ?_⟩
  · intro w hw
    have htext : w.document = .tracking (sampleDocument sampleUpper ⟨1, one_positive⟩) ∨
        w.document = .tracking (sampleDocument sampleLower ⟨2, two_positive⟩) := by
      simp only [List.mem_cons, List.not_mem_nil, or_false] at hw
      rcases hw with rfl | rfl | rfl | rfl
      · exact .inl rfl
      · exact .inr rfl
      · exact .inr rfl
      · exact .inl rfl
    rcases htext with h | h <;> rw [h] <;>
      exact ⟨⟨rfl, by decide⟩, fun store hne =>
        by cases store <;> first | rfl | exact absurd rfl hne⟩
  · have hwritten : writtenTo .posix
        [sampleTrackingWrite, sampleFailedWrite, sampleLowerWrite, sampleTrackingWrite] .tracking =
          [sampleTrackingWrite, sampleLowerWrite, sampleTrackingWrite] := rfl
    have hmem {w : SharedWrite} (hw : w ∈ [sampleTrackingWrite, sampleLowerWrite,
        sampleTrackingWrite]) : w.tradeId = sampleUpper ∨ w.tradeId = sampleLower := by
      simp only [List.mem_cons, List.not_mem_nil, or_false] at hw
      rcases hw with rfl | rfl | rfl
      · exact .inl rfl
      · exact .inr rfl
      · exact .inl rfl
    refine ⟨rfl, fun w hw => ?_, ?_⟩
    · rcases hmem (hwritten ▸ hw) with h | h <;> rw [h] <;> decide
    · rintro w hw ⟨w', hw', hne, hkey⟩
      rcases hmem (hwritten ▸ hw) with h | h <;> rcases hmem (hwritten ▸ hw') with h' | h' <;>
        rw [h, h'] at hne hkey
      · exact hne rfl
      · exact absurd hkey (by decide)
      · exact absurd hkey (by decide)
      · exact hne rfl

end TradingAdvisor
