import TradingAdvisor.Lib.Keyed
import TradingAdvisor.Mt5.RecommendationPersistence
import TradingAdvisor.Mt5.TypedResults
import TradingAdvisor.Orchestration.RuntimeCycle

/-!
# Documents and the cycle

The cycle loads the documents of the tracking directory one by one. A document that cannot be read
as a recommendation is left out, and the cycle goes on with the others; an exception of a read ends
the cycle.

* `loadTracking` — the load;
* `runRuntimeCycleOnFiles` — the cycle over the files;
* `loadTracking_insert` — one more document changes no other read;
* `RuntimeCycleInput.CanAdvance` — the history lets every document be advanced at its turn;
* **`documents_isolated_iff`**: a document breaks no cycle exactly when it is text in UTF-8 and the
  documents that read as recommendations can be advanced.
-/

namespace TradingAdvisor

open SignificantDigits Checks VersionedStore

/-- A trade id that the cycle leaves out, with what the read observed. -/
structure ExcludedTrackedRecommendation where
  tradeId : TradeId
  readStatus : DocumentReadStatus
  deriving DecidableEq

/-- One read of the load. -/
abbrev TrackingRead := TradeId × PersistedRead MT5TrackedRecommendation

/-- The document that a read loads. -/
def TrackingRead.loaded : TrackingRead → Option (TradeId × MT5TrackedRecommendation)
  | (tradeId, .valid tracked) => some (tradeId, tracked)
  | _ => none

/-- The trade id that a read excludes; a file that has gone since it was listed is not reported. -/
def TrackingRead.excluded : TrackingRead → Option ExcludedTrackedRecommendation
  | (tradeId, .corrupt) => some ⟨tradeId, .corrupt⟩
  | (tradeId, .unavailable) => some ⟨tradeId, .unavailable⟩
  | _ => none

/-- Why a cycle raises. -/
inductive CycleException
  | read (e : ReadException)
  | model (e : ModelError)
  deriving DecidableEq, Repr

/-- The text of a tracking document, both ways. -/
structure TrackingCodec where
  modelValidateJson : String → Option MT5TrackedRecommendation
  modelDumpJson : MT5TrackedRecommendation → String

/-- What a cycle over files reports, with the directory it leaves. -/
structure FileCycleResult where
  advancedTracking : List (TradeId × MT5TrackedRecommendation)
  newTracking : List (TradeId × MT5TrackedRecommendation)
  excludedTrackedRecommendations : List ExcludedTrackedRecommendation
  directory : DocumentDirectory

variable (R : Rounding) (codec : TrackingCodec) (platform : Platform)

/-- The reads of the load, in the order of the trade ids. -/
def readTracking (directory : DocumentDirectory) (tradeIds : List TradeId) :
    Except ReadException (List TrackingRead) :=
  tradeIds.mapM fun tradeId =>
    (tradeId, ·) <$> MT5RecommendationPersistence.read platform directory tradeId
      codec.modelValidateJson

/-- Load every document of the directory once. -/
def loadTracking (directory : DocumentDirectory) : Except ReadException
    (List (TradeId × MT5TrackedRecommendation) × List ExcludedTrackedRecommendation) := do
  let reads ← readTracking codec platform directory (listTradeIds directory)
  return (reads.filterMap TrackingRead.loaded, reads.filterMap TrackingRead.excluded)

/-- The documents of the directory that read as recommendations, in the order of their trade ids. -/
def recommendationsIn (directory : DocumentDirectory) : List (TradeId × MT5TrackedRecommendation) :=
  (listTradeIds directory).filterMap fun tradeId =>
    match MT5RecommendationPersistence.read platform directory tradeId codec.modelValidateJson with
    | .ok (.valid tracked) => some (tradeId, tracked)
    | _ => none

/-- Write the documents to their files, in order. -/
def writeFiles (directory : DocumentDirectory) (docs : List (TradeId × MT5TrackedRecommendation)) :
    DocumentDirectory :=
  docs.foldl (fun d doc => MT5RecommendationPersistence.write d doc.1 codec.modelDumpJson doc.2)
    directory

/-- The history that a cycle over the documents reads. -/
def RuntimeCycleInput.historyOver (c : RuntimeCycleInput)
    (docs : List (TradeId × MT5TrackedRecommendation)) : HistoryRead :=
  let (status, deals) := c.historyDeals (c.historyStart docs) c.asOf
  { asOf := c.asOf, status, coversUntil := c.asOf, deals }

/-- The history lets each of the documents be advanced when its turn comes. -/
def RuntimeCycleInput.CanAdvance (c : RuntimeCycleInput)
    (docs : List (TradeId × MT5TrackedRecommendation)) : Prop :=
  ∀ tradeId tracked others,
    TradingAdvisor.Turn R (c.historyOver docs) (claimedIds docs) docs tradeId tracked others →
      Advanceable R (c.historyOver docs) others tracked

/-- The cycle after the load. -/
def RuntimeCycleInput.advanceAndIssue (c : RuntimeCycleInput)
    (docs : List (TradeId × MT5TrackedRecommendation)) :
    Except ModelError (List (TradeId × MT5TrackedRecommendation) ×
      List (TradeId × MT5TrackedRecommendation)) := do
  let (status, deals) := c.historyDeals (c.historyStart docs) c.asOf
  let advanced ← advanceAllExistingTracking R
    { asOf := c.asOf, status, coversUntil := c.asOf, deals } (claimedIds docs) docs
  let issued ← c.issued status advanced
  return (advanced, issued)

/-- One cycle over the files of the tracking directory. -/
def runRuntimeCycleOnFiles (c : RuntimeCycleInput) (directory : DocumentDirectory) :
    Except CycleException FileCycleResult :=
  if c.connectivityAvailable then do
    let (docs, excluded) ← (loadTracking codec platform directory).mapError .read
    let (advanced, issued) ← (c.advanceAndIssue R docs).mapError .model
    return {
      advancedTracking := advanced
      newTracking := issued
      excludedTrackedRecommendations := excluded
      directory := writeFiles codec (writeFiles codec directory advanced) issued }
  else .ok ⟨[], [], [], directory⟩

variable {R codec platform} {directory : DocumentDirectory} {tradeId : TradeId} {file : FileRead}

/-- A new file is listed once, and the order of the others stays. -/
theorem exists_listTradeIds_insert (file : FileRead) (hnew : tradeId ∉ directory) :
    ∃ before after, listTradeIds directory = before ++ after ∧
      listTradeIds (directory.insert tradeId file) = before ++ tradeId :: after := by
  refine ⟨_, _, (List.takeWhile_append_dropWhile
    (p := fun b => decide ¬ tradeId ≤ b)).symm, ?_⟩
  have hkeys : (directory.insert tradeId file).keys = tradeId :: directory.keys := by
    rw [AList.insert_of_notMem hnew]
    rfl
  rw [listTradeIds, hkeys]
  exact List.insertionSort_cons_eq_take_drop _ _ _

theorem readTracking_insert {tradeIds : List TradeId} (h : tradeId ∉ tradeIds) :
    readTracking codec platform (directory.insert tradeId file) tradeIds =
      readTracking codec platform directory tradeIds := by
  refine mapM_congr fun other hother => ?_
  have hne : other ≠ tradeId := fun heq => h (heq ▸ hother)
  rw [MT5RecommendationPersistence.read, readDocument_insert_ne hne]
  rfl

theorem readTracking_tradeIds {tradeIds : List TradeId} {reads : List TrackingRead}
    (h : readTracking codec platform directory tradeIds = .ok reads) :
    reads.map Prod.fst = tradeIds := by
  have hforall := mapM_ok_forall₂ h
  clear h
  induction hforall with
  | nil => rfl
  | cons hread _ ih =>
      obtain ⟨result, -, rfl⟩ := map_ok_iff.mp hread
      rw [List.map_cons, ih]

variable {docs : List (TradeId × MT5TrackedRecommendation)}
  {excluded : List ExcludedTrackedRecommendation}
  {observed : PersistedRead MT5TrackedRecommendation}

/-- **One more document changes no other read**: the load finds the same documents and excludes the
same trade ids, besides what the document itself reads as. -/
theorem loadTracking_insert (hnew : tradeId ∉ directory)
    (hread : MT5RecommendationPersistence.read platform (directory.insert tradeId file) tradeId
      codec.modelValidateJson = .ok observed)
    (hload : loadTracking codec platform directory = .ok (docs, excluded)) :
    ∃ docs₁ docs₂ before after, docs = docs₁ ++ docs₂ ∧ excluded = before ++ after ∧
      loadTracking codec platform (directory.insert tradeId file) =
        .ok (docs₁ ++ ((TrackingRead.loaded (tradeId, observed)).toList ++ docs₂),
          before ++ ((TrackingRead.excluded (tradeId, observed)).toList ++ after)) := by
  obtain ⟨before, after, hlist, hlist'⟩ := exists_listTradeIds_insert file hnew
  obtain ⟨reads, hreads, hok⟩ := bind_ok_iff.mp hload
  cases hok
  rw [hlist] at hreads
  obtain ⟨reads₁, reads₂, h₁, h₂, rfl⟩ := mapM_append_ok_iff.mp hreads
  have hnotMem : tradeId ∉ before ++ after := by
    rw [← hlist]
    intro hmem
    exact hnew (AList.mem_keys.mpr (List.mem_insertionSort _ |>.mp hmem))
  rw [List.mem_append, not_or] at hnotMem
  have hall : readTracking codec platform (directory.insert tradeId file)
      (listTradeIds (directory.insert tradeId file)) =
        .ok (reads₁ ++ (tradeId, observed) :: reads₂) := by
    rw [hlist']
    refine mapM_append_ok_iff.mpr ⟨reads₁, _, ?_, ?_, rfl⟩
    · exact (readTracking_insert hnotMem.1).trans h₁
    · rw [List.mapM_cons]
      refine bind_ok_iff.mpr ⟨_, map_ok_iff.mpr ⟨_, hread, rfl⟩, ?_⟩
      exact bind_ok_iff.mpr ⟨_, (readTracking_insert hnotMem.2).trans h₂, rfl⟩
  refine ⟨_, _, _, _, List.filterMap_append, List.filterMap_append, ?_⟩
  rw [loadTracking, hall]
  show Except.ok _ = Except.ok _
  rw [List.filterMap_append, List.filterMap_append, List.filterMap_cons, List.filterMap_cons]
  cases TrackingRead.loaded (tradeId, observed) <;>
    cases TrackingRead.excluded (tradeId, observed) <;> rfl

theorem recommendationsIn_eq
    (hload : loadTracking codec platform directory = .ok (docs, excluded)) :
    recommendationsIn codec platform directory = docs := by
  obtain ⟨reads, hreads, hok⟩ := bind_ok_iff.mp hload
  cases hok
  have hforall := mapM_ok_forall₂ hreads
  clear hreads hload
  rw [recommendationsIn]
  generalize listTradeIds directory = tradeIds at hforall ⊢
  induction hforall with
  | nil => rfl
  | cons hread _ ih =>
      obtain ⟨observed, hobserved, rfl⟩ := map_ok_iff.mp hread
      rw [List.filterMap_cons, List.filterMap_cons, hobserved, ih]
      cases observed <;> rfl

/-! ## The files of a store -/

/-- What the read of a document of a store observes. -/
def DocumentReadStatus.toRead (status : DocumentReadStatus) (tracked : MT5TrackedRecommendation) :
    PersistedRead MT5TrackedRecommendation :=
  match status with
  | valid => .valid tracked
  | corrupt => .corrupt
  | unavailable => .unavailable

/-- The directory holds the documents of the store, as the cycle reads them. -/
structure Holds (codec : TrackingCodec) (platform : Platform) (c : RuntimeCycleInput)
    (s : TrackingStore) (directory : DocumentDirectory) : Prop where
  listed : ∀ tradeId, tradeId ∈ directory ↔ tradeId ∈ s
  read_eq : ∀ tradeId tracked, s.lookup tradeId = some tracked →
    MT5RecommendationPersistence.read platform directory tradeId codec.modelValidateJson =
      .ok ((c.readStatus tradeId).toRead tracked)

section Holds

variable {c : RuntimeCycleInput} {s : TrackingStore}

theorem Holds.listTradeIds_eq (h : Holds codec platform c s directory) :
    listTradeIds directory = (sortedPairs (· ≤ ·) s).map Prod.fst := by
  have hkeys : directory.keys.Perm s.keys :=
    (List.perm_ext_iff_of_nodup directory.keys_nodup s.keys_nodup).mpr fun k => h.listed k
  have hpairs : (sortedPairs (· ≤ ·) s).map Prod.fst = s.keys.insertionSort (· ≤ ·) := by
    rw [sortedPairs, List.map_insertionSort _ (· ≤ ·) _ _ fun _ _ _ _ => Iff.rfl, List.map_map]
    rfl
  rw [hpairs]
  refine List.Perm.eq_of_pairwise (fun _ _ _ _ => le_antisymm)
    (List.pairwise_insertionSort (· ≤ ·) _) (List.pairwise_insertionSort (· ≤ ·) _) ?_
  exact (List.perm_insertionSort _ _).trans (hkeys.trans (List.perm_insertionSort _ _).symm)

theorem Holds.loadTracking_eq (h : Holds codec platform c s directory) :
    ∃ excluded, loadTracking codec platform directory = .ok (c.loaded s, excluded) := by
  have hreads : readTracking codec platform directory (listTradeIds directory) =
      .ok ((sortedPairs (· ≤ ·) s).map fun doc =>
        (doc.1, (c.readStatus doc.1).toRead doc.2)) := by
    rw [h.listTradeIds_eq]
    generalize hdocs : sortedPairs (· ≤ ·) s = pairs
    have hread : ∀ doc ∈ pairs, MT5RecommendationPersistence.read platform directory doc.1
        codec.modelValidateJson = .ok ((c.readStatus doc.1).toRead doc.2) := by
      intro doc hdoc
      exact h.read_eq _ _ ((lookup_sortedPairs _ _).mp (hdocs ▸ hdoc))
    clear hdocs
    induction pairs with
    | nil => rfl
    | cons doc pairs ih =>
        obtain ⟨hdoc, hpairs⟩ := List.forall_mem_cons.mp hread
        show List.mapM _ (doc.1 :: pairs.map Prod.fst) = _
        rw [List.mapM_cons]
        refine bind_ok_iff.mpr ⟨_, map_ok_iff.mpr ⟨_, hdoc, rfl⟩, ?_⟩
        exact bind_ok_iff.mpr ⟨_, ih hpairs, rfl⟩
  have hloaded : ((sortedPairs (· ≤ ·) s).map fun doc =>
      (doc.1, (c.readStatus doc.1).toRead doc.2)).filterMap TrackingRead.loaded = c.loaded s := by
    rw [RuntimeCycleInput.loaded, List.filterMap_map, ← List.filterMap_eq_filter]
    congr 1
    funext doc
    show TrackingRead.loaded (doc.1, (c.readStatus doc.1).toRead doc.2) = _
    cases hstatus : c.readStatus doc.1 <;> simp [Option.guard, hstatus] <;> rfl
  rw [← hloaded]
  exact ⟨_, bind_ok_iff.mpr ⟨_, hreads, rfl⟩⟩

/-- **The cycle over the files writes what the cycle over the store writes.** -/
theorem Holds.runRuntimeCycle_eq (h : Holds codec platform c s directory)
    (hconnected : c.connectivityAvailable = true) {result : FileCycleResult}
    (hok : runRuntimeCycleOnFiles R codec platform c directory = .ok result) :
    runRuntimeCycle R s c =
      writeAll (writeAll s result.advancedTracking) result.newTracking := by
  obtain ⟨excluded, hload⟩ := h.loadTracking_eq
  rw [runRuntimeCycleOnFiles, if_pos hconnected] at hok
  obtain ⟨loaded, hloaded, hok⟩ := bind_ok_iff.mp hok
  cases (mapError_ok_iff.mp hloaded).symm.trans hload
  obtain ⟨⟨advanced, issued⟩, hadvance, hok⟩ := bind_ok_iff.mp hok
  cases hok
  obtain ⟨advanced', hadvanced, hadvance⟩ := bind_ok_iff.mp (mapError_ok_iff.mp hadvance)
  obtain ⟨issued', hissued, hadvance⟩ := bind_ok_iff.mp hadvance
  cases hadvance
  have hadv : c.advanced R s = .ok advanced := hadvanced
  have hiss : c.issued (c.history s).status advanced = .ok issued := hissued
  rw [runRuntimeCycle, if_pos hconnected, hadv]
  dsimp only
  rw [hiss]

end Holds

/-! ## What the cycle does to the files -/

section Files

variable {directory' : DocumentDirectory} {other : TradeId} {tracked : MT5TrackedRecommendation}

theorem lookup_writeFiles_congr (h : directory'.lookup other = directory.lookup other) :
    (writeFiles codec directory' docs).lookup other =
      (writeFiles codec directory docs).lookup other := by
  induction docs generalizing directory directory' with
  | nil => exact h
  | cons doc docs ih =>
      refine ih ?_
      show (directory'.insert _ _).lookup other = (directory.insert _ _).lookup other
      by_cases hkey : other = doc.1
      · rw [hkey, AList.lookup_insert, AList.lookup_insert]
      · rw [AList.lookup_insert_ne hkey, AList.lookup_insert_ne hkey, h]

theorem lookup_writeFiles_of_notMem (h : other ∉ docs.map Prod.fst) :
    (writeFiles codec directory docs).lookup other = directory.lookup other := by
  induction docs generalizing directory with
  | nil => rfl
  | cons doc docs ih =>
      rw [List.map_cons, List.mem_cons, not_or] at h
      exact (ih h.2).trans (AList.lookup_insert_ne h.1)

theorem lookup_writeFiles_of_mem (hdocs : (docs.map Prod.fst).Nodup)
    (h : (other, tracked) ∈ docs) :
    (writeFiles codec directory docs).lookup other =
      some (.content (codec.modelDumpJson tracked).toUTF8) := by
  induction docs generalizing directory with
  | nil => cases h
  | cons doc docs ih =>
      rw [List.map_cons, List.nodup_cons] at hdocs
      rcases List.mem_cons.mp h with rfl | h
      · exact (lookup_writeFiles_of_notMem hdocs.1).trans (AList.lookup_insert _)
      · exact ih hdocs.2 h

end Files

/-- A document that reads as a recommendation is loaded. -/
theorem mem_of_loadTracking {other : TradeId} {tracked : MT5TrackedRecommendation}
    (hload : loadTracking codec platform directory = .ok (docs, excluded))
    (hmem : other ∈ directory)
    (hread : MT5RecommendationPersistence.read platform directory other
      codec.modelValidateJson = .ok (.valid tracked)) : (other, tracked) ∈ docs := by
  obtain ⟨reads, hreads, hok⟩ := bind_ok_iff.mp hload
  cases hok
  have hlisted : other ∈ listTradeIds directory :=
    (List.mem_insertionSort _).mpr (AList.mem_keys.mp hmem)
  obtain ⟨observed, hobserved, hof⟩ := exists_of_mem_right (mapM_ok_forall₂ hreads).flip hlisted
  obtain ⟨result, hresult, rfl⟩ := map_ok_iff.mp hof
  cases hread.symm.trans hresult
  exact List.mem_filterMap.mpr ⟨_, hobserved, rfl⟩

theorem loadTracking_nodup
    (hload : loadTracking codec platform directory = .ok (docs, excluded)) :
    (docs.map Prod.fst).Nodup := by
  obtain ⟨reads, hreads, hok⟩ := bind_ok_iff.mp hload
  cases hok
  have hlist : (listTradeIds directory).Nodup :=
    (List.perm_insertionSort _ _).nodup_iff.mpr directory.keys_nodup
  rw [← readTracking_tradeIds hreads] at hlist
  refine List.Nodup.sublist (Keyed.map_filterMap_sublist ?_ reads) hlist
  rintro ⟨k, read⟩ doc hdoc
  cases read with
  | valid tracked =>
      cases hdoc
      rfl
  | absent | corrupt | unavailable => cases hdoc

/-- A loaded document has passed the checks of the codec. -/
theorem validated_of_loadTracking {check : MT5TrackedRecommendation → Prop}
    (hcodec : ∀ text tracked, codec.modelValidateJson text = some tracked → check tracked)
    (hload : loadTracking codec platform directory = .ok (docs, excluded)) {other : TradeId}
    {tracked : MT5TrackedRecommendation} (hmem : (other, tracked) ∈ docs) : check tracked := by
  rw [← recommendationsIn_eq hload] at hmem
  obtain ⟨k, -, hk⟩ := List.mem_filterMap.mp hmem
  split at hk
  · next document hread =>
      cases hk
      obtain ⟨text, htext⟩ := exists_text_of_readDocument hread
      exact hcodec text tracked htext
  · cases hk

/-! ## Advancing what was loaded -/

section Advancing

variable {c : RuntimeCycleInput}

/-- What comes after the load raises exactly where a document cannot be advanced. -/
theorem RuntimeCycleInput.advanceAndIssue_isOk_iff
    (hdocs : ∀ doc ∈ docs, doc.2.validate = .ok ())
    (htickets : ((c.historyOver docs).deals.map MT5Deal.ticket).Nodup) :
    (∃ effect, c.advanceAndIssue R docs = .ok effect) ↔ c.CanAdvance R docs := by
  have hadvance : (∃ advanced, advanceAllExistingTracking R (c.historyOver docs)
      (claimedIds docs) docs = .ok advanced) ↔ c.CanAdvance R docs := by
    rw [advanceAll_isOk_iff, RuntimeCycleInput.CanAdvance]
    refine forall₄_congr fun tradeId tracked others hturn => ?_
    exact advance_isOk_iff (hdocs _ hturn.mem) htickets
  rw [← hadvance]
  constructor
  · rintro ⟨effect, hok⟩
    obtain ⟨advanced, hadvanced, -⟩ := bind_ok_iff.mp hok
    exact ⟨advanced, hadvanced⟩
  · rintro ⟨advanced, hadvanced⟩
    obtain ⟨issued, hissued⟩ := c.issued_isOk (c.historyOver docs).status advanced
    exact ⟨_, bind_ok_iff.mpr ⟨advanced, hadvanced, bind_ok_iff.mpr ⟨issued, hissued, rfl⟩⟩⟩

end Advancing

/-! ## One document and the cycle -/

/-- The cycle over a directory that also holds the document does what it does over the others, and
reports nothing but the document's own trade id besides. -/
structure Isolated (tradeId : TradeId) (result result' : FileCycleResult) : Prop where
  advanced : result'.advancedTracking = result.advancedTracking
  issued : result'.newTracking = result.newTracking
  excluded : ∀ e, e.tradeId ≠ tradeId → (e ∈ result'.excludedTrackedRecommendations ↔
    e ∈ result.excludedTrackedRecommendations)
  files : ∀ other ≠ tradeId, result'.directory.lookup other = result.directory.lookup other

/-- Every document that reads as a recommendation is advanced, and its file holds it advanced. -/
def Persisted (codec : TrackingCodec) (platform : Platform) (directory : DocumentDirectory)
    (result : FileCycleResult) : Prop :=
  ∀ tradeId ∈ directory, ∀ tracked, MT5RecommendationPersistence.read platform directory tradeId
      codec.modelValidateJson = .ok (.valid tracked) →
    ∃ updated, (tradeId, updated) ∈ result.advancedTracking ∧
      (tradeId ∉ result.newTracking.map Prod.fst → result.directory.lookup tradeId =
        some (.content (codec.modelDumpJson updated).toUTF8))

variable {c : RuntimeCycleInput} {result : FileCycleResult}

theorem runRuntimeCycleOnFiles_cases (hconnected : c.connectivityAvailable = true)
    (h : runRuntimeCycleOnFiles R codec platform c directory = .ok result) :
    ∃ docs, loadTracking codec platform directory =
        .ok (docs, result.excludedTrackedRecommendations) ∧
      c.advanceAndIssue R docs = .ok (result.advancedTracking, result.newTracking) ∧
      result.directory = writeFiles codec (writeFiles codec directory result.advancedTracking)
        result.newTracking := by
  rw [runRuntimeCycleOnFiles, if_pos hconnected] at h
  obtain ⟨⟨docs, excluded⟩, hload, h⟩ := bind_ok_iff.mp h
  obtain ⟨⟨advanced, issued⟩, hadvance, h⟩ := bind_ok_iff.mp h
  cases h
  exact ⟨docs, mapError_ok_iff.mp hload, mapError_ok_iff.mp hadvance, rfl⟩

/-- Every cycle that completes advances and persists what it can read. -/
theorem persisted_of_runRuntimeCycleOnFiles (hconnected : c.connectivityAvailable = true)
    (h : runRuntimeCycleOnFiles R codec platform c directory = .ok result) :
    Persisted codec platform directory result := by
  intro tradeId hmem tracked hread
  obtain ⟨docs, hload, hadvance, hdirectory⟩ := runRuntimeCycleOnFiles_cases hconnected h
  obtain ⟨advanced, hadvanced, hadvance⟩ := bind_ok_iff.mp hadvance
  obtain ⟨issued, -, hadvance⟩ := bind_ok_iff.mp hadvance
  injection hadvance with hpair
  injection hpair with hadv hiss
  subst hadv
  have hkeys := advanceAll_keys hadvanced
  have hkey : tradeId ∈ result.advancedTracking.map Prod.fst := by
    rw [hkeys]
    exact List.mem_map_of_mem (mem_of_loadTracking hload hmem hread)
  obtain ⟨⟨k, updated⟩, hupdated, rfl⟩ := List.mem_map.mp hkey
  refine ⟨updated, hupdated, fun hnew => ?_⟩
  rw [hdirectory, lookup_writeFiles_of_notMem hnew]
  exact lookup_writeFiles_of_mem (hkeys ▸ loadTracking_nodup hload) hupdated

/-- The trade ids that one more document leaves excluded. -/
theorem mem_excluded_insert {before after : List ExcludedTrackedRecommendation}
    {e : ExcludedTrackedRecommendation} (he : e.tradeId ≠ tradeId) :
    e ∈ before ++ ((TrackingRead.excluded (tradeId, observed)).toList ++ after) ↔
      e ∈ before ++ after := by
  have hnone : e ∉ (TrackingRead.excluded (tradeId, observed)).toList := by
    intro hmem
    rw [Option.mem_toList] at hmem
    cases observed <;> cases hmem <;> exact he rfl
  simp [hnone]

/-- A document that is left out breaks no cycle. -/
theorem isolated_of_runRuntimeCycleOnFiles (hnew : tradeId ∉ directory)
    (hread : MT5RecommendationPersistence.read platform (directory.insert tradeId file) tradeId
      codec.modelValidateJson = .ok observed)
    (hinvalid : ∀ tracked, observed ≠ .valid tracked)
    (h : runRuntimeCycleOnFiles R codec platform c directory = .ok result) :
    ∃ result', runRuntimeCycleOnFiles R codec platform c (directory.insert tradeId file) =
        .ok result' ∧ Isolated tradeId result result' := by
  by_cases hconnected : c.connectivityAvailable = true
  · obtain ⟨docs, hload, hadvance, hdirectory⟩ := runRuntimeCycleOnFiles_cases hconnected h
    obtain ⟨docs₁, docs₂, before, after, rfl, hexcluded, hload'⟩ :=
      loadTracking_insert hnew hread hload
    have hnone : TrackingRead.loaded (tradeId, observed) = none := by
      cases observed with
      | valid tracked => exact absurd rfl (hinvalid tracked)
      | absent | corrupt | unavailable => rfl
    rw [hnone, Option.toList_none, List.nil_append] at hload'
    refine ⟨⟨result.advancedTracking, result.newTracking,
      before ++ ((TrackingRead.excluded (tradeId, observed)).toList ++ after),
      writeFiles codec (writeFiles codec (directory.insert tradeId file) result.advancedTracking)
        result.newTracking⟩, ?_, rfl, rfl, fun e he => ?_, fun other hother => ?_⟩
    · rw [runRuntimeCycleOnFiles, if_pos hconnected]
      exact bind_ok_iff.mpr ⟨_, mapError_ok_iff.mpr hload',
        bind_ok_iff.mpr ⟨_, mapError_ok_iff.mpr hadvance, rfl⟩⟩
    · rw [hexcluded]
      exact mem_excluded_insert he
    · rw [hdirectory]
      exact lookup_writeFiles_congr (lookup_writeFiles_congr (AList.lookup_insert_ne hother))
  · rw [runRuntimeCycleOnFiles, if_neg hconnected] at h ⊢
    cases h
    exact ⟨⟨[], [], [], directory.insert tradeId file⟩, rfl, rfl, rfl, fun _ _ => Iff.rfl,
      fun other hother => AList.lookup_insert_ne hother⟩

/-- The cycle over the other documents and one more that can be read completes exactly when what
reads as a recommendation can be advanced. -/
theorem runRuntimeCycleOnFiles_insert_isOk_iff (hnew : tradeId ∉ directory)
    (hread : MT5RecommendationPersistence.read platform (directory.insert tradeId file) tradeId
      codec.modelValidateJson = .ok observed)
    (hcodec : ∀ text tracked, codec.modelValidateJson text = some tracked →
      tracked.validate = .ok ())
    (htickets : ∀ start, ((c.historyDeals start c.asOf).2.map MT5Deal.ticket).Nodup)
    (h : runRuntimeCycleOnFiles R codec platform c directory = .ok result) :
    (∃ result', runRuntimeCycleOnFiles R codec platform c (directory.insert tradeId file) =
        .ok result' ∧ ∀ e, e.tradeId ≠ tradeId →
          (e ∈ result'.excludedTrackedRecommendations ↔
            e ∈ result.excludedTrackedRecommendations)) ↔
      (c.connectivityAvailable = true →
        c.CanAdvance R (recommendationsIn codec platform (directory.insert tradeId file))) := by
  by_cases hconnected : c.connectivityAvailable = true
  · rw [forall_prop_of_true hconnected]
    obtain ⟨docs, hload, -, -⟩ := runRuntimeCycleOnFiles_cases hconnected h
    obtain ⟨docs₁, docs₂, before, after, -, hexcluded, hload'⟩ :=
      loadTracking_insert hnew hread hload
    rw [recommendationsIn_eq hload', ← RuntimeCycleInput.advanceAndIssue_isOk_iff
      (fun doc hdoc => validated_of_loadTracking hcodec hload' hdoc) (htickets _)]
    constructor
    · rintro ⟨result', hresult', -⟩
      obtain ⟨docs', hload'', hadvance, -⟩ := runRuntimeCycleOnFiles_cases hconnected hresult'
      obtain ⟨hdocs, -⟩ := Prod.mk.inj (Except.ok.inj (hload'.symm.trans hload''))
      exact ⟨_, hdocs ▸ hadvance⟩
    · rintro ⟨⟨advanced, issued⟩, hadvance⟩
      refine ⟨⟨advanced, issued,
        before ++ ((TrackingRead.excluded (tradeId, observed)).toList ++ after),
        writeFiles codec (writeFiles codec (directory.insert tradeId file) advanced) issued⟩, ?_,
        fun e he => ?_⟩
      · rw [runRuntimeCycleOnFiles, if_pos hconnected]
        exact bind_ok_iff.mpr ⟨_, mapError_ok_iff.mpr hload',
          bind_ok_iff.mpr ⟨_, mapError_ok_iff.mpr hadvance, rfl⟩⟩
      · rw [hexcluded]
        exact mem_excluded_insert he
  · refine iff_of_true ?_ fun hcon => absurd hcon hconnected
    rw [runRuntimeCycleOnFiles, if_neg hconnected] at h ⊢
    cases h
    exact ⟨_, rfl, fun _ _ => Iff.rfl⟩

/-- Nothing breaks at the document: both stores read it as one of their typed states, and the cycle
completes with it. Unless it reads as a recommendation, it takes part in nothing; and every other
document is loaded, advanced and persisted. -/
structure BreaksNothing (R : Rounding) (codec : TrackingCodec)
    (validateProvenance : String → Option FinalRecommendationProvenance) (platform : Platform)
    (c : RuntimeCycleInput) (tradeId : TradeId) (withDocument : DocumentDirectory)
    (result : FileCycleResult) : Prop where
  provenance : ∃ observed, MT5RecommendationProvenancePersistence.read platform withDocument tradeId
    validateProvenance = .ok observed
  tracking : ∃ observed, MT5RecommendationPersistence.read platform withDocument tradeId
    codec.modelValidateJson = .ok observed
  completes : ∃ result', runRuntimeCycleOnFiles R codec platform c withDocument = .ok result' ∧
    ∀ e, e.tradeId ≠ tradeId → (e ∈ result'.excludedTrackedRecommendations ↔
      e ∈ result.excludedTrackedRecommendations)
  persists : ∀ result', runRuntimeCycleOnFiles R codec platform c withDocument = .ok result' →
    (c.connectivityAvailable = true → Persisted codec platform withDocument result') ∧
      ((∀ tracked, MT5RecommendationPersistence.read platform withDocument tradeId
        codec.modelValidateJson ≠ .ok (.valid tracked)) → Isolated tradeId result result')

/-- **A document breaks no cycle exactly when it is text in UTF-8**, or its name is not that of a
document, **and what reads as a recommendation can be advanced**: else a read raises, or the checks
of an advanced document do, and the cycle ends for every other document. -/
theorem documents_isolated_iff (R : Rounding) (codec : TrackingCodec)
    (validateProvenance : String → Option FinalRecommendationProvenance) (platform : Platform)
    (c : RuntimeCycleInput) (directory : DocumentDirectory) (tradeId : TradeId) (bytes : ByteArray)
    (result : FileCycleResult) (hnew : tradeId ∉ directory)
    (hcodec : ∀ text tracked, codec.modelValidateJson text = some tracked →
      tracked.validate = .ok ())
    (htickets : ∀ start, ((c.historyDeals start c.asOf).2.map MT5Deal.ticket).Nodup)
    (hresult : runRuntimeCycleOnFiles R codec platform c directory = .ok result) :
    BreaksNothing R codec validateProvenance platform c tradeId
        (directory.insert tradeId (.content bytes)) result ↔
      (IsSafeTradeId platform tradeId → bytes.IsValidUTF8) ∧
        (c.connectivityAvailable = true → c.CanAdvance R
          (recommendationsIn codec platform (directory.insert tradeId (.content bytes)))) := by
  have hlookup : (directory.insert tradeId (.content bytes)).lookup tradeId =
      some (.content bytes) := AList.lookup_insert _
  constructor
  · rintro ⟨-, ⟨observed, hread⟩, hcompletes, -⟩
    exact ⟨(readDocument_ok_iff hlookup).mp ⟨observed, hread⟩,
      (runRuntimeCycleOnFiles_insert_isOk_iff hnew hread hcodec htickets hresult).mp hcompletes⟩
  · rintro ⟨hvalid, hadvance⟩
    obtain ⟨observed, hread⟩ : ∃ observed, MT5RecommendationPersistence.read platform
        (directory.insert tradeId (.content bytes)) tradeId codec.modelValidateJson =
          .ok observed := (readDocument_ok_iff hlookup).mpr hvalid
    refine ⟨(readDocument_ok_iff hlookup).mpr hvalid, ⟨observed, hread⟩,
      (runRuntimeCycleOnFiles_insert_isOk_iff hnew hread hcodec htickets hresult).mpr hadvance,
      fun result' hresult' => ⟨fun hconnected =>
        persisted_of_runRuntimeCycleOnFiles hconnected hresult', fun hinvalid => ?_⟩⟩
    obtain ⟨result'', hresult'', hisolated⟩ := isolated_of_runRuntimeCycleOnFiles hnew hread
      (fun tracked htracked => hinvalid tracked (htracked ▸ hread)) hresult
    cases hresult'.symm.trans hresult''
    exact hisolated

/-! ## Documents that break a cycle, and one that does not -/

/-- A codec that accepts no text. -/
def strictCodec : TrackingCodec where
  modelValidateJson _ := none
  modelDumpJson _ := ""

/-- A directory with one document of one byte, which is not UTF-8. -/
def undecodableDirectory : DocumentDirectory :=
  (∅ : DocumentDirectory).insert (sampleTradeId 0 .trendFollowing) (.content ⟨#[0xff]⟩)

/-- A recommendation that was matched with position 7. -/
def matchedRecommendation : MT5TrackedRecommendation :=
  { pendingRecommendation with
    positionRecord := { pendingRecommendation.positionRecord with status := .opened }
    matchedPositionId := some 7 }

/-- The codec that knows the text of two documents. -/
def twoTextCodec : TrackingCodec where
  modelValidateJson text :=
    if text = "pending" then some pendingRecommendation
    else if text = "matched" then some matchedRecommendation
    else none
  modelDumpJson tracked := if tracked.matchedPositionId.isSome then "matched" else "pending"

/-- A directory with the text of one document. -/
def oneTextDirectory (text : String) : DocumentDirectory :=
  (∅ : DocumentDirectory).insert (sampleTradeId 0 .trendFollowing) (.content text.toUTF8)

/-- The read of a document that is not UTF-8 raises, and the cycle with it; and an open document
whose position the history does not show ends the cycle at an assertion. -/
theorem undecodable_document_raises :
    MT5RecommendationPersistence.read .windows undecodableDirectory
        (sampleTradeId 0 .trendFollowing) strictCodec.modelValidateJson =
        .error .unicodeDecodeError ∧
      runRuntimeCycleOnFiles .exact strictCodec .windows (sampleCycle 1 .hedging [] [])
        undecodableDirectory = .error (.read .unicodeDecodeError) ∧
      runRuntimeCycleOnFiles .exact twoTextCodec .windows (sampleCycle 1 .hedging [] [])
        (oneTextDirectory "matched") = .error (.model .assertion) := by
  decide +kernel

theorem twoTextCodec_validated {text : String} {tracked : MT5TrackedRecommendation}
    (h : twoTextCodec.modelValidateJson text = some tracked) : tracked.validate = .ok () := by
  unfold twoTextCodec at h
  dsimp only at h
  split_ifs at h
  · cases h
    decide +kernel
  · cases h
    decide +kernel

/-- Beside a pending document one that is no recommendation breaks nothing, and one that follows
position 7 neither. -/
theorem documents_isolated_iff_sample :
    ∃ result, runRuntimeCycleOnFiles .exact twoTextCodec .windows
        (sampleCycle 3 .hedging [sampleDeal] []) (oneTextDirectory "pending") = .ok result ∧
      BreaksNothing .exact twoTextCodec (fun _ => none) .windows
        (sampleCycle 3 .hedging [sampleDeal] []) (sampleTradeId 0 .breakout)
        ((oneTextDirectory "pending").insert (sampleTradeId 0 .breakout) (.content "\x7b".toUTF8))
        result ∧
      BreaksNothing .exact twoTextCodec (fun _ => none) .windows
        (sampleCycle 3 .hedging [sampleDeal] []) (sampleTradeId 0 .breakout)
        ((oneTextDirectory "pending").insert (sampleTradeId 0 .breakout)
          (.content "matched".toUTF8)) result := by
  obtain ⟨result, hresult⟩ := isOk_iff.mp (show (runRuntimeCycleOnFiles .exact twoTextCodec .windows
    (sampleCycle 3 .hedging [sampleDeal] []) (oneTextDirectory "pending")).isOk = true by
      decide +kernel)
  have htickets (start : Timestamp) : (((sampleCycle 3 .hedging [sampleDeal] []).historyDeals start
      (sampleCycle 3 .hedging [sampleDeal] []).asOf).2.map MT5Deal.ticket).Nodup :=
    List.nodup_singleton _
  have hadvance (text : String)
      (hvalid : ∀ doc ∈ recommendationsIn twoTextCodec .windows
        ((oneTextDirectory "pending").insert (sampleTradeId 0 .breakout) (.content text.toUTF8)),
          doc.2.validate = .ok ())
      (hok : ((sampleCycle 3 .hedging [sampleDeal] []).advanceAndIssue .exact
        (recommendationsIn twoTextCodec .windows ((oneTextDirectory "pending").insert
          (sampleTradeId 0 .breakout) (.content text.toUTF8)))).isOk = true) :
      (sampleCycle 3 .hedging [sampleDeal] []).CanAdvance .exact
        (recommendationsIn twoTextCodec .windows ((oneTextDirectory "pending").insert
          (sampleTradeId 0 .breakout) (.content text.toUTF8))) := by
    refine (RuntimeCycleInput.advanceAndIssue_isOk_iff hvalid ?_).mp (isOk_iff.mp hok)
    exact List.nodup_singleton _
  refine ⟨result, hresult, ?_, ?_⟩
  · exact (documents_isolated_iff .exact twoTextCodec (fun _ => none) .windows
      (sampleCycle 3 .hedging [sampleDeal] []) (oneTextDirectory "pending")
      (sampleTradeId 0 .breakout) "\x7b".toUTF8 result (by decide +kernel)
      (fun _ _ => twoTextCodec_validated) htickets hresult).mpr
      ⟨fun _ => String.isValidUTF8 _, fun _ => hadvance _ (by decide +kernel) (by decide +kernel)⟩
  · exact (documents_isolated_iff .exact twoTextCodec (fun _ => none) .windows
      (sampleCycle 3 .hedging [sampleDeal] []) (oneTextDirectory "pending")
      (sampleTradeId 0 .breakout) "matched".toUTF8 result (by decide +kernel)
      (fun _ _ => twoTextCodec_validated) htickets hresult).mpr
      ⟨fun _ => String.isValidUTF8 _, fun _ => hadvance _ (by decide +kernel) (by decide +kernel)⟩

end TradingAdvisor
