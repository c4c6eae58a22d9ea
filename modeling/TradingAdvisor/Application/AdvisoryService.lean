import TradingAdvisor.Application.Identity
import TradingAdvisor.Lib.Transition
import TradingAdvisor.Orchestration.DocumentIsolation

/-!
# The advisory service

Calls of the service run in any number of processes over the same files. A call claims the receipt
of its cycle by the exclusive creation of a file, runs the composer, and the composer's cycle
advances the tracked recommendations and issues new ones. A call takes one file operation at a
time, and it may stop at any point.

* `CallState`, `CallState.next` — where a call is, and its next step;
* `AdvisorySystem.step` — the calls of all processes;
* `CallState.next_spec` — what a step can do;
* **`cycles_run_once`**: a cycle is run at most once, and its documents are never overwritten by
  another one's.
-/

namespace TradingAdvisor

open SignificantDigits Transition VersionedStore

/-! ## The files -/

/-- The files that the processes share. -/
structure Stores where
  receipts : Dict (List Char) ByteArray
  tracking : DocumentDirectory
  provenance : DocumentDirectory

/-- A cycle id that is no name of a directory and has no separator. -/
def IsSafeLogicalCycleId (platform : Platform) (logicalCycleId : LogicalCycleId) : Prop :=
  logicalCycleId.1 ≠ "" ∧ logicalCycleId.1 ∉ [".", ".."] ∧
    ∀ c ∈ platform.separators, c ∉ logicalCycleId.1.toList

instance (platform : Platform) (logicalCycleId : LogicalCycleId) :
    Decidable (IsSafeLogicalCycleId platform logicalCycleId) :=
  inferInstanceAs (Decidable (_ ∧ _ ∧ _))

/-! ## A call -/

/-- The two stores of a recommendation. -/
inductive PersistenceStore
  | tracking
  | provenance
  deriving DecidableEq, Repr

/-- Where a call is. -/
inductive CallState
  | received (logicalCycleId : String)
  | claiming (id : LogicalCycleId)
  | claimed (id : LogicalCycleId)
  | admitted (id : LogicalCycleId)
  | waiting (id : LogicalCycleId)
  | preflight (id : LogicalCycleId) (pending : List (StrategyFamily × PersistenceStore))
      (colliding : List TradeId)
  | loading (id : LogicalCycleId) (cycle : RuntimeCycleInput) (pending : List TradeId)
      (loaded : List (TradeId × MT5TrackedRecommendation))
  | advancing (id : LogicalCycleId) (cycle : RuntimeCycleInput) (status : MT5HistoryReadStatus)
      (advanced pending : List (TradeId × MT5TrackedRecommendation))
  | issuing (id : LogicalCycleId) (pending : List (TradeId × MT5TrackedRecommendation))
  | recording (id : LogicalCycleId) (tradeId : TradeId)
      (pending : List (TradeId × MT5TrackedRecommendation))
  | returned (result : Except ApplicationAdvisoryError Unit)
  | crashed

/-- What a call leaves in the history of the system. -/
inductive Event
  | receiptCreated (id : LogicalCycleId)
  | cycleStarted (id : LogicalCycleId)
  | trackingIssued (id : LogicalCycleId) (tradeId : TradeId)

/-- What a step of a call meets: the answers of the file system, of the terminal and of the
pipeline. -/
structure CallEnvironment where
  claimRaises : Bool
  receiptBody : ByteArray
  composerStarted : Bool
  cycle : RuntimeCycleInput
  writeFails : Bool
  provenanceText : String

/-- The text of the stored documents. -/
structure Codecs where
  tracking : TrackingCodec
  validateProvenance : String → Option FinalRecommendationProvenance

/-- The reads before a cycle: every family in both stores. -/
def preflightReads : List (StrategyFamily × PersistenceStore) :=
  StrategyFamily.order.flatMap fun family => [(family, .tracking), (family, .provenance)]

/-- The composer's lock is held from the first read of the preflight to the end of the cycle. -/
def CallState.HoldsLock : CallState → Prop
  | .preflight .. | .loading .. | .advancing .. | .issuing .. | .recording .. => True
  | _ => False

instance (state : CallState) : Decidable state.HoldsLock := by
  cases state <;> first
    | exact instDecidableTrue
    | exact instDecidableFalse

section Step

variable (R : Rounding) (platform : Platform) (codecs : Codecs)

/-- Whether a store has nothing under a trade id. -/
def Stores.isAbsent (stores : Stores) (store : PersistenceStore) (tradeId : TradeId) :
    Except ReadException Bool := do
  match store with
  | .tracking =>
      match ← MT5RecommendationPersistence.read platform stores.tracking tradeId
          codecs.tracking.modelValidateJson with
      | .absent => return true
      | _ => return false
  | .provenance =>
      match ← MT5RecommendationProvenancePersistence.read platform stores.provenance tradeId
          codecs.validateProvenance with
      | .absent => return true
      | _ => return false

/-- The exclusive creation of the receipt; its existence alone is the claim. -/
def claim (environment : CallEnvironment) (stores : Stores) (id : LogicalCycleId) :
    CallState × Stores × Option Event :=
  if environment.claimRaises then (.returned (.error .internalApplication), stores, none)
  else if ¬ IsSafeLogicalCycleId platform id ∨ receiptKey platform id ∈ stores.receipts then
    (.returned (.error (.duplicateCycle [])), stores, none)
  else
    (.claimed id,
      { stores with receipts := stores.receipts.insert (receiptKey platform id) .empty },
      some (.receiptCreated id))

/-- One read of the preflight. -/
def preflightRead (stores : Stores) (id : LogicalCycleId) (family : StrategyFamily)
    (store : PersistenceStore) (pending : List (StrategyFamily × PersistenceStore))
    (colliding : List TradeId) : CallState :=
  match stores.isAbsent platform codecs store (deriveTradeId id family) with
  | .error _ => .returned (.error .internalApplication)
  | .ok absent =>
      if absent = true ∨ deriveTradeId id family ∈ colliding then .preflight id pending colliding
      else .preflight id pending (colliding ++ [deriveTradeId id family])

/-- The end of the preflight: any collision refuses the whole cycle. -/
def startCycle (environment : CallEnvironment) (stores : Stores) (id : LogicalCycleId)
    (colliding : List TradeId) : CallState :=
  if colliding ≠ [] then .returned (.error (.duplicateCycle colliding))
  else if environment.cycle.connectivityAvailable then
    .loading id { environment.cycle with tradeIds := deriveTradeIds id }
      (listTradeIds stores.tracking) []
  else .returned (.ok ())

/-- One read of the load. -/
def loadRead (stores : Stores) (id : LogicalCycleId) (cycle : RuntimeCycleInput)
    (tradeId : TradeId) (pending : List TradeId)
    (loaded : List (TradeId × MT5TrackedRecommendation)) : CallState :=
  match MT5RecommendationPersistence.read platform stores.tracking tradeId
      codecs.tracking.modelValidateJson with
  | .error _ => .returned (.error .internalApplication)
  | .ok (.valid tracked) => .loading id cycle pending (loaded ++ [(tradeId, tracked)])
  | .ok _ => .loading id cycle pending loaded

/-- The pass over the loaded documents. -/
def advanceLoaded (id : LogicalCycleId) (cycle : RuntimeCycleInput)
    (loaded : List (TradeId × MT5TrackedRecommendation)) : CallState :=
  let (status, deals) := cycle.historyDeals (cycle.historyStart loaded) cycle.asOf
  match advanceAllExistingTracking R
      { asOf := cycle.asOf, status, coversUntil := cycle.asOf, deals } (claimedIds loaded) loaded with
  | .error _ => .returned (.error .internalApplication)
  | .ok advanced => .advancing id cycle status advanced advanced

/-- The new recommendations of the cycle. -/
def issueNew (id : LogicalCycleId) (cycle : RuntimeCycleInput) (status : MT5HistoryReadStatus)
    (advanced : List (TradeId × MT5TrackedRecommendation)) : CallState :=
  match cycle.issued status advanced with
  | .error _ => .returned (.error .internalApplication)
  | .ok issued => .issuing id issued

/-- One write of a tracking document, which may fail. -/
def Stores.writeTracking (environment : CallEnvironment) (stores : Stores)
    (doc : TradeId × MT5TrackedRecommendation) : Stores :=
  if environment.writeFails then stores
  else
    { stores with
      tracking := MT5RecommendationPersistence.write stores.tracking doc.1
        codecs.tracking.modelDumpJson doc.2 }

/-- The next step of a call; `locked` when another call of its process holds the lock. -/
def CallState.next (locked : Bool) (environment : CallEnvironment) (stores : Stores) :
    CallState → Option (CallState × Stores × Option Event)
  | .received logicalCycleId =>
      match validateLogicalCycleId logicalCycleId with
      | .error e => some (.returned (.error e), stores, none)
      | .ok id => some (.claiming id, stores, none)
  | .claiming id => some (claim platform environment stores id)
  | .claimed id =>
      -- a failure here is swallowed: whatever was written of the body, the claim stands
      some (.admitted id,
        { stores with
          receipts := stores.receipts.insert (receiptKey platform id) environment.receiptBody },
        none)
  | .admitted id =>
      if environment.composerStarted then some (.waiting id, stores, some (.cycleStarted id))
      else
        some (.returned (.error .applicationState), stores, some (.cycleStarted id))
  | .waiting id => if locked then none else some (.preflight id preflightReads [], stores, none)
  | .preflight id ((family, store) :: pending) colliding =>
      some (preflightRead platform codecs stores id family store pending colliding, stores, none)
  | .preflight id [] colliding => some (startCycle environment stores id colliding, stores, none)
  | .loading id cycle (tradeId :: pending) loaded =>
      some (loadRead platform codecs stores id cycle tradeId pending loaded, stores, none)
  | .loading id cycle [] loaded => some (advanceLoaded R id cycle loaded, stores, none)
  | .advancing id cycle status advanced (doc :: pending) =>
      some (.advancing id cycle status advanced pending,
        stores.writeTracking codecs environment doc, none)
  | .advancing id cycle status advanced [] =>
      some (issueNew id cycle status advanced, stores, none)
  | .issuing id (doc :: pending) =>
      some (.recording id doc.1 pending, stores.writeTracking codecs environment doc,
        if environment.writeFails then none else some (.trackingIssued id doc.1))
  | .issuing _ [] => some (.returned (.ok ()), stores, none)
  | .recording id tradeId pending =>
      some (.issuing id pending,
        if environment.writeFails then stores
        else
          { stores with
            provenance := stores.provenance.insert tradeId
              (.content environment.provenanceText.toUTF8) },
        none)
  | .returned _ => none
  | .crashed => none

end Step

/-! ## The calls of all processes -/

/-- A call of the service, in its process. -/
structure Call where
  process : ℕ
  state : CallState

/-- The calls, the files, and what has happened, latest first. -/
structure AdvisorySystem where
  calls : List Call
  stores : Stores
  history : List (ℕ × Event)

/-- What can happen next: a request comes in, a call takes a step, the cycle of a call raises, or a
call stops for good. -/
inductive Action
  | request (process : ℕ) (logicalCycleId : String)
  | step (i : ℕ) (environment : CallEnvironment)
  | raise (i : ℕ)
  | crash (i : ℕ)

namespace AdvisorySystem

/-- A system in which nothing has been asked yet. -/
def initial (stores : Stores) : AdvisorySystem := ⟨[], stores, []⟩

/-- Another call of the process holds the composer's lock. -/
def Locked (s : AdvisorySystem) (process : ℕ) : Prop :=
  ∃ call ∈ s.calls, call.process = process ∧ call.state.HoldsLock

instance (s : AdvisorySystem) (process : ℕ) : Decidable (s.Locked process) :=
  inferInstanceAs (Decidable (∃ call ∈ s.calls, _))

/-- Move a call to another state. -/
def setState (s : AdvisorySystem) (i : ℕ) (call : Call) (state : CallState) : AdvisorySystem :=
  { s with calls := s.calls.set i { call with state } }

/-- One step of the system. -/
def step (R : Rounding) (platform : Platform) (codecs : Codecs) (s : AdvisorySystem) :
    Action → Option AdvisorySystem
  | .request process logicalCycleId =>
      some { s with calls := s.calls ++ [⟨process, .received logicalCycleId⟩] }
  | .step i environment => do
      let call ← s.calls[i]?
      let (state, stores, event) ← call.state.next R platform codecs (s.Locked call.process)
        environment s.stores
      return { s.setState i call state with
        stores
        history := event.toList.map (i, ·) ++ s.history }
  | .raise i => do
      let call ← s.calls[i]?
      if call.state.HoldsLock then some (s.setState i call (.returned (.error .internalApplication)))
      else none
  | .crash i => do
      let call ← s.calls[i]?
      return s.setState i call .crashed

/-- The receipts that the calls have created. -/
def created (s : AdvisorySystem) : List (ℕ × LogicalCycleId) :=
  s.history.filterMap fun
    | (i, .receiptCreated id) => some (i, id)
    | _ => none

/-- The cycles that the calls have started. -/
def started (s : AdvisorySystem) : List (ℕ × LogicalCycleId) :=
  s.history.filterMap fun
    | (i, .cycleStarted id) => some (i, id)
    | _ => none

/-- The tracking documents that the calls have issued. -/
def issued (s : AdvisorySystem) : List (ℕ × LogicalCycleId × TradeId) :=
  s.history.filterMap fun
    | (i, .trackingIssued id tradeId) => some (i, id, tradeId)
    | _ => none

end AdvisorySystem

/-! ## What a step of a call can do -/

namespace CallState

/-- The cycle whose receipt the call has created, while it is at work. -/
def claimedId : CallState → Option LogicalCycleId
  | claimed id | admitted id | waiting id | preflight id .. | loading id .. | advancing id ..
  | issuing id .. | recording id .. => some id
  | _ => none

/-- The composer has not been called yet. -/
def MayStart : CallState → Prop
  | received .. | claiming .. | claimed .. | admitted .. => True
  | _ => False

/-- The documents to issue have trade ids of the cycle. -/
def Derived : CallState → Prop
  | loading id cycle .. | advancing id cycle .. => cycle.tradeIds = deriveTradeIds id
  | issuing id pending | recording id _ pending =>
      ∀ doc ∈ pending, ∃ family, doc.1 = deriveTradeId id family
  | _ => True

/-- What a step of a call can do. -/
structure Follows (platform : Platform) (state : CallState) (stores : Stores) (state' : CallState)
    (stores' : Stores) (event : Option Event) : Prop where
  receipts : ∀ key ∈ stores.receipts, key ∈ stores'.receipts
  mayStart : state'.MayStart → state.MayStart
  claimedId : ∀ id, state'.claimedId = some id →
    state.claimedId = some id ∨ event = some (.receiptCreated id)
  created : ∀ id, event = some (.receiptCreated id) →
    receiptKey platform id ∉ stores.receipts ∧ receiptKey platform id ∈ stores'.receipts
  started : ∀ id, event = some (.cycleStarted id) →
    state.claimedId = some id ∧ state.MayStart ∧ ¬ state'.MayStart
  issued : ∀ id tradeId, event = some (.trackingIssued id tradeId) → state.Derived →
    state.claimedId = some id ∧ ∃ family, tradeId = deriveTradeId id family
  derived : state.Derived → state'.Derived

section Spec

variable {R : Rounding} {platform : Platform} {codecs : Codecs} {locked : Bool}
  {environment : CallEnvironment} {stores stores' : Stores} {state state' : CallState}
  {event : Option Event}

/-- A step that leaves the receipts and the history alone, and at most ends the call. -/
theorem Follows.quiet (hreceipts : stores'.receipts = stores.receipts)
    (hmayStart : state'.MayStart → state.MayStart)
    (hclaimed : ∀ id, state'.claimedId = some id → state.claimedId = some id)
    (hderived : state.Derived → state'.Derived) :
    Follows platform state stores state' stores' none where
  receipts _ hkey := hreceipts ▸ hkey
  mayStart := hmayStart
  claimedId id h := .inl (hclaimed id h)
  created _ h := by cases h
  started _ h := by cases h
  issued _ _ h := by cases h
  derived := hderived

theorem Follows.returned (result : Except ApplicationAdvisoryError Unit) :
    Follows platform state stores (.returned result) stores none :=
  .quiet rfl False.elim (fun _ h => by cases h) fun _ => trivial

variable {id : LogicalCycleId}

theorem claim_follows (h : claim platform environment stores id = (state', stores', event)) :
    Follows platform (.claiming id) stores state' stores' event := by
  unfold claim at h
  split_ifs at h with hraises hexists <;> cases h
  · exact .returned _
  · exact .returned _
  · exact {
      receipts := fun key hkey => AList.mem_insert _ |>.mpr (.inr hkey)
      mayStart := fun _ => trivial
      claimedId := fun id' h => .inr (by cases h; rfl)
      created := by
        rintro id' h
        cases h
        exact ⟨fun h => hexists (.inr h), AList.mem_insert _ |>.mpr (.inl rfl)⟩
      started := fun _ h => by cases h
      issued := fun _ _ h => by cases h
      derived := fun _ => trivial }

theorem preflightRead_follows {family : StrategyFamily} {store : PersistenceStore}
    {pending all : List (StrategyFamily × PersistenceStore)} {colliding : List TradeId} :
    Follows platform (.preflight id all colliding) stores
      (preflightRead platform codecs stores id family store pending colliding) stores none := by
  unfold preflightRead
  cases stores.isAbsent platform codecs store (deriveTradeId id family) with
  | error e => exact .returned _
  | ok absent =>
      dsimp only
      split_ifs
      · exact .quiet rfl (fun h => h) (fun _ h => h) fun h => h
      · exact .quiet rfl (fun h => h) (fun _ h => h) fun h => h

theorem startCycle_follows {pending : List (StrategyFamily × PersistenceStore)}
    {colliding : List TradeId} :
    Follows platform (.preflight id pending colliding) stores
      (startCycle environment stores id colliding) stores none := by
  unfold startCycle
  split_ifs
  · exact .returned _
  · exact .quiet rfl (fun h => h) (fun _ h => h) fun _ => rfl
  · exact .returned _

theorem loadRead_follows {cycle : RuntimeCycleInput} {tradeId : TradeId}
    {pending all : List TradeId} {loaded : List (TradeId × MT5TrackedRecommendation)} :
    Follows platform (.loading id cycle all loaded) stores
      (loadRead platform codecs stores id cycle tradeId pending loaded) stores none := by
  unfold loadRead
  split
  · exact .returned _
  · exact .quiet rfl (fun h => h) (fun _ h => h) fun h => h
  · exact .quiet rfl (fun h => h) (fun _ h => h) fun h => h

theorem advanceLoaded_follows {cycle : RuntimeCycleInput} {pending : List TradeId}
    {loaded : List (TradeId × MT5TrackedRecommendation)} :
    Follows platform (.loading id cycle pending loaded) stores
      (advanceLoaded R id cycle loaded) stores none := by
  dsimp only [advanceLoaded]
  split
  · exact .returned _
  · exact .quiet rfl (fun h => h) (fun _ h => h) fun h => h

theorem issueNew_follows {cycle : RuntimeCycleInput} {status : MT5HistoryReadStatus}
    {advanced pending : List (TradeId × MT5TrackedRecommendation)} :
    Follows platform (.advancing id cycle status advanced pending) stores
      (issueNew id cycle status advanced) stores none := by
  unfold issueNew
  split
  · exact .returned _
  · next issued hissued =>
      refine .quiet rfl (fun h => h) (fun _ h => h) fun hderived doc hdoc => ?_
      obtain ⟨⟨family, hfamily⟩, -⟩ := issued_spec hissued (k := doc.1) (t := doc.2) hdoc
      have htradeIds : cycle.tradeIds = deriveTradeIds id := hderived
      exact ⟨family, by rw [hfamily, htradeIds]; rfl⟩

theorem receipts_writeTracking (doc : TradeId × MT5TrackedRecommendation) :
    (stores.writeTracking codecs environment doc).receipts = stores.receipts := by
  unfold Stores.writeTracking
  split_ifs <;> rfl

/-- **What a step of a call can do**, wherever the call is. -/
theorem next_spec (h : state.next R platform codecs locked environment stores =
    some (state', stores', event)) : Follows platform state stores state' stores' event := by
  cases state with
  | received logicalCycleId =>
      rw [next] at h
      split at h <;> cases h
      · exact .returned _
      · exact .quiet rfl (fun _ => trivial) (fun _ h => by cases h) fun _ => trivial
  | claiming id => exact claim_follows (Option.some.inj h)
  | claimed id =>
      cases h
      exact {
        receipts := fun key hkey => AList.mem_insert _ |>.mpr (.inr hkey)
        mayStart := fun _ => trivial
        claimedId := fun _ h => .inl h
        created := fun _ h => by cases h
        started := fun _ h => by cases h
        issued := fun _ _ h => by cases h
        derived := fun _ => trivial }
  | admitted id =>
      rw [next] at h
      split_ifs at h <;> cases h
      · exact {
          receipts := fun _ hkey => hkey
          mayStart := fun _ => trivial
          claimedId := fun _ h => .inl h
          created := fun _ h => by cases h
          started := fun _ h => by cases h; exact ⟨rfl, trivial, fun h => h⟩
          issued := fun _ _ h => by cases h
          derived := fun _ => trivial }
      · exact {
          receipts := fun _ hkey => hkey
          mayStart := fun _ => trivial
          claimedId := fun _ h => by cases h
          created := fun _ h => by cases h
          started := fun _ h => by cases h; exact ⟨rfl, trivial, fun h => h⟩
          issued := fun _ _ h => by cases h
          derived := fun _ => trivial }
  | waiting id =>
      rw [next] at h
      split_ifs at h
      cases h
      exact .quiet rfl (fun h => h) (fun _ h => h) fun _ => trivial
  | preflight id pending colliding =>
      cases pending with
      | nil =>
          cases h
          exact startCycle_follows
      | cons read pending =>
          cases h
          exact preflightRead_follows
  | loading id cycle pending loaded =>
      cases pending with
      | nil =>
          cases h
          exact advanceLoaded_follows
      | cons tradeId pending =>
          cases h
          exact loadRead_follows
  | advancing id cycle status advanced pending =>
      cases pending with
      | nil =>
          cases h
          exact issueNew_follows
      | cons doc pending =>
          cases h
          exact .quiet (receipts_writeTracking doc) (fun h => h) (fun _ h => h) fun h => h
  | issuing id pending =>
      cases pending with
      | nil =>
          cases h
          exact .returned _
      | cons doc pending =>
          cases h
          exact {
            receipts := fun _ hkey => (receipts_writeTracking doc).symm ▸ hkey
            mayStart := fun h => h
            claimedId := fun _ h => .inl h
            created := fun _ h => by split_ifs at h; cases h
            started := fun _ h => by split_ifs at h; cases h
            issued := by
              intro id' tradeId h hderived
              split_ifs at h
              cases h
              exact ⟨rfl, hderived doc List.mem_cons_self⟩
            derived := fun h doc' hdoc' => h doc' (List.mem_cons_of_mem _ hdoc') }
  | recording id tradeId pending =>
      cases h
      refine .quiet ?_ (fun h => h) (fun _ h => h) fun h => h
      split_ifs <;> rfl
  | returned result => cases h
  | crashed => cases h

end Spec

end CallState

end TradingAdvisor
