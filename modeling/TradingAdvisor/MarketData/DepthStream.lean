import Mathlib.Data.List.Perm.Basic
import TradingAdvisor.Lib.Transition
import TradingAdvisor.MarketData.OrderBookSync
import TradingAdvisor.MarketData.Reconnect

/-!
# The depth stream of several symbols

The stream owns one synchronizer per symbol. Its dispatch loop, its `order_book` calls and its
resync runs share the synchronizers and interleave at every `await`; a step of the system is what
happens between two of them.

* `step` — the steps: a dispatched event, an `order_book` call up to its subscription and from
  there on, the start of a resync run, the end of its snapshot fetch and of its backoff, which can
  raise;
* `status`, `inFlight` — what the steps are observed by.
-/

namespace TradingAdvisor

open Binary64 VersionedStore OrderBookSynchronizer

/-- Where a resync run is waiting. -/
inductive ResyncPhase
  | created
  | fetching (attempt : ℕ)
  | sleeping (attempt : ℕ) (delay : Double)
  deriving DecidableEq

/-- A resync run in flight. -/
structure ResyncTask where
  symbol : Symbol
  phase : ResyncPhase
  deriving DecidableEq

/-- How a snapshot fetch ends. -/
inductive FetchOutcome
  | snapshot (snapshot : OrderBookSnapshot)
  | marketDataError

/-- The fetch does not lead to a synchronized book. -/
def FetchOutcome.Fails (sync : OrderBookSynchronizer) : FetchOutcome → Prop
  | .marketDataError => True
  | .snapshot book => ¬ sync.Synchronizes book

instance (sync : OrderBookSynchronizer) : DecidablePred (FetchOutcome.Fails sync)
  | .marketDataError => instDecidableTrue
  | .snapshot book => inferInstanceAs (Decidable (¬ sync.Synchronizes book))

/-- The state a finished fetch leaves the synchronizer in. -/
def FetchOutcome.stateAfter (sync : OrderBookSynchronizer) : FetchOutcome → SyncState
  | .marketDataError => sync.state
  | .snapshot book => (sync.applySnapshot book).1.state

/-- Owns the depth connection of one or more symbols. -/
structure BinanceFuturesOrderBookStream where
  source : NonemptyText
  queueMaxsize : ℤ
  maxResyncAttempts : ℕ
  retryPolicy : ReconnectPolicy
  synchronizers : Dict Symbol OrderBookSynchronizer
  queues : Dict Symbol (List OrderBookSnapshot)
  /-- `order_book` calls that wait for their subscription. -/
  subscribing : List Symbol
  /-- Symbols whose subscription is confirmed. -/
  subscribed : List Symbol
  tasks : List ResyncTask
  /-- Whether the dispatch loop runs; an exception of a synchronizer ends it. -/
  dispatching : Bool

/-- The steps of the stream. -/
inductive StreamAction
  | depthEvent (delta : OrderBookDeltaEvent)
  | orderBook (symbol : Symbol)
  | subscribed (symbol : Symbol)
  | taskStart (i : ℕ)
  /-- The fetch ends; the draw is the jitter of a failure. -/
  | fetchDone (i : ℕ) (outcome : FetchOutcome) (jitter : Jitter)
  | sleepDone (i : ℕ)
  /-- `sleep` refuses a delay that is not a number. -/
  | sleepRaises (i : ℕ)

/-- Put an item into a bounded queue, dropping its oldest item when it is full. -/
def dropOldestPut {α : Type} (maxsize : ℤ) (queue : List α) (item : α) : List α :=
  if maxsize ≤ 0 ∨ queue.length < maxsize then queue ++ [item] else queue.tail ++ [item]

namespace BinanceFuturesOrderBookStream

/-- A new stream whose dispatch loop has been started. -/
def init (source : NonemptyText) (queueMaxsize : ℤ) (maxResyncAttempts : ℕ)
    (retryPolicy : ReconnectPolicy) : BinanceFuturesOrderBookStream :=
  ⟨source, queueMaxsize, maxResyncAttempts, retryPolicy, ∅, ∅, [], [], [], true⟩

/-! ## The parts of a step -/

/-- Write back the synchronizer of a symbol. -/
def setSync (s : BinanceFuturesOrderBookStream) (symbol : Symbol) (sync : OrderBookSynchronizer) :
    BinanceFuturesOrderBookStream :=
  { s with synchronizers := s.synchronizers.insert symbol sync }

/-- Hand a snapshot to the consumer of a symbol. -/
def publish (s : BinanceFuturesOrderBookStream) (symbol : Symbol) (snapshot : OrderBookSnapshot) :
    BinanceFuturesOrderBookStream :=
  match s.queues.lookup symbol with
  | none => s
  | some queue =>
      { s with queues := s.queues.insert symbol (dropOldestPut s.queueMaxsize queue snapshot) }

/-- Create a resync run; it starts at a later step. -/
def createTask (s : BinanceFuturesOrderBookStream) (symbol : Symbol) :
    BinanceFuturesOrderBookStream :=
  { s with tasks := s.tasks ++ [⟨symbol, .created⟩] }

/-- Let the `i`-th run wait in a phase. -/
def setTask (s : BinanceFuturesOrderBookStream) (i : ℕ) (task : ResyncTask) :
    BinanceFuturesOrderBookStream :=
  { s with tasks := s.tasks.set i task }

/-- End the `i`-th run. -/
def endTask (s : BinanceFuturesOrderBookStream) (i : ℕ) : BinanceFuturesOrderBookStream :=
  { s with tasks := s.tasks.eraseIdx i }

/-- `start_buffering` on the synchronizer of a symbol. -/
def startBuffering (s : BinanceFuturesOrderBookStream) (symbol : Symbol) :
    BinanceFuturesOrderBookStream :=
  match s.synchronizers.lookup symbol with
  | none => s
  | some sync => s.setSync symbol sync.startBuffering

/-- A failed attempt of the `i`-th run: back off, or give up after the last attempt. -/
def failAttempt (power : FloatPower) (s : BinanceFuturesOrderBookStream) (i : ℕ) (symbol : Symbol)
    (attempt : ℕ) (jitter : Jitter) : BinanceFuturesOrderBookStream :=
  if attempt < s.maxResyncAttempts then
    match s.retryPolicy.delayForAttempt power attempt jitter with
    -- the exception ends the run before the synchronizer buffers again
    | .error _ => s.endTask i
    | .ok delay => s.setTask i ⟨symbol, .sleeping attempt delay⟩
  else (s.startBuffering symbol).endTask i

/-- One event through the dispatch loop. -/
def dispatch (s : BinanceFuturesOrderBookStream) (delta : OrderBookDeltaEvent) :
    BinanceFuturesOrderBookStream :=
  match s.synchronizers.lookup delta.symbol with
  | none => s
  | some sync =>
      let s' := s.setSync delta.symbol (sync.onDelta delta).1
      match (sync.onDelta delta).2 with
      | .error _ => { s' with dispatching := false }
      | .ok (some snapshot) => s'.publish delta.symbol snapshot
      | .ok none =>
          if (sync.onDelta delta).1.state = .resyncRequired then s'.createTask delta.symbol else s'

/-- An `order_book` call up to its subscription; an entry that exists is kept. -/
def orderBook (s : BinanceFuturesOrderBookStream) (symbol : Symbol) :
    BinanceFuturesOrderBookStream :=
  { s with
    synchronizers := match s.synchronizers.lookup symbol with
      | none => s.synchronizers.insert symbol
          (OrderBookSynchronizer.init symbol .perpetual s.source 2000)
      | some _ => s.synchronizers
    queues := match s.queues.lookup symbol with
      | none => s.queues.insert symbol []
      | some _ => s.queues
    subscribing := symbol :: s.subscribing }

/-- The end of the snapshot fetch of the `i`-th run. -/
def fetched (power : FloatPower) (s : BinanceFuturesOrderBookStream) (i : ℕ) (symbol : Symbol)
    (attempt : ℕ) (jitter : Jitter) (sync : OrderBookSynchronizer) :
    FetchOutcome → BinanceFuturesOrderBookStream
  | .marketDataError => s.failAttempt power i symbol attempt jitter
  | .snapshot snapshot =>
      let s' := s.setSync symbol (sync.applySnapshot snapshot).1
      match (sync.applySnapshot snapshot).2 with
      | .ok published => (s'.publish symbol published).endTask i
      | .error (.synchronization _) => s'.failAttempt power i symbol attempt jitter
      | .error _ => s'.endTask i

/-- One step; `none` when the action is not enabled. -/
def step (power : FloatPower) (s : BinanceFuturesOrderBookStream) :
    StreamAction → Option BinanceFuturesOrderBookStream
  | .depthEvent delta => if s.dispatching then some (s.dispatch delta) else none
  | .orderBook symbol => some (s.orderBook symbol)
  | .subscribed symbol =>
      if symbol ∈ s.subscribing then
        some (createTask { s with
          subscribing := s.subscribing.erase symbol
          subscribed := symbol :: s.subscribed } symbol)
      else none
  | .taskStart i =>
      match s.tasks[i]? with
      | some ⟨symbol, .created⟩ =>
          if 1 ≤ s.maxResyncAttempts then
            some ((s.startBuffering symbol).setTask i ⟨symbol, .fetching 1⟩)
          else some ((s.startBuffering symbol).endTask i)
      | _ => none
  | .fetchDone i outcome jitter =>
      match s.tasks[i]? with
      | some ⟨symbol, .fetching attempt⟩ =>
          (s.synchronizers.lookup symbol).map fun sync =>
            s.fetched power i symbol attempt jitter sync outcome
      | _ => none
  | .sleepDone i =>
      match s.tasks[i]? with
      | some ⟨symbol, .sleeping attempt delay⟩ =>
          -- a timer that is infinitely far away does not fire
          if delay ≠ .posInf then
            some ((s.startBuffering symbol).setTask i ⟨symbol, .fetching (attempt + 1)⟩)
          else none
      | _ => none
  | .sleepRaises i =>
      match s.tasks[i]? with
      | some ⟨_, .sleeping _ delay⟩ => if delay = .nan then some (s.endTask i) else none
      | _ => none

/-! ## What the steps are observed by -/

/-- The synchronization state of a symbol. -/
def status (s : BinanceFuturesOrderBookStream) (symbol : Symbol) : Option SyncState :=
  (s.synchronizers.lookup symbol).map OrderBookSynchronizer.state

/-- The number of resync runs of a symbol in flight. -/
def inFlight (s : BinanceFuturesOrderBookStream) (symbol : Symbol) : ℕ :=
  s.tasks.countP fun task => task.symbol = symbol

section Observe

variable {s : BinanceFuturesOrderBookStream} {y z : Symbol} {sync : OrderBookSynchronizer}
  {task : ResyncTask} {i attempt : ℕ} {delta : OrderBookDeltaEvent}

theorem status_of_lookup (h : s.synchronizers.lookup y = some sync) :
    s.status y = some sync.state := by
  rw [status, h, Option.map_some]

theorem status_setSync :
    (s.setSync y sync).status z = if z = y then some sync.state else s.status z := by
  unfold status setSync
  split_ifs with h
  · rw [h, AList.lookup_insert, Option.map_some]
  · rw [AList.lookup_insert_ne h]

@[simp] theorem inFlight_setSync : (s.setSync y sync).inFlight z = s.inFlight z := rfl

@[simp] theorem status_publish (snapshot : OrderBookSnapshot) :
    (s.publish y snapshot).status z = s.status z := by
  unfold publish
  split <;> rfl

@[simp] theorem tasks_publish (snapshot : OrderBookSnapshot) :
    (s.publish y snapshot).tasks = s.tasks := by
  unfold publish
  split <;> rfl

@[simp] theorem inFlight_publish (snapshot : OrderBookSnapshot) :
    (s.publish y snapshot).inFlight z = s.inFlight z := by
  rw [inFlight, tasks_publish, inFlight]

@[simp] theorem subscribed_publish (snapshot : OrderBookSnapshot) :
    (s.publish y snapshot).subscribed = s.subscribed := by
  unfold publish
  split <;> rfl

@[simp] theorem subscribing_publish (snapshot : OrderBookSnapshot) :
    (s.publish y snapshot).subscribing = s.subscribing := by
  unfold publish
  split <;> rfl

@[simp] theorem status_createTask : (s.createTask y).status z = s.status z := rfl

@[simp] theorem inFlight_createTask :
    (s.createTask y).inFlight z = s.inFlight z + if z = y then 1 else 0 := by
  simp [inFlight, createTask, List.countP_append, List.countP_cons, eq_comm]

@[simp] theorem status_setTask : (s.setTask i task).status z = s.status z := rfl

@[simp] theorem status_endTask : (s.endTask i).status z = s.status z := rfl

theorem inFlight_eq (h : s.tasks[i]? = some task) :
    s.inFlight z = (s.endTask i).inFlight z + if z = task.symbol then 1 else 0 := by
  obtain ⟨hi, rfl⟩ := List.getElem?_eq_some_iff.mp h
  rw [inFlight, ← List.Perm.countP_eq _ (List.getElem_cons_eraseIdx_perm hi), List.countP_cons]
  simp [inFlight, endTask, eq_comm]

theorem inFlight_pos (h : s.tasks[i]? = some task) : 0 < s.inFlight task.symbol := by
  rw [inFlight_eq h, if_pos rfl]
  omega

theorem inFlight_setTask (h : s.tasks[i]? = some task) (phase : ResyncPhase) :
    (s.setTask i ⟨task.symbol, phase⟩).inFlight z = s.inFlight z := by
  obtain ⟨hi, rfl⟩ := List.getElem?_eq_some_iff.mp h
  have hle : (if decide (s.tasks[i].symbol = z) = true then 1 else 0) ≤ s.inFlight z := by
    rw [inFlight_eq h]
    simp [eq_comm]
  simp only [inFlight, setTask, List.countP_set hi] at hle ⊢
  omega

theorem status_startBuffering :
    (s.startBuffering y).status z =
      if z = y then (s.status y).map fun _ => SyncState.buffering else s.status z := by
  unfold startBuffering
  cases h : s.synchronizers.lookup y with
  | none =>
      split_ifs with hz
      · subst hz
        simp [status, h]
      · rfl
  | some sync =>
      simp only [status_setSync, status_of_lookup h]
      rfl

@[simp] theorem tasks_startBuffering : (s.startBuffering y).tasks = s.tasks := by
  unfold startBuffering
  split <;> rfl

@[simp] theorem inFlight_startBuffering : (s.startBuffering y).inFlight z = s.inFlight z := by
  rw [inFlight, tasks_startBuffering, inFlight]

@[simp] theorem subscribed_startBuffering : (s.startBuffering y).subscribed = s.subscribed := by
  unfold startBuffering
  split <;> rfl

@[simp] theorem subscribing_startBuffering :
    (s.startBuffering y).subscribing = s.subscribing := by
  unfold startBuffering
  split <;> rfl

@[simp] theorem publish_dispatching (snapshot : OrderBookSnapshot) :
    (s.publish y snapshot).dispatching = s.dispatching := by
  unfold publish
  split <;> rfl

@[simp] theorem startBuffering_dispatching :
    (s.startBuffering y).dispatching = s.dispatching := by
  unfold startBuffering
  split <;> rfl

@[simp] theorem maxResyncAttempts_setSync :
    (s.setSync y sync).maxResyncAttempts = s.maxResyncAttempts := rfl

end Observe

/-! ## What each step does -/

section Effects

variable {s : BinanceFuturesOrderBookStream} {y z : Symbol} {sync : OrderBookSynchronizer}
  {power : FloatPower} {i attempt : ℕ} {jitter : Jitter} {delta : OrderBookDeltaEvent}
  {outcome : FetchOutcome}

theorem dispatch_unknown (h : s.synchronizers.lookup delta.symbol = none) :
    s.dispatch delta = s := by
  simp only [dispatch, h]

/-- A dispatched event moves its own synchronizer, and starts a resync run exactly when this
synchronizer then asks for one. -/
theorem dispatch_effect (h : s.synchronizers.lookup delta.symbol = some sync) :
    (s.dispatch delta).subscribed = s.subscribed ∧
    (s.dispatch delta).subscribing = s.subscribing ∧
    (∀ z, (s.dispatch delta).status z =
      if z = delta.symbol then some (sync.onDelta delta).1.state else s.status z) ∧
    ∀ z, (s.dispatch delta).inFlight z = s.inFlight z +
      if z = delta.symbol ∧ (sync.onDelta delta).1.state = .resyncRequired then 1 else 0 := by
  simp only [dispatch, h]
  by_cases hr : (sync.onDelta delta).1.state = .resyncRequired
  · simp only [onDelta_resyncRequired hr, hr, and_true, if_true]
    refine ⟨rfl, rfl, fun z => ?_, fun z => ?_⟩
    · rw [status_createTask, status_setSync, hr]
    · rw [inFlight_createTask, inFlight_setSync]
  · simp only [hr, and_false, if_false, Nat.add_zero]
    rcases (sync.onDelta delta).2 with e | _ | snapshot
    · exact ⟨rfl, rfl, fun z => status_setSync, fun z => rfl⟩
    · exact ⟨rfl, rfl, fun z => status_setSync, fun z => rfl⟩
    · refine ⟨by simp [setSync], by simp [setSync], fun z => ?_, fun z => ?_⟩
      · rw [status_publish, status_setSync]
      · rw [inFlight_publish, inFlight_setSync]

variable (power s y i attempt jitter) in
theorem failAttempt_subscriptions :
    (s.failAttempt power i y attempt jitter).subscribed = s.subscribed ∧
      (s.failAttempt power i y attempt jitter).subscribing = s.subscribing := by
  unfold failAttempt
  split_ifs
  · split <;> exact ⟨rfl, rfl⟩
  · exact ⟨subscribed_startBuffering, subscribing_startBuffering⟩

@[simp] theorem failAttempt_dispatching :
    (s.failAttempt power i y attempt jitter).dispatching = s.dispatching := by
  unfold failAttempt
  split_ifs
  · split <;> rfl
  · exact startBuffering_dispatching

@[simp] theorem fetched_dispatching :
    (s.fetched power i y attempt jitter sync outcome).dispatching = s.dispatching := by
  cases outcome with
  | marketDataError => exact failAttempt_dispatching
  | snapshot snapshot =>
      unfold fetched
      dsimp only
      split
      · exact publish_dispatching _
      · exact failAttempt_dispatching
      · rfl

/-- Only a depth event ends the dispatch loop. -/
theorem step_dispatching {s' : BinanceFuturesOrderBookStream} {a : StreamAction}
    (hstep : s.step power a = some s') (ha : ∀ delta, a ≠ .depthEvent delta) :
    s'.dispatching = s.dispatching := by
  cases a with
  | depthEvent delta => exact absurd rfl (ha delta)
  | orderBook y => exact Option.some.inj hstep ▸ rfl
  | subscribed y =>
      simp only [step] at hstep
      split_ifs at hstep
      exact Option.some.inj hstep ▸ rfl
  | taskStart i =>
      simp only [step] at hstep
      split at hstep
      next y ht =>
        split_ifs at hstep <;> exact Option.some.inj hstep ▸ startBuffering_dispatching
      next => cases hstep
  | fetchDone i outcome jitter =>
      simp only [step] at hstep
      split at hstep
      next y attempt ht =>
        obtain ⟨sync, -, rfl⟩ := Option.map_eq_some_iff.mp hstep
        exact fetched_dispatching
      next => cases hstep
  | sleepDone i =>
      simp only [step] at hstep
      split at hstep
      next y attempt delay ht =>
        split_ifs at hstep
        exact Option.some.inj hstep ▸ startBuffering_dispatching
      next => cases hstep
  | sleepRaises i =>
      simp only [step] at hstep
      split at hstep
      next y attempt delay ht =>
        split_ifs at hstep
        exact Option.some.inj hstep ▸ rfl
      next => cases hstep

/-- The synchronizer of the event's symbol raises on it. -/
def DeltaRaises (s : BinanceFuturesOrderBookStream) (delta : OrderBookDeltaEvent) : Prop :=
  ∃ sync ∈ s.synchronizers.lookup delta.symbol, ∃ error, (sync.onDelta delta).2 = .error error

theorem dispatch_dispatching_iff : (s.dispatch delta).dispatching = true ↔
    s.dispatching = true ∧ ¬ s.DeltaRaises delta := by
  cases hl : s.synchronizers.lookup delta.symbol with
  | none => simp [dispatch_unknown hl, DeltaRaises, hl]
  | some sync =>
      unfold dispatch DeltaRaises
      simp only [hl, Option.mem_def, Option.some.injEq, exists_eq_left']
      cases (sync.onDelta delta).2 with
      | error e => simp
      | ok published =>
          cases published with
          | none => dsimp only; split_ifs <;> simp [createTask, setSync]
          | some snapshot => simp [setSync]

theorem giveUp_effect {phase : ResyncPhase} (h : s.tasks[i]? = some ⟨y, phase⟩) (z : Symbol) :
    ((s.startBuffering y).endTask i).status z =
        (if z = y then (s.status y).map fun _ => SyncState.buffering else s.status z) ∧
      ((s.startBuffering y).endTask i).inFlight z + (if z = y then 1 else 0) = s.inFlight z := by
  have h' : (s.startBuffering y).tasks[i]? = some ⟨y, phase⟩ := by rw [tasks_startBuffering, h]
  refine ⟨status_startBuffering, ?_⟩
  rw [← inFlight_eq h', inFlight_startBuffering]

/-- The delay after a failed attempt cannot be computed. -/
def BackoffRaises (power : FloatPower) (s : BinanceFuturesOrderBookStream) (attempt : ℕ)
    (jitter : Jitter) : Prop :=
  ∃ error, s.retryPolicy.delayForAttempt power attempt jitter = .error error

instance (power : FloatPower) (s : BinanceFuturesOrderBookStream) (attempt : ℕ)
    (jitter : Jitter) : Decidable (s.BackoffRaises power attempt jitter) :=
  match h : s.retryPolicy.delayForAttempt power attempt jitter with
  | .error e => .isTrue ⟨e, h⟩
  | .ok _ => .isFalse (by simp [BackoffRaises, h])

variable (power jitter) in
/-- A failed attempt backs off while attempts are left, or ends the run when the delay raises; the
last one ends the run with the synchronizer buffering. -/
theorem failAttempt_effect (h : s.tasks[i]? = some ⟨y, .fetching attempt⟩) (z : Symbol) :
    (attempt < s.maxResyncAttempts ∧ ¬ s.BackoffRaises power attempt jitter ∧
      (s.failAttempt power i y attempt jitter).status z = s.status z ∧
      (s.failAttempt power i y attempt jitter).inFlight z = s.inFlight z) ∨
    (attempt < s.maxResyncAttempts ∧ s.BackoffRaises power attempt jitter ∧
      (s.failAttempt power i y attempt jitter).status z = s.status z ∧
      (s.failAttempt power i y attempt jitter).inFlight z + (if z = y then 1 else 0) =
        s.inFlight z) ∨
    (s.maxResyncAttempts ≤ attempt ∧ (s.failAttempt power i y attempt jitter).status z =
        (if z = y then (s.status y).map fun _ => SyncState.buffering else s.status z) ∧
      (s.failAttempt power i y attempt jitter).inFlight z + (if z = y then 1 else 0) =
        s.inFlight z) := by
  by_cases ha : attempt < s.maxResyncAttempts
  · rw [failAttempt, if_pos ha]
    cases hdelay : s.retryPolicy.delayForAttempt power attempt jitter with
    | error e => exact .inr (.inl ⟨ha, ⟨e, hdelay⟩, rfl, (inFlight_eq h).symm⟩)
    | ok delay =>
        refine .inl ⟨ha, ?_, rfl, inFlight_setTask h _⟩
        rintro ⟨e, he⟩
        cases hdelay.symm.trans he
  · rw [failAttempt, if_neg ha]
    exact .inr (.inr ⟨by omega, giveUp_effect h z⟩)

theorem fetched_succeeds (h : s.tasks[i]? = some ⟨y, .fetching attempt⟩)
    (hf : ¬ outcome.Fails sync) :
    (s.fetched power i y attempt jitter sync outcome).subscribed = s.subscribed ∧
    (s.fetched power i y attempt jitter sync outcome).subscribing = s.subscribing ∧
    ∀ z, (s.fetched power i y attempt jitter sync outcome).status z =
        (if z = y then some .synced else s.status z) ∧
      (s.fetched power i y attempt jitter sync outcome).inFlight z + (if z = y then 1 else 0) =
        s.inFlight z := by
  cases outcome with
  | marketDataError => simp [FetchOutcome.Fails] at hf
  | snapshot snapshot =>
      rw [FetchOutcome.Fails, not_not] at hf
      rcases applySnapshot_spec sync snapshot with ⟨-, hst, hres⟩ | ⟨hn, -⟩
      · rcases (sync.applySnapshot snapshot).1.materialize_cases with ⟨published, hm⟩ | hm
        · simp only [fetched, hres, hm]
          refine ⟨by simp [endTask, setSync], by simp [endTask, setSync], fun z => ⟨?_, ?_⟩⟩
          · rw [status_endTask, status_publish, status_setSync, hst]
          · have htasks : ((s.setSync y (sync.applySnapshot snapshot).1).publish y
                published).tasks[i]? = some ⟨y, .fetching attempt⟩ := by
              rw [tasks_publish]; exact h
            rw [← inFlight_eq htasks, inFlight_publish, inFlight_setSync]
        · simp only [fetched, hres, hm]
          refine ⟨rfl, rfl, fun z => ⟨?_, ?_⟩⟩
          · rw [status_endTask, status_setSync, hst]
          · exact (inFlight_eq (s := s.setSync y _) h).symm
      · exact absurd hf hn

/-- What a failing fetch leaves as it was before the attempt is counted as failed. -/
structure KeptByFetch (s s₁ : BinanceFuturesOrderBookStream) (y : Symbol) : Prop where
  tasks : s₁.tasks = s.tasks
  maxResyncAttempts : s₁.maxResyncAttempts = s.maxResyncAttempts
  retryPolicy : s₁.retryPolicy = s.retryPolicy
  subscribed : s₁.subscribed = s.subscribed
  subscribing : s₁.subscribing = s.subscribing
  others : ∀ z, z ≠ y → s₁.status z = s.status z

variable (power i attempt jitter) in
/-- A failing fetch is a failed attempt; it may have taken the synchronizer out of the
synchronized state, never into it. -/
theorem fetched_fails (hl : s.synchronizers.lookup y = some sync) (hf : outcome.Fails sync) :
    (outcome.stateAfter sync = .synced → s.status y = some .synced) ∧
    ∃ s₁ : BinanceFuturesOrderBookStream,
      s.fetched power i y attempt jitter sync outcome = s₁.failAttempt power i y attempt jitter ∧
      KeptByFetch s s₁ y ∧ s₁.status y = some (outcome.stateAfter sync) := by
  cases outcome with
  | marketDataError =>
      refine ⟨fun h => by rw [status_of_lookup hl, ← h]; rfl, s, rfl,
        ⟨rfl, rfl, rfl, rfl, rfl, fun _ _ => rfl⟩, status_of_lookup hl⟩
  | snapshot snapshot =>
      rcases applySnapshot_spec sync snapshot with ⟨hs, -⟩ | ⟨-, hst, e, hres⟩
      · exact absurd hs hf
      · refine ⟨fun h => absurd h hst, s.setSync y (sync.applySnapshot snapshot).1, ?_,
          ⟨rfl, rfl, rfl, rfl, rfl, fun z hz => ?_⟩, ?_⟩
        · simp only [fetched, hres]
        · rw [status_setSync, if_neg hz]
        · rw [status_setSync, if_pos rfl]
          rfl

end Effects

end BinanceFuturesOrderBookStream

end TradingAdvisor
