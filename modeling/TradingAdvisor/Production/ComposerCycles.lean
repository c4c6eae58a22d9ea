import TradingAdvisor.Lib.Brackets
import TradingAdvisor.Lib.Transition
import TradingAdvisor.Orchestration.CycleReport

/-!
# The composer and its connection

A process has one composer with one connection to the terminal. Its cycles take turns under a lock;
each of them opens the connection, lets a thread read candles through it, reads the account through
it and closes it. The calls of the composer's methods interleave at their awaits, and the thread's
reads anywhere; a cycle can be cancelled at an await, which closes the connection and leaves the
thread running.

* `MT5Client`, `ComposerLifecycle`, `ComposerCycles` — the connection, the starts and stops, the
  cycles;
* `ProductionAdvisoryComposer.step` — one call begins or goes on.
-/

namespace TradingAdvisor

open Transition Brackets

/-! ## The connection -/

/-- The client of the terminal: whether it has the terminal's module, and is initialized. -/
structure MT5Client where
  credentialsSupplied : Bool
  loaded : Bool := false
  initialized : Bool := false

/-- What an initialization meets. -/
inductive InitializeAnswer
  | importFails
  | raises
  | refused
  | statusRaises
  | connected (terminal account : Bool)

namespace MT5Client

/-- The state of an initialized connection. -/
def currentStatus (terminal account : Bool) : MT5ConnectivityState :=
  if !terminal then .terminalUnavailable
  else if !account then .accountUnavailable
  else .available

/-- Initialize the connection; nothing is returned when this raises. -/
def initializeConnection (client : MT5Client) :
    InitializeAnswer → MT5Client × Option MT5ConnectivityState
  | .importFails => (client, none)
  | .raises => ({ client with loaded := true }, none)
  | .refused =>
      ({ client with loaded := true, initialized := false },
        some (if client.credentialsSupplied then .loginFailed else .initializationFailed))
  | .statusRaises => ({ client with loaded := true, initialized := true }, none)
  | .connected terminal account =>
      ({ client with loaded := true, initialized := true }, some (currentStatus terminal account))

/-- Shut the connection down; the terminal module's own `shutdown` is taken not to raise. -/
def shutdown (client : MT5Client) : MT5Client := { client with initialized := false }

/-- A read is made; otherwise it raises `MT5NotInitializedError`. -/
def Readable (client : MT5Client) : Prop := client.initialized = true ∧ client.loaded = true

instance (client : MT5Client) : Decidable client.Readable := inferInstanceAs (Decidable (_ ∧ _))

theorem readable_of_available {client : MT5Client} {answer : InitializeAnswer}
    (h : (client.initializeConnection answer).2 = some .available) :
    (client.initializeConnection answer).1.Readable := by
  cases answer with
  | importFails => cases h
  | raises => cases h
  | statusRaises => cases h
  | refused =>
      have hstate := Option.some.inj h
      split_ifs at hstate
  | connected terminal account => exact ⟨rfl, rfl⟩

end MT5Client

/-! ## Starts and stops -/

/-- The state of a composer. -/
inductive LifecycleState
  | new
  | started
  | stopped
  deriving DecidableEq, Repr

/-- Where a call of `startup` or `shutdown` is: at the checkpoint of the bootstrap's start, in the
teardown after a failed start, in the teardown of a stop, or ended; `stopRaised` is a `shutdown`
that raised. None of them is cancelled. -/
inductive LifecycleCall
  | starting
  | failing
  | stopping
  | returned (raised : Bool)
  | stopRaised
  deriving DecidableEq, Repr

/-- The lifecycle of the composer and of its realtime bootstrap, and how often it closed the client
that they share. -/
structure ComposerLifecycle where
  ownsRestClient : Bool
  state : LifecycleState := .new
  flowStarted : Bool := false
  closes : ℕ := 0
  calls : List LifecycleCall := []

namespace ComposerLifecycle

/-- `startup`, up to its first await. -/
def startup (s : ComposerLifecycle) : ComposerLifecycle :=
  match s.state with
  | .started => { s with calls := s.calls ++ [.returned false] }
  | .stopped => { s with calls := s.calls ++ [.returned true] }
  | .new =>
      -- A bootstrap that is started already returns at once, at its checkpoint or not.
      if s.flowStarted then { s with state := .started, calls := s.calls ++ [.returned false] }
      else { s with flowStarted := true, calls := s.calls ++ [.starting] }

/-- The end of `shutdown`. -/
def stop (s : ComposerLifecycle) : ComposerLifecycle :=
  { s with closes := s.closes + if s.ownsRestClient then 1 else 0, state := .stopped }

/-- `shutdown`, up to its first await. -/
def shutdown (s : ComposerLifecycle) : ComposerLifecycle :=
  match s.state with
  | .stopped => { s with calls := s.calls ++ [.returned false] }
  | .new | .started =>
      if s.flowStarted then { s with flowStarted := false, calls := s.calls ++ [.stopping] }
      else { s.stop with calls := s.calls ++ [.returned false] }

/-- A call goes on after its await; `failed` says whether a task of the bootstrap has failed. A stop
awaits the dispatch loops, and ends with the exception of one that is dead. -/
def resume (s : ComposerLifecycle) (k : ℕ) (failed : Bool) : Option ComposerLifecycle :=
  match s.calls[k]? with
  | some .starting =>
      if failed then
        if s.flowStarted then
          some { s with flowStarted := false, calls := s.calls.set k .failing }
        else some { s with calls := s.calls.set k (.returned true) }
      else some { s with state := .started, calls := s.calls.set k (.returned false) }
  | some .failing => some { s with calls := s.calls.set k (.returned true) }
  | some .stopping =>
      if failed then some { s with calls := s.calls.set k .stopRaised }
      else some { s.stop with calls := s.calls.set k (.returned false) }
  | some (.returned _) | some .stopRaised | none => none

end ComposerLifecycle

/-! ## Cycles -/

/-- How the candles were fetched. -/
inductive FetchResult
  | fetched
  | mt5NotInitialized
  | raised
  deriving DecidableEq, Repr

/-- How a call of `run_cycle` ended. -/
inductive CycleCallResult
  | lifecycleError
  | duplicateCycle
  | mt5NotInitialized
  | raised
  | cancelled
  | completed
  deriving DecidableEq, Repr

/-- Where a call of `run_cycle` is: it waits for the lock, or for the thread that fetches the
candles, or it has ended. -/
inductive CycleCall
  | waiting
  | fetching (status : MT5ConnectivityState) (result : Option FetchResult)
  | finished (result : CycleCallResult)
  deriving DecidableEq, Repr

/-- What a cycle meets before its first await: trade ids that exist, an error of the flow contour,
the answer of the terminal. -/
structure CycleStart where
  duplicate : Bool
  flowRaises : Bool
  answer : InitializeAnswer

/-- The cycles of a composer: who holds the lock, the connection, the calls, those whose thread is
still running, and what was done with the connection. -/
structure ComposerCycles where
  client : MT5Client
  lock : Option ℕ := none
  calls : List CycleCall := []
  workers : List ℕ := []
  connection : List (Brackets.Event ℕ) := []

namespace ComposerCycles

/-- The calls that were cancelled. -/
def cancelled (s : ComposerCycles) : Set ℕ := {i | s.calls[i]? = some (.finished .cancelled)}

instance (s : ComposerCycles) : DecidablePred (· ∈ s.cancelled) :=
  fun i => inferInstanceAs (Decidable (s.calls[i]? = some (.finished .cancelled)))

/-- A call moves on. -/
def setCall (s : ComposerCycles) (i : ℕ) (call : CycleCall) : ComposerCycles :=
  { s with calls := s.calls.set i call }

/-- A call comes in. -/
def addCall (s : ComposerCycles) (call : CycleCall) : ComposerCycles :=
  { s with calls := s.calls ++ [call] }

/-- A call that has got the lock, up to its await of the thread. -/
def beginCycle (s : ComposerCycles) (i : ℕ) (meets : CycleStart) : ComposerCycles :=
  if meets.duplicate then s.setCall i (.finished .duplicateCycle)
  else if meets.flowRaises then s.setCall i (.finished .raised)
  else
    let answer := s.client.initializeConnection meets.answer
    match answer.2 with
    | none =>
        { s.setCall i (.finished .raised) with
          client := answer.1.shutdown
          connection := s.connection ++ [.opened i] ++ [.closed i] }
    | some status =>
        { s.setCall i (.fetching status none) with
          client := answer.1
          lock := some i
          workers := i :: s.workers
          connection := s.connection ++ [.opened i] }

/-- A call of `run_cycle` with a trade id for every family, up to its first await: at the lock, or
behind it. -/
def runCycle (s : ComposerCycles) (started : Bool) (meets : CycleStart) : ComposerCycles :=
  if !started then s.addCall (.finished .lifecycleError)
  else if s.lock = none ∧ CycleCall.waiting ∉ s.calls then
    (s.addCall .waiting).beginCycle s.calls.length meets
  else s.addCall .waiting

/-- The first call that waits gets the free lock. -/
def acquire (s : ComposerCycles) (meets : CycleStart) : Option ComposerCycles :=
  if s.lock = none ∧ CycleCall.waiting ∈ s.calls then
    some (s.beginCycle (s.calls.findIdx (· = CycleCall.waiting)) meets)
  else none

/-- The thread of a call ends with a result, which the call gets unless it was cancelled. -/
def endFetch (s : ComposerCycles) (i : ℕ) (result : FetchResult) : ComposerCycles :=
  let ended := { s with workers := s.workers.filter (· ≠ i) }
  match s.calls[i]? with
  | some (.fetching status none) => ended.setCall i (.fetching status (some result))
  | _ => ended

/-- The thread of a call reads candles once. -/
def fetchRead (s : ComposerCycles) (i : ℕ) : Option ComposerCycles :=
  if i ∈ s.workers then
    if s.client.Readable then some { s with connection := s.connection ++ [.used i] }
    else some (s.endFetch i .mt5NotInitialized)
  else none

/-- The thread of a call returns, or raises some other error. -/
def fetchEnd (s : ComposerCycles) (i : ℕ) (raises : Bool) : Option ComposerCycles :=
  if i ∈ s.workers then some (s.endFetch i (if raises then .raised else .fetched)) else none

/-- The end of a cycle after some reads: the connection is shut down, and the lock is released. -/
def leave (s : ComposerCycles) (i : ℕ) (reads : ℕ) (result : CycleCallResult) : ComposerCycles :=
  { s.setCall i (.finished result) with
    client := s.client.shutdown
    lock := none
    connection := s.connection ++ List.replicate reads (.used i) ++ [.closed i] }

/-- A call goes on after its fetch. The account is read only through an available connection. -/
def finish (s : ComposerCycles) (i reads : ℕ) (raises : Bool) : Option ComposerCycles :=
  match s.calls[i]? with
  | some (.fetching status (some result)) =>
      if result = .raised then some (s.leave i 0 .raised)
      else if status = .available then
        if 0 < reads ∧ ¬ s.client.Readable then some (s.leave i 0 .mt5NotInitialized)
        else some (s.leave i reads (if raises then .raised else .completed))
      else some (s.leave i 0 (if raises then .raised else .completed))
  | _ => none

/-- A call is cancelled at its await. -/
def cancel (s : ComposerCycles) (i : ℕ) : Option ComposerCycles :=
  match s.calls[i]? with
  | some .waiting => some (s.setCall i (.finished .cancelled))
  | some (.fetching _ _) => some (s.leave i 0 .cancelled)
  | _ => none

end ComposerCycles

/-- A composer. -/
structure ProductionAdvisoryComposer where
  lifecycle : ComposerLifecycle
  cycles : ComposerCycles

/-- What happens next. -/
inductive ComposerAction
  | startup
  | shutdown
  | resume (k : ℕ) (failed : Bool)
  | runCycle (meets : CycleStart)
  | acquire (meets : CycleStart)
  | fetchRead (i : ℕ)
  | fetchEnd (i : ℕ) (raises : Bool)
  | finish (i reads : ℕ) (raises : Bool)
  | cancel (i : ℕ)

namespace ProductionAdvisoryComposer

/-- A composer that was constructed. -/
def new (ownsRestClient credentialsSupplied : Bool) : ProductionAdvisoryComposer :=
  ⟨{ ownsRestClient }, { client := { credentialsSupplied } }⟩

/-- One call begins or goes on. -/
def step (s : ProductionAdvisoryComposer) : ComposerAction → Option ProductionAdvisoryComposer
  | .startup => some { s with lifecycle := s.lifecycle.startup }
  | .shutdown => some { s with lifecycle := s.lifecycle.shutdown }
  | .resume k failed =>
      (s.lifecycle.resume k failed).map fun lifecycle => { s with lifecycle }
  | .runCycle meets =>
      some { s with cycles := s.cycles.runCycle (s.lifecycle.state = .started) meets }
  | .acquire meets => (s.cycles.acquire meets).map fun cycles => { s with cycles }
  | .fetchRead i => (s.cycles.fetchRead i).map fun cycles => { s with cycles }
  | .fetchEnd i raises => (s.cycles.fetchEnd i raises).map fun cycles => { s with cycles }
  | .finish i reads raises => (s.cycles.finish i reads raises).map fun cycles => { s with cycles }
  | .cancel i => (s.cycles.cancel i).map fun cycles => { s with cycles }

end ProductionAdvisoryComposer

end TradingAdvisor
