import TradingAdvisor.Core.JsonFields
import TradingAdvisor.MarketData.DepthStream
import TradingAdvisor.MarketData.Reconnect

/-!
# WebSocket transport

One logical connection is kept alive: connect, subscribe again, read frames until the connection
ends, and start over. The loop waits at `connect`, `send`, the next frame, `close` and its backoff
sleep; a step is what happens between two of them, and `stop`, `subscribe` and the consumer come
in between.

* `WebSocketTransport.step` — the loop and its environment;
* `TransportEvent`, `history` — the connect calls, failures, frames and sleeps, the latest first.
-/

namespace TradingAdvisor

open Binary64 JsonText

/-- Lifecycle of a stream connection. -/
inductive StreamStatus
  | connecting
  | connected
  | reconnecting
  | disconnected
  deriving DecidableEq, Repr

/-- One decoded but unmapped event. -/
structure RawStreamMessage where
  /-- The stream name, which need not be a string. -/
  stream : Json
  payload : Json
  receivedAt : Timestamp

/-- Unwrap the combined-stream envelope; no stream means that there is nothing to route. -/
def defaultUnwrap (payload : Json) : Option Json × Json :=
  match payload with
  | .obj members =>
      match field "stream" members, field "data" members with
      | some .null, some data => (none, data)
      | some stream, some data => (some stream, data)
      | _, _ => (none, payload)
  | _ => (none, payload)

/-! ## The environment -/

/-- How an awaited call ends; only declared connection errors are the death of a connection. -/
inductive Awaited
  | done
  | connectionError (error : String)
  | otherError
  deriving DecidableEq

/-- What decoding a frame gives: a value, a `JSONDecodeError`, or another exception. -/
inductive Frame
  | decoded (payload : Json)
  | malformed
  | raising

/-- What happens while the loop waits. -/
inductive TransportAction
  /-- `connect` returns or raises; the draw is the jitter of a failure. -/
  | connect (result : Awaited) (jitter : Jitter)
  | send (result : Awaited)
  | frame (frame : Frame) (now : Timestamp)
  /-- The connection is exhausted, or reading it raises. -/
  | readEnd (result : Awaited)
  | close (result : Awaited)
  /-- The backoff sleep ends. -/
  | wake
  | stop
  | subscribe (streamNames : List String)
  | unsubscribe (streamNames : List String)
  /-- The consumer takes a message. -/
  | take

/-! ## The transport -/

/-- What ends the task other than `stop`. -/
inductive TransportError
  | undeclared
  | assertion
  | backoff (error : BackoffError)
  deriving DecidableEq

/-- Where the loop waits. -/
inductive TransportPhase
  | connecting
  | subscribing
  | reading (receivedAny : Bool)
  /-- `close` is awaited; afterwards the loop goes on or an exception goes on. -/
  | closing (receivedAny : Bool) (pending : Option TransportError)
  | sleeping (delay : Double)
  | returned
  | raised (error : TransportError)
  deriving DecidableEq

/-- What the loop has done. -/
inductive TransportEvent
  | connectCalled
  | connectFailed
  | frameReceived
  | slept (delay : Double)
  deriving DecidableEq

/-- Keeps one logical, multiplexed connection alive. -/
structure WebSocketTransport where
  policy : ReconnectPolicy
  queueMaxsize : ℤ
  phase : TransportPhase
  attempt : ℕ
  /-- The stop event is set. -/
  stopped : Bool
  /-- There is a connection to close. -/
  connected : Bool
  status : StreamStatus
  desiredStreams : List String
  nextRequestId : ℕ
  queue : List RawStreamMessage
  reconnectCount : ℕ
  droppedMessageCount : ℕ
  parseErrorCount : ℕ
  lastMessageAt : Option Timestamp
  lastError : Option String
  /-- The latest event first. -/
  history : List TransportEvent

namespace WebSocketTransport

/-! ## The parts of a step -/

/-- The head of the loop: return when stopped, else call `connect`. -/
def loopHead (t : WebSocketTransport) : WebSocketTransport :=
  if t.stopped then { t with phase := .returned, status := .disconnected }
  else
    { t with
      phase := .connecting
      attempt := t.attempt + 1
      status := if t.attempt = 0 then .connecting else .reconnecting
      history := .connectCalled :: t.history }

/-- `run` is called. -/
def init (policy : ReconnectPolicy) (queueMaxsize : ℤ) (desiredStreams : List String) :
    WebSocketTransport :=
  loopHead {
    policy
    queueMaxsize
    phase := .connecting
    attempt := 0
    stopped := false
    connected := false
    status := .disconnected
    desiredStreams
    nextRequestId := 1
    queue := []
    reconnectCount := 0
    droppedMessageCount := 0
    parseErrorCount := 0
    lastMessageAt := none
    lastError := none
    history := [] }

/-- The connection has been closed: raise what is pending, or go on. -/
def afterClose (t : WebSocketTransport) (receivedAny : Bool) :
    Option TransportError → WebSocketTransport
  | some error => { t with phase := .raised error }
  | none => loopHead { t with attempt := if receivedAny then 0 else t.attempt }

/-- The `finally` block: close the connection unless `stop` has taken it. -/
def finish (t : WebSocketTransport) (receivedAny : Bool) (pending : Option TransportError) :
    WebSocketTransport :=
  if t.connected then { t with connected := false, phase := .closing receivedAny pending }
  else t.afterClose receivedAny pending

/-- A declared error is recorded. -/
def recordFailure (t : WebSocketTransport) (error : String) : WebSocketTransport :=
  { t with lastError := some error }

/-- How the reading of a connection ends in the `finally` block. -/
def finishRead (t : WebSocketTransport) (receivedAny : Bool) : Awaited → WebSocketTransport
  | .done => t.finish receivedAny none
  -- the return value of the read loop is lost with the exception
  | .connectionError error => (t.recordFailure error).finish false none
  | .otherError => t.finish false (some .undeclared)

/-- `connect` has failed with a declared error: back off. -/
def backOff (power : FloatPower) (t : WebSocketTransport) (error : String) (jitter : Jitter) :
    WebSocketTransport :=
  let t := { t.recordFailure error with history := .connectFailed :: t.history }
  match t.policy.delayForAttempt power t.attempt jitter with
  | .error error => { t with phase := .raised (.backoff error) }
  | .ok delay => { t with phase := .sleeping delay, history := .slept delay :: t.history }

/-- `connect` has returned: subscribe again, if there is anything to subscribe. -/
def opened (t : WebSocketTransport) : WebSocketTransport :=
  { t with
    connected := true
    status := .connected
    reconnectCount := if 1 < t.attempt then t.reconnectCount + 1 else t.reconnectCount
    phase := if t.desiredStreams = [] then .reading false else .subscribing
    nextRequestId := if t.desiredStreams = [] then t.nextRequestId else t.nextRequestId + 1 }

/-- Queue a message; a full queue drops its oldest one. -/
def enqueue (t : WebSocketTransport) (message : RawStreamMessage) : WebSocketTransport :=
  { t with
    queue := dropOldestPut t.queueMaxsize t.queue message
    droppedMessageCount :=
      if t.queueMaxsize ≤ 0 ∨ t.queue.length < t.queueMaxsize then t.droppedMessageCount
      else t.droppedMessageCount + 1 }

/-- One frame of the read loop. -/
def onFrame (t : WebSocketTransport) (receivedAny : Bool) (now : Timestamp) (frame : Frame) :
    WebSocketTransport :=
  let t := { t with history := .frameReceived :: t.history }
  match frame with
  | .malformed =>
      { t with parseErrorCount := t.parseErrorCount + 1, phase := .reading receivedAny }
  | .raising => t.finish false (some .undeclared)
  | .decoded payload =>
      match defaultUnwrap payload with
      | (none, _) => { t with phase := .reading true }
      | (some stream, data) =>
          enqueue { t with phase := .reading true, lastMessageAt := some now } ⟨stream, data, now⟩

/-- One step; `none` when the loop does not wait for the action. -/
def step (power : FloatPower) (t : WebSocketTransport) : TransportAction → Option WebSocketTransport
  | .connect result jitter =>
      if t.phase = .connecting then
        match result with
        | .done => some t.opened
        | .connectionError error => some (t.backOff power error jitter)
        | .otherError => some { t with phase := .raised .undeclared }
      else none
  | .send result =>
      if t.phase = .subscribing then
        match result with
        -- the read loop asserts that `stop` has not taken the connection
        | .done =>
            if t.connected then some { t with phase := .reading false }
            else some (t.finish false (some .assertion))
        | result => some (t.finishRead false result)
      else none
  | .frame frame now =>
      match t.phase with
      | .reading receivedAny => some (t.onFrame receivedAny now frame)
      | _ => none
  | .readEnd result =>
      match t.phase with
      | .reading receivedAny => some (t.finishRead receivedAny result)
      | _ => none
  | .close result =>
      match t.phase with
      | .closing receivedAny pending =>
          match result with
          | .otherError => some { t with phase := .raised .undeclared }
          | _ => some (t.afterClose receivedAny pending)
      | _ => none
  | .wake =>
      match t.phase with
      -- a timer that is infinitely far away does not fire
      | .sleeping delay => if t.stopped ∨ delay ≠ .posInf then some t.loopHead else none
      | _ => none
  | .stop => some { t with stopped := true, connected := false }
  | .subscribe streamNames =>
      let new := streamNames.filter fun name => name ∉ t.desiredStreams
      some { t with
        desiredStreams := t.desiredStreams ++ new.dedup
        nextRequestId := if new ≠ [] ∧ t.connected then t.nextRequestId + 1 else t.nextRequestId }
  | .unsubscribe streamNames =>
      let existing := streamNames.filter fun name => name ∈ t.desiredStreams
      some { t with
        desiredStreams := t.desiredStreams.filter fun name => name ∉ streamNames
        nextRequestId :=
          if existing ≠ [] ∧ t.connected then t.nextRequestId + 1 else t.nextRequestId }
  | .take =>
      match t.queue with
      | [] => none
      | _ :: rest => some { t with queue := rest }

end WebSocketTransport

end TradingAdvisor
