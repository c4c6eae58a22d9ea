import Mathlib.Data.Finset.Dedup
import Mathlib.Data.Finset.SDiff
import Mathlib.Data.Finset.Lattice.Basic
import TradingAdvisor.MarketData.TransportRuns

/-!
# Subscriptions of the transport

The transport tells each connection the streams that are desired when it opens, and every change
afterwards, by control messages. The caller of `subscribe` or `unsubscribe` waits for its message
to be sent while everything else goes on.

* `controlMessage` — the control message of a step, handed to the connection within the step;
* `SubscribedTransport.step` — the transport with the sends on its latest connection;
* `Replays`, `Replays.step` — replaying the messages of an open connection gives the desired
  streams;
* `subscriptions_replay` — **in every state of a run, as far as all messages were sent**.
-/

namespace TradingAdvisor

open Transition

/-- What a control message asks for. -/
inductive ControlMethod
  | subscribe
  | unsubscribe
  deriving DecidableEq

/-- A control message; the injected builder makes its text. -/
structure ControlMessage where
  method : ControlMethod
  streamNames : List String
  requestId : ℕ
  deriving DecidableEq

/-- A call of the connection's `send`; it has no result while it is awaited. -/
structure ControlSend where
  message : ControlMessage
  /-- The loop awaits it, not a caller of `subscribe` or `unsubscribe`. -/
  byLoop : Bool
  result : Option Awaited := none
  deriving DecidableEq

/-- The control message of a step. -/
def WebSocketTransport.controlMessage (t : WebSocketTransport) :
    TransportAction → Option ControlMessage
  | .connect .done _ =>
      if t.desiredStreams = [] then none
      else some ⟨.subscribe, t.desiredStreams.dedup.insertionSort (· ≤ ·), t.nextRequestId⟩
  | .subscribe streamNames =>
      let new := streamNames.filter fun name => name ∉ t.desiredStreams
      if new ≠ [] ∧ t.connected then some ⟨.subscribe, new, t.nextRequestId⟩ else none
  | .unsubscribe streamNames =>
      let existing := streamNames.filter fun name => name ∈ t.desiredStreams
      if existing ≠ [] ∧ t.connected then some ⟨.unsubscribe, existing, t.nextRequestId⟩ else none
  | _ => none

/-- The transport with the sends on its latest connection, oldest first. -/
structure SubscribedTransport where
  transport : WebSocketTransport
  sends : List ControlSend := []

/-- What happens while the loop and the callers wait. -/
inductive SubscriptionAction
  | transport (action : TransportAction)
  /-- The send of a `subscribe` or `unsubscribe` call ends. On an earlier connection that only
  concerns the caller. -/
  | controlEnd (index : ℕ) (result : Awaited)

namespace SubscribedTransport

/-- `run` is called. -/
def init (policy : ReconnectPolicy) (queueMaxsize : ℤ) (desiredStreams : List String) :
    SubscribedTransport where
  transport := .init policy queueMaxsize desiredStreams

/-- The sends after a step of the transport. -/
def sendsAfter (s : SubscribedTransport) (action : TransportAction) : List ControlSend :=
  let message := (s.transport.controlMessage action).toList
  match action with
  | .connect .done _ => message.map fun message => { message, byLoop := true }
  | .send result => s.sends.map fun send =>
      if send.byLoop then { send with result := some result } else send
  | _ => s.sends ++ message.map fun message => { message, byLoop := false }

/-- One step; `none` when nothing waits for the action. -/
def step (power : FloatPower) (s : SubscribedTransport) :
    SubscriptionAction → Option SubscribedTransport
  | .transport action => (s.transport.step power action).map fun transport =>
      { transport, sends := s.sendsAfter action }
  | .controlEnd index result =>
      match s.sends[index]? with
      | some send =>
          if send.byLoop = false ∧ send.result = none then
            some { s with sends := s.sends.set index { send with result := some result } }
          else none
      | none => none

/-- The messages that have been sent on the latest connection, in their order. -/
def sent (s : SubscribedTransport) : List ControlMessage :=
  (s.sends.filter fun send => send.result = some .done).map ControlSend.message

end SubscribedTransport

/-! ## Replaying control messages -/

/-- The streams after one control message. -/
def ControlMessage.apply (message : ControlMessage) (streams : Finset String) : Finset String :=
  match message.method with
  | .subscribe => streams ∪ message.streamNames.toFinset
  | .unsubscribe => streams \ message.streamNames.toFinset

/-- The streams after some control messages, none before. -/
def replay (messages : List ControlMessage) : Finset String :=
  messages.foldl (fun streams message => message.apply streams) ∅

@[simp] theorem replay_nil : replay [] = ∅ := rfl

theorem replay_append (messages later : List ControlMessage) :
    replay (messages ++ later) =
      later.foldl (fun streams message => message.apply streams) (replay messages) :=
  List.foldl_append

/-! ## Steps that do not concern the subscriptions -/

namespace WebSocketTransport

variable {power : FloatPower} {t t' : WebSocketTransport}

/-- The desired streams stay, and no connection is opened. -/
structure Undisturbed (t t' : WebSocketTransport) : Prop where
  desired : t'.desiredStreams = t.desiredStreams
  connected : t'.connected = true → t.connected = true

theorem undisturbed_loopHead (t : WebSocketTransport) : t.Undisturbed t.loopHead := by
  unfold loopHead
  split_ifs <;> exact ⟨rfl, id⟩

theorem undisturbed_afterClose (t : WebSocketTransport) (receivedAny : Bool)
    (pending : Option TransportError) : t.Undisturbed (t.afterClose receivedAny pending) := by
  cases pending with
  | some error => exact ⟨rfl, id⟩
  | none =>
      obtain ⟨hdesired, hconnected⟩ :=
        undisturbed_loopHead { t with attempt := if receivedAny then 0 else t.attempt }
      exact ⟨hdesired, hconnected⟩

theorem undisturbed_finish (t : WebSocketTransport) (receivedAny : Bool)
    (pending : Option TransportError) : t.Undisturbed (t.finish receivedAny pending) := by
  unfold finish
  split_ifs with hconnected
  · exact ⟨rfl, fun _ => hconnected⟩
  · exact undisturbed_afterClose t receivedAny pending

theorem undisturbed_finishRead (t : WebSocketTransport) (receivedAny : Bool) (result : Awaited) :
    t.Undisturbed (t.finishRead receivedAny result) := by
  cases result with
  | done => exact undisturbed_finish t receivedAny none
  | otherError => exact undisturbed_finish t false _
  | connectionError error =>
      obtain ⟨hdesired, hconnected⟩ := undisturbed_finish (t.recordFailure error) false none
      exact ⟨hdesired, hconnected⟩

theorem undisturbed_backOff (power : FloatPower) (t : WebSocketTransport) (error : String)
    (jitter : Jitter) : t.Undisturbed (t.backOff power error jitter) := by
  unfold backOff
  dsimp only [recordFailure]
  cases t.policy.delayForAttempt power t.attempt jitter <;> exact ⟨rfl, id⟩

theorem undisturbed_onFrame (t : WebSocketTransport) (receivedAny : Bool) (now : Timestamp)
    (frame : Frame) : t.Undisturbed (t.onFrame receivedAny now frame) := by
  cases frame with
  | malformed => exact ⟨rfl, id⟩
  | raising =>
      obtain ⟨hdesired, hconnected⟩ := undisturbed_finish
        { t with history := .frameReceived :: t.history } false (some .undeclared)
      exact ⟨hdesired, hconnected⟩
  | decoded payload =>
      unfold onFrame
      dsimp only
      rcases defaultUnwrap payload with ⟨_ | stream, data⟩ <;> exact ⟨rfl, id⟩

/-- What a step does to the desired streams and the connection. -/
inductive SubscriptionProgress (t : WebSocketTransport) :
    TransportAction → WebSocketTransport → Prop
  | opens (jitter : Jitter) : SubscriptionProgress t (.connect .done jitter) t.opened
  | adds {t' : WebSocketTransport} (streamNames : List String)
      (hdesired : t'.desiredStreams =
        t.desiredStreams ++ (streamNames.filter fun name => name ∉ t.desiredStreams).dedup)
      (hconnected : t'.connected = t.connected) :
      SubscriptionProgress t (.subscribe streamNames) t'
  | removes {t' : WebSocketTransport} (streamNames : List String)
      (hdesired : t'.desiredStreams = t.desiredStreams.filter fun name => name ∉ streamNames)
      (hconnected : t'.connected = t.connected) :
      SubscriptionProgress t (.unsubscribe streamNames) t'
  | passes {a : TransportAction} {t' : WebSocketTransport} (h : t.Undisturbed t')
      (hmessage : t.controlMessage a = none) (hconnect : ∀ jitter, a ≠ .connect .done jitter) :
      SubscriptionProgress t a t'

theorem SubscriptionProgress.of_undisturbed {a : TransportAction} (h : t.Undisturbed t')
    (hmessage : t.controlMessage a = none) (hconnect : ∀ jitter, a ≠ .connect .done jitter)
    {t'' : WebSocketTransport} (heq : t' = t'') : t.SubscriptionProgress a t'' :=
  heq ▸ .passes h hmessage hconnect

/-- **Every step is one of the kinds of progress.** -/
theorem step_subscriptionProgress {a : TransportAction} (h : t.step power a = some t') :
    t.SubscriptionProgress a t' := by
  cases a with
  | connect result jitter =>
      simp only [step] at h
      split_ifs at h
      cases result with
      | done =>
          cases h
          exact .opens jitter
      | connectionError error =>
          cases h
          exact .passes (undisturbed_backOff power t error jitter) rfl (by simp)
      | otherError =>
          cases h
          exact .passes ⟨rfl, id⟩ rfl (by simp)
  | send result =>
      by_cases hphase : t.phase = .subscribing
      · simp only [step, if_pos hphase] at h
        cases result with
        | done =>
            by_cases hconnected : t.connected = true
            · rw [if_pos hconnected] at h
              cases h
              exact .passes ⟨rfl, id⟩ rfl (by simp)
            · rw [if_neg hconnected] at h
              cases h
              exact .passes (undisturbed_finish t false _) rfl (by simp)
        | connectionError error =>
            cases h
            exact .passes (undisturbed_finishRead t false _) rfl (by simp)
        | otherError =>
            cases h
            exact .passes (undisturbed_finishRead t false _) rfl (by simp)
      · simp only [step, if_neg hphase] at h
        cases h
  | frame frame now =>
      cases hphase : t.phase with
      | reading receivedAny =>
          simp only [step, hphase, Option.some.injEq] at h
          exact .of_undisturbed (undisturbed_onFrame t receivedAny now frame) rfl (by simp) h
      | _ => simp [step, hphase] at h
  | readEnd result =>
      cases hphase : t.phase with
      | reading receivedAny =>
          simp only [step, hphase, Option.some.injEq] at h
          exact .of_undisturbed (undisturbed_finishRead t receivedAny result) rfl (by simp) h
      | _ => simp [step, hphase] at h
  | close result =>
      cases hphase : t.phase with
      | closing receivedAny pending =>
          simp only [step, hphase] at h
          cases result with
          | otherError =>
              cases h
              exact .passes ⟨rfl, id⟩ rfl (by simp)
          | done =>
              exact .of_undisturbed (undisturbed_afterClose t receivedAny pending) rfl (by simp)
                (Option.some.inj h)
          | connectionError error =>
              exact .of_undisturbed (undisturbed_afterClose t receivedAny pending) rfl (by simp)
                (Option.some.inj h)
      | _ => simp [step, hphase] at h
  | wake =>
      cases hphase : t.phase with
      | sleeping delay =>
          simp only [step, hphase] at h
          split_ifs at h
          exact .of_undisturbed (undisturbed_loopHead t) rfl (by simp) (Option.some.inj h)
      | _ => simp [step, hphase] at h
  | stop =>
      cases h
      exact .passes ⟨rfl, fun h => absurd h Bool.false_ne_true⟩ rfl (by simp)
  | subscribe streamNames =>
      cases h
      exact .adds streamNames rfl rfl
  | unsubscribe streamNames =>
      cases h
      exact .removes streamNames rfl rfl
  | take =>
      cases hqueue : t.queue with
      | nil => simp [step, hqueue] at h
      | cons message rest =>
          simp only [step, hqueue] at h
          cases h
          exact .passes ⟨rfl, id⟩ rfl (by simp)

end WebSocketTransport

namespace SubscribedTransport

variable {power : FloatPower} {s s' : SubscribedTransport} {a : SubscriptionAction}

/-- Replaying the messages handed to an open connection gives the desired streams. -/
def Replays (s : SubscribedTransport) : Prop :=
  s.transport.connected = true →
    replay (s.sends.map ControlSend.message) = s.transport.desiredStreams.toFinset

/-- A step hands its message over after the earlier ones. -/
theorem messages_sendsAfter {action : TransportAction}
    (hconnect : ∀ jitter, action ≠ .connect .done jitter) :
    (s.sendsAfter action).map ControlSend.message =
      s.sends.map ControlSend.message ++ (s.transport.controlMessage action).toList := by
  have happend : (s.sends ++ (s.transport.controlMessage action).toList.map fun message =>
      ({ message, byLoop := false } : ControlSend)).map ControlSend.message =
        s.sends.map ControlSend.message ++ (s.transport.controlMessage action).toList := by
    simp [Function.comp_def]
  cases action with
  | connect result jitter =>
      cases result with
      | done => exact absurd rfl (hconnect jitter)
      | connectionError error => exact happend
      | otherError => exact happend
  | send result =>
      have hkeeps (send : ControlSend) : (if send.byLoop = true then
          ({ send with result := some result } : ControlSend) else send).message =
            send.message := by
        split_ifs <;> rfl
      simp [sendsAfter, WebSocketTransport.controlMessage, Function.comp_def, hkeeps]
  | _ => exact happend

/-- The first message of a connection names all desired streams. -/
theorem replay_opens (jitter : Jitter) :
    replay ((s.sendsAfter (.connect .done jitter)).map ControlSend.message) =
      s.transport.desiredStreams.toFinset := by
  by_cases hnone : s.transport.desiredStreams = []
  · simp [sendsAfter, WebSocketTransport.controlMessage, hnone]
  · ext name
    simp [sendsAfter, WebSocketTransport.controlMessage, hnone, replay, ControlMessage.apply]

/-- Subscribing adds the names that are not desired yet. -/
theorem replay_adds (streamNames : List String) (hconnected : s.transport.connected = true) :
    (s.transport.controlMessage (.subscribe streamNames)).toList.foldl
      (fun streams message => message.apply streams) s.transport.desiredStreams.toFinset =
        (s.transport.desiredStreams ++
          (streamNames.filter fun name => name ∉ s.transport.desiredStreams).dedup).toFinset := by
  by_cases hnone : (streamNames.filter fun name => name ∉ s.transport.desiredStreams) = []
  · have hmessage : s.transport.controlMessage (.subscribe streamNames) = none :=
      if_neg fun h => h.1 hnone
    rw [hmessage, hnone, List.dedup_nil, List.append_nil]
    rfl
  · simp only [WebSocketTransport.controlMessage, hnone, hconnected, ne_eq, not_false_eq_true,
      and_self, if_true, Option.toList_some, List.foldl_cons, List.foldl_nil,
      ControlMessage.apply]
    ext name
    simp

/-- Unsubscribing removes the names that are desired. -/
theorem replay_removes (streamNames : List String) (hconnected : s.transport.connected = true) :
    (s.transport.controlMessage (.unsubscribe streamNames)).toList.foldl
      (fun streams message => message.apply streams) s.transport.desiredStreams.toFinset =
        (s.transport.desiredStreams.filter fun name => name ∉ streamNames).toFinset := by
  by_cases hnone : (streamNames.filter fun name => name ∈ s.transport.desiredStreams) = []
  · have hother (name : String) (hname : name ∈ s.transport.desiredStreams) :
        name ∉ streamNames := fun hmem => by
      simpa [hname] using List.filter_eq_nil_iff.mp hnone name hmem
    have hkept : s.transport.desiredStreams.filter (fun name => name ∉ streamNames) =
        s.transport.desiredStreams :=
      List.filter_eq_self.mpr fun name hname => decide_eq_true (hother name hname)
    have hmessage : s.transport.controlMessage (.unsubscribe streamNames) = none :=
      if_neg fun h => h.1 hnone
    rw [hmessage, hkept]
    rfl
  · simp only [WebSocketTransport.controlMessage, hnone, hconnected, ne_eq, not_false_eq_true,
      and_self, if_true, Option.toList_some, List.foldl_cons, List.foldl_nil,
      ControlMessage.apply]
    ext name
    simp only [Finset.mem_sdiff, List.mem_toFinset, List.mem_filter, decide_eq_true_eq]
    tauto

/-- **Every step keeps the replay.** -/
theorem Replays.step (hs : s.Replays) (h : s.step power a = some s') : s'.Replays := by
  intro hconnected'
  cases a with
  | transport action =>
      obtain ⟨transport, hstep, rfl⟩ := Option.map_eq_some_iff.mp h
      dsimp only at hconnected' ⊢
      cases WebSocketTransport.step_subscriptionProgress hstep with
      | opens jitter => exact replay_opens jitter
      | adds streamNames hdesired hconnected =>
          rw [hconnected] at hconnected'
          rw [messages_sendsAfter (by simp), replay_append, hs hconnected', hdesired,
            replay_adds streamNames hconnected']
      | removes streamNames hdesired hconnected =>
          rw [hconnected] at hconnected'
          rw [messages_sendsAfter (by simp), replay_append, hs hconnected', hdesired,
            replay_removes streamNames hconnected']
      | passes hundisturbed hmessage hconnect =>
          rw [messages_sendsAfter hconnect, hmessage, Option.toList_none, List.append_nil,
            hs (hundisturbed.connected hconnected'), hundisturbed.desired]
  | controlEnd index result =>
      simp only [SubscribedTransport.step] at h
      split at h
      · next send hsend =>
          split_ifs at h
          cases h
          have hkeeps : (s.sends.set index { send with result := some result }).map
              ControlSend.message = s.sends.map ControlSend.message := by
            obtain ⟨hindex, rfl⟩ := List.getElem?_eq_some_iff.mp hsend
            rw [List.map_set, ← List.getElem_map ControlSend.message, List.set_getElem_self]
            rwa [List.length_map]
          dsimp only at hconnected' ⊢
          rw [hkeeps, hs hconnected']
      · cases h

/-! ## The runs -/

theorem replays_init (policy : ReconnectPolicy) (queueMaxsize : ℤ) (streams : List String) :
    (init policy queueMaxsize streams).Replays := by
  intro hconnected
  exact absurd hconnected Bool.false_ne_true

theorem sent_eq (hpending : ∀ send ∈ s.sends, send.result ≠ none)
    (hfailed : ∀ send ∈ s.sends, send.result = none ∨ send.result = some .done) :
    s.sent = s.sends.map ControlSend.message := by
  have hall : s.sends.filter (fun send => send.result = some .done) = s.sends := by
    refine List.filter_eq_self.mpr fun send hsend => decide_eq_true ?_
    exact (hfailed send hsend).resolve_left (hpending send hsend)
  rw [sent, hall]

/-- **Replaying the messages sent on an open connection gives the desired streams**, in every state
of a run in which none is pending and none has failed on that connection. -/
theorem subscriptions_replay (power : FloatPower) (policy : ReconnectPolicy) (queueMaxsize : ℤ)
    (streams : List String) (actions : List SubscriptionAction) (s : SubscribedTransport)
    (h : run (SubscribedTransport.step power) (init policy queueMaxsize streams) actions = some s)
    (hopen : s.transport.connected = true)
    (hpending : ∀ send ∈ s.sends, send.result ≠ none)
    (hfailed : ∀ send ∈ s.sends, send.result = none ∨ send.result = some .done) :
    replay s.sent = s.transport.desiredStreams.toFinset := by
  have hreplays : s.Replays := run_invariant (C := fun _ _ => True)
    (fun _ _ _ hs _ hstep => hs.step hstep) (replays_init policy queueMaxsize streams)
    (along_of_forall (fun _ _ => trivial) _ _) h
  rw [sent_eq hpending hfailed, hreplays hopen]

/-- A stream is added and one removed while the connection is open. -/
def addedAndRemoved : List SubscriptionAction :=
  [.transport (.connect .done noJitter), .transport (.subscribe ["b", "a"]),
    .transport (.send .done), .controlEnd 1 .done, .transport (.unsubscribe ["a"]),
    .controlEnd 2 .done]

theorem subscriptions_replay_sample :
    ∃ s, run (step .rounded) (init .default 1000 ["a"]) addedAndRemoved = some s ∧
      replay s.sent = s.transport.desiredStreams.toFinset :=
  ⟨_, rfl, subscriptions_replay .rounded .default 1000 ["a"] addedAndRemoved _ rfl rfl
    (by decide +kernel) (by decide +kernel)⟩

end SubscribedTransport

end TradingAdvisor
