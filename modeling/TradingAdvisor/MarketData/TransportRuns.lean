import TradingAdvisor.MarketData.Transport

/-!
# Runs of the transport

* `Progress`, `step_progress` — what a step does to the loop and its history;
* `Survives`, **`survives_iff`** — a failed connect is followed by another one exactly as long as
  its delay is formed and finite;
* `BackedOff`, **`backedOff_iff`** — connect calls with no frame between them are separated by a
  sleep exactly as long as no connection ends without a frame.
-/

namespace TradingAdvisor

open Binary64 Transition

/-- The loop has a connect call or a connection in hand. -/
def TransportPhase.Busy : TransportPhase → Prop
  | .connecting => True
  | .subscribing => True
  | .reading _ => True
  | .closing _ _ => True
  | _ => False

namespace WebSocketTransport

variable {power : FloatPower} {t t' : WebSocketTransport} {a : TransportAction}

/-- A connection in use has not been taken, unless the transport is stopped. -/
def HoldsConnection (t : WebSocketTransport) : Prop :=
  (t.phase = .subscribing ∨ ∃ receivedAny, t.phase = .reading receivedAny) →
    t.connected = true ∨ t.stopped = true

/-- The loop goes on without a connect call and without a sleep. -/
structure Settles (t t' : WebSocketTransport) : Prop where
  policy : t'.policy = t.policy
  stopped : t'.stopped = t.stopped
  not_connecting : t'.phase ≠ .connecting
  not_sleeping : ∀ delay, t'.phase ≠ .sleeping delay
  holds : t'.HoldsConnection

/-- What a step does to the loop. -/
inductive Progress (power : FloatPower) (t : WebSocketTransport) :
    TransportAction → WebSocketTransport → Prop
  /-- Nothing: the step is one of `stop`, `subscribe`, `unsubscribe` and the consumer. -/
  | idle {a : TransportAction} {t' : WebSocketTransport} (hpolicy : t'.policy = t.policy)
      (hphase : t'.phase = t.phase) (hattempt : t'.attempt = t.attempt)
      (hhistory : t'.history = t.history)
      (hstop : t.stopped = true → t'.stopped = true) (hholds : t'.HoldsConnection) :
      Progress power t a t'
  | settles {a : TransportAction} {t' : WebSocketTransport} (h : t.Settles t')
      (hbusy : t.phase.Busy ∨ t.stopped = true)
      (hbusy' : t'.phase.Busy → t.phase.Busy) (hhistory : t'.history = t.history) :
      Progress power t a t'
  | receives {a : TransportAction} {t' : WebSocketTransport} (h : t.Settles t') (hbusy : t.phase.Busy)
      (hhistory : t'.history = .frameReceived :: t.history) : Progress power t a t'
  | calls {a : TransportAction} {t' : WebSocketTransport} (hpolicy : t'.policy = t.policy)
      (hstopped : t.stopped = false)
      (hstopped' : t'.stopped = false) (hphase : t'.phase = .connecting) (hattempt : 1 ≤ t'.attempt)
      (hhistory : t'.history = .connectCalled :: t.history)
      (hfrom : (∃ delay, t.phase = .sleeping delay) ∨
        ∃ receivedAny result, t.phase = .closing receivedAny none ∧ a = .close result ∧
          result ≠ .otherError) : Progress power t a t'
  | fails (error : String) (jitter : Jitter) (hphase : t.phase = .connecting) :
      Progress power t (.connect (.connectionError error) jitter) (t.backOff power error jitter)

theorem settles_finish (receivedAny : Bool) (pending : Option TransportError)
    (h : t.connected = true ∨ t.stopped = true) :
    t.Settles (t.finish receivedAny pending) ∧
      (t.finish receivedAny pending).history = t.history := by
  unfold finish
  by_cases hc : t.connected = true
  · rw [if_pos hc]
    exact ⟨⟨rfl, rfl, by simp, by simp, by simp [HoldsConnection]⟩, rfl⟩
  · rw [if_neg hc]
    have hs : t.stopped = true := h.resolve_left hc
    cases pending with
    | some error => exact ⟨⟨rfl, rfl, by simp [afterClose], by simp [afterClose],
        by simp [HoldsConnection, afterClose]⟩, rfl⟩
    | none =>
        simp only [afterClose, loopHead, hs, if_true]
        exact ⟨⟨rfl, hs.symm, by simp, by simp, by simp [HoldsConnection]⟩, trivial⟩

theorem settles_finishRead (receivedAny : Bool) (result : Awaited)
    (h : t.connected = true ∨ t.stopped = true) :
    t.Settles (t.finishRead receivedAny result) ∧
      (t.finishRead receivedAny result).history = t.history := by
  cases result with
  | done => exact settles_finish receivedAny none h
  | otherError => exact settles_finish false _ h
  | connectionError error =>
      obtain ⟨hs, hh⟩ := settles_finish (t := t.recordFailure error) false none h
      exact ⟨⟨hs.policy, hs.stopped, hs.not_connecting, hs.not_sleeping, hs.holds⟩, hh⟩

theorem settles_onFrame (receivedAny : Bool) (now : Timestamp) (frame : Frame)
    (h : t.connected = true ∨ t.stopped = true) :
    t.Settles (t.onFrame receivedAny now frame) ∧
      (t.onFrame receivedAny now frame).history = .frameReceived :: t.history := by
  cases frame with
  | malformed =>
      exact ⟨⟨rfl, rfl, by simp [onFrame], by simp [onFrame], fun _ => h⟩, rfl⟩
  | raising =>
      obtain ⟨hs, hh⟩ := settles_finish
        (t := { t with history := .frameReceived :: t.history }) false (some .undeclared) h
      exact ⟨⟨hs.policy, hs.stopped, hs.not_connecting, hs.not_sleeping, hs.holds⟩, hh⟩
  | decoded payload =>
      simp only [onFrame]
      rcases defaultUnwrap payload with ⟨stream, data⟩
      cases stream with
      | none => exact ⟨⟨rfl, rfl, by simp, by simp, fun _ => h⟩, rfl⟩
      | some stream =>
          exact ⟨⟨rfl, rfl, by simp [enqueue], by simp [enqueue], fun _ => h⟩, rfl⟩

theorem loopHead_of_running (h : t.stopped = false) :
    t.loopHead = { t with
      phase := .connecting
      attempt := t.attempt + 1
      status := if t.attempt = 0 then .connecting else .reconnecting
      history := .connectCalled :: t.history } := by
  rw [loopHead, if_neg (by simp [h])]

theorem loopHead_of_stopped (h : t.stopped = true) :
    t.loopHead = { t with phase := .returned, status := .disconnected } := by
  rw [loopHead, if_pos h]

/-- **Every step is one of the kinds of progress.** -/
theorem step_progress (hc : t.HoldsConnection) (h : step power t a = some t') :
    Progress power t a t' := by
  cases a with
  | connect result jitter =>
      simp only [step] at h
      split_ifs at h with hphase
      cases result with
      | done =>
          cases h
          refine .settles ⟨rfl, rfl, ?_, ?_, fun _ => .inl rfl⟩ (.inl ?_) (fun _ => ?_) rfl
          · simp only [opened]
            split_ifs <;> simp
          · intro delay
            simp only [opened]
            split_ifs <;> simp
          · rw [hphase]
            trivial
          · rw [hphase]
            trivial
      | connectionError error =>
          cases h
          exact .fails error jitter hphase
      | otherError =>
          cases h
          exact .settles ⟨rfl, rfl, by simp, by simp, by simp [HoldsConnection]⟩
            (.inl (by rw [hphase]; trivial)) (fun _ => by rw [hphase]; trivial) rfl
  | send result =>
      simp only [step] at h
      by_cases hphase : t.phase = .subscribing
      · rw [if_pos hphase] at h
        have hconn := hc (.inl hphase)
        have hbusy : t.phase.Busy := by rw [hphase]; trivial
        cases result with
        | done =>
            by_cases hconnected : t.connected = true
            · simp only [if_pos hconnected] at h
              cases h
              exact .settles ⟨rfl, rfl, by simp, by simp, fun _ => .inl hconnected⟩ (.inl hbusy)
                (fun _ => hbusy) rfl
            · simp only [if_neg hconnected] at h
              cases h
              obtain ⟨hs, hh⟩ := settles_finish false (some .assertion) hconn
              exact .settles hs (.inl hbusy) (fun _ => hbusy) hh
        | connectionError error =>
            cases h
            obtain ⟨hs, hh⟩ := settles_finishRead false (.connectionError error) hconn
            exact .settles hs (.inl hbusy) (fun _ => hbusy) hh
        | otherError =>
            cases h
            obtain ⟨hs, hh⟩ := settles_finishRead false .otherError hconn
            exact .settles hs (.inl hbusy) (fun _ => hbusy) hh
      · rw [if_neg hphase] at h
        cases h
  | frame frame now =>
      cases hphase : t.phase with
      | reading receivedAny =>
          simp only [step, hphase] at h
          cases h
          obtain ⟨hs, hh⟩ := settles_onFrame receivedAny now frame (hc (.inr ⟨_, hphase⟩))
          exact .receives hs (by rw [hphase]; trivial) hh
      | _ => simp [step, hphase] at h
  | readEnd result =>
      cases hphase : t.phase with
      | reading receivedAny =>
          simp only [step, hphase] at h
          cases h
          have hbusy : t.phase.Busy := by rw [hphase]; trivial
          obtain ⟨hs, hh⟩ := settles_finishRead receivedAny result (hc (.inr ⟨_, hphase⟩))
          exact .settles hs (.inl hbusy) (fun _ => hbusy) hh
      | _ => simp [step, hphase] at h
  | close result =>
      cases hphase : t.phase with
      | closing receivedAny pending =>
          have hbusy : t.phase.Busy := by rw [hphase]; trivial
          simp only [step, hphase] at h
          by_cases hother : result = .otherError
          · subst hother
            cases h
            exact .settles ⟨rfl, rfl, by simp, by simp, by simp [HoldsConnection]⟩ (.inl hbusy)
              (fun _ => hbusy) rfl
          have ht' : t.afterClose receivedAny pending = t' := by
            cases result with
            | otherError => exact absurd rfl hother
            | done => exact Option.some.inj h
            | connectionError error => exact Option.some.inj h
          subst ht'
          cases pending with
          | some error =>
              exact .settles ⟨rfl, rfl, by simp [afterClose], by simp [afterClose],
                by simp [HoldsConnection, afterClose]⟩ (.inl hbusy) (fun _ => hbusy) rfl
          | none =>
              simp only [afterClose]
              by_cases hs : t.stopped = true
              · rw [loopHead_of_stopped]
                swap
                · exact hs
                exact .settles ⟨rfl, rfl, by simp, by simp, by simp [HoldsConnection]⟩
                  (.inl hbusy) (fun _ => hbusy) rfl
              · rw [Bool.not_eq_true] at hs
                rw [loopHead_of_running]
                swap
                · exact hs
                exact .calls rfl hs hs rfl (by simp) rfl
                  (.inr ⟨receivedAny, result, hphase, rfl, hother⟩)
      | _ => simp [step, hphase] at h
  | wake =>
      cases hphase : t.phase with
      | sleeping delay =>
          simp only [step, hphase] at h
          split_ifs at h
          cases h
          by_cases hs : t.stopped = true
          · rw [loopHead_of_stopped hs]
            exact .settles ⟨rfl, rfl, by simp, by simp, by simp [HoldsConnection]⟩ (.inr hs)
              (fun hb => hb.elim) rfl
          · rw [Bool.not_eq_true] at hs
            rw [loopHead_of_running hs]
            exact .calls rfl hs hs rfl (by simp) rfl (.inl ⟨delay, hphase⟩)
      | _ => simp [step, hphase] at h
  | stop =>
      cases h
      exact .idle rfl rfl rfl rfl (fun _ => rfl) fun _ => .inr rfl
  | subscribe streamNames =>
      cases h
      exact .idle rfl rfl rfl rfl id hc
  | unsubscribe streamNames =>
      cases h
      exact .idle rfl rfl rfl rfl id hc
  | take =>
      cases hq : t.queue with
      | nil => simp [step, hq] at h
      | cons message rest =>
          simp only [step, hq] at h
          cases h
          exact .idle rfl rfl rfl rfl id hc

/-! ## Failed connects -/

/-- The events since the latest connect call. -/
def recent (t : WebSocketTransport) : List TransportEvent :=
  t.history.takeWhile fun event => event ≠ .connectCalled

theorem recent_cons {event : TransportEvent} {rest : List TransportEvent}
    (h : t'.history = event :: rest) (hne : event ≠ .connectCalled) (hrest : t.history = rest) :
    t'.recent = event :: t.recent := by
  rw [recent, h, List.takeWhile_cons_of_pos (by simpa using hne), recent, hrest]

theorem recent_of_calls {rest : List TransportEvent} (h : t'.history = .connectCalled :: rest) :
    t'.recent = [] := by
  rw [recent, h, List.takeWhile_cons_of_neg (by simp)]

/-- After a failed connect the loop sleeps a finite delay under the cap, until it connects again or
is stopped. -/
def Survives (t : WebSocketTransport) : Prop :=
  .connectFailed ∈ t.recent → t.stopped = true ∨ ∃ delay, t.phase = .sleeping delay ∧
    (0 ≤ delay ∧ delay ≤ t.policy.maxSeconds) ∧ delay ≠ .posInf

/-- A connect that fails before the transport is stopped has a delay that is formed and finite. -/
def FailureFits (power : FloatPower) (t : WebSocketTransport) : TransportAction → Prop
  | .connect (.connectionError _) jitter =>
      t.phase = .connecting → t.stopped = true ∨ t.policy.DelayIsFinite power t.attempt jitter
  | _ => True

/-- What holds of the loop in every state of a run. -/
structure LoopInv (t : WebSocketTransport) : Prop where
  holds : t.HoldsConnection
  attempt_pos : t.phase = .connecting → 1 ≤ t.attempt
  called : .connectCalled ∈ t.history
  not_slept : t.phase.Busy → ∀ delay, .slept delay ∉ t.recent
  slept : ∀ delay, t.phase = .sleeping delay → .slept delay ∈ t.recent

theorem recent_eq (h : t'.history = t.history) : t'.recent = t.recent := by
  rw [recent, h, recent]

/-- A failed connect either sleeps or ends the task. -/
theorem backOff_cases (power : FloatPower) (t : WebSocketTransport) (error : String)
    (jitter : Jitter) :
    (∃ delay, t.policy.delayForAttempt power t.attempt jitter = .ok delay ∧
      (t.backOff power error jitter).phase = .sleeping delay ∧
      (t.backOff power error jitter).recent = .slept delay :: .connectFailed :: t.recent ∧
      (t.backOff power error jitter).history = .slept delay :: .connectFailed :: t.history) ∨
    ∃ e, t.policy.delayForAttempt power t.attempt jitter = .error e ∧
      (t.backOff power error jitter).phase = .raised (.backoff e) ∧
      (t.backOff power error jitter).recent = .connectFailed :: t.recent ∧
      (t.backOff power error jitter).history = .connectFailed :: t.history := by
  unfold backOff
  dsimp only [recordFailure]
  cases t.policy.delayForAttempt power t.attempt jitter with
  | ok delay =>
      refine .inl ⟨delay, rfl, rfl, ?_, rfl⟩
      simp [recent]
  | error e =>
      refine .inr ⟨e, rfl, rfl, ?_, rfl⟩
      simp [recent]

theorem backOff_policy (power : FloatPower) (t : WebSocketTransport) (error : String)
    (jitter : Jitter) :
    (t.backOff power error jitter).policy = t.policy ∧
      (t.backOff power error jitter).stopped = t.stopped := by
  unfold backOff
  dsimp only [recordFailure]
  cases t.policy.delayForAttempt power t.attempt jitter <;> exact ⟨rfl, rfl⟩

/-- **The invariant of the loop is kept by every step.** -/
theorem LoopInv.step (hi : t.LoopInv) (h : WebSocketTransport.step power t a = some t') :
    t'.LoopInv := by
  cases step_progress hi.holds h with
  | idle hpolicy hphase hattempt hhistory hstop hholds =>
      have hrecent := recent_eq hhistory
      exact ⟨hholds, fun hc => hattempt ▸ hi.attempt_pos (hphase ▸ hc), hhistory ▸ hi.called,
        fun hb delay => hrecent ▸ hi.not_slept (hphase ▸ hb) delay,
        fun delay hs => hrecent ▸ hi.slept delay (hphase ▸ hs)⟩
  | settles hset hbusy hbusy' hhistory =>
      have hrecent := recent_eq hhistory
      exact ⟨hset.holds, fun hc => absurd hc hset.not_connecting, hhistory ▸ hi.called,
        fun hb delay => hrecent ▸ hi.not_slept (hbusy' hb) delay,
        fun delay hs => absurd hs (hset.not_sleeping delay)⟩
  | receives hset hbusy hhistory =>
      have hrecent := recent_cons hhistory (by simp) rfl
      refine ⟨hset.holds, fun hc => absurd hc hset.not_connecting, ?_, fun _ delay => ?_,
        fun delay hs => absurd hs (hset.not_sleeping delay)⟩
      · rw [hhistory]
        exact List.mem_cons_of_mem _ hi.called
      · rw [hrecent]
        simpa using hi.not_slept hbusy delay
  | calls hpolicy hstopped hstopped' hphase hattempt hhistory hfrom =>
      have hrecent := recent_of_calls hhistory
      refine ⟨?_, fun _ => hattempt, ?_, fun _ delay => by simp [hrecent], fun delay hs => ?_⟩
      · rintro (hs | ⟨r, hr⟩)
        · rw [hphase] at hs
          cases hs
        · rw [hphase] at hr
          cases hr
      · rw [hhistory]
        exact List.mem_cons_self
      · rw [hphase] at hs
        cases hs
  | fails error jitter hphase =>
      rcases backOff_cases power t error jitter with
        ⟨delay, -, hp, hrecent, hhistory⟩ | ⟨e, -, hp, hrecent, hhistory⟩
      · refine ⟨?_, ?_, ?_, ?_, ?_⟩ <;> simp [HoldsConnection, hp, hrecent, hhistory, hi.called,
          TransportPhase.Busy]
      · refine ⟨?_, ?_, ?_, ?_, ?_⟩ <;> simp [HoldsConnection, hp, hhistory, hi.called,
          TransportPhase.Busy]

theorem init_loopInv (policy : ReconnectPolicy) (queueMaxsize : ℤ) (streams : List String) :
    (init policy queueMaxsize streams).LoopInv := by
  rw [init, loopHead_of_running rfl]
  constructor <;> simp [HoldsConnection, recent]

theorem Survives.step (hi : t.LoopInv) (hs : t.Survives) (hC : FailureFits power t a)
    (h : WebSocketTransport.step power t a = some t') : t'.Survives := by
  cases step_progress hi.holds h with
  | idle hpolicy hphase hattempt hhistory hstop hholds =>
      intro hfail
      rw [recent_eq hhistory] at hfail
      rw [hphase, hpolicy]
      exact (hs hfail).imp_left hstop
  | settles hset hbusy hbusy' hhistory =>
      intro hfail
      rw [recent_eq hhistory] at hfail
      left
      rw [hset.stopped]
      rcases hs hfail with hst | ⟨delay, hphase, -⟩
      · exact hst
      · rw [hphase] at hbusy
        exact hbusy.resolve_left id
  | receives hset hbusy hhistory =>
      intro hfail
      rw [recent_cons hhistory (by simp) rfl] at hfail
      left
      rw [hset.stopped]
      rcases hs (by simpa using hfail) with hst | ⟨delay, hphase, -⟩
      · exact hst
      · rw [hphase] at hbusy
        exact hbusy.elim
  | calls hpolicy hstopped hstopped' hphase hattempt hhistory hfrom =>
      intro hfail
      rw [recent_of_calls hhistory] at hfail
      cases hfail
  | fails error jitter hphase =>
      intro _
      obtain ⟨hpolicy, hstopped⟩ := backOff_policy power t error jitter
      rw [hpolicy, hstopped]
      rcases hC hphase with hst | hfits
      · exact .inl hst
      · have hpos := hi.attempt_pos hphase
        obtain ⟨d, hd, hrange, hfin⟩ := (ReconnectPolicy.delayForAttempt_finite_iff
          (by omega) jitter.2.1 jitter.2.2).mpr hfits
        rcases backOff_cases power t error jitter with
          ⟨delay, hdelay, hp, -⟩ | ⟨e, herr, -⟩
        · rw [hd] at hdelay
          cases hdelay
          exact .inr ⟨d, hp, hrange, hfin⟩
        · rw [hd] at herr
          cases herr

/-- What does not fit is a connect that fails before the transport is stopped. -/
theorem failure_of_not_fits (h : ¬ FailureFits power t a) : ∃ error jitter,
    a = .connect (.connectionError error) jitter ∧ t.phase = .connecting ∧
      ¬ (t.stopped = true ∨ t.policy.DelayIsFinite power t.attempt jitter) := by
  cases a with
  | connect result jitter =>
      cases result with
      | connectionError error => exact ⟨error, jitter, rfl, Classical.not_imp.mp h⟩
      | done => exact absurd trivial h
      | otherError => exact absurd trivial h
  | _ => exact absurd trivial h

/-- A failure that does not fit ends the survival. -/
theorem not_survives_of_not_fits (hi : t.LoopInv) (hC : ¬ FailureFits power t a)
    (h : WebSocketTransport.step power t a = some t') : ¬ t'.Survives := by
  obtain ⟨error, jitter, rfl, hphase, hnot⟩ := failure_of_not_fits hC
  simp only [WebSocketTransport.step, if_pos hphase, Option.some.injEq] at h
  subst h
  intro hs
  apply hnot
  obtain ⟨hpolicy, hstopped⟩ := backOff_policy power t error jitter
  have hpos := hi.attempt_pos hphase
  rcases backOff_cases power t error jitter with
    ⟨delay, hdelay, hp, hrecent, -⟩ | ⟨e, -, hp, hrecent, -⟩
  · rcases hs (by simp [hrecent]) with hst | ⟨d, hd, hrange, hfin⟩
    · exact .inl (hstopped ▸ hst)
    · rw [hp] at hd
      cases hd
      exact .inr ((ReconnectPolicy.delayForAttempt_finite_iff (by omega) jitter.2.1
        jitter.2.2).mp ⟨delay, hdelay, hpolicy ▸ hrange, hfin⟩)
  · rcases hs (by simp [hrecent]) with hst | ⟨d, hd, -⟩
    · exact .inl (hstopped ▸ hst)
    · rw [hp] at hd
      cases hd

theorem init_survives (policy : ReconnectPolicy) (queueMaxsize : ℤ) (streams : List String) :
    (init policy queueMaxsize streams).Survives := by
  rw [init, loopHead_of_running rfl]
  simp [Survives, recent]

/-- The loop sleeping a finite delay is woken, and connects again unless it was stopped. -/
theorem step_wake {delay : Double} (h : t.phase = .sleeping delay) (hfin : delay ≠ .posInf) :
    ∃ t', step power t .wake = some t' ∧ (t.stopped = true ∨ t'.phase = .connecting) := by
  refine ⟨t.loopHead, ?_, ?_⟩
  · simp only [step, h]
    rw [if_pos (.inr hfin)]
  · by_cases hs : t.stopped = true
    · exact .inl hs
    · rw [Bool.not_eq_true] at hs
      exact .inr (by rw [loopHead_of_running hs])

/-! ## Connect calls -/

/-- Two consecutive connect calls with no frame between them are separated by a sleep. -/
def BacksOff (history : List TransportEvent) : Prop :=
  ∀ post mid pre, history = post ++ .connectCalled :: (mid ++ .connectCalled :: pre) →
    .connectCalled ∉ mid → .frameReceived ∈ mid ∨ ∃ delay, .slept delay ∈ mid

theorem takeWhile_calls {mid pre : List TransportEvent} (h : .connectCalled ∉ mid) :
    (mid ++ .connectCalled :: pre).takeWhile (fun e => e ≠ .connectCalled) = mid := by
  rw [List.takeWhile_append_of_pos]
  · simp
  · intro e he
    simp only [decide_eq_true_eq]
    rintro rfl
    exact h he

theorem backsOff_cons {event : TransportEvent} {rest : List TransportEvent} :
    BacksOff (event :: rest) ↔ BacksOff rest ∧ (event = .connectCalled → .connectCalled ∈ rest →
      .frameReceived ∈ rest.takeWhile (fun e => e ≠ .connectCalled) ∨
        ∃ delay, .slept delay ∈ rest.takeWhile fun e => e ≠ .connectCalled) := by
  constructor
  · intro h
    refine ⟨fun post mid pre heq => h (event :: post) mid pre (by rw [heq]; rfl), ?_⟩
    rintro rfl hmem
    obtain ⟨mid, pre, rfl, hmid⟩ := List.eq_append_cons_of_mem hmem
    rw [takeWhile_calls hmid]
    exact h [] mid pre rfl hmid
  · rintro ⟨hrest, hhead⟩ post mid pre heq hmid
    cases post with
    | nil =>
        rw [List.nil_append, List.cons.injEq] at heq
        obtain ⟨rfl, rfl⟩ := heq
        rw [takeWhile_calls hmid] at hhead
        exact hhead rfl (by simp)
    | cons e post =>
        rw [List.cons_append, List.cons.injEq] at heq
        exact hrest post mid pre heq.2 hmid

theorem backsOff_cons_of_ne {event : TransportEvent} {rest : List TransportEvent}
    (h : event ≠ .connectCalled) : BacksOff (event :: rest) ↔ BacksOff rest := by
  rw [backsOff_cons]
  exact and_iff_left fun hc => absurd hc h

/-- A connection after which the loop goes on has received a frame. -/
def EndsHeard (t : WebSocketTransport) : TransportAction → Prop
  | .close result => (∃ receivedAny, t.phase = .closing receivedAny none) → result ≠ .otherError →
      t.stopped = true ∨ .frameReceived ∈ t.recent
  | _ => True

theorem BacksOff.step (hi : t.LoopInv) (hs : BacksOff t.history) (hC : t.EndsHeard a)
    (h : WebSocketTransport.step power t a = some t') : BacksOff t'.history := by
  cases step_progress hi.holds h with
  | idle hpolicy hphase hattempt hhistory hstop hholds => rwa [hhistory]
  | settles hset hbusy hbusy' hhistory => rwa [hhistory]
  | receives hset hbusy hhistory =>
      rw [hhistory]
      exact (backsOff_cons_of_ne (by simp)).mpr hs
  | calls hpolicy hstopped hstopped' hphase hattempt hhistory hfrom =>
      rw [hhistory, backsOff_cons]
      refine ⟨hs, fun _ _ => ?_⟩
      rcases hfrom with ⟨delay, hsleep⟩ | ⟨receivedAny, result, hclosing, rfl, hother⟩
      · exact .inr ⟨delay, hi.slept delay hsleep⟩
      · rcases hC ⟨receivedAny, hclosing⟩ hother with hst | hframe
        · rw [hstopped] at hst
          cases hst
        · exact .inl hframe
  | fails error jitter hphase =>
      rcases backOff_cases power t error jitter with
        ⟨delay, -, -, -, hhistory⟩ | ⟨e, -, -, -, hhistory⟩
      · rw [hhistory, backsOff_cons_of_ne (by simp), backsOff_cons_of_ne (by simp)]
        exact hs
      · rw [hhistory, backsOff_cons_of_ne (by simp)]
        exact hs

/-- A connection that ends without a frame is followed by a connect call without a sleep. -/
theorem not_backsOff_of_not_endsHeard (hi : t.LoopInv) (hC : ¬ t.EndsHeard a)
    (h : WebSocketTransport.step power t a = some t') : ¬ BacksOff t'.history := by
  have hclose : ∃ result receivedAny, a = .close result ∧ t.phase = .closing receivedAny none ∧
      result ≠ .otherError ∧ t.stopped = false ∧ .frameReceived ∉ t.recent := by
    cases a with
    | close result =>
        simp only [EndsHeard, Classical.not_imp, not_or, Bool.not_eq_true] at hC
        obtain ⟨⟨receivedAny, hphase⟩, hother, hst, hframe⟩ := hC
        exact ⟨result, receivedAny, rfl, hphase, hother, hst, hframe⟩
    | _ => exact absurd trivial hC
  obtain ⟨result, receivedAny, rfl, hphase, hother, hst, hframe⟩ := hclose
  have ht' : t'.history = .connectCalled :: t.history := by
    have haft : t.afterClose receivedAny none = t' := by
      simp only [WebSocketTransport.step, hphase] at h
      cases result with
      | otherError => exact absurd rfl hother
      | done => exact Option.some.inj h
      | connectionError error => exact Option.some.inj h
    rw [← haft]
    simp only [afterClose]
    rw [loopHead_of_running]
    exact hst
  rw [ht', backsOff_cons]
  rintro ⟨-, hhead⟩
  rcases hhead rfl hi.called with hf | ⟨delay, hd⟩
  · exact hframe hf
  · exact hi.not_slept (by rw [hphase]; trivial) delay hd

theorem init_backsOff (policy : ReconnectPolicy) (queueMaxsize : ℤ) (streams : List String) :
    BacksOff (init policy queueMaxsize streams).history := by
  rw [init, loopHead_of_running rfl, backsOff_cons]
  refine ⟨?_, by simp⟩
  intro post mid pre heq
  simp at heq

/-! ## The runs -/

/-- **The reconnect loop survives exactly as long as its delays are formed.** The delay before an
attempt lies under the cap exactly when its numbers fit; along a run every failed connect is
followed by a finite sleep under the cap, exactly when the delays of all failures fit and are
finite; and from such a sleep the loop connects again, unless it is stopped. -/
theorem survives_iff (power : FloatPower) (policy : ReconnectPolicy) :
    (∀ (attempt : ℤ) (jitter : Jitter), 1 ≤ attempt →
      ((∃ delay, policy.delayForAttempt power attempt jitter = .ok delay ∧ 0 ≤ delay ∧
        delay ≤ policy.maxSeconds) ↔ policy.DelayFits power attempt jitter)) ∧
    (∀ (queueMaxsize : ℤ) (streams : List String) (actions : List TransportAction),
      Along (step power) (FailureFits power) (init policy queueMaxsize streams) actions ↔
        Throughout (step power) Survives (init policy queueMaxsize streams) actions) ∧
    ∀ (t : WebSocketTransport) (delay : Double), t.phase = .sleeping delay → delay ≠ .posInf →
      ∃ t', step power t .wake = some t' ∧ (t.stopped = true ∨ t'.phase = .connecting) := by
  refine ⟨fun attempt jitter h => ?_, fun queueMaxsize streams actions => ?_, fun t delay => ?_⟩
  · exact ReconnectPolicy.delayForAttempt_fits_iff h jitter.2.1 jitter.2.2
  · apply along_iff_throughout (I := fun t => t.LoopInv ∧ t.Survives)
    · intro t a t' hi hC h
      exact ⟨hi.1.step h, hi.2.step hi.1 hC h⟩
    · exact fun t hi => hi.2
    · exact fun t a t' hi hC h => not_survives_of_not_fits hi.1 hC h
    · exact ⟨init_loopInv _ _ _, init_survives _ _ _⟩
  · exact step_wake

/-- **Connect calls with no frame between them are separated by a sleep**, exactly along the runs in
which no connection ends without a frame. -/
theorem backsOff_iff (power : FloatPower) (policy : ReconnectPolicy) (queueMaxsize : ℤ)
    (streams : List String) (actions : List TransportAction) :
    Along (step power) EndsHeard (init policy queueMaxsize streams) actions ↔
      Throughout (step power) (fun t => BacksOff t.history) (init policy queueMaxsize streams)
        actions := by
  apply along_iff_throughout (I := fun t => t.LoopInv ∧ BacksOff t.history)
  · intro t a t' hi hC h
    exact ⟨hi.1.step h, hi.2.step hi.1 hC h⟩
  · exact fun t hi => hi.2
  · exact fun t a t' hi hC h => not_backsOff_of_not_endsHeard hi.1 hC h
  · exact ⟨init_loopInv _ _ _, init_backsOff _ _ _⟩

theorem survives_iff_sample :
    ∃ delay, ReconnectPolicy.default.delayForAttempt .rounded 1 noJitter = .ok delay ∧ 0 ≤ delay ∧
      delay ≤ ReconnectPolicy.default.maxSeconds := by
  apply ((survives_iff .rounded .default).1 1 noJitter (by norm_num)).mpr
  have hpow : (2 : ℚ) ^ ((1 : ℤ) - 1).toNat < 2 ^ 1024 :=
    pow_lt_pow_right₀ (by norm_num) (by decide)
  exact ((ReconnectPolicy.delayIsFinite_iff_of_finite rfl rfl rfl).mpr hpow).1

/-- The 1025th attempt of the default policy has no delay. -/
theorem default_overflows :
    ¬ ∀ (policy : ReconnectPolicy) (attempt : ℤ) (jitter : Jitter), 1 ≤ attempt →
      ∃ delay, policy.delayForAttempt .rounded attempt jitter = .ok delay ∧ 0 ≤ delay ∧
        delay ≤ policy.maxSeconds := by
  intro h
  obtain ⟨delay, hdelay, -⟩ := h .default 1025 noJitter (by norm_num)
  have herr : ReconnectPolicy.default.delayForAttempt .rounded 1025 noJitter =
      .error .overflowError := by decide +kernel
  rw [herr] at hdelay
  cases hdelay

/-- A peer that accepts and closes at once. -/
theorem accepted_and_closed :
    ∃ t, run (step .rounded) (init .default 1000 [])
      [.connect .done noJitter, .readEnd .done, .close .done] = some t ∧ ¬ BacksOff t.history := by
  refine ⟨_, rfl, fun h => ?_⟩
  have hsep := h [] [] [] rfl (by simp)
  simp at hsep

end WebSocketTransport

end TradingAdvisor
