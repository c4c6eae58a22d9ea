import TradingAdvisor.MarketData.DepthStream

/-!
# Resync runs: liveness and exclusion

A book that lost its synchronization is repaired by a resync run. Two questions about every
order of the stream's steps: is there always a run to repair a subscribed book, and is there
never more than one?

* `SymbolStep` — the life of one symbol's book, as an abstract transition relation;
* **`step_simulates`**: every step of the stream is such a transition of one symbol;
* **`notStuck_throughout_iff`**: no book gets stuck exactly as long as no step strands one: by
  the last failed attempt of its only run, by a backoff that raises, or by the end of the dispatch
  loop;
* **`exclusive_of_disciplined`**: there is at most one run per symbol, and none for a good book,
  when runs are asked for one at a time.
-/

namespace TradingAdvisor

open VersionedStore OrderBookSynchronizer Transition

/-! ## The life of one book -/

/-- What the rest of the system sees of one symbol. -/
structure SymbolView where
  status : Option SyncState
  inFlight : ℕ
  subscribed : Prop
  subscribing : Prop

/-- What can happen to the book of one symbol. -/
inductive BookEvent
  | quiet
  | ask
  | call
  | confirm
  | restart
  | retry
  | success
  | giveUp
  /-- A run ends in its backoff, with the synchronizer in this state. -/
  | raise (status : Option SyncState)
  deriving DecidableEq, Repr

/-- The transitions of one symbol. -/
def SymbolStep : BookEvent → SymbolView → SymbolView → Prop
  | .quiet, v, v' => v' = v
  | .ask, v, v' => (v.status = some .synced ∨ v.status = some .resyncRequired) ∧
      v' = { v with status := some .resyncRequired, inFlight := v.inFlight + 1 }
  | .call, v, v' =>
      v' = { v with status := some (v.status.getD .unsynced), subscribing := True }
  | .confirm, v, v' => v.subscribing ∧
      v' = ⟨v.status, v.inFlight + 1, True, v'.subscribing⟩
  | .restart, v, v' => 0 < v.inFlight ∧
      v' = { v with status := v.status.map fun _ => .buffering }
  | .retry, v, v' => 0 < v.inFlight ∧ v'.status ≠ none ∧
      (v'.status = some .synced → v.status = some .synced) ∧ v' = { v with status := v'.status }
  | .success, v, v' => 0 < v.inFlight ∧
      v' = { v with status := some .synced, inFlight := v.inFlight - 1 }
  | .giveUp, v, v' => 0 < v.inFlight ∧
      v' = { v with status := v.status.map fun _ => .buffering, inFlight := v.inFlight - 1 }
  | .raise status, v, v' => 0 < v.inFlight ∧ (v.status ≠ none → status ≠ none) ∧
      (status = some .synced → v.status = some .synced) ∧
      v' = { v with status := status, inFlight := v.inFlight - 1 }

/-- The book is synchronized, or a run is in flight. -/
def SymbolView.Served (v : SymbolView) : Prop := v.status = some .synced ∨ 0 < v.inFlight

/-- A symbol whose subscribed book has a run in flight unless it is synchronized or waits for one. -/
structure SymbolView.Live (v : SymbolView) : Prop where
  known : v.subscribing ∨ v.subscribed → v.status ≠ none
  enrolled : 0 < v.inFlight → v.subscribed
  fresh : ¬ v.subscribed → v.status = none ∨ v.status = some .unsynced
  live : v.subscribed → v.Served ∨ v.status = some .resyncRequired

/-- A book that needs no run in flight: it is synchronized, or the next depth event starts a run. -/
def NeedsNoRun (dispatching : Bool) (status : Option SyncState) : Prop :=
  status = some .synced ∨ dispatching = true ∧ status = some .resyncRequired

/-- The event ends a run whose book needs one. -/
def BookEvent.Loses (dispatching : Bool) : BookEvent → Prop
  | .giveUp => True
  | .raise status => ¬ NeedsNoRun dispatching status
  | _ => False

/-- A symbol with at most one run, and none while its book is synchronized. -/
structure SymbolView.Exclusive (v : SymbolView) : Prop where
  one : v.inFlight ≤ 1
  good : 0 < v.inFlight → v.status ≠ some .synced

section Step

variable {e : BookEvent} {v v' : SymbolView} {dispatching : Bool}

theorem SymbolStep.live (h : SymbolStep e v v') (hv : v.Live)
    (hlast : e.Loses dispatching → v.inFlight ≠ 1) : v'.Live := by
  obtain ⟨hknown, henrolled, hfresh, hlive⟩ := hv
  cases e with
  | quiet => obtain rfl := h; exact ⟨hknown, henrolled, hfresh, hlive⟩
  | ask =>
      obtain ⟨hst, rfl⟩ := h
      have hsub : v.subscribed := by
        by_contra hn
        rcases hfresh hn with hf | hf <;> rcases hst with hs | hs <;> simp [hf] at hs
      exact ⟨by simp, fun _ => hsub, fun hn => absurd hsub hn, fun _ => .inr rfl⟩
  | call =>
      obtain rfl := h
      refine ⟨by simp, henrolled, fun hn => ?_, fun hs => ?_⟩
      · rcases hfresh hn with hf | hf <;> simp [hf]
      · rcases hlive hs with (hf | hf) | hf
        · exact .inl (.inl (by simp [hf]))
        · exact .inl (.inr hf)
        · exact .inr (by simp [hf])
  | confirm =>
      obtain ⟨hsub, hv'⟩ := h
      rw [hv']
      exact ⟨fun _ => hknown (.inl hsub), fun _ => trivial, fun hn => absurd trivial hn,
        fun _ => .inl (.inr (Nat.succ_pos _))⟩
  | restart =>
      obtain ⟨hpos, rfl⟩ := h
      have hsub := henrolled hpos
      exact ⟨fun hs => by simpa using hknown hs, henrolled, fun hn => absurd hsub hn,
        fun _ => .inl (.inr hpos)⟩
  | retry =>
      obtain ⟨hpos, hne, -, hv'⟩ := h
      have hsub := henrolled hpos
      rw [hv']
      exact ⟨fun _ => hne, henrolled, fun hn => absurd hsub hn, fun _ => .inl (.inr hpos)⟩
  | success =>
      obtain ⟨hpos, rfl⟩ := h
      have hsub := henrolled hpos
      exact ⟨by simp, fun _ => hsub, fun hn => absurd hsub hn, fun _ => .inl (.inl rfl)⟩
  | giveUp =>
      obtain ⟨hpos, rfl⟩ := h
      have hsub := henrolled hpos
      have hone := hlast trivial
      refine ⟨fun hs => by simpa using hknown hs, fun _ => hsub, fun hn => absurd hsub hn,
        fun _ => .inl (.inr ?_)⟩
      simp only
      omega
  | raise status =>
      obtain ⟨hpos, hne, -, rfl⟩ := h
      have hsub := henrolled hpos
      refine ⟨fun _ => hne (hknown (.inr hsub)), fun _ => hsub, fun hn => absurd hsub hn,
        fun _ => ?_⟩
      by_cases hneeds : NeedsNoRun dispatching status
      · exact hneeds.imp .inl And.right
      · have hone := hlast hneeds
        refine .inl (.inr ?_)
        simp only
        omega

theorem SymbolStep.served (h : SymbolStep e v v') (henrolled : 0 < v.inFlight → v.subscribed)
    (hv : v.subscribed → v.Served) (hlast : e.Loses false → v.inFlight ≠ 1) :
    v'.subscribed → v'.Served := by
  cases e with
  | quiet => obtain rfl := h; exact hv
  | ask => obtain ⟨-, rfl⟩ := h; exact fun _ => .inr (Nat.succ_pos _)
  | call =>
      obtain rfl := h
      exact fun hs => (hv hs).imp_left fun hf => by simp [hf]
  | confirm =>
      obtain ⟨-, hv'⟩ := h
      rw [hv']
      exact fun _ => .inr (Nat.succ_pos _)
  | restart => obtain ⟨hpos, rfl⟩ := h; exact fun _ => .inr hpos
  | retry =>
      obtain ⟨hpos, -, -, hv'⟩ := h
      rw [hv']
      exact fun _ => .inr hpos
  | success => obtain ⟨-, rfl⟩ := h; exact fun _ => .inl rfl
  | giveUp =>
      obtain ⟨hpos, rfl⟩ := h
      have hone := hlast trivial
      refine fun _ => .inr ?_
      simp only
      omega
  | raise status =>
      obtain ⟨hpos, -, -, rfl⟩ := h
      by_cases hneeds : NeedsNoRun false status
      · exact fun _ => hneeds.imp_right fun hboth => absurd hboth.1 Bool.false_ne_true
      · have hone := hlast hneeds
        refine fun _ => .inr ?_
        simp only
        omega

end Step

/-- Runs are asked for one at a time, and only for a book that is not synchronized. -/
def SymbolView.Disciplined (v : SymbolView) : BookEvent → Prop
  | .ask => v.inFlight = 0
  | .confirm => v.inFlight = 0 ∧ v.status ≠ some .synced
  | _ => True

theorem SymbolStep.exclusive {e : BookEvent} {v v' : SymbolView} (h : SymbolStep e v v')
    (hv : v.Exclusive) (hd : v.Disciplined e) : v'.Exclusive := by
  obtain ⟨hone, hgood⟩ := hv
  cases e with
  | quiet => obtain rfl := h; exact ⟨hone, hgood⟩
  | ask =>
      obtain ⟨-, rfl⟩ := h
      exact ⟨by simp [show v.inFlight = 0 from hd], by simp⟩
  | call =>
      obtain rfl := h
      refine ⟨hone, fun hpos hs => hgood hpos ?_⟩
      cases hst : v.status with
      | none => simp [hst] at hs
      | some st => simpa [hst] using hs
  | confirm =>
      obtain ⟨-, hv'⟩ := h
      rw [hv']
      exact ⟨by simp [hd.1], fun _ => hd.2⟩
  | restart =>
      obtain ⟨-, rfl⟩ := h
      exact ⟨hone, fun _ => by cases v.status <;> simp⟩
  | retry =>
      obtain ⟨hpos, -, hs, hv'⟩ := h
      rw [hv']
      exact ⟨hone, fun _ hs' => hgood hpos (hs hs')⟩
  | success =>
      obtain ⟨-, rfl⟩ := h
      exact ⟨by simp only; omega, fun hpos => by simp only at hpos; omega⟩
  | giveUp =>
      obtain ⟨-, rfl⟩ := h
      exact ⟨by simp only; omega, fun hpos => by simp only at hpos; omega⟩
  | raise status =>
      obtain ⟨-, -, -, rfl⟩ := h
      exact ⟨by simp only; omega, fun hpos => by simp only at hpos; omega⟩

/-- A run that is in flight alone never meets a synchronized book. -/
theorem SymbolStep.keeps_synced {e : BookEvent} {v v' : SymbolView} (h : SymbolStep e v v')
    (hv : v.Exclusive) (he : e ≠ .ask) (hs : v.status = some .synced) :
    v'.status = some .synced := by
  cases e with
  | quiet => rw [show v' = v from h, hs]
  | ask => exact absurd rfl he
  | call => rw [show v' = _ from h]; simp [hs]
  | confirm => rw [h.2]; exact hs
  | success => rw [h.2]
  | restart | retry | giveUp | raise => exact absurd hs (hv.good h.1)

namespace BinanceFuturesOrderBookStream

variable {power : FloatPower} {s s' : BinanceFuturesOrderBookStream} {a : StreamAction}
  {y z : Symbol}

/-! ## Inversion of a step -/

/-- What one step does to the subscriptions, the states and the runs. -/
theorem step_cases (h : s.step power a = some s') :
    (∃ delta, a = .depthEvent delta ∧ s' = s.dispatch delta) ∨
    (∃ y, a = .orderBook y ∧ s' = s.orderBook y) ∨
    (∃ y, a = .subscribed y ∧ y ∈ s.subscribing ∧
      s'.subscribing = s.subscribing.erase y ∧ s'.subscribed = y :: s.subscribed ∧
      (∀ z, s'.status z = s.status z) ∧
      ∀ z, s'.inFlight z = s.inFlight z + if z = y then 1 else 0) ∨
    (∃ i y, a = .taskStart i ∧ s.tasks[i]? = some ⟨y, .created⟩ ∧ 1 ≤ s.maxResyncAttempts ∧
      s' = (s.startBuffering y).setTask i ⟨y, .fetching 1⟩) ∨
    (∃ i y, a = .taskStart i ∧ s.tasks[i]? = some ⟨y, .created⟩ ∧ s.maxResyncAttempts = 0 ∧
      s' = (s.startBuffering y).endTask i) ∨
    (∃ i outcome jitter y attempt sync, a = .fetchDone i outcome jitter ∧
      s.tasks[i]? = some ⟨y, .fetching attempt⟩ ∧ s.synchronizers.lookup y = some sync ∧
      s' = s.fetched power i y attempt jitter sync outcome) ∨
    (∃ i y attempt delay, a = .sleepDone i ∧ s.tasks[i]? = some ⟨y, .sleeping attempt delay⟩ ∧
      s' = (s.startBuffering y).setTask i ⟨y, .fetching (attempt + 1)⟩) ∨
    (∃ i y attempt, a = .sleepRaises i ∧ s.tasks[i]? = some ⟨y, .sleeping attempt .nan⟩ ∧
      s' = s.endTask i) := by
  cases a with
  | depthEvent delta =>
      simp only [step] at h
      split_ifs at h
      exact .inl ⟨delta, rfl, (Option.some.inj h).symm⟩
  | orderBook y => exact .inr (.inl ⟨y, rfl, (Option.some.inj h).symm⟩)
  | subscribed y =>
      simp only [step] at h
      split_ifs at h with hy
      obtain rfl := Option.some.inj h
      exact .inr (.inr (.inl ⟨y, rfl, hy, rfl, rfl, fun _ => rfl, fun z => inFlight_createTask⟩))
  | taskStart i =>
      simp only [step] at h
      split at h
      next y ht =>
        split_ifs at h with hm
        · exact .inr (.inr (.inr (.inl ⟨i, y, rfl, ht, hm, (Option.some.inj h).symm⟩)))
        · exact .inr (.inr (.inr (.inr (.inl
            ⟨i, y, rfl, ht, by omega, (Option.some.inj h).symm⟩))))
      next => cases h
  | fetchDone i outcome jitter =>
      simp only [step] at h
      split at h
      next y attempt ht =>
        obtain ⟨sync, hl, rfl⟩ := Option.map_eq_some_iff.mp h
        exact .inr (.inr (.inr (.inr (.inr (.inl
          ⟨i, outcome, jitter, y, attempt, sync, rfl, ht, hl, rfl⟩)))))
      next => cases h
  | sleepDone i =>
      simp only [step] at h
      split at h
      next y attempt delay ht =>
        split_ifs at h
        exact .inr (.inr (.inr (.inr (.inr (.inr (.inl
          ⟨i, y, attempt, delay, rfl, ht, (Option.some.inj h).symm⟩))))))
      next => cases h
  | sleepRaises i =>
      simp only [step] at h
      split at h
      next y attempt delay ht =>
        split_ifs at h with hnan
        exact .inr (.inr (.inr (.inr (.inr (.inr (.inr
          ⟨i, y, attempt, rfl, hnan ▸ ht, (Option.some.inj h).symm⟩))))))
      next => cases h

theorem orderBook_effect (s : BinanceFuturesOrderBookStream) (y : Symbol) :
    (s.orderBook y).subscribed = s.subscribed ∧ (s.orderBook y).subscribing = y :: s.subscribing ∧
    (∀ z, (s.orderBook y).inFlight z = s.inFlight z) ∧
    ∀ z, (s.orderBook y).status z =
      if z = y ∧ s.status y = none then some .unsynced else s.status z := by
  refine ⟨rfl, rfl, fun _ => rfl, fun z => ?_⟩
  cases h : s.synchronizers.lookup y with
  | none =>
      by_cases hz : z = y
      · subst hz
        simp [status, orderBook, h, OrderBookSynchronizer.init]
      · simp [status, orderBook, h, hz, AList.lookup_insert_ne hz]
  | some sync => simp [status, orderBook, h]

/-- A restarted run stays in flight, with its synchronizer buffering. -/
theorem restart_effect {i : ℕ} {phase : ResyncPhase} (phase' : ResyncPhase)
    (h : s.tasks[i]? = some ⟨y, phase⟩) (z : Symbol) :
    ((s.startBuffering y).setTask i ⟨y, phase'⟩).status z =
        (if z = y then (s.status y).map fun _ => SyncState.buffering else s.status z) ∧
      ((s.startBuffering y).setTask i ⟨y, phase'⟩).inFlight z = s.inFlight z := by
  have h' : (s.startBuffering y).tasks[i]? = some ⟨y, phase⟩ := by rw [tasks_startBuffering, h]
  refine ⟨?_, ?_⟩
  · rw [status_setTask, status_startBuffering]
  · rw [inFlight_setTask h', inFlight_startBuffering]

/-! ## Every step is a transition of one symbol -/

/-- What the rest of the system sees of a symbol. -/
def view (s : BinanceFuturesOrderBookStream) (y : Symbol) : SymbolView :=
  ⟨s.status y, s.inFlight y, y ∈ s.subscribed, y ∈ s.subscribing⟩

/-- The event finds the synchronizer of its symbol waiting for a resync, or breaks its chain. -/
def Asks (s : BinanceFuturesOrderBookStream) (delta : OrderBookDeltaEvent) : Prop :=
  ∃ sync ∈ s.synchronizers.lookup delta.symbol, sync.state = .resyncRequired ∨
    sync.state = .synced ∧ ¬ sync.book.Continues delta

instance (s : BinanceFuturesOrderBookStream) (delta : OrderBookDeltaEvent) :
    Decidable (s.Asks delta) :=
  inferInstanceAs (Decidable (∃ sync ∈ s.synchronizers.lookup delta.symbol, _))

/-- The fetch of a run ends without a synchronized book. -/
def FetchFails (s : BinanceFuturesOrderBookStream) (y : Symbol) (outcome : FetchOutcome) : Prop :=
  ∃ sync ∈ s.synchronizers.lookup y, outcome.Fails sync

instance (s : BinanceFuturesOrderBookStream) (y : Symbol) (outcome : FetchOutcome) :
    Decidable (s.FetchFails y outcome) :=
  inferInstanceAs (Decidable (∃ sync ∈ s.synchronizers.lookup y, _))

/-- What an action does to which book. -/
def bookEvent (power : FloatPower) (s : BinanceFuturesOrderBookStream) :
    StreamAction → Option (Symbol × BookEvent)
  | .depthEvent delta => some (delta.symbol, if s.Asks delta then .ask else .quiet)
  | .orderBook y => some (y, .call)
  | .subscribed y => some (y, .confirm)
  | .taskStart i => s.tasks[i]?.map fun task =>
      (task.symbol, if 1 ≤ s.maxResyncAttempts then .restart else .giveUp)
  | .fetchDone i outcome jitter => s.tasks[i]?.map fun task => (task.symbol,
      match task.phase with
      | .fetching attempt =>
          if s.FetchFails task.symbol outcome then
            if attempt < s.maxResyncAttempts then
              if s.BackoffRaises power attempt jitter then
                .raise ((s.synchronizers.lookup task.symbol).map (outcome.stateAfter ·))
              else .retry
            else .giveUp
          else .success
      | _ => .quiet)
  | .sleepDone i => s.tasks[i]?.map fun task => (task.symbol, .restart)
  | .sleepRaises i => s.tasks[i]?.map fun task => (task.symbol, .raise (s.status task.symbol))

theorem view_eq {t : BinanceFuturesOrderBookStream} {y z : Symbol}
    (hst : t.status z = s.status y) (hrun : t.inFlight z = s.inFlight y)
    (hsub : z ∈ t.subscribed ↔ y ∈ s.subscribed)
    (hing : z ∈ t.subscribing ↔ y ∈ s.subscribing) : t.view z = s.view y := by
  simp only [view, hst, hrun, hsub, hing]

theorem dispatch_simulates (s : BinanceFuturesOrderBookStream) (delta : OrderBookDeltaEvent) :
    SymbolStep (if s.Asks delta then .ask else .quiet) (s.view delta.symbol)
        ((s.dispatch delta).view delta.symbol) ∧
      ∀ z, z ≠ delta.symbol → (s.dispatch delta).view z = s.view z := by
  cases hl : s.synchronizers.lookup delta.symbol with
  | none =>
      have hask : ¬ s.Asks delta := by simp [Asks, hl]
      rw [dispatch_unknown hl, if_neg hask]
      exact ⟨rfl, fun _ _ => rfl⟩
  | some sync =>
      have hask : s.Asks delta ↔ (sync.onDelta delta).1.state = .resyncRequired := by
        rw [onDelta_resync_iff]
        simp [Asks, hl]
      obtain ⟨hsub, hing, hst, hrun⟩ := dispatch_effect hl
      refine ⟨?_, fun z hz => ?_⟩
      · have hst' := hst delta.symbol
        have hrun' := hrun delta.symbol
        simp only [if_true, true_and] at hst' hrun'
        split_ifs with ha
        · have hreq := hask.mp ha
          refine ⟨?_, by simp [view, hst', hrun', hreq, hsub, hing]⟩
          rcases onDelta_state sync delta with hkeep | ⟨hs, -, -⟩
          · exact .inr (by rw [view, status_of_lookup hl, ← hkeep, hreq])
          · exact .inl (by rw [view, status_of_lookup hl, hs])
        · have hreq := mt hask.mpr ha
          rcases onDelta_state sync delta with hkeep | ⟨-, -, hs⟩
          · refine view_eq ?_ (by rw [hrun', if_neg hreq]; rfl) (by rw [hsub]) (by rw [hing])
            rw [hst', hkeep, status_of_lookup hl]
          · exact absurd hs hreq
      · refine view_eq ?_ ?_ (by rw [hsub]) (by rw [hing])
        · rw [hst, if_neg hz]
        · rw [hrun, if_neg (fun h => hz h.1)]; rfl

theorem orderBook_simulates (s : BinanceFuturesOrderBookStream) (y : Symbol) :
    SymbolStep .call (s.view y) ((s.orderBook y).view y) ∧
      ∀ z, z ≠ y → (s.orderBook y).view z = s.view z := by
  obtain ⟨hsub, hing, hrun, hst⟩ := orderBook_effect s y
  refine ⟨?_, fun z hz => view_eq ?_ (hrun z) (by rw [hsub]) (by simp [hing, hz])⟩
  · have hst' := hst y
    simp only [SymbolStep, view, hrun, hsub, hing, hst']
    cases s.status y <;> simp
  · rw [hst, if_neg (fun h => hz h.1)]

/-- The end of a run. -/
theorem end_simulates {t : BinanceFuturesOrderBookStream} {e : BookEvent} (st : Option SyncState)
    (hpos : 0 < s.inFlight y) (hsub : t.subscribed = s.subscribed)
    (hing : t.subscribing = s.subscribing)
    (heff : ∀ z, t.status z = (if z = y then st else s.status z) ∧
      t.inFlight z + (if z = y then 1 else 0) = s.inFlight z)
    (he : ∀ v', v' = { s.view y with status := st, inFlight := s.inFlight y - 1 } →
      SymbolStep e (s.view y) v') :
    SymbolStep e (s.view y) (t.view y) ∧ ∀ z, z ≠ y → t.view z = s.view z := by
  refine ⟨he _ ?_, fun z hz => ?_⟩
  · obtain ⟨hst, hrun⟩ := heff y
    simp only [if_true] at hst hrun
    simp only [view, hst, hsub, hing, SymbolView.mk.injEq, and_true, true_and]
    omega
  · obtain ⟨hst, hrun⟩ := heff z
    simp only [if_neg hz] at hst hrun
    exact view_eq hst hrun (by rw [hsub]) (by rw [hing])

theorem restart_simulates {i : ℕ} {phase phase' : ResyncPhase}
    (h : s.tasks[i]? = some ⟨y, phase⟩) :
    SymbolStep .restart (s.view y) (((s.startBuffering y).setTask i ⟨y, phase'⟩).view y) ∧
      ∀ z, z ≠ y → ((s.startBuffering y).setTask i ⟨y, phase'⟩).view z = s.view z := by
  have hsub : ((s.startBuffering y).setTask i ⟨y, phase'⟩).subscribed = s.subscribed :=
    subscribed_startBuffering
  have hing : ((s.startBuffering y).setTask i ⟨y, phase'⟩).subscribing = s.subscribing :=
    subscribing_startBuffering
  refine ⟨⟨inFlight_pos h, ?_⟩, fun z hz => ?_⟩
  · obtain ⟨hst, hrun⟩ := restart_effect phase' h y
    simp only [view, hst, hrun, hsub, hing, if_true]
  · obtain ⟨hst, hrun⟩ := restart_effect phase' h z
    rw [if_neg hz] at hst
    exact view_eq hst hrun (by rw [hsub]) (by rw [hing])

theorem giveUp_simulates {i : ℕ} {phase : ResyncPhase} (h : s.tasks[i]? = some ⟨y, phase⟩) :
    SymbolStep .giveUp (s.view y) (((s.startBuffering y).endTask i).view y) ∧
      ∀ z, z ≠ y → ((s.startBuffering y).endTask i).view z = s.view z :=
  end_simulates _ (inFlight_pos h) subscribed_startBuffering subscribing_startBuffering
    (giveUp_effect h) fun _ hv => ⟨inFlight_pos h, hv⟩

theorem KeptByFetch.backoffRaises {s₁ : BinanceFuturesOrderBookStream} {attempt : ℕ}
    {jitter : Jitter} (h : KeptByFetch s s₁ y) :
    s₁.BackoffRaises power attempt jitter ↔ s.BackoffRaises power attempt jitter := by
  rw [BackoffRaises, h.retryPolicy, BackoffRaises]

/-- A failing fetch retries, raises in its backoff or gives up. -/
theorem failed_simulates {i attempt : ℕ} {jitter : Jitter} {sync : OrderBookSynchronizer}
    {outcome : FetchOutcome} (h : s.tasks[i]? = some ⟨y, .fetching attempt⟩)
    (hl : s.synchronizers.lookup y = some sync) (hf : outcome.Fails sync) :
    SymbolStep (if attempt < s.maxResyncAttempts then
          if s.BackoffRaises power attempt jitter then .raise (some (outcome.stateAfter sync))
          else .retry
        else .giveUp) (s.view y) ((s.fetched power i y attempt jitter sync outcome).view y) ∧
      ∀ z, z ≠ y → (s.fetched power i y attempt jitter sync outcome).view z = s.view z := by
  obtain ⟨hsynced, s₁, heq, hkept, hst⟩ := fetched_fails power i attempt jitter hl hf
  have h₁ : s₁.tasks[i]? = some ⟨y, .fetching attempt⟩ := by rw [hkept.tasks, h]
  have hrun₁ : ∀ z, s₁.inFlight z = s.inFlight z := fun z => by
    rw [inFlight, hkept.tasks, inFlight]
  have hst₁ : ∀ z, s₁.status z = if z = y then some (outcome.stateAfter sync) else s.status z := by
    intro z
    split_ifs with hz
    · rw [hz, hst]
    · exact hkept.others z hz
  obtain ⟨hsub, hing⟩ := failAttempt_subscriptions s₁ y power i attempt jitter
  rw [hkept.subscribed] at hsub
  rw [hkept.subscribing] at hing
  have hstatus : s.status y = some sync.state := status_of_lookup hl
  have heff := fun z => failAttempt_effect power jitter h₁ z
  rw [hkept.maxResyncAttempts, hkept.backoffRaises] at heff
  rw [heq]
  by_cases ha : attempt < s.maxResyncAttempts
  · rw [if_pos ha]
    by_cases hr : s.BackoffRaises power attempt jitter
    · rw [if_pos hr]
      refine end_simulates (some (outcome.stateAfter sync)) (inFlight_pos h) hsub hing
        (fun z => ?_) fun v hv => ⟨inFlight_pos h, fun _ => Option.some_ne_none _, ?_, hv⟩
      · rcases heff z with ⟨-, hn, -⟩ | ⟨-, -, hstz, hrunz⟩ | ⟨hle, -⟩
        · exact absurd hr hn
        · exact ⟨hstz.trans (hst₁ z), hrunz.trans (hrun₁ z)⟩
        · omega
      · exact fun hs => hsynced (Option.some.inj hs)
    · rw [if_neg hr]
      have hkeep : ∀ z, (s₁.failAttempt power i y attempt jitter).status z = s₁.status z ∧
          (s₁.failAttempt power i y attempt jitter).inFlight z = s.inFlight z := by
        intro z
        rcases heff z with ⟨-, -, hstz, hrunz⟩ | ⟨-, hyes, -⟩ | ⟨hle, -⟩
        · exact ⟨hstz, hrunz.trans (hrun₁ z)⟩
        · exact absurd hyes hr
        · omega
      refine ⟨⟨inFlight_pos h, ?_, ?_, ?_⟩, fun z hz => ?_⟩
      · simp [view, (hkeep y).1, hst]
      · simpa [view, (hkeep y).1, hst] using hsynced
      · simp only [view, (hkeep y).2, hsub, hing]
      · refine view_eq ?_ (hkeep z).2 (by rw [hsub]) (by rw [hing])
        rw [(hkeep z).1, hkept.others z hz]
  · rw [if_neg ha]
    refine end_simulates _ (inFlight_pos h) hsub hing (fun z => ?_)
      fun v hv => ⟨inFlight_pos h, hv⟩
    rcases heff z with ⟨hlt, -⟩ | ⟨hlt, -⟩ | ⟨-, hstz, hrunz⟩
    · omega
    · omega
    · refine ⟨?_, hrunz.trans (hrun₁ z)⟩
      rw [hstz]
      split_ifs with hz
      · simp only [view, hst, hstatus, Option.map_some]
      · exact hkept.others z hz

theorem fetched_simulates {i attempt : ℕ} {jitter : Jitter} {sync : OrderBookSynchronizer}
    (outcome : FetchOutcome) (h : s.tasks[i]? = some ⟨y, .fetching attempt⟩)
    (hl : s.synchronizers.lookup y = some sync) :
    SymbolStep (if s.FetchFails y outcome then
          if attempt < s.maxResyncAttempts then
            if s.BackoffRaises power attempt jitter then
              .raise ((s.synchronizers.lookup y).map (outcome.stateAfter ·))
            else .retry
          else .giveUp
        else .success) (s.view y)
        ((s.fetched power i y attempt jitter sync outcome).view y) ∧
      ∀ z, z ≠ y → (s.fetched power i y attempt jitter sync outcome).view z = s.view z := by
  have hfails : s.FetchFails y outcome ↔ outcome.Fails sync := by simp [FetchFails, hl]
  by_cases hf : outcome.Fails sync
  · rw [if_pos (hfails.mpr hf), hl]
    exact failed_simulates h hl hf
  · rw [if_neg (mt hfails.mp hf)]
    obtain ⟨hsub, hing, heff⟩ := fetched_succeeds h hf
    exact end_simulates _ (inFlight_pos h) hsub hing heff fun _ hv => ⟨inFlight_pos h, hv⟩

/-- **Every step of the stream is a transition of one symbol** and leaves the others alone. -/
theorem step_simulates (h : s.step power a = some s') :
    ∃ y e, s.bookEvent power a = some (y, e) ∧ SymbolStep e (s.view y) (s'.view y) ∧
      ∀ z, z ≠ y → s'.view z = s.view z := by
  rcases step_cases h with ⟨delta, rfl, rfl⟩ | ⟨y, rfl, rfl⟩ |
    ⟨y, rfl, hy, hing, hsub, hst, hrun⟩ | ⟨i, y, rfl, ht, hm, rfl⟩ | ⟨i, y, rfl, ht, hm, rfl⟩ |
    ⟨i, outcome, jitter, y, attempt, sync, rfl, ht, hl, rfl⟩ |
    ⟨i, y, attempt, delay, rfl, ht, rfl⟩ | ⟨i, y, attempt, rfl, ht, rfl⟩
  · exact ⟨_, _, rfl, dispatch_simulates s delta⟩
  · exact ⟨_, _, rfl, orderBook_simulates s y⟩
  · refine ⟨_, _, rfl, ⟨hy, ?_⟩, fun z hz => view_eq (hst z) ?_ ?_ ?_⟩
    · simp [view, hst, hrun, hsub]
    · rw [hrun, if_neg hz]; rfl
    · simp [hsub, hz]
    · rw [hing, List.mem_erase_of_ne hz]
  · refine ⟨y, .restart, ?_, restart_simulates ht⟩
    simp [bookEvent, ht, hm]
  · refine ⟨y, .giveUp, ?_, giveUp_simulates ht⟩
    simp [bookEvent, ht, hm]
  · refine ⟨y, _, ?_, fetched_simulates outcome ht hl⟩
    simp [bookEvent, ht]
  · refine ⟨y, .restart, ?_, restart_simulates ht⟩
    simp [bookEvent, ht]
  · refine ⟨y, .raise (s.status y), by simp [bookEvent, ht], ?_⟩
    refine end_simulates _ (inFlight_pos ht) rfl rfl (fun z => ⟨?_, (inFlight_eq ht).symm⟩)
      fun v hv => ⟨inFlight_pos ht, id, id, hv⟩
    rw [status_endTask]
    split_ifs with hz
    · rw [hz]
    · rfl

theorem init_view (source : NonemptyText) (queueMaxsize : ℤ) (maxResyncAttempts : ℕ)
    (retryPolicy : ReconnectPolicy) (y : Symbol) :
    (init source queueMaxsize maxResyncAttempts retryPolicy).view y = ⟨none, 0, False, False⟩ := by
  simp [view, init, status, inFlight]

/-! ## No book gets stuck -/

/-- The dispatch loop runs, and whatever depth event of the symbol comes next starts a resync
run. -/
def StartsResync (s : BinanceFuturesOrderBookStream) (y : Symbol) : Prop :=
  s.dispatching = true ∧
    ∀ delta, delta.symbol = y → s.inFlight y < (s.dispatch delta).inFlight y

/-- A subscribed book that is not synchronized is being repaired, or the next depth event
starts its repair. -/
def NotStuck (s : BinanceFuturesOrderBookStream) : Prop :=
  ∀ y ∈ s.subscribed, s.status y = some .synced ∨ 0 < s.inFlight y ∨ s.StartsResync y

/-- The step leaves a subscribed book that needs a run without one. Its only run fails the last
attempt, or has no attempt at all, or its backoff raises; or the dispatch loop ends while a
synchronizer asks for a resync. -/
def Strands (power : FloatPower) (s : BinanceFuturesOrderBookStream) : StreamAction → Prop
  | .depthEvent delta => s.DeltaRaises delta ∧
      ∃ y ∈ s.subscribed, s.status y = some .resyncRequired ∧ s.inFlight y = 0
  | .taskStart i => ∃ task ∈ s.tasks[i]?, task.phase = .created ∧ s.maxResyncAttempts = 0 ∧
      s.inFlight task.symbol = 1
  | .fetchDone i outcome jitter => ∃ task ∈ s.tasks[i]?, ∃ attempt,
      task.phase = .fetching attempt ∧ s.inFlight task.symbol = 1 ∧
      ∃ sync ∈ s.synchronizers.lookup task.symbol, outcome.Fails sync ∧
        (s.maxResyncAttempts ≤ attempt ∨ s.BackoffRaises power attempt jitter ∧
          ¬ NeedsNoRun s.dispatching (outcome.stateAfter sync))
  | .sleepRaises i => ∃ task ∈ s.tasks[i]?, s.inFlight task.symbol = 1 ∧
      ¬ NeedsNoRun s.dispatching (s.status task.symbol)
  | _ => False

/-- A step that is not a depth event strands a book exactly when it loses the only run of a
symbol. -/
theorem strands_iff (h : s.step power a = some s') (ha : ∀ delta, a ≠ .depthEvent delta) :
    s.Strands power a ↔ ∃ y e, s.bookEvent power a = some (y, e) ∧ s.inFlight y = 1 ∧
      e.Loses s.dispatching := by
  rcases step_cases h with ⟨delta, rfl, -⟩ | ⟨y, rfl, -⟩ | ⟨y, rfl, -⟩ |
    ⟨i, y, rfl, ht, hm, -⟩ | ⟨i, y, rfl, ht, hm, -⟩ |
    ⟨i, outcome, jitter, y, attempt, sync, rfl, ht, hl, -⟩ | ⟨i, y, attempt, delay, rfl, ht, -⟩ |
    ⟨i, y, attempt, rfl, ht, -⟩
  · exact absurd rfl (ha delta)
  · simp [Strands, bookEvent, BookEvent.Loses]
  · simp [Strands, bookEvent, BookEvent.Loses]
  · have hne : s.maxResyncAttempts ≠ 0 := by omega
    simp [Strands, bookEvent, BookEvent.Loses, ht, hm, hne]
  · simp [Strands, bookEvent, BookEvent.Loses, ht, hm]
  · have hfails : s.FetchFails y outcome ↔ outcome.Fails sync := by simp [FetchFails, hl]
    by_cases hf : outcome.Fails sync
    · by_cases hlt : attempt < s.maxResyncAttempts
      · have hle : ¬ s.maxResyncAttempts ≤ attempt := not_le.mpr hlt
        by_cases hr : s.BackoffRaises power attempt jitter <;>
          simp [Strands, bookEvent, BookEvent.Loses, ht, hl, hfails, hf, hlt, hle, hr]
      · have hle : s.maxResyncAttempts ≤ attempt := not_lt.mp hlt
        simp [Strands, bookEvent, BookEvent.Loses, ht, hl, hfails, hf, hlt, hle]
    · simp [Strands, bookEvent, BookEvent.Loses, ht, hl, hfails, hf]
  · simp [Strands, bookEvent, BookEvent.Loses, ht]
  · simp [Strands, bookEvent, BookEvent.Loses, ht]

theorem stuck_of_needsRun (hsub : y ∈ s.subscribed) (hrun : s.inFlight y = 0)
    (hneeds : ¬ NeedsNoRun s.dispatching (s.status y)) : ¬ s.NotStuck := by
  intro h
  rcases h y hsub with hs | hpos | ⟨hrunning, hstart⟩
  · exact hneeds (.inl hs)
  · omega
  · have hlt := hstart ⟨y, 0, 0, none, [], [], 0, le_rfl⟩ rfl
    have hview := (dispatch_simulates s ⟨y, 0, 0, none, [], [], 0, le_rfl⟩).1
    split_ifs at hview with ha
    · rcases hview.1 with h' | h'
      · exact hneeds (.inl h')
      · exact hneeds (.inr ⟨hrunning, h'⟩)
    · exact hlt.ne' (congrArg SymbolView.inFlight hview)

/-- Every symbol is live, and no book waits for an event of a dispatch loop that has ended. -/
structure Live (s : BinanceFuturesOrderBookStream) : Prop where
  each : ∀ y, (s.view y).Live
  running : s.dispatching = false → ∀ y, (s.view y).subscribed → (s.view y).Served

theorem startsResync_of_required (hrunning : s.dispatching = true)
    (hst : s.status y = some .resyncRequired) : s.StartsResync y := by
  refine ⟨hrunning, fun delta hdelta => ?_⟩
  subst hdelta
  obtain ⟨sync, hl, hsync⟩ := Option.map_eq_some_iff.mp hst
  have hview := (dispatch_simulates s delta).1
  rw [if_pos ⟨sync, hl, .inl hsync⟩] at hview
  have hrun : (s.dispatch delta).inFlight delta.symbol = s.inFlight delta.symbol + 1 :=
    congrArg SymbolView.inFlight hview.2
  omega

theorem Live.notStuck (h : s.Live) : s.NotStuck := by
  intro y hy
  rcases (h.each y).live hy with (hs | hpos) | hst
  · exact .inl hs
  · exact .inr (.inl hpos)
  · rcases Bool.eq_false_or_eq_true s.dispatching with hrunning | hended
    · exact .inr (.inr (startsResync_of_required hrunning hst))
    · exact (h.running hended y hy).imp_right .inl

/-- No depth event strands a book that was live. -/
theorem dispatch_live {delta : OrderBookDeltaEvent} (hs : s.Live) (hrunning : s.dispatching = true)
    (hkept : ¬ s.Strands power (.depthEvent delta)) : (s.dispatch delta).Live := by
  obtain ⟨hstep, hother⟩ := dispatch_simulates s delta
  have heach : ∀ z, ((s.dispatch delta).view z).Live := fun z => by
    by_cases hz : z = delta.symbol
    · subst hz
      refine hstep.live (hs.each _) fun (hloses : BookEvent.Loses true _) => ?_
      split_ifs at hloses <;> exact hloses.elim
    · rw [hother z hz]
      exact hs.each z
  refine ⟨heach, fun hended z hsub => ?_⟩
  have hraises : s.DeltaRaises delta := by
    by_contra hno
    rw [dispatch_dispatching_iff.mpr ⟨hrunning, hno⟩] at hended
    cases hended
  have hnone : ∀ y ∈ s.subscribed, s.status y = some .resyncRequired → s.inFlight y ≠ 0 :=
    fun y hy hst hrun => hkept ⟨hraises, y, hy, hst, hrun⟩
  have hserved : ∀ y, (s.view y).subscribed → (s.view y).Served := fun y hy => by
    rcases (hs.each y).live hy with hserved | hst
    · exact hserved
    · exact .inr (Nat.pos_of_ne_zero (hnone y hy hst))
  by_cases hz : z = delta.symbol
  · subst hz
    refine hstep.served (hs.each _).enrolled (hserved _) (fun hloses => ?_) hsub
    split_ifs at hloses <;> exact hloses.elim
  · rw [hother z hz] at hsub ⊢
    exact hserved z hsub

theorem step_live (hs : s.Live) (hkept : ¬ s.Strands power a) (h : s.step power a = some s') :
    s'.Live := by
  by_cases ha : ∃ delta, a = .depthEvent delta
  · obtain ⟨delta, rfl⟩ := ha
    simp only [step] at h
    split_ifs at h with hrunning
    exact Option.some.inj h ▸ dispatch_live hs hrunning hkept
  · have ha : ∀ delta, a ≠ .depthEvent delta := fun delta hdelta => ha ⟨delta, hdelta⟩
    obtain ⟨y, e, he, hstep, hother⟩ := step_simulates h
    have hlast : e.Loses s.dispatching → (s.view y).inFlight ≠ 1 := fun hloses hone =>
      hkept ((strands_iff h ha).mpr ⟨y, e, he, hone, hloses⟩)
    have hdispatching := step_dispatching h ha
    refine ⟨fun z => ?_, fun hended z hsub => ?_⟩
    · by_cases hz : z = y
      · subst hz
        exact hstep.live (hs.each z) hlast
      · rw [hother z hz]
        exact hs.each z
    · rw [hdispatching] at hended
      by_cases hz : z = y
      · subst hz
        exact hstep.served (hs.each z).enrolled (hs.running hended z) (hended ▸ hlast) hsub
      · rw [hother z hz] at hsub ⊢
        exact hs.running hended z hsub

/-- The end of the dispatch loop strands the books that ask for a resync. -/
theorem stuck_of_dispatch {delta : OrderBookDeltaEvent}
    (hstrands : s.Strands power (.depthEvent delta)) : ¬ (s.dispatch delta).NotStuck := by
  obtain ⟨hraises, y, hsub, hst, hrun⟩ := hstrands
  have hne : y ≠ delta.symbol := by
    rintro rfl
    obtain ⟨sync, hl, e, he⟩ := hraises
    obtain ⟨sync', hl', hsync⟩ := Option.map_eq_some_iff.mp hst
    obtain rfl : sync' = sync := Option.some.inj (hl'.symm.trans hl)
    rw [onDelta_idle (.inr hsync)] at he
    cases he
  have hview := (dispatch_simulates s delta).2 y hne
  have hsub' : ((s.dispatch delta).view y).subscribed := by rw [hview]; exact hsub
  have hrun' : (s.dispatch delta).inFlight y = s.inFlight y :=
    congrArg SymbolView.inFlight hview
  have hst' : (s.dispatch delta).status y = s.status y := congrArg SymbolView.status hview
  refine stuck_of_needsRun hsub' (hrun'.trans hrun) ?_
  rw [hst', hst]
  rintro (hs | ⟨hrunning, -⟩)
  · cases hs
  · exact (dispatch_dispatching_iff.mp hrunning).2 hraises

theorem stuck_of_strands (hs : s.Live) (hstrands : s.Strands power a)
    (h : s.step power a = some s') : ¬ s'.NotStuck := by
  by_cases ha : ∃ delta, a = .depthEvent delta
  · obtain ⟨delta, rfl⟩ := ha
    simp only [step] at h
    split_ifs at h
    exact Option.some.inj h ▸ stuck_of_dispatch hstrands
  · have ha : ∀ delta, a ≠ .depthEvent delta := fun delta hdelta => ha ⟨delta, hdelta⟩
    obtain ⟨y, e, he, hone, hloses⟩ := (strands_iff h ha).mp hstrands
    obtain ⟨z, e', he', hstep, -⟩ := step_simulates h
    obtain ⟨rfl, rfl⟩ : y = z ∧ e = e' := by simpa [he] using he'
    have hdispatching := step_dispatching h ha
    have hsub : (s.view y).subscribed :=
      (hs.each y).enrolled (Nat.pos_of_ne_zero (by rw [view, hone]; exact Nat.one_ne_zero))
    obtain ⟨st, hst⟩ := Option.ne_none_iff_exists'.mp ((hs.each y).known (.inr hsub))
    -- the run that ends was the only one
    have hrun {status : Option SyncState} (hview : s'.view y =
        { s.view y with status := status, inFlight := s.inFlight y - 1 }) :
        y ∈ s'.subscribed ∧ s'.inFlight y = 0 ∧ s'.status y = status := by
      have hsub' : (s'.view y).subscribed := by rw [hview]; exact hsub
      have hnone : s'.inFlight y = s.inFlight y - 1 := congrArg SymbolView.inFlight hview
      exact ⟨hsub', by omega, congrArg SymbolView.status hview⟩
    cases e with
    | giveUp =>
        obtain ⟨hsub', hnone, hstatus⟩ := hrun hstep.2
        refine stuck_of_needsRun hsub' hnone ?_
        rw [hstatus, hst]
        rintro (hsynced | ⟨-, hasked⟩)
        · cases hsynced
        · cases hasked
    | raise status =>
        obtain ⟨hsub', hnone, hstatus⟩ := hrun hstep.2.2.2
        refine stuck_of_needsRun hsub' hnone ?_
        rw [hstatus, hdispatching]
        exact hloses
    | quiet | ask | call | confirm | restart | retry | success => exact hloses.elim

theorem init_live (source : NonemptyText) (queueMaxsize : ℤ) (maxResyncAttempts : ℕ)
    (retryPolicy : ReconnectPolicy) :
    (init source queueMaxsize maxResyncAttempts retryPolicy).Live := by
  refine ⟨fun y => ?_, fun hended => by cases hended⟩
  rw [init_view]
  exact ⟨by simp, by simp, fun _ => .inl rfl, by simp⟩

/-- **No subscribed book gets stuck along a run exactly when no step of it strands one.** -/
theorem notStuck_throughout_iff (power : FloatPower) (source : NonemptyText) (queueMaxsize : ℤ)
    (maxResyncAttempts : ℕ) (retryPolicy : ReconnectPolicy) (acts : List StreamAction) :
    Throughout (step power) NotStuck (init source queueMaxsize maxResyncAttempts retryPolicy)
        acts ↔
      Along (step power) (fun s a => ¬ s.Strands power a)
        (init source queueMaxsize maxResyncAttempts retryPolicy) acts :=
  (along_iff_throughout (I := Live) (fun _ _ _ hs hC h => step_live hs hC h)
    (fun _ hs => hs.notStuck)
    (fun _ _ _ hs hC h => stuck_of_strands hs (not_not.mp hC) h)
    (init_live source queueMaxsize maxResyncAttempts retryPolicy)).symm

/-- Three failed fetches of the only run, with the default number of attempts. -/
def threeFailures : List StreamAction :=
  [.orderBook btcusdt, .subscribed btcusdt, .taskStart 0, .fetchDone 0 .marketDataError noJitter,
    .sleepDone 0, .fetchDone 0 .marketDataError noJitter, .sleepDone 0,
    .fetchDone 0 .marketDataError noJitter]

/-- After three failed fetches the subscribed book buffers with no run in flight. -/
theorem threeFailures_stuck :
    ¬ Throughout (step .rounded) NotStuck (init defaultSource 200 3 .snapshotRetry)
      threeFailures := by
  intro h
  have hend : (run (step .rounded) (init defaultSource 200 3 .snapshotRetry) threeFailures).map
      (fun s => (s.subscribed, s.status btcusdt, s.inFlight btcusdt)) =
      some ([btcusdt], some .buffering, 0) := by decide +kernel
  obtain ⟨s, hs, hobs⟩ := Option.map_eq_some_iff.mp hend
  simp only [Prod.mk.injEq] at hobs
  obtain ⟨hsub, hst, hrun⟩ := hobs
  refine stuck_of_needsRun (by rw [hsub]; exact List.mem_singleton_self _) hrun ?_
    (h _ List.prefix_rfl s hs)
  rw [hst]
  rintro (hsynced | ⟨-, hasked⟩)
  · cases hsynced
  · cases hasked

example : (run (step .rounded) (init defaultSource 200 4 ReconnectPolicy.steep) threeFailures).map
    (fun s => (s.status btcusdt, s.inFlight btcusdt)) = some (some .buffering, 0) := by
  decide +kernel

/-! ## One run at a time -/

/-- A step of a resync run. -/
def IsResyncStep : StreamAction → Prop
  | .taskStart _ => True
  | .fetchDone _ _ _ => True
  | .sleepDone _ => True
  | .sleepRaises _ => True
  | _ => False

/-- At most one resync run per symbol is in flight. -/
def AtMostOneRun (s : BinanceFuturesOrderBookStream) : Prop := ∀ y, s.inFlight y ≤ 1

/-- A step of a resync run takes no synchronized book out of its state. -/
def KeepsGoodBooks (power : FloatPower) (s : BinanceFuturesOrderBookStream) (a : StreamAction) :
    Prop :=
  IsResyncStep a → ∀ s', s.step power a = some s' →
    ∀ y, s.status y = some .synced → s'.status y = some .synced

/-- Runs are asked for one at a time: no event of a symbol whose run is in flight finds its
synchronizer waiting or breaks its chain, and a subscription is confirmed only for a symbol
without a run whose book is not synchronized. -/
def Disciplined (s : BinanceFuturesOrderBookStream) : StreamAction → Prop
  | .depthEvent delta => s.Asks delta → s.inFlight delta.symbol = 0
  | .subscribed y => s.inFlight y = 0 ∧ s.status y ≠ some .synced
  | _ => True

/-- Every symbol has at most one run, and none while its book is synchronized. -/
def Exclusive (s : BinanceFuturesOrderBookStream) : Prop := ∀ y, (s.view y).Exclusive

theorem Disciplined.view {e : BookEvent} (h : s.Disciplined a)
    (he : s.bookEvent power a = some (y, e)) : (s.view y).Disciplined e := by
  cases a with
  | depthEvent delta =>
      obtain ⟨rfl, rfl⟩ : delta.symbol = y ∧ (if s.Asks delta then .ask else .quiet) = e := by
        simpa [bookEvent] using he
      split_ifs with ha
      · exact h ha
      · trivial
  | subscribed z =>
      obtain ⟨rfl, rfl⟩ : z = y ∧ .confirm = e := by simpa [bookEvent] using he
      exact h
  | orderBook z =>
      obtain ⟨rfl, rfl⟩ : z = y ∧ .call = e := by simpa [bookEvent] using he
      trivial
  | taskStart i =>
      obtain ⟨task, -, htask⟩ := Option.map_eq_some_iff.mp he
      obtain ⟨-, rfl⟩ := Prod.mk.inj htask
      split_ifs <;> trivial
  | fetchDone i outcome jitter =>
      obtain ⟨task, -, htask⟩ := Option.map_eq_some_iff.mp he
      obtain ⟨-, rfl⟩ := Prod.mk.inj htask
      cases task.phase with
      | created => trivial
      | fetching attempt => simp only; split_ifs <;> trivial
      | sleeping attempt delay => trivial
  | sleepDone i | sleepRaises i =>
      obtain ⟨task, -, htask⟩ := Option.map_eq_some_iff.mp he
      obtain ⟨-, rfl⟩ := Prod.mk.inj htask
      trivial

theorem step_exclusive (hs : s.Exclusive) (hd : s.Disciplined a)
    (h : s.step power a = some s') : s'.Exclusive := by
  obtain ⟨y, e, he, hstep, hother⟩ := step_simulates h
  intro z
  by_cases hz : z = y
  · subst hz
    exact hstep.exclusive (hs z) (hd.view he)
  · rw [hother z hz]
    exact hs z

theorem keepsGoodBooks_of_exclusive (hs : s.Exclusive) : s.KeepsGoodBooks power a := by
  intro ha s' h z hz
  obtain ⟨y, e, he, hstep, hother⟩ := step_simulates h
  by_cases hzy : z = y
  · subst hzy
    refine hstep.keeps_synced (hs z) ?_ hz
    rintro rfl
    cases a with
    | depthEvent delta => exact ha
    | orderBook y => exact ha
    | subscribed y => exact ha
    | taskStart i =>
        obtain ⟨task, -, htask⟩ := Option.map_eq_some_iff.mp he
        have := (Prod.mk.inj htask).2
        split_ifs at this
    | fetchDone i outcome jitter =>
        obtain ⟨task, -, htask⟩ := Option.map_eq_some_iff.mp he
        have := (Prod.mk.inj htask).2
        cases hp : task.phase <;> simp only [hp] at this
        · cases this
        · split_ifs at this
        · cases this
    | sleepDone i | sleepRaises i =>
        obtain ⟨task, -, htask⟩ := Option.map_eq_some_iff.mp he
        cases (Prod.mk.inj htask).2
  · have := congrArg SymbolView.status (hother z hzy)
    exact this.trans hz

theorem init_exclusive (source : NonemptyText) (queueMaxsize : ℤ) (maxResyncAttempts : ℕ)
    (retryPolicy : ReconnectPolicy) :
    (init source queueMaxsize maxResyncAttempts retryPolicy).Exclusive := by
  intro y
  rw [init_view]
  exact ⟨by simp, by simp⟩

/-- **Along a disciplined run at most one resync run per symbol is in flight, and no step of a
resync run takes a synchronized book out of its state.** -/
theorem exclusive_of_disciplined (power : FloatPower) (source : NonemptyText) (queueMaxsize : ℤ)
    (maxResyncAttempts : ℕ) (retryPolicy : ReconnectPolicy) (acts : List StreamAction)
    (h : Along (step power) Disciplined (init source queueMaxsize maxResyncAttempts retryPolicy)
      acts) :
    Throughout (step power) (fun s => s.AtMostOneRun ∧ ∀ a, s.KeepsGoodBooks power a)
      (init source queueMaxsize maxResyncAttempts retryPolicy) acts :=
  throughout_of_along (I := Exclusive) (fun _ _ _ hs hC h => step_exclusive hs hC h)
    (fun _ hs => ⟨fun y => (hs y).one, fun _ => keepsGoodBooks_of_exclusive hs⟩)
    (init_exclusive source queueMaxsize maxResyncAttempts retryPolicy) h

instance (s : BinanceFuturesOrderBookStream) : DecidablePred s.Disciplined
  | .depthEvent delta => inferInstanceAs (Decidable (s.Asks delta → _))
  | .subscribed y => inferInstanceAs (Decidable (s.inFlight y = 0 ∧ _))
  | .orderBook _ | .taskStart _ | .fetchDone _ _ _ | .sleepDone _ | .sleepRaises _ =>
      instDecidableTrue

/-- A depth event of the samples without levels. -/
def sampleDelta (previous first final : ℕ) (h : first ≤ final := by decide) :
    OrderBookDeltaEvent := ⟨btcusdt, first, final, some previous, [], [], 0, h⟩

/-- An empty snapshot of the samples. -/
def emptySnapshot (lastUpdateId : ℕ) : OrderBookSnapshot :=
  ⟨btcusdt, .perpetual, lastUpdateId, [], [], defaultSource, 0, by simp [Uncrossed]⟩

/-- One subscription and its resync run. -/
def firstResync : List StreamAction :=
  [.orderBook btcusdt, .subscribed btcusdt, .taskStart 0, .depthEvent (sampleDelta 3 4 5),
    .fetchDone 0 (.snapshot (emptySnapshot 4)) noJitter]

theorem exclusive_of_disciplined_firstResync :
    Throughout (step .rounded) (fun s => s.AtMostOneRun ∧ ∀ a, s.KeepsGoodBooks .rounded a)
      (init defaultSource 200 3 .snapshotRetry) firstResync :=
  exclusive_of_disciplined .rounded defaultSource 200 3 .snapshotRetry firstResync
    (by decide +kernel)

/-- A gap, and one more event before the resync run it asks for has started. -/
def twoGaps : List StreamAction :=
  firstResync ++ [.depthEvent (sampleDelta 7 8 9), .depthEvent (sampleDelta 9 10 10)]

/-- The first of the two runs repairs the book; the second one is still to start. -/
def repaired : List StreamAction :=
  twoGaps ++ [.taskStart 0, .depthEvent (sampleDelta 10 11 11),
    .fetchDone 0 (.snapshot (emptySnapshot 11)) noJitter]

/-- Two runs for one symbol, and the start of the second throws a good book away. -/
theorem twoGaps_not_exclusive :
    ¬ Throughout (step .rounded) AtMostOneRun (init defaultSource 200 3 .snapshotRetry) twoGaps ∧
      ¬ Throughout (step .rounded) (fun s => ∀ a, s.KeepsGoodBooks .rounded a)
        (init defaultSource 200 3 .snapshotRetry) repaired := by
  constructor
  · intro h
    have hend : (run (step .rounded) (init defaultSource 200 3 .snapshotRetry) twoGaps).map
        (inFlight · btcusdt) = some 2 := by decide +kernel
    obtain ⟨s, hs, hrun⟩ := Option.map_eq_some_iff.mp hend
    have := h _ List.prefix_rfl s hs btcusdt
    omega
  · intro h
    have hend : (run (step .rounded) (init defaultSource 200 3 .snapshotRetry) repaired).map
        (fun s => (s.status btcusdt, (s.step .rounded (.taskStart 0)).map (status · btcusdt))) =
        some (some .synced, some (some .buffering)) := by decide +kernel
    obtain ⟨s, hs, hobs⟩ := Option.map_eq_some_iff.mp hend
    obtain ⟨hst, hnext⟩ := Prod.mk.inj hobs
    obtain ⟨s', hs', hst'⟩ := Option.map_eq_some_iff.mp hnext
    have := h _ List.prefix_rfl s hs (.taskStart 0) trivial s' hs' btcusdt hst
    rw [hst'] at this
    cases this

end BinanceFuturesOrderBookStream

end TradingAdvisor
