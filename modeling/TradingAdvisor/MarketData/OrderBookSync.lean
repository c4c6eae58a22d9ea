import TradingAdvisor.MarketData.OrderBook

/-!
# Local order-book synchronization

The synchronizer of one symbol: deltas are buffered while a REST snapshot is fetched, the
snapshot is bridged to the stream by one buffered delta, and every later delta is applied only
when it continues the last applied one.

    unsynced → buffering → synced → resyncRequired → buffering → …

* `startBuffering`, `onDelta`, `applySnapshot` — the three calls, each with its state change;
* `onDelta_continues`, `onDelta_gap`, `applySnapshot_spec` — what they do to the state;
* `call_inv` — the rule for an invariant of the synchronized book.
-/

namespace TradingAdvisor

open VersionedStore

/-- Internal book-synchronization state. -/
inductive SyncState
  | unsynced
  | buffering
  | synced
  | resyncRequired
  deriving DecidableEq, Repr

/-- No valid synchronization point could be established. -/
inductive OrderBookSynchronizationError
  | noBridge (lastUpdateId : ℕ) (symbol : Symbol)
  | gap (symbol : Symbol)
  deriving DecidableEq

/-- The text of the error. -/
def OrderBookSynchronizationError.message : OrderBookSynchronizationError → String
  | .noBridge lastUpdateId symbol =>
      "no buffered depth event bridges snapshot last_update_id=" ++ toString lastUpdateId ++
        " for " ++ symbol.val ++ "; fetch a fresh snapshot and retry"
  | .gap symbol =>
      "gap detected for " ++ symbol.val ++ " while draining buffered events " ++
        "after snapshot; fetch a fresh snapshot and retry"

/-- What a call of the synchronizer can raise. -/
inductive SyncFailure
  | synchronization (error : OrderBookSynchronizationError)
  /-- A materialized snapshot that its own validation refuses. -/
  | validation (message : String)
  /-- `pop` from an empty buffer, when the buffer has no room for one event. -/
  | indexError
  deriving DecidableEq

/-- The source name of a synchronized book. -/
def defaultSource : NonemptyText := ⟨"binance_futures:order_book", by decide⟩

/-! ## The local book -/

/-- The local book: quantity by price on each side. -/
structure Book where
  bids : Dict Price Volume := ∅
  asks : Dict Price Volume := ∅
  lastUpdateId : ℕ := 0
  asOf : Timestamp := 0

namespace Book

/-- The levels of one side. -/
def levels (book : Book) : BookSide → Dict Price Volume
  | .bid => book.bids
  | .ask => book.asks

/-- The book a REST snapshot starts. -/
def ofSnapshot (snapshot : OrderBookSnapshot) : Book where
  bids := ofPairs (snapshot.bids.map OrderBookLevel.pair)
  asks := ofPairs (snapshot.asks.map OrderBookLevel.pair)
  lastUpdateId := snapshot.lastUpdateId
  asOf := snapshot.timestamp

/-- Apply one delta, without a continuity check. -/
def apply (book : Book) (delta : OrderBookDeltaEvent) : Book where
  bids := applyDiff book.bids (delta.bidUpdates.map OrderBookLevel.pair)
  asks := applyDiff book.asks (delta.askUpdates.map OrderBookLevel.pair)
  lastUpdateId := delta.finalUpdateId
  asOf := delta.eventTime

/-- `delta` continues the book: its `pu` is the last applied update id. -/
def Continues (book : Book) (delta : OrderBookDeltaEvent) : Prop :=
  delta.previousFinalUpdateId = some book.lastUpdateId

instance (book : Book) (delta : OrderBookDeltaEvent) : Decidable (book.Continues delta) :=
  inferInstanceAs (Decidable (_ = _))

/-- Apply deltas while each continues the book; `false` when a gap stops it. -/
def drain (book : Book) : List OrderBookDeltaEvent → Book × Bool
  | [] => (book, true)
  | delta :: rest => if book.Continues delta then (book.apply delta).drain rest else (book, false)

@[simp] theorem apply_lastUpdateId (book : Book) (delta : OrderBookDeltaEvent) :
    (book.apply delta).lastUpdateId = delta.finalUpdateId := rfl

@[simp] theorem ofSnapshot_lastUpdateId (snapshot : OrderBookSnapshot) :
    (ofSnapshot snapshot).lastUpdateId = snapshot.lastUpdateId := rfl

theorem apply_levels (book : Book) (delta : OrderBookDeltaEvent) (side : BookSide) :
    (book.apply delta).levels side =
      applyDiff (book.levels side) ((delta.updates side).map OrderBookLevel.pair) := by
  cases side <;> rfl

theorem ofSnapshot_levels (snapshot : OrderBookSnapshot) (side : BookSide) :
    (ofSnapshot snapshot).levels side =
      ofPairs ((snapshot.levels side).map OrderBookLevel.pair) := by
  cases side <;> rfl

theorem drain_inv {P : Book → Prop} {l : List OrderBookDeltaEvent}
    (hstep : ∀ b, ∀ e ∈ l, P b → b.Continues e → P (b.apply e)) {book : Book} (h : P book) :
    P (book.drain l).1 := by
  induction l generalizing book with
  | nil => exact h
  | cons e rest ih =>
      unfold drain
      split_ifs with hc
      · exact ih (fun b e' he' => hstep b e' (List.mem_cons_of_mem _ he'))
          (hstep book e List.mem_cons_self h hc)
      · exact h

end Book

/-! ## The synchronizer -/

/-- Maintains one symbol's local order book from a REST snapshot and deltas. -/
structure OrderBookSynchronizer where
  symbol : Symbol
  contractType : ContractType
  source : NonemptyText
  maxBuffer : ℤ
  state : SyncState
  buffer : List OrderBookDeltaEvent
  book : Book

namespace OrderBookSynchronizer

/-- A new synchronizer. -/
def init (symbol : Symbol) (contractType : ContractType) (source : NonemptyText)
    (maxBuffer : ℤ) : OrderBookSynchronizer :=
  ⟨symbol, contractType, source, maxBuffer, .unsynced, [], {}⟩

/-- The two sides in the order of a snapshot, best price first. -/
def sortedLevels (book : Book) : BookSide → List OrderBookLevel
  | .bid => (sortedPairs (fun p q => q ≤ p) book.bids).map OrderBookLevel.ofPair
  | .ask => (sortedPairs (fun p q => p ≤ q) book.asks).map OrderBookLevel.ofPair

/-- The snapshot of the local book. -/
def materialize (s : OrderBookSynchronizer) : Except SyncFailure OrderBookSnapshot :=
  if h : Uncrossed (sortedLevels s.book .bid) (sortedLevels s.book .ask) then
    .ok ⟨s.symbol, s.contractType, s.book.lastUpdateId, _, _, s.source, s.book.asOf, h⟩
  else .error (.validation "best ask must not be below best bid")

/-- Start to buffer, before the REST snapshot is fetched. -/
def startBuffering (s : OrderBookSynchronizer) : OrderBookSynchronizer :=
  { s with state := .buffering, buffer := [] }

/-- Buffer one delta; a full buffer drops its oldest event. -/
def bufferDelta (s : OrderBookSynchronizer) (delta : OrderBookDeltaEvent) :
    OrderBookSynchronizer × Except SyncFailure (Option OrderBookSnapshot) :=
  if s.maxBuffer ≤ s.buffer.length then
    match s.buffer with
    | [] => (s, .error .indexError)
    | _ :: rest => ({ s with buffer := rest ++ [delta] }, .ok none)
  else ({ s with buffer := s.buffer ++ [delta] }, .ok none)

/-- Feed one incoming delta. -/
def onDelta (s : OrderBookSynchronizer) (delta : OrderBookDeltaEvent) :
    OrderBookSynchronizer × Except SyncFailure (Option OrderBookSnapshot) :=
  match s.state with
  | .buffering => s.bufferDelta delta
  | .synced =>
      if s.book.Continues delta then
        let s' := { s with book := s.book.apply delta }
        (s', s'.materialize.map some)
      else ({ s with state := .resyncRequired, book := {} }, .ok none)
  | .unsynced => (s, .ok none)
  | .resyncRequired => (s, .ok none)

/-- The snapshot's update id lies within the delta. -/
def Bridges (snapshot : OrderBookSnapshot) (delta : OrderBookDeltaEvent) : Prop :=
  delta.firstUpdateId ≤ snapshot.lastUpdateId ∧ snapshot.lastUpdateId ≤ delta.finalUpdateId

instance (snapshot : OrderBookSnapshot) : DecidablePred (Bridges snapshot) := fun delta =>
  inferInstanceAs (Decidable (delta.firstUpdateId ≤ _ ∧ _))

/-- The buffered deltas from the one that bridges the snapshot on. -/
def bridged (s : OrderBookSynchronizer) (snapshot : OrderBookSnapshot) :
    List OrderBookDeltaEvent :=
  (s.buffer.filter fun delta => snapshot.lastUpdateId ≤ delta.finalUpdateId).dropWhile
    fun delta => ¬ Bridges snapshot delta

/-- Establish the book from a REST snapshot and the buffered deltas. -/
def applySnapshot (s : OrderBookSynchronizer) (snapshot : OrderBookSnapshot) :
    OrderBookSynchronizer × Except SyncFailure OrderBookSnapshot :=
  match s.bridged snapshot with
  | [] =>
      ({ s with buffer := [], state := .unsynced },
        .error (.synchronization (.noBridge snapshot.lastUpdateId s.symbol)))
  | delta :: rest =>
      match ((Book.ofSnapshot snapshot).apply delta).drain rest with
      | (book, true) =>
          let s' := { s with buffer := [], state := .synced, book }
          (s', s'.materialize)
      | (book, false) =>
          ({ s with buffer := [], state := .resyncRequired, book },
            .error (.synchronization (.gap s.symbol)))

/-- Whether the buffered deltas take the snapshot to a synchronized book. -/
def Synchronizes (s : OrderBookSynchronizer) (snapshot : OrderBookSnapshot) : Prop :=
  match s.bridged snapshot with
  | [] => False
  | delta :: rest => (((Book.ofSnapshot snapshot).apply delta).drain rest).2 = true

instance (s : OrderBookSynchronizer) (snapshot : OrderBookSnapshot) :
    Decidable (s.Synchronizes snapshot) := by
  unfold Synchronizes
  exact match s.bridged snapshot with
  | [] => instDecidableFalse
  | _ :: _ => inferInstance

/-- A call of the synchronizer. -/
inductive SyncCall
  | startBuffering
  | onDelta (delta : OrderBookDeltaEvent)
  | applySnapshot (snapshot : OrderBookSnapshot)

/-- The state after a call, and the snapshot the call returns or what it raises. -/
def call (s : OrderBookSynchronizer) :
    SyncCall → OrderBookSynchronizer × Except SyncFailure (Option OrderBookSnapshot)
  | .startBuffering => (s.startBuffering, .ok none)
  | .onDelta delta => s.onDelta delta
  | .applySnapshot snapshot =>
      ((s.applySnapshot snapshot).1, (s.applySnapshot snapshot).2.map some)

/-- The state after a list of calls. -/
def calls (s : OrderBookSynchronizer) (cs : List SyncCall) : OrderBookSynchronizer :=
  cs.foldl (fun s c => (s.call c).1) s

/-- The deltas a list of calls delivers, in order. -/
def delivered (cs : List SyncCall) : List OrderBookDeltaEvent :=
  cs.filterMap fun
    | .onDelta delta => some delta
    | _ => none

/-! ## What the calls do -/

section Calls

variable {s : OrderBookSynchronizer} {snapshot : OrderBookSnapshot} {delta : OrderBookDeltaEvent}

theorem mem_buffer_of_mem_bridged (h : delta ∈ s.bridged snapshot) : delta ∈ s.buffer :=
  List.mem_of_mem_filter ((List.dropWhile_sublist _).mem h)

theorem bridges_of_bridged {rest : List OrderBookDeltaEvent}
    (h : s.bridged snapshot = delta :: rest) : Bridges snapshot delta := by
  have hne : s.bridged snapshot ≠ [] := by simp [h]
  have hhead : decide (¬ Bridges snapshot ((s.bridged snapshot).head hne)) = false :=
    List.head_dropWhile_not (fun delta => decide (¬ Bridges snapshot delta)) hne
  simpa [h] using hhead

theorem bufferDelta_state : (s.bufferDelta delta).1.state = s.state := by
  unfold bufferDelta
  split_ifs with hlen
  · cases s.buffer <;> rfl
  · rfl

theorem mem_bufferDelta {e : OrderBookDeltaEvent} (h : e ∈ (s.bufferDelta delta).1.buffer) :
    e ∈ s.buffer ∨ e = delta := by
  unfold bufferDelta at h
  split_ifs at h with hlen
  · cases hb : s.buffer with
    | nil => simp [hb] at h
    | cons d rest =>
        simp only [hb, List.mem_append, List.mem_singleton] at h
        exact h.imp_left (List.mem_cons_of_mem d)
  · simpa using h

theorem onDelta_continues (h : s.state = .synced) (hc : s.book.Continues delta) :
    s.onDelta delta = ({ s with book := s.book.apply delta },
      (materialize { s with book := s.book.apply delta }).map some) := by
  simp only [onDelta, h, if_pos hc]

theorem onDelta_gap (h : s.state = .synced) (hc : ¬ s.book.Continues delta) :
    s.onDelta delta = ({ s with state := .resyncRequired, book := {} }, .ok none) := by
  simp only [onDelta, h, if_neg hc]

theorem onDelta_buffering (h : s.state = .buffering) : s.onDelta delta = s.bufferDelta delta := by
  simp only [onDelta, h]

theorem onDelta_idle (h : s.state = .unsynced ∨ s.state = .resyncRequired) :
    s.onDelta delta = (s, .ok none) := by
  rcases h with h | h <;> simp only [onDelta, h]

theorem onDelta_synced_iff (h : s.state = .synced) :
    (s.onDelta delta).1.state = .synced ↔ s.book.Continues delta := by
  by_cases hc : s.book.Continues delta
  · simp [onDelta_continues h hc, h, hc]
  · simp [onDelta_gap h hc, hc]

/-- A snapshot ends in one of three states, always with an empty buffer. -/
theorem applySnapshot_cases (s : OrderBookSynchronizer) (snapshot : OrderBookSnapshot) :
    (s.bridged snapshot = [] ∧ s.applySnapshot snapshot =
        ({ s with buffer := [], state := .unsynced },
          .error (.synchronization (.noBridge snapshot.lastUpdateId s.symbol)))) ∨
    ∃ delta rest book, s.bridged snapshot = delta :: rest ∧
      (((Book.ofSnapshot snapshot).apply delta).drain rest = (book, true) ∧
        s.applySnapshot snapshot = ({ s with buffer := [], state := .synced, book },
          materialize { s with buffer := [], state := .synced, book }) ∨
      ((Book.ofSnapshot snapshot).apply delta).drain rest = (book, false) ∧
        s.applySnapshot snapshot = ({ s with buffer := [], state := .resyncRequired, book },
          .error (.synchronization (.gap s.symbol)))) := by
  cases hb : s.bridged snapshot with
  | nil => exact .inl ⟨rfl, by simp only [applySnapshot, hb]⟩
  | cons delta rest =>
      rcases hd : ((Book.ofSnapshot snapshot).apply delta).drain rest with ⟨book, ok⟩
      refine .inr ⟨delta, rest, book, rfl, ?_⟩
      cases ok with
      | true => exact .inl ⟨hd, by simp only [applySnapshot, hb, hd]⟩
      | false => exact .inr ⟨hd, by simp only [applySnapshot, hb, hd]⟩

/-- The book is synchronized after a snapshot exactly when the buffer bridges it without a gap;
otherwise the call raises a synchronization error. -/
theorem applySnapshot_spec (s : OrderBookSynchronizer) (snapshot : OrderBookSnapshot) :
    (s.Synchronizes snapshot ∧ (s.applySnapshot snapshot).1.state = .synced ∧
        (s.applySnapshot snapshot).2 = (s.applySnapshot snapshot).1.materialize) ∨
    (¬ s.Synchronizes snapshot ∧ (s.applySnapshot snapshot).1.state ≠ .synced ∧
        ∃ error, (s.applySnapshot snapshot).2 = .error (.synchronization error)) := by
  rcases applySnapshot_cases s snapshot with
    ⟨hb, h⟩ | ⟨delta, rest, book, hb, ⟨hd, h⟩ | ⟨hd, h⟩⟩
  · exact .inr ⟨by simp [Synchronizes, hb], by simp [h], _, by rw [h]⟩
  · exact .inl ⟨by simp [Synchronizes, hb, hd], by simp [h], by rw [h]⟩
  · exact .inr ⟨by simp [Synchronizes, hb, hd], by simp [h], _, by rw [h]⟩

theorem map_some_eq_ok {ε β : Type} {r : Except ε β} {v : β} :
    r.map some = .ok (some v) ↔ r = .ok v := by
  cases r <;> simp [Except.map]

theorem bufferDelta_ne_snapshot : (s.bufferDelta delta).2 ≠ .ok (some snapshot) := by
  unfold bufferDelta
  split_ifs with hlen
  · cases s.buffer <;> simp
  · simp

theorem materialize_of_call {c : SyncCall} (h : (s.call c).2 = .ok (some snapshot)) :
    (s.call c).1.state = .synced ∧ (s.call c).1.materialize = .ok snapshot := by
  cases c with
  | startBuffering => cases h
  | onDelta delta =>
      simp only [call] at h ⊢
      cases hs : s.state with
      | unsynced => rw [onDelta_idle (.inl hs)] at h; cases h
      | resyncRequired => rw [onDelta_idle (.inr hs)] at h; cases h
      | buffering => rw [onDelta_buffering hs] at h; exact absurd h bufferDelta_ne_snapshot
      | synced =>
          by_cases hc : s.book.Continues delta
          · rw [onDelta_continues hs hc] at h ⊢
            exact ⟨hs, map_some_eq_ok.mp h⟩
          · rw [onDelta_gap hs hc] at h
            cases h
  | applySnapshot snap =>
      simp only [call] at h ⊢
      have hres := map_some_eq_ok.mp h
      rcases applySnapshot_spec s snap with ⟨-, hst, hmat⟩ | ⟨-, -, e, hmat⟩
      · exact ⟨hst, hmat ▸ hres⟩
      · rw [hmat] at hres
        cases hres

/-- A delta leaves the synchronization state alone, except for a gap. -/
theorem onDelta_state (s : OrderBookSynchronizer) (delta : OrderBookDeltaEvent) :
    (s.onDelta delta).1.state = s.state ∨
      s.state = .synced ∧ ¬ s.book.Continues delta ∧
        (s.onDelta delta).1.state = .resyncRequired := by
  cases hs : s.state with
  | unsynced => rw [onDelta_idle (.inl hs)]; exact .inl hs
  | resyncRequired => rw [onDelta_idle (.inr hs)]; exact .inl hs
  | buffering => rw [onDelta_buffering hs, bufferDelta_state]; exact .inl hs
  | synced =>
      by_cases hc : s.book.Continues delta
      · rw [onDelta_continues hs hc]; exact .inl hs
      · rw [onDelta_gap hs hc]; exact .inr ⟨rfl, hc, rfl⟩

theorem onDelta_resync_iff : (s.onDelta delta).1.state = .resyncRequired ↔
    s.state = .resyncRequired ∨ s.state = .synced ∧ ¬ s.book.Continues delta := by
  rcases onDelta_state s delta with hkeep | ⟨hs, hc, hst⟩
  · rw [hkeep]
    refine ⟨.inl, fun h => h.elim id fun ⟨hs, hc⟩ => absurd ?_ hc⟩
    exact (onDelta_synced_iff hs).mp (hkeep.trans hs)
  · exact ⟨fun _ => .inr ⟨hs, hc⟩, fun _ => hst⟩

theorem onDelta_resyncRequired (h : (s.onDelta delta).1.state = .resyncRequired) :
    (s.onDelta delta).2 = .ok none := by
  cases hs : s.state with
  | unsynced => rw [onDelta_idle (.inl hs)]
  | resyncRequired => rw [onDelta_idle (.inr hs)]
  | buffering =>
      rw [onDelta_buffering hs, bufferDelta_state, hs] at h
      cases h
  | synced =>
      by_cases hc : s.book.Continues delta
      · rw [onDelta_continues hs hc] at h
        simp [hs] at h
      · rw [onDelta_gap hs hc]

end Calls

/-! ## The materialized snapshot -/

theorem materialize_ok {s : OrderBookSynchronizer} {snapshot : OrderBookSnapshot}
    (h : s.materialize = .ok snapshot) :
    snapshot.lastUpdateId = s.book.lastUpdateId ∧
      ∀ side, snapshot.levels side = sortedLevels s.book side := by
  unfold materialize at h
  split_ifs at h with hu
  cases h
  exact ⟨rfl, fun side => by cases side <;> rfl⟩

theorem materialize_cases (s : OrderBookSynchronizer) :
    (∃ snapshot, s.materialize = .ok snapshot) ∨
      s.materialize = .error (.validation "best ask must not be below best bid") := by
  unfold materialize
  split_ifs
  · exact .inl ⟨_, rfl⟩
  · exact .inr rfl

theorem mem_sortedLevels {book : Book} {side : BookSide} {level : OrderBookLevel} :
    level ∈ sortedLevels book side ↔
      (book.levels side).lookup level.price = some level.quantity := by
  have hmem : ∀ l : List (Price × Volume),
      level ∈ l.map OrderBookLevel.ofPair ↔ (level.price, level.quantity) ∈ l := by
    intro l
    simp only [List.mem_map]
    constructor
    · rintro ⟨kv, hkv, rfl⟩
      exact hkv
    · exact fun h => ⟨_, h, rfl⟩
  cases side with
  | bid => exact (hmem _).trans (lookup_sortedPairs _ _)
  | ask => exact (hmem _).trans (lookup_sortedPairs _ _)

/-- Each side of a snapshot comes in strict order, best price first. -/
theorem sortedLevels_pairwise (book : Book) (side : BookSide) :
    (sortedLevels book side).Pairwise (Better side) := by
  cases side with
  | bid =>
      refine List.pairwise_map.mpr ((sortedPairs_pairwise_ne _ _).imp fun h => ?_)
      exact lt_of_le_of_ne h.1 (Ne.symm h.2)
  | ask =>
      refine List.pairwise_map.mpr ((sortedPairs_pairwise_ne _ _).imp fun h => ?_)
      exact lt_of_le_of_ne h.1 h.2

/-! ## Invariants of the synchronized book -/

/-- Only deltas of `E` are buffered, and a synchronized book satisfies `P`. -/
structure Inv (E : List OrderBookDeltaEvent) (P : Book → Prop) (s : OrderBookSynchronizer) :
    Prop where
  buffered : ∀ e ∈ s.buffer, e ∈ E
  book : s.state = .synced → P s.book

variable {E : List OrderBookDeltaEvent} {P : Book → Prop}

/-- **The invariant rule**: a property of the synchronized book is kept by every call when the
delta that bridges a snapshot establishes it and every delta that continues the book keeps it. -/
theorem call_inv (hstep : ∀ b, ∀ e ∈ E, P b → b.Continues e → P (b.apply e))
    {s : OrderBookSynchronizer} {c : SyncCall} (hs : Inv E P s)
    (hdelta : ∀ e, c = .onDelta e → e ∈ E)
    (hboot : ∀ snapshot, c = .applySnapshot snapshot → ∀ e ∈ E, Bridges snapshot e →
      P ((Book.ofSnapshot snapshot).apply e)) : Inv E P (s.call c).1 := by
  cases c with
  | startBuffering => exact ⟨by simp [call, startBuffering], by simp [call, startBuffering]⟩
  | onDelta delta =>
      have hmem := hdelta delta rfl
      simp only [call]
      cases hst : s.state with
      | unsynced => rw [onDelta_idle (.inl hst)]; exact hs
      | resyncRequired => rw [onDelta_idle (.inr hst)]; exact hs
      | buffering =>
          rw [onDelta_buffering hst]
          refine ⟨fun e he => ?_, fun h => ?_⟩
          · rcases mem_bufferDelta he with he | rfl
            · exact hs.buffered e he
            · exact hmem
          · rw [bufferDelta_state, hst] at h
            cases h
      | synced =>
          by_cases hc : s.book.Continues delta
          · rw [onDelta_continues hst hc]
            exact ⟨hs.buffered, fun _ => hstep _ delta hmem (hs.book hst) hc⟩
          · rw [onDelta_gap hst hc]
            exact ⟨hs.buffered, fun h => by cases h⟩
  | applySnapshot snapshot =>
      simp only [call]
      rcases applySnapshot_cases s snapshot with
        ⟨hb, h⟩ | ⟨delta, rest, book, hb, ⟨hd, h⟩ | ⟨hd, h⟩⟩
      · rw [h]; exact ⟨by simp, fun h => by cases h⟩
      · rw [h]
        have hE : ∀ e ∈ delta :: rest, e ∈ E := fun e he =>
          hs.buffered e (mem_buffer_of_mem_bridged (hb ▸ he))
        refine ⟨by simp, fun _ => ?_⟩
        have hinv := Book.drain_inv (P := P) (l := rest)
          (fun b e he => hstep b e (hE e (List.mem_cons_of_mem _ he)))
          (hboot snapshot rfl delta (hE delta List.mem_cons_self) (bridges_of_bridged hb))
        rwa [hd] at hinv
      · rw [h]; exact ⟨by simp, fun h => by cases h⟩

/-- The rule over a whole list of calls. -/
theorem calls_inv (hstep : ∀ b, ∀ e ∈ E, P b → b.Continues e → P (b.apply e))
    {cs : List SyncCall} (hdelta : ∀ e ∈ delivered cs, e ∈ E)
    (hboot : ∀ snapshot, .applySnapshot snapshot ∈ cs → ∀ e ∈ E, Bridges snapshot e →
      P ((Book.ofSnapshot snapshot).apply e)) {s : OrderBookSynchronizer} (hs : Inv E P s) :
    Inv E P (s.calls cs) := by
  induction cs generalizing s with
  | nil => exact hs
  | cons c cs ih =>
      refine ih (fun e he => hdelta e ?_)
        (fun snapshot h => hboot snapshot (List.mem_cons_of_mem _ h))
        (call_inv hstep hs (fun e hc => hdelta e ?_) fun snapshot hc => hboot snapshot ?_)
      · simp only [delivered, List.filterMap_cons]
        split
        · exact he
        · exact List.mem_cons_of_mem _ he
      · subst hc
        simp [delivered]
      · subst hc
        exact List.mem_cons_self

theorem init_inv (symbol : Symbol) (contractType : ContractType) (source : NonemptyText)
    (maxBuffer : ℤ) : Inv E P (init symbol contractType source maxBuffer) :=
  ⟨by simp [init], fun h => by cases h⟩

end OrderBookSynchronizer

end TradingAdvisor
