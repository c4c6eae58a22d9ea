import TradingAdvisor.Flow.OrderBookFeatures
import TradingAdvisor.MarketData.OrderBookSoundness

/-!
# What a depth band knows

The local book grown from a depth-limited snapshot holds the true levels it has seen: those the
snapshot listed and those a later event touched. A band is reported as valid from the number of
retained levels or from the distance of the last one, so it may miss levels it never saw.

* `Seen` — the prices the local book knows at an update id;
* `seen_tracks` — the local book is the true book on the seen prices;
* **`bandDepth_true`**: a valid band whose true levels have all been seen reports the true depth.
-/

namespace TradingAdvisor

open VersionedStore SignificantDigits OrderBookSynchronizer

/-! ## Lists cut to the levels that have been seen -/

section Filter

variable {α : Type} {p q : α → Prop} [DecidablePred p] [DecidablePred q] {l : List α}

theorem take_filter_of_forall {n : ℕ} (h : ∀ a ∈ l.take n, p a) :
    (l.filter p).take n = l.take n := by
  induction l generalizing n with
  | nil => rfl
  | cons a l ih =>
      cases n with
      | zero => rfl
      | succ n =>
          rw [List.take_succ_cons] at h ⊢
          have ha : p a := h a List.mem_cons_self
          rw [List.filter_cons_of_pos (by simpa using ha), List.take_succ_cons,
            ih fun b hb => h b (List.mem_cons_of_mem _ hb)]

theorem filter_filter_of_forall (h : ∀ a ∈ l.filter q, p a) :
    (l.filter p).filter q = l.filter q := by
  rw [List.filter_filter]
  refine List.filter_congr fun a ha => ?_
  by_cases hq : q a
  · simp [hq, h a (List.mem_filter.mpr ⟨ha, by simpa using hq⟩)]
  · simp [hq]

theorem head?_filter_of_forall (h : ∀ a ∈ l.head?, p a) : (l.filter p).head? = l.head? := by
  cases l with
  | nil => rfl
  | cons a l => rw [List.filter_cons_of_pos (by simpa using h a rfl)]; rfl

end Filter

/-! ## The seen prices -/

/-- The prices the local book knows at update id `u`: listed in the snapshot, or in an event
applied since. -/
def Seen (x : Exchange) (snapshot : OrderBookSnapshot) (u : ℕ) (side : BookSide) (p : Price) :
    Prop :=
  p ∈ prices (snapshot.levels side) ∨ ∃ e ∈ x.events, snapshot.lastUpdateId ≤ e.finalUpdateId ∧
    e.finalUpdateId ≤ u ∧ p ∈ prices (e.updates side)

section Tracks

variable {x : Exchange} {snapshot : OrderBookSnapshot} {e : OrderBookDeltaEvent}

/-- The local book is the true book on the seen prices. -/
def SeenBook (x : Exchange) (snapshot : OrderBookSnapshot) (book : Book) : Prop :=
  snapshot.lastUpdateId ≤ book.lastUpdateId ∧
    book.Tracks x fun side => {p | Seen x snapshot book.lastUpdateId side p}

/-- Between two update ids without another event, only the prices of the event are new. -/
theorem seen_of_between {u : ℕ} (hnone : ∀ e' ∈ x.events, snapshot.lastUpdateId ≤ e'.finalUpdateId →
      e'.finalUpdateId ≤ e.finalUpdateId → e'.finalUpdateId ≤ u ∨ e' = e)
    {side : BookSide} {p : Price} (h : Seen x snapshot e.finalUpdateId side p) :
    Seen x snapshot u side p ∨ p ∈ prices (e.updates side) := by
  rcases h with h | ⟨e', he', hlo, hhi, hp⟩
  · exact .inl (.inl h)
  · rcases hnone e' he' hlo hhi with hle | rfl
    · exact .inl (.inr ⟨e', he', hlo, hle, hp⟩)
    · exact .inr hp

theorem Seen.mono {u v : ℕ} (huv : u ≤ v) {side : BookSide} {p : Price}
    (h : Seen x snapshot u side p) : Seen x snapshot v side p :=
  h.imp_right fun ⟨e, he, hlo, hhi, hp⟩ => ⟨e, he, hlo, hhi.trans huv, hp⟩

theorem seenBook_apply {book : Book} (h : SeenBook x snapshot book) (he : e ∈ x.events)
    (hc : book.Continues e) : SeenBook x snapshot (book.apply e) := by
  have hlt := Exchange.lt_final_of_previous he hc
  have hid : snapshot.lastUpdateId ≤ e.finalUpdateId := h.1.trans hlt.le
  refine ⟨hid, fun side => (h.2.apply_continues he hc side).enlarge ?_ ?_⟩
  · rintro p (hp | hp)
    · exact Seen.mono hlt.le hp
    · exact .inr ⟨e, he, hid, le_rfl, hp⟩
  · intro p hp hnot
    refine absurd (seen_of_between (fun e' he' _ hhi => ?_) hp) hnot
    rcases hhi.eq_or_lt with heq | hlt'
    · exact .inr (Exchange.eq_of_final_eq he' he heq)
    · exact .inl (Exchange.final_le_previous he he' hc hlt')

theorem seenBook_bridges (h : ∀ side, ∀ level ∈ snapshot.levels side,
      x.book side snapshot.lastUpdateId level.price = level.quantity ∧ level.quantity ≠ 0)
    (he : e ∈ x.events) (hb : Bridges snapshot e) :
    SeenBook x snapshot ((Book.ofSnapshot snapshot).apply e) := by
  obtain ⟨pu, hpu, hpu', -⟩ := x.carries e he
  refine ⟨hb.2, fun side => ((Book.tracks_ofSnapshot h).apply_bridges he hb side).enlarge ?_ ?_⟩
  · rintro p (hp | hp)
    · exact .inl hp
    · exact .inr ⟨e, he, hb.2, le_rfl, hp⟩
  · intro p hp hnot
    rcases hp with hp | ⟨e', he', hlo, hhi, hp⟩
    · exact absurd (.inl hp) hnot
    · rcases Nat.eq_or_lt_of_le hhi with heq | hlt
      · exact absurd (.inr (Exchange.eq_of_final_eq he' he heq ▸ hp)) hnot
      · have hle := Exchange.final_le_previous he he' hpu hlt
        have := hb.1
        omega

end Tracks

/-! ## A book grown from one snapshot -/

/-- The calls that build a book: buffer, apply the snapshot, feed every later event. -/
def growCalls (buffered : List OrderBookDeltaEvent) (snapshot : OrderBookSnapshot)
    (later : List OrderBookDeltaEvent) : List SyncCall :=
  .startBuffering :: (buffered.map .onDelta ++ .applySnapshot snapshot :: later.map .onDelta)

theorem delivered_growCalls (buffered later : List OrderBookDeltaEvent)
    (snapshot : OrderBookSnapshot) :
    delivered (growCalls buffered snapshot later) = buffered ++ later := by
  have hmap (l : List OrderBookDeltaEvent) : delivered (l.map .onDelta) = l := by
    induction l with
    | nil => rfl
    | cons e l ih => simp [delivered]
  simp only [growCalls, delivered] at hmap ⊢
  simp [List.filterMap_append, hmap]

section Grow

variable {x : Exchange} {snapshot : OrderBookSnapshot} {limit : ℕ}
  {buffered later : List OrderBookDeltaEvent} {s₀ : OrderBookSynchronizer}

theorem OrderBookSnapshot.IsDepthLimited.sound (h : snapshot.IsDepthLimited x limit) :
    ∀ side, ∀ level ∈ snapshot.levels side,
      x.book side snapshot.lastUpdateId level.price = level.quantity ∧ level.quantity ≠ 0 := by
  obtain ⟨full, hfull, htake⟩ := h
  intro side level hlevel
  rw [htake] at hlevel
  exact (hfull.complete side level).mp (List.mem_of_mem_take hlevel)

/-- **The local book grown from a depth-limited snapshot is the true book on the seen prices.** -/
theorem seen_tracks (hlimit : snapshot.IsDepthLimited x limit)
    (hevents : buffered ++ later <:+: x.events) :
    (s₀.calls (growCalls buffered snapshot later)).state = .synced →
      SeenBook x snapshot (s₀.calls (growCalls buffered snapshot later)).book := by
  have hstart : Inv x.events (SeenBook x snapshot) s₀.startBuffering :=
    ⟨by simp [startBuffering], fun h => by cases h⟩
  refine (calls_inv (fun b e he h hc => seenBook_apply h he hc) (fun e he => ?_)
    (fun snap hsnap e he hb => ?_) hstart).book
  · refine hevents.subset ?_
    rw [← delivered_growCalls buffered later snapshot]
    exact he
  · have hmem : snap = snapshot := by
      rcases List.mem_append.mp hsnap with h | h
      · simp at h
      · rcases List.mem_cons.mp h with h | h
        · exact SyncCall.applySnapshot.inj h
        · simp at h
    exact hmem ▸ seenBook_bridges (hmem ▸ hlimit.sound) he (hmem ▸ hb)

open Classical in
/-- Each side of the local snapshot is the true side cut to the seen levels. -/
theorem local_levels_eq {s : OrderBookSynchronizer} (hbook : SeenBook x snapshot s.book)
    {localBook : OrderBookSnapshot} (hm : s.materialize = .ok localBook)
    {full : BookSide → List OrderBookLevel} (hfull : x.Listing s.book.lastUpdateId full)
    (side : BookSide) : localBook.levels side =
      (full side).filter fun level => Seen x snapshot s.book.lastUpdateId side level.price := by
  rw [(materialize_ok hm).2]
  have : Std.Antisymm (Better side) := ⟨fun a b h h' => absurd h' (Std.Asymm.asymm a b h)⟩
  have : Std.Irrefl (Better side) := ⟨fun a h => Std.Asymm.asymm a a h h⟩
  refine (sortedLevels_pairwise s.book side).eq_of_mem_iff ((hfull.sorted side).filter _) ?_
  intro level
  rw [mem_sortedLevels, hbook.2 side level.price level.quantity, List.mem_filter,
    decide_eq_true_iff, hfull.complete, and_comm]
  rfl

end Grow

/-! ## The depth of a band -/

variable (R : Rounding)

/-- The levels of one side that belong to a band. -/
def bandLevels (mid : Option ℚ) (band : DepthBand) (levels : List OrderBookLevel) :
    List OrderBookLevel :=
  match band.reach, mid with
  | .topN n, _ => levels.take n
  | .maxDistanceBps bps, some mid =>
      levels.filter fun level => midDistance R mid level ≤ maxDistance R mid bps
  | .maxDistanceBps _, none => []

/-- The depth of one side of a complete book within a band. -/
def trueDepth (full : BookSide → List OrderBookLevel) (band : DepthBand) (side : BookSide) : ℚ :=
  depth R (bandLevels R (midPrice R (full .bid) (full .ask)) band (full side))

/-- The best level of each side and every true level within the band has been seen. -/
structure BandSeen (x : Exchange) (snapshot : OrderBookSnapshot) (u : ℕ)
    (full : BookSide → List OrderBookLevel) (band : DepthBand) : Prop where
  best : ∀ side, ∀ level ∈ (full side).head?, Seen x snapshot u side level.price
  within : ∀ side,
    ∀ level ∈ bandLevels R (midPrice R (full .bid) (full .ask)) band (full side),
      Seen x snapshot u side level.price

variable {R}

theorem sideBandDepth_eq {levels : List OrderBookLevel} {band : DepthBand} {mid : Option ℚ}
    {d : ℚ} {covered : Bool} (h : sideBandDepth R levels band mid = (some d, covered)) :
    d = depth R (bandLevels R mid band levels) := by
  unfold sideBandDepth at h
  unfold bandLevels
  cases hlast : levels.getLast? with
  | none => rw [hlast] at h; cases h
  | some worst =>
      rw [hlast] at h
      cases hreach : band.reach with
      | topN n =>
          rw [hreach] at h
          exact (Option.some.inj (Prod.mk.inj h).1).symm
      | maxDistanceBps bps =>
          rw [hreach] at h
          cases mid with
          | none => cases h
          | some mid =>
              simp only at h
              split_ifs at h
              · cases h
              · exact (Option.some.inj (Prod.mk.inj h).1).symm

theorem bandLevels_filter {p : OrderBookLevel → Prop} [DecidablePred p] {mid : Option ℚ}
    {band : DepthBand} {levels : List OrderBookLevel}
    (h : ∀ level ∈ bandLevels R mid band levels, p level) :
    bandLevels R mid band (levels.filter p) = bandLevels R mid band levels := by
  unfold bandLevels at h ⊢
  cases hreach : band.reach with
  | topN n =>
      simp only [hreach] at h ⊢
      exact take_filter_of_forall h
  | maxDistanceBps bps =>
      cases mid with
      | none => rfl
      | some mid =>
          simp only [hreach] at h ⊢
          exact filter_filter_of_forall h

theorem mem_of_mem_bandLevels {mid : Option ℚ} {band : DepthBand} {levels : List OrderBookLevel}
    {level : OrderBookLevel} (h : level ∈ bandLevels R mid band levels) : level ∈ levels := by
  unfold bandLevels at h
  cases hreach : band.reach with
  | topN n =>
      rw [hreach] at h
      exact List.mem_of_mem_take h
  | maxDistanceBps bps =>
      rw [hreach] at h
      cases mid with
      | none => simp at h
      | some mid => exact List.mem_of_mem_filter h

/-- A band that is not unavailable has both depths. -/
theorem bandFeatures_depths {band : DepthBand} {snapshot : OrderBookSnapshot}
    {history : List OrderBookSnapshot} {windows : List AnalyticsWindow}
    {observationTime : Timestamp} {freshness : FeatureQuality} {reason : Option FeatureReason}
    (h : (bandFeatures R band snapshot history windows observationTime freshness
        reason).status.quality
      ≠ .unavailable) :
    let mid := midPrice R snapshot.bids snapshot.asks
    let f := bandFeatures R band snapshot history windows observationTime freshness reason
    f.bidDepth = some (depth R (bandLevels R mid band snapshot.bids)) ∧
      f.askDepth = some (depth R (bandLevels R mid band snapshot.asks)) := by
  intro mid
  rcases hbid : sideBandDepth R snapshot.bids band mid with ⟨bid, bidCovered⟩
  rcases hask : sideBandDepth R snapshot.asks band mid with ⟨ask, askCovered⟩
  simp only [bandFeatures, mid, hbid, hask] at h ⊢
  cases bid with
  | none => simp at h
  | some bid =>
      cases ask with
      | none => simp at h
      | some ask => rw [sideBandDepth_eq hbid, sideBandDepth_eq hask]; exact ⟨rfl, rfl⟩

theorem midPrice_congr {bids bids' asks asks' : List OrderBookLevel}
    (hbid : bids.head? = bids'.head?) (hask : asks.head? = asks'.head?) :
    midPrice R bids asks = midPrice R bids' asks' := by
  rw [midPrice, midPrice, hbid, hask]

/-- **A valid band whose true levels have all been seen reports the true depth.** -/
theorem bandDepth_true (R : Rounding) (x : Exchange) (s₀ : OrderBookSynchronizer)
    (snapshot localBook : OrderBookSnapshot) (limit : ℕ)
    (buffered later : List OrderBookDeltaEvent) (full : BookSide → List OrderBookLevel)
    (symbol : Symbol) (contractType : ContractType) (history : List OrderBookSnapshot)
    (bands : List DepthBand) (windows : List AnalyticsWindow) (observationTime : Timestamp)
    (source : NonemptyText) (maxStaleness : ℤ) (label : String) (f : DepthBandFeatures)
    (hlimit : snapshot.IsDepthLimited x limit) (hevents : buffered ++ later <:+: x.events)
    (hsynced : (s₀.calls (growCalls buffered snapshot later)).state = .synced)
    (hlocal : (s₀.calls (growCalls buffered snapshot later)).materialize = .ok localBook)
    (hfull : x.Listing localBook.lastUpdateId full)
    (hlatest : latestAtOrBefore history OrderBookSnapshot.timestamp observationTime =
      some localBook)
    (hf : (computeOrderBookFeatures R symbol contractType history bands windows observationTime
      source maxStaleness).bands.lookup label = some f)
    (hvalid : f.status.quality = .valid)
    (hseen : BandSeen R x snapshot localBook.lastUpdateId full f.band) :
    f.bidDepth = some (trueDepth R full f.band .bid) ∧
      f.askDepth = some (trueDepth R full f.band .ask) := by
  classical
  have hid := (materialize_ok hlocal).1
  rw [hid] at hfull hseen
  have hlevels := local_levels_eq (seen_tracks hlimit hevents hsynced) hlocal hfull
  obtain ⟨band, rfl⟩ : ∃ band, bandFeatures R band localBook history windows observationTime
      (if maxStaleness < observationTime - localBook.timestamp then .stale else .valid)
      (if maxStaleness < observationTime - localBook.timestamp then
        some (.staleSnapshot (observationTime - localBook.timestamp) maxStaleness) else none) =
      f := by
    simp only [computeOrderBookFeatures, hlatest] at hf
    rcases mem_of_lookup_foldl_insert hf with h | ⟨band, -, h⟩
    · simp at h
    · exact ⟨band, h⟩
  have hmid : midPrice R localBook.bids localBook.asks = midPrice R (full .bid) (full .ask) := by
    refine midPrice_congr ?_ ?_
    · rw [show localBook.bids = localBook.levels .bid from rfl, hlevels]
      exact head?_filter_of_forall (hseen.best .bid)
    · rw [show localBook.asks = localBook.levels .ask from rfl, hlevels]
      exact head?_filter_of_forall (hseen.best .ask)
  have hband (side : BookSide) :
      bandLevels R (midPrice R (full .bid) (full .ask)) band (localBook.levels side) =
        bandLevels R (midPrice R (full .bid) (full .ask)) band (full side) := by
    rw [hlevels]
    exact bandLevels_filter (hseen.within side)
  obtain ⟨hbid, hask⟩ := bandFeatures_depths (by rw [hvalid]; decide)
  rw [hbid, hask, hmid]
  exact ⟨congrArg some (congrArg (depth R) (hband .bid)),
    congrArg some (congrArg (depth R) (hband .ask))⟩

/-! ## A best bid that moves below the snapshot

The bids are `1` at `100` and `5` at `99`; at update id `5` the best one disappears and `2` are
bid at `98`. -/

/-- The quantity a list of levels gives a price. -/
def quantityAt : List OrderBookLevel → Price → Volume
  | [], _ => 0
  | level :: levels, p => if level.price = p then level.quantity else quantityAt levels p

theorem mem_iff_quantityAt {levels : List OrderBookLevel} (level : OrderBookLevel)
    (hprices : levels.Pairwise fun a b => a.price ≠ b.price)
    (hpos : ∀ a ∈ levels, a.quantity ≠ 0) :
    level ∈ levels ↔ quantityAt levels level.price = level.quantity ∧ level.quantity ≠ 0 := by
  induction levels with
  | nil => simp [quantityAt, eq_comm]
  | cons b levels ih =>
      obtain ⟨hb, hrest⟩ := List.pairwise_cons.mp hprices
      rw [List.mem_cons, quantityAt]
      by_cases hp : b.price = level.price
      · have hnot : level ∉ levels := fun h => hb level h hp
        rw [if_pos hp, or_iff_left hnot]
        constructor
        · rintro rfl
          exact ⟨rfl, hpos _ List.mem_cons_self⟩
        · obtain ⟨p, q⟩ := level
          rintro ⟨rfl, -⟩
          simp only at hp
          rw [← hp]
      · have hne : level ≠ b := by rintro rfl; exact hp rfl
        rw [if_neg hp, or_iff_right hne, ih hrest fun a ha => hpos a (List.mem_cons_of_mem _ ha)]

/-- The true levels before and after the event. -/
def shrinkLevels (u : ℕ) : BookSide → List OrderBookLevel
  | .bid => if u < 5 then [⟨(100 : ℕ), 1⟩, ⟨99, 5⟩] else [⟨99, 5⟩, ⟨98, (2 : ℕ)⟩]
  | .ask => [⟨101, 1⟩]

/-- An event without levels that bridges a snapshot at `4`. -/
def quietEvent : OrderBookDeltaEvent := ⟨btcusdt, 4, 4, some 3, [], [], 0, by decide⟩

/-- The event in which the best bid disappears. -/
def shrinkEvent : OrderBookDeltaEvent :=
  ⟨btcusdt, 5, 5, some 4, [⟨(100 : ℕ), 0⟩, ⟨98, (2 : ℕ)⟩], [], 0, by decide⟩

theorem quietEvent_carries (side : BookSide) :
    Carries (fun u => quantityAt (shrinkLevels u side)) 3 4
      ((quietEvent.updates side).map OrderBookLevel.pair) := by
  refine ⟨by cases side <;> simp [quietEvent, OrderBookDeltaEvent.updates], fun p _ u _ hu => ?_⟩
  cases side with
  | bid => simp [shrinkLevels, show u < 5 by omega]
  | ask => rfl

theorem shrinkEvent_carries (side : BookSide) :
    Carries (fun u => quantityAt (shrinkLevels u side)) 4 5
      ((shrinkEvent.updates side).map OrderBookLevel.pair) := by
  cases side with
  | bid =>
      refine ⟨by decide +kernel, fun p hp u _ _ => ?_⟩
      have h100 : 100 ≠ p := by rintro rfl; exact hp ⟨0, by decide +kernel⟩
      have h98 : 98 ≠ p := by rintro rfl; exact hp ⟨2, by decide +kernel⟩
      by_cases hu : u < 5 <;> simp [shrinkLevels, quantityAt, hu, h100, h98]
  | ask => exact ⟨by simp [shrinkEvent, OrderBookDeltaEvent.updates], fun _ _ _ _ _ => rfl⟩

/-- The exchange with these two events. -/
def shrinkExchange : Exchange where
  book side u := quantityAt (shrinkLevels u side)
  events := [quietEvent, shrinkEvent]
  carries e he := by
    rcases List.mem_cons.mp he with rfl | he
    · exact ⟨3, rfl, by decide, quietEvent_carries⟩
    · obtain rfl := List.mem_singleton.mp he
      exact ⟨4, rfl, by decide, shrinkEvent_carries⟩
  chained := by decide +kernel

theorem shrinkLevels_listing (u : ℕ) : shrinkExchange.Listing u (shrinkLevels u) := by
  have hsorted (side : BookSide) : (shrinkLevels u side).Pairwise (Better side) := by
    cases side with
    | bid => unfold shrinkLevels; split_ifs <;> simp [Better] <;> decide +kernel
    | ask => simp [shrinkLevels]
  refine ⟨hsorted, fun side level => mem_iff_quantityAt level ?_ ?_⟩
  · refine (hsorted side).imp fun {a b} h hp => ?_
    cases side <;> simp [Better, hp] at h
  · cases side with
    | bid => unfold shrinkLevels; split_ifs <;> simp
    | ask => simp [shrinkLevels]

/-- The snapshot at `4` with the best `limit` levels of each side. -/
def shrinkSnapshot (limit : ℕ) (h : Uncrossed ((shrinkLevels 4 .bid).take limit)
    ((shrinkLevels 4 .ask).take limit) := by decide +kernel) : OrderBookSnapshot :=
  ⟨btcusdt, .perpetual, 4, _, _, defaultSource, 0, h⟩

theorem shrinkSnapshot_limited (limit : ℕ) (h) :
    (shrinkSnapshot limit h).IsDepthLimited shrinkExchange limit :=
  ⟨shrinkLevels 4, shrinkLevels_listing 4, fun side => by cases side <;> rfl⟩

/-- The synchronizer after both events. -/
def shrinkBook (snapshot : OrderBookSnapshot) : OrderBookSynchronizer :=
  (init btcusdt .perpetual defaultSource 2000).calls
    (growCalls [quietEvent] snapshot [shrinkEvent])

/-- A local book at update id `5`. -/
def localBook (bids : List OrderBookLevel)
    (h : Uncrossed bids (shrinkLevels 5 .ask) := by decide +kernel) : OrderBookSnapshot :=
  ⟨btcusdt, .perpetual, 5, bids, _, defaultSource, 0, h⟩

/-- The band of the best level. -/
def top1 : DepthBand := ⟨⟨"top1", by decide⟩, .topN ⟨1, by decide⟩⟩

/-- The features of this band in the default decimal context. -/
def top1Features (book : OrderBookSnapshot) : Option DepthBandFeatures :=
  (computeOrderBookFeatures .decimal28 btcusdt .perpetual [book] [top1] [] 0 defaultSource
    10000000).bands.lookup "top1"

/-- With both levels in the snapshot the new best bid has been seen. -/
theorem bandDepth_true_shrink : ∃ f, top1Features (localBook (shrinkLevels 5 .bid)) = some f ∧
    f.bidDepth = some (trueDepth .decimal28 (shrinkLevels 5) f.band .bid) ∧
    f.askDepth = some (trueDepth .decimal28 (shrinkLevels 5) f.band .ask) := by
  have heval : (top1Features (localBook (shrinkLevels 5 .bid))).map (fun f => f.status.quality) =
      some .valid := by decide +kernel
  obtain ⟨f, hf, hvalid⟩ := Option.map_eq_some_iff.mp heval
  have hseen : ∀ side, ∀ level ∈ shrinkLevels 5 side,
      Seen shrinkExchange (shrinkSnapshot 2) 5 side level.price := by
    intro side level hlevel
    cases side with
    | bid =>
        rcases List.mem_cons.mp hlevel with rfl | hlevel
        · exact .inl (mem_prices.mpr ⟨⟨99, 5⟩, by decide +kernel, rfl⟩)
        · obtain rfl := List.mem_singleton.mp hlevel
          exact .inr ⟨shrinkEvent, by decide +kernel, by decide, by decide,
            mem_prices.mpr ⟨⟨98, 2⟩, by decide +kernel, rfl⟩⟩
    | ask =>
        obtain rfl := List.mem_singleton.mp hlevel
        exact .inl (mem_prices.mpr ⟨⟨101, 1⟩, by decide +kernel, rfl⟩)
  refine ⟨f, hf, bandDepth_true .decimal28 shrinkExchange
    (init btcusdt .perpetual defaultSource 2000) (shrinkSnapshot 2)
    (localBook (shrinkLevels 5 .bid)) 2
    [quietEvent] [shrinkEvent] (shrinkLevels 5) btcusdt .perpetual _ _ _ 0 defaultSource 10000000
    "top1" f (shrinkSnapshot_limited 2 _) List.infix_rfl ?_ ?_ (shrinkLevels_listing 5) ?_ hf hvalid
    ?_⟩
  · decide +kernel
  · decide +kernel
  · decide +kernel
  · exact ⟨fun side level h => hseen side level (List.mem_of_mem_head? h),
      fun side level h => hseen side level (mem_of_mem_bandLevels h)⟩

/-- With one level in the snapshot the valid band of the best level reports `2` bid at `98`; the
true best bid is `5` at `99`. -/
theorem unseen_best_bid :
    (shrinkSnapshot 1).IsDepthLimited shrinkExchange 1 ∧
    [quietEvent] ++ [shrinkEvent] <:+: shrinkExchange.events ∧
    (shrinkBook (shrinkSnapshot 1)).state = .synced ∧
    (shrinkBook (shrinkSnapshot 1)).materialize = .ok (localBook [⟨98, 2⟩]) ∧
    shrinkExchange.Listing 5 (shrinkLevels 5) ∧
    ∃ f, top1Features (localBook [⟨98, 2⟩]) = some f ∧ f.status.quality = .valid ∧
      f.bidDepth = some 2 ∧ trueDepth .decimal28 (shrinkLevels 5) f.band .bid = 5 := by
  refine ⟨shrinkSnapshot_limited 1 _, List.infix_rfl, by decide +kernel, by decide +kernel,
    shrinkLevels_listing 5, ?_⟩
  have heval : (top1Features (localBook [⟨98, 2⟩])).map (fun f => (f.status.quality, f.bidDepth,
      trueDepth .decimal28 (shrinkLevels 5) f.band .bid)) = some (.valid, some 2, 5) := by
    decide +kernel
  obtain ⟨f, hf, hobs⟩ := Option.map_eq_some_iff.mp heval
  simp only [Prod.mk.injEq] at hobs
  exact ⟨f, hf, hobs⟩

end TradingAdvisor
