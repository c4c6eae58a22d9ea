import TradingAdvisor.Flow.FlowHistories

/-!
# Which window features are complete

A bounded history forgets its oldest events, so a window feature may miss some. Taker flow and
liquidations say so when eviction has gone past the start of their window, open interest is
unavailable when an end of its window is forgotten; funding and price context do not look at what
was evicted.

* `selectWindow_append`, `latestAtOrBefore_append` — what evicted events change;
* `not_truncated` — events that come in the order of time are missed only where it is said;
* `fundingWindow_complete_iff`, `priceContextWindow_complete_iff` — when the others are complete;
* **`flow_features_complete`**: which features of a snapshot are those of the whole history.
-/

namespace TradingAdvisor

open VersionedStore SignificantDigits BoundedBuffer

/-! ## What evicted events change -/

section Evicted

variable {α : Type} {ts : α → Timestamp} {evicted rest : List α} {time duration cutoff : ℤ}

theorem windowBounds_le (time : ℤ) (hduration : 0 < duration) :
    (windowBounds time duration).1 ≤ (windowBounds time duration).2 ∧
      (windowBounds time duration).2 ≤ time := by
  have hend := Int.ediv_mul_le time hduration.ne'
  exact ⟨by unfold windowBounds; dsimp only; omega, hend⟩

theorem selectWindow_append (h : ∀ x ∈ evicted, ts x ≤ (windowBounds time duration).1) :
    selectWindow (evicted ++ rest) ts time duration = selectWindow rest ts time duration := by
  rw [selectWindow, List.filter_append, List.filter_eq_nil_iff.mpr, List.nil_append]
  · rfl
  · intro x hx hin
    exact absurd (h x hx) (not_le.mpr (of_decide_eq_true hin).1)

/-- The count of a window says whether evicted events were in it. -/
theorem length_selectWindow_append : (selectWindow (evicted ++ rest) ts time duration).length =
    (selectWindow rest ts time duration).length ↔ selectWindow evicted ts time duration = [] := by
  rw [selectWindow, List.filter_append, List.length_append, ← List.length_eq_zero_iff]
  exact ⟨fun h => Nat.add_eq_right.mp h, fun h => Nat.add_eq_right.mpr h⟩

/-- The later of two events; of two at one time, the first. -/
def laterOf (ts : α → Timestamp) : Option α → α → Option α
  | none, item => some item
  | some b, item => if ts b < ts item then some item else some b

theorem latestAtOrBefore_eq_foldl (items : List α) : latestAtOrBefore items ts cutoff =
    (items.filter fun item => ts item ≤ cutoff).foldl (laterOf ts) none := by
  unfold latestAtOrBefore
  refine congrArg (List.foldl · none _) (funext fun best => funext fun item => ?_)
  cases best <;> rfl

theorem foldl_laterOf {l : List α} {best : Option α}
    (hbest : ∀ b ∈ best, ∀ x ∈ l, ts b < ts x) (hl : l.Pairwise fun a b => ts a < ts b) :
    l.foldl (laterOf ts) best = l.getLast?.or best := by
  induction l generalizing best with
  | nil => rfl
  | cons x l ih =>
      obtain ⟨hx, hl⟩ := List.pairwise_cons.mp hl
      have hstep : laterOf ts best x = some x := by
        cases best with
        | none => rfl
        | some b => exact if_pos (hbest b rfl x List.mem_cons_self)
      have hnext : ∀ b ∈ some x, ∀ y ∈ l, ts b < ts y := by
        rintro b ⟨⟩ y hy
        exact hx y hy
      rw [List.foldl_cons, hstep, ih hnext hl]
      cases l with
      | nil => rfl
      | cons y l => simp [List.getLast?_cons]

/-- In the order of time, the latest event at or before a cutoff is the last of these. -/
theorem latestAtOrBefore_eq_getLast? {items : List α}
    (h : items.Pairwise fun a b => ts a < ts b) :
    latestAtOrBefore items ts cutoff = (items.filter fun item => ts item ≤ cutoff).getLast? := by
  rw [latestAtOrBefore_eq_foldl, foldl_laterOf (fun _ hb => absurd hb (Option.not_mem_none _))
    (h.sublist List.filter_sublist), Option.or_none]

theorem latestAtOrBefore_append (h : (evicted ++ rest).Pairwise fun a b => ts a < ts b)
    (hsome : ∃ x ∈ rest, ts x ≤ cutoff) :
    latestAtOrBefore (evicted ++ rest) ts cutoff = latestAtOrBefore rest ts cutoff := by
  obtain ⟨x, hx, hle⟩ := hsome
  have hne : (rest.filter fun item => ts item ≤ cutoff) ≠ [] :=
    List.ne_nil_of_mem (List.mem_filter.mpr ⟨hx, decide_eq_true hle⟩)
  rw [latestAtOrBefore_eq_getLast? h, latestAtOrBefore_eq_getLast? (List.pairwise_append.mp h).2.1,
    List.filter_append, List.getLast?_append_of_ne_nil _ hne]

theorem latestAtOrBefore_isSome_iff {items : List α} (h : items.Pairwise fun a b => ts a < ts b) :
    (latestAtOrBefore items ts cutoff).isSome ↔ ∃ x ∈ items, ts x ≤ cutoff := by
  rw [latestAtOrBefore_eq_getLast? h, List.getLast?_isSome]
  simp

theorem pairwise_zipIdx {items : List α} {n : ℕ} (h : items.Pairwise fun a b => ts a < ts b) :
    (items.zipIdx n).Pairwise fun a b => ts a.1 < ts b.1 := by
  have hmap : ((items.zipIdx n).map Prod.fst).Pairwise fun a b => ts a < ts b := by
    rw [List.zipIdx_map_fst]
    exact h
  rwa [List.pairwise_map] at hmap

/-- Evicted entries shift the places of the others. -/
theorem latestEntry_append (h : (evicted ++ rest).Pairwise fun a b => ts a < ts b)
    (hsome : (latestEntry rest ts cutoff).isSome) :
    latestEntry (evicted ++ rest) ts cutoff =
      (latestEntry rest ts cutoff).map fun entry => (entry.1, evicted.length + entry.2) := by
  have hrest := pairwise_zipIdx (n := 0) (List.pairwise_append.mp h).2.1
  obtain ⟨entry, hentry, hle⟩ := (latestAtOrBefore_isSome_iff hrest).mp hsome
  have hshift : (evicted ++ rest).zipIdx =
      evicted.zipIdx ++ rest.zipIdx.map fun entry => (entry.1, evicted.length + entry.2) := by
    rw [List.zipIdx_append, Nat.zero_add]
    exact congrArg _ List.zipIdx_eq_map_add
  have hne : (rest.zipIdx.filter fun entry => ts entry.1 ≤ cutoff) ≠ [] :=
    List.ne_nil_of_mem (List.mem_filter.mpr ⟨hentry, decide_eq_true hle⟩)
  have hall := pairwise_zipIdx (n := 0) h
  rw [latestEntry, latestAtOrBefore_eq_getLast? hall, hshift, List.filter_append,
    List.getLast?_append_of_ne_nil, List.filter_map, List.getLast?_map, latestEntry,
    latestAtOrBefore_eq_getLast? hrest]
  · rfl
  · rw [List.filter_map]
    simpa using hne

/-- Events that come in the order of time and are not reported as missed are before the window. -/
theorem not_truncated (h : (evicted ++ rest).Pairwise fun a b => ts a ≤ ts b)
    (hrest : rest = [] → evicted = []) {start : Timestamp}
    (hreason : truncationReason start (earliest rest ts) evicted.length = none) :
    ∀ x ∈ evicted, ts x ≤ start := by
  intro x hx
  have hne : rest ≠ [] := fun hnil => List.ne_nil_of_mem hx (hrest hnil)
  have hmin : ∃ first, earliest rest ts = some first := by
    rw [earliest, ← Option.isSome_iff_exists, List.isSome_min?_iff]
    simpa using hne
  obtain ⟨first, hfirst⟩ := hmin
  obtain ⟨y, hy, rfl⟩ := List.mem_map.mp (List.min?_mem hfirst)
  have hle : ts x ≤ ts y := (List.pairwise_append.mp h).2.2 x hx y hy
  obtain ⟨n, hn⟩ : ∃ n, evicted.length = n + 1 :=
    Nat.exists_eq_succ_of_ne_zero (List.length_pos_of_mem hx).ne'
  rw [hn, hfirst] at hreason
  unfold truncationReason at hreason
  dsimp only at hreason
  by_contra hlt
  rw [if_pos ((not_le.mp hlt).trans_le hle)] at hreason
  cases hreason

theorem kept_eq_nil {maxlen : ℕ+} {all : List α} (h : kept maxlen all = []) :
    dropped maxlen all = [] := by
  have hlen := length_kept maxlen all
  have hpos := maxlen.pos
  rw [h, List.length_nil] at hlen
  refine List.length_eq_zero_iff.mp ?_
  rw [length_dropped]
  omega

end Evicted

theorem truncationReason_zero (start : Timestamp) (first : Option Timestamp) :
    truncationReason start first 0 = none := rfl

/-! ## Taker flow and liquidations -/

section Windows

variable {R : Rounding} {symbol : Symbol} {contractType : ContractType} {time : Timestamp}
  {source : NonemptyText} {window : AnalyticsWindow}

/-- The two features say the same about the window. -/
def TakerFlowWindowFeatures.SameWindow (f g : TakerFlowWindowFeatures) : Prop :=
  { g with
    cumulativeDelta := f.cumulativeDelta
    cumulativeDeltaSince := f.cumulativeDeltaSince } = f

theorem filter_before {α : Type} {ts : α → Timestamp} {evicted : List α} {start : Timestamp}
    {p : α → Bool} (h : ∀ x ∈ evicted, ts x ≤ start) : ∀ x ∈ evicted.filter p, ts x ≤ start :=
  fun x hx => h x (List.mem_of_mem_filter hx)

/-- A valid taker-flow feature misses no trade of its window. -/
theorem takerFlowWindow_complete {evicted rest : List FlowTrade}
    (hordered : (evicted ++ rest).Pairwise fun a b => a.timestamp ≤ b.timestamp)
    (hrest : rest = [] → evicted = [])
    (hvalid : (takerFlowWindow R symbol contractType time source rest evicted.length
      window).status.quality = .valid) :
    (takerFlowWindow R symbol contractType time source rest evicted.length window).SameWindow
      (takerFlowWindow R symbol contractType time source (evicted ++ rest) 0 window) := by
  unfold takerFlowWindow takerFlowStatus at hvalid
  dsimp only at hvalid
  split_ifs at hvalid with hcount
  · cases hvalid
  cases hreason : truncationReason (windowBounds time window.duration).1
      (earliest rest fun trade => trade.timestamp) evicted.length with
  | some reason =>
      rw [hreason] at hvalid
      cases hvalid
  | none =>
      have hbefore := not_truncated hordered hrest hreason
      unfold TakerFlowWindowFeatures.SameWindow takerFlowWindow takerFlowStatus
      dsimp only
      rw [List.filter_append, selectWindow_append (filter_before hbefore), hreason,
        truncationReason_zero]

theorem liquidationWindow_complete {evicted rest : List LiquidationEvent}
    (hordered : (evicted ++ rest).Pairwise fun a b => a.timestamp ≤ b.timestamp)
    (hrest : rest = [] → evicted = [])
    (hvalid : (liquidationWindow R symbol contractType time source rest evicted.length
      window).status.quality = .valid) :
    liquidationWindow R symbol contractType time source (evicted ++ rest) 0 window =
      liquidationWindow R symbol contractType time source rest evicted.length window := by
  unfold liquidationWindow liquidationStatus at hvalid
  dsimp only at hvalid
  cases hreason : truncationReason (windowBounds time window.duration).1
      (earliest rest LiquidationEvent.timestamp) evicted.length with
  | some reason =>
      rw [hreason] at hvalid
      cases hvalid
  | none =>
      have hbefore := not_truncated hordered hrest hreason
      unfold liquidationWindow liquidationStatus
      dsimp only
      rw [List.filter_append, selectWindow_append (filter_before hbefore), hreason,
        truncationReason_zero]

/-! ## Open interest -/

/-- Open interest that is available at both ends of a window is that of the whole history. -/
theorem openInterestWindow_complete {evicted rest : List OpenInterest} {quality : FeatureQuality}
    (hordered : (evicted ++ rest).Pairwise fun a b => a.timestamp < b.timestamp)
    (havailable : (openInterestWindow R time rest quality window).status.quality ≠ .unavailable) :
    openInterestWindow R time (evicted ++ rest) quality window =
        openInterestWindow R time rest quality window ∧
      ∃ x ∈ rest, x.timestamp ≤ (windowBounds time window.duration).1 := by
  unfold openInterestWindow at havailable
  dsimp only at havailable
  cases hlast : latestEntry rest OpenInterest.timestamp (windowBounds time window.duration).2 with
  | none =>
      rw [hlast] at havailable
      exact absurd rfl havailable
  | some last =>
      cases hfirst : latestEntry rest OpenInterest.timestamp
          (windowBounds time window.duration).1 with
      | none =>
          rw [hlast, hfirst] at havailable
          exact absurd rfl havailable
      | some first =>
          have hrest := pairwise_zipIdx (n := 0) (List.pairwise_append.mp hordered).2.1
          obtain ⟨entry, hentry, hle⟩ :=
            (latestAtOrBefore_isSome_iff hrest).mp (Option.isSome_of_eq_some hfirst)
          refine ⟨?_, entry.1, List.fst_mem_of_mem_zipIdx hentry, hle⟩
          unfold openInterestWindow
          dsimp only
          rw [latestEntry_append hordered (Option.isSome_of_eq_some hlast),
            latestEntry_append hordered (Option.isSome_of_eq_some hfirst), hlast, hfirst]
          simp only [Option.map_some, Nat.add_left_cancel_iff]

/-! ## Funding -/

variable {decimalSqrt : ℚ → ℚ} {quality : FeatureQuality}

theorem endChange_append {α : Type} {ts : α → Timestamp} {value : α → ℚ} {evicted rest : List α}
    {bounds : Timestamp × Timestamp} (hbounds : bounds.1 ≤ bounds.2)
    (hordered : (evicted ++ rest).Pairwise fun a b => ts a < ts b)
    (hstart : ∃ x ∈ rest, ts x ≤ bounds.1) :
    endChange R (evicted ++ rest) ts value bounds = endChange R rest ts value bounds := by
  obtain ⟨x, hx, hle⟩ := hstart
  rw [endChange, endChange, latestAtOrBefore_append hordered ⟨x, hx, hle⟩,
    latestAtOrBefore_append hordered ⟨x, hx, hle.trans hbounds⟩]

theorem fundingWindow_complete {evicted rest : List FundingRate}
    (hordered : (evicted ++ rest).Pairwise fun a b => a.timestamp < b.timestamp)
    (hstart : ∃ x ∈ rest, x.timestamp ≤ (windowBounds time window.duration).1) :
    fundingWindow R time decimalSqrt (evicted ++ rest) quality window =
      fundingWindow R time decimalSqrt rest quality window := by
  have hbounds := (windowBounds_le time window.duration.2).1
  obtain ⟨x, hx, hle⟩ := hstart
  have hbefore : ∀ y ∈ evicted, y.timestamp ≤ (windowBounds time window.duration).1 :=
    fun y hy => ((List.pairwise_append.mp hordered).2.2 y hy x hx).le.trans hle
  unfold fundingWindow
  dsimp only
  rw [selectWindow_append hbefore, endChange_append hbounds hordered ⟨x, hx, hle⟩,
    latestAtOrBefore_append hordered ⟨x, hx, hle⟩,
    latestAtOrBefore_append hordered ⟨x, hx, hle.trans hbounds⟩]

theorem exists_before_end {rest : List FundingRate}
    (hordered : rest.Pairwise fun a b => a.timestamp < b.timestamp)
    (havailable : (fundingWindow R time decimalSqrt rest quality window).status.quality ≠
      .unavailable) : ∃ x ∈ rest, x.timestamp ≤ (windowBounds time window.duration).2 := by
  have hbounds := (windowBounds_le time window.duration.2).1
  by_contra hnone
  simp only [not_exists, not_and, not_le] at hnone
  refine havailable ?_
  have hselect : selectWindow rest FundingRate.timestamp time window.duration = [] := by
    refine List.filter_eq_nil_iff.mpr fun x hx hin => ?_
    exact absurd (of_decide_eq_true hin).2 (not_le.mpr (hnone x hx))
  have hlatest : ∀ cutoff ≤ (windowBounds time window.duration).2,
      (latestAtOrBefore rest FundingRate.timestamp cutoff).isSome = false := by
    intro cutoff hcutoff
    rw [Bool.eq_false_iff, ne_eq, latestAtOrBefore_isSome_iff hordered]
    rintro ⟨x, hx, hle⟩
    exact absurd (hle.trans hcutoff) (not_le.mpr (hnone x hx))
  unfold fundingWindow fundingStatus
  dsimp only
  rw [hselect, hlatest _ hbounds, hlatest _ le_rfl]
  rfl

/-- **Funding over a window is that of the whole history exactly when nothing was evicted, or an
observation at or before the start of the window is retained.** -/
theorem fundingWindow_complete_iff {evicted rest : List FundingRate}
    (hordered : (evicted ++ rest).Pairwise fun a b => a.timestamp < b.timestamp)
    (havailable : (fundingWindow R time decimalSqrt rest quality window).status.quality ≠
      .unavailable) :
    fundingWindow R time decimalSqrt (evicted ++ rest) quality window =
        fundingWindow R time decimalSqrt rest quality window ↔
      evicted = [] ∨ ∃ x ∈ rest, x.timestamp ≤ (windowBounds time window.duration).1 := by
  have hrest := (List.pairwise_append.mp hordered).2.1
  constructor
  · intro heq
    by_contra hnot
    obtain ⟨hevicted, hstart⟩ := not_or.mp hnot
    obtain ⟨y, hy⟩ := List.exists_mem_of_ne_nil _ hevicted
    obtain ⟨x, hx, hle⟩ := exists_before_end hrest havailable
    have hyx := (List.pairwise_append.mp hordered).2.2 y hy x hx
    by_cases hyin : y.timestamp ≤ (windowBounds time window.duration).1
    · -- the whole history knows the start of the window, the retained one does not
      have htrend := congrArg FundingWindowFeatures.fundingTrend heq
      have hfirst : latestAtOrBefore rest FundingRate.timestamp
          (windowBounds time window.duration).1 = none := by
        rw [← Option.not_isSome_iff_eq_none, latestAtOrBefore_isSome_iff hrest]
        exact hstart
      have hfull : (latestAtOrBefore (evicted ++ rest) FundingRate.timestamp
          (windowBounds time window.duration).1).isSome :=
        (latestAtOrBefore_isSome_iff hordered).mpr ⟨y, List.mem_append_left _ hy, hyin⟩
      have hend : (latestAtOrBefore (evicted ++ rest) FundingRate.timestamp
          (windowBounds time window.duration).2).isSome :=
        (latestAtOrBefore_isSome_iff hordered).mpr ⟨x, List.mem_append_right _ hx, hle⟩
      obtain ⟨first, hfirst'⟩ := Option.isSome_iff_exists.mp hfull
      obtain ⟨last, hlast'⟩ := Option.isSome_iff_exists.mp hend
      unfold fundingWindow endChange at htrend
      dsimp only at htrend
      rw [hfirst, hfirst', hlast'] at htrend
      cases hlast : latestAtOrBefore rest FundingRate.timestamp
          (windowBounds time window.duration).2 <;>
      · rw [hlast] at htrend
        cases htrend
    · -- the evicted observation was in the window
      have hcount := congrArg FundingWindowFeatures.sampleCount heq
      unfold fundingWindow at hcount
      dsimp only at hcount
      rw [List.length_map, List.length_map, length_selectWindow_append] at hcount
      refine List.filter_eq_nil_iff.mp hcount y hy (decide_eq_true ⟨not_le.mp hyin, ?_⟩)
      exact hyx.le.trans hle
  · rintro (rfl | hstart)
    · rfl
    · exact fundingWindow_complete hordered hstart

/-! ## Price context -/

/-- The two features say the same about the trades of the window. -/
def PriceContextWindowFeatures.SameTrades (f g : PriceContextWindowFeatures) : Prop :=
  { g with markPriceChange := f.markPriceChange } = f

/-- **Price context is that of the whole history exactly when no trade of the window was
evicted.** -/
theorem priceContextWindow_complete_iff {evicted rest all : List FlowTrade}
    {marks marks' : List FundingRate} (hall : evicted ++ rest = all) :
    (priceContextWindow R symbol contractType time source rest marks window).SameTrades
        (priceContextWindow R symbol contractType time source all marks' window) ↔
      ∀ x ∈ evicted, ¬ ((windowBounds time window.duration).1 < x.timestamp ∧
        x.timestamp ≤ (windowBounds time window.duration).2) := by
  have hnil : selectWindow evicted (fun trade => trade.timestamp) time window.duration = [] ↔
      ∀ x ∈ evicted, ¬ ((windowBounds time window.duration).1 < x.timestamp ∧
        x.timestamp ≤ (windowBounds time window.duration).2) := by
    simp [selectWindow, List.filter_eq_nil_iff]
  rw [← hnil, ← hall]
  constructor
  · intro heq
    have hcount := congrArg PriceContextWindowFeatures.tradeCount heq
    unfold priceContextWindow at hcount
    dsimp only at hcount
    rwa [List.length_insertionSort, List.length_insertionSort, length_selectWindow_append] at hcount
  · intro hselect
    have hsame : selectWindow (evicted ++ rest) (fun trade => trade.timestamp) time
        window.duration = selectWindow rest (fun trade => trade.timestamp) time window.duration := by
      rw [selectWindow, List.filter_append]
      exact congrArg (· ++ _) hselect
    unfold PriceContextWindowFeatures.SameTrades priceContextWindow
    dsimp only
    rw [hsame]

end Windows

/-! ## Snapshots -/

/-- A label stands for one window. -/
def UniqueLabels (windows : List AnalyticsWindow) : Prop :=
  ∀ w ∈ windows, ∀ w' ∈ windows, w.label = w'.label → w.duration = w'.duration

/-- What is found under a label is about one window, in any dictionary of the windows. -/
theorem exists_window {β : Type} {windows : List AnalyticsWindow} {value : AnalyticsWindow → β}
    (hlabels : UniqueLabels windows) {label : String} {f : β}
    (h : (Labelled.ofItems (fun w : AnalyticsWindow => w.label.val) value windows).get? label =
      some f) :
    ∃ w ∈ windows, value w = f ∧ ∀ value' : AnalyticsWindow → β,
      (Labelled.ofItems (fun w : AnalyticsWindow => w.label.val) value' windows).get? label =
        some (value' w) := by
  obtain ⟨w, hw, rfl, hf⟩ := Labelled.exists_of_get?_ofItems h
  refine ⟨w, hw, hf, fun value' => Labelled.get?_ofItems hw fun other hother hlabel => ?_⟩
  have hsame : other = w := by
    have hlabel := Subtype.ext hlabel
    have hduration := hlabels other hother w hw hlabel
    cases other
    cases w
    exact AnalyticsWindow.mk.injEq .. |>.mpr ⟨hlabel, hduration⟩
  rw [hsame]

/-- The order-book snapshots among some events. -/
def orderBooksOf (events : List FlowEvent) : List OrderBookSnapshot :=
  events.filterMap fun event =>
    match event with
    | .orderBook snapshot => some snapshot
    | _ => none

/-- Everything that was recorded. -/
def wholeHistory (events : List FlowEvent) : FlowRecords where
  trades := tradesOf events
  tradesDropped := 0
  liquidations := liquidationsOf events
  liquidationsDropped := 0
  orderBooks := orderBooksOf events
  openInterests := openInterestsOf events
  fundings := fundingsOf events
  snapshots := []

/-- The blocks of a snapshot as they would be without any eviction. -/
def wholeBlocks (setting : FlowSetting) (identity : FlowIdentity) (events : List FlowEvent) :
    FlowBlocks :=
  setting.computeBlocks identity.symbol identity.contractType identity.observationTime
    identity.windows (wholeHistory events)

/-- The open interest of one window. -/
def FlowBlocks.openInterestOf (blocks : FlowBlocks) (label : String) :
    Option OpenInterestWindowFeatures :=
  blocks.openInterest.bind fun features => features.windows.get? label

/-- The funding of one window. -/
def FlowBlocks.fundingOf (blocks : FlowBlocks) (label : String) : Option FundingWindowFeatures :=
  blocks.funding.bind fun features => features.windows.get? label

/-- **Which features of a snapshot are those of the whole history of events.** -/
structure CompleteFeatures (setting : FlowSetting) (events : List FlowEvent)
    (identity : FlowIdentity) (blocks : FlowBlocks) : Prop where
  /-- Valid taker flow is complete where trades come in the order of time. -/
  takerFlow : (tradesOf events).Pairwise (fun a b => a.timestamp ≤ b.timestamp) →
    ∀ label f, blocks.takerFlow.get? label = some f → f.status.quality = .valid →
      ∃ g, (wholeBlocks setting identity events).takerFlow.get? label = some g ∧ f.SameWindow g
  /-- Valid liquidations are complete where they come in the order of time. -/
  liquidation : (liquidationsOf events).Pairwise (fun a b => a.timestamp ≤ b.timestamp) →
    ∀ label f, blocks.liquidation.get? label = some f → f.status.quality = .valid →
      (wholeBlocks setting identity events).liquidation.get? label = some f
  /-- Open interest that is available is complete where it comes in strict order. -/
  openInterest : (openInterestsOf events).Pairwise (fun a b => a.timestamp < b.timestamp) →
    ∀ label f, blocks.openInterestOf label = some f → f.status.quality ≠ .unavailable →
      (wholeBlocks setting identity events).openInterestOf label = some f
  /-- Funding is complete exactly when the start of its window is still known. -/
  funding : (fundingsOf events).Pairwise (fun a b => a.timestamp < b.timestamp) →
    ∀ label f, blocks.fundingOf label = some f → f.status.quality ≠ .unavailable →
      ((wholeBlocks setting identity events).fundingOf label = some f ↔
        dropped setting.capacities.funding (fundingsOf events) = [] ∨
          ∃ x ∈ kept setting.capacities.funding (fundingsOf events),
            x.timestamp ≤ (windowBounds identity.observationTime f.window.duration).1)
  /-- Price context is complete exactly when no trade of its window was evicted. -/
  priceContext : ∀ label f, blocks.priceContext.get? label = some f →
    ((∃ g, (wholeBlocks setting identity events).priceContext.get? label = some g ∧
        f.SameTrades g) ↔
      ∀ x ∈ dropped setting.capacities.raw (tradesOf events),
        ¬ (f.windowStart < x.timestamp ∧ x.timestamp ≤ f.windowEnd))

section Snapshots

variable {m : CaseMapping} {setting : FlowSetting} {events : List FlowEvent}
  {history : SymbolFeatureHistory} {identity : FlowIdentity}

/-- What the calculators read of a domain is its origin and what is kept of its events. -/
theorem latestSource_kept {α : Type} (source : α → NonemptyText) (maxlen : ℕ+) (all : List α)
    (default : NonemptyText) :
    latestSource source (kept maxlen all) default = latestSource source all default := by
  rw [latestSource, getLast?_kept, latestSource]

theorem computeFundingFeatures_windows {R : Rounding} {decimalSqrt : ℚ → ℚ} {symbol : Symbol}
    {contractType : ContractType} {windows : List AnalyticsWindow} {time : Timestamp}
    {source : NonemptyText} {observations : List FundingRate} :
    (computeFundingFeatures R symbol contractType windows time source decimalSqrt
      observations).windows =
        match latestAtOrBefore observations FundingRate.timestamp time with
        | none => {}
        | some latest => .ofItems (fun w => w.label.val) (fundingWindow R time decimalSqrt
            observations (freshnessStatus (time - latest.timestamp) defaultMaxStaleness).quality)
            windows := by
  unfold computeFundingFeatures
  cases latestAtOrBefore observations FundingRate.timestamp time <;> rfl

theorem computeOpenInterestFeatures_windows {R : Rounding} {symbol : Symbol}
    {contractType : ContractType} {windows : List AnalyticsWindow} {time : Timestamp}
    {source : NonemptyText} {observations : List OpenInterest} :
    (computeOpenInterestFeatures R symbol contractType windows time source
      observations).windows =
        match latestAtOrBefore observations OpenInterest.timestamp time with
        | none => {}
        | some latest => .ofItems (fun w => w.label.val) (openInterestWindow R time observations
            (freshnessStatus (time - latest.timestamp) defaultMaxStaleness).quality) windows := by
  unfold computeOpenInterestFeatures
  cases latestAtOrBefore observations OpenInterest.timestamp time <;> rfl

/-- The features of what a history holds. -/
theorem completeFeatures_of_holds (hlabels : UniqueLabels identity.windows)
    (h : history.Holds setting.capacities events) :
    CompleteFeatures setting events identity (setting.computeBlocks identity.symbol
      identity.contractType identity.observationTime identity.windows history.records) := by
  obtain ⟨htrades, hliquidations, hopenInterest, hfunding⟩ := h
  have hsplit {α : Type} (maxlen : ℕ+) (all : List α) := dropped_append_kept maxlen all
  constructor
  · intro hordered label f hf hvalid
    dsimp only [FlowSetting.computeBlocks, SymbolFeatureHistory.records] at hf
    rw [htrades.items, htrades.droppedCount, latestSource_kept] at hf
    obtain ⟨w, -, rfl, hwhole⟩ := exists_window hlabels hf
    refine ⟨_, hwhole _, ?_⟩
    rw [← hsplit setting.capacities.raw (tradesOf events)] at hordered
    have hcomplete := takerFlowWindow_complete hordered kept_eq_nil hvalid
    rwa [hsplit] at hcomplete
  · intro hordered label f hf hvalid
    dsimp only [FlowSetting.computeBlocks, SymbolFeatureHistory.records] at hf
    rw [hliquidations.items, hliquidations.droppedCount, latestSource_kept] at hf
    obtain ⟨w, -, rfl, hwhole⟩ := exists_window hlabels hf
    rw [← hsplit setting.capacities.raw (liquidationsOf events)] at hordered
    have hcomplete := liquidationWindow_complete hordered kept_eq_nil hvalid
    rw [hsplit] at hcomplete
    rw [← hcomplete]
    exact hwhole _
  · intro hordered label f hf havailable
    have hordered' := hordered
    rw [← hsplit setting.capacities.openInterest (openInterestsOf events)] at hordered'
    dsimp only [FlowSetting.computeBlocks, SymbolFeatureHistory.records, FlowBlocks.openInterestOf,
      Option.bind_some] at hf
    rw [hopenInterest.items, computeOpenInterestFeatures_windows] at hf
    cases hlatest : latestAtOrBefore (kept setting.capacities.openInterest (openInterestsOf events))
        OpenInterest.timestamp identity.observationTime with
    | none =>
        rw [hlatest] at hf
        cases hf
    | some latest =>
        rw [hlatest] at hf
        obtain ⟨w, -, rfl, hwhole⟩ := exists_window hlabels hf
        obtain ⟨hsame, -⟩ := openInterestWindow_complete hordered' havailable
        have hbefore := (latestAtOrBefore_isSome_iff (List.pairwise_append.mp hordered').2.1).mp
          (Option.isSome_of_eq_some hlatest)
        have hfull := latestAtOrBefore_append hordered' hbefore
        rw [hsplit, hlatest] at hfull
        rw [hsplit] at hsame
        dsimp only [wholeBlocks, FlowSetting.computeBlocks, wholeHistory,
          FlowBlocks.openInterestOf, Option.bind_some]
        rw [computeOpenInterestFeatures_windows, hfull, ← hsame]
        exact hwhole _
  · intro hordered label f hf havailable
    have hordered' := hordered
    rw [← hsplit setting.capacities.funding (fundingsOf events)] at hordered'
    dsimp only [FlowSetting.computeBlocks, SymbolFeatureHistory.records, FlowBlocks.fundingOf,
      Option.bind_some] at hf
    rw [hfunding.items, computeFundingFeatures_windows] at hf
    cases hlatest : latestAtOrBefore (kept setting.capacities.funding (fundingsOf events))
        FundingRate.timestamp identity.observationTime with
    | none =>
        rw [hlatest] at hf
        cases hf
    | some latest =>
        rw [hlatest] at hf
        obtain ⟨w, -, rfl, hwhole⟩ := exists_window hlabels hf
        have hbefore := (latestAtOrBefore_isSome_iff (List.pairwise_append.mp hordered').2.1).mp
          (Option.isSome_of_eq_some hlatest)
        have hfull := latestAtOrBefore_append hordered' hbefore
        rw [hsplit, hlatest] at hfull
        dsimp only [wholeBlocks, FlowSetting.computeBlocks, wholeHistory,
          FlowBlocks.fundingOf, Option.bind_some]
        rw [computeFundingFeatures_windows, hfull]
        dsimp only
        rw [hwhole, Option.some.injEq]
        have hiff := fundingWindow_complete_iff hordered' havailable
        rwa [hsplit] at hiff
  · intro label f hf
    dsimp only [FlowSetting.computeBlocks, SymbolFeatureHistory.records] at hf
    rw [htrades.items, latestSource_kept] at hf
    obtain ⟨w, -, rfl, hwhole⟩ := exists_window hlabels hf
    dsimp only [wholeBlocks, FlowSetting.computeBlocks, wholeHistory]
    have hall := hsplit setting.capacities.raw (tradesOf events)
    constructor
    · rintro ⟨g, hg, hsame⟩
      obtain rfl := Option.some.inj (hg.symm.trans (hwhole _))
      exact (priceContextWindow_complete_iff hall).mp hsame
    · exact fun hnone => ⟨_, hwhole _, (priceContextWindow_complete_iff hall).mpr hnone⟩

variable {interpret : FlowAnalystType → FlowFeatureSnapshot FlowBlocks →
    AnalystOutcome × FeatureQuality × List (String × String)}
  {windows : List AnalyticsWindow} {calls : List FlowCall} {symbol : String}
  {contractType : ContractType} {observationTime : Timestamp}
  {snapshot : FlowFeatureSnapshot FlowBlocks} {engine' : FlowFeatureEngine SymbolFeatureHistory}

theorem windows_run : (FlowFeatureEngine.run m (setting.components interpret) windows
    calls).windows = windows := by
  induction calls using List.reverseRecOn with
  | nil => rfl
  | append_singleton calls call ih =>
      rw [FlowFeatureEngine.run, List.foldl_append]
      refine Eq.trans ?_ ih
      cases call with
      | record event => rfl
      | build symbol contractType observationTime =>
          unfold FlowFeatureEngine.run
          rw [List.foldl_cons, List.foldl_nil, FlowFeatureEngine.call]
          split
          next hbuild =>
              obtain ⟨stamped, -, hbuild⟩ := Checks.bind_ok_iff.mp hbuild
              cases hbuild
              rfl
          next => rfl

/-- **Which features of a built snapshot are those of everything recorded**: after any calls, in
any order and with any evictions. -/
theorem flow_features_complete (hlabels : UniqueLabels windows)
    (hbuild : (FlowFeatureEngine.run m (setting.components interpret) windows
      calls).buildSnapshot m (setting.components interpret) symbol contractType observationTime =
        .ok (snapshot, engine')) :
    CompleteFeatures setting (eventsFor m symbol contractType calls) snapshot.identity
      snapshot.blocks := by
  have hholds := historyFor_run m setting interpret windows calls (m.upper symbol) contractType
  have hsame : eventsFor m (m.upper symbol) contractType calls =
      eventsFor m symbol contractType calls := by
    unfold eventsFor
    rw [CaseMapping.upper_upper]
  rw [hsame] at hholds
  obtain ⟨stamped, -, hbuild⟩ := Checks.bind_ok_iff.mp hbuild
  cases hbuild
  refine completeFeatures_of_holds ?_ hholds
  dsimp only
  rwa [windows_run]

end Snapshots

/-! ## A run with an eviction -/

theorem ten_seconds_label : "10s" ≠ "" := by decide

theorem ten_seconds_positive : (0 : ℤ) < 10000000 := by decide

theorem thirty_seconds_label : "30s" ≠ "" := by decide

theorem thirty_seconds_positive : (0 : ℤ) < 30000000 := by decide

theorem flow_engine_label : "flow_engine" ≠ "" := by decide

/-- The short window of the sample. -/
def tenSeconds : AnalyticsWindow :=
  ⟨⟨"10s", ten_seconds_label⟩, ⟨10000000, ten_seconds_positive⟩⟩

/-- The long window of the sample. -/
def thirtySeconds : AnalyticsWindow :=
  ⟨⟨"30s", thirty_seconds_label⟩, ⟨30000000, thirty_seconds_positive⟩⟩

/-- The setting of the sample: a history keeps two trades. -/
def sampleFlowSetting : FlowSetting where
  rounding := .exact
  decimalSqrt x := x
  correlation _ := none
  bands := []
  defaultSource := ⟨"flow_engine", flow_engine_label⟩
  capacities := { raw := ⟨2, Nat.two_pos⟩ }

/-- A trade of the sample. -/
def sampleTrade (timestamp : Timestamp) : FlowTrade where
  quantity := 1
  side := .buy
  timestamp
  symbol := btcusdt
  contractType := .perpetual
  price := 1
  source := ⟨"flow_engine", flow_engine_label⟩

/-- Three trades, the first of which is evicted by the last; only the last one is in the short
window. -/
def sampleFlowCalls : List FlowCall :=
  [.record (.trade (sampleTrade 18000000)), .record (.trade (sampleTrade 19000000)),
    .record (.trade (sampleTrade 23000000))]

/-- An interpretation that abstains. -/
def abstention (_ : FlowAnalystType) (_ : FlowFeatureSnapshot FlowBlocks) :
    AnalystOutcome × FeatureQuality × List (String × String) := (.abstained, .unavailable, [])

/-- The quality of the taker flow of a window. -/
def FlowBlocks.takerFlowQuality (blocks : FlowBlocks) (label : String) : Option FeatureQuality :=
  (blocks.takerFlow.get? label).map fun features => features.status.quality

/-- The short window is complete in spite of the eviction, and the long one is not. -/
theorem flow_features_complete_sample : ∃ snapshot engine',
    (FlowFeatureEngine.run .ascii (sampleFlowSetting.components abstention)
      [tenSeconds, thirtySeconds] sampleFlowCalls).buildSnapshot .ascii
        (sampleFlowSetting.components abstention) "btcusdt" .perpetual 30000000 =
          .ok (snapshot, engine') ∧
    snapshot.blocks.takerFlowQuality "10s" = some .valid ∧
    snapshot.blocks.takerFlowQuality "30s" = some .partialData ∧
    CompleteFeatures sampleFlowSetting
      (eventsFor .ascii "btcusdt" .perpetual sampleFlowCalls) snapshot.identity
      snapshot.blocks := by
  have hlabels : UniqueLabels [tenSeconds, thirtySeconds] := by
    unfold UniqueLabels
    decide
  have hqualities : ((FlowFeatureEngine.run .ascii (sampleFlowSetting.components abstention)
      [tenSeconds, thirtySeconds] sampleFlowCalls).buildSnapshot .ascii
        (sampleFlowSetting.components abstention) "btcusdt" .perpetual 30000000).map
          (fun built => (built.1.blocks.takerFlowQuality "10s",
            built.1.blocks.takerFlowQuality "30s")) = .ok (some .valid, some .partialData) := by
    decide +kernel
  obtain ⟨⟨snapshot, engine'⟩, hbuild, hqualities⟩ := Checks.map_ok_iff.mp hqualities
  obtain ⟨hvalid, hpartial⟩ := Prod.mk.inj hqualities
  exact ⟨snapshot, engine', hbuild, hvalid, hpartial, flow_features_complete hlabels hbuild⟩

end TradingAdvisor
