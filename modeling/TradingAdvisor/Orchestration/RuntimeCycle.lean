import TradingAdvisor.Lib.VersionedStore
import TradingAdvisor.Mt5.Tracker
import Mathlib.Data.List.ReduceOption
import Mathlib.Data.String.Basic

/-!
# The runtime cycle

One cycle over the tracking store: load the documents that can be read, advance each of them,
write them back, and issue the recommendations that the guard lets through. What the decision
pipeline makes actionable is an input of the cycle.

* `advanceAllExistingTracking` — the pass over the loaded documents with its running claims;
* `evaluateNettingGuard` — the per-symbol guard of accounts that are not hedging;
* `runRuntimeCycle`, `runCycle` — the cycle, and the cycle behind the duplicate check;
* **`runCycle_cases`**, `CycleEffect` — what a cycle does to the store.
-/

namespace TradingAdvisor

open SignificantDigits Checks VersionedStore

/-- The tracking documents, by trade id. -/
abbrev TrackingStore := Dict TradeId MT5TrackedRecommendation

/-- How the read of a stored document goes. -/
inductive DocumentReadStatus
  | valid
  | corrupt
  | unavailable
  deriving DecidableEq, Repr

/-- How the account margins positions. -/
inductive AccountPositionMode
  | hedging
  | netting
  | unknown
  deriving DecidableEq, Repr

/-- What the decision pipeline and the sizing make of one actionable family. -/
structure ActionableFamily where
  family : StrategyFamily
  direction : TradeDirection
  entryPrice : Price
  stopLoss : Price
  takeProfitLevels : List Price := []
  approvedVolume : PositiveRat

/-- What one cycle is given and what its reads return. -/
structure RuntimeCycleInput where
  asOf : Timestamp
  connectivityAvailable : Bool
  marginMode : Option AccountPositionMode
  readStatus : TradeId → DocumentReadStatus
  tradingDayStart : Timestamp
  historyDeals : Timestamp → Timestamp → MT5HistoryReadStatus × List MT5Deal
  positionsReadStatus : MT5PositionsReadStatus
  positions : List MT5Position
  mt5Symbol : Symbol
  symbolFactsAvailable : Bool
  tradeIds : StrategyFamily → TradeId
  pipeline : Option (List ActionableFamily)

variable (R : Rounding)

/-! ## Existing tracking -/

/-- The documents that can be read, by trade id. -/
def RuntimeCycleInput.loaded (c : RuntimeCycleInput) (s : TrackingStore) :
    List (TradeId × MT5TrackedRecommendation) :=
  (sortedPairs (· ≤ ·) s).filter fun doc => c.readStatus doc.1 = .valid

/-- The start of the history window. -/
def RuntimeCycleInput.historyStart (c : RuntimeCycleInput)
    (loaded : List (TradeId × MT5TrackedRecommendation)) : Timestamp :=
  loaded.foldl (fun start doc => min start doc.2.positionRecord.signalTime) c.tradingDayStart

/-- The read of the history. -/
def RuntimeCycleInput.history (c : RuntimeCycleInput) (s : TrackingStore) : HistoryRead :=
  let answer := c.historyDeals (c.historyStart (c.loaded s)) c.asOf
  { asOf := c.asOf, status := answer.1, coversUntil := c.asOf, deals := answer.2 }

/-- The positions that some documents hold. -/
def claimedIds (docs : List (TradeId × MT5TrackedRecommendation)) : List ℕ :=
  docs.filterMap fun doc => doc.2.matchedPositionId

/-- Advance the documents in order; a position claimed by one is reserved for it. -/
def advanceAllExistingTracking (h : HistoryRead) :
    List ℕ → List (TradeId × MT5TrackedRecommendation) →
      Except ModelError (List (TradeId × MT5TrackedRecommendation))
  | _, [] => .ok []
  | claimed, (tradeId, tracked) :: rest => do
      let claimedByOthers := claimed.filter fun p => tracked.matchedPositionId ≠ some p
      let updated ← advanceTrackedRecommendation R h claimedByOthers tracked
      let advanced ← advanceAllExistingTracking h (updated.matchedPositionId.toList ++ claimed) rest
      return (tradeId, updated) :: advanced

/-- `Turn R h claimed docs tradeId tracked others`: in the pass over `docs`, `tracked` comes up
with the positions `others` claimed by other documents. -/
inductive Turn (h : HistoryRead) :
    List ℕ → List (TradeId × MT5TrackedRecommendation) → TradeId → MT5TrackedRecommendation →
      List ℕ → Prop
  | head {claimed tradeId tracked rest} :
      Turn h claimed ((tradeId, tracked) :: rest) tradeId tracked
        (claimed.filter fun p => tracked.matchedPositionId ≠ some p)
  | tail {claimed tradeId tracked rest updated tradeId' tracked' others} :
      advanceTrackedRecommendation R h
          (claimed.filter fun p => tracked.matchedPositionId ≠ some p) tracked = .ok updated →
        Turn h (updated.matchedPositionId.toList ++ claimed) rest tradeId' tracked' others →
          Turn h claimed ((tradeId, tracked) :: rest) tradeId' tracked' others

/-- Write the documents in order. -/
def writeAll (s : TrackingStore) (docs : List (TradeId × MT5TrackedRecommendation)) :
    TrackingStore :=
  docs.foldl (fun s doc => s.insert doc.1 doc.2) s

/-! ## Issuance -/

/-- Outcome of the guard. -/
inductive NettingIssuanceOutcome
  | allowed
  | blockedExistingBrokerPosition
  | blockedExistingUnresolvedRecommendation
  | noActionableRecommendations
  | blockedMultipleActionableRecommendations
  deriving DecidableEq, Repr

/-- Some of the documents holds the lock of the symbol. -/
def symbolHasUnresolvedTracking (docs : List (TradeId × MT5TrackedRecommendation))
    (symbol : Symbol) : Prop :=
  ∃ doc ∈ docs, doc.2.symbol = symbol ∧ doc.2.status.HoldsLock

instance (docs : List (TradeId × MT5TrackedRecommendation)) (symbol : Symbol) :
    Decidable (symbolHasUnresolvedTracking docs symbol) :=
  inferInstanceAs (Decidable (∃ doc ∈ docs, _))

/-- At most one unresolved recommendation may exist for a symbol before a new one is issued. -/
def evaluateNettingGuard (symbol : Symbol) (positionsReadStatus : MT5PositionsReadStatus)
    (positions : List MT5Position) (docs : List (TradeId × MT5TrackedRecommendation))
    (actionableCount : ℕ) : NettingIssuanceOutcome :=
  if positionsReadStatus = .ok ∧ ∃ p ∈ positions, p.symbol = symbol then
    .blockedExistingBrokerPosition
  else if symbolHasUnresolvedTracking docs symbol then .blockedExistingUnresolvedRecommendation
  else
    match actionableCount with
    | 0 => .noActionableRecommendations
    | 1 => .allowed
    | _ => .blockedMultipleActionableRecommendations

/-- What the pipeline makes actionable; it runs only with every account fact at hand. -/
def RuntimeCycleInput.finalRecommendations (c : RuntimeCycleInput)
    (historyStatus : MT5HistoryReadStatus) : List ActionableFamily :=
  if historyStatus = .ok ∧ c.positionsReadStatus = .ok ∧ c.symbolFactsAvailable then
    c.pipeline.getD []
  else []

/-- The cycle may issue what is actionable. -/
def RuntimeCycleInput.issuanceAllowed (c : RuntimeCycleInput) (actionableCount : ℕ)
    (docs : List (TradeId × MT5TrackedRecommendation)) : Prop :=
  match c.marginMode with
  | none => False
  | some .hedging => 0 < actionableCount
  | some _ =>
      evaluateNettingGuard c.mt5Symbol c.positionsReadStatus c.positions docs actionableCount =
        .allowed

instance (c : RuntimeCycleInput) (actionableCount : ℕ)
    (docs : List (TradeId × MT5TrackedRecommendation)) :
    Decidable (c.issuanceAllowed actionableCount docs) := by
  unfold RuntimeCycleInput.issuanceAllowed
  cases c.marginMode with
  | none => exact instDecidableFalse
  | some mode => cases mode <;> exact inferInstance

/-- The record of an actionable family. -/
def RuntimeCycleInput.record (c : RuntimeCycleInput) (f : ActionableFamily) : PositionRecord where
  tradeId := c.tradeIds f.family
  symbol := c.mt5Symbol
  direction := f.direction
  signalTime := c.asOf
  validUntil := c.asOf + signalExecutionWindow
  plannedEntry := f.entryPrice
  stopLoss := f.stopLoss
  takeProfitLevels := f.takeProfitLevels

/-- The tracking document of an actionable family. -/
def RuntimeCycleInput.constructTracked (c : RuntimeCycleInput) (f : ActionableFamily) :
    Except ModelError (Option (TradeId × MT5TrackedRecommendation)) := do
  let tracked ← createTrackedRecommendation (c.record f) f.approvedVolume c.positionsReadStatus
    c.positions
  return tracked.map fun t => (c.tradeIds f.family, t)

/-- The new documents of the cycle. -/
def RuntimeCycleInput.issued (c : RuntimeCycleInput) (historyStatus : MT5HistoryReadStatus)
    (docs : List (TradeId × MT5TrackedRecommendation)) :
    Except ModelError (List (TradeId × MT5TrackedRecommendation)) :=
  let actionable := c.finalRecommendations historyStatus
  if c.issuanceAllowed actionable.length docs then
    (·.reduceOption) <$> actionable.mapM c.constructTracked
  else .ok []

/-! ## The cycle -/

/-- The documents advanced in the cycle. -/
def RuntimeCycleInput.advanced (c : RuntimeCycleInput) (s : TrackingStore) :
    Except ModelError (List (TradeId × MT5TrackedRecommendation)) :=
  advanceAllExistingTracking R (c.history s) (claimedIds (c.loaded s)) (c.loaded s)

/-- The cycle advances its documents and writes them. -/
def RuntimeCycleInput.Advances (c : RuntimeCycleInput) (s : TrackingStore) : Prop :=
  c.connectivityAvailable ∧ ∃ advanced, c.advanced R s = .ok advanced

/-- The turn of a document in the cycle. -/
def RuntimeCycleInput.Turn (c : RuntimeCycleInput) (s : TrackingStore) (tradeId : TradeId)
    (tracked : MT5TrackedRecommendation) (others : List ℕ) : Prop :=
  TradingAdvisor.Turn R (c.history s) (claimedIds (c.loaded s)) (c.loaded s) tradeId tracked others

/-- One cycle. An exception leaves the store as it was written so far. -/
def runRuntimeCycle (s : TrackingStore) (c : RuntimeCycleInput) : TrackingStore :=
  if c.connectivityAvailable then
    match c.advanced R s with
    | .error _ => s
    | .ok advanced =>
        match c.issued (c.history s).status advanced with
        | .error _ => writeAll s advanced
        | .ok issued => writeAll (writeAll s advanced) issued
  else s

/-- The cycle behind the composer's duplicate check: it runs only with unused trade ids. -/
def runCycle (s : TrackingStore) (c : RuntimeCycleInput) : Option TrackingStore :=
  if ∃ family ∈ StrategyFamily.order, c.tradeIds family ∈ s then none
  else some (runRuntimeCycle R s c)

/-! ## What a cycle does to the store -/

variable {R} {s : TrackingStore} {c : RuntimeCycleInput} {k : TradeId}
  {t : MT5TrackedRecommendation} {docs advanced issued : List (TradeId × MT5TrackedRecommendation)}

theorem mem_loaded :
    (k, t) ∈ c.loaded s ↔ s.lookup k = some t ∧ c.readStatus k = .valid := by
  rw [RuntimeCycleInput.loaded, List.mem_filter, lookup_sortedPairs, decide_eq_true_eq]

theorem loaded_keys_nodup : ((c.loaded s).map Prod.fst).Nodup := by
  have hsorted := sortedPairs_pairwise_ne (· ≤ · : TradeId → TradeId → Prop) s
  exact List.pairwise_map.mpr ((hsorted.imp And.right).filter _)

theorem lookup_writeAll_of_notMem (h : k ∉ docs.map Prod.fst) :
    (writeAll s docs).lookup k = s.lookup k := by
  induction docs generalizing s with
  | nil => rfl
  | cons doc docs ih =>
      rw [List.map_cons, List.mem_cons, not_or] at h
      rw [writeAll, List.foldl_cons]
      exact (ih h.2).trans (AList.lookup_insert_ne h.1)

theorem lookup_writeAll_of_mem (hdocs : (docs.map Prod.fst).Nodup) (h : (k, t) ∈ docs) :
    (writeAll s docs).lookup k = some t := by
  induction docs generalizing s with
  | nil => cases h
  | cons doc docs ih =>
      rw [List.map_cons, List.nodup_cons] at hdocs
      rcases List.mem_cons.mp h with rfl | h
      · exact (lookup_writeAll_of_notMem hdocs.1).trans (AList.lookup_insert _)
      · exact ih hdocs.2 h

theorem Turn.mem {h : HistoryRead} {claimed others : List ℕ}
    (hturn : Turn R h claimed docs k t others) : (k, t) ∈ docs := by
  induction hturn with
  | head => exact List.mem_cons_self
  | tail _ _ ih => exact List.mem_cons_of_mem _ ih

/-- At its turn a document is advanced. -/
theorem Turn.mem_advanced {h : HistoryRead} {claimed others : List ℕ}
    (hturn : Turn R h claimed docs k t others)
    (hok : advanceAllExistingTracking R h claimed docs = .ok advanced) :
    ∃ t', (k, t') ∈ advanced ∧ advanceTrackedRecommendation R h others t = .ok t' := by
  induction hturn generalizing advanced with
  | head =>
      obtain ⟨updated, hupdated, hok⟩ := bind_ok_iff.mp hok
      obtain ⟨rest, -, hok⟩ := bind_ok_iff.mp hok
      cases hok
      exact ⟨updated, List.mem_cons_self, hupdated⟩
  | tail hfirst _ ih =>
      obtain ⟨updated, hupdated, hok⟩ := bind_ok_iff.mp hok
      obtain ⟨rest, hrest, hok⟩ := bind_ok_iff.mp hok
      cases hok
      cases hfirst.symm.trans hupdated
      obtain ⟨t', hmem, hadvance⟩ := ih hrest
      exact ⟨t', List.mem_cons_of_mem _ hmem, hadvance⟩

/-- Every document of the pass has had its turn. -/
theorem exists_turn {h : HistoryRead} {claimed : List ℕ} {t' : MT5TrackedRecommendation}
    (hok : advanceAllExistingTracking R h claimed docs = .ok advanced) (hmem : (k, t') ∈ advanced) :
    ∃ t others, Turn R h claimed docs k t others ∧
      advanceTrackedRecommendation R h others t = .ok t' := by
  induction docs generalizing claimed advanced with
  | nil =>
      cases hok
      cases hmem
  | cons doc docs ih =>
      obtain ⟨updated, hupdated, hok⟩ := bind_ok_iff.mp hok
      obtain ⟨rest, hrest, hok⟩ := bind_ok_iff.mp hok
      cases hok
      rcases List.mem_cons.mp hmem with heq | hmem
      · cases heq
        exact ⟨_, _, .head, hupdated⟩
      · obtain ⟨t, others, hturn, hadvance⟩ := ih hrest hmem
        exact ⟨t, others, .tail hupdated hturn, hadvance⟩

/-- The pass goes through exactly when every document can be advanced at its turn. -/
theorem advanceAll_isOk_iff {h : HistoryRead} {claimed : List ℕ} :
    (∃ advanced, advanceAllExistingTracking R h claimed docs = .ok advanced) ↔
      ∀ k t others, Turn R h claimed docs k t others →
        ∃ t', advanceTrackedRecommendation R h others t = .ok t' := by
  constructor
  · rintro ⟨advanced, hok⟩ k t others hturn
    obtain ⟨t', -, hadvance⟩ := hturn.mem_advanced hok
    exact ⟨t', hadvance⟩
  · intro hturns
    induction docs generalizing claimed with
    | nil => exact ⟨[], rfl⟩
    | cons doc docs ih =>
        obtain ⟨k, t⟩ := doc
        obtain ⟨updated, hupdated⟩ := hturns k t _ .head
        obtain ⟨rest, hrest⟩ :=
          ih fun k' t' others hturn => hturns k' t' others (.tail hupdated hturn)
        exact ⟨(k, updated) :: rest,
          bind_ok_iff.mpr ⟨updated, hupdated, bind_ok_iff.mpr ⟨rest, hrest, rfl⟩⟩⟩

theorem RuntimeCycleInput.Turn.lookup {others : List ℕ} (hturn : c.Turn R s k t others) :
    s.lookup k = some t ∧ c.readStatus k = .valid :=
  mem_loaded.mp hturn.mem

theorem advanceAll_keys {h : HistoryRead} {claimed : List ℕ}
    (hok : advanceAllExistingTracking R h claimed docs = .ok advanced) :
    advanced.map Prod.fst = docs.map Prod.fst := by
  induction docs generalizing claimed advanced with
  | nil =>
      cases hok
      rfl
  | cons doc docs ih =>
      obtain ⟨updated, -, hok⟩ := bind_ok_iff.mp hok
      obtain ⟨rest, hrest, hok⟩ := bind_ok_iff.mp hok
      cases hok
      rw [List.map_cons, List.map_cons, ih hrest]

theorem mem_of_lookup_writeAll (h : (writeAll s docs).lookup k = some t) :
    (k, t) ∈ docs ∨ (s.lookup k = some t ∧ k ∉ docs.map Prod.fst) := by
  by_cases hk : k ∈ docs.map Prod.fst
  · induction docs generalizing s with
    | nil => cases hk
    | cons doc docs ih =>
        by_cases hrest : k ∈ docs.map Prod.fst
        · rcases ih h hrest with hmem | ⟨-, hnot⟩
          · exact .inl (List.mem_cons_of_mem _ hmem)
          · exact absurd hrest hnot
        · obtain rfl : k = doc.1 := by
            rw [List.map_cons, List.mem_cons] at hk
            exact hk.resolve_right hrest
          rw [writeAll, List.foldl_cons] at h
          have hlast := (lookup_writeAll_of_notMem hrest).symm.trans h
          rw [AList.lookup_insert, Option.some.injEq] at hlast
          exact .inl (List.mem_cons.mpr (.inl (by rw [← hlast])))
  · rw [lookup_writeAll_of_notMem hk] at h
    exact .inr ⟨h, hk⟩

/-- What a cycle that advances its documents has done to the store. -/
structure CycleEffect (R : Rounding) (s : TrackingStore) (c : RuntimeCycleInput)
    (advanced issued : List (TradeId × MT5TrackedRecommendation)) (s' : TrackingStore) :
    Prop where
  advanced_ok : c.advanced R s = .ok advanced
  issued_ok : c.issued (c.history s).status advanced = .ok issued ∨
    issued = [] ∧ ∀ docs, c.issued (c.history s).status advanced ≠ .ok docs
  fresh : ∀ family, s.lookup (c.tradeIds family) = none
  store : s' = writeAll (writeAll s advanced) issued

/-- **What a cycle does to the store**: it leaves it alone, or writes what it advanced and what it
issued. -/
theorem runCycle_cases {s' : TrackingStore} (h : runCycle R s c = some s') :
    (¬ c.Advances R s ∧ s' = s) ∨
      c.Advances R s ∧ ∃ advanced issued, CycleEffect R s c advanced issued s' := by
  unfold runCycle at h
  split_ifs at h with hused
  cases h
  have hfresh (family : StrategyFamily) : s.lookup (c.tradeIds family) = none := by
    refine AList.lookup_eq_none.mpr fun hmem => hused ⟨family, ?_, hmem⟩
    cases family <;> decide
  unfold runRuntimeCycle
  split_ifs with hconnected
  · split
    · next e hadvanced =>
        refine .inl ⟨?_, rfl⟩
        rintro ⟨-, advanced, hok⟩
        rw [hadvanced] at hok
        cases hok
    · next advanced hadvanced =>
        refine .inr ⟨⟨hconnected, advanced, hadvanced⟩, ?_⟩
        split
        · next e hissued =>
            refine ⟨advanced, [], hadvanced, .inr ⟨rfl, fun docs hok => ?_⟩, hfresh, rfl⟩
            rw [hissued] at hok
            cases hok
        · next issued hissued => exact ⟨advanced, issued, hadvanced, .inl hissued, hfresh, rfl⟩
  · exact .inl ⟨fun h => hconnected h.1, rfl⟩

/-- A new document is pending and unmatched, of the cycle's symbol, and let through. -/
theorem issued_spec {status : MT5HistoryReadStatus} (h : c.issued status docs = .ok issued)
    (hmem : (k, t) ∈ issued) :
    (∃ family, k = c.tradeIds family) ∧ t.status = .pending ∧ t.matchedPositionId = none ∧
      t.symbol = c.mt5Symbol ∧
      c.issuanceAllowed (c.finalRecommendations status).length docs := by
  dsimp only [RuntimeCycleInput.issued] at h
  split_ifs at h with hallowed
  · obtain ⟨created, hcreated, rfl⟩ := map_ok_iff.mp h
    obtain ⟨f, -, hf⟩ := exists_of_mem_mapM hcreated (List.reduceOption_mem_iff.mp hmem)
    obtain ⟨tracked, htracked, hf⟩ := bind_ok_iff.mp hf
    cases tracked with
    | none => cases hf
    | some tracked =>
        cases hf
        obtain ⟨hstatus, hnone, hsymbol⟩ := createTracked_spec htracked
        exact ⟨⟨f.family, rfl⟩, hstatus, hnone, hsymbol, hallowed⟩
  · cases h
    cases hmem

theorem RuntimeCycleInput.constructTracked_isOk (c : RuntimeCycleInput) (f : ActionableFamily) :
    ∃ created, c.constructTracked f = .ok created := by
  have hcreated : ∃ tracked, createTrackedRecommendation (c.record f) f.approvedVolume
      c.positionsReadStatus c.positions = .ok tracked := by
    unfold createTrackedRecommendation
    split_ifs
    · exact ⟨none, rfl⟩
    · refine ⟨_, map_ok_iff.mpr ⟨_, MT5TrackedRecommendation.construct_ok_iff.mpr ⟨?_, rfl⟩, rfl⟩⟩
      have hwindow : c.asOf < c.asOf + signalExecutionWindow := Int.lt_add_of_pos_right _ (by decide)
      have hnodup := (List.perm_insertionSort (· ≤ ·) _).nodup_iff.mpr (List.nodup_dedup
        ((c.positions.filter fun p => p.symbol = c.mt5Symbol).map fun p => (p.ticket : ℕ)))
      have hrecord : (c.record f).validate = .ok () := by
        simp [PositionRecord.validate, RuntimeCycleInput.record, check_ok_iff, unit_bind_ok_iff,
          hwindow]
      refine unit_bind_ok_iff.mpr ⟨hrecord, check_bind_ok.mpr ⟨by simp, check_bind_ok.mpr
        ⟨hnodup, check_bind_ok.mpr ⟨by simp, ?_⟩⟩⟩⟩
      exact check_ok_iff.mpr List.mem_cons_self
  obtain ⟨tracked, htracked⟩ := hcreated
  exact ⟨_, bind_ok_iff.mpr ⟨tracked, htracked, rfl⟩⟩

theorem RuntimeCycleInput.issued_isOk (c : RuntimeCycleInput) (status : MT5HistoryReadStatus)
    (docs : List (TradeId × MT5TrackedRecommendation)) :
    ∃ issued, c.issued status docs = .ok issued := by
  dsimp only [RuntimeCycleInput.issued]
  split_ifs
  · obtain ⟨created, hcreated⟩ := mapM_ok_of_exists fun f (_ : f ∈ c.finalRecommendations status) =>
      c.constructTracked_isOk f
    exact ⟨_, map_ok_iff.mpr ⟨created, hcreated, rfl⟩⟩
  · exact ⟨[], rfl⟩

theorem length_issued_le {status : MT5HistoryReadStatus} (h : c.issued status docs = .ok issued) :
    issued.length ≤ (c.finalRecommendations status).length := by
  dsimp only [RuntimeCycleInput.issued] at h
  split_ifs at h
  · obtain ⟨created, hcreated, rfl⟩ := map_ok_iff.mp h
    rw [(mapM_ok_forall₂ hcreated).length_eq]
    exact List.reduceOption_length_le created
  · cases h
    exact Nat.zero_le _

/-- On an account that is not hedging one recommendation at most is let through, for a symbol
that the guard finds free. -/
theorem issuanceAllowed_netting {n : ℕ} (hmode : c.marginMode ≠ some .hedging)
    (h : c.issuanceAllowed n docs) : n = 1 ∧ ¬ symbolHasUnresolvedTracking docs c.mt5Symbol := by
  unfold RuntimeCycleInput.issuanceAllowed at h
  split at h
  · cases h
  · next hhedging => exact absurd hhedging hmode
  · unfold evaluateNettingGuard at h
    split_ifs at h with hposition htracked
    split at h
    · cases h
    · exact ⟨rfl, htracked⟩
    · cases h

namespace CycleEffect

variable {s' : TrackingStore} {t' : MT5TrackedRecommendation}

theorem keys_eq (e : CycleEffect R s c advanced issued s') :
    advanced.map Prod.fst = (c.loaded s).map Prod.fst :=
  advanceAll_keys e.advanced_ok

theorem issued_key_notMem (e : CycleEffect R s c advanced issued s')
    (h : s.lookup k = some t) : k ∉ issued.map Prod.fst := by
  intro hmem
  obtain ⟨⟨k', t'⟩, hdoc, rfl⟩ := List.mem_map.mp hmem
  rcases e.issued_ok with hissued | ⟨rfl, -⟩
  · obtain ⟨⟨family, hk⟩, -⟩ := issued_spec hissued hdoc
    rw [hk, e.fresh family] at h
    cases h
  · cases hdoc

theorem lookup_advanced (e : CycleEffect R s c advanced issued s') (h : (k, t') ∈ advanced) :
    s'.lookup k = some t' := by
  obtain ⟨t, others, hturn, -⟩ := exists_turn e.advanced_ok h
  rw [e.store,
    lookup_writeAll_of_notMem (e.issued_key_notMem (RuntimeCycleInput.Turn.lookup hturn).1)]
  exact lookup_writeAll_of_mem (e.keys_eq ▸ loaded_keys_nodup) h

theorem lookup_unreadable (e : CycleEffect R s c advanced issued s')
    (h : s.lookup k = some t) (hread : c.readStatus k ≠ .valid) : s'.lookup k = some t := by
  have hkey : k ∉ advanced.map Prod.fst := by
    rw [e.keys_eq]
    intro hmem
    obtain ⟨⟨k', t'⟩, hdoc, rfl⟩ := List.mem_map.mp hmem
    exact hread (mem_loaded.mp hdoc).2
  rw [e.store, lookup_writeAll_of_notMem (e.issued_key_notMem h), lookup_writeAll_of_notMem hkey]
  exact h

/-- Where a document of the store after the cycle comes from. -/
theorem lookup_cases (e : CycleEffect R s c advanced issued s') (h : s'.lookup k = some t') :
    (k, t') ∈ issued ∨ (k, t') ∈ advanced ∨
      (s.lookup k = some t' ∧ c.readStatus k ≠ .valid) := by
  rw [e.store] at h
  rcases mem_of_lookup_writeAll h with hmem | ⟨h, -⟩
  · exact .inl hmem
  · rcases mem_of_lookup_writeAll h with hmem | ⟨h, hkey⟩
    · exact .inr (.inl hmem)
    · refine .inr (.inr ⟨h, fun hread => hkey ?_⟩)
      rw [e.keys_eq]
      exact List.mem_map_of_mem (mem_loaded.mpr ⟨h, hread⟩)

end CycleEffect

/-! ## Samples -/

/-- The trade ids of the `n`-th sample cycle. -/
def sampleTradeId (n : ℕ) (family : StrategyFamily) : TradeId :=
  ⟨String.ofList ('c' :: (toString n ++ family.value).toList),
    fun h => nomatch String.ofList_eq_empty_iff.mp h⟩

/-- A long recommendation of volume one. -/
def sampleFamily (family : StrategyFamily) : ActionableFamily where
  family
  direction := .long
  entryPrice := (100 : ℕ)
  stopLoss := (99 : ℕ)
  approvedVolume := ⟨1, one_positive⟩

/-- The `n`-th sample cycle starts in minute `n`, and everything can be read. -/
def sampleCycle (n : ℕ) (mode : AccountPositionMode) (deals : List MT5Deal)
    (families : List StrategyFamily) : RuntimeCycleInput where
  asOf := n * 60000000
  connectivityAvailable := true
  marginMode := some mode
  readStatus := fun _ => .valid
  tradingDayStart := 0
  historyDeals := fun _ _ => (.ok, deals)
  positionsReadStatus := .ok
  positions := []
  mt5Symbol := btcusdt
  symbolFactsAvailable := true
  tradeIds := sampleTradeId n
  pipeline := some (families.map sampleFamily)

/-- The fill of a sample recommendation, in minute two. -/
def sampleDeal : MT5Deal where
  ticket := Nat.succPNat 0
  positionId := 7
  time := 120000000
  symbol := some btcusdt
  dealType := .buy
  entry := .entryIn
  volume := 1
  price := (100 : ℕ)

end TradingAdvisor
