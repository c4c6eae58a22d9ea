import TradingAdvisor.Mt5.Matching
import TradingAdvisor.Mt5.OpenRisk

/-!
# Recommendation tracking

The lifecycle of a tracked recommendation. It is created pending; every cycle it is matched with a
broker position as long as it has none, and once it has one it only follows that position.

* `reconstructPositionLifecycle` — the state of a position from its deals;
* `advanceTrackedRecommendation` — one cycle of one recommendation;
* `advance_cases` — what a cycle can do to it: stay unmatched, get matched, or follow its match;
* **`holdsLock_advance_iff`**: when a recommendation is unresolved after a cycle.
-/

namespace TradingAdvisor

open SignificantDigits Checks

/-- Lifecycle state of a recommended trade. -/
inductive TradeStatus
  | pending
  | filled
  | opened
  | closed
  | win
  | loss
  | breakeven
  | notFilled
  | expired
  | cancelled
  deriving DecidableEq, Repr

/-- The record of one recommendation. -/
structure PositionRecord where
  tradeId : NonemptyText
  symbol : Symbol
  direction : TradeDirection
  signalTime : Timestamp
  validUntil : Timestamp
  status : TradeStatus := .pending
  plannedEntry : Price
  stopLoss : Price
  takeProfitLevels : List Price := []
  actualEntry : Option ℚ := none
  actualEntryTime : Option Timestamp := none
  exitPrice : Option ℚ := none
  exitTime : Option Timestamp := none
  pnl : Option ℚ := none

/-- The checks of a record. -/
def PositionRecord.validate (r : PositionRecord) : Except ModelError Unit := do
  check (∀ p ∈ r.actualEntry, 0 ≤ p) (ModelError.validation "actual_entry must be >= 0")
  check (∀ p ∈ r.exitPrice, 0 ≤ p) (.validation "exit_price must be >= 0")
  check (r.signalTime < r.validUntil) (.validation "valid_until must be after signal_time")
  check (∀ entry ∈ r.actualEntryTime, ∀ exit ∈ r.exitTime, entry ≤ exit)
    (.validation "exit_time cannot be before actual_entry_time")

/-- The tracking state of one recommendation. -/
structure MT5TrackedRecommendation where
  positionRecord : PositionRecord
  approvedBrokerVolume : PositiveRat
  preExistingPositionIds : List ℕ := []
  matchedPositionId : Option ℕ := none
  lastMatchOutcome : Option MT5MatchOutcome := none
  lastReadAt : Option Timestamp := none

namespace MT5TrackedRecommendation

/-- The status of the record. -/
def status (t : MT5TrackedRecommendation) : TradeStatus := t.positionRecord.status

/-- The symbol of the record. -/
def symbol (t : MT5TrackedRecommendation) : Symbol := t.positionRecord.symbol

/-- The checks of a tracking state. -/
def validate (t : MT5TrackedRecommendation) : Except ModelError Unit := do
  t.positionRecord.validate
  check (∀ p ∈ t.matchedPositionId, 0 < p)
    (.validation "matched_position_id must be greater than 0")
  check t.preExistingPositionIds.Nodup
    (.validation "pre_existing_position_ids must not contain duplicates")
  check (∀ p ∈ t.matchedPositionId, p ∉ t.preExistingPositionIds)
    (.validation "matched_position_id must not be a pre-existing position id")
  match t.matchedPositionId with
  | some _ =>
      check (t.status ∈ [.opened, .win, .loss, .breakeven])
        (.validation "a matched recommendation must carry a post-match status")
  | none =>
      check (t.status ∈ [.pending, .notFilled])
        (.validation "an unmatched recommendation must carry a pre-match status")

/-- Construct a tracking state. -/
def construct (t : MT5TrackedRecommendation) : Except ModelError MT5TrackedRecommendation := do
  t.validate
  return t

theorem construct_ok_iff {t t' : MT5TrackedRecommendation} :
    t.construct = .ok t' ↔ t.validate = .ok () ∧ t = t' := by
  simp only [construct, unit_bind_ok_iff, pure, Except.pure, Except.ok.injEq]

end MT5TrackedRecommendation

/-! ## The lifecycle of a position -/

/-- The reconstructed state of one position. -/
structure MT5PositionLifecycleAssessment where
  asOf : Timestamp
  positionId : ℕ
  outcome : MT5RealizedPnLOutcome
  isFullyClosed : Option Bool := none
  actualEntry : Option ℚ := none
  actualEntryTime : Option Timestamp := none
  exitPrice : Option ℚ := none
  exitTime : Option Timestamp := none
  realizedPnl : Option ℚ := none
  blockedReasons : List MT5RealizedPnLBlockReason := []
  unsafeDealTickets : List ℕ+ := []

/-- The checks of a ready assessment. -/
def MT5PositionLifecycleAssessment.validateReady (a : MT5PositionLifecycleAssessment) :
    Except ModelError Unit := do
  check (a.isFullyClosed ≠ none) (ModelError.validation "READY requires is_fully_closed")
  check (a.actualEntry ≠ none ∧ a.actualEntryTime ≠ none)
    (.validation "READY requires actual_entry and actual_entry_time")
  check (a.realizedPnl ≠ none) (.validation "READY requires realized_pnl")
  check (a.blockedReasons = []) (.validation "READY must not carry blocked_reasons")
  check (a.unsafeDealTickets = []) (.validation "READY must not carry unsafe_deal_tickets")
  if a.isFullyClosed = some true then
    check (a.exitPrice ≠ none ∧ a.exitTime ≠ none)
      (ModelError.validation "a fully closed lifecycle requires exit_price and exit_time")
  else
    check (a.exitPrice = none ∧ a.exitTime = none)
      (ModelError.validation "an open lifecycle must not carry exit_price/exit_time")

/-- The checks of a blocked assessment. -/
def MT5PositionLifecycleAssessment.validateBlocked (a : MT5PositionLifecycleAssessment) :
    Except ModelError Unit := do
  check (a.isFullyClosed = none) (ModelError.validation "BLOCKED must not carry is_fully_closed")
  check (a.actualEntry = none ∧ a.actualEntryTime = none)
    (.validation "BLOCKED must not carry actual_entry/actual_entry_time")
  check (a.exitPrice = none ∧ a.exitTime = none)
    (.validation "BLOCKED must not carry exit_price/exit_time")
  check (a.realizedPnl = none) (.validation "BLOCKED must not carry realized_pnl")
  check (a.blockedReasons ≠ []) (.validation "BLOCKED requires at least one blocked_reason")
  check (a.unsafeDealTickets ≠ []) (.validation "BLOCKED requires at least one unsafe deal ticket")

/-- The checks of an assessment. -/
def MT5PositionLifecycleAssessment.validate (a : MT5PositionLifecycleAssessment) :
    Except ModelError Unit := do
  check (0 < a.positionId) (ModelError.validation "position_id must be greater than 0")
  check (∀ p ∈ a.actualEntry, 0 ≤ p) (.validation "actual_entry must be >= 0")
  check (∀ p ∈ a.exitPrice, 0 ≤ p) (.validation "exit_price must be >= 0")
  match a.outcome with
  | .ready => a.validateReady
  | .blocked => a.validateBlocked
  check ((a.blockedReasons.map MT5RealizedPnLBlockReason.index).Pairwise (· ≤ ·))
    (ModelError.validation
      "blocked_reasons must be in canonical MT5RealizedPnLBlockReason order")
  check (a.blockedReasons.map MT5RealizedPnLBlockReason.index).Nodup
    (.validation "blocked_reasons must not contain duplicates")
  check a.unsafeDealTickets.Nodup
    (.validation "unsafe_deal_tickets must not contain duplicates")

variable (R : Rounding)

/-- Why a deal blocks the reconstruction of its position. -/
def lifecycleReason (deal : MT5Deal) : Option MT5RealizedPnLBlockReason :=
  if deal.time ≤ epoch then some .malformedTimestamp
  else
    match deal.dealType with
    | .nonTrading => none
    | .unknown => some .unmappableDealType
    | .buy | .sell =>
        match classifyTradingDeal R deal with
        | .ok _ => none
        | .error reason => some reason

/-- The deals of a position that trade. -/
def tradingDeals (positionId : ℕ) (deals : List MT5Deal) : List MT5Deal :=
  deals.filter fun deal => deal.positionId = positionId ∧ deal.dealType ≠ .nonTrading

/-- The running exposure: an opening deal adds its volume, any other deal takes it away. -/
def netVolume (deals : List MT5Deal) : ℚ :=
  deals.foldl (fun net deal =>
    R.rnd (if deal.entry = .entryIn then net + deal.volume else net - deal.volume)) 0

/-- The volume-weighted price of some deals. -/
def averagePrice (deals : List MT5Deal) : Except ModelError ℚ :=
  let volume := R.sum (deals.map fun deal => (deal.volume : ℚ))
  let value := R.sum (deals.map fun deal => R.rnd (deal.price * deal.volume))
  if volume = 0 then .error .divisionByZero else .ok (R.rnd (value / volume))

/-- The state of a position whose deals can all be classified. -/
def assessTradingDeals (asOf : Timestamp) (positionId : ℕ) (deals : List MT5Deal) :
    Except ModelError MT5PositionLifecycleAssessment := do
  let inDeals := deals.filter fun deal => deal.entry = .entryIn
  let outDeals := deals.filter fun deal => deal.entry ≠ .entryIn
  check (inDeals ≠ []) .assertion
  let actualEntry ← averagePrice R inDeals
  let contributions := deals.filterMap fun deal => (classifyTradingDeal R deal).toOption
  let ready : MT5PositionLifecycleAssessment :=
    { asOf, positionId, outcome := .ready, isFullyClosed := some false
      actualEntry := some actualEntry, actualEntryTime := (inDeals.map MT5Deal.time).min?
      realizedPnl := some (R.sum contributions) }
  if netVolume R deals ≤ 0 then
    check (outDeals ≠ []) .assertion
    let exitPrice ← averagePrice R outDeals
    return { ready with
              isFullyClosed := some true, exitPrice := some exitPrice
              exitTime := (outDeals.map MT5Deal.time).max? }
  else return ready

/-- The state of a position from its deals, before it is validated. -/
def draftLifecycle (asOf : Timestamp) (positionId : ℕ) (deals : List MT5Deal) :
    Except ModelError MT5PositionLifecycleAssessment :=
  let relevant := deals.filter fun deal => deal.positionId = positionId
  let blockedReasonSet := relevant.filterMap (lifecycleReason R)
  if blockedReasonSet ≠ [] then
    .ok { asOf, positionId, outcome := .blocked
          blockedReasons := MT5RealizedPnLBlockReason.order.filter (· ∈ blockedReasonSet)
          unsafeDealTickets := (relevant.filter fun deal => lifecycleReason R deal ≠ none).map
            MT5Deal.ticket }
  else assessTradingDeals R asOf positionId (tradingDeals positionId deals)

/-- The state of a position from the deals of the history. -/
def reconstructPositionLifecycle (asOf : Timestamp) (positionId : ℕ) (deals : List MT5Deal) :
    Except ModelError MT5PositionLifecycleAssessment := do
  let assessment ← draftLifecycle R asOf positionId deals
  assessment.validate
  return assessment

/-! ## Creation -/

/-- What a positions read observed. -/
inductive MT5PositionsReadStatus
  | ok
  | unavailable
  | unmappablePositionSide
  deriving DecidableEq, Repr

/-- A fresh pending recommendation; none is created from an unconfirmed snapshot. -/
def createTrackedRecommendation (record : PositionRecord) (approvedBrokerVolume : PositiveRat)
    (status : MT5PositionsReadStatus) (positions : List MT5Position) :
    Except ModelError (Option MT5TrackedRecommendation) :=
  if status ≠ .ok then .ok none
  else
    let preExistingPositionIds :=
      ((positions.filter fun p => p.symbol = record.symbol).map fun p => (p.ticket : ℕ)).dedup
    some <$> MT5TrackedRecommendation.construct
      { positionRecord := record, approvedBrokerVolume
        preExistingPositionIds := preExistingPositionIds.insertionSort (· ≤ ·) }

/-! ## One cycle of one recommendation -/

/-- One read of the deal history, claimed to be complete up to `coversUntil`. -/
structure HistoryRead where
  asOf : Timestamp
  status : MT5HistoryReadStatus
  coversUntil : Timestamp
  deals : List MT5Deal

/-- The status of a closed trade. -/
def classifyTerminalStatus (pnl : ℚ) : TradeStatus :=
  if 0 < pnl then .win else if pnl < 0 then .loss else .breakeven

/-- Take over the state of the matched position. -/
def followLifecycle (h : HistoryRead) (t : MT5TrackedRecommendation) (positionId : ℕ) :
    Except ModelError MT5TrackedRecommendation :=
  let read := { t with lastReadAt := some h.asOf }
  if h.status ≠ .ok then read.construct
  else do
    let lifecycle ← reconstructPositionLifecycle R h.asOf positionId h.deals
    match lifecycle.outcome, lifecycle.isFullyClosed, lifecycle.realizedPnl with
    | .blocked, _, _ => read.construct
    | .ready, some true, some pnl =>
        MT5TrackedRecommendation.construct { read with
          positionRecord := { t.positionRecord with
            status := classifyTerminalStatus pnl
            actualEntry := lifecycle.actualEntry
            actualEntryTime := lifecycle.actualEntryTime
            exitPrice := lifecycle.exitPrice
            exitTime := lifecycle.exitTime
            pnl := some pnl } }
    | .ready, some true, none => .error .assertion
    | .ready, _, _ =>
        MT5TrackedRecommendation.construct { read with
          positionRecord := { t.positionRecord with
            status := .opened
            actualEntry := lifecycle.actualEntry
            actualEntryTime := lifecycle.actualEntryTime } }

/-- The recommendation's side of its matching attempt. -/
def MT5TrackedRecommendation.request (t : MT5TrackedRecommendation) (claimed : List ℕ) :
    MatchRequest where
  symbol := t.symbol
  direction := t.positionRecord.direction
  signalTime := t.positionRecord.signalTime
  validUntil := t.positionRecord.validUntil
  approvedBrokerVolume := t.approvedBrokerVolume
  preExistingPositionIds := t.preExistingPositionIds
  alreadyClaimedPositionIds := claimed

/-- Advance one recommendation by one cycle. A recommendation that has a match is never matched
again. -/
def advanceTrackedRecommendation (h : HistoryRead) (claimed : List ℕ)
    (t : MT5TrackedRecommendation) : Except ModelError MT5TrackedRecommendation :=
  match t.matchedPositionId with
  | some positionId => followLifecycle R h t positionId
  | none => do
      let result ← matchRecommendation R (t.request claimed) h.deals h.status h.coversUntil
      let read := { t with lastMatchOutcome := some result.outcome, lastReadAt := some h.asOf }
      match result.outcome, result.matchedPositionId with
      | .expiredConfirmedUnfilled, _ =>
          MT5TrackedRecommendation.construct
            { read with positionRecord := { t.positionRecord with status := .notFilled } }
      | .matched, some positionId =>
          let opened ← MT5TrackedRecommendation.construct
            { read with
              matchedPositionId := some positionId
              positionRecord := { t.positionRecord with status := .opened } }
          followLifecycle R h opened positionId
      | .matched, none => .error .assertion
      | _, _ => read.construct

/-! ## What creation and a cycle do to a recommendation -/

/-- A recommendation is created from its record, and unmatched. -/
theorem createTracked_spec {record : PositionRecord} {volume : PositiveRat}
    {status : MT5PositionsReadStatus} {positions : List MT5Position}
    {t : MT5TrackedRecommendation}
    (h : createTrackedRecommendation record volume status positions = .ok (some t)) :
    t.status = record.status ∧ t.matchedPositionId = none ∧ t.symbol = record.symbol := by
  dsimp only [createTrackedRecommendation] at h
  split_ifs at h
  · cases h
  · obtain ⟨t', ht', heq⟩ := map_ok_iff.mp h
    cases heq
    cases (MT5TrackedRecommendation.construct_ok_iff.mp ht').2
    exact ⟨rfl, rfl, rfl⟩

/-- A status that keeps the per-symbol lock. -/
def TradeStatus.HoldsLock (status : TradeStatus) : Prop := status = pending ∨ status = opened

instance (status : TradeStatus) : Decidable status.HoldsLock :=
  inferInstanceAs (Decidable (_ ∨ _))

theorem not_holdsLock_classifyTerminalStatus (pnl : ℚ) :
    ¬ (classifyTerminalStatus pnl).HoldsLock := by
  unfold classifyTerminalStatus
  split_ifs <;> decide

/-- The history shows the position with exposure left. -/
def LifecycleOpen (h : HistoryRead) (positionId : ℕ) : Prop :=
  h.status = .ok ∧ ∃ a, reconstructPositionLifecycle R h.asOf positionId h.deals = .ok a ∧
    a.outcome = .ready ∧ a.isFullyClosed ≠ some true

/-- The history shows the position fully closed. -/
def LifecycleClosed (h : HistoryRead) (positionId : ℕ) : Prop :=
  h.status = .ok ∧ ∃ a, reconstructPositionLifecycle R h.asOf positionId h.deals = .ok a ∧
    a.outcome = .ready ∧ a.isFullyClosed = some true

/-- The recommendation is matched with this position in this cycle. -/
def MatchedWith (h : HistoryRead) (claimed : List ℕ) (t : MT5TrackedRecommendation)
    (positionId : ℕ) : Prop :=
  ∃ r, matchRecommendation R (t.request claimed) h.deals h.status h.coversUntil = .ok r ∧
    r.outcome = .matched ∧ r.matchedPositionId = some positionId

/-- The recommendation is confirmed unfilled in this cycle. -/
def ExpiresUnfilled (h : HistoryRead) (claimed : List ℕ) (t : MT5TrackedRecommendation) : Prop :=
  ∃ r, matchRecommendation R (t.request claimed) h.deals h.status h.coversUntil = .ok r ∧
    r.outcome = .expiredConfirmedUnfilled

/-- A resolved recommendation becomes unresolved: a late match whose position is not closed, or
new exposure of its position. -/
def Reopens (h : HistoryRead) (claimed : List ℕ) (t : MT5TrackedRecommendation) : Prop :=
  match t.matchedPositionId with
  | some positionId => LifecycleOpen R h positionId
  | none => ∃ positionId, MatchedWith R h claimed t positionId ∧ ¬ LifecycleClosed R h positionId

/-- An unresolved recommendation stays so: it is not confirmed unfilled, and its position, if it
has one by now, is not closed. -/
def StaysUnresolved (h : HistoryRead) (claimed : List ℕ) (t : MT5TrackedRecommendation) : Prop :=
  match t.matchedPositionId with
  | some positionId => ¬ LifecycleClosed R h positionId
  | none => ¬ ExpiresUnfilled R h claimed t ∧
      ∀ positionId, MatchedWith R h claimed t positionId → ¬ LifecycleClosed R h positionId

/-- The recommendation is unresolved once the cycle has advanced it. -/
def UnresolvedAfter (h : HistoryRead) (claimed : List ℕ) (t : MT5TrackedRecommendation) : Prop :=
  if t.status.HoldsLock then StaysUnresolved R h claimed t else Reopens R h claimed t

variable {R} {h : HistoryRead} {claimed : List ℕ} {t t' : MT5TrackedRecommendation} {p : ℕ}

/-- The status a recommendation takes over from its position. -/
theorem followLifecycle_cases (hok : followLifecycle R h t p = .ok t') :
    t'.symbol = t.symbol ∧ t'.matchedPositionId = t.matchedPositionId ∧
      ((¬ LifecycleOpen R h p ∧ ¬ LifecycleClosed R h p ∧ t'.status = t.status) ∨
        (LifecycleOpen R h p ∧ t'.status = .opened) ∨
        (LifecycleClosed R h p ∧ ¬ t'.status.HoldsLock)) := by
  dsimp only [followLifecycle] at hok
  split_ifs at hok with hstatus
  · cases (MT5TrackedRecommendation.construct_ok_iff.mp hok).2
    exact ⟨rfl, rfl, .inl ⟨fun hopen => hstatus hopen.1, fun hclosed => hstatus hclosed.1, rfl⟩⟩
  · rw [not_not] at hstatus
    obtain ⟨a, ha, hok⟩ := bind_ok_iff.mp hok
    split at hok
    · next hblocked =>
        cases (MT5TrackedRecommendation.construct_ok_iff.mp hok).2
        refine ⟨rfl, rfl, .inl ⟨?_, ?_, rfl⟩⟩
        all_goals
          rintro ⟨-, a', ha', hready, -⟩
          rw [ha] at ha'
          cases ha'
          rw [hblocked] at hready
          cases hready
    · next hready hclosed _ =>
        cases (MT5TrackedRecommendation.construct_ok_iff.mp hok).2
        exact ⟨rfl, rfl, .inr (.inr ⟨⟨hstatus, a, ha, hready, hclosed⟩,
          not_holdsLock_classifyTerminalStatus _⟩)⟩
    · cases hok
    · next hready hunclosed hunpaid =>
        cases (MT5TrackedRecommendation.construct_ok_iff.mp hok).2
        refine ⟨rfl, rfl, .inr (.inl ⟨⟨hstatus, a, ha, hready, fun hclosed => ?_⟩, rfl⟩)⟩
        rcases hpnl : a.realizedPnl with - | pnl
        · exact hunpaid hclosed hpnl
        · exact hunclosed pnl hclosed hpnl

theorem not_lifecycleOpen_of_closed (hclosed : LifecycleClosed R h p) : ¬ LifecycleOpen R h p := by
  rintro ⟨-, a, ha, -, hopen⟩
  obtain ⟨-, a', ha', -, hclosed⟩ := hclosed
  rw [ha] at ha'
  cases ha'
  exact hopen hclosed

theorem MatchedWith.eq {p' : ℕ} (hp : MatchedWith R h claimed t p)
    (hp' : MatchedWith R h claimed t p') : p = p' := by
  obtain ⟨r, hr, -, hid⟩ := hp
  obtain ⟨r', hr', -, hid'⟩ := hp'
  rw [hr] at hr'
  cases hr'
  rw [hid] at hid'
  exact Option.some.inj hid'

theorem MatchedWith.not_expiresUnfilled (hp : MatchedWith R h claimed t p) :
    ¬ ExpiresUnfilled R h claimed t := by
  obtain ⟨r, hr, hmatched, -⟩ := hp
  rintro ⟨r', hr', hexpired⟩
  rw [hr] at hr'
  cases hr'
  rw [hmatched] at hexpired
  cases hexpired

theorem MatchedWith.notMem_claimed (hp : MatchedWith R h claimed t p) : p ∉ claimed := by
  obtain ⟨r, hr, hmatched, hid⟩ := hp
  exact matched_notMem_claimed hr hmatched hid

/-- **What a cycle does to a recommendation**: it follows the match it has, or stays unmatched,
or is matched now and follows that match. -/
theorem advance_cases (hok : advanceTrackedRecommendation R h claimed t = .ok t') :
    t'.symbol = t.symbol ∧
      ((∃ p, t.matchedPositionId = some p ∧ t'.matchedPositionId = some p ∧
          ((¬ LifecycleOpen R h p ∧ ¬ LifecycleClosed R h p ∧ t'.status = t.status) ∨
            (LifecycleOpen R h p ∧ t'.status = .opened) ∨
            (LifecycleClosed R h p ∧ ¬ t'.status.HoldsLock))) ∨
        (t.matchedPositionId = none ∧ (∀ p, ¬ MatchedWith R h claimed t p) ∧
          t'.matchedPositionId = none ∧
          ((¬ ExpiresUnfilled R h claimed t ∧ t'.status = t.status) ∨
            (ExpiresUnfilled R h claimed t ∧ t'.status = .notFilled))) ∨
        (∃ p, t.matchedPositionId = none ∧ MatchedWith R h claimed t p ∧
          t'.matchedPositionId = some p ∧
          ((¬ LifecycleClosed R h p ∧ t'.status = .opened) ∨
            (LifecycleClosed R h p ∧ ¬ t'.status.HoldsLock)))) := by
  unfold advanceTrackedRecommendation at hok
  split at hok
  · next p hp =>
      obtain ⟨hsymbol, hmatched, hcases⟩ := followLifecycle_cases hok
      exact ⟨hsymbol, .inl ⟨p, hp, hmatched.trans hp, hcases⟩⟩
  · next hnone =>
      obtain ⟨r, hr, hok⟩ := bind_ok_iff.mp hok
      have unmatched (hne : r.outcome ≠ .matched) (p : ℕ) : ¬ MatchedWith R h claimed t p := by
        rintro ⟨r', hr', hmatched, -⟩
        rw [hr] at hr'
        cases hr'
        exact hne hmatched
      split at hok
      · next hexpired =>
          cases (MT5TrackedRecommendation.construct_ok_iff.mp hok).2
          exact ⟨rfl, .inr (.inl ⟨hnone, unmatched (by rw [hexpired]; decide), hnone,
            .inr ⟨⟨r, hr, hexpired⟩, rfl⟩⟩)⟩
      · next p hmatched hp =>
          obtain ⟨opened, hopened, hok⟩ := bind_ok_iff.mp hok
          cases (MT5TrackedRecommendation.construct_ok_iff.mp hopened).2
          obtain ⟨hsymbol, hid, hcases⟩ := followLifecycle_cases hok
          refine ⟨hsymbol, .inr (.inr ⟨p, hnone, ⟨r, hr, hmatched, hp⟩, hid, ?_⟩)⟩
          rcases hcases with ⟨-, hclosed, hst⟩ | ⟨hopen, hst⟩ | hclosed
          · exact .inl ⟨hclosed, hst⟩
          · exact .inl ⟨fun hclosed => not_lifecycleOpen_of_closed hclosed hopen, hst⟩
          · exact .inr hclosed
      · cases hok
      · next hexpired hunmatched hmatched =>
          cases (MT5TrackedRecommendation.construct_ok_iff.mp hok).2
          refine ⟨rfl, .inr (.inl ⟨hnone, unmatched fun hout => ?_, hnone, .inl ⟨?_, rfl⟩⟩)⟩
          · rcases hid : r.matchedPositionId with - | p
            · exact hmatched hout hid
            · exact hunmatched p hout hid
          · rintro ⟨r', hr', hout⟩
            rw [hr] at hr'
            cases hr'
            exact hexpired hout

/-- **When a recommendation is unresolved after a cycle.** -/
theorem holdsLock_advance_iff (hok : advanceTrackedRecommendation R h claimed t = .ok t') :
    t'.status.HoldsLock ↔ UnresolvedAfter R h claimed t := by
  unfold UnresolvedAfter StaysUnresolved Reopens
  obtain ⟨-, ⟨p, hp, -, hcases⟩ | ⟨hnone, hunmatched, -, hcases⟩ | ⟨p, hnone, hp, -, hcases⟩⟩ :=
    advance_cases hok
  · simp only [hp]
    rcases hcases with ⟨hopen, hclosed, hst⟩ | ⟨hopen, hst⟩ | ⟨hclosed, hst⟩
    · rw [hst]
      split_ifs with hlock <;> simp [hlock, hopen, hclosed]
    · have hclosed : ¬ LifecycleClosed R h p := fun hclosed =>
        not_lifecycleOpen_of_closed hclosed hopen
      exact iff_of_true (.inr hst) (by split_ifs <;> assumption)
    · have hopen := not_lifecycleOpen_of_closed hclosed
      refine iff_of_false hst ?_
      split_ifs
      · exact not_not_intro hclosed
      · exact hopen
  · simp only [hnone]
    rcases hcases with ⟨hexpires, hst⟩ | ⟨hexpires, hst⟩
    · rw [hst]
      split_ifs with hlock
      · exact iff_of_true hlock ⟨hexpires, fun p hp => absurd hp (hunmatched p)⟩
      · exact iff_of_false hlock fun ⟨p, hp, _⟩ => hunmatched p hp
    · rw [hst]
      refine iff_of_false (by decide) ?_
      split_ifs
      · exact fun hstays => hstays.1 hexpires
      · exact fun ⟨p, hp, _⟩ => hunmatched p hp
  · simp only [hnone]
    have hunexpired : ¬ ExpiresUnfilled R h claimed t := hp.not_expiresUnfilled
    rcases hcases with ⟨hclosed, hst⟩ | ⟨hclosed, hst⟩
    · refine iff_of_true (.inr hst) ?_
      split_ifs
      · exact ⟨hunexpired, fun p' hp' => hp.eq hp' ▸ hclosed⟩
      · exact ⟨p, hp, hclosed⟩
    · refine iff_of_false hst ?_
      split_ifs
      · exact fun hstays => hstays.2 p hp hclosed
      · exact fun ⟨p', hp', hnot⟩ => hnot (hp.eq hp' ▸ hclosed)

end TradingAdvisor
