import Mathlib.Data.List.Pairwise
import Mathlib.Data.String.Basic
import TradingAdvisor.Core.Strategy

/-!
# Rollover equity

Once per trading day the equity is persisted, and every cycle of the day takes its loss limit from
it. A document that cannot be read blocks the cycle and stays as it is.

* `decideRollover` — the decision of one cycle;
* `runRollover`, `rolloverRun` — the rollover part of one cycle, and of a sequence of cycles;
* `runRollover_cases` — what one cycle can do to the document;
* **`rollover_equity_fixed`** — all usable snapshots of a trading day carry one equity, and the
  persisted day never goes back.
-/

namespace TradingAdvisor

open Checks

/-- Trading days begin at midnight unless they are configured otherwise. -/
def defaultRolloverHour : Fin 24 := 0

/-- Boundary policy of the broker's trading day. -/
structure MT5RolloverPolicyConfig where
  rolloverTimezone : NonemptyText
  rolloverHour : Fin 24 := defaultRolloverHour

/-- Result of one rollover evaluation. -/
inductive MT5RolloverOutcome
  | ready
  | bootstrappedMidday
  | persistenceUnavailable
  | persistenceCorrupt
  | configMismatch
  | futureState
  deriving DecidableEq, Repr

/-- The outcomes that carry a rollover state. -/
def MT5RolloverOutcome.Usable (outcome : MT5RolloverOutcome) : Prop :=
  outcome = ready ∨ outcome = bootstrappedMidday

instance (outcome : MT5RolloverOutcome) : Decidable outcome.Usable :=
  inferInstanceAs (Decidable (_ ∨ _))

/-- The rollover fact of one broker trading day. -/
structure MT5RolloverState where
  tradingDayKey : String
  rolloverEquity : PositiveRat
  deriving DecidableEq

/-- One rollover evaluation with the account figures it was made with. -/
structure MT5RolloverSnapshot where
  asOf : Timestamp
  rolloverOutcome : MT5RolloverOutcome
  rolloverState : Option MT5RolloverState
  currentEquity : PositiveRat
  floatingPnl : ℚ
  state_iff : rolloverState.isSome ↔ rolloverOutcome.Usable

/-- How a rollover state came about. -/
inductive MT5RolloverEstablishmentMode
  | middayBootstrap
  | postBoundaryFirstObservation
  deriving DecidableEq, Repr

/-- The persisted rollover state, with the policy it was established under. -/
structure MT5RolloverDocument extends MT5RolloverState where
  establishedAt : Timestamp
  rolloverTimezone : NonemptyText
  rolloverHour : Fin 24
  establishmentMode : MT5RolloverEstablishmentMode
  deriving DecidableEq

/-- What a read of the document observed, with the state of a valid one. -/
inductive PersistedStateRead
  | absent
  | valid (state : MT5RolloverDocument)
  | corrupt
  | unavailable
  deriving DecidableEq

/-- The state of a valid read. -/
def PersistedStateRead.state? : PersistedStateRead → Option MT5RolloverDocument
  | valid state => some state
  | _ => none

/-- Equity as a rollover equity; a day cannot start from nothing. -/
def positiveEquity (equity : Money) : Except ModelError PositiveRat :=
  if h : 0 < (equity : ℚ) then .ok ⟨equity, h⟩
  else .error (.validation "rollover_equity must be greater than 0")

/-- A state for this day, from the current equity and the policy in force. -/
def establish (currentTradingDayKey : String) (currentEquity : Money) (asOf : Timestamp)
    (policy : MT5RolloverPolicyConfig) (establishmentMode : MT5RolloverEstablishmentMode) :
    Except ModelError MT5RolloverDocument := do
  let rolloverEquity ← positiveEquity currentEquity
  return {
    tradingDayKey := currentTradingDayKey, rolloverEquity, establishedAt := asOf
    rolloverTimezone := policy.rolloverTimezone, rolloverHour := policy.rolloverHour
    establishmentMode }

/-- The deterministic rollover state machine. -/
def decideRollover (currentTradingDayKey : String) (currentEquity : Money) (asOf : Timestamp)
    (policy : MT5RolloverPolicyConfig) (read : PersistedStateRead) :
    Except ModelError (MT5RolloverOutcome × Option MT5RolloverDocument) :=
  match read with
  | .corrupt => .ok (.persistenceCorrupt, none)
  | .unavailable => .ok (.persistenceUnavailable, none)
  | .absent => do
      let state ← establish currentTradingDayKey currentEquity asOf policy .middayBootstrap
      return (.bootstrappedMidday, some state)
  | .valid persisted =>
      if currentTradingDayKey < persisted.tradingDayKey then .ok (.futureState, none)
      else if persisted.tradingDayKey < currentTradingDayKey then do
        let state ←
          establish currentTradingDayKey currentEquity asOf policy .postBoundaryFirstObservation
        return (.ready, some state)
      else if persisted.rolloverTimezone ≠ policy.rolloverTimezone ∨
          persisted.rolloverHour ≠ policy.rolloverHour then .ok (.configMismatch, none)
      else .ok (.ready, some persisted)

/-- The snapshot of a decided outcome. -/
def buildRolloverSnapshot (asOf : Timestamp) (currentEquity : Money) (floatingPnl : ℚ)
    (outcome : MT5RolloverOutcome) (state : Option MT5RolloverDocument) :
    Except ModelError MT5RolloverSnapshot := do
  let currentEquity ← positiveEquity currentEquity
  if h : (state.map MT5RolloverDocument.toMT5RolloverState).isSome ↔ outcome.Usable then
    return {
      asOf, rolloverOutcome := outcome
      rolloverState := state.map MT5RolloverDocument.toMT5RolloverState
      currentEquity, floatingPnl, state_iff := h }
  else .error (.validation "rollover_state must be present exactly for a usable outcome")

/-- The account figures of one cycle. -/
structure MT5AccountFacts where
  equity : Money
  floatingPnl : ℚ

/-- What keeps a document from being read. -/
inductive ReadFault
  | corrupt
  | unavailable
  deriving DecidableEq, Repr

/-- What one cycle brings to the rollover. -/
structure RolloverCycle where
  asOf : Timestamp
  tradingDayKey : String
  policy : MT5RolloverPolicyConfig
  accountFacts : Option MT5AccountFacts
  fault : Option ReadFault := none

/-- The read of the document in a cycle. -/
def RolloverCycle.read (cycle : RolloverCycle) (document : Option MT5RolloverDocument) :
    PersistedStateRead :=
  match cycle.fault, document with
  | some .corrupt, _ => .corrupt
  | some .unavailable, _ => .unavailable
  | none, none => .absent
  | none, some state => .valid state

/-- The rollover part of a cycle: its snapshot, and the document after it. -/
def runRollover (document : Option MT5RolloverDocument) (cycle : RolloverCycle) :
    Except ModelError (Option MT5RolloverSnapshot × Option MT5RolloverDocument) :=
  match cycle.accountFacts with
  | none => .ok (none, document)
  | some facts => do
      let read := cycle.read document
      let (outcome, state) ←
        decideRollover cycle.tradingDayKey facts.equity cycle.asOf cycle.policy read
      let snapshot ←
        buildRolloverSnapshot cycle.asOf facts.equity facts.floatingPnl outcome state
      let written := if state.isSome ∧ state ≠ read.state? then state else document
      return (some snapshot, written)

/-- A cycle that raises leaves the document as it was. -/
def advanceRollover (document : Option MT5RolloverDocument) (cycle : RolloverCycle) :
    Option MT5RolloverSnapshot × Option MT5RolloverDocument :=
  match runRollover document cycle with
  | .ok result => result
  | .error _ => (none, document)

/-- What is left of a cycle: its day, its snapshot, and the document after it. -/
structure RolloverObservation where
  tradingDayKey : String
  snapshot : Option MT5RolloverSnapshot
  document : Option MT5RolloverDocument

/-- The cycles in order. -/
def rolloverRun : Option MT5RolloverDocument → List RolloverCycle → List RolloverObservation
  | _, [] => []
  | document, cycle :: cycles =>
      let (snapshot, document) := advanceRollover document cycle
      { tradingDayKey := cycle.tradingDayKey, snapshot, document } :: rolloverRun document cycles

/-! ## What one cycle does -/

/-- The document stays, or a later day replaces it. -/
def Supersedes (later earlier : Option MT5RolloverDocument) : Prop :=
  ∀ state ∈ earlier, ∃ state' ∈ later,
    state' = state ∨ state.tradingDayKey < state'.tradingDayKey

/-- The usable snapshot of the cycle is the document it leaves, for its own day. -/
def Agrees (observation : RolloverObservation) : Prop :=
  ∀ snapshot ∈ observation.snapshot, ∀ state ∈ snapshot.rolloverState,
    state.tradingDayKey = observation.tradingDayKey ∧
      observation.document.map MT5RolloverDocument.toMT5RolloverState = some state

variable {document document' : Option MT5RolloverDocument} {cycle : RolloverCycle}
  {cycles : List RolloverCycle} {snapshot : Option MT5RolloverSnapshot}

theorem Supersedes.refl : Supersedes document document :=
  fun state hstate => ⟨state, hstate, .inl rfl⟩

theorem Supersedes.trans {document'' : Option MT5RolloverDocument}
    (h' : Supersedes document'' document') (h : Supersedes document' document) :
    Supersedes document'' document := by
  intro state hstate
  obtain ⟨state', hstate', hle⟩ := h state hstate
  obtain ⟨state'', hstate'', hle'⟩ := h' state' hstate'
  refine ⟨state'', hstate'', ?_⟩
  rcases hle with rfl | hlt
  · exact hle'
  · rcases hle' with rfl | hlt'
    · exact .inr hlt
    · exact .inr (hlt.trans hlt')

theorem establish_ok {key : String} {equity : Money} {asOf : Timestamp}
    {policy : MT5RolloverPolicyConfig} {mode : MT5RolloverEstablishmentMode}
    {state : MT5RolloverDocument} (h : establish key equity asOf policy mode = .ok state) :
    state.tradingDayKey = key := by
  obtain ⟨rolloverEquity, -, h⟩ := bind_ok_iff.mp h
  cases h
  rfl

/-- A decided state is the persisted one or one of a later day, and is of the current day. -/
theorem decideRollover_state {key : String} {equity : Money} {asOf : Timestamp}
    {policy : MT5RolloverPolicyConfig} {read : PersistedStateRead} {outcome : MT5RolloverOutcome}
    {state : MT5RolloverDocument}
    (h : decideRollover key equity asOf policy read = .ok (outcome, some state)) :
    state.tradingDayKey = key ∧
      (read = .absent ∨ ∃ persisted, read = .valid persisted ∧
        (state = persisted ∨ persisted.tradingDayKey < state.tradingDayKey)) := by
  cases read with
  | corrupt | unavailable => cases h
  | absent =>
      obtain ⟨established, hstate, h⟩ := bind_ok_iff.mp h
      cases h
      exact ⟨establish_ok hstate, .inl rfl⟩
  | valid persisted =>
      rw [decideRollover] at h
      by_cases hback : key < persisted.tradingDayKey
      · rw [if_pos hback] at h
        cases h
      rw [if_neg hback] at h
      by_cases hnext : persisted.tradingDayKey < key
      · rw [if_pos hnext] at h
        obtain ⟨established, hstate, h⟩ := bind_ok_iff.mp h
        cases h
        have hkey := establish_ok hstate
        exact ⟨hkey, .inr ⟨persisted, rfl, .inr (hkey ▸ hnext)⟩⟩
      rw [if_neg hnext] at h
      have hsame : persisted.tradingDayKey = key := le_antisymm (not_lt.mp hback) (not_lt.mp hnext)
      split_ifs at h with hpolicy
      · cases h
      · cases h
        exact ⟨hsame, .inr ⟨_, rfl, .inl rfl⟩⟩

theorem buildRolloverSnapshot_state {asOf : Timestamp} {equity : Money} {floatingPnl : ℚ}
    {outcome : MT5RolloverOutcome} {state : Option MT5RolloverDocument} {s : MT5RolloverSnapshot}
    (h : buildRolloverSnapshot asOf equity floatingPnl outcome state = .ok s) :
    s.rolloverState = state.map MT5RolloverDocument.toMT5RolloverState := by
  obtain ⟨positive, -, h⟩ := bind_ok_iff.mp h
  split_ifs at h
  cases h
  rfl

theorem read_healthy (h : cycle.read document ≠ .corrupt ∧ cycle.read document ≠ .unavailable) :
    (cycle.read document).state? = document := by
  unfold RolloverCycle.read at h ⊢
  generalize cycle.fault = fault at h ⊢
  rcases fault with _ | fault
  · cases document <;> rfl
  · cases fault <;> simp at h

/-- What the rollover part of a cycle does: the document stays or gives way to a later day, and a
usable snapshot shows the document that is then in the store. -/
theorem runRollover_cases (h : runRollover document cycle = .ok (snapshot, document')) :
    Supersedes document' document ∧ Agrees ⟨cycle.tradingDayKey, snapshot, document'⟩ := by
  unfold runRollover at h
  rcases hfacts : cycle.accountFacts with _ | facts
  · rw [hfacts] at h
    cases h
    exact ⟨.refl, nofun⟩
  rw [hfacts] at h
  obtain ⟨⟨outcome, state⟩, hdecide, h⟩ := bind_ok_iff.mp h
  obtain ⟨s, hbuild, h⟩ := bind_ok_iff.mp h
  cases h
  have hstate := buildRolloverSnapshot_state hbuild
  rcases state with _ | state
  · -- nothing is decided, and nothing is written
    refine ⟨by simpa using Supersedes.refl, ?_⟩
    rintro _ ⟨⟩ fact hfact
    rw [hstate] at hfact
    cases hfact
  · obtain ⟨hkey, hread⟩ := decideRollover_state hdecide
    have hhealthy : (cycle.read document).state? = document := by
      refine read_healthy ⟨fun hc => ?_, fun hu => ?_⟩
      · rcases hread with hr | ⟨persisted, hr, -⟩ <;> rw [hc] at hr <;> cases hr
      · rcases hread with hr | ⟨persisted, hr, -⟩ <;> rw [hu] at hr <;> cases hr
    have hwritten : (if (some state).isSome ∧ some state ≠ (cycle.read document).state? then
        some state else document) = some state := by
      rw [hhealthy]
      by_cases hsame : some state = document
      · rw [if_neg (by simp [hsame]), hsame]
      · rw [if_pos ⟨rfl, hsame⟩]
    rw [hwritten]
    refine ⟨fun earlier hearlier => ⟨state, rfl, ?_⟩, ?_⟩
    · rw [← hhealthy] at hearlier
      rcases hread with hr | ⟨persisted, hr, hlater⟩
      · rw [hr] at hearlier
        cases hearlier
      · rw [hr] at hearlier
        cases hearlier
        exact hlater
    · rintro _ ⟨⟩ fact hfact
      rw [hstate] at hfact
      cases hfact
      exact ⟨hkey, rfl⟩

theorem advanceRollover_cases (document : Option MT5RolloverDocument) (cycle : RolloverCycle) :
    Supersedes (advanceRollover document cycle).2 document ∧
      Agrees ⟨cycle.tradingDayKey, (advanceRollover document cycle).1,
        (advanceRollover document cycle).2⟩ := by
  unfold advanceRollover
  rcases h : runRollover document cycle with e | ⟨snapshot, document'⟩
  · exact ⟨.refl, nofun⟩
  · exact runRollover_cases h

/-! ## Sequences of cycles -/

theorem rolloverRun_supersedes (document : Option MT5RolloverDocument)
    (cycles : List RolloverCycle) :
    (∀ observation ∈ rolloverRun document cycles, Supersedes observation.document document) ∧
      (rolloverRun document cycles).Pairwise fun a b => Supersedes b.document a.document := by
  induction cycles generalizing document with
  | nil => exact ⟨nofun, .nil⟩
  | cons cycle cycles ih =>
      obtain ⟨hall, hpair⟩ := ih (advanceRollover document cycle).2
      have hstep := (advanceRollover_cases document cycle).1
      constructor
      · intro observation hmem
        rcases List.mem_cons.mp hmem with rfl | hmem
        · exact hstep
        · exact (hall observation hmem).trans hstep
      · exact .cons hall hpair

theorem rolloverRun_agrees (document : Option MT5RolloverDocument) (cycles : List RolloverCycle) :
    ∀ observation ∈ rolloverRun document cycles, Agrees observation := by
  induction cycles generalizing document with
  | nil => exact nofun
  | cons cycle cycles ih =>
      intro observation hmem
      rcases List.mem_cons.mp hmem with rfl | hmem
      · exact (advanceRollover_cases _ _).2
      · exact ih _ observation hmem

/-- Two usable snapshots of a trading day carry one equity. -/
def SameEquity (a b : RolloverObservation) : Prop :=
  a.tradingDayKey = b.tradingDayKey →
    ∀ s ∈ a.snapshot, ∀ s' ∈ b.snapshot, ∀ state ∈ s.rolloverState, ∀ state' ∈ s'.rolloverState,
      state.rolloverEquity = state'.rolloverEquity

instance : Std.Symm SameEquity where
  symm _ _ h hkey s hs s' hs' state hstate state' hstate' :=
    (h hkey.symm s' hs' s hs state' hstate' state hstate).symm

theorem sameEquity_of_supersedes {a b : RolloverObservation} (ha : Agrees a) (hb : Agrees b)
    (h : Supersedes b.document a.document) : SameEquity a b := by
  intro hkey s hs s' hs' state hstate state' hstate'
  obtain ⟨hday, hdoc⟩ := ha s hs state hstate
  obtain ⟨hday', hdoc'⟩ := hb s' hs' state' hstate'
  obtain ⟨stored, hstored, rfl⟩ := Option.map_eq_some_iff.mp hdoc
  obtain ⟨stored', hstored', rfl⟩ := Option.map_eq_some_iff.mp hdoc'
  obtain ⟨later, hlater, hle⟩ := h stored hstored
  obtain rfl : stored' = later := Option.some.inj (hstored'.symm.trans hlater)
  rcases hle with rfl | hlt
  · rfl
  · have hsame : stored.tradingDayKey = stored'.tradingDayKey := by rw [hday, hday', hkey]
    exact absurd (hsame ▸ hlt) (lt_irrefl _)

/-- The persisted trading day of a document. -/
def persistedKey (document : Option MT5RolloverDocument) : Option String :=
  document.map fun state => state.tradingDayKey

/-- **The rollover equity is fixed within a trading day**, and the persisted day never goes back. -/
theorem rollover_equity_fixed (document : Option MT5RolloverDocument)
    (cycles : List RolloverCycle) :
    (∀ a ∈ rolloverRun document cycles, ∀ b ∈ rolloverRun document cycles, SameEquity a b) ∧
      (document :: (rolloverRun document cycles).map RolloverObservation.document).Pairwise
        fun earlier later => ∀ key ∈ persistedKey earlier, ∃ key' ∈ persistedKey later,
          key ≤ key' := by
  obtain ⟨hall, hpair⟩ := rolloverRun_supersedes document cycles
  have hagrees := rolloverRun_agrees document cycles
  constructor
  · have hsame : (rolloverRun document cycles).Pairwise SameEquity :=
      hpair.imp_of_mem fun ha hb h => sameEquity_of_supersedes (hagrees _ ha) (hagrees _ hb) h
    have hself : ∀ a ∈ rolloverRun document cycles, SameEquity a a :=
      fun a ha => sameEquity_of_supersedes (hagrees a ha) (hagrees a ha) .refl
    exact fun a ha b hb => List.Pairwise.forall_of_forall hself hsame ha hb
  · have hkey : ∀ {earlier later : Option MT5RolloverDocument}, Supersedes later earlier →
        ∀ key ∈ persistedKey earlier, ∃ key' ∈ persistedKey later, key ≤ key' := by
      intro earlier later h key hmem
      obtain ⟨state, hstate, rfl⟩ := Option.map_eq_some_iff.mp hmem
      obtain ⟨state', hstate', hle⟩ := h state hstate
      refine ⟨state'.tradingDayKey, Option.map_eq_some_iff.mpr ⟨state', hstate', rfl⟩, ?_⟩
      rcases hle with rfl | hlt
      · exact le_refl _
      · exact hlt.le
    refine List.Pairwise.imp hkey (.cons ?_ (List.pairwise_map.mpr hpair))
    intro later hmem
    obtain ⟨observation, hobs, rfl⟩ := List.mem_map.mp hmem
    exact hall observation hobs

end TradingAdvisor
