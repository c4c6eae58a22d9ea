import TradingAdvisor.Lib.Transition
import TradingAdvisor.Orchestration.RuntimeCycle

/-!
# The netting issuance invariant

On an account that is not hedging a new recommendation is issued only for a symbol that the guard
finds free. The guard looks at the documents that could be read, and a resolved recommendation can
become unresolved again, so the lock is kept only along runs that avoid both.

* `nettingCycle` — the cycles of such an account;
* `LockRespected` — what a cycle must not run into;
* `lockRespected_step`, `not_atMostOneUnresolved` — and what it does otherwise;
* **`atMostOneUnresolved_iff`** — at most one unresolved recommendation per symbol, along runs.
-/

namespace TradingAdvisor

open SignificantDigits VersionedStore Transition

/-- At most one document of a symbol is pending or open. -/
def AtMostOneUnresolved (s : TrackingStore) : Prop :=
  ∀ k k' t t', s.lookup k = some t → s.lookup k' = some t' → t.symbol = t'.symbol →
    t.status.HoldsLock → t'.status.HoldsLock → k = k'

variable (R : Rounding)

/-- One cycle of an account that is not hedging. -/
def nettingCycle (s : TrackingStore) (c : RuntimeCycleInput) : Option TrackingStore :=
  if c.marginMode = some .hedging then none else runCycle R s c

/-- A stored document is unresolved once the cycle has advanced what it could read. -/
def RuntimeCycleInput.LocksAfter (c : RuntimeCycleInput) (s : TrackingStore) (k : TradeId)
    (t : MT5TrackedRecommendation) : Prop :=
  if c.readStatus k = .valid then
    ∃ others, c.Turn R s k t others ∧ UnresolvedAfter R (c.history s) others t
  else t.status.HoldsLock

/-- The guard lets a recommendation through and it is created. -/
def RuntimeCycleInput.Issues (c : RuntimeCycleInput) (s : TrackingStore) : Prop :=
  c.connectivityAvailable ∧ ∃ advanced issued, c.advanced R s = .ok advanced ∧
    c.issued (c.history s).status advanced = .ok issued ∧ issued ≠ []

/-- The cycle issues nothing for a symbol of which it cannot read an unresolved document, and it
reopens no document of a symbol that another document locks. -/
structure LockRespected (s : TrackingStore) (c : RuntimeCycleInput) : Prop where
  issue : c.Issues R s → ∀ k t, s.lookup k = some t → c.readStatus k ≠ .valid →
    t.symbol = c.mt5Symbol → ¬ t.status.HoldsLock
  reopen : c.Advances R s → ∀ k t others, c.Turn R s k t others → ¬ t.status.HoldsLock →
    Reopens R (c.history s) others t → ∀ k' t', s.lookup k' = some t' → k' ≠ k →
      t'.symbol = t.symbol → ¬ c.LocksAfter R s k' t'

variable {R} {s s' : TrackingStore} {c : RuntimeCycleInput} {k : TradeId}
  {t t' : MT5TrackedRecommendation} {advanced issued : List (TradeId × MT5TrackedRecommendation)}

/-! ## The documents after a cycle -/

namespace CycleEffect

/-- A document that is not new comes from a document of its symbol. -/
theorem lookup_old (e : CycleEffect R s c advanced issued s') (h : s'.lookup k = some t')
    (hold : (k, t') ∉ issued) :
    ∃ t, s.lookup k = some t ∧ t'.symbol = t.symbol ∧
      (t'.status.HoldsLock → c.LocksAfter R s k t) := by
  rcases e.lookup_cases h with hnew | hadvanced | ⟨hstored, hread⟩
  · exact absurd hnew hold
  · obtain ⟨t, others, hturn, hadvance⟩ := exists_turn e.advanced_ok hadvanced
    obtain ⟨hlookup, hread⟩ := RuntimeCycleInput.Turn.lookup hturn
    refine ⟨t, hlookup, (advance_cases hadvance).1, fun hlock => ?_⟩
    rw [RuntimeCycleInput.LocksAfter, if_pos hread]
    exact ⟨others, hturn, (holdsLock_advance_iff hadvance).mp hlock⟩
  · refine ⟨t', hstored, rfl, fun hlock => ?_⟩
    rwa [RuntimeCycleInput.LocksAfter, if_neg hread]

theorem lookup_locks (e : CycleEffect R s c advanced issued s') (h : s.lookup k = some t)
    (hlocks : c.LocksAfter R s k t) :
    ∃ t', s'.lookup k = some t' ∧ t'.symbol = t.symbol ∧ t'.status.HoldsLock := by
  unfold RuntimeCycleInput.LocksAfter at hlocks
  split_ifs at hlocks with hread
  · obtain ⟨others, hturn, hafter⟩ := hlocks
    obtain ⟨t', hmem, hadvance⟩ := hturn.mem_advanced e.advanced_ok
    exact ⟨t', e.lookup_advanced hmem, (advance_cases hadvance).1,
      (holdsLock_advance_iff hadvance).mpr hafter⟩
  · exact ⟨t, e.lookup_unreadable h hread, rfl, hlocks⟩

/-- What the cycle issues is one pending recommendation, and no readable document locks its
symbol. -/
theorem issued_netting (e : CycleEffect R s c advanced issued s')
    (hmode : c.marginMode ≠ some .hedging) (hmem : (k, t) ∈ issued) :
    issued = [(k, t)] ∧ t.status = .pending ∧ t.symbol = c.mt5Symbol ∧
      ¬ symbolHasUnresolvedTracking advanced c.mt5Symbol := by
  rcases e.issued_ok with hissued | ⟨rfl, -⟩
  · obtain ⟨-, hstatus, -, hsymbol, hallowed⟩ := issued_spec hissued hmem
    obtain ⟨hone, hfree⟩ := issuanceAllowed_netting hmode hallowed
    have hlength := length_issued_le hissued
    rw [hone] at hlength
    obtain ⟨doc, rfl⟩ : ∃ doc, issued = [doc] :=
      List.length_eq_one_iff.mp (le_antisymm hlength (List.length_pos_of_mem hmem))
    rw [List.mem_singleton.mp hmem]
    exact ⟨rfl, hstatus, hsymbol, hfree⟩
  · cases hmem

theorem lookup_issued (e : CycleEffect R s c advanced issued s')
    (hmode : c.marginMode ≠ some .hedging) (hmem : (k, t) ∈ issued) : s'.lookup k = some t := by
  rw [e.store]
  refine lookup_writeAll_of_mem ?_ hmem
  rw [(e.issued_netting hmode hmem).1]
  exact List.nodup_singleton _

/-- Where the guard is sound, an issued recommendation is alone on its symbol. -/
theorem issued_alone (e : CycleEffect R s c advanced issued s')
    (hmode : c.marginMode ≠ some .hedging) (hC : LockRespected R s c) (hadvances : c.Advances R s)
    (hmem : (k, t) ∈ issued) {k' : TradeId} (h' : s'.lookup k' = some t')
    (hsymbol : t'.symbol = t.symbol) (hlock : t'.status.HoldsLock) : k' = k := by
  obtain ⟨hsingle, -, htarget, hfree⟩ := e.issued_netting hmode hmem
  rcases e.lookup_cases h' with hnew | hadvanced | ⟨hstored, hread⟩
  · rw [hsingle, List.mem_singleton] at hnew
    exact congrArg Prod.fst hnew
  · exact absurd ⟨_, hadvanced, hsymbol.trans htarget, hlock⟩ hfree
  · have hissues : c.Issues R s := by
      rcases e.issued_ok with hissued | ⟨rfl, -⟩
      · exact ⟨hadvances.1, advanced, issued, e.advanced_ok, hissued, List.ne_nil_of_mem hmem⟩
      · cases hmem
    exact absurd hlock (hC.issue hissues k' t' hstored hread (hsymbol.trans htarget))

end CycleEffect

/-! ## One cycle -/

/-- An old document that is unresolved after the cycle was so before, or was reopened. -/
theorem RuntimeCycleInput.LocksAfter.reopened (hlocks : c.LocksAfter R s k t)
    (hresolved : ¬ t.status.HoldsLock) :
    ∃ others, c.Turn R s k t others ∧ Reopens R (c.history s) others t := by
  unfold RuntimeCycleInput.LocksAfter at hlocks
  split_ifs at hlocks with hread
  · obtain ⟨others, hturn, hafter⟩ := hlocks
    rw [UnresolvedAfter, if_neg hresolved] at hafter
    exact ⟨others, hturn, hafter⟩
  · exact absurd hlocks hresolved

/-- A cycle that respects the lock keeps at most one unresolved document per symbol. -/
theorem lockRespected_step (s : TrackingStore) (c : RuntimeCycleInput) (s' : TrackingStore)
    (hs : AtMostOneUnresolved s) (hC : LockRespected R s c) (h : nettingCycle R s c = some s') :
    AtMostOneUnresolved s' := by
  unfold nettingCycle at h
  split_ifs at h with hmode
  rcases runCycle_cases h with ⟨-, rfl⟩ | ⟨hadvances, advanced, issued, e⟩
  · exact hs
  intro k k' t t' ht ht' hsymbol hlock hlock'
  by_cases hnew : (k, t) ∈ issued
  · exact (e.issued_alone hmode hC hadvances hnew ht' hsymbol.symm hlock').symm
  by_cases hnew' : (k', t') ∈ issued
  · exact e.issued_alone hmode hC hadvances hnew' ht hsymbol hlock
  obtain ⟨u, hu, husymbol, hlocks⟩ := e.lookup_old ht hnew
  obtain ⟨u', hu', husymbol', hlocks'⟩ := e.lookup_old ht' hnew'
  have hsame : u.symbol = u'.symbol := husymbol.symm.trans (hsymbol.trans husymbol')
  by_contra hne
  by_cases hbefore : u.status.HoldsLock
  · by_cases hbefore' : u'.status.HoldsLock
    · exact hne (hs k k' u u' hu hu' hsame hbefore hbefore')
    · obtain ⟨others, hturn, hreopens⟩ := (hlocks' hlock').reopened hbefore'
      exact hC.reopen hadvances k' u' others hturn hbefore' hreopens k u hu hne hsame
        (hlocks hlock)
  · obtain ⟨others, hturn, hreopens⟩ := (hlocks hlock).reopened hbefore
    exact hC.reopen hadvances k u others hturn hbefore hreopens k' u' hu' (Ne.symm hne)
      hsame.symm (hlocks' hlock')

/-- A cycle that does not respect the lock leaves two unresolved documents of one symbol. -/
theorem not_atMostOneUnresolved (s : TrackingStore) (c : RuntimeCycleInput) (s' : TrackingStore)
    (hC : ¬ LockRespected R s c) (h : nettingCycle R s c = some s') :
    ¬ AtMostOneUnresolved s' := by
  unfold nettingCycle at h
  split_ifs at h with hmode
  intro hs'
  refine hC ⟨?_, ?_⟩
  · rintro ⟨hconnected, docs, new, hdocs, hnew, hne⟩ k t ht hread hsymbol hlock
    rcases runCycle_cases h with ⟨hstays, -⟩ | ⟨-, advanced, issued, e⟩
    · exact hstays ⟨hconnected, docs, hdocs⟩
    · cases hdocs.symm.trans e.advanced_ok
      obtain rfl : issued = new := by
        rcases e.issued_ok with hissued | ⟨-, hnone⟩
        · exact Except.ok.inj (hissued.symm.trans hnew)
        · exact absurd hnew (hnone new)
      obtain ⟨⟨k', t'⟩, hmem⟩ := List.exists_mem_of_ne_nil _ hne
      obtain ⟨-, hstatus, htarget, -⟩ := e.issued_netting hmode hmem
      have hkey := hs' k k' t t' (e.lookup_unreadable ht hread) (e.lookup_issued hmode hmem)
        (hsymbol.trans htarget.symm) hlock (.inl hstatus)
      exact e.issued_key_notMem ht (hkey ▸ List.mem_map_of_mem hmem)
  · intro hadvances k t others hturn hresolved hreopens k' t' ht' hne hsymbol hlocks'
    rcases runCycle_cases h with ⟨hstays, -⟩ | ⟨-, advanced, issued, e⟩
    · exact hstays hadvances
    · obtain ⟨ht, hread⟩ := hturn.lookup
      have hlocks : c.LocksAfter R s k t := by
        rw [RuntimeCycleInput.LocksAfter, if_pos hread]
        refine ⟨others, hturn, ?_⟩
        rwa [UnresolvedAfter, if_neg hresolved]
      obtain ⟨u, hu, husymbol, hulock⟩ := e.lookup_locks ht hlocks
      obtain ⟨u', hu', husymbol', hulock'⟩ := e.lookup_locks ht' hlocks'
      exact hne (hs' k' k u' u hu' hu (husymbol'.trans (hsymbol.trans husymbol.symm)) hulock' hulock)

/-! ## Runs -/

/-- **At most one recommendation per symbol is unresolved** in every state of a run from the empty
store, exactly when every cycle of the run respects the lock. -/
theorem atMostOneUnresolved_iff (R : Rounding) (cycles : List RuntimeCycleInput) :
    Along (nettingCycle R) (LockRespected R) ∅ cycles ↔
      Throughout (nettingCycle R) AtMostOneUnresolved ∅ cycles := by
  refine along_iff_throughout lockRespected_step (fun _ hs => hs)
    (fun s c s' _ hC h => not_atMostOneUnresolved s c s' hC h) ?_
  intro k k' t t' ht
  rw [AList.lookup_empty] at ht
  cases ht

/-- The second cycle cannot read the pending recommendation of the first one. -/
def unreadableLock : List RuntimeCycleInput :=
  [sampleCycle 1 .netting [] [.trendFollowing],
    { sampleCycle 2 .netting [] [.trendFollowing] with
      readStatus := fun k =>
        if k = sampleTradeId 1 .trendFollowing then .corrupt else .valid }]

/-- The fill of the first recommendation shows up after the second one was issued. -/
def lateFill : List RuntimeCycleInput :=
  [sampleCycle 1 .netting [] [.trendFollowing], sampleCycle 7 .netting [] [.trendFollowing],
    sampleCycle 8 .netting [sampleDeal] []]

theorem not_throughout_of_two {cycles : List RuntimeCycleInput} (k k' : TradeId)
    {status status' : TradeStatus} (hne : k ≠ k') (hlock : status.HoldsLock)
    (hlock' : status'.HoldsLock)
    (hend : (run (nettingCycle R) ∅ cycles).map (fun s =>
      ((s.lookup k).map fun t => (t.symbol, t.status),
        (s.lookup k').map fun t => (t.symbol, t.status))) =
      some (some (btcusdt, status), some (btcusdt, status'))) :
    ¬ Throughout (nettingCycle R) AtMostOneUnresolved ∅ cycles := by
  intro h
  obtain ⟨s, hs, hobs⟩ := Option.map_eq_some_iff.mp hend
  rw [Prod.mk.injEq] at hobs
  obtain ⟨t, ht, hobs₁⟩ := Option.map_eq_some_iff.mp hobs.1
  obtain ⟨t', ht', hobs₂⟩ := Option.map_eq_some_iff.mp hobs.2
  rw [Prod.mk.injEq] at hobs₁ hobs₂
  exact hne (h cycles List.prefix_rfl s hs k k' t t' ht ht' (hobs₁.1.trans hobs₂.1.symm)
    (hobs₁.2 ▸ hlock) (hobs₂.2 ▸ hlock'))

/-- Both runs end with two unresolved recommendations of one symbol. -/
theorem twoUnresolved :
    ¬ Throughout (nettingCycle .decimal28) AtMostOneUnresolved ∅ unreadableLock ∧
      ¬ Throughout (nettingCycle .decimal28) AtMostOneUnresolved ∅ lateFill :=
  ⟨not_throughout_of_two (sampleTradeId 1 .trendFollowing) (sampleTradeId 2 .trendFollowing)
      (by decide +kernel) (.inl rfl) (.inl rfl) (by decide +kernel),
    not_throughout_of_two (sampleTradeId 1 .trendFollowing) (sampleTradeId 7 .trendFollowing)
      (by decide +kernel) (.inr rfl) (.inl rfl) (by decide +kernel)⟩

end TradingAdvisor
