import TradingAdvisor.Application.AdvisoryService

/-!
# One run for each cycle

The receipt of a cycle is created once, so only one call can go on to the composer; and every
document that this call issues has a name of its own cycle.

* `AdvisorySystem.Inv` — who has created which receipt, and what follows from it;
* `AdvisorySystem.Inv.update` — a step of a call keeps it;
* **`cycles_run_once`**: in every run a cycle is started at most once, and no issuance overwrites
  the tracking document of another cycle.
-/

namespace TradingAdvisor

open SignificantDigits Transition VersionedStore

namespace AdvisorySystem

variable {R : Rounding} {platform : Platform} {codecs : Codecs} {s s' : AdvisorySystem} {i : ℕ}
  {call : Call} {state : CallState} {stores : Stores} {event : Option Event}

/-- A receipt has one creator, and whoever starts a cycle or issues in it is this one. -/
structure Inv (platform : Platform) (s : AdvisorySystem) : Prop where
  created_nodup : (s.created.map fun p => receiptKey platform p.2).Nodup
  created_receipt : ∀ p ∈ s.created, receiptKey platform p.2 ∈ s.stores.receipts
  claimed : ∀ (i : ℕ) (call : Call), s.calls[i]? = some call →
    ∀ id, call.state.claimedId = some id → (i, id) ∈ s.created
  started_created : ∀ p ∈ s.started, p ∈ s.created
  started_nodup : (s.started.map Prod.fst).Nodup
  started_call : ∀ p ∈ s.started, ∃ call : Call, s.calls[p.1]? = some call ∧ ¬ call.state.MayStart
  issued_created : ∀ p ∈ s.issued, (p.1, p.2.1) ∈ s.created ∧
    ∃ family, p.2.2 = deriveTradeId p.2.1 family
  derived : ∀ (i : ℕ) (call : Call), s.calls[i]? = some call → call.state.Derived

theorem inv_initial (stores : Stores) : Inv platform (initial stores) where
  created_nodup := .nil
  created_receipt _ h := absurd h List.not_mem_nil
  claimed _ _ h := by cases h
  started_created _ h := absurd h List.not_mem_nil
  started_nodup := .nil
  started_call _ h := absurd h List.not_mem_nil
  issued_created _ h := absurd h List.not_mem_nil
  derived _ _ h := by cases h

/-- The system after a step of a call. -/
def after (s : AdvisorySystem) (i : ℕ) (call : Call) (state : CallState) (stores : Stores)
    (event : Option Event) : AdvisorySystem :=
  { s.setState i call state with stores, history := event.toList.map (i, ·) ++ s.history }

theorem calls_after {j : ℕ} {call' : Call}
    (h : (s.after i call state stores event).calls[j]? = some call') :
    j = i ∧ call'.state = state ∨ j ≠ i ∧ s.calls[j]? = some call' := by
  have hset : (s.calls.set i { call with state })[j]? = some call' := h
  rw [List.getElem?_set] at hset
  by_cases hij : i = j
  · rw [if_pos hij] at hset
    split_ifs at hset
    cases hset
    exact .inl ⟨hij.symm, rfl⟩
  · rw [if_neg hij] at hset
    exact .inr ⟨fun h => hij h.symm, hset⟩

theorem mem_created_after {p : ℕ × LogicalCycleId}
    (h : p ∈ (s.after i call state stores event).created) :
    event = some (.receiptCreated p.2) ∧ p.1 = i ∨ p ∈ s.created := by
  cases event with
  | none => exact .inr h
  | some event =>
      cases event with
      | receiptCreated id =>
          rcases List.mem_cons.mp h with rfl | hold
          · exact .inl ⟨rfl, rfl⟩
          · exact .inr hold
      | cycleStarted id => exact .inr h
      | trackingIssued id tradeId => exact .inr h

theorem mem_started_after {p : ℕ × LogicalCycleId}
    (h : p ∈ (s.after i call state stores event).started) :
    event = some (.cycleStarted p.2) ∧ p.1 = i ∨ p ∈ s.started := by
  cases event with
  | none => exact .inr h
  | some event =>
      cases event with
      | receiptCreated id => exact .inr h
      | cycleStarted id =>
          rcases List.mem_cons.mp h with rfl | hold
          · exact .inl ⟨rfl, rfl⟩
          · exact .inr hold
      | trackingIssued id tradeId => exact .inr h

theorem mem_issued_after {p : ℕ × LogicalCycleId × TradeId}
    (h : p ∈ (s.after i call state stores event).issued) :
    event = some (.trackingIssued p.2.1 p.2.2) ∧ p.1 = i ∨ p ∈ s.issued := by
  cases event with
  | none => exact .inr h
  | some event =>
      cases event with
      | receiptCreated id => exact .inr h
      | cycleStarted id => exact .inr h
      | trackingIssued id tradeId =>
          rcases List.mem_cons.mp h with rfl | hold
          · exact .inl ⟨rfl, rfl⟩
          · exact .inr hold

theorem created_subset_after : s.created ⊆ (s.after i call state stores event).created := by
  cases event with
  | none => exact fun _ h => h
  | some event =>
      cases event with
      | receiptCreated id => exact List.subset_cons_self _ _
      | cycleStarted id => exact fun _ h => h
      | trackingIssued id tradeId => exact fun _ h => h

/-- **A step of a call keeps the invariant.** -/
theorem Inv.update (hs : Inv platform s) (hcall : s.calls[i]? = some call)
    (h : CallState.Follows platform call.state s.stores state stores event) :
    Inv platform (s.after i call state stores event) where
  created_nodup := by
    cases event with
    | none => exact hs.created_nodup
    | some event =>
        cases event with
        | receiptCreated id =>
            refine List.nodup_cons.mpr ⟨fun hmem => ?_, hs.created_nodup⟩
            obtain ⟨p, hp, hkey⟩ := List.mem_map.mp hmem
            have hfresh := (h.created id rfl).1
            have hold := hs.created_receipt p hp
            rw [hkey] at hold
            exact hfresh hold
        | cycleStarted id => exact hs.created_nodup
        | trackingIssued id tradeId => exact hs.created_nodup
  created_receipt p hp := by
    rcases mem_created_after hp with ⟨hevent, -⟩ | hold
    · exact (h.created p.2 hevent).2
    · exact h.receipts _ (hs.created_receipt p hold)
  claimed j call' hcall' id hid := by
    rcases calls_after hcall' with ⟨rfl, hstate⟩ | ⟨-, hold⟩
    · rw [hstate] at hid
      rcases h.claimedId id hid with hclaimed | rfl
      · exact created_subset_after (hs.claimed j call hcall id hclaimed)
      · exact List.mem_cons_self
    · exact created_subset_after (hs.claimed j call' hold id hid)
  started_created p hp := by
    rcases mem_started_after hp with ⟨hevent, hi⟩ | hold
    · have hclaimed := hs.claimed i call hcall p.2 (h.started p.2 hevent).1
      rw [← hi] at hclaimed
      exact created_subset_after hclaimed
    · exact created_subset_after (hs.started_created p hold)
  started_nodup := by
    cases event with
    | none => exact hs.started_nodup
    | some event =>
        cases event with
        | cycleStarted id =>
            refine List.nodup_cons.mpr ⟨fun hmem => ?_, hs.started_nodup⟩
            obtain ⟨p, hp, rfl⟩ := List.mem_map.mp hmem
            obtain ⟨call', hcall', hmay⟩ := hs.started_call p hp
            cases Option.some.inj (hcall.symm.trans hcall')
            exact hmay (h.started id rfl).2.1
        | receiptCreated id => exact hs.started_nodup
        | trackingIssued id tradeId => exact hs.started_nodup
  started_call p hp := by
    have hmoved : (s.after i call state stores event).calls[i]? = some { call with state } := by
      have hi : i < s.calls.length := (List.getElem?_eq_some_iff.mp hcall).1
      exact (List.getElem?_set_self hi)
    rcases mem_started_after hp with ⟨hevent, hi⟩ | hold
    · rw [hi]
      exact ⟨_, hmoved, (h.started p.2 hevent).2.2⟩
    · obtain ⟨call', hcall', hmay⟩ := hs.started_call p hold
      by_cases hi : i = p.1
      · rw [← hi] at hcall' ⊢
        cases Option.some.inj (hcall.symm.trans hcall')
        exact ⟨_, hmoved, fun h' => hmay (h.mayStart h')⟩
      · refine ⟨call', ?_, hmay⟩
        have hset : (s.calls.set i { call with state })[p.1]? = s.calls[p.1]? :=
          List.getElem?_set_ne hi
        exact hset.trans hcall'
  issued_created p hp := by
    rcases mem_issued_after hp with ⟨hevent, hi⟩ | hold
    · obtain ⟨hclaimed, hfamily⟩ := h.issued p.2.1 p.2.2 hevent (hs.derived i call hcall)
      have hcreated := hs.claimed i call hcall p.2.1 hclaimed
      rw [← hi] at hcreated
      exact ⟨created_subset_after hcreated, hfamily⟩
    · obtain ⟨hcreated, hfamily⟩ := hs.issued_created p hold
      exact ⟨created_subset_after hcreated, hfamily⟩
  derived j call' hcall' := by
    rcases calls_after hcall' with ⟨rfl, hstate⟩ | ⟨-, hold⟩
    · rw [hstate]
      exact h.derived (hs.derived j call hcall)
    · exact hs.derived j call' hold

/-- **Every step of the system keeps the invariant.** -/
theorem inv_step (s : AdvisorySystem) (a : Action) (s' : AdvisorySystem) (hs : Inv platform s)
    (h : s.step R platform codecs a = some s') : Inv platform s' := by
  have hstop (i : ℕ) (call : Call) (hcall : s.calls[i]? = some call) (state : CallState)
      (hfollows : CallState.Follows platform call.state s.stores state s.stores none) :
      Inv platform (s.setState i call state) :=
    hs.update hcall hfollows
  cases a with
  | request process logicalCycleId =>
      cases h
      have hcalls {j : ℕ} {call : Call}
          (h : (s.calls ++ [⟨process, .received logicalCycleId⟩])[j]? = some call) :
          s.calls[j]? = some call ∨ call.state = .received logicalCycleId := by
        rw [List.getElem?_append] at h
        split_ifs at h
        · exact .inl h
        · rw [List.getElem?_singleton] at h
          split_ifs at h
          cases h
          exact .inr rfl
      exact {
        created_nodup := hs.created_nodup
        created_receipt := hs.created_receipt
        claimed := fun j call hcall id hid => by
          rcases hcalls hcall with hold | hnew
          · exact hs.claimed j call hold id hid
          · rw [hnew] at hid
            cases hid
        started_created := hs.started_created
        started_nodup := hs.started_nodup
        started_call := fun p hp => by
          obtain ⟨call, hcall, hmay⟩ := hs.started_call p hp
          have hlt : p.1 < s.calls.length := (List.getElem?_eq_some_iff.mp hcall).1
          exact ⟨call, (List.getElem?_append_left hlt).trans hcall, hmay⟩
        issued_created := hs.issued_created
        derived := fun j call hcall => by
          rcases hcalls hcall with hold | hnew
          · exact hs.derived j call hold
          · rw [hnew]
            trivial }
  | step i environment =>
      obtain ⟨call, hcall, h⟩ := Option.bind_eq_some_iff.mp h
      obtain ⟨⟨state, stores, event⟩, hnext, h⟩ := Option.bind_eq_some_iff.mp h
      cases h
      exact hs.update hcall (CallState.next_spec hnext)
  | raise i =>
      obtain ⟨call, hcall, h⟩ := Option.bind_eq_some_iff.mp h
      split_ifs at h
      cases h
      exact hstop i call hcall _ (.returned _)
  | crash i =>
      obtain ⟨call, hcall, h⟩ := Option.bind_eq_some_iff.mp h
      cases h
      exact hstop i call hcall _ (.quiet rfl False.elim (fun _ h => by cases h) fun _ => trivial)

/-! ## What follows for a run -/

/-- Two claims of one receipt are one claim. -/
theorem Inv.claim_unique (hs : Inv platform s) {p q : ℕ × LogicalCycleId} (hp : p ∈ s.created)
    (hq : q ∈ s.created) (h : receiptKey platform p.2 = receiptKey platform q.2) : p = q :=
  List.inj_on_of_nodup_map hs.created_nodup hp hq h

theorem Inv.started_ids_nodup (hs : Inv platform s) : (s.started.map Prod.snd).Nodup := by
  refine List.Nodup.map_on (fun p hp q hq hid => ?_) (List.Nodup.of_map _ hs.started_nodup)
  exact hs.claim_unique (hs.started_created p hp) (hs.started_created q hq) (by rw [hid])

end AdvisorySystem

open AdvisorySystem in
/-- **A cycle runs at most once, and its trades are never overwritten**, whatever the calls of all
processes do and wherever they stop. -/
theorem cycles_run_once (R : Rounding) (platform : Platform) (codecs : Codecs) (stores : Stores)
    (actions : List Action) (s : AdvisorySystem)
    (h : run (AdvisorySystem.step R platform codecs) (initial stores) actions = some s) :
    (s.started.map Prod.snd).Nodup ∧
      (∀ id id' family family', deriveTradeId id family = deriveTradeId id' family' →
        id = id' ∧ family = family') ∧
      ∀ p ∈ s.issued, ∀ q ∈ s.issued,
        documentKey platform p.2.2 = documentKey platform q.2.2 →
          p.1 = q.1 ∧ p.2.1 = q.2.1 := by
  have hs : Inv platform s :=
    run_invariant (C := fun _ _ => True) (fun s a s' hs _ => inv_step s a s' hs)
      (inv_initial stores) (along_of_forall (fun _ _ => trivial) _ _) h
  refine ⟨hs.started_ids_nodup, fun _ _ _ _ => deriveTradeId_injective, fun p hp q hq hkey => ?_⟩
  obtain ⟨hcreated, family, hfamily⟩ := hs.issued_created p hp
  obtain ⟨hcreated', family', hfamily'⟩ := hs.issued_created q hq
  rw [hfamily, hfamily'] at hkey
  have hclaim := hs.claim_unique hcreated hcreated' (receiptKey_of_documentKey hkey).1
  exact Prod.mk.inj hclaim

/-- What the sample calls meet: every file can be read and written, and one family is actionable. -/
def sampleCallEnvironment : CallEnvironment where
  claimRaises := false
  receiptBody := .empty
  composerStarted := true
  cycle := sampleCycle 1 .hedging [] [.trendFollowing]
  writeFails := false
  provenanceText := ""

/-- Two calls for one cycle and one for another, of which the first stops after its issuance. -/
def sampleActions : List Action :=
  [.request 0 "first", .request 1 "first", .request 1 "second"] ++
    List.replicate 3 (.step 0 sampleCallEnvironment) ++
    List.replicate 2 (.step 1 sampleCallEnvironment) ++
    List.replicate 14 (.step 0 sampleCallEnvironment) ++ [.crash 0] ++
    List.replicate 19 (.step 2 sampleCallEnvironment)

open AdvisorySystem in
theorem cycles_run_once_sample :
    (run (AdvisorySystem.step .exact .windows ⟨strictCodec, fun _ => none⟩) (initial ⟨∅, ∅, ∅⟩)
      sampleActions).map (fun s => (s.started.length, s.issued.length)) = some (2, 2) ∧
    ∃ s, run (AdvisorySystem.step .exact .windows ⟨strictCodec, fun _ => none⟩)
        (initial ⟨∅, ∅, ∅⟩) sampleActions = some s ∧
      (s.started.map Prod.snd).Nodup ∧
      (∀ id id' family family', deriveTradeId id family = deriveTradeId id' family' →
        id = id' ∧ family = family') ∧
      ∀ p ∈ s.issued, ∀ q ∈ s.issued,
        documentKey .windows p.2.2 = documentKey .windows q.2.2 →
          p.1 = q.1 ∧ p.2.1 = q.2.1 := by
  have hcounts : (run (AdvisorySystem.step .exact .windows ⟨strictCodec, fun _ => none⟩)
      (initial ⟨∅, ∅, ∅⟩) sampleActions).map (fun s => (s.started.length, s.issued.length)) =
      some (2, 2) := by
    decide +kernel
  obtain ⟨s, hs, -⟩ := Option.map_eq_some_iff.mp hcounts
  exact ⟨hcounts, s, hs, cycles_run_once _ _ _ _ _ s hs⟩

end TradingAdvisor
