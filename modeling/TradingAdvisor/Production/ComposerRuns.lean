import TradingAdvisor.Production.ComposerCycles

/-!
# Runs of the composer

Whatever the calls of a composer do, and wherever a cycle is cancelled, only one cycle at a time
works with the connection, and the connection is closed behind it. The starts and stops are only in
order when they do not overlap: the composer's state is set after an await.

* `ComposerCycles.Inv` — who has the connection open, and what has been done with it;
* **`connection_bracketed`**: every read of a cycle lies between its own opening and closing of the
  connection, up to the threads of cancelled cycles, and no cycle finds the connection closed;
* `ComposerLifecycle.Settled` — what holds between starts and stops that do not overlap;
* **`serial_lifecycle`**: then a stop is final, and closes the shared client once.
-/

namespace TradingAdvisor

open Transition Brackets

/-! ## The connection -/

namespace ComposerCycles

variable {s : ComposerCycles} {i j : ℕ} {call : CycleCall}

/-- Who has the connection open, and what has been done with it. -/
structure Inv (s : ComposerCycles) : Prop where
  bracketed : holder s.cancelled none s.connection = some s.lock
  lock_iff : ∀ i : ℕ, s.lock = some i ↔
    ∃ status result, s.calls[i]? = some (CycleCall.fetching status result)
  workers : ∀ i ∈ s.workers,
    (∃ status, s.calls[i]? = some (CycleCall.fetching status none)) ∨ i ∈ s.cancelled
  readable : ∀ (i : ℕ) (result : Option FetchResult),
    s.calls[i]? = some (CycleCall.fetching .available result) → s.client.Readable
  unlocked : s.lock = none → s.client.initialized = false
  openers_nodup : (openers s.connection).Nodup
  opened : ∀ i ∈ openers s.connection, ∃ call, s.calls[i]? = some call ∧ call ≠ .waiting
  sound : ∀ i : ℕ, s.calls[i]? ≠ some (CycleCall.finished .mt5NotInitialized)

theorem inv_new (credentialsSupplied : Bool) : Inv { client := { credentialsSupplied } } where
  bracketed := rfl
  lock_iff i := by simp
  workers i h := absurd h List.not_mem_nil
  readable i result h := by cases h
  unlocked _ := rfl
  openers_nodup := .nil
  opened i h := absurd h List.not_mem_nil
  sound i := nofun

theorem finished_ne_waiting (result : CycleCallResult) :
    CycleCall.finished result ≠ .waiting := by
  rintro ⟨⟩

theorem fetching_ne_waiting (status : MT5ConnectivityState) (result : Option FetchResult) :
    CycleCall.fetching status result ≠ .waiting := by
  rintro ⟨⟩

theorem calls_setCall (h : s.calls[i]? = some call) (new : CycleCall) (j : ℕ) :
    (s.setCall i new).calls[j]? = if j = i then some new else s.calls[j]? := by
  have hi : i < s.calls.length := (List.getElem?_eq_some_iff.mp h).1
  change (s.calls.set i new)[j]? = _
  rw [List.getElem?_set]
  split_ifs with hij hji hji
  · rfl
  · exact absurd hij.symm hji
  · exact absurd hji.symm hij
  · rfl

/-- How a call moves on without touching the connection. -/
inductive Quiet : Option CycleCall → Option CycleCall → Prop
  | same (call : Option CycleCall) : Quiet call call
  | received : Quiet none (some .waiting)
  | refused : Quiet none (some (.finished .lifecycleError))
  | ended {result : CycleCallResult} (h : result ≠ .mt5NotInitialized) :
      Quiet (some .waiting) (some (.finished result))
  | fetched (status : MT5ConnectivityState) (result : FetchResult) :
      Quiet (some (.fetching status none)) (some (.fetching status (some result)))

/-- A step that leaves the connection and the lock alone. -/
theorem Inv.quiet {t : ComposerCycles} (hs : Inv s) (hclient : t.client = s.client)
    (hlock : t.lock = s.lock) (hconnection : t.connection = s.connection)
    (hcalls : ∀ j : ℕ, Quiet s.calls[j]? t.calls[j]?)
    (hworkers : ∀ j ∈ t.workers, j ∈ s.workers ∧
      (t.calls[j]? = s.calls[j]? ∨ s.calls[j]? = none ∨
        s.calls[j]? = some CycleCall.waiting)) : Inv t where
  bracketed := by
    rw [hconnection, hlock]
    refine holder_mono (fun j hj => ?_) hs.bracketed
    have hquiet := hcalls j
    rw [show s.calls[j]? = some (CycleCall.finished .cancelled) from hj] at hquiet
    cases h : t.calls[j]? <;> rw [h] at hquiet <;> cases hquiet
    exact h
  lock_iff j := by
    rw [hlock, hs.lock_iff]
    have hquiet := hcalls j
    constructor
    · rintro ⟨status, result, h⟩
      rw [h] at hquiet
      generalize ht : t.calls[j]? = call at hquiet
      cases hquiet with
      | same => exact ⟨_, _, rfl⟩
      | fetched => exact ⟨_, _, rfl⟩
    · rintro ⟨status, result, h⟩
      rw [h] at hquiet
      generalize hs' : s.calls[j]? = call at hquiet
      cases hquiet with
      | same => exact ⟨_, _, rfl⟩
      | fetched => exact ⟨_, _, rfl⟩
  workers j hj := by
    obtain ⟨hold, hcall⟩ := hworkers j hj
    have hworker := hs.workers j hold
    rcases hcall with heq | hnone | hwaiting
    · rw [heq]
      refine hworker.imp_right fun h => ?_
      exact heq.trans h
    · rcases hworker with ⟨status, h⟩ | h
      · rw [hnone] at h
        cases h
      · cases hnone.symm.trans h
    · rcases hworker with ⟨status, h⟩ | h
      · rw [hwaiting] at h
        cases h
      · cases hwaiting.symm.trans h
  readable j result h := by
    rw [hclient]
    have hquiet := hcalls j
    rw [h] at hquiet
    generalize hs' : s.calls[j]? = call at hquiet
    cases hquiet with
    | same => exact hs.readable j _ hs'
    | fetched => exact hs.readable j _ hs'
  unlocked h := by
    rw [hclient]
    exact hs.unlocked (hlock ▸ h)
  openers_nodup := hconnection ▸ hs.openers_nodup
  opened j hj := by
    rw [hconnection] at hj
    obtain ⟨call, hcall, hwaiting⟩ := hs.opened j hj
    have hquiet := hcalls j
    rw [hcall] at hquiet
    generalize ht : t.calls[j]? = call' at hquiet
    cases hquiet with
    | same => exact ⟨_, rfl, hwaiting⟩
    | ended => exact absurd rfl hwaiting
    | fetched => exact ⟨_, rfl, nofun⟩
  sound j h := by
    have hquiet := hcalls j
    rw [h] at hquiet
    generalize hs' : s.calls[j]? = call at hquiet
    cases hquiet with
    | same => exact hs.sound j hs'
    | ended hne => exact hne rfl

theorem Inv.notMem_openers (hs : Inv s) (h : s.calls[i]? = some CycleCall.waiting) :
    i ∉ openers s.connection := by
  intro hmem
  obtain ⟨call, hcall, hne⟩ := hs.opened i hmem
  exact hne (Option.some.inj (hcall.symm.trans h))

theorem Inv.setFinished (hs : Inv s) (h : s.calls[i]? = some CycleCall.waiting)
    {result : CycleCallResult}
    (hne : result ≠ .mt5NotInitialized) : Inv (s.setCall i (.finished result)) := by
  refine hs.quiet rfl rfl rfl (fun j => ?_) fun j hj => ⟨hj, ?_⟩
  · rw [calls_setCall h]
    split_ifs with hji
    · rw [hji, h]
      exact .ended hne
    · exact .same _
  · by_cases hji : j = i
    · rw [hji]
      exact .inr (.inr h)
    · rw [calls_setCall h, if_neg hji]
      exact .inl rfl

theorem Inv.addCall (hs : Inv s) (hnew : Quiet none (some call)) : Inv (s.addCall call) := by
  have hcalls (j : ℕ) : (s.addCall call).calls[j]? =
      if j < s.calls.length then s.calls[j]? else [call][j - s.calls.length]? :=
    List.getElem?_append
  refine hs.quiet rfl rfl rfl (fun j => ?_) fun j hj => ⟨hj, ?_⟩
  · rw [hcalls]
    split_ifs with hlt
    · exact .same _
    · rw [List.getElem?_eq_none (not_lt.mp hlt), List.getElem?_singleton]
      split_ifs
      · exact hnew
      · exact .same _
  · by_cases hlt : j < s.calls.length
    · exact .inl ((hcalls j).trans (if_pos hlt))
    · exact .inr (.inl (List.getElem?_eq_none (not_lt.mp hlt)))

theorem addCall_last : (s.addCall call).calls[s.calls.length]? = some call :=
  List.getElem?_concat_length

/-- A cycle opens the connection in vain and shuts it down again. -/
theorem Inv.openAndClose (hs : Inv s) (hlock : s.lock = none) (hcall : s.calls[i]? = some call)
    (hwaiting : call ≠ .waiting) (hnew : i ∉ openers s.connection) (client : MT5Client) :
    Inv { s with
      client := client.shutdown
      connection := s.connection ++ [.opened i] ++ [.closed i] } where
  bracketed := by
    refine holder_snoc (holder_snoc hs.bracketed ?_) (next_closed.mpr ⟨rfl, hlock⟩)
    exact next_opened.mpr ⟨hlock, rfl⟩
  lock_iff := hs.lock_iff
  workers := hs.workers
  readable j result hj := by
    have hheld := (hs.lock_iff j).mpr ⟨_, _, hj⟩
    cases hlock.symm.trans hheld
  unlocked _ := rfl
  openers_nodup := by
    rw [openers_append]
    simpa [openers] using nodup_openers_snoc hs.openers_nodup hnew
  opened j hj := by
    rw [openers_append, openers_append] at hj
    simp only [openers, List.append_nil, List.mem_append, List.mem_singleton] at hj
    rcases hj with hold | rfl
    · exact hs.opened j hold
    · exact ⟨call, hcall, hwaiting⟩
  sound := hs.sound

/-- A cycle opens the connection, and its thread starts. -/
theorem Inv.open (hs : Inv s) (hlock : s.lock = none) (h : s.calls[i]? = some .waiting)
    {client : MT5Client} {status : MT5ConnectivityState}
    (hclient : status = .available → client.Readable) :
    Inv { s.setCall i (.fetching status none) with
      client
      lock := some i
      workers := i :: s.workers
      connection := s.connection ++ [.opened i] } := by
  have hnew := hs.notMem_openers h
  have hcalls := calls_setCall h (.fetching status none)
  have hkept {j : ℕ} {call : CycleCall} (hj : s.calls[j]? = some call) (hji : j ≠ i) :
      (s.setCall i (.fetching status none)).calls[j]? = some call :=
    (hcalls j).trans ((if_neg hji).trans hj)
  have hfetching {j : ℕ} {status' : MT5ConnectivityState} {result : Option FetchResult}
      (hj : (s.setCall i (.fetching status none)).calls[j]? = some (.fetching status' result)) :
      j = i ∧ status' = status := by
    replace hj := (hcalls j).symm.trans hj
    split_ifs at hj with hji
    · cases hj
      exact ⟨hji, rfl⟩
    · have hheld := (hs.lock_iff j).mpr ⟨_, _, hj⟩
      cases hlock.symm.trans hheld
  have hmono : s.cancelled ⊆ (s.setCall i (.fetching status none)).cancelled := by
    intro j hj
    refine hkept hj ?_
    rintro rfl
    cases h.symm.trans hj
  exact {
    bracketed := holder_snoc (holder_mono hmono hs.bracketed) (next_opened.mpr ⟨hlock, rfl⟩)
    lock_iff := fun j => by
      constructor
      · intro hheld
        cases hheld
        exact ⟨_, _, (hcalls i).trans (if_pos rfl)⟩
      · rintro ⟨status', result, hj⟩
        exact congrArg some (hfetching hj).1.symm
    workers := fun j hj => by
      by_cases hji : j = i
      · exact .inl ⟨status, (hcalls j).trans (if_pos hji)⟩
      · rcases hs.workers j (List.mem_of_ne_of_mem hji hj) with ⟨status', hj'⟩ | hj'
        · exact .inl ⟨status', hkept hj' hji⟩
        · exact .inr (hmono hj')
    readable := fun j result hj => hclient (hfetching hj).2.symm
    unlocked := fun hheld => by cases hheld
    openers_nodup := nodup_openers_snoc hs.openers_nodup hnew
    opened := fun j hj => by
      rw [openers_append] at hj
      rcases List.mem_append.mp hj with hold | hlast
      · obtain ⟨call, hcall, hne⟩ := hs.opened j hold
        have hji : j ≠ i := fun hji => hnew (hji ▸ hold)
        exact ⟨call, hkept hcall hji, hne⟩
      · have hji := List.mem_singleton.mp hlast
        exact ⟨_, (hcalls j).trans (if_pos hji), fetching_ne_waiting _ _⟩
    sound := fun j hj => by
      replace hj := (hcalls j).symm.trans hj
      split_ifs at hj
      · cases hj
      · exact hs.sound j hj }

theorem Inv.beginCycle (hs : Inv s) (hlock : s.lock = none) (h : s.calls[i]? = some .waiting)
    (meets : CycleStart) : Inv (s.beginCycle i meets) := by
  have hne : CycleCallResult.raised ≠ .mt5NotInitialized := by decide
  have hraised := hs.setFinished h hne
  unfold ComposerCycles.beginCycle
  split_ifs
  · exact hs.setFinished h (by decide)
  · exact hraised
  cases hstatus : (s.client.initializeConnection meets.answer).2 with
  | none =>
      simp only [hstatus]
      have hcall := (calls_setCall h (.finished .raised) i).trans (if_pos rfl)
      exact hraised.openAndClose hlock hcall (finished_ne_waiting _) (hs.notMem_openers h) _
  | some status =>
      simp only [hstatus]
      refine hs.open hlock h fun havailable => ?_
      exact MT5Client.readable_of_available (hstatus.trans (congrArg some havailable))

theorem Inv.endFetch (hs : Inv s) (result : FetchResult) : Inv (s.endFetch i result) := by
  unfold ComposerCycles.endFetch
  generalize hended : { s with workers := s.workers.filter (· ≠ i) } = ended
  have hother : Inv ended := by
    subst hended
    exact hs.quiet rfl rfl rfl (fun _ => .same _) fun j hj => ⟨(List.mem_filter.mp hj).1, .inl rfl⟩
  dsimp only
  split
  · next status hcall =>
      have h : ended.calls[i]? = some (.fetching status none) := hended ▸ hcall
      refine hother.quiet rfl rfl rfl (fun j => ?_) fun j hj => ⟨hj, .inl ?_⟩
      · rw [calls_setCall h]
        split_ifs with hji
        · rw [hji, h]
          exact .fetched _ _
        · exact .same _
      · subst hended
        have hne : j ≠ i := of_decide_eq_true (List.mem_filter.mp hj).2
        rw [calls_setCall h, if_neg hne]
  · exact hother

theorem Inv.read (hs : Inv s) (hi : i ∈ s.workers) :
    Inv { s with connection := s.connection ++ [.used i] } where
  bracketed := by
    refine holder_snoc hs.bracketed (next_used.mpr ⟨?_, rfl⟩)
    exact (hs.workers i hi).imp_left fun ⟨_, h⟩ => (hs.lock_iff i).mpr ⟨_, _, h⟩
  lock_iff := hs.lock_iff
  workers := hs.workers
  readable := hs.readable
  unlocked := hs.unlocked
  openers_nodup := by
    rw [openers_append]
    simpa [openers] using hs.openers_nodup
  opened j hj := by
    rw [openers_append] at hj
    exact hs.opened j (by simpa [openers] using hj)
  sound := hs.sound

/-- A cycle shuts the connection down and releases the lock. -/
theorem Inv.leave (hs : Inv s) {status : MT5ConnectivityState} {fetched : Option FetchResult}
    (h : s.calls[i]? = some (.fetching status fetched)) (reads : ℕ) {result : CycleCallResult}
    (hne : result ≠ .mt5NotInitialized)
    (hworker : fetched = none → result = .cancelled) : Inv (s.leave i reads result) := by
  have hcalls := calls_setCall h (.finished result)
  have hlock := (hs.lock_iff i).mpr ⟨_, _, h⟩
  have hkept {j : ℕ} {call : CycleCall} (hj : s.calls[j]? = some call) (hji : j ≠ i) :
      (s.leave i reads result).calls[j]? = some call := (hcalls j).trans ((if_neg hji).trans hj)
  have hfetching {j : ℕ} {status : MT5ConnectivityState} {fetched : Option FetchResult}
      (hj : (s.leave i reads result).calls[j]? = some (.fetching status fetched)) : False := by
    replace hj := (hcalls j).symm.trans hj
    split_ifs at hj with hji
    · cases hj
    · have hheld := (hs.lock_iff j).mpr ⟨_, _, hj⟩
      exact hji (Option.some.inj (hheld.symm.trans hlock))
  have hcancelled {j : ℕ} (hj : j ∈ s.cancelled) : j ∈ (s.leave i reads result).cancelled := by
    refine hkept hj ?_
    rintro rfl
    cases h.symm.trans hj
  exact {
    bracketed := by
      have hopen := holder_mono (fun j hj => hcancelled hj) hs.bracketed
      rw [hlock] at hopen
      exact holder_snoc (holder_uses hopen reads) (next_closed.mpr ⟨rfl, rfl⟩)
    lock_iff := fun j => by
      constructor
      · intro hheld
        cases hheld
      · rintro ⟨_, _, hj⟩
        exact (hfetching hj).elim
    workers := fun j hj => by
      refine .inr ?_
      rcases hs.workers j hj with ⟨status', hj'⟩ | hj'
      · by_cases hji : j = i
        · rw [hji] at hj'
          cases h.symm.trans hj'
          refine (hcalls j).trans ((if_pos hji).trans ?_)
          rw [hworker rfl]
        · have hheld := (hs.lock_iff j).mpr ⟨_, _, hj'⟩
          exact absurd (Option.some.inj (hheld.symm.trans hlock)) hji
      · exact hcancelled hj'
    readable := fun j result' hj => (hfetching hj).elim
    unlocked := fun _ => rfl
    openers_nodup := by
      change (openers (s.connection ++ List.replicate reads (.used i) ++ [.closed i])).Nodup
      rw [openers_append, openers_append, openers_replicate]
      simpa [openers] using hs.openers_nodup
    opened := fun j hj => by
      change j ∈ openers (s.connection ++ List.replicate reads (.used i) ++ [.closed i]) at hj
      rw [openers_append, openers_append, openers_replicate] at hj
      simp only [openers, List.append_nil] at hj
      obtain ⟨call, hcall, hwaiting⟩ := hs.opened j hj
      by_cases hji : j = i
      · exact ⟨_, (hcalls j).trans (if_pos hji), finished_ne_waiting _⟩
      · exact ⟨call, hkept hcall hji, hwaiting⟩
    sound := fun j hj => by
      replace hj := (hcalls j).symm.trans hj
      split_ifs at hj
      · cases hj
        exact hne rfl
      · exact hs.sound j hj }

/-- A call goes on after its fetch: it finds the connection as it was opened. -/
theorem Inv.finish {t : ComposerCycles} (hs : Inv s) {reads : ℕ} {raises : Bool}
    (h : s.finish i reads raises = some t) : Inv t := by
  unfold ComposerCycles.finish at h
  split at h
  · next status result hcall =>
      split_ifs at h with hraised hstatus hread
      · exact Option.some.inj h ▸ hs.leave hcall 0 nofun nofun
      · subst hstatus
        exact absurd (hs.readable i _ hcall) hread.2
      · exact Option.some.inj h ▸ hs.leave hcall reads nofun nofun
      · exact Option.some.inj h ▸ hs.leave hcall reads nofun nofun
      · exact Option.some.inj h ▸ hs.leave hcall 0 nofun nofun
      · exact Option.some.inj h ▸ hs.leave hcall 0 nofun nofun
  · cases h

theorem Inv.cancel {t : ComposerCycles} (hs : Inv s) (h : s.cancel i = some t) : Inv t := by
  unfold ComposerCycles.cancel at h
  split at h
  · next hcall => exact Option.some.inj h ▸ hs.setFinished hcall nofun
  · next status result hcall =>
      exact Option.some.inj h ▸ hs.leave hcall 0 nofun fun _ => rfl
  · cases h

theorem Inv.runCycle (hs : Inv s) (started : Bool) (meets : CycleStart) :
    Inv (s.runCycle started meets) := by
  have hwaiting := hs.addCall .received
  unfold ComposerCycles.runCycle
  split_ifs with hstarted hfree
  · exact hs.addCall .refused
  · exact hwaiting.beginCycle hfree.1 addCall_last meets
  · exact hwaiting

theorem first_waiting (h : CycleCall.waiting ∈ s.calls) :
    s.calls[s.calls.findIdx (· = CycleCall.waiting)]? = some .waiting := by
  have hlt : s.calls.findIdx (· = CycleCall.waiting) < s.calls.length :=
    List.findIdx_lt_length_of_exists ⟨_, h, decide_eq_true rfl⟩
  rw [List.getElem?_eq_getElem hlt]
  exact congrArg some (of_decide_eq_true (List.findIdx_getElem (w := hlt)))

theorem Inv.acquire {t : ComposerCycles} (hs : Inv s) {meets : CycleStart}
    (h : s.acquire meets = some t) : Inv t := by
  unfold ComposerCycles.acquire at h
  split_ifs at h with hfree
  exact Option.some.inj h ▸ hs.beginCycle hfree.1 (first_waiting hfree.2) meets

end ComposerCycles

namespace ProductionAdvisoryComposer

variable {s s' : ProductionAdvisoryComposer}

/-- **Every step keeps the invariant of the cycles.** -/
theorem cycles_inv_step (s : ProductionAdvisoryComposer) (a : ComposerAction)
    (s' : ProductionAdvisoryComposer) (hs : s.cycles.Inv) (h : s.step a = some s') :
    s'.cycles.Inv := by
  cases a with
  | startup => exact Option.some.inj h ▸ hs
  | shutdown => exact Option.some.inj h ▸ hs
  | resume k failed =>
      obtain ⟨lifecycle, -, rfl⟩ := Option.map_eq_some_iff.mp h
      exact hs
  | runCycle meets => exact Option.some.inj h ▸ hs.runCycle _ meets
  | acquire meets =>
      obtain ⟨cycles, hcycles, rfl⟩ := Option.map_eq_some_iff.mp h
      exact hs.acquire hcycles
  | fetchRead i =>
      obtain ⟨cycles, hcycles, rfl⟩ := Option.map_eq_some_iff.mp h
      unfold ComposerCycles.fetchRead at hcycles
      split_ifs at hcycles with hi hreadable
      · exact Option.some.inj hcycles ▸ hs.read hi
      · exact Option.some.inj hcycles ▸ hs.endFetch _
  | fetchEnd i raises =>
      obtain ⟨cycles, hcycles, rfl⟩ := Option.map_eq_some_iff.mp h
      unfold ComposerCycles.fetchEnd at hcycles
      split_ifs at hcycles with hi
      · exact Option.some.inj hcycles ▸ hs.endFetch _
      · exact Option.some.inj hcycles ▸ hs.endFetch _
  | finish i reads raises =>
      obtain ⟨cycles, hcycles, rfl⟩ := Option.map_eq_some_iff.mp h
      exact hs.finish hcycles
  | cancel i =>
      obtain ⟨cycles, hcycles, rfl⟩ := Option.map_eq_some_iff.mp h
      exact hs.cancel hcycles

end ProductionAdvisoryComposer

open ProductionAdvisoryComposer in
/-- **The cycles of a composer take turns with its connection.** However its calls interleave and
wherever they are cancelled, one cycle opens the connection only after the last one has closed it,
once, and only the cycle that has it open reads through it, up to the threads of cancelled cycles;
no cycle reads a connection that is not initialized, and without a cycle it is not. -/
theorem connection_bracketed (ownsRestClient credentialsSupplied : Bool)
    (actions : List ComposerAction) (s : ProductionAdvisoryComposer)
    (h : run step (new ownsRestClient credentialsSupplied) actions = some s) :
    holder s.cycles.cancelled none s.cycles.connection = some s.cycles.lock ∧
      (openers s.cycles.connection).Nodup ∧
      (∀ i ∈ s.cycles.workers, s.cycles.lock = some i ∨ i ∈ s.cycles.cancelled) ∧
      (s.cycles.lock = none → s.cycles.client.initialized = false) ∧
      ∀ i : ℕ, s.cycles.calls[i]? ≠ some (.finished .mt5NotInitialized) := by
  have hs : s.cycles.Inv :=
    run_invariant (C := fun _ _ => True) (I := fun s => s.cycles.Inv)
      (fun s a s' hs _ => cycles_inv_step s a s' hs) (ComposerCycles.inv_new _)
      (along_of_forall (fun _ _ => trivial) _ _) h
  refine ⟨hs.bracketed, hs.openers_nodup, fun i hi => ?_, hs.unlocked, hs.sound⟩
  exact (hs.workers i hi).imp_left fun ⟨_, hcall⟩ => (hs.lock_iff i).mpr ⟨_, _, hcall⟩

/-- A cycle whose terminal is there. -/
def sampleCycleStart : CycleStart := ⟨false, false, .connected true true⟩

/-- A cycle that is cancelled while its thread reads, and the next one. -/
def sampleCancelled : List ComposerAction :=
  [.startup, .resume 0 false, .runCycle sampleCycleStart, .fetchRead 0, .cancel 0,
    .runCycle sampleCycleStart, .fetchRead 0, .fetchEnd 1 false, .finish 1 2 false]

open ProductionAdvisoryComposer in
theorem connection_bracketed_sample :
    ∃ s, run step (new true false) sampleCancelled = some s ∧
      s.cycles.connection = [.opened 0, .used 0, .closed 0, .opened 1, .used 0, .used 1, .used 1,
        .closed 1] ∧
      holder s.cycles.cancelled none s.cycles.connection = some s.cycles.lock ∧
      (openers s.cycles.connection).Nodup ∧
      (∀ i ∈ s.cycles.workers, s.cycles.lock = some i ∨ i ∈ s.cycles.cancelled) ∧
      (s.cycles.lock = none → s.cycles.client.initialized = false) ∧
      ∀ i : ℕ, s.cycles.calls[i]? ≠ some (.finished .mt5NotInitialized) := by
  have hconnection : (run step (new true false) sampleCancelled).map
      (fun s => s.cycles.connection) = some [.opened 0, .used 0, .closed 0, .opened 1, .used 0,
        .used 1, .used 1, .closed 1] := by
    decide
  obtain ⟨s, hs, hlog⟩ := Option.map_eq_some_iff.mp hconnection
  exact ⟨s, hs, hlog, connection_bracketed true false sampleCancelled s hs⟩

/-! ## Starts and stops -/

/-- A call of `startup` or `shutdown` is at an await. -/
def LifecycleCall.InFlight (call : LifecycleCall) : Prop :=
  call ∈ [LifecycleCall.starting, .failing, .stopping]

instance (call : LifecycleCall) : Decidable call.InFlight := inferInstanceAs (Decidable (_ ∈ _))

theorem LifecycleCall.not_inFlight_returned (raised : Bool) :
    ¬ (LifecycleCall.returned raised).InFlight := by
  simp [LifecycleCall.InFlight]

theorem LifecycleCall.not_inFlight_stopRaised : ¬ LifecycleCall.stopRaised.InFlight := by decide

namespace ComposerLifecycle

variable {s t : ComposerLifecycle} {k : ℕ} {call : LifecycleCall}

/-- No start and no stop is under way. -/
def Idle (s : ComposerLifecycle) : Prop := ∀ call ∈ s.calls, ¬ call.InFlight

instance (s : ComposerLifecycle) : Decidable s.Idle := inferInstanceAs (Decidable (∀ _ ∈ _, _))

/-- What a start or stop under way knows of the composer. -/
def AtAwait (s : ComposerLifecycle) : LifecycleCall → Prop
  | .starting => s.state = .new ∧ s.flowStarted = true
  | .failing => s.state = .new ∧ s.flowStarted = false
  | .stopping => s.state = .started ∧ s.flowStarted = false
  | .returned _ | .stopRaised => False

/-- The bootstrap runs exactly while the composer is started, unless a stop has raised. -/
def FlowFollows (s : ComposerLifecycle) : Prop :=
  s.flowStarted = true ↔ s.state = .started ∧ LifecycleCall.stopRaised ∉ s.calls

/-- What holds between starts and stops that do not overlap. -/
structure Settled (s : ComposerLifecycle) : Prop where
  closes : s.closes = if s.state = .stopped ∧ s.ownsRestClient = true then 1 else 0
  unraised : s.state = .new → LifecycleCall.stopRaised ∉ s.calls
  calls : s.Idle ∧ s.FlowFollows ∨
    ∃ (before : List LifecycleCall) (call : LifecycleCall), s.calls = before ++ [call] ∧
      (∀ call ∈ before, ¬ call.InFlight) ∧ s.AtAwait call

theorem idle_concat {calls : List LifecycleCall} {last : LifecycleCall}
    (h : ∀ call ∈ calls, ¬ call.InFlight) (hlast : ¬ last.InFlight) :
    ∀ call ∈ calls ++ [last], ¬ call.InFlight :=
  List.forall_mem_append.mpr ⟨h, List.forall_mem_singleton.mpr hlast⟩

theorem AtAwait.inFlight (h : s.AtAwait call) : call.InFlight := by
  cases call with
  | starting | failing | stopping => decide
  | returned _ | stopRaised => exact h.elim

theorem Settled.flowFollows (hs : s.Settled) (h : s.Idle) : s.FlowFollows := by
  rcases hs.calls with ⟨-, hiff⟩ | ⟨before, call, hcalls, -, hawait⟩
  · exact hiff
  · exact absurd hawait.inFlight (h call (by simp [hcalls]))

theorem Settled.returnAtOnce (hs : s.Settled) (hidle : s.Idle) (raised : Bool) :
    Settled { s with calls := s.calls ++ [.returned raised] } where
  closes := hs.closes
  unraised hnew := by simpa using hs.unraised hnew
  calls := by
    refine .inl ⟨idle_concat hidle (LifecycleCall.not_inFlight_returned raised), ?_⟩
    simpa [FlowFollows] using hs.flowFollows hidle

theorem Settled.startup (hs : s.Settled) (hidle : s.Idle) : s.startup.Settled := by
  unfold ComposerLifecycle.startup
  split
  · exact hs.returnAtOnce hidle false
  · exact hs.returnAtOnce hidle true
  · next hstate =>
      have hflow : ¬ s.flowStarted = true := by
        intro h
        cases hstate.symm.trans ((hs.flowFollows hidle).mp h).1
      rw [if_neg hflow]
      exact ⟨hs.closes, fun _ => by simpa using hs.unraised hstate,
        .inr ⟨s.calls, .starting, rfl, hidle, hstate, rfl⟩⟩

/-- The end of a stop, after which nothing is under way. -/
theorem Settled.stop (hs : s.Settled) (hstate : s.state ≠ .stopped) (hflow : s.flowStarted = false)
    {calls : List LifecycleCall} (hcalls : ∀ call ∈ calls, ¬ call.InFlight) :
    Settled { s.stop with calls } where
  closes := by
    have hzero : s.closes = 0 := by rw [hs.closes, if_neg fun h => hstate h.1]
    change s.closes + (if s.ownsRestClient then 1 else 0) = _
    rw [hzero, Nat.zero_add]
    exact if_congr ⟨fun h => ⟨rfl, h⟩, fun h => h.2⟩ rfl rfl
  unraised hnew := by cases hnew
  calls := by
    refine .inl ⟨hcalls, ?_⟩
    change s.flowStarted = true ↔ LifecycleState.stopped = .started ∧ _
    simp [hflow]

theorem Settled.shutdown (hs : s.Settled) (hidle : s.Idle) : s.shutdown.Settled := by
  have hnot (hstate : s.state ≠ .stopped) : Settled (if s.flowStarted then
      { s with flowStarted := false, calls := s.calls ++ [.stopping] }
      else { s.stop with calls := s.calls ++ [.returned false] }) := by
    split_ifs with hflow
    · have hstarted := ((hs.flowFollows hidle).mp hflow).1
      exact ⟨hs.closes, fun hnew => (by cases hstarted.symm.trans hnew),
        .inr ⟨s.calls, .stopping, rfl, hidle, hstarted, rfl⟩⟩
    · exact hs.stop hstate (Bool.eq_false_iff.mpr hflow)
        (idle_concat hidle (LifecycleCall.not_inFlight_returned false))
  unfold ComposerLifecycle.shutdown
  split
  · exact hs.returnAtOnce hidle false
  · next hstate => exact hnot (by rw [hstate]; nofun)
  · next hstate => exact hnot (by rw [hstate]; nofun)

theorem Settled.underWay (hs : s.Settled) (h : s.calls[k]? = some call) (hin : call.InFlight) :
    s.AtAwait call ∧ ∃ before, s.calls = before ++ [call] ∧
      (∀ new, s.calls.set k new = before ++ [new]) ∧ ∀ call ∈ before, ¬ call.InFlight := by
  rcases hs.calls with ⟨hidle, -⟩ | ⟨before, last, hcalls, hbefore, hawait⟩
  · exact absurd hin (hidle call (List.mem_of_getElem? h))
  rw [hcalls, List.getElem?_append] at h
  split_ifs at h with hlt
  · exact absurd hin (hbefore call (List.mem_of_getElem? h))
  rw [List.getElem?_singleton] at h
  split_ifs at h with hk
  cases h
  refine ⟨hawait, before, hcalls, fun new => ?_, hbefore⟩
  rw [hcalls, List.set_append, if_neg hlt, hk]
  rfl

theorem Settled.resume {failed : Bool} (hs : s.Settled) (h : s.resume k failed = some t) :
    t.Settled := by
  unfold ComposerLifecycle.resume at h
  split at h
  · next hcall =>
      obtain ⟨⟨hstate, hflow⟩, before, hcalls, hset, hbefore⟩ := hs.underWay hcall (by decide)
      have hnone : LifecycleCall.stopRaised ∉ before := by simpa [hcalls] using hs.unraised hstate
      split_ifs at h with hfailed
      · cases h
        refine ⟨hs.closes, fun _ => ?_, .inr ⟨before, .failing, hset _, hbefore, hstate, rfl⟩⟩
        simpa [hset] using hnone
      · cases h
        refine ⟨?_, fun hnew => (by cases hnew), .inl ⟨?_, ?_⟩⟩
        · rw [hs.closes, hstate]
          rfl
        · rw [Idle, hset]
          exact idle_concat hbefore (LifecycleCall.not_inFlight_returned false)
        · exact iff_of_true hflow ⟨rfl, by simpa [hset] using hnone⟩
  · next hcall =>
      obtain ⟨⟨hstate, hflow⟩, before, hcalls, hset, hbefore⟩ := hs.underWay hcall (by decide)
      have hnone : LifecycleCall.stopRaised ∉ before := by simpa [hcalls] using hs.unraised hstate
      cases h
      refine ⟨hs.closes, fun _ => by simpa [hset] using hnone, .inl ⟨?_, ?_⟩⟩
      · rw [Idle, hset]
        exact idle_concat hbefore (LifecycleCall.not_inFlight_returned true)
      · change s.flowStarted = true ↔ s.state = .started ∧ _
        simp [hflow, hstate]
  · next hcall =>
      obtain ⟨⟨hstate, hflow⟩, before, hcalls, hset, hbefore⟩ := hs.underWay hcall (by decide)
      split_ifs at h with hfailed
      · -- the stop raises: the bootstrap is stopped, the composer is not
        cases h
        refine ⟨hs.closes, fun hnew => (by cases hstate.symm.trans hnew), .inl ⟨?_, ?_⟩⟩
        · rw [Idle, hset]
          exact idle_concat hbefore LifecycleCall.not_inFlight_stopRaised
        · rw [FlowFollows, hset]
          exact iff_of_false (by simp [hflow]) fun hcon => hcon.2 (by simp)
      · cases h
        exact hs.stop (by rw [hstate]; nofun) hflow
          (hset _ ▸ idle_concat hbefore (LifecycleCall.not_inFlight_returned false))
  · cases h
  · cases h
  · cases h

end ComposerLifecycle

namespace ComposerCycles

variable {s t : ComposerCycles} {i : ℕ}

/-- No call has come in that waits for the lock, and only calls that waited have opened the
connection. -/
structure NoneAdmitted (s t : ComposerCycles) : Prop where
  waiting : ∀ i : ℕ, t.calls[i]? = some CycleCall.waiting → s.calls[i]? = some CycleCall.waiting
  opened : ∀ i ∈ openers t.connection,
    i ∈ openers s.connection ∨ s.calls[i]? = some CycleCall.waiting

theorem NoneAdmitted.refl (s : ComposerCycles) : NoneAdmitted s s := ⟨fun _ h => h, fun _ => .inl⟩

theorem NoneAdmitted.trans {u : ComposerCycles} (hst : NoneAdmitted s t)
    (htu : NoneAdmitted t u) : NoneAdmitted s u where
  waiting i h := hst.waiting i (htu.waiting i h)
  opened i h := (htu.opened i h).elim (hst.opened i) fun h => .inr (hst.waiting i h)

/-- A call that does not wait afterwards, and opens the connection only if it has waited. -/
theorem noneAdmitted_of_set {call : CycleCall} (hcalls : t.calls = s.calls.set i call)
    (hcall : call ≠ .waiting) (hopened : ∀ j ∈ openers t.connection,
      j ∈ openers s.connection ∨ j = i ∧ s.calls[i]? = some CycleCall.waiting) :
    NoneAdmitted s t where
  waiting j hj := by
    rw [hcalls, List.getElem?_set] at hj
    split_ifs at hj with hij hlt
    · exact absurd (Option.some.inj hj) hcall
    · exact hj
  opened j hj := (hopened j hj).imp_right fun ⟨hji, hwaiting⟩ => hji ▸ hwaiting

theorem noneAdmitted_beginCycle (h : s.calls[i]? = some .waiting) (meets : CycleStart) :
    NoneAdmitted s (s.beginCycle i meets) := by
  unfold ComposerCycles.beginCycle
  split_ifs
  · exact noneAdmitted_of_set rfl (finished_ne_waiting _) fun _ => .inl
  · exact noneAdmitted_of_set rfl (finished_ne_waiting _) fun _ => .inl
  cases hstatus : (s.client.initializeConnection meets.answer).2 with
  | none =>
      simp only [hstatus]
      refine noneAdmitted_of_set rfl (finished_ne_waiting _) fun j hj => ?_
      rw [openers_append, openers_append] at hj
      simpa [openers, h] using hj
  | some status =>
      simp only [hstatus]
      refine noneAdmitted_of_set rfl (fetching_ne_waiting _ _) fun j hj => ?_
      rw [openers_append] at hj
      simpa [openers, h] using hj

theorem noneAdmitted_leave (reads : ℕ) (result : CycleCallResult) :
    NoneAdmitted s (s.leave i reads result) := by
  refine noneAdmitted_of_set rfl (finished_ne_waiting _) fun j hj => .inl ?_
  change j ∈ openers (s.connection ++ List.replicate reads (.used i) ++ [.closed i]) at hj
  rw [openers_append, openers_append, openers_replicate] at hj
  simpa [openers] using hj

theorem noneAdmitted_endFetch (result : FetchResult) : NoneAdmitted s (s.endFetch i result) := by
  unfold ComposerCycles.endFetch
  dsimp only
  split
  · exact noneAdmitted_of_set rfl nofun fun _ => .inl
  · exact ⟨fun _ h => h, fun _ => .inl⟩

theorem noneAdmitted_acquire {meets : CycleStart} (h : s.acquire meets = some t) :
    NoneAdmitted s t := by
  unfold ComposerCycles.acquire at h
  split_ifs at h with hfree
  exact Option.some.inj h ▸ noneAdmitted_beginCycle (first_waiting hfree.2) meets

theorem noneAdmitted_finish {reads : ℕ} {raises : Bool} (h : s.finish i reads raises = some t) :
    NoneAdmitted s t := by
  unfold ComposerCycles.finish at h
  split at h
  · split_ifs at h <;> exact Option.some.inj h ▸ noneAdmitted_leave _ _
  · cases h

theorem noneAdmitted_cancel (h : s.cancel i = some t) : NoneAdmitted s t := by
  unfold ComposerCycles.cancel at h
  split at h
  · exact Option.some.inj h ▸ noneAdmitted_of_set rfl nofun fun _ => .inl
  · exact Option.some.inj h ▸ noneAdmitted_leave _ _
  · cases h

theorem noneAdmitted_refused (meets : CycleStart) : NoneAdmitted s (s.runCycle false meets) where
  waiting j hj := by
    change (s.calls ++ [CycleCall.finished .lifecycleError])[j]? = _ at hj
    rw [List.getElem?_append] at hj
    split_ifs at hj with hlt
    · exact hj
    · rw [List.getElem?_singleton] at hj
      split_ifs at hj
      cases hj
  opened _ := .inl

end ComposerCycles

namespace ProductionAdvisoryComposer

variable {s s' : ProductionAdvisoryComposer}

/-- A start or a stop begins only when none is under way. -/
def Serial (s : ProductionAdvisoryComposer) : ComposerAction → Prop
  | .startup | .shutdown => s.lifecycle.Idle
  | _ => True

instance (s : ProductionAdvisoryComposer) (a : ComposerAction) : Decidable (s.Serial a) :=
  match a with
  | .startup | .shutdown => inferInstanceAs (Decidable s.lifecycle.Idle)
  | .resume _ _ | .runCycle _ | .acquire _ | .fetchRead _ | .fetchEnd _ _ | .finish _ _ _
  | .cancel _ => instDecidableTrue

theorem settled_step (s : ProductionAdvisoryComposer) (a : ComposerAction)
    (s' : ProductionAdvisoryComposer) (hs : s.lifecycle.Settled) (ha : s.Serial a)
    (h : s.step a = some s') : s'.lifecycle.Settled := by
  cases a with
  | startup => exact Option.some.inj h ▸ hs.startup ha
  | shutdown => exact Option.some.inj h ▸ hs.shutdown ha
  | resume k failed =>
      obtain ⟨lifecycle, hlifecycle, rfl⟩ := Option.map_eq_some_iff.mp h
      exact hs.resume hlifecycle
  | runCycle meets => exact Option.some.inj h ▸ hs
  | acquire meets | fetchRead i | fetchEnd i raises | finish i reads raises | cancel i =>
      obtain ⟨cycles, -, rfl⟩ := Option.map_eq_some_iff.mp h
      exact hs

/-- After a stop nothing starts, and only the cycles that waited then run. -/
theorem stopped_step (s : ProductionAdvisoryComposer) (a : ComposerAction)
    (s' : ProductionAdvisoryComposer) (hs : s.lifecycle.Settled)
    (hstopped : s.lifecycle.state = .stopped) (h : s.step a = some s') :
    s'.lifecycle.state = .stopped ∧ ComposerCycles.NoneAdmitted s.cycles s'.cycles := by
  have hrefl := ComposerCycles.NoneAdmitted.refl s.cycles
  cases a with
  | startup =>
      cases h
      refine ⟨?_, hrefl⟩
      simp only [ComposerLifecycle.startup, hstopped]
  | shutdown =>
      cases h
      refine ⟨?_, hrefl⟩
      simp only [ComposerLifecycle.shutdown, hstopped]
  | resume k failed =>
      obtain ⟨lifecycle, hlifecycle, rfl⟩ := Option.map_eq_some_iff.mp h
      -- A start or stop under way would have seen another state.
      cases hcall : s.lifecycle.calls[k]? with
      | none => simp [ComposerLifecycle.resume, hcall] at hlifecycle
      | some call =>
          cases call with
          | starting => cases hstopped.symm.trans (hs.underWay hcall (by decide)).1.1
          | failing => cases hstopped.symm.trans (hs.underWay hcall (by decide)).1.1
          | stopping => cases hstopped.symm.trans (hs.underWay hcall (by decide)).1.1
          | returned raised => simp [ComposerLifecycle.resume, hcall] at hlifecycle
          | stopRaised => simp [ComposerLifecycle.resume, hcall] at hlifecycle
  | runCycle meets =>
      cases h
      refine ⟨hstopped, ?_⟩
      have hrefused : decide (s.lifecycle.state = .started) = false := by rw [hstopped]; rfl
      change ComposerCycles.NoneAdmitted s.cycles (s.cycles.runCycle (decide _) meets)
      rw [hrefused]
      exact ComposerCycles.noneAdmitted_refused meets
  | acquire meets =>
      obtain ⟨cycles, hcycles, rfl⟩ := Option.map_eq_some_iff.mp h
      exact ⟨hstopped, ComposerCycles.noneAdmitted_acquire hcycles⟩
  | fetchRead i =>
      obtain ⟨cycles, hcycles, rfl⟩ := Option.map_eq_some_iff.mp h
      refine ⟨hstopped, ?_⟩
      unfold ComposerCycles.fetchRead at hcycles
      split_ifs at hcycles
      · cases hcycles
        refine ⟨fun _ hj => hj, fun j hj => .inl ?_⟩
        rw [openers_append] at hj
        simpa [openers] using hj
      · exact Option.some.inj hcycles ▸ ComposerCycles.noneAdmitted_endFetch _
  | fetchEnd i raises =>
      obtain ⟨cycles, hcycles, rfl⟩ := Option.map_eq_some_iff.mp h
      refine ⟨hstopped, ?_⟩
      unfold ComposerCycles.fetchEnd at hcycles
      split_ifs at hcycles <;>
        exact Option.some.inj hcycles ▸ ComposerCycles.noneAdmitted_endFetch _
  | finish i reads raises =>
      obtain ⟨cycles, hcycles, rfl⟩ := Option.map_eq_some_iff.mp h
      exact ⟨hstopped, ComposerCycles.noneAdmitted_finish hcycles⟩
  | cancel i =>
      obtain ⟨cycles, hcycles, rfl⟩ := Option.map_eq_some_iff.mp h
      exact ⟨hstopped, ComposerCycles.noneAdmitted_cancel hcycles⟩

theorem ownsRestClient_step (s : ProductionAdvisoryComposer) (a : ComposerAction)
    (s' : ProductionAdvisoryComposer) (h : s.step a = some s') :
    s'.lifecycle.ownsRestClient = s.lifecycle.ownsRestClient := by
  cases a with
  | startup =>
      cases h
      change s.lifecycle.startup.ownsRestClient = _
      unfold ComposerLifecycle.startup
      split
      · rfl
      · rfl
      · split_ifs <;> rfl
  | shutdown =>
      cases h
      change s.lifecycle.shutdown.ownsRestClient = _
      unfold ComposerLifecycle.shutdown
      split
      · rfl
      · split_ifs <;> rfl
      · split_ifs <;> rfl
  | resume k failed =>
      obtain ⟨lifecycle, hlifecycle, rfl⟩ := Option.map_eq_some_iff.mp h
      unfold ComposerLifecycle.resume at hlifecycle
      split at hlifecycle
      · split_ifs at hlifecycle <;> exact Option.some.inj hlifecycle ▸ rfl
      · exact Option.some.inj hlifecycle ▸ rfl
      · split_ifs at hlifecycle <;> exact Option.some.inj hlifecycle ▸ rfl
      · cases hlifecycle
      · cases hlifecycle
      · cases hlifecycle
  | runCycle meets => exact Option.some.inj h ▸ rfl
  | acquire meets | fetchRead i | fetchEnd i raises | finish i reads raises | cancel i =>
      obtain ⟨cycles, -, rfl⟩ := Option.map_eq_some_iff.mp h
      rfl

theorem settled_new (ownsRestClient credentialsSupplied : Bool) :
    (new ownsRestClient credentialsSupplied).lifecycle.Settled where
  closes := rfl
  unraised _ := List.not_mem_nil
  calls := .inl ⟨fun _ h => absurd h List.not_mem_nil, nofun, nofun⟩

end ProductionAdvisoryComposer

open ProductionAdvisoryComposer in
/-- **Starts and stops that do not overlap are in order.** The shared client is closed once, by the
stop that completes; between them the bootstrap runs exactly while the composer is started and no
stop has raised; and after a stop that completes the composer stays stopped, whatever comes, and the
only cycles that still open the connection are those that waited for the lock at the stop. -/
theorem serial_lifecycle (ownsRestClient credentialsSupplied : Bool)
    (actions more : List ComposerAction) (s s' : ProductionAdvisoryComposer)
    (h : run step (new ownsRestClient credentialsSupplied) actions = some s)
    (h' : run step s more = some s')
    (hserial : Along step Serial (new ownsRestClient credentialsSupplied) (actions ++ more)) :
    s.lifecycle.closes =
        (if s.lifecycle.state = .stopped ∧ ownsRestClient = true then 1 else 0) ∧
      (s.lifecycle.Idle → (s.lifecycle.flowStarted = true ↔
        s.lifecycle.state = .started ∧ LifecycleCall.stopRaised ∉ s.lifecycle.calls)) ∧
      (s.lifecycle.state = .stopped → s'.lifecycle.state = .stopped ∧
        ∀ i ∈ openers s'.cycles.connection,
          i ∈ openers s.cycles.connection ∨ s.cycles.calls[i]? = some .waiting) := by
  have hs : s.lifecycle.Settled ∧ s.lifecycle.ownsRestClient = ownsRestClient := by
    refine run_invariant (C := Serial)
      (I := fun s => s.lifecycle.Settled ∧ s.lifecycle.ownsRestClient = ownsRestClient)
      (fun s a s' hs ha hstep => ?_) ⟨settled_new _ _, rfl⟩
      (hserial.initial (List.prefix_append actions more)) h
    exact ⟨settled_step s a s' hs.1 ha hstep, (ownsRestClient_step s a s' hstep).trans hs.2⟩
  refine ⟨by rw [hs.1.closes, hs.2], hs.1.flowFollows, fun hstopped => ?_⟩
  have hafter : s'.lifecycle.Settled ∧ s'.lifecycle.state = .stopped ∧
      ComposerCycles.NoneAdmitted s.cycles s'.cycles := by
    refine run_invariant (C := Serial)
      (I := fun t => t.lifecycle.Settled ∧ t.lifecycle.state = .stopped ∧
        ComposerCycles.NoneAdmitted s.cycles t.cycles)
      (fun t a t' ht ha hstep => ?_) ⟨hs.1, hstopped, .refl _⟩ (hserial.rest h) h'
    obtain ⟨hstate, hadmitted⟩ := stopped_step t a t' ht.1 ht.2.1 hstep
    exact ⟨settled_step t a t' ht.1 ha hstep, hstate, ht.2.2.trans hadmitted⟩
  exact ⟨hafter.2.1, hafter.2.2.opened⟩

/-- A stop that raises while one cycle fetches and another waits, and one that completes. -/
def sampleStop : List ComposerAction :=
  [.startup, .resume 0 false, .runCycle sampleCycleStart, .runCycle sampleCycleStart, .shutdown,
    .resume 1 true, .startup, .shutdown]

/-- What the two cycles do then. -/
def sampleAfterStop : List ComposerAction :=
  [.fetchRead 0, .fetchEnd 0 false, .finish 0 4 false, .acquire sampleCycleStart, .fetchEnd 1 false,
    .finish 1 4 false, .runCycle sampleCycleStart]

open ProductionAdvisoryComposer in
theorem serial_lifecycle_sample :
    ∃ s s', run step (new true false) sampleStop = some s ∧ run step s sampleAfterStop = some s' ∧
      openers s.cycles.connection = [0] ∧ openers s'.cycles.connection = [0, 1] ∧
      s.lifecycle.closes =
        (if s.lifecycle.state = .stopped ∧ true = true then 1 else 0) ∧
      (s.lifecycle.Idle → (s.lifecycle.flowStarted = true ↔
        s.lifecycle.state = .started ∧ LifecycleCall.stopRaised ∉ s.lifecycle.calls)) ∧
      (s.lifecycle.state = .stopped → s'.lifecycle.state = .stopped ∧
        ∀ i ∈ openers s'.cycles.connection,
          i ∈ openers s.cycles.connection ∨ s.cycles.calls[i]? = some .waiting) := by
  have hbefore : (run step (new true false) sampleStop).map
      (fun s => openers s.cycles.connection) = some [0] := by decide
  have hafter : (run step (new true false) (sampleStop ++ sampleAfterStop)).map
      (fun s => openers s.cycles.connection) = some [0, 1] := by decide
  obtain ⟨s, hs, hopen⟩ := Option.map_eq_some_iff.mp hbefore
  obtain ⟨s', hs', hopen'⟩ := Option.map_eq_some_iff.mp hafter
  obtain ⟨t, ht, hrest⟩ := run_append.mp hs'
  cases hs.symm.trans ht
  exact ⟨s, s', hs, hrest, hopen, hopen',
    serial_lifecycle true false sampleStop sampleAfterStop s s' hs hrest (by decide)⟩

end TradingAdvisor
