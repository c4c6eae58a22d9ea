import Mathlib.Data.List.Induction
import Mathlib.Data.Set.Basic

/-!
# Uses of a resource between its opening and its closing

A resource is opened, used and closed by owners. A history is bracketed when an owner opens it only
while it is closed, and only the owner that has it open uses and closes it; the uses of some owners,
the stray ones, are let through anywhere.

* `holder` — who has the resource open after a history, or that the history is not bracketed;
* `holder_append` — a history splits at every point;
* `holder_mono` — more strays let more histories through;
* **`used_between`**: a use that is not stray lies between an opening by its owner and its closing.
-/

namespace Brackets

/-- What an owner does with the resource. -/
inductive Event (ι : Type*)
  | opened (i : ι)
  | used (i : ι)
  | closed (i : ι)
  deriving DecidableEq

section Openers

variable {ι : Type*}

/-- The owners that open the resource, in order. -/
def openers : List (Event ι) → List ι
  | [] => []
  | .opened i :: events => i :: openers events
  | _ :: events => openers events

theorem openers_append {events more : List (Event ι)} :
    openers (events ++ more) = openers events ++ openers more := by
  induction events with
  | nil => rfl
  | cons e events ih => cases e <;> simp [openers, ih]

theorem openers_snoc {events : List (Event ι)} (i : ι) :
    openers (events ++ [.opened i]) = openers events ++ [i] := openers_append

theorem nodup_openers_snoc {events : List (Event ι)} {i : ι} (h : (openers events).Nodup)
    (hi : i ∉ openers events) : (openers (events ++ [.opened i])).Nodup := by
  rw [openers_snoc, List.nodup_append]
  refine ⟨h, List.pairwise_singleton _ i, fun j hj k hk hjk => ?_⟩
  rw [hjk, List.mem_singleton.mp hk] at hj
  exact hi hj

theorem openers_replicate (i : ι) (n : ℕ) : openers (List.replicate n (Event.used i)) = [] := by
  induction n with
  | zero => rfl
  | succ n ih => exact ih

end Openers

variable {ι : Type*} [DecidableEq ι] {stray stray' : Set ι} [DecidablePred (· ∈ stray)]
  [DecidablePred (· ∈ stray')] {i : ι} {holding holding' : Option ι}

/-- One event, from the owner that has the resource open to the one that has it then. -/
def next (stray : Set ι) [DecidablePred (· ∈ stray)] (holding : Option ι) :
    Event ι → Option (Option ι)
  | .opened i => if holding = none then some (some i) else none
  | .used i => if holding = some i ∨ i ∈ stray then some holding else none
  | .closed i => if holding = some i then some none else none

/-- Who has the resource open after some events. -/
def holder (stray : Set ι) [DecidablePred (· ∈ stray)] (holding : Option ι) :
    List (Event ι) → Option (Option ι)
  | [] => some holding
  | e :: events => (next stray holding e).bind fun holding' => holder stray holding' events

@[simp] theorem next_opened : next stray holding (.opened i) = some holding' ↔
    holding = none ∧ holding' = some i := by
  simp only [next]
  split_ifs with h <;> simp [h, eq_comm]

@[simp] theorem next_used : next stray holding (.used i) = some holding' ↔
    (holding = some i ∨ i ∈ stray) ∧ holding' = holding := by
  simp only [next]
  split_ifs with h <;> simp [h, eq_comm]

@[simp] theorem next_closed : next stray holding (.closed i) = some holding' ↔
    holding = some i ∧ holding' = none := by
  simp only [next]
  split_ifs with h <;> simp [h, eq_comm]

theorem holder_append {events more : List (Event ι)} :
    holder stray holding (events ++ more) =
      (holder stray holding events).bind fun holding' => holder stray holding' more := by
  induction events generalizing holding with
  | nil => rfl
  | cons e events ih =>
      rw [List.cons_append, holder, holder, Option.bind_assoc]
      congr
      funext holding'
      exact ih

/-- An event that follows a bracketed history. -/
theorem holder_snoc {events : List (Event ι)} {e : Event ι} {start : Option ι}
    (h : holder stray start events = some holding) (he : next stray holding e = some holding') :
    holder stray start (events ++ [e]) = some holding' := by
  rw [holder_append, h, Option.bind_some, holder, he]
  rfl

/-- Uses by the owner that has the resource open. -/
theorem holder_uses {events : List (Event ι)} {start : Option ι}
    (h : holder stray start events = some (some i)) (n : ℕ) :
    holder stray start (events ++ List.replicate n (.used i)) = some (some i) := by
  induction n with
  | zero => simpa using h
  | succ n ih =>
      rw [List.replicate_succ', ← List.append_assoc]
      exact holder_snoc ih (next_used.mpr ⟨.inl rfl, rfl⟩)

theorem next_mono (h : stray ⊆ stray') {e : Event ι} (he : next stray holding e = some holding') :
    next stray' holding e = some holding' := by
  cases e with
  | opened i => exact he
  | closed i => exact he
  | used i =>
      rw [next_used] at he ⊢
      exact ⟨he.1.imp_right fun hi => h hi, he.2⟩

theorem holder_mono (h : stray ⊆ stray') {events : List (Event ι)}
    (he : holder stray holding events = some holding') :
    holder stray' holding events = some holding' := by
  induction events generalizing holding with
  | nil => exact he
  | cons e events ih =>
      obtain ⟨t, ht, hrest⟩ := Option.bind_eq_some_iff.mp he
      rw [holder, next_mono h ht]
      exact ih hrest

/-- Whoever has the resource open has opened it, and nobody has closed it since. -/
theorem opened_of_holder {events : List (Event ι)}
    (h : holder stray none events = some (some i)) :
    ∃ before since, events = before ++ .opened i :: since ∧ .closed i ∉ since ∧
      openers since = [] := by
  induction events using List.reverseRecOn with
  | nil => cases h
  | append_singleton events e ih =>
      rw [holder_append] at h
      obtain ⟨t, ht, hnext⟩ := Option.bind_eq_some_iff.mp h
      obtain ⟨t', ht', hlast⟩ := Option.bind_eq_some_iff.mp hnext
      cases hlast
      cases e with
      | opened j =>
          cases (next_opened.mp ht').2
          exact ⟨events, [], rfl, List.not_mem_nil, rfl⟩
      | used j =>
          obtain ⟨-, rfl⟩ := next_used.mp ht'
          obtain ⟨before, since, rfl, hclosed, hopeners⟩ := ih ht
          refine ⟨before, since ++ [.used j], by simp, ?_, ?_⟩
          · simpa using hclosed
          · rw [openers_append, hopeners]
            rfl
      | closed j => cases (next_closed.mp ht').2

/-- **A use that is not stray lies between an opening by its owner and its closing.** -/
theorem used_between {events more : List (Event ι)}
    (h : holder stray none (events ++ .used i :: more) = some holding) (hi : i ∉ stray) :
    ∃ before since, events = before ++ .opened i :: since ∧ .closed i ∉ since ∧
      openers since = [] := by
  rw [holder_append] at h
  obtain ⟨t, ht, hrest⟩ := Option.bind_eq_some_iff.mp h
  obtain ⟨t', hnext, -⟩ := Option.bind_eq_some_iff.mp hrest
  rw [(next_used.mp hnext).1.resolve_right hi] at ht
  exact opened_of_holder ht

end Brackets
