import Mathlib.Order.Lattice
import Mathlib.Data.List.Basic
import Mathlib.Data.List.Pairwise

/-!
# Consecutive windows over a stream

Items carry a key and are folded into the window of their key. Only the newest window is open: an
item of a newer key closes it, and an item of an older key is late and left out.

* `Windowing` — how items are folded into windows;
* `add`, `emitted`, `accepted` — one item, the windows a run closes and the items it folds;
* `emitted_pairwise`, `emitted_eq` — **every window is closed once, in ascending order, and holds
  the accepted items of its key**;
* `isLate_after_iff` — **an item is late when a newer key was seen before it**.
-/

namespace Windows

/-- How items are folded into windows that know their key. -/
structure Windowing (τ κ ω : Type*) where
  /-- The key of an item. -/
  key : τ → κ
  /-- The key of a window. -/
  start : ω → κ
  /-- An empty window. -/
  fresh : κ → ω
  /-- Fold an item into a window. -/
  absorb : ω → τ → ω
  start_fresh : ∀ k, start (fresh k) = k
  start_absorb : ∀ w x, start (absorb w x) = start w

namespace Windowing

variable {τ κ ω : Type*} [LinearOrder κ] (W : Windowing τ κ ω)

/-- The item is older than the open window. -/
def IsLate (opened : Option ω) (x : τ) : Prop := ∃ w ∈ opened, W.key x < W.start w

instance decidableIsLate (opened : Option ω) (x : τ) : Decidable (W.IsLate opened x) :=
  match opened with
  | none => .isFalse fun ⟨_, h, _⟩ => Option.not_mem_none _ h
  | some w => decidable_of_iff (W.key x < W.start w)
      ⟨fun h => ⟨w, rfl, h⟩, fun ⟨_, hw, h⟩ => Option.mem_some_iff.mp hw ▸ h⟩

/-- A window that starts with an item. -/
def startWith (x : τ) : ω := W.absorb (W.fresh (W.key x)) x

/-- The open window after an item, and the window the item closes. -/
def add : Option ω → τ → Option ω × Option ω
  | none, x => (some (W.startWith x), none)
  | some w, x =>
      if W.key x < W.start w then (some w, none)
      else if W.key x = W.start w then (some (W.absorb w x), none)
      else (some (W.startWith x), some w)

/-- The open window after some items. -/
def after (opened : Option ω) (xs : List τ) : Option ω :=
  xs.foldl (fun opened x => (W.add opened x).1) opened

/-- The windows that the items close, and the one that is closed in the end. -/
def emitted : Option ω → List τ → List ω
  | opened, [] => opened.toList
  | opened, x :: xs => (W.add opened x).2.toList ++ emitted (W.add opened x).1 xs

/-- The items that are not late. -/
def accepted : Option ω → List τ → List τ
  | _, [] => []
  | opened, x :: xs =>
      if W.IsLate opened x then accepted (W.add opened x).1 xs
      else x :: accepted (W.add opened x).1 xs

variable {W} {w e : ω} {x y : τ} {xs : List τ} {opened : Option ω}

omit [LinearOrder κ] in
@[simp] theorem start_startWith (x : τ) : W.start (W.startWith x) = W.key x := by
  rw [startWith, W.start_absorb, W.start_fresh]

/-! ## One item -/

theorem add_of_late (h : W.key x < W.start w) : W.add (some w) x = (some w, none) := if_pos h

theorem add_of_eq (h : W.key x = W.start w) : W.add (some w) x = (some (W.absorb w x), none) := by
  rw [add, if_neg h.not_lt, if_pos h]

theorem add_of_newer (h : W.start w < W.key x) :
    W.add (some w) x = (some (W.startWith x), some w) := by
  rw [add, if_neg h.not_gt, if_neg h.ne']

theorem isLate_some : W.IsLate (some w) x ↔ W.key x < W.start w :=
  ⟨fun ⟨_, hw, h⟩ => Option.mem_some_iff.mp hw ▸ h, fun h => ⟨w, rfl, h⟩⟩

theorem not_isLate_none : ¬ W.IsLate none x := fun ⟨_, h, _⟩ => Option.not_mem_none _ h

theorem add_of_isLate (h : W.IsLate opened x) : W.add opened x = (opened, none) := by
  obtain ⟨w, hw, h⟩ := h
  rw [Option.mem_def.mp hw, add_of_late h]

theorem emitted_cons (opened : Option ω) (x : τ) (xs : List τ) :
    W.emitted opened (x :: xs) =
      (W.add opened x).2.toList ++ W.emitted (W.add opened x).1 xs := rfl

theorem accepted_of_isLate (h : W.IsLate opened x) :
    W.accepted opened (x :: xs) = W.accepted opened xs := by
  rw [accepted, if_pos h, add_of_isLate h]

theorem accepted_of_not (h : ¬ W.IsLate opened x) :
    W.accepted opened (x :: xs) = x :: W.accepted (W.add opened x).1 xs := by
  rw [accepted, if_neg h]

/-! ## Runs from an open window -/

/-- The three ways an item goes, as one induction over the items. -/
theorem run_cases {P : ω → List τ → Prop} (nil : ∀ w, P w [])
    (late : ∀ w x xs, W.key x < W.start w → P w xs → P w (x :: xs))
    (same : ∀ w x xs, W.key x = W.start w → P (W.absorb w x) xs → P w (x :: xs))
    (newer : ∀ w x xs, W.start w < W.key x → P (W.startWith x) xs → P w (x :: xs))
    (w : ω) (xs : List τ) : P w xs := by
  induction xs generalizing w with
  | nil => exact nil w
  | cons x xs ih =>
      rcases lt_trichotomy (W.key x) (W.start w) with h | h | h
      · exact late w x xs h (ih w)
      · exact same w x xs h (ih _)
      · exact newer w x xs h (ih _)

theorem emitted_late (h : W.key x < W.start w) :
    W.emitted (some w) (x :: xs) = W.emitted (some w) xs := by
  rw [emitted_cons, add_of_late h]
  rfl

theorem emitted_same (h : W.key x = W.start w) :
    W.emitted (some w) (x :: xs) = W.emitted (some (W.absorb w x)) xs := by
  rw [emitted_cons, add_of_eq h]
  rfl

theorem emitted_newer (h : W.start w < W.key x) :
    W.emitted (some w) (x :: xs) = w :: W.emitted (some (W.startWith x)) xs := by
  rw [emitted_cons, add_of_newer h]
  rfl

theorem accepted_late (h : W.key x < W.start w) :
    W.accepted (some w) (x :: xs) = W.accepted (some w) xs :=
  accepted_of_isLate (isLate_some.mpr h)

theorem accepted_same (h : W.key x = W.start w) :
    W.accepted (some w) (x :: xs) = x :: W.accepted (some (W.absorb w x)) xs := by
  rw [accepted_of_not (fun hlate => (isLate_some.mp hlate).ne h), add_of_eq h]

theorem accepted_newer (h : W.start w < W.key x) :
    W.accepted (some w) (x :: xs) = x :: W.accepted (some (W.startWith x)) xs := by
  rw [accepted_of_not (fun hlate => (isLate_some.mp hlate).not_gt h), add_of_newer h]

theorem start_le_of_mem_accepted (w : ω) (xs : List τ) :
    ∀ y ∈ W.accepted (some w) xs, W.start w ≤ W.key y := by
  induction w, xs using run_cases (W := W) with
  | nil w => exact fun _ h => absurd h List.not_mem_nil
  | late w x xs h ih => rwa [accepted_late h]
  | same w x xs h ih =>
      rw [accepted_same h]
      rw [W.start_absorb] at ih
      exact List.forall_mem_cons.mpr ⟨h.ge, ih⟩
  | newer w x xs h ih =>
      rw [accepted_newer h]
      rw [start_startWith] at ih
      exact List.forall_mem_cons.mpr ⟨h.le, fun y hy => h.le.trans (ih y hy)⟩

theorem start_le_of_mem_emitted (w : ω) (xs : List τ) :
    ∀ e ∈ W.emitted (some w) xs, W.start w ≤ W.start e := by
  induction w, xs using run_cases (W := W) with
  | nil w => exact fun e h => (List.mem_singleton.mp h) ▸ le_rfl
  | late w x xs h ih => rwa [emitted_late h]
  | same w x xs h ih =>
      rw [emitted_same h]
      rwa [W.start_absorb] at ih
  | newer w x xs h ih =>
      rw [emitted_newer h]
      rw [start_startWith] at ih
      exact List.forall_mem_cons.mpr ⟨le_rfl, fun e he => h.le.trans (ih e he)⟩

/-- **Windows are closed in strictly ascending order.** -/
theorem emitted_pairwise_some (w : ω) (xs : List τ) :
    (W.emitted (some w) xs).Pairwise fun a b => W.start a < W.start b := by
  induction w, xs using run_cases (W := W) with
  | nil w => exact List.pairwise_singleton _ _
  | late w x xs h ih => rwa [emitted_late h]
  | same w x xs h ih => rwa [emitted_same h]
  | newer w x xs h ih =>
      rw [emitted_newer h]
      refine List.pairwise_cons.mpr ⟨fun e he => ?_, ih⟩
      have := start_le_of_mem_emitted _ _ e he
      rw [start_startWith] at this
      exact h.trans_le this

/-- The accepted items of one key. -/
def members (W : Windowing τ κ ω) (opened : Option ω) (xs : List τ) (k : κ) : List τ :=
  (W.accepted opened xs).filter fun x => W.key x = k

theorem members_of_accepted_cons {opened' : Option ω} {xs' : List τ} {k : κ}
    (h : W.accepted opened xs = x :: W.accepted opened' xs') :
    W.members opened xs k =
      if W.key x = k then x :: W.members opened' xs' k else W.members opened' xs' k := by
  rw [members, h, List.filter_cons]
  simp only [decide_eq_true_eq]
  rfl

/-- **A closed window holds the accepted items of its key**, after those it held before. -/
theorem emitted_eq_some (w : ω) (xs : List τ) : ∀ e ∈ W.emitted (some w) xs,
    e = (W.members (some w) xs (W.start e)).foldl W.absorb
      (if W.start e = W.start w then w else W.fresh (W.start e)) := by
  induction w, xs using run_cases (W := W) with
  | nil w =>
      intro e he
      rw [List.mem_singleton.mp he, if_pos rfl]
      rfl
  | late w x xs h ih =>
      rw [emitted_late h]
      simpa only [members, accepted_late h] using ih
  | same w x xs h ih =>
      intro e he
      rw [emitted_same h] at he
      have hih := ih e he
      rw [members_of_accepted_cons (accepted_same h)]
      rw [W.start_absorb] at hih
      by_cases hstart : W.start e = W.start w
      · rw [if_pos hstart] at hih ⊢
        rw [if_pos (h.trans hstart.symm)]
        exact hih
      · rw [if_neg hstart] at hih ⊢
        rw [if_neg fun heq => hstart (heq.symm.trans h)]
        exact hih
  | newer w x xs h ih =>
      intro e he
      rw [emitted_newer h] at he
      rw [members_of_accepted_cons (accepted_newer h)]
      rcases List.mem_cons.mp he with rfl | he
      · -- every later item is newer than the closed window
        have hnone : W.members (some (W.startWith x)) xs (W.start e) = [] := by
          refine List.filter_eq_nil_iff.mpr fun y hy => ?_
          have := start_le_of_mem_accepted _ _ y hy
          rw [start_startWith] at this
          simpa using (h.trans_le this).ne'
        rw [if_neg h.ne', if_pos rfl, hnone]
        rfl
      · have hle := start_le_of_mem_emitted _ _ e he
        rw [start_startWith] at hle
        have hih := ih e he
        rw [start_startWith] at hih
        rw [if_neg (h.trans_le hle).ne']
        by_cases hstart : W.start e = W.key x
        · rw [if_pos hstart] at hih
          rw [if_pos hstart.symm, List.foldl_cons, hstart]
          rw [hstart] at hih
          exact hih
        · rw [if_neg hstart] at hih
          rwa [if_neg (Ne.symm hstart)]

theorem exists_emitted_some (w : ω) (xs : List τ) :
    (∃ e ∈ W.emitted (some w) xs, W.start e = W.start w) ∧
      ∀ y ∈ W.accepted (some w) xs, ∃ e ∈ W.emitted (some w) xs, W.start e = W.key y := by
  induction w, xs using run_cases (W := W) with
  | nil w => exact ⟨⟨w, List.mem_singleton_self w, rfl⟩, fun _ h => absurd h List.not_mem_nil⟩
  | late w x xs h ih => rwa [emitted_late h, accepted_late h]
  | same w x xs h ih =>
      rw [emitted_same h, accepted_same h]
      rw [W.start_absorb] at ih
      exact ⟨ih.1, List.forall_mem_cons.mpr ⟨h.symm ▸ ih.1, ih.2⟩⟩
  | newer w x xs h ih =>
      rw [emitted_newer h, accepted_newer h]
      rw [start_startWith] at ih
      refine ⟨⟨w, List.mem_cons_self, rfl⟩, List.forall_mem_cons.mpr ⟨?_, fun y hy => ?_⟩⟩
      · obtain ⟨e, he, hstart⟩ := ih.1
        exact ⟨e, List.mem_cons_of_mem _ he, hstart⟩
      · obtain ⟨e, he, hstart⟩ := ih.2 y hy
        exact ⟨e, List.mem_cons_of_mem _ he, hstart⟩

theorem exists_accepted_some (w : ω) (xs : List τ) : ∀ e ∈ W.emitted (some w) xs,
    W.start e = W.start w ∨ ∃ y ∈ W.accepted (some w) xs, W.key y = W.start e := by
  induction w, xs using run_cases (W := W) with
  | nil w => exact fun e h => .inl (List.mem_singleton.mp h ▸ rfl)
  | late w x xs h ih => rwa [emitted_late h, accepted_late h]
  | same w x xs h ih =>
      intro e he
      rw [emitted_same h] at he
      rw [accepted_same h]
      rcases ih e he with hstart | ⟨y, hy, hkey⟩
      · exact .inl (hstart.trans (W.start_absorb _ _))
      · exact .inr ⟨y, List.mem_cons_of_mem _ hy, hkey⟩
  | newer w x xs h ih =>
      intro e he
      rw [emitted_newer h] at he
      rw [accepted_newer h]
      rcases List.mem_cons.mp he with rfl | he
      · exact .inl rfl
      · rcases ih e he with hstart | ⟨y, hy, hkey⟩
        · exact .inr ⟨x, List.mem_cons_self, (hstart.trans (start_startWith x)).symm⟩
        · exact .inr ⟨y, List.mem_cons_of_mem _ hy, hkey⟩

/-! ## Runs from nothing -/

theorem accepted_none (x : τ) (xs : List τ) :
    W.accepted none (x :: xs) = x :: W.accepted (some (W.startWith x)) xs := by
  rw [accepted_of_not not_isLate_none]
  rfl

/-- **Every window is closed at most once**, in strictly ascending order. -/
theorem emitted_pairwise (xs : List τ) :
    (W.emitted none xs).Pairwise fun a b => W.start a < W.start b := by
  cases xs with
  | nil => exact List.Pairwise.nil
  | cons x xs => exact emitted_pairwise_some _ xs

/-- **A closed window is the fold of the accepted items of its key.** -/
theorem emitted_eq (xs : List τ) : ∀ e ∈ W.emitted none xs,
    e = (W.members none xs (W.start e)).foldl W.absorb (W.fresh (W.start e)) := by
  cases xs with
  | nil => exact fun _ h => absurd h List.not_mem_nil
  | cons x xs =>
      intro e he
      have hrun := emitted_eq_some _ xs e he
      rw [start_startWith] at hrun
      rw [members_of_accepted_cons (accepted_none x xs)]
      by_cases hstart : W.start e = W.key x
      · rw [if_pos hstart] at hrun
        rw [if_pos hstart.symm, List.foldl_cons, hstart]
        rw [hstart] at hrun
        exact hrun
      · rw [if_neg hstart] at hrun
        rwa [if_neg (Ne.symm hstart)]

theorem exists_emitted_iff (xs : List τ) (k : κ) :
    (∃ e ∈ W.emitted none xs, W.start e = k) ↔ ∃ y ∈ W.accepted none xs, W.key y = k := by
  cases xs with
  | nil => simp [emitted, accepted]
  | cons x xs =>
      rw [accepted_none]
      obtain ⟨hfirst, hrest⟩ := exists_emitted_some (W := W) (W.startWith x) xs
      rw [start_startWith] at hfirst
      constructor
      · rintro ⟨e, he, rfl⟩
        rcases exists_accepted_some _ xs e he with hstart | ⟨y, hy, hkey⟩
        · exact ⟨x, List.mem_cons_self, (hstart.trans (start_startWith x)).symm⟩
        · exact ⟨y, List.mem_cons_of_mem _ hy, hkey⟩
      · rintro ⟨y, hy, rfl⟩
        rcases List.mem_cons.mp hy with rfl | hy
        · exact hfirst
        · exact hrest y hy

/-! ## Late items -/

theorem after_cons (opened : Option ω) (x : τ) (xs : List τ) :
    W.after opened (x :: xs) = W.after (W.add opened x).1 xs := rfl

/-- The open window is as new as the newest of the items before. -/
theorem exists_after_some (w : ω) (xs : List τ) : ∃ w', W.after (some w) xs = some w' ∧
    ∀ k, k < W.start w' ↔ k < W.start w ∨ ∃ y ∈ xs, k < W.key y := by
  induction w, xs using run_cases (W := W) with
  | nil w => exact ⟨w, rfl, fun k => by simp⟩
  | late w x xs h ih =>
      obtain ⟨w', hw', hk⟩ := ih
      refine ⟨w', by rw [after_cons, add_of_late h, hw'], fun k => ?_⟩
      rw [hk, List.exists_mem_cons_iff]
      exact ⟨fun hor => hor.imp_right .inr, fun hor => hor.elim .inl
        (Or.rec (fun hx => .inl (hx.trans h)) .inr)⟩
  | same w x xs h ih =>
      obtain ⟨w', hw', hk⟩ := ih
      refine ⟨w', by rw [after_cons, add_of_eq h, hw'], fun k => ?_⟩
      rw [hk, List.exists_mem_cons_iff, W.start_absorb, h, ← or_assoc, or_self]
  | newer w x xs h ih =>
      obtain ⟨w', hw', hk⟩ := ih
      refine ⟨w', by rw [after_cons, add_of_newer h, hw'], fun k => ?_⟩
      rw [hk, List.exists_mem_cons_iff, start_startWith]
      exact ⟨.inr, fun hor => hor.elim (fun hw => .inl (hw.trans h)) id⟩

theorem accepted_concat (opened : Option ω) (xs : List τ) (x : τ) :
    W.accepted opened (xs ++ [x]) =
      W.accepted opened xs ++ if W.IsLate (W.after opened xs) x then [] else [x] := by
  induction xs generalizing opened with
  | nil =>
      show (if W.IsLate opened x then [] else [x]) = _
      rfl
  | cons y xs ih =>
      rw [List.cons_append, after_cons]
      by_cases h : W.IsLate opened y
      · rw [accepted_of_isLate h, accepted_of_isLate h, ih, add_of_isLate h]
      · rw [accepted_of_not h, accepted_of_not h, ih, List.cons_append]

/-- **An item is late exactly when a newer key was seen before it.** -/
theorem isLate_after_iff (xs : List τ) (x : τ) :
    W.IsLate (W.after none xs) x ↔ ∃ y ∈ xs, W.key x < W.key y := by
  cases xs with
  | nil => exact ⟨fun h => absurd h not_isLate_none, fun ⟨_, h, _⟩ => absurd h List.not_mem_nil⟩
  | cons y xs =>
      obtain ⟨w', hw', hk⟩ := exists_after_some (W := W) (W.startWith y) xs
      have hafter : W.after none (y :: xs) = some w' := hw'
      rw [hafter, isLate_some, hk, start_startWith, List.exists_mem_cons_iff]

end Windowing

end Windows
