import Mathlib.Data.List.Infix

/-!
# Runs of a transition function

A system is a partial step function `step : σ → α → Option σ`: `none` means that the action is
not enabled. `run` takes a list of actions, and `Along C` says that every step the run takes
satisfies a condition on the state before it and on its action.

* `run_append` — a run splits at every point;
* `run_invariant` — what every step keeps, every run keeps;
* `run_iff_along` — what a run keeps exactly along a condition;
* `along_iff_throughout` — a condition on steps that characterises a property of all states.
-/

namespace Transition

variable {σ α : Type*} (step : σ → α → Option σ)

/-- Take the actions in order; `none` when one of them is not enabled. -/
def run : σ → List α → Option σ
  | s, [] => some s
  | s, a :: as => (step s a).bind fun s' => run s' as

/-- Every step the run takes satisfies `C`. -/
def Along (C : σ → α → Prop) : σ → List α → Prop
  | _, [] => True
  | s, a :: as => ∀ s', step s a = some s' → C s a ∧ Along C s' as

/-- Every state the run passes through satisfies `P`. -/
def Throughout (P : σ → Prop) (s : σ) (as : List α) : Prop :=
  ∀ pre, pre <+: as → ∀ s', run step s pre = some s' → P s'

variable {step}

@[simp] theorem run_nil (s : σ) : run step s [] = some s := rfl

theorem run_cons {s s' : σ} {a : α} {as : List α} :
    run step s (a :: as) = some s' ↔ ∃ t, step s a = some t ∧ run step t as = some s' := by
  simp [run, Option.bind_eq_some_iff]

theorem run_append {s s' : σ} {as bs : List α} :
    run step s (as ++ bs) = some s' ↔ ∃ t, run step s as = some t ∧ run step t bs = some s' := by
  induction as generalizing s with
  | nil => simp
  | cons a as ih =>
      simp only [List.cons_append, run_cons, ih]
      constructor
      · rintro ⟨u, hu, t, ht, hs⟩
        exact ⟨t, ⟨u, hu, ht⟩, hs⟩
      · rintro ⟨t, ⟨u, hu, ht⟩, hs⟩
        exact ⟨u, hu, t, ht, hs⟩

instance Along.instDecidable {C : σ → α → Prop} [∀ s a, Decidable (C s a)] :
    ∀ (s : σ) (as : List α), Decidable (Along step C s as)
  | _, [] => instDecidableTrue
  | s, a :: as =>
      match h : step s a with
      | none => .isTrue fun s' hs' => by rw [h] at hs'; cases hs'
      | some t =>
          have := Along.instDecidable (C := C) t as
          decidable_of_iff (C s a ∧ Along step C t as) (by simp [Along, h])

variable {C : σ → α → Prop} {I P : σ → Prop}

theorem Along.initial {s : σ} {as bs : List α} (h : Along step C s bs) (hp : as <+: bs) :
    Along step C s as := by
  induction as generalizing s bs with
  | nil => trivial
  | cons a as ih =>
      obtain ⟨cs, rfl⟩ := hp
      intro s' hs'
      obtain ⟨hC, hrest⟩ := h s' hs'
      exact ⟨hC, ih hrest (List.prefix_append as cs)⟩

theorem Along.rest {s t : σ} {as bs : List α} (h : Along step C s (as ++ bs))
    (ht : run step s as = some t) : Along step C t bs := by
  induction as generalizing s with
  | nil => exact Option.some.inj ht ▸ h
  | cons a as ih =>
      obtain ⟨u, hu, hrun⟩ := run_cons.mp ht
      exact ih (h u hu).2 hrun

/-- A condition on all steps holds along every run. -/
theorem along_of_forall (h : ∀ s a, C s a) (s : σ) (as : List α) : Along step C s as := by
  induction as generalizing s with
  | nil => trivial
  | cons a as ih => exact fun s' _ => ⟨h s a, ih s'⟩

/-- **What every step keeps under `C`, every run along `C` keeps.** -/
theorem run_invariant (hstep : ∀ s a s', I s → C s a → step s a = some s' → I s') {s s' : σ}
    {as : List α} (hs : I s) (hC : Along step C s as) (h : run step s as = some s') : I s' := by
  induction as generalizing s with
  | nil => exact Option.some.inj h ▸ hs
  | cons a as ih =>
      obtain ⟨t, ht, hrun⟩ := run_cons.mp h
      obtain ⟨ha, hrest⟩ := hC t ht
      exact ih (hstep s a t hs ha ht) hrest hrun

theorem throughout_of_along (hstep : ∀ s a s', I s → C s a → step s a = some s' → I s')
    (hIP : ∀ s, I s → P s) {s : σ} {as : List α} (hs : I s) (hC : Along step C s as) :
    Throughout step P s as :=
  fun _ hpre s' hrun => hIP s' (run_invariant hstep hs (hC.initial hpre) hrun)

/-- What holds after a step exactly when it held before and the step satisfies `C`, holds after a
run exactly when it held at first and the run is along `C`. -/
theorem run_iff_along (hI : ∀ s a s', I s → step s a = some s' → I s')
    (hstep : ∀ s a s', I s → step s a = some s' → (P s' ↔ P s ∧ C s a)) {s s' : σ}
    {as : List α} (hs : I s) (h : run step s as = some s') : P s' ↔ P s ∧ Along step C s as := by
  induction as generalizing s with
  | nil => simp [Along, Option.some.inj h]
  | cons a as ih =>
      obtain ⟨t, ht, hrun⟩ := run_cons.mp h
      have halong : Along step C s (a :: as) ↔ C s a ∧ Along step C t as := by
        simp [Along, ht]
      rw [ih (hI s a t hs ht) hrun, hstep s a t hs ht, halong, and_assoc]

/-- Where breaking `C` breaks `P` in the next state, `C` along the run is exactly `P` at every
state of it. -/
theorem along_iff_throughout (hstep : ∀ s a s', I s → C s a → step s a = some s' → I s')
    (hIP : ∀ s, I s → P s) (hbad : ∀ s a s', I s → ¬ C s a → step s a = some s' → ¬ P s')
    {s : σ} {as : List α} (hs : I s) : Along step C s as ↔ Throughout step P s as := by
  refine ⟨throughout_of_along hstep hIP hs, fun h => ?_⟩
  induction as generalizing s with
  | nil => trivial
  | cons a as ih =>
      intro s' hs'
      have hC : C s a := by
        by_contra hC
        refine hbad s a s' hs hC hs' (h [a] ⟨as, rfl⟩ s' ?_)
        exact run_cons.mpr ⟨s', hs', rfl⟩
      refine ⟨hC, ih (hstep s a s' hs hC hs') fun pre hpre t ht => ?_⟩
      refine h (a :: pre) ?_ t (run_cons.mpr ⟨s', hs', ht⟩)
      exact (List.prefix_cons_inj a).mpr hpre

end Transition
