import Mathlib.Algebra.Order.Group.Unbundled.Basic
import Mathlib.Algebra.BigOperators.Group.List.Basic
import Mathlib.Algebra.Order.Ring.Rat
import Mathlib.Data.List.Nodup

/-!
# Stages over keyed results

A review in stages gives a result per key at every stage. Each stage may pass on at most what the
stage before it granted.

* `AllOf` — a stage has a result for a key, and every result it has for the key is good;
* `sum_filterMap_le` — what a stage grants in total is at most what the stage before it granted.
-/

namespace Stages

variable {α β κ : Type}

/-- The list has an element of key `k`, and all its elements of that key satisfy `P`. -/
def AllOf (key : α → κ) (l : List α) (k : κ) (P : α → Prop) : Prop :=
  (∃ a ∈ l, key a = k) ∧ ∀ a ∈ l, key a = k → P a

theorem allOf_of_mem {key : α → κ} {l : List α} {k : κ} {P : α → Prop} {a : α}
    (hl : (l.map key).Nodup) (ha : a ∈ l) (hk : key a = k) (hP : P a) : AllOf key l k P := by
  refine ⟨⟨a, ha, hk⟩, fun b hb hbk => ?_⟩
  have heq : b = a := List.inj_on_of_nodup_map hl hb ha (hbk.trans hk.symm)
  rw [heq]
  exact hP

/-- Grants that are each within a nonnegative grant of the stage before are so in total. -/
theorem sum_filterMap_le {f : α → Option ℚ} {g : β → Option ℚ} {l : List α} {l' : List β}
    (h : List.Forall₂ (fun a b => ∀ y ∈ g b, ∃ x ∈ f a, y ≤ x) l l')
    (hf : ∀ a ∈ l, ∀ x ∈ f a, 0 ≤ x) : (l'.filterMap g).sum ≤ (l.filterMap f).sum := by
  induction h with
  | nil => exact le_rfl
  | @cons a b l l' hab _ ih =>
      obtain ⟨ha, hl⟩ := List.forall_mem_cons.mp hf
      have hrest := ih hl
      rw [List.filterMap_cons, List.filterMap_cons]
      rcases hg : g b with _ | y
      · rcases hfa : f a with _ | x
        · exact hrest
        · have hx := ha x hfa
          dsimp only
          rw [List.sum_cons]
          exact hrest.trans (le_add_of_nonneg_left hx)
      · obtain ⟨x, hx, hyx⟩ := hab y hg
        rw [Option.mem_def] at hx
        rw [hx]
        dsimp only
        rw [List.sum_cons, List.sum_cons]
        exact add_le_add hyx hrest

end Stages
