import Mathlib.Data.List.Sort
import TradingAdvisor.Lib.Checks
import TradingAdvisor.Lib.Keyed

/-!
# Results that are derived twice

An engine computes one result per item. A validator sees the items beside the results, derives
each result again and compares. Both copies of the rule agree when the comparison accepts what the
engine computes and, of the results that pass their own checks, nothing else.

* `Rederives` — the two copies agree on single items;
* **`Rederives.accepted_iff`**: then the validator accepts a list of results exactly when the
  engine computes it;
* `SameDict` — equality of lists read as dictionaries.
-/

namespace Recheck

open Checks Keyed

variable {ε ε' α β κ : Type}

theorem mapM_ok_iff_forall₂ {f : α → Except ε β} {l : List α} {l' : List β} :
    l.mapM f = .ok l' ↔ List.Forall₂ (fun a b => f a = .ok b) l l' := by
  refine ⟨mapM_ok_forall₂, fun h => ?_⟩
  induction h with
  | nil => rfl
  | cons ha _ ih =>
      rw [List.mapM_cons, ha, ih]
      rfl

/-- A comparison of an item with a result stands for the engine, among the results of the item's
key that pass their own checks. -/
structure Rederives (key : α → κ) (key' : β → κ) (engine : α → Except ε β) (own : β → Prop)
    (compare : α × β → Except ε' Unit) : Prop where
  keyed : ∀ a b, engine a = .ok b → key' b = key a
  owned : ∀ a b, engine a = .ok b → own b
  accepts : ∀ a b, engine a = .ok b → compare (a, b) = .ok ()
  forces : ∀ a b, key' b = key a → own b → compare (a, b) = .ok () → engine a = .ok b

/-- **The comparison accepts exactly the list that the engine computes.** -/
theorem Rederives.accepted_iff {key : α → κ} {key' : β → κ} {engine : α → Except ε β}
    {own : β → Prop} {compare : α × β → Except ε' Unit}
    (h : Rederives key key' engine own compare) {l : List α} {l' : List β} :
    (l'.map key' = l.map key ∧ (∀ b ∈ l', own b) ∧ forM (l.zip l') compare = .ok ()) ↔
      l.mapM engine = .ok l' := by
  rw [mapM_ok_iff_forall₂]
  constructor
  · rintro ⟨hkeys, hown, hcompare⟩
    induction l generalizing l' with
    | nil =>
        rw [List.map_nil, List.map_eq_nil_iff] at hkeys
        rw [hkeys]
        exact .nil
    | cons a l ih =>
        cases l' with
        | nil => cases hkeys
        | cons b l' =>
            obtain ⟨hkey, hkeys⟩ := List.cons_eq_cons.mp hkeys
            obtain ⟨hb, hown⟩ := List.forall_mem_cons.mp hown
            rw [List.zip_cons_cons, forM_ok_iff, List.forall_mem_cons] at hcompare
            exact .cons (h.forces a b hkey hb hcompare.1)
              (ih hkeys hown (forM_ok_iff.mpr hcompare.2))
  · intro hall
    induction hall with
    | nil => exact ⟨rfl, List.forall_mem_nil _, rfl⟩
    | cons hab _ ih =>
        obtain ⟨hkeys, hown, hcompare⟩ := ih
        refine ⟨?_, List.forall_mem_cons.mpr ⟨h.owned _ _ hab, hown⟩, ?_⟩
        · rw [List.map_cons, List.map_cons, hkeys, h.keyed _ _ hab]
        · rw [List.zip_cons_cons, forM_ok_iff, List.forall_mem_cons]
          exact ⟨h.accepts _ _ hab, forM_ok_iff.mp hcompare⟩

theorem eq_map_of_keys {key : α → κ} {key' : β → κ} {rule : α → β} {l : List α} {l' : List β}
    (hkeys : l'.map key' = l.map key)
    (h : ∀ a ∈ l, ∀ b ∈ l', key' b = key a → b = rule a) : l' = l.map rule := by
  induction l generalizing l' with
  | nil => exact List.map_eq_nil_iff.mp hkeys
  | cons a l ih =>
      cases l' with
      | nil => cases hkeys
      | cons b l' =>
          obtain ⟨hkey, hkeys⟩ := List.cons_eq_cons.mp hkeys
          rw [List.map_cons, h a List.mem_cons_self b List.mem_cons_self hkey,
            ih hkeys fun a ha b hb => h a (List.mem_cons_of_mem _ ha) b (List.mem_cons_of_mem _ hb)]

/-! ## Lists read as dictionaries -/

section

variable [DecidableEq κ]

/-- The dictionaries of two lists are equal. -/
def SameDict (key : α → κ) (l l' : List α) : Prop :=
  ∀ k ∈ l.map key ++ l'.map key, lastOf key l k = lastOf key l' k

instance [DecidableEq α] (key : α → κ) (l l' : List α) : Decidable (SameDict key l l') :=
  inferInstanceAs (Decidable (∀ k ∈ l.map key ++ l'.map key, _))

variable {key : α → κ} {l l' : List α}

theorem SameDict.refl : SameDict key l l := fun _ _ => rfl

theorem SameDict.symm (h : SameDict key l l') : SameDict key l' l := by
  intro k hk
  exact (h k (List.mem_append.mpr (List.mem_append.mp hk).symm)).symm

theorem SameDict.subset (h : SameDict key l l') (hl : (l.map key).Nodup) : l ⊆ l' := by
  intro a ha
  have hlookup := h (key a) (List.mem_append_left _ (List.mem_map_of_mem ha))
  rw [lastOf_of_nodup hl ha] at hlookup
  exact (mem_of_lastOf hlookup.symm).1

end

/-- Two lists in the order of their keys have the same dictionary only when they are equal. -/
theorem SameDict.eq [LinearOrder κ] {key : α → κ} {l l' : List α}
    (h : SameDict key l l') (hl : (l.map key).Pairwise (· < ·))
    (hl' : (l'.map key).Pairwise (· < ·)) : l = l' := by
  have hnodup : (l.map key).Nodup := hl.imp fun hlt => hlt.ne
  have hnodup' : (l'.map key).Nodup := hl'.imp fun hlt => hlt.ne
  have hperm : l.Perm l' := by
    refine (List.perm_ext_iff_of_nodup (.of_map key hnodup) (.of_map key hnodup')).mpr fun a => ?_
    exact ⟨fun ha => h.subset hnodup ha, fun ha => h.symm.subset hnodup' ha⟩
  have hantisymm (a b : α) (_ : a ∈ l) (_ : b ∈ l') (hab : key a < key b) (hba : key b < key a) :
      a = b := absurd hab hba.asymm
  exact hperm.eq_of_pairwise hantisymm (List.pairwise_map.mp hl) (List.pairwise_map.mp hl')

end Recheck
