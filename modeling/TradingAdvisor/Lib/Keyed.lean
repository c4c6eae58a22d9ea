import Mathlib.Data.List.AList
import Mathlib.Data.List.Find
import Mathlib.Data.List.Induction
import Mathlib.Data.List.MinMax
import Mathlib.Data.List.Nodup
import Mathlib.Data.List.Sort

/-!
# Lists read as dictionaries

A dictionary built from a list keeps the last entry of each key.

* `lastOf` — the entry a dictionary built from the list holds under a key;
* `lastOf_of_nodup`, `exists_lastOf` — it is the only entry of its key, and it exists;
* `find?_key_eq_of_perm` — where no key occurs twice, the order does not matter;
* `filterMap_find?_perm` — the entries put in the order of some keys;
* `filter_insertionSort` — sorting is stable;
* `map_filterMap_sublist` — the keys of some of the entries;
* `maxBy` — the entry with the greatest key;
* `groupBy`, `lookup_groupBy` — the entries of each key, in their order.
-/

namespace Keyed

variable {α κ : Type} [DecidableEq κ] {key : α → κ} {l : List α} {k : κ} {a : α}

/-- The last entry of key `k`. -/
def lastOf (key : α → κ) (l : List α) (k : κ) : Option α := l.reverse.find? fun a => key a = k

theorem mem_of_lastOf (h : lastOf key l k = some a) : a ∈ l ∧ key a = k :=
  ⟨List.mem_reverse.mp (List.mem_of_find?_eq_some h), by simpa using List.find?_some h⟩

theorem exists_lastOf (h : k ∈ l.map key) : ∃ a, lastOf key l k = some a := by
  obtain ⟨a, ha, rfl⟩ := List.mem_map.mp h
  exact Option.isSome_iff_exists.mp
    (List.find?_isSome.mpr ⟨a, List.mem_reverse.mpr ha, by simp⟩)

theorem lastOf_append_singleton (key : α → κ) (l : List α) (a : α) (k : κ) :
    lastOf key (l ++ [a]) k = if key a = k then some a else lastOf key l k := by
  rw [lastOf, List.reverse_append, List.reverse_singleton, List.singleton_append, List.find?_cons]
  by_cases hkey : key a = k
  · rw [if_pos hkey, decide_eq_true hkey]
  · rw [if_neg hkey, decide_eq_false hkey]
    rfl

theorem lastOf_eq_none (h : ∀ a ∈ l, key a ≠ k) : lastOf key l k = none := by
  refine List.find?_eq_none.mpr fun a ha => ?_
  simpa using h a (List.mem_reverse.mp ha)

theorem lastOf_eq_some_of_forall (ha : a ∈ l) (h : ∀ b ∈ l, key b = key a → b = a) :
    lastOf key l (key a) = some a := by
  obtain ⟨b, hb⟩ := exists_lastOf (List.mem_map_of_mem (f := key) ha)
  obtain ⟨hmem, hkey⟩ := mem_of_lastOf hb
  rw [hb, h b hmem hkey]

theorem lastOf_congr {κ' : Type} [DecidableEq κ'] {key' : α → κ'} {k' : κ'}
    (h : ∀ a ∈ l, key a = k ↔ key' a = k') : lastOf key l k = lastOf key' l k' := by
  refine List.find?_congr fun a ha => ?_
  exact decide_eq_decide.mpr (h a (List.mem_reverse.mp ha))

theorem lastOf_of_nodup (hl : (l.map key).Nodup) (ha : a ∈ l) :
    lastOf key l (key a) = some a :=
  lastOf_eq_some_of_forall ha fun _ hb hkey => List.inj_on_of_nodup_map hl hb ha hkey

theorem find?_key_eq_some_iff (hl : (l.map key).Nodup) :
    l.find? (fun a => key a = k) = some a ↔ a ∈ l ∧ key a = k := by
  constructor
  · exact fun h => ⟨List.mem_of_find?_eq_some h, by simpa using List.find?_some h⟩
  · rintro ⟨ha, rfl⟩
    have hsome : (l.find? fun b => key b = key a).isSome :=
      List.find?_isSome.mpr ⟨a, ha, by simp⟩
    obtain ⟨b, hb⟩ := Option.isSome_iff_exists.mp hsome
    have hkey : key b = key a := by simpa using List.find?_some hb
    rw [hb, List.inj_on_of_nodup_map hl (List.mem_of_find?_eq_some hb) ha hkey]

theorem find?_key_eq_of_perm {l' : List α} (hl : (l.map key).Nodup) (h : l.Perm l') :
    l.find? (fun a => key a = k) = l'.find? (fun a => key a = k) := by
  refine Option.ext fun a => ?_
  rw [find?_key_eq_some_iff hl, find?_key_eq_some_iff ((h.map key).nodup_iff.mp hl), h.mem_iff]

omit [DecidableEq κ] in
theorem insertionSort_eq_of_mem_iff [LinearOrder κ] {l l' : List κ} (hl : l.Nodup) (hl' : l'.Nodup)
    (h : ∀ k, k ∈ l ↔ k ∈ l') : l.insertionSort (· ≤ ·) = l'.insertionSort (· ≤ ·) := by
  refine List.Perm.eq_of_pairwise (fun _ _ _ _ => le_antisymm)
    (List.pairwise_insertionSort (· ≤ ·) l) (List.pairwise_insertionSort (· ≤ ·) l') ?_
  exact ((List.perm_insertionSort _ l).trans ((List.perm_ext_iff_of_nodup hl hl').mpr h)).trans
    (List.perm_insertionSort _ l').symm

section Stability

variable {r : α → α → Prop} [DecidableRel r]

omit [DecidableEq κ] in
theorem filter_orderedInsert [IsTrans α r] (q : α → Bool) (a : α) {l : List α}
    (hl : l.Pairwise r) : (l.orderedInsert r a).filter q =
      if q a then (l.filter q).orderedInsert r a else l.filter q := by
  induction l with
  | nil => cases hq : q a <;> simp [hq]
  | cons b l ih =>
      obtain ⟨hb, htail⟩ := List.pairwise_cons.mp hl
      rw [List.orderedInsert_cons]
      by_cases hab : r a b
      · rw [if_pos hab, List.filter_cons]
        split_ifs with hq
        · -- Everything the filter keeps stays behind the new entry.
          have hhead : ∀ x ∈ (b :: l).filter q, r a x := fun x hx =>
            (List.mem_cons.mp (List.mem_of_mem_filter hx)).elim (fun h => h ▸ hab)
              fun h => IsTrans.trans _ _ _ hab (hb x h)
          cases hfilter : (b :: l).filter q with
          | nil => rfl
          | cons x rest =>
              rw [hfilter] at hhead
              rw [List.orderedInsert_cons_of_le _ _ (hhead x List.mem_cons_self)]
        · rfl
      · rw [if_neg hab, List.filter_cons, List.filter_cons, ih htail]
        split_ifs with hqb hqa
        · rw [List.orderedInsert_of_not_le _ _ hab]
        · rfl
        · rfl
        · rfl

omit [DecidableEq κ] in
/-- Sorting is stable: what a filter keeps is sorted as it would be alone. -/
theorem filter_insertionSort [Std.Total r] [IsTrans α r] (q : α → Bool) (l : List α) :
    (l.insertionSort r).filter q = (l.filter q).insertionSort r := by
  induction l with
  | nil => rfl
  | cons a l ih =>
      rw [List.insertionSort_cons, filter_orderedInsert q a (List.pairwise_insertionSort r l), ih,
        List.filter_cons]
      split_ifs <;> rfl

end Stability

omit [DecidableEq κ] in
theorem min?_eq_of_mem_iff [LE κ] [Min κ] [Std.IsLinearOrder κ] [Std.LawfulOrderMin κ]
    {l l' : List κ} (h : ∀ k, k ∈ l ↔ k ∈ l') : l.min? = l'.min? := by
  refine Option.ext fun k => ?_
  rw [List.min?_eq_some_iff, List.min?_eq_some_iff, h]
  simp only [h]

omit [DecidableEq κ] in
theorem max?_eq_of_mem_iff [LE κ] [Max κ] [Std.IsLinearOrder κ] [Std.LawfulOrderMax κ]
    {l l' : List κ} (h : ∀ k, k ∈ l ↔ k ∈ l') : l.max? = l'.max? := by
  refine Option.ext fun k => ?_
  rw [List.max?_eq_some_iff, List.max?_eq_some_iff, h]
  simp only [h]

omit [DecidableEq κ] in
theorem map_filterMap_sublist {β : Type} {f : α → Option β} {key' : β → κ}
    (h : ∀ a b, f a = some b → key' b = key a) (l : List α) :
    ((l.filterMap f).map key').Sublist (l.map key) := by
  induction l with
  | nil => exact .slnil
  | cons a l ih =>
      rw [List.filterMap_cons]
      split
      · exact ih.cons _
      · next b hb =>
          rw [List.map_cons, List.map_cons, h a b hb]
          exact ih.cons_cons _

section InOrder

variable {ks : List κ}

theorem mem_filterMap_find? (hl : (l.map key).Nodup) :
    a ∈ (ks.filterMap fun k => l.find? fun a => key a = k) ↔ a ∈ l ∧ key a ∈ ks := by
  simp only [List.mem_filterMap, find?_key_eq_some_iff hl]
  constructor
  · rintro ⟨k, hk, ha, rfl⟩
    exact ⟨ha, hk⟩
  · rintro ⟨ha, hk⟩
    exact ⟨key a, hk, ha, rfl⟩

theorem filterMap_find?_keys_sublist (key : α → κ) (l : List α) (ks : List κ) :
    ((ks.filterMap fun k => l.find? fun a => key a = k).map key).Sublist ks := by
  have hfound (k : κ) (a : α) (h : (l.find? fun a => key a = k) = some a) : key a = k := by
    simpa using List.find?_some h
  have hsublist := map_filterMap_sublist hfound ks
  rwa [List.map_id'] at hsublist

/-- The keys put all entries in order. -/
theorem filterMap_find?_perm (hl : (l.map key).Nodup) (hks : ks.Nodup)
    (hall : ∀ a ∈ l, key a ∈ ks) : (ks.filterMap fun k => l.find? fun a => key a = k).Perm l := by
  refine (List.perm_ext_iff_of_nodup ?_ hl.of_map).mpr fun a => ?_
  · exact (hks.sublist (filterMap_find?_keys_sublist key l ks)).of_map
  · rw [mem_filterMap_find? hl, and_iff_left_of_imp (hall a)]

end InOrder

theorem filter_flatMap_of_nodup {ks : List κ} (hks : ks.Nodup) {entries : κ → List α}
    (hkey : ∀ k', ∀ a ∈ entries k', key a = k') (hk : k ∈ ks) :
    (ks.flatMap entries).filter (fun a => key a = k) = entries k := by
  have hother (k' : κ) (hne : k' ≠ k) : (entries k').filter (fun a => key a = k) = [] := by
    refine List.filter_eq_nil_iff.mpr fun a ha => ?_
    simpa [hkey k' a ha] using hne
  induction ks with
  | nil => cases hk
  | cons k' ks ih =>
      obtain ⟨hnot, hrest⟩ := List.nodup_cons.mp hks
      rw [List.flatMap_cons, List.filter_append]
      by_cases heq : k' = k
      · subst heq
        have hown : (entries k').filter (fun a => key a = k') = entries k' :=
          List.filter_eq_self.mpr fun a ha => by simpa using hkey k' a ha
        have hnone : (ks.flatMap entries).filter (fun a => key a = k') = [] := by
          rw [List.filter_eq_nil_iff]
          intro a ha
          obtain ⟨k'', hk'', ha⟩ := List.mem_flatMap.mp ha
          have hne : k'' ≠ k' := fun heq => hnot (heq ▸ hk'')
          simpa [hkey k'' a ha] using hne
        rw [hown, hnone, List.append_nil]
      · rw [hother k' heq, List.nil_append,
          ih hrest ((List.mem_cons.mp hk).resolve_left (Ne.symm heq))]

/-- The first entry with the greatest key. -/
def maxBy {β : Type} [LinearOrder β] (key' : α → β) (l : List α) : Option α := l.argmax key'

/-- The entries under their keys, in their order. -/
def groupBy (key : α → κ) (l : List α) : AList fun _ : κ => List α :=
  l.foldl (fun groups a => groups.insert (key a) ((groups.lookup (key a)).getD [] ++ [a])) ∅

theorem lookup_groupBy (key : α → κ) (l : List α) (k : κ) :
    (groupBy key l).lookup k =
      if (l.filter fun a => key a = k) = [] then none else some (l.filter fun a => key a = k) := by
  induction l using List.reverseRecOn with
  | nil => rfl
  | append_singleton l a ih =>
      have hstep : groupBy key (l ++ [a]) = (groupBy key l).insert (key a)
          (((groupBy key l).lookup (key a)).getD [] ++ [a]) := by
        rw [groupBy, List.foldl_append]
        rfl
      rw [hstep, List.filter_append]
      by_cases h : key a = k
      · subst h
        have hkept : [a].filter (fun b => key b = key a) = [a] := by simp
        rw [AList.lookup_insert, ih, hkept,
          if_neg (List.append_ne_nil_of_right_ne_nil _ (List.cons_ne_nil a []))]
        by_cases hnil : (l.filter fun b => key b = key a) = []
        · rw [if_pos hnil, hnil]
          rfl
        · rw [if_neg hnil]
          rfl
      · have hdropped : [a].filter (fun b => key b = k) = [] := by simp [h]
        rw [AList.lookup_insert_ne (Ne.symm h), ih, hdropped, List.append_nil]

end Keyed
