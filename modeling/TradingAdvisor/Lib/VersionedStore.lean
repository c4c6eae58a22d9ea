import Mathlib.Data.List.AList
import Mathlib.Data.List.Sort
import Mathlib.Data.Set.Lattice

/-!
# Replicas of a versioned store

A store holds a value per key, `0` for an absent one, and changes with its version number. A
diff lists the final values of the keys that changed over a range of versions. A replica is a
dictionary that applies diffs without seeing the store.

* `Replica` — the dictionary agrees with the store on the known keys and holds no other key;
* `Carries` — what a diff over a range of versions has to list;
* `Replica.applyDiff` — **a diff takes a replica anywhere in its range to the end of it.**
-/

namespace VersionedStore

variable {κ α : Type*}

/-- A dictionary from keys to values. -/
abbrev Dict (κ α : Type*) := AList fun _ : κ => α

/-- The value of each key at each version; `0` for an absent key. -/
abbrev History (κ α : Type*) := ℕ → κ → α

section Operations

variable [DecidableEq κ] [Zero α] [DecidableEq α]

/-- Set one key; the value `0` removes it. -/
def setKey (d : Dict κ α) (kv : κ × α) : Dict κ α :=
  if kv.2 = 0 then d.erase kv.1 else d.insert kv.1 kv.2

/-- Set every listed key, in order. -/
def applyDiff (d : Dict κ α) (l : List (κ × α)) : Dict κ α := l.foldl setKey d

omit [Zero α] [DecidableEq α] in
/-- The dictionary of a list of pairs; a later pair replaces an earlier one. -/
def ofPairs (l : List (κ × α)) : Dict κ α := l.foldl (fun d kv => d.insert kv.1 kv.2) ∅

/-- The pairs of a dictionary in the order of a relation on keys. -/
def sortedPairs (r : κ → κ → Prop) [DecidableRel r] (d : Dict κ α) : List (κ × α) :=
  (d.entries.map fun kv => (kv.1, kv.2)).insertionSort fun a b => r a.1 b.1

end Operations

/-- The keys a list of pairs names. -/
def keySet (l : List (κ × α)) : Set κ := {k | ∃ v, (k, v) ∈ l}

/-! ## What the operations do to a lookup -/

theorem keySet_cons (kv : κ × α) (l : List (κ × α)) :
    keySet (kv :: l) = insert kv.1 (keySet l) := by
  obtain ⟨k₀, v₀⟩ := kv
  ext k
  simp only [keySet, Set.mem_ofPred_eq, List.mem_cons, Prod.mk.injEq, Set.mem_insert_iff]
  constructor
  · rintro ⟨v, ⟨rfl, -⟩ | hv⟩
    · exact .inl rfl
    · exact .inr ⟨v, hv⟩
  · rintro (rfl | ⟨v, hv⟩)
    · exact ⟨v₀, .inl ⟨rfl, rfl⟩⟩
    · exact ⟨v, .inr hv⟩

theorem mem_keySet {kv : κ × α} {l : List (κ × α)} (h : kv ∈ l) : kv.1 ∈ keySet l := ⟨kv.2, h⟩

section Lookup

variable [DecidableEq κ] {k : κ} {v : α} {l : List (κ × α)}

theorem lookup_ofPairs_fold (d : Dict κ α) (hv : ∀ kv ∈ l, kv.1 = k → kv.2 = v) :
    (l.foldl (fun d kv => d.insert kv.1 kv.2) d).lookup k = some v ↔
      k ∈ keySet l ∨ d.lookup k = some v := by
  induction l generalizing d with
  | nil => simp [keySet]
  | cons kv l ih =>
      rw [List.foldl_cons, ih _ fun kv' h => hv kv' (List.mem_cons_of_mem _ h), keySet_cons,
        Set.mem_insert_iff]
      by_cases hk : k = kv.1
      · subst hk
        simp [hv kv List.mem_cons_self rfl]
      · simp [AList.lookup_insert_ne hk, hk]

/-- A value found after inserting one value per item is one of them or was there before. -/
theorem mem_of_lookup_foldl_insert {ι : Type*} {key : ι → κ} {val : ι → α} {items : List ι}
    {d : Dict κ α}
    (h : (items.foldl (fun d item => d.insert (key item) (val item)) d).lookup k = some v) :
    d.lookup k = some v ∨ ∃ item ∈ items, val item = v := by
  induction items generalizing d with
  | nil => exact .inl h
  | cons item items ih =>
      rcases ih h with h | ⟨item', hmem, hv⟩
      · by_cases hk : k = key item
        · subst hk
          rw [AList.lookup_insert, Option.some.injEq] at h
          exact .inr ⟨item, List.mem_cons_self, h⟩
        · rw [AList.lookup_insert_ne hk] at h
          exact .inl h
      · exact .inr ⟨item', List.mem_cons_of_mem _ hmem, hv⟩

theorem lookup_sortedPairs (r : κ → κ → Prop) [DecidableRel r] (d : Dict κ α) :
    (k, v) ∈ sortedPairs r d ↔ d.lookup k = some v := by
  rw [sortedPairs, List.mem_insertionSort, ← Option.mem_def, AList.mem_lookup_iff]
  simp only [List.mem_map, Prod.mk.injEq]
  constructor
  · rintro ⟨⟨k', v'⟩, hmem, rfl, rfl⟩
    exact hmem
  · exact fun hmem => ⟨⟨k, v⟩, hmem, rfl, rfl⟩

omit [DecidableEq κ] in
theorem sortedPairs_pairwise (r : κ → κ → Prop) [DecidableRel r] [Std.Total r] [IsTrans κ r]
    (d : Dict κ α) : (sortedPairs r d).Pairwise fun a b => r a.1 b.1 := by
  have : Std.Total fun a b : κ × α => r a.1 b.1 := ⟨fun a b => Std.Total.total a.1 b.1⟩
  have : IsTrans (κ × α) fun a b => r a.1 b.1 := ⟨fun a b c => IsTrans.trans a.1 b.1 c.1⟩
  exact List.pairwise_insertionSort _ _

omit [DecidableEq κ] in
theorem sortedPairs_pairwise_ne (r : κ → κ → Prop) [DecidableRel r] [Std.Total r] [IsTrans κ r]
    (d : Dict κ α) : (sortedPairs r d).Pairwise fun a b => r a.1 b.1 ∧ a.1 ≠ b.1 := by
  have hnodup : ((sortedPairs r d).map Prod.fst).Nodup := by
    have hperm : ((sortedPairs r d).map Prod.fst).Perm d.keys := by
      have := (List.perm_insertionSort (fun a b : κ × α => r a.1 b.1)
        (d.entries.map fun kv => (kv.1, kv.2))).map Prod.fst
      rwa [List.map_map] at this
    exact hperm.nodup_iff.mpr d.keys_nodup
  exact (sortedPairs_pairwise r d).and (List.pairwise_map.mp hnodup)

theorem sortedPairs_congr (r : κ → κ → Prop) [DecidableRel r] [Std.Total r] [IsTrans κ r]
    [Std.Antisymm r] {d d' : Dict κ α} (h : ∀ k, d.lookup k = d'.lookup k) :
    sortedPairs r d = sortedPairs r d' := by
  have : Std.Irrefl fun a b : κ × α => r a.1 b.1 ∧ a.1 ≠ b.1 := ⟨fun _ h => h.2 rfl⟩
  have : Std.Antisymm fun a b : κ × α => r a.1 b.1 ∧ a.1 ≠ b.1 :=
    ⟨fun a b hab hba => absurd (Std.Antisymm.antisymm a.1 b.1 hab.1 hba.1) hab.2⟩
  refine (sortedPairs_pairwise_ne r d).eq_of_mem_iff (sortedPairs_pairwise_ne r d') fun kv => ?_
  rw [lookup_sortedPairs, lookup_sortedPairs, h]

variable [Zero α] [DecidableEq α]

theorem lookup_setKey_self (d : Dict κ α) (kv : κ × α) :
    (setKey d kv).lookup kv.1 = if kv.2 = 0 then none else some kv.2 := by
  unfold setKey
  split_ifs with hv
  · exact AList.lookup_erase _ _
  · exact AList.lookup_insert _

theorem lookup_setKey_ne {kv : κ × α} (hne : k ≠ kv.1) (d : Dict κ α) :
    (setKey d kv).lookup k = d.lookup k := by
  unfold setKey
  split_ifs with hv
  · exact AList.lookup_erase_ne hne
  · exact AList.lookup_insert_ne hne

theorem lookup_applyDiff_of_notMem (hk : k ∉ keySet l) (d : Dict κ α) :
    (applyDiff d l).lookup k = d.lookup k := by
  induction l generalizing d with
  | nil => rfl
  | cons kv l ih =>
      rw [keySet_cons, Set.mem_insert_iff, not_or] at hk
      rw [applyDiff, List.foldl_cons, ← applyDiff, ih hk.2, lookup_setKey_ne hk.1]

theorem lookup_applyDiff_of_mem (hk : k ∈ keySet l) (hv : ∀ kv ∈ l, kv.1 = k → kv.2 = v)
    (d : Dict κ α) : (applyDiff d l).lookup k = if v = 0 then none else some v := by
  induction l generalizing d with
  | nil => simp [keySet] at hk
  | cons kv l ih =>
      rw [applyDiff, List.foldl_cons, ← applyDiff]
      by_cases hl : k ∈ keySet l
      · exact ih hl (fun kv' h => hv kv' (List.mem_cons_of_mem _ h)) _
      · rw [keySet_cons, Set.mem_insert_iff, or_iff_left hl] at hk
        subst hk
        rw [lookup_applyDiff_of_notMem hl, lookup_setKey_self, hv kv List.mem_cons_self rfl]

end Lookup

/-! ## Replicas -/

/-- The diff `l` carries the changes after version `lo` up to `hi`: the final value of each key
it lists, and no change of a key it does not list. -/
structure Carries (h : History κ α) (lo hi : ℕ) (l : List (κ × α)) : Prop where
  final : ∀ kv ∈ l, h hi kv.1 = kv.2
  rest : ∀ k, k ∉ keySet l → ∀ i, lo ≤ i → i ≤ hi → h i k = h hi k

section Replica

variable [DecidableEq κ] [Zero α]

/-- On the keys `K` the dictionary is the store at version `i`; it holds no other key. -/
def Replica (h : History κ α) (i : ℕ) (K : Set κ) (d : Dict κ α) : Prop :=
  ∀ k v, d.lookup k = some v ↔ k ∈ K ∧ h i k = v ∧ v ≠ 0

variable {h : History κ α} {i lo hi : ℕ} {K K' : Set κ} {d : Dict κ α} {l : List (κ × α)}

/-- The pairs of a listing of the store make a replica that knows the listed keys. -/
theorem replica_ofPairs (hl : ∀ kv ∈ l, h i kv.1 = kv.2 ∧ kv.2 ≠ 0) :
    Replica h i (keySet l) (ofPairs l) := by
  intro k v
  by_cases hk : k ∈ keySet l
  · obtain ⟨v', hv'⟩ := hk
    have hlook : (ofPairs l).lookup k = some v' := by
      refine (lookup_ofPairs_fold ∅ ?_).mpr (.inl ⟨v', hv'⟩)
      rintro kv hkv rfl
      exact (hl _ hkv).1.symm.trans (hl _ hv').1
    rw [hlook, Option.some.injEq, (hl _ hv').1]
    constructor
    · rintro rfl
      exact ⟨⟨v', hv'⟩, rfl, (hl _ hv').2⟩
    · exact fun hv => hv.2.1
  · constructor
    · intro hlook
      have hfresh : ∀ kv ∈ l, kv.1 = k → kv.2 = v := by
        rintro kv hkv rfl
        exact absurd (mem_keySet hkv) hk
      simpa [hk] using (lookup_ofPairs_fold ∅ hfresh).mp hlook
    · exact fun hv => (hk hv.1).elim

/-- A key that is absent from the store counts as known. -/
theorem Replica.enlarge (hd : Replica h i K d) (hK : K ⊆ K') (habs : ∀ k ∈ K', k ∉ K → h i k = 0) :
    Replica h i K' d := by
  intro k v
  rw [hd k v]
  refine ⟨fun hv => ⟨hK hv.1, hv.2⟩, fun hv => ⟨?_, hv.2⟩⟩
  by_contra hk
  exact hv.2.2 (hv.2.1 ▸ habs k hv.1 hk)

variable [DecidableEq α]

/-- **A diff takes a replica anywhere in its range to the end of it**, and the replica then
knows the keys the diff lists as well. -/
theorem Replica.applyDiff (hd : Replica h i K d) (hl : Carries h lo hi l) (hlo : lo ≤ i)
    (hhi : i ≤ hi) : Replica h hi (K ∪ keySet l) (applyDiff d l) := by
  intro k v
  by_cases hk : k ∈ keySet l
  · rw [lookup_applyDiff_of_mem (v := h hi k) hk
      (fun kv hkv he => he ▸ (hl.final kv hkv).symm)]
    split_ifs with h0
    · simp [h0]
      exact fun _ => Eq.symm
    · simp only [Option.some.injEq, Set.mem_union, hk, or_true, true_and]
      exact ⟨fun he => ⟨he, he ▸ h0⟩, fun he => he.1⟩
  · rw [lookup_applyDiff_of_notMem hk, hd k v, Set.mem_union, or_iff_left hk,
      hl.rest k hk i hlo hhi]

end Replica

end VersionedStore
