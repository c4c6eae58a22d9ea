import Mathlib.Data.Finset.Max

/-!
# The newest keys

Bounded retention keeps the largest keys seen. A key is one of the `n` newest of a finite set when
fewer than `n` keys of the set are larger.

* `newest` — the `n` largest keys;
* `newest_insert_newest` — **a key may be offered to what is retained instead of to all that was
  seen**;
* `newest_of_card_eq_succ` — evicting the smallest key on overflow retains the newest ones.
-/

namespace Newest

variable {κ : Type*} [LinearOrder κ] {n : ℕ} {k : κ} {S T : Finset κ}

/-- The `n` largest keys of a set. -/
def newest (n : ℕ) (S : Finset κ) : Finset κ :=
  {k ∈ S | {l ∈ S | k < l}.card < n}

theorem mem_newest : k ∈ newest n S ↔ k ∈ S ∧ {l ∈ S | k < l}.card < n := Finset.mem_filter

theorem newest_subset (n : ℕ) (S : Finset κ) : newest n S ⊆ S := Finset.filter_subset _ _

@[simp] theorem newest_empty (n : ℕ) : newest n (∅ : Finset κ) = ∅ := rfl

theorem newest_of_card_le (h : S.card ≤ n) : newest n S = S := by
  refine Finset.filter_true_of_mem fun k hk => lt_of_lt_of_le (Finset.card_lt_card ?_) h
  exact Finset.filter_ssubset.mpr ⟨k, hk, lt_irrefl k⟩

theorem newest_insert_min (h : ∀ l ∈ S, k < l) :
    newest n (insert k S) = if S.card < n then insert k (newest n S) else newest n S := by
  have hk : {l ∈ insert k S | k < l} = S := by
    rw [Finset.filter_insert, if_neg (lt_irrefl k)]
    exact Finset.filter_true_of_mem h
  have hrest : ∀ l ∈ S, {x ∈ insert k S | l < x} = {x ∈ S | l < x} := fun l hl => by
    rw [Finset.filter_insert, if_neg (not_lt_of_gt (h l hl))]
  have hS : {l ∈ S | {x ∈ insert k S | l < x}.card < n} = newest n S :=
    Finset.filter_congr fun l hl => by rw [hrest l hl]
  unfold newest
  rw [Finset.filter_insert, hk]
  exact if_congr Iff.rfl (congrArg (insert k) hS) hS

theorem card_newest (n : ℕ) (S : Finset κ) : (newest n S).card = min n S.card := by
  induction S using Finset.induction_on_min with
  | empty => simp
  | insert k S h ih =>
      have hk : k ∉ S := fun hk => lt_irrefl k (h k hk)
      rw [newest_insert_min h, Finset.card_insert_of_notMem hk]
      split_ifs with hn
      · rw [Finset.card_insert_of_notMem fun hmem => hk (newest_subset n S hmem), ih]
        omega
      · rw [ih]
        omega

/-- Above a key that is not retained there are `n` retained ones. -/
theorem le_card_above (hk : k ∈ S) (hout : k ∉ newest n S) :
    n ≤ {l ∈ newest n S | k < l}.card := by
  have habove : n ≤ {l ∈ S | k < l}.card := by
    by_contra hlt
    exact hout (mem_newest.mpr ⟨hk, by omega⟩)
  -- above `k` the newest keys of `S` are the newest of the part above `k`
  have hsub : newest n {l ∈ S | k < l} ⊆ {l ∈ newest n S | k < l} := by
    intro x hx
    obtain ⟨hxS, hcard⟩ := mem_newest.mp hx
    obtain ⟨hxS, hkx⟩ := Finset.mem_filter.mp hxS
    refine Finset.mem_filter.mpr ⟨mem_newest.mpr ⟨hxS, ?_⟩, hkx⟩
    rw [Finset.filter_filter] at hcard
    convert hcard using 3
    exact ⟨fun hl => ⟨hkx.trans hl, hl⟩, And.right⟩
  calc n = (newest n {l ∈ S | k < l}).card := by rw [card_newest, min_eq_left habove]
    _ ≤ _ := Finset.card_le_card hsub

/-- **What is retained decides which keys of a larger set are retained.** -/
theorem newest_insert_newest (n : ℕ) (k : κ) (S : Finset κ) :
    newest n (insert k (newest n S)) = newest n (insert k S) := by
  have hsub : insert k (newest n S) ⊆ insert k S :=
    Finset.insert_subset_insert k (newest_subset n S)
  have hmono : ∀ x, {l ∈ insert k (newest n S) | x < l} ⊆ {l ∈ insert k S | x < l} :=
    fun x => Finset.filter_subset_filter _ hsub
  ext x
  rw [mem_newest, mem_newest]
  constructor
  · rintro ⟨hx, hcard⟩
    refine ⟨hsub hx, ?_⟩
    rw [← Finset.Subset.antisymm (hmono x) ?_]
    · exact hcard
    · -- a key above `x` that was dropped would have `n` retained keys above it
      intro y hy
      obtain ⟨hyS, hxy⟩ := Finset.mem_filter.mp hy
      refine Finset.mem_filter.mpr ⟨?_, hxy⟩
      rcases Finset.mem_insert.mp hyS with rfl | hyS
      · exact Finset.mem_insert_self _ _
      · by_contra hout
        have hout' : y ∉ newest n S := fun h => hout (Finset.mem_insert_of_mem h)
        have hle := le_card_above hyS hout'
        have : {l ∈ newest n S | y < l}.card ≤ {l ∈ insert k (newest n S) | x < l}.card :=
          Finset.card_le_card fun l hl => by
            obtain ⟨hl, hyl⟩ := Finset.mem_filter.mp hl
            exact Finset.mem_filter.mpr ⟨Finset.mem_insert_of_mem hl, hxy.trans hyl⟩
        omega
  · rintro ⟨hx, hcard⟩
    refine ⟨?_, lt_of_le_of_lt (Finset.card_le_card (hmono x)) hcard⟩
    rcases Finset.mem_insert.mp hx with rfl | hxS
    · exact Finset.mem_insert_self _ _
    · refine Finset.mem_insert_of_mem (mem_newest.mpr ⟨hxS, lt_of_le_of_lt ?_ hcard⟩)
      exact Finset.card_le_card (Finset.filter_subset_filter _ (Finset.subset_insert k S))

/-- **Evicting the smallest key on overflow retains the newest ones.** -/
theorem newest_of_card_eq_succ (hcard : S.card = n + 1) (hk : k ∈ S) (hmin : ∀ l ∈ S, k ≤ l) :
    newest n S = S.erase k := by
  have hlt : ∀ l ∈ S.erase k, k < l := fun l hl =>
    lt_of_le_of_ne (hmin l (Finset.mem_of_mem_erase hl)) (Finset.ne_of_mem_erase hl).symm
  have herase : (S.erase k).card = n := by
    rw [Finset.card_erase_of_mem hk, hcard]
    rfl
  conv_lhs => rw [← Finset.insert_erase hk]
  rw [newest_insert_min hlt, if_neg (by omega), newest_of_card_le herase.le]

end Newest
