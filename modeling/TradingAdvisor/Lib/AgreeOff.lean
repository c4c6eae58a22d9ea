import Mathlib.Data.List.Sort
import TradingAdvisor.Lib.VersionedStore

/-!
# Dictionaries that agree off some keys

An operation on a dictionary that touches only some keys leaves the others as they are, in their
order.

* `AgreeOff` — the entries with other keys are the same;
* `agreeOff_insert`, `agreeOff_erase` — what setting and erasing a key leaves;
* `AgreeOff.lookup_eq`, `AgreeOff.filterMap_eq` — what agreeing dictionaries have in common.
-/

namespace VersionedStore

variable {κ α β : Type*} {K : κ → Prop} [DecidablePred K] {d d' d'' : Dict κ α} {k : κ}

/-- Off the keys `K` the dictionaries have the same entries. -/
def AgreeOff (K : κ → Prop) [DecidablePred K] (d d' : Dict κ α) : Prop :=
  (d.entries.filter fun e => ¬ K e.1) = d'.entries.filter fun e => ¬ K e.1

theorem AgreeOff.refl (d : Dict κ α) : AgreeOff K d d := rfl

theorem AgreeOff.trans (h : AgreeOff K d d') (h' : AgreeOff K d' d'') : AgreeOff K d d'' :=
  Eq.trans h h'

theorem AgreeOff.mono {L : κ → Prop} [DecidablePred L] (h : AgreeOff K d d')
    (hKL : ∀ k, K k → L k) : AgreeOff L d d' := by
  have hfilter : ∀ e : Dict κ α, (e.entries.filter fun s => ¬ L s.1) =
      (e.entries.filter fun s => ¬ K s.1).filter fun s => ¬ L s.1 := by
    intro e
    rw [List.filter_filter]
    refine List.filter_congr fun s _ => ?_
    by_cases hL : L s.1
    · simp [hL]
    · have hK : ¬ K s.1 := fun hK => hL (hKL s.1 hK)
      simp [hL, hK]
  rw [AgreeOff, hfilter, hfilter d', h]

section Keys

variable [DecidableEq κ]

theorem filter_kerase (hk : K k) (l : List (Sigma fun _ : κ => α)) :
    ((l.kerase k).filter fun e => ¬ K e.1) = l.filter fun e => ¬ K e.1 := by
  induction l with
  | nil => rfl
  | cons e l ih =>
      by_cases he : k = e.1
      · rw [List.kerase_cons_eq he, List.filter_cons_of_neg]
        simpa using he ▸ hk
      · rw [List.kerase_cons_ne he, List.filter_cons, List.filter_cons, ih]

theorem agreeOff_erase (hk : K k) (d : Dict κ α) : AgreeOff K (d.erase k) d :=
  filter_kerase hk d.entries

theorem agreeOff_insert (hk : K k) (a : α) (d : Dict κ α) : AgreeOff K (d.insert k a) d := by
  rw [AgreeOff, AList.entries_insert, List.filter_cons_of_neg (by simpa using hk)]
  exact filter_kerase hk d.entries

theorem dlookup_filter (hk : ¬ K k) (l : List (Sigma fun _ : κ => α)) :
    (l.filter fun e => ¬ K e.1).dlookup k = l.dlookup k := by
  induction l with
  | nil => rfl
  | cons e l ih =>
      obtain ⟨k', a⟩ := e
      by_cases hk' : K k'
      · have hne : k ≠ k' := by
          rintro rfl
          exact hk hk'
        rw [List.filter_cons_of_neg (by simpa using hk'), List.dlookup_cons_ne l _ hne]
        exact ih
      · rw [List.filter_cons_of_pos (by simpa using hk')]
        by_cases heq : k = k'
        · subst heq
          rw [List.dlookup_cons_eq, List.dlookup_cons_eq]
        · rw [List.dlookup_cons_ne _ _ heq, List.dlookup_cons_ne _ _ heq, ih]

/-- **Agreeing dictionaries give a key off `K` the same value.** -/
theorem AgreeOff.lookup_eq (h : AgreeOff K d d') (hk : ¬ K k) : d.lookup k = d'.lookup k := by
  rw [AList.lookup, AList.lookup, ← dlookup_filter hk, ← dlookup_filter hk d'.entries]
  rw [h]

end Keys

theorem filterMap_filter_of_none {f : (Sigma fun _ : κ => α) → Option β}
    {l : List (Sigma fun _ : κ => α)} (hf : ∀ e ∈ l, K e.1 → f e = none) :
    (l.filter fun e => ¬ K e.1).filterMap f = l.filterMap f := by
  induction l with
  | nil => rfl
  | cons e l ih =>
      have ih := ih fun e' he' => hf e' (List.mem_cons_of_mem _ he')
      by_cases he : K e.1
      · rw [List.filter_cons_of_neg (by simpa using he), ih,
          List.filterMap_cons_none (hf e List.mem_cons_self he)]
      · rw [List.filter_cons_of_pos (by simpa using he), List.filterMap_cons, List.filterMap_cons,
          ih]

/-- **A listing that skips the keys `K` is the same for agreeing dictionaries.** -/
theorem AgreeOff.filterMap_eq {f : (Sigma fun _ : κ => α) → Option β} (h : AgreeOff K d d')
    (hd : ∀ e ∈ d.entries, K e.1 → f e = none) (hd' : ∀ e ∈ d'.entries, K e.1 → f e = none) :
    d.entries.filterMap f = d'.entries.filterMap f := by
  rw [← filterMap_filter_of_none hd, ← filterMap_filter_of_none hd', h]

theorem filter_insertionSort [LinearOrder β] (p : β → Bool) (l : List β) :
    (l.insertionSort (· ≤ ·)).filter p = (l.filter p).insertionSort (· ≤ ·) := by
  refine List.Perm.eq_of_pairwise (fun _ _ _ _ => le_antisymm)
    ((List.pairwise_insertionSort (· ≤ ·) l).filter p)
    (List.pairwise_insertionSort (· ≤ ·) _) ?_
  exact ((List.perm_insertionSort (· ≤ ·) l).filter p).trans
    (List.perm_insertionSort (· ≤ ·) _).symm

end VersionedStore
