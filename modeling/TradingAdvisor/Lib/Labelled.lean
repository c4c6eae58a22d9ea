import Mathlib.Data.List.Basic
import Mathlib.Data.List.Nodup

/-!
# Dictionaries in the order of their keys

A dictionary that is read in the order in which its keys were first set; setting a key again
replaces its value in place.

* `Labelled`, `set`, `get?` — the dictionary;
* `get?_set`, `mem_entries_iff` — what is found under a key;
* `ofItems`, `get?_ofItems` — a dictionary built from items, one after another.
-/

/-- A dictionary in the order in which its keys were first set. -/
structure Labelled (κ α : Type) where
  entries : List (κ × α) := []
  nodup : (entries.map Prod.fst).Nodup := by exact List.nodup_nil

namespace Labelled

variable {κ α ι : Type} [DecidableEq κ]

/-- What is found under a key. -/
def get? (d : Labelled κ α) (k : κ) : Option α :=
  (d.entries.find? fun entry => entry.1 = k).map Prod.snd

/-- Replace the value of a key. -/
def replace (k : κ) (a : α) (entries : List (κ × α)) : List (κ × α) :=
  entries.map fun entry => if entry.1 = k then (k, a) else entry

omit [DecidableEq κ] in
@[ext] theorem ext {d d' : Labelled κ α} (h : d.entries = d'.entries) : d = d' := by
  cases d
  cases d'
  cases h
  rfl

theorem map_fst_replace (k : κ) (a : α) (entries : List (κ × α)) :
    (replace k a entries).map Prod.fst = entries.map Prod.fst := by
  rw [replace, List.map_map]
  refine List.map_congr_left fun entry _ => ?_
  by_cases h : entry.1 = k <;> simp [h]

/-- Set the value of a key. -/
def set (d : Labelled κ α) (k : κ) (a : α) : Labelled κ α :=
  if h : k ∈ d.entries.map Prod.fst then
    ⟨replace k a d.entries, (map_fst_replace k a d.entries).symm ▸ d.nodup⟩
  else
    ⟨d.entries ++ [(k, a)], by
      rw [List.map_append]
      exact List.nodup_append'.mpr ⟨d.nodup, List.nodup_singleton k, by simpa using h⟩⟩

/-- The dictionary of some items, one after another. -/
def ofItems (key : ι → κ) (value : ι → α) (items : List ι) : Labelled κ α :=
  items.foldl (fun d item => d.set (key item) (value item)) {}

variable {d : Labelled κ α} {k k' : κ} {a a' : α}

theorem get?_eq_some : d.get? k = some a ↔ (k, a) ∈ d.entries := by
  have hinj := List.inj_on_of_nodup_map d.nodup
  rw [get?, Option.map_eq_some_iff]
  constructor
  · rintro ⟨entry, hfind, rfl⟩
    have hkey : entry.1 = k := by simpa using List.find?_some hfind
    exact hkey ▸ List.mem_of_find?_eq_some hfind
  · intro hmem
    have hsome : (d.entries.find? fun entry => entry.1 = k).isSome :=
      List.find?_isSome.mpr ⟨(k, a), hmem, by simp⟩
    obtain ⟨entry, hfind⟩ := Option.isSome_iff_exists.mp hsome
    have hkey : entry.1 = k := by simpa using List.find?_some hfind
    obtain rfl := hinj (List.mem_of_find?_eq_some hfind) hmem hkey
    exact ⟨_, hfind, rfl⟩

theorem mem_entries_set : (k', a') ∈ (d.set k a).entries ↔
    if k' = k then a' = a else (k', a') ∈ d.entries := by
  unfold set
  split_ifs with hin hk hk
  · subst hk
    obtain ⟨⟨k', old⟩, hold, rfl⟩ := List.mem_map.mp hin
    simp only [replace, List.mem_map]
    constructor
    · rintro ⟨entry, -, h⟩
      split_ifs at h with hkey
      · exact (Prod.mk.inj h).2.symm
      · exact absurd (congrArg Prod.fst h) hkey
    · rintro rfl
      exact ⟨(k', old), hold, by simp⟩
  · simp only [replace, List.mem_map]
    constructor
    · rintro ⟨entry, hentry, h⟩
      split_ifs at h with hkey
      · exact absurd (congrArg Prod.fst h).symm hk
      · exact h ▸ hentry
    · exact fun h => ⟨(k', a'), h, if_neg hk⟩
  · subst hk
    simp only [List.mem_append, List.mem_singleton, Prod.mk.injEq, true_and]
    exact or_iff_right fun h => hin (List.mem_map_of_mem (f := Prod.fst) h)
  · simp [hk]

theorem get?_set : (d.set k a).get? k' = if k' = k then some a else d.get? k' := by
  refine Option.ext fun b => ?_
  rw [get?_eq_some, mem_entries_set]
  split_ifs with hk
  · exact ⟨fun h => congrArg some h.symm, fun h => (Option.some.inj h).symm⟩
  · exact get?_eq_some.symm

theorem get?_ofItems {key : ι → κ} {value : ι → α} {items : List ι} {item : ι}
    (hmem : item ∈ items) (h : ∀ other ∈ items, key other = key item → value other = value item) :
    (ofItems key value items).get? (key item) = some (value item) := by
  have hrun : ∀ (l : List ι) (d : Labelled κ α),
      (∀ other ∈ l, key other = key item → value other = value item) →
      (item ∈ l ∨ d.get? (key item) = some (value item)) →
        (l.foldl (fun d i => d.set (key i) (value i)) d).get? (key item) = some (value item) := by
    intro l
    induction l with
    | nil => exact fun d _ hd => hd.resolve_left List.not_mem_nil
    | cons other l ih =>
        intro d hl hd
        obtain ⟨hother, hrest⟩ := List.forall_mem_cons.mp hl
        refine ih _ hrest ?_
        by_cases hitem : item ∈ l
        · exact .inl hitem
        · right
          rw [get?_set]
          split_ifs with hkey
          · rw [hother hkey.symm]
          · rcases hd with hd | hd
            · rcases List.mem_cons.mp hd with rfl | hd
              · exact absurd rfl hkey
              · exact absurd hd hitem
            · exact hd
  exact hrun items {} h (.inl hmem)

theorem exists_of_get?_ofItems {key : ι → κ} {value : ι → α} {items : List ι}
    (h : (ofItems key value items).get? k = some a) :
    ∃ item ∈ items, key item = k ∧ value item = a := by
  have hrun : ∀ (l : List ι) (d : Labelled κ α),
      (l.foldl (fun d i => d.set (key i) (value i)) d).get? k = some a →
        d.get? k = some a ∨ ∃ item ∈ l, key item = k ∧ value item = a := by
    intro l
    induction l with
    | nil => exact fun d hd => .inl hd
    | cons other l ih =>
        intro d hd
        rcases ih _ hd with hd | ⟨item, hitem, hkey⟩
        · rw [get?_set] at hd
          split_ifs at hd with hkey
          · exact .inr ⟨other, List.mem_cons_self, hkey.symm, Option.some.inj hd⟩
          · exact .inl hd
        · exact .inr ⟨item, List.mem_cons_of_mem _ hitem, hkey⟩
  rcases hrun items {} h with hd | hd
  · simp [get?] at hd
  · exact hd

end Labelled
