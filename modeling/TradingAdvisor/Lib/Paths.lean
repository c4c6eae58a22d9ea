import Mathlib.Data.List.Basic
import Mathlib.Data.List.Infix
import Mathlib.Data.List.Nodup
import Mathlib.Data.String.Basic

/-!
# Texts put together with separators

A dotted path ends with a field that has no dot, so the path tells its stem and its field. A text
is cut at the first place where a separator stands.

* `dotted_injective`, `nodup_dotted` — a path tells its stem and its field;
* `disjoint_of_stems` — paths under different stems are different;
* `partition` — the cut at a separator of two different characters;
* **`partition_plain`**, **`partition_not_plain`** — where the cut is.
-/

namespace Paths

/-! ## Dotted paths -/

/-- A field: it has no dot. -/
def Field (s : String) : Prop := '.' ∉ s.toList

instance (s : String) : Decidable (Field s) := inferInstanceAs (Decidable (¬ _))

/-- The field of a stem. -/
def dotted (stem field : String) : String := stem ++ "." ++ field

theorem toList_dotted (stem field : String) :
    (dotted stem field).toList = stem.toList ++ '.' :: field.toList := by
  rw [dotted, String.toList_append, String.toList_append, List.append_assoc]
  rfl

theorem append_cons_injective {α : Type} {x : α} {s t f g : List α} (hf : x ∉ f) (hg : x ∉ g)
    (h : s ++ x :: f = t ++ x :: g) : s = t ∧ f = g := by
  rcases List.append_eq_append_iff.mp h with ⟨u, rfl, hu⟩ | ⟨u, rfl, hu⟩
  all_goals
    cases u with
    | nil =>
        rw [List.nil_append, List.cons.injEq] at hu
        simp [hu.2]
    | cons c u =>
        rw [List.cons_append, List.cons.injEq] at hu
        exfalso
        first
        | exact hf (by rw [hu.2]; simp)
        | exact hg (by rw [hu.2]; simp)

/-- **A path tells its stem and its field.** -/
theorem dotted_injective {s t f g : String} (hf : Field f) (hg : Field g)
    (h : dotted s f = dotted t g) : s = t ∧ f = g := by
  have hlist := congrArg String.toList h
  rw [toList_dotted, toList_dotted] at hlist
  obtain ⟨hs, hfield⟩ := append_cons_injective hf hg hlist
  exact ⟨String.toList_injective hs, String.toList_injective hfield⟩

/-- The fields of different stems are different paths. -/
theorem nodup_dotted {stems fields : List String} (hstems : stems.Nodup) (hfields : fields.Nodup)
    (hplain : ∀ f ∈ fields, Field f) : (stems.flatMap fun s => fields.map (dotted s)).Nodup := by
  rw [List.nodup_flatMap]
  constructor
  · intro s _
    refine List.Nodup.map_on (fun f hf g hg h => ?_) hfields
    exact (dotted_injective (hplain f hf) (hplain g hg) h).2
  · refine hstems.imp fun {s t} hne => ?_
    intro path hs ht
    obtain ⟨f, hf, rfl⟩ := List.mem_map.mp hs
    obtain ⟨g, hg, h⟩ := List.mem_map.mp ht
    exact hne (dotted_injective (hplain f hf) (hplain g hg) h.symm).1

/-- Neither stem starts with the other. -/
def Apart (s t : String) : Prop := ¬ s.toList <+: t.toList ∧ ¬ t.toList <+: s.toList

instance (s t : String) : Decidable (Apart s t) := inferInstanceAs (Decidable (_ ∧ _))

/-- The texts under a stem. -/
def Under (s path : String) : Prop := s.toList <+: path.toList

instance (s path : String) : Decidable (Under s path) := inferInstanceAs (Decidable (_ <+: _))

theorem under_append (s t : String) : Under s (s ++ t) := by
  rw [Under, String.toList_append]
  exact List.prefix_append _ _

theorem Under.append {s t : String} (h : Under s t) (u : String) : Under s (t ++ u) := by
  rw [Under, String.toList_append]
  exact h.trans (List.prefix_append _ _)

theorem append_injective (s : String) : Function.Injective fun t => s ++ t := by
  intro t u h
  have hlist := congrArg String.toList h
  simp only [String.toList_append] at hlist
  exact String.toList_injective (List.append_cancel_left hlist)

theorem append_ne {s t : String} (hapart : Apart s t) (u v : String) : s ++ u ≠ t ++ v := by
  intro h
  have hv : Under t (s ++ u) := h ▸ under_append t v
  rcases List.prefix_or_prefix_of_prefix (under_append s u) hv with hst | hts
  · exact hapart.1 hst
  · exact hapart.2 hts

/-- Texts under stems that are apart are different. -/
theorem disjoint_of_stems {s t : String} (hapart : Apart s t) {l l' : List String}
    (hl : ∀ path ∈ l, Under s path) (hl' : ∀ path ∈ l', Under t path) : l.Disjoint l' := by
  intro path hs ht
  rcases List.prefix_or_prefix_of_prefix (hl path hs) (hl' path ht) with h | h
  · exact hapart.1 h
  · exact hapart.2 h

/-! ## The cut at a separator -/

/-- The text before the first `x` that `y` follows, and the text after both. -/
def partition (x y : Char) : List Char → List Char × List Char
  | [] => ([], [])
  | [c] => ([c], [])
  | c :: d :: cs =>
      if c = x ∧ d = y then ([], cs)
      else ((c :: (partition x y (d :: cs)).1), (partition x y (d :: cs)).2)

/-- The separator stands nowhere in the text. -/
def Plain (x y : Char) (s : List Char) : Prop := ¬ [x, y] <:+: s

instance (x y : Char) (s : List Char) : Decidable (Plain x y s) :=
  inferInstanceAs (Decidable (¬ _))

variable {x y : Char}

theorem plain_tail {c : Char} {s : List Char} (h : Plain x y (c :: s)) : Plain x y s :=
  fun hoccurs => h (hoccurs.trans (List.suffix_cons c s).isInfix)

/-- **A text without the separator is what stands before it.** -/
theorem partition_plain (hne : x ≠ y) {s : List Char} (h : Plain x y s) (t : List Char) :
    partition x y (s ++ x :: y :: t) = (s, t) := by
  induction s with
  | nil => simp [partition]
  | cons c s ih =>
      have hrest := ih (plain_tail h)
      cases s with
      | nil =>
          rw [List.nil_append] at hrest
          rw [List.cons_append, List.nil_append, partition, if_neg, hrest]
          rintro ⟨-, hxy⟩
          exact hne hxy
      | cons d s =>
          rw [List.cons_append] at hrest
          rw [List.cons_append, List.cons_append, partition, if_neg, hrest]
          rintro ⟨rfl, rfl⟩
          exact h (List.prefix_append [c, d] s).isInfix

/-- **A text with the separator is cut there, and the rest keeps the second one.** -/
theorem partition_not_plain {s : List Char} (h : ¬ Plain x y s) (t : List Char) :
    ∃ r, (partition x y (s ++ x :: y :: t)).2 = r ++ x :: y :: t := by
  induction s with
  | nil =>
      rw [Plain, not_not] at h
      exact absurd (List.infix_nil.mp h) (List.cons_ne_nil _ _)
  | cons c s ih =>
      cases s with
      | nil =>
          rw [Plain, not_not] at h
          have hlength := h.length_le
          simp at hlength
      | cons d s =>
          rw [List.cons_append, List.cons_append, partition]
          split_ifs with hcut
          · exact ⟨s, rfl⟩
          · refine ih fun hplain => h fun hoccurs => ?_
            rcases List.infix_cons_iff.mp hoccurs with hstart | hoccurs
            · rw [List.cons_prefix_cons, List.cons_prefix_cons] at hstart
              exact hcut ⟨hstart.1.symm, hstart.2.1.symm⟩
            · exact hplain hoccurs

end Paths
