import Mathlib.Data.List.Forall2
import Mathlib.Data.List.Induction

/-!
# Findings that cite evidence

A report collects evidence and findings; a finding names the evidence it rests on by position. A
grade of a finding is the join of the grades of what it cites.

* `Citing` — how findings cite and how both are graded;
* `Citing.Backed` — a finding cites evidence that is there, and is graded by it;
* `Backed.append`, `backed_singleton`, `backed_of_noted` — evidence added later changes nothing;
* `Citing.Grounded` — **every finding of a report is backed**.
-/

namespace Citations

/-- How findings cite evidence, and how both are graded. -/
structure Citing (ε φ γ : Type*) where
  /-- The grade of a piece of evidence. -/
  gradeOf : ε → γ
  /-- The positions a finding cites. -/
  refs : φ → List ℕ
  /-- The grade of a finding. -/
  grade : φ → γ
  /-- The grade of several pieces together. -/
  join : List γ → γ

namespace Citing

variable {ε φ γ : Type*} (C : Citing ε φ γ)

/-- A finding cites something, all of it is there, and the finding is graded by it. -/
def Backed (evidence : List ε) (finding : φ) : Prop :=
  C.refs finding ≠ [] ∧ ∃ cited : List ε,
    List.Forall₂ (fun i e => evidence[i]? = some e) (C.refs finding) cited ∧
      C.grade finding = C.join (cited.map C.gradeOf)

/-- Every finding is backed by the evidence. -/
def Grounded (evidence : List ε) (findings : List φ) : Prop :=
  ∀ finding ∈ findings, C.Backed evidence finding

variable {C} {evidence more : List ε} {findings : List φ} {finding : φ}

theorem getElem?_append_of_some {α : Type*} {l l' : List α} {i : ℕ} {a : α} (h : l[i]? = some a) :
    (l ++ l')[i]? = some a := by
  rw [List.getElem?_append_left (List.getElem?_eq_some_iff.mp h).1, h]

theorem Backed.append (h : C.Backed evidence finding) : C.Backed (evidence ++ more) finding := by
  obtain ⟨hne, cited, hcited, hgrade⟩ := h
  exact ⟨hne, cited, hcited.imp fun _ _ => getElem?_append_of_some, hgrade⟩

theorem Grounded.append (h : C.Grounded evidence findings) :
    C.Grounded (evidence ++ more) findings := fun finding hmem => (h finding hmem).append

theorem Grounded.snoc (h : C.Grounded evidence findings) (hf : C.Backed evidence finding) :
    C.Grounded evidence (findings ++ [finding]) := by
  intro other hmem
  rcases List.mem_append.mp hmem with hmem | hmem
  · exact h other hmem
  · exact List.mem_singleton.mp hmem ▸ hf

theorem Backed.refs_lt (h : C.Backed evidence finding) :
    ∀ i ∈ C.refs finding, i < evidence.length := by
  obtain ⟨-, cited, hcited, -⟩ := h
  obtain ⟨hlen, hget⟩ := List.forall₂_iff_get.mp hcited
  intro i hi
  obtain ⟨n, hn, rfl⟩ := List.getElem_of_mem hi
  exact (List.getElem?_eq_some_iff.mp (hget n hn (hlen ▸ hn))).1

/-- A finding about the pieces added last. -/
theorem backed_added {added : List ε} (hne : added ≠ [])
    (hrefs : C.refs finding = List.range' evidence.length added.length)
    (hgrade : C.grade finding = C.join (added.map C.gradeOf)) :
    C.Backed (evidence ++ added) finding := by
  refine ⟨?_, added, ?_, hgrade⟩
  · rw [hrefs]
    simpa using hne
  · rw [hrefs, List.forall₂_iff_get]
    refine ⟨by simp, fun n h₁ h₂ => ?_⟩
    simp [List.getElem?_append_right]

/-- A position with the grade found there. -/
def Noted (C : Citing ε φ γ) (evidence : List ε) (i : ℕ) (g : γ) : Prop :=
  ∃ e, evidence[i]? = some e ∧ C.gradeOf e = g

theorem Noted.append {i : ℕ} {g : γ} (h : C.Noted evidence i g) : C.Noted (evidence ++ more) i g :=
  let ⟨e, he, hg⟩ := h
  ⟨e, getElem?_append_of_some he, hg⟩

theorem noted_added (e : ε) : C.Noted (evidence ++ [e]) evidence.length (C.gradeOf e) :=
  ⟨e, List.getElem?_concat_length, rfl⟩

/-- A finding about pieces noted before. -/
theorem backed_of_noted {notes : List (ℕ × γ)} (hne : notes ≠ [])
    (hnotes : ∀ note ∈ notes, C.Noted evidence note.1 note.2)
    (hrefs : C.refs finding = notes.map Prod.fst)
    (hgrade : C.grade finding = C.join (notes.map Prod.snd)) : C.Backed evidence finding := by
  have hcited : ∃ cited : List ε,
      List.Forall₂ (fun i e => evidence[i]? = some e) (notes.map Prod.fst) cited ∧
        cited.map C.gradeOf = notes.map Prod.snd := by
    clear hne hrefs hgrade
    induction notes with
    | nil => exact ⟨[], .nil, rfl⟩
    | cons note notes ih =>
        obtain ⟨⟨e, he, hg⟩, hrest⟩ := List.forall_mem_cons.mp hnotes
        obtain ⟨cited, hcited, hgrades⟩ := ih hrest
        exact ⟨e :: cited, .cons he hcited, by rw [List.map_cons, List.map_cons, hg, hgrades]⟩
  obtain ⟨cited, hcited, hgrades⟩ := hcited
  refine ⟨?_, cited, hrefs ▸ hcited, hgrade.trans (congrArg C.join hgrades.symm)⟩
  rw [hrefs]
  simpa using hne

end Citing

end Citations
