import TradingAdvisor.Core.Base

/-!
# Letter case

Upper-casing replaces each character by its full mapping, which may be longer than one character.
The mapping of an upper-case character is that character.

* `CaseMapping`, `CaseMapping.upper` — the mapping and the upper-case text;
* `CaseMapping.upper_upper` — upper-casing twice changes nothing more;
* `CaseMapping.ascii` — the mapping of the ASCII letters alone.
-/

namespace TradingAdvisor

/-- The full upper-case mapping of the characters. -/
structure CaseMapping where
  table : Char → List Char
  fixed : ∀ c, ∀ d ∈ table c, table d = [d]

namespace CaseMapping

variable (m : CaseMapping)

/-- The upper-case text. -/
def upper (s : String) : String := String.ofList (s.toList.flatMap m.table)

theorem flatMap_fixed {l : List Char} (h : ∀ d ∈ l, m.table d = [d]) : l.flatMap m.table = l := by
  induction l with
  | nil => rfl
  | cons c l ih =>
      rw [List.forall_mem_cons] at h
      rw [List.flatMap_cons, h.1, ih h.2]
      rfl

@[simp] theorem upper_upper (s : String) : m.upper (m.upper s) = m.upper s := by
  unfold upper
  rw [String.toList_ofList, m.flatMap_fixed]
  intro d hd
  obtain ⟨c, -, hd⟩ := List.mem_flatMap.mp hd
  exact m.fixed c d hd

theorem toUpper_toUpper (c : Char) : c.toUpper.toUpper = c.toUpper := by
  by_cases h : 'a'.val ≤ c.val ∧ c.val ≤ 'z'.val
  · have hval : c.toUpper.val = c.val + ('A'.val - 'a'.val) := by
      delta Char.toUpper
      rw [dif_pos h]
    have hnot : ¬ ('a'.val ≤ c.toUpper.val ∧ c.toUpper.val ≤ 'z'.val) := by
      rw [hval]
      simp only [UInt32.le_iff_toNat_le, UInt32.toNat_add, UInt32.toNat_sub] at h ⊢
      simp at h ⊢
      omega
    generalize c.toUpper = d at hnot
    delta Char.toUpper
    rw [dif_neg hnot]
  · have hself : c.toUpper = c := by
      delta Char.toUpper
      rw [dif_neg h]
    rw [hself, hself]

/-- Only the ASCII letters have case. -/
def ascii : CaseMapping where
  table c := [c.toUpper]
  fixed c d h := by
    rw [List.mem_singleton] at h
    rw [h, toUpper_toUpper]

end CaseMapping

/-- Text is a symbol when it has 1 to 32 characters. -/
def toSymbol (s : String) : Option Symbol :=
  if h : 1 ≤ s.length ∧ s.length ≤ 32 then some ⟨s, h⟩ else none

theorem toSymbol_eq_some {s : String} {symbol : Symbol} :
    toSymbol s = some symbol ↔ symbol.val = s := by
  unfold toSymbol
  constructor
  · intro h
    split_ifs at h
    cases h
    rfl
  · rintro rfl
    rw [dif_pos symbol.property]

end TradingAdvisor
