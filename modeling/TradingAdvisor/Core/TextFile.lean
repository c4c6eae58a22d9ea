import Mathlib.Data.List.Basic
import Mathlib.Data.String.Basic

/-!
# Text files

A text file is read in one step: its bytes are decoded from UTF-8, and every line ending becomes a
line feed.

* `FileRead` — what the file system answers;
* `readText` — the text of the bytes;
* `readText_ok_iff` — the decoding raises exactly outside UTF-8.
-/

namespace TradingAdvisor

/-- What the file system answers to the read of a file. -/
inductive FileRead
  | fileNotFound
  | osError
  | content (bytes : ByteArray)

/-- An exception that a read does not catch. -/
inductive ReadException
  | unicodeDecodeError
  deriving DecidableEq, Repr

/-- Every line ending becomes a line feed. -/
def universalNewlines : List Char → List Char
  | [] => []
  | '\r' :: '\n' :: cs => '\n' :: universalNewlines cs
  | c :: cs => (if c = '\r' then '\n' else c) :: universalNewlines cs

/-- The text of a file in UTF-8. -/
def readText (bytes : ByteArray) : Except ReadException String :=
  match String.fromUTF8? bytes with
  | some text => .ok (String.ofList (universalNewlines text.toList))
  | none => .error .unicodeDecodeError

theorem readText_ok_iff {bytes : ByteArray} :
    (∃ text, readText bytes = .ok text) ↔ bytes.IsValidUTF8 := by
  unfold readText String.fromUTF8?
  by_cases hvalid : bytes.IsValidUTF8
  · rw [dif_pos hvalid]
    exact iff_of_true ⟨_, rfl⟩ hvalid
  · rw [dif_neg hvalid]
    refine iff_of_false ?_ hvalid
    rintro ⟨text, h⟩
    cases h

theorem readText_toUTF8 (s : String) :
    readText s.toUTF8 = .ok (String.ofList (universalNewlines s.toList)) := by
  have hdecoded : String.fromUTF8? s.toUTF8 = some s := by
    unfold String.fromUTF8?
    rw [String.toUTF8_eq_toByteArray, dif_pos s.isValidUTF8]
    rfl
  rw [readText, hdecoded]

/-! ## Line endings -/

theorem universalNewlines_cons {c : Char} (h : c ≠ '\r') (cs : List Char) :
    universalNewlines (c :: cs) = c :: universalNewlines cs := by
  rw [universalNewlines.eq_3 c cs fun _ hc _ => h hc, if_neg h]

theorem universalNewlines_append {s : List Char} (h : '\r' ∉ s) (t : List Char) :
    universalNewlines (s ++ t) = s ++ universalNewlines t := by
  induction s with
  | nil => rfl
  | cons c s ih =>
      rw [List.mem_cons, not_or] at h
      rw [List.cons_append, universalNewlines_cons (Ne.symm h.1), ih h.2, List.cons_append]

theorem universalNewlines_of_notMem {s : List Char} (h : '\r' ∉ s) : universalNewlines s = s := by
  have happend := universalNewlines_append h []
  rwa [List.append_nil, universalNewlines, List.append_nil] at happend

/-- The first character is a carriage return, a line feed in its place, or stays. -/
theorem head?_universalNewlines {s : List Char} {c : Char} (h : c ∈ (universalNewlines s).head?) :
    c = '\n' ∨ c ∈ s.head? := by
  cases s with
  | nil => cases h
  | cons d s =>
      by_cases hd : d = '\r'
      · subst hd
        refine .inl ?_
        cases s with
        | nil =>
            cases h
            rfl
        | cons e s =>
            by_cases he : e = '\n'
            · subst he
              cases h
              rfl
            · rw [universalNewlines.eq_3 '\r' (e :: s) fun _ _ hcons => he (by cases hcons; rfl)] at h
              cases h
              rfl
      · rw [universalNewlines_cons hd] at h
        exact .inr h

end TradingAdvisor
