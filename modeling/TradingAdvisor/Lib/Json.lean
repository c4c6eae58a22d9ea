import Mathlib.Algebra.Field.Rat
import TradingAdvisor.Lib.Digits

/-!
# JSON texts

A strict reader of JSON by recursive descent. Strings are lists of code points, since an escape can
stand for half a surrogate pair; a number without fraction and exponent is an integer.

* `loads` — the reader;
* `Parses`, `Rejects` — what a reader makes of a text, whatever comes after it;
* `parses_string`, `parses_int`, `parses_array`, `parses_object` — texts put together from parts;
* **`rejects_string`**, `rejects_array`, `rejects_object`: a control character inside a string
  breaks every text around it.
-/

namespace JsonText

open DecimalDigits

/-! ## Values -/

/-- A JSON value. -/
inductive Json
  | null
  | bool (b : Bool)
  | int (n : ℤ)
  | float (q : ℚ)
  | nonFinite
  | str (s : List ℕ)
  | arr (items : List Json)
  | obj (members : List (List ℕ × Json))

/-- The code points of a text. -/
def codePoints (s : List Char) : List ℕ := s.map Char.toNat

/-! ## Scanning -/

/-- A space between tokens. -/
def IsSpace (c : Char) : Prop := c = ' ' ∨ c = '\t' ∨ c = '\n' ∨ c = '\r'

instance (c : Char) : Decidable (IsSpace c) := inferInstanceAs (Decidable (_ ∨ _))

/-- A character that no string may hold as it is. -/
def IsControl (c : Char) : Prop := c.toNat < 0x20

instance (c : Char) : Decidable (IsControl c) := inferInstanceAs (Decidable (_ < _))

/-- Drop the leading spaces. -/
def skipSpace (cs : List Char) : List Char := cs.dropWhile fun c => decide (IsSpace c)

/-- The value of a hexadecimal digit. -/
def hexValue (c : Char) : Option ℕ :=
  if c.isDigit then some (c.toNat - '0'.toNat)
  else if 'a' ≤ c ∧ c ≤ 'f' then some (c.toNat - 'a'.toNat + 10)
  else if 'A' ≤ c ∧ c ≤ 'F' then some (c.toNat - 'A'.toNat + 10)
  else none

/-- The value of four hexadecimal digits. -/
def hexValue4 (a b c d : Char) : Option ℕ := do
  let a ← hexValue a
  let b ← hexValue b
  let c ← hexValue c
  let d ← hexValue d
  return ((a * 16 + b) * 16 + c) * 16 + d

/-- The code point of an escape of one character. -/
def escapeValue (c : Char) : Option ℕ :=
  if c = '"' ∨ c = '\\' ∨ c = '/' then some c.toNat
  else if c = 'b' then some 8
  else if c = 'f' then some 12
  else if c = 'n' then some 10
  else if c = 'r' then some 13
  else if c = 't' then some 9
  else none

/-- Put one code point before what a scan found. -/
def consCode (n : ℕ) : Option (List ℕ × List Char) → Option (List ℕ × List Char) :=
  Option.map fun r => (n :: r.1, r.2)

/-- The rest of a string after its opening quote. -/
def scanString : List Char → Option (List ℕ × List Char)
  | [] => none
  | '"' :: cs => some ([], cs)
  | '\\' :: 'u' :: h₁ :: h₂ :: h₃ :: h₄ :: cs =>
      match hexValue4 h₁ h₂ h₃ h₄ with
      | some n => consCode n (scanString cs)
      | none => none
  | '\\' :: e :: cs =>
      match escapeValue e with
      | some n => consCode n (scanString cs)
      | none => none
  | c :: cs => if IsControl c then none else consCode c.toNat (scanString cs)

/-- Join the surrogate pairs. -/
def joinSurrogates : List ℕ → List ℕ
  | high :: low :: cs =>
      if (0xd800 ≤ high ∧ high ≤ 0xdbff) ∧ 0xdc00 ≤ low ∧ low ≤ 0xdfff then
        (0x10000 + (high - 0xd800) * 0x400 + (low - 0xdc00)) :: joinSurrogates cs
      else high :: joinSurrogates (low :: cs)
  | cs => cs

/-- The digits before the point; a zero stands alone. -/
def scanUnsigned : List Char → Option (List Char × List Char)
  | [] => none
  | c :: cs =>
      if c = '0' then some ([c], cs)
      else if c.isDigit then some (c :: cs.takeWhile Char.isDigit, cs.dropWhile Char.isDigit)
      else none

/-- The digits after the point, if there is one. -/
def scanFraction : List Char → List Char × List Char
  | [] => ([], [])
  | c :: cs =>
      if c = '.' ∧ cs.takeWhile Char.isDigit ≠ [] then
        (cs.takeWhile Char.isDigit, cs.dropWhile Char.isDigit)
      else ([], c :: cs)

/-- The sign of an exponent. -/
def scanSign : List Char → ℤ × List Char
  | [] => (1, [])
  | c :: cs => if c = '-' then (-1, cs) else if c = '+' then (1, cs) else (1, c :: cs)

/-- The exponent, if there is one. -/
def scanExponent : List Char → Option ℤ × List Char
  | [] => (none, [])
  | c :: cs =>
      let (sign, digits) := scanSign cs
      if (c = 'e' ∨ c = 'E') ∧ digits.takeWhile Char.isDigit ≠ [] then
        (some (sign * Nat.ofDigitChars 10 (digits.takeWhile Char.isDigit) 0),
          digits.dropWhile Char.isDigit)
      else (none, c :: cs)

/-- A number after its sign. -/
def scanMagnitude (sign : ℤ) (cs : List Char) : Option (Json × List Char) :=
  match scanUnsigned cs with
  | none => none
  | some (whole, cs) =>
      let (fraction, cs) := scanFraction cs
      let (exponent, cs) := scanExponent cs
      if fraction = [] ∧ exponent = none then some (.int (sign * Nat.ofDigitChars 10 whole 0), cs)
      else
        some (.float (sign * Nat.ofDigitChars 10 (whole ++ fraction) 0 *
          (10 : ℚ) ^ (exponent.getD 0 - fraction.length)), cs)

/-- A number. -/
def scanNumber : List Char → Option (Json × List Char)
  | [] => none
  | c :: cs => if c = '-' then scanMagnitude (-1) cs else scanMagnitude 1 (c :: cs)

/-! ## The reader -/

section Reader

variable {α : Type}

/-- Items after an opening bracket, up to the closing one; a comma stands between two items. -/
def scanItems (item : List Char → Option (α × List Char)) (close : Char) :
    ℕ → List Char → Option (List α × List Char)
  | 0, _ => none
  | n + 1, cs =>
      match item cs with
      | none => none
      | some (a, cs) =>
          match skipSpace cs with
          | [] => none
          | c :: cs =>
              if c = close then some ([a], cs)
              else if c = ',' then
                (scanItems item close n (skipSpace cs)).map fun r => (a :: r.1, r.2)
              else none

/-- The items of a bracket, of which there may be none. -/
def scanDelimited (item : List Char → Option (α × List Char)) (close : Char) (cs : List Char) :
    Option (List α × List Char) :=
  match skipSpace cs with
  | [] => none
  | c :: cs => if c = close then some ([], cs) else scanItems item close (cs.length + 1) (c :: cs)

/-- One member of an object. -/
def scanMember (value : List Char → Option (α × List Char)) :
    List Char → Option ((List ℕ × α) × List Char)
  | [] => none
  | c :: cs =>
      if c = '"' then
        match scanString cs with
        | none => none
        | some (key, cs) =>
            match skipSpace cs with
            | [] => none
            | c :: cs =>
                if c = ':' then
                  (value (skipSpace cs)).map fun r => ((joinSurrogates key, r.1), r.2)
                else none
      else none

/-- A word that stands for a value. -/
def scanWord (word : String) (value : Json) (cs : List Char) : Option (Json × List Char) :=
  if word.toList <+: cs then some (value, cs.drop word.length) else none

/-- A value, of a nesting below `n`. -/
def parseValue : ℕ → List Char → Option (Json × List Char)
  | 0, _ => none
  | _ + 1, [] => none
  | n + 1, c :: cs =>
      if c = '"' then (scanString cs).map fun r => (.str (joinSurrogates r.1), r.2)
      else if c = '{' then
        (scanDelimited (scanMember (parseValue n)) '}' cs).map fun r => (.obj r.1, r.2)
      else if c = '[' then (scanDelimited (parseValue n) ']' cs).map fun r => (.arr r.1, r.2)
      else if c = 'n' then scanWord "null" .null (c :: cs)
      else if c = 't' then scanWord "true" (.bool true) (c :: cs)
      else if c = 'f' then scanWord "false" (.bool false) (c :: cs)
      else if c = 'N' then scanWord "NaN" .nonFinite (c :: cs)
      else if c = 'I' then scanWord "Infinity" .nonFinite (c :: cs)
      else if "-Infinity".toList <+: c :: cs then scanWord "-Infinity" .nonFinite (c :: cs)
      else scanNumber (c :: cs)

/-- Read a whole text. -/
def loads (cs : List Char) : Option Json :=
  match parseValue cs.length (skipSpace cs) with
  | none => none
  | some (v, rest) => if skipSpace rest = [] then some v else none

end Reader

/-! ## Texts put together -/

/-- What may come after a value inside a bracket. -/
def Follows (rest : List Char) : Prop := ∀ c ∈ rest.head?, c = ',' ∨ c = ']' ∨ c = '}'

/-- A text that ends or goes on with a control character. -/
def Breaks (tail : List Char) : Prop := ∀ c ∈ tail.head?, IsControl c

/-- A text that starts with a token, which closes no bracket. -/
def Starts (text : List Char) : Prop :=
  ∃ c cs, text = c :: cs ∧ ¬ IsSpace c ∧ c ≠ ']' ∧ c ≠ '}'

section Rules

variable {α : Type} {p item value : List Char → Option (α × List Char)} {text rest tail : List Char}

/-- The reader takes the text for a value, whatever follows. -/
def Parses (p : List Char → Option (α × List Char)) (text : List Char) (a : α) : Prop :=
  ∀ rest, Follows rest → p (text ++ rest) = some (a, rest)

/-- The reader fails on every text that breaks off after this one. -/
def Rejects (p : List Char → Option (α × List Char)) (text : List Char) : Prop :=
  ∀ tail, Breaks tail → p (text ++ tail) = none

theorem follows_cons {c : Char} (h : c = ',' ∨ c = ']' ∨ c = '}') (rest : List Char) :
    Follows (c :: rest) := by
  intro d hd
  cases hd
  exact h

theorem follows_nil : Follows [] := by
  intro d hd
  cases hd

theorem skipSpace_cons {c : Char} (h : ¬ IsSpace c) (cs : List Char) :
    skipSpace (c :: cs) = c :: cs := by
  rw [skipSpace, List.dropWhile_cons_of_neg]
  simpa using h

theorem Starts.skipSpace (h : Starts text) (rest : List Char) :
    skipSpace (text ++ rest) = text ++ rest := by
  obtain ⟨c, cs, rfl, hspace, -⟩ := h
  exact skipSpace_cons hspace _

/-! ### Strings -/

/-- The shortest escape: only the quote and the backslash are escaped. -/
def escapeChar (c : Char) : List Char := if c = '\\' ∨ c = '"' then ['\\', c] else [c]

/-- A text with its quotes and backslashes escaped. -/
def escape (s : List Char) : List Char := s.flatMap escapeChar

theorem scanString_cons {c : Char} (hquote : c ≠ '"') (hbackslash : c ≠ '\\') (cs : List Char) :
    scanString (c :: cs) = if IsControl c then none else consCode c.toNat (scanString cs) :=
  scanString.eq_5 c cs hquote (fun _ _ _ _ _ h _ => hbackslash h) fun _ _ h _ => hbackslash h

theorem scanString_escapeChar {c : Char} (h : ¬ IsControl c) (rest : List Char) :
    scanString (escapeChar c ++ rest) = consCode c.toNat (scanString rest) := by
  unfold escapeChar
  by_cases hescape : c = '\\' ∨ c = '"'
  · rw [if_pos hescape]
    rcases hescape with rfl | rfl <;> rfl
  · rw [if_neg hescape]
    rw [not_or] at hescape
    exact (scanString_cons hescape.2 hescape.1 rest).trans (if_neg h)

theorem scanString_escape {s : List Char} (h : ∀ c ∈ s, ¬ IsControl c) (rest : List Char) :
    scanString (escape s ++ '"' :: rest) = some (codePoints s, rest) := by
  induction s with
  | nil => rfl
  | cons c s ih =>
      rw [List.forall_mem_cons] at h
      rw [escape, List.flatMap_cons, List.append_assoc, scanString_escapeChar h.1]
      show consCode c.toNat (scanString (escape s ++ '"' :: rest)) = _
      rw [ih h.2]
      rfl

theorem scanString_escape_breaks {s : List Char} (h : ∀ c ∈ s, ¬ IsControl c)
    (htail : Breaks tail) : scanString (escape s ++ tail) = none := by
  induction s with
  | nil =>
      show scanString tail = none
      cases tail with
      | nil => rfl
      | cons c tail =>
          have hcontrol : IsControl c := htail c rfl
          have hquote : c ≠ '"' := by
            rintro rfl
            exact absurd hcontrol (by decide)
          have hbackslash : c ≠ '\\' := by
            rintro rfl
            exact absurd hcontrol (by decide)
          exact (scanString_cons hquote hbackslash tail).trans (if_pos hcontrol)
  | cons c s ih =>
      rw [List.forall_mem_cons] at h
      rw [escape, List.flatMap_cons, List.append_assoc, scanString_escapeChar h.1]
      show consCode c.toNat (scanString (escape s ++ tail)) = none
      rw [ih h.2]
      rfl

theorem escape_of_plain {s : List Char} (h : ∀ c ∈ s, c ≠ '\\' ∧ c ≠ '"') : escape s = s := by
  induction s with
  | nil => rfl
  | cons c s ih =>
      rw [List.forall_mem_cons] at h
      rw [escape, List.flatMap_cons, escapeChar, if_neg (not_or.mpr h.1)]
      exact congrArg (c :: ·) (ih h.2)

theorem joinSurrogates_codePoints (s : List Char) : joinSurrogates (codePoints s) = codePoints s := by
  induction s with
  | nil => rfl
  | cons c s ih =>
      cases s with
      | nil => rfl
      | cons d s =>
          show joinSurrogates (c.toNat :: d.toNat :: codePoints s) = _
          rw [joinSurrogates, if_neg]
          · show c.toNat :: joinSurrogates (codePoints (d :: s)) = _
            rw [ih]
            rfl
          · rintro ⟨⟨hlow, hhigh⟩, -⟩
            have hvalid : c.toNat < 0xd800 ∨ 0xdfff < c.toNat := by
              rcases c.valid with hc | hc
              · exact .inl hc
              · exact .inr hc.1
            omega

/-- A text in quotes. -/
def quoted (s : List Char) : List Char := '"' :: (escape s ++ ['"'])

theorem starts_quoted (s : List Char) : Starts (quoted s) :=
  ⟨'"', _, rfl, by decide, by decide, by decide⟩

theorem parses_string {s : List Char} (h : ∀ c ∈ s, ¬ IsControl c) (n : ℕ) :
    Parses (parseValue (n + 1)) (quoted s) (.str (codePoints s)) := by
  intro rest _
  show parseValue (n + 1) ('"' :: (escape s ++ ['"'] ++ rest)) = _
  rw [parseValue, if_pos rfl, List.append_assoc]
  show (scanString (escape s ++ '"' :: rest)).map _ = _
  rw [scanString_escape h, Option.map_some, joinSurrogates_codePoints]

/-- **A control character breaks the string it is in.** -/
theorem rejects_string {s : List Char} (h : ∀ c ∈ s, ¬ IsControl c) (n : ℕ) :
    Rejects (parseValue (n + 1)) ('"' :: escape s) := by
  intro tail htail
  show parseValue (n + 1) ('"' :: (escape s ++ tail)) = none
  rw [parseValue, if_pos rfl, scanString_escape_breaks h htail]
  rfl

/-! ### Integers -/

/-- The decimal text of an integer. -/
def intText (z : ℤ) : List Char :=
  if z < 0 then '-' :: Nat.toDigits 10 z.natAbs else Nat.toDigits 10 z.natAbs

theorem takeWhile_isDigit {ds : List Char} (hds : ∀ c ∈ ds, c.isDigit = true)
    (hrest : Follows rest) :
    (ds ++ rest).takeWhile Char.isDigit = ds ∧ (ds ++ rest).dropWhile Char.isDigit = rest := by
  have hnone : rest.takeWhile Char.isDigit = [] ∧ rest.dropWhile Char.isDigit = rest := by
    cases rest with
    | nil => exact ⟨rfl, rfl⟩
    | cons c rest =>
        rcases hrest c rfl with rfl | rfl | rfl <;> exact ⟨rfl, rfl⟩
  rw [List.takeWhile_append_of_pos hds, List.dropWhile_append_of_pos hds, hnone.1, hnone.2,
    List.append_nil]
  exact ⟨rfl, rfl⟩

theorem scanUnsigned_toDigits (n : ℕ) (hrest : Follows rest) :
    scanUnsigned (Nat.toDigits 10 n ++ rest) = some (Nat.toDigits 10 n, rest) := by
  rcases Nat.eq_zero_or_pos n with rfl | hn
  · rfl
  · have hdigit : ∀ c ∈ Nat.toDigits 10 n, c.isDigit = true := fun c hc =>
      Nat.isDigit_of_mem_toDigits (by omega) (by omega) hc
    obtain ⟨c, cs, hdigits, hzero⟩ := exists_toDigits hn
    rw [hdigits] at hdigit ⊢
    rw [List.forall_mem_cons] at hdigit
    obtain ⟨htake, hdrop⟩ := takeWhile_isDigit hdigit.2 hrest
    rw [List.cons_append, scanUnsigned, if_neg hzero, if_pos hdigit.1, htake, hdrop]

theorem scanMagnitude_toDigits (sign : ℤ) (n : ℕ) (hrest : Follows rest) :
    scanMagnitude sign (Nat.toDigits 10 n ++ rest) = some (.int (sign * n), rest) := by
  have hfraction : scanFraction rest = ([], rest) := by
    cases rest with
    | nil => rfl
    | cons c rest => rcases hrest c rfl with rfl | rfl | rfl <;> rfl
  have hexponent : scanExponent rest = (none, rest) := by
    cases rest with
    | nil => rfl
    | cons c rest => rcases hrest c rfl with rfl | rfl | rfl <;> rfl
  rw [scanMagnitude, scanUnsigned_toDigits n hrest]
  simp only [hfraction, hexponent, and_self, if_true, Nat.ofDigitChars_ten_toDigits]

theorem starts_intText (z : ℤ) : Starts (intText z) := by
  unfold intText
  by_cases hneg : z < 0
  · rw [if_pos hneg]
    exact ⟨'-', _, rfl, by decide, by decide, by decide⟩
  · rw [if_neg hneg]
    obtain ⟨c, cs, hdigits⟩ :=
      List.exists_cons_of_ne_nil (Nat.toDigits_ne_nil (n := z.natAbs) (b := 10))
    have hdigit : c.isDigit = true :=
      Nat.isDigit_of_mem_toDigits (by omega) (by omega) (hdigits ▸ List.mem_cons_self)
    refine ⟨c, cs, hdigits, ?_, ?_, ?_⟩
    · rintro (rfl | rfl | rfl | rfl) <;> cases hdigit
    · rintro rfl
      cases hdigit
    · rintro rfl
      cases hdigit

theorem parseValue_number {c : Char} (h : c = '-' ∨ c.isDigit = true) (cs : List Char)
    (hinfinity : ¬ "-Infinity".toList <+: c :: cs) (n : ℕ) :
    parseValue (n + 1) (c :: cs) = scanNumber (c :: cs) := by
  have hne : ∀ d : Char, d ≠ '-' → d.isDigit = false → c ≠ d := by
    rintro d hminus hdigit rfl
    rcases h with h | h
    · exact hminus h
    · rw [hdigit] at h
      cases h
  rw [parseValue, if_neg (hne '"' (by decide) rfl), if_neg (hne '\x7b' (by decide) rfl),
    if_neg (hne '[' (by decide) rfl), if_neg (hne 'n' (by decide) rfl),
    if_neg (hne 't' (by decide) rfl), if_neg (hne 'f' (by decide) rfl),
    if_neg (hne 'N' (by decide) rfl), if_neg (hne 'I' (by decide) rfl), if_neg hinfinity]

theorem parses_int (z : ℤ) (n : ℕ) : Parses (parseValue (n + 1)) (intText z) (.int z) := by
  intro rest hrest
  obtain ⟨c, cs, hdigits⟩ :=
    List.exists_cons_of_ne_nil (Nat.toDigits_ne_nil (n := z.natAbs) (b := 10))
  have hdigit : c.isDigit = true :=
    Nat.isDigit_of_mem_toDigits (by omega) (by omega) (hdigits ▸ List.mem_cons_self)
  have hscan (sign : ℤ) := scanMagnitude_toDigits sign z.natAbs hrest
  unfold intText
  by_cases hneg : z < 0
  · rw [if_pos hneg, List.cons_append, parseValue_number (.inl rfl), scanNumber, if_pos rfl, hscan]
    · congr 3
      omega
    · rw [hdigits]
      rintro ⟨t, ht⟩
      injection ht with _ ht
      injection ht with ht _
      rw [← ht] at hdigit
      cases hdigit
  · rw [if_neg hneg, hdigits, List.cons_append, parseValue_number (.inr hdigit), scanNumber,
      if_neg, ← List.cons_append, ← hdigits, hscan]
    · congr 3
      omega
    · rintro rfl
      cases hdigit
    · rintro ⟨t, ht⟩
      injection ht with ht _
      rw [← ht] at hdigit
      cases hdigit

/-! ### Brackets -/

/-- Texts with commas between them. -/
def commaSeparated : List (List Char) → List Char
  | [] => []
  | [text] => text
  | text :: texts => text ++ ',' :: commaSeparated texts

theorem commaSeparated_concat (texts : List (List Char)) (text : List Char) :
    commaSeparated (texts ++ [text]) = texts.flatMap (· ++ [',']) ++ text := by
  induction texts with
  | nil => rfl
  | cons head texts ih =>
      have hcons : commaSeparated (head :: texts ++ [text]) =
          head ++ ',' :: commaSeparated (texts ++ [text]) := by
        cases texts <;> rfl
      rw [hcons, ih, List.flatMap_cons, List.append_assoc, List.append_assoc]
      rfl

theorem commaSeparated_append_singleton {texts : List (List Char)} (hne : texts ≠ [])
    (text : List Char) :
    commaSeparated (texts ++ [text]) = commaSeparated texts ++ ',' :: text := by
  obtain ⟨texts, last, rfl⟩ := List.eq_nil_or_concat'  texts |>.resolve_left hne
  rw [commaSeparated_concat, commaSeparated_concat, List.flatMap_append]
  simp

/-- What comes after a text does not change what stands before it. -/
theorem commaSeparated_append_cons (texts : List (List Char)) (text : List Char)
    (rest : List (List Char)) :
    commaSeparated (texts ++ text :: rest) =
      commaSeparated (texts ++ [text]) ++ rest.flatMap (',' :: ·) := by
  induction rest generalizing texts text with
  | nil => rw [List.flatMap_nil, List.append_nil]
  | cons next rest ih =>
      have hne : texts ++ [text] ≠ [] := by simp
      rw [List.append_cons, ih, commaSeparated_append_singleton hne, List.flatMap_cons,
        List.append_assoc]

/-- A text with the value it is read as. -/
structure Part (item : List Char → Option (α × List Char)) where
  text : List Char
  value : α
  starts : Starts text
  parses : Parses item text value

variable {close : Char}

theorem Starts.ne_close (h : Starts text) (hclose : close = ']' ∨ close = '}') :
    ∃ c cs, text = c :: cs ∧ ¬ IsSpace c ∧ c ≠ close := by
  obtain ⟨c, cs, htext, hspace, hsquare, hcurly⟩ := h
  refine ⟨c, cs, htext, hspace, ?_⟩
  rcases hclose with rfl | rfl
  · exact hsquare
  · exact hcurly

theorem scanItems_comma {a : α} {n : ℕ} (hclose : close = ']' ∨ close = '}')
    (htext : Parses item text a) (hrest : Starts rest) (tail : List Char) :
    scanItems item close (n + 1) (text ++ ',' :: (rest ++ tail)) =
      (scanItems item close n (rest ++ tail)).map fun r => (a :: r.1, r.2) := by
  have hcomma : ',' ≠ close := by rcases hclose with rfl | rfl <;> decide
  have hspace : ¬ IsSpace ',' := by decide
  rw [scanItems, htext _ (follows_cons (.inl rfl) _)]
  simp only [skipSpace_cons hspace, if_neg hcomma, if_true, hrest.skipSpace]

theorem scanItems_close {a : α} {n : ℕ} (hclose : close = ']' ∨ close = '}')
    (htext : Parses item text a) (tail : List Char) :
    scanItems item close (n + 1) (text ++ close :: tail) = some ([a], tail) := by
  have hfollows : close = ',' ∨ close = ']' ∨ close = '}' := .inr hclose
  have hspace : ¬ IsSpace close := by rcases hclose with rfl | rfl <;> decide
  rw [scanItems, htext _ (follows_cons hfollows _)]
  simp only [skipSpace_cons hspace, if_true]

theorem starts_commaSeparated {texts : List (List Char)} (hne : texts ≠ [])
    (h : ∀ text ∈ texts, Starts text) : Starts (commaSeparated texts) := by
  cases texts with
  | nil => exact absurd rfl hne
  | cons text texts =>
      obtain ⟨c, cs, hcs, hc⟩ := h text List.mem_cons_self
      cases texts with
      | nil => exact ⟨c, cs, hcs, hc⟩
      | cons text' texts =>
          refine ⟨c, cs ++ ',' :: commaSeparated (text' :: texts), ?_, hc⟩
          show text ++ ',' :: commaSeparated (text' :: texts) = _
          rw [hcs]
          rfl

theorem starts_parts {parts : List (Part item)} (hne : parts ≠ []) :
    Starts (commaSeparated (parts.map Part.text)) := by
  refine starts_commaSeparated (by simpa using hne) fun text h => ?_
  obtain ⟨part, -, rfl⟩ := List.mem_map.mp h
  exact part.starts

theorem scanItems_parts (hclose : close = ']' ∨ close = '}') {parts : List (Part item)}
    (hne : parts ≠ []) {n : ℕ} (hn : parts.length ≤ n) (tail : List Char) :
    scanItems item close n (commaSeparated (parts.map Part.text) ++ close :: tail) =
      some (parts.map Part.value, tail) := by
  induction parts generalizing n with
  | nil => exact absurd rfl hne
  | cons part parts ih =>
      obtain ⟨n, rfl⟩ : ∃ m, n = m + 1 := ⟨n - 1, by rw [List.length_cons] at hn; omega⟩
      cases parts with
      | nil => exact scanItems_close hclose part.parses tail
      | cons part' parts =>
          have hnext : part' :: parts ≠ [] := List.cons_ne_nil _ _
          show scanItems item close (n + 1) (part.text ++
            ',' :: commaSeparated ((part' :: parts).map Part.text) ++ close :: tail) = _
          rw [List.append_assoc, List.cons_append,
            scanItems_comma hclose part.parses (starts_parts hnext),
            ih hnext (by rw [List.length_cons] at hn; omega)]
          rfl

theorem length_le_commaSeparated (parts : List (Part item)) :
    parts.length ≤ (commaSeparated (parts.map Part.text)).length := by
  induction parts with
  | nil => exact Nat.zero_le _
  | cons part parts ih =>
      obtain ⟨c, cs, htext, -⟩ := part.starts
      cases parts with
      | nil =>
          show 1 ≤ part.text.length
          rw [htext, List.length_cons]
          omega
      | cons part' parts =>
          show (part' :: parts).length + 1 ≤
            (part.text ++ ',' :: commaSeparated ((part' :: parts).map Part.text)).length
          rw [List.length_append, List.length_cons, List.length_cons]
          rw [List.length_cons] at ih
          omega

theorem scanDelimited_parts (hclose : close = ']' ∨ close = '}') (parts : List (Part item))
    (tail : List Char) :
    scanDelimited item close (commaSeparated (parts.map Part.text) ++ close :: tail) =
      some (parts.map Part.value, tail) := by
  have hspace : ¬ IsSpace close := by rcases hclose with rfl | rfl <;> decide
  by_cases hparts : parts = []
  · subst hparts
    show scanDelimited item close (close :: tail) = _
    rw [scanDelimited, skipSpace_cons hspace]
    exact if_pos rfl
  · obtain ⟨c, cs, htext, hc, hne⟩ := (starts_parts hparts).ne_close hclose
    have hlength := length_le_commaSeparated parts
    have hscan := scanItems_parts hclose hparts (n := (cs ++ close :: tail).length + 1) (by
      rw [htext, List.length_cons] at hlength
      rw [List.length_append, List.length_cons]
      omega) tail
    rw [htext, List.cons_append] at hscan ⊢
    rw [scanDelimited, skipSpace_cons hc]
    exact (if_neg hne).trans hscan

/-- The items before a text that breaks off, and what is there of that text. -/
def brokenOff (parts : List (Part item)) (text : List Char) : List Char :=
  commaSeparated (parts.map Part.text ++ [text])

theorem scanItems_brokenOff (hclose : close = ']' ∨ close = '}') (parts : List (Part item))
    (hstarts : Starts text) (hrejects : Rejects item text) (n : ℕ) (htail : Breaks tail) :
    scanItems item close n (brokenOff parts text ++ tail) = none := by
  induction parts generalizing n with
  | nil =>
      cases n with
      | zero => rfl
      | succ n =>
          show scanItems item close (n + 1) (text ++ tail) = none
          rw [scanItems, hrejects tail htail]
  | cons part parts ih =>
      cases n with
      | zero => rfl
      | succ n =>
          have hnext : Starts (brokenOff parts text) := by
            refine starts_commaSeparated (by simp) fun t ht => ?_
            rw [List.mem_append, List.mem_singleton] at ht
            rcases ht with ht | rfl
            · obtain ⟨part, -, rfl⟩ := List.mem_map.mp ht
              exact part.starts
            · exact hstarts
          have hcons : brokenOff (part :: parts) text =
              part.text ++ ',' :: brokenOff parts text := by
            cases parts <;> rfl
          rw [hcons, List.append_assoc, List.cons_append,
            scanItems_comma hclose part.parses hnext, ih]
          rfl

theorem scanDelimited_brokenOff (hclose : close = ']' ∨ close = '}') (parts : List (Part item))
    (hstarts : Starts text) (hrejects : Rejects item text) (htail : Breaks tail) :
    scanDelimited item close (brokenOff parts text ++ tail) = none := by
  have hstart : Starts (brokenOff parts text) := by
    refine starts_commaSeparated (by simp) fun t ht => ?_
    rw [List.mem_append, List.mem_singleton] at ht
    rcases ht with ht | rfl
    · obtain ⟨part, -, rfl⟩ := List.mem_map.mp ht
      exact part.starts
    · exact hstarts
  obtain ⟨c, cs, htext, hc, hne⟩ := hstart.ne_close hclose
  have hscan (n : ℕ) := scanItems_brokenOff hclose parts hstarts hrejects n htail
  rw [htext, List.cons_append] at hscan ⊢
  rw [scanDelimited, skipSpace_cons hc]
  exact (if_neg hne).trans (hscan _)

/-! ### Values -/

/-- A key with the text of its value. -/
def memberText (key text : List Char) : List Char := quoted key ++ ':' :: text

theorem starts_memberText (key text : List Char) : Starts (memberText key text) :=
  ⟨'"', escape key ++ ['"'] ++ ':' :: text, rfl, by decide, by decide, by decide⟩

theorem scanMember_memberText {key : List Char} (hkey : ∀ c ∈ key, ¬ IsControl c)
    (htext : Starts text) (tail : List Char) :
    scanMember value (memberText key text ++ tail) =
      (value (text ++ tail)).map fun r => ((codePoints key, r.1), r.2) := by
  have hquoted : memberText key text ++ tail =
      '"' :: (escape key ++ '"' :: ':' :: (text ++ tail)) := by
    simp [memberText, quoted]
  have hcolon : ¬ IsSpace ':' := by decide
  rw [hquoted, scanMember, if_pos rfl, scanString_escape hkey]
  simp only [skipSpace_cons hcolon, if_true, htext.skipSpace, joinSurrogates_codePoints]

theorem parses_member {key : List Char} {a : α} (hkey : ∀ c ∈ key, ¬ IsControl c)
    (htext : Starts text) (h : Parses value text a) :
    Parses (scanMember value) (memberText key text) (codePoints key, a) := by
  intro rest hrest
  rw [scanMember_memberText hkey htext, h rest hrest]
  rfl

theorem rejects_member {key : List Char} (hkey : ∀ c ∈ key, ¬ IsControl c) (htext : Starts text)
    (h : Rejects value text) : Rejects (scanMember value) (memberText key text) := by
  intro tail htail
  rw [scanMember_memberText hkey htext, h tail htail]
  rfl

/-- An array of some parts. -/
def arrayText {n : ℕ} (parts : List (Part (parseValue n))) : List Char :=
  '[' :: (commaSeparated (parts.map Part.text) ++ [']'])

/-- An object of some parts. -/
def objectText {n : ℕ} (parts : List (Part (scanMember (parseValue n)))) : List Char :=
  '{' :: (commaSeparated (parts.map Part.text) ++ ['}'])

theorem parseValue_array (n : ℕ) (cs : List Char) :
    parseValue (n + 1) ('[' :: cs) =
      (scanDelimited (parseValue n) ']' cs).map fun r => (.arr r.1, r.2) := by
  rw [parseValue, if_neg (by decide), if_neg (by decide), if_pos rfl]

theorem parseValue_object (n : ℕ) (cs : List Char) :
    parseValue (n + 1) ('{' :: cs) =
      (scanDelimited (scanMember (parseValue n)) '}' cs).map fun r => (.obj r.1, r.2) := by
  rw [parseValue, if_neg (by decide), if_pos rfl]

theorem parses_array {n : ℕ} (parts : List (Part (parseValue n))) :
    Parses (parseValue (n + 1)) (arrayText parts) (.arr (parts.map Part.value)) := by
  intro rest _
  rw [arrayText, List.cons_append, List.append_assoc, List.singleton_append, parseValue_array,
    scanDelimited_parts (.inl rfl)]
  rfl

theorem parses_object {n : ℕ} (parts : List (Part (scanMember (parseValue n)))) :
    Parses (parseValue (n + 1)) (objectText parts) (.obj (parts.map Part.value)) := by
  intro rest _
  rw [objectText, List.cons_append, List.append_assoc, List.singleton_append, parseValue_object,
    scanDelimited_parts (.inr rfl)]
  rfl

theorem rejects_array {n : ℕ} (parts : List (Part (parseValue n))) (htext : Starts text)
    (h : Rejects (parseValue n) text) :
    Rejects (parseValue (n + 1)) ('[' :: brokenOff parts text) := by
  intro tail htail
  rw [List.cons_append, parseValue_array, scanDelimited_brokenOff (.inl rfl) parts htext h htail]
  rfl

theorem rejects_object {n : ℕ} (parts : List (Part (scanMember (parseValue n))))
    (htext : Starts text) (h : Rejects (scanMember (parseValue n)) text) :
    Rejects (parseValue (n + 1)) ('{' :: brokenOff parts text) := by
  intro tail htail
  rw [List.cons_append, parseValue_object, scanDelimited_brokenOff (.inr rfl) parts htext h htail]
  rfl

/-! ### Parts of larger texts -/

namespace Part

/-- A string. -/
def string (n : ℕ) (s : List Char) (h : ∀ c ∈ s, ¬ IsControl c) : Part (parseValue (n + 1)) :=
  ⟨quoted s, .str (codePoints s), starts_quoted s, parses_string h n⟩

/-- An integer. -/
def int (n : ℕ) (z : ℤ) : Part (parseValue (n + 1)) :=
  ⟨intText z, .int z, starts_intText z, parses_int z n⟩

/-- An array. -/
def array {n : ℕ} (parts : List (Part (parseValue n))) : Part (parseValue (n + 1)) :=
  ⟨arrayText parts, .arr (parts.map Part.value), ⟨'[', _, rfl, by decide, by decide, by decide⟩,
    parses_array parts⟩

/-- An object. -/
def object {n : ℕ} (parts : List (Part (scanMember (parseValue n)))) : Part (parseValue (n + 1)) :=
  ⟨objectText parts, .obj (parts.map Part.value), ⟨'{', _, rfl, by decide, by decide, by decide⟩,
    parses_object parts⟩

/-- A member of an object. -/
def member {n : ℕ} (key : List Char) (hkey : ∀ c ∈ key, ¬ IsControl c)
    (part : Part (parseValue n)) : Part (scanMember (parseValue n)) :=
  ⟨memberText key part.text, (codePoints key, part.value), starts_memberText _ _,
    parses_member hkey part.starts part.parses⟩

end Part

/-- **A text that a value is parsed from is read as that value.** -/
theorem loads_of_parses {v : Json} (htext : Starts text)
    (h : Parses (parseValue text.length) text v) : loads text = some v := by
  have hskip := htext.skipSpace []
  have hvalue := h [] follows_nil
  rw [List.append_nil] at hskip hvalue
  rw [loads, hskip, hvalue]
  rfl

/-- **A text that breaks off inside a string is no JSON.** -/
theorem loads_of_rejects (htext : Starts text) (htail : Breaks tail)
    (h : Rejects (parseValue (text ++ tail).length) text) : loads (text ++ tail) = none := by
  rw [loads, htext.skipSpace, h tail htail]

end Rules

end JsonText
