import TradingAdvisor.Core.Base
import TradingAdvisor.Lib.Digits

/-!
# Civil time

The date of a day in the Gregorian calendar, and the texts of points in time. A year starts in
March here, so that the leap day is the last of its year, its four years, its century or its four
centuries.

* `civilDate`, `daysFromCivil` — from a day to its date and back;
* **`daysFromCivil_civilDate`**: the date determines the day;
* `isoformat`, `IsoReader` — the ISO 8601 text of a time, and a reader that undoes it;
* `IsoReader.extended` — such a reader.
-/

namespace TradingAdvisor

open DecimalDigits

/-- The civil date of a day since 1970: year, month and day of the month. -/
def civilDate (day : ℕ) : ℕ × ℕ × ℕ :=
  let era := (day + 719468) / 146097
  let dayOfEra := (day + 719468) % 146097
  let century := min (dayOfEra / 36524) 3
  let dayOfCentury := dayOfEra - 36524 * century
  let yearOfFour := min (dayOfCentury % 1461 / 365) 3
  let dayOfYear := dayOfCentury % 1461 - 365 * yearOfFour
  let year := 400 * era + 100 * century + 4 * (dayOfCentury / 1461) + yearOfFour
  let month := (5 * dayOfYear + 2) / 153
  (if month < 10 then year else year + 1, if month < 10 then month + 3 else month - 9,
    dayOfYear - (153 * month + 2) / 5 + 1)

/-- The day since 1970 of a civil date. -/
def daysFromCivil (date : ℕ × ℕ × ℕ) : ℕ :=
  let year := if date.2.1 ≤ 2 then date.1 - 1 else date.1
  let month := if date.2.1 ≤ 2 then date.2.1 + 9 else date.2.1 - 3
  146097 * (year / 400) + 36524 * (year % 400 / 100) + 1461 * (year % 100 / 4) + 365 * (year % 4) +
    ((153 * month + 2) / 5 + date.2.2 - 1) - 719468

/-- A year falls apart into its centuries, its fours and the years after them. -/
theorem year_parts {era century four one : ℕ} (hcentury : century ≤ 3) (hfour : four ≤ 24)
    (hone : one ≤ 3) :
    (400 * era + 100 * century + 4 * four + one) / 400 = era ∧
      (400 * era + 100 * century + 4 * four + one) % 400 / 100 = century ∧
      (400 * era + 100 * century + 4 * four + one) % 100 / 4 = four ∧
      (400 * era + 100 * century + 4 * four + one) % 4 = one := by
  refine ⟨?_, ?_, ?_, ?_⟩ <;> omega

/-- **The date determines the day.** -/
theorem daysFromCivil_civilDate (day : ℕ) : daysFromCivil (civilDate day) = day := by
  dsimp only [civilDate]
  generalize hera : (day + 719468) / 146097 = era
  generalize hdayOfEra : (day + 719468) % 146097 = dayOfEra
  generalize hcentury : min (dayOfEra / 36524) 3 = century
  generalize hdayOfCentury : dayOfEra - 36524 * century = dayOfCentury
  generalize hyear : min (dayOfCentury % 1461 / 365) 3 = yearOfFour
  generalize hdayOfYear : dayOfCentury % 1461 - 365 * yearOfFour = dayOfYear
  have hday : day + 719468 = 146097 * era + dayOfEra := by omega
  have hera' : dayOfEra = 36524 * century + dayOfCentury := by omega
  have hfour : dayOfCentury / 1461 ≤ 24 := by omega
  have hyear' : dayOfCentury % 1461 = 365 * yearOfFour + dayOfYear := by omega
  have hdayOfYear' : dayOfYear ≤ 365 := by omega
  have hbounds : century ≤ 3 ∧ yearOfFour ≤ 3 := by omega
  have hmonth : (5 * dayOfYear + 2) / 153 ≤ 11 := by omega
  have hlast : (153 * ((5 * dayOfYear + 2) / 153) + 2) / 5 ≤ dayOfYear := by omega
  clear hera hdayOfEra hcentury hdayOfCentury hyear hdayOfYear
  have hsplit : dayOfCentury = 1461 * (dayOfCentury / 1461) + (365 * yearOfFour + dayOfYear) := by
    omega
  generalize dayOfCentury / 1461 = four at *
  generalize (5 * dayOfYear + 2) / 153 = month at *
  obtain ⟨hera, hcentury, hfour', hone⟩ := year_parts hbounds.1 hfour hbounds.2
  by_cases hspring : month < 10
  · rw [if_pos hspring, if_pos hspring]
    dsimp only [daysFromCivil]
    rw [if_neg (by omega), if_neg (by omega), hera, hcentury, hfour', hone, Nat.add_sub_cancel]
    omega
  · rw [if_neg hspring, if_neg hspring]
    dsimp only [daysFromCivil]
    rw [if_pos (by omega), if_pos (by omega), Nat.add_sub_cancel, hera, hcentury, hfour', hone,
      Nat.sub_add_cancel (by omega)]
    omega

/-! ## Texts -/

/-- A time in seconds, with the given separators of its date and between its date and its time of
day. -/
def timeText (dateSeparator separator : Char) (t : ℕ) : List Char :=
  let date := civilDate (t / 86400)
  padded 4 date.1 ++ dateSeparator :: (padded 2 date.2.1 ++ dateSeparator ::
    (padded 2 date.2.2 ++ separator :: (padded 2 (t / 3600 % 24) ++ ':' ::
      (padded 2 (t / 60 % 60) ++ ':' :: padded 2 (t % 60)))))

/-- The ISO 8601 text of a time without a zone. -/
def isoformat (t : ℕ) : List Char := timeText '-' 'T' t

/-! ## Reading -/

/-- What an ISO 8601 text stands for: a wall time, or an instant; both in microseconds. -/
inductive IsoDatetime
  | naive (wall : ℤ)
  | aware (instant : Timestamp)
  deriving DecidableEq, Repr

/-- The first second of the year 10000. -/
def maxIsoSeconds : ℕ := 253402300800

/-- A reader of ISO 8601 texts: it undoes `isoformat`, and takes a final `Z` for UTC. -/
structure IsoReader where
  fromisoformat : List ℕ → Option IsoDatetime
  naive_eq : ∀ t < maxIsoSeconds,
    fromisoformat ((isoformat t).map Char.toNat) = some (.naive (t * 1000000))
  utc_eq : ∀ t < maxIsoSeconds,
    fromisoformat ((isoformat t ++ ['Z']).map Char.toNat) = some (.aware (t * 1000000))

/-- Read exactly so many digits. -/
def readDigits (value : ℕ) : ℕ → List ℕ → Option (ℕ × List ℕ)
  | 0, cs => some (value, cs)
  | _ + 1, [] => none
  | width + 1, c :: cs =>
      if 48 ≤ c ∧ c ≤ 57 then readDigits (10 * value + (c - 48)) width cs else none

/-- Read one separator. -/
def readSeparator (c : Char) : List ℕ → Option (List ℕ)
  | [] => none
  | d :: cs => if d = c.toNat then some cs else none

/-- Read a text in the extended format to the second. -/
def readExtended (cs : List ℕ) : Option IsoDatetime := do
  let (year, cs) ← readDigits 0 4 cs
  let cs ← readSeparator '-' cs
  let (month, cs) ← readDigits 0 2 cs
  let cs ← readSeparator '-' cs
  let (day, cs) ← readDigits 0 2 cs
  let cs ← readSeparator 'T' cs
  let (hour, cs) ← readDigits 0 2 cs
  let cs ← readSeparator ':' cs
  let (minute, cs) ← readDigits 0 2 cs
  let cs ← readSeparator ':' cs
  let (second, cs) ← readDigits 0 2 cs
  let seconds := daysFromCivil (year, month, day) * 86400 + hour * 3600 + minute * 60 + second
  if cs = [] then some (.naive (seconds * 1000000))
  else if cs = ['Z'.toNat] then some (.aware (seconds * 1000000))
  else none

theorem readDigits_digits {ds : List Char} (hds : ∀ c ∈ ds, c.isDigit = true) (value : ℕ)
    (rest : List ℕ) :
    readDigits value ds.length (ds.map Char.toNat ++ rest) =
      some (Nat.ofDigitChars 10 ds value, rest) := by
  induction ds generalizing value with
  | nil => rfl
  | cons c ds ih =>
      rw [List.forall_mem_cons] at hds
      have hc : 48 ≤ c.toNat ∧ c.toNat ≤ 57 := by
        simpa [Char.isDigit, Char.le_def, UInt32.le_iff_toNat_le] using hds.1
      rw [List.length_cons, List.map_cons, List.cons_append, readDigits, if_pos hc, ih hds.2,
        Nat.ofDigitChars_cons]
      rfl

theorem readDigits_padded {width n : ℕ} (hwidth : 0 < width) (h : n < 10 ^ width) (rest : List ℕ) :
    readDigits 0 width ((padded width n).map Char.toNat ++ rest) = some (n, rest) := by
  have hread := readDigits_digits
    (fun _ hc => isDigit_of_mem_padded hc : ∀ c ∈ padded width n, c.isDigit = true) 0 rest
  rw [length_padded hwidth h, ofDigitChars_padded] at hread
  exact hread

theorem readSeparator_cons (c : Char) (rest : List ℕ) :
    readSeparator c (c.toNat :: rest) = some rest :=
  if_pos rfl

theorem civilDate_lt {day : ℕ} (h : day < 2932897) :
    (civilDate day).1 < 10 ^ 4 ∧ (civilDate day).2.1 < 10 ^ 2 ∧ (civilDate day).2.2 < 10 ^ 2 := by
  dsimp only [civilDate]
  refine ⟨?_, ?_, ?_⟩
  · split_ifs <;> omega
  · split_ifs <;> omega
  · omega

/-- What is read of the fields of a time, with whatever follows them. -/
theorem readExtended_fields {year month day hour minute second : ℕ} (hyear : year < 10 ^ 4)
    (hmonth : month < 10 ^ 2) (hday : day < 10 ^ 2) (hhour : hour < 10 ^ 2)
    (hminute : minute < 10 ^ 2) (hsecond : second < 10 ^ 2) (rest : List ℕ) :
    readExtended ((padded 4 year ++ '-' :: (padded 2 month ++ '-' :: (padded 2 day ++ 'T' ::
      (padded 2 hour ++ ':' :: (padded 2 minute ++ ':' :: padded 2 second))))).map Char.toNat ++
        rest) =
      let seconds := daysFromCivil (year, month, day) * 86400 + hour * 3600 + minute * 60 + second
      if rest = [] then some (.naive (seconds * 1000000))
      else if rest = ['Z'.toNat] then some (.aware (seconds * 1000000))
      else none := by
  simp only [readExtended, List.map_append, List.map_cons, List.append_assoc, List.cons_append,
    Option.bind_eq_bind, Option.bind_some, readSeparator_cons,
    readDigits_padded (by decide : 0 < 4) hyear, readDigits_padded (by decide : 0 < 2) hmonth,
    readDigits_padded (by decide : 0 < 2) hday, readDigits_padded (by decide : 0 < 2) hhour,
    readDigits_padded (by decide : 0 < 2) hminute, readDigits_padded (by decide : 0 < 2) hsecond,
    -Char.reduceToNat]

theorem readExtended_isoformat {t : ℕ} (ht : t < maxIsoSeconds) (rest : List ℕ) :
    readExtended ((isoformat t).map Char.toNat ++ rest) =
      if rest = [] then some (.naive (t * 1000000))
      else if rest = ['Z'.toNat] then some (.aware (t * 1000000))
      else none := by
  have hday : t / 86400 < 2932897 := by
    rw [maxIsoSeconds] at ht
    omega
  obtain ⟨hyear, hmonth, hday⟩ := civilDate_lt hday
  have hseconds : t / 86400 * 86400 + t / 3600 % 24 * 3600 + t / 60 % 60 * 60 + t % 60 = t := by
    omega
  have hhour : t / 3600 % 24 < 10 ^ 2 := by omega
  have hminute : t / 60 % 60 < 10 ^ 2 := by omega
  have hsecond : t % 60 < 10 ^ 2 := by omega
  have hread := readExtended_fields hyear hmonth hday hhour hminute hsecond rest
  dsimp only at hread
  rw [show daysFromCivil ((civilDate (t / 86400)).1, (civilDate (t / 86400)).2.1,
    (civilDate (t / 86400)).2.2) = t / 86400 from daysFromCivil_civilDate _, hseconds] at hread
  exact hread

/-- The reader of the extended format. -/
def IsoReader.extended : IsoReader where
  fromisoformat := readExtended
  naive_eq t ht := by
    have hread := readExtended_isoformat ht []
    rwa [List.append_nil, if_pos rfl] at hread
  utc_eq t ht := by
    rw [List.map_append, readExtended_isoformat ht, if_neg (by decide)]
    exact if_pos rfl

end TradingAdvisor
