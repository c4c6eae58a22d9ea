import Mathlib.Data.List.Sort
import Mathlib.Data.PNat.Defs

/-!
# Bounded logs of revised records

A log keeps the records that were added last, oldest first. A record has a key, content and may be
settled; a key may be recorded again while it is not settled, with other content.

* `Buffer` — a ring that drops its oldest record on overflow;
* `Rules`, `Rules.record` — a record is rejected when it repeats, contradicts or reverts another
  one of its key;
* `Rules.Precedes`, `record_pairwise`, `run_pairwise` — **what holds between a retained record and
  a later one, whatever was dropped**;
* `latest_of_settled` — **the settled record of the highest rank is the latest one.**
-/

namespace RevisionLog

/-! ## The ring -/

/-- The last `maxlen` records added, oldest first, and the number dropped. -/
structure Buffer (α : Type*) where
  maxlen : ℕ+
  items : List α
  droppedCount : ℕ
  bounded : items.length ≤ maxlen

namespace Buffer

variable {α : Type*}

/-- A ring without records. -/
def empty (maxlen : ℕ+) : Buffer α := ⟨maxlen, [], 0, Nat.zero_le _⟩

/-- Add a record; a full ring drops its oldest one. -/
def append (buffer : Buffer α) (x : α) : Buffer α :=
  if h : buffer.items.length = buffer.maxlen then
    { buffer with
      items := buffer.items.tail ++ [x]
      droppedCount := buffer.droppedCount + 1
      bounded := by
        have := buffer.maxlen.pos
        simp only [List.length_append, List.length_tail, List.length_singleton]
        omega }
  else
    { buffer with
      items := buffer.items ++ [x]
      bounded := by
        have := buffer.bounded
        simp only [List.length_append, List.length_singleton]
        omega }

theorem append_items_sublist (buffer : Buffer α) (x : α) :
    (buffer.append x).items.Sublist (buffer.items ++ [x]) := by
  unfold append
  split_ifs
  · exact (List.tail_sublist _).append_right _
  · exact List.Sublist.refl _

end Buffer

/-! ## Records that are revised -/

/-- What a record is about, what it says, and whether that is final. -/
structure Rules (α κ φ : Type*) where
  key : α → κ
  fingerprint : α → φ
  settled : α → Bool

/-- Why a record is rejected. -/
inductive Rejection (κ : Type*)
  | regression (key : κ)
  | duplicate (key : κ)
  | conflict (key : κ)
  deriving DecidableEq

namespace Rules

variable {α κ φ : Type*} [DecidableEq κ] [DecidableEq φ] (rules : Rules α κ φ)

/-- Why one retained record of the key rejects a new record. -/
def objection (x existing : α) : Option (Rejection κ) :=
  if rules.fingerprint existing = rules.fingerprint x then some (.duplicate (rules.key x))
  else if rules.settled x ∧ rules.settled existing then some (.conflict (rules.key x))
  else none

/-- Why a record is rejected. -/
def rejection (buffer : Buffer α) (x : α) : Option (Rejection κ) :=
  let existing := buffer.items.filter fun a => rules.key a = rules.key x
  if ¬ rules.settled x ∧ existing.any rules.settled then some (.regression (rules.key x))
  else existing.findSome? (rules.objection x)

/-- Add a record, or reject it. -/
def record (buffer : Buffer α) (x : α) : Buffer α × Option (Rejection κ) :=
  match rules.rejection buffer x with
  | none => (buffer.append x, none)
  | some why => (buffer, some why)

/-- The log after some records, accepted or not. -/
def run (buffer : Buffer α) (xs : List α) : Buffer α :=
  xs.foldl (fun buffer x => (rules.record buffer x).1) buffer

/-- A record may be followed by another: one of the same key has other content, and the earlier one
is not settled. -/
def Precedes (a b : α) : Prop :=
  rules.key a = rules.key b →
    rules.fingerprint a ≠ rules.fingerprint b ∧ rules.settled a = false

variable {rules} {buffer : Buffer α} {a x : α} {why : Rejection κ}

/-- **A rejected record changes nothing.** -/
theorem record_of_rejection (h : (rules.record buffer x).2 = some why) :
    (rules.record buffer x).1 = buffer := by
  unfold record at h ⊢
  cases hrejection : rules.rejection buffer x with
  | none =>
      rw [hrejection] at h
      cases h
  | some why => rfl

theorem precedes_of_accepted (h : rules.rejection buffer x = none) (ha : a ∈ buffer.items) :
    rules.Precedes a x := by
  intro hkey
  have hmem : a ∈ buffer.items.filter fun a => rules.key a = rules.key x :=
    List.mem_filter.mpr ⟨ha, decide_eq_true hkey⟩
  unfold rejection at h
  dsimp only at h
  split_ifs at h with hregression
  have hobjection := List.findSome?_eq_none_iff.mp h a hmem
  unfold objection at hobjection
  split_ifs at hobjection with hsame hconflict
  refine ⟨hsame, Bool.eq_false_iff.mpr fun hsettled => ?_⟩
  -- a settled record rejects an unsettled one as a regression, and a settled one as a conflict
  by_cases hx : rules.settled x
  · exact hconflict ⟨hx, hsettled⟩
  · exact hregression ⟨hx, List.any_eq_true.mpr ⟨a, hmem, hsettled⟩⟩

/-! ## Runs -/

theorem record_pairwise (h : buffer.items.Pairwise rules.Precedes) :
    (rules.record buffer x).1.items.Pairwise rules.Precedes := by
  unfold record
  cases hrejection : rules.rejection buffer x with
  | some why => exact h
  | none =>
      refine List.Pairwise.sublist (buffer.append_items_sublist x) (List.pairwise_append.mpr
        ⟨h, List.pairwise_singleton _ _, fun a ha b hb => ?_⟩)
      rw [List.mem_singleton.mp hb]
      exact precedes_of_accepted hrejection ha

/-- **Retained records may follow one another**, whatever was dropped in between. -/
theorem run_pairwise (xs : List α) (h : buffer.items.Pairwise rules.Precedes) :
    (rules.run buffer xs).items.Pairwise rules.Precedes := by
  induction xs generalizing buffer with
  | nil => exact h
  | cons x xs ih => exact ih (record_pairwise h)

theorem run_empty_pairwise (maxlen : ℕ+) (xs : List α) :
    (rules.run (.empty maxlen) xs).items.Pairwise rules.Precedes :=
  run_pairwise xs List.Pairwise.nil

end Rules

/-! ## The latest record -/

section Latest

variable {α ρ : Type*} [LinearOrder ρ] {rank : α → ρ} {a : α} {pre post : List α}

/-- The records of a series in ascending rank; those of one rank as they were added. -/
def ranked (rank : α → ρ) (l : List α) : List α := l.insertionSort fun a b => rank a ≤ rank b

theorem getLast?_orderedInsert_of_le {x : α} {l : List α} (hl : l.getLast? = some a)
    (h : rank x ≤ rank a) :
    (l.orderedInsert (fun a b => rank a ≤ rank b) x).getLast? = some a := by
  induction l with
  | nil => cases hl
  | cons b l ih =>
      rw [List.orderedInsert_cons]
      split_ifs with hxb
      · rw [List.getLast?_cons_cons, hl]
      · cases l with
        | nil =>
            cases hl
            exact absurd h hxb
        | cons c l =>
            rw [List.getLast?_cons_cons] at hl
            have hne : (c :: l).orderedInsert (fun a b => rank a ≤ rank b) x ≠ [] :=
              List.ne_nil_of_mem ((List.mem_orderedInsert _).mpr (.inl rfl))
            obtain ⟨y, ys, hys⟩ := List.exists_cons_of_ne_nil hne
            have hlast := ih hl
            rw [hys] at hlast ⊢
            rwa [List.getLast?_cons_cons]

theorem orderedInsert_of_forall_lt {l : List α} (h : ∀ b ∈ l, rank b < rank a) :
    l.orderedInsert (fun a b => rank a ≤ rank b) a = l ++ [a] := by
  induction l with
  | nil => rfl
  | cons b l ih =>
      obtain ⟨hb, hl⟩ := List.forall_mem_cons.mp h
      rw [List.orderedInsert_cons, if_neg hb.not_ge, ih hl, List.cons_append]

/-- A record that no later one reaches in rank, and no earlier one exceeds, is the last one. -/
theorem getLast?_ranked (hpre : ∀ b ∈ pre, rank b ≤ rank a) (hpost : ∀ b ∈ post, rank b < rank a) :
    (ranked rank (pre ++ a :: post)).getLast? = some a := by
  induction pre with
  | nil =>
      have hsorted : ∀ b ∈ ranked rank post, rank b < rank a := fun b hb =>
        hpost b ((List.mem_insertionSort _).mp hb)
      show (List.orderedInsert _ a (ranked rank post)).getLast? = some a
      rw [orderedInsert_of_forall_lt hsorted, List.getLast?_concat]
  | cons b pre ih =>
      obtain ⟨hb, hpre⟩ := List.forall_mem_cons.mp hpre
      exact getLast?_orderedInsert_of_le (ih hpre) hb

/-- **The settled record of the highest rank is the latest one** of its series. -/
theorem latest_of_settled {κ φ : Type*} {rules : Rules α κ φ} {items : List α} {q : α → Bool}
    (hitems : items.Pairwise rules.Precedes)
    (hrank : ∀ a b, q a → q b → (rank a = rank b ↔ rules.key a = rules.key b))
    (ha : a ∈ items) (hq : q a) (hsettled : rules.settled a)
    (hmax : ∀ b ∈ items, q b → rank b ≤ rank a) :
    (ranked rank (items.filter q)).getLast? = some a := by
  obtain ⟨pre, post, hsplit⟩ := List.mem_iff_append.mp (List.mem_filter.mpr ⟨ha, hq⟩)
  have hmem : ∀ b ∈ pre ++ a :: post, b ∈ items ∧ q b := fun b hb =>
    List.mem_filter.mp (hsplit ▸ hb)
  have hpairwise := hsplit ▸ hitems.filter q
  rw [hsplit]
  refine getLast?_ranked (fun b hb => ?_) fun b hb => ?_
  · obtain ⟨hb, hqb⟩ := hmem b (List.mem_append_left _ hb)
    exact hmax b hb hqb
  · obtain ⟨hbitems, hqb⟩ := hmem b (List.mem_append_right _ (List.mem_cons_of_mem _ hb))
    refine lt_of_le_of_ne (hmax b hbitems hqb) fun heq => ?_
    -- a later record of the same key would have to follow a settled one
    have hprecedes := (List.pairwise_cons.mp (List.pairwise_append.mp hpairwise).2.1).1 b hb
    have hkey := (hrank a b hq hqb).mp heq.symm
    rw [(hprecedes hkey).2] at hsettled
    cases hsettled

end Latest

end RevisionLog
