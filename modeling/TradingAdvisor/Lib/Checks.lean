import Mathlib.Data.List.Basic

/-!
# Ordered checks

A validated constructor runs its checks in order and raises the first one that fails.

* `check` — one check with its error;
* `check_bind_ok`, `mapM_ok_of_exists`, `mapM_ok_forall₂`, `forM_ok_iff` — when a sequence of
  checks succeeds.
-/

namespace Checks

variable {ε α β : Type}

/-- Raise `error` unless `c` holds. -/
def check (c : Prop) [Decidable c] (error : ε) : Except ε Unit :=
  if c then .ok () else .error error

instance decidableEqError (x : Except ε α) (error : ε) [DecidableEq ε] :
    Decidable (x = .error error) :=
  match x with
  | .ok _ => isFalse nofun
  | .error e => decidable_of_iff (e = error) (by simp)

@[simp] theorem check_ok_iff {c : Prop} [Decidable c] {error : ε} :
    check c error = .ok () ↔ c := by
  unfold check
  split_ifs with h <;> simp [h]

theorem bind_ok_iff {x : Except ε α} {f : α → Except ε β} {b : β} :
    x >>= f = .ok b ↔ ∃ a, x = .ok a ∧ f a = .ok b := by
  cases x <;> simp [bind, Except.bind]

theorem map_ok_iff {x : Except ε α} {f : α → β} {b : β} :
    f <$> x = .ok b ↔ ∃ a, x = .ok a ∧ f a = b := by
  cases x <;> simp [Functor.map, Except.map]

theorem bind_map {γ : Type} {x : Except ε α} {f : α → Except ε β} {g : β → γ} :
    (x >>= f).map g = x >>= fun a => (f a).map g := by
  cases x <;> rfl

theorem mapError_bind_pure {ε' : Type} {f : ε → ε'} {g : α → β} {x : Except ε α} :
    (x.mapError f >>= fun a => pure (g a)) = (x.map g).mapError f := by
  cases x <;> rfl

theorem mapError_ok_iff {ε' : Type} {f : ε → ε'} {x : Except ε α} {a : α} :
    x.mapError f = .ok a ↔ x = .ok a := by
  cases x <;> simp [Except.mapError]

theorem isOk_iff {x : Except ε α} : x.isOk = true ↔ ∃ a, x = .ok a := by
  cases x <;> simp [Except.isOk, Except.toBool]

theorem unit_bind_ok_iff {x : Except ε Unit} {f : Unit → Except ε β} {b : β} :
    x >>= f = .ok b ↔ x = .ok () ∧ f () = .ok b := by
  rw [bind_ok_iff]
  constructor
  · rintro ⟨⟨⟩, hx, hf⟩
    exact ⟨hx, hf⟩
  · rintro ⟨hx, hf⟩
    exact ⟨(), hx, hf⟩

@[simp] theorem check_bind_ok {c : Prop} [Decidable c] {error : ε} {f : Unit → Except ε β}
    {b : β} : (check c error >>= f) = .ok b ↔ c ∧ f () = .ok b := by
  rw [unit_bind_ok_iff, check_ok_iff]

theorem check_bind_of_not {c : Prop} [Decidable c] {error : ε} {f : Unit → Except ε β}
    (h : ¬ c) : (check c error >>= f) = .error error := by
  simp [check, h, bind, Except.bind]

theorem mapM_ok_of_forall {f : α → Except ε β} {g : α → β} {l : List α}
    (h : ∀ a ∈ l, f a = .ok (g a)) : l.mapM f = .ok (l.map g) := by
  induction l with
  | nil => rfl
  | cons a l ih =>
      rw [List.mapM_cons, h a List.mem_cons_self,
        ih fun b hb => h b (List.mem_cons_of_mem _ hb)]
      rfl

theorem mapM_ok_of_exists {f : α → Except ε β} {l : List α}
    (h : ∀ a ∈ l, ∃ b, f a = .ok b) : ∃ bs, l.mapM f = .ok bs := by
  induction l with
  | nil => exact ⟨[], rfl⟩
  | cons a l ih =>
      obtain ⟨ha, hl⟩ := List.forall_mem_cons.mp h
      obtain ⟨b, hb⟩ := ha
      obtain ⟨bs, hbs⟩ := ih hl
      exact ⟨b :: bs, by rw [List.mapM_cons, hb, hbs]; rfl⟩

theorem mapM_ok_forall₂ {f : α → Except ε β} {l : List α} {l' : List β}
    (h : l.mapM f = .ok l') : List.Forall₂ (fun a b => f a = .ok b) l l' := by
  induction l generalizing l' with
  | nil =>
      cases h
      exact .nil
  | cons a l ih =>
      rw [List.mapM_cons, bind_ok_iff] at h
      obtain ⟨b, hb, h⟩ := h
      obtain ⟨bs, hbs, h⟩ := bind_ok_iff.mp h
      cases h
      exact .cons hb (ih hbs)

theorem mapM_append_ok_iff {f : α → Except ε β} {l₁ l₂ : List α} {bs : List β} :
    (l₁ ++ l₂).mapM f = .ok bs ↔
      ∃ bs₁ bs₂, l₁.mapM f = .ok bs₁ ∧ l₂.mapM f = .ok bs₂ ∧ bs₁ ++ bs₂ = bs := by
  rw [List.mapM_append, bind_ok_iff]
  constructor
  · rintro ⟨bs₁, h₁, h⟩
    obtain ⟨bs₂, h₂, h⟩ := bind_ok_iff.mp h
    cases h
    exact ⟨bs₁, bs₂, h₁, h₂, rfl⟩
  · rintro ⟨bs₁, bs₂, h₁, h₂, rfl⟩
    exact ⟨bs₁, h₁, bind_ok_iff.mpr ⟨bs₂, h₂, rfl⟩⟩

theorem mapM_congr {f g : α → Except ε β} {l : List α} (h : ∀ a ∈ l, f a = g a) :
    l.mapM f = l.mapM g := by
  induction l with
  | nil => rfl
  | cons a l ih =>
      rw [List.mapM_cons, List.mapM_cons, h a List.mem_cons_self,
        ih fun b hb => h b (List.mem_cons_of_mem _ hb)]

theorem mapM_map_ok {γ : Type} {f : α → Except ε β} {g : β → γ} {l : List α} :
    l.mapM (fun a => (f a).map g) = (l.mapM f).map (List.map g) := by
  induction l with
  | nil => rfl
  | cons a l ih =>
      rw [List.mapM_cons, List.mapM_cons, ih]
      cases f a with
      | error e => rfl
      | ok b => cases l.mapM f <;> rfl

theorem exists_of_mem_right {r : α → β → Prop} {l : List α} {l' : List β} {b : β}
    (h : List.Forall₂ r l l') (hb : b ∈ l') : ∃ a ∈ l, r a b := by
  induction h with
  | nil => cases hb
  | cons ha _ ih =>
      rcases List.mem_cons.mp hb with rfl | hb
      · exact ⟨_, List.mem_cons_self, ha⟩
      · obtain ⟨a, hmem, ha⟩ := ih hb
        exact ⟨a, List.mem_cons_of_mem _ hmem, ha⟩

theorem exists_of_mem_left {r : α → β → Prop} {l : List α} {l' : List β} {a : α}
    (h : List.Forall₂ r l l') (ha : a ∈ l) : ∃ b ∈ l', r a b := by
  induction h with
  | nil => cases ha
  | cons hb _ ih =>
      rcases List.mem_cons.mp ha with rfl | ha
      · exact ⟨_, List.mem_cons_self, hb⟩
      · obtain ⟨b, hmem, hb⟩ := ih ha
        exact ⟨b, List.mem_cons_of_mem _ hmem, hb⟩

theorem map_eq_of_forall₂ {κ : Type} {r : α → β → Prop} {key : α → κ} {key' : β → κ} {l : List α}
    {l' : List β} (h : List.Forall₂ r l l') (hkey : ∀ a b, r a b → key' b = key a) :
    l'.map key' = l.map key := by
  induction h with
  | nil => rfl
  | cons hr _ ih => rw [List.map_cons, List.map_cons, hkey _ _ hr, ih]

theorem exists_of_mem_mapM {f : α → Except ε β} {l : List α} {l' : List β} {b : β}
    (h : l.mapM f = .ok l') (hb : b ∈ l') : ∃ a ∈ l, f a = .ok b :=
  exists_of_mem_right (r := fun a b => f a = .ok b) (mapM_ok_forall₂ h) hb

theorem forM_ok_iff {f : α → Except ε Unit} {l : List α} :
    forM l f = .ok () ↔ ∀ a ∈ l, f a = .ok () := by
  induction l with
  | nil => simp [pure, Except.pure]
  | cons a l ih =>
      rw [List.forM_cons, unit_bind_ok_iff, ih, List.forall_mem_cons]

end Checks
