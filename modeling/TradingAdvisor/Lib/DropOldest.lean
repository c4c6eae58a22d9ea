import Mathlib.Data.List.Perm.Basic

/-!
# Queues that drop their oldest items

A bounded queue takes an item when it is full, too, and drops its oldest one. What was put in is
what was taken out, what still waits and what was dropped; the first two keep the order.

* `Accounts` — the books of such a queue;
* `Accounts.step` — **one put or one get keeps them**;
* `Accounts.complete`, `Accounts.filter` — nothing is missing when nothing was dropped; some of the
  items.
-/

namespace DropOldest

variable {α : Type*} {put got lost queue new dropped taken queue' : List α}

/-- What was put into a queue, taken from it and dropped by it, and what waits. -/
structure Accounts (put got lost queue : List α) : Prop where
  /-- Items come out in the order in which they went in. -/
  sublist : List.Sublist (got ++ queue) put
  /-- Exactly the dropped items are missing. -/
  perm : (got ++ queue ++ lost).Perm put

theorem accounts_nil : Accounts ([] : List α) [] [] [] := ⟨.slnil, .nil⟩

/-- A put may drop items from the front, a get takes them. -/
theorem Accounts.step (h : Accounts put got lost queue)
    (hqueue : queue ++ new = dropped ++ taken ++ queue') :
    Accounts (put ++ new) (got ++ taken) (lost ++ dropped) queue' := by
  constructor
  · have hall : List.Sublist (got ++ (taken ++ queue')) (got ++ (queue ++ new)) := by
      rw [hqueue, List.append_assoc dropped]
      exact (List.sublist_append_right dropped _).append_left got
    calc List.Sublist (got ++ taken ++ queue') (got ++ queue ++ new) := by
          rwa [List.append_assoc, List.append_assoc]
      List.Sublist _ (put ++ new) := h.sublist.append_right new
  · calc (got ++ taken ++ queue' ++ (lost ++ dropped)).Perm
          (got ++ (dropped ++ taken ++ queue') ++ lost) := by
          classical
          rw [List.perm_iff_count]
          intro a
          simp only [List.count_append]
          omega
      _ = got ++ queue ++ new ++ lost := by
          rw [← hqueue, ← List.append_assoc got]
      List.Perm _ (got ++ queue ++ lost ++ new) := by
          rw [List.append_assoc _ new, List.append_assoc _ lost]
          exact List.perm_append_comm.append_left _
      List.Perm _ (put ++ new) := h.perm.append_right new

theorem Accounts.complete (h : Accounts put got [] queue) : got ++ queue = put := by
  have hlength := h.perm.length_eq
  rw [List.append_nil] at hlength
  exact h.sublist.eq_of_length hlength

theorem Accounts.filter (h : Accounts put got lost queue) (p : α → Bool) :
    Accounts (put.filter p) (got.filter p) (lost.filter p) (queue.filter p) := by
  constructor
  · rw [← List.filter_append]
    exact h.sublist.filter p
  · rw [← List.filter_append, ← List.filter_append]
    exact h.perm.filter p

end DropOldest
