import Mathlib.Data.List.Basic

namespace P2PMesh.Base
set_option autoImplicit true

section Fifo
variable {α β : Type*} {read : α → β} {sent : List β} {queue : List α}

/-- A queue holds what has been put into it and not yet been taken out, in the order in which it
was put in. -/
structure Fifo (read : α → β) (sent : List β) (taken : Nat) (queue : List α) : Prop where
  taken_le : taken ≤ sent.length
  queued : queue.map read = sent.drop taken

theorem Fifo.empty (read : α → β) : Fifo read [] 0 [] := ⟨Nat.le_refl 0, rfl⟩

theorem Fifo.put (h : Fifo read sent taken queue) (a : α) :
    Fifo read (sent ++ [read a]) taken (queue ++ [a]) where
  taken_le := by
    rw [List.length_append]
    exact Nat.le_add_right_of_le h.taken_le
  queued := by
    rw [List.map_append, h.queued, List.drop_append_of_le_length h.taken_le]
    rfl

theorem Fifo.take (h : Fifo read sent taken (a :: queue)) :
    Fifo read sent (taken + 1) queue := by
  have hqueued := h.queued
  rw [List.map_cons] at hqueued
  have hlt : taken < sent.length := by
    rw [← Nat.not_le, ← List.drop_eq_nil_iff, ← hqueued]
    exact List.cons_ne_nil _ _
  refine ⟨hlt, ?_⟩
  rw [List.drop_eq_getElem_cons hlt] at hqueued
  exact (List.cons.inj hqueued).2

theorem Fifo.putAll (h : Fifo read sent taken queue) (l : List α) :
    Fifo read (sent ++ l.map read) taken (queue ++ l) := by
  induction l generalizing sent queue with
  | nil =>
    rw [List.map_nil, List.append_nil, List.append_nil]
    exact h
  | cons a l ih =>
    rw [List.map_cons, List.append_cons, List.append_cons queue]
    exact ih (h.put a)

theorem Fifo.takeAll (h : Fifo read sent taken queue) (hn : n ≤ queue.length) :
    Fifo read sent (taken + n) (queue.drop n) := by
  induction n generalizing taken queue with
  | zero => exact h
  | succ n ih =>
    cases queue with
    | nil => cases hn
    | cons a queue =>
      have hrest := ih h.take (Nat.le_of_succ_le_succ hn)
      rw [Nat.add_right_comm] at hrest
      exact hrest

/-- What has been put in is either out or still there. -/
theorem Fifo.length (h : Fifo read sent taken queue) : sent.length = taken + queue.length := by
  have hqueued := congrArg List.length h.queued
  have hle := h.taken_le
  rw [List.length_map, List.length_drop] at hqueued
  omega

end Fifo

end P2PMesh.Base
