import Mathlib.Data.List.Basic

namespace P2PMesh.Base
set_option autoImplicit true

/-- An instant falls into a window of some width, or opens the next one if it comes after it. -/
def nextWindow (width : Nat) (window : List Nat) (t : Nat) : List Nat :=
  match window with
  | [] => [t]
  | start :: rest => if start + width < t then [t] else start :: rest ++ [t]

/-- The instants of the window that is open at the end. -/
def currentWindow (width : Nat) (instants : List Nat) : List Nat :=
  instants.foldl (nextWindow width) []

section Opened
variable {width : Nat} {window instants : List Nat} {t : Nat}

theorem currentWindow_concat (width : Nat) (instants : List Nat) (t : Nat) :
    currentWindow width (instants ++ [t]) = nextWindow width (currentWindow width instants) t := by
  rw [currentWindow, List.foldl_append]
  rfl

/-- The window that an instant is to fall into is over, if there is one. -/
def WindowOver (width : Nat) (window : List Nat) (t : Nat) : Prop :=
  ∀ start ∈ window.head?, start + width < t

theorem nextWindow_over (h : WindowOver width window t) : nextWindow width window t = [t] := by
  cases window with
  | nil => rfl
  | cons start rest => exact if_pos (h start rfl)

theorem nextWindow_cons {start : Nat} {rest : List Nat} (h : ¬ start + width < t) :
    nextWindow width (start :: rest) t = start :: rest ++ [t] :=
  if_neg h

end Opened

end P2PMesh.Base
