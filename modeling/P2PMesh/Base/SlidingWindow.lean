import Mathlib.Data.List.Basic
import Mathlib.Data.List.Count

namespace P2PMesh.Base
set_option autoImplicit true

/-- Whether an instant is in the window of some width that begins at a time. -/
def inWindow (width start t : Nat) : Bool := start ≤ t ∧ t < start + width

/-- Whether a window of some width has room for both instants. -/
def nearBy (width s t : Nat) : Bool := s < t + width ∧ t < s + width

/-- No window has more than so many of the instants. -/
def AtMost (width limit : Nat) (instants : List Nat) : Prop :=
  ∀ start, instants.countP (inWindow width start) ≤ limit

section Windows
variable {width limit : Nat} {instants instants' : List Nat}

theorem AtMost.nil (width limit : Nat) : AtMost width limit [] := fun _ => Nat.zero_le limit

theorem AtMost.mono (h : AtMost width limit instants)
    (hle : ∀ q, instants'.countP q ≤ instants.countP q) : AtMost width limit instants' :=
  fun start => Nat.le_trans (hle _) (h start)

theorem nearBy_of_inWindow (hs : inWindow width start s = true)
    (ht : inWindow width start t = true) : nearBy width s t = true := by
  simp only [inWindow, decide_eq_true_eq] at hs ht
  simp only [nearBy, decide_eq_true_eq]
  omega

theorem AtMost.cons (h : AtMost width limit instants)
    (hroom : instants.countP (nearBy width t) < limit) : AtMost width limit (t :: instants) := by
  intro start
  rw [List.countP_cons]
  split
  · next ht =>
    have hnear : instants.countP (inWindow width start) ≤ instants.countP (nearBy width t) :=
      List.countP_mono_left (fun _ _ hs => nearBy_of_inWindow ht hs)
    omega
  · exact h start

theorem length_le_diff_add [DecidableEq α] (l l' : List α) :
    l.length ≤ (l.diff l').length + l'.length := by
  induction l' generalizing l with
  | nil => simp only [List.diff_nil, List.length_nil, Nat.add_zero, Nat.le_refl]
  | cons a l' ih =>
    have herase := ih (l.erase a)
    have hlength := List.le_length_erase (a := a) (l := l)
    rw [List.diff_cons, List.length_cons]
    omega

theorem countP_nearBy_le (t : Nat) (entries : List Nat) :
    instants.countP (nearBy width t) ≤
      ((instants.filter (nearBy width t)).diff entries).length + entries.length := by
  rw [List.countP_eq_length_filter]
  exact length_le_diff_add _ _

end Windows

end P2PMesh.Base
