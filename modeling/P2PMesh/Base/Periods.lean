import Mathlib.Algebra.BigOperators.Group.List.Basic
import Mathlib.Order.Lattice

namespace P2PMesh.Base.Periods
set_option autoImplicit true

section Periods
variable {α τ M : Type*} [LinearOrder τ] [AddCommMonoid M]

/-- A stamp lies in a period, to which both of its ends belong. -/
def within (a b : τ) (stamp : Option τ) : Bool := stamp.any (fun t => a ≤ t ∧ t ≤ b)

/-- The values of the elements that are stamped in a period, summed up. -/
def total (stamp : α → Option τ) (value : α → M) (l : List α) (a b : τ) : M :=
  ((l.filter (fun x => within a b (stamp x))).map value).sum

variable {stamp : α → Option τ} {value : α → M} {l : List α} {a b c z : τ}

theorem total_cons (x : α) (l : List α) (a b : τ) : total stamp value (x :: l) a b =
    (if within a b (stamp x) then value x else 0) + total stamp value l a b := by
  rw [total, List.filter_cons]
  split
  · rw [List.map_cons, List.sum_cons]
    rfl
  · rw [zero_add]
    rfl

/-- An element counts in one of two consecutive periods as it does in both together, and once more
if it is stamped at the end that they share. -/
theorem within_add_within (hab : a ≤ b) (hbc : b ≤ c) (x : α) :
    (if within a b (stamp x) then value x else 0) + (if within b c (stamp x) then value x else 0) =
      (if within a c (stamp x) then value x else 0) +
        if within b b (stamp x) then value x else 0 := by
  cases hx : stamp x with
  | none => rfl
  | some t =>
    simp only [within, Option.any_some, decide_eq_true_eq]
    rcases lt_trichotomy t b with hlt | rfl | hgt
    · rw [if_neg (fun h : b ≤ t ∧ t ≤ c => hlt.not_ge h.1),
        if_neg (fun h : b ≤ t ∧ t ≤ b => hlt.not_ge h.1)]
      simp only [hlt.le, hlt.le.trans hbc, and_true]
    · simp only [hab, hbc, le_refl, and_true]
    · rw [if_neg (fun h : a ≤ t ∧ t ≤ b => hgt.not_ge h.2),
        if_neg (fun h : b ≤ t ∧ t ≤ b => hgt.not_ge h.2), zero_add, add_zero]
      simp only [hgt.le, hab.trans hgt.le, true_and]

/-- Two consecutive periods have the total of both together, and what is stamped at the end that
they share once more. -/
theorem total_add_total (hab : a ≤ b) (hbc : b ≤ c) :
    total stamp value l a b + total stamp value l b c =
      total stamp value l a c + total stamp value l b b := by
  induction l with
  | nil => rfl
  | cons x l ih =>
    rw [total_cons, total_cons, total_cons, total_cons, add_add_add_comm,
      within_add_within hab hbc, ih, add_add_add_comm]

/-- What a function of periods gives for the consecutive ones between some cuts, summed up. -/
def consecutive (g : τ → τ → M) : τ → List τ → M
  | _, [] => 0
  | a, b :: cuts => g a b + consecutive g b cuts

theorem consecutive_total {cuts : List τ} (hsorted : (a :: (cuts ++ [z])).Pairwise (· ≤ ·)) :
    consecutive (total stamp value l) a (cuts ++ [z]) =
      total stamp value l a z + (cuts.map (fun t => total stamp value l t t)).sum := by
  induction cuts generalizing a with
  | nil => rfl
  | cons b cuts ih =>
    obtain ⟨ha, htail⟩ := List.pairwise_cons.mp hsorted
    have hb := (List.pairwise_cons.mp htail).1
    have hab : a ≤ b := ha b List.mem_cons_self
    have hbz : b ≤ z := hb z (List.mem_append_right cuts (List.mem_singleton_self z))
    rw [List.cons_append, consecutive, ih htail, ← add_assoc, total_add_total hab hbz,
      List.map_cons, List.sum_cons, add_assoc]

theorem total_self (l : List α) (b : τ) : total stamp value l b b =
    ((l.filter (fun x => stamp x = some b)).map value).sum := by
  rw [total]
  congr 2
  apply List.filter_congr
  intro x _
  rw [Bool.eq_iff_iff, decide_eq_true_eq]
  cases stamp x with
  | none => exact iff_of_false Bool.false_ne_true (Option.some_ne_none b).symm
  | some t =>
    rw [within, Option.any_some, decide_eq_true_eq, Option.some_inj]
    exact ⟨fun h => le_antisymm h.2 h.1, fun h => ⟨h.ge, h.le⟩⟩

theorem consecutive_total_eq {cuts : List τ} (hsorted : (a :: (cuts ++ [z])).Pairwise (· ≤ ·))
    (hcuts : ∀ t ∈ cuts, total stamp value l t t = 0) :
    consecutive (total stamp value l) a (cuts ++ [z]) = total stamp value l a z := by
  rw [consecutive_total hsorted, List.sum_eq_zero, add_zero]
  intro x hx
  obtain ⟨t, ht, rfl⟩ := List.mem_map.mp hx
  exact hcuts t ht

end Periods

end P2PMesh.Base.Periods
