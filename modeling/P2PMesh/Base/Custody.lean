import Mathlib.Data.List.Basic

namespace P2PMesh.Base
set_option autoImplicit true

section Custody
variable {ι : Type*} [DecidableEq ι]

/-- Each thing of a kind is in one place, once, of all that is held. -/
def Kept (kind : ι → Prop) (held : List ι) : Prop := ∀ i, kind i → held.count i = 1

variable {kind kind' : ι → Prop} {held held' : List ι}

theorem Kept.drop_iff (h : Kept kind held) (hp : held.Perm (lost ++ held')) :
    Kept kind held' ↔ ∀ i ∈ lost, ¬ kind i := by
  have hcount (i : ι) : held.count i = lost.count i + held'.count i := by
    rw [hp.count_eq, List.count_append]
  constructor
  · intro h' i hi hkind
    have hone := h i hkind
    rw [hcount, h' i hkind] at hone
    have hpos := List.count_pos_iff.mpr hi
    omega
  · intro hlost i hkind
    have hzero : lost.count i = 0 := List.count_eq_zero.mpr (fun hi => hlost i hi hkind)
    rw [← h i hkind, hcount, hzero, Nat.zero_add]

theorem Kept.repeat_iff (h : Kept kind held) (hp : held'.Perm (extra ++ held)) :
    Kept kind held' ↔ ∀ i ∈ extra, ¬ kind i := by
  have hcount (i : ι) : held'.count i = extra.count i + held.count i := by
    rw [hp.count_eq, List.count_append]
  constructor
  · intro h' i hi hkind
    have hone := h' i hkind
    rw [hcount, h i hkind] at hone
    have hpos := List.count_pos_iff.mpr hi
    omega
  · intro hextra i hkind
    have hzero : extra.count i = 0 := List.count_eq_zero.mpr (fun hi => hextra i hi hkind)
    rw [hcount, hzero, Nat.zero_add, h i hkind]

theorem Kept.arrive (h : Kept kind held) (hi : i ∉ held)
    (hkind : ∀ j, j ≠ i → (kind' j → kind j)) (hp : held'.Perm (i :: held)) :
    Kept kind' held' := by
  intro j hj
  rw [hp.count_eq]
  by_cases he : j = i
  · rw [he, List.count_cons_self, List.count_eq_zero.mpr hi]
  · rw [List.count_cons_of_ne (Ne.symm he)]
    exact h j (hkind j he hj)

end Custody

end P2PMesh.Base
