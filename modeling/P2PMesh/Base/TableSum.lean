import Mathlib.Algebra.GroupWithZero.Nat
import Mathlib.Algebra.Order.BigOperators.Group.List
import Mathlib.Algebra.Order.Group.Nat
import P2PMesh.Base.Table

namespace P2PMesh.Base
set_option autoImplicit true

section TableSum
variable {K β : Type*} [Ord K]

/-- What the values of a table add up to. -/
def tableSum {K : Type*} [Ord K] (f : β → Nat) (t : Std.TreeMap K β) : Nat :=
  (t.toList.map (fun e => f e.2)).sum

theorem tableSum_of_perm {f : β → Nat} {t t' : Std.TreeMap K β}
    (h : t.toList.Perm t'.toList) : tableSum f t = tableSum f t' :=
  (h.map _).sum_eq

variable [Std.TransOrd K] [Std.LawfulEqOrd K] {f : β → Nat}

theorem le_tableSum {t : Std.TreeMap K β} {k : K} {v : β} (h : t[k]? = some v) :
    f v ≤ tableSum f t := by
  have hmem : (k, v) ∈ t.toList := Std.TreeMap.mem_toList_iff_getElem?_eq_some.mpr h
  exact List.single_le_sum (fun _ _ => Nat.zero_le _) _
    (List.mem_map.mpr ⟨(k, v), hmem, rfl⟩)

variable [DecidableEq K]

theorem tableSum_insert_eq (t : Std.TreeMap K β) (k : K) (v : β) :
    tableSum f (t.insert k v) =
      f v + ((t.toList.filter (fun e => ¬ k = e.1)).map (fun e => f e.2)).sum := by
  have hperm := Std.TreeMap.toList_insert_perm (t := t) (k := k) (v := v)
  rw [tableSum, (hperm.map (fun e => f e.2)).sum_eq, List.map_cons, List.sum_cons]
  congr 4
  funext e
  rw [decide_not, decide_not]
  congr 1
  rw [Bool.eq_iff_iff, decide_eq_true_eq, decide_eq_true_eq, beq_iff_eq]

theorem tableSum_insert (t : Std.TreeMap K β) (k : K) (v : β) :
    tableSum f (t.insert k v) + (t[k]?).elim 0 f = tableSum f t + f v := by
  rw [tableSum_insert_eq]
  cases hk : t[k]? with
  | none =>
    have hall : t.toList.filter (fun e => ¬ k = e.1) = t.toList := by
      rw [List.filter_eq_self]
      intro e he
      rw [decide_eq_true_eq]
      rintro rfl
      have hsome := Std.TreeMap.mem_toList_iff_getElem?_eq_some.mp he
      rw [hk] at hsome
      cases hsome
    rw [hall, Option.elim_none, Nat.add_zero, Nat.add_comm]
    rfl
  | some w =>
    have hsame : t.toList.Perm (t.insert k w).toList := by
      rw [List.perm_ext_iff_of_nodup (nodup_toList _) (nodup_toList _)]
      intro e
      rw [Std.TreeMap.mem_toList_iff_getElem?_eq_some,
        Std.TreeMap.mem_toList_iff_getElem?_eq_some, getElem?_insert_eq]
      split
      · next he => rw [← he, hk]
      · rfl
    rw [tableSum_of_perm hsame, tableSum_insert_eq, Option.elim_some]
    omega

theorem tableSum_erase {t : Std.TreeMap K β} {k : K} {v : β} (h : t[k]? = some v) :
    tableSum f (t.erase k) + f v = tableSum f t := by
  have hperm := toList_perm_of_getElem? h (fun _ _ => rfl)
  rw [tableSum, tableSum, (hperm.map (fun e => f e.2)).sum_eq, List.map_cons, List.sum_cons,
    Nat.add_comm]

end TableSum

end P2PMesh.Base
