import Mathlib.Algebra.BigOperators.Group.Finset.Basic
import Mathlib.Algebra.GroupWithZero.Nat
import Mathlib.Data.Fintype.Basic
import Mathlib.Algebra.Order.BigOperators.Group.Finset
import P2PMesh.Base.Table

namespace P2PMesh.Base
set_option autoImplicit true

section Tally
variable {K β : Type*} [Ord K] {p q : K → β → Bool}

theorem tally_mono (h : ∀ k v, p k v = true → q k v = true) (t : Std.TreeMap K β) :
    tally p t ≤ tally q t :=
  List.countP_mono_left (fun e _ => h e.1 e.2)

theorem tally_eq_size (t : Std.TreeMap K β) : tally (fun _ _ => true) t = t.size := by
  rw [tally, List.countP_true, Std.TreeMap.length_toList]

theorem tally_and_add_tally_not (p q : K → β → Bool) (t : Std.TreeMap K β) :
    tally (fun k v => p k v && q k v) t + tally (fun k v => p k v && !q k v) t = tally p t := by
  rw [tally, tally, tally, List.countP_eq_length_filter, List.countP_eq_length_filter,
    List.countP_eq_length_filter]
  have hsplit := List.length_eq_length_filter_add (l := t.toList.filter (fun e => p e.1 e.2))
    (fun e => q e.1 e.2)
  rw [hsplit, List.filter_filter, List.filter_filter]
  simp only [Bool.and_comm]

theorem tally_eq_zero [Std.TransOrd K] [Std.LawfulEqOrd K] {t : Std.TreeMap K β}
    (h : ∀ (k : K) (v : β), t[k]? = some v → p k v = false) : tally p t = 0 := by
  rw [tally, List.countP_eq_zero]
  intro e he hp
  rw [h e.1 e.2 (Std.TreeMap.mem_toList_iff_getElem?_eq_some.mp he)] at hp
  cases hp

theorem tally_congr [Std.TransOrd K] [Std.LawfulEqOrd K] {t : Std.TreeMap K β}
    (h : ∀ (k : K) (v : β), t[k]? = some v → p k v = q k v) : tally p t = tally q t := by
  apply List.countP_congr
  intro e he
  rw [h e.1 e.2 (Std.TreeMap.mem_toList_iff_getElem?_eq_some.mp he)]

theorem size_eq_tally [Std.TransOrd K] [Std.LawfulEqOrd K] {s : Std.TreeSet K} {t : Std.TreeMap K β}
    (h : ∀ k, k ∈ s ↔ ∃ v, t[k]? = some v ∧ p k v = true) : s.size = tally p t := by
  have hperm : s.toList.Perm ((t.toList.filter (fun e => p e.1 e.2)).map (fun e => e.1)) := by
    rw [List.perm_ext_iff_of_nodup]
    · intro k
      rw [Std.TreeSet.mem_toList, h, List.mem_map]
      constructor
      · rintro ⟨v, hv, hp⟩
        refine ⟨(k, v), List.mem_filter.mpr ⟨?_, hp⟩, rfl⟩
        exact Std.TreeMap.mem_toList_iff_getElem?_eq_some.mpr hv
      · rintro ⟨e, he, rfl⟩
        obtain ⟨hmem, hp⟩ := List.mem_filter.mp he
        exact ⟨e.2, Std.TreeMap.mem_toList_iff_getElem?_eq_some.mp hmem, hp⟩
    · refine (Std.TreeSet.distinct_toList (t := s)).imp ?_
      rintro k _ hne rfl
      exact hne Std.compare_self
    · have hdistinct := (Std.TreeMap.distinct_keys_toList (t := t)).filter (fun e => p e.1 e.2)
      refine List.pairwise_map.mpr (hdistinct.imp ?_)
      intro e e' hne heq
      exact hne (Std.compare_eq_iff_eq.mpr heq)
  rw [← Std.TreeSet.length_toList, hperm.length_eq, List.length_map, tally,
    List.countP_eq_length_filter]

end Tally

section Classes
variable {α κ : Type*} [DecidableEq κ] {f : α → κ}

theorem sum_countP_eq_length {ts : List κ} (hn : ts.Nodup) {l : List α} (h : ∀ x ∈ l, f x ∈ ts) :
    (ts.map (fun t => l.countP (fun x => f x = t))).sum = l.length := by
  induction ts generalizing l with
  | nil =>
    cases l with
    | nil => rfl
    | cons x l => cases h x List.mem_cons_self
  | cons t ts ih =>
    obtain ⟨ht, hts⟩ := List.nodup_cons.mp hn
    have hrest := ih hts (l := l.filter (fun x => ¬ f x = t)) (by
      intro x hx
      obtain ⟨hmem, hne⟩ := List.mem_filter.mp hx
      rw [decide_eq_true_eq] at hne
      exact (List.mem_cons.mp (h x hmem)).resolve_left hne)
    have hsame : ts.map (fun u => (l.filter (fun x => ¬ f x = t)).countP (fun x => f x = u)) =
        ts.map (fun u => l.countP (fun x => f x = u)) := by
      apply List.map_congr_left
      intro u hu
      rw [List.countP_filter]
      apply List.countP_congr
      intro x _
      simp only [Bool.and_eq_true, decide_eq_true_eq, and_iff_left_iff_imp]
      rintro rfl rfl
      exact ht hu
    rw [List.map_cons, List.sum_cons, ← hsame, hrest, ← List.countP_eq_length_filter,
      List.length_eq_countP_add_countP (fun x => f x = t)]
    simp only [decide_not, decide_eq_true_eq]

end Classes

section Weight
variable {K β : Type*} [Ord K] [Std.TransOrd K] [Std.LawfulEqOrd K] [DecidableEq K]

/-- What an entry that may not be there adds to the number of those that meet a condition. -/
def weight {K β : Type*} (p : K → β → Bool) (k : K) (v : Option β) : Nat :=
  v.elim 0 (fun w => (p k w).toNat)

theorem tally_eq_erase_add (p : K → β → Bool) (t : Std.TreeMap K β) (k : K) :
    tally p t = tally p (t.erase k) + weight p k t[k]? := by
  cases hk : t[k]? with
  | none => exact (tally_erase_of_none hk).symm
  | some v =>
    rw [tally_of_some hk]
    cases hp : p k v with
    | false => simp only [weight, Option.elim_some, hp, Bool.false_eq_true, if_false,
        Bool.toNat_false]
    | true => simp only [weight, Option.elim_some, hp, if_true, Bool.toNat_true]

theorem tally_insert_add_weight (p : K → β → Bool) (t : Std.TreeMap K β) (k : K) (v : β) :
    tally p (t.insert k v) + weight p k t[k]? = tally p t + (p k v).toNat := by
  have herase : tally p ((t.insert k v).erase k) = tally p (t.erase k) := by
    apply List.Perm.countP_eq
    rw [List.perm_ext_iff_of_nodup (nodup_toList _) (nodup_toList _)]
    intro e
    rw [Std.TreeMap.mem_toList_iff_getElem?_eq_some, Std.TreeMap.mem_toList_iff_getElem?_eq_some,
      getElem?_erase_eq, getElem?_erase_eq]
    split
    · rfl
    · next hk => rw [getElem?_insert_of_ne t v hk]
  rw [tally_eq_erase_add p (t.insert k v) k, tally_eq_erase_add p t k, herase,
    getElem?_insert_eq, if_pos rfl, Nat.add_right_comm]
  rfl

end Weight

section Family
variable {ι K β : Type*} [Fintype ι] [DecidableEq ι] [Ord K]

/-- The number of the entries of a family of tables that meet a condition. -/
def tallyAll {ι K β : Type*} [Fintype ι] [Ord K] (p : K → β → Bool) (ts : ι → Std.TreeMap K β) :
    Nat :=
  ∑ i, tally p (ts i)

theorem tallyAll_update (p : K → β → Bool) (ts : ι → Std.TreeMap K β) (i : ι)
    (t : Std.TreeMap K β) :
    tallyAll p (Function.update ts i t) + tally p (ts i) = tallyAll p ts + tally p t := by
  have hi : i ∈ Finset.univ := Finset.mem_univ i
  have hrest : ∑ j ∈ Finset.univ.erase i, tally p (Function.update ts i t j) =
      ∑ j ∈ Finset.univ.erase i, tally p (ts j) := by
    apply Finset.sum_congr rfl
    intro j hj
    rw [Function.update_of_ne (Finset.ne_of_mem_erase hj)]
  rw [tallyAll, tallyAll, ← Finset.add_sum_erase _ _ hi, ← Finset.add_sum_erase _ _ hi, hrest,
    Function.update_self]
  omega

end Family

end P2PMesh.Base
