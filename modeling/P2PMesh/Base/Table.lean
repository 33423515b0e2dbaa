import Mathlib.Data.List.Nodup

namespace P2PMesh.Base
set_option autoImplicit true

section Table
variable {K β : Type*} [Ord K] [Std.TransOrd K] [Std.LawfulEqOrd K]

theorem getElem?_insert_of_ne (t : Std.TreeMap K β) {k k' : K} (v : β) (h : k ≠ k') :
    (t.insert k v)[k']? = t[k']? := by
  rw [Std.TreeMap.getElem?_insert, if_neg]
  exact fun hc => h (Std.compare_eq_iff_eq.mp hc)

theorem getElem?_erase_of_ne (t : Std.TreeMap K β) {k k' : K} (h : k ≠ k') :
    (t.erase k)[k']? = t[k']? := by
  rw [Std.TreeMap.getElem?_erase, if_neg]
  exact fun hc => h (Std.compare_eq_iff_eq.mp hc)

theorem nodup_toList (t : Std.TreeMap K β) : t.toList.Nodup := by
  have hkeys := Std.TreeMap.distinct_keys_toList (t := t)
  refine hkeys.imp ?_
  rintro e e' hne rfl
  exact hne Std.compare_self

theorem forall_mem_toList_iff {t : Std.TreeMap K β} {p : K → β → Prop} :
    (∀ e ∈ t.toList, p e.1 e.2) ↔ ∀ k v, t[k]? = some v → p k v := by
  rw [Prod.forall]
  exact forall₂_congr (fun k v =>
    imp_congr_left Std.TreeMap.mem_toList_iff_getElem?_eq_some)

theorem toList_filter_congr {t t' : Std.TreeMap K β} {p : K → β → Bool}
    (h : ∀ k, t[k]?.filter (p k) = t'[k]?.filter (p k)) :
    t.toList.filter (fun e => p e.1 e.2) = t'.toList.filter (fun e => p e.1 e.2) := by
  have hperm : (t.filter p).toList.Perm (t'.filter p).toList := by
    rw [List.perm_ext_iff_of_nodup (nodup_toList _) (nodup_toList _)]
    rintro ⟨k, v⟩
    rw [Std.TreeMap.mem_toList_iff_getElem?_eq_some, Std.TreeMap.mem_toList_iff_getElem?_eq_some,
      Std.TreeMap.getElem?_filter', Std.TreeMap.getElem?_filter', h k]
  rw [← Std.TreeMap.toList_filter, ← Std.TreeMap.toList_filter]
  exact (Std.TreeMap.Equiv.of_toList_perm hperm).toList_eq

/-- The number of the entries that meet a condition. -/
def tally {K : Type*} [Ord K] (p : K → β → Bool) (t : Std.TreeMap K β) : Nat :=
  t.toList.countP (fun e => p e.1 e.2)

variable [DecidableEq K]

theorem getElem?_insert_eq (t : Std.TreeMap K β) (k k' : K) (v : β) :
    (t.insert k v)[k']? = if k = k' then some v else t[k']? := by
  rw [Std.TreeMap.getElem?_insert]
  exact if_congr Std.compare_eq_iff_eq rfl rfl

theorem getElem?_erase_eq (t : Std.TreeMap K β) (k k' : K) :
    (t.erase k)[k']? = if k = k' then none else t[k']? := by
  rw [Std.TreeMap.getElem?_erase]
  exact if_congr Std.compare_eq_iff_eq rfl rfl

theorem getElem?_modify_eq (t : Std.TreeMap K β) (k k' : K) (f : β → β) :
    (t.modify k f)[k']? = if k = k' then t[k]?.map f else t[k']? := by
  rw [Std.TreeMap.getElem?_modify]
  exact if_congr Std.compare_eq_iff_eq rfl rfl

theorem map_getElem?_insert_eq_update (t : Std.TreeMap K β) (k : K) (v : β) (f : β → γ) :
    (fun k' => (t.insert k v)[k']?.map f) =
      Function.update (fun k' => t[k']?.map f) k (some (f v)) := by
  funext k'
  rw [getElem?_insert_eq, Function.update_apply]
  by_cases hk : k = k'
  · rw [if_pos hk, if_pos hk.symm, Option.map_some]
  · rw [if_neg hk, if_neg (Ne.symm hk)]

theorem map_getElem?_erase_eq_update (t : Std.TreeMap K β) (k : K) (f : β → γ) :
    (fun k' => (t.erase k)[k']?.map f) = Function.update (fun k' => t[k']?.map f) k none := by
  funext k'
  rw [getElem?_erase_eq, Function.update_apply]
  by_cases hk : k = k'
  · rw [if_pos hk, if_pos hk.symm, Option.map_none]
  · rw [if_neg hk, if_neg (Ne.symm hk)]

theorem getElem?_insert_eq_update (t : Std.TreeMap K β) (k : K) (v : β) :
    (fun k' => (t.insert k v)[k']?) = Function.update (fun k' => t[k']?) k (some v) := by
  simpa only [Option.map_id, id] using map_getElem?_insert_eq_update t k v id

theorem getElem?_erase_eq_update (t : Std.TreeMap K β) (k : K) :
    (fun k' => (t.erase k)[k']?) = Function.update (fun k' => t[k']?) k none := by
  simpa only [Option.map_id, id] using map_getElem?_erase_eq_update t k id

omit [Std.LawfulEqOrd K] [DecidableEq K] in
theorem size_insert_of_none {t : Std.TreeMap K β} {k : K} (h : t[k]? = none) (v : β) :
    (t.insert k v).size = t.size + 1 := by
  rw [Std.TreeMap.size_insert, ← Std.TreeMap.isSome_getElem?_eq_contains, h]
  rfl

omit [Std.LawfulEqOrd K] [DecidableEq K] in
theorem size_erase_of_some {t : Std.TreeMap K β} {k : K} {v : β} (h : t[k]? = some v) :
    (t.erase k).size + 1 = t.size := by
  have hmem : t.contains k = true := by
    rw [← Std.TreeMap.isSome_getElem?_eq_contains, h]
    rfl
  have hpos : t.size ≠ 0 := by
    have hfilled := Std.TreeMap.isEmpty_eq_false_of_contains hmem
    rw [Std.TreeMap.isEmpty_eq_size_eq_zero, beq_eq_false_iff_ne] at hfilled
    exact hfilled
  rw [Std.TreeMap.size_erase, if_pos hmem, Nat.sub_one_add_one hpos]

omit [Std.LawfulEqOrd K] [DecidableEq K] in
theorem size_erase_of_none {t : Std.TreeMap K β} {k : K} (h : t[k]? = none) :
    (t.erase k).size = t.size := by
  rw [Std.TreeMap.size_erase, ← Std.TreeMap.isSome_getElem?_eq_contains, h]
  rfl

theorem exists_of_insertMany {t : Std.TreeMap K β} {l : List (K × β)} {k : K}
    (h : ∃ v, (k, v) ∈ l) : ∃ v, (k, v) ∈ l ∧ (t.insertMany l)[k]? = some v := by
  obtain ⟨v, hv⟩ := h
  rw [Std.TreeMap.getElem?_insertMany_list]
  cases hfind : l.findSomeRev? (fun e => if compare e.1 k = .eq then some e.2 else none) with
  | none =>
    rw [List.findSomeRev?_eq_findSome?_reverse, List.findSome?_eq_none_iff] at hfind
    have hnone := hfind (k, v) (List.mem_reverse.mpr hv)
    rw [if_pos Std.compare_self] at hnone
    cases hnone
  | some v' =>
    rw [List.findSomeRev?_eq_findSome?_reverse] at hfind
    obtain ⟨e, hmem, he⟩ := List.exists_of_findSome?_eq_some hfind
    split at he
    · next heq =>
      cases he
      cases Std.compare_eq_iff_eq.mp heq
      exact ⟨e.2, List.mem_reverse.mp hmem, rfl⟩
    · cases he

theorem insertMany_of_not_mem {t : Std.TreeMap K β} {l : List (K × β)} {k : K}
    (h : ∀ v, (k, v) ∉ l) : (t.insertMany l)[k]? = t[k]? := by
  have hfind : l.findSomeRev? (fun e => if compare e.1 k = .eq then some e.2 else none) = none := by
    rw [List.findSomeRev?_eq_findSome?_reverse, List.findSome?_eq_none_iff]
    intro e he
    rw [if_neg]
    intro heq
    cases Std.compare_eq_iff_eq.mp heq
    exact h e.2 (List.mem_reverse.mp he)
  rw [Std.TreeMap.getElem?_insertMany_list]
  exact congrArg (fun o => o.or t[k]?) hfind

theorem insertMany_map_eq_some_iff {ε : Type*} {t : Std.TreeMap K β} (rows : List ε) (key : ε → K)
    (value : ε → β) (hvalue : ∀ e ∈ rows, ∀ e' ∈ rows, key e = key e' → value e = value e')
    {k : K} (hnone : t[k]? = none) (v : β) :
    (t.insertMany (rows.map (fun e => (key e, value e))))[k]? = some v ↔
      ∃ e ∈ rows, key e = k ∧ value e = v := by
  by_cases hk : ∃ e ∈ rows, key e = k
  · obtain ⟨e, he, rfl⟩ := hk
    obtain ⟨v', hv', hlookup⟩ := exists_of_insertMany (t := t)
      ⟨value e, List.mem_map_of_mem (f := fun e => (key e, value e)) he⟩
    obtain ⟨e', he', heq⟩ := List.mem_map.mp hv'
    obtain ⟨hkey, rfl⟩ := Prod.mk.inj heq
    rw [hlookup, Option.some_inj]
    constructor
    · rintro rfl
      exact ⟨e', he', hkey, rfl⟩
    · rintro ⟨e'', he'', hkey', rfl⟩
      exact hvalue e' he' e'' he'' (hkey.trans hkey'.symm)
  · rw [insertMany_of_not_mem, hnone]
    · refine iff_of_false (Option.some_ne_none v).symm ?_
      rintro ⟨e, he, hkey, -⟩
      exact hk ⟨e, he, hkey⟩
    · intro v' hv'
      obtain ⟨e, he, heq⟩ := List.mem_map.mp hv'
      exact hk ⟨e, he, (Prod.mk.inj heq).1⟩

theorem toList_filter_key (t : Std.TreeMap K β) (k : K) :
    t.toList.filter (fun e => e.1 = k) = (t[k]?).toList.map (fun v => (k, v)) := by
  have hmem : ∀ e, e ∈ t.toList.filter (fun e => e.1 = k) ↔ e.1 = k ∧ t[k]? = some e.2 := by
    intro e
    rw [List.mem_filter, decide_eq_true_eq, and_comm]
    refine and_congr_right ?_
    rintro rfl
    exact Std.TreeMap.mem_toList_iff_getElem?_eq_some
  have hnodup := (nodup_toList t).filter (fun e => decide (e.1 = k))
  cases hk : t[k]? with
  | none =>
    rw [Option.toList_none, List.map_nil, List.eq_nil_iff_forall_not_mem]
    intro e he
    have hv := ((hmem e).mp he).2
    rw [hk] at hv
    cases hv
  | some v =>
    rw [Option.toList_some, List.map_singleton, ← List.perm_singleton,
      List.perm_ext_iff_of_nodup hnodup (List.nodup_singleton _)]
    intro e
    rw [hmem, hk, List.mem_singleton, Prod.ext_iff, Option.some_inj, eq_comm (a := v)]

theorem filterMap_toList_filter_key (t : Std.TreeMap K β) (f : β → Option γ) (k : K) :
    (t.toList.filterMap (fun e => (f e.2).map (fun c => (e.1, c)))).filter (fun e => e.1 = k) =
      (t[k]?.bind f).toList.map (fun c => (k, c)) := by
  have hfilter : (t.toList.filterMap (fun e => (f e.2).map (fun c => (e.1, c)))).filter
      (fun e => e.1 = k) = (t.toList.filter (fun e => e.1 = k)).filterMap
        (fun e => (f e.2).map (fun c => (e.1, c))) := by
    rw [List.filter_filterMap, List.filterMap_filter]
    congr 1
    funext e
    by_cases he : e.1 = k <;> cases hf : f e.2 <;> simp [he]
  rw [hfilter, toList_filter_key]
  cases hk : t[k]? with
  | none => rfl
  | some v => cases hf : f v <;> simp [hf]

theorem values_filter_key (t : Std.TreeMap K β) {key : β → K}
    (hkey : ∀ k v, t[k]? = some v → key v = k) (k : K) :
    (t.toList.map (·.2)).filter (fun v => key v = k) = (t[k]?).toList := by
  have hfilter : (t.toList.map (·.2)).filter (fun v => key v = k) =
      (t.toList.filter (fun e => e.1 = k)).map (·.2) := by
    rw [List.filter_map]
    congr 1
    apply List.filter_congr
    intro e he
    have hk := hkey e.1 e.2 (Std.TreeMap.mem_toList_iff_getElem?_eq_some.mp he)
    rw [Function.comp_apply, hk]
  rw [hfilter, toList_filter_key, List.map_map]
  exact List.map_id' _

theorem toList_perm_of_getElem? {t t' : Std.TreeMap K β} {k : K} {v : β}
    (hk : t'[k]? = some v) (hne : ∀ k', k ≠ k' → t'[k']? = t[k']?) :
    t'.toList.Perm ((k, v) :: (t.erase k).toList) := by
  rw [List.perm_ext_iff_of_nodup (nodup_toList t')]
  · intro e
    rw [List.mem_cons, Std.TreeMap.mem_toList_iff_getElem?_eq_some,
      Std.TreeMap.mem_toList_iff_getElem?_eq_some, getElem?_erase_eq]
    by_cases he : k = e.1
    · rw [if_pos he, ← he, hk, Option.some_inj, Prod.ext_iff, ← he]
      simp only [true_and, reduceCtorEq, or_false]
      exact eq_comm
    · rw [if_neg he, hne e.1 he, Prod.ext_iff]
      simp only [Ne.symm he, false_and, false_or]
  · apply List.nodup_cons.mpr
    constructor
    · intro hmem
      rw [Std.TreeMap.mem_toList_iff_getElem?_eq_some, getElem?_erase_eq, if_pos rfl] at hmem
      cases hmem
    · exact nodup_toList _

section Tally
variable {p : K → β → Bool} {t : Std.TreeMap K β} {k : K}

theorem tally_insert (v : β) :
    tally p (t.insert k v) = tally p (t.erase k) + if p k v then 1 else 0 := by
  have hperm : (t.insert k v).toList.Perm ((k, v) :: (t.erase k).toList) :=
    toList_perm_of_getElem? (by rw [getElem?_insert_eq, if_pos rfl])
      (fun k' hk => getElem?_insert_of_ne t v hk)
  rw [tally, hperm.countP_eq, List.countP_cons]
  rfl

theorem tally_of_some {v : β} (h : t[k]? = some v) :
    tally p t = tally p (t.erase k) + if p k v then 1 else 0 := by
  rw [tally, (toList_perm_of_getElem? h (fun _ _ => rfl)).countP_eq, List.countP_cons]
  rfl

theorem tally_erase_of_none (h : t[k]? = none) : tally p (t.erase k) = tally p t := by
  apply List.Perm.countP_eq
  rw [List.perm_ext_iff_of_nodup (nodup_toList _) (nodup_toList _)]
  intro e
  rw [Std.TreeMap.mem_toList_iff_getElem?_eq_some, Std.TreeMap.mem_toList_iff_getElem?_eq_some,
    getElem?_erase_eq]
  split
  · next he => rw [← he, h]
  · rfl

theorem tally_erase_le : tally p (t.erase k) ≤ tally p t := by
  cases hk : t[k]? with
  | none => exact Nat.le_of_eq (tally_erase_of_none hk)
  | some v =>
    rw [tally_of_some hk]
    exact Nat.le_add_right _ _

theorem tally_insert_of_same {v v' : β} (h : t[k]? = some v) (hp : p k v = p k v') :
    tally p (t.insert k v') = tally p t := by
  rw [tally_insert, tally_of_some h, hp]

theorem tally_insert_of_none {v : β} (h : t[k]? = none) :
    tally p (t.insert k v) = tally p t + if p k v then 1 else 0 := by
  rw [tally_insert, tally_erase_of_none h]

end Tally

end Table

end P2PMesh.Base
