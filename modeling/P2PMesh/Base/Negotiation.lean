import Mathlib.Data.List.Basic

namespace P2PMesh.Base
set_option autoImplicit true

section Negotiation
variable (ok : α → Bool)

/-- Both sides have the choice, and it is good enough. -/
structure Common (mine theirs : List α) (a : α) : Prop where
  mine : a ∈ mine
  theirs : a ∈ theirs
  ok : ok a = true

variable {ok} {mine theirs : List α}

theorem Common.swap (h : Common ok mine theirs a) : Common ok theirs mine a :=
  ⟨h.theirs, h.mine, h.ok⟩

theorem common_cons_iff (hx : ¬ (x ∈ theirs ∧ ok x = true)) :
    Common ok (x :: mine) theirs a ↔ Common ok mine theirs a := by
  constructor
  · rintro ⟨hmem, htheirs, hok⟩
    rcases List.mem_cons.mp hmem with rfl | hmem
    · exact (hx ⟨htheirs, hok⟩).elim
    · exact ⟨hmem, htheirs, hok⟩
  · rintro ⟨hmem, htheirs, hok⟩
    exact ⟨.tail x hmem, htheirs, hok⟩

variable [DecidableEq α]

/-- The first of one's own choices that is good enough and that the other side has as well. -/
def firstCommon (ok : α → Bool) (mine theirs : List α) : Option α :=
  (mine.filter ok).find? (fun a => theirs.contains a)

/-- A common choice that comes first on one's own list. -/
structure Favourite (ok : α → Bool) (mine theirs : List α) (a : α) : Prop where
  common : Common ok mine theirs a
  first : ∀ b, Common ok mine theirs b → mine.idxOf a ≤ mine.idxOf b

theorem favourite_cons_iff (hx : ¬ (x ∈ theirs ∧ ok x = true)) :
    Favourite ok (x :: mine) theirs a ↔ Favourite ok mine theirs a := by
  have hidx (b : α) (hb : Common ok mine theirs b) :
      (x :: mine).idxOf b = mine.idxOf b + 1 := by
    apply List.idxOf_cons_ne
    rintro rfl
    exact hx ⟨hb.theirs, hb.ok⟩
  constructor
  · rintro ⟨hcommon, hfirst⟩
    rw [common_cons_iff hx] at hcommon
    refine ⟨hcommon, fun b hb => ?_⟩
    have hle := hfirst b ((common_cons_iff hx).mpr hb)
    rw [hidx a hcommon, hidx b hb] at hle
    omega
  · rintro ⟨hcommon, hfirst⟩
    refine ⟨(common_cons_iff hx).mpr hcommon, fun b hb => ?_⟩
    rw [common_cons_iff hx] at hb
    rw [hidx a hcommon, hidx b hb]
    exact Nat.succ_le_succ (hfirst b hb)

theorem firstCommon_eq_some_iff :
    firstCommon ok mine theirs = some a ↔ Favourite ok mine theirs a := by
  induction mine with
  | nil =>
    refine iff_of_false (by rintro ⟨⟩) (fun h => ?_)
    exact List.not_mem_nil h.common.mine
  | cons x mine ih =>
    by_cases hx : x ∈ theirs ∧ ok x = true
    · rw [firstCommon, List.filter_cons_of_pos hx.2, List.find?_cons_of_pos
        (List.contains_iff_mem.mpr hx.1), Option.some.injEq]
      have hcommon : Common ok (x :: mine) theirs x := ⟨List.mem_cons_self, hx.1, hx.2⟩
      constructor
      · rintro rfl
        refine ⟨hcommon, fun b _ => ?_⟩
        rw [List.idxOf_cons_self]
        exact Nat.zero_le _
      · intro h
        by_contra hne
        have hle := h.first x hcommon
        rw [List.idxOf_cons_self, List.idxOf_cons_ne mine hne] at hle
        omega
    · rw [favourite_cons_iff hx, ← ih, firstCommon, firstCommon]
      by_cases hok : ok x = true
      · rw [List.filter_cons_of_pos hok, List.find?_cons_of_neg]
        rw [List.contains_iff_mem]
        exact fun hmem => hx ⟨hmem, hok⟩
      · rw [List.filter_cons_of_neg hok]

/-- There is a choice exactly if there is one that both sides have, and thus for both sides or for
neither. -/
theorem firstCommon_isSome_iff :
    (firstCommon ok mine theirs).isSome = true ↔ ∃ a, Common ok mine theirs a := by
  constructor
  · intro h
    obtain ⟨a, ha⟩ := Option.isSome_iff_exists.mp h
    exact ⟨a, (firstCommon_eq_some_iff.mp ha).common⟩
  · rintro ⟨a, ha⟩
    rw [firstCommon, List.find?_isSome]
    exact ⟨a, List.mem_filter.mpr ⟨ha.mine, ha.ok⟩, List.contains_iff_mem.mpr ha.theirs⟩

theorem firstCommon_isSome_swap (ok : α → Bool) (mine theirs : List α) :
    (firstCommon ok mine theirs).isSome = (firstCommon ok theirs mine).isSome := by
  rw [Bool.eq_iff_iff, firstCommon_isSome_iff, firstCommon_isSome_iff]
  exact exists_congr (fun a => ⟨Common.swap, Common.swap⟩)

/-- Whoever writes the list of the other side decides which of one's own choices is taken. -/
theorem firstCommon_singleton (ha : a ∈ mine) (hok : ok a = true) :
    firstCommon ok mine [a] = some a := by
  rw [firstCommon_eq_some_iff]
  refine ⟨⟨ha, List.mem_singleton_self a, hok⟩, fun b hb => ?_⟩
  exact Nat.le_of_eq (congrArg mine.idxOf (List.mem_singleton.mp hb.theirs).symm)

end Negotiation

end P2PMesh.Base
