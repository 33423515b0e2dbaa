import P2PMesh.Base.Run
import P2PMesh.Base.Selection

namespace P2PMesh.Base
set_option autoImplicit true

section Register
variable {α ι : Type*} [LinearOrder ι] (rank : α → ι)

/-- A register that takes a value in place of its own only if the value ranks strictly higher. -/
def keepHigher (slot : Option α) (x : α) : Option α :=
  match slot with
  | some y => if rank y < rank x then some x else some y
  | none => some x

variable {rank}

theorem foldl_keepHigher {l : List α} {slot : Option α} :
    l.foldl (keepHigher rank) slot = some x ↔ IsFirstMax rank (slot.toList ++ l) x := by
  induction l generalizing slot with
  | nil =>
    cases slot with
    | none => simp [not_isFirstMax_nil]
    | some y => simp [isFirstMax_cons, not_isFirstMax_nil, eq_comm]
  | cons a l ih =>
    rw [List.foldl_cons, ih]
    cases slot with
    | none => rfl
    | some y =>
      simp only [keepHigher, Option.toList_some, List.cons_append, List.nil_append]
      split <;> simp only [Option.toList_some, List.cons_append, List.nil_append, isFirstMax_cons,
        List.forall_mem_cons] <;> grind

theorem exists_isFirstMax {l : List α} (h : l ≠ []) : ∃ x, IsFirstMax rank l x := by
  cases l with
  | nil => exact (h rfl).elim
  | cons a l =>
    have hsome : ∀ {slot : Option α}, slot ≠ none → l.foldl (keepHigher rank) slot ≠ none := by
      intro slot hslot
      apply run_invariant (keepHigher rank) (I := fun slot => slot ≠ none) hslot
      intro slot x hslot
      cases slot with
      | none => exact (hslot rfl).elim
      | some y =>
        rw [keepHigher]
        split <;> exact Option.some_ne_none _
    obtain ⟨x, hx⟩ := Option.ne_none_iff_exists'.mp (hsome (Option.some_ne_none a))
    exact ⟨x, foldl_keepHigher.mp hx⟩

end Register

section Schedules
variable {α β γ ι : Type*} [LinearOrder ι] {rank : α → ι} {f : α → γ} {block : β → List α}

theorem isFirstMax_of_flatMap {l : List β} (h : IsFirstMax rank (l.flatMap block) x) :
    ∃ i ∈ l, IsFirstMax rank (block i) x := by
  induction l with
  | nil => exact (not_isFirstMax_nil h).elim
  | cons i l ih =>
    rw [List.flatMap_cons, isFirstMax_append] at h
    rcases h with ⟨h, -⟩ | ⟨h, -⟩
    · exact ⟨i, List.mem_cons_self, h⟩
    · obtain ⟨j, hj, hx⟩ := ih h
      exact ⟨j, .tail i hj, hx⟩

/-- Of the inputs whose first highest values tie for the highest rank of all, above that of the
register, all show the same. -/
def TiesAgree (rank : α → ι) (f : α → γ) (block : β → List α) (slot : Option α)
    (inputs : List β) : Prop :=
  ∀ i ∈ inputs, ∀ i' ∈ inputs, ∀ x x', IsFirstMax rank (block i) x →
    IsFirstMax rank (block i') x' → rank x = rank x' →
    (∀ j ∈ inputs, ∀ y ∈ block j, rank y ≤ rank x) →
    (∀ y, slot = some y → rank y < rank x) → f x = f x'

/-- The inputs in some order, each at least once. -/
def Schedule (inputs l : List β) : Prop := ∀ i, i ∈ l ↔ i ∈ inputs

variable {slot slot' : Option α} {inputs l l' : List β}

theorem Schedule.forall_iff {P : α → Prop} (h : Schedule inputs l) :
    (∀ y ∈ l.flatMap block, P y) ↔ ∀ j ∈ inputs, ∀ y ∈ block j, P y := by
  constructor
  · intro hl j hj y hy
    exact hl y (List.mem_flatMap.mpr ⟨j, (h j).mpr hj, hy⟩)
  · intro hi y hy
    obtain ⟨j, hj, hmem⟩ := List.mem_flatMap.mp hy
    exact hi j ((h j).mp hj) y hmem

theorem schedule_cons (hi : i ∈ inputs) : Schedule inputs (i :: inputs) := by
  intro j
  rw [List.mem_cons, or_iff_right_iff_imp]
  rintro rfl
  exact hi

theorem TiesAgree.symm (h : TiesAgree rank f block slot inputs)
    (hslot : ∀ y, slot = some y → ∃ y', slot' = some y' ∧ rank y' = rank y) :
    TiesAgree rank f block slot' inputs := by
  intro i hi i' hi' x x' hx hx' he hmax habove
  refine h i hi i' hi' x x' hx hx' he hmax ?_
  intro y hy
  obtain ⟨y', hy', hrank⟩ := hslot y hy
  rw [← hrank]
  exact habove y' hy'

/-- Where ties agree, a register shows after one schedule what it shows after any other. -/
theorem TiesAgree.exists_same (h : TiesAgree rank f block slot inputs)
    (hrank : ∀ x y, f x = f y → rank x = rank y) (hslot : slot.map f = slot'.map f)
    (hl : Schedule inputs l) (hl' : Schedule inputs l')
    (hx : (l.flatMap block).foldl (keepHigher rank) slot = some x) :
    ∃ x', (l'.flatMap block).foldl (keepHigher rank) slot' = some x' ∧ f x = f x' := by
  rw [foldl_keepHigher, isFirstMax_append] at hx
  rcases hx with ⟨hx, hle⟩ | ⟨hx, hlt⟩
  · have hslot₁ : slot = some x := Option.mem_toList.mp hx.mem
    rw [hslot₁, Option.map_some] at hslot
    obtain ⟨x', hx', he⟩ := Option.map_eq_some_iff.mp hslot.symm
    refine ⟨x', ?_, he.symm⟩
    rw [foldl_keepHigher, isFirstMax_append, hx']
    refine Or.inl ⟨isFirstMax_cons.mpr (Or.inl ⟨rfl, by simp⟩), ?_⟩
    rw [hrank x' x he]
    exact hl'.forall_iff.mpr (hl.forall_iff.mp hle)
  · obtain ⟨i, hi, hxi⟩ := isFirstMax_of_flatMap hx
    have hmax : ∀ j ∈ inputs, ∀ y ∈ block j, rank y ≤ rank x :=
      hl.forall_iff.mp (fun y hy => hx.le hy)
    have hmem : x ∈ l'.flatMap block :=
      List.mem_flatMap.mpr ⟨i, (hl' i).mpr ((hl i).mp hi), hxi.mem⟩
    obtain ⟨x', hx'⟩ : ∃ x', IsFirstMax rank (l'.flatMap block) x' :=
      exists_isFirstMax (List.ne_nil_of_mem hmem)
    obtain ⟨i', hi', hxi'⟩ := isFirstMax_of_flatMap hx'
    have htie : rank x = rank x' :=
      le_antisymm (hx'.le hmem) (hmax i' ((hl' i').mp hi') x' hxi'.mem)
    refine ⟨x', ?_, h i ((hl i).mp hi) i' ((hl' i').mp hi') x x' hxi hxi' htie hmax ?_⟩
    · rw [foldl_keepHigher, isFirstMax_append]
      refine Or.inr ⟨hx', ?_⟩
      intro y hy
      rw [Option.mem_toList.mp hy, Option.map_some] at hslot
      obtain ⟨y', hy', he⟩ := Option.map_eq_some_iff.mp hslot
      rw [← htie, ← hrank y' y he]
      exact hlt y' (Option.mem_toList.mpr hy')
    · intro y hy
      exact hlt y (Option.mem_toList.mpr hy)

/-- Registers that start alike show the same after every two schedules, exactly where ties
agree. -/
theorem schedules_agree_iff (hrank : ∀ x y, f x = f y → rank x = rank y)
    (hslot : slot.map f = slot'.map f) :
    (∀ l l', Schedule inputs l → Schedule inputs l' →
      ((l.flatMap block).foldl (keepHigher rank) slot).map f =
        ((l'.flatMap block).foldl (keepHigher rank) slot').map f) ↔
      TiesAgree rank f block slot inputs := by
  constructor
  · intro h i hi i' hi' x x' hx hx' htie hmax habove
    have hfirst : ∀ {s : Option α} {j z}, (∀ y, s = some y → rank y < rank z) → j ∈ inputs →
        IsFirstMax rank (block j) z → rank x = rank z →
        ((j :: inputs).flatMap block).foldl (keepHigher rank) s = some z := by
      intro s j z hs hj hz he
      have hle := (schedule_cons hj).forall_iff.mpr hmax
      rw [List.flatMap_cons, List.forall_mem_append] at hle
      rw [foldl_keepHigher, isFirstMax_append, List.flatMap_cons, isFirstMax_append, ← he]
      refine Or.inr ⟨Or.inl ⟨hz, hle.2⟩, ?_⟩
      intro y hy
      rw [he]
      exact hs y (Option.mem_toList.mp hy)
    have habove' : ∀ y, slot' = some y → rank y < rank x' := by
      intro y hy
      rw [hy, Option.map_some] at hslot
      obtain ⟨y', hy', he⟩ := Option.map_eq_some_iff.mp hslot
      rw [← htie, ← hrank y' y he]
      exact habove y' hy'
    have hsame := h _ _ (schedule_cons hi) (schedule_cons hi')
    rw [hfirst habove hi hx rfl, hfirst habove' hi' hx' htie] at hsame
    exact Option.some.inj hsame
  · intro h l l' hl hl'
    have hback : TiesAgree rank f block slot' inputs := by
      apply h.symm
      intro y hy
      rw [hy, Option.map_some] at hslot
      obtain ⟨y', hy', he⟩ := Option.map_eq_some_iff.mp hslot.symm
      exact ⟨y', hy', hrank y' y he⟩
    apply Option.ext
    intro c
    rw [Option.map_eq_some_iff, Option.map_eq_some_iff]
    constructor
    · rintro ⟨x, hx, rfl⟩
      obtain ⟨x', hx', he⟩ := h.exists_same hrank hslot hl hl' hx
      exact ⟨x', hx', he.symm⟩
    · rintro ⟨x, hx, rfl⟩
      obtain ⟨x', hx', he⟩ := hback.exists_same hrank hslot.symm hl' hl hx
      exact ⟨x', hx', he.symm⟩

end Schedules

end P2PMesh.Base
