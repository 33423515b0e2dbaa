import Mathlib.Data.List.Basic

namespace P2PMesh.Base
set_option autoImplicit true

section Run
variable {σ α : Type*} (step : σ → α → σ)

theorem run_invariant {I : σ → Prop} (hs : I s) (hstep : ∀ s a, I s → I (step s a))
    (l : List α) : I (l.foldl step s) := by
  induction l generalizing s with
  | nil => exact hs
  | cons a l ih => exact ih (hstep s a hs)

/-- Each step of a run meets a condition on the state before it. -/
def Guarded (ok : σ → α → Prop) : σ → List α → Prop
  | _, [] => True
  | s, a :: l => ok s a ∧ Guarded ok (step s a) l

variable {step} {ok : σ → α → Prop}

instance decidableGuarded [∀ s a, Decidable (ok s a)] :
    ∀ s l, Decidable (Guarded step ok s l)
  | _, [] => .isTrue trivial
  | s, a :: l => @instDecidableAnd _ _ _ (decidableGuarded (step s a) l)

theorem Guarded.of_forall (h : ∀ s a, a ∈ l → ok s a) : Guarded step ok s l := by
  induction l generalizing s with
  | nil => trivial
  | cons a l ih => exact ⟨h s a List.mem_cons_self, ih (fun s b hb => h s b (.tail a hb))⟩

theorem guarded_append : Guarded step ok s (l ++ l') ↔
    Guarded step ok s l ∧ Guarded step ok (l.foldl step s) l' := by
  induction l generalizing s with
  | nil => simp only [List.nil_append, Guarded, List.foldl_nil, true_and]
  | cons a l ih => simp only [List.cons_append, Guarded, List.foldl_cons, ih, and_assoc]

theorem guarded_and {ok' : σ → α → Prop} :
    Guarded step (fun s a => ok s a ∧ ok' s a) s l ↔
      Guarded step ok s l ∧ Guarded step ok' s l := by
  induction l generalizing s with
  | nil => simp only [Guarded, and_self]
  | cons a l ih =>
    simp only [Guarded, ih]
    exact and_and_and_comm

/-- An invariant that the guarded steps keep holds at the end of every guarded run. -/
theorem Guarded.invariant {I : σ → Prop} (hg : Guarded step ok s l) (hs : I s)
    (hstep : ∀ s a, I s → ok s a → I (step s a)) : I (l.foldl step s) := by
  induction l generalizing s with
  | nil => exact hs
  | cons a l ih => exact ih hg.2 (hstep s a hs hg.1)

/-- An invariant and what is asked of each single step hold along a run exactly where the run is
guarded, if one step keeps both exactly under the condition. -/
theorem forall_prefix_and_guarded_iff {I : σ → Prop} {R : σ → α → Prop} (hs : I s)
    (hstep : ∀ s a, I s → (I (step s a) ∧ R s a ↔ ok s a)) (l : List α) :
    (∀ l', l' <+: l → I (l'.foldl step s)) ∧ Guarded step R s l ↔ Guarded step ok s l := by
  induction l generalizing s with
  | nil =>
    refine iff_of_true ⟨?_, trivial⟩ trivial
    intro l' hl
    rw [List.prefix_nil.mp hl]
    exact hs
  | cons a l ih =>
    constructor
    · rintro ⟨h, hR, hrest⟩
      have ha : I (step s a) := h [a] (List.prefix_append [a] l)
      refine ⟨(hstep s a hs).mp ⟨ha, hR⟩, (ih ha).mp ⟨?_, hrest⟩⟩
      intro l' hl
      exact h (a :: l') (List.cons_prefix_cons.mpr ⟨rfl, hl⟩)
    · rintro ⟨ha, hl⟩
      obtain ⟨hI, hR⟩ := (hstep s a hs).mpr ha
      obtain ⟨hall, hrest⟩ := (ih hI).mpr hl
      refine ⟨?_, hR, hrest⟩
      intro l' hp
      cases l' with
      | nil => exact hs
      | cons b l' =>
        obtain ⟨he, hp'⟩ := List.cons_prefix_cons.mp hp
        cases he
        exact hall l' hp'

/-- An invariant that a step keeps exactly under its condition holds at every point of a run
exactly where the run is guarded. -/
theorem forall_prefix_iff {I : σ → Prop} (hs : I s)
    (hstep : ∀ s a, I s → (I (step s a) ↔ ok s a)) (l : List α) :
    (∀ l', l' <+: l → I (l'.foldl step s)) ↔ Guarded step ok s l := by
  rw [← forall_prefix_and_guarded_iff (R := fun _ _ => True) hs]
  · exact (and_iff_left (Guarded.of_forall (fun _ _ _ => trivial))).symm
  · intro s a h
    rw [and_true, hstep s a h]

theorem forall_prefix_and_guarded_iff_of {W J : σ → Prop} {R : σ → α → Prop} (hW : W s)
    (hWstep : ∀ s a, W s → W (step s a)) (hJ : J s)
    (hstep : ∀ s a, W s → J s → (J (step s a) ∧ R s a ↔ ok s a)) (l : List α) :
    (∀ l', l' <+: l → J (l'.foldl step s)) ∧ Guarded step R s l ↔ Guarded step ok s l := by
  have hboth : ∀ s a, W s ∧ J s → ((W (step s a) ∧ J (step s a)) ∧ R s a ↔ ok s a) := by
    intro s a h
    rw [← hstep s a h.1 h.2, and_assoc, and_iff_right (hWstep s a h.1)]
  rw [← forall_prefix_and_guarded_iff ⟨hW, hJ⟩ hboth]
  apply and_congr_left'
  constructor
  · intro h l' hl
    exact ⟨run_invariant step hW hWstep l', h l' hl⟩
  · intro h l' hl
    exact (h l' hl).2

theorem forall_prefix_iff_of {W J : σ → Prop} (hW : W s) (hWstep : ∀ s a, W s → W (step s a))
    (hJ : J s) (hstep : ∀ s a, W s → J s → (J (step s a) ↔ ok s a)) (l : List α) :
    (∀ l', l' <+: l → J (l'.foldl step s)) ↔ Guarded step ok s l := by
  rw [← forall_prefix_and_guarded_iff_of (R := fun _ _ => True) hW hWstep hJ]
  · exact (and_iff_left (Guarded.of_forall (fun _ _ _ => trivial))).symm
  · intro s a hWs hJs
    rw [and_true, hstep s a hWs hJs]

theorem forall_prefix_iff_along {W J : σ → Prop} (hW : W s) (hJ : J s)
    (hkeep : ∀ s a, W s → J s → ok s a → W (step s a))
    (hstep : ∀ s a, W s → J s → (J (step s a) ↔ ok s a)) (l : List α) :
    (∀ l', l' <+: l → J (l'.foldl step s)) ↔ Guarded step ok s l := by
  constructor
  · intro h
    induction l generalizing s with
    | nil => trivial
    | cons a l ih =>
      have ha : J (step s a) := h [a] (List.prefix_append [a] l)
      have hok := (hstep s a hW hJ).mp ha
      refine ⟨hok, ih (hkeep s a hW hJ hok) ha ?_⟩
      intro l' hl
      exact h (a :: l') (List.cons_prefix_cons.mpr ⟨rfl, hl⟩)
  · rintro h l' ⟨rest, he⟩
    rw [← he, guarded_append] at h
    exact (h.1.invariant (I := fun t => W t ∧ J t) ⟨hW, hJ⟩ (fun t a ht ha =>
      ⟨hkeep t a ht.1 ht.2 ha, (hstep t a ht.1 ht.2).mpr ha⟩)).2

theorem guarded_congr {ok' : σ → α → Prop} (h : ∀ s a, ok s a ↔ ok' s a) :
    Guarded step ok s l ↔ Guarded step ok' s l := by
  induction l generalizing s with
  | nil => rfl
  | cons a l ih => exact and_congr (h s a) ih

theorem guarded_congr_of_guarded {I : σ → Prop} {ok' : σ → α → Prop} (hs : I s)
    (hstep : ∀ s a, I s → ok s a → I (step s a)) (h : ∀ s a, I s → (ok s a ↔ ok' s a)) :
    Guarded step ok s l ↔ Guarded step ok' s l := by
  induction l generalizing s with
  | nil => rfl
  | cons a l ih =>
    simp only [Guarded, ← h s a hs]
    exact and_congr_right (fun ha => ih (hstep s a hs ha))

theorem guarded_congr_of_invariant {I : σ → Prop} {ok' : σ → α → Prop} (hs : I s)
    (hstep : ∀ s a, I s → I (step s a)) (h : ∀ s a, I s → (ok s a ↔ ok' s a)) :
    Guarded step ok s l ↔ Guarded step ok' s l :=
  guarded_congr_of_guarded hs (fun s a hs _ => hstep s a hs) h

theorem guarded_proj_iff {τ : Type*} {step' : τ → α → τ} {ok' : τ → α → Prop} {f : σ → τ}
    (hf : ∀ s a, f (step s a) = step' (f s) a) :
    Guarded step (fun s a => ok' (f s) a) s l ↔ Guarded step' ok' (f s) l := by
  induction l generalizing s with
  | nil => rfl
  | cons a l ih =>
    rw [Guarded, Guarded, ← hf]
    exact and_congr_right (fun _ => ih)

theorem guarded_iff_forall_step :
    Guarded step ok s l ↔ ∀ l₁ a, l₁ ++ [a] <+: l → ok (l₁.foldl step s) a := by
  constructor
  · rintro h l₁ a ⟨rest, he⟩
    rw [← he, List.append_assoc, guarded_append] at h
    exact h.2.1
  · intro h
    induction l generalizing s with
    | nil => trivial
    | cons b l ih =>
      refine ⟨h [] b (List.prefix_append [b] l), ih ?_⟩
      intro l₁ a hl
      exact h (b :: l₁) a (List.cons_prefix_cons.mpr ⟨rfl, hl⟩)

/-- What holds from each state of a run to every later one holds across each of its steps. -/
theorem forall_between_iff {R : σ → σ → Prop} (hrefl : ∀ s, R s s)
    (htrans : ∀ {s t u}, R s t → R t u → R s u) (l : List α) :
    (∀ l₁ l₂, l₁ ++ l₂ <+: l → R (l₁.foldl step s) ((l₁ ++ l₂).foldl step s)) ↔
      Guarded step (fun s a => R s (step s a)) s l := by
  constructor
  · intro h
    induction l generalizing s with
    | nil => trivial
    | cons a l ih =>
      refine ⟨h [] [a] (List.prefix_append [a] l), ih ?_⟩
      intro l₁ l₂ hl
      exact h (a :: l₁) l₂ (List.cons_prefix_cons.mpr ⟨rfl, hl⟩)
  · intro h l₁ l₂ hl
    obtain ⟨rest, he⟩ := hl
    rw [← he, guarded_append, guarded_append] at h
    rw [List.foldl_append]
    exact h.1.2.invariant (I := fun t => R (l₁.foldl step s) t) (hrefl _)
      (fun _ _ ht ha => htrans ht ha)

theorem exists_first_violation (h : ¬ Guarded step ok s l) :
    ∃ l₁ a l₂, l = l₁ ++ a :: l₂ ∧ Guarded step ok s l₁ ∧ ¬ ok (l₁.foldl step s) a := by
  induction l generalizing s with
  | nil => exact (h trivial).elim
  | cons a l ih =>
    by_cases ha : ok s a
    · have hl : ¬ Guarded step ok (step s a) l := fun hl => h ⟨ha, hl⟩
      obtain ⟨l₁, b, l₂, he, hg, hb⟩ := ih hl
      exact ⟨a :: l₁, b, l₂, by rw [he, List.cons_append], ⟨ha, hg⟩, hb⟩
    · exact ⟨[], a, l, rfl, trivial, ha⟩

/-- The state of an endless run after its first `n` steps. -/
def stateAt (step : σ → α → σ) (s : σ) (schedule : ℕ → α) : ℕ → σ
  | 0 => s
  | n + 1 => step (stateAt step s schedule n) (schedule n)

theorem stateAt_invariant {I : σ → Prop} (hs : I s) (hstep : ∀ s a, I s → I (step s a))
    (schedule : ℕ → α) (n : ℕ) : I (stateAt step s schedule n) := by
  induction n with
  | zero => exact hs
  | succ n ih => exact hstep _ _ ih

end Run

end P2PMesh.Base
