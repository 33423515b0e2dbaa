import Mathlib.Data.List.Induction
import P2PMesh.Base.Run

namespace P2PMesh.Base
set_option autoImplicit true

section History
variable {σ α : Type*} {step : σ → α → Option σ} {s : σ}

theorem foldlM_concat (l : List α) (a : α) :
    (l ++ [a]).foldlM step s = (l.foldlM step s).bind (fun t => step t a) := by
  rw [List.foldlM_append]
  simp only [List.foldlM_cons, List.foldlM_nil, bind_pure]
  rfl

theorem foldlM_concat_eq_some :
    (l ++ [a]).foldlM step s = some u ↔ ∃ t, l.foldlM step s = some t ∧ step t a = some u := by
  rw [foldlM_concat, Option.bind_eq_some_iff]

theorem foldlM_eq_none (h : l.foldlM step s = none) :
    ∃ l₁ a t, l₁ ++ [a] <+: l ∧ l₁.foldlM step s = some t ∧ step t a = none := by
  induction l using List.reverseRecOn with
  | nil => cases h
  | append_singleton l a ih =>
    rw [foldlM_concat, Option.bind_eq_none_iff] at h
    cases hl : l.foldlM step s with
    | none =>
      obtain ⟨l₁, b, t, hp, ht, hb⟩ := ih hl
      exact ⟨l₁, b, t, hp.trans (List.prefix_append l [a]), ht, hb⟩
    | some t => exact ⟨l, a, t, List.prefix_rfl, hl, h t hl⟩

variable {V : List α → σ → Prop}

/-- What relates a state to the steps that have led to it holds after every run that does not
end early, if one more step keeps it. -/
theorem history_invariant (hs : V [] s)
    (hstep : ∀ l t a u, V l t → step t a = some u → V (l ++ [a]) u)
    (h : l.foldlM step s = some t) : V l t := by
  induction l using List.reverseRecOn generalizing t with
  | nil =>
    cases h
    exact hs
  | append_singleton l a ih =>
    obtain ⟨u, hu, hstepped⟩ := foldlM_concat_eq_some.mp h
    exact hstep l u a t (ih hu) hstepped

/-- Every point of a run is reached, and related to the steps so far, exactly where the condition
under which one more step leads to such a point has held before each step. -/
theorem forall_history_iff_of {ok : List α → σ → α → Prop} (hs : V [] s)
    (hstep : ∀ l t a, (∀ l', l' <+: l → ∃ t', l'.foldlM step s = some t' ∧ V l' t') →
      l.foldlM step s = some t → ((∃ u, step t a = some u ∧ V (l ++ [a]) u) ↔ ok l t a))
    (l : List α) :
    (∀ l', l' <+: l → ∃ t, l'.foldlM step s = some t ∧ V l' t) ↔
      ∀ l₁ a, l₁ ++ [a] <+: l → ∀ t, l₁.foldlM step s = some t → ok l₁ t a := by
  constructor
  · intro h l₁ a hl t ht
    have hbefore := (List.prefix_append l₁ [a]).trans hl
    obtain ⟨u, hu, hVu⟩ := h (l₁ ++ [a]) hl
    obtain ⟨t', ht', hstepped⟩ := foldlM_concat_eq_some.mp hu
    cases ht.symm.trans ht'
    exact (hstep l₁ t a (fun l' hl' => h l' (hl'.trans hbefore)) ht).mp ⟨u, hstepped, hVu⟩
  · induction l using List.reverseRecOn with
    | nil =>
      intro _ l' hl
      rw [List.prefix_nil.mp hl]
      exact ⟨s, rfl, hs⟩
    | append_singleton l a ih =>
      intro h
      have hall := ih (fun l₁ b hl => h l₁ b (hl.trans (List.prefix_append l [a])))
      intro l' hl
      rcases List.prefix_concat_iff.mp hl with rfl | hl
      · obtain ⟨t, ht, -⟩ := hall l List.prefix_rfl
        obtain ⟨u, hu, hV⟩ := (hstep l t a hall ht).mpr (h l a List.prefix_rfl t ht)
        exact ⟨u, foldlM_concat_eq_some.mpr ⟨t, ht, hu⟩, hV⟩
      · exact hall l' hl

theorem forall_history_iff {ok : σ → α → Prop} (hs : V [] s)
    (hstep : ∀ l t a, V l t → ((∃ u, step t a = some u ∧ V (l ++ [a]) u) ↔ ok t a))
    (l : List α) :
    (∀ l', l' <+: l → ∃ t, l'.foldlM step s = some t ∧ V l' t) ↔
      ∀ l₁ a, l₁ ++ [a] <+: l → ∀ t, l₁.foldlM step s = some t → ok t a := by
  apply forall_history_iff_of hs
  intro l t a hall ht
  obtain ⟨t', ht', hV⟩ := hall l List.prefix_rfl
  cases ht.symm.trans ht'
  exact hstep l t a hV

end History

end P2PMesh.Base
