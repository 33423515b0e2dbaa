import P2PMesh.Base.Run

namespace P2PMesh.Base
set_option autoImplicit true

section Emitted
variable {σ α ω : Type*} (step : σ → α → σ × List ω)

/-- All that a run emits. -/
def emitted : σ → List α → List ω
  | _, [] => []
  | s, a :: l => (step s a).2 ++ emitted (step s a).1 l

variable {step}

theorem forall_mem_emitted {I : σ → Prop} {ok : σ → α → Prop} {p : ω → Prop}
    (hkeeps : ∀ s a, I s → ok s a → I (step s a).1)
    (hstep : ∀ s a, I s → ok s a → ∀ w ∈ (step s a).2, p w) (hs : I s)
    (hg : Guarded (fun s a => (step s a).1) ok s l) : ∀ w ∈ emitted step s l, p w := by
  induction l generalizing s with
  | nil =>
    intro w hw
    cases hw
  | cons a l ih =>
    intro w hw
    rcases List.mem_append.mp hw with hw | hw
    · exact hstep s a hs hg.1 w hw
    · exact ih (hkeeps s a hs hg.1) hg.2 w hw

end Emitted

/-- Somebody who sees a part of the states, takes some of the steps, and receives some of what they
emit. -/
structure Observer (σ α ω V : Type*) where
  view : σ → V
  takes : α → Bool
  receives : ω → Bool

section Unwinding
variable {σ α ω V : Type*}

/-- The steps of the others change nothing that the observer sees and emit nothing that it
receives; what its own steps do to its view and emit to it is settled by its view. -/
structure Observer.Unwinds (o : Observer σ α ω V) (step : σ → α → σ × List ω) (I : σ → Prop)
    (ok : σ → α → Prop) : Prop where
  keeps : ∀ s a, I s → ok s a → I (step s a).1
  hidden : ∀ s a, I s → ok s a → o.takes a = false →
    o.view (step s a).1 = o.view s ∧ (step s a).2.filter o.receives = []
  own : ∀ s t a, I s → I t → ok s a → ok t a → o.takes a = true → o.view s = o.view t →
    o.view (step s a).1 = o.view (step t a).1 ∧
      (step s a).2.filter o.receives = (step t a).2.filter o.receives

variable {o : Observer σ α ω V} {step : σ → α → σ × List ω} {I : σ → Prop} {ok : σ → α → Prop}

theorem Observer.Unwinds.filter_emitted_eq_nil (h : o.Unwinds step I ok) {s : σ} (hs : I s)
    {l : List α} (hg : Guarded (fun s a => (step s a).1) ok s l) (hl : l.filter o.takes = []) :
    (emitted step s l).filter o.receives = [] := by
  induction l generalizing s with
  | nil => rfl
  | cons a l ih =>
    have hall := List.filter_eq_nil_iff.mp hl
    have ha : o.takes a = false := Bool.eq_false_iff.mpr (hall a List.mem_cons_self)
    have hrest : l.filter o.takes = [] :=
      List.filter_eq_nil_iff.mpr (fun b hb => hall b (List.mem_cons_of_mem a hb))
    rw [emitted, List.filter_append, (h.hidden s a hs hg.1 ha).2, List.nil_append]
    exact ih (h.keeps s a hs hg.1) hg.2 hrest

/-- Two guarded runs from states that look the same to the observer, in which it takes the same
steps, emit the same to it, whatever the others do in between. -/
theorem Observer.Unwinds.noninterference (h : o.Unwinds step I ok) {s t : σ} (hs : I s) (ht : I t)
    (hview : o.view s = o.view t) {l l' : List α}
    (hl : Guarded (fun s a => (step s a).1) ok s l)
    (hl' : Guarded (fun s a => (step s a).1) ok t l')
    (hsame : l.filter o.takes = l'.filter o.takes) :
    (emitted step s l).filter o.receives = (emitted step t l').filter o.receives := by
  induction l generalizing s t l' with
  | nil =>
    rw [h.filter_emitted_eq_nil ht hl' hsame.symm]
    rfl
  | cons a l ih =>
    cases ha : o.takes a with
    | false =>
      obtain ⟨hsees, hnil⟩ := h.hidden s a hs hl.1 ha
      rw [List.filter_cons_of_neg (Bool.eq_false_iff.mp ha)] at hsame
      rw [emitted, List.filter_append, hnil, List.nil_append]
      exact ih (h.keeps s a hs hl.1) ht (hsees.trans hview) hl.2 hl' hsame
    | true =>
      rw [List.filter_cons_of_pos ha] at hsame
      -- the steps of the others before the same step of the second run
      induction l' generalizing t with
      | nil => cases hsame
      | cons b l' ih' =>
        cases hb : o.takes b with
        | false =>
          obtain ⟨hsees, hnil⟩ := h.hidden t b ht hl'.1 hb
          rw [List.filter_cons_of_neg (Bool.eq_false_iff.mp hb)] at hsame
          rw [emitted.eq_def step t, List.filter_append, hnil, List.nil_append]
          exact ih' (h.keeps t b ht hl'.1) (hview.trans hsees.symm) hl'.2 hsame
        | true =>
          rw [List.filter_cons_of_pos hb] at hsame
          obtain ⟨he, hrest⟩ := List.cons.inj hsame
          cases he
          obtain ⟨hsees, hemits⟩ := h.own s t a hs ht hl.1 hl'.1 ha hview
          rw [emitted, emitted, List.filter_append, List.filter_append, hemits,
            ih (h.keeps s a hs hl.1) (h.keeps t a ht hl'.1) hsees hl.2 hl'.2 hrest]

end Unwinding

end P2PMesh.Base
