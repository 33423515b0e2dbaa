import Mathlib.Data.List.Nodup
import P2PMesh.Base.Run

namespace P2PMesh.Base
set_option autoImplicit true

/-- Items numbered by arrival on their way: queued, held with what was made of them, written. -/
structure Delivery (α β : Type) where
  arrived : List α
  queue : List (Nat × α)
  held : List (Nat × β)
  written : List (Nat × β)

/-- The numbers of the items that are still on their way or written. -/
def Delivery.traces (s : Delivery α β) : List Nat :=
  s.queue.map Prod.fst ++ s.held.map Prod.fst ++ s.written.map Prod.fst

/-- What can happen: an item arrives, or the first of the queue is taken into hand as something
made of it, or is dropped, or the first in hand is written. The label is what is dropped. -/
inductive Delivery.Move (makes : α → β → Prop) (s : Delivery α β) :
    Option α → Delivery α β → Prop
  | stay : Move makes s none s
  | arrive (x : α) : Move makes s none { s with
      arrived := s.arrived ++ [x], queue := s.queue ++ [(s.arrived.length, x)] }
  | take (hq : s.queue = (i, x) :: rest) (hm : makes x y) :
      Move makes s none { s with queue := rest, held := s.held ++ [(i, y)] }
  | drop (hq : s.queue = (i, x) :: rest) : Move makes s (some x) { s with queue := rest }
  | write (hh : s.held = (i, y) :: rest) :
      Move makes s none { s with held := rest, written := s.written ++ [(i, y)] }

/-- No number stands in two places, and what stands under a number comes from its item. -/
structure Delivery.Accounted (makes : α → β → Prop) (s : Delivery α β) : Prop where
  nodup : s.traces.Nodup
  queued : ∀ i x, (i, x) ∈ s.queue → s.arrived[i]? = some x
  made : ∀ i y, (i, y) ∈ s.held ++ s.written → ∃ x, s.arrived[i]? = some x ∧ makes x y

/-- Every item of a kind is still on its way or written. -/
def Delivery.Keeps (needed : α → Prop) (s : Delivery α β) : Prop :=
  ∀ i x, s.arrived[i]? = some x → needed x → i ∈ s.traces

/-- Every item of a kind is written exactly once, as something made of it. -/
def Delivery.Delivers (makes : α → β → Prop) (needed : α → Prop) (s : Delivery α β) : Prop :=
  ∀ i x, s.arrived[i]? = some x → needed x →
    ∃ y, makes x y ∧ s.written.filter (fun w => w.1 = i) = [(i, y)]

section Moves
variable {makes : α → β → Prop} {needed : α → Prop} {s s' : Delivery α β}

theorem Delivery.Accounted.lt_length (h : s.Accounted makes) (hi : i ∈ s.traces) :
    i < s.arrived.length := by
  have hget : ∃ x, s.arrived[i]? = some x := by
    rw [Delivery.traces, List.append_assoc, ← List.map_append, List.mem_append] at hi
    rcases hi with hq | hm
    · obtain ⟨⟨_, x⟩, hx, rfl⟩ := List.mem_map.mp hq
      exact ⟨x, h.queued _ x hx⟩
    · obtain ⟨⟨_, y⟩, hy, rfl⟩ := List.mem_map.mp hm
      obtain ⟨x, hx, -⟩ := h.made _ y hy
      exact ⟨x, hx⟩
  obtain ⟨x, hx⟩ := hget
  exact (List.getElem?_eq_some_iff.mp hx).1

theorem Delivery.Accounted.head (h : s.Accounted makes) (hq : s.queue = (i, x) :: rest) :
    s.arrived[i]? = some x ∧
      i ∉ rest.map Prod.fst ++ s.held.map Prod.fst ++ s.written.map Prod.fst := by
  have hn := h.nodup
  rw [Delivery.traces, hq, List.map_cons, List.cons_append, List.cons_append,
    List.nodup_cons] at hn
  refine ⟨h.queued i x ?_, hn.1⟩
  rw [hq]
  exact List.mem_cons_self

theorem getElem?_append_of_some {l : List α} {i : Nat} (h : l[i]? = some x) (l' : List α) :
    (l ++ l')[i]? = some x := by
  rw [List.getElem?_append_left (List.getElem?_eq_some_iff.mp h).1, h]

theorem filter_key_eq_singleton {l : List (Nat × β)} (hn : (l.map Prod.fst).Nodup)
    (h : (i, y) ∈ l) : l.filter (fun w => w.1 = i) = [(i, y)] := by
  induction l with
  | nil => exact (List.not_mem_nil h).elim
  | cons w l ih =>
    obtain ⟨hhead, hrest⟩ := List.nodup_cons.mp hn
    rcases List.mem_cons.mp h with hw | hl
    · have hnone : l.filter (fun w => w.1 = i) = [] := by
        rw [List.filter_eq_nil_iff]
        intro v hv hi
        apply hhead
        rw [← hw, ← of_decide_eq_true hi]
        exact List.mem_map.mpr ⟨v, hv, rfl⟩
      rw [← hw, List.filter_cons_of_pos, hnone]
      exact decide_eq_true rfl
    · have hne : w.1 ≠ i := by
        rintro rfl
        exact hhead (List.mem_map.mpr ⟨_, hl, rfl⟩)
      rw [List.filter_cons_of_neg]
      · exact ih hrest hl
      · exact fun hp => hne (of_decide_eq_true hp)

theorem Delivery.traces_arrive (s : Delivery α β) (x : α) :
    Delivery.traces { s with
      arrived := s.arrived ++ [x], queue := s.queue ++ [(s.arrived.length, x)] } |>.Perm
      (s.arrived.length :: s.traces) := by
  simp only [Delivery.traces, List.map_append, List.map_cons, List.map_nil, List.append_assoc,
    List.cons_append, List.nil_append]
  exact List.perm_middle

theorem Delivery.traces_take (hq : s.queue = (i, x) :: rest) (y : β) :
    Delivery.traces { s with queue := rest, held := s.held ++ [(i, y)] } |>.Perm s.traces := by
  simp only [Delivery.traces, hq, List.map_append, List.map_cons, List.map_nil,
    List.append_assoc, List.cons_append, List.nil_append]
  rw [← List.append_assoc, ← List.append_assoc]
  exact List.perm_middle

theorem Delivery.traces_drop (hq : s.queue = (i, x) :: rest) :
    s.traces = i :: Delivery.traces { s with queue := rest } := by
  simp only [Delivery.traces, hq, List.map_cons, List.cons_append]

theorem Delivery.traces_write (hh : s.held = (i, y) :: rest) :
    Delivery.traces { s with held := rest, written := s.written ++ [(i, y)] } |>.Perm
      s.traces := by
  simp only [Delivery.traces, hh, List.map_append, List.map_cons, List.map_nil,
    List.append_assoc, List.cons_append]
  rw [← List.append_assoc, ← List.append_assoc]
  apply (List.perm_append_singleton _ _).trans
  rw [List.append_assoc]
  exact List.perm_middle.symm

theorem Delivery.Accounted.move (h : s.Accounted makes) (hm : s.Move makes dropped s') :
    s'.Accounted makes := by
  cases hm with
  | stay => exact h
  | arrive x =>
    constructor
    · rw [(s.traces_arrive x).nodup_iff, List.nodup_cons]
      exact ⟨fun hi => Nat.lt_irrefl _ (h.lt_length hi), h.nodup⟩
    · intro i x' hq
      rcases List.mem_append.mp hq with hold | hnew
      · exact getElem?_append_of_some (h.queued i x' hold) [x]
      · cases List.mem_singleton.mp hnew
        exact List.getElem?_concat_length
    · intro i y hy
      obtain ⟨x', hx, hmake⟩ := h.made i y hy
      exact ⟨x', getElem?_append_of_some hx [x], hmake⟩
  | @take i x rest y hq hmake =>
    constructor
    · rw [(Delivery.traces_take hq y).nodup_iff]
      exact h.nodup
    · intro j x' hj
      apply h.queued j x'
      rw [hq]
      exact List.mem_cons_of_mem _ hj
    · intro j z hz
      rw [List.append_assoc, List.singleton_append, List.mem_append, List.mem_cons] at hz
      rcases hz with hheld | he | hwritten
      · exact h.made j z (List.mem_append_left _ hheld)
      · cases he
        exact ⟨x, (h.head hq).1, hmake⟩
      · exact h.made j z (List.mem_append_right _ hwritten)
  | @drop i x rest hq =>
    constructor
    · have hn := h.nodup
      rw [Delivery.traces_drop hq] at hn
      exact (List.nodup_cons.mp hn).2
    · intro j x' hj
      apply h.queued j x'
      rw [hq]
      exact List.mem_cons_of_mem _ hj
    · exact h.made
  | @write i y rest hh =>
    constructor
    · rw [(Delivery.traces_write hh).nodup_iff]
      exact h.nodup
    · exact h.queued
    · intro j z hz
      apply h.made j z
      rw [hh]
      rw [← List.append_assoc, List.mem_append, List.mem_singleton] at hz
      rcases hz with hz | hz
      · exact List.mem_cons_of_mem _ hz
      · rw [hz]
        exact List.mem_cons_self

/-- Only dropping a needed item breaks what is kept. -/
theorem Delivery.Keeps.move_iff (h : s.Keeps needed) (ha : s.Accounted makes)
    (hm : s.Move makes dropped s') : s'.Keeps needed ↔ ∀ x ∈ dropped, ¬ needed x := by
  cases hm with
  | stay => exact iff_of_true h (fun x hx => (Option.not_mem_none x hx).elim)
  | arrive x =>
    refine iff_of_true ?_ (fun x hx => (Option.not_mem_none x hx).elim)
    intro i x' hx hn
    rw [(s.traces_arrive x).mem_iff, List.mem_cons]
    by_cases hi : i < s.arrived.length
    · rw [List.getElem?_append_left hi] at hx
      exact Or.inr (h i x' hx hn)
    · have hlen := (List.getElem?_eq_some_iff.mp hx).1
      rw [List.length_append, List.length_singleton] at hlen
      exact Or.inl (by omega)
  | @take i x rest y hq hmake =>
    refine iff_of_true ?_ (fun x hx => (Option.not_mem_none x hx).elim)
    intro j x' hx hn
    rw [(Delivery.traces_take hq y).mem_iff]
    exact h j x' hx hn
  | @drop i x rest hq =>
    obtain ⟨hx, hgone⟩ := ha.head hq
    constructor
    · intro hk x' hx' hn
      cases hx'
      exact hgone (hk i x hx hn)
    · intro hd j x' hx' hn
      have hj := h j x' hx' hn
      rw [Delivery.traces_drop hq, List.mem_cons] at hj
      rcases hj with rfl | hj
      · rw [hx] at hx'
        cases hx'
        exact (hd x rfl hn).elim
      · exact hj
  | @write i y rest hh =>
    refine iff_of_true ?_ (fun x hx => (Option.not_mem_none x hx).elim)
    intro j x' hx hn
    rw [(Delivery.traces_write hh).mem_iff]
    exact h j x' hx hn

theorem Delivery.not_keeps_move (h : ¬ s.Keeps needed) (hm : s.Move makes dropped s') :
    ¬ s'.Keeps needed := by
  intro hk
  apply h
  intro i x hx hn
  cases hm with
  | stay => exact hk i x hx hn
  | arrive x' =>
    have hi := hk i x (getElem?_append_of_some hx [x']) hn
    rw [(s.traces_arrive x').mem_iff, List.mem_cons] at hi
    rcases hi with rfl | hi
    · exact (Nat.lt_irrefl _ (List.getElem?_eq_some_iff.mp hx).1).elim
    · exact hi
  | @take i' x' rest y hq hmake =>
    have hi := hk i x hx hn
    rwa [(Delivery.traces_take hq y).mem_iff] at hi
  | @drop i' x' rest hq =>
    rw [Delivery.traces_drop hq]
    exact List.mem_cons_of_mem _ (hk i x hx hn)
  | @write i' y rest hh =>
    have hi := hk i x hx hn
    rwa [(Delivery.traces_write hh).mem_iff] at hi

/-- Once nothing is on its way, what is kept is what is written exactly once. -/
theorem Delivery.Accounted.delivers_iff (ha : s.Accounted makes) (hq : s.queue = [])
    (hh : s.held = []) : s.Delivers makes needed ↔ s.Keeps needed := by
  have htraces : s.traces = s.written.map Prod.fst := by
    rw [Delivery.traces, hq, hh, List.map_nil, List.map_nil, List.nil_append, List.nil_append]
  constructor
  · intro hd i x hx hn
    obtain ⟨y, -, hy⟩ := hd i x hx hn
    have hmem : (i, y) ∈ s.written.filter (fun w => w.1 = i) := by
      rw [hy]
      exact List.mem_singleton_self _
    rw [htraces]
    exact List.mem_map.mpr ⟨(i, y), (List.mem_filter.mp hmem).1, rfl⟩
  · intro hk i x hx hn
    have hi := hk i x hx hn
    rw [htraces] at hi
    obtain ⟨⟨_, y⟩, hy, rfl⟩ := List.mem_map.mp hi
    obtain ⟨x', hx', hmake⟩ := ha.made _ y (List.mem_append_right _ hy)
    rw [hx] at hx'
    cases hx'
    refine ⟨y, hmake, ?_⟩
    have hn := ha.nodup
    rw [htraces] at hn
    exact filter_key_eq_singleton hn hy

end Moves

section Run
variable {makes : α → β → Prop} {needed : α → Prop} {step : σ → ι → σ}
  {flow : σ → Delivery α β} {I : σ → Prop} {ok : σ → ι → Prop}

/-- A machine whose steps are moves on the way of its items. -/
theorem Delivery.Accounted.run (hI : ∀ s op, I s → I (step s op))
    (hmove : ∀ s op, I s → ∃ dropped, (flow s).Move makes dropped (flow (step s op)))
    (hs : I s) (ha : (flow s).Accounted makes) (ops : List ι) :
    (flow (ops.foldl step s)).Accounted makes := by
  have hrun := run_invariant (I := fun s => I s ∧ (flow s).Accounted makes) step ⟨hs, ha⟩
    (fun s op h => by
      obtain ⟨dropped, hm⟩ := hmove s op h.1
      exact ⟨hI s op h.1, h.2.move hm⟩) ops
  exact hrun.2

theorem Delivery.not_keeps_run (hI : ∀ s op, I s → I (step s op))
    (hmove : ∀ s op, I s → ∃ dropped, (flow s).Move makes dropped (flow (step s op)))
    (hs : I s) (h : ¬ (flow s).Keeps needed) (ops : List ι) :
    ¬ (flow (ops.foldl step s)).Keeps needed := by
  have hrun := run_invariant (I := fun s => I s ∧ ¬ (flow s).Keeps needed) step ⟨hs, h⟩
    (fun s op h => by
      obtain ⟨dropped, hm⟩ := hmove s op h.1
      exact ⟨hI s op h.1, Delivery.not_keeps_move h.2 hm⟩) ops
  exact hrun.2

/-- A run keeps what is needed exactly where each of its steps drops nothing needed. -/
theorem Delivery.Keeps.run_iff (hI : ∀ s op, I s → I (step s op))
    (hmove : ∀ s op, I s → ∃ dropped, (flow s).Move makes dropped (flow (step s op)) ∧
      ((∀ x ∈ dropped, ¬ needed x) ↔ ok s op))
    (hs : I s) (ha : (flow s).Accounted makes) (hk : (flow s).Keeps needed) (ops : List ι) :
    (flow (ops.foldl step s)).Keeps needed ↔ Guarded step ok s ops := by
  have hmove' : ∀ s op, I s → ∃ dropped, (flow s).Move makes dropped (flow (step s op)) :=
    fun s op hs => (hmove s op hs).imp (fun _ h => h.1)
  induction ops generalizing s with
  | nil => exact iff_of_true hk trivial
  | cons op ops ih =>
    obtain ⟨dropped, hm, hok⟩ := hmove s op hs
    have hkeeps := (hk.move_iff ha hm).trans hok
    rw [List.foldl_cons]
    constructor
    · intro hrun
      have hstep : (flow (step s op)).Keeps needed := by
        by_contra hno
        exact Delivery.not_keeps_run hI hmove' (hI s op hs) hno ops hrun
      exact ⟨hkeeps.mp hstep, (ih (hI s op hs) (ha.move hm) hstep).mp hrun⟩
    · rintro ⟨hop, hrest⟩
      exact (ih (hI s op hs) (ha.move hm) (hkeeps.mpr hop)).mpr hrest

end Run

end P2PMesh.Base
