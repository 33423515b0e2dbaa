import Mathlib.Data.List.Count
import Mathlib.Data.List.Basic
import Mathlib.Order.Nat

namespace P2PMesh.Base
set_option autoImplicit true

/-- An event of a window: when the window began, and when the event was. -/
structure Stamp where
  start : Nat
  instant : Nat
deriving DecidableEq

/-- Windows begin more than their width apart, and what is in one comes before the next. -/
def Spaced (width : Nat) (stamps : List Stamp) : Prop :=
  ∀ a ∈ stamps, ∀ b ∈ stamps, a.start < b.start → a.start + width < b.start ∧ a.instant ≤ b.start

section Spaced
variable {width limit : Nat} {stamps : List Stamp}

theorem countP_le_add {p q r : α → Bool} {l : List α}
    (h : ∀ a ∈ l, p a = true → q a = true ∨ r a = true) :
    l.countP p ≤ l.countP q + l.countP r := by
  induction l with
  | nil => exact Nat.zero_le _
  | cons a l ih =>
    have hrest := ih (fun b hb => h b (List.mem_cons_of_mem a hb))
    have ha := h a List.mem_cons_self
    simp only [List.countP_cons]
    cases hp : p a with
    | false =>
      simp only [Bool.false_eq_true, if_false, Nat.add_zero]
      omega
    | true =>
      rcases ha hp with hq | hr
      · simp only [hq, if_true]
        omega
      · simp only [hr, if_true]
        omega

/-- Whether an event is in a period of some width, to which both of its ends belong. -/
def inPeriod (width begin : Nat) (a : Stamp) : Bool :=
  begin ≤ a.instant ∧ a.instant ≤ begin + width

/-- The events of one period are of two windows at most. -/
theorem Spaced.two_windows (h : Spaced width stamps) (hafter : ∀ a ∈ stamps, a.start ≤ a.instant)
    {a b c : Stamp} (ha : a ∈ stamps) (hb : b ∈ stamps) (hc : c ∈ stamps)
    (hpa : inPeriod width begin a) (hpb : inPeriod width begin b)
    (hpc : inPeriod width begin c) :
    a.start = b.start ∨ a.start = c.start ∨ b.start = c.start := by
  simp only [inPeriod, decide_eq_true_eq] at hpa hpb hpc
  have hthree : ∀ x ∈ stamps, ∀ y ∈ stamps, ∀ z ∈ stamps, x.start < y.start →
      y.start < z.start → x.instant + width < z.instant := by
    intro x hx y hy z hz hxy hyz
    have hbefore := (h x hx y hy hxy).2
    have hapart := (h y hy z hz hyz).1
    have hz' := hafter z hz
    omega
  by_contra hne
  rw [not_or, not_or] at hne
  rcases Nat.lt_or_gt_of_ne hne.1 with hab | hab
  · rcases Nat.lt_or_gt_of_ne hne.2.2 with hbc | hbc
    · have := hthree a ha b hb c hc hab hbc
      omega
    · rcases Nat.lt_or_gt_of_ne hne.2.1 with hac | hac
      · have := hthree a ha c hc b hb hac hbc
        omega
      · have := hthree c hc a ha b hb hac hab
        omega
  · rcases Nat.lt_or_gt_of_ne hne.2.1 with hac | hac
    · have := hthree b hb a ha c hc hab hac
      omega
    · rcases Nat.lt_or_gt_of_ne hne.2.2 with hbc | hbc
      · have := hthree b hb c hc a ha hbc hac
        omega
      · have := hthree c hc b hb a ha hbc hab
        omega

/-- If no window has more events than a limit, no period of its width has more than twice as
many. -/
theorem Spaced.countP_inPeriod_le (h : Spaced width stamps)
    (hafter : ∀ a ∈ stamps, a.start ≤ a.instant)
    (hlimit : ∀ start, stamps.countP (fun a => a.start = start) ≤ limit) (begin : Nat) :
    stamps.countP (inPeriod width begin) ≤ 2 * limit := by
  by_cases hsome : ∃ a ∈ stamps, inPeriod width begin a
  · obtain ⟨a, ha, hpa⟩ := hsome
    by_cases hother : ∃ b ∈ stamps, inPeriod width begin b ∧ b.start ≠ a.start
    · obtain ⟨b, hb, hpb, hne⟩ := hother
      have hsplit := countP_le_add (l := stamps) (p := inPeriod width begin)
        (q := fun c => c.start = a.start) (r := fun c => c.start = b.start) ?_
      · have hfirst := hlimit a.start
        have hsecond := hlimit b.start
        omega
      · intro c hc hpc
        rcases h.two_windows hafter ha hb hc hpa hpb hpc with hab | hac | hbc
        · exact (hne hab.symm).elim
        · exact .inl (decide_eq_true hac.symm)
        · exact .inr (decide_eq_true hbc.symm)
    · have hle : stamps.countP (inPeriod width begin) ≤
          stamps.countP (fun c => c.start = a.start) := by
        apply List.countP_mono_left
        intro c hc hpc
        apply decide_eq_true
        by_contra hne
        exact hother ⟨c, hc, hpc, hne⟩
      have hfirst := hlimit a.start
      omega
  · rw [List.countP_eq_zero.mpr (fun a ha hpa => hsome ⟨a, ha, hpa⟩)]
    exact Nat.zero_le _

end Spaced

/-- The window of one key: how many events it has counted, and when it began. -/
structure Window where
  count : Nat
  start : Nat

/-- The window that an instant falls into: the open one, or a new one if that is over. -/
def windowAt (width : Nat) (entry : Option Window) (now : Nat) : Window :=
  match entry with
  | none => ⟨0, now⟩
  | some w => if width < now - w.start then ⟨0, now⟩ else w

/-- The events let through for one key up to a time, beside the window that is kept for it. A key
whose window is not kept has had none for longer than a width. -/
structure Accounted (width limit : Nat) (entry : Option Window) (stamps : List Stamp)
    (clock : Nat) : Prop where
  spaced : Spaced width stamps
  limited : ∀ start, stamps.countP (fun a => a.start = start) ≤ limit
  ordered : ∀ a ∈ stamps, a.start ≤ a.instant ∧ a.instant ≤ clock
  kept : ∀ w, entry = some w → w.start ≤ clock ∧
    stamps.countP (fun a => a.start = w.start) ≤ w.count ∧
      ∀ a ∈ stamps, a.start = w.start ∨ (a.start + width < w.start ∧ a.instant ≤ w.start)
  forgotten : entry = none → ∀ a ∈ stamps, a.start + width < clock

section Accounted
variable {width limit clock now : Nat} {entry : Option Window} {stamps : List Stamp} {w : Window}

theorem Accounted.nil (width limit clock : Nat) : Accounted width limit none [] clock where
  spaced a ha := (List.not_mem_nil ha).elim
  limited _ := Nat.zero_le limit
  ordered a ha := (List.not_mem_nil ha).elim
  kept w hw := by cases hw
  forgotten _ a ha := (List.not_mem_nil ha).elim

theorem Accounted.later (h : Accounted width limit entry stamps clock) (ht : clock ≤ now) :
    Accounted width limit entry stamps now where
  spaced := h.spaced
  limited := h.limited
  ordered a ha := ⟨(h.ordered a ha).1, (h.ordered a ha).2.trans ht⟩
  kept w hw := ⟨(h.kept w hw).1.trans ht, (h.kept w hw).2⟩
  forgotten hw a ha := Nat.lt_of_lt_of_le (h.forgotten hw a ha) ht

theorem Accounted.fresh (h : Accounted width limit entry stamps clock) (ht : clock ≤ now)
    (hover : ∀ a ∈ stamps, a.start + width < now) :
    Accounted width limit (some ⟨0, now⟩) stamps now where
  spaced := h.spaced
  limited := h.limited
  ordered := (h.later ht).ordered
  kept w hw := by
    cases hw
    refine ⟨Nat.le_refl now, ?_, ?_⟩
    · refine Nat.le_of_eq (List.countP_eq_zero.mpr ?_)
      intro a ha hstart
      have hapart := hover a ha
      have hstart : a.start = now := of_decide_eq_true hstart
      omega
    · exact fun a ha => .inr ⟨hover a ha, (h.ordered a ha).2.trans ht⟩
  forgotten hw := by cases hw

theorem Accounted.windowAt (h : Accounted width limit entry stamps clock) (ht : clock ≤ now) :
    Accounted width limit (some (windowAt width entry now)) stamps now := by
  cases entry with
  | none => exact h.fresh ht (fun a ha => Nat.lt_of_lt_of_le (h.forgotten rfl a ha) ht)
  | some w =>
    rw [Base.windowAt]
    split
    · next hover =>
      apply h.fresh ht
      intro a ha
      rcases (h.kept w rfl).2.2 a ha with he | hbefore
      · omega
      · omega
    · exact h.later ht

theorem Accounted.count (h : Accounted width limit (some w) stamps clock) :
    Accounted width limit (some ⟨w.count + 1, w.start⟩) stamps clock where
  spaced := h.spaced
  limited := h.limited
  ordered := h.ordered
  kept w' hw := by
    cases hw
    obtain ⟨hstart, hcount, hapart⟩ := h.kept w rfl
    exact ⟨hstart, Nat.le_succ_of_le hcount, hapart⟩
  forgotten hw := by cases hw

theorem Accounted.letThrough (h : Accounted width limit (some w) stamps clock)
    (hroom : stamps.countP (fun a => a.start = w.start) < w.count) (hlimit : w.count ≤ limit)
    (ht : clock ≤ now) :
    Accounted width limit (some w) (stamps ++ [⟨w.start, now⟩]) now := by
  obtain ⟨hstart, hcount, hapart⟩ := h.kept w rfl
  have hone : ∀ start, (stamps ++ [Stamp.mk w.start now]).countP (fun a => a.start = start) =
      stamps.countP (fun a => a.start = start) + if w.start = start then 1 else 0 := by
    intro start
    rw [List.countP_append, List.countP_singleton]
    simp only [decide_eq_true_eq]
  constructor
  · intro a ha b hb hlt
    simp only [List.mem_append, List.mem_singleton] at ha hb
    rcases ha with ha | rfl
    · rcases hb with hb | rfl
      · exact h.spaced a ha b hb hlt
      · rcases hapart a ha with he | hbefore
        · exact (Nat.ne_of_lt hlt he).elim
        · exact hbefore
    · rcases hb with hb | rfl
      · rcases hapart b hb with he | hbefore
        · exact (Nat.ne_of_gt hlt he).elim
        · simp only at hlt
          omega
      · exact (Nat.lt_irrefl _ hlt).elim
  · intro start
    rw [hone]
    split
    · next he =>
      rw [← he]
      omega
    · exact h.limited start
  · intro a ha
    simp only [List.mem_append, List.mem_singleton] at ha
    rcases ha with ha | rfl
    · exact ⟨(h.ordered a ha).1, (h.ordered a ha).2.trans ht⟩
    · exact ⟨hstart.trans ht, Nat.le_refl now⟩
  · intro w' hw
    cases hw
    refine ⟨hstart.trans ht, ?_, ?_⟩
    · rw [hone, if_pos rfl]
      exact hroom
    · intro a ha
      simp only [List.mem_append, List.mem_singleton] at ha
      rcases ha with ha | rfl
      · exact hapart a ha
      · exact .inl rfl
  · intro hw
    cases hw

theorem Accounted.forget (h : Accounted width limit (some w) stamps clock)
    (hover : w.start + width < clock) : Accounted width limit none stamps clock where
  spaced := h.spaced
  limited := h.limited
  ordered := h.ordered
  kept w' hw := by cases hw
  forgotten _ a ha := by
    rcases (h.kept w rfl).2.2 a ha with he | hbefore
    · omega
    · omega

theorem Accounted.period_le (h : Accounted width limit entry stamps clock) (begin : Nat) :
    stamps.countP (inPeriod width begin) ≤ 2 * limit :=
  h.spaced.countP_inPeriod_le (fun a ha => (h.ordered a ha).1) h.limited begin

end Accounted

end P2PMesh.Base
