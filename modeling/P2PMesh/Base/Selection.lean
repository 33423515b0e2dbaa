import Mathlib.Data.List.Induction
import Mathlib.Data.List.Sort

namespace P2PMesh.Base
set_option autoImplicit true

section Selection
variable {α ι : Type*} [LinearOrder ι] (rank : α → ι)

/-- Nothing before `x` in the list ranks as high as `x`, and nothing after it ranks higher. -/
def IsFirstMax (l : List α) (x : α) : Prop :=
  ∃ l₁ l₂, l = l₁ ++ x :: l₂ ∧ (∀ y ∈ l₁, rank y < rank x) ∧ ∀ y ∈ l₂, rank y ≤ rank x

variable {rank}

theorem IsFirstMax.mem (h : IsFirstMax rank l x) : x ∈ l := by
  obtain ⟨l₁, l₂, he, -⟩ := h
  rw [he]
  exact List.mem_append_right _ List.mem_cons_self

theorem IsFirstMax.le (h : IsFirstMax rank l x) (hy : y ∈ l) : rank y ≤ rank x := by
  obtain ⟨l₁, l₂, he, h₁, h₂⟩ := h
  rw [he] at hy
  rcases List.mem_append.mp hy with hy | hy
  · exact (h₁ y hy).le
  · rcases List.mem_cons.mp hy with hy | hy
    · rw [hy]
    · exact h₂ y hy

theorem isFirstMax_cons : IsFirstMax rank (a :: l) x ↔
    (x = a ∧ ∀ y ∈ l, rank y ≤ rank a) ∨ (rank a < rank x ∧ IsFirstMax rank l x) := by
  constructor
  · intro ⟨l₁, l₂, he, h₁, h₂⟩
    cases l₁ with
    | nil =>
      cases he
      exact Or.inl ⟨rfl, h₂⟩
    | cons b l₁ =>
      cases he
      exact Or.inr ⟨h₁ _ List.mem_cons_self,
        l₁, l₂, rfl, fun y hy => h₁ y (List.mem_cons_of_mem _ hy), h₂⟩
  · intro h
    rcases h with ⟨hx, h⟩ | ⟨hlt, l₁, l₂, he, h₁, h₂⟩
    · exact ⟨[], l, by rw [hx, List.nil_append], by simp, by rwa [hx]⟩
    · have h₁' : ∀ y ∈ a :: l₁, rank y < rank x := by
        intro y hy
        rcases List.mem_cons.mp hy with hy | hy
        · rwa [hy]
        · exact h₁ y hy
      exact ⟨a :: l₁, l₂, by rw [he, List.cons_append], h₁', h₂⟩

theorem not_isFirstMax_nil : ¬ IsFirstMax rank [] x := fun h => List.not_mem_nil h.mem

theorem isFirstMax_concat : IsFirstMax rank (l ++ [a]) x ↔
    (IsFirstMax rank l x ∧ rank a ≤ rank x) ∨ (x = a ∧ ∀ y ∈ l, rank y < rank a) := by
  induction l with
  | nil => simp [isFirstMax_cons, not_isFirstMax_nil]
  | cons b l ih =>
    rw [List.cons_append, isFirstMax_cons, isFirstMax_cons, ih]
    simp only [List.forall_mem_append, List.forall_mem_cons]
    grind

theorem IsFirstMax.unique (hx : IsFirstMax rank l x) (hy : IsFirstMax rank l y) : x = y := by
  induction l with
  | nil => exact (List.not_mem_nil hx.mem).elim
  | cons a l ih =>
    rcases isFirstMax_cons.mp hx with ⟨hx, hmax⟩ | ⟨hlt, hx⟩ <;>
      rcases isFirstMax_cons.mp hy with ⟨hy, hmax'⟩ | ⟨hlt', hy⟩
    · rw [hx, hy]
    · exact (not_lt.mpr (hmax y hy.mem) hlt').elim
    · exact (not_lt.mpr (hmax' x hx.mem) hlt).elim
    · exact ih hx hy

theorem IsFirstMax.filter {q : α → Bool} (h : IsFirstMax rank l x) (hq : q x = true) :
    IsFirstMax rank (l.filter q) x := by
  obtain ⟨l₁, l₂, he, h₁, h₂⟩ := h
  have hl : l.filter q = l₁.filter q ++ x :: l₂.filter q := by
    rw [he, List.filter_append, List.filter_cons_of_pos hq]
  exact ⟨_, _, hl, fun y hy => h₁ y (List.mem_filter.mp hy).1,
    fun y hy => h₂ y (List.mem_filter.mp hy).1⟩

theorem IsFirstMax.precedes {R : α → α → Prop} (h : IsFirstMax rank l x) (hl : l.Pairwise R)
    (hy : y ∈ l) (he : rank y = rank x) : y = x ∨ R x y := by
  obtain ⟨l₁, l₂, heq, h₁, -⟩ := h
  rw [heq] at hy hl
  rcases List.mem_append.mp hy with hy | hy
  · exact ((h₁ y hy).ne he).elim
  · rcases List.mem_cons.mp hy with hy | hy
    · exact Or.inl hy
    · exact Or.inr ((List.pairwise_cons.mp (List.pairwise_append.mp hl).2.1).1 y hy)

end Selection

section Append
variable {α ι : Type*} [LinearOrder ι] {rank : α → ι}

theorem isFirstMax_append {l l' : List α} : IsFirstMax rank (l ++ l') x ↔
    (IsFirstMax rank l x ∧ ∀ y ∈ l', rank y ≤ rank x) ∨
      (IsFirstMax rank l' x ∧ ∀ y ∈ l, rank y < rank x) := by
  induction l with
  | nil => simp [not_isFirstMax_nil]
  | cons a l ih =>
    rw [List.cons_append, isFirstMax_cons, isFirstMax_cons, ih]
    simp only [List.forall_mem_append, List.forall_mem_cons]
    grind

end Append

section Scan
variable {α : Type*} (rank : α → ℕ)

/-- A scan that replaces its candidate when the next one ranks strictly higher, from rank 0. -/
def scanMax (l : List α) : Option α × ℕ :=
  l.foldl (fun best x => if best.2 < rank x then (some x, rank x) else best) (none, 0)

variable {rank}

theorem scanMax_concat : scanMax rank (l ++ [a]) =
    if (scanMax rank l).2 < rank a then (some a, rank a) else scanMax rank l := by
  rw [scanMax, List.foldl_append]
  rfl

/-- The scan keeps the rank of its candidate, which is the first maximum; elements of rank 0
are never taken. -/
theorem scanMax_spec (l : List α) :
    (scanMax rank l = (none, 0) ∧ ∀ x ∈ l, rank x = 0) ∨
      ∃ x, scanMax rank l = (some x, rank x) ∧ 0 < rank x ∧ IsFirstMax rank l x := by
  induction l using List.reverseRecOn with
  | nil => exact Or.inl ⟨rfl, by simp⟩
  | append_singleton l a ih =>
    rw [scanMax_concat]
    rcases ih with ⟨he, h0⟩ | ⟨x, he, hx, hmax⟩
    · rw [he]
      rcases Nat.eq_zero_or_pos (rank a) with ha | ha
      · have h0' : ∀ y ∈ l ++ [a], rank y = 0 := by
          intro y hy
          rcases List.mem_append.mp hy with hy | hy
          · exact h0 y hy
          · rw [List.mem_singleton.mp hy, ha]
        exact Or.inl ⟨if_neg (by omega), h0'⟩
      · have hlt : ∀ y ∈ l, rank y < rank a := by
          intro y hy
          rw [h0 y hy]
          exact ha
        exact Or.inr ⟨a, if_pos ha, ha, isFirstMax_concat.mpr (Or.inr ⟨rfl, hlt⟩)⟩
    · rw [he]
      by_cases hlt : rank x < rank a
      · have hlt' : ∀ y ∈ l, rank y < rank a := fun y hy => (hmax.le hy).trans_lt hlt
        exact Or.inr ⟨a, if_pos hlt, hx.trans hlt, isFirstMax_concat.mpr (Or.inr ⟨rfl, hlt'⟩)⟩
      · exact Or.inr ⟨x, if_neg hlt, hx,
          isFirstMax_concat.mpr (Or.inl ⟨hmax, Nat.le_of_not_lt hlt⟩)⟩

theorem scanMax_eq_some (h : (scanMax rank l).1 = some x) :
    0 < rank x ∧ IsFirstMax rank l x := by
  rcases @scanMax_spec _ rank l with ⟨he, -⟩ | ⟨y, he, hy, hmax⟩
  · rw [he] at h
    cases h
  · rw [he] at h
    cases h
    exact ⟨hy, hmax⟩

theorem scanMax_eq_none (h : (scanMax rank l).1 = none) : ∀ x ∈ l, rank x = 0 := by
  rcases @scanMax_spec _ rank l with ⟨-, h0⟩ | ⟨y, he, -⟩
  · exact h0
  · rw [he] at h
    cases h

end Scan

section StableSort
variable {α ι : Type*} [LinearOrder ι] (key : α → ι)

def sortByKey (l : List α) : List α := l.insertionSort (fun x y => key x ≤ key y)

variable {key}

@[simp] theorem mem_sortByKey {l : List α} : x ∈ sortByKey key l ↔ x ∈ l :=
  List.mem_insertionSort _

theorem sortByKey_sorted (l : List α) :
    (sortByKey key l).Pairwise (fun x y => key x ≤ key y) :=
  List.pairwise_insertionSort _ _

theorem find?_sorted_le {p : α → Bool} {l : List α} (hl : l.Pairwise (fun x y => key x ≤ key y))
    (h : l.find? p = some x) (hy : y ∈ l) (hp : p y = true) : key x ≤ key y := by
  obtain ⟨-, l₁, l₂, he, h₁⟩ := List.find?_eq_some_iff_append.mp h
  rw [he] at hy hl
  rcases List.mem_append.mp hy with hy | hy
  · have hn := h₁ y hy
    rw [hp] at hn
    cases hn
  · rcases List.mem_cons.mp hy with hy | hy
    · rw [hy]
    · exact (List.pairwise_cons.mp (List.pairwise_append.mp hl).2.1).1 y hy

theorem sortByKey_cons (a : α) (l : List α) : sortByKey key (a :: l) =
    (sortByKey key l).orderedInsert (fun x y => key x ≤ key y) a := rfl

theorem find?_orderedInsert_of_neg {p : α → Bool} (ha : ¬ p a = true) (l : List α) :
    (l.orderedInsert (fun x y => key x ≤ key y) a).find? p = l.find? p := by
  rw [List.orderedInsert_eq_take_drop, List.find?_append, List.find?_cons_of_neg ha,
    ← List.find?_append, List.takeWhile_append_dropWhile]

theorem find?_orderedInsert {p : α → Bool} {l : List α}
    (hl : l.Pairwise (fun x y => key x ≤ key y)) (ha : p a = true) :
    (l.orderedInsert (fun x y => key x ≤ key y) a).find? p = some x ↔
      (x = a ∧ ∀ y ∈ l, p y = true → key a ≤ key y) ∨ (key x < key a ∧ l.find? p = some x) := by
  induction l with
  | nil =>
    rw [List.orderedInsert_nil, List.find?_cons_of_pos ha, List.find?_nil]
    constructor
    · intro h
      cases h
      exact Or.inl ⟨rfl, by simp⟩
    · intro h
      rcases h with ⟨hx, -⟩ | ⟨-, h⟩
      · rw [hx]
      · cases h
  | cons b l ih =>
    have hlt := (List.pairwise_cons.mp hl).1
    by_cases hab : key a ≤ key b
    · have hle : ∀ y ∈ b :: l, key a ≤ key y := by
        intro y hy
        rcases List.mem_cons.mp hy with hy | hy
        · rwa [hy]
        · exact hab.trans (hlt y hy)
      rw [List.orderedInsert_cons_of_le (fun x y => key x ≤ key y) _ hab, List.find?_cons_of_pos ha]
      constructor
      · intro h
        cases h
        exact Or.inl ⟨rfl, fun y hy _ => hle y hy⟩
      · intro h
        rcases h with ⟨hx, -⟩ | ⟨hx, hf⟩
        · rw [hx]
        · exact (not_lt.mpr (hle x (List.mem_of_find?_eq_some hf)) hx).elim
    · rw [List.orderedInsert_of_not_le (fun x y => key x ≤ key y) _ hab]
      by_cases hb : p b = true
      · rw [List.find?_cons_of_pos hb, List.find?_cons_of_pos hb]
        constructor
        · intro h
          cases h
          exact Or.inr ⟨not_le.mp hab, rfl⟩
        · intro h
          rcases h with ⟨-, h⟩ | ⟨-, h⟩
          · exact (hab (h b List.mem_cons_self hb)).elim
          · exact h
      · rw [List.find?_cons_of_neg hb, List.find?_cons_of_neg hb,
          ih (List.pairwise_cons.mp hl).2, List.forall_mem_cons]
        simp only [hb, Bool.false_eq_true, false_implies, true_and]

end StableSort

section PriorityOrder
variable {α ι : Type*} [LinearOrder ι] {rank : α → ι}

/-- The first match of a list sorted stably by decreasing rank is the match of greatest rank
that comes first in the list. -/
theorem find?_sortByKey_toDual {p : α → Bool} {l : List α} :
    (sortByKey (fun x => OrderDual.toDual (rank x)) l).find? p = some x ↔
      IsFirstMax rank (l.filter p) x := by
  induction l generalizing x with
  | nil => simp [sortByKey, not_isFirstMax_nil]
  | cons a l ih =>
    rw [sortByKey_cons]
    by_cases ha : p a = true
    · rw [find?_orderedInsert (sortByKey_sorted l) ha, List.filter_cons_of_pos ha,
        isFirstMax_cons, ih]
      simp
    · rw [List.filter_cons_of_neg ha, ← ih, find?_orderedInsert_of_neg ha]

end PriorityOrder

section StablePlace
variable {α ι κ : Type*} [LinearOrder ι] {key : α → ι}

theorem sortByKey_perm (l : List α) : (sortByKey key l).Perm l := List.perm_insertionSort _ l

theorem orderedInsert_before {a p : α} {front back : List α} (h : key a ≤ key p) :
    (front ++ p :: back).orderedInsert (fun x y => key x ≤ key y) a =
      front.orderedInsert (fun x y => key x ≤ key y) a ++ p :: back := by
  induction front with
  | nil => exact List.orderedInsert_cons_of_le (fun x y => key x ≤ key y) _ h
  | cons b front ih =>
    rw [List.cons_append]
    by_cases hab : key a ≤ key b
    · rw [List.orderedInsert_cons_of_le (fun x y => key x ≤ key y) _ hab,
        List.orderedInsert_cons_of_le (fun x y => key x ≤ key y) _ hab]
      rfl
    · rw [List.orderedInsert_of_not_le (fun x y => key x ≤ key y) _ hab,
        List.orderedInsert_of_not_le (fun x y => key x ≤ key y) _ hab, ih]
      rfl

theorem orderedInsert_behind {a p : α} {front back : List α} (hp : key p < key a)
    (hfront : ∀ x ∈ front, key x ≤ key p) :
    (front ++ p :: back).orderedInsert (fun x y => key x ≤ key y) a =
      front ++ p :: back.orderedInsert (fun x y => key x ≤ key y) a := by
  induction front with
  | nil => exact List.orderedInsert_of_not_le (fun x y => key x ≤ key y) _ (not_le.mpr hp)
  | cons b front ih =>
    rw [List.forall_mem_cons] at hfront
    rw [List.cons_append, List.orderedInsert_of_not_le (fun x y => key x ≤ key y) _
      (not_le.mpr (hfront.1.trans_lt hp)), ih hfront.2]
    rfl

/-- How many elements come before one in the stable order of a list. -/
def rankIn (key : α → ι) (before : List α) (p : α) (after : List α) : ℕ :=
  (before ++ after).countP (fun x => key x < key p) + before.countP (fun x => key x = key p)

/-- Where an element comes in the stable order: behind those of a lower key and the earlier ones of
its own, and before all the others. -/
structure StablePlace (key : α → ι) (before : List α) (p : α) (after front back : List α) :
    Prop where
  length : front.length = rankIn key before p after
  front_le : ∀ x ∈ front, key x ≤ key p
  mem_back : ∀ x, x ∈ back ↔ (x ∈ before ++ after ∧ key p < key x) ∨ (x ∈ after ∧ key x = key p)

theorem orderedInsert_sorted (p : α) {l : List α} (hl : l.Pairwise (fun x y => key x ≤ key y)) :
    ∃ front back, l.orderedInsert (fun x y => key x ≤ key y) p = front ++ p :: back ∧
      front.length = l.countP (fun x => key x < key p) ∧ (∀ x ∈ front, key x ≤ key p) ∧
      ∀ x, x ∈ back ↔ x ∈ l ∧ key p ≤ key x := by
  induction l with
  | nil => exact ⟨[], [], rfl, rfl, by simp, by simp⟩
  | cons b l ih =>
    obtain ⟨hb, hl⟩ := List.pairwise_cons.mp hl
    by_cases hpb : key p ≤ key b
    · have hall : ∀ x ∈ b :: l, key p ≤ key x :=
        List.forall_mem_cons.mpr ⟨hpb, fun x hx => hpb.trans (hb x hx)⟩
      refine ⟨[], b :: l, List.orderedInsert_cons_of_le (fun x y => key x ≤ key y) _ hpb, ?_,
        by simp, fun x => (and_iff_left_of_imp (hall x)).symm⟩
      rw [List.length_nil, eq_comm, List.countP_eq_zero]
      intro x hx
      rw [decide_eq_true_eq]
      exact not_lt.mpr (hall x hx)
    · obtain ⟨front, back, hinsert, hlength, hfront, hback⟩ := ih hl
      refine ⟨b :: front, back, ?_, ?_, List.forall_mem_cons.mpr ⟨(not_le.mp hpb).le, hfront⟩, ?_⟩
      · rw [List.orderedInsert_of_not_le (fun x y => key x ≤ key y) _ hpb, hinsert,
          List.cons_append]
      · rw [List.length_cons, hlength,
          List.countP_cons, decide_eq_true (not_le.mp hpb), if_pos rfl]
      · intro x
        rw [hback, List.mem_cons]
        constructor
        · exact fun h => ⟨.inr h.1, h.2⟩
        · rintro ⟨rfl | hx, hle⟩
          · exact (hpb hle).elim
          · exact ⟨hx, hle⟩

theorem StablePlace.cons_of_le {a p : α} {before after front back : List α}
    (h : StablePlace key before p after front back) (hle : key a ≤ key p) :
    StablePlace key (a :: before) p after
      (front.orderedInsert (fun x y => key x ≤ key y) a) back where
  length := by
    rw [List.orderedInsert_length, h.length, rankIn, rankIn, List.cons_append,
      List.countP_cons, List.countP_cons]
    rcases hle.lt_or_eq with hlt | heq
    · simp only [hlt, hlt.ne, decide_true, decide_false, ↓reduceIte, Bool.false_eq_true]
      omega
    · simp only [heq, lt_irrefl, decide_true, decide_false, ↓reduceIte, Bool.false_eq_true]
      omega
  front_le x hx := by
    rcases (List.mem_orderedInsert _).mp hx with rfl | hx
    · exact hle
    · exact h.front_le x hx
  mem_back x := by
    rw [h.mem_back, List.cons_append, List.mem_cons]
    constructor
    · exact Or.imp_left fun h => ⟨.inr h.1, h.2⟩
    · refine Or.imp_left ?_
      rintro ⟨rfl | hx, hlt⟩
      · exact (not_lt.mpr hle hlt).elim
      · exact ⟨hx, hlt⟩

theorem StablePlace.cons_of_lt {a p : α} {before after front back : List α}
    (h : StablePlace key before p after front back) (hlt : key p < key a) :
    StablePlace key (a :: before) p after front
      (back.orderedInsert (fun x y => key x ≤ key y) a) where
  length := by
    rw [h.length, rankIn, rankIn, List.cons_append, List.countP_cons, List.countP_cons]
    simp only [hlt.not_gt, hlt.ne', decide_false, ↓reduceIte, Bool.false_eq_true, Nat.add_zero]
  front_le := h.front_le
  mem_back x := by
    rw [List.mem_orderedInsert, h.mem_back, List.cons_append, List.mem_cons]
    constructor
    · rintro (rfl | ⟨hx, hlt⟩ | h)
      · exact .inl ⟨.inl rfl, hlt⟩
      · exact .inl ⟨.inr hx, hlt⟩
      · exact .inr h
    · rintro (⟨rfl | hx, hlt⟩ | h)
      · exact .inl rfl
      · exact .inr (.inl ⟨hx, hlt⟩)
      · exact .inr (.inr h)

theorem sortByKey_place (key : α → ι) (before : List α) (p : α) (after : List α) :
    ∃ front back, sortByKey key (before ++ p :: after) = front ++ p :: back ∧
      StablePlace key before p after front back := by
  induction before with
  | nil =>
    have hsorted : (sortByKey key after).Pairwise (fun x y => key x ≤ key y) :=
      sortByKey_sorted after
    obtain ⟨front, back, hinsert, hlength, hfront, hback⟩ := orderedInsert_sorted p hsorted
    refine ⟨front, back, hinsert, ⟨?_, hfront, ?_⟩⟩
    · rw [hlength, (sortByKey_perm after).countP_eq]
      rfl
    · intro x
      rw [hback, mem_sortByKey, List.nil_append, le_iff_lt_or_eq, and_or_left, eq_comm (a := key p)]
  | cons a before ih =>
    obtain ⟨front, back, hsort, hplace⟩ := ih
    rw [List.cons_append, sortByKey_cons, hsort]
    rcases le_or_gt (key a) (key p) with hle | hlt
    · exact ⟨_, back, orderedInsert_before hle, hplace.cons_of_le hle⟩
    · exact ⟨front, _, orderedInsert_behind hlt hplace.front_le, hplace.cons_of_lt hlt⟩

end StablePlace

section Truncated
variable {α ι κ : Type*} [LinearOrder ι] [LinearOrder κ] {key : α → ι} {fine : α → κ}

theorem pairwise_take_and_iff {R : α → α → Prop} {l : List α} {n : ℕ} :
    ((l.take n).Pairwise R ∧ ∀ x ∈ l.take n, ∀ y ∈ l.drop n, R x y) ↔
      ∀ front p back, l = front ++ p :: back → front.length < n → ∀ q ∈ back, R p q := by
  induction l generalizing n with
  | nil =>
    simp only [List.take_nil, List.Pairwise.nil, List.not_mem_nil, false_implies, implies_true,
      true_and, true_iff]
    intro front p back he
    exact absurd he.symm (List.append_ne_nil_of_right_ne_nil _ (List.cons_ne_nil _ _))
  | cons a l ih =>
    cases n with
    | zero =>
      simp only [List.take_zero, List.Pairwise.nil, List.not_mem_nil, false_implies, implies_true,
        Nat.not_lt_zero, and_self]
    | succ n =>
      rw [List.take_succ_cons, List.drop_succ_cons, List.pairwise_cons, List.forall_mem_cons]
      have hsplit : (∀ q ∈ l, R a q) ↔
          (∀ q ∈ l.take n, R a q) ∧ ∀ q ∈ l.drop n, R a q := by
        rw [← List.forall_mem_append, List.take_append_drop]
      constructor
      · rintro ⟨⟨ha, hpairs⟩, ha', hrest⟩ front p back he hlt q hq
        cases front with
        | nil =>
          cases he
          exact hsplit.mpr ⟨ha, ha'⟩ q hq
        | cons b front =>
          cases he
          exact ih.mp ⟨hpairs, hrest⟩ front p back rfl (Nat.lt_of_succ_lt_succ hlt) q hq
      · intro h
        obtain ⟨ha, ha'⟩ := hsplit.mp (h [] a l rfl (Nat.zero_lt_succ n))
        obtain ⟨hpairs, hrest⟩ := ih.mpr (fun front p back he hlt =>
          h (a :: front) p back (by rw [he, List.cons_append]) (Nat.succ_lt_succ hlt))
        exact ⟨⟨ha, hpairs⟩, ha', hrest⟩

/-- The first elements of a list that is sorted by a coarse key are in the order of a finer one, and
before those left out, exactly if no element that comes among them stands in the list before one of
the same key that is less. -/
theorem take_sortByKey_iff (hcoarse : ∀ x y, key x < key y → fine x < fine y) {l : List α}
    (hl : l.Nodup) {n : ℕ} :
    (((sortByKey key l).take n).Pairwise (fun x y => fine x ≤ fine y) ∧
      ∀ x ∈ (sortByKey key l).take n, ∀ y ∈ (sortByKey key l).drop n, fine x ≤ fine y) ↔
    ∀ before p after, l = before ++ p :: after → ∀ q ∈ after, key q = key p → fine q < fine p →
      n ≤ rankIn key before p after := by
  rw [pairwise_take_and_iff]
  constructor
  · intro h before p after he q hq hkey hlt
    obtain ⟨front, back, hsort, hplace⟩ := sortByKey_place key before p after
    rw [← hplace.length]
    by_contra hn
    rw [he] at h
    exact absurd (h front p back hsort (Nat.not_le.mp hn) q
      ((hplace.mem_back q).mpr (.inr ⟨hq, hkey⟩))) (not_le.mpr hlt)
  · intro h front p back hsort hfront q hq
    have hp : p ∈ sortByKey key l := by
      rw [hsort]
      exact List.mem_append_right _ List.mem_cons_self
    obtain ⟨before, after, he⟩ := List.append_of_mem (mem_sortByKey.mp hp)
    obtain ⟨front', back', hsort', hplace⟩ := sortByKey_place key before p after
    have hnodup : (sortByKey key l).Nodup := (sortByKey_perm l).nodup_iff.mpr hl
    rw [he, hsort'] at hsort
    rw [he, hsort'] at hnodup
    have hnot : p ∉ front' := fun hmem => (List.nodup_append'.mp hnodup).2.2 hmem List.mem_cons_self
    have hnot' : p ∉ back' := (List.nodup_cons.mp (List.nodup_append'.mp hnodup).2.1).1
    obtain ⟨rfl, -, rfl⟩ := (List.append_cons_inj_of_notMem hnot hnot').mp hsort
    rcases (hplace.mem_back q).mp hq with ⟨-, hlt⟩ | ⟨hmem, hkey⟩
    · exact (hcoarse p q hlt).le
    · by_contra hfine
      have hn := h before p after he q hmem hkey (not_le.mp hfine)
      rw [← hplace.length] at hn
      exact absurd hfront (Nat.not_lt.mpr hn)

end Truncated

section Shortlist
variable {α ι κ : Type*} [LinearOrder ι] [LinearOrder κ] {near : α → ι} {far : α → κ}

/-- With two elements a list sorted by a key has two in front; the first meets whatever one of them
meets that holds of smaller keys too, and so does the second unless that one is the first. -/
theorem sorted_front {p : α → Prop} (hp : ∀ x y, near x ≤ near y → p y → p x) {l : List α}
    (hn : l.Nodup) (ha : a ∈ l) (hb : b ∈ l) (hne : a ≠ b) (hpa : p a) :
    ∃ x₀ x₁ rest, sortByKey near l = x₀ :: x₁ :: rest ∧ x₀ ≠ x₁ ∧ p x₀ ∧ (a ≠ x₀ → p x₁) := by
  have hperm : (sortByKey near l).Perm l := sortByKey_perm l
  have hsorted : (sortByKey near l).Pairwise (fun x y => near x ≤ near y) := sortByKey_sorted l
  have hnodup := hperm.nodup_iff.mpr hn
  have ha' := hperm.mem_iff.mpr ha
  have hb' := hperm.mem_iff.mpr hb
  match hs : sortByKey near l with
  | [] =>
    rw [hs] at ha'
    exact (List.not_mem_nil ha').elim
  | [x] =>
    rw [hs, List.mem_singleton] at ha' hb'
    exact (hne (ha'.trans hb'.symm)).elim
  | x₀ :: x₁ :: rest =>
    rw [hs] at ha' hsorted hnodup
    obtain ⟨hfirst, htail⟩ := List.pairwise_cons.mp hsorted
    have hdistinct : x₀ ≠ x₁ := fun h => (List.nodup_cons.mp hnodup).1 (h ▸ List.mem_cons_self)
    refine ⟨x₀, x₁, rest, rfl, hdistinct, ?_, ?_⟩
    · rcases List.mem_cons.mp ha' with rfl | hmem
      · exact hpa
      · exact hp x₀ a (hfirst a hmem) hpa
    · intro hne₀
      rcases List.mem_cons.mp ((List.mem_cons.mp ha').resolve_left hne₀) with rfl | hmem
      · exact hpa
      · exact hp x₁ a ((List.pairwise_cons.mp htail).1 a hmem) hpa

/-- Of two elements that are near enough each to its end there is a pair among the nearest of each
end, if at least two of each are looked at. -/
theorem exists_pair_take {p q : α → Prop} (hp : ∀ x y, near x ≤ near y → p y → p x)
    (hq : ∀ x y, far x ≤ far y → q y → q x) {l : List α} (hn : l.Nodup) (h2 : 2 ≤ n) :
    (∃ a ∈ (sortByKey near l).take n, ∃ b ∈ (sortByKey far l).take n, a ≠ b ∧ p a ∧ q b) ↔
      ∃ a ∈ l, ∃ b ∈ l, a ≠ b ∧ p a ∧ q b := by
  constructor
  · rintro ⟨a, ha, b, hb, h⟩
    exact ⟨a, mem_sortByKey.mp (List.mem_of_mem_take ha),
      b, mem_sortByKey.mp (List.mem_of_mem_take hb), h⟩
  · rintro ⟨a, ha, b, hb, hne, hpa, hqb⟩
    obtain ⟨x₀, x₁, xs, hx, hxne, hp₀, hp₁⟩ := sorted_front hp hn ha hb hne hpa
    obtain ⟨y₀, y₁, ys, hy, hyne, hq₀, hq₁⟩ := sorted_front hq hn hb ha hne.symm hqb
    obtain ⟨n, rfl⟩ := Nat.exists_eq_add_of_le' h2
    rw [hx, hy, List.take_succ_cons, List.take_succ_cons, List.take_succ_cons, List.take_succ_cons]
    have hmem₀ : ∀ (x : α) l, x ∈ x :: l := fun _ _ => List.mem_cons_self
    have hmem₁ : ∀ (x y : α) l, y ∈ x :: y :: l := fun x y l => .tail x (hmem₀ y l)
    by_cases hsame : x₀ = y₀
    · cases hsame
      by_cases hax : a = x₀
      · have hby : b ≠ x₀ := fun h => hne (hax.trans h.symm)
        exact ⟨x₀, hmem₀ .., y₁, hmem₁ .., hyne, hp₀, hq₁ hby⟩
      · exact ⟨x₁, hmem₁ .., x₀, hmem₀ .., hxne.symm, hp₁ hax, hq₀⟩
    · exact ⟨x₀, hmem₀ .., y₀, hmem₀ .., hsame, hp₀, hq₀⟩
end Shortlist

end P2PMesh.Base
