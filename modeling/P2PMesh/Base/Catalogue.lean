import Mathlib.Logic.Function.Basic
import P2PMesh.Base.Run

namespace P2PMesh.Base
set_option autoImplicit true

/-- The keys of each record that is stored, by the record's id, and what is filed under each key.
A record is stored first and filed under its keys one after the other; a record that is taken out
leaves its keys in the same way. -/
@[ext]
structure Catalogue (I K C : Type*) where
  record : I → Option (List K)
  filed : K → I → Prop
  pending : C → Option (I × List K)
  leaving : Option (I × List K)

inductive CatalogueEvent (I K C : Type*) where
  | store (c : C) (i : I) (keys : List K)
  | file (c : C)
  | take (i : I)
  | unfile
  | idle

section Catalogue
variable {I K C : Type*}

/-- What is still to be done, unless it is nothing. -/
def unfinished (i : I) (ks : List K) : Option (I × List K) :=
  if ks.isEmpty then none else some (i, ks)

theorem unfinished_eq_some {i : I} {ks : List K} :
    unfinished i ks = some (i', ks') ↔ ks ≠ [] ∧ i' = i ∧ ks' = ks := by
  cases ks with
  | nil => simp only [unfinished, List.isEmpty_nil, if_true, reduceCtorEq, ne_eq, not_true_eq_false,
      false_and]
  | cons k ks =>
    simp only [unfinished, List.isEmpty_cons, Bool.false_eq_true, if_false, Option.some.injEq,
      Prod.mk.injEq, ne_eq, reduceCtorEq, not_false_eq_true, true_and]
    exact and_congr eq_comm eq_comm

variable (s : Catalogue I K C)

/-- A record that is stored is filed under each of its keys, or is about to be. -/
structure Catalogue.Complete : Prop where
  filed : ∀ i keys, s.record i = some keys → ∀ k ∈ keys, s.filed k i ∨
    ∃ c ks, s.pending c = some (i, ks) ∧ k ∈ ks
  left : ∀ i ks, s.leaving = some (i, ks) → s.record i = none

/-- Whatever is filed under a key is a record with that key, or is about to leave the key. -/
def Catalogue.Exact : Prop :=
  ∀ k i, s.filed k i → (∃ keys, s.record i = some keys ∧ k ∈ keys) ∨
    ∃ ks, s.leaving = some (i, ks) ∧ k ∈ ks

/-- No record replaces one that is filed under a key that it lacks, and none is filed that has been
taken out or replaced meanwhile, unless it has still to leave that key. -/
def Catalogue.Tidy : CatalogueEvent I K C → Prop
  | .store c i keys => s.leaving = none → s.pending c = none → ∀ k, s.filed k i → k ∈ keys
  | .file c => ∀ i k ks, s.pending c = some (i, k :: ks) →
      (∃ keys, s.record i = some keys ∧ k ∈ keys) ∨ ∃ ks', s.leaving = some (i, ks') ∧ k ∈ ks'
  | _ => True

variable [DecidableEq I] [DecidableEq C]

/-- Records are stored and taken out only while none leaves. -/
def Catalogue.step : CatalogueEvent I K C → Catalogue I K C
  | .store c i keys =>
    if s.leaving.isNone ∧ (s.pending c).isNone then
      { s with
        record := Function.update s.record i (some keys)
        pending := Function.update s.pending c (unfinished i keys) }
    else s
  | .file c =>
    match s.pending c with
    | some (i, k :: ks) =>
      { s with
        filed := fun k' i' => s.filed k' i' ∨ k' = k ∧ i' = i
        pending := Function.update s.pending c (unfinished i ks) }
    | _ => s
  | .take i =>
    match s.leaving, s.record i with
    | none, some keys =>
      { s with record := Function.update s.record i none, leaving := unfinished i keys }
    | _, _ => s
  | .unfile =>
    match s.leaving with
    | some (i, k :: ks) =>
      { s with
        filed := fun k' i' => s.filed k' i' ∧ ¬ (k' = k ∧ i' = i)
        leaving := unfinished i ks }
    | _ => s
  | .idle => s

variable {s : Catalogue I K C}

theorem Catalogue.step_store (hl : s.leaving = none) (hp : s.pending c = none) (i : I)
    (keys : List K) : s.step (.store c i keys) =
      { s with
        record := Function.update s.record i (some keys)
        pending := Function.update s.pending c (unfinished i keys) } := by
  rw [Catalogue.step, if_pos ⟨by rw [hl]; rfl, by rw [hp]; rfl⟩]

theorem Catalogue.step_file (hp : s.pending c = some (i, k :: ks)) : s.step (.file c) =
    { s with
      filed := fun k' i' => s.filed k' i' ∨ k' = k ∧ i' = i
      pending := Function.update s.pending c (unfinished i ks) } := by
  rw [Catalogue.step, hp]

theorem Catalogue.step_take (hl : s.leaving = none) (hr : s.record i = some keys) :
    s.step (.take i) =
      { s with record := Function.update s.record i none, leaving := unfinished i keys } := by
  rw [Catalogue.step, hl, hr]

theorem Catalogue.step_unfile (hl : s.leaving = some (i, k :: ks)) : s.step .unfile =
    { s with
      filed := fun k' i' => s.filed k' i' ∧ ¬ (k' = k ∧ i' = i)
      leaving := unfinished i ks } := by
  rw [Catalogue.step, hl]

theorem Catalogue.Complete.store (h : s.Complete) (c : C) (i : I) (keys : List K) :
    (s.step (.store c i keys)).Complete := by
  rw [Catalogue.step]
  split
  next hfree =>
    obtain ⟨hleaving, hpending⟩ := hfree
    rw [Option.isNone_iff_eq_none] at hleaving hpending
    refine ⟨?_, fun i' ks hl => absurd (hleaving.symm.trans hl) (Option.some_ne_none _).symm⟩
    intro i' keys' hr k hk
    dsimp only at hr ⊢
    by_cases hi : i' = i
    · cases hi
      rw [Function.update_self] at hr
      cases hr
      refine .inr ⟨c, keys, ?_, hk⟩
      rw [Function.update_self, unfinished_eq_some]
      exact ⟨List.ne_nil_of_mem hk, rfl, rfl⟩
    · rw [Function.update_of_ne hi] at hr
      rcases h.filed i' keys' hr k hk with hf | ⟨c', ks, hc, hks⟩
      · exact .inl hf
      · refine .inr ⟨c', ks, ?_, hks⟩
        rw [Function.update_of_ne (by rintro rfl; rw [hpending] at hc; cases hc), hc]
  next => exact h

theorem Catalogue.Complete.file (h : s.Complete) (c : C) :
    (s.step (.file c)).Complete := by
  rw [Catalogue.step]
  split
  next i k ks hc =>
    refine ⟨?_, h.left⟩
    intro i' keys hr k' hk
    dsimp only
    rcases h.filed i' keys hr k' hk with hf | ⟨c', ks', hc', hks⟩
    · exact .inl (.inl hf)
    · by_cases he : c' = c
      · cases he
        rw [hc] at hc'
        cases hc'
        rcases List.mem_cons.mp hks with rfl | hrest
        · exact .inl (.inr ⟨rfl, rfl⟩)
        · refine .inr ⟨c, ks, ?_, hrest⟩
          rw [Function.update_self, unfinished_eq_some]
          exact ⟨List.ne_nil_of_mem hrest, rfl, rfl⟩
      · refine .inr ⟨c', ks', ?_, hks⟩
        rw [Function.update_of_ne he, hc']
  next => exact h

theorem Catalogue.Complete.take (h : s.Complete) (i : I) :
    (s.step (.take i)).Complete := by
  rw [Catalogue.step]
  split
  next keys hleaving hrecord =>
    constructor
    · intro i' keys' hr k hk
      by_cases hi : i' = i
      · cases hi
        cases (Function.update_self ..).symm.trans hr
      · exact h.filed i' keys' ((Function.update_of_ne hi ..).symm.trans hr) k hk
    · intro i' ks hl
      obtain ⟨-, rfl, -⟩ := unfinished_eq_some.mp hl
      exact Function.update_self ..
  next => exact h

/-- Nothing that stays is taken from a key, for the record that leaves is not stored. -/
theorem Catalogue.Complete.unfile (h : s.Complete) :
    (s.step .unfile).Complete := by
  rw [Catalogue.step]
  split
  next i k ks hleaving =>
    constructor
    · intro i' keys hr k' hk
      rcases h.filed i' keys hr k' hk with hf | hp
      · refine .inl ⟨hf, ?_⟩
        rintro ⟨-, rfl⟩
        cases (h.left i' _ hleaving).symm.trans hr
      · exact .inr hp
    · intro i' ks' hl
      obtain ⟨-, rfl, -⟩ := unfinished_eq_some.mp hl
      exact h.left i' _ hleaving
  next => exact h

theorem Catalogue.Complete.step (h : s.Complete) (e : CatalogueEvent I K C) :
    (s.step e).Complete := by
  cases e with
  | store c i keys => exact h.store c i keys
  | file c => exact h.file c
  | take i => exact h.take i
  | unfile => exact h.unfile
  | idle => exact h

theorem Catalogue.Exact.store_iff (h : s.Exact) (c : C) (i : I) (keys : List K) :
    (s.step (.store c i keys)).Exact ↔ s.Tidy (.store c i keys) := by
  rw [Catalogue.step, Catalogue.Tidy]
  split
  next hfree =>
    obtain ⟨hleaving, hpending⟩ := hfree
    rw [Option.isNone_iff_eq_none] at hleaving hpending
    constructor
    · intro hexact _ _ k hf
      rcases hexact k i hf with ⟨keys', hr, hk⟩ | ⟨ks, hl, -⟩
      · cases (Function.update_self ..).symm.trans hr
        exact hk
      · cases hleaving.symm.trans hl
    · intro htidy k i' hf
      by_cases hi : i' = i
      · cases hi
        exact .inl ⟨keys, Function.update_self .., htidy hleaving hpending k hf⟩
      · rcases h k i' hf with ⟨keys', hr, hk⟩ | hl
        · exact .inl ⟨keys', (Function.update_of_ne hi ..).trans hr, hk⟩
        · exact .inr hl
  next hfree =>
    refine iff_of_true h (fun hleaving hpending => (hfree ?_).elim)
    rw [hleaving, hpending]
    exact ⟨rfl, rfl⟩

theorem Catalogue.Exact.file_iff (h : s.Exact) (c : C) :
    (s.step (.file c)).Exact ↔ s.Tidy (.file c) := by
  rw [Catalogue.step, Catalogue.Tidy]
  split
  next i k ks hc =>
    constructor
    · intro hexact i' k' ks' hc'
      cases hc.symm.trans hc'
      exact hexact k i (.inr ⟨rfl, rfl⟩)
    · intro htidy k' i' hf
      rcases hf with hf | ⟨rfl, rfl⟩
      · exact h k' i' hf
      · exact htidy i' k' ks hc
  next hc =>
    exact iff_of_true h (fun i k ks hc' => (hc i k ks hc').elim)

theorem Catalogue.Exact.take (h : s.Exact) (i : I) : (s.step (.take i)).Exact := by
  rw [Catalogue.step]
  split
  next keys hleaving hrecord =>
    intro k i' hf
    rcases h k i' hf with ⟨keys', hr, hk⟩ | ⟨ks, hl, -⟩
    · by_cases hi : i' = i
      · cases hi
        cases hrecord.symm.trans hr
        refine .inr ⟨keys, ?_, hk⟩
        exact unfinished_eq_some.mpr ⟨List.ne_nil_of_mem hk, rfl, rfl⟩
      · exact .inl ⟨keys', (Function.update_of_ne hi ..).trans hr, hk⟩
    · cases hleaving.symm.trans hl
  next => exact h

theorem Catalogue.Exact.unfile (h : s.Exact) : (s.step .unfile).Exact := by
  rw [Catalogue.step]
  split
  next i k ks hleaving =>
    rintro k' i' ⟨hf, hne⟩
    rcases h k' i' hf with hr | ⟨ks', hl, hk⟩
    · exact .inl hr
    · cases hleaving.symm.trans hl
      rcases List.mem_cons.mp hk with rfl | hrest
      · exact (hne ⟨rfl, rfl⟩).elim
      · exact .inr ⟨ks, unfinished_eq_some.mpr ⟨List.ne_nil_of_mem hrest, rfl, rfl⟩, hrest⟩
  next => exact h

theorem Catalogue.Exact.step_iff (h : s.Exact) (e : CatalogueEvent I K C) :
    (s.step e).Exact ↔ s.Tidy e := by
  cases e with
  | store c i keys => exact h.store_iff c i keys
  | file c => exact h.file_iff c
  | take i => exact iff_of_true (h.take i) trivial
  | unfile => exact iff_of_true h.unfile trivial
  | idle => exact iff_of_true h trivial

omit [DecidableEq I] [DecidableEq C] in
theorem Catalogue.Exact.filed_iff (h : s.Exact) (hc : s.Complete)
    (hpending : ∀ c, s.pending c = none) (hleaving : s.leaving = none) (k : K) (i : I) :
    s.filed k i ↔ ∃ keys, s.record i = some keys ∧ k ∈ keys := by
  constructor
  · intro hf
    rcases h k i hf with hr | ⟨ks, hl, -⟩
    · exact hr
    · cases hleaving.symm.trans hl
  · rintro ⟨keys, hr, hk⟩
    rcases hc.filed i keys hr k hk with hf | ⟨c, ks, hp, -⟩
    · exact hf
    · cases (hpending c).symm.trans hp

end Catalogue

end P2PMesh.Base
