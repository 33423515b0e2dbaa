import Mathlib.Logic.Function.Basic

namespace P2PMesh.Base
set_option autoImplicit true

/-- Sessions that work under keys, and for each key the session that messages for it go to. -/
structure Registry (K S : Type*) where
  entry : K → Option S
  live : S → Option K

/-- A session registers and takes the entry of its key; one that closes takes the entry away,
whoever stands there; one that is lost leaves it; and an entry may be dropped from outside. -/
inductive RegistryEvent (K S : Type*) where
  | register (s : S) (k : K)
  | close (s : S)
  | lose (s : S)
  | drop (k : K)

section Registry
variable {K S : Type*}

/-- Every key with a live session is that of an entry of a live session. -/
def Registry.Owned (r : Registry K S) : Prop :=
  ∀ s k, r.live s = some k → ∃ s', r.entry k = some s' ∧ r.live s' = some k

/-- No other live session has the key of the session. -/
def Registry.Sole (r : Registry K S) (s : S) : Prop :=
  ∀ k, r.live s = some k → ∀ s', r.live s' = some k → s' = s

/-- A session closes only as the last one of its key, and so is lost one that stands in the entry;
and no entry is dropped of a key with a live session. -/
def Registry.Alone (r : Registry K S) : RegistryEvent K S → Prop
  | .register _ _ => True
  | .close s => r.Sole s
  | .lose s => (∀ k, r.live s = some k → r.entry k = some s) → r.Sole s
  | .drop k => ∀ s, r.live s ≠ some k

variable [DecidableEq K] [DecidableEq S]

def Registry.step (r : Registry K S) : RegistryEvent K S → Registry K S
  | .register s k =>
    match r.live s with
    | none => ⟨Function.update r.entry k (some s), Function.update r.live s (some k)⟩
    | some _ => r
  | .close s =>
    match r.live s with
    | none => r
    | some k => ⟨Function.update r.entry k none, Function.update r.live s none⟩
  | .lose s => { r with live := Function.update r.live s none }
  | .drop k => { r with entry := Function.update r.entry k none }

variable {r : Registry K S}

theorem Registry.Owned.register (h : r.Owned) (s : S) (k : K) : (r.step (.register s k)).Owned := by
  rw [Registry.step]
  cases hs : r.live s with
  | some k' => exact h
  | none =>
    have hlive : ∀ s' k', r.live s' = some k' →
        (Function.update r.live s (some k)) s' = some k' := by
      intro s' k' hs'
      rw [Function.update_of_ne (by rintro rfl; rw [hs] at hs'; cases hs'), hs']
    intro s' k' hs'
    dsimp only at hs'
    by_cases hk : k' = k
    · cases hk
      exact ⟨s, Function.update_self .., Function.update_self ..⟩
    · have hold : r.live s' = some k' := by
        by_cases he : s' = s
        · cases he
          rw [Function.update_self] at hs'
          exact (hk (Option.some.inj hs').symm).elim
        · rwa [Function.update_of_ne he] at hs'
      obtain ⟨owner, hentry, howner⟩ := h s' k' hold
      refine ⟨owner, ?_, hlive owner k' howner⟩
      dsimp only
      rw [Function.update_of_ne hk, hentry]

theorem Registry.Owned.close_iff (h : r.Owned) (s : S) :
    (r.step (.close s)).Owned ↔ r.Sole s := by
  rw [Registry.step]
  cases hs : r.live s with
  | none =>
    refine iff_of_true h ?_
    intro k hk
    rw [hs] at hk
    cases hk
  | some k =>
    dsimp only
    constructor
    · intro hclosed k' hk' s' hs'
      rw [hs] at hk'
      cases hk'
      by_contra hne
      obtain ⟨owner, hentry, -⟩ := hclosed s' k ((Function.update_of_ne hne ..).trans hs')
      dsimp only at hentry
      rw [Function.update_self] at hentry
      cases hentry
    · intro hsole s' k' hs'
      dsimp only at hs'
      have hne : s' ≠ s := by
        rintro rfl
        rw [Function.update_self] at hs'
        cases hs'
      rw [Function.update_of_ne hne] at hs'
      have hk : k' ≠ k := by
        rintro rfl
        exact hne (hsole k' hs s' hs')
      obtain ⟨owner, hentry, howner⟩ := h s' k' hs'
      have howner' : owner ≠ s := by
        rintro rfl
        rw [hs] at howner
        exact hk (Option.some.inj howner).symm
      exact ⟨owner, (Function.update_of_ne hk ..).trans hentry,
        (Function.update_of_ne howner' ..).trans howner⟩

theorem Registry.Owned.lose_iff (h : r.Owned) (s : S) :
    (r.step (.lose s)).Owned ↔ r.Alone (.lose s) := by
  constructor
  · intro hlost hstands k hk s' hs'
    by_contra hne
    obtain ⟨owner, hentry, howner⟩ := hlost s' k ((Function.update_of_ne hne ..).trans hs')
    have hsame : owner = s := Option.some.inj (hentry.symm.trans (hstands k hk))
    rw [hsame] at howner
    dsimp only [Registry.step] at howner
    rw [Function.update_self] at howner
    cases howner
  · intro halone s' k hs'
    dsimp only [Registry.step] at hs'
    have hne : s' ≠ s := by
      rintro rfl
      rw [Function.update_self] at hs'
      cases hs'
    rw [Function.update_of_ne hne] at hs'
    obtain ⟨owner, hentry, howner⟩ := h s' k hs'
    have howner' : owner ≠ s := by
      rintro rfl
      refine hne (halone ?_ k howner s' hs')
      intro k' hk'
      rw [howner] at hk'
      cases hk'
      exact hentry
    exact ⟨owner, hentry, (Function.update_of_ne howner' ..).trans howner⟩

theorem Registry.Owned.drop_iff (h : r.Owned) (k : K) :
    (r.step (.drop k)).Owned ↔ ∀ s, r.live s ≠ some k := by
  constructor
  · intro hdropped s hs
    obtain ⟨owner, hentry, -⟩ := hdropped s k hs
    dsimp only [Registry.step] at hentry
    rw [Function.update_self] at hentry
    cases hentry
  · intro hnone s k' hs
    have hk : k' ≠ k := by
      rintro rfl
      exact hnone s hs
    obtain ⟨owner, hentry, howner⟩ := h s k' hs
    exact ⟨owner, (Function.update_of_ne hk ..).trans hentry, howner⟩

/-- An event leaves every live session's key with a live entry exactly when it is alone. -/
theorem Registry.Owned.step_iff (h : r.Owned) (e : RegistryEvent K S) :
    (r.step e).Owned ↔ r.Alone e := by
  cases e with
  | register s k => exact iff_of_true (h.register s k) trivial
  | close s => exact h.close_iff s
  | lose s => exact h.lose_iff s
  | drop k => exact h.drop_iff k

theorem Registry.Owned.elim_iff (h : r.Owned) (e : Option (RegistryEvent K S)) :
    (e.elim r r.step).Owned ↔ ∀ e' ∈ e, r.Alone e' := by
  cases e with
  | none =>
    apply iff_of_true h
    intro e he
    cases he
  | some e =>
    rw [Option.elim_some, h.step_iff e]
    simp only [Option.mem_def, Option.some_inj, forall_eq']

end Registry

end P2PMesh.Base
