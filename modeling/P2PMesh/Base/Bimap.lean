import P2PMesh.Base.Table

namespace P2PMesh.Base
set_option autoImplicit true

/-- Two tables, one from keys to values and one back. -/
structure Bimap (K V : Type*) [Ord K] [Ord V] where
  forward : Std.TreeMap K V
  backward : Std.TreeMap V K

section Bimap
variable {K V : Type*} [Ord K] [Ord V]

/-- Writes both directions and deletes nothing. -/
def Bimap.put (b : Bimap K V) (k : K) (v : V) : Bimap K V :=
  ⟨b.forward.insert k v, b.backward.insert v k⟩

def Bimap.remove (b : Bimap K V) (k : K) : Bimap K V :=
  match b.forward[k]? with
  | none => b
  | some v => ⟨b.forward.erase k, b.backward.erase v⟩

def Bimap.Inverse (b : Bimap K V) : Prop :=
  ∀ (k : K) (v : V), b.forward[k]? = some v ↔ b.backward[v]? = some k

/-- The key has no other value, and the value no other key. -/
def Bimap.Free (b : Bimap K V) (k : K) (v : V) : Prop :=
  (∀ v', b.forward[k]? = some v' → v' = v) ∧ ∀ k', b.backward[v]? = some k' → k' = k

theorem Bimap.put_forward [Std.TransOrd K] [Std.LawfulEqOrd K] [DecidableEq K] (b : Bimap K V)
    (k k' : K) (v : V) :
    (b.put k v).forward[k']? = if k = k' then some v else b.forward[k']? :=
  getElem?_insert_eq _ _ _ _

theorem Bimap.put_backward [Std.TransOrd V] [Std.LawfulEqOrd V] [DecidableEq V] (b : Bimap K V)
    (k : K) (v v' : V) :
    (b.put k v).backward[v']? = if v = v' then some k else b.backward[v']? :=
  getElem?_insert_eq _ _ _ _

theorem Bimap.inverse_empty [Std.TransOrd K] [Std.TransOrd V] : (⟨∅, ∅⟩ : Bimap K V).Inverse := by
  intro k v
  rw [Std.TreeMap.getElem?_emptyc, Std.TreeMap.getElem?_emptyc]
  exact iff_of_false (Option.some_ne_none v).symm (Option.some_ne_none k).symm

variable [Std.TransOrd K] [Std.LawfulEqOrd K] [Std.TransOrd V] [Std.LawfulEqOrd V]
  [DecidableEq K] [DecidableEq V] {b : Bimap K V}

theorem Bimap.put_inverse (h : b.Inverse) (hf : b.Free k v) : (b.put k v).Inverse := by
  obtain ⟨hvalue, hkey⟩ := hf
  intro k' v'
  rw [put_forward, put_backward]
  by_cases hk : k = k'
  · subst hk
    rw [if_pos rfl]
    by_cases hv : v = v'
    · rw [if_pos hv]
      exact iff_of_true (congrArg some hv) rfl
    · rw [if_neg hv, ← h k v', Option.some.injEq]
      exact iff_of_false hv (fun hb => hv (hvalue v' hb).symm)
  · rw [if_neg hk]
    by_cases hv : v = v'
    · subst hv
      rw [if_pos rfl, h k' v, Option.some.injEq]
      exact iff_of_false (fun hb => hk (hkey k' hb).symm) hk
    · rw [if_neg hv]
      exact h k' v'

theorem Bimap.free_of_put_inverse (h : b.Inverse) (hp : (b.put k v).Inverse) : b.Free k v := by
  constructor
  · intro v' hv
    by_contra hne
    have hback : (b.put k v).backward[v']? = some k := by
      rw [put_backward, if_neg (Ne.symm hne), ← h k v', hv]
    have hforward := (hp k v').mpr hback
    rw [put_forward, if_pos rfl] at hforward
    exact hne (Option.some.inj hforward).symm
  · intro k' hk
    by_contra hne
    have hforward : (b.put k v).forward[k']? = some v := by
      rw [put_forward, if_neg (Ne.symm hne), h k' v, hk]
    have hback := (hp k' v).mp hforward
    rw [put_backward, if_pos rfl] at hback
    exact hne (Option.some.inj hback).symm

/-- Writing both directions keeps the tables inverse exactly where nothing had to be deleted. -/
theorem Bimap.put_inverse_iff (h : b.Inverse) : (b.put k v).Inverse ↔ b.Free k v :=
  ⟨free_of_put_inverse h, put_inverse h⟩

theorem Bimap.remove_inverse (h : b.Inverse) (k : K) : (b.remove k).Inverse := by
  rw [Bimap.remove]
  cases hk : b.forward[k]? with
  | none => exact h
  | some v =>
    have hv : b.backward[v]? = some k := (h k v).mp hk
    intro k' v'
    change (b.forward.erase k)[k']? = some v' ↔ (b.backward.erase v)[v']? = some k'
    rw [getElem?_erase_eq, getElem?_erase_eq]
    by_cases hkey : k = k'
    · subst hkey
      rw [if_pos rfl]
      by_cases hval : v = v'
      · rw [if_pos hval]
        exact iff_of_false (Option.some_ne_none v').symm (Option.some_ne_none k).symm
      · rw [if_neg hval, ← h k v', hk, Option.some.injEq]
        exact iff_of_false (Option.some_ne_none v').symm hval
    · rw [if_neg hkey]
      by_cases hval : v = v'
      · subst hval
        rw [if_pos rfl, h k' v, hv, Option.some.injEq]
        exact iff_of_false hkey (Option.some_ne_none k').symm
      · rw [if_neg hval]
        exact h k' v'

end Bimap

end P2PMesh.Base
