import Mathlib.Data.List.Nodup
import P2PMesh.Base.Run

namespace P2PMesh.Base
set_option autoImplicit true

/-- Holders of keys, each with a counter of its own, and the (key, count) pairs drawn so far. -/
structure Ledger (K : Type*) where
  holders : List (K × ℕ)
  drawn : List (K × ℕ)

/-- A new holder of a key starts to count at zero; a draw counts whether or not it is recorded. -/
inductive LedgerOp (K : Type*) where
  | grant (k : K)
  | draw (i : ℕ) (recorded : Bool)

section Ledger
variable {K : Type*}

def Ledger.step (l : Ledger K) : LedgerOp K → Ledger K
  | .grant k => { l with holders := l.holders ++ [(k, 0)] }
  | .draw i recorded =>
    match l.holders[i]? with
    | none => l
    | some (k, c) =>
      { holders := l.holders.set i (k, c + 1)
        drawn := if recorded then l.drawn ++ [(k, c)] else l.drawn }

/-- Nobody else has drawn under the key of the holder that draws. -/
def Ledger.Exclusive (l : Ledger K) : LedgerOp K → Prop
  | .grant _ => True
  | .draw i _ => ∀ k c, l.holders[i]? = some (k, c) →
      ∀ (j c' : ℕ), l.holders[j]? = some (k, c') → 0 < c' → j = i

structure Ledger.Inv (l : Ledger K) : Prop where
  owned : ∀ k c, (k, c) ∈ l.drawn → ∃ (i n : ℕ), l.holders[i]? = some (k, n) ∧ c < n
  single : ∀ (i j : ℕ) k m n, l.holders[i]? = some (k, m) → l.holders[j]? = some (k, n) →
    0 < m → 0 < n → i = j
  nodup : l.drawn.Nodup

theorem Ledger.inv_empty : (Ledger.mk (K := K) [] []).Inv where
  owned := fun k c h => (List.not_mem_nil h).elim
  single := fun i j k m n h => by simp at h
  nodup := List.nodup_nil

theorem getElem?_concat_some {l : List α} {i : ℕ} (h : (l ++ [a])[i]? = some b) :
    l[i]? = some b ∨ i = l.length ∧ b = a := by
  rcases Nat.lt_trichotomy i l.length with hi | hi | hi
  · rw [List.getElem?_append_left hi] at h
    exact .inl h
  · subst i
    rw [List.getElem?_concat_length] at h
    exact .inr ⟨rfl, (Option.some.inj h).symm⟩
  · rw [List.getElem?_eq_none (by simp; omega)] at h
    cases h

theorem getElem?_concat_of_some {l : List α} {i : ℕ} (a : α) (h : l[i]? = some b) :
    (l ++ [a])[i]? = some b := by
  rw [List.getElem?_append_left (List.getElem?_eq_some_iff.mp h).1]
  exact h

theorem Ledger.Inv.grant {l : Ledger K} (h : l.Inv) (k : K) : (l.step (.grant k)).Inv where
  owned := by
    intro k' c hd
    obtain ⟨i, n, hi, hc⟩ := h.owned k' c hd
    exact ⟨i, n, getElem?_concat_of_some _ hi, hc⟩
  single := by
    intro i j k' m n hi hj hm hn
    rcases getElem?_concat_some hi with hi | ⟨-, he⟩
    · rcases getElem?_concat_some hj with hj | ⟨-, he⟩
      · exact h.single i j k' m n hi hj hm hn
      · cases he
        exact (Nat.lt_irrefl 0 hn).elim
    · cases he
      exact (Nat.lt_irrefl 0 hm).elim
  nodup := h.nodup

/-- An exclusive draw keeps the drawn pairs distinct: an equal pair would have been drawn by the
same holder, at a smaller count. -/
theorem Ledger.Inv.draw {l : Ledger K} (h : l.Inv) (hx : l.Exclusive (.draw i b)) :
    (l.step (.draw i b)).Inv := by
  cases hi : l.holders[i]? with
  | none => simpa only [Ledger.step, hi] using h
  | some p =>
    obtain ⟨k, c⟩ := p
    have hlt : i < l.holders.length := (List.getElem?_eq_some_iff.mp hi).1
    have hnew : (k, c) ∉ l.drawn := by
      intro hd
      obtain ⟨j, n, hj, hc⟩ := h.owned k c hd
      have hji := hx k c hi j n hj (Nat.zero_lt_of_lt hc)
      rw [hji, hi] at hj
      cases hj
      exact Nat.lt_irrefl c hc
    have hat (j : ℕ) : (l.holders.set i (k, c + 1))[j]? =
        if i = j then some (k, c + 1) else l.holders[j]? := by
      rw [List.getElem?_set]
      simp only [hlt, ↓reduceIte]
    simp only [Ledger.step, hi]
    refine ⟨?_, ?_, ?_⟩
    · intro k' c' hd
      have hd' : (k', c') ∈ l.drawn ∨ (k', c') = (k, c) := by
        cases b with
        | false => exact .inl hd
        | true => simpa using hd
      rcases hd' with hd | he
      · obtain ⟨j, n, hj, hc⟩ := h.owned k' c' hd
        by_cases hij : i = j
        · subst j
          rw [hi] at hj
          cases hj
          exact ⟨i, c + 1, by rw [hat, if_pos rfl], Nat.lt_succ_of_lt hc⟩
        · exact ⟨j, n, by rw [hat, if_neg hij]; exact hj, hc⟩
      · cases he
        exact ⟨i, c + 1, by rw [hat, if_pos rfl], Nat.lt_succ_self c⟩
    · intro j j' k' m n hj hj' hm hn
      rw [hat] at hj hj'
      split at hj
      · next he =>
        cases hj
        split at hj'
        · next he' => exact he.symm.trans he'
        · exact (he ▸ (hx k c hi j' n hj' hn)).symm
      · split at hj'
        · next he' =>
          cases hj'
          exact he' ▸ hx k c hi j m hj hm
        · exact h.single j j' k' m n hj hj' hm hn
    · cases b with
      | false => exact h.nodup
      | true => exact List.nodup_append.mpr ⟨h.nodup, List.nodup_singleton _, by
          intro p hp q hq he
          rw [List.mem_singleton.mp hq] at he
          exact hnew (he ▸ hp)⟩

/-- Where every draw is recorded, a holder that counts `n` has drawn every count below `n`. -/
def Ledger.Full (l : Ledger K) : Prop :=
  ∀ (i : ℕ) k n, l.holders[i]? = some (k, n) → ∀ c < n, (k, c) ∈ l.drawn

theorem Ledger.Full.grant {l : Ledger K} (h : l.Full) (k : K) : (l.step (.grant k)).Full := by
  intro i k' n hi c hc
  rcases getElem?_concat_some hi with hi | ⟨-, he⟩
  · exact h i k' n hi c hc
  · cases he
    exact (Nat.not_lt_zero c hc).elim

theorem Ledger.Full.draw {l : Ledger K} (h : l.Full) (i : ℕ) :
    (l.step (.draw i true)).Full := by
  cases hi : l.holders[i]? with
  | none => simpa only [Ledger.step, hi] using h
  | some p =>
    obtain ⟨k, c⟩ := p
    simp only [Ledger.step, hi]
    intro j k' n hj c' hc
    rw [List.getElem?_set] at hj
    split at hj
    · split at hj
      · cases hj
        rcases Nat.lt_succ_iff_lt_or_eq.mp hc with hc | hc
        · exact List.mem_append_left _ (h i k c hi c' hc)
        · rw [hc]
          exact List.mem_append_right _ (List.mem_singleton_self _)
      · cases hj
    · exact List.mem_append_left _ (h j k' n hj c' hc)

/-- In a full ledger a recorded draw that is not exclusive repeats a pair. -/
theorem Ledger.Full.repeats {l : Ledger K} (hf : l.Full) (h : l.Inv)
    (hx : ¬ l.Exclusive (.draw i true)) : ¬ (l.step (.draw i true)).drawn.Nodup := by
  simp only [Ledger.Exclusive, not_forall] at hx
  obtain ⟨k, c, hi, j, c', hj, hc', hij⟩ := hx
  have hc : c = 0 := by
    by_contra hne
    exact hij (h.single j i k c' c hj hi hc' (Nat.pos_of_ne_zero hne))
  have hmem : (k, c) ∈ l.drawn := by
    rw [hc]
    exact hf j k c' hj 0 hc'
  simp only [Ledger.step, hi, ↓reduceIte]
  intro hn
  exact (List.nodup_append.mp hn).2.2 _ hmem _ (List.mem_singleton_self _) rfl

end Ledger

end P2PMesh.Base
