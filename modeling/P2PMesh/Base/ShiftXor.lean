import Mathlib.Data.List.Induction

namespace P2PMesh.Base
set_option autoImplicit true

section ShiftXor
variable {w : Nat} (k : BitVec w)

/-- For each bit that is set a word is added without carry, and after each bit all is shifted. The
latest bit comes first. -/
def shiftXor : List Bool → BitVec w
  | [] => 0
  | b :: earlier => (shiftXor earlier ^^^ (if b then k else 0)) <<< 1

/-- One bit is taken in. -/
def shiftXorStep (hash : BitVec w) (b : Bool) : BitVec w :=
  (if b then hash ^^^ k else hash) <<< 1

theorem foldl_shiftXorStep (bits : List Bool) :
    bits.foldl (shiftXorStep k) 0 = shiftXor k bits.reverse := by
  induction bits using List.reverseRecOn with
  | nil => rfl
  | append_singleton bits b ih =>
    rw [List.foldl_append, ih, List.reverse_append]
    change shiftXorStep k (shiftXor k bits.reverse) b = shiftXor k (b :: bits.reverse)
    rw [shiftXorStep, shiftXor]
    cases b with
    | true => rfl
    | false =>
      change shiftXor k bits.reverse <<< 1 = (shiftXor k bits.reverse ^^^ 0#w) <<< 1
      rw [BitVec.xor_zero]

theorem shiftXor_append_replicate (bits : List Bool) (n : Nat) :
    shiftXor k (bits ++ List.replicate n false) = shiftXor k bits := by
  induction bits with
  | nil =>
    induction n with
    | zero => rfl
    | succ n ih =>
      rw [List.nil_append] at ih ⊢
      change (shiftXor k (List.replicate n false) ^^^ 0#w) <<< 1 = 0#w
      rw [ih, BitVec.xor_zero]
      exact BitVec.zero_shiftLeft 1
  | cons b bits ih => rw [List.cons_append, shiftXor, shiftXor, ih]

variable {k} {t : Nat}

theorem getLsbD_shiftXor_cons (b : Bool) (earlier : List Bool) (i : Nat) :
    (shiftXor k (b :: earlier)).getLsbD i =
      (decide (i < w) && !decide (i < 1) &&
        ((shiftXor k earlier).getLsbD (i - 1) ^^ (b && k.getLsbD (i - 1)))) := by
  rw [shiftXor, BitVec.getLsbD_shiftLeft, BitVec.getLsbD_xor]
  cases b with
  | true => rfl
  | false =>
    congr 2
    exact BitVec.getLsbD_zero

theorem getLsbD_shiftXor_low (hlow : ∀ i < t, k.getLsbD i = false) (bits : List Bool)
    (hi : i ≤ t) : (shiftXor k bits).getLsbD i = false := by
  induction bits generalizing i with
  | nil => exact BitVec.getLsbD_zero
  | cons b earlier ih =>
    rw [getLsbD_shiftXor_cons]
    cases i with
    | zero =>
      rw [decide_eq_true Nat.zero_lt_one, Bool.not_true, Bool.and_false, Bool.false_and]
    | succ i =>
      rw [Nat.add_sub_cancel, ih (by omega), hlow i (by omega), Bool.and_false, Bool.false_xor,
        Bool.and_false]

/-- Of so many bits of the result, each bit of the input but the first few ones decides one. -/
theorem shiftXor_congr_iff (hlow : ∀ i < t, k.getLsbD i = false) (hbit : k.getLsbD t = true)
    {l l' : List Bool} (hlen : l.length = l'.length) {m : Nat} (hm : m ≤ w) :
    (∀ i < m, (shiftXor k l).getLsbD i = (shiftXor k l').getLsbD i) ↔
      l.take (m - 1 - t) = l'.take (m - 1 - t) := by
  induction l generalizing l' m with
  | nil =>
    rw [List.length_nil] at hlen
    rw [List.length_eq_zero_iff.mp hlen.symm]
    exact iff_of_true (fun _ _ => rfl) rfl
  | cons b l ih =>
    cases l' with
    | nil => cases hlen
    | cons b' l' =>
      by_cases hshort : m ≤ t + 1
      · rw [show m - 1 - t = 0 by omega]
        refine iff_of_true (fun i hi => ?_) rfl
        rw [getLsbD_shiftXor_low hlow _ (by omega), getLsbD_shiftXor_low hlow _ (by omega)]
      · obtain ⟨n, rfl⟩ : ∃ n, m = n + 1 := ⟨m - 1, by omega⟩
        have hrest := ih (Nat.succ.inj hlen) (m := n) (by omega)
        have hshift : (∀ i < n + 1,
            (shiftXor k (b :: l)).getLsbD i = (shiftXor k (b' :: l')).getLsbD i) ↔
              ∀ i < n, ((shiftXor k l).getLsbD i ^^ (b && k.getLsbD i)) =
                ((shiftXor k l').getLsbD i ^^ (b' && k.getLsbD i)) := by
          simp only [getLsbD_shiftXor_cons]
          constructor
          · intro h i hi
            have hsucc := h (i + 1) (by omega)
            rw [decide_eq_true (by omega : i + 1 < w), decide_eq_false (by omega : ¬ i + 1 < 1),
              Nat.add_sub_cancel] at hsucc
            exact hsucc
          · intro h i hi
            cases i with
            | zero =>
              rw [decide_eq_true Nat.zero_lt_one, Bool.not_true, Bool.and_false, Bool.false_and,
                Bool.false_and]
            | succ i => rw [Nat.add_sub_cancel, h i (by omega)]
        have htake : n + 1 - 1 - t = n - 1 - t + 1 := by omega
        rw [hshift, htake, List.take_succ_cons, List.take_succ_cons, List.cons.injEq, ← hrest]
        constructor
        · intro h
          have hb := h t (by omega)
          rw [getLsbD_shiftXor_low hlow _ (Nat.le_refl t), hbit, Bool.and_true, Bool.false_xor,
            getLsbD_shiftXor_low hlow _ (Nat.le_refl t), Bool.and_true, Bool.false_xor] at hb
          refine ⟨hb, fun i hi => ?_⟩
          have hx := h i hi
          rw [hb] at hx
          exact Bool.xor_left_inj.mp hx
        · rintro ⟨rfl, h⟩ i hi
          rw [h i hi]

/-- Every result in which that bit and all below it are clear comes out, as far as there are bits to
put in. -/
theorem exists_shiftXor (hlow : ∀ i < t, k.getLsbD i = false) (hbit : k.getLsbD t = true)
    (n : Nat) {v : BitVec w} (hv : ∀ i ≤ t, v.getLsbD i = false) :
    ∃ bits : List Bool, bits.length = n ∧
      ∀ i < n, (shiftXor k bits).getLsbD i = v.getLsbD i := by
  induction n generalizing v with
  | zero => exact ⟨[], rfl, fun i hi => (Nat.not_lt_zero i hi).elim⟩
  | succ n ih =>
    have hv' : ∀ i ≤ t, ((v >>> 1) ^^^ (if v.getLsbD (t + 1) then k else 0)).getLsbD i =
        false := by
      intro i hi
      rw [BitVec.getLsbD_xor, BitVec.getLsbD_ushiftRight, Nat.add_comm 1]
      by_cases he : i = t
      · rw [he]
        cases hb : v.getLsbD (t + 1) with
        | true =>
          rw [if_pos rfl, hbit]
          rfl
        | false =>
          change (false ^^ (0 : BitVec w).getLsbD t) = false
          rw [Bool.false_xor]
          exact BitVec.getLsbD_zero
      · rw [hv (i + 1) (by omega), Bool.false_xor]
        split
        · exact hlow i (by omega)
        · exact BitVec.getLsbD_zero
    obtain ⟨bits, hlen, hbits⟩ := ih hv'
    refine ⟨v.getLsbD (t + 1) :: bits, by rw [List.length_cons, hlen], fun i hi => ?_⟩
    rw [getLsbD_shiftXor_cons]
    cases i with
    | zero =>
      rw [hv 0 (Nat.zero_le t), decide_eq_true Nat.zero_lt_one, Bool.not_true, Bool.and_false,
        Bool.false_and]
    | succ i =>
      rw [Nat.add_sub_cancel, hbits i (by omega), BitVec.getLsbD_xor, BitVec.getLsbD_ushiftRight,
        Nat.add_comm 1, Bool.xor_assoc]
      have hcancel : ((if v.getLsbD (t + 1) then k else 0).getLsbD i ^^
          (v.getLsbD (t + 1) && k.getLsbD i)) = false := by
        cases v.getLsbD (t + 1) with
        | true => exact Bool.xor_self _
        | false =>
          rw [Bool.false_and, Bool.xor_false]
          exact BitVec.getLsbD_zero
      rw [hcancel, Bool.xor_false, decide_eq_false (by omega : ¬ i + 1 < 1), Bool.not_false,
        Bool.and_true]
      by_cases hw : i + 1 < w
      · rw [decide_eq_true hw, Bool.true_and]
      · rw [decide_eq_false hw, Bool.false_and, BitVec.getLsbD_of_ge _ _ (by omega)]

end ShiftXor

end P2PMesh.Base
