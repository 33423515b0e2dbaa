import P2PMesh.Base.Machine

namespace P2PMesh.Base
set_option autoImplicit true

section Counter

theorem succ64_toNat (n : UInt64) :
    (n + 1).toNat = if n = 18446744073709551615 then 0 else n.toNat + 1 := by
  split
  · next he =>
    rw [he]
    rfl
  · next hne =>
    have hn := n.toNat_lt
    have hne' : n.toNat ≠ 18446744073709551615 := fun he => hne (UInt64.toNat_inj.mp he)
    rw [UInt64.toNat_add]
    exact Nat.mod_eq_of_lt (a := n.toNat + 1) (by omega)

theorem succ64_toNat_eq_iff (n : UInt64) :
    (n + 1).toNat = n.toNat + 1 ↔ n ≠ 18446744073709551615 := by
  rw [succ64_toNat]
  split
  · next he =>
    refine iff_of_false ?_ (not_not.mpr he)
    omega
  · next hne => exact iff_of_true rfl hne

theorem succ32_toNat (n : UInt32) :
    (n + 1).toNat = if n = 4294967295 then 0 else n.toNat + 1 := by
  split
  · next he =>
    rw [he]
    rfl
  · next hne =>
    have hn := n.toNat_lt
    have hne' : n.toNat ≠ 4294967295 := fun he => hne (UInt32.toNat_inj.mp he)
    rw [UInt32.toNat_add]
    exact Nat.mod_eq_of_lt (a := n.toNat + 1) (by omega)

theorem succ32_toNat_eq_iff (n : UInt32) :
    (n + 1).toNat = n.toNat + 1 ↔ n ≠ 4294967295 := by
  rw [succ32_toNat]
  split
  · next he =>
    refine iff_of_false ?_ (not_not.mpr he)
    omega
  · next hne => exact iff_of_true rfl hne

theorem addU64_one (c : Bool) (n : UInt64) :
    addU64 c n 1 = if c = true ∧ n = 18446744073709551615 then none else some (n + 1) := by
  have hfull : 2 ^ 64 ≤ n.toNat + (1 : UInt64).toNat ↔ n = 18446744073709551615 := by
    have hn := n.toNat_lt
    rw [← UInt64.toNat_inj]
    change 2 ^ 64 ≤ n.toNat + 1 ↔ n.toNat = 18446744073709551615
    omega
  rw [addU64]
  simp only [Bool.and_eq_true, decide_eq_true_eq, hfull]

end Counter

section Unless
variable {P Q : Prop} [Decidable P] [Decidable Q]

theorem unless_bind (a : α) (f : α → Option β) :
    (if P then none else some a).bind f = if P then none else f a := by
  split
  · rfl
  · rfl

theorem unless_unless (x : Option α) :
    (if P then none else if Q then none else x) = if P ∨ Q then none else x := by
  by_cases hP : P
  · rw [if_pos hP, if_pos (.inl hP)]
  · simp only [if_neg hP, or_iff_right hP]

theorem exists_unless_iff {V : α → Prop} (a : α) :
    (∃ b, (if P then none else some a) = some b ∧ V b) ↔ ¬ P ∧ V a := by
  split
  · next hP => simp only [reduceCtorEq, false_and, exists_false, hP, not_true]
  · next hP => simp only [Option.some.injEq, exists_eq_left', hP, not_false_eq_true, true_and]

end Unless

end P2PMesh.Base
