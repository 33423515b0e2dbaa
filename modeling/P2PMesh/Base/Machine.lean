import Mathlib.Algebra.Group.Nat.Defs
import Mathlib.Data.List.Basic

namespace P2PMesh.Base
set_option autoImplicit true

/-- A call that does not return normally fails with an error value or panics. -/
inductive Fault (ε : Type) where
  | err (e : ε)
  | panic
deriving DecidableEq

instance decidableEqExcept [DecidableEq ε] [DecidableEq α] : DecidableEq (Except ε α)
  | .ok a, .ok b => decidable_of_iff (a = b) (by simp)
  | .error a, .error b => decidable_of_iff (a = b) (by simp)
  | .ok _, .error _ => .isFalse (by simp)
  | .error _, .ok _ => .isFalse (by simp)

/-- 64-bit addition as the compiled program does it: a build with overflow checks panics where
the sum does not fit, a build without them wraps. -/
def addU64 (overflowChecks : Bool) (a b : UInt64) : Option UInt64 :=
  if overflowChecks && decide (2 ^ 64 ≤ a.toNat + b.toNat) then none else some (a + b)

theorem addU64_toNat (h : addU64 c a b = some s) : s.toNat = (a.toNat + b.toNat) % 2 ^ 64 := by
  unfold addU64 at h
  split at h
  · cases h
  · cases h
    exact UInt64.toNat_add a b

theorem addU64_fits (h : addU64 true a b = some s) : s.toNat = a.toNat + b.toNat := by
  have hm := addU64_toNat h
  unfold addU64 at h
  split at h
  · cases h
  · next hc =>
    simp only [Bool.true_and, decide_eq_true_eq, Nat.not_le] at hc
    rw [hm, Nat.mod_eq_of_lt hc]

theorem addU64_eq_none : addU64 c a b = none ↔ c = true ∧ 2 ^ 64 ≤ a.toNat + b.toNat := by
  rw [addU64, ite_eq_left_iff, Bool.not_eq_true, Bool.and_eq_false_imp]
  simp

theorem addU64_eq (c : Bool) (a b : UInt64) : addU64 c a b =
    if c = true ∧ 2 ^ 64 ≤ a.toNat + b.toNat then none
    else some (UInt64.ofNat (a.toNat + b.toNat)) := by
  rw [addU64, UInt64.ofNat_add, UInt64.ofNat_toNat, UInt64.ofNat_toNat]
  simp only [Bool.and_eq_true, decide_eq_true_eq]

theorem addU64_none (h : addU64 c a b = none) : 2 ^ 64 ≤ a.toNat + b.toNat :=
  (addU64_eq_none.mp h).2

theorem addU64_none_of_some (h : addU64 c a b = none) (hs : addU64 c a d = some s) :
    addU64 c s b = none := by
  obtain ⟨hc, hle⟩ := addU64_eq_none.mp h
  rw [hc] at hs
  have hfits := addU64_fits hs
  refine addU64_eq_none.mpr ⟨hc, ?_⟩
  omega

/-- 32-bit addition that stops at the largest value. -/
def saturatingAddU32 (a b : UInt32) : UInt32 :=
  if 2 ^ 32 ≤ a.toNat + b.toNat then 4294967295 else a + b

theorem saturatingAddU32_toNat (a b : UInt32) :
    (saturatingAddU32 a b).toNat = min (a.toNat + b.toNat) 4294967295 := by
  rw [saturatingAddU32]
  split
  · next hc =>
    rw [Nat.min_eq_right (by omega)]
    rfl
  · next hc =>
    rw [UInt32.toNat_add, Nat.mod_eq_of_lt (by omega), Nat.min_eq_left (by omega)]

theorem le_saturatingAddU32 (a b : UInt32) : a ≤ saturatingAddU32 a b := by
  have ha := a.toNat_lt
  rw [UInt32.le_iff_toNat_le, saturatingAddU32_toNat]
  omega

theorem saturatingAddU32_mono {a b : UInt32} (h : a ≤ b) (c : UInt32) :
    saturatingAddU32 a c ≤ saturatingAddU32 b c := by
  rw [UInt32.le_iff_toNat_le] at h
  rw [UInt32.le_iff_toNat_le, saturatingAddU32_toNat, saturatingAddU32_toNat]
  omega

/-- 64-bit addition that stops at the largest value. -/
def saturatingAddU64 (a b : UInt64) : UInt64 :=
  if 2 ^ 64 ≤ a.toNat + b.toNat then 18446744073709551615 else a + b

theorem saturatingAddU64_toNat (a b : UInt64) :
    (saturatingAddU64 a b).toNat = min (a.toNat + b.toNat) 18446744073709551615 := by
  rw [saturatingAddU64]
  split
  · next hc =>
    rw [Nat.min_eq_right (by omega)]
    rfl
  · next hc =>
    rw [UInt64.toNat_add, Nat.mod_eq_of_lt (by omega), Nat.min_eq_left (by omega)]

theorem addU64_wraps (a b : UInt64) : addU64 false a b = some (a + b) := rfl

end P2PMesh.Base
