import P2PMesh.Base.Bytes

namespace P2PMesh.Base.XorMetric
set_option autoImplicit true

/-- The bits of a byte string, the most significant of each byte first; behind its end they are
zero. -/
def bit (data : Bytes) (i : Nat) : Bool := (data.getD (i / 8) 0).toBitVec.getMsbD (i % 8)

def leadingZeros (b : UInt8) : Nat := b.toBitVec.clz.toNat

/-- The exclusive or of two byte strings. -/
def distance (a b : ByteArr n) : ByteArr n :=
  ⟨List.zipWith (· ^^^ ·) a.bytes b.bytes, by
    rw [List.length_zipWith, a.length_eq, b.length_eq, Nat.min_self]⟩

/-- The first bit that is set. -/
structure FirstSet (data : Bytes) (i : Nat) : Prop where
  set : bit data i = true
  before : ∀ j < i, bit data j = false

/-- The first bit in which two byte strings differ. -/
structure FirstDifference (a b : ByteArr n) (i : Nat) : Prop where
  differ : bit a.bytes i ≠ bit b.bytes i
  agree : ∀ j < i, bit a.bytes j = bit b.bytes j

section Bits

theorem bit_cons_of_lt (b : UInt8) (data : Bytes) (h : i < 8) :
    bit (b :: data) i = b.toBitVec.getMsbD i := by
  rw [bit, Nat.div_eq_of_lt h, Nat.mod_eq_of_lt h, List.getD_cons_zero]

theorem bit_cons_add (b : UInt8) (data : Bytes) (i : Nat) :
    bit (b :: data) (8 + i) = bit data i := by
  rw [bit, Nat.add_comm 8, Nat.add_div_right i (by decide), Nat.add_mod_right,
    List.getD_cons_succ, bit]

theorem leadingZeros_firstSet {b : UInt8} (h : b ≠ 0) :
    leadingZeros b < 8 ∧ b.toBitVec.getMsbD (leadingZeros b) = true ∧
      ∀ j < leadingZeros b, b.toBitVec.getMsbD j = false := by
  have hall : ∀ v : BitVec 8, v ≠ 0 → v.clz.toNat < 8 ∧ v.getMsbD v.clz.toNat = true ∧
      ∀ j < 8, j < v.clz.toNat → v.getMsbD j = false := by decide +kernel
  have hv : b.toBitVec ≠ 0 := fun hzero => h (UInt8.eq_of_toBitVec_eq hzero)
  obtain ⟨hlt, hset, hbefore⟩ := hall b.toBitVec hv
  exact ⟨hlt, hset, fun j hj => hbefore j (Nat.lt_trans hj hlt) hj⟩

theorem firstSet_head {b : UInt8} (h : b ≠ 0) (data : Bytes) :
    FirstSet (b :: data) (leadingZeros b) := by
  obtain ⟨hlt, hset, hbefore⟩ := leadingZeros_firstSet h
  constructor
  · rw [bit_cons_of_lt b data hlt, hset]
  · intro j hj
    rw [bit_cons_of_lt b data (Nat.lt_trans hj hlt), hbefore j hj]

theorem FirstSet.cons_zero {data : Bytes} (h : FirstSet data i) : FirstSet (0 :: data) (8 + i) := by
  constructor
  · rw [bit_cons_add, h.set]
  · intro j hj
    rcases Nat.lt_or_ge j 8 with hlt | hge
    · rw [bit_cons_of_lt 0 data hlt]
      exact BitVec.getMsbD_zero
    · obtain ⟨k, rfl⟩ := Nat.exists_eq_add_of_le hge
      rw [bit_cons_add, h.before k (by omega)]

end Bits

section Distance
variable {a b c : ByteArr n}

theorem bit_distance (a b : ByteArr n) (i : Nat) :
    bit (distance a b).bytes i = (bit a.bytes i ^^ bit b.bytes i) := by
  rw [bit, bit, bit, ← BitVec.getMsbD_xor, ← UInt8.toBitVec_xor]
  congr 2
  change (List.zipWith (· ^^^ ·) a.bytes b.bytes).getD (i / 8) 0 = _
  have hlength : a.bytes.length = b.bytes.length := a.length_eq.trans b.length_eq.symm
  generalize a.bytes = xs at hlength ⊢
  generalize b.bytes = ys at hlength ⊢
  generalize i / 8 = k
  induction xs generalizing ys k with
  | nil =>
    cases ys with
    | nil => simp only [List.zipWith_nil_left, List.getD_nil, UInt8.xor_self]
    | cons y ys => cases hlength
  | cons x xs ih =>
    cases ys with
    | nil => cases hlength
    | cons y ys =>
      cases k with
      | zero => rfl
      | succ k => exact ih ys (Nat.succ.inj hlength) k

theorem firstSet_distance_iff : FirstSet (distance a b).bytes i ↔ FirstDifference a b i := by
  constructor
  · intro h
    constructor
    · have hset := h.set
      rw [bit_distance, Bool.xor_iff_ne] at hset
      exact hset
    · intro j hj
      have hbefore := h.before j hj
      rw [bit_distance, bne_eq_false_iff_eq] at hbefore
      exact hbefore
  · intro h
    constructor
    · rw [bit_distance, Bool.xor_iff_ne]
      exact h.differ
    · intro j hj
      rw [bit_distance, bne_eq_false_iff_eq]
      exact h.agree j hj

theorem distance_self (a : ByteArr n) : ∀ x ∈ (distance a a).bytes, x = 0 := by
  intro x hx
  change x ∈ List.zipWith (· ^^^ ·) a.bytes a.bytes at hx
  rw [List.zipWith_self] at hx
  obtain ⟨y, -, rfl⟩ := List.mem_map.mp hx
  exact UInt8.xor_self

theorem eq_of_zipWith_xor_zero {xs ys : Bytes} (hlength : xs.length = ys.length)
    (h : ∀ x ∈ List.zipWith (· ^^^ ·) xs ys, x = 0) : xs = ys := by
  induction xs generalizing ys with
  | nil =>
    cases ys with
    | nil => rfl
    | cons y ys => cases hlength
  | cons x xs ih =>
    cases ys with
    | nil => cases hlength
    | cons y ys =>
      rw [List.zipWith_cons_cons, List.forall_mem_cons] at h
      rw [UInt8.xor_eq_zero_iff.mp h.1, ih (Nat.succ.inj hlength) h.2]

theorem eq_of_distance_zero (h : ∀ x ∈ (distance a b).bytes, x = 0) : a = b :=
  ByteArr.ext (eq_of_zipWith_xor_zero (a.length_eq.trans b.length_eq.symm) h)

end Distance

end P2PMesh.Base.XorMetric
