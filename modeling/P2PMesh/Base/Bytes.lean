import Mathlib.Tactic.Ring
import Mathlib.Data.List.Induction

namespace P2PMesh.Base
set_option autoImplicit true

abbrev Bytes := List UInt8

def ascii (s : String) : Bytes := s.toList.map (fun c => UInt8.ofNat c.toNat)

structure ByteArr (n : Nat) where
  bytes : Bytes
  length_eq : bytes.length = n
deriving DecidableEq

attribute [simp] ByteArr.length_eq

theorem ByteArr.ext {a b : ByteArr n} (h : a.bytes = b.bytes) : a = b := by
  cases a
  cases b
  cases h
  rfl

def ByteArr.zero (n : Nat) : ByteArr n := ⟨List.replicate n 0, List.length_replicate⟩

/-- Copying the front of a slice into a zeroed array of width `n`. -/
def ByteArr.ofSlice (n : Nat) (data : Bytes) : ByteArr n :=
  ⟨(data ++ List.replicate n 0).take n, by simp⟩

theorem ByteArr.ofSlice_append (a : ByteArr n) (rest : Bytes) :
    ByteArr.ofSlice n (a.bytes ++ rest) = a := by
  apply ByteArr.ext
  change ((a.bytes ++ rest) ++ List.replicate n 0).take n = a.bytes
  rw [List.append_assoc, List.take_append_of_le_length (Nat.le_of_eq a.length_eq.symm)]
  exact List.take_of_length_le (Nat.le_of_eq a.length_eq)

@[simp] theorem ByteArr.ofSlice_bytes (a : ByteArr n) : ByteArr.ofSlice n a.bytes = a := by
  simpa only [List.append_nil] using ofSlice_append a []

theorem ByteArr.ofSlice_padded {data : Bytes} (h : data.length ≤ n) :
    (ByteArr.ofSlice n data).bytes = data ++ List.replicate (n - data.length) 0 := by
  have hn : n - data.length ≤ n := Nat.sub_le n data.length
  change (data ++ List.replicate n 0).take n = _
  rw [List.take_append, List.take_of_length_le h, List.take_replicate,
    Nat.min_eq_left hn]

theorem ByteArr.drop_append (a : ByteArr n) (rest : Bytes) :
    (a.bytes ++ rest).drop n = rest := by
  simp

/-- The last `w` base-256 digits of a number, the most significant first. -/
def toBe : Nat → Nat → Bytes
  | 0, _ => []
  | w + 1, n => toBe w (n / 256) ++ [UInt8.ofNat n]

def ofBe (data : Bytes) : Nat := data.foldl (fun acc b => acc * 256 + b.toNat) 0

@[simp] theorem toBe_length (w n : Nat) : (toBe w n).length = w := by
  induction w generalizing n with
  | zero => rfl
  | succ w ih => simp only [toBe, List.length_append, ih, List.length_singleton]

theorem ofBe_concat (data : Bytes) (b : UInt8) :
    ofBe (data ++ [b]) = ofBe data * 256 + b.toNat := by
  simp only [ofBe, List.foldl_append, List.foldl_cons, List.foldl_nil]

theorem ofBe_append (data rest : Bytes) :
    ofBe (data ++ rest) = ofBe data * 256 ^ rest.length + ofBe rest := by
  induction rest using List.reverseRecOn with
  | nil => rw [List.append_nil, List.length_nil, Nat.pow_zero, Nat.mul_one]; rfl
  | append_singleton rest b ih =>
    rw [← List.append_assoc, ofBe_concat, ih, ofBe_concat, List.length_append,
      List.length_singleton, Nat.pow_succ, Nat.add_mul, Nat.mul_assoc, Nat.add_assoc]

theorem ofBe_toBe (w n : Nat) : ofBe (toBe w n) = n % 256 ^ w := by
  induction w generalizing n with
  | zero => simp [toBe, ofBe, Nat.mod_one]
  | succ w ih =>
    have hb : (UInt8.ofNat n).toNat = n % 256 := by simp
    rw [toBe, ofBe_concat, ih, hb, Nat.pow_succ', Nat.mod_mul]
    omega

theorem ofBe_toBe_of_lt (h : n < 256 ^ w) : ofBe (toBe w n) = n := by
  rw [ofBe_toBe, Nat.mod_eq_of_lt h]

theorem toBe_injective (hm : m < 256 ^ w) (hn : n < 256 ^ w) (h : toBe w m = toBe w n) :
    m = n := by
  rw [← ofBe_toBe_of_lt hm, h, ofBe_toBe_of_lt hn]

theorem ofBe_lt (data : Bytes) : ofBe data < 256 ^ data.length := by
  induction data using List.reverseRecOn with
  | nil => exact Nat.one_pos
  | append_singleton data b ih =>
    have hb := b.toNat_lt
    rw [ofBe_concat, List.length_append, List.length_singleton, Nat.pow_succ]
    omega

theorem toBe_ofBe (data : Bytes) : toBe data.length (ofBe data) = data := by
  induction data using List.reverseRecOn with
  | nil => rfl
  | append_singleton data b ih =>
    have hb := b.toNat_lt
    have hdiv : (ofBe data * 256 + b.toNat) / 256 = ofBe data := by omega
    have hlast : UInt8.ofNat (ofBe data * 256 + b.toNat) = b := by
      apply UInt8.toNat_inj.mp
      rw [UInt8.toNat_ofNat']
      omega
    rw [ofBe_concat, List.length_append, List.length_singleton, toBe, hdiv, ih, hlast]

theorem toBe_congr_mod (w n : Nat) : toBe w (n % 256 ^ w) = toBe w n := by
  induction w generalizing n with
  | zero => rfl
  | succ w ih =>
    have hd : n % 256 ^ (w + 1) / 256 = n / 256 % 256 ^ w := by
      rw [Nat.pow_succ', Nat.mod_mul_right_div_self]
    have hb : UInt8.ofNat (n % 256 ^ (w + 1)) = UInt8.ofNat n := by
      apply UInt8.toNat_inj.mp
      simp only [UInt8.toNat_ofNat']
      exact Nat.mod_mod_of_dvd n (Dvd.intro_left (256 ^ w) rfl)
    rw [toBe, toBe, hd, ih, hb]

def ByteArr.ofNat (w n : Nat) : ByteArr w := ⟨toBe w n, toBe_length w n⟩

def ByteArr.toNat (a : ByteArr w) : Nat := ofBe a.bytes

@[simp] theorem ByteArr.toNat_ofNat (w n : Nat) :
    (ByteArr.ofNat w n).toNat = n % 256 ^ w := ofBe_toBe w n

end P2PMesh.Base
