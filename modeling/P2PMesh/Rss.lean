import Mathlib.Data.List.Basic
import Mathlib.Data.Nat.Bitwise
import P2PMesh.Base.Bytes
import P2PMesh.Base.ShiftXor

namespace P2PMesh.Dpdk
open P2PMesh.Base
set_option autoImplicit true

/-- Of the configuration of receive side scaling, what the hash is computed from. -/
structure RssConfig where
  hashKey : ByteArr 40
  reta : List UInt16

theorem defaultKey_length : [0x6d, 0x5a, 0x56, 0xda, 0x25, 0x5b, 0x0e, 0xc2, 0x41, 0x67, 0x25, 0x3d,
    0x43, 0xa3, 0x8f, 0xb0, 0xd0, 0xca, 0x2b, 0xcb, 0xae, 0x7b, 0x30, 0xb4, 0x77, 0xcb, 0x2d, 0xa3,
    0x80, 0x30, 0xf2, 0x0c, 0x6a, 0x42, 0xb7, 0x3b, 0xbe, 0xac, 0x01, (0xfa : UInt8)].length = 40 :=
  rfl

def RssConfig.default : RssConfig where
  hashKey := ⟨_, defaultKey_length⟩
  reta := [0, 1, 2, 3]

/-- The only four bytes of the key that are used. -/
def RssConfig.hashWord (c : RssConfig) : BitVec 32 := .ofNat 32 (ofBe (c.hashKey.bytes.take 4))

section Hash
variable (c : RssConfig) (srcIp dstIp : ByteArr 4) (srcPort dstPort : UInt16)

def hashInput : Bytes :=
  srcIp.bytes ++ dstIp.bytes ++
    [(srcPort >>> 8).toUInt8, srcPort.toUInt8, (dstPort >>> 8).toUInt8, dstPort.toUInt8]

/-- Each bit of the input, from the highest of each byte down. -/
def RssConfig.toeplitzHash : BitVec 32 :=
  (hashInput srcIp dstIp srcPort dstPort).foldl
    (fun hash byte => (List.range 8).foldl
      (fun hash bit =>
        (if byte &&& (1 <<< (7 - UInt8.ofNat bit)) ≠ 0 then hash ^^^ c.hashWord else hash) <<<
          (1 : Nat))
      hash)
    0

/-- `none` is the panic of a remainder by zero. -/
def RssConfig.getQueue : Option UInt16 :=
  if c.reta.length = 0 then none
  else c.reta[(c.toeplitzHash srcIp dstIp srcPort dstPort).toNat % c.reta.length]?

end Hash

section Bits

/-- The bits of some bytes, the highest first. -/
def bitsOf (data : Bytes) : List Bool :=
  data.flatMap (fun byte => (List.range 8).map (fun bit => byte.toNat.testBit (7 - bit)))

theorem mask_toNat : ∀ bit < 8, ((1 : UInt8) <<< (7 - UInt8.ofNat bit)).toNat = 2 ^ (7 - bit) := by
  decide

theorem bit_iff (byte : UInt8) {bit : Nat} (hbit : bit < 8) :
    byte &&& (1 <<< (7 - UInt8.ofNat bit)) ≠ 0 ↔ byte.toNat.testBit (7 - bit) = true := by
  rw [ne_eq, ← UInt8.toNat_inj, UInt8.toNat_and, mask_toNat bit hbit, Nat.and_two_pow]
  change ¬ _ = 0 ↔ _
  cases byte.toNat.testBit (7 - bit) with
  | true =>
    refine iff_of_true ?_ rfl
    rw [Bool.toNat_true, Nat.one_mul]
    exact Nat.ne_of_gt (Nat.two_pow_pos _)
  | false => exact iff_of_false (fun h => h (Nat.zero_mul _)) Bool.false_ne_true

theorem reverse_byte (x : Nat) :
    ((List.range 8).map (fun bit => x.testBit (7 - bit))).reverse =
      (List.range 8).map x.testBit := rfl

theorem reverse_bitsOf (data : Bytes) :
    (bitsOf data).reverse = (List.range (8 * data.length)).map (ofBe data).testBit := by
  induction data using List.reverseRecOn with
  | nil => rfl
  | append_singleton data byte ih =>
    have happend : (bitsOf (data ++ [byte])).reverse =
        (List.range 8).map byte.toNat.testBit ++ (bitsOf data).reverse := by
      rw [bitsOf, List.flatMap_append, List.reverse_append, List.flatMap_singleton, reverse_byte]
      rfl
    rw [happend, ih, List.length_append, List.length_singleton, Nat.mul_add, Nat.mul_one,
      Nat.add_comm (8 * data.length), List.range_add, List.map_append, List.map_map]
    have hbyte : byte.toNat < 2 ^ 8 := byte.toNat_lt
    have hbe : ofBe (data ++ [byte]) = 2 ^ 8 * ofBe data + byte.toNat := by
      rw [ofBe_concat]
      omega
    rw [hbe]
    congr 1
    · apply List.map_congr_left
      intro i hi
      rw [Nat.testBit_two_pow_mul_add _ hbyte, if_pos (List.mem_range.mp hi)]
    · apply List.map_congr_left
      intro i _
      change (ofBe data).testBit i = (2 ^ 8 * ofBe data + byte.toNat).testBit (8 + i)
      rw [Nat.testBit_two_pow_mul_add _ hbyte, if_neg (by omega), Nat.add_sub_cancel_left]

end Bits

section Ports
variable (c : RssConfig) (srcIp dstIp : ByteArr 4) (srcPort dstPort : UInt16)

/-- Both ports in one number. -/
def portPair : Nat := srcPort.toNat * 2 ^ 16 + dstPort.toNat

theorem ofBe_hashInput : ofBe (hashInput srcIp dstIp srcPort dstPort) =
    ofBe (srcIp.bytes ++ dstIp.bytes) * 2 ^ 32 + portPair srcPort dstPort := by
  have hsrc := srcPort.toNat_lt
  have hdst := dstPort.toNat_lt
  have hhigh (port : UInt16) : (port >>> 8).toUInt8.toNat = port.toNat / 256 := by
    have hport := port.toNat_lt
    rw [UInt16.toNat_toUInt8, UInt16.toNat_shiftRight]
    change port.toNat >>> 8 % 256 = port.toNat / 256
    rw [Nat.shiftRight_eq_div_pow]
    omega
  have hlow (port : UInt16) : port.toUInt8.toNat = port.toNat % 256 := UInt16.toNat_toUInt8 port
  have hports : ofBe [(srcPort >>> 8).toUInt8, srcPort.toUInt8, (dstPort >>> 8).toUInt8,
      dstPort.toUInt8] = portPair srcPort dstPort := by
    rw [ofBe, List.foldl_cons, List.foldl_cons, List.foldl_cons, List.foldl_cons, List.foldl_nil,
      hhigh, hhigh, hlow, hlow, portPair]
    omega
  rw [hashInput, ofBe_append, hports, List.length_cons, List.length_cons, List.length_cons,
    List.length_cons, List.length_nil]
  omega

theorem toeplitzHash_eq : c.toeplitzHash srcIp dstIp srcPort dstPort =
    shiftXor c.hashWord
      ((List.range 96).map (ofBe (hashInput srcIp dstIp srcPort dstPort)).testBit) := by
  have hstep (hash : BitVec 32) (byte : UInt8) : (List.range 8).foldl (fun hash bit =>
      (if byte &&& (1 <<< (7 - UInt8.ofNat bit)) ≠ 0 then hash ^^^ c.hashWord else hash) <<<
        (1 : Nat)) hash =
      ((List.range 8).map (fun bit => byte.toNat.testBit (7 - bit))).foldl
        (shiftXorStep c.hashWord) hash := by
    rw [List.foldl_map]
    apply List.foldl_ext
    intro h bit hbit
    simp only [bit_iff byte (List.mem_range.mp hbit), shiftXorStep]
  have hlen : (hashInput srcIp dstIp srcPort dstPort).length = 12 := by
    rw [hashInput, List.length_append, List.length_append, srcIp.length_eq, dstIp.length_eq]
    rfl
  rw [RssConfig.toeplitzHash]
  simp only [hstep]
  rw [← List.foldl_flatMap, ← bitsOf, foldl_shiftXorStep, reverse_bitsOf, hlen]

end Ports

section Flows
variable {c : RssConfig} {t : Nat}

/-- The lowest bit that is set in the first word of the key. -/
structure RssConfig.LowestBit (c : RssConfig) (t : Nat) : Prop where
  clear : ∀ i < t, c.hashWord.getLsbD i = false
  set : c.hashWord.getLsbD t = true

theorem RssConfig.LowestBit.lt (h : c.LowestBit t) : t < 32 := by
  by_contra hge
  have hset := h.set
  rw [BitVec.getLsbD_of_ge _ _ (Nat.le_of_not_lt hge)] at hset
  cases hset

theorem map_range_testBit_eq_iff {x y n : Nat} :
    (List.range n).map x.testBit = (List.range n).map y.testBit ↔ x % 2 ^ n = y % 2 ^ n := by
  rw [List.map_inj_left]
  constructor
  · intro h
    apply Nat.eq_of_testBit_eq
    intro i
    rw [Nat.testBit_mod_two_pow, Nat.testBit_mod_two_pow]
    by_cases hi : i < n
    · rw [h i (List.mem_range.mpr hi)]
    · rw [decide_eq_false hi, Bool.false_and, Bool.false_and]
  · intro h i hi
    have hbit := congrArg (fun z => z.testBit i) h
    change (x % 2 ^ n).testBit i = (y % 2 ^ n).testBit i at hbit
    rw [Nat.testBit_mod_two_pow, Nat.testBit_mod_two_pow,
      decide_eq_true (List.mem_range.mp hi)] at hbit
    exact hbit

theorem take_range (n m : Nat) (h : n ≤ m) : (List.range m).take n = List.range n := by
  rw [List.take_range, Nat.min_eq_left h]

/-- Two flows have the same hash exactly if their ports agree but for the highest bits, one more of
them than there are clear bits below the lowest one set in the first word of the key: the addresses
make no difference, nor does the highest bit of the source port. -/
theorem RssConfig.toeplitzHash_eq_iff (h : c.LowestBit t) (srcIp dstIp srcIp' dstIp' : ByteArr 4)
    (srcPort dstPort srcPort' dstPort' : UInt16) :
    c.toeplitzHash srcIp dstIp srcPort dstPort = c.toeplitzHash srcIp' dstIp' srcPort' dstPort' ↔
      portPair srcPort dstPort % 2 ^ (31 - t) = portPair srcPort' dstPort' % 2 ^ (31 - t) := by
  have hmod (x p : Nat) : (x * 2 ^ 32 + p) % 2 ^ (31 - t) = p % 2 ^ (31 - t) := by
    have hpow : 2 ^ 32 = 2 ^ (t + 1) * 2 ^ (31 - t) := by
      have ht := h.lt
      rw [← Nat.pow_add]
      congr 1
      omega
    rw [hpow, ← Nat.mul_assoc, Nat.mul_add_mod_self_right]
  have hbits (v v' : BitVec 32) : v = v' ↔ ∀ i < 32, v.getLsbD i = v'.getLsbD i :=
    ⟨fun he i _ => congrArg (fun v => v.getLsbD i) he,
      fun hb => BitVec.eq_of_getLsbD_eq (fun i hi => hb i hi)⟩
  rw [toeplitzHash_eq, toeplitzHash_eq, hbits,
    shiftXor_congr_iff h.clear h.set (by rw [List.length_map, List.length_map]) (Nat.le_refl 32),
    ← List.map_take, ← List.map_take, take_range _ 96 (by omega), map_range_testBit_eq_iff,
    ofBe_hashInput, ofBe_hashInput, hmod, hmod]

theorem RssConfig.default_lowestBit : RssConfig.default.LowestBit 1 := ⟨by decide, by decide⟩

theorem RssConfig.toeplitzHash_eq_iff_default :
    RssConfig.default.toeplitzHash ⟨[10, 0, 0, 1], rfl⟩ ⟨[10, 0, 0, 2], rfl⟩ 1 443 =
      RssConfig.default.toeplitzHash ⟨[192, 168, 1, 9], rfl⟩ ⟨[8, 8, 8, 8], rfl⟩ 49153 443 :=
  (RssConfig.toeplitzHash_eq_iff RssConfig.default_lowestBit _ _ _ _ _ _ _ _).mpr (by decide)

theorem exists_testBit (bits : List Bool) :
    ∃ x < 2 ^ bits.length, bits = (List.range bits.length).map x.testBit := by
  refine ⟨(BitVec.ofBoolListLE bits).toNat, (BitVec.ofBoolListLE bits).isLt, ?_⟩
  apply List.ext_getElem?
  intro i
  rw [List.getElem?_map]
  by_cases hi : i < bits.length
  · rw [List.getElem?_range hi, Option.map_some, List.getElem?_eq_getElem hi]
    congr 1
    change bits[i] = (BitVec.ofBoolListLE bits).getLsbD i
    rw [BitVec.getLsbD_ofBoolListLE, List.getD_eq_getElem _ _ hi]
  · rw [List.getElem?_eq_none (Nat.le_of_not_lt hi), List.getElem?_eq_none]
    · rfl
    · rw [List.length_range]
      exact Nat.le_of_not_lt hi

theorem portPair_split {p : Nat} (hp : p < 2 ^ 32) :
    portPair (.ofNat (p / 2 ^ 16)) (.ofNat (p % 2 ^ 16)) = p := by
  rw [portPair, UInt16.toNat_ofNat', UInt16.toNat_ofNat']
  omega

/-- The hashes that occur are the multiples of a power of two. -/
theorem RssConfig.exists_toeplitzHash_iff (h : c.LowestBit t) (v : BitVec 32) :
    (∃ srcIp dstIp srcPort dstPort, c.toeplitzHash srcIp dstIp srcPort dstPort = v) ↔
      2 ^ (t + 1) ∣ v.toNat := by
  have hdvd : 2 ^ (t + 1) ∣ v.toNat ↔ ∀ i ≤ t, v.getLsbD i = false := by
    rw [Nat.dvd_iff_mod_eq_zero]
    constructor
    · intro hmod i hi
      have hbit := congrArg (fun z => z.testBit i) hmod
      change (v.toNat % 2 ^ (t + 1)).testBit i = Nat.testBit 0 i at hbit
      rw [Nat.testBit_mod_two_pow, decide_eq_true (Nat.lt_succ_of_le hi), Nat.zero_testBit] at hbit
      exact hbit
    · intro hv
      apply Nat.eq_of_testBit_eq
      intro i
      rw [Nat.testBit_mod_two_pow, Nat.zero_testBit]
      by_cases hi : i < t + 1
      · exact Bool.and_eq_false_imp.mpr (fun _ => hv i (Nat.le_of_lt_succ hi))
      · rw [decide_eq_false hi, Bool.false_and]
  rw [hdvd]
  constructor
  · rintro ⟨srcIp, dstIp, srcPort, dstPort, rfl⟩ i hi
    rw [toeplitzHash_eq]
    exact getLsbD_shiftXor_low h.clear _ hi
  · intro hv
    obtain ⟨bits, hlen, hbits⟩ := exists_shiftXor h.clear h.set 32 hv
    obtain ⟨p, hp, hmap⟩ := exists_testBit bits
    rw [hlen] at hp hmap
    refine ⟨.zero 4, .zero 4, .ofNat (p / 2 ^ 16), .ofNat (p % 2 ^ 16), ?_⟩
    have hhigh : (List.range 96).map p.testBit = bits ++ List.replicate 64 false := by
      have hclear : (List.range 64).map (p.testBit ∘ (32 + ·)) = List.replicate 64 false := by
        rw [List.eq_replicate_iff, List.length_map, List.length_range]
        refine ⟨rfl, fun b hb => ?_⟩
        obtain ⟨i, -, rfl⟩ := List.mem_map.mp hb
        exact Nat.testBit_lt_two_pow
          (Nat.lt_of_lt_of_le hp (Nat.pow_le_pow_right (by decide) (Nat.le_add_right 32 i)))
      rw [hmap, ← hclear, ← List.map_map, ← List.map_append, ← List.range_add]
    have hzero : ofBe ((ByteArr.zero 4).bytes ++ (ByteArr.zero 4).bytes) = 0 := rfl
    rw [toeplitzHash_eq, ofBe_hashInput, portPair_split hp, hzero, Nat.zero_mul, Nat.zero_add,
      hhigh, shiftXor_append_replicate]
    exact BitVec.eq_of_getLsbD_eq hbits

/-- The queues that flows are sent to are those that the table has at the multiples of a power of
two, modulo its length. -/
theorem RssConfig.exists_getQueue_iff (h : c.LowestBit t) (queue : UInt16) :
    (∃ srcIp dstIp srcPort dstPort, c.getQueue srcIp dstIp srcPort dstPort = some queue) ↔
      ∃ j < 2 ^ (31 - t), c.reta[j * 2 ^ (t + 1) % c.reta.length]? = some queue := by
  have ht := h.lt
  have hpow : 2 ^ 32 = 2 ^ (31 - t) * 2 ^ (t + 1) := by
    rw [← Nat.pow_add]
    congr 1
    omega
  have hget (idx : Nat) (hidx : c.reta[idx]? = some queue) : c.reta.length ≠ 0 := by
    intro hempty
    rw [List.length_eq_zero_iff.mp hempty] at hidx
    cases hidx
  constructor
  · rintro ⟨srcIp, dstIp, srcPort, dstPort, hqueue⟩
    obtain ⟨j, hj⟩ := (RssConfig.exists_toeplitzHash_iff h _).mp
      ⟨srcIp, dstIp, srcPort, dstPort, rfl⟩
    rw [RssConfig.getQueue] at hqueue
    split at hqueue
    · cases hqueue
    · refine ⟨j, ?_, ?_⟩
      · have hlt := (c.toeplitzHash srcIp dstIp srcPort dstPort).isLt
        rw [hj, hpow, Nat.mul_comm] at hlt
        exact Nat.lt_of_mul_lt_mul_right hlt
      · rw [Nat.mul_comm, ← hj]
        exact hqueue
  · rintro ⟨j, hj, hqueue⟩
    have hlt : j * 2 ^ (t + 1) < 2 ^ 32 := by
      rw [hpow]
      exact Nat.mul_lt_mul_of_pos_right hj (Nat.two_pow_pos _)
    have hnat : (BitVec.ofNat 32 (j * 2 ^ (t + 1))).toNat = j * 2 ^ (t + 1) := by
      rw [BitVec.toNat_ofNat, Nat.mod_eq_of_lt hlt]
    obtain ⟨srcIp, dstIp, srcPort, dstPort, hhash⟩ :=
      (RssConfig.exists_toeplitzHash_iff h (.ofNat 32 (j * 2 ^ (t + 1)))).mpr
        (by rw [hnat]; exact Nat.dvd_mul_left _ _)
    refine ⟨srcIp, dstIp, srcPort, dstPort, ?_⟩
    rw [RssConfig.getQueue, if_neg (hget _ hqueue), hhash, hnat]
    exact hqueue

theorem RssConfig.exists_getQueue_iff_default :
    ¬ ∃ srcIp dstIp srcPort dstPort,
      RssConfig.default.getQueue srcIp dstIp srcPort dstPort = some 3 := by
  rw [RssConfig.exists_getQueue_iff RssConfig.default_lowestBit]
  rintro ⟨j, -, hj⟩
  change [(0 : UInt16), 1, 2, 3][j * 4 % 4]? = some 3 at hj
  rw [Nat.mul_mod_left] at hj
  cases hj

end Flows

end P2PMesh.Dpdk
