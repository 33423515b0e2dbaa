import P2PMesh.Base.Bytes

namespace P2PMesh.Base
set_option autoImplicit true

abbrev Ipv4Addr := BitVec 32
abbrev Ipv6Addr := BitVec 128

inductive IpAddr where
  | v4 (a : Ipv4Addr)
  | v6 (a : Ipv6Addr)
deriving DecidableEq

structure SocketAddr where
  ip : IpAddr
  port : UInt16
deriving DecidableEq

def IpAddr.version : IpAddr → Nat
  | .v4 _ => 4
  | .v6 _ => 6

def IpAddr.bits : IpAddr → Nat
  | .v4 a => a.toNat
  | .v6 a => a.toNat

instance : Ord IpAddr where
  compare := compareLex (compareOn IpAddr.version) (compareOn IpAddr.bits)

instance : Std.TransOrd IpAddr :=
  inferInstanceAs (Std.TransCmp (compareLex (compareOn IpAddr.version) (compareOn IpAddr.bits)))

instance : Std.LawfulEqOrd IpAddr where
  eq_of_compare {a b} h := by
    obtain ⟨hv, hb⟩ := Ordering.then_eq_eq.mp h
    have hversion : a.version = b.version := Std.compare_eq_iff_eq.mp hv
    have hbits : a.bits = b.bits := Std.compare_eq_iff_eq.mp hb
    cases a with
    | v4 a =>
      cases b with
      | v4 b => rw [BitVec.eq_of_toNat_eq hbits]
      | v6 b => cases hversion
    | v6 a =>
      cases b with
      | v4 b => cases hversion
      | v6 b => rw [BitVec.eq_of_toNat_eq hbits]

instance : Ord SocketAddr where
  compare := compareLex (compareOn SocketAddr.ip) (compareOn SocketAddr.port)

instance : Std.TransOrd SocketAddr :=
  inferInstanceAs (Std.TransCmp (compareLex (compareOn SocketAddr.ip) (compareOn SocketAddr.port)))

instance : Std.LawfulEqOrd SocketAddr where
  eq_of_compare {a b} h := by
    obtain ⟨hi, hp⟩ := Ordering.then_eq_eq.mp h
    cases a
    cases b
    cases Std.compare_eq_iff_eq.mp hi
    cases Std.compare_eq_iff_eq.mp hp
    rfl

/-- An IPv4 address with a prefix length; the host bits of the address may be set. -/
structure Ipv4Net where
  addr : Ipv4Addr
  prefixLen : Nat
  prefixLen_le : prefixLen ≤ 32
deriving DecidableEq

instance : Ord Ipv4Net where
  compare := compareLex (compareOn Ipv4Net.addr) (compareOn Ipv4Net.prefixLen)

instance : Std.TransOrd Ipv4Net :=
  inferInstanceAs
    (Std.TransCmp (compareLex (compareOn Ipv4Net.addr) (compareOn Ipv4Net.prefixLen)))

instance : Std.LawfulEqOrd Ipv4Net where
  eq_of_compare {c c'} h := by
    obtain ⟨ha, hp⟩ := Ordering.then_eq_eq.mp h
    cases c
    cases c'
    cases Std.compare_eq_iff_eq.mp ha
    cases Std.compare_eq_iff_eq.mp hp
    rfl

/-- The address agrees with the network's on the bits of the prefix. -/
def Ipv4Net.Covers (c : Ipv4Net) (a : Ipv4Addr) : Prop :=
  a >>> (32 - c.prefixLen) = c.addr >>> (32 - c.prefixLen)

instance (c : Ipv4Net) (a : Ipv4Addr) : Decidable (c.Covers a) :=
  inferInstanceAs (Decidable (_ = _))

/-- A library of IPv4 networks: their text, its parser and the membership test. -/
structure Ipnet where
  toString : Ipv4Net → String
  parse : String → Option Ipv4Net
  contains : Ipv4Net → Ipv4Addr → Bool

structure Ipnet.Lawful (N : Ipnet) : Prop where
  parse_toString : ∀ c, N.parse (N.toString c) = some c
  contains_iff : ∀ c a, N.contains c a = true ↔ c.Covers a

theorem Ipnet.Lawful.toString_injective {N : Ipnet} (hN : N.Lawful) {c c' : Ipv4Net}
    (h : N.toString c = N.toString c') : c = c' := by
  have hp := hN.parse_toString c
  rw [h, hN.parse_toString c'] at hp
  exact (Option.some.inj hp).symm

def decimal (n : Nat) : List Char := Nat.toDigits 10 n

/-- A decimal number of at most `width` digits below `bound`, and the rest of the text. -/
def readNumber (width bound : Nat) (s : List Char) : Option (Nat × List Char) :=
  let digits := s.takeWhile Char.isDigit
  if digits = [] ∨ width < digits.length then none
  else
    let n := Nat.ofDigitChars 10 digits 0
    if n < bound then some (n, s.dropWhile Char.isDigit) else none

theorem decimal_isDigit (h : c ∈ decimal n) : c.isDigit = true :=
  Nat.isDigit_of_mem_toDigits (by decide) (by decide) h

theorem takeWhile_decimal (hs : ∀ c ∈ s.head?, c.isDigit = false) :
    (decimal n ++ s).takeWhile Char.isDigit = decimal n := by
  rw [List.takeWhile_append_of_pos (fun c hc => decimal_isDigit hc)]
  cases s with
  | nil => simp
  | cons c s => simp [hs c rfl]

theorem dropWhile_decimal (hs : ∀ c ∈ s.head?, c.isDigit = false) :
    (decimal n ++ s).dropWhile Char.isDigit = s := by
  rw [List.dropWhile_append_of_pos (fun c hc => decimal_isDigit hc)]
  cases s with
  | nil => rfl
  | cons c s => simp [hs c rfl]

theorem readNumber_decimal (hw : 0 < width) (hn : n < 10 ^ width) (hb : n < bound)
    (hs : ∀ c ∈ s.head?, c.isDigit = false) :
    readNumber width bound (decimal n ++ s) = some (n, s) := by
  have hl : (decimal n).length ≤ width :=
    (Nat.length_toDigits_le_iff (by decide) hw).mpr hn
  have hv : Nat.ofDigitChars 10 (decimal n) 0 = n := Nat.ofDigitChars_ten_toDigits
  simp only [readNumber, takeWhile_decimal hs, dropWhile_decimal hs, hv, hb, ↓reduceIte]
  exact if_neg (not_or.mpr ⟨Nat.toDigits_ne_nil, Nat.not_lt.mpr hl⟩)

def dotted : Bytes → List Char
  | [] => []
  | [b] => decimal b.toNat
  | b :: bs => decimal b.toNat ++ '.' :: dotted bs

def readOctets : Nat → List Char → Option (Bytes × List Char)
  | 0, s => some ([], s)
  | 1, s => (readNumber 3 256 s).map (fun r => ([UInt8.ofNat r.1], r.2))
  | k + 1, s =>
    match readNumber 3 256 s with
    | some (n, '.' :: s) => (readOctets k s).map (fun r => (UInt8.ofNat n :: r.1, r.2))
    | _ => none

theorem readNumber_octet (b : UInt8) (hs : ∀ c ∈ s.head?, c.isDigit = false) :
    readNumber 3 256 (decimal b.toNat ++ s) = some (b.toNat, s) := by
  have hb := b.toNat_lt
  exact readNumber_decimal (by decide) (by omega) hb hs

theorem readOctets_dotted (bs : Bytes) (hs : ∀ c ∈ s.head?, c.isDigit = false) :
    readOctets bs.length (dotted bs ++ s) = some (bs, s) := by
  induction bs with
  | nil => rfl
  | cons b bs ih =>
    cases bs with
    | nil =>
      change (readNumber 3 256 (decimal b.toNat ++ s)).map _ = _
      rw [readNumber_octet b hs, Option.map_some, UInt8.ofNat_toNat]
    | cons b' bs =>
      have hdot : ∀ c ∈ ('.' :: (dotted (b' :: bs) ++ s)).head?, c.isDigit = false := by
        intro c hc
        cases hc
        rfl
      have hr : readOctets (b :: b' :: bs).length (dotted (b :: b' :: bs) ++ s) =
          (readOctets (b' :: bs).length (dotted (b' :: bs) ++ s)).map
            (fun r => (UInt8.ofNat b.toNat :: r.1, r.2)) := by
        simp only [dotted, List.append_assoc, List.cons_append, List.length_cons, readOctets,
          readNumber_octet b hdot]
      rw [hr, ih, Option.map_some, UInt8.ofNat_toNat]

def Ipv4Net.text (c : Ipv4Net) : String :=
  String.ofList (dotted (toBe 4 c.addr.toNat) ++ '/' :: decimal c.prefixLen)

def Ipv4Net.ofText (s : String) : Option Ipv4Net :=
  match readOctets 4 s.toList with
  | some (bs, '/' :: s) =>
    match readNumber 2 33 s with
    | some (p, []) => if h : p ≤ 32 then some ⟨.ofNat 32 (ofBe bs), p, h⟩ else none
    | _ => none
  | _ => none

theorem Ipv4Net.ofText_text (c : Ipv4Net) : ofText c.text = some c := by
  have hslash : ∀ ch ∈ ('/' :: decimal c.prefixLen).head?, ch.isDigit = false := by
    intro ch hc
    cases hc
    rfl
  have ho : readOctets 4 c.text.toList =
      some (toBe 4 c.addr.toNat, '/' :: decimal c.prefixLen) := by
    have h := readOctets_dotted (toBe 4 c.addr.toNat) hslash
    rwa [toBe_length, ← String.toList_ofList (l := dotted _ ++ _)] at h
  have hp : readNumber 2 33 (decimal c.prefixLen) = some (c.prefixLen, []) := by
    have h := c.prefixLen_le
    have hr : readNumber 2 33 (decimal c.prefixLen ++ []) = some (c.prefixLen, []) :=
      readNumber_decimal (by decide) (by omega) (by omega) (by simp)
    rwa [List.append_nil] at hr
  have ha : BitVec.ofNat 32 (ofBe (toBe 4 c.addr.toNat)) = c.addr := by
    rw [ofBe_toBe_of_lt (by simpa using c.addr.isLt), BitVec.ofNat_toNat, BitVec.setWidth_eq]
  simp only [ofText, ho, hp, c.prefixLen_le, ↓reduceDIte, ha]

/-- Membership as the test between the first and the last address of the network. -/
def Ipv4Net.inRange (c : Ipv4Net) (a : Ipv4Addr) : Bool :=
  let size := 2 ^ (32 - c.prefixLen)
  let network := c.addr.toNat / size * size
  decide (network ≤ a.toNat ∧ a.toNat < network + size)

theorem div_eq_iff_mem_block (hs : 0 < size) :
    x / size = n ↔ n * size ≤ x ∧ x < n * size + size := by
  rw [Nat.div_eq_iff hs]
  omega

theorem Ipv4Net.inRange_iff (c : Ipv4Net) (a : Ipv4Addr) : c.inRange a = true ↔ c.Covers a := by
  have hb := div_eq_iff_mem_block (x := a.toNat) (n := c.addr.toNat / 2 ^ (32 - c.prefixLen))
    (Nat.two_pow_pos (32 - c.prefixLen))
  rw [inRange, decide_eq_true_eq, ← hb, Covers, ← BitVec.toNat_inj, BitVec.toNat_ushiftRight,
    BitVec.toNat_ushiftRight, Nat.shiftRight_eq_div_pow, Nat.shiftRight_eq_div_pow]

def dottedIpnet : Ipnet where
  toString := Ipv4Net.text
  parse := Ipv4Net.ofText
  contains := Ipv4Net.inRange

theorem dottedIpnet_lawful : dottedIpnet.Lawful where
  parse_toString c := by
    dsimp only [dottedIpnet]
    exact c.ofText_text
  contains_iff := Ipv4Net.inRange_iff

end P2PMesh.Base
