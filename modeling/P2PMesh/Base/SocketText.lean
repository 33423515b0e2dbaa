import Mathlib.Data.List.DropRight
import Mathlib.Data.Nat.Digits.Lemmas
import P2PMesh.Base.Net

namespace P2PMesh.Base.NetParser
set_option autoImplicit true

def charDigit (c : Char) : Option Nat :=
  if '0' ≤ c ∧ c ≤ '9' then some (c.toNat - 48)
  else if 'a' ≤ c ∧ c ≤ 'z' then some (c.toNat - 87)
  else if 'A' ≤ c ∧ c ≤ 'Z' then some (c.toNat - 55)
  else none

def toDigit (radix : Nat) (c : Char) : Option Nat := (charDigit c).filter (· < radix)

/-- The digits at the front of a text, and what follows them. -/
def readDigits (radix : Nat) : List Char → List Nat × List Char
  | [] => ([], [])
  | c :: rest =>
    match toDigit radix c with
    | some d => (d :: (readDigits radix rest).1, (readDigits radix rest).2)
    | none => ([], c :: rest)

/-- A number below a bound, with at most so many digits and perhaps with zeros before it. -/
def readNumber (radix bound : Nat) (maxDigits : Option Nat) (allowZeroPrefix : Bool)
    (text : List Char) : Option (Nat × List Char) :=
  let digits := (readDigits radix text).1
  let value := digits.foldl (fun v d => v * radix + d) 0
  if digits = [] then none
  else if maxDigits.any (· < digits.length) then none
  else if allowZeroPrefix = false ∧ digits.head? = some 0 ∧ 1 < digits.length then none
  else if value < bound then some (value, (readDigits radix text).2)
  else none

def readGivenChar (c : Char) : List Char → Option (List Char)
  | [] => none
  | d :: rest => if d = c then some rest else none

/-- What an inner reader reads, after a separator unless it is the first. -/
def readSeparated (sep : Char) (first : Bool) (inner : List Char → Option (α × List Char))
    (text : List Char) : Option (α × List Char) :=
  if first then inner text else (readGivenChar sep text).bind inner

section Numbers
variable {base n : Nat}

theorem toDigit_digitChar (hn : n < base) (hb : base ≤ 16) :
    toDigit base n.digitChar = some n := by
  have hless : n < 16 := Nat.lt_of_lt_of_le hn hb
  have hdigit : charDigit n.digitChar = some n := by
    clear hn
    interval_cases n <;> decide
  rw [toDigit, hdigit, Option.filter_some, if_pos (decide_eq_true hn)]

theorem readDigits_append {ds : List Nat} (hds : ∀ d ∈ ds, d < base) (hb : base ≤ 16)
    {rest : List Char} (hrest : ∀ c ∈ rest.head?, toDigit base c = none) :
    readDigits base (ds.map Nat.digitChar ++ rest) = (ds, rest) := by
  induction ds with
  | nil =>
    cases rest with
    | nil => rfl
    | cons c rest => rw [List.map_nil, List.nil_append, readDigits, hrest c rfl]
  | cons d ds ih =>
    have hd := toDigit_digitChar (hds d List.mem_cons_self) hb
    rw [List.map_cons, List.cons_append, readDigits, hd,
      ih (fun d hd => hds d (List.mem_cons_of_mem _ hd))]

/-- The digits of a number as they are written. -/
def writtenDigits (base n : Nat) : List Nat := if n = 0 then [0] else (Nat.digits base n).reverse

theorem writtenDigits_of_lt (hn : n < base) : writtenDigits base n = [n] := by
  rw [writtenDigits]
  split
  · next h => rw [h]
  · next h => rw [Nat.digits_of_lt base n h hn, List.reverse_singleton]

theorem writtenDigits_of_le (hb : 1 < base) (hn : base ≤ n) :
    writtenDigits base n = writtenDigits base (n / base) ++ [n % base] := by
  have hpos : 0 < n := by omega
  have hdiv : n / base ≠ 0 := Nat.div_ne_zero_iff.mpr ⟨by omega, hn⟩
  rw [writtenDigits, writtenDigits, if_neg (Nat.ne_of_gt hpos), if_neg hdiv,
    Nat.digits_def' hb hpos, List.reverse_cons]

theorem toDigits_eq_map (hb : 1 < base) (n : Nat) :
    Nat.toDigits base n = (writtenDigits base n).map Nat.digitChar := by
  induction n using Nat.strong_induction_on with
  | _ n ih =>
    by_cases hn : n < base
    · rw [Nat.toDigits_of_lt_base hn, writtenDigits_of_lt hn, List.map_singleton]
    · have hle : base ≤ n := Nat.le_of_not_lt hn
      have hless : n / base < n := Nat.div_lt_self (by omega) hb
      rw [Nat.toDigits_of_base_le hb hle, writtenDigits_of_le hb hle, ih _ hless, List.map_append,
        List.map_singleton]

theorem writtenDigits_lt (hb : 1 < base) : ∀ d ∈ writtenDigits base n, d < base := by
  intro d hd
  rw [writtenDigits] at hd
  split at hd
  · rw [List.mem_singleton.mp hd]
    exact Nat.lt_of_succ_lt hb
  · exact Nat.digits_lt_base hb (List.mem_reverse.mp hd)

theorem writtenDigits_value (base n : Nat) :
    (writtenDigits base n).foldl (fun v d => v * base + d) 0 = n := by
  rw [writtenDigits]
  split
  · next hn => rw [hn, List.foldl_cons, List.foldl_nil, Nat.zero_mul]
  · rw [List.foldl_reverse]
    have hvalue := Nat.ofDigits_digits base n
    rw [Nat.ofDigits_eq_foldr] at hvalue
    simpa only [Nat.cast_id, Nat.add_comm, Nat.mul_comm] using hvalue

theorem writtenDigits_ne_nil (base n : Nat) : writtenDigits base n ≠ [] := by
  rw [writtenDigits]
  split
  · exact List.cons_ne_nil _ _
  · next hn =>
    rw [ne_eq, List.reverse_eq_nil_iff]
    exact Nat.digits_ne_nil_iff_ne_zero.mpr hn

theorem writtenDigits_length_le (hb : 1 < base) {k : Nat} (hk : 0 < k) (hn : n < base ^ k) :
    (writtenDigits base n).length ≤ k := by
  rw [writtenDigits]
  split
  · exact hk
  · rw [List.length_reverse]
    exact (Nat.digits_length_le_iff hb n).mpr hn

theorem writtenDigits_head (h : 1 < (writtenDigits base n).length) :
    (writtenDigits base n).head? ≠ some 0 := by
  rw [writtenDigits] at h ⊢
  split at h
  · exact absurd h (Nat.lt_irrefl 1)
  · next hn =>
    rw [if_neg hn, List.head?_reverse, List.getLast?_eq_some_getLast
      (Nat.digits_ne_nil_iff_ne_zero.mpr hn), ne_eq, Option.some_inj]
    exact Nat.getLast_digit_ne_zero base hn

theorem readNumber_toDigits {bound k : Nat} {maxDigits : Option Nat} (hb : 1 < base)
    (hbase : base ≤ 16) (hn : n < bound) (hk : 0 < k) (hlength : n < base ^ k)
    (hmax : ∀ m ∈ maxDigits, k ≤ m) (allowZeroPrefix : Bool) {rest : List Char}
    (hrest : ∀ c ∈ rest.head?, toDigit base c = none) :
    readNumber base bound maxDigits allowZeroPrefix (Nat.toDigits base n ++ rest) =
      some (n, rest) := by
  have hread := readDigits_append (writtenDigits_lt (n := n) hb) hbase hrest
  have hfew : (maxDigits.any (· < (writtenDigits base n).length)) = false := by
    rw [Option.any_eq_false]
    intro m hm
    have hle := writtenDigits_length_le hb hk hlength
    exact decide_eq_false (Nat.not_lt.mpr (Nat.le_trans hle (hmax m hm)))
  rw [readNumber, toDigits_eq_map hb, hread]
  dsimp only
  rw [if_neg (writtenDigits_ne_nil base n), hfew, if_neg Bool.false_ne_true,
    if_neg (fun h => writtenDigits_head h.2.2 h.2.1), writtenDigits_value, if_pos hn]

end Numbers

def readOctet (text : List Char) : Option (UInt8 × List Char) :=
  (readNumber 10 256 (some 3) false text).map (fun r => (UInt8.ofNat r.1, r.2))

def readOctets : Nat → Bool → List Char → Option (Bytes × List Char)
  | 0, _, text => some ([], text)
  | k + 1, first, text =>
    (readSeparated '.' first readOctet text).bind fun r =>
      (readOctets k false r.2).map (fun r' => (r.1 :: r'.1, r'.2))

def readIpv4Addr (text : List Char) : Option (Ipv4Addr × List Char) :=
  (readOctets 4 true text).map (fun r => (BitVec.ofNat 32 (ofBe r.1), r.2))

/-- The groups of an IPv6 address up to a limit, of which the last two may be written as an IPv4
address, and whether they were. -/
def readGroups : Nat → Bool → List Char → List Nat × Bool × List Char
  | 0, _, text => ([], false, text)
  | k + 1, first, text =>
    match if 1 ≤ k then readSeparated ':' first readIpv4Addr text else none with
    | some (a, rest) => ([a.toNat / 65536, a.toNat % 65536], true, rest)
    | none =>
      match readSeparated ':' first (readNumber 16 65536 (some 4) true) text with
      | some (g, rest) => (g :: (readGroups k false rest).1, (readGroups k false rest).2)
      | none => ([], false, text)

def ofGroups (groups : List Nat) : Ipv6Addr :=
  BitVec.ofNat 128 (groups.foldl (fun v g => v * 65536 + g) 0)

/-- Eight groups, or fewer with a double colon in the place of the zeros that are missing. -/
def readIpv6Addr (text : List Char) : Option (Ipv6Addr × List Char) :=
  let (head, headIpv4, rest) := readGroups 8 true text
  if head.length = 8 then some (ofGroups head, rest)
  else if headIpv4 then none
  else
    ((readGivenChar ':' rest).bind (readGivenChar ':')).map fun rest =>
      let (tail, _, rest) := readGroups (8 - (head.length + 1)) true rest
      (ofGroups (head ++ List.replicate (8 - head.length - tail.length) 0 ++ tail), rest)

def readPort (text : List Char) : Option (Nat × List Char) :=
  (readGivenChar ':' text).bind (readNumber 10 65536 none true)

def readScopeId (text : List Char) : Option (Nat × List Char) :=
  (readGivenChar '%' text).bind (readNumber 10 (2 ^ 32) none true)

def readSocketAddrV4 (text : List Char) : Option (SocketAddr × List Char) :=
  (readIpv4Addr text).bind fun ip =>
    (readPort ip.2).map (fun port => (⟨.v4 ip.1, UInt16.ofNat port.1⟩, port.2))

/-- An IPv6 address stands in brackets, which may hold a scope. -/
def readSocketAddrV6 (text : List Char) : Option (SocketAddr × List Char) :=
  ((readGivenChar '[' text).bind readIpv6Addr).bind fun ip =>
    let rest := match readScopeId ip.2 with
      | some (_, rest) => rest
      | none => ip.2
    ((readGivenChar ']' rest).bind readPort).map
      (fun port => (⟨.v6 ip.1, UInt16.ofNat port.1⟩, port.2))

/-- A socket address that takes up the whole text. -/
def parseSocketAddr (text : List Char) : Option SocketAddr :=
  match (readSocketAddrV4 text).or (readSocketAddrV6 text) with
  | some (addr, []) => some addr
  | _ => none

def segments (a : Ipv6Addr) : List Nat :=
  (List.range 8).map (fun i => a.toNat / 65536 ^ (7 - i) % 65536)

structure Span where
  start : Nat
  len : Nat

/-- The first of the longest runs of zeros, from a group on that has an index. -/
def longestZeros : List Nat → Nat → Span → Span → Span
  | [], _, _, longest => longest
  | segment :: rest, i, current, longest =>
    if segment = 0 then
      let current := ⟨if current.len = 0 then i else current.start, current.len + 1⟩
      longestZeros rest (i + 1) current (if longest.len < current.len then current else longest)
    else longestZeros rest (i + 1) ⟨0, 0⟩ longest

def showGroups (groups : List Nat) : List Char :=
  List.intercalate [':'] (groups.map (Nat.toDigits 16))

def showIpv6 (a : Ipv6Addr) : List Char :=
  if a.toNat / 2 ^ 32 = 0xffff then [':', ':', 'f', 'f', 'f', 'f', ':'] ++ dotted (toBe 4 a.toNat)
  else
    let zeros := longestZeros (segments a) 0 ⟨0, 0⟩ ⟨0, 0⟩
    if 1 < zeros.len then
      showGroups ((segments a).take zeros.start) ++ ':' :: ':' ::
        showGroups ((segments a).drop (zeros.start + zeros.len))
    else showGroups (segments a)

def showIp : IpAddr → List Char
  | .v4 a => dotted (toBe 4 a.toNat)
  | .v6 a => showIpv6 a

section Addresses

theorem readOctet_decimal (b : UInt8) {rest : List Char}
    (hrest : ∀ c ∈ rest.head?, toDigit 10 c = none) :
    readOctet (decimal b.toNat ++ rest) = some (b, rest) := by
  have hb := b.toNat_lt
  have hmax : ∀ m ∈ some 3, 3 ≤ m := by
    simp only [Option.mem_def, Option.some.injEq, forall_eq', le_refl]
  have hlength : b.toNat < 10 ^ 3 := Nat.lt_of_lt_of_le hb (by decide)
  have hread : readNumber 10 256 (some 3) false (Nat.toDigits 10 b.toNat ++ rest) =
      some (b.toNat, rest) :=
    readNumber_toDigits (by decide) (by decide) hb (by decide) hlength hmax false hrest
  rw [readOctet, decimal, hread, Option.map_some, UInt8.ofNat_toNat]

theorem readOctets_dotted (bs : Bytes) {rest : List Char}
    (hrest : ∀ c ∈ rest.head?, toDigit 10 c = none) :
    readOctets bs.length true (dotted bs ++ rest) = some (bs, rest) := by
  induction bs with
  | nil => rfl
  | cons b bs ih =>
    cases bs with
    | nil =>
      rw [List.length_singleton, dotted, readOctets, readSeparated, if_pos rfl,
        readOctet_decimal b hrest]
      rfl
    | cons b' bs =>
      have hdot : ∀ c ∈ ('.' :: (dotted (b' :: bs) ++ rest)).head?, toDigit 10 c = none := by
        intro c hc
        cases hc
        decide
      have hnext : readOctets (b' :: bs).length false ('.' :: (dotted (b' :: bs) ++ rest)) =
          readOctets (b' :: bs).length true (dotted (b' :: bs) ++ rest) := rfl
      rw [List.length_cons, dotted, List.append_assoc, List.cons_append, readOctets,
        readSeparated, if_pos rfl, readOctet_decimal b hdot, Option.bind_some, hnext, ih]
      · rfl
      · exact List.cons_ne_nil _ _

theorem readPort_decimal (port : UInt16) :
    readPort (':' :: decimal port.toNat) = some (port.toNat, []) := by
  have hport := port.toNat_lt
  have hlength : port.toNat < 10 ^ 5 := Nat.lt_of_lt_of_le hport (by decide)
  have hread : readNumber 10 65536 none true (Nat.toDigits 10 port.toNat ++ []) =
      some (port.toNat, []) :=
    readNumber_toDigits (by decide) (by decide) hport (by decide) hlength (by rintro m ⟨⟩) true
      (by rintro c ⟨⟩)
  rw [List.append_nil] at hread
  exact hread

theorem parseSocketAddr_v4 (a : Ipv4Addr) (port : UInt16) :
    parseSocketAddr (showIp (.v4 a) ++ ':' :: decimal port.toNat) = some ⟨.v4 a, port⟩ := by
  have hcolon : ∀ c ∈ (':' :: decimal port.toNat).head?, toDigit 10 c = none := by
    intro c hc
    cases hc
    decide
  have hoctets := readOctets_dotted (toBe 4 a.toNat) hcolon
  rw [toBe_length] at hoctets
  have haddr : BitVec.ofNat 32 (ofBe (toBe 4 a.toNat)) = a := by
    rw [ofBe_toBe_of_lt (by simpa using a.isLt), BitVec.ofNat_toNat, BitVec.setWidth_eq]
  have hread : readIpv4Addr (showIp (.v4 a) ++ ':' :: decimal port.toNat) =
      some (a, ':' :: decimal port.toNat) := by
    rw [readIpv4Addr, showIp, hoctets, Option.map_some, haddr]
  rw [parseSocketAddr, readSocketAddrV4, hread, Option.bind_some, readPort_decimal,
    Option.map_some, Option.some_or, UInt16.ofNat_toNat]

/-- The text begins with a colon, or with a hexadecimal number and a colon. -/
def Colonized (text : List Char) : Prop :=
  ∃ rest, text = ':' :: rest ∨ ∃ g, text = Nat.toDigits 16 g ++ ':' :: rest

theorem Colonized.append {text : List Char} (h : Colonized text) (more : List Char) :
    Colonized (text ++ more) := by
  obtain ⟨rest, rfl | ⟨g, rfl⟩⟩ := h
  · exact ⟨rest ++ more, Or.inl (List.cons_append)⟩
  · exact ⟨rest ++ more, Or.inr ⟨g, by rw [List.append_assoc, List.cons_append]⟩⟩

theorem readGivenChar_of_head?_ne {c : Char} {text : List Char} (h : text.head? ≠ some c) :
    readGivenChar c text = none := by
  cases text with
  | nil => rfl
  | cons d rest =>
    rw [readGivenChar, if_neg]
    exact fun he => h (congrArg some he)

theorem readIpv4Addr_of_no_dot {text : List Char}
    (h : (readDigits 10 text).2.head? ≠ some '.') : readIpv4Addr text = none := by
  have hoctets : readOctets 4 true text = none := by
    rw [readOctets, readSeparated, if_pos rfl, readOctet, readNumber]
    split
    · rfl
    · split
      · rfl
      · split
        · rfl
        · split
          · rw [Option.map_some, Option.bind_some, readOctets, readSeparated,
              if_neg Bool.false_ne_true, readGivenChar_of_head?_ne h]
            rfl
          · rfl
  rw [readIpv4Addr, hoctets, Option.map_none]

theorem readDigits_no_dot {ds : List Nat} {rest : List Char} (hds : ∀ d ∈ ds, d < 16)
    (hrest : (readDigits 10 rest).2.head? ≠ some '.') :
    (readDigits 10 (ds.map Nat.digitChar ++ rest)).2.head? ≠ some '.' := by
  induction ds with
  | nil => exact hrest
  | cons d ds ih =>
    have hless := hds d List.mem_cons_self
    rw [List.map_cons, List.cons_append, readDigits]
    split
    · exact ih (fun d hd => hds d (List.mem_cons_of_mem _ hd))
    · rw [List.head?_cons]
      clear hds ih
      interval_cases d <;> decide

theorem readIpv4Addr_toDigits (g : Nat) {rest : List Char}
    (hrest : (readDigits 10 rest).2.head? ≠ some '.') :
    readIpv4Addr (Nat.toDigits 16 g ++ rest) = none := by
  rw [toDigits_eq_map (by decide)]
  exact readIpv4Addr_of_no_dot (readDigits_no_dot (writtenDigits_lt (by decide)) hrest)

theorem readDigits_colon (base : Nat) (rest : List Char) :
    readDigits base (':' :: rest) = ([], ':' :: rest) := rfl

theorem Colonized.readIpv4Addr {text : List Char} (h : Colonized text) :
    readIpv4Addr text = none := by
  have hcolon (rest : List Char) : (readDigits 10 (':' :: rest)).2.head? ≠ some '.' := by
    rw [readDigits_colon, List.head?_cons]
    decide
  obtain ⟨rest, rfl | ⟨g, rfl⟩⟩ := h
  · exact readIpv4Addr_of_no_dot (hcolon rest)
  · exact readIpv4Addr_toDigits g (hcolon rest)

theorem Colonized.head {text : List Char} (h : Colonized text) : readGivenChar '[' text = none := by
  obtain ⟨rest, rfl | ⟨g, rfl⟩⟩ := h
  · rfl
  · rw [toDigits_eq_map (by decide)]
    have hlt : ∀ d ∈ writtenDigits 16 g, d < 16 := writtenDigits_lt (by decide)
    cases hds : writtenDigits 16 g with
    | nil => exact (writtenDigits_ne_nil 16 g hds).elim
    | cons d ds =>
      have hless := hlt d (hds ▸ List.mem_cons_self)
      rw [List.map_cons, List.cons_append, readGivenChar, if_neg]
      clear hlt hds
      interval_cases d <;> decide

/-- Such a text is no socket address: an IPv6 address would stand in brackets. -/
theorem parseSocketAddr_colonized {text : List Char} (h : Colonized text) :
    parseSocketAddr text = none := by
  rw [parseSocketAddr, readSocketAddrV4, h.readIpv4Addr, readSocketAddrV6, h.head]
  rfl

theorem showGroups_cons_cons (g g' : Nat) (groups : List Nat) :
    showGroups (g :: g' :: groups) = Nat.toDigits 16 g ++ ':' :: showGroups (g' :: groups) :=
  List.intercalate_cons_cons.trans (List.append_assoc _ _ _)

theorem showGroups_cons (g : Nat) (groups : List Nat) (rest : List Char) :
    Colonized (showGroups (g :: groups) ++ ':' :: rest) := by
  cases groups with
  | nil =>
    refine ⟨rest, Or.inr ⟨g, ?_⟩⟩
    rw [showGroups, List.map_singleton, List.intercalate_singleton]
  | cons g' groups =>
    refine ⟨showGroups (g' :: groups) ++ ':' :: rest, Or.inr ⟨g, ?_⟩⟩
    rw [showGroups_cons_cons, List.append_assoc, List.cons_append]

theorem showIpv6_colonized (a : Ipv6Addr) : Colonized (showIpv6 a) := by
  obtain ⟨g, g', groups, hsegments⟩ : ∃ g g' groups, segments a = g :: g' :: groups :=
    ⟨_, _, _, rfl⟩
  rw [showIpv6]
  split
  · exact ⟨_, Or.inl rfl⟩
  · dsimp only
    split
    · cases hstart : (longestZeros (segments a) 0 ⟨0, 0⟩ ⟨0, 0⟩).start with
      | zero => exact ⟨_, Or.inl rfl⟩
      | succ k =>
        rw [hsegments, List.take_succ_cons]
        exact showGroups_cons _ _ _
    · rw [hsegments, showGroups_cons_cons]
      exact ⟨_, Or.inr ⟨g, rfl⟩⟩

theorem dotted_length_le (bs : Bytes) : (dotted bs).length ≤ 4 * bs.length := by
  have hbyte (b : UInt8) : (decimal b.toNat).length ≤ 3 :=
    (Nat.length_toDigits_le_iff (by decide) (by decide)).mpr
      (Nat.lt_of_lt_of_le b.toNat_lt (by decide))
  induction bs with
  | nil => exact Nat.le_refl 0
  | cons b bs ih =>
    have hb := hbyte b
    cases bs with
    | nil =>
      rw [dotted, List.length_singleton]
      omega
    | cons b' bs =>
      rw [dotted, List.length_append, List.length_cons, List.length_cons]
      · rw [List.length_cons] at ih ⊢
        omega
      · exact List.cons_ne_nil _ _

theorem showGroups_length_le {groups : List Nat} (h : ∀ g ∈ groups, g < 65536) :
    (showGroups groups).length ≤ 5 * groups.length := by
  induction groups with
  | nil => exact Nat.le_refl 0
  | cons g groups ih =>
    have hg : (Nat.toDigits 16 g).length ≤ 4 :=
      (Nat.length_toDigits_le_iff (by decide) (by decide)).mpr (h g List.mem_cons_self)
    have hrest := ih (fun g hg => h g (List.mem_cons_of_mem _ hg))
    cases groups with
    | nil =>
      rw [showGroups, List.map_singleton, List.intercalate_singleton, List.length_singleton]
      omega
    | cons g' groups =>
      rw [showGroups_cons_cons, List.length_append, List.length_cons, List.length_cons]
      omega

theorem segments_lt (a : Ipv6Addr) : ∀ g ∈ segments a, g < 65536 := by
  intro g hg
  obtain ⟨i, -, rfl⟩ := List.mem_map.mp hg
  exact Nat.mod_lt _ (by decide)

theorem showIp_length_le (ip : IpAddr) : (showIp ip).length ≤ 42 := by
  have hdotted (n : Nat) : (dotted (toBe 4 n)).length ≤ 16 := by
    have hle := dotted_length_le (toBe 4 n)
    rwa [toBe_length] at hle
  cases ip with
  | v4 a => exact Nat.le_trans (hdotted a.toNat) (by decide)
  | v6 a =>
    have hlt := segments_lt a
    have hcount : (segments a).length = 8 := rfl
    rw [showIp, showIpv6]
    split
    · have hle := hdotted a.toNat
      rw [List.length_append, List.length_cons]
      simp only [List.length_cons, List.length_nil]
      omega
    · dsimp only
      split
      · have hfront (k : Nat) : (showGroups ((segments a).take k)).length ≤ 5 * min k 8 := by
          have hle := showGroups_length_le (fun g hg => hlt g (List.mem_of_mem_take (i := k) hg))
          rwa [List.length_take] at hle
        have hback (k : Nat) : (showGroups ((segments a).drop k)).length ≤ 5 * (8 - k) := by
          have hle := showGroups_length_le (fun g hg => hlt g (List.mem_of_mem_drop (i := k) hg))
          rwa [List.length_drop] at hle
        have hstart := hfront (longestZeros (segments a) 0 ⟨0, 0⟩ ⟨0, 0⟩).start
        have hend := hback ((longestZeros (segments a) 0 ⟨0, 0⟩ ⟨0, 0⟩).start +
          (longestZeros (segments a) 0 ⟨0, 0⟩ ⟨0, 0⟩).len)
        rw [List.length_append, List.length_cons, List.length_cons]
        omega
      · have hle := showGroups_length_le hlt
        omega

/-- The characters that addresses and ports are written with. -/
def Written (c : Char) : Prop := c = ':' ∨ c = '.' ∨ ∃ d < 16, c = Nat.digitChar d

theorem toDigits_written (hb : 1 < base) (hbase : base ≤ 16) :
    ∀ c ∈ Nat.toDigits base n, Written c := by
  rw [toDigits_eq_map hb]
  intro c hc
  obtain ⟨d, hd, rfl⟩ := List.mem_map.mp hc
  exact Or.inr (Or.inr ⟨d, Nat.lt_of_lt_of_le (writtenDigits_lt hb d hd) hbase, rfl⟩)

theorem decimal_written (n : Nat) : ∀ c ∈ decimal n, Written c :=
  toDigits_written (by decide) (by decide)

theorem dotted_written (bs : Bytes) : ∀ c ∈ dotted bs, Written c := by
  induction bs with
  | nil =>
    intro c hc
    exact (List.not_mem_nil hc).elim
  | cons b bs ih =>
    cases bs with
    | nil => exact decimal_written _
    | cons b' bs =>
      intro c hc
      rw [dotted, List.mem_append, List.mem_cons] at hc
      · obtain hc | rfl | hc := hc
        · exact decimal_written _ c hc
        · exact Or.inr (Or.inl rfl)
        · exact ih c hc
      · exact List.cons_ne_nil _ _

theorem showGroups_written (groups : List Nat) : ∀ c ∈ showGroups groups, Written c := by
  induction groups with
  | nil =>
    intro c hc
    exact (List.not_mem_nil hc).elim
  | cons g groups ih =>
    have hg : ∀ c ∈ Nat.toDigits 16 g, Written c := toDigits_written (by decide) (by decide)
    intro c hc
    cases groups with
    | nil =>
      rw [showGroups, List.map_singleton, List.intercalate_singleton] at hc
      exact hg c hc
    | cons g' groups =>
      rw [showGroups_cons_cons, List.mem_append, List.mem_cons] at hc
      obtain hc | rfl | hc := hc
      · exact hg c hc
      · exact Or.inl rfl
      · exact ih c hc

theorem showIp_written (ip : IpAddr) : ∀ c ∈ showIp ip, Written c := by
  cases ip with
  | v4 a => exact dotted_written _
  | v6 a =>
    intro c hc
    rw [showIp, showIpv6] at hc
    split at hc
    · obtain hc | hc := List.mem_append.mp hc
      · simp only [List.mem_cons, List.not_mem_nil, or_false] at hc
        obtain rfl | rfl | rfl | rfl | rfl | rfl | rfl := hc
        · exact Or.inl rfl
        · exact Or.inl rfl
        · exact Or.inr (Or.inr ⟨15, by decide, rfl⟩)
        · exact Or.inr (Or.inr ⟨15, by decide, rfl⟩)
        · exact Or.inr (Or.inr ⟨15, by decide, rfl⟩)
        · exact Or.inr (Or.inr ⟨15, by decide, rfl⟩)
        · exact Or.inl rfl
      · exact dotted_written _ c hc
    · dsimp only at hc
      split at hc
      · rw [List.mem_append, List.mem_cons, List.mem_cons] at hc
        obtain hc | rfl | rfl | hc := hc
        · exact showGroups_written _ c hc
        · exact Or.inl rfl
        · exact Or.inl rfl
        · exact showGroups_written _ c hc
      · exact showGroups_written _ c hc

end Addresses

end P2PMesh.Base.NetParser
