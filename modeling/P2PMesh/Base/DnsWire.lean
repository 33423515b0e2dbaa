import Mathlib.Data.List.GetD
import P2PMesh.Base.Bytes

namespace P2PMesh.Base.DnsWire
set_option autoImplicit true

structure Label where
  bytes : Bytes
  nonempty : 0 < bytes.length
  short : bytes.length < 64

/-- The first two bits of a pointer are set. -/
structure Pointer where
  high : UInt8
  low : UInt8
  marked : 0xC0 ≤ high

/-- A name is spelled out to its end, or goes on at an earlier place of the message. -/
structure Name where
  labels : List Label
  pointer : Option Pointer

structure ResourceRecord where
  name : Name
  rtype : UInt16
  rclass : UInt16
  ttl : UInt32
  rdata : Bytes
  short : rdata.length < 2 ^ 16

/-- A message with the records at the front of its answers, and whatever follows them. -/
structure Message where
  id : UInt16
  flags : UInt16
  qdcount : UInt16
  ancount : UInt16
  nscount : UInt16
  arcount : UInt16
  question : Bytes
  answers : List ResourceRecord
  counted : answers.length ≤ ancount.toNat
  rest : Bytes

def lengthPrefixed (labels : List Bytes) : Bytes :=
  labels.flatMap (fun label => UInt8.ofNat label.length :: label)

def Name.encode (n : Name) : Bytes :=
  lengthPrefixed (n.labels.map Label.bytes) ++
    match n.pointer with
    | none => [0]
    | some p => [p.high, p.low]

/-- The name is a pointer alone or has none. -/
def Name.IsPlain (n : Name) : Prop := n.labels = [] ∨ n.pointer = none

def ResourceRecord.encode (r : ResourceRecord) : Bytes :=
  r.name.encode ++ toBe 2 r.rtype.toNat ++ toBe 2 r.rclass.toNat ++ toBe 4 r.ttl.toNat ++
    toBe 2 r.rdata.length ++ r.rdata

def Message.header (m : Message) : Bytes :=
  toBe 2 m.id.toNat ++ toBe 2 m.flags.toNat ++ toBe 2 m.qdcount.toNat ++
    toBe 2 m.ancount.toNat ++ toBe 2 m.nscount.toNat ++ toBe 2 m.arcount.toNat

def Message.encode (m : Message) : Bytes :=
  m.header ++ m.question ++ m.answers.flatMap ResourceRecord.encode ++ m.rest

structure Question where
  name : Name
  qtype : UInt16
  qclass : UInt16

def Question.encode (q : Question) : Bytes :=
  q.name.encode ++ toBe 2 q.qtype.toNat ++ toBe 2 q.qclass.toNat

/-- The record is of type A and class IN. -/
def ResourceRecord.IsAddress (r : ResourceRecord) : Prop := r.rtype = 1 ∧ r.rclass = 1

instance (r : ResourceRecord) : Decidable r.IsAddress := inferInstanceAs (Decidable (_ ∧ _))

/-- A response without an error, with all its sections. The pointers of its names lead anywhere. -/
structure Response where
  id : UInt16
  flags : UInt16
  questions : List Question
  answers : List ResourceRecord
  authority : List ResourceRecord
  additional : List ResourceRecord
  isResponse : 2 ^ 15 ≤ flags.toNat
  noError : flags.toNat % 16 = 0
  questionCount : questions.length < 2 ^ 16
  answerCount : answers.length < 2 ^ 16
  authorityCount : authority.length < 2 ^ 16
  additionalCount : additional.length < 2 ^ 16
  addresses : ∀ r ∈ answers, r.IsAddress → r.rdata.length = 4

def Response.message (m : Response) : Message where
  id := m.id
  flags := m.flags
  qdcount := UInt16.ofNat m.questions.length
  ancount := UInt16.ofNat m.answers.length
  nscount := UInt16.ofNat m.authority.length
  arcount := UInt16.ofNat m.additional.length
  question := m.questions.flatMap Question.encode
  answers := m.answers
  counted := (UInt16.toNat_ofNat_of_lt' m.answerCount).ge
  rest := (m.authority ++ m.additional).flatMap ResourceRecord.encode

def Response.encode (m : Response) : Bytes := m.message.encode

/-- A name by the grammar: labels up to the empty one or to a pointer. -/
def decodeLabels : Nat → Bytes → Option (Name × Bytes)
  | 0, _ | _, [] => none
  | fuel + 1, b :: rest =>
    if b = 0 then some (⟨[], none⟩, rest)
    else if hmarked : 0xC0 ≤ b then
      match rest with
      | [] => none
      | low :: rest => some (⟨[], some ⟨b, low, hmarked⟩⟩, rest)
    else if hlabel : 0 < b.toNat ∧ b.toNat < 64 ∧ b.toNat ≤ rest.length then
      (decodeLabels fuel (rest.drop b.toNat)).map (fun found =>
        (⟨⟨rest.take b.toNat, by rw [List.length_take_of_le hlabel.2.2]; exact hlabel.1,
          by rw [List.length_take_of_le hlabel.2.2]; exact hlabel.2.1⟩ :: found.1.labels,
          found.1.pointer⟩, found.2))
    else none

/-- A name has at most 255 bytes. -/
def decodeName (data : Bytes) : Option (Name × Bytes) :=
  (decodeLabels data.length data).filter (fun found => found.1.encode.length ≤ 255)

def decodeQuestion (data : Bytes) : Option (Question × Bytes) :=
  (decodeName data).bind (fun found =>
    match found.2 with
    | a :: b :: c :: d :: rest =>
      some (⟨found.1, UInt16.ofNat (ofBe [a, b]), UInt16.ofNat (ofBe [c, d])⟩, rest)
    | _ => none)

/-- The message is an answer and not a query. -/
def Message.IsResponse (m : Message) : Prop := 2 ^ 15 ≤ m.flags.toNat

/-- A record of class IN and type A that holds an address. -/
def ResourceRecord.IsA (r : ResourceRecord) (address : Bytes) : Prop :=
  r.rtype = 1 ∧ r.rclass = 1 ∧ r.rdata = address

/-- All the answers are there, or as many of them as there are up to some A record. -/
def Message.ReachesA (m : Message) : Prop :=
  m.answers.length = m.ancount.toNat ∨
    ∃ r ∈ m.answers, r.rtype = 1 ∧ r.rclass = 1 ∧ r.rdata.length = 4

def u8At (data : Bytes) (pos : Nat) : UInt8 := data.getD pos 0

def u16At (data : Bytes) (pos : Nat) : Nat :=
  (u8At data pos).toNat * 256 + (u8At data (pos + 1)).toNat

section Reading

theorem u8At_append (front rest : Bytes) (b : UInt8) :
    u8At (front ++ b :: rest) front.length = b := by
  rw [u8At, List.getD_append_right _ _ _ _ (Nat.le_refl _), Nat.sub_self, List.getD_cons_zero]

theorem u8At_append_add (front rest : Bytes) (i : Nat) :
    u8At (front ++ rest) (front.length + i) = u8At rest i := by
  rw [u8At, List.getD_append_right _ _ _ _ (Nat.le_add_right _ _), Nat.add_sub_cancel_left, u8At]

theorem u16At_append_add (front rest : Bytes) (i : Nat) :
    u16At (front ++ rest) (front.length + i) = u16At rest i := by
  rw [u16At, u8At_append_add, Nat.add_assoc, u8At_append_add, u16At]

theorem u16At_toBe (hn : n < 2 ^ 16) (rest : Bytes) : u16At (toBe 2 n ++ rest) 0 = n := by
  have hhigh : (UInt8.ofNat (n / 256)).toNat = n / 256 := by
    rw [UInt8.toNat_ofNat']
    omega
  have hlow : (UInt8.ofNat n).toNat = n % 256 := UInt8.toNat_ofNat'
  change (UInt8.ofNat (n / 256)).toNat * 256 + (UInt8.ofNat n).toNat = n
  rw [hhigh, hlow]
  omega

theorem Pointer.marked_and (p : Pointer) : p.high &&& 0xC0 = 0xC0 := by
  have hall : ∀ b : BitVec 8, 0xC0#8 ≤ b → b &&& 0xC0#8 = 0xC0#8 := by decide +kernel
  exact UInt8.eq_of_toBitVec_eq (hall p.high.toBitVec p.marked)

theorem unmarked_and {n : Nat} (hn : n < 64) : UInt8.ofNat n &&& 0xC0 ≠ 0xC0 := by
  have hall : ∀ n < 64, UInt8.ofNat n &&& 0xC0 ≠ 0xC0 := by decide +kernel
  exact hall n hn

theorem lengthPrefixed_cons (label : Bytes) (labels : List Bytes) :
    lengthPrefixed (label :: labels) =
      UInt8.ofNat label.length :: (label ++ lengthPrefixed labels) := by
  rw [lengthPrefixed, List.flatMap_cons, List.cons_append]
  rfl

theorem length_le_lengthPrefixed (labels : List Bytes) :
    labels.length ≤ (lengthPrefixed labels).length := by
  induction labels with
  | nil => exact Nat.zero_le _
  | cons label labels ih =>
    rw [lengthPrefixed_cons, List.length_cons, List.length_cons, List.length_append]
    omega

theorem Message.flags_encode (m : Message) :
    u8At m.encode 3 = UInt8.ofNat m.flags.toNat := by
  have hskip := u8At_append_add (toBe 2 m.id.toNat) (toBe 2 m.flags.toNat ++
    (toBe 2 m.qdcount.toNat ++ (toBe 2 m.ancount.toNat ++ (toBe 2 m.nscount.toNat ++
      (toBe 2 m.arcount.toNat ++ (m.question ++
        (m.answers.flatMap ResourceRecord.encode ++ m.rest))))))) 1
  rw [toBe_length] at hskip
  simp only [Message.encode, Message.header, List.append_assoc]
  exact hskip

theorem Response.ancount_toNat (m : Response) : m.message.ancount.toNat = m.answers.length :=
  UInt16.toNat_ofNat_of_lt' m.answerCount

theorem Message.header_length (m : Message) : m.header.length = 12 := by
  simp only [Message.header, List.length_append, toBe_length]

theorem Message.header_le_length (m : Message) : 12 ≤ m.encode.length := by
  rw [Message.encode, List.append_assoc, List.append_assoc, List.length_append, m.header_length]
  exact Nat.le_add_right 12 _

end Reading

section Decoding

theorem decodeLabels_nil (fuel : Nat) (rest : Bytes) :
    decodeLabels (fuel + 1) (0 :: rest) = some (⟨[], none⟩, rest) := by
  rw [decodeLabels, if_pos rfl]

theorem decodeLabels_pointer (fuel : Nat) (p : Pointer) (rest : Bytes) :
    decodeLabels (fuel + 1) (p.high :: p.low :: rest) = some (⟨[], some p⟩, rest) := by
  have hnonzero : p.high ≠ 0 := by
    intro hzero
    exact absurd (hzero ▸ p.marked) (by decide)
  rw [decodeLabels, if_neg hnonzero, dif_pos p.marked]

theorem decodeLabels_cons (fuel : Nat) (l : Label) (rest : Bytes) :
    decodeLabels (fuel + 1) (UInt8.ofNat l.bytes.length :: (l.bytes ++ rest)) =
      (decodeLabels fuel rest).map
        (fun found => (⟨l :: found.1.labels, found.1.pointer⟩, found.2)) := by
  have hlength : (UInt8.ofNat l.bytes.length).toNat = l.bytes.length :=
    UInt8.toNat_ofNat_of_lt' (Nat.lt_trans l.short (by decide))
  have hnonzero : UInt8.ofNat l.bytes.length ≠ 0 := by
    intro hzero
    have hpos := l.nonempty
    rw [← hlength, hzero] at hpos
    exact absurd hpos (by decide)
  have hunmarked : ¬ 0xC0 ≤ UInt8.ofNat l.bytes.length := by
    rw [UInt8.le_iff_toNat_le, hlength, Nat.not_le]
    exact Nat.lt_trans l.short (by decide)
  have hlabel : 0 < (UInt8.ofNat l.bytes.length).toNat ∧
      (UInt8.ofNat l.bytes.length).toNat < 64 ∧
        (UInt8.ofNat l.bytes.length).toNat ≤ (l.bytes ++ rest).length := by
    rw [hlength, List.length_append]
    exact ⟨l.nonempty, l.short, Nat.le_add_right _ _⟩
  rw [decodeLabels, if_neg hnonzero, dif_neg hunmarked, dif_pos hlabel]
  simp only [hlength, List.take_left, List.drop_left]

/-- Every name is read as it is written, whatever follows it. -/
theorem decodeLabels_encode (n : Name) (rest : Bytes) {fuel : Nat}
    (hfuel : n.labels.length < fuel) :
    decodeLabels fuel (n.encode ++ rest) = some (n, rest) := by
  obtain ⟨labels, pointer⟩ := n
  induction labels generalizing fuel with
  | nil =>
    obtain ⟨fuel, rfl⟩ := Nat.exists_eq_add_of_le' (Nat.succ_le_of_lt hfuel)
    cases pointer with
    | none => exact decodeLabels_nil fuel rest
    | some p => exact decodeLabels_pointer fuel p rest
  | cons l labels ih =>
    obtain ⟨fuel, rfl⟩ := Nat.exists_eq_add_of_le' (Nat.succ_le_of_lt (Nat.zero_lt_of_lt hfuel))
    have hencode : Name.encode ⟨l :: labels, pointer⟩ ++ rest =
        UInt8.ofNat l.bytes.length :: (l.bytes ++ (Name.encode ⟨labels, pointer⟩ ++ rest)) := by
      rw [Name.encode, List.map_cons, lengthPrefixed_cons, Name.encode]
      simp only [List.append_assoc, List.cons_append]
    rw [hencode, decodeLabels_cons, ih (Nat.lt_of_succ_lt_succ hfuel)]
    rfl

theorem decodeName_encode (n : Name) (rest : Bytes) (h : n.encode.length ≤ 255) :
    decodeName (n.encode ++ rest) = some (n, rest) := by
  have hfuel : n.labels.length < (n.encode ++ rest).length := by
    have hle := length_le_lengthPrefixed (n.labels.map Label.bytes)
    rw [List.length_map] at hle
    rw [Name.encode, List.length_append, List.length_append]
    cases n.pointer with
    | none =>
      rw [List.length_singleton]
      omega
    | some p =>
      rw [List.length_cons]
      omega
  rw [decodeName, decodeLabels_encode n rest hfuel, Option.filter_some,
    if_pos (decide_eq_true h)]

theorem ofBe_toBe_two (x : UInt16) : UInt16.ofNat (ofBe (toBe 2 x.toNat)) = x := by
  rw [ofBe_toBe_of_lt x.toNat_lt, UInt16.ofNat_toNat]

theorem decodeQuestion_encode (q : Question) (rest : Bytes) (h : q.name.encode.length ≤ 255) :
    decodeQuestion (q.encode ++ rest) = some (q, rest) := by
  rw [decodeQuestion, Question.encode, List.append_assoc, List.append_assoc,
    decodeName_encode _ _ h]
  change some (Question.mk q.name (UInt16.ofNat (ofBe (toBe 2 q.qtype.toNat)))
    (UInt16.ofNat (ofBe (toBe 2 q.qclass.toNat))), rest) = _
  rw [ofBe_toBe_two, ofBe_toBe_two]

theorem lengthPrefixed_injective {labels labels' : List Bytes}
    (h : ∀ l ∈ labels, l.length < 256) (h' : ∀ l ∈ labels', l.length < 256)
    (heq : lengthPrefixed labels = lengthPrefixed labels') : labels = labels' := by
  induction labels generalizing labels' with
  | nil =>
    cases labels' with
    | nil => rfl
    | cons l' labels' =>
      rw [lengthPrefixed_cons] at heq
      cases heq
  | cons l labels ih =>
    cases labels' with
    | nil =>
      rw [lengthPrefixed_cons] at heq
      cases heq
    | cons l' labels' =>
      rw [lengthPrefixed_cons, lengthPrefixed_cons] at heq
      obtain ⟨hbyte, hrest⟩ := List.cons.inj heq
      have hlength : l.length = l'.length := by
        have hnat := congrArg UInt8.toNat hbyte
        rwa [UInt8.toNat_ofNat_of_lt' (h l List.mem_cons_self),
          UInt8.toNat_ofNat_of_lt' (h' l' List.mem_cons_self)] at hnat
      obtain ⟨rfl, htail⟩ := List.append_inj hrest hlength
      rw [ih (fun l hl => h l (List.mem_cons_of_mem _ hl))
        (fun l hl => h' l (List.mem_cons_of_mem _ hl)) htail]

end Decoding

end P2PMesh.Base.DnsWire
