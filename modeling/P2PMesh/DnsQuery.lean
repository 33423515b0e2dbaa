import P2PMesh.Base.DnsWire
import P2PMesh.Base.Machine
import P2PMesh.Base.SocketText
import P2PMesh.Base.Utf8

namespace P2PMesh.Dns
open P2PMesh.Base P2PMesh.Base.DnsWire
set_option autoImplicit true

abbrev Hostname := List Char

structure Datagram where
  source : SocketAddr
  payload : Bytes
deriving DecidableEq

/-- What becomes of a query: it fails or times out somewhere, or datagrams arrive at its socket. -/
inductive Exchange where
  | bindFails (e : String)
  | sendTimesOut
  | sendFails (e : String)
  | silent
  | recvFails (e : String)
  | hears (first : Datagram) (later : List Datagram)

def Exchange.arrivals : Exchange → List Datagram
  | .hears first later => first :: later
  | _ => []

inductive DnsError where
  | bindFailed (e : String)
  | sendTimeout (server : SocketAddr)
  | sendFailed (e : String)
  | queryTimeout
  | recvFailed (e : String)
  | tooShort
  | rcode (code : UInt8)
  | noAnswers
  | noARecord
deriving DecidableEq

def showSocketAddr (addr : SocketAddr) : String :=
  match addr.ip with
  | .v4 _ => String.ofList (NetParser.showIp addr.ip ++ ':' :: decimal addr.port.toNat)
  | .v6 _ =>
    String.ofList ('[' :: NetParser.showIp addr.ip ++ ']' :: ':' :: decimal addr.port.toNat)

def DnsError.text : DnsError → String
  | .bindFailed e => "DNS bind failed: " ++ e
  | .sendTimeout server => "DNS send timeout to " ++ showSocketAddr server
  | .sendFailed e => "DNS send failed: " ++ e
  | .queryTimeout => "DNS query timeout"
  | .recvFailed e => "DNS recv failed: " ++ e
  | .tooShort => "Response too short"
  | .rcode code => "DNS error: rcode=" ++ toString code.toNat
  | .noAnswers => "No answers in response"
  | .noARecord => "No A record found in response"

def hostLabels (hostname : Hostname) : List Bytes := (hostname.splitOn '.').map utf8

/-- The labels, the empty one, the type A and the class IN. -/
def questionBytes (hostname : Hostname) : Bytes :=
  lengthPrefixed (hostLabels hostname) ++ [0x00, 0x00, 0x01, 0x00, 0x01]

/-- The transaction id is the same for every query. -/
def buildDnsQuery (hostname : Hostname) : Bytes :=
  [0x00, 0x01, 0x01, 0x00, 0x00, 0x01, 0x00, 0x00, 0x00, 0x00, 0x00, 0x00] ++
    questionBytes hostname

/-- The loop over labels, of which each but the empty one moves on by at least one byte. -/
def skipLabels (data : Bytes) : Nat → Nat → Nat
  | 0, pos => pos
  | fuel + 1, pos =>
    if pos < data.length ∧ u8At data pos ≠ 0x00 then
      skipLabels data fuel (pos + (1 + (u8At data pos).toNat))
    else pos

def skipAnswerName (data : Bytes) (pos : Nat) : Nat :=
  if u8At data pos &&& 0xC0 = 0xC0 then pos + 2 else skipLabels data data.length pos + 1

def ipv4At (data : Bytes) (pos : Nat) : Ipv4Addr :=
  BitVec.ofNat 32 (ofBe
    [u8At data pos, u8At data (pos + 1), u8At data (pos + 2), u8At data (pos + 3)])

def parseAnswers (data : Bytes) : Nat → Nat → Except DnsError Ipv4Addr
  | 0, _ => .error .noARecord
  | ancount + 1, pos =>
    if data.length < pos + 10 then .error .noARecord
    else
      let pos := skipAnswerName data pos
      if data.length < pos + 10 then .error .noARecord
      else
        let qtype := u16At data pos
        let qclass := u16At data (pos + 2)
        let rdlen := u16At data (pos + 8)
        let pos := pos + 10
        if qtype = 1 ∧ qclass = 1 ∧ rdlen = 4 ∧ pos + 4 ≤ data.length then .ok (ipv4At data pos)
        else parseAnswers data ancount (pos + rdlen)

def parseDnsResponse (data : Bytes) : Except DnsError Ipv4Addr :=
  if data.length < 12 then .error .tooShort
  else
    let rcode := u8At data 3 &&& 0x0F
    if rcode ≠ 0 then .error (.rcode rcode)
    else
      let ancount := u16At data 6
      if ancount = 0 then .error .noAnswers
      else parseAnswers data ancount (skipLabels data data.length 12 + 1 + 4)

/-- The buffer for the response has 4096 bytes; the sender of what it holds is not looked at. -/
def dnsQuery (server : SocketAddr) : Exchange → Except DnsError Ipv4Addr
  | .bindFails e => .error (.bindFailed e)
  | .sendTimesOut => .error (.sendTimeout server)
  | .sendFails e => .error (.sendFailed e)
  | .silent => .error .queryTimeout
  | .recvFails e => .error (.recvFailed e)
  | .hears first _ => parseDnsResponse (first.payload.take 4096)

/-- The upstream servers, each with what becomes of the query to it if it is made. -/
abbrev Queries := List (SocketAddr × Exchange)

def forwardLookup : Queries → Option Ipv4Addr
  | [] => none
  | (server, exchange) :: rest =>
    match dnsQuery server exchange with
    | .ok ip => some ip
    | .error _ => forwardLookup rest

section Parsing
variable (front rest : Bytes)

/-- With as much fuel as there are bytes left the loop runs to its own end. -/
theorem skipLabels_ends (data : Bytes) {fuel pos : Nat} (hfuel : data.length ≤ pos + fuel) :
    data.length ≤ skipLabels data fuel pos ∨ u8At data (skipLabels data fuel pos) = 0 := by
  induction fuel generalizing pos with
  | zero => exact .inl hfuel
  | succ fuel ih =>
    rw [skipLabels]
    split
    · exact ih (by omega)
    · next hstop =>
      rw [not_and_or, Nat.not_lt, ne_eq, not_not] at hstop
      exact hstop

theorem le_skipLabels (data : Bytes) (fuel pos : Nat) : pos ≤ skipLabels data fuel pos := by
  induction fuel generalizing pos with
  | zero => exact Nat.le_refl pos
  | succ fuel ih =>
    rw [skipLabels]
    split
    · exact Nat.le_trans (Nat.le_add_right pos _) (ih _)
    · exact Nat.le_refl pos

theorem skipLabels_zero {data : Bytes} {pos : Nat} (h : u8At data pos = 0) (fuel : Nat) :
    skipLabels data fuel pos = pos := by
  cases fuel with
  | zero => rfl
  | succ fuel => rw [skipLabels, if_neg (fun hbyte => hbyte.2 h)]

theorem skipLabels_label {label : Bytes} (hpos : 0 < label.length) (hlt : label.length < 256)
    (fuel : Nat) :
    skipLabels (front ++ UInt8.ofNat label.length :: (label ++ rest)) (fuel + 1) front.length =
      skipLabels (front ++ UInt8.ofNat label.length :: (label ++ rest)) fuel
        (front ++ UInt8.ofNat label.length :: label).length := by
  have hlength : (UInt8.ofNat label.length).toNat = label.length := UInt8.toNat_ofNat_of_lt' hlt
  have hnonzero : UInt8.ofNat label.length ≠ 0 := by
    intro hzero
    rw [hzero] at hlength
    change 0 = label.length at hlength
    omega
  have hinside : front.length < (front ++ UInt8.ofNat label.length :: (label ++ rest)).length := by
    rw [List.length_append, List.length_cons]
    omega
  rw [skipLabels, u8At_append, if_pos ⟨hinside, hnonzero⟩, hlength, List.length_append,
    List.length_cons, Nat.add_comm 1]

theorem skipLabels_labels {labels : List Bytes} {fuel : Nat}
    (hlabels : ∀ label ∈ labels, 0 < label.length ∧ label.length < 256)
    (hfuel : labels.length ≤ fuel) :
    skipLabels (front ++ (lengthPrefixed labels ++ rest)) fuel front.length =
      skipLabels (front ++ (lengthPrefixed labels ++ rest)) (fuel - labels.length)
        (front.length + (lengthPrefixed labels).length) := by
  induction labels generalizing front fuel with
  | nil => rfl
  | cons label labels ih =>
    obtain ⟨hpos, hlt⟩ := hlabels label List.mem_cons_self
    obtain ⟨fuel, rfl⟩ : ∃ k, fuel = k + 1 := ⟨fuel - 1, by rw [List.length_cons] at hfuel; omega⟩
    have hhead : front ++ (lengthPrefixed (label :: labels) ++ rest) =
        front ++ UInt8.ofNat label.length :: (label ++ (lengthPrefixed labels ++ rest)) := by
      rw [lengthPrefixed_cons, List.cons_append, List.append_assoc]
    have hbehind : front ++ UInt8.ofNat label.length :: (label ++ (lengthPrefixed labels ++ rest)) =
        (front ++ UInt8.ofNat label.length :: label) ++ (lengthPrefixed labels ++ rest) := by
      rw [List.append_assoc, List.cons_append]
    have hnext := ih (front ++ UInt8.ofNat label.length :: label)
      (fun l hl => hlabels l (List.mem_cons_of_mem _ hl)) (Nat.le_of_succ_le_succ hfuel)
    have hwhole : front.length + (lengthPrefixed (label :: labels)).length =
        (front ++ UInt8.ofNat label.length :: label).length + (lengthPrefixed labels).length := by
      rw [lengthPrefixed_cons, List.length_cons, List.length_append, List.length_append,
        List.length_cons]
      omega
    rw [hhead, skipLabels_label front _ hpos hlt, hbehind, hnext, hwhole, List.length_cons,
      Nat.add_sub_add_right]

theorem labels_le_length (labels : List Bytes) :
    labels.length + rest.length ≤ (front ++ (lengthPrefixed labels ++ rest)).length := by
  have hle := length_le_lengthPrefixed labels
  rw [List.length_append, List.length_append]
  omega

theorem skipLabels_lengthPrefixed {labels : List Bytes} {fuel : Nat}
    (hlabels : ∀ label ∈ labels, 0 < label.length ∧ label.length < 256)
    (hfuel : labels.length ≤ fuel) :
    skipLabels (front ++ (lengthPrefixed labels ++ 0 :: rest)) fuel front.length =
      front.length + (lengthPrefixed labels).length := by
  rw [skipLabels_labels front (0 :: rest) hlabels hfuel]
  apply skipLabels_zero
  rw [← List.append_assoc, ← List.length_append]
  exact u8At_append _ rest 0

theorem labels_encodable (n : Name) :
    ∀ label ∈ n.labels.map Label.bytes, 0 < label.length ∧ label.length < 256 := by
  intro label hl
  obtain ⟨l, -, rfl⟩ := List.mem_map.mp hl
  exact ⟨l.nonempty, Nat.lt_trans l.short (by decide)⟩

theorem unmarked_label (l : Label) (ls : List Label) :
    u8At (front ++ (lengthPrefixed ((l :: ls).map Label.bytes) ++ rest)) front.length &&& 0xC0 ≠
      0xC0 := by
  rw [List.map_cons, lengthPrefixed_cons, List.cons_append, u8At_append]
  exact unmarked_and l.short

/-- The parser finds the end of a name that is spelled out or is a pointer alone. -/
theorem skipAnswerName_encode {n : Name} (hn : n.IsPlain) :
    skipAnswerName (front ++ (n.encode ++ rest)) front.length =
      front.length + n.encode.length := by
  rw [skipAnswerName]
  cases hp : n.pointer with
  | none =>
    have hencode : n.encode = lengthPrefixed (n.labels.map Label.bytes) ++ [0] := by
      rw [Name.encode, hp]
    have hbytes : n.encode ++ rest = lengthPrefixed (n.labels.map Label.bytes) ++ 0 :: rest := by
      rw [hencode, List.append_assoc]
      rfl
    have hmark : u8At (front ++ (n.encode ++ rest)) front.length &&& 0xC0 ≠ 0xC0 := by
      rw [hbytes]
      cases n.labels with
      | nil =>
        rw [List.map_nil, lengthPrefixed, List.flatMap_nil, List.nil_append, u8At_append]
        decide
      | cons l ls => exact unmarked_label front _ l ls
    have hfuel := labels_le_length front (0 :: rest) (n.labels.map Label.bytes)
    rw [if_neg hmark, hbytes, skipLabels_lengthPrefixed front rest (labels_encodable n)
      (Nat.le_of_add_right_le hfuel), hencode, List.length_append, List.length_singleton,
      Nat.add_assoc]
  | some p =>
    have hnil : n.labels = [] := hn.resolve_right (by rw [hp]; exact Option.some_ne_none p)
    have hencode : n.encode = [p.high, p.low] := by
      rw [Name.encode, hp, hnil]
      rfl
    rw [hencode, List.cons_append, u8At_append, if_pos p.marked_and]
    rfl

theorem ipv4At_append (rdata : Bytes) (h : rdata.length = 4) :
    toBe 4 (ipv4At (front ++ (rdata ++ rest)) front.length).toNat = rdata := by
  match rdata, h with
  | [a, b, c, d], _ =>
    have hbytes : ipv4At (front ++ ([a, b, c, d] ++ rest)) front.length =
        BitVec.ofNat 32 (ofBe [a, b, c, d]) := by
      have hat (i : Nat) := u8At_append_add front ([a, b, c, d] ++ rest) i
      rw [ipv4At, hat 1, hat 2, hat 3]
      have hfirst := hat 0
      rw [Nat.add_zero] at hfirst
      rw [hfirst]
      rfl
    have hlt : ofBe [a, b, c, d] < 2 ^ 32 :=
      Nat.lt_of_lt_of_eq (ofBe_lt [a, b, c, d]) (show 256 ^ 4 = 2 ^ 32 by norm_num)
    rw [hbytes, BitVec.toNat_ofNat, Nat.mod_eq_of_lt hlt]
    exact toBe_ofBe [a, b, c, d]

/-- The fixed part of a record is read behind its name. -/
structure ReadsRecord (data : Bytes) (pos : Nat) (r : ResourceRecord) : Prop where
  rtype : u16At data pos = r.rtype.toNat
  rclass : u16At data (pos + 2) = r.rclass.toNat
  rdlength : u16At data (pos + 8) = r.rdata.length
  address : r.rdata.length = 4 → toBe 4 (ipv4At data (pos + 10)).toNat = r.rdata

theorem reads_record (r : ResourceRecord) :
    ReadsRecord (front ++ (r.encode ++ rest)) (front.length + r.name.encode.length) r := by
  have hsplit : front ++ (r.encode ++ rest) = (front ++ r.name.encode) ++
      (toBe 2 r.rtype.toNat ++ (toBe 2 r.rclass.toNat ++ (toBe 4 r.ttl.toNat ++
        (toBe 2 r.rdata.length ++ (r.rdata ++ rest))))) := by
    simp only [ResourceRecord.encode, List.append_assoc]
  have hread (i : Nat) := u16At_append_add (front ++ r.name.encode)
    (toBe 2 r.rtype.toNat ++ (toBe 2 r.rclass.toNat ++ (toBe 4 r.ttl.toNat ++
      (toBe 2 r.rdata.length ++ (r.rdata ++ rest))))) i
  rw [hsplit, ← List.length_append]
  constructor
  · have hzero := hread 0
    rw [Nat.add_zero] at hzero
    rw [hzero, u16At_toBe r.rtype.toNat_lt]
  · rw [hread]
    have hskip := u16At_append_add (toBe 2 r.rtype.toNat) (toBe 2 r.rclass.toNat ++
      (toBe 4 r.ttl.toNat ++ (toBe 2 r.rdata.length ++ (r.rdata ++ rest)))) 0
    rw [toBe_length] at hskip
    rw [hskip, u16At_toBe r.rclass.toNat_lt]
  · rw [hread]
    have hskip := u16At_append_add (toBe 2 r.rtype.toNat ++ toBe 2 r.rclass.toNat ++
      toBe 4 r.ttl.toNat) (toBe 2 r.rdata.length ++ (r.rdata ++ rest)) 0
    simp only [List.length_append, toBe_length, List.append_assoc] at hskip
    rw [hskip, u16At_toBe r.short]
  · intro hlength
    have hfixed : ((front ++ r.name.encode) ++ (toBe 2 r.rtype.toNat ++ (toBe 2 r.rclass.toNat ++
        (toBe 4 r.ttl.toNat ++ toBe 2 r.rdata.length)))).length =
          (front ++ r.name.encode).length + 10 := by
      simp only [List.length_append, toBe_length]
    have haddress := ipv4At_append ((front ++ r.name.encode) ++
      (toBe 2 r.rtype.toNat ++ (toBe 2 r.rclass.toNat ++ (toBe 4 r.ttl.toNat ++
        toBe 2 r.rdata.length)))) rest r.rdata hlength
    rw [hfixed] at haddress
    simp only [List.append_assoc] at haddress ⊢
    exact haddress

theorem skipAnswerName_record {r : ResourceRecord} (hplain : r.name.IsPlain) :
    skipAnswerName (front ++ (r.encode ++ rest)) front.length =
      front.length + r.name.encode.length := by
  have hskip := skipAnswerName_encode front (toBe 2 r.rtype.toNat ++ (toBe 2 r.rclass.toNat ++
    (toBe 4 r.ttl.toNat ++ (toBe 2 r.rdata.length ++ (r.rdata ++ rest))))) hplain
  simpa only [ResourceRecord.encode, List.append_assoc] using hskip

theorem record_end (r : ResourceRecord) :
    front.length + r.name.encode.length + 10 + r.rdata.length = (front ++ r.encode).length := by
  simp only [ResourceRecord.encode, List.length_append, toBe_length]
  omega

theorem parseAnswers_record {r : ResourceRecord} (hplain : r.name.IsPlain) (ancount : Nat) :
    parseAnswers (front ++ (r.encode ++ rest)) (ancount + 1) front.length =
      if r.rtype = 1 ∧ r.rclass = 1 ∧ r.rdata.length = 4 then
        .ok (BitVec.ofNat 32 (ofBe r.rdata))
      else parseAnswers (front ++ (r.encode ++ rest)) ancount (front ++ r.encode).length := by
  have hread := reads_record front rest r
  have hname := skipAnswerName_record front rest hplain
  have hend := record_end front r
  have hlength : (front ++ (r.encode ++ rest)).length =
      (front ++ r.encode).length + rest.length := by
    rw [← List.append_assoc, List.length_append]
  rw [parseAnswers, hname]
  dsimp only
  rw [hread.rtype, hread.rclass, hread.rdlength, hend, if_neg (by omega), if_neg (by omega)]
  by_cases hfound : r.rtype = 1 ∧ r.rclass = 1 ∧ r.rdata.length = 4
  · obtain ⟨htype, hclass, hfour⟩ := hfound
    have haddress := congrArg ofBe (hread.address hfour)
    rw [ofBe_toBe_of_lt (BitVec.isLt _)] at haddress
    rw [if_pos ⟨by rw [htype]; rfl, by rw [hclass]; rfl, hfour, by omega⟩,
      if_pos ⟨htype, hclass, hfour⟩, ← haddress, BitVec.ofNat_toNat, BitVec.setWidth_eq]
  · rw [if_neg hfound, if_neg]
    rintro ⟨htype, hclass, hfour, -⟩
    exact hfound ⟨UInt16.toNat_inj.mp htype, UInt16.toNat_inj.mp hclass, hfour⟩

/-- An address that the loop over the answers gives out is that of one of the A records, if every
name among the records is plain and there is no answer behind them or an A record among them. -/
theorem parseAnswers_isA {answers : List ResourceRecord} {ancount : Nat} {ip : Ipv4Addr}
    (hplain : ∀ r ∈ answers, r.name.IsPlain) (hcount : answers.length ≤ ancount)
    (hreach : answers.length = ancount ∨
      ∃ r ∈ answers, r.rtype = 1 ∧ r.rclass = 1 ∧ r.rdata.length = 4)
    (h : parseAnswers (front ++ (answers.flatMap ResourceRecord.encode ++ rest)) ancount
      front.length = .ok ip) :
    ∃ r ∈ answers, r.IsA (toBe 4 ip.toNat) := by
  induction answers generalizing front ancount with
  | nil =>
    rcases hreach with rfl | ⟨r, hr, -⟩
    · cases h
    · cases hr
  | cons r answers ih =>
    obtain ⟨ancount, rfl⟩ : ∃ k, ancount = k + 1 :=
      ⟨ancount - 1, by rw [List.length_cons] at hcount; omega⟩
    rw [List.flatMap_cons, List.append_assoc,
      parseAnswers_record front _ (hplain r List.mem_cons_self)] at h
    split at h
    · next hfound =>
      obtain ⟨htype, hclass, hlength⟩ := hfound
      have hlt : ofBe r.rdata < 2 ^ 32 := by
        have hbound := ofBe_lt r.rdata
        rw [hlength] at hbound
        exact Nat.lt_of_lt_of_eq hbound (by norm_num)
      refine ⟨r, List.mem_cons_self, htype, hclass, ?_⟩
      rw [← Except.ok.inj h, BitVec.toNat_ofNat, Nat.mod_eq_of_lt hlt, ← hlength, toBe_ofBe]
    · next hother =>
      have hreach' : answers.length = ancount ∨
          ∃ r ∈ answers, r.rtype = 1 ∧ r.rclass = 1 ∧ r.rdata.length = 4 := by
        rcases hreach with hall | ⟨r', hr', hA⟩
        · exact .inl (Nat.succ.inj hall)
        · rcases List.mem_cons.mp hr' with rfl | hr'
          · exact (hother hA).elim
          · exact .inr ⟨r', hr', hA⟩
      rw [← List.append_assoc] at h
      obtain ⟨r', hmem, hA⟩ := ih (front ++ r.encode)
        (fun r' hr' => hplain r' (List.mem_cons_of_mem _ hr')) (Nat.le_of_succ_le_succ hcount)
        hreach' h
      exact ⟨r', List.mem_cons_of_mem _ hmem, hA⟩

theorem ancount_encode (m : Message) : u16At m.encode 6 = m.ancount.toNat := by
  have hskip := u16At_append_add (toBe 2 m.id.toNat ++ toBe 2 m.flags.toNat ++
    toBe 2 m.qdcount.toNat) (toBe 2 m.ancount.toNat ++ (toBe 2 m.nscount.toNat ++
      (toBe 2 m.arcount.toNat ++ (m.question ++
        (m.answers.flatMap ResourceRecord.encode ++ m.rest))))) 0
  rw [u16At_toBe m.ancount.toNat_lt] at hskip
  simp only [List.length_append, toBe_length, List.append_assoc] at hskip
  simp only [Message.encode, Message.header, List.append_assoc]
  exact hskip

section Question
variable {m : Message} {labels : List Bytes} {tail : Bytes}

theorem question_end (hlabels : ∀ label ∈ labels, 0 < label.length ∧ label.length < 256)
    (htail : tail.length = 4) (hquestion : m.question = lengthPrefixed labels ++ 0 :: tail) :
    skipLabels m.encode m.encode.length 12 + 1 + 4 = (m.header ++ m.question).length := by
  have hsplit : m.encode = m.header ++ (lengthPrefixed labels ++
      0 :: (tail ++ (m.answers.flatMap ResourceRecord.encode ++ m.rest))) := by
    rw [Message.encode, hquestion]
    simp only [List.append_assoc, List.cons_append]
  have hfuel := labels_le_length m.header
    (0 :: (tail ++ (m.answers.flatMap ResourceRecord.encode ++ m.rest))) labels
  have hskip := skipLabels_lengthPrefixed m.header
    (tail ++ (m.answers.flatMap ResourceRecord.encode ++ m.rest)) hlabels
    (Nat.le_of_add_right_le hfuel)
  rw [← hsplit, m.header_length] at hskip
  rw [hskip, List.length_append, m.header_length, hquestion, List.length_append, List.length_cons,
    htail, Nat.add_assoc _ 1, Nat.add_assoc]

theorem parseDnsResponse_eq (hlabels : ∀ label ∈ labels, 0 < label.length ∧ label.length < 256)
    (htail : tail.length = 4) (hquestion : m.question = lengthPrefixed labels ++ 0 :: tail)
    (hrcode : u8At m.encode 3 &&& 0x0F = 0) (hcount : m.ancount.toNat ≠ 0) :
    parseDnsResponse m.encode =
      parseAnswers m.encode m.ancount.toNat (m.header ++ m.question).length := by
  rw [parseDnsResponse, if_neg (Nat.not_lt.mpr m.header_le_length)]
  dsimp only
  rw [hrcode, if_neg (fun h => h rfl), ancount_encode, if_neg hcount,
    question_end hlabels htail hquestion]

end Question

/-- Every label of the name has a length that its byte holds. -/
def Encodable (hostname : Hostname) : Prop :=
  ∀ label ∈ hostLabels hostname, 0 < label.length ∧ label.length < 256

instance (hostname : Hostname) : Decidable (Encodable hostname) :=
  inferInstanceAs (Decidable (∀ label ∈ hostLabels hostname, _))

theorem questionBytes_eq (hostname : Hostname) : questionBytes hostname =
    lengthPrefixed (hostLabels hostname) ++ 0 :: [0x00, 0x01, 0x00, 0x01] := rfl

theorem parseDnsResponse_ok {data : Bytes} {ip : Ipv4Addr} (h : parseDnsResponse data = .ok ip) :
    u8At data 3 &&& 0x0F = 0 ∧ u16At data 6 ≠ 0 := by
  rw [parseDnsResponse] at h
  dsimp only at h
  split at h
  · cases h
  · split at h
    · cases h
    · next hrcode =>
      split at h
      · cases h
      · next hcount => exact ⟨not_not.mp hrcode, hcount⟩

theorem parseDnsResponse_isA {hostname : Hostname} {m : Message} {ip : Ipv4Addr}
    (hhost : Encodable hostname) (hquestion : m.question = questionBytes hostname)
    (hplain : ∀ r ∈ m.answers, r.name.IsPlain) (hreach : m.ReachesA)
    (h : parseDnsResponse m.encode = .ok ip) :
    ∃ r ∈ m.answers, r.IsA (toBe 4 ip.toNat) := by
  obtain ⟨hrcode, hcount⟩ := parseDnsResponse_ok h
  rw [ancount_encode] at hcount
  rw [parseDnsResponse_eq hhost rfl (hquestion.trans (questionBytes_eq hostname)) hrcode hcount,
    Message.encode, List.append_assoc] at h
  exact parseAnswers_isA _ m.rest hplain m.counted hreach h

end Parsing

end P2PMesh.Dns
