import P2PMesh.Base.CheckedRead
import P2PMesh.DnsQuery

namespace P2PMesh.Dns
open P2PMesh.Base P2PMesh.Base.DnsWire
set_option autoImplicit true

/-- The loop over labels with every read and every sum checked; `none` is a panic, or a loop that
has not ended. -/
def skipLabelsChecked (data : Bytes) : Nat → Nat → Option Nat
  | 0, _ => none
  | fuel + 1, pos =>
    if pos < data.length then do
      let labelLen ← data[pos]?
      if labelLen ≠ 0x00 then skipLabelsChecked data fuel (← advance pos (1 + labelLen.toNat))
      else return pos
    else return pos

def skipAnswerNameChecked (data : Bytes) (pos : Nat) : Option Nat := do
  let first ← data[pos]?
  if first &&& 0xC0 = 0xC0 then advance pos 2
  else advance (← skipLabelsChecked data (data.length + 1) pos) 1

/-- The type, the class and the length of a record behind its name, and the place behind them. -/
def readRecordChecked (data : Bytes) (pos : Nat) : Option (Nat × Nat × Nat × Nat) := do
  let qtype ← readBe data pos 2
  let pos ← advance pos 2
  let qclass ← readBe data pos 2
  let pos ← advance pos 2
  let _ttl ← readBe data pos 4
  let pos ← advance pos 4
  let rdlen ← readBe data pos 2
  let pos ← advance pos 2
  return (qtype, qclass, rdlen, pos)

/-- Whether the record is an A record whose address is all there. -/
def addressFitsChecked (data : Bytes) (qtype qclass rdlen pos : Nat) : Option Bool :=
  if qtype = 1 ∧ qclass = 1 ∧ rdlen = 4 then
    (advance pos 4).map (fun addressEnd => addressEnd ≤ data.length)
  else some false

def parseAnswersChecked (data : Bytes) : Nat → Nat → Option (Except DnsError Ipv4Addr)
  | 0, _ => some (.error .noARecord)
  | ancount + 1, pos => do
    let nameEnd ← advance pos 10
    if data.length < nameEnd then some (.error .noARecord)
    else do
      let pos ← skipAnswerNameChecked data pos
      let fixedEnd ← advance pos 10
      if data.length < fixedEnd then some (.error .noARecord)
      else do
        let (qtype, qclass, rdlen, pos) ← readRecordChecked data pos
        let found ← addressFitsChecked data qtype qclass rdlen pos
        if found then (readBe data pos 4).map (fun ip => .ok (BitVec.ofNat 32 ip))
        else parseAnswersChecked data ancount (← advance pos rdlen)

def parseDnsResponseChecked (data : Bytes) : Option (Except DnsError Ipv4Addr) :=
  if data.length < 12 then some (.error .tooShort)
  else do
    let flags ← data[3]?
    if flags &&& 0x0F ≠ 0 then some (.error (.rcode (flags &&& 0x0F)))
    else do
      let ancount ← readBe data 6 2
      if ancount = 0 then some (.error .noAnswers)
      else do
        let pos ← skipLabelsChecked data (data.length + 1) 12
        let pos ← advance pos 1
        let pos ← advance pos 4
        parseAnswersChecked data ancount pos

theorem skipLabels_le (data : Bytes) (fuel pos : Nat) :
    skipLabels data fuel pos ≤ max pos (data.length + 255) := by
  induction fuel generalizing pos with
  | zero => exact Nat.le_max_left _ _
  | succ fuel ih =>
    rw [skipLabels]
    split
    · next hlabel =>
      have hnext := ih (pos + (1 + (u8At data pos).toNat))
      have hbyte := (u8At data pos).toNat_lt
      omega
    · exact Nat.le_max_left _ _

theorem skipAnswerName_le (data : Bytes) (pos : Nat) :
    skipAnswerName data pos ≤ max (pos + 2) (data.length + 256) := by
  rw [skipAnswerName]
  split
  · exact Nat.le_max_left _ _
  · have hend := skipLabels_le data data.length pos
    omega

theorem u16At_lt (data : Bytes) (pos : Nat) : u16At data pos < 2 ^ 16 := by
  have hhigh := (u8At data pos).toNat_lt
  have hlow := (u8At data (pos + 1)).toNat_lt
  rw [u16At]
  omega

section Checked
variable {data : Bytes} (hdata : data.length < 2 ^ 63)
include hdata

/-- With more fuel than there are bytes left the loop ends, and no read or sum in it fails. -/
theorem skipLabelsChecked_eq {fuel pos : Nat} (fuel' : Nat) (hfuel : data.length - pos < fuel)
    (hfuel' : data.length - pos ≤ fuel') :
    skipLabelsChecked data fuel pos = some (skipLabels data fuel' pos) := by
  induction fuel generalizing pos fuel' with
  | zero => exact (Nat.not_lt_zero _ hfuel).elim
  | succ fuel ih =>
    rw [skipLabelsChecked]
    by_cases hinside : pos < data.length
    · obtain ⟨fuel', rfl⟩ : ∃ k, fuel' = k + 1 := ⟨fuel' - 1, by omega⟩
      rw [if_pos hinside, read_u8At hinside, Option.bind_eq_bind, Option.bind_some, skipLabels]
      by_cases hlabel : u8At data pos ≠ 0x00
      · have hbyte := (u8At data pos).toNat_lt
        rw [if_pos hlabel, if_pos ⟨hinside, hlabel⟩, advance_eq (by omega),
          Option.bind_eq_bind, Option.bind_some]
        exact ih fuel' (by omega) (by omega)
      · rw [if_neg hlabel, if_neg (fun h => hlabel h.2)]
        rfl
    · rw [if_neg hinside]
      cases fuel' with
      | zero => rfl
      | succ fuel' =>
        rw [skipLabels, if_neg (fun h => hinside h.1)]
        rfl

theorem skipAnswerNameChecked_eq {pos : Nat} (hpos : pos < data.length) :
    skipAnswerNameChecked data pos = some (skipAnswerName data pos) := by
  rw [skipAnswerNameChecked, read_u8At hpos, Option.bind_eq_bind, Option.bind_some,
    skipAnswerName]
  split
  · exact advance_eq (by omega)
  · have hend := skipLabels_le data data.length pos
    rw [skipLabelsChecked_eq hdata data.length (by omega) (by omega),
      Option.bind_eq_bind, Option.bind_some]
    exact advance_eq (by omega)

theorem u16_eq {pos : Nat} (h : pos + 2 ≤ data.length) :
    readBe data pos 2 = some (u16At data pos) := by
  rw [readBe_eq hdata h, ofBe_two h]

theorem readRecordChecked_eq {pos : Nat} (h : pos + 10 ≤ data.length) :
    readRecordChecked data pos =
      some (u16At data pos, u16At data (pos + 2), u16At data (pos + 8), pos + 10) := by
  rw [readRecordChecked, u16_eq hdata (by omega), advance_eq (by omega)]
  simp only [Option.bind_eq_bind, Option.bind_some]
  rw [u16_eq hdata (by omega), advance_eq (by omega)]
  simp only [Option.bind_some]
  rw [readBe_eq hdata (by omega), advance_eq (by omega)]
  simp only [Option.bind_some]
  rw [u16_eq hdata (by omega), advance_eq (by omega)]
  rfl

theorem addressFitsChecked_eq {pos : Nat} (qtype qclass rdlen : Nat)
    (hpos : pos ≤ data.length) :
    addressFitsChecked data qtype qclass rdlen pos =
      some (decide (qtype = 1 ∧ qclass = 1 ∧ rdlen = 4 ∧ pos + 4 ≤ data.length)) := by
  rw [addressFitsChecked]
  split
  · next hrecord =>
    obtain ⟨rfl, rfl, rfl⟩ := hrecord
    rw [advance_eq (by omega), Option.map_some]
    simp only [true_and]
  · next hrecord =>
    congr 1
    rw [eq_comm, decide_eq_false_iff_not]
    exact fun hfits => hrecord ⟨hfits.1, hfits.2.1, hfits.2.2.1⟩

theorem ipv4_eq {pos : Nat} (h : pos + 4 ≤ data.length) :
    (readBe data pos 4).map (BitVec.ofNat 32) = some (ipv4At data pos) := by
  rw [readBe_eq hdata h, take_drop_concat (by omega), take_drop_concat (by omega),
    take_drop_concat (by omega), take_drop_concat (by omega)]
  rfl

theorem parseAnswersChecked_eq (ancount : Nat) {pos : Nat} (hpos : pos < data.length + 2 ^ 16) :
    parseAnswersChecked data ancount pos = some (parseAnswers data ancount pos) := by
  induction ancount generalizing pos with
  | zero => rfl
  | succ ancount ih =>
    rw [parseAnswersChecked, parseAnswers, advance_eq (by omega), Option.bind_eq_bind,
      Option.bind_some]
    by_cases hroom : data.length < pos + 10
    · rw [if_pos hroom, if_pos hroom]
    rw [if_neg hroom, if_neg hroom, skipAnswerNameChecked_eq hdata (by omega),
      Option.bind_eq_bind, Option.bind_some]
    dsimp only
    have hname := skipAnswerName_le data pos
    rw [advance_eq (by omega), Option.bind_some]
    by_cases hfixed : data.length < skipAnswerName data pos + 10
    · rw [if_pos hfixed, if_pos hfixed]
    rw [if_neg hfixed, if_neg hfixed, readRecordChecked_eq hdata (by omega), Option.bind_eq_bind,
      Option.bind_some]
    dsimp only
    rw [addressFitsChecked_eq hdata _ _ _ (by omega), Option.bind_some]
    split
    · next hfound =>
      have hfound := of_decide_eq_true hfound
      rw [if_pos hfound, ← Function.comp_def (fun ip => Except.ok ip) (BitVec.ofNat 32),
        ← Option.map_map, ipv4_eq hdata hfound.2.2.2, Option.map_some]
    · next hfound =>
      have hrdlen := u16At_lt data (skipAnswerName data pos + 8)
      rw [if_neg (fun h => hfound (decide_eq_true h)), advance_eq (by omega), Option.bind_some]
      exact ih (by omega)

theorem parseDnsResponseChecked_eq :
    parseDnsResponseChecked data = some (parseDnsResponse data) := by
  rw [parseDnsResponseChecked, parseDnsResponse]
  by_cases hshort : data.length < 12
  · rw [if_pos hshort, if_pos hshort]
  rw [if_neg hshort, if_neg hshort, read_u8At (by omega), Option.bind_eq_bind, Option.bind_some]
  dsimp only
  by_cases hrcode : u8At data 3 &&& 0x0F ≠ 0
  · rw [if_pos hrcode, if_pos hrcode]
  rw [if_neg hrcode, if_neg hrcode, u16_eq hdata (by omega), Option.bind_eq_bind,
    Option.bind_some]
  by_cases hcount : u16At data 6 = 0
  · rw [if_pos hcount, if_pos hcount]
  have hend := skipLabels_le data data.length 12
  rw [if_neg hcount, if_neg hcount,
    skipLabelsChecked_eq hdata data.length (by omega) (by omega),
    Option.bind_some, advance_eq (by omega), Option.bind_some, advance_eq (by omega),
    Option.bind_some]
  exact parseAnswersChecked_eq hdata _ (by omega)

end Checked

section Located
variable {data : Bytes} {ip : Ipv4Addr}

theorem parseAnswers_located {ancount pos : Nat} (h : parseAnswers data ancount pos = .ok ip) :
    ∃ place, place + 14 ≤ data.length ∧ u16At data place = 1 ∧
      u16At data (place + 2) = 1 ∧ u16At data (place + 8) = 4 ∧ ipv4At data (place + 10) = ip := by
  induction ancount generalizing pos with
  | zero => cases h
  | succ ancount ih =>
    rw [parseAnswers] at h
    split at h
    · cases h
    · dsimp only at h
      split at h
      · cases h
      · split at h
        · next hfound =>
          obtain ⟨htype, hclass, hlength, hfits⟩ := hfound
          exact ⟨skipAnswerName data pos, by omega, htype, hclass, hlength, Except.ok.inj h⟩
        · exact ih h

theorem parseDnsResponse_located (h : parseDnsResponse data = .ok ip) :
    ∃ place, place + 14 ≤ data.length ∧ u16At data place = 1 ∧
      u16At data (place + 2) = 1 ∧ u16At data (place + 8) = 4 ∧ ipv4At data (place + 10) = ip := by
  rw [parseDnsResponse] at h
  dsimp only at h
  split at h
  · cases h
  · split at h
    · cases h
    · split at h
      · cases h
      · exact parseAnswers_located h

theorem u16_bytes {pos n : Nat} (h : pos + 2 ≤ data.length) (hn : u16At data pos = n) :
    (data.drop pos).take 2 = toBe 2 n :=
  take_drop_eq h ((ofBe_two h).trans hn)

theorem ipv4_bytes {pos : Nat} (h : pos + 4 ≤ data.length) (hip : ipv4At data pos = ip) :
    (data.drop pos).take 4 = toBe 4 ip.toNat := by
  have hbytes : (data.drop pos).take 4 =
      [u8At data pos, u8At data (pos + 1), u8At data (pos + 2), u8At data (pos + 3)] := by
    rw [take_drop_concat (by omega), take_drop_concat (by omega), take_drop_concat (by omega),
      take_drop_concat (by omega)]
    rfl
  have haddress := ipv4At_append [] [] ((data.drop pos).take 4)
    (by rw [hbytes, List.length_cons, List.length_cons, List.length_cons, List.length_singleton])
  rw [List.append_nil, List.nil_append, hbytes] at haddress
  rw [hbytes, ← haddress, ← hip]
  rfl

theorem record_located {place : Nat} (hfits : place + 14 ≤ data.length)
    (htype : u16At data place = 1) (hclass : u16At data (place + 2) = 1)
    (hlength : u16At data (place + 8) = 4) (hip : ipv4At data (place + 10) = ip) :
    ∃ front ttl rest, data = front ++ (([0, 1] ++ [0, 1] ++ ttl ++ [0, 4]) ++
      toBe 4 ip.toNat) ++ rest ∧ ttl.length = 4 := by
  refine ⟨data.take place, (data.drop (place + 4)).take 4, data.drop (place + 14), ?_, ?_⟩
  · conv_lhs => rw [← List.take_append_drop place data, drop_eq_append data place 2,
      drop_eq_append data (place + 2) 2, drop_eq_append data (place + 4) 4,
      drop_eq_append data (place + 8) 2, drop_eq_append data (place + 10) 4,
      u16_bytes (by omega) htype, u16_bytes (by omega) hclass, u16_bytes (by omega) hlength,
      ipv4_bytes (by omega) hip]
    simp only [List.append_assoc]
    rfl
  · rw [List.length_take, List.length_drop]
    omega

end Located

/-- The parser with every read and sum checked returns on every slice, with what the parser gives;
and an address that it gives out stands in the slice, behind the type A, the class IN, a time to
live and the length 4. -/
theorem parseDnsResponse_safe (s : Slice) :
    parseDnsResponseChecked s.bytes = some (parseDnsResponse s.bytes) ∧
      ∀ ip, parseDnsResponse s.bytes = .ok ip →
        ∃ front ttl rest, s.bytes = front ++ (([0, 1] ++ [0, 1] ++ ttl ++ [0, 4]) ++
          toBe 4 ip.toNat) ++ rest ∧ ttl.length = 4 := by
  refine ⟨parseDnsResponseChecked_eq s.length_lt, ?_⟩
  intro ip h
  obtain ⟨place, hfits, htype, hclass, hlength, hip⟩ := parseDnsResponse_located h
  exact record_located hfits htype hclass hlength hip

end P2PMesh.Dns
