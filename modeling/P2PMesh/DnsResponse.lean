import P2PMesh.DnsQuery

namespace P2PMesh.Dns
open P2PMesh.Base P2PMesh.Base.DnsWire
set_option autoImplicit true

/-- The address of the first record of class IN and type A. -/
def firstAddress (answers : List ResourceRecord) : Option Ipv4Addr :=
  (answers.find? (fun r => r.IsAddress)).map (fun r => BitVec.ofNat 32 (ofBe r.rdata))

/-- The parser gives the first address out, and an error if there is none. -/
def ReadRight (m : Response) : Prop :=
  ∀ ip, parseDnsResponse m.encode = .ok ip ↔ firstAddress m.answers = some ip

instance (n : Name) : Decidable n.IsPlain :=
  decidable_of_iff (n.labels.isEmpty ∨ n.pointer.isNone) (by
    rw [List.isEmpty_iff, Option.isNone_iff_eq_none, Name.IsPlain])

/-- The names up to that of the first address are plain. -/
def PlainToAddress : List ResourceRecord → Prop
  | [] => True
  | r :: answers => r.name.IsPlain ∧ (r.IsAddress ∨ PlainToAddress answers)

instance decidablePlainToAddress : ∀ answers, Decidable (PlainToAddress answers)
  | [] => .isTrue trivial
  | r :: answers =>
    have := decidablePlainToAddress answers
    inferInstanceAs (Decidable (r.name.IsPlain ∧ (r.IsAddress ∨ PlainToAddress answers)))

/-- There is one question, and its name is spelled out. -/
def AsksOnce (m : Response) : Prop := ∃ q, m.questions = [q] ∧ q.name.pointer = none

/-- What the parser expects of a response that has answers. -/
def Expected (m : Response) : Prop :=
  m.answers = [] ∨ AsksOnce m ∧ PlainToAddress m.answers

/-- The answers and what follows them end before a place that a pointer's first byte, taken for a
length, leads to. -/
def Short (m : Response) : Prop :=
  (m.answers.flatMap ResourceRecord.encode ++ m.message.rest).length < 204

section Answers
variable {front rest : Bytes} {r : ResourceRecord} {answers : List ResourceRecord}

theorem firstAddress_of_isAddress (h : r.IsAddress) :
    firstAddress (r :: answers) = some (BitVec.ofNat 32 (ofBe r.rdata)) := by
  rw [firstAddress, List.find?_cons, decide_eq_true h]
  rfl

theorem firstAddress_of_not_isAddress (h : ¬ r.IsAddress) :
    firstAddress (r :: answers) = firstAddress answers := by
  rw [firstAddress, List.find?_cons, decide_eq_false h]
  rfl

theorem parseAnswers_firstAddress
    (haddresses : ∀ r ∈ answers, r.IsAddress → r.rdata.length = 4)
    (hplain : PlainToAddress answers) :
    parseAnswers (front ++ (answers.flatMap ResourceRecord.encode ++ rest)) answers.length
      front.length = (firstAddress answers).elim (.error .noARecord) .ok := by
  induction answers generalizing front with
  | nil => rfl
  | cons r answers ih =>
    rw [List.flatMap_cons, List.append_assoc, List.length_cons,
      parseAnswers_record front _ hplain.1]
    by_cases hr : r.IsAddress
    · rw [if_pos ⟨hr.1, hr.2, haddresses r List.mem_cons_self hr⟩, firstAddress_of_isAddress hr]
      rfl
    · rw [if_neg (fun h => hr ⟨h.1, h.2.1⟩), firstAddress_of_not_isAddress hr, ← List.append_assoc]
      exact ih (fun r hr => haddresses r (List.mem_cons_of_mem _ hr)) (hplain.2.resolve_left hr)

/-- Behind labels a pointer's first byte is taken for a length of at least 192. -/
theorem skipAnswerName_mixed (front rest : Bytes) {n : Name} (hn : ¬ n.IsPlain) :
    front.length + 194 ≤ skipAnswerName (front ++ (n.encode ++ rest)) front.length := by
  obtain ⟨hlabels, hpointer⟩ := not_or.mp hn
  obtain ⟨p, hp⟩ := Option.ne_none_iff_exists'.mp hpointer
  obtain ⟨l, ls, hl⟩ := List.exists_cons_of_ne_nil hlabels
  have hencode : n.encode ++ rest =
      lengthPrefixed (n.labels.map Label.bytes) ++ p.high :: p.low :: rest := by
    rw [Name.encode, hp, List.append_assoc]
    rfl
  have hmark : u8At (front ++ (n.encode ++ rest)) front.length &&& 0xC0 ≠ 0xC0 := by
    rw [hencode, hl]
    exact unmarked_label front _ l ls
  have hbytes : front ++ (n.encode ++ rest) = (front ++
      lengthPrefixed (n.labels.map Label.bytes)) ++ p.high :: p.low :: rest := by
    rw [hencode, List.append_assoc]
  have hlength : (n.labels.map Label.bytes).length + 1 ≤ (front ++ (n.encode ++ rest)).length := by
    have hcount := labels_le_length front (p.high :: p.low :: rest) (n.labels.map Label.bytes)
    rw [hencode]
    rw [List.length_cons] at hcount
    omega
  have hat : u8At (front ++ (n.encode ++ rest))
      (front.length + (lengthPrefixed (n.labels.map Label.bytes)).length) = p.high := by
    rw [hbytes, ← List.length_append]
    exact u8At_append _ _ _
  have hhigh : 192 ≤ p.high.toNat := p.marked
  obtain ⟨fuel, hfuel⟩ := Nat.exists_eq_add_of_le' (Nat.le_sub_of_add_le' hlength)
  have hskip := skipLabels_labels front (p.high :: p.low :: rest) (labels_encodable n)
    (Nat.le_of_succ_le hlength)
  rw [← hencode, hfuel, skipLabels, hat, if_pos] at hskip
  · have hle := le_skipLabels (front ++ (n.encode ++ rest)) fuel (front.length +
      (lengthPrefixed (n.labels.map Label.bytes)).length + (1 + p.high.toNat))
    rw [skipAnswerName, if_neg hmark, hskip]
    omega
  · refine ⟨?_, ?_⟩
    · rw [hbytes, List.length_append, List.length_append, List.length_cons]
      omega
    · intro hzero
      rw [hzero] at hhigh
      exact absurd hhigh (by decide)

theorem parseAnswers_mixed (hplain : ¬ PlainToAddress answers)
    (hshort : (answers.flatMap ResourceRecord.encode ++ rest).length < 204) :
    parseAnswers (front ++ (answers.flatMap ResourceRecord.encode ++ rest)) answers.length
      front.length = .error .noARecord := by
  induction answers generalizing front with
  | nil => exact (hplain trivial).elim
  | cons r answers ih =>
    rw [List.flatMap_cons, List.append_assoc] at hshort ⊢
    rw [List.length_cons]
    by_cases hname : r.name.IsPlain
    · have hr : ¬ r.IsAddress := fun hr => hplain ⟨hname, .inl hr⟩
      rw [parseAnswers_record front _ hname, if_neg (fun h => hr ⟨h.1, h.2.1⟩),
        ← List.append_assoc]
      apply ih (fun h => hplain ⟨hname, .inr h⟩)
      rw [List.length_append] at hshort
      omega
    · have hjump := skipAnswerName_mixed front (toBe 2 r.rtype.toNat ++
        (toBe 2 r.rclass.toNat ++ (toBe 4 r.ttl.toNat ++ (toBe 2 r.rdata.length ++ (r.rdata ++
          (answers.flatMap ResourceRecord.encode ++ rest)))))) hname
      have hsplit : r.name.encode ++ (toBe 2 r.rtype.toNat ++ (toBe 2 r.rclass.toNat ++
          (toBe 4 r.ttl.toNat ++ (toBe 2 r.rdata.length ++ (r.rdata ++
            (answers.flatMap ResourceRecord.encode ++ rest)))))) =
          r.encode ++ (answers.flatMap ResourceRecord.encode ++ rest) := by
        simp only [ResourceRecord.encode, List.append_assoc]
      rw [hsplit] at hjump
      have hend : (front ++ (r.encode ++ (answers.flatMap ResourceRecord.encode ++ rest))).length <
          skipAnswerName (front ++ (r.encode ++ (answers.flatMap ResourceRecord.encode ++ rest)))
            front.length + 10 := by
        rw [List.length_append]
        omega
      rw [parseAnswers]
      dsimp only
      rw [if_pos hend, ite_self]

end Answers

section Responses
variable {m : Response}

theorem lowBits_encode (m : Response) : u8At m.encode 3 &&& 0x0F = 0 := by
  have hall : ∀ n < 256, n % 16 = 0 → UInt8.ofNat n &&& 0x0F = 0 := by decide +kernel
  have hlow : m.message.flags.toNat % 2 ^ 8 % 16 = 0 := by
    rw [Nat.mod_mod_of_dvd _ (by decide)]
    exact m.noError
  rw [Response.encode, Message.flags_encode, ← UInt8.ofNat_mod_size]
  exact hall _ (Nat.mod_lt _ (by decide)) hlow

theorem parseDnsResponse_of_asksOnce (hasks : AsksOnce m) (hanswers : m.answers ≠ []) :
    parseDnsResponse m.encode =
      parseAnswers ((m.message.header ++ m.message.question) ++
        (m.answers.flatMap ResourceRecord.encode ++ m.message.rest)) m.answers.length
          (m.message.header ++ m.message.question).length := by
  obtain ⟨q, hq, hpointer⟩ := hasks
  have hquestion : m.message.question = lengthPrefixed (q.name.labels.map Label.bytes) ++
      0 :: (toBe 2 q.qtype.toNat ++ toBe 2 q.qclass.toNat) := by
    change m.questions.flatMap Question.encode = _
    rw [hq, List.flatMap_singleton, Question.encode, Name.encode, hpointer]
    simp only [List.append_assoc, List.cons_append, List.nil_append]
  have htail : (toBe 2 q.qtype.toNat ++ toBe 2 q.qclass.toNat).length = 4 := by
    rw [List.length_append, toBe_length, toBe_length]
  have hcount : m.message.ancount.toNat ≠ 0 := by
    rw [m.ancount_toNat]
    exact mt List.length_eq_zero_iff.mp hanswers
  have hparse := parseDnsResponse_eq (labels_encodable q.name) htail hquestion (lowBits_encode m)
    hcount
  rw [m.ancount_toNat, Message.encode, List.append_assoc] at hparse
  rw [Response.encode, Message.encode, List.append_assoc]
  exact hparse

theorem parseDnsResponse_of_no_answers (h : m.answers = []) :
    parseDnsResponse m.encode = .error .noAnswers := by
  have hcount : u16At m.encode 6 = 0 := by
    rw [Response.encode, ancount_encode, m.ancount_toNat, h]
    rfl
  have hlength : 12 ≤ m.encode.length := m.message.header_le_length
  rw [parseDnsResponse, if_neg (Nat.not_lt.mpr hlength)]
  dsimp only
  rw [lowBits_encode, if_neg (fun h => h rfl), hcount, if_pos rfl]

theorem readRight_of_error {e : DnsError} (h : parseDnsResponse m.encode = .error e) :
    ReadRight m ↔ firstAddress m.answers = none := by
  rw [ReadRight, h, Option.eq_none_iff_forall_ne_some]
  refine forall_congr' (fun ip => ⟨fun hiff hip => ?_, iff_of_false (by rintro ⟨⟩)⟩)
  cases hiff.mpr hip

theorem readRight_of_expected (h : Expected m) : ReadRight m := by
  by_cases hanswers : m.answers = []
  · rw [readRight_of_error (parseDnsResponse_of_no_answers hanswers), hanswers]
    rfl
  · obtain ⟨hasks, hplain⟩ := h.resolve_left hanswers
    intro ip
    rw [parseDnsResponse_of_asksOnce hasks hanswers,
      parseAnswers_firstAddress m.addresses hplain]
    cases firstAddress m.answers with
    | none => exact iff_of_false (by rintro ⟨⟩) (by rintro ⟨⟩)
    | some ip' => rw [Option.elim_some, Except.ok.injEq, Option.some_inj]

end Responses

/-- A response that the parser expects is read right; of the short ones with one question so are
these and those without an address alone. -/
theorem readRight_of_expected_and_short (m : Response) :
    (Expected m → ReadRight m) ∧
      (AsksOnce m → Short m → (ReadRight m ↔ Expected m ∨ firstAddress m.answers = none)) := by
  refine ⟨readRight_of_expected, fun hasks hshort => ?_⟩
  by_cases h : Expected m
  · exact iff_of_true (readRight_of_expected h) (.inl h)
  · obtain ⟨hanswers, hboth⟩ := not_or.mp h
    have hplain : ¬ PlainToAddress m.answers := fun hplain => hboth ⟨hasks, hplain⟩
    rw [or_iff_right h]
    apply readRight_of_error
    rw [parseDnsResponse_of_asksOnce hasks hanswers]
    exact parseAnswers_mixed hplain hshort

def exampleLabel (c : Char) : Label :=
  ⟨[UInt8.ofNat c.toNat], Nat.one_pos, show 1 < 64 by decide⟩

theorem marked_least : (0xC0 : UInt8) ≤ 0xC0 := by decide

/-- A pointer to one of the first 256 bytes. -/
def examplePointer (low : UInt8) : Pointer := ⟨0xC0, low, marked_least⟩

/-- The question for the addresses of `a.b`. -/
def exampleQuestion : Question := ⟨⟨[exampleLabel 'a', exampleLabel 'b'], none⟩, 1, 1⟩

/-- The name `a.b` is another one for `c.b`, whose name is a label and a pointer to that of `b` in
the question. -/
def exampleAlias : ResourceRecord :=
  ⟨⟨[], some (examplePointer 0x0C)⟩, 5, 1, 60, [0x01, 0x63, 0xC0, 0x0E], by decide⟩

def exampleAddress (name : Name) : ResourceRecord := ⟨name, 1, 1, 60, [10, 0, 0, 1], by decide⟩

def exampleResponse (name : Name) : Response where
  id := 1
  flags := 0x8180
  questions := [exampleQuestion]
  answers := [exampleAlias, exampleAddress name]
  authority := []
  additional := []
  isResponse := by decide
  noError := by decide
  questionCount := by decide
  answerCount := show 2 < 2 ^ 16 by decide
  authorityCount := by decide
  additionalCount := by decide
  addresses := by
    intro r hr hA
    simp only [List.mem_cons, List.not_mem_nil, or_false] at hr
    rcases hr with rfl | rfl
    · exact absurd hA (by decide)
    · rfl

theorem example_read_right :
    ReadRight (exampleResponse ⟨[exampleLabel 'c', exampleLabel 'b'], none⟩) :=
  (readRight_of_expected_and_short _).1
    (.inr ⟨⟨exampleQuestion, rfl, rfl⟩, .inl rfl, .inr ⟨.inr rfl, .inl ⟨rfl, rfl⟩⟩⟩)

/-- The address of a name that goes over from a label to a pointer is not found. -/
theorem compressed_name_not_read :
    ¬ ReadRight (exampleResponse ⟨[exampleLabel 'c'], some (examplePointer 0x0E)⟩) := by
  intro h
  have hread := (h 0x0A000001).mpr (by decide +kernel)
  have hparse : parseDnsResponse (exampleResponse
      ⟨[exampleLabel 'c'], some (examplePointer 0x0E)⟩).encode = .error .noARecord := by
    decide +kernel
  rw [hparse] at hread
  cases hread

end P2PMesh.Dns
