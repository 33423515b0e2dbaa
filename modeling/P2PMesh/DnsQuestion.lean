import P2PMesh.DnsQuery

namespace P2PMesh.Dns
open P2PMesh.Base P2PMesh.Base.DnsWire
set_option autoImplicit true

structure HostLabel where
  chars : List Char
  plain : '.' ∉ chars
  nonempty : 0 < (utf8 chars).length
  short : (utf8 chars).length < 64

def HostLabel.label (l : HostLabel) : Label := ⟨utf8 l.chars, l.nonempty, l.short⟩

def dotted (labels : List (List Char)) : Hostname := List.intercalate ['.'] labels

/-- A name of a host, which may end with the dot of the root. -/
structure ValidHostname where
  labels : List HostLabel
  nonempty : labels ≠ []
  short : (utf8 (dotted (labels.map HostLabel.chars))).length ≤ 253
  rootDot : Bool

def ValidHostname.text (h : ValidHostname) : Hostname :=
  dotted (h.labels.map HostLabel.chars) ++ if h.rootDot then ['.'] else []

/-- The question for the addresses of a host. -/
def ValidHostname.question (h : ValidHostname) : Question :=
  ⟨⟨h.labels.map HostLabel.label, none⟩, 1, 1⟩

/-- The query asks for the addresses of the host, and of no other one. -/
structure AsksFor (h : ValidHostname) : Prop where
  decodes : decodeQuestion ((buildDnsQuery h.text).drop 12) = some (h.question, [])
  distinct : ∀ h' : ValidHostname, buildDnsQuery h.text = buildDnsQuery h'.text → h.text = h'.text

section Splitting

theorem dotted_concat_nil {labels : List (List Char)} (h : labels ≠ []) :
    dotted (labels ++ [[]]) = dotted labels ++ ['.'] := by
  induction labels with
  | nil => exact (h rfl).elim
  | cons l labels ih =>
    cases labels with
    | nil =>
      change List.intercalate ['.'] [l, []] = List.intercalate ['.'] [l] ++ ['.']
      rw [List.intercalate_cons_cons, List.intercalate_singleton, List.intercalate_singleton,
        List.append_nil]
    | cons l' labels =>
      have hrest := ih (List.cons_ne_nil l' labels)
      rw [dotted, List.cons_append, List.cons_append, List.intercalate_cons_cons,
        ← List.cons_append]
      change l ++ ['.'] ++ dotted (l' :: labels ++ [[]]) = _
      rw [hrest, dotted, dotted, List.intercalate_cons_cons, List.append_assoc _ _ ['.']]

variable (h : ValidHostname)

/-- The labels that the query is made of. -/
def ValidHostname.parts : List (List Char) :=
  h.labels.map HostLabel.chars ++ if h.rootDot then [[]] else []

theorem labels_ne_nil : h.labels.map HostLabel.chars ≠ [] := by
  rw [ne_eq, List.map_eq_nil_iff]
  exact h.nonempty

theorem text_eq_dotted : h.text = dotted h.parts := by
  rw [ValidHostname.text, ValidHostname.parts]
  cases h.rootDot with
  | false => rw [if_neg Bool.false_ne_true, if_neg Bool.false_ne_true, List.append_nil,
      List.append_nil]
  | true => rw [if_pos rfl, if_pos rfl, dotted_concat_nil (labels_ne_nil h)]

theorem splitOn_text : h.text.splitOn '.' = h.parts := by
  rw [text_eq_dotted, dotted]
  apply List.splitOn_intercalate
  · intro part hpart
    rcases List.mem_append.mp hpart with hlabel | hroot
    · obtain ⟨l, -, rfl⟩ := List.mem_map.mp hlabel
      exact l.plain
    · cases hdot : h.rootDot with
      | false =>
        rw [hdot] at hroot
        cases hroot
      | true =>
        rw [hdot] at hroot
        rw [List.mem_singleton.mp hroot]
        exact List.not_mem_nil
  · exact List.append_ne_nil_of_left_ne_nil (labels_ne_nil h) _

theorem hostLabels_text : hostLabels h.text =
    (h.labels.map HostLabel.label).map Label.bytes ++ if h.rootDot then [[]] else [] := by
  rw [hostLabels, splitOn_text, ValidHostname.parts, List.map_append, List.map_map, List.map_map]
  cases h.rootDot with
  | false => rfl
  | true => rfl

theorem hostLabels_short : ∀ l ∈ hostLabels h.text, l.length < 256 := by
  intro l hl
  rw [hostLabels_text] at hl
  rcases List.mem_append.mp hl with hlabel | hroot
  · obtain ⟨label, -, rfl⟩ := List.mem_map.mp hlabel
    exact Nat.lt_trans label.short (by decide)
  · cases hdot : h.rootDot with
    | false =>
      rw [hdot] at hroot
      cases hroot
    | true =>
      rw [hdot] at hroot
      rw [List.mem_singleton.mp hroot]
      exact Nat.zero_lt_succ 255

/-- The length bytes take the place of the dots, and one more stands in front. -/
theorem lengthPrefixed_length {labels : List (List Char)} (h : labels ≠ []) :
    (lengthPrefixed (labels.map utf8)).length = (utf8 (dotted labels)).length + 1 := by
  induction labels with
  | nil => exact (h rfl).elim
  | cons l labels ih =>
    rw [List.map_cons, lengthPrefixed_cons, List.length_cons, List.length_append]
    cases labels with
    | nil =>
      rw [dotted, List.intercalate_singleton]
      rfl
    | cons l' labels =>
      rw [ih (List.cons_ne_nil l' labels), dotted, dotted, List.intercalate_cons_cons, utf8_append,
        utf8_append, List.length_append, List.length_append]
      change _ = (utf8 l).length + 1 + _ + 1
      omega

theorem name_length : h.question.name.encode.length ≤ 255 := by
  have hlength := lengthPrefixed_length (labels_ne_nil h)
  have hshort := h.short
  rw [List.map_map] at hlength
  rw [ValidHostname.question, Name.encode, List.map_map, List.length_append, List.length_singleton]
  change (lengthPrefixed (h.labels.map (utf8 ∘ HostLabel.chars))).length + 1 ≤ 255
  omega

theorem questionBytes_drop (hostname : Hostname) :
    (buildDnsQuery hostname).drop 12 = questionBytes hostname := rfl

theorem decodeQuestion_of_not_rootDot (hdot : h.rootDot = false) :
    decodeQuestion ((buildDnsQuery h.text).drop 12) = some (h.question, []) := by
  have hbytes : (buildDnsQuery h.text).drop 12 = h.question.encode ++ [] := by
    rw [questionBytes_drop, questionBytes, hostLabels_text, hdot, if_neg Bool.false_ne_true,
      List.append_nil, List.append_nil]
    simp only [Question.encode, Name.encode, ValidHostname.question, List.append_assoc]
    rfl
  rw [hbytes]
  exact decodeQuestion_encode _ _ (name_length h)

/-- Behind the dot of the root the terminator stands twice, so the type and the class are read one
byte too early. -/
theorem decodeQuestion_of_rootDot (hdot : h.rootDot = true) :
    decodeQuestion ((buildDnsQuery h.text).drop 12) =
      some (⟨h.question.name, 0, 0x0100⟩, [0x01]) := by
  have hbytes : (buildDnsQuery h.text).drop 12 =
      (Question.mk h.question.name 0 0x0100).encode ++ [0x01] := by
    rw [questionBytes_drop, questionBytes, hostLabels_text, hdot, if_pos rfl, lengthPrefixed,
      List.flatMap_append]
    simp only [Question.encode, Name.encode, ValidHostname.question, List.append_assoc]
    rfl
  rw [hbytes]
  exact decodeQuestion_encode _ _ (name_length h)

theorem buildDnsQuery_injective {h h' : ValidHostname}
    (heq : buildDnsQuery h.text = buildDnsQuery h'.text) : h.text = h'.text := by
  have hquestion : questionBytes h.text = questionBytes h'.text := by
    rw [← questionBytes_drop, heq, questionBytes_drop]
  have hlabels : hostLabels h.text = hostLabels h'.text :=
    lengthPrefixed_injective (hostLabels_short h) (hostLabels_short h')
      (List.append_cancel_right hquestion)
  have hback (text : Hostname) : List.intercalate ['.'] (text.splitOn '.') = text :=
    List.intercalate_splitOn '.'
  rw [← hback h.text, ← hback h'.text]
  exact congrArg _ (List.map_injective_iff.mpr (fun _ _ => utf8_injective) hlabels)

end Splitting

/-- A query asks for its host exactly where the name does not end with the dot of the root. -/
theorem asksFor_iff (h : ValidHostname) : AsksFor h ↔ h.rootDot = false := by
  constructor
  · intro hasks
    by_contra hdot
    have hdecodes := hasks.decodes
    rw [decodeQuestion_of_rootDot h (Bool.of_not_eq_false hdot), Option.some_inj] at hdecodes
    exact List.cons_ne_nil _ _ (Prod.mk.inj hdecodes).2
  · intro hdot
    exact ⟨decodeQuestion_of_not_rootDot h hdot, fun h' => buildDnsQuery_injective⟩

def exampleHostLabel : HostLabel := ⟨['a'], by decide, by decide, by decide⟩

def exampleHostname (rootDot : Bool) : ValidHostname :=
  ⟨[exampleHostLabel, exampleHostLabel], List.cons_ne_nil _ _, by decide, rootDot⟩

/-- The query for `a.a.` ends with a byte too many. -/
theorem root_dot_misread : ¬ AsksFor (exampleHostname true) := by
  intro h
  exact absurd ((congrArg (Option.map Prod.snd) h.decodes)) (by decide +kernel)

end P2PMesh.Dns
