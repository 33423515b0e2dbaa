import P2PMesh.Base.Utf8

namespace P2PMesh.Base
set_option autoImplicit true

/-- The bytes begin the encoding of some character. -/
def Begins (l : Bytes) : Prop := ∃ c, l <+: String.utf8EncodeChar c

/-- A malformed sequence before other bytes, as long as it gets: one byte, or the beginning of a
character, that is no character and that the next byte does not go on with. -/
structure Malformed (l rest : Bytes) : Prop where
  ne_nil : l ≠ []
  begun : l.length = 1 ∨ Begins l
  incomplete : ∀ c, l ≠ String.utf8EncodeChar c
  stops : ∀ b, rest.head? = some b → ¬ Begins (l ++ [b])

/-- A sequence that U+FFFD is read from. -/
def Unreadable (l rest : Bytes) : Prop :=
  l = String.utf8EncodeChar replacementChar ∨ Malformed l rest

/-- The same characters one after the other, but for unreadable sequences in the same places and
zero bytes at the end. -/
inductive Alike : Bytes → Bytes → Prop
  | zeros (n m : Nat) : Alike (List.replicate n 0) (List.replicate m 0)
  | char (c : Char) (h : Alike l l') :
      Alike (String.utf8EncodeChar c ++ l) (String.utf8EncodeChar c ++ l')
  | unreadable (hu : Unreadable u l) (hu' : Unreadable u' l') (h : Alike l l') :
      Alike (u ++ l) (u' ++ l')

section Decoder
variable {b : UInt8} {l rest : Bytes} {p : Pending}

theorem startByte_cases (b : UInt8) :
    (b < 0x80 ∧ startByte b = ([Char.ofNat b.toNat], none)) ∨
      (∃ p, startByte b = ([], some p)) ∨ startByte b = ([replacementChar], none) := by
  by_cases hascii : b < 0x80
  · exact .inl ⟨hascii, startByte_ascii hascii⟩
  · refine .inr ?_
    rw [startByte, if_neg hascii]
    split
    next => exact .inl ⟨_, rfl⟩
    next =>
      split
      next => exact .inl ⟨_, rfl⟩
      next =>
        split
        next => exact .inl ⟨_, rfl⟩
        next => exact .inr rfl

theorem lossyChars_stop (hb : ¬ (p.low ≤ b ∧ b ≤ p.high)) :
    lossyChars (some p) (b :: rest) = replacementChar :: lossyChars none (b :: rest) := by
  have hnext : nextByte (some p) b = (replacementChar :: (startByte b).1, (startByte b).2) :=
    if_neg hb
  rw [lossyChars, hnext]
  rfl

theorem lossyChars_some_ne_nil (p : Pending) (rest : Bytes) : lossyChars (some p) rest ≠ [] := by
  induction rest generalizing p with
  | nil => exact List.cons_ne_nil _ _
  | cons b rest ih =>
    by_cases hb : p.low ≤ b ∧ b ≤ p.high
    · rw [lossyChars, nextByte, if_pos hb]
      dsimp only
      split
      next => exact List.cons_ne_nil _ _
      next => exact ih _
    · rw [lossyChars_stop hb]
      exact List.cons_ne_nil _ _

theorem lossyChars_ne_nil (hl : l ≠ []) : lossyChars none l ≠ [] := by
  obtain ⟨b, rest, rfl⟩ := List.exists_cons_of_ne_nil hl
  rcases startByte_cases b with ⟨-, hs⟩ | ⟨p, hs⟩ | hs
  · rw [lossyChars_start hs]
    exact List.cons_ne_nil _ _
  · rw [lossyChars_start hs, List.nil_append]
    exact lossyChars_some_ne_nil p rest
  · rw [lossyChars_start hs]
    exact List.cons_ne_nil _ _

theorem lossyChars_char (c : Char) : lossyChars none (String.utf8EncodeChar c) = [c] := by
  have h := lossyChars_encodeChar c []
  rwa [List.append_nil] at h

theorem eq_nil_of_encodeChar {c c' : Char} {s : Bytes}
    (h : String.utf8EncodeChar c = String.utf8EncodeChar c' ++ s) : s = [] := by
  have hread := congrArg (lossyChars none) h
  rw [lossyChars_char, lossyChars_encodeChar] at hread
  by_contra hs
  exact lossyChars_ne_nil hs (List.cons.inj hread).2.symm

theorem Begins.of_append {s : Bytes} (h : Begins (l ++ s)) : Begins l := by
  obtain ⟨c, hc⟩ := h
  exact ⟨c, (List.prefix_append l s).trans hc⟩

theorem not_begins_of_start (hs : startByte b = ([replacementChar], none)) : ¬ Begins [b] := by
  rintro ⟨c, s, hc⟩
  have hread := lossyChars_char c
  rw [← hc, List.singleton_append, lossyChars_start hs, List.singleton_append] at hread
  obtain ⟨rfl, hnil⟩ := List.cons.inj hread
  have hs : s = [] := by
    by_contra hne
    exact lossyChars_ne_nil hne hnil
  have hlength := congrArg List.length hc
  rw [hs] at hlength
  cases hlength

end Decoder

/-- The last bytes of a character's encoding. -/
def tailBytes (v : Nat) : Nat → Bytes
  | 0 => []
  | k + 1 => UInt8.ofNat (v / 64 ^ k % 64 + 0x80) :: tailBytes v k

/-- What has been read of a character: it is left pending, and each value that begins with what it
is worth so far is encoded with it. -/
structure Reads (l : Bytes) (p : Pending) : Prop where
  reads : ∀ rest, lossyChars none (l ++ rest) = lossyChars (some p) rest
  owed_pos : 0 < p.owed
  le_low : 0x80 ≤ p.low.toNat
  low_le : p.low.toNat ≤ p.high.toNat
  high_le : p.high.toNat ≤ 0xBF
  completes : ∀ v, v / 64 ^ p.owed = p.value →
    p.low.toNat ≤ v / 64 ^ (p.owed - 1) % 64 + 0x80 →
    v / 64 ^ (p.owed - 1) % 64 + 0x80 ≤ p.high.toNat →
      String.utf8EncodeChar (Char.ofNat v) = l ++ tailBytes v p.owed

section Encoding
variable {b : UInt8} {v : Nat} {p : Pending}

theorem toNat_ofNat_char (hv : v < 0xD800 ∨ 0xDFFF < v ∧ v < 0x110000) :
    (Char.ofNat v).val.toNat = v := by
  have hvalid : v.isValidChar := hv
  rw [Char.ofNat, dif_pos hvalid]
  rfl

theorem encodeChar_two (h : 0x7f < v) (h' : v ≤ 0x7ff) : String.utf8EncodeChar (Char.ofNat v) =
    [UInt8.ofNat (v / 64 % 0x20 + 0xC0), UInt8.ofNat (v % 0x40 + 0x80)] := by
  have hv := toNat_ofNat_char (v := v) (by omega)
  unfold String.utf8EncodeChar
  dsimp only
  rw [hv, if_neg (by omega), if_pos h']

theorem encodeChar_three (h : 0x7ff < v) (h' : v ≤ 0xffff) (hv : v < 0xD800 ∨ 0xDFFF < v) :
    String.utf8EncodeChar (Char.ofNat v) = [UInt8.ofNat (v / 4096 % 0x10 + 0xE0),
      UInt8.ofNat (v / 64 % 0x40 + 0x80), UInt8.ofNat (v % 0x40 + 0x80)] := by
  have hv := toNat_ofNat_char (v := v) (by omega)
  unfold String.utf8EncodeChar
  dsimp only
  rw [hv, if_neg (by omega), if_neg (by omega), if_pos h']

theorem encodeChar_four (h : 0xffff < v) (h' : v < 0x110000) :
    String.utf8EncodeChar (Char.ofNat v) = [UInt8.ofNat (v / 262144 % 0x08 + 0xF0),
      UInt8.ofNat (v / 4096 % 0x40 + 0x80), UInt8.ofNat (v / 64 % 0x40 + 0x80),
        UInt8.ofNat (v % 0x40 + 0x80)] := by
  have hv := toNat_ofNat_char (v := v) (by omega)
  unfold String.utf8EncodeChar
  dsimp only
  rw [hv, if_neg (by omega), if_neg (by omega), if_neg (by omega)]

theorem ofNat_of_toNat {n : Nat} (h : n = b.toNat) : UInt8.ofNat n = b := by
  rw [h, UInt8.ofNat_toNat]

theorem Reads.two (h : 0xC2 ≤ b ∧ b ≤ 0xDF) : Reads [b] ⟨1, 0x80, 0xBF, b.toNat - 0xC0⟩ where
  reads rest := by
    rw [List.singleton_append, lossyChars_start (startByte_two h), List.nil_append]
  owed_pos := Nat.one_pos
  le_low := Nat.le_refl _
  low_le := (by decide : 0x80 ≤ 0xBF)
  high_le := Nat.le_refl _
  completes := by
    intro v hv hlow hhigh
    obtain ⟨h₁, h₂⟩ := h
    rw [UInt8.le_iff_toNat_le] at h₁ h₂
    have h₃ : (0xC2 : UInt8).toNat = 0xC2 := rfl
    have h₄ : (0xDF : UInt8).toNat = 0xDF := rfl
    dsimp only at hv
    rw [encodeChar_two (by omega) (by omega), ofNat_of_toNat (b := b) (by omega), tailBytes,
      tailBytes, Nat.pow_zero, Nat.div_one]
    rfl

theorem second_bounds {e d low high : UInt8} (hne : e ≠ d)
    (hlow : 0x80 ≤ low.toNat ∧ low.toNat ≤ 0xBF) (hhigh : 0x80 ≤ high.toNat ∧ high.toNat ≤ 0xBF) :
    0x80 ≤ (if b = e then low else 0x80).toNat ∧
      (if b = e then low else 0x80).toNat ≤ (if b = d then high else 0xBF).toNat ∧
        (if b = d then high else 0xBF).toNat ≤ 0xBF := by
  have h₁ : (0x80 : UInt8).toNat = 0x80 := rfl
  have h₂ : (0xBF : UInt8).toNat = 0xBF := rfl
  by_cases he : b = e
  · have hd : b ≠ d := he ▸ hne
    rw [if_pos he, if_neg hd]
    omega
  · rw [if_neg he]
    split
    next => omega
    next => omega

theorem Reads.three (h : 0xE0 ≤ b ∧ b ≤ 0xEF) :
    Reads [b] ⟨2, if b = 0xE0 then 0xA0 else 0x80, if b = 0xED then 0x9F else 0xBF,
      b.toNat - 0xE0⟩ := by
  have hbounds := @second_bounds b 0xE0 0xED 0xA0 0x9F (by decide) (by decide) (by decide)
  refine ⟨?_, Nat.two_pos, hbounds.1, hbounds.2.1, hbounds.2.2, ?_⟩
  · intro rest
    rw [List.singleton_append, lossyChars_start (startByte_three h), List.nil_append]
  · intro v hv hlow hhigh
    obtain ⟨h₁, h₂⟩ := h
    rw [UInt8.le_iff_toNat_le] at h₁ h₂
    have h₃ : (0xE0 : UInt8).toNat = 0xE0 := rfl
    have h₄ : (0xEF : UInt8).toNat = 0xEF := rfl
    dsimp only at hv hlow hhigh
    have hlow' : b.toNat = 0xE0 → 0xA0 ≤ v / 64 % 64 + 0x80 := by
      intro hb
      rwa [if_pos (UInt8.toNat_inj.mp hb)] at hlow
    have hhigh' : b.toNat = 0xED → v / 64 % 64 + 0x80 ≤ 0x9F := by
      intro hb
      rwa [if_pos (UInt8.toNat_inj.mp hb)] at hhigh
    rw [encodeChar_three (by omega) (by omega) (by omega), ofNat_of_toNat (b := b) (by omega),
      tailBytes, tailBytes, tailBytes, Nat.pow_one, Nat.pow_zero, Nat.div_one]
    rfl

theorem Reads.four (h : 0xF0 ≤ b ∧ b ≤ 0xF4) :
    Reads [b] ⟨3, if b = 0xF0 then 0x90 else 0x80, if b = 0xF4 then 0x8F else 0xBF,
      b.toNat - 0xF0⟩ := by
  have hbounds := @second_bounds b 0xF0 0xF4 0x90 0x8F (by decide) (by decide) (by decide)
  refine ⟨?_, Nat.succ_pos 2, hbounds.1, hbounds.2.1, hbounds.2.2, ?_⟩
  · intro rest
    rw [List.singleton_append, lossyChars_start (startByte_four h), List.nil_append]
  · intro v hv hlow hhigh
    obtain ⟨h₁, h₂⟩ := h
    rw [UInt8.le_iff_toNat_le] at h₁ h₂
    have h₃ : (0xF0 : UInt8).toNat = 0xF0 := rfl
    have h₄ : (0xF4 : UInt8).toNat = 0xF4 := rfl
    dsimp only at hv hlow hhigh
    have hlow' : b.toNat = 0xF0 → 0x90 ≤ v / 4096 % 64 + 0x80 := by
      intro hb
      rwa [if_pos (UInt8.toNat_inj.mp hb)] at hlow
    have hhigh' : b.toNat = 0xF4 → v / 4096 % 64 + 0x80 ≤ 0x8F := by
      intro hb
      rwa [if_pos (UInt8.toNat_inj.mp hb)] at hhigh
    rw [encodeChar_four (by omega) (by omega), ofNat_of_toNat (b := b) (by omega),
      tailBytes, tailBytes, tailBytes, tailBytes, Nat.pow_one, Nat.pow_zero, Nat.div_one]
    rfl

theorem Reads.start (hs : startByte b = ([], some p)) : Reads [b] p := by
  rw [startByte] at hs
  split at hs
  next => cases hs
  next =>
    split at hs
    next h =>
      cases hs
      exact .two h
    next =>
      split at hs
      next h =>
        cases hs
        exact .three h
      next =>
        split at hs
        next h =>
          cases hs
          exact .four h
        next => cases hs

end Encoding

section Reading
variable {b : UInt8} {l rest : Bytes} {p : Pending}

theorem Reads.next (h : Reads l p) (hb : p.low ≤ b ∧ b ≤ p.high) (howed : 1 < p.owed) :
    Reads (l ++ [b]) ⟨p.owed - 1, 0x80, 0xBF, p.value * 64 + (b.toNat - 0x80)⟩ := by
  obtain ⟨owed, low, high, value⟩ := p
  obtain ⟨k, rfl⟩ : ∃ k, owed = k + 2 := ⟨owed - 2, by
    dsimp only at howed
    omega⟩
  refine ⟨?_, Nat.succ_pos k, Nat.le_refl _, (by decide : 0x80 ≤ 0xBF), Nat.le_refl _, ?_⟩
  · intro rest
    rw [List.append_assoc, h.reads, List.singleton_append, lossyChars_more hb]
    rfl
  · intro v hv hlow hhigh
    have hlow₀ := h.le_low
    have hhigh₀ := h.high_le
    rw [UInt8.le_iff_toNat_le, UInt8.le_iff_toNat_le] at hb
    dsimp only at hv hlow hhigh hb hlow₀ hhigh₀
    rw [Nat.add_succ_sub_one] at hv
    have hdiv : v / 64 ^ (k + 2) = v / 64 ^ (k + 1) / 64 := by
      rw [Nat.div_div_eq_div_mul, ← Nat.pow_succ]
    have hcompletes := h.completes v
    dsimp only at hcompletes
    rw [hdiv, Nat.add_succ_sub_one, hv] at hcompletes
    have hbyte : (value * 64 + (b.toNat - 0x80)) % 64 + 0x80 = b.toNat := by omega
    rw [hcompletes (by omega) (by omega) (by omega), List.append_assoc, tailBytes, hv,
      ofNat_of_toNat hbyte]
    rfl

theorem Reads.last (h : Reads l p) (hb : p.low ≤ b ∧ b ≤ p.high) (howed : p.owed ≤ 1) :
    l ++ [b] = String.utf8EncodeChar (Char.ofNat (p.value * 64 + (b.toNat - 0x80))) := by
  have hone : p.owed = 1 := Nat.le_antisymm howed h.owed_pos
  have hlow := h.le_low
  have hhigh := h.high_le
  rw [UInt8.le_iff_toNat_le, UInt8.le_iff_toNat_le] at hb
  have hbyte : (p.value * 64 + (b.toNat - 0x80)) % 64 + 0x80 = b.toNat := by omega
  have hcompletes := h.completes (p.value * 64 + (b.toNat - 0x80))
  rw [hone, Nat.pow_one, Nat.sub_self, Nat.pow_zero, Nat.div_one, hbyte] at hcompletes
  rw [hcompletes (by omega) hb.1 hb.2, tailBytes, tailBytes, Nat.pow_zero, Nat.div_one,
    ofNat_of_toNat hbyte]

theorem Reads.encodeChar (h : Reads l p) :
    ∃ c s, s ≠ [] ∧ String.utf8EncodeChar c = l ++ s := by
  obtain ⟨k, hk⟩ := Nat.exists_eq_add_of_lt h.owed_pos
  rw [Nat.zero_add] at hk
  have hlow := h.le_low
  have hle := h.low_le
  have hhigh := h.high_le
  let v := (p.value * 64 + (p.low.toNat - 0x80)) * 64 ^ k
  have hpos : 0 < 64 ^ k := Nat.pow_pos (by decide)
  have hv : v / 64 ^ k = p.value * 64 + (p.low.toNat - 0x80) := Nat.mul_div_cancel _ hpos
  have hdiv : v / 64 ^ p.owed = v / 64 ^ k / 64 := by
    rw [hk, Nat.div_div_eq_div_mul, ← Nat.pow_succ]
  have hcompletes := h.completes v
  rw [hdiv, hv, hk, Nat.add_sub_cancel, hv] at hcompletes
  refine ⟨_, _, ?_, hcompletes (by omega) (by omega) (by omega)⟩
  exact List.cons_ne_nil _ _

theorem Reads.incomplete (h : Reads l p) (c : Char) : l ≠ String.utf8EncodeChar c := by
  rintro rfl
  obtain ⟨c', s, hs, hc⟩ := h.encodeChar
  exact hs (eq_nil_of_encodeChar hc)

theorem Reads.begins (h : Reads l p) : Begins l := by
  obtain ⟨c, s, -, hc⟩ := h.encodeChar
  exact ⟨c, s, hc.symm⟩

theorem Reads.begins_iff (h : Reads l p) : Begins (l ++ [b]) ↔ p.low ≤ b ∧ b ≤ p.high := by
  constructor
  · rintro ⟨c, s, hc⟩
    by_contra hb
    have hread := lossyChars_char c
    rw [← hc, List.append_assoc, h.reads, List.singleton_append, lossyChars_stop hb] at hread
    exact lossyChars_ne_nil (List.cons_ne_nil b s) (List.cons.inj hread).2
  · intro hb
    by_cases howed : p.owed ≤ 1
    · exact ⟨_, [], (List.append_nil _).trans (h.last hb howed)⟩
    · exact (h.next hb (Nat.lt_of_not_le howed)).begins

theorem ascii_eq (hb : b < 0x80) : [b] = String.utf8EncodeChar (Char.ofNat b.toNat) := by
  have hlt : b.toNat < 0x80 := UInt8.lt_iff_toNat_lt.mp hb
  have hv := toNat_ofNat_char (v := b.toNat) (by omega)
  unfold String.utf8EncodeChar
  dsimp only
  rw [hv, if_pos (by omega), UInt8.ofNat_toNat]

theorem Begins.reads (h : Begins l) (hl : l ≠ []) (hc : ∀ c, l ≠ String.utf8EncodeChar c) :
    ∃ p, Reads l p := by
  induction l using List.reverseRecOn with
  | nil => exact (hl rfl).elim
  | append_singleton l b ih =>
    by_cases hnil : l = []
    · rw [hnil, List.nil_append] at h hc ⊢
      rcases startByte_cases b with ⟨hascii, -⟩ | ⟨p, hs⟩ | hs
      · exact (hc _ (ascii_eq hascii)).elim
      · exact ⟨p, .start hs⟩
      · exact (not_begins_of_start hs h).elim
    · have hincomplete : ∀ c, l ≠ String.utf8EncodeChar c := by
        rintro c rfl
        obtain ⟨c', s, hs⟩ := h
        rw [List.append_assoc] at hs
        exact List.cons_ne_nil b s (eq_nil_of_encodeChar hs.symm)
      obtain ⟨p, hp⟩ := ih h.of_append hnil hincomplete
      have hb := hp.begins_iff.mp h
      by_cases howed : p.owed ≤ 1
      · exact (hc _ (hp.last hb howed)).elim
      · exact ⟨_, hp.next hb (Nat.lt_of_not_le howed)⟩

theorem Reads.malformed (h : Reads l p)
    (hstops : ∀ b, rest.head? = some b → ¬ (p.low ≤ b ∧ b ≤ p.high)) (hl : l ≠ []) :
    Malformed l rest where
  ne_nil := hl
  begun := .inr h.begins
  incomplete := h.incomplete
  stops b hb hbegins := hstops b hb (h.begins_iff.mp hbegins)

theorem malformed_of_start (hs : startByte b = ([replacementChar], none)) :
    Malformed [b] rest where
  ne_nil := List.cons_ne_nil b []
  begun := .inl rfl
  incomplete c hc := not_begins_of_start hs ⟨c, [], (List.append_nil _).trans hc⟩
  stops _ _ hbegins := not_begins_of_start hs hbegins.of_append

theorem Malformed.fromUtf8Lossy_append (h : Malformed l rest) :
    fromUtf8Lossy (l ++ rest) = replacementChar :: fromUtf8Lossy rest := by
  have hbegun : Begins l → fromUtf8Lossy (l ++ rest) = replacementChar :: fromUtf8Lossy rest := by
    intro hbegins
    obtain ⟨p, hp⟩ := hbegins.reads h.ne_nil h.incomplete
    rw [fromUtf8Lossy, hp.reads]
    cases rest with
    | nil => rfl
    | cons b rest =>
      have hstop : ¬ (p.low ≤ b ∧ b ≤ p.high) := by
        rw [← hp.begins_iff]
        exact h.stops b rfl
      exact lossyChars_stop hstop
  rcases h.begun with hone | hbegins
  · obtain ⟨b, rfl⟩ := List.length_eq_one_iff.mp hone
    rcases startByte_cases b with ⟨hascii, -⟩ | ⟨p, hs⟩ | hs
    · exact (h.incomplete _ (ascii_eq hascii)).elim
    · exact hbegun (Reads.start hs).begins
    · exact lossyChars_start hs
  · exact hbegun hbegins

theorem Unreadable.fromUtf8Lossy_append (h : Unreadable l rest) :
    fromUtf8Lossy (l ++ rest) = replacementChar :: fromUtf8Lossy rest := by
  rcases h with rfl | h
  · exact lossyChars_encodeChar replacementChar rest
  · exact h.fromUtf8Lossy_append

theorem Reads.split (h : Reads l p) (hl : l ≠ []) (rest : Bytes) :
    (∃ c rest', l ++ rest = String.utf8EncodeChar c ++ rest') ∨
      ∃ u rest', l ++ rest = u ++ rest' ∧ Malformed u rest' := by
  induction rest generalizing l p with
  | nil =>
    refine .inr ⟨l, [], rfl, h.malformed ?_ hl⟩
    intro b hb
    cases hb
  | cons b rest ih =>
    have happend : l ++ b :: rest = l ++ [b] ++ rest := List.append_cons l b rest
    by_cases hb : p.low ≤ b ∧ b ≤ p.high
    · rw [happend]
      by_cases howed : p.owed ≤ 1
      · exact .inl ⟨_, rest, congrArg (· ++ rest) (h.last hb howed)⟩
      · exact ih (h.next hb (Nat.lt_of_not_le howed)) (List.append_ne_nil_of_right_ne_nil l
          (List.cons_ne_nil b []))
    · refine .inr ⟨l, b :: rest, rfl, h.malformed ?_ hl⟩
      intro b' hb'
      cases hb'
      exact hb

theorem exists_split (hl : l ≠ []) : (∃ c rest, l = String.utf8EncodeChar c ++ rest) ∨
    ∃ u rest, l = u ++ rest ∧ Malformed u rest := by
  obtain ⟨b, rest, rfl⟩ := List.exists_cons_of_ne_nil hl
  rcases startByte_cases b with ⟨hascii, -⟩ | ⟨p, hs⟩ | hs
  · exact .inl ⟨_, rest, congrArg (· ++ rest) (ascii_eq hascii)⟩
  · exact (Reads.start hs).split (List.cons_ne_nil b []) rest
  · exact .inr ⟨[b], rest, rfl, malformed_of_start hs⟩

/-- Bytes are none, or they begin with what one character is read from. -/
theorem exists_front (hl : l ≠ []) : ∃ c u rest, l = u ++ rest ∧ u ≠ [] ∧
    fromUtf8Lossy l = c :: fromUtf8Lossy rest ∧
      (u = String.utf8EncodeChar c ∨ c = replacementChar ∧ Malformed u rest) := by
  rcases exists_split hl with ⟨c, rest, rfl⟩ | ⟨u, rest, rfl, hu⟩
  · refine ⟨c, _, rest, rfl, ?_, lossyChars_encodeChar c rest, .inl rfl⟩
    intro hnil
    have hlength := c.utf8Size_pos
    rw [← String.length_utf8EncodeChar, hnil] at hlength
    cases hlength
  · exact ⟨replacementChar, u, rest, rfl, hu.ne_nil, hu.fromUtf8Lossy_append, .inr ⟨rfl, hu⟩⟩

end Reading

theorem encodeChar_nul : String.utf8EncodeChar '\x00' = [0] := rfl

theorem front_induction {P : Bytes → Prop} (nil : P [])
    (front : ∀ c u rest, fromUtf8Lossy (u ++ rest) = c :: fromUtf8Lossy rest →
      (u = String.utf8EncodeChar c ∨ c = replacementChar ∧ Malformed u rest) →
        P rest → P (u ++ rest)) (l : Bytes) : P l := by
  induction hn : l.length using Nat.strong_induction_on generalizing l with
  | h n ih =>
    by_cases hl : l = []
    · rw [hl]
      exact nil
    · obtain ⟨c, u, rest, rfl, hne, hread, hu⟩ := exists_front hl
      have hpos := List.length_pos_of_ne_nil hne
      rw [List.length_append] at hn
      exact front c u rest hread hu (ih _ (by omega) rest rfl)

theorem eq_zeros {l : Bytes} (h : ∀ c ∈ fromUtf8Lossy l, c = '\x00') :
    l = List.replicate l.length 0 := by
  induction l using front_induction with
  | nil => rfl
  | front c u rest hread hu ih =>
    rw [hread] at h
    obtain rfl := h c List.mem_cons_self
    have hrest := ih (fun c hc => h c (List.mem_cons_of_mem _ hc))
    rcases hu with rfl | ⟨hc, -⟩
    · rw [hrest, encodeChar_nul]
      exact congrArg (0 :: ·) (congrArg (List.replicate · 0) List.length_replicate.symm)
    · cases hc

theorem rdropWhile_cons {p : α → Bool} (a : α) (l : List α) : (a :: l).rdropWhile p =
    if l.rdropWhile p = [] ∧ p a then [] else a :: l.rdropWhile p := by
  induction l using List.reverseRecOn with
  | nil =>
    rw [List.rdropWhile_singleton, List.rdropWhile_nil]
    simp only [true_and]
  | append_singleton l b ih =>
    rw [← List.cons_append]
    by_cases hb : p b
    · rw [List.rdropWhile_concat_pos _ _ _ hb, List.rdropWhile_concat_pos _ _ _ hb, ih]
    · rw [List.rdropWhile_concat_neg _ _ _ hb, List.rdropWhile_concat_neg _ _ _ hb, if_neg]
      · rfl
      · rintro ⟨hnil, -⟩
        exact List.append_ne_nil_of_right_ne_nil l (List.cons_ne_nil b []) hnil

theorem rdropWhile_zeros (n : Nat) :
    (fromUtf8Lossy (List.replicate n 0)).rdropWhile (· = '\x00') = [] := by
  rw [← utf8_nuls, fromUtf8Lossy_utf8, List.rdropWhile_eq_nil_iff]
  intro c hc
  exact decide_eq_true (List.eq_of_mem_replicate hc)

theorem rdropWhile_cons_of_ne_nil {p : α → Bool} (h : (a :: l).rdropWhile p ≠ []) :
    (a :: l).rdropWhile p = a :: l.rdropWhile p := by
  rw [rdropWhile_cons] at h ⊢
  exact if_neg (fun hall => h (if_pos hall))

theorem eq_zeros_of_rdropWhile {l : Bytes}
    (h : (fromUtf8Lossy l).rdropWhile (· = '\x00') = []) : l = List.replicate l.length 0 := by
  rw [List.rdropWhile_eq_nil_iff] at h
  exact eq_zeros (fun c hc => of_decide_eq_true (h c hc))

theorem Alike.of_read {l l' : Bytes} (h : (fromUtf8Lossy l).rdropWhile (· = '\x00') =
    (fromUtf8Lossy l').rdropWhile (· = '\x00')) : Alike l l' := by
  induction l using front_induction generalizing l' with
  | nil =>
    rw [eq_zeros_of_rdropWhile h.symm]
    exact .zeros 0 _
  | front c u rest hread hu ih =>
    by_cases hnil : (fromUtf8Lossy (u ++ rest)).rdropWhile (· = '\x00') = []
    · rw [eq_zeros_of_rdropWhile hnil, eq_zeros_of_rdropWhile (h.symm.trans hnil)]
      exact .zeros _ _
    · have hl' : l' ≠ [] := by
        rintro rfl
        exact hnil h
      obtain ⟨c', u', rest', rfl, -, hread', hu'⟩ := exists_front hl'
      rw [hread] at h hnil
      rw [hread'] at h
      have hnil' := h ▸ hnil
      rw [rdropWhile_cons_of_ne_nil hnil, rdropWhile_cons_of_ne_nil hnil'] at h
      obtain ⟨rfl, hrest⟩ := List.cons.inj h
      have halike := ih hrest
      rcases hu with rfl | ⟨rfl, hu⟩
      · rcases hu' with rfl | ⟨rfl, hu'⟩
        · exact halike.char c
        · exact halike.unreadable (.inl rfl) (.inr hu')
      · rcases hu' with rfl | ⟨-, hu'⟩
        · exact halike.unreadable (.inr hu) (.inl rfl)
        · exact halike.unreadable (.inr hu) (.inr hu')

/-- Alike are the bytes that are read as the same characters but for NULs at the end. -/
theorem alike_iff {l l' : Bytes} : Alike l l' ↔ (fromUtf8Lossy l).rdropWhile (· = '\x00') =
    (fromUtf8Lossy l').rdropWhile (· = '\x00') := by
  refine ⟨?_, .of_read⟩
  intro h
  induction h with
  | zeros n m => rw [rdropWhile_zeros, rdropWhile_zeros]
  | char c h ih =>
    rw [fromUtf8Lossy, fromUtf8Lossy, lossyChars_encodeChar, lossyChars_encodeChar]
    rw [fromUtf8Lossy, fromUtf8Lossy] at ih
    rw [rdropWhile_cons, rdropWhile_cons, ih]
  | unreadable hu hu' h ih =>
    rw [hu.fromUtf8Lossy_append, hu'.fromUtf8Lossy_append, rdropWhile_cons, rdropWhile_cons, ih]

end P2PMesh.Base
