import Mathlib.Data.List.Basic
import Mathlib.Data.List.DropRight
import P2PMesh.Base.Bytes

namespace P2PMesh.Base
set_option autoImplicit true

/-- A character whose last `owed` bytes are still to come, the next of them between two bounds. -/
structure Pending where
  owed : Nat
  low : UInt8
  high : UInt8
  value : Nat
deriving DecidableEq

def replacementChar : Char := Char.ofNat 0xFFFD

/-- What a byte between characters gives: characters put out, and a character begun. -/
def startByte (b : UInt8) : List Char × Option Pending :=
  if b < 0x80 then ([Char.ofNat b.toNat], none)
  else if 0xC2 ≤ b ∧ b ≤ 0xDF then ([], some ⟨1, 0x80, 0xBF, b.toNat - 0xC0⟩)
  else if 0xE0 ≤ b ∧ b ≤ 0xEF then
    ([], some ⟨2, if b = 0xE0 then 0xA0 else 0x80, if b = 0xED then 0x9F else 0xBF,
      b.toNat - 0xE0⟩)
  else if 0xF0 ≤ b ∧ b ≤ 0xF4 then
    ([], some ⟨3, if b = 0xF0 then 0x90 else 0x80, if b = 0xF4 then 0x8F else 0xBF,
      b.toNat - 0xF0⟩)
  else ([replacementChar], none)

/-- A byte that cannot go on with the character begun puts out one replacement character for
its bytes so far and starts over. -/
def nextByte : Option Pending → UInt8 → List Char × Option Pending
  | none, b => startByte b
  | some p, b =>
    if p.low ≤ b ∧ b ≤ p.high then
      let value := p.value * 64 + (b.toNat - 0x80)
      if p.owed ≤ 1 then ([Char.ofNat value], none)
      else ([], some ⟨p.owed - 1, 0x80, 0xBF, value⟩)
    else (replacementChar :: (startByte b).1, (startByte b).2)

def lossyChars : Option Pending → Bytes → List Char
  | none, [] => []
  | some _, [] => [replacementChar]
  | s, b :: rest => (nextByte s b).1 ++ lossyChars (nextByte s b).2 rest

/-- The characters of a byte string, with each maximal invalid part replaced. -/
def fromUtf8Lossy (data : Bytes) : List Char := lossyChars none data

def utf8 (text : List Char) : Bytes := text.flatMap String.utf8EncodeChar

theorem lossyChars_start (h : startByte b = (out, s')) :
    lossyChars none (b :: rest) = out ++ lossyChars s' rest := by
  rw [lossyChars, nextByte, h]

theorem lossyChars_last (hb : low ≤ b ∧ b ≤ high) :
    lossyChars (some ⟨1, low, high, v⟩) (b :: rest) =
      Char.ofNat (v * 64 + (b.toNat - 0x80)) :: lossyChars none rest := by
  simp only [lossyChars, nextByte, hb, and_self, ↓reduceIte, le_refl, List.singleton_append]

theorem lossyChars_more (hb : low ≤ b ∧ b ≤ high) :
    lossyChars (some ⟨n + 2, low, high, v⟩) (b :: rest) =
      lossyChars (some ⟨n + 1, 0x80, 0xBF, v * 64 + (b.toNat - 0x80)⟩) rest := by
  have hn : ¬ n + 2 ≤ 1 := by omega
  simp only [lossyChars, nextByte, hb, and_self, ↓reduceIte, hn, List.nil_append]
  rfl

theorem startByte_ascii (h : b < 0x80) : startByte b = ([Char.ofNat b.toNat], none) := if_pos h

theorem startByte_two (h : 0xC2 ≤ b ∧ b ≤ 0xDF) :
    startByte b = ([], some ⟨1, 0x80, 0xBF, b.toNat - 0xC0⟩) := by
  have h₁ : ¬ b < 0x80 := by grind
  rw [startByte, if_neg h₁, if_pos h]

theorem startByte_three (h : 0xE0 ≤ b ∧ b ≤ 0xEF) :
    startByte b = ([], some ⟨2, if b = 0xE0 then 0xA0 else 0x80, if b = 0xED then 0x9F else 0xBF,
      b.toNat - 0xE0⟩) := by
  have h₁ : ¬ b < 0x80 := by grind
  have h₂ : ¬ (0xC2 ≤ b ∧ b ≤ 0xDF) := by grind
  rw [startByte, if_neg h₁, if_neg h₂, if_pos h]

theorem startByte_four (h : 0xF0 ≤ b ∧ b ≤ 0xF4) :
    startByte b = ([], some ⟨3, if b = 0xF0 then 0x90 else 0x80, if b = 0xF4 then 0x8F else 0xBF,
      b.toNat - 0xF0⟩) := by
  have h₁ : ¬ b < 0x80 := by grind
  have h₂ : ¬ (0xC2 ≤ b ∧ b ≤ 0xDF) := by grind
  have h₃ : ¬ (0xE0 ≤ b ∧ b ≤ 0xEF) := by grind
  rw [startByte, if_neg h₁, if_neg h₂, if_neg h₃, if_pos h]

theorem byteOf_toNat (h : n < 256) : (UInt8.ofNat n).toNat = n := UInt8.toNat_ofNat_of_lt h

theorem byteOf_between (h : n < 256) (hl : l.toNat ≤ n) (hu : n ≤ u.toNat) :
    l ≤ UInt8.ofNat n ∧ UInt8.ofNat n ≤ u := by
  rw [UInt8.le_iff_toNat_le, UInt8.le_iff_toNat_le, byteOf_toNat h]
  exact ⟨hl, hu⟩

theorem tailByte_toNat (n : Nat) : (UInt8.ofNat (n % 64 + 0x80)).toNat = n % 64 + 0x80 :=
  byteOf_toNat (by omega)

theorem tailByte_bounds (n : Nat) :
    0x80 ≤ UInt8.ofNat (n % 64 + 0x80) ∧ UInt8.ofNat (n % 64 + 0x80) ≤ 0xBF := by
  have h : n % 64 < 64 := Nat.mod_lt n (by decide)
  exact byteOf_between (by omega) (Nat.le_add_left _ _)
    (Nat.add_le_add_right (Nat.le_of_lt_succ h) 0x80)

theorem lossyChars_two (h : 0x7f < v) (h' : v ≤ 0x7ff) :
    lossyChars none (UInt8.ofNat (v / 64 % 0x20 + 0xC0) :: UInt8.ofNat (v % 0x40 + 0x80) :: rest) =
      Char.ofNat v :: lossyChars none rest := by
  have hb : (UInt8.ofNat (v / 64 % 0x20 + 0xC0)).toNat = v / 64 % 0x20 + 0xC0 :=
    byteOf_toNat (by omega)
  have hs := startByte_two (byteOf_between (n := v / 64 % 0x20 + 0xC0) (l := 0xC2) (u := 0xDF)
    (by omega) (by change 0xC2 ≤ _; omega) (by change _ ≤ 0xDF; omega))
  have hv : (v / 64 % 0x20 + 0xC0 - 0xC0) * 64 + (v % 0x40 + 0x80 - 0x80) = v := by omega
  rw [lossyChars_start hs, List.nil_append, lossyChars_last (tailByte_bounds v), hb,
    tailByte_toNat, hv]

theorem secondByte_bounds {e l d u : UInt8} (hm : m < 256)
    (hl : m = e.toNat → l.toNat ≤ n % 64 + 0x80) (hu : m = d.toNat → n % 64 + 0x80 ≤ u.toNat) :
    (if UInt8.ofNat m = e then l else 0x80) ≤ UInt8.ofNat (n % 64 + 0x80) ∧
      UInt8.ofNat (n % 64 + 0x80) ≤ (if UInt8.ofNat m = d then u else 0xBF) := by
  have hx := tailByte_bounds n
  constructor
  · split
    · next he =>
      rw [← UInt8.toNat_inj, byteOf_toNat hm] at he
      rw [UInt8.le_iff_toNat_le, tailByte_toNat]
      exact hl he
    · exact hx.1
  · split
    · next he =>
      rw [← UInt8.toNat_inj, byteOf_toNat hm] at he
      rw [UInt8.le_iff_toNat_le, tailByte_toNat]
      exact hu he
    · exact hx.2

theorem lossyChars_three (h : 0x7ff < v) (h' : v ≤ 0xffff) (hv : v < 0xD800 ∨ 0xDFFF < v) :
    lossyChars none (UInt8.ofNat (v / 4096 % 0x10 + 0xE0) :: UInt8.ofNat (v / 64 % 0x40 + 0x80) ::
      UInt8.ofNat (v % 0x40 + 0x80) :: rest) = Char.ofNat v :: lossyChars none rest := by
  have hb : (UInt8.ofNat (v / 4096 % 0x10 + 0xE0)).toNat = v / 4096 % 0x10 + 0xE0 :=
    byteOf_toNat (by omega)
  have hs := startByte_three (byteOf_between (n := v / 4096 % 0x10 + 0xE0) (l := 0xE0) (u := 0xEF)
    (by omega) (by change 0xE0 ≤ _; omega) (by change _ ≤ 0xEF; omega))
  have ht := @secondByte_bounds (v / 4096 % 0x10 + 0xE0) (v / 64) 0xE0 0xA0 0xED 0x9F (by omega)
    (by change _ = 0xE0 → 0xA0 ≤ _; omega) (by change _ = 0xED → _ ≤ 0x9F; omega)
  have hm : ((v / 4096 % 0x10 + 0xE0 - 0xE0) * 64 + (v / 64 % 0x40 + 0x80 - 0x80)) * 64 +
      (v % 0x40 + 0x80 - 0x80) = v := by omega
  rw [lossyChars_start hs, List.nil_append, lossyChars_more ht,
    lossyChars_last (tailByte_bounds v), tailByte_toNat, tailByte_toNat, hb, hm]

theorem lossyChars_four (h : 0xffff < v) (h' : v < 0x110000) :
    lossyChars none (UInt8.ofNat (v / 262144 % 0x08 + 0xF0) ::
      UInt8.ofNat (v / 4096 % 0x40 + 0x80) :: UInt8.ofNat (v / 64 % 0x40 + 0x80) ::
        UInt8.ofNat (v % 0x40 + 0x80) :: rest) = Char.ofNat v :: lossyChars none rest := by
  have hb : (UInt8.ofNat (v / 262144 % 0x08 + 0xF0)).toNat = v / 262144 % 0x08 + 0xF0 :=
    byteOf_toNat (by omega)
  have hs := startByte_four (byteOf_between (n := v / 262144 % 0x08 + 0xF0) (l := 0xF0) (u := 0xF4)
    (by omega) (by change 0xF0 ≤ _; omega) (by change _ ≤ 0xF4; omega))
  have ht := @secondByte_bounds (v / 262144 % 0x08 + 0xF0) (v / 4096) 0xF0 0x90 0xF4 0x8F
    (by omega) (by change _ = 0xF0 → 0x90 ≤ _; omega) (by change _ = 0xF4 → _ ≤ 0x8F; omega)
  have hm : (((v / 262144 % 0x08 + 0xF0 - 0xF0) * 64 + (v / 4096 % 0x40 + 0x80 - 0x80)) * 64 +
      (v / 64 % 0x40 + 0x80 - 0x80)) * 64 + (v % 0x40 + 0x80 - 0x80) = v := by omega
  rw [lossyChars_start hs, List.nil_append, lossyChars_more ht,
    lossyChars_more (tailByte_bounds (v / 64)), lossyChars_last (tailByte_bounds v),
    tailByte_toNat, tailByte_toNat, tailByte_toNat, hb, hm]

theorem lossyChars_encodeChar (c : Char) (rest : Bytes) :
    lossyChars none (String.utf8EncodeChar c ++ rest) = c :: lossyChars none rest := by
  have hc : Char.ofNat c.val.toNat = c := Char.ofNat_toNat c
  have hv : c.val.toNat < 0xD800 ∨ 0xDFFF < c.val.toNat ∧ c.val.toNat < 0x110000 := c.valid
  unfold String.utf8EncodeChar
  dsimp only
  generalize c.val.toNat = v at hc hv
  rw [← hc]
  split
  · have hb : (UInt8.ofNat v).toNat = v := byteOf_toNat (by omega)
    have hs : UInt8.ofNat v < 0x80 := by
      rw [UInt8.lt_iff_toNat_lt, hb]
      change v < 0x80
      omega
    rw [List.singleton_append, lossyChars_start (startByte_ascii hs), hb, List.singleton_append]
  · split
    · exact lossyChars_two (by omega) (by omega)
    · split
      · exact lossyChars_three (by omega) (by omega) (by omega)
      · exact lossyChars_four (by omega) (by omega)

@[simp] theorem fromUtf8Lossy_utf8 (text : List Char) : fromUtf8Lossy (utf8 text) = text := by
  induction text with
  | nil => rfl
  | cons c text ih =>
    rw [fromUtf8Lossy, utf8, List.flatMap_cons, lossyChars_encodeChar]
    exact congrArg (c :: ·) ih

theorem utf8_injective {s t : List Char} (h : utf8 s = utf8 t) : s = t := by
  rw [← fromUtf8Lossy_utf8 s, h, fromUtf8Lossy_utf8]

/-- Where a byte string stops being UTF-8, and how long the invalid part is unless the bytes end
before it does. -/
structure Utf8Error where
  validUpTo : Nat
  errorLen : Option Nat
deriving DecidableEq

/-- The scan of bytes after `start` valid ones and `taken` bytes of a character begun. -/
def utf8Error (start taken : Nat) : Option Pending → Bytes → Utf8Error
  | _, [] => ⟨start, none⟩
  | none, b :: rest =>
    match startByte b with
    | ([], s') => utf8Error start 1 s' rest
    | _ => if b < 0x80 then utf8Error (start + 1) 0 none rest else ⟨start, some 1⟩
  | some p, b :: rest =>
    if p.low ≤ b ∧ b ≤ p.high then
      if p.owed ≤ 1 then utf8Error (start + taken + 1) 0 none rest
      else utf8Error start (taken + 1) (nextByte (some p) b).2 rest
    else ⟨start, some taken⟩

/-- The characters of a byte string that is their encoding. -/
def fromUtf8 (data : Bytes) : Except Utf8Error (List Char) :=
  if utf8 (fromUtf8Lossy data) = data then .ok (fromUtf8Lossy data)
  else .error (utf8Error 0 0 none data)

theorem fromUtf8_utf8 (text : List Char) : fromUtf8 (utf8 text) = .ok text := by
  rw [fromUtf8, fromUtf8Lossy_utf8, if_pos rfl]

theorem utf8_length_le (text : List Char) : (utf8 text).length ≤ 4 * text.length := by
  induction text with
  | nil => exact Nat.le_refl 0
  | cons c text ih =>
    have hc := c.utf8Size_le_four
    rw [utf8, List.flatMap_cons, List.length_append, String.length_utf8EncodeChar,
      List.length_cons]
    rw [utf8] at ih
    omega

/-- The characters of Unicode's property White_Space. -/
def isWhitespace (c : Char) : Bool :=
  let v := c.toNat
  decide (9 ≤ v ∧ v ≤ 13 ∨ v = 0x20 ∨ v = 0x85 ∨ v = 0xA0 ∨ v = 0x1680 ∨
    0x2000 ≤ v ∧ v ≤ 0x200A ∨ v = 0x2028 ∨ v = 0x2029 ∨ v = 0x202F ∨ v = 0x205F ∨ v = 0x3000)

def trim (text : List Char) : List Char :=
  (text.dropWhile isWhitespace).rdropWhile isWhitespace

theorem trim_of_forall {text : List Char} (h : ∀ c ∈ text, isWhitespace c = false) :
    trim text = text := by
  have hfront : text.dropWhile isWhitespace = text := by
    rw [List.dropWhile_eq_self_iff]
    intro hpos
    rw [h _ (List.getElem_mem hpos)]
    exact Bool.false_ne_true
  rw [trim, hfront, List.rdropWhile_eq_self_iff]
  intro hne
  rw [h _ (List.getLast_mem hne)]
  exact Bool.false_ne_true

theorem utf8_append (s t : List Char) : utf8 (s ++ t) = utf8 s ++ utf8 t := List.flatMap_append

theorem utf8_nuls (n : Nat) : utf8 (List.replicate n '\x00') = List.replicate n 0 := by
  induction n with
  | zero => rfl
  | succ n ih => exact congrArg (0 :: ·) ih

theorem fromUtf8Lossy_padded (text : List Char) (n : Nat) :
    fromUtf8Lossy (utf8 text ++ List.replicate n 0) = text ++ List.replicate n '\x00' := by
  rw [← utf8_nuls, ← utf8_append, fromUtf8Lossy_utf8]

theorem rdropWhile_replicate {p : α → Bool} (hx : p x = true) (l : List α) (n : Nat) :
    (l ++ List.replicate n x).rdropWhile p = l.rdropWhile p := by
  induction n with
  | zero => rw [List.replicate_zero, List.append_nil]
  | succ n ih =>
    rw [List.replicate_succ', ← List.append_assoc, List.rdropWhile_concat_pos _ _ _ hx, ih]

end P2PMesh.Base
