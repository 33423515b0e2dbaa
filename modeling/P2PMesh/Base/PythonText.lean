import P2PMesh.Base.SocketText

namespace P2PMesh.Base.Python
set_option autoImplicit true

/-- The zeros of the blocks of ten that Unicode 14 has of decimal digits. -/
def decimalZeros : List Nat :=
  [0x30, 0x660, 0x6f0, 0x7c0, 0x966, 0x9e6, 0xa66, 0xae6, 0xb66, 0xbe6, 0xc66, 0xce6, 0xd66, 0xde6,
    0xe50, 0xed0, 0xf20, 0x1040, 0x1090, 0x17e0, 0x1810, 0x1946, 0x19d0, 0x1a80, 0x1a90, 0x1b50,
    0x1bb0, 0x1c40, 0x1c50, 0xa620, 0xa8d0, 0xa900, 0xa9d0, 0xa9f0, 0xaa50, 0xabf0, 0xff10, 0x104a0,
    0x10d30, 0x11066, 0x110f0, 0x11136, 0x111d0, 0x112f0, 0x11450, 0x114d0, 0x11650, 0x116c0,
    0x11730, 0x118e0, 0x11950, 0x11c50, 0x11d50, 0x11da0, 0x16a60, 0x16ac0, 0x16b50, 0x1d7ce,
    0x1d7d8, 0x1d7e2, 0x1d7ec, 0x1d7f6, 0x1e140, 0x1e2f0, 0x1e950, 0x1fbf0]

def decimalValue (c : Char) : Option Nat :=
  (decimalZeros.find? (fun z => z ≤ c.toNat ∧ c.toNat < z + 10)).map (c.toNat - ·)

/-- The white space that a number may stand in. -/
def isSpace (c : Char) : Bool :=
  9 ≤ c.toNat ∧ c.toNat ≤ 13 ∨ 0x2000 ≤ c.toNat ∧ c.toNat ≤ 0x200a ∨
    c.toNat ∈ [0x20, 0x85, 0xa0, 0x1680, 0x2028, 0x2029, 0x202f, 0x205f, 0x3000]

/-- Digits, with single underscores between them. -/
def readDigits (afterDigit : Bool) : List Char → Option (List Nat)
  | [] => if afterDigit then some [] else none
  | c :: rest =>
    if c = '_' then if afterDigit then readDigits false rest else none
    else
      match decimalValue c with
      | none => none
      | some d => (readDigits true rest).map (fun ds => d :: ds)

def maxStrDigits : Nat := 4300

def readNatural (text : List Char) : Option Nat :=
  (readDigits false text).bind fun ds =>
    if ds.length ≤ maxStrDigits then some (ds.foldl (fun v d => v * 10 + d) 0) else none

/-- `int` of a text, if it does not raise. -/
def int (text : List Char) : Option Int :=
  match (text.dropWhile isSpace).rdropWhile isSpace with
  | '+' :: rest => (readNatural rest).map Nat.cast
  | '-' :: rest => (readNatural rest).map (fun n : Nat => -(n : Int))
  | rest => (readNatural rest).map Nat.cast

/-- `rsplit` at a separator, once, if it is there. -/
def rsplitOnce (sep : Char) (text : List Char) : Option (List Char × List Char) :=
  match text.reverse.dropWhile (· ≠ sep) with
  | [] => none
  | _ :: front => some (front.reverse, text.rtakeWhile (· ≠ sep))

theorem rsplitOnce_append {sep : Char} (front : List Char) {back : List Char} (h : sep ∉ back) :
    rsplitOnce sep (front ++ sep :: back) = some (front, back) := by
  have hback : ∀ c ∈ back.reverse, decide (c ≠ sep) = true := by
    intro c hc
    apply decide_eq_true
    rintro rfl
    exact h (List.mem_reverse.mp hc)
  have hreverse : (front ++ sep :: back).reverse = back.reverse ++ sep :: front.reverse := by
    rw [List.reverse_append, List.reverse_cons, List.append_assoc, List.singleton_append]
  rw [rsplitOnce, List.rtakeWhile, hreverse, List.dropWhile_append_of_pos hback,
    List.takeWhile_append_of_pos hback, List.dropWhile_cons_of_neg (by simp),
    List.takeWhile_cons_of_neg (by simp), List.append_nil, List.reverse_reverse]
  dsimp only
  rw [List.reverse_reverse]

section Decimal
variable {d n : Nat}

theorem decimalValue_digitChar (hd : d < 10) : decimalValue d.digitChar = some d := by
  interval_cases d <;> decide

theorem digitChar_ne (hd : d < 10) : d.digitChar ≠ '_' ∧ d.digitChar ≠ '+' ∧ d.digitChar ≠ '-' ∧
    isSpace d.digitChar = false := by
  interval_cases d <;> decide

theorem readDigits_digitChars {ds : List Nat} (hds : ∀ d ∈ ds, d < 10) :
    readDigits true (ds.map Nat.digitChar) = some ds := by
  induction ds with
  | nil => rfl
  | cons d ds ih =>
    have hd := hds d List.mem_cons_self
    rw [List.map_cons, readDigits, if_neg (digitChar_ne hd).1, decimalValue_digitChar hd,
      ih (fun d hd => hds d (List.mem_cons_of_mem _ hd))]
    rfl

theorem int_decimal (hn : n < 10 ^ maxStrDigits) : int (decimal n) = some (n : Int) := by
  have hlt : ∀ d ∈ NetParser.writtenDigits 10 n, d < 10 := NetParser.writtenDigits_lt (by decide)
  have hlength : (NetParser.writtenDigits 10 n).length ≤ maxStrDigits :=
    NetParser.writtenDigits_length_le (by decide) (by decide) hn
  have hvalue := NetParser.writtenDigits_value 10 n
  rw [decimal, NetParser.toDigits_eq_map (by decide)]
  obtain ⟨d, ds, hds⟩ : ∃ d ds, NetParser.writtenDigits 10 n = d :: ds :=
    List.exists_cons_of_ne_nil (NetParser.writtenDigits_ne_nil 10 n)
  rw [hds] at hlt hlength hvalue ⊢
  have hd := hlt d List.mem_cons_self
  have hread : readNatural ((d :: ds).map Nat.digitChar) = some n := by
    have hdigits : readDigits false ((d :: ds).map Nat.digitChar) = some (d :: ds) := by
      have hrest := readDigits_digitChars (fun d hd => hlt d (List.mem_cons_of_mem _ hd))
      rw [List.map_cons, readDigits, if_neg (digitChar_ne hd).1, decimalValue_digitChar hd, hrest]
      rfl
    rw [readNatural, hdigits, Option.bind_some, if_pos hlength, hvalue]
  have hspace : ∀ c ∈ (d :: ds).map Nat.digitChar, ¬ isSpace c = true := by
    intro c hc
    obtain ⟨d', hd', rfl⟩ := List.mem_map.mp hc
    rw [(digitChar_ne (hlt d' hd')).2.2.2]
    exact Bool.false_ne_true
  have hstrip : (((d :: ds).map Nat.digitChar).dropWhile isSpace).rdropWhile isSpace =
      (d :: ds).map Nat.digitChar := by
    rw [List.dropWhile_eq_self_iff.mpr (fun hl => hspace _ (List.getElem_mem hl)),
      List.rdropWhile_eq_self_iff.mpr (fun hl => hspace _ (List.getLast_mem hl))]
  rw [int, hstrip]
  split
  · next rest hrest =>
    rw [List.map_cons] at hrest
    exact ((digitChar_ne hd).2.1 (List.cons.inj hrest).1).elim
  · next rest hrest =>
    rw [List.map_cons] at hrest
    exact ((digitChar_ne hd).2.2.1 (List.cons.inj hrest).1).elim
  · rw [hread]
    rfl

end Decimal

end P2PMesh.Base.Python
