import P2PMesh.Base.DnsWire

namespace P2PMesh.Base
open DnsWire
set_option autoImplicit true

/-- The bytes of a slice: an object in memory has less than 2^63 of them. -/
structure Slice where
  bytes : Bytes
  length_lt : bytes.length < 2 ^ 63

/-- A position of 64 bits moves on, or overflows. -/
def advance (pos n : Nat) : Option Nat := if pos + n < 2 ^ 64 then some (pos + n) else none

/-- Bytes at a position, each read by its index; an index outside of the slice has none. -/
def readBytes (data : Bytes) (pos : Nat) : Nat → Option Bytes
  | 0 => some []
  | w + 1 => do
    let front ← readBytes data pos w
    let b ← data[← advance pos w]?
    return front ++ [b]

def readBe (data : Bytes) (pos w : Nat) : Option Nat := (readBytes data pos w).map ofBe

section Read
variable {data : Bytes} {pos w : Nat}

theorem advance_eq (h : pos + n < 2 ^ 64) : advance pos n = some (pos + n) := if_pos h

theorem read_u8At (h : pos < data.length) : data[pos]? = some (u8At data pos) := by
  rw [u8At, List.getD_eq_getElem?_getD, List.getElem?_eq_getElem h, Option.getD_some]

theorem take_drop_concat (h : pos + w < data.length) :
    (data.drop pos).take (w + 1) = (data.drop pos).take w ++ [u8At data (pos + w)] := by
  have hget : (data.drop pos)[w]? = some (u8At data (pos + w)) := by
    rw [List.getElem?_drop, read_u8At h]
  rw [List.take_add_one, hget, Option.toList_some]

theorem readBytes_eq (hdata : data.length < 2 ^ 63) (h : pos + w ≤ data.length) :
    readBytes data pos w = some ((data.drop pos).take w) := by
  induction w with
  | zero => rfl
  | succ w ih =>
    have hlast : pos + w < data.length := h
    rw [readBytes, ih (Nat.le_of_lt hlast), take_drop_concat hlast, advance_eq (by omega)]
    simp only [Option.bind_eq_bind, Option.bind_some, read_u8At hlast]
    rfl

theorem readBe_eq (hdata : data.length < 2 ^ 63) (h : pos + w ≤ data.length) :
    readBe data pos w = some (ofBe ((data.drop pos).take w)) := by
  rw [readBe, readBytes_eq hdata h, Option.map_some]

theorem ofBe_two (h : pos + 2 ≤ data.length) : ofBe ((data.drop pos).take 2) = u16At data pos := by
  rw [take_drop_concat (by omega), take_drop_concat (by omega), List.take_zero]
  change (0 * 256 + _) * 256 + _ = _
  rw [Nat.zero_mul, Nat.zero_add]
  rfl

theorem take_drop_eq (h : pos + w ≤ data.length) (hn : ofBe ((data.drop pos).take w) = n) :
    (data.drop pos).take w = toBe w n := by
  have hlength : ((data.drop pos).take w).length = w := by
    rw [List.length_take, List.length_drop]
    omega
  have hdigits := toBe_ofBe ((data.drop pos).take w)
  rw [hlength, hn] at hdigits
  exact hdigits.symm

theorem drop_eq_append (data : Bytes) (pos w : Nat) :
    data.drop pos = (data.drop pos).take w ++ data.drop (pos + w) := by
  rw [← List.drop_drop, List.take_append_drop]

end Read

end P2PMesh.Base
