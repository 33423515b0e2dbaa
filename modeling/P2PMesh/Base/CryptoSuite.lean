import P2PMesh.Base.Bytes

namespace P2PMesh.Base
set_option autoImplicit true

/-- The primitives of an authenticated key exchange: a Diffie-Hellman function on 32-byte public
keys, a hash, a keyed hash and an AEAD with 12-byte nonces and no associated data. -/
structure CryptoSuite where
  Secret : Type
  publicKey : Secret → ByteArr 32
  diffieHellman : Secret → ByteArr 32 → ByteArr 32
  sha256 : Bytes → ByteArr 32
  hmacSha256 : Bytes → Bytes → ByteArr 32
  aeadEncrypt : ByteArr 32 → ByteArr 12 → Bytes → Option Bytes
  aeadDecrypt : ByteArr 32 → ByteArr 12 → Bytes → Option Bytes

/-- The longest plaintext of the AEAD: `2^32 - 1` blocks of 64 bytes. -/
def aeadMaxPlaintext : Nat := 64 * (2 ^ 32 - 1)

/-- What the primitives are documented to do; the hashes stay opaque. -/
structure CryptoSuite.Lawful (S : CryptoSuite) : Prop where
  dh_comm : ∀ a b, S.diffieHellman a (S.publicKey b) = S.diffieHellman b (S.publicKey a)
  decrypt_encrypt : ∀ k n p c, S.aeadEncrypt k n p = some c → S.aeadDecrypt k n c = some p
  encrypt_length : ∀ k n p c, S.aeadEncrypt k n p = some c → c.length = p.length + 16
  encrypt_isSome : ∀ k n p, p.length ≤ aeadMaxPlaintext → (S.aeadEncrypt k n p).isSome

/-- Different keys tell each other's ciphertexts apart on some message. -/
def CryptoSuite.KeySeparating (S : CryptoSuite) : Prop :=
  ∀ k k', k ≠ k' → ∃ n p c, S.aeadEncrypt k n p = some c ∧ S.aeadDecrypt k' n c ≠ some p

theorem CryptoSuite.Lawful.encrypt_eq_some {S : CryptoSuite} (hS : S.Lawful)
    (k : ByteArr 32) (n : ByteArr 12) (hp : p.length ≤ aeadMaxPlaintext) :
    ∃ c, S.aeadEncrypt k n p = some c ∧ c.length = p.length + 16 := by
  obtain ⟨c, hc⟩ := Option.isSome_iff_exists.mp (hS.encrypt_isSome k n p hp)
  exact ⟨c, hc, hS.encrypt_length k n p c hc⟩

def padBytes (k : ByteArr 32) (p : Bytes) : Bytes :=
  p.mapIdx (fun i b => b ^^^ k.bytes.getD (i % 32) 0)

theorem padBytes_length (k : ByteArr 32) (p : Bytes) : (padBytes k p).length = p.length :=
  List.length_mapIdx

theorem padBytes_padBytes (k : ByteArr 32) (p : Bytes) : padBytes k (padBytes k p) = p := by
  apply List.ext_getElem
  · simp only [padBytes, List.length_mapIdx]
  · intro i hi hi'
    simp only [padBytes, List.getElem_mapIdx, UInt8.xor_assoc, UInt8.xor_self, UInt8.xor_zero]

theorem padBytes_zeros (k : ByteArr 32) : padBytes k (List.replicate 32 0) = k.bytes := by
  apply List.ext_getElem
  · simp only [padBytes, List.length_mapIdx, List.length_replicate, k.length_eq]
  · intro i hi hi'
    have hlt : i < 32 := by simpa using hi'
    simp only [padBytes, List.getElem_mapIdx, List.getElem_replicate, Nat.mod_eq_of_lt hlt,
      UInt8.zero_xor]
    rw [List.getD_eq_getElem?_getD, List.getElem?_eq_getElem hi', Option.getD_some]

def polyHash (data : Bytes) : ByteArr 32 :=
  .ofNat 32 (data.foldl (fun acc b => (acc * 1000003 + b.toNat + 1) % 2 ^ 256) 1)

def mulKey (a : Nat) (B : ByteArr 32) : ByteArr 32 := .ofNat 32 (a * B.toNat)

theorem mulKey_comm (a b : Nat) : mulKey a (.ofNat 32 b) = mulKey b (.ofNat 32 a) := by
  apply ByteArr.ext
  change toBe 32 (a * (ByteArr.ofNat 32 b).toNat) = toBe 32 (b * (ByteArr.ofNat 32 a).toNat)
  rw [ByteArr.toNat_ofNat, ByteArr.toNat_ofNat, ← toBe_congr_mod, Nat.mul_mod_mod,
    ← toBe_congr_mod 32 (b * _), Nat.mul_mod_mod, Nat.mul_comm]

def padTag (k : ByteArr 32) (n : ByteArr 12) (body : Bytes) : Bytes :=
  (polyHash (k.bytes ++ n.bytes ++ body)).bytes.take 16

theorem padTag_length (k : ByteArr 32) (n : ByteArr 12) (body : Bytes) :
    (padTag k n body).length = 16 := by
  simp [padTag]

def padEncrypt (k : ByteArr 32) (n : ByteArr 12) (p : Bytes) : Option Bytes :=
  if p.length ≤ aeadMaxPlaintext then some (padBytes k p ++ padTag k n (padBytes k p)) else none

def padDecrypt (k : ByteArr 32) (n : ByteArr 12) (c : Bytes) : Option Bytes :=
  let body := c.take (c.length - 16)
  if c.drop (c.length - 16) = padTag k n body then some (padBytes k body) else none

theorem padDecrypt_append (k k' : ByteArr 32) (n : ByteArr 12) (body : Bytes) :
    padDecrypt k' n (body ++ padTag k n body) =
      if padTag k n body = padTag k' n body then some (padBytes k' body) else none := by
  have hl : (body ++ padTag k n body).length - 16 = body.length := by
    rw [List.length_append, padTag_length, Nat.add_sub_cancel]
  rw [padDecrypt, hl, List.take_left, List.drop_left]

theorem padEncrypt_eq (k : ByteArr 32) (n : ByteArr 12) (h : p.length ≤ aeadMaxPlaintext) :
    padEncrypt k n p = some (padBytes k p ++ padTag k n (padBytes k p)) := if_pos h

theorem padEncrypt_some (h : padEncrypt k n p = some c) :
    c = padBytes k p ++ padTag k n (padBytes k p) := by
  unfold padEncrypt at h
  split at h <;> cases h
  rfl

/-- Simple arithmetic primitives that satisfy every law, so the laws are consistent. -/
def arithmeticSuite : CryptoSuite where
  Secret := Nat
  publicKey := .ofNat 32
  diffieHellman := mulKey
  sha256 := polyHash
  hmacSha256 key msg := polyHash (key ++ 0 :: msg)
  aeadEncrypt := padEncrypt
  aeadDecrypt := padDecrypt

theorem arithmeticSuite_lawful : arithmeticSuite.Lawful where
  dh_comm := mulKey_comm
  decrypt_encrypt k n p c h := by
    rw [padEncrypt_some h]
    exact (padDecrypt_append k k n _).trans (by rw [if_pos rfl, padBytes_padBytes])
  encrypt_length k n p c h := by
    rw [padEncrypt_some h, List.length_append, padTag_length, padBytes_length]
  encrypt_isSome k n p h := by
    change (padEncrypt k n p).isSome
    rw [padEncrypt_eq k n h, Option.isSome_some]

theorem padDecrypt_zeros (hk : k ≠ k') (n : ByteArr 12) :
    padDecrypt k' n (padBytes k (List.replicate 32 0) ++
      padTag k n (padBytes k (List.replicate 32 0))) ≠ some (List.replicate 32 0) := by
  rw [padDecrypt_append, padBytes_zeros]
  split
  · intro he
    -- the pad is an involution, so equal pads of the zeros are equal keys
    have hz : padBytes k' k.bytes = List.replicate 32 0 := Option.some.inj he
    apply hk
    apply ByteArr.ext
    rw [← padBytes_padBytes k' k.bytes, hz, padBytes_zeros]
  · exact nofun

theorem arithmeticSuite_keySeparating : arithmeticSuite.KeySeparating := by
  intro k k' hk
  have hp : (List.replicate 32 (0 : UInt8)).length ≤ aeadMaxPlaintext := by
    rw [List.length_replicate, aeadMaxPlaintext]
    omega
  have he := padEncrypt_eq k (.zero 12) hp
  have hd := padDecrypt_zeros hk (.zero 12)
  generalize List.replicate 32 (0 : UInt8) = z at he hd
  exact ⟨_, _, _, he, hd⟩

end P2PMesh.Base
