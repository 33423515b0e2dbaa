import P2PMesh.Base.CryptoSuite
import P2PMesh.Base.Machine
import P2PMesh.Base.Transcript

namespace P2PMesh.Noise
open P2PMesh.Base
set_option autoImplicit true

inductive HandshakeState where
  | init
  | initiatorSent
  | responderSent
  | established
deriving DecidableEq

inductive NoiseError where
  | invalidState
  | decryptionFailed
  | encryptionFailed
deriving DecidableEq

/-- A static keypair; the public half belongs to the secret. -/
structure NoiseStaticKeypair (S : CryptoSuite) where
  secret : S.Secret
  publicKey : ByteArr 32
  public_eq : publicKey = S.publicKey secret

/-- `generate`, on the secret that the random number generator yields. -/
def NoiseStaticKeypair.generate (S : CryptoSuite) (secret : S.Secret) : NoiseStaticKeypair S :=
  ⟨secret, S.publicKey secret, rfl⟩

structure NoiseIKHandshake (S : CryptoSuite) where
  state : HandshakeState
  staticKeypair : NoiseStaticKeypair S
  peerStaticPublic : ByteArr 32
  ephemeralSecret : Option S.Secret
  peerEphemeralPublic : ByteArr 32
  chainingKey : ByteArr 32
  handshakeHash : ByteArr 32

structure NoiseTransportKey where
  key : ByteArr 32
  nonce : UInt64
deriving DecidableEq

def NoiseTransportKey.new (key : ByteArr 32) : NoiseTransportKey := ⟨key, 0⟩

def protocolName : ByteArr 32 := ⟨ascii "Noise_IK_25519_ChaChaPoly_SHA256", by decide⟩

section Primitives
variable (S : CryptoSuite)

def mixKey (ck : ByteArr 32) (input : ByteArr 32) : ByteArr 32 :=
  S.hmacSha256 ck.bytes input.bytes

def mixHash (h : ByteArr 32) (data : Bytes) : ByteArr 32 :=
  S.sha256 (h.bytes ++ data)

def split (ck : ByteArr 32) : ByteArr 32 × ByteArr 32 :=
  let k1 := S.hmacSha256 ck.bytes [0x01]
  let k2 := S.hmacSha256 ck.bytes (k1.bytes ++ [0x02])
  (k1, k2)

/-- `none` is the panic of the `expect` on a failed encryption. -/
def encryptWithKey (key : ByteArr 32) (plaintext : Bytes) (nonce : ByteArr 12) : Option Bytes :=
  (S.aeadEncrypt key nonce plaintext).map (nonce.bytes ++ ·)

def decryptWithKey (key : ByteArr 32) (data : Bytes) : Option Bytes :=
  if data.length < 12 + 16 then none
  else S.aeadDecrypt key (.ofSlice 12 data) (data.drop 12)

end Primitives

section Handshake
variable {S : CryptoSuite}

def NoiseIKHandshake.initiator (ourStatic : NoiseStaticKeypair S)
    (peerStaticPublic : ByteArr 32) : NoiseIKHandshake S where
  state := .init
  staticKeypair := ourStatic
  peerStaticPublic := peerStaticPublic
  ephemeralSecret := none
  peerEphemeralPublic := .zero 32
  chainingKey := protocolName
  handshakeHash := S.sha256 protocolName.bytes

def NoiseIKHandshake.responder (ourStatic : NoiseStaticKeypair S) : NoiseIKHandshake S where
  state := .init
  staticKeypair := ourStatic
  peerStaticPublic := .zero 32
  ephemeralSecret := none
  peerEphemeralPublic := .zero 32
  chainingKey := protocolName
  handshakeHash := S.sha256 protocolName.bytes

def NoiseIKHandshake.mixHash (self : NoiseIKHandshake S) (data : Bytes) : NoiseIKHandshake S :=
  { self with handshakeHash := Noise.mixHash S self.handshakeHash data }

def NoiseIKHandshake.mixKey (self : NoiseIKHandshake S) (shared : ByteArr 32) :
    NoiseIKHandshake S :=
  { self with chainingKey := Noise.mixKey S self.chainingKey shared }

/-- `-> e, es, s, ss`, with the random ephemeral secret and AEAD nonce as arguments. -/
def NoiseIKHandshake.buildInitiatorMessage (self : NoiseIKHandshake S)
    (ephemeralSecret : S.Secret) (nonce : ByteArr 12) :
    Except (Fault NoiseError) Bytes × NoiseIKHandshake S :=
  if self.state ≠ .init then (.error (.err .invalidState), self)
  else
    let ephemeralPublic := S.publicKey ephemeralSecret
    let self := { self with ephemeralSecret := some ephemeralSecret }
    let self := self.mixHash ephemeralPublic.bytes
    let self := self.mixKey (S.diffieHellman ephemeralSecret self.peerStaticPublic)
    match encryptWithKey S self.chainingKey self.staticKeypair.publicKey.bytes nonce with
    | none => (.error .panic, self)
    | some encryptedS =>
      let self := self.mixHash encryptedS
      let self := self.mixKey
        (S.diffieHellman self.staticKeypair.secret self.peerStaticPublic)
      (.ok (ephemeralPublic.bytes ++ encryptedS), { self with state := .initiatorSent })

/-- `<- e, ee, se` on the initiator. -/
def NoiseIKHandshake.processResponderMessage (self : NoiseIKHandshake S) (response : Bytes) :
    Except NoiseError (NoiseTransportKey × NoiseTransportKey) × NoiseIKHandshake S :=
  if self.state ≠ .initiatorSent then (.error .invalidState, self)
  else if response.length < 32 then (.error .invalidState, self)
  else
    match self.ephemeralSecret with
    | none => (.error .invalidState, self)
    | some ephem =>
      let respEphemeral := ByteArr.ofSlice 32 response
      let self := self.mixHash respEphemeral.bytes
      let self := self.mixKey (S.diffieHellman ephem respEphemeral)
      let self := self.mixKey (S.diffieHellman self.staticKeypair.secret respEphemeral)
      let self := { self with state := .established }
      let (sendKey, recvKey) := split S self.chainingKey
      (.ok (.new sendKey, .new recvKey), self)

/-- `-> e, es, s, ss` on the responder. The transcript absorbs the message before the
decryption can fail. -/
def NoiseIKHandshake.processInitiatorMessage (self : NoiseIKHandshake S) (message : Bytes) :
    Except NoiseError (ByteArr 32) × NoiseIKHandshake S :=
  if self.state ≠ .init then (.error .invalidState, self)
  else if message.length < 32 + 12 + 16 then (.error .invalidState, self)
  else
    let initEphemeral := ByteArr.ofSlice 32 message
    let self := self.mixHash initEphemeral.bytes
    let self := self.mixKey (S.diffieHellman self.staticKeypair.secret initEphemeral)
    let self := { self with peerEphemeralPublic := initEphemeral }
    let encryptedS := message.drop 32
    let self := self.mixHash encryptedS
    match decryptWithKey S self.chainingKey encryptedS with
    | none => (.error .decryptionFailed, self)
    | some initStaticBytes =>
      if initStaticBytes.length ≠ 32 then (.error .decryptionFailed, self)
      else
        let initStaticPub := ByteArr.ofSlice 32 initStaticBytes
        let self := { self with peerStaticPublic := initStaticPub }
        let self := self.mixKey (S.diffieHellman self.staticKeypair.secret initStaticPub)
        (.ok initStaticPub, { self with state := .responderSent })

/-- `<- e, ee, se` on the responder, with the random ephemeral secret as an argument. The
responder's send key is the second half of the split. -/
def NoiseIKHandshake.buildResponderMessage (self : NoiseIKHandshake S)
    (respEphemeralSecret : S.Secret) :
    Except NoiseError (Bytes × NoiseTransportKey × NoiseTransportKey) × NoiseIKHandshake S :=
  if self.state ≠ .responderSent then (.error .invalidState, self)
  else
    let respEphemeral := S.publicKey respEphemeralSecret
    let self := self.mixHash respEphemeral.bytes
    let self := self.mixKey (S.diffieHellman respEphemeralSecret self.peerEphemeralPublic)
    let self := self.mixKey (S.diffieHellman respEphemeralSecret self.peerStaticPublic)
    let self := { self with state := .established }
    let (sendKey, recvKey) := split S self.chainingKey
    (.ok (respEphemeral.bytes, .new recvKey, .new sendKey), self)

def NoiseIKHandshake.transportKeys (self : NoiseIKHandshake S) :
    Option (NoiseTransportKey × NoiseTransportKey) :=
  if self.state = .established then
    let (sendKey, recvKey) := split S self.chainingKey
    some (.new sendKey, .new recvKey)
  else none

end Handshake

section Transport
variable (S : CryptoSuite)

/-- Four zero bytes and the big-endian counter. -/
def nonceBytes (nonce : UInt64) : ByteArr 12 :=
  ⟨List.replicate 4 0 ++ toBe 8 nonce.toNat, by simp⟩

/-- The counter is incremented before the AEAD runs, so a failed encryption uses a nonce up. -/
def NoiseTransportKey.encrypt (overflowChecks : Bool) (self : NoiseTransportKey)
    (plaintext : Bytes) : Except (Fault NoiseError) Bytes × NoiseTransportKey :=
  let nonce := nonceBytes self.nonce
  match addU64 overflowChecks self.nonce 1 with
  | none => (.error .panic, self)
  | some next =>
    let self := { self with nonce := next }
    match S.aeadEncrypt self.key nonce plaintext with
    | none => (.error (.err .encryptionFailed), self)
    | some ciphertext => (.ok (nonce.bytes ++ ciphertext), self)

def NoiseTransportKey.decrypt (self : NoiseTransportKey) (data : Bytes) : Option Bytes :=
  if data.length < 12 then none
  else S.aeadDecrypt self.key (.ofSlice 12 data) (data.drop 12)

end Transport

end P2PMesh.Noise
