import P2PMesh.Noise

namespace P2PMesh.Noise
open P2PMesh.Base
set_option autoImplicit true

section Schedule
variable {S : CryptoSuite}

def NoiseIKHandshake.transcript (self : NoiseIKHandshake S) :
    Transcript (ByteArr 32) (ByteArr 32) :=
  ⟨self.chainingKey, self.handshakeHash⟩

structure IkSecrets (S : CryptoSuite) where
  initStatic : S.Secret
  respStatic : S.Secret
  initEphemeral : S.Secret
  respEphemeral : S.Secret

def IkSecrets.es (x : IkSecrets S) : ByteArr 32 :=
  S.diffieHellman x.initEphemeral (S.publicKey x.respStatic)

def IkSecrets.ss (x : IkSecrets S) : ByteArr 32 :=
  S.diffieHellman x.initStatic (S.publicKey x.respStatic)

def IkSecrets.ee (x : IkSecrets S) : ByteArr 32 :=
  S.diffieHellman x.initEphemeral (S.publicKey x.respEphemeral)

def IkSecrets.se (x : IkSecrets S) : ByteArr 32 :=
  S.diffieHellman x.initStatic (S.publicKey x.respEphemeral)

/-- What the pattern's first message, `-> e, es, s, ss`, adds to a transcript. -/
def ikInitiation (x : IkSecrets S) (encryptedS : Bytes) : List (Mix Bytes (ByteArr 32)) :=
  [.hash (S.publicKey x.initEphemeral).bytes, .key x.es, .hash encryptedS, .key x.ss]

def ikReply (x : IkSecrets S) : List (Mix Bytes (ByteArr 32)) :=
  [.hash (S.publicKey x.respEphemeral).bytes, .key x.ee, .key x.se]

def absorb (t : Transcript (ByteArr 32) (ByteArr 32)) (l : List (Mix Bytes (ByteArr 32))) :
    Transcript (ByteArr 32) (ByteArr 32) :=
  t.mixAll (mixHash S) (mixKey S) l

theorem encryptWithKey_eq_some (hS : S.Lawful) (k : ByteArr 32) (n : ByteArr 12)
    (a : ByteArr 32) :
    ∃ c, S.aeadEncrypt k n a.bytes = some c ∧ c.length = 48 ∧
      encryptWithKey S k a.bytes n = some (n.bytes ++ c) := by
  have hl : a.bytes.length ≤ aeadMaxPlaintext := by
    rw [a.length_eq, aeadMaxPlaintext]
    omega
  obtain ⟨c, hc, hcl⟩ := hS.encrypt_eq_some k n hl
  exact ⟨c, hc, by rw [hcl, a.length_eq], by rw [encryptWithKey, hc, Option.map_some]⟩

theorem decryptWithKey_append (hS : S.Lawful) (hc : S.aeadEncrypt k n p = some c) :
    decryptWithKey S k (n.bytes ++ c) = some p := by
  have hl := hS.encrypt_length k n p c hc
  have hn : ¬ (n.bytes ++ c).length < 12 + 16 := by
    rw [List.length_append, n.length_eq]
    omega
  rw [decryptWithKey, if_neg hn, ByteArr.ofSlice_append, ByteArr.drop_append]
  exact hS.decrypt_encrypt k n p c hc

/-- The initiator waits for the reply to the message that the responder has just accepted. -/
structure AwaitingReply (x : IkSecrets S) (i r : NoiseIKHandshake S) : Prop where
  initState : i.state = .initiatorSent
  respState : r.state = .responderSent
  initSecret : i.staticKeypair.secret = x.initStatic
  initEphemeral : i.ephemeralSecret = some x.initEphemeral
  respPeerEphemeral : r.peerEphemeralPublic = S.publicKey x.initEphemeral
  respPeerStatic : r.peerStaticPublic = S.publicKey x.initStatic
  transcripts : i.transcript = r.transcript

theorem buildInitiatorMessage_absorbs (hS : S.Lawful) (x : IkSecrets S) (n : ByteArr 12)
    {i : NoiseIKHandshake S} (hs : i.state = .init)
    (hp : i.peerStaticPublic = S.publicKey x.respStatic)
    (hx : i.staticKeypair.secret = x.initStatic) :
    ∃ c i', S.aeadEncrypt (mixKey S i.chainingKey x.es) n (S.publicKey x.initStatic).bytes =
        some c ∧ c.length = 48 ∧
      i.buildInitiatorMessage x.initEphemeral n =
        (.ok ((S.publicKey x.initEphemeral).bytes ++ (n.bytes ++ c)), i') ∧
      i'.state = .initiatorSent ∧ i'.staticKeypair = i.staticKeypair ∧
      i'.ephemeralSecret = some x.initEphemeral ∧
      i'.transcript = absorb (S := S) i.transcript (ikInitiation x (n.bytes ++ c)) := by
  have hpub : i.staticKeypair.publicKey = S.publicKey x.initStatic := by
    rw [i.staticKeypair.public_eq, hx]
  obtain ⟨c, hc, hcl, he⟩ := encryptWithKey_eq_some hS (mixKey S i.chainingKey x.es) n
    (S.publicKey x.initStatic)
  have hes : S.diffieHellman x.initEphemeral i.peerStaticPublic = x.es := by rw [hp]; rfl
  have hss : S.diffieHellman i.staticKeypair.secret i.peerStaticPublic = x.ss := by
    rw [hp, hx]; rfl
  refine ⟨c, { i with
      state := .initiatorSent
      ephemeralSecret := some x.initEphemeral
      chainingKey := mixKey S (mixKey S i.chainingKey x.es) x.ss
      handshakeHash := mixHash S (mixHash S i.handshakeHash (S.publicKey x.initEphemeral).bytes)
        (n.bytes ++ c) }, hc, hcl, ?_, rfl, rfl, rfl, rfl⟩
  simp only [NoiseIKHandshake.buildInitiatorMessage, NoiseIKHandshake.mixKey,
    NoiseIKHandshake.mixHash, hs, hes, hss, hpub, he, ne_eq, not_true_eq_false, ↓reduceIte]

/-- The responder accepts a message that an initiator in the same transcript built for it. -/
theorem processInitiatorMessage_absorbs (hS : S.Lawful) (x : IkSecrets S)
    {r : NoiseIKHandshake S} (hs : r.state = .init) (hx : r.staticKeypair.secret = x.respStatic)
    (hc : S.aeadEncrypt (mixKey S r.chainingKey x.es) n (S.publicKey x.initStatic).bytes =
      some c) :
    ∃ r', r.processInitiatorMessage ((S.publicKey x.initEphemeral).bytes ++ (n.bytes ++ c)) =
        (.ok (S.publicKey x.initStatic), r') ∧
      r'.state = .responderSent ∧ r'.peerEphemeralPublic = S.publicKey x.initEphemeral ∧
      r'.peerStaticPublic = S.publicKey x.initStatic ∧
      r'.transcript = absorb (S := S) r.transcript (ikInitiation x (n.bytes ++ c)) := by
  have hl := hS.encrypt_length _ _ _ _ hc
  have hlen : ¬ ((S.publicKey x.initEphemeral).bytes ++ (n.bytes ++ c)).length < 32 + 12 + 16 := by
    simp only [List.length_append, ByteArr.length_eq]
    omega
  have hes : S.diffieHellman r.staticKeypair.secret (S.publicKey x.initEphemeral) = x.es := by
    rw [hx]; exact hS.dh_comm _ _
  have hss : S.diffieHellman r.staticKeypair.secret (S.publicKey x.initStatic) = x.ss := by
    rw [hx]; exact hS.dh_comm _ _
  have hd := decryptWithKey_append hS hc
  refine ⟨{ r with
      state := .responderSent
      peerEphemeralPublic := S.publicKey x.initEphemeral
      peerStaticPublic := S.publicKey x.initStatic
      chainingKey := mixKey S (mixKey S r.chainingKey x.es) x.ss
      handshakeHash := mixHash S (mixHash S r.handshakeHash (S.publicKey x.initEphemeral).bytes)
        (n.bytes ++ c) }, ?_, rfl, rfl, rfl, rfl⟩
  simp only [NoiseIKHandshake.processInitiatorMessage, NoiseIKHandshake.mixKey,
    NoiseIKHandshake.mixHash, hs, hlen, ByteArr.ofSlice_append, ByteArr.drop_append, hes, hss,
    hd, ByteArr.ofSlice_bytes, ByteArr.length_eq, ne_eq, not_true_eq_false, ↓reduceIte]

structure Completed (i r : NoiseIKHandshake S) : Prop where
  initState : i.state = .established
  respState : r.state = .established
  transcripts : i.transcript = r.transcript

/-- The reply completes both sides, and they return crossed halves of one split. -/
theorem AwaitingReply.reply (hS : S.Lawful) {x : IkSecrets S} (h : AwaitingReply x i r) :
    ∃ message i' r', Completed i' r' ∧
      i'.transcript = absorb (S := S) i.transcript (ikReply x) ∧
      r.buildResponderMessage x.respEphemeral = (.ok (message,
        .new (split S r'.chainingKey).2, .new (split S r'.chainingKey).1), r') ∧
      i.processResponderMessage message = (.ok
        (.new (split S i'.chainingKey).1, .new (split S i'.chainingKey).2), i') := by
  have hee : S.diffieHellman x.respEphemeral r.peerEphemeralPublic = x.ee := by
    rw [h.respPeerEphemeral]; exact hS.dh_comm _ _
  have hse : S.diffieHellman x.respEphemeral r.peerStaticPublic = x.se := by
    rw [h.respPeerStatic]; exact hS.dh_comm _ _
  have hse' : S.diffieHellman i.staticKeypair.secret (S.publicKey x.respEphemeral) = x.se := by
    rw [h.initSecret]; rfl
  have hlen : ¬ (S.publicKey x.respEphemeral).bytes.length < 32 := by
    rw [ByteArr.length_eq]; omega
  refine ⟨(S.publicKey x.respEphemeral).bytes,
    { i with
      state := .established
      chainingKey := mixKey S (mixKey S i.chainingKey x.ee) x.se
      handshakeHash := mixHash S i.handshakeHash (S.publicKey x.respEphemeral).bytes },
    { r with
      state := .established
      chainingKey := mixKey S (mixKey S r.chainingKey x.ee) x.se
      handshakeHash := mixHash S r.handshakeHash (S.publicKey x.respEphemeral).bytes },
    ⟨rfl, rfl, ?_⟩, rfl, ?_, ?_⟩
  · exact congrArg (fun t => absorb (S := S) t (ikReply x)) h.transcripts
  · simp only [NoiseIKHandshake.buildResponderMessage, NoiseIKHandshake.mixKey,
      NoiseIKHandshake.mixHash, h.respState, hee, hse, ne_eq, not_true_eq_false, ↓reduceIte]
  · simp only [NoiseIKHandshake.processResponderMessage, NoiseIKHandshake.mixKey,
      NoiseIKHandshake.mixHash, h.initState, hlen, h.initEphemeral, ByteArr.ofSlice_bytes, hse',
      ne_eq, not_true_eq_false, ↓reduceIte]
    rfl

end Schedule

end P2PMesh.Noise
