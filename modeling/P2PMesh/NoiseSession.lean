import P2PMesh.NoiseAgreement

namespace P2PMesh.Noise
open P2PMesh.Base
set_option autoImplicit true

inductive Side where
  | initiator
  | responder
deriving DecidableEq

def Side.other : Side → Side
  | .initiator => .responder
  | .responder => .initiator

/-- The transport keys that the two sides of a connection hold. -/
structure Session where
  initSend : NoiseTransportKey
  initRecv : NoiseTransportKey
  respSend : NoiseTransportKey
  respRecv : NoiseTransportKey

/-- Each side sends under the key bytes that the other receives with. -/
def Session.Crossed (s : Session) : Prop :=
  s.initSend.key = s.respRecv.key ∧ s.respSend.key = s.initRecv.key

structure Packet where
  sender : Side
  plaintext : Bytes
  wire : Bytes

section Exchange
variable (S : CryptoSuite) (overflowChecks : Bool)

def Session.send (s : Session) : Side → Bytes → Except (Fault NoiseError) Bytes × Session
  | .initiator, p =>
    let r := s.initSend.encrypt S overflowChecks p
    (r.1, { s with initSend := r.2 })
  | .responder, p =>
    let r := s.respSend.encrypt S overflowChecks p
    (r.1, { s with respSend := r.2 })

def Session.receive (s : Session) : Side → Bytes → Option Bytes
  | .initiator, data => s.initRecv.decrypt S data
  | .responder, data => s.respRecv.decrypt S data

def Session.exchange (s : Session) : List (Side × Bytes) → List Packet × Session
  | [] => ([], s)
  | (sender, p) :: l =>
    let r := s.send S overflowChecks sender p
    let rest := r.2.exchange l
    match r.1 with
    | .ok wire => (⟨sender, p, wire⟩ :: rest.1, rest.2)
    | .error _ => rest

variable {S overflowChecks}

@[simp] theorem NoiseTransportKey.encrypt_key (k : NoiseTransportKey) (p : Bytes) :
    (k.encrypt S overflowChecks p).2.key = k.key := by
  simp only [NoiseTransportKey.encrypt]
  split
  · rfl
  · split <;> rfl

theorem NoiseTransportKey.encrypt_eq (k : NoiseTransportKey) (plaintext : Bytes) :
    (k.encrypt S overflowChecks plaintext).2.nonce =
      (addU64 overflowChecks k.nonce 1).getD k.nonce ∧
    ((k.encrypt S overflowChecks plaintext).1.toBool = true →
      (addU64 overflowChecks k.nonce 1).isSome) := by
  simp only [NoiseTransportKey.encrypt]
  cases addU64 overflowChecks k.nonce 1 with
  | none =>
    constructor
    · rfl
    · intro h
      cases h
  | some next =>
    cases S.aeadEncrypt k.key (nonceBytes k.nonce) plaintext with
    | none => exact ⟨rfl, fun _ => rfl⟩
    | some c => exact ⟨rfl, fun _ => rfl⟩

theorem NoiseTransportKey.encrypt_ok (hS : S.Lawful) (k : NoiseTransportKey)
    (hp : p.length ≤ aeadMaxPlaintext)
    (hroom : overflowChecks = true → k.nonce.toNat + 1 < 2 ^ 64) : ∃ wire,
      (k.encrypt S overflowChecks p).1 = .ok wire := by
  obtain ⟨c, hc, -⟩ := hS.encrypt_eq_some k.key (nonceBytes k.nonce) hp
  rw [NoiseTransportKey.encrypt]
  cases hnext : addU64 overflowChecks k.nonce 1 with
  | none =>
    obtain ⟨hchecks, hfull⟩ := addU64_eq_none.mp hnext
    exact (Nat.not_lt.mpr hfull (hroom hchecks)).elim
  | some next =>
    dsimp only
    rw [hc]
    exact ⟨_, rfl⟩

theorem NoiseTransportKey.encrypt_nonce_le (k : NoiseTransportKey) (p : Bytes) :
    (k.encrypt S true p).2.nonce.toNat ≤ k.nonce.toNat + 1 := by
  rw [(NoiseTransportKey.encrypt_eq k p).1]
  cases hnext : addU64 true k.nonce 1 with
  | none => exact Nat.le_succ _
  | some next => exact (addU64_fits hnext).le

theorem NoiseTransportKey.decrypt_encrypt (hS : S.Lawful) {k k' : NoiseTransportKey}
    (hk : k'.key = k.key) (h : (k.encrypt S overflowChecks p).1 = .ok wire) :
    k'.decrypt S wire = some p := by
  simp only [NoiseTransportKey.encrypt] at h
  split at h
  · cases h
  · split at h
    · cases h
    · next c hc =>
      cases h
      have hl : ¬ ((nonceBytes k.nonce).bytes ++ c).length < 12 := by
        rw [List.length_append, ByteArr.length_eq]
        omega
      rw [NoiseTransportKey.decrypt, if_neg hl, ByteArr.ofSlice_append, ByteArr.drop_append, hk]
      exact hS.decrypt_encrypt _ _ _ _ hc

def Session.sendKey (s : Session) : Side → NoiseTransportKey
  | .initiator => s.initSend
  | .responder => s.respSend

theorem Session.send_eq (s : Session) (sender : Side) (p : Bytes) :
    (s.send S overflowChecks sender p).1 = ((s.sendKey sender).encrypt S overflowChecks p).1 := by
  cases sender with
  | initiator => rfl
  | responder => rfl

theorem Session.send_nonce_le (s : Session) (sender side : Side) (p : Bytes) :
    ((s.send S true sender p).2.sendKey side).nonce.toNat ≤
      (s.sendKey side).nonce.toNat + if sender = side then 1 else 0 := by
  cases sender with
  | initiator =>
    cases side with
    | initiator => exact NoiseTransportKey.encrypt_nonce_le s.initSend p
    | responder => exact Nat.le_refl _
  | responder =>
    cases side with
    | initiator => exact Nat.le_refl _
    | responder => exact NoiseTransportKey.encrypt_nonce_le s.respSend p

theorem Session.exchange_nonce_le (s : Session) (sent : List (Side × Bytes)) (side : Side) :
    ((s.exchange S true sent).2.sendKey side).nonce.toNat ≤
      (s.sendKey side).nonce.toNat + sent.countP (fun m => m.1 = side) := by
  induction sent generalizing s with
  | nil => exact Nat.le_refl _
  | cons m sent ih =>
    have hsend := s.send_nonce_le (S := S) m.1 side m.2
    have hrest := ih (s.send S true m.1 m.2).2
    have hexchange : (s.exchange S true (m :: sent)).2 =
        ((s.send S true m.1 m.2).2.exchange S true sent).2 := by
      rw [Session.exchange]
      split <;> rfl
    rw [hexchange, List.countP_cons]
    simp only [decide_eq_true_eq]
    omega

variable (S overflowChecks) in
/-- After any exchange a plaintext that fits is encrypted; overflow checks leave a side room for
`2^64 - 1` sends. -/
def Session.Encrypts (s : Session) : Prop :=
  ∀ (sent : List (Side × Bytes)) (sender : Side) (p : Bytes), p.length ≤ aeadMaxPlaintext →
    (overflowChecks = true → sent.countP (fun m => m.1 = sender) < 2 ^ 64 - 1) →
      ∃ wire, ((s.exchange S overflowChecks sent).2.send S overflowChecks sender p).1 = .ok wire

theorem Session.encrypts (hS : S.Lawful) {s : Session} (hnew : ∀ side, (s.sendKey side).nonce = 0) :
    s.Encrypts S overflowChecks := by
  intro sent sender p hp hroom
  rw [Session.send_eq]
  apply NoiseTransportKey.encrypt_ok hS _ hp
  rintro rfl
  have hcount := s.exchange_nonce_le (S := S) sent sender
  have hzero : (0 : UInt64).toNat = 0 := rfl
  rw [hnew sender, hzero] at hcount
  have hsends := hroom rfl
  omega

def Session.SameKeys (s s' : Session) : Prop :=
  s'.initSend.key = s.initSend.key ∧ s'.initRecv.key = s.initRecv.key ∧
    s'.respSend.key = s.respSend.key ∧ s'.respRecv.key = s.respRecv.key

theorem Session.SameKeys.trans {s s' s'' : Session} (h : s.SameKeys s') (h' : s'.SameKeys s'') :
    s.SameKeys s'' :=
  ⟨h'.1.trans h.1, h'.2.1.trans h.2.1, h'.2.2.1.trans h.2.2.1, h'.2.2.2.trans h.2.2.2⟩

theorem Session.send_sameKeys (s : Session) (sender : Side) (p : Bytes) :
    s.SameKeys (s.send S overflowChecks sender p).2 := by
  cases sender with
  | initiator => exact ⟨NoiseTransportKey.encrypt_key _ _, rfl, rfl, rfl⟩
  | responder => exact ⟨rfl, rfl, NoiseTransportKey.encrypt_key _ _, rfl⟩

theorem Session.exchange_sameKeys (s : Session) (l : List (Side × Bytes)) :
    s.SameKeys (s.exchange S overflowChecks l).2 := by
  induction l generalizing s with
  | nil => exact ⟨rfl, rfl, rfl, rfl⟩
  | cons m l ih =>
    have h := (s.send_sameKeys m.1 m.2).trans (ih (s.send S overflowChecks m.1 m.2).2)
    simp only [Session.exchange]
    split <;> exact h

theorem Session.receive_send (hS : S.Lawful) {s s' : Session} (hc : s.Crossed)
    (hk : s.SameKeys s') (h : (s.send S overflowChecks sender p).1 = .ok wire) :
    s'.receive S sender.other wire = some p := by
  cases sender with
  | initiator => exact NoiseTransportKey.decrypt_encrypt hS (hk.2.2.2.trans hc.1.symm) h
  | responder => exact NoiseTransportKey.decrypt_encrypt hS (hk.2.1.trans hc.2.symm) h

theorem Session.Crossed.sameKeys {s s' : Session} (h : s.Crossed) (hk : s.SameKeys s') :
    s'.Crossed :=
  ⟨by rw [hk.1, h.1, hk.2.2.2], by rw [hk.2.2.1, h.2, hk.2.1]⟩

/-- Every packet of an exchange opens at its receiver, at the end and in any later state. -/
theorem Session.exchange_delivers (hS : S.Lawful) {s s' : Session} (hc : s.Crossed)
    (hk : s.SameKeys s') (l : List (Side × Bytes)) :
    ∀ packet ∈ (s.exchange S overflowChecks l).1,
      s'.receive S packet.sender.other packet.wire = some packet.plaintext := by
  induction l generalizing s with
  | nil => exact fun packet hp => (List.not_mem_nil hp).elim
  | cons m l ih =>
    have hs : s.SameKeys (s.send S overflowChecks m.1 m.2).2 := s.send_sameKeys m.1 m.2
    have hk' : (s.send S overflowChecks m.1 m.2).2.SameKeys s' :=
      ⟨hk.1.trans hs.1.symm, hk.2.1.trans hs.2.1.symm, hk.2.2.1.trans hs.2.2.1.symm,
        hk.2.2.2.trans hs.2.2.2.symm⟩
    have hrest := ih (hc.sameKeys hs) hk'
    simp only [Session.exchange]
    split
    · next wire hw =>
      intro packet hp
      rcases List.mem_cons.mp hp with he | hp
      · rw [he]
        exact Session.receive_send hS hc hk hw
      · exact hrest packet hp
    · exact hrest

variable (S overflowChecks) in
/-- Both directions work for every sequence of sends, with packets received at any later time. -/
def Session.Delivers (s : Session) : Prop :=
  ∀ sent later, ∀ packet ∈ (s.exchange S overflowChecks sent).1,
    ((s.exchange S overflowChecks sent).2.exchange S overflowChecks later).2.receive S
      packet.sender.other packet.wire = some packet.plaintext

theorem Session.Crossed.delivers (hS : S.Lawful) {s : Session} (h : s.Crossed) :
    s.Delivers S overflowChecks := by
  intro sent later
  exact Session.exchange_delivers hS h
    ((s.exchange_sameKeys sent).trans (Session.exchange_sameKeys _ later)) sent

end Exchange

section HonestRun
variable {S : CryptoSuite}

structure HonestRun (si sr : NoiseStaticKeypair S) (ei er : S.Secret) (nonce : ByteArr 12) where
  message : Bytes
  initiator : NoiseIKHandshake S
  learned : ByteArr 32
  responder : NoiseIKHandshake S
  reply : Bytes
  respKeys : NoiseTransportKey × NoiseTransportKey
  responderDone : NoiseIKHandshake S
  initKeys : NoiseTransportKey × NoiseTransportKey
  initiatorDone : NoiseIKHandshake S
  built : (NoiseIKHandshake.initiator si sr.publicKey).buildInitiatorMessage ei nonce =
    (.ok message, initiator)
  accepted : (NoiseIKHandshake.responder sr).processInitiatorMessage message =
    (.ok learned, responder)
  replied : responder.buildResponderMessage er = (.ok (reply, respKeys), responderDone)
  finished : initiator.processResponderMessage reply = (.ok initKeys, initiatorDone)

def HonestRun.session {si sr : NoiseStaticKeypair S} (run : HonestRun si sr ei er n) : Session :=
  ⟨run.initKeys.1, run.initKeys.2, run.respKeys.1, run.respKeys.2⟩

def ikSecrets (si sr : NoiseStaticKeypair S) (ei er : S.Secret) : IkSecrets S :=
  ⟨si.secret, sr.secret, ei, er⟩

def ikChainingKey (x : IkSecrets S) : ByteArr 32 :=
  [x.es, x.ss, x.ee, x.se].foldl (mixKey S) protocolName

structure HonestRun.Agrees {si sr : NoiseStaticKeypair S} (run : HonestRun si sr ei er n) :
    Prop where
  learned : run.learned = si.publicKey
  completed : Completed run.initiatorDone run.responderDone
  chainingKey : run.responderDone.chainingKey = ikChainingKey (ikSecrets si sr ei er)
  initKeys : run.initKeys =
    (.new (split S run.initiatorDone.chainingKey).1, .new (split S run.initiatorDone.chainingKey).2)
  respKeys : run.respKeys =
    (.new (split S run.responderDone.chainingKey).2, .new (split S run.responderDone.chainingKey).1)

theorem honestRun_exists (hS : S.Lawful) (si sr : NoiseStaticKeypair S) (ei er : S.Secret)
    (n : ByteArr 12) : ∃ run : HonestRun si sr ei er n, run.Agrees := by
  obtain ⟨c, i, hc, hcl, hb, his, hik, hie, hit⟩ := buildInitiatorMessage_absorbs hS
    (ikSecrets si sr ei er) n (i := .initiator si sr.publicKey) rfl sr.public_eq rfl
  obtain ⟨r, ha, hrs, hre, hrp, hrt⟩ := processInitiatorMessage_absorbs hS
    (ikSecrets si sr ei er) (r := .responder sr) rfl rfl hc
  have hw : AwaitingReply (ikSecrets si sr ei er) i r :=
    ⟨his, hrs, by rw [hik]; rfl, hie, hre, hrp, hit.trans hrt.symm⟩
  obtain ⟨reply, i', r', hd, ht, hr, hf⟩ := hw.reply hS
  refine ⟨⟨_, i, _, r, reply, _, r', _, i', hb, ha, hr, hf⟩,
    ⟨si.public_eq.symm, hd, ?_, rfl, rfl⟩⟩
  have hck := congrArg Transcript.chainingKey (hd.transcripts.symm.trans ht)
  rw [hit, absorb, absorb, ← Transcript.mixAll_append, Transcript.mixAll_chainingKey] at hck
  exact hck

theorem HonestRun.unique {si sr : NoiseStaticKeypair S} (run run' : HonestRun si sr ei er n) :
    run = run' := by
  obtain ⟨m, i, p, r, m', rk, r', ik, i', hb, ha, hr, hf⟩ := run
  obtain ⟨_, _, _, _, _, _, _, _, _, hb', ha', hr', hf'⟩ := run'
  cases hb.symm.trans hb'
  cases ha.symm.trans ha'
  cases hr.symm.trans hr'
  cases hf.symm.trans hf'
  rfl

theorem HonestRun.agrees (hS : S.Lawful) {si sr : NoiseStaticKeypair S}
    (run : HonestRun si sr ei er n) : run.Agrees := by
  obtain ⟨run', h⟩ := honestRun_exists hS si sr ei er n
  rw [run.unique run']
  exact h

theorem HonestRun.Agrees.crossed {si sr : NoiseStaticKeypair S} {run : HonestRun si sr ei er n}
    (h : run.Agrees) : run.session.Crossed := by
  have hck : run.initiatorDone.chainingKey = run.responderDone.chainingKey :=
    congrArg Transcript.chainingKey h.completed.transcripts
  simp only [Session.Crossed, HonestRun.session, h.initKeys, h.respKeys, hck, and_self]

theorem HonestRun.Agrees.encrypts (hS : S.Lawful) {si sr : NoiseStaticKeypair S}
    {run : HonestRun si sr ei er n} (h : run.Agrees) (overflowChecks : Bool) :
    run.session.Encrypts S overflowChecks := by
  apply Session.encrypts hS
  intro side
  cases side with
  | initiator => exact congrArg (fun keys => keys.1.nonce) h.initKeys
  | responder => exact congrArg (fun keys => keys.1.nonce) h.respKeys

/-- Every honest run completes on both sides in one transcript, with crossed transport keys under
which every send succeeds and is received. -/
theorem honest_run_agreement (hS : S.Lawful) (si sr : NoiseStaticKeypair S) (ei er : S.Secret)
    (n : ByteArr 12) (overflowChecks : Bool) :
    ∃ run : HonestRun si sr ei er n, run.learned = si.publicKey ∧
      run.initiatorDone.chainingKey = run.responderDone.chainingKey ∧
      run.initiatorDone.handshakeHash = run.responderDone.handshakeHash ∧
      run.initKeys.1.key = run.respKeys.2.key ∧ run.respKeys.1.key = run.initKeys.2.key ∧
      run.session.Encrypts S overflowChecks ∧ run.session.Delivers S overflowChecks := by
  obtain ⟨run, h⟩ := honestRun_exists hS si sr ei er n
  have ht := h.completed.transcripts
  exact ⟨run, h.learned, congrArg Transcript.chainingKey ht, congrArg Transcript.hash ht,
    h.crossed.1, h.crossed.2, h.encrypts hS overflowChecks, h.crossed.delivers hS⟩

theorem honest_run_agreement_arithmetic :
    ∃ run : HonestRun (.generate arithmeticSuite (3 : Nat)) (.generate arithmeticSuite (5 : Nat))
        (7 : Nat) (11 : Nat) (.zero 12),
      run.learned = .ofNat 32 3 ∧
      run.initiatorDone.chainingKey = run.responderDone.chainingKey ∧
      run.initiatorDone.handshakeHash = run.responderDone.handshakeHash ∧
      run.initKeys.1.key = run.respKeys.2.key ∧ run.respKeys.1.key = run.initKeys.2.key ∧
      run.session.Encrypts arithmeticSuite false ∧ run.session.Delivers arithmeticSuite false :=
  honest_run_agreement arithmeticSuite_lawful _ _ _ _ _ _

def HonestRun.InitiatorKeysAgree {si sr : NoiseStaticKeypair S} (run : HonestRun si sr ei er n) :
    Prop :=
  ∃ sendKey recvKey, run.initiatorDone.transportKeys = some (sendKey, recvKey) ∧
    sendKey.key = run.initKeys.1.key ∧ recvKey.key = run.initKeys.2.key

def HonestRun.ResponderKeysAgree {si sr : NoiseStaticKeypair S} (run : HonestRun si sr ei er n) :
    Prop :=
  ∃ sendKey recvKey, run.responderDone.transportKeys = some (sendKey, recvKey) ∧
    sendKey.key = run.respKeys.1.key ∧ recvKey.key = run.respKeys.2.key

/-- Sessions that both peers take from `transportKeys` work in both directions. -/
def HonestRun.TransportKeysDeliver {si sr : NoiseStaticKeypair S} (run : HonestRun si sr ei er n)
    (overflowChecks : Bool) : Prop :=
  ∃ initSend initRecv respSend respRecv,
    run.initiatorDone.transportKeys = some (initSend, initRecv) ∧
    run.responderDone.transportKeys = some (respSend, respRecv) ∧
    (Session.mk initSend initRecv respSend respRecv).Delivers S overflowChecks

theorem HonestRun.Agrees.initiator_transportKeys {si sr : NoiseStaticKeypair S}
    {run : HonestRun si sr ei er n} (h : run.Agrees) :
    run.initiatorDone.transportKeys = some run.initKeys := by
  rw [NoiseIKHandshake.transportKeys, if_pos h.completed.initState, h.initKeys]

theorem HonestRun.Agrees.responder_transportKeys {si sr : NoiseStaticKeypair S}
    {run : HonestRun si sr ei er n} (h : run.Agrees) :
    run.responderDone.transportKeys = some run.respKeys.swap := by
  rw [NoiseIKHandshake.transportKeys, if_pos h.completed.respState, h.respKeys,
    Prod.swap_prod_mk]

theorem HonestRun.Agrees.responderKeysAgree_iff {si sr : NoiseStaticKeypair S}
    {run : HonestRun si sr ei er n} (h : run.Agrees) :
    run.ResponderKeysAgree ↔ (split S run.responderDone.chainingKey).1 =
      (split S run.responderDone.chainingKey).2 := by
  have hr := h.responder_transportKeys
  constructor
  · rintro ⟨sendKey, recvKey, he, hs, hv⟩
    rw [hr] at he
    cases he
    simpa only [h.respKeys, Prod.fst_swap, NoiseTransportKey.new] using hs
  · intro he
    refine ⟨_, _, hr, ?_, ?_⟩
    · rw [h.respKeys]
      exact he
    · rw [h.respKeys]
      exact he.symm

/-- `transportKeys` returns what the completing call returned always on the initiator, and on
the responder exactly where the two halves of the split are the same bytes. -/
theorem transport_keys_agree_iff (hS : S.Lawful) {si sr : NoiseStaticKeypair S}
    (run : HonestRun si sr ei er n) (overflowChecks : Bool) :
    run.InitiatorKeysAgree ∧
      (run.ResponderKeysAgree ∧ run.TransportKeysDeliver overflowChecks ↔
        (split S (ikChainingKey (ikSecrets si sr ei er))).1 =
          (split S (ikChainingKey (ikSecrets si sr ei er))).2) := by
  have h := run.agrees hS
  have hi := h.initiator_transportKeys
  refine ⟨⟨_, _, hi, rfl, rfl⟩, ?_⟩
  rw [← h.chainingKey, h.responderKeysAgree_iff]
  refine ⟨fun hk => hk.1, fun he => ⟨he, ?_⟩⟩
  have hr := h.responder_transportKeys
  have hswap : run.respKeys.swap = run.respKeys := by
    rw [h.respKeys, Prod.swap_prod_mk, he]
  rw [hswap] at hr
  exact ⟨_, _, _, _, hi, hr, h.crossed.delivers hS⟩

theorem transport_keys_agree_iff_arithmetic :
    ∃ run : HonestRun (.generate arithmeticSuite (3 : Nat)) (.generate arithmeticSuite (5 : Nat))
        (7 : Nat) (11 : Nat) (.zero 12),
      run.InitiatorKeysAgree ∧
        (run.ResponderKeysAgree ∧ run.TransportKeysDeliver false ↔
          (split arithmeticSuite (ikChainingKey (ikSecrets (.generate arithmeticSuite (3 : Nat))
            (.generate arithmeticSuite (5 : Nat)) (7 : Nat) (11 : Nat)))).1 =
          (split arithmeticSuite (ikChainingKey (ikSecrets (.generate arithmeticSuite (3 : Nat))
            (.generate arithmeticSuite (5 : Nat)) (7 : Nat) (11 : Nat)))).2) := by
  obtain ⟨run, h⟩ := honestRun_exists arithmeticSuite_lawful
    (.generate arithmeticSuite (3 : Nat)) (.generate arithmeticSuite (5 : Nat))
    (7 : Nat) (11 : Nat) (.zero 12)
  exact ⟨run, transport_keys_agree_iff arithmeticSuite_lawful run false⟩

theorem responder_transport_keys_exchanged :
    ∃ run : HonestRun (.generate arithmeticSuite (3 : Nat)) (.generate arithmeticSuite (5 : Nat))
        (7 : Nat) (11 : Nat) (.zero 12), ¬ run.ResponderKeysAgree := by
  obtain ⟨run, h⟩ := honestRun_exists arithmeticSuite_lawful
    (.generate arithmeticSuite (3 : Nat)) (.generate arithmeticSuite (5 : Nat))
    (7 : Nat) (11 : Nat) (.zero 12)
  refine ⟨run, ?_⟩
  rw [h.responderKeysAgree_iff, h.chainingKey]
  decide +kernel

end HonestRun

end P2PMesh.Noise
