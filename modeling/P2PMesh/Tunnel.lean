import Mathlib.Data.List.Perm.Basic
import P2PMesh.Base.Machine
import P2PMesh.Punching

namespace P2PMesh.Tunnel
open P2PMesh.Base P2PMesh.Puncher
set_option autoImplicit true

structure SessionKey where
  key : ByteArr 32
deriving DecidableEq

def SessionKey.generate (random : ByteArr 32) : SessionKey := ⟨random⟩

section Crypto
variable (S : CryptoSuite)

def encrypt (key : SessionKey) (nonceBytes : ByteArr 12) (plaintext : Bytes) :
    Except String Bytes :=
  match S.aeadEncrypt key.key nonceBytes plaintext with
  | none => .error "ChaCha20Poly1305 encryption failed"
  | some ciphertext => .ok (nonceBytes.bytes ++ ciphertext)

def decrypt (key : SessionKey) (data : Bytes) : Option Bytes :=
  if data.length < 12 then none
  else S.aeadDecrypt key.key (.ofSlice 12 data) (data.drop 12)

end Crypto

structure P2PTunnel where
  peerAddr : SocketAddr
  sessionKey : SessionKey
  bytesSent : UInt64
  bytesReceived : UInt64
deriving DecidableEq

def P2PTunnel.new (peerAddr : SocketAddr) (sessionKey : SessionKey) : P2PTunnel :=
  ⟨peerAddr, sessionKey, 0, 0⟩

section Tunnel
variable (S : CryptoSuite) (overflowChecks : Bool)

/-- `none` is the panic of the byte counter. -/
def P2PTunnel.encapsulate (self : P2PTunnel) (nonceBytes : ByteArr 12) (plaintext : Bytes) :
    Option (Option Bytes × P2PTunnel) :=
  match encrypt S self.sessionKey nonceBytes plaintext with
  | .error _ => some (none, self)
  | .ok encrypted =>
    match addU64 overflowChecks self.bytesSent (.ofNat plaintext.length) with
    | none => none
    | some bytesSent => some (some encrypted, { self with bytesSent := bytesSent })

def P2PTunnel.decapsulate (self : P2PTunnel) (ciphertext : Bytes) :
    Option (Option Bytes × P2PTunnel) :=
  match decrypt S self.sessionKey ciphertext with
  | none => some (none, self)
  | some plaintext =>
    match addU64 overflowChecks self.bytesReceived (.ofNat plaintext.length) with
    | none => none
    | some bytesReceived =>
      some (some plaintext, { self with bytesReceived := bytesReceived })

end Tunnel

inductive PathType where
  | direct
  | relay
  | localPath
deriving DecidableEq

inductive PathCall where
  | registerPath (peerId : String) (pathType : PathType) (addr : SocketAddr)
  | markActive (peerId : String) (pathType : PathType)
deriving DecidableEq

/-- What one establishment gets from outside: the STUN answer, the variable
`PUNCH_HMAC_KEY`, the random draws and the rounds of hole punching. -/
structure Environment where
  publicAddr : Except String SocketAddr
  punchHmacKey : Option String
  punchNonce : ByteArr 10
  rounds : List PunchRound
  sessionRandom : ByteArr 32

/-- Ten seconds in nanoseconds. -/
def punchTimeout : Nat := 10 * 1000000000

/-- The outcome and the calls on the multi-path manager; `none` while punching goes on. -/
def establishP2pConnection (S : CryptoSuite) (env : Environment) (peerId ourDeviceId : String)
    (peerCandidates : List Candidate) (relayAddr : Option SocketAddr) :
    Option (Except String (PathType × SessionKey) × List PathCall) :=
  match env.publicAddr with
  | .error e => some (.error e, [])
  | .ok ourPublic =>
    let registered := PathCall.registerPath peerId .direct ourPublic ::
      (relayAddr.toList.map (PathCall.registerPath peerId .relay))
    -- an unset and an empty variable both give the empty key
    let hmacKey := (env.punchHmacKey.getD "").toUTF8.data.toList
    match executePunch S hmacKey peerId ourDeviceId peerCandidates punchTimeout env.punchNonce
      env.rounds with
    | none => none
    | some (.ok _) =>
      some (.ok (.direct, .generate env.sessionRandom),
        registered ++ [.markActive peerId .direct])
    | some (.error _) =>
      match relayAddr with
      | some _ =>
        some (.ok (.relay, .generate env.sessionRandom),
          registered ++ [.markActive peerId .relay])
      | none =>
        some (.error s!"No path to {peerId} available (punch failed, no relay)", registered)

theorem establish_key (h : establishP2pConnection S env peerId ourDeviceId candidates relay =
    some (.ok (path, key), calls)) : key = .generate env.sessionRandom := by
  simp only [establishP2pConnection] at h
  split at h
  · cases h
  · split at h
    · cases h
    · cases h
      rfl
    · split at h
      · cases h
        rfl
      · cases h

inductive Peer where
  | a
  | b
deriving DecidableEq

def Peer.other : Peer → Peer
  | .a => .b
  | .b => .a

structure Flight where
  sender : Peer
  payload : Bytes
  wire : Bytes

/-- Two tunnels, the packets between them, and each delivered payload with what came out. -/
structure Link where
  tunnel : Peer → P2PTunnel
  inFlight : List Flight
  received : List (Bytes × Option Bytes)

def Link.connect (a b : P2PTunnel) : Link := ⟨fun | .a => a | .b => b, [], []⟩

def Link.setTunnel (l : Link) (p : Peer) (t : P2PTunnel) : Link :=
  { l with tunnel := fun q => if q = p then t else l.tunnel q }

inductive LinkOp where
  | send (sender : Peer) (nonceBytes : ByteArr 12) (payload : Bytes)
  | deliver (index : Nat)

section Link
variable (S : CryptoSuite) (overflowChecks : Bool)

/-- A send puts a packet in flight; a delivery takes any packet in flight out. -/
def Link.step (l : Link) : LinkOp → Link
  | .send sender nonceBytes payload =>
    match (l.tunnel sender).encapsulate S overflowChecks nonceBytes payload with
    | some (some wire, t) =>
      { l.setTunnel sender t with inFlight := l.inFlight ++ [⟨sender, payload, wire⟩] }
    | some (none, t) => l.setTunnel sender t
    | none => l
  | .deliver index =>
    match l.inFlight[index]? with
    | none => l
    | some f =>
      let rest := l.inFlight.eraseIdx index
      match (l.tunnel f.sender.other).decapsulate S overflowChecks f.wire with
      | some (plaintext, t) =>
        { l.setTunnel f.sender.other t with
          inFlight := rest, received := l.received ++ [(f.payload, plaintext)] }
      | none => { l with inFlight := rest, received := l.received ++ [(f.payload, none)] }

/-- In every order of sends and deliveries, whatever is delivered is the payload. -/
def Link.Delivers (l : Link) : Prop :=
  ∀ ops : List LinkOp, ∀ o ∈ (ops.foldl (Link.step S overflowChecks) l).received, o.2 = some o.1

variable {S overflowChecks}

theorem Link.setTunnel_self (l : Link) (p : Peer) : l.setTunnel p (l.tunnel p) = l := by
  have ht : (fun q => if q = p then l.tunnel p else l.tunnel q) = l.tunnel := by
    funext q
    split
    · next hq => rw [hq]
    · rfl
  rw [Link.setTunnel, ht]

theorem encrypt_eq_ok (h : encrypt S key nonce p = .ok wire) :
    ∃ c, S.aeadEncrypt key.key nonce p = some c ∧ wire = nonce.bytes ++ c := by
  unfold encrypt at h
  split at h
  · cases h
  · next c hc =>
    cases h
    exact ⟨c, hc, rfl⟩

theorem decrypt_append (key : SessionKey) (nonce : ByteArr 12) (c : Bytes) :
    decrypt S key (nonce.bytes ++ c) = S.aeadDecrypt key.key nonce c := by
  have hl : ¬ (nonce.bytes ++ c).length < 12 := by
    rw [List.length_append, nonce.length_eq]
    omega
  rw [decrypt, if_neg hl, ByteArr.ofSlice_append, ByteArr.drop_append]

theorem Link.step_send_cases (l : Link) (p : Peer) (nonce : ByteArr 12) (payload : Bytes) :
    l.step S overflowChecks (.send p nonce payload) = l ∨
      ∃ c n, S.aeadEncrypt (l.tunnel p).sessionKey.key nonce payload = some c ∧
        addU64 overflowChecks (l.tunnel p).bytesSent (.ofNat payload.length) = some n ∧
        l.step S overflowChecks (.send p nonce payload) =
          { l.setTunnel p { l.tunnel p with bytesSent := n } with
            inFlight := l.inFlight ++ [⟨p, payload, nonce.bytes ++ c⟩] } := by
  simp only [Link.step, P2PTunnel.encapsulate]
  cases he : encrypt S (l.tunnel p).sessionKey nonce payload with
  | error e => exact Or.inl (l.setTunnel_self p)
  | ok wire =>
    obtain ⟨c, hc, hw⟩ := encrypt_eq_ok he
    cases hn : addU64 overflowChecks (l.tunnel p).bytesSent (.ofNat payload.length) with
    | none => exact Or.inl rfl
    | some n =>
      rw [hw]
      exact Or.inr ⟨c, n, hc, rfl, rfl⟩

theorem Link.step_deliver {l : Link} (hf : l.inFlight[i]? = some f)
    (hd : decrypt S (l.tunnel f.sender.other).sessionKey f.wire = some p) :
    l.step S overflowChecks (.deliver i) =
      match addU64 overflowChecks (l.tunnel f.sender.other).bytesReceived (.ofNat p.length) with
      | some n =>
        { l.setTunnel f.sender.other { l.tunnel f.sender.other with bytesReceived := n } with
          inFlight := l.inFlight.eraseIdx i, received := l.received ++ [(f.payload, some p)] }
      | none =>
        { l with inFlight := l.inFlight.eraseIdx i, received := l.received ++ [(f.payload, none)] }
    := by
  simp only [Link.step, hf, P2PTunnel.decapsulate, hd]
  cases addU64 overflowChecks (l.tunnel f.sender.other).bytesReceived (.ofNat p.length) <;> rfl

def Flight.weight (f : Flight) : Nat := (UInt64.ofNat f.payload.length).toNat

def inTransit (p : Peer) (inFlight : List Flight) : Nat :=
  (inFlight.map (fun f => if f.sender = p then f.weight else 0)).sum

theorem inTransit_concat (p : Peer) (l : List Flight) (f : Flight) :
    inTransit p (l ++ [f]) = inTransit p l + if f.sender = p then f.weight else 0 := by
  simp [inTransit]

theorem inTransit_eraseIdx (p : Peer) {l : List Flight} (h : l[i]? = some f) :
    inTransit p l = (if f.sender = p then f.weight else 0) + inTransit p (l.eraseIdx i) := by
  obtain ⟨hi, he⟩ := List.getElem?_eq_some_iff.mp h
  have hp := (List.getElem_cons_eraseIdx_perm hi).map
    (fun f : Flight => if f.sender = p then f.weight else 0)
  rw [inTransit, ← hp.sum_nat, List.map_cons, List.sum_cons, he]
  rfl

/-- Both tunnels hold one key, every packet in flight opens under it, and what a peer has sent
is what the other has received and what is still in flight. -/
structure Link.Agrees (S : CryptoSuite) (overflowChecks : Bool) (key : SessionKey) (l : Link) :
    Prop where
  keys : ∀ p, (l.tunnel p).sessionKey = key
  opens : ∀ f ∈ l.inFlight, decrypt S key f.wire = some f.payload
  counts : overflowChecks = true → ∀ p : Peer,
    (l.tunnel p.other).bytesReceived.toNat + inTransit p l.inFlight = (l.tunnel p).bytesSent.toNat
  received : ∀ o ∈ l.received, o.2 = some o.1

variable {key : SessionKey} {l : Link}

theorem Link.Agrees.connect (a b : SocketAddr) (key : SessionKey) :
    (Link.connect (.new a key) (.new b key)).Agrees S overflowChecks key where
  keys p := by cases p <;> rfl
  opens f hf := (List.not_mem_nil hf).elim
  counts _ p := by cases p <;> rfl
  received o ho := (List.not_mem_nil ho).elim

theorem Peer.other_ne (p : Peer) : p.other ≠ p := by cases p <;> exact nofun

theorem Peer.other_other (p : Peer) : p.other.other = p := by cases p <;> rfl

theorem Peer.eq_or_other (p q : Peer) : q = p ∨ q = p.other := by
  cases p <;> cases q <;> simp [Peer.other]

theorem Link.Agrees.setTunnel_keys (h : l.Agrees S overflowChecks key) {t : P2PTunnel}
    (ht : t.sessionKey = key) (p q : Peer) : ((l.setTunnel p t).tunnel q).sessionKey = key := by
  simp only [Link.setTunnel]
  split
  · exact ht
  · exact h.keys q

theorem Link.Agrees.send (hS : S.Lawful) (h : l.Agrees S overflowChecks key) (p : Peer)
    (nonce : ByteArr 12) (payload : Bytes) :
    (l.step S overflowChecks (.send p nonce payload)).Agrees S overflowChecks key := by
  rcases l.step_send_cases p nonce payload with he | ⟨c, n, hc, hn, he⟩
  · rw [he]
    exact h
  · rw [he]
    constructor
    · exact h.setTunnel_keys (t := { l.tunnel p with bytesSent := n }) (h.keys p) p
    · intro f hf
      rcases List.mem_append.mp hf with hf | hf
      · exact h.opens f hf
      · rw [List.mem_singleton.mp hf, decrypt_append, ← h.keys p]
        exact hS.decrypt_encrypt _ _ _ _ hc
    · intro hover q
      have hq := h.counts hover q
      rw [hover] at hn
      have hfit := addU64_fits hn
      simp only [Link.setTunnel, inTransit_concat]
      rcases p.eq_or_other q with hqp | hqp
      · rw [hqp] at hq ⊢
        rw [if_neg p.other_ne, if_pos rfl, if_pos rfl, hfit, ← hq, Nat.add_assoc]
        rfl
      · rw [hqp, Peer.other_other] at hq ⊢
        rw [if_pos rfl, if_neg p.other_ne, if_neg p.other_ne.symm, Nat.add_zero]
        exact hq
    · exact h.received

theorem Link.Agrees.deliver (h : l.Agrees S overflowChecks key) (i : Nat) :
    (l.step S overflowChecks (.deliver i)).Agrees S overflowChecks key := by
  cases hf : l.inFlight[i]? with
  | none =>
    simp only [Link.step, hf]
    exact h
  | some f =>
    have hd : decrypt S (l.tunnel f.sender.other).sessionKey f.wire = some f.payload := by
      rw [h.keys]
      exact h.opens f (List.mem_of_getElem? hf)
    rw [Link.step_deliver hf hd]
    cases hn : addU64 overflowChecks (l.tunnel f.sender.other).bytesReceived
        (.ofNat f.payload.length) with
    | none =>
      -- the sender's counter bounds what the receiver's can reach
      cases hover : overflowChecks with
      | false =>
        rw [hover, addU64_wraps] at hn
        cases hn
      | true =>
        have hbig := addU64_none hn
        have hq := h.counts hover f.sender
        have hlt := (l.tunnel f.sender).bytesSent.toNat_lt
        rw [inTransit_eraseIdx f.sender hf, if_pos rfl, Flight.weight] at hq
        omega
    | some n =>
      dsimp only
      constructor
      · exact h.setTunnel_keys (t := { l.tunnel f.sender.other with bytesReceived := n })
          (h.keys _) _
      · exact fun f' hf' => h.opens f' (List.mem_of_mem_eraseIdx hf')
      · intro hover q
        have hq := h.counts hover q
        rw [hover] at hn
        have hfit := addU64_fits hn
        rw [inTransit_eraseIdx q hf] at hq
        simp only [Link.setTunnel]
        rcases f.sender.eq_or_other q with hqs | hqs
        · rw [hqs, if_pos rfl, Flight.weight] at hq
          rw [hqs, if_pos rfl, if_neg f.sender.other_ne.symm, hfit]
          omega
        · rw [hqs, Peer.other_other, if_neg f.sender.other_ne.symm] at hq
          rw [hqs, Peer.other_other, if_neg f.sender.other_ne.symm, if_pos rfl]
          change _ = (l.tunnel f.sender.other).bytesSent.toNat
          omega
      · intro o ho
        rcases List.mem_append.mp ho with ho | ho
        · exact h.received o ho
        · rw [List.mem_singleton.mp ho]

theorem Link.Agrees.delivers (hS : S.Lawful) (h : l.Agrees S overflowChecks key) :
    l.Delivers S overflowChecks := by
  intro ops
  have hrun : (ops.foldl (Link.step S overflowChecks) l).Agrees S overflowChecks key := by
    apply run_invariant (I := fun l : Link => l.Agrees S overflowChecks key) _ h
    intro l op hl
    cases op with
    | send p nonce payload => exact hl.send hS p nonce payload
    | deliver i => exact hl.deliver i
  exact hrun.received

theorem addU64_zero (c : Bool) (a : UInt64) : addU64 c 0 a = some a := by
  have hlt := a.toNat_lt
  have hno : ¬ (c && decide (2 ^ 64 ≤ (0 : UInt64).toNat + a.toNat)) = true := by
    simp only [UInt64.toNat_zero, Bool.and_eq_true, decide_eq_true_eq]
    omega
  rw [addU64, if_neg hno, UInt64.zero_add]

theorem P2PTunnel.encapsulate_new (hc : S.aeadEncrypt k n p = some c) (a : SocketAddr) :
    (P2PTunnel.new a ⟨k⟩).encapsulate S overflowChecks n p =
      some (some (n.bytes ++ c), ⟨a, ⟨k⟩, .ofNat p.length, 0⟩) := by
  simp only [P2PTunnel.encapsulate, P2PTunnel.new, encrypt, hc, addU64_zero]

theorem P2PTunnel.decapsulate_new (n : ByteArr 12) (c : Bytes) (b : SocketAddr) :
    ∃ t, (P2PTunnel.new b ⟨k⟩).decapsulate S overflowChecks (n.bytes ++ c) =
      some (S.aeadDecrypt k n c, t) := by
  simp only [P2PTunnel.decapsulate, P2PTunnel.new, decrypt_append]
  cases S.aeadDecrypt k n c with
  | none => exact ⟨_, rfl⟩
  | some p =>
    simp only [addU64_zero]
    exact ⟨_, rfl⟩

theorem Link.not_delivers (hK : S.KeySeparating) (a b : SocketAddr) (hk : k ≠ k') :
    ¬ (Link.connect (.new a ⟨k⟩) (.new b ⟨k'⟩)).Delivers S overflowChecks := by
  obtain ⟨n, p, c, hc, hne⟩ := hK k k' hk
  have hdec : ∃ t, (P2PTunnel.new b ⟨k'⟩).decapsulate S overflowChecks (n.bytes ++ c) =
      some (S.aeadDecrypt k' n c, t) := P2PTunnel.decapsulate_new n c b
  obtain ⟨t, ht⟩ := hdec
  intro h
  have hout := h [.send .a n p, .deliver 0]
  have hsend : (Link.connect (.new a ⟨k⟩) (.new b ⟨k'⟩)).step S overflowChecks (.send .a n p) =
      { (Link.connect (.new a ⟨k⟩) (.new b ⟨k'⟩)).setTunnel .a ⟨a, ⟨k⟩, .ofNat p.length, 0⟩ with
        inFlight := [⟨.a, p, n.bytes ++ c⟩] } := by
    simp only [Link.step, Link.connect, P2PTunnel.encapsulate_new hc]
    rfl
  rw [List.foldl_cons, hsend, List.foldl_cons, List.foldl_nil] at hout
  apply hne
  apply hout (p, S.aeadDecrypt k' n c)
  have hb : (Link.connect (.new a ⟨k⟩) (.new b ⟨k'⟩)).tunnel .b = .new b ⟨k'⟩ := rfl
  simp only [Link.step, Link.setTunnel, List.getElem?_cons_zero, Peer.other, reduceCtorEq,
    ↓reduceIte, hb, ht]
  exact List.mem_append_right _ List.mem_cons_self

end Link

section Establishment
variable {S : CryptoSuite} {overflowChecks : Bool}

/-- Two established tunnels carry every packet exactly when the two ends drew one session key. -/
theorem established_tunnels_deliver_iff (hS : S.Lawful) (hK : S.KeySeparating)
    {envA envB : Environment} {idA idB : String} {candidatesA candidatesB : List Candidate}
    {relayA relayB : Option SocketAddr} {pathA pathB : PathType} {keyA keyB : SessionKey}
    {callsA callsB : List PathCall}
    (hA : establishP2pConnection S envA idB idA candidatesB relayA =
      some (.ok (pathA, keyA), callsA))
    (hB : establishP2pConnection S envB idA idB candidatesA relayB =
      some (.ok (pathB, keyB), callsB)) (addrA addrB : SocketAddr) :
    (Link.connect (.new addrB keyA) (.new addrA keyB)).Delivers S overflowChecks ↔
      envA.sessionRandom = envB.sessionRandom := by
  rw [establish_key hA, establish_key hB]
  constructor
  · intro h
    by_contra hne
    exact Link.not_delivers hK addrB addrA hne h
  · intro he
    rw [he]
    exact (Link.Agrees.connect addrB addrA _).delivers hS

def relayEnvironment (random : ByteArr 32) : Environment :=
  ⟨.ok ⟨.v4 0x08080808#32, 4000⟩, none, .zero 10, [], random⟩

def relayAddress : SocketAddr := ⟨.v4 0x01020304#32, 9000⟩

theorem relayEnvironment_establishes (S : CryptoSuite) (random : ByteArr 32)
    (peerId ourDeviceId : String) :
    establishP2pConnection S (relayEnvironment random) peerId ourDeviceId [] (some relayAddress) =
      some (.ok (.relay, ⟨random⟩),
        [.registerPath peerId .direct ⟨.v4 0x08080808#32, 4000⟩,
          .registerPath peerId .relay relayAddress, .markActive peerId .relay]) := rfl

theorem established_tunnels_deliver_iff_relay :
    (Link.connect (.new relayAddress ⟨.zero 32⟩) (.new relayAddress ⟨.zero 32⟩)).Delivers
        arithmeticSuite true ↔
      (relayEnvironment (.zero 32)).sessionRandom = (relayEnvironment (.zero 32)).sessionRandom :=
  established_tunnels_deliver_iff arithmeticSuite_lawful arithmeticSuite_keySeparating
    (relayEnvironment_establishes _ (.zero 32) "b" "a")
    (relayEnvironment_establishes _ (.zero 32) "a" "b") relayAddress relayAddress

/-- Two ends that fall back to the relay draw two keys, and their tunnels do not connect. -/
theorem established_tunnels_do_not_connect :
    ∃ keyA keyB callsA callsB,
      establishP2pConnection arithmeticSuite (relayEnvironment (.zero 32)) "b" "a" []
        (some relayAddress) = some (.ok (.relay, keyA), callsA) ∧
      establishP2pConnection arithmeticSuite (relayEnvironment (.ofNat 32 1)) "a" "b" []
        (some relayAddress) = some (.ok (.relay, keyB), callsB) ∧
      ¬ (Link.connect (.new relayAddress keyA) (.new relayAddress keyB)).Delivers
        arithmeticSuite true := by
  refine ⟨_, _, _, _, relayEnvironment_establishes _ _ _ _,
    relayEnvironment_establishes _ _ _ _, ?_⟩
  exact Link.not_delivers arithmeticSuite_keySeparating _ _ (by decide)

end Establishment

end P2PMesh.Tunnel
