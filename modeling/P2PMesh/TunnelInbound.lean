import P2PMesh.TunnelManager

namespace P2PMesh.Tunnel
open P2PMesh.Base P2PMesh.Puncher
set_option autoImplicit true

/-- A new tunnel takes the place of the device's old one; where in the map it comes to stand is
not determined. -/
def TunnelManager.AddTunnel (m : TunnelManager) (deviceId : String) (peerAddr : SocketAddr)
    (sessionKey : SessionKey) (m' : TunnelManager) : Prop :=
  m'.tunnels.Perm
    ((deviceId, .new peerAddr sessionKey) :: m.tunnels.filter (fun e => e.1 ≠ deviceId))

/-- The tunnel of the peer is the first in the map's order that leads to its address. -/
def TunnelManager.FirstAt (m : TunnelManager) (peerId : String) (t : P2PTunnel) : Prop :=
  ∃ l₁ l₂, m.tunnels = l₁ ++ (peerId, t) :: l₂ ∧ ∀ e ∈ l₁, e.2.peerAddr ≠ t.peerAddr

section Inbound
variable (S : CryptoSuite) (overflowChecks : Bool)

/-- The receive of a datagram from the tunnel's address yields the payload as this peer's, counts
its length in this tunnel and changes nothing else. -/
def TunnelManager.Attributes (m : TunnelManager) (peerId : String) (t : P2PTunnel)
    (payload wire : Bytes) : Prop :=
  let received := m.recvFrom S overflowChecks wire t.peerAddr
  received.2 = .opened peerId payload ∧
    (∃ count : UInt64, count.toNat = t.bytesReceived.toNat + payload.length ∧
      received.1.get peerId = some { t with bytesReceived := count }) ∧
    ∀ deviceId, deviceId ≠ peerId → received.1.get deviceId = m.get deviceId

variable {S overflowChecks} {m : TunnelManager}

theorem decrypt_encapsulated (hS : S.Lawful) {sender sender' : P2PTunnel}
    (h : sender.encapsulate S overflowChecks nonce payload = some (some wire, sender')) :
    decrypt S sender.sessionKey wire = some payload := by
  rw [P2PTunnel.encapsulate] at h
  split at h
  · cases h
  · next encrypted he =>
    split at h
    · cases h
    · cases h
      obtain ⟨c, hc, hw⟩ := encrypt_eq_ok he
      rw [hw, decrypt_append]
      exact hS.decrypt_encrypt _ _ _ _ hc

theorem addU64_of_room {a b : UInt64} (c : Bool) (h : a.toNat + b.toNat < 2 ^ 64) :
    ∃ s, addU64 c a b = some s ∧ s.toNat = a.toNat + b.toNat := by
  cases hs : addU64 c a b with
  | none =>
    have hle := addU64_none hs
    omega
  | some s =>
    refine ⟨s, rfl, ?_⟩
    rw [addU64_toNat hs, Nat.mod_eq_of_lt h]

theorem TunnelManager.atAddr_iff :
    m.atAddr t.peerAddr = some (peerId, t) ↔ m.FirstAt peerId t := by
  rw [TunnelManager.atAddr, List.find?_eq_some_iff_append, TunnelManager.FirstAt]
  simp only [decide_true, true_and, Bool.not_eq_true', decide_eq_false_iff_not]

theorem TunnelManager.get_of_mem (h : (peerId, t) ∈ m.tunnels) : m.get peerId = some t :=
  lookup_of_mem m.nodup h

theorem TunnelManager.FirstAt.recvFrom {t : P2PTunnel} (h : m.FirstAt peerId t)
    (hd : decrypt S t.sessionKey wire = some payload)
    (hc : addU64 overflowChecks t.bytesReceived (.ofNat payload.length) = some count) :
    m.recvFrom S overflowChecks wire t.peerAddr =
      (m.set peerId { t with bytesReceived := count }, .opened peerId payload) := by
  simp only [TunnelManager.recvFrom, TunnelManager.atAddr_iff.mpr h, P2PTunnel.decapsulate, hd,
    hc]

theorem TunnelManager.Attributes.of_first {t : P2PTunnel} (hm : (peerId, t) ∈ m.tunnels)
    (hd : decrypt S t.sessionKey wire = some payload) (hf : m.FirstAt peerId t)
    (hroom : t.bytesReceived.toNat + payload.length < 2 ^ 64) :
    m.Attributes S overflowChecks peerId t payload wire := by
  have hlen : (UInt64.ofNat payload.length).toNat = payload.length :=
    UInt64.toNat_ofNat_of_lt' (by change payload.length < 2 ^ 64; omega)
  obtain ⟨count, hc, hcount⟩ := addU64_of_room (a := t.bytesReceived)
    (b := .ofNat payload.length) overflowChecks (by rwa [hlen])
  rw [hlen] at hcount
  rw [TunnelManager.Attributes, hf.recvFrom hd hc]
  refine ⟨rfl, ⟨count, hcount, ?_⟩, ?_⟩
  · rw [TunnelManager.get_set, if_pos rfl, TunnelManager.get_of_mem hm, Option.map_some]
  · intro deviceId hne
    rw [TunnelManager.get_set, if_neg hne]

theorem TunnelManager.Attributes.first {t : P2PTunnel} (hm : (peerId, t) ∈ m.tunnels)
    (h : m.Attributes S overflowChecks peerId t payload wire) :
    m.FirstAt peerId t ∧ t.bytesReceived.toNat + payload.length < 2 ^ 64 := by
  obtain ⟨hopened, ⟨count, hcount, -⟩, -⟩ := h
  obtain ⟨t', ht', -⟩ := TunnelManager.recvFrom_opened_iff.mp hopened
  have hsame := TunnelManager.get_of_mem (TunnelManager.atAddr_mem ht')
  rw [TunnelManager.get_of_mem hm] at hsame
  cases hsame
  refine ⟨TunnelManager.atAddr_iff.mp ht', ?_⟩
  rw [← hcount]
  exact count.toNat_lt

theorem TunnelManager.recvFrom_unopened
    (h : ∀ e ∈ m.tunnels, e.2.peerAddr = addr → decrypt S e.2.sessionKey data = none)
    (deviceId : String) :
    (m.recvFrom S overflowChecks data addr).1.get deviceId = m.get deviceId := by
  cases ha : m.atAddr addr with
  | none => simp only [TunnelManager.recvFrom, ha]
  | some e =>
    obtain ⟨peerId, t⟩ := e
    have hm := TunnelManager.atAddr_mem ha
    have hd := h _ hm (TunnelManager.atAddr_peerAddr ha)
    simp only [TunnelManager.recvFrom, ha, P2PTunnel.decapsulate, hd]
    rw [TunnelManager.get_set]
    split
    · next hid =>
      rw [hid, TunnelManager.get_of_mem hm, Option.map_some]
    · rfl

end Inbound

/-- A peer's datagram is attributed to it exactly where its tunnel comes first among those at its
address and the byte counter has room; what no tunnel at the source opens changes nothing. -/
theorem recvFrom_attributes_iff {S : CryptoSuite} (hS : S.Lawful) (overflowChecks : Bool)
    (m : TunnelManager) :
    (∀ peerId t sender sender' nonce payload wire, (peerId, t) ∈ m.tunnels →
      sender.sessionKey = t.sessionKey →
      P2PTunnel.encapsulate S overflowChecks sender nonce payload = some (some wire, sender') →
        (m.Attributes S overflowChecks peerId t payload wire ↔
          m.FirstAt peerId t ∧ t.bytesReceived.toNat + payload.length < 2 ^ 64)) ∧
    ∀ data addr,
      (∀ e ∈ m.tunnels, e.2.peerAddr = addr → decrypt S e.2.sessionKey data = none) →
      ∀ deviceId,
        (m.recvFrom S overflowChecks data addr).1.get deviceId = m.get deviceId := by
  constructor
  · intro peerId t sender sender' nonce payload wire hm hkey hsent
    have hd := decrypt_encapsulated hS hsent
    rw [hkey] at hd
    constructor
    · exact TunnelManager.Attributes.first hm
    · rintro ⟨hf, hroom⟩
      exact TunnelManager.Attributes.of_first hm hd hf hroom
  · intro data addr h deviceId
    exact TunnelManager.recvFrom_unopened h deviceId

def relayedManager : TunnelManager where
  tunnels := [("a", .new relayAddress ⟨.zero 32⟩), ("b", .new relayAddress ⟨.ofNat 32 1⟩)]
  nodup := by decide

theorem recvFrom_attributes_iff_relayed :
    ∃ c, arithmeticSuite.aeadEncrypt (.zero 32) (.zero 12) [7] = some c ∧
      (relayedManager.Attributes arithmeticSuite true "a" (.new relayAddress ⟨.zero 32⟩) [7]
          ((ByteArr.zero 12).bytes ++ c) ↔
        relayedManager.FirstAt "a" (.new relayAddress ⟨.zero 32⟩) ∧ 0 + 1 < 2 ^ 64) := by
  obtain ⟨c, hc, -⟩ := arithmeticSuite_lawful.encrypt_eq_some (p := [7]) (.zero 32) (.zero 12)
    (by decide)
  exact ⟨c, hc, (recvFrom_attributes_iff arithmeticSuite_lawful true relayedManager).1 _ _ _ _ _ _
    _ List.mem_cons_self rfl (P2PTunnel.encapsulate_new hc relayAddress)⟩

/-- The second peer's datagram meets the first peer's tunnel and is dropped. -/
theorem recvFrom_drops_relayed :
    ∃ wire sender', (P2PTunnel.new relayAddress ⟨.ofNat 32 1⟩).encapsulate arithmeticSuite true
        (.zero 12) [7] = some (some wire, sender') ∧
      ¬ relayedManager.Attributes arithmeticSuite true "b" (.new relayAddress ⟨.ofNat 32 1⟩) [7]
        wire := by
  obtain ⟨c, hc, -⟩ := arithmeticSuite_lawful.encrypt_eq_some (p := [7]) (.ofNat 32 1) (.zero 12)
    (by decide)
  refine ⟨_, _, P2PTunnel.encapsulate_new hc relayAddress, ?_⟩
  intro h
  have hmem : ("b", P2PTunnel.new relayAddress ⟨.ofNat 32 1⟩) ∈ relayedManager.tunnels :=
    List.mem_cons_of_mem _ List.mem_cons_self
  have hfirst := TunnelManager.atAddr_iff.mpr (h.first hmem).1
  have ha : relayedManager.atAddr relayAddress = some ("a", .new relayAddress ⟨.zero 32⟩) := rfl
  have hid := congrArg Prod.fst (Option.some.inj (ha.symm.trans hfirst))
  exact absurd hid (by decide)

section Orders
variable {S : CryptoSuite} {overflowChecks : Bool} {m : TunnelManager}

theorem TunnelManager.firstAt_of_unique {t : P2PTunnel} (hm : (peerId, t) ∈ m.tunnels)
    (h : ∀ e ∈ m.tunnels, e.2.peerAddr = t.peerAddr → e.1 = peerId) : m.FirstAt peerId t := by
  obtain ⟨l₁, l₂, hl⟩ := List.append_of_mem hm
  refine ⟨l₁, l₂, hl, ?_⟩
  intro e he haddr
  have hkey := h e (by rw [hl]; exact List.mem_append_left _ he) haddr
  have hnodup := m.nodup
  rw [hl, List.map_append, List.map_cons, List.nodup_append] at hnodup
  exact hnodup.2.2 e.1 (List.mem_map_of_mem he) peerId List.mem_cons_self hkey

/-- The map with one of its tunnels at the front. -/
def TunnelManager.front (m : TunnelManager) (e : String × P2PTunnel) (he : e ∈ m.tunnels) :
    TunnelManager where
  tunnels := e :: m.tunnels.erase e
  nodup := (((List.perm_cons_erase he).map Prod.fst).nodup_iff).mp m.nodup

theorem TunnelManager.front_not_firstAt {t : P2PTunnel} (he : e ∈ m.tunnels)
    (haddr : e.2.peerAddr = t.peerAddr) (hne : e.1 ≠ peerId) :
    ¬ (m.front e he).FirstAt peerId t := by
  rintro ⟨l₁, l₂, hl, hfirst⟩
  cases l₁ with
  | nil =>
    have hhead := (List.cons.inj hl).1
    exact hne (congrArg Prod.fst hhead)
  | cons e' l₁ =>
    have hhead := (List.cons.inj hl).1
    exact hfirst e' List.mem_cons_self (hhead ▸ haddr)

/-- Whatever order the map iterates in, a peer's datagrams are attributed to it exactly where no
other peer's tunnel shares its address. -/
theorem recvFrom_attributes_in_every_order_iff (hS : S.Lawful) {t sender sender' : P2PTunnel}
    (hm : (peerId, t) ∈ m.tunnels) (hkey : sender.sessionKey = t.sessionKey)
    (hsent : sender.encapsulate S overflowChecks nonce payload = some (some wire, sender')) :
    (∀ m' : TunnelManager, m'.tunnels.Perm m.tunnels →
      m'.Attributes S overflowChecks peerId t payload wire) ↔
      (∀ e ∈ m.tunnels, e.2.peerAddr = t.peerAddr → e.1 = peerId) ∧
        t.bytesReceived.toNat + payload.length < 2 ^ 64 := by
  have hd := decrypt_encapsulated hS hsent
  rw [hkey] at hd
  constructor
  · intro h
    refine ⟨?_, ((h m (.refl _)).first hm).2⟩
    intro e he haddr
    by_contra hne
    have hperm : (m.front e he).tunnels.Perm m.tunnels := (List.perm_cons_erase he).symm
    have hfirst := ((h _ hperm).first (hperm.mem_iff.mpr hm)).1
    exact TunnelManager.front_not_firstAt he haddr hne hfirst
  · rintro ⟨hunique, hroom⟩ m' hperm
    have hm' := hperm.mem_iff.mpr hm
    have hfirst := TunnelManager.firstAt_of_unique hm'
      (fun e he => hunique e (hperm.mem_iff.mp he))
    exact TunnelManager.Attributes.of_first hm' hd hfirst hroom

end Orders

end P2PMesh.Tunnel
