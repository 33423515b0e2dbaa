import P2PMesh.Tunnel

namespace P2PMesh.Tunnel
open P2PMesh.Base
set_option autoImplicit true

/-- The tunnels by device id, in the order in which the map iterates. -/
structure TunnelManager where
  tunnels : List (String × P2PTunnel)
  nodup : (tunnels.map Prod.fst).Nodup

def TunnelManager.new : TunnelManager := ⟨[], List.nodup_nil⟩

def TunnelManager.get (m : TunnelManager) (deviceId : String) : Option P2PTunnel :=
  m.tunnels.lookup deviceId

/-- The tunnel of a device after its counters have changed; the order of the map stays. -/
def TunnelManager.set (m : TunnelManager) (deviceId : String) (tunnel : P2PTunnel) :
    TunnelManager where
  tunnels := m.tunnels.map (fun e => if e.1 = deviceId then (e.1, tunnel) else e)
  nodup := by
    rw [List.map_map]
    have hf : Prod.fst ∘ (fun e : String × P2PTunnel =>
        if e.1 = deviceId then (e.1, tunnel) else e) = Prod.fst := by
      funext e
      rw [Function.comp]
      split <;> rfl
    rw [hf]
    exact m.nodup

/-- The first tunnel in the map's order to a peer at the address. -/
def TunnelManager.atAddr (m : TunnelManager) (addr : SocketAddr) : Option (String × P2PTunnel) :=
  m.tunnels.find? (fun e => e.2.peerAddr = addr)

/-- What a receive yields: the packet of a peer, nothing, or the panic of a byte counter. -/
inductive Reception where
  | opened (peerId : String) (packet : Bytes)
  | nothing
  | panic
deriving DecidableEq

section Manager
variable (S : CryptoSuite) (overflowChecks : Bool)

/-- The manager after a send, the datagram given to the socket and the result; `report` is what
the socket says to it. -/
def TunnelManager.sendTo (m : TunnelManager) (deviceId : String) (data : Bytes)
    (nonceBytes : ByteArr 12) (report : Except String Nat) :
    TunnelManager × Option (Bytes × SocketAddr) × Except (Fault String) Nat :=
  match m.get deviceId with
  | none => (m, none, .error (.err s!"No tunnel to device {deviceId}"))
  | some tunnel =>
    match tunnel.encapsulate S overflowChecks nonceBytes data with
    | none => (m, none, .error .panic)
    | some (none, tunnel) =>
      (m.set deviceId tunnel, none, .error (.err s!"Encryption failed for device {deviceId}"))
    | some (some encrypted, tunnel) =>
      (m.set deviceId tunnel, some (encrypted, tunnel.peerAddr),
        match report with
        | .ok sent => .ok sent
        | .error e => .error (.err s!"Send failed: {e}"))

/-- The manager after a datagram has come in, and what it yields. -/
def TunnelManager.recvFrom (m : TunnelManager) (data : Bytes) (srcAddr : SocketAddr) :
    TunnelManager × Reception :=
  match m.atAddr srcAddr with
  | none => (m, .nothing)
  | some (peerId, tunnel) =>
    match tunnel.decapsulate S overflowChecks data with
    | none => (m, .panic)
    | some (none, tunnel) => (m.set peerId tunnel, .nothing)
    | some (some packet, tunnel) => (m.set peerId tunnel, .opened peerId packet)

end Manager

section Lookup
variable {m : TunnelManager}

theorem lookup_of_mem {l : List (String × α)} (hn : (l.map Prod.fst).Nodup)
    (h : (key, value) ∈ l) : l.lookup key = some value := by
  induction l with
  | nil => exact (List.not_mem_nil h).elim
  | cons e l ih =>
    obtain ⟨hhead, hrest⟩ := List.nodup_cons.mp hn
    rcases List.mem_cons.mp h with he | hl
    · rw [← he, List.lookup_cons_self]
    · have hne : (key == e.1) = false := by
        rw [beq_eq_false_iff_ne]
        rintro rfl
        exact hhead (List.mem_map.mpr ⟨_, hl, rfl⟩)
      rw [List.lookup_cons, hne]
      exact ih hrest hl

theorem mem_of_lookup {l : List (String × α)} (h : l.lookup key = some value) :
    (key, value) ∈ l := by
  induction l with
  | nil => cases h
  | cons e l ih =>
    obtain ⟨k, v⟩ := e
    rw [List.lookup_cons] at h
    cases hk : key == k with
    | true =>
      rw [hk] at h
      cases h
      rw [beq_iff_eq.mp hk]
      exact List.mem_cons_self
    | false =>
      rw [hk] at h
      exact List.mem_cons_of_mem _ (ih h)

theorem lookup_map_set {l : List (String × α)} (value : α) (key : String) :
    (l.map (fun e => if e.1 = peerId then (e.1, value) else e)).lookup key =
      if key = peerId then (l.lookup key).map (fun _ => value) else l.lookup key := by
  induction l with
  | nil =>
    rw [List.map_nil, List.lookup_nil, Option.map_none, ite_self]
  | cons e l ih =>
    obtain ⟨k, old⟩ := e
    rw [List.map_cons]
    by_cases hk : k = peerId
    · rw [if_pos hk, List.lookup_cons, List.lookup_cons, ih]
      cases hb : key == k with
      | true => exact (if_pos ((beq_iff_eq.mp hb).trans hk)).symm
      | false => rfl
    · rw [if_neg hk, List.lookup_cons, List.lookup_cons, ih]
      cases hb : key == k with
      | true =>
        have hne : key ≠ peerId := fun h => hk ((beq_iff_eq.mp hb).symm.trans h)
        exact (if_neg hne).symm
      | false => rfl

theorem TunnelManager.atAddr_mem (h : m.atAddr addr = some (peerId, tunnel)) :
    (peerId, tunnel) ∈ m.tunnels := List.mem_of_find?_eq_some h

theorem TunnelManager.atAddr_peerAddr (h : m.atAddr addr = some (peerId, tunnel)) :
    tunnel.peerAddr = addr := by
  have hp := List.find?_some h
  exact of_decide_eq_true hp

theorem TunnelManager.get_set (deviceId : String) :
    (m.set peerId tunnel).get deviceId =
      if deviceId = peerId then (m.get deviceId).map (fun _ => tunnel) else m.get deviceId :=
  lookup_map_set tunnel deviceId

theorem TunnelManager.get_set_keep {f : P2PTunnel → β} (hm : (peerId, old) ∈ m.tunnels)
    (hf : f old = f tunnel) (deviceId : String) :
    ((m.set peerId tunnel).get deviceId).map f = (m.get deviceId).map f := by
  rw [TunnelManager.get_set]
  split
  · next hid =>
    have hl : m.get deviceId = some old := by
      rw [hid]
      exact lookup_of_mem m.nodup hm
    rw [hl, Option.map_some, Option.map_some, Option.map_some, hf]
  · rfl

/-- Who the tunnels lead to and under which keys. -/
def TunnelManager.endpoints (m : TunnelManager) : List (String × SocketAddr × SessionKey) :=
  m.tunnels.map (fun e => (e.1, e.2.peerAddr, e.2.sessionKey))

theorem TunnelManager.set_endpoints (hm : (peerId, old) ∈ m.tunnels)
    (ha : tunnel.peerAddr = old.peerAddr) (hk : tunnel.sessionKey = old.sessionKey) :
    (m.set peerId tunnel).endpoints = m.endpoints := by
  rw [TunnelManager.endpoints, TunnelManager.endpoints, TunnelManager.set, List.map_map]
  apply List.map_congr_left
  rintro ⟨k, value⟩ he
  rw [Function.comp]
  by_cases hid : k = peerId
  · rw [if_pos hid]
    cases hid
    have hl := lookup_of_mem m.nodup hm
    rw [lookup_of_mem m.nodup he] at hl
    cases hl
    rw [ha, hk]
  · rw [if_neg hid]

end Lookup

section Calls
variable {S : CryptoSuite} {overflowChecks : Bool} {m : TunnelManager}

theorem decapsulate_keeps {t t' : P2PTunnel}
    (h : t.decapsulate S overflowChecks data = some (packet, t')) :
    t'.peerAddr = t.peerAddr ∧ t'.sessionKey = t.sessionKey ∧ t'.bytesSent = t.bytesSent := by
  rw [P2PTunnel.decapsulate] at h
  split at h
  · cases h
    exact ⟨rfl, rfl, rfl⟩
  · split at h
    · cases h
    · cases h
      exact ⟨rfl, rfl, rfl⟩

theorem encapsulate_keeps {t t' : P2PTunnel}
    (h : t.encapsulate S overflowChecks nonce data = some (packet, t')) :
    t'.peerAddr = t.peerAddr ∧ t'.sessionKey = t.sessionKey := by
  rw [P2PTunnel.encapsulate] at h
  split at h
  · cases h
    exact ⟨rfl, rfl⟩
  · split at h
    · cases h
    · cases h
      exact ⟨rfl, rfl⟩

theorem encapsulate_full {t t' : P2PTunnel}
    (h : t.encapsulate S overflowChecks nonce data = some (wire, t'))
    (hc : addU64 overflowChecks t.bytesSent size = none) :
    addU64 overflowChecks t'.bytesSent size = none := by
  rw [P2PTunnel.encapsulate] at h
  split at h
  · cases h
    exact hc
  · split at h
    · cases h
    · next bytesSent hs =>
      cases h
      exact addU64_none_of_some hc hs

theorem TunnelManager.recvFrom_tunnels (m : TunnelManager) (data : Bytes) (addr : SocketAddr) :
    (m.recvFrom S overflowChecks data addr).1.endpoints = m.endpoints ∧
      ∀ deviceId, ((m.recvFrom S overflowChecks data addr).1.get deviceId).map
        (fun t => (t.peerAddr, t.sessionKey, t.bytesSent)) =
          (m.get deviceId).map (fun t => (t.peerAddr, t.sessionKey, t.bytesSent)) := by
  rw [TunnelManager.recvFrom]
  cases ha : m.atAddr addr with
  | none => exact ⟨rfl, fun _ => rfl⟩
  | some e =>
    obtain ⟨peerId, tunnel⟩ := e
    dsimp only
    cases hd : tunnel.decapsulate S overflowChecks data with
    | none => exact ⟨rfl, fun _ => rfl⟩
    | some result =>
      obtain ⟨packet, tunnel'⟩ := result
      obtain ⟨haddr, hkey, hsent⟩ := decapsulate_keeps hd
      have hm := TunnelManager.atAddr_mem ha
      have hset : (m.set peerId tunnel').endpoints = m.endpoints ∧
          ∀ deviceId, ((m.set peerId tunnel').get deviceId).map
            (fun t => (t.peerAddr, t.sessionKey, t.bytesSent)) =
              (m.get deviceId).map (fun t => (t.peerAddr, t.sessionKey, t.bytesSent)) := by
        refine ⟨TunnelManager.set_endpoints hm haddr hkey, ?_⟩
        apply TunnelManager.get_set_keep hm
        rw [haddr, hkey, hsent]
      cases packet <;> exact hset

theorem TunnelManager.recvFrom_get {t : P2PTunnel} (ht : m.get deviceId = some t) (data : Bytes)
    (addr : SocketAddr) : ∃ t',
      (m.recvFrom S overflowChecks data addr).1.get deviceId = some t' ∧
        t'.bytesSent = t.bytesSent := by
  have hkeep := (@TunnelManager.recvFrom_tunnels S overflowChecks m data addr).2 deviceId
  rw [ht, Option.map_some] at hkeep
  obtain ⟨t', ht', he⟩ := Option.map_eq_some_iff.mp hkeep
  exact ⟨t', ht', congrArg (fun e => e.2.2) he⟩

/-- A packet comes out exactly where the first tunnel at the source address decrypts it and its
byte counter has room. -/
theorem TunnelManager.recvFrom_opened_iff :
    (m.recvFrom S overflowChecks data addr).2 = .opened peerId packet ↔
      ∃ t, m.atAddr addr = some (peerId, t) ∧ decrypt S t.sessionKey data = some packet ∧
        (addU64 overflowChecks t.bytesReceived (.ofNat packet.length)).isSome := by
  rw [TunnelManager.recvFrom]
  cases ha : m.atAddr addr with
  | none =>
    constructor
    · exact fun h => Reception.noConfusion h
    · rintro ⟨t, ht, -⟩
      cases ht
  | some e =>
    obtain ⟨peerId', t⟩ := e
    dsimp only [P2PTunnel.decapsulate]
    cases hd : decrypt S t.sessionKey data with
    | none =>
      constructor
      · exact fun h => Reception.noConfusion h
      · rintro ⟨t', ht, hd', -⟩
        cases ht
        rw [hd] at hd'
        cases hd'
    | some p =>
      dsimp only
      cases hc : addU64 overflowChecks t.bytesReceived (.ofNat p.length) with
      | none =>
        constructor
        · exact fun h => Reception.noConfusion h
        · rintro ⟨t', ht, hd', hc'⟩
          cases ht
          cases hd.symm.trans hd'
          rw [hc] at hc'
          cases hc'
      | some count =>
        constructor
        · intro h
          cases h
          exact ⟨t, rfl, hd, by rw [hc]; rfl⟩
        · rintro ⟨t', ht, hd', -⟩
          cases ht
          cases hd.symm.trans hd'
          rfl

theorem TunnelManager.sendTo_endpoints (m : TunnelManager) (deviceId : String) (data : Bytes)
    (nonce : ByteArr 12) (report : Except String Nat) :
    (m.sendTo S overflowChecks deviceId data nonce report).1.endpoints = m.endpoints := by
  unfold TunnelManager.sendTo
  cases hg : m.get deviceId with
  | none => rfl
  | some tunnel =>
    dsimp only
    cases he : tunnel.encapsulate S overflowChecks nonce data with
    | none => rfl
    | some result =>
      obtain ⟨packet, tunnel'⟩ := result
      obtain ⟨haddr, hkey⟩ := encapsulate_keeps he
      have hset := TunnelManager.set_endpoints (mem_of_lookup hg) haddr hkey
      cases packet <;> exact hset

theorem TunnelManager.sendTo_takes (hS : S.Lawful) {t : P2PTunnel} (ht : m.get deviceId = some t)
    (hl : data.length ≤ aeadMaxPlaintext)
    (hr : (addU64 overflowChecks t.bytesSent (.ofNat data.length)).isSome) (nonce : ByteArr 12)
    (sent : Nat) : ∃ wire,
      (m.sendTo S overflowChecks deviceId data nonce (.ok sent)).2 =
        (some (wire, t.peerAddr), .ok sent) := by
  obtain ⟨c, hc, -⟩ := hS.encrypt_eq_some t.sessionKey.key nonce hl
  obtain ⟨count, hcount⟩ := Option.isSome_iff_exists.mp hr
  have he : t.encapsulate S overflowChecks nonce data =
      some (some (nonce.bytes ++ c), { t with bytesSent := count }) := by
    simp only [P2PTunnel.encapsulate, encrypt, hc, hcount]
  refine ⟨nonce.bytes ++ c, ?_⟩
  simp only [TunnelManager.sendTo, ht, he]

/-- The byte counter of the tunnel to a device has no room for a packet. -/
def TunnelManager.Full (overflowChecks : Bool) (m : TunnelManager) (deviceId : String)
    (packet : Bytes) : Prop :=
  ∃ t, m.get deviceId = some t ∧ addU64 overflowChecks t.bytesSent (.ofNat packet.length) = none

theorem TunnelManager.Full.sendTo_none (h : m.Full overflowChecks deviceId packet)
    (nonce : ByteArr 12) (report : Except String Nat) :
    (m.sendTo S overflowChecks deviceId packet nonce report).2.1 = none := by
  obtain ⟨t, ht, hc⟩ := h
  simp only [TunnelManager.sendTo, ht, P2PTunnel.encapsulate, hc]
  cases encrypt S t.sessionKey nonce packet <;> rfl

theorem TunnelManager.Full.sendTo (h : m.Full overflowChecks deviceId packet)
    (other : String) (data : Bytes) (nonce : ByteArr 12) (report : Except String Nat) :
    (m.sendTo S overflowChecks other data nonce report).1.Full overflowChecks deviceId
      packet := by
  unfold TunnelManager.sendTo
  cases hg : m.get other with
  | none => exact h
  | some t =>
    dsimp only
    cases he : t.encapsulate S overflowChecks nonce data with
    | none => exact h
    | some result =>
      obtain ⟨wire, t'⟩ := result
      have hset : (m.set other t').Full overflowChecks deviceId packet := by
        obtain ⟨old, hold, hc⟩ := h
        by_cases hid : deviceId = other
        · rw [hid, hg] at hold
          cases hold
          refine ⟨t', ?_, encapsulate_full he hc⟩
          rw [TunnelManager.get_set, if_pos hid, hid, hg, Option.map_some]
        · refine ⟨old, ?_, hc⟩
          rw [TunnelManager.get_set, if_neg hid, hold]
      cases wire <;> exact hset

theorem TunnelManager.Full.recvFrom (h : m.Full overflowChecks deviceId packet) (data : Bytes)
    (addr : SocketAddr) :
    (m.recvFrom S overflowChecks data addr).1.Full overflowChecks deviceId packet := by
  obtain ⟨t, ht, hc⟩ := h
  obtain ⟨t', ht', hsent⟩ := @recvFrom_get S overflowChecks m deviceId t ht data addr
  exact ⟨t', ht', by rw [hsent, hc]⟩

end Calls

end P2PMesh.Tunnel
