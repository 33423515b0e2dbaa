import P2PMesh.Base.Run
import P2PMesh.Overlay

namespace P2PMesh.Overlay
open P2PMesh.Base P2PMesh.Router P2PMesh.Tunnel
set_option autoImplicit true

section Policy
variable (S : CryptoSuite) (N : Ipnet) (overflowChecks : Bool)
  (toLowercase : String → String) (classify : Bytes → String × UInt16)

/-- The policy denies an IPv4 packet between two registered peers; `classify` tells its protocol
and its destination port. -/
def OverlayNetwork.denies (o : OverlayNetwork) (acl : Acl.AclEngine) (packet : Bytes) : Bool :=
  match extractDstIp packet, o.getPeerByIp (ipAt packet 12), o.getPeerByIp (ipAt packet 16) with
  | some _, some src, some dst =>
    !acl.check toLowercase ⟨src, dst, (classify packet).1, (classify packet).2⟩
  | _, _, _ => false

/-- The loops route no denied packet to a peer and open none from a tunnel. -/
def Node.Screened (n : Node) : NodeOp → Prop
  | .outboundRoute => ∀ dstIp packet, n.outbound = .routing dstIp packet →
      (n.routeTable.lookup N dstIp).isSome → n.denies toLowercase classify n.acl packet = false
  | .inboundReceive => n.inbound = .receiving → n.mutex.holder = some .inbound →
      ∀ e ∈ n.socketQueue.head?, ∀ peerId tunnel packet,
        n.tunnelManager.atAddr e.2.srcAddr = some (peerId, tunnel) →
        decrypt S tunnel.sessionKey e.2.data = some packet →
        (addU64 overflowChecks tunnel.bytesReceived (.ofNat packet.length)).isSome →
        n.denies toLowercase classify n.acl packet = false
  | _ => True

/-- No denied packet has been handed to a tunnel or written to the interface. -/
def Node.Mediated (n : Node) : Prop :=
  (∀ h ∈ n.handed, n.denies toLowercase classify n.acl h.packet = false) ∧
    ∀ w ∈ n.tunWrites, n.denies toLowercase classify n.acl w.2 = false

/-- Only packets of a kind have been handed over or written or are about to be. -/
structure Node.Handles (P : Bytes → Prop) (n : Node) : Prop where
  handed : ∀ h ∈ n.handed, P h.packet
  written : ∀ w ∈ n.tunWrites, P w.2
  sending : ∀ peerId packet, n.outbound = .sending peerId packet → P packet
  writing : ∀ w ∈ n.inbound.held, P w.2

variable {S N overflowChecks toLowercase classify} {n n' : Node} {P : Bytes → Prop}

theorem Node.Handles.effect (h : n.Handles P) (he : n.Effect S N overflowChecks op n')
    (hroute : op = .outboundRoute → ∀ dstIp packet, n.outbound = .routing dstIp packet →
      (n.routeTable.lookup N dstIp).isSome → P packet)
    (hopen : op = .inboundReceive → n.inbound = .receiving → n.mutex.holder = some .inbound →
      ∀ e ∈ n.socketQueue.head?, ∀ peerId packet,
        (n.tunnelManager.recvFrom S overflowChecks e.2.data e.2.srcAddr).2 =
          .opened peerId packet → P packet) : n'.Handles P := by
  obtain ⟨hhanded, hwritten, hsending, hwriting⟩ := h
  have hnone : ∀ w ∈ ([] : List (Nat × Bytes)), P w.2 :=
    fun w hw => (List.not_mem_nil hw).elim
  cases he with
  | idle => exact ⟨hhanded, hwritten, hsending, hwriting⟩
  | tunArrival => exact ⟨hhanded, hwritten, hsending, hwriting⟩
  | datagramArrival => exact ⟨hhanded, hwritten, hsending, hwriting⟩
  | addRoute => exact ⟨hhanded, hwritten, hsending, hwriting⟩
  | readOther => exact ⟨hhanded, hwritten, hsending, hwriting⟩
  | taken => exact ⟨hhanded, hwritten, hsending, hwriting⟩
  | readPacket => exact ⟨hhanded, hwritten, fun _ _ hs => Outbound.noConfusion hs, hwriting⟩
  | readError => exact ⟨hhanded, hwritten, fun _ _ hs => Outbound.noConfusion hs, hwriting⟩
  | unrouted => exact ⟨hhanded, hwritten, fun _ _ hs => Outbound.noConfusion hs, hwriting⟩
  | @routed dstIp packet route ho hl =>
    refine ⟨hhanded, hwritten, ?_, hwriting⟩
    intro peerId packet' hs
    cases hs
    exact hroute rfl dstIp packet ho (by rw [hl]; rfl)
  | @sent peerId packet next log nonceBytes report ho hm hnext hlog =>
    refine ⟨?_, hwritten, ?_, hwriting⟩
    · intro c hc
      rcases List.mem_append.mp hc with hold | hnew
      · exact hhanded c hold
      · cases List.mem_singleton.mp hnew
        exact hsending peerId packet ho
    · rintro peerId' packet' rfl
      rcases hnext with hs | hs <;> cases hs
  | locked => exact ⟨hhanded, hwritten, hsending, hnone⟩
  | @opened serial d rest peerId packet hi hm hq hr =>
    refine ⟨hhanded, hwritten, hsending, ?_⟩
    intro w hw
    cases List.mem_singleton.mp hw
    exact hopen rfl hi hm (serial, d) (by rw [hq]; rfl) peerId packet hr
  | refused hi hm hq hr hnext =>
    refine ⟨hhanded, hwritten, hsending, ?_⟩
    rcases hnext with rfl | rfl <;> exact hnone
  | @written serial peerId packet hi =>
    refine ⟨hhanded, ?_, hsending, hnone⟩
    intro w hmem
    rcases List.mem_append.mp hmem with hold | hnew
    · exact hwritten w hold
    · apply hwriting
      rw [hi]
      exact hnew
  | woken => exact ⟨hhanded, hwritten, hsending, hnone⟩

theorem Node.denies_eq {o : OverlayNetwork} {acl : Acl.AclEngine} (hacl : n.acl = acl)
    (hp : n.ipToPeer = o.ipToPeer) (packet : Bytes) : n.denies toLowercase classify n.acl packet =
      o.denies toLowercase classify acl packet := by
  simp only [OverlayNetwork.denies, OverlayNetwork.getPeerByIp, hacl, hp]

/-- Every run that routes and opens no denied packet hands none over and writes none. -/
theorem Node.run_mediated (o : OverlayNetwork) (acl : Acl.AclEngine) {ops : List NodeOp}
    (hg : Guarded (Node.step S N overflowChecks)
      (Node.Screened S N overflowChecks toLowercase classify) (.start o acl) ops) :
    (Node.run S N overflowChecks (.start o acl) ops).Mediated toLowercase classify := by
  let P : Bytes → Prop := fun packet => o.denies toLowercase classify acl packet = false
  let I : Node → Prop := fun n => n.Handles P ∧ n.acl = acl ∧ n.ipToPeer = o.ipToPeer
  have hstart : I (.start o acl) :=
    ⟨⟨fun _ h => (List.not_mem_nil h).elim, fun _ h => (List.not_mem_nil h).elim,
      fun _ _ h => Outbound.noConfusion h, fun _ h => (List.not_mem_nil h).elim⟩, rfl, rfl⟩
  have hrun := hg.invariant (I := I) hstart (fun n op h hop => by
    obtain ⟨hh, hacl, hp⟩ := h
    obtain ⟨hacl', hp', -⟩ := @Node.step_config S N overflowChecks n op
    refine ⟨hh.effect (n.step_effect op) ?_ ?_, hacl'.trans hacl, hp'.trans hp⟩
    · rintro rfl dstIp packet ho hl
      exact (Node.denies_eq hacl hp packet).symm.trans (hop dstIp packet ho hl)
    · rintro rfl hi hm e he peerId packet hr
      obtain ⟨tunnel, ht, hd, hroom⟩ := TunnelManager.recvFrom_opened_iff.mp hr
      exact (Node.denies_eq hacl hp packet).symm.trans
        (hop hi hm e he peerId tunnel packet ht hd hroom))
  obtain ⟨hh, hacl, hp⟩ := hrun
  exact ⟨fun c hc => (Node.denies_eq hacl hp _).trans (hh.handed c hc),
    fun w hw => (Node.denies_eq hacl hp _).trans (hh.written w hw)⟩

theorem OverlayNetwork.processOutbound_respects_iff (o : OverlayNetwork) (acl : Acl.AclEngine)
    (packet : Bytes) (nonceBytes : ByteArr 12) (report : Except String Nat) :
    (∀ h ∈ (o.processOutbound S N overflowChecks packet nonceBytes report).2.1,
      o.denies toLowercase classify acl h.packet = false) ↔
    (o.denies toLowercase classify acl packet = false ∨
      ∀ dstIp, extractDstIp packet = some dstIp → o.routeTable.lookup N dstIp = none) := by
  simp only [OverlayNetwork.processOutbound]
  cases hx : extractDstIp packet with
  | none =>
    refine iff_of_true (fun h hh => (List.not_mem_nil hh).elim) (Or.inr ?_)
    intro dstIp hd
    cases hd
  | some dstIp =>
    dsimp only
    cases hl : o.routeTable.lookup N dstIp with
    | none =>
      refine iff_of_true (fun h hh => (List.not_mem_nil hh).elim) (Or.inr ?_)
      intro dstIp' hd
      cases hd
      exact hl
    | some route =>
      constructor
      · exact fun h => Or.inl (h _ (List.mem_singleton_self _))
      · rintro (hd | hno) h hh
        · cases List.mem_singleton.mp hh
          exact hd
        · rw [hno dstIp rfl] at hl
          cases hl

theorem OverlayNetwork.processInbound_respects_iff (o : OverlayNetwork) (acl : Acl.AclEngine)
    (packet : Bytes) (report : Except String Nat) :
    (∀ p ∈ (o.processInbound packet report).1, o.denies toLowercase classify acl p = false) ↔
      o.denies toLowercase classify acl packet = false := by
  constructor
  · exact fun h => h packet (List.mem_singleton_self _)
  · intro h p hp
    cases List.mem_singleton.mp hp
    exact h

/-- The policy is respected by an outbound call where it does not deny the packet or no route
takes it, by an inbound call where it does not deny the packet, and by every run of the loops
that routes and opens no denied packet. -/
theorem policy_respected_iff (o : OverlayNetwork) (acl : Acl.AclEngine) :
    (∀ packet nonceBytes report,
      (∀ h ∈ (o.processOutbound S N overflowChecks packet nonceBytes report).2.1,
        o.denies toLowercase classify acl h.packet = false) ↔
      (o.denies toLowercase classify acl packet = false ∨
        ∀ dstIp, extractDstIp packet = some dstIp → o.routeTable.lookup N dstIp = none)) ∧
    (∀ packet report,
      (∀ p ∈ (o.processInbound packet report).1, o.denies toLowercase classify acl p = false) ↔
      o.denies toLowercase classify acl packet = false) ∧
    ∀ ops, Guarded (Node.step S N overflowChecks)
        (Node.Screened S N overflowChecks toLowercase classify) (.start o acl) ops →
      (Node.run S N overflowChecks (.start o acl) ops).Mediated toLowercase classify := by
  refine ⟨?_, ?_, ?_⟩
  · exact o.processOutbound_respects_iff acl
  · exact o.processInbound_respects_iff acl
  · exact fun ops hg => Node.run_mediated o acl hg

end Policy

/-- Protocol and destination port as the headers of a packet give them. -/
def headerClassify (packet : Bytes) : String × UInt16 :=
  let headerLength := 4 * (packet.headD 0 &&& 0x0F).toNat
  let port := ofBe (Puncher.slice packet (headerLength + 2) (headerLength + 4))
  match packet.getD 9 0 with
  | 6 => ("tcp", .ofNat port)
  | 17 => ("udp", .ofNat port)
  | 1 => ("icmp", 0)
  | _ => ("any", 0)

def allowAll : Acl.AclEngine := Acl.AclEngine.new.loadPolicy ⟨.defaultAllow, ∅, [], [], []⟩

theorem policy_respected_iff_allowAll :
    ∀ h ∈ (pairNetwork.processOutbound arithmeticSuite dottedIpnet true pairPacket (.zero 12)
      (.ok 0)).2.1, pairNetwork.denies String.toLower headerClassify allowAll h.packet = false :=
  ((policy_respected_iff pairNetwork allowAll).1 pairPacket (.zero 12) (.ok 0)).mpr
    (Or.inl (by decide +kernel))

/-- A packet that the policy denies leaves through the tunnel and comes in to the interface, by
the calls and by the loops alike. -/
theorem denied_packet_forwarded :
    ¬ (∀ (o : OverlayNetwork) (acl : Acl.AclEngine) packet nonceBytes report,
      ∀ h ∈ (o.processOutbound arithmeticSuite dottedIpnet true packet nonceBytes report).2.1,
        o.denies String.toLower headerClassify acl h.packet = false) ∧
    ¬ (∀ (o : OverlayNetwork) (acl : Acl.AclEngine) ops,
      (Node.run arithmeticSuite dottedIpnet true (.start o acl) ops).Mediated String.toLower
        headerClassify) := by
  have hdenied : pairNetwork.denies String.toLower headerClassify .new pairPacket = true := by
    decide +kernel
  constructor
  · intro h
    have hpermitted := h pairNetwork .new pairPacket (.zero 12) (.ok 0) ⟨"bob", pairPacket⟩
      (by decide +kernel)
    rw [hdenied] at hpermitted
    cases hpermitted
  · intro h
    have hwritten : (0, pairPacket) ∈ (Node.run arithmeticSuite dottedIpnet true
        (.start pairNetwork .new)
        [.inboundLock, .datagramArrival bobDatagram, .inboundReceive,
          .inboundWrite]).tunWrites := by
      decide +kernel
    have hpermitted := (h pairNetwork .new _).2 _ hwritten
    obtain ⟨hacl, hpeers, -⟩ := @Node.run_config arithmeticSuite dottedIpnet true
      (.start pairNetwork .new)
      [.inboundLock, .datagramArrival bobDatagram, .inboundReceive, .inboundWrite]
    rw [Node.denies_eq hacl hpeers] at hpermitted
    cases hdenied.symm.trans hpermitted

end P2PMesh.Overlay
