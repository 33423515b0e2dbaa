import P2PMesh.Base.Delivery
import P2PMesh.Base.Run
import P2PMesh.Overlay

namespace P2PMesh.Overlay
open P2PMesh.Base P2PMesh.Tunnel
set_option autoImplicit true

/-- The way of the datagrams through the node. -/
def Node.flow (n : Node) : Delivery Datagram Bytes :=
  ⟨n.arrived, n.socketQueue, n.inbound.held, n.tunWrites⟩

/-- Nothing waits for a receiver or for the interface. -/
def Node.Drained (n : Node) : Prop := n.socketQueue = [] ∧ n.inbound.held = []

section Dispatch
variable (S : CryptoSuite) (N : Ipnet) (overflowChecks : Bool)

/-- The datagram comes from the peer of some tunnel and decrypts under its key to the packet. -/
def Opens (endpoints : List (String × SocketAddr × SessionKey)) (d : Datagram)
    (packet : Bytes) : Prop :=
  ∃ e ∈ endpoints, e.2.1 = d.srcAddr ∧ decrypt S e.2.2 d.data = some packet

def Qualifies (endpoints : List (String × SocketAddr × SessionKey)) (d : Datagram) : Prop :=
  ∃ packet, Opens S endpoints d packet

/-- Every datagram of a peer that decrypts is written to the interface exactly once. -/
def Node.WritesEach (n : Node) : Prop :=
  n.flow.Delivers (Opens S n.tunnelManager.endpoints) (Qualifies S n.tunnelManager.endpoints)

/-- The first tunnel in the map's order at the source address decrypts the datagram, and its
byte counter has room. -/
def Node.OpensFirst (n : Node) (d : Datagram) : Prop :=
  ∃ peerId t packet, n.tunnelManager.atAddr d.srcAddr = some (peerId, t) ∧
    decrypt S t.sessionKey d.data = some packet ∧
    (addU64 overflowChecks t.bytesReceived (.ofNat packet.length)).isSome

/-- The main loop takes no datagram of a peer that decrypts, and the inbound task takes one only
where the first tunnel at its address opens it. -/
def Node.Dispatched (n : Node) : NodeOp → Prop
  | .mainReceive => ∀ e ∈ n.socketQueue.head?, ¬ Qualifies S n.tunnelManager.endpoints e.2
  | .inboundReceive => n.inbound = .receiving → n.mutex.holder = some .inbound →
      ∀ e ∈ n.socketQueue.head?, Qualifies S n.tunnelManager.endpoints e.2 →
        n.OpensFirst S overflowChecks e.2
  | _ => True

variable {S N overflowChecks} {n n' : Node}

theorem Node.atAddr_opens {t : P2PTunnel}
    (ha : n.tunnelManager.atAddr d.srcAddr = some (peerId, t))
    (hd : decrypt S t.sessionKey d.data = some packet) :
    Opens S n.tunnelManager.endpoints d packet := by
  refine ⟨(peerId, t.peerAddr, t.sessionKey), ?_, TunnelManager.atAddr_peerAddr ha, hd⟩
  exact List.mem_map.mpr ⟨(peerId, t), TunnelManager.atAddr_mem ha, rfl⟩

theorem Node.dispatched_of_idle (h : ¬ n.Enabled op) : n.Dispatched S overflowChecks op := by
  cases op with
  | inboundReceive =>
    intro hi hm e he
    apply (h ⟨hi, hm, ?_⟩).elim
    intro hq
    rw [hq] at he
    cases he
  | mainReceive =>
    intro e he
    apply (h ?_).elim
    intro hq
    rw [hq] at he
    cases he
  | _ => trivial

theorem Node.dispatched_receive (hi : n.inbound = .receiving)
    (hm : n.mutex.holder = some .inbound) (hq : n.socketQueue = (serial, d) :: rest) :
    n.Dispatched S overflowChecks .inboundReceive ↔
      (Qualifies S n.tunnelManager.endpoints d → n.OpensFirst S overflowChecks d) := by
  rw [Node.Dispatched, hq]
  constructor
  · exact fun h => h hi hm (serial, d) rfl
  · intro h _ _ e he
    cases he
    exact h

/-- Each step of the node is a move on the way of the datagrams, and it drops one that is needed
exactly where it does not dispatch well. -/
theorem Node.Effect.move (he : n.Effect S N overflowChecks op n') :
    ∃ dropped, n.flow.Move (Opens S n.tunnelManager.endpoints) dropped n'.flow ∧
      ((∀ d ∈ dropped, ¬ Qualifies S n.tunnelManager.endpoints d) ↔
        n.Dispatched S overflowChecks op) := by
  have hkeeps : (∀ d ∈ (none : Option Datagram), ¬ Qualifies S n.tunnelManager.endpoints d) :=
    fun d h => (Option.not_mem_none d h).elim
  have hstay : ∀ n' : Node, n'.flow = n.flow → n.Dispatched S overflowChecks op →
      ∃ dropped, n.flow.Move (Opens S n.tunnelManager.endpoints) dropped n'.flow ∧
        ((∀ d ∈ dropped, ¬ Qualifies S n.tunnelManager.endpoints d) ↔
          n.Dispatched S overflowChecks op) := by
    intro n' hn' hd
    rw [hn']
    exact ⟨none, .stay, iff_of_true hkeeps hd⟩
  cases he with
  | idle h => exact hstay _ rfl (Node.dispatched_of_idle h)
  | datagramArrival d => exact ⟨none, .arrive d, iff_of_true hkeeps trivial⟩
  | locked hi =>
    refine hstay _ ?_ trivial
    simp only [Node.flow, hi, Inbound.held]
  | woken hi =>
    refine hstay _ ?_ trivial
    simp only [Node.flow, hi, Inbound.held]
  | @written serial peerId packet hi =>
    have hh : n.flow.held = (serial, packet) :: [] := by
      simp only [Node.flow, hi, Inbound.held]
    exact ⟨none, .write hh, iff_of_true hkeeps trivial⟩
  | @opened serial d rest peerId packet hi hm hq hr =>
    obtain ⟨t, ha, hd, hc⟩ := TunnelManager.recvFrom_opened_iff.mp hr
    have hflow : n.flow.held = [] := by
      simp only [Node.flow, hi, Inbound.held]
    refine ⟨none, ?_, iff_of_true hkeeps ?_⟩
    · have htake := Delivery.Move.take (s := n.flow) hq (Node.atAddr_opens ha hd)
      rw [hflow] at htake
      exact htake
    · exact (Node.dispatched_receive hi hm hq).mpr (fun _ => ⟨peerId, t, packet, ha, hd, hc⟩)
  | @refused serial d rest next hi hm hq hr hnext =>
    have hheld : next.held = n.inbound.held := by
      rw [hi]
      rcases hnext with rfl | rfl <;> rfl
    refine ⟨some d, ?_, ?_⟩
    · change n.flow.Move _ (some d) ⟨n.arrived, rest, next.held, n.tunWrites⟩
      rw [hheld]
      exact .drop hq
    · rw [Node.dispatched_receive hi hm hq]
      constructor
      · exact fun hd hneeded => (hd d rfl hneeded).elim
      · rintro hd d' hd' hneeded
        cases hd'
        obtain ⟨peerId, t, packet, ha, hp, hc⟩ := hd hneeded
        exact hr peerId packet (TunnelManager.recvFrom_opened_iff.mpr ⟨t, ha, hp, hc⟩)
  | @taken serial d rest hq answers =>
    refine ⟨some d, .drop hq, ?_⟩
    rw [Node.Dispatched, hq]
    constructor
    · intro hd e he
      cases he
      exact hd d rfl
    · intro hd d' hd'
      cases hd'
      exact hd (serial, d) rfl
  | _ => exact hstay _ rfl trivial

theorem Node.start_accounted (o : OverlayNetwork) (acl : Acl.AclEngine)
    (makes : Datagram → Bytes → Prop) (needed : Datagram → Prop) :
    (Node.start o acl).flow.Accounted makes ∧ (Node.start o acl).flow.Keeps needed := by
  constructor
  · constructor
    · exact List.nodup_nil
    · exact fun i d h => (List.not_mem_nil h).elim
    · exact fun i packet h => (List.not_mem_nil h).elim
  · intro i d h
    cases h

/-- Once nothing waits, every datagram of a peer that decrypts has been written exactly once,
exactly where each step of the run has dispatched well. -/
theorem datagrams_written_once_iff (o : OverlayNetwork) (acl : Acl.AclEngine) (ops : List NodeOp)
    (hd : (Node.run S N overflowChecks (.start o acl) ops).Drained) :
    (Node.run S N overflowChecks (.start o acl) ops).WritesEach S ↔
      Guarded (Node.step S N overflowChecks) (Node.Dispatched S overflowChecks) (.start o acl)
        ops := by
  let I : Node → Prop := fun n => n.tunnelManager.endpoints = o.tunnelManager.endpoints
  have hI : ∀ n op, I n → I (n.step S N overflowChecks op) :=
    fun n op h => (Node.step_config n op).2.2.trans h
  have hmove : ∀ n op, I n → ∃ dropped,
      n.flow.Move (Opens S o.tunnelManager.endpoints) dropped
          (n.step S N overflowChecks op).flow ∧
        ((∀ d ∈ dropped, ¬ Qualifies S o.tunnelManager.endpoints d) ↔
          n.Dispatched S overflowChecks op) := by
    intro n op h
    rw [← show n.tunnelManager.endpoints = o.tunnelManager.endpoints from h]
    exact (n.step_effect op).move
  obtain ⟨ha, hk⟩ := Node.start_accounted o acl (Opens S o.tunnelManager.endpoints)
    (Qualifies S o.tunnelManager.endpoints)
  have hend := ha.run hI (fun n op h => (hmove n op h).imp (fun _ hm => hm.1)) rfl ops
  have hsame := (@Node.run_config S N overflowChecks (.start o acl) ops).2.2
  rw [Node.WritesEach, hsame]
  exact (hend.delivers_iff hd.1 hd.2).trans (hk.run_iff hI hmove rfl ha ops)

end Dispatch

theorem bobDatagram_opens :
    decrypt arithmeticSuite ⟨.zero 32⟩ bobDatagram.data = some pairPacket := by
  decide +kernel

theorem datagrams_written_once_iff_inbound :
    (Node.run arithmeticSuite dottedIpnet true (.start pairNetwork .new)
      [.inboundLock, .datagramArrival bobDatagram, .inboundReceive, .inboundWrite]).WritesEach
        arithmeticSuite := by
  apply (datagrams_written_once_iff pairNetwork .new _ ⟨by decide +kernel, by decide +kernel⟩).mpr
  refine ⟨trivial, trivial, ?_, trivial, trivial⟩
  intro _ _ e he _
  cases he
  exact ⟨"bob", .new bobAddr ⟨.zero 32⟩, pairPacket, by decide +kernel, bobDatagram_opens,
    by decide +kernel⟩

/-- A datagram of a peer that the main loop receives is lost. -/
theorem main_loop_drops_datagram :
    ¬ ∀ (o : OverlayNetwork) (acl : Acl.AclEngine) (ops : List NodeOp),
      (Node.run arithmeticSuite dottedIpnet true (.start o acl) ops).Drained →
      (Node.run arithmeticSuite dottedIpnet true (.start o acl) ops).WritesEach
        arithmeticSuite := by
  intro h
  have hwrites := h pairNetwork .new [.inboundLock, .datagramArrival bobDatagram, .mainReceive]
    ⟨by decide +kernel, by decide +kernel⟩
  have hopens : Opens arithmeticSuite pairNetwork.tunnelManager.endpoints bobDatagram
      pairPacket :=
    ⟨("bob", bobAddr, ⟨.zero 32⟩), List.mem_singleton_self _, rfl, bobDatagram_opens⟩
  obtain ⟨packet, -, hwritten⟩ := hwrites 0 bobDatagram (by decide +kernel) ⟨pairPacket, hopens⟩
  have hnone : (Node.run arithmeticSuite dottedIpnet true (.start pairNetwork .new)
      [.inboundLock, .datagramArrival bobDatagram, .mainReceive]).tunWrites = [] := by
    decide +kernel
  have hflow : (Node.flow (Node.run arithmeticSuite dottedIpnet true (.start pairNetwork .new)
      [.inboundLock, .datagramArrival bobDatagram, .mainReceive])).written = [] := hnone
  rw [hflow] at hwritten
  cases hwritten

end P2PMesh.Overlay
