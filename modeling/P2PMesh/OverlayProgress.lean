import P2PMesh.Base.Run
import P2PMesh.Overlay

namespace P2PMesh.Overlay
open P2PMesh.Base P2PMesh.Router P2PMesh.Tunnel
set_option autoImplicit true

section Progress
variable (S : CryptoSuite) (N : Ipnet) (overflowChecks : Bool)

/-- The outbound task holds a packet for a peer: routed already, or with a route to the peer. -/
def Node.HoldsFor (n : Node) (peerId : String) (packet : Bytes) : Prop :=
  n.outbound = .sending peerId packet ∨
    ∃ dstIp route, n.outbound = .routing dstIp packet ∧
      n.routeTable.lookup N dstIp = some route ∧ route.peerId = peerId

/-- No datagram arrives. -/
def NodeOp.Quiet : NodeOp → Prop
  | .datagramArrival _ => False
  | _ => True

/-- Some continuation without an arrival puts the packet on the socket. -/
def Node.CanSend (n : Node) (peerId : String) (packet : Bytes) : Prop :=
  ∃ ops : List NodeOp, (∀ op ∈ ops, op.Quiet) ∧ ∃ wire addr,
    (n.run S N overflowChecks ops).sent = n.sent ++ [⟨peerId, packet, wire, addr⟩]

/-- The inbound task does not sit on the mutex before an empty socket. -/
def Node.Unblocked (n : Node) : Prop :=
  n.mutex.holder ≠ some .inbound ∨ n.socketQueue ≠ []

/-- The queue of the mutex is made of the tasks that wait for it or hold it, and a packet in
hand fits the buffer it was read into. -/
structure Node.Locked (n : Node) : Prop where
  nodup : n.mutex.queue.Nodup
  outbound : .outbound ∈ n.mutex.queue ↔ ∃ peerId packet, n.outbound = .sending peerId packet
  inbound : .inbound ∈ n.mutex.queue ↔ n.inbound = .receiving
  routing : ∀ dstIp packet, n.outbound = .routing dstIp packet → packet.length ≤ readBuffer
  sending : ∀ peerId packet, n.outbound = .sending peerId packet → packet.length ≤ readBuffer

variable {S N overflowChecks} {n n' : Node}

theorem Node.Locked.free_outbound (h : n.Locked)
    (ho : ∀ peerId packet, n.outbound ≠ .sending peerId packet) :
    .outbound ∉ n.mutex.queue := by
  rw [h.outbound]
  rintro ⟨peerId, packet, hs⟩
  exact ho peerId packet hs

theorem Node.Locked.free_inbound (h : n.Locked) (hi : n.inbound ≠ .receiving) :
    .inbound ∉ n.mutex.queue := by
  rw [h.inbound]
  exact hi

theorem Node.Locked.empty_handed (hn : n.mutex.queue.Nodup)
    (ho : n.outbound = .reading ∨ n.outbound = .stopped) (hfree : .outbound ∉ n.mutex.queue)
    (hi : .inbound ∈ n.mutex.queue ↔ n.inbound = .receiving) : n.Locked := by
  constructor
  · exact hn
  · refine iff_of_false hfree ?_
    rintro ⟨peerId, packet, hs⟩
    rw [hs] at ho
    rcases ho with ho | ho <;> cases ho
  · exact hi
  · intro dstIp packet hr
    rw [hr] at ho
    rcases ho with ho | ho <;> cases ho
  · intro peerId packet hs
    rw [hs] at ho
    rcases ho with ho | ho <;> cases ho

theorem Node.Locked.start (o : OverlayNetwork) (acl : Acl.AclEngine) :
    (Node.start o acl).Locked := by
  apply Node.Locked.empty_handed List.nodup_nil (Or.inl rfl) List.not_mem_nil
  exact iff_of_false List.not_mem_nil Inbound.noConfusion

theorem Node.Locked.released (h : n.Locked) (hm : n.mutex.holder = some .inbound)
    (hmutex : n'.mutex = n.mutex.unlock) (hout : n'.outbound = n.outbound)
    (hin : n'.inbound ≠ .receiving) : n'.Locked := by
  have hmem := fun other => @Mutex.mem_unlock Task .inbound other n.mutex h.nodup hm
  constructor
  · rw [hmutex]
    exact Mutex.nodup_unlock h.nodup
  · rw [hmutex, hout, hmem, h.outbound]
    exact and_iff_left Task.noConfusion
  · rw [hmutex]
    exact iff_of_false (fun hq => ((hmem _).mp hq).2 rfl) hin
  · rw [hout]
    exact h.routing
  · rw [hout]
    exact h.sending

/-- Each task joins the queue of the mutex when it asks for it and leaves it when it releases it. -/
theorem Node.Locked.effect (h : n.Locked) (he : n.Effect S N overflowChecks op n') :
    n'.Locked := by
  cases he with
  | idle => exact h
  | tunArrival => exact ⟨h.nodup, h.outbound, h.inbound, h.routing, h.sending⟩
  | datagramArrival => exact ⟨h.nodup, h.outbound, h.inbound, h.routing, h.sending⟩
  | addRoute => exact ⟨h.nodup, h.outbound, h.inbound, h.routing, h.sending⟩
  | readOther => exact ⟨h.nodup, h.outbound, h.inbound, h.routing, h.sending⟩
  | taken => exact ⟨h.nodup, h.outbound, h.inbound, h.routing, h.sending⟩
  | readPacket ho =>
    have hfree := h.free_outbound (fun _ _ hs => Outbound.noConfusion (ho.symm.trans hs))
    refine ⟨h.nodup, iff_of_false hfree ?_, h.inbound, ?_, ?_⟩
    · rintro ⟨peerId, packet, hs⟩
      cases hs
    · intro dstIp packet hr
      cases hr
      exact List.length_take_le _ _
    · exact fun _ _ hs => Outbound.noConfusion hs
  | readError ho =>
    have hfree := h.free_outbound (fun _ _ hs => Outbound.noConfusion (ho.symm.trans hs))
    exact .empty_handed h.nodup (Or.inr rfl) hfree h.inbound
  | unrouted ho =>
    have hfree := h.free_outbound (fun _ _ hs => Outbound.noConfusion (ho.symm.trans hs))
    exact .empty_handed h.nodup (Or.inl rfl) hfree h.inbound
  | routed ho =>
    have hfree := h.free_outbound (fun _ _ hs => Outbound.noConfusion (ho.symm.trans hs))
    constructor
    · exact Mutex.nodup_lock h.nodup hfree
    · exact iff_of_true (Mutex.mem_lock.mpr (Or.inr rfl)) ⟨_, _, rfl⟩
    · rw [Mutex.mem_lock, h.inbound]
      exact or_iff_left Task.noConfusion
    · exact fun _ _ hr => Outbound.noConfusion hr
    · intro peerId packet hs
      cases hs
      exact h.routing _ _ ho
  | sent ho hm hnext =>
    have hmem := fun other => @Mutex.mem_unlock Task .outbound other n.mutex h.nodup hm
    have hfree : .outbound ∉ n.mutex.unlock.queue := fun hq => ((hmem _).mp hq).2 rfl
    apply Node.Locked.empty_handed (Mutex.nodup_unlock h.nodup) hnext hfree
    rw [hmem, h.inbound]
    exact and_iff_left Task.noConfusion
  | locked hi =>
    have hfree := h.free_inbound (fun hr => Inbound.noConfusion (hi.symm.trans hr))
    constructor
    · exact Mutex.nodup_lock h.nodup hfree
    · rw [Mutex.mem_lock, h.outbound]
      exact or_iff_left Task.noConfusion
    · exact iff_of_true (Mutex.mem_lock.mpr (Or.inr rfl)) rfl
    · exact h.routing
    · exact h.sending
  | opened hi hm => exact h.released hm rfl rfl Inbound.noConfusion
  | refused hi hm hq hr hnext =>
    refine h.released hm rfl rfl ?_
    rcases hnext with rfl | rfl <;> exact Inbound.noConfusion
  | written hi =>
    have hfree := h.free_inbound (fun hr => Inbound.noConfusion (hi.symm.trans hr))
    exact ⟨h.nodup, h.outbound, iff_of_false hfree Inbound.noConfusion, h.routing, h.sending⟩
  | woken hi =>
    have hfree := h.free_inbound (fun hr => Inbound.noConfusion (hi.symm.trans hr))
    exact ⟨h.nodup, h.outbound, iff_of_false hfree Inbound.noConfusion, h.routing, h.sending⟩

theorem Node.run_locked (o : OverlayNetwork) (acl : Acl.AclEngine) (ops : List NodeOp) :
    (Node.run S N overflowChecks (.start o acl) ops).Locked :=
  run_invariant _ (Node.Locked.start o acl) (fun n op h => h.effect (n.step_effect op)) ops

theorem Node.send_sent (hS : S.Lawful) (ho : n.outbound = .sending peerId packet)
    (hm : n.mutex.holder = some .outbound) (ht : n.tunnelManager.get peerId = some t)
    (hl : packet.length ≤ readBuffer)
    (hr : (addU64 overflowChecks t.bytesSent (.ofNat packet.length)).isSome)
    (nonceBytes : ByteArr 12) (sent : Nat) : ∃ wire,
      (n.send S overflowChecks nonceBytes (.ok sent)).sent =
        n.sent ++ [⟨peerId, packet, wire, t.peerAddr⟩] := by
  have hmax : packet.length ≤ aeadMaxPlaintext := hl.trans (by decide)
  obtain ⟨wire, hw⟩ := TunnelManager.sendTo_takes hS ht hmax hr nonceBytes sent
  refine ⟨wire, ?_⟩
  simp only [Node.send, ho, if_pos hm, hw]

theorem Node.CanSend.before (op : NodeOp)
    (h : (n.step S N overflowChecks op).CanSend S N overflowChecks peerId packet)
    (hq : op.Quiet) (hs : (n.step S N overflowChecks op).sent = n.sent) :
    n.CanSend S N overflowChecks peerId packet := by
  obtain ⟨ops, hops, wire, addr, hsent⟩ := h
  refine ⟨op :: ops, ?_, wire, addr, ?_⟩
  · intro a ha
    rcases List.mem_cons.mp ha with rfl | ha
    · exact hq
    · exact hops a ha
  · rw [← hs]
    exact hsent

theorem Node.canSend_of_holder (hS : S.Lawful) (h : n.Locked)
    (ho : n.outbound = .sending peerId packet) (hm : n.mutex.holder = some .outbound)
    (ht : n.tunnelManager.get peerId = some t)
    (hr : (addU64 overflowChecks t.bytesSent (.ofNat packet.length)).isSome) :
    n.CanSend S N overflowChecks peerId packet := by
  have hl := h.sending peerId packet ho
  obtain ⟨wire, hsent⟩ := Node.send_sent hS ho hm ht hl hr (.zero 12) 0
  refine ⟨[.outboundSend (.zero 12) (.ok 0)], ?_, wire, t.peerAddr, hsent⟩
  intro op hop
  cases List.mem_singleton.mp hop
  trivial

theorem Node.Locked.inbound_holds (h : n.Locked) (ho : n.outbound = .sending peerId packet)
    (hm : n.mutex.holder ≠ some .outbound) : n.mutex.holder = some .inbound := by
  have hmem := h.outbound.mpr ⟨peerId, packet, ho⟩
  cases hq : n.mutex.holder with
  | none =>
    rw [List.head?_eq_none_iff.mp hq] at hmem
    exact (List.not_mem_nil hmem).elim
  | some task =>
    cases task with
    | outbound => exact (hm hq).elim
    | inbound => rfl

theorem Node.Locked.outbound_next (h : n.Locked) (ho : n.outbound = .sending peerId packet)
    (hin : n.mutex.holder = some .inbound) : n.mutex.unlock.holder = some .outbound := by
  have hmem := h.outbound.mpr ⟨peerId, packet, ho⟩
  have hleft := (Mutex.mem_unlock h.nodup hin).mpr ⟨hmem, Task.noConfusion⟩
  cases hh : n.mutex.unlock.holder with
  | none =>
    rw [List.head?_eq_none_iff.mp hh] at hleft
    exact (List.not_mem_nil hleft).elim
  | some task =>
    cases task with
    | outbound => rfl
    | inbound =>
      have hgone := (Mutex.mem_unlock h.nodup hin).mp (Mutex.mem_of_holder hh)
      exact (hgone.2 rfl).elim

theorem Node.receive_releases (hi : n.inbound = .receiving)
    (hm : n.mutex.holder = some .inbound) (hq : n.socketQueue = (serial, d) :: rest) :
    (n.receive S overflowChecks).mutex = n.mutex.unlock ∧
      (n.receive S overflowChecks).outbound = n.outbound ∧
      (n.receive S overflowChecks).sent = n.sent ∧
      (n.receive S overflowChecks).tunnelManager =
        (n.tunnelManager.recvFrom S overflowChecks d.data d.srcAddr).1 := by
  simp only [Node.receive, hi, hq, if_pos hm, and_self]

/-- A queued datagram lets the inbound task release the mutex to the outbound task. -/
theorem Node.Locked.canSend_sending (hS : S.Lawful) (h : n.Locked) (hu : n.Unblocked)
    (ho : n.outbound = .sending peerId packet) (ht : n.tunnelManager.get peerId = some t)
    (hr : (addU64 overflowChecks t.bytesSent (.ofNat packet.length)).isSome) :
    n.CanSend S N overflowChecks peerId packet := by
  by_cases hm : n.mutex.holder = some .outbound
  · exact Node.canSend_of_holder hS h ho hm ht hr
  · have hin := h.inbound_holds ho hm
    have hi := h.inbound.mp (Mutex.mem_of_holder hin)
    have hne : n.socketQueue ≠ [] := hu.resolve_left (fun hfree => hfree hin)
    obtain ⟨⟨serial, d⟩, rest, hq⟩ := List.exists_cons_of_ne_nil hne
    obtain ⟨hmutex, hout, hsent, htunnels⟩ :=
      @Node.receive_releases S overflowChecks n serial d rest hi hin hq
    obtain ⟨t', ht', hbytes⟩ :=
      @TunnelManager.recvFrom_get S overflowChecks _ _ _ ht d.data d.srcAddr
    have hlocked := h.effect (@Node.receive_effect S N overflowChecks n)
    have hlater : (n.receive S overflowChecks).CanSend S N overflowChecks peerId packet := by
      apply Node.canSend_of_holder hS hlocked (hout.trans ho)
      · rw [hmutex]
        exact h.outbound_next ho hin
      · rw [htunnels]
        exact ht'
      · rw [hbytes]
        exact hr
    exact Node.CanSend.before .inboundReceive hlater trivial hsent

theorem Node.route_sends {route : Route} (ho : n.outbound = .routing dstIp packet)
    (hl : n.routeTable.lookup N dstIp = some route) :
    n.route N =
      { n with outbound := .sending route.peerId packet, mutex := n.mutex.lock .outbound } := by
  simp only [Node.route, ho, hl]

theorem Node.Locked.canSend (hS : S.Lawful) (h : n.Locked) (hu : n.Unblocked)
    (hh : n.HoldsFor N peerId packet) (ht : n.tunnelManager.get peerId = some t)
    (hr : (addU64 overflowChecks t.bytesSent (.ofNat packet.length)).isSome) :
    n.CanSend S N overflowChecks peerId packet := by
  rcases hh with ho | ⟨dstIp, route, ho, hl, rfl⟩
  · exact h.canSend_sending hS hu ho ht hr
  · have hroute := Node.route_sends ho hl
    have hlocked := h.effect (@Node.route_effect S N overflowChecks n)
    rw [hroute] at hlocked
    have hu' : (n.mutex.lock .outbound).holder ≠ some .inbound ∨ n.socketQueue ≠ [] := by
      apply hu.imp_left
      intro hfree hheld
      exact hfree (Mutex.holder_of_lock hheld Task.noConfusion)
    have hlater := hlocked.canSend_sending (N := N) hS hu' rfl ht hr
    rw [← hroute] at hlater
    exact Node.CanSend.before .outboundRoute hlater trivial (by rw [Node.step, hroute])

/-- The inbound task holds the mutex, the socket is empty and nothing is sent any more. -/
structure Node.Stalled (before : List Outgoing) (n : Node) : Prop where
  holder : n.mutex.holder = some .inbound
  empty : n.socketQueue = []
  sent : n.sent = before

theorem Node.Stalled.effect (h : n.Stalled before) (he : n.Effect S N overflowChecks op n')
    (hop : op.Quiet) : n'.Stalled before := by
  obtain ⟨hm, hq, hs⟩ := h
  cases he with
  | datagramArrival => cases hop
  | routed => exact ⟨Mutex.holder_lock hm .outbound, hq, hs⟩
  | locked => exact ⟨Mutex.holder_lock hm .inbound, hq, hs⟩
  | sent ho hm' => cases hm.symm.trans hm'
  | opened hi hm' hq' => cases hq.symm.trans hq'
  | refused hi hm' hq' => cases hq.symm.trans hq'
  | taken hq' => cases hq.symm.trans hq'
  | _ => exact ⟨hm, hq, hs⟩

/-- The counter of the tunnel stays full and the packet is not among what is sent to it. -/
structure Node.Starved (overflowChecks : Bool) (peerId : String) (packet : Bytes)
    (before : List Outgoing) (n : Node) : Prop where
  full : n.tunnelManager.Full overflowChecks peerId packet
  sent : ∃ later, n.sent = before ++ later ∧
    ∀ e ∈ later, ¬ (e.peerId = peerId ∧ e.packet = packet)

theorem Node.Starved.effect (h : n.Starved overflowChecks peerId packet before)
    (he : n.Effect S N overflowChecks op n') :
    n'.Starved overflowChecks peerId packet before := by
  obtain ⟨hfull, hsent⟩ := h
  cases he with
  | opened => exact ⟨hfull.recvFrom _ _, hsent⟩
  | refused => exact ⟨hfull.recvFrom _ _, hsent⟩
  | @sent peerId' packet' next log nonceBytes report ho hm hnext hlog =>
    refine ⟨hfull.sendTo peerId' packet' nonceBytes report, ?_⟩
    rcases hlog with rfl | ⟨wire, hw, rfl⟩
    · exact hsent
    · obtain ⟨later, hlater, hother⟩ := hsent
      refine ⟨later ++ [⟨peerId', packet', wire.1, wire.2⟩], ?_, ?_⟩
      · rw [hlater, List.append_assoc]
      · intro e he
        rcases List.mem_append.mp he with hold | hnew
        · exact hother e hold
        · cases List.mem_singleton.mp hnew
          rintro ⟨rfl, rfl⟩
          -- a send that puts a datagram on the socket has found room
          rw [hfull.sendTo_none nonceBytes report] at hw
          cases hw
  | _ => exact ⟨hfull, hsent⟩

theorem Node.CanSend.unblocked (h : n.CanSend S N overflowChecks peerId packet) :
    n.Unblocked := by
  obtain ⟨ops, hquiet, wire, addr, hsent⟩ := h
  by_contra hu
  obtain ⟨hm, hq⟩ := not_or.mp hu
  have hguard : Guarded (Node.step S N overflowChecks) (fun _ op => op.Quiet) n ops :=
    Guarded.of_forall (fun _ op hop => hquiet op hop)
  have hstalled : n.Stalled n.sent := ⟨not_not.mp hm, not_not.mp hq, rfl⟩
  have hend := hguard.invariant hstalled (fun n op h hop => h.effect (n.step_effect op) hop)
  have hsame := hend.sent.symm.trans hsent
  cases List.self_eq_append_right.mp hsame

theorem Node.CanSend.room (h : n.CanSend S N overflowChecks peerId packet)
    (ht : n.tunnelManager.get peerId = some t) :
    (addU64 overflowChecks t.bytesSent (.ofNat packet.length)).isSome := by
  obtain ⟨ops, -, wire, addr, hsent⟩ := h
  by_contra hr
  have hfull : n.tunnelManager.Full overflowChecks peerId packet :=
    ⟨t, ht, Option.not_isSome_iff_eq_none.mp hr⟩
  have hstarved : n.Starved overflowChecks peerId packet n.sent :=
    ⟨hfull, [], (List.append_nil _).symm, fun _ he => (List.not_mem_nil he).elim⟩
  have hend := @run_invariant _ _ (Node.step S N overflowChecks) n _ hstarved
    (fun n op h => h.effect (n.step_effect op)) ops
  obtain ⟨later, hlater, hother⟩ := hend.sent
  have hentry := List.append_cancel_left (hlater.symm.trans hsent)
  rw [hentry] at hother
  exact hother _ (List.mem_singleton_self _) ⟨rfl, rfl⟩

/-- A packet that the outbound task holds can be sent without another arrival exactly where the
inbound task does not wait with the mutex and the byte counter has room. -/
theorem held_packet_sent_iff (hS : S.Lawful) (o : OverlayNetwork) (acl : Acl.AclEngine)
    (ops : List NodeOp)
    (hh : (Node.run S N overflowChecks (.start o acl) ops).HoldsFor N peerId packet)
    (ht : (Node.run S N overflowChecks (.start o acl) ops).tunnelManager.get peerId = some t) :
    (Node.run S N overflowChecks (.start o acl) ops).CanSend S N overflowChecks peerId packet ↔
      (Node.run S N overflowChecks (.start o acl) ops).Unblocked ∧
        (addU64 overflowChecks t.bytesSent (.ofNat packet.length)).isSome := by
  constructor
  · intro h
    exact ⟨h.unblocked, h.room ht⟩
  · rintro ⟨hu, hr⟩
    exact (Node.run_locked o acl ops).canSend hS hu hh ht hr

end Progress

theorem held_packet_sent_iff_before_lock :
    (Node.run arithmeticSuite dottedIpnet true (.start pairNetwork .new)
      [.tunArrival pairPacket, .outboundRead, .outboundRoute]).CanSend arithmeticSuite
        dottedIpnet true "bob" pairPacket := by
  apply (held_packet_sent_iff arithmeticSuite_lawful pairNetwork .new
    [.tunArrival pairPacket, .outboundRead, .outboundRoute]
    (t := .new bobAddr ⟨.zero 32⟩) (Or.inl ?_) ?_).mpr
  · exact ⟨Or.inl (by decide +kernel), by decide +kernel⟩
  · decide +kernel
  · decide +kernel

/-- The inbound task that waits for a datagram keeps the outbound task from sending. -/
theorem waiting_receive_blocks_send :
    ¬ ∀ (o : OverlayNetwork) (acl : Acl.AclEngine) (ops : List NodeOp) (peerId : String)
        (packet : Bytes),
      (Node.run arithmeticSuite dottedIpnet true (.start o acl) ops).HoldsFor dottedIpnet peerId
        packet →
      (∃ t, (Node.run arithmeticSuite dottedIpnet true (.start o acl) ops).tunnelManager.get
        peerId = some t) →
      (Node.run arithmeticSuite dottedIpnet true (.start o acl) ops).CanSend arithmeticSuite
        dottedIpnet true peerId packet := by
  intro h
  have hcan := h pairNetwork .new
    [.inboundLock, .tunArrival pairPacket, .outboundRead, .outboundRoute] "bob" pairPacket
    (Or.inl (by decide +kernel)) ⟨.new bobAddr ⟨.zero 32⟩, by decide +kernel⟩
  rcases hcan.unblocked with hm | hq
  · exact hm (by decide +kernel)
  · exact hq (by decide +kernel)

end P2PMesh.Overlay
