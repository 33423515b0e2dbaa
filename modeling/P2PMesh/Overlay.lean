import P2PMesh.Acl
import P2PMesh.Base.Mutex
import P2PMesh.Ice
import P2PMesh.RouteTable
import P2PMesh.TunnelManager

namespace P2PMesh.Overlay
open P2PMesh.Base P2PMesh.Router P2PMesh.Tunnel
set_option autoImplicit true

/-- Four bytes of a packet as an address. -/
def ipAt (packet : Bytes) (offset : Nat) : Ipv4Addr :=
  .ofNat 32 (ofBe (Puncher.slice packet offset (offset + 4)))

def extractDstIp (packet : Bytes) : Option Ipv4Addr :=
  if packet.length < 20 then none
  else if packet.headD 0 >>> 4 ≠ 4 then none
  else some (ipAt packet 16)

inductive OverlayError where
  | invalidPacket (message : String)
  | noRoute (dstIp : Ipv4Addr)
  | tunnelError (message : String)
  | tunError (message : String)
deriving DecidableEq

/-- A call of `sendTo` with a packet for a peer. -/
structure Handed where
  peerId : String
  packet : Bytes
deriving DecidableEq

structure OverlayNetwork where
  routeTable : RouteTable
  tunnelManager : TunnelManager
  peerIps : Std.TreeMap String Ipv4Addr
  ipToPeer : Std.TreeMap Ipv4Addr String

def OverlayNetwork.registerPeer (o : OverlayNetwork) (peerId : String) (virtualIp : Ipv4Addr) :
    OverlayNetwork :=
  { o with
    peerIps := o.peerIps.insert peerId virtualIp
    ipToPeer := o.ipToPeer.insert virtualIp peerId }

def OverlayNetwork.unregisterPeer (o : OverlayNetwork) (peerId : String) : OverlayNetwork :=
  match o.peerIps[peerId]? with
  | none => o
  | some ip => { o with peerIps := o.peerIps.erase peerId, ipToPeer := o.ipToPeer.erase ip }

def OverlayNetwork.getPeerByIp (o : OverlayNetwork) (ip : Ipv4Addr) : Option String :=
  o.ipToPeer[ip]?

section Calls
variable (S : CryptoSuite) (N : Ipnet) (overflowChecks : Bool)

/-- The network after the call, what it hands to a tunnel and its result; `report` is what the
socket says to the send. -/
def OverlayNetwork.processOutbound (o : OverlayNetwork) (packet : Bytes)
    (nonceBytes : ByteArr 12) (report : Except String Nat) :
    OverlayNetwork × List Handed × Except (Fault OverlayError) Unit :=
  match extractDstIp packet with
  | none => (o, [], .error (.err (.invalidPacket "Not a valid IPv4 packet")))
  | some dstIp =>
    match o.routeTable.lookup N dstIp with
    | none => (o, [], .error (.err (.noRoute dstIp)))
    | some route =>
      let sent := o.tunnelManager.sendTo S overflowChecks route.peerId packet nonceBytes report
      ({ o with tunnelManager := sent.1 }, [⟨route.peerId, packet⟩],
        match sent.2.2 with
        | .ok _ => .ok ()
        | .error .panic => .error .panic
        | .error (.err e) => .error (.err (.tunnelError e)))

/-- The packets written to the interface and the result; `report` is what the interface says. -/
def OverlayNetwork.processInbound (_o : OverlayNetwork) (packet : Bytes)
    (report : Except String Nat) : List Bytes × Except OverlayError Unit :=
  ([packet],
    match report with
    | .ok _ => .ok ()
    | .error e => .error (.tunError e))

end Calls

/-- A received datagram fits the receive buffers: a UDP length has 16 bits. -/
structure Datagram where
  data : Bytes
  srcAddr : SocketAddr
  length_le : data.length ≤ 65535
deriving DecidableEq

/-- The two tasks that share the mutex of the tunnel manager. -/
inductive Task where
  | outbound
  | inbound
deriving DecidableEq

/-- Where the outbound task stands: before its read, before its route lookup, in the queue of
the mutex with a packet to send, or ended. -/
inductive Outbound where
  | reading
  | routing (dstIp : Ipv4Addr) (packet : Bytes)
  | sending (peerId : String) (packet : Bytes)
  | stopped
deriving DecidableEq

/-- Where the inbound task stands: before it asks for the mutex, in its queue or in the receive,
before its write, in its pause after a receive without a packet, or ended. -/
inductive Inbound where
  | idle
  | receiving
  | writing (serial : Nat) (peerId : String) (packet : Bytes)
  | sleeping
  | stopped
deriving DecidableEq

/-- What the inbound task has in hand for the interface. -/
def Inbound.held : Inbound → List (Nat × Bytes)
  | .writing serial _ packet => [(serial, packet)]
  | _ => []

/-- A datagram that the socket has taken from the outbound task for a packet. -/
structure Outgoing where
  peerId : String
  packet : Bytes
  wire : Bytes
  addr : SocketAddr
deriving DecidableEq

/-- A running overlay node. Datagrams are numbered in the order of their arrival; the last five
fields only record what has happened. -/
structure Node extends OverlayNetwork where
  acl : Acl.AclEngine
  mutex : Mutex Task
  outbound : Outbound
  inbound : Inbound
  tunQueue : List Bytes
  socketQueue : List (Nat × Datagram)
  arrived : List Datagram
  handed : List Handed
  sent : List Outgoing
  tunWrites : List (Nat × Bytes)
  answers : List (Bytes × SocketAddr)

def Node.start (o : OverlayNetwork) (acl : Acl.AclEngine) : Node :=
  { o with
    acl := acl, mutex := .free, outbound := .reading, inbound := .idle
    tunQueue := [], socketQueue := [], arrived := []
    handed := [], sent := [], tunWrites := [], answers := [] }

inductive NodeOp where
  | tunArrival (packet : Bytes)
  | datagramArrival (d : Datagram)
  | outboundRead
  | outboundReadError
  | outboundRoute
  | outboundSend (nonceBytes : ByteArr 12) (report : Except String Nat)
  | inboundLock
  | inboundReceive
  | inboundWrite
  | inboundWake
  | mainReceive
  | addRoute (route : Route)

/-- Size of the buffer that the outbound task reads a packet into. -/
def readBuffer : Nat := 65536

section Steps
variable (S : CryptoSuite) (N : Ipnet) (overflowChecks : Bool)

def Node.read (n : Node) : Node :=
  match n.outbound, n.tunQueue with
  | .reading, raw :: rest =>
    let packet := raw.take readBuffer
    match extractDstIp packet with
    | some dstIp => { n with tunQueue := rest, outbound := .routing dstIp packet }
    | none => { n with tunQueue := rest }
  | _, _ => n

def Node.route (n : Node) : Node :=
  match n.outbound with
  | .routing dstIp packet =>
    match n.routeTable.lookup N dstIp with
    | some route =>
      { n with outbound := .sending route.peerId packet, mutex := n.mutex.lock .outbound }
    | none => { n with outbound := .reading }
  | _ => n

/-- The outbound task's turn with the mutex: one send, then the mutex is released. -/
def Node.send (n : Node) (nonceBytes : ByteArr 12) (report : Except String Nat) : Node :=
  match n.outbound with
  | .sending peerId packet =>
    if n.mutex.holder = some .outbound then
      let sent := n.tunnelManager.sendTo S overflowChecks peerId packet nonceBytes report
      { n with
        tunnelManager := sent.1
        mutex := n.mutex.unlock
        outbound := if sent.2.2 = .error .panic then .stopped else .reading
        handed := n.handed ++ [⟨peerId, packet⟩]
        sent :=
          match sent.2.1, sent.2.2 with
          | some w, .ok _ => n.sent ++ [⟨peerId, packet, w.1, w.2⟩]
          | _, _ => n.sent }
    else n
  | _ => n

/-- The inbound task's turn with the mutex, which it keeps until a datagram is there. -/
def Node.receive (n : Node) : Node :=
  match n.inbound, n.socketQueue with
  | .receiving, (serial, d) :: rest =>
    if n.mutex.holder = some .inbound then
      let received := n.tunnelManager.recvFrom S overflowChecks d.data d.srcAddr
      { n with
        tunnelManager := received.1
        mutex := n.mutex.unlock
        socketQueue := rest
        inbound :=
          match received.2 with
          | .opened peerId packet => .writing serial peerId packet
          | .nothing => .sleeping
          | .panic => .stopped }
    else n
  | _, _ => n

/-- The main loop takes a datagram for itself: it answers a STUN request and drops the rest. -/
def Node.mainLoop (n : Node) : Node :=
  match n.socketQueue with
  | (_, d) :: rest =>
    match Ice.handleBindingRequest d.data with
    | some response =>
      { n with socketQueue := rest, answers := n.answers ++ [(response, d.srcAddr)] }
    | none => { n with socketQueue := rest }
  | [] => n

/-- One step; a step that is not enabled changes nothing. -/
def Node.step (n : Node) : NodeOp → Node
  | .tunArrival packet => { n with tunQueue := n.tunQueue ++ [packet] }
  | .datagramArrival d =>
    { n with
      socketQueue := n.socketQueue ++ [(n.arrived.length, d)], arrived := n.arrived ++ [d] }
  | .outboundRead => n.read
  | .outboundReadError =>
    match n.outbound with
    | .reading => { n with outbound := .stopped }
    | _ => n
  | .outboundRoute => n.route N
  | .outboundSend nonceBytes report => n.send S overflowChecks nonceBytes report
  | .inboundLock =>
    match n.inbound with
    | .idle => { n with inbound := .receiving, mutex := n.mutex.lock .inbound }
    | _ => n
  | .inboundReceive => n.receive S overflowChecks
  | .inboundWrite =>
    match n.inbound with
    | .writing serial _ packet =>
      { n with inbound := .idle, tunWrites := n.tunWrites ++ [(serial, packet)] }
    | _ => n
  | .inboundWake =>
    match n.inbound with
    | .sleeping => { n with inbound := .idle }
    | _ => n
  | .mainReceive => n.mainLoop
  | .addRoute route => { n with routeTable := n.routeTable.addRoute N route }

def Node.run (n : Node) (ops : List NodeOp) : Node :=
  ops.foldl (Node.step S N overflowChecks) n

end Steps

/-- The task that a step belongs to is where the step finds its work. -/
def Node.Enabled (n : Node) : NodeOp → Prop
  | .outboundRead => n.outbound = .reading ∧ n.tunQueue ≠ []
  | .outboundReadError => n.outbound = .reading
  | .outboundRoute => ∃ dstIp packet, n.outbound = .routing dstIp packet
  | .outboundSend _ _ => (∃ peerId packet, n.outbound = .sending peerId packet) ∧
      n.mutex.holder = some .outbound
  | .inboundLock => n.inbound = .idle
  | .inboundReceive => n.inbound = .receiving ∧ n.mutex.holder = some .inbound ∧
      n.socketQueue ≠ []
  | .inboundWrite => ∃ serial peerId packet, n.inbound = .writing serial peerId packet
  | .inboundWake => n.inbound = .sleeping
  | .mainReceive => n.socketQueue ≠ []
  | .tunArrival _ | .datagramArrival _ | .addRoute _ => True

section Effect
variable (S : CryptoSuite) (N : Ipnet) (overflowChecks : Bool)

/-- What a step can do to a node, with what it has found there. -/
inductive Node.Effect (n : Node) : NodeOp → Node → Prop where
  | idle (h : ¬ n.Enabled op) : Effect n op n
  | tunArrival (packet : Bytes) :
    Effect n (.tunArrival packet) { n with tunQueue := n.tunQueue ++ [packet] }
  | datagramArrival (d : Datagram) :
    Effect n (.datagramArrival d) { n with
      socketQueue := n.socketQueue ++ [(n.arrived.length, d)], arrived := n.arrived ++ [d] }
  | addRoute (route : Route) :
    Effect n (.addRoute route) { n with routeTable := n.routeTable.addRoute N route }
  | readPacket (ho : n.outbound = .reading) (hq : n.tunQueue = raw :: rest)
    (hx : extractDstIp (raw.take readBuffer) = some dstIp) :
    Effect n .outboundRead
      { n with tunQueue := rest, outbound := .routing dstIp (raw.take readBuffer) }
  | readOther (ho : n.outbound = .reading) (hq : n.tunQueue = raw :: rest)
    (hx : extractDstIp (raw.take readBuffer) = none) :
    Effect n .outboundRead { n with tunQueue := rest }
  | readError (ho : n.outbound = .reading) :
    Effect n .outboundReadError { n with outbound := .stopped }
  | routed {route : Route} (ho : n.outbound = .routing dstIp packet)
    (hl : n.routeTable.lookup N dstIp = some route) :
    Effect n .outboundRoute
      { n with outbound := .sending route.peerId packet, mutex := n.mutex.lock .outbound }
  | unrouted (ho : n.outbound = .routing dstIp packet)
    (hl : n.routeTable.lookup N dstIp = none) :
    Effect n .outboundRoute { n with outbound := .reading }
  | sent (ho : n.outbound = .sending peerId packet) (hm : n.mutex.holder = some .outbound)
    (hnext : next = .reading ∨ next = .stopped)
    (hlog : log = n.sent ∨ ∃ wire,
      (n.tunnelManager.sendTo S overflowChecks peerId packet nonceBytes report).2.1 =
        some wire ∧ log = n.sent ++ [⟨peerId, packet, wire.1, wire.2⟩]) :
    Effect n (.outboundSend nonceBytes report) { n with
      tunnelManager :=
        (n.tunnelManager.sendTo S overflowChecks peerId packet nonceBytes report).1
      mutex := n.mutex.unlock, outbound := next
      handed := n.handed ++ [⟨peerId, packet⟩], sent := log }
  | locked (hi : n.inbound = .idle) :
    Effect n .inboundLock { n with inbound := .receiving, mutex := n.mutex.lock .inbound }
  | opened (hi : n.inbound = .receiving) (hm : n.mutex.holder = some .inbound)
    (hq : n.socketQueue = (serial, d) :: rest)
    (hr : (n.tunnelManager.recvFrom S overflowChecks d.data d.srcAddr).2 =
      .opened peerId packet) :
    Effect n .inboundReceive { n with
      tunnelManager := (n.tunnelManager.recvFrom S overflowChecks d.data d.srcAddr).1
      mutex := n.mutex.unlock, socketQueue := rest, inbound := .writing serial peerId packet }
  | refused (hi : n.inbound = .receiving) (hm : n.mutex.holder = some .inbound)
    (hq : n.socketQueue = (serial, d) :: rest)
    (hr : ∀ peerId packet,
      (n.tunnelManager.recvFrom S overflowChecks d.data d.srcAddr).2 ≠ .opened peerId packet)
    (hnext : next = .sleeping ∨ next = .stopped) :
    Effect n .inboundReceive { n with
      tunnelManager := (n.tunnelManager.recvFrom S overflowChecks d.data d.srcAddr).1
      mutex := n.mutex.unlock, socketQueue := rest, inbound := next }
  | written (hi : n.inbound = .writing serial peerId packet) :
    Effect n .inboundWrite
      { n with inbound := .idle, tunWrites := n.tunWrites ++ [(serial, packet)] }
  | woken (hi : n.inbound = .sleeping) : Effect n .inboundWake { n with inbound := .idle }
  | taken (hq : n.socketQueue = (serial, d) :: rest) (answers : List (Bytes × SocketAddr)) :
    Effect n .mainReceive { n with socketQueue := rest, answers := answers }

end Effect

section Steps
variable {S : CryptoSuite} {N : Ipnet} {overflowChecks : Bool}

theorem Node.read_effect (n : Node) : n.Effect S N overflowChecks .outboundRead n.read := by
  rw [Node.read]
  split
  · next raw rest ho hq =>
    dsimp only
    split
    · next dstIp hx => exact .readPacket ho hq hx
    · next hx => exact .readOther ho hq hx
  · next hno =>
    apply Node.Effect.idle
    rintro ⟨ho, hq⟩
    obtain ⟨raw, rest, hq⟩ := List.exists_cons_of_ne_nil hq
    exact hno raw rest ho hq

theorem Node.route_effect (n : Node) :
    n.Effect S N overflowChecks .outboundRoute (n.route N) := by
  rw [Node.route]
  split
  · next dstIp packet ho =>
    split
    · next route hl => exact .routed ho hl
    · next hl => exact .unrouted ho hl
  · next hno =>
    apply Node.Effect.idle
    rintro ⟨dstIp, packet, ho⟩
    exact hno dstIp packet ho

theorem Node.send_effect (n : Node) (nonceBytes : ByteArr 12) (report : Except String Nat) :
    n.Effect S N overflowChecks (.outboundSend nonceBytes report)
      (n.send S overflowChecks nonceBytes report) := by
  rw [Node.send]
  split
  · next peerId packet ho =>
    split
    · next hm =>
      apply Node.Effect.sent ho hm
      · split
        · exact Or.inr rfl
        · exact Or.inl rfl
      · split
        · next wire _ hw _ => exact Or.inr ⟨wire, hw, rfl⟩
        · exact Or.inl rfl
    · next hm => exact .idle (fun h => hm h.2)
  · next hno =>
    apply Node.Effect.idle
    rintro ⟨⟨peerId, packet, ho⟩, -⟩
    exact hno peerId packet ho

theorem Node.receive_effect (n : Node) :
    n.Effect S N overflowChecks .inboundReceive (n.receive S overflowChecks) := by
  rw [Node.receive]
  split
  · next serial d rest hi hq =>
    split
    · next hm =>
      dsimp only
      split
      · next peerId packet hr => exact .opened hi hm hq hr
      · next hr =>
        refine .refused hi hm hq ?_ (Or.inl rfl)
        intro peerId packet ho
        cases hr.symm.trans ho
      · next hr =>
        refine .refused hi hm hq ?_ (Or.inr rfl)
        intro peerId packet ho
        cases hr.symm.trans ho
    · next hm => exact .idle (fun h => hm h.2.1)
  · next hno =>
    apply Node.Effect.idle
    rintro ⟨hi, -, hq⟩
    obtain ⟨⟨serial, d⟩, rest, hq⟩ := List.exists_cons_of_ne_nil hq
    exact hno serial d rest hi hq

theorem Node.mainLoop_effect (n : Node) :
    n.Effect S N overflowChecks .mainReceive n.mainLoop := by
  rw [Node.mainLoop]
  split
  · next serial d rest hq =>
    split <;> exact .taken hq _
  · next hq => exact .idle (fun h => h hq)

theorem Node.step_effect (n : Node) (op : NodeOp) :
    n.Effect S N overflowChecks op (n.step S N overflowChecks op) := by
  cases op with
  | tunArrival packet => exact .tunArrival packet
  | datagramArrival d => exact .datagramArrival d
  | addRoute route => exact .addRoute route
  | outboundRead => exact n.read_effect
  | outboundRoute => exact n.route_effect
  | outboundSend nonceBytes report => exact n.send_effect nonceBytes report
  | inboundReceive => exact n.receive_effect
  | mainReceive => exact n.mainLoop_effect
  | outboundReadError =>
    rw [Node.step]
    split
    · next ho => exact .readError ho
    · next hno => exact .idle hno
  | inboundLock =>
    rw [Node.step]
    split
    · next hi => exact .locked hi
    · next hno => exact .idle hno
  | inboundWrite =>
    rw [Node.step]
    split
    · next serial peerId packet hi => exact .written hi
    · next hno =>
      apply Node.Effect.idle
      rintro ⟨serial, peerId, packet, hi⟩
      exact hno serial peerId packet hi
  | inboundWake =>
    rw [Node.step]
    split
    · next hi => exact .woken hi
    · next hno => exact .idle hno

theorem Node.Effect.config {n n' : Node} (h : n.Effect S N overflowChecks op n') :
    n'.acl = n.acl ∧ n'.ipToPeer = n.ipToPeer ∧
      n'.tunnelManager.endpoints = n.tunnelManager.endpoints := by
  cases h with
  | sent => exact ⟨rfl, rfl, TunnelManager.sendTo_endpoints _ _ _ _ _⟩
  | opened => exact ⟨rfl, rfl, (TunnelManager.recvFrom_tunnels _ _ _).1⟩
  | refused => exact ⟨rfl, rfl, (TunnelManager.recvFrom_tunnels _ _ _).1⟩
  | _ => exact ⟨rfl, rfl, rfl⟩

theorem Node.step_config (n : Node) (op : NodeOp) :
    (n.step S N overflowChecks op).acl = n.acl ∧
      (n.step S N overflowChecks op).ipToPeer = n.ipToPeer ∧
      (n.step S N overflowChecks op).tunnelManager.endpoints = n.tunnelManager.endpoints :=
  (n.step_effect op).config

theorem Node.run_config (n : Node) (ops : List NodeOp) :
    (n.run S N overflowChecks ops).acl = n.acl ∧
      (n.run S N overflowChecks ops).ipToPeer = n.ipToPeer ∧
      (n.run S N overflowChecks ops).tunnelManager.endpoints = n.tunnelManager.endpoints := by
  induction ops generalizing n with
  | nil => exact ⟨rfl, rfl, rfl⟩
  | cons op ops ih =>
    obtain ⟨hacl, hpeers, htunnels⟩ := ih (n.step S N overflowChecks op)
    obtain ⟨hacl', hpeers', htunnels'⟩ := @Node.step_config S N overflowChecks n op
    rw [Node.run, List.foldl_cons]
    exact ⟨hacl.trans hacl', hpeers.trans hpeers', htunnels.trans htunnels'⟩

end Steps

def bobAddr : SocketAddr := ⟨.v4 0x0a000002#32, 4000⟩

/-- Two registered peers, a tunnel to the second and the default route of the mesh there. -/
def pairNetwork : OverlayNetwork where
  routeTable := RouteTable.new.setDefaultRoute
    ⟨⟨0x64400000#32, 22, by decide⟩, "bob", 10, 2, .mesh, true, 0, none⟩
  tunnelManager := ⟨[("bob", .new bobAddr ⟨.zero 32⟩)], List.nodup_singleton "bob"⟩
  peerIps := (Std.TreeMap.insert ∅ "alice" 0x64400001#32).insert "bob" 0x64400002#32
  ipToPeer := (Std.TreeMap.insert ∅ 0x64400001#32 "alice").insert 0x64400002#32 "bob"

/-- A TCP segment from the first peer to port 443 of the second. -/
def pairPacket : Bytes :=
  [0x45, 0, 0, 24, 0, 0, 0, 0, 64, 6, 0, 0, 100, 64, 0, 1, 100, 64, 0, 2, 0x10, 0, 0x01, 0xbb]

def bobDatagram : Datagram :=
  ⟨Ice.wireOf (.zero 12) pairPacket, bobAddr, by decide +kernel⟩

end P2PMesh.Overlay
