import P2PMesh.Base.Bimap
import P2PMesh.Overlay

namespace P2PMesh.Overlay
open P2PMesh.Base P2PMesh.Router P2PMesh.Tunnel
set_option autoImplicit true

def OverlayNetwork.new (routeTable : RouteTable) (tunnelManager : TunnelManager) :
    OverlayNetwork :=
  ⟨routeTable, tunnelManager, ∅, ∅⟩

def OverlayNetwork.getPeerIp (o : OverlayNetwork) (peerId : String) : Option Ipv4Addr :=
  o.peerIps[peerId]?

inductive PeerOp where
  | registerPeer (peerId : String) (virtualIp : Ipv4Addr)
  | unregisterPeer (peerId : String)
deriving DecidableEq

def OverlayNetwork.step (o : OverlayNetwork) : PeerOp → OverlayNetwork
  | .registerPeer peerId virtualIp => o.registerPeer peerId virtualIp
  | .unregisterPeer peerId => o.unregisterPeer peerId

def OverlayNetwork.run (o : OverlayNetwork) (ops : List PeerOp) : OverlayNetwork :=
  ops.foldl OverlayNetwork.step o

structure IpamState where
  peerIps : Std.TreeMap String Ipv4Addr
  ipToPeer : Std.TreeMap Ipv4Addr String

structure IpamManager where
  state : IpamState

def IpamManager.new : IpamManager := ⟨∅, ∅⟩

def IpamManager.resolvePeerIp (m : IpamManager) (peerId : String) : Option Ipv4Addr :=
  m.state.peerIps[peerId]?

def IpamManager.setPeerIp (m : IpamManager) (peerId : String) (ip : Ipv4Addr) : IpamManager :=
  ⟨m.state.peerIps.insert peerId ip, m.state.ipToPeer.insert ip peerId⟩

def IpamManager.run (m : IpamManager) (calls : List (String × Ipv4Addr)) : IpamManager :=
  calls.foldl (fun m call => m.setPeerIp call.1 call.2) m

/-- Either lookup of the pair finds it exactly where the other does. -/
def OverlayNetwork.PeersInverse (o : OverlayNetwork) : Prop :=
  ∀ p a, o.getPeerIp p = some a ↔ o.getPeerByIp a = some p

def IpamManager.PeersInverse (m : IpamManager) : Prop :=
  ∀ (p : String) (a : Ipv4Addr), m.state.peerIps[p]? = some a ↔ m.state.ipToPeer[a]? = some p

/-- A registered peer has no other address yet, and its address no other peer. -/
def OverlayNetwork.Vacant (o : OverlayNetwork) : PeerOp → Prop
  | .registerPeer p a =>
    (∀ a', o.getPeerIp p = some a' → a' = a) ∧ ∀ p', o.getPeerByIp a = some p' → p' = p
  | .unregisterPeer _ => True

def IpamManager.Vacant (m : IpamManager) (call : String × Ipv4Addr) : Prop :=
  (∀ a', m.state.peerIps[call.1]? = some a' → a' = call.2) ∧
    ∀ p', m.state.ipToPeer[call.2]? = some p' → p' = call.1

def OverlayNetwork.peers (o : OverlayNetwork) : Bimap String Ipv4Addr := ⟨o.peerIps, o.ipToPeer⟩

def IpamManager.peers (m : IpamManager) : Bimap String Ipv4Addr :=
  ⟨m.state.peerIps, m.state.ipToPeer⟩

theorem OverlayNetwork.unregisterPeer_peers (o : OverlayNetwork) (p : String) :
    (o.unregisterPeer p).peers = o.peers.remove p := by
  cases hp : o.peerIps[p]? with
  | none =>
    have hb : o.peers.forward[p]? = none := hp
    rw [OverlayNetwork.unregisterPeer, hp, Bimap.remove, hb]
  | some ip =>
    have hb : o.peers.forward[p]? = some ip := hp
    rw [OverlayNetwork.unregisterPeer, hp, Bimap.remove, hb]
    rfl

theorem OverlayNetwork.step_inverse_iff {o : OverlayNetwork} (h : o.PeersInverse) (op : PeerOp) :
    (o.step op).PeersInverse ↔ o.Vacant op := by
  have hb : o.peers.Inverse := h
  cases op with
  | registerPeer p a => exact Bimap.put_inverse_iff hb
  | unregisterPeer p =>
    have hr : (o.unregisterPeer p).peers.Inverse := by
      rw [OverlayNetwork.unregisterPeer_peers]
      exact Bimap.remove_inverse hb p
    exact iff_of_true hr trivial

theorem IpamManager.step_inverse_iff {m : IpamManager} (h : m.PeersInverse)
    (call : String × Ipv4Addr) :
    (m.setPeerIp call.1 call.2).PeersInverse ↔ m.Vacant call := by
  have hb : m.peers.Inverse := h
  exact Bimap.put_inverse_iff hb

/-- Both pairs of maps stay inverse through a run exactly where no write finds the peer at
another address or the address with another peer. -/
theorem peerMaps_inverse_iff (routeTable : RouteTable) (tunnelManager : TunnelManager)
    (ops : List PeerOp) (calls : List (String × Ipv4Addr)) :
    ((∀ ops', ops' <+: ops →
        ((OverlayNetwork.new routeTable tunnelManager).run ops').PeersInverse) ↔
      Guarded OverlayNetwork.step OverlayNetwork.Vacant
        (OverlayNetwork.new routeTable tunnelManager) ops) ∧
    ((∀ calls', calls' <+: calls → (IpamManager.new.run calls').PeersInverse) ↔
      Guarded (fun m call => m.setPeerIp call.1 call.2) IpamManager.Vacant IpamManager.new
        calls) := by
  constructor
  · have h0 : (OverlayNetwork.new routeTable tunnelManager).PeersInverse :=
      Bimap.inverse_empty (K := String) (V := Ipv4Addr)
    exact forall_prefix_iff h0 (fun o op h => OverlayNetwork.step_inverse_iff h op) ops
  · have h0 : IpamManager.new.PeersInverse := Bimap.inverse_empty (K := String) (V := Ipv4Addr)
    exact forall_prefix_iff h0 (fun m call h => IpamManager.step_inverse_iff h call) calls

def movedPeer : List PeerOp :=
  [.registerPeer "p" 0x64400001#32, .registerPeer "p" 0x64400002#32]

def movedAddress : List PeerOp :=
  [.registerPeer "p" 0x64400001#32, .registerPeer "q" 0x64400001#32]

/-- A peer that moves to another address is still found under its old one, and a peer whose
address went to another still claims it. -/
theorem peerMaps_keep_replaced :
    ¬ ((OverlayNetwork.new .new .new).run movedPeer).PeersInverse ∧
      ¬ ((OverlayNetwork.new .new .new).run movedAddress).PeersInverse ∧
      ¬ (IpamManager.new.run [("p", 0x64400001#32), ("p", 0x64400002#32)]).PeersInverse ∧
      ¬ (IpamManager.new.run [("p", 0x64400001#32), ("q", 0x64400001#32)]).PeersInverse := by
  refine ⟨?_, ?_, ?_, ?_⟩
  · intro h
    have hp : ((OverlayNetwork.new .new .new).run movedPeer).getPeerByIp 0x64400001#32 =
        some "p" := by decide +kernel
    exact absurd ((h "p" 0x64400001#32).mpr hp) (by decide +kernel)
  · intro h
    have hp : ((OverlayNetwork.new .new .new).run movedAddress).getPeerIp "p" =
        some 0x64400001#32 := by decide +kernel
    exact absurd ((h "p" 0x64400001#32).mp hp) (by decide +kernel)
  · intro h
    exact absurd ((h "p" 0x64400001#32).mpr (by decide +kernel)) (by decide +kernel)
  · intro h
    exact absurd ((h "p" 0x64400001#32).mp (by decide +kernel)) (by decide +kernel)

end P2PMesh.Overlay
