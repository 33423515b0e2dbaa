import P2PMesh.SignalingEndpoint
import P2PMesh.SignalingNode

namespace P2PMesh.Signaling
open P2PMesh.Base
set_option autoImplicit true

/-- No other session of the device is registered when a session disconnects it; none at all is,
when the send of a signal to it has failed. -/
def ControlPlane.Alone (t : ControlPlane) (op : WsOp) : Prop := ∀ e ∈ t.event op, t.registry.Alone e

def SignalingNode.Alone (t : SignalingNode) (op : NodeOp) : Prop :=
  ∀ e ∈ t.event op, t.registry.Alone e

theorem ControlPlane.step_owned_iff {t : ControlPlane} (uuid : String → Option Uuid)
    (h : t.registry.Owned) (op : WsOp) : (t.step uuid op).registry.Owned ↔ t.Alone op := by
  rw [ControlPlane.step_registry]
  exact h.elim_iff _

theorem SignalingNode.step_owned_iff {t : SignalingNode} (h : t.registry.Owned) (op : NodeOp) :
    (t.step op).registry.Owned ↔ t.Alone op := by
  rw [SignalingNode.step_registry]
  exact h.elim_iff _

/-- In the control plane and in a node of the service, at every point of a run the hub has every
device with a registered session under the socket of such a session, exactly where sessions
disconnect their devices alone. -/
theorem reconnect_safe_iff (maxConnections : Nat) (maxConnsPerDevice : Int)
    (uuid : String → Option Uuid) (wsOps : List WsOp) (maxConnectionsPerUser : Nat) (pubsub : Bool)
    (nodeOps : List NodeOp) :
    ((∀ l, l <+: wsOps →
        ((ControlPlane.new maxConnections maxConnsPerDevice).run uuid l).registry.Owned) ↔
      Guarded (fun t op => t.step uuid op) ControlPlane.Alone
        (.new maxConnections maxConnsPerDevice) wsOps) ∧
    ((∀ l, l <+: nodeOps →
        ((SignalingNode.new maxConnections maxConnectionsPerUser pubsub).run l).registry.Owned) ↔
      Guarded SignalingNode.step SignalingNode.Alone
        (.new maxConnections maxConnectionsPerUser pubsub) nodeOps) := by
  constructor
  · apply forall_prefix_iff (I := fun t : ControlPlane => t.registry.Owned)
    · exact registry_new maxConnections none
    · exact fun t op h => t.step_owned_iff uuid h op
  · apply forall_prefix_iff (I := fun t : SignalingNode => t.registry.Owned)
    · exact registry_new maxConnections (some maxConnectionsPerUser)
    · exact fun t op h => t.step_owned_iff h op

def firstDevice : String := "00000000-0000-0000-0000-000000000001"

def firstUuid (path : String) : Option Uuid := if path = firstDevice then some 1 else none

/-- A device connects again, and then its first session notices that its connection is gone. -/
def wsReconnect : List WsOp :=
  [.arrive 0 firstDevice 7 0, .connect 0, .arrive 1 firstDevice 7 0, .connect 1, .disconnect 0]

def nodeReconnect : List NodeOp :=
  [.arrive 0 1 7, .checkLimits 0 true, .connect 0, .registerDevice 0 true,
    .arrive 1 1 7, .checkLimits 1 true, .connect 1, .registerDevice 1 true,
    .unregisterDevice 0 true, .disconnect 0]

theorem newer_unregistered :
    (¬ ∀ (uuid : String → Option Uuid) (ops : List WsOp),
      ((ControlPlane.new 10000 3).run uuid ops).registry.Owned) ∧
    ¬ ∀ ops : List NodeOp, ((SignalingNode.new 10000 5 true).run ops).registry.Owned := by
  constructor
  · intro h
    have hran : let t := (ControlPlane.new 10000 3).run firstUuid wsReconnect
        t.registry.live 1 = some 1 ∧ t.registry.entry 1 = none := by
      decide +kernel
    obtain ⟨owner, hentry, -⟩ := h firstUuid wsReconnect 1 1 hran.1
    rw [hran.2] at hentry
    cases hentry
  · intro h
    have hran : let t := (SignalingNode.new 10000 5 true).run nodeReconnect
        t.registry.live 1 = some 1 ∧ t.registry.entry 1 = none := by
      decide +kernel
    obtain ⟨owner, hentry, -⟩ := h nodeReconnect 1 1 hran.1
    rw [hran.2] at hentry
    cases hentry

end P2PMesh.Signaling
