import P2PMesh.Base.Run
import P2PMesh.Signaling

namespace P2PMesh.Signaling
open P2PMesh.Base
set_option autoImplicit true

/-- Where a session of a node's endpoint stands at one of its awaits. -/
inductive NodePhase where
  | arrived
  | checked
  | connected
  | serving
  | relaying (target : Uuid)
  | unregistered
  | ended
deriving DecidableEq

structure NodeSession where
  deviceId : Uuid
  userId : Uuid
  phase : NodePhase
deriving DecidableEq

/-- The device of a session that is registered in the local hub and has not ended. -/
def NodeSession.live (s : NodeSession) : Option Uuid :=
  match s.phase with
  | .arrived | .checked | .ended => none
  | _ => some s.deviceId

/-- A node of the signaling service; `pubsub` says whether it has been connected to the store that
the nodes share. -/
structure SignalingNode where
  hub : SignalingHub
  pubsub : Bool
  sessions : Nat → Option NodeSession

def SignalingNode.new (maxConnections maxConnectionsPerUser : Nat) (pubsub : Bool) :
    SignalingNode :=
  ⟨.new maxConnections (some maxConnectionsPerUser), pubsub, fun _ => none⟩

/-- One stretch of a session between two awaits; what the shared store answers, and whether it
does, comes from outside. -/
inductive NodeOp where
  | arrive (id : Nat) (deviceId userId : Uuid)
  | checkLimits (id : Nat) (ok : Bool)
  | connect (id : Nat)
  | registerDevice (id : Nat) (ok : Bool)
  | relay (id : Nat) (toDeviceId : Uuid)
  | relayed (id : Nat) (delivered : Bool)
  | unregisterDevice (id : Nat) (ok : Bool)
  | disconnect (id : Nat)

section Node
variable (t : SignalingNode)

def SignalingNode.at (id : Nat) (s : NodeSession) : SignalingNode :=
  { t with sessions := Function.update t.sessions id (some s) }

def SignalingNode.connect (id : Nat) (s : NodeSession) : SignalingNode :=
  match t.hub.connect s.deviceId s.userId id with
  | .error _ => t.at id { s with phase := .ended }
  | .ok hub => { t with hub := hub }.at id { s with phase := .connected }

/-- The cleanup asks the store first, for a device that the hub has, and goes no further when the
store fails. -/
def SignalingNode.unregisterDevice (id : Nat) (s : NodeSession) (ok : Bool) : SignalingNode :=
  if (t.hub.connection s.deviceId).isSome ∧ t.pubsub ∧ ¬ ok then t.at id { s with phase := .ended }
  else t.at id { s with phase := .unregistered }

def SignalingNode.step : NodeOp → SignalingNode
  | .arrive id deviceId userId =>
    match t.sessions id with
    | none => t.at id ⟨deviceId, userId, .arrived⟩
    | some _ => t
  | .checkLimits id ok =>
    match t.sessions id with
    | some ⟨deviceId, userId, .arrived⟩ =>
      t.at id ⟨deviceId, userId, if t.pubsub ∧ ¬ ok then .ended else .checked⟩
    | _ => t
  | .connect id =>
    match t.sessions id with
    | some ⟨deviceId, userId, .checked⟩ => t.connect id ⟨deviceId, userId, .checked⟩
    | _ => t
  -- a failure here is not caught, and the cleanup has not been set up yet
  | .registerDevice id ok =>
    match t.sessions id with
    | some ⟨deviceId, userId, .connected⟩ =>
      t.at id ⟨deviceId, userId, if t.pubsub ∧ ¬ ok then .ended else .serving⟩
    | _ => t
  | .relay id toDeviceId =>
    match t.sessions id with
    | some ⟨deviceId, userId, .serving⟩ =>
      if toDeviceId = deviceId then t
      else
        match t.hub.relayTarget deviceId toDeviceId with
        | none => t
        | some _ => t.at id ⟨deviceId, userId, .relaying toDeviceId⟩
    | _ => t
  | .relayed id delivered =>
    match t.sessions id with
    | some ⟨deviceId, userId, .relaying toDeviceId⟩ =>
      let hub := if delivered then t.hub else t.hub.disconnect toDeviceId
      { t with hub := hub }.at id ⟨deviceId, userId, .serving⟩
    | _ => t
  | .unregisterDevice id ok =>
    match t.sessions id with
    | some ⟨deviceId, userId, .serving⟩ => t.unregisterDevice id ⟨deviceId, userId, .serving⟩ ok
    | _ => t
  | .disconnect id =>
    match t.sessions id with
    | some ⟨deviceId, userId, .unregistered⟩ =>
      { t with hub := t.hub.disconnect deviceId }.at id ⟨deviceId, userId, .ended⟩
    | _ => t

def SignalingNode.run (ops : List NodeOp) : SignalingNode := ops.foldl SignalingNode.step t

def SignalingNode.registry : Registry Uuid Nat :=
  t.hub.registry (fun id => (t.sessions id).bind NodeSession.live)

/-- What a step does to the entries of the hub and the sessions that are registered there. -/
def SignalingNode.event : NodeOp → Option (RegistryEvent Uuid Nat)
  | .connect id =>
    match t.sessions id with
    | some ⟨deviceId, userId, .checked⟩ =>
      match t.hub.connect deviceId userId id with
      | .error _ => none
      | .ok _ => some (.register id deviceId)
    | _ => none
  | .registerDevice id ok =>
    match t.sessions id with
    | some ⟨_, _, .connected⟩ => if t.pubsub ∧ ¬ ok then some (.lose id) else none
    | _ => none
  | .relayed id delivered =>
    match t.sessions id with
    | some ⟨_, _, .relaying toDeviceId⟩ => if delivered then none else some (.drop toDeviceId)
    | _ => none
  | .unregisterDevice id ok =>
    match t.sessions id with
    | some ⟨deviceId, _, .serving⟩ =>
      if (t.hub.connection deviceId).isSome ∧ t.pubsub ∧ ¬ ok then some (.lose id) else none
    | _ => none
  | .disconnect id =>
    match t.sessions id with
    | some ⟨_, _, .unregistered⟩ => some (.close id)
    | _ => none
  | _ => none

end Node

section NodeSteps
variable {t : SignalingNode}

theorem SignalingNode.registry_at (id : Nat) (s : NodeSession) : (t.at id s).registry =
    t.hub.registry
      (Function.update (fun id => (t.sessions id).bind NodeSession.live) id s.live) :=
  congrArg t.hub.registry (live_update t.sessions NodeSession.live id s)

theorem SignalingNode.registry_move {id : Nat} {s : NodeSession}
    (h : (t.sessions id).bind NodeSession.live = s.live) : (t.at id s).registry = t.registry := by
  rw [SignalingNode.registry_at, ← h, Function.update_eq_self]
  rfl

theorem SignalingNode.registry_lose (id : Nat) {s : NodeSession} (h : s.live = none) :
    (t.at id s).registry = t.registry.step (.lose id) := by
  rw [SignalingNode.registry_at, h]
  rfl

theorem SignalingNode.step_registry (op : NodeOp) :
    (t.step op).registry = (t.event op).elim t.registry t.registry.step := by
  cases op with
  | arrive id deviceId userId =>
    simp only [SignalingNode.step, SignalingNode.event]
    split
    · next hid =>
      apply SignalingNode.registry_move
      rw [hid]
      rfl
    · rfl
  | checkLimits id ok =>
    simp only [SignalingNode.step, SignalingNode.event]
    split
    · next hid =>
      apply SignalingNode.registry_move
      rw [hid]
      split <;> rfl
    · rfl
  | connect id =>
    simp only [SignalingNode.step, SignalingNode.event]
    split
    · next hid =>
      have hlive : (t.sessions id).bind NodeSession.live = none := by rw [hid]; rfl
      unfold SignalingNode.connect
      split
      · next hc =>
        dsimp only at hc
        rw [hc]
        exact SignalingNode.registry_move hlive
      · next hc =>
        dsimp only at hc
        rw [hc, SignalingNode.registry_at]
        exact registry_connect hc hlive
    · rfl
  | registerDevice id ok =>
    simp only [SignalingNode.step, SignalingNode.event]
    split
    · next hid =>
      split
      · exact SignalingNode.registry_lose id rfl
      · apply SignalingNode.registry_move
        rw [hid]
        rfl
    · rfl
  | relay id toDeviceId =>
    simp only [SignalingNode.step, SignalingNode.event]
    split
    · next hid =>
      split
      · rfl
      · split
        · rfl
        · apply SignalingNode.registry_move
          rw [hid]
          rfl
    · rfl
  | relayed id delivered =>
    simp only [SignalingNode.step, SignalingNode.event]
    split
    · next hid =>
      rw [SignalingNode.registry_move]
      · cases delivered with
        | true => rfl
        | false => exact registry_drop _
      · dsimp only
        rw [hid]
        rfl
    · rfl
  | unregisterDevice id ok =>
    simp only [SignalingNode.step, SignalingNode.event]
    split
    · next hid =>
      unfold SignalingNode.unregisterDevice
      split
      · exact SignalingNode.registry_lose id rfl
      · apply SignalingNode.registry_move
        rw [hid]
        rfl
    · rfl
  | disconnect id =>
    simp only [SignalingNode.step, SignalingNode.event]
    split
    · next hid =>
      rw [SignalingNode.registry_at]
      apply registry_disconnect
      rw [hid]
      rfl
    · rfl

end NodeSteps

end P2PMesh.Signaling
