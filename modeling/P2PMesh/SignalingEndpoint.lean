import P2PMesh.Base.Run
import P2PMesh.Signaling

namespace P2PMesh.Signaling
open P2PMesh.Base
set_option autoImplicit true

/-- Where a session of the control plane's endpoint stands at one of its awaits. -/
inductive WsPhase where
  | evicting
  | tracked
  | registered
  | relaying (target : Uuid)
  | unregistered
  | ended
deriving DecidableEq

/-- A session has the path that it was opened under, and the device that the path names. -/
structure WsSession where
  path : String
  deviceId : Uuid
  userId : Uuid
  phase : WsPhase
deriving DecidableEq

/-- The device of a session that is registered in the hub and has not ended. -/
def WsSession.live (s : WsSession) : Option Uuid :=
  match s.phase with
  | .registered | .relaying _ => some s.deviceId
  | _ => none

structure ControlPlane where
  hub : SignalingHub
  maxConnsPerDevice : Int
  activeDeviceConnections : Std.TreeMap String (Std.TreeSet Nat)
  sessions : Nat → Option WsSession

def ControlPlane.new (maxConnections : Nat) (maxConnsPerDevice : Int) : ControlPlane :=
  ⟨.new maxConnections none, maxConnsPerDevice, ∅, fun _ => none⟩

/-- One stretch of a session between two awaits. A session arrives with its token accepted and its
device found to be the user's; the set of sockets gives up whichever element it likes. -/
inductive WsOp where
  | arrive (id : Nat) (path : String) (userId : Uuid) (oldest : Nat)
  | track (id : Nat)
  | connect (id : Nat)
  | relay (id : Nat) (toDeviceId : Uuid)
  | relayed (id : Nat) (delivered : Bool)
  | disconnect (id : Nat)
  | untrack (id : Nat)

section ControlPlane
variable (t : ControlPlane)

def ControlPlane.at (id : Nat) (s : WsSession) : ControlPlane :=
  { t with sessions := Function.update t.sessions id (some s) }

def ControlPlane.setConns (path : String) (conns : Std.TreeSet Nat) : ControlPlane :=
  { t with activeDeviceConnections := t.activeDeviceConnections.insert path conns }

/-- The limit per device: the socket of another session is closed to make room, which is awaited
before the new one is added. A set that is empty and full at once has no socket to give up. -/
def ControlPlane.limit (id : Nat) (path : String) (deviceId userId : Uuid) (oldest : Nat) :
    ControlPlane :=
  let conns := t.activeDeviceConnections[path]?.getD ∅
  if (conns.size : Int) < t.maxConnsPerDevice then
    (t.setConns path (conns.insert id)).at id ⟨path, deviceId, userId, .tracked⟩
  else if conns.isEmpty then
    (t.setConns path conns).at id ⟨path, deviceId, userId, .ended⟩
  else if conns.contains oldest then
    (t.setConns path (conns.erase oldest)).at id ⟨path, deviceId, userId, .evicting⟩
  else t

/-- The entry of the device may have been deleted meanwhile, which the session does not survive. -/
def ControlPlane.track (id : Nat) (s : WsSession) : ControlPlane :=
  match t.activeDeviceConnections[s.path]? with
  | none => t.at id { s with phase := .ended }
  | some conns => (t.setConns s.path (conns.insert id)).at id { s with phase := .tracked }

/-- A session that the hub refuses ends at once and stays in the set of its device. -/
def ControlPlane.connect (id : Nat) (s : WsSession) : ControlPlane :=
  match t.hub.connect s.deviceId s.userId id with
  | .error _ => t.at id { s with phase := .ended }
  | .ok hub => { t with hub := hub }.at id { s with phase := .registered }

def ControlPlane.untrack (id : Nat) (s : WsSession) : ControlPlane :=
  match t.activeDeviceConnections[s.path]? with
  | none => t.at id { s with phase := .ended }
  | some conns =>
    if (conns.erase id).isEmpty then
      { t with activeDeviceConnections := t.activeDeviceConnections.erase s.path }.at id
        { s with phase := .ended }
    else (t.setConns s.path (conns.erase id)).at id { s with phase := .ended }

def ControlPlane.step (uuid : String → Option Uuid) : WsOp → ControlPlane
  | .arrive id path userId oldest =>
    match t.sessions id, uuid path with
    | none, some deviceId => t.limit id path deviceId userId oldest
    | _, _ => t
  | .track id =>
    match t.sessions id with
    | some ⟨path, deviceId, userId, .evicting⟩ => t.track id ⟨path, deviceId, userId, .evicting⟩
    | _ => t
  | .connect id =>
    match t.sessions id with
    | some ⟨path, deviceId, userId, .tracked⟩ => t.connect id ⟨path, deviceId, userId, .tracked⟩
    | _ => t
  -- a punch request may also name the session's own device
  | .relay id toDeviceId =>
    match t.sessions id with
    | some ⟨path, deviceId, userId, .registered⟩ =>
      match t.hub.relayTarget deviceId toDeviceId with
      | none => t
      | some _ => t.at id ⟨path, deviceId, userId, .relaying toDeviceId⟩
    | _ => t
  | .relayed id delivered =>
    match t.sessions id with
    | some ⟨path, deviceId, userId, .relaying toDeviceId⟩ =>
      let hub := if delivered then t.hub else t.hub.disconnect toDeviceId
      { t with hub := hub }.at id ⟨path, deviceId, userId, .registered⟩
    | _ => t
  | .disconnect id =>
    match t.sessions id with
    | some ⟨path, deviceId, userId, .registered⟩ =>
      { t with hub := t.hub.disconnect deviceId }.at id ⟨path, deviceId, userId, .unregistered⟩
    | _ => t
  | .untrack id =>
    match t.sessions id with
    | some ⟨path, deviceId, userId, .unregistered⟩ =>
      t.untrack id ⟨path, deviceId, userId, .unregistered⟩
    | _ => t

def ControlPlane.run (uuid : String → Option Uuid) (ops : List WsOp) : ControlPlane :=
  ops.foldl (fun t => t.step uuid) t

def ControlPlane.registry : Registry Uuid Nat :=
  t.hub.registry (fun id => (t.sessions id).bind WsSession.live)

/-- What a step does to the entries of the hub and the sessions that are registered there. -/
def ControlPlane.event : WsOp → Option (RegistryEvent Uuid Nat)
  | .connect id =>
    match t.sessions id with
    | some ⟨_, deviceId, userId, .tracked⟩ =>
      match t.hub.connect deviceId userId id with
      | .error _ => none
      | .ok _ => some (.register id deviceId)
    | _ => none
  | .relayed id delivered =>
    match t.sessions id with
    | some ⟨_, _, _, .relaying toDeviceId⟩ => if delivered then none else some (.drop toDeviceId)
    | _ => none
  | .disconnect id =>
    match t.sessions id with
    | some ⟨_, _, _, .registered⟩ => some (.close id)
    | _ => none
  | _ => none

end ControlPlane

section ControlPlaneSteps
variable {t : ControlPlane} {uuid : String → Option Uuid}

theorem ControlPlane.registry_at (id : Nat) (s : WsSession) : (t.at id s).registry =
    t.hub.registry (Function.update (fun id => (t.sessions id).bind WsSession.live) id s.live) :=
  congrArg t.hub.registry (live_update t.sessions WsSession.live id s)

theorem ControlPlane.registry_move {id : Nat} {s : WsSession}
    (h : (t.sessions id).bind WsSession.live = s.live) : (t.at id s).registry = t.registry := by
  rw [ControlPlane.registry_at, ← h, Function.update_eq_self]
  rfl

theorem ControlPlane.registry_limit {id : Nat} (h : t.sessions id = none) (path : String)
    (deviceId userId : Uuid) (oldest : Nat) :
    (t.limit id path deviceId userId oldest).registry = t.registry := by
  have hid : (t.sessions id).bind WsSession.live = none := by rw [h, Option.bind_none]
  unfold ControlPlane.limit
  dsimp only
  split
  · exact ControlPlane.registry_move hid
  · split
    · exact ControlPlane.registry_move hid
    · split
      · exact ControlPlane.registry_move hid
      · rfl

theorem ControlPlane.registry_track {id : Nat} (h : (t.sessions id).bind WsSession.live = none)
    (s : WsSession) : (t.track id s).registry = t.registry := by
  unfold ControlPlane.track
  split
  · exact ControlPlane.registry_move h
  · exact ControlPlane.registry_move h

theorem ControlPlane.registry_untrack {id : Nat} (h : (t.sessions id).bind WsSession.live = none)
    (s : WsSession) : (t.untrack id s).registry = t.registry := by
  unfold ControlPlane.untrack
  split
  · exact ControlPlane.registry_move h
  · split
    · exact ControlPlane.registry_move h
    · exact ControlPlane.registry_move h

/-- A step does to the registry what its event says. -/
theorem ControlPlane.step_registry (op : WsOp) :
    (t.step uuid op).registry = (t.event op).elim t.registry t.registry.step := by
  cases op with
  | arrive id path userId oldest =>
    simp only [ControlPlane.step, ControlPlane.event]
    split
    · next hid _ => exact ControlPlane.registry_limit hid ..
    · rfl
  | track id =>
    simp only [ControlPlane.step, ControlPlane.event]
    split
    · next hid =>
      apply ControlPlane.registry_track
      rw [hid]
      rfl
    · rfl
  | connect id =>
    simp only [ControlPlane.step, ControlPlane.event]
    split
    · next hid =>
      have hlive : (t.sessions id).bind WsSession.live = none := by rw [hid]; rfl
      unfold ControlPlane.connect
      split
      · next hc =>
        dsimp only at hc
        rw [hc]
        exact ControlPlane.registry_move hlive
      · next hc =>
        dsimp only at hc
        rw [hc, ControlPlane.registry_at]
        exact registry_connect hc hlive
    · rfl
  | relay id toDeviceId =>
    simp only [ControlPlane.step, ControlPlane.event]
    split
    · next hid =>
      split
      · rfl
      · apply ControlPlane.registry_move
        rw [hid]
        rfl
    · rfl
  | relayed id delivered =>
    simp only [ControlPlane.step, ControlPlane.event]
    split
    · next hid =>
      rw [ControlPlane.registry_move]
      · cases delivered with
        | true => rfl
        | false => exact registry_drop _
      · dsimp only
        rw [hid]
        rfl
    · rfl
  | disconnect id =>
    simp only [ControlPlane.step, ControlPlane.event]
    split
    · next hid =>
      rw [ControlPlane.registry_at]
      apply registry_disconnect
      rw [hid]
      rfl
    · rfl
  | untrack id =>
    simp only [ControlPlane.step, ControlPlane.event]
    split
    · next hid =>
      apply ControlPlane.registry_untrack
      rw [hid]
      rfl
    · rfl

end ControlPlaneSteps

end P2PMesh.Signaling
