import P2PMesh.Base.Registry
import P2PMesh.Base.Table

namespace P2PMesh.Signaling
open P2PMesh.Base
set_option autoImplicit true

abbrev Uuid := BitVec 128

/-- The digits of an identifier in groups of 8, 4, 4, 4 and 12. -/
def uuidText (id : Uuid) : String :=
  let digits := id.toHex.toList
  String.intercalate "-" ([(0, 8), (8, 4), (12, 4), (16, 4), (20, 12)].map (fun group =>
    String.ofList ((digits.drop group.1).take group.2)))

structure DeviceConnection where
  deviceId : Uuid
  userId : Uuid
  ws : Nat
deriving DecidableEq

inductive HubError where
  | atCapacity (maxConnections : Nat)
  | userAtLimit (userId : Uuid) (maxConnectionsPerUser : Nat)
deriving DecidableEq

def HubError.text : HubError → String
  | .atCapacity maxConnections =>
    "Signaling hub at capacity (" ++ toString maxConnections ++ " connections)"
  | .userAtLimit userId maxConnectionsPerUser =>
    "User " ++ uuidText userId ++ " has reached max connections (" ++
      toString maxConnectionsPerUser ++ ")"

/-- The hub of the control plane has no limit of connections per user. -/
structure SignalingHub where
  connections : Std.TreeMap Uuid DeviceConnection
  userDevices : Std.TreeMap Uuid (Std.TreeSet Uuid)
  maxConnections : Nat
  maxConnectionsPerUser : Option Nat

def SignalingHub.new (maxConnections : Nat) (maxConnectionsPerUser : Option Nat) : SignalingHub :=
  ⟨∅, ∅, maxConnections, maxConnectionsPerUser⟩

section Hub
variable (h : SignalingHub)

def SignalingHub.connection (deviceId : Uuid) : Option DeviceConnection := h.connections[deviceId]?

def SignalingHub.devicesOf (userId : Uuid) : Std.TreeSet Uuid := h.userDevices[userId]?.getD ∅

def SignalingHub.checkLimits (userId : Uuid) : Except HubError Unit :=
  if h.maxConnections ≤ h.connections.size then .error (.atCapacity h.maxConnections)
  else
    match h.maxConnectionsPerUser with
    | none => .ok ()
    | some limit =>
      if limit ≤ (h.devicesOf userId).size then .error (.userAtLimit userId limit) else .ok ()

def SignalingHub.insert (connection : DeviceConnection) : SignalingHub :=
  { h with
    connections := h.connections.insert connection.deviceId connection
    userDevices := h.userDevices.insert connection.userId
      ((h.devicesOf connection.userId).insert connection.deviceId) }

/-- The connection of a device replaces whichever one it had. -/
def SignalingHub.connect (deviceId userId : Uuid) (ws : Nat) : Except HubError SignalingHub :=
  match h.checkLimits userId with
  | .error e => .error e
  | .ok () => .ok (h.insert ⟨deviceId, userId, ws⟩)

/-- Whoever disconnects a device takes away the connection that it has by then. -/
def SignalingHub.disconnect (deviceId : Uuid) : SignalingHub :=
  match h.connection deviceId with
  | none => h
  | some conn =>
    let userDevices := (h.devicesOf conn.userId).erase deviceId
    { h with
      connections := h.connections.erase deviceId
      userDevices := if userDevices.isEmpty then h.userDevices.erase conn.userId
        else h.userDevices.insert conn.userId userDevices }

/-- The connection that a signal is sent on, which is read before the send is awaited. -/
def SignalingHub.relayTarget (fromDeviceId toDeviceId : Uuid) : Option DeviceConnection :=
  match h.connection fromDeviceId, h.connection toDeviceId with
  | some sender, some target => if sender.userId ≠ target.userId then none else some target
  | _, _ => none

end Hub

section Connections
variable {h : SignalingHub}

theorem connection_insert (c : DeviceConnection) (d : Uuid) :
    (h.insert c).connection d = if c.deviceId = d then some c else h.connection d :=
  getElem?_insert_eq _ _ _ _

theorem connect_eq_ok {d u : Uuid} {ws : Nat} {h' : SignalingHub}
    (hc : h.connect d u ws = .ok h') : h' = h.insert ⟨d, u, ws⟩ := by
  unfold SignalingHub.connect at hc
  split at hc
  · cases hc
  · cases hc
    rfl

theorem connection_disconnect (d d' : Uuid) :
    (h.disconnect d).connection d' = if d = d' then none else h.connection d' := by
  unfold SignalingHub.disconnect
  split
  · next hnone =>
    split
    · next hd =>
      cases hd
      exact hnone
    · rfl
  · exact getElem?_erase_eq _ _ _

end Connections

/-- A hub with the device of every session that is registered and has not ended: sockets are
named by their sessions. -/
def SignalingHub.registry (h : SignalingHub) (live : Nat → Option Uuid) : Registry Uuid Nat where
  entry d := (h.connection d).map DeviceConnection.ws
  live := live

section Sessions
variable {h : SignalingHub} {live : Nat → Option Uuid}

theorem live_update (sessions : Nat → Option S) (liveOf : S → Option Uuid) (id : Nat) (s : S) :
    (fun id' => (Function.update sessions id (some s) id').bind liveOf) =
      Function.update (fun id' => (sessions id').bind liveOf) id (liveOf s) := by
  funext id'
  rw [Function.update_apply, Function.update_apply]
  split <;> rfl

theorem registry_new (maxConnections : Nat) (maxConnectionsPerUser : Option Nat) :
    ((SignalingHub.new maxConnections maxConnectionsPerUser).registry (fun _ => none)).Owned := by
  rintro s d ⟨⟩

theorem entry_disconnect (d : Uuid) :
    (fun d' => ((h.disconnect d).connection d').map DeviceConnection.ws) =
      Function.update (fun d' => (h.connection d').map DeviceConnection.ws) d none := by
  funext d'
  rw [connection_disconnect, Function.update_apply]
  by_cases hd : d = d'
  · rw [if_pos hd, if_pos hd.symm, Option.map_none]
  · rw [if_neg hd, if_neg (Ne.symm hd)]

theorem registry_connect {d u : Uuid} {id : Nat} {h' : SignalingHub}
    (hc : h.connect d u id = .ok h') (hid : live id = none) :
    h'.registry (Function.update live id (some d)) = (h.registry live).step (.register id d) := by
  have hentry : (fun d' => (h'.connection d').map DeviceConnection.ws) =
      Function.update (fun d' => (h.connection d').map DeviceConnection.ws) d (some id) := by
    funext d'
    rw [connect_eq_ok hc, connection_insert, Function.update_apply]
    by_cases hd : d = d'
    · rw [if_pos hd, if_pos hd.symm, Option.map_some]
    · rw [if_neg hd, if_neg (Ne.symm hd)]
  simp only [SignalingHub.registry, Registry.step, hid, hentry]

theorem registry_disconnect {d : Uuid} {id : Nat} (hid : live id = some d) :
    (h.disconnect d).registry (Function.update live id none) =
      (h.registry live).step (.close id) := by
  simp only [SignalingHub.registry, Registry.step, hid, entry_disconnect]

theorem registry_drop (d : Uuid) :
    (h.disconnect d).registry live = (h.registry live).step (.drop d) := by
  simp only [SignalingHub.registry, Registry.step, entry_disconnect]

end Sessions

end P2PMesh.Signaling
