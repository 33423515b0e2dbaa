import Mathlib.Algebra.BigOperators.Group.Finset.Basic
import Mathlib.Data.Fintype.Basic
import P2PMesh.SignalingMaps

namespace P2PMesh.Signaling
open P2PMesh.Base
set_option autoImplicit true

/-- A counter of the store, which the store deletes by itself when its time to live runs out. -/
structure UserCount where
  value : Int
  expires : Bool
deriving DecidableEq

/-- What the nodes share: where the devices of each user are registered, and how many are. -/
structure SharedStore (k : Nat) where
  deviceNodes : Uuid → Uuid → Option (Fin k)
  globalConnections : Int
  userCounts : Uuid → Option UserCount

def SharedStore.empty : SharedStore k := ⟨fun _ _ => none, 0, fun _ => none⟩

def maxGlobalConnections : Nat := 10000

def maxConnectionsPerUser : Nat := 5

section Store
variable (r : SharedStore k)

/-- A counter that is not there has not counted anything. -/
def SharedStore.userCount (userId : Uuid) : Int := (r.userCounts userId).elim 0 UserCount.value

def SharedStore.checkGlobalConnectionLimit : Bool := r.globalConnections < maxGlobalConnections

def SharedStore.checkUserConnectionLimit (userId : Uuid) : Bool :=
  r.userCount userId < maxConnectionsPerUser

def SharedStore.setNode (userId deviceId : Uuid) (node : Option (Fin k)) : SharedStore k :=
  { r with
    deviceNodes := Function.update r.deviceNodes userId
      (Function.update (r.deviceNodes userId) deviceId node) }

def SharedStore.addGlobal (amount : Int) : SharedStore k :=
  { r with globalConnections := r.globalConnections + amount }

/-- A counter that is changed keeps its time to live. -/
def SharedStore.addUser (userId : Uuid) (amount : Int) : SharedStore k :=
  { r with
    userCounts := Function.update r.userCounts userId
      (some ⟨r.userCount userId + amount, (r.userCounts userId).elim false UserCount.expires⟩) }

def SharedStore.setExpiry (userId : Uuid) : SharedStore k :=
  { r with
    userCounts := Function.update r.userCounts userId
      ((r.userCounts userId).map (fun count => { count with expires := true })) }

def SharedStore.expire (userId : Uuid) : SharedStore k :=
  { r with
    userCounts := Function.update r.userCounts userId
      ((r.userCounts userId).filter (fun count => !count.expires)) }

def SharedStore.getDeviceNode (deviceId userId : Uuid) : Option (Fin k) :=
  r.deviceNodes userId deviceId

end Store

/-- Where a session stands in the calls that connect and disconnect it. A phase is left by one
command to the store, by one change of the node's own hub, or by one message to another device. -/
inductive CallPhase where
  | arrived
  | checkedGlobal
  | checkedUser
  | connected (notify : List Uuid)
  | keySet
  | countedGlobal
  | countedUser
  | expirySet
  | serving
  | unregistering (userId : Uuid)
  | keyDeleted (userId : Uuid)
  | uncountedGlobal (userId : Uuid)
  | uncountedUser (userId : Uuid)
  | leaving
  | left (userId : Uuid) (notify : List Uuid)
  | ended
deriving DecidableEq

structure ClusterSession (k : Nat) where
  node : Fin k
  deviceId : Uuid
  userId : Uuid
  phase : CallPhase
deriving DecidableEq

/-- The nodes of the service, each with a hub of its own, and the store that they share. -/
structure Cluster (k : Nat) where
  hubs : Fin k → SignalingHub
  store : SharedStore k
  sessions : Std.TreeMap Nat (ClusterSession k)

def Cluster.new (k : Nat) : Cluster k :=
  ⟨fun _ => .new 10000 (some 5), .empty, ∅⟩

/-- A call starts or goes one command further, a socket closes, or the store lets a counter go. -/
inductive CallOp (k : Nat) where
  | arrive (id : Nat) (node : Fin k) (deviceId userId : Uuid)
  | advance (id : Nat)
  | close (id : Nat)
  | expire (userId : Uuid)

section Cluster
variable (t : Cluster k)

def Cluster.at (id : Nat) (s : ClusterSession k) (phase : CallPhase) : Cluster k :=
  { t with sessions := t.sessions.insert id { s with phase := phase } }

def Cluster.setHub (node : Fin k) (hub : SignalingHub) : Cluster k :=
  { t with hubs := Function.update t.hubs node hub }

def Cluster.setStore (store : SharedStore k) : Cluster k := { t with store := store }

def Cluster.connect (id : Nat) (s : ClusterSession k) : Cluster k :=
  match (t.hubs s.node).connect s.deviceId s.userId id with
  | .error _ => t.at id s .ended
  | .ok hub => (t.setHub s.node hub).at id s (.connected (hub.devicesOf s.userId).toList)

/-- The local hub takes the device away whoever has it registered by now, and tells the devices
that its user has left. -/
def Cluster.leave (id : Nat) (s : ClusterSession k) : Cluster k :=
  match (t.hubs s.node).connection s.deviceId with
  | none => t.at id s .ended
  | some conn =>
    let hub := (t.hubs s.node).disconnect s.deviceId
    (t.setHub s.node hub).at id s (.left conn.userId (hub.devicesOf conn.userId).toList)

/-- The next command of the call that a session is in. -/
def Cluster.advance (id : Nat) (s : ClusterSession k) : Cluster k :=
  match s.phase with
  | .arrived => t.at id s (if t.store.checkGlobalConnectionLimit then .checkedGlobal else .ended)
  | .checkedGlobal =>
    t.at id s (if t.store.checkUserConnectionLimit s.userId then .checkedUser else .ended)
  | .checkedUser => t.connect id s
  | .connected (_ :: notify) => t.at id s (.connected notify)
  | .connected [] => (t.setStore (t.store.setNode s.userId s.deviceId s.node)).at id s .keySet
  | .keySet => (t.setStore (t.store.addGlobal 1)).at id s .countedGlobal
  | .countedGlobal => (t.setStore (t.store.addUser s.userId 1)).at id s .countedUser
  | .countedUser => (t.setStore (t.store.setExpiry s.userId)).at id s .expirySet
  | .expirySet => t.at id s .serving
  | .serving => t
  | .unregistering userId =>
    (t.setStore (t.store.setNode userId s.deviceId none)).at id s (.keyDeleted userId)
  | .keyDeleted userId => (t.setStore (t.store.addGlobal (-1))).at id s (.uncountedGlobal userId)
  | .uncountedGlobal userId =>
    (t.setStore (t.store.addUser userId (-1))).at id s (.uncountedUser userId)
  | .uncountedUser _ => t.at id s .leaving
  | .leaving => t.leave id s
  | .left userId (_ :: notify) => t.at id s (.left userId notify)
  | .left _ [] => t.at id s .ended
  | .ended => t

/-- A session that ends leaves the store alone when its device is not registered any more. -/
def Cluster.close (id : Nat) (s : ClusterSession k) : Cluster k :=
  match s.phase with
  | .serving =>
    match (t.hubs s.node).connection s.deviceId with
    | none => t.at id s .leaving
    | some conn => t.at id s (.unregistering conn.userId)
  | _ => t

def Cluster.step : CallOp k → Cluster k
  | .arrive id node deviceId userId =>
    match t.sessions[id]? with
    | none => t.at id ⟨node, deviceId, userId, .arrived⟩ .arrived
    | some _ => t
  | .advance id =>
    match t.sessions[id]? with
    | none => t
    | some s => t.advance id s
  | .close id =>
    match t.sessions[id]? with
    | none => t
    | some s => t.close id s
  | .expire userId => t.setStore (t.store.expire userId)

def Cluster.run (ops : List (CallOp k)) : Cluster k := ops.foldl Cluster.step t

/-- The registered devices over all nodes. -/
def Cluster.registered : Nat := ∑ n, (t.hubs n).connections.size

def Cluster.registeredOf (userId : Uuid) : Nat := ∑ n, (t.hubs n).registeredOf userId

theorem Cluster.hubs_setHub (n m : Fin k) (hub : SignalingHub) :
    (t.setHub n hub).hubs m = if m = n then hub else t.hubs m :=
  Function.update_apply ..

theorem Cluster.sessions_at (id id' : Nat) (s : ClusterSession k) (phase : CallPhase) :
    (t.at id s phase).sessions[id']? =
      if id = id' then some { s with phase := phase } else t.sessions[id']? :=
  getElem?_insert_eq _ _ _ _

end Cluster

end P2PMesh.Signaling
