import P2PMesh.Base.Machine
import P2PMesh.Base.Net
import P2PMesh.Base.Run
import P2PMesh.Base.Table

namespace P2PMesh.MeshRouting
open P2PMesh.Base
set_option autoImplicit true

def infinity : UInt32 := 16

structure RouteFlags where
  connected : Bool := false
  learned : Bool := false
  poisoned : Bool := false
  staticRoute : Bool := false
deriving DecidableEq

/-- A route entry; instants and durations are counted in nanoseconds. -/
structure DvRoute where
  cidr : Ipv4Net
  metric : UInt32
  nextHop : String
  lastUpdated : Nat
  holdDown : Bool
  holdDownUntil : Option Nat
  flags : RouteFlags
deriving DecidableEq

abbrev DvRoutes := Std.TreeMap Ipv4Net DvRoute

structure DistanceVectorTable where
  nodeId : String
  routes : DvRoutes
  peerUpdates : Std.TreeMap String Nat
  peerTables : Std.TreeMap String DvRoutes

structure DistanceVector where
  table : DistanceVectorTable
  holdDownDuration : Nat
  splitHorizon : Bool
  poisonReverse : Bool

def DistanceVector.new (nodeId : String) : DistanceVector :=
  ⟨⟨nodeId, ∅, ∅, ∅⟩, 180000000000, true, true⟩

def DistanceVector.withRoutes (dv : DistanceVector) (routes : DvRoutes) : DistanceVector :=
  { dv with table := { dv.table with routes := routes } }

/-- The route of a prefix, if the table has one. -/
def DistanceVector.route (dv : DistanceVector) (cidr : Ipv4Net) : Option DvRoute :=
  dv.table.routes[cidr]?

def connectedRoute (nodeId : String) (cidr : Ipv4Net) (metric : UInt32) (now : Nat) : DvRoute where
  cidr := cidr
  metric := metric
  nextHop := nodeId
  lastUpdated := now
  holdDown := false
  holdDownUntil := none
  flags := { connected := true }

def learnedRoute (fromPeer : String) (cidr : Ipv4Net) (metric : UInt32) (now : Nat) :
    DvRoute where
  cidr := cidr
  metric := metric
  nextHop := fromPeer
  lastUpdated := now
  holdDown := false
  holdDownUntil := none
  flags := { learned := true }

def DistanceVector.addConnectedRoute (dv : DistanceVector) (cidr : Ipv4Net) (metric : UInt32)
    (now : Nat) : DistanceVector :=
  dv.withRoutes (dv.table.routes.insert cidr (connectedRoute dv.table.nodeId cidr metric now))

/-- A change that an update reports: the prefix, its new metric and the peer. -/
abbrev Change := Ipv4Net × UInt32 × String

section Update
variable (fromPeer : String) (hopCost : UInt32) (now : Nat)

/-- A peer's metric replaces what is held whenever it comes from the next hop and differs, and
from any other peer only if it is lower. -/
def shouldUpdate (newMetric : UInt32) : Option DvRoute → Bool
  | none => true
  | some existing =>
    if existing.nextHop = fromPeer then newMetric ≠ existing.metric
    else newMetric < existing.metric

def DvRoute.poison (r : DvRoute) : DvRoute :=
  { r with metric := infinity, flags := { r.flags with poisoned := true }, lastUpdated := now }

/-- One entry of a peer's update, over the routes and the changes so far. -/
def processEntry (acc : DvRoutes × List Change) (entry : Ipv4Net × UInt32) :
    DvRoutes × List Change :=
  let (cidr, peerMetric) := entry
  let newMetric := saturatingAddU32 peerMetric hopCost
  if infinity ≤ peerMetric then
    match acc.1[cidr]? with
    | some myRoute =>
      if myRoute.nextHop = fromPeer ∧ myRoute.flags.connected = false then
        (acc.1.insert cidr (myRoute.poison now), acc.2 ++ [(cidr, infinity, fromPeer)])
      else acc
    | none => acc
  else if shouldUpdate fromPeer newMetric acc.1[cidr]? then
    (acc.1.insert cidr (learnedRoute fromPeer cidr newMetric now),
      acc.2 ++ [(cidr, newMetric, fromPeer)])
  else acc

/-- The table as the peer described it, the last entry of a prefix standing. -/
def peerSnapshot (peerRoutes : List (Ipv4Net × UInt32)) : DvRoutes :=
  peerRoutes.foldl (fun t e => t.insert e.1 (learnedRoute fromPeer e.1 e.2 now)) ∅

/-- An update of a peer and the changes it makes; the clock is read once. -/
def DistanceVector.processUpdate (dv : DistanceVector) (peerRoutes : List (Ipv4Net × UInt32)) :
    DistanceVector × List Change :=
  let (routes, changes) :=
    peerRoutes.foldl (processEntry fromPeer hopCost now) (dv.table.routes, [])
  ({ dv with table :=
      { dv.table with
        routes := routes
        peerTables := dv.table.peerTables.insert fromPeer (peerSnapshot fromPeer now peerRoutes)
        peerUpdates := dv.table.peerUpdates.insert fromPeer now } }, changes)

end Update

/-- What a route of the table tells a peer: nothing at infinity, and infinity to its next hop. -/
def DistanceVector.advertised (dv : DistanceVector) (toPeer : String) (route : DvRoute) :
    Option UInt32 :=
  if infinity ≤ route.metric then none
  else if dv.splitHorizon = true ∧ route.nextHop = toPeer then
    if dv.poisonReverse then some infinity else none
  else some route.metric

def DistanceVector.buildUpdate (dv : DistanceVector) (toPeer : String) :
    List (Ipv4Net × UInt32) :=
  dv.table.routes.toList.filterMap
    (fun e => (dv.advertised toPeer e.2).map (fun metric => (e.1, metric)))

def DistanceVector.buildFullUpdate (dv : DistanceVector) : List (Ipv4Net × UInt32) :=
  (dv.table.routes.toList.filter (fun e => e.2.metric < infinity)).map
    (fun e => (e.1, e.2.metric))

section Expiry
variable (dv : DistanceVector) (now : Nat)

/-- No update of the peer for longer than the timeout. -/
def DistanceVector.stale (timeout : Nat) (peer : String) : Bool :=
  dv.table.peerUpdates[peer]?.any (fun last => timeout < now - last)

def DistanceVector.stalePeers (timeout : Nat) : List String :=
  (dv.table.peerUpdates.toList.filter (fun e => timeout < now - e.2)).map (·.1)

def DvRoute.expirePeer (holdDownDuration : Nat) (peer : String) (r : DvRoute) : DvRoute :=
  if r.nextHop = peer ∧ r.flags.learned = true then
    { r.poison now with holdDown := true, holdDownUntil := some (now + holdDownDuration) }
  else r

/-- One stale peer: its routes are poisoned and counted. -/
def expirePeer (holdDownDuration : Nat) (acc : DvRoutes × Nat) (peer : String) : DvRoutes × Nat :=
  (acc.1.map (fun _ r => r.expirePeer now holdDownDuration peer),
    acc.2 + (acc.1.filter (fun _ r => r.nextHop = peer ∧ r.flags.learned = true)).size)

/-- The hold-down of the route is over. -/
def DvRoute.lapsed (r : DvRoute) : Bool :=
  r.holdDown && (match r.holdDownUntil with
    | some expiry => decide (expiry < now)
    | none => false)

/-- The table after a sweep and the number of routes that it poisoned. -/
def DistanceVector.expireStaleRoutes (timeout : Nat) : DistanceVector × Nat :=
  let (routes, expired) := (dv.stalePeers now timeout).foldl (expirePeer now dv.holdDownDuration)
    (dv.table.routes, 0)
  (dv.withRoutes (routes.filter (fun _ r => !r.lapsed now)), expired)

def DvRoute.removePeer (holdDownDuration : Nat) (peerId : String) (r : DvRoute) : DvRoute :=
  if r.nextHop = peerId ∧ r.flags.connected = false then
    { r with holdDown := true, holdDownUntil := some (now + holdDownDuration) }
  else r

def DistanceVector.removePeer (peerId : String) : DistanceVector :=
  { dv with table :=
    { dv.table with
      peerUpdates := dv.table.peerUpdates.erase peerId
      peerTables := dv.table.peerTables.erase peerId
      routes := dv.table.routes.map (fun _ r => r.removePeer now dv.holdDownDuration peerId) } }

end Expiry

/-- The calls that change a table, each with the clock it reads. -/
inductive DvOp where
  | addConnectedRoute (cidr : Ipv4Net) (metric : UInt32) (now : Nat)
  | processUpdate (fromPeer : String) (peerRoutes : List (Ipv4Net × UInt32)) (hopCost : UInt32)
    (now : Nat)
  | expireStaleRoutes (timeout now : Nat)
  | removePeer (peerId : String) (now : Nat)

def DistanceVector.step (dv : DistanceVector) : DvOp → DistanceVector
  | .addConnectedRoute cidr metric now => dv.addConnectedRoute cidr metric now
  | .processUpdate fromPeer peerRoutes hopCost now =>
    (dv.processUpdate fromPeer hopCost now peerRoutes).1
  | .expireStaleRoutes timeout now => (dv.expireStaleRoutes now timeout).1
  | .removePeer peerId now => dv.removePeer now peerId

/-- The network 100.64.0.0/12. -/
def meshNet : Ipv4Net := ⟨100 <<< 24 ||| 64 <<< 16, 12, by decide⟩

def DistanceVector.run (dv : DistanceVector) (ops : List DvOp) : DistanceVector :=
  ops.foldl DistanceVector.step dv

end P2PMesh.MeshRouting
