import Mathlib.Algebra.Order.Floor.Semifield
import Mathlib.Data.Rat.Floor
import P2PMesh.Base.Catalogue
import P2PMesh.Base.Machine
import P2PMesh.Base.Selection
import P2PMesh.Base.Table

namespace P2PMesh.SmartRelay
open P2PMesh.Base
set_option autoImplicit true

inductive RelayTier where
  | edge
  | regional
  | global
  | core
deriving DecidableEq

def RelayTier.number : RelayTier → Nat
  | .edge => 0
  | .regional => 1
  | .global => 2
  | .core => 3

instance : Ord RelayTier where
  compare := compareOn RelayTier.number

instance : Std.TransOrd RelayTier :=
  inferInstanceAs (Std.TransCmp (compareOn RelayTier.number))

instance : Std.LawfulEqOrd RelayTier where
  eq_of_compare {t u} h := by cases t <;> cases u <;> first | rfl | cases h

def RelayTier.maxLatencyMs : RelayTier → Nat
  | .edge => 10
  | .regional => 50
  | .global => 150
  | .core => 300

structure GeoLocation where
  latitude : ℚ
  longitude : ℚ
deriving DecidableEq

structure RelayCapacity where
  maxBandwidthBps : UInt64
  maxConnections : UInt32
  maxPps : UInt64
deriving DecidableEq

structure RelayLoad where
  bandwidthBps : UInt64
  connections : UInt32
  pps : UInt64
  cpuUtilization : ℚ
deriving DecidableEq

/-- Numbers are exact and instants are in nanoseconds. -/
structure SmartRelayNode where
  id : String
  tier : RelayTier
  location : GeoLocation
  capacity : RelayCapacity
  load : RelayLoad
  lastSeen : Nat
  uptimePct : ℚ
deriving DecidableEq

/-- A part of the load, of a capacity that may be nothing. -/
def loadShare (used capacity : Nat) : ℚ := if 0 < capacity then used / capacity else 0

def RelayLoad.loadFactor (load : RelayLoad) (capacity : RelayCapacity) : ℚ :=
  4 / 10 * loadShare load.bandwidthBps.toNat capacity.maxBandwidthBps.toNat +
    3 / 10 * loadShare load.connections.toNat capacity.maxConnections.toNat +
    2 / 10 * loadShare load.pps.toNat capacity.maxPps.toNat + 1 / 10 * load.cpuUtilization

/-- The weights of the default scorer, which the manager uses, in exact numbers. -/
def healthScore (relay : SmartRelayNode) (latencyUs : Nat) (lossRate : ℚ) : ℚ :=
  let tierMaxLatency := relay.tier.maxLatencyMs * 1000
  let latencyScore := max (1 - (latencyUs : ℚ) / tierMaxLatency) 0
  let lossScore := max (1 - lossRate / (1 / 10)) 0
  let loadScore := max (1 - relay.load.loadFactor relay.capacity) 0
  let uptimeScore := relay.uptimePct / 100
  let remaining := relay.capacity.maxBandwidthBps.toNat - relay.load.bandwidthBps.toNat
  let capacityScore := min (loadShare remaining relay.capacity.maxBandwidthBps.toNat) 1
  25 / 100 * latencyScore + 25 / 100 * lossScore + 20 / 100 * loadScore + 15 / 100 * uptimeScore +
    15 / 100 * capacityScore

def geoRegion (loc : GeoLocation) : String :=
  if 30 ≤ loc.latitude ∧ loc.latitude ≤ 60 ∧ -10 ≤ loc.longitude ∧ loc.longitude ≤ 40 then
    "europe"
  else if 25 ≤ loc.latitude ∧ loc.latitude ≤ 50 ∧ -130 ≤ loc.longitude ∧ loc.longitude ≤ -65 then
    "north-america"
  else if -55 ≤ loc.latitude ∧ loc.latitude ≤ 15 ∧ -80 ≤ loc.longitude ∧ loc.longitude ≤ -35 then
    "south-america"
  else if 15 ≤ loc.latitude ∧ loc.latitude ≤ 55 ∧ 70 ≤ loc.longitude ∧ loc.longitude ≤ 150 then
    "asia-pacific"
  else if -35 ≤ loc.latitude ∧ loc.latitude ≤ 35 ∧ -20 ≤ loc.longitude ∧ loc.longitude ≤ 55 then
    "africa"
  else "other"

structure LoadPredictor where
  history : List (Nat × RelayLoad)
  maxHistory : Nat
deriving DecidableEq

def LoadPredictor.new (maxHistory : Nat) : LoadPredictor := ⟨[], maxHistory⟩

def LoadPredictor.observe (p : LoadPredictor) (load : RelayLoad) (now : Nat) : LoadPredictor :=
  let history := p.history ++ [(now, load)]
  { p with history := if p.maxHistory < history.length then history.tail else history }

/-- The maps beside the relays, and where in them a relay is entered: a set of ids for each tier
and each region, and one entry by id. -/
inductive IndexKey where
  | tier (t : RelayTier)
  | region (name : String)
  | predictor
  | selection
deriving DecidableEq

structure SmartRelayStats where
  totalRelays : Nat
  aliveRelays : Nat
  byTier : List (RelayTier × Nat)
  totalBandwidthBps : UInt64
  usedBandwidthBps : UInt64
  utilization : ℚ
deriving DecidableEq

/-- In the order in which they are written. -/
def SmartRelayNode.keys (relay : SmartRelayNode) : List IndexKey :=
  [.tier relay.tier, .region (geoRegion relay.location), .predictor, .selection]

/-- The call that holds the write lock of the relays, and what it has still to do. -/
inductive Writer where
  | removing (relayId : String) (keys : List IndexKey)
  | observing (relayId : String) (load : RelayLoad)
deriving DecidableEq

/-- The manager with the calls that are under way: registrations that have stored their relay,
the one call that holds the write lock, and selections that hold the read lock. -/
structure SmartRelayManager where
  relays : Std.TreeMap String SmartRelayNode
  byTier : Std.TreeMap RelayTier (Std.TreeSet String)
  byRegion : Std.TreeMap String (Std.TreeSet String)
  predictors : Std.TreeMap String LoadPredictor
  selections : Std.TreeMap String UInt64
  registering : Std.TreeMap Nat (String × List IndexKey)
  writer : Option Writer
  selecting : Std.TreeMap Nat String

def SmartRelayManager.new : SmartRelayManager := ⟨∅, ∅, ∅, ∅, ∅, ∅, none, ∅⟩

/-- Each call writes one map after the other. What a selection finds depends on the order of the
map's iteration. -/
inductive RelayOp where
  | registerRelay (call : Nat) (relay : SmartRelayNode)
  | enter (call : Nat)
  | removeRelay (relayId : String)
  | leave
  | updateLoad (relayId : String) (load : RelayLoad) (now : Nat)
  | observe (now : Nat)
  | findBestRelay (call : Nat) (clientLocation : GeoLocation) (requiredBandwidthBps : UInt64)
      (tierHint : Option RelayTier) (now : Nat) (order : List String)
  | count (call : Nat)

section Manager
variable (distanceKm : GeoLocation → GeoLocation → ℚ) (m : SmartRelayManager)

def SmartRelayManager.enterKey (relayId : String) : IndexKey → SmartRelayManager
  | .tier t => { m with byTier := m.byTier.insert t ((m.byTier[t]?.getD ∅).insert relayId) }
  | .region name =>
    { m with byRegion := m.byRegion.insert name ((m.byRegion[name]?.getD ∅).insert relayId) }
  | .predictor => { m with predictors := m.predictors.insert relayId (.new 128) }
  | .selection => { m with selections := m.selections.insert relayId 0 }

def SmartRelayManager.leaveKey (relayId : String) : IndexKey → SmartRelayManager
  | .tier t => { m with byTier := m.byTier.modify t (fun ids => ids.erase relayId) }
  | .region name => { m with byRegion := m.byRegion.modify name (fun ids => ids.erase relayId) }
  | .predictor => { m with predictors := m.predictors.erase relayId }
  | .selection => { m with selections := m.selections.erase relayId }

/-- Nobody holds the lock of the relays. -/
def SmartRelayManager.unlocked : Bool := m.writer.isNone && m.selecting.isEmpty

def SmartRelayManager.registerRelay (call : Nat) (relay : SmartRelayNode) : SmartRelayManager :=
  if m.unlocked ∧ (m.registering[call]?).isNone then
    { m with
      relays := m.relays.insert relay.id relay
      registering := m.registering.insert call (relay.id, relay.keys) }
  else m

def SmartRelayManager.enter (call : Nat) : SmartRelayManager :=
  match m.registering[call]? with
  | some (relayId, key :: keys) =>
    { m.enterKey relayId key with
      registering :=
        match unfinished relayId keys with
        | some rest => m.registering.insert call rest
        | none => m.registering.erase call }
  | _ => m

def SmartRelayManager.removeRelay (relayId : String) : SmartRelayManager :=
  if m.unlocked then
    match m.relays[relayId]? with
    | none => m
    | some relay =>
      { m with relays := m.relays.erase relayId, writer := some (.removing relayId relay.keys) }
  else m

def SmartRelayManager.leave : SmartRelayManager :=
  match m.writer with
  | some (.removing relayId (key :: keys)) =>
    { m.leaveKey relayId key with
      writer := (unfinished relayId keys).map (fun rest => .removing rest.1 rest.2) }
  | _ => m

def SmartRelayManager.updateLoad (relayId : String) (load : RelayLoad) (now : Nat) :
    SmartRelayManager :=
  if m.unlocked then
    { m with
      relays := m.relays.modify relayId (fun relay => { relay with load := load, lastSeen := now })
      writer := some (.observing relayId load) }
  else m

def SmartRelayManager.observe (now : Nat) : SmartRelayManager :=
  match m.writer with
  | some (.observing relayId load) =>
    { m with
      predictors := m.predictors.modify relayId (fun p => p.observe load now)
      writer := none }
  | _ => m

/-- Seen within the last 30 seconds. -/
def SmartRelayNode.alive (relay : SmartRelayNode) (now : Nat) : Bool :=
  decide (now - relay.lastSeen < 30 * 10 ^ 9)

def SmartRelayNode.serves (relay : SmartRelayNode) (requiredBandwidthBps : UInt64)
    (tierHint : Option RelayTier) (now : Nat) : Bool :=
  tierHint.all (fun t => relay.tier = t) &&
    decide (requiredBandwidthBps.toNat ≤
      relay.capacity.maxBandwidthBps.toNat - relay.load.bandwidthBps.toNat) && relay.alive now

/-- Microseconds of an exact distance, which are far below `2 ^ 64` on the earth. -/
def estimatedRttUs (a b : GeoLocation) : Nat :=
  ⌊2 * distanceKm a b / 200000 * 1000000⌋₊ + ⌊distanceKm a b / 1000 * 5000⌋₊

def SmartRelayManager.values (order : List String) : List SmartRelayNode :=
  order.filterMap (fun relayId => m.relays[relayId]?)

/-- The first of the relays that serve with the highest score. -/
def SmartRelayManager.bestRelay (clientLocation : GeoLocation) (requiredBandwidthBps : UInt64)
    (tierHint : Option RelayTier) (now : Nat) (order : List String) : Option SmartRelayNode :=
  let candidates := (m.values order).filter
    (fun relay => relay.serves requiredBandwidthBps tierHint now)
  (sortByKey (fun relay => OrderDual.toDual
    (healthScore relay (estimatedRttUs distanceKm clientLocation relay.location) 0))
      candidates).head?

def SmartRelayManager.findBestRelay (call : Nat) (clientLocation : GeoLocation)
    (requiredBandwidthBps : UInt64) (tierHint : Option RelayTier) (now : Nat)
    (order : List String) : SmartRelayManager :=
  if m.writer.isNone ∧ (m.selecting[call]?).isNone then
    match m.bestRelay distanceKm clientLocation requiredBandwidthBps tierHint now order with
    | none => m
    | some best => { m with selecting := m.selecting.insert call best.id }
  else m

def SmartRelayManager.count (call : Nat) : SmartRelayManager :=
  match m.selecting[call]? with
  | none => m
  | some relayId =>
    { m with
      selections := m.selections.modify relayId (fun n => n + 1)
      selecting := m.selecting.erase call }

/-- The nearest relays in metres, the ones that come first in the map before others. -/
def SmartRelayManager.findNearestRelays (location : GeoLocation) (count : Nat) (now : Nat)
    (order : List String) : List SmartRelayNode :=
  (sortByKey (fun relay => ⌊distanceKm location relay.location * 1000⌋₊)
    ((m.values order).filter (fun relay => relay.alive now))).take count

/-- The first pair of two relays, each of them within 100 ms of its end. -/
def SmartRelayManager.findBestPath (srcLocation dstLocation : GeoLocation) (now : Nat)
    (order : List String) : Option (List String) :=
  let nearSrc := m.findNearestRelays distanceKm srcLocation 3 now order
  let nearDst := m.findNearestRelays distanceKm dstLocation 3 now order
  let pairs := nearSrc.flatMap (fun src => nearDst.map (fun dst => (src, dst)))
  (pairs.find? (fun pair => pair.1 ≠ pair.2 ∧
    estimatedRttUs distanceKm srcLocation pair.1.location < 100000 ∧
      estimatedRttUs distanceKm pair.2.location dstLocation < 100000)).map
        (fun pair => [pair.1.id, pair.2.id])

/-- The relays stay locked until the sets of the tiers are read. A sum of bandwidths may panic. -/
def SmartRelayManager.stats (overflowChecks : Bool) (now : Nat) : Option SmartRelayStats := do
  let nodes := m.relays.toList.map (fun e => e.2)
  let total ← (nodes.map (fun r => r.capacity.maxBandwidthBps)).foldlM (addU64 overflowChecks) 0
  let used ← (nodes.map (fun r => r.load.bandwidthBps)).foldlM (addU64 overflowChecks) 0
  return {
    totalRelays := m.relays.size
    aliveRelays := nodes.countP (fun r => r.alive now)
    byTier := m.byTier.toList.map (fun e => (e.1, e.2.size))
    totalBandwidthBps := total
    usedBandwidthBps := used
    utilization := loadShare used.toNat total.toNat }

def SmartRelayManager.step : RelayOp → SmartRelayManager
  | .registerRelay call relay => m.registerRelay call relay
  | .enter call => m.enter call
  | .removeRelay relayId => m.removeRelay relayId
  | .leave => m.leave
  | .updateLoad relayId load now => m.updateLoad relayId load now
  | .observe now => m.observe now
  | .findBestRelay call clientLocation requiredBandwidthBps tierHint now order =>
    m.findBestRelay distanceKm call clientLocation requiredBandwidthBps tierHint now order
  | .count call => m.count call

def SmartRelayManager.run (ops : List RelayOp) : SmartRelayManager :=
  ops.foldl (SmartRelayManager.step distanceKm) m

end Manager

end P2PMesh.SmartRelay
