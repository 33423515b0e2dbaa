import Mathlib.Data.Rat.Defs
import Mathlib.Algebra.Order.Field.Rat
import Mathlib.Order.WithBot
import P2PMesh.Base.Net
import P2PMesh.Base.Run
import P2PMesh.Base.Selection
import P2PMesh.Base.Table

namespace P2PMesh.PathSelection
open P2PMesh.Base
set_option autoImplicit true

inductive PathType where
  | direct
  | relay
  | local
  | holePunch
  | quic
deriving DecidableEq

inductive IpVersion where
  | v4
  | v6
deriving DecidableEq

inductive PathState where
  | discovering
  | active
  | degraded
  | inactive
  | removed
deriving DecidableEq

/-- The arithmetic of floating point numbers: nothing is asked of it, but that numbers are compared
by the values they stand for, the infinities at the ends, and what is not a number with nothing. -/
structure FloatArith (F : Type) where
  ofU64 : UInt64 → F
  literal : ℚ → F
  add : F → F → F
  sub : F → F → F
  mul : F → F → F
  div : F → F → F
  min : F → F → F
  value : F → Option (WithBot (WithTop ℚ))

def FloatArith.lt (A : FloatArith F) (x y : F) : Bool :=
  match A.value x, A.value y with
  | some v, some w => decide (v < w)
  | _, _ => false

/-- Instants are in nanoseconds. -/
structure PathMetrics (F : Type) where
  rttUs : UInt64
  lossRate : F
  jitterUs : UInt64
  bandwidthBps : UInt64
  mos : F
  updatedAt : Nat
deriving DecidableEq

structure NetworkPath (F : Type) where
  pathId : String
  remoteAddr : SocketAddr
  localAddr : Option SocketAddr
  pathType : PathType
  ipVersion : IpVersion
  state : PathState
  metrics : PathMetrics F
  score : F
  createdAt : Nat
  lastActive : Nat
  failures : UInt32
  interface : Option String
deriving DecidableEq

def ipv6Preference : ℚ := 15 / 10

def PathType.factor : PathType → ℚ
  | .local => 12 / 10
  | .direct => 11 / 10
  | .holePunch => 1
  | .quic => 95 / 100
  | .relay => 7 / 10

structure Measurement (F : Type) where
  rttUs : UInt64
  lossRate : F
  jitterUs : UInt64
  bandwidthBps : UInt64
  now : Nat
deriving DecidableEq

section Scoring
variable (A : FloatArith F)

def scorePath (path : NetworkPath F) : F :=
  let score := A.literal 1000
  let score :=
    if 0 < path.metrics.rttUs then
      let rttMs := A.div (A.ofU64 path.metrics.rttUs) (A.literal 1000)
      A.sub score (A.mul rttMs (A.literal 2))
    else score
  let score :=
    A.mul score (A.sub (A.literal 1) (A.min path.metrics.lossRate (A.literal (99 / 100))))
  let score :=
    if 0 < path.metrics.jitterUs then
      A.sub score
        (A.mul (A.div (A.ofU64 path.metrics.jitterUs) (A.literal 1000)) (A.literal (5 / 10)))
    else score
  let score :=
    if 0 < path.metrics.bandwidthBps then
      let mbps := A.div (A.ofU64 path.metrics.bandwidthBps) (A.literal 1000000)
      A.add score (A.min (A.mul mbps (A.literal 5)) (A.literal 500))
    else score
  let score := if path.ipVersion = .v6 then A.mul score (A.literal ipv6Preference) else score
  A.mul score (A.literal path.pathType.factor)

def clamp (x low high : F) : F :=
  if A.lt x low then low else if A.lt high x then high else x

def calculateMos (rttUs : UInt64) (lossRate : F) (jitterUs : UInt64) : F :=
  let mos := A.literal 5
  let rttMs := A.div (A.ofU64 rttUs) (A.literal 1000)
  let mos := A.sub mos (A.mul (A.div rttMs (A.literal 100)) (A.literal (5 / 10)))
  let mos := A.sub mos (A.mul lossRate (A.literal 40))
  let jitterMs := A.div (A.ofU64 jitterUs) (A.literal 1000)
  let mos := A.sub mos (A.mul (A.div jitterMs (A.literal 50)) (A.literal (3 / 10)))
  clamp A mos (A.literal 1) (A.literal 5)

def Measurement.losesMore (m : Measurement F) (rate : ℚ) : Bool :=
  A.lt (A.literal rate) m.lossRate

/-- A measurement may make a path worse, and never better than it makes the worst one. -/
def NetworkPath.measure (path : NetworkPath F) (m : Measurement F) : NetworkPath F :=
  let metrics : PathMetrics F :=
    ⟨m.rttUs, m.lossRate, m.jitterUs, m.bandwidthBps,
      calculateMos A m.rttUs m.lossRate m.jitterUs, m.now⟩
  let state := if m.losesMore A (5 / 100) ∨ 500000 < m.rttUs then .degraded else path.state
  let state := if m.losesMore A (20 / 100) then .inactive else state
  { path with metrics, state }

/-- The loop that keeps the first of the paths with the highest score. -/
def firstBest (paths : List (NetworkPath F)) : Option (NetworkPath F × F) :=
  paths.foldl (fun best path =>
    match best with
    | none => some (path, scorePath A path)
    | some b => if A.lt b.2 (scorePath A path) then some (path, scorePath A path) else some b) none

/-- Of paths with the same score a maximum is the last. -/
def lastBest (paths : List (NetworkPath F)) : Option (NetworkPath F) :=
  paths.foldl (fun best path =>
    match best with
    | none => some path
    | some b => if A.lt (scorePath A path) (scorePath A b) then some b else some path) none

end Scoring

/-- The selector with the calls that hold a lock while they wait for another: a removal holds the
paths and waits for the active paths, a lookup of the active path holds those and waits for the
paths. -/
structure PathSelector (F : Type) where
  paths : Std.TreeMap String (List (NetworkPath F))
  activePaths : Std.TreeMap String String
  removing : Option (String × String)
  looking : Std.TreeMap Nat (String × String)

def PathSelector.new (F : Type) : PathSelector F := ⟨∅, ∅, none, ∅⟩

/-- A removal takes the paths, and then clears the active path; a lookup reads the active path, and
then the paths. The other calls take one lock, once. -/
inductive SelectorOp (F : Type) where
  | addPath (peerId : String) (path : NetworkPath F)
  | removePath (peerId pathId : String)
  | clearActive
  | updateMetrics (peerId pathId : String) (m : Measurement F)
  | setActivePath (peerId pathId : String)
  | readActive (call : Nat) (peerId : String)
  | readPaths (call : Nat)

section Selector
variable (A : FloatArith F) (s : PathSelector F)

/-- What is stored under a peer; nothing is what an empty list is to all who ask. -/
def PathSelector.pathsOf (peerId : String) : List (NetworkPath F) := (s.paths[peerId]?).getD []

/-- The lock on the paths is free. -/
def PathSelector.pathsFree : Bool := s.removing.isNone

/-- Nobody reads the active paths. -/
def PathSelector.activeFree : Bool := s.looking.isEmpty

def PathSelector.addPath (peerId : String) (path : NetworkPath F) : PathSelector F :=
  { s with paths := s.paths.insert peerId (s.pathsOf peerId ++ [path]) }

def PathSelector.removePath (peerId pathId : String) : PathSelector F :=
  { s with
    paths := s.paths.modify peerId (fun l => l.filter (fun p => p.pathId ≠ pathId))
    removing := some (peerId, pathId) }

def PathSelector.clearActive (peerId pathId : String) : PathSelector F :=
  { s with
    activePaths :=
      if s.activePaths[peerId]? = some pathId then s.activePaths.erase peerId else s.activePaths
    removing := none }

def PathSelector.updateMetrics (peerId pathId : String) (m : Measurement F) : PathSelector F :=
  { s with
    paths := s.paths.modify peerId
      (fun l => l.map (fun p => if p.pathId = pathId then p.measure A m else p)) }

def PathSelector.setActivePath (peerId pathId : String) : PathSelector F :=
  { s with activePaths := s.activePaths.insert peerId pathId }

/-- Without an active path the lookup is over. -/
def PathSelector.readActive (call : Nat) (peerId : String) : PathSelector F :=
  match s.activePaths[peerId]? with
  | none => s
  | some pathId => { s with looking := s.looking.insert call (peerId, pathId) }

/-- The answer of a lookup. -/
def PathSelector.readPaths (call : Nat) : Option (NetworkPath F) × PathSelector F :=
  match s.looking[call]? with
  | none => (none, s)
  | some (peerId, pathId) =>
    ((s.pathsOf peerId).find? (fun p => p.pathId = pathId),
      { s with looking := s.looking.erase call })

/-- A call that finds its lock taken waits, and nothing happens. -/
def PathSelector.step : SelectorOp F → PathSelector F
  | .addPath peerId path => if s.pathsFree then s.addPath peerId path else s
  | .removePath peerId pathId => if s.pathsFree then s.removePath peerId pathId else s
  | .clearActive =>
    match s.removing with
    | some (peerId, pathId) => if s.activeFree then s.clearActive peerId pathId else s
    | none => s
  | .updateMetrics peerId pathId m => if s.pathsFree then s.updateMetrics A peerId pathId m else s
  | .setActivePath peerId pathId => if s.activeFree then s.setActivePath peerId pathId else s
  | .readActive call peerId => if s.looking[call]?.isNone then s.readActive call peerId else s
  | .readPaths call => if s.pathsFree then (s.readPaths call).2 else s

def PathSelector.run (ops : List (SelectorOp F)) : PathSelector F :=
  ops.foldl (PathSelector.step A) s

def PathSelector.selectBestPath (peerId : String) : Option (NetworkPath F) :=
  (firstBest A ((s.pathsOf peerId).filter
    (fun p => p.state = .active ∨ p.state = .degraded))).map (·.1)

def PathSelector.happyEyeballsSelect (peerId : String) : Option (NetworkPath F) :=
  let v6Paths := (s.pathsOf peerId).filter (fun p => p.ipVersion = .v6 ∧ p.state = .active)
  let v4Paths := (s.pathsOf peerId).filter (fun p => p.ipVersion = .v4 ∧ p.state = .active)
  match lastBest A v6Paths with
  | some best => some best
  | none => lastBest A v4Paths

/-- The sort is stable; its order is one if no score is not a number. -/
def PathSelector.getRankedPaths (peerId : String) : List (NetworkPath F) :=
  (s.pathsOf peerId).insertionSort (fun p q => A.lt (scorePath A p) (scorePath A q) = false)

def priorities : List (IpVersion × PathType) :=
  [(.v6, .direct), (.v4, .direct), (.v6, .holePunch), (.v4, .holePunch), (.v6, .relay),
    (.v4, .relay)]

def PathSelector.ipv6PrioritySelect (peerId : String) : Option (NetworkPath F) :=
  priorities.findSome? (fun priority => (s.pathsOf peerId).find? (fun p =>
    p.ipVersion = priority.1 ∧ p.pathType = priority.2 ∧ p.state = .active))

end Selector

end P2PMesh.PathSelection
