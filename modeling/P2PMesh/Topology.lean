import Mathlib.Data.List.MinMax
import P2PMesh.Base.Run
import P2PMesh.Base.ShortestPath
import P2PMesh.Base.Table

namespace P2PMesh.Topology
open P2PMesh.Base
set_option autoImplicit true

/-- What the graph computations read of a node; a capability set has more fields. -/
structure TopologyNode where
  deviceId : String
  supportsRelay : Bool
  maxBandwidthBps : UInt64
deriving DecidableEq

inductive LinkState where
  | up
  | down
  | degraded
  | unknown
deriving DecidableEq

structure TopologyLink where
  source : String
  target : String
  state : LinkState
deriving DecidableEq

/-- The key of a link: its ends in the order in which it has been added. -/
structure LinkKey where
  source : String
  target : String
deriving DecidableEq

instance : Ord LinkKey where
  compare := compareLex (compareOn LinkKey.source) (compareOn LinkKey.target)

instance : Std.TransOrd LinkKey :=
  inferInstanceAs (Std.TransCmp (compareLex (compareOn LinkKey.source) (compareOn LinkKey.target)))

instance : Std.LawfulEqOrd LinkKey where
  eq_of_compare {a b} h := by
    obtain ⟨hs, ht⟩ := Ordering.then_eq_eq.mp h
    cases a
    cases b
    cases Std.compare_eq_iff_eq.mp hs
    cases Std.compare_eq_iff_eq.mp ht
    rfl

abbrev Adjacency := Std.TreeMap String (Std.TreeSet String)

structure TopologyManager where
  nodes : Std.TreeMap String TopologyNode
  links : Std.TreeMap LinkKey TopologyLink
  adjacency : Adjacency
  version : UInt64

def TopologyManager.new : TopologyManager := ⟨∅, ∅, ∅, 0⟩

/-- The entry of a node gets another neighbor; a node without one gets an entry. -/
def Adjacency.addNeighbor (adj : Adjacency) (source target : String) : Adjacency :=
  adj.insert source ((adj[source]?.getD ∅).insert target)

def Adjacency.removeNeighbor (adj : Adjacency) (source target : String) : Adjacency :=
  adj.modify source (fun neighbors => neighbors.erase target)

section Manager
variable (t : TopologyManager)

def TopologyManager.upsertNode (node : TopologyNode) : TopologyManager where
  nodes := t.nodes.insert node.deviceId node
  links := t.links
  adjacency := t.adjacency.insertIfNew node.deviceId ∅
  version := t.version + 1

/-- The links of the node and its place among the neighbors of others stay. -/
def TopologyManager.removeNode (deviceId : String) : TopologyManager where
  nodes := t.nodes.erase deviceId
  links := t.links
  adjacency := t.adjacency.erase deviceId
  version := t.version + 1

def TopologyManager.addLink (source target : String) (link : TopologyLink) : TopologyManager where
  nodes := t.nodes
  links := t.links.insert ⟨source, target⟩ link
  adjacency := Adjacency.addNeighbor (Adjacency.addNeighbor t.adjacency source target) target source
  version := t.version + 1

/-- A link in the other direction is not looked for. -/
def TopologyManager.removeLink (source target : String) : TopologyManager where
  nodes := t.nodes
  links := t.links.erase ⟨source, target⟩
  adjacency :=
    Adjacency.removeNeighbor (Adjacency.removeNeighbor t.adjacency source target) target source
  version := t.version

end Manager

/-- The orders in which the hash maps and sets of a computation are gone through, which may be
others at each turn. -/
structure IterationOrder where
  distances : Nat → List (String × Nat) → List (String × Nat)
  neighbors : Nat → List String → List String
  distances_perm : ∀ turn l, (distances turn l).Perm l
  neighbors_perm : ∀ turn l, (neighbors turn l).Perm l

/-- The maps of a search; hops are counted without an end, which a count of nodes never comes
near. -/
structure Search where
  dist : Std.TreeMap String Nat
  prev : Std.TreeMap String String
  visited : Std.TreeSet String

def Search.start (src : String) : Search := ⟨(∅ : Std.TreeMap String Nat).insert src 0, ∅, ∅⟩

section Search
variable (order : IterationOrder) (adj : Adjacency)

/-- The first of the nearest nodes that have been met and not visited. -/
def Search.current (s : Search) (turn : Nat) : Option String :=
  (((order.distances turn s.dist.toList).filter (fun e => e.1 ∉ s.visited)).argmin (·.2)).map (·.1)

/-- An edge from the current node, whose distance is known. -/
def Search.relax (current : String) (s : Search) (neighbor : String) : Search :=
  if neighbor ∈ s.visited then s
  else
    match s.dist[current]? with
    | none => s
    | some d =>
      let alt := d + 1
      if s.dist[neighbor]?.all (fun known => alt < known) then
        { s with
          dist := s.dist.insert neighbor alt
          prev := s.prev.insert neighbor current }
      else s

def Search.visit (s : Search) (turn : Nat) (current : String) : Search :=
  (order.neighbors turn ((adj[current]?.getD ∅).toList)).foldl (Search.relax current)
    { s with visited := s.visited.insert current }

/-- The loop of the search and the one that goes back from the destination, which puts each node
in front instead of turning the path around in the end; `none` when the fuel runs out. -/
def Search.run (dst : String) : Nat → Nat → Search → Option (Option (List String × Nat))
  | 0, _, _ => none
  | fuel + 1, turn, s =>
    match s.current order turn with
    | none => some none
    | some current =>
      if current = dst then
        (tracePrev (fun node => s.prev[node]?) fuel dst [dst]).map
          (fun path => (s.dist[current]?).map (fun d => (path, d)))
      else Search.run dst fuel (turn + 1) (s.visit order adj turn current)

def Adjacency.shortestPath (src dst : String) (fuel : Nat) : Option (Option (List String × Nat)) :=
  if src ∉ adj ∨ dst ∉ adj then some none
  else Search.run order adj dst fuel 0 (Search.start src)

end Search

/-- The common neighbors are gone through in some order, and the last of the highest bandwidth is
taken. -/
def TopologyManager.findBestRelay (t : TopologyManager) (order : List String → List String)
    (src dst : String) : Option String :=
  match t.adjacency[src]?, t.adjacency[dst]? with
  | some srcNeighbors, some dstNeighbors =>
    let common := order (srcNeighbors.toList.filter (fun id => id ∈ dstNeighbors))
    let relays := common.filter (fun id => (t.nodes[id]?).any TopologyNode.supportsRelay)
    relays.reverse.argmax
      (fun id => (((t.nodes[id]?).map TopologyNode.maxBandwidthBps).getD 0).toNat)
  | _, _ => none

/-- A step along the adjacency; a node without an entry has no neighbors. -/
def Adjacency.Edge (adj : Adjacency) (x y : String) : Prop := y ∈ adj[x]?.getD ∅

instance (adj : Adjacency) (x y : String) : Decidable (Adjacency.Edge adj x y) :=
  inferInstanceAs (Decidable (y ∈ _))

section Adjacency
variable {adj : Adjacency} {x y : String}

theorem edge_addNeighbor (s t : String) : Adjacency.Edge (Adjacency.addNeighbor adj s t) x y ↔
    Adjacency.Edge adj x y ∨ x = s ∧ y = t := by
  have hlookup : (Adjacency.addNeighbor adj s t)[x]? =
      if s = x then some ((adj[s]?.getD ∅).insert t) else adj[x]? := getElem?_insert_eq _ _ _ _
  rw [Adjacency.Edge, Adjacency.Edge, hlookup]
  by_cases hs : s = x
  · cases hs
    rw [if_pos rfl, Option.getD_some, Std.TreeSet.mem_insert, Std.compare_eq_iff_eq, or_comm]
    simp only [true_and, eq_comm]
  · rw [if_neg hs]
    exact ⟨Or.inl, fun h => h.resolve_right (fun h => hs h.1.symm)⟩

theorem edge_removeNeighbor (s t : String) :
    Adjacency.Edge (Adjacency.removeNeighbor adj s t) x y ↔
      Adjacency.Edge adj x y ∧ ¬ (x = s ∧ y = t) := by
  have hlookup : (Adjacency.removeNeighbor adj s t)[x]? =
      if s = x then adj[s]?.map (fun neighbors => neighbors.erase t) else adj[x]? :=
    getElem?_modify_eq _ _ _ _
  rw [Adjacency.Edge, Adjacency.Edge, hlookup]
  by_cases hs : s = x
  · cases hs
    rw [if_pos rfl]
    cases adj[x]? with
    | none =>
      exact iff_of_false Std.TreeSet.not_mem_emptyc (fun h => Std.TreeSet.not_mem_emptyc h.1)
    | some neighbors =>
      rw [Option.map_some, Option.getD_some, Option.getD_some, Std.TreeSet.mem_erase, and_comm,
        ne_eq, Std.compare_eq_iff_eq, eq_comm (a := t)]
      simp only [true_and]
  · rw [if_neg hs]
    exact ⟨fun h => ⟨h, fun h => hs h.1.symm⟩, fun h => h.1⟩

theorem edge_insertIfNew (k : String) :
    Adjacency.Edge (adj.insertIfNew k ∅) x y ↔ Adjacency.Edge adj x y := by
  rw [Adjacency.Edge, Adjacency.Edge, Std.TreeMap.getElem?_insertIfNew]
  split
  · next hk =>
    rw [Std.compare_eq_iff_eq] at hk
    have hnone : adj[x]? = none := by
      rw [← hk.1]
      exact Std.TreeMap.getElem?_eq_none hk.2
    rw [hnone]
    rfl
  · rfl

theorem edge_erase (k : String) :
    Adjacency.Edge (adj.erase k) x y ↔ x ≠ k ∧ Adjacency.Edge adj x y := by
  rw [Adjacency.Edge, Adjacency.Edge, getElem?_erase_eq]
  split
  · next hk => exact iff_of_false Std.TreeSet.not_mem_emptyc (fun h => h.1 hk.symm)
  · next hk => exact ⟨fun h => ⟨Ne.symm hk, h⟩, fun h => h.2⟩

theorem mem_addNeighbor (s t : String) : x ∈ Adjacency.addNeighbor adj s t ↔ x = s ∨ x ∈ adj := by
  rw [Adjacency.addNeighbor, Std.TreeMap.mem_insert, Std.compare_eq_iff_eq, eq_comm]

theorem mem_removeNeighbor (s t : String) :
    x ∈ Adjacency.removeNeighbor adj s t ↔ x ∈ adj := Std.TreeMap.mem_modify

end Adjacency

end P2PMesh.Topology
