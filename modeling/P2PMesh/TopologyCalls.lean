import P2PMesh.Base.Selection
import P2PMesh.Base.TwoPhase
import P2PMesh.TopologyGraph

namespace P2PMesh.Topology
open P2PMesh.Base
set_option autoImplicit true

/-- The locks of a topology manager, in the order of its fields but for that of the links. -/
inductive TopologyLock where
  | nodes
  | links
  | adjacency
  | relayElections
  | version
deriving DecidableEq

/-- The nodes as the manager of the graph keeps them, and which of them are online. -/
structure NodeTable where
  nodes : Std.TreeMap String TopologyNode
  online : Std.TreeMap String Bool

abbrev TopologyLock.Value : TopologyLock → Type
  | .nodes => NodeTable
  | .links => Std.TreeMap LinkKey TopologyLink
  | .adjacency => Adjacency
  | .relayElections => Std.TreeMap String (List String)
  | .version => UInt64

/-- The public calls. Where a hash map is gone through, the order is that of the call. -/
inductive TopologyCall where
  | upsertNode (node : TopologyNode) (online : Bool)
  | removeNode (deviceId : String)
  | addLink (source target : String) (link : TopologyLink)
  | removeLink (source target : String)
  | shortestPath (order : IterationOrder) (src dst : String) (fuel : Nat)
  | electRelays (order : List String → List String) (region : String)
  | getRelays
  | getStats
  | findBestRelay (order : List String → List String) (src dst : String)

structure TopologyStats where
  totalNodes : Nat
  onlineNodes : Nat
  totalLinks : Nat
  activeLinks : Nat
  version : UInt64

inductive TopologyAnswer where
  | done
  | path (found : Option (Option (List String × Nat)))
  | elected (relays : List String)
  | elections (relays : Std.TreeMap String (List String))
  | stats (stats : TopologyStats)
  | relay (found : Option String)

def NodeTable.upsert (t : NodeTable) (node : TopologyNode) (online : Bool) : NodeTable :=
  ⟨t.nodes.insert node.deviceId node, t.online.insert node.deviceId online⟩

def NodeTable.remove (t : NodeTable) (deviceId : String) : NodeTable :=
  ⟨t.nodes.erase deviceId, t.online.erase deviceId⟩

def NodeTable.isOnline (t : NodeTable) (deviceId : String) : Bool :=
  (t.online[deviceId]?).getD false

/-- The three of the highest bandwidth among the nodes that can relay and are online. -/
def NodeTable.elect (t : NodeTable) (order : List String → List String) : List String :=
  let candidates := (order t.nodes.keys).filter (fun id =>
    (t.nodes[id]?).any TopologyNode.supportsRelay ∧ t.isOnline id)
  (sortByKey (fun id => OrderDual.toDual
    (((t.nodes[id]?).map TopologyNode.maxBandwidthBps).getD 0).toNat) candidates).take 3

/-- A manager as if it had no locks. -/
structure TopologyService where
  manager : TopologyManager
  online : Std.TreeMap String Bool
  relayElections : Std.TreeMap String (List String)

def TopologyService.new : TopologyService := ⟨.new, ∅, ∅⟩

section Service
variable (t : TopologyService)

def TopologyService.electRelays (order : List String → List String) : List String :=
  NodeTable.elect ⟨t.manager.nodes, t.online⟩ order

def TopologyService.getStats : TopologyStats where
  totalNodes := t.manager.nodes.size
  onlineNodes :=
    tally (fun id _ => NodeTable.isOnline ⟨t.manager.nodes, t.online⟩ id) t.manager.nodes
  totalLinks := t.manager.links.size
  activeLinks := tally (fun _ link => decide (link.state = .up)) t.manager.links
  version := t.manager.version

/-- A call without anything else going on. -/
def TopologyService.step : TopologyCall → TopologyService
  | .upsertNode node online =>
    ⟨t.manager.upsertNode node, t.online.insert node.deviceId online, t.relayElections⟩
  | .removeNode deviceId =>
    ⟨t.manager.removeNode deviceId, t.online.erase deviceId, t.relayElections⟩
  | .addLink source target link => { t with manager := t.manager.addLink source target link }
  | .removeLink source target => { t with manager := t.manager.removeLink source target }
  | .electRelays order region =>
    { t with relayElections := t.relayElections.insert region (t.electRelays order) }
  | _ => t

def TopologyService.answer : TopologyCall → TopologyAnswer
  | .shortestPath order src dst fuel =>
    .path (Adjacency.shortestPath order t.manager.adjacency src dst fuel)
  | .electRelays order _ => .elected (t.electRelays order)
  | .getRelays => .elections t.relayElections
  | .getStats => .stats t.getStats
  | .findBestRelay order src dst => .relay (t.manager.findBestRelay order src dst)
  | _ => .done

end Service

def TopologyLock.rank : TopologyLock → Nat
  | .nodes => 0
  | .links => 1
  | .adjacency => 2
  | .relayElections => 3
  | .version => 4

def TopologyLock.empty : (i : TopologyLock) → i.Value
  | .nodes => ⟨∅, ∅⟩
  | .links => ∅
  | .adjacency => ∅
  | .relayElections => ∅
  | .version => 0

/-- The locks a call takes, one after the other; all its guards live until it returns. -/
def TopologyCall.requests : TopologyCall → List (Request TopologyLock)
  | .upsertNode _ _ => [⟨.nodes, .write⟩, ⟨.adjacency, .write⟩, ⟨.version, .write⟩]
  | .removeNode _ => [⟨.nodes, .write⟩, ⟨.adjacency, .write⟩, ⟨.version, .write⟩]
  | .addLink _ _ _ => [⟨.links, .write⟩, ⟨.adjacency, .write⟩, ⟨.version, .write⟩]
  | .removeLink _ _ => [⟨.links, .write⟩, ⟨.adjacency, .write⟩]
  | .shortestPath _ _ _ _ => [⟨.adjacency, .read⟩]
  | .electRelays _ _ => [⟨.nodes, .read⟩, ⟨.relayElections, .write⟩]
  | .getRelays => [⟨.relayElections, .read⟩]
  | .getStats => [⟨.nodes, .read⟩, ⟨.links, .read⟩, ⟨.version, .read⟩]
  | .findBestRelay _ _ _ => [⟨.nodes, .read⟩, ⟨.adjacency, .read⟩]

/-- What a call writes under a lock that it has just taken. -/
def TopologyCall.write : TopologyCall → (i : TopologyLock) → (∀ j : TopologyLock, j.Value) → i.Value
  | .upsertNode node online, .nodes, s => (s .nodes).upsert node online
  | .upsertNode node _, .adjacency, s => (s .adjacency).insertIfNew node.deviceId ∅
  | .upsertNode _ _, .version, s => s .version + 1
  | .removeNode deviceId, .nodes, s => (s .nodes).remove deviceId
  | .removeNode deviceId, .adjacency, s => (s .adjacency).erase deviceId
  | .removeNode _, .version, s => s .version + 1
  | .addLink source target link, .links, s => (s .links).insert ⟨source, target⟩ link
  | .addLink source target _, .adjacency, s =>
    Adjacency.addNeighbor (Adjacency.addNeighbor (s .adjacency) source target) target source
  | .addLink _ _ _, .version, s => s .version + 1
  | .removeLink source target, .links, s => (s .links).erase ⟨source, target⟩
  | .removeLink source target, .adjacency, s =>
    Adjacency.removeNeighbor (Adjacency.removeNeighbor (s .adjacency) source target) target source
  | .electRelays order region, .relayElections, s =>
    (s .relayElections).insert region ((s .nodes).elect order)
  | _, i, s => s i

/-- What the locks protect, taken together. -/
def TopologyService.of (s : ∀ i : TopologyLock, i.Value) : TopologyService where
  manager := ⟨(s .nodes).nodes, s .links, s .adjacency, s .version⟩
  online := (s .nodes).online
  relayElections := s .relayElections

def TopologyCall.answer (c : TopologyCall) (s : ∀ i : TopologyLock, i.Value) : TopologyAnswer :=
  (TopologyService.of s).answer c

section Protocol
variable {c : TopologyCall} {s s' : ∀ i : TopologyLock, i.Value}

theorem TopologyCall.requests_ascending (c : TopologyCall) :
    c.requests.Pairwise (fun r r' => r.lock.rank < r'.lock.rank) := by
  cases c <;> simp [TopologyCall.requests, TopologyLock.rank]

/-- What is written under a lock depends on what stands there, and for an election on the nodes. -/
theorem TopologyCall.write_eq {i : TopologyLock} (hi : s i = s' i)
    (hn : ∀ order region, c = .electRelays order region → i = .relayElections →
      s .nodes = s' .nodes) : c.write i s = c.write i s' := by
  cases c with
  | electRelays order region =>
    cases i with
    | relayElections => simp only [TopologyCall.write, hi, hn order region rfl rfl]
    | _ => exact hi
  | _ => cases i <;> simp only [TopologyCall.write, hi]

theorem TopologyCall.write_congr {front back : List (Request TopologyLock)}
    {r : Request TopologyLock} (h : c.requests = front ++ r :: back)
    (hs : SameOn (locksOf (front ++ [r])) s s') : c.write r.lock s = c.write r.lock s' := by
  obtain ⟨hfront, hlock⟩ := sameOn_concat.mp hs
  apply TopologyCall.write_eq hlock
  rintro order region rfl hr
  cases front with
  | nil =>
    cases h
    cases hr
  | cons r₀ front =>
    obtain ⟨rfl, -⟩ := List.cons.inj h
    exact hfront .nodes List.mem_cons_self

theorem TopologyCall.answer_congr (hs : SameOn (locksOf c.requests) s s') :
    c.answer s = c.answer s' := by
  cases c with
  | shortestPath order src dst fuel =>
    have ha : s .adjacency = s' .adjacency := hs _ (by simp [TopologyCall.requests, locksOf])
    change TopologyAnswer.path (Adjacency.shortestPath order (s .adjacency) src dst fuel) =
      .path (Adjacency.shortestPath order (s' .adjacency) src dst fuel)
    rw [ha]
  | electRelays order region =>
    have hn : s .nodes = s' .nodes := hs _ (by simp [TopologyCall.requests, locksOf])
    change TopologyAnswer.elected ((s .nodes).elect order) = .elected ((s' .nodes).elect order)
    rw [hn]
  | getRelays =>
    have he : s .relayElections = s' .relayElections :=
      hs _ (by simp [TopologyCall.requests, locksOf])
    exact congrArg TopologyAnswer.elections he
  | getStats =>
    have hn : s .nodes = s' .nodes := hs _ (by simp [TopologyCall.requests, locksOf])
    have hl : s .links = s' .links := hs _ (by simp [TopologyCall.requests, locksOf])
    have hv : s .version = s' .version := hs _ (by simp [TopologyCall.requests, locksOf])
    simp only [TopologyCall.answer, TopologyService.answer, TopologyService.getStats,
      TopologyService.of, hn, hl, hv]
  | findBestRelay order src dst =>
    have hn : s .nodes = s' .nodes := hs _ (by simp [TopologyCall.requests, locksOf])
    have ha : s .adjacency = s' .adjacency := hs _ (by simp [TopologyCall.requests, locksOf])
    simp only [TopologyCall.answer, TopologyService.answer, TopologyManager.findBestRelay,
      TopologyService.of, hn, ha]
  | _ => rfl

end Protocol

def topologyProtocol : Protocol TopologyLock TopologyCall TopologyAnswer TopologyLock.Value where
  requests := TopologyCall.requests
  write := TopologyCall.write
  answer := TopologyCall.answer
  rank := TopologyLock.rank
  ascending := TopologyCall.requests_ascending
  write_congr h _ _ hs := TopologyCall.write_congr h hs
  answer_congr hs := TopologyCall.answer_congr hs

/-- Calls one after the other, each with what it answers. -/
def TopologyService.serial (t : TopologyService) :
    List TopologyCall → List (TopologyCall × TopologyAnswer)
  | [] => []
  | c :: cs => (c, t.answer c) :: TopologyService.serial (t.step c) cs

theorem TopologyService.of_exec (s : ∀ i : TopologyLock, i.Value) (c : TopologyCall) :
    TopologyService.of (topologyProtocol.exec s c) = (TopologyService.of s).step c := by
  cases c <;> rfl

theorem TopologyService.answer_exec (s : ∀ i : TopologyLock, i.Value) (c : TopologyCall) :
    c.answer (topologyProtocol.exec s c) = (TopologyService.of s).answer c := by
  cases c <;> rfl

theorem TopologyService.of_foldl (s : ∀ i : TopologyLock, i.Value) (cs : List TopologyCall) :
    TopologyService.of (cs.foldl topologyProtocol.exec s) =
      cs.foldl TopologyService.step (.of s) := by
  induction cs generalizing s with
  | nil => rfl
  | cons c cs ih =>
    rw [List.foldl_cons, List.foldl_cons, ih, TopologyService.of_exec]

theorem TopologyService.serial_of (s : ∀ i : TopologyLock, i.Value) (cs : List TopologyCall) :
    topologyProtocol.serial s cs = (TopologyService.of s).serial cs := by
  induction cs generalizing s with
  | nil => rfl
  | cons c cs ih =>
    rw [Protocol.serial, TopologyService.serial, ih, TopologyService.of_exec]
    exact congrArg (fun a => (c, a) :: _) (TopologyService.answer_exec s c)

/-- The calls of a manager whose locks are taken one by one. -/
abbrev TopologyTasks := Shared TopologyLock TopologyCall TopologyAnswer TopologyLock.Value

def TopologyTasks.run (ops : List (TaskOp TopologyCall)) : TopologyTasks :=
  (Shared.new TopologyLock.empty).run topologyProtocol ops

/-- In whatever order concurrent calls take their locks, each answers what it would have answered
had the calls been made one after the other in the order in which they have returned; and when none
is under way, the manager is the one those calls leave. -/
theorem TopologyTasks.run_serial (ops : List (TaskOp TopologyCall)) :
    (run ops).returned = TopologyService.new.serial ((run ops).returned.map Prod.fst) ∧
      ((run ops).tasks.isEmpty = true → TopologyService.of (run ops).state =
        ((run ops).returned.map Prod.fst).foldl TopologyService.step .new) := by
  obtain ⟨hreturned, hstate⟩ := Shared.serializable_run topologyProtocol TopologyLock.empty ops
  constructor
  · rw [TopologyService.serial_of] at hreturned
    exact hreturned
  · intro hempty
    exact (congrArg TopologyService.of (hstate hempty)).trans (TopologyService.of_foldl _ _)

/-- No call of a manager is ever stuck: once no new calls come, steps that do something return all
of them after a number of steps that is known from the start, and until then there is one. -/
theorem TopologyTasks.run_returns (ops ops' : List (TaskOp TopologyCall))
    (hops : ∀ op ∈ ops', op.isStart = false)
    (hmoves : Guarded (Shared.step topologyProtocol)
      (fun m op => m.step topologyProtocol op ≠ m) (run ops) ops') :
    ops'.length ≤ (run ops).work ∧
      ((run (ops ++ ops')).tasks.isEmpty = true ↔ ops'.length = (run ops).work) ∧
      (ops'.length < (run ops).work → ∃ op, op.isStart = false ∧
        (run (ops ++ ops')).step topologyProtocol op ≠ run (ops ++ ops')) := by
  have h := Shared.returns_run topologyProtocol TopologyLock.empty ops ops' hops hmoves
  have happend : run (ops ++ ops') = Shared.run topologyProtocol (run ops) ops' :=
    List.foldl_append
  rw [happend]
  exact h

/-- A relay is added while the best one is asked for, and the question waits for the nodes. -/
theorem TopologyTasks.run_returns_waiting :
    ∃ op, op.isStart = false ∧
      (run ([.start 0 (.upsertNode ⟨"relay", true, 100⟩ true),
        .start 1 (.findBestRelay id "alice" "bob")] ++
          [.ask 0, .ask 1, .grant 0])).step topologyProtocol op ≠
        run ([.start 0 (.upsertNode ⟨"relay", true, 100⟩ true),
          .start 1 (.findBestRelay id "alice" "bob")] ++ [.ask 0, .ask 1, .grant 0]) :=
  (run_returns _ [.ask 0, .ask 1, .grant 0] (by
    intro op hop
    simp only [List.mem_cons, List.not_mem_nil, or_false] at hop
    rcases hop with rfl | rfl | rfl <;> rfl)
    ⟨fun h => absurd (congrArg Shared.work h) (by decide +kernel),
      fun h => absurd (congrArg Shared.work h) (by decide +kernel),
      fun h => absurd (congrArg Shared.work h) (by decide +kernel), trivial⟩).2.2
    (by decide +kernel)

end P2PMesh.Topology
