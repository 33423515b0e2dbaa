import P2PMesh.TopologyPath

namespace P2PMesh.Topology
open P2PMesh.Base
set_option autoImplicit true

inductive TopologyOp where
  | upsertNode (node : TopologyNode)
  | removeNode (deviceId : String)
  | addLink (source target : String) (link : TopologyLink)
  | removeLink (source target : String)

def TopologyManager.step (t : TopologyManager) : TopologyOp → TopologyManager
  | .upsertNode node => t.upsertNode node
  | .removeNode deviceId => t.removeNode deviceId
  | .addLink source target link => t.addLink source target link
  | .removeLink source target => t.removeLink source target

/-- A manager with the nodes that have been removed and not added again since. -/
structure TopologyHistory where
  manager : TopologyManager
  removed : List String

def TopologyHistory.new : TopologyHistory := ⟨.new, []⟩

def removedAfter (removed : List String) : TopologyOp → List String
  | .upsertNode node => removed.filter (fun id => id ≠ node.deviceId)
  | .removeNode deviceId => deviceId :: removed
  | _ => removed

def TopologyHistory.step (h : TopologyHistory) (op : TopologyOp) : TopologyHistory :=
  ⟨h.manager.step op, removedAfter h.removed op⟩

def TopologyHistory.run (h : TopologyHistory) (ops : List TopologyOp) : TopologyHistory :=
  ops.foldl TopologyHistory.step h

/-- A link between two nodes is stored, in one direction or the other. -/
def TopologyManager.Linked (t : TopologyManager) (x y : String) : Prop :=
  ⟨x, y⟩ ∈ t.links ∨ ⟨y, x⟩ ∈ t.links

/-- The adjacency is symmetric and says what the links say, and no removed node is in it. -/
structure TopologyHistory.Consistent (h : TopologyHistory) : Prop where
  symmetric : ∀ x y, Adjacency.Edge h.manager.adjacency x y →
    Adjacency.Edge h.manager.adjacency y x
  linked : ∀ x y, Adjacency.Edge h.manager.adjacency x y ↔ h.manager.Linked x y
  removed : ∀ x ∈ h.removed, x ∉ h.manager.adjacency ∧
    ∀ y, ¬ Adjacency.Edge h.manager.adjacency y x

/-- No path and no relay that is found goes by a removed node or where no link is stored. -/
structure TopologyHistory.RoutesOnLinks (h : TopologyHistory) : Prop where
  path : ∀ order src dst fuel p d,
    Adjacency.shortestPath order h.manager.adjacency src dst fuel = some (some (p, d)) →
    p.IsChain h.manager.Linked ∧ ∀ x ∈ p, x ∉ h.removed
  relay : ∀ (order : List String → List String), (∀ l, (order l).Perm l) → ∀ src dst r,
    h.manager.findBestRelay order src dst = some r →
    h.manager.Linked src r ∧ h.manager.Linked dst r ∧ r ∉ h.removed

/-- A node is removed only when no link ends at it, a link only when there is none in the other
direction, and a link is added only between nodes that are not removed. -/
def TopologyHistory.Orderly (h : TopologyHistory) : TopologyOp → Prop
  | .upsertNode _ => True
  | .removeNode deviceId => ∀ y, ¬ h.manager.Linked deviceId y
  | .addLink source target _ => source ∉ h.removed ∧ target ∉ h.removed
  | .removeLink source target => source = target ∨ ⟨target, source⟩ ∉ h.manager.links

section Routes
variable {h : TopologyHistory}

theorem findBestRelay_mem {t : TopologyManager} {order : List String → List String}
    (horder : ∀ l, (order l).Perm l) (hr : t.findBestRelay order src dst = some r) :
    Adjacency.Edge t.adjacency src r ∧ Adjacency.Edge t.adjacency dst r := by
  rw [TopologyManager.findBestRelay] at hr
  split at hr
  · next srcNeighbors dstNeighbors hsrc hdst =>
    have hmem := List.mem_filter.mp (List.mem_reverse.mp (List.argmax_mem hr))
    have hcommon := List.mem_filter.mp ((horder _).mem_iff.mp hmem.1)
    have hsrcEdge : r ∈ srcNeighbors := Std.TreeSet.mem_toList.mp hcommon.1
    have hdstEdge : r ∈ dstNeighbors := of_decide_eq_true hcommon.2
    rw [Adjacency.Edge, Adjacency.Edge, hsrc, hdst]
    exact ⟨hsrcEdge, hdstEdge⟩
  · cases hr

theorem TopologyHistory.Consistent.routesOnLinks (hc : h.Consistent) : h.RoutesOnLinks where
  path := by
    intro order src dst fuel p d hp
    obtain ⟨hsrc, -, hshortest⟩ := shortestPath_some hp
    refine ⟨hshortest.path.follows.imp (fun x y => (hc.linked x y).mp), ?_⟩
    intro x hx hremoved
    obtain ⟨hkey, hmention⟩ := hc.removed x hremoved
    rcases hshortest.path.source_or_step hx with rfl | ⟨y, hy⟩
    · exact hkey hsrc
    · exact hmention y hy
  relay := by
    intro order horder src dst r hr
    obtain ⟨hsrc, hdst⟩ := findBestRelay_mem horder hr
    exact ⟨(hc.linked src r).mp hsrc, (hc.linked dst r).mp hdst,
      fun hremoved => (hc.removed r hremoved).2 src hsrc⟩

theorem linked_symm {t : TopologyManager} (hl : t.Linked x y) : t.Linked y x := hl.symm

/-- Where the adjacency and the links agree, symmetry follows. -/
theorem TopologyHistory.consistent_of
    (hlinked : ∀ x y, Adjacency.Edge h.manager.adjacency x y ↔ h.manager.Linked x y)
    (hremoved : ∀ x ∈ h.removed, x ∉ h.manager.adjacency ∧
      ∀ y, ¬ Adjacency.Edge h.manager.adjacency y x) : h.Consistent where
  symmetric := fun x y hxy => (hlinked y x).mpr (linked_symm ((hlinked x y).mp hxy))
  linked := hlinked
  removed := hremoved

theorem TopologyHistory.Consistent.upsertNode (hc : h.Consistent) (node : TopologyNode) :
    (h.step (.upsertNode node)).Consistent := by
  apply TopologyHistory.consistent_of
  · intro x y
    exact (edge_insertIfNew node.deviceId).trans (hc.linked x y)
  · intro x hx
    obtain ⟨hx, hne⟩ := List.mem_filter.mp hx
    obtain ⟨hkey, hmention⟩ := hc.removed x hx
    constructor
    · intro hmem
      rw [TopologyHistory.step, TopologyManager.step, TopologyManager.upsertNode,
        Std.TreeMap.mem_insertIfNew, Std.compare_eq_iff_eq] at hmem
      rcases hmem with rfl | hmem
      · exact of_decide_eq_true hne rfl
      · exact hkey hmem
    · intro y hy
      exact hmention y ((edge_insertIfNew node.deviceId).mp hy)

theorem TopologyHistory.Consistent.removeNode_iff (hc : h.Consistent) (deviceId : String) :
    (h.step (.removeNode deviceId)).Consistent ↔ ∀ y, ¬ h.manager.Linked deviceId y := by
  have hedge : ∀ x y, Adjacency.Edge (h.step (.removeNode deviceId)).manager.adjacency x y ↔
      x ≠ deviceId ∧ Adjacency.Edge h.manager.adjacency x y := fun x y => edge_erase deviceId
  constructor
  · intro hstep y hlink
    exact ((hedge deviceId y).mp ((hstep.linked deviceId y).mpr hlink)).1 rfl
  · intro hfree
    have halone : ∀ x y, Adjacency.Edge h.manager.adjacency x y → x ≠ deviceId ∧ y ≠ deviceId := by
      intro x y hxy
      have hlink := (hc.linked x y).mp hxy
      exact ⟨fun hx => hfree y (hx ▸ hlink), fun hy => hfree x (hy ▸ linked_symm hlink)⟩
    apply TopologyHistory.consistent_of
    · intro x y
      rw [hedge, and_iff_right_of_imp (fun hxy => (halone x y hxy).1)]
      exact hc.linked x y
    · intro x hx
      rcases List.mem_cons.mp hx with rfl | hx
      · refine ⟨?_, fun y hy => (halone y x ((hedge y x).mp hy).2).2 rfl⟩
        intro hmem
        exact (Std.TreeMap.mem_erase.mp hmem).1 Std.compare_self
      · obtain ⟨hkey, hmention⟩ := hc.removed x hx
        exact ⟨fun hmem => hkey (Std.TreeMap.mem_erase.mp hmem).2,
          fun y hy => hmention y ((hedge y x).mp hy).2⟩

theorem TopologyHistory.Consistent.addLink_iff (hc : h.Consistent) (source target : String)
    (link : TopologyLink) : (h.step (.addLink source target link)).Consistent ↔
      source ∉ h.removed ∧ target ∉ h.removed := by
  have hedge : ∀ x y,
      Adjacency.Edge (h.step (.addLink source target link)).manager.adjacency x y ↔
        (Adjacency.Edge h.manager.adjacency x y ∨ x = source ∧ y = target) ∨
          x = target ∧ y = source := by
    intro x y
    refine (edge_addNeighbor target source).trans ?_
    rw [edge_addNeighbor]
  have hmem : ∀ x, x ∈ (h.step (.addLink source target link)).manager.adjacency ↔
      x = target ∨ x = source ∨ x ∈ h.manager.adjacency := by
    intro x
    refine (mem_addNeighbor target source).trans ?_
    rw [mem_addNeighbor]
  constructor
  · intro hstep
    exact ⟨fun hs => (hstep.removed source hs).1 ((hmem source).mpr (Or.inr (Or.inl rfl))),
      fun ht => (hstep.removed target ht).1 ((hmem target).mpr (Or.inl rfl))⟩
  · rintro ⟨hsource, htarget⟩
    apply TopologyHistory.consistent_of
    · intro x y
      have hkey : ∀ a b, (⟨a, b⟩ : LinkKey) ∈
          (h.step (.addLink source target link)).manager.links ↔
          (a = source ∧ b = target) ∨ ⟨a, b⟩ ∈ h.manager.links := by
        intro a b
        refine Std.TreeMap.mem_insert.trans ?_
        rw [Std.compare_eq_iff_eq, LinkKey.mk.injEq, eq_comm (a := source), eq_comm (a := target)]
      rw [hedge, hc.linked, TopologyManager.Linked, TopologyManager.Linked, hkey, hkey]
      tauto
    · intro x hx
      obtain ⟨hkey, hmention⟩ := hc.removed x hx
      have hxsource : x ≠ source := fun he => hsource (he ▸ hx)
      have hxtarget : x ≠ target := fun he => htarget (he ▸ hx)
      constructor
      · intro hmem'
        rcases (hmem x).mp hmem' with he | he | hold
        · exact hxtarget he
        · exact hxsource he
        · exact hkey hold
      · intro y hy
        rcases (hedge y x).mp hy with (hold | he) | he
        · exact hmention y hold
        · exact hxtarget he.2
        · exact hxsource he.2

theorem TopologyHistory.Consistent.removeLink_iff (hc : h.Consistent) (source target : String) :
    (h.step (.removeLink source target)).Consistent ↔
      source = target ∨ ⟨target, source⟩ ∉ h.manager.links := by
  have hedge : ∀ x y,
      Adjacency.Edge (h.step (.removeLink source target)).manager.adjacency x y ↔
        (Adjacency.Edge h.manager.adjacency x y ∧ ¬ (x = source ∧ y = target)) ∧
          ¬ (x = target ∧ y = source) := by
    intro x y
    refine (edge_removeNeighbor target source).trans ?_
    rw [edge_removeNeighbor]
  have hkey : ∀ a b, (⟨a, b⟩ : LinkKey) ∈
      (h.step (.removeLink source target)).manager.links ↔
      ¬ (source = a ∧ target = b) ∧ ⟨a, b⟩ ∈ h.manager.links := by
    intro a b
    refine Std.TreeMap.mem_erase.trans ?_
    rw [ne_eq, Std.compare_eq_iff_eq, LinkKey.mk.injEq]
  constructor
  · intro hstep
    by_contra hnot
    rw [not_or, not_not] at hnot
    obtain ⟨hne, hback⟩ := hnot
    have hstored := (hkey target source).mpr ⟨fun he => hne he.1, hback⟩
    have hlinked := (hstep.linked target source).mpr (Or.inl hstored)
    exact ((hedge target source).mp hlinked).2 ⟨rfl, rfl⟩
  · intro hone
    -- what stays stored does not lie the other way either
    have hother : ∀ a b, (⟨a, b⟩ : LinkKey) ∈ h.manager.links →
        ¬ (source = a ∧ target = b) → ¬ (a = target ∧ b = source) := by
      rintro a b hab hne ⟨rfl, rfl⟩
      rcases hone with he | habsent
      · exact hne ⟨he, he.symm⟩
      · exact habsent hab
    apply TopologyHistory.consistent_of
    · intro x y
      rw [hedge, hc.linked, TopologyManager.Linked, TopologyManager.Linked, hkey, hkey]
      constructor
      · rintro ⟨⟨hlink, hst⟩, hts⟩
        exact hlink.imp (fun hxy => ⟨fun he => hst ⟨he.1.symm, he.2.symm⟩, hxy⟩)
          (fun hyx => ⟨fun he => hts ⟨he.2.symm, he.1.symm⟩, hyx⟩)
      · rintro (⟨hne, hxy⟩ | ⟨hne, hyx⟩)
        · exact ⟨⟨Or.inl hxy, fun he => hne ⟨he.1.symm, he.2.symm⟩⟩, hother x y hxy hne⟩
        · exact ⟨⟨Or.inr hyx, fun he => hother y x hyx hne ⟨he.2, he.1⟩⟩,
            fun he => hne ⟨he.2.symm, he.1.symm⟩⟩
    · intro x hx
      obtain ⟨hnokey, hmention⟩ := hc.removed x hx
      refine ⟨?_, fun y hy => hmention y ((hedge y x).mp hy).1.1⟩
      intro hmem
      refine hnokey ?_
      exact (mem_removeNeighbor source target).mp ((mem_removeNeighbor target source).mp hmem)

theorem TopologyHistory.Consistent.step_iff (hc : h.Consistent) (op : TopologyOp) :
    (h.step op).Consistent ↔ h.Orderly op := by
  cases op with
  | upsertNode node => exact iff_of_true (hc.upsertNode node) trivial
  | removeNode deviceId => exact hc.removeNode_iff deviceId
  | addLink source target link => exact hc.addLink_iff source target link
  | removeLink source target => exact hc.removeLink_iff source target

theorem TopologyHistory.consistent_new : TopologyHistory.new.Consistent := by
  have hempty : ∀ x y, ¬ Adjacency.Edge (∅ : Adjacency) x y := by
    intro x y hxy
    rw [Adjacency.Edge, Std.TreeMap.getElem?_emptyc] at hxy
    exact Std.TreeSet.not_mem_emptyc hxy
  apply TopologyHistory.consistent_of
  · intro x y
    refine iff_of_false (hempty x y) ?_
    rintro (hl | hl) <;> exact Std.TreeMap.not_mem_emptyc hl
  · intro x hx
    cases hx

end Routes

/-- After every part of a sequence of calls the three maps agree, no removed node is left in the
adjacency, and nothing is routed by a removed node or link, exactly where the calls are orderly. -/
theorem topology_consistent_iff (ops : List TopologyOp) :
    (∀ l, l <+: ops → (TopologyHistory.new.run l).Consistent ∧
      (TopologyHistory.new.run l).RoutesOnLinks) ↔
    Guarded TopologyHistory.step TopologyHistory.Orderly .new ops := by
  rw [← forall_prefix_iff (I := fun h => h.Consistent ∧ h.RoutesOnLinks)]
  · exact Iff.rfl
  · exact ⟨TopologyHistory.consistent_new, TopologyHistory.consistent_new.routesOnLinks⟩
  · intro h op hi
    rw [← hi.1.step_iff op]
    exact ⟨fun hstep => hstep.1, fun hstep => ⟨hstep, hstep.routesOnLinks⟩⟩

/-- A node that is removed stays a neighbor of the other end of its link, and of a link that is
stored in both directions the adjacency forgets both with the first that is removed. -/
theorem topology_inconsistent :
    (¬ ∀ ops : List TopologyOp, ∀ x ∈ (TopologyHistory.new.run ops).removed, ∀ y,
      ¬ Adjacency.Edge (TopologyHistory.new.run ops).manager.adjacency y x) ∧
    ¬ ∀ (ops : List TopologyOp) (x y : String), (TopologyHistory.new.run ops).manager.Linked x y →
      Adjacency.Edge (TopologyHistory.new.run ops).manager.adjacency x y := by
  constructor
  · intro h
    exact h [.addLink "a" "b" ⟨"a", "b", .up⟩, .removeNode "b"] "b" (by decide +kernel) "a"
      (by decide +kernel)
  · intro h
    have hedge := h [.addLink "a" "b" ⟨"a", "b", .up⟩, .addLink "b" "a" ⟨"b", "a", .up⟩,
      .removeLink "a" "b"] "a" "b" (Or.inr (by decide +kernel))
    exact absurd hedge (by decide +kernel)

end P2PMesh.Topology
