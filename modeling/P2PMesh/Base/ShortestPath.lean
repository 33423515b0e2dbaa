import Mathlib.Data.List.Chain
import Mathlib.Data.Set.Insert
import P2PMesh.Base.LeastCost

namespace P2PMesh.Base
set_option autoImplicit true

section Paths
variable {V : Type*} (edge : V → V → Prop)

/-- A list of nodes from one node to another along edges. -/
structure IsPath (src dst : V) (p : List V) : Prop where
  starts : p.head? = some src
  ends : p.getLast? = some dst
  follows : p.IsChain edge

/-- A path of so many edges that repeats no node, and than which none has fewer edges. -/
structure ShortestPath (src dst : V) (p : List V) (d : ℕ) : Prop where
  path : IsPath edge src dst p
  nodup : p.Nodup
  edges : p.length = d + 1
  least : ∀ q, IsPath edge src dst q → p.length ≤ q.length

/-- The numbers of edges in which a node is reached. -/
def Hops (src : V) : V → ℕ → Prop :=
  Costs (fun v n => v = src ∧ n = 0) (fun u v c => edge u v ∧ c = 1)

variable {edge} {src u v : V} {p : List V}

theorem Hops.source : Hops edge src src 0 := .origin ⟨rfl, rfl⟩

theorem Hops.hop (h : Hops edge src u n) (he : edge u v) : Hops edge src v (n + 1) :=
  Costs.hop h ⟨he, rfl⟩

theorem isPath_singleton (src : V) : IsPath edge src src [src] :=
  ⟨rfl, rfl, List.isChain_singleton src⟩

theorem IsPath.concat (h : IsPath edge src u p) (he : edge u v) : IsPath edge src v (p ++ [v]) := by
  have hp := h.starts
  refine ⟨?_, List.getLast?_concat, ?_⟩
  · rw [List.head?_append, hp]
    rfl
  · rw [List.isChain_append]
    refine ⟨h.follows, List.isChain_singleton v, ?_⟩
    intro x hx y hy
    rw [h.ends] at hx
    cases hx
    cases hy
    exact he

theorem IsPath.hops (h : IsPath edge src v p) : Hops edge src v (p.length - 1) := by
  induction p using List.reverseRecOn generalizing v with
  | nil => cases h.starts
  | append_singleton p w ih =>
    obtain ⟨hstarts, hends, hfollows⟩ := h
    rw [List.getLast?_concat] at hends
    cases hends
    rw [List.length_append, List.length_singleton, Nat.add_sub_cancel]
    cases hp : p.getLast? with
    | none =>
      rw [List.getLast?_eq_none_iff] at hp
      cases hp
      cases hstarts
      exact .source
    | some u =>
      have hne : p ≠ [] := by
        rintro rfl
        cases hp
      rw [List.head?_append_of_ne_nil _ hne] at hstarts
      rw [List.isChain_append] at hfollows
      have hpath := ih ⟨hstarts, hp, hfollows.1⟩
      have hlen := List.length_pos_of_ne_nil hne
      have hhop := hpath.hop (hfollows.2.2 u hp w rfl)
      rwa [Nat.sub_add_cancel hlen] at hhop

theorem IsPath.source_or_step (h : IsPath edge src v p) (hx : x ∈ p) : x = src ∨ ∃ y, edge y x := by
  obtain ⟨before, after, rfl⟩ := List.append_of_mem hx
  have hstarts := h.starts
  have hfollows := h.follows
  rw [List.isChain_append] at hfollows
  cases hlast : before.getLast? with
  | none =>
    rw [List.getLast?_eq_none_iff] at hlast
    rw [hlast] at hstarts
    exact Or.inl (Option.some.inj hstarts)
  | some y => exact Or.inr ⟨y, hfollows.2.2 y hlast x rfl⟩

theorem IsPath.length_pos (h : IsPath edge src v p) : 0 < p.length := by
  have hp := h.starts
  cases p with
  | nil => cases hp
  | cons x p => exact Nat.succ_pos _

theorem Hops.reaches (h : Hops edge src v n) : Relation.ReflTransGen edge src v := by
  induction h with
  | origin ho =>
    rw [ho.1]
  | hop _ he ih => exact ih.tail he.1

theorem exists_hops (h : Relation.ReflTransGen edge src v) : ∃ n, Hops edge src v n := by
  induction h with
  | refl => exact ⟨0, .source⟩
  | tail _ he ih =>
    obtain ⟨n, hn⟩ := ih
    exact ⟨n + 1, hn.hop he⟩

end Paths

/-- What a search from a node knows: the distance and the node before for those it has met, and
the nodes whose edges it has followed. -/
@[ext] structure Labels (V : Type*) where
  dist : V → Option ℕ
  prev : V → Option V
  visited : Set V

section Labels
variable {V : Type*} (edge : V → V → Prop)

/-- A distance that is unknown or larger. -/
def Closer (d : ℕ) (known : Option ℕ) : Prop := ∀ d' ∈ known, d < d'

open scoped Classical in
/-- A turn of the search at a node: it is visited, and each node behind one of its edges that is
not visited yet gets it as the node before, if that is closer. -/
noncomputable def Labels.visit (l : Labels V) (u : V) (d : ℕ) : Labels V where
  dist v := if edge u v ∧ v ∉ insert u l.visited ∧ Closer (d + 1) (l.dist v) then some (d + 1)
    else l.dist v
  prev v := if edge u v ∧ v ∉ insert u l.visited ∧ Closer (d + 1) (l.dist v) then some u
    else l.prev v
  visited := insert u l.visited

/-- A node that is met and not visited, and no further than any other one. -/
structure Labels.Nearest (l : Labels V) (u : V) (d : ℕ) : Prop where
  dist : l.dist u = some d
  unvisited : u ∉ l.visited
  le : ∀ v d', v ∉ l.visited → l.dist v = some d' → d ≤ d'

/-- Every distance is that of the node before and one edge, no visited node has an edge to a node
that is further, and none is further than a node that is not visited. -/
structure Labels.Sound (src : V) (l : Labels V) : Prop where
  dist_source : l.dist src = some 0
  prev_source : l.prev src = none
  before : ∀ v d, v ≠ src → l.dist v = some d →
    ∃ u d', l.prev v = some u ∧ u ∈ l.visited ∧ edge u v ∧ l.dist u = some d' ∧ d' + 1 = d
  known : ∀ v ∈ l.visited, ∃ d, l.dist v = some d
  scanned : ∀ u v, u ∈ l.visited → edge u v →
    ∃ d d', l.dist u = some d ∧ l.dist v = some d' ∧ d' ≤ d + 1
  settled : ∀ u v d d', u ∈ l.visited → v ∉ l.visited → l.dist u = some d → l.dist v = some d' →
    d ≤ d'

def Labels.start [DecidableEq V] (src : V) : Labels V :=
  ⟨fun v => if v = src then some 0 else none, fun _ => none, ∅⟩

variable {edge} {src u v : V} {l : Labels V}

theorem Labels.sound_start [DecidableEq V] (src : V) : (Labels.start src).Sound edge src where
  dist_source := if_pos rfl
  prev_source := rfl
  before := by
    intro v d hv hd
    simp only [Labels.start, hv, ↓reduceIte] at hd
    cases hd
  known := fun _ hv => hv.elim
  scanned := fun _ _ hu => hu.elim
  settled := fun _ _ _ _ hu => hu.elim

theorem Labels.visit_dist_of_visited (hv : v ∈ insert u l.visited) :
    (l.visit edge u d).dist v = l.dist v := if_neg (fun h => h.2.1 hv)

theorem Labels.visit_dist_cases (h : (l.visit edge u d).dist v = some d') :
    (edge u v ∧ d' = d + 1 ∧ (l.visit edge u d).prev v = some u) ∨
      (l.dist v = some d' ∧ (l.visit edge u d).prev v = l.prev v) := by
  by_cases hc : edge u v ∧ v ∉ insert u l.visited ∧ Closer (d + 1) (l.dist v)
  · have hnew : (l.visit edge u d).dist v = some (d + 1) := if_pos hc
    rw [hnew] at h
    exact Or.inl ⟨hc.1, (Option.some.inj h).symm, if_pos hc⟩
  · have hold : (l.visit edge u d).dist v = l.dist v := if_neg hc
    rw [hold] at h
    exact Or.inr ⟨h, if_neg hc⟩

theorem Labels.visit_dist_le (edge : V → V → Prop) (u : V) (d : ℕ) (h : l.dist v = some d') :
    ∃ e, (l.visit edge u d).dist v = some e ∧ e ≤ d' := by
  by_cases hc : edge u v ∧ v ∉ insert u l.visited ∧ Closer (d + 1) (l.dist v)
  · exact ⟨d + 1, if_pos hc, Nat.le_of_lt (hc.2.2 d' h)⟩
  · exact ⟨d', (if_neg hc).trans h, Nat.le_refl d'⟩

theorem Labels.Sound.visit_dist_next (h : l.Sound edge src) (hu : l.Nearest u d)
    (he : edge u v) : ∃ e, (l.visit edge u d).dist v = some e ∧ e ≤ d + 1 := by
  by_cases hc : edge u v ∧ v ∉ insert u l.visited ∧ Closer (d + 1) (l.dist v)
  · exact ⟨d + 1, if_pos hc, Nat.le_refl _⟩
  · have hold : ∃ e, l.dist v = some e ∧ e ≤ d + 1 := by
      by_cases hv : v ∈ insert u l.visited
      · rcases Set.mem_insert_iff.mp hv with hvu | hv
        · rw [hvu]
          exact ⟨d, hu.dist, Nat.le_succ d⟩
        · obtain ⟨e, hev⟩ := h.known v hv
          exact ⟨e, hev, Nat.le_succ_of_le (h.settled v u e d hv hu.unvisited hev hu.dist)⟩
      · have hfar : ¬ Closer (d + 1) (l.dist v) := fun hcloser => hc ⟨he, hv, hcloser⟩
        simp only [Closer, not_forall, Nat.not_lt] at hfar
        obtain ⟨e, hev, hle⟩ := hfar
        exact ⟨e, hev, hle⟩
    obtain ⟨e, hev, hle⟩ := hold
    exact ⟨e, (if_neg hc).trans hev, hle⟩

theorem Labels.Sound.visit (h : l.Sound edge src) (hu : l.Nearest u d) :
    (l.visit edge u d).Sound edge src where
  dist_source := by
    obtain ⟨e, he, hle⟩ := Labels.visit_dist_le edge u d h.dist_source
    rw [he, Nat.le_zero.mp hle]
  prev_source := by
    have hfar : ¬ Closer (d + 1) (l.dist src) := fun hc => Nat.not_lt_zero _ (hc 0 h.dist_source)
    rw [← h.prev_source]
    exact if_neg (fun hc => hfar hc.2.2)
  before := by
    intro v e hv he
    rcases Labels.visit_dist_cases he with ⟨hedge, rfl, hprev⟩ | ⟨hold, hprev⟩
    · refine ⟨u, d, hprev, Set.mem_insert u _, hedge, ?_, rfl⟩
      rw [Labels.visit_dist_of_visited (Set.mem_insert u _), hu.dist]
    · obtain ⟨w, d', hw, hvisited, hedge, hd, hlen⟩ := h.before v e hv hold
      have hvisited' : w ∈ insert u l.visited := Set.mem_insert_of_mem u hvisited
      refine ⟨w, d', hprev.trans hw, hvisited', hedge, ?_, hlen⟩
      rw [Labels.visit_dist_of_visited hvisited', hd]
  known := by
    intro v hv
    rw [Labels.visit_dist_of_visited hv]
    rcases Set.mem_insert_iff.mp hv with rfl | hv
    · exact ⟨d, hu.dist⟩
    · exact h.known v hv
  scanned := by
    intro w v hw hedge
    rw [Labels.visit_dist_of_visited hw]
    rcases Set.mem_insert_iff.mp hw with rfl | hw
    · obtain ⟨e, he, hle⟩ := h.visit_dist_next hu hedge
      exact ⟨d, e, hu.dist, he, hle⟩
    · obtain ⟨d₁, d₂, h₁, h₂, hle⟩ := h.scanned w v hw hedge
      obtain ⟨e, he, hle'⟩ := Labels.visit_dist_le edge u d h₂
      exact ⟨d₁, e, h₁, he, Nat.le_trans hle' hle⟩
  settled := by
    intro w v e e' hw hv he he'
    rw [Labels.visit_dist_of_visited hw] at he
    have hfar : d ≤ e' := by
      rcases Labels.visit_dist_cases he' with ⟨-, rfl, -⟩ | ⟨hold, -⟩
      · exact Nat.le_succ d
      · exact hu.le v e' (fun hv' => hv (Set.mem_insert_of_mem u hv')) hold
    have hnear : e ≤ d := by
      rcases Set.mem_insert_iff.mp hw with rfl | hw
      · rw [hu.dist] at he
        exact Nat.le_of_eq (Option.some.inj he).symm
      · exact h.settled w u e d hw hu.unvisited he hu.dist
    exact Nat.le_trans hnear hfar

/-- However a node is reached, it has been met at no more edges than that, or some node is still
to be visited that has. -/
theorem Labels.Sound.met (h : l.Sound edge src) (hv : Hops edge src v n) :
    (∃ d, l.dist v = some d ∧ d ≤ n) ∨ ∃ w d, w ∉ l.visited ∧ l.dist w = some d ∧ d ≤ n := by
  induction hv with
  | origin ho =>
    rw [ho.1]
    exact Or.inl ⟨0, h.dist_source, Nat.zero_le _⟩
  | @hop u n v c hu he ih =>
    rcases ih with ⟨d, hd, hle⟩ | ⟨w, d, hw, hd, hle⟩
    · by_cases hvisited : u ∈ l.visited
      · obtain ⟨d₁, d₂, h₁, h₂, hle'⟩ := h.scanned u v hvisited he.1
        rw [hd] at h₁
        cases h₁
        refine Or.inl ⟨d₂, h₂, ?_⟩
        rw [he.2]
        omega
      · exact Or.inr ⟨u, d, hvisited, hd, Nat.le_add_right_of_le hle⟩
    · exact Or.inr ⟨w, d, hw, hd, Nat.le_add_right_of_le hle⟩

theorem Labels.Sound.nearest_le (h : l.Sound edge src) (hu : l.Nearest u d)
    (hn : Hops edge src u n) : d ≤ n := by
  rcases h.met hn with ⟨e, he, hle⟩ | ⟨w, e, hw, he, hle⟩
  · rw [hu.dist] at he
    cases he
    exact hle
  · exact Nat.le_trans (hu.le w e hw he) hle

/-- Once all nodes that have been met are visited, they are all that can be reached. -/
theorem Labels.Sound.exhausted (h : l.Sound edge src)
    (hall : ∀ w d, l.dist w = some d → w ∈ l.visited) (hn : Hops edge src v n) :
    v ∈ l.visited := by
  rcases h.met hn with ⟨d, hd, -⟩ | ⟨w, d, hw, hd, -⟩
  · exact hall v d hd
  · exact (hw (hall w d hd)).elim

end Labels

section Trace
variable {V : Type*}

/-- The nodes before a node, put in front of a path, as far as one is known. -/
def tracePrev (prev : V → Option V) : ℕ → V → List V → Option (List V)
  | 0, _, _ => none
  | fuel + 1, v, path =>
    match prev v with
    | none => some path
    | some u => tracePrev prev fuel u (u :: path)

variable {edge : V → V → Prop} {src v : V} {l : Labels V} {prev : V → Option V}

theorem tracePrev_of_le (h : tracePrev prev fuel v path = some p) (hle : fuel ≤ fuel') :
    tracePrev prev fuel' v path = some p := by
  induction fuel generalizing v path fuel' with
  | zero => cases h
  | succ fuel ih =>
    obtain ⟨fuel', rfl⟩ := Nat.exists_eq_add_of_le' (Nat.le_trans (Nat.le_add_left 1 fuel) hle)
    rw [tracePrev] at h ⊢
    cases hprev : prev v with
    | none =>
      rw [hprev] at h
      exact h
    | some u =>
      rw [hprev] at h
      exact ih h (Nat.le_of_succ_le_succ hle)

/-- Tracing a node back gives a path from the source with as many edges as its distance says, on
which the distances grow. -/
theorem Labels.Sound.trace (h : l.Sound edge src) (hd : l.dist v = some d) (rest : List V) :
    ∃ p, (∀ fuel, d < fuel → tracePrev l.prev fuel v (v :: rest) = some (p ++ rest)) ∧
      IsPath edge src v p ∧ p.length = d + 1 ∧ p.Nodup ∧
      ∀ x ∈ p, ∃ e, l.dist x = some e ∧ e ≤ d := by
  induction d generalizing v rest with
  | zero =>
    have hv : v = src := by
      by_contra hne
      obtain ⟨u, d', -, -, -, -, hlen⟩ := h.before v 0 hne hd
      omega
    refine ⟨[src], ?_, ?_, rfl, List.nodup_singleton src, ?_⟩
    · intro fuel hfuel
      obtain ⟨fuel, rfl⟩ := Nat.exists_eq_succ_of_ne_zero (Nat.ne_of_gt hfuel)
      rw [tracePrev, hv, h.prev_source]
      rfl
    · rw [hv]
      exact isPath_singleton src
    · intro x hx
      rw [List.mem_singleton.mp hx]
      exact ⟨0, h.dist_source, Nat.le_refl 0⟩
  | succ d ih =>
    have hv : v ≠ src := by
      rintro rfl
      rw [h.dist_source] at hd
      cases hd
    obtain ⟨u, d', hprev, -, hedge, hu, hlen⟩ := h.before v (d + 1) hv hd
    cases hlen
    obtain ⟨p, htrace, hpath, hlength, hnodup, hnear⟩ := ih hu (v :: rest)
    refine ⟨p ++ [v], ?_, hpath.concat hedge, ?_, ?_, ?_⟩
    · intro fuel hfuel
      obtain ⟨fuel, rfl⟩ :=
        Nat.exists_eq_succ_of_ne_zero (Nat.ne_of_gt (Nat.zero_lt_of_lt hfuel))
      rw [tracePrev, hprev]
      dsimp only
      rw [htrace fuel (Nat.lt_of_succ_lt_succ hfuel), List.append_assoc]
      rfl
    · rw [List.length_append, hlength, List.length_singleton]
    · refine List.nodup_append.mpr ⟨hnodup, List.nodup_singleton v, ?_⟩
      rintro x hx y hy rfl
      rw [List.mem_singleton.mp hy] at hx
      obtain ⟨e, he, hle⟩ := hnear v hx
      rw [hd] at he
      cases he
      omega
    · intro x hx
      rcases List.mem_append.mp hx with hx | hx
      · obtain ⟨e, he, hle⟩ := hnear x hx
        exact ⟨e, he, Nat.le_succ_of_le hle⟩
      · rw [List.mem_singleton.mp hx]
        exact ⟨d + 1, hd, Nat.le_refl _⟩

end Trace

end P2PMesh.Base
