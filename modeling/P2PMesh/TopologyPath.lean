import P2PMesh.Topology

namespace P2PMesh.Topology
open P2PMesh.Base
set_option autoImplicit true

/-- The maps of a search as what it knows. -/
def Search.labels (s : Search) : Labels String where
  dist v := s.dist[v]?
  prev v := s.prev[v]?
  visited := {v | v ∈ s.visited}

theorem ite_of_iff {p q : Prop} {hp : Decidable p} {hq : Decidable q} (h : p ↔ q) (a b : α) :
    (if p then a else b) = if q then a else b := by
  by_cases hq : q
  · rw [if_pos hq, if_pos (h.mpr hq)]
  · rw [if_neg hq, if_neg (mt h.mp hq)]

section Refinement
variable {s : Search} {current : String} {d : ℕ}

theorem labels_start (src : String) : (Search.start src).labels = Labels.start src := by
  apply Labels.ext
  · funext v
    refine (getElem?_insert_eq _ _ _ _).trans ?_
    rw [Std.TreeMap.getElem?_emptyc]
    exact if_congr eq_comm rfl rfl
  · funext v
    exact Std.TreeMap.getElem?_emptyc
  · ext v
    exact iff_of_false Std.TreeSet.not_mem_emptyc (fun h => h)

theorem closer_iff (known : Option ℕ) :
    known.all (fun d' => d < d') = true ↔ Closer d known := by
  cases known with
  | none => simp [Closer]
  | some d' => simp [Closer]

theorem Search.relax_cases (hd : s.dist[current]? = some d) (w : String) :
    (w ∉ s.visited ∧ Closer (d + 1) s.dist[w]? ∧ s.relax current w =
      { s with dist := s.dist.insert w (d + 1), prev := s.prev.insert w current }) ∨
    (¬ (w ∉ s.visited ∧ Closer (d + 1) s.dist[w]?) ∧ s.relax current w = s) := by
  by_cases hw : w ∈ s.visited
  · exact Or.inr ⟨fun h => h.1 hw, if_pos hw⟩
  · by_cases hcloser : Closer (d + 1) s.dist[w]?
    · refine Or.inl ⟨hw, hcloser, ?_⟩
      simp only [Search.relax, hw, ↓reduceIte, hd, (closer_iff _).mpr hcloser]
    · refine Or.inr ⟨fun h => hcloser h.2, ?_⟩
      simp only [Search.relax, hw, ↓reduceIte, hd, mt (closer_iff _).mp hcloser,
        Bool.false_eq_true]

open scoped Classical in
theorem Search.labels_foldl_relax (hd : s.dist[current]? = some d) (hc : current ∈ s.visited)
    (l : List String) : (l.foldl (Search.relax current) s).labels =
      { dist := fun v => if v ∈ l ∧ v ∉ s.visited ∧ Closer (d + 1) s.dist[v]? then some (d + 1)
          else s.dist[v]?
        prev := fun v => if v ∈ l ∧ v ∉ s.visited ∧ Closer (d + 1) s.dist[v]? then some current
          else s.prev[v]?
        visited := {v | v ∈ s.visited} } := by
  induction l generalizing s with
  | nil =>
    simp only [List.foldl_nil, List.not_mem_nil, false_and, ↓reduceIte]
    rfl
  | cons w l ih =>
    rw [List.foldl_cons]
    rcases Search.relax_cases hd w with ⟨hw, hcloser, he⟩ | ⟨hnot, he⟩
    · have hne : w ≠ current := fun h => hw (h ▸ hc)
      have hdist : ∀ v, (s.dist.insert w (d + 1))[v]? =
          if w = v then some (d + 1) else s.dist[v]? := fun v => getElem?_insert_eq _ _ _ _
      have hprev : ∀ v, (s.prev.insert w current)[v]? =
          if w = v then some current else s.prev[v]? := fun v => getElem?_insert_eq _ _ _ _
      have hcur : (s.dist.insert w (d + 1))[current]? = some d := by
        rw [hdist, if_neg hne, hd]
      rw [he, ih (s := { s with dist := s.dist.insert w (d + 1), prev := s.prev.insert w current })
        hcur hc]
      -- the node is as close as it gets, so a second occurrence of it does nothing
      have hsecond : ¬ Closer (d + 1) (some (d + 1)) := fun h => Nat.lt_irrefl _ (h _ rfl)
      apply Labels.ext
      · funext v
        dsimp only
        rw [hdist]
        by_cases hv : w = v
        · cases hv
          simp [hsecond, hw, hcloser]
        · simp [hv, Ne.symm hv]
      · funext v
        dsimp only
        rw [hdist, hprev]
        by_cases hv : w = v
        · cases hv
          simp [hsecond, hw, hcloser]
        · simp [hv, Ne.symm hv]
      · rfl
    · have hmem : ∀ v, (v ∈ l ∧ v ∉ s.visited ∧ Closer (d + 1) s.dist[v]?) ↔
          (v ∈ w :: l ∧ v ∉ s.visited ∧ Closer (d + 1) s.dist[v]?) := by
        intro v
        rw [List.mem_cons]
        constructor
        · exact fun h => ⟨Or.inr h.1, h.2⟩
        · rintro ⟨rfl | hv, h⟩
          · exact (hnot h).elim
          · exact ⟨hv, h⟩
      rw [he, ih hd hc]
      simp only [hmem]

variable {order : IterationOrder} {adj : Adjacency}

/-- A turn of the code's search is a turn of the search on labels, along the edges of the map. -/
theorem Search.labels_visit (s : Search) (hd : s.dist[current]? = some d) (order : IterationOrder)
    (adj : Adjacency) (turn : Nat) :
    (s.visit order adj turn current).labels = s.labels.visit (Adjacency.Edge adj) current d := by
  have hmem : ∀ v, v ∈ order.neighbors turn ((adj[current]?.getD ∅).toList) ↔
      Adjacency.Edge adj current v := by
    intro v
    rw [(order.neighbors_perm turn _).mem_iff, Std.TreeSet.mem_toList]
    rfl
  have hvisited : ∀ v, v ∈ s.visited.insert current ↔ v ∈ insert current s.labels.visited := by
    intro v
    rw [Std.TreeSet.mem_insert, Std.compare_eq_iff_eq, eq_comm]
    exact Iff.rfl
  rw [Search.visit, Search.labels_foldl_relax (s := { s with visited := s.visited.insert current })
    hd Std.TreeSet.mem_insert_self]
  have htaken : ∀ v, (v ∈ order.neighbors turn ((adj[current]?.getD ∅).toList) ∧
      v ∉ s.visited.insert current ∧ Closer (d + 1) s.dist[v]?) ↔ Adjacency.Edge adj current v ∧
        v ∉ insert current s.labels.visited ∧ Closer (d + 1) (s.labels.dist v) :=
    fun v => and_congr (hmem v) (and_congr (not_congr (hvisited v)) Iff.rfl)
  apply Labels.ext
  · funext v
    exact ite_of_iff (htaken v) _ _
  · funext v
    exact ite_of_iff (htaken v) _ _
  · ext v
    exact hvisited v

theorem Search.current_none {turn : Nat} (h : s.current order turn = none) :
    ∀ w e, s.labels.dist w = some e → w ∈ s.labels.visited := by
  intro w e he
  by_contra hunvisited
  have hw : w ∉ s.visited := hunvisited
  have hempty := List.argmin_eq_none.mp (Option.map_eq_none_iff.mp h)
  rw [List.filter_eq_nil_iff] at hempty
  refine hempty (w, e) ?_ (decide_eq_true hw)
  rw [(order.distances_perm turn _).mem_iff]
  exact Std.TreeMap.mem_toList_iff_getElem?_eq_some.mpr he

theorem Search.current_some {turn : Nat} (h : s.current order turn = some current) :
    ∃ d, s.labels.Nearest current d := by
  obtain ⟨⟨u, d⟩, hmin, rfl⟩ := Option.map_eq_some_iff.mp h
  have hentry := List.argmin_mem hmin
  rw [List.mem_filter, (order.distances_perm turn _).mem_iff,
    Std.TreeMap.mem_toList_iff_getElem?_eq_some] at hentry
  have hu : u ∉ s.visited := of_decide_eq_true hentry.2
  refine ⟨d, hentry.1, hu, ?_⟩
  intro v e hunvisited he
  have hv : v ∉ s.visited := hunvisited
  refine List.le_of_mem_argmin (f := fun e : String × ℕ => e.2) (a := (v, e)) ?_ hmin
  rw [List.mem_filter, (order.distances_perm turn _).mem_iff]
  exact ⟨Std.TreeMap.mem_toList_iff_getElem?_eq_some.mpr he, decide_eq_true hv⟩

end Refinement

section Search
variable {order : IterationOrder} {adj : Adjacency} {src dst current : String} {s : Search}

/-- The source and every neighbor of any node: the nodes that a search can meet. -/
def Adjacency.meetable (adj : Adjacency) (src : String) : List String :=
  src :: adj.toList.flatMap (fun e => e.2.toList)

theorem Adjacency.Edge.meetable {x y : String} (h : Adjacency.Edge adj x y) :
    y ∈ Adjacency.meetable adj src := by
  rw [Adjacency.Edge] at h
  cases hx : adj[x]? with
  | none =>
    rw [hx] at h
    exact (Std.TreeSet.not_mem_emptyc h).elim
  | some neighbors =>
    rw [hx] at h
    exact .tail _ (List.mem_flatMap.mpr ⟨(x, neighbors),
      Std.TreeMap.mem_toList_iff_getElem?_eq_some.mpr hx, Std.TreeSet.mem_toList.mpr h⟩)

/-- The nodes that are still to be visited, at most. -/
def Search.remaining (adj : Adjacency) (src : String) (s : Search) : Nat :=
  (Adjacency.meetable adj src).countP (fun v => v ∉ s.visited)

theorem countP_lt_of_imp {p q : α → Bool} {l : List α} (hpq : ∀ a, p a = true → q a = true)
    (ha : a ∈ l) (hp : p a = false) (hq : q a = true) : l.countP p < l.countP q := by
  induction l with
  | nil => cases ha
  | cons b l ih =>
    rw [List.countP_cons, List.countP_cons]
    have hle : l.countP p ≤ l.countP q := List.countP_mono_left (fun b _ => hpq b)
    rcases List.mem_cons.mp ha with rfl | ha
    · rw [hp, hq]
      exact Nat.lt_succ_of_le hle
    · have hlt := ih ha
      by_cases hb : p b = true
      · rw [hb, hpq b hb]
        omega
      · rw [Bool.not_eq_true] at hb
        rw [hb, if_neg Bool.false_ne_true]
        exact Nat.lt_of_lt_of_le hlt (Nat.le_add_right _ _)

/-- The nodes that a search has met can be met, and the destination is not visited: the search
ends when it comes to it. -/
structure Search.Underway (adj : Adjacency) (src dst : String) (s : Search) : Prop where
  sound : s.labels.Sound (Adjacency.Edge adj) src
  met : ∀ v d, s.labels.dist v = some d → v ∈ Adjacency.meetable adj src
  open_dst : dst ∉ s.labels.visited

theorem Search.underway_start (adj : Adjacency) (src dst : String) :
    (Search.start src).Underway adj src dst where
  sound := by
    rw [labels_start]
    exact Labels.sound_start src
  met := by
    intro v d hd
    rw [labels_start] at hd
    by_cases hv : v = src
    · rw [hv]
      exact List.mem_cons_self
    · simp only [Labels.start, hv, ↓reduceIte] at hd
      cases hd
  open_dst := Std.TreeSet.not_mem_emptyc

theorem Search.Underway.visit (h : s.Underway adj src dst)
    (hcurrent : s.labels.Nearest current d) (hne : current ≠ dst) (order : IterationOrder)
    (turn : Nat) :
    (s.visit order adj turn current).Underway adj src dst ∧
      (s.visit order adj turn current).remaining adj src < s.remaining adj src := by
  have hlabels := s.labels_visit hcurrent.dist order adj turn
  have hvisited : ∀ v, v ∈ (s.visit order adj turn current).visited ↔
      v = current ∨ v ∈ s.visited := by
    intro v
    have hset : v ∈ (s.visit order adj turn current).labels.visited ↔
        v ∈ insert current s.labels.visited := by
      rw [hlabels]
      rfl
    exact hset
  constructor
  · refine ⟨?_, ?_, ?_⟩
    · rw [hlabels]
      exact h.sound.visit hcurrent
    · intro v e he
      rw [hlabels] at he
      rcases Labels.visit_dist_cases he with ⟨hedge, -⟩ | ⟨hold, -⟩
      · exact hedge.meetable
      · exact h.met v e hold
    · intro hdst
      rcases (hvisited dst).mp hdst with hdst | hdst
      · exact hne hdst.symm
      · exact h.open_dst hdst
  · apply countP_lt_of_imp (a := current)
    · intro v hv
      simp only [hvisited, decide_eq_true_eq, not_or] at hv ⊢
      exact hv.2
    · exact h.met current d hcurrent.dist
    · exact decide_eq_false (not_not_intro ((hvisited current).mpr (Or.inl rfl)))
    · exact decide_eq_true hcurrent.unvisited

/-- The answer of a search: a shortest path, or that there is none. -/
def Answers (adj : Adjacency) (src dst : String) : Option (List String × Nat) → Prop
  | some (path, d) => ShortestPath (Adjacency.Edge adj) src dst path d
  | none => ¬ Relation.ReflTransGen (Adjacency.Edge adj) src dst

/-- When the nearest node is the destination, it is as near as its distance says, and tracing it
back gives a shortest path. -/
theorem Search.Underway.trace (h : s.Underway adj src dst) (hdst : s.labels.Nearest dst d) :
    ∃ p, (∀ fuel, d < fuel → tracePrev (fun node => s.prev[node]?) fuel dst [dst] = some p) ∧
      ShortestPath (Adjacency.Edge adj) src dst p d := by
  obtain ⟨p, htrace, hpath, hlength, hnodup, -⟩ := h.sound.trace hdst.dist []
  rw [List.append_nil] at htrace
  refine ⟨p, htrace, hpath, hnodup, hlength, ?_⟩
  intro q hq
  have hle := h.sound.nearest_le hdst hq.hops
  have hpos := hq.length_pos
  omega

theorem Search.Underway.answers (h : s.Underway adj src dst) (turn : Nat)
    (hrun : Search.run order adj dst fuel turn s = some result) : Answers adj src dst result := by
  induction fuel generalizing s turn with
  | zero => cases hrun
  | succ fuel ih =>
    rw [Search.run] at hrun
    cases hcurrent : s.current order turn with
    | none =>
      rw [hcurrent] at hrun
      cases hrun
      intro hreach
      obtain ⟨n, hn⟩ := exists_hops hreach
      exact h.open_dst (h.sound.exhausted (Search.current_none hcurrent) hn)
    | some current =>
      rw [hcurrent] at hrun
      obtain ⟨d, hnearest⟩ := Search.current_some hcurrent
      by_cases hdst : current = dst
      · rw [hdst] at hnearest
        have hd : s.dist[dst]? = some d := hnearest.dist
        dsimp only at hrun
        rw [if_pos hdst, hdst, hd] at hrun
        obtain ⟨path, hpath, rfl⟩ := Option.map_eq_some_iff.mp hrun
        obtain ⟨p, htrace, hp⟩ := h.trace hnearest
        have hsame := tracePrev_of_le hpath (Nat.le_max_left fuel (d + 1))
        rw [htrace _ (Nat.lt_of_succ_le (Nat.le_max_right fuel (d + 1)))] at hsame
        cases hsame
        exact hp
      · dsimp only at hrun
        rw [if_neg hdst] at hrun
        exact ih (h.visit hnearest hdst order turn).1 (turn + 1) hrun

/-- Each turn visits one more node of those that can be met, so with enough fuel the search ends. -/
theorem Search.Underway.ends (h : s.Underway adj src dst) (turn : Nat) :
    ∃ result N, ∀ fuel, N ≤ fuel → Search.run order adj dst fuel turn s = some result := by
  induction hk : s.remaining adj src using Nat.strong_induction_on generalizing s turn with
  | h k ih =>
    cases hcurrent : s.current order turn with
    | none =>
      refine ⟨none, 1, ?_⟩
      intro fuel hfuel
      obtain ⟨fuel, rfl⟩ := Nat.exists_eq_add_of_le' hfuel
      rw [Search.run, hcurrent]
    | some current =>
      obtain ⟨d, hnearest⟩ := Search.current_some hcurrent
      by_cases hdst : current = dst
      · rw [hdst] at hnearest
        obtain ⟨p, htrace, -⟩ := h.trace hnearest
        refine ⟨s.dist[current]?.map (fun d => (p, d)), d + 2, ?_⟩
        intro fuel hfuel
        obtain ⟨fuel, rfl⟩ := Nat.exists_eq_add_of_le' (Nat.le_trans (Nat.le_add_left 1 _) hfuel)
        rw [Search.run, hcurrent]
        dsimp only
        rw [if_pos hdst, htrace fuel (Nat.le_of_succ_le_succ hfuel)]
        rfl
      · obtain ⟨hnext, hless⟩ := h.visit hnearest hdst order turn
        obtain ⟨result, N, hrun⟩ := ih _ (hk ▸ hless) hnext (turn + 1) rfl
        refine ⟨result, N + 1, ?_⟩
        intro fuel hfuel
        obtain ⟨fuel, rfl⟩ := Nat.exists_eq_add_of_le' (Nat.le_trans (Nat.le_add_left 1 N) hfuel)
        rw [Search.run, hcurrent]
        dsimp only
        rw [if_neg hdst, hrun fuel (Nat.le_of_succ_le_succ hfuel)]

end Search

section ShortestPath
variable {order : IterationOrder} {adj : Adjacency} {src dst : String}

theorem shortestPath_none (h : ¬ (src ∈ adj ∧ dst ∈ adj)) (fuel : Nat) :
    Adjacency.shortestPath order adj src dst fuel = some none := by
  rw [not_and_or] at h
  exact if_pos h

theorem shortestPath_search (hsrc : src ∈ adj) (hdst : dst ∈ adj) (fuel : Nat) :
    Adjacency.shortestPath order adj src dst fuel =
      Search.run order adj dst fuel 0 (Search.start src) := by
  apply if_neg
  rw [not_or, not_not, not_not]
  exact ⟨hsrc, hdst⟩

theorem shortestPath_some (h : Adjacency.shortestPath order adj src dst fuel = some (some (p, d))) :
    src ∈ adj ∧ dst ∈ adj ∧ ShortestPath (Adjacency.Edge adj) src dst p d := by
  by_cases hkeys : src ∈ adj ∧ dst ∈ adj
  · rw [shortestPath_search hkeys.1 hkeys.2] at h
    exact ⟨hkeys.1, hkeys.2, (Search.underway_start adj src dst).answers 0 h⟩
  · rw [shortestPath_none hkeys] at h
    cases h

end ShortestPath

/-- With enough fuel the search returns, in whatever orders it goes through its maps: a path
exactly where source and destination are keys and the destination can be reached, and then a
shortest one that repeats no node. -/
theorem shortestPath_correct (order : IterationOrder) (adj : Adjacency) (src dst : String) :
    ∃ result N, (∀ fuel, N ≤ fuel → Adjacency.shortestPath order adj src dst fuel = some result) ∧
      (result.isSome ↔ src ∈ adj ∧ dst ∈ adj ∧
        Relation.ReflTransGen (Adjacency.Edge adj) src dst) ∧
      ∀ path d, result = some (path, d) → ShortestPath (Adjacency.Edge adj) src dst path d := by
  by_cases hkeys : src ∈ adj ∧ dst ∈ adj
  · have hunderway := Search.underway_start adj src dst
    obtain ⟨result, N, hrun⟩ : ∃ result N, ∀ fuel, N ≤ fuel →
        Search.run order adj dst fuel 0 (Search.start src) = some result := hunderway.ends 0
    have hanswer := hunderway.answers 0 (hrun N (Nat.le_refl N))
    refine ⟨result, N, ?_, ?_, ?_⟩
    · intro fuel hfuel
      rw [shortestPath_search hkeys.1 hkeys.2, hrun fuel hfuel]
    · cases result with
      | none => exact iff_of_false Bool.false_ne_true (fun h => hanswer h.2.2)
      | some answer => exact iff_of_true rfl ⟨hkeys.1, hkeys.2, hanswer.path.hops.reaches⟩
    · rintro path d rfl
      exact hanswer
  · refine ⟨none, 0, fun fuel _ => shortestPath_none hkeys fuel, ?_, ?_⟩
    · exact iff_of_false Bool.false_ne_true (fun h => hkeys ⟨h.1, h.2.1⟩)
    · intro path d h
      cases h

end P2PMesh.Topology
