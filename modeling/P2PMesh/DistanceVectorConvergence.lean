import P2PMesh.Base.LeastCost
import P2PMesh.DistanceVectorMesh

namespace P2PMesh.MeshRouting
open P2PMesh.Base
set_option autoImplicit true

/-- A connected route that a node is given at the start. -/
structure Origin where
  nodeId : String
  cidr : Ipv4Net
  metric : UInt32
  addedAt : Nat

/-- A finite network: the cost of each directed edge, at least 1, and the connected routes, at
most one for a node and a prefix, each below infinity. -/
structure Network where
  nodes : Finset String
  cost : String → String → Option UInt32
  origins : List Origin
  cost_pos : cost a b = some c → 0 < c.toNat
  edge_mem : cost a b = some c → a ∈ nodes ∧ b ∈ nodes
  origin_mem : ∀ o ∈ origins, o.nodeId ∈ nodes
  origin_finite : ∀ o ∈ origins, o.metric < infinity
  origins_distinct : origins.Pairwise (fun o o' => o.nodeId ≠ o'.nodeId ∨ o.cidr ≠ o'.cidr)

def Origin.op (o : Origin) : MeshOp := .addConnectedRoute o.nodeId o.cidr o.metric o.addedAt

/-- The mesh with the connected routes, before any exchange. -/
def Network.start (N : Network) : Mesh := Mesh.new.run (N.origins.map Origin.op)

/-- An exchange along an edge, at its cost. -/
def Network.Exchange (N : Network) : MeshOp → Prop
  | .exchange sender receiver hopCost _ => N.cost sender receiver = some hopCost
  | _ => False

/-- Every edge is exchanged in the round. -/
def Network.Covers (N : Network) (round : List MeshOp) : Prop :=
  ∀ a b c, N.cost a b = some c → ∃ now, .exchange a b c now ∈ round

section Costs
variable (N : Network) (p : Ipv4Net)

def Network.IsOrigin (nodeId : String) (n : ℕ) : Prop :=
  ∃ o ∈ N.origins, o.nodeId = nodeId ∧ o.cidr = p ∧ o.metric.toNat = n

def Network.Edge (a b : String) (n : ℕ) : Prop := ∃ c, N.cost a b = some c ∧ c.toNat = n

def Network.Costs : String → ℕ → Prop := Base.Costs (N.IsOrigin p) N.Edge

/-- The least sum of a connected metric and the costs of a path from its node. -/
def Network.LeastCost : String → ℕ → Prop := Base.LeastCost (N.IsOrigin p) N.Edge

/-- What a route in the mesh rests on: the node's own connected route, or a finite route of the
next hop that is better at least by the cost of the edge. -/
inductive Network.Supported (m : Mesh) (nodeId : String) (r : DvRoute) : Prop where
  | connected (hflag : r.flags.connected = true) (hhop : r.nextHop = nodeId)
    (horigin : N.IsOrigin p nodeId r.metric.toNat)
  | learned (hflag : r.flags.connected = false) (hcost : N.cost r.nextHop nodeId = some c)
    (hnext : (m r.nextHop).route p = some next) (hfin : next.metric < infinity)
    (hle : saturatingAddU32 next.metric c ≤ r.metric)

structure Network.Sound (m : Mesh) : Prop where
  configured : m.Configured
  origin : N.IsOrigin p v n → ∃ r, (m v).route p = some r ∧ r.metric.toNat ≤ n
  supported : (m v).route p = some r → N.Supported p m v r

/-- The node holds a metric as low as its least cost, if that is finite. -/
def Network.Settled (m : Mesh) (v : String) : Prop :=
  ∀ d, N.LeastCost p v d → d < 16 → ∃ r, (m v).route p = some r ∧ r.metric.toNat ≤ d

end Costs

theorem toNat_saturatingAdd_of_finite {a c : UInt32} (h : saturatingAddU32 a c ≤ b)
    (hb : b < infinity) : a.toNat + c.toNat ≤ b.toNat := by
  rw [UInt32.le_iff_toNat_le, saturatingAddU32_toNat] at h
  rw [UInt32.lt_iff_toNat_lt] at hb
  have hinf : infinity.toNat = 16 := rfl
  omega

section Soundness
variable {N : Network} {p : Ipv4Net} {m : Mesh}

theorem Network.Sound.costs_le (h : N.Sound p m) (hr : (m v).route p = some r) :
    ∃ n, N.Costs p v n ∧ min n 4294967295 ≤ r.metric.toNat := by
  induction hk : r.metric.toNat using Nat.strong_induction_on generalizing v r with
  | _ k ih =>
    cases h.supported hr with
    | connected _ _ horigin =>
      rw [← hk]
      exact ⟨_, .origin horigin, min_le_left _ _⟩
    | @learned c next _ hcost hnext hfin hle =>
      have hpos := N.cost_pos hcost
      have hfin' : next.metric.toNat < 16 := UInt32.lt_iff_toNat_lt.mp hfin
      rw [UInt32.le_iff_toNat_le, saturatingAddU32_toNat, hk] at hle
      obtain ⟨n, hn, hmin⟩ := ih next.metric.toNat (by omega) hnext rfl
      refine ⟨n + c.toNat, .hop hn ⟨c, hcost, rfl⟩, ?_⟩
      omega

theorem Network.Sound.leastCost_le (h : N.Sound p m) (hr : (m v).route p = some r) :
    ∃ d, N.LeastCost p v d ∧ min d 4294967295 ≤ r.metric.toNat := by
  obtain ⟨n, hn, hmin⟩ := h.costs_le hr
  obtain ⟨d, hd, hle⟩ := Base.Costs.exists_least hn
  refine ⟨d, hd, ?_⟩
  omega

theorem Network.Sound.leastCost_le_of_lt (h : N.Sound p m) (hr : (m v).route p = some r)
    (hfin : r.metric.toNat < 4294967295) (hd : N.LeastCost p v d) : d ≤ r.metric.toNat := by
  obtain ⟨d', hd', hmin⟩ := h.leastCost_le hr
  cases hd.unique hd'
  omega

/-- What a node has for a prefix after an exchange: what it had, which is no worse than what it
was told; or the route just told of, which is better than what it had. -/
inductive Exchanged (m : Mesh) (p : Ipv4Net) (a b : String) (c : UInt32) (now : Nat) :
    Option DvRoute → Prop where
  | kept (hle : ∀ ra, (m a).route p = some ra → ra.metric < infinity → ra.nextHop ≠ b →
      ∃ rb, (m b).route p = some rb ∧ rb.metric ≤ saturatingAddU32 ra.metric c) :
    Exchanged m p a b c now ((m b).route p)
  | improved (hra : (m a).route p = some ra) (hfin : ra.metric < infinity)
    (hbetter : ∀ rb, (m b).route p = some rb → saturatingAddU32 ra.metric c < rb.metric) :
    Exchanged m p a b c now (some (learnedRoute a p (saturatingAddU32 ra.metric c) now))

theorem Network.Sound.not_mutual (h : N.Sound p m) (hra : (m a).route p = some ra)
    (hrb : (m b).route p = some rb) (hfin : ra.metric < infinity) (hab : ra.nextHop = b)
    (hba : rb.nextHop = a) : rb.flags.connected = true := by
  apply Bool.eq_true_of_not_eq_false
  intro hflag
  cases h.supported hrb with
  | connected hflag' =>
    rw [hflag] at hflag'
    cases hflag'
  | @learned c _ _ hcost hnext _ hle =>
    rw [hba, hra] at hnext
    cases hnext
    cases h.supported hra with
    | connected hflag' hhop =>
      have hself : b = a := hab.symm.trans hhop
      rw [hself, hra] at hrb
      cases hrb
      rw [hflag] at hflag'
      cases hflag'
    | @learned c' _ _ hcost' hnext' hfin' hle' =>
      rw [hab, hrb] at hnext'
      cases hnext'
      have hsum := toNat_saturatingAdd_of_finite hle hfin'
      have hsum' := toNat_saturatingAdd_of_finite hle' hfin
      have hpos := N.cost_pos hcost
      omega

theorem Network.Sound.better (h : N.Sound p m) (hcost : N.cost a b = some c)
    (hra : (m a).route p = some ra) (hhop : ra.nextHop ≠ b) (hrb : (m b).route p = some rb)
    (hbetter : shouldUpdate a (saturatingAddU32 ra.metric c) (some rb) = true) :
    saturatingAddU32 ra.metric c < rb.metric := by
  rw [shouldUpdate] at hbetter
  split at hbetter
  · next hvia =>
    have hne : saturatingAddU32 ra.metric c ≠ rb.metric := by simpa using hbetter
    cases h.supported hrb with
    | connected _ hself =>
      have hab : a = b := hvia.symm.trans hself
      rw [hab, hrb] at hra
      cases hra
      exact (hhop hself).elim
    | learned _ hcost' hnext _ hle =>
      rw [hvia, hcost] at hcost'
      cases hcost'
      rw [hvia, hra] at hnext
      cases hnext
      exact UInt32.lt_of_le_of_ne hle hne
  · exact of_decide_eq_true hbetter

theorem exists_le_of_not_shouldUpdate (h : shouldUpdate a metric slot = false) :
    ∃ r, slot = some r ∧ r.metric ≤ metric := by
  cases slot with
  | none => cases h
  | some r =>
    refine ⟨r, rfl, ?_⟩
    rw [shouldUpdate] at h
    split at h
    · have heq : metric = r.metric := by simpa using h
      rw [heq]
      exact UInt32.le_refl _
    · exact UInt32.not_lt.mp (of_decide_eq_false h)

/-- A node tells its next hop of infinity, and the next hop does not rest on it. -/
theorem Network.Sound.offered_nextHop (h : N.Sound p m) (hra : (m a).route p = some ra)
    (hfin : ra.metric < infinity) (hhop : ra.nextHop = b)
    (ho : Offered a c now p infinity ((m b).route p) slot') :
    Exchanged m p a b c now slot' := by
  have hkept : Exchanged m p a b c now ((m b).route p) := by
    apply Exchanged.kept
    intro ra' hra' _ hne
    rw [hra] at hra'
    cases hra'
    exact (hne hhop).elim
  generalize hrb : (m b).route p = slot at ho hkept
  cases ho with
  | poisoned _ hvia hlearned =>
    rw [h.not_mutual hra hrb hfin hhop hvia] at hlearned
    cases hlearned
  | withdrawn => exact hkept
  | accepted hfin' => exact (UInt32.lt_irrefl _ hfin').elim
  | refused hfin' => exact (UInt32.lt_irrefl _ hfin').elim

theorem Network.Sound.offered_finite (h : N.Sound p m) (hcost : N.cost a b = some c)
    (hra : (m a).route p = some ra) (hfin : ra.metric < infinity) (hhop : ra.nextHop ≠ b)
    (ho : Offered a c now p ra.metric ((m b).route p) slot') :
    Exchanged m p a b c now slot' := by
  generalize hrb : (m b).route p = slot at ho
  cases ho with
  | poisoned hinf => exact (UInt32.not_le.mpr hfin hinf).elim
  | withdrawn hinf => exact (UInt32.not_le.mpr hfin hinf).elim
  | accepted _ hbetter =>
    apply Exchanged.improved hra hfin
    intro rb hrb'
    rw [hrb] at hrb'
    cases hrb'
    exact h.better hcost hra hhop hrb hbetter
  | refused _ hworse =>
    rw [← hrb] at hworse ⊢
    apply Exchanged.kept
    intro ra' hra' _ _
    rw [hra] at hra'
    cases hra'
    exact exists_le_of_not_shouldUpdate hworse

theorem Network.Sound.exchanged (h : N.Sound p m) (hcost : N.cost a b = some c) (now : Nat) :
    Exchanged m p a b c now ((m.step (.exchange a b c now) b).route p) := by
  have hstep : m.step (.exchange a b c now) b =
      (m b).step (.processUpdate a ((m a).buildUpdate b) c now) := m.step_self _
  rw [hstep]
  cases hra : (m a).route p with
  | none =>
    rw [exchange_silent (by rw [hra, Option.bind_none])]
    apply Exchanged.kept
    intro ra hra'
    rw [hra] at hra'
    cases hra'
  | some ra =>
    by_cases hinf : infinity ≤ ra.metric
    · rw [exchange_silent (by rw [hra, Option.bind_some, advertised_of_infinite hinf])]
      apply Exchanged.kept
      intro ra' hra' hfin
      rw [hra] at hra'
      cases hra'
      exact (UInt32.not_le.mpr hfin hinf).elim
    · have hfin : ra.metric < infinity := UInt32.not_le.mp hinf
      by_cases hhop : ra.nextHop = b
      · exact h.offered_nextHop hra hfin hhop
          (exchange_offered hra ((h.configured a).advertised_nextHop hinf hhop))
      · exact h.offered_finite hcost hra hfin hhop
          (exchange_offered hra (advertised_elsewhere hinf hhop))

theorem Network.Sound.step_le (h : N.Sound p m) (hop : N.Exchange op)
    (hr : (m v).route p = some r) :
    ∃ r', (m.step op v).route p = some r' ∧ r'.metric ≤ r.metric := by
  cases op with
  | exchange a b c now =>
    by_cases hv : v = b
    · cases hv
      have hex := h.exchanged hop now
      generalize (m.step (.exchange a v c now) v).route p = slot' at hex
      cases hex with
      | kept => exact ⟨r, hr, UInt32.le_refl _⟩
      | improved _ _ hbetter => exact ⟨_, rfl, UInt32.le_of_lt (hbetter r hr)⟩
    · rw [m.step_of_ne hv]
      exact ⟨r, hr, UInt32.le_refl _⟩
  | _ => exact hop.elim

theorem Network.Supported.step (h : N.Supported p m v r) (hm : N.Sound p m)
    (hop : N.Exchange op) : N.Supported p (m.step op) v r := by
  cases h with
  | connected hflag hhop horigin => exact .connected hflag hhop horigin
  | @learned c next hflag hcost hnext hfin hle =>
    obtain ⟨next', hnext', hle'⟩ := hm.step_le hop hnext
    have hsum := UInt32.le_trans (saturatingAddU32_mono hle' c) hle
    exact .learned hflag hcost hnext' (UInt32.lt_of_le_of_lt hle' hfin) hsum

theorem Network.Sound.step (h : N.Sound p m) (hop : N.Exchange op) : N.Sound p (m.step op) where
  configured := h.configured.step op
  origin horigin := by
    obtain ⟨r, hr, hle⟩ := h.origin horigin
    obtain ⟨r', hr', hle'⟩ := h.step_le hop hr
    exact ⟨r', hr', Nat.le_trans (UInt32.le_iff_toNat_le.mp hle') hle⟩
  supported {v r} hr := by
    cases op with
    | exchange a b c now =>
      by_cases hv : v = b
      · cases hv
        have hex := h.exchanged hop now
        rw [hr] at hex
        generalize hslot : some r = slot at hex
        cases hex with
        | kept => exact (h.supported hslot.symm).step h hop
        | @improved ra hra hfin hbetter =>
          cases hslot
          have hne : a ≠ v := by
            rintro rfl
            exact UInt32.not_lt.mpr (le_saturatingAddU32 ra.metric c) (hbetter ra hra)
          have hnext : (m.step (.exchange a v c now) a).route p = some ra := by
            rw [m.step_of_ne hne]
            exact hra
          exact .learned rfl hop hnext hfin (UInt32.le_refl _)
      · rw [m.step_of_ne hv] at hr
        exact (h.supported hr).step h hop
    | _ => exact hop.elim

/-- An exchange from the node before it on a least-cost path settles a node, once that node is
settled. -/
theorem Network.Sound.feeds (h : N.Sound p m) (hcost : N.cost u v = some c)
    (hu : N.LeastCost p u d') (hv : N.LeastCost p v (d' + c.toNat)) (hfin : d' + c.toNat < 16)
    (hsettled : N.Settled p m u) (now : Nat) : N.Settled p (m.step (.exchange u v c now)) v := by
  have hpos := N.cost_pos hcost
  obtain ⟨ru, hru, hle⟩ := hsettled d' hu (by omega)
  have hrufin : ru.metric < infinity := by
    rw [UInt32.lt_iff_toNat_lt]
    exact Nat.lt_of_le_of_lt hle (by change _ < 16; omega)
  -- A route through v would cost more than the least cost of v.
  have hhop : ru.nextHop ≠ v := by
    intro hback
    cases h.supported hru with
    | connected _ hself =>
      cases hself.symm.trans hback
      have hsame := hu.unique hv
      omega
    | @learned c' rv _ hcost' hnext hrv hle' =>
      rw [hback] at hnext
      have hsum := toNat_saturatingAdd_of_finite hle' hrufin
      have hlow := h.leastCost_le_of_lt hnext (by omega) hv
      omega
  have hsum : (saturatingAddU32 ru.metric c).toNat ≤ d' + c.toNat := by
    rw [saturatingAddU32_toNat]
    omega
  intro d hd _
  cases hd.unique hv
  have hex := h.exchanged hcost now
  generalize (m.step (.exchange u v c now) v).route p = slot' at hex
  cases hex with
  | kept hkept =>
    obtain ⟨rv, hrv, hle'⟩ := hkept ru hru hrufin hhop
    exact ⟨rv, hrv, Nat.le_trans (UInt32.le_iff_toNat_le.mp hle') hsum⟩
  | @improved ra hra =>
    rw [hru] at hra
    cases hra
    exact ⟨_, rfl, hsum⟩

theorem Network.Sound.settled_step (h : N.Sound p m) (hop : N.Exchange op)
    (hv : N.Settled p m v) : N.Settled p (m.step op) v := by
  intro d hd hfin
  obtain ⟨r, hr, hle⟩ := hv d hd hfin
  obtain ⟨r', hr', hle'⟩ := h.step_le hop hr
  exact ⟨r', hr', Nat.le_trans (UInt32.le_iff_toNat_le.mp hle') hle⟩

theorem Network.Sound.settled_origin (h : N.Sound p m) (hd : N.LeastCost p v d)
    (ho : N.IsOrigin p v d) : N.Settled p m v := by
  intro d' hd' _
  cases hd.unique hd'
  exact h.origin ho

end Soundness

section Start
variable {p : Ipv4Net} {m : Mesh}

theorem Mesh.route_origin (hm : m.Configured) (o : Origin) (v : String) :
    (m.step o.op v).route p = if o.nodeId = v ∧ o.cidr = p then
      some (connectedRoute v p o.metric o.addedAt) else (m v).route p := by
  by_cases hv : o.nodeId = v
  · cases hv
    have hstep : m.step o.op o.nodeId =
        (m o.nodeId).addConnectedRoute o.cidr o.metric o.addedAt := m.step_self _
    rw [hstep, route_addConnectedRoute, (hm o.nodeId).nodeId_eq]
    by_cases hp : o.cidr = p
    · rw [if_pos hp, if_pos ⟨rfl, hp⟩, hp]
    · rw [if_neg hp, if_neg (fun h => hp h.2)]
  · have hne : v ≠ MeshOp.nodeId o.op := fun h => hv h.symm
    rw [m.step_of_ne hne, if_neg (fun h => hv h.1)]

theorem Mesh.route_origins (os : List Origin)
    (hos : os.Pairwise (fun o o' => o.nodeId ≠ o'.nodeId ∨ o.cidr ≠ o'.cidr)) :
    (Mesh.new.run (os.map Origin.op)).Configured ∧
      ∀ v r, ((Mesh.new.run (os.map Origin.op)) v).route p = some r ↔
        ∃ o ∈ os, o.nodeId = v ∧ o.cidr = p ∧ connectedRoute v p o.metric o.addedAt = r := by
  induction os using List.reverseRecOn with
  | nil =>
    refine ⟨Mesh.configured_new, ?_⟩
    intro v r
    constructor
    · intro hr
      have hnone : (Mesh.new v).route p = none := route_new v p
      cases hnone.symm.trans hr
    · rintro ⟨o, ho, -⟩
      cases ho
  | append_singleton os o ih =>
    obtain ⟨hos, -, hlast⟩ := List.pairwise_append.mp hos
    obtain ⟨hm, hroutes⟩ := ih hos
    have hrun : Mesh.new.run ((os ++ [o]).map Origin.op) =
        (Mesh.new.run (os.map Origin.op)).step o.op := by
      rw [Mesh.run, Mesh.run, List.map_append, List.foldl_append]
      rfl
    rw [hrun]
    refine ⟨hm.step _, ?_⟩
    intro v r
    rw [Mesh.route_origin hm]
    split
    · next hvp =>
      constructor
      · intro hr
        cases hr
        exact ⟨o, List.mem_append_right _ List.mem_cons_self, hvp.1, hvp.2, rfl⟩
      · rintro ⟨o', ho', hv', hp', hr⟩
        rcases List.mem_append.mp ho' with ho' | ho'
        · have hne := hlast o' ho' o List.mem_cons_self
          rw [hv', hp', hvp.1, hvp.2] at hne
          rcases hne with hne | hne <;> exact (hne rfl).elim
        · cases List.mem_singleton.mp ho'
          rw [hr]
    · next hvp =>
      rw [hroutes]
      constructor
      · rintro ⟨o', ho', h⟩
        exact ⟨o', List.mem_append_left _ ho', h⟩
      · rintro ⟨o', ho', hv', hp', hr⟩
        rcases List.mem_append.mp ho' with ho' | ho'
        · exact ⟨o', ho', hv', hp', hr⟩
        · cases List.mem_singleton.mp ho'
          exact (hvp ⟨hv', hp'⟩).elim

theorem Network.start_sound (N : Network) (p : Ipv4Net) : N.Sound p N.start := by
  obtain ⟨hm, hroutes⟩ := Mesh.route_origins (p := p) N.origins N.origins_distinct
  refine ⟨hm, ?_, ?_⟩
  · rintro v n ⟨o, ho, hv, hp, hn⟩
    exact ⟨_, (hroutes v _).mpr ⟨o, ho, hv, hp, rfl⟩, Nat.le_of_eq hn⟩
  · intro v r hr
    obtain ⟨o, ho, hv, hp, he⟩ := (hroutes v r).mp hr
    cases he
    exact .connected rfl rfl ⟨o, ho, hv, hp, rfl⟩

end Start

section Runs
variable (N : Network) (p : Ipv4Net)

theorem Network.run_sound {m : Mesh} (h : N.Sound p m) {ops : List MeshOp}
    (hops : ∀ op ∈ ops, N.Exchange op) : N.Sound p (m.run ops) := by
  have hg : Guarded Mesh.step (fun _ op => N.Exchange op) m ops :=
    .of_forall (fun _ op hop => hops op hop)
  exact hg.invariant h (fun _ _ hi hop => hi.step hop)

/-- The step takes what the first node tells to the second, which it leads to at least cost. -/
def Network.Feeds (op : MeshOp) (u v : String) : Prop :=
  ∃ c d' now, op = .exchange u v c now ∧ N.cost u v = some c ∧ N.LeastCost p u d' ∧
    N.LeastCost p v (d' + c.toNat) ∧ d' + c.toNat < 16

theorem Network.settled_after_rounds {m : Mesh} (h : N.Sound p m) {rounds : List (List MeshOp)}
    (hops : ∀ round ∈ rounds, ∀ op ∈ round, N.Exchange op)
    (hcovers : ∀ round ∈ rounds, N.Covers round) (hlen : rounds.length = N.nodes.card)
    (v : String) : N.Settled p (m.run rounds.flatten) v := by
  intro d hd hfin
  have hrank : costRank (N.IsOrigin p) N.Edge N.nodes v ≤ N.nodes.card := costRank_le N.nodes v
  have hdep : ∀ v, (∃ d, N.LeastCost p v d ∧ d < 16) →
      (∀ m, N.Sound p m → N.Settled p m v) ∨
        ∃ u, (∃ d, N.LeastCost p u d ∧ d < 16) ∧
          costRank (N.IsOrigin p) N.Edge N.nodes u < costRank (N.IsOrigin p) N.Edge N.nodes v ∧
          ∀ round ∈ rounds, ∃ op ∈ round, N.Feeds p op u v := by
    rintro v ⟨d, hd, hfin⟩
    rcases hd.origin_or_hop with ho | ⟨u, n, d', ⟨c, hcost, hc⟩, hu, hsum⟩
    · exact Or.inl (fun m hm => hm.settled_origin hd ho)
    · have hpos := N.cost_pos hcost
      refine Or.inr ⟨u, ⟨d', hu, by omega⟩,
        costRank_lt (N.edge_mem hcost).1 hu hd (by omega), ?_⟩
      intro round hround
      obtain ⟨now, hop⟩ := hcovers round hround u v c hcost
      rw [← hsum, ← hc] at hd hfin
      exact ⟨_, hop, c, d', now, rfl, hcost, hu, hd, hfin⟩
  have hkeep : ∀ m op v, N.Exchange op → N.Sound p m → N.Settled p m v →
      N.Settled p (m.step op) v := fun m op v hop hm hv => hm.settled_step hop hv
  have hfeed : ∀ m op u v, N.Exchange op → N.Sound p m → N.Feeds p op u v → N.Settled p m u →
      N.Settled p (m.step op) v := by
    rintro m op u v hop hm ⟨c, d', now, rfl, hcost, hu, hv, hfin⟩ hsettled
    exact hm.feeds hcost hu hv hfin hsettled now
  have hstep : ∀ m op, N.Exchange op → N.Sound p m → N.Sound p (m.step op) :=
    fun m op hop hm => hm.step hop
  exact rounds_settle hstep hkeep hfeed hops hdep h ⟨d, hd, hfin⟩ (by omega) d hd hfin

/-- The next hop of a route of cost `d` is the node itself, for an origin, or lies on a path of
that cost which is least. -/
def Network.LeadsLeast (v : String) (d : ℕ) (r : DvRoute) : Prop :=
  (r.nextHop = v ∧ N.IsOrigin p v d) ∨
    ∃ c d', N.cost r.nextHop v = some c ∧ N.LeastCost p r.nextHop d' ∧ d' + c.toNat = d

theorem Network.Sound.leadsLeast {m : Mesh} (h : N.Sound p m) (hv : N.Settled p m v)
    (hd : N.LeastCost p v d) (hfin : d < 16) :
    ∃ r, (m v).route p = some r ∧ r.metric.toNat = d ∧ N.LeadsLeast p v d r := by
  obtain ⟨r, hr, hle⟩ := hv d hd hfin
  have hge := h.leastCost_le_of_lt hr (by omega) hd
  have heq : r.metric.toNat = d := Nat.le_antisymm hle hge
  refine ⟨r, hr, heq, ?_⟩
  cases h.supported hr with
  | connected _ hhop horigin =>
    rw [heq] at horigin
    exact Or.inl ⟨hhop, horigin⟩
  | @learned c next _ hcost hnext hnextfin hle' =>
    have hrfin : r.metric < infinity := by
      rw [UInt32.lt_iff_toNat_lt, heq]
      exact hfin
    have hsum := toNat_saturatingAdd_of_finite hle' hrfin
    obtain ⟨d', hd', hmin⟩ := h.leastCost_le hnext
    have hback : d ≤ d' + c.toNat := hd.2 (.hop hd'.1 ⟨c, hcost, rfl⟩)
    exact Or.inr ⟨c, d', hcost, hd', by omega⟩

end Runs

/-- Over any exchanges along the edges no metric falls below the least cost, or below the
largest number where the least cost exceeds that; and once every edge has been exchanged in as
many rounds as there are nodes, every node of finite least cost has it as its metric and leads
along a least path. -/
theorem distance_vector_converges (N : Network) (p : Ipv4Net) :
    (∀ ops : List MeshOp, (∀ op ∈ ops, N.Exchange op) →
      ∀ v r, (N.start.run ops v).route p = some r →
        ∃ d, N.LeastCost p v d ∧ min d 4294967295 ≤ r.metric.toNat) ∧
    ∀ (before : List MeshOp) (rounds : List (List MeshOp)) (after : List MeshOp),
      (∀ op ∈ before ++ rounds.flatten ++ after, N.Exchange op) →
      (∀ round ∈ rounds, N.Covers round) → rounds.length = N.nodes.card →
      ∀ v d, N.LeastCost p v d → d < 16 →
        ∃ r, (N.start.run (before ++ rounds.flatten ++ after) v).route p = some r ∧
          r.metric.toNat = d ∧ N.LeadsLeast p v d r := by
  constructor
  · intro ops hops v r hr
    exact (N.run_sound p (N.start_sound p) hops).leastCost_le hr
  · intro before rounds after hops hcovers hlen v d hd hfin
    have hbefore : N.Sound p (N.start.run before) := N.run_sound p (N.start_sound p)
      (fun op hop => hops op (List.mem_append_left _ (List.mem_append_left _ hop)))
    have hrounds : ∀ round ∈ rounds, ∀ op ∈ round, N.Exchange op := by
      intro round hround op hop
      have hmem := List.mem_flatten.mpr ⟨round, hround, hop⟩
      exact hops op (List.mem_append_left _ (List.mem_append_right _ hmem))
    have hsettled := N.settled_after_rounds p hbefore hrounds hcovers hlen v
    have hsound := N.run_sound p (N.start_sound p) hops
    have hend : N.Settled p (N.start.run (before ++ rounds.flatten ++ after)) v := by
      have hmid : N.Sound p ((N.start.run before).run rounds.flatten) :=
        N.run_sound p hbefore
          (fun op hop => hops op (List.mem_append_left _ (List.mem_append_right _ hop)))
      have hg : Guarded Mesh.step (fun _ op => N.Exchange op)
          ((N.start.run before).run rounds.flatten) after :=
        .of_forall (fun _ op hop => hops op (List.mem_append_right _ hop))
      have hafter := hg.invariant (I := fun m => N.Sound p m ∧ N.Settled p m v)
        ⟨hmid, hsettled⟩ (fun _ _ hi hop => ⟨hi.1.step hop, hi.1.settled_step hop hi.2⟩)
      rw [Mesh.run, List.foldl_append, List.foldl_append]
      exact hafter.2
    exact hsound.leadsLeast N p hend hd hfin

/-- Two nodes with an edge from the origin to the other. -/
def pairNetwork (c : UInt32) (hc : 0 < c.toNat) : Network where
  nodes := {"node-a", "node-b"}
  cost a b := if a = "node-a" ∧ b = "node-b" then some c else none
  origins := [⟨"node-a", meshNet, 1, 0⟩]
  cost_pos h := by
    split at h
    · cases h
      exact hc
    · cases h
  edge_mem h := by
    split at h
    · next hab => simp [hab.1, hab.2]
    · cases h
  origin_mem := by simp
  origin_finite := by simp [infinity]
  origins_distinct := List.pairwise_singleton _ _

theorem pairNetwork_cost {hc : 0 < c.toNat} :
    (pairNetwork c hc).cost a b = some c' ↔ a = "node-a" ∧ b = "node-b" ∧ c' = c := by
  rw [pairNetwork, ite_eq_iff]
  simp [and_assoc, eq_comm]

theorem pairNetwork_costs {hc : 0 < c.toNat} (h : (pairNetwork c hc).Costs meshNet v n) :
    n = if v = "node-b" then 1 + c.toNat else 1 := by
  cases h with
  | origin ho =>
    obtain ⟨o, ho, hv, -, hn⟩ := ho
    cases List.mem_singleton.mp ho
    rw [← hv, ← hn, if_neg (by decide)]
    rfl
  | hop hu he =>
    obtain ⟨c', hcost, hc'⟩ := he
    obtain ⟨hu', hv, hcc⟩ := pairNetwork_cost.mp hcost
    cases hu with
    | origin ho =>
      obtain ⟨o, ho, -, -, hn⟩ := ho
      cases List.mem_singleton.mp ho
      rw [← hc', hcc, ← hn, if_pos hv]
      rfl
    | hop _ he' =>
      obtain ⟨_, hcost', -⟩ := he'
      have hback := (pairNetwork_cost.mp hcost').2.1
      rw [hu'] at hback
      exact absurd hback (by decide)

theorem pairNetwork_least (hc : 0 < c.toNat) :
    (pairNetwork c hc).LeastCost meshNet "node-b" (1 + c.toNat) := by
  constructor
  · have hstart : (pairNetwork c hc).IsOrigin meshNet "node-a" 1 :=
      ⟨_, List.mem_cons_self, rfl, rfl, rfl⟩
    exact .hop (.origin hstart) ⟨c, pairNetwork_cost.mpr ⟨rfl, rfl, rfl⟩, rfl⟩
  · intro n hn
    exact Nat.le_of_eq (pairNetwork_costs hn).symm

theorem distance_vector_converges_pair :
    ∃ r, ((pairNetwork 1 (by decide)).start.run
      [.exchange "node-a" "node-b" 1 1, .exchange "node-a" "node-b" 1 2] "node-b").route meshNet =
        some r ∧ r.metric.toNat = 2 ∧
      (pairNetwork 1 (by decide)).LeadsLeast meshNet "node-b" 2 r := by
  have hcovers : ∀ now, (pairNetwork 1 (by decide)).Covers [.exchange "node-a" "node-b" 1 now] := by
    intro now a b c hcost
    obtain ⟨rfl, rfl, rfl⟩ := pairNetwork_cost.mp hcost
    exact ⟨now, List.mem_cons_self⟩
  have hexchange : ∀ now,
      (pairNetwork 1 (by decide)).Exchange (.exchange "node-a" "node-b" 1 now) :=
    fun _ => pairNetwork_cost.mpr ⟨rfl, rfl, rfl⟩
  refine (distance_vector_converges (pairNetwork 1 (by decide)) meshNet).2 []
    [[.exchange "node-a" "node-b" 1 1], [.exchange "node-a" "node-b" 1 2]] [] ?_ ?_ rfl "node-b" 2
    (pairNetwork_least _) (by decide)
  · simp [hexchange]
  · simp [hcovers]

/-- The sum of a metric and the cost of a hop stops at the largest number. -/
theorem metric_saturates :
    ¬ ∀ (N : Network) (p : Ipv4Net) (ops : List MeshOp), (∀ op ∈ ops, N.Exchange op) →
      ∀ v r, (N.start.run ops v).route p = some r →
        ∃ d, N.LeastCost p v d ∧ d ≤ r.metric.toNat := by
  intro h
  obtain ⟨d, hd, hle⟩ := h (pairNetwork 4294967295 (by decide)) meshNet
    [.exchange "node-a" "node-b" 4294967295 1]
    (by
      intro op hop
      cases List.mem_singleton.mp hop
      exact pairNetwork_cost.mpr ⟨rfl, rfl, rfl⟩)
    "node-b" (learnedRoute "node-a" meshNet 4294967295 1) (by decide +kernel)
  have hcost : d = 1 + 4294967295 := pairNetwork_costs hd.1
  rw [hcost] at hle
  exact absurd hle (by decide)

end P2PMesh.MeshRouting
