import P2PMesh.RouteFailover

namespace P2PMesh.Router
open P2PMesh.Base
set_option autoImplicit true

variable {N : Ipnet}

def RouteTable.group (t : RouteTable) (key : String) : List Route :=
  ((t.ecmp[key]?).map EcmpGroup.routes).getD []

section Groups
variable (N : Ipnet)

/-- What an operation does to the group under one key: only `add_route` builds groups. -/
def RouteOp.onGroup (key : String) (entry group : List Route) : RouteOp → List Route
  | .addRoute route =>
    if N.toString route.cidr = key ∧ 1 < (ecmpRoutes (mergeRoute entry route)).length then
      ecmpRoutes (mergeRoute entry route)
    else group
  | .flush => []
  | _ => group

/-- The members of a group are stored and active, and no active route beside them costs less. -/
def GroupFresh (entry group : List Route) : Prop :=
  ∀ m ∈ group, m ∈ entry ∧ m.active = true ∧
    ∀ r ∈ entry, r.active = true → m.metric ≤ r.metric

/-- An operation that rebuilds the group of a key, or takes no member from the routes stored
there, deactivates none, changes the metric of none and puts no cheaper active route beside
them. -/
def RouteOp.KeepsGroup (key : String) (entry group : List Route) : RouteOp → Prop
  | .addRoute route => N.toString route.cidr = key →
    1 < (ecmpRoutes (mergeRoute entry route)).length ∨
      ∀ m ∈ group, (m.peerId = route.peerId → m = route) ∧
        (route.active = true → m.metric ≤ route.metric)
  | .removeRoute cidr peerId => N.toString cidr = key → ∀ m ∈ group, m.peerId ≠ peerId
  | .deactivateRoute peerId => ∀ m ∈ group, m.peerId ≠ peerId
  | .activateRoute peerId => ∀ r ∈ entry, r.peerId = peerId → ∀ m ∈ group, m.metric ≤ r.metric
  | .updateMetric cidr peerId newMetric => N.toString cidr = key → ∀ m ∈ group,
    (m.peerId = peerId → newMetric = m.metric) ∧
      ∀ r ∈ entry, r.peerId = peerId → r.active = true → m.metric ≤ newMetric
  | .setDefaultRoute _ => True
  | .flush => True
  | .lookupEcmp _ => True

variable {N}

theorem ecmpRoutes_fresh {entry : List Route}
    (h : entry.Pairwise (fun r r' => r.metric ≤ r'.metric)) :
    GroupFresh entry (ecmpRoutes entry) := by
  intro m hm
  cases entry with
  | nil => cases hm
  | cons first rest =>
    obtain ⟨hmem, hp⟩ := List.mem_filter.mp hm
    obtain ⟨hmetric, ha⟩ := of_decide_eq_true hp
    have hle : ∀ r ∈ first :: rest, r.active = true → m.metric ≤ r.metric := by
      intro r hr _
      rw [hmetric]
      rcases List.mem_cons.mp hr with hr | hr
      · rw [hr]
      · exact (List.pairwise_cons.mp h).1 r hr
    exact ⟨hmem, ha, hle⟩

theorem ecmpRoutes_length_le (entry : List Route) :
    (ecmpRoutes entry).length ≤ entry.length := by
  cases entry with
  | nil => exact Nat.le_refl _
  | cons first rest => exact List.length_filter_le _ _

theorem RouteTable.group_lookupEcmp (t : RouteTable) (dst : Ipv4Addr) (key : String) :
    (t.lookupEcmp N dst).2.group key = t.group key := by
  simp only [RouteTable.lookupEcmp]
  split
  · rfl
  · split
    · rfl
    · next g hg =>
      split
      · simp only [RouteTable.group, getElem?_insert_eq]
        split
        · next hk => rw [← hk, hg, Option.map_some, Option.map_some]
        · rfl
      · rfl

theorem RouteTable.addRoute_ecmp (t : RouteTable) (route : Route) :
    (t.addRoute N route).ecmp =
      if 1 < (ecmpRoutes (mergeRoute (t.entry (N.toString route.cidr)) route)).length then
        t.ecmp.insert (N.toString route.cidr)
          ⟨route.cidr, ecmpRoutes (mergeRoute (t.entry (N.toString route.cidr)) route), 0⟩
      else t.ecmp := by
  have hlen := ecmpRoutes_length_le (mergeRoute (t.entry (N.toString route.cidr)) route)
  rw [RouteTable.entry] at hlen ⊢
  simp only [RouteTable.addRoute]
  by_cases hg : 1 < (ecmpRoutes (mergeRoute ((t.routes[N.toString route.cidr]?).getD [])
    route)).length
  · rw [if_pos ⟨by omega, hg⟩, if_pos hg]
  · rw [if_neg (fun h => hg h.2), if_neg hg]

theorem RouteTable.group_addRoute (t : RouteTable) (route : Route) (key : String) :
    (t.addRoute N route).group key =
      (RouteOp.addRoute route).onGroup N key (t.entry key) (t.group key) := by
  rw [RouteTable.group, RouteTable.addRoute_ecmp]
  simp only [RouteOp.onGroup]
  by_cases hk : N.toString route.cidr = key
  · rw [hk]
    simp only [true_and]
    split
    · rw [Std.TreeMap.getElem?_insert_self, Option.map_some, Option.getD_some]
    · rfl
  · rw [if_neg (fun h : _ ∧ _ => hk h.1)]
    split
    · rw [getElem?_insert_of_ne _ _ hk]
      rfl
    · rfl

theorem RouteTable.group_step (t : RouteTable) (op : RouteOp) (key : String) :
    (t.step N op).group key = op.onGroup N key (t.entry key) (t.group key) := by
  cases op with
  | addRoute route => exact t.group_addRoute route key
  | removeRoute cidr p =>
    obtain ⟨routes, he⟩ := t.removeRoute_only (N := N) cidr p
    rw [RouteTable.step, he]
    rfl
  | updateMetric cidr p m =>
    obtain ⟨routes, he⟩ := t.updateMetric_only (N := N) cidr p m
    rw [RouteTable.step, he]
    rfl
  | flush =>
    change (((∅ : Std.TreeMap String EcmpGroup)[key]?).map EcmpGroup.routes).getD [] = []
    rw [Std.TreeMap.getElem?_emptyc]
    rfl
  | lookupEcmp dst => exact t.group_lookupEcmp dst key
  | setDefaultRoute | deactivateRoute | activateRoute => rfl

theorem GroupFresh.map {f : Route → Route} (h : GroupFresh entry group)
    (hfix : ∀ m ∈ group, f m = m)
    (hle : ∀ m ∈ group, ∀ r ∈ entry, (f r).active = true → m.metric ≤ (f r).metric) :
    GroupFresh (entry.map f) group := by
  intro m hm
  obtain ⟨hmem, ha, -⟩ := h m hm
  have hle' : ∀ r ∈ entry.map f, r.active = true → m.metric ≤ r.metric := by
    intro r hr
    obtain ⟨r', hr', he⟩ := List.mem_map.mp hr
    rw [← he]
    exact hle m hm r' hr'
  exact ⟨List.mem_map.mpr ⟨m, hmem, hfix m hm⟩, ha, hle'⟩

theorem GroupFresh.merge (h : GroupFresh entry group)
    (hkeep : ∀ m ∈ group, (m.peerId = route.peerId → m = route) ∧
      (route.active = true → m.metric ≤ route.metric)) :
    GroupFresh (mergeRoute entry route) group := by
  intro m hm
  obtain ⟨hmem, ha, hle⟩ := h m hm
  obtain ⟨hpeer, hmetric⟩ := hkeep m hm
  have hmem' : m ∈ mergeRoute entry route := by
    by_cases hp : m.peerId = route.peerId
    · exact mem_mergeRoute.mpr (Or.inr (hpeer hp))
    · exact mem_mergeRoute.mpr (Or.inl ⟨hmem, hp⟩)
  have hle' : ∀ r ∈ mergeRoute entry route, r.active = true → m.metric ≤ r.metric := by
    intro r hr hra
    rcases mem_mergeRoute.mp hr with ⟨hr, -⟩ | hr
    · exact hle r hr hra
    · rw [hr] at hra ⊢
      exact hmetric hra
  exact ⟨hmem', ha, hle'⟩

theorem GroupFresh.filter {p : Route → Bool} (h : GroupFresh entry group)
    (hkeep : ∀ m ∈ group, p m = true) : GroupFresh (entry.filter p) group := by
  intro m hm
  obtain ⟨hmem, ha, hle⟩ := h m hm
  exact ⟨List.mem_filter.mpr ⟨hmem, hkeep m hm⟩, ha,
    fun r hr => hle r (List.mem_filter.mp hr).1⟩

theorem GroupFresh.deactivate (h : GroupFresh entry group)
    (hkeep : ∀ m ∈ group, m.peerId ≠ p) :
    GroupFresh (entry.map (Route.setActive p false)) group := by
  apply h.map
  · exact fun m hm => if_neg (hkeep m hm)
  · intro m hm r hr hra
    rw [Route.setActive] at hra
    rw [Route.setActive_metric]
    split at hra
    · cases hra
    · exact (h m hm).2.2 r hr hra

theorem GroupFresh.activate (h : GroupFresh entry group)
    (hkeep : ∀ r ∈ entry, r.peerId = p → ∀ m ∈ group, m.metric ≤ r.metric) :
    GroupFresh (entry.map (Route.setActive p true)) group := by
  apply h.map
  · intro m hm
    rw [Route.setActive]
    split
    · rw [← (h m hm).2.1]
    · rfl
  · intro m hm r hr hra
    rw [Route.setActive] at hra
    rw [Route.setActive_metric]
    split at hra
    · next hp => exact hkeep r hr hp m hm
    · exact (h m hm).2.2 r hr hra

theorem GroupFresh.setMetric (h : GroupFresh entry group)
    (hkeep : ∀ m ∈ group, (m.peerId = p → newMetric = m.metric) ∧
      ∀ r ∈ entry, r.peerId = p → r.active = true → m.metric ≤ newMetric) :
    GroupFresh (sortByKey Route.metric (entry.map (Route.setMetric p newMetric))) group := by
  have hmap : GroupFresh (entry.map (Route.setMetric p newMetric)) group := by
    apply h.map
    · intro m hm
      rw [Route.setMetric]
      split
      · next hp => rw [(hkeep m hm).1 hp]
      · rfl
    · intro m hm r hr hra
      rw [Route.setMetric_active] at hra
      rw [Route.setMetric]
      split
      · next hp => exact (hkeep m hm).2 r hr hp hra
      · exact (h m hm).2.2 r hr hra
  intro m hm
  obtain ⟨hmem, ha, hle⟩ := hmap m hm
  exact ⟨mem_sortByKey.mpr hmem, ha, fun r hr => hle r (mem_sortByKey.mp hr)⟩

theorem GroupFresh.step (hok : EntryOk N key entry) (h : GroupFresh entry group) {op : RouteOp}
    (hkeep : op.KeepsGroup N key entry group) :
    GroupFresh (op.onEntry N key entry) (op.onGroup N key entry group) := by
  cases op with
  | addRoute route =>
    simp only [RouteOp.onEntry, RouteOp.onGroup]
    by_cases hk : N.toString route.cidr = key
    · rw [if_pos hk]
      split
      · exact ecmpRoutes_fresh (hok.merge hk).sorted
      · next hg =>
        rcases hkeep hk with hb | hkeep
        · exact (hg ⟨hk, hb⟩).elim
        · exact h.merge hkeep
    · rw [if_neg hk, if_neg (fun hb => hk hb.1)]
      exact h
  | removeRoute cidr p =>
    simp only [RouteOp.onEntry, RouteOp.onGroup]
    split
    · next hk => exact h.filter (fun m hm => decide_eq_true (hkeep hk m hm))
    · exact h
  | deactivateRoute p => exact h.deactivate hkeep
  | activateRoute p => exact h.activate hkeep
  | updateMetric cidr p newMetric =>
    simp only [RouteOp.onEntry, RouteOp.onGroup]
    split
    · next hk => exact h.setMetric (hkeep hk)
    · exact h
  | flush => exact fun m hm => (List.not_mem_nil hm).elim
  | setDefaultRoute | lookupEcmp => exact h

end Groups

/-- A state in which every group agrees with the routes it was built from. -/
structure RouteTable.EcmpOk (N : Ipnet) (t : RouteTable) : Prop where
  ok : t.Ok N
  fresh : ∀ key, GroupFresh (t.entry key) (t.group key)
  noDefault : t.defaultRoute = none

def RouteTable.KeepsGroups (N : Ipnet) (t : RouteTable) (op : RouteOp) : Prop :=
  ∀ key, op.KeepsGroup N key (t.entry key) (t.group key)

def RouteOp.Stored : RouteOp → Prop
  | .setDefaultRoute _ => False
  | _ => True

theorem RouteTable.EcmpOk.new : RouteTable.new.EcmpOk N where
  ok := RouteTable.run_ok N []
  fresh key m hm := by
    have hg : RouteTable.new.group key = [] := by
      change (((∅ : Std.TreeMap String EcmpGroup)[key]?).map EcmpGroup.routes).getD [] = []
      rw [Std.TreeMap.getElem?_emptyc]
      rfl
    rw [hg] at hm
    cases hm
  noDefault := rfl

theorem RouteTable.EcmpOk.step {t : RouteTable} (h : t.EcmpOk N) {op : RouteOp}
    (hs : op.Stored) (hkeep : t.KeepsGroups N op) : (t.step N op).EcmpOk N where
  ok := h.ok.step op
  fresh key := by
    rw [RouteTable.entry_step, RouteTable.group_step]
    exact (h.fresh key).step (h.ok key) (hkeep key)
  noDefault := by
    rw [RouteTable.defaultRoute_step]
    cases op with
    | setDefaultRoute route => exact hs.elim
    | _ => exact h.noDefault

theorem RouteTable.EcmpOk.lookup_cheapest {t : RouteTable} (h : t.EcmpOk N)
    (hr : t.lookup N dst = some r) :
    r ∈ t.entry (N.toString r.cidr) ∧ r.active = true ∧
      ∀ r' ∈ t.entry (N.toString r.cidr), r'.active = true → r.metric ≤ r'.metric := by
  rcases RouteTable.lookup_source hr with ⟨key, hf⟩ | hd
  · have hmem := List.mem_of_find?_eq_some hf
    have hk := (h.ok key).keyed r hmem
    rw [hk]
    exact ⟨hmem, List.find?_some hf, fun r' hr' ha => find?_sorted_le (h.ok key).sorted hf hr' ha⟩
  · rw [h.noDefault] at hd
    cases hd

/-- The ECMP lookup refines the plain one: it finds nothing exactly when the plain one does, and
otherwise a stored active route of the same network and metric. -/
def RouteTable.EcmpRefines (N : Ipnet) (t : RouteTable) (dstIp : Ipv4Addr) : Prop :=
  ((t.lookupEcmp N dstIp).1 = none ↔ t.lookup N dstIp = none) ∧
    ∀ r, t.lookup N dstIp = some r → ∃ r', (t.lookupEcmp N dstIp).1 = some r' ∧
      r' ∈ t.entry (N.toString r.cidr) ∧ r'.active = true ∧ r'.metric = r.metric

theorem RouteTable.lookupEcmp_cases (t : RouteTable) (hl : t.lookup N dst = some best) :
    (t.lookupEcmp N dst).1 = some best ∨
      ∃ m ∈ t.group (N.toString best.cidr), (t.lookupEcmp N dst).1 = some m := by
  simp only [RouteTable.lookupEcmp, hl, RouteTable.group]
  split
  · exact Or.inl rfl
  · next g hg =>
    split
    · next hlen =>
      have hidx : g.nextIdx % g.routes.length < g.routes.length := Nat.mod_lt _ (by omega)
      have hmem : g.routes[g.nextIdx % g.routes.length] ∈
          ((t.ecmp[N.toString best.cidr]?).map EcmpGroup.routes).getD [] := by
        rw [hg]
        exact List.getElem_mem hidx
      exact Or.inr ⟨_, hmem, List.getElem?_eq_getElem hidx⟩
    · exact Or.inl rfl

theorem RouteTable.EcmpOk.refines {t : RouteTable} (h : t.EcmpOk N) (dst : Ipv4Addr) :
    t.EcmpRefines N dst := by
  constructor
  · cases hl : t.lookup N dst with
    | none => simp only [RouteTable.lookupEcmp, hl]
    | some best =>
      rcases t.lookupEcmp_cases hl with he | ⟨m, -, he⟩ <;> simp [he]
  · intro r hr
    obtain ⟨hmem, ha, hle⟩ := h.lookup_cheapest hr
    rcases t.lookupEcmp_cases hr with he | ⟨m, hm, he⟩
    · exact ⟨r, he, hmem, ha, rfl⟩
    · obtain ⟨hms, hma, hmle⟩ := h.fresh _ m hm
      exact ⟨m, he, hms, hma, Nat.le_antisymm (hmle r hmem ha) (hle m hms hma)⟩

/-- In every run whose steps keep the groups, the ECMP lookup refines the plain one. -/
theorem lookupEcmp_refines_lookup (N : Ipnet) (ops : List RouteOp)
    (hg : Guarded (RouteTable.step N) (fun t op => op.Stored ∧ t.KeepsGroups N op) .new ops)
    (dstIp : Ipv4Addr) : (RouteTable.new.run N ops).EcmpRefines N dstIp := by
  have h : (RouteTable.new.run N ops).EcmpOk N := by
    apply hg.invariant (I := fun t => t.EcmpOk N) RouteTable.EcmpOk.new
    intro t op ht hop
    exact ht.step hop.1 hop.2
  exact h.refines dstIp

def equalCost (peerId : String) : Route := directRoute 0x64400000#32 10 (by decide) peerId 10

theorem lookupEcmp_refines_lookup_balanced :
    (RouteTable.new.run dottedIpnet [.addRoute (equalCost "a"), .addRoute (equalCost "b"),
      .lookupEcmp 0x6440002a#32, .addRoute (equalCost "c")]).EcmpRefines dottedIpnet
        0x6440002a#32 := by
  apply lookupEcmp_refines_lookup
  refine ⟨⟨trivial, ?_⟩, ⟨trivial, ?_⟩, ⟨trivial, fun _ => trivial⟩, ⟨trivial, ?_⟩, trivial⟩
  · intro key hk
    cases hk
    exact Or.inr (by decide +kernel)
  · intro key hk
    cases hk
    exact Or.inr (by decide +kernel)
  · intro key hk
    cases hk
    exact Or.inl (by decide +kernel)

/-- The group still holds the route of a peer that was deactivated after the group was built. -/
theorem lookupEcmp_returns_stale_route :
    ¬ (RouteTable.new.run dottedIpnet [.addRoute (equalCost "a"), .addRoute (equalCost "b"),
      .deactivateRoute "a"]).EcmpRefines dottedIpnet 0x6440002a#32 := by
  intro h
  obtain ⟨r', he, hmem, -, -⟩ := h.2 (equalCost "b") (by decide +kernel)
  have hstale : ((RouteTable.new.run dottedIpnet [.addRoute (equalCost "a"),
      .addRoute (equalCost "b"), .deactivateRoute "a"]).lookupEcmp dottedIpnet 0x6440002a#32).1 =
        some (equalCost "a") := by decide +kernel
  rw [hstale] at he
  cases he
  exact absurd hmem (by decide +kernel)

end P2PMesh.Router
