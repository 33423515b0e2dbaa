import P2PMesh.DistanceVector

namespace P2PMesh.MeshRouting
open P2PMesh.Base
set_option autoImplicit true

@[simp] theorem route_new (nodeId : String) (p : Ipv4Net) :
    (DistanceVector.new nodeId).route p = none := Std.TreeMap.getElem?_emptyc

theorem route_addConnectedRoute (dv : DistanceVector) (cidr : Ipv4Net) (metric : UInt32)
    (now : Nat) (p : Ipv4Net) :
    (dv.addConnectedRoute cidr metric now).route p =
      if cidr = p then some (connectedRoute dv.table.nodeId cidr metric now) else dv.route p :=
  getElem?_insert_eq _ _ _ _

section Offers
variable {fromPeer : String} {hopCost : UInt32} {now : Nat}

/-- What an entry of an update makes of the route that the table has for its prefix. -/
inductive Offered (fromPeer : String) (hopCost : UInt32) (now : Nat) (cidr : Ipv4Net)
    (peerMetric : UInt32) : Option DvRoute → Option DvRoute → Prop where
  | poisoned (hinf : infinity ≤ peerMetric) (hhop : myRoute.nextHop = fromPeer)
    (hlearned : myRoute.flags.connected = false) :
    Offered fromPeer hopCost now cidr peerMetric (some myRoute) (some (myRoute.poison now))
  | withdrawn (hinf : infinity ≤ peerMetric)
    (hother : ∀ myRoute, r = some myRoute → myRoute.nextHop = fromPeer →
      myRoute.flags.connected = true) :
    Offered fromPeer hopCost now cidr peerMetric r r
  | accepted (hfin : peerMetric < infinity)
    (hbetter : shouldUpdate fromPeer (saturatingAddU32 peerMetric hopCost) r = true) :
    Offered fromPeer hopCost now cidr peerMetric r
      (some (learnedRoute fromPeer cidr (saturatingAddU32 peerMetric hopCost) now))
  | refused (hfin : peerMetric < infinity)
    (hworse : shouldUpdate fromPeer (saturatingAddU32 peerMetric hopCost) r = false) :
    Offered fromPeer hopCost now cidr peerMetric r r

theorem processEntry_of_ne (acc : DvRoutes × List Change) {entry : Ipv4Net × UInt32}
    {p : Ipv4Net} (h : entry.1 ≠ p) :
    (processEntry fromPeer hopCost now acc entry).1[p]? = acc.1[p]? := by
  simp only [processEntry]
  split
  · split
    · split
      · exact getElem?_insert_of_ne _ _ h
      · rfl
    · rfl
  · split
    · exact getElem?_insert_of_ne _ _ h
    · rfl

theorem processEntry_offered (acc : DvRoutes × List Change) (entry : Ipv4Net × UInt32) :
    Offered fromPeer hopCost now entry.1 entry.2 acc.1[entry.1]?
      (processEntry fromPeer hopCost now acc entry).1[entry.1]? := by
  simp only [processEntry]
  split
  · next hinf =>
    split
    · next myRoute hr =>
      split
      · next hvia =>
        rw [hr, Std.TreeMap.getElem?_insert_self]
        exact .poisoned hinf hvia.1 hvia.2
      · next hvia =>
        apply Offered.withdrawn hinf
        intro route hroute hhop
        rw [hr] at hroute
        cases hroute
        exact Bool.eq_true_of_not_eq_false (fun hc => hvia ⟨hhop, hc⟩)
    · next hr =>
      apply Offered.withdrawn hinf
      intro route hroute
      rw [hr] at hroute
      cases hroute
  · next hinf =>
    have hfin := UInt32.not_le.mp hinf
    split
    · next hbetter =>
      rw [Std.TreeMap.getElem?_insert_self]
      exact .accepted hfin hbetter
    · next hworse => exact .refused hfin (Bool.eq_false_of_not_eq_true hworse)

/-- What every entry for a prefix keeps of its route, under a condition on the entry and the
route before it, the whole update keeps. -/
theorem processUpdate_invariant {I : Option DvRoute → Prop}
    {ok : DvRoutes × List Change → Ipv4Net × UInt32 → Prop} (dv : DistanceVector) {p : Ipv4Net}
    (hg : Guarded (processEntry fromPeer hopCost now) ok (dv.table.routes, []) peerRoutes)
    (hs : I (dv.route p))
    (hstep : ∀ acc peerMetric r', ok acc (p, peerMetric) → I acc.1[p]? →
      Offered fromPeer hopCost now p peerMetric acc.1[p]? r' → I r') :
    I ((dv.processUpdate fromPeer hopCost now peerRoutes).1.route p) := by
  apply hg.invariant (I := fun acc => I acc.1[p]?) hs
  intro acc entry hacc hok
  by_cases hp : entry.1 = p
  · cases hp
    exact hstep acc _ _ hok hacc (processEntry_offered acc entry)
  · rw [processEntry_of_ne acc hp]
    exact hacc

theorem processUpdate_preserves {I : Option DvRoute → Prop} (dv : DistanceVector) {p : Ipv4Net}
    (peerRoutes : List (Ipv4Net × UInt32)) (hs : I (dv.route p))
    (hstep : ∀ slot peerMetric slot', I slot →
      Offered fromPeer hopCost now p peerMetric slot slot' → I slot') :
    I ((dv.processUpdate fromPeer hopCost now peerRoutes).1.route p) := by
  have hg : Guarded (processEntry fromPeer hopCost now) (fun _ _ => True)
      (dv.table.routes, []) peerRoutes := .of_forall (fun _ _ _ => trivial)
  exact processUpdate_invariant dv hg hs (fun acc peerMetric slot' _ => hstep _ peerMetric slot')

theorem foldl_processEntry_of_ne {entries : List (Ipv4Net × UInt32)} {p : Ipv4Net}
    (h : ∀ e ∈ entries, e.1 ≠ p) (acc : DvRoutes × List Change) :
    (entries.foldl (processEntry fromPeer hopCost now) acc).1[p]? = acc.1[p]? := by
  induction entries generalizing acc with
  | nil => rfl
  | cons e entries ih =>
    rw [List.foldl_cons, ih (fun e' he' => h e' (.tail e he')),
      processEntry_of_ne acc (h e List.mem_cons_self)]

theorem route_processUpdate_of_absent (dv : DistanceVector) {p : Ipv4Net}
    (h : peerRoutes.filter (fun e => e.1 = p) = []) :
    (dv.processUpdate fromPeer hopCost now peerRoutes).1.route p = dv.route p := by
  apply foldl_processEntry_of_ne
  intro e he hp
  exact List.filter_eq_nil_iff.mp h e he (decide_eq_true hp)

theorem processUpdate_offered (dv : DistanceVector) {p : Ipv4Net}
    (h : peerRoutes.filter (fun e => e.1 = p) = [(p, peerMetric)]) :
    Offered fromPeer hopCost now p peerMetric (dv.route p)
      ((dv.processUpdate fromPeer hopCost now peerRoutes).1.route p) := by
  obtain ⟨before, after, he, hbefore, -, hafter⟩ := List.filter_eq_cons_iff.mp h
  have hbefore' : ∀ e ∈ before, e.1 ≠ p := fun e hm => by simpa using hbefore e hm
  have hafter' : ∀ e ∈ after, e.1 ≠ p := by
    intro e hm
    simpa using List.filter_eq_nil_iff.mp hafter e hm
  have hroute : (dv.processUpdate fromPeer hopCost now peerRoutes).1.route p =
      ((peerRoutes.foldl (processEntry fromPeer hopCost now) (dv.table.routes, [])).1)[p]? := rfl
  rw [hroute, he, List.foldl_append, List.foldl_cons, foldl_processEntry_of_ne hafter',
    DistanceVector.route, ← foldl_processEntry_of_ne hbefore' (dv.table.routes, [])]
  exact processEntry_offered _ (p, peerMetric)

end Offers

section Exchange
variable (sender receiver : DistanceVector) (hopCost : UInt32) (now : Nat)

theorem buildUpdate_filter (toPeer : String) (p : Ipv4Net) :
    (sender.buildUpdate toPeer).filter (fun e => e.1 = p) =
      ((sender.route p).bind (sender.advertised toPeer)).toList.map (fun m => (p, m)) :=
  filterMap_toList_filter_key sender.table.routes (sender.advertised toPeer) p

theorem mem_buildUpdate {toPeer : String} {p : Ipv4Net} {metric : UInt32} :
    (p, metric) ∈ sender.buildUpdate toPeer ↔
      ∃ r, sender.route p = some r ∧ sender.advertised toPeer r = some metric := by
  have hmem : (p, metric) ∈ sender.buildUpdate toPeer ↔
      (p, metric) ∈ (sender.buildUpdate toPeer).filter (fun e => e.1 = p) := by
    rw [List.mem_filter, and_iff_left (decide_eq_true rfl)]
  rw [hmem, buildUpdate_filter, List.mem_map]
  simp only [Option.mem_toList, Option.bind_eq_some_iff, Prod.mk.injEq, true_and,
    exists_eq_right]

variable {sender receiver hopCost now}

theorem exchange_silent (h : (sender.route p).bind (sender.advertised toPeer) = none) :
    (receiver.step (.processUpdate fromPeer (sender.buildUpdate toPeer) hopCost now)).route p =
      receiver.route p := by
  apply route_processUpdate_of_absent
  rw [buildUpdate_filter, h]
  rfl

theorem exchange_offered (hr : sender.route p = some r)
    (h : sender.advertised toPeer r = some metric) :
    Offered fromPeer hopCost now p metric (receiver.route p)
      ((receiver.step
        (.processUpdate fromPeer (sender.buildUpdate toPeer) hopCost now)).route p) := by
  apply processUpdate_offered
  rw [buildUpdate_filter, hr, Option.bind_some, h]
  rfl

end Exchange

section Sweep
variable (dv : DistanceVector) (now : Nat)

theorem mem_stalePeers {timeout : Nat} {peer : String} :
    peer ∈ dv.stalePeers now timeout ↔ dv.stale now timeout peer = true := by
  rw [DistanceVector.stalePeers, DistanceVector.stale, Option.any_eq_true, List.mem_map]
  constructor
  · rintro ⟨⟨peer', last⟩, he, rfl⟩
    obtain ⟨hmem, hlate⟩ := List.mem_filter.mp he
    exact ⟨last, Std.TreeMap.mem_toList_iff_getElem?_eq_some.mp hmem, hlate⟩
  · rintro ⟨last, hlast, hlate⟩
    have hmem := Std.TreeMap.mem_toList_iff_getElem?_eq_some.mpr hlast
    exact ⟨(peer, last), List.mem_filter.mpr ⟨hmem, hlate⟩, rfl⟩

/-- A route after the peers of a list have been found stale. -/
def DvRoute.expire (holdDownDuration : Nat) (stale : Bool) (r : DvRoute) : DvRoute :=
  if stale then r.expirePeer now holdDownDuration r.nextHop else r

/-- A route that is put in hold-down at an instant. -/
def DvRoute.held (holdDownDuration : Nat) (r : DvRoute) : DvRoute :=
  { r with holdDown := true, holdDownUntil := some (now + holdDownDuration) }

theorem DvRoute.expire_cases (holdDownDuration : Nat) (stale : Bool) (r : DvRoute) :
    r.expire now holdDownDuration stale = r ∨ (stale = true ∧ r.flags.learned = true ∧
      r.expire now holdDownDuration stale = (r.poison now).held now holdDownDuration) := by
  rw [DvRoute.expire, DvRoute.expirePeer]
  split
  · next hs =>
    split
    · next hl => exact Or.inr ⟨hs, hl.2, rfl⟩
    · exact Or.inl rfl
  · exact Or.inl rfl

theorem DvRoute.foldl_expirePeer (holdDownDuration : Nat) (peers : List String) (r : DvRoute) :
    peers.foldl (fun r peer => r.expirePeer now holdDownDuration peer) r =
      r.expire now holdDownDuration (decide (r.nextHop ∈ peers)) := by
  induction peers generalizing r with
  | nil => simp [DvRoute.expire]
  | cons peer peers ih =>
    rw [List.foldl_cons, ih]
    by_cases hhop : r.nextHop = peer <;> by_cases hl : r.flags.learned = true <;>
      by_cases hm : r.nextHop ∈ peers <;>
        simp_all [DvRoute.expire, DvRoute.expirePeer, DvRoute.poison]

theorem foldl_expirePeer (holdDownDuration : Nat) (peers : List String)
    (acc : DvRoutes × Nat) (p : Ipv4Net) :
    (peers.foldl (expirePeer now holdDownDuration) acc).1[p]? =
      acc.1[p]?.map (fun r => r.expire now holdDownDuration (decide (r.nextHop ∈ peers))) := by
  have hfold : (peers.foldl (expirePeer now holdDownDuration) acc).1[p]? =
      acc.1[p]?.map (fun r =>
        peers.foldl (fun r peer => r.expirePeer now holdDownDuration peer) r) := by
    induction peers generalizing acc with
    | nil => simp
    | cons peer peers ih =>
      rw [List.foldl_cons, ih]
      simp only [expirePeer, Std.TreeMap.getElem?_map, Option.map_map, List.foldl_cons]
      rfl
  rw [hfold]
  congr 1
  funext r
  exact r.foldl_expirePeer now holdDownDuration peers

theorem route_expireStaleRoutes (timeout : Nat) (p : Ipv4Net) :
    (dv.expireStaleRoutes now timeout).1.route p =
      ((dv.route p).map (fun r => r.expire now dv.holdDownDuration
        (dv.stale now timeout r.nextHop))).filter (fun r => !r.lapsed now) := by
  have hstale : ∀ r : DvRoute, decide (r.nextHop ∈ dv.stalePeers now timeout) =
      dv.stale now timeout r.nextHop := by
    intro r
    rw [Bool.eq_iff_iff, decide_eq_true_eq, mem_stalePeers]
  simp only [DistanceVector.expireStaleRoutes, DistanceVector.withRoutes, DistanceVector.route]
  rw [Std.TreeMap.getElem?_filter', foldl_expirePeer]
  simp only [hstale]

variable {dv now}

/-- A route that a sweep leaves has not lapsed; it stood before, or it is the route of a peer
found stale, now poisoned and held down. -/
theorem route_sweep (h : (dv.expireStaleRoutes now timeout).1.route p = some r') :
    r'.lapsed now = false ∧ (dv.route p = some r' ∨ ∃ r, dv.route p = some r ∧
      r.flags.learned = true ∧ dv.stale now timeout r.nextHop = true ∧
      r' = (r.poison now).held now dv.holdDownDuration) := by
  rw [route_expireStaleRoutes, Option.filter_eq_some_iff, Option.map_eq_some_iff] at h
  obtain ⟨⟨r, hr, he⟩, hl⟩ := h
  refine ⟨by simpa using hl, ?_⟩
  rcases r.expire_cases now dv.holdDownDuration (dv.stale now timeout r.nextHop) with
    hsame | ⟨hs, hlearned, hexp⟩
  · rw [hsame] at he
    exact Or.inl (he ▸ hr)
  · exact Or.inr ⟨r, hr, hlearned, hs, he.symm.trans hexp⟩

variable (dv now)

theorem route_removePeer (peerId : String) (p : Ipv4Net) :
    (dv.removePeer now peerId).route p =
      (dv.route p).map (fun r => r.removePeer now dv.holdDownDuration peerId) :=
  Std.TreeMap.getElem?_map

variable {dv now}

theorem route_detach (h : (dv.removePeer now peerId).route p = some r') :
    dv.route p = some r' ∨ ∃ r, dv.route p = some r ∧ r.nextHop = peerId ∧
      r.flags.connected = false ∧ r' = r.held now dv.holdDownDuration := by
  rw [route_removePeer, Option.map_eq_some_iff] at h
  obtain ⟨r, hr, he⟩ := h
  rw [DvRoute.removePeer] at he
  split at he
  · next hl => exact Or.inr ⟨r, hr, hl.1, hl.2, he.symm⟩
  · exact Or.inl (he ▸ hr)

end Sweep

/-- Where a route of the table stems from after a call: a route that stood before, of which a
call changes at most the metric, to infinity; the connected route just added; or a finite
metric of the peer that it leads to. -/
inductive DistanceVector.Stems (dv : DistanceVector) (p : Ipv4Net) : DvOp → DvRoute → Prop where
  | kept (hr : dv.route p = some r) (hhop : r'.nextHop = r.nextHop)
    (hflag : r'.flags.connected = r.flags.connected)
    (hmetric : r'.metric = r.metric ∨ r'.metric = infinity) : Stems dv p op r'
  | connected : Stems dv p (.addConnectedRoute p metric now)
      (connectedRoute dv.table.nodeId p metric now)
  | learned (he : (p, metric) ∈ peerRoutes) (hfin : metric < infinity)
    (hhop : r'.nextHop = fromPeer) (hflag : r'.flags.connected = false) :
    Stems dv p (.processUpdate fromPeer peerRoutes hopCost now) r'

theorem DistanceVector.Stems.same {dv : DistanceVector} (hr : dv.route p = some r) :
    dv.Stems p op r := .kept hr rfl rfl (Or.inl rfl)

theorem Offered.stems {dv : DistanceVector}
    (h : Offered fromPeer hopCost now p metric slot slot') (he : (p, metric) ∈ peerRoutes)
    (hs : ∀ r, slot = some r → dv.Stems p (.processUpdate fromPeer peerRoutes hopCost now) r) :
    ∀ r, slot' = some r → dv.Stems p (.processUpdate fromPeer peerRoutes hopCost now) r := by
  intro r hr
  cases h with
  | poisoned hinf hvia hlearned =>
    cases hr
    cases hs _ rfl with
    | kept hr hhop hflag => exact .kept hr hhop hflag (Or.inr rfl)
    | learned he' hfin hhop hflag => exact .learned he' hfin hhop hflag
  | withdrawn => exact hs r hr
  | refused => exact hs r hr
  | accepted hfin =>
    cases hr
    exact .learned he hfin rfl rfl

theorem DistanceVector.step_stems (dv : DistanceVector) (op : DvOp) :
    ∀ r, (dv.step op).route p = some r → dv.Stems p op r := by
  intro r hr
  cases op with
  | addConnectedRoute cidr metric now =>
    rw [DistanceVector.step, route_addConnectedRoute] at hr
    split at hr
    · next hp =>
      cases hp
      cases hr
      exact .connected
    · exact .same hr
  | processUpdate fromPeer peerRoutes hopCost now =>
    have hg : Guarded (processEntry fromPeer hopCost now) (fun _ e => e ∈ peerRoutes)
        (dv.table.routes, []) peerRoutes := .of_forall (fun _ _ he => he)
    exact processUpdate_invariant (I := fun slot => ∀ r, slot = some r → dv.Stems p _ r) dv hg
      (fun r hr => .same hr) (fun _ _ _ he hs ho => ho.stems he hs) r hr
  | expireStaleRoutes timeout now =>
    rcases (route_sweep hr).2 with hr₀ | ⟨r₀, hr₀, -, -, rfl⟩
    · exact .same hr₀
    · exact .kept hr₀ rfl rfl (Or.inr rfl)
  | removePeer peerId now =>
    rcases route_detach hr with hr₀ | ⟨r₀, hr₀, -, -, rfl⟩
    · exact .same hr₀
    · exact .kept hr₀ rfl rfl (Or.inl rfl)

/-- What no call changes: the name and the settings of the node, and that its connected routes
lead to itself. -/
structure DistanceVector.Configured (dv : DistanceVector) (nodeId : String) : Prop where
  nodeId_eq : dv.table.nodeId = nodeId
  splitHorizon_eq : dv.splitHorizon = true
  poisonReverse_eq : dv.poisonReverse = true
  connected : ∀ p r, dv.route p = some r → r.flags.connected = true → r.nextHop = nodeId

theorem configured_new (nodeId : String) : (DistanceVector.new nodeId).Configured nodeId where
  nodeId_eq := rfl
  splitHorizon_eq := rfl
  poisonReverse_eq := rfl
  connected p r hr := by
    rw [route_new] at hr
    cases hr

theorem DistanceVector.Configured.step {dv : DistanceVector} (h : dv.Configured nodeId)
    (op : DvOp) : (dv.step op).Configured nodeId where
  nodeId_eq := by
    rw [← h.nodeId_eq]
    cases op <;> rfl
  splitHorizon_eq := by
    rw [← h.splitHorizon_eq]
    cases op <;> rfl
  poisonReverse_eq := by
    rw [← h.poisonReverse_eq]
    cases op <;> rfl
  connected p r hr hc := by
    cases dv.step_stems op r hr with
    | kept hr₀ hhop hflag =>
      rw [hhop]
      exact h.connected p _ hr₀ (hflag.symm.trans hc)
    | connected => exact h.nodeId_eq
    | learned _ _ _ hflag =>
      rw [hflag] at hc
      cases hc

theorem DistanceVector.Configured.run {dv : DistanceVector} (h : dv.Configured nodeId)
    (ops : List DvOp) : (dv.run ops).Configured nodeId :=
  run_invariant DistanceVector.step (I := fun dv => dv.Configured nodeId) h
    (fun _ op hi => hi.step op) ops

end P2PMesh.MeshRouting
