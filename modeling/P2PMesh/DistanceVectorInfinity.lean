import P2PMesh.DistanceVectorSteps

namespace P2PMesh.MeshRouting
open P2PMesh.Base
set_option autoImplicit true

/-- A route at infinity or beyond is poisoned, and a poisoned route is exactly at infinity. -/
structure DvRoute.Bounded (r : DvRoute) : Prop where
  atInfinity : infinity ≤ r.metric → r.flags.poisoned = true ∧ r.metric = infinity
  ofPoisoned : r.flags.poisoned = true → r.metric = infinity

def DistanceVector.Bounded (dv : DistanceVector) : Prop :=
  ∀ p r, dv.route p = some r → r.Bounded

/-- The changes that a call reports. -/
def DistanceVector.changes (dv : DistanceVector) : DvOp → List Change
  | .processUpdate fromPeer peerRoutes hopCost now =>
    (dv.processUpdate fromPeer hopCost now peerRoutes).2
  | _ => []

/-- A finite metric that the table accepts stays finite with the cost of the hop. -/
def StaysFinite (fromPeer : String) (hopCost : UInt32) (acc : DvRoutes × List Change)
    (entry : Ipv4Net × UInt32) : Prop :=
  entry.2 < infinity →
    shouldUpdate fromPeer (saturatingAddU32 entry.2 hopCost) acc.1[entry.1]? = true →
    saturatingAddU32 entry.2 hopCost < infinity

def DistanceVector.AcceptsFinite (dv : DistanceVector) : DvOp → Prop
  | .processUpdate fromPeer peerRoutes hopCost now =>
    Guarded (processEntry fromPeer hopCost now) (StaysFinite fromPeer hopCost)
      (dv.table.routes, []) peerRoutes
  | _ => True

def DvOp.ConnectsFinite : DvOp → Prop
  | .addConnectedRoute _ metric _ => metric < infinity
  | _ => True

theorem DvRoute.Bounded.ofFinite {r : DvRoute} (hm : r.metric < infinity)
    (hp : r.flags.poisoned = false) : r.Bounded where
  atInfinity hinf := (UInt32.not_le.mpr hm hinf).elim
  ofPoisoned hp' := by
    rw [hp] at hp'
    cases hp'

theorem DvRoute.Bounded.poison (r : DvRoute) (now : Nat) : (r.poison now).Bounded where
  atInfinity _ := ⟨rfl, rfl⟩
  ofPoisoned _ := rfl

theorem DvRoute.Bounded.held {r : DvRoute} (h : r.Bounded) (now holdDownDuration : Nat) :
    (r.held now holdDownDuration).Bounded := ⟨h.atInfinity, h.ofPoisoned⟩

theorem Offered.bounded (h : Offered fromPeer hopCost now p peerMetric slot slot')
    (hok : peerMetric < infinity →
      shouldUpdate fromPeer (saturatingAddU32 peerMetric hopCost) slot = true →
      saturatingAddU32 peerMetric hopCost < infinity)
    (hr : ∀ r, slot = some r → r.Bounded) : ∀ r, slot' = some r → r.Bounded := by
  cases h with
  | poisoned =>
    intro r hr'
    cases hr'
    exact .poison _ now
  | withdrawn => exact hr
  | refused => exact hr
  | accepted hfin hbetter =>
    intro r hr'
    cases hr'
    exact .ofFinite (hok hfin hbetter) rfl

theorem DistanceVector.Bounded.step {dv : DistanceVector} (h : dv.Bounded) (op : DvOp)
    (hc : op.ConnectsFinite) (hok : dv.AcceptsFinite op) : (dv.step op).Bounded := by
  intro p
  cases op with
  | addConnectedRoute cidr metric now =>
    intro r hr
    rw [DistanceVector.step, route_addConnectedRoute] at hr
    split at hr
    · cases hr
      exact .ofFinite hc rfl
    · exact h p r hr
  | processUpdate fromPeer peerRoutes hopCost now =>
    exact processUpdate_invariant dv hok (h p) (fun _ _ _ hok hr ho => ho.bounded hok hr)
  | expireStaleRoutes timeout now =>
    intro r hr
    rcases (route_sweep hr).2 with hr₀ | ⟨r₀, -, -, -, rfl⟩
    · exact h p r hr₀
    · exact (DvRoute.Bounded.poison r₀ now).held now dv.holdDownDuration
  | removePeer peerId now =>
    intro r hr
    rcases route_detach hr with hr₀ | ⟨r₀, hr₀, -, -, rfl⟩
    · exact h p r hr₀
    · exact (h p r₀ hr₀).held now dv.holdDownDuration

theorem processEntry_changes (hok : StaysFinite fromPeer hopCost acc entry)
    (h : ∀ c ∈ acc.2, c.2.1 ≤ infinity) :
    ∀ c ∈ (processEntry fromPeer hopCost now acc entry).2, c.2.1 ≤ infinity := by
  simp only [processEntry]
  split
  · split
    · split
      · intro c hc
        rcases List.mem_append.mp hc with hc | hc
        · exact h c hc
        · cases List.mem_singleton.mp hc
          exact UInt32.le_refl _
      · exact h
    · exact h
  · next hinf =>
    split
    · next hbetter =>
      intro c hc
      rcases List.mem_append.mp hc with hc | hc
      · exact h c hc
      · cases List.mem_singleton.mp hc
        exact UInt32.le_of_lt (hok (UInt32.not_le.mp hinf) hbetter)
    · exact h

theorem DistanceVector.AcceptsFinite.changes_le {dv : DistanceVector} {op : DvOp}
    (h : dv.AcceptsFinite op) : ∀ c ∈ dv.changes op, c.2.1 ≤ infinity := by
  cases op with
  | processUpdate fromPeer peerRoutes hopCost now =>
    have hstep : ∀ (acc : DvRoutes × List Change) entry, (∀ c ∈ acc.2, c.2.1 ≤ infinity) →
        StaysFinite fromPeer hopCost acc entry →
        ∀ c ∈ (processEntry fromPeer hopCost now acc entry).2, c.2.1 ≤ infinity :=
      fun acc entry hc hok => processEntry_changes hok hc
    apply h.invariant (I := fun acc => ∀ c ∈ acc.2, c.2.1 ≤ infinity) ?_ hstep
    exact fun c hc => (List.not_mem_nil hc).elim
  | _ => exact fun c hc => (List.not_mem_nil hc).elim

theorem bounded_new (nodeId : String) : (DistanceVector.new nodeId).Bounded := by
  intro p r hr
  rw [route_new] at hr
  cases hr

/-- As long as no finite metric of a peer reaches infinity with the cost of the hop, infinity
is the largest metric in the table and in the changes, and stands for poisoned routes only. -/
theorem metrics_bounded_by_infinity (nodeId : String) (ops : List DvOp)
    (hc : ∀ op ∈ ops, op.ConnectsFinite)
    (hg : Guarded DistanceVector.step DistanceVector.AcceptsFinite (.new nodeId) ops) :
    ((DistanceVector.new nodeId).run ops).Bounded ∧
      ∀ op, ((DistanceVector.new nodeId).run ops).AcceptsFinite op →
        ∀ c ∈ ((DistanceVector.new nodeId).run ops).changes op, c.2.1 ≤ infinity := by
  refine ⟨?_, fun op hop => hop.changes_le⟩
  have hboth : Guarded DistanceVector.step
      (fun dv op => op.ConnectsFinite ∧ dv.AcceptsFinite op) (.new nodeId) ops :=
    guarded_and.mpr ⟨.of_forall (fun _ op hop => hc op hop), hg⟩
  exact hboth.invariant (bounded_new nodeId) (fun dv op h hok => h.step op hok.1 hok.2)

theorem metrics_bounded_after_poison :
    ((DistanceVector.new "node-a").run
      [.processUpdate "node-b" [(meshNet, infinity)] 1 0]).Bounded := by
  have hfinite : Guarded DistanceVector.step DistanceVector.AcceptsFinite (.new "node-a")
      [.processUpdate "node-b" [(meshNet, infinity)] 1 0] := by
    refine ⟨⟨?_, trivial⟩, trivial⟩
    intro hfin
    exact (UInt32.lt_irrefl _ hfin).elim
  refine (metrics_bounded_by_infinity "node-a" _ ?_ hfinite).1
  intro op hop
  cases List.mem_singleton.mp hop
  trivial

/-- A peer's finite metric that reaches infinity with the cost of the hop is stored and
reported as it is. -/
theorem metric_above_infinity :
    ¬ ∀ (ops : List DvOp), (∀ op ∈ ops, op.ConnectsFinite) →
      ((DistanceVector.new "node-a").run ops).Bounded ∧
        ∀ op : DvOp, op.ConnectsFinite →
          ∀ c ∈ ((DistanceVector.new "node-a").run ops).changes op, c.2.1 ≤ infinity := by
  intro h
  have hchange := (h [] (by simp)).2 (.processUpdate "node-b" [(meshNet, 15)] 2 0) trivial
    (meshNet, 17, "node-b") (by decide +kernel)
  exact absurd hchange (by decide)

/-- The node has a route for the prefix that is not at infinity. -/
def DistanceVector.Reaches (dv : DistanceVector) (p : Ipv4Net) : Prop :=
  ∃ r, dv.route p = some r ∧ r.metric < infinity

/-- An update offers no finite metric that the table would take in place of the connected
route, and the prefix is not connected anew. -/
def DvOp.Spares (connected : DvRoute) : DvOp → Prop
  | .addConnectedRoute cidr _ _ => cidr ≠ connected.cidr
  | .processUpdate fromPeer peerRoutes hopCost _ =>
    ∀ metric, (connected.cidr, metric) ∈ peerRoutes → metric < infinity →
      shouldUpdate fromPeer (saturatingAddU32 metric hopCost) (some connected) = false
  | _ => True

section Connected
variable {nodeId : String} {p : Ipv4Net} {m : UInt32} {since : Nat}

theorem Offered.connected
    (h : Offered fromPeer hopCost now p metric (some (connectedRoute nodeId p m since)) slot')
    (hspares : metric < infinity → shouldUpdate fromPeer (saturatingAddU32 metric hopCost)
      (some (connectedRoute nodeId p m since)) = false) :
    slot' = some (connectedRoute nodeId p m since) := by
  cases h with
  | poisoned hinf hhop hlearned => cases hlearned
  | withdrawn => rfl
  | refused => rfl
  | accepted hfin hbetter =>
    rw [hspares hfin] at hbetter
    cases hbetter

theorem expire_connectedRoute (now holdDownDuration : Nat) (stale : Bool) :
    (connectedRoute nodeId p m since).expire now holdDownDuration stale =
      connectedRoute nodeId p m since := by
  rcases DvRoute.expire_cases now holdDownDuration stale (connectedRoute nodeId p m since) with
    hsame | ⟨-, hlearned, -⟩
  · exact hsame
  · cases hlearned

theorem removePeer_connectedRoute (now holdDownDuration : Nat) (peerId : String) :
    (connectedRoute nodeId p m since).removePeer now holdDownDuration peerId =
      connectedRoute nodeId p m since := by
  rw [DvRoute.removePeer, if_neg]
  rintro ⟨-, hlearned⟩
  cases hlearned

theorem DistanceVector.step_connected {dv : DistanceVector}
    (h : dv.route p = some (connectedRoute nodeId p m since)) (op : DvOp)
    (hop : op.Spares (connectedRoute nodeId p m since)) :
    (dv.step op).route p = some (connectedRoute nodeId p m since) := by
  cases op with
  | addConnectedRoute cidr metric now =>
    have hne : cidr ≠ p := hop
    rw [DistanceVector.step, route_addConnectedRoute, if_neg hne, h]
  | processUpdate fromPeer peerRoutes hopCost now =>
    have hg : Guarded (processEntry fromPeer hopCost now)
        (fun _ entry => entry ∈ peerRoutes) (dv.table.routes, []) peerRoutes :=
      .of_forall (fun _ _ he => he)
    apply processUpdate_invariant (I := fun slot => slot = some (connectedRoute nodeId p m since))
      dv hg h
    intro acc metric slot' hmem hslot ho
    rw [hslot] at ho
    exact ho.connected (hop metric hmem)
  | expireStaleRoutes timeout now =>
    rw [DistanceVector.step, route_expireStaleRoutes, h, Option.map_some, expire_connectedRoute]
    rfl
  | removePeer peerId now =>
    rw [DistanceVector.step, route_removePeer, h, Option.map_some, removePeer_connectedRoute]

end Connected

/-- As long as no peer offers a metric that the table takes in place of the connected route,
that route stays, whatever else peers advertise and withdraw. -/
theorem connected_route_survives (dv : DistanceVector) (p : Ipv4Net) (m : UInt32) (since : Nat)
    (hm : m < infinity) (ops : List DvOp)
    (hops : ∀ op ∈ ops, op.Spares (connectedRoute dv.table.nodeId p m since)) :
    ((dv.addConnectedRoute p m since).run ops).Reaches p ∧
      ((dv.addConnectedRoute p m since).run ops).route p =
        some (connectedRoute dv.table.nodeId p m since) := by
  have hg : Guarded DistanceVector.step
      (fun _ op => op.Spares (connectedRoute dv.table.nodeId p m since))
      (dv.addConnectedRoute p m since) ops := .of_forall (fun _ op hop => hops op hop)
  have hstart : (dv.addConnectedRoute p m since).route p =
      some (connectedRoute dv.table.nodeId p m since) := by
    rw [route_addConnectedRoute, if_pos rfl]
  have hroute := hg.invariant (I := fun dv' : DistanceVector => dv'.route p =
    some (connectedRoute dv.table.nodeId p m since)) hstart
    (fun _ op h hop => DistanceVector.step_connected h op hop)
  exact ⟨⟨_, hroute, hm⟩, hroute⟩

theorem connected_route_survives_worse_peer :
    (((DistanceVector.new "node-a").addConnectedRoute meshNet 5 0).run
      [.processUpdate "node-b" [(meshNet, 7)] 1 1, .removePeer "node-b" 2]).Reaches meshNet := by
  refine (connected_route_survives (.new "node-a") meshNet 5 0 (by decide) _ ?_).1
  intro op hop
  rcases List.mem_cons.mp hop with hop | hop
  · cases hop
    intro metric hmem hfin
    cases List.mem_singleton.mp hmem
    decide
  · cases List.mem_singleton.mp hop
    trivial

/-- A better metric of a peer takes the place of the connected route, and its withdrawal
leaves the node without a route. -/
theorem connected_route_lost :
    ¬ ∀ (ops : List DvOp), (∀ cidr metric now, .addConnectedRoute cidr metric now ∉ ops) →
      (((DistanceVector.new "node-a").addConnectedRoute meshNet 5 0).run ops).Reaches meshNet := by
  intro h
  obtain ⟨r, hr, hfin⟩ := h [.processUpdate "node-b" [(meshNet, 1)] 1 1,
    .processUpdate "node-b" [(meshNet, infinity)] 1 2] (by simp)
  have hlost : (((DistanceVector.new "node-a").addConnectedRoute meshNet 5 0).run
      [.processUpdate "node-b" [(meshNet, 1)] 1 1,
        .processUpdate "node-b" [(meshNet, infinity)] 1 2]).route meshNet =
      some ((learnedRoute "node-b" meshNet 2 1).poison 2) := by
    decide +kernel
  rw [hlost] at hr
  cases hr
  exact absurd hfin (by decide)

end P2PMesh.MeshRouting
