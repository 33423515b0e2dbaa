import P2PMesh.RouteLookup

namespace P2PMesh.Router
open P2PMesh.Base
set_option autoImplicit true

variable {N : Ipnet}

theorem scanEntry_source (h : (scanEntry N dst best e).1 = some r) :
    best.1 = some r ∨ e.2.find? (·.active) = some r := by
  rw [scanEntry] at h
  split at h
  · exact Or.inl h
  · split at h
    · split at h
      · next route hf =>
        cases h
        exact Or.inr hf
      · exact Or.inl h
    · exact Or.inl h

theorem scan_source {l : List (String × List Route)} {best : Option Route × Nat}
    (h : (l.foldl (scanEntry N dst) best).1 = some r) :
    best.1 = some r ∨ ∃ e ∈ l, e.2.find? (·.active) = some r := by
  induction l generalizing best with
  | nil => exact Or.inl h
  | cons e l ih =>
    rcases ih h with hb | ⟨e', he', hr⟩
    · rcases scanEntry_source hb with hb | hr
      · exact Or.inl hb
      · exact Or.inr ⟨e, List.mem_cons_self, hr⟩
    · exact Or.inr ⟨e', List.mem_cons_of_mem _ he', hr⟩

theorem RouteTable.lookup_source {t : RouteTable} (h : t.lookup N dst = some r) :
    (∃ key, (t.entry key).find? (·.active) = some r) ∨ t.defaultRoute = some r := by
  rw [RouteTable.lookup] at h
  split at h
  · exact Or.inr h
  · next best hb =>
    cases h
    rcases scan_source hb with hb | ⟨e, he, hr⟩
    · cases hb
    · rw [← RouteTable.entry_of_mem he] at hr
      exact Or.inl ⟨e.1, hr⟩

theorem RouteTable.lookup_flush (t : RouteTable) (dst : Ipv4Addr) :
    t.flush.lookup N dst = t.defaultRoute := rfl

def EntrySilent (p : String) (entry : List Route) : Prop :=
  ∀ r ∈ entry, r.peerId = p → r.active = false

/-- No active stored route and no default route leads to the peer. -/
structure RouteTable.Silent (t : RouteTable) (p : String) : Prop where
  stored : ∀ key, EntrySilent p (t.entry key)
  default : ∀ r, t.defaultRoute = some r → r.peerId ≠ p

/-- An operation that neither activates the peer nor adds or sets a route towards it. -/
def RouteOp.Avoids (p : String) : RouteOp → Prop
  | .addRoute route => route.peerId ≠ p
  | .setDefaultRoute route => route.peerId ≠ p
  | .activateRoute peerId => peerId ≠ p
  | _ => True

/-- No further operations that avoid the peer make a lookup return a route towards it. -/
def RouteTable.NeverRoutesTo (N : Ipnet) (t : RouteTable) (p : String) : Prop :=
  ∀ more : List RouteOp, (∀ op ∈ more, op.Avoids p) →
    ∀ dstIp r, (t.run N more).lookup N dstIp = some r → r.peerId ≠ p

theorem EntrySilent.map_setActive (h : EntrySilent p entry) (hq : b = true → q ≠ p) :
    EntrySilent p (entry.map (Route.setActive q b)) := by
  intro r hr hp
  obtain ⟨r', hr', he⟩ := List.mem_map.mp hr
  rw [← he, Route.setActive_peerId] at hp
  rw [← he, Route.setActive]
  split
  · next heq =>
    cases b with
    | false => rfl
    | true => exact (hq rfl (heq.symm.trans hp)).elim
  · exact h r' hr' hp

theorem EntrySilent.map_self (p : String) (entry : List Route) :
    EntrySilent p (entry.map (Route.setActive p false)) := by
  intro r hr hp
  obtain ⟨r', -, he⟩ := List.mem_map.mp hr
  rw [← he, Route.setActive_peerId] at hp
  rw [← he, Route.setActive, if_pos hp]

theorem EntrySilent.setMetric (h : EntrySilent p entry) (q : String) (m : Nat) :
    EntrySilent p (sortByKey Route.metric (entry.map (Route.setMetric q m))) := by
  intro r hr hp
  obtain ⟨r', hr', he⟩ := List.mem_map.mp (mem_sortByKey.mp hr)
  rw [← he, Route.setMetric_peerId] at hp
  rw [← he, Route.setMetric_active]
  exact h r' hr' hp

theorem EntrySilent.onEntry (h : EntrySilent p entry) {op : RouteOp} (ha : op.Avoids p) :
    EntrySilent p (op.onEntry N key entry) := by
  cases op with
  | addRoute route =>
    simp only [RouteOp.onEntry]
    split
    · intro r hr hp
      rcases mem_mergeRoute.mp hr with ⟨hr, -⟩ | he
      · exact h r hr hp
      · rw [he] at hp
        exact (ha hp).elim
    · exact h
  | removeRoute cidr q =>
    simp only [RouteOp.onEntry]
    split
    · exact fun r hr => h r (List.mem_filter.mp hr).1
    · exact h
  | deactivateRoute q => exact h.map_setActive (fun hx => (Bool.false_ne_true hx).elim)
  | activateRoute q => exact h.map_setActive (fun _ => ha)
  | updateMetric cidr q m =>
    simp only [RouteOp.onEntry]
    split
    · exact h.setMetric q m
    · exact h
  | flush => exact fun r hr => (List.not_mem_nil hr).elim
  | setDefaultRoute | lookupEcmp => exact h

theorem RouteTable.Silent.step {t : RouteTable} (h : t.Silent p) {op : RouteOp}
    (ha : op.Avoids p) : (t.step N op).Silent p := by
  constructor
  · intro key
    rw [RouteTable.entry_step]
    exact (h.stored key).onEntry ha
  · rw [RouteTable.defaultRoute_step]
    cases op with
    | setDefaultRoute route =>
      intro r hr
      cases hr
      exact ha
    | _ => exact h.default

theorem RouteTable.Silent.neverRoutesTo {t : RouteTable} (h : t.Silent p) :
    t.NeverRoutesTo N p := by
  intro more hm dstIp r hr
  have hg : Guarded (RouteTable.step N) (fun _ op => op.Avoids p) t more :=
    Guarded.of_forall (fun _ op hop => hm op hop)
  have hs : (t.run N more).Silent p := by
    apply hg.invariant (I := fun t => t.Silent p) h
    intro t op ht ha
    exact ht.step ha
  rcases RouteTable.lookup_source hr with ⟨key, hf⟩ | hd
  · intro hp
    have ha := List.find?_some hf
    rw [hs.stored key r (List.mem_of_find?_eq_some hf) hp] at ha
    cases ha
  · exact hs.default r hd

theorem RouteTable.deactivateRoute_silent {t : RouteTable}
    (hd : ∀ r, t.defaultRoute = some r → r.peerId ≠ p) : (t.deactivateRoute p).Silent p := by
  constructor
  · intro key
    have he : (t.deactivateRoute p).entry key = (t.entry key).map (Route.setActive p false) :=
      entry_map t _ key
    rw [he]
    exact EntrySilent.map_self p _
  · exact hd

/-- A deactivated peer gets no more traffic exactly when the default route does not lead to it. -/
theorem deactivated_peer_gets_no_routes_iff (N : Ipnet) (ops : List RouteOp) (p : String) :
    ((RouteTable.new.run N ops).deactivateRoute p).NeverRoutesTo N p ↔
      ∀ r, (RouteTable.new.run N ops).defaultRoute = some r → r.peerId ≠ p := by
  constructor
  · intro h r hr
    apply h [.flush] (by simp [RouteOp.Avoids]) 0#32
    exact (RouteTable.lookup_flush _ _).trans hr
  · intro h
    exact (RouteTable.deactivateRoute_silent h).neverRoutesTo

theorem deactivated_default_route_still_found :
    ¬ ((RouteTable.new.run dottedIpnet [.setDefaultRoute wholeInternet]).deactivateRoute
      "gateway").NeverRoutesTo dottedIpnet "gateway" := by
  intro h
  exact h [] (by simp) 0x08080808#32 wholeInternet (by decide +kernel) rfl

end P2PMesh.Router
