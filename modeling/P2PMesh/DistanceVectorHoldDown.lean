import P2PMesh.DistanceVectorSteps

namespace P2PMesh.MeshRouting
open P2PMesh.Base
set_option autoImplicit true

/-- The clock that a call reads. -/
def DvOp.now : DvOp → Nat
  | .addConnectedRoute _ _ now => now
  | .processUpdate _ _ _ now => now
  | .expireStaleRoutes _ now => now
  | .removePeer _ now => now

def ClockMonotone (ops : List DvOp) : Prop := (ops.map DvOp.now).Pairwise (· ≤ ·)

/-- The call puts the route of the prefix, which leads to the peer, in hold-down. -/
structure DistanceVector.HoldsDown (dv : DistanceVector) (op : DvOp) (p : Ipv4Net)
    (peer : String) : Prop where
  before : ∀ r, dv.route p = some r → r.holdDown = false
  after : ∃ r, (dv.step op).route p = some r ∧ r.holdDown = true ∧ r.nextHop = peer

/-- No finite route of another peer stands that was installed before the expiry. -/
def HeldOff (peer : String) (expiry : Nat) (slot : Option DvRoute) : Prop :=
  ∀ r, slot = some r → r.flags.connected = false → r.nextHop ≠ peer → r.metric < infinity →
    expiry ≤ r.lastUpdated

/-- No route learned from the peer stands. -/
def Removed (peer : String) (slot : Option DvRoute) : Prop :=
  ∀ r, slot = some r → r.nextHop = peer → r.flags.connected = true

def DvOp.UpdateFrom (peer : String) : DvOp → Prop
  | .processUpdate fromPeer _ _ _ => fromPeer = peer
  | _ => False

def DvOp.SweepAfter (expiry : Nat) : DvOp → Prop
  | .expireStaleRoutes _ now => expiry < now
  | _ => False

section Guards
variable (p : Ipv4Net) (peer : String)

/-- Before the expiry no other peer offers a finite metric that the table takes. -/
def DistanceVector.OthersWait (expiry : Nat) (dv : DistanceVector) : DvOp → Prop
  | .processUpdate fromPeer peerRoutes hopCost now =>
    Guarded (processEntry fromPeer hopCost now) (fun acc entry =>
      fromPeer ≠ peer → now < expiry → entry.1 = p → entry.2 < infinity →
        saturatingAddU32 entry.2 hopCost < infinity →
        shouldUpdate fromPeer (saturatingAddU32 entry.2 hopCost) acc.1[p]? = false)
      (dv.table.routes, []) peerRoutes
  | _ => True

/-- A call that would set the hold-down timer of a route of the peer finds it at that value. -/
def DistanceVector.KeepsTimer (dv : DistanceVector) : DvOp → Prop
  | .expireStaleRoutes timeout now => dv.stale now timeout peer = true →
    ∀ r, dv.route p = some r → r.nextHop = peer → r.flags.learned = true →
      r.holdDownUntil = some (now + dv.holdDownDuration)
  | .removePeer peerId now => peerId = peer →
    ∀ r, dv.route p = some r → r.nextHop = peer → r.flags.connected = false →
      r.holdDownUntil = some (now + dv.holdDownDuration)
  | _ => True

end Guards

section HoldDown
variable {p : Ipv4Net} {peer : String} {expiry : Nat}

/-- The timer of a route of the peer runs to the expiry. -/
def Timed (peer : String) (expiry : Nat) (slot : Option DvRoute) : Prop :=
  ∀ r, slot = some r → r.nextHop = peer → r.flags.connected = false →
    r.holdDown = true ∧ r.holdDownUntil = some expiry

theorem DistanceVector.HoldsDown.until {dv : DistanceVector} (h : dv.HoldsDown op p peer) :
    ∃ r, (dv.step op).route p = some r ∧ r.nextHop = peer ∧ r.holdDown = true ∧
      r.holdDownUntil = some (op.now + dv.holdDownDuration) := by
  obtain ⟨r, hr, hheld, hhop⟩ := h.after
  refine ⟨r, hr, hhop, hheld, ?_⟩
  cases op with
  | addConnectedRoute cidr metric now =>
    rw [DistanceVector.step, route_addConnectedRoute] at hr
    split at hr
    · cases hr
      cases hheld
    · rw [h.before r hr] at hheld
      cases hheld
  | processUpdate fromPeer peerRoutes hopCost now =>
    have hfree : ∀ r, (dv.processUpdate fromPeer hopCost now peerRoutes).1.route p = some r →
        r.holdDown = false := by
      apply processUpdate_preserves (I := fun slot => ∀ r, slot = some r → r.holdDown = false)
        dv peerRoutes h.before
      intro slot metric slot' hslot ho r hr
      cases ho with
      | poisoned =>
        cases hr
        have hfree := hslot _ rfl
        exact hfree
      | withdrawn => exact hslot r hr
      | refused => exact hslot r hr
      | accepted =>
        cases hr
        rfl
    rw [hfree r hr] at hheld
    cases hheld
  | expireStaleRoutes timeout now =>
    rcases (route_sweep hr).2 with hr₀ | ⟨r₀, -, -, -, rfl⟩
    · rw [h.before r hr₀] at hheld
      cases hheld
    · rfl
  | removePeer peerId now =>
    rcases route_detach hr with hr₀ | ⟨r₀, -, -, -, rfl⟩
    · rw [h.before r hr₀] at hheld
      cases hheld
    · rfl

theorem Offered.heldOff (h : Offered fromPeer hopCost now p peerMetric slot slot')
    (hs : HeldOff peer expiry slot)
    (hwait : fromPeer ≠ peer → now < expiry → peerMetric < infinity →
      saturatingAddU32 peerMetric hopCost < infinity →
      shouldUpdate fromPeer (saturatingAddU32 peerMetric hopCost) slot = false) :
    HeldOff peer expiry slot' := by
  cases h with
  | poisoned =>
    intro r hr hc hhop hfin
    cases hr
    exact (UInt32.lt_irrefl _ hfin).elim
  | withdrawn => exact hs
  | refused => exact hs
  | accepted hpeer hbetter =>
    intro r hr hc hhop hfin
    cases hr
    by_contra hearly
    rw [hwait hhop (Nat.lt_of_not_le hearly) hpeer hfin] at hbetter
    cases hbetter

theorem DistanceVector.step_heldOff {dv : DistanceVector} (h : HeldOff peer expiry (dv.route p))
    (op : DvOp) (hop : dv.OthersWait p peer expiry op) :
    HeldOff peer expiry ((dv.step op).route p) := by
  cases op with
  | addConnectedRoute cidr metric now =>
    rw [DistanceVector.step, route_addConnectedRoute]
    split
    · intro r hr hc
      cases hr
      cases hc
    · exact h
  | processUpdate fromPeer peerRoutes hopCost now =>
    apply processUpdate_invariant dv hop h
    intro acc peerMetric slot' hwait hslot ho
    exact ho.heldOff hslot (fun hne hearly hpeer hfin => hwait hne hearly rfl hpeer hfin)
  | expireStaleRoutes timeout now =>
    intro r hr hc hhop hfin
    rcases (route_sweep hr).2 with hr₀ | ⟨r₀, -, -, -, rfl⟩
    · exact h r hr₀ hc hhop hfin
    · exact (UInt32.lt_irrefl _ hfin).elim
  | removePeer peerId now =>
    intro r hr hc hhop hfin
    rcases route_detach hr with hr₀ | ⟨r₀, hr₀, -, -, rfl⟩
    · exact h r hr₀ hc hhop hfin
    · exact h r₀ hr₀ hc hhop hfin

/-- What holds of every route of the peer, and is about the peer's routes only, holds after an
update of another peer. -/
theorem Offered.ofPeer {J : DvRoute → Prop}
    (h : Offered fromPeer hopCost now p peerMetric slot slot') (hne : fromPeer ≠ peer)
    (hs : ∀ r, slot = some r → r.nextHop = peer → J r) :
    ∀ r, slot' = some r → r.nextHop = peer → J r := by
  intro r hr hhop
  cases h with
  | poisoned hinf hvia =>
    cases hr
    exact (hne (hvia.symm.trans hhop)).elim
  | withdrawn => exact hs r hr hhop
  | refused => exact hs r hr hhop
  | accepted =>
    cases hr
    exact (hne hhop).elim

theorem DistanceVector.step_removed {dv : DistanceVector} (h : Removed peer (dv.route p))
    (op : DvOp) (hop : ¬ op.UpdateFrom peer) : Removed peer ((dv.step op).route p) := by
  cases op with
  | addConnectedRoute cidr metric now =>
    rw [DistanceVector.step, route_addConnectedRoute]
    split
    · intro r hr _
      cases hr
      rfl
    · exact h
  | processUpdate fromPeer peerRoutes hopCost now =>
    exact processUpdate_preserves dv peerRoutes h (fun _ _ _ hslot ho => ho.ofPeer hop hslot)
  | expireStaleRoutes timeout now =>
    intro r hr hhop
    rcases (route_sweep hr).2 with hr₀ | ⟨r₀, hr₀, -, -, rfl⟩
    · exact h r hr₀ hhop
    · exact h r₀ hr₀ hhop
  | removePeer peerId now =>
    intro r hr hhop
    rcases route_detach hr with hr₀ | ⟨r₀, hr₀, -, -, rfl⟩
    · exact h r hr₀ hhop
    · exact h r₀ hr₀ hhop

theorem DistanceVector.step_timed {dv : DistanceVector} (h : Timed peer expiry (dv.route p))
    (op : DvOp) (hother : ¬ op.UpdateFrom peer) (hop : dv.KeepsTimer p peer op) :
    Timed peer expiry ((dv.step op).route p) := by
  cases op with
  | addConnectedRoute cidr metric now =>
    rw [DistanceVector.step, route_addConnectedRoute]
    split
    · intro r hr _ hc
      cases hr
      cases hc
    · exact h
  | processUpdate fromPeer peerRoutes hopCost now =>
    exact processUpdate_preserves dv peerRoutes h
      (fun _ _ _ hslot ho => ho.ofPeer hother hslot)
  | expireStaleRoutes timeout now =>
    intro r hr hhop hc
    rcases (route_sweep hr).2 with hr₀ | ⟨r₀, hr₀, hl, hs, rfl⟩
    · exact h r hr₀ hhop hc
    · have htimer := (h r₀ hr₀ hhop hc).2
      rw [hop (hhop ▸ hs) r₀ hr₀ hhop hl] at htimer
      exact ⟨rfl, htimer⟩
  | removePeer peerId now =>
    intro r hr hhop hc
    rcases route_detach hr with hr₀ | ⟨r₀, hr₀, hvia, -, rfl⟩
    · exact h r hr₀ hhop hc
    · have htimer := (h r₀ hr₀ hhop hc).2
      rw [hop (hvia.symm.trans hhop) r₀ hr₀ hhop hc] at htimer
      exact ⟨rfl, htimer⟩

theorem DistanceVector.sweep_removed {dv : DistanceVector} (h : Timed peer expiry (dv.route p))
    (op : DvOp) (hop : dv.KeepsTimer p peer op) (hsweep : op.SweepAfter expiry) :
    Removed peer ((dv.step op).route p) := by
  cases op with
  | expireStaleRoutes timeout now =>
    have htimed := DistanceVector.step_timed h (.expireStaleRoutes timeout now) id hop
    intro r hr hhop
    by_contra hc
    obtain ⟨hheld, huntil⟩ := htimed r hr hhop (Bool.eq_false_of_not_eq_true hc)
    have hlate : expiry < now := hsweep
    have hover : r.lapsed now = true := by
      rw [DvRoute.lapsed, hheld, huntil]
      exact decide_eq_true hlate
    rw [(route_sweep hr).1] at hover
    cases hover
  | _ => exact hsweep.elim

/-- After a sweep past the expiry, in a run that does not restart the timer and in which the
peer is silent, the route is gone. -/
theorem DistanceVector.run_removed {dv : DistanceVector} (h : Timed peer expiry (dv.route p))
    (ops : List DvOp) (hg : Guarded DistanceVector.step (KeepsTimer p peer) dv ops)
    (hsilent : ∀ op ∈ ops, ¬ op.UpdateFrom peer)
    (hsweep : ∃ op ∈ ops, op.SweepAfter expiry) : Removed peer ((dv.run ops).route p) := by
  obtain ⟨op, hop, hafter⟩ := hsweep
  obtain ⟨before, after, he⟩ := List.append_of_mem hop
  rw [he] at hg hsilent ⊢
  obtain ⟨hbefore, hstep, -⟩ := guarded_append.mp hg
  have hboth : Guarded DistanceVector.step
      (fun dv op => ¬ op.UpdateFrom peer ∧ dv.KeepsTimer p peer op) dv before :=
    guarded_and.mpr ⟨.of_forall (fun _ o ho => hsilent o (List.mem_append_left _ ho)), hbefore⟩
  have htimed : Timed peer expiry ((dv.run before).route p) :=
    hboth.invariant (I := fun dv : DistanceVector => Timed peer expiry (dv.route p)) h
      (fun _ o hi ho => DistanceVector.step_timed hi o ho.1 ho.2)
  have hgone := DistanceVector.sweep_removed htimed op hstep hafter
  have hquiet : Guarded DistanceVector.step (fun _ o => ¬ o.UpdateFrom peer)
      ((dv.run before).step op) after :=
    .of_forall (fun _ o ho => hsilent o (List.mem_append_right _ (.tail op ho)))
  rw [DistanceVector.run, List.foldl_append, List.foldl_cons]
  exact hquiet.invariant (I := fun dv : DistanceVector => Removed peer (dv.route p)) hgone
    (fun _ o hi ho => DistanceVector.step_removed hi o ho)

end HoldDown

/-- While a prefix is held down no route of another peer comes in, in a run where no other peer
offers one that the table takes before the time is over; and the first sweep after that time
removes the route of a silent peer, in a run where no call restarts the timer. -/
theorem hold_down_honoured (dv : DistanceVector) (op : DvOp) (p : Ipv4Net) (peer : String)
    (h : dv.HoldsDown op p peer) (ops : List DvOp) :
    (Guarded DistanceVector.step
        (DistanceVector.OthersWait p peer (op.now + dv.holdDownDuration)) (dv.step op) ops →
      HeldOff peer (op.now + dv.holdDownDuration) (((dv.step op).run ops).route p)) ∧
    (Guarded DistanceVector.step (DistanceVector.KeepsTimer p peer) (dv.step op) ops →
      (∀ o ∈ ops, ¬ o.UpdateFrom peer) →
      (∃ o ∈ ops, o.SweepAfter (op.now + dv.holdDownDuration)) →
      Removed peer (((dv.step op).run ops).route p)) := by
  obtain ⟨r, hr, hhop, hheld, htimer⟩ := h.until
  constructor
  · intro hg
    have hstart : HeldOff peer (op.now + dv.holdDownDuration) ((dv.step op).route p) := by
      intro r' hr' _ hne
      rw [hr] at hr'
      cases hr'
      exact (hne hhop).elim
    exact hg.invariant
      (I := fun dv' : DistanceVector => HeldOff peer (op.now + dv.holdDownDuration) (dv'.route p))
      hstart (fun _ o hi ho => DistanceVector.step_heldOff hi o ho)
  · intro hg hsilent hsweep
    have hstart : Timed peer (op.now + dv.holdDownDuration) ((dv.step op).route p) := by
      intro r' hr' _ _
      rw [hr] at hr'
      cases hr'
      exact ⟨hheld, htimer⟩
    exact DistanceVector.run_removed hstart ops hg hsilent hsweep

/-- A node that has learned the prefix from node-b. -/
def heldNode : DistanceVector :=
  (DistanceVector.new "node-a").run [.processUpdate "node-b" [(meshNet, 1)] 1 0]

theorem heldNode_holdsDown : heldNode.HoldsDown (.removePeer "node-b" 10) meshNet "node-b" where
  before r hr := by
    have hroute : heldNode.route meshNet = some (learnedRoute "node-b" meshNet 2 0) := by
      decide +kernel
    rw [hroute] at hr
    cases hr
    rfl
  after := ⟨{ learnedRoute "node-b" meshNet 2 0 with
    holdDown := true, holdDownUntil := some 180000000010 }, by decide +kernel, rfl, rfl⟩

theorem hold_down_honoured_worse_offer :
    Removed "node-b" (((heldNode.step (.removePeer "node-b" 10)).run
      [.processUpdate "node-c" [(meshNet, 5)] 1 20,
        .expireStaleRoutes 60000000000 200000000000]).route meshNet) := by
  refine (hold_down_honoured heldNode (.removePeer "node-b" 10) meshNet "node-b"
    heldNode_holdsDown _).2 ⟨trivial, ?_, trivial⟩ ?_ ?_
  · intro hstale
    have hfresh : ((heldNode.step (.removePeer "node-b" 10)).step
        (.processUpdate "node-c" [(meshNet, 5)] 1 20)).stale 200000000000 60000000000 "node-b" =
        false := by
      decide +kernel
    rw [hfresh] at hstale
    cases hstale
  · simp [DvOp.UpdateFrom]
  · refine ⟨_, .tail _ (.head _), ?_⟩
    change 10 + 180000000000 < 200000000000
    decide

/-- A better offer of another peer is taken during hold-down, and each sweep that finds the
peer stale restarts the timer before it looks at it. -/
theorem hold_down_broken :
    (¬ ∀ (before : List DvOp) (op : DvOp) (ops : List DvOp) (peer : String),
      ClockMonotone (before ++ op :: ops) →
      ((DistanceVector.new "node-a").run before).HoldsDown op meshNet peer →
      HeldOff peer (op.now + 180000000000)
        (((DistanceVector.new "node-a").run (before ++ op :: ops)).route meshNet)) ∧
    ¬ ∀ (before : List DvOp) (op : DvOp) (ops : List DvOp) (peer : String),
      ClockMonotone (before ++ op :: ops) →
      ((DistanceVector.new "node-a").run before).HoldsDown op meshNet peer →
      (∀ o ∈ ops, ¬ o.UpdateFrom peer) →
      (∃ o ∈ ops, o.SweepAfter (op.now + 180000000000)) →
      Removed peer (((DistanceVector.new "node-a").run (before ++ op :: ops)).route meshNet) := by
  constructor
  · intro h
    have hoff := h [.processUpdate "node-b" [(meshNet, 1)] 1 0] (.removePeer "node-b" 10)
      [.processUpdate "node-c" [(meshNet, 0)] 1 20] "node-b"
      (by simp [ClockMonotone, DvOp.now]) heldNode_holdsDown
      (learnedRoute "node-c" meshNet 1 20) (by decide +kernel) rfl (by decide) (by decide)
    exact absurd hoff (by decide)
  · intro h
    have hheld : heldNode.HoldsDown (.expireStaleRoutes 5 10) meshNet "node-b" :=
      ⟨heldNode_holdsDown.before, { (learnedRoute "node-b" meshNet 2 0).poison 10 with
        holdDown := true, holdDownUntil := some 180000000010 }, by decide +kernel, rfl, rfl⟩
    have hsweep : DvOp.SweepAfter (10 + 180000000000) (.expireStaleRoutes 5 200000000000) := by
      change 10 + 180000000000 < 200000000000
      decide
    have hgone := h [.processUpdate "node-b" [(meshNet, 1)] 1 0] (.expireStaleRoutes 5 10)
      [.expireStaleRoutes 5 200000000000] "node-b" (by simp [ClockMonotone, DvOp.now]) hheld
      (by simp [DvOp.UpdateFrom]) ⟨_, .head _, hsweep⟩
      { (learnedRoute "node-b" meshNet 2 0).poison 200000000000 with
        holdDown := true, holdDownUntil := some 380000000000 } (by decide +kernel) rfl
    cases hgone

end P2PMesh.MeshRouting
