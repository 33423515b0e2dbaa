import P2PMesh.DistanceVectorSteps

namespace P2PMesh.MeshRouting
open P2PMesh.Base
set_option autoImplicit true

/-- The nodes of a mesh by their ids. -/
abbrev Mesh := String → DistanceVector

def Mesh.new : Mesh := DistanceVector.new

/-- What happens in a mesh; in an exchange the receiver processes what the sender tells it. -/
inductive MeshOp where
  | exchange (sender receiver : String) (hopCost : UInt32) (now : Nat)
  | addConnectedRoute (nodeId : String) (cidr : Ipv4Net) (metric : UInt32) (now : Nat)
  | expireStaleRoutes (nodeId : String) (timeout now : Nat)
  | removePeer (nodeId peerId : String) (now : Nat)

/-- The node whose table changes. -/
def MeshOp.nodeId : MeshOp → String
  | .exchange _ receiver _ _ => receiver
  | .addConnectedRoute nodeId _ _ _ => nodeId
  | .expireStaleRoutes nodeId _ _ => nodeId
  | .removePeer nodeId _ _ => nodeId

/-- The call that the node makes. -/
def MeshOp.call (m : Mesh) : MeshOp → DvOp
  | .exchange sender receiver hopCost now =>
    .processUpdate sender ((m sender).buildUpdate receiver) hopCost now
  | .addConnectedRoute _ cidr metric now => .addConnectedRoute cidr metric now
  | .expireStaleRoutes _ timeout now => .expireStaleRoutes timeout now
  | .removePeer _ peerId now => .removePeer peerId now

def Mesh.step (m : Mesh) (op : MeshOp) : Mesh :=
  Function.update m op.nodeId ((m op.nodeId).step (op.call m))

def Mesh.run (m : Mesh) (ops : List MeshOp) : Mesh := ops.foldl Mesh.step m

/-- The node holds a finite route for the prefix through the next hop. -/
def Mesh.Via (m : Mesh) (nodeId nextHop : String) (p : Ipv4Net) : Prop :=
  ∃ r, (m nodeId).route p = some r ∧ r.nextHop = nextHop ∧ r.metric < infinity

def Mesh.Configured (m : Mesh) : Prop := ∀ nodeId, (m nodeId).Configured nodeId

/-- No two nodes route a prefix through each other. -/
def Mesh.LoopFree (m : Mesh) : Prop :=
  ∀ p a b, a ≠ b → m.Via a b p → ¬ m.Via b a p

theorem Mesh.step_of_ne (m : Mesh) {op : MeshOp} {nodeId : String} (h : nodeId ≠ op.nodeId) :
    m.step op nodeId = m nodeId := Function.update_of_ne h _ _

theorem Mesh.step_self (m : Mesh) (op : MeshOp) :
    m.step op op.nodeId = (m op.nodeId).step (op.call m) := Function.update_self _ _ _

theorem Mesh.Configured.step {m : Mesh} (h : m.Configured) (op : MeshOp) :
    (m.step op).Configured := by
  intro nodeId
  by_cases hn : nodeId = op.nodeId
  · rw [hn, m.step_self]
    exact (h _).step _
  · rw [m.step_of_ne hn]
    exact h nodeId

theorem DistanceVector.Configured.advertised_finite {dv : DistanceVector}
    (h : dv.Configured nodeId) (ha : dv.advertised toPeer r = some metric)
    (hfin : metric < infinity) :
    r.metric = metric ∧ r.nextHop ≠ toPeer := by
  rw [DistanceVector.advertised, h.splitHorizon_eq, h.poisonReverse_eq] at ha
  split at ha
  · cases ha
  · split at ha
    · cases ha
      exact (UInt32.lt_irrefl _ hfin).elim
    · next hvia =>
      cases ha
      exact ⟨rfl, fun hhop => hvia ⟨rfl, hhop⟩⟩

/-- A finite route that leads to another node stood before, or the other node has just told of
a route of its own that leads elsewhere. -/
theorem Mesh.Via.of_step {m : Mesh} (h : (m.step op).Via op.nodeId b p) (hm : m.Configured)
    (hne : op.nodeId ≠ b) : m.Via op.nodeId b p ∨ ¬ m.Via b op.nodeId p := by
  obtain ⟨r, hr, hhop, hfin⟩ := h
  rw [m.step_self] at hr
  have hstems := (m op.nodeId).step_stems _ r hr
  generalize hcall : op.call m = call at hstems
  cases hstems with
  | kept hr₀ hhop₀ _ hmetric =>
    apply Or.inl
    refine ⟨_, hr₀, hhop₀.symm.trans hhop, ?_⟩
    rcases hmetric with hmetric | hmetric
    · rwa [← hmetric]
    · rw [hmetric] at hfin
      exact (UInt32.lt_irrefl _ hfin).elim
  | connected => exact (hne ((hm op.nodeId).nodeId_eq.symm.trans hhop)).elim
  | learned he hpeer hvia =>
    cases op with
    | exchange sender receiver hopCost now =>
      cases hcall
      cases hvia.symm.trans hhop
      obtain ⟨r₀, hr₀, ha⟩ := (mem_buildUpdate _).mp he
      have helsewhere := ((hm _).advertised_finite ha hpeer).2
      apply Or.inr
      rintro ⟨r₁, hr₁, hhop₁, -⟩
      rw [hr₀] at hr₁
      cases hr₁
      exact helsewhere hhop₁
    | _ => cases hcall

theorem Mesh.Via.of_step_of_ne {m : Mesh} (h : (m.step op).Via a b p) (hne : a ≠ op.nodeId) :
    m.Via a b p := by
  rw [Mesh.Via, m.step_of_ne hne] at h
  exact h

theorem Mesh.LoopFree.step {m : Mesh} (h : m.LoopFree) (hm : m.Configured) (op : MeshOp) :
    (m.step op).LoopFree := by
  have hchanged : ∀ p b, op.nodeId ≠ b → (m.step op).Via op.nodeId b p →
      ¬ (m.step op).Via b op.nodeId p := by
    intro p b hne hab hba
    have hback := hba.of_step_of_ne hne.symm
    rcases hab.of_step hm hne with hold | hno
    · exact h p op.nodeId b hne hold hback
    · exact hno hback
  intro p a b hne hab hba
  by_cases ha : a = op.nodeId
  · rw [ha] at hne hab hba
    exact hchanged p b hne hab hba
  · by_cases hb : b = op.nodeId
    · rw [hb] at hne hab hba
      exact hchanged p a hne.symm hba hab
    · exact h p a b hne (hab.of_step_of_ne ha) (hba.of_step_of_ne hb)

theorem Mesh.configured_new : Mesh.new.Configured := MeshRouting.configured_new

theorem Mesh.not_via_new : ¬ Mesh.new.Via a b p := by
  rintro ⟨r, hr, -⟩
  rw [Mesh.new, route_new] at hr
  cases hr

/-- Split horizon: whatever the order of events, no two nodes ever route a prefix through each
other. -/
theorem no_two_node_loop (ops : List MeshOp) : (Mesh.new.run ops).LoopFree := by
  have hboth := run_invariant Mesh.step (I := fun m => m.Configured ∧ m.LoopFree)
    ⟨Mesh.configured_new, fun _ _ _ _ hab _ => Mesh.not_via_new hab⟩
    (fun m op h => ⟨h.1.step op, h.2.step h.1 op⟩) ops
  exact hboth.2

/-- The node's own route for the prefix is gone, poisoned or held down. -/
def DistanceVector.Withdrawn (dv : DistanceVector) (p : Ipv4Net) : Prop :=
  ∀ r, dv.route p = some r → r.flags.poisoned = true ∨ r.holdDown = true

/-- If the sender's own route is withdrawn, the receiver has no finite route through the sender
once it has processed the sender's next update. -/
def WithdrawalReaches (senderId receiverId : String) (sender receiver : DistanceVector)
    (p : Ipv4Net) (hopCost : UInt32) (now : Nat) : Prop :=
  sender.Withdrawn p → ∀ r,
    (receiver.step (.processUpdate senderId (sender.buildUpdate receiverId) hopCost now)).route p =
      some r → r.nextHop = senderId → infinity ≤ r.metric

/-- A sender without a finite route says nothing of the prefix, so what the receiver holds must
be at infinity already. A sender that holds a finite route down still tells of it, unless it
leads to the receiver; so the cost of the hop must take it to infinity. -/
def DistanceVector.Unlearns (sender : DistanceVector) (receiverId : String) (p : Ipv4Net)
    (hopCost : UInt32) (held : DvRoute) : Prop :=
  match sender.route p with
  | none => infinity ≤ held.metric
  | some r =>
    if infinity ≤ r.metric then infinity ≤ held.metric
    else r.nextHop = receiverId ∨ infinity ≤ saturatingAddU32 r.metric hopCost

section Withdrawal
variable {a c : String} {sender receiver : DistanceVector} {p : Ipv4Net} {held r : DvRoute}
  {hopCost : UInt32} {now : Nat}

theorem advertised_of_infinite (h : infinity ≤ r.metric) :
    sender.advertised c r = none := if_pos h

theorem DistanceVector.Configured.advertised_nextHop (hs : sender.Configured a)
    (h : ¬ infinity ≤ r.metric) (hhop : r.nextHop = c) :
    sender.advertised c r = some infinity := by
  rw [DistanceVector.advertised, if_neg h, if_pos ⟨hs.splitHorizon_eq, hhop⟩, hs.poisonReverse_eq]
  rfl

theorem advertised_elsewhere (h : ¬ infinity ≤ r.metric) (hhop : r.nextHop ≠ c) :
    sender.advertised c r = some r.metric := by
  rw [DistanceVector.advertised, if_neg h, if_neg (fun hc => hhop hc.2)]

theorem Offered.infinity (h : Offered a hopCost now p infinity (some held) slot')
    (hvia : held.nextHop = a) (hlearned : held.flags.connected = false) :
    slot' = some (held.poison now) := by
  cases h with
  | poisoned => rfl
  | withdrawn _ hother =>
    rw [hother held rfl hvia] at hlearned
    cases hlearned
  | accepted hfin => exact (UInt32.lt_irrefl _ hfin).elim
  | refused hfin => exact (UInt32.lt_irrefl _ hfin).elim

theorem Offered.finite (h : Offered a hopCost now p metric (some held) slot')
    (hvia : held.nextHop = a) (hfin : metric < MeshRouting.infinity) :
    ∃ r, slot' = some r ∧ r.nextHop = a ∧ r.metric = saturatingAddU32 metric hopCost := by
  cases h with
  | poisoned hinf => exact (UInt32.not_le.mpr hfin hinf).elim
  | withdrawn hinf => exact (UInt32.not_le.mpr hfin hinf).elim
  | accepted => exact ⟨_, rfl, rfl, rfl⟩
  | refused _ hsame =>
    rw [shouldUpdate, if_pos hvia] at hsame
    have heq : saturatingAddU32 metric hopCost = held.metric := by simpa using hsame
    exact ⟨held, rfl, hvia, heq.symm⟩

/-- Once the update of the sender is processed, the receiver's route through the sender is at
infinity exactly where the sender's table brings that about. -/
theorem exchange_unlearns_iff (hs : sender.Configured a) (hr : receiver.Configured c)
    (hne : a ≠ c) (hheld : receiver.route p = some held) (hvia : held.nextHop = a) :
    (∀ r, (receiver.step (.processUpdate a (sender.buildUpdate c) hopCost now)).route p = some r →
      r.nextHop = a → infinity ≤ r.metric) ↔ sender.Unlearns c p hopCost held := by
  have hsilent : (sender.route p).bind (sender.advertised c) = none →
      ((∀ r, (receiver.step (.processUpdate a (sender.buildUpdate c) hopCost now)).route p =
        some r → r.nextHop = a → infinity ≤ r.metric) ↔ infinity ≤ held.metric) := by
    intro hnone
    rw [exchange_silent hnone, hheld]
    constructor
    · intro h
      exact h held rfl hvia
    · intro h r hr _
      cases hr
      exact h
  cases hroute : sender.route p with
  | none =>
    rw [DistanceVector.Unlearns, hroute]
    exact hsilent (by rw [hroute, Option.bind_none])
  | some own =>
    rw [DistanceVector.Unlearns, hroute]
    by_cases hinf : infinity ≤ own.metric
    · rw [hsilent (by rw [hroute, Option.bind_some, advertised_of_infinite hinf])]
      simp only [hinf, ↓reduceIte]
    · simp only [hinf, ↓reduceIte]
      by_cases hhop : own.nextHop = c
      · have hlearned : held.flags.connected = false := by
          apply Bool.eq_false_of_not_eq_true
          intro hc
          exact hne (hvia.symm.trans (hr.connected p held hheld hc))
        have ho : Offered a hopCost now p infinity (receiver.route p) _ :=
          exchange_offered hroute (hs.advertised_nextHop hinf hhop)
        rw [hheld] at ho
        refine iff_of_true ?_ (Or.inl hhop)
        intro r hr' _
        rw [ho.infinity hvia hlearned] at hr'
        cases hr'
        exact UInt32.le_refl _
      · have ho : Offered a hopCost now p own.metric (receiver.route p) _ :=
          exchange_offered hroute (advertised_elsewhere hinf hhop)
        rw [hheld] at ho
        obtain ⟨r, hr', hhop', hm⟩ := ho.finite hvia (UInt32.not_le.mp hinf)
        rw [hr', or_iff_right hhop, ← hm]
        constructor
        · intro h
          exact h r rfl hhop'
        · intro h r' hr _
          cases hr
          exact h

end Withdrawal

/-- A withdrawn route is withdrawn at a peer that routes through the node exactly where what the
node tells takes the peer's metric to infinity. -/
theorem withdrawal_reaches_iff {a c : String} (hne : a ≠ c) (opsA opsC : List DvOp) {p : Ipv4Net}
    {held : DvRoute} (hheld : ((DistanceVector.new c).run opsC).route p = some held)
    (hvia : held.nextHop = a) (hopCost : UInt32) (now : Nat) :
    WithdrawalReaches a c ((DistanceVector.new a).run opsA) ((DistanceVector.new c).run opsC) p
        hopCost now ↔
      (((DistanceVector.new a).run opsA).Withdrawn p →
        ((DistanceVector.new a).run opsA).Unlearns c p hopCost held) := by
  apply imp_congr_right
  intro _
  exact exchange_unlearns_iff ((configured_new a).run opsA) ((configured_new c).run opsC) hne
    hheld hvia

theorem withdrawal_reaches_near_infinity :
    WithdrawalReaches "node-a" "node-c"
      ((DistanceVector.new "node-a").run
        [.processUpdate "node-b" [(meshNet, 1)] 1 0, .removePeer "node-b" 1])
      ((DistanceVector.new "node-c").run [.processUpdate "node-a" [(meshNet, 2)] 1 0])
      meshNet 14 2 := by
  refine (@withdrawal_reaches_iff "node-a" "node-c" (by decide) _ _ meshNet
    (learnedRoute "node-a" meshNet 3 0) (by decide +kernel) rfl 14 2).mpr ?_
  intro _
  have hroute : ((DistanceVector.new "node-a").run
      [.processUpdate "node-b" [(meshNet, 1)] 1 0, .removePeer "node-b" 1]).route meshNet =
      some { learnedRoute "node-b" meshNet 2 0 with
        holdDown := true, holdDownUntil := some 180000000001 } := by
    decide +kernel
  rw [DistanceVector.Unlearns, hroute]
  exact Or.inr (by decide)

/-- A node whose route has been poisoned says nothing of it, and the peer keeps its route. -/
theorem withdrawal_not_told :
    ¬ ∀ (ops : List MeshOp) (a c : String) (held : DvRoute), a ≠ c →
      (Mesh.new.run ops c).route meshNet = some held → held.nextHop = a →
      WithdrawalReaches a c (Mesh.new.run ops a) (Mesh.new.run ops c) meshNet 1 4 := by
  intro h
  have hreach := h [.addConnectedRoute "node-b" meshNet 1 0, .exchange "node-b" "node-a" 1 1,
    .exchange "node-a" "node-c" 1 2, .expireStaleRoutes "node-a" 1 3] "node-a" "node-c"
    (learnedRoute "node-a" meshNet 3 2) (by decide) (by decide +kernel) rfl
  have hwithdrawn : ∀ r, (Mesh.new.run [.addConnectedRoute "node-b" meshNet 1 0,
      .exchange "node-b" "node-a" 1 1, .exchange "node-a" "node-c" 1 2,
      .expireStaleRoutes "node-a" 1 3] "node-a").route meshNet = some r →
      r.flags.poisoned = true := by
    decide +kernel
  have hinf := hreach (fun r hr => Or.inl (hwithdrawn r hr)) (learnedRoute "node-a" meshNet 3 2)
    (by decide +kernel) rfl
  exact absurd hinf (by decide)

end P2PMesh.MeshRouting
