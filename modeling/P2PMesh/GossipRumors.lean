import P2PMesh.GossipMerge

namespace P2PMesh.Gossip
open P2PMesh.Base
set_option autoImplicit true

theorem ourId_mark {g : GossipProtocol} (state : MemberState) (deviceId : String) (now : Nat) :
    (g.mark state deviceId now).ourId = g.ourId := by
  rw [GossipProtocol.mark]
  split <;> rfl

theorem ourId_foldl_receiveMember {g : GossipProtocol} (members : List GossipMember) :
    (members.foldl GossipProtocol.receiveMember g).ourId = g.ourId :=
  run_invariant GossipProtocol.receiveMember (I := fun g' => g'.ourId = g.ourId) rfl
    (fun _ m h => (ourId_receiveMember m).trans h) members

theorem GossipProtocol.ourId_step (g : GossipProtocol) (op : GossipOp) :
    (g.step op).ourId = g.ourId := by
  cases op with
  | join => rfl
  | addMember => rfl
  | buildPing draw =>
    rw [GossipProtocol.step, GossipProtocol.buildPing]
    split <;> rfl
  | processMessage msg now =>
    cases msg with
    | ack seqNum source => exact ourId_mark .alive source now
    | membershipUpdate members => exact ourId_foldl_receiveMember members
    | _ => rfl
  | markSuspect deviceId now => exact ourId_mark .suspect deviceId now
  | markDead deviceId now => exact ourId_mark .dead deviceId now

section Snapshots
variable {g g' : GossipProtocol} {d : String}

theorem GossipProtocol.Keyed.snapshot_filter (h : g.Keyed) (d : String) :
    g.snapshot.filter (fun m => m.deviceId = d) = (g.member d).toList :=
  values_filter_key g.members h d

theorem GossipProtocol.Keyed.mem_snapshot (h : g.Keyed) :
    m ∈ g.snapshot ∧ m.deviceId = d ↔ g.member d = some m := by
  rw [← Option.mem_toList, ← h.snapshot_filter, List.mem_filter, decide_eq_true_eq]

theorem GossipProtocol.Keyed.member_update (h : g.Keyed) (hd : d ≠ g'.ourId) (now : Nat) :
    (g'.processMessage g.buildMembershipUpdate now).1.member d =
      (g.member d).toList.foldl (keepHigher GossipMember.rank) (g'.member d) := by
  have hfold : (g'.processMessage g.buildMembershipUpdate now).1.member d =
      (g.snapshot.filter (fun m => m.deviceId ≠ g'.ourId)).foldl (takeNewer d) (g'.member d) :=
    member_foldl_receiveMember g.snapshot
  have hboth : (g.snapshot.filter (fun m => m.deviceId ≠ g'.ourId)).filter
      (fun m => m.deviceId = d) = g.snapshot.filter (fun m => m.deviceId = d) := by
    rw [List.filter_filter]
    apply List.filter_congr
    intro m _
    by_cases hm : m.deviceId = d
    · simp [hm, hd]
    · simp [hm]
  rw [hfold, foldl_takeNewer, hboth, h.snapshot_filter]

theorem member_update_own (members : List GossipMember) (now : Nat) :
    (g.processMessage (.membershipUpdate members) now).1.member g.ourId = g.member g.ourId := by
  have hfold : (g.processMessage (.membershipUpdate members) now).1.member g.ourId =
      (members.filter (fun m => m.deviceId ≠ g.ourId)).foldl (takeNewer g.ourId)
        (g.member g.ourId) := member_foldl_receiveMember members
  have hnone : (members.filter (fun m => m.deviceId ≠ g.ourId)).filter
      (fun m => m.deviceId = g.ourId) = [] := by
    rw [List.filter_filter, List.filter_eq_nil_iff]
    intro m _
    simp
  rw [hfold, foldl_takeNewer, hnone, List.foldl_nil]

end Snapshots

/-- The node lists the device as alive at the incarnation. -/
def GossipProtocol.AliveAt (g : GossipProtocol) (d : String) (k : UInt64) : Prop :=
  ∃ m, g.member d = some m ∧ m.state = .alive ∧ m.incarnation = k

/-- A mark that does not raise the incarnation is lost on a node that has the same one. -/
theorem GossipProtocol.AliveAt.of_mark {g g' : GossipProtocol} (hg : g.Keyed)
    (h : g.AliveAt d k) (h' : g'.AliveAt d k) (state : MemberState) (now now' : Nat) :
    (g'.processMessage (g.mark state d now).buildMembershipUpdate now').1.AliveAt d k := by
  obtain ⟨m, hm, -, hk⟩ := h
  obtain ⟨m', hm', halive, hk'⟩ := h'
  refine ⟨m', ?_, halive, hk'⟩
  by_cases hd : d = g'.ourId
  · cases hd
    rw [GossipProtocol.buildMembershipUpdate, member_update_own, hm']
  · have hmark : (g.mark state d now).member d =
        some { m with state := state, lastChanged := now } := by
      rw [member_mark, if_pos rfl, hm, Option.map_some]
    have hsame : ¬ m'.incarnation.toNat < m.incarnation.toNat := by
      rw [hk, hk']
      exact Nat.lt_irrefl _
    rw [(hg.of_mark state d now).member_update hd, hmark, hm']
    exact if_neg hsame

/-- Of two nodes that list a device as alive at one incarnation, one goes on doing so however
the other marks the device and tells of it. -/
theorem failure_never_spreads (a b : String) (addrA addrB : SocketAddr) (opsA opsB : List GossipOp)
    (d : String) (k : UInt64) (hA : ((GossipProtocol.new a addrA).run opsA).AliveAt d k)
    (hB : ((GossipProtocol.new b addrB).run opsB).AliveAt d k) (now now' : Nat) :
    (((GossipProtocol.new b addrB).run opsB).processMessage
        (((GossipProtocol.new a addrA).run opsA).markDead d now).buildMembershipUpdate
        now').1.AliveAt d k ∧
      (((GossipProtocol.new b addrB).run opsB).processMessage
        (((GossipProtocol.new a addrA).run opsA).markSuspect d now).buildMembershipUpdate
        now').1.AliveAt d k := by
  have hkeyed := keyed_run a addrA opsA
  exact ⟨hA.of_mark hkeyed hB .dead now now', hA.of_mark hkeyed hB .suspect now now'⟩

/-- A node that has been told that node-x is alive. -/
def witnessOfX (ourId : String) : GossipProtocol :=
  (GossipProtocol.new ourId ⟨.v4 1, 1⟩).run [.addMember (recordOfX .alive 3)]

theorem witnessOfX_aliveAt (h : (witnessOfX ourId).member "node-x" = some (recordOfX .alive 3)) :
    (witnessOfX ourId).AliveAt "node-x" 3 := ⟨_, h, rfl, rfl⟩

theorem failure_never_spreads_pair :
    ((witnessOfX "node-b").processMessage
      ((witnessOfX "node-a").markDead "node-x" 5).buildMembershipUpdate 6).1.AliveAt "node-x" 3 :=
  (failure_never_spreads "node-a" "node-b" ⟨.v4 1, 1⟩ ⟨.v4 1, 1⟩ _ _ "node-x" 3
    (witnessOfX_aliveAt (by decide +kernel)) (witnessOfX_aliveAt (by decide +kernel)) 5 6).1

theorem failure_not_learned :
    ¬ ∀ (opsA opsB : List GossipOp) (d : String) (k : UInt64) (now now' : Nat),
      ((GossipProtocol.new "node-a" ⟨.v4 1, 1⟩).run opsA).AliveAt d k →
      ((GossipProtocol.new "node-b" ⟨.v4 1, 1⟩).run opsB).AliveAt d k →
      ¬ (((GossipProtocol.new "node-b" ⟨.v4 1, 1⟩).run opsB).processMessage
        (((GossipProtocol.new "node-a" ⟨.v4 1, 1⟩).run opsA).markDead d now).buildMembershipUpdate
        now').1.AliveAt d k := by
  intro h
  have hnot := h [.addMember (recordOfX .alive 3)] [.addMember (recordOfX .alive 3)] "node-x" 3 5 6
    (witnessOfX_aliveAt (by decide +kernel)) (witnessOfX_aliveAt (by decide +kernel))
  apply hnot
  exact ⟨recordOfX .alive 3, by decide +kernel, rfl, rfl⟩

def GossipMember.Down (m : GossipMember) : Prop := m.state = .suspect ∨ m.state = .dead

/-- The update lists the node itself as suspect or dead at the incarnation. -/
def GossipProtocol.Rumored (g : GossipProtocol) (members : List GossipMember) (k : UInt64) : Prop :=
  ∃ m ∈ members, m.deviceId = g.ourId ∧ m.Down ∧ m.incarnation = k

/-- The next update of the node lists the node itself as alive above the incarnation, and every
other node that holds the rumor lists it as alive after that update. -/
def GossipProtocol.Refutes (g : GossipProtocol) (k : UInt64) : Prop :=
  (∃ m ∈ g.snapshot, m.deviceId = g.ourId ∧ m.state = .alive ∧ k < m.incarnation) ∧
  ∀ (other : GossipProtocol) (held : GossipMember) (now : Nat), other.ourId ≠ g.ourId →
    other.member g.ourId = some held → held.Down → held.incarnation = k →
    ∃ m, (other.processMessage g.buildMembershipUpdate now).1.member g.ourId = some m ∧
      m.state = .alive

/-- The node's record of itself is alive above the incarnation. -/
def GossipProtocol.Outranks (g : GossipProtocol) (k : UInt64) : Prop :=
  ∃ m, g.member g.ourId = some m ∧ m.state = .alive ∧ k < m.incarnation

theorem GossipProtocol.Keyed.refutes_iff {g : GossipProtocol} (h : g.Keyed) :
    g.Refutes k ↔ g.Outranks k := by
  constructor
  · rintro ⟨⟨m, hm, hd, hrest⟩, -⟩
    exact ⟨m, h.mem_snapshot.mp ⟨hm, hd⟩, hrest⟩
  · rintro ⟨m, hm, halive, hk⟩
    obtain ⟨hmem, hd⟩ := h.mem_snapshot.mpr hm
    refine ⟨⟨m, hmem, hd, halive, hk⟩, ?_⟩
    intro other held now hne hheld _ hat
    refine ⟨m, ?_, halive⟩
    rw [h.member_update hne.symm, hm, hheld]
    rw [← hat, UInt64.lt_iff_toNat_lt] at hk
    exact if_pos hk

theorem GossipProtocol.Keyed.refutes_rumors_iff {g : GossipProtocol} (h : g.Keyed)
    (members : List GossipMember) (now : Nat) :
    (∀ k, g.Rumored members k →
      (g.processMessage (.membershipUpdate members) now).1.Refutes k) ↔
    ∀ k, g.Rumored members k → g.Outranks k := by
  have hkeyed : (g.processMessage (.membershipUpdate members) now).1.Keyed :=
    h.step (.processMessage (.membershipUpdate members) now)
  have hsame : (g.processMessage (.membershipUpdate members) now).1.ourId = g.ourId :=
    g.ourId_step (.processMessage (.membershipUpdate members) now)
  apply forall_congr'
  intro k
  apply imp_congr_right
  intro _
  rw [hkeyed.refutes_iff, GossipProtocol.Outranks, GossipProtocol.Outranks, hsame,
    member_update_own]

/-- A node refutes the rumors of an update exactly where its record of itself is alive above
their incarnations already; the update changes nothing of that record. -/
theorem refutation_iff (ourId : String) (ourAddr : SocketAddr) (ops : List GossipOp)
    (members : List GossipMember) (now : Nat) :
    (∀ k, ((GossipProtocol.new ourId ourAddr).run ops).Rumored members k →
      (((GossipProtocol.new ourId ourAddr).run ops).processMessage
        (.membershipUpdate members) now).1.Refutes k) ↔
    ∀ k, ((GossipProtocol.new ourId ourAddr).run ops).Rumored members k →
      ((GossipProtocol.new ourId ourAddr).run ops).Outranks k :=
  (keyed_run ourId ourAddr ops).refutes_rumors_iff members now

/-- After a rumor of its death at incarnation 5, a node that has joined still tells of itself at
incarnation 0. -/
theorem rumor_not_refuted :
    ¬ ∀ (ops : List GossipOp) (members : List GossipMember) (k : UInt64) (now : Nat),
      .join 0 ∈ ops → ((GossipProtocol.new "node-x" ⟨.v4 1, 1⟩).run ops).Rumored members k →
      (((GossipProtocol.new "node-x" ⟨.v4 1, 1⟩).run ops).processMessage
        (.membershipUpdate members) now).1.Refutes k := by
  intro h
  obtain ⟨⟨m, hm, -, -, hk⟩, -⟩ := h [.join 0] [recordOfX .dead 5] 5 1 List.mem_cons_self
    ⟨_, List.mem_cons_self, rfl, Or.inr rfl, rfl⟩
  have hsnapshot : (((GossipProtocol.new "node-x" ⟨.v4 1, 1⟩).run [.join 0]).processMessage
      (.membershipUpdate [recordOfX .dead 5]) 1).1.snapshot =
        [⟨"node-x", ⟨.v4 1, 1⟩, .alive, 0, 0, []⟩] := by
    decide +kernel
  rw [hsnapshot] at hm
  cases List.mem_singleton.mp hm
  exact absurd hk (by decide)

end P2PMesh.Gossip
