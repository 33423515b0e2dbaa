import P2PMesh.GossipRumors

namespace P2PMesh.Gossip
open P2PMesh.Base
set_option autoImplicit true

def GossipMember.Gone (m : GossipMember) : Prop := m.state = .dead ∨ m.state = .left

instance (m : GossipMember) : Decidable m.Gone := inferInstanceAs (Decidable (_ ∨ _))

/-- A later record of a member: its incarnation is not smaller, and if a member that was gone is
back it is larger. -/
structure GossipMember.Precedes (m m' : GossipMember) : Prop where
  incarnation_le : m.incarnation ≤ m'.incarnation
  returns : m.Gone → ¬ m'.Gone → m.incarnation < m'.incarnation

/-- Every member of the one state has a later record in the other. -/
def GossipProtocol.Advances (g g' : GossipProtocol) : Prop :=
  ∀ d m, g.member d = some m → ∃ m', g'.member d = some m' ∧ m.Precedes m'

/-- The calls that write a record whatever its incarnation do not find it gone, and a join does
not find a record of the node above incarnation 0. -/
def GossipProtocol.Respects (g : GossipProtocol) : GossipOp → Prop
  | .join _ => ∀ m, g.member g.ourId = some m → m.incarnation = 0 ∧ ¬ m.Gone
  | .processMessage (.ack _ source) _ => ∀ m, g.member source = some m → ¬ m.Gone
  | .markSuspect deviceId _ => ∀ m, g.member deviceId = some m → ¬ m.Gone
  | _ => True

theorem GossipMember.Precedes.refl (m : GossipMember) : m.Precedes m :=
  ⟨UInt64.le_refl _, fun hgone hback => (hback hgone).elim⟩

theorem GossipMember.Precedes.trans (h : GossipMember.Precedes m₁ m₂)
    (h' : GossipMember.Precedes m₂ m₃) : m₁.Precedes m₃ := by
  refine ⟨UInt64.le_trans h.incarnation_le h'.incarnation_le, ?_⟩
  intro hgone hback
  by_cases hmid : m₂.Gone
  · exact UInt64.lt_of_le_of_lt h.incarnation_le (h'.returns hmid hback)
  · exact UInt64.lt_of_lt_of_le (h.returns hgone hmid) h'.incarnation_le

theorem GossipProtocol.Advances.refl (g : GossipProtocol) : g.Advances g :=
  fun _ m hm => ⟨m, hm, .refl m⟩

theorem GossipProtocol.Advances.trans (h : GossipProtocol.Advances g₁ g₂)
    (h' : GossipProtocol.Advances g₂ g₃) : g₁.Advances g₃ := by
  intro d m₁ hm₁
  obtain ⟨m₂, hm₂, h₁₂⟩ := h d m₁ hm₁
  obtain ⟨m₃, hm₃, h₂₃⟩ := h' d m₂ hm₂
  exact ⟨m₃, hm₃, h₁₂.trans h₂₃⟩

section Steps
variable {g : GossipProtocol}

theorem takeNewer_precedes (d : String) (m member : GossipMember) :
    ∃ m', takeNewer d (some m) member = some m' ∧ m.Precedes m' := by
  rw [takeNewer]
  split
  · rw [keepHigher]
    split
    · next hlt =>
      have hnewer : m.incarnation < member.incarnation := UInt64.lt_iff_toNat_lt.mpr hlt
      exact ⟨member, rfl, UInt64.le_of_lt hnewer, fun _ _ => hnewer⟩
    · exact ⟨m, rfl, .refl m⟩
  · exact ⟨m, rfl, .refl m⟩

theorem advances_of_takeNewer {g' : GossipProtocol} (members : List GossipMember)
    (hg : ∀ d, g'.member d = members.foldl (takeNewer d) (g.member d)) : g.Advances g' := by
  intro d m hm
  rw [hg d]
  apply run_invariant (takeNewer d) (I := fun slot => ∃ m', slot = some m' ∧ m.Precedes m')
    ⟨m, hm, .refl m⟩
  rintro slot member ⟨m₁, rfl, h₁⟩
  obtain ⟨m₂, hm₂, h₂⟩ := takeNewer_precedes d m₁ member
  exact ⟨m₂, hm₂, h₁.trans h₂⟩

/-- A state that is written over a record must not bring back a member that is gone. -/
theorem advances_mark_iff (state : MemberState) (deviceId : String) (now : Nat) :
    g.Advances (g.mark state deviceId now) ↔
      ∀ m, g.member deviceId = some m → m.Gone → state = .dead ∨ state = .left := by
  constructor
  · intro h m hm hgone
    obtain ⟨m', hm', hsucc⟩ := h deviceId m hm
    rw [member_mark, if_pos rfl, hm, Option.map_some] at hm'
    cases hm'
    by_contra hback
    exact UInt64.lt_irrefl _ (hsucc.returns hgone hback)
  · intro h d m hm
    by_cases hd : deviceId = d
    · cases hd
      refine ⟨{ m with state := state, lastChanged := now }, ?_, UInt64.le_refl _, ?_⟩
      · rw [member_mark, if_pos rfl, hm, Option.map_some]
      · intro hgone hback
        exact (hback (h m hm hgone)).elim
    · refine ⟨m, ?_, .refl m⟩
      rw [member_mark, if_neg hd, hm]

theorem advances_join_iff (now : Nat) : g.Advances (g.join now) ↔
    ∀ m, g.member g.ourId = some m → m.incarnation = 0 ∧ ¬ m.Gone := by
  have hup : ¬ (g.ownMember now).Gone := by
    rintro (h | h) <;> cases h
  constructor
  · intro h m hm
    obtain ⟨m', hm', hsucc⟩ := h g.ourId m hm
    rw [member_join, if_pos rfl] at hm'
    cases hm'
    have hle : m.incarnation ≤ 0 := hsucc.incarnation_le
    refine ⟨UInt64.le_zero_iff.mp hle, ?_⟩
    intro hgone
    have hlt : m.incarnation < 0 := hsucc.returns hgone hup
    exact UInt64.not_lt_zero hlt
  · intro h d m hm
    by_cases hd : g.ourId = d
    · cases hd
      obtain ⟨hzero, hstays⟩ := h m hm
      refine ⟨g.ownMember now, ?_, ?_, fun hgone _ => (hstays hgone).elim⟩
      · rw [member_join, if_pos rfl]
      · rw [hzero]
        exact UInt64.le_refl _
    · refine ⟨m, ?_, .refl m⟩
      rw [member_join, if_neg hd, hm]

theorem GossipProtocol.step_advances_iff (g : GossipProtocol) (op : GossipOp) :
    g.Advances (g.step op) ↔ g.Respects op := by
  have hmark : ∀ state deviceId now, ¬ (state = MemberState.dead ∨ state = .left) →
      (g.Advances (g.mark state deviceId now) ↔
        ∀ m, g.member deviceId = some m → ¬ m.Gone) := by
    intro state deviceId now hback
    rw [advances_mark_iff]
    simp only [hback, imp_false]
  cases op with
  | join now => exact advances_join_iff now
  | addMember member =>
    exact iff_of_true (advances_of_takeNewer [member] (fun _ => member_addMember member)) trivial
  | buildPing draw =>
    refine iff_of_true ?_ trivial
    intro d m hm
    rw [GossipProtocol.step, member_buildPing]
    exact ⟨m, hm, .refl m⟩
  | processMessage msg now =>
    cases msg with
    | ack seqNum source => exact hmark .alive source now (by decide)
    | membershipUpdate members =>
      exact iff_of_true (advances_of_takeNewer _ (fun _ => member_foldl_receiveMember members))
        trivial
    | _ => exact iff_of_true (.refl g) trivial
  | markSuspect deviceId now => exact hmark .suspect deviceId now (by decide)
  | markDead deviceId now =>
    exact iff_of_true ((advances_mark_iff .dead deviceId now).mpr (fun _ _ _ => Or.inl rfl)) trivial

end Steps

/-- From every point of a run to every later one the records of members advance, exactly where
each call respects what is recorded. -/
theorem history_advances_iff (ourId : String) (ourAddr : SocketAddr) (ops : List GossipOp) :
    (∀ before after, before ++ after <+: ops →
      ((GossipProtocol.new ourId ourAddr).run before).Advances
        ((GossipProtocol.new ourId ourAddr).run (before ++ after))) ↔
    Guarded GossipProtocol.step GossipProtocol.Respects (.new ourId ourAddr) ops := by
  rw [← guarded_congr GossipProtocol.step_advances_iff]
  exact forall_between_iff GossipProtocol.Advances.refl
    (fun h h' => GossipProtocol.Advances.trans h h') ops

/-- A delayed answer brings a member back that has been declared dead, and a second join takes
the node's own incarnation back to 0. -/
theorem history_rewritten :
    (¬ ∀ (ops : List GossipOp) (op : GossipOp), (∀ now, op ≠ .join now) →
      ((GossipProtocol.new "node-a" ⟨.v4 1, 1⟩).run ops).Advances
        ((GossipProtocol.new "node-a" ⟨.v4 1, 1⟩).run (ops ++ [op]))) ∧
    ¬ ∀ (ops : List GossipOp) (op : GossipOp) (m m' : GossipMember),
      ((GossipProtocol.new "node-x" ⟨.v4 1, 1⟩).run ops).member "node-x" = some m →
      ((GossipProtocol.new "node-x" ⟨.v4 1, 1⟩).run (ops ++ [op])).member "node-x" = some m' →
      m.incarnation ≤ m'.incarnation := by
  constructor
  · intro h
    have hadvances := h [.addMember (recordOfX .alive 3), .markDead "node-x" 1]
      (.processMessage (.ack 1 "node-x") 2) (by simp)
    obtain ⟨m, hm, hsucc⟩ := hadvances "node-x" { recordOfX .dead 3 with lastChanged := 1 }
      (by decide +kernel)
    have hback : some m = some { recordOfX .alive 3 with lastChanged := 2 } := by
      rw [← hm]
      decide +kernel
    cases hback
    exact absurd (hsucc.returns (by decide) (by decide)) (by decide)
  · intro h
    have hle := h [.join 0, .addMember (recordOfX .alive 3)] (.join 1) (recordOfX .alive 3)
      ⟨"node-x", ⟨.v4 1, 1⟩, .alive, 0, 1, []⟩ (by decide +kernel) (by decide +kernel)
    exact absurd hle (by decide)

end P2PMesh.Gossip
