import P2PMesh.Gossip

namespace P2PMesh.Gossip
open P2PMesh.Base
set_option autoImplicit true

/-- What a node is told of members: by an update of a peer, or directly. -/
inductive GossipInput where
  | membershipUpdate (members : List GossipMember)
  | addMember (member : GossipMember)
deriving DecidableEq

def GossipInput.records : GossipInput → List GossipMember
  | .membershipUpdate members => members
  | .addMember member => [member]

/-- The call that processes the input, at some instant. -/
def GossipInput.op (now : Nat) : GossipInput → GossipOp
  | .membershipUpdate members => .processMessage (.membershipUpdate members) now
  | .addMember member => .addMember member

/-- The records of the input that are about the device. -/
def GossipInput.recordsOf (d : String) (i : GossipInput) : List GossipMember :=
  i.records.filter (fun m => m.deviceId = d)

/-- A node processes inputs, each at some instant. -/
def GossipProtocol.receive (g : GossipProtocol) (l : List (Nat × GossipInput)) : GossipProtocol :=
  g.run (l.map (fun e => e.2.op e.1))

def GossipMember.standing (m : GossipMember) : MemberState × UInt64 := (m.state, m.incarnation)

def GossipMember.rank (m : GossipMember) : ℕ := m.incarnation.toNat

/-- The nodes have the same state and incarnation for every member. -/
def SameStanding (g g' : GossipProtocol) : Prop :=
  ∀ d, (g.member d).map GossipMember.standing = (g'.member d).map GossipMember.standing

/-- No input is about the node. -/
def Foreign (inputs : List GossipInput) (g : GossipProtocol) : Prop :=
  ∀ i ∈ inputs, ∀ m ∈ i.records, m.deviceId ≠ g.ourId

section Receive
variable {g : GossipProtocol} {d : String}

theorem foldl_takeNewer (members : List GossipMember) (slot : Option GossipMember) :
    members.foldl (takeNewer d) slot =
      (members.filter (fun m => m.deviceId = d)).foldl (keepHigher GossipMember.rank) slot := by
  induction members generalizing slot with
  | nil => rfl
  | cons member members ih =>
    rw [List.foldl_cons, ih, takeNewer]
    by_cases hd : member.deviceId = d
    · rw [if_pos hd, List.filter_cons_of_pos (by simpa using hd), List.foldl_cons]
      rfl
    · rw [if_neg hd, List.filter_cons_of_neg (by simpa using hd)]

theorem member_op (i : GossipInput) (now : Nat) (h : ∀ m ∈ i.records, m.deviceId ≠ g.ourId) :
    (g.step (i.op now)).member d =
      (i.recordsOf d).foldl (keepHigher GossipMember.rank) (g.member d) := by
  rw [GossipInput.recordsOf, ← foldl_takeNewer]
  cases i with
  | addMember member => exact member_addMember member
  | membershipUpdate members =>
    have hall : members.filter (fun m => m.deviceId ≠ g.ourId) = members :=
      List.filter_eq_self.mpr (fun m hm => decide_eq_true (h m hm))
    have hfold : (g.step (.processMessage (.membershipUpdate members) now)).member d =
        (members.filter (fun m => m.deviceId ≠ g.ourId)).foldl (takeNewer d) (g.member d) :=
      member_foldl_receiveMember members
    rw [hall] at hfold
    exact hfold

theorem ourId_op (i : GossipInput) (now : Nat) : (g.step (i.op now)).ourId = g.ourId := by
  cases i with
  | addMember member => rfl
  | membershipUpdate members =>
    exact run_invariant GossipProtocol.receiveMember (I := fun g' => g'.ourId = g.ourId) rfl
      (fun _ m h => (ourId_receiveMember m).trans h) members

/-- What a node has of a member after inputs is what the records of the member make of it. -/
theorem member_receive (l : List (Nat × GossipInput)) (h : Foreign (l.map Prod.snd) g) :
    (g.receive l).member d = ((l.map Prod.snd).flatMap (GossipInput.recordsOf d)).foldl
      (keepHigher GossipMember.rank) (g.member d) := by
  induction l generalizing g with
  | nil => rfl
  | cons e l ih =>
    have hfirst := h e.2 List.mem_cons_self
    have hrest : Foreign (l.map Prod.snd) (g.step (e.2.op e.1)) := by
      intro i hi m hm
      rw [ourId_op]
      exact h i (.tail e.2 hi) m hm
    have hstep : (g.receive (e :: l)).member d = ((g.step (e.2.op e.1)).receive l).member d := rfl
    rw [hstep, ih hrest, member_op e.2 e.1 hfirst, List.map_cons, List.flatMap_cons,
      List.foldl_append]

theorem rank_eq_of_standing (m m' : GossipMember) (h : m.standing = m'.standing) :
    m.rank = m'.rank := by
  have hincarnation : m.incarnation = m'.incarnation := congrArg Prod.snd h
  rw [GossipMember.rank, GossipMember.rank, hincarnation]

end Receive

theorem Foreign.of_schedule {l : List (Nat × GossipInput)} (h : Foreign inputs g)
    (hl : Schedule inputs (l.map Prod.snd)) :
    Foreign (l.map Prod.snd) g := fun i hi => h i ((hl i).mp hi)

/-- Two nodes that start from the same view agree on every member after the same inputs in any
two orders, exactly where the inputs whose newest record of a member has the largest incarnation
of all, above that of the view, agree on its state. -/
theorem gossip_converges_iff (g g' : GossipProtocol) (hview : SameStanding g g')
    (inputs : List GossipInput) (hg : Foreign inputs g) (hg' : Foreign inputs g') :
    (∀ l l' : List (Nat × GossipInput), Schedule inputs (l.map Prod.snd) →
      Schedule inputs (l'.map Prod.snd) → SameStanding (g.receive l) (g'.receive l')) ↔
    ∀ d, TiesAgree GossipMember.rank GossipMember.state (GossipInput.recordsOf d) (g.member d)
      inputs := by
  have hties : ∀ d, TiesAgree GossipMember.rank GossipMember.state (GossipInput.recordsOf d)
      (g.member d) inputs ↔ TiesAgree GossipMember.rank GossipMember.standing
        (GossipInput.recordsOf d) (g.member d) inputs := by
    intro d
    constructor
    · intro h i hi i' hi' m m' hm hm' he hmax habove
      exact Prod.ext (h i hi i' hi' m m' hm hm' he hmax habove) (UInt64.toNat_inj.mp he)
    · intro h i hi i' hi' m m' hm hm' he hmax habove
      exact congrArg Prod.fst (h i hi i' hi' m m' hm hm' he hmax habove)
  have hagree : ∀ d, (∀ l l', Schedule inputs l → Schedule inputs l' →
      ((l.flatMap (GossipInput.recordsOf d)).foldl (keepHigher GossipMember.rank)
        (g.member d)).map GossipMember.standing =
      ((l'.flatMap (GossipInput.recordsOf d)).foldl (keepHigher GossipMember.rank)
        (g'.member d)).map GossipMember.standing) ↔
      TiesAgree GossipMember.rank GossipMember.standing (GossipInput.recordsOf d) (g.member d)
        inputs := fun d => schedules_agree_iff rank_eq_of_standing (hview d)
  constructor
  · intro h d
    rw [hties d, ← hagree d]
    intro l l' hl hl'
    have hsnd : ∀ l : List GossipInput, (l.map (fun i => (0, i))).map Prod.snd = l := by
      intro l
      rw [List.map_map]
      exact List.map_id' l
    have hsame := h (l.map (fun i => (0, i))) (l'.map (fun i => (0, i)))
      (by rwa [hsnd]) (by rwa [hsnd]) d
    rw [member_receive _ (hg.of_schedule (by rwa [hsnd])),
      member_receive _ (hg'.of_schedule (by rwa [hsnd])), hsnd, hsnd] at hsame
    exact hsame
  · intro h l l' hl hl' d
    rw [member_receive _ (hg.of_schedule hl), member_receive _ (hg'.of_schedule hl')]
    exact (hagree d).mpr ((hties d).mp (h d)) _ _ hl hl'

/-- A record of node-x. -/
def recordOfX (state : MemberState) (incarnation : UInt64) : GossipMember :=
  ⟨"node-x", ⟨.v4 1, 4000⟩, state, incarnation, 0, []⟩

theorem gossip_converges_iff_one_state :
    SameStanding
      ((GossipProtocol.new "node-a" ⟨.v4 1, 1⟩).receive
        [(0, .addMember (recordOfX .alive 1)), (1, .addMember (recordOfX .dead 2))])
      ((GossipProtocol.new "node-b" ⟨.v4 1, 2⟩).receive
        [(0, .addMember (recordOfX .dead 2)), (1, .addMember (recordOfX .alive 1))]) := by
  have hforeign : ∀ ourId ourAddr, ourId ≠ "node-x" → Foreign
      [.addMember (recordOfX .alive 1), .addMember (recordOfX .dead 2)]
      (GossipProtocol.new ourId ourAddr) := by
    intro ourId ourAddr hne i hi m hm
    rcases List.mem_pair.mp hi with rfl | rfl <;> cases List.mem_singleton.mp hm <;>
      exact hne.symm
  apply (gossip_converges_iff (.new "node-a" ⟨.v4 1, 1⟩) (.new "node-b" ⟨.v4 1, 2⟩)
    (fun d => by rw [member_new, member_new])
    [.addMember (recordOfX .alive 1), .addMember (recordOfX .dead 2)]
    (hforeign _ _ (by decide)) (hforeign _ _ (by decide))).mpr
  · intro d i hi i' hi' m m' hm hm' he _ _
    have hrecords := (List.mem_filter.mp hm.mem).1
    have hrecords' := (List.mem_filter.mp hm'.mem).1
    rcases List.mem_pair.mp hi with rfl | rfl <;> rcases List.mem_pair.mp hi' with rfl | rfl <;>
      cases List.mem_singleton.mp hrecords <;> cases List.mem_singleton.mp hrecords'
    · rfl
    · exact absurd he (by decide)
    · exact absurd he (by decide)
    · rfl
  · exact fun i => Iff.rfl
  · intro i
    rw [List.map_cons, List.map_singleton, List.mem_pair, List.mem_pair, or_comm]

/-- Two states of a member at one incarnation: each node keeps the one that comes first. -/
theorem gossip_diverges :
    ¬ ∀ (g g' : GossipProtocol) (inputs : List GossipInput) (l l' : List (Nat × GossipInput)),
      SameStanding g g' → Foreign inputs g → Foreign inputs g' →
      Schedule inputs (l.map Prod.snd) → Schedule inputs (l'.map Prod.snd) →
      SameStanding (g.receive l) (g'.receive l') := by
  intro h
  have hforeign : ∀ ourId ourAddr, ourId ≠ "node-x" → Foreign
      [.membershipUpdate [recordOfX .alive 1], .membershipUpdate [recordOfX .dead 1]]
      (GossipProtocol.new ourId ourAddr) := by
    intro ourId ourAddr hne i hi m hm
    rcases List.mem_pair.mp hi with rfl | rfl <;> cases List.mem_singleton.mp hm <;>
      exact hne.symm
  have hsame := h (.new "node-a" ⟨.v4 1, 1⟩) (.new "node-b" ⟨.v4 1, 2⟩)
    [.membershipUpdate [recordOfX .alive 1], .membershipUpdate [recordOfX .dead 1]]
    [(0, .membershipUpdate [recordOfX .alive 1]), (1, .membershipUpdate [recordOfX .dead 1])]
    [(0, .membershipUpdate [recordOfX .dead 1]), (1, .membershipUpdate [recordOfX .alive 1])]
    (fun d => by rw [member_new, member_new]) (hforeign _ _ (by decide))
    (hforeign _ _ (by decide)) (fun i => Iff.rfl)
    (fun i => by rw [List.map_cons, List.map_singleton, List.mem_pair, List.mem_pair, or_comm])
    "node-x"
  exact absurd hsame (by decide +kernel)

end P2PMesh.Gossip
