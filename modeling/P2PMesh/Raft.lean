import Mathlib.Data.List.Range
import P2PMesh.Base.Bytes
import P2PMesh.Base.Machine
import P2PMesh.Base.Run

namespace P2PMesh.Raft
open P2PMesh.Base
set_option autoImplicit true

inductive RaftRole where
  | follower
  | candidate
  | leader
deriving DecidableEq

inductive RaftEntryType where
  | noOp
  | configChange
  | routeUpdate
  | aclPolicy
  | ipamAllocation
  | custom (command : String)
deriving DecidableEq

/-- The index is the length of a vector and one, which is far below `2 ^ 64`. -/
structure RaftLogEntry where
  index : Nat
  term : UInt64
  entryType : RaftEntryType
  data : Bytes
deriving DecidableEq

inductive RaftError where
  | notLeader
deriving DecidableEq

structure RaftNode where
  id : String
  role : RaftRole
  currentTerm : UInt64
  votedFor : Option String
  log : List RaftLogEntry
  commitIndex : UInt64
  leaderId : Option String
  lastHeartbeat : Nat
deriving DecidableEq

def RaftNode.new (id : String) (now : Nat) : RaftNode :=
  ⟨id, .follower, 0, none, [], 0, none, now⟩

inductive RaftOp where
  | startElection (now : Nat)
  | becomeLeader
  | appendEntry (entryType : RaftEntryType) (data : Bytes)
  | receiveHeartbeat (leaderId : String) (term commitIndex : UInt64) (now : Nat)
deriving DecidableEq

section Node
variable (n : RaftNode)

/-- With overflow checks the next term may panic, when the role has been set already. -/
def RaftNode.startElection (overflowChecks : Bool) (now : Nat) : RaftNode :=
  match addU64 overflowChecks n.currentTerm 1 with
  | none => { n with role := .candidate }
  | some term =>
    { n with role := .candidate, currentTerm := term, votedFor := some n.id, lastHeartbeat := now }

def RaftNode.becomeLeader : RaftNode := { n with role := .leader, leaderId := some n.id }

def RaftNode.newEntry (entryType : RaftEntryType) (data : Bytes) : RaftLogEntry :=
  ⟨n.log.length + 1, n.currentTerm, entryType, data⟩

def RaftNode.appendEntry (entryType : RaftEntryType) (data : Bytes) :
    Except RaftError Nat × RaftNode :=
  if n.role ≠ .leader then (.error .notLeader, n)
  else
    let log := n.log ++ [n.newEntry entryType data]
    (.ok (log.length - 1), { n with log := log })

def RaftNode.receiveHeartbeat (leaderId : String) (term commitIndex : UInt64) (now : Nat) :
    RaftNode :=
  if n.currentTerm ≤ term then
    { n with
      currentTerm := term
      role := .follower
      leaderId := some leaderId
      commitIndex := commitIndex
      lastHeartbeat := now }
  else n

def RaftNode.step (overflowChecks : Bool) : RaftOp → RaftNode
  | .startElection now => n.startElection overflowChecks now
  | .becomeLeader => n.becomeLeader
  | .appendEntry entryType data => (n.appendEntry entryType data).2
  | .receiveHeartbeat leaderId term commitIndex now =>
    n.receiveHeartbeat leaderId term commitIndex now

def RaftNode.lastIndex : Nat := n.log.getLast?.elim 0 RaftLogEntry.index

end Node

/-- A node, and the term in which the vote that it remembers was cast. -/
structure RaftHistory where
  node : RaftNode
  votedIn : Option UInt64
deriving DecidableEq

def RaftHistory.new (id : String) (now : Nat) : RaftHistory := ⟨.new id now, none⟩

/-- Only an election casts a vote, unless it panics before. -/
def RaftHistory.voted (h : RaftHistory) (overflowChecks : Bool) : RaftOp → Option UInt64
  | .startElection _ =>
    match addU64 overflowChecks h.node.currentTerm 1 with
    | none => h.votedIn
    | some term => some term
  | _ => h.votedIn

def RaftHistory.step (overflowChecks : Bool) (h : RaftHistory) (op : RaftOp) : RaftHistory :=
  ⟨h.node.step overflowChecks op, h.voted overflowChecks op⟩

def RaftHistory.run (overflowChecks : Bool) (h : RaftHistory) (ops : List RaftOp) : RaftHistory :=
  ops.foldl (RaftHistory.step overflowChecks) h

section Invariants
variable (h : RaftHistory)

/-- What one state of a node owes to log replication. -/
structure RaftHistory.Sound : Prop where
  indices : h.node.log.map RaftLogEntry.index = List.range' 1 h.node.log.length
  terms : (h.node.log.map RaftLogEntry.term).Pairwise (· ≤ ·)
  bounded : ∀ e ∈ h.node.log, e.term ≤ h.node.currentTerm
  committed : h.node.commitIndex.toNat ≤ h.node.lastIndex
  voted : ∀ name, h.node.votedFor = some name → h.votedIn = some h.node.currentTerm

/-- The term and the commit index only grow. -/
def RaftHistory.Advances (later : RaftHistory) : Prop :=
  h.node.currentTerm ≤ later.node.currentTerm ∧ h.node.commitIndex ≤ later.node.commitIndex

/-- What an append answers is the index of the entry that it has appended. -/
def RaftHistory.ReturnsIndex : RaftOp → Prop
  | .appendEntry entryType data =>
    ∀ index, (h.node.appendEntry entryType data).1 = .ok index →
      (h.node.appendEntry entryType data).2.log.getLast?.map RaftLogEntry.index = some index
  | _ => True

/-- The next term exists, and a heartbeat that counts commits what the log has and no less than
before, in the term of the vote if there is one. -/
def RaftHistory.Keeps (overflowChecks : Bool) : RaftOp → Prop
  | .startElection _ => overflowChecks = true ∨ h.node.currentTerm.toNat + 1 < 2 ^ 64
  | .receiveHeartbeat _ term commitIndex _ => h.node.currentTerm ≤ term →
      h.node.commitIndex ≤ commitIndex ∧ commitIndex.toNat ≤ h.node.lastIndex ∧
        (h.node.votedFor = none ∨ term = h.node.currentTerm)
  | _ => True

def RaftHistory.Refuses : RaftOp → Prop
  | .appendEntry _ _ => h.node.role ≠ .leader
  | _ => True

end Invariants

section Steps
variable {h : RaftHistory} {c : Bool}

theorem RaftHistory.new_sound (id : String) (now : Nat) : (RaftHistory.new id now).Sound where
  indices := rfl
  terms := .nil
  bounded := fun _ he => (List.not_mem_nil he).elim
  committed := Nat.le_refl 0
  voted := fun _ hv => by cases hv

theorem RaftHistory.Advances.refl (h : RaftHistory) : h.Advances h :=
  ⟨UInt64.le_refl _, UInt64.le_refl _⟩

theorem RaftHistory.Advances.trans {h₁ h₂ h₃ : RaftHistory} (h₁₂ : h₁.Advances h₂)
    (h₂₃ : h₂.Advances h₃) : h₁.Advances h₃ :=
  ⟨UInt64.le_trans h₁₂.1 h₂₃.1, UInt64.le_trans h₁₂.2 h₂₃.2⟩

theorem addU64_one_wraps {a : UInt64} (ha : ¬ a.toNat + 1 < 2 ^ 64) :
    addU64 false a 1 = some 0 := by
  have hmax := a.toNat_lt
  have hzero : a + 1 = 0 := by
    apply UInt64.toNat_inj.mp
    rw [UInt64.toNat_add]
    change (a.toNat + 1) % 2 ^ 64 = 0
    omega
  rw [addU64, Bool.false_and, if_neg Bool.false_ne_true, hzero]

theorem addU64_one_fits {a : UInt64} (ha : a.toNat + 1 < 2 ^ 64) :
    addU64 c a 1 = some (a + 1) ∧ a ≤ a + 1 := by
  have hsum : (a + 1).toNat = a.toNat + 1 := by
    rw [UInt64.toNat_add]
    change (a.toNat + 1) % 2 ^ 64 = a.toNat + 1
    omega
  constructor
  · rw [addU64, if_neg]
    rw [Bool.and_eq_true, decide_eq_true_eq]
    rintro ⟨-, hle⟩
    change 2 ^ 64 ≤ a.toNat + 1 at hle
    omega
  · rw [UInt64.le_iff_toNat_le, hsum]
    exact Nat.le_succ _

theorem RaftHistory.Sound.of_log (hs : h.Sound) {n : RaftNode} {votedIn : Option UInt64}
    (hlog : n.log = h.node.log) (hterm : h.node.currentTerm ≤ n.currentTerm)
    (hcommit : n.commitIndex.toNat ≤ h.node.lastIndex)
    (hvoted : ∀ name, n.votedFor = some name → votedIn = some n.currentTerm) :
    (RaftHistory.mk n votedIn).Sound where
  indices := by
    change n.log.map _ = _
    rw [hlog]
    exact hs.indices
  terms := by
    change (n.log.map _).Pairwise _
    rw [hlog]
    exact hs.terms
  bounded := by
    intro e he
    change e ∈ n.log at he
    rw [hlog] at he
    exact UInt64.le_trans (hs.bounded e he) hterm
  committed := by
    change n.commitIndex.toNat ≤ n.lastIndex
    rw [RaftNode.lastIndex, hlog]
    exact hcommit
  voted := hvoted

theorem RaftHistory.Sound.startElection_iff (hs : h.Sound) (now : Nat) :
    (h.step c (.startElection now)).Sound ∧ h.Advances (h.step c (.startElection now)) ↔
      h.Keeps c (.startElection now) := by
  change (RaftHistory.mk (h.node.startElection c now) (h.voted c (.startElection now))).Sound ∧
    h.Advances ⟨h.node.startElection c now, h.voted c (.startElection now)⟩ ↔
      (c = true ∨ h.node.currentTerm.toNat + 1 < 2 ^ 64)
  rw [RaftNode.startElection, RaftHistory.voted]
  by_cases hfits : h.node.currentTerm.toNat + 1 < 2 ^ 64
  · obtain ⟨hsum, hle⟩ := addU64_one_fits (c := c) hfits
    rw [hsum]
    refine iff_of_true ⟨?_, hle, UInt64.le_refl _⟩ (.inr hfits)
    exact hs.of_log rfl hle hs.committed (fun _ _ => rfl)
  · cases c with
    | true =>
      have hnone : addU64 true h.node.currentTerm 1 = none :=
        addU64_eq_none.mpr ⟨rfl, Nat.not_lt.mp hfits⟩
      rw [hnone]
      refine iff_of_true ⟨?_, Advances.refl h⟩ (.inl rfl)
      exact hs.of_log rfl (UInt64.le_refl _) hs.committed hs.voted
    | false =>
      rw [addU64_one_wraps hfits]
      refine iff_of_false ?_ (fun hk => hk.elim Bool.false_ne_true hfits)
      rintro ⟨-, hle, -⟩
      have hzero : h.node.currentTerm.toNat ≤ 0 := UInt64.le_iff_toNat_le.mp hle
      omega

theorem RaftHistory.Sound.receiveHeartbeat_iff (hs : h.Sound) (leaderId : String)
    (term commitIndex : UInt64) (now : Nat) :
    (h.step c (.receiveHeartbeat leaderId term commitIndex now)).Sound ∧
        h.Advances (h.step c (.receiveHeartbeat leaderId term commitIndex now)) ↔
      h.Keeps c (.receiveHeartbeat leaderId term commitIndex now) := by
  change (RaftHistory.mk (h.node.receiveHeartbeat leaderId term commitIndex now) h.votedIn).Sound ∧
    h.Advances ⟨h.node.receiveHeartbeat leaderId term commitIndex now, h.votedIn⟩ ↔
      (h.node.currentTerm ≤ term → h.node.commitIndex ≤ commitIndex ∧
        commitIndex.toNat ≤ h.node.lastIndex ∧
          (h.node.votedFor = none ∨ term = h.node.currentTerm))
  rw [RaftNode.receiveHeartbeat]
  split
  · next hterm =>
    rw [forall_prop_of_true hterm]
    constructor
    · rintro ⟨hsound, -, hcommit⟩
      refine ⟨hcommit, hsound.committed, ?_⟩
      cases hv : h.node.votedFor with
      | none => exact .inl rfl
      | some name =>
        have hold := hs.voted name hv
        have hnew : h.votedIn = some term := hsound.voted name hv
        rw [hold] at hnew
        exact .inr (Option.some.inj hnew).symm
    · rintro ⟨hcommit, hlast, hvote⟩
      refine ⟨hs.of_log rfl hterm hlast ?_, hterm, hcommit⟩
      intro name hv
      change h.node.votedFor = some name at hv
      rcases hvote with hnone | hsame
      · rw [hnone] at hv
        cases hv
      · change h.votedIn = some term
        rw [hsame]
        exact hs.voted name hv
  · next hterm => exact iff_of_true ⟨hs, Advances.refl h⟩ (fun hle => (hterm hle).elim)

theorem RaftNode.lastIndex_append (n : RaftNode) (e : RaftLogEntry) :
    { n with log := n.log ++ [e] : RaftNode }.lastIndex = e.index := by
  rw [RaftNode.lastIndex, List.getLast?_append_cons, List.getLast?_singleton]
  rfl

theorem RaftHistory.Sound.lastIndex (hs : h.Sound) : h.node.lastIndex = h.node.log.length := by
  have hlast := congrArg List.getLast? hs.indices
  rw [List.getLast?_map, List.getLast?_range'] at hlast
  rw [RaftNode.lastIndex]
  cases he : h.node.log.getLast? with
  | none => rw [List.getLast?_eq_none_iff.mp he, Option.elim_none, List.length_nil]
  | some e =>
    rw [he, Option.map_some] at hlast
    split at hlast
    · cases hlast
    · have hindex := Option.some.inj hlast
      rw [Option.elim_some, hindex]
      omega

/-- An append by the leader keeps what a state owes; what it answers is another matter. -/
theorem RaftHistory.Sound.appendEntry (hs : h.Sound) (entryType : RaftEntryType) (data : Bytes) :
    (h.step c (.appendEntry entryType data)).Sound ∧
      h.Advances (h.step c (.appendEntry entryType data)) := by
  change (RaftHistory.mk (h.node.appendEntry entryType data).2 h.votedIn).Sound ∧
    h.Advances ⟨(h.node.appendEntry entryType data).2, h.votedIn⟩
  rw [RaftNode.appendEntry]
  split
  · exact ⟨hs, Advances.refl h⟩
  · refine ⟨⟨?_, ?_, ?_, ?_, hs.voted⟩, Advances.refl h⟩
    · change (h.node.log ++ [h.node.newEntry entryType data]).map _ =
        List.range' 1 (h.node.log ++ [h.node.newEntry entryType data]).length
      rw [List.map_append, List.length_append, List.length_singleton, List.range'_concat,
        hs.indices, Nat.one_mul, Nat.add_comm 1]
      rfl
    · change ((h.node.log ++ [h.node.newEntry entryType data]).map _).Pairwise _
      rw [List.map_append, List.pairwise_append]
      refine ⟨hs.terms, List.pairwise_singleton _ _, ?_⟩
      intro term hterm term' hterm'
      obtain ⟨e, he, rfl⟩ := List.mem_map.mp hterm
      rw [List.map_singleton, List.mem_singleton] at hterm'
      rw [hterm']
      exact hs.bounded e he
    · intro e he
      rcases List.mem_append.mp he with hold | hnew
      · exact hs.bounded e hold
      · rw [List.mem_singleton.mp hnew]
        exact UInt64.le_refl _
    · have hcommitted := hs.committed
      rw [hs.lastIndex] at hcommitted
      change h.node.commitIndex.toNat ≤ RaftNode.lastIndex { h.node with log := _ }
      rw [RaftNode.lastIndex_append]
      exact Nat.le_succ_of_le hcommitted

theorem RaftHistory.Sound.step_iff (hs : h.Sound) (op : RaftOp) :
    (h.step c op).Sound ∧ h.Advances (h.step c op) ↔ h.Keeps c op := by
  cases op with
  | startElection now => exact hs.startElection_iff now
  | becomeLeader =>
    refine iff_of_true ⟨?_, Advances.refl h⟩ trivial
    exact hs.of_log rfl (UInt64.le_refl _) hs.committed hs.voted
  | appendEntry entryType data => exact iff_of_true (hs.appendEntry entryType data) trivial
  | receiveHeartbeat leaderId term commitIndex now =>
    exact hs.receiveHeartbeat_iff leaderId term commitIndex now

/-- No append that succeeds answers the index of its entry: it answers the one before. -/
theorem RaftHistory.returnsIndex_iff (h : RaftHistory) (op : RaftOp) :
    h.ReturnsIndex op ↔ h.Refuses op := by
  cases op with
  | startElection now => exact Iff.rfl
  | becomeLeader => exact Iff.rfl
  | appendEntry entryType data =>
    change (∀ index, (h.node.appendEntry entryType data).1 = .ok index →
      (h.node.appendEntry entryType data).2.log.getLast?.map RaftLogEntry.index = some index) ↔
        h.node.role ≠ .leader
    rw [RaftNode.appendEntry]
    split
    · next hrole => exact iff_of_true (fun index hr => by cases hr) hrole
    · next hrole =>
      refine iff_of_false ?_ hrole
      intro hreturns
      have hlast := hreturns _ rfl
      rw [List.getLast?_append_cons, List.getLast?_singleton, Option.map_some,
        List.length_append, List.length_singleton, Option.some.injEq] at hlast
      change h.node.log.length + 1 = _ at hlast
      omega
  | receiveHeartbeat leaderId term commitIndex now => exact Iff.rfl

end Steps

section Runs
variable (overflowChecks : Bool) (id : String) (now : Nat) (ops : List RaftOp)

/-- Every state of a run is sound, none steps back behind an earlier one, and every append that
succeeds returns its entry's index. -/
structure ReplicatesSafely : Prop where
  states : ∀ ops', ops' <+: ops → ((RaftHistory.new id now).run overflowChecks ops').Sound
  advances : ∀ ops₁ ops₂, ops₁ ++ ops₂ <+: ops →
    ((RaftHistory.new id now).run overflowChecks ops₁).Advances
      ((RaftHistory.new id now).run overflowChecks (ops₁ ++ ops₂))
  returns : ∀ ops₁ op, ops₁ ++ [op] <+: ops →
    ((RaftHistory.new id now).run overflowChecks ops₁).ReturnsIndex op

theorem states_sound_iff :
    (∀ ops', ops' <+: ops → ((RaftHistory.new id now).run overflowChecks ops').Sound) ∧
        (∀ ops₁ ops₂, ops₁ ++ ops₂ <+: ops → ((RaftHistory.new id now).run overflowChecks
          ops₁).Advances ((RaftHistory.new id now).run overflowChecks (ops₁ ++ ops₂))) ↔
      Guarded (RaftHistory.step overflowChecks) (fun h op => h.Keeps overflowChecks op)
        (RaftHistory.new id now) ops := by
  unfold RaftHistory.run
  rw [forall_between_iff RaftHistory.Advances.refl RaftHistory.Advances.trans]
  exact forall_prefix_and_guarded_iff (RaftHistory.new_sound id now)
    (fun _ op hs => hs.step_iff op) ops

theorem returns_index_iff :
    (∀ ops₁ op, ops₁ ++ [op] <+: ops →
        ((RaftHistory.new id now).run overflowChecks ops₁).ReturnsIndex op) ↔
      Guarded (RaftHistory.step overflowChecks) RaftHistory.Refuses (RaftHistory.new id now)
        ops := by
  unfold RaftHistory.run
  rw [← guarded_iff_forall_step]
  exact guarded_congr RaftHistory.returnsIndex_iff

end Runs

theorem replicates_safely_iff (overflowChecks : Bool) (id : String) (now : Nat)
    (ops : List RaftOp) :
    ReplicatesSafely overflowChecks id now ops ↔
      Guarded (RaftHistory.step overflowChecks)
        (fun h op => h.Keeps overflowChecks op ∧ h.Refuses op) (RaftHistory.new id now) ops := by
  rw [guarded_and, ← states_sound_iff, ← returns_index_iff]
  constructor
  · intro h
    exact ⟨⟨h.states, h.advances⟩, h.returns⟩
  · rintro ⟨⟨hstates, hadvances⟩, hreturns⟩
    exact ⟨hstates, hadvances, hreturns⟩

/-- A leader's first append answers zero for the index one; a heartbeat commits seven entries of an
empty log; a heartbeat of a later term leaves the vote of the one before. -/
theorem replication_unsafe :
    ¬ ReplicatesSafely false "a" 0 [.startElection 0, .becomeLeader, .appendEntry .noOp []] ∧
      ¬ ReplicatesSafely false "a" 0 [.receiveHeartbeat "b" 1 7 0] ∧
      ¬ ReplicatesSafely false "a" 0 [.startElection 0, .receiveHeartbeat "b" 2 0 0] := by
  refine ⟨?_, ?_, ?_⟩
  · intro h
    have hreturns := h.returns [.startElection 0, .becomeLeader] (.appendEntry .noOp [])
      (List.prefix_refl _) 0 (by decide)
    exact absurd hreturns (by decide)
  · intro h
    exact absurd (h.states _ (List.prefix_refl _)).committed (by decide)
  · intro h
    exact absurd ((h.states _ (List.prefix_refl _)).voted "a" (by decide)) (by decide)

end P2PMesh.Raft
