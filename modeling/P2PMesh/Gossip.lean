import P2PMesh.Base.Net
import P2PMesh.Base.Register
import P2PMesh.Base.Table

namespace P2PMesh.Gossip
open P2PMesh.Base
set_option autoImplicit true

inductive MemberState where
  | alive
  | suspect
  | dead
  | left
deriving DecidableEq

/-- A member of the mesh; instants are counted in nanoseconds. -/
structure GossipMember where
  deviceId : String
  addr : SocketAddr
  state : MemberState
  incarnation : UInt64
  lastChanged : Nat
  metadata : List (String × String)
deriving DecidableEq

inductive GossipMessage where
  | ping (seqNum : UInt64) (target : String)
  | ack (seqNum : UInt64) (source : String)
  | indirectPing (seqNum : UInt64) (target requester : String)
  | membershipUpdate (members : List GossipMember)
  | topologyChange (linkId changeType : String) (metadata : List (String × String))
  | relayElection (region : String) (relays : List String)
deriving DecidableEq

abbrev Members := Std.TreeMap String GossipMember

structure GossipProtocol where
  ourId : String
  ourAddr : SocketAddr
  members : Members
  incarnation : UInt64
  seqNum : UInt64

def GossipProtocol.new (ourId : String) (ourAddr : SocketAddr) : GossipProtocol :=
  ⟨ourId, ourAddr, ∅, 0, 0⟩

/-- A record takes the place of another one of its member only if its incarnation is newer. -/
def insertNewer (members : Members) (member : GossipMember) : Members :=
  match members[member.deviceId]? with
  | some existing =>
    if existing.incarnation < member.incarnation then members.insert member.deviceId member
    else members
  | none => members.insert member.deviceId member

section Protocol
variable (g : GossipProtocol)

/-- What the node has recorded of a device. -/
def GossipProtocol.member (deviceId : String) : Option GossipMember := g.members[deviceId]?

def GossipProtocol.ownMember (now : Nat) : GossipMember where
  deviceId := g.ourId
  addr := g.ourAddr
  state := .alive
  incarnation := 0
  lastChanged := now
  metadata := []

def GossipProtocol.join (now : Nat) : GossipProtocol :=
  { g with members := g.members.insert g.ourId (g.ownMember now) }

def GossipProtocol.addMember (member : GossipMember) : GossipProtocol :=
  { g with members := insertNewer g.members member }

/-- A random one of the others that are alive. -/
def GossipProtocol.selectRandomPeer (draw : Nat) : Option GossipMember :=
  let alive := (g.members.toList.map (·.2)).filter
    (fun m => m.deviceId ≠ g.ourId ∧ m.state = .alive)
  if alive.isEmpty then none else alive[draw % alive.length]?

def GossipProtocol.buildPing (draw : Nat) : GossipProtocol × Option (GossipMessage × String) :=
  match g.selectRandomPeer draw with
  | none => (g, none)
  | some target =>
    let seq := g.seqNum + 1
    ({ g with seqNum := seq }, some (.ping seq target.deviceId, target.deviceId))

/-- A member that is recorded gets another state, whatever its incarnation. -/
def GossipProtocol.mark (state : MemberState) (deviceId : String) (now : Nat) : GossipProtocol :=
  match g.members[deviceId]? with
  | some member =>
    let member := { member with state := state, lastChanged := now }
    { g with members := g.members.insert deviceId member }
  | none => g

def GossipProtocol.markSuspect (deviceId : String) (now : Nat) : GossipProtocol :=
  g.mark .suspect deviceId now

def GossipProtocol.markDead (deviceId : String) (now : Nat) : GossipProtocol :=
  g.mark .dead deviceId now

/-- One record of an update; the node's own record stays as it is, and a rumor of its death
counts up its incarnation, which wraps after the largest one. -/
def GossipProtocol.receiveMember (member : GossipMember) : GossipProtocol :=
  if member.deviceId = g.ourId then
    if member.state = .dead then { g with incarnation := g.incarnation + 1 } else g
  else { g with members := insertNewer g.members member }

def GossipProtocol.processMessage (msg : GossipMessage) (now : Nat) :
    GossipProtocol × Option GossipMessage :=
  match msg with
  | .ping seqNum target => (g, if target = g.ourId then some (.ack seqNum g.ourId) else none)
  | .ack _ source => (g.mark .alive source now, none)
  | .indirectPing seqNum target _ =>
    (g, if target ≠ g.ourId then some (.ping seqNum target) else none)
  | .membershipUpdate members => (members.foldl GossipProtocol.receiveMember g, none)
  | .topologyChange _ _ _ => (g, none)
  | .relayElection _ _ => (g, none)

/-- The records of an update. -/
def GossipProtocol.snapshot : List GossipMember := g.members.toList.map (·.2)

def GossipProtocol.buildMembershipUpdate : GossipMessage := .membershipUpdate g.snapshot

end Protocol

/-- The calls that change a node, each with the clock it reads or its random draw. -/
inductive GossipOp where
  | join (now : Nat)
  | addMember (member : GossipMember)
  | buildPing (draw : Nat)
  | processMessage (msg : GossipMessage) (now : Nat)
  | markSuspect (deviceId : String) (now : Nat)
  | markDead (deviceId : String) (now : Nat)

def GossipProtocol.step (g : GossipProtocol) : GossipOp → GossipProtocol
  | .join now => g.join now
  | .addMember member => g.addMember member
  | .buildPing draw => (g.buildPing draw).1
  | .processMessage msg now => (g.processMessage msg now).1
  | .markSuspect deviceId now => g.markSuspect deviceId now
  | .markDead deviceId now => g.markDead deviceId now

def GossipProtocol.run (g : GossipProtocol) (ops : List GossipOp) : GossipProtocol :=
  ops.foldl GossipProtocol.step g

/-- What becomes of the record of a device when a record comes in. -/
def takeNewer (deviceId : String) (slot : Option GossipMember) (member : GossipMember) :
    Option GossipMember :=
  if member.deviceId = deviceId then keepHigher (fun m => m.incarnation.toNat) slot member else slot

section Members
variable {g : GossipProtocol} {d : String}

@[simp] theorem member_new (ourId : String) (ourAddr : SocketAddr) :
    (GossipProtocol.new ourId ourAddr).member d = none := Std.TreeMap.getElem?_emptyc

theorem getElem?_insertNewer (members : Members) (member : GossipMember) :
    (insertNewer members member)[d]? = takeNewer d members[d]? member := by
  rw [insertNewer, takeNewer]
  by_cases hd : member.deviceId = d
  · cases hd
    rw [if_pos rfl]
    cases hm : members[member.deviceId]? with
    | none =>
      rw [Std.TreeMap.getElem?_insert_self]
      rfl
    | some existing =>
      simp only [keepHigher, UInt64.lt_iff_toNat_lt]
      split
      · rw [Std.TreeMap.getElem?_insert_self]
      · exact hm
  · rw [if_neg hd]
    split
    · split
      · exact getElem?_insert_of_ne _ _ hd
      · rfl
    · exact getElem?_insert_of_ne _ _ hd

theorem member_join (now : Nat) :
    (g.join now).member d = if g.ourId = d then some (g.ownMember now) else g.member d :=
  getElem?_insert_eq _ _ _ _

theorem member_addMember (member : GossipMember) :
    (g.addMember member).member d = takeNewer d (g.member d) member :=
  getElem?_insertNewer _ _

theorem member_mark (state : MemberState) (deviceId : String) (now : Nat) :
    (g.mark state deviceId now).member d =
      if deviceId = d then (g.member d).map (fun m => { m with state := state, lastChanged := now })
      else g.member d := by
  simp only [GossipProtocol.mark]
  split
  · next member hm =>
    refine (getElem?_insert_eq _ _ _ _).trans ?_
    split
    · next hd =>
      cases hd
      rw [GossipProtocol.member, hm]
      rfl
    · rfl
  · next hm =>
    split
    · next hd =>
      cases hd
      rw [GossipProtocol.member, hm]
      rfl
    · rfl

@[simp] theorem member_buildPing (draw : Nat) : (g.buildPing draw).1.member d = g.member d := by
  rw [GossipProtocol.buildPing]
  split <;> rfl

theorem member_receiveMember (member : GossipMember) :
    (g.receiveMember member).member d = if member.deviceId = g.ourId then g.member d
      else takeNewer d (g.member d) member := by
  rw [GossipProtocol.receiveMember]
  split
  · split <;> rfl
  · exact getElem?_insertNewer _ _

@[simp] theorem ourId_receiveMember (member : GossipMember) :
    (g.receiveMember member).ourId = g.ourId := by
  rw [GossipProtocol.receiveMember]
  split
  · split <;> rfl
  · rfl

theorem member_foldl_receiveMember (members : List GossipMember) :
    (members.foldl GossipProtocol.receiveMember g).member d =
      (members.filter (fun m => m.deviceId ≠ g.ourId)).foldl (takeNewer d) (g.member d) := by
  induction members generalizing g with
  | nil => rfl
  | cons member members ih =>
    rw [List.foldl_cons, ih, member_receiveMember, ourId_receiveMember]
    by_cases hown : member.deviceId = g.ourId
    · rw [if_pos hown, List.filter_cons_of_neg (by simpa using hown)]
    · rw [if_neg hown, List.filter_cons_of_pos (by simpa using hown), List.foldl_cons]

end Members

/-- Every record stands under the id of its device. -/
def GossipProtocol.Keyed (g : GossipProtocol) : Prop :=
  ∀ d m, g.member d = some m → m.deviceId = d

theorem takeNewer_cases (h : takeNewer d slot member = some m) :
    slot = some m ∨ member = m ∧ member.deviceId = d := by
  rw [takeNewer] at h
  split at h
  · next hd =>
    cases slot with
    | none => exact Or.inr ⟨Option.some.inj h, hd⟩
    | some existing =>
      rw [keepHigher] at h
      split at h
      · exact Or.inr ⟨Option.some.inj h, hd⟩
      · exact Or.inl h
  · exact Or.inl h

theorem GossipProtocol.Keyed.of_mark {g : GossipProtocol} (h : g.Keyed) (state : MemberState)
    (deviceId : String) (now : Nat) : (g.mark state deviceId now).Keyed := by
  intro d m hm
  rw [member_mark] at hm
  split at hm
  · obtain ⟨m₀, hm₀, he⟩ := Option.map_eq_some_iff.mp hm
    rw [← he]
    exact h d m₀ hm₀
  · exact h d m hm

theorem GossipProtocol.Keyed.of_takeNewer {g g' : GossipProtocol} (h : g.Keyed)
    (members : List GossipMember)
    (hg : ∀ d, g'.member d = members.foldl (takeNewer d) (g.member d)) : g'.Keyed := by
  intro d
  rw [hg d]
  apply run_invariant (takeNewer d) (I := fun slot => ∀ m, slot = some m → m.deviceId = d) (h d)
  intro slot member hslot m hm
  rcases takeNewer_cases hm with hold | ⟨rfl, hd⟩
  · exact hslot m hold
  · exact hd

theorem GossipProtocol.Keyed.step {g : GossipProtocol} (h : g.Keyed) (op : GossipOp) :
    (g.step op).Keyed := by
  cases op with
  | join now =>
    intro d m hm
    rw [GossipProtocol.step, member_join] at hm
    split at hm
    · next hd =>
      cases hm
      exact hd
    · exact h d m hm
  | addMember member => exact h.of_takeNewer [member] (fun _ => member_addMember member)
  | buildPing draw =>
    intro d m hm
    rw [GossipProtocol.step, member_buildPing] at hm
    exact h d m hm
  | processMessage msg now =>
    cases msg with
    | ack seqNum source => exact h.of_mark .alive source now
    | membershipUpdate members =>
      exact h.of_takeNewer _ (fun _ => member_foldl_receiveMember members)
    | _ => exact h
  | markSuspect deviceId now => exact h.of_mark .suspect deviceId now
  | markDead deviceId now => exact h.of_mark .dead deviceId now

theorem keyed_run (ourId : String) (ourAddr : SocketAddr) (ops : List GossipOp) :
    ((GossipProtocol.new ourId ourAddr).run ops).Keyed := by
  apply run_invariant GossipProtocol.step (I := fun g => g.Keyed) _ (fun _ op h => h.step op)
  intro d m hm
  rw [member_new] at hm
  cases hm

end P2PMesh.Gossip
