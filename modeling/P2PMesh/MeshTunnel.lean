import Mathlib.Algebra.Order.BigOperators.Group.List
import Mathlib.Data.List.Perm.Subperm
import P2PMesh.Base.Run
import P2PMesh.Base.Net
import P2PMesh.PunchPacket

namespace P2PMesh.MeshTunnel
open P2PMesh.Base
open P2PMesh.Puncher
set_option autoImplicit true

/-- A datagram with the address that it says it comes from. -/
structure Datagram where
  source : SocketAddr
  destination : SocketAddr
  payload : Bytes
deriving DecidableEq

/-- What is sent to the source of a message. -/
def handlePunchMessage (msg : PunchMessage) (ownAddr srcAddr : SocketAddr) : Option Datagram :=
  match msg with
  | .hello nonce => some ⟨ownAddr, srcAddr, buildHelloAckPacket nonce⟩
  | .helloAck _ => none
  | .ping seq => some ⟨ownAddr, srcAddr, buildPong seq⟩
  | .pong _ => none
  | .data => none

/-- What the main loop of a client sends for a datagram that it gets. -/
def Datagram.reply (d : Datagram) : Option Datagram :=
  (parseMessageUnauthenticated d.payload).bind
    (fun msg => handlePunchMessage msg d.destination d.source)

/-- Clients at their addresses, what is under way between anybody, and what has been put in from
outside and sent by the clients so far. -/
structure TunnelNetwork where
  clients : List SocketAddr
  inFlight : List Datagram
  injected : List Datagram
  replies : List Datagram

/-- Anybody may put in whatever he wants, under any source, also what is there already; datagrams
arrive in any order or not at all. -/
inductive NetworkOp where
  | inject (d : Datagram)
  | deliver (i : Nat)
  | lose (i : Nat)

def TunnelNetwork.new (clients : List SocketAddr) : TunnelNetwork := ⟨clients, [], [], []⟩

section Network
variable (w : TunnelNetwork)

def TunnelNetwork.inject (d : Datagram) : TunnelNetwork :=
  { w with inFlight := w.inFlight ++ [d], injected := w.injected ++ [d] }

def TunnelNetwork.lose (i : Nat) : TunnelNetwork := { w with inFlight := w.inFlight.eraseIdx i }

def TunnelNetwork.deliver (i : Nat) : TunnelNetwork :=
  match w.inFlight[i]? with
  | none => w
  | some d =>
    if d.destination ∈ w.clients then
      { w with
        inFlight := w.inFlight.eraseIdx i ++ d.reply.toList
        replies := w.replies ++ d.reply.toList }
    else w.lose i

def TunnelNetwork.step : NetworkOp → TunnelNetwork
  | .inject d => w.inject d
  | .deliver i => w.deliver i
  | .lose i => w.lose i

def TunnelNetwork.run (ops : List NetworkOp) : TunnelNetwork := ops.foldl TunnelNetwork.step w

/-- The step takes a datagram that is under way. -/
def TunnelNetwork.Takes : NetworkOp → Prop
  | .inject _ => False
  | .deliver i => i < w.inFlight.length
  | .lose i => i < w.inFlight.length

end Network

section Replies
variable {d r : Datagram}

theorem Datagram.reply_eq_some (h : d.reply = some r) :
    ∃ seq, parseMessageUnauthenticated d.payload = some (.ping seq) ∧
      r = ⟨d.destination, d.source, buildPong seq⟩ := by
  obtain ⟨msg, hmsg, hr⟩ := Option.bind_eq_some_iff.mp h
  cases msg with
  | hello nonce => exact ((parseMessageUnauthenticated_ne_hello d.payload nonce).1 hmsg).elim
  | ping seq =>
    cases hr
    exact ⟨seq, hmsg, rfl⟩
  | helloAck nonce => cases hr
  | pong seq => cases hr
  | data => cases hr

theorem Datagram.reply_reply (h : d.reply = some r) : r.reply = none := by
  obtain ⟨seq, -, rfl⟩ := Datagram.reply_eq_some h
  have hpong := (parse_buildPong arithmeticSuite [] (.zero 16) seq).2
  rw [Datagram.reply, hpong]
  rfl

theorem length_of_ping {data : Bytes} {seq : UInt32}
    (h : parseMessageUnauthenticated data = some (.ping seq)) : 8 ≤ data.length := by
  rw [parseMessageUnauthenticated, nonceAt_eq_none, nonceAt_eq_none] at h
  split at h
  next => cases h
  next =>
    split at h
    next => cases h
    next =>
      split at h
      next => cases h
      next =>
        rw [Option.some.injEq, parseHeartbeat] at h
        split at h
        next => cases h
        next =>
          split at h
          next hp => exact hp.2
          next => cases h

theorem Datagram.reply_length (h : d.reply = some r) : r.payload.length ≤ d.payload.length := by
  obtain ⟨seq, hping, rfl⟩ := Datagram.reply_eq_some h
  have hpong : (buildPong seq).length = 8 := by simp [buildPong, ascii]
  exact hpong.trans_le (length_of_ping hping)

end Replies

def bytesOf (ds : List Datagram) : Nat := (ds.map (fun d => d.payload.length)).sum

/-- Each reply is one to a datagram that has been put in, and another one for each time the same
has been put in; it is a pong to a ping. -/
structure TunnelNetwork.Reflects (w : TunnelNetwork) : Prop where
  answered : (w.replies ++ w.inFlight.filterMap Datagram.reply).Subperm
    (w.injected.filterMap Datagram.reply)

section Reflection
variable {w : TunnelNetwork}

theorem TunnelNetwork.takes_perm {i : Nat} {d : Datagram} (h : w.inFlight[i]? = some d) :
    (d :: w.inFlight.eraseIdx i).Perm w.inFlight := by
  obtain ⟨hi, rfl⟩ := List.getElem?_eq_some_iff.mp h
  exact List.getElem_cons_eraseIdx_perm hi

theorem filterMap_reply_reply {d : Datagram} : d.reply.toList.filterMap Datagram.reply = [] := by
  cases h : d.reply with
  | none => rfl
  | some r =>
    rw [Option.toList_some, List.filterMap_cons_none (Datagram.reply_reply h)]
    rfl

theorem filterMap_cons_eq (d : Datagram) (l : List Datagram) :
    (d :: l).filterMap Datagram.reply = d.reply.toList ++ l.filterMap Datagram.reply := by
  cases h : d.reply with
  | none => rw [List.filterMap_cons_none h]; rfl
  | some r => rw [List.filterMap_cons_some h]; rfl

theorem TunnelNetwork.Reflects.lose (h : w.Reflects) (i : Nat) : (w.lose i).Reflects := by
  refine ⟨List.Subperm.trans (List.Sublist.subperm ?_) h.answered⟩
  exact List.Sublist.append_left (List.Sublist.filterMap _ (List.eraseIdx_sublist _ i)) _

theorem TunnelNetwork.Reflects.deliver (h : w.Reflects) (i : Nat) : (w.deliver i).Reflects := by
  rw [TunnelNetwork.deliver]
  split
  next => exact h
  next d hd =>
    split
    next =>
      have hperm := (TunnelNetwork.takes_perm hd).filterMap Datagram.reply
      rw [filterMap_cons_eq] at hperm
      refine ⟨List.Subperm.trans (List.Perm.subperm ?_) h.answered⟩
      rw [List.filterMap_append, filterMap_reply_reply, List.append_nil, List.append_assoc]
      exact hperm.append_left w.replies
    next => exact h.lose i

theorem TunnelNetwork.Reflects.inject (h : w.Reflects) (d : Datagram) : (w.inject d).Reflects := by
  refine ⟨?_⟩
  change (w.replies ++ (w.inFlight ++ [d]).filterMap Datagram.reply).Subperm
    ((w.injected ++ [d]).filterMap Datagram.reply)
  rw [List.filterMap_append, List.filterMap_append, ← List.append_assoc]
  exact (List.subperm_append_right _).mpr h.answered

theorem TunnelNetwork.Reflects.step (h : w.Reflects) (op : NetworkOp) : (w.step op).Reflects := by
  cases op with
  | inject d => exact h.inject d
  | deliver i => exact h.deliver i
  | lose i => exact h.lose i

theorem bytesOf_filterMap_le (l : List Datagram) :
    bytesOf (l.filterMap Datagram.reply) ≤ bytesOf l := by
  induction l with
  | nil => exact le_refl _
  | cons d l ih =>
    rw [bytesOf, bytesOf] at ih
    rw [bytesOf, bytesOf, filterMap_cons_eq, List.map_append, List.sum_append, List.map_cons,
      List.sum_cons]
    apply Nat.add_le_add _ ih
    cases h : d.reply with
    | none => exact Nat.zero_le _
    | some r => exact Datagram.reply_length h

end Reflection

section Quiescence
variable {w : TunnelNetwork}

/-- How many steps it can take until nothing is under way any more. -/
def TunnelNetwork.potential (w : TunnelNetwork) : Nat :=
  w.inFlight.length + (w.inFlight.filterMap Datagram.reply).length

theorem TunnelNetwork.potential_le (w : TunnelNetwork) : w.potential ≤ 2 * w.inFlight.length := by
  have hle := List.length_filterMap_le Datagram.reply w.inFlight
  rw [TunnelNetwork.potential]
  omega

theorem TunnelNetwork.potential_lose {i : Nat} (h : i < w.inFlight.length) :
    (w.lose i).potential < w.potential := by
  have hlength : (w.inFlight.eraseIdx i).length + 1 = w.inFlight.length :=
    List.length_eraseIdx_add_one h
  have hreplies := ((List.eraseIdx_sublist w.inFlight i).filterMap Datagram.reply).length_le
  change (w.inFlight.eraseIdx i).length +
    ((w.inFlight.eraseIdx i).filterMap Datagram.reply).length < w.potential
  rw [TunnelNetwork.potential]
  omega

theorem TunnelNetwork.potential_deliver {i : Nat} (h : i < w.inFlight.length) :
    (w.deliver i).potential < w.potential := by
  have hd : w.inFlight[i]? = some w.inFlight[i] := List.getElem?_eq_getElem h
  rw [TunnelNetwork.deliver, hd]
  dsimp only
  split
  next =>
    have hlength := (TunnelNetwork.takes_perm hd).length_eq
    have hreplies := ((TunnelNetwork.takes_perm hd).filterMap Datagram.reply).length_eq
    rw [filterMap_cons_eq, List.length_append] at hreplies
    rw [List.length_cons] at hlength
    rw [TunnelNetwork.potential, TunnelNetwork.potential]
    dsimp only
    rw [List.filterMap_append, filterMap_reply_reply, List.append_nil, List.length_append]
    omega
  next => exact TunnelNetwork.potential_lose h

/-- Without anything new the steps that take a datagram come to an end. -/
theorem TunnelNetwork.run_length_le {ops : List NetworkOp}
    (h : Guarded TunnelNetwork.step TunnelNetwork.Takes w ops) : ops.length ≤ w.potential := by
  induction ops generalizing w with
  | nil => exact Nat.zero_le _
  | cons op ops ih =>
    have hrest := ih h.2
    have hlt : (w.step op).potential < w.potential := by
      cases op with
      | inject d => exact h.1.elim
      | deliver i => exact TunnelNetwork.potential_deliver h.1
      | lose i => exact TunnelNetwork.potential_lose h.1
    rw [List.length_cons]
    omega

end Quiescence

/-- Whatever is put into a network of clients, under whatever sources: they send nothing but pongs
to pings that have been put in, one for each and not more bytes altogether, and once nothing more
is put in, nothing is under way after two steps for each datagram that was. -/
theorem TunnelNetwork.run_reflects (clients : List SocketAddr) (ops : List NetworkOp) :
    let w := (TunnelNetwork.new clients).run ops
    w.replies.Subperm (w.injected.filterMap Datagram.reply) ∧
      (∀ r ∈ w.replies, ∃ d ∈ w.injected, ∃ seq,
        parseMessageUnauthenticated d.payload = some (.ping seq) ∧
          r = ⟨d.destination, d.source, buildPong seq⟩) ∧
      bytesOf w.replies ≤ bytesOf w.injected ∧
      ∀ ops', Guarded TunnelNetwork.step TunnelNetwork.Takes w ops' →
        ops'.length ≤ 2 * w.inFlight.length := by
  intro w
  have h : w.Reflects := run_invariant (I := TunnelNetwork.Reflects) _
    ⟨List.Subperm.refl _⟩ (fun w op h => h.step op) ops
  have hreplies : w.replies.Subperm (w.injected.filterMap Datagram.reply) :=
    (List.sublist_append_left _ _).subperm.trans h.answered
  refine ⟨hreplies, ?_, ?_, ?_⟩
  · intro r hr
    obtain ⟨d, hd, hreply⟩ := List.mem_filterMap.mp (hreplies.subset hr)
    obtain ⟨seq, hping, rfl⟩ := Datagram.reply_eq_some hreply
    exact ⟨d, hd, seq, hping, rfl⟩
  · obtain ⟨l, hperm, hsub⟩ := hreplies
    calc bytesOf w.replies = bytesOf l := (hperm.symm.map _).sum_eq
      _ ≤ bytesOf (w.injected.filterMap Datagram.reply) :=
        (hsub.map _).sum_le_sum (fun _ _ => Nat.zero_le _)
      _ ≤ bytesOf w.injected := bytesOf_filterMap_le _
  · intro ops' hops
    exact (TunnelNetwork.run_length_le hops).trans w.potential_le

end P2PMesh.MeshTunnel
