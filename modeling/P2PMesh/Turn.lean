import P2PMesh.Base.Machine
import P2PMesh.Base.Net
import P2PMesh.Base.Run
import P2PMesh.Base.Table

namespace P2PMesh.Turn
open P2PMesh.Base
set_option autoImplicit true

/-- Instants and durations are counted in nanoseconds. -/
def seconds (n : Nat) : Nat := n * 1000000000

def defaultLifetime : Nat := seconds 600

def maxLifetime : Nat := seconds 3600

structure Allocation where
  clientAddr : SocketAddr
  relayedAddr : SocketAddr
  createdAt : Nat
  expiresAt : Nat
  lifetime : Nat
  nonce : String
  realm : String
  channelBindings : Std.TreeMap UInt16 SocketAddr
  bytesSent : UInt64
  bytesReceived : UInt64
  bandwidthLimit : UInt64
  username : String

inductive TurnError where
  | unauthorized
  | allocationNotFound
  | allocationExpired
  | allocationQuotaExceeded
  | noAvailablePorts
  | invalidChannelNumber
  | bandwidthExceeded
deriving DecidableEq

def TurnError.text : TurnError → String
  | .unauthorized => "Authentication failed"
  | .allocationNotFound => "Allocation not found"
  | .allocationExpired => "Allocation expired"
  | .allocationQuotaExceeded => "Allocation quota exceeded for this IP"
  | .noAvailablePorts => "No available relay ports"
  | .invalidChannelNumber => "Invalid channel number (must be 0x4000-0x7FFF)"
  | .bandwidthExceeded => "Bandwidth limit exceeded"

structure AllocateResponse where
  relayedAddr : SocketAddr
  lifetime : Nat
  nonce : String
  realm : String
deriving DecidableEq

structure TurnServer where
  allocations : Std.TreeMap SocketAddr Allocation
  credentials : Std.TreeMap String String
  realm : String
  serverAddr : SocketAddr
  maxAllocationsPerIp : Nat

def TurnServer.new (bindAddr : SocketAddr) (realm : String) : TurnServer :=
  ⟨∅, ∅, realm, bindAddr, 10⟩

def chosenLifetime (requestedLifetime : Option Nat) : Nat :=
  max (min (requestedLifetime.getD defaultLifetime) maxLifetime) (seconds 60)

/-- The ports from 50000 to 59999, in the order in which they are tried. -/
def relayPorts : List UInt16 := (List.range' 50000 10000).map UInt16.ofNat

section Server
variable (s : TurnServer)

/-- The allocation that stands under a relayed address. -/
def TurnServer.allocation (relayedAddr : SocketAddr) : Option Allocation :=
  s.allocations[relayedAddr]?

def TurnServer.addCredential (username password : String) : TurnServer :=
  { s with credentials := s.credentials.insert username password }

def TurnServer.verifyCredentials (username password : String) : Except TurnError Unit :=
  match s.credentials[username]? with
  | some expected => if expected = password then .ok () else .error .unauthorized
  | none => .error .unauthorized

def TurnServer.ipCount (ip : IpAddr) : Nat :=
  s.allocations.toList.countP (fun e => e.2.clientAddr.ip = ip)

def TurnServer.checkQuota (clientAddr : SocketAddr) : Except TurnError Unit :=
  if s.maxAllocationsPerIp ≤ s.ipCount clientAddr.ip then .error .allocationQuotaExceeded
  else .ok ()

def TurnServer.relayAddr (port : UInt16) : SocketAddr := ⟨s.serverAddr.ip, port⟩

def TurnServer.assignPort : Except TurnError UInt16 :=
  match relayPorts.find? (fun port => (s.allocation (s.relayAddr port)).isNone) with
  | some port => .ok port
  | none => .error .noAvailablePorts

/-- The record of a new allocation, made outside of the lock. -/
def TurnServer.prepare (clientAddr : SocketAddr) (username : String)
    (requestedLifetime : Option Nat) (port : UInt16) (now : Nat) (nonce : String) : Allocation :=
  let lifetime := chosenLifetime requestedLifetime
  { clientAddr := clientAddr
    relayedAddr := s.relayAddr port
    createdAt := now
    expiresAt := now + lifetime
    lifetime := lifetime
    nonce := nonce
    realm := s.realm
    channelBindings := ∅
    bytesSent := 0
    bytesReceived := 0
    bandwidthLimit := 0
    username := username }

/-- The allocation under a relayed address, if there is one, is changed in place. -/
def TurnServer.modify (relayedAddr : SocketAddr) (f : Allocation → Allocation) : TurnServer :=
  { s with allocations := s.allocations.modify relayedAddr f }

def TurnServer.insert (a : Allocation) : TurnServer :=
  { s with allocations := s.allocations.insert a.relayedAddr a }

def Allocation.response (a : Allocation) : AllocateResponse :=
  ⟨a.relayedAddr, a.lifetime, a.nonce, a.realm⟩

/-- An allocate request that no other call interrupts. -/
def TurnServer.handleAllocate (clientAddr : SocketAddr) (username password : String)
    (requestedLifetime : Option Nat) (now : Nat) (nonce : String) :
    TurnServer × Except TurnError AllocateResponse :=
  match s.verifyCredentials username password with
  | .error e => (s, .error e)
  | .ok () =>
    match s.checkQuota clientAddr with
    | .error e => (s, .error e)
    | .ok () =>
      match s.assignPort with
      | .error e => (s, .error e)
      | .ok port =>
        let allocation := s.prepare clientAddr username requestedLifetime port now nonce
        (s.insert allocation, .ok allocation.response)

def Allocation.refresh (lifetime now : Nat) (a : Allocation) : Allocation :=
  let newLifetime := min lifetime maxLifetime
  { a with lifetime := newLifetime, expiresAt := now + newLifetime }

/-- A refresh asks for the owner of the allocation and not for its expiry. -/
def TurnServer.handleRefresh (clientAddr relayedAddr : SocketAddr) (lifetime now : Nat) :
    TurnServer × Except TurnError Nat :=
  match s.allocation relayedAddr with
  | none => (s, .error .allocationNotFound)
  | some a =>
    if a.clientAddr ≠ clientAddr then (s, .error .unauthorized)
    else (s.modify relayedAddr (Allocation.refresh lifetime now), .ok (min lifetime maxLifetime))

def Allocation.bind (channelNumber : UInt16) (peerAddr : SocketAddr) (a : Allocation) :
    Allocation :=
  { a with channelBindings := a.channelBindings.insert channelNumber peerAddr }

/-- Neither does the binding of a channel, which reads no clock at all. -/
def TurnServer.handleChannelBind (clientAddr relayedAddr : SocketAddr) (channelNumber : UInt16)
    (peerAddr : SocketAddr) : TurnServer × Except TurnError Unit :=
  if ¬ (0x4000 ≤ channelNumber ∧ channelNumber ≤ 0x7FFF) then (s, .error .invalidChannelNumber)
  else
    match s.allocation relayedAddr with
    | none => (s, .error .allocationNotFound)
    | some a =>
      if a.clientAddr ≠ clientAddr then (s, .error .unauthorized)
      else (s.modify relayedAddr (Allocation.bind channelNumber peerAddr), .ok ())

/-- The checks of a send, under the read lock. -/
def TurnServer.checkSend (clientAddr relayedAddr : SocketAddr) (now : Nat) :
    Except TurnError Unit :=
  match s.allocation relayedAddr with
  | none => .error .allocationNotFound
  | some a =>
    if a.clientAddr ≠ clientAddr then .error .unauthorized
    else if a.expiresAt < now then .error .allocationExpired
    else if 0 < a.bandwidthLimit ∧ a.bandwidthLimit < a.bytesSent then .error .bandwidthExceeded
    else .ok ()

def Allocation.charge (data : Bytes) (a : Allocation) : Allocation :=
  { a with bytesSent := saturatingAddU64 a.bytesSent (.ofNat data.length) }

/-- The second half of a send, under the write lock: whatever allocation stands under the address
by then is charged. -/
def TurnServer.charge (relayedAddr : SocketAddr) (data : Bytes) : TurnServer :=
  s.modify relayedAddr (Allocation.charge data)

/-- A send that no other call interrupts. -/
def TurnServer.handleSend (clientAddr relayedAddr : SocketAddr) (data : Bytes) (now : Nat) :
    TurnServer × Except TurnError Unit :=
  match s.checkSend clientAddr relayedAddr now with
  | .error e => (s, .error e)
  | .ok () => (s.charge relayedAddr data, .ok ())

def TurnServer.cleanupExpired (now : Nat) : TurnServer × Nat :=
  let kept := s.allocations.filter (fun _ a => now < a.expiresAt)
  ({ s with allocations := kept }, s.allocations.size - kept.size)

def TurnServer.releaseAllocation (relayedAddr : SocketAddr) : TurnServer :=
  { s with allocations := s.allocations.erase relayedAddr }

end Server

/-- Where a call stands that takes the lock more than once. -/
inductive TurnTask where
  | verified (clientAddr : SocketAddr) (username : String) (requestedLifetime : Option Nat)
  | underQuota (clientAddr : SocketAddr) (username : String) (requestedLifetime : Option Nat)
  | assigned (clientAddr : SocketAddr) (username : String) (requestedLifetime : Option Nat)
    (port : UInt16)
  | prepared (allocation : Allocation)
  | allocated (result : Except TurnError AllocateResponse)
  | checked (relayedAddr : SocketAddr) (data : Bytes)
  | sent (result : Except TurnError Unit)

/-- A server with the calls that are under way. -/
structure TurnSystem where
  server : TurnServer
  tasks : Nat → Option TurnTask

/-- One lock acquisition of a call, or the clock reading and the random nonce between two. -/
inductive TurnOp where
  | addCredential (username password : String)
  | allocate (id : Nat) (clientAddr : SocketAddr) (username password : String)
    (requestedLifetime : Option Nat)
  | checkQuota (id : Nat)
  | assignPort (id : Nat)
  | prepare (id : Nat) (now : Nat) (nonce : String)
  | insert (id : Nat)
  | refresh (clientAddr relayedAddr : SocketAddr) (lifetime now : Nat)
  | channelBind (clientAddr relayedAddr : SocketAddr) (channelNumber : UInt16)
    (peerAddr : SocketAddr) (now : Nat)
  | send (id : Nat) (clientAddr relayedAddr peerAddr : SocketAddr) (data : Bytes) (now : Nat)
  | charge (id : Nat)
  | cleanup (now : Nat)
  | release (relayedAddr : SocketAddr)

def TurnSystem.new (bindAddr : SocketAddr) (realm : String) : TurnSystem :=
  ⟨.new bindAddr realm, fun _ => none⟩

def TurnSystem.at (t : TurnSystem) (id : Nat) (task : TurnTask) : TurnSystem :=
  { t with tasks := Function.update t.tasks id (some task) }

def TurnSystem.step (t : TurnSystem) : TurnOp → TurnSystem
  | .addCredential username password =>
    { t with server := t.server.addCredential username password }
  | .allocate id clientAddr username password requestedLifetime =>
    match t.tasks id with
    | none =>
      match t.server.verifyCredentials username password with
      | .ok () => t.at id (.verified clientAddr username requestedLifetime)
      | .error e => t.at id (.allocated (.error e))
    | some _ => t
  | .checkQuota id =>
    match t.tasks id with
    | some (.verified clientAddr username requestedLifetime) =>
      match t.server.checkQuota clientAddr with
      | .ok () => t.at id (.underQuota clientAddr username requestedLifetime)
      | .error e => t.at id (.allocated (.error e))
    | _ => t
  | .assignPort id =>
    match t.tasks id with
    | some (.underQuota clientAddr username requestedLifetime) =>
      match t.server.assignPort with
      | .ok port => t.at id (.assigned clientAddr username requestedLifetime port)
      | .error e => t.at id (.allocated (.error e))
    | _ => t
  | .prepare id now nonce =>
    match t.tasks id with
    | some (.assigned clientAddr username requestedLifetime port) =>
      t.at id (.prepared (t.server.prepare clientAddr username requestedLifetime port now nonce))
    | _ => t
  | .insert id =>
    match t.tasks id with
    | some (.prepared allocation) =>
      { t with server := t.server.insert allocation }.at id (.allocated (.ok allocation.response))
    | _ => t
  | .refresh clientAddr relayedAddr lifetime now =>
    { t with server := (t.server.handleRefresh clientAddr relayedAddr lifetime now).1 }
  | .channelBind clientAddr relayedAddr channelNumber peerAddr _ =>
    { t with
      server := (t.server.handleChannelBind clientAddr relayedAddr channelNumber peerAddr).1 }
  | .send id clientAddr relayedAddr _ data now =>
    match t.tasks id with
    | none =>
      match t.server.checkSend clientAddr relayedAddr now with
      | .ok () => t.at id (.checked relayedAddr data)
      | .error e => t.at id (.sent (.error e))
    | some _ => t
  | .charge id =>
    match t.tasks id with
    | some (.checked relayedAddr data) =>
      { t with server := t.server.charge relayedAddr data }.at id (.sent (.ok ()))
    | _ => t
  | .cleanup now => { t with server := (t.server.cleanupExpired now).1 }
  | .release relayedAddr => { t with server := t.server.releaseAllocation relayedAddr }

def TurnSystem.run (t : TurnSystem) (ops : List TurnOp) : TurnSystem := ops.foldl TurnSystem.step t

/-- The writes of the table of allocations, with what the writer holds at that moment. -/
inductive TurnWrite where
  | insert (allocation : Allocation)
  | refresh (clientAddr relayedAddr : SocketAddr) (lifetime now : Nat)
  | channelBind (clientAddr relayedAddr : SocketAddr) (channelNumber : UInt16)
    (peerAddr : SocketAddr)
  | charge (id : Nat) (relayedAddr : SocketAddr) (data : Bytes)
  | cleanup (now : Nat)
  | release (relayedAddr : SocketAddr)

def TurnServer.write (s : TurnServer) : TurnWrite → TurnServer
  | .insert allocation => s.insert allocation
  | .refresh clientAddr relayedAddr lifetime now =>
    (s.handleRefresh clientAddr relayedAddr lifetime now).1
  | .channelBind clientAddr relayedAddr channelNumber peerAddr =>
    (s.handleChannelBind clientAddr relayedAddr channelNumber peerAddr).1
  | .charge _ relayedAddr data => s.charge relayedAddr data
  | .cleanup now => (s.cleanupExpired now).1
  | .release relayedAddr => s.releaseAllocation relayedAddr

/-- The write that a step makes; a call that only reads or has not come so far makes none. -/
def TurnSystem.writeOf (t : TurnSystem) : TurnOp → Option TurnWrite
  | .insert id =>
    match t.tasks id with
    | some (.prepared allocation) => some (.insert allocation)
    | _ => none
  | .refresh clientAddr relayedAddr lifetime now =>
    some (.refresh clientAddr relayedAddr lifetime now)
  | .channelBind clientAddr relayedAddr channelNumber peerAddr _ =>
    some (.channelBind clientAddr relayedAddr channelNumber peerAddr)
  | .charge id =>
    match t.tasks id with
    | some (.checked relayedAddr data) => some (.charge id relayedAddr data)
    | _ => none
  | .cleanup now => some (.cleanup now)
  | .release relayedAddr => some (.release relayedAddr)
  | _ => none

/-- The clock that a step reads. -/
def TurnOp.reading : TurnOp → Option Nat
  | .prepare _ now _ => some now
  | .refresh _ _ _ now => some now
  | .channelBind _ _ _ _ now => some now
  | .send _ _ _ _ _ now => some now
  | .cleanup now => some now
  | _ => none

section Steps
variable {s : TurnServer} {t : TurnSystem}

@[simp] theorem server_at (t : TurnSystem) (id : Nat) (task : TurnTask) :
    (t.at id task).server = t.server := rfl

@[simp] theorem tasks_at (t : TurnSystem) (id : Nat) (task : TurnTask) :
    (t.at id task).tasks id = some task := Function.update_self ..

@[simp] theorem at_at (t : TurnSystem) (id : Nat) (task task' : TurnTask) :
    (t.at id task).at id task' = t.at id task' := by
  rw [TurnSystem.at, TurnSystem.at, TurnSystem.at, Function.update_idem]

@[simp] theorem at_server (t : TurnSystem) (s : TurnServer) (id : Nat) (task task' : TurnTask) :
    { t.at id task with server := s }.at id task' = { t with server := s }.at id task' := by
  rw [TurnSystem.at, TurnSystem.at, TurnSystem.at, Function.update_idem]

/-- An allocate request whose steps follow each other is the handler. -/
theorem run_allocate {id : Nat} (hid : t.tasks id = none) (clientAddr : SocketAddr)
    (username password : String) (requestedLifetime : Option Nat) (now : Nat) (nonce : String) :
    t.run [.allocate id clientAddr username password requestedLifetime, .checkQuota id,
        .assignPort id, .prepare id now nonce, .insert id] =
      let (server, result) :=
        t.server.handleAllocate clientAddr username password requestedLifetime now nonce
      { t with server := server }.at id (.allocated result) := by
  simp only [TurnSystem.run, List.foldl_cons, List.foldl_nil, TurnServer.handleAllocate]
  cases hv : t.server.verifyCredentials username password with
  | error e => simp [TurnSystem.step, hid, hv]
  | ok u =>
    cases hq : t.server.checkQuota clientAddr with
    | error e => simp [TurnSystem.step, hid, hv, hq]
    | ok u =>
      cases hp : t.server.assignPort with
      | error e => simp [TurnSystem.step, hid, hv, hq, hp]
      | ok port => simp [TurnSystem.step, hid, hv, hq, hp]

theorem run_send {id : Nat} (hid : t.tasks id = none) (clientAddr relayedAddr peerAddr : SocketAddr)
    (data : Bytes) (now : Nat) :
    t.run [.send id clientAddr relayedAddr peerAddr data now, .charge id] =
      let (server, result) := t.server.handleSend clientAddr relayedAddr data now
      { t with server := server }.at id (.sent result) := by
  simp only [TurnSystem.run, List.foldl_cons, List.foldl_nil, TurnServer.handleSend]
  cases hc : t.server.checkSend clientAddr relayedAddr now with
  | error e => simp [TurnSystem.step, hid, hc]
  | ok u => simp [TurnSystem.step, hid, hc]

theorem handleRefresh_cases (s : TurnServer) (c r : SocketAddr) (lifetime now : Nat) :
    (s.handleRefresh c r lifetime now).1 = s ∨
      (s.handleRefresh c r lifetime now).1 = s.modify r (Allocation.refresh lifetime now) := by
  unfold TurnServer.handleRefresh
  split
  · exact Or.inl rfl
  · split
    · exact Or.inl rfl
    · exact Or.inr rfl

theorem handleChannelBind_cases (s : TurnServer) (c r : SocketAddr) (channelNumber : UInt16)
    (peerAddr : SocketAddr) :
    (s.handleChannelBind c r channelNumber peerAddr).1 = s ∨
      (s.handleChannelBind c r channelNumber peerAddr).1 =
        s.modify r (Allocation.bind channelNumber peerAddr) := by
  unfold TurnServer.handleChannelBind
  split
  · exact Or.inl rfl
  · split
    · exact Or.inl rfl
    · split
      · exact Or.inl rfl
      · exact Or.inr rfl

theorem TurnServer.write_maxAllocationsPerIp (s : TurnServer) (w : TurnWrite) :
    (s.write w).maxAllocationsPerIp = s.maxAllocationsPerIp := by
  cases w with
  | refresh c r lifetime now =>
    rcases handleRefresh_cases s c r lifetime now with h | h <;> rw [TurnServer.write, h]
    rfl
  | channelBind c r channelNumber peerAddr =>
    rcases handleChannelBind_cases s c r channelNumber peerAddr with h | h <;>
      rw [TurnServer.write, h]
    rfl
  | _ => rfl

/-- A step writes the table at most once; only a new credential changes anything else. -/
theorem TurnSystem.step_server (t : TurnSystem) (op : TurnOp) :
    (∃ username password, op = .addCredential username password) ∨
      (t.step op).server = (t.writeOf op).elim t.server t.server.write := by
  cases op with
  | addCredential username password => exact Or.inl ⟨username, password, rfl⟩
  | insert _ | charge _ =>
    right
    simp only [TurnSystem.step, TurnSystem.writeOf]
    split <;> rfl
  | allocate _ _ _ _ _ | checkQuota _ | assignPort _ | send _ _ _ _ _ _ =>
    right
    simp only [TurnSystem.step]
    split
    · split <;> rfl
    · rfl
  | prepare _ _ _ =>
    right
    simp only [TurnSystem.step]
    split <;> rfl
  | _ => exact Or.inr rfl

theorem TurnSystem.step_allocations (t : TurnSystem) (op : TurnOp) :
    (t.step op).server.allocations =
      ((t.writeOf op).elim t.server t.server.write).allocations := by
  rcases t.step_server op with ⟨username, password, rfl⟩ | h
  · rfl
  · rw [h]

theorem TurnSystem.step_maxAllocationsPerIp (t : TurnSystem) (op : TurnOp) :
    (t.step op).server.maxAllocationsPerIp = t.server.maxAllocationsPerIp := by
  rcases t.step_server op with ⟨username, password, rfl⟩ | h
  · rfl
  · rw [h]
    cases t.writeOf op with
    | none => rfl
    | some w => exact t.server.write_maxAllocationsPerIp w

/-- What the writer holds when it writes: its task has come so far, or the call is the write. -/
theorem writeOf_origin {op : TurnOp} {w : TurnWrite} (h : t.writeOf op = some w) :
    match w with
    | .insert a => ∃ id, t.tasks id = some (.prepared a)
    | .charge id r data => t.tasks id = some (.checked r data)
    | .refresh c r lifetime now => op = .refresh c r lifetime now
    | _ => True := by
  cases op with
  | insert id =>
    rw [TurnSystem.writeOf] at h
    split at h
    · next hid =>
      cases h
      exact ⟨id, hid⟩
    · cases h
  | charge id =>
    rw [TurnSystem.writeOf] at h
    split at h
    · next hid =>
      cases h
      exact hid
    · cases h
  | refresh =>
    cases h
    rfl
  | channelBind =>
    cases h
    trivial
  | cleanup =>
    cases h
    trivial
  | release =>
    cases h
    trivial
  | _ => cases h

theorem allocation_new (bindAddr : SocketAddr) (realm : String) (r : SocketAddr) :
    (TurnServer.new bindAddr realm).allocation r = none := Std.TreeMap.getElem?_emptyc

theorem allocation_insert (a : Allocation) (r : SocketAddr) :
    (s.insert a).allocation r = if a.relayedAddr = r then some a else s.allocation r :=
  getElem?_insert_eq _ _ _ _

theorem allocation_modify (r r' : SocketAddr) (f : Allocation → Allocation) :
    (s.modify r f).allocation r' =
      (s.allocation r').map (fun a => if r = r' then f a else a) := by
  refine (getElem?_modify_eq _ _ _ _).trans ?_
  split
  · next hr =>
    cases hr
    rfl
  · exact Option.map_id'.symm

theorem allocation_release (r r' : SocketAddr) :
    (s.releaseAllocation r).allocation r' = if r = r' then none else s.allocation r' :=
  getElem?_erase_eq _ _ _

theorem allocation_cleanup (now : Nat) (r : SocketAddr) :
    (s.cleanupExpired now).1.allocation r =
      (s.allocation r).filter (fun a => now < a.expiresAt) := Std.TreeMap.getElem?_filter'

/-- A handler that asks for the owner changes the allocation of its owner or nothing. -/
theorem allocation_of_owned {s' : TurnServer} {r c : SocketAddr} {f : Allocation → Allocation}
    (hnone : s.allocation r = none → s' = s)
    (hother : ∀ a, s.allocation r = some a → a.clientAddr ≠ c → s' = s)
    (howner : ∀ a, s.allocation r = some a → a.clientAddr = c → s' = s.modify r f)
    (r' : SocketAddr) : s'.allocation r' = (s.allocation r').map (fun a =>
      if r = r' ∧ a.clientAddr = c then f a else a) := by
  by_cases hr : r = r'
  · cases hr
    cases ha : s.allocation r with
    | none => rw [hnone ha, ha, Option.map_none]
    | some a =>
      by_cases hc : a.clientAddr = c
      · rw [howner a ha hc, allocation_modify, ha, Option.map_some, Option.map_some, if_pos rfl,
          if_pos ⟨rfl, hc⟩]
      · rw [hother a ha hc, ha, Option.map_some, if_neg (fun h => hc h.2)]
  · have hkept : s'.allocation r' = s.allocation r' := by
      cases ha : s.allocation r with
      | none => rw [hnone ha]
      | some a =>
        by_cases hc : a.clientAddr = c
        · rw [howner a ha hc, allocation_modify]
          simp only [hr, ↓reduceIte, Option.map_id']
        · rw [hother a ha hc]
    rw [hkept]
    simp only [hr, false_and, ↓reduceIte, Option.map_id']

theorem allocation_handleRefresh (c r : SocketAddr) (lifetime now : Nat) (r' : SocketAddr) :
    (s.handleRefresh c r lifetime now).1.allocation r' = (s.allocation r').map (fun a =>
      if r = r' ∧ a.clientAddr = c then a.refresh lifetime now else a) := by
  apply allocation_of_owned
  · intro ha
    simp only [TurnServer.handleRefresh, ha]
  · intro a ha hc
    simp only [TurnServer.handleRefresh, ha, ne_eq, hc, not_false_eq_true, ↓reduceIte]
  · intro a ha hc
    simp only [TurnServer.handleRefresh, ha, hc, ne_eq, not_true_eq_false, ↓reduceIte]

theorem handleRefresh_ok {c r : SocketAddr} {lifetime now newLifetime : Nat}
    (h : (s.handleRefresh c r lifetime now).2 = .ok newLifetime) :
    newLifetime = min lifetime maxLifetime := by
  unfold TurnServer.handleRefresh at h
  split at h
  · cases h
  · split at h
    · cases h
    · cases h
      rfl

theorem handleRefresh_error {c r : SocketAddr} {lifetime now : Nat} {e : TurnError}
    (h : (s.handleRefresh c r lifetime now).2 = .error e) :
    (s.handleRefresh c r lifetime now).1 = s := by
  unfold TurnServer.handleRefresh at h ⊢
  split at h
  · rfl
  · split at h
    · rw [if_pos ‹_›]
    · cases h

/-- The channels that a request may bind. -/
def ValidChannel (channelNumber : UInt16) : Prop := 0x4000 ≤ channelNumber ∧ channelNumber ≤ 0x7FFF

instance (channelNumber : UInt16) : Decidable (ValidChannel channelNumber) :=
  inferInstanceAs (Decidable (_ ∧ _))

theorem allocation_handleChannelBind (c r : SocketAddr) (channelNumber : UInt16)
    (peerAddr r' : SocketAddr) :
    (s.handleChannelBind c r channelNumber peerAddr).1.allocation r' =
      (s.allocation r').map (fun a =>
        if ValidChannel channelNumber ∧ r = r' ∧ a.clientAddr = c then
          a.bind channelNumber peerAddr else a) := by
  by_cases hchannel : ValidChannel channelNumber
  · have hvalid : ¬ ¬ (0x4000 ≤ channelNumber ∧ channelNumber ≤ 0x7FFF) := not_not_intro hchannel
    simp only [hchannel, true_and]
    apply allocation_of_owned
    · intro ha
      simp only [TurnServer.handleChannelBind, if_neg hvalid, ha]
    · intro a ha hc
      simp only [TurnServer.handleChannelBind, if_neg hvalid, ha, ne_eq, hc, not_false_eq_true,
        ↓reduceIte]
    · intro a ha hc
      simp only [TurnServer.handleChannelBind, if_neg hvalid, ha, hc, ne_eq, not_true_eq_false,
        ↓reduceIte]
  · have hinvalid : ¬ (0x4000 ≤ channelNumber ∧ channelNumber ≤ 0x7FFF) := hchannel
    simp only [hchannel, false_and, ↓reduceIte, Option.map_id', TurnServer.handleChannelBind,
      hinvalid, not_false_eq_true]

/-- The allocation that stands under an address after a write, and what the write has done to it. -/
inductive TurnServer.Leaves (s : TurnServer) (r : SocketAddr) : TurnWrite → Allocation → Prop
  | inserted (hr : a.relayedAddr = r) : Leaves s r (.insert a) a
  | kept (ha : s.allocation r = some a) : Leaves s r w a
  | refreshed (ha : s.allocation r = some a) (hc : a.clientAddr = c) :
    Leaves s r (.refresh c r lifetime now) (a.refresh lifetime now)
  | bound (ha : s.allocation r = some a) (hc : a.clientAddr = c) :
    Leaves s r (.channelBind c r channelNumber peerAddr) (a.bind channelNumber peerAddr)
  | charged (ha : s.allocation r = some a) :
    Leaves s r (.charge task r data) (a.charge data)

theorem TurnServer.write_leaves {w : TurnWrite} {r : SocketAddr} {a : Allocation}
    (h : (s.write w).allocation r = some a) : s.Leaves r w a := by
  cases w with
  | insert b =>
    rw [TurnServer.write, allocation_insert] at h
    split at h
    · next hr =>
      cases h
      exact .inserted hr
    · exact .kept h
  | refresh c r' lifetime now =>
    rw [TurnServer.write, allocation_handleRefresh] at h
    obtain ⟨b, hb, rfl⟩ := Option.map_eq_some_iff.mp h
    split
    · next hc =>
      obtain ⟨rfl, hc⟩ := hc
      exact .refreshed hb hc
    · exact .kept hb
  | channelBind c r' channelNumber peerAddr =>
    rw [TurnServer.write, allocation_handleChannelBind] at h
    obtain ⟨b, hb, rfl⟩ := Option.map_eq_some_iff.mp h
    split
    · next hc =>
      obtain ⟨-, rfl, hc⟩ := hc
      exact .bound hb hc
    · exact .kept hb
  | charge id r' data =>
    rw [TurnServer.write, TurnServer.charge, allocation_modify] at h
    obtain ⟨b, hb, rfl⟩ := Option.map_eq_some_iff.mp h
    split
    · next hr =>
      cases hr
      exact .charged hb
    · exact .kept hb
  | cleanup now =>
    rw [TurnServer.write, allocation_cleanup] at h
    exact .kept (Option.filter_eq_some_iff.mp h).1
  | release r' =>
    rw [TurnServer.write, allocation_release] at h
    split at h
    · cases h
    · exact .kept h

/-- What a step makes of a task, other than leaving it where it stands. -/
inductive TurnSystem.Moves (t : TurnSystem) (i : Nat) : TurnOp → TurnTask → Prop
  | verified (h : t.tasks i = none) :
    Moves t i (.allocate i clientAddr username password requestedLifetime)
      (.verified clientAddr username requestedLifetime)
  | underQuota (h : t.tasks i = some (.verified clientAddr username requestedLifetime)) :
    Moves t i (.checkQuota i) (.underQuota clientAddr username requestedLifetime)
  | assigned (h : t.tasks i = some (.underQuota clientAddr username requestedLifetime))
      (hport : t.server.assignPort = .ok port) :
    Moves t i (.assignPort i) (.assigned clientAddr username requestedLifetime port)
  | prepared (h : t.tasks i = some (.assigned clientAddr username requestedLifetime port)) :
    Moves t i (.prepare i now nonce)
      (.prepared (t.server.prepare clientAddr username requestedLifetime port now nonce))
  | allocated : Moves t i op (.allocated result)
  | checked (h : t.tasks i = none)
      (hsend : t.server.checkSend clientAddr relayedAddr now = .ok ()) :
    Moves t i (.send i clientAddr relayedAddr peerAddr data now) (.checked relayedAddr data)
  | sent : Moves t i op (.sent result)

theorem tasks_at_some {id i : Nat} {task task' : TurnTask}
    (h : (t.at id task).tasks i = some task') :
    t.tasks i = some task' ∨ id = i ∧ task = task' := by
  simp only [TurnSystem.at, Function.update_apply] at h
  split at h
  · next hi => exact Or.inr ⟨hi.symm, Option.some.inj h⟩
  · exact Or.inl h

theorem TurnSystem.tasks_at_moves {t' : TurnSystem} {op : TurnOp} {id i : Nat}
    {task task' : TurnTask} (htasks : t'.tasks = t.tasks)
    (h : (t'.at id task).tasks i = some task') (hmoves : t.Moves id op task) :
    t.tasks i = some task' ∨ t.Moves i op task' := by
  rcases tasks_at_some h with h | ⟨rfl, rfl⟩
  · rw [htasks] at h
    exact Or.inl h
  · exact Or.inr hmoves

theorem TurnSystem.step_tasks {op : TurnOp} {i : Nat} {task : TurnTask}
    (h : (t.step op).tasks i = some task) : t.tasks i = some task ∨ t.Moves i op task := by
  cases op with
  | allocate id clientAddr username password requestedLifetime =>
    simp only [TurnSystem.step] at h
    split at h
    · next hid =>
      split at h
      · exact tasks_at_moves rfl h (.verified hid)
      · exact tasks_at_moves rfl h .allocated
    · exact Or.inl h
  | checkQuota id =>
    simp only [TurnSystem.step] at h
    split at h
    · next hid =>
      split at h
      · exact tasks_at_moves rfl h (.underQuota hid)
      · exact tasks_at_moves rfl h .allocated
    · exact Or.inl h
  | assignPort id =>
    simp only [TurnSystem.step] at h
    split at h
    · next hid =>
      split at h
      · next hport => exact tasks_at_moves rfl h (.assigned hid hport)
      · exact tasks_at_moves rfl h .allocated
    · exact Or.inl h
  | prepare id now nonce =>
    simp only [TurnSystem.step] at h
    split at h
    · next hid => exact tasks_at_moves rfl h (.prepared hid)
    · exact Or.inl h
  | insert id =>
    simp only [TurnSystem.step] at h
    split at h
    · exact tasks_at_moves (by rfl) h .allocated
    · exact Or.inl h
  | send id clientAddr relayedAddr peerAddr data now =>
    simp only [TurnSystem.step] at h
    split at h
    · next hid =>
      split at h
      · next hsend => exact tasks_at_moves rfl h (.checked hid hsend)
      · exact tasks_at_moves rfl h .sent
    · exact Or.inl h
  | charge id =>
    simp only [TurnSystem.step] at h
    split at h
    · exact tasks_at_moves (by rfl) h .sent
    · exact Or.inl h
  | _ => exact Or.inl h

end Steps

end P2PMesh.Turn
