import P2PMesh.IceAgent

namespace P2PMesh.Ice
open P2PMesh.Base P2PMesh.Puncher
set_option autoImplicit true

inductive ConnectionState where
  | new
  | checking
  | connected
  | verifying
  | disconnected
  | failed
deriving DecidableEq

/-- Clock readings and round-trip times are in microseconds. -/
structure PeerConnectivity where
  peerId : String
  remoteAddr : SocketAddr
  state : ConnectionState
  failedChecks : UInt32
  successfulChecks : UInt32
  lastSuccess : Option Nat
  lastConsent : Nat
  rttSamples : List UInt64
  srttUs : UInt64
  rttVarUs : UInt64
  probesSent : UInt64
  probesReceived : UInt64
deriving DecidableEq

def PeerConnectivity.new (peerId : String) (remoteAddr : SocketAddr) (now : Nat) :
    PeerConnectivity :=
  ⟨peerId, remoteAddr, .new, 0, 0, none, now, [], 0, 0, 0, 0⟩

section Arithmetic
variable (overflowChecks : Bool)

/-- A counter of 32 bits goes up by one, or panics in a build with overflow checks. -/
def countU32 (n : UInt32) : Option UInt32 :=
  if overflowChecks = true ∧ n = 4294967295 then none else some (n + 1)

def mulU64 (x y : UInt64) : Option UInt64 :=
  if overflowChecks = true ∧ 2 ^ 64 ≤ x.toNat * y.toNat then none else some (x * y)

def absDiff (x y : UInt64) : UInt64 := if x < y then y - x else x - y

/-- The smoothed round-trip time and its variance with one more sample. -/
def estimateRtt (srttUs rttVarUs rttUs : UInt64) : Option (UInt64 × UInt64) :=
  if srttUs = 0 then some (rttUs, rttUs / 2)
  else do
    let rttVarUs ← addU64 overflowChecks (← mulU64 overflowChecks 3 rttVarUs)
      (absDiff rttUs srttUs)
    let srttUs ← addU64 overflowChecks (← mulU64 overflowChecks 7 srttUs) rttUs
    return (srttUs / 8, rttVarUs / 4)

/-- `none` is a panic; the fields that were set before it are then left out of account. -/
def PeerConnectivity.recordSuccess (p : PeerConnectivity) (rttUs : UInt64) (now : Nat) :
    Option PeerConnectivity := do
  let probesSent ← addU64 overflowChecks p.probesSent 1
  let successfulChecks ← countU32 overflowChecks p.successfulChecks
  let samples := p.rttSamples ++ [rttUs]
  let (srttUs, rttVarUs) ← estimateRtt overflowChecks p.srttUs p.rttVarUs rttUs
  let probesReceived ← addU64 overflowChecks p.probesReceived 1
  return { p with
    state := .connected
    failedChecks := 0
    successfulChecks
    lastSuccess := some now
    lastConsent := now
    rttSamples := if 8 < samples.length then samples.tail else samples
    srttUs
    rttVarUs
    probesSent
    probesReceived }

def PeerConnectivity.recordFailure (p : PeerConnectivity) : Option PeerConnectivity := do
  let failedChecks ← countU32 overflowChecks p.failedChecks
  let probesSent ← addU64 overflowChecks p.probesSent 1
  return { p with
    state := if 5 ≤ failedChecks then .failed else if 3 ≤ failedChecks then .disconnected
      else p.state
    failedChecks
    successfulChecks := 0
    probesSent }

def PeerConnectivity.isDead (p : PeerConnectivity) : Bool := p.state = .failed

def PeerConnectivity.rttTimeout (p : PeerConnectivity) : Option UInt64 := do
  addU64 overflowChecks p.srttUs (← mulU64 overflowChecks 4 p.rttVarUs)

end Arithmetic

def bindingTemplate : Bytes := [0x00, 0x01] ++ [0x00, 0x00] ++ magicCookie

def buildBindingTemplate (transactionId : ByteArr 12) : Bytes :=
  bindingTemplate ++ transactionId.bytes

/-- What a call of the checks does next about the first of its peers: look up the address, send,
wait for the lock to write after the request or after its failure, wait for an answer with the
lock. -/
inductive CheckPhase where
  | snapshot
  | send (peerId : String) (request : Bytes) (addr : SocketAddr)
  | lock (peerId : String) (request : Bytes) (addr : SocketAddr)
  | fail (peerId : String)
  | wait (peerId : String) (request : Bytes) (addr : SocketAddr) (sendTime : Nat)

structure CheckCall where
  remaining : List String
  phase : CheckPhase

/-- A success that is recorded: for a peer with an address, after a request to an address, on a
datagram from a source. -/
structure Success where
  peerId : String
  peerAddr : SocketAddr
  requestAddr : SocketAddr
  request : Bytes
  src : SocketAddr
  response : Bytes
deriving DecidableEq

/-- The response is one of the peer's to the request that was sent to it. -/
structure Success.Genuine (x : Success) : Prop where
  requested : x.requestAddr = x.peerAddr
  responded : x.src = x.peerAddr
  success : IsBindingSuccess x.response
  transaction : slice x.response 8 20 = slice x.request 8 20

/-- The peers, the call that has the lock to write them, the calls under way by number, and the
successes that they have recorded. -/
structure ConnectivityManager where
  peers : Std.TreeMap String PeerConnectivity
  writer : Option Nat
  calls : Std.TreeMap Nat CheckCall
  recorded : List Success

def ConnectivityManager.new : ConnectivityManager := ⟨∅, none, ∅, []⟩

inductive ManagerOp where
  | register (peerId : String) (remoteAddr : SocketAddr) (now : Nat)
  | unregister (peerId : String)
  | refreshConsent (peerId : String) (now : Nat)
  | begin (id : Nat) (order : List String)
  | snapshot (id : Nat) (transactionId : ByteArr 12)
  | sent (id : Nat) (ok : Bool)
  | lock (id : Nat) (now : Nat)
  | receive (id : Nat) (src : SocketAddr) (data : Bytes) (now : Nat)
  | timeout (id : Nat)
  | cancel (id : Nat)

section Manager
variable (overflowChecks : Bool) (m : ConnectivityManager)

/-- Who has not the lock waits while a call has it. -/
def ConnectivityManager.unlocked (f : ConnectivityManager → ConnectivityManager) :
    ConnectivityManager :=
  match m.writer with
  | none => f m
  | some _ => m

def ConnectivityManager.go (id : Nat) (call : CheckCall) : ConnectivityManager :=
  { m with calls := m.calls.insert id call }

def ConnectivityManager.finish (id : Nat) : ConnectivityManager :=
  { m with calls := m.calls.erase id, writer := m.writer.filter (· ≠ id) }

/-- The call gives up the lock and goes on to its next peer. -/
def ConnectivityManager.next (id : Nat) (remaining : List String) : ConnectivityManager :=
  { m with writer := m.writer.filter (· ≠ id) }.go id ⟨remaining, .snapshot⟩

/-- The peer is replaced by what its update makes of it; a panic ends the call. -/
def ConnectivityManager.update (id : Nat) (remaining : List String) (peerId : String)
    (updated : Option PeerConnectivity) : ConnectivityManager :=
  match updated with
  | some p => { m with peers := m.peers.insert peerId p }.next id remaining
  | none => m.finish id

/-- The peers that a call declares dead at its end. -/
def ConnectivityManager.deadPeers : List String :=
  (m.peers.toList.filter (fun e => e.2.isDead)).map (·.1)

def ConnectivityManager.begin (id : Nat) (order : List String) : ConnectivityManager :=
  m.unlocked fun m =>
    match m.calls[id]? with
    | some _ => m
    | none => if order.isPerm m.peers.keys then m.go id ⟨order, .snapshot⟩ else m

def ConnectivityManager.snapshot (id : Nat) (transactionId : ByteArr 12) : ConnectivityManager :=
  m.unlocked fun m =>
    match m.calls[id]? with
    | some ⟨[], .snapshot⟩ => m.finish id
    | some ⟨peerId :: remaining, .snapshot⟩ =>
      match m.peers[peerId]? with
      | some p =>
        m.go id ⟨remaining, .send peerId (buildBindingTemplate transactionId) p.remoteAddr⟩
      | none => m.go id ⟨remaining, .snapshot⟩
    | _ => m

def ConnectivityManager.sent (id : Nat) (ok : Bool) : ConnectivityManager :=
  match m.calls[id]? with
  | some ⟨remaining, .send peerId request addr⟩ =>
    m.go id ⟨remaining, if ok then .lock peerId request addr else .fail peerId⟩
  | _ => m

/-- The call gets the lock to write, and keeps it while it waits for an answer. -/
def ConnectivityManager.lock (id : Nat) (now : Nat) : ConnectivityManager :=
  m.unlocked fun m =>
    match m.calls[id]? with
    | some ⟨remaining, .lock peerId request addr⟩ =>
      match m.peers[peerId]? with
      | none => m.go id ⟨remaining, .snapshot⟩
      | some p =>
        match p.rttTimeout overflowChecks with
        | none => m.finish id
        | some _ =>
          { m with writer := some id }.go id ⟨remaining, .wait peerId request addr now⟩
    | some ⟨remaining, .fail peerId⟩ =>
      match m.peers[peerId]? with
      | none => m.go id ⟨remaining, .snapshot⟩
      | some p => m.update id remaining peerId (p.recordFailure overflowChecks)
    | _ => m

/-- The success that a datagram is taken for, whatever its source and its transaction id. -/
def ConnectivityManager.success (id : Nat) (src : SocketAddr) (data : Bytes) : Option Success :=
  match m.calls[id]? with
  | some ⟨_, .wait peerId request addr _⟩ =>
    match m.peers[peerId]? with
    | some p =>
      if IsBindingSuccess (data.take 1500) then
        some ⟨peerId, p.remoteAddr, addr, request, src, data.take 1500⟩
      else none
    | none => none
  | _ => none

def ConnectivityManager.receive (id : Nat) (src : SocketAddr) (data : Bytes) (now : Nat) :
    ConnectivityManager :=
  let m' := { m with recorded := (m.success id src data).toList ++ m.recorded }
  match m.calls[id]? with
  | some ⟨remaining, .wait peerId _ _ sendTime⟩ =>
    match m.peers[peerId]? with
    | some p =>
      if IsBindingSuccess (data.take 1500) then
        m'.update id remaining peerId
          (p.recordSuccess overflowChecks (UInt64.ofNat (now - sendTime)) now)
      else m'.next id remaining
    | none => m'.next id remaining
  | _ => m'

def ConnectivityManager.timeout (id : Nat) : ConnectivityManager :=
  match m.calls[id]? with
  | some ⟨remaining, .wait peerId _ _ _⟩ =>
    match m.peers[peerId]? with
    | some p => m.update id remaining peerId (p.recordFailure overflowChecks)
    | none => m.next id remaining
  | _ => m

def ConnectivityManager.step : ManagerOp → ConnectivityManager
  | .register peerId remoteAddr now => m.unlocked fun m =>
    { m with peers := m.peers.insert peerId (.new peerId remoteAddr now) }
  | .unregister peerId => m.unlocked fun m => { m with peers := m.peers.erase peerId }
  | .refreshConsent peerId now => m.unlocked fun m =>
    { m with peers := m.peers.modify peerId (fun p => { p with lastConsent := now }) }
  | .begin id order => m.begin id order
  | .snapshot id transactionId => m.snapshot id transactionId
  | .sent id ok => m.sent id ok
  | .lock id now => m.lock overflowChecks id now
  | .receive id src data now => m.receive overflowChecks id src data now
  | .timeout id => m.timeout overflowChecks id
  | .cancel id => m.finish id

def ConnectivityManager.runs (ops : List ManagerOp) : ConnectivityManager :=
  ops.foldl (ConnectivityManager.step overflowChecks) m

end Manager

section Genuine
variable {overflowChecks : Bool} (m : ConnectivityManager)

def ConnectivityManager.AllGenuine : Prop := ∀ x ∈ m.recorded, x.Genuine

/-- A datagram that a wait takes for a Binding Success Response comes from the address of the peer,
which is still the one that the request went to, and has the transaction id of the request. -/
def ConnectivityManager.Matching : ManagerOp → Prop
  | .receive id src data _ =>
    ∀ remaining peerId request addr sendTime, m.calls[id]? = some ⟨remaining, .wait peerId request
      addr sendTime⟩ → ∀ p, m.peers[peerId]? = some p → IsBindingSuccess (data.take 1500) →
        src = p.remoteAddr ∧ addr = p.remoteAddr ∧
          slice (data.take 1500) 8 20 = slice request 8 20
  | _ => True

variable {m}

theorem ConnectivityManager.recorded_unlocked {f : ConnectivityManager → ConnectivityManager}
    (h : ∀ m : ConnectivityManager, (f m).recorded = m.recorded) :
    (m.unlocked f).recorded = m.recorded := by
  rw [ConnectivityManager.unlocked]
  split
  · exact h m
  · rfl

theorem ConnectivityManager.recorded_update (id : Nat) (remaining : List String) (peerId : String)
    (updated : Option PeerConnectivity) :
    (m.update id remaining peerId updated).recorded = m.recorded := by
  cases updated with
  | some p => rfl
  | none => rfl

theorem ConnectivityManager.recorded_lock (id now : Nat) :
    (m.lock overflowChecks id now).recorded = m.recorded := by
  apply recorded_unlocked
  intro m
  split
  · split
    · rfl
    · split
      · rfl
      · rfl
  · split
    · rfl
    · exact recorded_update _ _ _ _
  · rfl

theorem ConnectivityManager.recorded_receive (id : Nat) (src : SocketAddr) (data : Bytes)
    (now : Nat) : (m.receive overflowChecks id src data now).recorded =
      (m.success id src data).toList ++ m.recorded := by
  rw [ConnectivityManager.receive]
  split
  · split
    · split
      · rw [recorded_update]
      · rfl
    · rfl
  · rfl

theorem ConnectivityManager.recorded_step {op : ManagerOp}
    (hop : ∀ id src data now, op ≠ .receive id src data now) :
    (m.step overflowChecks op).recorded = m.recorded := by
  cases op with
  | register peerId remoteAddr now => exact recorded_unlocked (fun _ => rfl)
  | unregister peerId => exact recorded_unlocked (fun _ => rfl)
  | refreshConsent peerId now => exact recorded_unlocked (fun _ => rfl)
  | begin id order =>
    apply recorded_unlocked
    intro m
    split
    · rfl
    · split
      · rfl
      · rfl
  | snapshot id transactionId =>
    apply recorded_unlocked
    intro m
    split
    · rfl
    · split
      · rfl
      · rfl
    · rfl
  | sent id ok =>
    rw [ConnectivityManager.step, ConnectivityManager.sent]
    split
    · rfl
    · rfl
  | lock id now => exact recorded_lock id now
  | receive id src data now => exact (hop id src data now rfl).elim
  | timeout id =>
    rw [ConnectivityManager.step, ConnectivityManager.timeout]
    split
    · split
      · exact recorded_update _ _ _ _
      · rfl
    · rfl
  | cancel id => rfl

theorem ConnectivityManager.success_genuine_iff (id : Nat) (src : SocketAddr) (data : Bytes)
    (now : Nat) : (∀ x ∈ (m.success id src data).toList, x.Genuine) ↔
      m.Matching (.receive id src data now) := by
  constructor
  · intro h remaining peerId request addr sendTime hcall p hp hsuccess
    have hx : m.success id src data =
        some ⟨peerId, p.remoteAddr, addr, request, src, data.take 1500⟩ := by
      rw [ConnectivityManager.success, hcall]
      dsimp only
      rw [hp]
      exact if_pos hsuccess
    have hgenuine := h _ (Option.mem_toList.mpr hx)
    exact ⟨hgenuine.responded, hgenuine.requested, hgenuine.transaction⟩
  · intro h x hx
    have hx := Option.mem_toList.mp hx
    rw [ConnectivityManager.success] at hx
    split at hx
    · next remaining peerId request addr sendTime hcall =>
      split at hx
      · next p hp =>
        split at hx
        · next hsuccess =>
          obtain ⟨hsrc, haddr, htransaction⟩ :=
            h remaining peerId request addr sendTime hcall p hp hsuccess
          cases hx
          exact ⟨haddr, hsrc, hsuccess, htransaction⟩
        · cases hx
      · cases hx
    · cases hx

/-- A step keeps all that is recorded genuine exactly if its datagram matches. -/
theorem ConnectivityManager.AllGenuine.step_iff (h : m.AllGenuine) (op : ManagerOp) :
    (m.step overflowChecks op).AllGenuine ↔ m.Matching op := by
  by_cases hop : ∃ id src data now, op = .receive id src data now
  · obtain ⟨id, src, data, now, rfl⟩ := hop
    rw [← success_genuine_iff id src data now, ConnectivityManager.AllGenuine,
      ConnectivityManager.step, recorded_receive]
    constructor
    · intro hall x hx
      exact hall x (List.mem_append_left _ hx)
    · intro hnew x hx
      obtain hx | hx := List.mem_append.mp hx
      · exact hnew x hx
      · exact h x hx
  · have hmatching : m.Matching op := by
      cases op with
      | receive id src data now => exact (hop ⟨id, src, data, now, rfl⟩).elim
      | register _ _ _ | unregister _ | refreshConsent _ _ | begin _ _ | snapshot _ _ | sent _ _
      | lock _ _ | timeout _ | cancel _ => trivial
    refine iff_of_true ?_ hmatching
    rw [ConnectivityManager.AllGenuine, recorded_step]
    · exact h
    · intro id src data now he
      exact hop ⟨id, src, data, now, he⟩

end Genuine

/-- An agent confirms a pair only by the pair's own answer, as it never has one; the manager
records only genuine successes exactly in the runs in which every datagram matches. -/
theorem connectivity_verified_iff (overflowChecks : Bool) (localUfrag : String)
    (ops : List ManagerOp) :
    ((∀ agentOps, ((IceAgent.new localUfrag).runs overflowChecks agentOps).Verified) ∧
      ∀ l, l <+: ops → (ConnectivityManager.new.runs overflowChecks l).AllGenuine) ↔
    Guarded (ConnectivityManager.step overflowChecks) ConnectivityManager.Matching
      ConnectivityManager.new ops := by
  rw [and_iff_right (fun agentOps =>
    (IceAgent.pairless_runs overflowChecks localUfrag agentOps).verified)]
  apply forall_prefix_iff
  · intro x hx
    exact (List.not_mem_nil hx).elim
  · intro m op h
    exact h.step_iff op

def peerAddr : SocketAddr := ⟨.v4 0x0A000001#32, 9999⟩

def strangerAddr : SocketAddr := ⟨.v4 0x0A000002#32, 9999⟩

/-- A datagram from elsewhere, with another transaction id, is recorded as the peer's success. -/
theorem stranger_recorded :
    ¬ (ConnectivityManager.new.runs true
      [.register "peer" peerAddr 0, .begin 0 ["peer"], .snapshot 0 (.zero 12), .sent 0 true,
        .lock 0 0, .receive 0 strangerAddr
          (bindingResponse (List.replicate 12 1)) 1000]).AllGenuine := by
  intro h
  have hx : (ConnectivityManager.new.runs true
      [.register "peer" peerAddr 0, .begin 0 ["peer"], .snapshot 0 (.zero 12), .sent 0 true,
        .lock 0 0, .receive 0 strangerAddr
          (bindingResponse (List.replicate 12 1)) 1000]).recorded =
      [⟨"peer", peerAddr, peerAddr, buildBindingTemplate (.zero 12), strangerAddr,
        bindingResponse (List.replicate 12 1)⟩] := by
    decide +kernel
  have hgenuine := h _ (hx ▸ List.mem_singleton_self _)
  have hsrc := hgenuine.responded
  revert hsrc
  decide

end P2PMesh.Ice
