import P2PMesh.Base.Mutex
import P2PMesh.Base.Selection
import P2PMesh.Base.Table
import P2PMesh.Base.Utf8
import P2PMesh.Ice

namespace P2PMesh.Ice
open P2PMesh.Base P2PMesh.Puncher
set_option autoImplicit true

inductive CandidateType where
  | host
  | srflx
  | prflx
  | relay
deriving DecidableEq

structure IceCandidate where
  candidateType : CandidateType
  addr : SocketAddr
  relatedAddr : Option SocketAddr
  foundation : String
  component : UInt32
  priority : UInt32
  transport : String
deriving DecidableEq

def typePref : CandidateType → UInt32
  | .host => 126
  | .srflx => 100
  | .prflx => 110
  | .relay => 0

def calculatePriority (candidateType : CandidateType) (localPref : UInt16) : UInt32 :=
  (typePref candidateType <<< 24) + (localPref.toUInt32 <<< 8) + (256 - 1)

def IceCandidate.new (candidateType : CandidateType) (addr : SocketAddr)
    (relatedAddr : Option SocketAddr) (foundation : String) : IceCandidate :=
  ⟨candidateType, addr, relatedAddr, foundation, 1, calculatePriority candidateType 65535, "udp"⟩

inductive IceConnectionState where
  | new
  | gathering
  | waiting
  | checking
  | connected
  | completed
  | failed
  | restarting
deriving DecidableEq

inductive PairState where
  | frozen
  | waiting
  | inProgress
  | succeeded
  | failed
deriving DecidableEq

structure CandidatePair where
  loc : IceCandidate
  remote : IceCandidate
  state : PairState
  checksSent : UInt32
  nominated : Bool
deriving DecidableEq

/-- The pair's priority; `none` is the panic of a sum that does not fit. -/
def pairPriority (overflowChecks : Bool) (localPrio remotePrio : UInt32) : Option UInt64 := do
  let controlling := localPrio.toUInt64
  let controlled := remotePrio.toUInt64
  let least := min controlling controlled
  let greatest := max controlling controlled
  let sum ← addU64 overflowChecks (least <<< 32) (2 * greatest)
  addU64 overflowChecks sum (if controlled < controlling then 1 else 0)

def compatiblePairs (locals remotes : List IceCandidate) : List CandidatePair :=
  locals.flatMap fun l =>
    (remotes.filter (fun r => l.addr.ip.version = r.addr.ip.version)).map
      (fun r => ⟨l, r, .frozen, 0, false⟩)

def unfreeze (pairs : List CandidatePair) : List CandidatePair :=
  (pairs.take 5).map (fun p => { p with state := .waiting }) ++ pairs.drop 5

/-- The pairs that are formed, unless the priority of one does not fit. -/
def formCandidatePairs (overflowChecks : Bool) (locals remotes : List IceCandidate) :
    Option (List CandidatePair) :=
  ((compatiblePairs locals remotes).mapM (fun p =>
    (pairPriority overflowChecks p.loc.priority p.remote.priority).map (fun prio => (prio, p)))).map
      (fun l => unfreeze ((sortByKey (fun e => OrderDual.toDual e.1.toNat) l).map (·.2)))

def gathered (hostAddrs : List SocketAddr) (srflxAddr relayAddr : Option SocketAddr) :
    List IceCandidate :=
  hostAddrs.mapIdx (fun i addr => .new .host addr none s!"host{i}") ++
    srflxAddr.toList.map (fun addr => .new .srflx addr hostAddrs.head? "srflx0") ++
      relayAddr.toList.map (fun addr => .new .relay addr hostAddrs.head? "relay0")

/-- A Binding Request with the user name of the agent, padded to a multiple of four bytes. -/
def buildBindingRequest (localUfrag : String) (transactionId : ByteArr 12) : Bytes :=
  let username := utf8 localUfrag.toList
  let msg := [0x00, 0x01] ++ [0x00, 0x00] ++ magicCookie ++ transactionId.bytes ++
    [0x00, 0x06] ++ toBe 2 username.length ++ username
  msg ++ List.replicate ((4 - msg.length % 4) % 4) 0x00

/-- What the wait for a response looks at: the length and the message type. -/
def IsBindingSuccess (data : Bytes) : Prop := 20 ≤ data.length ∧ data.take 2 = [0x01, 0x01]

instance (data : Bytes) : Decidable (IsBindingSuccess data) :=
  inferInstanceAs (Decidable (_ ∧ _))

/-- What the setting of the remote candidates waits for: the lock to write them, the local ones
and the remote ones to read, the pairs and the state to write. -/
inductive SetPhase where
  | lockRemote
  | readLocal
  | readRemote
  | writePairs (pairs : List CandidatePair)
  | writeState

inductive IceCheckPhase where
  | mark (targets : List (Nat × SocketAddr))
  | send (idx : Nat) (addr : SocketAddr)
  | fail (idx : Nat)
  | wait (idx : Nat) (addr : SocketAddr) (request : Bytes)
  | succeed (idx : Nat)
  | connect (idx : Nat)
  | pick (idx : Nat)
  | select (pair : CandidatePair)

inductive IceCall where
  | gather (candidates : List IceCandidate)
  | setRemote (candidates : List IceCandidate) (phase : SetPhase)
  | check (phase : IceCheckPhase)

/-- The agent, the locks that are held over an await, the calls under way by number, and what the
checks have sent and received. -/
structure IceAgent where
  localCandidates : List IceCandidate
  remoteCandidates : List IceCandidate
  pairs : List CandidatePair
  state : IceConnectionState
  selectedPair : Option CandidatePair
  localUfrag : String
  localLock : RwLock Nat
  remoteLock : RwLock Nat
  calls : Std.TreeMap Nat IceCall
  sent : List (SocketAddr × Bytes)
  received : List (SocketAddr × Bytes)

def IceAgent.new (localUfrag : String) : IceAgent :=
  ⟨[], [], [], .new, none, localUfrag, .free, .free, ∅, [], []⟩

/-- A call begins, goes on where it waits for a lock, gets its outcome from the socket, or is
dropped. -/
inductive IceOp where
  | gather (id : Nat) (hostAddrs : List SocketAddr) (srflxAddr relayAddr : Option SocketAddr)
  | setRemote (id : Nat) (candidates : List IceCandidate)
  | check (id : Nat)
  | run (id : Nat)
  | send (id : Nat) (transactionId : ByteArr 12) (ok : Bool)
  | receive (id : Nat) (src : SocketAddr) (data : Bytes)
  | timeout (id : Nat)
  | cancel (id : Nat)
  | restart

section Agent
variable (overflowChecks : Bool) (a : IceAgent)

def IceAgent.wait (id : Nat) (call : IceCall) : IceAgent :=
  { a with calls := a.calls.insert id call }

/-- A call ends, and whatever locks it holds are released. -/
def IceAgent.finish (id : Nat) : IceAgent :=
  { a with
    calls := a.calls.erase id
    localLock := a.localLock.release id
    remoteLock := a.remoteLock.release id }

def IceAgent.begin (id : Nat) (call : IceCall) : IceAgent :=
  match a.calls[id]? with
  | some _ => a
  | none => a.wait id call

/-- The pairs that the checks are about, by their place in the list. -/
def IceAgent.candidatesToCheck : List (Nat × SocketAddr) :=
  (a.pairs.zipIdx.filter (fun e => e.1.state = .waiting ∨ e.1.state = .inProgress)).map
    (fun e => (e.2, e.1.remote.addr))

/-- A call with nothing to check returns at once. -/
def IceAgent.check (id : Nat) : IceAgent :=
  match a.calls[id]?, a.candidatesToCheck with
  | none, target :: targets => a.wait id (.check (.mark (target :: targets)))
  | _, _ => a

/-- The pair at a place is changed, if there still is one. -/
def IceAgent.modifyPair (idx : Nat) (f : CandidatePair → CandidatePair) : IceAgent :=
  { a with pairs := a.pairs.modify idx f }

/-- The pairs are marked in turn, up to one whose counter overflows. -/
def IceAgent.markPairs : IceAgent → List (Nat × SocketAddr) → IceAgent × Bool
  | a, [] => (a, true)
  | a, (idx, _) :: targets =>
    if overflowChecks = true ∧ (a.pairs[idx]?).any (·.checksSent = 4294967295) then (a, false)
    else
      IceAgent.markPairs (a.modifyPair idx (fun p =>
        { p with state := .inProgress, checksSent := p.checksSent + 1 })) targets

/-- The write lock on the remote candidates is held until the call ends, also while the pairs are
formed, which takes the read lock on them. -/
def IceAgent.runSetRemote (id : Nat) (candidates : List IceCandidate) : SetPhase → IceAgent
  | .lockRemote =>
    match a.remoteLock.write id with
    | none => a
    | some remoteLock =>
      { a with remoteLock, remoteCandidates := candidates }.wait id
        (.setRemote candidates .readLocal)
  | .readLocal =>
    match a.localLock.read id with
    | none => a
    | some localLock => { a with localLock }.wait id (.setRemote candidates .readRemote)
  | .readRemote =>
    match a.remoteLock.read id with
    | none => a
    | some remoteLock =>
      match formCandidatePairs overflowChecks a.localCandidates a.remoteCandidates with
      | none => { a with remoteLock }.finish id
      | some pairs => { a with remoteLock }.wait id (.setRemote candidates (.writePairs pairs))
  | .writePairs pairs => { a with pairs }.wait id (.setRemote candidates .writeState)
  | .writeState => { a with state := .checking }.finish id

def IceAgent.runCheck (id : Nat) : IceCheckPhase → IceAgent
  | .mark targets =>
    match IceAgent.markPairs overflowChecks a targets, targets with
    | (a, true), (idx, addr) :: _ => a.wait id (.check (.send idx addr))
    | (a, _), _ => a.finish id
  | .fail idx => (a.modifyPair idx (fun p => { p with state := .failed })).finish id
  | .succeed idx =>
    (a.modifyPair idx (fun p => { p with state := .succeeded, nominated := true })).wait id
      (.check (.connect idx))
  | .connect idx => { a with state := .connected }.wait id (.check (.pick idx))
  | .pick idx =>
    match a.pairs[idx]? with
    | some pair => a.wait id (.check (.select pair))
    | none => a.finish id
  | .select pair => { a with selectedPair := some pair }.finish id
  | .send _ _ | .wait _ _ _ => a

def IceAgent.run (id : Nat) : IceAgent :=
  match a.calls[id]? with
  | some (.gather candidates) =>
    match a.localLock.write id with
    | none => a
    | some localLock =>
      { a with localLock, localCandidates := candidates, state := .gathering }.finish id
  | some (.setRemote candidates phase) => a.runSetRemote overflowChecks id candidates phase
  | some (.check phase) => a.runCheck overflowChecks id phase
  | none => a

def IceAgent.send (id : Nat) (transactionId : ByteArr 12) (ok : Bool) : IceAgent :=
  match a.calls[id]? with
  | some (.check (.send idx addr)) =>
    let request := buildBindingRequest a.localUfrag transactionId
    if ok then
      { a with sent := (addr, request) :: a.sent }.wait id (.check (.wait idx addr request))
    else a.wait id (.check (.fail idx))
  | _ => a

/-- Neither the source nor the transaction id is looked at. -/
def IceAgent.receive (id : Nat) (src : SocketAddr) (data : Bytes) : IceAgent :=
  match a.calls[id]? with
  | some (.check (.wait idx _ _)) =>
    let response := data.take 1500
    let a := { a with received := (src, response) :: a.received }
    if IsBindingSuccess response then a.wait id (.check (.succeed idx)) else a.finish id
  | _ => a

def IceAgent.timeout (id : Nat) : IceAgent :=
  match a.calls[id]? with
  | some (.check (.wait _ _ _)) => a.finish id
  | _ => a

def IceAgent.step : IceOp → IceAgent
  | .gather id hostAddrs srflxAddr relayAddr =>
    a.begin id (.gather (gathered hostAddrs srflxAddr relayAddr))
  | .setRemote id candidates => a.begin id (.setRemote candidates .lockRemote)
  | .check id => a.check id
  | .run id => a.run overflowChecks id
  | .send id transactionId ok => a.send id transactionId ok
  | .receive id src data => a.receive id src data
  | .timeout id => a.timeout id
  | .cancel id => a.finish id
  | .restart => { a with state := .restarting }

def IceAgent.runs (ops : List IceOp) : IceAgent := ops.foldl (IceAgent.step overflowChecks) a

end Agent

section Verified
variable (a : IceAgent)

/-- A response has come from an address, with the transaction id of a request sent there. -/
def IceAgent.Confirmed (addr : SocketAddr) : Prop :=
  ∃ request response, (addr, request) ∈ a.sent ∧ (addr, response) ∈ a.received ∧
    IsBindingSuccess response ∧ slice response 8 20 = slice request 8 20

/-- A pair has succeeded, is nominated or selected only once its remote address is confirmed. -/
structure IceAgent.Verified : Prop where
  pairs : ∀ p ∈ a.pairs, p.state = .succeeded ∨ p.nominated = true → a.Confirmed p.remote.addr
  selected : ∀ p, a.selectedPair = some p → a.Confirmed p.remote.addr

/-- A call of an agent that has no pairs: one that sets the remote candidates waits, once it has
the lock to write them, for a lock that it cannot get. -/
def IceCall.Waits (remoteLock : RwLock Nat) (id : Nat) : IceCall → Prop
  | .gather _ | .setRemote _ .lockRemote => True
  | .setRemote _ .readLocal | .setRemote _ .readRemote => remoteLock.writer = some id
  | .setRemote _ (.writePairs _) | .setRemote _ .writeState | .check _ => False

/-- No pair is ever formed. -/
structure IceAgent.Pairless : Prop where
  pairs : a.pairs = []
  selected : a.selectedPair = none
  calls : ∀ (id : Nat) (call : IceCall), a.calls[id]? = some call → call.Waits a.remoteLock id

end Verified

section Pairless
variable {overflowChecks : Bool} {a : IceAgent} {id : Nat}

theorem IceAgent.Pairless.verified (h : a.Pairless) : a.Verified where
  pairs := by
    rw [h.pairs]
    intro p hp
    exact (List.not_mem_nil hp).elim
  selected := by
    rw [h.selected]
    rintro p ⟨⟩

theorem IceAgent.pairless_new (localUfrag : String) : (IceAgent.new localUfrag).Pairless where
  pairs := rfl
  selected := rfl
  calls := by
    intro id call hcall
    rw [IceAgent.new, Std.TreeMap.getElem?_emptyc] at hcall
    cases hcall

theorem IceAgent.Pairless.wait (h : a.Pairless) {call : IceCall}
    (hcall : call.Waits a.remoteLock id) : (a.wait id call).Pairless where
  pairs := h.pairs
  selected := h.selected
  calls := by
    intro id' call' hcall'
    rw [IceAgent.wait] at hcall'
    dsimp only at hcall'
    rw [getElem?_insert_eq] at hcall'
    split at hcall'
    · next he =>
      cases hcall'
      cases he
      exact hcall
    · exact h.calls id' call' hcall'

theorem IceCall.Waits.release {remoteLock : RwLock Nat} {call : IceCall} {other : Nat}
    (h : call.Waits remoteLock id) (hne : id ≠ other) :
    call.Waits (remoteLock.release other) id := by
  cases call with
  | gather _ => trivial
  | setRemote _ phase =>
    cases phase with
    | lockRemote => trivial
    | readLocal | readRemote => exact RwLock.writer_release h hne
    | writePairs _ | writeState => exact h.elim
  | check _ => exact h.elim

theorem IceAgent.Pairless.finish (h : a.Pairless) (id : Nat) : (a.finish id).Pairless where
  pairs := h.pairs
  selected := h.selected
  calls := by
    intro id' call hcall
    rw [IceAgent.finish] at hcall
    dsimp only at hcall
    rw [getElem?_erase_eq] at hcall
    split at hcall
    · cases hcall
    · next hne => exact (h.calls id' call hcall).release (Ne.symm hne)

theorem IceAgent.Pairless.lockRemote (h : a.Pairless) {remoteLock : RwLock Nat}
    (hlock : a.remoteLock.write id = some remoteLock) (candidates : List IceCandidate) :
    ({ a with remoteLock, remoteCandidates := candidates }.wait id
      (.setRemote candidates .readLocal)).Pairless := by
  obtain ⟨hnone, hsome⟩ := RwLock.write_eq_some hlock
  have hlocked : ({ a with remoteLock, remoteCandidates := candidates } : IceAgent).Pairless := by
    refine ⟨h.pairs, h.selected, ?_⟩
    intro id' call hcall
    have hwaits := h.calls id' call hcall
    cases call with
    | gather _ => trivial
    | setRemote _ phase =>
      cases phase with
      | lockRemote => trivial
      | readLocal | readRemote => cases hnone.symm.trans hwaits
      | writePairs _ | writeState => exact hwaits.elim
    | check _ => exact hwaits.elim
  exact hlocked.wait hsome

theorem IceAgent.Pairless.no_check (h : a.Pairless) (id : Nat) (phase : IceCheckPhase) :
    a.calls[id]? ≠ some (.check phase) :=
  fun hcall => h.calls id _ hcall

theorem IceAgent.Pairless.run (h : a.Pairless) (id : Nat) :
    (a.run overflowChecks id).Pairless := by
  unfold IceAgent.run
  split
  · next candidates _ =>
    split
    · exact h
    · next localLock _ =>
      have hset : ({ a with
          localLock, localCandidates := candidates, state := .gathering } : IceAgent).Pairless :=
        ⟨h.pairs, h.selected, h.calls⟩
      exact hset.finish id
  · next candidates phase hcall =>
    have hwaits := h.calls id _ hcall
    cases phase with
    | lockRemote =>
      rw [IceAgent.runSetRemote]
      split
      · exact h
      · next remoteLock hlock => exact h.lockRemote hlock candidates
    | readLocal =>
      rw [IceAgent.runSetRemote]
      split
      · exact h
      · next localLock _ =>
        exact IceAgent.Pairless.wait (a := { a with localLock })
          ⟨h.pairs, h.selected, h.calls⟩ hwaits
    | readRemote =>
      -- the call itself has the lock that it would read under
      rw [IceAgent.runSetRemote, RwLock.read_of_writer hwaits]
      exact h
    | writePairs _ | writeState => exact hwaits.elim
  · next phase hcall => exact (h.no_check id phase hcall).elim
  · exact h

theorem IceAgent.Pairless.begin (h : a.Pairless) {call : IceCall}
    (hcall : call.Waits a.remoteLock id) : (a.begin id call).Pairless := by
  unfold IceAgent.begin
  split
  · exact h
  · exact h.wait hcall

theorem IceAgent.Pairless.check_eq (h : a.Pairless) (id : Nat) : a.check id = a := by
  have hnone : a.candidatesToCheck = [] := by
    rw [IceAgent.candidatesToCheck, h.pairs]
    rfl
  rw [IceAgent.check, hnone]
  split
  · next hcons => cases hcons
  · rfl

theorem IceAgent.Pairless.send_eq (h : a.Pairless) (id : Nat) (transactionId : ByteArr 12)
    (ok : Bool) : a.send id transactionId ok = a := by
  rw [IceAgent.send]
  split
  · next hcall => exact (h.no_check id _ hcall).elim
  · rfl

theorem IceAgent.Pairless.receive_eq (h : a.Pairless) (id : Nat) (src : SocketAddr)
    (data : Bytes) : a.receive id src data = a := by
  rw [IceAgent.receive]
  split
  · next hcall => exact (h.no_check id _ hcall).elim
  · rfl

theorem IceAgent.Pairless.timeout_eq (h : a.Pairless) (id : Nat) : a.timeout id = a := by
  rw [IceAgent.timeout]
  split
  · next hcall => exact (h.no_check id _ hcall).elim
  · rfl

theorem IceAgent.Pairless.step (h : a.Pairless) (op : IceOp) :
    (a.step overflowChecks op).Pairless := by
  cases op with
  | gather id hostAddrs srflxAddr relayAddr => exact h.begin trivial
  | setRemote id candidates => exact h.begin trivial
  | check id =>
    rw [IceAgent.step, h.check_eq]
    exact h
  | run id => exact h.run id
  | send id transactionId ok =>
    rw [IceAgent.step, h.send_eq]
    exact h
  | receive id src data =>
    rw [IceAgent.step, h.receive_eq]
    exact h
  | timeout id =>
    rw [IceAgent.step, h.timeout_eq]
    exact h
  | cancel id => exact h.finish id
  | restart => exact ⟨h.pairs, h.selected, h.calls⟩

theorem IceAgent.pairless_runs (overflowChecks : Bool) (localUfrag : String) (ops : List IceOp) :
    ((IceAgent.new localUfrag).runs overflowChecks ops).Pairless :=
  run_invariant (IceAgent.step overflowChecks) (IceAgent.pairless_new localUfrag)
    (fun _ op h => h.step op) ops

end Pairless

end P2PMesh.Ice
