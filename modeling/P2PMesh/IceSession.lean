import P2PMesh.IceCheckAccounts

namespace P2PMesh.Ice
open P2PMesh.Base P2PMesh.Puncher
set_option autoImplicit true

/-- The hexadecimal digits of bytes that have been drawn. -/
def encode (bytes : Bytes) : String :=
  String.ofList ((hexEncode bytes).map (fun b => Char.ofNat b.toNat))

/-- How a check comes out whose pairs have been marked. -/
inductive CheckOutcome where
  | sendError
  | noResponse
  | response (src : SocketAddr) (data : Bytes)

/-- What follows on the marking, up to the last step of the call. -/
def CheckOutcome.ops (transactionId : ByteArr 12) : CheckOutcome → List IceOp
  | .sendError => [.send 0 transactionId false]
  | .noResponse => [.send 0 transactionId true, .timeout 0]
  | .response src data =>
    [.send 0 transactionId true, .receive 0 src data, .run 0, .run 0, .run 0]

/-- Calls that are made one after the other. The setting of remote candidates does not return: it is
dropped once it has gone on so many times. -/
inductive IceSessionOp where
  | gather (hostAddrs : List SocketAddr) (srflxAddr relayAddr : Option SocketAddr)
  | setRemote (candidates : List IceCandidate) (turns : Nat)
  | check (transactionId : ByteArr 12) (outcome : CheckOutcome)
  | restart (ufrag : ByteArr 4) (pwd : ByteArr 16)

/-- An agent with its password, the pairs it has selected so far, and those of them that were
selected before a restart since which no check has succeeded. -/
structure IceSession where
  agent : IceAgent
  localPwd : String
  selections : List CandidatePair
  stale : List CandidatePair

def IceSession.new (ufrag : ByteArr 4) (pwd : ByteArr 16) : IceSession :=
  ⟨IceAgent.new (encode ufrag.bytes), encode pwd.bytes, [], []⟩

/-- A session whose pairs have been formed. -/
def IceSession.formed (ufrag : ByteArr 4) (pwd : ByteArr 16) (locals remotes : List IceCandidate)
    (pairs : List CandidatePair) : IceSession :=
  ⟨IceAgent.formed (encode ufrag.bytes) locals remotes pairs, encode pwd.bytes, [], []⟩

/-- The pair that a check is about to select. -/
def IceAgent.selecting (a : IceAgent) : Option CandidatePair :=
  match a.calls[(0 : Nat)]? with
  | some (.check (.select pair)) => some pair
  | _ => none

section Session
variable (overflowChecks : Bool) (s : IceSession)

/-- The agent before the last step of a check. -/
def IceAgent.checking (a : IceAgent) (transactionId : ByteArr 12) (outcome : CheckOutcome) :
    IceAgent :=
  a.runs overflowChecks (.check 0 :: .run 0 :: outcome.ops transactionId)

def IceSession.getLocalCredentials : String × String := (s.agent.localUfrag, s.localPwd)

/-- The credentials that a restart draws are dropped. -/
def IceSession.step : IceSessionOp → IceSession
  | .gather hostAddrs srflxAddr relayAddr =>
    { s with
      agent := s.agent.runs overflowChecks [.gather 0 hostAddrs srflxAddr relayAddr, .run 0] }
  | .setRemote candidates turns =>
    { s with
      agent := s.agent.runs overflowChecks
        (.setRemote 0 candidates :: List.replicate turns (.run 0) ++ [.cancel 0]) }
  | .check transactionId outcome =>
    let called := s.agent.checking overflowChecks transactionId outcome
    let agent := called.step overflowChecks (.run 0)
    match called.selecting with
    | some pair => { s with agent, selections := pair :: s.selections, stale := [] }
    | none => { s with agent }
  | .restart _ _ =>
    { s with agent := s.agent.step overflowChecks .restart, stale := s.selections }

def IceSession.runs (ops : List IceSessionOp) : IceSession :=
  ops.foldl (IceSession.step overflowChecks) s

/-- The agent is connected exactly if it has selected a pair, which is one of its pairs that has
succeeded and is nominated, and which was not selected before a restart. -/
structure IceSession.Coherent : Prop where
  connected : s.agent.state = .connected ↔ s.agent.selectedPair ≠ none
  selected : ∀ p, s.agent.selectedPair = some p →
    p ∈ s.agent.pairs ∧ p.nominated = true ∧ p.state = .succeeded
  fresh : ∀ p, s.agent.selectedPair = some p → p ∉ s.stale

/-- A restart whose draws differ from the credentials leaves others. -/
def IceSession.Renews : IceSessionOp → Prop
  | .restart ufrag pwd =>
    (encode ufrag.bytes, encode pwd.bytes) ≠ s.getLocalCredentials →
      (s.step overflowChecks (.restart ufrag pwd)).getLocalCredentials ≠ s.getLocalCredentials
  | _ => True

/-- Every point of a run is coherent, and every restart renews the credentials. -/
def IceSession.Upholds (ops : List IceSessionOp) : Prop :=
  (∀ ops', ops' <+: ops → (s.runs overflowChecks ops').Coherent) ∧
    Guarded (IceSession.step overflowChecks) (IceSession.Renews overflowChecks) s ops

/-- Candidates are gathered, and the agent restarted, only while no pair is selected; a restart
draws the credentials that the agent has. -/
def IceSession.Spares : IceSessionOp → Prop
  | .gather _ _ _ => s.agent.selectedPair = none
  | .restart ufrag pwd => s.agent.selectedPair = none ∧
    (encode ufrag.bytes, encode pwd.bytes) = s.getLocalCredentials
  | _ => True

end Session

section Calls
variable (overflowChecks : Bool) {a b c : IceAgent}

/-- No call is under way, and no lock is held. -/
structure IceAgent.Idle (a : IceAgent) : Prop where
  calls : a.calls[(0 : Nat)]? = none
  localLock : a.localLock = .free
  remoteLock : a.remoteLock = .free

/-- The selection, the state and the pairs that have succeeded stay as they are. -/
structure IceAgent.Keeps (a b : IceAgent) : Prop where
  selected : b.selectedPair = a.selectedPair
  state : b.state = a.state
  succeeded : ∀ (i : Nat) p, p.state = .succeeded → (b.pairs[i]? = some p ↔ a.pairs[i]? = some p)

theorem IceAgent.Keeps.of_eq (hselected : b.selectedPair = a.selectedPair)
    (hstate : b.state = a.state) (hpairs : b.pairs = a.pairs) : a.Keeps b :=
  ⟨hselected, hstate, fun _ _ _ => by rw [hpairs]⟩

theorem IceAgent.Keeps.trans (h : a.Keeps b) (h' : b.Keeps c) : a.Keeps c where
  selected := h'.selected.trans h.selected
  state := h'.state.trans h.state
  succeeded := fun i p hp => (h'.succeeded i p hp).trans (h.succeeded i p hp)

theorem IceAgent.keeps_modifyPair {idx : Nat} {f : CandidatePair → CandidatePair}
    (hpair : ∀ p, a.pairs[idx]? = some p → p.state ≠ .succeeded)
    (hf : ∀ p, (f p).state ≠ .succeeded) : a.Keeps (a.modifyPair idx f) := by
  refine ⟨rfl, rfl, ?_⟩
  intro i p hp
  rw [getElem?_modifyPair]
  split
  · next hi =>
    apply iff_of_false
    · intro hmap
      obtain ⟨q, -, rfl⟩ := Option.map_eq_some_iff.mp hmap
      exact hf q hp
    · intro hsome
      exact hpair p (hi ▸ hsome) hp
  · rfl

theorem IceAgent.idle_finish (hlocal : (a.localLock.release 0) = .free)
    (hremote : (a.remoteLock.release 0) = .free) : (a.finish 0).Idle := by
  refine ⟨?_, hlocal, hremote⟩
  rw [IceAgent.finish]
  dsimp only
  rw [getElem?_erase_eq, if_pos rfl]

theorem IceAgent.idle_finish_of_free (hlocal : a.localLock = .free)
    (hremote : a.remoteLock = .free) : (a.finish 0).Idle := by
  apply IceAgent.idle_finish
  · rw [hlocal]
    rfl
  · rw [hremote]
    rfl

theorem IceAgent.Idle.run (h : a.Idle) : a.step overflowChecks (.run 0) = a := by
  rw [IceAgent.step, IceAgent.run, h.calls]

theorem CheckOutcome.ops_of_idle (h : a.Idle) (transactionId : ByteArr 12)
    (outcome : CheckOutcome) : a.runs overflowChecks (outcome.ops transactionId) = a := by
  have hsend (ok : Bool) : a.step overflowChecks (.send 0 transactionId ok) = a := by
    rw [IceAgent.step, IceAgent.send, h.calls]
  have htimeout : a.step overflowChecks (.timeout 0) = a := by
    rw [IceAgent.step, IceAgent.timeout, h.calls]
  have hreceive (src : SocketAddr) (data : Bytes) :
      a.step overflowChecks (.receive 0 src data) = a := by
    rw [IceAgent.step, IceAgent.receive, h.calls]
  cases outcome with
  | sendError =>
    simp only [CheckOutcome.ops, IceAgent.runs, List.foldl_cons, List.foldl_nil, hsend]
  | noResponse =>
    simp only [CheckOutcome.ops, IceAgent.runs, List.foldl_cons, List.foldl_nil, hsend, htimeout]
  | response src data =>
    simp only [CheckOutcome.ops, IceAgent.runs, List.foldl_cons, List.foldl_nil, hsend, hreceive,
      h.run overflowChecks]

theorem IceAgent.Idle.gather (h : a.Idle) (hostAddrs : List SocketAddr)
    (srflxAddr relayAddr : Option SocketAddr) :
    ∃ b, a.runs overflowChecks [.gather 0 hostAddrs srflxAddr relayAddr, .run 0] = b ∧ b.Idle ∧
      b.state = .gathering ∧ b.selectedPair = a.selectedPair ∧ b.pairs = a.pairs := by
  let call : IceCall := .gather (gathered hostAddrs srflxAddr relayAddr)
  have hbegin : a.begin 0 call = a.wait 0 call := by
    rw [IceAgent.begin, h.calls]
  have hlock : (a.wait 0 call).localLock.write 0 = some ⟨some 0, []⟩ := by
    change a.localLock.write 0 = _
    rw [h.localLock]
    rfl
  have hrun : (a.wait 0 call).run overflowChecks 0 = { a.wait 0 call with
      localLock := ⟨some 0, []⟩
      localCandidates := gathered hostAddrs srflxAddr relayAddr
      state := .gathering }.finish 0 := by
    rw [IceAgent.run, calls_wait_self]
    dsimp only
    rw [hlock]
  have hfree : a.remoteLock.release 0 = .free := by
    rw [h.remoteLock]
    rfl
  refine ⟨_, ?_, IceAgent.idle_finish (a := { a.wait 0 call with
      localLock := ⟨some 0, []⟩
      localCandidates := gathered hostAddrs srflxAddr relayAddr
      state := .gathering }) rfl hfree, rfl, rfl, rfl⟩
  simp only [IceAgent.runs, List.foldl_cons, List.foldl_nil, IceAgent.step]
  rw [hbegin, hrun]

/-- The locks that the setting of the remote candidates holds where it waits: the local ones to
read and the remote ones to write, which it would read as well. -/
inductive SetPhase.Holds : SetPhase → RwLock Nat → RwLock Nat → Prop where
  | lockRemote : SetPhase.Holds .lockRemote .free .free
  | readLocal : SetPhase.Holds .readLocal .free ⟨some 0, []⟩
  | readRemote : SetPhase.Holds .readRemote ⟨none, [0]⟩ ⟨some 0, []⟩

/-- The remote candidates are being set, and nothing else has changed. -/
structure IceAgent.Sets (a b : IceAgent) (candidates : List IceCandidate) : Prop where
  call : ∃ phase, b.calls[(0 : Nat)]? = some (.setRemote candidates phase) ∧
    phase.Holds b.localLock b.remoteLock
  keeps : a.Keeps b

theorem IceAgent.Sets.run {candidates : List IceCandidate} (h : a.Sets b candidates) :
    a.Sets (b.step overflowChecks (.run 0)) candidates := by
  obtain ⟨phase, hcall, hholds⟩ := h.call
  rw [IceAgent.step, IceAgent.run, hcall]
  generalize hlocal : b.localLock = localLock at hholds
  generalize hremote : b.remoteLock = remoteLock at hholds
  cases hholds with
  | lockRemote =>
    have hlock : b.remoteLock.write 0 = some ⟨some 0, []⟩ := by
      rw [hremote]
      rfl
    dsimp only [IceAgent.runSetRemote]
    rw [hlock]
    refine ⟨⟨.readLocal, calls_wait_self _, ?_⟩, h.keeps.trans (.of_eq rfl rfl rfl)⟩
    change SetPhase.Holds .readLocal b.localLock ⟨some 0, []⟩
    rw [hlocal]
    exact .readLocal
  | readLocal =>
    have hlock : b.localLock.read 0 = some ⟨none, [0]⟩ := by
      rw [hlocal]
      rfl
    dsimp only [IceAgent.runSetRemote]
    rw [hlock]
    refine ⟨⟨.readRemote, calls_wait_self _, ?_⟩, h.keeps.trans (.of_eq rfl rfl rfl)⟩
    change SetPhase.Holds .readRemote ⟨none, [0]⟩ b.remoteLock
    rw [hremote]
    exact .readRemote
  | readRemote =>
    -- the call waits for the lock that it holds itself
    have hlock : b.remoteLock.read 0 = none := by
      rw [hremote]
      rfl
    dsimp only [IceAgent.runSetRemote]
    rw [hlock]
    refine ⟨⟨.readRemote, hcall, ?_⟩, h.keeps⟩
    rw [hlocal, hremote]
    exact .readRemote

theorem IceAgent.Sets.cancel {candidates : List IceCandidate} (h : a.Sets b candidates) :
    (b.finish 0).Idle ∧ a.Keeps (b.finish 0) := by
  obtain ⟨phase, -, hholds⟩ := h.call
  refine ⟨?_, h.keeps.trans (.of_eq rfl rfl rfl)⟩
  generalize hlocal : b.localLock = localLock at hholds
  generalize hremote : b.remoteLock = remoteLock at hholds
  cases hholds with
  | lockRemote | readLocal | readRemote =>
    refine IceAgent.idle_finish ?_ ?_
    · rw [hlocal]
      rfl
    · rw [hremote]
      rfl

theorem IceAgent.Idle.setRemote (h : a.Idle) (candidates : List IceCandidate) (turns : Nat) :
    ∃ b, a.runs overflowChecks
        (.setRemote 0 candidates :: List.replicate turns (.run 0) ++ [.cancel 0]) = b ∧
      b.Idle ∧ a.Keeps b := by
  have hbegin : a.step overflowChecks (.setRemote 0 candidates) =
      a.wait 0 (.setRemote candidates .lockRemote) := by
    rw [IceAgent.step, IceAgent.begin, h.calls]
  have hsets : a.Sets (a.wait 0 (.setRemote candidates .lockRemote)) candidates := by
    refine ⟨⟨.lockRemote, calls_wait_self _, ?_⟩, .of_eq rfl rfl rfl⟩
    change SetPhase.Holds .lockRemote a.localLock a.remoteLock
    rw [h.localLock, h.remoteLock]
    exact .lockRemote
  refine ⟨_, ?_, (?_ : a.Sets ((a.wait 0 (.setRemote candidates .lockRemote)).runs overflowChecks
    (List.replicate turns (.run 0))) candidates).cancel⟩
  · rw [IceAgent.runs, List.cons_append, List.foldl_cons, List.foldl_append, hbegin]
    rfl
  · generalize a.wait 0 (.setRemote candidates .lockRemote) = b at hsets
    induction turns generalizing b with
    | zero => exact hsets
    | succ turns ih => exact ih _ (hsets.run overflowChecks)

theorem IceAgent.keeps_markPairs {targets : List (Nat × SocketAddr)}
    (h : ∀ t ∈ targets, ∀ p, a.pairs[t.1]? = some p → p.state ≠ .succeeded) :
    ∃ b done, IceAgent.markPairs overflowChecks a targets = (b, done) ∧ a.Keeps b ∧
      b.localLock = a.localLock ∧ b.remoteLock = a.remoteLock ∧
        b.pairs.length = a.pairs.length := by
  induction targets generalizing a with
  | nil => exact ⟨a, true, rfl, .of_eq rfl rfl rfl, rfl, rfl, rfl⟩
  | cons t rest ih =>
    rw [markPairs_cons]
    split
    · exact ⟨a, false, rfl, .of_eq rfl rfl rfl, rfl, rfl, rfl⟩
    · have hmarked : a.Keeps (a.modifyPair t.1 CandidatePair.marked) := by
        refine IceAgent.keeps_modifyPair (h t List.mem_cons_self) ?_
        rintro p ⟨⟩
      have hrest : ∀ t' ∈ rest, ∀ p, (a.modifyPair t.1 CandidatePair.marked).pairs[t'.1]? = some p →
          p.state ≠ .succeeded := by
        intro t' ht' p hp hstate
        exact h t' (List.mem_cons_of_mem t ht') p ((hmarked.succeeded t'.1 p hstate).mp hp) hstate
      obtain ⟨b, done, hb, hkeeps, hlocal, hremote, hlength⟩ := ih hrest
      refine ⟨b, done, hb, hmarked.trans hkeeps, hlocal, hremote, hlength.trans ?_⟩
      exact List.length_modify _ _ _

/-- The call checks a pair that has not succeeded, and nothing that has is changed by it. -/
structure IceAgent.Checks (a b : IceAgent) (idx : Nat) (phase : IceCheckPhase) : Prop where
  call : b.calls[(0 : Nat)]? = some (.check phase)
  localLock : b.localLock = .free
  remoteLock : b.remoteLock = .free
  keeps : a.Keeps b
  pair : ∃ p, b.pairs[idx]? = some p ∧ p.state ≠ .succeeded

/-- A call has come to its end and selects no pair. -/
def IceAgent.Leaves (a b : IceAgent) : Prop := b.Idle ∧ a.Keeps b

/-- A pair has succeeded and is nominated and selected. -/
structure IceAgent.Selects (b : IceAgent) (p : CandidatePair) : Prop where
  idle : b.Idle
  state : b.state = .connected
  selected : b.selectedPair = some p
  mem : p ∈ b.pairs
  nominated : p.nominated = true
  succeeded : p.state = .succeeded

theorem IceAgent.Checks.wait (h : a.Checks b idx phase) (sent received : List (SocketAddr × Bytes))
    (phase' : IceCheckPhase) :
    a.Checks ({ b with sent, received }.wait 0 (.check phase')) idx phase' :=
  ⟨calls_wait_self _, h.localLock, h.remoteLock, h.keeps.trans (.of_eq rfl rfl rfl), h.pair⟩

theorem IceAgent.Checks.finish (h : a.Checks b idx phase)
    (received : List (SocketAddr × Bytes)) : a.Leaves ({ b with received }.finish 0) := by
  refine ⟨IceAgent.idle_finish_of_free ?_ ?_, h.keeps.trans (.of_eq rfl rfl rfl)⟩
  · exact h.localLock
  · exact h.remoteLock

theorem IceAgent.not_succeeded_of_mem (h : (idx, addr) ∈ a.candidatesToCheck)
    (hp : a.pairs[idx]? = some p) : p.state ≠ .succeeded := by
  obtain ⟨q, hq, hstate, -⟩ := mem_candidatesToCheck.mp h
  cases hq.symm.trans hp
  rintro he
  rw [he] at hstate
  rcases hstate with ⟨⟨⟩⟩ | ⟨⟨⟩⟩

theorem IceAgent.step_mark {targets : List (Nat × SocketAddr)} {done : Bool}
    (hcall : a.calls[(0 : Nat)]? = some (.check (.mark ((idx, addr) :: targets))))
    (hmark : IceAgent.markPairs overflowChecks a ((idx, addr) :: targets) = (b, done)) :
    a.step overflowChecks (.run 0) =
      if done = true then b.wait 0 (.check (.send idx addr)) else b.finish 0 := by
  rw [IceAgent.step, IceAgent.run, hcall]
  dsimp only [IceAgent.runCheck]
  rw [hmark]
  cases done with
  | true => rfl
  | false => rfl

theorem IceAgent.Idle.mark (h : a.Idle) :
    ∃ b, a.runs overflowChecks [.check 0, .run 0] = b ∧
      (a.Leaves b ∨ ∃ idx addr, a.Checks b idx (.send idx addr)) := by
  cases htargets : a.candidatesToCheck with
  | nil =>
    have hcheck : a.step overflowChecks (.check 0) = a := by
      rw [IceAgent.step, IceAgent.check, htargets, h.calls]
    refine ⟨a, ?_, .inl ⟨h, .of_eq rfl rfl rfl⟩⟩
    simp only [IceAgent.runs, List.foldl_cons, List.foldl_nil, hcheck, h.run overflowChecks]
  | cons target targets =>
    obtain ⟨idx, addr⟩ := target
    let called := a.wait 0 (.check (.mark ((idx, addr) :: targets)))
    have hcheck : a.step overflowChecks (.check 0) = called := by
      rw [IceAgent.step, IceAgent.check, htargets, h.calls]
    have hunsucceeded : ∀ t ∈ (idx, addr) :: targets, ∀ p, called.pairs[t.1]? = some p →
        p.state ≠ .succeeded := by
      rw [← htargets]
      rintro ⟨i, dst⟩ ht p hp
      exact IceAgent.not_succeeded_of_mem ht hp
    obtain ⟨b, done, hb, hkeeps, hlocal, hremote, hlength⟩ :=
      IceAgent.keeps_markPairs overflowChecks hunsucceeded
    have hkept : a.Keeps b := ⟨hkeeps.selected, hkeeps.state, hkeeps.succeeded⟩
    have hrun := IceAgent.step_mark (a := called) overflowChecks (calls_wait_self _) hb
    refine ⟨_, rfl, ?_⟩
    simp only [IceAgent.runs, List.foldl_cons, List.foldl_nil, hcheck, hrun]
    cases done with
    | false =>
      refine .inl ⟨IceAgent.idle_finish_of_free ?_ ?_, hkept.trans (.of_eq rfl rfl rfl)⟩
      · exact hlocal.trans h.localLock
      · exact hremote.trans h.remoteLock
    | true =>
      refine .inr ⟨idx, addr, calls_wait_self _, hlocal.trans h.localLock,
        hremote.trans h.remoteLock, hkept.trans (.of_eq rfl rfl rfl), ?_⟩
      have htarget : (idx, addr) ∈ a.candidatesToCheck := htargets ▸ List.mem_cons_self
      obtain ⟨q, hq, -⟩ := mem_candidatesToCheck.mp htarget
      have hidx : idx < b.pairs.length := by
        rw [hlength]
        exact (List.getElem?_eq_some_iff.mp hq).1
      refine ⟨b.pairs[idx], List.getElem?_eq_getElem hidx, ?_⟩
      intro hstate
      have hbefore := (hkept.succeeded idx _ hstate).mp (List.getElem?_eq_getElem hidx)
      exact IceAgent.not_succeeded_of_mem htarget hbefore hstate

theorem IceAgent.Checks.send (h : a.Checks b idx (.send idx addr)) (transactionId : ByteArr 12)
    (ok : Bool) : ∃ phase, a.Checks (b.step overflowChecks (.send 0 transactionId ok)) idx phase ∧
      phase = if ok = true then .wait idx addr (buildBindingRequest b.localUfrag transactionId)
        else .fail idx := by
  refine ⟨_, ?_, rfl⟩
  rw [IceAgent.step, IceAgent.send, h.call]
  cases ok with
  | false => exact h.wait b.sent b.received (.fail idx)
  | true =>
    exact h.wait ((addr, buildBindingRequest b.localUfrag transactionId) :: b.sent) b.received
      (.wait idx addr (buildBindingRequest b.localUfrag transactionId))

theorem IceAgent.Checks.fail (h : a.Checks b idx (.fail idx)) :
    a.Leaves (b.step overflowChecks (.run 0)) := by
  have hfails : b.Keeps (b.modifyPair idx (fun p => { p with state := .failed })) := by
    refine IceAgent.keeps_modifyPair ?_ ?_
    · intro p hp
      obtain ⟨q, hq, hstate⟩ := h.pair
      cases hq.symm.trans hp
      exact hstate
    · rintro p ⟨⟩
  have hfailed : a.Checks (b.modifyPair idx (fun p => { p with state := .failed })) idx
      (.fail idx) := by
    refine ⟨h.call, h.localLock, h.remoteLock, h.keeps.trans hfails, ?_⟩
    obtain ⟨q, hq, -⟩ := h.pair
    refine ⟨{ q with state := .failed }, ?_, by rintro ⟨⟩⟩
    rw [getElem?_modifyPair, if_pos rfl, hq, Option.map_some]
  rw [IceAgent.step, IceAgent.run, h.call]
  exact hfailed.finish b.received

theorem IceAgent.Checks.timeout (h : a.Checks b idx (.wait idx addr request)) :
    a.Leaves (b.step overflowChecks (.timeout 0)) := by
  rw [IceAgent.step, IceAgent.timeout, h.call]
  exact h.finish b.received

theorem IceAgent.Checks.receive (h : a.Checks b idx (.wait idx addr request)) (src : SocketAddr)
    (data : Bytes) : a.Leaves (b.step overflowChecks (.receive 0 src data)) ∨
      a.Checks (b.step overflowChecks (.receive 0 src data)) idx (.succeed idx) := by
  rw [IceAgent.step, IceAgent.receive, h.call]
  dsimp only
  split
  · exact .inr (h.wait b.sent ((src, data.take 1500) :: b.received) (.succeed idx))
  · exact .inl (h.finish ((src, data.take 1500) :: b.received))

theorem IceAgent.Checks.succeed (h : a.Checks b idx (.succeed idx)) :
    ∃ p, (b.runs overflowChecks [.run 0, .run 0, .run 0]).selecting = some p ∧
      ((b.runs overflowChecks [.run 0, .run 0, .run 0]).step overflowChecks
        (.run 0)).Selects p := by
  obtain ⟨q, hq, -⟩ := h.pair
  let p : CandidatePair := { q with state := .succeeded, nominated := true }
  let c := b.modifyPair idx (fun p => { p with state := .succeeded, nominated := true })
  have hp : c.pairs[idx]? = some p := by
    rw [getElem?_modifyPair, if_pos rfl, hq, Option.map_some]
  have hsucceed : b.step overflowChecks (.run 0) = c.wait 0 (.check (.connect idx)) := by
    rw [IceAgent.step, IceAgent.run, h.call]
    rfl
  have hconnect : (c.wait 0 (.check (.connect idx))).step overflowChecks (.run 0) =
      { c.wait 0 (.check (.connect idx)) with state := .connected }.wait 0
        (.check (.pick idx)) := by
    rw [IceAgent.step, IceAgent.run, calls_wait_self]
    rfl
  let connected := { c.wait 0 (.check (.connect idx)) with state := .connected }
  have hpick : (connected.wait 0 (.check (.pick idx))).step overflowChecks (.run 0) =
      (connected.wait 0 (.check (.pick idx))).wait 0 (.check (.select p)) := by
    rw [IceAgent.step, IceAgent.run, calls_wait_self]
    dsimp only [IceAgent.runCheck]
    rw [show (connected.wait 0 (.check (.pick idx))).pairs[idx]? = some p from hp]
  let picked := connected.wait 0 (.check (.pick idx))
  have hselect : (picked.wait 0 (.check (.select p))).step overflowChecks (.run 0) =
      { picked.wait 0 (.check (.select p)) with selectedPair := some p }.finish 0 := by
    rw [IceAgent.step, IceAgent.run, calls_wait_self]
    rfl
  have hruns : b.runs overflowChecks [.run 0, .run 0, .run 0] =
      picked.wait 0 (.check (.select p)) := by
    simp only [IceAgent.runs, List.foldl_cons, List.foldl_nil, hsucceed, hconnect]
    exact hpick
  refine ⟨p, ?_, ?_⟩
  · rw [hruns, IceAgent.selecting, calls_wait_self]
  · rw [hruns, hselect]
    refine ⟨IceAgent.idle_finish_of_free ?_ ?_, rfl, rfl, List.mem_of_getElem? hp, rfl, rfl⟩
    · exact h.localLock
    · exact h.remoteLock

theorem IceAgent.Idle.selecting (h : a.Idle) : a.selecting = none := by
  rw [IceAgent.selecting, h.calls]

theorem IceAgent.selecting_of_call (hcall : a.calls[(0 : Nat)]? = some (.check phase))
    (hphase : ∀ p, phase ≠ .select p) : a.selecting = none := by
  rw [IceAgent.selecting, hcall]
  cases phase with
  | select p => exact (hphase p rfl).elim
  | mark _ | send _ _ | fail _ | wait _ _ _ | succeed _ | connect _ | pick _ => rfl

/-- What a check comes to: it leaves what has succeeded as it is, or selects a pair. -/
theorem IceAgent.Idle.check (h : a.Idle) (transactionId : ByteArr 12) (outcome : CheckOutcome) :
    ∃ b, a.checking overflowChecks transactionId outcome = b ∧
      (b.selecting = none ∧ a.Leaves (b.step overflowChecks (.run 0)) ∨
        ∃ p, b.selecting = some p ∧ (b.step overflowChecks (.run 0)).Selects p) := by
  have hleaves {b : IceAgent} (hb : a.Leaves b) :
      b.selecting = none ∧ a.Leaves (b.step overflowChecks (.run 0)) := by
    rw [hb.1.run overflowChecks]
    exact ⟨hb.1.selecting, hb⟩
  refine ⟨_, rfl, ?_⟩
  obtain ⟨b, hb, hend | ⟨idx, addr, hsend⟩⟩ := h.mark overflowChecks
  · have hruns : a.checking overflowChecks transactionId outcome = b := by
      refine Eq.trans ?_ (CheckOutcome.ops_of_idle overflowChecks hend.1 transactionId outcome)
      rw [← hb]
      rfl
    rw [hruns]
    exact .inl (hleaves hend)
  · have hruns : a.checking overflowChecks transactionId outcome =
        b.runs overflowChecks (outcome.ops transactionId) := by
      rw [← hb]
      rfl
    rw [hruns]
    cases outcome with
    | sendError =>
      obtain ⟨_, hfail, rfl⟩ := hsend.send overflowChecks transactionId false
      exact .inl ⟨selecting_of_call hfail.call (by rintro p ⟨⟩), hfail.fail overflowChecks⟩
    | noResponse =>
      obtain ⟨_, hwait, rfl⟩ := hsend.send overflowChecks transactionId true
      exact .inl (hleaves (hwait.timeout overflowChecks))
    | response src data =>
      obtain ⟨_, hwait, rfl⟩ := hsend.send overflowChecks transactionId true
      rcases hwait.receive overflowChecks src data with hend | hsucceed
      · have hidle : b.runs overflowChecks (CheckOutcome.ops transactionId
            (.response src data)) = (b.step overflowChecks (.send 0 transactionId true)).step
              overflowChecks (.receive 0 src data) := by
          simp only [CheckOutcome.ops, IceAgent.runs, List.foldl_cons, List.foldl_nil,
            hend.1.run overflowChecks]
        rw [hidle]
        exact .inl (hleaves hend)
      · exact .inr (hsucceed.succeed overflowChecks)

end Calls

section Coherence
variable (overflowChecks : Bool) {s : IceSession}

theorem IceSession.Coherent.of_keeps (h : s.Coherent) {b : IceAgent} (hkeeps : s.agent.Keeps b) :
    { s with agent := b }.Coherent := by
  constructor
  · rw [hkeeps.state, hkeeps.selected]
    exact h.connected
  · intro p hp
    rw [hkeeps.selected] at hp
    obtain ⟨hmem, hnominated, hstate⟩ := h.selected p hp
    obtain ⟨i, hi⟩ := List.mem_iff_getElem?.mp hmem
    exact ⟨List.mem_of_getElem? ((hkeeps.succeeded i p hstate).mpr hi), hnominated, hstate⟩
  · intro p hp
    rw [hkeeps.selected] at hp
    exact h.fresh p hp

theorem IceSession.coherent_of_selects {b : IceAgent} (h : b.Selects p) (localPwd : String)
    (selections : List CandidatePair) : (⟨b, localPwd, selections, []⟩ : IceSession).Coherent := by
  constructor
  · rw [h.state, h.selected]
    exact iff_of_true rfl (by rintro ⟨⟩)
  · intro q hq
    rw [h.selected] at hq
    cases hq
    exact ⟨h.mem, h.nominated, h.succeeded⟩
  · intro q _
    exact List.not_mem_nil

theorem IceSession.coherent_iff_of_state (h : s.agent.state ≠ .connected) :
    s.Coherent ↔ s.agent.selectedPair = none := by
  constructor
  · intro hcoherent
    by_contra hselected
    exact h (hcoherent.connected.mpr hselected)
  · intro hnone
    refine ⟨iff_of_false h (fun hselected => hselected hnone), ?_, ?_⟩
    · rw [hnone]
      rintro p ⟨⟩
    · rw [hnone]
      rintro p ⟨⟩

theorem IceSession.idle_step (h : s.agent.Idle) (op : IceSessionOp) :
    (s.step overflowChecks op).agent.Idle := by
  cases op with
  | gather hostAddrs srflxAddr relayAddr =>
    obtain ⟨b, hb, hidle, -⟩ := h.gather overflowChecks hostAddrs srflxAddr relayAddr
    rw [IceSession.step, hb]
    exact hidle
  | setRemote candidates turns =>
    obtain ⟨b, hb, hidle, -⟩ := h.setRemote overflowChecks candidates turns
    rw [IceSession.step, hb]
    exact hidle
  | check transactionId outcome =>
    obtain ⟨b, hb, ⟨hnone, hleaves⟩ | ⟨p, hsome, hselects⟩⟩ :=
      h.check overflowChecks transactionId outcome
    · rw [IceSession.step, hb, hnone]
      exact hleaves.1
    · rw [IceSession.step, hb, hsome]
      exact hselects.idle
  | restart ufrag pwd => exact ⟨h.calls, h.localLock, h.remoteLock⟩

theorem IceSession.renews_restart_iff (ufrag : ByteArr 4) (pwd : ByteArr 16) :
    s.Renews overflowChecks (.restart ufrag pwd) ↔
      (encode ufrag.bytes, encode pwd.bytes) = s.getLocalCredentials := by
  constructor
  · intro h
    by_contra hdiffer
    exact h hdiffer rfl
  · intro hsame hdiffer
    exact (hdiffer hsame).elim

/-- Each call keeps the session coherent and renews what it has to exactly if it spares the
selection. -/
theorem IceSession.Coherent.step_iff (h : s.Coherent) (hidle : s.agent.Idle)
    (op : IceSessionOp) :
    (s.step overflowChecks op).Coherent ∧ s.Renews overflowChecks op ↔ s.Spares op := by
  cases op with
  | gather hostAddrs srflxAddr relayAddr =>
    obtain ⟨b, hb, -, hstate, hselected, -⟩ :=
      hidle.gather overflowChecks hostAddrs srflxAddr relayAddr
    have hgathering : (s.step overflowChecks
        (.gather hostAddrs srflxAddr relayAddr)).agent.state ≠ .connected := by
      rw [IceSession.step, hb]
      dsimp only
      rw [hstate]
      rintro ⟨⟩
    refine (and_iff_left trivial).trans ((coherent_iff_of_state hgathering).trans ?_)
    rw [IceSession.step, hb]
    dsimp only
    rw [hselected]
    rfl
  | setRemote candidates turns =>
    obtain ⟨b, hb, -, hkeeps⟩ := hidle.setRemote overflowChecks candidates turns
    refine iff_of_true ⟨?_, trivial⟩ trivial
    rw [IceSession.step, hb]
    exact h.of_keeps hkeeps
  | check transactionId outcome =>
    refine iff_of_true ⟨?_, trivial⟩ trivial
    obtain ⟨b, hb, ⟨hnone, hleaves⟩ | ⟨p, hsome, hselects⟩⟩ :=
      hidle.check overflowChecks transactionId outcome
    · rw [IceSession.step, hb, hnone]
      exact h.of_keeps hleaves.2
    · rw [IceSession.step, hb, hsome]
      exact coherent_of_selects hselects _ _
  | restart ufrag pwd =>
    have hrestarting : (s.step overflowChecks (.restart ufrag pwd)).agent.state ≠ .connected := by
      rintro ⟨⟩
    rw [coherent_iff_of_state hrestarting, renews_restart_iff]
    rfl

theorem IceSession.upholds_iff (h : s.agent.Idle) (hstate : s.agent.state ≠ .connected)
    (hnone : s.agent.selectedPair = none) (ops : List IceSessionOp) :
    s.Upholds overflowChecks ops ↔
      Guarded (IceSession.step overflowChecks) IceSession.Spares s ops :=
  forall_prefix_and_guarded_iff_of (W := fun s => s.agent.Idle) (J := IceSession.Coherent) h
    (fun _ op hs => idle_step overflowChecks hs op) ((coherent_iff_of_state hstate).mpr hnone)
    (fun _ op hs hj => hj.step_iff overflowChecks hs op) ops

end Coherence

/-- Both of a new agent and of one whose pairs have been formed: at every point of a sequence of
calls the state, the pairs and the selection agree, and each restart renews the credentials, exactly
if candidates are gathered and the agent is restarted only while no pair is selected, and each
restart draws the credentials that the agent has already. -/
theorem session_coherent_iff (overflowChecks : Bool) (ufrag : ByteArr 4) (pwd : ByteArr 16)
    (locals remotes : List IceCandidate) (pairs : List CandidatePair) (ops : List IceSessionOp) :
    ((IceSession.new ufrag pwd).Upholds overflowChecks ops ↔
      Guarded (IceSession.step overflowChecks) IceSession.Spares (IceSession.new ufrag pwd) ops) ∧
    ((IceSession.formed ufrag pwd locals remotes pairs).Upholds overflowChecks ops ↔
      Guarded (IceSession.step overflowChecks) IceSession.Spares
        (IceSession.formed ufrag pwd locals remotes pairs) ops) := by
  have hnew : (IceSession.new ufrag pwd).agent.Idle := ⟨Std.TreeMap.getElem?_emptyc, rfl, rfl⟩
  have hformed : (IceSession.formed ufrag pwd locals remotes pairs).agent.Idle :=
    ⟨calls_formed _ locals remotes pairs 0, rfl, rfl⟩
  exact ⟨IceSession.upholds_iff overflowChecks hnew (by rintro ⟨⟩) rfl ops,
    IceSession.upholds_iff overflowChecks hformed (by rintro ⟨⟩) rfl ops⟩

def exampleUfrag : ByteArr 4 := ⟨List.replicate 4 0, rfl⟩

def examplePwd : ByteArr 16 := ⟨List.replicate 16 0, rfl⟩

def exampleSession : IceSession :=
  .formed exampleUfrag examplePwd [exampleCandidate 0x0A000001] [exampleCandidate 0x0A000002]
    [examplePair 0x0A000002 .waiting 0]

/-- A check whose request is answered by a Binding Success Response. -/
def answeredCheck : IceSessionOp :=
  .check zeroTransaction (.response ⟨.v4 0x0A000002, 9000⟩
    (bindingResponse zeroTransaction.bytes))

/-- A new agent has the credentials after a restart that it had before it; once a pair has been
selected, it stays selected when candidates are gathered anew and after a restart. -/
theorem selection_outlives_restart :
    ¬ (IceSession.new exampleUfrag examplePwd).Upholds false
      [.restart exampleUfrag ⟨List.replicate 16 1, rfl⟩] ∧
    ¬ (exampleSession.runs false [answeredCheck, .gather [] none none]).Coherent ∧
    ¬ (exampleSession.runs false [answeredCheck, .restart exampleUfrag examplePwd]).Coherent := by
  refine ⟨?_, ?_, ?_⟩
  · intro h
    exact h.2.1 (by decide +kernel) rfl
  · intro h
    exact absurd h.connected (by decide +kernel)
  · intro h
    exact absurd h.connected (by decide +kernel)

end P2PMesh.Ice
