import P2PMesh.Base.Counter
import P2PMesh.Base.Tally
import P2PMesh.IcePairs

namespace P2PMesh.Ice
open P2PMesh.Base
set_option autoImplicit true

/-- What calls of `perform_connectivity_checks` do, each of which goes on by itself. -/
inductive CheckOp where
  | check (id : Nat)
  | run (id : Nat)
  | send (id : Nat) (transactionId : ByteArr 12) (ok : Bool)
  | receive (id : Nat) (src : SocketAddr) (data : Bytes)
  | timeout (id : Nat)
  | cancel (id : Nat)

def CheckOp.toIceOp : CheckOp → IceOp
  | .check id => .check id
  | .run id => .run id
  | .send id transactionId ok => .send id transactionId ok
  | .receive id src data => .receive id src data
  | .timeout id => .timeout id
  | .cancel id => .cancel id

/-- The call has marked its pairs and is about to send the request for this one. -/
def IceCall.sends (idx : Nat) : IceCall → Bool
  | .check (.send i _) => decide (i = idx)
  | _ => false

/-- The agent with the requests that have been sent so far, each for a pair and to an address, and
the number of calls that have returned no candidate. -/
structure CheckRun where
  agent : IceAgent
  requests : List (Nat × SocketAddr)
  failedCalls : Nat

def IceAgent.checkRun (a : IceAgent) : CheckRun := ⟨a, [], 0⟩

/-- The counter of the pair is at its end. -/
def IceAgent.full (a : IceAgent) (idx : Nat) : Bool :=
  (a.pairs[idx]?).any (·.checksSent = 4294967295)

section Run
variable (overflowChecks : Bool) (r : CheckRun)

def CheckRun.requestedBy : CheckOp → List (Nat × SocketAddr)
  | .send id _ true =>
    match r.agent.calls[id]? with
    | some (.check (.send idx addr)) => [(idx, addr)]
    | _ => []
  | _ => []

/-- A call comes to its end here, with no candidate. -/
def CheckRun.failsBy : CheckOp → Bool
  | .check id => (r.agent.calls[id]?).isNone && r.agent.candidatesToCheck.isEmpty
  | .run id =>
    match r.agent.calls[id]? with
    | some (.check (.fail _)) => true
    | some (.check (.pick idx)) => (r.agent.pairs[idx]?).isNone
    | _ => false
  | .receive id _ data =>
    match r.agent.calls[id]? with
    | some (.check (.wait _ _ _)) => !decide (IsBindingSuccess (data.take 1500))
    | _ => false
  | .timeout id =>
    match r.agent.calls[id]? with
    | some (.check (.wait _ _ _)) => true
    | _ => false
  | _ => false

def CheckRun.step (op : CheckOp) : CheckRun :=
  ⟨r.agent.step overflowChecks op.toIceOp, r.requests ++ r.requestedBy op,
    r.failedCalls + (r.failsBy op).toNat⟩

def CheckRun.runs (ops : List CheckOp) : CheckRun := ops.foldl (CheckRun.step overflowChecks) r

/-- The requests for a pair that calls are about to send. -/
def CheckRun.pending (idx : Nat) : Nat := tally (fun _ call => call.sends idx) r.agent.calls

/-- The requests for a pair that have been sent to its remote address. -/
def CheckRun.requested (idx : Nat) (p : CandidatePair) : Nat :=
  r.requests.count (idx, p.remote.addr)

/-- The counters count the requests that are sent, a pair in progress has had one, and the pairs
unfrozen at the start have had theirs once as many calls have failed as there are of them. -/
structure CheckRun.Accounted (start : IceAgent) : Prop where
  counted : ∀ (idx : Nat) p, r.agent.pairs[idx]? = some p →
    p.checksSent.toNat = r.requested idx p + r.pending idx
  inProgress : ∀ (idx : Nat) p, r.agent.pairs[idx]? = some p → p.state = .inProgress →
    0 < r.requested idx p + r.pending idx
  served : start.pairs.countP (fun p => p.state ≠ .frozen) ≤ r.failedCalls →
    ∀ (idx : Nat) p p', start.pairs[idx]? = some p → p.state ≠ .frozen →
      r.agent.pairs[idx]? = some p' → 0 < r.requested idx p'

/-- A call that marks its pairs has only one, whose counter has room, or panics at once; a request
is sent without an error; no call is dropped that is about to send one. -/
def CheckRun.Reaches : CheckOp → Prop
  | .run id => ∀ targets, r.agent.calls[id]? = some (.check (.mark targets)) →
    ∃ idx addr rest, targets = (idx, addr) :: rest ∧
      (if r.agent.full idx = true then overflowChecks = true else rest = [])
  | .send id _ ok => ∀ idx addr, r.agent.calls[id]? = some (.check (.send idx addr)) → ok = true
  | .cancel id => ∀ idx addr, r.agent.calls[id]? ≠ some (.check (.send idx addr))
  | _ => True

end Run

section Targets
variable {a b : IceAgent}

theorem mem_candidatesToCheck {idx : Nat} {addr : SocketAddr} :
    (idx, addr) ∈ a.candidatesToCheck ↔ ∃ p, a.pairs[idx]? = some p ∧
      (p.state = .waiting ∨ p.state = .inProgress) ∧ p.remote.addr = addr := by
  simp only [IceAgent.candidatesToCheck, List.mem_map, List.mem_filter, decide_eq_true_eq,
    Prod.mk.injEq]
  constructor
  · rintro ⟨⟨p, i⟩, ⟨hmem, hstate⟩, rfl, rfl⟩
    exact ⟨p, List.mem_zipIdx_iff_getElem?.mp hmem, hstate, rfl⟩
  · rintro ⟨p, hp, hstate, rfl⟩
    exact ⟨(p, idx), ⟨List.mem_zipIdx_iff_getElem?.mpr hp, hstate⟩, rfl, rfl⟩

theorem candidatesToCheck_nodup (a : IceAgent) : (a.candidatesToCheck.map Prod.fst).Nodup := by
  have hplaces : (a.pairs.zipIdx.map Prod.snd).Nodup := by
    rw [List.zipIdx_map_snd]
    exact List.nodup_range'
  rw [IceAgent.candidatesToCheck, List.map_map]
  exact hplaces.sublist (List.filter_sublist.map Prod.snd)

theorem candidatesToCheck_congr (h : a.pairs = b.pairs) :
    a.candidatesToCheck = b.candidatesToCheck := by
  rw [IceAgent.candidatesToCheck, IceAgent.candidatesToCheck, h]

theorem eq_nil_or_singleton {c : α} {l : List α} (hn : l.Nodup) (hc : ∀ x ∈ l, x = c) :
    l = [] ∨ l = [c] := by
  cases l with
  | nil => exact .inl rfl
  | cons x rest =>
    have hrest : rest = [] := by
      apply List.eq_nil_iff_forall_not_mem.mpr
      intro y hy
      have hxy : y = x := (hc y (List.mem_cons_of_mem x hy)).trans (hc x List.mem_cons_self).symm
      exact (List.nodup_cons.mp hn).1 (hxy ▸ hy)
    rw [hrest, hc x List.mem_cons_self]
    exact .inr rfl

/-- Pairs as they are formed: none has been checked. -/
def Unchecked (pairs : List CandidatePair) : Prop :=
  ∀ p ∈ pairs, p.checksSent = 0 ∧ (p.state = .waiting ∨ p.state = .frozen)

theorem formCandidatePairs_unchecked {locals remotes : List IceCandidate}
    (h : formCandidatePairs overflowChecks locals remotes = some pairs) : Unchecked pairs := by
  obtain ⟨sorted, rfl, hperm, -⟩ := formCandidatePairs_eq_some h
  have hfresh : ∀ p ∈ sorted, p.state = .frozen ∧ p.checksSent = 0 :=
    fun p hp => compatiblePairs_fresh (hperm.mem_iff.mp hp)
  intro p hp
  rcases List.mem_append.mp hp with hfirst | hlater
  · obtain ⟨q, hq, rfl⟩ := List.mem_map.mp hfirst
    exact ⟨(hfresh q (List.mem_of_mem_take hq)).2, .inl rfl⟩
  · obtain ⟨hfrozen, hzero⟩ := hfresh p (List.mem_of_mem_drop hlater)
    exact ⟨hzero, .inr hfrozen⟩

end Targets

section Marking
variable (overflowChecks : Bool)

/-- A pair for which a request is to be sent. -/
def CandidatePair.marked (p : CandidatePair) : CandidatePair :=
  { p with state := .inProgress, checksSent := p.checksSent + 1 }

theorem getElem?_modifyPair (a : IceAgent) (idx j : Nat) (f : CandidatePair → CandidatePair) :
    (a.modifyPair idx f).pairs[j]? = if idx = j then a.pairs[j]?.map f else a.pairs[j]? := by
  rw [IceAgent.modifyPair, List.getElem?_modify]
  split
  · rfl
  · exact Option.map_id'

theorem markPairs_cons (a : IceAgent) (idx : Nat) (addr : SocketAddr)
    (targets : List (Nat × SocketAddr)) :
    IceAgent.markPairs overflowChecks a ((idx, addr) :: targets) =
      if overflowChecks = true ∧ a.full idx = true then (a, false)
      else IceAgent.markPairs overflowChecks (a.modifyPair idx CandidatePair.marked) targets :=
  rfl

theorem markPairs_pairs {a : IceAgent} {targets : List (Nat × SocketAddr)}
    (hn : (targets.map Prod.fst).Nodup) (hfull : ∀ t ∈ targets, a.full t.1 = false) :
    ∃ b, IceAgent.markPairs overflowChecks a targets = (b, true) ∧ b.calls = a.calls ∧ ∀ j,
      b.pairs[j]? = if j ∈ targets.map Prod.fst then a.pairs[j]?.map CandidatePair.marked
        else a.pairs[j]? := by
  induction targets generalizing a with
  | nil => exact ⟨a, rfl, rfl, fun j => rfl⟩
  | cons t rest ih =>
    obtain ⟨hnot, hrest⟩ := List.nodup_cons.mp hn
    have hhead := hfull t List.mem_cons_self
    have hlater : ∀ t' ∈ rest, (a.modifyPair t.1 CandidatePair.marked).full t'.1 = false := by
      intro t' ht'
      have hne : t.1 ≠ t'.1 := fun he => hnot (he ▸ List.mem_map_of_mem ht')
      rw [IceAgent.full, getElem?_modifyPair, if_neg hne]
      exact hfull t' (List.mem_cons_of_mem t ht')
    obtain ⟨b, hb, hcalls, hpairs⟩ := ih hrest hlater
    refine ⟨b, ?_, hcalls, ?_⟩
    · rw [markPairs_cons, hhead, if_neg (fun h => Bool.false_ne_true h.2)]
      exact hb
    · intro j
      rw [hpairs, getElem?_modifyPair]
      by_cases hj : t.1 = j
      · rw [if_pos hj, if_neg (hj ▸ hnot), if_pos (hj ▸ List.mem_cons_self)]
      · rw [if_neg hj]
        exact if_congr (List.mem_cons.trans (or_iff_right (Ne.symm hj))).symm rfl rfl

end Marking

section Steps
variable {overflowChecks : Bool} {r : CheckRun} {id : Nat}

theorem CheckRun.step_silent (op : CheckOp) {agent : IceAgent} {fails : Bool}
    (hagent : r.agent.step overflowChecks op.toIceOp = agent) (hsilent : r.requestedBy op = [])
    (hfails : r.failsBy op = fails) :
    r.step overflowChecks op = ⟨agent, r.requests, r.failedCalls + fails.toNat⟩ := by
  rw [CheckRun.step, hagent, hsilent, hfails, List.append_nil]

theorem CheckRun.step_check_of_some {call : IceCall} (hcall : r.agent.calls[id]? = some call) :
    r.step overflowChecks (.check id) = r := by
  have hagent : r.agent.check id = r.agent := by
    rw [IceAgent.check, hcall]
  have hfails : r.failsBy (.check id) = false := by
    rw [CheckRun.failsBy, hcall]
    rfl
  exact step_silent (.check id) hagent rfl hfails

theorem CheckRun.step_send_of_not
    (h : ∀ idx addr, r.agent.calls[id]? ≠ some (.check (.send idx addr)))
    (transactionId : ByteArr 12) (ok : Bool) :
    r.step overflowChecks (.send id transactionId ok) = r := by
  have hagent : r.agent.send id transactionId ok = r.agent := by
    rw [IceAgent.send]
    split
    · next hcall => exact (h _ _ hcall).elim
    · rfl
  have hsilent : r.requestedBy (.send id transactionId ok) = [] := by
    cases ok with
    | false => rfl
    | true =>
      rw [CheckRun.requestedBy]
      split
      · next hcall => exact (h _ _ hcall).elim
      · rfl
  exact step_silent (.send id transactionId ok) hagent hsilent rfl

theorem CheckRun.step_receive_of_not
    (h : ∀ idx addr request, r.agent.calls[id]? ≠ some (.check (.wait idx addr request)))
    (src : SocketAddr) (data : Bytes) : r.step overflowChecks (.receive id src data) = r := by
  have hagent : r.agent.receive id src data = r.agent := by
    rw [IceAgent.receive]
    split
    · next hcall => exact (h _ _ _ hcall).elim
    · rfl
  have hfails : r.failsBy (.receive id src data) = false := by
    rw [CheckRun.failsBy]
    split
    · next hcall => exact (h _ _ _ hcall).elim
    · rfl
  exact step_silent (.receive id src data) hagent rfl hfails

theorem CheckRun.step_timeout_of_not
    (h : ∀ idx addr request, r.agent.calls[id]? ≠ some (.check (.wait idx addr request))) :
    r.step overflowChecks (.timeout id) = r := by
  have hagent : r.agent.timeout id = r.agent := by
    rw [IceAgent.timeout]
    split
    · next hcall => exact (h _ _ _ hcall).elim
    · rfl
  have hfails : r.failsBy (.timeout id) = false := by
    rw [CheckRun.failsBy]
    split
    · next hcall => exact (h _ _ _ hcall).elim
    · rfl
  exact step_silent (.timeout id) hagent rfl hfails

theorem CheckRun.step_run_of_none (hcall : r.agent.calls[id]? = none) :
    r.step overflowChecks (.run id) = r := by
  have hagent : r.agent.run overflowChecks id = r.agent := by
    rw [IceAgent.run, hcall]
  have hfails : r.failsBy (.run id) = false := by
    rw [CheckRun.failsBy, hcall]
  exact step_silent (.run id) hagent rfl hfails

theorem CheckRun.step_run_of_socket {phase : IceCheckPhase}
    (hcall : r.agent.calls[id]? = some (.check phase))
    (hphase : ∀ a : IceAgent, a.runCheck overflowChecks id phase = a)
    (hfails : r.failsBy (.run id) = false) : r.step overflowChecks (.run id) = r := by
  have hagent : r.agent.run overflowChecks id = r.agent := by
    rw [IceAgent.run, hcall]
    exact hphase r.agent
  exact step_silent (.run id) hagent rfl hfails

end Steps

section Accounting
variable {start : IceAgent} {r r' : CheckRun} {id : Nat} {call : IceCall}

/-- What is known of the pairs that were unfrozen once a call has failed. -/
def CheckRun.Served (start : IceAgent) (r : CheckRun) : Prop :=
  ∀ (idx : Nat) p p', start.pairs[idx]? = some p → p.state ≠ .frozen →
    r.agent.pairs[idx]? = some p' → 0 < r.requested idx p'

theorem CheckRun.Accounted.of_served
    (hcounted : ∀ (idx : Nat) p, r.agent.pairs[idx]? = some p →
      p.checksSent.toNat = r.requested idx p + r.pending idx)
    (hprogress : ∀ (idx : Nat) p, r.agent.pairs[idx]? = some p → p.state = .inProgress →
      0 < r.requested idx p + r.pending idx)
    (hserved : 0 < r.failedCalls → r.Served start) : r.Accounted start := by
  refine ⟨hcounted, hprogress, ?_⟩
  intro hcalls idx p p' hp hstate hp'
  have hpos : 0 < start.pairs.countP (fun p => p.state ≠ .frozen) :=
    List.countP_pos_iff.mpr ⟨p, List.mem_of_getElem? hp, decide_eq_true hstate⟩
  exact hserved (hpos.trans_le hcalls) idx p p' hp hstate hp'

/-- The pairs may change in what does not bear on their requests. -/
def CheckRun.KeepsPairs (r r' : CheckRun) : Prop :=
  ∀ (idx : Nat) p', r'.agent.pairs[idx]? = some p' → ∃ p, r.agent.pairs[idx]? = some p ∧
    p'.checksSent = p.checksSent ∧ p'.remote = p.remote ∧
      (p'.state = .inProgress → p.state = .inProgress)

theorem CheckRun.KeepsPairs.of_eq (h : r'.agent.pairs = r.agent.pairs) : r.KeepsPairs r' :=
  fun _ p' hp' => ⟨p', h ▸ hp', rfl, rfl, fun hstate => hstate⟩

theorem CheckRun.Accounted.quiet (h : r.Accounted start) (hpairs : r.KeepsPairs r')
    (hrequests : r'.requests = r.requests) (hpending : ∀ idx, r'.pending idx = r.pending idx)
    (hserved : r'.failedCalls = r.failedCalls ∨ r.Served start) : r'.Accounted start := by
  have hrequested {p p' : CandidatePair} (idx : Nat) (hremote : p'.remote = p.remote) :
      r'.requested idx p' = r.requested idx p := by
    rw [CheckRun.requested, hrequests, CheckRun.requested, hremote]
  constructor
  · intro idx p' hp'
    obtain ⟨p, hp, hsent, hremote, -⟩ := hpairs idx p' hp'
    rw [hrequested idx hremote, hpending, hsent]
    exact h.counted idx p hp
  · intro idx p' hp' hstate
    obtain ⟨p, hp, -, hremote, hprogress⟩ := hpairs idx p' hp'
    rw [hrequested idx hremote, hpending]
    exact h.inProgress idx p hp (hprogress hstate)
  · intro hcalls idx q p' hq hstate hp'
    obtain ⟨p, hp, -, hremote, -⟩ := hpairs idx p' hp'
    rw [hrequested idx hremote]
    rcases hserved with hsame | hserved
    · exact h.served (hsame ▸ hcalls) idx q p hq hstate hp
    · exact hserved idx q p hq hstate hp

/-- A call that goes on changes what is pending by what it is about to send. -/
theorem CheckRun.pending_wait (hcalls : r'.agent.calls = r.agent.calls.insert id call)
    (hcall : r.agent.calls[id]? = some old) (idx : Nat) :
    r'.pending idx + (old.sends idx).toNat = r.pending idx + (call.sends idx).toNat := by
  have hinsert := tally_insert_add_weight (fun _ c => IceCall.sends idx c) r.agent.calls id call
  rw [hcall, ← hcalls] at hinsert
  exact hinsert

theorem CheckRun.pending_of_wait (hcalls : r'.agent.calls = r.agent.calls.insert id call)
    (hcall : r.agent.calls[id]? = some old) (hsame : ∀ idx, old.sends idx = call.sends idx)
    (idx : Nat) : r'.pending idx = r.pending idx := by
  have hwait := pending_wait hcalls hcall idx
  rw [hsame] at hwait
  exact Nat.add_right_cancel hwait

theorem CheckRun.pending_of_mark (hcalls : r'.agent.calls = r.agent.calls.insert id call)
    (hcall : r.agent.calls[id]? = some old) {idx : Nat} (hold : old.sends idx = false) :
    r'.pending idx = r.pending idx + (call.sends idx).toNat := by
  have hwait := pending_wait hcalls hcall idx
  rw [hold] at hwait
  exact hwait

theorem CheckRun.pending_of_send (hcalls : r'.agent.calls = r.agent.calls.insert id call)
    (hcall : r.agent.calls[id]? = some old) {idx : Nat} (hnew : call.sends idx = false) :
    r'.pending idx + (old.sends idx).toNat = r.pending idx := by
  have hwait := pending_wait hcalls hcall idx
  rw [hnew] at hwait
  exact hwait

theorem CheckRun.pending_of_begin (hcalls : r'.agent.calls = r.agent.calls.insert id call)
    (hcall : r.agent.calls[id]? = none) (hnone : ∀ idx, call.sends idx = false) (idx : Nat) :
    r'.pending idx = r.pending idx := by
  have hinsert := tally_insert_add_weight (fun _ c => IceCall.sends idx c) r.agent.calls id call
  rw [hcall, ← hcalls, hnone] at hinsert
  exact hinsert

theorem CheckRun.pending_finish (hcalls : r'.agent.calls = r.agent.calls.erase id)
    (hcall : r.agent.calls[id]? = some old) (idx : Nat) :
    r'.pending idx + (old.sends idx).toNat = r.pending idx := by
  have herase := tally_eq_erase_add (fun _ c => IceCall.sends idx c) r.agent.calls id
  rw [hcall, ← hcalls] at herase
  exact herase.symm

theorem CheckRun.pending_of_finish (hcalls : r'.agent.calls = r.agent.calls.erase id)
    (hcall : r.agent.calls[id]? = some old) (hnone : ∀ idx, old.sends idx = false) (idx : Nat) :
    r'.pending idx = r.pending idx := by
  have hfinish := pending_finish hcalls hcall idx
  rw [hnone] at hfinish
  exact hfinish

end Accounting

end P2PMesh.Ice
