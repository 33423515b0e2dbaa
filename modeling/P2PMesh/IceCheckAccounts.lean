import P2PMesh.IceCheckedPair

namespace P2PMesh.Ice
open P2PMesh.Base
set_option autoImplicit true

/-- No call has marked its pairs yet, which are all those that are unfrozen. -/
structure CheckRun.Unstarted (start : IceAgent) (r : CheckRun) : Prop where
  pairs : r.agent.pairs = start.pairs
  calls : ∀ (id : Nat) call, r.agent.calls[id]? = some call →
    call = .check (.mark start.candidatesToCheck) ∧ start.candidatesToCheck ≠ []
  requests : r.requests = []
  failed : start.candidatesToCheck ≠ [] → r.failedCalls = 0

section Unstarted
variable {start : IceAgent} {r r' : CheckRun} {id : Nat} {overflowChecks : Bool}

theorem CheckRun.Unstarted.requested_eq_zero (h : r.Unstarted start) (idx : Nat)
    (p : CandidatePair) : r.requested idx p = 0 := by
  rw [CheckRun.requested, h.requests]
  rfl

theorem CheckRun.Unstarted.pending_eq_zero (h : r.Unstarted start) (idx : Nat) :
    r.pending idx = 0 := by
  apply tally_eq_zero
  intro id call hcall
  rw [(h.calls id call hcall).1]
  rfl

theorem CheckRun.Unstarted.accounted (h : r.Unstarted start) (hstart : Unchecked start.pairs) :
    r.Accounted start := by
  apply CheckRun.Accounted.of_served
  · intro idx p hp
    rw [h.pairs] at hp
    rw [(hstart p (List.mem_of_getElem? hp)).1, h.requested_eq_zero, h.pending_eq_zero]
    rfl
  · intro idx p hp hstate
    rw [h.pairs] at hp
    rcases (hstart p (List.mem_of_getElem? hp)).2 with hwaiting | hfrozen
    · cases hstate.symm.trans hwaiting
    · cases hstate.symm.trans hfrozen
  · intro hpos idx p p' hp hstate
    have hwaiting := (hstart p (List.mem_of_getElem? hp)).2.resolve_right hstate
    have hmem := mem_candidatesToCheck.mpr ⟨p, hp, .inl hwaiting, rfl⟩
    rw [h.failed (List.ne_nil_of_mem hmem)] at hpos
    exact (Nat.lt_irrefl 0 hpos).elim

theorem CheckRun.Unstarted.check (h : r.Unstarted start) (id : Nat) :
    (r.step overflowChecks (.check id)).Unstarted start := by
  have htargets : r.agent.candidatesToCheck = start.candidatesToCheck :=
    candidatesToCheck_congr h.pairs
  cases hcall : r.agent.calls[id]? with
  | some call =>
    rw [step_check_of_some hcall]
    exact h
  | none =>
    cases hnone : start.candidatesToCheck with
    | nil =>
      have hagent : r.agent.check id = r.agent := by
        rw [IceAgent.check, hcall, htargets, hnone]
      rw [step_silent (.check id) hagent rfl rfl]
      exact ⟨h.pairs, h.calls, h.requests, fun hsome => (hsome hnone).elim⟩
    | cons target targets =>
      have hagent : r.agent.check id =
          r.agent.wait id (.check (.mark start.candidatesToCheck)) := by
        rw [IceAgent.check, hcall, htargets, hnone]
      have hfails : r.failsBy (.check id) = false := by
        rw [CheckRun.failsBy, hcall, htargets, hnone]
        rfl
      rw [step_silent (.check id) hagent rfl hfails]
      refine ⟨h.pairs, ?_, h.requests, h.failed⟩
      intro id' call hid'
      change (r.agent.calls.insert id _)[id']? = some call at hid'
      rw [getElem?_insert_eq] at hid'
      split at hid'
      · cases hid'
        exact ⟨rfl, hnone ▸ List.cons_ne_nil target targets⟩
      · exact h.calls id' call hid'

/-- Of several pairs that are marked only the first one is to have a request. -/
theorem CheckRun.Unstarted.mark (h : r.Unstarted start) (overflowChecks : Bool)
    (hstart : Unchecked start.pairs)
    {first second : Nat × SocketAddr} {rest : List (Nat × SocketAddr)}
    (htargets : start.candidatesToCheck = first :: second :: rest)
    (hcall : r.agent.calls[id]? = some (.check (.mark start.candidatesToCheck))) :
    ¬ (r.step overflowChecks (.run id)).Accounted start ∧
      ¬ r.Reaches overflowChecks (.run id) := by
  have hnodup := candidatesToCheck_nodup start
  have hfull : ∀ t ∈ start.candidatesToCheck, r.agent.full t.1 = false := by
    intro t ht
    obtain ⟨p, hp, -⟩ := mem_candidatesToCheck.mp ht
    rw [IceAgent.full, h.pairs, hp, Option.any_some, (hstart p (List.mem_of_getElem? hp)).1]
    rfl
  have hsecond : second ∈ start.candidatesToCheck := by
    rw [htargets]
    exact List.mem_cons_of_mem _ List.mem_cons_self
  constructor
  · obtain ⟨b, hb, hcalls, hpairs⟩ :=
      markPairs_pairs overflowChecks hnodup hfull
    have hagent : r.agent.run overflowChecks id = b.wait id (.check (.send first.1 first.2)) := by
      rw [IceAgent.run, hcall]
      dsimp only [IceAgent.runCheck]
      rw [hb, htargets]
    have hfails : r.failsBy (.run id) = false := by
      rw [CheckRun.failsBy, hcall]
    obtain ⟨p, hp, -⟩ := mem_candidatesToCheck.mp hsecond
    have hmarked : b.pairs[second.1]? = some p.marked := by
      rw [hpairs, if_pos (List.mem_map_of_mem hsecond), h.pairs, hp, Option.map_some]
    have hpending : (r.step overflowChecks (.run id)).pending second.1 = 0 := by
      have hnew : (r.step overflowChecks (.run id)).agent.calls =
          r.agent.calls.insert id (.check (.send first.1 first.2)) := by
        rw [step_silent (.run id) hagent rfl hfails, ← hcalls]
        rfl
      have hne : (IceCall.check (.send first.1 first.2)).sends second.1 = false := by
        rw [htargets] at hnodup
        exact decide_eq_false (fun he => (List.nodup_cons.mp hnodup).1 (he ▸ List.mem_cons_self))
      rw [pending_of_mark hnew hcall rfl, hne, h.pending_eq_zero]
      rfl
    intro haccounted
    rw [step_silent (.run id) hagent rfl hfails] at haccounted hpending
    have hcounted := haccounted.counted second.1 p.marked hmarked
    have hzero : p.marked.checksSent = 1 := by
      rw [CandidatePair.marked, (hstart p (List.mem_of_getElem? hp)).1]
      rfl
    rw [hzero, hpending, CheckRun.requested, h.requests] at hcounted
    cases hcounted
  · intro hreaches
    obtain ⟨idx, addr, rest', he, hroom⟩ := hreaches _ hcall
    have hempty : r.agent.full idx = false :=
      hfull (idx, addr) (he ▸ List.mem_cons_self)
    rw [hempty, if_neg Bool.false_ne_true] at hroom
    rw [hroom, htargets] at he
    cases he

theorem CheckRun.Unstarted.cancel (h : r.Unstarted start) (id : Nat) :
    (r.step overflowChecks (.cancel id)).Unstarted start := by
  have hstep : r.step overflowChecks (.cancel id) =
      ⟨r.agent.finish id, r.requests, r.failedCalls⟩ := step_silent (.cancel id) rfl rfl rfl
  rw [hstep]
  refine ⟨h.pairs, ?_, h.requests, h.failed⟩
  intro id' call hid'
  change (r.agent.calls.erase id)[id']? = some call at hid'
  rw [getElem?_erase_eq] at hid'
  split at hid'
  · cases hid'
  · exact h.calls id' call hid'

theorem CheckRun.Unstarted.no_call (h : r.Unstarted start) {phase : IceCheckPhase}
    (hcall : r.agent.calls[id]? = some (.check phase))
    (hphase : ∀ targets, phase ≠ .mark targets) : False := by
  obtain ⟨he, -⟩ := h.calls id _ hcall
  exact hphase _ (IceCall.check.inj he)

theorem CheckRun.Unstarted.step (h : r.Unstarted start) (hstart : Unchecked start.pairs)
    (hmany : ∀ target, start.candidatesToCheck ≠ [target]) (op : CheckOp) :
    ((r.step overflowChecks op).Accounted start ↔ r.Reaches overflowChecks op) ∧
      (r.Reaches overflowChecks op → (r.step overflowChecks op).Unstarted start) := by
  have hquiet (hafter : (r.step overflowChecks op).Unstarted start)
      (hreaches : r.Reaches overflowChecks op) :
      ((r.step overflowChecks op).Accounted start ↔ r.Reaches overflowChecks op) ∧
        (r.Reaches overflowChecks op → (r.step overflowChecks op).Unstarted start) :=
    ⟨iff_of_true (hafter.accounted hstart) hreaches, fun _ => hafter⟩
  have hsame (hstep : r.step overflowChecks op = r) (hreaches : r.Reaches overflowChecks op) :=
    hquiet (hstep.symm ▸ h) hreaches
  cases op with
  | check id => exact hquiet (h.check id) trivial
  | cancel id =>
    exact hquiet (h.cancel id) (fun _ _ hcall => h.no_call hcall (by rintro _ ⟨⟩))
  | run id =>
    cases hcall : r.agent.calls[id]? with
    | none =>
      refine hsame (step_run_of_none hcall) ?_
      intro targets hmark
      cases hcall.symm.trans hmark
    | some call =>
      obtain ⟨rfl, hsome⟩ := h.calls id call hcall
      cases htargets : start.candidatesToCheck with
      | nil => exact (hsome htargets).elim
      | cons first rest =>
        cases rest with
        | nil => exact (hmany first htargets).elim
        | cons second rest =>
          obtain ⟨hlost, hbreaks⟩ := h.mark overflowChecks hstart htargets hcall
          exact ⟨iff_of_false hlost hbreaks, fun hreaches => (hbreaks hreaches).elim⟩
  | send id transactionId ok =>
    have hnone : ∀ i dst, r.agent.calls[id]? ≠ some (.check (.send i dst)) :=
      fun _ _ hcall => h.no_call hcall (by rintro _ ⟨⟩)
    exact hsame (step_send_of_not hnone transactionId ok)
      (fun i dst hcall => (hnone i dst hcall).elim)
  | receive id src data =>
    have hnone : ∀ i dst request, r.agent.calls[id]? ≠ some (.check (.wait i dst request)) :=
      fun _ _ _ hcall => h.no_call hcall (by rintro _ ⟨⟩)
    exact hsame (step_receive_of_not hnone src data) trivial
  | timeout id =>
    have hnone : ∀ i dst request, r.agent.calls[id]? ≠ some (.check (.wait i dst request)) :=
      fun _ _ _ hcall => h.no_call hcall (by rintro _ ⟨⟩)
    exact hsame (step_timeout_of_not hnone) trivial

end Unstarted

/-- An agent that has just formed its pairs. -/
def IceAgent.formed (localUfrag : String) (locals remotes : List IceCandidate)
    (pairs : List CandidatePair) : IceAgent :=
  { IceAgent.new localUfrag with
    localCandidates := locals
    remoteCandidates := remotes
    pairs
    state := .checking }

section Formed
variable {start : IceAgent}

theorem calls_formed (localUfrag : String) (locals remotes : List IceCandidate)
    (pairs : List CandidatePair) (id : Nat) :
    (IceAgent.formed localUfrag locals remotes pairs).calls[id]? = none :=
  Std.TreeMap.getElem?_emptyc

theorem IceAgent.unstarted_checkRun (hcalls : ∀ id : Nat, start.calls[id]? = none) :
    start.checkRun.Unstarted start := by
  refine ⟨rfl, ?_, rfl, fun _ => rfl⟩
  intro id call hcall
  cases (hcalls id).symm.trans hcall

theorem IceAgent.single_checkRun (hcalls : ∀ id : Nat, start.calls[id]? = none)
    (htargets : start.candidatesToCheck = [(idx, addr)]) :
    start.checkRun.Single start idx addr := by
  have hmem : (idx, addr) ∈ start.candidatesToCheck := htargets ▸ List.mem_cons_self
  obtain ⟨p, hp, hstate, haddr⟩ := mem_candidatesToCheck.mp hmem
  refine ⟨fun _ _ => rfl, ⟨p, hp, haddr, ?_⟩, ?_, fun hpos => (Nat.lt_irrefl 0 hpos).elim⟩
  · exact hstate.imp_right .inl
  · intro id call hcall
    cases (hcalls id).symm.trans hcall

theorem IceAgent.accountedRun_iff (overflowChecks : Bool)
    (hcalls : ∀ id : Nat, start.calls[id]? = none) (hstart : Unchecked start.pairs)
    (ops : List CheckOp) :
    (∀ ops', ops' <+: ops → (start.checkRun.runs overflowChecks ops').Accounted start) ↔
      Guarded (CheckRun.step overflowChecks) (CheckRun.Reaches overflowChecks) start.checkRun
        ops := by
  have haccounted := (IceAgent.unstarted_checkRun hcalls).accounted hstart
  by_cases hone : ∃ target, start.candidatesToCheck = [target]
  · obtain ⟨⟨idx, addr⟩, htargets⟩ := hone
    exact forall_prefix_iff_along (IceAgent.single_checkRun hcalls htargets) haccounted
      (fun _ op hs hj => (hs.step htargets hstart hj op).2)
      (fun _ op hs hj => (hs.step htargets hstart hj op).1) ops
  · exact forall_prefix_iff_along (W := CheckRun.Unstarted start)
      (J := fun r => r.Accounted start) (IceAgent.unstarted_checkRun hcalls) haccounted
      (fun _ op hu _ => (hu.step hstart (fun target he => hone ⟨target, he⟩) op).2)
      (fun _ op hu _ => (hu.step hstart (fun target he => hone ⟨target, he⟩) op).1) ops

end Formed

/-- From pairs that have just been formed, the requests are accounted for at every point of a run of
check calls exactly if each step that marks pairs or sends a request reaches its targets. -/
theorem checks_accounted_iff (overflowChecks : Bool) (localUfrag : String)
    (locals remotes : List IceCandidate) (pairs : List CandidatePair)
    (h : formCandidatePairs overflowChecks locals remotes = some pairs) (ops : List CheckOp) :
    (∀ ops', ops' <+: ops → ((IceAgent.formed localUfrag locals remotes
      pairs).checkRun.runs overflowChecks ops').Accounted
        (IceAgent.formed localUfrag locals remotes pairs)) ↔
      Guarded (CheckRun.step overflowChecks) (CheckRun.Reaches overflowChecks)
        (IceAgent.formed localUfrag locals remotes pairs).checkRun ops :=
  IceAgent.accountedRun_iff overflowChecks (calls_formed localUfrag locals remotes pairs)
    (formCandidatePairs_unchecked h) ops

def zeroTransaction : ByteArr 12 := ⟨List.replicate 12 0, rfl⟩

/-- A pair of two candidates on the same network. -/
def examplePair (remote : BitVec 32) (state : PairState) (checksSent : UInt32) : CandidatePair :=
  ⟨exampleCandidate 0x0A000001, exampleCandidate remote, state, checksSent, false⟩

def exampleChecks (remotes : List (BitVec 32)) : CheckRun :=
  (IceAgent.formed "ufrag" [exampleCandidate 0x0A000001] (remotes.map exampleCandidate)
    (remotes.map (fun remote => examplePair remote .waiting 0))).checkRun

/-- A call whose request is sent, if that is no error, and not answered. -/
def unansweredCall (ok : Bool) : List CheckOp :=
  [.check 0, .run 0, .send 0 zeroTransaction ok, if ok then .timeout 0 else .run 0]

theorem formed_examples : formCandidatePairs false [exampleCandidate 0x0A000001]
      [exampleCandidate 0x0A000002] = some [examplePair 0x0A000002 .waiting 0] ∧
    formCandidatePairs false [exampleCandidate 0x0A000001]
      [exampleCandidate 0x0A000002, exampleCandidate 0x0A000003] =
        some [examplePair 0x0A000002 .waiting 0, examplePair 0x0A000003 .waiting 0] := by
  decide +kernel

theorem checks_accounted_iff_onePair :
    ((exampleChecks [0x0A000002]).runs false (unansweredCall true)).Accounted
      (exampleChecks [0x0A000002]).agent := by
  have hguarded : Guarded (CheckRun.step false) (CheckRun.Reaches false)
      (exampleChecks [0x0A000002]) (unansweredCall true) := by
    refine ⟨trivial, ?_, fun _ _ _ => rfl, trivial, trivial⟩
    rintro targets ⟨⟩
    exact ⟨_, _, _, rfl, rfl⟩
  exact (checks_accounted_iff false "ufrag" [exampleCandidate 0x0A000001]
    [exampleCandidate 0x0A000002] _ formed_examples.1 (unansweredCall true)).mpr hguarded _
      List.prefix_rfl

/-- Of two pairs both are counted, and only the first one gets its request; a request that fails to
be sent is counted as well. -/
theorem checks_unaccounted :
    ¬ ((exampleChecks [0x0A000002, 0x0A000003]).runs false (unansweredCall true)).Accounted
      (exampleChecks [0x0A000002, 0x0A000003]).agent ∧
    ¬ ((exampleChecks [0x0A000002]).runs false (unansweredCall false)).Accounted
      (exampleChecks [0x0A000002]).agent := by
  constructor
  · intro h
    have hcounted := h.counted 1 (examplePair 0x0A000003 .inProgress 1) (by decide +kernel)
    revert hcounted
    decide +kernel
  · intro h
    have hcounted := h.counted 0 (examplePair 0x0A000002 .failed 1) (by decide +kernel)
    revert hcounted
    decide +kernel

end P2PMesh.Ice
