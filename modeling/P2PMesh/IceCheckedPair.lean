import P2PMesh.IceChecks

namespace P2PMesh.Ice
open P2PMesh.Base
set_option autoImplicit true

/-- A call that checks one pair only, at a place and with an address; the request has been sent if
it waits for the response or has got it. -/
def IceCall.Checks (idx : Nat) (addr : SocketAddr) (sent : Prop) : IceCall → Prop
  | .check (.mark targets) => targets = [(idx, addr)]
  | .check (.send i dst) => i = idx ∧ dst = addr
  | .check (.wait i _ _) | .check (.succeed i) | .check (.connect i) | .check (.pick i) =>
    i = idx ∧ sent
  | .check (.select _) => True
  | _ => False

theorem IceCall.Checks.mono {sent sent' : Prop} (h : sent → sent') {call : IceCall}
    (hcall : call.Checks idx addr sent) : call.Checks idx addr sent' := by
  cases call with
  | gather _ | setRemote _ _ => exact hcall
  | check phase =>
    cases phase with
    | mark _ | send _ _ | fail _ | select _ => exact hcall
    | wait _ _ _ | succeed _ | connect _ | pick _ => exact ⟨hcall.1, h hcall.2⟩

/-- The calls check the one pair that is unfrozen, which waits or has got its request. -/
structure CheckRun.Single (start : IceAgent) (idx : Nat) (addr : SocketAddr) (r : CheckRun) :
    Prop where
  others : ∀ j, j ≠ idx → r.agent.pairs[j]? = start.pairs[j]?
  pair : ∃ p, r.agent.pairs[idx]? = some p ∧ p.remote.addr = addr ∧
    (p.state = .waiting ∨ p.state = .inProgress ∨ 0 < r.requests.count (idx, addr))
  calls : ∀ (id : Nat) call, r.agent.calls[id]? = some call →
    call.Checks idx addr (0 < r.requests.count (idx, addr))
  failed : 0 < r.failedCalls → 0 < r.requests.count (idx, addr)

section Single
variable {start : IceAgent} {idx : Nat} {addr : SocketAddr} {r r' : CheckRun} {id : Nat}
  (htargets : start.candidatesToCheck = [(idx, addr)]) (hstart : Unchecked start.pairs)

include htargets hstart in
theorem unfrozen_eq {j : Nat} {p : CandidatePair} (hp : start.pairs[j]? = some p)
    (hstate : p.state ≠ .frozen) : j = idx := by
  have hwaiting := (hstart p (List.mem_of_getElem? hp)).2.resolve_right hstate
  have hmem := mem_candidatesToCheck.mpr ⟨p, hp, .inl hwaiting, rfl⟩
  rw [htargets] at hmem
  exact congrArg Prod.fst (List.mem_singleton.mp hmem)

include htargets hstart in
theorem CheckRun.Single.served (h : r.Single start idx addr)
    (hsent : 0 < r.requests.count (idx, addr)) : r.Served start := by
  intro j p p' hp hstate hp'
  obtain ⟨q, hq, haddr, -⟩ := h.pair
  have hj := unfrozen_eq htargets hstart hp hstate
  rw [hj, hq] at hp'
  cases hp'
  rw [CheckRun.requested, haddr, hj]
  exact hsent

include htargets in
theorem CheckRun.Single.candidatesToCheck (h : r.Single start idx addr) :
    r.agent.candidatesToCheck = [] ∨ r.agent.candidatesToCheck = [(idx, addr)] := by
  apply eq_nil_or_singleton ((candidatesToCheck_nodup r.agent).of_map Prod.fst)
  rintro ⟨j, dst⟩ hmem
  obtain ⟨p, hp, hstate, hdst⟩ := mem_candidatesToCheck.mp hmem
  by_cases hj : j = idx
  · obtain ⟨q, hq, haddr, -⟩ := h.pair
    rw [hj, hq] at hp
    cases hp
    rw [hj, ← hdst, haddr]
  · rw [h.others j hj] at hp
    have hstarted := mem_candidatesToCheck.mpr ⟨p, hp, hstate, hdst⟩
    rw [htargets] at hstarted
    exact List.mem_singleton.mp hstarted

theorem CheckRun.Single.wait (h : r.Single start idx addr) {call : IceCall}
    (hcall : call.Checks idx addr (0 < r.requests.count (idx, addr))) :
    ∀ (id' : Nat) c, (r.agent.calls.insert id call)[id']? = some c →
      c.Checks idx addr (0 < r.requests.count (idx, addr)) := by
  intro id' c hc
  rw [getElem?_insert_eq] at hc
  split at hc
  · cases hc
    exact hcall
  · exact h.calls id' c hc

theorem CheckRun.Single.finish (h : r.Single start idx addr) :
    ∀ (id' : Nat) c, (r.agent.calls.erase id)[id']? = some c →
      c.Checks idx addr (0 < r.requests.count (idx, addr)) := by
  intro id' c hc
  rw [getElem?_erase_eq] at hc
  split at hc
  · cases hc
  · exact h.calls id' c hc

include htargets hstart in
theorem CheckRun.Single.quiet (h : r.Single start idx addr) (hj : r.Accounted start)
    (hpairs : r'.agent.pairs = r.agent.pairs) (hrequests : r'.requests = r.requests)
    (hcalls : ∀ (id : Nat) call, r'.agent.calls[id]? = some call →
      call.Checks idx addr (0 < r.requests.count (idx, addr)))
    (hpending : ∀ i, r'.pending i = r.pending i)
    (hfailed : r'.failedCalls = r.failedCalls ∨ 0 < r.requests.count (idx, addr)) :
    r'.Accounted start ∧ r'.Single start idx addr := by
  refine ⟨hj.quiet (.of_eq hpairs) hrequests hpending
    (hfailed.imp_right (h.served htargets hstart)), ?_⟩
  constructor
  · rw [hpairs]
    exact h.others
  · rw [hpairs, hrequests]
    exact h.pair
  · rw [hrequests]
    exact hcalls
  · rw [hrequests]
    intro hpos
    rcases hfailed with hsame | hsent
    · exact h.failed (hsame ▸ hpos)
    · exact hsent

/-- What a step of the calls on the one pair comes to: it accounts for the requests exactly if they
reach their targets, and then leaves one pair only to be checked. -/
def CheckRun.Settles (overflowChecks : Bool) (start : IceAgent) (idx : Nat) (addr : SocketAddr)
    (r : CheckRun) (op : CheckOp) : Prop :=
  ((r.step overflowChecks op).Accounted start ↔ r.Reaches overflowChecks op) ∧
    (r.Reaches overflowChecks op → (r.step overflowChecks op).Single start idx addr)

variable {overflowChecks : Bool} {op : CheckOp}

theorem CheckRun.settles_of_quiet
    (h : (r.step overflowChecks op).Accounted start ∧
      (r.step overflowChecks op).Single start idx addr)
    (hop : r.Reaches overflowChecks op) : r.Settles overflowChecks start idx addr op :=
  ⟨iff_of_true h.1 hop, fun _ => h.2⟩

theorem CheckRun.settles_of_broken (h : ¬ (r.step overflowChecks op).Accounted start)
    (hop : ¬ r.Reaches overflowChecks op) : r.Settles overflowChecks start idx addr op :=
  ⟨iff_of_false h hop, fun hreaches => (hop hreaches).elim⟩

theorem CheckRun.Single.settles_same (h : r.Single start idx addr) (hj : r.Accounted start)
    (hstep : r.step overflowChecks op = r) (hop : r.Reaches overflowChecks op) :
    r.Settles overflowChecks start idx addr op := by
  apply settles_of_quiet ?_ hop
  rw [hstep]
  exact ⟨hj, h⟩

include htargets hstart

omit htargets hstart in
theorem toNat_decide (q : Prop) [Decidable q] : (decide q).toNat = if q then 1 else 0 := by
  split
  · next hq =>
    rw [decide_eq_true hq]
    rfl
  · next hq =>
    rw [decide_eq_false hq]
    rfl

theorem CheckRun.Single.sent (h : r.Single start idx addr) (hj : r.Accounted start)
    (hpairs : r'.agent.pairs = r.agent.pairs)
    (hrequests : r'.requests = r.requests ++ [(idx, addr)])
    (hpending : ∀ i, r'.pending i + (if idx = i then 1 else 0) = r.pending i)
    (hcalls : ∀ (id : Nat) call, r'.agent.calls[id]? = some call → call.Checks idx addr True) :
    r'.Accounted start ∧ r'.Single start idx addr := by
  have hcount : 0 < r'.requests.count (idx, addr) := by
    rw [hrequests, List.count_append, List.count_singleton_self]
    exact Nat.succ_pos _
  obtain ⟨q, hq, haddr, -⟩ := h.pair
  have hrequested {i : Nat} {p : CandidatePair} (hp : r.agent.pairs[i]? = some p) :
      r'.requested i p = r.requested i p + if idx = i then 1 else 0 := by
    rw [CheckRun.requested, hrequests, List.count_append, CheckRun.requested]
    split
    · next hi =>
      rw [← hi, hq] at hp
      cases hp
      rw [← hi, haddr, List.count_singleton_self]
    · next hi =>
      have hnone : [(idx, addr)].count (i, p.remote.addr) = 0 := by
        rw [List.count_eq_zero]
        intro hmem
        exact hi (congrArg Prod.fst (List.mem_singleton.mp hmem)).symm
      rw [hnone]
  have hsingle : r'.Single start idx addr := by
    constructor
    · rw [hpairs]
      exact h.others
    · rw [hpairs]
      exact ⟨q, hq, haddr, .inr (.inr hcount)⟩
    · intro id call hcall
      exact (hcalls id call hcall).mono (fun _ => hcount)
    · exact fun _ => hcount
  refine ⟨.of_served ?_ ?_ (fun _ => hsingle.served htargets hstart hcount), hsingle⟩
  · intro i p hp
    rw [hpairs] at hp
    rw [hrequested hp, hj.counted i p hp, ← hpending i]
    omega
  · intro i p hp hstate
    rw [hpairs] at hp
    have hpos := hj.inProgress i p hp hstate
    rw [← hpending i] at hpos
    rw [hrequested hp]
    omega

omit htargets hstart in
theorem CheckRun.Single.not_accounted (h : r.Single start idx addr) (hj : r.Accounted start)
    (hpairs : r'.agent.pairs = r.agent.pairs) (hrequests : r'.requests = r.requests)
    (hpending : r'.pending idx + 1 = r.pending idx) : ¬ r'.Accounted start := by
  intro hlost
  obtain ⟨p, hp, -⟩ := h.pair
  have hbefore := hj.counted idx p hp
  have hafter := hlost.counted idx p (hpairs ▸ hp)
  rw [CheckRun.requested, hrequests] at hafter
  rw [CheckRun.requested] at hbefore
  omega

theorem CheckRun.Single.check (h : r.Single start idx addr) (hj : r.Accounted start) (id : Nat) :
    r.Settles overflowChecks start idx addr (.check id) := by
  cases hcall : r.agent.calls[id]? with
  | some call => exact h.settles_same hj (step_check_of_some hcall) trivial
  | none =>
    refine settles_of_quiet ?_ trivial
    rcases h.candidatesToCheck htargets with hnone | hone
    · have hagent : r.agent.check id = r.agent := by
        rw [IceAgent.check, hcall, hnone]
      have hfails : r.failsBy (.check id) = true := by
        rw [CheckRun.failsBy, hcall, hnone]
        rfl
      have hsent : 0 < r.requests.count (idx, addr) := by
        obtain ⟨p, hp, haddr, hwaiting | hprogress | hsent⟩ := h.pair
        · have hmem := mem_candidatesToCheck.mpr ⟨p, hp, .inl hwaiting, haddr⟩
          rw [hnone] at hmem
          exact (List.not_mem_nil hmem).elim
        · have hmem := mem_candidatesToCheck.mpr ⟨p, hp, .inr hprogress, haddr⟩
          rw [hnone] at hmem
          exact (List.not_mem_nil hmem).elim
        · exact hsent
      rw [step_silent (.check id) hagent rfl hfails]
      exact h.quiet htargets hstart hj rfl rfl h.calls (fun _ => rfl) (.inr hsent)
    · have hagent : r.agent.check id = r.agent.wait id (.check (.mark [(idx, addr)])) := by
        rw [IceAgent.check, hcall, hone]
      have hfails : r.failsBy (.check id) = false := by
        rw [CheckRun.failsBy, hcall, hone]
        rfl
      rw [step_silent (.check id) hagent rfl hfails]
      exact h.quiet htargets hstart hj rfl rfl (h.wait rfl)
        (pending_of_begin rfl hcall (fun _ => rfl)) (.inl rfl)

theorem CheckRun.Single.timeout (h : r.Single start idx addr) (hj : r.Accounted start)
    (id : Nat) : r.Settles overflowChecks start idx addr (.timeout id) := by
  by_cases hwait : ∃ i dst request, r.agent.calls[id]? = some (.check (.wait i dst request))
  · obtain ⟨i, dst, request, hcall⟩ := hwait
    refine settles_of_quiet ?_ trivial
    have hagent : r.agent.timeout id = r.agent.finish id := by
      rw [IceAgent.timeout, hcall]
    have hfails : r.failsBy (.timeout id) = true := by
      rw [CheckRun.failsBy, hcall]
    rw [step_silent (.timeout id) hagent rfl hfails]
    exact h.quiet htargets hstart hj rfl rfl h.finish (pending_of_finish rfl hcall (fun _ => rfl))
      (.inr (h.calls id _ hcall).2)
  · have hnone : ∀ i dst request, r.agent.calls[id]? ≠ some (.check (.wait i dst request)) :=
      fun i dst request hcall => hwait ⟨i, dst, request, hcall⟩
    exact h.settles_same hj (step_timeout_of_not hnone) trivial

theorem CheckRun.Single.receive (h : r.Single start idx addr) (hj : r.Accounted start)
    (id : Nat) (src : SocketAddr) (data : Bytes) :
    r.Settles overflowChecks start idx addr (.receive id src data) := by
  by_cases hwait : ∃ i dst request, r.agent.calls[id]? = some (.check (.wait i dst request))
  · obtain ⟨i, dst, request, hcall⟩ := hwait
    refine settles_of_quiet ?_ trivial
    obtain ⟨hi, hsent⟩ := h.calls id _ hcall
    by_cases hsuccess : IsBindingSuccess (data.take 1500)
    · have hagent : r.agent.receive id src data = { r.agent with
          received := (src, data.take 1500) :: r.agent.received }.wait id
            (.check (.succeed i)) := by
        rw [IceAgent.receive, hcall]
        exact if_pos hsuccess
      have hfails : r.failsBy (.receive id src data) = false := by
        rw [CheckRun.failsBy, hcall]
        dsimp only
        rw [decide_eq_true hsuccess]
        rfl
      rw [step_silent (.receive id src data) hagent rfl hfails]
      exact h.quiet htargets hstart hj rfl rfl (h.wait ⟨hi, hsent⟩)
        (pending_of_wait rfl hcall (fun _ => rfl)) (.inl rfl)
    · have hagent : r.agent.receive id src data = { r.agent with
          received := (src, data.take 1500) :: r.agent.received }.finish id := by
        rw [IceAgent.receive, hcall]
        exact if_neg hsuccess
      have hfails : r.failsBy (.receive id src data) = true := by
        rw [CheckRun.failsBy, hcall]
        dsimp only
        rw [decide_eq_false hsuccess]
        rfl
      rw [step_silent (.receive id src data) hagent rfl hfails]
      exact h.quiet htargets hstart hj rfl rfl h.finish
        (pending_of_finish rfl hcall (fun _ => rfl)) (.inr hsent)
  · have hnone : ∀ i dst request, r.agent.calls[id]? ≠ some (.check (.wait i dst request)) :=
      fun i dst request hcall => hwait ⟨i, dst, request, hcall⟩
    exact h.settles_same hj (step_receive_of_not hnone src data) trivial

theorem CheckRun.Single.cancel (h : r.Single start idx addr) (hj : r.Accounted start)
    (id : Nat) : r.Settles overflowChecks start idx addr (.cancel id) := by
  have hstep : r.step overflowChecks (.cancel id) =
      ⟨r.agent.finish id, r.requests, r.failedCalls⟩ := step_silent (.cancel id) rfl rfl rfl
  by_cases hsend : ∃ i dst, r.agent.calls[id]? = some (.check (.send i dst))
  · obtain ⟨i, dst, hcall⟩ := hsend
    obtain ⟨rfl, rfl⟩ := h.calls id _ hcall
    refine settles_of_broken ?_ (fun hreaches => hreaches i dst hcall)
    rw [hstep]
    refine h.not_accounted hj rfl rfl ?_
    have hsends : (IceCall.check (.send i dst)).sends i = true := decide_eq_true rfl
    rw [← Bool.toNat_true, ← hsends]
    exact pending_finish rfl hcall i
  · refine settles_of_quiet ?_ (fun i dst hcall => hsend ⟨i, dst, hcall⟩)
    rw [hstep]
    refine h.quiet htargets hstart hj rfl rfl h.finish ?_ (.inl rfl)
    cases hcall : r.agent.calls[id]? with
    | none => exact fun i => tally_erase_of_none hcall
    | some call =>
      cases call with
      | gather _ | setRemote _ _ => exact pending_of_finish rfl hcall (fun _ => rfl)
      | check phase =>
        cases phase with
        | send j dst => exact (hsend ⟨j, dst, hcall⟩).elim
        | mark _ | fail _ | wait _ _ _ | succeed _ | connect _ | pick _ | select _ =>
          exact pending_of_finish rfl hcall (fun _ => rfl)

/-- A request that is sent is pending no more; one that is not is never sent. -/
theorem CheckRun.Single.send (h : r.Single start idx addr) (hj : r.Accounted start) (id : Nat)
    (transactionId : ByteArr 12) (ok : Bool) :
    r.Settles overflowChecks start idx addr (.send id transactionId ok) := by
  by_cases hsend : ∃ i dst, r.agent.calls[id]? = some (.check (.send i dst))
  · obtain ⟨i, dst, hcall⟩ := hsend
    obtain ⟨rfl, rfl⟩ := h.calls id _ hcall
    cases ok with
    | false =>
      have hagent : r.agent.send id transactionId false =
          r.agent.wait id (.check (.fail i)) := by
        rw [IceAgent.send, hcall]
        rfl
      refine settles_of_broken ?_ (fun hreaches => Bool.false_ne_true (hreaches i dst hcall))
      rw [step_silent (.send id transactionId false) hagent rfl rfl]
      refine h.not_accounted hj rfl rfl ?_
      have hsends : (IceCall.check (.send i dst)).sends i = true := decide_eq_true rfl
      rw [← Bool.toNat_true, ← hsends]
      exact pending_of_send rfl hcall rfl
    | true =>
      have hagent : r.agent.send id transactionId true = { r.agent with
          sent := (dst, buildBindingRequest r.agent.localUfrag transactionId) ::
            r.agent.sent }.wait id (.check (.wait i dst (buildBindingRequest
              r.agent.localUfrag transactionId))) := by
        rw [IceAgent.send, hcall]
        rfl
      have hrequests : r.requestedBy (.send id transactionId true) = [(i, dst)] := by
        rw [CheckRun.requestedBy, hcall]
      have hcalls : (r.step overflowChecks (.send id transactionId true)).agent.calls =
          r.agent.calls.insert id (.check (.wait i dst (buildBindingRequest
            r.agent.localUfrag transactionId))) :=
        congrArg IceAgent.calls hagent
      refine settles_of_quiet ?_ (fun _ _ _ => rfl)
      apply h.sent htargets hstart hj
      · change (r.agent.send id transactionId true).pairs = _
        rw [hagent]
        rfl
      · exact congrArg (r.requests ++ ·) hrequests
      · intro k
        rw [← toNat_decide]
        exact pending_of_send hcalls hcall rfl
      · rw [hcalls]
        intro id' call hid'
        rw [getElem?_insert_eq] at hid'
        split at hid'
        · cases hid'
          exact ⟨rfl, trivial⟩
        · exact (h.calls id' call hid').mono (fun _ => trivial)
  · have hnone : ∀ i dst, r.agent.calls[id]? ≠ some (.check (.send i dst)) :=
      fun i dst hcall => hsend ⟨i, dst, hcall⟩
    exact h.settles_same hj (step_send_of_not hnone transactionId ok)
      (fun i dst hcall => (hnone i dst hcall).elim)

omit htargets hstart in
theorem CheckRun.Accounted.marked_iff (hj : r.Accounted start)
    (hp : r.agent.pairs[idx]? = some p)
    (hpairs : ∀ i, r'.agent.pairs[i]? =
      if idx = i then (r.agent.pairs[i]?).map CandidatePair.marked else r.agent.pairs[i]?)
    (hrequests : r'.requests = r.requests)
    (hpending : ∀ i, r'.pending i = r.pending i + if idx = i then 1 else 0)
    (hfailed : r'.failedCalls = r.failedCalls) :
    r'.Accounted start ↔ p.checksSent ≠ 4294967295 := by
  have hrequested (i : Nat) (q : CandidatePair) : r'.requested i q = r.requested i q := by
    rw [CheckRun.requested, hrequests, CheckRun.requested]
  have hmarked : r'.agent.pairs[idx]? = some p.marked := by
    rw [hpairs, if_pos rfl, hp, Option.map_some]
  have hbefore := hj.counted idx p hp
  have hidx := hpending idx
  rw [if_pos rfl] at hidx
  rw [← succ32_toNat_eq_iff]
  constructor
  · intro haccounted
    have hafter := haccounted.counted idx p.marked hmarked
    rw [hrequested, hidx] at hafter
    change (p.checksSent + 1).toNat = r.requested idx p + (r.pending idx + 1) at hafter
    rw [hafter, hbefore]
    exact (Nat.add_assoc _ _ _).symm
  · intro hroom
    constructor
    · intro i q hq
      rw [hrequested, hpending]
      rw [hpairs] at hq
      split at hq
      · next hi =>
        rw [← hi, hp] at hq
        cases hq
        rw [if_pos hi, ← hi]
        change (p.checksSent + 1).toNat = r.requested idx p + (r.pending idx + 1)
        rw [hroom, hbefore, Nat.add_assoc]
      · next hi =>
        rw [if_neg hi]
        exact hj.counted i q hq
    · intro i q hq hstate
      rw [hrequested, hpending]
      rw [hpairs] at hq
      split at hq
      · next hi =>
        rw [if_pos hi]
        exact Nat.succ_pos _
      · next hi =>
        rw [if_neg hi]
        exact hj.inProgress i q hq hstate
    · intro hcalls i q q' hq hstate hq'
      rw [hrequested]
      rw [hpairs] at hq'
      split at hq'
      · obtain ⟨p', hp', rfl⟩ := Option.map_eq_some_iff.mp hq'
        exact hj.served (hfailed ▸ hcalls) i q p' hq hstate hp'
      · exact hj.served (hfailed ▸ hcalls) i q q' hq hstate hq'

omit htargets hstart in
theorem CheckRun.reaches_mark_iff (overflowChecks : Bool)
    (hcall : r.agent.calls[id]? = some (.check (.mark [(idx, addr)]))) :
    r.Reaches overflowChecks (.run id) ↔ (r.agent.full idx = true → overflowChecks = true) := by
  rw [CheckRun.Reaches, hcall]
  constructor
  · intro h hfull
    obtain ⟨_, _, _, ⟨⟩, hroom⟩ := h [(idx, addr)] rfl
    rw [if_pos hfull] at hroom
    exact hroom
  · rintro h targets ⟨⟩
    refine ⟨idx, addr, [], rfl, ?_⟩
    split
    · next hfull => exact h hfull
    · rfl

theorem CheckRun.Single.mark (h : r.Single start idx addr) (hj : r.Accounted start)
    (hcall : r.agent.calls[id]? = some (.check (.mark [(idx, addr)]))) :
    r.Settles overflowChecks start idx addr (.run id) := by
  have hfails : r.failsBy (.run id) = false := by
    rw [CheckRun.failsBy, hcall]
  have hreaches := reaches_mark_iff overflowChecks hcall
  obtain ⟨p, hp, haddr, -⟩ := h.pair
  have hfull : r.agent.full idx = true ↔ p.checksSent = 4294967295 := by
    rw [IceAgent.full, hp, Option.any_some, decide_eq_true_eq]
  by_cases hpanic : overflowChecks = true ∧ r.agent.full idx = true
  · have hagent : r.agent.run overflowChecks id = r.agent.finish id := by
      rw [IceAgent.run, hcall]
      dsimp only [IceAgent.runCheck]
      rw [markPairs_cons, if_pos hpanic]
    refine settles_of_quiet ?_ (hreaches.mpr (fun _ => hpanic.1))
    rw [step_silent (.run id) hagent rfl hfails]
    exact h.quiet htargets hstart hj rfl rfl h.finish
      (pending_of_finish rfl hcall (fun _ => rfl)) (.inl rfl)
  · have hagent : r.agent.run overflowChecks id =
        (r.agent.modifyPair idx CandidatePair.marked).wait id (.check (.send idx addr)) := by
      rw [IceAgent.run, hcall]
      dsimp only [IceAgent.runCheck]
      rw [markPairs_cons, if_neg hpanic]
      rfl
    have hpairs (i : Nat) := getElem?_modifyPair r.agent idx i CandidatePair.marked
    rw [CheckRun.Settles, hreaches, step_silent (.run id) hagent rfl hfails]
    constructor
    · refine Iff.trans (hj.marked_iff hp hpairs rfl ?_ rfl) ?_
      · intro i
        rw [← toNat_decide]
        change _ = _ + ((IceCall.check (.send idx addr)).sends i).toNat
        exact pending_of_mark rfl hcall rfl
      · rw [ne_eq, ← hfull]
        constructor
        · exact fun hroom hfull => (hroom hfull).elim
        · exact fun hchecks hfull => hpanic ⟨hchecks hfull, hfull⟩
    · intro _
      refine ⟨?_, ⟨p.marked, ?_, haddr, .inr (.inl rfl)⟩, h.wait ⟨rfl, rfl⟩, h.failed⟩
      · intro i hi
        exact ((hpairs i).trans (if_neg (Ne.symm hi))).trans (h.others i hi)
      · refine (hpairs idx).trans ?_
        rw [if_pos rfl, hp, Option.map_some]

omit htargets hstart in
theorem CheckRun.Single.succeed (h : r.Single start idx addr) (hj : r.Accounted start)
    (hcall : r.agent.calls[id]? = some (.check (.succeed idx))) :
    (r.step overflowChecks (.run id)).Accounted start ∧
      (r.step overflowChecks (.run id)).Single start idx addr := by
  have hsent := (h.calls id _ hcall).2
  have hagent : r.agent.run overflowChecks id = (r.agent.modifyPair idx (fun p =>
      { p with state := .succeeded, nominated := true })).wait id (.check (.connect idx)) := by
    rw [IceAgent.run, hcall]
    rfl
  have hfails : r.failsBy (.run id) = false := by
    rw [CheckRun.failsBy, hcall]
  rw [step_silent (.run id) hagent rfl hfails]
  have hpairs (i : Nat) : ((r.agent.modifyPair idx (fun p =>
      { p with state := .succeeded, nominated := true })).wait id
        (.check (.connect idx))).pairs[i]? = if idx = i then (r.agent.pairs[i]?).map (fun p =>
          { p with state := .succeeded, nominated := true }) else r.agent.pairs[i]? :=
    getElem?_modifyPair _ _ _ _
  constructor
  · refine hj.quiet ?_ rfl (pending_of_wait rfl hcall (fun _ => rfl)) (.inl rfl)
    intro i p' hp'
    rw [hpairs] at hp'
    split at hp'
    · obtain ⟨p, hp, rfl⟩ := Option.map_eq_some_iff.mp hp'
      exact ⟨p, hp, rfl, rfl, by rintro ⟨⟩⟩
    · exact ⟨p', hp', rfl, rfl, fun hstate => hstate⟩
  · refine ⟨?_, ?_, h.wait ⟨rfl, hsent⟩, h.failed⟩
    · intro i hi
      rw [hpairs, if_neg (Ne.symm hi)]
      exact h.others i hi
    · obtain ⟨p, hp, haddr, -⟩ := h.pair
      rw [hpairs, if_pos rfl, hp]
      exact ⟨_, rfl, haddr, .inr (.inr hsent)⟩

theorem CheckRun.Single.connect (h : r.Single start idx addr) (hj : r.Accounted start) {i : Nat}
    (hcall : r.agent.calls[id]? = some (.check (.connect i))) :
    (r.step overflowChecks (.run id)).Accounted start ∧
      (r.step overflowChecks (.run id)).Single start idx addr := by
  have hagent : r.agent.run overflowChecks id =
      { r.agent with state := .connected }.wait id (.check (.pick i)) := by
    rw [IceAgent.run, hcall]
    rfl
  have hfails : r.failsBy (.run id) = false := by
    rw [CheckRun.failsBy, hcall]
  have hchecks := h.calls id _ hcall
  rw [step_silent (.run id) hagent rfl hfails]
  exact h.quiet htargets hstart hj rfl rfl (h.wait hchecks)
    (pending_of_wait rfl hcall (fun _ => rfl)) (.inl rfl)

theorem CheckRun.Single.pick (h : r.Single start idx addr) (hj : r.Accounted start) {i : Nat}
    (hcall : r.agent.calls[id]? = some (.check (.pick i))) :
    (r.step overflowChecks (.run id)).Accounted start ∧
      (r.step overflowChecks (.run id)).Single start idx addr := by
  obtain ⟨rfl, -⟩ := h.calls id _ hcall
  obtain ⟨p, hp, -⟩ := h.pair
  have hagent : r.agent.run overflowChecks id = r.agent.wait id (.check (.select p)) := by
    rw [IceAgent.run, hcall]
    dsimp only [IceAgent.runCheck]
    rw [hp]
  have hfails : r.failsBy (.run id) = false := by
    rw [CheckRun.failsBy, hcall]
    dsimp only
    rw [hp]
    rfl
  rw [step_silent (.run id) hagent rfl hfails]
  exact h.quiet htargets hstart hj rfl rfl (h.wait trivial)
    (pending_of_wait rfl hcall (fun _ => rfl)) (.inl rfl)

theorem CheckRun.Single.select (h : r.Single start idx addr) (hj : r.Accounted start)
    {p : CandidatePair} (hcall : r.agent.calls[id]? = some (.check (.select p))) :
    (r.step overflowChecks (.run id)).Accounted start ∧
      (r.step overflowChecks (.run id)).Single start idx addr := by
  have hagent : r.agent.run overflowChecks id =
      { r.agent with selectedPair := some p }.finish id := by
    rw [IceAgent.run, hcall]
    rfl
  have hfails : r.failsBy (.run id) = false := by
    rw [CheckRun.failsBy, hcall]
  rw [step_silent (.run id) hagent rfl hfails]
  exact h.quiet htargets hstart hj rfl rfl h.finish
    (pending_of_finish rfl hcall (fun _ => rfl)) (.inl rfl)

theorem CheckRun.Single.run (h : r.Single start idx addr) (hj : r.Accounted start) (id : Nat) :
    r.Settles overflowChecks start idx addr (.run id) := by
  cases hcall : r.agent.calls[id]? with
  | none =>
    refine h.settles_same hj (step_run_of_none hcall) ?_
    intro targets hmark
    rw [hcall] at hmark
    cases hmark
  | some call =>
    have hchecks := h.calls id call hcall
    cases call with
    | gather _ | setRemote _ _ => exact hchecks.elim
    | check phase =>
      by_cases hmark : ∃ targets, phase = .mark targets
      · obtain ⟨targets, rfl⟩ := hmark
        rw [hchecks] at hcall
        exact h.mark htargets hstart hj hcall
      · have hreaches : r.Reaches overflowChecks (.run id) := by
          intro targets htarget
          rw [hcall] at htarget
          cases htarget
          exact (hmark ⟨targets, rfl⟩).elim
        cases phase with
        | mark targets => exact (hmark ⟨targets, rfl⟩).elim
        | fail i => exact hchecks.elim
        | send i dst | wait i dst request =>
          have hfails : r.failsBy (.run id) = false := by
            rw [CheckRun.failsBy, hcall]
          exact h.settles_same hj (step_run_of_socket hcall (fun _ => rfl) hfails) hreaches
        | succeed i =>
          obtain ⟨rfl, -⟩ := hchecks
          exact settles_of_quiet (h.succeed hj hcall) hreaches
        | connect i => exact settles_of_quiet (h.connect htargets hstart hj hcall) hreaches
        | pick i => exact settles_of_quiet (h.pick htargets hstart hj hcall) hreaches
        | select p => exact settles_of_quiet (h.select htargets hstart hj hcall) hreaches

/-- Each step of the calls on the one pair. -/
theorem CheckRun.Single.step (h : r.Single start idx addr) (hj : r.Accounted start)
    (op : CheckOp) : r.Settles overflowChecks start idx addr op := by
  cases op with
  | check id => exact h.check htargets hstart hj id
  | run id => exact h.run htargets hstart hj id
  | send id transactionId ok => exact h.send htargets hstart hj id transactionId ok
  | receive id src data => exact h.receive htargets hstart hj id src data
  | timeout id => exact h.timeout htargets hstart hj id
  | cancel id => exact h.cancel htargets hstart hj id

end Single

end P2PMesh.Ice
