import Mathlib.Data.List.DropRight
import Mathlib.Order.Bounds.Basic
import P2PMesh.Base.Counter
import P2PMesh.Base.History
import P2PMesh.Connectivity

namespace P2PMesh.Ice
open P2PMesh.Base P2PMesh.Puncher
set_option autoImplicit true

section Arithmetic
variable {overflowChecks : Bool}

theorem mulU64_eq (c : Bool) (x y : UInt64) : mulU64 c x y =
    if c = true ∧ 2 ^ 64 ≤ x.toNat * y.toNat then none else some (x * y) := rfl

theorem addU64_eq_ite (c : Bool) (x y : UInt64) : addU64 c x y =
    if c = true ∧ 2 ^ 64 ≤ x.toNat + y.toNat then none else some (x + y) := by
  rw [addU64]
  simp only [Bool.and_eq_true, decide_eq_true_eq]

theorem absDiff_toNat (x y : UInt64) :
    (absDiff x y).toNat = (x.toNat - y.toNat) + (y.toNat - x.toNat) := by
  rw [absDiff]
  split
  · next h =>
    have hlt := UInt64.lt_iff_toNat_lt.mp h
    rw [UInt64.toNat_sub_of_le _ _ (UInt64.le_of_lt h)]
    omega
  · next h =>
    have hle := UInt64.le_iff_toNat_le.mp (UInt64.not_lt.mp h)
    rw [UInt64.toNat_sub_of_le _ _ (UInt64.not_lt.mp h)]
    omega

/-- The products and sums of one more sample fit into 64 bits. -/
def EstimateFits (srttUs rttVarUs rttUs : UInt64) : Prop :=
  srttUs = 0 ∨ 3 * rttVarUs.toNat + (absDiff rttUs srttUs).toNat < 2 ^ 64 ∧
    7 * srttUs.toNat + rttUs.toNat < 2 ^ 64

instance (srttUs rttVarUs rttUs : UInt64) : Decidable (EstimateFits srttUs rttVarUs rttUs) :=
  inferInstanceAs (Decidable (_ ∨ _))

/-- The estimate with one more sample, modulo 2^64. -/
def estimated (srttUs rttVarUs rttUs : UInt64) : UInt64 × UInt64 :=
  if srttUs = 0 then (rttUs, rttUs / 2)
  else ((7 * srttUs + rttUs) / 8, (3 * rttVarUs + absDiff rttUs srttUs) / 4)

theorem mulAdd_bind (c : Bool) (k x y : UInt64) (f : UInt64 → Option β) :
    ((mulU64 c k x).bind fun a => (addU64 c a y).bind f) =
      if c = true ∧ 2 ^ 64 ≤ k.toNat * x.toNat + y.toNat then none else f (k * x + y) := by
  cases c with
  | false => rfl
  | true =>
    rw [mulU64_eq]
    by_cases hprod : 2 ^ 64 ≤ k.toNat * x.toNat
    · rw [if_pos ⟨rfl, hprod⟩, if_pos ⟨rfl, Nat.le_add_right_of_le hprod⟩, Option.bind_none]
    · rw [if_neg (fun h => hprod h.2), Option.bind_some, addU64_eq_ite, UInt64.toNat_mul,
        Nat.mod_eq_of_lt (Nat.not_le.mp hprod)]
      split
      · rfl
      · rfl

theorem estimateRtt_eq (c : Bool) (srttUs rttVarUs rttUs : UInt64) :
    estimateRtt c srttUs rttVarUs rttUs =
      if c = true ∧ ¬ EstimateFits srttUs rttVarUs rttUs then none
      else some (estimated srttUs rttVarUs rttUs) := by
  by_cases hzero : srttUs = 0
  · have hfits : EstimateFits srttUs rttVarUs rttUs := .inl hzero
    rw [if_neg (fun h => h.2 hfits), estimateRtt, estimated, if_pos hzero, if_pos hzero]
  · have hfits : ¬ EstimateFits srttUs rttVarUs rttUs ↔
        2 ^ 64 ≤ 3 * rttVarUs.toNat + (absDiff rttUs srttUs).toNat ∨
          2 ^ 64 ≤ 7 * srttUs.toNat + rttUs.toNat := by
      rw [EstimateFits, or_iff_right hzero]
      omega
    rw [estimateRtt, estimated, if_neg hzero, if_neg hzero]
    simp only [hfits, Option.bind_eq_bind, mulAdd_bind, unless_unless, ← and_or_left]
    rfl

end Arithmetic

inductive CheckResult where
  | success (rttUs : UInt64) (now : Nat)
  | failure

section Record
variable (overflowChecks : Bool) (p : PeerConnectivity)

def PeerConnectivity.record : CheckResult → Option PeerConnectivity
  | .success rttUs now => p.recordSuccess overflowChecks rttUs now
  | .failure => p.recordFailure overflowChecks

/-- A run of calls ends with the first of them that panics. -/
def PeerConnectivity.recordAll (results : List CheckResult) : Option PeerConnectivity :=
  results.foldlM (PeerConnectivity.record overflowChecks) p

/-- The peer that a success leaves, with counters and estimate that wrap. -/
def PeerConnectivity.succeeded (rttUs : UInt64) (now : Nat) : PeerConnectivity :=
  { p with
    state := .connected
    failedChecks := 0
    successfulChecks := p.successfulChecks + 1
    lastSuccess := some now
    lastConsent := now
    rttSamples := if 8 < (p.rttSamples ++ [rttUs]).length then (p.rttSamples ++ [rttUs]).tail
      else p.rttSamples ++ [rttUs]
    srttUs := (estimated p.srttUs p.rttVarUs rttUs).1
    rttVarUs := (estimated p.srttUs p.rttVarUs rttUs).2
    probesSent := p.probesSent + 1
    probesReceived := p.probesReceived + 1 }

def PeerConnectivity.failed : PeerConnectivity :=
  { p with
    state := if 5 ≤ p.failedChecks + 1 then .failed
      else if 3 ≤ p.failedChecks + 1 then .disconnected else p.state
    failedChecks := p.failedChecks + 1
    successfulChecks := 0
    probesSent := p.probesSent + 1 }

theorem PeerConnectivity.recordSuccess_eq (rttUs : UInt64) (now : Nat) :
    p.recordSuccess overflowChecks rttUs now =
      if overflowChecks = true ∧ (p.probesSent = 18446744073709551615 ∨
        p.successfulChecks = 4294967295 ∨ ¬ EstimateFits p.srttUs p.rttVarUs rttUs ∨
          p.probesReceived = 18446744073709551615) then none
      else some (p.succeeded rttUs now) := by
  rw [PeerConnectivity.recordSuccess]
  simp only [addU64_one, countU32, estimateRtt_eq, Option.bind_eq_bind, unless_bind,
    unless_unless, ← and_or_left]
  rfl

theorem PeerConnectivity.recordFailure_eq : p.recordFailure overflowChecks =
    if overflowChecks = true ∧ (p.failedChecks = 4294967295 ∨
      p.probesSent = 18446744073709551615) then none
    else some p.failed := by
  rw [PeerConnectivity.recordFailure]
  simp only [addU64_one, countU32, Option.bind_eq_bind, unless_bind, unless_unless,
    ← and_or_left]
  rfl

end Record

section Verdict
variable {overflowChecks : Bool} {p : PeerConnectivity} {results : List CheckResult}

def CheckResult.rtt? : CheckResult → Option UInt64
  | .success rttUs _ => some rttUs
  | .failure => none

def samples (results : List CheckResult) : List UInt64 := results.filterMap CheckResult.rtt?

/-- The number of failures since the last success. -/
def trailingFailures (results : List CheckResult) : Nat :=
  (results.rtakeWhile (fun result => result.rtt?.isNone)).length

def verdict (results : List CheckResult) : ConnectionState :=
  if 5 ≤ trailingFailures results then .failed
  else if 3 ≤ trailingFailures results then .disconnected
  else if samples results ≠ [] then .connected
  else .new

/-- The fields of a peer are what its calls so far make of them. -/
structure PeerConnectivity.Reflects (results : List CheckResult) (p : PeerConnectivity) :
    Prop where
  failedChecks : p.failedChecks.toNat = trailingFailures results
  exclusive : p.failedChecks = 0 ∨ p.successfulChecks = 0
  probesSent : p.probesSent.toNat = results.length
  probesReceived : p.probesReceived.toNat = (samples results).length
  rttSamples : p.rttSamples = (samples results).rtake 8
  state : p.state = verdict results

/-- There is room in the counters for one more call, and in a build with overflow checks for the
count of successes and the estimate too. -/
def PeerConnectivity.Room (overflowChecks : Bool) (p : PeerConnectivity) : CheckResult → Prop
  | .success rttUs _ => p.probesSent ≠ 18446744073709551615 ∧ (overflowChecks = true →
    p.successfulChecks ≠ 4294967295 ∧ EstimateFits p.srttUs p.rttVarUs rttUs)
  | .failure => p.probesSent ≠ 18446744073709551615 ∧ p.failedChecks ≠ 4294967295

theorem samples_concat_success (rttUs : UInt64) (now : Nat) :
    samples (results ++ [.success rttUs now]) = samples results ++ [rttUs] := by
  rw [samples, List.filterMap_append]
  rfl

theorem samples_concat_failure : samples (results ++ [.failure]) = samples results := by
  rw [samples, List.filterMap_append]
  exact List.append_nil _

theorem trailingFailures_concat_success (rttUs : UInt64) (now : Nat) :
    trailingFailures (results ++ [.success rttUs now]) = 0 := by
  rw [trailingFailures, List.rtakeWhile_concat_neg _ _ _ Bool.false_ne_true, List.length_nil]

theorem trailingFailures_concat_failure :
    trailingFailures (results ++ [.failure]) = trailingFailures results + 1 := by
  rw [trailingFailures, List.rtakeWhile_concat_pos _ _ _ (by rfl), List.length_append,
    List.length_singleton, trailingFailures]

theorem verdict_concat_success (rttUs : UInt64) (now : Nat) :
    verdict (results ++ [.success rttUs now]) = .connected := by
  rw [verdict, trailingFailures_concat_success, samples_concat_success]
  simp

theorem verdict_concat_failure : verdict (results ++ [.failure]) =
    if 5 ≤ trailingFailures results + 1 then .failed
    else if 3 ≤ trailingFailures results + 1 then .disconnected
    else verdict results := by
  rw [verdict, trailingFailures_concat_failure, samples_concat_failure]
  split
  · rfl
  · split
    · rfl
    · have hfive : ¬ 5 ≤ trailingFailures results := by omega
      have hthree : ¬ 3 ≤ trailingFailures results := by omega
      rw [verdict, if_neg hfive, if_neg hthree]

theorem rtake_concat (l : List UInt64) (x : UInt64) :
    (if 8 < (l.rtake 8 ++ [x]).length then (l.rtake 8 ++ [x]).tail else l.rtake 8 ++ [x]) =
      (l ++ [x]).rtake 8 := by
  rw [List.rtake_concat_succ, List.length_append, List.length_singleton]
  simp only [List.rtake, List.length_drop]
  split
  · next hlong =>
    have hlt : l.length - 8 < l.length := by omega
    rw [List.drop_eq_getElem_cons hlt, List.cons_append, List.tail_cons]
    congr 2
    omega
  · next hshort =>
    congr 2
    omega

section Steps
variable (h : p.Reflects results)
include h

theorem PeerConnectivity.Reflects.received_lt
    (hroom : p.probesSent ≠ 18446744073709551615) :
    p.probesReceived ≠ 18446744073709551615 := by
  have hle : (samples results).length ≤ results.length := List.length_filterMap_le _ _
  rw [← h.probesReceived, ← h.probesSent] at hle
  intro he
  apply hroom
  have hlt := p.probesSent.toNat_lt
  rw [he] at hle
  change 18446744073709551615 ≤ p.probesSent.toNat at hle
  exact UInt64.toNat_inj.mp (Nat.le_antisymm (Nat.le_of_lt_succ hlt) hle)

theorem PeerConnectivity.Reflects.succeeded_iff (rttUs : UInt64) (now : Nat) :
    (p.succeeded rttUs now).Reflects (results ++ [.success rttUs now]) ↔
      p.probesSent ≠ 18446744073709551615 := by
  rw [← succ64_toNat_eq_iff]
  constructor
  · intro hr
    have hsent := hr.probesSent
    rw [List.length_append, ← h.probesSent] at hsent
    exact hsent
  · intro hroom
    have hreceived := h.received_lt ((succ64_toNat_eq_iff _).mp hroom)
    exact
      { failedChecks := (trailingFailures_concat_success rttUs now).symm
        exclusive := .inl rfl
        probesSent := by
          rw [List.length_append, ← h.probesSent]
          exact hroom
        probesReceived := by
          rw [samples_concat_success, List.length_append, ← h.probesReceived]
          exact (succ64_toNat_eq_iff _).mpr hreceived
        rttSamples := by
          rw [samples_concat_success, ← rtake_concat, ← h.rttSamples]
          rfl
        state := (verdict_concat_success rttUs now).symm }

theorem PeerConnectivity.Reflects.failed_iff :
    p.failed.Reflects (results ++ [.failure]) ↔
      p.probesSent ≠ 18446744073709551615 ∧ p.failedChecks ≠ 4294967295 := by
  rw [← succ64_toNat_eq_iff, ← succ32_toNat_eq_iff]
  constructor
  · intro hr
    have hsent := hr.probesSent
    have hfailed := hr.failedChecks
    rw [List.length_append, ← h.probesSent] at hsent
    rw [trailingFailures_concat_failure, ← h.failedChecks] at hfailed
    exact ⟨hsent, hfailed⟩
  · rintro ⟨hsent, hfailed⟩
    exact
      { failedChecks := by
          rw [trailingFailures_concat_failure, ← h.failedChecks]
          exact hfailed
        exclusive := .inr rfl
        probesSent := by
          rw [List.length_append, ← h.probesSent]
          exact hsent
        probesReceived := by
          rw [samples_concat_failure]
          exact h.probesReceived
        rttSamples := by
          rw [samples_concat_failure]
          exact h.rttSamples
        state := by
          rw [verdict_concat_failure, ← h.failedChecks, ← hfailed, ← h.state]
          rfl }

theorem PeerConnectivity.Reflects.record_iff (result : CheckResult) :
    (∃ q, p.record overflowChecks result = some q ∧ q.Reflects (results ++ [result])) ↔
      p.Room overflowChecks result := by
  cases result with
  | success rttUs now =>
    rw [PeerConnectivity.record, PeerConnectivity.recordSuccess_eq, exists_unless_iff,
      h.succeeded_iff, and_comm]
    apply and_congr_right
    intro hsent
    rw [not_and]
    refine imp_congr_right (fun _ => ⟨?_, ?_⟩)
    · intro hroom
      exact ⟨fun he => hroom (.inr (.inl he)),
        not_not.mp (fun hfits => hroom (.inr (.inr (.inl hfits))))⟩
    · rintro ⟨hsuccessful, hfits⟩ (he | he | he | he)
      · exact hsent he
      · exact hsuccessful he
      · exact he hfits
      · exact h.received_lt hsent he
  | failure =>
    rw [PeerConnectivity.record, PeerConnectivity.recordFailure_eq, exists_unless_iff,
      h.failed_iff]
    apply and_iff_right_of_imp
    rintro ⟨hsent, hfailed⟩ ⟨-, he | he⟩
    · exact hfailed he
    · exact hsent he

end Steps

theorem PeerConnectivity.reflects_new (peerId : String) (remoteAddr : SocketAddr) (now : Nat) :
    (PeerConnectivity.new peerId remoteAddr now).Reflects [] :=
  ⟨rfl, .inl rfl, rfl, rfl, rfl, rfl⟩

/-- Every call of a run on a new peer returns, and leaves the fields that the history asks for,
exactly if each call finds room in the counters. -/
theorem PeerConnectivity.verdicts_iff (overflowChecks : Bool) (peerId : String)
    (remoteAddr : SocketAddr) (now : Nat) (results : List CheckResult) :
    (∀ l, l <+: results → ∃ p, (PeerConnectivity.new peerId remoteAddr now).recordAll
      overflowChecks l = some p ∧ p.Reflects l) ↔
    ∀ l result, l ++ [result] <+: results → ∀ p, (PeerConnectivity.new peerId remoteAddr
      now).recordAll overflowChecks l = some p → p.Room overflowChecks result :=
  forall_history_iff (reflects_new peerId remoteAddr now)
    (fun _ _ result h => h.record_iff result) results

theorem PeerConnectivity.recordAll_failures (n : Nat) : ∃ q,
    p.recordAll false (List.replicate n .failure) = some q ∧
      q.failedChecks = p.failedChecks + UInt32.ofNat n := by
  induction n with
  | zero => exact ⟨p, rfl, (UInt32.add_zero _).symm⟩
  | succ n ih =>
    obtain ⟨q, hq, hfailed⟩ := ih
    refine ⟨q.failed, ?_, ?_⟩
    · rw [List.replicate_succ']
      exact foldlM_concat_eq_some.mpr ⟨q, hq, q.recordFailure_eq false⟩
    · rw [UInt32.ofNat_add, ← UInt32.add_assoc, ← hfailed]
      rfl

/-- After 2^32 failures in a row the count of failures is zero again. -/
theorem failures_wrap : ∃ p, (PeerConnectivity.new "peer" peerAddr 0).recordAll false
    (List.replicate (2 ^ 32) .failure) = some p ∧ p.failedChecks = 0 ∧
      ¬ p.Reflects (List.replicate (2 ^ 32) .failure) := by
  obtain ⟨p, hp, hfailed⟩ := PeerConnectivity.recordAll_failures
    (p := PeerConnectivity.new "peer" peerAddr 0) (2 ^ 32)
  refine ⟨p, hp, hfailed, ?_⟩
  intro hr
  have htrailing := hr.failedChecks
  rw [hfailed, trailingFailures, List.rtakeWhile_eq_self_iff.mpr, List.length_replicate]
    at htrailing
  · cases htrailing
  · intro result hresult
    rw [List.eq_of_mem_replicate hresult]
    rfl

end Verdict

section Envelope
variable {overflowChecks : Bool} {p : PeerConnectivity} {results : List CheckResult}

/-- The estimate lies between bounds of the samples; before the first sample it is zero. -/
structure PeerConnectivity.Enveloped (results : List CheckResult) (p : PeerConnectivity) :
    Prop where
  unsampled : samples results = [] → p.srttUs = 0 ∧ p.rttVarUs = 0
  between : samples results ≠ [] → ∀ lo hi : Nat,
    (∀ x ∈ samples results, lo ≤ x.toNat ∧ x.toNat ≤ hi) →
      lo ≤ p.srttUs.toNat ∧ p.srttUs.toNat ≤ hi ∧ p.rttVarUs.toNat ≤ hi

/-- What the samples so far promise of the estimate: the arithmetic of the next sample and of the
timeout fits, and both lie within the bounds of the samples. -/
structure PeerConnectivity.WithinEnvelope (overflowChecks : Bool) (results : List CheckResult)
    (p : PeerConnectivity) : Prop where
  fits : ∀ rttUs : UInt64, rttUs.toNat < 2 ^ 60 → EstimateFits p.srttUs p.rttVarUs rttUs
  timeout : ∃ t, p.rttTimeout overflowChecks = some t ∧
    t.toNat = p.srttUs.toNat + 4 * p.rttVarUs.toNat
  bounds : ∀ lo hi, IsLeast {x | x ∈ samples results} lo →
    IsGreatest {x | x ∈ samples results} hi →
      lo ≤ p.srttUs ∧ p.srttUs ≤ hi ∧ p.rttVarUs ≤ hi ∧
        ∃ t, p.rttTimeout overflowChecks = some t ∧ p.srttUs ≤ t ∧ t.toNat ≤ 5 * hi.toNat

/-- A counter that a call counts up has no room left. -/
def PeerConnectivity.CounterFull (p : PeerConnectivity) : CheckResult → Prop
  | .success _ _ => p.probesSent = 18446744073709551615 ∨ p.successfulChecks = 4294967295 ∨
    p.probesReceived = 18446744073709551615
  | .failure => p.failedChecks = 4294967295 ∨ p.probesSent = 18446744073709551615

/-- An average with weights 7 and 1, rounded down, stays between the bounds of the two values. -/
theorem weighted_between {lo hi x y : Nat} (hx : lo ≤ x ∧ x ≤ hi) (hy : lo ≤ y ∧ y ≤ hi) :
    lo ≤ (7 * x + y) / 8 ∧ (7 * x + y) / 8 ≤ hi := by
  omega

theorem estimated_toNat {srttUs rttVarUs rttUs : UInt64} (hzero : srttUs ≠ 0)
    (hfits : EstimateFits srttUs rttVarUs rttUs) :
    (estimated srttUs rttVarUs rttUs).1.toNat = (7 * srttUs.toNat + rttUs.toNat) / 8 ∧
      (estimated srttUs rttVarUs rttUs).2.toNat =
        (3 * rttVarUs.toNat + (absDiff rttUs srttUs).toNat) / 4 := by
  obtain ⟨hvar, hsrtt⟩ := hfits.resolve_left hzero
  rw [estimated, if_neg hzero, UInt64.toNat_div, UInt64.toNat_div, UInt64.toNat_add,
    UInt64.toNat_add, UInt64.toNat_mul, UInt64.toNat_mul]
  change (7 * srttUs.toNat % 2 ^ 64 + rttUs.toNat) % 2 ^ 64 / 8 = _ ∧
    (3 * rttVarUs.toNat % 2 ^ 64 + (absDiff rttUs srttUs).toNat) % 2 ^ 64 / 4 = _
  omega

theorem estimated_between {srttUs rttVarUs rttUs : UInt64} {lo hi : Nat}
    (hrtt : lo ≤ rttUs.toNat ∧ rttUs.toNat ≤ hi)
    (hsrtt : srttUs ≠ 0 → lo ≤ srttUs.toNat ∧ srttUs.toNat ≤ hi ∧ rttVarUs.toNat ≤ hi)
    (hfits : EstimateFits srttUs rttVarUs rttUs) :
    lo ≤ (estimated srttUs rttVarUs rttUs).1.toNat ∧
      (estimated srttUs rttVarUs rttUs).1.toNat ≤ hi ∧
        (estimated srttUs rttVarUs rttUs).2.toNat ≤ hi := by
  by_cases hzero : srttUs = 0
  · rw [estimated, if_pos hzero, UInt64.toNat_div]
    exact ⟨hrtt.1, hrtt.2, (Nat.div_le_self _ _).trans hrtt.2⟩
  · obtain ⟨hlo, hhi, hvar⟩ := hsrtt hzero
    obtain ⟨hs, hv⟩ := estimated_toNat hzero hfits
    rw [hs, hv, absDiff_toNat]
    have hmean := weighted_between ⟨hlo, hhi⟩ hrtt
    exact ⟨hmean.1, hmean.2, by omega⟩

theorem PeerConnectivity.Enveloped.small (h : p.Enveloped results)
    (hsmall : ∀ x ∈ samples results, x.toNat < 2 ^ 60) :
    p.srttUs.toNat < 2 ^ 60 ∧ p.rttVarUs.toNat < 2 ^ 60 := by
  by_cases hnone : samples results = []
  · obtain ⟨hsrtt, hvar⟩ := h.unsampled hnone
    rw [hsrtt, hvar]
    decide
  · obtain ⟨-, hsrtt, hvar⟩ := h.between hnone 0 (2 ^ 60 - 1)
      (fun x hx => ⟨Nat.zero_le _, Nat.le_sub_one_of_lt (hsmall x hx)⟩)
    omega

theorem PeerConnectivity.Enveloped.fits (h : p.Enveloped results)
    (hsmall : ∀ x ∈ samples results, x.toNat < 2 ^ 60) (hrtt : rttUs.toNat < 2 ^ 60) :
    EstimateFits p.srttUs p.rttVarUs rttUs := by
  obtain ⟨hsrtt, hvar⟩ := h.small hsmall
  right
  rw [absDiff_toNat]
  omega

theorem PeerConnectivity.record_eq_some (result : CheckResult)
    (h : p.record overflowChecks result = some q) :
    q = match result with
      | .success rttUs now => p.succeeded rttUs now
      | .failure => p.failed := by
  cases result with
  | success rttUs now =>
    rw [PeerConnectivity.record, PeerConnectivity.recordSuccess_eq] at h
    split at h
    · cases h
    · cases h
      rfl
  | failure =>
    rw [PeerConnectivity.record, PeerConnectivity.recordFailure_eq] at h
    split at h
    · cases h
    · cases h
      rfl

theorem PeerConnectivity.Enveloped.record (h : p.Enveloped results) (result : CheckResult)
    (hsmall : ∀ x ∈ samples (results ++ [result]), x.toNat < 2 ^ 60)
    (hq : p.record overflowChecks result = some q) : q.Enveloped (results ++ [result]) := by
  cases result with
  | success rttUs now =>
    rw [samples_concat_success] at hsmall
    have hfits := h.fits (fun x hx => hsmall x (List.mem_append_left _ hx))
      (hsmall rttUs (List.mem_append_right _ (List.mem_singleton_self _)))
    rw [PeerConnectivity.record_eq_some _ hq]
    constructor
    · intro hnone
      rw [samples_concat_success] at hnone
      exact (List.append_ne_nil_of_right_ne_nil _ (List.cons_ne_nil _ _) hnone).elim
    · intro _ lo hi hbounds
      rw [samples_concat_success] at hbounds
      apply estimated_between
        (hbounds rttUs (List.mem_append_right _ (List.mem_singleton_self _))) _ hfits
      intro hzero
      apply h.between _ lo hi (fun x hx => hbounds x (List.mem_append_left _ hx))
      intro hnone
      exact hzero (h.unsampled hnone).1
  | failure =>
    rw [PeerConnectivity.record_eq_some _ hq]
    constructor
    · rw [samples_concat_failure]
      exact h.unsampled
    · rw [samples_concat_failure]
      exact h.between

theorem PeerConnectivity.rttTimeout_eq (overflowChecks : Bool)
    (hsrtt : p.srttUs.toNat < 2 ^ 60) (hvar : p.rttVarUs.toNat < 2 ^ 60) :
    ∃ t, p.rttTimeout overflowChecks = some t ∧
      t.toNat = p.srttUs.toNat + 4 * p.rttVarUs.toNat := by
  have hprod : (4 * p.rttVarUs).toNat = 4 * p.rttVarUs.toNat := by
    rw [UInt64.toNat_mul]
    exact Nat.mod_eq_of_lt (a := 4 * p.rttVarUs.toNat) (by omega)
  refine ⟨p.srttUs + 4 * p.rttVarUs, ?_, ?_⟩
  · have hfit : ¬ 2 ^ 64 ≤ (4 : UInt64).toNat * p.rttVarUs.toNat := by
      change ¬ 2 ^ 64 ≤ 4 * p.rttVarUs.toNat
      omega
    rw [PeerConnectivity.rttTimeout, mulU64_eq, if_neg (fun h => hfit h.2), Option.bind_eq_bind,
      Option.bind_some, addU64_eq_ite, hprod, if_neg (by omega)]
  · rw [UInt64.toNat_add, hprod]
    omega

theorem PeerConnectivity.Enveloped.withinEnvelope (h : p.Enveloped results)
    (hsmall : ∀ x ∈ samples results, x.toNat < 2 ^ 60) :
    p.WithinEnvelope overflowChecks results := by
  obtain ⟨hsrtt, hvar⟩ := h.small hsmall
  obtain ⟨t, ht, htimeout⟩ := p.rttTimeout_eq overflowChecks hsrtt hvar
  constructor
  · exact fun rttUs hrtt => h.fits hsmall hrtt
  · exact ⟨t, ht, htimeout⟩
  · intro lo hi hlo hhi
    have hsome : samples results ≠ [] := List.ne_nil_of_mem hlo.1
    obtain ⟨hlow, hhigh, hvarhigh⟩ := h.between hsome lo.toNat hi.toNat (fun x hx =>
      ⟨UInt64.le_iff_toNat_le.mp (hlo.2 hx), UInt64.le_iff_toNat_le.mp (hhi.2 hx)⟩)
    simp only [UInt64.le_iff_toNat_le]
    exact ⟨hlow, hhigh, hvarhigh, t, ht, by omega, by omega⟩

theorem PeerConnectivity.enveloped_recordAll (peerId : String) (remoteAddr : SocketAddr)
    (now : Nat) (hsmall : ∀ x ∈ samples results, x.toNat < 2 ^ 60)
    (h : (PeerConnectivity.new peerId remoteAddr now).recordAll overflowChecks results =
      some p) : p.Enveloped results := by
  revert hsmall
  refine history_invariant (V := fun l q => (∀ x ∈ samples l, x.toNat < 2 ^ 60) →
    q.Enveloped l) ?_ ?_ h
  · exact fun _ => ⟨fun _ => ⟨rfl, rfl⟩, fun hnil => (hnil rfl).elim⟩
  · intro l q result r henveloped hr hsmall
    apply (henveloped _).record result hsmall hr
    intro x hx
    apply hsmall
    rw [samples, List.filterMap_append]
    exact List.mem_append_left _ hx

theorem PeerConnectivity.record_eq_none {result : CheckResult}
    (hfits : ∀ x ∈ result.rtt?, EstimateFits p.srttUs p.rttVarUs x)
    (h : p.record overflowChecks result = none) :
    overflowChecks = true ∧ p.CounterFull result := by
  cases result with
  | success rttUs now =>
    rw [PeerConnectivity.record, PeerConnectivity.recordSuccess_eq] at h
    split at h
    · next hc =>
      refine ⟨hc.1, ?_⟩
      rcases hc.2 with he | he | he | he
      · exact .inl he
      · exact .inr (.inl he)
      · exact (he (hfits rttUs rfl)).elim
      · exact .inr (.inr he)
    · cases h
  | failure =>
    rw [PeerConnectivity.record, PeerConnectivity.recordFailure_eq] at h
    split at h
    · next hc => exact hc
    · cases h

/-- The estimate of a new peer stays within the envelope of its samples, and a call panics only
at a counter that is full in a build with overflow checks. -/
theorem PeerConnectivity.rtt_envelope (overflowChecks : Bool) (peerId : String)
    (remoteAddr : SocketAddr) (now : Nat) (results : List CheckResult)
    (hsmall : ∀ x ∈ samples results, x.toNat < 2 ^ 60) :
    (∀ p, (PeerConnectivity.new peerId remoteAddr now).recordAll overflowChecks results =
      some p → p.WithinEnvelope overflowChecks results) ∧
    ((PeerConnectivity.new peerId remoteAddr now).recordAll overflowChecks results = none →
      ∃ l result p, l ++ [result] <+: results ∧
        (PeerConnectivity.new peerId remoteAddr now).recordAll overflowChecks l = some p ∧
          overflowChecks = true ∧ p.CounterFull result) := by
  constructor
  · intro p hp
    exact (enveloped_recordAll peerId remoteAddr now hsmall hp).withinEnvelope hsmall
  · intro hnone
    obtain ⟨l, result, p, hl, hp, hrecord⟩ := foldlM_eq_none hnone
    refine ⟨l, result, p, hl, hp, record_eq_none ?_ hrecord⟩
    have hsmall' : ∀ x ∈ samples (l ++ [result]), x.toNat < 2 ^ 60 :=
      fun x hx => hsmall x ((hl.filterMap _).subset hx)
    rw [samples, List.filterMap_append] at hsmall'
    have hl' : ∀ x ∈ samples l, x.toNat < 2 ^ 60 :=
      fun x hx => hsmall' x (List.mem_append_left _ hx)
    intro x hx
    apply (enveloped_recordAll peerId remoteAddr now hl' hp).fits hl'
    apply hsmall' x
    apply List.mem_append_right
    exact List.mem_filterMap.mpr ⟨result, List.mem_singleton_self _, hx⟩

theorem PeerConnectivity.rtt_envelope_samples : ∃ p,
    (PeerConnectivity.new "peer" peerAddr 0).recordAll true
      [.success 1000 0, .failure, .success 0 1, .success 400 2] = some p ∧
        p.srttUs = 815 ∧ p.WithinEnvelope true
          [.success 1000 0, .failure, .success 0 1, .success 400 2] := by
  have hall : (samples [.success 1000 0, .failure, .success 0 1, .success 400 2]).all
      (fun x => decide (x.toNat < 2 ^ 60)) = true := by decide
  have hrun := (PeerConnectivity.rtt_envelope true "peer" peerAddr 0
    [.success 1000 0, .failure, .success 0 1, .success 400 2]
      (fun x hx => of_decide_eq_true (List.all_eq_true.mp hall x hx))).1
  exact ⟨_, by rfl, by rfl, hrun _ (by rfl)⟩

end Envelope

end P2PMesh.Ice
