import Mathlib.Algebra.Order.Floor.Semifield
import Mathlib.Data.Rat.Floor
import Mathlib.Tactic.Linarith
import Mathlib.Tactic.Positivity
import P2PMesh.Base.Counter
import P2PMesh.Base.History

namespace P2PMesh.Metrics
open P2PMesh.Base
set_option autoImplicit true

/-- A span of time in nanoseconds, with seconds of 64 bits. -/
structure Duration where
  nanos : Nat
  lt : nanos < 2 ^ 64 * 10 ^ 9
deriving DecidableEq

def Duration.zero : Duration := ⟨0, by decide⟩

def Duration.max : Duration := ⟨2 ^ 64 * 10 ^ 9 - 1, by decide⟩

def Duration.fromMicros (micros : UInt64) : Duration :=
  ⟨micros.toNat * 1000, by have := micros.toNat_lt; omega⟩

def Duration.asMicros (d : Duration) : Nat := d.nanos / 1000

def Duration.asMillis (d : Duration) : Nat := d.nanos / 10 ^ 6

/-- A loss rate that is measured elsewhere. -/
structure LossRate where
  rate : ℚ
  nonneg : 0 ≤ rate
  le_one : rate ≤ 1
deriving DecidableEq

/-- A number as 64 bits: the fraction is cut off, and what does not fit becomes the largest. -/
def asU64 (x : ℚ) : UInt64 :=
  if x < 2 ^ 64 then UInt64.ofNat ⌊x⌋₊ else 18446744073709551615

/-- Numbers are exact and the clock is in nanoseconds. -/
structure PathMetrics where
  rttAvg : Duration
  rttMin : Duration
  rttMax : Duration
  rttSamples : UInt64
  lossRate : ℚ
  packetsSent : UInt64
  packetsAcked : UInt64
  bandwidthBps : UInt64
  lastBwSample : Nat
  bytesInWindow : UInt64
  alpha : ℚ
deriving DecidableEq

def PathMetrics.default (now : Nat) : PathMetrics :=
  ⟨.zero, .max, .zero, 0, 0, 0, 0, 0, now, 0, 1 / 8⟩

structure QualityScore where
  total : ℚ
  rtt : ℚ
  loss : ℚ
  bandwidth : ℚ

section Record
variable (overflowChecks : Bool) (m : PathMetrics)

/-- The average goes through whole microseconds, of which 64 bits are kept. -/
def PathMetrics.recordRtt (rtt : Duration) : Option PathMetrics := do
  let rttSamples ← addU64 overflowChecks m.rttSamples 1
  if rttSamples = 1 then
    return { m with rttSamples, rttAvg := rtt, rttMin := rtt, rttMax := rtt }
  else
    let newAvgMicros :=
      ⌊m.alpha * (rtt.asMicros : ℚ) + (1 - m.alpha) * (m.rttAvg.asMicros : ℚ)⌋₊
    return { m with
      rttSamples
      rttAvg := .fromMicros (UInt64.ofNat newAvgMicros)
      rttMin := if rtt.nanos < m.rttMin.nanos then rtt else m.rttMin
      rttMax := if m.rttMax.nanos ≤ rtt.nanos then rtt else m.rttMax }

def PathMetrics.recordSend : Option PathMetrics := do
  return { m with packetsSent := ← addU64 overflowChecks m.packetsSent 1 }

def PathMetrics.updateLossRate : PathMetrics :=
  { m with lossRate :=
      if m.packetsSent = 0 then 0
      else 1 - (m.packetsAcked.toNat : ℚ) / (m.packetsSent.toNat : ℚ) }

def PathMetrics.recordAck : Option PathMetrics := do
  let packetsAcked ← addU64 overflowChecks m.packetsAcked 1
  return { m with packetsAcked }.updateLossRate

/-- A new value for the bandwidth, of which the first stands as it is. -/
def PathMetrics.smoothBandwidth (bandwidth : UInt64) : UInt64 :=
  if m.bandwidthBps = 0 then bandwidth
  else asU64 (m.alpha * (bandwidth.toNat : ℚ) + (1 - m.alpha) * (m.bandwidthBps.toNat : ℚ))

/-- The clock is read for the time since the last sample, and again for the next one. -/
def PathMetrics.recordBytes (bytes : UInt64) (now reset : Nat) : Option PathMetrics := do
  let bytesInWindow ← addU64 overflowChecks m.bytesInWindow bytes
  let elapsed := now - m.lastBwSample
  if 10 ^ 9 ≤ elapsed then
    let currentBps := asU64 ((bytesInWindow.toNat : ℚ) / ((elapsed : ℚ) / 10 ^ 9))
    return { m with
      bandwidthBps := m.smoothBandwidth currentBps
      bytesInWindow := 0
      lastBwSample := reset }
  else return { m with bytesInWindow }

def PathMetrics.update (rtt : Duration) (lossRate : LossRate) (bandwidth : UInt64) :
    Option PathMetrics := do
  let m ← m.recordRtt overflowChecks rtt
  let m := { m with lossRate := lossRate.rate }
  if 0 < bandwidth then return { m with bandwidthBps := m.smoothBandwidth bandwidth }
  else return m

end Record

/-- Weights of the round-trip time, the loss and the bandwidth. -/
def PathMetrics.score (m : PathMetrics) : QualityScore :=
  let rttScore : ℚ :=
    if m.rttSamples = 0 then 1 / 2
    else max 0 (min 1 (1 - (m.rttAvg.asMillis : ℚ) / 500))
  let lossScore := 1 - m.lossRate
  let bwScore := min ((m.bandwidthBps.toNat : ℚ) / 10 ^ 9) 1
  ⟨rttScore * (1 / 2) + lossScore * (3 / 10) + bwScore * (1 / 5), rttScore, lossScore, bwScore⟩

/-- An acknowledgement names its packet by the number of packets sent before it. -/
inductive MetricsEvent where
  | rtt (sample : Duration)
  | send
  | ack (packet : Nat)
  | bytes (bytes : UInt64) (now reset : Nat)
  | update (rtt : Duration) (lossRate : LossRate) (bandwidth : UInt64)

section Events
variable (overflowChecks : Bool)

/-- `none` is the panic of a counter. -/
def PathMetrics.record (m : PathMetrics) : MetricsEvent → Option PathMetrics
  | .rtt sample => m.recordRtt overflowChecks sample
  | .send => m.recordSend overflowChecks
  | .ack _ => m.recordAck overflowChecks
  | .bytes bytes now reset => m.recordBytes overflowChecks bytes now reset
  | .update rtt lossRate bandwidth => m.update overflowChecks rtt lossRate bandwidth

def PathMetrics.recordAll (m : PathMetrics) (events : List MetricsEvent) : Option PathMetrics :=
  events.foldlM (PathMetrics.record overflowChecks) m

end Events

/-- The packets sent so far, and those of them that are acknowledged. -/
structure Delivered where
  sent : Nat
  acked : List Nat

def Delivered.next (d : Delivered) : MetricsEvent → Delivered
  | .send => { d with sent := d.sent + 1 }
  | .ack packet => if packet < d.sent ∧ packet ∉ d.acked then ⟨d.sent, packet :: d.acked⟩ else d
  | _ => d

def delivered (events : List MetricsEvent) : Delivered := events.foldl Delivered.next ⟨0, []⟩

/-- The fraction of the packets sent so far that are not acknowledged. -/
def unacknowledged (events : List MetricsEvent) : ℚ :=
  let d := delivered events
  if d.sent = 0 then 0 else (d.sent - d.acked.length : ℚ) / d.sent

def MetricsEvent.isUpdate : MetricsEvent → Bool
  | .update _ _ _ => true
  | _ => false

def MetricsEvent.isSample : MetricsEvent → Bool
  | .rtt _ => true
  | .update _ _ _ => true
  | _ => false

structure PathMetrics.WellDefined (events : List MetricsEvent) (m : PathMetrics) : Prop where
  loss : 0 ≤ m.lossRate ∧ m.lossRate ≤ 1
  fraction : (∀ e ∈ events, e.isUpdate = false) → m.lossRate = unacknowledged events
  total : 0 ≤ m.score.total ∧ m.score.total ≤ 1
  rtt : (∃ e ∈ events, e.isSample = true) →
    m.rttMin.nanos ≤ m.rttAvg.nanos ∧ m.rttAvg.nanos ≤ m.rttMax.nanos

section Spec
variable {overflowChecks : Bool} {m : PathMetrics}

/-- The metrics with one more sample, with a count that wraps. -/
def PathMetrics.sampled (m : PathMetrics) (rtt : Duration) : PathMetrics :=
  if m.rttSamples + 1 = 1 then
    { m with rttSamples := m.rttSamples + 1, rttAvg := rtt, rttMin := rtt, rttMax := rtt }
  else { m with
    rttSamples := m.rttSamples + 1
    rttAvg := .fromMicros (UInt64.ofNat
      ⌊m.alpha * (rtt.asMicros : ℚ) + (1 - m.alpha) * (m.rttAvg.asMicros : ℚ)⌋₊)
    rttMin := if rtt.nanos < m.rttMin.nanos then rtt else m.rttMin
    rttMax := if m.rttMax.nanos ≤ rtt.nanos then rtt else m.rttMax }

theorem PathMetrics.recordRtt_eq (m : PathMetrics) (rtt : Duration) :
    m.recordRtt overflowChecks rtt =
      if overflowChecks = true ∧ m.rttSamples = 18446744073709551615 then none
      else some (m.sampled rtt) := by
  rw [PathMetrics.recordRtt, addU64_one, Option.bind_eq_bind, unless_bind, PathMetrics.sampled]
  split
  · rfl
  · split
    · rfl
    · rfl

theorem PathMetrics.recordSend_eq (m : PathMetrics) : m.recordSend overflowChecks =
    if overflowChecks = true ∧ m.packetsSent = 18446744073709551615 then none
    else some { m with packetsSent := m.packetsSent + 1 } := by
  rw [PathMetrics.recordSend, addU64_one, Option.bind_eq_bind, unless_bind]
  rfl

theorem PathMetrics.recordAck_eq (m : PathMetrics) : m.recordAck overflowChecks =
    if overflowChecks = true ∧ m.packetsAcked = 18446744073709551615 then none
    else some { m with packetsAcked := m.packetsAcked + 1 }.updateLossRate := by
  rw [PathMetrics.recordAck, addU64_one, Option.bind_eq_bind, unless_bind]
  rfl

/-- The bandwidth and its window after some bytes. -/
def PathMetrics.counted (m : PathMetrics) (bytes : UInt64) (now reset : Nat) : PathMetrics :=
  if 10 ^ 9 ≤ now - m.lastBwSample then
    { m with
      bandwidthBps := m.smoothBandwidth (asU64 (((m.bytesInWindow + bytes).toNat : ℚ) /
        (((now - m.lastBwSample : Nat) : ℚ) / 10 ^ 9)))
      bytesInWindow := 0
      lastBwSample := reset }
  else { m with bytesInWindow := m.bytesInWindow + bytes }

theorem PathMetrics.recordBytes_eq (m : PathMetrics) (bytes : UInt64) (now reset : Nat) :
    m.recordBytes overflowChecks bytes now reset =
      if overflowChecks = true ∧ 2 ^ 64 ≤ m.bytesInWindow.toNat + bytes.toNat then none
      else some (m.counted bytes now reset) := by
  rw [PathMetrics.recordBytes, addU64_eq, Option.bind_eq_bind, unless_bind, PathMetrics.counted,
    UInt64.ofNat_add, UInt64.ofNat_toNat, UInt64.ofNat_toNat]
  dsimp only
  split
  · rfl
  · split
    · rfl
    · rfl

def PathMetrics.updated (m : PathMetrics) (rtt : Duration) (lossRate : LossRate)
    (bandwidth : UInt64) : PathMetrics :=
  let m := { m.sampled rtt with lossRate := lossRate.rate }
  if 0 < bandwidth then { m with bandwidthBps := m.smoothBandwidth bandwidth } else m

theorem PathMetrics.update_eq (m : PathMetrics) (rtt : Duration) (lossRate : LossRate)
    (bandwidth : UInt64) : m.update overflowChecks rtt lossRate bandwidth =
      if overflowChecks = true ∧ m.rttSamples = 18446744073709551615 then none
      else some (m.updated rtt lossRate bandwidth) := by
  rw [PathMetrics.update, PathMetrics.recordRtt_eq, Option.bind_eq_bind, unless_bind,
    PathMetrics.updated]
  split
  · rfl
  · split
    · rfl
    · rfl

/-- The smallest sample so far, in microseconds rounded up, is not above an eighth of the new
sample with seven of the average, in whole microseconds of 64 bits. -/
def PathMetrics.KeepsMin (m : PathMetrics) (rtt : Duration) : Prop :=
  8 * ((min m.rttMin.nanos rtt.nanos + 999) / 1000) ≤
    (rtt.asMicros + 7 * m.rttAvg.asMicros) % 2 ^ 67

theorem floor_eighth (r a : Nat) :
    ⌊(1 / 8 : ℚ) * (r : ℚ) + (1 - 1 / 8) * (a : ℚ)⌋₊ = (r + 7 * a) / 8 := by
  have he : (1 / 8 : ℚ) * (r : ℚ) + (1 - 1 / 8) * (a : ℚ) =
      ((r + 7 * a : Nat) : ℚ) / (8 : Nat) := by
    push_cast
    ring
  rw [he, Nat.floor_div_eq_div]

theorem fromMicros_nanos (n : Nat) :
    (Duration.fromMicros (UInt64.ofNat n)).nanos = n % 2 ^ 64 * 1000 := by
  rw [← UInt64.toNat_ofNat' (n := n)]
  rfl

theorem PathMetrics.sampled_rtt_iff (halpha : m.alpha = 1 / 8) (rtt : Duration)
    (hmax : m.rttSamples ≠ 0 → m.rttAvg.nanos ≤ m.rttMax.nanos) :
    ((m.sampled rtt).rttMin.nanos ≤ (m.sampled rtt).rttAvg.nanos ∧
      (m.sampled rtt).rttAvg.nanos ≤ (m.sampled rtt).rttMax.nanos) ↔
        (m.rttSamples ≠ 0 → m.KeepsMin rtt) := by
  have hfirst : m.rttSamples + 1 = 1 ↔ m.rttSamples = 0 := by
    rw [← UInt64.add_left_inj (a := m.rttSamples) (b := 0) 1, UInt64.zero_add]
  rw [PathMetrics.sampled]
  simp only [hfirst]
  split
  · next hzero =>
    refine iff_of_true ⟨Nat.le_refl _, Nat.le_refl _⟩ ?_
    exact fun hne => (hne hzero).elim
  · next hsome =>
    have hbelow := hmax hsome
    have hmin : (if rtt.nanos < m.rttMin.nanos then rtt else m.rttMin).nanos =
        min m.rttMin.nanos rtt.nanos := by
      split
      · omega
      · omega
    have hmax' : (if m.rttMax.nanos ≤ rtt.nanos then rtt else m.rttMax).nanos =
        max m.rttMax.nanos rtt.nanos := by
      split
      · omega
      · omega
    rw [halpha, floor_eighth, hmin, hmax', fromMicros_nanos, PathMetrics.KeepsMin,
      Duration.asMicros, Duration.asMicros]
    have hmod : (rtt.nanos / 1000 + 7 * (m.rttAvg.nanos / 1000)) / 8 % 2 ^ 64 =
        (rtt.nanos / 1000 + 7 * (m.rttAvg.nanos / 1000)) % 2 ^ 67 / 8 :=
      (Nat.mod_mul_right_div_self _ 8 (2 ^ 64)).symm
    have hle := Nat.mod_le (rtt.nanos / 1000 + 7 * (m.rttAvg.nanos / 1000)) (2 ^ 67)
    rw [hmod]
    constructor
    · rintro ⟨hle, -⟩ -
      omega
    · intro hkeeps
      have hkeeps := hkeeps hsome
      constructor
      · omega
      · omega

theorem PathMetrics.total_bounds (h : 0 ≤ m.lossRate ∧ m.lossRate ≤ 1) :
    0 ≤ m.score.total ∧ m.score.total ≤ 1 := by
  have hrtt : 0 ≤ m.score.rtt ∧ m.score.rtt ≤ 1 := by
    change 0 ≤ (if m.rttSamples = 0 then (1 / 2 : ℚ) else _) ∧
      (if m.rttSamples = 0 then (1 / 2 : ℚ) else _) ≤ 1
    split
    · norm_num
    · exact ⟨le_max_left _ _, max_le zero_le_one (min_le_left _ _)⟩
  have hbandwidth : 0 ≤ m.score.bandwidth ∧ m.score.bandwidth ≤ 1 :=
    ⟨le_min (by positivity) zero_le_one, min_le_right _ _⟩
  have htotal : m.score.total =
      m.score.rtt * (1 / 2) + (1 - m.lossRate) * (3 / 10) + m.score.bandwidth * (1 / 5) := rfl
  rw [htotal]
  constructor
  · linarith [hrtt.1, h.2, hbandwidth.1]
  · linarith [hrtt.2, h.1, hbandwidth.2]

theorem PathMetrics.sampled_fields (m : PathMetrics) (rtt : Duration) :
    (m.sampled rtt).rttSamples = m.rttSamples + 1 ∧ (m.sampled rtt).lossRate = m.lossRate ∧
      (m.sampled rtt).packetsSent = m.packetsSent ∧
        (m.sampled rtt).packetsAcked = m.packetsAcked ∧ (m.sampled rtt).alpha = m.alpha := by
  rw [PathMetrics.sampled]
  split
  · exact ⟨rfl, rfl, rfl, rfl, rfl⟩
  · exact ⟨rfl, rfl, rfl, rfl, rfl⟩

theorem PathMetrics.updateLossRate_iff (m : PathMetrics) :
    (0 ≤ m.updateLossRate.lossRate ∧ m.updateLossRate.lossRate ≤ 1) ↔
      (m.packetsSent ≠ 0 → m.packetsAcked.toNat ≤ m.packetsSent.toNat) := by
  rw [PathMetrics.updateLossRate]
  dsimp only
  split
  · next hzero => exact iff_of_true ⟨le_rfl, zero_le_one⟩ (fun hne => (hne hzero).elim)
  · next hsent =>
    have hpos : 0 < (m.packetsSent.toNat : ℚ) := by
      rw [Nat.cast_pos, Nat.pos_iff_ne_zero]
      exact fun he => hsent (UInt64.toNat_inj.mp he)
    have hnonneg : 0 ≤ (m.packetsAcked.toNat : ℚ) / m.packetsSent.toNat := by positivity
    have hle : (m.packetsAcked.toNat : ℚ) / m.packetsSent.toNat ≤ 1 ↔
        m.packetsAcked.toNat ≤ m.packetsSent.toNat := by
      rw [div_le_one hpos, Nat.cast_le]
    constructor
    · rintro ⟨hloss, -⟩ -
      rw [← hle]
      linarith
    · intro h
      have hquotient := hle.mpr (h hsent)
      constructor
      · linarith
      · linarith

end Spec

section Run
variable {overflowChecks : Bool} {m : PathMetrics} {events : List MetricsEvent}

/-- What the metrics keep of the events in any run. -/
structure PathMetrics.Tracks (events : List MetricsEvent) (m : PathMetrics) : Prop where
  alpha : m.alpha = 1 / 8
  sampled : m.rttSamples ≠ 0 → ∃ e ∈ events, e.isSample = true
  unsent : (∀ e ∈ events, e ≠ .send) → m.packetsSent = 0

/-- A sample keeps the average above the smallest one, and the count has room for it in a build
with overflow checks. -/
def PathMetrics.Takes (overflowChecks : Bool) (m : PathMetrics) (rtt : Duration) : Prop :=
  (overflowChecks = true → m.rttSamples ≠ 18446744073709551615) ∧
    (m.rttSamples ≠ 0 → m.KeepsMin rtt)

/-- Nothing is sent before the first update, more is sent than acknowledged whenever something is
acknowledged, each sample is taken well, and in a build with overflow checks the counters have
room. -/
def PathMetrics.Sound (overflowChecks : Bool) (events : List MetricsEvent) (m : PathMetrics) :
    MetricsEvent → Prop
  | .rtt sample => m.Takes overflowChecks sample
  | .send => (∃ e ∈ events, e.isUpdate = true) ∧
    (overflowChecks = true → m.packetsSent ≠ 18446744073709551615)
  | .ack _ => (overflowChecks = true → m.packetsAcked ≠ 18446744073709551615) ∧
    (m.packetsSent ≠ 0 → m.packetsAcked < m.packetsSent ∨ m.packetsAcked = 18446744073709551615)
  | .bytes bytes _ _ => overflowChecks = true → m.bytesInWindow.toNat + bytes.toNat < 2 ^ 64
  | .update rtt _ _ => m.Takes overflowChecks rtt

theorem exists_mem_concat {q : MetricsEvent → Bool} {event : MetricsEvent}
    (h : q event = false) :
    (∃ e ∈ events ++ [event], q e = true) ↔ ∃ e ∈ events, q e = true := by
  constructor
  · rintro ⟨e, he, hq⟩
    rcases List.mem_append.mp he with he | he
    · exact ⟨e, he, hq⟩
    · rw [List.mem_singleton.mp he, h] at hq
      cases hq
  · rintro ⟨e, he, hq⟩
    exact ⟨e, List.mem_append_left _ he, hq⟩

theorem delivered_concat (events : List MetricsEvent) (event : MetricsEvent) :
    delivered (events ++ [event]) = (delivered events).next event := by
  rw [delivered, List.foldl_append]
  rfl

theorem delivered_unsent (h : ∀ e ∈ events, e ≠ .send) : delivered events = ⟨0, []⟩ := by
  induction events using List.reverseRecOn with
  | nil => rfl
  | append_singleton events event ih =>
    rw [delivered_concat, ih (fun e he => h e (List.mem_append_left _ he))]
    cases event with
    | send => exact (h _ (List.mem_append_right _ (List.mem_singleton_self _)) rfl).elim
    | ack packet => rw [Delivered.next, if_neg (fun hp => Nat.not_lt_zero _ hp.1)]
    | rtt _ | bytes _ _ _ | update _ _ _ => rfl

theorem unacknowledged_unsent (h : ∀ e ∈ events, e ≠ .send) : unacknowledged events = 0 := by
  rw [unacknowledged, delivered_unsent h]
  exact if_pos rfl

theorem unacknowledged_first (h : ∀ e ∈ events, e ≠ .send) :
    unacknowledged (events ++ [.send]) = 1 := by
  rw [unacknowledged, delivered_concat, delivered_unsent h]
  norm_num [Delivered.next]

theorem PathMetrics.record_send_eq_some (h : m.record overflowChecks .send = some m') :
    m' = { m with packetsSent := m.packetsSent + 1 } := by
  rw [PathMetrics.record, PathMetrics.recordSend_eq] at h
  split at h
  · cases h
  · exact (Option.some.inj h).symm

/-- Where everything was well defined so far, nothing has been sent before the first update: the
loss rate stays at zero while the packet is not acknowledged. -/
theorem unsent_of_wellDefined {start : PathMetrics}
    (hall : ∀ l, l <+: events → ∃ m, start.recordAll overflowChecks l = some m ∧ m.WellDefined l)
    (hupdate : ∀ e ∈ events, e.isUpdate = false) : ∀ e ∈ events, e ≠ .send := by
  rintro e he rfl
  obtain ⟨before, after, rfl, hfirst⟩ := List.eq_append_cons_of_mem he
  have hbefore : ∀ e ∈ before, e ≠ .send := fun e he hs => hfirst (hs ▸ he)
  obtain ⟨m, hm, hwell⟩ := hall before (List.prefix_append _ _)
  obtain ⟨m', hm', hwell'⟩ := hall (before ++ [.send])
    ⟨after, List.append_assoc before [.send] after⟩
  obtain ⟨m'', hm'', hsend⟩ := foldlM_concat_eq_some.mp hm'
  cases hm.symm.trans hm''
  have hzero := hwell.fraction (fun e he => hupdate e (List.mem_append_left _ he))
  have hone := hwell'.fraction (fun e he => by
    rcases List.mem_append.mp he with he | he
    · exact hupdate e (List.mem_append_left _ he)
    · rw [List.mem_singleton.mp he]
      rfl)
  rw [PathMetrics.record_send_eq_some hsend, unacknowledged_first hbefore] at hone
  rw [unacknowledged_unsent hbefore] at hzero
  rw [hzero] at hone
  exact zero_ne_one hone

theorem succ_le_iff_lt_or (acked sent : UInt64) :
    (acked + 1).toNat ≤ sent.toNat ↔ acked < sent ∨ acked = 18446744073709551615 := by
  rw [succ64_toNat, UInt64.lt_iff_toNat_lt]
  split
  · next hfull => exact iff_of_true (Nat.zero_le _) (.inr hfull)
  · next hroom => exact ⟨.inl, fun h => h.resolve_right hroom⟩

theorem PathMetrics.WellDefined.counted (hw : m.WellDefined events) (bytes : UInt64)
    (now reset : Nat) :
    (m.counted bytes now reset).WellDefined (events ++ [.bytes bytes now reset]) := by
  have hfields : (m.counted bytes now reset).lossRate = m.lossRate ∧
      (m.counted bytes now reset).rttMin = m.rttMin ∧
        (m.counted bytes now reset).rttAvg = m.rttAvg ∧
          (m.counted bytes now reset).rttMax = m.rttMax := by
    rw [PathMetrics.counted]
    split
    · exact ⟨rfl, rfl, rfl, rfl⟩
    · exact ⟨rfl, rfl, rfl, rfl⟩
  obtain ⟨hloss, hmin, havg, hmax⟩ := hfields
  have hbounds : 0 ≤ (m.counted bytes now reset).lossRate ∧
      (m.counted bytes now reset).lossRate ≤ 1 := by
    rw [hloss]
    exact hw.loss
  refine ⟨hbounds, ?_, PathMetrics.total_bounds hbounds, ?_⟩
  · intro hupdate
    rw [hloss, hw.fraction (fun e he => hupdate e (List.mem_append_left _ he)), unacknowledged,
      unacknowledged, delivered_concat]
    rfl
  · intro hsample
    rw [hmin, havg, hmax]
    exact hw.rtt ((exists_mem_concat rfl).mp hsample)

theorem PathMetrics.WellDefined.send_iff (hw : m.WellDefined events)
    (hquiet : (∀ e ∈ events, e.isUpdate = false) → ∀ e ∈ events, e ≠ .send) :
    PathMetrics.WellDefined (events ++ [.send]) { m with packetsSent := m.packetsSent + 1 } ↔
      ∃ e ∈ events, e.isUpdate = true := by
  constructor
  · intro h
    by_contra hnone
    have hupdate : ∀ e ∈ events, e.isUpdate = false := by
      intro e he
      rw [← Bool.not_eq_true]
      exact fun htrue => hnone ⟨e, he, htrue⟩
    have hunsent := hquiet hupdate
    have hone := h.fraction (fun e he => by
      rcases List.mem_append.mp he with he | he
      · exact hupdate e he
      · rw [List.mem_singleton.mp he]
        rfl)
    have hzero := hw.fraction hupdate
    rw [unacknowledged_first hunsent] at hone
    rw [unacknowledged_unsent hunsent] at hzero
    exact zero_ne_one (hzero.symm.trans hone)
  · rintro ⟨e, he, hupdated⟩
    refine ⟨hw.loss, ?_, PathMetrics.total_bounds hw.loss, ?_⟩
    · intro hupdate
      rw [hupdate e (List.mem_append_left _ he)] at hupdated
      cases hupdated
    · intro hsample
      exact hw.rtt ((exists_mem_concat rfl).mp hsample)

section Step
variable (ht : m.Tracks events) (hw : m.WellDefined events)
include ht hw

theorem PathMetrics.WellDefined.sampled_iff (rtt : Duration) :
    (m.sampled rtt).WellDefined (events ++ [.rtt rtt]) ↔
      (m.rttSamples ≠ 0 → m.KeepsMin rtt) := by
  obtain ⟨-, hloss, -, -, -⟩ := m.sampled_fields rtt
  rw [← PathMetrics.sampled_rtt_iff ht.alpha rtt (fun hne => (hw.rtt (ht.sampled hne)).2)]
  constructor
  · intro h
    exact h.rtt ⟨_, List.mem_append_right _ (List.mem_singleton_self _), rfl⟩
  · intro h
    have hbounds : 0 ≤ (m.sampled rtt).lossRate ∧ (m.sampled rtt).lossRate ≤ 1 := by
      rw [hloss]
      exact hw.loss
    refine ⟨hbounds, ?_, PathMetrics.total_bounds hbounds, fun _ => h⟩
    intro hupdate
    rw [hloss, hw.fraction (fun e he => hupdate e (List.mem_append_left _ he)), unacknowledged,
      unacknowledged, delivered_concat]
    rfl

theorem PathMetrics.WellDefined.updated_iff (rtt : Duration) (lossRate : LossRate)
    (bandwidth : UInt64) :
    (m.updated rtt lossRate bandwidth).WellDefined (events ++ [.update rtt lossRate bandwidth]) ↔
      (m.rttSamples ≠ 0 → m.KeepsMin rtt) := by
  have hfields : (m.updated rtt lossRate bandwidth).lossRate = lossRate.rate ∧
      (m.updated rtt lossRate bandwidth).rttMin = (m.sampled rtt).rttMin ∧
        (m.updated rtt lossRate bandwidth).rttAvg = (m.sampled rtt).rttAvg ∧
          (m.updated rtt lossRate bandwidth).rttMax = (m.sampled rtt).rttMax := by
    rw [PathMetrics.updated]
    dsimp only
    split
    · exact ⟨rfl, rfl, rfl, rfl⟩
    · exact ⟨rfl, rfl, rfl, rfl⟩
  obtain ⟨hloss, hmin, havg, hmax⟩ := hfields
  rw [← PathMetrics.sampled_rtt_iff ht.alpha rtt (fun hne => (hw.rtt (ht.sampled hne)).2),
    ← hmin, ← havg, ← hmax]
  constructor
  · intro h
    exact h.rtt ⟨_, List.mem_append_right _ (List.mem_singleton_self _), rfl⟩
  · intro h
    have hbounds : 0 ≤ (m.updated rtt lossRate bandwidth).lossRate ∧
        (m.updated rtt lossRate bandwidth).lossRate ≤ 1 := by
      rw [hloss]
      exact ⟨lossRate.nonneg, lossRate.le_one⟩
    refine ⟨hbounds, ?_, PathMetrics.total_bounds hbounds, fun _ => h⟩
    intro hupdate
    cases hupdate _ (List.mem_append_right _ (List.mem_singleton_self _))

theorem PathMetrics.WellDefined.ack_iff (packet : Nat)
    (hquiet : (∀ e ∈ events, e.isUpdate = false) → ∀ e ∈ events, e ≠ .send) :
    PathMetrics.WellDefined (events ++ [.ack packet])
      { m with packetsAcked := m.packetsAcked + 1 }.updateLossRate ↔
        (m.packetsSent ≠ 0 → (m.packetsAcked + 1).toNat ≤ m.packetsSent.toNat) := by
  rw [← PathMetrics.updateLossRate_iff { m with packetsAcked := m.packetsAcked + 1 }]
  constructor
  · exact fun h => h.loss
  · intro h
    refine ⟨h, ?_, PathMetrics.total_bounds h, ?_⟩
    · intro hupdate
      have hunsent := hquiet (fun e he => hupdate e (List.mem_append_left _ he))
      rw [unacknowledged_unsent, PathMetrics.updateLossRate, if_pos (ht.unsent hunsent)]
      intro e he
      rcases List.mem_append.mp he with he | he
      · exact hunsent e he
      · rw [List.mem_singleton.mp he]
        rintro ⟨⟩
    · intro hsample
      exact hw.rtt ((exists_mem_concat rfl).mp hsample)

theorem PathMetrics.WellDefined.record_iff (event : MetricsEvent)
    (hquiet : (∀ e ∈ events, e.isUpdate = false) → ∀ e ∈ events, e ≠ .send) :
    (∃ u, m.record overflowChecks event = some u ∧ u.WellDefined (events ++ [event])) ↔
      m.Sound overflowChecks events event := by
  cases event with
  | rtt sample =>
    rw [PathMetrics.record, PathMetrics.recordRtt_eq, exists_unless_iff, hw.sampled_iff ht,
      not_and]
    rfl
  | send =>
    rw [PathMetrics.record, PathMetrics.recordSend_eq, exists_unless_iff, hw.send_iff hquiet,
      not_and, and_comm]
    rfl
  | ack packet =>
    rw [PathMetrics.record, PathMetrics.recordAck_eq, exists_unless_iff,
      hw.ack_iff ht packet hquiet, not_and]
    apply and_congr_right'
    apply forall_congr'
    exact fun _ => succ_le_iff_lt_or _ _
  | bytes bytes now reset =>
    rw [PathMetrics.record, PathMetrics.recordBytes_eq, exists_unless_iff,
      and_iff_left (hw.counted bytes now reset), not_and]
    simp only [Nat.not_le]
    rfl
  | update rtt lossRate bandwidth =>
    rw [PathMetrics.record, PathMetrics.update_eq, exists_unless_iff,
      hw.updated_iff ht rtt lossRate bandwidth, not_and]
    rfl

end Step

theorem PathMetrics.Tracks.concat (ht : m.Tracks events) {m' : PathMetrics}
    (halpha : m'.alpha = m.alpha)
    (hsampled : m'.rttSamples = m.rttSamples ∨ event.isSample = true)
    (hsent : m'.packetsSent = m.packetsSent ∨ event = .send) : m'.Tracks (events ++ [event]) where
  alpha := halpha.trans ht.alpha
  sampled hne := by
    rcases hsampled with he | hsample
    · obtain ⟨e, he, hsample⟩ := ht.sampled (he ▸ hne)
      exact ⟨e, List.mem_append_left _ he, hsample⟩
    · exact ⟨event, List.mem_append_right _ (List.mem_singleton_self _), hsample⟩
  unsent hunsent := by
    rcases hsent with he | rfl
    · rw [he]
      exact ht.unsent (fun e he => hunsent e (List.mem_append_left _ he))
    · exact (hunsent _ (List.mem_append_right _ (List.mem_singleton_self _)) rfl).elim

theorem PathMetrics.Tracks.record (ht : m.Tracks events) (event : MetricsEvent)
    (h : m.record overflowChecks event = some m') : m'.Tracks (events ++ [event]) := by
  cases event with
  | rtt sample =>
    rw [PathMetrics.record, PathMetrics.recordRtt_eq] at h
    split at h
    · cases h
    · cases h
      obtain ⟨-, -, hsent, -, halpha⟩ := m.sampled_fields sample
      exact ht.concat halpha (.inr rfl) (.inl hsent)
  | send =>
    rw [PathMetrics.record_send_eq_some h]
    exact ht.concat rfl (.inl rfl) (.inr rfl)
  | ack packet =>
    rw [PathMetrics.record, PathMetrics.recordAck_eq] at h
    split at h
    · cases h
    · cases h
      exact ht.concat rfl (.inl rfl) (.inl rfl)
  | bytes bytes now reset =>
    rw [PathMetrics.record, PathMetrics.recordBytes_eq] at h
    split at h
    · cases h
    · cases h
      rw [PathMetrics.counted]
      split
      · exact ht.concat rfl (.inl rfl) (.inl rfl)
      · exact ht.concat rfl (.inl rfl) (.inl rfl)
  | update rtt lossRate bandwidth =>
    rw [PathMetrics.record, PathMetrics.update_eq] at h
    split at h
    · cases h
    · cases h
      obtain ⟨-, -, hsent, -, halpha⟩ := m.sampled_fields rtt
      rw [PathMetrics.updated]
      dsimp only
      split
      · exact ht.concat halpha (.inr rfl) (.inl hsent)
      · exact ht.concat halpha (.inr rfl) (.inl hsent)

theorem PathMetrics.tracks_default (now : Nat) : (PathMetrics.default now).Tracks [] where
  alpha := rfl
  sampled hne := (hne rfl).elim
  unsent _ := rfl

theorem PathMetrics.wellDefined_default (now : Nat) :
    (PathMetrics.default now).WellDefined [] where
  loss := ⟨le_rfl, zero_le_one⟩
  fraction _ := rfl
  total := PathMetrics.total_bounds ⟨le_rfl, zero_le_one⟩
  rtt h := by
    obtain ⟨e, he, -⟩ := h
    exact (List.not_mem_nil he).elim

/-- Every event of a run is recorded, and the metrics are well defined after it, exactly if each
event meets the condition. -/
theorem PathMetrics.wellDefined_iff (overflowChecks : Bool) (now : Nat)
    (events : List MetricsEvent) :
    (∀ l, l <+: events → ∃ m, (PathMetrics.default now).recordAll overflowChecks l = some m ∧
      m.WellDefined l) ↔
    ∀ l event, l ++ [event] <+: events → ∀ m,
      (PathMetrics.default now).recordAll overflowChecks l = some m →
        m.Sound overflowChecks l event := by
  apply forall_history_iff_of (wellDefined_default now)
  intro l m event hall hm
  obtain ⟨m', hm', hw⟩ := hall l List.prefix_rfl
  cases hm.symm.trans hm'
  have ht : m.Tracks l :=
    history_invariant (V := PathMetrics.Tracks) (tracks_default now)
      (fun _ _ event _ ht h => ht.record event h) hm
  exact hw.record_iff ht event (unsent_of_wellDefined hall)

/-- A packet that is sent is not acknowledged yet, but the loss rate stays zero; a second
acknowledgement of the only packet makes it -1; two samples of 1500 nanoseconds have the average
1000. -/
theorem metrics_ill_defined :
    ¬ (∃ m, (PathMetrics.default 0).recordAll true [.send] = some m ∧ m.WellDefined [.send]) ∧
    ¬ (∃ m, (PathMetrics.default 0).recordAll true [.send, .ack 0, .ack 0] = some m ∧
      m.WellDefined [.send, .ack 0, .ack 0]) ∧
    ¬ ∃ m, (PathMetrics.default 0).recordAll true
      [.rtt ⟨1500, by decide⟩, .rtt ⟨1500, by decide⟩] = some m ∧
        m.WellDefined [.rtt ⟨1500, by decide⟩, .rtt ⟨1500, by decide⟩] := by
  refine ⟨?_, ?_, ?_⟩
  · rintro ⟨m, hm, hw⟩
    have hloss : ((PathMetrics.default 0).recordAll true [.send]).map (fun m => m.lossRate) =
        some 0 := by
      decide +kernel
    rw [hm, Option.map_some, Option.some_inj, hw.fraction (by decide)] at hloss
    revert hloss
    decide +kernel
  · rintro ⟨m, hm, hw⟩
    have hloss : ((PathMetrics.default 0).recordAll true [.send, .ack 0, .ack 0]).map
        (fun m => m.lossRate) = some (-1) := by
      decide +kernel
    rw [hm, Option.map_some, Option.some_inj] at hloss
    have hbound := hw.loss.1
    rw [hloss] at hbound
    revert hbound
    decide +kernel
  · rintro ⟨m, hm, hw⟩
    have hrtt : ((PathMetrics.default 0).recordAll true
        [.rtt ⟨1500, by decide⟩, .rtt ⟨1500, by decide⟩]).map
          (fun m => (m.rttMin.nanos, m.rttAvg.nanos)) = some (1500, 1000) := by
      decide +kernel
    rw [hm, Option.map_some, Option.some_inj, Prod.mk.injEq] at hrtt
    have hbound := (hw.rtt ⟨_, List.mem_cons_self, rfl⟩).1
    rw [hrtt.1, hrtt.2] at hbound
    revert hbound
    decide

end Run

end P2PMesh.Metrics
