import P2PMesh.Base.Run
import P2PMesh.Relay

namespace P2PMesh.Relay
open P2PMesh.Base
set_option autoImplicit true

/-- The clock readings of a step, in the order in which the limiters take them. -/
def RelayOp.readings : RelayOp → List Nat
  | .datagram d => [d.deviceNow, d.ipNow]
  | _ => []

/-- The clock never goes back over a run. -/
def ClockMonotone (ops : List RelayOp) : Prop :=
  (ops.flatMap RelayOp.readings).Pairwise (· ≤ ·)

/-- In each second at most 100 datagrams of one device id and at most 500 of one IP address. -/
def WithinRates (admitted : List Received) : Prop :=
  (∀ deviceId second, (admitted.filter (fun d =>
    idText d.srcIdBytes = deviceId ∧ d.deviceNow = second)).length ≤ 100) ∧
  ∀ ip second, (admitted.filter (fun d => d.srcAddr.ip = ip ∧ d.ipNow = second)).length ≤ 500

section Limits
variable (S : CryptoSuite) (overflowChecks : Bool) (showIp : IpAddr → String)

/-- The step does not count a datagram on a window that is full up to the largest counter. -/
def RelayLoop.Unspent (r : RelayLoop) : RelayOp → Prop
  | .datagram d => r.running = true → r.table.authentic S d = true →
      ¬ r.table.rateLimits.Spent overflowChecks (idText d.srcIdBytes) d.deviceNow ∧
        ((∃ rates, r.table.rateLimits.hit overflowChecks (idText d.srcIdBytes) maxPacketsPerSec
            d.deviceNow = some (true, rates)) →
          ¬ r.table.ipRateLimits.Spent overflowChecks (showIp d.srcAddr.ip) d.ipNow)
  | _ => True

/-- Both limiters account for what was admitted; the device limiter has also let through what
the other one stopped. -/
structure RelayLoop.Limited (r : RelayLoop) (time : Nat) : Prop where
  device : ∃ passed, r.table.rateLimits.Accounts maxPacketsPerSec passed time ∧
    (r.admitted.map (fun d => (idText d.srcIdBytes, d.deviceNow))).Sublist passed
  ip : r.table.ipRateLimits.Accounts maxIpPacketsPerSec
    (r.admitted.map (fun d => (showIp d.srcAddr.ip, d.ipNow))) time

variable {S overflowChecks showIp}

theorem RelayLoop.unspent_checked (r : RelayLoop) (op : RelayOp) :
    r.Unspent S true showIp op := by
  cases op with
  | datagram d =>
    intro _ _
    exact ⟨fun hs => Bool.false_ne_true hs.1.symm, fun _ hs => Bool.false_ne_true hs.1.symm⟩
  | _ => trivial

theorem RelayLoop.Limited.start (t : ForwardingTable) :
    (RelayLoop.start t).Limited showIp 0 where
  device := ⟨[], .nil _ _ _, List.nil_sublist []⟩
  ip := .nil _ _ _

theorem RelayLoop.Limited.later {r : RelayLoop} (h : r.Limited showIp time) (ht : time ≤ time') :
    r.Limited showIp time' := by
  obtain ⟨⟨passed, hp, hs⟩, hip⟩ := h
  exact ⟨⟨passed, hp.later ht, hs⟩, hip.later ht⟩

theorem filter_length_le_count [BEq β] [LawfulBEq β] {p : α → Prop} [DecidablePred p] {f : α → β}
    (h : ∀ a, p a → f a = b) (l : List α) :
    (l.filter (fun a => p a)).length ≤ (l.map f).count b := by
  rw [List.count, List.countP_map, ← List.countP_eq_length_filter]
  apply List.countP_mono_left
  intro a _ ha
  rw [Function.comp, beq_iff_eq]
  exact h a (of_decide_eq_true ha)

theorem RelayLoop.Limited.withinRates {r : RelayLoop} (h : r.Limited showIp time) :
    WithinRates r.admitted := by
  obtain ⟨⟨passed, hp, hs⟩, hip⟩ := h
  constructor
  · intro deviceId second
    refine Nat.le_trans (filter_length_le_count ?_ r.admitted)
      (Nat.le_trans (hs.count_le (deviceId, second)) (hp.bounded (deviceId, second)))
    rintro d ⟨hd, hn⟩
    rw [hd, hn]
  · intro ip second
    refine Nat.le_trans (filter_length_le_count ?_ r.admitted) (hip.bounded (showIp ip, second))
    rintro d ⟨hd, hn⟩
    rw [hd, hn]

theorem RelayLoop.Limited.turn {r r' : RelayLoop} (h : r.Limited showIp time)
    (hturn : r.Turn S overflowChecks showIp d r') (ht : time ≤ d.deviceNow)
    (hd : d.deviceNow ≤ d.ipNow) (hu : r.Unspent S overflowChecks showIp (.datagram d)) :
    r'.Limited showIp d.ipNow := by
  have hlater := h.later (Nat.le_trans ht hd)
  obtain ⟨⟨passed, hp, hs⟩, hip⟩ := h
  have hkept := hs.trans (List.sublist_append_left passed [(idText d.srcIdBytes, d.deviceNow)])
  cases hturn with
  | refused => exact hlater
  | devicePanic => exact ⟨hlater.device, hlater.ip⟩
  | deviceOver hr ha hdevice =>
    have hrates := (hp.hit ht (hu hr ha).1 hdevice).later hd
    rw [if_neg Bool.false_ne_true, List.append_nil] at hrates
    exact ⟨⟨passed, hrates, hs⟩, hlater.ip⟩
  | ipPanic hr ha hdevice =>
    have hrates := (hp.hit ht (hu hr ha).1 hdevice).later hd
    rw [if_pos rfl] at hrates
    exact ⟨⟨_, hrates, hkept⟩, hlater.ip⟩
  | ipOver hr ha hdevice hiphit =>
    have hrates := (hp.hit ht (hu hr ha).1 hdevice).later hd
    have hips := hip.hit (Nat.le_trans ht hd) ((hu hr ha).2 ⟨_, hdevice⟩) hiphit
    rw [if_pos rfl] at hrates
    rw [if_neg Bool.false_ne_true, List.append_nil] at hips
    exact ⟨⟨_, hrates, hkept⟩, hips⟩
  | accepted hr ha hdevice hiphit =>
    have hrates := (hp.hit ht (hu hr ha).1 hdevice).later hd
    have hips := hip.hit (Nat.le_trans ht hd) ((hu hr ha).2 ⟨_, hdevice⟩) hiphit
    rw [if_pos rfl] at hrates hips
    constructor
    · refine ⟨passed ++ [(idText d.srcIdBytes, d.deviceNow)], ?_, ?_⟩
      · rw [RelayLoop.accept_rateLimits]
        exact hrates
      · rw [RelayLoop.accept_admitted, List.map_append]
        exact hs.append (List.Sublist.refl _)
    · rw [RelayLoop.accept_ipRateLimits, RelayLoop.accept_admitted, List.map_append]
      exact hips

theorem RelayLoop.Limited.run {r : RelayLoop} (h : r.Limited showIp time) {ops : List RelayOp}
    (hclock : ClockMonotone ops) (htime : ∀ n ∈ ops.flatMap RelayOp.readings, time ≤ n)
    (hu : Guarded (RelayLoop.step S overflowChecks showIp)
      (RelayLoop.Unspent S overflowChecks showIp) r ops) :
    ∃ time', (r.run S overflowChecks showIp ops).Limited showIp time' := by
  induction ops generalizing r time with
  | nil => exact ⟨time, h⟩
  | cons op ops ih =>
    rw [ClockMonotone, List.flatMap_cons, List.pairwise_append] at hclock
    obtain ⟨hop, hrest, hbetween⟩ := hclock
    rw [RelayLoop.run, List.foldl_cons]
    cases op with
    | datagram d =>
      have hd : d.deviceNow ≤ d.ipNow := List.rel_of_pairwise_cons hop List.mem_cons_self
      have ht : time ≤ d.deviceNow := htime _ (List.mem_cons_self)
      apply ih (h.turn (r.receive_turn d) ht hd hu.1) hrest ?_ hu.2
      exact fun n hn => hbetween d.ipNow (List.mem_cons_of_mem _ List.mem_cons_self) n hn
    | addRoute srcDevice dstDevice =>
      refine ih ?_ hrest (fun n hn => htime n hn) hu.2
      simp only [RelayLoop.step, ForwardingTable.addRoute]
      split <;> exact ⟨h.device, h.ip⟩
    | _ => exact ih ⟨h.device, h.ip⟩ hrest (fun n hn => htime n hn) hu.2

/-- Every run in which no counter wraps keeps both limits in every second. -/
theorem unspent_runs_within_rates (t : ForwardingTable) {ops : List RelayOp}
    (hclock : ClockMonotone ops)
    (hu : Guarded (RelayLoop.step S overflowChecks showIp)
      (RelayLoop.Unspent S overflowChecks showIp) (.start t) ops) :
    WithinRates (RelayLoop.run S overflowChecks showIp (.start t) ops).admitted := by
  obtain ⟨time, hlimited⟩ := (RelayLoop.Limited.start t).run hclock (fun n _ => Nat.zero_le n) hu
  exact hlimited.withinRates

section Wrap
variable {r : RelayLoop} {d : Received}

theorem RelayLoop.receive_over (hr : r.running = true) (ha : r.table.authentic S d = true)
    (hc : ¬ r.table.rateLimits.seen (idText d.srcIdBytes) d.deviceNow + 1 ≤ maxPacketsPerSec) :
    r.receive S false showIp d =
      { r with table := { r.table with
        rateLimits := r.table.rateLimits.insert (idText d.srcIdBytes)
          (d.deviceNow, r.table.rateLimits.seen (idText d.srcIdBytes) d.deviceNow + 1) } } := by
  rw [RelayLoop.receive_authentic hr ha, Windows.hit_eq, addU64_wraps, Option.map_some,
    decide_eq_false hc]

theorem RelayLoop.receive_within (hr : r.running = true) (ha : r.table.authentic S d = true)
    (hc : r.table.rateLimits.seen (idText d.srcIdBytes) d.deviceNow + 1 ≤ maxPacketsPerSec)
    (hi : r.table.ipRateLimits.seen (showIp d.srcAddr.ip) d.ipNow + 1 ≤ maxIpPacketsPerSec) :
    r.receive S false showIp d =
      RelayLoop.accept false { r with table := { r.table with
        rateLimits := r.table.rateLimits.insert (idText d.srcIdBytes)
          (d.deviceNow, r.table.rateLimits.seen (idText d.srcIdBytes) d.deviceNow + 1)
        ipRateLimits := r.table.ipRateLimits.insert (showIp d.srcAddr.ip)
          (d.ipNow, r.table.ipRateLimits.seen (showIp d.srcAddr.ip) d.ipNow + 1) } } d := by
  rw [RelayLoop.receive_authentic hr ha, Windows.hit_eq, addU64_wraps, Option.map_some,
    decide_eq_true hc]
  dsimp only
  rw [Windows.hit_eq, addU64_wraps, Option.map_some, decide_eq_true hi]

variable (S showIp) in
/-- The relay after `n` arrivals of one datagram in one second: the first hundred are in. -/
structure RelayLoop.Burst (d : Received) (n : Nat) (r : RelayLoop) : Prop where
  running : r.running = true
  authentic : r.table.authentic S d = true
  device : r.table.rateLimits.seen (idText d.srcIdBytes) d.deviceNow = .ofNat n
  ip : r.table.ipRateLimits.seen (showIp d.srcAddr.ip) d.ipNow = .ofNat (min n 100)
  admitted : r.admitted = List.replicate (min n 100) d

theorem RelayLoop.Burst.receive (h : RelayLoop.Burst S showIp d n r) (hd : d.sent = none)
    (hn : n + 1 < 2 ^ 64) :
    RelayLoop.Burst S showIp d (n + 1) (r.receive S false showIp d) := by
  have hsucc : r.table.rateLimits.seen (idText d.srcIdBytes) d.deviceNow + 1 =
      .ofNat (n + 1) := by
    rw [h.device, UInt64.ofNat_add]
    rfl
  have hle : UInt64.ofNat (n + 1) ≤ maxPacketsPerSec ↔ n + 1 ≤ 100 := by
    rw [UInt64.le_iff_toNat_le, UInt64.toNat_ofNat_of_lt' hn]
    rfl
  by_cases hc : n + 1 ≤ 100
  · have hmin : min n 100 = n := by omega
    have hmin' : min (n + 1) 100 = n + 1 := by omega
    have hip : r.table.ipRateLimits.seen (showIp d.srcAddr.ip) d.ipNow + 1 = .ofNat (n + 1) := by
      rw [h.ip, hmin, UInt64.ofNat_add]
      rfl
    have hipLe : UInt64.ofNat (n + 1) ≤ maxIpPacketsPerSec := by
      rw [UInt64.le_iff_toNat_le, UInt64.toNat_ofNat_of_lt' hn]
      exact Nat.le_trans hc (by decide)
    rw [RelayLoop.receive_within h.running h.authentic (by rw [hsucc, hle]; exact hc)
      (by rw [hip]; exact hipLe), hsucc, hip]
    constructor
    · rw [RelayLoop.accept_running _ hd]
      exact h.running
    · rw [authentic_of_key (RelayLoop.accept_hmacKey _ d)]
      exact h.authentic
    · rw [RelayLoop.accept_rateLimits]
      exact Windows.seen_insert _ _ _ _
    · rw [RelayLoop.accept_ipRateLimits, hmin']
      exact Windows.seen_insert _ _ _ _
    · rw [RelayLoop.accept_admitted, hmin', List.replicate_succ', ← hmin]
      exact congrArg (· ++ [d]) h.admitted
  · have hmin : min (n + 1) 100 = min n 100 := by omega
    rw [RelayLoop.receive_over h.running h.authentic (by rw [hsucc, hle]; exact hc), hsucc]
    constructor
    · exact h.running
    · exact h.authentic
    · exact Windows.seen_insert _ _ _ _
    · rw [hmin]
      exact h.ip
    · rw [hmin]
      exact h.admitted

theorem RelayLoop.Burst.run (h : RelayLoop.Burst S showIp d n r) (hd : d.sent = none)
    (hm : n + m < 2 ^ 64) :
    RelayLoop.Burst S showIp d (n + m)
      (r.run S false showIp (List.replicate m (.datagram d))) := by
  induction m generalizing n r with
  | zero => exact h
  | succ m ih =>
    rw [List.replicate_succ, RelayLoop.run, List.foldl_cons, ← Nat.add_assoc, Nat.add_right_comm]
    exact ih (h.receive hd (by omega)) (by omega)

/-- The arrival that wraps the counter is let through as the hundred and first. -/
theorem RelayLoop.Burst.wraps (h : RelayLoop.Burst S showIp d n r) (hn : n + 1 = 2 ^ 64) :
    (r.receive S false showIp d).admitted = List.replicate 101 d := by
  have hmin : min n 100 = 100 := by omega
  have hwrap : r.table.rateLimits.seen (idText d.srcIdBytes) d.deviceNow + 1 = 0 := by
    have hadd := UInt64.ofNat_add n 1
    rw [hn] at hadd
    rw [h.device]
    exact hadd.symm
  have hip : r.table.ipRateLimits.seen (showIp d.srcAddr.ip) d.ipNow + 1 = 101 := by
    rw [h.ip, hmin]
    rfl
  rw [RelayLoop.receive_within h.running h.authentic (by rw [hwrap]; decide)
    (by rw [hip]; decide), RelayLoop.accept_admitted, List.replicate_succ']
  have hadmitted := h.admitted
  rw [hmin] at hadmitted
  exact congrArg (· ++ [d]) hadmitted

theorem clockMonotone_replicate (hd : d.deviceNow = d.ipNow) (n : Nat) :
    ClockMonotone (List.replicate n (.datagram d)) := by
  apply List.pairwise_of_forall_mem_list
  intro a ha b hb
  have hall : ∀ c ∈ (List.replicate n (RelayOp.datagram d)).flatMap RelayOp.readings,
      c = d.ipNow := by
    intro c hc
    obtain ⟨op, hop, hc⟩ := List.mem_flatMap.mp hc
    rw [List.eq_of_mem_replicate hop, RelayOp.readings, hd] at hc
    simpa using hc
  rw [hall a ha, hall b hb]

theorem burst_exceeds {t : ForwardingTable} (ht : t.rateLimits = ∅) (hip : t.ipRateLimits = ∅)
    (ha : t.authentic S d = true) (hd : d.sent = none) (hn : n + 1 = 2 ^ 64) :
    ¬ WithinRates (RelayLoop.run S false showIp (.start t)
      (List.replicate (n + 1) (.datagram d))).admitted := by
  have hstart : RelayLoop.Burst S showIp d 0 (.start t) := by
    constructor
    · rfl
    · exact ha
    · rw [RelayLoop.start, ht, Windows.seen, Std.TreeMap.getElem?_emptyc]
      rfl
    · rw [RelayLoop.start, hip, Windows.seen, Std.TreeMap.getElem?_emptyc]
      rfl
    · rfl
  have hburst := hstart.run (m := n) hd (by omega)
  rw [Nat.zero_add] at hburst
  have hall := hburst.wraps hn
  rintro ⟨hdevice, -⟩
  have hle := hdevice (idText d.srcIdBytes) d.deviceNow
  rw [List.replicate_succ', RelayLoop.run, List.foldl_concat] at hle
  rw [RelayLoop.run] at hall
  rw [RelayLoop.step, hall, List.filter_replicate_of_pos, List.length_replicate] at hle
  · omega
  · exact decide_eq_true ⟨rfl, rfl⟩

end Wrap

end Limits

def burstDatagram : Received :=
  ⟨List.replicate 32 97 ++ (arithmeticSuite.hmacSha256 [1] (List.replicate 32 97)).bytes,
    ⟨.v4 1, 4000⟩, 7, 7, none⟩

theorem unspent_runs_within_rates_checked :
    WithinRates (RelayLoop.run arithmeticSuite true dottedIp (.start keyedTable)
      [.datagram burstDatagram]).admitted :=
  unspent_runs_within_rates keyedTable (by unfold ClockMonotone; decide)
    (Guarded.of_forall (fun r op _ => RelayLoop.unspent_checked r op))

/-- A counter that wraps lets a device in again within the second. -/
theorem wrapped_counter_readmits :
    ¬ ∀ (t : ForwardingTable) (ops : List RelayOp), ClockMonotone ops →
      WithinRates (RelayLoop.run arithmeticSuite false dottedIp (.start t) ops).admitted := by
  intro h
  have ha : keyedTable.authentic arithmeticSuite burstDatagram = true := by
    decide +kernel
  have hburst := h keyedTable (List.replicate (2 ^ 64 - 1 + 1) (.datagram burstDatagram))
    (clockMonotone_replicate rfl _)
  exact burst_exceeds rfl rfl ha rfl (by norm_num) hburst

end P2PMesh.Relay
