import Mathlib.Algebra.Order.BigOperators.Group.List
import P2PMesh.HttpGateway
import P2PMesh.MeshTunnel
import P2PMesh.TrafficReports

namespace P2PMesh.MeshTunnel
open P2PMesh.Base
open P2PMesh.Billing
open P2PMesh.Gateway (HttpGatewayError Text readResponse)
open P2PMesh.Usage (Uuid)
set_option autoImplicit true

/-- What becomes of an attempt to post a report: it never gets to the endpoint, which leaves some
result; the endpoint serves it and the response is lost; or the response arrives. -/
inductive PostFate where
  | unreached (result : Except HttpGatewayError Unit)
  | unanswered (e : HttpGatewayError)
  | answered

/-- The status of the response; what the endpoint does not handle is an error of the server. -/
def reportStatus : Except TrafficError Nat → UInt16
  | .ok _ => 201
  | .error (.http status _) => .ofNat status
  | .error _ => 500

section Post
variable (url : Text) (endpoint : Nat → LogStore → Outcome Nat) (fates : Nat → PostFate)

def executeReport (i : Nat) (store : LogStore) : Except HttpGatewayError Unit × LogStore :=
  match fates i with
  | .unreached result => (result, store)
  | .unanswered e => (.error e, (getDb store (endpoint i)).2)
  | .answered =>
    let r := getDb store (endpoint i)
    (readResponse (fun _ => .ok ()) url ⟨reportStatus r.1, .ok ""⟩, r.2)

/-- The logs after the attempts that are left; the client does not look at what they come to. -/
def postReport : Nat → Nat → LogStore → LogStore
  | 0, _, store => store
  | left + 1, i, store =>
    match executeReport url endpoint fates i store with
    | (.ok _, store') => store'
    | (.error e, store') => if e.isRetryable then postReport left (i + 1) store' else store'

/-- How often a report that is accepted is recorded. -/
def recordings (fates : Nat → PostFate) : Nat → Nat → Nat
  | 0, _ => 0
  | left + 1, i =>
    match fates i with
    | .unreached (.ok _) => 0
    | .unreached (.error e) => if e.isRetryable then recordings fates left (i + 1) else 0
    | .unanswered e => 1 + if e.isRetryable then recordings fates left (i + 1) else 0
    | .answered => 1

end Post

/-- The main loop of a client: the user whose token it has, the sizes of the datagrams since its
last report, since when it waits, when it has reported last, in milliseconds, and how many bytes it
has received altogether. -/
structure TunnelClient where
  userId : Uuid
  trafficBatch : List UInt64
  turn : Nat
  lastReport : Nat
  running : Bool
  received : Nat

/-- The clients by their devices, and what the control plane has on record. -/
structure TrafficSystem where
  clients : Std.TreeMap Uuid TunnelClient
  store : LogStore

def TrafficSystem.new : TrafficSystem := ⟨∅, ⟨[], 0⟩⟩

inductive TrafficOp where
  | start (deviceId userId : Uuid) (now : Nat)
  | receive (deviceId : Uuid) (size : Nat) (now : Nat)
  | sleep (deviceId : Uuid) (now done : Nat) (fates : Nat → PostFate) (clock : Nat → Nat)
  | fail (deviceId : Uuid)

def batchBytes (batch : List UInt64) : Nat := (batch.map UInt64.toNat).sum

def sumU64 (overflowChecks : Bool) (batch : List UInt64) : Option UInt64 :=
  batch.foldlM (addU64 overflowChecks) 0

/-- A minute has passed since the last report, and there is something to report. -/
def TunnelClient.due (c : TunnelClient) (now : Nat) : Bool :=
  c.lastReport + 60000 ≤ now ∧ c.trafficBatch ≠ []

/-- A second has passed since the last datagram. -/
def TunnelClient.idle (c : TunnelClient) (now : Nat) : Bool := c.running ∧ c.turn + 1000 ≤ now

def TunnelClient.stop (c : TunnelClient) : TunnelClient :=
  { c with trafficBatch := [], running := false }

def trafficReport (deviceId : Uuid) (total : Nat) : TrafficReport where
  deviceId := deviceId
  peerDeviceId := none
  bytesSent := 0
  bytesReceived := total
  connectionType := "p2p"
  relayNodeId := none
  sessionStart := none
  sessionEnd := none

def maxRetries : Nat := 2

section System
variable (overflowChecks : Bool) (cfg : TrafficSettings) (devices : Std.TreeMap Uuid Uuid)
  (url : Text) (w : TrafficSystem)

def TrafficSystem.start (deviceId userId : Uuid) (now : Nat) : TrafficSystem :=
  match w.clients[deviceId]? with
  | some _ => w
  | none => { w with clients := w.clients.insert deviceId ⟨userId, [], now, now, true, 0⟩ }

/-- What does not fit the buffer is cut off. -/
def TrafficSystem.receive (deviceId : Uuid) (size now : Nat) : TrafficSystem :=
  match w.clients[deviceId]? with
  | none => w
  | some c =>
    if c.running then
      let n := min size 65536
      { w with clients := w.clients.insert deviceId { c with
          trafficBatch := c.trafficBatch ++ [.ofNat n]
          turn := now
          received := c.received + n } }
    else w

/-- The batch is forgotten whatever the requests come to; where its sum overflows, the client ends
if it has been built to check. What is served in between is about other devices, so that the
requests are one step. -/
def TrafficSystem.reportTraffic (deviceId : Uuid) (c : TunnelClient) (done : Nat)
    (fates : Nat → PostFate) (clock : Nat → Nat) : TrafficSystem :=
  match sumU64 overflowChecks c.trafficBatch with
  | none => { w with clients := w.clients.insert deviceId c.stop }
  | some total =>
    { clients := w.clients.insert deviceId
        { c with trafficBatch := [], turn := done, lastReport := done }
      store := postReport url (fun i => Billing.reportTraffic cfg devices c.userId
        (trafficReport deviceId total.toNat) (clock i)) fates (maxRetries + 1) 0 w.store }

def TrafficSystem.sleep (deviceId : Uuid) (now done : Nat) (fates : Nat → PostFate)
    (clock : Nat → Nat) : TrafficSystem :=
  match w.clients[deviceId]? with
  | none => w
  | some c =>
    if c.idle now then
      if c.due now then w.reportTraffic overflowChecks cfg devices url deviceId c done fates clock
      else { w with clients := w.clients.insert deviceId { c with turn := now } }
    else w

/-- The socket fails and the client ends. -/
def TrafficSystem.fail (deviceId : Uuid) : TrafficSystem :=
  match w.clients[deviceId]? with
  | none => w
  | some c => { w with clients := w.clients.insert deviceId c.stop }

def TrafficSystem.step : TrafficOp → TrafficSystem
  | .start deviceId userId now => w.start deviceId userId now
  | .receive deviceId size now => w.receive deviceId size now
  | .sleep deviceId now done fates clock =>
    w.sleep overflowChecks cfg devices url deviceId now done fates clock
  | .fail deviceId => w.fail deviceId

def TrafficSystem.run (ops : List TrafficOp) : TrafficSystem :=
  ops.foldl (TrafficSystem.step overflowChecks cfg devices url) w

end System

def LogStore.bytesReceived (store : LogStore) (deviceId : Uuid) : Int :=
  ((store.logs.filter (fun log => log.deviceId = deviceId)).map TrafficLog.bytesReceived).sum

def TrafficSystem.received (w : TrafficSystem) (deviceId : Uuid) : Nat :=
  (w.clients[deviceId]?).elim 0 TunnelClient.received

def TrafficSystem.pending (w : TrafficSystem) (deviceId : Uuid) : Nat :=
  (w.clients[deviceId]?).elim 0 (fun c => batchBytes c.trafficBatch)

/-- For each device, what is on record, what its client still holds for the next report, and what
the client has received are related so. -/
def TrafficSystem.Each (p : Int → Nat → Nat → Prop) (w : TrafficSystem) : Prop :=
  ∀ deviceId, p (LogStore.bytesReceived w.store deviceId) (w.pending deviceId)
    (w.received deviceId)

/-- What a client has received is on record, or the client still holds it. -/
def TrafficSystem.Accounted : TrafficSystem → Prop :=
  TrafficSystem.Each (fun logged pending received => logged + pending = received)

/-- Each byte is on record at most three times. -/
def TrafficSystem.AtMostThrice : TrafficSystem → Prop :=
  TrafficSystem.Each (fun logged pending received => logged + 3 * pending ≤ 3 * received)

/-- What a client gives up is nothing, or goes into one report that is accepted and that is recorded
once. -/
def TrafficSystem.Recorded (cfg : TrafficSettings) (devices : Std.TreeMap Uuid Uuid)
    (w : TrafficSystem) : TrafficOp → Prop
  | .sleep deviceId now _ fates _ => ∀ c, w.clients[deviceId]? = some c → c.idle now = true →
    c.due now = true → batchBytes c.trafficBatch ≠ 0 →
      Acceptable cfg devices c.userId (trafficReport deviceId (batchBytes c.trafficBatch)) ∧
        recordings fates (maxRetries + 1) 0 = 1
  | .fail deviceId => w.pending deviceId = 0
  | _ => True

section Posting
variable {cfg : TrafficSettings} {devices : Std.TreeMap Uuid Uuid} {userId deviceId : Uuid}
  {r : TrafficReport} {url : Text} {fates : Nat → PostFate} {clock : Nat → Nat}

theorem bytesReceived_add (store : LogStore) (now : Nat) :
    LogStore.bytesReceived (store.add userId r now) deviceId =
      LogStore.bytesReceived store deviceId +
        if r.deviceId = deviceId then (r.bytesReceived : Int) else 0 := by
  rw [LogStore.bytesReceived, LogStore.add, List.filter_append, List.map_append, List.sum_append]
  congr 1
  have hlog : (logOf store.nextId userId r now).deviceId = r.deviceId := rfl
  simp only [List.filter_cons, List.filter_nil, hlog, decide_eq_true_eq]
  split
  next => exact Int.add_zero _
  next => rfl

theorem getDb_accepted (h : Acceptable cfg devices userId r) (store : LogStore) (now : Nat) :
    getDb store (Billing.reportTraffic cfg devices userId r now) =
      (.ok store.nextId, store.add userId r now) := by
  rw [getDb, h.reportTraffic]

theorem getDb_refused (h : ¬ Acceptable cfg devices userId r) (store : LogStore) (now : Nat) :
    (getDb store (Billing.reportTraffic cfg devices userId r now)).2 = store := by
  obtain ⟨e, he⟩ := reportTraffic_of_not_acceptable h now store
  rw [getDb, he]

theorem postReport_accepted (h : Acceptable cfg devices userId r) (left i : Nat)
    (store : LogStore) :
    LogStore.bytesReceived (postReport url
      (fun i => Billing.reportTraffic cfg devices userId r (clock i)) fates left i store) deviceId =
        LogStore.bytesReceived store deviceId + recordings fates left i *
          if r.deviceId = deviceId then (r.bytesReceived : Int) else 0 := by
  induction left generalizing i store with
  | zero => rw [postReport, recordings, Nat.cast_zero, Int.zero_mul, Int.add_zero]
  | succ left ih =>
    rw [postReport, recordings, executeReport]
    cases hf : fates i with
    | unreached result =>
      cases result with
      | ok u => rw [Nat.cast_zero, Int.zero_mul, Int.add_zero]
      | error e =>
        dsimp only
        by_cases hr : e.isRetryable = true
        · rw [if_pos hr, if_pos hr, ih]
        · rw [if_neg hr, if_neg hr, Nat.cast_zero, Int.zero_mul, Int.add_zero]
    | unanswered e =>
      dsimp only
      rw [getDb_accepted h]
      by_cases hr : e.isRetryable = true
      · rw [if_pos hr, if_pos hr, ih, bytesReceived_add]
        push_cast
        ring
      · rw [if_neg hr, if_neg hr, bytesReceived_add]
        push_cast
        ring
    | answered =>
      dsimp only
      rw [getDb_accepted h]
      have hok : readResponse (fun _ => .ok ()) url
          ⟨reportStatus (.ok store.nextId), .ok ""⟩ = .ok () := rfl
      rw [hok]
      dsimp only
      rw [bytesReceived_add, Nat.cast_one, Int.one_mul]

theorem postReport_refused (h : ¬ Acceptable cfg devices userId r) (left i : Nat)
    (store : LogStore) :
    postReport url (fun i => Billing.reportTraffic cfg devices userId r (clock i)) fates left i
      store = store := by
  induction left generalizing i store with
  | zero => rfl
  | succ left ih =>
    have hstore : (executeReport url
        (fun i => Billing.reportTraffic cfg devices userId r (clock i)) fates i store).2 =
          store := by
      rw [executeReport]
      cases fates i with
      | unreached result => rfl
      | unanswered e => exact getDb_refused h store _
      | answered => exact getDb_refused h store _
    rw [postReport]
    generalize executeReport url
      (fun i => Billing.reportTraffic cfg devices userId r (clock i)) fates i store = result
        at hstore
    obtain ⟨outcome, store'⟩ := result
    cases hstore
    cases outcome with
    | ok u => rfl
    | error e =>
      dsimp only
      split
      next => exact ih (i + 1) store'
      next => rfl

theorem recordings_le (fates : Nat → PostFate) (left i : Nat) : recordings fates left i ≤ left := by
  induction left generalizing i with
  | zero => exact le_refl 0
  | succ left ih =>
    have hrest := ih (i + 1)
    rw [recordings]
    cases fates i with
    | unreached result =>
      cases result with
      | ok u => exact Nat.zero_le _
      | error e =>
        dsimp only
        split <;> omega
    | unanswered e =>
      dsimp only
      split <;> omega
    | answered => exact Nat.succ_le_succ (Nat.zero_le _)

end Posting

section Sum
variable {c : Bool} {a total : UInt64} {batch : List UInt64}

theorem batchBytes_cons (n : UInt64) : batchBytes (n :: batch) = n.toNat + batchBytes batch := by
  rw [batchBytes, List.map_cons, List.sum_cons]
  rfl

theorem foldlM_addU64_some (h : batch.foldlM (addU64 c) a = some total) :
    total.toNat = (a.toNat + batchBytes batch) % 2 ^ 64 := by
  induction batch generalizing a with
  | nil =>
    cases h
    exact (Nat.mod_eq_of_lt total.toNat_lt).symm
  | cons n batch ih =>
    rw [List.foldlM_cons] at h
    obtain ⟨b, hb, h⟩ := Option.bind_eq_some_iff.mp h
    rw [ih h, addU64_toNat hb, batchBytes_cons]
    omega

theorem foldlM_addU64_none (h : batch.foldlM (addU64 c) a = none) :
    2 ^ 64 ≤ a.toNat + batchBytes batch := by
  induction batch generalizing a with
  | nil => cases h
  | cons n batch ih =>
    rw [List.foldlM_cons] at h
    rw [batchBytes_cons]
    cases hb : addU64 c a n with
    | none =>
      have hle := addU64_none hb
      omega
    | some b =>
      rw [hb] at h
      have hle := ih h
      rw [addU64_toNat hb] at hle
      omega

end Sum

section Steps
variable {cfg : TrafficSettings} {devices : Std.TreeMap Uuid Uuid} {url : Text}
  {overflowChecks : Bool} {w : TrafficSystem} {deviceId : Uuid} {c c' : TunnelClient}
  {p : Int → Nat → Nat → Prop}

theorem TrafficSystem.Each.insert_iff (h : w.Each p) {store : LogStore}
    (hother : ∀ d, deviceId ≠ d →
      LogStore.bytesReceived store d = LogStore.bytesReceived w.store d) :
    TrafficSystem.Each p ⟨w.clients.insert deviceId c', store⟩ ↔
      p (LogStore.bytesReceived store deviceId) (batchBytes c'.trafficBatch) c'.received := by
  constructor
  · intro hp
    have hd := hp deviceId
    rw [TrafficSystem.pending, TrafficSystem.received, Std.TreeMap.getElem?_insert_self] at hd
    exact hd
  · intro hp d
    rw [TrafficSystem.pending, TrafficSystem.received]
    by_cases hd : deviceId = d
    · cases hd
      rw [Std.TreeMap.getElem?_insert_self]
      exact hp
    · rw [getElem?_insert_of_ne _ _ hd, hother d hd]
      exact h d

theorem TrafficSystem.Each.client (h : w.Each p) (hc : w.clients[deviceId]? = some c) :
    p (LogStore.bytesReceived w.store deviceId) (batchBytes c.trafficBatch) c.received := by
  have hd := h deviceId
  rw [TrafficSystem.pending, TrafficSystem.received, hc] at hd
  exact hd

/-- What holds of a device's amounts is kept by the steps that only move bytes into the batch. -/
theorem TrafficSystem.Each.start (h : w.Each p) (userId : Uuid) (now : Nat) :
    (w.start deviceId userId now).Each p := by
  rw [TrafficSystem.start]
  cases hc : w.clients[deviceId]? with
  | some c => exact h
  | none =>
    refine (h.insert_iff (fun _ _ => rfl)).mpr ?_
    have hd := h deviceId
    rw [TrafficSystem.pending, TrafficSystem.received, hc] at hd
    exact hd

theorem batchBytes_append (batch : List UInt64) (size : Nat) :
    batchBytes (batch ++ [.ofNat (min size 65536)]) = batchBytes batch + min size 65536 := by
  have hmod : min size 65536 % 2 ^ 64 = min size 65536 := by omega
  rw [batchBytes, List.map_append, List.sum_append, List.map_singleton, List.sum_singleton,
    UInt64.toNat_ofNat', hmod]
  rfl

theorem TrafficSystem.Each.receive (h : w.Each p)
    (hp : ∀ logged pending received n, p logged pending received →
      p logged (pending + n) (received + n)) (size now : Nat) :
    (w.receive deviceId size now).Each p := by
  rw [TrafficSystem.receive]
  cases hc : w.clients[deviceId]? with
  | none => exact h
  | some c =>
    dsimp only
    split
    next =>
      refine (h.insert_iff (fun _ _ => rfl)).mpr ?_
      rw [batchBytes_append]
      exact hp _ _ _ _ (h.client hc)
    next => exact h

theorem postReport_other {d userId : Uuid} {fates : Nat → PostFate} {clock : Nat → Nat}
    (hd : deviceId ≠ d) (total left i : Nat) (store : LogStore) :
    LogStore.bytesReceived (postReport url (fun i => Billing.reportTraffic cfg devices userId
      (trafficReport deviceId total) (clock i)) fates left i store) d =
        LogStore.bytesReceived store d := by
  by_cases h : Acceptable cfg devices userId (trafficReport deviceId total)
  · rw [postReport_accepted h]
    have hne : (trafficReport deviceId total).deviceId ≠ d := hd
    rw [if_neg hne, Int.mul_zero, Int.add_zero]
  · rw [postReport_refused h]

section Report
variable {userId : Uuid} {fates : Nat → PostFate} {clock : Nat → Nat} {batch : List UInt64}
  {total : UInt64}

/-- A sum that has wrapped round is not made up for by two more recordings. -/
theorem recordings_mul_eq {bytes sum k : Nat} (hsum : sum = bytes % 2 ^ 64) (hfits : sum < 2 ^ 63)
    (hk : k ≤ 3) (hbytes : bytes ≠ 0) : k * sum = bytes ↔ sum = bytes ∧ k = 1 := by
  constructor
  · intro h
    have hcases : k = 0 ∨ k = 1 ∨ k = 2 ∨ k = 3 := by omega
    rcases hcases with rfl | rfl | rfl | rfl <;> omega
  · rintro ⟨rfl, rfl⟩
    exact Nat.one_mul sum

theorem sumU64_eq_some (h : sumU64 overflowChecks batch = some total) :
    total.toNat = batchBytes batch % 2 ^ 64 := by
  have hsum := foldlM_addU64_some h
  rw [hsum]
  exact congrArg (· % 2 ^ 64) (Nat.zero_add _)

theorem sumU64_eq_none (h : sumU64 overflowChecks batch = none) :
    2 ^ 64 ≤ batchBytes batch := by
  have hsum := foldlM_addU64_none h
  rw [UInt64.toNat_zero, Nat.zero_add] at hsum
  exact hsum

theorem postReport_own {sum : Nat} (left i : Nat) (store : LogStore)
    (h : Acceptable cfg devices userId (trafficReport deviceId sum)) :
    LogStore.bytesReceived (postReport url (fun i => Billing.reportTraffic cfg devices userId
      (trafficReport deviceId sum) (clock i)) fates left i store) deviceId =
        LogStore.bytesReceived store deviceId + (recordings fates left i * sum : Nat) := by
  have hd : (trafficReport deviceId sum).deviceId = deviceId := rfl
  rw [postReport_accepted h, if_pos hd, Nat.cast_mul]
  rfl

/-- A report puts the bytes of the batch on record exactly if there are none, or the report is
accepted, with no overflow, and recorded once. -/
theorem postReport_recorded_iff (h : sumU64 overflowChecks batch = some total) (url : Text)
    (clock : Nat → Nat) (store : LogStore) :
    LogStore.bytesReceived (postReport url (fun i => Billing.reportTraffic cfg devices userId
      (trafficReport deviceId total.toNat) (clock i)) fates (maxRetries + 1) 0 store) deviceId =
        LogStore.bytesReceived store deviceId + batchBytes batch ↔
      (batchBytes batch ≠ 0 →
        Acceptable cfg devices userId (trafficReport deviceId (batchBytes batch)) ∧
          recordings fates (maxRetries + 1) 0 = 1) := by
  have htotal := sumU64_eq_some h
  have hk := recordings_le fates (maxRetries + 1) 0
  by_cases hacc : Acceptable cfg devices userId (trafficReport deviceId total.toNat)
  · rw [postReport_own _ _ _ hacc, Int.add_right_inj, Nat.cast_inj]
    by_cases hempty : batchBytes batch = 0
    · refine iff_of_true ?_ (absurd hempty)
      rw [htotal, hempty, Nat.zero_mod, Nat.mul_zero]
    · rw [imp_iff_right hempty, recordings_mul_eq htotal hacc.received hk hempty]
      constructor
      · rintro ⟨hsum, honce⟩
        exact ⟨hsum ▸ hacc, honce⟩
      · rintro ⟨hbytes, honce⟩
        have hfits : batchBytes batch < 2 ^ 63 := hbytes.received
        exact ⟨by omega, honce⟩
  · rw [postReport_refused hacc]
    constructor
    · intro hzero hempty
      omega
    · intro hrec
      by_cases hempty : batchBytes batch = 0
      · rw [hempty, Nat.cast_zero, Int.add_zero]
      · have hbytes := (hrec hempty).1
        have hfits : batchBytes batch < 2 ^ 63 := hbytes.received
        have hsum : total.toNat = batchBytes batch := by omega
        exact (hacc (hsum ▸ hbytes)).elim

theorem postReport_le (h : sumU64 overflowChecks batch = some total) (store : LogStore) :
    LogStore.bytesReceived (postReport url (fun i => Billing.reportTraffic cfg devices userId
      (trafficReport deviceId total.toNat) (clock i)) fates (maxRetries + 1) 0 store) deviceId ≤
        LogStore.bytesReceived store deviceId + 3 * batchBytes batch := by
  have htotal := sumU64_eq_some h
  by_cases hacc : Acceptable cfg devices userId (trafficReport deviceId total.toNat)
  · rw [postReport_own _ _ _ hacc]
    have hk : recordings fates (maxRetries + 1) 0 * total.toNat ≤ 3 * batchBytes batch :=
      Nat.mul_le_mul (recordings_le fates 3 0) (by omega)
    omega
  · rw [postReport_refused hacc]
    omega

end Report

theorem TrafficSystem.Accounted.reportTraffic_iff (h : w.Accounted)
    (hc : w.clients[deviceId]? = some c) (done : Nat) (fates : Nat → PostFate)
    (clock : Nat → Nat) :
    (w.reportTraffic overflowChecks cfg devices url deviceId c done fates clock).Accounted ↔
      (batchBytes c.trafficBatch ≠ 0 →
        Acceptable cfg devices c.userId (trafficReport deviceId (batchBytes c.trafficBatch)) ∧
          recordings fates (maxRetries + 1) 0 = 1) := by
  have hd := TrafficSystem.Each.client h hc
  rw [TrafficSystem.reportTraffic]
  cases hsum : sumU64 overflowChecks c.trafficBatch with
  | none =>
    have hlarge := sumU64_eq_none hsum
    refine (TrafficSystem.Each.insert_iff h (fun _ _ => rfl)).trans (iff_of_false ?_ ?_)
    · change ¬ LogStore.bytesReceived w.store deviceId + 0 = c.received
      omega
    · intro hrec
      have hfits : batchBytes c.trafficBatch < 2 ^ 63 := (hrec (by omega)).1.received
      omega
  | some total =>
    rw [← postReport_recorded_iff hsum url clock w.store]
    refine (TrafficSystem.Each.insert_iff h (fun d hne => postReport_other hne _ _ _ _)).trans ?_
    change _ + 0 = (c.received : Int) ↔ _
    omega

theorem TrafficSystem.Accounted.step_iff (h : w.Accounted) (op : TrafficOp) :
    (w.step overflowChecks cfg devices url op).Accounted ↔ w.Recorded cfg devices op := by
  cases op with
  | start d userId now => exact iff_of_true (TrafficSystem.Each.start h userId now) trivial
  | receive d size now =>
    refine iff_of_true (TrafficSystem.Each.receive h ?_ size now) trivial
    intro logged pending received n hp
    omega
  | fail d =>
    rw [TrafficSystem.step, TrafficSystem.fail, TrafficSystem.Recorded]
    cases hc : w.clients[d]? with
    | none => exact iff_of_true h (by rw [TrafficSystem.pending, hc]; rfl)
    | some c =>
      have hd := TrafficSystem.Each.client h hc
      have hpending : w.pending d = batchBytes c.trafficBatch := by
        rw [TrafficSystem.pending, hc]
        rfl
      rw [hpending]
      refine (TrafficSystem.Each.insert_iff h (fun _ _ => rfl)).trans ?_
      change LogStore.bytesReceived w.store d + 0 = c.received ↔ _
      omega
  | sleep d now done fates clock =>
    rw [TrafficSystem.step, TrafficSystem.sleep, TrafficSystem.Recorded]
    cases hc : w.clients[d]? with
    | none => exact iff_of_true h (fun c hsome => absurd hsome (Option.some_ne_none c).symm)
    | some c =>
      simp only [Option.some.injEq, forall_eq']
      cases hidle : c.idle now with
      | false => exact iff_of_true h (fun hidle => absurd hidle Bool.false_ne_true)
      | true =>
        cases hdue : c.due now with
        | false =>
          have hd := TrafficSystem.Each.client h hc
          refine iff_of_true ?_ (fun _ hdue => absurd hdue Bool.false_ne_true)
          exact (TrafficSystem.Each.insert_iff h (fun _ _ => rfl)).mpr hd
        | true =>
          rw [imp_iff_right rfl, imp_iff_right rfl]
          exact h.reportTraffic_iff hc done fates clock

theorem TrafficSystem.AtMostThrice.step (h : w.AtMostThrice) (op : TrafficOp) :
    (w.step overflowChecks cfg devices url op).AtMostThrice := by
  cases op with
  | start d userId now => exact TrafficSystem.Each.start h userId now
  | receive d size now =>
    refine TrafficSystem.Each.receive h ?_ size now
    intro logged pending received n hp
    omega
  | fail d =>
    rw [TrafficSystem.step, TrafficSystem.fail]
    cases hc : w.clients[d]? with
    | none => exact h
    | some c =>
      have hd := TrafficSystem.Each.client h hc
      refine (TrafficSystem.Each.insert_iff h (fun _ _ => rfl)).mpr ?_
      change LogStore.bytesReceived w.store d + 3 * 0 ≤ 3 * c.received
      omega
  | sleep d now done fates clock =>
    rw [TrafficSystem.step, TrafficSystem.sleep]
    cases hc : w.clients[d]? with
    | none => exact h
    | some c =>
      have hd := TrafficSystem.Each.client h hc
      dsimp only
      split_ifs
      · rw [TrafficSystem.reportTraffic]
        cases hsum : sumU64 overflowChecks c.trafficBatch with
        | none =>
          refine (TrafficSystem.Each.insert_iff h (fun _ _ => rfl)).mpr ?_
          change LogStore.bytesReceived w.store d + 3 * 0 ≤ 3 * c.received
          omega
        | some total =>
          refine (TrafficSystem.Each.insert_iff h
            (fun d hne => postReport_other hne _ _ _ _)).mpr ?_
          refine Int.le_trans (Int.add_le_add_right (postReport_le hsum w.store) _) ?_
          change _ + 3 * 0 ≤ 3 * (c.received : Int)
          omega
      · exact (TrafficSystem.Each.insert_iff h (fun _ _ => rfl)).mpr hd
      · exact h

end Steps

section Runs
variable (overflowChecks : Bool) (cfg : TrafficSettings) (devices : Std.TreeMap Uuid Uuid)
  (url : Text) (ops : List TrafficOp)

theorem TrafficSystem.new_each {p : Int → Nat → Nat → Prop} (h : p 0 0 0) :
    TrafficSystem.new.Each p := by
  intro deviceId
  have hnone : TrafficSystem.new.clients[deviceId]? = none := Std.TreeMap.getElem?_emptyc
  rw [TrafficSystem.pending, TrafficSystem.received, hnone]
  exact h

/-- At every point of a run each byte that a client has received is on record once or still held,
exactly if all that has been given up was recorded once; and no byte is ever on record more than
three times. -/
theorem TrafficSystem.run_accounted_iff :
    ((∀ l, l <+: ops → (TrafficSystem.new.run overflowChecks cfg devices url l).Accounted) ↔
      Guarded (TrafficSystem.step overflowChecks cfg devices url)
        (TrafficSystem.Recorded cfg devices) TrafficSystem.new ops) ∧
      (TrafficSystem.new.run overflowChecks cfg devices url ops).AtMostThrice := by
  have hnew : TrafficSystem.new.Accounted := TrafficSystem.new_each rfl
  have hthrice : TrafficSystem.new.AtMostThrice := TrafficSystem.new_each (by decide)
  constructor
  · exact forall_prefix_iff hnew (fun _ op h => TrafficSystem.Accounted.step_iff h op) ops
  · exact run_invariant _ hthrice (fun _ op h => TrafficSystem.AtMostThrice.step h op) ops

end Runs

end P2PMesh.MeshTunnel
