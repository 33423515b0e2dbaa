import Mathlib.Algebra.Order.BigOperators.Group.List
import Mathlib.Algebra.Order.Group.Int
import P2PMesh.Base.Run
import P2PMesh.TrafficReports

namespace P2PMesh.Billing
open P2PMesh.Base
open P2PMesh.Usage (Uuid)
set_option autoImplicit true

/-- A request that reports traffic, with the table of devices that it finds. -/
inductive TrafficRequest where
  | single (devices : Std.TreeMap Uuid Uuid) (userId : Uuid) (data : TrafficReport) (now : Nat)
  | batch (devices : Std.TreeMap Uuid Uuid) (userId : Uuid) (reports : List TrafficReport)
    (clock : Nat → Nat)

def LogStore.serve (cfg : TrafficSettings) (store : LogStore) : TrafficRequest → Outcome Nat
  | .single devices userId data now =>
    getDb store (Billing.reportTraffic cfg devices userId data now)
  | .batch devices userId reports clock =>
    getDb store (reportTrafficBatch cfg devices userId reports clock)

/-- A report with the user who makes it and the time at which it is recorded. -/
structure UserReport where
  userId : Uuid
  report : TrafficReport
  time : Nat

def TrafficRequest.userReports : TrafficRequest → List UserReport
  | .single _ userId data now => [⟨userId, data, now⟩]
  | .batch _ userId reports clock => reports.mapIdx (fun i r => ⟨userId, r, clock i⟩)

section Sequence
variable (cfg : TrafficSettings)

/-- The reports of a request, if it is accepted. -/
def acceptedOf (store : LogStore) (request : TrafficRequest) : List UserReport :=
  if (store.serve cfg request).1.isOk then request.userReports else []

def acceptedReports : LogStore → List TrafficRequest → List UserReport
  | _, [] => []
  | store, request :: requests =>
    acceptedOf cfg store request ++ acceptedReports (store.serve cfg request).2 requests

def LogStore.serveAll (store : LogStore) (requests : List TrafficRequest) : LogStore :=
  requests.foldl (fun store request => (store.serve cfg request).2) store

end Sequence

def LogStore.empty (nextId : Nat) : LogStore := ⟨[], nextId⟩

/-- A log is that of a report. -/
def TrafficLog.Records (log : TrafficLog) (r : UserReport) : Prop :=
  log = logOf log.id r.userId r.report r.time

def logsWithin (logs : List TrafficLog) (userId : Uuid) (start finish : Nat) : List TrafficLog :=
  logs.filter (fun log => log.userId = userId ∧ start ≤ log.timestamp ∧ log.timestamp ≤ finish)

def bytesOfType (rows : List TrafficLog) (connectionType : String) : Int :=
  ((rows.filter (fun log => log.connectionType = connectionType)).map TrafficLog.bytes).sum

/-- A summary has the sums over some rows, which the two kinds of connection share out. -/
structure TrafficSummary.Partitions (s : TrafficSummary) (rows : List TrafficLog) : Prop where
  sent : s.totalBytesSent = (rows.map TrafficLog.bytesSent).sum
  received : s.totalBytesReceived = (rows.map TrafficLog.bytesReceived).sum
  p2p : s.p2pBytes = bytesOfType rows "p2p"
  relay : s.relayBytes = bytesOfType rows "relay"
  total : s.p2pBytes + s.relayBytes = s.totalBytesSent + s.totalBytesReceived
  sent_nonneg : 0 ≤ s.totalBytesSent
  received_nonneg : 0 ≤ s.totalBytesReceived
  p2p_nonneg : 0 ≤ s.p2pBytes
  relay_nonneg : 0 ≤ s.relayBytes

/-- What the endpoints check of a log before they add it. -/
structure TrafficLog.Sound (log : TrafficLog) : Prop where
  connectionType : log.connectionType = "p2p" ∨ log.connectionType = "relay"
  sent_nonneg : 0 ≤ log.bytesSent
  received_nonneg : 0 ≤ log.bytesReceived

section Summary
variable {logs rows : List TrafficLog} {userId : Uuid} {now : Nat}

theorem TrafficLog.Sound.bytes_nonneg {log : TrafficLog} (h : log.Sound) : 0 ≤ log.bytes :=
  Int.add_nonneg h.sent_nonneg h.received_nonneg

theorem sum_map_nonneg {f : TrafficLog → Int} (h : ∀ log ∈ rows, 0 ≤ f log) :
    0 ≤ (rows.map f).sum := by
  apply List.sum_nonneg
  intro x hx
  obtain ⟨log, hlog, rfl⟩ := List.mem_map.mp hx
  exact h log hlog

theorem bytesOfType_nonneg (h : ∀ log ∈ rows, log.Sound) (connectionType : String) :
    0 ≤ bytesOfType rows connectionType := by
  exact sum_map_nonneg (fun log hlog => (h log (List.mem_of_mem_filter hlog)).bytes_nonneg)

theorem relay_iff_not_p2p {log : TrafficLog} (h : log.Sound) :
    log.connectionType = "relay" ↔ ¬ log.connectionType = "p2p" := by
  rcases h.connectionType with hp2p | hrelay
  · rw [hp2p]
    decide
  · rw [hrelay]
    decide

theorem bytesOfType_add (h : ∀ log ∈ rows, log.Sound) :
    bytesOfType rows "p2p" + bytesOfType rows "relay" =
      (rows.map TrafficLog.bytesSent).sum + (rows.map TrafficLog.bytesReceived).sum := by
  have hrelay : rows.filter (fun log => log.connectionType = "relay") =
      rows.filter (fun log => ¬ log.connectionType = "p2p") := by
    apply List.filter_congr
    intro log hlog
    exact decide_eq_decide.mpr (relay_iff_not_p2p (h log hlog))
  calc bytesOfType rows "p2p" + bytesOfType rows "relay"
      = (rows.map TrafficLog.bytes).sum := by
        rw [bytesOfType, bytesOfType, hrelay]
        exact List.sum_map_filter_add_sum_map_filter_not _ _ _
    _ = (rows.map TrafficLog.bytesSent).sum + (rows.map TrafficLog.bytesReceived).sum := by
        rw [← List.sum_map_add]
        rfl

theorem filter_logsWithin (connectionType : String) (start finish : Nat) :
    logs.filter (fun log => log.userId = userId ∧ log.connectionType = connectionType ∧
      start ≤ log.timestamp ∧ log.timestamp ≤ finish) =
        (logsWithin logs userId start finish).filter
          (fun log => log.connectionType = connectionType) := by
  rw [logsWithin, List.filter_filter]
  apply List.filter_congr
  intro log _
  rw [← Bool.decide_and]
  exact decide_eq_decide.mpr and_left_comm

theorem selectSums_bytes (connectionType : String) (start finish : Nat) :
    (selectSums logs (fun log => log.userId = userId ∧ log.connectionType = connectionType ∧
      start ≤ log.timestamp ∧ log.timestamp ≤ finish)).1 +
        (selectSums logs (fun log => log.userId = userId ∧ log.connectionType = connectionType ∧
          start ≤ log.timestamp ∧ log.timestamp ≤ finish)).2 =
            bytesOfType (logsWithin logs userId start finish) connectionType := by
  rw [selectSums, filter_logsWithin, bytesOfType, ← List.sum_map_add]
  rfl

theorem getUserTrafficSummary_partitions (h : ∀ log ∈ logs, log.Sound)
    (periodStart periodEnd : Option Nat) :
    (getUserTrafficSummary logs userId periodStart periodEnd now).Partitions
      (logsWithin logs userId (periodStart.getD (now - thirtyDays)) (periodEnd.getD now)) := by
  have hrows : ∀ log ∈ logsWithin logs userId (periodStart.getD (now - thirtyDays))
      (periodEnd.getD now), log.Sound := fun log hlog => h log (List.mem_of_mem_filter hlog)
  have hsummary : getUserTrafficSummary logs userId periodStart periodEnd now =
      ⟨((logsWithin logs userId (periodStart.getD (now - thirtyDays))
          (periodEnd.getD now)).map TrafficLog.bytesSent).sum,
        ((logsWithin logs userId (periodStart.getD (now - thirtyDays))
          (periodEnd.getD now)).map TrafficLog.bytesReceived).sum,
        bytesOfType (logsWithin logs userId (periodStart.getD (now - thirtyDays))
          (periodEnd.getD now)) "p2p",
        bytesOfType (logsWithin logs userId (periodStart.getD (now - thirtyDays))
          (periodEnd.getD now)) "relay",
        periodStart.getD (now - thirtyDays), periodEnd.getD now⟩ := by
    rw [getUserTrafficSummary]
    rw [selectSums_bytes, selectSums_bytes]
    rfl
  rw [hsummary]
  generalize logsWithin logs userId _ _ = rows at hrows
  exact ⟨rfl, rfl, rfl, rfl, bytesOfType_add hrows,
    sum_map_nonneg (fun log hlog => (hrows log hlog).sent_nonneg),
    sum_map_nonneg (fun log hlog => (hrows log hlog).received_nonneg),
    bytesOfType_nonneg hrows _, bytesOfType_nonneg hrows _⟩

end Summary

section Acceptance
variable {cfg : TrafficSettings} {devices : Std.TreeMap Uuid Uuid} {userId : Uuid}
  {r : TrafficReport} {reports : List TrafficReport} {store : LogStore} {request : TrafficRequest}
  {logs : List TrafficLog}

theorem validateTrafficReport_connectionType (h : validateTrafficReport cfg r = .ok ()) :
    r.connectionType = "p2p" ∨ r.connectionType = "relay" := by
  by_contra hother
  rw [not_or] at hother
  rw [validateTrafficReport, if_pos hother] at h
  split at h
  · cases h
  · cases h

/-- Only the defaults of a report and the check of an endpoint make its log sound. -/
theorem TrafficLog.Records.sound {log : TrafficLog} {r : UserReport} (h : log.Records r)
    (hvalid : validateTrafficReport cfg r.report = .ok ()) : log.Sound := by
  rw [h]
  exact ⟨validateTrafficReport_connectionType hvalid, Int.natCast_nonneg _, Int.natCast_nonneg _⟩

theorem sound_of_records {accepted : List UserReport}
    (h : logs.Forall₂ TrafficLog.Records accepted)
    (hvalid : ∀ r ∈ accepted, validateTrafficReport cfg r.report = .ok ()) :
    ∀ log ∈ logs, log.Sound := by
  induction h with
  | nil => exact fun log hlog => (List.not_mem_nil hlog).elim
  | cons hr _ ih =>
    rw [List.forall_mem_cons] at hvalid ⊢
    exact ⟨hr.sound hvalid.1, ih hvalid.2⟩

theorem addAll_records (store : LogStore) (userId : Uuid) (reports : List TrafficReport)
    (clock : Nat → Nat) (count : Nat) :
    ∃ added, (store.addAll userId clock count reports).logs = store.logs ++ added ∧
      added.Forall₂ TrafficLog.Records
        (reports.mapIdx (fun i r => ⟨userId, r, clock (count + i)⟩)) := by
  induction reports generalizing store count with
  | nil => exact ⟨[], (List.append_nil _).symm, .nil⟩
  | cons r reports ih =>
    obtain ⟨added, hlogs, hadded⟩ := ih (store.add userId r (clock count)) (count + 1)
    refine ⟨logOf store.nextId userId r (clock count) :: added, ?_, ?_⟩
    · rw [LogStore.addAll, hlogs, LogStore.add, List.append_assoc, List.singleton_append]
    · rw [List.mapIdx_cons]
      refine .cons rfl ?_
      simp only [Nat.add_assoc, Nat.add_comm 1] at hadded
      exact hadded

theorem reportTrafficBatch_of_isOk {clock : Nat → Nat}
    (h : (getDb store (reportTrafficBatch cfg devices userId reports clock)).1.isOk = true) :
    (getDb store (reportTrafficBatch cfg devices userId reports clock)).2 =
      store.addAll userId clock 0 reports ∧ ∀ r ∈ reports, Acceptable cfg devices userId r := by
  have hcount : reports.length ≤ 100 := by
    by_contra hmany
    rw [getDb, reportTrafficBatch, if_pos (Nat.not_le.mp hmany)] at h
    cases h
  have hall := (batchOutcome_isOk_iff cfg devices userId store reports clock hcount).mp h
  exact ⟨batchOutcome_eq cfg devices userId store reports clock hcount hall,
    fun r hr => (hall r hr).1⟩

theorem getDb_reportTraffic_of_isOk {now : Nat}
    (h : (getDb store (reportTraffic cfg devices userId r now)).1.isOk = true) :
    (getDb store (reportTraffic cfg devices userId r now)).2 = store.add userId r now ∧
      Acceptable cfg devices userId r := by
  by_cases hr : Acceptable cfg devices userId r
  · rw [getDb, hr.reportTraffic]
    exact ⟨rfl, hr⟩
  · obtain ⟨e, he⟩ := reportTraffic_of_not_acceptable hr now store
    rw [getDb, he] at h
    cases h

theorem getDb_logs_of_not_isOk {endpoint : LogStore → Outcome α}
    (h : ¬ (getDb store endpoint).1.isOk = true) : (getDb store endpoint).2.logs = store.logs := by
  rw [getDb] at h ⊢
  split
  · next hresult =>
    rw [hresult] at h
    exact (h rfl).elim
  · rfl

theorem serve_records (cfg : TrafficSettings) (store : LogStore) (request : TrafficRequest) :
    (∃ added, (store.serve cfg request).2.logs = store.logs ++ added ∧
      added.Forall₂ TrafficLog.Records (acceptedOf cfg store request)) ∧
    ∀ r ∈ acceptedOf cfg store request, validateTrafficReport cfg r.report = .ok () := by
  rw [acceptedOf]
  by_cases hok : (store.serve cfg request).1.isOk = true
  · rw [if_pos hok]
    cases request with
    | single devices userId data now =>
      obtain ⟨hstore, hdata⟩ := getDb_reportTraffic_of_isOk hok
      refine ⟨⟨[logOf store.nextId userId data now], ?_, .cons rfl .nil⟩, ?_⟩
      · rw [LogStore.serve, hstore]
        rfl
      · intro r hr
        rw [List.mem_singleton.mp hr]
        exact hdata.valid
    | batch devices userId reports clock =>
      obtain ⟨hstore, hreports⟩ := reportTrafficBatch_of_isOk hok
      obtain ⟨added, hlogs, hadded⟩ := addAll_records store userId reports clock 0
      refine ⟨⟨added, ?_, ?_⟩, ?_⟩
      · rw [LogStore.serve, hstore, hlogs]
      · simp only [Nat.zero_add] at hadded
        exact hadded
      · intro r hr
        obtain ⟨i, hi, rfl⟩ := List.mem_mapIdx.mp hr
        exact (hreports _ (List.getElem_mem hi)).valid
  · rw [if_neg hok]
    refine ⟨⟨[], ?_, .nil⟩, fun r hr => (List.not_mem_nil hr).elim⟩
    rw [List.append_nil]
    cases request with
    | single devices userId data now => exact getDb_logs_of_not_isOk hok
    | batch devices userId reports clock => exact getDb_logs_of_not_isOk hok

theorem serveAll_records (cfg : TrafficSettings) (store : LogStore)
    (requests : List TrafficRequest) :
    (∃ added, (store.serveAll cfg requests).logs = store.logs ++ added ∧
      added.Forall₂ TrafficLog.Records (acceptedReports cfg store requests)) ∧
    ∀ r ∈ acceptedReports cfg store requests, validateTrafficReport cfg r.report = .ok () := by
  induction requests generalizing store with
  | nil =>
    exact ⟨⟨[], (List.append_nil _).symm, .nil⟩, fun r hr => (List.not_mem_nil hr).elim⟩
  | cons request requests ih =>
    obtain ⟨⟨first, hfirst, hrecorded⟩, hvalid⟩ := serve_records cfg store request
    obtain ⟨⟨rest, hrest, hrecorded'⟩, hvalid'⟩ := ih (store.serve cfg request).2
    rw [acceptedReports]
    refine ⟨⟨first ++ rest, ?_, List.rel_append hrecorded hrecorded'⟩, ?_⟩
    · rw [← List.append_assoc, ← hfirst]
      exact hrest
    · intro r hr
      exact (List.mem_append.mp hr).elim (hvalid r) (hvalid' r)

end Acceptance

/-- Whatever requests were served, the logs are those of the accepted reports, and the summary of
every user and period shares them out. -/
theorem summary_partitions (cfg : TrafficSettings) (nextId : Nat) (requests : List TrafficRequest)
    (userId : Uuid) (periodStart periodEnd : Option Nat) (now : Nat) :
    ((LogStore.empty nextId).serveAll cfg requests).logs.Forall₂ TrafficLog.Records
      (acceptedReports cfg (.empty nextId) requests) ∧
    (getUserTrafficSummary ((LogStore.empty nextId).serveAll cfg requests).logs userId periodStart
      periodEnd now).Partitions
        (logsWithin ((LogStore.empty nextId).serveAll cfg requests).logs userId
          (periodStart.getD (now - thirtyDays)) (periodEnd.getD now)) := by
  obtain ⟨⟨added, hlogs, hadded⟩, hvalid⟩ := serveAll_records cfg (.empty nextId) requests
  rw [hlogs, LogStore.empty, List.nil_append]
  exact ⟨hadded, getUserTrafficSummary_partitions (sound_of_records hadded hvalid) periodStart
    periodEnd⟩

end P2PMesh.Billing
