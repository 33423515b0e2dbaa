import Mathlib.Algebra.Order.Group.Nat
import Mathlib.Algebra.Ring.Int.Defs
import P2PMesh.Base.Periods
import P2PMesh.Usage

namespace P2PMesh.Billing
open P2PMesh.Base P2PMesh.Base.Periods
open P2PMesh.Usage (Uuid Datetime)
set_option autoImplicit true

/-- A row of the table of traffic logs, with its instant of recording in microseconds. -/
structure TrafficLog where
  id : Nat
  userId : Uuid
  deviceId : Uuid
  peerDeviceId : Option Uuid
  bytesSent : Int
  bytesReceived : Int
  connectionType : String
  relayNodeId : Option Uuid
  sessionStart : Datetime
  sessionEnd : Datetime
  timestamp : Nat
deriving DecidableEq

structure TrafficSummary where
  totalBytesSent : Int
  totalBytesReceived : Int
  p2pBytes : Int
  relayBytes : Int
  periodStart : Nat
  periodEnd : Nat
deriving DecidableEq

def thirtyDays : Nat := 30 * 24 * 3600 * 1000000

/-- The sums of a query over the logs, in which no row counts zero. -/
def selectSums (logs : List TrafficLog) (p : TrafficLog → Bool) : Int × Int :=
  (((logs.filter p).map TrafficLog.bytesSent).sum,
    ((logs.filter p).map TrafficLog.bytesReceived).sum)

def getUserTrafficSummary (logs : List TrafficLog) (userId : Uuid)
    (periodStart periodEnd : Option Nat) (now : Nat) : TrafficSummary :=
  let periodStart := periodStart.getD (now - thirtyDays)
  let periodEnd := periodEnd.getD now
  let total := selectSums logs fun log =>
    log.userId = userId ∧ periodStart ≤ log.timestamp ∧ log.timestamp ≤ periodEnd
  let p2p := selectSums logs fun log =>
    log.userId = userId ∧ log.connectionType = "p2p" ∧ periodStart ≤ log.timestamp ∧
      log.timestamp ≤ periodEnd
  let relay := selectSums logs fun log =>
    log.userId = userId ∧ log.connectionType = "relay" ∧ periodStart ≤ log.timestamp ∧
      log.timestamp ≤ periodEnd
  ⟨total.1, total.2, p2p.1 + p2p.2, relay.1 + relay.2, periodStart, periodEnd⟩

/-- A row of the table of usage records; its value and its timestamp may be missing. -/
structure UsageRecord where
  userId : Uuid
  metricType : String
  value : Option Int
  timestamp : Option Nat
deriving DecidableEq

structure Metric where
  total : Option Int
  count : Nat
deriving DecidableEq

/-- The metrics by their type, as far as there are any. -/
structure UsageSummary where
  userId : Uuid
  periodStart : Nat
  periodEnd : Nat
  metrics : String → Option Metric

/-- What the database sums up: the values that are there, if any is. -/
def sqlSum (values : List (Option Int)) : Option Int :=
  match values.filterMap id with
  | [] => none
  | v :: rest => some (v :: rest).sum

def getUsageSummary (records : List UsageRecord) (userId : Uuid) (periodStart periodEnd : Nat) :
    UsageSummary where
  userId := userId
  periodStart := periodStart
  periodEnd := periodEnd
  metrics metric :=
    match records.filter fun r => r.userId = userId ∧
        r.timestamp.any (fun t => periodStart ≤ t ∧ t ≤ periodEnd) ∧ r.metricType = metric with
    | [] => none
    | r :: rest => some ⟨sqlSum ((r :: rest).map UsageRecord.value), (r :: rest).length⟩

/-- A metric that is not there has a total of nothing. -/
def UsageSummary.total (s : UsageSummary) (metric : String) : Int :=
  ((s.metrics metric).bind Metric.total).getD 0

def UsageSummary.count (s : UsageSummary) (metric : String) : Nat :=
  (s.metrics metric).elim 0 Metric.count

/-- What two periods have is what a third has. -/
structure TrafficSummary.Join (first second whole : TrafficSummary) : Prop where
  sent : first.totalBytesSent + second.totalBytesSent = whole.totalBytesSent
  received : first.totalBytesReceived + second.totalBytesReceived = whole.totalBytesReceived
  p2p : first.p2pBytes + second.p2pBytes = whole.p2pBytes
  relay : first.relayBytes + second.relayBytes = whole.relayBytes

structure UsageSummary.Join (first second whole : UsageSummary) : Prop where
  total : ∀ metric, first.total metric + second.total metric = whole.total metric
  count : ∀ metric, first.count metric + second.count metric = whole.count metric

def TrafficLog.bytes (log : TrafficLog) : Int := log.bytesSent + log.bytesReceived

section Adding
variable (logs : List TrafficLog) (records : List UsageRecord) (userId : Uuid) (a b c now : Nat)

/-- Two consecutive periods of a user have what both of them together have. -/
structure PeriodsAddUp : Prop where
  traffic : TrafficSummary.Join (getUserTrafficSummary logs userId (some a) (some b) now)
    (getUserTrafficSummary logs userId (some b) (some c) now)
    (getUserTrafficSummary logs userId (some a) (some c) now)
  usage : UsageSummary.Join (getUsageSummary records userId a b)
    (getUsageSummary records userId b c) (getUsageSummary records userId a c)

/-- The user's logs that are stamped with an instant. -/
def logsAt : List TrafficLog := logs.filter (fun log => log.userId = userId ∧ log.timestamp = b)

/-- What is stamped with an instant sums up to nothing. -/
structure NoTrafficAt : Prop where
  sent : ((logsAt logs userId b).map TrafficLog.bytesSent).sum = 0
  received : ((logsAt logs userId b).map TrafficLog.bytesReceived).sum = 0
  p2p : (((logsAt logs userId b).filter (fun log => log.connectionType = "p2p")).map
    TrafficLog.bytes).sum = 0
  relay : (((logsAt logs userId b).filter (fun log => log.connectionType = "relay")).map
    TrafficLog.bytes).sum = 0

def NoUsageAt : Prop := ∀ r ∈ records, r.userId = userId → r.timestamp ≠ some b

end Adding

section Traffic
variable {logs : List TrafficLog} {userId : Uuid} {a b c now : Nat}

def TrafficLog.stamp (log : TrafficLog) : Option Nat := some log.timestamp

def logsOf (logs : List TrafficLog) (userId : Uuid) : List TrafficLog :=
  logs.filter (fun log => log.userId = userId)

def logsOfType (logs : List TrafficLog) (userId : Uuid) (connectionType : String) :
    List TrafficLog :=
  (logsOf logs userId).filter (fun log => log.connectionType = connectionType)

theorem within_stamp (log : TrafficLog) :
    within a b log.stamp = decide (a ≤ log.timestamp ∧ log.timestamp ≤ b) := rfl

theorem selectSums_user (start finish : Nat) :
    selectSums logs (fun log => log.userId = userId ∧ start ≤ log.timestamp ∧
      log.timestamp ≤ finish) =
        (total TrafficLog.stamp TrafficLog.bytesSent (logsOf logs userId) start finish,
          total TrafficLog.stamp TrafficLog.bytesReceived (logsOf logs userId) start finish) := by
  have hfilter : logs.filter (fun log => log.userId = userId ∧ start ≤ log.timestamp ∧
      log.timestamp ≤ finish) =
        (logsOf logs userId).filter (fun log => within start finish log.stamp) := by
    rw [logsOf, List.filter_filter]
    apply List.filter_congr
    intro log _
    rw [within_stamp, ← Bool.decide_and]
    exact decide_eq_decide.mpr and_comm
  rw [selectSums, hfilter]
  rfl

theorem selectSums_type (connectionType : String) (start finish : Nat) :
    selectSums logs (fun log => log.userId = userId ∧ log.connectionType = connectionType ∧
      start ≤ log.timestamp ∧ log.timestamp ≤ finish) =
        (total TrafficLog.stamp TrafficLog.bytesSent (logsOfType logs userId connectionType) start
          finish, total TrafficLog.stamp TrafficLog.bytesReceived
            (logsOfType logs userId connectionType) start finish) := by
  have hfilter : logs.filter (fun log => log.userId = userId ∧
      log.connectionType = connectionType ∧ start ≤ log.timestamp ∧ log.timestamp ≤ finish) =
        (logsOfType logs userId connectionType).filter
          (fun log => within start finish log.stamp) := by
    rw [logsOfType, logsOf, List.filter_filter, List.filter_filter]
    apply List.filter_congr
    intro log _
    rw [within_stamp, ← Bool.decide_and, ← Bool.decide_and]
    exact decide_eq_decide.mpr (by tauto)
  rw [selectSums, hfilter]
  rfl

theorem total_bytes (rows : List TrafficLog) (start finish : Nat) :
    total TrafficLog.stamp TrafficLog.bytesSent rows start finish +
      total TrafficLog.stamp TrafficLog.bytesReceived rows start finish =
        total TrafficLog.stamp TrafficLog.bytes rows start finish := by
  rw [total, total, total, ← List.sum_map_add]
  rfl

theorem getUserTrafficSummary_eq (start finish : Nat) :
    getUserTrafficSummary logs userId (some start) (some finish) now =
      ⟨total TrafficLog.stamp TrafficLog.bytesSent (logsOf logs userId) start finish,
        total TrafficLog.stamp TrafficLog.bytesReceived (logsOf logs userId) start finish,
        total TrafficLog.stamp TrafficLog.bytes (logsOfType logs userId "p2p") start finish,
        total TrafficLog.stamp TrafficLog.bytes (logsOfType logs userId "relay") start finish,
        start, finish⟩ := by
  rw [getUserTrafficSummary]
  dsimp only [Option.getD_some]
  rw [selectSums_user, selectSums_type, selectSums_type, total_bytes, total_bytes]

theorem total_add_eq_iff {stamp : α → Option Nat} {value : α → Int} {rows : List α} (hab : a ≤ b)
    (hbc : b ≤ c) : total stamp value rows a b + total stamp value rows b c =
        total stamp value rows a c ↔
      ((rows.filter (fun x => stamp x = some b)).map value).sum = 0 := by
  rw [total_add_total hab hbc, ← total_self, add_eq_left]

theorem filter_logsOf : (logsOf logs userId).filter (fun log => log.stamp = some b) =
    logsAt logs userId b := by
  rw [logsOf, logsAt, List.filter_filter]
  apply List.filter_congr
  intro log _
  rw [← Bool.decide_and]
  apply decide_eq_decide.mpr
  rw [and_comm, TrafficLog.stamp, Option.some_inj]

theorem filter_logsOfType (connectionType : String) :
    (logsOfType logs userId connectionType).filter (fun log => log.stamp = some b) =
      (logsAt logs userId b).filter (fun log => log.connectionType = connectionType) := by
  rw [logsOfType, List.filter_filter, ← filter_logsOf, List.filter_filter]
  apply List.filter_congr
  intro log _
  rw [Bool.and_comm]

theorem traffic_join_iff (hab : a ≤ b) (hbc : b ≤ c) (now : Nat) :
    TrafficSummary.Join (getUserTrafficSummary logs userId (some a) (some b) now)
      (getUserTrafficSummary logs userId (some b) (some c) now)
      (getUserTrafficSummary logs userId (some a) (some c) now) ↔ NoTrafficAt logs userId b := by
  have hsum (value : TrafficLog → Int) (rows : List TrafficLog) :
      total TrafficLog.stamp value rows a b + total TrafficLog.stamp value rows b c =
        total TrafficLog.stamp value rows a c ↔
      ((rows.filter (fun log => log.stamp = some b)).map value).sum = 0 :=
    total_add_eq_iff hab hbc
  have huser := fun value => hsum value (logsOf logs userId)
  have htype := fun connectionType => hsum TrafficLog.bytes (logsOfType logs userId connectionType)
  simp only [filter_logsOf] at huser
  simp only [filter_logsOfType] at htype
  rw [getUserTrafficSummary_eq, getUserTrafficSummary_eq, getUserTrafficSummary_eq]
  constructor
  · intro h
    exact ⟨(huser _).mp h.sent, (huser _).mp h.received, (htype _).mp h.p2p, (htype _).mp h.relay⟩
  · intro h
    exact ⟨(huser _).mpr h.sent, (huser _).mpr h.received, (htype _).mpr h.p2p,
      (htype _).mpr h.relay⟩

end Traffic

section UsageTotals
variable {records : List UsageRecord} {userId : Uuid} {a b c : Nat}

def recordsOf (records : List UsageRecord) (userId : Uuid) (metric : String) : List UsageRecord :=
  records.filter (fun r => r.userId = userId ∧ r.metricType = metric)

/-- A value that is missing counts as nothing. -/
def UsageRecord.amount (r : UsageRecord) : Int := r.value.getD 0

theorem sqlSum_getD (values : List (Option Int)) :
    (sqlSum values).getD 0 = (values.map (fun v => v.getD 0)).sum := by
  have hsum : (values.filterMap id).sum = (values.map (fun v => v.getD 0)).sum := by
    induction values with
    | nil => rfl
    | cons v values ih =>
      rw [List.map_cons, List.sum_cons, ← ih]
      cases v with
      | none => exact (zero_add _).symm
      | some v => rfl
  rw [← hsum, sqlSum]
  split
  · next h => rw [h, Option.getD_none, List.sum_nil]
  · next h => rw [h, Option.getD_some]

theorem filter_records (metric : String) (start finish : Nat) :
    records.filter (fun r => r.userId = userId ∧
      r.timestamp.any (fun t => start ≤ t ∧ t ≤ finish) ∧ r.metricType = metric) =
        (recordsOf records userId metric).filter
          (fun r => within start finish r.timestamp) := by
  rw [recordsOf, List.filter_filter]
  apply List.filter_congr
  intro r _
  rw [within, Bool.eq_iff_iff, Bool.and_eq_true, decide_eq_true_eq, decide_eq_true_eq]
  tauto

theorem UsageSummary.total_eq (metric : String) (start finish : Nat) :
    (getUsageSummary records userId start finish).total metric =
      Periods.total UsageRecord.timestamp UsageRecord.amount (recordsOf records userId metric) start
        finish := by
  rw [Periods.total, ← filter_records, UsageSummary.total, getUsageSummary]
  dsimp only
  split
  · next h =>
    rw [h]
    rfl
  · next h =>
    rw [h]
    exact (sqlSum_getD _).trans (by rw [List.map_map]; rfl)

theorem UsageSummary.count_eq (metric : String) (start finish : Nat) :
    (getUsageSummary records userId start finish).count metric =
      Periods.total UsageRecord.timestamp (fun _ => 1) (recordsOf records userId metric) start
        finish := by
  rw [Periods.total, ← filter_records, List.map_const', List.sum_replicate_nat, mul_one,
    UsageSummary.count, getUsageSummary]
  dsimp only
  split
  · next h => rw [h]; rfl
  · next h => rw [h]; rfl

theorem filter_recordsOf_iff : (∀ metric, (recordsOf records userId metric).filter
    (fun r => r.timestamp = some b) = []) ↔ NoUsageAt records userId b := by
  simp only [List.filter_eq_nil_iff, recordsOf, List.mem_filter, decide_eq_true_eq]
  constructor
  · intro h r hr huser
    exact h r.metricType r ⟨hr, huser, rfl⟩
  · intro h metric r hr
    exact h r hr.1 hr.2.1

theorem usage_join_iff (hab : a ≤ b) (hbc : b ≤ c) :
    UsageSummary.Join (getUsageSummary records userId a b) (getUsageSummary records userId b c)
      (getUsageSummary records userId a c) ↔ NoUsageAt records userId b := by
  have hcount (metric : String) : (getUsageSummary records userId a b).count metric +
      (getUsageSummary records userId b c).count metric =
        (getUsageSummary records userId a c).count metric ↔
      (recordsOf records userId metric).filter (fun r => r.timestamp = some b) = [] := by
    rw [UsageSummary.count_eq, UsageSummary.count_eq, UsageSummary.count_eq,
      total_add_total hab hbc, add_eq_left, total_self, List.map_const',
      List.sum_replicate_nat, mul_one, List.length_eq_zero_iff]
  rw [← filter_recordsOf_iff]
  constructor
  · intro h metric
    exact (hcount metric).mp (h.count metric)
  · intro h
    constructor
    · intro metric
      rw [UsageSummary.total_eq, UsageSummary.total_eq, UsageSummary.total_eq,
        total_add_eq_iff hab hbc, h metric]
      rfl
    · intro metric
      exact (hcount metric).mpr (h metric)

end UsageTotals

theorem periods_add_up_iff {logs : List TrafficLog} {records : List UsageRecord} {userId : Uuid}
    {a b c now : Nat} (hab : a ≤ b) (hbc : b ≤ c) :
    PeriodsAddUp logs records userId a b c now ↔
      NoTrafficAt logs userId b ∧ NoUsageAt records userId b := by
  rw [← traffic_join_iff hab hbc now, ← usage_join_iff hab hbc]
  exact ⟨fun h => ⟨h.traffic, h.usage⟩, fun h => ⟨h.1, h.2⟩⟩

section Partition
variable {logs : List TrafficLog} {records : List UsageRecord} {userId : Uuid} {a z now : Nat}
  {cuts : List Nat}

theorem partition_counts_once (hsorted : (a :: (cuts ++ [z])).Pairwise (· ≤ ·))
    (htraffic : ∀ t ∈ cuts, NoTrafficAt logs userId t)
    (husage : ∀ t ∈ cuts, NoUsageAt records userId t) :
    (∀ field ∈ [TrafficSummary.totalBytesSent, TrafficSummary.totalBytesReceived,
      TrafficSummary.p2pBytes, TrafficSummary.relayBytes],
        consecutive (fun a b => field (getUserTrafficSummary logs userId (some a) (some b) now)) a
          (cuts ++ [z]) = field (getUserTrafficSummary logs userId (some a) (some z) now)) ∧
      ∀ metric, consecutive (fun a b => (getUsageSummary records userId a b).total metric) a
          (cuts ++ [z]) = (getUsageSummary records userId a z).total metric ∧
        consecutive (fun a b => (getUsageSummary records userId a b).count metric) a
          (cuts ++ [z]) = (getUsageSummary records userId a z).count metric := by
  have hlogs (value : TrafficLog → Int)
      (hzero : ∀ t ∈ cuts, ((logsAt logs userId t).map value).sum = 0) :
      consecutive (total TrafficLog.stamp value (logsOf logs userId)) a (cuts ++ [z]) =
        total TrafficLog.stamp value (logsOf logs userId) a z := by
    apply consecutive_total_eq hsorted
    intro t ht
    rw [total_self, filter_logsOf, hzero t ht]
  have htypes (connectionType : String) (hzero : ∀ t ∈ cuts, (((logsAt logs userId t).filter
      (fun log => log.connectionType = connectionType)).map TrafficLog.bytes).sum = 0) :
      consecutive (total TrafficLog.stamp TrafficLog.bytes (logsOfType logs userId connectionType))
        a (cuts ++ [z]) = total TrafficLog.stamp TrafficLog.bytes
          (logsOfType logs userId connectionType) a z := by
    apply consecutive_total_eq hsorted
    intro t ht
    rw [total_self, filter_logsOfType, hzero t ht]
  constructor
  · intro field hfield
    simp only [getUserTrafficSummary_eq]
    simp only [List.mem_cons, List.not_mem_nil, or_false] at hfield
    rcases hfield with rfl | rfl | rfl | rfl
    · exact hlogs _ (fun t ht => (htraffic t ht).sent)
    · exact hlogs _ (fun t ht => (htraffic t ht).received)
    · exact htypes "p2p" (fun t ht => (htraffic t ht).p2p)
    · exact htypes "relay" (fun t ht => (htraffic t ht).relay)
  · intro metric
    have hnone : ∀ t ∈ cuts, (recordsOf records userId metric).filter
        (fun r => r.timestamp = some t) = [] :=
      fun t ht => filter_recordsOf_iff.mpr (husage t ht) metric
    simp only [UsageSummary.total_eq, UsageSummary.count_eq]
    constructor
    · apply consecutive_total_eq hsorted
      intro t ht
      rw [total_self, hnone t ht]
      rfl
    · apply consecutive_total_eq hsorted
      intro t ht
      rw [total_self, hnone t ht]
      rfl

end Partition

/-- A log of the user 7 that is stamped with the instant 1. -/
def exampleLog : TrafficLog :=
  ⟨1, 7, 8, none, 10, 20, "p2p", none, ⟨0, true⟩, ⟨1, true⟩, 1⟩

def exampleRecord : UsageRecord := ⟨7, "api_request", some 1, some 1⟩

theorem periods_add_up_example : PeriodsAddUp [exampleLog] [exampleRecord] 7 0 2 3 3 :=
  (periods_add_up_iff (by decide) (by decide)).mpr
    ⟨⟨by decide, by decide, by decide, by decide⟩, by unfold NoUsageAt; decide⟩

/-- What is stamped where two periods meet counts in both. -/
theorem boundary_counted_twice :
    ¬ PeriodsAddUp [exampleLog] [] 7 0 1 2 2 ∧ ¬ PeriodsAddUp [] [exampleRecord] 7 0 1 2 2 := by
  constructor
  · intro h
    exact absurd h.traffic.sent (by decide)
  · intro h
    exact absurd (h.usage.count "api_request") (by decide)

end P2PMesh.Billing
