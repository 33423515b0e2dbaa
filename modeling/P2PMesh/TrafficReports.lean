import P2PMesh.Base.Table
import P2PMesh.Billing

namespace P2PMesh.Billing
open P2PMesh.Base
open P2PMesh.Usage (Uuid Datetime)
set_option autoImplicit true

/-- A report with the defaults of its fields; its numbers of bytes are not negative. -/
structure TrafficReport where
  deviceId : Uuid
  peerDeviceId : Option Uuid := none
  bytesSent : Nat
  bytesReceived : Nat
  connectionType : String := "p2p"
  relayNodeId : Option Uuid := none
  sessionStart : Option Datetime := none
  sessionEnd : Option Datetime := none
deriving DecidableEq

/-- A refusal with its status, a comparison of times with and without a zone, a number that is too
large for its column. -/
inductive TrafficError where
  | http (status : Nat) (detail : String)
  | typeError
  | overflow
deriving DecidableEq

structure TrafficSettings where
  maxTrafficReportBytes : Int

def TrafficSettings.default : TrafficSettings := ⟨10 * 1024 * 1024 * 1024⟩

def validateTrafficReport (cfg : TrafficSettings) (data : TrafficReport) :
    Except TrafficError Unit :=
  let maxBytes := cfg.maxTrafficReportBytes
  if maxBytes < data.bytesSent ∨ maxBytes < data.bytesReceived then
    .error (.http 400 ("Traffic report exceeds maximum of " ++ toString maxBytes ++ " bytes"))
  else if data.connectionType ≠ "p2p" ∧ data.connectionType ≠ "relay" then
    .error (.http 400 "connection_type must be 'p2p' or 'relay'")
  else
    match data.sessionStart, data.sessionEnd with
    | some start, some finish =>
      match start.after finish with
      | none => .error .typeError
      | some true => .error (.http 400 "session_start must be before session_end")
      | some false => .ok ()
    | _, _ => .ok ()

/-- The hexadecimal digits of an id in their groups. -/
def uuidText (u : Uuid) : String :=
  let hex := (List.range 32).map (fun i => Nat.digitChar (u.toNat / 16 ^ (31 - i) % 16))
  String.ofList (hex.take 8 ++ '-' :: (hex.drop 8).take 4 ++ '-' :: (hex.drop 12).take 4 ++
    '-' :: (hex.drop 16).take 4 ++ '-' :: hex.drop 20)

/-- The logs, and the id that the next one gets. -/
structure LogStore where
  logs : List TrafficLog
  nextId : Nat

/-- What an endpoint returns or raises, and the logs as its transaction leaves them. -/
abbrev Outcome (α : Type) := Except TrafficError α × LogStore

def logOf (id : Nat) (userId : Uuid) (r : TrafficReport) (now : Nat) : TrafficLog where
  id := id
  userId := userId
  deviceId := r.deviceId
  peerDeviceId := r.peerDeviceId
  bytesSent := r.bytesSent
  bytesReceived := r.bytesReceived
  connectionType := r.connectionType
  relayNodeId := r.relayNodeId
  sessionStart := r.sessionStart.getD ⟨now, true⟩
  sessionEnd := r.sessionEnd.getD ⟨now, true⟩
  timestamp := now

/-- The function of the billing service that adds a log. -/
def LogStore.reportTraffic (store : LogStore) (userId : Uuid) (r : TrafficReport) (now : Nat) :
    Outcome TrafficLog :=
  if 2 ^ 63 ≤ r.bytesSent ∨ 2 ^ 63 ≤ r.bytesReceived then (.error .overflow, store)
  else
    (.ok (logOf store.nextId userId r now),
      ⟨store.logs ++ [logOf store.nextId userId r now], store.nextId + 1⟩)

/-- The session of a request: whatever it raises takes back the logs, but not the ids. -/
def getDb (store : LogStore) (endpoint : LogStore → Outcome α) : Outcome α :=
  match endpoint store with
  | (.ok a, store') => (.ok a, store')
  | (.error e, store') => (.error e, { store' with logs := store.logs })

section Endpoints
variable (cfg : TrafficSettings) (devices : Std.TreeMap Uuid Uuid) (userId : Uuid)

/-- A device is in the table with the user as its owner. -/
def owns (deviceId : Uuid) : Bool := devices[deviceId]? = some userId

def reportTraffic (data : TrafficReport) (now : Nat) (store : LogStore) : Outcome Nat :=
  match validateTrafficReport cfg data with
  | .error e => (.error e, store)
  | .ok () =>
    if owns devices userId data.deviceId = false then
      (.error (.http 403 "Device not found or does not belong to you"), store)
    else
      match store.reportTraffic userId data now with
      | (.error e, store') => (.error e, store')
      | (.ok log, store') => (.ok log.id, store')

/-- The checks of a report in a batch. -/
def checkReport (report : TrafficReport) : Except TrafficError Unit :=
  match validateTrafficReport cfg report with
  | .error e => .error e
  | .ok () =>
    if owns devices userId report.deviceId = false then
      .error (.http 403
        ("Device " ++ uuidText report.deviceId ++ " not found or does not belong to you"))
    else
      match report.peerDeviceId with
      | none => .ok ()
      | some peerDeviceId =>
        if owns devices userId peerDeviceId = false then
          .error (.http 403
            ("Peer device " ++ uuidText peerDeviceId ++ " not found or does not belong to you"))
        else .ok ()

/-- The loop of a batch over its reports, each with the time at which it is recorded. -/
def batchLoop (clock : Nat → Nat) (count : Nat) : List TrafficReport → LogStore → Outcome Nat
  | [], store => (.ok count, store)
  | report :: reports, store =>
    match checkReport cfg devices userId report with
    | .error e => (.error e, store)
    | .ok () =>
      match store.reportTraffic userId report (clock count) with
      | (.error e, store') => (.error e, store')
      | (.ok _, store') => batchLoop clock (count + 1) reports store'

def reportTrafficBatch (reports : List TrafficReport) (clock : Nat → Nat) (store : LogStore) :
    Outcome Nat :=
  if 100 < reports.length then (.error (.http 400 "Maximum 100 reports per batch"), store)
  else batchLoop cfg devices userId clock 0 reports store

/-- The reports one by one, each in a request of its own: what each returns or raises, and the logs
in the end. -/
def reportEach (clock : Nat → Nat) (count : Nat) :
    List TrafficReport → LogStore → List (Except TrafficError Nat) × LogStore
  | [], store => ([], store)
  | report :: reports, store =>
    let first := getDb store (reportTraffic cfg devices userId report (clock count))
    let rest := reportEach clock (count + 1) reports first.2
    (first.1 :: rest.1, rest.2)

end Endpoints

/-- Two logs say the same but for when they were recorded, which stands in for the ends of a session
that are not reported. -/
structure TrafficLog.SameButForTimes (log log' : TrafficLog) : Prop where
  id : log.id = log'.id
  userId : log.userId = log'.userId
  deviceId : log.deviceId = log'.deviceId
  peerDeviceId : log.peerDeviceId = log'.peerDeviceId
  bytesSent : log.bytesSent = log'.bytesSent
  bytesReceived : log.bytesReceived = log'.bytesReceived
  connectionType : log.connectionType = log'.connectionType
  relayNodeId : log.relayNodeId = log'.relayNodeId
  sessionStart : log.sessionStart = log'.sessionStart ∨
    log.sessionStart = ⟨log.timestamp, true⟩ ∧ log'.sessionStart = ⟨log'.timestamp, true⟩
  sessionEnd : log.sessionEnd = log'.sessionEnd ∨
    log.sessionEnd = ⟨log.timestamp, true⟩ ∧ log'.sessionEnd = ⟨log'.timestamp, true⟩

section Agreement
variable (cfg : TrafficSettings) (devices : Std.TreeMap Uuid Uuid) (userId : Uuid)
  (reports : List TrafficReport) (clock clock' : Nat → Nat) (store : LogStore)

/-- The batch as a request, and what the single requests for its reports come to. -/
def batchOutcome : Outcome Nat :=
  getDb store (reportTrafficBatch cfg devices userId reports clock)

def eachOutcome : List (Except TrafficError Nat) × LogStore :=
  reportEach cfg devices userId clock' 0 reports store

/-- A batch is accepted where every single report is, with the same logs, and a batch that is
rejected leaves none. -/
structure BatchAgrees : Prop where
  accepts : (batchOutcome cfg devices userId reports clock store).1.isOk = true ↔
    ∀ result ∈ (eachOutcome cfg devices userId reports clock' store).1, result.isOk = true
  sameLogs : (batchOutcome cfg devices userId reports clock store).1.isOk = true →
    (batchOutcome cfg devices userId reports clock store).2.logs.Forall₂
      TrafficLog.SameButForTimes (eachOutcome cfg devices userId reports clock' store).2.logs
  keepsNone : (batchOutcome cfg devices userId reports clock store).1.isOk = false →
    (batchOutcome cfg devices userId reports clock store).2.logs = store.logs

end Agreement

section Acceptance
variable (cfg : TrafficSettings) (devices : Std.TreeMap Uuid Uuid) (userId : Uuid)

/-- A report that is valid, of a device of the user, and fits the columns. -/
structure Acceptable (r : TrafficReport) : Prop where
  valid : validateTrafficReport cfg r = .ok ()
  owned : owns devices userId r.deviceId = true
  sent : r.bytesSent < 2 ^ 63
  received : r.bytesReceived < 2 ^ 63

def OwnsPeer (r : TrafficReport) : Prop :=
  ∀ peerDeviceId, r.peerDeviceId = some peerDeviceId → owns devices userId peerDeviceId = true

/-- The logs with that of a report. -/
def LogStore.add (store : LogStore) (r : TrafficReport) (now : Nat) : LogStore :=
  ⟨store.logs ++ [logOf store.nextId userId r now], store.nextId + 1⟩

def LogStore.addAll (store : LogStore) (clock : Nat → Nat) (count : Nat) :
    List TrafficReport → LogStore
  | [] => store
  | r :: reports => (store.add userId r (clock count)).addAll clock (count + 1) reports

variable {cfg devices userId} {r : TrafficReport} {store store' : LogStore} {now count : Nat}
  {reports : List TrafficReport} {clock clock' : Nat → Nat}

theorem Acceptable.store_reportTraffic (h : Acceptable cfg devices userId r) (store : LogStore)
    (now : Nat) : store.reportTraffic userId r now =
      (.ok (logOf store.nextId userId r now), store.add userId r now) := by
  rw [LogStore.reportTraffic, if_neg]
  · rfl
  · rintro (hsent | hreceived)
    · exact absurd h.sent (Nat.not_lt.mpr hsent)
    · exact absurd h.received (Nat.not_lt.mpr hreceived)

theorem Acceptable.reportTraffic (h : Acceptable cfg devices userId r) (now : Nat)
    (store : LogStore) : reportTraffic cfg devices userId r now store =
      (.ok store.nextId, store.add userId r now) := by
  rw [Billing.reportTraffic, h.valid]
  dsimp only
  rw [h.owned, if_neg Bool.false_ne_true.symm, h.store_reportTraffic]
  rfl

theorem reportTraffic_of_not_acceptable (h : ¬ Acceptable cfg devices userId r) (now : Nat)
    (store : LogStore) : ∃ e, reportTraffic cfg devices userId r now store = (.error e, store) := by
  rw [reportTraffic]
  cases hvalid : validateTrafficReport cfg r with
  | error e => exact ⟨e, rfl⟩
  | ok u =>
    cases howned : owns devices userId r.deviceId with
    | false => exact ⟨_, rfl⟩
    | true =>
      have hlarge : 2 ^ 63 ≤ r.bytesSent ∨ 2 ^ 63 ≤ r.bytesReceived := by
        by_contra hfits
        rw [not_or, Nat.not_le, Nat.not_le] at hfits
        exact h ⟨hvalid, howned, hfits.1, hfits.2⟩
      rw [LogStore.reportTraffic, if_pos hlarge]
      exact ⟨_, rfl⟩

theorem checkReport_ok_iff : checkReport cfg devices userId r = .ok () ↔
    validateTrafficReport cfg r = .ok () ∧ owns devices userId r.deviceId = true ∧
      OwnsPeer devices userId r := by
  rw [checkReport]
  cases hvalid : validateTrafficReport cfg r with
  | error e => exact iff_of_false (fun h => by cases h) (fun h => by cases h.1)
  | ok u =>
    rw [and_iff_right rfl]
    cases howned : owns devices userId r.deviceId with
    | false => exact iff_of_false (fun h => by cases h) (fun h => by cases h.1)
    | true =>
      rw [and_iff_right rfl, OwnsPeer]
      dsimp only
      rw [if_neg Bool.true_eq_false.mp]
      cases hpeer : r.peerDeviceId with
      | none => exact iff_of_true rfl (fun peer h => by cases h)
      | some peer =>
        dsimp only
        split
        · next hown =>
          refine iff_of_false (fun h => by cases h) (fun h => ?_)
          rw [h peer rfl] at hown
          cases hown
        · next hown =>
          refine iff_of_true rfl ?_
          rintro peer' h
          cases h
          exact Bool.of_not_eq_false hown

theorem batchLoop_eq (h : ∀ r ∈ reports, Acceptable cfg devices userId r ∧
    OwnsPeer devices userId r) (clock : Nat → Nat) (count : Nat) (store : LogStore) :
    batchLoop cfg devices userId clock count reports store =
      (.ok (count + reports.length), store.addAll userId clock count reports) := by
  induction reports generalizing count store with
  | nil => rfl
  | cons r reports ih =>
    obtain ⟨hr, hpeer⟩ := h r List.mem_cons_self
    rw [batchLoop, checkReport_ok_iff.mpr ⟨hr.valid, hr.owned, hpeer⟩]
    dsimp only
    rw [hr.store_reportTraffic]
    dsimp only
    rw [ih (fun r hr => h r (List.mem_cons_of_mem _ hr)), LogStore.addAll, List.length_cons,
      Nat.add_assoc, Nat.add_comm 1]

theorem batchLoop_isOk_iff (clock : Nat → Nat) (count : Nat) (store : LogStore) :
    (batchLoop cfg devices userId clock count reports store).1.isOk = true ↔
      ∀ r ∈ reports, Acceptable cfg devices userId r ∧ OwnsPeer devices userId r := by
  constructor
  · intro h
    induction reports generalizing count store with
    | nil => exact fun r hr => (List.not_mem_nil hr).elim
    | cons r reports ih =>
      rw [batchLoop] at h
      split at h
      · cases h
      · next hcheck =>
        obtain ⟨hvalid, howned, hpeer⟩ := checkReport_ok_iff.mp hcheck
        rw [LogStore.reportTraffic] at h
        split at h
        · cases h
        · next hadded =>
          split at hadded
          · cases hadded
          · next hfits =>
            cases hadded
            rw [not_or, Nat.not_le, Nat.not_le] at hfits
            intro r' hr'
            rcases List.mem_cons.mp hr' with rfl | hr'
            · exact ⟨⟨hvalid, howned, hfits.1, hfits.2⟩, hpeer⟩
            · exact ih _ _ h r' hr'
  · intro h
    rw [batchLoop_eq h]
    rfl

theorem reportEach_eq (h : ∀ r ∈ reports, Acceptable cfg devices userId r) (clock : Nat → Nat)
    (count : Nat) (store : LogStore) :
    (reportEach cfg devices userId clock count reports store).2 =
      store.addAll userId clock count reports := by
  induction reports generalizing count store with
  | nil => rfl
  | cons r reports ih =>
    have hfirst : getDb store (Billing.reportTraffic cfg devices userId r (clock count)) =
        (.ok store.nextId, store.add userId r (clock count)) := by
      rw [getDb, (h r List.mem_cons_self).reportTraffic]
    rw [reportEach, hfirst, LogStore.addAll]
    exact ih (fun r hr => h r (List.mem_cons_of_mem _ hr)) _ _

theorem reportEach_isOk_iff (clock : Nat → Nat) (count : Nat) (store : LogStore) :
    (∀ result ∈ (reportEach cfg devices userId clock count reports store).1,
      result.isOk = true) ↔ ∀ r ∈ reports, Acceptable cfg devices userId r := by
  induction reports generalizing count store with
  | nil =>
    exact iff_of_true (fun _ hr => (List.not_mem_nil hr).elim)
      (fun _ hr => (List.not_mem_nil hr).elim)
  | cons r reports ih =>
    rw [reportEach]
    dsimp only
    rw [List.forall_mem_cons, List.forall_mem_cons, ih]
    refine and_congr_left' ?_
    by_cases hr : Acceptable cfg devices userId r
    · rw [getDb, hr.reportTraffic]
      exact iff_of_true rfl hr
    · obtain ⟨e, he⟩ := reportTraffic_of_not_acceptable hr (clock count) store
      rw [getDb, he]
      exact iff_of_false Bool.false_ne_true hr

theorem logOf_sameButForTimes (id : Nat) (userId : Uuid) (r : TrafficReport) (now now' : Nat) :
    (logOf id userId r now).SameButForTimes (logOf id userId r now') where
  id := rfl
  userId := rfl
  deviceId := rfl
  peerDeviceId := rfl
  bytesSent := rfl
  bytesReceived := rfl
  connectionType := rfl
  relayNodeId := rfl
  sessionStart := by
    change r.sessionStart.getD _ = r.sessionStart.getD _ ∨
      r.sessionStart.getD _ = _ ∧ r.sessionStart.getD _ = _
    cases r.sessionStart with
    | none => exact .inr ⟨rfl, rfl⟩
    | some start => exact .inl rfl
  sessionEnd := by
    change r.sessionEnd.getD _ = r.sessionEnd.getD _ ∨
      r.sessionEnd.getD _ = _ ∧ r.sessionEnd.getD _ = _
    cases r.sessionEnd with
    | none => exact .inr ⟨rfl, rfl⟩
    | some finish => exact .inl rfl

theorem TrafficLog.SameButForTimes.refl (log : TrafficLog) : log.SameButForTimes log :=
  ⟨rfl, rfl, rfl, rfl, rfl, rfl, rfl, rfl, .inl rfl, .inl rfl⟩

theorem addAll_sameButForTimes (hid : store.nextId = store'.nextId)
    (hlogs : store.logs.Forall₂ TrafficLog.SameButForTimes store'.logs) (count : Nat) :
    (store.addAll userId clock count reports).logs.Forall₂ TrafficLog.SameButForTimes
      (store'.addAll userId clock' count reports).logs := by
  induction reports generalizing store store' count with
  | nil => exact hlogs
  | cons r reports ih =>
    apply ih
    · exact congrArg Nat.succ hid
    · apply List.rel_append hlogs
      rw [hid]
      exact .cons (logOf_sameButForTimes _ _ _ _ _) .nil

variable (cfg devices userId reports clock clock' store)

theorem batchOutcome_isOk_iff (hcount : reports.length ≤ 100) :
    (batchOutcome cfg devices userId reports clock store).1.isOk = true ↔
      ∀ r ∈ reports, Acceptable cfg devices userId r ∧ OwnsPeer devices userId r := by
  rw [← batchLoop_isOk_iff clock 0 store, batchOutcome, getDb, reportTrafficBatch,
    if_neg (Nat.not_lt.mpr hcount)]
  split
  · next h => rw [h]
  · next h => rw [h]

theorem batchOutcome_keepsNone
    (h : (batchOutcome cfg devices userId reports clock store).1.isOk = false) :
    (batchOutcome cfg devices userId reports clock store).2.logs = store.logs := by
  rw [batchOutcome, getDb] at h ⊢
  split
  · next hresult =>
    rw [hresult] at h
    cases h
  · rfl

theorem batchOutcome_eq (hcount : reports.length ≤ 100)
    (h : ∀ r ∈ reports, Acceptable cfg devices userId r ∧ OwnsPeer devices userId r) :
    (batchOutcome cfg devices userId reports clock store).2 =
      store.addAll userId clock 0 reports := by
  rw [batchOutcome, getDb, reportTrafficBatch, if_neg (Nat.not_lt.mpr hcount), batchLoop_eq h]

end Acceptance

theorem batch_agrees_iff {cfg : TrafficSettings} {devices : Std.TreeMap Uuid Uuid} {userId : Uuid}
    {reports : List TrafficReport} {clock clock' : Nat → Nat} {store : LogStore}
    (hcount : reports.length ≤ 100) :
    BatchAgrees cfg devices userId reports clock clock' store ↔
      (∃ r ∈ reports, ¬ Acceptable cfg devices userId r) ∨
        ∀ r ∈ reports, OwnsPeer devices userId r := by
  constructor
  · intro h
    by_cases hall : ∀ r ∈ reports, Acceptable cfg devices userId r
    · right
      have hbatch := (batchOutcome_isOk_iff cfg devices userId store reports clock hcount).mp
        (h.accepts.mpr ((reportEach_isOk_iff clock' 0 store).mpr hall))
      exact fun r hr => (hbatch r hr).2
    · left
      push Not at hall
      exact hall
  · intro h
    have hiff : (∀ r ∈ reports, Acceptable cfg devices userId r ∧ OwnsPeer devices userId r) ↔
        ∀ r ∈ reports, Acceptable cfg devices userId r := by
      refine ⟨fun hboth r hr => (hboth r hr).1, fun hall r hr => ⟨hall r hr, ?_⟩⟩
      rcases h with ⟨r', hr', hnot⟩ | hpeers
      · exact (hnot (hall r' hr')).elim
      · exact hpeers r hr
    constructor
    · rw [batchOutcome_isOk_iff cfg devices userId store reports clock hcount, eachOutcome,
        reportEach_isOk_iff, hiff]
    · intro hok
      have hboth := (batchOutcome_isOk_iff cfg devices userId store reports clock hcount).mp hok
      rw [batchOutcome_eq cfg devices userId store reports clock hcount hboth, eachOutcome,
        reportEach_eq (hiff.mp hboth)]
      exact addAll_sameButForTimes rfl (List.forall₂_same.mpr fun log _ => .refl log) 0
    · exact batchOutcome_keepsNone cfg devices userId store reports clock

/-- The device 1 of the user 7 and the device 2 of another one. -/
def exampleDevices : Std.TreeMap Uuid Uuid := (Std.TreeMap.empty.insert 1 7).insert 2 9

def exampleReport (peer : Option Uuid) : TrafficReport where
  deviceId := 1
  peerDeviceId := peer
  bytesSent := 10
  bytesReceived := 20

theorem batch_agrees_own_peer : BatchAgrees .default exampleDevices 7
    [exampleReport none, exampleReport (some 1)] id id ⟨[], 1⟩ := by
  refine (batch_agrees_iff (by decide)).mpr (.inr ?_)
  intro r hr peer hpeer
  simp only [List.mem_cons, List.not_mem_nil, or_false] at hr
  rcases hr with rfl | rfl
  · cases hpeer
  · cases hpeer
    decide +kernel

/-- A report whose peer is another user's device is accepted alone and refused in a batch. -/
theorem foreign_peer_accepted_alone :
    ¬ BatchAgrees .default exampleDevices 7 [exampleReport (some 2)] id id ⟨[], 1⟩ := by
  intro h
  have heach : ∀ result ∈ (eachOutcome .default exampleDevices 7 [exampleReport (some 2)] id
      ⟨[], 1⟩).1, result.isOk = true := by decide +kernel
  exact absurd (h.accepts.mpr heach) (by decide +kernel)

end P2PMesh.Billing
