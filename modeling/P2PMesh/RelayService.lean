import Mathlib.Algebra.Order.Field.Rat
import P2PMesh.Base.Run
import P2PMesh.Base.Table

namespace P2PMesh.RelayService
open P2PMesh.Base
set_option autoImplicit true

abbrev Uuid := BitVec 128

def RelayStatus.online : String := "online"
def RelayStatus.offline : String := "offline"
def RelayStatus.maintenance : String := "maintenance"
def RelayStatus.overloaded : String := "overloaded"

/-- A row without its key. Numbers with a point are of any type that has their operations. -/
structure RelayNode (F : Type) where
  name : String
  ip : String
  port : Int
  region : String
  load : F
  maxCapacity : Int
  currentConnections : Int
  status : String
  publicKey : Option String
  bandwidthCapacityMbps : F
  bandwidthUsedMbps : F
  lastHeartbeat : Int

abbrev RelayNodes (F : Type) := Std.TreeMap Uuid (RelayNode F)

/-- The interval is in seconds; instants are in microseconds. -/
structure Settings (F : Type) where
  relayMaxLoad : F
  relayCleanupInterval : Int

inductive RelayError where
  | valueError (text : String)
  | multipleResultsFound
  | integrityError
deriving DecidableEq

/-- What a relay reports of itself in a heartbeat. -/
structure Heartbeat (F : Type) where
  load : F
  currentConnections : Int
  bandwidthUsedMbps : F

/-- What a row is made of: its name, its address and what it can bear. -/
structure Registration (F : Type) where
  name : String
  ip : String
  port : Int
  region : String
  publicKey : Option String
  maxCapacity : Int
  bandwidthCapacityMbps : F

def scalarOneOrNone : List α → Except RelayError (Option α)
  | [] => .ok none
  | [a] => .ok (some a)
  | _ => .error .multipleResultsFound

section Rows
variable {F : Type}

def RelayNodes.named (db : RelayNodes F) (name : String) : List (Uuid × RelayNode F) :=
  db.toList.filter (fun e => e.2.name = name)

def RelayNodes.addressed (db : RelayNodes F) (ip : String) (port : Int) :
    List (Uuid × RelayNode F) :=
  db.toList.filter (fun e => e.2.ip = ip ∧ e.2.port = port)

/-- The row as it is inserted, with the defaults of its other columns. -/
def Registration.node [OfScientific F] (r : Registration F) (now : Int) : RelayNode F where
  name := r.name
  ip := r.ip
  port := r.port
  region := r.region
  load := 0.0
  maxCapacity := r.maxCapacity
  currentConnections := 0
  status := RelayStatus.online
  publicKey := r.publicKey
  bandwidthCapacityMbps := r.bandwidthCapacityMbps
  bandwidthUsedMbps := 0.0
  lastHeartbeat := now

def Settings.statusOf [LT F] [DecidableLT F] (settings : Settings F) (load : F) : String :=
  if settings.relayMaxLoad < load then RelayStatus.overloaded else RelayStatus.online

/-- Both heartbeats write these columns, and no other. -/
def RelayNode.beat [LT F] [DecidableLT F] (r : RelayNode F) (settings : Settings F)
    (beat : Heartbeat F) (now : Int) : RelayNode F :=
  { r with
    load := beat.load
    currentConnections := beat.currentConnections
    bandwidthUsedMbps := beat.bandwidthUsedMbps
    lastHeartbeat := now
    status := settings.statusOf beat.load }

def RelayNodes.beat [LT F] [DecidableLT F] (db : RelayNodes F) (settings : Settings F)
    (relayId : Uuid) (beat : Heartbeat F) (now : Int) : RelayNodes F :=
  db.modify relayId (fun relay => relay.beat settings beat now)

end Rows

section Service
variable {F : Type} [OfScientific F] [LT F] [DecidableLT F] (settings : Settings F)
  (db : RelayNodes F)

/-- An insertion under a key that is there fails. -/
def RelayNodes.add (id : Uuid) (node : RelayNode F) : Except RelayError (RelayNodes F) :=
  match db[id]? with
  | some _ => .error .integrityError
  | none => .ok (db.insert id node)

def registerRelay (id : Uuid) (r : Registration F) (now : Int) :
    Except RelayError (RelayNodes F) :=
  match scalarOneOrNone (db.addressed r.ip r.port) with
  | .error e => .error e
  | .ok (some _) =>
    .error (.valueError ("Relay node " ++ r.ip ++ ":" ++ toString r.port ++ " already exists"))
  | .ok none => db.add id (r.node now)

def updateHeartbeat (relayId : Uuid) (beat : Heartbeat F) (now : Int) :
    Except RelayError (RelayNodes F) :=
  match db[relayId]? with
  | none => .error (.valueError "Relay node not found")
  | some _ => .ok (db.beat settings relayId beat now)

def heartbeatByName (id : Uuid) (r : Registration F) (beat : Heartbeat F) (now : Int) :
    Except RelayError (RelayNodes F) :=
  match scalarOneOrNone (db.named r.name) with
  | .error e => .error e
  | .ok (some (relayId, _)) => .ok (db.beat settings relayId beat now)
  | .ok none => db.add id (RelayNode.beat (r.node now) settings beat now)

def setRelayStatus (relayId : Uuid) (status : String) : Except RelayError (RelayNodes F) :=
  match db[relayId]? with
  | none => .error (.valueError "Relay node not found")
  | some relay => .ok (db.insert relayId { relay with status := status })

def deleteRelay (relayId : Uuid) : Except RelayError (RelayNodes F) :=
  match db[relayId]? with
  | none => .error (.valueError "Relay node not found")
  | some _ => .ok (db.erase relayId)

def cleanupStaleRelays (now : Int) : RelayNodes F :=
  let staleThreshold := now - settings.relayCleanupInterval * 1000000
  db.map fun _ relay =>
    if relay.lastHeartbeat < staleThreshold ∧ relay.status ≠ RelayStatus.maintenance then
      { relay with status := RelayStatus.offline }
    else relay

end Service

section Selection
variable {F : Type} [Add F] [Sub F] [Mul F] [Div F] [OfScientific F] [IntCast F] [LT F]

/-- A query gives the rows that meet its condition in an order that its key allows; among equal
keys any order will do. -/
structure QueryGives (db : RelayNodes F) (p : RelayNode F → Bool)
    (before : RelayNode F → RelayNode F → Prop) (rows : List (Uuid × RelayNode F)) : Prop where
  perm : rows.Perm (db.toList.filter (fun e => p e.2))
  ordered : rows.Pairwise (fun a b => ¬ before b.2 a.2)

/-- The empty region stands for all of them, as none does. -/
def inRegion (region : Option String) (relay : RelayNode F) : Bool :=
  match region with
  | none => true
  | some region => region = "" ∨ relay.region = region

def RelayNode.isOnline (relay : RelayNode F) : Bool := relay.status = RelayStatus.online

def RelayNode.byLoad (a b : RelayNode F) : Prop := a.load < b.load

def RelayNode.byLoadAndBandwidth (a b : RelayNode F) : Prop :=
  a.load < b.load ∨ ¬ b.load < a.load ∧ a.bandwidthUsedMbps < b.bandwidthUsedMbps

variable [DecidableLT F]

/-- The first of the elements with the largest key. -/
def maxOn (key : α → F) : List α → Option α
  | [] => none
  | a :: l => some (l.foldl (fun best b => if key best < key b then b else best) a)

def RelayNode.score (relay : RelayNode F) : F :=
  let loadScore := 1.0 - relay.load
  let bwScore : F :=
    if 0.0 < relay.bandwidthCapacityMbps then
      1.0 - relay.bandwidthUsedMbps / relay.bandwidthCapacityMbps
    else 0.0
  let capScore : F :=
    if 0 < relay.maxCapacity then
      1.0 - (relay.currentConnections : F) / (relay.maxCapacity : F)
    else 0.0
  loadScore * 0.5 + bwScore * 0.3 + capScore * 0.2

/-- The relay service takes all relays of a region, by load. -/
def selectBestRelay (relays : List (Uuid × RelayNode F)) : Option (Uuid × RelayNode F) :=
  maxOn (fun e => e.2.score) (relays.filter (fun e => e.2.isOnline))

def RelayNode.scoreRelay (relay : RelayNode F) : F :=
  let score := 0.0 + (1.0 - relay.load) * 50.0
  let available := relay.bandwidthCapacityMbps - relay.bandwidthUsedMbps
  let score :=
    if 0.0 < relay.bandwidthCapacityMbps then
      score + available / relay.bandwidthCapacityMbps * 30.0
    else score
  if 0 < relay.maxCapacity then
    score + (1.0 - (relay.currentConnections : F) / (relay.maxCapacity : F)) * 20.0
  else score

/-- The control plane takes the online relays, by load and used bandwidth, and keeps three. -/
def selectBestRelayForPath (relays : List (Uuid × RelayNode F)) : Option (Uuid × RelayNode F) :=
  maxOn (fun e => e.2.scoreRelay) (relays.take 3)

/-- One of the two services may select the relay. -/
def Selectable (db : RelayNodes F) (id : Uuid) : Prop :=
  (∃ region relays relay, QueryGives db (inRegion region) RelayNode.byLoad relays ∧
    selectBestRelay relays = some (id, relay)) ∨
  ∃ relays relay, QueryGives db RelayNode.isOnline RelayNode.byLoadAndBandwidth relays ∧
    selectBestRelayForPath relays = some (id, relay)

end Selection

section Maintenance
variable {F : Type}

/-- The relays, with those that an administrator has put in maintenance and nobody with
`set_relay_status` has taken out of it. -/
structure MaintenanceHistory (F : Type) where
  db : RelayNodes F
  held : List Uuid

def MaintenanceHistory.start (db : RelayNodes F) : MaintenanceHistory F := ⟨db, []⟩

/-- A call with what it draws: the key of a new row and the time. -/
inductive RelayOp (F : Type) where
  | registerRelay (id : Uuid) (r : Registration F) (now : Int)
  | updateHeartbeat (relayId : Uuid) (beat : Heartbeat F) (now : Int)
  | heartbeatByName (id : Uuid) (r : Registration F) (beat : Heartbeat F) (now : Int)
  | setRelayStatus (relayId : Uuid) (status : String)
  | deleteRelay (relayId : Uuid)
  | cleanupStaleRelays (now : Int)

/-- A call that fails is rolled back. -/
def RelayNodes.after (db : RelayNodes F) (result : Except RelayError (RelayNodes F)) :
    RelayNodes F :=
  match result with
  | .ok db' => db'
  | .error _ => db

def RelayNodes.step [OfScientific F] [LT F] [DecidableLT F] (db : RelayNodes F)
    (settings : Settings F) : RelayOp F → RelayNodes F
  | .registerRelay id r now => db.after (registerRelay db id r now)
  | .updateHeartbeat relayId beat now => db.after (updateHeartbeat settings db relayId beat now)
  | .heartbeatByName id r beat now => db.after (heartbeatByName settings db id r beat now)
  | .setRelayStatus relayId status => db.after (setRelayStatus db relayId status)
  | .deleteRelay relayId => db.after (deleteRelay db relayId)
  | .cleanupStaleRelays now => cleanupStaleRelays settings db now

def MaintenanceHistory.heldAfter (h : MaintenanceHistory F) : RelayOp F → List Uuid
  | .setRelayStatus relayId status =>
    match h.db[relayId]? with
    | none => h.held
    | some _ =>
      if status = RelayStatus.maintenance then relayId :: h.held
      else h.held.filter (fun id => id ≠ relayId)
  | .deleteRelay relayId => h.held.filter (fun id => id ≠ relayId)
  | _ => h.held

def MaintenanceHistory.step [OfScientific F] [LT F] [DecidableLT F] (settings : Settings F)
    (h : MaintenanceHistory F) (op : RelayOp F) : MaintenanceHistory F :=
  ⟨h.db.step settings op, h.heldAfter op⟩

def MaintenanceHistory.run [OfScientific F] [LT F] [DecidableLT F] (settings : Settings F)
    (h : MaintenanceHistory F) (ops : List (RelayOp F)) : MaintenanceHistory F :=
  ops.foldl (MaintenanceHistory.step settings) h

/-- A relay that is held in maintenance has that status, and no service selects it. -/
structure MaintenanceHistory.Holds [Add F] [Sub F] [Mul F] [Div F] [OfScientific F] [IntCast F]
    [LT F] [DecidableLT F] (h : MaintenanceHistory F) : Prop where
  maintained : ∀ id ∈ h.held, (h.db[id]?).map RelayNode.status = some RelayStatus.maintenance
  unselected : ∀ id ∈ h.held, ¬ Selectable h.db id

/-- No heartbeat is of a relay that is held in maintenance. -/
def MaintenanceHistory.Spares (h : MaintenanceHistory F) : RelayOp F → Prop
  | .updateHeartbeat relayId _ _ => relayId ∉ h.held
  | .heartbeatByName _ r _ _ => ∀ e, h.db.named r.name = [e] → e.1 ∉ h.held
  | _ => True

end Maintenance

section Selected
variable {F : Type} {db : RelayNodes F} {rows : List (Uuid × RelayNode F)} {id : Uuid}
  {relay : RelayNode F}

theorem QueryGives.mem {p : RelayNode F → Bool} {before : RelayNode F → RelayNode F → Prop}
    (hq : QueryGives db p before rows) (h : (id, relay) ∈ rows) :
    db[id]? = some relay ∧ p relay = true := by
  have hmem := List.mem_filter.mp (hq.perm.mem_iff.mp h)
  exact ⟨Std.TreeMap.mem_toList_iff_getElem?_eq_some.mp hmem.1, hmem.2⟩

variable [LT F] [DecidableLT F]

theorem maxOn_mem {key : α → F} {l : List α} (h : maxOn key l = some a) : a ∈ l := by
  cases l with
  | nil => cases h
  | cons b l =>
    cases h
    induction l generalizing b with
    | nil => exact List.mem_singleton_self b
    | cons c l ih =>
      rw [List.foldl_cons]
      split
      · exact List.mem_cons_of_mem b (ih c)
      · rcases List.mem_cons.mp (ih b) with hb | hl
        · rw [hb]
          exact List.mem_cons_self
        · exact List.mem_cons_of_mem b (List.mem_cons_of_mem c hl)

theorem Selectable.online [Add F] [Sub F] [Mul F] [Div F] [OfScientific F] [IntCast F]
    (h : Selectable db id) : (db[id]?).map RelayNode.status = some RelayStatus.online := by
  rcases h with ⟨region, relays, relay, hq, hbest⟩ | ⟨relays, relay, hq, hbest⟩
  · obtain ⟨hmem, honline⟩ := List.mem_filter.mp (maxOn_mem hbest)
    rw [(hq.mem hmem).1, Option.map_some, of_decide_eq_true honline]
  · obtain ⟨hmem, honline⟩ := hq.mem (List.mem_of_mem_take (maxOn_mem hbest))
    rw [hmem, Option.map_some, of_decide_eq_true honline]

end Selected

section Steps
variable {F : Type}

/-- Every relay that is held has the status of maintenance. -/
def Maintained (db : RelayNodes F) (held : List Uuid) : Prop :=
  ∀ id ∈ held, (db[id]?).map RelayNode.status = some RelayStatus.maintenance

theorem MaintenanceHistory.holds_iff [Add F] [Sub F] [Mul F] [Div F] [OfScientific F]
    [IntCast F] [LT F] [DecidableLT F] {h : MaintenanceHistory F} :
    h.Holds ↔ Maintained h.db h.held := by
  refine ⟨fun hh => hh.maintained, fun hm => ⟨hm, ?_⟩⟩
  intro id hid hsel
  have hstatus := hsel.online
  rw [hm id hid, Option.some_inj] at hstatus
  exact absurd hstatus (by decide)

variable {db : RelayNodes F} {held : List Uuid} {id : Uuid} {relay node : RelayNode F}

/-- A row that is written keeps the relays in maintenance exactly where it is none of them or in
maintenance itself. -/
theorem Maintained.insert_iff (hm : Maintained db held) :
    Maintained (db.insert id node) held ↔ (id ∈ held → node.status = RelayStatus.maintenance) := by
  constructor
  · intro h hid
    have hstatus := h id hid
    rw [getElem?_insert_eq, if_pos rfl] at hstatus
    exact Option.some.inj hstatus
  · intro h id' hid'
    rw [getElem?_insert_eq]
    split
    · next he =>
      subst he
      rw [Option.map_some, h hid']
    · exact hm id' hid'

theorem Maintained.not_mem_of_none (hm : Maintained db held) (h : db[id]? = none) : id ∉ held := by
  intro hid
  have hstatus := hm id hid
  rw [h] at hstatus
  cases hstatus

theorem Maintained.add (hm : Maintained db held) (id : Uuid) (node : RelayNode F) :
    Maintained (db.after (db.add id node)) held := by
  rw [RelayNodes.add]
  cases h : db[id]? with
  | some relay => exact hm
  | none => exact hm.insert_iff.mpr (fun hid => (hm.not_mem_of_none h hid).elim)

theorem Maintained.registerRelay [OfScientific F] (hm : Maintained db held) (id : Uuid)
    (r : Registration F) (now : Int) : Maintained (db.after (registerRelay db id r now)) held := by
  rw [RelayService.registerRelay]
  split
  · exact hm
  · exact hm
  · exact hm.add id _

theorem Maintained.cleanupStaleRelays (hm : Maintained db held) (settings : Settings F)
    (now : Int) : Maintained (cleanupStaleRelays settings db now) held := by
  intro id hid
  rw [RelayService.cleanupStaleRelays, Std.TreeMap.getElem?_map]
  have hstatus := hm id hid
  cases h : db[id]? with
  | none =>
    rw [h] at hstatus
    cases hstatus
  | some relay =>
    rw [h, Option.map_some, Option.some_inj] at hstatus
    rw [Option.map_some, Option.map_some, if_neg (fun hstale => hstale.2 hstatus), hstatus]

variable [LT F] [DecidableLT F] {settings : Settings F}

theorem RelayNode.beat_status_ne (relay : RelayNode F) (beat : Heartbeat F) (now : Int) :
    (relay.beat settings beat now).status ≠ RelayStatus.maintenance := by
  change settings.statusOf beat.load ≠ _
  rw [Settings.statusOf]
  split <;> decide

theorem Maintained.beat_iff (hm : Maintained db held) (beat : Heartbeat F) (now : Int) :
    Maintained (db.beat settings id beat now) held ↔ id ∉ held := by
  constructor
  · intro h hid
    have hstatus := h id hid
    rw [RelayNodes.beat, getElem?_modify_eq, if_pos rfl] at hstatus
    cases hrelay : db[id]? with
    | none => exact hm.not_mem_of_none hrelay hid
    | some relay =>
      rw [hrelay] at hstatus
      exact relay.beat_status_ne beat now (Option.some.inj hstatus)
  · intro h id' hid'
    rw [RelayNodes.beat, getElem?_modify_eq, if_neg]
    · exact hm id' hid'
    · rintro rfl
      exact h hid'

theorem Maintained.updateHeartbeat_iff (hm : Maintained db held) (relayId : Uuid)
    (beat : Heartbeat F) (now : Int) :
    Maintained (db.after (updateHeartbeat settings db relayId beat now)) held ↔
      relayId ∉ held := by
  rw [updateHeartbeat]
  cases h : db[relayId]? with
  | none => exact iff_of_true hm (hm.not_mem_of_none h)
  | some relay => exact hm.beat_iff beat now

theorem Maintained.heartbeatByName_iff [OfScientific F] (hm : Maintained db held) (id : Uuid)
    (r : Registration F) (beat : Heartbeat F) (now : Int) :
    Maintained (db.after (heartbeatByName settings db id r beat now)) held ↔
      ∀ e, db.named r.name = [e] → e.1 ∉ held := by
  rw [heartbeatByName]
  match h : db.named r.name with
  | [] => exact iff_of_true (hm.add id _) (fun e he => by cases he)
  | [e] =>
    refine (hm.beat_iff beat now).trans ⟨?_, fun hall => hall e rfl⟩
    intro he e' heq
    cases heq
    exact he
  | e :: e' :: l => exact iff_of_true hm (fun e he => by cases he)

end Steps

section Runs
variable {F : Type} [OfScientific F] [LT F] [DecidableLT F] {h : MaintenanceHistory F}

theorem MaintenanceHistory.maintained_setRelayStatus (hm : Maintained h.db h.held)
    (settings : Settings F) (relayId : Uuid) (status : String) :
    Maintained (h.db.step settings (.setRelayStatus relayId status))
      (h.heldAfter (.setRelayStatus relayId status)) := by
  rw [RelayNodes.step, RelayService.setRelayStatus, MaintenanceHistory.heldAfter]
  cases hrelay : h.db[relayId]? with
  | none => exact hm
  | some relay =>
    intro id hid
    change (Option.map RelayNode.status (h.db.insert relayId _)[id]?) = _
    rw [getElem?_insert_eq]
    dsimp only at hid
    split
    · next he =>
      subst he
      split at hid
      · next hstatus => rw [Option.map_some, hstatus]
      · exact absurd rfl (of_decide_eq_true (List.mem_filter.mp hid).2)
    · next hne =>
      apply hm
      split at hid
      · exact (List.mem_cons.mp hid).resolve_left (Ne.symm hne)
      · exact (List.mem_filter.mp hid).1

theorem MaintenanceHistory.maintained_deleteRelay (hm : Maintained h.db h.held)
    (settings : Settings F) (relayId : Uuid) :
    Maintained (h.db.step settings (.deleteRelay relayId))
      (h.heldAfter (.deleteRelay relayId)) := by
  intro id hid
  obtain ⟨hheld, hne⟩ := List.mem_filter.mp hid
  rw [RelayNodes.step, RelayService.deleteRelay]
  cases hrelay : h.db[relayId]? with
  | none => exact hm id hheld
  | some relay =>
    change (Option.map RelayNode.status (h.db.erase relayId)[id]?) = _
    rw [getElem?_erase_eq, if_neg (Ne.symm (of_decide_eq_true hne))]
    exact hm id hheld

theorem MaintenanceHistory.maintained_step_iff (hm : Maintained h.db h.held)
    (settings : Settings F) (op : RelayOp F) :
    Maintained (h.step settings op).db (h.step settings op).held ↔ h.Spares op := by
  cases op with
  | registerRelay id r now => exact iff_of_true (hm.registerRelay id r now) trivial
  | updateHeartbeat relayId beat now => exact hm.updateHeartbeat_iff relayId beat now
  | heartbeatByName id r beat now => exact hm.heartbeatByName_iff id r beat now
  | setRelayStatus relayId status =>
    exact iff_of_true (maintained_setRelayStatus hm settings relayId status) trivial
  | deleteRelay relayId => exact iff_of_true (maintained_deleteRelay hm settings relayId) trivial
  | cleanupStaleRelays now => exact iff_of_true (hm.cleanupStaleRelays settings now) trivial

end Runs

theorem maintenance_holds_iff {F : Type} [Add F] [Sub F] [Mul F] [Div F] [OfScientific F]
    [IntCast F] [LT F] [DecidableLT F] (settings : Settings F) (db : RelayNodes F)
    (ops : List (RelayOp F)) :
    (∀ ops', ops' <+: ops → ((MaintenanceHistory.start db).run settings ops').Holds) ↔
      Guarded (MaintenanceHistory.step settings) MaintenanceHistory.Spares
        (MaintenanceHistory.start db) ops := by
  simp only [MaintenanceHistory.holds_iff]
  exact forall_prefix_iff
    (I := fun h : MaintenanceHistory F => Maintained h.db h.held) (fun _ hid => by cases hid)
    (fun _ op hm => MaintenanceHistory.maintained_step_iff hm settings op) ops

def exampleSettings : Settings ℚ := ⟨0.8, 300⟩

def exampleRelay : Registration ℚ := ⟨"a", "198.51.100.7", 51820, "eu", none, 1000, 1000.0⟩

/-- The next heartbeat of a relay, by its key or by its name, ends its maintenance. -/
theorem heartbeat_ends_maintenance :
    ¬ ((MaintenanceHistory.start ∅).run exampleSettings [.registerRelay 1 exampleRelay 0,
        .setRelayStatus 1 "maintenance", .updateHeartbeat 1 ⟨0.1, 0, 0.0⟩ 1]).Holds ∧
      ¬ ((MaintenanceHistory.start ∅).run exampleSettings [.registerRelay 1 exampleRelay 0,
        .setRelayStatus 1 "maintenance",
        .heartbeatByName 2 exampleRelay ⟨0.1, 0, 0.0⟩ 1]).Holds := by
  constructor
  · intro h
    exact absurd (h.maintained 1 (by decide +kernel)) (by decide +kernel)
  · intro h
    exact absurd (h.maintained 1 (by decide +kernel)) (by decide +kernel)

end P2PMesh.RelayService
