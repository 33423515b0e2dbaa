import P2PMesh.Base.Noninterference
import P2PMesh.Base.Table

namespace P2PMesh.Devices
open P2PMesh.Base
set_option autoImplicit true

abbrev Uuid := BitVec 128

def natUnknown : String := "unknown"

structure DeviceRegister where
  name : String
  publicKey : String
  os : Option String
  version : Option String

structure DeviceHeartbeat where
  natType : Option String
  lastIp : Option String
  lastPort : Option Int

/-- A row without its key; instants are in microseconds. -/
structure Device where
  userId : Uuid
  name : String
  publicKey : String
  lastIp : Option String
  lastPort : Option Int
  natType : String
  os : Option String
  version : Option String
  online : Bool
  lastSeen : Int
  createdAt : Int
deriving DecidableEq

abbrev Rows := Std.TreeMap Uuid Device

/-- What the selection of a relay gives. -/
structure SelectedRelay where
  id : Uuid
  ip : String
  port : Int
  region : String
deriving DecidableEq

structure PathResult where
  pathType : String
  relayNodeId : Option Uuid := none
  relayIp : Option String := none
  relayPort : Option Int := none
  reason : String
deriving DecidableEq

section Paths

def natCompatibility : List ((String × String) × Bool) :=
  [(("open", "open"), true), (("open", "full_cone"), true), (("open", "restricted_cone"), true),
    (("open", "port_restricted"), true), (("open", "symmetric"), true),
    (("open", "unknown"), true),
    (("full_cone", "open"), true), (("full_cone", "full_cone"), true),
    (("full_cone", "restricted_cone"), true), (("full_cone", "port_restricted"), true),
    (("full_cone", "symmetric"), false), (("full_cone", "unknown"), true),
    (("restricted_cone", "open"), true), (("restricted_cone", "full_cone"), true),
    (("restricted_cone", "restricted_cone"), true),
    (("restricted_cone", "port_restricted"), true), (("restricted_cone", "symmetric"), false),
    (("restricted_cone", "unknown"), true),
    (("port_restricted", "open"), true), (("port_restricted", "full_cone"), true),
    (("port_restricted", "restricted_cone"), true),
    (("port_restricted", "port_restricted"), true), (("port_restricted", "symmetric"), false),
    (("port_restricted", "unknown"), true),
    (("symmetric", "open"), true), (("symmetric", "symmetric"), false),
    (("unknown", "unknown"), true)]

def canEstablishP2p (natA natB : String) : Bool :=
  if natA = natUnknown ∨ natB = natUnknown then true
  else (natCompatibility.lookup (natA, natB)).getD false

def privatePrefixes : List String :=
  ["10.", "172.16.", "172.17.", "172.18.", "172.19.", "172.20.", "172.21.", "172.22.", "172.23.",
    "172.24.", "172.25.", "172.26.", "172.27.", "172.28.", "172.29.", "172.30.", "172.31.",
    "192.168.", "fd"]

/-- The prefix that both share decides; without a point there is nothing more to compare. -/
def isSamePrivateSubnet (ipA ipB : String) : Bool :=
  if privatePrefixes.any (fun p => ipA.startsWith p && ipB.startsWith p) then
    if ipA.contains '.' then
      ".".intercalate ((ipA.splitOn ".").take 3) = ".".intercalate ((ipB.splitOn ".").take 3)
    else true
  else false

def choosePath (ipA natA ipB natB : String) (relay : Option SelectedRelay) : PathResult :=
  if canEstablishP2p natA natB then
    if isSamePrivateSubnet ipA ipB then
      { pathType := "p2p", reason := "Same private subnet - direct LAN connection" }
    else { pathType := "p2p", reason := "P2P possible via NAT hole-punching" }
  else
    match relay with
    | some r =>
      { pathType := "relay"
        relayNodeId := some r.id
        relayIp := some r.ip
        relayPort := some r.port
        reason := "NAT incompatible - routing via relay in " ++ r.region }
    | none => { pathType := "relay", reason := "No suitable relay found" }

end Paths

/-- A request with the id that its text is read as, if it is. -/
inductive DeviceRequest where
  | registerDevice (data : DeviceRegister)
  | listDevices
  | getDevice (deviceId : Option Uuid)
  | heartbeat (deviceId : Option Uuid) (data : DeviceHeartbeat)
  | deleteDevice (deviceId : Option Uuid)
  | findPath (deviceA deviceB : Option Uuid)

inductive Body where
  | detail (text : String)
  | device (id : Uuid) (device : Device)
  | devices (rows : List (Uuid × Device))
  | path (result : PathResult)
  | empty

structure Response where
  status : Nat
  body : Body

/-- Which of its statements a request has behind it after its authentication: a SELECT that found
no row, the first or the second SELECT of a device, or the first of two devices. -/
inductive Phase where
  | authenticated
  | absent
  | owned (device : Device)
  | found (device : Device)
  | first (device : Option Device)
deriving DecidableEq

/-- A request under way, with the instances of its session: a row that is selected again is the
instance that has been loaded first. -/
structure Session where
  userId : Uuid
  isAdmin : Bool
  request : DeviceRequest
  loaded : List (Uuid × Device)
  phase : Phase

/-- What a statement is given: the id of a new row, the time, whether a traffic log refers to the
device, and the relay that would be selected. -/
structure Draw where
  id : Uuid
  now : Int
  referenced : Bool
  relay : Option SelectedRelay

/-- What a COMMIT makes of a row. -/
structure Write where
  id : Uuid
  row : Option Device

/-- How a request goes on after a statement. -/
inductive Next where
  | proceed (s : Session)
  | respond (r : Response)
  | commit (write : Write) (r : Response)

def Response.refusal (status : Nat) (detail : String) : Response := ⟨status, .detail detail⟩

def Response.serverError : Response := .refusal 500 "Internal Server Error"

def notFound : Response := .refusal 404 "Device not found"

def DeviceRegister.device (data : DeviceRegister) (userId : Uuid) (now : Int) : Device where
  userId := userId
  name := data.name
  publicKey := data.publicKey
  lastIp := none
  lastPort := none
  natType := natUnknown
  os := data.os
  version := data.version
  online := false
  lastSeen := now
  createdAt := now

/-- The value of a column after an UPDATE, which has only what differs from the instance. -/
def updated [DecidableEq α] (loaded value stored : α) : α :=
  if value = loaded then stored else value

def updatedIfGiven [DecidableEq α] (loaded : α) (value : Option α) (stored : α) : α :=
  (value.map (fun v => updated loaded v stored)).getD stored

/-- The row as a heartbeat leaves it. -/
def DeviceHeartbeat.update (data : DeviceHeartbeat) (loaded : Device) (now : Int)
    (stored : Device) : Device :=
  { stored with
    natType := updatedIfGiven loaded.natType data.natType stored.natType
    lastIp := updatedIfGiven loaded.lastIp (data.lastIp.map some) stored.lastIp
    lastPort := updatedIfGiven loaded.lastPort (data.lastPort.map some) stored.lastPort
    online := updated loaded.online true stored.online
    lastSeen := updated loaded.lastSeen now stored.lastSeen }

section Statements
variable (db : Rows) (s : Session)

/-- A SELECT by the key gives the instance, if there is a row. -/
def Session.fetch (id : Uuid) : Option Device :=
  db[id]?.map (fun row => (s.loaded.lookup id).getD row)

def Session.load (id : Uuid) (device : Device) (phase : Phase) : Session :=
  { s with loaded := (id, device) :: s.loaded, phase := phase }

def Rows.withKey (publicKey : String) : List (Uuid × Device) :=
  db.toList.filter (fun e => e.2.publicKey = publicKey)

def Rows.ownedBy (userId : Uuid) : List (Uuid × Device) :=
  db.toList.filter (fun e => e.2.userId = userId)

/-- The latest first; the database may order rows of the same instant as it likes. -/
def latestFirst (rows : List (Uuid × Device)) : List (Uuid × Device) :=
  rows.mergeSort (fun a b => decide (b.2.lastSeen ≤ a.2.lastSeen))

def Device.ipOrUnspecified (device : Device) : String :=
  match device.lastIp with
  | none => "0.0.0.0"
  | some ip => if ip = "" then "0.0.0.0" else ip

/-- Only an administrator is told the address of a relay. -/
def PathResult.shownTo (result : PathResult) (isAdmin : Bool) : PathResult :=
  { result with relayIp := if isAdmin then result.relayIp else some "***" }

def Session.answerPath (a b : Option Device) (relay : Option SelectedRelay) : Response :=
  match a, b with
  | some a, some b =>
    if a.userId ≠ s.userId ∨ b.userId ≠ s.userId then
      .refusal 403 "Both devices must belong to you"
    else
      let result := choosePath a.ipOrUnspecified a.natType b.ipOrUnspecified b.natType relay
      ⟨200, .path (result.shownTo s.isAdmin)⟩
  | _, _ => .refusal 404 "One or both devices not found"

/-- A device of the user's own, or the refusal. -/
def Session.select (deviceId : Uuid) (refusal : Response) (next : Device → Phase) : Next :=
  match s.fetch db deviceId with
  | none => .respond refusal
  | some device =>
    if device.userId = s.userId then .proceed (s.load deviceId device (next device))
    else .respond refusal

def notOwned : Response := .refusal 404 "Device not found or does not belong to user"

def notUuid : Response := .refusal 404 "badly formed hexadecimal UUID string"

variable (fits : Device → Bool) (draw : Draw)

def Session.register (data : DeviceRegister) : Next :=
  match s.phase with
  | .authenticated =>
    match db.withKey data.publicKey with
    | [] => .proceed { s with phase := .absent }
    | [_] => .respond (.refusal 409 "A device with this public key already exists")
    | _ => .respond .serverError
  | _ =>
    let device := data.device s.userId draw.now
    if db[draw.id]?.isSome ∨ fits device = false then .respond .serverError
    else .commit ⟨draw.id, some device⟩ ⟨201, .device draw.id device⟩

def Session.list : Next :=
  .respond ⟨200, .devices ((latestFirst (db.ownedBy s.userId)).map
    (fun e => (e.1, (s.loaded.lookup e.1).getD e.2)))⟩

def Session.get (deviceId : Option Uuid) : Next :=
  match deviceId with
  | none => .respond .serverError
  | some id =>
    match s.fetch db id with
    | none => .respond notFound
    | some device =>
      if device.userId = s.userId then .respond ⟨200, .device id device⟩ else .respond notFound

/-- An UPDATE that meets no row, or values that do not fit, is an error. -/
def Session.beat (deviceId : Option Uuid) (data : DeviceHeartbeat) : Next :=
  match deviceId with
  | none => .respond .serverError
  | some id =>
    match s.phase with
    | .owned device =>
      if db[id]?.isSome then .proceed { s with phase := .found device } else .respond notFound
    | .found device =>
      match db[id]? with
      | none => .respond .serverError
      | some stored =>
        let row := data.update device draw.now stored
        if fits row then .commit ⟨id, some row⟩ ⟨200, .device id row⟩ else .respond .serverError
    | _ => s.select db id notFound .owned

/-- A row that logs refer to cannot be deleted; one that is gone already can. -/
def Session.delete (deviceId : Option Uuid) : Next :=
  match deviceId with
  | none => .respond notUuid
  | some id =>
    match s.phase with
    | .found _ =>
      if draw.referenced ∧ db[id]?.isSome then .respond .serverError
      else .commit ⟨id, none⟩ ⟨204, .empty⟩
    | _ => s.select db id notOwned .found

def Session.findPath (deviceA deviceB : Option Uuid) : Next :=
  match deviceA, s.phase with
  | none, _ => .respond (.refusal 400 "Invalid device ID format")
  | some _, .first a =>
    match deviceB with
    | none => .respond (.refusal 400 "Invalid device ID format")
    | some id => .respond (s.answerPath a (s.fetch db id) draw.relay)
  | some id, _ =>
    match s.fetch db id with
    | none => .proceed { s with phase := .first none }
    | some device => .proceed (s.load id device (.first (some device)))

def Session.advance : Next :=
  match s.request with
  | .registerDevice data => s.register db fits draw data
  | .listDevices => s.list db
  | .getDevice deviceId => s.get db deviceId
  | .heartbeat deviceId data => s.beat db fits draw deviceId data
  | .deleteDevice deviceId => s.delete db draw deviceId
  | .findPath deviceA deviceB => s.findPath db draw deviceA deviceB

end Statements

/-- The rows that are committed, and the requests under way. -/
structure DeviceTable where
  committed : Rows
  sessions : Std.TreeMap Nat Session

def DeviceTable.new : DeviceTable := ⟨∅, ∅⟩

/-- A request is authenticated, which loads the devices of its user, or goes one statement
further. -/
inductive DeviceOp where
  | authenticate (session : Nat) (isAdmin : Bool) (request : DeviceRequest)
  | next (session : Nat) (draw : Draw)

def Write.apply (write : Write) (db : Rows) : Rows :=
  match write.row with
  | none => db.erase write.id
  | some device => db.insert write.id device

section Steps
variable (fits : Device → Bool) (users : Nat → Uuid) (t : DeviceTable)

/-- With its user a session loads the devices of the user. -/
def Session.begin (db : Rows) (userId : Uuid) (isAdmin : Bool) (request : DeviceRequest) :
    Session :=
  ⟨userId, isAdmin, request, db.ownedBy userId, .authenticated⟩

def DeviceTable.authenticate (session : Nat) (isAdmin : Bool) (request : DeviceRequest) :
    DeviceTable :=
  match t.sessions[session]? with
  | some _ => t
  | none =>
    let s := Session.begin t.committed (users session) isAdmin request
    { t with sessions := t.sessions.insert session s }

def DeviceTable.next (session : Nat) (draw : Draw) : DeviceTable × List (Nat × Response) :=
  match t.sessions[session]? with
  | none => (t, [])
  | some s =>
    match s.advance t.committed fits draw with
    | .proceed s' => ({ t with sessions := t.sessions.insert session s' }, [])
    | .respond r => ({ t with sessions := t.sessions.erase session }, [(session, r)])
    | .commit write r =>
      (⟨write.apply t.committed, t.sessions.erase session⟩, [(session, r)])

def DeviceTable.step : DeviceOp → DeviceTable × List (Nat × Response)
  | .authenticate session isAdmin request => (t.authenticate users session isAdmin request, [])
  | .next session draw => t.next fits session draw

def DeviceTable.after (op : DeviceOp) : DeviceTable := (t.step fits users op).1

def DeviceTable.run (ops : List DeviceOp) : DeviceTable :=
  ops.foldl (DeviceTable.after fits users) t

end Steps

section Commits
variable {db : Rows} {s : Session} {fits : Device → Bool} {draw : Draw} {id : Uuid}
  {write : Write} {r : Response}

theorem Write.getElem?_apply (write : Write) (db : Rows) (id : Uuid) :
    (write.apply db)[id]? = if write.id = id then write.row else db[id]? := by
  rw [Write.apply]
  cases hrow : write.row with
  | none =>
    dsimp only
    rw [getElem?_erase_eq]
  | some device =>
    dsimp only
    rw [getElem?_insert_eq]

theorem Session.select_ne_commit {refusal : Response} {next : Device → Phase} :
    s.select db id refusal next ≠ .commit write r := by
  rw [Session.select]
  cases s.fetch db id with
  | none => exact fun hsel => nomatch hsel
  | some device =>
    dsimp only
    split
    next => exact fun hsel => nomatch hsel
    next => exact fun hsel => nomatch hsel

theorem Session.beat_commit {deviceId : Option Uuid} {data : DeviceHeartbeat}
    (hbeat : s.beat db fits draw deviceId data = .commit write r) :
    ∃ id device stored, deviceId = some id ∧ s.phase = .found device ∧ db[id]? = some stored ∧
      fits (data.update device draw.now stored) = true ∧
        write = ⟨id, some (data.update device draw.now stored)⟩ := by
  cases deviceId with
  | none => cases hbeat
  | some id =>
    rw [Session.beat] at hbeat
    cases hphase : s.phase with
    | owned device =>
      rw [hphase] at hbeat
      dsimp only at hbeat
      split at hbeat
      next => cases hbeat
      next => cases hbeat
    | found device =>
      rw [hphase] at hbeat
      dsimp only at hbeat
      cases hrow : db[id]? with
      | none =>
        rw [hrow] at hbeat
        cases hbeat
      | some stored =>
        rw [hrow] at hbeat
        dsimp only at hbeat
        split at hbeat
        next hfits =>
          cases hbeat
          exact ⟨id, device, stored, rfl, rfl, hrow, hfits, rfl⟩
        next => cases hbeat
    | _ =>
      rw [hphase] at hbeat
      exact (Session.select_ne_commit hbeat).elim

theorem Session.beat_of_found {data : DeviceHeartbeat} {device stored : Device}
    (hphase : s.phase = .found device) (hrow : db[id]? = some stored)
    (hfits : fits (data.update device draw.now stored) = true) :
    ∃ write r, s.beat db fits draw (some id) data = .commit write r := by
  rw [Session.beat, hphase]
  dsimp only
  rw [hrow]
  dsimp only
  rw [if_pos hfits]
  exact ⟨_, _, rfl⟩

theorem Session.delete_commit {deviceId : Option Uuid}
    (hdelete : s.delete db draw deviceId = .commit write r) :
    ∃ id device, deviceId = some id ∧ s.phase = .found device ∧ write = ⟨id, none⟩ := by
  cases deviceId with
  | none => cases hdelete
  | some id =>
    rw [Session.delete] at hdelete
    cases hphase : s.phase with
    | found device =>
      rw [hphase] at hdelete
      dsimp only at hdelete
      split at hdelete
      next => cases hdelete
      next =>
        cases hdelete
        exact ⟨id, device, rfl, rfl, rfl⟩
    | _ =>
      rw [hphase] at hdelete
      exact (Session.select_ne_commit hdelete).elim

theorem Session.register_commit {data : DeviceRegister}
    (hregister : s.register db fits draw data = .commit write r) :
    s.phase ≠ .authenticated ∧ db[draw.id]? = none ∧
      fits (data.device s.userId draw.now) = true ∧
        write = ⟨draw.id, some (data.device s.userId draw.now)⟩ := by
  rw [Session.register] at hregister
  cases hphase : s.phase with
  | authenticated =>
    rw [hphase] at hregister
    dsimp only at hregister
    split at hregister
    next => cases hregister
    next => cases hregister
    next => cases hregister
  | _ =>
    rw [hphase] at hregister
    dsimp only at hregister
    split at hregister
    next => cases hregister
    next hfree =>
      cases hregister
      rw [not_or, Option.not_isSome_iff_eq_none, Bool.not_eq_false] at hfree
      refine ⟨?_, hfree.1, hfree.2, rfl⟩
      intro hp
      cases hp

theorem Session.register_of_ne {data : DeviceRegister} (hphase : s.phase ≠ .authenticated)
    (hfree : db[draw.id]? = none) (hfits : fits (data.device s.userId draw.now) = true) :
    ∃ r, s.register db fits draw data =
      .commit ⟨draw.id, some (data.device s.userId draw.now)⟩ r := by
  have hgo : ¬ (db[draw.id]?.isSome = true ∨ fits (data.device s.userId draw.now) = false) := by
    rw [hfree, hfits]
    decide
  rw [Session.register]
  cases hp : s.phase with
  | authenticated => exact (hphase hp).elim
  | _ => exact ⟨_, if_neg hgo⟩

theorem Session.advance_commit (hnext : s.advance db fits draw = .commit write r) :
    (∃ data, s.request = .registerDevice data ∧
      s.register db fits draw data = .commit write r) ∨
    (∃ deviceId data, s.request = .heartbeat deviceId data ∧
      s.beat db fits draw deviceId data = .commit write r) ∨
    ∃ deviceId, s.request = .deleteDevice deviceId ∧
      s.delete db draw deviceId = .commit write r := by
  rw [Session.advance] at hnext
  cases hreq : s.request with
  | registerDevice data =>
    rw [hreq] at hnext
    exact .inl ⟨data, rfl, hnext⟩
  | listDevices =>
    rw [hreq] at hnext
    cases hnext
  | getDevice deviceId =>
    rw [hreq] at hnext
    cases deviceId with
    | none => cases hnext
    | some id =>
      dsimp only at hnext
      rw [Session.get] at hnext
      split at hnext
      next => cases hnext
      next =>
        split at hnext
        next => cases hnext
        next => cases hnext
  | heartbeat deviceId data =>
    rw [hreq] at hnext
    exact .inr (.inl ⟨deviceId, data, rfl, hnext⟩)
  | deleteDevice deviceId =>
    rw [hreq] at hnext
    exact .inr (.inr ⟨deviceId, rfl, hnext⟩)
  | findPath deviceA deviceB =>
    rw [hreq] at hnext
    dsimp only at hnext
    unfold Session.findPath at hnext
    cases deviceA with
    | none => cases hnext
    | some a =>
      cases hphase : s.phase with
      | first device =>
        rw [hphase] at hnext
        cases deviceB with
        | none => cases hnext
        | some b => cases hnext
      | _ =>
        rw [hphase] at hnext
        dsimp only at hnext
        cases hfetch : s.fetch db a with
        | none =>
          rw [hfetch] at hnext
          cases hnext
        | some device =>
          rw [hfetch] at hnext
          cases hnext

end Commits

end P2PMesh.Devices
