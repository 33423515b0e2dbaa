import P2PMesh.Devices
import P2PMesh.NatTraversal

namespace P2PMesh.Devices
open P2PMesh.Base
set_option autoImplicit true

structure CandidateEntry where
  addr : String
  candidateType : String
  priority : Int
deriving DecidableEq

/-- The columns of a device that an endpoint sets. -/
structure Columns where
  natType : Option String := none
  lastIp : Option String := none
  lastPort : Option Int := none

inductive CandidateRequest where
  | registerCandidates (deviceId : String) (candidates : List CandidateEntry)
  | getPeerCandidates (peerId : String)
  | submitNatProbe (deviceId : String) (mappedAddrs : List String)

inductive CandidateBody where
  | detail (text : String)
  | registered (deviceId : String) (candidateCount : Nat)
  | candidates (deviceId : String) (candidates : List CandidateEntry) (updatedAt : Int)
  | probed (deviceId natType : String) (mappedAddrs : List String)

structure CandidateResponse where
  status : Nat
  body : CandidateBody

/-- A request under way; after its SELECT it may have an UPDATE of the instance before it. -/
structure CandidateSession where
  userId : Uuid
  request : CandidateRequest
  loaded : List (Uuid × Device)
  pending : Option (Uuid × Device × Columns)

inductive CandidateNext where
  | proceed (s : CandidateSession)
  | respond (r : CandidateResponse)
  | commit (write : Write) (r : CandidateResponse)

abbrev CandidateStore := Std.TreeMap String (List CandidateEntry)

/-- The text that a request names a device with. -/
def CandidateRequest.deviceId : CandidateRequest → String
  | .registerCandidates deviceId _ => deviceId
  | .getPeerCandidates peerId => peerId
  | .submitNatProbe deviceId _ => deviceId

def CandidateRequest.unauthorized : CandidateRequest → CandidateResponse
  | .registerCandidates _ _ => ⟨403, .detail "Device not found or not authorized"⟩
  | .getPeerCandidates _ => ⟨404, .detail "Peer device not found"⟩
  | .submitNatProbe _ _ => ⟨403, .detail "Device not authorized"⟩

def CandidateResponse.serverError : CandidateResponse := ⟨500, .detail "Internal Server Error"⟩

def classifyMapped (mappedAddrs : List String) : String :=
  NatTraversal.classifyNatFromMapped (mappedAddrs.map String.toList)

/-- The answer to a request that the user may make, from what the store has. -/
def CandidateRequest.accepted (candidates : CandidateStore) (now : Int) :
    CandidateRequest → CandidateResponse
  | .registerCandidates deviceId entries => ⟨201, .registered deviceId entries.length⟩
  | .getPeerCandidates peerId => ⟨200, .candidates peerId (candidates[peerId]?.getD []) now⟩
  | .submitNatProbe deviceId addrs => ⟨200, .probed deviceId (classifyMapped addrs) addrs⟩

/-- The address that the first public candidate gives; a port that is no number is left out. -/
def publicColumns (candidates : List CandidateEntry) : Columns :=
  match candidates.find? (fun c => c.candidateType = "srflx") with
  | none => {}
  | some c =>
    if c.addr = "" then {}
    else
      match Python.rsplitOnce ':' c.addr.toList with
      | none => { lastIp := some c.addr }
      | some (ip, port) => { lastIp := some (String.ofList ip), lastPort := Python.int port }

def CandidateRequest.columns : CandidateRequest → Columns
  | .registerCandidates _ candidates => publicColumns candidates
  | .getPeerCandidates _ => {}
  | .submitNatProbe _ mappedAddrs => { natType := some (classifyMapped mappedAddrs) }

def Columns.update (columns : Columns) (loaded stored : Device) : Device :=
  { stored with
    natType := updatedIfGiven loaded.natType columns.natType stored.natType
    lastIp := updatedIfGiven loaded.lastIp (columns.lastIp.map some) stored.lastIp
    lastPort := updatedIfGiven loaded.lastPort (columns.lastPort.map some) stored.lastPort }

def CandidateRequest.store (candidates : CandidateStore) : CandidateRequest → CandidateStore
  | .registerCandidates deviceId entries => candidates.insert deviceId entries
  | _ => candidates

section Statements
variable (uuid : String → Option Uuid) (db : Rows) (candidates : CandidateStore)
  (s : CandidateSession)

/-- The device of the user's that the request names. -/
def CandidateSession.device : Option (Uuid × Device) :=
  match uuid s.request.deviceId with
  | none => none
  | some id =>
    (db[id]?.filter (fun row => row.userId = s.userId)).map
      (fun row => (id, (s.loaded.lookup id).getD row))

/-- The candidates are in the store before the device is updated; an UPDATE of nothing is none. -/
def CandidateSession.select (now : Int) : CandidateStore × CandidateNext :=
  match uuid s.request.deviceId with
  | none => (candidates, .respond ⟨400, .detail "Invalid device ID format"⟩)
  | some _ =>
    match s.device uuid db with
    | none => (candidates, .respond s.request.unauthorized)
    | some (id, loaded) =>
      let columns := s.request.columns
      (s.request.store candidates,
        if columns.update loaded loaded = loaded then .respond (s.request.accepted candidates now)
        else .proceed { s with pending := some (id, loaded, columns) })

def CandidateSession.flush (fits : Device → Bool) (now : Int) (id : Uuid) (loaded : Device)
    (columns : Columns) : CandidateNext :=
  match db[id]? with
  | none => .respond .serverError
  | some stored =>
    let row := columns.update loaded stored
    if fits row then .commit ⟨id, some row⟩ (s.request.accepted candidates now)
    else .respond .serverError

def CandidateSession.advance (fits : Device → Bool) (now : Int) : CandidateStore × CandidateNext :=
  match s.pending with
  | none => s.select uuid db candidates now
  | some (id, loaded, columns) => (candidates, s.flush db candidates fits now id loaded columns)

end Statements

/-- The devices, the candidates that the process has, and the requests for them under way. -/
structure Exchange where
  table : DeviceTable
  candidates : CandidateStore
  sessions : Std.TreeMap Nat CandidateSession

def Exchange.new : Exchange := ⟨.new, ∅, ∅⟩

inductive ExchangeOp where
  | device (op : DeviceOp)
  | authenticate (session : Nat) (request : CandidateRequest)
  | next (session : Nat) (now : Int)

section Steps
variable (uuid : String → Option Uuid) (fits : Device → Bool) (users : Nat → Uuid) (x : Exchange)

def Exchange.authenticate (session : Nat) (request : CandidateRequest) : Exchange :=
  match x.sessions[session]? with
  | some _ => x
  | none =>
    let userId := users session
    let s : CandidateSession := ⟨userId, request, x.table.committed.ownedBy userId, none⟩
    { x with sessions := x.sessions.insert session s }

def Exchange.next (session : Nat) (now : Int) : Exchange × List (Nat × CandidateResponse) :=
  match x.sessions[session]? with
  | none => (x, [])
  | some s =>
    match s.advance uuid x.table.committed x.candidates fits now with
    | (candidates, .proceed s') =>
      (⟨x.table, candidates, x.sessions.insert session s'⟩, [])
    | (candidates, .respond r) =>
      (⟨x.table, candidates, x.sessions.erase session⟩, [(session, r)])
    | (candidates, .commit write r) =>
      (⟨{ x.table with committed := write.apply x.table.committed }, candidates,
        x.sessions.erase session⟩, [(session, r)])

def Exchange.step : ExchangeOp → Exchange × List (Nat × CandidateResponse)
  | .device op => ({ x with table := x.table.after fits users op }, [])
  | .authenticate session request => (x.authenticate users session request, [])
  | .next session now => x.next uuid fits session now

end Steps

end P2PMesh.Devices
