import P2PMesh.Base.Net
import P2PMesh.Base.Run
import P2PMesh.Base.Table

namespace P2PMesh.Ipam
open P2PMesh.Base
set_option autoImplicit true

/-- The texts of UUIDs: what `uuid.UUID` accepts, what `str` writes, and what the database takes
for a parameter of type UUID. -/
structure UuidText (U : Type) where
  parse : String → Option U
  str : U → String
  stored : String → Option U
  parse_str : ∀ u, parse (str u) = some u
  stored_str : ∀ u, stored (str u) = some u

theorem UuidText.str_injective (T : UuidText U) {u v : U} (h : T.str u = T.str v) : u = v := by
  have hu := T.parse_str u
  rw [h, T.parse_str v] at hu
  exact (Option.some.inj hu).symm

/-- The number of the hosts of 100.64.0.0/10. -/
def overlayHostCount : Nat := 4194302

def overlayHost (idx : Nat) : Ipv4Addr := 0x64400001#32 + BitVec.ofNat 32 idx

/-- `OVERLAY_HOSTS.index`, and none for its `ValueError`. -/
def overlayIndex (ip : Ipv4Addr) : Option Nat :=
  let idx := (ip - 0x64400001#32).toNat
  if idx < overlayHostCount then some idx else none

structure Assignment where
  ip : Ipv4Addr
  assigned : String
deriving DecidableEq

structure VirtualIp where
  virtualIp : Ipv4Addr
  assignedAt : Option String
deriving DecidableEq

/-- The table that `_ensure_ipam_table` would create, or the one that the start of the application
has created from the model, which has a column allocated_at and no assigned_at. -/
inductive Schema where
  | ensured
  | mapped
deriving DecidableEq

/-- The table virtual_ips: one row for a device, and no address twice. -/
structure VirtualIps (U : Type) [Ord U] where
  rows : Std.TreeMap U VirtualIp
  unique : ∀ (u v : U) (r r' : VirtualIp), rows[u]? = some r → rows[v]? = some r' →
    r.virtualIp = r'.virtualIp → u = v

inductive Action where
  | allocate
  | release
  | lookup
deriving DecidableEq

/-- What a request is about: the text of the device's id as it came and the UUID in it. -/
structure Target (U : Type) where
  action : Action
  deviceId : String
  device : U

/-- What a request waits for. -/
inductive Phase (U : Type) where
  | authorize
  | loadEnsure
  | select
  | loaded (rows : List (U × VirtualIp))
  | body
  | persistEnsure (a : Assignment)
  | insert (a : Assignment)
  | delete (ip : Ipv4Addr)
  | peers

/-- A request under way; one without a target lists the peers. A statement that has failed without
a rollback leaves the transaction aborted. -/
structure Request (U : Type) where
  user : Nat
  target : Option (Target U)
  phase : Phase U
  aborted : Bool

inductive Response where
  | address (deviceId : String) (a : Assignment)
  | released (deviceId : String) (ip : Ipv4Addr)
  | notReleased (deviceId : String)
  | peers (peers : List (String × Assignment))
  | error (status : Nat) (detail : String)

/-- The variables of the module, the table and the requests under way by number. Of the history it
keeps the addresses that devices hold, the devices whose address was released and not assigned
again, and the answer of the last step. -/
structure Pool (U : Type) [Ord U] where
  assignedIps : Std.TreeMap String Assignment
  ipToDevice : Std.TreeMap Ipv4Addr String
  nextHostIdx : Nat
  dbLoaded : Bool
  table : VirtualIps U
  requests : Std.TreeMap Nat (Request U)
  held : List (U × Ipv4Addr)
  freed : List U
  answer : Option (Request U × Response)

/-- A request by number: it begins, what it waits for is carried out, or that fails, after it has
been applied or not, and so do some rollbacks after it; the process may restart. -/
inductive Op where
  | begin (id user : Nat) (call : Option (Action × String))
  | run (id : Nat) (now : String)
  | fail (id : Nat) (now : String) (applied : Bool) (rollbacks : Nat)
  | restart

section Table
variable {U : Type} [Ord U] [Std.TransOrd U] [Std.LawfulEqOrd U] [DecidableEq U]

/-- The row of a device with a new address, unless another device's row has that address. -/
def VirtualIps.upsert (t : VirtualIps U) (u : U) (ip : Ipv4Addr) (now : String) :
    Option (VirtualIps U) :=
  if h : ∀ e ∈ t.rows.toList, e.2.virtualIp = ip → e.1 = u then
    some {
      rows := t.rows.insert u ⟨ip, ((t.rows[u]?).map (·.assignedAt)).getD (some now)⟩
      unique := by
        have hother : ∀ (v : U) (r : VirtualIp), t.rows[v]? = some r → r.virtualIp = ip → v = u :=
          fun v r hv => h (v, r) (Std.TreeMap.mem_toList_iff_getElem?_eq_some.mpr hv)
        intro v w r r' hv hw hip
        rw [getElem?_insert_eq] at hv hw
        split at hv
        · next hvu =>
          cases hv
          split at hw
          · next hwu => rw [← hvu, ← hwu]
          · rw [← hvu, hother w r' hw hip.symm]
        · split at hw
          · next hwu =>
            cases hw
            rw [← hwu, hother v r hv hip]
          · exact t.unique v w r r' hv hw hip }
  else none

def VirtualIps.delete (t : VirtualIps U) (u : U) : VirtualIps U where
  rows := t.rows.erase u
  unique := by
    intro v w r r' hv hw hip
    rw [getElem?_erase_eq] at hv hw
    split at hv
    · cases hv
    · split at hw
      · cases hw
      · exact t.unique v w r r' hv hw hip

end Table

/-- The next address in turn that is not in use, and where the search goes on next time. -/
def scanHosts (used : List Ipv4Addr) : Nat → Nat → Option Ipv4Addr × Nat
  | 0, next => (none, next)
  | k + 1, next =>
    let idx := next % overlayHostCount
    if overlayHost idx ∈ used then scanHosts used k ((idx + 1) % overlayHostCount)
    else (some (overlayHost idx), (idx + 1) % overlayHostCount)

/-- One past the greatest index among the rows. -/
def maxIdx (rows : List (U × VirtualIp)) : Nat :=
  rows.foldl (fun n e =>
    match overlayIndex e.2.virtualIp with
    | some idx => if n ≤ idx then idx + 1 else n
    | none => n) 0

section Pool
variable {U : Type} [Ord U] [Std.TransOrd U] [Std.LawfulEqOrd U] [DecidableEq U]
variable (T : UuidText U) (schema : Schema) (devices : Nat → List U)

def Pool.start (table : VirtualIps U) : Pool U := ⟨∅, ∅, 0, false, table, ∅, [], [], none⟩

variable (s : Pool U)

def Pool.wait (id : Nat) (request : Request U) : Pool U :=
  { s with requests := s.requests.insert id request }

def Pool.finish (id : Nat) (request : Request U) (response : Response) : Pool U :=
  { s with requests := s.requests.erase id, answer := some (request, response) }

/-- The addresses in use, as `_get_next_available_ip` collects them. -/
def Pool.usedIps : List Ipv4Addr := s.assignedIps.toList.map (fun e => e.2.ip)

def Pool.nextAvailableIp : Option Ipv4Addr × Nat :=
  scanHosts s.usedIps overlayHostCount s.nextHostIdx

/-- A device is told its address. -/
def Pool.finishAllocate (id : Nat) (request : Request U) (t : Target U) (a : Assignment) :
    Pool U :=
  { s with held := (t.device, a.ip) :: s.held }.finish id request (.address t.deviceId a)

def Pool.allocate (id : Nat) (now : String) (request : Request U) (t : Target U) : Pool U :=
  match s.assignedIps[t.deviceId]? with
  | some a => s.finishAllocate id request t a
  | none =>
    match s.nextAvailableIp with
    | (none, next) =>
      { s with nextHostIdx := next }.finish id request
        (.error 503 "No available IP addresses in overlay range — pool exhausted")
    | (some ip, next) =>
      { s with
        nextHostIdx := next
        assignedIps := s.assignedIps.insert t.deviceId ⟨ip, now⟩
        ipToDevice := s.ipToDevice.insert ip t.deviceId
        freed := s.freed.filter (· ≠ t.device) }.wait id
          { request with phase := .persistEnsure ⟨ip, now⟩ }

def Pool.release (id : Nat) (request : Request U) (t : Target U) : Pool U :=
  match s.assignedIps[t.deviceId]? with
  | some a =>
    { s with
      assignedIps := s.assignedIps.erase t.deviceId
      ipToDevice := s.ipToDevice.erase a.ip
      held := s.held.filter (· ≠ (t.device, a.ip)) }.wait id { request with phase := .delete a.ip }
  | none => s.finish id request (.notReleased t.deviceId)

def Pool.lookup (id : Nat) (request : Request U) (t : Target U) : Pool U :=
  match s.assignedIps[t.deviceId]? with
  | some a => s.finish id request (.address t.deviceId a)
  | none => s.finish id request (.error 404 s!"No IP assigned to device {t.deviceId}")

/-- A request after its load. -/
def Pool.runBody (id : Nat) (now : String) (request : Request U) : Pool U :=
  match request.target with
  | none => s.wait id { request with phase := .peers }
  | some t =>
    match t.action with
    | .allocate => s.allocate id now request t
    | .release => s.release id request t
    | .lookup => s.lookup id request t

def Pool.load (id : Nat) (request : Request U) : Pool U :=
  s.wait id { request with phase := if s.dbLoaded then .body else .loadEnsure }

/-- Loading has failed, and counts as done. -/
def Pool.failLoad (id : Nat) (request : Request U) (aborted : Bool) : Pool U :=
  { s with dbLoaded := true }.wait id { request with phase := .body, aborted }

/-- The rows that were read are taken into memory, over whatever is there. -/
def Pool.takeRows (rows : List (U × VirtualIp)) (now : String) : Pool U :=
  { s with
    assignedIps := s.assignedIps.insertMany
      (rows.map (fun e => (T.str e.1, ⟨e.2.virtualIp, e.2.assignedAt.getD now⟩)))
    ipToDevice := s.ipToDevice.insertMany (rows.map (fun e => (e.2.virtualIp, T.str e.1)))
    nextHostIdx := maxIdx rows
    dbLoaded := true }

def Pool.begin (id user : Nat) (call : Option (Action × String)) : Pool U :=
  match s.requests[id]? with
  | some _ => s
  | none =>
    match call with
    | none => s.load id ⟨user, none, .body, false⟩
    | some (action, deviceId) =>
      if action ≠ .lookup ∧ ¬ (1 ≤ deviceId.length ∧ deviceId.length ≤ 64) then
        s.finish id ⟨user, none, .authorize, false⟩ (.error 422 "device_id")
      else
        match T.parse deviceId with
        | none => s.finish id ⟨user, none, .authorize, false⟩ (.error 400 "Invalid device ID")
        | some device => s.wait id ⟨user, some ⟨action, deviceId, device⟩, .authorize, false⟩

def Pool.authorize (id : Nat) (request : Request U) : Pool U :=
  match request.target with
  | none => s
  | some t =>
    if t.device ∈ devices request.user then s.load id request
    else s.finish id request (.error 403 "Device not found or not authorized")

/-- The insertion and its commit, and none where the statement fails. -/
def Pool.stored (t : Target U) (a : Assignment) (now : String) : Option (VirtualIps U) :=
  match schema with
  | .mapped => none
  | .ensured => (T.stored t.deviceId).bind (fun u => s.table.upsert u a.ip now)

/-- The table without the device's row, if the statement does not fail. -/
def Pool.deleted (request : Request U) (t : Target U) : VirtualIps U :=
  if request.aborted then s.table
  else
    match T.stored t.deviceId with
    | none => s.table
    | some u => s.table.delete u

/-- A device is told that its address is released. -/
def Pool.finishRelease (id : Nat) (request : Request U) (t : Target U) (ip : Ipv4Addr) : Pool U :=
  { s with freed := t.device :: s.freed }.finish id request (.released t.deviceId ip)

def listedPeers (user : Nat) (assignedIps : Std.TreeMap String Assignment) :
    List (String × Assignment) :=
  assignedIps.toList.filter (fun e => e.1 ∈ (devices user).map T.str)

/-- What a request waits for is carried out, and the request goes on to its next wait. The model
lets others in between a load and the part after it, where the code does not. -/
def Pool.runPhase (id : Nat) (now : String) (request : Request U) : Pool U :=
  match request.phase, request.target with
  | .authorize, _ => s.authorize devices id request
  | .loadEnsure, _ => s.wait id { request with phase := .select }
  | .select, _ =>
    match schema with
    | .mapped => s.failLoad id request true
    | .ensured => s.wait id { request with phase := .loaded s.table.rows.toList }
  | .loaded rows, _ => (s.takeRows T rows now).wait id { request with phase := .body }
  | .body, _ => s.runBody id now request
  | .persistEnsure a, _ => s.wait id { request with phase := .insert a, aborted := false }
  | .insert a, some t =>
    { s with table := (s.stored T schema t a now).getD s.table }.finishAllocate id request t a
  | .delete ip, some t =>
    { s with table := s.deleted T request t }.finishRelease id request t ip
  | .peers, _ => s.finish id request (.peers (listedPeers T devices request.user s.assignedIps))
  | .insert _, none | .delete _, none => s

def internalError : Response := .error 500 "Internal Server Error"

/-- The statement that a request waits for fails, and some rollbacks after it. A failure to ensure
the table is passed over unless its rollback fails; that of a load ends the load. A failure to
store or to delete is passed over unless the last rollback fails. -/
def Pool.failPhase (id : Nat) (now : String) (applied : Bool) (rollbacks : Nat)
    (request : Request U) : Pool U :=
  match request.phase, request.target with
  | .authorize, _ | .peers, _ => s.finish id request internalError
  | .loadEnsure, _ =>
    match rollbacks with
    | 0 => s.wait id { request with phase := .select }
    | _ + 1 => s.failLoad id request true
  | .select, _ => s.failLoad id request true
  | .persistEnsure a, some t =>
    match rollbacks with
    | 0 => s.wait id { request with phase := .insert a, aborted := false }
    | 1 => s.finishAllocate id request t a
    | _ + 2 => s.finish id request internalError
  | .insert a, some t =>
    let s' := { s with table := if applied then (s.stored T schema t a now).getD s.table
      else s.table }
    match rollbacks with
    | 0 => s'.finishAllocate id request t a
    | _ + 1 => s'.finish id request internalError
  | .delete ip, some t =>
    let s' := { s with table := if applied then s.deleted T request t else s.table }
    match rollbacks with
    | 0 => s'.finishRelease id request t ip
    | _ + 1 => s'.finish id request internalError
  | .loaded _, _ | .body, _ => s
  | .persistEnsure _, none | .insert _, none | .delete _, none => s

/-- A restart loses the variables of the module and the requests under way. -/
def Pool.restart : Pool U :=
  { s with
    assignedIps := ∅
    ipToDevice := ∅
    nextHostIdx := 0
    dbLoaded := false
    requests := ∅ }

def Pool.step (op : Op) : Pool U :=
  let s := { s with answer := none }
  match op with
  | .begin id user call => s.begin T id user call
  | .run id now =>
    match s.requests[id]? with
    | none => s
    | some request => s.runPhase T schema devices id now request
  | .fail id now applied rollbacks =>
    match s.requests[id]? with
    | none => s
    | some request => s.failPhase T schema id now applied rollbacks request
  | .restart => s.restart

def Pool.runs (s : Pool U) (ops : List Op) : Pool U :=
  ops.foldl (Pool.step T schema devices) s

end Pool

end P2PMesh.Ipam
