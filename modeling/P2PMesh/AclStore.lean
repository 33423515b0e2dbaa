import P2PMesh.Base.Run
import P2PMesh.ControlAcl

namespace P2PMesh.ControlAcl
open P2PMesh.Base
set_option autoImplicit true

/-- A row of the table of policies; its version is the key. -/
structure StoredPolicy where
  policy : AclPolicy
  active : Bool
  comment : String

def StoredPolicy.archive (row : StoredPolicy) : StoredPolicy := { row with active := false }

abbrev PolicyTable := Std.TreeMap Int StoredPolicy

/-- What a save waits for: the statement that ensures the table and its commit, the update that
archives, with the rows that it has found active once it is under way, the insertion and the
commit. -/
inductive SavePhase where
  | ensure
  | archive
  | archiving (found : List Int)
  | insert (version : Int) (row : StoredPolicy)
  | commit (version : Int) (row : StoredPolicy)

/-- What a request waits for. The save of a load stores the default policy. -/
inductive Phase where
  | loadEnsure
  | select
  | save (inLoad : Bool) (comment : String) (phase : SavePhase)

/-- The version that the transaction of the save has inserted. -/
def Phase.inserted : Phase → Option Int
  | .save _ _ (.commit version _) => some version
  | _ => none

/-- A request under way, with the rows that its open transaction has archived; one that only reads
the policy has no update. -/
structure Request where
  update : Option AclUpdate
  phase : Phase
  archived : List Int

inductive SaveResult where
  | saved
  | failed
  | duplicate
deriving DecidableEq

/-- The variables of the module, the committed rows, the requests under way by number and what came
of the last save that ended. -/
structure AclStore where
  policy : AclPolicy
  dbLoaded : Bool
  version : Int
  table : PolicyTable
  requests : Std.TreeMap Nat Request
  lastSave : Option SaveResult

/-- The state of the module when a process starts. -/
def AclStore.start (table : PolicyTable) : AclStore := ⟨defaultPolicy, false, 0, table, ∅, none⟩

def latestActive (table : PolicyTable) : Option (Int × StoredPolicy) :=
  (table.toList.filter (fun e => e.2.active)).getLast?

def activeVersions (table : PolicyTable) : List Int :=
  (table.toList.filter (fun e => e.2.active)).map (·.1)

def isActive (table : PolicyTable) (version : Int) : Bool :=
  table[version]?.any (·.active)

def archiveAll (table : PolicyTable) (versions : List Int) : PolicyTable :=
  versions.foldl (fun t version => t.modify version StoredPolicy.archive) table

inductive Op where
  | begin (id : Nat) (update : Option AclUpdate)
  | run (id : Nat)
  | fail (id : Nat) (applied : Bool)
  | restart

section Store
variable (s : AclStore)

def AclStore.wait (id : Nat) (request : Request) : AclStore :=
  { s with requests := s.requests.insert id request }

def AclStore.finish (id : Nat) : AclStore := { s with requests := s.requests.erase id }

def AclStore.startSave (id : Nat) (update : Option AclUpdate) (inLoad : Bool) (comment : String) :
    AclStore :=
  { s with version := s.version + 1 }.wait id ⟨update, .save inLoad comment .ensure, []⟩

/-- The part of a request after its load, up to the next await. -/
def AclStore.afterLoad (id : Nat) (update : Option AclUpdate) : AclStore :=
  match update with
  | none => s.finish id
  | some u =>
    match s.policy.update u with
    | .saved policy comment => { s with policy }.startSave id update false comment
    | .unchanged | .notFound _ => s.finish id

def AclStore.endLoad (id : Nat) (update : Option AclUpdate) : AclStore :=
  { s with dbLoaded := true }.afterLoad id update

def AclStore.endSave (id : Nat) (update : Option AclUpdate) (inLoad : Bool) (result : SaveResult) :
    AclStore :=
  if inLoad then { s with lastSave := some result }.endLoad id update
  else { s with lastSave := some result }.finish id

def AclStore.failSave (id : Nat) (update : Option AclUpdate) (inLoad : Bool)
    (result : SaveResult) : AclStore :=
  { s with version := s.version - 1 }.endSave id update inLoad result

/-- An open transaction of another request has changed one of the rows. -/
def AclStore.locked (id : Nat) (versions : List Int) : Bool :=
  s.requests.toList.any (fun e => e.1 ≠ id ∧ e.2.archived.any (· ∈ versions))

/-- An open transaction of another request has inserted the version. -/
def AclStore.pending (id : Nat) (version : Int) : Bool :=
  s.requests.toList.any (fun e => e.1 ≠ id ∧ e.2.phase.inserted = some version)

def AclStore.begin (id : Nat) (update : Option AclUpdate) : AclStore :=
  match s.requests[id]? with
  | some _ => s
  | none => if s.dbLoaded then s.afterLoad id update else s.wait id ⟨update, .loadEnsure, []⟩

def AclStore.select (id : Nat) (update : Option AclUpdate) : AclStore :=
  match latestActive s.table with
  | some (version, row) => { s with policy := row.policy, version }.endLoad id update
  | none => s.startSave id update true "default policy"

/-- The statement that a save waits for is carried out and the save goes on to its next await. A
row that another open transaction has changed, or a version that it has inserted, is waited for.
The entry is built after the update, from what is then in memory. -/
def AclStore.runSave (id : Nat) (request : Request) (inLoad : Bool) (comment : String) :
    SavePhase → AclStore
  | .ensure => s.wait id { request with phase := .save inLoad comment .archive }
  | .archive =>
    s.wait id { request with phase := .save inLoad comment (.archiving (activeVersions s.table)) }
  | .archiving found =>
    if s.locked id found then s
    else
      s.wait id { request with
        phase := .save inLoad comment (.insert s.version ⟨s.policy, true, comment⟩)
        archived := found.filter (isActive s.table) }
  | .insert version row =>
    if s.pending id version then s
    else if (s.table[version]?).isSome then s.failSave id request.update inLoad .duplicate
    else s.wait id { request with phase := .save inLoad comment (.commit version row) }
  | .commit version row =>
    { s with table := (archiveAll s.table request.archived).insert version row }.endSave id
      request.update inLoad .saved

def AclStore.run (id : Nat) : AclStore :=
  match s.requests[id]? with
  | none => s
  | some request =>
    match request.phase with
    | .loadEnsure => s.wait id { request with phase := .select }
    | .select => s.select id request.update
    | .save inLoad comment phase => s.runSave id request inLoad comment phase

/-- The statement that a request waits for fails. A failure to ensure the table is passed over, a
failed query ends the load; a commit may be reported as failed although it has been applied. -/
def AclStore.fail (id : Nat) (applied : Bool) : AclStore :=
  match s.requests[id]? with
  | none => s
  | some request =>
    match request.phase with
    | .loadEnsure => s.wait id { request with phase := .select }
    | .select => s.endLoad id request.update
    | .save inLoad comment .ensure =>
      s.wait id { request with phase := .save inLoad comment .archive }
    | .save inLoad _ (.commit version row) =>
      let table := if applied then (archiveAll s.table request.archived).insert version row
        else s.table
      { s with table }.failSave id request.update inLoad .failed
    | .save inLoad _ _ => s.failSave id request.update inLoad .failed

def AclStore.step : Op → AclStore
  | .begin id update => s.begin id update
  | .run id => s.run id
  | .fail id applied => s.fail id applied
  | .restart => .start s.table

end Store

def AclStore.runs (s : AclStore) (ops : List Op) : AclStore := ops.foldl AclStore.step s

end P2PMesh.ControlAcl
