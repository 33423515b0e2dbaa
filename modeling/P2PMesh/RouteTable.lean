import P2PMesh.Base.Net
import P2PMesh.Base.Run
import P2PMesh.Base.Selection
import P2PMesh.Base.Table

namespace P2PMesh.Router
open P2PMesh.Base
set_option autoImplicit true

inductive RouteType where
  | direct
  | static
  | mesh
  | default
deriving DecidableEq

/-- A route entry; instants are counted from some fixed moment. -/
structure Route where
  cidr : Ipv4Net
  peerId : String
  metric : Nat
  adminDistance : UInt8
  routeType : RouteType
  active : Bool
  addedAt : Nat
  lastUsed : Option Nat
deriving DecidableEq

structure EcmpGroup where
  cidr : Ipv4Net
  routes : List Route
  nextIdx : Nat
deriving DecidableEq

structure RouteTable where
  routes : Std.TreeMap String (List Route)
  ecmp : Std.TreeMap String EcmpGroup
  defaultRoute : Option Route

def RouteTable.new : RouteTable := ⟨∅, ∅, none⟩

/-- The routes of one CIDR after a route is added: it replaces the one to the same peer. -/
def mergeRoute (entry : List Route) (route : Route) : List Route :=
  sortByKey Route.metric (entry.filter (fun r => r.peerId ≠ route.peerId) ++ [route])

/-- The active routes of least metric in a sorted list. -/
def ecmpRoutes : List Route → List Route
  | [] => []
  | first :: rest =>
    (first :: rest).filter (fun r => r.metric = first.metric ∧ r.active = true)

def Route.setActive (peerId : String) (active : Bool) (r : Route) : Route :=
  if r.peerId = peerId then { r with active := active } else r

def Route.setMetric (peerId : String) (metric : Nat) (r : Route) : Route :=
  if r.peerId = peerId then { r with metric := metric } else r

section Operations
variable (N : Ipnet)

def RouteTable.addRoute (t : RouteTable) (route : Route) : RouteTable :=
  let cidrKey := N.toString route.cidr
  let entry := mergeRoute ((t.routes[cidrKey]?).getD []) route
  let t := { t with routes := t.routes.insert cidrKey entry }
  if 1 < entry.length ∧ 1 < (ecmpRoutes entry).length then
    { t with ecmp := t.ecmp.insert cidrKey ⟨route.cidr, ecmpRoutes entry, 0⟩ }
  else t

def RouteTable.removeRoute (t : RouteTable) (cidr : Ipv4Net) (peerId : String) : RouteTable :=
  let cidrKey := N.toString cidr
  match t.routes[cidrKey]? with
  | none => t
  | some entry =>
    let entry := entry.filter (fun r => r.peerId ≠ peerId)
    if entry.isEmpty then { t with routes := t.routes.erase cidrKey }
    else { t with routes := t.routes.insert cidrKey entry }

/-- One key of the scan for the longest prefix; a key that does not parse is passed over. -/
def scanEntry (dstIp : Ipv4Addr) (best : Option Route × Nat) (e : String × List Route) :
    Option Route × Nat :=
  match N.parse e.1 with
  | none => best
  | some cidr =>
    if N.contains cidr dstIp && e.2.any (·.active) && decide (best.2 < cidr.prefixLen) then
      match e.2.find? (·.active) with
      | some route => (some route, cidr.prefixLen)
      | none => best
    else best

def RouteTable.lookup (t : RouteTable) (dstIp : Ipv4Addr) : Option Route :=
  match (t.routes.toList.foldl (scanEntry N dstIp) (none, 0)).1 with
  | none => t.defaultRoute
  | some best => some best

/-- Round robin over the group of the best route's CIDR, if there is one. -/
def RouteTable.lookupEcmp (t : RouteTable) (dstIp : Ipv4Addr) : Option Route × RouteTable :=
  match t.lookup N dstIp with
  | none => (none, t)
  | some best =>
    let cidrKey := N.toString best.cidr
    match t.ecmp[cidrKey]? with
    | none => (some best, t)
    | some group =>
      if 1 < group.routes.length then
        let idx := group.nextIdx % group.routes.length
        let next := (group.nextIdx + 1) % group.routes.length
        (group.routes[idx]?,
          { t with ecmp := t.ecmp.insert cidrKey { group with nextIdx := next } })
      else (some best, t)

def RouteTable.setDefaultRoute (t : RouteTable) (route : Route) : RouteTable :=
  { t with defaultRoute := some route }

def RouteTable.deactivateRoute (t : RouteTable) (peerId : String) : RouteTable :=
  { t with routes := t.routes.map (fun _ entry => entry.map (Route.setActive peerId false)) }

def RouteTable.activateRoute (t : RouteTable) (peerId : String) : RouteTable :=
  { t with routes := t.routes.map (fun _ entry => entry.map (Route.setActive peerId true)) }

def RouteTable.updateMetric (t : RouteTable) (cidr : Ipv4Net) (peerId : String)
    (newMetric : Nat) : RouteTable :=
  let cidrKey := N.toString cidr
  match t.routes[cidrKey]? with
  | none => t
  | some entry =>
    let entry := sortByKey Route.metric (entry.map (Route.setMetric peerId newMetric))
    { t with routes := t.routes.insert cidrKey entry }

def RouteTable.flush (t : RouteTable) : RouteTable := { t with routes := ∅, ecmp := ∅ }

end Operations

inductive RouteOp where
  | addRoute (route : Route)
  | removeRoute (cidr : Ipv4Net) (peerId : String)
  | setDefaultRoute (route : Route)
  | deactivateRoute (peerId : String)
  | activateRoute (peerId : String)
  | updateMetric (cidr : Ipv4Net) (peerId : String) (newMetric : Nat)
  | flush
  | lookupEcmp (dstIp : Ipv4Addr)

section Runs
variable (N : Ipnet)

def RouteTable.step (t : RouteTable) : RouteOp → RouteTable
  | .addRoute route => t.addRoute N route
  | .removeRoute cidr peerId => t.removeRoute N cidr peerId
  | .setDefaultRoute route => t.setDefaultRoute route
  | .deactivateRoute peerId => t.deactivateRoute peerId
  | .activateRoute peerId => t.activateRoute peerId
  | .updateMetric cidr peerId newMetric => t.updateMetric N cidr peerId newMetric
  | .flush => t.flush
  | .lookupEcmp dstIp => (t.lookupEcmp N dstIp).2

def RouteTable.run (t : RouteTable) (ops : List RouteOp) : RouteTable :=
  ops.foldl (RouteTable.step N) t

def RouteTable.entry (t : RouteTable) (key : String) : List Route := (t.routes[key]?).getD []

/-- What an operation does to the routes under one key, whatever the rest of the table. -/
def RouteOp.onEntry (key : String) (entry : List Route) : RouteOp → List Route
  | .addRoute route => if N.toString route.cidr = key then mergeRoute entry route else entry
  | .removeRoute cidr peerId =>
    if N.toString cidr = key then entry.filter (fun r => r.peerId ≠ peerId) else entry
  | .setDefaultRoute _ => entry
  | .deactivateRoute peerId => entry.map (Route.setActive peerId false)
  | .activateRoute peerId => entry.map (Route.setActive peerId true)
  | .updateMetric cidr peerId newMetric =>
    if N.toString cidr = key then
      sortByKey Route.metric (entry.map (Route.setMetric peerId newMetric))
    else entry
  | .flush => []
  | .lookupEcmp _ => entry

def RouteOp.onDefault (default : Option Route) : RouteOp → Option Route
  | .setDefaultRoute route => some route
  | _ => default

variable {N}

theorem entry_insert (t : RouteTable) (key key' : String) (l : List Route) :
    ((t.routes.insert key l)[key']?).getD [] = if key = key' then l else t.entry key' := by
  rw [getElem?_insert_eq, RouteTable.entry]
  split <;> rfl

@[simp] theorem RouteTable.lookupEcmp_routes (t : RouteTable) (dst : Ipv4Addr) :
    (t.lookupEcmp N dst).2.routes = t.routes := by
  simp only [RouteTable.lookupEcmp]
  split
  · rfl
  · split
    · rfl
    · split <;> rfl

@[simp] theorem RouteTable.lookupEcmp_defaultRoute (t : RouteTable) (dst : Ipv4Addr) :
    (t.lookupEcmp N dst).2.defaultRoute = t.defaultRoute := by
  simp only [RouteTable.lookupEcmp]
  split
  · rfl
  · split
    · rfl
    · split <;> rfl

theorem RouteTable.addRoute_routes (t : RouteTable) (route : Route) :
    (t.addRoute N route).routes = t.routes.insert (N.toString route.cidr)
      (mergeRoute (t.entry (N.toString route.cidr)) route) := by
  simp only [RouteTable.addRoute, RouteTable.entry]
  split <;> rfl

theorem RouteTable.addRoute_defaultRoute (t : RouteTable) (route : Route) :
    (t.addRoute N route).defaultRoute = t.defaultRoute := by
  simp only [RouteTable.addRoute]
  split <;> rfl

theorem RouteTable.removeRoute_only (t : RouteTable) (cidr : Ipv4Net) (p : String) :
    ∃ routes, t.removeRoute N cidr p = { t with routes := routes } := by
  rw [RouteTable.removeRoute]
  dsimp only
  split
  · exact ⟨t.routes, rfl⟩
  · split
    · exact ⟨_, rfl⟩
    · exact ⟨_, rfl⟩

theorem RouteTable.updateMetric_only (t : RouteTable) (cidr : Ipv4Net) (p : String) (m : Nat) :
    ∃ routes, t.updateMetric N cidr p m = { t with routes := routes } := by
  rw [RouteTable.updateMetric]
  dsimp only
  split
  · exact ⟨t.routes, rfl⟩
  · exact ⟨_, rfl⟩

theorem RouteTable.entry_removeRoute (t : RouteTable) (cidr : Ipv4Net) (p key : String) :
    (t.removeRoute N cidr p).entry key =
      if N.toString cidr = key then (t.entry key).filter (fun r => r.peerId ≠ p)
      else t.entry key := by
  simp only [RouteTable.removeRoute]
  by_cases hk : N.toString cidr = key
  · rw [hk, if_pos rfl]
    split
    · next h => simp only [RouteTable.entry, h, Option.getD_none, List.filter_nil]
    · next entry h =>
      have he : t.entry key = entry := by rw [RouteTable.entry, h, Option.getD_some]
      rw [he]
      split
      · next hnil =>
        rw [List.isEmpty_iff.mp hnil, RouteTable.entry, Std.TreeMap.getElem?_erase_self]
        rfl
      · exact (entry_insert t key key _).trans (if_pos rfl)
  · rw [if_neg hk]
    split
    · rfl
    · split
      · rw [RouteTable.entry, getElem?_erase_of_ne _ hk]
        rfl
      · exact (entry_insert t _ key _).trans (if_neg hk)

theorem RouteTable.entry_updateMetric (t : RouteTable) (cidr : Ipv4Net) (p key : String)
    (m : Nat) : (t.updateMetric N cidr p m).entry key =
      if N.toString cidr = key then
        sortByKey Route.metric ((t.entry key).map (Route.setMetric p m))
      else t.entry key := by
  simp only [RouteTable.updateMetric]
  split
  · next h =>
    split
    · next hk =>
      have he : t.entry key = [] := by rw [RouteTable.entry, ← hk, h, Option.getD_none]
      rw [he]
      rfl
    · rfl
  · next entry h =>
    apply (entry_insert t _ key _).trans
    split
    · next hk =>
      have he : t.entry key = entry := by rw [RouteTable.entry, ← hk, h, Option.getD_some]
      rw [he]
    · rfl

theorem entry_map (t : RouteTable) (f : Route → Route) (key : String) :
    (((t.routes.map (fun _ entry => entry.map f))[key]?).getD [] : List Route) =
      (t.entry key).map f := by
  rw [Std.TreeMap.getElem?_map, RouteTable.entry]
  cases t.routes[key]? <;> rfl

/-- The table is the map from keys to lists that its operations describe key by key. -/
theorem RouteTable.entry_step (t : RouteTable) (op : RouteOp) (key : String) :
    (t.step N op).entry key = op.onEntry N key (t.entry key) := by
  cases op with
  | addRoute route =>
    change ((t.addRoute N route).routes[key]?).getD [] = _
    rw [RouteTable.addRoute_routes, entry_insert]
    simp only [RouteOp.onEntry]
    split
    · next hk => rw [hk]
    · rfl
  | removeRoute cidr p => exact t.entry_removeRoute cidr p key
  | setDefaultRoute route => rfl
  | deactivateRoute p => exact entry_map t _ key
  | activateRoute p => exact entry_map t _ key
  | updateMetric cidr p m => exact t.entry_updateMetric cidr p key m
  | flush =>
    change ((∅ : Std.TreeMap String (List Route))[key]?).getD [] = []
    rw [Std.TreeMap.getElem?_emptyc, Option.getD_none]
  | lookupEcmp dst =>
    change ((t.lookupEcmp N dst).2.routes[key]?).getD [] = _
    rw [RouteTable.lookupEcmp_routes]
    rfl

theorem RouteTable.defaultRoute_step (t : RouteTable) (op : RouteOp) :
    (t.step N op).defaultRoute = op.onDefault t.defaultRoute := by
  cases op with
  | addRoute route => exact t.addRoute_defaultRoute route
  | removeRoute cidr p =>
    obtain ⟨routes, he⟩ := t.removeRoute_only (N := N) cidr p
    rw [RouteTable.step, he]
    rfl
  | updateMetric cidr p m =>
    obtain ⟨routes, he⟩ := t.updateMetric_only (N := N) cidr p m
    rw [RouteTable.step, he]
    rfl
  | lookupEcmp dst => exact t.lookupEcmp_defaultRoute dst
  | setDefaultRoute | deactivateRoute | activateRoute | flush => rfl

end Runs

end P2PMesh.Router
