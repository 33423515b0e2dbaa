import P2PMesh.SignalingService

namespace P2PMesh.Signaling
open P2PMesh.Base
set_option autoImplicit true

/-- What a hub has of a user: the connections of the devices that the user owns, and the set of
devices that it has for the user. -/
structure HubView where
  entry : Uuid → Option DeviceConnection
  devices : Std.TreeSet Uuid

def SignalingHub.seenBy (h : SignalingHub) (owner : Uuid → Uuid) (v : Uuid) : HubView where
  entry d := if owner d = v then h.connection d else none
  devices := h.devicesOf v

structure StoreView (k : Nat) where
  nodes : Uuid → Option (Fin k)
  count : Option UserCount

def SharedStore.seenBy (r : SharedStore k) (v : Uuid) : StoreView k :=
  ⟨r.deviceNodes v, r.userCounts v⟩

structure ClusterView (k : Nat) where
  hubs : Fin k → HubView
  store : StoreView k
  sessions : Nat → Option (ClusterSession k)

/-- Of the cluster a user sees its sessions, and its part of the hubs and of the store. -/
def Cluster.seenBy (t : Cluster k) (owner : Uuid → Uuid) (tokens : Nat → Uuid) (v : Uuid) :
    ClusterView k where
  hubs n := (t.hubs n).seenBy owner v
  store := t.store.seenBy v
  sessions id := if tokens id = v then t.sessions[id]? else none

/-- A hub has every device for its owner, and connected by a socket of its owner. -/
structure SignalingHub.Separate (h : SignalingHub) (owner : Uuid → Uuid) (tokens : Nat → Uuid) :
    Prop where
  entry : ∀ d conn, h.connection d = some conn → conn.userId = owner d ∧ tokens conn.ws = owner d
  devices : ∀ u d, d ∈ h.devicesOf u → owner d = u
  limit : h.maxConnectionsPerUser = some 5

/-- The users and the devices that a phase has in it are the user itself and the user's devices. -/
def CallPhase.Concerns (owner : Uuid → Uuid) (u : Uuid) : CallPhase → Prop
  | .connected notify => ∀ d ∈ notify, owner d = u
  | .unregistering u' | .keyDeleted u' | .uncountedGlobal u' | .uncountedUser u' => u' = u
  | .left u' notify => u' = u ∧ ∀ d ∈ notify, owner d = u
  | _ => True

/-- A session is of the user whom its token names, and of a device that the user owns. -/
structure ClusterSession.Concerns (s : ClusterSession k) (owner : Uuid → Uuid) (u : Uuid) :
    Prop where
  user : s.userId = u
  device : owner s.deviceId = u
  phase : s.phase.Concerns owner u

structure Cluster.Separate (t : Cluster k) (owner : Uuid → Uuid) (tokens : Nat → Uuid) :
    Prop where
  hubs : ∀ n, (t.hubs n).Separate owner tokens
  sessions : ∀ (id : Nat) (s : ClusterSession k), t.sessions[id]? = some s →
    s.Concerns owner (tokens id)

/-- Every token names its user: a session is of the user of the token that its socket came with. -/
def CallOp.Authentic (tokens : Nat → Uuid) : CallOp k → Prop
  | .arrive id _ _ userId => userId = tokens id
  | _ => True

/-- A session is opened for a device that the user of its token owns. -/
def CallOp.Entitled (owner : Uuid → Uuid) (tokens : Nat → Uuid) : CallOp k → Prop
  | .arrive id _ deviceId _ => owner deviceId = tokens id
  | _ => True

/-- A session of the user is not turned away because the service or its node is full. -/
def Cluster.HasRoom (t : Cluster k) (tokens : Nat → Uuid) (v : Uuid) : CallOp k → Prop
  | .advance id => tokens id = v → ∀ s ∈ t.sessions[id]?,
    (s.phase = .arrived → t.store.checkGlobalConnectionLimit = true) ∧
    (s.phase = .checkedUser →
      (t.hubs s.node).connections.size < (t.hubs s.node).maxConnections)
  | _ => True

/-- The user whose session, or whose counter in the store, a step is about. -/
def CallOp.user (tokens : Nat → Uuid) : CallOp k → Uuid
  | .arrive id _ _ _ | .advance id | .close id => tokens id
  | .expire userId => userId

section Hub
variable {owner : Uuid → Uuid} {tokens : Nat → Uuid} {h h' : SignalingHub} {v d : Uuid}

theorem connection_of_seenBy (hview : h.seenBy owner v = h'.seenBy owner v) (hd : owner d = v) :
    h.connection d = h'.connection d := by
  have hentry : (if owner d = v then h.connection d else none) =
      if owner d = v then h'.connection d else none := congrFun (congrArg HubView.entry hview) d
  rwa [if_pos hd, if_pos hd] at hentry

theorem devicesOf_of_seenBy (hview : h.seenBy owner v = h'.seenBy owner v) :
    h.devicesOf v = h'.devicesOf v :=
  congrArg HubView.devices hview

theorem devicesOf_disconnect {conn : DeviceConnection} (hd : h.connection d = some conn)
    (u : Uuid) : (h.disconnect d).devicesOf u =
      if conn.userId = u then
        if ((h.devicesOf u).erase d).isEmpty then ∅ else (h.devicesOf u).erase d
      else h.devicesOf u := by
  rw [SignalingHub.devicesOf, userDevices_disconnect hd]
  split
  · split <;> rfl
  · rfl

theorem disconnect_of_none (hd : h.connection d = none) : h.disconnect d = h := by
  rw [SignalingHub.disconnect, hd]

theorem seenBy_insert_of_ne {u : Uuid} (ws : Nat) (hd : owner d = u) (hu : u ≠ v) :
    (h.insert ⟨d, u, ws⟩).seenBy owner v = h.seenBy owner v := by
  have hentry : ((h.insert ⟨d, u, ws⟩).seenBy owner v).entry = (h.seenBy owner v).entry := by
    funext d'
    rw [SignalingHub.seenBy, SignalingHub.seenBy]
    dsimp only
    split
    · next hd' =>
      rw [connection_insert, if_neg]
      rintro rfl
      exact hu (hd.symm.trans hd')
    · rfl
  have hdevices : (h.insert ⟨d, u, ws⟩).devicesOf v = h.devicesOf v := by
    rw [devicesOf_insert, if_neg hu]
  exact congrArg₂ HubView.mk hentry hdevices

theorem seenBy_insert_congr (hview : h.seenBy owner v = h'.seenBy owner v) (c : DeviceConnection) :
    (h.insert c).seenBy owner v = (h'.insert c).seenBy owner v := by
  have hentry : ((h.insert c).seenBy owner v).entry = ((h'.insert c).seenBy owner v).entry := by
    funext d'
    rw [SignalingHub.seenBy, SignalingHub.seenBy]
    dsimp only
    split
    · next hd' => rw [connection_insert, connection_insert, connection_of_seenBy hview hd']
    · rfl
  have hdevices : (h.insert c).devicesOf v = (h'.insert c).devicesOf v := by
    rw [devicesOf_insert, devicesOf_insert, devicesOf_of_seenBy hview]
  exact congrArg₂ HubView.mk hentry hdevices

theorem SignalingHub.Separate.seenBy_disconnect_of_ne (hs : h.Separate owner tokens)
    (hd : owner d ≠ v) : (h.disconnect d).seenBy owner v = h.seenBy owner v := by
  cases hconn : h.connection d with
  | none => rw [disconnect_of_none hconn]
  | some conn =>
    have hentry : ((h.disconnect d).seenBy owner v).entry = (h.seenBy owner v).entry := by
      funext d'
      rw [SignalingHub.seenBy, SignalingHub.seenBy]
      dsimp only
      split
      · next hd' =>
        rw [connection_disconnect, if_neg]
        rintro rfl
        exact hd hd'
      · rfl
    have hdevices : (h.disconnect d).devicesOf v = h.devicesOf v := by
      rw [devicesOf_disconnect hconn, (hs.entry d conn hconn).1, if_neg hd]
    exact congrArg₂ HubView.mk hentry hdevices

theorem seenBy_disconnect_congr (hview : h.seenBy owner v = h'.seenBy owner v)
    (hd : owner d = v) : (h.disconnect d).seenBy owner v = (h'.disconnect d).seenBy owner v := by
  have hsame := connection_of_seenBy hview hd
  cases hconn : h.connection d with
  | none => rw [disconnect_of_none hconn, disconnect_of_none (hsame.symm.trans hconn), hview]
  | some conn =>
    have hconn' : h'.connection d = some conn := hsame.symm.trans hconn
    have hentry : ((h.disconnect d).seenBy owner v).entry =
        ((h'.disconnect d).seenBy owner v).entry := by
      funext d'
      rw [SignalingHub.seenBy, SignalingHub.seenBy]
      dsimp only
      split
      · next hd' =>
        rw [connection_disconnect, connection_disconnect, connection_of_seenBy hview hd']
      · rfl
    have hdevices : (h.disconnect d).devicesOf v = (h'.disconnect d).devicesOf v := by
      rw [devicesOf_disconnect hconn, devicesOf_disconnect hconn', devicesOf_of_seenBy hview]
    exact congrArg₂ HubView.mk hentry hdevices

theorem SignalingHub.Separate.insert (hs : h.Separate owner tokens) {u : Uuid} {ws : Nat}
    (hd : owner d = u) (hws : tokens ws = u) : (h.insert ⟨d, u, ws⟩).Separate owner tokens where
  entry := by
    intro d' conn hconn
    rw [connection_insert] at hconn
    split at hconn
    · next he =>
      cases hconn
      cases he
      exact ⟨hd.symm, hws.trans hd.symm⟩
    · exact hs.entry d' conn hconn
  devices := by
    intro u' d' hd'
    rcases (mem_devicesOf_insert _ _ _).mp hd' with ⟨rfl, rfl⟩ | hd'
    · exact hd
    · exact hs.devices u' d' hd'
  limit := hs.limit

theorem SignalingHub.Separate.disconnect (hs : h.Separate owner tokens) (d : Uuid) :
    (h.disconnect d).Separate owner tokens := by
  cases hconn : h.connection d with
  | none => rwa [disconnect_of_none hconn]
  | some conn =>
    constructor
    · intro d' conn' hconn'
      rw [connection_disconnect] at hconn'
      split at hconn'
      · cases hconn'
      · exact hs.entry d' conn' hconn'
    · intro u d' hd'
      exact hs.devices u d' ((mem_devicesOf_disconnect hconn u d').mp hd').1
    · rw [SignalingHub.disconnect, hconn]
      exact hs.limit

/-- In a hub that has room, whether a user may connect depends on the user's devices alone. -/
theorem SignalingHub.Separate.checkLimits_eq (hs : h.Separate owner tokens)
    (hroom : h.connections.size < h.maxConnections) (u : Uuid) : h.checkLimits u =
      if 5 ≤ (h.devicesOf u).size then .error (.userAtLimit u 5) else .ok () := by
  rw [SignalingHub.checkLimits, if_neg (Nat.not_le.mpr hroom), hs.limit]

theorem SignalingHub.Separate.relayTarget_eq (hs : h.Separate owner tokens) (d d' : Uuid) :
    h.relayTarget d d' = (h.connection d).bind (fun _ =>
      if owner d = owner d' then h.connection d' else none) := by
  rw [SignalingHub.relayTarget]
  cases hd : h.connection d with
  | none => rfl
  | some sender =>
    rw [Option.bind_some]
    cases hd' : h.connection d' with
    | none => exact (ite_self none).symm
    | some target =>
      dsimp only
      rw [(hs.entry d sender hd).1, (hs.entry d' target hd').1]
      by_cases he : owner d = owner d'
      · rw [if_neg (not_not.mpr he), if_pos he]
      · rw [if_pos he, if_neg he]

theorem relayTarget_of_seenBy (hs : h.Separate owner tokens) (hs' : h'.Separate owner tokens)
    (hview : h.seenBy owner v = h'.seenBy owner v) (hd : owner d = v) (d' : Uuid) :
    h.relayTarget d d' = h'.relayTarget d d' := by
  rw [hs.relayTarget_eq, hs'.relayTarget_eq, connection_of_seenBy hview hd]
  by_cases he : owner d = owner d'
  · rw [connection_of_seenBy hview (he.symm.trans hd)]
  · rw [if_neg he, if_neg he]

theorem getOnlinePeers_of_seenBy (hs : h.Separate owner tokens)
    (hview : h.seenBy owner v = h'.seenBy owner v) (hd : owner d = v) :
    h.getOnlinePeers d = h'.getOnlinePeers d := by
  rw [SignalingHub.getOnlinePeers, SignalingHub.getOnlinePeers, ← connection_of_seenBy hview hd]
  cases hconn : h.connection d with
  | none => rfl
  | some conn =>
    dsimp only
    rw [(hs.entry d conn hconn).1, hd, ← devicesOf_of_seenBy hview]
    apply List.filter_congr
    intro other hother
    rw [connection_of_seenBy hview (hs.devices v other (Std.TreeSet.mem_toList.mp hother))]

theorem SignalingHub.Separate.owner_of_mem_peers (hs : h.Separate owner tokens) {d' : Uuid}
    (hd' : d' ∈ h.getOnlinePeers d) : owner d' = owner d := by
  rw [SignalingHub.getOnlinePeers] at hd'
  cases hconn : h.connection d with
  | none =>
    rw [hconn] at hd'
    cases hd'
  | some conn =>
    rw [hconn] at hd'
    have hmem := (List.mem_filter.mp hd').1
    rw [(hs.entry d conn hconn).1] at hmem
    exact hs.devices (owner d) d' (Std.TreeSet.mem_toList.mp hmem)

end Hub

section Store
variable {r : SharedStore k} {u v : Uuid}

theorem SharedStore.seenBy_setNode (d : Uuid) (node : Option (Fin k)) :
    (r.setNode u d node).seenBy v =
      if u = v then ⟨Function.update (r.seenBy v).nodes d node, (r.seenBy v).count⟩
      else r.seenBy v := by
  rw [SharedStore.seenBy, SharedStore.setNode]
  dsimp only
  split
  · next hu =>
    rw [hu, Function.update_self]
    rfl
  · next hu =>
    rw [Function.update_of_ne (Ne.symm hu)]
    rfl

theorem SharedStore.seenBy_updateCount (count : Option UserCount) :
    SharedStore.seenBy ⟨r.deviceNodes, r.globalConnections,
      Function.update r.userCounts u count⟩ v =
        if u = v then ⟨(r.seenBy v).nodes, count⟩ else r.seenBy v := by
  rw [SharedStore.seenBy]
  dsimp only
  split
  · next hu =>
    rw [hu, Function.update_self]
    rfl
  · next hu =>
    rw [Function.update_of_ne (Ne.symm hu)]
    rfl

theorem SharedStore.seenBy_addUser_of_ne (amount : Int) (hu : u ≠ v) :
    (r.addUser u amount).seenBy v = r.seenBy v :=
  (seenBy_updateCount _).trans (if_neg hu)

theorem SharedStore.seenBy_setExpiry_of_ne (hu : u ≠ v) :
    (r.setExpiry u).seenBy v = r.seenBy v :=
  (seenBy_updateCount _).trans (if_neg hu)

theorem SharedStore.seenBy_expire_of_ne (hu : u ≠ v) : (r.expire u).seenBy v = r.seenBy v :=
  (seenBy_updateCount _).trans (if_neg hu)

variable {r' : SharedStore k}

theorem SharedStore.count_of_seenBy (hview : r.seenBy v = r'.seenBy v) :
    r.userCounts v = r'.userCounts v :=
  congrArg StoreView.count hview

theorem SharedStore.userCount_of_seenBy (hview : r.seenBy v = r'.seenBy v) :
    r.userCount v = r'.userCount v := by
  rw [SharedStore.userCount, count_of_seenBy hview, SharedStore.userCount]

theorem SharedStore.seenBy_addUser_congr (hview : r.seenBy v = r'.seenBy v) (amount : Int) :
    (r.addUser v amount).seenBy v = (r'.addUser v amount).seenBy v := by
  rw [SharedStore.addUser, SharedStore.addUser, seenBy_updateCount, seenBy_updateCount,
    userCount_of_seenBy hview, count_of_seenBy hview, hview]

theorem SharedStore.seenBy_setExpiry_congr (hview : r.seenBy v = r'.seenBy v) :
    (r.setExpiry v).seenBy v = (r'.setExpiry v).seenBy v := by
  rw [SharedStore.setExpiry, SharedStore.setExpiry, seenBy_updateCount, seenBy_updateCount,
    count_of_seenBy hview, hview]

theorem SharedStore.seenBy_expire_congr (hview : r.seenBy v = r'.seenBy v) :
    (r.expire v).seenBy v = (r'.expire v).seenBy v := by
  rw [SharedStore.expire, SharedStore.expire, seenBy_updateCount, seenBy_updateCount,
    count_of_seenBy hview, hview]

end Store

section Cluster
variable {owner : Uuid → Uuid} {tokens : Nat → Uuid} {t t' : Cluster k} {v : Uuid}
variable {id : Nat} {s : ClusterSession k}

theorem Cluster.seenBy_at (phase : CallPhase) : (t.at id s phase).seenBy owner tokens v =
    if tokens id = v then
      { t.seenBy owner tokens v with
        sessions := Function.update (t.seenBy owner tokens v).sessions id
          (some { s with phase := phase }) }
    else t.seenBy owner tokens v := by
  have hsessions (hid : tokens id = v) : ((t.at id s phase).seenBy owner tokens v).sessions =
      Function.update (t.seenBy owner tokens v).sessions id (some { s with phase := phase }) := by
    funext id'
    rw [Function.update_apply, Cluster.seenBy]
    dsimp only
    rw [Cluster.sessions_at]
    by_cases he : id = id'
    · rw [if_pos he, if_pos he.symm, ← he, if_pos hid]
    · rw [if_neg he, if_neg (Ne.symm he)]
      rfl
  have hothers (hid : tokens id ≠ v) : ((t.at id s phase).seenBy owner tokens v).sessions =
      (t.seenBy owner tokens v).sessions := by
    funext id'
    rw [Cluster.seenBy, Cluster.seenBy]
    dsimp only
    split
    · next hid' =>
      rw [Cluster.sessions_at, if_neg]
      rintro rfl
      exact hid hid'
    · rfl
  split
  · next hid => exact congrArg (ClusterView.mk _ _) (hsessions hid)
  · next hid => exact congrArg (ClusterView.mk _ _) (hothers hid)

theorem Cluster.seenBy_setHub (n : Fin k) (hub : SignalingHub) :
    (t.setHub n hub).seenBy owner tokens v = { t.seenBy owner tokens v with
      hubs := Function.update (t.seenBy owner tokens v).hubs n (hub.seenBy owner v) } := by
  have hhubs : ((t.setHub n hub).seenBy owner tokens v).hubs =
      Function.update (t.seenBy owner tokens v).hubs n (hub.seenBy owner v) := by
    funext m
    rw [Function.update_apply, Cluster.seenBy]
    dsimp only
    rw [Cluster.hubs_setHub]
    split <;> rfl
  exact congrArg (ClusterView.mk · _ _) hhubs

theorem Cluster.seenBy_setHub_of_eq {n : Fin k} {hub : SignalingHub}
    (hhub : hub.seenBy owner v = (t.hubs n).seenBy owner v) :
    (t.setHub n hub).seenBy owner tokens v = t.seenBy owner tokens v := by
  rw [Cluster.seenBy_setHub, hhub]
  exact congrArg (ClusterView.mk · _ _) (Function.update_eq_self n _)

theorem Cluster.seenBy_setStore (store : SharedStore k) :
    (t.setStore store).seenBy owner tokens v =
      { t.seenBy owner tokens v with store := store.seenBy v } :=
  rfl

theorem Cluster.session_of_seenBy (hview : t.seenBy owner tokens v = t'.seenBy owner tokens v)
    (hid : tokens id = v) : t.sessions[id]? = t'.sessions[id]? := by
  have hsession : (if tokens id = v then t.sessions[id]? else none) =
      if tokens id = v then t'.sessions[id]? else none :=
    congrFun (congrArg ClusterView.sessions hview) id
  rwa [if_pos hid, if_pos hid] at hsession

theorem Cluster.hub_of_seenBy (hview : t.seenBy owner tokens v = t'.seenBy owner tokens v)
    (n : Fin k) : (t.hubs n).seenBy owner v = (t'.hubs n).seenBy owner v :=
  congrFun (congrArg ClusterView.hubs hview) n

theorem Cluster.store_of_seenBy (hview : t.seenBy owner tokens v = t'.seenBy owner tokens v) :
    t.store.seenBy v = t'.store.seenBy v :=
  congrArg ClusterView.store hview

theorem Cluster.Separate.at (h : t.Separate owner tokens) {phase : CallPhase}
    (hs : ClusterSession.Concerns { s with phase := phase } owner (tokens id)) :
    (t.at id s phase).Separate owner tokens where
  hubs := h.hubs
  sessions := by
    intro id' s' hs'
    rw [Cluster.sessions_at] at hs'
    split at hs'
    · next he =>
      cases hs'
      cases he
      exact hs
    · exact h.sessions id' s' hs'

theorem Cluster.Separate.setHub (h : t.Separate owner tokens) {n : Fin k} {hub : SignalingHub}
    (hhub : hub.Separate owner tokens) : (t.setHub n hub).Separate owner tokens where
  hubs m := by
    rw [Cluster.hubs_setHub]
    split
    · exact hhub
    · exact h.hubs m
  sessions := h.sessions

theorem Cluster.Separate.setStore (h : t.Separate owner tokens) (store : SharedStore k) :
    (t.setStore store).Separate owner tokens where
  hubs := h.hubs
  sessions := h.sessions

end Cluster

section ClusterSteps
variable {owner : Uuid → Uuid} {tokens : Nat → Uuid} {t t' : Cluster k} {v : Uuid}
variable {id : Nat} {s : ClusterSession k}

theorem Cluster.Separate.seenBy_advance_of_ne (h : t.Separate owner tokens)
    (hs : t.sessions[id]? = some s) (hid : tokens id ≠ v) :
    (t.advance id s).seenBy owner tokens v = t.seenBy owner tokens v := by
  obtain ⟨huser, hdevice, hphase⟩ := h.sessions id s hs
  have hat (c : Cluster k) (phase : CallPhase) :
      (c.at id s phase).seenBy owner tokens v = c.seenBy owner tokens v := by
    rw [Cluster.seenBy_at, if_neg hid]
  have hstore (store : SharedStore k) (hsame : store.seenBy v = t.store.seenBy v)
      (phase : CallPhase) :
      ((t.setStore store).at id s phase).seenBy owner tokens v = t.seenBy owner tokens v := by
    rw [hat, Cluster.seenBy_setStore, hsame]
    rfl
  have hu : s.userId ≠ v := huser ▸ hid
  unfold Cluster.advance
  generalize s.phase = phase at hphase
  cases phase with
  | arrived => exact hat _ _
  | checkedGlobal => exact hat _ _
  | checkedUser =>
    dsimp only
    unfold Cluster.connect
    split
    · exact hat _ _
    · next hub hc =>
      rw [hat]
      apply Cluster.seenBy_setHub_of_eq
      rw [connect_eq_ok hc]
      exact seenBy_insert_of_ne id (hdevice.trans huser.symm) hu
  | connected notify =>
    cases notify with
    | nil =>
      apply hstore
      rw [SharedStore.seenBy_setNode, if_neg hu]
    | cons d notify => exact hat _ _
  | keySet => exact hstore _ rfl _
  | countedGlobal => exact hstore _ (SharedStore.seenBy_addUser_of_ne _ hu) _
  | countedUser => exact hstore _ (SharedStore.seenBy_setExpiry_of_ne hu) _
  | expirySet => exact hat _ _
  | serving => rfl
  | unregistering u =>
    have hu' : u ≠ v := fun hv => hid (hphase.symm.trans hv)
    apply hstore
    rw [SharedStore.seenBy_setNode, if_neg hu']
  | keyDeleted u => exact hstore _ rfl _
  | uncountedGlobal u =>
    have hu' : u ≠ v := fun hv => hid (hphase.symm.trans hv)
    exact hstore _ (SharedStore.seenBy_addUser_of_ne _ hu') _
  | uncountedUser u => exact hat _ _
  | leaving =>
    dsimp only
    unfold Cluster.leave
    split
    · exact hat _ _
    · rw [hat]
      apply Cluster.seenBy_setHub_of_eq
      exact (h.hubs s.node).seenBy_disconnect_of_ne (hdevice ▸ hid)
  | left u notify =>
    cases notify with
    | nil => exact hat _ _
    | cons d notify => exact hat _ _
  | ended => rfl

/-- What a session of the user comes to in the user's eyes depends on what the user sees. -/
theorem Cluster.Separate.seenBy_advance_congr (h : t.Separate owner tokens)
    (h' : t'.Separate owner tokens) (hs : t.sessions[id]? = some s)
    (hs' : t'.sessions[id]? = some s) (hid : tokens id = v)
    (hroom : t.HasRoom tokens v (.advance id)) (hroom' : t'.HasRoom tokens v (.advance id))
    (hview : t.seenBy owner tokens v = t'.seenBy owner tokens v) :
    (t.advance id s).seenBy owner tokens v = (t'.advance id s).seenBy owner tokens v := by
  obtain ⟨huser, hdevice, hphase⟩ := h.sessions id s hs
  obtain ⟨hglobal, hnode⟩ := hroom hid s hs
  obtain ⟨hglobal', hnode'⟩ := hroom' hid s hs'
  have hat {c c' : Cluster k} (hc : c.seenBy owner tokens v = c'.seenBy owner tokens v)
      (phase : CallPhase) :
      (c.at id s phase).seenBy owner tokens v = (c'.at id s phase).seenBy owner tokens v := by
    rw [Cluster.seenBy_at, Cluster.seenBy_at, hc]
  have hstore {store store' : SharedStore k} (hsame : store.seenBy v = store'.seenBy v)
      (phase : CallPhase) : ((t.setStore store).at id s phase).seenBy owner tokens v =
        ((t'.setStore store').at id s phase).seenBy owner tokens v := by
    apply hat
    rw [Cluster.seenBy_setStore, Cluster.seenBy_setStore, hsame, hview]
  have hset {hub hub' : SignalingHub} (hsame : hub.seenBy owner v = hub'.seenBy owner v) :
      (t.setHub s.node hub).seenBy owner tokens v =
        (t'.setHub s.node hub').seenBy owner tokens v := by
    rw [Cluster.seenBy_setHub, Cluster.seenBy_setHub, hsame, hview]
  have hhub := Cluster.hub_of_seenBy hview s.node
  have hsees := Cluster.store_of_seenBy hview
  have hu : s.userId = v := huser.trans hid
  unfold Cluster.advance
  generalize s.phase = phase at hphase hglobal hnode hglobal' hnode'
  cases phase with
  | arrived =>
    dsimp only
    rw [hglobal rfl, hglobal' rfl]
    exact hat hview _
  | checkedGlobal =>
    dsimp only
    rw [SharedStore.checkUserConnectionLimit, SharedStore.checkUserConnectionLimit, hu,
      SharedStore.userCount_of_seenBy hsees]
    exact hat hview _
  | checkedUser =>
    dsimp only
    rw [Cluster.connect, Cluster.connect, SignalingHub.connect, SignalingHub.connect,
      (h.hubs s.node).checkLimits_eq (hnode rfl), (h'.hubs s.node).checkLimits_eq (hnode' rfl), hu,
      devicesOf_of_seenBy hhub]
    by_cases hlimit : 5 ≤ ((t'.hubs s.node).devicesOf v).size
    · rw [if_pos hlimit]
      exact hat hview _
    · rw [if_neg hlimit]
      dsimp only
      have hinsert := seenBy_insert_congr hhub ⟨s.deviceId, v, id⟩
      rw [devicesOf_of_seenBy hinsert]
      exact hat (hset hinsert) _
  | connected notify =>
    cases notify with
    | nil =>
      apply hstore
      rw [SharedStore.seenBy_setNode, SharedStore.seenBy_setNode, hsees]
    | cons d notify => exact hat hview _
  | keySet => exact hstore hsees _
  | countedGlobal =>
    dsimp only
    rw [hu]
    exact hstore (SharedStore.seenBy_addUser_congr hsees 1) _
  | countedUser =>
    dsimp only
    rw [hu]
    exact hstore (SharedStore.seenBy_setExpiry_congr hsees) _
  | expirySet => exact hat hview _
  | serving => exact hview
  | unregistering u =>
    apply hstore
    rw [SharedStore.seenBy_setNode, SharedStore.seenBy_setNode, hsees]
  | keyDeleted u => exact hstore hsees _
  | uncountedGlobal u =>
    cases hphase.trans hid
    exact hstore (SharedStore.seenBy_addUser_congr hsees (-1)) _
  | uncountedUser u => exact hat hview _
  | leaving =>
    dsimp only
    have hd := hdevice.trans hid
    rw [Cluster.leave, Cluster.leave, connection_of_seenBy hhub hd]
    cases hconn : (t'.hubs s.node).connection s.deviceId with
    | none => exact hat hview _
    | some conn =>
      dsimp only
      have hdisconnect := seenBy_disconnect_congr hhub hd
      rw [(((h'.hubs s.node).entry _ conn hconn).1).trans hd, devicesOf_of_seenBy hdisconnect]
      exact hat (hset hdisconnect) _
  | left u notify =>
    cases notify with
    | nil => exact hat hview _
    | cons d notify => exact hat hview _
  | ended => exact hview

theorem Cluster.Separate.advance (h : t.Separate owner tokens) (hs : t.sessions[id]? = some s) :
    (t.advance id s).Separate owner tokens := by
  have hsession := h.sessions id s hs
  obtain ⟨huser, hdevice, hphase⟩ := hsession
  have hat {c : Cluster k} (hc : c.Separate owner tokens) {phase : CallPhase}
      (hp : phase.Concerns owner (tokens id)) : (c.at id s phase).Separate owner tokens :=
    hc.at ⟨huser, hdevice, hp⟩
  unfold Cluster.advance
  generalize s.phase = phase at hphase
  cases phase with
  | arrived =>
    apply hat h
    split <;> trivial
  | checkedGlobal =>
    apply hat h
    split <;> trivial
  | checkedUser =>
    dsimp only
    unfold Cluster.connect
    split
    · exact hat h trivial
    · next hub hc =>
      have hinsert := (h.hubs s.node).insert (hdevice.trans huser.symm) huser.symm
      rw [connect_eq_ok hc]
      apply hat (h.setHub hinsert)
      intro d hd
      rw [hinsert.devices _ d (Std.TreeSet.mem_toList.mp hd), huser]
  | connected notify =>
    cases notify with
    | nil => exact hat (h.setStore _) trivial
    | cons d notify => exact hat h (fun d' hd' => hphase d' (List.mem_cons_of_mem d hd'))
  | keySet => exact hat (h.setStore _) trivial
  | countedGlobal => exact hat (h.setStore _) trivial
  | countedUser => exact hat (h.setStore _) trivial
  | expirySet => exact hat h trivial
  | serving => exact h
  | unregistering u => exact hat (h.setStore _) hphase
  | keyDeleted u => exact hat (h.setStore _) hphase
  | uncountedGlobal u => exact hat (h.setStore _) hphase
  | uncountedUser u => exact hat h trivial
  | leaving =>
    dsimp only
    unfold Cluster.leave
    split
    · exact hat h trivial
    · next conn hconn =>
      have hdisconnect := (h.hubs s.node).disconnect s.deviceId
      have howner := ((h.hubs s.node).entry _ conn hconn).1.trans hdevice
      apply hat (h.setHub hdisconnect)
      refine ⟨howner, ?_⟩
      intro d hd
      rw [hdisconnect.devices _ d (Std.TreeSet.mem_toList.mp hd), howner]
  | left u notify =>
    cases notify with
    | nil => exact hat h trivial
    | cons d notify =>
      exact hat h ⟨hphase.1, fun d' hd' => hphase.2 d' (List.mem_cons_of_mem d hd')⟩
  | ended => exact h

theorem Cluster.seenBy_close_of_ne (s : ClusterSession k) (hid : tokens id ≠ v) :
    (t.close id s).seenBy owner tokens v = t.seenBy owner tokens v := by
  unfold Cluster.close
  split
  · split
    · rw [Cluster.seenBy_at, if_neg hid]
    · rw [Cluster.seenBy_at, if_neg hid]
  · rfl

theorem Cluster.seenBy_close_congr (hd : owner s.deviceId = v)
    (hview : t.seenBy owner tokens v = t'.seenBy owner tokens v) :
    (t.close id s).seenBy owner tokens v = (t'.close id s).seenBy owner tokens v := by
  unfold Cluster.close
  rw [connection_of_seenBy (Cluster.hub_of_seenBy hview s.node) hd]
  split
  · split
    · rw [Cluster.seenBy_at, Cluster.seenBy_at, hview]
    · rw [Cluster.seenBy_at, Cluster.seenBy_at, hview]
  · exact hview

theorem Cluster.Separate.close (h : t.Separate owner tokens) (hs : t.sessions[id]? = some s) :
    (t.close id s).Separate owner tokens := by
  obtain ⟨huser, hdevice, hphase⟩ := h.sessions id s hs
  unfold Cluster.close
  split
  · split
    · exact h.at ⟨huser, hdevice, trivial⟩
    · next conn hconn =>
      exact h.at ⟨huser, hdevice, ((h.hubs s.node).entry _ conn hconn).1.trans hdevice⟩
  · exact h

theorem Cluster.Separate.seenBy_step_of_ne (h : t.Separate owner tokens) {op : CallOp k}
    (hop : op.user tokens ≠ v) :
    (t.step op).seenBy owner tokens v = t.seenBy owner tokens v := by
  cases op with
  | arrive id node deviceId userId =>
    rw [Cluster.step]
    split
    · exact (Cluster.seenBy_at _).trans (if_neg hop)
    · rfl
  | advance id =>
    rw [Cluster.step]
    split
    · rfl
    · next hs => exact h.seenBy_advance_of_ne hs hop
  | close id =>
    rw [Cluster.step]
    split
    · rfl
    · exact Cluster.seenBy_close_of_ne _ hop
  | expire u =>
    have hu : u ≠ v := hop
    rw [Cluster.step, Cluster.seenBy_setStore, SharedStore.seenBy_expire_of_ne hu]
    rfl

theorem Cluster.Separate.seenBy_step_congr (h : t.Separate owner tokens)
    (h' : t'.Separate owner tokens) {op : CallOp k} (hop : op.user tokens = v)
    (hroom : t.HasRoom tokens v op) (hroom' : t'.HasRoom tokens v op)
    (hview : t.seenBy owner tokens v = t'.seenBy owner tokens v) :
    (t.step op).seenBy owner tokens v = (t'.step op).seenBy owner tokens v := by
  cases op with
  | arrive id node deviceId userId =>
    rw [Cluster.step, Cluster.step, Cluster.session_of_seenBy hview hop]
    split
    · rw [Cluster.seenBy_at, Cluster.seenBy_at, hview]
    · exact hview
  | advance id =>
    have hsession := Cluster.session_of_seenBy hview hop
    rw [Cluster.step, Cluster.step, hsession]
    cases hs : t'.sessions[id]? with
    | none => exact hview
    | some s => exact h.seenBy_advance_congr h' (hsession.trans hs) hs hop hroom hroom' hview
  | close id =>
    rw [Cluster.step, Cluster.step, Cluster.session_of_seenBy hview hop]
    cases hs : t'.sessions[id]? with
    | none => exact hview
    | some s => exact Cluster.seenBy_close_congr ((h'.sessions id s hs).device.trans hop) hview
  | expire u =>
    have hu : u = v := hop
    cases hu
    rw [Cluster.step, Cluster.step, Cluster.seenBy_setStore, Cluster.seenBy_setStore,
      SharedStore.seenBy_expire_congr (Cluster.store_of_seenBy hview), hview]

theorem Cluster.Separate.step (h : t.Separate owner tokens) {op : CallOp k}
    (hauthentic : op.Authentic tokens) (hentitled : op.Entitled owner tokens) :
    (t.step op).Separate owner tokens := by
  cases op with
  | arrive id node deviceId userId =>
    rw [Cluster.step]
    split
    · exact h.at ⟨hauthentic, hentitled, trivial⟩
    · exact h
  | advance id =>
    rw [Cluster.step]
    split
    · exact h
    · next hs => exact h.advance hs
  | close id =>
    rw [Cluster.step]
    split
    · exact h
    · next hs => exact h.close hs
  | expire u => exact h.setStore _

end ClusterSteps

end P2PMesh.Signaling
