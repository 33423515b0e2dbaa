import P2PMesh.SignalingCluster

namespace P2PMesh.Signaling
open P2PMesh.Base
set_option autoImplicit true

/-- A session has been registered in the store and has not begun to leave. -/
def CallPhase.isRegistered : CallPhase → Bool
  | .keySet => true
  | .countedGlobal => true
  | .countedUser => true
  | .expirySet => true
  | .serving => true
  | _ => false

section Cluster
variable (t : Cluster k)

/-- The session that the hub of a node has a device under. -/
def Cluster.entry (node : Fin k) (deviceId : Uuid) : Option Nat :=
  ((t.hubs node).connection deviceId).map DeviceConnection.ws

/-- The session is registered on its node, with the device's connection there as its own. -/
structure Cluster.Serves (id : Nat) (s : ClusterSession k) : Prop where
  session : t.sessions[id]? = some s
  isRegistered : s.phase.isRegistered = true
  entry : t.entry s.node s.deviceId = some id

/-- The store has the node of every connected device. -/
def Cluster.KeysLive : Prop :=
  ∀ id s, t.Serves id s → t.store.getDeviceNode s.deviceId s.userId = some s.node

/-- The key of a device that the next command of a call sets or deletes. -/
def Cluster.writtenKey : CallOp k → Option (Uuid × Uuid)
  | .advance id =>
    match t.sessions[id]? with
    | none => none
    | some s =>
      match s.phase with
      | .connected [] => some (s.userId, s.deviceId)
      | .unregistering userId => some (userId, s.deviceId)
      | _ => none
  | _ => none

/-- A key is set for a device while no other node has it connected, and deleted while no node
has. -/
def Cluster.SparesKeys : CallOp k → Prop
  | .advance id =>
    match t.sessions[id]? with
    | none => True
    | some s =>
      match s.phase with
      | .connected [] => ∀ id' s', t.Serves id' s' → s'.userId = s.userId →
          s'.deviceId = s.deviceId → s'.node = s.node
      | .unregistering userId => ∀ id' s', t.Serves id' s' → s'.userId = userId →
          s'.deviceId ≠ s.deviceId
      | _ => True
  | _ => True

end Cluster

/-- The nodes and their store as the worker sees them: when a device key expires, and the key that
the cleanup has found without an expiry. Time is in seconds. -/
structure DeviceRegistry (k : Nat) where
  cluster : Cluster k
  deadlines : Uuid → Uuid → Option Nat
  found : Option (Uuid × Uuid)
  now : Nat

def DeviceRegistry.start (k : Nat) : DeviceRegistry k := ⟨.new k, fun _ _ => none, none, 0⟩

/-- A node goes one command further, the cleanup looks at a key or gives the key that it has found
an expiry, or time passes. -/
inductive RegistryOp (k : Nat) where
  | call (op : CallOp k)
  | ttl (userId deviceId : Uuid)
  | expire
  | elapse (seconds : Nat)

def staleExpiry : Nat := 86400

section Registry
variable (t : DeviceRegistry k)

/-- A key that is set has no expiry any more, and neither has one that is not there. -/
def DeviceRegistry.call (op : CallOp k) : DeviceRegistry k :=
  { t with
    cluster := t.cluster.step op
    deadlines := match t.cluster.writtenKey op with
      | none => t.deadlines
      | some (userId, deviceId) => Function.update t.deadlines userId
          (Function.update (t.deadlines userId) deviceId none) }

/-- The cleanup scans the keys one after the other. -/
def DeviceRegistry.ttl (userId deviceId : Uuid) : DeviceRegistry k :=
  match t.found with
  | some _ => t
  | none =>
    if (t.cluster.store.getDeviceNode deviceId userId).isSome ∧ t.deadlines userId deviceId = none
    then { t with found := some (userId, deviceId) } else t

def DeviceRegistry.expire : DeviceRegistry k :=
  match t.found with
  | none => t
  | some (userId, deviceId) =>
    { t with
      found := none
      deadlines := if (t.cluster.store.getDeviceNode deviceId userId).isSome then
        Function.update t.deadlines userId
          (Function.update (t.deadlines userId) deviceId (some (t.now + staleExpiry)))
        else t.deadlines }

def DeviceRegistry.expired (now : Nat) (userId deviceId : Uuid) : Bool :=
  (t.deadlines userId deviceId).any (fun deadline => deadline ≤ now)

def DeviceRegistry.elapse (seconds : Nat) : DeviceRegistry k :=
  let now := t.now + seconds
  { t with
    cluster := t.cluster.setStore { t.cluster.store with
      deviceNodes := fun userId deviceId =>
        if t.expired now userId deviceId then none
        else t.cluster.store.deviceNodes userId deviceId }
    deadlines := fun userId deviceId =>
      if t.expired now userId deviceId then none else t.deadlines userId deviceId
    now := now }

def DeviceRegistry.step : RegistryOp k → DeviceRegistry k
  | .call op => t.call op
  | .ttl userId deviceId => t.ttl userId deviceId
  | .expire => t.expire
  | .elapse seconds => t.elapse seconds

def DeviceRegistry.run (ops : List (RegistryOp k)) : DeviceRegistry k :=
  ops.foldl DeviceRegistry.step t

def DeviceRegistry.KeysLive : Prop := t.cluster.KeysLive

/-- No device is connected any more when the expiry that the cleanup has given its key is over. -/
def DeviceRegistry.SparesKeys : RegistryOp k → Prop
  | .call op => t.cluster.SparesKeys op
  | .ttl _ _ => True
  | .expire => True
  | .elapse seconds => ∀ id s, t.cluster.Serves id s → ∀ deadline,
      t.deadlines s.userId s.deviceId = some deadline → t.now + seconds < deadline

end Registry

section Steps
variable {t t' : Cluster k} {id : Nat} {s : ClusterSession k} {phase : CallPhase}

theorem SharedStore.getDeviceNode_setNode (r : SharedStore k) (u d : Uuid)
    (node : Option (Fin k)) (u' d' : Uuid) :
    (r.setNode u d node).getDeviceNode d' u' =
      if u' = u ∧ d' = d then node else r.getDeviceNode d' u' := by
  rw [SharedStore.getDeviceNode, SharedStore.setNode]
  dsimp only
  by_cases hu : u' = u
  · subst hu
    rw [Function.update_self, Function.update_apply]
    simp only [true_and]
    rfl
  · rw [Function.update_of_ne hu, if_neg (fun h => hu h.1)]
    rfl

theorem Cluster.Serves.of_at {id' : Nat} {s' : ClusterSession k}
    (h : (t.at id s phase).Serves id' s') :
    id' = id ∧ s' = { s with phase := phase } ∧ phase.isRegistered = true ∧
        t.entry s.node s.deviceId = some id ∨
      id' ≠ id ∧ t.Serves id' s' := by
  have hsession := h.session
  rw [Cluster.sessions_at] at hsession
  by_cases hid : id = id'
  · cases hid
    rw [if_pos rfl] at hsession
    cases hsession
    exact .inl ⟨rfl, rfl, h.isRegistered, h.entry⟩
  · rw [if_neg hid] at hsession
    exact .inr ⟨Ne.symm hid, hsession, h.isRegistered, h.entry⟩

theorem Cluster.Serves.at_of_ne {id' : Nat} {s' : ClusterSession k} (h : t.Serves id' s')
    (hne : id' ≠ id) : (t.at id s phase).Serves id' s' where
  session := by
    rw [Cluster.sessions_at, if_neg (Ne.symm hne)]
    exact h.session
  isRegistered := h.isRegistered
  entry := h.entry

theorem Cluster.KeysLive.at (h : t.KeysLive) (hs : t.sessions[id]? = some s)
    (hsessions : t'.sessions = t.sessions)
    (hentry : ∀ node d id', (id' = id → phase.isRegistered = true) →
      t'.entry node d = some id' → t.entry node d = some id')
    (hstore : t'.store.deviceNodes = t.store.deviceNodes)
    (hphase : phase.isRegistered = true → s.phase.isRegistered = true) :
    (t'.at id s phase).KeysLive := by
  have hnode (u d : Uuid) : t'.store.getDeviceNode d u = t.store.getDeviceNode d u := by
    rw [SharedStore.getDeviceNode, SharedStore.getDeviceNode, hstore]
  intro id' s' hserves
  change t'.store.getDeviceNode s'.deviceId s'.userId = some s'.node
  rw [hnode]
  rcases hserves.of_at with ⟨rfl, rfl, hregistered, howner⟩ | ⟨hne, hold⟩
  · exact h id' s ⟨hs, hphase hregistered, hentry _ _ _ (fun _ => hregistered) howner⟩
  · apply h id' s'
    refine ⟨?_, hold.isRegistered, hentry _ _ _ (fun he => (hne he).elim) hold.entry⟩
    rw [← hsessions]
    exact hold.session

theorem Cluster.Serves.setStore_iff {id' : Nat} {s' : ClusterSession k} (r : SharedStore k) :
    (t.setStore r).Serves id' s' ↔ t.Serves id' s' :=
  ⟨fun h => ⟨h.session, h.isRegistered, h.entry⟩, fun h => ⟨h.session, h.isRegistered, h.entry⟩⟩

/-- A key of the session's device is written, and the session moves on, to be registered under the
key if at all. -/
theorem Cluster.KeysLive.writeKey_iff (h : t.KeysLive) (hs : t.sessions[id]? = some s)
    (hp : s.phase.isRegistered = false) (node : Option (Fin k))
    (hphase : phase.isRegistered = true → u = s.userId ∧ node = some s.node) :
    ((t.setStore (t.store.setNode u s.deviceId node)).at id s phase).KeysLive ↔
      ∀ id' s', t.Serves id' s' → s'.userId = u → s'.deviceId = s.deviceId →
        node = some s'.node := by
  have hne : ∀ id' s', t.Serves id' s' → id' ≠ id := by
    rintro id' s' hserves rfl
    have hsession := hserves.session
    rw [hs] at hsession
    cases hsession
    rw [hserves.isRegistered] at hp
    cases hp
  constructor
  · intro hwritten id' s' hserves hu hd
    have hkey := hwritten id' s'
      (((Cluster.Serves.setStore_iff _).mpr hserves).at_of_ne (hne id' s' hserves))
    change (t.store.setNode u s.deviceId node).getDeviceNode _ _ = _ at hkey
    rwa [SharedStore.getDeviceNode_setNode, if_pos ⟨hu, hd⟩] at hkey
  · intro hspares id' s' hserves
    change (t.store.setNode u s.deviceId node).getDeviceNode _ _ = _
    rw [SharedStore.getDeviceNode_setNode]
    rcases hserves.of_at with ⟨rfl, rfl, hregistered, -⟩ | ⟨-, hold⟩
    · obtain ⟨hu, hnode⟩ := hphase hregistered
      rw [if_pos ⟨hu.symm, rfl⟩, hnode]
    · rw [Cluster.Serves.setStore_iff] at hold
      split
      · next hkey => exact hspares id' s' hold hkey.1 hkey.2
      · exact h id' s' hold

theorem Cluster.entry_setHub (node : Fin k) (hub : SignalingHub) (n : Fin k) (d : Uuid) :
    (t.setHub node hub).entry n d =
      if n = node then (hub.connection d).map DeviceConnection.ws else t.entry n d := by
  rw [Cluster.entry, Cluster.hubs_setHub]
  split <;> rfl

theorem Cluster.KeysLive.connect (h : t.KeysLive) (hs : t.sessions[id]? = some s) :
    (t.connect id s).KeysLive := by
  rw [Cluster.connect]
  split
  · exact h.at hs rfl (fun _ _ _ _ he => he) rfl (fun hr => Bool.noConfusion hr)
  · next hub hconnect =>
    refine h.at hs rfl ?_ rfl (fun hr => Bool.noConfusion hr)
    intro n d id' hid he
    rw [Cluster.entry_setHub] at he
    split at he
    · next hn =>
      rw [connect_eq_ok hconnect, connection_insert] at he
      split at he
      · cases he
        exact Bool.noConfusion (hid rfl)
      · rw [Cluster.entry, hn]
        exact he
    · exact he

theorem Cluster.KeysLive.leave (h : t.KeysLive) (hs : t.sessions[id]? = some s) :
    (t.leave id s).KeysLive := by
  rw [Cluster.leave]
  split
  · exact h.at hs rfl (fun _ _ _ _ he => he) rfl (fun hr => Bool.noConfusion hr)
  · refine h.at hs rfl ?_ rfl (fun hr => Bool.noConfusion hr)
    intro n d id' _ he
    rw [Cluster.entry_setHub] at he
    split at he
    · next hn =>
      rw [connection_disconnect] at he
      split at he
      · cases he
      · rw [Cluster.entry, hn]
        exact he
    · exact he

theorem Cluster.KeysLive.advance_iff (h : t.KeysLive) (hs : t.sessions[id]? = some s) :
    (t.advance id s).KeysLive ↔ t.SparesKeys (.advance id) := by
  have hmove (r : SharedStore k) (phase : CallPhase) (hr : r.deviceNodes = t.store.deviceNodes)
      (hphase : phase.isRegistered = true → s.phase.isRegistered = true) :
      ((t.setStore r).at id s phase).KeysLive :=
    h.at hs rfl (fun _ _ _ _ he => he) hr hphase
  rw [Cluster.SparesKeys, hs]
  dsimp only
  unfold Cluster.advance
  cases hp : s.phase with
  | arrived =>
    apply iff_of_true _ trivial
    dsimp only
    split
    · exact hmove t.store _ rfl (fun hr => Bool.noConfusion hr)
    · exact hmove t.store _ rfl (fun hr => Bool.noConfusion hr)
  | checkedGlobal =>
    apply iff_of_true _ trivial
    dsimp only
    split
    · exact hmove t.store _ rfl (fun hr => Bool.noConfusion hr)
    · exact hmove t.store _ rfl (fun hr => Bool.noConfusion hr)
  | checkedUser => exact iff_of_true (h.connect hs) trivial
  | connected notify =>
    cases notify with
    | nil =>
      dsimp only
      rw [h.writeKey_iff hs (by rw [hp]; rfl) (some s.node) (fun _ => ⟨rfl, rfl⟩)]
      simp only [Option.some.injEq]
      exact ⟨fun hw id' s' hv hu hd => (hw id' s' hv hu hd).symm,
        fun hw id' s' hv hu hd => (hw id' s' hv hu hd).symm⟩
    | cons d notify =>
      exact iff_of_true (hmove t.store _ rfl (fun hr => Bool.noConfusion hr)) trivial
  | keySet => exact iff_of_true (hmove _ _ rfl (fun _ => by rw [hp]; rfl)) trivial
  | countedGlobal => exact iff_of_true (hmove _ _ rfl (fun _ => by rw [hp]; rfl)) trivial
  | countedUser => exact iff_of_true (hmove _ _ rfl (fun _ => by rw [hp]; rfl)) trivial
  | expirySet => exact iff_of_true (hmove t.store _ rfl (fun _ => by rw [hp]; rfl)) trivial
  | serving => exact iff_of_true h trivial
  | unregistering u =>
    dsimp only
    rw [h.writeKey_iff hs (by rw [hp]; rfl) none (fun hr => Bool.noConfusion hr)]
    simp only [reduceCtorEq, imp_false, ne_eq]
  | keyDeleted u => exact iff_of_true (hmove _ _ rfl (fun hr => Bool.noConfusion hr)) trivial
  | uncountedGlobal u => exact iff_of_true (hmove _ _ rfl (fun hr => Bool.noConfusion hr)) trivial
  | uncountedUser u =>
    exact iff_of_true (hmove t.store _ rfl (fun hr => Bool.noConfusion hr)) trivial
  | leaving => exact iff_of_true (h.leave hs) trivial
  | left u notify =>
    apply iff_of_true _ trivial
    cases notify with
    | nil => exact hmove t.store _ rfl (fun hr => Bool.noConfusion hr)
    | cons d notify => exact hmove t.store _ rfl (fun hr => Bool.noConfusion hr)
  | ended => exact iff_of_true h trivial

theorem Cluster.KeysLive.close (h : t.KeysLive) (hs : t.sessions[id]? = some s) :
    (t.close id s).KeysLive := by
  unfold Cluster.close
  split
  · split
    · exact h.at hs rfl (fun _ _ _ _ he => he) rfl (fun hr => Bool.noConfusion hr)
    · exact h.at hs rfl (fun _ _ _ _ he => he) rfl (fun hr => Bool.noConfusion hr)
  · exact h

theorem Cluster.KeysLive.arrive (h : t.KeysLive) (id : Nat) (s : ClusterSession k) :
    (t.at id s .arrived).KeysLive := by
  intro id' s' hserves
  rcases hserves.of_at with ⟨-, -, hregistered, -⟩ | ⟨-, hold⟩
  · cases hregistered
  · exact h id' s' hold

theorem Cluster.KeysLive.step_iff (h : t.KeysLive) (op : CallOp k) :
    (t.step op).KeysLive ↔ t.SparesKeys op := by
  cases op with
  | arrive id node deviceId userId =>
    apply iff_of_true _ trivial
    rw [Cluster.step]
    split
    · exact h.arrive id _
    · exact h
  | advance id =>
    cases hs : t.sessions[id]? with
    | none =>
      rw [Cluster.step, Cluster.SparesKeys, hs]
      exact iff_of_true h trivial
    | some s =>
      rw [Cluster.step, hs]
      exact h.advance_iff hs
  | close id =>
    apply iff_of_true _ trivial
    rw [Cluster.step]
    split
    · exact h
    · next hs => exact h.close hs
  | expire userId =>
    apply iff_of_true _ trivial
    intro id s hserves
    exact h id s ((Cluster.Serves.setStore_iff _).mp hserves)

end Steps

section RegistrySteps
variable {t : DeviceRegistry k}

theorem DeviceRegistry.cluster_ttl (u d : Uuid) : (t.ttl u d).cluster = t.cluster := by
  rw [DeviceRegistry.ttl]
  split
  · rfl
  · split <;> rfl

theorem DeviceRegistry.cluster_expire : t.expire.cluster = t.cluster := by
  rw [DeviceRegistry.expire]
  split <;> rfl

/-- As time passes the keys that are live stay exactly where no deadline of theirs is reached. -/
theorem DeviceRegistry.KeysLive.elapse_iff (h : t.KeysLive) (seconds : Nat) :
    (t.elapse seconds).KeysLive ↔ t.SparesKeys (.elapse seconds) := by
  have hkey (id : Nat) (s : ClusterSession k) (hserves : t.cluster.Serves id s) :
      (t.elapse seconds).cluster.store.getDeviceNode s.deviceId s.userId = some s.node ↔
        ∀ deadline, t.deadlines s.userId s.deviceId = some deadline →
          t.now + seconds < deadline := by
    change (if t.expired (t.now + seconds) s.userId s.deviceId then none
      else t.cluster.store.getDeviceNode s.deviceId s.userId) = some s.node ↔ _
    rw [h id s hserves, DeviceRegistry.expired]
    cases t.deadlines s.userId s.deviceId with
    | none => simp only [Option.any_none, Bool.false_eq_true, if_false, reduceCtorEq, false_imp_iff,
        implies_true]
    | some deadline =>
      simp only [Option.any_some, decide_eq_true_eq, Option.some.injEq, forall_eq',
        ite_eq_right_iff, reduceCtorEq, imp_false, Nat.not_le]
  constructor
  · intro helapsed id s hserves
    exact (hkey id s hserves).mp (helapsed id s ((Cluster.Serves.setStore_iff _).mpr hserves))
  · intro hspares id s hserves
    have hold := (Cluster.Serves.setStore_iff _).mp hserves
    exact (hkey id s hold).mpr (hspares id s hold)

theorem DeviceRegistry.KeysLive.step_iff (h : t.KeysLive) (op : RegistryOp k) :
    (t.step op).KeysLive ↔ t.SparesKeys op := by
  cases op with
  | call op => exact Cluster.KeysLive.step_iff h op
  | ttl userId deviceId =>
    apply iff_of_true _ trivial
    rw [DeviceRegistry.KeysLive, DeviceRegistry.step, DeviceRegistry.cluster_ttl]
    exact h
  | expire =>
    apply iff_of_true _ trivial
    rw [DeviceRegistry.KeysLive, DeviceRegistry.step, DeviceRegistry.cluster_expire]
    exact h
  | elapse seconds => exact h.elapse_iff seconds

theorem DeviceRegistry.start_keysLive (k : Nat) : (DeviceRegistry.start k).KeysLive := by
  intro id s hserves
  have hsession := hserves.session
  change (∅ : Std.TreeMap Nat (ClusterSession k))[id]? = some s at hsession
  rw [Std.TreeMap.getElem?_emptyc] at hsession
  cases hsession

end RegistrySteps

theorem device_keys_live_iff (k : Nat) (ops : List (RegistryOp k)) :
    (∀ ops', ops' <+: ops → ((DeviceRegistry.start k).run ops').KeysLive) ↔
      Guarded DeviceRegistry.step DeviceRegistry.SparesKeys (DeviceRegistry.start k) ops :=
  forall_prefix_iff (DeviceRegistry.start_keysLive k) (fun _ op h => h.step_iff op) ops

/-- A device connects, the cleanup comes upon its key, and a day later the store has forgotten the
device, which is connected all the time. -/
theorem connected_device_forgotten :
    ¬ ∀ ops : List (RegistryOp 1), ((DeviceRegistry.start 1).run ops).KeysLive := by
  intro h
  have hlive := h (.call (.arrive 0 0 1 7) :: List.replicate 9 (.call (.advance 0)) ++
    [.ttl 7 1, .expire, .elapse staleExpiry]) 0 ⟨0, 1, 7, .serving⟩
    ⟨by decide +kernel, rfl, by decide +kernel⟩
  exact absurd hlive (by decide +kernel)

end P2PMesh.Signaling
