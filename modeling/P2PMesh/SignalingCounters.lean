import P2PMesh.Base.Run
import P2PMesh.Base.Tally
import P2PMesh.SignalingCluster

namespace P2PMesh.Signaling
open P2PMesh.Base
set_option autoImplicit true

/-- Whether the hub of its node has the device of a session. -/
def CallPhase.registered : CallPhase → Bool
  | .connected _ | .keySet | .countedGlobal | .countedUser | .expirySet | .serving => true
  | .unregistering _ | .keyDeleted _ | .uncountedGlobal _ | .uncountedUser _ | .leaving => true
  | _ => false

/-- Whether the global counter has a session counted. -/
def CallPhase.inGlobal : CallPhase → Bool
  | .countedGlobal | .countedUser | .expirySet | .serving => true
  | .unregistering _ | .keyDeleted _ => true
  | _ => false

def CallPhase.inUser : CallPhase → Bool
  | .countedUser | .expirySet | .serving => true
  | .unregistering _ | .keyDeleted _ | .uncountedGlobal _ => true
  | _ => false

/-- Whether a session has passed the check of the limit of its user and has not left the hub. -/
def CallPhase.pastUser : CallPhase → Bool
  | .checkedUser => true
  | phase => phase.registered

def CallPhase.pastGlobal : CallPhase → Bool
  | .checkedGlobal => true
  | phase => phase.pastUser

/-- The user whom a session takes off the counters: the one that the hub had its device under. -/
def CallPhase.unregisters : CallPhase → Option Uuid
  | .unregistering userId | .keyDeleted userId | .uncountedGlobal userId | .uncountedUser userId =>
    some userId
  | _ => none

section Counters
variable (t : Cluster k)

def Cluster.number (p : ClusterSession k → Bool) : Nat := tally (fun _ s => p s) t.sessions

/-- The sessions that the check of the global limit has let through and that are not counted: they
are still to be counted, or not to be any more while the hub has them. -/
def Cluster.uncountedGlobal : Nat := t.number (fun s => s.phase.pastGlobal && !s.phase.inGlobal)

def Cluster.uncountedUser (userId : Uuid) : Nat :=
  t.number (fun s => (s.phase.pastUser && s.userId = userId) && !s.phase.inUser)

/-- A check that lets a session through would also let it through with the sessions that are not
counted, and a session connects a device that its node does not have connected. -/
def Cluster.Unrivalled (s : ClusterSession k) : Prop :=
  (s.phase = .arrived → t.store.checkGlobalConnectionLimit = true →
    t.store.globalConnections + t.uncountedGlobal < maxGlobalConnections) ∧
  (s.phase = .checkedGlobal → t.store.checkUserConnectionLimit s.userId = true →
    t.store.userCount s.userId + t.uncountedUser s.userId < maxConnectionsPerUser) ∧
  (s.phase = .checkedUser → (t.hubs s.node).connection s.deviceId = none)

/-- The sessions go on unrivalled, and no counter is let go that counts anything. -/
def Cluster.Undisturbed : CallOp k → Prop
  | .advance id => ∀ s ∈ t.sessions[id]?, t.Unrivalled s
  | .expire userId => ∀ count ∈ t.store.userCounts userId, count.expires = true → count.value = 0
  | _ => True

instance decidableUnrivalled (s : ClusterSession k) : Decidable (t.Unrivalled s) :=
  inferInstanceAs (Decidable (_ ∧ _))

instance decidableUndisturbed : ∀ op, Decidable (t.Undisturbed op)
  | .advance id => inferInstanceAs (Decidable (∀ s ∈ t.sessions[id]?, t.Unrivalled s))
  | .expire userId => inferInstanceAs (Decidable (∀ count ∈ t.store.userCounts userId, _))
  | .arrive .. | .close _ => .isTrue trivial

/-- No call of connect or disconnect is under way. -/
def Cluster.Quiescent : Prop :=
  ∀ (id : Nat) (s : ClusterSession k), t.sessions[id]? = some s →
    s.phase = .serving ∨ s.phase = .ended

def Cluster.AllClosed : Prop :=
  ∀ (id : Nat) (s : ClusterSession k), t.sessions[id]? = some s → s.phase = .ended

structure Cluster.CountersHold : Prop where
  global : t.Quiescent → t.store.globalConnections = t.registered
  user : t.Quiescent → ∀ u, t.store.userCount u = t.registeredOf u
  closed : t.AllClosed → t.store.globalConnections = 0 ∧ ∀ u, t.store.userCount u = 0
  nonneg : 0 ≤ t.store.globalConnections ∧ ∀ u, 0 ≤ t.store.userCount u
  globalLimit : t.registered ≤ maxGlobalConnections
  userLimit : ∀ u, t.registeredOf u ≤ maxConnectionsPerUser

/-- The connections of all nodes whose users meet a condition. -/
def Cluster.entries (q : Uuid → Bool) : Nat :=
  tallyAll (fun _ conn => q conn.userId) (fun n => (t.hubs n).connections)

/-- Every session that a hub has stands there itself, and the counters count the sessions that
have been counted and not taken off again. -/
structure Cluster.Accounted : Prop where
  entry : ∀ (id : Nat) (s : ClusterSession k), t.sessions[id]? = some s →
    s.phase.registered = true →
      (t.hubs s.node).connection s.deviceId = some ⟨s.deviceId, s.userId, id⟩
  unregisters : ∀ (id : Nat) (s : ClusterSession k), t.sessions[id]? = some s →
    ∀ u ∈ s.phase.unregisters, u = s.userId
  devices : ∀ q, t.entries q = t.number (fun s => s.phase.registered && q s.userId)
  global : t.store.globalConnections = t.number (fun s => s.phase.inGlobal)
  user : ∀ u, t.store.userCount u = t.number (fun s => s.phase.inUser && s.userId = u)
  withinGlobal : t.number (fun s => s.phase.pastGlobal) ≤ maxGlobalConnections
  withinUser : ∀ u,
    t.number (fun s => s.phase.pastUser && s.userId = u) ≤ maxConnectionsPerUser

end Counters

section Phases

theorem CallPhase.pastUser_of_registered {p : CallPhase} (h : p.registered = true) :
    p.pastUser = true := by
  cases p <;> first | exact h | rfl

theorem CallPhase.pastGlobal_of_pastUser {p : CallPhase} (h : p.pastUser = true) :
    p.pastGlobal = true := by
  cases p <;> first | exact h | rfl

end Phases

section StoreCounts
variable {r : SharedStore k}

theorem SharedStore.userCount_addUser (u u' : Uuid) (amount : Int) :
    (r.addUser u amount).userCount u' = r.userCount u' + if u = u' then amount else 0 := by
  rw [SharedStore.userCount, SharedStore.addUser]
  dsimp only
  rw [Function.update_apply]
  by_cases hu : u = u'
  · rw [if_pos hu.symm, if_pos hu, hu]
    rfl
  · rw [if_neg (Ne.symm hu), if_neg hu, Int.add_zero]
    rfl

theorem SharedStore.userCount_addUser_add (u : Uuid) (amount : Int) {p q : Bool}
    (hamount : amount + (p.toNat : Int) = (q.toNat : Int)) (u' : Uuid) :
    (r.addUser u amount).userCount u' + ((p && decide (u = u')).toNat : Int) =
      r.userCount u' + ((q && decide (u = u')).toNat : Int) := by
  rw [SharedStore.userCount_addUser]
  by_cases hu : u = u'
  · rw [if_pos hu, decide_eq_true hu, Bool.and_true, Bool.and_true, Int.add_assoc, hamount]
  · rw [if_neg hu, decide_eq_false hu, Bool.and_false, Bool.and_false, Int.add_zero]

theorem SharedStore.userCount_setExpiry (u u' : Uuid) :
    (r.setExpiry u).userCount u' = r.userCount u' := by
  rw [SharedStore.userCount, SharedStore.setExpiry]
  dsimp only
  rw [Function.update_apply]
  split
  · next hu =>
    rw [hu, SharedStore.userCount]
    cases r.userCounts u <;> rfl
  · rfl

theorem SharedStore.userCount_expire {u : Uuid}
    (hzero : ∀ count ∈ r.userCounts u, count.expires = true → count.value = 0) (u' : Uuid) :
    (r.expire u).userCount u' = r.userCount u' := by
  rw [SharedStore.userCount, SharedStore.expire]
  dsimp only
  rw [Function.update_apply]
  split
  · next hu =>
    rw [hu, SharedStore.userCount]
    cases hcount : r.userCounts u with
    | none => rfl
    | some count =>
      rw [Option.filter_some]
      cases hexpires : count.expires with
      | false => rfl
      | true => exact (hzero count hcount hexpires).symm
  · rfl

end StoreCounts

section Accounting
variable {t : Cluster k}

theorem Cluster.number_at {id : Nat} {s : ClusterSession k} (hs : t.sessions[id]? = some s)
    (phase : CallPhase) (p : ClusterSession k → Bool) :
    (t.at id s phase).number p + (p s).toNat =
      t.number p + (p { s with phase := phase }).toNat := by
  have hinsert := tally_insert_add_weight (fun _ s => p s) t.sessions id { s with phase := phase }
  rw [hs] at hinsert
  exact hinsert

/-- A bound on the sessions that are counted stays when the one that moves on was counted before,
or when there is room for one more. -/
theorem Cluster.number_at_le {id : Nat} {s : ClusterSession k} (hs : t.sessions[id]? = some s)
    {phase : CallPhase} {p : ClusterSession k → Bool} {m : Nat} (hle : t.number p ≤ m)
    (hroom : p { s with phase := phase } = true → p s = true ∨ t.number p < m) :
    (t.at id s phase).number p ≤ m := by
  have hn := Cluster.number_at hs phase p
  cases hp : p { s with phase := phase } with
  | false =>
    rw [hp, Bool.toNat_false] at hn
    omega
  | true =>
    rw [hp, Bool.toNat_true] at hn
    rcases hroom hp with hcounted | hlt
    · rw [hcounted, Bool.toNat_true] at hn
      omega
    · omega

theorem Cluster.Accounted.number_lt_global (h : t.Accounted)
    (hlt : t.store.globalConnections + t.uncountedGlobal < maxGlobalConnections) :
    t.number (fun s => s.phase.pastGlobal) < maxGlobalConnections := by
  have hsplit := tally_and_add_tally_not (fun (_ : Nat) (s : ClusterSession k) =>
    s.phase.pastGlobal) (fun _ s => s.phase.inGlobal) t.sessions
  have hcounted : tally (fun (_ : Nat) (s : ClusterSession k) =>
      s.phase.pastGlobal && s.phase.inGlobal) t.sessions ≤ t.number (fun s => s.phase.inGlobal) :=
    tally_mono (fun _ _ hp => (Bool.and_eq_true_iff.mp hp).2) _
  rw [h.global] at hlt
  simp only [Cluster.number, Cluster.uncountedGlobal] at *
  omega

theorem Cluster.Accounted.number_lt_user (h : t.Accounted) {u : Uuid}
    (hlt : t.store.userCount u + t.uncountedUser u < maxConnectionsPerUser) :
    t.number (fun s => s.phase.pastUser && s.userId = u) < maxConnectionsPerUser := by
  have hsplit := tally_and_add_tally_not (fun (_ : Nat) (s : ClusterSession k) =>
    s.phase.pastUser && s.userId = u) (fun _ s => s.phase.inUser) t.sessions
  have hcounted : tally (fun (_ : Nat) (s : ClusterSession k) =>
      (s.phase.pastUser && s.userId = u) && s.phase.inUser) t.sessions ≤
        t.number (fun s => s.phase.inUser && s.userId = u) := by
    apply tally_mono
    intro _ s hp
    simp only [Bool.and_eq_true] at hp ⊢
    exact ⟨hp.2, hp.1.2⟩
  rw [h.user] at hlt
  simp only [Cluster.number, Cluster.uncountedUser] at *
  omega

theorem Cluster.Accounted.move (h : t.Accounted) {id : Nat} {s : ClusterSession k}
    (hs : t.sessions[id]? = some s) {hubs : Fin k → SignalingHub} {store : SharedStore k}
    {phase : CallPhase}
    (hframe : ∀ (id' : Nat) (s' : ClusterSession k), id ≠ id' → t.sessions[id']? = some s' →
      s'.phase.registered = true →
        (hubs s'.node).connection s'.deviceId = (t.hubs s'.node).connection s'.deviceId)
    (hself : phase.registered = true →
      (hubs s.node).connection s.deviceId = some ⟨s.deviceId, s.userId, id⟩)
    (hunregisters : ∀ u ∈ phase.unregisters, u = s.userId)
    (hdevices : ∀ q : Uuid → Bool,
      (Cluster.mk hubs store t.sessions).entries q + (s.phase.registered && q s.userId).toNat =
        t.entries q + (phase.registered && q s.userId).toNat)
    (hglobal : store.globalConnections + s.phase.inGlobal.toNat =
      t.store.globalConnections + phase.inGlobal.toNat)
    (huser : ∀ u, store.userCount u + (s.phase.inUser && s.userId = u).toNat =
      t.store.userCount u + (phase.inUser && s.userId = u).toNat)
    (hwithinGlobal : phase.pastGlobal = true → s.phase.pastGlobal = true ∨
      t.number (fun s => s.phase.pastGlobal) < maxGlobalConnections)
    (hwithinUser : phase.pastUser = true → s.phase.pastUser = true ∨
      t.number (fun s' => s'.phase.pastUser && s'.userId = s.userId) < maxConnectionsPerUser) :
    ((Cluster.mk hubs store t.sessions).at id s phase).Accounted := by
  have hnumber (p : ClusterSession k → Bool) :
      ((Cluster.mk hubs store t.sessions).at id s phase).number p + (p s).toNat =
        t.number p + (p { s with phase := phase }).toNat := Cluster.number_at hs phase p
  constructor
  · intro id' s' hs' hregistered
    rw [Cluster.sessions_at] at hs'
    split at hs'
    · next he =>
      cases he
      cases hs'
      exact hself hregistered
    · next he => exact (hframe id' s' he hs' hregistered).trans (h.entry id' s' hs' hregistered)
  · intro id' s' hs' u hu
    rw [Cluster.sessions_at] at hs'
    split at hs'
    · cases hs'
      exact hunregisters u hu
    · exact h.unregisters id' s' hs' u hu
  · intro q
    have hn := hnumber (fun s => s.phase.registered && q s.userId)
    have hd := hdevices q
    have ho := h.devices q
    dsimp only at hn
    have hentries : ((Cluster.mk hubs store t.sessions).at id s phase).entries q =
        (Cluster.mk hubs store t.sessions).entries q := rfl
    omega
  · have hn := hnumber (fun s => s.phase.inGlobal)
    have ho := h.global
    dsimp only at hn
    have hstore : ((Cluster.mk hubs store t.sessions).at id s phase).store = store := rfl
    rw [hstore]
    omega
  · intro u
    have hn := hnumber (fun s => s.phase.inUser && s.userId = u)
    have ho := h.user u
    have hu := huser u
    dsimp only at hn
    have hstore : ((Cluster.mk hubs store t.sessions).at id s phase).store = store := rfl
    rw [hstore]
    omega
  · exact Cluster.number_at_le (t := Cluster.mk hubs store t.sessions) hs h.withinGlobal
      hwithinGlobal
  · intro u
    apply Cluster.number_at_le (t := Cluster.mk hubs store t.sessions) hs (h.withinUser u)
    intro hcounted
    obtain ⟨hpast, hu⟩ := Bool.and_eq_true_iff.mp hcounted
    cases of_decide_eq_true hu
    rcases hwithinUser hpast with hbefore | hlt
    · exact .inl (Bool.and_eq_true_iff.mpr ⟨hbefore, hu⟩)
    · exact .inr hlt

theorem Cluster.Accounted.moveStore (h : t.Accounted) {id : Nat} {s : ClusterSession k}
    (hs : t.sessions[id]? = some s) {store : SharedStore k} {phase : CallPhase}
    (hregistered : phase.registered = s.phase.registered)
    (hunregisters : ∀ u ∈ phase.unregisters, u = s.userId)
    (hglobal : store.globalConnections + s.phase.inGlobal.toNat =
      t.store.globalConnections + phase.inGlobal.toNat)
    (huser : ∀ u, store.userCount u + (s.phase.inUser && s.userId = u).toNat =
      t.store.userCount u + (phase.inUser && s.userId = u).toNat)
    (hwithinGlobal : phase.pastGlobal = true → s.phase.pastGlobal = true ∨
      t.number (fun s => s.phase.pastGlobal) < maxGlobalConnections)
    (hwithinUser : phase.pastUser = true → s.phase.pastUser = true ∨
      t.number (fun s' => s'.phase.pastUser && s'.userId = s.userId) < maxConnectionsPerUser) :
    ((t.setStore store).at id s phase).Accounted := by
  apply h.move hs
  · intro id' s' _ _ _
    rfl
  · intro hphase
    exact h.entry id s hs (hregistered ▸ hphase)
  · exact hunregisters
  · intro q
    rw [hregistered]
    rfl
  · exact hglobal
  · exact huser
  · exact hwithinGlobal
  · exact hwithinUser

theorem Cluster.Accounted.moveOn (h : t.Accounted) {id : Nat} {s : ClusterSession k}
    (hs : t.sessions[id]? = some s) {phase : CallPhase}
    (hregistered : phase.registered = s.phase.registered)
    (hunregisters : ∀ u ∈ phase.unregisters, u = s.userId)
    (hinGlobal : phase.inGlobal = s.phase.inGlobal) (hinUser : phase.inUser = s.phase.inUser)
    (hwithinGlobal : phase.pastGlobal = true → s.phase.pastGlobal = true ∨
      t.number (fun s => s.phase.pastGlobal) < maxGlobalConnections)
    (hwithinUser : phase.pastUser = true → s.phase.pastUser = true ∨
      t.number (fun s' => s'.phase.pastUser && s'.userId = s.userId) < maxConnectionsPerUser) :
    (t.at id s phase).Accounted := by
  apply h.moveStore hs hregistered hunregisters _ _ hwithinGlobal hwithinUser
  · rw [hinGlobal]
  · intro u
    rw [hinUser]

theorem Cluster.entries_setHub (n : Fin k) (hub : SignalingHub) (q : Uuid → Bool) :
    (t.setHub n hub).entries q + tally (fun _ conn => q conn.userId) (t.hubs n).connections =
      t.entries q + tally (fun _ conn => q conn.userId) hub.connections := by
  have hupdate : (fun m => ((t.setHub n hub).hubs m).connections) =
      Function.update (fun m => (t.hubs m).connections) n hub.connections := by
    funext m
    rw [Cluster.hubs_setHub, Function.update_apply]
    split <;> rfl
  rw [Cluster.entries, hupdate]
  exact tallyAll_update _ _ n _

theorem Cluster.Accounted.connect (h : t.Accounted) {id : Nat} {s : ClusterSession k}
    (hs : t.sessions[id]? = some s) (hphase : s.phase = .checkedUser)
    (hnone : (t.hubs s.node).connection s.deviceId = none) : (t.connect id s).Accounted := by
  unfold Cluster.connect
  split
  · apply h.moveOn hs
    · rw [hphase]
      rfl
    · rintro u ⟨⟩
    · rw [hphase]
      rfl
    · rw [hphase]
      rfl
    · rintro ⟨⟩
    · rintro ⟨⟩
  · next hub hc =>
    have hub_eq := connect_eq_ok hc
    have hconnections : hub.connections =
        (t.hubs s.node).connections.insert s.deviceId ⟨s.deviceId, s.userId, id⟩ := by
      rw [hub_eq]
      rfl
    apply h.move hs
    · intro id' s' _ hs' hregistered
      change ((t.setHub s.node hub).hubs s'.node).connection s'.deviceId = _
      rw [Cluster.hubs_setHub]
      split
      · next hn =>
        rw [hub_eq, connection_insert, hn]
        dsimp only
        split
        · next hd =>
          have hentry := h.entry id' s' hs' hregistered
          rw [hn, ← hd, hnone] at hentry
          cases hentry
        · rfl
      · rfl
    · intro _
      change ((t.setHub s.node hub).hubs s.node).connection s.deviceId = _
      rw [Cluster.hubs_setHub, if_pos rfl, hub_eq, connection_insert, if_pos rfl]
    · intro u hu
      simp only [CallPhase.unregisters, Option.mem_def, reduceCtorEq] at hu
    · intro q
      have hset := t.entries_setHub s.node hub q
      have hinsert := tally_insert_add_weight (fun _ conn => q conn.userId)
        (t.hubs s.node).connections s.deviceId ⟨s.deviceId, s.userId, id⟩
      have hzero : weight (fun _ conn => q conn.userId) s.deviceId
          (t.hubs s.node).connections[s.deviceId]? = 0 := congrArg (weight _ _) hnone
      rw [hconnections] at hset
      have hadded : (t.setHub s.node hub).entries q = t.entries q + (q s.userId).toNat := by
        dsimp only at hinsert
        omega
      rw [hphase]
      exact hadded
    · rw [hphase]
      rfl
    · intro u
      rw [hphase]
      rfl
    · intro _
      rw [hphase]
      exact Or.inl rfl
    · intro _
      rw [hphase]
      exact Or.inl rfl

theorem Cluster.Accounted.leave (h : t.Accounted) {id : Nat} {s : ClusterSession k}
    (hs : t.sessions[id]? = some s) (hphase : s.phase = .leaving) :
    (t.leave id s).Accounted := by
  have hown := h.entry id s hs (by rw [hphase]; rfl)
  rw [Cluster.leave, hown]
  dsimp only
  have hconnections : ((t.hubs s.node).disconnect s.deviceId).connections =
      (t.hubs s.node).connections.erase s.deviceId := by
    rw [SignalingHub.disconnect, hown]
  apply h.move hs
  · intro id' s' hne hs' hregistered
    change ((t.setHub s.node _).hubs s'.node).connection s'.deviceId = _
    rw [Cluster.hubs_setHub]
    split
    · next hn =>
      rw [connection_disconnect, hn]
      split
      · next hd =>
        have hentry := h.entry id' s' hs' hregistered
        rw [hn, ← hd, hown] at hentry
        exact absurd (congrArg DeviceConnection.ws (Option.some.inj hentry)) hne
      · rfl
    · rfl
  · exact fun hregistered => Bool.noConfusion hregistered
  · intro u hu
    simp only [CallPhase.unregisters, Option.mem_def, reduceCtorEq] at hu
  · intro q
    have hset := t.entries_setHub s.node ((t.hubs s.node).disconnect s.deviceId) q
    have herase := tally_eq_erase_add (fun _ conn => q conn.userId)
      (t.hubs s.node).connections s.deviceId
    have hone : weight (fun _ conn => q conn.userId) s.deviceId
        (t.hubs s.node).connections[s.deviceId]? = (q s.userId).toNat := congrArg (weight _ _) hown
    rw [hconnections] at hset
    have htaken : (t.setHub s.node ((t.hubs s.node).disconnect s.deviceId)).entries q +
        (q s.userId).toNat = t.entries q := by
      omega
    rw [hphase]
    exact htaken
  · rw [hphase]
    rfl
  · intro u
    rw [hphase]
    rfl
  · exact fun hpast => Bool.noConfusion hpast
  · exact fun hpast => Bool.noConfusion hpast

theorem Cluster.Accounted.advance (h : t.Accounted) {id : Nat} {s : ClusterSession k}
    (hs : t.sessions[id]? = some s) (hok : t.Undisturbed (.advance id)) :
    (t.advance id s).Accounted := by
  obtain ⟨hglobal, huser, hnone⟩ := hok s hs
  have hrecorded := h.unregisters id s hs
  obtain ⟨node, deviceId, userId, phase⟩ := s
  cases phase with
  | arrived =>
    dsimp only [Cluster.advance]
    split
    · next hcheck =>
      have hlt := h.number_lt_global (hglobal rfl hcheck)
      exact h.moveOn hs rfl (by rintro u ⟨⟩) rfl rfl (fun _ => .inr hlt) (by rintro ⟨⟩)
    · exact h.moveOn hs rfl (by rintro u ⟨⟩) rfl rfl (by rintro ⟨⟩) (by rintro ⟨⟩)
  | checkedGlobal =>
    dsimp only [Cluster.advance]
    split
    · next hcheck =>
      have hlt := h.number_lt_user (huser rfl hcheck)
      exact h.moveOn hs rfl (by rintro u ⟨⟩) rfl rfl (fun _ => .inl rfl) (fun _ => .inr hlt)
    · exact h.moveOn hs rfl (by rintro u ⟨⟩) rfl rfl (by rintro ⟨⟩) (by rintro ⟨⟩)
  | checkedUser => exact h.connect hs rfl (hnone rfl)
  | connected notify =>
    cases notify with
    | nil =>
      exact h.moveStore hs rfl (by rintro u ⟨⟩) rfl (fun _ => rfl) (fun _ => .inl rfl)
        (fun _ => .inl rfl)
    | cons d notify =>
      exact h.moveOn hs rfl (by rintro u ⟨⟩) rfl rfl (fun _ => .inl rfl) (fun _ => .inl rfl)
  | keySet =>
    have hglobal : (t.store.addGlobal 1).globalConnections + (false.toNat : Int) =
        t.store.globalConnections + (true.toNat : Int) := by
      exact Int.add_zero _
    exact h.moveStore hs rfl (by rintro u ⟨⟩) hglobal (fun _ => rfl) (fun _ => .inl rfl)
      (fun _ => .inl rfl)
  | countedGlobal =>
    have huser := SharedStore.userCount_addUser_add (r := t.store) userId 1
      (p := false) (q := true) rfl
    exact h.moveStore hs rfl (by rintro u ⟨⟩) rfl huser (fun _ => .inl rfl) (fun _ => .inl rfl)
  | countedUser =>
    have huser (u : Uuid) : (t.store.setExpiry userId).userCount u +
        ((true && decide (userId = u)).toNat : Int) =
          t.store.userCount u + ((true && decide (userId = u)).toNat : Int) := by
      rw [SharedStore.userCount_setExpiry]
    exact h.moveStore hs rfl (by rintro u ⟨⟩) rfl huser (fun _ => .inl rfl) (fun _ => .inl rfl)
  | expirySet =>
    exact h.moveOn hs rfl (by rintro u ⟨⟩) rfl rfl (fun _ => .inl rfl) (fun _ => .inl rfl)
  | serving => exact h
  | unregistering u =>
    exact h.moveStore hs rfl hrecorded rfl (fun _ => rfl) (fun _ => .inl rfl) (fun _ => .inl rfl)
  | keyDeleted u =>
    have hglobal : (t.store.addGlobal (-1)).globalConnections + (true.toNat : Int) =
        t.store.globalConnections + (false.toNat : Int) := by
      exact (Int.neg_add_cancel_right _ 1).trans (Int.add_zero _).symm
    exact h.moveStore hs rfl hrecorded hglobal (fun _ => rfl) (fun _ => .inl rfl)
      (fun _ => .inl rfl)
  | uncountedGlobal u =>
    have hu : u = userId := hrecorded u rfl
    cases hu
    have huser := SharedStore.userCount_addUser_add (r := t.store) userId (-1)
      (p := true) (q := false) rfl
    exact h.moveStore hs rfl hrecorded rfl huser (fun _ => .inl rfl) (fun _ => .inl rfl)
  | uncountedUser u =>
    exact h.moveOn hs rfl (by rintro u ⟨⟩) rfl rfl (fun _ => .inl rfl) (fun _ => .inl rfl)
  | leaving => exact h.leave hs rfl
  | left u notify =>
    cases notify with
    | nil => exact h.moveOn hs rfl (by rintro u ⟨⟩) rfl rfl (by rintro ⟨⟩) (by rintro ⟨⟩)
    | cons d notify =>
      exact h.moveOn hs rfl (by rintro u ⟨⟩) rfl rfl (by rintro ⟨⟩) (by rintro ⟨⟩)
  | ended => exact h

theorem Cluster.Accounted.close (h : t.Accounted) {id : Nat} {s : ClusterSession k}
    (hs : t.sessions[id]? = some s) : (t.close id s).Accounted := by
  have hown := h.entry id s hs
  obtain ⟨node, deviceId, userId, phase⟩ := s
  cases phase with
  | serving =>
    rw [Cluster.close]
    dsimp only at hown ⊢
    rw [hown rfl]
    have hrecorded : ∀ u ∈ (CallPhase.unregistering userId).unregisters, u = userId := by
      rintro u ⟨⟩
      rfl
    exact h.moveOn hs rfl hrecorded rfl rfl (fun _ => .inl rfl) (fun _ => .inl rfl)
  | _ => exact h

theorem Cluster.Accounted.arrive (h : t.Accounted) {id : Nat} (hs : t.sessions[id]? = none)
    (node : Fin k) (deviceId userId : Uuid) :
    (t.at id ⟨node, deviceId, userId, .arrived⟩ .arrived).Accounted := by
  have hnumber (p : ClusterSession k → Bool) (hp : p ⟨node, deviceId, userId, .arrived⟩ = false) :
      (t.at id ⟨node, deviceId, userId, .arrived⟩ .arrived).number p = t.number p := by
    have hinsert := tally_insert_add_weight (fun _ s => p s) t.sessions id
      ⟨node, deviceId, userId, .arrived⟩
    rw [hs, hp] at hinsert
    exact hinsert
  constructor
  · intro id' s' hs' hregistered
    rw [Cluster.sessions_at] at hs'
    split at hs'
    · cases hs'
      cases hregistered
    · exact h.entry id' s' hs' hregistered
  · intro id' s' hs' u hu
    rw [Cluster.sessions_at] at hs'
    split at hs'
    · cases hs'
      cases hu
    · exact h.unregisters id' s' hs' u hu
  · intro q
    rw [hnumber _ (by rfl)]
    exact h.devices q
  · rw [hnumber _ rfl]
    exact h.global
  · intro u
    rw [hnumber _ (by rfl)]
    exact h.user u
  · rw [hnumber _ rfl]
    exact h.withinGlobal
  · intro u
    rw [hnumber _ (by rfl)]
    exact h.withinUser u

theorem Cluster.Accounted.expire (h : t.Accounted) {u : Uuid}
    (hzero : ∀ count ∈ t.store.userCounts u, count.expires = true → count.value = 0) :
    (t.setStore (t.store.expire u)).Accounted where
  entry := h.entry
  unregisters := h.unregisters
  devices := h.devices
  global := h.global
  user u' := (SharedStore.userCount_expire hzero u').trans (h.user u')
  withinGlobal := h.withinGlobal
  withinUser := h.withinUser

theorem Cluster.Accounted.step (h : t.Accounted) {op : CallOp k} (hok : t.Undisturbed op) :
    (t.step op).Accounted := by
  cases op with
  | arrive id node deviceId userId =>
    rw [Cluster.step]
    split
    · next hs => exact h.arrive hs node deviceId userId
    · exact h
  | advance id =>
    rw [Cluster.step]
    split
    · exact h
    · next hs => exact h.advance hs hok
  | close id =>
    rw [Cluster.step]
    split
    · exact h
    · next hs => exact h.close hs
  | expire u => exact h.expire hok

theorem accounted_new (k : Nat) : (Cluster.new k).Accounted where
  entry := by
    intro id s hs
    rw [Cluster.new, Std.TreeMap.getElem?_emptyc] at hs
    cases hs
  unregisters := by
    intro id s hs
    rw [Cluster.new, Std.TreeMap.getElem?_emptyc] at hs
    cases hs
  devices q := by
    rw [Cluster.entries, tallyAll]
    exact Finset.sum_eq_zero (fun _ _ => rfl)
  global := rfl
  user u := rfl
  withinGlobal := Nat.zero_le _
  withinUser u := Nat.zero_le _

theorem Cluster.registered_eq (t : Cluster k) : t.registered = t.entries (fun _ => true) :=
  Finset.sum_congr rfl (fun _ _ => (tally_eq_size _).symm)

theorem Cluster.number_mono {p q : ClusterSession k → Bool}
    (h : ∀ s, p s = true → q s = true) : t.number p ≤ t.number q :=
  tally_mono (fun _ => h) _

/-- Between calls the sessions that are registered are those that are counted. -/
theorem Cluster.Quiescent.number_eq (h : t.Quiescent) {p q : CallPhase → Bool}
    (hserving : p .serving = q .serving) (hended : p .ended = q .ended) (w : Uuid → Bool) :
    t.number (fun s => p s.phase && w s.userId) = t.number (fun s => q s.phase && w s.userId) := by
  apply tally_congr
  intro id s hs
  dsimp only
  rcases h id s hs with hphase | hphase
  · rw [hphase, hserving]
  · rw [hphase, hended]

theorem Cluster.AllClosed.number_eq_zero (h : t.AllClosed) {p : ClusterSession k → Bool}
    (hp : ∀ s, s.phase = .ended → p s = false) : t.number p = 0 :=
  tally_eq_zero (fun id s hs => hp s (h id s hs))

theorem Cluster.allClosed_of_all
    (h : t.sessions.toList.all (fun e => e.2.phase = .ended) = true) : t.AllClosed := by
  intro id s hs
  exact of_decide_eq_true
    (List.all_eq_true.mp h (id, s) (Std.TreeMap.mem_toList_iff_getElem?_eq_some.mpr hs))

theorem Cluster.Accounted.countersHold (h : t.Accounted) : t.CountersHold where
  global := by
    intro hquiescent
    have hnumber := hquiescent.number_eq (p := CallPhase.inGlobal) (q := CallPhase.registered)
      rfl rfl (fun _ => true)
    simp only [Bool.and_true] at hnumber
    rw [h.global, t.registered_eq, h.devices, hnumber]
    simp only [Bool.and_true]
  user := by
    intro hquiescent u
    have hnumber := hquiescent.number_eq (p := CallPhase.inUser) (q := CallPhase.registered)
      rfl rfl (fun u' => u' = u)
    have hdevices : t.registeredOf u = _ := h.devices (fun u' => u' = u)
    rw [h.user, hdevices, hnumber]
  closed := by
    intro hclosed
    constructor
    · rw [h.global, hclosed.number_eq_zero]
      · rfl
      · intro s hs
        rw [hs]
        rfl
    · intro u
      rw [h.user, hclosed.number_eq_zero]
      · rfl
      · intro s hs
        rw [hs]
        rfl
  nonneg := by
    constructor
    · rw [h.global]
      exact Int.natCast_nonneg _
    · intro u
      rw [h.user]
      exact Int.natCast_nonneg _
  globalLimit := by
    rw [t.registered_eq, h.devices]
    apply le_trans (t.number_mono _) h.withinGlobal
    intro s hs
    exact CallPhase.pastGlobal_of_pastUser
      (CallPhase.pastUser_of_registered (Bool.and_eq_true_iff.mp hs).1)
  userLimit := by
    intro u
    have hdevices : t.registeredOf u = _ := h.devices (fun u' => u' = u)
    rw [hdevices]
    apply le_trans (t.number_mono _) (h.withinUser u)
    intro s hs
    obtain ⟨hregistered, hu⟩ := Bool.and_eq_true_iff.mp hs
    exact Bool.and_eq_true_iff.mpr ⟨CallPhase.pastUser_of_registered hregistered, hu⟩

end Accounting

/-- In every run in which no session connects a device that its node has connected, no check is
passed that the sessions under way would fail, and no counter is let go that counts anything, the
counters hold at every point. -/
theorem counters_hold (k : Nat) (ops : List (CallOp k))
    (h : Guarded Cluster.step Cluster.Undisturbed (.new k) ops) :
    ∀ l, l <+: ops → ((Cluster.new k).run l).CountersHold := by
  rintro l ⟨rest, rfl⟩
  rw [guarded_append] at h
  have haccounted : ((Cluster.new k).run l).Accounted :=
    h.1.invariant (accounted_new k) (fun _ _ hi hok => hi.step hok)
  exact haccounted.countersHold

/-- A session goes on until it serves its device. -/
def connectCall (id : Nat) (node : Fin k) (deviceId userId : Uuid) : List (CallOp k) :=
  .arrive id node deviceId userId :: List.replicate 9 (.advance id)

def disconnectCall (id : Nat) : List (CallOp k) := .close id :: List.replicate 6 (.advance id)

/-- A device connects again when its first session has left. -/
theorem counters_hold_reconnect :
    let ops : List (CallOp 2) := connectCall 0 0 1 7 ++ disconnectCall 0 ++ connectCall 1 1 1 7
    ∀ l, l <+: ops → ((Cluster.new 2).run l).CountersHold :=
  counters_hold 2 _ (by decide +kernel)

/-- The first session of a device takes away what the second one has connected, which is counted
from then on; a counter that is let go under a connected device falls below zero; and six sessions
that have all been checked register one device more than the limit. -/
theorem counters_drift :
    (¬ ∀ ops : List (CallOp 1), ((Cluster.new 1).run ops).AllClosed →
      ((Cluster.new 1).run ops).store.globalConnections = 0) ∧
    (¬ ∀ (ops : List (CallOp 1)) (u : Uuid), 0 ≤ ((Cluster.new 1).run ops).store.userCount u) ∧
    ¬ ∀ (ops : List (CallOp 2)) (u : Uuid),
      ((Cluster.new 2).run ops).registeredOf u ≤ maxConnectionsPerUser := by
  constructor
  · intro h
    have hclosed := h (connectCall 0 0 1 7 ++ connectCall 1 0 1 7 ++ disconnectCall 0 ++
      disconnectCall 1) (Cluster.allClosed_of_all (by decide +kernel))
    exact absurd hclosed (by decide +kernel)
  · constructor
    · intro h
      exact absurd (h (connectCall 0 0 1 7 ++ .expire 7 :: disconnectCall 0) 7) (by decide +kernel)
    · intro h
      have hsix := h ((List.range 6).flatMap (fun i => [.arrive i (Fin.ofNat 2 i) i 7, .advance i,
        .advance i]) ++ (List.range 6).map .advance) 7
      exact absurd hsix (by decide +kernel)

end P2PMesh.Signaling
