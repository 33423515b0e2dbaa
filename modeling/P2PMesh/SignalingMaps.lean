import P2PMesh.Base.Run
import P2PMesh.Signaling

namespace P2PMesh.Signaling
open P2PMesh.Base
set_option autoImplicit true

inductive HubOp where
  | connect (deviceId userId : Uuid) (ws : Nat)
  | disconnect (deviceId : Uuid)

/-- A connect that is refused leaves the hub as it is. -/
def SignalingHub.step (h : SignalingHub) : HubOp → SignalingHub
  | .connect deviceId userId ws =>
    match h.connect deviceId userId ws with
    | .error _ => h
    | .ok h' => h'
  | .disconnect deviceId => h.disconnect deviceId

def SignalingHub.run (h : SignalingHub) (ops : List HubOp) : SignalingHub :=
  ops.foldl SignalingHub.step h

/-- The registered devices of a user. -/
def SignalingHub.registeredOf (h : SignalingHub) (userId : Uuid) : Nat :=
  h.connections.toList.countP (fun e => e.2.userId = userId)

/-- The set of a user has exactly the devices that are registered for the user, and no set is
empty. -/
structure SignalingHub.MapsAgree (h : SignalingHub) : Prop where
  listed : ∀ u d, d ∈ h.devicesOf u ↔ ∃ conn, h.connection d = some conn ∧ conn.userId = u
  nonempty : ∀ (u : Uuid) (devices : Std.TreeSet Uuid), h.userDevices[u]? = some devices →
    devices.isEmpty = false

/-- What is compared with the limit of a user is the number of the user's registered devices. -/
def SignalingHub.CountsDevices (h : SignalingHub) : Prop :=
  ∀ u, (h.devicesOf u).size = h.registeredOf u

/-- A connect that is not refused is of a device that no other user has registered. -/
def SignalingHub.KeepsOwner (h : SignalingHub) : HubOp → Prop
  | .connect deviceId userId _ =>
    h.checkLimits userId = .ok () → ∀ conn ∈ h.connection deviceId, conn.userId = userId
  | .disconnect _ => True

section Maps
variable {h : SignalingHub}

theorem connect_eq (d u : Uuid) (ws : Nat) (hc : h.checkLimits u = .ok ()) :
    h.connect d u ws = .ok (h.insert ⟨d, u, ws⟩) := by
  rw [SignalingHub.connect, hc]

theorem devicesOf_insert (c : DeviceConnection) (u : Uuid) : (h.insert c).devicesOf u =
    if c.userId = u then (h.devicesOf u).insert c.deviceId else h.devicesOf u := by
  rw [SignalingHub.devicesOf, SignalingHub.insert, getElem?_insert_eq]
  split
  · next hu =>
    rw [hu]
    rfl
  · rfl

theorem mem_devicesOf_insert (c : DeviceConnection) (u d : Uuid) :
    d ∈ (h.insert c).devicesOf u ↔ (c.userId = u ∧ c.deviceId = d) ∨ d ∈ h.devicesOf u := by
  rw [devicesOf_insert]
  split
  · next hu =>
    rw [Std.TreeSet.mem_insert, Std.compare_eq_iff_eq]
    simp only [hu, true_and]
  · next hu => simp only [hu, false_and, false_or]

theorem userDevices_disconnect {d : Uuid} {conn : DeviceConnection}
    (hd : h.connection d = some conn) (u : Uuid) : (h.disconnect d).userDevices[u]? =
      if conn.userId = u then
        if ((h.devicesOf u).erase d).isEmpty then none else some ((h.devicesOf u).erase d)
      else h.userDevices[u]? := by
  rw [SignalingHub.disconnect, hd]
  dsimp only
  split
  · next hempty =>
    rw [getElem?_erase_eq]
    split
    · next hu =>
      rw [hu] at hempty
      rw [if_pos hempty]
    · rfl
  · next hempty =>
    rw [getElem?_insert_eq]
    split
    · next hu =>
      rw [hu] at hempty ⊢
      rw [if_neg hempty]
    · rfl

theorem mem_devicesOf_disconnect {d : Uuid} {conn : DeviceConnection}
    (hd : h.connection d = some conn) (u d' : Uuid) : d' ∈ (h.disconnect d).devicesOf u ↔
      d' ∈ h.devicesOf u ∧ (conn.userId = u → d ≠ d') := by
  rw [SignalingHub.devicesOf, userDevices_disconnect hd]
  by_cases hu : conn.userId = u
  · rw [if_pos hu]
    have herase : d' ∈ (h.devicesOf u).erase d ↔ d' ∈ h.devicesOf u ∧ d ≠ d' := by
      rw [Std.TreeSet.mem_erase, ne_eq, Std.compare_eq_iff_eq, and_comm]
    split
    · next hempty =>
      have hnone := Std.TreeSet.isEmpty_iff_forall_not_mem.mp hempty d'
      rw [herase] at hnone
      simp only [Option.getD_none, hu, forall_const]
      exact iff_of_false Std.TreeSet.not_mem_emptyc hnone
    · rw [Option.getD_some, herase]
      simp only [hu, forall_const]
  · rw [if_neg hu]
    simp only [hu, false_implies, and_true]
    rfl

theorem SignalingHub.MapsAgree.disconnect (hm : h.MapsAgree) (d : Uuid) :
    (h.disconnect d).MapsAgree := by
  cases hd : h.connection d with
  | none =>
    rw [SignalingHub.disconnect, hd]
    exact hm
  | some conn =>
    constructor
    · intro u d'
      rw [mem_devicesOf_disconnect hd, hm.listed u d', connection_disconnect]
      constructor
      · rintro ⟨⟨conn', hconn, hu⟩, hne⟩
        have hdd : d ≠ d' := by
          rintro rfl
          rw [hd] at hconn
          cases hconn
          exact hne hu rfl
        exact ⟨conn', by rw [if_neg hdd, hconn], hu⟩
      · rintro ⟨conn', hconn, hu⟩
        split at hconn
        · cases hconn
        · next hdd => exact ⟨⟨conn', hconn, hu⟩, fun _ => hdd⟩
    · intro u devices hdevices
      rw [userDevices_disconnect hd] at hdevices
      split at hdevices
      · split at hdevices
        · cases hdevices
        · next hempty =>
          cases hdevices
          exact Bool.eq_false_iff.mpr hempty
      · exact hm.nonempty u devices hdevices

theorem SignalingHub.MapsAgree.insert_iff (hm : h.MapsAgree) (c : DeviceConnection) :
    (h.insert c).MapsAgree ↔ ∀ conn ∈ h.connection c.deviceId, conn.userId = c.userId := by
  constructor
  · intro hinsert conn hconn
    have hmem : c.deviceId ∈ (h.insert c).devicesOf conn.userId := by
      rw [mem_devicesOf_insert]
      exact Or.inr ((hm.listed _ _).mpr ⟨conn, hconn, rfl⟩)
    obtain ⟨conn', hconn', hu⟩ := (hinsert.listed _ _).mp hmem
    rw [connection_insert, if_pos rfl] at hconn'
    cases hconn'
    exact hu.symm
  · intro hsame
    constructor
    · intro u d
      rw [mem_devicesOf_insert, connection_insert, hm.listed u d]
      by_cases hd : c.deviceId = d
      · rw [if_pos hd]
        constructor
        · rintro (⟨hu, -⟩ | ⟨conn, hconn, hu⟩)
          · exact ⟨c, rfl, hu⟩
          · rw [← hd] at hconn
            exact ⟨c, rfl, (hsame conn hconn).symm.trans hu⟩
        · rintro ⟨conn, hconn, hu⟩
          cases hconn
          exact Or.inl ⟨hu, hd⟩
      · rw [if_neg hd]
        simp only [hd, and_false, false_or]
    · intro u devices hdevices
      rw [SignalingHub.insert, getElem?_insert_eq] at hdevices
      split at hdevices
      · cases hdevices
        exact Std.TreeSet.isEmpty_insert
      · exact hm.nonempty u devices hdevices

theorem SignalingHub.MapsAgree.step_iff (hm : h.MapsAgree) (op : HubOp) :
    (h.step op).MapsAgree ↔ h.KeepsOwner op := by
  cases op with
  | disconnect d => exact iff_of_true (hm.disconnect d) trivial
  | connect d u ws =>
    rw [SignalingHub.KeepsOwner]
    cases hc : h.checkLimits u with
    | error e =>
      have hstep : h.step (.connect d u ws) = h := by
        rw [SignalingHub.step, SignalingHub.connect, hc]
      rw [hstep]
      exact iff_of_true hm (fun hok => by cases hok)
    | ok =>
      have hstep : h.step (.connect d u ws) = h.insert ⟨d, u, ws⟩ := by
        rw [SignalingHub.step, connect_eq d u ws hc]
      rw [hstep, hm.insert_iff]
      simp only [forall_const]

theorem registered_nodup (u : Uuid) :
    ((h.connections.toList.filter (fun e => e.2.userId = u)).map (·.1)).Nodup := by
  rw [List.nodup_iff_pairwise_ne, List.pairwise_map]
  have hdistinct := Std.TreeMap.distinct_keys_toList (t := h.connections)
  exact (hdistinct.filter _).imp (fun hne he => hne (Std.compare_eq_iff_eq.mpr he))

theorem SignalingHub.MapsAgree.counts (hm : h.MapsAgree) : h.CountsDevices := by
  intro u
  have hkeys : (h.devicesOf u).toList.Perm
      ((h.connections.toList.filter (fun e => e.2.userId = u)).map (·.1)) := by
    rw [List.perm_ext_iff_of_nodup]
    · intro d
      rw [Std.TreeSet.mem_toList, hm.listed u d, List.mem_map]
      constructor
      · rintro ⟨conn, hconn, hu⟩
        refine ⟨(d, conn), List.mem_filter.mpr ⟨?_, decide_eq_true hu⟩, rfl⟩
        exact Std.TreeMap.mem_toList_iff_getElem?_eq_some.mpr hconn
      · rintro ⟨⟨d', conn⟩, he, rfl⟩
        obtain ⟨hmem, hu⟩ := List.mem_filter.mp he
        exact ⟨conn, Std.TreeMap.mem_toList_iff_getElem?_eq_some.mp hmem, of_decide_eq_true hu⟩
    · exact Std.TreeSet.distinct_toList.imp (fun hne he => hne (Std.compare_eq_iff_eq.mpr he))
    · exact registered_nodup u
  rw [← Std.TreeSet.length_toList, hkeys.length_eq, List.length_map, SignalingHub.registeredOf,
    List.countP_eq_length_filter]

theorem mapsAgree_new (maxConnections : Nat) (maxConnectionsPerUser : Option Nat) :
    (SignalingHub.new maxConnections maxConnectionsPerUser).MapsAgree := by
  constructor
  · intro u d
    refine iff_of_false ?_ ?_
    · rw [SignalingHub.devicesOf, SignalingHub.new, Std.TreeMap.getElem?_emptyc]
      exact Std.TreeSet.not_mem_emptyc
    · rintro ⟨conn, hconn, -⟩
      rw [SignalingHub.connection, SignalingHub.new, Std.TreeMap.getElem?_emptyc] at hconn
      cases hconn
  · intro u devices hdevices
    rw [SignalingHub.new, Std.TreeMap.getElem?_emptyc] at hdevices
    cases hdevices

end Maps

/-- After every part of a sequence of calls the two maps of a hub agree, and the sets count the
registered devices, exactly where no connect takes a device over from another user. -/
theorem maps_agree_iff (maxConnections : Nat) (maxConnectionsPerUser : Option Nat)
    (ops : List HubOp) :
    (∀ l, l <+: ops → ((SignalingHub.new maxConnections maxConnectionsPerUser).run l).MapsAgree ∧
      ((SignalingHub.new maxConnections maxConnectionsPerUser).run l).CountsDevices) ↔
    Guarded SignalingHub.step SignalingHub.KeepsOwner
      (.new maxConnections maxConnectionsPerUser) ops := by
  rw [← forall_prefix_iff (I := fun h => h.MapsAgree ∧ h.CountsDevices)]
  · exact Iff.rfl
  · have hnew := mapsAgree_new maxConnections maxConnectionsPerUser
    exact ⟨hnew, hnew.counts⟩
  · intro h op hi
    rw [← hi.1.step_iff op]
    exact ⟨fun hstep => hstep.1, fun hstep => ⟨hstep, hstep.counts⟩⟩

/-- A device that is taken over stays in the set of the user who had it, who has no device left
and is counted one. -/
theorem maps_disagree :
    (¬ ∀ (ops : List HubOp) (u d : Uuid),
      d ∈ ((SignalingHub.new 10000 (some 5)).run ops).devicesOf u →
        ∃ conn, ((SignalingHub.new 10000 (some 5)).run ops).connection d = some conn ∧
          conn.userId = u) ∧
    ¬ ∀ ops : List HubOp, ((SignalingHub.new 10000 (some 5)).run ops).CountsDevices := by
  constructor
  · intro h
    obtain ⟨conn, hconn, hu⟩ := h [.connect 1 7 0, .connect 1 8 1] 7 1 (by decide +kernel)
    have hran : (((SignalingHub.new 10000 (some 5)).run
        [.connect 1 7 0, .connect 1 8 1]).connection 1).map DeviceConnection.userId = some 8 := by
      decide +kernel
    rw [hconn, Option.map_some, hu] at hran
    exact absurd hran (by decide)
  · intro h
    exact absurd (h [.connect 1 7 0, .connect 1 8 1] 7) (by decide +kernel)

end P2PMesh.Signaling
