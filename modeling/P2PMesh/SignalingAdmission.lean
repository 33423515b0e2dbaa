import Mathlib.Data.List.Perm.Subperm
import P2PMesh.SignalingMaps

namespace P2PMesh.Signaling
open P2PMesh.Base
set_option autoImplicit true

def SignalingHub.Refuses (h : SignalingHub) (deviceId userId : Uuid) (ws : Nat) : Prop :=
  ∃ e, h.connect deviceId userId ws = .error e

/-- There are more devices than the hub takes, or more of the user than a user may have. -/
def SignalingHub.Exceeds (h : SignalingHub) (userId : Uuid) : Prop :=
  h.maxConnections < h.connections.size ∨
    ∃ limit ∈ h.maxConnectionsPerUser, limit < h.registeredOf userId

/-- There is room for one more device, and one more in the user's set. -/
def SignalingHub.Spare (h : SignalingHub) (limit : Nat) (userId : Uuid) : Prop :=
  h.connections.size < h.maxConnections ∧ (h.devicesOf userId).size < limit

/-- The set of the user is full although the user has fewer devices registered. -/
def SignalingHub.Clogged (h : SignalingHub) (limit : Nat) (userId : Uuid) : Prop :=
  limit ≤ (h.devicesOf userId).size ∧ h.registeredOf userId < limit

/-- A device that is registered for the user finds room for one more; one that is registered for
another user finds the hub below capacity, unless the user has all devices already; and no set is
full of devices that are not registered. -/
def SignalingHub.CountsRight (h : SignalingHub) (limit : Nat) (deviceId userId : Uuid) : Prop :=
  match h.connection deviceId with
  | none => h.maxConnections ≤ h.connections.size ∨ ¬ h.Clogged limit userId
  | some conn =>
    if conn.userId = userId then h.Spare limit userId
    else ¬ h.Clogged limit userId ∧
      (h.connections.size < h.maxConnections ∨ limit ≤ h.registeredOf userId)

/-- The hub and the sets of its users are within their limits, and every registered device is in
the set of its user. -/
structure SignalingHub.Within (maxConnections limit : Nat) (h : SignalingHub) : Prop where
  capacity : h.maxConnections = maxConnections
  perUser : h.maxConnectionsPerUser = some limit
  total : h.connections.size ≤ maxConnections
  sets : ∀ u, (h.devicesOf u).size ≤ limit
  listed : ∀ d conn, h.connection d = some conn → d ∈ h.devicesOf conn.userId

section Admission
variable {h : SignalingHub} {maxConnections limit : Nat}

theorem size_devicesOf_disconnect_le {d : Uuid} {conn : DeviceConnection}
    (hd : h.connection d = some conn) (u : Uuid) : ((h.disconnect d).devicesOf u).size ≤
      (h.devicesOf u).size := by
  rw [SignalingHub.devicesOf, userDevices_disconnect hd]
  split
  · split
    · exact Nat.zero_le _
    · exact Std.TreeSet.size_erase_le
  · exact Nat.le_refl _

theorem connections_disconnect_size (d : Uuid) :
    (h.disconnect d).connections.size ≤ h.connections.size := by
  rw [SignalingHub.disconnect]
  split
  · exact Nat.le_refl _
  · exact Std.TreeMap.size_erase_le

theorem SignalingHub.Within.new (maxConnections limit : Nat) :
    (SignalingHub.new maxConnections (some limit)).Within maxConnections limit where
  capacity := rfl
  perUser := rfl
  total := Nat.zero_le _
  sets u := by
    rw [SignalingHub.devicesOf, SignalingHub.new, Std.TreeMap.getElem?_emptyc]
    exact Nat.zero_le _
  listed d conn hd := by
    rw [SignalingHub.connection, SignalingHub.new, Std.TreeMap.getElem?_emptyc] at hd
    cases hd

theorem disconnect_limits (d : Uuid) : (h.disconnect d).maxConnections = h.maxConnections ∧
    (h.disconnect d).maxConnectionsPerUser = h.maxConnectionsPerUser := by
  rw [SignalingHub.disconnect]
  split
  · exact ⟨rfl, rfl⟩
  · exact ⟨rfl, rfl⟩

theorem SignalingHub.Within.disconnect (hw : h.Within maxConnections limit) (d : Uuid) :
    (h.disconnect d).Within maxConnections limit := by
  cases hd : h.connection d with
  | none =>
    rw [SignalingHub.disconnect, hd]
    exact hw
  | some conn =>
    constructor
    · rw [(disconnect_limits d).1, hw.capacity]
    · rw [(disconnect_limits d).2, hw.perUser]
    · exact Nat.le_trans (connections_disconnect_size d) hw.total
    · exact fun u => Nat.le_trans (size_devicesOf_disconnect_le hd u) (hw.sets u)
    · intro d' conn' hd'
      rw [connection_disconnect] at hd'
      split at hd'
      · cases hd'
      · next hne =>
        rw [mem_devicesOf_disconnect hd]
        exact ⟨hw.listed d' conn' hd', fun _ => hne⟩

theorem SignalingHub.Within.checkLimits_iff (hw : h.Within maxConnections limit) (u : Uuid) :
    h.checkLimits u = .ok () ↔ h.Spare limit u := by
  rw [SignalingHub.checkLimits, SignalingHub.Spare, hw.perUser]
  split
  · next hfull => exact iff_of_false (fun he => by cases he) (fun hs => by omega)
  · next hroom =>
    dsimp only
    split
    · next hlimit => exact iff_of_false (fun he => by cases he) (fun hs => by omega)
    · next hset => exact iff_of_true rfl ⟨by omega, by omega⟩

theorem SignalingHub.Within.refuses_iff (hw : h.Within maxConnections limit) (d u : Uuid)
    (ws : Nat) : h.Refuses d u ws ↔ ¬ h.Spare limit u := by
  rw [← hw.checkLimits_iff, SignalingHub.Refuses, SignalingHub.connect]
  cases hc : h.checkLimits u with
  | error e => exact iff_of_true ⟨e, rfl⟩ (fun he => by cases he)
  | ok =>
    refine iff_of_false ?_ (fun hn => hn rfl)
    rintro ⟨e, he⟩
    cases he

theorem SignalingHub.Within.insert (hw : h.Within maxConnections limit) {d u : Uuid}
    (hs : h.Spare limit u) (ws : Nat) :
    (h.insert ⟨d, u, ws⟩).Within maxConnections limit := by
  obtain ⟨htotal, hset⟩ := hs
  rw [hw.capacity] at htotal
  constructor
  · exact hw.capacity
  · exact hw.perUser
  · have hsize : (h.insert ⟨d, u, ws⟩).connections.size ≤ h.connections.size + 1 :=
      Std.TreeMap.size_insert_le
    omega
  · intro u'
    rw [devicesOf_insert]
    split
    · next hu =>
      have hsize : ((h.devicesOf u').insert d).size ≤ (h.devicesOf u').size + 1 :=
        Std.TreeSet.size_insert_le
      rw [← hu] at hsize ⊢
      dsimp only at hsize ⊢
      omega
    · exact hw.sets u'
  · intro d' conn hd
    rw [connection_insert] at hd
    rw [mem_devicesOf_insert]
    split at hd
    · next he =>
      cases hd
      exact Or.inl ⟨rfl, he⟩
    · exact Or.inr (hw.listed d' conn hd)

theorem SignalingHub.Within.step (hw : h.Within maxConnections limit) (op : HubOp) :
    (h.step op).Within maxConnections limit := by
  cases op with
  | disconnect d => exact hw.disconnect d
  | connect d u ws =>
    rw [SignalingHub.step]
    cases hc : h.connect d u ws with
    | error e => exact hw
    | ok h' =>
      have hs : h.Spare limit u := by
        by_contra hn
        obtain ⟨e, he⟩ := (hw.refuses_iff d u ws).mpr hn
        rw [hc] at he
        cases he
      rw [connect_eq_ok hc]
      exact hw.insert hs ws

theorem SignalingHub.run_within (maxConnections limit : Nat) (ops : List HubOp) :
    ((SignalingHub.new maxConnections (some limit)).run ops).Within maxConnections limit :=
  run_invariant SignalingHub.step (I := SignalingHub.Within maxConnections limit)
    (.new maxConnections limit) (fun _ op hw => hw.step op) ops

theorem SignalingHub.Within.registered_le (hw : h.Within maxConnections limit) (u : Uuid) :
    h.registeredOf u ≤ (h.devicesOf u).size := by
  have hsub : (h.connections.toList.filter (fun e => e.2.userId = u)).map (·.1) ⊆
      (h.devicesOf u).toList := by
    intro d hd
    obtain ⟨e, he, hed⟩ := List.mem_map.mp hd
    obtain ⟨hmem, hu⟩ := List.mem_filter.mp he
    have hlisted := hw.listed e.1 e.2 (Std.TreeMap.mem_toList_iff_getElem?_eq_some.mp hmem)
    rw [of_decide_eq_true hu, hed] at hlisted
    exact Std.TreeSet.mem_toList.mpr hlisted
  have hle := ((registered_nodup u).subperm hsub).length_le
  rwa [List.length_map, ← List.countP_eq_length_filter, Std.TreeSet.length_toList] at hle

theorem registeredOf_insert (d u : Uuid) (ws : Nat) : (h.insert ⟨d, u, ws⟩).registeredOf u =
    match h.connection d with
    | none => h.registeredOf u + 1
    | some conn => if conn.userId = u then h.registeredOf u else h.registeredOf u + 1 := by
  change tally (fun _ c => decide (c.userId = u)) (h.connections.insert d ⟨d, u, ws⟩) = _
  cases hd : h.connection d with
  | none =>
    rw [tally_insert_of_none hd, if_pos (decide_eq_true rfl)]
    rfl
  | some conn =>
    dsimp only
    split
    · next hu =>
      rw [tally_insert_of_same hd (by rw [hu])]
      rfl
    · next hu =>
      have hold : h.registeredOf u =
          tally (fun _ c => decide (c.userId = u)) (h.connections.erase d) := by
        have ht := tally_of_some (p := fun _ c => decide (c.userId = u)) hd
        rw [decide_eq_false hu] at ht
        exact ht
      rw [tally_insert, if_pos (decide_eq_true rfl), hold]

theorem connections_insert_size (d u : Uuid) (ws : Nat) :
    (h.insert ⟨d, u, ws⟩).connections.size =
      if (h.connection d).isSome then h.connections.size else h.connections.size + 1 := by
  change (h.connections.insert d _).size = _
  rw [Std.TreeMap.size_insert, SignalingHub.connection, Std.TreeMap.isSome_getElem?_eq_contains]

theorem SignalingHub.Within.exceeds_insert_iff (hw : h.Within maxConnections limit) (d u : Uuid)
    (ws : Nat) : (h.insert ⟨d, u, ws⟩).Exceeds u ↔
      h.maxConnections < (h.insert ⟨d, u, ws⟩).connections.size ∨
        limit < (h.insert ⟨d, u, ws⟩).registeredOf u := by
  have hlimit : (h.insert ⟨d, u, ws⟩).maxConnectionsPerUser = some limit := hw.perUser
  rw [SignalingHub.Exceeds, hlimit]
  simp only [Option.mem_some_iff, exists_eq_left']
  rfl

/-- A connect is refused where it would exceed a limit, and only there, exactly where the counts
that it compares are the right ones. -/
theorem SignalingHub.Within.refuses_exactly_iff (hw : h.Within maxConnections limit)
    (d u : Uuid) (ws : Nat) :
    (h.Refuses d u ws ↔ (h.insert ⟨d, u, ws⟩).Exceeds u) ↔ h.CountsRight limit d u := by
  have htotal := hw.total
  have hset := hw.sets u
  have hreg := hw.registered_le u
  have hcap := hw.capacity
  rw [hw.refuses_iff, hw.exceeds_insert_iff, registeredOf_insert, connections_insert_size,
    SignalingHub.CountsRight, SignalingHub.Clogged, SignalingHub.Spare]
  cases hd : h.connection d with
  | none =>
    simp only [Option.isSome_none, Bool.false_eq_true, ↓reduceIte]
    omega
  | some conn =>
    simp only [Option.isSome_some, ↓reduceIte]
    split
    · omega
    · omega

end Admission

/-- Whatever calls a hub has had, its limits hold and a refused connect leaves it as it was; that
a connect is refused exactly where it would exceed a limit holds exactly where the counts are
right. -/
theorem hub_admission_iff (maxConnections limit : Nat) (ops : List HubOp) :
    let h := (SignalingHub.new maxConnections (some limit)).run ops
    (h.connections.size ≤ maxConnections ∧ ∀ u, h.registeredOf u ≤ limit) ∧
      ∀ d u ws, (h.Refuses d u ws → h.step (.connect d u ws) = h) ∧
        ((h.Refuses d u ws ↔ (h.insert ⟨d, u, ws⟩).Exceeds u) ↔ h.CountsRight limit d u) := by
  intro h
  have hw : h.Within maxConnections limit := SignalingHub.run_within maxConnections limit ops
  refine ⟨⟨hw.total, fun u => Nat.le_trans (hw.registered_le u) (hw.sets u)⟩, ?_⟩
  intro d u ws
  refine ⟨?_, hw.refuses_exactly_iff d u ws⟩
  rintro ⟨e, he⟩
  rw [SignalingHub.step, he]

/-- Five devices of one user, which is all that a user may have. -/
def fiveDevices : List HubOp :=
  [.connect 1 7 1, .connect 2 7 2, .connect 3 7 3, .connect 4 7 4, .connect 5 7 5]

/-- A device that reconnects is refused where the user has no room for another one, and a user
whose device was taken over where the user has no device left. -/
theorem hub_refuses_wrongly :
    (((SignalingHub.new 10000 (some 5)).run fiveDevices).Refuses 1 7 6 ∧
      ¬ (((SignalingHub.new 10000 (some 5)).run fiveDevices).insert ⟨1, 7, 6⟩).Exceeds 7) ∧
    ((SignalingHub.new 10000 (some 1)).run [.connect 1 7 1, .connect 1 8 2]).Refuses 2 7 3 ∧
      ¬ (((SignalingHub.new 10000 (some 1)).run [.connect 1 7 1, .connect 1 8 2]).insert
        ⟨2, 7, 3⟩).Exceeds 7 := by
  have hw := SignalingHub.run_within 10000 5 fiveDevices
  have hw' := SignalingHub.run_within 10000 1 [.connect 1 7 1, .connect 1 8 2]
  rw [hw.refuses_iff, hw.exceeds_insert_iff, hw'.refuses_iff, hw'.exceeds_insert_iff,
    SignalingHub.Spare, SignalingHub.Spare]
  decide +kernel

end P2PMesh.Signaling
