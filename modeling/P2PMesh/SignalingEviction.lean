import P2PMesh.SignalingEndpoint

namespace P2PMesh.Signaling
open P2PMesh.Base
set_option autoImplicit true

section Sets
variable (t : ControlPlane)

/-- A device without an entry has no sockets. -/
def ControlPlane.connsOf (path : String) : Std.TreeSet Nat :=
  t.activeDeviceConnections[path]?.getD ∅

def ControlPlane.HasEnded (id : Nat) : Prop := ∃ s, t.sessions id = some s ∧ s.phase = .ended

/-- No entry has more sockets than the limit or the socket of a session that has ended. -/
structure ControlPlane.Sound : Prop where
  bounded : ∀ path, ((t.connsOf path).size : Int) ≤ t.maxConnsPerDevice
  live : ∀ path id, id ∈ t.connsOf path → ¬ t.HasEnded id

/-- The sockets of an entry belong to sessions of its path that are done with the limit. -/
structure ControlPlane.Listed : Prop where
  limit : 1 ≤ t.maxConnsPerDevice
  listed : ∀ path id, id ∈ t.connsOf path →
    ∃ s, t.sessions id = some s ∧ s.path = path ∧ s.phase ≠ .evicting

/-- The socket that a step puts into the entry of its device. -/
def ControlPlane.adds (uuid : String → Option Uuid) : WsOp → Option Nat
  | .arrive id path _ _ =>
    match t.sessions id, uuid path with
    | none, some _ => if ((t.connsOf path).size : Int) < t.maxConnsPerDevice then some id else none
    | _, _ => none
  | .track id =>
    match t.sessions id with
    | some ⟨path, _, _, .evicting⟩ => t.activeDeviceConnections[path]?.map (fun _ => id)
    | _ => none
  | _ => none

/-- The entry that a step takes a socket from to make room, with the socket. -/
def ControlPlane.evicts (uuid : String → Option Uuid) : WsOp → Option (Std.TreeSet Nat × Nat)
  | .arrive id path _ oldest =>
    match t.sessions id, uuid path with
    | none, some _ =>
      if ((t.connsOf path).size : Int) < t.maxConnsPerDevice then none
      else if (t.connsOf path).contains oldest then some (t.connsOf path, oldest)
      else none
    | _, _ => none
  | _ => none

/-- A full entry gives up a socket that it does not have, or a session that has made room finds
its entry gone. -/
def ControlPlane.RaisesKeyError (uuid : String → Option Uuid) : WsOp → Prop
  | .arrive id path _ _ => t.sessions id = none ∧ (uuid path).isSome = true ∧
      ¬ ((t.connsOf path).size : Int) < t.maxConnsPerDevice ∧ (t.connsOf path).isEmpty = true
  | .track id => ∃ path deviceId userId, t.sessions id = some ⟨path, deviceId, userId, .evicting⟩ ∧
      t.activeDeviceConnections[path]? = none
  | _ => False

end Sets

/-- The steps that a session takes while it stays registered, and the one that takes it out of the
hub. -/
def WsOp.Moves : WsOp → Prop
  | .relay _ _ | .relayed _ _ | .disconnect _ => True
  | _ => False

/-- The endpoint, with the sockets in the order in which they came into an entry. -/
structure DeviceSessions where
  plane : ControlPlane
  order : List Nat

def DeviceSessions.new (maxConnections : Nat) (maxConnsPerDevice : Int) : DeviceSessions :=
  ⟨.new maxConnections maxConnsPerDevice, []⟩

section Eviction
variable (uuid : String → Option Uuid) (s : DeviceSessions)

def DeviceSessions.step (op : WsOp) : DeviceSessions :=
  ⟨s.plane.step uuid op, s.order ++ (s.plane.adds uuid op).toList⟩

def DeviceSessions.run (ops : List WsOp) : DeviceSessions :=
  ops.foldl (DeviceSessions.step uuid) s

/-- A step that makes room takes out the socket that came in first. -/
def DeviceSessions.EvictsFirst (op : WsOp) : Prop :=
  ∀ conns id, s.plane.evicts uuid op = some (conns, id) →
    s.order.find? conns.contains = some id

/-- What is asked of a step: no error, and the right eviction if there is one. -/
def DeviceSessions.StepsRight (op : WsOp) : Prop :=
  ¬ s.plane.RaisesKeyError uuid op ∧ s.EvictsFirst uuid op

/-- The entry of the path is there and has room. -/
def ControlPlane.HasRoom (t : ControlPlane) (path : String) : Prop :=
  ∃ conns, t.activeDeviceConnections[path]? = some conns ∧
    (conns.size : Int) < t.maxConnsPerDevice

/-- Room is made by the socket that came in first; a session that has made room still finds it, in
an entry that is still there; and the hub refuses no session whose socket is in its entry. -/
def DeviceSessions.Spares (op : WsOp) : Prop :=
  match op with
  | .arrive _ _ _ _ => s.EvictsFirst uuid op
  | .track id => ∀ path deviceId userId,
      s.plane.sessions id = some ⟨path, deviceId, userId, .evicting⟩ → s.plane.HasRoom path
  | .connect id => ∀ path deviceId userId,
      s.plane.sessions id = some ⟨path, deviceId, userId, .tracked⟩ →
        id ∈ s.plane.connsOf path → ∃ hub, s.plane.hub.connect deviceId userId id = .ok hub
  | _ => True

instance decidableEvictsFirst (op : WsOp) : Decidable (s.EvictsFirst uuid op) :=
  match h : s.plane.evicts uuid op with
  | none => .isTrue (by
      intro conns id he
      rw [h] at he
      cases he)
  | some (conns, id) => decidable_of_iff (s.order.find? conns.contains = some id) (by
      rw [DeviceSessions.EvictsFirst, h]
      constructor
      · rintro hfirst _ _ ⟨⟩
        exact hfirst
      · exact fun hfirst => hfirst conns id rfl)

instance ControlPlane.decidableHasRoom (t : ControlPlane) (path : String) :
    Decidable (t.HasRoom path) :=
  decidable_of_iff (t.activeDeviceConnections[path]?.any
    (fun conns => (conns.size : Int) < t.maxConnsPerDevice) = true) (by
      rw [ControlPlane.HasRoom, Option.any_eq_true]
      simp only [decide_eq_true_eq])

instance decidableSpares : ∀ op, Decidable (s.Spares uuid op)
  | .arrive id path userId oldest =>
    inferInstanceAs (Decidable (s.EvictsFirst uuid (.arrive id path userId oldest)))
  | .track id => decidable_of_iff (∀ session ∈ s.plane.sessions id, session.phase = .evicting →
      s.plane.HasRoom session.path) (by
        rw [DeviceSessions.Spares]
        constructor
        · intro h path deviceId userId hid
          exact h _ hid rfl
        · rintro h ⟨path, deviceId, userId, phase⟩ hid rfl
          exact h path deviceId userId hid)
  | .connect id => decidable_of_iff (∀ session ∈ s.plane.sessions id, session.phase = .tracked →
      id ∈ s.plane.connsOf session.path →
        (s.plane.hub.connect session.deviceId session.userId id).isOk = true) (by
        rw [DeviceSessions.Spares]
        constructor
        · intro h path deviceId userId hid hmem
          have hok := h _ hid rfl hmem
          dsimp only at hok
          cases hc : s.plane.hub.connect deviceId userId id with
          | ok hub => exact ⟨hub, rfl⟩
          | error e =>
            rw [hc] at hok
            cases hok
        · rintro h ⟨path, deviceId, userId, phase⟩ hid rfl hmem
          obtain ⟨hub, hok⟩ := h path deviceId userId hid hmem
          dsimp only
          rw [hok]
          rfl)
  | .relay _ _ | .relayed _ _ | .disconnect _ | .untrack _ => .isTrue trivial

end Eviction

section Entries
variable {t : ControlPlane}

theorem ControlPlane.connsOf_setConns (path p : String) (conns : Std.TreeSet Nat) :
    (t.setConns path conns).connsOf p = if path = p then conns else t.connsOf p := by
  rw [ControlPlane.connsOf, ControlPlane.setConns, getElem?_insert_eq]
  split
  · rfl
  · rfl

theorem ControlPlane.connsOf_of_some {path : String} {conns : Std.TreeSet Nat}
    (h : t.activeDeviceConnections[path]? = some conns) : t.connsOf path = conns := by
  rw [ControlPlane.connsOf, h, Option.getD_some]

theorem ControlPlane.hasEnded_at (id i : Nat) (s : WsSession) :
    (t.at id s).HasEnded i ↔ if i = id then s.phase = .ended else t.HasEnded i := by
  rw [ControlPlane.HasEnded, ControlPlane.at]
  dsimp only
  rw [Function.update_apply]
  split
  · constructor
    · rintro ⟨s', he, hp⟩
      cases he
      exact hp
    · intro hp
      exact ⟨s, rfl, hp⟩
  · rfl

theorem ControlPlane.Listed.not_mem (h : t.Listed) {id : Nat}
    (hid : ∀ s, t.sessions id = some s → s.phase = .evicting) (path : String) :
    id ∉ t.connsOf path := by
  intro hmem
  obtain ⟨s, hs, -, hp⟩ := h.listed path id hmem
  exact hp (hid s hs)

/-- A step that adds no socket keeps the entries within the limit; it keeps them sound if no
session ends whose socket stays. -/
theorem ControlPlane.Sound.shrink {t' : ControlPlane} (h : t.Sound)
    (hmax : t'.maxConnsPerDevice = t.maxConnsPerDevice)
    (hsize : ∀ path, (t'.connsOf path).size ≤ (t.connsOf path).size)
    (hlive : ∀ path id, id ∈ t'.connsOf path → id ∈ t.connsOf path ∧
      (t'.HasEnded id → t.HasEnded id)) : t'.Sound where
  bounded path := by
    rw [hmax]
    exact Int.le_trans (Int.ofNat_le.mpr (hsize path)) (h.bounded path)
  live path id hid hended := by
    obtain ⟨hmem, hback⟩ := hlive path id hid
    exact h.live path id hmem (hback hended)

theorem ControlPlane.Listed.move (h : t.Listed) {id : Nat} {s s' : WsSession}
    (hs : t.sessions id = some s) (hpath : s'.path = s.path) (hphase : s'.phase ≠ .evicting) :
    (t.at id s').Listed where
  limit := h.limit
  listed path i hi := by
    obtain ⟨s₀, hs₀, hp₀, he₀⟩ := h.listed path i hi
    by_cases hii : i = id
    · cases hii
      rw [hs] at hs₀
      cases hs₀
      exact ⟨s', Function.update_self .., hpath.trans hp₀, hphase⟩
    · exact ⟨s₀, (Function.update_of_ne hii ..).trans hs₀, hp₀, he₀⟩

theorem ControlPlane.Sound.move (h : t.Sound) (id : Nat) {s : WsSession}
    (hphase : s.phase ≠ .ended) : (t.at id s).Sound := by
  refine h.shrink rfl ?_ ?_
  · exact fun path => Nat.le_refl _
  · intro path i hi
    refine ⟨hi, ?_⟩
    rw [ControlPlane.hasEnded_at]
    split
    · exact fun hp => (hphase hp).elim
    · exact fun hp => hp

/-- A socket comes into the entry of its path. -/
def ControlPlane.enter (t : ControlPlane) (id : Nat) (s : WsSession) : ControlPlane :=
  (t.setConns s.path ((t.connsOf s.path).insert id)).at id s

theorem ControlPlane.connsOf_enter (id : Nat) (s : WsSession) (p : String) :
    (t.enter id s).connsOf p =
      if s.path = p then (t.connsOf s.path).insert id else t.connsOf p :=
  ControlPlane.connsOf_setConns s.path p _

theorem ControlPlane.mem_enter {id i : Nat} {s : WsSession} {p : String} :
    i ∈ (t.enter id s).connsOf p ↔ (i = id ∧ s.path = p) ∨ i ∈ t.connsOf p := by
  rw [ControlPlane.connsOf_enter]
  split
  · next hp =>
    rw [Std.TreeSet.mem_insert, Std.compare_eq_iff_eq, hp, eq_comm, and_iff_left rfl]
  · next hp => rw [or_iff_right (fun h => hp h.2)]

theorem ControlPlane.Listed.enter (h : t.Listed) {id : Nat} {s : WsSession}
    (hid : ∀ path, id ∉ t.connsOf path) (hphase : s.phase ≠ .evicting) :
    (t.enter id s).Listed where
  limit := h.limit
  listed path i hi := by
    rw [ControlPlane.mem_enter] at hi
    rcases hi with ⟨rfl, hpath⟩ | hi
    · exact ⟨s, Function.update_self .., hpath, hphase⟩
    · obtain ⟨s₀, hs₀, hp₀, he₀⟩ := h.listed path i hi
      have hne : i ≠ id := fun he => hid path (he ▸ hi)
      exact ⟨s₀, (Function.update_of_ne hne ..).trans hs₀, hp₀, he₀⟩

theorem ControlPlane.Sound.enter_iff (h : t.Sound) {id : Nat} {s : WsSession}
    (hid : ∀ path, id ∉ t.connsOf path) (hphase : s.phase ≠ .ended) :
    (t.enter id s).Sound ↔ ((t.connsOf s.path).size : Int) < t.maxConnsPerDevice := by
  have hsize : ((t.connsOf s.path).insert id).size = (t.connsOf s.path).size + 1 :=
    Std.TreeSet.size_insert.trans (if_neg (hid s.path))
  constructor
  · intro hs
    have hbound := hs.bounded s.path
    rw [ControlPlane.connsOf_enter, if_pos rfl, hsize] at hbound
    change _ ≤ t.maxConnsPerDevice at hbound
    omega
  · intro hroom
    constructor
    · intro path
      rw [ControlPlane.connsOf_enter]
      change _ ≤ t.maxConnsPerDevice
      split
      · rw [hsize]
        omega
      · exact h.bounded path
    · intro path i hi
      rw [ControlPlane.enter, ControlPlane.hasEnded_at]
      split
      · exact hphase
      · next hne =>
        rw [ControlPlane.mem_enter] at hi
        exact h.live path i (hi.resolve_left (fun he => hne he.1))

theorem ControlPlane.Listed.leave {t' : ControlPlane} (h : t.Listed) {id : Nat} {s : WsSession}
    (hmax : t'.maxConnsPerDevice = t.maxConnsPerDevice)
    (hsessions : t'.sessions = Function.update t.sessions id (some s))
    (hsub : ∀ path i, i ∈ t'.connsOf path → i ∈ t.connsOf path ∧ i ≠ id) : t'.Listed where
  limit := Int.le_trans h.limit (Int.le_of_eq hmax.symm)
  listed path i hi := by
    obtain ⟨hmem, hne⟩ := hsub path i hi
    obtain ⟨s₀, hs₀, hp₀, he₀⟩ := h.listed path i hmem
    refine ⟨s₀, ?_, hp₀, he₀⟩
    rw [hsessions, Function.update_of_ne hne, hs₀]

theorem ControlPlane.Sound.leave {t' : ControlPlane} (h : t.Sound) {id : Nat} {s : WsSession}
    (hmax : t'.maxConnsPerDevice = t.maxConnsPerDevice)
    (hsessions : t'.sessions = Function.update t.sessions id (some s))
    (hsize : ∀ path, (t'.connsOf path).size ≤ (t.connsOf path).size)
    (hsub : ∀ path i, i ∈ t'.connsOf path → i ∈ t.connsOf path ∧ i ≠ id) : t'.Sound := by
  refine h.shrink hmax hsize ?_
  intro path i hi
  obtain ⟨hmem, hne⟩ := hsub path i hi
  refine ⟨hmem, ?_⟩
  rw [ControlPlane.HasEnded, hsessions, Function.update_of_ne hne]
  exact fun hp => hp

end Entries

section Steps
variable {t : ControlPlane} {uuid : String → Option Uuid}

theorem ControlPlane.arrive_cases (uuid : String → Option Uuid) (id : Nat) (path : String)
    (userId : Uuid) (oldest : Nat) :
    t.step uuid (.arrive id path userId oldest) = t ∨
    t.sessions id = none ∧ ∃ deviceId, uuid path = some deviceId ∧
      ((((t.connsOf path).size : Int) < t.maxConnsPerDevice ∧
        t.step uuid (.arrive id path userId oldest) =
          t.enter id ⟨path, deviceId, userId, .tracked⟩) ∨
      (¬ ((t.connsOf path).size : Int) < t.maxConnsPerDevice ∧ (t.connsOf path).isEmpty = true) ∨
      (¬ ((t.connsOf path).size : Int) < t.maxConnsPerDevice ∧
        t.step uuid (.arrive id path userId oldest) =
          (t.setConns path ((t.connsOf path).erase oldest)).at id
            ⟨path, deviceId, userId, .evicting⟩)) := by
  rw [ControlPlane.step]
  split
  · next deviceId hid hpath =>
    rw [ControlPlane.limit]
    split
    · next hroom => exact .inr ⟨hid, deviceId, hpath, .inl ⟨hroom, rfl⟩⟩
    · next hfull =>
      split
      · next hempty => exact .inr ⟨hid, deviceId, hpath, .inr (.inl ⟨hfull, hempty⟩)⟩
      · split
        · exact .inr ⟨hid, deviceId, hpath, .inr (.inr ⟨hfull, rfl⟩)⟩
        · exact .inl rfl
  · exact .inl rfl

theorem ControlPlane.Listed.not_empty_full (h : t.Listed) {path : String}
    (hfull : ¬ ((t.connsOf path).size : Int) < t.maxConnsPerDevice) :
    (t.connsOf path).isEmpty = false := by
  have hlimit := h.limit
  rw [Std.TreeSet.isEmpty_eq_size_eq_zero, beq_eq_false_iff_ne]
  omega

theorem ControlPlane.mem_evicted {path : String} {oldest i : Nat} {p : String}
    (hi : i ∈ (t.setConns path ((t.connsOf path).erase oldest)).connsOf p) :
    i ∈ t.connsOf p := by
  rw [ControlPlane.connsOf_setConns] at hi
  split at hi
  · next hp =>
    rw [← hp]
    exact (Std.TreeSet.mem_erase.mp hi).2
  · exact hi

theorem ControlPlane.size_evicted (path : String) (oldest : Nat) (p : String) :
    ((t.setConns path ((t.connsOf path).erase oldest)).connsOf p).size ≤ (t.connsOf p).size := by
  rw [ControlPlane.connsOf_setConns]
  split
  · next hp =>
    rw [← hp]
    exact Std.TreeSet.size_erase_le
  · exact Nat.le_refl _

theorem ControlPlane.Listed.not_mem_new (h : t.Listed) {id : Nat} (hid : t.sessions id = none)
    (path : String) : id ∉ t.connsOf path := by
  apply h.not_mem
  intro s hs
  rw [hid] at hs
  cases hs

theorem ControlPlane.Listed.mem_evicted_of_new (h : t.Listed) {id : Nat}
    (hid : t.sessions id = none) (path : String) (oldest : Nat) (p : String) (i : Nat)
    (hi : i ∈ (t.setConns path ((t.connsOf path).erase oldest)).connsOf p) :
    i ∈ t.connsOf p ∧ i ≠ id := by
  have hmem := ControlPlane.mem_evicted hi
  refine ⟨hmem, ?_⟩
  rintro rfl
  exact h.not_mem_new hid p hmem

theorem ControlPlane.Listed.arrive (h : t.Listed) (id : Nat) (path : String) (userId : Uuid)
    (oldest : Nat) : (t.step uuid (.arrive id path userId oldest)).Listed := by
  rcases t.arrive_cases uuid id path userId oldest with
    he | ⟨hid, deviceId, -, ⟨-, he⟩ | ⟨hfull, hempty⟩ | ⟨-, he⟩⟩
  · rw [he]
    exact h
  · rw [he]
    exact h.enter (h.not_mem_new hid) (by rintro ⟨⟩)
  · rw [h.not_empty_full hfull] at hempty
    cases hempty
  · rw [he]
    exact h.leave rfl rfl (h.mem_evicted_of_new hid path oldest)

theorem ControlPlane.Sound.arrive (hl : t.Listed) (h : t.Sound) (id : Nat) (path : String)
    (userId : Uuid) (oldest : Nat) : (t.step uuid (.arrive id path userId oldest)).Sound := by
  rcases t.arrive_cases uuid id path userId oldest with
    he | ⟨hid, deviceId, -, ⟨hroom, he⟩ | ⟨hfull, hempty⟩ | ⟨-, he⟩⟩
  · rw [he]
    exact h
  · rw [he]
    exact (h.enter_iff (hl.not_mem_new hid) (by rintro ⟨⟩)).mpr hroom
  · rw [hl.not_empty_full hfull] at hempty
    cases hempty
  · rw [he]
    exact h.leave rfl rfl (t.size_evicted path oldest) (hl.mem_evicted_of_new hid path oldest)

theorem ControlPlane.connsOf_dropped (path : String) (id : Nat) (s : WsSession) (p : String) :
    (({ t with activeDeviceConnections := t.activeDeviceConnections.erase path } :
      ControlPlane).at id s).connsOf p = if path = p then ∅ else t.connsOf p := by
  rw [ControlPlane.connsOf, ControlPlane.at, getElem?_erase_eq]
  split
  · rfl
  · rfl

theorem ControlPlane.connsOf_untrack (id : Nat) (s : WsSession) (p : String) :
    ((t.untrack id s).connsOf p).size ≤ (t.connsOf p).size ∧
      ∀ i, i ∈ (t.untrack id s).connsOf p → i ∈ t.connsOf p ∧ (i = id → s.path ≠ p) := by
  rw [ControlPlane.untrack]
  split
  · next hnone =>
    refine ⟨Nat.le_refl _, fun i hi => ⟨hi, ?_⟩⟩
    rintro - rfl
    change i ∈ t.connsOf s.path at hi
    rw [ControlPlane.connsOf, hnone] at hi
    exact Std.TreeSet.not_mem_emptyc hi
  · next conns hsome =>
    have hconns := ControlPlane.connsOf_of_some hsome
    split
    · rw [ControlPlane.connsOf_dropped]
      split
      · exact ⟨Nat.zero_le _, fun i hi => (Std.TreeSet.not_mem_emptyc hi).elim⟩
      · next hne => exact ⟨Nat.le_refl _, fun i hi => ⟨hi, fun _ => hne⟩⟩
    · change ((t.setConns s.path (conns.erase id)).connsOf p).size ≤ _ ∧
        ∀ i, i ∈ (t.setConns s.path (conns.erase id)).connsOf p → _
      rw [ControlPlane.connsOf_setConns]
      split
      · next hp =>
        rw [← hp, hconns]
        refine ⟨Std.TreeSet.size_erase_le, fun i hi => ?_⟩
        obtain ⟨hne, hmem⟩ := Std.TreeSet.mem_erase.mp hi
        refine ⟨hmem, fun hii => (hne ?_).elim⟩
        rw [hii, Std.compare_eq_iff_eq]
      · next hne => exact ⟨Nat.le_refl _, fun i hi => ⟨hi, fun _ => hne⟩⟩

theorem ControlPlane.untrack_eq (id : Nat) (s : WsSession) :
    (t.untrack id s).maxConnsPerDevice = t.maxConnsPerDevice ∧
      (t.untrack id s).sessions =
        Function.update t.sessions id (some { s with phase := .ended }) := by
  rw [ControlPlane.untrack]
  split
  · exact ⟨rfl, rfl⟩
  · split
    · exact ⟨rfl, rfl⟩
    · exact ⟨rfl, rfl⟩

theorem ControlPlane.Listed.mem_untrack (h : t.Listed) {id : Nat} {s : WsSession}
    (hs : t.sessions id = some s) (path : String) (i : Nat)
    (hi : i ∈ (t.untrack id s).connsOf path) : i ∈ t.connsOf path ∧ i ≠ id := by
  obtain ⟨hmem, hpath⟩ := (t.connsOf_untrack id s path).2 i hi
  refine ⟨hmem, ?_⟩
  rintro rfl
  obtain ⟨s₀, hs₀, hp₀, -⟩ := h.listed path i hmem
  rw [hs] at hs₀
  cases hs₀
  exact hpath rfl hp₀

theorem ControlPlane.Listed.untrack (h : t.Listed) {id : Nat} {s : WsSession}
    (hs : t.sessions id = some s) : (t.untrack id s).Listed :=
  h.leave (t.untrack_eq id s).1 (t.untrack_eq id s).2 (h.mem_untrack hs)

theorem ControlPlane.Sound.untrack (hl : t.Listed) (h : t.Sound) {id : Nat} {s : WsSession}
    (hs : t.sessions id = some s) : (t.untrack id s).Sound :=
  h.leave (t.untrack_eq id s).1 (t.untrack_eq id s).2 (fun p => (t.connsOf_untrack id s p).1)
    (hl.mem_untrack hs)

/-- A session may end without cleaning up only once its socket is out of its entry. -/
theorem ControlPlane.Sound.end_iff (hl : t.Listed) (h : t.Sound) {id : Nat} {s : WsSession}
    (hs : t.sessions id = some s) :
    (t.at id { s with phase := .ended }).Sound ↔ id ∉ t.connsOf s.path := by
  constructor
  · intro hsound hmem
    apply hsound.live s.path id hmem
    rw [ControlPlane.hasEnded_at, if_pos rfl]
  · intro hout
    refine h.shrink rfl (fun path => Nat.le_refl _) ?_
    intro path i hi
    refine ⟨hi, ?_⟩
    rw [ControlPlane.hasEnded_at]
    split
    · next hii =>
      obtain ⟨s₀, hs₀, hp₀, -⟩ := hl.listed path i hi
      rw [hii, hs] at hs₀
      cases hs₀
      exact (hout (hp₀ ▸ hii ▸ hi)).elim
    · exact fun hp => hp

theorem ControlPlane.track_some {id : Nat} {s : WsSession} {conns : Std.TreeSet Nat}
    (h : t.activeDeviceConnections[s.path]? = some conns) :
    t.track id s = t.enter id { s with phase := .tracked } := by
  rw [ControlPlane.track, h]
  dsimp only
  rw [← ControlPlane.connsOf_of_some h]
  rfl

theorem ControlPlane.track_none {id : Nat} {s : WsSession}
    (h : t.activeDeviceConnections[s.path]? = none) :
    t.track id s = t.at id { s with phase := .ended } := by
  rw [ControlPlane.track, h]

theorem ControlPlane.Listed.setHub (h : t.Listed) (hub : SignalingHub) :
    ({ t with hub := hub } : ControlPlane).Listed := ⟨h.limit, h.listed⟩

theorem ControlPlane.Sound.setHub (h : t.Sound) (hub : SignalingHub) :
    ({ t with hub := hub } : ControlPlane).Sound := ⟨h.bounded, h.live⟩

theorem ControlPlane.moves_cases {op : WsOp} (hop : op.Moves) : t.step uuid op = t ∨
    ∃ id s phase hub, t.sessions id = some s ∧ phase ≠ .evicting ∧ phase ≠ .ended ∧
      t.step uuid op =
        ({ t with hub := hub } : ControlPlane).at id { s with phase := phase } := by
  cases op with
  | relay id toDeviceId =>
    rw [ControlPlane.step]
    split
    · next hid =>
      split
      · exact .inl rfl
      · exact .inr ⟨id, _, .relaying toDeviceId, t.hub, hid, by rintro ⟨⟩, by rintro ⟨⟩, rfl⟩
    · exact .inl rfl
  | relayed id delivered =>
    rw [ControlPlane.step]
    split
    · next hid => exact .inr ⟨id, _, .registered, _, hid, by rintro ⟨⟩, by rintro ⟨⟩, rfl⟩
    · exact .inl rfl
  | disconnect id =>
    rw [ControlPlane.step]
    split
    · next hid => exact .inr ⟨id, _, .unregistered, _, hid, by rintro ⟨⟩, by rintro ⟨⟩, rfl⟩
    · exact .inl rfl
  | arrive _ _ _ _ | track _ | connect _ | untrack _ => exact hop.elim

theorem ControlPlane.Listed.moves (h : t.Listed) {op : WsOp} (hop : op.Moves) :
    (t.step uuid op).Listed := by
  rcases ControlPlane.moves_cases hop with he | ⟨id, s, phase, hub, hs, hphase, -, he⟩
  · rw [he]
    exact h
  · rw [he]
    exact (h.setHub hub).move hs rfl hphase

theorem ControlPlane.Sound.moves (h : t.Sound) {op : WsOp} (hop : op.Moves) :
    (t.step uuid op).Sound := by
  rcases ControlPlane.moves_cases hop with he | ⟨id, s, phase, hub, -, -, hphase, he⟩
  · rw [he]
    exact h
  · rw [he]
    exact (h.setHub hub).move id hphase

theorem ControlPlane.Listed.step (h : t.Listed) (op : WsOp) : (t.step uuid op).Listed := by
  cases op with
  | arrive id path userId oldest => exact h.arrive id path userId oldest
  | track id =>
    rw [ControlPlane.step]
    split
    · next path deviceId userId hid =>
      cases hentry : t.activeDeviceConnections[path]? with
      | none =>
        rw [ControlPlane.track_none hentry]
        exact h.move hid rfl (by rintro ⟨⟩)
      | some conns =>
        rw [ControlPlane.track_some hentry]
        refine h.enter (h.not_mem ?_) (by rintro ⟨⟩)
        intro s hs
        rw [hid] at hs
        cases hs
        rfl
    · exact h
  | connect id =>
    rw [ControlPlane.step]
    split
    · next hid =>
      rw [ControlPlane.connect]
      split
      · exact h.move hid rfl (by rintro ⟨⟩)
      · exact (h.setHub _).move hid rfl (by rintro ⟨⟩)
    · exact h
  | relay id toDeviceId => exact h.moves trivial
  | relayed id delivered => exact h.moves trivial
  | disconnect id => exact h.moves trivial
  | untrack id =>
    rw [ControlPlane.step]
    split
    · next hid => exact h.untrack hid
    · exact h

/-- A session that has made room keeps the entries sound exactly if it finds room. -/
theorem ControlPlane.Sound.track_iff (hl : t.Listed) (h : t.Sound) {id : Nat} {path : String}
    {deviceId userId : Uuid} (hid : t.sessions id = some ⟨path, deviceId, userId, .evicting⟩) :
    (t.step uuid (.track id)).Sound ∧ ¬ t.RaisesKeyError uuid (.track id) ↔ t.HasRoom path := by
  have hout : ∀ p, id ∉ t.connsOf p := by
    apply hl.not_mem
    intro s hs
    rw [hid] at hs
    cases hs
    rfl
  rw [ControlPlane.step, hid]
  dsimp only
  cases hentry : t.activeDeviceConnections[path]? with
  | none =>
    apply iff_of_false
    · rintro ⟨-, hraise⟩
      exact hraise ⟨path, deviceId, userId, hid, hentry⟩
    · rintro ⟨conns, hsome, -⟩
      rw [hentry] at hsome
      cases hsome
  | some conns =>
    have hnever : ¬ t.RaisesKeyError uuid (.track id) := by
      rintro ⟨path', _, _, hid', hnone⟩
      rw [hid] at hid'
      cases hid'
      rw [hentry] at hnone
      cases hnone
    rw [and_iff_left hnever, ControlPlane.track_some hentry, h.enter_iff hout (by rintro ⟨⟩),
      ControlPlane.connsOf_of_some hentry, ControlPlane.HasRoom, hentry]
    simp only [Option.some.injEq, exists_eq_left']

theorem ControlPlane.Sound.connect_iff (hl : t.Listed) (h : t.Sound) {id : Nat} {path : String}
    {deviceId userId : Uuid} (hid : t.sessions id = some ⟨path, deviceId, userId, .tracked⟩) :
    (t.step uuid (.connect id)).Sound ↔
      (id ∈ t.connsOf path → ∃ hub, t.hub.connect deviceId userId id = .ok hub) := by
  rw [ControlPlane.step, hid]
  dsimp only
  rw [ControlPlane.connect]
  dsimp only
  cases hc : t.hub.connect deviceId userId id with
  | error e =>
    refine (h.end_iff hl hid).trans ⟨fun hout hmem => (hout hmem).elim, fun himp hmem => ?_⟩
    obtain ⟨hub, hok⟩ := himp hmem
    cases hok
  | ok hub =>
    apply iff_of_true
    · exact (h.setHub hub).move id (by rintro ⟨⟩)
    · exact fun _ => ⟨hub, rfl⟩

theorem ControlPlane.Sound.step (hl : t.Listed) (h : t.Sound) {op : WsOp}
    (htrack : ∀ id, op ≠ .track id) (hconnect : ∀ id, op ≠ .connect id) :
    (t.step uuid op).Sound := by
  cases op with
  | arrive id path userId oldest => exact h.arrive hl id path userId oldest
  | track id => exact (htrack id rfl).elim
  | connect id => exact (hconnect id rfl).elim
  | relay id toDeviceId => exact h.moves trivial
  | relayed id delivered => exact h.moves trivial
  | disconnect id => exact h.moves trivial
  | untrack id =>
    rw [ControlPlane.step]
    split
    · next hid => exact h.untrack hl hid
    · exact h

theorem ControlPlane.Listed.not_raises (h : t.Listed) {op : WsOp}
    (htrack : ∀ id, op ≠ .track id) : ¬ t.RaisesKeyError uuid op := by
  cases op with
  | arrive id path userId oldest =>
    rintro ⟨-, -, hfull, hempty⟩
    rw [h.not_empty_full hfull] at hempty
    cases hempty
  | track id => exact (htrack id rfl).elim
  | _ => exact fun hf => hf

end Steps

section Runs
variable {uuid : String → Option Uuid} {s : DeviceSessions}

theorem DeviceSessions.evictsFirst_of_not_arrive {op : WsOp}
    (h : ∀ id path userId oldest, op ≠ .arrive id path userId oldest) :
    s.EvictsFirst uuid op := by
  intro conns id hevicts
  cases op with
  | arrive id path userId oldest => exact (h id path userId oldest rfl).elim
  | _ => cases hevicts

theorem DeviceSessions.step_iff (hl : s.plane.Listed) (h : s.plane.Sound) (op : WsOp) :
    (s.step uuid op).plane.Sound ∧ s.StepsRight uuid op ↔ s.Spares uuid op := by
  rw [DeviceSessions.step, DeviceSessions.StepsRight]
  dsimp only
  cases op with
  | arrive id path userId oldest =>
    rw [and_iff_right (h.arrive hl id path userId oldest), and_iff_right (hl.not_raises ?_)]
    · rfl
    · rintro _ ⟨⟩
  | track id =>
    rw [and_iff_left (DeviceSessions.evictsFirst_of_not_arrive (by rintro _ _ _ _ ⟨⟩)),
      DeviceSessions.Spares]
    constructor
    · intro hright path deviceId userId hid
      exact (h.track_iff hl hid).mp hright
    · intro hroom
      by_cases hid : ∃ path deviceId userId,
          s.plane.sessions id = some ⟨path, deviceId, userId, .evicting⟩
      · obtain ⟨path, deviceId, userId, hid⟩ := hid
        exact (h.track_iff hl hid).mpr (hroom path deviceId userId hid)
      · constructor
        · rw [ControlPlane.step]
          split
          · next hid' => exact (hid ⟨_, _, _, hid'⟩).elim
          · exact h
        · rintro ⟨path, deviceId, userId, hid', -⟩
          exact hid ⟨path, deviceId, userId, hid'⟩
  | connect id =>
    rw [and_iff_left ⟨hl.not_raises (by rintro _ ⟨⟩),
      DeviceSessions.evictsFirst_of_not_arrive (by rintro _ _ _ _ ⟨⟩)⟩, DeviceSessions.Spares]
    constructor
    · intro hsound path deviceId userId hid
      exact (h.connect_iff hl hid).mp hsound
    · intro haccepts
      by_cases hid : ∃ path deviceId userId,
          s.plane.sessions id = some ⟨path, deviceId, userId, .tracked⟩
      · obtain ⟨path, deviceId, userId, hid⟩ := hid
        exact (h.connect_iff hl hid).mpr (haccepts path deviceId userId hid)
      · rw [ControlPlane.step]
        split
        · next hid' => exact (hid ⟨_, _, _, hid'⟩).elim
        · exact h
  | relay _ _ | relayed _ _ | disconnect _ | untrack _ =>
    refine iff_of_true ⟨h.step hl ?_ ?_, hl.not_raises ?_, ?_⟩ trivial
    · rintro _ ⟨⟩
    · rintro _ ⟨⟩
    · rintro _ ⟨⟩
    · exact DeviceSessions.evictsFirst_of_not_arrive (by rintro _ _ _ _ ⟨⟩)

end Runs

/-- Through a run the entries stay within the limit and free of ended sessions, and every step
makes room by the oldest socket and without an error, exactly where every step is spared. -/
theorem device_connections_iff {maxConnsPerDevice : Int} (hmax : 1 ≤ maxConnsPerDevice)
    (uuid : String → Option Uuid) (maxConnections : Nat) (ops : List WsOp) :
    (∀ ops', ops' <+: ops →
      ((DeviceSessions.new maxConnections maxConnsPerDevice).run uuid ops').plane.Sound) ∧
      Guarded (DeviceSessions.step uuid) (DeviceSessions.StepsRight uuid)
        (.new maxConnections maxConnsPerDevice) ops ↔
    Guarded (DeviceSessions.step uuid) (DeviceSessions.Spares uuid)
      (.new maxConnections maxConnsPerDevice) ops := by
  have hempty : ∀ path, (DeviceSessions.new maxConnections maxConnsPerDevice).plane.connsOf path =
      ∅ := by
    intro path
    rw [ControlPlane.connsOf, DeviceSessions.new, ControlPlane.new, Std.TreeMap.getElem?_emptyc]
    rfl
  refine forall_prefix_and_guarded_iff_of (W := fun s : DeviceSessions => s.plane.Listed)
    (J := fun s : DeviceSessions => s.plane.Sound) ⟨hmax, ?_⟩ (fun s op hl => hl.step op) ⟨?_, ?_⟩
    (fun s op hl h => DeviceSessions.step_iff hl h op) ops
  · intro path id hid
    rw [hempty] at hid
    exact (Std.TreeSet.not_mem_emptyc hid).elim
  · intro path
    rw [hempty]
    exact Int.le_trans (by decide) hmax
  · intro path id hid
    rw [hempty] at hid
    exact (Std.TreeSet.not_mem_emptyc hid).elim

section Examples

/-- Any path names the device 1. -/
def oneDevice : String → Option Uuid := fun _ => some 1

/-- A session opens and registers. -/
def opened (id oldest : Nat) : List WsOp := [.arrive id "d" 7 oldest, .connect id]

/-- Two sessions, and a third one for which the first has to go. -/
def thirdOpened : List WsOp :=
  opened 0 0 ++ opened 1 0 ++ [.arrive 2 "d" 7 0, .disconnect 0, .untrack 0, .track 2, .connect 2]

/-- While one session waits for the close that makes room, another one takes it. -/
def roomTaken : List WsOp :=
  opened 0 0 ++ [.arrive 1 "d" 7 0, .arrive 2 "d" 7 0, .track 1]

/-- The session that makes room is the last one of the entry, which its cleanup deletes. -/
def entryGone : List WsOp :=
  opened 0 0 ++ [.arrive 1 "d" 7 0, .disconnect 0, .untrack 0]

end Examples

theorem device_connections_iff_third :
    (∀ ops', ops' <+: thirdOpened →
      ((DeviceSessions.new 10000 2).run oneDevice ops').plane.Sound) ∧
      Guarded (DeviceSessions.step oneDevice) (DeviceSessions.StepsRight oneDevice)
        (.new 10000 2) thirdOpened :=
  (device_connections_iff (by decide) oneDevice 10000 thirdOpened).mpr (by decide +kernel)

/-- An entry has two sockets with a limit of one; a session that a full hub refuses ends with its
socket in the entry; the second of two sockets is given up before the first; and a session that
has made room finds no entry. -/
theorem device_connections_leak :
    ¬ ((DeviceSessions.new 10000 1).run oneDevice roomTaken).plane.Sound ∧
    ¬ ((DeviceSessions.new 0 3).run oneDevice (opened 0 0)).plane.Sound ∧
    ¬ ((DeviceSessions.new 10000 2).run oneDevice (opened 0 0 ++ opened 1 0)).EvictsFirst oneDevice
      (.arrive 2 "d" 7 1) ∧
    ((DeviceSessions.new 10000 1).run oneDevice entryGone).plane.RaisesKeyError oneDevice
      (.track 1) := by
  refine ⟨?_, ?_, ?_, ?_⟩
  · intro h
    exact absurd (h.bounded "d") (by decide +kernel)
  · intro h
    exact h.live "d" 0 (by decide +kernel) ⟨⟨"d", 1, 7, .ended⟩, by decide +kernel, rfl⟩
  · decide +kernel
  · exact ⟨"d", 1, 7, by decide +kernel, by decide +kernel⟩

end P2PMesh.Signaling
