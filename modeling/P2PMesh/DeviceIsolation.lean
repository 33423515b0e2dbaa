import P2PMesh.Devices

namespace P2PMesh.Devices
open P2PMesh.Base
set_option autoImplicit true

/-- The row as its owner sees it. -/
def ownRow (v : Uuid) (row : Option Device) : Option Device :=
  row.filter (fun device => device.userId = v)

/-- What is stored under an id belongs to the user, or nothing is. -/
def OwnOrAbsent (v : Uuid) (db : Rows) (id : Uuid) : Prop :=
  ∀ device, db[id]? = some device → device.userId = v

/-- What a session has loaded is its user's, and so is what is stored under these ids. -/
structure Session.Sound (db : Rows) (s : Session) : Prop where
  loaded : ∀ id device, s.loaded.lookup id = some device →
    device.userId = s.userId ∧ OwnOrAbsent s.userId db id
  owned : ∀ device id data, s.phase = .owned device → s.request = .heartbeat (some id) data →
    s.loaded.lookup id = some device
  found : ∀ device, s.phase = .found device →
    (∀ id data, s.request = .heartbeat (some id) data → s.loaded.lookup id = some device) ∧
      ∀ id, s.request = .deleteDevice (some id) → s.loaded.lookup id = some device

structure DeviceTable.Sound (users : Nat → Uuid) (t : DeviceTable) : Prop where
  user : ∀ (n : Nat) s, t.sessions[n]? = some s → s.userId = users n
  session : ∀ (n : Nat) s, t.sessions[n]? = some s → s.Sound t.committed

/-- A request does not register a key that somebody else's device has, and does not ask for a path
of somebody else's device. -/
def Session.Discreet (db : Rows) (s : Session) : Prop :=
  match s.request with
  | .registerDevice data => s.phase = .authenticated →
    ∀ (id : Uuid) device, db[id]? = some device → device.publicKey = data.publicKey →
      device.userId = s.userId
  | .findPath deviceA deviceB => ∀ id, deviceA = some id ∨ deviceB = some id →
    OwnOrAbsent s.userId db id
  | _ => True

/-- The id that is drawn is in use nowhere. -/
def DeviceTable.Fresh (t : DeviceTable) (id : Uuid) : Prop :=
  t.committed[id]? = none ∧ ∀ (n : Nat) s, t.sessions[n]? = some s → s.loaded.lookup id = none

def DeviceTable.Discreet (t : DeviceTable) : DeviceOp → Prop
  | .authenticate _ _ _ => True
  | .next n draw => t.Fresh draw.id ∧
    ∀ s, t.sessions[n]? = some s → Session.Discreet t.committed s

/-- What concerns a user: its rows and the requests that it has under way. -/
structure UserView where
  rows : Uuid → Option Device
  sessions : Nat → Option Session

def DeviceTable.seenBy (users : Nat → Uuid) (v : Uuid) (t : DeviceTable) : UserView where
  rows id := ownRow v t.committed[id]?
  sessions n := if users n = v then t.sessions[n]? else none

section Decisions
variable {db : Rows} {s : Session}

instance (v : Uuid) (db : Rows) (id : Uuid) : Decidable (OwnOrAbsent v db id) :=
  inferInstanceAs (Decidable (∀ device ∈ db[id]?, device.userId = v))

theorem Session.discreet_registerDevice_iff {data : DeviceRegister}
    (hreq : s.request = .registerDevice data) :
    (s.phase = .authenticated → ∀ e ∈ db.toList, e.2.publicKey = data.publicKey →
      e.2.userId = s.userId) ↔ s.Discreet db := by
  rw [Session.Discreet, hreq]
  exact imp_congr_right (fun _ => forall_mem_toList_iff
    (p := fun _ (device : Device) => device.publicKey = data.publicKey →
      device.userId = s.userId))

theorem Session.discreet_findPath_iff {deviceA deviceB : Option Uuid}
    (hreq : s.request = .findPath deviceA deviceB) :
    (∀ id ∈ deviceA.toList ++ deviceB.toList, OwnOrAbsent s.userId db id) ↔ s.Discreet db := by
  rw [Session.Discreet, hreq]
  simp only [List.mem_append, Option.mem_toList]

instance (db : Rows) (s : Session) : Decidable (s.Discreet db) :=
  match hreq : s.request with
  | .registerDevice _ => decidable_of_iff _ (Session.discreet_registerDevice_iff hreq)
  | .findPath _ _ => decidable_of_iff _ (Session.discreet_findPath_iff hreq)
  | .listDevices => .isTrue (by rw [Session.Discreet, hreq]; trivial)
  | .getDevice _ => .isTrue (by rw [Session.Discreet, hreq]; trivial)
  | .heartbeat _ _ => .isTrue (by rw [Session.Discreet, hreq]; trivial)
  | .deleteDevice _ => .isTrue (by rw [Session.Discreet, hreq]; trivial)

instance (t : DeviceTable) (id : Uuid) : Decidable (t.Fresh id) :=
  decidable_of_iff (t.committed[id]? = none ∧
      ∀ e ∈ t.sessions.toList, e.2.loaded.lookup id = none)
    (and_congr_right (fun _ => forall_mem_toList_iff
      (p := fun _ (s : Session) => s.loaded.lookup id = none)))

instance (t : DeviceTable) : ∀ op, Decidable (t.Discreet op)
  | .authenticate _ _ _ => .isTrue trivial
  | .next n draw => inferInstanceAs (Decidable (t.Fresh draw.id ∧
      ∀ s ∈ t.sessions[n]?, Session.Discreet t.committed s))

end Decisions

section Rows
variable {v : Uuid} {db db' : Rows} {id : Uuid} {device : Device}

theorem ownRow_some (v : Uuid) (device : Device) :
    ownRow v (some device) = if device.userId = v then some device else none := by
  rw [ownRow, Option.filter_some]
  simp only [decide_eq_true_eq]

theorem OwnOrAbsent.ownRow (h : OwnOrAbsent v db id) : ownRow v db[id]? = db[id]? := by
  cases hrow : db[id]? with
  | none => rfl
  | some device => rw [ownRow_some, if_pos (h device hrow)]

theorem OwnOrAbsent.congr (h : OwnOrAbsent v db id) (h' : OwnOrAbsent v db' id)
    (hrows : Devices.ownRow v db[id]? = Devices.ownRow v db'[id]?) : db[id]? = db'[id]? := by
  rw [← h.ownRow, ← h'.ownRow, hrows]

theorem ownedBy_congr (hrows : ∀ id : Uuid, ownRow v db[id]? = ownRow v db'[id]?) :
    db.ownedBy v = db'.ownedBy v :=
  toList_filter_congr (p := fun _ (device : Device) => decide (device.userId = v)) hrows

theorem mem_ownedBy {e : Uuid × Device} :
    e ∈ db.ownedBy v ↔ db[e.1]? = some e.2 ∧ e.2.userId = v := by
  rw [Rows.ownedBy, List.mem_filter, Std.TreeMap.mem_toList_iff_getElem?_eq_some,
    decide_eq_true_eq]

theorem withKey_eq_of_own {publicKey : String}
    (h : ∀ (id : Uuid) device, db[id]? = some device → device.publicKey = publicKey →
      device.userId = v) :
    db.withKey publicKey = (db.ownedBy v).filter (fun e => e.2.publicKey = publicKey) := by
  rw [Rows.ownedBy, List.filter_filter, Rows.withKey]
  apply List.filter_congr
  intro e he
  rw [Std.TreeMap.mem_toList_iff_getElem?_eq_some] at he
  by_cases hkey : e.2.publicKey = publicKey
  · rw [decide_eq_true hkey, decide_eq_true (h e.1 e.2 he hkey)]
    rfl
  · rw [decide_eq_false hkey]
    rfl

end Rows

section Congruence
variable {db db' : Rows} {s : Session} {fits : Device → Bool} {draw : Draw} {id : Uuid}

theorem Session.Sound.ownRow_fetch (h : s.Sound db) (id : Uuid) :
    ownRow s.userId (s.fetch db id) =
      (ownRow s.userId db[id]?).map (fun row => (s.loaded.lookup id).getD row) := by
  rw [Session.fetch]
  cases hrow : db[id]? with
  | none => rfl
  | some row =>
    rw [Option.map_some, ownRow_some, ownRow_some]
    cases hloaded : s.loaded.lookup id with
    | none =>
      rw [Option.getD_none, apply_ite (Option.map _)]
      rfl
    | some device =>
      obtain ⟨hdevice, hown⟩ := h.loaded id device hloaded
      rw [Option.getD_some, if_pos hdevice, if_pos (hown row hrow)]
      rfl

theorem Session.select_eq (s : Session) (db : Rows) (id : Uuid) (refusal : Response)
    (next : Device → Phase) : s.select db id refusal next =
      match ownRow s.userId (s.fetch db id) with
      | none => .respond refusal
      | some device => .proceed (s.load id device (next device)) := by
  rw [Session.select]
  cases s.fetch db id with
  | none => rfl
  | some device =>
    dsimp only
    rw [ownRow_some]
    by_cases hown : device.userId = s.userId
    · rw [if_pos hown, if_pos hown]
    · rw [if_neg hown, if_neg hown]

variable (h : s.Sound db) (h' : s.Sound db')
  (hrows : ∀ id : Uuid, ownRow s.userId db[id]? = ownRow s.userId db'[id]?)
include h h' hrows

theorem Session.select_congr (id : Uuid) (refusal : Response) (next : Device → Phase) :
    s.select db id refusal next = s.select db' id refusal next := by
  rw [Session.select_eq, Session.select_eq, h.ownRow_fetch, h'.ownRow_fetch, hrows]

theorem Session.get_congr (deviceId : Option Uuid) : s.get db deviceId = s.get db' deviceId := by
  cases deviceId with
  | none => rfl
  | some id =>
    have hget : ∀ db, s.get db (some id) =
        match ownRow s.userId (s.fetch db id) with
        | none => .respond notFound
        | some device => .respond ⟨200, .device id device⟩ := by
      intro db
      rw [Session.get]
      cases s.fetch db id with
      | none => rfl
      | some device =>
        dsimp only
        rw [ownRow_some]
        by_cases hown : device.userId = s.userId
        · rw [if_pos hown, if_pos hown]
        · rw [if_neg hown, if_neg hown]
    rw [hget, hget, h.ownRow_fetch, h'.ownRow_fetch, hrows]

theorem Session.row_congr {device : Device} (hloaded : s.loaded.lookup id = some device) :
    db[id]? = db'[id]? :=
  (h.loaded id device hloaded).2.congr (h'.loaded id device hloaded).2 (hrows id)

theorem Session.beat_congr {deviceId : Option Uuid} {data : DeviceHeartbeat}
    (hreq : s.request = .heartbeat deviceId data) :
    s.beat db fits draw deviceId data = s.beat db' fits draw deviceId data := by
  cases deviceId with
  | none => rfl
  | some id =>
    rw [Session.beat, Session.beat]
    cases hphase : s.phase with
    | owned device =>
      dsimp only
      rw [Session.row_congr h h' hrows (h.owned device id data hphase hreq)]
    | found device =>
      dsimp only
      rw [Session.row_congr h h' hrows ((h.found device hphase).1 id data hreq)]
    | _ => exact Session.select_congr h h' hrows id notFound .owned

theorem Session.delete_congr {deviceId : Option Uuid}
    (hreq : s.request = .deleteDevice deviceId) :
    s.delete db draw deviceId = s.delete db' draw deviceId := by
  cases deviceId with
  | none => rfl
  | some id =>
    rw [Session.delete, Session.delete]
    cases hphase : s.phase with
    | found device =>
      dsimp only
      rw [Session.row_congr h h' hrows ((h.found device hphase).2 id hreq)]
    | _ => exact Session.select_congr h h' hrows id notOwned .found

/-- How a discreet request goes on depends on the rows of its user alone, but for the id that is
drawn. -/
theorem Session.advance_congr (hdiscreet : s.Discreet db) (hdiscreet' : s.Discreet db')
    (hfresh : db[draw.id]? = none) (hfresh' : db'[draw.id]? = none) :
    s.advance db fits draw = s.advance db' fits draw := by
  rw [Session.Discreet] at hdiscreet hdiscreet'
  rw [Session.advance, Session.advance]
  cases hreq : s.request with
  | registerDevice data =>
    rw [hreq] at hdiscreet hdiscreet'
    dsimp only at hdiscreet hdiscreet' ⊢
    rw [Session.register, Session.register]
    cases hphase : s.phase with
    | authenticated =>
      dsimp only
      rw [withKey_eq_of_own (hdiscreet hphase), withKey_eq_of_own (hdiscreet' hphase),
        ownedBy_congr hrows]
    | _ =>
      dsimp only
      rw [hfresh, hfresh']
  | listDevices =>
    dsimp only
    rw [Session.list, Session.list, ownedBy_congr hrows]
  | getDevice deviceId => exact Session.get_congr h h' hrows deviceId
  | heartbeat deviceId data => exact Session.beat_congr h h' hrows hreq
  | deleteDevice deviceId => exact Session.delete_congr h h' hrows hreq
  | findPath deviceA deviceB =>
    rw [hreq] at hdiscreet hdiscreet'
    have hfetch : ∀ id, deviceA = some id ∨ deviceB = some id → s.fetch db id = s.fetch db' id := by
      intro id hid
      rw [Session.fetch, Session.fetch,
        (hdiscreet id hid).congr (hdiscreet' id hid) (hrows id)]
    dsimp only
    unfold Session.findPath
    cases deviceA with
    | none => rfl
    | some a =>
      cases s.phase with
      | first device =>
        dsimp only
        cases deviceB with
        | none => rfl
        | some b =>
          dsimp only
          rw [hfetch b (.inr rfl)]
      | _ =>
        dsimp only
        rw [hfetch a (.inl rfl)]

end Congruence

/-- A write is of a row of the user, or of an id that has been drawn for it. -/
structure Write.Of (userId fresh : Uuid) (db : Rows) (write : Write) : Prop where
  own : OwnOrAbsent userId db write.id
  row : ∀ device, write.row = some device → device.userId = userId
  drawn : ∀ device, write.row = some device → db[write.id]? = none → write.id = fresh

section Soundness
variable {db : Rows} {s s' : Session} {fits : Device → Bool} {draw : Draw} {id : Uuid}
  {device : Device} {phase : Phase} {write : Write} {r : Response}

theorem Session.Sound.loaded_load (h : s.Sound db) (hfetch : s.fetch db id = some device)
    (hown : device.userId = s.userId) {id' : Uuid} {device' : Device}
    (hloaded : (s.load id device phase).loaded.lookup id' = some device') :
    device'.userId = s.userId ∧ OwnOrAbsent s.userId db id' := by
  obtain ⟨row, hrow, hdevice⟩ := Option.map_eq_some_iff.mp hfetch
  rw [Session.load, List.lookup_cons] at hloaded
  by_cases hid : id' = id
  · rw [beq_iff_eq.mpr hid] at hloaded
    cases hloaded
    rw [hid]
    refine ⟨hown, ?_⟩
    intro row' hrow'
    rw [hrow, Option.some.injEq] at hrow'
    subst hrow'
    cases hbefore : s.loaded.lookup id with
    | none =>
      rw [hbefore, Option.getD_none] at hdevice
      rw [hdevice, hown]
    | some device' => exact (h.loaded id device' hbefore).2 row hrow
  · rw [beq_eq_false_iff_ne.mpr hid] at hloaded
    exact h.loaded id' device' hloaded

theorem Session.Sound.select (h : s.Sound db) {refusal : Response} {next : Device → Phase}
    (hsel : s.select db id refusal next = .proceed s') :
    ∃ device, s' = s.load id device (next device) ∧ s'.loaded.lookup id = some device ∧
      ∀ id' device', s'.loaded.lookup id' = some device' →
        device'.userId = s.userId ∧ OwnOrAbsent s.userId db id' := by
  rw [Session.select] at hsel
  cases hfetch : s.fetch db id with
  | none =>
    rw [hfetch] at hsel
    cases hsel
  | some device =>
    rw [hfetch] at hsel
    dsimp only at hsel
    split at hsel
    next hown =>
      cases hsel
      exact ⟨device, rfl, List.lookup_cons_self, fun _ _ => h.loaded_load hfetch hown⟩
    next => cases hsel

theorem Session.Sound.beat (h : s.Sound db) {deviceId : Option Uuid} {data : DeviceHeartbeat}
    (hreq : s.request = .heartbeat deviceId data)
    (hbeat : s.beat db fits draw deviceId data = .proceed s') :
    s'.Sound db ∧ s'.userId = s.userId := by
  cases deviceId with
  | none => cases hbeat
  | some id =>
    have hselected : s.select db id notFound .owned = .proceed s' →
        s'.Sound db ∧ s'.userId = s.userId := by
      intro hsel
      obtain ⟨device, rfl, hself, hloaded⟩ := h.select hsel
      refine ⟨⟨hloaded, ?_, ?_⟩, rfl⟩
      · intro device' id' data' hphase hreq'
        cases hphase
        cases hreq.symm.trans hreq'
        exact hself
      · intro device' hphase
        cases hphase
    rw [Session.beat] at hbeat
    cases hphase : s.phase with
    | owned device =>
      rw [hphase] at hbeat
      dsimp only at hbeat
      split at hbeat
      next =>
        cases hbeat
        have hself := h.owned device id data hphase hreq
        refine ⟨⟨h.loaded, ?_, ?_⟩, rfl⟩
        · intro device' id' data' hphase'
          cases hphase'
        · intro device' hphase'
          cases hphase'
          constructor
          · intro id' data' hreq'
            cases hreq.symm.trans hreq'
            exact hself
          · intro id' hreq'
            cases hreq.symm.trans hreq'
      next => cases hbeat
    | found device =>
      rw [hphase] at hbeat
      dsimp only at hbeat
      split at hbeat
      next => cases hbeat
      next =>
        split at hbeat
        next => cases hbeat
        next => cases hbeat
    | _ =>
      rw [hphase] at hbeat
      exact hselected hbeat

theorem Session.Sound.delete (h : s.Sound db) {deviceId : Option Uuid}
    (hreq : s.request = .deleteDevice deviceId)
    (hdelete : s.delete db draw deviceId = .proceed s') : s'.Sound db ∧ s'.userId = s.userId := by
  cases deviceId with
  | none => cases hdelete
  | some id =>
    have hselected : s.select db id notOwned .found = .proceed s' →
        s'.Sound db ∧ s'.userId = s.userId := by
      intro hsel
      obtain ⟨device, rfl, hself, hloaded⟩ := h.select hsel
      refine ⟨⟨hloaded, ?_, ?_⟩, rfl⟩
      · intro device' id' data' hphase
        cases hphase
      · intro device' hphase
        cases hphase
        constructor
        · intro id' data' hreq'
          cases hreq.symm.trans hreq'
        · intro id' hreq'
          cases hreq.symm.trans hreq'
          exact hself
    rw [Session.delete] at hdelete
    cases hphase : s.phase with
    | found device =>
      rw [hphase] at hdelete
      dsimp only at hdelete
      split at hdelete
      next => cases hdelete
      next => cases hdelete
    | _ =>
      rw [hphase] at hdelete
      exact hselected hdelete

theorem Session.Sound.of_loaded (hloaded : ∀ id device, s.loaded.lookup id = some device →
      device.userId = s.userId ∧ OwnOrAbsent s.userId db id)
    (howned : ∀ device, s.phase ≠ .owned device) (hfound : ∀ device, s.phase ≠ .found device) :
    s.Sound db where
  loaded := hloaded
  owned device _ _ hphase := (howned device hphase).elim
  found device hphase := (hfound device hphase).elim

theorem Session.Sound.findPath (h : s.Sound db) {deviceA deviceB : Option Uuid}
    (hown : ∀ id, deviceA = some id ∨ deviceB = some id → OwnOrAbsent s.userId db id)
    (hpath : s.findPath db draw deviceA deviceB = .proceed s') :
    s'.Sound db ∧ s'.userId = s.userId := by
  unfold Session.findPath at hpath
  cases deviceA with
  | none => cases hpath
  | some a =>
    have hfirst : (match s.fetch db a with
        | none => Next.proceed { s with phase := .first none }
        | some device => .proceed (s.load a device (.first (some device)))) = .proceed s' →
        s'.Sound db ∧ s'.userId = s.userId := by
      intro hpath
      cases hfetch : s.fetch db a with
      | none =>
        rw [hfetch] at hpath
        cases hpath
        exact ⟨.of_loaded h.loaded (fun _ hp => nomatch hp) (fun _ hp => nomatch hp), rfl⟩
      | some device =>
        rw [hfetch] at hpath
        cases hpath
        obtain ⟨row, hrow, hdevice⟩ := Option.map_eq_some_iff.mp hfetch
        have hdevice' : device.userId = s.userId := by
          cases hbefore : s.loaded.lookup a with
          | none =>
            rw [hbefore, Option.getD_none] at hdevice
            exact hdevice ▸ hown a (.inl rfl) row hrow
          | some device' =>
            rw [hbefore, Option.getD_some] at hdevice
            exact hdevice ▸ (h.loaded a device' hbefore).1
        exact ⟨.of_loaded (fun _ _ => h.loaded_load hfetch hdevice') (fun _ hp => nomatch hp)
          (fun _ hp => nomatch hp), rfl⟩
    cases hphase : s.phase with
    | first device =>
      rw [hphase] at hpath
      dsimp only at hpath
      cases deviceB with
      | none => cases hpath
      | some b => cases hpath
    | _ =>
      rw [hphase] at hpath
      exact hfirst hpath

theorem Session.Sound.register (h : s.Sound db) {data : DeviceRegister}
    (hregister : s.register db fits draw data = .proceed s') :
    s'.Sound db ∧ s'.userId = s.userId := by
  rw [Session.register] at hregister
  cases hphase : s.phase with
  | authenticated =>
    rw [hphase] at hregister
    dsimp only at hregister
    split at hregister
    next =>
      cases hregister
      refine ⟨.of_loaded h.loaded ?_ ?_, rfl⟩
      · intro device hp
        cases hp
      · intro device hp
        cases hp
    next => cases hregister
    next => cases hregister
  | _ =>
    rw [hphase] at hregister
    dsimp only at hregister
    split at hregister
    next => cases hregister
    next => cases hregister

theorem Session.Sound.advance (h : s.Sound db) (hdiscreet : s.Discreet db)
    (hnext : s.advance db fits draw = .proceed s') : s'.Sound db ∧ s'.userId = s.userId := by
  rw [Session.Discreet] at hdiscreet
  rw [Session.advance] at hnext
  cases hreq : s.request with
  | registerDevice data =>
    rw [hreq] at hnext
    exact h.register hnext
  | listDevices =>
    rw [hreq] at hnext
    cases hnext
  | getDevice deviceId =>
    rw [hreq] at hnext
    cases deviceId with
    | none => cases hnext
    | some id =>
      dsimp only at hnext
      rw [Session.get] at hnext
      split at hnext
      next => cases hnext
      next =>
        split at hnext
        next => cases hnext
        next => cases hnext
  | heartbeat deviceId data =>
    rw [hreq] at hnext
    exact h.beat hreq hnext
  | deleteDevice deviceId =>
    rw [hreq] at hnext
    exact h.delete hreq hnext
  | findPath deviceA deviceB =>
    rw [hreq] at hnext hdiscreet
    exact h.findPath hdiscreet hnext

theorem Session.Sound.commit (h : s.Sound db)
    (hnext : s.advance db fits draw = .commit write r) : write.Of s.userId draw.id db := by
  rcases Session.advance_commit hnext with ⟨data, hreq, hregister⟩ |
    ⟨deviceId, data, hreq, hbeat⟩ | ⟨deviceId, hreq, hdelete⟩
  · obtain ⟨-, hfree, -, rfl⟩ := Session.register_commit hregister
    refine ⟨?_, ?_, fun _ _ _ => rfl⟩
    · intro device hdevice
      cases hfree.symm.trans hdevice
    · intro device hdevice
      cases hdevice
      rfl
  · obtain ⟨id, device, stored, rfl, hphase, hstored, -, rfl⟩ := Session.beat_commit hbeat
    have hown := (h.loaded id device ((h.found device hphase).1 id data hreq)).2
    refine ⟨hown, ?_, ?_⟩
    · intro device hdevice
      cases hdevice
      exact hown stored hstored
    · intro device hdevice hnone
      cases hstored.symm.trans hnone
  · obtain ⟨id, device, rfl, hphase, rfl⟩ := Session.delete_commit hdelete
    refine ⟨(h.loaded id device ((h.found device hphase).2 id hreq)).2, ?_, ?_⟩
    · intro device' hdevice
      cases hdevice
    · intro device' hdevice
      cases hdevice

theorem Session.Sound.begin (db : Rows) (userId : Uuid) (isAdmin : Bool)
    (request : DeviceRequest) : (Session.begin db userId isAdmin request).Sound db := by
  refine .of_loaded ?_ (fun _ hp => nomatch hp) (fun _ hp => nomatch hp)
  intro id device hloaded
  obtain ⟨before, after, he, -⟩ := List.lookup_eq_some_iff.mp hloaded
  have hmem : (id, device) ∈ db.ownedBy userId := by
    change db.ownedBy userId = _ at he
    rw [he]
    exact List.mem_append_right before List.mem_cons_self
  obtain ⟨hrow, hown⟩ := mem_ownedBy.mp hmem
  refine ⟨hown, ?_⟩
  intro row hrow'
  cases hrow.symm.trans hrow'
  exact hown

theorem Session.Sound.apply (h : s.Sound db) {userId : Uuid}
    (hwrite : write.Of userId draw.id db) (hfresh : s.loaded.lookup draw.id = none) :
    s.Sound (write.apply db) := by
  refine ⟨?_, h.owned, h.found⟩
  intro id device hloaded
  obtain ⟨hdevice, hown⟩ := h.loaded id device hloaded
  refine ⟨hdevice, ?_⟩
  intro row hrow
  rw [Write.getElem?_apply] at hrow
  by_cases hid : write.id = id
  · rw [if_pos hid] at hrow
    cases hstored : db[write.id]? with
    | none =>
      rw [← hid, hwrite.drawn row hrow hstored, hfresh] at hloaded
      cases hloaded
    | some stored =>
      rw [hwrite.row row hrow, ← hwrite.own stored hstored]
      exact hown stored (hid ▸ hstored)
  · rw [if_neg hid] at hrow
    exact hown row hrow

end Soundness

section Table
variable {fits : Device → Bool} {users : Nat → Uuid} {t t' : DeviceTable} {v : Uuid} {n : Nat}
  {draw : Draw} {s : Session}

theorem DeviceTable.Sound.erase (h : t.Sound users) (n : Nat) :
    DeviceTable.Sound users ⟨t.committed, t.sessions.erase n⟩ := by
  have hsub : ∀ {m : Nat} {u}, (t.sessions.erase n)[m]? = some u → t.sessions[m]? = some u := by
    intro m u hu
    rw [getElem?_erase_eq] at hu
    split at hu
    next => cases hu
    next => exact hu
  exact ⟨fun m u hu => h.user m u (hsub hu), fun m u hu => h.session m u (hsub hu)⟩

theorem DeviceTable.Sound.insert (h : t.Sound users) (hs : s.Sound t.committed)
    (huser : s.userId = users n) :
    DeviceTable.Sound users ⟨t.committed, t.sessions.insert n s⟩ := by
  have hcases : ∀ {m : Nat} {u}, (t.sessions.insert n s)[m]? = some u →
      n = m ∧ s = u ∨ t.sessions[m]? = some u := by
    intro m u hu
    rw [getElem?_insert_eq] at hu
    split at hu
    next hm => exact .inl ⟨hm, Option.some.inj hu⟩
    next => exact .inr hu
  constructor
  · intro m u hu
    rcases hcases hu with ⟨rfl, rfl⟩ | hu
    · exact huser
    · exact h.user m u hu
  · intro m u hu
    rcases hcases hu with ⟨rfl, rfl⟩ | hu
    · exact hs
    · exact h.session m u hu

theorem DeviceTable.Sound.next (h : t.Sound users)
    (hok : t.Discreet (.next n draw)) : (t.next fits n draw).1.Sound users := by
  obtain ⟨⟨hfree, hfresh⟩, hdiscreet⟩ := hok
  rw [DeviceTable.next]
  cases hs : t.sessions[n]? with
  | none => exact h
  | some s =>
    have hsound := h.session n s hs
    dsimp only
    cases hnext : s.advance t.committed fits draw with
    | proceed s' =>
      obtain ⟨hsound', huser⟩ := hsound.advance (hdiscreet s hs) hnext
      exact h.insert hsound' (huser.trans (h.user n s hs))
    | respond r => exact h.erase n
    | commit write r =>
      have hwrite := hsound.commit hnext
      have herased := h.erase n
      refine ⟨herased.user, ?_⟩
      intro m u hu
      refine (herased.session m u hu).apply hwrite ?_
      dsimp only at hu
      rw [getElem?_erase_eq] at hu
      split at hu
      next => cases hu
      next => exact hfresh m u hu

theorem DeviceTable.Sound.authenticate (h : t.Sound users) (n : Nat) (isAdmin : Bool)
    (request : DeviceRequest) : (t.authenticate users n isAdmin request).Sound users := by
  rw [DeviceTable.authenticate]
  cases hs : t.sessions[n]? with
  | some s => exact h
  | none => exact h.insert (.begin _ _ _ _) rfl

theorem DeviceTable.Sound.step (h : t.Sound users) {op : DeviceOp} (hok : t.Discreet op) :
    (t.step fits users op).1.Sound users := by
  cases op with
  | authenticate n isAdmin request => exact h.authenticate n isAdmin request
  | next n draw => exact h.next hok

theorem DeviceTable.seenBy_eq_iff : t.seenBy users v = t'.seenBy users v ↔
    (∀ id : Uuid, ownRow v t.committed[id]? = ownRow v t'.committed[id]?) ∧
      ∀ m : Nat, users m = v → t.sessions[m]? = t'.sessions[m]? := by
  constructor
  · intro h
    refine ⟨congrFun (congrArg UserView.rows h), ?_⟩
    intro m hm
    have hsession : (if users m = v then t.sessions[m]? else none) =
        if users m = v then t'.sessions[m]? else none :=
      congrFun (congrArg UserView.sessions h) m
    rwa [if_pos hm, if_pos hm] at hsession
  · rintro ⟨hrows, hsessions⟩
    apply congrArg₂ UserView.mk
    · funext id
      exact hrows id
    · funext m
      by_cases hm : users m = v
      · rw [if_pos hm, if_pos hm, hsessions m hm]
      · rw [if_neg hm, if_neg hm]

theorem Write.Of.ownRow_apply {userId : Uuid} {write : Write} {db : Rows}
    (h : write.Of userId draw.id db) (hne : userId ≠ v) (id : Uuid) :
    ownRow v (write.apply db)[id]? = ownRow v db[id]? := by
  rw [Write.getElem?_apply]
  by_cases hid : write.id = id
  · have hnone : ∀ row : Option Device, (∀ device, row = some device → device.userId = userId) →
        ownRow v row = none := by
      intro row hrow
      cases row with
      | none => rfl
      | some device =>
        rw [ownRow_some, if_neg]
        rw [hrow device rfl]
        exact hne
    rw [if_pos hid, hnone write.row h.row, ← hid, hnone db[write.id]? h.own]
  · rw [if_neg hid]

/-- What others do is not seen by a user. -/
theorem DeviceTable.Sound.hidden (h : t.Sound users) (hn : users n ≠ v) :
    (t.next fits n draw).1.seenBy users v = t.seenBy users v := by
  rw [DeviceTable.next]
  cases hs : t.sessions[n]? with
  | none => rfl
  | some s =>
    dsimp only
    rw [DeviceTable.seenBy_eq_iff]
    cases hnext : s.advance t.committed fits draw with
    | proceed s' =>
      refine ⟨fun _ => rfl, ?_⟩
      rintro m rfl
      exact getElem?_insert_of_ne _ _ (fun he => hn (congrArg users he))
    | respond r =>
      refine ⟨fun _ => rfl, ?_⟩
      rintro m rfl
      exact getElem?_erase_of_ne _ (fun he => hn (congrArg users he))
    | commit write r =>
      have hwrite := (h.session n s hs).commit hnext
      refine ⟨hwrite.ownRow_apply ((h.user n s hs).trans_ne hn), ?_⟩
      rintro m rfl
      exact getElem?_erase_of_ne _ (fun he => hn (congrArg users he))

/-- What a user's request does to what it sees, and what it is answered, depends on what it sees
before. -/
theorem DeviceTable.Sound.own (h : t.Sound users) (h' : t'.Sound users)
    (hok : t.Discreet (.next n draw)) (hok' : t'.Discreet (.next n draw)) (hn : users n = v)
    (hview : t.seenBy users v = t'.seenBy users v) :
    (t.next fits n draw).1.seenBy users v = (t'.next fits n draw).1.seenBy users v ∧
      (t.next fits n draw).2 = (t'.next fits n draw).2 := by
  obtain ⟨hrows, hsessions⟩ := DeviceTable.seenBy_eq_iff.mp hview
  have hsame := hsessions n hn
  rw [DeviceTable.next, DeviceTable.next, hsame]
  cases hs : t'.sessions[n]? with
  | none => exact ⟨hview, rfl⟩
  | some s =>
    have hs₁ := hsame.trans hs
    have huser : s.userId = v := (h'.user n s hs).trans hn
    have hadvance : s.advance t.committed fits draw = s.advance t'.committed fits draw :=
      Session.advance_congr (h.session n s hs₁) (h'.session n s hs) (huser ▸ hrows)
        (hok.2 s hs₁) (hok'.2 s hs) hok.1.1 hok'.1.1
    dsimp only
    rw [hadvance]
    have herased : ∀ m : Nat, users m = v →
        (t.sessions.erase n)[m]? = (t'.sessions.erase n)[m]? := by
      intro m hm
      rw [getElem?_erase_eq, getElem?_erase_eq, hsessions m hm]
    cases s.advance t'.committed fits draw with
    | proceed s' =>
      refine ⟨DeviceTable.seenBy_eq_iff.mpr ⟨hrows, ?_⟩, rfl⟩
      intro m hm
      dsimp only
      rw [getElem?_insert_eq, getElem?_insert_eq, hsessions m hm]
    | respond r => exact ⟨DeviceTable.seenBy_eq_iff.mpr ⟨hrows, herased⟩, rfl⟩
    | commit write r =>
      refine ⟨DeviceTable.seenBy_eq_iff.mpr ⟨?_, herased⟩, rfl⟩
      intro id
      dsimp only
      rw [Write.getElem?_apply, Write.getElem?_apply, apply_ite (ownRow v),
        apply_ite (ownRow v), hrows id]

theorem DeviceTable.authenticate_hidden (isAdmin : Bool) (request : DeviceRequest)
    (hn : users n ≠ v) :
    (t.authenticate users n isAdmin request).seenBy users v = t.seenBy users v := by
  rw [DeviceTable.authenticate]
  cases hs : t.sessions[n]? with
  | some s => rfl
  | none =>
    refine DeviceTable.seenBy_eq_iff.mpr ⟨fun _ => rfl, ?_⟩
    rintro m rfl
    exact getElem?_insert_of_ne _ _ (fun he => hn (congrArg users he))

theorem DeviceTable.authenticate_own (isAdmin : Bool) (request : DeviceRequest)
    (hn : users n = v) (hview : t.seenBy users v = t'.seenBy users v) :
    (t.authenticate users n isAdmin request).seenBy users v =
      (t'.authenticate users n isAdmin request).seenBy users v := by
  obtain ⟨hrows, hsessions⟩ := DeviceTable.seenBy_eq_iff.mp hview
  rw [DeviceTable.authenticate, DeviceTable.authenticate, hsessions n hn]
  cases hs : t'.sessions[n]? with
  | some s => exact hview
  | none =>
    have hbegin : Session.begin t.committed (users n) isAdmin request =
        Session.begin t'.committed (users n) isAdmin request := by
      rw [Session.begin, Session.begin, hn, ownedBy_congr hrows]
    refine DeviceTable.seenBy_eq_iff.mpr ⟨hrows, ?_⟩
    intro m hm
    dsimp only
    rw [getElem?_insert_eq, getElem?_insert_eq, hsessions m hm, hbegin]

end Table

def DeviceOp.session : DeviceOp → Nat
  | .authenticate n _ _ => n
  | .next n _ => n

/-- A user with what concerns it, the steps of its requests, and what these are answered. -/
def userObserver (users : Nat → Uuid) (v : Uuid) :
    Observer DeviceTable DeviceOp (Nat × Response) UserView where
  view t := t.seenBy users v
  takes op := users op.session = v
  receives e := users e.1 = v

section Isolation
variable (fits : Device → Bool) (users : Nat → Uuid) (v : Uuid)

theorem DeviceTable.fst_of_mem_next {t : DeviceTable} {n : Nat} {draw : Draw}
    {e : Nat × Response} (he : e ∈ (t.next fits n draw).2) : e.1 = n := by
  rw [DeviceTable.next] at he
  cases hs : t.sessions[n]? with
  | none =>
    rw [hs] at he
    cases he
  | some s =>
    rw [hs] at he
    dsimp only at he
    cases hnext : s.advance t.committed fits draw with
    | proceed s' =>
      rw [hnext] at he
      cases he
    | respond r =>
      rw [hnext] at he
      rw [List.mem_singleton.mp he]
    | commit write r =>
      rw [hnext] at he
      rw [List.mem_singleton.mp he]

theorem userObserver_unwinds : (userObserver users v).Unwinds (DeviceTable.step fits users)
    (fun t => t.Sound users) (fun t op => t.Discreet op) where
  keeps t op h hok := h.step hok
  hidden := by
    intro t op h hok hop
    have hn : users op.session ≠ v := of_decide_eq_false hop
    cases op with
    | authenticate n isAdmin request =>
      exact ⟨DeviceTable.authenticate_hidden isAdmin request hn, rfl⟩
    | next n draw =>
      refine ⟨h.hidden hn, List.filter_eq_nil_iff.mpr ?_⟩
      intro e he hv
      rw [← of_decide_eq_true hv, DeviceTable.fst_of_mem_next fits he] at hn
      exact hn rfl
  own := by
    intro t t' op h h' hok hok' hop hview
    have hn : users op.session = v := of_decide_eq_true hop
    cases op with
    | authenticate n isAdmin request =>
      exact ⟨DeviceTable.authenticate_own isAdmin request hn hview, rfl⟩
    | next n draw =>
      obtain ⟨hseen, hsent⟩ := h.own h' hok hok' hn hview
      exact ⟨hseen, congrArg (List.filter _) hsent⟩

/-- In two runs of discreet requests in which a user takes the same steps, it is answered the same,
whatever the others do in between. -/
theorem DeviceTable.run_userIsolated (ops ops' : List DeviceOp)
    (hops : Guarded (DeviceTable.after fits users) DeviceTable.Discreet DeviceTable.new ops)
    (hops' : Guarded (DeviceTable.after fits users) DeviceTable.Discreet DeviceTable.new ops')
    (hsame : ops.filter (fun op => users op.session = v) =
      ops'.filter (fun op => users op.session = v)) :
    (emitted (DeviceTable.step fits users) DeviceTable.new ops).filter (fun e => users e.1 = v) =
      (emitted (DeviceTable.step fits users) DeviceTable.new ops').filter
        (fun e => users e.1 = v) := by
  have hnew : DeviceTable.new.Sound users := by
    constructor
    · intro n s hs
      cases Std.TreeMap.getElem?_emptyc.symm.trans hs
    · intro n s hs
      cases Std.TreeMap.getElem?_emptyc.symm.trans hs
  exact (userObserver_unwinds fits users v).noninterference hnew hnew rfl hops hops' hsame

/-- The answer that a device is registered is the same if somebody else's is registered in
between. -/
theorem DeviceTable.run_userIsolated_registers :
    let data key : DeviceRegister := ⟨"n", key, none, none⟩
    let draw (n : Nat) : Draw := ⟨BitVec.ofNat 128 n, 0, false, none⟩
    let users (n : Nat) : Uuid := BitVec.ofNat 128 n
    let own : List DeviceOp := [.authenticate 1 false (.registerDevice (data "k")),
      .next 1 (draw 8), .next 1 (draw 8)]
    let ops : List DeviceOp := [.authenticate 2 false (.registerDevice (data "l")),
      .next 2 (draw 9), .authenticate 1 false (.registerDevice (data "k")), .next 1 (draw 8),
      .next 2 (draw 9), .next 1 (draw 8)]
    (emitted (DeviceTable.step (fun _ => true) users) DeviceTable.new own).filter
        (fun e => users e.1 = 1) =
      (emitted (DeviceTable.step (fun _ => true) users) DeviceTable.new ops).filter
        (fun e => users e.1 = 1) :=
  DeviceTable.run_userIsolated (fun _ => true) (BitVec.ofNat 128) 1 _ _ (by decide +kernel)
    (by decide +kernel) rfl

end Isolation

end P2PMesh.Devices
