import P2PMesh.Devices

namespace P2PMesh.Devices
open P2PMesh.Base
set_option autoImplicit true

/-- No two devices have the same key. -/
def Rows.UniqueKeys (db : Rows) : Prop :=
  ∀ (id id' : Uuid) a b, db[id]? = some a → db[id']? = some b → a.publicKey = b.publicKey →
    id = id'

def Rows.HasKey (db : Rows) (publicKey : String) : Prop :=
  ∃ (id : Uuid) (device : Device), db[id]? = some device ∧ device.publicKey = publicKey

/-- A registration that looks for its key is refused exactly if a device has it. -/
def DeviceTable.RefusesTaken (fits : Device → Bool) (t : DeviceTable) : DeviceOp → Prop
  | .authenticate _ _ _ => True
  | .next n draw => ∀ s data, t.sessions[n]? = some s → s.phase = .authenticated →
    s.request = .registerDevice data →
      (Rows.HasKey t.committed data.publicKey → s.advance t.committed fits draw =
        .respond (.refusal 409 "A device with this public key already exists")) ∧
      (¬ Rows.HasKey t.committed data.publicKey →
        s.advance t.committed fits draw = .proceed { s with phase := .absent })

/-- A row is inserted only if no device has got its key since it was looked for. -/
def DeviceTable.SparesKeys (fits : Device → Bool) (t : DeviceTable) : DeviceOp → Prop
  | .authenticate _ _ _ => True
  | .next n draw => ∀ s data, t.sessions[n]? = some s → s.phase ≠ .authenticated →
    s.request = .registerDevice data → t.committed[draw.id]? = none →
      fits (data.device s.userId draw.now) = true →
        ¬ Rows.HasKey t.committed data.publicKey

section Keys
variable {db db' : Rows} {id : Uuid} {device : Device} {publicKey : String}

theorem Rows.mem_withKey {e : Uuid × Device} :
    e ∈ db.withKey publicKey ↔ db[e.1]? = some e.2 ∧ e.2.publicKey = publicKey := by
  rw [Rows.withKey, List.mem_filter, Std.TreeMap.mem_toList_iff_getElem?_eq_some,
    decide_eq_true_eq]

theorem Rows.withKey_eq_nil (h : ¬ db.HasKey publicKey) : db.withKey publicKey = [] := by
  apply List.eq_nil_iff_forall_not_mem.mpr
  intro e he
  exact h ⟨e.1, e.2, mem_withKey.mp he⟩

theorem Rows.UniqueKeys.withKey_eq (hu : db.UniqueKeys) (h : db.HasKey publicKey) :
    ∃ e, db.withKey publicKey = [e] := by
  obtain ⟨id, device, hrow, hkey⟩ := h
  have hmem : (id, device) ∈ db.withKey publicKey := mem_withKey.mpr ⟨hrow, hkey⟩
  have hnodup : (db.withKey publicKey).Nodup := (nodup_toList db).filter _
  have hsame : ∀ e ∈ db.withKey publicKey, e = (id, device) := by
    intro e he
    obtain ⟨hrow', hkey'⟩ := mem_withKey.mp he
    have hid : e.1 = id := hu e.1 id e.2 device hrow' hrow (hkey'.trans hkey.symm)
    apply Prod.ext hid
    rw [hid, hrow] at hrow'
    exact (Option.some.inj hrow').symm
  match hl : db.withKey publicKey with
  | [] =>
    rw [hl] at hmem
    cases hmem
  | [e] => exact ⟨e, rfl⟩
  | e :: e' :: l =>
    rw [hl] at hsame hnodup
    have he : e = e' := (hsame e List.mem_cons_self).trans
      (hsame e' (List.mem_cons_of_mem e List.mem_cons_self)).symm
    exact ((List.nodup_cons.mp hnodup).1 (he ▸ List.mem_cons_self)).elim

theorem Rows.UniqueKeys.insert_iff (hu : db.UniqueKeys) (hfree : db[id]? = none) :
    Rows.UniqueKeys (db.insert id device) ↔ ¬ db.HasKey device.publicKey := by
  constructor
  · rintro h ⟨id', device', hrow, hkey⟩
    have hne : id ≠ id' := by
      rintro rfl
      cases hfree.symm.trans hrow
    refine hne (h id id' device device' ?_ ?_ hkey.symm)
    · rw [getElem?_insert_eq, if_pos rfl]
    · rw [getElem?_insert_of_ne _ _ hne, hrow]
  · intro h id₁ id₂ a b ha hb hkey
    rw [getElem?_insert_eq] at ha hb
    split at ha
    next he₁ =>
      split at hb
      next he₂ => exact he₁.symm.trans he₂
      next =>
        cases ha
        exact (h ⟨id₂, b, hb, hkey.symm⟩).elim
    next =>
      split at hb
      next =>
        cases hb
        exact (h ⟨id₁, a, ha, hkey⟩).elim
      next => exact hu id₁ id₂ a b ha hb hkey

theorem Rows.UniqueKeys.of_same_keys (hu : db.UniqueKeys)
    (h : ∀ (id : Uuid) a, db'[id]? = some a → ∃ b, db[id]? = some b ∧ a.publicKey = b.publicKey) :
    db'.UniqueKeys := by
  intro id₁ id₂ a b ha hb hkey
  obtain ⟨a', ha', hkeyA⟩ := h id₁ a ha
  obtain ⟨b', hb', hkeyB⟩ := h id₂ b hb
  exact hu id₁ id₂ a' b' ha' hb' (hkeyA.symm.trans (hkey.trans hkeyB))

variable {s : Session} {fits : Device → Bool} {draw : Draw} {write : Write} {r : Response}

theorem Rows.UniqueKeys.commit (hu : db.UniqueKeys)
    (hnext : s.advance db fits draw = .commit write r)
    (hreq : ∀ data, s.request ≠ .registerDevice data) : (write.apply db).UniqueKeys := by
  apply hu.of_same_keys
  intro id a ha
  rw [Write.getElem?_apply] at ha
  rcases Session.advance_commit hnext with ⟨data, hregister, -⟩ | ⟨deviceId, data, -, hbeat⟩ |
    ⟨deviceId, -, hdelete⟩
  · exact (hreq data hregister).elim
  · obtain ⟨id', device, stored, -, -, hstored, -, rfl⟩ := Session.beat_commit hbeat
    split at ha
    next hid =>
      cases ha
      exact ⟨stored, hid ▸ hstored, rfl⟩
    next => exact ⟨a, ha, rfl⟩
  · obtain ⟨id', device, -, -, rfl⟩ := Session.delete_commit hdelete
    split at ha
    next => cases ha
    next => exact ⟨a, ha, rfl⟩

end Keys

section KeyRuns
variable {fits : Device → Bool} {users : Nat → Uuid} {t : DeviceTable}

theorem DeviceTable.refusesTaken (hu : Rows.UniqueKeys t.committed) (op : DeviceOp) :
    t.RefusesTaken fits op := by
  cases op with
  | authenticate n isAdmin request => trivial
  | next n draw =>
    intro s data hs hphase hreq
    have hregister : s.advance t.committed fits draw =
        s.register t.committed fits draw data := by
      rw [Session.advance, hreq]
    rw [hregister, Session.register, hphase]
    dsimp only
    constructor
    · intro hkey
      obtain ⟨e, he⟩ := hu.withKey_eq hkey
      rw [he]
    · intro hkey
      rw [Rows.withKey_eq_nil hkey]

/-- After a step the keys are still apart exactly if it inserts none that has been taken. -/
theorem DeviceTable.uniqueKeys_after_iff (hu : Rows.UniqueKeys t.committed) (op : DeviceOp) :
    Rows.UniqueKeys (t.after fits users op).committed ↔ t.SparesKeys fits op := by
  cases op with
  | authenticate n isAdmin request =>
    refine iff_of_true ?_ trivial
    change Rows.UniqueKeys (t.authenticate users n isAdmin request).committed
    rw [DeviceTable.authenticate]
    split
    next => exact hu
    next => exact hu
  | next n draw =>
    change Rows.UniqueKeys (t.next fits n draw).1.committed ↔ _
    rw [DeviceTable.next, DeviceTable.SparesKeys]
    cases hs : t.sessions[n]? with
    | none => exact iff_of_true hu (fun s _ hsome => nomatch hsome)
    | some s =>
      simp only [Option.some.injEq]
      cases hnext : s.advance t.committed fits draw with
      | commit write r =>
        dsimp only
        by_cases hreq : ∃ data, s.request = .registerDevice data
        · obtain ⟨data, hreq⟩ := hreq
          have hregister : s.register t.committed fits draw data = .commit write r := by
            rw [Session.advance, hreq] at hnext
            exact hnext
          obtain ⟨hphase, hfree, hfits, rfl⟩ := Session.register_commit hregister
          refine (hu.insert_iff hfree).trans ⟨?_, ?_⟩
          · rintro hkey _ data' rfl - hreq' - -
            cases hreq.symm.trans hreq'
            exact hkey
          · intro h
            exact h s data rfl hphase hreq hfree hfits
        · refine iff_of_true (hu.commit hnext (not_exists.mp hreq)) ?_
          rintro _ data rfl - hreq'
          exact (hreq ⟨data, hreq'⟩).elim
      | _ =>
        refine iff_of_true hu ?_
        rintro _ data rfl hphase hreq hfree hfits
        obtain ⟨r, hregister⟩ := Session.register_of_ne hphase hfree hfits
        rw [Session.advance, hreq] at hnext
        cases hregister.symm.trans hnext

end KeyRuns

/-- At every point of every interleaving no two devices have the same key, and every registration
is refused exactly if its key is taken, if and only if none is committed whose key has been taken
since it was looked for. -/
theorem DeviceTable.run_uniqueKeys_iff (fits : Device → Bool) (users : Nat → Uuid)
    (ops : List DeviceOp) :
    (∀ l, l <+: ops → Rows.UniqueKeys (DeviceTable.new.run fits users l).committed) ∧
        Guarded (DeviceTable.after fits users) (DeviceTable.RefusesTaken fits) DeviceTable.new ops ↔
      Guarded (DeviceTable.after fits users) (DeviceTable.SparesKeys fits) DeviceTable.new ops := by
  have hnew : Rows.UniqueKeys DeviceTable.new.committed := by
    intro id id' a b ha
    cases Std.TreeMap.getElem?_emptyc.symm.trans ha
  have hstep : ∀ t op, Rows.UniqueKeys (DeviceTable.committed t) →
      (Rows.UniqueKeys (t.after fits users op).committed ∧ t.RefusesTaken fits op ↔
        t.SparesKeys fits op) := by
    intro t op hu
    rw [and_iff_left (DeviceTable.refusesTaken hu op)]
    exact DeviceTable.uniqueKeys_after_iff hu op
  exact forall_prefix_and_guarded_iff (I := fun t : DeviceTable => Rows.UniqueKeys t.committed)
    hnew hstep ops

/-- The row as a heartbeat tells it. -/
def DeviceHeartbeat.tell (data : DeviceHeartbeat) (now : Int) (stored : Device) : Device :=
  { stored with
    natType := data.natType.getD stored.natType
    lastIp := (data.lastIp.map some).getD stored.lastIp
    lastPort := (data.lastPort.map some).getD stored.lastPort
    online := true
    lastSeen := now }

/-- A given value that repeats the one that has been loaded is the one that is stored. -/
def Repeated (loaded : α) (value : Option α) (stored : α) : Prop :=
  ∀ v, value = some v → v = loaded → stored = v

/-- What a heartbeat repeats of the instance is what is stored. -/
structure DeviceHeartbeat.Reaches (data : DeviceHeartbeat) (loaded : Device) (now : Int)
    (stored : Device) : Prop where
  natType : Repeated loaded.natType data.natType stored.natType
  lastIp : Repeated loaded.lastIp (data.lastIp.map some) stored.lastIp
  lastPort : Repeated loaded.lastPort (data.lastPort.map some) stored.lastPort
  online : true = loaded.online → stored.online = true
  lastSeen : now = loaded.lastSeen → stored.lastSeen = now

/-- What a request that commits asks for. -/
def Session.tell (s : Session) (draw : Draw) (told : Rows) : Rows :=
  match s.request with
  | .registerDevice data => told.insert draw.id (data.device s.userId draw.now)
  | .heartbeat (some id) data => told.modify id (data.tell draw.now)
  | .deleteDevice (some id) => told.erase id
  | _ => told

/-- A heartbeat that is committed finds stored what it repeats of its instance. -/
def Session.Reaches (s : Session) (db : Rows) (fits : Device → Bool) (draw : Draw) : Prop :=
  ∀ id data loaded stored, s.request = .heartbeat (some id) data → s.phase = .found loaded →
    db[id]? = some stored → fits (data.update loaded draw.now stored) = true →
      data.Reaches loaded draw.now stored

def DeviceTable.Reaches (fits : Device → Bool) (t : DeviceTable) : DeviceOp → Prop
  | .authenticate _ _ _ => True
  | .next n draw => ∀ s, t.sessions[n]? = some s → s.Reaches t.committed fits draw

/-- The table, and what the requests have asked for in the order of their commits. -/
structure DeviceHistory where
  table : DeviceTable
  told : Rows

def DeviceHistory.new : DeviceHistory := ⟨.new, ∅⟩

section History
variable (fits : Device → Bool) (users : Nat → Uuid) (h : DeviceHistory)

def DeviceHistory.toldAfter : DeviceOp → Rows
  | .authenticate _ _ _ => h.told
  | .next n draw =>
    match h.table.sessions[n]? with
    | none => h.told
    | some s =>
      match s.advance h.table.committed fits draw with
      | .commit _ _ => s.tell draw h.told
      | _ => h.told

def DeviceHistory.after (op : DeviceOp) : DeviceHistory :=
  ⟨h.table.after fits users op, h.toldAfter fits op⟩

/-- Every device is stored as its requests have told it. -/
def DeviceHistory.Faithful : Prop := ∀ id : Uuid, h.table.committed[id]? = h.told[id]?

end History

section Updates
variable {data : DeviceHeartbeat} {loaded stored : Device} {now : Int}

theorem updated_eq_iff [DecidableEq α] {loaded value stored : α} :
    updated loaded value stored = value ↔ (value = loaded → stored = value) := by
  rw [updated]
  split
  next h => exact (imp_iff_right h).symm
  next h => exact iff_of_true rfl (fun he => (h he).elim)

theorem updatedIfGiven_eq_iff [DecidableEq α] {loaded stored : α} {value : Option α} :
    updatedIfGiven loaded value stored = value.getD stored ↔ Repeated loaded value stored := by
  rw [updatedIfGiven]
  cases value with
  | none =>
    refine iff_of_true rfl ?_
    intro v hv
    cases hv
  | some v =>
    rw [Option.map_some, Option.getD_some, Option.getD_some, updated_eq_iff]
    exact ⟨fun h _ hv => Option.some.inj hv ▸ h, fun h => h v rfl⟩

/-- An UPDATE leaves the row as the heartbeat tells it exactly if what it leaves out is there. -/
theorem DeviceHeartbeat.update_eq_tell_iff :
    data.update loaded now stored = data.tell now stored ↔ data.Reaches loaded now stored := by
  rw [DeviceHeartbeat.update, DeviceHeartbeat.tell, Device.mk.injEq]
  constructor
  · rintro ⟨-, -, -, hip, hport, hnat, -, -, honline, hseen, -⟩
    exact ⟨updatedIfGiven_eq_iff.mp hnat, updatedIfGiven_eq_iff.mp hip,
      updatedIfGiven_eq_iff.mp hport, updated_eq_iff.mp honline, updated_eq_iff.mp hseen⟩
  · intro h
    exact ⟨rfl, rfl, rfl, updatedIfGiven_eq_iff.mpr h.lastIp, updatedIfGiven_eq_iff.mpr h.lastPort,
      updatedIfGiven_eq_iff.mpr h.natType, rfl, rfl, updated_eq_iff.mpr h.online,
      updated_eq_iff.mpr h.lastSeen, rfl⟩

end Updates

section History
variable {fits : Device → Bool} {users : Nat → Uuid} {h : DeviceHistory} {s : Session}
  {draw : Draw} {write : Write} {r : Response} {db told : Rows}

theorem Session.tell_apply_iff (hsame : ∀ id : Uuid, db[id]? = told[id]?)
    (hnext : s.advance db fits draw = .commit write r) :
    (∀ id : Uuid, (write.apply db)[id]? = (s.tell draw told)[id]?) ↔ s.Reaches db fits draw := by
  rcases Session.advance_commit hnext with ⟨data, hreq, hregister⟩ |
    ⟨deviceId, data, hreq, hbeat⟩ | ⟨deviceId, hreq, hdelete⟩
  · obtain ⟨-, -, -, rfl⟩ := Session.register_commit hregister
    refine iff_of_true ?_ (fun _ _ _ _ hreq' => nomatch hreq.symm.trans hreq')
    intro id
    rw [Session.tell, hreq, Write.getElem?_apply]
    dsimp only
    rw [getElem?_insert_eq, hsame]
  · obtain ⟨id, loaded, stored, rfl, hphase, hstored, hfits, rfl⟩ := Session.beat_commit hbeat
    have htold : ∀ id' : Uuid, (s.tell draw told)[id']? =
        if id = id' then some (data.tell draw.now stored) else told[id']? := by
      intro id'
      rw [Session.tell, hreq]
      dsimp only
      rw [getElem?_modify_eq, ← hsame id, hstored, Option.map_some]
    have hiff : (∀ id' : Uuid, (Write.apply ⟨id, some (data.update loaded draw.now stored)⟩
        db)[id']? = (s.tell draw told)[id']?) ↔
          data.update loaded draw.now stored = data.tell draw.now stored := by
      constructor
      · intro hall
        have hid := hall id
        rw [Write.getElem?_apply, htold, if_pos rfl, if_pos rfl] at hid
        exact Option.some.inj hid
      · intro heq id'
        rw [Write.getElem?_apply, htold, ← heq, hsame]
    rw [hiff, DeviceHeartbeat.update_eq_tell_iff]
    constructor
    · intro hreaches id' data' loaded' stored' hreq' hphase' hstored' _
      cases hreq.symm.trans hreq'
      cases hphase.symm.trans hphase'
      cases hstored.symm.trans hstored'
      exact hreaches
    · intro hall
      exact hall id data loaded stored hreq hphase hstored hfits
  · obtain ⟨id, device, rfl, -, rfl⟩ := Session.delete_commit hdelete
    refine iff_of_true ?_ (fun _ _ _ _ hreq' => nomatch hreq.symm.trans hreq')
    intro id'
    rw [Session.tell, hreq, Write.getElem?_apply]
    dsimp only
    rw [getElem?_erase_eq, hsame]

theorem Session.reaches_of_not_commit
    (hnext : ∀ write r, s.advance db fits draw ≠ .commit write r) : s.Reaches db fits draw := by
  intro id data loaded stored hreq hphase hstored hfits
  obtain ⟨write, r, hbeat⟩ := Session.beat_of_found hphase hstored hfits
  rw [Session.advance, hreq] at hnext
  exact (hnext write r hbeat).elim

/-- A step leaves the devices stored as they have been told exactly if it is no heartbeat that
misses its row. -/
theorem DeviceHistory.faithful_after_iff (hf : h.Faithful) (op : DeviceOp) :
    (h.after fits users op).Faithful ↔ h.table.Reaches fits op := by
  cases op with
  | authenticate n isAdmin request =>
    refine iff_of_true ?_ trivial
    intro id
    change (h.table.authenticate users n isAdmin request).committed[id]? = h.told[id]?
    rw [DeviceTable.authenticate]
    split
    next => exact hf id
    next => exact hf id
  | next n draw =>
    change (∀ id : Uuid, (h.table.next fits n draw).1.committed[id]? =
      (h.toldAfter fits (.next n draw))[id]?) ↔ ∀ s, _
    rw [DeviceTable.next, DeviceHistory.toldAfter]
    cases hs : h.table.sessions[n]? with
    | none => exact iff_of_true hf (fun s hsome => nomatch hsome)
    | some s =>
      simp only [Option.some.injEq, forall_eq']
      cases hnext : s.advance h.table.committed fits draw with
      | commit write r => exact Session.tell_apply_iff hf hnext
      | _ =>
        refine iff_of_true hf (Session.reaches_of_not_commit ?_)
        intro write r hcommit
        cases hnext.symm.trans hcommit

end History

/-- At every point of every interleaving the devices are stored as the registrations, heartbeats
and deletions have told them one after the other in the order of their commits, if and only if
every heartbeat finds stored what it repeats of the instance that it has loaded. -/
theorem DeviceHistory.run_faithful_iff (fits : Device → Bool) (users : Nat → Uuid)
    (ops : List DeviceOp) :
    (∀ l, l <+: ops → (l.foldl (DeviceHistory.after fits users) DeviceHistory.new).Faithful) ↔
      Guarded (DeviceTable.after fits users) (DeviceTable.Reaches fits) DeviceTable.new ops := by
  have hnew : DeviceHistory.new.Faithful := fun _ => rfl
  rw [forall_prefix_iff hnew (fun h op hf => DeviceHistory.faithful_after_iff hf op)]
  exact guarded_proj_iff (f := DeviceHistory.table) (fun _ _ => rfl)

end P2PMesh.Devices
