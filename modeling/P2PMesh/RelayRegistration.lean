import P2PMesh.RelayService

namespace P2PMesh.RelayService
open P2PMesh.Base
set_option autoImplicit true

/-- A request that registers a relay, or a heartbeat that may. -/
inductive RelayCall (F : Type) where
  | registerRelay (r : Registration F)
  | heartbeatByName (r : Registration F) (beat : Heartbeat F)

/-- What a transaction leaves in the table when it commits. -/
inductive Write (F : Type) where
  | insert (id : Uuid) (node : RelayNode F)
  | update (relayId : Uuid) (beat : Heartbeat F) (now : Int)

/-- Which of its statements a call has behind it: its SELECT, which found nothing or a row, its
INSERT, or all but the COMMIT. That it reads its own row again at the end has no effect. -/
inductive CallPhase (F : Type) where
  | absent
  | found (relayId : Uuid)
  | inserted (id : Uuid) (node : RelayNode F)
  | written (write : Write F)

def Write.key : Write F → Uuid
  | .insert id _ => id
  | .update relayId _ _ => relayId

structure Session (F : Type) where
  call : RelayCall F
  phase : CallPhase F

/-- The rows that are committed, and the calls whose transactions are open. -/
structure RelayTable (F : Type) where
  committed : RelayNodes F
  sessions : Std.TreeMap Nat (Session F)

/-- A call begins with its SELECT, or goes one statement further; an INSERT draws its key. -/
inductive TableOp (F : Type) where
  | select (session : Nat) (call : RelayCall F)
  | next (session : Nat) (id : Uuid) (now : Int)

section Calls
variable {F : Type}

def RelayCall.registration : RelayCall F → Registration F
  | .registerRelay r => r
  | .heartbeatByName r _ => r

def RelayCall.lookup (db : RelayNodes F) :
    RelayCall F → Except RelayError (Option (Uuid × RelayNode F))
  | .registerRelay r => scalarOneOrNone (db.addressed r.ip r.port)
  | .heartbeatByName r _ => scalarOneOrNone (db.named r.name)

/-- A registration that finds a row raises a ValueError. -/
def RelayCall.begins (db : RelayNodes F) (call : RelayCall F) : Option (CallPhase F) :=
  match call.lookup db with
  | .error _ => none
  | .ok none => some .absent
  | .ok (some (relayId, _)) =>
    match call with
    | .registerRelay _ => none
    | .heartbeatByName _ _ => some (.found relayId)

variable [OfScientific F] [LT F] [DecidableLT F] (settings : Settings F)

/-- The statement before the COMMIT that comes next. An auto-registered relay gets its load and its
status by an UPDATE of their own. -/
def RelayCall.advance (id : Uuid) (now : Int) : RelayCall F → CallPhase F → CallPhase F
  | .registerRelay r, .absent => .written (.insert id (r.node now))
  | .heartbeatByName r _, .absent => .inserted id (r.node now)
  | .heartbeatByName _ beat, .inserted id node =>
    .written (.insert id (node.beat settings beat now))
  | .heartbeatByName _ beat, .found relayId => .written (.update relayId beat now)
  | _, phase => phase

def Write.commit (db : RelayNodes F) : Write F → Except RelayError (RelayNodes F)
  | .insert id node => db.add id node
  | .update relayId beat now => .ok (db.beat settings relayId beat now)

variable (t : RelayTable F)

def RelayTable.select (session : Nat) (call : RelayCall F) : RelayTable F :=
  match t.sessions[session]? with
  | some _ => t
  | none =>
    match call.begins t.committed with
    | none => t
    | some phase => { t with sessions := t.sessions.insert session ⟨call, phase⟩ }

def RelayTable.next (session : Nat) (id : Uuid) (now : Int) : RelayTable F :=
  match t.sessions[session]? with
  | none => t
  | some s =>
    match s.phase with
    | .written write =>
      ⟨t.committed.after (write.commit settings t.committed), t.sessions.erase session⟩
    | phase =>
      ⟨t.committed, t.sessions.insert session ⟨s.call, s.call.advance settings id now phase⟩⟩

def RelayTable.step : TableOp F → RelayTable F
  | .select session call => t.select session call
  | .next session id now => t.next settings session id now

def RelayTable.run (ops : List (TableOp F)) : RelayTable F :=
  ops.foldl (RelayTable.step settings) t

end Calls

/-- Who a relay is and where. -/
structure Identity where
  name : String
  ip : String
  port : Int
  region : String
deriving DecidableEq

section Identities
variable {F : Type}

def RelayNode.identity (relay : RelayNode F) : Identity :=
  ⟨relay.name, relay.ip, relay.port, relay.region⟩

def Registration.identity (r : Registration F) : Identity := ⟨r.name, r.ip, r.port, r.region⟩

def RelayNodes.identityAt (db : RelayNodes F) (id : Uuid) : Option Identity :=
  (db[id]?).map RelayNode.identity

/-- There is at most one row with a name. -/
def RelayNodes.UniqueNames (db : RelayNodes F) : Prop :=
  ∀ id id' a b, db.identityAt id = some a → db.identityAt id' = some b → a.name = b.name → id = id'

variable (t : RelayTable F)

/-- A heartbeat finds the row of its relay, or none. -/
def RelayTable.NeverFails : TableOp F → Prop
  | .select session (.heartbeatByName r _) => t.sessions[session]? = none →
      ∃ row, scalarOneOrNone (t.committed.named r.name) = .ok row
  | _ => True

/-- When a heartbeat is complete its row says of the relay what the heartbeat does. -/
def RelayTable.CarriesReport [OfScientific F] [LT F] [DecidableLT F] (settings : Settings F) :
    TableOp F → Prop
  | .next session _ _ => ∀ r beat write db,
      t.sessions[session]? = some ⟨.heartbeatByName r beat, .written write⟩ →
        write.commit settings t.committed = .ok db →
          db.identityAt write.key = some r.identity
  | _ => True

/-- A row is committed only while there is none with its name, and a heartbeat only updates a row
that says of the relay what it does. -/
def RelayTable.Spares : TableOp F → Prop
  | .next session _ _ =>
    (∀ call id node, t.sessions[session]? = some ⟨call, .written (.insert id node)⟩ →
      t.committed[id]? = none →
        ∀ id' a, t.committed.identityAt id' = some a → a.name ≠ node.name) ∧
    ∀ r beat relayId beat' now,
      t.sessions[session]? = some ⟨.heartbeatByName r beat, .written (.update relayId beat' now)⟩ →
        t.committed.identityAt relayId = some r.identity
  | _ => True

/-- What an open transaction has in hand is a row of its relay's name, or is to be one. -/
def Session.Sound (db : RelayNodes F) (s : Session F) : Prop :=
  match s.phase with
  | .absent => True
  | .found relayId => ∃ a, db.identityAt relayId = some a ∧ a.name = s.call.registration.name
  | .inserted _ node => node.identity = s.call.registration.identity
  | .written (.insert _ node) => node.identity = s.call.registration.identity
  | .written (.update relayId _ _) =>
    ∃ a, db.identityAt relayId = some a ∧ a.name = s.call.registration.name

def RelayTable.Sound : Prop :=
  ∀ (session : Nat) s, t.sessions[session]? = some s → Session.Sound t.committed s

end Identities

section Lookup
variable {F : Type} {db db' : RelayNodes F}

theorem RelayNodes.mem_named {e : Uuid × RelayNode F} {name : String} :
    e ∈ db.named name ↔ db[e.1]? = some e.2 ∧ e.2.name = name := by
  rw [RelayNodes.named, List.mem_filter, Std.TreeMap.mem_toList_iff_getElem?_eq_some,
    decide_eq_true_eq]

theorem length_of_scalarOneOrNone {rows : List α} (h : scalarOneOrNone rows = .ok row) :
    rows.length ≤ 1 := by
  match rows with
  | [] => exact Nat.zero_le 1
  | [_] => exact Nat.le_refl 1
  | _ :: _ :: _ => cases h

theorem RelayNodes.UniqueNames.lookup (hu : db.UniqueNames) (name : String) :
    ∃ row, scalarOneOrNone (db.named name) = .ok row := by
  match h : db.named name with
  | [] => exact ⟨none, rfl⟩
  | [e] => exact ⟨some e, rfl⟩
  | e :: e' :: l =>
    have he : db[e.1]? = some e.2 ∧ e.2.name = name :=
      mem_named.mp (h ▸ List.mem_cons_self)
    have he' : db[e'.1]? = some e'.2 ∧ e'.2.name = name :=
      mem_named.mp (h ▸ List.mem_cons_of_mem e List.mem_cons_self)
    have hkey : e.1 = e'.1 := by
      apply hu e.1 e'.1 e.2.identity e'.2.identity
      · rw [RelayNodes.identityAt, he.1]
        rfl
      · rw [RelayNodes.identityAt, he'.1]
        rfl
      · exact he.2.trans he'.2.symm
    have hsame : e = e' := by
      apply Prod.ext hkey
      rw [← Option.some_inj, ← he.1, ← he'.1, hkey]
    have hnodup : (db.named name).Nodup := (nodup_toList db).filter _
    rw [h, hsame] at hnodup
    exact ((List.nodup_cons.mp hnodup).1 List.mem_cons_self).elim

theorem RelayNodes.identityAt_insert (id id' : Uuid) (node : RelayNode F) :
    RelayNodes.identityAt (db.insert id node) id' =
      if id = id' then some node.identity else db.identityAt id' := by
  rw [RelayNodes.identityAt, getElem?_insert_eq]
  split <;> rfl

theorem RelayNodes.identityAt_beat [LT F] [DecidableLT F] (settings : Settings F)
    (relayId id : Uuid) (beat : Heartbeat F) (now : Int) :
    (db.beat settings relayId beat now).identityAt id = db.identityAt id := by
  rw [RelayNodes.identityAt, RelayNodes.beat, getElem?_modify_eq]
  split
  · next he =>
    rw [he, Option.map_map]
    rfl
  · rfl

/-- A row with a key of its own keeps the names apart exactly where its name is new. -/
theorem RelayNodes.UniqueNames.insert_iff (hu : db.UniqueNames) {id : Uuid} {node : RelayNode F}
    (hid : db[id]? = none) : UniqueNames (db.insert id node) ↔
      ∀ id' a, db.identityAt id' = some a → a.name ≠ node.name := by
  have hnone : db.identityAt id = none := by
    rw [RelayNodes.identityAt, hid]
    rfl
  constructor
  · intro h id' a ha hname
    have hne : id ≠ id' := by
      rintro rfl
      rw [hnone] at ha
      cases ha
    refine hne (h id id' node.identity a ?_ ?_ hname.symm)
    · rw [identityAt_insert, if_pos rfl]
    · rw [identityAt_insert, if_neg hne, ha]
  · intro h id₁ id₂ a b ha hb hname
    rw [identityAt_insert] at ha hb
    split at ha
    · next he₁ =>
      split at hb
      · next he₂ => exact he₁.symm.trans he₂
      · cases ha
        exact (h id₂ b hb hname.symm).elim
    · split at hb
      · cases hb
        exact (h id₁ a ha hname).elim
      · exact hu id₁ id₂ a b ha hb hname

theorem Session.Sound.mono {s : Session F} (hs : s.Sound db)
    (h : ∀ id a, db.identityAt id = some a → db'.identityAt id = some a) : s.Sound db' := by
  obtain ⟨call, phase⟩ := s
  unfold Session.Sound at hs ⊢
  match phase, hs with
  | .absent, _ => trivial
  | .found relayId, ⟨a, ha, hname⟩ => exact ⟨a, h relayId a ha, hname⟩
  | .inserted id node, hnode => exact hnode
  | .written (.insert id node), hnode => exact hnode
  | .written (.update relayId beat now), ⟨a, ha, hname⟩ => exact ⟨a, h relayId a ha, hname⟩

theorem RelayCall.begins_sound {call : RelayCall F} {phase : CallPhase F}
    (h : call.begins db = some phase) : (Session.mk call phase).Sound db := by
  cases call with
  | registerRelay r =>
    rw [RelayCall.begins] at h
    split at h
    · cases h
    · cases h
      trivial
    · cases h
  | heartbeatByName r beat =>
    rw [RelayCall.begins, RelayCall.lookup] at h
    match hrows : db.named r.name with
    | [] =>
      rw [hrows] at h
      cases h
      trivial
    | [e] =>
      rw [hrows] at h
      cases h
      obtain ⟨he, hname⟩ := RelayNodes.mem_named.mp (hrows ▸ List.mem_singleton_self e)
      refine ⟨e.2.identity, ?_, hname⟩
      rw [RelayNodes.identityAt, he]
      rfl
    | e :: e' :: l =>
      rw [hrows] at h
      cases h

variable [LT F] [DecidableLT F] {settings : Settings F}

theorem Write.identityAt_commit (write : Write F) {id : Uuid} {a : Identity}
    (ha : db.identityAt id = some a) :
    (db.after (write.commit settings db)).identityAt id = some a := by
  cases write with
  | insert id' node =>
    rw [Write.commit, RelayNodes.add]
    cases hid : db[id']? with
    | some relay => exact ha
    | none =>
      change RelayNodes.identityAt (db.insert id' node) id = some a
      rw [RelayNodes.identityAt_insert, if_neg]
      · exact ha
      · rintro rfl
        rw [RelayNodes.identityAt, hid] at ha
        cases ha
  | update relayId beat now =>
    exact (RelayNodes.identityAt_beat settings relayId id beat now).trans ha

variable [OfScientific F]

theorem RelayCall.advance_sound {call : RelayCall F} {phase : CallPhase F} (id : Uuid) (now : Int)
    (hs : (Session.mk call phase).Sound db) :
    (Session.mk call (call.advance settings id now phase)).Sound db := by
  cases call with
  | registerRelay r =>
    cases phase with
    | absent => rfl
    | found relayId => exact hs
    | inserted id node => exact hs
    | written write => exact hs
  | heartbeatByName r beat =>
    cases phase with
    | absent => rfl
    | found relayId => exact hs
    | inserted id node => exact hs
    | written write => exact hs

end Lookup

section Steps
variable {F : Type} {t : RelayTable F}

theorem RelayTable.Sound.select (hs : t.Sound) (session : Nat) (call : RelayCall F) :
    (t.select session call).Sound := by
  rw [RelayTable.select]
  split
  · exact hs
  · split
    · exact hs
    · next phase hphase =>
      intro session' s h
      change (t.sessions.insert session ⟨call, phase⟩)[session']? = some s at h
      rw [getElem?_insert_eq] at h
      split at h
      · cases h
        exact RelayCall.begins_sound hphase
      · exact hs session' s h

theorem RelayTable.spares_insert_iff {session : Nat} {call : RelayCall F} {key id : Uuid}
    {node : RelayNode F} {now : Int}
    (hsession : t.sessions[session]? = some ⟨call, .written (.insert key node)⟩) :
    t.Spares (.next session id now) ↔ (t.committed[key]? = none →
      ∀ id' a, t.committed.identityAt id' = some a → a.name ≠ node.name) := by
  rw [RelayTable.Spares, hsession]
  constructor
  · intro h
    exact h.1 call key node rfl
  · intro h
    refine ⟨?_, ?_⟩
    · intro call' key' node' he
      cases he
      exact h
    · intro r beat relayId beat' now' he
      cases he

theorem RelayTable.spares_update_iff {session : Nat} {call : RelayCall F} {relayId id : Uuid}
    {beat : Heartbeat F} {now now' : Int}
    (hsession : t.sessions[session]? = some ⟨call, .written (.update relayId beat now')⟩) :
    t.Spares (.next session id now) ↔ ∀ r beat', call = .heartbeatByName r beat' →
      t.committed.identityAt relayId = some r.identity := by
  rw [RelayTable.Spares, hsession]
  constructor
  · rintro h r beat' rfl
    exact h.2 r beat' relayId beat now' rfl
  · intro h
    refine ⟨?_, ?_⟩
    · intro call' key node he
      cases he
    · intro r beat' relayId' beat'' now'' he
      cases he
      exact h r beat' rfl

variable [OfScientific F] [LT F] [DecidableLT F] {settings : Settings F}

theorem RelayTable.Sound.next (hs : t.Sound) (session : Nat) (id : Uuid) (now : Int) :
    (t.next settings session id now).Sound := by
  rw [RelayTable.next]
  split
  · exact hs
  · next s hsession =>
    split
    · next write hphase =>
      intro session' s' h
      change (t.sessions.erase session)[session']? = some s' at h
      rw [getElem?_erase_eq] at h
      split at h
      · cases h
      · exact (hs session' s' h).mono (fun id a ha => write.identityAt_commit ha)
    · intro session' s' h
      change (t.sessions.insert session _)[session']? = some s' at h
      rw [getElem?_insert_eq] at h
      split at h
      · cases h
        exact RelayCall.advance_sound id now (hs session s hsession)
      · exact hs session' s' h

theorem RelayTable.Sound.step (hs : t.Sound) (op : TableOp F) : (t.step settings op).Sound := by
  cases op with
  | select session call => exact hs.select session call
  | next session id now => exact hs.next session id now

theorem RelayTable.spares_of_not_written (settings : Settings F) {session : Nat} (id : Uuid)
    (now : Int)
    (hsession : ∀ call write, t.sessions[session]? ≠ some ⟨call, .written write⟩) :
    t.CarriesReport settings (.next session id now) ∧ t.Spares (.next session id now) := by
  refine ⟨?_, ?_, ?_⟩
  · intro r beat write db h
    exact (hsession _ _ h).elim
  · intro call key node h
    exact (hsession _ _ h).elim
  · intro r beat relayId beat' now h
    exact (hsession _ _ h).elim

theorem RelayTable.commit_insert_iff (hs : t.Sound) (hu : t.committed.UniqueNames) {session : Nat}
    {call : RelayCall F} {key : Uuid} {node : RelayNode F} (id : Uuid) (now : Int)
    (hsession : t.sessions[session]? = some ⟨call, .written (.insert key node)⟩) :
    RelayNodes.UniqueNames
          (t.committed.after (Write.commit settings t.committed (.insert key node))) ∧
        t.CarriesReport settings (.next session id now) ↔ t.Spares (.next session id now) := by
  have hsound := hs session _ hsession
  have hcarries : t.CarriesReport settings (.next session id now) := by
    intro r beat write db h hcommit
    rw [hsession] at h
    cases h
    rw [Write.commit, RelayNodes.add] at hcommit
    split at hcommit
    · cases hcommit
    · cases hcommit
      rw [Write.key, RelayNodes.identityAt_insert, if_pos rfl]
      exact congrArg some hsound
  rw [and_iff_left hcarries, spares_insert_iff hsession, Write.commit, RelayNodes.add]
  cases hkey : t.committed[key]? with
  | some relay => exact iff_of_true hu (fun hnone => by cases hnone)
  | none => exact (hu.insert_iff hkey).trans ⟨fun hnew _ => hnew, fun hspares => hspares rfl⟩

theorem RelayTable.commit_update_iff (hu : t.committed.UniqueNames) {session : Nat}
    {call : RelayCall F} {relayId : Uuid} {beat : Heartbeat F} {now' : Int} (id : Uuid) (now : Int)
    (hsession : t.sessions[session]? = some ⟨call, .written (.update relayId beat now')⟩) :
    RelayNodes.UniqueNames
          (t.committed.after (Write.commit settings t.committed (.update relayId beat now'))) ∧
        t.CarriesReport settings (.next session id now) ↔ t.Spares (.next session id now) := by
  have hunique : RelayNodes.UniqueNames
      (t.committed.after (Write.commit settings t.committed (.update relayId beat now'))) := by
    intro id₁ id₂ a b ha hb
    change RelayNodes.identityAt (t.committed.beat settings relayId beat now') id₁ = some a at ha
    change RelayNodes.identityAt (t.committed.beat settings relayId beat now') id₂ = some b at hb
    rw [RelayNodes.identityAt_beat] at ha hb
    exact hu id₁ id₂ a b ha hb
  rw [and_iff_right hunique, spares_update_iff hsession, RelayTable.CarriesReport, hsession]
  constructor
  · rintro hcarries r beat' rfl
    have hreport := hcarries r beat' _ _ rfl rfl
    rw [RelayNodes.identityAt_beat] at hreport
    exact hreport
  · intro hspares r beat' write db h hcommit
    cases h
    cases hcommit
    rw [RelayNodes.identityAt_beat]
    exact hspares r beat' rfl

/-- A step of a session keeps the names apart and has the report in its row exactly where it is
spared. -/
theorem RelayTable.next_iff (hs : t.Sound) (hu : t.committed.UniqueNames) (session : Nat)
    (id : Uuid) (now : Int) :
    (t.next settings session id now).committed.UniqueNames ∧
        t.CarriesReport settings (.next session id now) ↔ t.Spares (.next session id now) := by
  rw [RelayTable.next]
  cases hsession : t.sessions[session]? with
  | none =>
    have hnothing : ∀ call write, t.sessions[session]? ≠ some ⟨call, .written write⟩ := by
      intro call write h
      rw [hsession] at h
      cases h
    obtain ⟨hcarries, hspares⟩ := spares_of_not_written settings id now hnothing
    exact iff_of_true ⟨hu, hcarries⟩ hspares
  | some s =>
    obtain ⟨call, phase⟩ := s
    dsimp only
    split
    · next write =>
      cases write with
      | insert key node => exact commit_insert_iff hs hu id now hsession
      | update relayId beat now' => exact commit_update_iff hu id now hsession
    · next hphase =>
      have hnothing : ∀ call write, t.sessions[session]? ≠ some ⟨call, .written write⟩ := by
        intro call write h
        rw [hsession] at h
        cases h
        exact hphase write rfl
      obtain ⟨hcarries, hspares⟩ := spares_of_not_written settings id now hnothing
      exact iff_of_true ⟨hu, hcarries⟩ hspares

theorem RelayTable.step_iff (hs : t.Sound) (hu : t.committed.UniqueNames) (op : TableOp F) :
    (t.step settings op).committed.UniqueNames ∧
        (t.NeverFails op ∧ t.CarriesReport settings op) ↔ t.Spares op := by
  cases op with
  | select session call =>
    refine iff_of_true ⟨?_, ?_, trivial⟩ trivial
    · rw [RelayTable.step, RelayTable.select]
      split
      · exact hu
      · split
        · exact hu
        · exact hu
    · cases call with
      | registerRelay r => trivial
      | heartbeatByName r beat =>
        intro _
        exact hu.lookup r.name
  | next session id now =>
    rw [RelayTable.NeverFails]
    · rw [true_and]
      exact next_iff hs hu session id now
    · intro _ _ _ h
      cases h

end Steps

section Alone
variable {F : Type} {t : RelayTable F} {session : Nat} {call : RelayCall F} {phase : CallPhase F}

/-- A session is this far with its call, and this is committed. -/
def RelayTable.At (t : RelayTable F) (session : Nat) (call : RelayCall F) (phase : CallPhase F)
    (db : RelayNodes F) : Prop :=
  t.sessions[session]? = some ⟨call, phase⟩ ∧ t.committed = db

theorem RelayTable.select_at (hfree : t.sessions[session]? = none)
    (h : call.begins t.committed = some phase) :
    (t.select session call).At session call phase t.committed := by
  rw [RelayTable.select, hfree, h]
  exact ⟨by rw [getElem?_insert_eq, if_pos rfl], rfl⟩

theorem RelayTable.select_of_none (h : call.begins t.committed = none) :
    t.select session call = t := by
  rw [RelayTable.select, h]
  split <;> rfl

variable [OfScientific F] [LT F] [DecidableLT F] {settings : Settings F}

theorem RelayTable.At.next {db : RelayNodes F} (h : t.At session call phase db)
    (settings : Settings F) (id : Uuid) (now : Int) (hphase : ∀ write, phase ≠ .written write) :
    (t.next settings session id now).At session call (call.advance settings id now phase) db := by
  rw [RelayTable.next, h.1]
  dsimp only
  split
  · next write => exact (hphase write rfl).elim
  · exact ⟨by rw [getElem?_insert_eq, if_pos rfl], h.2⟩

theorem RelayTable.At.commit {db : RelayNodes F} {write : Write F}
    (h : t.At session call (.written write) db) (settings : Settings F) (id : Uuid) (now : Int) :
    (t.next settings session id now).committed = db.after (write.commit settings db) ∧
      (t.next settings session id now).sessions[session]? = none := by
  rw [RelayTable.next, h.1, ← h.2]
  exact ⟨rfl, by rw [getElem?_erase_eq, if_pos rfl]⟩

theorem RelayTable.next_of_none (h : t.sessions[session]? = none) (id : Uuid) (now : Int) :
    t.next settings session id now = t := by
  rw [RelayTable.next, h]

/-- A registration whose statements nothing comes between is the call of the service. -/
theorem RelayTable.registerRelay_alone (hfree : t.sessions[session]? = none)
    (r : Registration F) (id : Uuid) (now : Int) :
    (t.run settings [.select session (.registerRelay r), .next session id now,
      .next session id now]).committed =
        t.committed.after (registerRelay t.committed id r now) := by
  change (((t.select session (.registerRelay r)).next settings session id now).next settings session
    id now).committed = _
  rw [RelayService.registerRelay]
  cases hrow : scalarOneOrNone (t.committed.addressed r.ip r.port) with
  | error e =>
    have hbegins : (RelayCall.registerRelay r).begins t.committed = none := by
      rw [RelayCall.begins, RelayCall.lookup, hrow]
    rw [select_of_none hbegins, next_of_none hfree, next_of_none hfree]
    rfl
  | ok row =>
    cases row with
    | some e =>
      have hbegins : (RelayCall.registerRelay r).begins t.committed = none := by
        rw [RelayCall.begins, RelayCall.lookup, hrow]
      rw [select_of_none hbegins, next_of_none hfree, next_of_none hfree]
      rfl
    | none =>
      have hbegins : (RelayCall.registerRelay r).begins t.committed = some .absent := by
        rw [RelayCall.begins, RelayCall.lookup, hrow]
      have hinserted := (select_at hfree hbegins).next settings id now
        (fun _ h => by cases h)
      exact (hinserted.commit settings id now).1

theorem RelayTable.heartbeatByName_alone (hfree : t.sessions[session]? = none)
    (r : Registration F) (beat : Heartbeat F) (id : Uuid) (now : Int) :
    (t.run settings [.select session (.heartbeatByName r beat), .next session id now,
      .next session id now, .next session id now]).committed =
        t.committed.after (heartbeatByName settings t.committed id r beat now) := by
  change ((((t.select session (.heartbeatByName r beat)).next settings session id now).next settings
    session id now).next settings session id now).committed = _
  rw [RelayService.heartbeatByName]
  cases hrow : scalarOneOrNone (t.committed.named r.name) with
  | error e =>
    have hbegins : (RelayCall.heartbeatByName r beat).begins t.committed = none := by
      rw [RelayCall.begins, RelayCall.lookup, hrow]
    rw [select_of_none hbegins, next_of_none hfree, next_of_none hfree, next_of_none hfree]
    rfl
  | ok row =>
    cases row with
    | some e =>
      have hbegins : (RelayCall.heartbeatByName r beat).begins t.committed = some (.found e.1) := by
        rw [RelayCall.begins, RelayCall.lookup, hrow]
      have hwritten := (select_at hfree hbegins).next settings id now
        (fun _ h => by cases h)
      obtain ⟨hcommitted, hended⟩ := hwritten.commit settings id now
      rw [next_of_none hended]
      exact hcommitted
    | none =>
      have hbegins : (RelayCall.heartbeatByName r beat).begins t.committed = some .absent := by
        rw [RelayCall.begins, RelayCall.lookup, hrow]
      have hinserted := (select_at hfree hbegins).next settings id now
        (fun _ h => by cases h)
      have hwritten := hinserted.next settings id now (fun _ h => by cases h)
      exact (hwritten.commit settings id now).1

end Alone

def RelayTable.new (F : Type) : RelayTable F := ⟨∅, ∅⟩

/-- A relay has one row, which its heartbeats find and which says of it what they do. -/
structure IdentifiesRelays {F : Type} [OfScientific F] [LT F] [DecidableLT F]
    (settings : Settings F) (ops : List (TableOp F)) : Prop where
  uniqueNames : ∀ ops', ops' <+: ops →
    ((RelayTable.new F).run settings ops').committed.UniqueNames
  neverFails : ∀ ops₁ op, ops₁ ++ [op] <+: ops →
    ((RelayTable.new F).run settings ops₁).NeverFails op
  carriesReport : ∀ ops₁ op, ops₁ ++ [op] <+: ops →
    ((RelayTable.new F).run settings ops₁).CarriesReport settings op

theorem RelayTable.new_sound : (RelayTable.new F).Sound := by
  intro session s h
  change (∅ : Std.TreeMap Nat (Session F))[session]? = some s at h
  rw [Std.TreeMap.getElem?_emptyc] at h
  cases h

theorem RelayTable.new_uniqueNames : (RelayTable.new F).committed.UniqueNames := by
  intro id id' a b ha
  change ((∅ : RelayNodes F)[id]?).map _ = some a at ha
  rw [Std.TreeMap.getElem?_emptyc] at ha
  cases ha

theorem identifies_relays_iff {F : Type} [OfScientific F] [LT F] [DecidableLT F]
    (settings : Settings F) (ops : List (TableOp F)) :
    IdentifiesRelays settings ops ↔
      Guarded (RelayTable.step settings) RelayTable.Spares (RelayTable.new F) ops := by
  rw [← forall_prefix_and_guarded_iff_of (R := fun t op => t.NeverFails op ∧
      t.CarriesReport settings op) RelayTable.new_sound (fun _ op hs => hs.step op)
    RelayTable.new_uniqueNames (fun _ op hs hu => RelayTable.step_iff hs hu op),
    guarded_iff_forall_step]
  constructor
  · intro h
    exact ⟨h.uniqueNames, fun ops₁ op hl => ⟨h.neverFails ops₁ op hl, h.carriesReport ops₁ op hl⟩⟩
  · rintro ⟨hunique, hsteps⟩
    exact ⟨hunique, fun ops₁ op hl => (hsteps ops₁ op hl).1,
      fun ops₁ op hl => (hsteps ops₁ op hl).2⟩

/-- A heartbeat of the relay `a` at an address. -/
def exampleCall (ip : String) : RelayCall ℚ :=
  .heartbeatByName ⟨"a", ip, 51821, "default", none, 1000, 1000.0⟩ ⟨0.1, 0, 0.0⟩

/-- What a call still has to do after its SELECT. -/
def remaining (session : Nat) (id : Uuid) : List (TableOp ℚ) :=
  List.replicate 3 (.next session id 0)

def callAlone (session : Nat) (call : RelayCall ℚ) (id : Uuid) : List (TableOp ℚ) :=
  .select session call :: remaining session id

/-- Two heartbeats of one relay both find no row and both insert one; after a registration of a
relay under another port than it has reported the next heartbeat fails; a heartbeat from another
address leaves the one before. -/
theorem relays_misidentified :
    ¬ IdentifiesRelays exampleSettings ([.select 0 (exampleCall "198.51.100.7"),
        .select 1 (exampleCall "198.51.100.7")] ++ remaining 0 1 ++ remaining 1 2) ∧
      ¬ IdentifiesRelays exampleSettings (callAlone 0 (exampleCall "198.51.100.7") 1 ++
        callAlone 1 (.registerRelay exampleRelay) 2 ++ [.select 2 (exampleCall "198.51.100.7")]) ∧
      ¬ IdentifiesRelays exampleSettings (callAlone 0 (exampleCall "198.51.100.7") 1 ++
        callAlone 1 (exampleCall "198.51.100.8") 2) := by
  refine ⟨?_, ?_, ?_⟩
  · intro h
    have hsame := h.uniqueNames _ (List.prefix_refl _) 1 2 ⟨"a", "198.51.100.7", 51821, "default"⟩
      ⟨"a", "198.51.100.7", 51821, "default"⟩ (by decide +kernel) (by decide +kernel) rfl
    exact absurd hsame (by decide)
  · intro h
    obtain ⟨row, hrow⟩ := h.neverFails (callAlone 0 (exampleCall "198.51.100.7") 1 ++
      callAlone 1 (.registerRelay exampleRelay) 2) (.select 2 (exampleCall "198.51.100.7"))
      (List.prefix_refl _) (by rfl)
    exact absurd (length_of_scalarOneOrNone hrow) (by decide +kernel)
  · intro h
    have hreport := h.carriesReport (callAlone 0 (exampleCall "198.51.100.7") 1 ++
      [.select 1 (exampleCall "198.51.100.8"), .next 1 2 0]) (.next 1 2 0) ⟨[.next 1 2 0], rfl⟩
      _ _ _ _ rfl rfl
    exact absurd hreport (by decide +kernel)

end P2PMesh.RelayService
