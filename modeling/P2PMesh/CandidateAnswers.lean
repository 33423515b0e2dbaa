import P2PMesh.CandidateExchange

namespace P2PMesh.Devices
open P2PMesh.Base
set_option autoImplicit true

/-- The exchange, the user that each device has ever been registered by, and the candidates that
have been registered, the latest first, with their user and their device. -/
structure ExchangeHistory where
  exchange : Exchange
  owners : Std.TreeMap Uuid Uuid
  posts : List ((Uuid × Uuid) × List CandidateEntry)

def ExchangeHistory.new : ExchangeHistory := ⟨.new, ∅, []⟩

section History
variable (uuid : String → Option Uuid) (fits : Device → Bool) (users : Nat → Uuid)
  (h : ExchangeHistory)

/-- What a request puts into the store with its next statement. -/
def CandidateSession.post (db : Rows) (s : CandidateSession) :
    Option ((Uuid × Uuid) × List CandidateEntry) :=
  match s.pending, s.request with
  | none, .registerCandidates _ entries =>
    (s.device uuid db).map (fun e => ((s.userId, e.1), entries))
  | _, _ => none

def ExchangeHistory.ownersAfter : ExchangeOp → Std.TreeMap Uuid Uuid
  | .device (.next n draw) =>
    match (h.exchange.table.next fits n draw).1.committed[draw.id]? with
    | none => h.owners
    | some row => h.owners.insert draw.id row.userId
  | _ => h.owners

def ExchangeHistory.postsAfter : ExchangeOp → List ((Uuid × Uuid) × List CandidateEntry)
  | .next n _ =>
    match h.exchange.sessions[n]? with
    | none => h.posts
    | some s => (s.post uuid h.exchange.table.committed).toList ++ h.posts
  | _ => h.posts

def ExchangeHistory.after (op : ExchangeOp) : ExchangeHistory :=
  ⟨(h.exchange.step uuid fits users op).1, h.ownersAfter fits op, h.postsAfter uuid op⟩

/-- The id that is drawn has never been a device's. -/
def ExchangeHistory.DrawsNew : ExchangeOp → Prop
  | .device (.next _ draw) => h.owners[draw.id]? = none
  | _ => True

/-- A lookup that is answered gives what its user has registered last for the device. -/
def ExchangeHistory.AnswersLatest : ExchangeOp → Prop
  | .next n now => ∀ r ∈ (h.exchange.next uuid fits n now).2, ∀ peerId entries updatedAt id,
    r.2.body = .candidates peerId entries updatedAt → uuid peerId = some id →
      entries = (h.posts.lookup (users n, id)).getD []
  | _ => True

def ExchangeOp.Names (names : Set String) : ExchangeOp → Prop
  | .authenticate _ request => request.deviceId ∈ names
  | _ => True

end History

section Ownership
variable {fits : Device → Bool} {t : DeviceTable} {n : Nat} {draw : Draw}

theorem DeviceTable.userId_next {id : Uuid} {row : Device}
    (hrow : (t.next fits n draw).1.committed[id]? = some row) :
    id = draw.id ∨ id ≠ draw.id ∧
      ∃ stored, t.committed[id]? = some stored ∧ row.userId = stored.userId := by
  by_cases hid : id = draw.id
  · exact .inl hid
  refine .inr ⟨hid, ?_⟩
  rw [DeviceTable.next] at hrow
  cases hs : t.sessions[n]? with
  | none =>
    rw [hs] at hrow
    exact ⟨row, hrow, rfl⟩
  | some s =>
    rw [hs] at hrow
    dsimp only at hrow
    cases hnext : s.advance t.committed fits draw with
    | commit write r =>
      rw [hnext] at hrow
      dsimp only at hrow
      rw [Write.getElem?_apply] at hrow
      split at hrow
      next hwrite =>
        rcases Session.advance_commit hnext with ⟨data, -, hregister⟩ |
          ⟨deviceId, data, -, hbeat⟩ | ⟨deviceId, -, hdelete⟩
        · obtain ⟨-, -, -, rfl⟩ := Session.register_commit hregister
          exact (hid hwrite.symm).elim
        · obtain ⟨id', loaded, stored, -, -, hstored, -, rfl⟩ := Session.beat_commit hbeat
          cases hrow
          cases hwrite
          exact ⟨stored, hstored, rfl⟩
        · obtain ⟨id', device, -, -, rfl⟩ := Session.delete_commit hdelete
          cases hrow
      next => exact ⟨row, hrow, rfl⟩
    | _ =>
      rw [hnext] at hrow
      exact ⟨row, hrow, rfl⟩

end Ownership

/-- The store has what has been registered last for each device, under a name of the device. -/
structure Stored (uuid : String → Option Uuid) (names : Set String)
    (owners : Std.TreeMap Uuid Uuid) (candidates : CandidateStore)
    (posts : List ((Uuid × Uuid) × List CandidateEntry)) : Prop where
  posted : ∀ text entries, candidates[text]? = some entries → text ∈ names ∧
    ∃ id userId, uuid text = some id ∧ owners[id]? = some userId ∧
      posts.lookup (userId, id) = some entries
  kept : ∀ userId id entries, posts.lookup (userId, id) = some entries →
    owners[id]? = some userId ∧
      ∃ text ∈ names, uuid text = some id ∧ candidates[text]? = some entries

section Store
variable {uuid : String → Option Uuid} {names : Set String} {owners owners' : Std.TreeMap Uuid Uuid}
  {candidates : CandidateStore} {posts : List ((Uuid × Uuid) × List CandidateEntry)}
  {text : String} {id userId : Uuid} {entries : List CandidateEntry}

/-- Each device has one name. -/
def OneName (uuid : String → Option Uuid) (names : Set String) : Prop :=
  ∀ text ∈ names, ∀ text' ∈ names, ∀ id, uuid text = some id → uuid text' = some id → text = text'

theorem Stored.mono (h : Stored uuid names owners candidates posts)
    (howners : ∀ (id : Uuid) userId, owners[id]? = some userId → owners'[id]? = some userId) :
    Stored uuid names owners' candidates posts where
  posted := by
    intro text entries hentry
    obtain ⟨hname, id, userId, hid, howner, hpost⟩ := h.posted text entries hentry
    exact ⟨hname, id, userId, hid, howners id userId howner, hpost⟩
  kept := by
    intro userId id entries hpost
    obtain ⟨howner, hentry⟩ := h.kept userId id entries hpost
    exact ⟨howners id userId howner, hentry⟩

theorem Stored.post (h : Stored uuid names owners candidates posts) (hone : OneName uuid names)
    (hname : text ∈ names) (hid : uuid text = some id) (howner : owners[id]? = some userId) :
    Stored uuid names owners (candidates.insert text entries)
      (((userId, id), entries) :: posts) where
  posted := by
    intro text' entries' hentry
    rw [getElem?_insert_eq] at hentry
    split at hentry
    next htext =>
      cases htext
      cases hentry
      exact ⟨hname, id, userId, hid, howner, List.lookup_cons_self⟩
    next htext =>
      obtain ⟨hname', id', userId', hid', howner', hpost⟩ := h.posted text' entries' hentry
      refine ⟨hname', id', userId', hid', howner', ?_⟩
      have hne : ((userId', id') == (userId, id)) = false := by
        apply beq_eq_false_iff_ne.mpr
        intro he
        cases he
        exact htext (hone text hname text' hname' id hid hid')
      rw [List.lookup_cons, hne]
      exact hpost
  kept := by
    intro userId' id' entries' hpost
    rw [List.lookup_cons] at hpost
    by_cases hkey : (userId', id') = (userId, id)
    · rw [beq_iff_eq.mpr hkey] at hpost
      cases hkey
      cases hpost
      exact ⟨howner, text, hname, hid, by rw [getElem?_insert_eq, if_pos rfl]⟩
    · rw [beq_eq_false_iff_ne.mpr hkey] at hpost
      obtain ⟨howner', text', hname', hid', hentry⟩ := h.kept userId' id' entries' hpost
      refine ⟨howner', text', hname', hid', ?_⟩
      rw [getElem?_insert_of_ne _ _ ?_]
      · exact hentry
      · rintro rfl
        cases hid.symm.trans hid'
        cases howner.symm.trans howner'
        exact hkey rfl

theorem Stored.getD_eq (h : Stored uuid names owners candidates posts) (hone : OneName uuid names)
    (hname : text ∈ names) (hid : uuid text = some id) (howner : owners[id]? = some userId) :
    candidates[text]?.getD [] = (posts.lookup (userId, id)).getD [] := by
  cases hentry : candidates[text]? with
  | some entries =>
    obtain ⟨-, id', userId', hid', howner', hpost⟩ := h.posted text entries hentry
    cases hid.symm.trans hid'
    cases howner.symm.trans howner'
    rw [hpost]
  | none =>
    cases hpost : posts.lookup (userId, id) with
    | none => rfl
    | some entries =>
      obtain ⟨-, text', hname', hid', hentry'⟩ := h.kept userId id entries hpost
      cases hone text hname text' hname' id hid hid'
      cases hentry.symm.trans hentry'

end Store

/-- A request of a user with one of the names; a lookup has no UPDATE before it. -/
structure CandidateSession.Of (names : Set String) (userId : Uuid) (s : CandidateSession) :
    Prop where
  user : s.userId = userId
  name : s.request.deviceId ∈ names
  reading : ∀ peerId, s.request = .getPeerCandidates peerId → s.pending = none

section Advance
variable {uuid : String → Option Uuid} {names : Set String} {owners : Std.TreeMap Uuid Uuid}
  {candidates candidates' : CandidateStore} {posts : List ((Uuid × Uuid) × List CandidateEntry)}
  {db : Rows} {s s' : CandidateSession} {fits : Device → Bool} {now : Int} {userId id : Uuid}
  {loaded : Device} {r : CandidateResponse}

theorem CandidateSession.device_eq_some (h : s.device uuid db = some (id, loaded)) :
    uuid s.request.deviceId = some id ∧ ∃ row, db[id]? = some row ∧ row.userId = s.userId := by
  rw [CandidateSession.device] at h
  cases hid : uuid s.request.deviceId with
  | none =>
    rw [hid] at h
    cases h
  | some id' =>
    rw [hid] at h
    obtain ⟨row, hrow, he⟩ := Option.map_eq_some_iff.mp h
    cases he
    obtain ⟨hrow, hown⟩ := Option.filter_eq_some_iff.mp hrow
    exact ⟨rfl, row, hrow, of_decide_eq_true hown⟩

theorem CandidateSession.device_of_row {row : Device} (hid : uuid s.request.deviceId = some id)
    (hrow : db[id]? = some row) (hown : row.userId = s.userId) :
    s.device uuid db = some (id, (s.loaded.lookup id).getD row) := by
  rw [CandidateSession.device, hid]
  dsimp only
  rw [hrow, Option.filter_some, decide_eq_true hown, if_pos rfl]
  rfl

theorem Columns.update_empty : Columns.update {} loaded loaded = loaded := rfl

theorem CandidateRequest.candidates_accepted {request : CandidateRequest} {peerId : String}
    {entries : List CandidateEntry} {updatedAt : Int}
    (h : (request.accepted candidates now).body = .candidates peerId entries updatedAt) :
    request = .getPeerCandidates peerId ∧ entries = candidates[peerId]?.getD [] := by
  cases request with
  | getPeerCandidates peerId' =>
    cases h
    exact ⟨rfl, rfl⟩
  | _ => cases h

/-- How a request goes on after a statement, and what it makes of the store. -/
inductive CandidateSession.Advances (uuid : String → Option Uuid) (db : Rows)
    (candidates : CandidateStore) (now : Int) (s : CandidateSession) :
    CandidateStore → CandidateNext → Prop
  | refused (r : CandidateResponse) (hpost : s.post uuid db = none)
      (hr : ∀ peerId entries updatedAt, r.body ≠ .candidates peerId entries updatedAt) :
      s.Advances uuid db candidates now candidates (.respond r)
  | answered (id : Uuid) (loaded : Device) (hpending : s.pending = none)
      (hdevice : s.device uuid db = some (id, loaded)) :
      s.Advances uuid db candidates now (s.request.store candidates)
        (.respond (s.request.accepted candidates now))
  | held (id : Uuid) (loaded : Device) (hpending : s.pending = none)
      (hdevice : s.device uuid db = some (id, loaded))
      (hcolumns : s.request.columns.update loaded loaded ≠ loaded) :
      s.Advances uuid db candidates now (s.request.store candidates)
        (.proceed { s with pending := some (id, loaded, s.request.columns) })
  | flushed (id : Uuid) (stored row : Device) (hpending : s.pending ≠ none)
      (hstored : db[id]? = some stored) (hrow : row.userId = stored.userId) :
      s.Advances uuid db candidates now candidates
        (.commit ⟨id, some row⟩ (s.request.accepted candidates now))

def CandidateNext.answer : CandidateNext → Option CandidateResponse
  | .proceed _ => none
  | .respond r => some r
  | .commit _ r => some r

theorem CandidateSession.post_of_pending (h : s.pending ≠ none) : s.post uuid db = none := by
  rw [CandidateSession.post]
  split
  next hnone _ => exact (h hnone).elim
  next => rfl

theorem CandidateSession.post_of_device (h : s.device uuid db = none) :
    s.post uuid db = none := by
  rw [CandidateSession.post, h]
  split
  next => rfl
  next => rfl

theorem CandidateSession.advances : s.Advances uuid db candidates now
    (s.advance uuid db candidates fits now).1 (s.advance uuid db candidates fits now).2 := by
  rw [CandidateSession.advance]
  cases hpending : s.pending with
  | none =>
    dsimp only
    rw [CandidateSession.select]
    cases hid : uuid s.request.deviceId with
    | none =>
      have hdevice : s.device uuid db = none := by
        rw [CandidateSession.device, hid]
      exact .refused _ (post_of_device hdevice) (fun _ _ _ h => nomatch h)
    | some id =>
      dsimp only
      cases hdevice : s.device uuid db with
      | none =>
        refine .refused _ (post_of_device hdevice) ?_
        intro peerId entries updatedAt h
        cases hreq : s.request <;> rw [hreq] at h <;> cases h
      | some e =>
        dsimp only
        split
        next => exact .answered e.1 e.2 hpending hdevice
        next hcolumns => exact .held e.1 e.2 hpending hdevice hcolumns
  | some e =>
    have hne : s.pending ≠ none := by
      rw [hpending]
      exact Option.some_ne_none e
    have hpost : s.post uuid db = none := post_of_pending hne
    obtain ⟨id, loaded, columns⟩ := e
    dsimp only
    rw [CandidateSession.flush]
    cases hstored : db[id]? with
    | none => exact .refused _ hpost (fun _ _ _ h => nomatch h)
    | some stored =>
      dsimp only
      split
      next => exact .flushed id stored _ hne hstored rfl
      next => exact .refused _ hpost (fun _ _ _ h => nomatch h)

theorem Stored.advance (h : Stored uuid names owners candidates posts) (hone : OneName uuid names)
    (howned : ∀ (id : Uuid) row, db[id]? = some row → owners[id]? = some row.userId)
    (hs : s.request.deviceId ∈ names)
    (hstep : s.Advances uuid db candidates now candidates' next) :
    Stored uuid names owners candidates' ((s.post uuid db).toList ++ posts) := by
  have hselected : ∀ id loaded, s.pending = none → s.device uuid db = some (id, loaded) →
      Stored uuid names owners (s.request.store candidates)
        ((s.post uuid db).toList ++ posts) := by
    intro id loaded hpending hdevice
    obtain ⟨hid, row, hrow, hown⟩ := CandidateSession.device_eq_some hdevice
    rw [CandidateSession.post, hpending, hdevice]
    cases hreq : s.request with
    | registerCandidates deviceId entries =>
      rw [hreq] at hs hid
      exact h.post hone hs hid (hown ▸ howned id row hrow)
    | _ => exact h
  cases hstep with
  | refused r hpost hr =>
    rw [hpost]
    exact h
  | answered id loaded hpending hdevice => exact hselected id loaded hpending hdevice
  | held id loaded hpending hdevice => exact hselected id loaded hpending hdevice
  | flushed id stored row hpending =>
    rw [CandidateSession.post_of_pending hpending]
    exact h

theorem CandidateSession.Of.held (h : s.Of names userId) {pending : Uuid × Device × Columns}
    (hcolumns : s.request.columns.update loaded loaded ≠ loaded) :
    CandidateSession.Of names userId { s with pending := some pending } where
  user := h.user
  name := h.name
  reading := by
    intro peerId hreq
    dsimp only at hreq
    rw [hreq] at hcolumns
    exact (hcolumns Columns.update_empty).elim

/-- A request that is answered with candidates is answered with those that its user has registered
last for the device. -/
theorem Stored.answer (h : Stored uuid names owners candidates posts) (hone : OneName uuid names)
    (howned : ∀ (id : Uuid) row, db[id]? = some row → owners[id]? = some row.userId)
    (hs : s.Of names userId) (hstep : s.Advances uuid db candidates now candidates' next)
    (hnext : next.answer = some r) {peerId : String} {entries : List CandidateEntry}
    {updatedAt : Int} (hr : r.body = .candidates peerId entries updatedAt)
    (hid : uuid peerId = some id) : entries = (posts.lookup (userId, id)).getD [] := by
  cases hstep with
  | refused r' hpost hrefused =>
    cases hnext
    exact (hrefused peerId entries updatedAt hr).elim
  | answered id' loaded hpending hdevice =>
    cases hnext
    obtain ⟨hreq, rfl⟩ := CandidateRequest.candidates_accepted hr
    obtain ⟨hid', row, hrow, hown⟩ := CandidateSession.device_eq_some hdevice
    have hname := hs.name
    rw [hreq] at hid' hname
    cases hid.symm.trans hid'
    exact h.getD_eq hone hname hid (hs.user ▸ hown ▸ howned id row hrow)
  | held => cases hnext
  | flushed id' stored row hpending =>
    cases hnext
    obtain ⟨hreq, -⟩ := CandidateRequest.candidates_accepted hr
    exact (hpending (hs.reading peerId hreq)).elim

end Advance

structure ExchangeHistory.Consistent (uuid : String → Option Uuid) (users : Nat → Uuid)
    (names : Set String) (h : ExchangeHistory) : Prop where
  owned : ∀ (id : Uuid) row, h.exchange.table.committed[id]? = some row →
    h.owners[id]? = some row.userId
  session : ∀ (n : Nat) s, h.exchange.sessions[n]? = some s → s.Of names (users n)
  stored : Stored uuid names h.owners h.exchange.candidates h.posts

section Runs
variable {uuid : String → Option Uuid} {fits : Device → Bool} {users : Nat → Uuid}
  {names : Set String} {h : ExchangeHistory}

theorem ExchangeHistory.Consistent.device (hc : h.Consistent uuid users names) {op : DeviceOp}
    (hnew : h.DrawsNew (.device op)) : (h.after uuid fits users (.device op)).Consistent uuid users
      names := by
  cases op with
  | authenticate n isAdmin request =>
    refine ⟨?_, hc.session, hc.stored⟩
    intro id row hrow
    change (h.exchange.table.authenticate users n isAdmin request).committed[id]? = some row at hrow
    rw [DeviceTable.authenticate] at hrow
    split at hrow
    next => exact hc.owned id row hrow
    next => exact hc.owned id row hrow
  | next n draw =>
    have howners : ∀ (id : Uuid) userId, h.owners[id]? = some userId →
        (h.ownersAfter fits (.device (.next n draw)))[id]? = some userId := by
      intro id userId howner
      rw [ExchangeHistory.ownersAfter]
      split
      next => exact howner
      next =>
        rw [getElem?_insert_of_ne _ _ ?_]
        · exact howner
        · rintro rfl
          cases hnew.symm.trans howner
    refine ⟨?_, hc.session, hc.stored.mono howners⟩
    intro id row hrow
    change (h.exchange.table.next fits n draw).1.committed[id]? = some row at hrow
    rcases DeviceTable.userId_next hrow with rfl | ⟨-, stored, hstored, huser⟩
    · change (h.ownersAfter fits (.device (.next n draw)))[draw.id]? = some row.userId
      rw [ExchangeHistory.ownersAfter, hrow]
      dsimp only
      rw [getElem?_insert_eq, if_pos rfl]
    · rw [huser]
      exact howners id stored.userId (hc.owned id stored hstored)

theorem ExchangeHistory.Consistent.authenticate (hc : h.Consistent uuid users names) {n : Nat}
    {request : CandidateRequest} (hname : request.deviceId ∈ names) :
    (h.after uuid fits users (.authenticate n request)).Consistent uuid users names := by
  have hafter : (h.after uuid fits users (.authenticate n request)).exchange =
      h.exchange.authenticate users n request := rfl
  rw [Exchange.authenticate] at hafter
  cases hs : h.exchange.sessions[n]? with
  | some s =>
    rw [hs] at hafter
    dsimp only at hafter
    refine ⟨?_, ?_, ?_⟩
    all_goals rw [hafter]
    · exact hc.owned
    · exact hc.session
    · exact hc.stored
  | none =>
    rw [hs] at hafter
    dsimp only at hafter
    refine ⟨?_, ?_, ?_⟩
    all_goals rw [hafter]
    · exact hc.owned
    · intro m s hm
      dsimp only at hm
      rw [getElem?_insert_eq] at hm
      split at hm
      next hmn =>
        cases hmn
        cases hm
        exact ⟨rfl, hname, fun _ _ => rfl⟩
      next => exact hc.session m s hm
    · exact hc.stored

theorem ExchangeHistory.Consistent.next (hc : h.Consistent uuid users names)
    (hone : OneName uuid names) (n : Nat) (now : Int) :
    (h.after uuid fits users (.next n now)).Consistent uuid users names ∧
      h.AnswersLatest uuid fits users (.next n now) := by
  have hafter : h.after uuid fits users (.next n now) = ⟨(h.exchange.next uuid fits n now).1,
      h.owners, h.postsAfter uuid (.next n now)⟩ := rfl
  rw [hafter, ExchangeHistory.postsAfter, ExchangeHistory.AnswersLatest, Exchange.next]
  cases hs : h.exchange.sessions[n]? with
  | none => exact ⟨⟨hc.owned, hc.session, hc.stored⟩, fun _ hr => nomatch hr⟩
  | some s =>
    have hof := hc.session n s hs
    have hadvance : s.Advances uuid h.exchange.table.committed h.exchange.candidates now
        (s.advance uuid h.exchange.table.committed h.exchange.candidates fits now).1
        (s.advance uuid h.exchange.table.committed h.exchange.candidates fits now).2 :=
      CandidateSession.advances
    have hstored := hc.stored.advance hone hc.owned hof.name hadvance
    have herased : ∀ (m : Nat) u, (h.exchange.sessions.erase n)[m]? = some u →
        u.Of names (users m) := by
      intro m u hu
      rw [getElem?_erase_eq] at hu
      split at hu
      next => cases hu
      next => exact hc.session m u hu
    dsimp only
    generalize s.advance uuid h.exchange.table.committed h.exchange.candidates fits now = p
      at hadvance hstored
    obtain ⟨candidates, next⟩ := p
    cases next with
    | proceed s' =>
      refine ⟨⟨hc.owned, ?_, hstored⟩, fun _ hr => nomatch hr⟩
      intro m u hu
      dsimp only at hu
      rw [getElem?_insert_eq] at hu
      split at hu
      next hmn =>
        cases hmn
        cases hu
        cases hadvance with
        | held id loaded hpending hdevice hcolumns => exact hof.held hcolumns
      next => exact hc.session m u hu
    | respond r =>
      refine ⟨⟨hc.owned, herased, hstored⟩, ?_⟩
      intro e he peerId entries updatedAt id hbody hid
      cases List.mem_singleton.mp he
      exact hc.stored.answer hone hc.owned hof hadvance rfl hbody hid
    | commit write r =>
      refine ⟨⟨?_, herased, hstored⟩, ?_⟩
      · intro id row hrow
        cases hadvance with
        | flushed id' stored row' hpending hstored' huser =>
          dsimp only at hrow
          rw [Write.getElem?_apply] at hrow
          split at hrow
          next hid =>
            cases hid
            cases hrow
            rw [huser]
            exact hc.owned id' stored hstored'
          next => exact hc.owned id row hrow
      · intro e he peerId entries updatedAt id hbody hid
        cases List.mem_singleton.mp he
        exact hc.stored.answer hone hc.owned hof hadvance rfl hbody hid

/-- With one name for each device every lookup is answered with what has been registered last. -/
theorem ExchangeHistory.answersLatest_of_oneName (hone : OneName uuid names)
    {ops : List ExchangeOp} (hnames : ∀ op ∈ ops, op.Names names)
    (hnew : Guarded (ExchangeHistory.after uuid fits users) ExchangeHistory.DrawsNew
      ExchangeHistory.new ops) :
    Guarded (ExchangeHistory.after uuid fits users) (ExchangeHistory.AnswersLatest uuid fits users)
      ExchangeHistory.new ops := by
  have hc : ExchangeHistory.new.Consistent uuid users names := by
    refine ⟨?_, ?_, ⟨?_, ?_⟩⟩
    · intro id row hrow
      cases Std.TreeMap.getElem?_emptyc.symm.trans hrow
    · intro n s hs
      cases Std.TreeMap.getElem?_emptyc.symm.trans hs
    · intro text entries hentry
      cases Std.TreeMap.getElem?_emptyc.symm.trans hentry
    · intro userId id entries hpost
      cases hpost
  have hstep : ∀ (h : ExchangeHistory) op, h.Consistent uuid users names →
      h.DrawsNew op ∧ op.Names names → (h.after uuid fits users op).Consistent uuid users names ∧
        h.AnswersLatest uuid fits users op := by
    intro h op hc hok
    cases op with
    | device op => exact ⟨hc.device hok.1, trivial⟩
    | authenticate n request => exact ⟨hc.authenticate hok.2, trivial⟩
    | next n now => exact hc.next hone n now
  have hnamed : Guarded (ExchangeHistory.after uuid fits users) (fun _ op => op.Names names)
      ExchangeHistory.new ops := Guarded.of_forall (fun _ op hop => hnames op hop)
  have hiff : Guarded (ExchangeHistory.after uuid fits users)
        (fun h op => h.DrawsNew op ∧ op.Names names) ExchangeHistory.new ops ↔
      Guarded (ExchangeHistory.after uuid fits users)
        (fun h op => (h.DrawsNew op ∧ op.Names names) ∧ h.AnswersLatest uuid fits users op)
        ExchangeHistory.new ops :=
    guarded_congr_of_guarded (I := fun h => h.Consistent uuid users names) hc
      (fun h op hc hok => (hstep h op hc hok).1)
      (fun h op hc => ⟨fun hok => ⟨hok, (hstep h op hc hok).2⟩, And.left⟩)
  exact (guarded_and.mp (hiff.mp (guarded_and.mpr ⟨hnew, hnamed⟩))).2

/-- A user registers a device, then a candidate of it under one name, and looks the candidates up
under another. -/
def renamedLookup (data : DeviceRegister) (id : Uuid) (text text' : String) : List ExchangeOp :=
  [.device (.authenticate 0 false (.registerDevice data)), .device (.next 0 ⟨id, 0, false, none⟩),
    .device (.next 0 ⟨id, 0, false, none⟩),
    .authenticate 0 (.registerCandidates text [⟨"", "host", 0⟩]), .next 0 0,
    .authenticate 0 (.getPeerCandidates text'), .next 0 0]

theorem CandidateSession.advance_of_columns {db : Rows} {candidates : CandidateStore}
    {s : CandidateSession} {now : Int} {e : Uuid × Device} (hpending : s.pending = none)
    (hdevice : s.device uuid db = some e) (hcolumns : s.request.columns = {}) :
    s.advance uuid db candidates fits now =
      (s.request.store candidates, .respond (s.request.accepted candidates now)) := by
  obtain ⟨hid, -⟩ := CandidateSession.device_eq_some hdevice
  rw [CandidateSession.advance, hpending]
  dsimp only
  rw [CandidateSession.select, hid]
  dsimp only
  rw [hdevice]
  dsimp only
  rw [hcolumns, if_pos Columns.update_empty]

theorem Exchange.next_of_columns {x : Exchange} {n : Nat} {s : CandidateSession} {now : Int}
    {e : Uuid × Device} (hs : x.sessions[n]? = some s) (hpending : s.pending = none)
    (hdevice : s.device uuid x.table.committed = some e) (hcolumns : s.request.columns = {}) :
    x.next uuid fits n now = (⟨x.table, s.request.store x.candidates, x.sessions.erase n⟩,
      [(n, s.request.accepted x.candidates now)]) := by
  rw [Exchange.next, hs]
  dsimp only
  rw [CandidateSession.advance_of_columns hpending hdevice hcolumns]

theorem ExchangeHistory.after_authenticate {n : Nat} {request : CandidateRequest}
    (hs : h.exchange.sessions[n]? = none) : h.after uuid fits users (.authenticate n request) =
      ⟨⟨h.exchange.table, h.exchange.candidates, h.exchange.sessions.insert n
        ⟨users n, request, h.exchange.table.committed.ownedBy (users n), none⟩⟩, h.owners,
          h.posts⟩ := by
  rw [ExchangeHistory.after, Exchange.step, Exchange.authenticate, hs]
  rfl

theorem ExchangeHistory.after_next {n : Nat} {s : CandidateSession} {now : Int}
    {e : Uuid × Device} (hs : h.exchange.sessions[n]? = some s) (hpending : s.pending = none)
    (hdevice : s.device uuid h.exchange.table.committed = some e)
    (hcolumns : s.request.columns = {}) : h.after uuid fits users (.next n now) =
      ⟨⟨h.exchange.table, s.request.store h.exchange.candidates, h.exchange.sessions.erase n⟩,
        h.owners, (s.post uuid h.exchange.table.committed).toList ++ h.posts⟩ := by
  rw [ExchangeHistory.after, ExchangeHistory.postsAfter, Exchange.step,
    Exchange.next_of_columns hs hpending hdevice hcolumns, hs]
  rfl

section Renamed
variable {data : DeviceRegister} {id : Uuid} {text text' : String}

theorem ExchangeHistory.after_registerDevice (hfits : fits (data.device (users 0) 0) = true) :
    let sessions := ((∅ : Std.TreeMap Nat Session).insert 0
      ⟨users 0, false, .registerDevice data, [], .authenticated⟩).insert 0
        ⟨users 0, false, .registerDevice data, [], .absent⟩
    ExchangeHistory.after uuid fits users ⟨⟨⟨∅, sessions⟩, ∅, ∅⟩, ∅, []⟩
        (.device (.next 0 ⟨id, 0, false, none⟩)) =
      ⟨⟨⟨(∅ : Rows).insert id (data.device (users 0) 0), sessions.erase 0⟩, ∅, ∅⟩,
        (∅ : Std.TreeMap Uuid Uuid).insert id (users 0), []⟩ := by
  intro sessions
  have hadvance : Session.advance ∅ ⟨users 0, false, .registerDevice data, [], .absent⟩ fits
      ⟨id, 0, false, none⟩ = .commit ⟨id, some (data.device (users 0) 0)⟩
        ⟨201, .device id (data.device (users 0) 0)⟩ := by
    change (if _ ∨ fits (data.device (users 0) 0) = false then _ else _) = _
    rw [hfits]
    rfl
  have hs : sessions[0]? = some ⟨users 0, false, .registerDevice data, [], .absent⟩ := rfl
  have hnext : DeviceTable.next fits ⟨∅, sessions⟩ 0 ⟨id, 0, false, none⟩ =
      (⟨(∅ : Rows).insert id (data.device (users 0) 0), sessions.erase 0⟩,
        [(0, ⟨201, .device id (data.device (users 0) 0)⟩)]) := by
    rw [DeviceTable.next]
    dsimp only
    rw [hs]
    dsimp only
    rw [hadvance]
    rfl
  rw [ExchangeHistory.after, ExchangeHistory.ownersAfter, Exchange.step, DeviceTable.after,
    DeviceTable.step]
  dsimp only
  rw [hnext]
  dsimp only
  rw [getElem?_insert_eq, if_pos rfl]
  rfl

/-- What is registered under one name of a device is not found under another that is new. -/
theorem ExchangeHistory.not_answersLatest {r : Device}
    (hsessions : h.exchange.sessions[0]? = none)
    (hrow : h.exchange.table.committed[id]? = some r) (hown : r.userId = users 0)
    (hnone : h.exchange.candidates[text']? = none) (hid : uuid text = some id)
    (hid' : uuid text' = some id) (hne : text ≠ text') :
    ¬ ((((h.after uuid fits users
      (.authenticate 0 (.registerCandidates text [⟨"", "host", 0⟩]))).after uuid fits users
        (.next 0 0)).after uuid fits users
          (.authenticate 0 (.getPeerCandidates text'))).AnswersLatest uuid fits users
            (.next 0 0)) := by
  let session (request : CandidateRequest) : CandidateSession :=
    ⟨users 0, request, h.exchange.table.committed.ownedBy (users 0), none⟩
  let register := session (.registerCandidates text [⟨"", "host", 0⟩])
  let get := session (.getPeerCandidates text')
  let begun : ExchangeHistory := ⟨⟨h.exchange.table, h.exchange.candidates,
    h.exchange.sessions.insert 0 register⟩, h.owners, h.posts⟩
  let posted : ExchangeHistory := ⟨⟨h.exchange.table, register.request.store h.exchange.candidates,
    begun.exchange.sessions.erase 0⟩, h.owners, ((users 0, id), [⟨"", "host", 0⟩]) :: h.posts⟩
  let asked : ExchangeHistory := ⟨⟨h.exchange.table, posted.exchange.candidates,
    posted.exchange.sessions.insert 0 get⟩, h.owners, posted.posts⟩
  have hregister := CandidateSession.device_of_row (s := register) hid hrow hown
  have hget := CandidateSession.device_of_row (s := get) hid' hrow hown
  have hbegun : begun.exchange.sessions[0]? = some register := getElem?_insert_eq _ _ _ _
  have hposted : posted.exchange.sessions[0]? = none := getElem?_erase_eq _ _ _
  have hasked : asked.exchange.sessions[0]? = some get := getElem?_insert_eq _ _ _ _
  have hpost : register.post uuid begun.exchange.table.committed =
      some ((users 0, id), [⟨"", "host", 0⟩]) := by
    change (register.device uuid h.exchange.table.committed).map _ = _
    rw [hregister]
    rfl
  have hnext : begun.after uuid fits users (.next 0 0) = posted := by
    rw [ExchangeHistory.after_next hbegun rfl hregister rfl, hpost]
    rfl
  have hfirst : h.after uuid fits users
      (.authenticate 0 (.registerCandidates text [⟨"", "host", 0⟩])) = begun :=
    ExchangeHistory.after_authenticate hsessions
  have hsecond : posted.after uuid fits users (.authenticate 0 (.getPeerCandidates text')) =
      asked := ExchangeHistory.after_authenticate hposted
  rw [hfirst, hnext, hsecond, ExchangeHistory.AnswersLatest,
    Exchange.next_of_columns hasked rfl hget rfl]
  intro hlatest
  have hanswer := hlatest _ (List.mem_singleton_self _) text' _ 0 id rfl hid'
  change (h.exchange.candidates.insert text _)[text']?.getD [] =
    (List.lookup (users 0, id) (((users 0, id), [⟨"", "host", 0⟩]) :: h.posts)).getD [] at hanswer
  rw [getElem?_insert_of_ne _ _ hne, hnone, List.lookup_cons_self] at hanswer
  cases hanswer

end Renamed

end Runs

/-- In all runs whose requests name devices in some ways, lookups are answered with what their
user has registered last for the device, if and only if each device is named in one way. -/
theorem ExchangeHistory.run_answersLatest_iff (uuid : String → Option Uuid) (fits : Device → Bool)
    (users : Nat → Uuid) (names : Set String) (data : DeviceRegister)
    (hfits : ∀ userId now, fits (data.device userId now) = true) :
    (∀ ops : List ExchangeOp, (∀ op ∈ ops, op.Names names) →
      Guarded (ExchangeHistory.after uuid fits users) ExchangeHistory.DrawsNew ExchangeHistory.new
        ops →
      Guarded (ExchangeHistory.after uuid fits users)
        (ExchangeHistory.AnswersLatest uuid fits users) ExchangeHistory.new ops) ↔
      OneName uuid names := by
  constructor
  · intro hall text hname text' hname' id hid hid'
    by_contra hne
    have hdraws : Guarded (ExchangeHistory.after uuid fits users) ExchangeHistory.DrawsNew
        ExchangeHistory.new (renamedLookup data id text text') :=
      ⟨trivial, rfl, rfl, trivial, trivial, trivial, trivial, trivial⟩
    have hnames : ∀ op ∈ renamedLookup data id text text', op.Names names := by
      simp [renamedLookup, ExchangeOp.Names, CandidateRequest.deviceId, hname, hname']
    obtain ⟨-, -, -, -, -, -, hlast, -⟩ := hall _ hnames hdraws
    have hbegin : ExchangeHistory.new.after uuid fits users
        (.device (.authenticate 0 false (.registerDevice data))) =
          ⟨⟨⟨∅, (∅ : Std.TreeMap Nat Session).insert 0
            ⟨users 0, false, .registerDevice data, [], .authenticated⟩⟩, ∅, ∅⟩, ∅, []⟩ := rfl
    have habsent : ExchangeHistory.after uuid fits users
        ⟨⟨⟨∅, (∅ : Std.TreeMap Nat Session).insert 0
          ⟨users 0, false, .registerDevice data, [], .authenticated⟩⟩, ∅, ∅⟩, ∅, []⟩
        (.device (.next 0 ⟨id, 0, false, none⟩)) =
          ⟨⟨⟨∅, ((∅ : Std.TreeMap Nat Session).insert 0
            ⟨users 0, false, .registerDevice data, [], .authenticated⟩).insert 0
              ⟨users 0, false, .registerDevice data, [], .absent⟩⟩, ∅, ∅⟩, ∅, []⟩ := rfl
    rw [hbegin, habsent, ExchangeHistory.after_registerDevice (hfits (users 0) 0)] at hlast
    refine ExchangeHistory.not_answersLatest (r := data.device (users 0) 0) rfl ?_ rfl rfl hid
      hid' hne hlast
    dsimp only
    rw [getElem?_insert_eq, if_pos rfl]
  · intro hone ops hnames hnew
    exact ExchangeHistory.answersLatest_of_oneName hone hnames hnew

/-- An id in small letters, and in capital ones. -/
def smallName : String := "f47ac10b-58cc-4372-a567-0e02b2c3d479"
def capitalName : String := "F47AC10B-58CC-4372-A567-0E02B2C3D479"

def namedUuid (text : String) : Option Uuid :=
  if text = smallName ∨ text = capitalName then some 0xf47ac10b58cc4372a5670e02b2c3d479 else none

/-- A device whose id is written in two ways is not found by the second. -/
theorem ExchangeHistory.run_answersLatest_cases :
    ¬ ∀ ops : List ExchangeOp, (∀ op ∈ ops, op.Names {smallName, capitalName}) →
      Guarded (ExchangeHistory.after namedUuid (fun _ => true) (BitVec.ofNat 128))
        ExchangeHistory.DrawsNew ExchangeHistory.new ops →
      Guarded (ExchangeHistory.after namedUuid (fun _ => true) (BitVec.ofNat 128))
        (ExchangeHistory.AnswersLatest namedUuid (fun _ => true) (BitVec.ofNat 128))
        ExchangeHistory.new ops := by
  rw [ExchangeHistory.run_answersLatest_iff namedUuid (fun _ => true) (BitVec.ofNat 128)
    {smallName, capitalName} ⟨"n", "k", none, none⟩ (fun _ _ => rfl)]
  intro hone
  have hsame : smallName = capitalName :=
    hone smallName (.inl rfl) capitalName (.inr rfl) _ (if_pos (.inl rfl)) (if_pos (.inr rfl))
  exact absurd hsame (by decide)

end P2PMesh.Devices
