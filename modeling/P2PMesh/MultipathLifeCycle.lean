import P2PMesh.MultipathScheduler

namespace P2PMesh.Multipath
open P2PMesh.Base
set_option autoImplicit true

/-- A connection with its scheduler and the bandwidths of its paths. Beside it stand the paths that
a failover has closed so far, and those that have been abandoned. -/
structure MultipathSession (F : Type) where
  connection : MultipathQuicConnection
  bandwidths : Std.TreeMap PathId UInt64
  scheduler : MultipathScheduler F
  failed : List PathId
  abandoned : List PathId

def MultipathSession.new (F : Type) (config : MultipathConfig) (strategy : SchedulerStrategy) :
    MultipathSession F :=
  ⟨.new config, ∅, .new F strategy, [], []⟩

/-- The paths are gone through in some order. -/
inductive SessionOp (F : Type) where
  | path (op : MultipathOp)
  | updatePathQuality (pathId : PathId) (srttUs bandwidthBps : UInt64) (order : List PathId)
  | scheduleNext (order : List PathId) (draw : F)

section Connection
variable (c : MultipathQuicConnection)

def MultipathQuicConnection.values (order : List PathId) : List MultipathEntry :=
  order.filterMap (fun pathId => c.paths[pathId]?)

/-- The path that a call closes because it has failed. -/
def MultipathQuicConnection.failedBy : MultipathOp → List PathId
  | .seamlessFailover failedPath _ =>
    if c.config.seamlessFailover = true ∧ (c.paths[failedPath]?).isSome then [failedPath] else []
  | _ => []

def MultipathQuicConnection.abandonedBy : MultipathOp → List PathId
  | .abandonPath pathId => if (c.abandonPath pathId).1.isOk then [pathId] else []
  | _ => []

end Connection

section Session
variable (A : FloatArith F) (overflowChecks : Bool) (s : MultipathSession F)

def MultipathSession.callPath (op : MultipathOp) : MultipathSession F :=
  { s with
    connection := s.connection.step op
    failed := s.connection.failedBy op ++ s.failed
    abandoned := s.connection.abandonedBy op ++ s.abandoned }

/-- The weights follow the bandwidths of all the paths. -/
def MultipathSession.updatePathQuality (pathId : PathId) (srttUs bandwidthBps : UInt64)
    (order : List PathId) : Except MultipathError Unit × MultipathSession F :=
  match s.connection.paths[pathId]? with
  | none => (.error .pathNotFound, s)
  | some _ =>
    let connection := { s.connection with
      paths := s.connection.paths.modify pathId (fun e => { e with srttUs := srttUs }) }
    let bandwidths := s.bandwidths.insert pathId bandwidthBps
    let allPaths := (connection.values order).map
      (fun e => (e.pathId, (bandwidths[e.pathId]?).getD 0))
    (.ok (), { s with
      connection
      bandwidths
      scheduler := s.scheduler.updateWeights A allPaths })

/-- `none` is a panic of the scheduler, which leaves everything as it is. -/
def MultipathSession.scheduleNext (order : List PathId) (draw : F) :
    Option (Option PathId × MultipathSession F) := do
  let activePaths := (s.connection.values order).filter
    (fun e => e.active && decide (e.state = .active))
  let (pathId, scheduler) ← s.scheduler.schedulePacket A overflowChecks activePaths draw
  return (pathId, { s with scheduler })

def MultipathSession.step : SessionOp F → MultipathSession F
  | .path op => s.callPath op
  | .updatePathQuality pathId srttUs bandwidthBps order =>
    (s.updatePathQuality A pathId srttUs bandwidthBps order).2
  | .scheduleNext order draw => ((s.scheduleNext A overflowChecks order draw).map (·.2)).getD s

/-- What is kept of a path: one that has failed is closed, one that has been abandoned is not
active, and the flag says whether the state is the active one. -/
structure PathLife (failed abandoned : Prop) (path : Option MultipathEntry) : Prop where
  closed : failed → ∃ e, path = some e ∧ e.state = .closed ∧ e.active = false
  inactive : abandoned → ∃ e, path = some e ∧ e.state ≠ .active
  flag : ∀ e, path = some e → (e.active = true ↔ e.state = .active)

def MultipathSession.LifeCycle : Prop :=
  ∀ pathId : PathId, PathLife (pathId ∈ s.failed) (pathId ∈ s.abandoned)
    s.connection.paths[pathId]?

/-- A path that is scheduled is in use: it has not failed or been abandoned, nor is it on
standby. -/
def MultipathSession.SchedulesLive : SessionOp F → Prop
  | .scheduleNext order draw => ∀ pathId s',
    s.scheduleNext A overflowChecks order draw = some (some pathId, s') →
      pathId ∉ s.failed ∧ pathId ∉ s.abandoned ∧
        ∃ e, s.connection.paths[pathId]? = some e ∧ e.state = .active ∧ e.active = true
  | _ => True

/-- No call puts a failed path on standby, abandons it or gives its id to a new path, and none
activates a path that has been abandoned and is not closed. -/
def MultipathSession.Protects : SessionOp F → Prop
  | .path (.insertPath call _) => ∀ pathId localAddr remoteAddr,
    s.connection.calls[call]? = some (.numbered pathId localAddr remoteAddr) → pathId ∉ s.failed
  | .path (.activatePath pathId) => pathId ∈ s.abandoned →
    ∃ e, s.connection.paths[pathId]? = some e ∧ e.state = .closed
  | .path (.standbyPath pathId) => pathId ∉ s.failed
  | .path (.abandonPath pathId) => pathId = 0 ∨ pathId ∉ s.failed
  | _ => True

end Session

/-- Every path is stored under its own id. -/
def MultipathQuicConnection.Keyed (c : MultipathQuicConnection) : Prop :=
  ∀ (pathId : PathId) e, c.paths[pathId]? = some e → e.pathId = pathId

section Keyed
variable {c : MultipathQuicConnection}

theorem MultipathQuicConnection.addPath_paths (call : Nat) (localAddr remoteAddr : SocketAddr) :
    (c.addPath call localAddr remoteAddr).paths = c.paths := by
  rw [MultipathQuicConnection.addPath]
  split
  · rfl
  · split
    · rfl
    · rfl

theorem MultipathQuicConnection.takePathId_paths (call : Nat) :
    (c.takePathId call).paths = c.paths := by
  rw [MultipathQuicConnection.takePathId]
  split
  · rfl
  · rfl

theorem MultipathQuicConnection.getElem?_setState (pathId id : PathId) (state : PathState)
    (active : Bool) : (c.setState pathId state active).paths[id]? =
      if pathId = id then
        c.paths[pathId]?.map (fun e => { e with state := state, active := active })
      else c.paths[id]? :=
  getElem?_modify_eq _ _ _ _

theorem MultipathQuicConnection.Frame.keyed {c' : MultipathQuicConnection} (h : c.Frame c')
    (hk : c.Keyed) : c'.Keyed := by
  intro pathId e' he'
  have hstored := h.stored pathId
  rw [he'] at hstored
  obtain ⟨e, he⟩ := Option.isSome_iff_exists.mp hstored.symm
  obtain ⟨later, hlater, hid, -⟩ := h.keeps pathId e he
  cases he'.symm.trans hlater
  exact hid.trans (hk pathId e he)

theorem MultipathQuicConnection.Keyed.step (hk : c.Keyed) (op : MultipathOp) :
    (c.step op).Keyed := by
  by_cases hop : ∃ call now, op = .insertPath call now
  · obtain ⟨call, now, rfl⟩ := hop
    rw [MultipathQuicConnection.step, MultipathQuicConnection.insertPath]
    split
    · intro id e he
      change (c.paths.insert _ _)[id]? = some e at he
      rw [getElem?_insert_eq] at he
      split at he
      · next hid =>
        cases he
        exact hid
      · exact hk id e he
    · exact hk
  · exact (c.step_frame (fun call now he => hop ⟨call, now, he⟩)).keyed hk

end Keyed

section PathLife
variable {failed abandoned : Prop}

theorem PathLife.of_state {e : MultipathEntry} (hflag : e.active = true ↔ e.state = .active) :
    PathLife failed abandoned (some e) ↔
      (failed → e.state = .closed) ∧ (abandoned → e.state ≠ .active) := by
  constructor
  · intro h
    constructor
    · intro hfailed
      obtain ⟨e', ⟨⟩, hclosed, -⟩ := h.closed hfailed
      exact hclosed
    · intro habandoned
      obtain ⟨e', ⟨⟩, hne⟩ := h.inactive habandoned
      exact hne
  · rintro ⟨hclosed, hne⟩
    refine ⟨fun hfailed => ⟨e, rfl, hclosed hfailed, ?_⟩, fun h => ⟨e, rfl, hne h⟩, ?_⟩
    · rw [Bool.eq_false_iff, ne_eq, hflag, hclosed hfailed]
      rintro ⟨⟩
    · rintro e' ⟨⟩
      exact hflag

theorem PathLife.map {path : Option MultipathEntry} (h : PathLife failed abandoned path)
    {f : MultipathEntry → MultipathEntry} (hstate : ∀ e, (f e).state = e.state)
    (hactive : ∀ e, (f e).active = e.active) : PathLife failed abandoned (path.map f) := by
  constructor
  · intro hfailed
    obtain ⟨e, rfl, hclosed, hoff⟩ := h.closed hfailed
    exact ⟨f e, rfl, (hstate e).trans hclosed, (hactive e).trans hoff⟩
  · intro habandoned
    obtain ⟨e, rfl, hne⟩ := h.inactive habandoned
    exact ⟨f e, rfl, hstate e ▸ hne⟩
  · intro e' he'
    obtain ⟨e, rfl, rfl⟩ := Option.map_eq_some_iff.mp he'
    rw [hstate, hactive]
    exact h.flag e rfl

end PathLife

section Steps
open MultipathQuicConnection
variable {A : FloatArith F} {overflowChecks : Bool} {s s' : MultipathSession F}
  {pathId id : PathId}

/-- Where a step touches one path only, the others are as they were. -/
theorem MultipathSession.LifeCycle.iff_at (h : s.LifeCycle) (pathId : PathId)
    (hpaths : ∀ id, pathId ≠ id → s'.connection.paths[id]? = s.connection.paths[id]?)
    (hfailed : ∀ id, pathId ≠ id → (id ∈ s'.failed ↔ id ∈ s.failed))
    (habandoned : ∀ id, pathId ≠ id → (id ∈ s'.abandoned ↔ id ∈ s.abandoned)) :
    s'.LifeCycle ↔ PathLife (pathId ∈ s'.failed) (pathId ∈ s'.abandoned)
      s'.connection.paths[pathId]? := by
  constructor
  · intro hs'
    exact hs' pathId
  · intro hat id
    by_cases hid : pathId = id
    · exact hid ▸ hat
    · rw [hpaths id hid, hfailed id hid, habandoned id hid]
      exact h id

theorem mem_append_iff_of_ne {l l' : List PathId} (hl : l ⊆ [pathId]) (hid : pathId ≠ id) :
    id ∈ l ++ l' ↔ id ∈ l' := by
  rw [List.mem_append]
  exact or_iff_right (fun h => hid (List.mem_singleton.mp (hl h)).symm)

theorem MultipathSession.LifeCycle.setState_iff (h : s.LifeCycle)
    {stored : MultipathEntry} (hstored : s.connection.paths[pathId]? = some stored)
    (state : PathState) (active : Bool) (hflag : active = true ↔ state = .active)
    {failed abandoned : List PathId} (hfailed : failed ⊆ [pathId])
    (habandoned : abandoned ⊆ [pathId]) :
    MultipathSession.LifeCycle { s with
      connection := s.connection.setState pathId state active
      failed := failed ++ s.failed
      abandoned := abandoned ++ s.abandoned } ↔
    (pathId ∈ failed ++ s.failed → state = .closed) ∧
      (pathId ∈ abandoned ++ s.abandoned → state ≠ .active) := by
  rw [h.iff_at pathId]
  · change PathLife _ _ (s.connection.setState pathId state active).paths[pathId]? ↔ _
    rw [getElem?_setState, if_pos rfl, hstored]
    exact PathLife.of_state hflag
  · intro id hid
    exact (getElem?_setState pathId id state active).trans (if_neg hid)
  · intro id hid
    exact mem_append_iff_of_ne hfailed hid
  · intro id hid
    exact mem_append_iff_of_ne habandoned hid

theorem MultipathSession.LifeCycle.stored_closed (h : s.LifeCycle) (hid : pathId ∈ s.failed)
    {e : MultipathEntry} (he : s.connection.paths[pathId]? = some e) : e.state = .closed := by
  obtain ⟨e', he', hclosed, -⟩ := (h pathId).closed hid
  cases he.symm.trans he'
  exact hclosed

theorem MultipathSession.LifeCycle.activatePath_iff (h : s.LifeCycle) (pathId : PathId) :
    (s.callPath (.activatePath pathId)).LifeCycle ↔
      s.Protects (.path (.activatePath pathId)) := by
  rw [MultipathSession.Protects, MultipathSession.callPath, MultipathQuicConnection.step,
    MultipathQuicConnection.activatePath]
  cases hstored : s.connection.paths[pathId]? with
  | none =>
    refine iff_of_true h ?_
    intro habandoned
    obtain ⟨e, he, -⟩ := (h pathId).inactive habandoned
    rw [hstored] at he
    cases he
  | some e =>
    dsimp only
    split
    · next hclosed => exact iff_of_true h (fun _ => ⟨e, rfl, hclosed⟩)
    · next hopen =>
      have hset := h.setState_iff hstored .active true (iff_of_true rfl rfl)
        (List.nil_subset [pathId]) (List.nil_subset [pathId])
      refine hset.trans ?_
      rw [List.nil_append, List.nil_append]
      constructor
      · rintro ⟨-, hne⟩ habandoned
        exact (hne habandoned rfl).elim
      · intro hprotects
        refine ⟨fun hfailed => (hopen (h.stored_closed hfailed hstored)).elim, ?_⟩
        intro habandoned
        obtain ⟨e', ⟨⟩, hclosed⟩ := hprotects habandoned
        exact (hopen hclosed).elim

theorem MultipathSession.LifeCycle.standbyPath_iff (h : s.LifeCycle) (pathId : PathId) :
    (s.callPath (.standbyPath pathId)).LifeCycle ↔ s.Protects (.path (.standbyPath pathId)) := by
  rw [MultipathSession.Protects, MultipathSession.callPath, MultipathQuicConnection.step,
    MultipathQuicConnection.standbyPath]
  cases hstored : s.connection.paths[pathId]? with
  | none =>
    refine iff_of_true h ?_
    intro hfailed
    obtain ⟨e, he, -⟩ := (h pathId).closed hfailed
    rw [hstored] at he
    cases he
  | some e =>
    have hset := h.setState_iff hstored .standby false
      (iff_of_false Bool.false_ne_true (by rintro ⟨⟩)) (List.nil_subset [pathId])
      (List.nil_subset [pathId])
    refine hset.trans ?_
    rw [List.nil_append, List.nil_append]
    constructor
    · rintro ⟨hclosed, -⟩ hfailed
      cases hclosed hfailed
    · intro hfailed
      exact ⟨fun hmem => (hfailed hmem).elim, fun _ => by rintro ⟨⟩⟩

theorem MultipathSession.LifeCycle.abandonPath_iff (h : s.LifeCycle) (pathId : PathId) :
    (s.callPath (.abandonPath pathId)).LifeCycle ↔ s.Protects (.path (.abandonPath pathId)) := by
  rw [MultipathSession.Protects, MultipathSession.callPath, MultipathQuicConnection.step,
    MultipathQuicConnection.abandonedBy, MultipathQuicConnection.abandonPath]
  cases hstored : s.connection.paths[pathId]? with
  | none =>
    refine iff_of_true h (.inr ?_)
    intro hfailed
    obtain ⟨e, he, -⟩ := (h pathId).closed hfailed
    rw [hstored] at he
    cases he
  | some e =>
    dsimp only
    split
    · next hprimary => exact iff_of_true h (.inl hprimary)
    · next hprimary =>
      have hset := h.setState_iff hstored .abandoning false
        (iff_of_false Bool.false_ne_true (by rintro ⟨⟩)) (List.nil_subset [pathId])
        (List.Subset.refl [pathId])
      refine hset.trans ?_
      rw [or_iff_right hprimary, List.nil_append]
      constructor
      · rintro ⟨hclosed, -⟩ hfailed
        cases hclosed hfailed
      · intro hfailed
        exact ⟨fun hmem => (hfailed hmem).elim, fun _ => by rintro ⟨⟩⟩

theorem MultipathSession.LifeCycle.seamlessFailover (h : s.LifeCycle) (failedPath : PathId)
    (order : List PathId) : (s.callPath (.seamlessFailover failedPath order)).LifeCycle := by
  have hstep : s.connection.step (.seamlessFailover failedPath order) =
      if s.connection.config.seamlessFailover = true then
        s.connection.setState failedPath .closed false else s.connection := by
    rw [MultipathQuicConnection.step, MultipathQuicConnection.seamlessFailover]
    cases s.connection.config.seamlessFailover with
    | false => rfl
    | true =>
      rw [if_neg (by decide), if_pos rfl]
      dsimp only
      split <;> rfl
  rw [MultipathSession.callPath, hstep, MultipathQuicConnection.failedBy]
  by_cases henabled : s.connection.config.seamlessFailover = true
  · rw [if_pos henabled]
    cases hstored : s.connection.paths[failedPath]? with
    | none =>
      rw [if_neg (fun hboth => Bool.false_ne_true hboth.2)]
      intro id
      change PathLife _ _ (s.connection.setState failedPath .closed false).paths[id]?
      rw [getElem?_setState]
      split
      · next hid =>
        rw [hstored, Option.map_none, ← hstored, hid]
        exact h id
      · exact h id
    | some e =>
      rw [if_pos ⟨henabled, rfl⟩]
      have hset := h.setState_iff hstored .closed false
        (iff_of_false Bool.false_ne_true (by rintro ⟨⟩)) (List.Subset.refl [failedPath])
        (List.nil_subset [failedPath])
      exact hset.mpr ⟨fun _ => rfl, fun _ => by rintro ⟨⟩⟩
  · rw [if_neg henabled, if_neg (fun hboth => henabled hboth.1)]
    exact h

theorem MultipathSession.LifeCycle.insertPath_iff (h : s.LifeCycle) (call now : Nat) :
    (s.callPath (.insertPath call now)).LifeCycle ↔ s.Protects (.path (.insertPath call now)) := by
  rw [MultipathSession.Protects, MultipathSession.callPath, MultipathQuicConnection.step,
    MultipathQuicConnection.insertPath]
  cases hcall : s.connection.calls[call]? with
  | none => exact iff_of_true h (by rintro _ _ _ ⟨⟩)
  | some phase =>
    cases phase with
    | passed localAddr remoteAddr => exact iff_of_true h (by rintro _ _ _ ⟨⟩)
    | numbered pathId localAddr remoteAddr =>
      rw [h.iff_at pathId]
      · change PathLife _ _ (s.connection.paths.insert pathId _)[pathId]? ↔ _
        rw [getElem?_insert_eq, if_pos rfl, PathLife.of_state (iff_of_false Bool.false_ne_true
          (by rintro ⟨⟩))]
        constructor
        · rintro ⟨hclosed, -⟩ _ _ _ ⟨⟩ hfailed
          cases hclosed hfailed
        · intro hprotects
          exact ⟨fun hfailed => (hprotects _ _ _ rfl hfailed).elim, fun _ => by rintro ⟨⟩⟩
      · intro id hid
        exact getElem?_insert_of_ne _ _ hid
      · exact fun _ _ => Iff.rfl
      · exact fun _ _ => Iff.rfl

theorem MultipathSession.LifeCycle.updatePathQuality (h : s.LifeCycle) (pathId : PathId)
    (srttUs bandwidthBps : UInt64) (order : List PathId) :
    (s.updatePathQuality A pathId srttUs bandwidthBps order).2.LifeCycle := by
  rw [MultipathSession.updatePathQuality]
  split
  · exact h
  · intro id
    change PathLife _ _ (s.connection.paths.modify pathId _)[id]?
    rw [getElem?_modify_eq]
    split
    · next hid => exact hid ▸ (h pathId).map (fun _ => rfl) (fun _ => rfl)
    · exact h id

theorem MultipathSession.LifeCycle.schedulesLive (h : s.LifeCycle) (hk : s.connection.Keyed)
    (op : SessionOp F) : s.SchedulesLive A overflowChecks op := by
  cases op with
  | path op => trivial
  | updatePathQuality pathId srttUs bandwidthBps order => trivial
  | scheduleNext order draw =>
    intro pathId s' hcall
    rw [MultipathSession.scheduleNext, Option.bind_eq_bind, Option.bind_eq_some_iff] at hcall
    obtain ⟨⟨chosen, scheduler⟩, hcall, ⟨⟩⟩ := hcall
    obtain ⟨e, he, rfl⟩ := MultipathScheduler.schedulePacket_mem hcall
    obtain ⟨hmem, hstate, hactive⟩ := mem_usable.mp he
    obtain ⟨id, -, hstored⟩ := List.mem_filterMap.mp (List.mem_filter.mp hmem).1
    rw [hk id e hstored]
    refine ⟨?_, ?_, e, hstored, hstate, hactive⟩
    · intro hfailed
      have hclosed := h.stored_closed hfailed hstored
      rw [hstate] at hclosed
      cases hclosed
    · intro habandoned
      obtain ⟨e', he', hne⟩ := (h id).inactive habandoned
      cases hstored.symm.trans he'
      exact hne hstate

theorem MultipathSession.LifeCycle.step_iff (h : s.LifeCycle) (hk : s.connection.Keyed)
    (op : SessionOp F) : (s.step A overflowChecks op).LifeCycle ∧
      s.SchedulesLive A overflowChecks op ↔ s.Protects op := by
  rw [and_iff_left (h.schedulesLive hk op)]
  cases op with
  | path op =>
    cases op with
    | addPath call localAddr remoteAddr =>
      refine iff_of_true ?_ trivial
      intro id
      change PathLife _ _ (s.connection.addPath call localAddr remoteAddr).paths[id]?
      rw [addPath_paths]
      exact h id
    | takePathId call =>
      refine iff_of_true ?_ trivial
      intro id
      change PathLife _ _ (s.connection.takePathId call).paths[id]?
      rw [takePathId_paths]
      exact h id
    | insertPath call now => exact h.insertPath_iff call now
    | activatePath pathId => exact h.activatePath_iff pathId
    | standbyPath pathId => exact h.standbyPath_iff pathId
    | abandonPath pathId => exact h.abandonPath_iff pathId
    | seamlessFailover failedPath order =>
      exact iff_of_true (h.seamlessFailover failedPath order) trivial
  | updatePathQuality pathId srttUs bandwidthBps order =>
    exact iff_of_true (h.updatePathQuality pathId srttUs bandwidthBps order) trivial
  | scheduleNext order draw =>
    refine iff_of_true ?_ trivial
    intro id
    rw [MultipathSession.step, MultipathSession.scheduleNext]
    cases s.scheduler.schedulePacket A overflowChecks _ draw with
    | none => exact h id
    | some result => exact h id

theorem MultipathSession.step_keyed (hk : s.connection.Keyed) (op : SessionOp F) :
    (s.step A overflowChecks op).connection.Keyed := by
  cases op with
  | path op => exact hk.step op
  | updatePathQuality pathId srttUs bandwidthBps order =>
    rw [MultipathSession.step, MultipathSession.updatePathQuality]
    split
    · exact hk
    · intro id e he
      change (s.connection.paths.modify pathId _)[id]? = some e at he
      rw [getElem?_modify_eq] at he
      split at he
      · next hid =>
        obtain ⟨old, hold, rfl⟩ := Option.map_eq_some_iff.mp he
        exact (hk pathId old hold).trans hid
      · exact hk id e he
  | scheduleNext order draw =>
    rw [MultipathSession.step, MultipathSession.scheduleNext]
    cases s.scheduler.schedulePacket A overflowChecks _ draw with
    | none => exact hk
    | some result => exact hk

theorem MultipathSession.new_lifeCycle (config : MultipathConfig) (strategy : SchedulerStrategy) :
    (MultipathSession.new F config strategy).LifeCycle := by
  intro id
  change PathLife _ _ (∅ : Std.TreeMap PathId MultipathEntry)[id]?
  rw [Std.TreeMap.getElem?_emptyc]
  exact ⟨fun h => (List.not_mem_nil h).elim, fun h => (List.not_mem_nil h).elim, by rintro _ ⟨⟩⟩

theorem MultipathSession.new_keyed (config : MultipathConfig) (strategy : SchedulerStrategy) :
    (MultipathSession.new F config strategy).connection.Keyed := by
  intro id e he
  change (∅ : Std.TreeMap PathId MultipathEntry)[id]? = some e at he
  rw [Std.TreeMap.getElem?_emptyc] at he
  cases he

end Steps

section Run
variable (A : FloatArith F) (overflowChecks : Bool)

def MultipathSession.run (s : MultipathSession F) (ops : List (SessionOp F)) :
    MultipathSession F :=
  ops.foldl (MultipathSession.step A overflowChecks) s

/-- The paths are kept at every point of a run, and only paths in use are scheduled, exactly if
every call protects those that have failed or been abandoned. -/
theorem MultipathSession.lifeCycle_iff (config : MultipathConfig) (strategy : SchedulerStrategy)
    (ops : List (SessionOp F)) :
    ((∀ ops', ops' <+: ops →
        ((MultipathSession.new F config strategy).run A overflowChecks ops').LifeCycle) ∧
      Guarded (MultipathSession.step A overflowChecks)
        (MultipathSession.SchedulesLive A overflowChecks) (.new F config strategy) ops) ↔
      Guarded (MultipathSession.step A overflowChecks) MultipathSession.Protects
        (.new F config strategy) ops :=
  forall_prefix_and_guarded_iff_of (W := fun s => s.connection.Keyed)
    (MultipathSession.new_keyed config strategy) (fun _ op hk => MultipathSession.step_keyed hk op)
    (MultipathSession.new_lifeCycle config strategy) (fun _ op hk h => h.step_iff hk op) ops

end Run

/-- A path is added and activated, and activated again after some other calls. -/
def reactivate (ops : List MultipathOp) : List MultipathOp :=
  addAlone 0 ++ [.activatePath 1] ++ ops ++ [.activatePath 1]

def revivedBy (ops : List MultipathOp) : MultipathSession ℚ :=
  (MultipathSession.new ℚ ⟨4, true⟩ .redundant).run exactArith false
    ((reactivate ops).map .path)

/-- By way of standby a path that has failed comes to life again; one that has been abandoned is
activated at once, and then scheduled. -/
theorem path_revived :
    ¬ (revivedBy [.seamlessFailover 1 [1], .standbyPath 1]).LifeCycle ∧
      ¬ (revivedBy [.abandonPath 1]).LifeCycle ∧
      ¬ (revivedBy [.abandonPath 1]).SchedulesLive exactArith false (.scheduleNext [1] 0) := by
  refine ⟨?_, ?_, ?_⟩
  · intro h
    obtain ⟨e, he, hclosed, -⟩ := (h 1).closed (by decide +kernel)
    have hstate : ((revivedBy [.seamlessFailover 1 [1], .standbyPath 1]).connection.paths[
        (1 : PathId)]?).map (·.state) = some .active := by
      decide +kernel
    rw [he, Option.map_some, hclosed] at hstate
    cases hstate
  · intro h
    obtain ⟨e, he, hne⟩ := (h 1).inactive (by decide +kernel)
    have hstate : ((revivedBy [.abandonPath 1]).connection.paths[(1 : PathId)]?).map (·.state) =
        some .active := by
      decide +kernel
    rw [he, Option.map_some] at hstate
    exact hne (Option.some.inj hstate)
  · intro h
    have hscheduled : ((revivedBy [.abandonPath 1]).scheduleNext exactArith false [1] 0).map
        (·.1) = some (some 1) := by
      decide +kernel
    obtain ⟨⟨pathId, s'⟩, hcall, rfl⟩ := Option.map_eq_some_iff.mp hscheduled
    exact (h 1 s' hcall).2.1 (by decide +kernel)

end P2PMesh.Multipath
