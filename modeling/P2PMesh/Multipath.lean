import P2PMesh.Base.Net
import P2PMesh.Base.Run
import P2PMesh.Base.Tally

namespace P2PMesh.Multipath
open P2PMesh.Base
set_option autoImplicit true

abbrev PathId := UInt8

inductive PathState where
  | validating
  | active
  | standby
  | abandoning
  | closed
deriving DecidableEq

inductive MultipathError where
  | tooManyPaths
  | pathNotFound
  | cannotAbandonPrimary
  | pathClosed
  | failoverDisabled
  | noAlternativePath
deriving DecidableEq

structure MultipathEntry where
  pathId : PathId
  localAddr : SocketAddr
  remoteAddr : SocketAddr
  state : PathState
  establishedAt : Nat
  srttUs : UInt64
  active : Bool
deriving DecidableEq

def MultipathEntry.new (pathId : PathId) (localAddr remoteAddr : SocketAddr) (now : Nat) :
    MultipathEntry :=
  ⟨pathId, localAddr, remoteAddr, .validating, now, 0, false⟩

/-- The path is neither closed nor on its way out. -/
def MultipathEntry.isLive (e : MultipathEntry) : Bool :=
  decide (e.state ≠ .closed ∧ e.state ≠ .abandoning)

structure MultipathConfig where
  maxPaths : UInt8
  seamlessFailover : Bool

/-- Where a call of `add_path` stands: it has found room, or it has its path id as well. -/
inductive AddPhase where
  | passed (localAddr remoteAddr : SocketAddr)
  | numbered (pathId : PathId) (localAddr remoteAddr : SocketAddr)
deriving DecidableEq

/-- A connection with the calls of `add_path` that are under way and the ids that those before
them have returned. -/
structure MultipathQuicConnection where
  config : MultipathConfig
  paths : Std.TreeMap PathId MultipathEntry
  nextPathId : UInt64
  calls : Std.TreeMap Nat AddPhase
  handedOut : List PathId

def MultipathQuicConnection.new (config : MultipathConfig) : MultipathQuicConnection :=
  ⟨config, ∅, 1, ∅, []⟩

/-- A call of `add_path` takes the read lock, the atomic counter and the write lock one after the
other; the other calls take the write lock once. The failover goes through the map in some order. -/
inductive MultipathOp where
  | addPath (call : Nat) (localAddr remoteAddr : SocketAddr)
  | takePathId (call : Nat)
  | insertPath (call now : Nat)
  | activatePath (pathId : PathId)
  | standbyPath (pathId : PathId)
  | abandonPath (pathId : PathId)
  | seamlessFailover (failedPath : PathId) (order : List PathId)

/-- The first of the paths with the lowest round trip time. -/
def lowestRtt : List MultipathEntry → Option MultipathEntry
  | [] => none
  | e :: rest =>
    match lowestRtt rest with
    | none => some e
    | some best => if best.srttUs < e.srttUs then some best else some e

section Connection
variable (c : MultipathQuicConnection)

def MultipathQuicConnection.checkLimit : Except MultipathError Unit :=
  if c.config.maxPaths.toNat ≤ c.paths.size then .error .tooManyPaths else .ok ()

def MultipathQuicConnection.addPath (call : Nat) (localAddr remoteAddr : SocketAddr) :
    MultipathQuicConnection :=
  if c.calls[call]?.isSome then c
  else
    match c.checkLimit with
    | .error _ => c
    | .ok () => { c with calls := c.calls.insert call (.passed localAddr remoteAddr) }

/-- The counter has 64 bits, of which an id keeps the lowest eight. -/
def MultipathQuicConnection.takePathId (call : Nat) : MultipathQuicConnection :=
  match c.calls[call]? with
  | some (.passed localAddr remoteAddr) =>
    { c with
      nextPathId := c.nextPathId + 1
      calls := c.calls.insert call (.numbered c.nextPathId.toUInt8 localAddr remoteAddr) }
  | _ => c

def MultipathQuicConnection.insertPath (call now : Nat) : MultipathQuicConnection :=
  match c.calls[call]? with
  | some (.numbered pathId localAddr remoteAddr) =>
    { c with
      paths := c.paths.insert pathId (.new pathId localAddr remoteAddr now)
      calls := c.calls.erase call
      handedOut := c.handedOut ++ [pathId] }
  | _ => c

/-- A path that is stored is taken to another state. -/
def MultipathQuicConnection.setState (pathId : PathId) (state : PathState) (active : Bool) :
    MultipathQuicConnection :=
  { c with paths := c.paths.modify pathId (fun e => { e with state := state, active := active }) }

def MultipathQuicConnection.activatePath (pathId : PathId) :
    Except MultipathError Unit × MultipathQuicConnection :=
  match c.paths[pathId]? with
  | none => (.error .pathNotFound, c)
  | some path =>
    if path.state = .closed then (.error .pathClosed, c)
    else (.ok (), c.setState pathId .active true)

def MultipathQuicConnection.standbyPath (pathId : PathId) :
    Except MultipathError Unit × MultipathQuicConnection :=
  match c.paths[pathId]? with
  | none => (.error .pathNotFound, c)
  | some _ => (.ok (), c.setState pathId .standby false)

def MultipathQuicConnection.abandonPath (pathId : PathId) :
    Except MultipathError Unit × MultipathQuicConnection :=
  match c.paths[pathId]? with
  | none => (.error .pathNotFound, c)
  | some _ =>
    if pathId = 0 then (.error .cannotAbandonPrimary, c)
    else (.ok (), c.setState pathId .abandoning false)

def MultipathQuicConnection.seamlessFailover (failedPath : PathId) (order : List PathId) :
    Except MultipathError PathId × MultipathQuicConnection :=
  if c.config.seamlessFailover = false then (.error .failoverDisabled, c)
  else
    let closed := c.setState failedPath .closed false
    let candidates := (order.filterMap (fun pathId => closed.paths[pathId]?)).filter
      (fun e => e.pathId ≠ failedPath ∧ e.state = .active)
    match lowestRtt candidates with
    | none => (.error .noAlternativePath, closed)
    | some best => (.ok best.pathId, closed)

def MultipathQuicConnection.step : MultipathOp → MultipathQuicConnection
  | .addPath call localAddr remoteAddr => c.addPath call localAddr remoteAddr
  | .takePathId call => c.takePathId call
  | .insertPath call now => c.insertPath call now
  | .activatePath pathId => (c.activatePath pathId).2
  | .standbyPath pathId => (c.standbyPath pathId).2
  | .abandonPath pathId => (c.abandonPath pathId).2
  | .seamlessFailover failedPath order => (c.seamlessFailover failedPath order).2

def MultipathQuicConnection.run (ops : List MultipathOp) : MultipathQuicConnection :=
  ops.foldl MultipathQuicConnection.step c

end Connection

section Limits
variable (c : MultipathQuicConnection)

/-- The ids returned are distinct, and there are no more paths than are allowed. -/
structure MultipathQuicConnection.WithinLimits : Prop where
  distinct : c.handedOut.Nodup
  limited : c.paths.size ≤ c.config.maxPaths.toNat

/-- A path that is stored stays the path that it is, whatever becomes of its state. -/
def MultipathQuicConnection.KeepsPaths (later : MultipathQuicConnection) : Prop :=
  ∀ (pathId : PathId) e, c.paths[pathId]? = some e → ∃ e', later.paths[pathId]? = some e' ∧
    e'.pathId = e.pathId ∧ e'.localAddr = e.localAddr ∧ e'.remoteAddr = e.remoteAddr ∧
      e'.establishedAt = e.establishedAt

def MultipathQuicConnection.livePaths : Nat := tally (fun _ e => e.isLive) c.paths

/-- A call is answered that there are too many paths only while that many are live. -/
def MultipathQuicConnection.RefusesRightly : MultipathOp → Prop
  | .addPath call _ _ => c.calls[call]? = none → c.checkLimit = .error .tooManyPaths →
      c.config.maxPaths.toNat ≤ c.livePaths
  | _ => True

/-- Whoever looks at a map that is full finds live paths only, and whoever inserts a path finds
room for it and nothing under its id. -/
def MultipathQuicConnection.Spares : MultipathOp → Prop
  | .addPath call _ _ => c.calls[call]? = none →
      c.paths.size < c.config.maxPaths.toNat ∨
        ∀ (pathId : PathId) e, c.paths[pathId]? = some e → e.isLive = true
  | .insertPath call _ => ∀ pathId localAddr remoteAddr,
      c.calls[call]? = some (.numbered pathId localAddr remoteAddr) →
        c.paths[pathId]? = none ∧ c.paths.size < c.config.maxPaths.toNat
  | _ => True

/-- No path leaves the map: the ids returned are those that something is stored under. -/
def MultipathQuicConnection.Recorded : Prop :=
  ∀ pathId : PathId, pathId ∈ c.handedOut ↔ (c.paths[pathId]?).isSome

end Limits

section Steps
variable {c : MultipathQuicConnection}

theorem MultipathQuicConnection.KeepsPaths.refl (c : MultipathQuicConnection) : c.KeepsPaths c :=
  fun _ e he => ⟨e, he, rfl, rfl, rfl, rfl⟩

theorem MultipathQuicConnection.new_recorded (config : MultipathConfig) :
    (MultipathQuicConnection.new config).Recorded := by
  intro pathId
  refine iff_of_false List.not_mem_nil ?_
  change ¬ ((∅ : Std.TreeMap PathId MultipathEntry)[pathId]?).isSome
  rw [Std.TreeMap.getElem?_emptyc]
  exact Bool.false_ne_true

theorem MultipathQuicConnection.new_withinLimits (config : MultipathConfig) :
    (MultipathQuicConnection.new config).WithinLimits :=
  ⟨List.nodup_nil, Nat.zero_le _⟩

/-- A step that leaves the ids and, but for their states, the paths. -/
structure MultipathQuicConnection.Frame (c c' : MultipathQuicConnection) : Prop where
  config : c'.config = c.config
  handedOut : c'.handedOut = c.handedOut
  size : c'.paths.size = c.paths.size
  stored : ∀ pathId : PathId, (c'.paths[pathId]?).isSome = (c.paths[pathId]?).isSome
  keeps : c.KeepsPaths c'

theorem MultipathQuicConnection.Frame.refl (c : MultipathQuicConnection) : c.Frame c :=
  ⟨rfl, rfl, rfl, fun _ => rfl, .refl c⟩

theorem MultipathQuicConnection.Frame.recorded {c' : MultipathQuicConnection} (h : c.Frame c')
    (hr : c.Recorded) : c'.Recorded := by
  intro pathId
  rw [h.handedOut, h.stored, hr]

theorem MultipathQuicConnection.Frame.withinLimits {c' : MultipathQuicConnection}
    (h : c.Frame c') (hl : c.WithinLimits) : c'.WithinLimits where
  distinct := by
    rw [h.handedOut]
    exact hl.distinct
  limited := by
    rw [h.size, h.config]
    exact hl.limited

theorem MultipathQuicConnection.setState_frame (c : MultipathQuicConnection) (pathId : PathId)
    (state : PathState) (active : Bool) : c.Frame (c.setState pathId state active) := by
  have hget (id : PathId) : (c.setState pathId state active).paths[id]? =
      if pathId = id then
        c.paths[pathId]?.map (fun e => { e with state := state, active := active })
      else c.paths[id]? := getElem?_modify_eq _ _ _ _
  refine ⟨rfl, rfl, Std.TreeMap.size_modify, ?_, ?_⟩
  · intro id
    rw [hget]
    split
    · next he => rw [Option.isSome_map, he]
    · rfl
  · intro id e he
    rw [hget]
    split
    · next hid =>
      rw [hid, he]
      exact ⟨_, rfl, rfl, rfl, rfl, rfl⟩
    · exact ⟨e, he, rfl, rfl, rfl, rfl⟩

theorem MultipathQuicConnection.addPath_frame (c : MultipathQuicConnection) (call : Nat)
    (localAddr remoteAddr : SocketAddr) : c.Frame (c.addPath call localAddr remoteAddr) := by
  rw [MultipathQuicConnection.addPath]
  split
  · exact .refl c
  · split
    · exact .refl c
    · exact ⟨rfl, rfl, rfl, fun _ => rfl, .refl c⟩

theorem MultipathQuicConnection.takePathId_frame (c : MultipathQuicConnection) (call : Nat) :
    c.Frame (c.takePathId call) := by
  rw [MultipathQuicConnection.takePathId]
  split
  · exact ⟨rfl, rfl, rfl, fun _ => rfl, .refl c⟩
  · exact .refl c

/-- Every operation but the insertion changes nothing but states. -/
theorem MultipathQuicConnection.step_frame (c : MultipathQuicConnection) {op : MultipathOp}
    (hop : ∀ call now, op ≠ .insertPath call now) : c.Frame (c.step op) := by
  cases op with
  | addPath call localAddr remoteAddr => exact c.addPath_frame call localAddr remoteAddr
  | takePathId call => exact c.takePathId_frame call
  | insertPath call now => exact (hop call now rfl).elim
  | activatePath pathId =>
    rw [MultipathQuicConnection.step, MultipathQuicConnection.activatePath]
    split
    · exact .refl c
    · split
      · exact .refl c
      · exact c.setState_frame pathId _ _
  | standbyPath pathId =>
    rw [MultipathQuicConnection.step, MultipathQuicConnection.standbyPath]
    split
    · exact .refl c
    · exact c.setState_frame pathId _ _
  | abandonPath pathId =>
    rw [MultipathQuicConnection.step, MultipathQuicConnection.abandonPath]
    split
    · exact .refl c
    · split
      · exact .refl c
      · exact c.setState_frame pathId _ _
  | seamlessFailover failedPath order =>
    rw [MultipathQuicConnection.step, MultipathQuicConnection.seamlessFailover]
    split
    · exact .refl c
    · dsimp only
      split
      · exact c.setState_frame failedPath _ _
      · exact c.setState_frame failedPath _ _

theorem MultipathQuicConnection.livePaths_eq_size_iff (c : MultipathQuicConnection) :
    c.livePaths = c.paths.size ↔
      ∀ (pathId : PathId) e, c.paths[pathId]? = some e → e.isLive = true := by
  rw [MultipathQuicConnection.livePaths, tally, ← Std.TreeMap.length_toList,
    List.countP_eq_length]
  constructor
  · intro h pathId e he
    exact h (pathId, e) (Std.TreeMap.mem_toList_iff_getElem?_eq_some.mpr he)
  · intro h e he
    exact h e.1 e.2 (Std.TreeMap.mem_toList_iff_getElem?_eq_some.mp he)

theorem MultipathQuicConnection.livePaths_le_size (c : MultipathQuicConnection) :
    c.livePaths ≤ c.paths.size := by
  rw [← tally_eq_size]
  exact tally_mono (fun _ _ _ => rfl) c.paths

theorem MultipathQuicConnection.WithinLimits.refusesRightly_iff (h : c.WithinLimits) (call : Nat)
    (localAddr remoteAddr : SocketAddr) :
    c.RefusesRightly (.addPath call localAddr remoteAddr) ↔
      c.Spares (.addPath call localAddr remoteAddr) := by
  apply imp_congr_right
  intro _
  have hlimited := h.limited
  have hlive := c.livePaths_le_size
  rw [← c.livePaths_eq_size_iff, MultipathQuicConnection.checkLimit]
  split
  · rw [forall_prop_of_true rfl]
    omega
  · refine iff_of_true (fun he => by cases he) ?_
    omega

theorem MultipathQuicConnection.WithinLimits.insert_iff (hr : c.Recorded) (hl : c.WithinLimits)
    {pathId : PathId} (hstored : c.paths[pathId]? = none) (e : MultipathEntry)
    (calls : Std.TreeMap Nat AddPhase) :
    MultipathQuicConnection.WithinLimits { c with
      paths := c.paths.insert pathId e
      calls := calls
      handedOut := c.handedOut ++ [pathId] } ↔ c.paths.size < c.config.maxPaths.toNat := by
  have hnew : pathId ∉ c.handedOut := by
    rw [hr, hstored]
    exact Bool.false_ne_true
  have hfresh : pathId ∉ c.paths := by
    rw [Std.TreeMap.mem_iff_isSome_getElem?, hstored]
    exact Bool.false_ne_true
  have hsize : (c.paths.insert pathId e).size = c.paths.size + 1 :=
    Std.TreeMap.size_insert.trans (if_neg hfresh)
  constructor
  · rintro ⟨-, hlimited⟩
    change (c.paths.insert pathId e).size ≤ _ at hlimited
    rw [hsize] at hlimited
    exact hlimited
  · intro hroom
    constructor
    · exact List.nodup_append.mpr ⟨hl.distinct, List.nodup_singleton _,
        fun id hid id' hid' he => hnew (List.mem_singleton.mp hid' ▸ he ▸ hid)⟩
    · change (c.paths.insert pathId e).size ≤ _
      rw [hsize]
      exact hroom

theorem MultipathQuicConnection.insertPath_iff (hr : c.Recorded) (hl : c.WithinLimits)
    (call now : Nat) :
    (c.insertPath call now).WithinLimits ∧ c.KeepsPaths (c.insertPath call now) ↔
      c.Spares (.insertPath call now) := by
  rw [MultipathQuicConnection.Spares, MultipathQuicConnection.insertPath]
  split
  · next pathId localAddr remoteAddr hcall =>
    have hspares : (∀ id la ra, c.calls[call]? = some (.numbered id la ra) →
        c.paths[id]? = none ∧ c.paths.size < c.config.maxPaths.toNat) ↔
          c.paths[pathId]? = none ∧ c.paths.size < c.config.maxPaths.toNat := by
      rw [hcall]
      constructor
      · intro h
        exact h pathId localAddr remoteAddr rfl
      · rintro h id la ra he
        cases he
        exact h
    rw [hspares]
    cases hstored : c.paths[pathId]? with
    | some e =>
      refine iff_of_false ?_ (fun h => by cases h.1)
      rintro ⟨⟨hdistinct, -⟩, -⟩
      have hmem : pathId ∈ c.handedOut := by
        rw [hr, hstored]
        rfl
      exact (List.nodup_append.mp hdistinct).2.2 pathId hmem pathId (List.mem_singleton_self _) rfl
    | none =>
      have hkeeps (later : MultipathQuicConnection) (e : MultipathEntry)
          (hlater : later.paths = c.paths.insert pathId e) : c.KeepsPaths later := by
        intro id old hold
        have hne : pathId ≠ id := by
          rintro rfl
          rw [hstored] at hold
          cases hold
        refine ⟨old, ?_, rfl, rfl, rfl, rfl⟩
        rw [hlater, getElem?_insert_of_ne _ _ hne, hold]
      rw [and_iff_right rfl, and_iff_left (hkeeps _ _ rfl)]
      exact hl.insert_iff hr hstored _ _
  · next hcall =>
    exact iff_of_true ⟨hl, .refl c⟩ (fun id la ra he => (hcall id la ra he).elim)

theorem MultipathQuicConnection.Recorded.insertPath (hr : c.Recorded) (call now : Nat) :
    (c.insertPath call now).Recorded := by
  rw [MultipathQuicConnection.insertPath]
  split
  · next pathId _ _ _ =>
    intro id
    change id ∈ c.handedOut ++ [pathId] ↔ ((c.paths.insert pathId _)[id]?).isSome = true
    rw [getElem?_insert_eq, List.mem_append, List.mem_singleton, hr]
    split
    · next he => exact iff_of_true (.inr he.symm) rfl
    · next hne => exact or_iff_left (fun he => hne he.symm)
  · exact hr

theorem MultipathQuicConnection.Recorded.step (hr : c.Recorded) (op : MultipathOp) :
    (c.step op).Recorded := by
  by_cases hop : ∃ call now, op = .insertPath call now
  · obtain ⟨call, now, rfl⟩ := hop
    exact hr.insertPath call now
  · exact (c.step_frame (fun call now he => hop ⟨call, now, he⟩)).recorded hr

theorem MultipathQuicConnection.step_iff (hr : c.Recorded) (hl : c.WithinLimits)
    (op : MultipathOp) :
    (c.step op).WithinLimits ∧ c.KeepsPaths (c.step op) ∧ c.RefusesRightly op ↔ c.Spares op := by
  by_cases hop : ∃ call now, op = .insertPath call now
  · obtain ⟨call, now, rfl⟩ := hop
    rw [← c.insertPath_iff hr hl call now]
    exact and_congr_right (fun _ => and_iff_left trivial)
  · have hframe := c.step_frame (fun call now he => hop ⟨call, now, he⟩)
    rw [and_iff_right (hframe.withinLimits hl), and_iff_right hframe.keeps]
    cases op with
    | addPath call localAddr remoteAddr => exact hl.refusesRightly_iff call localAddr remoteAddr
    | insertPath call now => exact (hop ⟨call, now, rfl⟩).elim
    | takePathId call => exact Iff.rfl
    | activatePath pathId => exact Iff.rfl
    | standbyPath pathId => exact Iff.rfl
    | abandonPath pathId => exact Iff.rfl
    | seamlessFailover failedPath order => exact Iff.rfl

end Steps

/-- Along a run the limits hold, no stored path is overwritten and no call is refused wrongly. -/
structure KeepsLimits (config : MultipathConfig) (ops : List MultipathOp) : Prop where
  withinLimits : ∀ ops', ops' <+: ops →
    ((MultipathQuicConnection.new config).run ops').WithinLimits
  keepsPaths : ∀ ops₁ op, ops₁ ++ [op] <+: ops →
    ((MultipathQuicConnection.new config).run ops₁).KeepsPaths
      (((MultipathQuicConnection.new config).run ops₁).step op)
  refusesRightly : ∀ ops₁ op, ops₁ ++ [op] <+: ops →
    ((MultipathQuicConnection.new config).run ops₁).RefusesRightly op

theorem keeps_limits_iff (config : MultipathConfig) (ops : List MultipathOp) :
    KeepsLimits config ops ↔
      Guarded MultipathQuicConnection.step MultipathQuicConnection.Spares
        (MultipathQuicConnection.new config) ops := by
  rw [← forall_prefix_and_guarded_iff_of (W := MultipathQuicConnection.Recorded)
    (R := fun c op => c.KeepsPaths (c.step op) ∧ c.RefusesRightly op)
    (MultipathQuicConnection.new_recorded config) (fun _ op h => h.step op)
    (MultipathQuicConnection.new_withinLimits config) (fun c op hr hl => c.step_iff hr hl op),
    guarded_iff_forall_step]
  constructor
  · intro h
    exact ⟨h.withinLimits, fun ops₁ op hl => ⟨h.keepsPaths ops₁ op hl, h.refusesRightly ops₁ op hl⟩⟩
  · rintro ⟨hlimits, hsteps⟩
    exact ⟨hlimits, fun ops₁ op hl => (hsteps ops₁ op hl).1,
      fun ops₁ op hl => (hsteps ops₁ op hl).2⟩

def anyAddr : SocketAddr := ⟨.v4 0, 0⟩

/-- A call that runs by itself from its check to its insertion. -/
def addAlone (call : Nat) : List MultipathOp :=
  [.addPath call anyAddr anyAddr, .takePathId call, .insertPath call 0]

/-- So many calls find room before the first of them inserts its path; then the first and the last
one do. -/
def addTogether (calls : Nat) : List MultipathOp :=
  (List.range calls).map (fun call => .addPath call anyAddr anyAddr) ++
    (List.range calls).map .takePathId ++ [.insertPath 0 0, .insertPath (calls - 1) 0]

/-- Two calls that find room for one path both insert theirs; a path that is on its way out keeps
the next one from being added; of 257 calls the last one gets the first one's id. -/
theorem limits_broken :
    ¬ KeepsLimits ⟨1, true⟩ (addTogether 2) ∧
      ¬ KeepsLimits ⟨1, true⟩ (addAlone 0 ++ [.abandonPath 1, .addPath 1 anyAddr anyAddr]) ∧
      ¬ KeepsLimits ⟨4, true⟩ (addTogether 257) := by
  refine ⟨?_, ?_, ?_⟩
  · intro h
    exact absurd (h.withinLimits _ (List.prefix_refl _)).limited (by decide +kernel)
  · intro h
    have hrefused := h.refusesRightly (addAlone 0 ++ [.abandonPath 1]) (.addPath 1 anyAddr anyAddr)
      (List.prefix_refl _) (by decide +kernel) (by decide +kernel)
    exact absurd hrefused (by decide +kernel)
  · intro h
    exact absurd (h.withinLimits _ (List.prefix_refl _)).distinct (by decide +kernel)

end P2PMesh.Multipath
