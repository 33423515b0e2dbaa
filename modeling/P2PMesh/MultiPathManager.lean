import P2PMesh.Base.Run
import P2PMesh.Base.Table
import P2PMesh.Tunnel

namespace P2PMesh.PathManager
open P2PMesh.Base P2PMesh.Tunnel
set_option autoImplicit true

def pathPriority : PathType → Nat
  | .localPath => 0
  | .direct => 1
  | .relay => 2

instance : Ord PathType where
  compare := compareOn pathPriority

instance : Std.TransOrd PathType :=
  inferInstanceAs (Std.TransCmp (compareOn pathPriority))

instance : Std.LawfulEqOrd PathType where
  eq_of_compare {p q} h := by cases p <;> cases q <;> first | rfl | cases h

structure PathStatus where
  pathType : PathType
  addr : SocketAddr
  active : Bool
  establishedAt : Nat
  probes : Nat
deriving DecidableEq

abbrev PeerPaths := Std.TreeMap PathType PathStatus

structure MultiPathManager where
  paths : Std.TreeMap String PeerPaths
  activePath : Std.TreeMap String PathType

def MultiPathManager.new : MultiPathManager := ⟨∅, ∅⟩

section Manager
variable (m : MultiPathManager)

def MultiPathManager.registerPath (peerId : String) (pathType : PathType) (addr : SocketAddr)
    (now : Nat) : MultiPathManager :=
  let peerPaths := (m.paths[peerId]?).getD ∅
  { m with
    paths := m.paths.insert peerId (peerPaths.insert pathType ⟨pathType, addr, true, now, 0⟩) }

def MultiPathManager.clearActive (peerId : String) (pathType : PathType) :
    Std.TreeMap String PathType :=
  if m.activePath[peerId]? = some pathType then m.activePath.erase peerId else m.activePath

def MultiPathManager.removePath (peerId : String) (pathType : PathType) : MultiPathManager where
  paths :=
    match m.paths[peerId]? with
    | none => m.paths
    | some peerPaths =>
      let peerPaths := peerPaths.erase pathType
      if peerPaths.isEmpty then m.paths.erase peerId else m.paths.insert peerId peerPaths
  activePath := m.clearActive peerId pathType

/-- The status of one path after a write; a path that is not registered is passed over. -/
def MultiPathManager.updateStatus (peerId : String) (pathType : PathType)
    (f : PathStatus → PathStatus) : Std.TreeMap String PeerPaths :=
  m.paths.modify peerId (fun peerPaths => peerPaths.modify pathType f)

def MultiPathManager.markInactive (peerId : String) (pathType : PathType) :
    MultiPathManager where
  paths := m.updateStatus peerId pathType (fun status => { status with active := false })
  activePath := m.clearActive peerId pathType

def MultiPathManager.markActive (peerId : String) (pathType : PathType) (now : Nat) :
    MultiPathManager :=
  { m with
    paths := m.updateStatus peerId pathType
      (fun status => { status with active := true, establishedAt := now }) }

def MultiPathManager.getActiveAddr (peerId : String) : Option SocketAddr :=
  match m.activePath[peerId]? with
  | none => none
  | some pathType =>
    match m.paths[peerId]? with
    | none => none
    | some peerPaths =>
      match peerPaths[pathType]? with
      | none => none
      | some status => if status.active then some status.addr else none

def MultiPathManager.isPeerReachable (peerId : String) : Bool :=
  match m.paths[peerId]? with
  | none => false
  | some peerPaths => peerPaths.toList.any (fun e => e.2.active)

end Manager

inductive PathOp where
  | registerPath (peerId : String) (pathType : PathType) (addr : SocketAddr) (now : Nat)
  | removePath (peerId : String) (pathType : PathType)
  | markActive (peerId : String) (pathType : PathType) (now : Nat)
  | markInactive (peerId : String) (pathType : PathType)
deriving DecidableEq

def MultiPathManager.step (m : MultiPathManager) : PathOp → MultiPathManager
  | .registerPath peerId pathType addr now => m.registerPath peerId pathType addr now
  | .removePath peerId pathType => m.removePath peerId pathType
  | .markActive peerId pathType now => m.markActive peerId pathType now
  | .markInactive peerId pathType => m.markInactive peerId pathType

def MultiPathManager.path (m : MultiPathManager) (peerId : String) (pathType : PathType) :
    Option PathStatus :=
  m.paths[peerId]?.bind (fun peerPaths => peerPaths[pathType]?)

/-- The path of a peer that was marked active last, and whether it was registered then. -/
structure Marked where
  pathType : PathType
  registered : Bool
deriving DecidableEq

/-- The manager with what its callers have marked: the mark of a peer lasts until the path is
marked inactive or removed, or another path of the peer is marked. -/
structure History where
  manager : MultiPathManager
  marked : String → Option Marked

def History.new : History := ⟨.new, fun _ => none⟩

def History.unmark (h : History) (peerId : String) (pathType : PathType) (p : String) :
    Option Marked :=
  if p = peerId then (h.marked p).filter (fun mark => mark.pathType ≠ pathType) else h.marked p

def History.marks (h : History) : PathOp → String → Option Marked
  | .registerPath .. => h.marked
  | .removePath peerId pathType => h.unmark peerId pathType
  | .markActive peerId pathType _ => fun p =>
    if p = peerId then some ⟨pathType, (h.manager.path peerId pathType).isSome⟩ else h.marked p
  | .markInactive peerId pathType => h.unmark peerId pathType

def History.step (h : History) (op : PathOp) : History := ⟨h.manager.step op, h.marks op⟩

def History.run (h : History) (ops : List PathOp) : History := ops.foldl History.step h

/-- Under a mark, a path that was registered is the one whose address the manager gives, and of a
peer that can be reached it gives some address. -/
def History.Serves (h : History) : Prop :=
  ∀ p mark, h.marked p = some mark →
    (mark.registered = true → ∃ status, h.manager.path p mark.pathType = some status ∧
      h.manager.getActiveAddr p = some status.addr) ∧
    (h.manager.isPeerReachable p = true → h.manager.getActiveAddr p ≠ none)

/-- A path is marked active only where it is not registered and the peer cannot be reached, and
no path of a marked peer is registered. -/
def History.Idle (h : History) : PathOp → Prop
  | .registerPath peerId .. => h.marked peerId = none
  | .markActive peerId pathType _ =>
    h.manager.path peerId pathType = none ∧ h.manager.isPeerReachable peerId = false
  | .removePath .. | .markInactive .. => True

section Lookups
variable (m : MultiPathManager)

theorem MultiPathManager.path_of_paths {m' : MultiPathManager} {peerId : String}
    {peerPaths : PeerPaths} (h : m'.paths = m.paths.insert peerId peerPaths) (q : String)
    (u : PathType) :
    m'.path q u = if q = peerId then peerPaths[u]? else m.path q u := by
  rw [MultiPathManager.path, h, getElem?_insert_eq]
  by_cases hq : q = peerId
  · rw [if_pos hq.symm, if_pos hq, Option.bind_some]
  · rw [if_neg (Ne.symm hq), if_neg hq]
    rfl

theorem MultiPathManager.path_registerPath (p : String) (t : PathType) (addr : SocketAddr)
    (now : Nat) (q : String) (u : PathType) : (m.registerPath p t addr now).path q u =
      if q = p ∧ u = t then some ⟨t, addr, true, now, 0⟩ else m.path q u := by
  rw [m.path_of_paths rfl]
  by_cases hq : q = p
  · subst hq
    rw [if_pos rfl, getElem?_insert_eq]
    by_cases hu : u = t
    · rw [if_pos hu.symm, if_pos ⟨rfl, hu⟩]
    · rw [if_neg (Ne.symm hu), if_neg (fun h => hu h.2), MultiPathManager.path]
      cases m.paths[q]? with
      | none => rw [Option.getD_none, Std.TreeMap.getElem?_emptyc, Option.bind_none]
      | some peerPaths => rw [Option.getD_some, Option.bind_some]
  · rw [if_neg hq, if_neg (fun h => hq h.1)]

theorem MultiPathManager.path_removePath (p : String) (t : PathType) (q : String)
    (u : PathType) :
    (m.removePath p t).path q u = if q = p ∧ u = t then none else m.path q u := by
  cases hp : m.paths[p]? with
  | none =>
    have hpaths : (m.removePath p t).paths = m.paths := by
      simp only [MultiPathManager.removePath, hp]
    rw [MultiPathManager.path, hpaths]
    split
    · next h => rw [h.1, hp, Option.bind_none]
    · rfl
  | some peerPaths =>
    have hpath : m.path p u = peerPaths[u]? := by rw [MultiPathManager.path, hp, Option.bind_some]
    have herase : (m.removePath p t).path q u =
        if q = p then (peerPaths.erase t)[u]? else m.path q u := by
      cases he : (peerPaths.erase t).isEmpty with
      | true =>
        have hpaths : (m.removePath p t).paths = m.paths.erase p := by
          simp only [MultiPathManager.removePath, hp, he, if_true]
        rw [MultiPathManager.path, hpaths, getElem?_erase_eq]
        by_cases hq : q = p
        · rw [if_pos hq.symm, if_pos hq, Option.bind_none,
            Std.TreeMap.getElem?_of_isEmpty he]
        · rw [if_neg (Ne.symm hq), if_neg hq]
          rfl
      | false =>
        apply m.path_of_paths
        simp only [MultiPathManager.removePath, hp, he, Bool.false_eq_true, if_false]
    rw [herase]
    by_cases hq : q = p
    · subst hq
      rw [if_pos rfl, getElem?_erase_eq, hpath]
      by_cases hu : u = t
      · rw [if_pos hu.symm, if_pos ⟨rfl, hu⟩]
      · rw [if_neg (Ne.symm hu), if_neg (fun h => hu h.2)]
    · rw [if_neg hq, if_neg (fun h => hq h.1)]

theorem MultiPathManager.path_of_update {m' : MultiPathManager}
    (h : m'.paths = m.updateStatus p t f) (q : String) (u : PathType) :
    m'.path q u = if q = p ∧ u = t then (m.path q u).map f else m.path q u := by
  rw [MultiPathManager.path, h, MultiPathManager.updateStatus, getElem?_modify_eq,
    MultiPathManager.path]
  by_cases hq : q = p
  · subst hq
    rw [if_pos rfl]
    cases m.paths[q]? with
    | none =>
      rw [Option.map_none, Option.bind_none, Option.map_none, ite_self]
    | some peerPaths =>
      rw [Option.map_some, Option.bind_some, Option.bind_some, getElem?_modify_eq]
      by_cases hu : u = t
      · rw [if_pos hu.symm, if_pos ⟨rfl, hu⟩, hu]
      · rw [if_neg (Ne.symm hu), if_neg (fun h => hu h.2)]
  · rw [if_neg (Ne.symm hq), if_neg (fun h => hq h.1)]

theorem MultiPathManager.isPeerReachable_iff (p : String) :
    m.isPeerReachable p = true ↔ ∃ u status, m.path p u = some status ∧ status.active = true := by
  rw [MultiPathManager.isPeerReachable]
  cases hp : m.paths[p]? with
  | none =>
    constructor
    · exact fun h => (Bool.false_ne_true h).elim
    · rintro ⟨u, status, hs, -⟩
      rw [MultiPathManager.path, hp] at hs
      cases hs
  | some peerPaths =>
    simp only [MultiPathManager.path, hp, Option.bind_some, List.any_eq_true]
    constructor
    · rintro ⟨e, he, ha⟩
      exact ⟨e.1, e.2, Std.TreeMap.mem_toList_iff_getElem?_eq_some.mp he, ha⟩
    · rintro ⟨u, status, hs, ha⟩
      exact ⟨(u, status), Std.TreeMap.mem_toList_iff_getElem?_eq_some.mpr hs, ha⟩

theorem MultiPathManager.unreachable_of_le {m' : MultiPathManager}
    (h : ∀ u status, m'.path p u = some status → status.active = true → m.path p u = some status)
    (hr : m.isPeerReachable p = false) : m'.isPeerReachable p = false := by
  rw [Bool.eq_false_iff] at hr ⊢
  intro hr'
  obtain ⟨u, status, hs, ha⟩ := (m'.isPeerReachable_iff p).mp hr'
  exact hr ((m.isPeerReachable_iff p).mpr ⟨u, status, h u status hs ha, ha⟩)

theorem MultiPathManager.getActiveAddr_of_empty (h : m.activePath[p]? = none) :
    m.getActiveAddr p = none := by
  rw [MultiPathManager.getActiveAddr, h]

theorem MultiPathManager.clearActive_eq (h : m.activePath[p]? = none) (t : PathType) :
    m.clearActive p t = m.activePath := by
  rw [MultiPathManager.clearActive, h, if_neg (Option.some_ne_none t).symm]

end Lookups

/-- No operation enters a path in the map of active paths. -/
def MultiPathManager.Unset (m : MultiPathManager) : Prop :=
  ∀ p : String, m.activePath[p]? = none

theorem MultiPathManager.Unset.step {m : MultiPathManager} (h : m.Unset) (op : PathOp) :
    (m.step op).Unset := by
  cases op with
  | registerPath p t addr now => exact h
  | removePath p t =>
    intro q
    change (m.clearActive p t)[q]? = none
    rw [m.clearActive_eq (h p) t]
    exact h q
  | markActive p t now => exact h
  | markInactive p t =>
    intro q
    change (m.clearActive p t)[q]? = none
    rw [m.clearActive_eq (h p) t]
    exact h q

theorem History.run_unset (ops : List PathOp) : (History.new.run ops).manager.Unset := by
  apply run_invariant History.step (I := fun h : History => h.manager.Unset)
  · intro p
    exact Std.TreeMap.getElem?_emptyc
  · exact fun h op hu => hu.step op

section Serving
variable {h : History}

theorem History.serves_iff (hu : h.manager.Unset) : h.Serves ↔
    ∀ p mark, h.marked p = some mark →
      mark.registered = false ∧ h.manager.isPeerReachable p = false := by
  refine forall_congr' fun p => forall_congr' fun mark => imp_congr_right fun _ => ?_
  rw [h.manager.getActiveAddr_of_empty (hu p)]
  constructor
  · rintro ⟨hreg, hreach⟩
    constructor
    · rw [Bool.eq_false_iff]
      intro hr
      obtain ⟨status, -, haddr⟩ := hreg hr
      cases haddr
    · rw [Bool.eq_false_iff]
      exact fun hr => hreach hr rfl
  · rintro ⟨hreg, hreach⟩
    rw [hreg, hreach]
    exact ⟨fun hr => (Bool.false_ne_true hr).elim, fun hr => (Bool.false_ne_true hr).elim⟩

theorem History.marked_of_unmark (hm : h.unmark p t q = some mark) : h.marked q = some mark := by
  rw [History.unmark] at hm
  split at hm
  · exact (Option.filter_eq_some_iff.mp hm).1
  · exact hm

theorem History.Serves.of_le {h' : History} (hs : h.Serves) (hu : h.manager.Unset)
    (hu' : h'.manager.Unset) (hmarked : ∀ p mark, h'.marked p = some mark → h.marked p = some mark)
    (hpath : ∀ p u status, h'.manager.path p u = some status → status.active = true →
      h.manager.path p u = some status) : h'.Serves := by
  rw [History.serves_iff hu']
  rw [History.serves_iff hu] at hs
  intro p mark hm
  obtain ⟨hreg, hreach⟩ := hs p mark (hmarked p mark hm)
  exact ⟨hreg, MultiPathManager.unreachable_of_le _ (hpath p) hreach⟩

theorem History.Serves.removePath (hs : h.Serves) (hu : h.manager.Unset) (p : String)
    (t : PathType) : (h.step (.removePath p t)).Serves := by
  refine hs.of_le hu (hu.step (.removePath p t)) ?_ ?_
  · exact fun q mark hm => History.marked_of_unmark hm
  · intro q u status hpath ha
    change (h.manager.removePath p t).path q u = some status at hpath
    rw [MultiPathManager.path_removePath] at hpath
    split at hpath
    · cases hpath
    · exact hpath

theorem History.Serves.markInactive (hs : h.Serves) (hu : h.manager.Unset) (p : String)
    (t : PathType) : (h.step (.markInactive p t)).Serves := by
  refine hs.of_le hu (hu.step (.markInactive p t)) ?_ ?_
  · exact fun q mark hm => History.marked_of_unmark hm
  · intro q u status hpath ha
    change (h.manager.markInactive p t).path q u = some status at hpath
    rw [h.manager.path_of_update rfl] at hpath
    split at hpath
    · obtain ⟨old, -, he⟩ := Option.map_eq_some_iff.mp hpath
      rw [← he] at ha
      cases ha
    · exact hpath

theorem History.registerPath_serves_iff (hs : h.Serves) (hu : h.manager.Unset) (p : String)
    (t : PathType) (addr : SocketAddr) (now : Nat) :
    (h.step (.registerPath p t addr now)).Serves ↔ h.marked p = none := by
  rw [History.serves_iff (h := h.step _) (hu.step (.registerPath p t addr now))]
  constructor
  · intro hs'
    rw [Option.eq_none_iff_forall_ne_some]
    intro mark hm
    have hreach := (hs' p mark hm).2
    rw [Bool.eq_false_iff] at hreach
    apply hreach
    rw [MultiPathManager.isPeerReachable_iff]
    refine ⟨t, ⟨t, addr, true, now, 0⟩, ?_, rfl⟩
    exact (h.manager.path_registerPath p t addr now p t).trans (if_pos ⟨rfl, rfl⟩)
  · intro hnone q mark hm
    change h.marked q = some mark at hm
    rw [History.serves_iff hu] at hs
    obtain ⟨hreg, hreach⟩ := hs q mark hm
    refine ⟨hreg, MultiPathManager.unreachable_of_le h.manager ?_ hreach⟩
    intro u status hpath _
    have hq : q ≠ p := by
      rintro rfl
      rw [hnone] at hm
      cases hm
    rwa [History.step, MultiPathManager.step, MultiPathManager.path_registerPath,
      if_neg (fun hc => hq hc.1)] at hpath

theorem History.markActive_serves_iff (hs : h.Serves) (hu : h.manager.Unset) (p : String)
    (t : PathType) (now : Nat) : (h.step (.markActive p t now)).Serves ↔
      h.manager.path p t = none ∧ h.manager.isPeerReachable p = false := by
  have hpath : ∀ q u, ((h.step (.markActive p t now)).manager.path q u) =
      if q = p ∧ u = t then (h.manager.path q u).map
        (fun status => { status with active := true, establishedAt := now })
      else h.manager.path q u := fun q u => h.manager.path_of_update rfl q u
  have hmarked : ∀ q, (h.step (.markActive p t now)).marked q =
      if q = p then some ⟨t, (h.manager.path p t).isSome⟩ else h.marked q := fun _ => rfl
  -- a path that is not registered stays so, and all others stay as they are
  have hsame : h.manager.path p t = none → ∀ q u status,
      (h.step (.markActive p t now)).manager.path q u = some status ↔
        h.manager.path q u = some status := by
    intro hnone q u status
    rw [hpath]
    split
    · next hc => rw [hc.1, hc.2, hnone, Option.map_none]
    · rfl
  rw [History.serves_iff (h := h.step _) (hu.step (.markActive p t now))]
  constructor
  · intro hs'
    obtain ⟨hreg, hreach⟩ := hs' p _ ((hmarked p).trans (if_pos rfl))
    have hnone : h.manager.path p t = none :=
      Option.isNone_iff_eq_none.mp (Option.isSome_eq_false_iff.mp hreg)
    refine ⟨hnone, MultiPathManager.unreachable_of_le _ ?_ hreach⟩
    exact fun u status hp _ => (hsame hnone p u status).mpr hp
  · rintro ⟨hnone, hreach⟩ q mark hm
    rw [hmarked] at hm
    have hold : mark.registered = false ∧ h.manager.isPeerReachable q = false := by
      split at hm
      · next hq =>
        cases hm
        rw [hq, hnone]
        exact ⟨rfl, hreach⟩
      · exact (History.serves_iff hu).mp hs q mark hm
    refine ⟨hold.1, MultiPathManager.unreachable_of_le h.manager ?_ hold.2⟩
    exact fun u status hp _ => (hsame hnone q u status).mp hp

theorem History.step_serves_iff (hs : h.Serves) (hu : h.manager.Unset) (op : PathOp) :
    (h.step op).Serves ↔ h.Idle op := by
  cases op with
  | registerPath p t addr now => exact History.registerPath_serves_iff hs hu p t addr now
  | removePath p t => exact iff_of_true (hs.removePath hu p t) trivial
  | markActive p t now => exact History.markActive_serves_iff hs hu p t now
  | markInactive p t => exact iff_of_true (hs.markInactive hu p t) trivial

end Serving

/-- The addresses of active paths are served through a run exactly where nothing is ever marked
active that could be served. -/
theorem active_path_served_iff (ops : List PathOp) :
    (∀ ops', ops' <+: ops → (History.new.run ops').Serves) ↔
      Guarded History.step History.Idle History.new ops := by
  refine forall_prefix_iff_of (W := fun h : History => h.manager.Unset) (History.run_unset [])
    (fun h op hu => hu.step op) ?_ (fun h op hu hs => History.step_serves_iff hs hu op) ops
  intro p mark hm
  cases hm

def markedDirect : List PathOp :=
  [.registerPath "p" .direct ⟨.v4 0x08080808#32, 4000⟩ 0, .markActive "p" .direct 1]

/-- A registered path that is marked active has no address. -/
theorem marked_path_not_served : ¬ (History.new.run markedDirect).Serves := by
  have hm : (History.new.run markedDirect).marked "p" = some ⟨.direct, true⟩ := by decide +kernel
  intro h
  rw [History.serves_iff (History.run_unset markedDirect)] at h
  exact absurd (h "p" _ hm).1 (by decide)

section Establishment
variable {S : CryptoSuite} {m : MultiPathManager}

/-- A call of the establishment as an operation of the manager. -/
def callOp (now : Nat) : PathCall → PathOp
  | .registerPath peerId pathType addr => .registerPath peerId pathType addr now
  | .markActive peerId pathType => .markActive peerId pathType now

def MultiPathManager.apply (m : MultiPathManager) (now : Nat) (calls : List PathCall) :
    MultiPathManager :=
  (calls.map (callOp now)).foldl MultiPathManager.step m

theorem MultiPathManager.callOp_reachable (h : m.isPeerReachable p = true) (call : PathCall)
    (now : Nat) : (m.step (callOp now call)).isPeerReachable p = true := by
  rw [MultiPathManager.isPeerReachable_iff] at h ⊢
  obtain ⟨u, status, hs, ha⟩ := h
  cases call with
  | registerPath q t addr =>
    refine ⟨u, ?_⟩
    rw [callOp, MultiPathManager.step, MultiPathManager.path_registerPath]
    split
    · exact ⟨_, rfl, rfl⟩
    · exact ⟨status, hs, ha⟩
  | markActive q t =>
    refine ⟨u, ?_⟩
    rw [callOp, MultiPathManager.step, MultiPathManager.path_of_update m rfl, hs]
    split
    · exact ⟨_, rfl, rfl⟩
    · exact ⟨status, rfl, ha⟩

theorem establish_registers (h : establishP2pConnection S env peerId ourDeviceId candidates relay =
    some (.ok result, calls)) :
    ∃ addr rest, calls = .registerPath peerId .direct addr :: rest := by
  simp only [establishP2pConnection] at h
  split at h
  · cases h
  · split at h
    · cases h
    · cases h
      exact ⟨_, _, rfl⟩
    · split at h
      · cases h
        exact ⟨_, _, rfl⟩
      · cases h

/-- After a successful establishment the peer can be reached and has no address to send to. -/
theorem established_peer_has_no_address (hm : m.Unset) (now : Nat)
    (h : establishP2pConnection S env peerId ourDeviceId candidates relay =
      some (.ok result, calls)) :
    (m.apply now calls).isPeerReachable peerId = true ∧
      (m.apply now calls).getActiveAddr peerId = none := by
  obtain ⟨addr, rest, hcalls⟩ := establish_registers h
  constructor
  · rw [hcalls, MultiPathManager.apply, List.map_cons, List.foldl_cons, List.foldl_map]
    refine run_invariant _ (I := fun m : MultiPathManager => m.isPeerReachable peerId = true) ?_
      (fun m call hr => MultiPathManager.callOp_reachable hr call now) rest
    rw [MultiPathManager.isPeerReachable_iff]
    refine ⟨.direct, ⟨.direct, addr, true, now, 0⟩, ?_, rfl⟩
    exact (m.path_registerPath peerId .direct addr now _ _).trans (if_pos ⟨rfl, rfl⟩)
  · apply MultiPathManager.getActiveAddr_of_empty
    exact run_invariant MultiPathManager.step (I := MultiPathManager.Unset) hm
      (fun m op hu => hu.step op) (calls.map (callOp now)) peerId

end Establishment

end P2PMesh.PathManager
