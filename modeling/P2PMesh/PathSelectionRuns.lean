import P2PMesh.PathSelection

namespace P2PMesh.PathSelection
open P2PMesh.Base
set_option autoImplicit true

section Deadlock
variable {A : FloatArith F} {s : PathSelector F}

/-- A removal waits for the active paths while a lookup that reads them waits for the paths. -/
structure PathSelector.Deadlocked (s : PathSelector F) : Prop where
  removing : s.removing.isSome = true
  looking : s.looking.isEmpty = false

/-- Whatever is called, nothing that is stored changes again, and no call that is under way
returns. -/
def PathSelector.Frozen (A : FloatArith F) (s : PathSelector F) : Prop :=
  ∀ ops, (s.run A ops).paths = s.paths ∧ (s.run A ops).activePaths = s.activePaths ∧
    (s.run A ops).removing = s.removing ∧
      ∀ (call : Nat) e, s.looking[call]? = some e → (s.run A ops).looking[call]? = some e

theorem PathSelector.Deadlocked.pathsFree (h : s.Deadlocked) : s.pathsFree = false := by
  rw [PathSelector.pathsFree, ← Option.not_isSome, h.removing]
  rfl

theorem PathSelector.Deadlocked.readActive (h : s.Deadlocked) (peerId : String)
    (hnew : (s.looking[call]?).isNone = true) : (s.readActive call peerId).Deadlocked ∧
      ∀ (call' : Nat) e, s.looking[call']? = some e →
        (s.readActive call peerId).looking[call']? = some e := by
  rw [PathSelector.readActive]
  split
  · exact ⟨h, fun _ _ he => he⟩
  · refine ⟨⟨h.removing, Std.TreeMap.isEmpty_insert⟩, fun call' e he => ?_⟩
    change (s.looking.insert call _)[call']? = some e
    rw [getElem?_insert_of_ne, he]
    rintro rfl
    rw [he] at hnew
    cases hnew

/-- The one step that gets on is a new lookup that joins those that wait. -/
theorem PathSelector.Deadlocked.step (h : s.Deadlocked) (op : SelectorOp F) :
    (s.step A op).Deadlocked ∧ ((s.step A op).paths = s.paths ∧
      (s.step A op).activePaths = s.activePaths ∧ (s.step A op).removing = s.removing ∧
        ∀ (call : Nat) e, s.looking[call]? = some e → (s.step A op).looking[call]? = some e) := by
  have hsame : s.Deadlocked ∧ (s.paths = s.paths ∧ s.activePaths = s.activePaths ∧
      s.removing = s.removing ∧
        ∀ (call : Nat) e, s.looking[call]? = some e → s.looking[call]? = some e) :=
    ⟨h, rfl, rfl, rfl, fun _ _ he => he⟩
  have hactive : s.activeFree = false := h.looking
  cases op with
  | addPath peerId path =>
    rw [PathSelector.step, if_neg (by rw [h.pathsFree]; exact Bool.false_ne_true)]
    exact hsame
  | removePath peerId pathId =>
    rw [PathSelector.step, if_neg (by rw [h.pathsFree]; exact Bool.false_ne_true)]
    exact hsame
  | clearActive =>
    rw [PathSelector.step]
    split
    · rw [if_neg (by rw [hactive]; exact Bool.false_ne_true)]
      exact hsame
    · exact hsame
  | updateMetrics peerId pathId m =>
    rw [PathSelector.step, if_neg (by rw [h.pathsFree]; exact Bool.false_ne_true)]
    exact hsame
  | setActivePath peerId pathId =>
    rw [PathSelector.step, if_neg (by rw [hactive]; exact Bool.false_ne_true)]
    exact hsame
  | readActive call peerId =>
    rw [PathSelector.step]
    split
    · next hnew =>
      obtain ⟨hdead, hlooking⟩ := h.readActive peerId hnew
      refine ⟨hdead, ?_, ?_, ?_, hlooking⟩
      all_goals
        rw [PathSelector.readActive]
        split
        · rfl
        · rfl
    · exact hsame
  | readPaths call =>
    rw [PathSelector.step, if_neg (by rw [h.pathsFree]; exact Bool.false_ne_true)]
    exact hsame

theorem PathSelector.Deadlocked.frozen (h : s.Deadlocked) : s.Frozen A := by
  intro ops
  induction ops generalizing s with
  | nil => exact ⟨rfl, rfl, rfl, fun _ _ he => he⟩
  | cons op ops ih =>
    obtain ⟨hdead, hpaths, hactive, hremoving, hlooking⟩ := h.step (A := A) op
    obtain ⟨hpaths', hactive', hremoving', hlooking'⟩ := ih hdead
    exact ⟨hpaths'.trans hpaths, hactive'.trans hactive, hremoving'.trans hremoving,
      fun call e he => hlooking' call e (hlooking call e he)⟩

theorem PathSelector.addPath_ne (hfree : s.pathsFree = true) (path : NetworkPath F) :
    (s.step A (.addPath "" path)).paths ≠ s.paths := by
  rw [PathSelector.step, if_pos hfree]
  intro h
  have hget := congrArg (fun t : Std.TreeMap String (List (NetworkPath F)) => (t[""]?).getD []) h
  change ((s.paths.insert "" (s.pathsOf "" ++ [path]))[""]?).getD [] = s.pathsOf "" at hget
  rw [Std.TreeMap.getElem?_insert_self, Option.getD_some] at hget
  exact List.cons_ne_nil _ _ (List.append_right_eq_self.mp hget)

/-- A path of which nothing is known yet. -/
def freshPath (A : FloatArith F) (pathId : String) (ipVersion : IpVersion) : NetworkPath F :=
  ⟨pathId, ⟨.v4 0, 0⟩, none, .direct, ipVersion, .active,
    ⟨0, A.literal 0, 0, 0, A.literal 0, 0⟩, A.literal 0, 0, 0, 0, none⟩

/-- The selector is dead for good exactly if a removal holds the paths and waits for the active
paths while a lookup holds those and waits for the paths. -/
theorem PathSelector.frozen_iff (A : FloatArith F) (s : PathSelector F) :
    s.Frozen A ↔ s.Deadlocked := by
  refine ⟨fun h => ?_, PathSelector.Deadlocked.frozen⟩
  cases hremoving : s.removing with
  | none =>
    have hfree : s.pathsFree = true := by rw [PathSelector.pathsFree, hremoving]; rfl
    exact (PathSelector.addPath_ne (A := A) hfree (freshPath A "" .v4) (h [.addPath "" _]).1).elim
  | some removal =>
    refine ⟨by rw [hremoving]; rfl, ?_⟩
    by_contra hempty
    have hfree : s.activeFree = true := (Bool.eq_false_or_eq_true _).resolve_right hempty
    have hkept := (h [.clearActive]).2.2.1
    change (s.step A .clearActive).removing = s.removing at hkept
    rw [PathSelector.step, hremoving] at hkept
    dsimp only at hkept
    rw [if_pos hfree] at hkept
    cases hkept

example (A : FloatArith F) : ((PathSelector.new F).run A [.setActivePath "peer" "a",
    .readActive 0 "peer", .removePath "peer" "a"]).Deadlocked :=
  ⟨rfl, rfl⟩

end Deadlock

/-- A path as it was added, with what has been measured on it since. -/
structure Tracked (F : Type) where
  added : NetworkPath F
  measured : List (Measurement F)

section Measuring
variable (A : FloatArith F)

/-- What the selector has of the path. -/
def Tracked.now (t : Tracked F) : NetworkPath F :=
  t.measured.foldl (NetworkPath.measure A) t.added

/-- The measurement takes a path out of the active ones. -/
def Measurement.bad (m : Measurement F) : Bool :=
  m.losesMore A (5 / 100) || decide (500000 < m.rttUs) || m.losesMore A (20 / 100)

/-- The path was active to start with, and no bad measurement has been made on it. -/
def Tracked.unspoiled (t : Tracked F) : Bool :=
  decide (t.added.state = .active) && t.measured.all (!·.bad A)

/-- Of all measurements the last bad one counts; without any it is the state at the start. -/
def Tracked.usable (t : Tracked F) : Bool :=
  match (t.measured.filter (·.bad A)).getLast? with
  | none => decide (t.added.state = .active ∨ t.added.state = .degraded)
  | some m => !m.losesMore A (20 / 100)

end Measuring

/-- The selector with the history of each path that is in it. -/
structure SelectorHistory (F : Type) where
  selector : PathSelector F
  tracked : Std.TreeMap String (List (Tracked F))

def SelectorHistory.new (F : Type) : SelectorHistory F := ⟨.new F, ∅⟩

section History
variable (A : FloatArith F) (h : SelectorHistory F)

def SelectorHistory.pathsOf (peerId : String) : List (Tracked F) := (h.tracked[peerId]?).getD []

/-- What a call that gets the lock on the paths does to them. -/
def SelectorHistory.track : SelectorOp F → Std.TreeMap String (List (Tracked F))
  | .addPath peerId path => h.tracked.insert peerId (h.pathsOf peerId ++ [⟨path, []⟩])
  | .removePath peerId pathId =>
    h.tracked.modify peerId (fun l => l.filter (fun t => t.added.pathId ≠ pathId))
  | .updateMetrics peerId pathId m =>
    h.tracked.modify peerId (fun l => l.map (fun t =>
      if t.added.pathId = pathId then { t with measured := t.measured ++ [m] } else t))
  | _ => h.tracked

def SelectorHistory.step (op : SelectorOp F) : SelectorHistory F where
  selector := h.selector.step A op
  tracked := if h.selector.pathsFree then h.track op else h.tracked

def SelectorHistory.run (ops : List (SelectorOp F)) : SelectorHistory F :=
  ops.foldl (SelectorHistory.step A) h

/-- The paths of the selector are those that are tracked, as they are by now. -/
def SelectorHistory.Faithful : Prop :=
  ∀ peerId : String, h.selector.pathsOf peerId = (h.pathsOf peerId).map (Tracked.now A)

end History

section Tracking
variable {A : FloatArith F} {h : SelectorHistory F}

theorem Tracked.now_pathId (t : Tracked F) : (t.now A).pathId = t.added.pathId :=
  run_invariant (I := fun p : NetworkPath F => p.pathId = t.added.pathId) (NetworkPath.measure A)
    rfl (fun _ _ hp => hp) t.measured

theorem Tracked.now_append (t : Tracked F) (m : Measurement F) :
    Tracked.now A { t with measured := t.measured ++ [m] } = (t.now A).measure A m := by
  rw [Tracked.now, List.foldl_append]
  rfl

theorem NetworkPath.measure_state (path : NetworkPath F) (m : Measurement F) :
    (path.measure A m).state = if m.bad A then
      if m.losesMore A (20 / 100) then .inactive else .degraded else path.state := by
  change (if m.losesMore A (20 / 100) then PathState.inactive
    else if m.losesMore A (5 / 100) ∨ 500000 < m.rttUs then .degraded else path.state) = _
  rw [Measurement.bad]
  cases m.losesMore A (20 / 100) with
  | true => rw [if_pos rfl, if_pos rfl, Bool.or_true, if_pos rfl]
  | false =>
    rw [if_neg Bool.false_ne_true, if_neg Bool.false_ne_true, Bool.or_false]
    simp only [Bool.or_eq_true, decide_eq_true_eq]

theorem Tracked.now_state (t : Tracked F) : (t.now A).state =
    match (t.measured.filter (·.bad A)).getLast? with
    | none => t.added.state
    | some m => if m.losesMore A (20 / 100) then .inactive else .degraded := by
  obtain ⟨added, measured⟩ := t
  induction measured using List.reverseRecOn with
  | nil => rfl
  | append_singleton measured m ih =>
    rw [Tracked.now_append ⟨added, measured⟩ m, NetworkPath.measure_state, ih,
      List.filter_append]
    cases hm : m.bad A with
    | true => rw [if_pos rfl, List.filter_cons_of_pos hm, List.filter_nil, List.getLast?_concat]
    | false =>
      rw [if_neg Bool.false_ne_true, List.filter_cons_of_neg (by rw [hm]; exact Bool.false_ne_true),
        List.filter_nil, List.append_nil]

theorem Tracked.unspoiled_iff (t : Tracked F) :
    t.unspoiled A = true ↔ (t.now A).state = .active := by
  rw [Tracked.unspoiled, Bool.and_eq_true, decide_eq_true_eq, Tracked.now_state]
  have hall : t.measured.all (!·.bad A) = true ↔ t.measured.filter (·.bad A) = [] := by
    rw [List.all_eq_true, List.filter_eq_nil_iff]
    simp only [Bool.not_eq_true', Bool.not_eq_true]
  rw [hall]
  cases hlast : (t.measured.filter (·.bad A)).getLast? with
  | none => exact and_iff_left (List.getLast?_eq_none_iff.mp hlast)
  | some m =>
    refine iff_of_false ?_ ?_
    · rintro ⟨-, hnil⟩
      rw [hnil] at hlast
      cases hlast
    · dsimp only
      split
      · rintro ⟨⟩
      · rintro ⟨⟩

theorem Tracked.usable_iff (t : Tracked F) :
    t.usable A = true ↔ (t.now A).state = .active ∨ (t.now A).state = .degraded := by
  rw [Tracked.usable, Tracked.now_state]
  cases (t.measured.filter (·.bad A)).getLast? with
  | none => exact decide_eq_true_iff
  | some m =>
    dsimp only
    cases m.losesMore A (20 / 100) with
    | true => exact iff_of_false Bool.false_ne_true (by rintro (⟨⟨⟩⟩ | ⟨⟨⟩⟩))
    | false => exact iff_of_true rfl (.inr rfl)

theorem getD_modify {β : Type} (t : Std.TreeMap String (List β)) (k k' : String)
    (f : List β → List β) (hf : f [] = []) :
    ((t.modify k f)[k']?).getD [] =
      if k = k' then f ((t[k']?).getD []) else (t[k']?).getD [] := by
  rw [getElem?_modify_eq]
  split
  · next he =>
    rw [he]
    cases t[k']? with
    | none => exact hf.symm
    | some l => rfl
  · rfl

theorem SelectorHistory.Faithful.addPath (hf : h.Faithful A) (peerId : String)
    (path : NetworkPath F) (selector : PathSelector F)
    (hs : selector.paths = (h.selector.addPath peerId path).paths) :
    SelectorHistory.Faithful A ⟨selector, h.track (.addPath peerId path)⟩ := by
  intro peerId'
  rw [PathSelector.pathsOf, hs]
  change
    ((h.selector.paths.insert peerId (h.selector.pathsOf peerId ++ [path]))[peerId']?).getD [] =
    (((h.tracked.insert peerId (h.pathsOf peerId ++ [⟨path, []⟩]))[peerId']?).getD []).map _
  rw [getElem?_insert_eq, getElem?_insert_eq]
  split
  · rw [Option.getD_some, Option.getD_some, hf peerId, List.map_append]
    rfl
  · exact hf peerId'

theorem SelectorHistory.Faithful.removePath (hf : h.Faithful A) (peerId pathId : String)
    (selector : PathSelector F)
    (hs : selector.paths = (h.selector.removePath peerId pathId).paths) :
    SelectorHistory.Faithful A ⟨selector, h.track (.removePath peerId pathId)⟩ := by
  intro peerId'
  rw [PathSelector.pathsOf, hs]
  change ((h.selector.paths.modify peerId _)[peerId']?).getD [] =
    (((h.tracked.modify peerId _)[peerId']?).getD []).map (Tracked.now A)
  rw [getD_modify _ _ _ _ rfl, getD_modify _ _ _ _ rfl]
  split
  · rw [← PathSelector.pathsOf, hf peerId', List.filter_map]
    congr 1
    apply List.filter_congr
    intro t _
    change decide ((t.now A).pathId ≠ pathId) = _
    rw [Tracked.now_pathId]
  · exact hf peerId'

theorem SelectorHistory.Faithful.updateMetrics (hf : h.Faithful A) (peerId pathId : String)
    (m : Measurement F) (selector : PathSelector F)
    (hs : selector.paths = (h.selector.updateMetrics A peerId pathId m).paths) :
    SelectorHistory.Faithful A ⟨selector, h.track (.updateMetrics peerId pathId m)⟩ := by
  intro peerId'
  rw [PathSelector.pathsOf, hs]
  change ((h.selector.paths.modify peerId _)[peerId']?).getD [] =
    (((h.tracked.modify peerId _)[peerId']?).getD []).map (Tracked.now A)
  rw [getD_modify _ _ _ _ rfl, getD_modify _ _ _ _ rfl]
  split
  · rw [← PathSelector.pathsOf, hf peerId', List.map_map, List.map_map]
    apply List.map_congr_left
    intro t _
    change (if (t.now A).pathId = pathId then (t.now A).measure A m else t.now A) =
      Tracked.now A (if _ then _ else t)
    rw [Tracked.now_pathId, apply_ite (Tracked.now A), Tracked.now_append]
  · exact hf peerId'

theorem SelectorHistory.Faithful.keep (hf : h.Faithful A) {op : SelectorOp F}
    (htrack : h.track op = h.tracked) (hs : (h.selector.step A op).paths = h.selector.paths) :
    (h.step A op).Faithful A := by
  intro peerId
  rw [SelectorHistory.step, htrack, ite_self, PathSelector.pathsOf, hs]
  exact hf peerId

theorem SelectorHistory.Faithful.step (hf : h.Faithful A) (op : SelectorOp F) :
    (h.step A op).Faithful A := by
  cases op with
  | addPath peerId path =>
    rw [SelectorHistory.step, PathSelector.step]
    split
    · exact hf.addPath peerId path _ rfl
    · exact hf
  | removePath peerId pathId =>
    rw [SelectorHistory.step, PathSelector.step]
    split
    · exact hf.removePath peerId pathId _ rfl
    · exact hf
  | updateMetrics peerId pathId m =>
    rw [SelectorHistory.step, PathSelector.step]
    split
    · exact hf.updateMetrics peerId pathId m _ rfl
    · exact hf
  | clearActive =>
    apply hf.keep rfl
    rw [PathSelector.step]
    split
    · split
      · rfl
      · rfl
    · rfl
  | setActivePath peerId pathId =>
    apply hf.keep rfl
    rw [PathSelector.step]
    split
    · rfl
    · rfl
  | readActive call peerId =>
    apply hf.keep rfl
    rw [PathSelector.step, PathSelector.readActive]
    split
    · split
      · rfl
      · rfl
    · rfl
  | readPaths call =>
    apply hf.keep rfl
    rw [PathSelector.step, PathSelector.readPaths]
    split
    · split
      · rfl
      · rfl
    · rfl

theorem SelectorHistory.run_faithful (ops : List (SelectorOp F)) :
    ((SelectorHistory.new F).run A ops).Faithful A :=
  run_invariant (I := SelectorHistory.Faithful A) _
    (fun peerId => by
      change (((∅ : Std.TreeMap String (List (NetworkPath F)))[peerId]?).getD []) =
        (((∅ : Std.TreeMap String (List (Tracked F)))[peerId]?).getD []).map (Tracked.now A)
      rw [Std.TreeMap.getElem?_emptyc, Std.TreeMap.getElem?_emptyc]
      rfl)
    (fun _ op hf => hf.step op) ops

end Tracking

section Selection
variable {A : FloatArith F}

theorem FloatArith.lt_iff {x y : F} (hx : (A.value x).isSome = true)
    (hy : (A.value y).isSome = true) :
    A.lt x y = true ↔ (A.value x).getD ⊥ < (A.value y).getD ⊥ := by
  obtain ⟨v, hv⟩ := Option.isSome_iff_exists.mp hx
  obtain ⟨w, hw⟩ := Option.isSome_iff_exists.mp hy
  rw [FloatArith.lt, hv, hw]
  exact decide_eq_true_iff

/-- What the score of a path stands for. -/
def scoreValue (A : FloatArith F) (path : NetworkPath F) : WithBot (WithTop ℚ) :=
  (A.value (scorePath A path)).getD ⊥

/-- Each of the scores is a number. -/
def Scored (A : FloatArith F) (paths : List (NetworkPath F)) : Prop :=
  ∀ path ∈ paths, (A.value (scorePath A path)).isSome = true

theorem Scored.mono {l l' : List (NetworkPath F)} (h : Scored A l) (hsub : l' ⊆ l) :
    Scored A l' := fun path hpath => h path (hsub hpath)

theorem Scored.lt_iff {l : List (NetworkPath F)} (h : Scored A l) (hp : p ∈ l) (hq : q ∈ l) :
    A.lt (scorePath A p) (scorePath A q) = true ↔ scoreValue A p < scoreValue A q :=
  FloatArith.lt_iff (h p hp) (h q hq)

theorem firstBest_concat (l : List (NetworkPath F)) (a : NetworkPath F) :
    firstBest A (l ++ [a]) =
      match firstBest A l with
      | none => some (a, scorePath A a)
      | some b => if A.lt b.2 (scorePath A a) then some (a, scorePath A a) else some b := by
  rw [firstBest, List.foldl_append]
  rfl

theorem firstBest_spec {l : List (NetworkPath F)} (h : Scored A l) :
    (firstBest A l = none ∧ l = []) ∨
      ∃ p, firstBest A l = some (p, scorePath A p) ∧ IsFirstMax (scoreValue A) l p := by
  induction l using List.reverseRecOn with
  | nil => exact .inl ⟨rfl, rfl⟩
  | append_singleton l a ih =>
    refine .inr ?_
    rw [firstBest_concat]
    rcases ih (h.mono (List.subset_append_left l [a])) with ⟨hnone, rfl⟩ | ⟨p, hsome, hmax⟩
    · rw [hnone]
      exact ⟨a, rfl, isFirstMax_concat.mpr (.inr ⟨rfl, fun y hy => (List.not_mem_nil hy).elim⟩)⟩
    · have hlt := h.lt_iff (List.mem_append_left [a] hmax.mem)
        (List.mem_append_right l List.mem_cons_self)
      rw [hsome]
      dsimp only
      split
      · next hless =>
        exact ⟨a, rfl, isFirstMax_concat.mpr
          (.inr ⟨rfl, fun y hy => (hmax.le hy).trans_lt (hlt.mp hless)⟩)⟩
      · next hnot =>
        exact ⟨p, rfl, isFirstMax_concat.mpr
          (.inl ⟨hmax, not_lt.mp (fun hless => hnot (hlt.mpr hless))⟩)⟩

theorem firstBest_eq_some_iff {l : List (NetworkPath F)} (h : Scored A l) :
    (firstBest A l).map (·.1) = some p ↔ IsFirstMax (scoreValue A) l p := by
  rcases firstBest_spec h with ⟨hnone, rfl⟩ | ⟨q, hsome, hmax⟩
  · rw [hnone]
    exact iff_of_false (by rintro ⟨⟩) not_isFirstMax_nil
  · rw [hsome, Option.map_some, Option.some.injEq]
    exact ⟨fun h => h ▸ hmax, fun h => hmax.unique h⟩

theorem lastBest_concat (l : List (NetworkPath F)) (a : NetworkPath F) :
    lastBest A (l ++ [a]) =
      match lastBest A l with
      | none => some a
      | some b => if A.lt (scorePath A a) (scorePath A b) then some b else some a := by
  rw [lastBest, List.foldl_append]
  rfl

/-- Seen from the end, the last maximum is the first. -/
theorem lastBest_spec {l : List (NetworkPath F)} (h : Scored A l) :
    (lastBest A l = none ∧ l = []) ∨
      ∃ p, lastBest A l = some p ∧ IsFirstMax (scoreValue A) l.reverse p := by
  induction l using List.reverseRecOn with
  | nil => exact .inl ⟨rfl, rfl⟩
  | append_singleton l a ih =>
    refine .inr ?_
    rw [lastBest_concat, List.reverse_append]
    change ∃ p, _ ∧ IsFirstMax (scoreValue A) (a :: l.reverse) p
    rcases ih (h.mono (List.subset_append_left l [a])) with ⟨hnone, rfl⟩ | ⟨p, hsome, hmax⟩
    · rw [hnone]
      exact ⟨a, rfl, isFirstMax_cons.mpr (.inl ⟨rfl, fun y hy => (List.not_mem_nil hy).elim⟩)⟩
    · have hlt := h.lt_iff (List.mem_append_right l List.mem_cons_self)
        (List.mem_append_left [a] (List.mem_reverse.mp hmax.mem))
      rw [hsome]
      dsimp only
      split
      · next hless => exact ⟨p, rfl, isFirstMax_cons.mpr (.inr ⟨hlt.mp hless, hmax⟩)⟩
      · next hnot =>
        have hle := not_lt.mp (fun hless => hnot (hlt.mpr hless))
        exact ⟨a, rfl, isFirstMax_cons.mpr (.inl ⟨rfl, fun y hy => (hmax.le hy).trans hle⟩)⟩

theorem lastBest_eq_some_iff {l : List (NetworkPath F)} (h : Scored A l) :
    lastBest A l = some p ↔ IsFirstMax (scoreValue A) l.reverse p := by
  rcases lastBest_spec h with ⟨hnone, rfl⟩ | ⟨q, hsome, hmax⟩
  · rw [hnone]
    exact iff_of_false (by rintro ⟨⟩) not_isFirstMax_nil
  · rw [hsome, Option.some.injEq]
    exact ⟨fun h => h ▸ hmax, fun h => hmax.unique h⟩

theorem lastBest_eq_none_iff {l : List (NetworkPath F)} (h : Scored A l) :
    lastBest A l = none ↔ l = [] := by
  rcases lastBest_spec h with ⟨hnone, rfl⟩ | ⟨q, hsome, hmax⟩
  · exact iff_of_true hnone rfl
  · rw [hsome]
    refine iff_of_false (by rintro ⟨⟩) ?_
    rintro rfl
    exact not_isFirstMax_nil hmax

theorem getRankedPaths_eq {s : PathSelector F} (h : Scored A (s.pathsOf peerId)) :
    s.getRankedPaths A peerId =
      sortByKey (fun p => OrderDual.toDual (scoreValue A p)) (s.pathsOf peerId) := by
  have hmap := List.map_insertionSort
    (fun p q => A.lt (scorePath A p) (scorePath A q) = false)
    (fun p q => OrderDual.toDual (scoreValue A p) ≤ OrderDual.toDual (scoreValue A q)) id
    (s.pathsOf peerId) (by
      intro p hp q hq
      rw [id, id, OrderDual.toDual_le_toDual, ← not_lt, ← h.lt_iff hp hq, Bool.not_eq_true])
  rwa [List.map_id, List.map_id] at hmap

theorem SelectorHistory.run_selector (ops : List (SelectorOp F)) :
    ((SelectorHistory.new F).run A ops).selector = (PathSelector.new F).run A ops := by
  induction ops using List.reverseRecOn with
  | nil => rfl
  | append_singleton ops op ih =>
    rw [SelectorHistory.run, PathSelector.run, List.foldl_append, List.foldl_append]
    exact congrArg (fun s : PathSelector F => s.step A op) ih

theorem PathSelector.run_pathsOf (ops : List (SelectorOp F)) (peerId : String) :
    ((PathSelector.new F).run A ops).pathsOf peerId =
      (((SelectorHistory.new F).run A ops).pathsOf peerId).map (Tracked.now A) := by
  rw [← SelectorHistory.run_selector]
  exact SelectorHistory.run_faithful ops peerId

/-- The paths on which no bad measurement has been made, as they are by now, of one version. -/
def SelectorHistory.unspoiled (A : FloatArith F) (h : SelectorHistory F) (peerId : String)
    (version : IpVersion) : List (NetworkPath F) :=
  (((h.pathsOf peerId).filter (·.unspoiled A)).map (Tracked.now A)).filter
    (fun p => p.ipVersion = version)

theorem SelectorHistory.unspoiled_eq (l : List (Tracked F)) (version : IpVersion) :
    (l.map (Tracked.now A)).filter (fun p => p.ipVersion = version ∧ p.state = .active) =
      ((l.filter (·.unspoiled A)).map (Tracked.now A)).filter
        (fun p => p.ipVersion = version) := by
  have hunspoiled : l.filter (·.unspoiled A) = l.filter (fun t => (t.now A).state = .active) := by
    apply List.filter_congr
    intro t _
    rw [Bool.eq_iff_iff, Tracked.unspoiled_iff, decide_eq_true_eq]
  have hmap : (l.filter (fun t => decide ((t.now A).state = .active))).map (Tracked.now A) =
      (l.map (Tracked.now A)).filter (fun p => decide (p.state = .active)) := by
    rw [List.filter_map]
    rfl
  rw [hunspoiled, hmap, List.filter_filter]
  apply List.filter_congr
  intro p _
  rw [Bool.decide_and]

/-- While no score is anything but a number, happy eyeballs find a path exactly if one of the peer's
was active when it was added and has had no bad measurement since, however good the later ones are.
An IPv6 path of that kind comes before every IPv4 path; of one version it is the last of those with
the highest score. -/
theorem PathSelector.run_happyEyeballsSelect {ops : List (SelectorOp F)} {peerId : String}
    (hscored : Scored A (((PathSelector.new F).run A ops).pathsOf peerId)) (p : NetworkPath F) :
    ((PathSelector.new F).run A ops).happyEyeballsSelect A peerId = some p ↔
      IsFirstMax (scoreValue A)
          (((SelectorHistory.new F).run A ops).unspoiled A peerId .v6).reverse p ∨
        ((SelectorHistory.new F).run A ops).unspoiled A peerId .v6 = [] ∧
          IsFirstMax (scoreValue A)
            (((SelectorHistory.new F).run A ops).unspoiled A peerId .v4).reverse p := by
  have hversion : ∀ version, Scored A
      (((SelectorHistory.new F).run A ops).unspoiled A peerId version) := by
    intro version
    rw [SelectorHistory.unspoiled, ← SelectorHistory.unspoiled_eq, ← PathSelector.run_pathsOf]
    exact hscored.mono (List.filter_subset_self _)
  rw [PathSelector.happyEyeballsSelect, PathSelector.run_pathsOf, SelectorHistory.unspoiled_eq,
    SelectorHistory.unspoiled_eq, ← SelectorHistory.unspoiled, ← SelectorHistory.unspoiled,
    ← lastBest_eq_some_iff (hversion .v6), ← lastBest_eq_some_iff (hversion .v4),
    ← lastBest_eq_none_iff (hversion .v6)]
  cases lastBest A (((SelectorHistory.new F).run A ops).unspoiled A peerId .v6) with
  | none => exact ⟨fun h => .inr ⟨rfl, h⟩, by rintro (⟨⟨⟩⟩ | ⟨-, h⟩); exact h⟩
  | some best => exact ⟨.inl, by rintro (h | ⟨⟨⟩, -⟩); exact h⟩

/-- Arithmetic without rounding. -/
def exactArith : FloatArith ℚ where
  ofU64 x := x.toNat
  literal q := q
  add := (· + ·)
  sub := (· - ·)
  mul := (· * ·)
  div := (· / ·)
  min := Min.min
  value x := some ((x : WithTop ℚ) : WithBot (WithTop ℚ))

/-- The better of two IPv6 paths has had a bad measurement. -/
def spoiledOps : List (SelectorOp ℚ) :=
  [.addPath "peer" (freshPath exactArith "a" .v6), .addPath "peer" (freshPath exactArith "b" .v6),
    .addPath "peer" (freshPath exactArith "c" .v4),
    .updateMetrics "peer" "a" ⟨1000, 1 / 10, 0, 8000000, 1⟩,
    .updateMetrics "peer" "b" ⟨250000, 0, 0, 0, 2⟩,
    .updateMetrics "peer" "a" ⟨1000, 0, 0, 8000000, 3⟩]

theorem PathSelector.run_happyEyeballsSelect_spoiled : ∃ p, p.pathId = "b" ∧
    IsFirstMax (scoreValue exactArith)
      (((SelectorHistory.new ℚ).run exactArith spoiledOps).unspoiled exactArith "peer"
        .v6).reverse p := by
  have hb : (((PathSelector.new ℚ).run exactArith spoiledOps).happyEyeballsSelect exactArith
      "peer").map (·.pathId) = some "b" := by
    decide +kernel
  obtain ⟨p, hp, hid⟩ := Option.map_eq_some_iff.mp hb
  rcases (PathSelector.run_happyEyeballsSelect (fun _ _ => rfl) p).mp hp with h | ⟨hnil, -⟩
  · exact ⟨p, hid, h⟩
  · have hsome : ((SelectorHistory.new ℚ).run exactArith spoiledOps).unspoiled exactArith "peer"
        .v6 ≠ [] := by
      decide +kernel
    exact (hsome hnil).elim

end Selection

end P2PMesh.PathSelection
