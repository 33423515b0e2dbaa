import P2PMesh.AclStore
import Mathlib.Order.Lattice

namespace P2PMesh.ControlAcl
open P2PMesh.Base
set_option autoImplicit true

/-- The row of a version is active, no version is greater and no other row is active. -/
structure Newest (table : PolicyTable) (version : Int) (row : StoredPolicy) : Prop where
  stored : table[version]? = some row
  active : row.active = true
  greatest : ∀ (v : Int) (other : StoredPolicy), table[v]? = some other → v ≤ version
  only : ∀ (v : Int) (other : StoredPolicy), table[v]? = some other → other.active = true →
    v = version

def Unused (table : PolicyTable) : Prop := ∀ v : Int, table[v]? = none

/-- The version is the one that a process has in memory when it knows the table. -/
def Synced (table : PolicyTable) (version : Int) : Prop :=
  (Unused table ∧ version = 0) ∨ ∃ row, Newest table version row

/-- There is one active row, it has the greatest version and the policy that is in memory. -/
def AclStore.Persisted (s : AclStore) : Prop :=
  ∃ version row, Newest s.table version row ∧ row.policy = s.policy

section Table
variable {table : PolicyTable}

theorem mem_actives_iff {v : Int} {row : StoredPolicy} :
    (v, row) ∈ table.toList.filter (fun e => e.2.active) ↔
      table[v]? = some row ∧ row.active = true := by
  rw [List.mem_filter, Std.TreeMap.mem_toList_iff_getElem?_eq_some]

theorem Newest.latestActive_eq {version : Int} {row : StoredPolicy}
    (h : Newest table version row) : latestActive table = some (version, row) := by
  have hmem := mem_actives_iff.mpr ⟨h.stored, h.active⟩
  rw [latestActive, List.getLast?_eq_some_getLast (List.ne_nil_of_mem hmem), Option.some_inj]
  have hlast := List.getLast_mem (List.ne_nil_of_mem hmem)
  obtain ⟨hstored, hactive⟩ := mem_actives_iff.mp hlast
  have hv := h.only _ _ hstored hactive
  rw [hv, h.stored, Option.some_inj] at hstored
  exact Prod.ext hv hstored.symm

theorem Unused.latestActive_eq (h : Unused table) : latestActive table = none := by
  rw [latestActive, List.getLast?_eq_none_iff, List.eq_nil_iff_forall_not_mem]
  rintro ⟨v, row⟩ hmem
  have hstored := (mem_actives_iff.mp hmem).1
  rw [h v] at hstored
  cases hstored

theorem isActive_iff {v : Int} :
    isActive table v = true ↔ ∃ row, table[v]? = some row ∧ row.active = true := by
  rw [isActive]
  cases table[v]? with
  | none => simp only [Option.any_none, Bool.false_eq_true, reduceCtorEq, false_and, exists_false]
  | some row => simp only [Option.any_some, Option.some.injEq, exists_eq_left']

theorem mem_activeVersions {v : Int} :
    v ∈ activeVersions table ↔ isActive table v = true := by
  rw [activeVersions, List.mem_map, isActive_iff]
  constructor
  · rintro ⟨⟨v', row⟩, hmem, rfl⟩
    exact ⟨row, mem_actives_iff.mp hmem⟩
  · rintro ⟨row, h⟩
    exact ⟨(v, row), mem_actives_iff.mpr h, rfl⟩

theorem getElem?_archiveAll (versions : List Int) (v : Int) :
    (archiveAll table versions)[v]? =
      if v ∈ versions then table[v]?.map StoredPolicy.archive else table[v]? := by
  induction versions generalizing table with
  | nil => rfl
  | cons w versions ih =>
    rw [archiveAll, List.foldl_cons, ← archiveAll, ih, getElem?_modify_eq]
    by_cases hw : w = v
    · subst hw
      simp only [if_true, List.mem_cons, true_or, Option.map_map]
      split
      · rfl
      · rfl
    · simp only [if_neg hw, List.mem_cons, Ne.symm hw, false_or]

/-- What a save commits on a table that the process knows is the newest row. -/
theorem Synced.commit {version : Int} {row : StoredPolicy} {archived : List Int}
    (h : Synced table (version - 1)) (hall : ∀ v, isActive table v = true → v ∈ archived)
    (hactive : row.active = true) :
    Newest ((archiveAll table archived).insert version row) version row := by
  have hbelow : ∀ (v : Int) (other : StoredPolicy), table[v]? = some other → v < version := by
    intro v other hv
    cases h with
    | inl hunused =>
      rw [hunused.1 v] at hv
      cases hv
    | inr hnewest =>
      obtain ⟨newest, hn⟩ := hnewest
      have := hn.greatest v other hv
      omega
  have hlookup : ∀ (v : Int) (other : StoredPolicy),
      ((archiveAll table archived).insert version row)[v]? = some other →
        v = version ∨ (v < version ∧ other.active = false) := by
    intro v other hv
    rw [getElem?_insert_eq] at hv
    split at hv
    · next he => exact .inl he.symm
    · rw [getElem?_archiveAll] at hv
      split at hv
      · obtain ⟨old, hold, rfl⟩ := Option.map_eq_some_iff.mp hv
        exact .inr ⟨hbelow v old hold, rfl⟩
      · next hmem =>
        refine .inr ⟨hbelow v other hv, ?_⟩
        by_contra hne
        exact hmem (hall v (isActive_iff.mpr ⟨other, hv, Bool.of_not_eq_false hne⟩))
  constructor
  · rw [getElem?_insert_eq, if_pos rfl]
  · exact hactive
  · intro v other hv
    cases hlookup v other hv with
    | inl he => exact he.le
    | inr hlt => exact hlt.1.le
  · intro v other hv hother
    cases hlookup v other hv with
    | inl he => exact he
    | inr hlt =>
      rw [hlt.2] at hother
      cases hother

theorem Synced.next_unused {version : Int} (h : Synced table (version - 1)) :
    table[version]? = none := by
  cases h with
  | inl hunused => exact hunused.1 version
  | inr hnewest =>
    obtain ⟨newest, hn⟩ := hnewest
    by_contra hne
    obtain ⟨other, hother⟩ := Option.ne_none_iff_exists'.mp hne
    have := hn.greatest version other hother
    omega

end Table

/-- An update that is saved when it meets the policy. -/
def AclPolicy.changedBy (p : AclPolicy) : Option AclUpdate → Bool
  | none => false
  | some u =>
    match p.update u with
    | .saved .. => true
    | .unchanged | .notFound _ => false

def Phase.isSelect : Phase → Bool
  | .select => true
  | _ => false

def Op.id : Op → Nat
  | .begin id _ | .run id | .fail id _ => id
  | .restart => 0

/-- A save starts in the step: of the default policy, when a load finds no active row, or of an
update, when its request has loaded and the update changes the policy. -/
def AclStore.startsSave (s : AclStore) : Op → Bool
  | .begin id update => (s.requests[id]?).isNone && s.dbLoaded && s.policy.changedBy update
  | .run id =>
    match s.requests[id]? with
    | some ⟨update, .select, _⟩ =>
      match latestActive s.table with
      | some (_, row) => row.policy.changedBy update
      | none => true
    | some ⟨update, .save true _ (.commit _ _), _⟩ => s.policy.changedBy update
    | _ => false
  | .fail id _ =>
    match s.requests[id]? with
    | some ⟨update, .select, _⟩ => s.policy.changedBy update
    | some ⟨_, .save true _ .ensure, _⟩ => false
    | some ⟨update, .save true _ _, _⟩ => s.policy.changedBy update
    | _ => false
  | .restart => false

/-- No request other than this one waits for the database. -/
def AclStore.Alone (s : AclStore) (id : Nat) : Prop :=
  ∀ (other : Nat) (r : Request), s.requests[other]? = some r → other = id

/-- What fails is not the query of the first load while a policy is stored, and not a commit that
has been applied. -/
def AclStore.FailsClean (s : AclStore) : Op → Prop
  | .fail id applied => ∀ r ∈ s.requests[id]?,
    (r.phase.isSelect = true → s.dbLoaded = false → Unused s.table) ∧
      (r.phase.inserted ≠ none → applied = false)
  | _ => True

/-- A save starts only when no other request waits for the database, and failures are clean. -/
def AclStore.Careful (s : AclStore) (op : Op) : Prop :=
  (s.startsSave op = true → s.Alone op.id) ∧ s.FailsClean op

def Request.Loading (r : Request) : Prop :=
  (r.phase = .loadEnsure ∨ r.phase = .select) ∧ r.archived = []

/-- Between saves every request loads, up to an exception, and a process that has loaded knows the
table. -/
structure AclStore.Quiet (s : AclStore) (except : Nat → Prop) : Prop where
  loading : ∀ (id : Nat) (r : Request), s.requests[id]? = some r → ¬ except id → r.Loading
  stored : ∃ version, Synced s.table version
  loaded : s.dbLoaded = true → Synced s.table s.version
  unloaded : s.dbLoaded = false → s.version = 0
  saved : s.lastSave = some .saved → s.Persisted
  result : s.lastSave ≠ some .duplicate

def AclStore.Idle (s : AclStore) : Prop := s.Quiet (fun _ => False)

/-- What a save knows in each of its phases. -/
def AclStore.SavePoint (s : AclStore) (archived : List Int) : SavePhase → Prop
  | .ensure | .archive => True
  | .archiving found => ∀ v, isActive s.table v = true → v ∈ found
  | .insert version row | .commit version row =>
    version = s.version ∧ row.policy = s.policy ∧ row.active = true ∧
      ∀ v, isActive s.table v = true → v ∈ archived

/-- One request saves; the others load, which they do only while nothing is stored. -/
structure AclStore.Saving (s : AclStore) (id : Nat) (update : Option AclUpdate) (inLoad : Bool)
    (comment : String) (phase : SavePhase) (archived : List Int) : Prop where
  request : s.requests[id]? = some ⟨update, .save inLoad comment phase, archived⟩
  others : ∀ (other : Nat) (r : Request), s.requests[other]? = some r → other ≠ id →
    r.Loading ∧ Unused s.table
  synced : Synced s.table (s.version - 1)
  unloaded : s.dbLoaded = false → inLoad = true ∧ Unused s.table
  point : s.SavePoint archived phase
  result : s.lastSave ≠ some .duplicate

inductive AclStore.Sound (s : AclStore) : Prop where
  | idle (h : s.Idle)
  | saving (id : Nat) (update : Option AclUpdate) (inLoad : Bool) (comment : String)
    (phase : SavePhase) (archived : List Int) (h : s.Saving id update inLoad comment phase archived)

section Idle
variable {s : AclStore} {id : Nat} {update : Option AclUpdate}

theorem AclStore.Quiet.finish (h : s.Quiet (· = id)) : (s.finish id).Idle := by
  refine ⟨?_, h.stored, h.loaded, h.unloaded, h.saved, h.result⟩
  intro other r hr _
  rw [AclStore.finish] at hr
  dsimp only at hr
  rw [getElem?_erase_eq] at hr
  split at hr
  · cases hr
  · next hne => exact h.loading other r hr (Ne.symm hne)

theorem AclStore.Quiet.wait (h : s.Quiet (· = id)) {r : Request} (hr : r.Loading) :
    (s.wait id r).Idle := by
  refine ⟨?_, h.stored, h.loaded, h.unloaded, h.saved, h.result⟩
  intro other r' hr' _
  rw [AclStore.wait] at hr'
  dsimp only at hr'
  rw [getElem?_insert_eq] at hr'
  split at hr'
  · cases hr'
    exact hr
  · next hne => exact h.loading other r' hr' (Ne.symm hne)

theorem AclStore.Idle.except (h : s.Idle) (id : Nat) : s.Quiet (· = id) :=
  ⟨fun other r hr _ => h.loading other r hr not_false, h.stored, h.loaded, h.unloaded, h.saved,
    h.result⟩

theorem startSave_saving {inLoad : Bool} {comment : String} (halone : s.Alone id)
    (hsynced : Synced s.table s.version)
    (hunloaded : s.dbLoaded = false → inLoad = true ∧ Unused s.table)
    (hresult : s.lastSave ≠ some .duplicate) : (s.startSave id update inLoad comment).Sound := by
  refine .saving id update inLoad comment .ensure [] ⟨?_, ?_, ?_, hunloaded, trivial, hresult⟩
  · rw [AclStore.startSave, AclStore.wait]
    dsimp only
    rw [getElem?_insert_eq, if_pos rfl]
  · intro other r hr hne
    rw [AclStore.startSave, AclStore.wait] at hr
    dsimp only at hr
    rw [getElem?_insert_of_ne _ _ (Ne.symm hne)] at hr
    exact absurd (halone other r hr) hne
  · change Synced s.table (s.version + 1 - 1)
    rw [Int.add_sub_cancel]
    exact hsynced

theorem AclStore.Quiet.afterLoad (h : s.Quiet (· = id)) (hloaded : s.dbLoaded = true)
    (halone : s.policy.changedBy update = true → s.Alone id) : (s.afterLoad id update).Sound := by
  cases update with
  | none => exact .idle h.finish
  | some u =>
    rw [AclPolicy.changedBy] at halone
    rw [AclStore.afterLoad]
    cases hu : s.policy.update u with
    | saved policy comment =>
      rw [hu] at halone
      have hunloaded : s.dbLoaded = false → false = true ∧ Unused s.table := by
        intro hfalse
        rw [hloaded] at hfalse
        cases hfalse
      exact startSave_saving (s := { s with policy }) (halone rfl) (h.loaded hloaded) hunloaded
        h.result
    | unchanged => exact .idle h.finish
    | notFound detail => exact .idle h.finish

theorem AclStore.Idle.endLoad (h : s.Idle) {version : Int} {policy : AclPolicy} (id : Nat)
    (update : Option AclUpdate) (hsynced : Synced s.table version)
    (hsaved : s.lastSave = some .saved → ({ s with policy, version } : AclStore).Persisted)
    (halone : policy.changedBy update = true → s.Alone id) :
    (({ s with policy, version } : AclStore).endLoad id update).Sound := by
  have hquiet : ({ s with policy, version, dbLoaded := true } : AclStore).Quiet (· = id) :=
    ⟨(h.except id).loading, h.stored, fun _ => hsynced, nofun, hsaved, h.result⟩
  exact hquiet.afterLoad rfl halone

theorem AclStore.Idle.begin (h : s.Idle) (hcareful : s.Careful (.begin id update)) :
    (s.begin id update).Sound := by
  rw [AclStore.begin]
  cases hr : s.requests[id]? with
  | some r => exact .idle h
  | none =>
    dsimp only
    split
    · next hloaded =>
      apply (h.except id).afterLoad hloaded
      intro hchanged
      apply hcareful.1
      rw [AclStore.startsSave, hr, hloaded, hchanged]
      rfl
    · exact .idle ((h.except id).wait ⟨.inl rfl, rfl⟩)

theorem AclStore.Idle.select (h : s.Idle) {archived : List Int}
    (hr : s.requests[id]? = some ⟨update, .select, archived⟩)
    (hcareful : s.Careful (.run id)) : (s.select id update).Sound := by
  have halone := hcareful.1
  rw [AclStore.startsSave, hr] at halone
  dsimp only at halone
  rw [AclStore.select]
  obtain ⟨version, hempty | ⟨row, hnewest⟩⟩ := h.stored
  · rw [hempty.1.latestActive_eq] at halone ⊢
    apply startSave_saving (halone rfl)
    · cases hl : s.dbLoaded with
      | true => exact h.loaded hl
      | false => exact .inl ⟨hempty.1, h.unloaded hl⟩
    · exact fun _ => ⟨rfl, hempty.1⟩
    · exact h.result
  · rw [hnewest.latestActive_eq] at halone ⊢
    exact h.endLoad id update (.inr ⟨row, hnewest⟩) (fun _ => ⟨version, row, hnewest, rfl⟩) halone

theorem AclStore.idle_start {table : PolicyTable} (hstored : ∃ version, Synced table version) :
    (AclStore.start table).Idle where
  loading := by
    intro id r hr
    rw [AclStore.start, Std.TreeMap.getElem?_emptyc] at hr
    cases hr
  stored := hstored
  loaded := by
    intro hloaded
    cases hloaded
  unloaded _ := rfl
  saved := by
    intro hsaved
    cases hsaved
  result := by
    intro hresult
    cases hresult

theorem AclStore.Idle.step (h : s.Idle) (op : Op) (hcareful : s.Careful op) :
    (s.step op).Sound := by
  cases op with
  | begin id update => exact h.begin hcareful
  | run id =>
    rw [AclStore.step, AclStore.run]
    cases hr : s.requests[id]? with
    | none => exact .idle h
    | some r =>
      obtain ⟨update, phase, archived⟩ := r
      obtain ⟨rfl | rfl, harchived⟩ := h.loading id _ hr not_false
      · exact .idle ((h.except id).wait ⟨.inr rfl, harchived⟩)
      · exact h.select hr hcareful
  | fail id applied =>
    rw [AclStore.step, AclStore.fail]
    have halone := hcareful.1
    have hclean := hcareful.2
    rw [AclStore.startsSave] at halone
    rw [AclStore.FailsClean] at hclean
    cases hr : s.requests[id]? with
    | none => exact .idle h
    | some r =>
      rw [hr] at halone
      have hquery := (hclean r hr).1
      obtain ⟨update, phase, archived⟩ := r
      obtain ⟨rfl | rfl, harchived⟩ := h.loading id _ hr not_false
      · exact .idle ((h.except id).wait ⟨.inr rfl, harchived⟩)
      · have hsynced : Synced s.table s.version := by
          cases hl : s.dbLoaded with
          | true => exact h.loaded hl
          | false => exact .inl ⟨hquery rfl hl, h.unloaded hl⟩
        exact h.endLoad id update hsynced h.saved halone
  | restart => exact .idle (AclStore.idle_start h.stored)

end Idle

section Saving
variable {s : AclStore} {id : Nat} {update : Option AclUpdate} {inLoad : Bool} {comment : String}
  {phase : SavePhase} {archived : List Int}

theorem AclStore.Saving.alone_iff (h : s.Saving id update inLoad comment phase archived)
    {other : Nat} (halone : s.Alone other) : other = id :=
  (halone id _ h.request).symm

theorem AclStore.Saving.next (h : s.Saving id update inLoad comment phase archived)
    {phase' : SavePhase} {archived' : List Int} (hpoint : s.SavePoint archived' phase') :
    (s.wait id ⟨update, .save inLoad comment phase', archived'⟩).Sound := by
  refine .saving id update inLoad comment phase' archived' ⟨?_, ?_, h.synced, h.unloaded, ?_,
    h.result⟩
  · rw [AclStore.wait]
    dsimp only
    rw [getElem?_insert_eq, if_pos rfl]
  · intro other r hr hne
    rw [AclStore.wait] at hr
    dsimp only at hr
    rw [getElem?_insert_of_ne _ _ (Ne.symm hne)] at hr
    exact h.others other r hr hne
  · cases phase' <;> exact hpoint

theorem AclStore.Saving.endSave (h : s.Saving id update inLoad comment phase archived)
    {table : PolicyTable} {version : Int} {result : SaveResult} (hsynced : Synced table version)
    (hunused : s.dbLoaded = false → inLoad = true)
    (hresult : result = .failed ∨ (result = .saved ∧
      ({ s with table } : AclStore).Persisted))
    (halone : inLoad = true → s.policy.changedBy update = true → s.Alone id) :
    (({ s with table, version } : AclStore).endSave id update inLoad result).Sound := by
  have hquiet : ∀ loaded, (loaded = false → s.dbLoaded = false ∧ inLoad = false) →
      ({ s with
        table, version, dbLoaded := loaded, lastSave := some result } : AclStore).Quiet
          (· = id) := by
    intro loaded hloaded
    refine ⟨?_, ⟨version, hsynced⟩, fun _ => hsynced, ?_, ?_, ?_⟩
    · intro other r hr hne
      exact (h.others other r hr hne).1
    · intro hfalse
      obtain ⟨hl, hin⟩ := hloaded hfalse
      rw [hunused hl] at hin
      cases hin
    · intro hs
      cases hresult with
      | inl hfailed =>
        subst hfailed
        cases hs
      | inr hsaved => exact hsaved.2
    · intro hs
      cases hresult with
      | inl hfailed =>
        subst hfailed
        cases hs
      | inr hsaved =>
        obtain ⟨rfl, -⟩ := hsaved
        cases hs
  rw [AclStore.endSave]
  cases inLoad with
  | true => exact (hquiet true nofun).afterLoad rfl (halone rfl)
  | false => exact .idle (hquiet s.dbLoaded (fun hl => ⟨hl, rfl⟩)).finish

theorem AclStore.Saving.failSave (h : s.Saving id update inLoad comment phase archived)
    (halone : inLoad = true → s.policy.changedBy update = true → s.Alone id) :
    (s.failSave id update inLoad .failed).Sound :=
  h.endSave h.synced (fun hl => (h.unloaded hl).1) (.inl rfl) halone

theorem AclStore.Saving.not_locked (h : s.Saving id update inLoad comment phase archived)
    (versions : List Int) : s.locked id versions = false := by
  rw [AclStore.locked, List.any_eq_false]
  intro e he hp
  obtain ⟨hne, hlock⟩ := of_decide_eq_true hp
  rw [Std.TreeMap.mem_toList_iff_getElem?_eq_some] at he
  rw [(h.others e.1 e.2 he hne).1.2] at hlock
  cases hlock

theorem Request.Loading.inserted {r : Request} (h : r.Loading) : r.phase.inserted = none := by
  obtain ⟨hp | hp, -⟩ := h
  · rw [hp]
    rfl
  · rw [hp]
    rfl

theorem AclStore.Saving.not_pending (h : s.Saving id update inLoad comment phase archived)
    (version : Int) : s.pending id version = false := by
  rw [AclStore.pending, List.any_eq_false]
  intro e he hp
  obtain ⟨hne, hins⟩ := of_decide_eq_true hp
  rw [Std.TreeMap.mem_toList_iff_getElem?_eq_some] at he
  rw [(h.others e.1 e.2 he hne).1.inserted] at hins
  cases hins

theorem AclStore.Saving.run (h : s.Saving id update inLoad comment phase archived)
    (hcareful : s.Careful (.run id)) : (s.run id).Sound := by
  have halone := hcareful.1
  rw [AclStore.startsSave, h.request] at halone
  rw [AclStore.run, h.request]
  have hpoint := h.point
  cases phase with
  | ensure => exact h.next trivial
  | archive => exact h.next (fun v hv => mem_activeVersions.mpr hv)
  | archiving found =>
    dsimp only [AclStore.runSave]
    rw [h.not_locked found]
    refine h.next ⟨rfl, rfl, rfl, ?_⟩
    intro v hv
    exact List.mem_filter.mpr ⟨hpoint v hv, hv⟩
  | insert version row =>
    dsimp only [AclStore.runSave]
    rw [h.not_pending version, hpoint.1, h.synced.next_unused]
    exact h.next ⟨rfl, hpoint.2⟩
  | commit version row =>
    dsimp only [AclStore.runSave]
    obtain ⟨rfl, hpolicy, hactive, hall⟩ := hpoint
    have hnewest := h.synced.commit hall hactive
    apply h.endSave (.inr ⟨row, hnewest⟩) (fun hl => (h.unloaded hl).1)
    · exact .inr ⟨rfl, s.version, row, hnewest, hpolicy⟩
    · rintro rfl
      exact halone

theorem AclStore.Saving.fail (h : s.Saving id update inLoad comment phase archived) {applied : Bool}
    (hcareful : s.Careful (.fail id applied)) : (s.fail id applied).Sound := by
  have halone := hcareful.1
  have hclean := hcareful.2
  rw [AclStore.startsSave, h.request] at halone
  rw [AclStore.FailsClean] at hclean
  rw [AclStore.fail, h.request]
  cases phase with
  | ensure => exact h.next trivial
  | archive =>
    apply h.failSave
    rintro rfl
    exact halone
  | archiving found =>
    apply h.failSave
    rintro rfl
    exact halone
  | insert version row =>
    apply h.failSave
    rintro rfl
    exact halone
  | commit version row =>
    obtain rfl := (hclean _ h.request).2 nofun
    apply h.failSave
    rintro rfl
    exact halone

theorem afterLoad_unchanged {other : Nat} {u : Option AclUpdate}
    (hu : s.policy.changedBy u = false) : s.afterLoad other u = s.finish other := by
  cases u with
  | none => rfl
  | some u =>
    rw [AclPolicy.changedBy] at hu
    rw [AclStore.afterLoad]
    cases hupdate : s.policy.update u with
    | saved policy comment =>
      rw [hupdate] at hu
      cases hu
    | unchanged => rfl
    | notFound detail => rfl

theorem AclStore.Saving.finish_other (h : s.Saving id update inLoad comment phase archived)
    {other : Nat} (hne : other ≠ id) :
    (s.finish other).Saving id update inLoad comment phase archived := by
  refine ⟨?_, ?_, h.synced, h.unloaded, ?_, h.result⟩
  · rw [AclStore.finish]
    dsimp only
    rw [getElem?_erase_of_ne _ hne]
    exact h.request
  · intro third r hr hid
    rw [AclStore.finish] at hr
    dsimp only at hr
    rw [getElem?_erase_eq] at hr
    split at hr
    · cases hr
    · exact h.others third r hr hid
  · cases phase <;> exact h.point

theorem AclStore.Saving.wait_other (h : s.Saving id update inLoad comment phase archived)
    {other : Nat} (hne : other ≠ id) {r : Request} (hr : r.Loading) (hunused : Unused s.table) :
    (s.wait other r).Saving id update inLoad comment phase archived := by
  refine ⟨?_, ?_, h.synced, h.unloaded, ?_, h.result⟩
  · rw [AclStore.wait]
    dsimp only
    rw [getElem?_insert_of_ne _ _ hne]
    exact h.request
  · intro third r' hr' hid
    rw [AclStore.wait] at hr'
    dsimp only at hr'
    rw [getElem?_insert_eq] at hr'
    split at hr'
    · cases hr'
      exact ⟨hr, hunused⟩
    · exact h.others third r' hr' hid
  · cases phase <;> exact h.point

theorem AclStore.Saving.setLoaded (h : s.Saving id update inLoad comment phase archived) :
    ({ s with dbLoaded := true } : AclStore).Saving id update inLoad comment phase archived := by
  refine ⟨h.request, h.others, h.synced, nofun, ?_, h.result⟩
  cases phase <;> exact h.point

theorem AclStore.Saving.not_startsSave (h : s.Saving id update inLoad comment phase archived)
    {op : Op} (hcareful : s.Careful op) (hne : op.id ≠ id) : s.startsSave op = false := by
  by_contra hstarts
  exact hne (h.alone_iff (hcareful.1 (Bool.of_not_eq_false hstarts)))

theorem AclStore.Saving.begin_other (h : s.Saving id update inLoad comment phase archived)
    {other : Nat} {u : Option AclUpdate} (hcareful : s.Careful (.begin other u)) :
    (s.begin other u).Saving id update inLoad comment phase archived := by
  rw [AclStore.begin]
  cases hr : s.requests[other]? with
  | some r => exact h
  | none =>
    have hne : other ≠ id := by
      rintro rfl
      rw [h.request] at hr
      cases hr
    have hstarts := h.not_startsSave hcareful hne
    rw [AclStore.startsSave, hr] at hstarts
    dsimp only
    split
    · next hloaded =>
      rw [hloaded] at hstarts
      rw [afterLoad_unchanged hstarts]
      exact h.finish_other hne
    · next hloaded =>
      exact h.wait_other hne ⟨.inl rfl, rfl⟩ (h.unloaded (Bool.eq_false_of_not_eq_true hloaded)).2

theorem AclStore.Saving.run_other (h : s.Saving id update inLoad comment phase archived)
    {other : Nat} (hne : other ≠ id) (hcareful : s.Careful (.run other)) :
    (s.run other).Saving id update inLoad comment phase archived := by
  have hstarts := h.not_startsSave hcareful hne
  rw [AclStore.startsSave] at hstarts
  rw [AclStore.run]
  cases hr : s.requests[other]? with
  | none => exact h
  | some r =>
    rw [hr] at hstarts
    obtain ⟨⟨hphase, harchived⟩, hunused⟩ := h.others other r hr hne
    obtain ⟨u, p, locks⟩ := r
    obtain rfl | rfl := hphase
    · exact h.wait_other hne ⟨.inr rfl, harchived⟩ hunused
    · dsimp only at hstarts
      rw [hunused.latestActive_eq] at hstarts
      cases hstarts

theorem AclStore.Saving.fail_other (h : s.Saving id update inLoad comment phase archived)
    {other : Nat} (hne : other ≠ id) {applied : Bool} (hcareful : s.Careful (.fail other applied)) :
    (s.fail other applied).Saving id update inLoad comment phase archived := by
  have hstarts := h.not_startsSave hcareful hne
  rw [AclStore.startsSave] at hstarts
  rw [AclStore.fail]
  cases hr : s.requests[other]? with
  | none => exact h
  | some r =>
    rw [hr] at hstarts
    obtain ⟨⟨hphase, harchived⟩, hunused⟩ := h.others other r hr hne
    obtain ⟨u, p, locks⟩ := r
    obtain rfl | rfl := hphase
    · exact h.wait_other hne ⟨.inr rfl, harchived⟩ hunused
    · dsimp only [AclStore.endLoad]
      rw [afterLoad_unchanged (s := { s with dbLoaded := true }) hstarts]
      exact h.setLoaded.finish_other hne

theorem AclStore.Saving.restart (h : s.Saving id update inLoad comment phase archived) :
    (AclStore.start s.table).Idle :=
  AclStore.idle_start ⟨_, h.synced⟩

end Saving

section Runs
variable {s : AclStore}

theorem AclStore.Sound.start : (AclStore.start ∅).Sound := by
  have hunused : Unused ∅ := fun _ => Std.TreeMap.getElem?_emptyc
  exact .idle (AclStore.idle_start ⟨0, .inl ⟨hunused, rfl⟩⟩)

theorem AclStore.Sound.step (h : s.Sound) (op : Op) (hcareful : s.Careful op) :
    (s.step op).Sound := by
  cases h with
  | idle h => exact h.step op hcareful
  | saving id update inLoad comment phase archived h =>
    cases op with
    | begin other u => exact .saving _ _ _ _ _ _ (h.begin_other hcareful)
    | run other =>
      by_cases hne : other = id
      · subst hne
        exact h.run hcareful
      · exact .saving _ _ _ _ _ _ (h.run_other hne hcareful)
    | fail other applied =>
      by_cases hne : other = id
      · subst hne
        exact h.fail hcareful
      · exact .saving _ _ _ _ _ _ (h.fail_other hne hcareful)
    | restart => exact .idle h.restart

end Runs

def SavePhase.rank : SavePhase → Nat
  | .ensure => 5
  | .archive => 4
  | .archiving _ => 3
  | .insert _ _ => 2
  | .commit _ _ => 1

/-- How many statements a request has yet to wait for, at most. -/
def Phase.rank : Phase → Nat
  | .loadEnsure => 12
  | .select => 11
  | .save inLoad _ phase => phase.rank + if inLoad then 5 else 0

def AclStore.remaining (s : AclStore) (id : Nat) : Nat :=
  (s.requests[id]?).elim 0 (fun r => r.phase.rank)

section Progress
variable {s : AclStore} {id : Nat} {update : Option AclUpdate}

theorem remaining_wait (r : Request) : (s.wait id r).remaining id = r.phase.rank := by
  rw [AclStore.remaining, AclStore.wait]
  dsimp only
  rw [getElem?_insert_eq, if_pos rfl]
  rfl

theorem remaining_finish : (s.finish id).remaining id = 0 := by
  rw [AclStore.remaining, AclStore.finish]
  dsimp only
  rw [getElem?_erase_eq, if_pos rfl]
  rfl

theorem remaining_startSave (inLoad : Bool) (comment : String) :
    (s.startSave id update inLoad comment).remaining id = 5 + if inLoad then 5 else 0 := by
  rw [AclStore.startSave, remaining_wait]
  rfl

theorem remaining_afterLoad_le : (s.afterLoad id update).remaining id ≤ 5 := by
  cases update with
  | none =>
    rw [AclStore.afterLoad, remaining_finish]
    exact Nat.zero_le 5
  | some u =>
    rw [AclStore.afterLoad]
    split
    · exact (remaining_startSave false _).le
    · exact remaining_finish.le.trans (Nat.zero_le 5)
    · exact remaining_finish.le.trans (Nat.zero_le 5)

theorem remaining_endSave_lt (inLoad : Bool) (result : SaveResult) :
    (s.endSave id update inLoad result).remaining id < 1 + if inLoad then 5 else 0 := by
  rw [AclStore.endSave]
  cases inLoad with
  | true => exact Nat.lt_succ_of_le remaining_afterLoad_le
  | false => exact remaining_finish.le.trans_lt Nat.one_pos

theorem remaining_of_some {r : Request} (hr : s.requests[id]? = some r) :
    s.remaining id = r.phase.rank := by
  rw [AclStore.remaining, hr]
  rfl

theorem Request.Loading.remaining_run_lt {r : Request} (h : r.Loading)
    (hr : s.requests[id]? = some r) : (s.run id).remaining id < s.remaining id := by
  rw [remaining_of_some hr, AclStore.run, hr]
  obtain ⟨u, phase, archived⟩ := r
  obtain ⟨rfl | rfl, -⟩ := h
  · dsimp only
    rw [remaining_wait]
    exact Nat.lt_succ_self 11
  · dsimp only [AclStore.select]
    split
    · exact remaining_afterLoad_le.trans_lt (by decide)
    · rw [remaining_startSave]
      decide

theorem AclStore.Saving.remaining_run_lt {inLoad : Bool} {comment : String} {phase : SavePhase}
    {archived : List Int} (h : s.Saving id update inLoad comment phase archived) :
    (s.run id).remaining id < s.remaining id := by
  rw [remaining_of_some h.request, AclStore.run, h.request]
  have hpoint := h.point
  cases phase with
  | ensure =>
    dsimp only [AclStore.runSave]
    rw [remaining_wait]
    exact Nat.add_lt_add_right (Nat.lt_succ_self 4) _
  | archive =>
    dsimp only [AclStore.runSave]
    rw [remaining_wait]
    exact Nat.add_lt_add_right (Nat.lt_succ_self 3) _
  | archiving found =>
    dsimp only [AclStore.runSave]
    rw [h.not_locked found, if_neg Bool.false_ne_true, remaining_wait]
    exact Nat.add_lt_add_right (Nat.lt_succ_self 2) _
  | insert version row =>
    dsimp only [AclStore.runSave]
    rw [h.not_pending version, hpoint.1, h.synced.next_unused]
    simp only [Bool.false_eq_true, if_false, Option.isSome_none, remaining_wait]
    exact Nat.add_lt_add_right (Nat.lt_succ_self 1) _
  | commit version row => exact remaining_endSave_lt inLoad .saved

/-- A request that waits is never held up for good: each statement carried out brings its end
nearer. -/
theorem AclStore.Sound.remaining_run_lt (h : s.Sound) {r : Request}
    (hr : s.requests[id]? = some r) : (s.run id).remaining id < s.remaining id := by
  cases h with
  | idle h => exact (h.loading id r hr not_false).remaining_run_lt hr
  | saving other u inLoad comment phase archived h =>
    by_cases hne : id = other
    · subst hne
      exact h.remaining_run_lt
    · exact (h.others id r hr hne).1.remaining_run_lt hr

theorem AclStore.Sound.result (h : s.Sound) : s.lastSave ≠ some .duplicate := by
  cases h with
  | idle h => exact h.result
  | saving id u inLoad comment phase archived h => exact h.result

theorem AclStore.Sound.persisted (h : s.Sound)
    (hquiescent : s.requests.isEmpty = true) (hsaved : s.lastSave = some .saved) :
    s.Persisted := by
  cases h with
  | idle h => exact h.saved hsaved
  | saving id u inLoad comment phase archived h =>
    have hr := h.request
    rw [Std.TreeMap.getElem?_of_isEmpty hquiescent] at hr
    cases hr

end Progress

/-- In every run of requests, failures and restarts in which saves start alone and failures are
clean: with no request under way and the last save a success, the one active row is the newest and
has the policy of the memory; no save fails but by a failure of the database; and every statement
carried out brings its request nearer to its end. -/
theorem policy_persists (ops : List Op)
    (hcareful : Guarded AclStore.step AclStore.Careful (.start ∅) ops) (l : List Op)
    (hl : l <+: ops) :
    (((AclStore.start ∅).runs l).requests.isEmpty = true →
      ((AclStore.start ∅).runs l).lastSave = some .saved → ((AclStore.start ∅).runs l).Persisted) ∧
    ((AclStore.start ∅).runs l).lastSave ≠ some .duplicate ∧
    ∀ (id : Nat) (r : Request), ((AclStore.start ∅).runs l).requests[id]? = some r →
      (((AclStore.start ∅).runs l).step (.run id)).remaining id <
        ((AclStore.start ∅).runs l).remaining id := by
  obtain ⟨rest, rfl⟩ := hl
  have hsound : ((AclStore.start ∅).runs l).Sound :=
    (guarded_append.mp hcareful).1.invariant AclStore.Sound.start (fun s op h hc => h.step op hc)
  exact ⟨hsound.persisted, hsound.result, fun id r hr => hsound.remaining_run_lt hr⟩

section Examples

instance (s : AclStore) (id : Nat) : Decidable (s.Alone id) :=
  decidable_of_iff (∀ e ∈ s.requests.toList, e.1 = id) (by
    simp only [AclStore.Alone, Prod.forall, Std.TreeMap.mem_toList_iff_getElem?_eq_some])

instance (table : PolicyTable) : Decidable (Unused table) :=
  decidable_of_iff (table.isEmpty = true) (by
    rw [Unused, Std.TreeMap.isEmpty_iff_forall_not_mem]
    simp only [Std.TreeMap.mem_iff_isSome_getElem?, Bool.not_eq_true, Option.isSome_eq_false_iff,
      Option.isNone_iff_eq_none])

instance (s : AclStore) : ∀ op, Decidable (s.FailsClean op)
  | .fail _ _ => inferInstanceAs (Decidable (∀ _ ∈ _, _))
  | .begin _ _ | .run _ | .restart => .isTrue trivial

instance (s : AclStore) (op : Op) : Decidable (s.Careful op) :=
  inferInstanceAs (Decidable (_ ∧ _))

/-- A request that runs from its beginning to its end. -/
def wholeRequest (id : Nat) (update : Option AclUpdate) : List Op :=
  .begin id update :: List.replicate 12 (.run id)

def isolate (id : Nat) (deviceId : String) : Op := .begin id (some (.isolate deviceId none))

def loadThenIsolate : List Op := wholeRequest 0 none ++ wholeRequest 1 (some (.isolate "a" none))

theorem policy_persists_isolate : ((AclStore.start ∅).runs loadThenIsolate).Persisted :=
  (policy_persists loadThenIsolate (by decide +kernel) loadThenIsolate (List.prefix_refl _)).1
    (by decide +kernel) (by decide +kernel)

/-- The second request starts its save while the first one is about to insert. -/
def overlappingSaves : List Op :=
  wholeRequest 0 none ++ [isolate 1 "a", .run 1, .run 1, .run 1, isolate 2 "b", .run 2, .run 2,
    .run 1, .run 1, .run 2, .run 2, .run 2]

/-- Both requests have counted the version up before the first one builds its entry. -/
def sharedVersion : List Op :=
  wholeRequest 0 none ++ [isolate 1 "a", isolate 2 "b", .run 1, .run 1, .run 1, .run 1, .run 1,
    .run 2, .run 2, .run 2, .run 2]

/-- The query of the load fails once after a restart. -/
def failedQuery : List Op :=
  wholeRequest 0 none ++ [.restart, isolate 1 "a", .run 1, .fail 1 false, .run 1, .run 1, .run 1,
    .run 1]

/-- Two requests that overlap leave two active rows, or a save that fails without a failure of the
database; and after one failed query an update that runs alone is not saved. -/
theorem policy_lost :
    (¬ ∀ ops, ((AclStore.start ∅).runs ops).requests.isEmpty = true →
      ((AclStore.start ∅).runs ops).lastSave = some .saved →
        ((AclStore.start ∅).runs ops).Persisted) ∧
    ((AclStore.start ∅).runs sharedVersion).lastSave = some .duplicate ∧
    ((AclStore.start ∅).runs (failedQuery ++ wholeRequest 2 (some (.isolate "b" none)))).lastSave =
      some .duplicate := by
  refine ⟨?_, by decide +kernel, by decide +kernel⟩
  intro h
  obtain ⟨version, row, hnewest, -⟩ := h overlappingSaves (by decide +kernel) (by decide +kernel)
  have honly : ∀ v, isActive ((AclStore.start ∅).runs overlappingSaves).table v = true →
      v = version := by
    intro v hv
    obtain ⟨other, hother, hactive⟩ := isActive_iff.mp hv
    exact hnewest.only v other hother hactive
  have htwo := honly 2 (by decide +kernel)
  have hthree := honly 3 (by decide +kernel)
  omega

end Examples

end P2PMesh.ControlAcl
