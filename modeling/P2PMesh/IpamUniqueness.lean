import P2PMesh.Ipam

namespace P2PMesh.Ipam
open P2PMesh.Base
set_option autoImplicit true

/-- The address that a request has given to its device and is storing. -/
def Phase.storing : Phase U → Option Assignment
  | .persistEnsure a | .insert a => some a
  | _ => none

/-- The rows that a load has read and not yet taken into memory. -/
def Phase.rowsRead : Phase U → Option (List (U × VirtualIp))
  | .loaded rows => some rows
  | _ => none

/-- A request waits for this while nothing is loaded. -/
def Phase.Loading (rows : List (U × VirtualIp)) : Phase U → Prop
  | .authorize | .loadEnsure | .select => True
  | .loaded rows' => rows' = rows
  | _ => False

/-- A failure, with some rollbacks, of what a request waits for ends the load. -/
def Phase.failsLoad (rollbacks : Nat) : Phase U → Bool
  | .loadEnsure => decide (0 < rollbacks)
  | .select => true
  | _ => false

/-- The request goes on with this target after its load. -/
def Request.bodyOf (r : Request U) (action : Action) : Option (Target U) :=
  match r.phase with
  | .body => r.target.filter (·.action = action)
  | _ => none

section Pool
variable {U : Type} [Ord U] [Std.TransOrd U] [Std.LawfulEqOrd U] [DecidableEq U]
variable (T : UuidText U) (schema : Schema) (s : Pool U)

def Pool.ipOf (deviceId : String) : Option Ipv4Addr := (s.assignedIps[deviceId]?).map (·.ip)

/-- The address of a device in the table, if the module can read it. -/
def Pool.storedIp (u : U) : Option Ipv4Addr :=
  match schema with
  | .mapped => none
  | .ensured => (s.table.rows[u]?).map (·.virtualIp)

/-- The device has the address, in memory or, before the load, in the table. -/
def Pool.Occupies (u : U) (ip : Ipv4Addr) : Prop :=
  if s.dbLoaded = true then
    ∃ deviceId, s.ipOf deviceId = some ip ∧ T.parse deviceId = some u
  else s.storedIp schema u = some ip

/-- No two devices hold one address. -/
def Pool.Unique : Prop := ∀ (u v : U) (ip : Ipv4Addr), (u, ip) ∈ s.held → (v, ip) ∈ s.held → u = v

/-- Rows are taken into a memory that is loaded already only if it has them; and a release takes
an address back only if no other request is storing it. -/
def Pool.CarefulRun (r : Request U) : Prop :=
  (∀ rows ∈ r.phase.rowsRead, s.dbLoaded = true →
    ∀ e ∈ rows, s.ipOf (T.str e.1) = some e.2.virtualIp) ∧
  ∀ t ∈ r.bodyOf .release, ∀ e ∈ s.requests.toList, ∀ t' ∈ e.2.target,
    t'.deviceId = t.deviceId → e.2.phase.storing = none

/-- A load fails only if a load has succeeded before or nobody holds an address; the process
restarts only while the table gives every held address back. -/
def Pool.Careful : Op → Prop
  | .begin _ _ _ => True
  | .run id _ => ∀ r ∈ s.requests[id]?, s.CarefulRun T r
  | .fail id _ _ rollbacks => ∀ r ∈ s.requests[id]?, r.phase.failsLoad rollbacks = true →
    s.dbLoaded = true ∨ s.held = []
  | .restart => ∀ e ∈ s.held, s.storedIp schema e.1 = some e.2

instance decidableCarefulRun (r : Request U) : Decidable (s.CarefulRun T r) :=
  inferInstanceAs (Decidable (_ ∧ _))

instance decidableCareful : ∀ op, Decidable (s.Careful T schema op)
  | .begin _ _ _ => inferInstanceAs (Decidable True)
  | .run _ _ => inferInstanceAs (Decidable (∀ r ∈ _, s.CarefulRun T r))
  | .fail _ _ _ rollbacks =>
    inferInstanceAs (Decidable (∀ r ∈ (_ : Option (Request U)), r.phase.failsLoad rollbacks = true →
      s.dbLoaded = true ∨ s.held = []))
  | .restart => inferInstanceAs (Decidable (∀ e ∈ s.held, _ = _))

/-- What a request knows: the UUID in its text, and that memory has what it is storing. -/
def Pool.Proper (r : Request U) : Prop :=
  ∀ t, r.target = some t → T.parse t.deviceId = some t.device ∧
    ∀ a, r.phase.storing = some a → s.ipOf t.deviceId = some a.ip

/-- Before the load memory is empty and no request has come past it; every held address is one
that its device has; and no address is in memory twice. -/
structure Pool.Sound : Prop where
  single : ∀ k k' ip, s.ipOf k = some ip → s.ipOf k' = some ip → k = k'
  empty : s.dbLoaded = false → ∀ k, s.ipOf k = none
  loading : s.dbLoaded = false → ∀ (id : Nat) (r : Request U), s.requests[id]? = some r →
    r.phase.Loading s.table.rows.toList
  held : ∀ u ip, (u, ip) ∈ s.held → s.Occupies T schema u ip
  proper : ∀ (id : Nat) (r : Request U), s.requests[id]? = some r → s.Proper T r

end Pool

theorem Phase.Loading.storing_eq {phase : Phase U} {rows : List (U × VirtualIp)}
    (h : phase.Loading rows) : phase.storing = none := by
  cases phase with
  | authorize | loadEnsure | select | loaded _ => rfl
  | body | persistEnsure _ | insert _ | delete _ | peers => exact h.elim

section Basic
variable {U : Type} [Ord U]
variable {T : UuidText U} {schema : Schema} {s : Pool U} {id : Nat} {r : Request U}

theorem Pool.Sound.start (table : VirtualIps U) : (Pool.start table).Sound T schema where
  single := by
    intro k k' ip hk
    rw [Pool.start, Pool.ipOf, Std.TreeMap.getElem?_emptyc] at hk
    cases hk
  empty := by
    intro _ k
    rw [Pool.start, Pool.ipOf, Std.TreeMap.getElem?_emptyc, Option.map_none]
  loading := by
    intro _ id r hr
    rw [Pool.start, Std.TreeMap.getElem?_emptyc] at hr
    cases hr
  held := by
    intro u ip hmem
    exact (List.not_mem_nil hmem).elim
  proper := by
    intro id r hr
    rw [Pool.start, Std.TreeMap.getElem?_emptyc] at hr
    cases hr

theorem occupies_of_loaded (hloaded : s.dbLoaded = true) {u : U} {ip : Ipv4Addr} :
    s.Occupies T schema u ip ↔ ∃ k, s.ipOf k = some ip ∧ T.parse k = some u := by
  rw [Pool.Occupies, if_pos hloaded]

theorem occupies_of_unloaded (hloaded : s.dbLoaded = false) {u : U} {ip : Ipv4Addr} :
    s.Occupies T schema u ip ↔ s.storedIp schema u = some ip := by
  rw [Pool.Occupies, if_neg (by rw [hloaded]; exact Bool.false_ne_true)]

theorem Pool.Sound.unique (h : s.Sound T schema) : s.Unique := by
  intro u v ip hu hv
  have hou := h.held u ip hu
  have hov := h.held v ip hv
  cases hloaded : s.dbLoaded with
  | true =>
    obtain ⟨k, hk, hpu⟩ := (occupies_of_loaded hloaded).mp hou
    obtain ⟨k', hk', hpv⟩ := (occupies_of_loaded hloaded).mp hov
    rw [h.single k k' ip hk hk', hpv] at hpu
    exact (Option.some.inj hpu).symm
  | false =>
    rw [occupies_of_unloaded hloaded] at hou hov
    cases schema with
    | mapped => cases hou
    | ensured =>
      obtain ⟨row, hrow, hip⟩ := Option.map_eq_some_iff.mp hou
      obtain ⟨row', hrow', hip'⟩ := Option.map_eq_some_iff.mp hov
      exact s.table.unique u v row row' hrow hrow' (hip.trans hip'.symm)

theorem Pool.Sound.answered (h : s.Sound T schema) (answer : Option (Request U × Response)) :
    ({ s with answer } : Pool U).Sound T schema :=
  ⟨h.single, h.empty, h.loading, h.held, h.proper⟩

theorem Pool.Sound.loaded_of (h : s.Sound T schema) (hr : s.requests[id]? = some r)
    (hphase : ¬ r.phase.Loading s.table.rows.toList) : s.dbLoaded = true := by
  cases hloaded : s.dbLoaded with
  | true => rfl
  | false => exact (hphase (h.loading hloaded id r hr)).elim

theorem Pool.Sound.wait (h : s.Sound T schema) (hr : s.Proper T r)
    (hphase : s.dbLoaded = false → r.phase.Loading s.table.rows.toList) :
    (s.wait id r).Sound T schema where
  single := h.single
  empty := h.empty
  loading := by
    intro hloaded id' r' hr'
    rw [Pool.wait] at hr'
    dsimp only at hr'
    rw [getElem?_insert_eq] at hr'
    split at hr'
    · cases hr'
      exact hphase hloaded
    · exact h.loading hloaded id' r' hr'
  held := h.held
  proper := by
    intro id' r' hr'
    rw [Pool.wait] at hr'
    dsimp only at hr'
    rw [getElem?_insert_eq] at hr'
    split at hr'
    · cases hr'
      exact hr
    · exact h.proper id' r' hr'

theorem Pool.Proper.advance (h : s.Proper T r) {phase : Phase U} (hphase : phase.storing = none)
    (aborted : Bool) : s.Proper T { r with phase, aborted } := by
  intro t ht
  refine ⟨(h t ht).1, ?_⟩
  intro a ha
  rw [hphase] at ha
  cases ha

theorem Pool.Sound.finish (h : s.Sound T schema) (response : Response) :
    (s.finish id r response).Sound T schema := by
  refine ⟨h.single, h.empty, ?_, h.held, ?_⟩
  · intro hloaded id' r' hr'
    rw [Pool.finish] at hr'
    dsimp only at hr'
    rw [getElem?_erase_eq] at hr'
    split at hr'
    · cases hr'
    · exact h.loading hloaded id' r' hr'
  · intro id' r' hr'
    rw [Pool.finish] at hr'
    dsimp only at hr'
    rw [getElem?_erase_eq] at hr'
    split at hr'
    · cases hr'
    · exact h.proper id' r' hr'

theorem Pool.Sound.table (h : s.Sound T schema) (hloaded : s.dbLoaded = true)
    (table : VirtualIps U) : ({ s with table } : Pool U).Sound T schema := by
  refine ⟨h.single, h.empty, ?_, ?_, h.proper⟩
  · intro hfalse
    cases hloaded.symm.trans hfalse
  · intro u ip hmem
    have ho := h.held u ip hmem
    rw [occupies_of_loaded hloaded] at ho
    exact (occupies_of_loaded (by exact hloaded)).mpr ho

theorem Pool.Sound.freed (h : s.Sound T schema) (freed : List U) :
    ({ s with freed } : Pool U).Sound T schema :=
  ⟨h.single, h.empty, h.loading, h.held, h.proper⟩

theorem Pool.Sound.searched (h : s.Sound T schema) (nextHostIdx : Nat) :
    ({ s with nextHostIdx } : Pool U).Sound T schema :=
  ⟨h.single, h.empty, h.loading, h.held, h.proper⟩

theorem Pool.Sound.finishAllocate (h : s.Sound T schema) (hloaded : s.dbLoaded = true)
    {t : Target U} {a : Assignment} (ht : T.parse t.deviceId = some t.device)
    (ha : s.ipOf t.deviceId = some a.ip) : (s.finishAllocate id r t a).Sound T schema := by
  have hhold : ({ s with held := (t.device, a.ip) :: s.held } : Pool U).Sound T schema := by
    refine ⟨h.single, h.empty, h.loading, ?_, h.proper⟩
    intro u ip hmem
    obtain he | hold := List.mem_cons.mp hmem
    · cases he
      exact (occupies_of_loaded (by exact hloaded)).mpr ⟨_, ha, ht⟩
    · exact h.held u ip hold
  exact hhold.finish _

theorem Pool.Sound.finishStored (h : s.Sound T schema) (hloaded : s.dbLoaded = true)
    (table : VirtualIps U) {t : Target U} {a : Assignment}
    (ht : T.parse t.deviceId = some t.device) (ha : s.ipOf t.deviceId = some a.ip) :
    (({ s with table } : Pool U).finishAllocate id r t a).Sound T schema :=
  (h.table hloaded table).finishAllocate hloaded ht ha

theorem Pool.Sound.finishDeleted (h : s.Sound T schema) (hloaded : s.dbLoaded = true)
    (table : VirtualIps U) {t : Target U} {ip : Ipv4Addr} :
    (({ s with table } : Pool U).finishRelease id r t ip).Sound T schema :=
  ((h.table hloaded table).freed _).finish _

theorem mem_usedIps {k : String} {ip : Ipv4Addr} (h : s.ipOf k = some ip) : ip ∈ s.usedIps := by
  obtain ⟨a, ha, rfl⟩ := Option.map_eq_some_iff.mp h
  exact List.mem_map.mpr ⟨(k, a), Std.TreeMap.mem_toList_iff_getElem?_eq_some.mpr ha, rfl⟩

theorem Pool.Sound.lookup (h : s.Sound T schema) (t : Target U) :
    (s.lookup id r t).Sound T schema := by
  rw [Pool.lookup]
  split
  · exact h.finish _
  · exact h.finish _

theorem Pool.Sound.failLoad (h : s.Sound T schema) (hr : s.Proper T r)
    (hnothing : s.dbLoaded = true ∨ s.held = []) (aborted : Bool) :
    (s.failLoad id r aborted).Sound T schema := by
  have hdone : ({ s with dbLoaded := true } : Pool U).Sound T schema := by
    refine ⟨h.single, ?_, ?_, ?_, h.proper⟩
    · intro hfalse
      cases hfalse
    · intro hfalse
      cases hfalse
    · intro u ip hmem
      cases hnothing with
      | inl hloaded =>
        have ho := h.held u ip hmem
        rw [occupies_of_loaded hloaded] at ho
        exact (occupies_of_loaded rfl).mpr ho
      | inr hempty =>
        rw [hempty] at hmem
        exact (List.not_mem_nil hmem).elim
  apply hdone.wait (hr.advance rfl aborted)
  intro hfalse
  cases hfalse

/-- Without a table that can be read nobody holds an address before the load. -/
theorem Pool.Sound.nothing_held (h : s.Sound T .mapped) : s.dbLoaded = true ∨ s.held = [] := by
  cases hloaded : s.dbLoaded with
  | true => exact Or.inl rfl
  | false =>
    right
    rw [List.eq_nil_iff_forall_not_mem]
    rintro ⟨u, ip⟩ hmem
    have ho := h.held u ip hmem
    cases (occupies_of_unloaded hloaded).mp ho

theorem scanHosts_some {used : List Ipv4Addr} {k next next' : Nat} {ip : Ipv4Addr}
    (h : scanHosts used k next = (some ip, next')) :
    ip ∉ used ∧ ∃ idx < overlayHostCount, ip = overlayHost idx := by
  induction k generalizing next with
  | zero => cases h
  | succ k ih =>
    rw [scanHosts] at h
    split at h
    · exact ih h
    · next hunused =>
      cases h
      exact ⟨hunused, next % overlayHostCount, Nat.mod_lt _ (by decide), rfl⟩

theorem ipOf_insert (assigned : Std.TreeMap String Assignment) (deviceId k : String)
    (a : Assignment) : ((assigned.insert deviceId a)[k]?).map (·.ip) =
      if deviceId = k then some a.ip else (assigned[k]?).map (·.ip) := by
  rw [getElem?_insert_eq]
  split
  · rfl
  · rfl

theorem ipOf_erase (assigned : Std.TreeMap String Assignment) (deviceId k : String) :
    ((assigned.erase deviceId)[k]?).map (·.ip) =
      if deviceId = k then none else (assigned[k]?).map (·.ip) := by
  rw [getElem?_erase_eq]
  split
  · rfl
  · rfl

theorem Pool.Sound.assign (h : s.Sound T schema) (hloaded : s.dbLoaded = true) {t : Target U}
    (hnone : s.ipOf t.deviceId = none) {ip : Ipv4Addr} (hip : ip ∉ s.usedIps) (now : String)
    (next : Nat) (toDevice : Std.TreeMap Ipv4Addr String) (freed : List U) :
    ({ s with
      nextHostIdx := next
      assignedIps := s.assignedIps.insert t.deviceId ⟨ip, now⟩
      ipToDevice := toDevice
      freed } : Pool U).Sound T schema := by
  have hfresh : ∀ k, s.ipOf k ≠ some ip := fun k hk => hip (mem_usedIps hk)
  have hkeep : ∀ k ip', s.ipOf k = some ip' →
      ((s.assignedIps.insert t.deviceId ⟨ip, now⟩)[k]?).map (·.ip) = some ip' := by
    intro k ip' hk
    rw [ipOf_insert, if_neg]
    · exact hk
    · rintro rfl
      rw [hnone] at hk
      cases hk
  constructor
  · intro k k' ip' hk hk'
    rw [Pool.ipOf, ipOf_insert] at hk hk'
    split at hk
    · next he =>
      cases hk
      split at hk'
      · next he' => rw [← he, ← he']
      · exact (hfresh k' hk').elim
    · split at hk'
      · cases hk'
        exact (hfresh k hk).elim
      · exact h.single k k' ip' hk hk'
  · intro hfalse
    cases hloaded.symm.trans hfalse
  · intro hfalse
    cases hloaded.symm.trans hfalse
  · intro u ip' hmem
    obtain ⟨k, hk, hp⟩ := (occupies_of_loaded hloaded).mp (h.held u ip' hmem)
    exact (occupies_of_loaded (by exact hloaded)).mpr ⟨k, hkeep k ip' hk, hp⟩
  · intro id r hr t' ht'
    obtain ⟨hp, ha⟩ := h.proper id r hr t' ht'
    exact ⟨hp, fun a hs => hkeep _ _ (ha a hs)⟩

theorem ipOf_takeRows (T : UuidText U) (s : Pool U) (rows : List (U × VirtualIp))
    (now k : String) :
    (∃ e ∈ rows, T.str e.1 = k ∧ (s.takeRows T rows now).ipOf k = some e.2.virtualIp) ∨
      ((∀ e ∈ rows, T.str e.1 ≠ k) ∧ (s.takeRows T rows now).ipOf k = s.ipOf k) := by
  by_cases hk : ∃ e ∈ rows, T.str e.1 = k
  · left
    obtain ⟨e, he, rfl⟩ := hk
    have hrow := List.mem_map_of_mem (f := fun e : U × VirtualIp =>
      (T.str e.1, (⟨e.2.virtualIp, e.2.assignedAt.getD now⟩ : Assignment))) he
    obtain ⟨v, hv, hlookup⟩ := exists_of_insertMany (t := s.assignedIps) ⟨_, hrow⟩
    obtain ⟨e', he', heq⟩ := List.mem_map.mp hv
    obtain ⟨hkey, rfl⟩ := Prod.mk.inj heq
    exact ⟨e', he', hkey, by rw [Pool.ipOf, Pool.takeRows, hlookup]; rfl⟩
  · right
    have hne : ∀ e ∈ rows, T.str e.1 ≠ k := fun e he heq => hk ⟨e, he, heq⟩
    refine ⟨hne, ?_⟩
    rw [Pool.ipOf, Pool.takeRows, Pool.ipOf, insertMany_of_not_mem]
    intro v hv
    obtain ⟨e, he, heq⟩ := List.mem_map.mp hv
    exact hne e he (Prod.ext_iff.mp heq).1

theorem ipOf_takeRows_again {rows : List (U × VirtualIp)}
    (hrows : ∀ e ∈ rows, s.ipOf (T.str e.1) = some e.2.virtualIp) (now k : String) :
    (s.takeRows T rows now).ipOf k = s.ipOf k := by
  obtain ⟨e, he, rfl, hk⟩ | ⟨_, hk⟩ := ipOf_takeRows T s rows now k
  · rw [hk, hrows e he]
  · exact hk

theorem Pool.Sound.ipOf_takeRows_first (h : s.Sound T schema) (hloaded : s.dbLoaded = false)
    {rows : List (U × VirtualIp)} {now k : String} {ip : Ipv4Addr}
    (hip : (s.takeRows T rows now).ipOf k = some ip) :
    ∃ e ∈ rows, T.str e.1 = k ∧ e.2.virtualIp = ip := by
  obtain ⟨e, he, hkey, hk⟩ | ⟨_, hk⟩ := ipOf_takeRows T s rows now k
  · rw [hip, Option.some_inj] at hk
    exact ⟨e, he, hkey, hk.symm⟩
  · rw [hip, h.empty hloaded k] at hk
    cases hk

theorem Pool.Sound.takeRows_again (h : s.Sound T schema) (hloaded : s.dbLoaded = true)
    {rows : List (U × VirtualIp)} (hrows : ∀ e ∈ rows, s.ipOf (T.str e.1) = some e.2.virtualIp)
    (now : String) : (s.takeRows T rows now).Sound T schema := by
  have hsame := ipOf_takeRows_again hrows now
  constructor
  · intro k k' ip hk hk'
    rw [hsame] at hk hk'
    exact h.single k k' ip hk hk'
  · intro hfalse
    cases hfalse
  · intro hfalse
    cases hfalse
  · intro u ip hmem
    obtain ⟨k, hk, hp⟩ := (occupies_of_loaded hloaded).mp (h.held u ip hmem)
    exact (occupies_of_loaded rfl).mpr ⟨k, (hsame k).trans hk, hp⟩
  · intro id r hr t ht
    obtain ⟨hp, ha⟩ := h.proper id r hr t ht
    exact ⟨hp, fun a hs => (hsame _).trans (ha a hs)⟩

theorem Pool.Sound.load (h : s.Sound T schema) (hr : s.Proper T r) :
    (s.load id r).Sound T schema := by
  rw [Pool.load]
  cases hloaded : s.dbLoaded with
  | true =>
    apply h.wait (hr.advance rfl _)
    intro hfalse
    cases hloaded.symm.trans hfalse
  | false => exact h.wait (hr.advance rfl _) (fun _ => trivial)

theorem Pool.restart_sound
    (hheld : ∀ e ∈ s.held, s.storedIp schema e.1 = some e.2) : s.restart.Sound T schema := by
  have hstart : (Pool.start s.table).Sound T schema := .start s.table
  refine ⟨hstart.single, hstart.empty, hstart.loading, ?_, hstart.proper⟩
  intro u ip hmem
  exact (occupies_of_unloaded rfl).mpr (hheld (u, ip) hmem)

theorem Pool.Sound.begin (h : s.Sound T schema) (id user : Nat) (call : Option (Action × String)) :
    (s.begin T id user call).Sound T schema := by
  unfold Pool.begin
  split
  · exact h
  · split
    · apply h.load
      intro t ht
      cases ht
    · split
      · exact h.finish _
      · split
        · exact h.finish _
        · next device hparse =>
          apply h.wait
          · intro t ht
            cases ht
            refine ⟨hparse, ?_⟩
            intro a ha
            cases ha
          · exact fun _ => trivial

end Basic

section Body
variable {U : Type} [Ord U] [DecidableEq U]
variable {T : UuidText U} {schema : Schema} {s : Pool U} {id : Nat} {r : Request U}

theorem Pool.Sound.allocate (h : s.Sound T schema) (hloaded : s.dbLoaded = true)
    (hr : s.Proper T r) {t : Target U} (ht : r.target = some t) (now : String) :
    (s.allocate id now r t).Sound T schema := by
  have hparse := (hr t ht).1
  rw [Pool.allocate]
  split
  · next a ha =>
    apply h.finishAllocate hloaded hparse
    rw [Pool.ipOf, ha, Option.map_some]
  · next hnone =>
    have hfree : s.ipOf t.deviceId = none := by
      rw [Pool.ipOf, hnone, Option.map_none]
    split
    · next next hscan =>
      exact (h.searched next).finish _
    · next ip next hscan =>
      have hassign := h.assign hloaded hfree (scanHosts_some hscan).1 now next
        (s.ipToDevice.insert ip t.deviceId) (s.freed.filter (· ≠ t.device))
      apply hassign.wait
      · intro t' ht'
        cases ht.symm.trans ht'
        refine ⟨hparse, ?_⟩
        intro a ha
        cases ha
        rw [Pool.ipOf, ipOf_insert, if_pos rfl]
      · intro hfalse
        cases hloaded.symm.trans hfalse

theorem Pool.Sound.release (h : s.Sound T schema) (hloaded : s.dbLoaded = true)
    (hr : s.Proper T r) {t : Target U} (ht : r.target = some t)
    (hcareful : ∀ (other : Nat) (r' : Request U) (t' : Target U), s.requests[other]? = some r' →
      r'.target = some t' → t'.deviceId = t.deviceId → r'.phase.storing = none) :
    (s.release id r t).Sound T schema := by
  have hparse := (hr t ht).1
  rw [Pool.release]
  split
  · next a ha =>
    have hip : s.ipOf t.deviceId = some a.ip := by
      rw [Pool.ipOf, ha, Option.map_some]
    have herased : ({ s with
        assignedIps := s.assignedIps.erase t.deviceId
        ipToDevice := s.ipToDevice.erase a.ip
        held := s.held.filter (· ≠ (t.device, a.ip)) } : Pool U).Sound T schema := by
      constructor
      · intro k k' ip hk hk'
        rw [Pool.ipOf, ipOf_erase] at hk hk'
        split at hk
        · cases hk
        · split at hk'
          · cases hk'
          · exact h.single k k' ip hk hk'
      · intro hfalse
        cases hloaded.symm.trans hfalse
      · intro hfalse
        cases hloaded.symm.trans hfalse
      · intro u ip hmem
        obtain ⟨hmem, hne⟩ := List.mem_filter.mp hmem
        obtain ⟨k, hk, hp⟩ := (occupies_of_loaded hloaded).mp (h.held u ip hmem)
        refine (occupies_of_loaded (by exact hloaded)).mpr ⟨k, ?_, hp⟩
        rw [Pool.ipOf, ipOf_erase, if_neg]
        · exact hk
        · rintro rfl
          rw [hip] at hk
          rw [hparse] at hp
          cases hk
          cases hp
          exact of_decide_eq_true hne rfl
      · intro other r' hr' t' ht'
        obtain ⟨hp, hstoring⟩ := h.proper other r' hr' t' ht'
        refine ⟨hp, ?_⟩
        intro a' ha'
        rw [Pool.ipOf, ipOf_erase, if_neg]
        · exact hstoring a' ha'
        · intro he
          rw [hcareful other r' t' hr' ht' he.symm] at ha'
          cases ha'
    apply herased.wait
    · intro t' ht'
      cases ht.symm.trans ht'
      refine ⟨hparse, ?_⟩
      intro a' ha'
      cases ha'
    · intro hfalse
      cases hloaded.symm.trans hfalse
  · exact h.finish _

theorem Pool.Sound.runBody (h : s.Sound T schema) (hr : s.requests[id]? = some r)
    (hphase : r.phase = .body) (hcareful : s.CarefulRun T r) (now : String) :
    (s.runBody id now r).Sound T schema := by
  have hproper := h.proper id r hr
  have hloaded : s.dbLoaded = true := by
    apply h.loaded_of hr
    rw [hphase]
    exact not_false
  rw [Pool.runBody]
  split
  · next htarget =>
    apply h.wait (hproper.advance rfl _)
    intro hfalse
    cases hloaded.symm.trans hfalse
  · next t ht =>
    split
    · exact h.allocate hloaded hproper ht now
    · next haction =>
      have hbody : t ∈ r.bodyOf .release := by
        rw [Request.bodyOf, hphase, ht, Option.mem_def]
        exact if_pos (decide_eq_true haction)
      apply h.release hloaded hproper ht
      intro other r' t' hr' ht' he
      exact hcareful.2 t hbody (other, r')
        (Std.TreeMap.mem_toList_iff_getElem?_eq_some.mpr hr') t' ht' he
    · exact h.lookup t

end Body

section Load
variable {U : Type} [Ord U] [Std.TransOrd U] [Std.LawfulEqOrd U]
variable {T : UuidText U} {schema : Schema} {s : Pool U} {id : Nat} {r : Request U}

theorem Pool.Sound.takeRows_first (h : s.Sound T schema) (hloaded : s.dbLoaded = false)
    (now : String) : (s.takeRows T s.table.rows.toList now).Sound T schema := by
  have hrow : ∀ e ∈ s.table.rows.toList, s.table.rows[e.1]? = some e.2 :=
    fun e he => Std.TreeMap.mem_toList_iff_getElem?_eq_some.mp he
  constructor
  · intro k k' ip hk hk'
    obtain ⟨e, he, rfl, hip⟩ := h.ipOf_takeRows_first hloaded hk
    obtain ⟨e', he', rfl, hip'⟩ := h.ipOf_takeRows_first hloaded hk'
    exact congrArg T.str (s.table.unique e.1 e'.1 e.2 e'.2 (hrow e he) (hrow e' he')
      (hip.trans hip'.symm))
  · intro hfalse
    cases hfalse
  · intro hfalse
    cases hfalse
  · intro u ip hmem
    have hstored := (occupies_of_unloaded hloaded).mp (h.held u ip hmem)
    cases schema with
    | mapped => cases hstored
    | ensured =>
      obtain ⟨row, hu, rfl⟩ := Option.map_eq_some_iff.mp hstored
      refine (occupies_of_loaded rfl).mpr ⟨T.str u, ?_, T.parse_str u⟩
      obtain ⟨e, he, hkey, hk⟩ | ⟨hne, _⟩ := ipOf_takeRows T s
        s.table.rows.toList now (T.str u)
      · have hrow := hrow e he
        rw [T.str_injective hkey, hu, Option.some_inj] at hrow
        rw [hk, hrow]
      · exact (hne (u, row) (Std.TreeMap.mem_toList_iff_getElem?_eq_some.mpr hu) rfl).elim
  · intro id r hr t ht
    refine ⟨(h.proper id r hr t ht).1, ?_⟩
    intro a ha
    rw [(h.loading hloaded id r hr).storing_eq] at ha
    cases ha

theorem Pool.Sound.takeRows (h : s.Sound T schema) (hr : s.requests[id]? = some r)
    {rows : List (U × VirtualIp)} (hphase : r.phase = .loaded rows)
    (hcareful : s.CarefulRun T r) (now : String) : (s.takeRows T rows now).Sound T schema := by
  cases hloaded : s.dbLoaded with
  | true =>
    apply h.takeRows_again hloaded
    apply hcareful.1 rows _ hloaded
    rw [hphase]
    rfl
  | false =>
    have hrows := h.loading hloaded id r hr
    rw [hphase] at hrows
    cases hrows
    exact h.takeRows_first hloaded now

end Load

section Run
variable {U : Type} [Ord U] [Std.TransOrd U] [Std.LawfulEqOrd U] [DecidableEq U]
variable {T : UuidText U} {schema : Schema} {s : Pool U} {id : Nat} {r : Request U}

theorem Pool.Sound.runPhase (devices : Nat → List U) (h : s.Sound T schema)
    (hr : s.requests[id]? = some r) (hcareful : s.CarefulRun T r) (now : String) :
    (s.runPhase T schema devices id now r).Sound T schema := by
  have hproper := h.proper id r hr
  have hloaded : ¬ r.phase.Loading s.table.rows.toList → s.dbLoaded = true := h.loaded_of hr
  unfold Pool.runPhase
  split
  · rw [Pool.authorize]
    split
    · exact h
    · split
      · exact h.load hproper
      · exact h.finish _
  · exact h.wait (hproper.advance rfl _) (fun _ => trivial)
  · split
    · exact h.failLoad hproper h.nothing_held true
    · exact h.wait (hproper.advance rfl _) (fun _ => rfl)
  · next rows hphase =>
    have htaken := h.takeRows hr hphase hcareful now
    apply htaken.wait ((htaken.proper id r hr).advance rfl _)
    intro hfalse
    cases hfalse
  · next hphase => exact h.runBody hr hphase hcareful now
  · next a hphase =>
    rw [hphase] at hloaded
    have hdone := hloaded not_false
    apply h.wait
    · intro t ht
      obtain ⟨hp, ha⟩ := hproper t ht
      rw [hphase] at ha
      exact ⟨hp, ha⟩
    · intro hfalse
      cases hdone.symm.trans hfalse
  · next a t hphase ht =>
    rw [hphase] at hloaded
    obtain ⟨hp, ha⟩ := hproper t ht
    rw [hphase] at ha
    exact h.finishStored (hloaded not_false) _ hp (ha a rfl)
  · next ip t hphase ht =>
    rw [hphase] at hloaded
    exact h.finishDeleted (hloaded not_false) _
  · exact h.finish _
  · exact h
  · exact h

theorem Pool.Sound.failPhase (h : s.Sound T schema) (hr : s.requests[id]? = some r)
    {rollbacks : Nat} (hnothing : r.phase.failsLoad rollbacks = true →
      s.dbLoaded = true ∨ s.held = []) (now : String) (applied : Bool) :
    (s.failPhase T schema id now applied rollbacks r).Sound T schema := by
  have hproper := h.proper id r hr
  have hloaded : ¬ r.phase.Loading s.table.rows.toList → s.dbLoaded = true := h.loaded_of hr
  unfold Pool.failPhase
  split
  · exact h.finish _
  · exact h.finish _
  · next hphase =>
    split
    · exact h.wait (hproper.advance rfl _) (fun _ => trivial)
    · next n =>
      rw [hphase] at hnothing
      exact h.failLoad hproper (hnothing (decide_eq_true n.succ_pos)) true
  · next hphase =>
    rw [hphase] at hnothing
    exact h.failLoad hproper (hnothing rfl) true
  · next a t hphase ht =>
    rw [hphase] at hloaded
    have hdone := hloaded not_false
    obtain ⟨hp, ha⟩ := hproper t ht
    rw [hphase] at ha
    split
    · apply h.wait
      · intro t' ht'
        cases ht.symm.trans ht'
        exact ⟨hp, ha⟩
      · intro hfalse
        cases hdone.symm.trans hfalse
    · exact h.finishAllocate hdone hp (ha a rfl)
    · exact h.finish _
  · next a t hphase ht =>
    rw [hphase] at hloaded
    have hdone := hloaded not_false
    obtain ⟨hp, ha⟩ := hproper t ht
    rw [hphase] at ha
    cases rollbacks with
    | zero => exact h.finishStored hdone _ hp (ha a rfl)
    | succ n => exact (h.table hdone _).finish _
  · next ip t hphase ht =>
    rw [hphase] at hloaded
    have hdone := hloaded not_false
    cases rollbacks with
    | zero => exact h.finishDeleted hdone _
    | succ n => exact (h.table hdone _).finish _
  · exact h
  · exact h
  · exact h
  · exact h
  · exact h

theorem Pool.Sound.step (devices : Nat → List U) (h : s.Sound T schema) {op : Op}
    (hcareful : s.Careful T schema op) : (s.step T schema devices op).Sound T schema := by
  have hs := h.answered none
  cases op with
  | begin id user call => exact hs.begin id user call
  | run id now =>
    rw [Pool.step]
    dsimp only
    split
    · exact hs
    · next r hr => exact hs.runPhase devices hr (hcareful r hr) now
  | fail id now applied rollbacks =>
    rw [Pool.step]
    dsimp only
    split
    · exact hs
    · next r hr => exact hs.failPhase hr (hcareful r hr) now applied
  | restart => exact Pool.restart_sound hcareful

end Run

section Uniqueness
variable {U : Type} [Ord U] [Std.TransOrd U] [Std.LawfulEqOrd U] [DecidableEq U]

/-- At every point of a run of careful steps no two devices hold one address. -/
theorem addresses_unique (T : UuidText U) (schema : Schema) (devices : Nat → List U)
    (table : VirtualIps U) {ops : List Op}
    (hcareful : Guarded (Pool.step T schema devices) (Pool.Careful T schema) (Pool.start table)
      ops) : ∀ l, l <+: ops → ((Pool.start table).runs T schema devices l).Unique := by
  rintro l ⟨rest, rfl⟩
  have hsound : ((Pool.start table).runs T schema devices l).Sound T schema :=
    (guarded_append.mp hcareful).1.invariant (Pool.Sound.start table)
      (fun s op hs hop => hs.step devices hop)
  exact hsound.unique

end Uniqueness

def deviceText (u : Fin 2) : String :=
  if u.val = 0 then "6f9619ff-8b86-d011-b42d-00c04fc964ff"
  else "7d444840-9dc0-11d1-b245-5ffdce74fad2"

/-- The UUIDs of two devices, accepted in lower and upper case. -/
def twoDevices : UuidText (Fin 2) where
  parse s := (List.finRange 2).find? (fun u => (deviceText u).toList = s.toList.map Char.toLower)
  str := deviceText
  stored s := (List.finRange 2).find? (fun u => (deviceText u).toList = s.toList.map Char.toLower)
  parse_str := by decide
  stored_str := by decide

def noRows : VirtualIps (Fin 2) where
  rows := ∅
  unique := by
    intro u v r r' hu
    rw [Std.TreeMap.getElem?_emptyc] at hu
    cases hu

/-- A request by a user, and as many steps of it. -/
def requestOps (id : Nat) (action : Action) (deviceId : String) (steps : Nat) : List Op :=
  .begin id 0 (some (action, deviceId)) :: List.replicate steps (.run id "")

theorem addresses_unique_restart :
    ((Pool.start noRows).runs twoDevices .ensured (fun _ => [0, 1])
      (requestOps 0 .allocate (deviceText 0) 7 ++ .restart ::
        requestOps 1 .allocate (deviceText 1) 7)).Unique :=
  addresses_unique twoDevices .ensured (fun _ => [0, 1]) noRows (by decide +kernel) _
    (List.prefix_refl _)

/-- The first device's address is not stored, and after a restart the second one gets it. -/
theorem address_given_twice :
    ¬ ((Pool.start noRows).runs twoDevices .ensured (fun _ => [0, 1])
      (requestOps 0 .allocate (deviceText 0) 6 ++ .fail 0 "" false 0 :: .restart ::
        requestOps 1 .allocate (deviceText 1) 7)).Unique := by
  intro h
  have hsame := h 0 1 0x64400001#32 (by decide +kernel) (by decide +kernel)
  cases hsame

end P2PMesh.Ipam
