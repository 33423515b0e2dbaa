import P2PMesh.IpamUniqueness

namespace P2PMesh.Ipam
open P2PMesh.Base
set_option autoImplicit true

def Phase.deleting : Phase U → Bool
  | .delete _ => true
  | _ => false

def Op.healthy : Op → Bool
  | .fail _ _ _ _ => false
  | _ => true

section Pool
variable {U : Type} [Ord U] [DecidableEq U]
variable (T : UuidText U) (schema : Schema) (devices : Nat → List U) (s : Pool U)

/-- The id is written as the module writes it, or memory has nothing for the device. -/
def Pool.Spelled (t : Target U) : Prop :=
  T.str t.device = t.deviceId ∨ ∀ e ∈ s.assignedIps.toList, T.parse e.1 ≠ some t.device

/-- An allocation is asked for under the text that the module writes, while no release of the
device is under way; a release or a lookup under that text too, if the device has an address. -/
def Pool.PlainRun (r : Request U) : Prop :=
  (∀ t ∈ r.bodyOf .allocate, T.str t.device = t.deviceId ∧
    ∀ e ∈ s.requests.toList, ∀ t' ∈ e.2.target, t'.device = t.device →
      e.2.phase.deleting = false) ∧
  (∀ t ∈ r.bodyOf .release, s.Spelled T t) ∧ ∀ t ∈ r.bodyOf .lookup, s.Spelled T t

def Pool.Plain (op : Op) : Prop :=
  match op with
  | .run id _ => ∀ r ∈ s.requests[id]?, s.PlainRun T r
  | .begin _ _ _ | .fail _ _ _ _ | .restart => True

instance decidableSpelled (t : Target U) : Decidable (s.Spelled T t) :=
  inferInstanceAs (Decidable (_ ∨ _))

instance decidablePlainRun (r : Request U) : Decidable (s.PlainRun T r) :=
  inferInstanceAs (Decidable (_ ∧ _ ∧ _))

instance decidablePlain : ∀ op, Decidable (s.Plain T op)
  | .run _ _ => inferInstanceAs (Decidable (∀ r ∈ _, s.PlainRun T r))
  | .begin _ _ _ | .fail _ _ _ _ | .restart => inferInstanceAs (Decidable True)

/-- The answer is right about the device's address: an allocation or a lookup gives the one that
the device has; after a release, or an answer that there is none, it has none; and a list of peers
has every device of the user with the address that it holds. -/
def Pool.Right (r : Request U) (response : Response) : Prop :=
  match r.target, response with
  | some t, .address _ a =>
    s.Occupies T schema t.device a.ip ∧ (t.action = .allocate → (t.device, a.ip) ∈ s.held)
  | some t, .released _ _ | some t, .notReleased _ => ∀ ip, ¬ s.Occupies T schema t.device ip
  | some t, .error status _ => status = 404 → ∀ ip, ¬ s.Occupies T schema t.device ip
  | none, .peers listed => ∀ u ip, (u, ip) ∈ s.held → u ∈ devices r.user →
    ∃ a, (T.str u, a) ∈ listed ∧ a.ip = ip
  | some _, .peers _ | none, _ => True

/-- Every address that a device was given and has not released is the one that it has; no device
has two, a released one comes back only by a new allocation, and the last answer is right. -/
structure Pool.OneAddress : Prop where
  held : ∀ u ip, (u, ip) ∈ s.held → s.Occupies T schema u ip
  one : ∀ u ip ip', s.Occupies T schema u ip → s.Occupies T schema u ip' → ip = ip'
  freed : ∀ u ∈ s.freed, ∀ ip, ¬ s.Occupies T schema u ip
  answered : ∀ r response, s.answer = some (r, response) → s.Right T schema devices r response

/-- A request that deletes has taken its device's address out of memory; rows are only read from a
table that can be read, and no transaction is aborted there. -/
structure Request.Tidy (ipOf : String → Option Ipv4Addr) (r : Request U) : Prop where
  reads : schema = .mapped → r.phase.rowsRead = none
  clean : schema = .ensured → r.aborted = false
  deleting : ∀ t, r.target = some t → r.phase.deleting = true →
    T.str t.device = t.deviceId ∧ ipOf t.deviceId = none

/-- All of memory is under the texts that the module writes, and has nothing of a device whose
address was released. -/
structure Pool.Tidy : Prop where
  spelled : ∀ k ip, s.ipOf k = some ip → ∃ u, T.str u = k
  requests : ∀ (id : Nat) (r : Request U), s.requests[id]? = some r →
    r.Tidy T schema s.ipOf
  freed : ∀ u ∈ s.freed, s.ipOf (T.str u) = none ∧ s.storedIp schema u = none

end Pool

theorem Phase.Loading.not_deleting {phase : Phase U} {rows : List (U × VirtualIp)}
    (h : phase.Loading rows) : phase.deleting = false := by
  cases phase with
  | authorize | loadEnsure | select | loaded _ => rfl
  | body | persistEnsure _ | insert _ | delete _ | peers => exact h.elim

theorem tidy_of_phase {T : UuidText U} {schema : Schema} {r : Request U}
    {ipOf : String → Option Ipv4Addr} (hclean : schema = .ensured → r.aborted = false)
    (hrows : r.phase.rowsRead = none) (hdelete : r.phase.deleting = false) :
    r.Tidy T schema ipOf where
  reads := fun _ => hrows
  clean := hclean
  deleting := by
    intro t _ ht
    rw [hdelete] at ht
    cases ht

theorem mem_bodyOf {r : Request U} {action : Action} {t : Target U} (hphase : r.phase = .body)
    (ht : r.target = some t) (haction : t.action = action) : t ∈ r.bodyOf action := by
  rw [Request.bodyOf, hphase, ht, Option.mem_def]
  exact if_pos (decide_eq_true haction)

section Basic
variable {U : Type} [Ord U]
variable {T : UuidText U} {schema : Schema} {s : Pool U} {id : Nat} {r : Request U}

theorem Pool.Tidy.start (table : VirtualIps U) : (Pool.start table).Tidy T schema where
  spelled := by
    intro k ip hk
    rw [Pool.start, Pool.ipOf, Std.TreeMap.getElem?_emptyc] at hk
    cases hk
  requests := by
    intro id r hr
    rw [Pool.start, Std.TreeMap.getElem?_emptyc] at hr
    cases hr
  freed := by
    intro u hu
    exact (List.not_mem_nil hu).elim

theorem Pool.Tidy.occupies_iff (h : s.Tidy T schema) (hloaded : s.dbLoaded = true) {u : U}
    {ip : Ipv4Addr} : s.Occupies T schema u ip ↔ s.ipOf (T.str u) = some ip := by
  rw [occupies_of_loaded hloaded]
  constructor
  · rintro ⟨k, hk, hp⟩
    obtain ⟨v, rfl⟩ := h.spelled k ip hk
    rw [T.parse_str, Option.some_inj] at hp
    rw [← hp]
    exact hk
  · intro hip
    exact ⟨T.str u, hip, T.parse_str u⟩

theorem Pool.Tidy.one (h : s.Tidy T schema) {u : U} {ip ip' : Ipv4Addr}
    (hip : s.Occupies T schema u ip) (hip' : s.Occupies T schema u ip') : ip = ip' := by
  cases hloaded : s.dbLoaded with
  | true =>
    rw [h.occupies_iff hloaded] at hip hip'
    rw [hip, Option.some_inj] at hip'
    exact hip'
  | false =>
    rw [occupies_of_unloaded hloaded] at hip hip'
    rw [hip, Option.some_inj] at hip'
    exact hip'

theorem Pool.Tidy.not_occupied (h : s.Tidy T schema) {u : U} (hu : u ∈ s.freed) (ip : Ipv4Addr) :
    ¬ s.Occupies T schema u ip := by
  obtain ⟨hmemory, hstored⟩ := h.freed u hu
  cases hloaded : s.dbLoaded with
  | true =>
    rw [h.occupies_iff hloaded, hmemory]
    rintro ⟨⟩
  | false =>
    rw [occupies_of_unloaded hloaded, hstored]
    rintro ⟨⟩

theorem Pool.Tidy.answered (h : s.Tidy T schema) (answer : Option (Request U × Response)) :
    ({ s with answer } : Pool U).Tidy T schema :=
  ⟨h.spelled, h.requests, h.freed⟩

theorem Pool.Tidy.wait (h : s.Tidy T schema) (hr : r.Tidy T schema s.ipOf) :
    (s.wait id r).Tidy T schema where
  spelled := h.spelled
  requests := by
    intro id' r' hr'
    rw [Pool.wait] at hr'
    dsimp only at hr'
    rw [getElem?_insert_eq] at hr'
    split at hr'
    · cases hr'
      exact hr
    · exact h.requests id' r' hr'
  freed := h.freed

theorem Pool.Tidy.finish (h : s.Tidy T schema) (response : Response) :
    (s.finish id r response).Tidy T schema where
  spelled := h.spelled
  requests := by
    intro id' r' hr'
    rw [Pool.finish] at hr'
    dsimp only at hr'
    rw [getElem?_erase_eq] at hr'
    split at hr'
    · cases hr'
    · exact h.requests id' r' hr'
  freed := h.freed

theorem Pool.Tidy.searched (h : s.Tidy T schema) (nextHostIdx : Nat) :
    ({ s with nextHostIdx } : Pool U).Tidy T schema :=
  ⟨h.spelled, h.requests, h.freed⟩

theorem Pool.Tidy.finishAllocate (h : s.Tidy T schema) {t : Target U} {a : Assignment} :
    (s.finishAllocate id r t a).Tidy T schema := by
  have hhold : ({ s with held := (t.device, a.ip) :: s.held } : Pool U).Tidy T schema :=
    ⟨h.spelled, h.requests, h.freed⟩
  exact hhold.finish _

theorem Pool.Tidy.str_of_ipOf (h : s.Tidy T schema) {t : Target U} {ip : Ipv4Addr}
    (hparse : T.parse t.deviceId = some t.device) (hip : s.ipOf t.deviceId = some ip) :
    T.str t.device = t.deviceId := by
  obtain ⟨v, hv⟩ := h.spelled _ ip hip
  rw [← hv, T.parse_str, Option.some_inj] at hparse
  rw [← hparse, hv]

theorem Pool.Tidy.table (h : s.Tidy T schema) {table : VirtualIps U} {freed : List U}
    (hfreed : ∀ u ∈ freed, s.ipOf (T.str u) = none ∧
      ({ s with table } : Pool U).storedIp schema u = none) :
    ({ s with table, freed } : Pool U).Tidy T schema :=
  ⟨h.spelled, h.requests, hfreed⟩

theorem Pool.Tidy.restart (h : s.Tidy T schema) : s.restart.Tidy T schema := by
  have hstart : (Pool.start s.table).Tidy T schema := .start s.table
  refine ⟨hstart.spelled, hstart.requests, ?_⟩
  intro u hu
  refine ⟨?_, (h.freed u hu).2⟩
  rw [Pool.restart, Pool.ipOf, Std.TreeMap.getElem?_emptyc, Option.map_none]

theorem Pool.Tidy.load (h : s.Tidy T schema) (hclean : schema = .ensured → r.aborted = false) :
    (s.load id r).Tidy T schema := by
  rw [Pool.load]
  cases s.dbLoaded with
  | true => exact h.wait (tidy_of_phase hclean rfl rfl)
  | false => exact h.wait (tidy_of_phase hclean rfl rfl)

theorem Pool.Tidy.begin (h : s.Tidy T schema) (id user : Nat) (call : Option (Action × String)) :
    (s.begin T id user call).Tidy T schema := by
  unfold Pool.begin
  split
  · exact h
  · split
    · exact h.load (fun _ => rfl)
    · split
      · exact h.finish _
      · split
        · exact h.finish _
        · exact h.wait (tidy_of_phase (fun _ => rfl) rfl rfl)

theorem Pool.Tidy.takeRows (h : s.Tidy T schema) (hs : s.Sound T schema)
    (hr : s.requests[id]? = some r) {rows : List (U × VirtualIp)} (hphase : r.phase = .loaded rows)
    (hcareful : s.CarefulRun T r) (now : String)
    (hrow : ∀ u, (u ∈ s.freed) → schema = .ensured → s.dbLoaded = false → ∀ e ∈ rows, e.1 ≠ u) :
    (s.takeRows T rows now).Tidy T schema := by
  cases hloaded : s.dbLoaded with
  | true =>
    have hsame : ∀ k, (s.takeRows T rows now).ipOf k = s.ipOf k := by
      apply ipOf_takeRows_again
      apply hcareful.1 rows _ hloaded
      rw [hphase]
      rfl
    refine ⟨?_, ?_, ?_⟩
    · intro k ip hk
      rw [hsame] at hk
      exact h.spelled k ip hk
    · intro id' r' hr'
      have ht := h.requests id' r' hr'
      refine ⟨ht.1, ht.2, ?_⟩
      intro t htarget hdelete
      rw [hsame]
      exact ht.deleting t htarget hdelete
    · intro u hu
      rw [hsame]
      exact h.freed u hu
  | false =>
    have hensured : schema = .ensured := by
      cases hschema : schema with
      | ensured => rfl
      | mapped =>
        have hnone := (h.requests id r hr).reads hschema
        rw [hphase] at hnone
        cases hnone
    refine ⟨?_, ?_, ?_⟩
    · intro k ip hk
      obtain ⟨e, _, hkey, _⟩ := hs.ipOf_takeRows_first hloaded hk
      exact ⟨e.1, hkey⟩
    · intro id' r' hr'
      have ht := h.requests id' r' hr'
      refine ⟨ht.1, ht.2, ?_⟩
      intro t _ hdelete
      rw [(hs.loading hloaded id' r' hr').not_deleting] at hdelete
      cases hdelete
    · intro u hu
      refine ⟨?_, (h.freed u hu).2⟩
      rw [Option.eq_none_iff_forall_ne_some]
      intro ip hip
      obtain ⟨e, he, hkey, _⟩ := hs.ipOf_takeRows_first hloaded hip
      exact hrow u hu hensured hloaded e he (T.str_injective hkey)

theorem Pool.PlainRun.not_deleting (h : s.PlainRun T r) {t : Target U}
    (hbody : t ∈ r.bodyOf .allocate) (other : Nat) (r' : Request U) (t' : Target U)
    (hr' : s.requests[other]? = some r') (ht' : r'.target = some t')
    (he : t'.device = t.device) : r'.phase.deleting = false :=
  (h.1 t hbody).2 (other, r') (Std.TreeMap.mem_toList_iff_getElem?_eq_some.mpr hr') t' ht' he

theorem Pool.Tidy.none_occupied (h : s.Tidy T schema) (hloaded : s.dbLoaded = true)
    {t : Target U} (hspelled : s.Spelled T t) (hnone : s.ipOf t.deviceId = none) (ip : Ipv4Addr) :
    ¬ s.Occupies T schema t.device ip := by
  intro ho
  cases hspelled with
  | inl hspelled =>
    rw [h.occupies_iff hloaded, hspelled, hnone] at ho
    cases ho
  | inr hempty =>
    obtain ⟨k, hk, hparse⟩ := (occupies_of_loaded hloaded).mp ho
    obtain ⟨a, ha, -⟩ := Option.map_eq_some_iff.mp hk
    exact hempty (k, a) (Std.TreeMap.mem_toList_iff_getElem?_eq_some.mpr ha) hparse

end Basic

section Body
variable {U : Type} [Ord U] [DecidableEq U]
variable {T : UuidText U} {schema : Schema} {s : Pool U} {id : Nat} {r : Request U}

theorem Pool.Tidy.assign (h : s.Tidy T schema) {t : Target U}
    (hspelled : T.str t.device = t.deviceId)
    (hdelete : ∀ (other : Nat) (r' : Request U) (t' : Target U), s.requests[other]? = some r' →
      r'.target = some t' → t'.device = t.device → r'.phase.deleting = false)
    (a : Assignment) (next : Nat) (toDevice : Std.TreeMap Ipv4Addr String) :
    ({ s with
      nextHostIdx := next
      assignedIps := s.assignedIps.insert t.deviceId a
      ipToDevice := toDevice
      freed := s.freed.filter (· ≠ t.device) } : Pool U).Tidy T schema := by
  refine ⟨?_, ?_, ?_⟩
  · intro k ip hk
    rw [Pool.ipOf, ipOf_insert] at hk
    split at hk
    · next he => exact ⟨t.device, hspelled.trans he⟩
    · exact h.spelled k ip hk
  · intro other r' hr'
    have htidy := h.requests other r' hr'
    refine ⟨htidy.1, htidy.2, ?_⟩
    intro t' ht' hdeleting
    obtain ⟨hspelled', hnone⟩ := htidy.deleting t' ht' hdeleting
    refine ⟨hspelled', ?_⟩
    rw [Pool.ipOf, ipOf_insert, if_neg]
    · exact hnone
    · intro he
      rw [← hspelled, ← hspelled'] at he
      rw [hdelete other r' t' hr' ht' (T.str_injective he).symm] at hdeleting
      cases hdeleting
  · intro u hu
    obtain ⟨hu, hne⟩ := List.mem_filter.mp hu
    refine ⟨?_, (h.freed u hu).2⟩
    rw [Pool.ipOf, ipOf_insert, if_neg]
    · exact (h.freed u hu).1
    · intro he
      rw [← hspelled] at he
      exact of_decide_eq_true hne (T.str_injective he).symm

theorem Pool.Tidy.allocate (h : s.Tidy T schema) (hclean : schema = .ensured → r.aborted = false)
    {t : Target U} (hspelled : T.str t.device = t.deviceId)
    (hdelete : ∀ (other : Nat) (r' : Request U) (t' : Target U), s.requests[other]? = some r' →
      r'.target = some t' → t'.device = t.device → r'.phase.deleting = false) (now : String) :
    (s.allocate id now r t).Tidy T schema := by
  rw [Pool.allocate]
  split
  · exact h.finishAllocate
  · split
    · exact (h.searched _).finish _
    · exact (h.assign hspelled hdelete _ _ _).wait (tidy_of_phase hclean rfl rfl)

theorem Pool.Tidy.release (h : s.Tidy T schema) (hclean : schema = .ensured → r.aborted = false)
    {t : Target U} (ht : r.target = some t) (hparse : T.parse t.deviceId = some t.device) :
    (s.release id r t).Tidy T schema := by
  rw [Pool.release]
  split
  · next a ha =>
    have herased : ∀ k, s.ipOf k = none →
        ((s.assignedIps.erase t.deviceId)[k]?).map (·.ip) = none := by
      intro k hk
      rw [ipOf_erase]
      split
      · rfl
      · exact hk
    have htidy : ({ s with
        assignedIps := s.assignedIps.erase t.deviceId
        ipToDevice := s.ipToDevice.erase a.ip
        held := s.held.filter (· ≠ (t.device, a.ip)) } : Pool U).Tidy T schema := by
      refine ⟨?_, ?_, ?_⟩
      · intro k ip hk
        rw [Pool.ipOf, ipOf_erase] at hk
        split at hk
        · cases hk
        · exact h.spelled k ip hk
      · intro other r' hr'
        have hother := h.requests other r' hr'
        refine ⟨hother.1, hother.2, ?_⟩
        intro t' ht' hdeleting
        obtain ⟨hspelled, hnone⟩ := hother.deleting t' ht' hdeleting
        exact ⟨hspelled, herased _ hnone⟩
      · intro u hu
        exact ⟨herased _ (h.freed u hu).1, (h.freed u hu).2⟩
    apply htidy.wait
    refine ⟨fun _ => rfl, hclean, ?_⟩
    intro t' ht' _
    cases ht.symm.trans ht'
    constructor
    · apply h.str_of_ipOf hparse
      rw [Pool.ipOf, ha, Option.map_some]
    · rw [Pool.ipOf, ipOf_erase, if_pos rfl]
  · exact h.finish _

theorem Pool.Tidy.runBody (h : s.Tidy T schema) (hs : s.Sound T schema)
    (hr : s.requests[id]? = some r) (hphase : r.phase = .body) (hplain : s.PlainRun T r)
    (now : String) : (s.runBody id now r).Tidy T schema := by
  have hclean := (h.requests id r hr).clean
  rw [Pool.runBody]
  split
  · exact h.wait (tidy_of_phase hclean rfl rfl)
  · next t ht =>
    split
    · next haction =>
      have hbody := mem_bodyOf hphase ht haction
      exact h.allocate hclean (hplain.1 t hbody).1 (hplain.not_deleting hbody) now
    · exact h.release hclean ht (hs.proper id r hr t ht).1
    · rw [Pool.lookup]
      split
      · exact h.finish _
      · exact h.finish _

end Body

section Answer
variable {U : Type} [Ord U]
variable (T : UuidText U) (schema : Schema) (devices : Nat → List U)

def Pool.Answered (s : Pool U) : Prop :=
  ∀ r response, s.answer = some (r, response) → s.Right T schema devices r response

variable {T schema devices} {s : Pool U} {id : Nat} {r : Request U}

theorem answered_of_none (h : s.answer = none) : s.Answered T schema devices := by
  intro r response hanswer
  rw [h] at hanswer
  cases hanswer

theorem answered_finish {response : Response} (h : s.Right T schema devices r response) :
    (s.finish id r response).Answered T schema devices := by
  intro r' response' hanswer
  cases hanswer
  exact h

theorem right_error {status : Nat} {detail : String} (h : status ≠ 404) :
    s.Right T schema devices r (.error status detail) := by
  unfold Pool.Right
  cases r.target with
  | none => trivial
  | some t =>
    intro h404
    exact (h h404).elim

theorem answered_finishAllocate (hs : (s.finishAllocate id r t a).Sound T schema)
    (ht : r.target = some t) : (s.finishAllocate id r t a).Answered T schema devices := by
  apply answered_finish
  unfold Pool.Right
  rw [ht]
  exact ⟨hs.held _ _ List.mem_cons_self, fun _ => List.mem_cons_self⟩

theorem Pool.Tidy.answered_peers (h : s.Tidy T schema) (hs : s.Sound T schema)
    (hloaded : s.dbLoaded = true) : (s.finish id r
      (.peers (listedPeers T devices r.user s.assignedIps))).Answered T schema devices := by
  apply answered_finish
  unfold Pool.Right
  cases r.target with
  | some t => trivial
  | none =>
    intro u ip hheld hu
    have hip := (h.occupies_iff hloaded).mp (hs.held u ip hheld)
    obtain ⟨a, ha, rfl⟩ := Option.map_eq_some_iff.mp hip
    refine ⟨a, List.mem_filter.mpr ⟨?_, decide_eq_true (List.mem_map.mpr ⟨u, hu, rfl⟩)⟩, rfl⟩
    exact Std.TreeMap.mem_toList_iff_getElem?_eq_some.mpr ha

theorem answered_begin (hnone : s.answer = none) (id user : Nat)
    (call : Option (Action × String)) : (s.begin T id user call).Answered T schema devices := by
  unfold Pool.begin
  split
  · exact answered_of_none hnone
  · split
    · exact answered_of_none hnone
    · split
      · exact answered_finish (right_error (by decide))
      · split
        · exact answered_finish (right_error (by decide))
        · exact answered_of_none hnone

variable [DecidableEq U]

theorem Pool.Tidy.answered_body (h : s.Tidy T schema) (hs : s.Sound T schema)
    (hnone : s.answer = none) (hr : s.requests[id]? = some r) (hphase : r.phase = .body)
    (hplain : s.PlainRun T r) (now : String) :
    (s.runBody id now r).Answered T schema devices := by
  have hloaded : s.dbLoaded = true := by
    apply hs.loaded_of hr
    rw [hphase]
    exact not_false
  rw [Pool.runBody]
  split
  · exact answered_of_none hnone
  · next t ht =>
    have hparse := (hs.proper id r hr t ht).1
    split
    · rw [Pool.allocate]
      split
      · next a ha =>
        have hip : s.ipOf t.deviceId = some a.ip := by
          rw [Pool.ipOf, ha, Option.map_some]
        exact answered_finishAllocate (hs.finishAllocate hloaded hparse hip) ht
      · split
        · exact answered_finish (right_error (by decide))
        · exact answered_of_none hnone
    · next haction =>
      rw [Pool.release]
      split
      · exact answered_of_none hnone
      · next ha =>
        have hip : s.ipOf t.deviceId = none := by
          rw [Pool.ipOf, ha, Option.map_none]
        apply answered_finish
        unfold Pool.Right
        rw [ht]
        exact h.none_occupied hloaded (hplain.2.1 t (mem_bodyOf hphase ht haction)) hip
    · next haction =>
      rw [Pool.lookup]
      split
      · next a ha =>
        apply answered_finish
        unfold Pool.Right
        rw [ht]
        refine ⟨(occupies_of_loaded hloaded).mpr ⟨t.deviceId, ?_, hparse⟩, ?_⟩
        · rw [Pool.ipOf, ha, Option.map_some]
        · intro hallocate
          rw [haction] at hallocate
          cases hallocate
      · next ha =>
        have hip : s.ipOf t.deviceId = none := by
          rw [Pool.ipOf, ha, Option.map_none]
        apply answered_finish
        unfold Pool.Right
        rw [ht]
        intro _
        exact h.none_occupied hloaded (hplain.2.2 t (mem_bodyOf hphase ht haction)) hip

end Answer

section Run
variable {U : Type} [Ord U] [Std.TransOrd U] [Std.LawfulEqOrd U] [DecidableEq U]
variable {T : UuidText U} {schema : Schema} {devices : Nat → List U} {s : Pool U} {id : Nat}
  {r : Request U}

theorem upsert_row {table table' : VirtualIps U} {u v : U} {ip : Ipv4Addr} {now : String}
    (h : table.upsert u ip now = some table') (hne : u ≠ v) : table'.rows[v]? = table.rows[v]? := by
  rw [VirtualIps.upsert] at h
  split at h
  · cases h
    exact getElem?_insert_of_ne _ _ hne
  · cases h

theorem storedIp_stored {t : Target U} {a : Assignment} {now : String} {u : U}
    (hspelled : T.str t.device = t.deviceId) (hne : t.device ≠ u) :
    ({ s with table := (s.stored T schema t a now).getD s.table } : Pool U).storedIp schema u =
      s.storedIp schema u := by
  cases schema with
  | mapped => rfl
  | ensured =>
    have hstored : T.stored t.deviceId = some t.device := by
      rw [← hspelled, T.stored_str]
    rw [Pool.storedIp, Pool.stored, hstored, Option.bind_some]
    cases htable : s.table.upsert t.device a.ip now with
    | none => rfl
    | some table =>
      exact congrArg (Option.map (·.virtualIp)) (upsert_row htable hne)

theorem storedIp_deleted {t : Target U} {u : U} (hspelled : T.str t.device = t.deviceId)
    (hclean : schema = .ensured → r.aborted = false)
    (hu : u ≠ t.device → s.storedIp schema u = none) :
    ({ s with table := s.deleted T r t } : Pool U).storedIp schema u = none := by
  cases schema with
  | mapped => rfl
  | ensured =>
    have hstored : T.stored t.deviceId = some t.device := by
      rw [← hspelled, T.stored_str]
    rw [Pool.storedIp, Pool.deleted, hclean rfl, if_neg Bool.false_ne_true, hstored]
    dsimp only
    rw [VirtualIps.delete, getElem?_erase_eq]
    split
    · rfl
    · next hne => exact hu (Ne.symm hne)

theorem Pool.Tidy.insert (h : s.Tidy T schema) (hs : s.Sound T schema)
    (hr : s.requests[id]? = some r) {t : Target U} {a : Assignment} (hphase : r.phase = .insert a)
    (ht : r.target = some t) (now : String) :
    (({ s with table := (s.stored T schema t a now).getD s.table } : Pool U).finishAllocate id r t
      a).Tidy T schema := by
  obtain ⟨hparse, hstoring⟩ := hs.proper id r hr t ht
  have hip : s.ipOf t.deviceId = some a.ip := by
    apply hstoring
    rw [hphase]
    rfl
  have hspelled := h.str_of_ipOf hparse hip
  have htable : ({ s with table := (s.stored T schema t a now).getD s.table } : Pool U).Tidy T
      schema := by
    refine h.table ?_
    intro u hu
    obtain ⟨hnone, hstored⟩ := h.freed u hu
    refine ⟨hnone, ?_⟩
    rw [storedIp_stored hspelled]
    · exact hstored
    · rintro rfl
      rw [hspelled, hip] at hnone
      cases hnone
  exact htable.finishAllocate

theorem Pool.Tidy.delete (h : s.Tidy T schema) (hr : s.requests[id]? = some r) {t : Target U}
    {ip : Ipv4Addr} (hphase : r.phase = .delete ip) (ht : r.target = some t) :
    (({ s with table := s.deleted T r t } : Pool U).finishRelease id r t ip).Tidy T schema := by
  have htidy := h.requests id r hr
  obtain ⟨hspelled, hnone⟩ := htidy.deleting t ht (by rw [hphase]; rfl)
  refine Pool.Tidy.finish (h.table ?_) _
  intro u hu
  have hold : u ≠ t.device → s.ipOf (T.str u) = none ∧ s.storedIp schema u = none := by
    intro hne
    exact h.freed u ((List.mem_cons.mp hu).resolve_left hne)
  refine ⟨?_, storedIp_deleted hspelled htidy.clean (fun hne => (hold hne).2)⟩
  by_cases hne : u = t.device
  · rw [hne, hspelled]
    exact hnone
  · exact (hold hne).1

theorem Pool.Tidy.runPhase (h : s.Tidy T schema) (hs : s.Sound T schema)
    (hr : s.requests[id]? = some r) (hcareful : s.CarefulRun T r) (hplain : s.PlainRun T r)
    (now : String) : (s.runPhase T schema devices id now r).Tidy T schema := by
  have htidy := h.requests id r hr
  unfold Pool.runPhase
  split
  · rw [Pool.authorize]
    split
    · exact h
    · split
      · exact h.load htidy.clean
      · exact h.finish _
  · exact h.wait (tidy_of_phase htidy.clean rfl rfl)
  · split
    · refine Pool.Tidy.wait (s := { s with dbLoaded := true }) ⟨h.spelled, h.requests, h.freed⟩ ?_
      exact tidy_of_phase (by rintro ⟨⟩) rfl rfl
    · apply h.wait
      refine ⟨by rintro ⟨⟩, htidy.clean, ?_⟩
      intro t _ hdelete
      cases hdelete
  · next rows hphase =>
    have htaken : (s.takeRows T rows now).Tidy T schema := by
      apply h.takeRows hs hr hphase hcareful
      rintro u hu rfl hloaded e he rfl
      have hrows := hs.loading hloaded id r hr
      rw [hphase] at hrows
      cases hrows
      have hstored := (h.freed e.1 hu).2
      rw [Pool.storedIp, Std.TreeMap.mem_toList_iff_getElem?_eq_some.mp he] at hstored
      cases hstored
    exact htaken.wait (tidy_of_phase htidy.clean rfl rfl)
  · next hphase => exact h.runBody hs hr hphase hplain now
  · exact h.wait (tidy_of_phase (fun _ => rfl) rfl rfl)
  · next a t hphase ht => exact h.insert hs hr hphase ht now
  · next ip t hphase ht => exact h.delete hr hphase ht
  · exact h.finish _
  · exact h
  · exact h

theorem Pool.Tidy.answered_run (h : s.Tidy T schema) (hs : s.Sound T schema)
    (hnone : s.answer = none) (hr : s.requests[id]? = some r) (hplain : s.PlainRun T r)
    (now : String) : (s.runPhase T schema devices id now r).Answered T schema devices := by
  have hloaded : ¬ r.phase.Loading s.table.rows.toList → s.dbLoaded = true := hs.loaded_of hr
  unfold Pool.runPhase
  split
  · rw [Pool.authorize]
    split
    · exact answered_of_none hnone
    · split
      · exact answered_of_none hnone
      · exact answered_finish (right_error (by decide))
  · exact answered_of_none hnone
  · split
    · exact answered_of_none hnone
    · exact answered_of_none hnone
  · exact answered_of_none hnone
  · next hphase => exact h.answered_body hs hnone hr hphase hplain now
  · exact answered_of_none hnone
  · next a t hphase ht =>
    rw [hphase] at hloaded
    obtain ⟨hp, ha⟩ := hs.proper id r hr t ht
    rw [hphase] at ha
    exact answered_finishAllocate (hs.finishStored (hloaded not_false) _ hp (ha a rfl)) ht
  · next ip t hphase ht =>
    have hfree := (h.delete hr hphase ht).not_occupied (u := t.device) List.mem_cons_self
    apply answered_finish
    unfold Pool.Right
    rw [ht]
    exact hfree
  · next hphase =>
    rw [hphase] at hloaded
    exact h.answered_peers hs (hloaded not_false)
  · exact answered_of_none hnone
  · exact answered_of_none hnone

/-- A healthy step under the conditions keeps what is in order and answers rightly. -/
theorem Pool.Tidy.step (h : s.Tidy T schema) (hs : s.Sound T schema) {op : Op}
    (hhealthy : op.healthy = true) (hcareful : s.Careful T schema op) (hplain : s.Plain T op) :
    (s.step T schema devices op).Tidy T schema ∧
      (s.step T schema devices op).Answered T schema devices := by
  have ht := h.answered none
  have hs' := hs.answered none
  cases op with
  | begin id user call => exact ⟨ht.begin id user call, answered_begin rfl id user call⟩
  | run id now =>
    rw [Pool.step]
    dsimp only
    split
    · exact ⟨ht, answered_of_none rfl⟩
    · next r hr =>
      exact ⟨ht.runPhase hs' hr (hcareful r hr) (hplain r hr) now,
        ht.answered_run hs' rfl hr (hplain r hr) now⟩
  | fail id now applied rollbacks => cases hhealthy
  | restart => exact ⟨ht.restart, answered_of_none rfl⟩

/-- A step is careful about addresses and plain about the texts of devices. -/
def Pool.CarefulPlain (T : UuidText U) (schema : Schema) (s : Pool U) (op : Op) : Prop :=
  s.Careful T schema op ∧ s.Plain T op

instance decidableCarefulPlain (T : UuidText U) (schema : Schema) (s : Pool U) (op : Op) :
    Decidable (s.CarefulPlain T schema op) :=
  inferInstanceAs (Decidable (_ ∧ _))

/-- With a healthy database every device has one address at every point of such a run. -/
theorem one_address (T : UuidText U) (schema : Schema) (devices : Nat → List U)
    (table : VirtualIps U) {ops : List Op} (hhealthy : ∀ op ∈ ops, op.healthy = true)
    (hcareful : Guarded (Pool.step T schema devices) (Pool.CarefulPlain T schema)
      (Pool.start table) ops) :
    ∀ l, l <+: ops → ((Pool.start table).runs T schema devices l).OneAddress T schema devices := by
  rintro l ⟨rest, rfl⟩
  have hguard : Guarded (Pool.step T schema devices)
      (fun s op => s.CarefulPlain T schema op ∧ op.healthy = true) (Pool.start table) l :=
    guarded_and.mpr ⟨(guarded_append.mp hcareful).1,
      .of_forall (fun _ op hop => hhealthy op (List.mem_append_left _ hop))⟩
  have hall : ((Pool.start table).runs T schema devices l).Sound T schema ∧
      ((Pool.start table).runs T schema devices l).Tidy T schema ∧
        ((Pool.start table).runs T schema devices l).Answered T schema devices := by
    refine hguard.invariant (I := fun s => s.Sound T schema ∧ s.Tidy T schema ∧
      s.Answered T schema devices) ⟨.start table, .start table, answered_of_none rfl⟩ ?_
    rintro s op ⟨hs, ht, -⟩ ⟨⟨hcareful, hplain⟩, hop⟩
    exact ⟨hs.step devices hcareful, ht.step hs hop hcareful hplain⟩
  obtain ⟨hs, ht, ha⟩ := hall
  exact ⟨hs.held, fun _ _ _ => ht.one, fun _ => ht.not_occupied, ha⟩

end Run

/-- An address is allocated, looked up after a restart, listed and released. -/
theorem one_address_restart :
    ((Pool.start noRows).runs twoDevices .ensured (fun _ => [0, 1])
      (requestOps 0 .allocate (deviceText 0) 7 ++ .restart ::
        requestOps 1 .lookup (deviceText 0) 5 ++ .begin 2 0 none :: .run 2 "" :: .run 2 "" ::
          requestOps 3 .release (deviceText 0) 3)).OneAddress twoDevices .ensured
            (fun _ => [0, 1]) :=
  one_address twoDevices .ensured (fun _ => [0, 1]) noRows (by decide) (by decide +kernel) _
    (List.prefix_refl _)

/-- Another spelling of the device's id gets a second address. -/
theorem second_spelling_second_address :
    ¬ ((Pool.start noRows).runs twoDevices .ensured (fun _ => [0, 1])
      (requestOps 0 .allocate (deviceText 0) 7 ++
        requestOps 1 .allocate "6F9619FF-8B86-D011-B42D-00C04FC964FF" 4)).OneAddress twoDevices
          .ensured (fun _ => [0, 1]) := by
  intro h
  have hfirst := h.held 0 0x64400001#32 (by decide +kernel)
  have hsecond := h.held 0 0x64400002#32 (by decide +kernel)
  have hsame := h.one 0 _ _ hfirst hsecond
  cases hsame

end P2PMesh.Ipam
