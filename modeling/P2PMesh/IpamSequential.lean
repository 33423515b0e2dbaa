import P2PMesh.IpamUniqueness

namespace P2PMesh.Ipam
open P2PMesh.Base
set_option autoImplicit true

section Scan

theorem scanHosts_none {used : List Ipv4Addr} {k next next' : Nat}
    (h : scanHosts used k next = (none, next')) :
    ∀ j < k, overlayHost ((next + j) % overlayHostCount) ∈ used := by
  induction k generalizing next with
  | zero => exact fun j hj => (Nat.not_lt_zero j hj).elim
  | succ k ih =>
    rw [scanHosts] at h
    split at h
    · next hused =>
      intro j hj
      cases j with
      | zero => exact hused
      | succ j =>
        have hnext := ih h j (Nat.lt_of_succ_lt_succ hj)
        rw [Nat.mod_add_mod, Nat.add_assoc, Nat.mod_add_mod, Nat.add_comm 1 j] at hnext
        exact hnext
    · cases h

/-- One that has gone once around has come past every host. -/
theorem scanHosts_all_used {used : List Ipv4Addr} {next next' : Nat}
    (h : scanHosts used overlayHostCount next = (none, next')) {idx : Nat}
    (hidx : idx < overlayHostCount) : overlayHost idx ∈ used := by
  have hnone := scanHosts_none h
    ((idx + (overlayHostCount - next % overlayHostCount)) % overlayHostCount)
    (Nat.mod_lt _ (by decide))
  have hturn : (next + (idx + (overlayHostCount - next % overlayHostCount)) % overlayHostCount) %
      overlayHostCount = idx := by
    simp only [overlayHostCount] at hidx ⊢
    omega
  rw [hturn] at hnone
  exact hnone

end Scan

section Table
variable {U : Type} [Ord U]

/-- The address of a device in the table. -/
def VirtualIps.ipOf (t : VirtualIps U) (u : U) : Option Ipv4Addr :=
  (t.rows[u]?).map (·.virtualIp)

theorem VirtualIps.ipOf_injective (t : VirtualIps U) {u v : U} {ip : Ipv4Addr}
    (hu : t.ipOf u = some ip) (hv : t.ipOf v = some ip) : u = v := by
  obtain ⟨row, hrow, hip⟩ := Option.map_eq_some_iff.mp hu
  obtain ⟨row', hrow', hip'⟩ := Option.map_eq_some_iff.mp hv
  exact t.unique u v row row' hrow hrow' (hip.trans hip'.symm)

def VirtualIps.empty [Std.TransOrd U] : VirtualIps U where
  rows := ∅
  unique := by
    intro u v r r' hu
    rw [Std.TreeMap.getElem?_emptyc] at hu
    cases hu

theorem VirtualIps.ipOf_empty [Std.TransOrd U] (u : U) :
    (VirtualIps.empty : VirtualIps U).ipOf u = none := by
  rw [ipOf, empty, Std.TreeMap.getElem?_emptyc, Option.map_none]

variable [Std.TransOrd U] [Std.LawfulEqOrd U]

theorem VirtualIps.ipOf_eq_some_iff (t : VirtualIps U) (u : U) (ip : Ipv4Addr) :
    t.ipOf u = some ip ↔ ∃ e ∈ t.rows.toList, e.1 = u ∧ e.2.virtualIp = ip := by
  rw [ipOf, Option.map_eq_some_iff]
  constructor
  · rintro ⟨row, hrow, hip⟩
    exact ⟨(u, row), Std.TreeMap.mem_toList_iff_getElem?_eq_some.mpr hrow, rfl, hip⟩
  · rintro ⟨⟨_, row⟩, he, rfl, hip⟩
    exact ⟨row, Std.TreeMap.mem_toList_iff_getElem?_eq_some.mp he, hip⟩

variable [DecidableEq U]

theorem VirtualIps.exists_upsert (t : VirtualIps U) {ip : Ipv4Addr} (h : ∀ v, t.ipOf v ≠ some ip)
    (u : U) (now : String) : ∃ t', t.upsert u ip now = some t' ∧
      ∀ v, t'.ipOf v = if u = v then some ip else t.ipOf v := by
  have hfree : ∀ e ∈ t.rows.toList, e.2.virtualIp = ip → e.1 = u :=
    fun e he hip => (h e.1 ((t.ipOf_eq_some_iff e.1 ip).mpr ⟨e, he, rfl, hip⟩)).elim
  refine ⟨_, dif_pos hfree, ?_⟩
  intro v
  rw [ipOf, getElem?_insert_eq]
  split
  · rfl
  · rfl

theorem VirtualIps.ipOf_delete (t : VirtualIps U) (u v : U) :
    (t.delete u).ipOf v = if u = v then none else t.ipOf v := by
  rw [ipOf, delete, getElem?_erase_eq]
  split
  · rfl
  · rfl

end Table

/-- A request that is served to its end before the next one comes, or a restart between two. -/
inductive Event (U : Type) where
  | request (id user : Nat) (action : Action) (device : U) (clock : Nat → String)
  | restart

section Pool
variable {U : Type} [Ord U] [Std.TransOrd U] [Std.LawfulEqOrd U] [DecidableEq U]
variable (T : UuidText U) (schema : Schema) (devices : Nat → List U)

/-- What a request waits for is carried out, again and again while the request is under way. -/
def Pool.settle (id : Nat) (clock : Nat → String) : Nat → Pool U → Pool U
  | 0, s => s
  | n + 1, s =>
    match s.requests[id]? with
    | none => s
    | some _ => settle id clock n (s.step T schema devices (.run id (clock n)))

/-- A request comes with the id of its device as `str` writes it, and waits seven times at most. -/
def Pool.serve (s : Pool U) : Event U → Pool U
  | .request id user action u clock =>
    (s.step T schema devices (.begin id user (some (action, T.str u)))).settle T schema devices id
      clock 7
  | .restart => s.step T schema devices .restart

def Pool.serveAll (s : Pool U) (events : List (Event U)) : Pool U :=
  events.foldl (Pool.serve T schema devices) s

/-- The maps in memory have what the table has. -/
structure Pool.Mirrors (s : Pool U) : Prop where
  assigned : ∀ (k : String) (ip : Ipv4Addr),
    s.ipOf k = some ip ↔ ∃ u, T.str u = k ∧ s.table.ipOf u = some ip
  device : ∀ (ip : Ipv4Addr) (k : String),
    s.ipToDevice[ip]? = some k ↔ ∃ u, T.str u = k ∧ s.table.ipOf u = some ip

/-- Nothing is in memory. -/
structure Pool.Vacant (s : Pool U) : Prop where
  assigned : ∀ k : String, s.assignedIps[k]? = none
  device : ∀ ip : Ipv4Addr, s.ipToDevice[ip]? = none

/-- Memory mirrors the table once it is loaded, and is vacant before; the table has the addresses
that devices hold, which are addresses of hosts. -/
structure Pool.InStep (s : Pool U) : Prop where
  loaded : s.dbLoaded = true → s.Mirrors T
  unloaded : s.dbLoaded = false → s.Vacant
  held : ∀ u ip, (u, ip) ∈ s.held ↔ s.table.ipOf u = some ip
  host : ∀ u ip, s.table.ipOf u = some ip → ∃ idx < overlayHostCount, ip = overlayHost idx

/-- What an answer about a device says is so: its address is one of a host that no other device
holds; a released one is not held; and when there is none to give, every one is held. -/
def Pool.Truthful (s : Pool U) (u : U) : Response → Prop
  | .address _ a => (∃ idx < overlayHostCount, a.ip = overlayHost idx) ∧ (u, a.ip) ∈ s.held ∧
    ∀ v, (v, a.ip) ∈ s.held → v = u
  | .released _ _ | .notReleased _ => ∀ ip, (u, ip) ∉ s.held
  | .error status _ => status = 503 → ∀ idx < overlayHostCount, ∃ v, (v, overlayHost idx) ∈ s.held
  | .peers _ => True

/-- No request is under way, and memory is in step with the table. -/
structure Pool.Resting (s : Pool U) : Prop where
  idle : ∀ id : Nat, s.requests[id]? = none
  inStep : s.InStep T

/-- A request about the device has been answered. -/
structure Pool.Served (s : Pool U) (u : U) : Prop extends s.Resting T where
  answered : ∃ r response, s.answer = some (r, response) ∧ s.Truthful u response

/-- At most the request with the number is under way. -/
structure Pool.Serving (s : Pool U) (id : Nat) : Prop where
  alone : ∀ id' : Nat, id' ≠ id → s.requests[id']? = none
  answer : s.answer = none

end Pool

section Memory
variable {U : Type} [Ord U]
variable {T : UuidText U} {s s' : Pool U} {u : U} {ip : Ipv4Addr}

theorem Pool.ipOf_eq_some_iff (s : Pool U) (k : String) (ip : Ipv4Addr) :
    s.ipOf k = some ip ↔ ∃ a, s.assignedIps[k]? = some a ∧ a.ip = ip :=
  Option.map_eq_some_iff

theorem Pool.Mirrors.inverse (h : s.Mirrors T) (k : String) (ip : Ipv4Addr) :
    s.ipOf k = some ip ↔ s.ipToDevice[ip]? = some k := by
  rw [h.assigned, h.device]

theorem Pool.Mirrors.ipOf_str (h : s.Mirrors T) (u : U) : s.ipOf (T.str u) = s.table.ipOf u := by
  apply Option.ext
  intro ip
  rw [h.assigned]
  constructor
  · rintro ⟨v, hv, hip⟩
    rw [← T.str_injective hv]
    exact hip
  · intro hip
    exact ⟨u, rfl, hip⟩

theorem Pool.Mirrors.not_stored (h : s.Mirrors T) (hip : ip ∉ s.usedIps) (v : U) :
    s.table.ipOf v ≠ some ip := by
  rw [← h.ipOf_str]
  exact fun hv => hip (mem_usedIps hv)

theorem Pool.Mirrors.takeRows [Std.TransOrd U] [Std.LawfulEqOrd U] (h : s.Vacant) (now : String) :
    (s.takeRows T s.table.rows.toList now).Mirrors T := by
  have hrow : ∀ e ∈ s.table.rows.toList, s.table.rows[e.1]? = some e.2 :=
    fun e he => Std.TreeMap.mem_toList_iff_getElem?_eq_some.mp he
  have hstored : ∀ (k : String) (ip : Ipv4Addr),
      (∃ u, T.str u = k ∧ s.table.ipOf u = some ip) ↔
        ∃ e ∈ s.table.rows.toList, T.str e.1 = k ∧ e.2.virtualIp = ip := by
    intro k ip
    simp only [s.table.ipOf_eq_some_iff]
    constructor
    · rintro ⟨_, hk, e, he, rfl, hip⟩
      exact ⟨e, he, hk, hip⟩
    · rintro ⟨e, he, hk, hip⟩
      exact ⟨e.1, hk, e, he, rfl, hip⟩
  have htable : (s.takeRows T s.table.rows.toList now).table = s.table := rfl
  constructor
  · intro k ip
    have hlookup := insertMany_map_eq_some_iff s.table.rows.toList (fun e => T.str e.1)
      (fun e => (⟨e.2.virtualIp, e.2.assignedAt.getD now⟩ : Assignment))
      (fun e he e' he' hkey => by
        have hrow' := hrow e' he'
        rw [← T.str_injective hkey, hrow e he, Option.some_inj] at hrow'
        rw [hrow']) (h.assigned k)
    rw [htable, hstored, Pool.ipOf_eq_some_iff]
    constructor
    · rintro ⟨a, ha, hip⟩
      obtain ⟨e, he, hk, rfl⟩ := (hlookup a).mp ha
      exact ⟨e, he, hk, hip⟩
    · rintro ⟨e, he, hk, hip⟩
      exact ⟨_, (hlookup _).mpr ⟨e, he, hk, rfl⟩, hip⟩
  · intro ip k
    have hlookup := insertMany_map_eq_some_iff s.table.rows.toList (fun e => e.2.virtualIp)
      (fun e => T.str e.1)
      (fun e he e' he' hkey => congrArg T.str
        (s.table.unique e.1 e'.1 e.2 e'.2 (hrow e he) (hrow e' he') hkey)) (h.device ip) k
    rw [htable, hstored]
    exact hlookup.trans (exists_congr fun e => and_congr_right' and_comm)

theorem Pool.InStep.inverse (h : s.InStep T) (k : String) (ip : Ipv4Addr) :
    s.ipOf k = some ip ↔ s.ipToDevice[ip]? = some k := by
  cases hloaded : s.dbLoaded with
  | true => exact (h.loaded hloaded).inverse k ip
  | false =>
    obtain ⟨hassigned, hdevice⟩ := h.unloaded hloaded
    rw [Pool.ipOf, hassigned, hdevice, Option.map_none]
    exact iff_of_false (Option.some_ne_none ip).symm (Option.some_ne_none k).symm

theorem Pool.InStep.frame (h : s.InStep T) (hassigned : s'.assignedIps = s.assignedIps)
    (hdevice : s'.ipToDevice = s.ipToDevice) (hloaded : s'.dbLoaded = s.dbLoaded)
    (htable : s'.table = s.table) (hheld : ∀ u ip, (u, ip) ∈ s'.held ↔ (u, ip) ∈ s.held) :
    s'.InStep T := by
  constructor
  · intro hl
    have hm := h.loaded (hloaded ▸ hl)
    constructor
    · intro k ip
      rw [Pool.ipOf, hassigned, htable]
      exact hm.assigned k ip
    · intro ip k
      rw [hdevice, htable]
      exact hm.device ip k
  · intro hl
    have hv := h.unloaded (hloaded ▸ hl)
    exact ⟨hassigned ▸ hv.assigned, hdevice ▸ hv.device⟩
  · intro u ip
    rw [hheld, htable]
    exact h.held u ip
  · rw [htable]
    exact h.host

theorem Pool.InStep.wait (h : s.InStep T) (id : Nat) (r : Request U) : (s.wait id r).InStep T :=
  h.frame rfl rfl rfl rfl (fun _ _ => Iff.rfl)

theorem Pool.InStep.tell (h : s.InStep T) (hip : s.table.ipOf u = some ip) :
    ({ s with held := (u, ip) :: s.held } : Pool U).InStep T := by
  refine h.frame rfl rfl rfl rfl ?_
  intro v ip'
  rw [List.mem_cons, Prod.mk.injEq]
  constructor
  · rintro (⟨rfl, rfl⟩ | hv)
    · exact (h.held _ _).mpr hip
    · exact hv
  · exact .inr

theorem Pool.InStep.truthful_address (h : s.InStep T) {a : Assignment}
    (ha : s.table.ipOf u = some a.ip) (deviceId : String) :
    s.Truthful u (.address deviceId a) := by
  refine ⟨h.host u a.ip ha, (h.held u a.ip).mpr ha, ?_⟩
  intro v hv
  exact s.table.ipOf_injective ((h.held v a.ip).mp hv) ha

theorem Pool.InStep.not_held (h : s.InStep T) (hu : s.table.ipOf u = none) (ip : Ipv4Addr) :
    (u, ip) ∉ s.held := by
  rw [h.held, hu]
  exact (Option.some_ne_none ip).symm

theorem Pool.InStep.all_held (h : s.InStep T) (hloaded : s.dbLoaded = true) {next : Nat}
    (hscan : s.nextAvailableIp = (none, next)) {idx : Nat} (hidx : idx < overlayHostCount) :
    ∃ v, (v, overlayHost idx) ∈ s.held := by
  obtain ⟨⟨k, a⟩, he, hip⟩ := List.mem_map.mp (scanHosts_all_used hscan hidx)
  have hk : s.ipOf k = some (overlayHost idx) := by
    rw [Pool.ipOf, Std.TreeMap.mem_toList_iff_getElem?_eq_some.mp he, Option.map_some]
    exact congrArg some hip
  obtain ⟨v, -, hv⟩ := ((h.loaded hloaded).assigned k _).mp hk
  exact ⟨v, (h.held v _).mpr hv⟩

theorem Pool.InStep.takeRows [Std.TransOrd U] [Std.LawfulEqOrd U] (h : s.InStep T)
    (hloaded : s.dbLoaded = false) (now : String) :
    (s.takeRows T s.table.rows.toList now).InStep T where
  loaded _ := .takeRows (h.unloaded hloaded) now
  unloaded hfalse := (Bool.false_ne_true hfalse.symm).elim
  held := h.held
  host := h.host

variable [DecidableEq U]

theorem Pool.Mirrors.assign (h : s.Mirrors T) (hnone : s.table.ipOf u = none)
    (hip : ∀ v, s.table.ipOf v ≠ some ip) {now : String}
    (hassigned : s'.assignedIps = s.assignedIps.insert (T.str u) ⟨ip, now⟩)
    (hdevice : s'.ipToDevice = s.ipToDevice.insert ip (T.str u))
    (htable : ∀ v, s'.table.ipOf v = if u = v then some ip else s.table.ipOf v) :
    s'.Mirrors T := by
  have hstored : ∀ (k : String) (ip' : Ipv4Addr),
      (∃ v, T.str v = k ∧ s'.table.ipOf v = some ip') ↔
        (T.str u = k ∧ ip = ip') ∨ ∃ v, T.str v = k ∧ s.table.ipOf v = some ip' := by
    intro k ip'
    constructor
    · rintro ⟨v, rfl, hv⟩
      rw [htable] at hv
      split at hv
      · next huv =>
        subst huv
        exact .inl ⟨rfl, Option.some.inj hv⟩
      · exact .inr ⟨v, rfl, hv⟩
    · rintro (⟨rfl, rfl⟩ | ⟨v, rfl, hv⟩)
      · exact ⟨u, rfl, by rw [htable, if_pos rfl]⟩
      · refine ⟨v, rfl, ?_⟩
        rw [htable, if_neg]
        · exact hv
        · rintro rfl
          rw [hnone] at hv
          cases hv
  constructor
  · intro k ip'
    rw [hstored, ← h.assigned, Pool.ipOf, hassigned, ipOf_insert]
    split
    · next hk =>
      subst hk
      rw [h.ipOf_str, hnone, Option.some_inj]
      simp only [true_and, reduceCtorEq, or_false]
    · next hk => simp only [hk, false_and, false_or, Pool.ipOf]
  · intro ip' k
    rw [hstored, ← h.device, hdevice, getElem?_insert_eq]
    split
    · next hsame =>
      subst hsame
      have hfree : s.ipToDevice[ip]? ≠ some k := by
        rw [ne_eq, h.device]
        rintro ⟨v, -, hv⟩
        exact hip v hv
      simp only [and_true, hfree, or_false, Option.some_inj]
    · next hne => simp only [hne, and_false, false_or]

theorem Pool.Mirrors.remove (h : s.Mirrors T) (hip : s.table.ipOf u = some ip)
    (hassigned : s'.assignedIps = s.assignedIps.erase (T.str u))
    (hdevice : s'.ipToDevice = s.ipToDevice.erase ip)
    (htable : ∀ v, s'.table.ipOf v = if u = v then none else s.table.ipOf v) :
    s'.Mirrors T := by
  have hstored : ∀ (k : String) (ip' : Ipv4Addr),
      (∃ v, T.str v = k ∧ s'.table.ipOf v = some ip') ↔
        T.str u ≠ k ∧ ∃ v, T.str v = k ∧ s.table.ipOf v = some ip' := by
    intro k ip'
    constructor
    · rintro ⟨v, rfl, hv⟩
      rw [htable] at hv
      split at hv
      · cases hv
      · next huv => exact ⟨fun hk => huv (T.str_injective hk), v, rfl, hv⟩
    · rintro ⟨hk, v, rfl, hv⟩
      refine ⟨v, rfl, ?_⟩
      rw [htable, if_neg]
      · exact hv
      · rintro rfl
        exact hk rfl
  constructor
  · intro k ip'
    rw [hstored, ← h.assigned, Pool.ipOf, hassigned, ipOf_erase]
    split
    · next hk => simp only [hk, reduceCtorEq, ne_eq, not_true_eq_false, false_and]
    · next hk => simp only [hk, ne_eq, not_false_eq_true, true_and, Pool.ipOf]
  · intro ip' k
    rw [hstored, ← h.device, hdevice, getElem?_erase_eq]
    split
    · next hsame =>
      subst hsame
      have hback : s.ipToDevice[ip]? = some (T.str u) := (h.device ip _).mpr ⟨u, rfl, hip⟩
      rw [hback, Option.some_inj]
      exact iff_of_false (Option.some_ne_none k).symm (fun hk => hk.1 hk.2)
    · next hne =>
      refine (and_iff_right_of_imp ?_).symm
      rintro hback rfl
      obtain ⟨v, hv, hvip⟩ := (h.device ip' _).mp hback
      rw [T.str_injective hv, hip, Option.some_inj] at hvip
      exact hne hvip

theorem Pool.InStep.assign (h : s.InStep T) (hloaded : s.dbLoaded = true)
    (hnone : s.table.ipOf u = none) (hip : ∀ v, s.table.ipOf v ≠ some ip)
    (hhost : ∃ idx < overlayHostCount, ip = overlayHost idx) {now : String}
    (hassigned : s'.assignedIps = s.assignedIps.insert (T.str u) ⟨ip, now⟩)
    (hdevice : s'.ipToDevice = s.ipToDevice.insert ip (T.str u))
    (hloaded' : s'.dbLoaded = true) (hheld : s'.held = (u, ip) :: s.held)
    (htable : ∀ v, s'.table.ipOf v = if u = v then some ip else s.table.ipOf v) :
    s'.InStep T := by
  constructor
  · exact fun _ => (h.loaded hloaded).assign hnone hip hassigned hdevice htable
  · intro hfalse
    cases hloaded'.symm.trans hfalse
  · intro v ip'
    rw [hheld, List.mem_cons, h.held, htable, Prod.mk.injEq]
    split
    · next huv =>
      subst huv
      rw [hnone, Option.some_inj]
      simp only [true_and, reduceCtorEq, or_false]
      exact eq_comm
    · next huv => simp only [Ne.symm huv, false_and, false_or]
  · intro v ip' hv
    rw [htable] at hv
    split at hv
    · cases hv
      exact hhost
    · exact h.host v ip' hv

theorem Pool.InStep.remove (h : s.InStep T) (hloaded : s.dbLoaded = true)
    (hip : s.table.ipOf u = some ip)
    (hassigned : s'.assignedIps = s.assignedIps.erase (T.str u))
    (hdevice : s'.ipToDevice = s.ipToDevice.erase ip) (hloaded' : s'.dbLoaded = true)
    (hheld : s'.held = s.held.filter (· ≠ (u, ip)))
    (htable : ∀ v, s'.table.ipOf v = if u = v then none else s.table.ipOf v) :
    s'.InStep T := by
  constructor
  · exact fun _ => (h.loaded hloaded).remove hip hassigned hdevice htable
  · intro hfalse
    cases hloaded'.symm.trans hfalse
  · intro v ip'
    rw [hheld, List.mem_filter, h.held, htable, decide_eq_true_eq, ne_eq, Prod.mk.injEq]
    split
    · next huv =>
      subst huv
      rw [hip, Option.some_inj]
      simp only [true_and, reduceCtorEq, iff_false, not_and, not_not]
      exact Eq.symm
    · next huv => simp only [Ne.symm huv, false_and, not_false_eq_true, and_true]
  · intro v ip' hv
    rw [htable] at hv
    split at hv
    · cases hv
    · exact h.host v ip' hv

end Memory

section Serve
variable {U : Type} [Ord U]
variable {T : UuidText U} {schema : Schema} {devices : Nat → List U} {s : Pool U} {id : Nat}
  {r : Request U} {clock : Nat → String} {u : U}

theorem Pool.Serving.wait (h : s.Serving id) (r : Request U) : (s.wait id r).Serving id := by
  refine ⟨?_, h.answer⟩
  intro id' hne
  rw [Pool.wait]
  dsimp only
  rw [getElem?_insert_of_ne _ _ (Ne.symm hne)]
  exact h.alone id' hne

theorem Pool.Serving.finish (h : s.Serving id) (hs : s.InStep T) {response : Response}
    (ht : s.Truthful u response) : (s.finish id r response).Served T u where
  idle := by
    intro id'
    rw [Pool.finish]
    dsimp only
    rw [getElem?_erase_eq]
    split
    · rfl
    · next hne => exact h.alone id' (Ne.symm hne)
  inStep := hs.frame rfl rfl rfl rfl (fun _ _ => Iff.rfl)
  answered := ⟨r, response, rfl, by
    cases response with
    | address _ _ | released _ _ | notReleased _ | peers _ | error _ _ => exact ht⟩

/-- The device has been answered, and memory is loaded. -/
structure Pool.ServedLoaded (T : UuidText U) (s : Pool U) (u : U) : Prop extends s.Served T u where
  loaded : s.dbLoaded = true

theorem Pool.ServedLoaded.and_iff (h : s.ServedLoaded T u) {p : Prop} (hp : p) :
    s.Served T u ∧ (s.dbLoaded = true ↔ p) :=
  ⟨h.toServed, iff_of_true h.loaded hp⟩

theorem Pool.Serving.finish_address (h : s.Serving id) (hs : s.InStep T)
    (hloaded : s.dbLoaded = true) {a : Assignment} (ha : s.table.ipOf u = some a.ip)
    (deviceId : String) : (s.finish id r (.address deviceId a)).ServedLoaded T u :=
  ⟨h.finish hs (hs.truthful_address ha deviceId), hloaded⟩

theorem Pool.Resting.start [Std.TransOrd U] :
    (Pool.start (VirtualIps.empty : VirtualIps U)).Resting T where
  idle := fun _ => Std.TreeMap.getElem?_emptyc
  inStep := by
    refine ⟨fun htrue => (Bool.false_ne_true htrue).elim, ?_, ?_, ?_⟩
    · exact fun _ => ⟨fun _ => Std.TreeMap.getElem?_emptyc, fun _ => Std.TreeMap.getElem?_emptyc⟩
    · intro u ip
      rw [Pool.start, VirtualIps.ipOf_empty]
      exact iff_of_false List.not_mem_nil (Option.some_ne_none ip).symm
    · intro u ip hip
      rw [Pool.start, VirtualIps.ipOf_empty] at hip
      cases hip

theorem Pool.Resting.serving (h : s.Resting T) (id : Nat) :
    ({ s with answer := none } : Pool U).Serving id ∧
      ({ s with answer := none } : Pool U).InStep T :=
  ⟨⟨fun id' _ => h.idle id', rfl⟩, h.inStep.frame rfl rfl rfl rfl (fun _ _ => Iff.rfl)⟩

variable [Std.TransOrd U] [Std.LawfulEqOrd U] [DecidableEq U]

theorem Pool.Serving.settle_wait (h : s.Serving id) (n : Nat) :
    (s.wait id r).settle T schema devices id clock (n + 1) =
      ((s.wait id r).runPhase T schema devices id (clock n) r).settle T schema devices id clock
        n := by
  have hr : (s.wait id r).requests[id]? = some r := Std.TreeMap.getElem?_insert_self
  have hanswer : { s.wait id r with answer := none } = s.wait id r := by
    rw [Pool.wait, h.answer]
  rw [Pool.settle]
  simp only [hr]
  rw [Pool.step, hanswer]
  simp only [hr]

theorem Pool.settle_finish (s : Pool U) (id : Nat) (r : Request U) (response : Response)
    (n : Nat) : (s.finish id r response).settle T schema devices id clock n =
      s.finish id r response := by
  cases n with
  | zero => rfl
  | succ n =>
    have hr : (s.finish id r response).requests[id]? = none := Std.TreeMap.getElem?_erase_self
    rw [Pool.settle]
    simp only [hr]

/-- An address that memory has for the device is stored, and the device is told it. -/
theorem Pool.Serving.persist {s₁ : Pool U} (h₁ : s₁.Serving id) (hs : s.InStep T)
    (hloaded : s.dbLoaded = true) (hnone : s.table.ipOf u = none) {ip : Ipv4Addr}
    (hip : ∀ v, s.table.ipOf v ≠ some ip) (hhost : ∃ idx < overlayHostCount, ip = overlayHost idx)
    {now : String} {action : Action} (htarget : r.target = some ⟨action, T.str u, u⟩)
    (hassigned : s₁.assignedIps = s.assignedIps.insert (T.str u) ⟨ip, now⟩)
    (hdevice : s₁.ipToDevice = s.ipToDevice.insert ip (T.str u))
    (hloaded₁ : s₁.dbLoaded = true) (hheld : s₁.held = s.held) (htable : s₁.table = s.table)
    (n : Nat) : ((s₁.wait id { r with phase := .persistEnsure ⟨ip, now⟩ }).settle T .ensured
      devices id clock (n + 2)).ServedLoaded T u := by
  rw [h₁.settle_wait, Pool.runPhase]
  dsimp only
  rw [(h₁.wait _).settle_wait, Pool.runPhase]
  simp only [htarget]
  rw [Pool.finishAllocate, Pool.settle_finish]
  obtain ⟨table, hupsert, hrow⟩ := s.table.exists_upsert hip u (clock n)
  have hstored : ∀ s₂ : Pool U, s₂.table = s.table →
      (s₂.stored T .ensured ⟨action, T.str u, u⟩ ⟨ip, now⟩ (clock n)).getD s₂.table = table := by
    intro s₂ hs₂
    rw [Pool.stored, T.stored_str, hs₂]
    dsimp only
    rw [Option.bind_some, hupsert, Option.getD_some]
  rw [hstored _ (by exact htable)]
  refine Pool.Serving.finish_address ?_ ?_ ?_ ?_ _
  · exact ⟨((h₁.wait _).wait _).alone, h₁.answer⟩
  · exact hs.assign hloaded hnone hip hhost hassigned hdevice hloaded₁
      (congrArg (List.cons (u, ip)) hheld) hrow
  · exact hloaded₁
  · exact (hrow u).trans (if_pos rfl)

theorem Pool.Serving.discard {s₁ : Pool U} (h₁ : s₁.Serving id) (hs : s.InStep T)
    (hloaded : s.dbLoaded = true) {ip : Ipv4Addr} (hip : s.table.ipOf u = some ip)
    {action : Action} (htarget : r.target = some ⟨action, T.str u, u⟩) (hclean : r.aborted = false)
    (hassigned : s₁.assignedIps = s.assignedIps.erase (T.str u))
    (hdevice : s₁.ipToDevice = s.ipToDevice.erase ip) (hloaded₁ : s₁.dbLoaded = true)
    (hheld : s₁.held = s.held.filter (· ≠ (u, ip))) (htable : s₁.table = s.table) (n : Nat) :
    ((s₁.wait id { r with phase := .delete ip }).settle T .ensured devices id clock
      (n + 1)).ServedLoaded T u := by
  rw [h₁.settle_wait, Pool.runPhase]
  simp only [htarget]
  rw [Pool.finishRelease, Pool.settle_finish]
  have hdeleted : ∀ (s₂ : Pool U) (r₂ : Request U), s₂.table = s.table → r₂.aborted = false →
      s₂.deleted T r₂ ⟨action, T.str u, u⟩ = s.table.delete u := by
    intro s₂ r₂ hs₂ hr₂
    rw [Pool.deleted]
    simp only [hr₂, Bool.false_eq_true, if_false, T.stored_str, hs₂]
  rw [hdeleted _ _ (by exact htable) (by exact hclean)]
  have hrow : ∀ v, (s.table.delete u).ipOf v = if u = v then none else s.table.ipOf v :=
    s.table.ipOf_delete u
  refine ⟨Pool.Serving.finish ?_ ?_ ?_, hloaded₁⟩
  · exact ⟨(h₁.wait _).alone, h₁.answer⟩
  · exact hs.remove hloaded hip hassigned hdevice hloaded₁ hheld hrow
  · intro ip' hmem
    have hmem' : (u, ip') ∈ s.held.filter (· ≠ (u, ip)) := hheld ▸ hmem
    obtain ⟨hold, hne⟩ := List.mem_filter.mp hmem'
    have hsame := ((hs.held u ip').mp hold).symm.trans hip
    cases hsame
    exact of_decide_eq_true hne rfl

theorem Pool.Serving.allocate (h : s.Serving id) (hs : s.InStep T) (hloaded : s.dbLoaded = true)
    {action : Action} (htarget : r.target = some ⟨action, T.str u, u⟩) (now : String) (n : Nat) :
    ((s.allocate id now r ⟨action, T.str u, u⟩).settle T .ensured devices id clock
      (n + 2)).ServedLoaded T u := by
  have hstored := (hs.loaded hloaded).ipOf_str u
  rw [Pool.allocate]
  dsimp only
  split
  · next a ha =>
    rw [Pool.ipOf, ha, Option.map_some] at hstored
    rw [Pool.finishAllocate, Pool.settle_finish]
    refine Pool.Serving.finish_address ?_ ?_ ?_ ?_ _
    · exact ⟨h.alone, h.answer⟩
    · exact hs.tell hstored.symm
    · exact hloaded
    · exact hstored.symm
  · next hnone =>
    rw [Pool.ipOf, hnone, Option.map_none] at hstored
    split
    · next next hscan =>
      rw [Pool.settle_finish]
      refine ⟨Pool.Serving.finish ?_ ?_ ?_, hloaded⟩
      · exact ⟨h.alone, h.answer⟩
      · exact hs.frame rfl rfl rfl rfl (fun _ _ => Iff.rfl)
      · exact fun _ idx hidx => hs.all_held hloaded hscan hidx
    · next ip next hscan =>
      obtain ⟨hunused, hhost⟩ := scanHosts_some hscan
      have hip := (hs.loaded hloaded).not_stored hunused
      apply Pool.Serving.persist _ hs hloaded hstored.symm hip hhost htarget
      · rfl
      · rfl
      · exact hloaded
      · rfl
      · rfl
      · exact ⟨h.alone, h.answer⟩

theorem Pool.Serving.release (h : s.Serving id) (hs : s.InStep T) (hloaded : s.dbLoaded = true)
    {action : Action} (htarget : r.target = some ⟨action, T.str u, u⟩) (hclean : r.aborted = false)
    (n : Nat) : ((s.release id r ⟨action, T.str u, u⟩).settle T .ensured devices id clock
      (n + 1)).ServedLoaded T u := by
  have hstored := (hs.loaded hloaded).ipOf_str u
  rw [Pool.release]
  dsimp only
  split
  · next a ha =>
    rw [Pool.ipOf, ha, Option.map_some] at hstored
    apply Pool.Serving.discard _ hs hloaded hstored.symm htarget hclean
    · rfl
    · rfl
    · exact hloaded
    · rfl
    · rfl
    · exact ⟨h.alone, h.answer⟩
  · next hnone =>
    rw [Pool.ipOf, hnone, Option.map_none] at hstored
    rw [Pool.settle_finish]
    exact ⟨h.finish hs (hs.not_held hstored.symm), hloaded⟩

theorem Pool.Serving.lookup (h : s.Serving id) (hs : s.InStep T) (hloaded : s.dbLoaded = true)
    (action : Action) (n : Nat) :
    ((s.lookup id r ⟨action, T.str u, u⟩).settle T .ensured devices id clock
      n).ServedLoaded T u := by
  have hstored := (hs.loaded hloaded).ipOf_str u
  rw [Pool.lookup]
  dsimp only
  split
  · next a ha =>
    rw [Pool.ipOf, ha, Option.map_some] at hstored
    rw [Pool.settle_finish]
    exact h.finish_address hs hloaded hstored.symm _
  · rw [Pool.settle_finish]
    exact ⟨h.finish hs (by rintro ⟨⟩), hloaded⟩

/-- A request that has come past its load is served in three steps at most. -/
theorem Pool.Serving.body (h : s.Serving id) (hs : s.InStep T) (hloaded : s.dbLoaded = true)
    (hphase : r.phase = .body) {action : Action}
    (htarget : r.target = some ⟨action, T.str u, u⟩) (hclean : r.aborted = false) (n : Nat) :
    ((s.wait id r).settle T .ensured devices id clock (n + 3)).ServedLoaded T u := by
  rw [h.settle_wait, Pool.runPhase]
  simp only [hphase]
  rw [Pool.runBody]
  simp only [htarget]
  cases action with
  | allocate => exact (h.wait r).allocate (hs.wait id r) hloaded htarget _ n
  | release => exact (h.wait r).release (hs.wait id r) hloaded htarget hclean (n + 1)
  | lookup => exact (h.wait r).lookup (hs.wait id r) hloaded .lookup (n + 2)

theorem Pool.Serving.load (h : s.Serving id) (hs : s.InStep T) {action : Action}
    (htarget : r.target = some ⟨action, T.str u, u⟩) (hclean : r.aborted = false) (n : Nat) :
    ((s.load id r).settle T .ensured devices id clock (n + 6)).ServedLoaded T u := by
  rw [Pool.load]
  cases hloaded : s.dbLoaded with
  | true =>
    rw [if_pos rfl]
    apply h.body hs hloaded
    · rfl
    · exact htarget
    · exact hclean
  | false =>
    rw [if_neg Bool.false_ne_true, h.settle_wait, Pool.runPhase]
    dsimp only
    rw [(h.wait _).settle_wait, Pool.runPhase]
    dsimp only
    have hwait := (h.wait { r with phase := .loadEnsure }).wait { r with phase := .select }
    rw [hwait.settle_wait, Pool.runPhase]
    dsimp only
    apply Pool.Serving.body
    · exact ⟨(hwait.wait { r with phase := .loaded s.table.rows.toList }).alone, h.answer⟩
    · exact (((hs.wait id _).wait id _).wait id _).takeRows hloaded _
    · rfl
    · rfl
    · exact htarget
    · exact hclean

/-- The id has a length that is taken, and the device is the user's. -/
def Admitted (T : UuidText U) (devices : Nat → List U) (user : Nat) (action : Action) (u : U) :
    Prop :=
  (action = .lookup ∨ 1 ≤ (T.str u).length ∧ (T.str u).length ≤ 64) ∧ u ∈ devices user

/-- A request leaves memory in step with the table; one that is let in leaves it loaded. -/
theorem Pool.Resting.serve_request (h : s.Resting T) (devices : Nat → List U) (id user : Nat)
    (action : Action) (u : U) (clock : Nat → String) :
    (s.serve T .ensured devices (.request id user action u clock)).Served T u ∧
      ((s.serve T .ensured devices (.request id user action u clock)).dbLoaded = true ↔
        s.dbLoaded = true ∨ Admitted T devices user action u) := by
  obtain ⟨hs, hin⟩ := h.serving id
  rw [Pool.serve, Pool.step, Pool.begin]
  simp only [h.idle id, T.parse_str]
  split
  · next hlength =>
    have hrefused : ¬ Admitted T devices user action u :=
      fun hadmitted => hlength.2 (hadmitted.1.resolve_left hlength.1)
    rw [Pool.settle_finish, or_iff_left hrefused]
    exact ⟨hs.finish hin (by rintro ⟨⟩), Iff.rfl⟩
  · next hlength =>
    rw [hs.settle_wait, Pool.runPhase]
    dsimp only
    rw [Pool.authorize]
    dsimp only
    split
    · next hdevice =>
      rw [not_and_or, not_not, not_not] at hlength
      refine Pool.ServedLoaded.and_iff ?_ (.inr ⟨hlength, hdevice⟩)
      apply (hs.wait _).load (hin.wait id _)
      · rfl
      · rfl
    · next hdevice =>
      have hrefused : ¬ Admitted T devices user action u := fun hadmitted => hdevice hadmitted.2
      rw [Pool.settle_finish, or_iff_left hrefused]
      exact ⟨(hs.wait _).finish (hin.wait id _) (by rintro ⟨⟩), Iff.rfl⟩

theorem Pool.Resting.restart (h : s.Resting T) :
    (s.serve T .ensured devices .restart).Resting T where
  idle := fun _ => Std.TreeMap.getElem?_emptyc
  inStep := by
    refine ⟨fun htrue => (Bool.false_ne_true htrue).elim, ?_, h.inStep.held, h.inStep.host⟩
    exact fun _ => ⟨fun _ => Std.TreeMap.getElem?_emptyc, fun _ => Std.TreeMap.getElem?_emptyc⟩

theorem Pool.Resting.serve (h : s.Resting T) (e : Event U) :
    (s.serve T .ensured devices e).Resting T := by
  cases e with
  | request id user action u clock =>
    exact (h.serve_request devices id user action u clock).1.toResting
  | restart => exact h.restart

/-- In every sequential history, a request leaves the two maps inverse to each other and, where
memory is loaded, equal to the table; it is loaded once a request has been let in; and what is
answered is so. -/
theorem sequential_in_step (T : UuidText U) (devices : Nat → List U) (events : List (Event U))
    (id user : Nat) (action : Action) (u : U) (clock : Nat → String) :
    let s := (Pool.start .empty).serveAll T .ensured devices events
    let s' := s.serve T .ensured devices (.request id user action u clock)
    s'.Served T u ∧ (∀ (k : String) (ip : Ipv4Addr),
        s'.ipOf k = some ip ↔ s'.ipToDevice[ip]? = some k) ∧
      (s'.dbLoaded = true ↔ s.dbLoaded = true ∨ Admitted T devices user action u) := by
  have hrest : ((Pool.start .empty).serveAll T .ensured devices events).Resting T :=
    run_invariant (Pool.serve T .ensured devices) .start (fun _ e hs => hs.serve e) events
  obtain ⟨hserved, hloaded⟩ := hrest.serve_request devices id user action u clock
  exact ⟨hserved, hserved.inStep.inverse, hloaded⟩

end Serve

section Examples
variable {U : Type}

/-- The first user has the device, and no other user has any. -/
def ownedByFirst (u : U) (user : Nat) : List U := if user = 0 then [u] else []

def allocateThenRestart (u : U) : List (Event U) :=
  [.request 0 0 .allocate u (fun _ => ""), .restart]

theorem sequential_in_step_restart :
    let s := (Pool.start .empty).serveAll twoDevices .ensured (ownedByFirst 0)
      (allocateThenRestart 0)
    let s' := s.serve twoDevices .ensured (ownedByFirst 0)
      (.request 1 0 .allocate 0 (fun _ => ""))
    s'.Served twoDevices 0 ∧ (∀ (k : String) (ip : Ipv4Addr),
        s'.ipOf k = some ip ↔ s'.ipToDevice[ip]? = some k) ∧
      (s'.dbLoaded = true ↔
        s.dbLoaded = true ∨ Admitted twoDevices (ownedByFirst 0) 0 .allocate 0) :=
  sequential_in_step twoDevices (ownedByFirst 0) (allocateThenRestart 0) 1 0 .allocate 0 _

/-- A request that is refused after a restart leaves memory empty, while the table has a row. -/
theorem refused_after_restart :
    ¬ (((Pool.start .empty).serveAll twoDevices .ensured (ownedByFirst 0)
      (allocateThenRestart 0 ++ [.request 1 1 .allocate 0 (fun _ => "")])).Mirrors
        twoDevices) := by
  intro h
  have hip := (h.assigned (deviceText 0) 0x64400001#32).mpr ⟨0, rfl, by decide +kernel⟩
  revert hip
  decide +kernel

end Examples

end P2PMesh.Ipam
