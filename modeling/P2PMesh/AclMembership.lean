import P2PMesh.Acl
import P2PMesh.Base.Run
import P2PMesh.ControlAcl

namespace P2PMesh.ControlAcl
open P2PMesh.Base
set_option autoImplicit true

inductive MembershipOp where
  | addDevice (group : String) (request : AddDeviceToGroupRequest)
  | removeDevice (group deviceId : String)
  | isolate (deviceId : String) (reason : Option String)
  | unisolate (deviceId : String)

def MembershipOp.update : MembershipOp → AclUpdate
  | .addDevice group request => .addDevice group request
  | .removeDevice group deviceId => .removeDevice group deviceId
  | .isolate deviceId reason => .isolate deviceId reason
  | .unisolate deviceId => .unisolate deviceId

def MembershipOp.apply (e : Acl.AclEngine) : MembershipOp → Acl.AclEngine
  | .addDevice group request => e.addDeviceToGroup group request.deviceId
  | .removeDevice group deviceId => e.removeDeviceFromGroup group deviceId
  | .isolate deviceId _ => e.isolateDevice deviceId
  | .unisolate deviceId => e.unisolateDevice deviceId

/-- The policy of the control plane and an engine of the data plane. -/
structure Planes where
  control : AclPolicy
  data : Acl.AclEngine

/-- Both start from the groups and the isolated devices of a policy. -/
def Planes.loaded (policy : AclPolicy) (engine : Acl.AclEngine) : Planes where
  control := policy
  data := { engine with
    policy.groups := policy.groups, policy.isolatedDevices := policy.isolatedDevices }

/-- An operation that the control plane reports as successful is applied to both. -/
def Planes.step (s : Planes) (op : MembershipOp) : Planes :=
  match s.control.update op.update with
  | .notFound _ => s
  | .unchanged => { s with data := op.apply s.data }
  | .saved policy _ => ⟨policy, op.apply s.data⟩

def Planes.run (s : Planes) (ops : List MembershipOp) : Planes := ops.foldl Planes.step s

/-- Both have the same devices in each group, and the same devices isolated. -/
structure Planes.Agree (s : Planes) : Prop where
  members : ∀ group d, d ∈ s.control.members group ↔ d ∈ s.data.members group
  isolated : ∀ d, d ∈ s.control.isolatedDevices ↔ d ∈ s.data.policy.isolatedDevices

def MembershipOp.Succeeds (op : MembershipOp) (p : AclPolicy) : Prop :=
  ∀ detail, p.update op.update ≠ .notFound detail

/-- What an operation that succeeds takes out is in neither afterwards. -/
def Planes.TakesOut (s : Planes) (op : MembershipOp) : Prop :=
  op.Succeeds s.control →
    match op with
    | .removeDevice group d =>
      d ∉ (s.step op).control.members group ∧ d ∉ (s.step op).data.members group
    | .unisolate d =>
      d ∉ (s.step op).control.isolatedDevices ∧ d ∉ (s.step op).data.policy.isolatedDevices
    | _ => True

/-- What is taken out is not listed twice. -/
def Planes.ListedOnce (s : Planes) : MembershipOp → Prop
  | .removeDevice group d => (s.control.members group).count d ≤ 1
  | .unisolate d => s.control.isolatedDevices.count d ≤ 1
  | .addDevice .. | .isolate .. => True

section Lists
variable {l m : List String} {d : String}

theorem not_mem_erase_iff : d ∉ l.erase d ↔ l.count d ≤ 1 := by
  rw [← List.count_eq_zero, List.count_erase_self]
  omega

theorem erase_filter_agree_iff (h : ∀ x, x ∈ l ↔ x ∈ m) :
    (∀ x, x ∈ l.erase d ↔ x ∈ m.filter (· ≠ d)) ↔ l.count d ≤ 1 := by
  rw [← not_mem_erase_iff]
  constructor
  · intro hall hd
    have hm := (hall d).mp hd
    simp only [ne_eq, decide_not, List.mem_filter, decide_true, Bool.not_true, Bool.false_eq_true,
      and_false] at hm
  · intro hd x
    rw [List.mem_filter, decide_eq_true_eq, ← h]
    by_cases hx : x = d
    · subst hx
      exact iff_of_false hd (fun hc => hc.2 rfl)
    · rw [List.mem_erase_of_ne hx, and_iff_left hx]

end Lists

section Agree
variable {s : Planes}

theorem control_members_insert (p : AclPolicy) (group other : String) (devices : List String) :
    ({ p with groups := p.groups.insert group devices } : AclPolicy).members other =
      if group = other then devices else p.members other := by
  rw [AclPolicy.members, getElem?_insert_eq]
  split
  · rfl
  · rfl

theorem data_members_add (e : Acl.AclEngine) (group other d : String) :
    (e.addDeviceToGroup group d).members other =
      if group = other then Acl.pushAbsent (e.members group) d else e.members other := by
  rw [Acl.AclEngine.members, Acl.AclEngine.addDeviceToGroup]
  dsimp only
  rw [getElem?_insert_eq]
  split
  · rfl
  · rfl

theorem data_members_remove (e : Acl.AclEngine) (group other d : String) :
    (e.removeDeviceFromGroup group d).members other =
      if group = other then (e.members group).filter (· ≠ d) else e.members other := by
  rw [Acl.AclEngine.removeDeviceFromGroup]
  cases hg : e.policy.groups[group]? with
  | none =>
    dsimp only
    split
    · next he =>
      rw [← he, Acl.AclEngine.members, hg]
      rfl
    · rfl
  | some members =>
    dsimp only
    rw [Acl.AclEngine.members]
    dsimp only
    rw [getElem?_insert_eq, Acl.AclEngine.members, hg]
    split
    · rfl
    · rfl

theorem mem_data_add (e : Acl.AclEngine) (group other d x : String) :
    x ∈ (e.addDeviceToGroup group d).members other ↔
      x ∈ e.members other ∨ (group = other ∧ x = d) := by
  rw [data_members_add]
  split
  · next he =>
    subst he
    rw [Acl.mem_pushAbsent]
    simp only [true_and]
  · next he => simp only [he, false_and, or_false]

theorem isolated_remove (e : Acl.AclEngine) (group d : String) :
    (e.removeDeviceFromGroup group d).policy.isolatedDevices = e.policy.isolatedDevices := by
  rw [Acl.AclEngine.removeDeviceFromGroup]
  split
  · rfl
  · rfl

theorem Planes.Agree.addDevice (h : s.Agree) (group : String)
    (request : AddDeviceToGroupRequest) : (s.step (.addDevice group request)).Agree := by
  rw [Planes.step]
  dsimp only [MembershipOp.update, AclPolicy.update, AclPolicy.addDeviceToGroup, MembershipOp.apply]
  by_cases hd : request.deviceId ∈ s.control.members group
  · simp only [hd, if_true]
    refine ⟨?_, h.isolated⟩
    intro other x
    rw [mem_data_add, ← h.members]
    constructor
    · exact Or.inl
    · rintro (hx | ⟨rfl, rfl⟩)
      · exact hx
      · exact hd
  · simp only [hd, if_false]
    refine ⟨?_, h.isolated⟩
    intro other x
    rw [mem_data_add, ← h.members, control_members_insert]
    split
    · next he =>
      subst he
      rw [List.mem_append, List.mem_singleton]
      simp only [true_and]
    · next he => simp only [he, false_and, or_false]

theorem Planes.Agree.removed_iff (h : s.Agree) {group d : String} {devices : List String}
    (hg : s.control.groups[group]? = some devices) :
    (⟨{ s.control with groups := s.control.groups.insert group (devices.erase d) },
      s.data.removeDeviceFromGroup group d⟩ : Planes).Agree ↔ devices.count d ≤ 1 := by
  have hmembers : s.control.members group = devices := by
    rw [AclPolicy.members, hg]
    rfl
  have hsame := h.members group
  rw [hmembers] at hsame
  rw [← erase_filter_agree_iff hsame]
  constructor
  · intro h' x
    have hx := h'.members group x
    rw [control_members_insert, data_members_remove, if_pos rfl, if_pos rfl] at hx
    exact hx
  · intro hall
    constructor
    · intro other x
      dsimp only
      rw [control_members_insert, data_members_remove]
      split
      · exact hall x
      · exact h.members other x
    · intro x
      dsimp only
      rw [isolated_remove]
      exact h.isolated x

theorem Planes.Agree.removeDevice_iff (h : s.Agree) (group d : String) :
    (s.step (.removeDevice group d)).Agree ↔ (s.control.members group).count d ≤ 1 := by
  rw [Planes.step]
  dsimp only [MembershipOp.update, AclPolicy.update, AclPolicy.removeDeviceFromGroup,
    MembershipOp.apply]
  cases hg : s.control.groups[group]? with
  | none =>
    rw [AclPolicy.members, hg]
    exact iff_of_true h (Nat.zero_le 1)
  | some devices =>
    rw [AclPolicy.members, hg]
    by_cases hd : d ∈ devices
    · simp only [hd, not_true_eq_false, if_false]
      exact h.removed_iff hg
    · simp only [hd, not_false_eq_true, if_true]
      refine iff_of_true h ?_
      rw [Option.getD_some, List.count_eq_zero_of_not_mem hd]
      exact Nat.zero_le 1

theorem Planes.Agree.isolate (h : s.Agree) (d : String) (reason : Option String) :
    (s.step (.isolate d reason)).Agree := by
  rw [Planes.step]
  dsimp only [MembershipOp.update, AclPolicy.update, AclPolicy.isolateDevice, MembershipOp.apply]
  by_cases hd : d ∈ s.control.isolatedDevices
  · simp only [hd, if_true]
    refine ⟨h.members, ?_⟩
    intro x
    rw [Acl.AclEngine.isolateDevice, Acl.mem_pushAbsent, ← h.isolated]
    constructor
    · exact Or.inl
    · rintro (hx | rfl)
      · exact hx
      · exact hd
  · simp only [hd, if_false]
    refine ⟨h.members, ?_⟩
    intro x
    rw [Acl.AclEngine.isolateDevice, Acl.mem_pushAbsent, ← h.isolated, List.mem_append,
      List.mem_singleton]

theorem Planes.Agree.unisolate_iff (h : s.Agree) (d : String) :
    (s.step (.unisolate d)).Agree ↔ s.control.isolatedDevices.count d ≤ 1 := by
  rw [Planes.step]
  dsimp only [MembershipOp.update, AclPolicy.update, AclPolicy.unisolateDevice, MembershipOp.apply]
  by_cases hd : d ∈ s.control.isolatedDevices
  · simp only [hd, not_true_eq_false, if_false]
    rw [← erase_filter_agree_iff h.isolated]
    constructor
    · intro h'
      exact h'.isolated
    · intro hall
      exact ⟨h.members, hall⟩
  · simp only [hd, not_false_eq_true, if_true]
    refine iff_of_true h ?_
    rw [List.count_eq_zero_of_not_mem hd]
    exact Nat.zero_le 1

theorem Planes.Agree.step_iff (h : s.Agree) (op : MembershipOp) :
    (s.step op).Agree ↔ s.ListedOnce op := by
  cases op with
  | addDevice group request => exact iff_of_true (h.addDevice group request) trivial
  | removeDevice group d => exact h.removeDevice_iff group d
  | isolate d reason => exact iff_of_true (h.isolate d reason) trivial
  | unisolate d => exact h.unisolate_iff d

/-- Where both still agree, what has been taken out is gone from both: the data plane has filtered
it out. -/
theorem Planes.Agree.takesOut {op : MembershipOp} (h : (s.step op).Agree) : s.TakesOut op := by
  intro hsucceeds
  cases op with
  | addDevice group request => trivial
  | removeDevice group d =>
    dsimp only
    rw [h.members, and_self]
    have hstep : (s.step (.removeDevice group d)).data = s.data.removeDeviceFromGroup group d := by
      rw [Planes.step]
      cases hu : s.control.update (MembershipOp.removeDevice group d).update with
      | notFound detail => exact absurd hu (hsucceeds detail)
      | unchanged => rfl
      | saved policy comment => rfl
    rw [hstep, data_members_remove, if_pos rfl, List.mem_filter, decide_eq_true_eq]
    exact fun hc => hc.2 rfl
  | isolate d reason => trivial
  | unisolate d =>
    dsimp only
    rw [h.isolated, and_self]
    have hstep : (s.step (.unisolate d)).data = s.data.unisolateDevice d := by
      rw [Planes.step]
      cases hu : s.control.update (MembershipOp.unisolate d).update with
      | notFound detail => exact absurd hu (hsucceeds detail)
      | unchanged => rfl
      | saved policy comment => rfl
    rw [hstep, Acl.AclEngine.unisolateDevice, List.mem_filter, decide_eq_true_eq]
    exact fun hc => hc.2 rfl

theorem Planes.Agree.loaded (policy : AclPolicy) (engine : Acl.AclEngine) :
    (Planes.loaded policy engine).Agree :=
  ⟨fun _ _ => Iff.rfl, fun _ => Iff.rfl⟩

end Agree

/-- After every part of a sequence of operations both planes have the same members and the same
isolated devices, and what has been taken out is gone, exactly where nothing is taken out that is
listed twice. -/
theorem membership_agrees_iff (policy : AclPolicy) (engine : Acl.AclEngine)
    (ops : List MembershipOp) :
    ((∀ l, l <+: ops → ((Planes.loaded policy engine).run l).Agree) ∧
      ∀ l op, l ++ [op] <+: ops → ((Planes.loaded policy engine).run l).TakesOut op) ↔
    Guarded Planes.step Planes.ListedOnce (.loaded policy engine) ops := by
  have hagree := forall_prefix_iff (Planes.Agree.loaded policy engine)
    (fun s op (h : s.Agree) => h.step_iff op) ops
  rw [← hagree]
  constructor
  · exact And.left
  · intro h
    refine ⟨h, ?_⟩
    intro l op hl
    have hnext := h (l ++ [op]) hl
    rw [List.foldl_append] at hnext
    exact hnext.takesOut

/-- A device that is isolated twice. -/
def twiceIsolated : AclPolicy := { defaultPolicy with isolatedDevices := ["a", "a"] }

/-- A device that is isolated twice stays isolated in the control plane, and not in the data
plane. -/
theorem unisolated_once :
    ¬ ((Planes.loaded twiceIsolated .new).run [.unisolate "a"]).Agree ∧
    ¬ (Planes.loaded twiceIsolated .new).TakesOut (.unisolate "a") := by
  constructor
  · intro h
    exact absurd (h.isolated "a") (by decide +kernel)
  · intro h
    have hsucceeds : MembershipOp.Succeeds (.unisolate "a") twiceIsolated := by
      intro detail
      dsimp only [MembershipOp.update, AclPolicy.update, AclPolicy.unisolateDevice]
      rw [if_neg (by decide +kernel)]
      nofun
    exact absurd (h hsucceeds).1 (by decide +kernel)

end P2PMesh.ControlAcl
