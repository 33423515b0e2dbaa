import P2PMesh.Base.Net
import P2PMesh.Base.Selection

namespace P2PMesh.Acl
open P2PMesh.Base
set_option autoImplicit true

inductive PolicyMode where
  | defaultAllow
  | defaultDeny
deriving DecidableEq

inductive AclAction where
  | allow
  | deny
deriving DecidableEq

structure AclRule where
  action : AclAction
  src : String
  dst : String
  protocol : String
  ports : List UInt16
  srcCidrs : List String
  priority : Nat
deriving DecidableEq

abbrev Groups := Std.TreeMap String (List String)

structure AclPolicy where
  mode : PolicyMode
  groups : Groups
  rules : List AclRule
  isolatedDevices : List String
  bypassDevices : List String

structure AclEngine where
  policy : AclPolicy
  deviceIps : Std.TreeMap String Ipv4Addr

structure Traffic where
  srcDevice : String
  dstDevice : String
  protocol : String
  dstPort : UInt16

def deviceInGroup (deviceId groupName : String) (groups : Groups) : Bool :=
  if groupName == "any" || groupName == "*" then true
  else if deviceId == groupName then true
  else
    match groups[groupName]? with
    | some members => members.any (· == deviceId)
    | none => false

def AclEngine.new : AclEngine := ⟨⟨.defaultDeny, ∅, [], [], []⟩, ∅⟩

def AclEngine.loadPolicy (e : AclEngine) (policy : AclPolicy) : AclEngine :=
  { e with policy := policy }

def AclEngine.registerDeviceIp (e : AclEngine) (deviceId : String) (ip : Ipv4Addr) : AclEngine :=
  { e with deviceIps := e.deviceIps.insert deviceId ip }

def AclEngine.members (e : AclEngine) (groupName : String) : List String :=
  e.policy.groups[groupName]?.getD []

def pushAbsent (members : List String) (deviceId : String) : List String :=
  if deviceId ∈ members then members else members ++ [deviceId]

theorem mem_pushAbsent : d ∈ pushAbsent members deviceId ↔ d ∈ members ∨ d = deviceId := by
  rw [pushAbsent]
  by_cases h : deviceId ∈ members
  · rw [if_pos h]
    constructor
    · exact Or.inl
    · rintro (hd | hd)
      · exact hd
      · rwa [hd]
  · rw [if_neg h, List.mem_append, List.mem_singleton]

def AclEngine.addDeviceToGroup (e : AclEngine) (groupName deviceId : String) : AclEngine :=
  let members := pushAbsent (e.members groupName) deviceId
  { e with policy.groups := e.policy.groups.insert groupName members }

def AclEngine.removeDeviceFromGroup (e : AclEngine) (groupName deviceId : String) : AclEngine :=
  match e.policy.groups[groupName]? with
  | none => e
  | some members =>
    let kept := members.filter (· ≠ deviceId)
    { e with policy.groups := e.policy.groups.insert groupName kept }

def AclEngine.isolateDevice (e : AclEngine) (deviceId : String) : AclEngine :=
  { e with policy.isolatedDevices := pushAbsent e.policy.isolatedDevices deviceId }

def AclEngine.unisolateDevice (e : AclEngine) (deviceId : String) : AclEngine :=
  { e with policy.isolatedDevices := e.policy.isolatedDevices.filter (· ≠ deviceId) }

section Check
variable (toLowercase : String → String)

/-- The list of source CIDRs is not consulted. -/
def ruleMatches (rule : AclRule) (t : Traffic) (groups : Groups) : Bool :=
  let srcMatches := t.srcDevice == rule.src || deviceInGroup t.srcDevice rule.src groups
  let dstMatches := t.dstDevice == rule.dst || deviceInGroup t.dstDevice rule.dst groups
  if !srcMatches || !dstMatches then false
  else if rule.protocol != "any" && toLowercase rule.protocol != toLowercase t.protocol then false
  else if !rule.ports.isEmpty && !rule.ports.contains t.dstPort then false
  else true

def AclEngine.check (e : AclEngine) (t : Traffic) : Bool :=
  let policy := e.policy
  let bypass := policy.bypassDevices.any (fun d => d == t.srcDevice || d == t.dstDevice)
  if bypass then true
  else if (policy.isolatedDevices.any (· == t.srcDevice) ||
      policy.isolatedDevices.any (· == t.dstDevice)) && !bypass then false
  else
    let rules := sortByKey (fun r => OrderDual.toDual r.priority) policy.rules
    match rules.find? (fun rule => ruleMatches toLowercase rule t policy.groups) with
    | some rule => rule.action == .allow
    | none =>
      match policy.mode with
      | .defaultAllow => true
      | .defaultDeny => false

end Check

/-- The device is named, or a wildcard, or a member of the named group. -/
def Belongs (groups : Groups) (deviceId name : String) : Prop :=
  name = "any" ∨ name = "*" ∨ deviceId = name ∨ ∃ members ∈ groups[name]?, deviceId ∈ members

def AclEngine.Bypassed (e : AclEngine) (t : Traffic) : Prop :=
  t.srcDevice ∈ e.policy.bypassDevices ∨ t.dstDevice ∈ e.policy.bypassDevices

def AclEngine.Isolated (e : AclEngine) (t : Traffic) : Prop :=
  t.srcDevice ∈ e.policy.isolatedDevices ∨ t.dstDevice ∈ e.policy.isolatedDevices

/-- The source's registered address lies in one of the rule's ranges, if it has any. -/
def AclEngine.AdmitsSource (N : Ipnet) (e : AclEngine) (t : Traffic) (rule : AclRule) : Prop :=
  rule.srcCidrs = [] ∨ ∃ ip ∈ e.deviceIps[t.srcDevice]?,
    ∃ text ∈ rule.srcCidrs, ∃ net ∈ N.parse text, net.Covers ip

instance : Decidable (AclEngine.Bypassed e t) := inferInstanceAs (Decidable (_ ∨ _))

instance : Decidable (Belongs groups deviceId name) :=
  inferInstanceAs (Decidable (_ ∨ _ ∨ _ ∨ _))

instance : Decidable (AclEngine.AdmitsSource N e t rule) :=
  inferInstanceAs (Decidable (_ ∨ _))

section Spec
variable (toLowercase : String → String)

/-- Source, destination, protocol and port list of the rule are satisfied. -/
def AclEngine.Applies (e : AclEngine) (t : Traffic) (rule : AclRule) : Prop :=
  Belongs e.policy.groups t.srcDevice rule.src ∧ Belongs e.policy.groups t.dstDevice rule.dst ∧
    (rule.protocol = "any" ∨ toLowercase rule.protocol = toLowercase t.protocol) ∧
    (rule.ports = [] ∨ t.dstPort ∈ rule.ports)

instance : Decidable (AclEngine.Applies toLowercase e t rule) :=
  inferInstanceAs (Decidable (_ ∧ _ ∧ _ ∧ _))

/-- The verdict of the rules that meet a condition: the action of the one of greatest priority
that comes first, or the default of the mode. -/
def AclPolicy.Decides (policy : AclPolicy) (p : AclRule → Bool) (verdict : Bool) : Prop :=
  (∃ rule, IsFirstMax AclRule.priority (policy.rules.filter p) rule ∧
    verdict = decide (rule.action = .allow)) ∨
  ((∀ rule ∈ policy.rules, p rule = false) ∧ verdict = decide (policy.mode = .defaultAllow))

/-- The access decision with the source ranges respected. -/
def AclEngine.Permits (N : Ipnet) (e : AclEngine) (t : Traffic) (verdict : Bool) : Prop :=
  (e.Bypassed t ∧ verdict = true) ∨
  (¬ e.Bypassed t ∧ e.Isolated t ∧ verdict = false) ∨
  (¬ e.Bypassed t ∧ ¬ e.Isolated t ∧
    e.policy.Decides (fun rule => e.Applies toLowercase t rule ∧ e.AdmitsSource N t rule) verdict)

/-- Where the source ranges make no difference: the devices decide alone, or the first rule that
applies admits the source, or it acts as the rules that admit the source decide. -/
def AclEngine.RangesIrrelevant (N : Ipnet) (e : AclEngine) (t : Traffic) : Prop :=
  e.Bypassed t ∨ e.Isolated t ∨
    ∀ rule, IsFirstMax AclRule.priority
        (e.policy.rules.filter (fun rule => e.Applies toLowercase t rule)) rule →
      e.AdmitsSource N t rule ∨ e.policy.Decides
        (fun rule => e.Applies toLowercase t rule ∧ e.AdmitsSource N t rule)
        (decide (rule.action = .allow))

variable {toLowercase}

theorem deviceInGroup_iff : deviceInGroup deviceId name groups = true ↔
    Belongs groups deviceId name := by
  rw [deviceInGroup, Belongs]
  by_cases hw : name = "any" ∨ name = "*"
  · have hb : (name == "any" || name == "*") = true := by
      simpa only [Bool.or_eq_true, beq_iff_eq] using hw
    rw [if_pos hb]
    exact iff_of_true rfl (hw.imp_right Or.inl)
  · have hb : ¬ (name == "any" || name == "*") = true := by
      simpa only [Bool.or_eq_true, beq_iff_eq] using hw
    obtain ⟨h₁, h₂⟩ := not_or.mp hw
    rw [if_neg hb]
    simp only [h₁, h₂, false_or]
    by_cases hd : deviceId = name
    · rw [if_pos (beq_iff_eq.mpr hd)]
      exact iff_of_true rfl (Or.inl hd)
    · rw [if_neg (fun h => hd (beq_iff_eq.mp h))]
      simp only [hd, false_or]
      cases groups[name]? with
      | none => simp
      | some members => simp

theorem ruleMatches_iff {e : AclEngine} :
    ruleMatches toLowercase rule t e.policy.groups = true ↔ e.Applies toLowercase t rule := by
  have hb : ∀ d name, (d == name || deviceInGroup d name e.policy.groups) = true ↔
      Belongs e.policy.groups d name := by
    intro d name
    rw [Bool.or_eq_true, beq_iff_eq, deviceInGroup_iff]
    constructor
    · intro h
      rcases h with h | h
      · exact Or.inr (Or.inr (Or.inl h))
      · exact h
    · exact Or.inr
  have hp : (rule.protocol = "any" ∨ toLowercase rule.protocol = toLowercase t.protocol) ↔
      (rule.protocol == "any" || toLowercase rule.protocol == toLowercase t.protocol) = true := by
    rw [Bool.or_eq_true, beq_iff_eq, beq_iff_eq]
  have hq : (rule.ports = [] ∨ t.dstPort ∈ rule.ports) ↔
      (rule.ports.isEmpty || rule.ports.contains t.dstPort) = true := by
    rw [Bool.or_eq_true, List.isEmpty_iff, List.contains_iff_mem]
  rw [AclEngine.Applies, ← hb, ← hb, hp, hq, ruleMatches, bne, bne]
  generalize (t.srcDevice == rule.src || deviceInGroup t.srcDevice rule.src _) = src
  generalize (t.dstDevice == rule.dst || deviceInGroup t.dstDevice rule.dst _) = dst
  generalize (rule.protocol == "any") = any
  generalize (toLowercase rule.protocol == toLowercase t.protocol) = same
  generalize rule.ports.isEmpty = all
  generalize rule.ports.contains t.dstPort = listed
  revert src dst any same all listed
  decide

theorem AclPolicy.Decides.unique {policy : AclPolicy} (h : policy.Decides p v)
    (h' : policy.Decides p v') : v = v' := by
  have hno : ∀ rule, IsFirstMax AclRule.priority (policy.rules.filter p) rule →
      ¬ ∀ rule ∈ policy.rules, p rule = false := by
    intro rule hr hn
    obtain ⟨hmem, hp⟩ := List.mem_filter.mp hr.mem
    rw [hn rule hmem] at hp
    cases hp
  rcases h with ⟨rule, hr, hv⟩ | ⟨hn, hv⟩
  · rcases h' with ⟨rule', hr', hv'⟩ | ⟨hn', -⟩
    · rw [hv, hv', hr.unique hr']
    · exact (hno rule hr hn').elim
  · rcases h' with ⟨rule', hr', -⟩ | ⟨-, hv'⟩
    · exact (hno rule' hr' hn).elim
    · rw [hv, hv']

theorem AclEngine.check_decides (e : AclEngine) (t : Traffic) :
    (e.Bypassed t → e.check toLowercase t = true) ∧
    (¬ e.Bypassed t → e.Isolated t → e.check toLowercase t = false) ∧
    (¬ e.Bypassed t → ¬ e.Isolated t →
      e.policy.Decides (fun rule => e.Applies toLowercase t rule) (e.check toLowercase t)) := by
  have hb : e.policy.bypassDevices.any (fun d => d == t.srcDevice || d == t.dstDevice) = true ↔
      e.Bypassed t := by
    simp only [AclEngine.Bypassed, List.any_eq_true, Bool.or_eq_true, beq_iff_eq]
    grind
  have hi : (e.policy.isolatedDevices.any (· == t.srcDevice) ||
      e.policy.isolatedDevices.any (· == t.dstDevice)) = true ↔ e.Isolated t := by
    simp only [AclEngine.Isolated, Bool.or_eq_true, List.any_eq_true, beq_iff_eq]
    grind
  have hm : (fun rule => ruleMatches toLowercase rule t e.policy.groups) =
      fun rule => decide (e.Applies toLowercase t rule) := by
    funext rule
    rw [Bool.eq_iff_iff, ruleMatches_iff, decide_eq_true_eq]
  refine ⟨?_, ?_, ?_⟩
  · intro h
    rw [AclEngine.check, if_pos (hb.mpr h)]
  · intro h h'
    rw [AclEngine.check, if_neg (fun hx => h (hb.mp hx)), hi.mpr h',
      Bool.eq_false_iff.mpr (fun hx => h (hb.mp hx))]
    rfl
  · intro h h'
    rw [AclEngine.check, if_neg (fun hx => h (hb.mp hx)),
      Bool.eq_false_iff.mpr (fun hx => h' (hi.mp hx)), Bool.false_and, if_neg Bool.false_ne_true]
    simp only [hm]
    cases hf : (sortByKey (fun r => OrderDual.toDual r.priority) e.policy.rules).find?
        (fun rule => decide (e.Applies toLowercase t rule)) with
    | some rule => exact Or.inl ⟨rule, find?_sortByKey_toDual.mp hf, rfl⟩
    | none =>
      apply Or.inr
      constructor
      · intro rule hr
        have hn := List.find?_eq_none.mp hf rule (mem_sortByKey.mpr hr)
        exact Bool.eq_false_iff.mpr hn
      · cases e.policy.mode <;> rfl

theorem AclPolicy.Decides.narrow_iff {policy : AclPolicy} {p q : AclRule → Bool}
    (h : policy.Decides p v) :
    policy.Decides (fun rule => p rule && q rule) v ↔
      ∀ rule, IsFirstMax AclRule.priority (policy.rules.filter p) rule →
        q rule = true ∨
          policy.Decides (fun rule => p rule && q rule) (decide (rule.action = .allow)) := by
  constructor
  · intro hv rule hr
    have he : v = decide (rule.action = .allow) := h.unique (Or.inl ⟨rule, hr, rfl⟩)
    rw [← he]
    exact Or.inr hv
  · intro hall
    rcases h with ⟨rule, hr, hv⟩ | ⟨hn, hv⟩
    · rw [hv]
      rcases hall rule hr with hq | hd
      · have hf : IsFirstMax AclRule.priority
            (policy.rules.filter (fun rule => p rule && q rule)) rule := by
          rw [← List.filter_filter, List.filter_comm]
          exact hr.filter hq
        exact Or.inl ⟨rule, hf, rfl⟩
      · exact hd
    · apply Or.inr
      constructor
      · intro rule hr
        simp only [hn rule hr, Bool.false_and]
      · exact hv

/-- The check decides as the rules say exactly where their source ranges make no difference. -/
theorem check_permits_iff (toLowercase : String → String) (N : Ipnet) (e : AclEngine)
    (t : Traffic) :
    e.Permits toLowercase N t (e.check toLowercase t) ↔ e.RangesIrrelevant toLowercase N t := by
  obtain ⟨hbypass, hisolated, hrules⟩ := @AclEngine.check_decides toLowercase e t
  rw [AclEngine.Permits, AclEngine.RangesIrrelevant]
  by_cases hb : e.Bypassed t
  · exact iff_of_true (Or.inl ⟨hb, hbypass hb⟩) (Or.inl hb)
  · by_cases hi : e.Isolated t
    · exact iff_of_true (Or.inr (Or.inl ⟨hb, hi, hisolated hb hi⟩)) (Or.inr (Or.inl hi))
    · have hn := (hrules hb hi).narrow_iff
        (q := fun rule => decide (e.AdmitsSource N t rule))
      simpa only [hb, hi, not_false_eq_true, false_and, true_and, false_or, Bool.decide_and,
        decide_eq_true_eq] using hn

end Spec

def rangedRule : AclRule := ⟨.allow, "a", "b", "any", [], ["10.0.0.0/8"], 0⟩

def rangedEngine : AclEngine :=
  (AclEngine.new.loadPolicy ⟨.defaultDeny, ∅, [rangedRule], [], []⟩).registerDeviceIp "a"
    0xc0a80101#32

theorem rangedRule_excludes_source :
    ¬ rangedEngine.AdmitsSource dottedIpnet ⟨"a", "b", "tcp", 22⟩ rangedRule := by
  have hip : rangedEngine.deviceIps["a"]? = some 0xc0a80101#32 := by decide +kernel
  have hnet : dottedIpnet.parse "10.0.0.0/8" = some ⟨0x0a000000#32, 8, by decide⟩ := by
    decide +kernel
  intro h
  rcases h with h | ⟨ip, hi, text, ht, net, hn, hc⟩
  · cases h
  · cases hip.symm.trans hi
    cases List.mem_singleton.mp ht
    cases hnet.symm.trans hn
    exact absurd hc (by decide)

/-- The rule is applied although its source lies outside the rule's range. -/
theorem check_ignores_source_ranges :
    ¬ rangedEngine.Permits String.toLower dottedIpnet ⟨"a", "b", "tcp", 22⟩
      (rangedEngine.check String.toLower ⟨"a", "b", "tcp", 22⟩) := by
  have hc : rangedEngine.check String.toLower ⟨"a", "b", "tcp", 22⟩ = true := by decide +kernel
  rw [hc]
  intro h
  rcases h with ⟨hb, -⟩ | ⟨-, -, hv⟩ | ⟨-, -, ⟨rule, hr, -⟩ | ⟨-, hv⟩⟩
  · exact absurd hb (by decide +kernel)
  · cases hv
  · obtain ⟨hmem, hp⟩ := List.mem_filter.mp hr.mem
    cases List.mem_singleton.mp hmem
    exact rangedRule_excludes_source (of_decide_eq_true hp).2
  · cases hv

end P2PMesh.Acl
