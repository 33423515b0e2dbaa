import P2PMesh.Acl
import P2PMesh.Base.Json
import P2PMesh.ControlAcl

namespace P2PMesh.Acl
open P2PMesh.Base
set_option autoImplicit true

def PolicyMode.fromJson : Json → Option PolicyMode :=
  Json.toVariant [("default-allow", .defaultAllow), ("default-deny", .defaultDeny)]

def AclAction.fromJson : Json → Option AclAction :=
  Json.toVariant [("allow", .allow), ("deny", .deny)]

def portFromJson (j : Json) : Option UInt16 := (j.toUnsigned (2 ^ 16)).map UInt16.ofNat

def defaultProtocol : String := "any"

/-- Members of other names are passed over. -/
def AclRule.fromJson (j : Json) : Option AclRule :=
  (j.toFields ["action", "src", "dst", "protocol", "ports", "src_cidrs", "priority"]).bind
    fun fields =>
  (requiredField fields "action" AclAction.fromJson).bind fun action =>
  (requiredField fields "src" Json.toStr).bind fun src =>
  (requiredField fields "dst" Json.toStr).bind fun dst =>
  (optionalField fields "protocol" defaultProtocol Json.toStr).bind fun protocol =>
  (optionalField fields "ports" [] (Json.toList portFromJson)).bind fun ports =>
  (optionalField fields "src_cidrs" [] (Json.toList Json.toStr)).bind fun srcCidrs =>
  (optionalField fields "priority" 0 (Json.toUnsigned (2 ^ 32))).map fun priority =>
    ⟨action, src, dst, protocol, ports, srcCidrs, priority⟩

/-- The policy of a document, once its text has been read. -/
def AclPolicy.fromJson (j : Json) : Option AclPolicy :=
  (j.toFields ["mode", "groups", "rules", "isolated_devices", "bypass_devices"]).bind fun fields =>
  (optionalField fields "mode" .defaultDeny PolicyMode.fromJson).bind fun mode =>
  (optionalField fields "groups" ∅ (Json.toTable (Json.toList Json.toStr))).bind fun groups =>
  (optionalField fields "rules" [] (Json.toList AclRule.fromJson)).bind fun rules =>
  (optionalField fields "isolated_devices" [] (Json.toList Json.toStr)).bind fun isolatedDevices =>
  (optionalField fields "bypass_devices" [] (Json.toList Json.toStr)).map fun bypassDevices =>
    ⟨mode, groups, rules, isolatedDevices, bypassDevices⟩

def PolicyMode.text : PolicyMode → String
  | .defaultAllow => "default-allow"
  | .defaultDeny => "default-deny"

def AclAction.text : AclAction → String
  | .allow => "allow"
  | .deny => "deny"

end P2PMesh.Acl

namespace P2PMesh.ControlAcl
open P2PMesh.Base

/-- What the control plane serves of a rule. -/
def AclRule.toJson (rule : AclRule) : Json :=
  .obj [("id", rule.id.elim .null .str), ("action", .str rule.action), ("src", .str rule.src),
    ("dst", .str rule.dst), ("protocol", .str rule.protocol),
    ("ports", .arr (rule.ports.map .int)), ("src_cidrs", .strs rule.srcCidrs),
    ("priority", .int rule.priority)]

def AclPolicy.toJson (p : AclPolicy) : Json :=
  .obj [("mode", .str p.mode),
    ("groups", .obj (p.groups.toList.map (fun e => (e.1, .strs e.2)))),
    ("rules", .arr (p.rules.map AclRule.toJson)), ("isolated_devices", .strs p.isolatedDevices),
    ("bypass_devices", .strs p.bypassDevices)]

/-- The data plane has the rule with the same fields. -/
structure AclRule.Same (rule : AclRule) (parsed : Acl.AclRule) : Prop where
  action : parsed.action.text = rule.action
  src : parsed.src = rule.src
  dst : parsed.dst = rule.dst
  protocol : parsed.protocol = rule.protocol
  ports : parsed.ports.map (fun port => (port.toNat : Int)) = rule.ports
  srcCidrs : parsed.srcCidrs = rule.srcCidrs
  priority : (parsed.priority : Int) = rule.priority

structure AclPolicy.Same (p : AclPolicy) (parsed : Acl.AclPolicy) : Prop where
  mode : parsed.mode.text = p.mode
  groups : ∀ name : String, parsed.groups[name]? = p.groups[name]?
  rules : List.Forall₂ AclRule.Same p.rules parsed.rules
  isolatedDevices : parsed.isolatedDevices = p.isolatedDevices
  bypassDevices : parsed.bypassDevices = p.bypassDevices

/-- The numbers of the rule fit the types of the data plane. -/
def AclRule.Fits (rule : AclRule) : Prop :=
  (∀ port ∈ rule.ports, 0 ≤ port ∧ port < 2 ^ 16) ∧ rule.priority < 2 ^ 32

section Parts

theorem action_fromJson_iff {text : String} {action : Acl.AclAction} :
    Acl.AclAction.fromJson (.str text) = some action ↔ action.text = text := by
  apply toVariant_str_iff (by decide)
  intro name a
  cases a <;> simp [Acl.AclAction.text, eq_comm]

theorem mode_fromJson_iff {text : String} {mode : Acl.PolicyMode} :
    Acl.PolicyMode.fromJson (.str text) = some mode ↔ mode.text = text := by
  apply toVariant_str_iff (by decide)
  intro name a
  cases a <;> simp [Acl.PolicyMode.text, eq_comm]

theorem port_fromJson_iff {n : Int} {port : UInt16} :
    Acl.portFromJson (.int n) = some port ↔ n = (port.toNat : Int) := by
  rw [Acl.portFromJson, Option.map_eq_some_iff]
  constructor
  · rintro ⟨m, hm, rfl⟩
    obtain ⟨hlt, rfl⟩ := toUnsigned_eq_some_iff.mp hm
    rw [UInt16.toNat_ofNat', Nat.mod_eq_of_lt hlt]
  · rintro rfl
    exact ⟨port.toNat, toUnsigned_eq_some_iff.mpr ⟨port.toNat_lt, rfl⟩, UInt16.ofNat_toNat⟩

theorem ports_fromJson_iff {ports : List Int} {parsed : List UInt16} :
    Json.toList Acl.portFromJson (.arr (ports.map .int)) = some parsed ↔
      parsed.map (fun port => (port.toNat : Int)) = ports := by
  rw [toList_arr_map_iff]
  simp only [port_fromJson_iff]
  rw [← List.forall₂_map_right_iff (R := fun a b => a = b), List.forall₂_eq_eq_eq]
  exact eq_comm

end Parts

theorem AclRule.fromJson_iff (rule : AclRule) (parsed : Acl.AclRule) :
    Acl.AclRule.fromJson rule.toJson = some parsed ↔ rule.Same parsed ∧ rule.priority < 2 ^ 32 := by
  have hnames : ∀ name ∈ ["action", "src", "dst", "protocol", "ports", "src_cidrs", "priority"],
      ["id", "action", "src", "dst", "protocol", "ports", "src_cidrs", "priority"].count name ≤
        1 := by
    decide
  rw [Acl.AclRule.fromJson, AclRule.toJson, Json.toFields]
  simp only [List.map_cons, List.map_nil]
  rw [if_pos hnames]
  simp only [requiredField, optionalField, List.lookup_cons, Option.bind_some, String.reduceBEq,
    Json.toStr, Option.bind_eq_some_iff, Option.map_eq_some_iff, action_fromJson_iff,
    ports_fromJson_iff, toList_strs, toUnsigned_eq_some_iff]
  constructor
  · rintro ⟨action, haction, ports, hports, priority, ⟨hlt, hpriority⟩, rfl⟩
    refine ⟨⟨haction, rfl, rfl, rfl, hports, rfl, hpriority⟩, ?_⟩
    rw [← hpriority]
    exact Int.ofNat_lt.mpr hlt
  · rintro ⟨hsame, hlt⟩
    obtain ⟨action, src, dst, protocol, ports, srcCidrs, priority⟩ := parsed
    obtain ⟨haction, rfl, rfl, rfl, hports, rfl, hpriority⟩ := hsame
    refine ⟨action, haction, ports, hports, priority, ⟨?_, hpriority⟩, rfl⟩
    rw [← hpriority] at hlt
    exact Int.ofNat_lt.mp hlt

theorem AclRule.Same.fits {rule : AclRule} {parsed : Acl.AclRule} (h : rule.Same parsed)
    (hlt : rule.priority < 2 ^ 32) : rule.Fits := by
  refine ⟨?_, hlt⟩
  intro port hport
  rw [← h.ports] at hport
  obtain ⟨p, -, rfl⟩ := List.mem_map.mp hport
  exact ⟨Int.natCast_nonneg _, Int.ofNat_lt.mpr p.toNat_lt⟩

theorem AclRule.Fits.exists_same {rule : AclRule} (h : rule.Fits) : ∃ parsed, rule.Same parsed := by
  obtain ⟨action, haction⟩ : ∃ action : Acl.AclAction, action.text = rule.action := by
    have hpattern := rule.action_pattern
    simp only [List.mem_cons, List.not_mem_nil, or_false] at hpattern
    cases hpattern with
    | inl hallow => exact ⟨.allow, hallow.symm⟩
    | inr hdeny => exact ⟨.deny, hdeny.symm⟩
  refine ⟨⟨action, rule.src, rule.dst, rule.protocol,
    rule.ports.map (fun port => UInt16.ofNat port.toNat), rule.srcCidrs, rule.priority.toNat⟩,
    haction, rfl, rfl, rfl, ?_, rfl, Int.toNat_of_nonneg rule.priority_nonneg⟩
  rw [List.map_map]
  conv_rhs => rw [← List.map_id rule.ports]
  apply List.map_congr_left
  intro port hport
  obtain ⟨hnonneg, hlt⟩ := h.1 port hport
  rw [Function.comp_apply, UInt16.toNat_ofNat', Nat.mod_eq_of_lt (by omega), id_eq]
  exact Int.toNat_of_nonneg hnonneg

theorem AclPolicy.fromJson_iff (p : AclPolicy) (parsed : Acl.AclPolicy) :
    Acl.AclPolicy.fromJson p.toJson = some parsed ↔
      ∃ groups, Json.toTable (Json.toList Json.toStr)
          (.obj (p.groups.toList.map (fun e => (e.1, .strs e.2)))) = some groups ∧
        parsed.groups = groups ∧ parsed.mode.text = p.mode ∧
        List.Forall₂ (fun rule r => rule.Same r ∧ rule.priority < 2 ^ 32) p.rules parsed.rules ∧
        parsed.isolatedDevices = p.isolatedDevices ∧ parsed.bypassDevices = p.bypassDevices := by
  have hnames : ∀ name ∈ ["mode", "groups", "rules", "isolated_devices", "bypass_devices"],
      ["mode", "groups", "rules", "isolated_devices", "bypass_devices"].count name ≤ 1 := by
    decide
  rw [Acl.AclPolicy.fromJson, AclPolicy.toJson, Json.toFields]
  simp only [List.map_cons, List.map_nil]
  rw [if_pos hnames]
  simp only [optionalField, List.lookup_cons, Option.bind_some, String.reduceBEq,
    Option.bind_eq_some_iff, Option.map_eq_some_iff, mode_fromJson_iff, toList_strs,
    toList_arr_map_iff, AclRule.fromJson_iff, Option.some.injEq, exists_eq_left']
  constructor
  · rintro ⟨mode, hmode, groups, hgroups, rules, hrules, rfl⟩
    exact ⟨groups, hgroups, rfl, hmode, hrules, rfl, rfl⟩
  · rintro ⟨groups, hgroups, rfl, hmode, hrules, hisolated, hbypass⟩
    refine ⟨parsed.mode, hmode, parsed.groups, hgroups, parsed.rules, hrules, ?_⟩
    rw [← hisolated, ← hbypass]

/-- The data plane accepts a policy of the control plane, and reads the same policy, exactly where
the ports and the priorities of its rules fit the data plane's types. -/
theorem interchange_iff (p : AclPolicy) :
    (∃ parsed, Acl.AclPolicy.fromJson p.toJson = some parsed ∧ p.Same parsed) ↔
      ∀ rule ∈ p.rules, rule.Fits := by
  constructor
  · rintro ⟨parsed, hparsed, -⟩ rule hrule
    obtain ⟨groups, -, -, -, hrules, -⟩ := (p.fromJson_iff parsed).mp hparsed
    obtain ⟨r, hsame, hlt⟩ := exists_forall₂_iff.mp ⟨_, hrules⟩ rule hrule
    exact hsame.fits hlt
  · intro hfits
    obtain ⟨groups, hgroups, hlookup⟩ := toTable_obj toList_strs p.groups
    obtain ⟨mode, hmode⟩ : ∃ mode : Acl.PolicyMode, mode.text = p.mode := by
      have hpattern := p.mode_pattern
      simp only [List.mem_cons, List.not_mem_nil, or_false] at hpattern
      cases hpattern with
      | inl hdeny => exact ⟨.defaultDeny, hdeny.symm⟩
      | inr hallow => exact ⟨.defaultAllow, hallow.symm⟩
    have hexists : ∀ rule ∈ p.rules, ∃ r, AclRule.Same rule r ∧ rule.priority < 2 ^ 32 := by
      intro rule hrule
      obtain ⟨r, hsame⟩ := (hfits rule hrule).exists_same
      exact ⟨r, hsame, (hfits rule hrule).2⟩
    obtain ⟨rules, hrules⟩ := exists_forall₂_iff.mpr hexists
    refine ⟨⟨mode, groups, rules, p.isolatedDevices, p.bypassDevices⟩, ?_, hmode, hlookup,
      hrules.imp (fun _ _ h => h.1), rfl, rfl⟩
    exact (p.fromJson_iff _).mpr ⟨groups, hgroups, rfl, hmode, hrules, rfl, rfl⟩

def farPort : AclRule := { defaultRule with ports := [70000] }

/-- A rule with a port beyond 65535 makes the data plane refuse the policy. -/
theorem far_port_refused :
    ¬ ∀ p : AclPolicy, ∃ parsed, Acl.AclPolicy.fromJson p.toJson = some parsed ∧ p.Same parsed := by
  intro h
  obtain ⟨parsed, hparsed, -⟩ := h { defaultPolicy with rules := [farPort] }
  have hrefused : (Acl.AclPolicy.fromJson
      { defaultPolicy with rules := [farPort] : AclPolicy }.toJson).isSome = false := by
    decide +kernel
  rw [hparsed] at hrefused
  cases hrefused

end P2PMesh.ControlAcl
