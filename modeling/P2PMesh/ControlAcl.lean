import P2PMesh.Base.Table

namespace P2PMesh.ControlAcl
open P2PMesh.Base
set_option autoImplicit true

/-- A rule as the control plane's schema admits it. -/
structure AclRule where
  id : Option String
  action : String
  src : String
  dst : String
  protocol : String
  ports : List Int
  srcCidrs : List String
  priority : Int
  action_pattern : action ∈ ["allow", "deny"]
  src_nonempty : 1 ≤ src.length
  dst_nonempty : 1 ≤ dst.length
  protocol_pattern : protocol ∈ ["any", "tcp", "udp", "icmp"]
  priority_nonneg : 0 ≤ priority
deriving DecidableEq

structure AclPolicy where
  mode : String
  groups : Std.TreeMap String (List String)
  rules : List AclRule
  isolatedDevices : List String
  bypassDevices : List String
  mode_pattern : mode ∈ ["default-deny", "default-allow"]

def defaultRule : AclRule where
  id := some "rule-default-icmp"
  action := "allow"
  src := "*"
  dst := "*"
  protocol := "icmp"
  ports := []
  srcCidrs := []
  priority := 0
  action_pattern := by decide
  src_nonempty := by decide
  dst_nonempty := by decide
  protocol_pattern := by decide
  priority_nonneg := by decide

/-- The policy that is in memory before anything has been loaded. -/
def defaultPolicy : AclPolicy where
  mode := "default-deny"
  groups := Std.TreeMap.ofList [("admin", []), ("database", []), ("web", [])]
  rules := [defaultRule]
  isolatedDevices := []
  bypassDevices := ["control-plane"]
  mode_pattern := by decide

structure AddDeviceToGroupRequest where
  deviceId : String
  nonempty : 1 ≤ deviceId.length

/-- A request that may change the policy. The id of a new rule is drawn by the service. -/
inductive AclUpdate where
  | putPolicy (policy : AclPolicy)
  | addDevice (group : String) (request : AddDeviceToGroupRequest)
  | removeDevice (group deviceId : String)
  | addRule (rule : AclRule) (drawn : String)
  | removeRule (ruleId : String)
  | isolate (deviceId : String) (reason : Option String)
  | unisolate (deviceId : String)

/-- What a request makes of the policy: it is saved under a comment, or left as it is, or the
request is answered with 404. -/
inductive Outcome where
  | saved (policy : AclPolicy) (comment : String)
  | unchanged
  | notFound (detail : String)

section Policy
variable (p : AclPolicy)

def AclPolicy.members (group : String) : List String := p.groups[group]?.getD []

def updatePolicy (policy : AclPolicy) : Outcome := .saved policy "policy replaced via PUT"

def AclPolicy.addDeviceToGroup (group : String) (request : AddDeviceToGroupRequest) : Outcome :=
  if request.deviceId ∈ p.members group then .unchanged
  else
    .saved { p with groups := p.groups.insert group (p.members group ++ [request.deviceId]) }
      ("added device " ++ request.deviceId ++ " to group " ++ group)

def AclPolicy.removeDeviceFromGroup (group deviceId : String) : Outcome :=
  match p.groups[group]? with
  | none => .notFound ("Group '" ++ group ++ "' not found")
  | some devices =>
    if deviceId ∉ devices then
      .notFound ("Device '" ++ deviceId ++ "' not in group '" ++ group ++ "'")
    else
      .saved { p with groups := p.groups.insert group (devices.erase deviceId) }
        ("removed device " ++ deviceId ++ " from group " ++ group)

def AclPolicy.addRule (rule : AclRule) (drawn : String) : Outcome :=
  .saved { p with rules := p.rules ++ [{ rule with id := some drawn }] } ("added rule " ++ drawn)

def AclPolicy.removeRule (ruleId : String) : Outcome :=
  if p.rules.any (fun rule => rule.id = some ruleId) then
    .saved { p with rules := p.rules.eraseP (fun rule => rule.id = some ruleId) }
      ("removed rule " ++ ruleId)
  else .notFound ("Rule '" ++ ruleId ++ "' not found")

def AclPolicy.isolateDevice (deviceId : String) (reason : Option String) : Outcome :=
  if deviceId ∈ p.isolatedDevices then .unchanged
  else
    let told := match reason with
      | none | some "" => "unspecified"
      | some text => text
    .saved { p with isolatedDevices := p.isolatedDevices ++ [deviceId] }
      ("isolated device " ++ deviceId ++ ": " ++ told)

def AclPolicy.unisolateDevice (deviceId : String) : Outcome :=
  if deviceId ∉ p.isolatedDevices then .notFound ("Device '" ++ deviceId ++ "' is not isolated")
  else
    .saved { p with isolatedDevices := p.isolatedDevices.erase deviceId }
      ("un-isolated device " ++ deviceId)

def AclPolicy.update : AclUpdate → Outcome
  | .putPolicy policy => updatePolicy policy
  | .addDevice group request => p.addDeviceToGroup group request
  | .removeDevice group deviceId => p.removeDeviceFromGroup group deviceId
  | .addRule rule drawn => p.addRule rule drawn
  | .removeRule ruleId => p.removeRule ruleId
  | .isolate deviceId reason => p.isolateDevice deviceId reason
  | .unisolate deviceId => p.unisolateDevice deviceId

end Policy

end P2PMesh.ControlAcl
