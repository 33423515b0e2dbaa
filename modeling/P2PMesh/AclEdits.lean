import P2PMesh.Acl
import P2PMesh.Base.Run

namespace P2PMesh.Acl
open P2PMesh.Base
set_option autoImplicit true

def AclEngine.addRule (e : AclEngine) (rule : AclRule) : AclEngine :=
  { e with policy.rules := e.policy.rules ++ [rule] }

/-- The calls that edit the engine in place, without loading another policy. -/
inductive AclOp where
  | addRule (rule : AclRule)
  | addDeviceToGroup (groupName deviceId : String)
  | removeDeviceFromGroup (groupName deviceId : String)
  | registerDeviceIp (deviceId : String) (ip : Ipv4Addr)
  | isolateDevice (deviceId : String)
  | unisolateDevice (deviceId : String)
deriving DecidableEq

def AclEngine.step (e : AclEngine) : AclOp → AclEngine
  | .addRule rule => e.addRule rule
  | .addDeviceToGroup groupName deviceId => e.addDeviceToGroup groupName deviceId
  | .removeDeviceFromGroup groupName deviceId => e.removeDeviceFromGroup groupName deviceId
  | .registerDeviceIp deviceId ip => e.registerDeviceIp deviceId ip
  | .isolateDevice deviceId => e.isolateDevice deviceId
  | .unisolateDevice deviceId => e.unisolateDevice deviceId

def AclEngine.run (e : AclEngine) (ops : List AclOp) : AclEngine := ops.foldl AclEngine.step e

section Isolation

theorem AclEngine.removeDeviceFromGroup_devices (e : AclEngine) (groupName deviceId : String) :
    (e.removeDeviceFromGroup groupName deviceId).policy.bypassDevices = e.policy.bypassDevices ∧
      (e.removeDeviceFromGroup groupName deviceId).policy.isolatedDevices =
        e.policy.isolatedDevices := by
  rw [AclEngine.removeDeviceFromGroup]
  cases e.policy.groups[groupName]? with
  | none => exact ⟨rfl, rfl⟩
  | some members => exact ⟨rfl, rfl⟩

theorem AclEngine.step_bypassDevices (e : AclEngine) (op : AclOp) :
    (e.step op).policy.bypassDevices = e.policy.bypassDevices := by
  cases op with
  | addRule rule => rfl
  | addDeviceToGroup groupName deviceId => rfl
  | removeDeviceFromGroup groupName deviceId =>
    exact (e.removeDeviceFromGroup_devices groupName deviceId).1
  | registerDeviceIp deviceId ip => rfl
  | isolateDevice deviceId => rfl
  | unisolateDevice deviceId => rfl

theorem AclEngine.run_bypassDevices (e : AclEngine) (ops : List AclOp) :
    (e.run ops).policy.bypassDevices = e.policy.bypassDevices := by
  apply run_invariant AclEngine.step
    (I := fun e' : AclEngine => e'.policy.bypassDevices = e.policy.bypassDevices) rfl
  intro e' op h
  rw [step_bypassDevices, h]

theorem AclEngine.mem_isolateDevice (e : AclEngine) (deviceId d : String) :
    d ∈ (e.isolateDevice deviceId).policy.isolatedDevices ↔
      d ∈ e.policy.isolatedDevices ∨ d = deviceId := mem_pushAbsent

theorem AclEngine.step_isolated {e : AclEngine} (h : d ∈ e.policy.isolatedDevices)
    (hop : op ≠ .unisolateDevice d) : d ∈ (e.step op).policy.isolatedDevices := by
  cases op with
  | addRule rule => exact h
  | addDeviceToGroup groupName deviceId => exact h
  | removeDeviceFromGroup groupName deviceId =>
    rwa [AclEngine.step, (e.removeDeviceFromGroup_devices groupName deviceId).2]
  | registerDeviceIp deviceId ip => exact h
  | isolateDevice deviceId => exact (e.mem_isolateDevice deviceId d).mpr (Or.inl h)
  | unisolateDevice deviceId =>
    have hd : d ≠ deviceId := by
      intro he
      exact hop (by rw [he])
    exact List.mem_filter.mpr ⟨h, decide_eq_true hd⟩

theorem AclEngine.run_isolated {e : AclEngine} {ops : List AclOp}
    (h : d ∈ e.policy.isolatedDevices) (hops : .unisolateDevice d ∉ ops) :
    d ∈ (e.run ops).policy.isolatedDevices := by
  have hg : Guarded AclEngine.step (fun _ op => op ≠ AclOp.unisolateDevice d) e ops := by
    apply Guarded.of_forall
    intro e' op hop he
    exact hops (he ▸ hop)
  exact hg.invariant (I := fun e' : AclEngine => d ∈ e'.policy.isolatedDevices) h
    (fun e' op h' hne => step_isolated h' hne)

variable {toLowercase : String → String}

theorem AclEngine.check_congr {e e' : AclEngine} (hr : e'.policy.rules = e.policy.rules)
    (hm : e'.policy.mode = e.policy.mode) (hg : e'.policy.groups = e.policy.groups)
    (hb : e'.Bypassed t ↔ e.Bypassed t) (hi : e'.Isolated t ↔ e.Isolated t) :
    e'.check toLowercase t = e.check toLowercase t := by
  obtain ⟨hbypass, hisolated, hrules⟩ := @AclEngine.check_decides toLowercase e t
  obtain ⟨hbypass', hisolated', hrules'⟩ := @AclEngine.check_decides toLowercase e' t
  by_cases h : e.Bypassed t
  · rw [hbypass h, hbypass' (hb.mpr h)]
  · by_cases h' : e.Isolated t
    · rw [hisolated h h', hisolated' (mt hb.mp h) (hi.mpr h')]
    · have hd := hrules' (mt hb.mp h) (mt hi.mp h')
      simp only [AclPolicy.Decides, AclEngine.Applies, hr, hm, hg] at hd
      exact AclPolicy.Decides.unique hd (hrules h h')

end Isolation

/-- From its isolation until it is lifted, whatever is edited meanwhile, a device exchanges
nothing with a device that is not bypassed; and isolating it leaves every other pair as it was. -/
theorem isolation_dominates (toLowercase : String → String) (e : AclEngine) (d : String) :
    (∀ before later, .unisolateDevice d ∉ later → ∀ t : Traffic,
      t.srcDevice = d ∨ t.dstDevice = d → ¬ e.Bypassed t →
        (((e.run before).isolateDevice d).run later).check toLowercase t = false) ∧
    ∀ before, ∀ t : Traffic, t.srcDevice ≠ d → t.dstDevice ≠ d →
      ((e.run before).isolateDevice d).check toLowercase t =
        (e.run before).check toLowercase t := by
  constructor
  · intro before later hl t ht hb
    have hd : d ∈ (((e.run before).isolateDevice d).run later).policy.isolatedDevices := by
      apply AclEngine.run_isolated _ hl
      exact (AclEngine.mem_isolateDevice _ d d).mpr (Or.inr rfl)
    have hbypass : ¬ (((e.run before).isolateDevice d).run later).Bypassed t := by
      rw [AclEngine.Bypassed, AclEngine.run_bypassDevices]
      change ¬ (t.srcDevice ∈ (e.run before).policy.bypassDevices ∨
        t.dstDevice ∈ (e.run before).policy.bypassDevices)
      rwa [AclEngine.run_bypassDevices]
    apply (AclEngine.check_decides _ t).2.1 hbypass
    rcases ht with ht | ht
    · exact Or.inl (by rwa [ht])
    · exact Or.inr (by rwa [ht])
  · intro before t hs ht
    have hi : ((e.run before).isolateDevice d).Isolated t ↔ (e.run before).Isolated t := by
      rw [AclEngine.Isolated, AclEngine.mem_isolateDevice, AclEngine.mem_isolateDevice,
        or_iff_left hs, or_iff_left ht, AclEngine.Isolated]
    exact AclEngine.check_congr (e := e.run before) rfl rfl rfl Iff.rfl hi

section AddRule
variable {toLowercase : String → String} {policy : AclPolicy} {p : AclRule → Bool}

theorem filter_concat_of_neg (h : ¬ p rule = true) :
    (policy.rules ++ [rule]).filter p = policy.rules.filter p := by
  rw [List.filter_append, List.filter_cons_of_neg h, List.filter_nil, List.append_nil]

theorem filter_concat_of_pos (h : p rule = true) :
    (policy.rules ++ [rule]).filter p = policy.rules.filter p ++ [rule] := by
  rw [List.filter_append, List.filter_cons_of_pos h, List.filter_nil]

theorem AclPolicy.Decides.concat (h : policy.Decides p v)
    (h' : { policy with rules := policy.rules ++ [rule] }.Decides p v') :
    v' = v ∨ (p rule = true ∧ (∀ r ∈ policy.rules, p r = true → r.priority < rule.priority) ∧
      v' = decide (rule.action = .allow)) := by
  by_cases hp : p rule = true
  · rcases h' with ⟨x, hx, hv⟩ | ⟨hn, -⟩
    · rw [filter_concat_of_pos hp, isFirstMax_concat] at hx
      rcases hx with ⟨hx, -⟩ | ⟨hx, hlt⟩
      · exact Or.inl ((h.unique (Or.inl ⟨x, hx, hv⟩)).symm)
      · refine Or.inr ⟨hp, ?_, by rw [hv, hx]⟩
        intro r hr hpr
        exact hlt r (List.mem_filter.mpr ⟨hr, hpr⟩)
    · have hno := hn rule (List.mem_append_right _ List.mem_cons_self)
      exact (Bool.false_ne_true (hno.symm.trans hp)).elim
  · apply Or.inl
    rcases h' with ⟨x, hx, hv⟩ | ⟨hn, hv⟩
    · rw [filter_concat_of_neg hp] at hx
      exact (h.unique (Or.inl ⟨x, hx, hv⟩)).symm
    · have hn' : ∀ r ∈ policy.rules, p r = false := fun r hr => hn r (List.mem_append_left _ hr)
      exact (h.unique (Or.inr ⟨hn', hv⟩)).symm

theorem AclEngine.addRule_check (e : AclEngine) (rule : AclRule) (t : Traffic) :
    (e.addRule rule).check toLowercase t = e.check toLowercase t ∨
      (e.Applies toLowercase t rule ∧
        (∀ r ∈ e.policy.rules, e.Applies toLowercase t r → r.priority < rule.priority) ∧
        (e.addRule rule).check toLowercase t = decide (rule.action = .allow)) := by
  obtain ⟨hbypass, hisolated, hrules⟩ := @AclEngine.check_decides toLowercase e t
  obtain ⟨hbypass', hisolated', hrules'⟩ :=
    @AclEngine.check_decides toLowercase (e.addRule rule) t
  by_cases h : e.Bypassed t
  · exact Or.inl ((hbypass' h).trans (hbypass h).symm)
  · by_cases h' : e.Isolated t
    · exact Or.inl ((hisolated' h h').trans (hisolated h h').symm)
    · simpa only [decide_eq_true_eq] using (hrules h h').concat (hrules' h h')

end AddRule

/-- A rule added to the policy can only move verdicts to its own action, and only where it
applies and no rule of its priority or above does. -/
theorem addRule_monotone (toLowercase : String → String) (e : AclEngine) (rule : AclRule)
    (t : Traffic) :
    (rule.action = .allow → e.check toLowercase t = true →
      (e.addRule rule).check toLowercase t = true) ∧
    (rule.action = .deny → e.check toLowercase t = false →
      (e.addRule rule).check toLowercase t = false) ∧
    ((e.addRule rule).check toLowercase t ≠ e.check toLowercase t →
      e.Applies toLowercase t rule ∧
        ∀ r ∈ e.policy.rules, rule.priority ≤ r.priority → ¬ e.Applies toLowercase t r) := by
  rcases e.addRule_check rule t with h | ⟨happ, hlt, h⟩
  · rw [h]
    exact ⟨fun _ hc => hc, fun _ hc => hc, fun hc => (hc rfl).elim⟩
  · rw [h]
    refine ⟨?_, ?_, ?_⟩
    · intro ha _
      rw [ha]
      rfl
    · intro ha _
      rw [ha]
      rfl
    · intro _
      refine ⟨happ, ?_⟩
      intro r hr hle hr'
      exact absurd (hlt r hr hr') (Nat.not_lt.mpr hle)

end P2PMesh.Acl
