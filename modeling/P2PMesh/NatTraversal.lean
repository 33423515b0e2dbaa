import P2PMesh.Base.Ipv6Text
import P2PMesh.Base.PythonText

namespace P2PMesh.NatTraversal
open P2PMesh.Base
set_option autoImplicit true

/-- A socket address as it is compared, with the fields that only IPv6 has. -/
inductive MappedAddr where
  | v4 (ip : Ipv4Addr) (port : UInt16)
  | v6 (ip : Ipv6Addr) (port : UInt16) (flowinfo scopeId : UInt32)
deriving DecidableEq

def MappedAddr.ip : MappedAddr → IpAddr
  | .v4 ip _ => .v4 ip
  | .v6 ip _ _ _ => .v6 ip

def MappedAddr.port : MappedAddr → UInt16
  | .v4 _ port => port
  | .v6 _ port _ _ => port

/-- The address as it is reported. -/
def MappedAddr.text (a : MappedAddr) : List Char :=
  NetParser.showIp a.ip ++ ':' :: decimal a.port.toNat

inductive NatClassification where
  | openNat
  | fullCone
  | restrictedCone
  | portRestricted
  | symmetric
  | unknown
deriving DecidableEq

def NatClassification.asStr : NatClassification → String
  | .openNat => "open"
  | .fullCone => "full_cone"
  | .restrictedCone => "restricted_cone"
  | .portRestricted => "port_restricted"
  | .symmetric => "symmetric"
  | .unknown => "unknown"

/-- What the servers that were asked have answered, with their names. -/
abbrev ProbeResults := List (String × Except String MappedAddr)

def successes (results : ProbeResults) : List MappedAddr :=
  results.filterMap (fun r => r.2.toOption)

def classifyNat (results : ProbeResults) : NatClassification :=
  match successes results with
  | [] => .unknown
  | [_] => .unknown
  | first :: rest =>
    if (first :: rest).all (fun a => a = first) then .fullCone
    else
      let sameIp := (first :: rest).all (fun a => a.ip = first.ip)
      if sameIp then .symmetric else .symmetric

/-- The text up to the last colon and the number behind it, if there is one. -/
def parseMapped (addr : List Char) : Option (List Char × Int) :=
  (Python.rsplitOnce ':' addr).bind fun parts =>
    (Python.int parts.2).map (fun port => (parts.1, port))

/-- What both functions of the control plane do, with the names that they have for the types. -/
def classifyTexts (unknown fullCone symmetric : String) (mappedAddrs : List (List Char)) :
    String :=
  if mappedAddrs = [] then unknown
  else
    match mappedAddrs.filterMap parseMapped with
    | [] => unknown
    | [_] => fullCone
    | first :: rest =>
      if (first :: rest).all (fun a => a = first) then fullCone
      else if (first :: rest).all (fun a => a.1 = first.1) then symmetric
      else unknown

def classifyNatFromAddresses : List (List Char) → String :=
  classifyTexts "unknown" "full_cone" "symmetric"

def NATType.unknown : String := "unknown"
def NATType.fullCone : String := "full_cone"
def NATType.symmetric : String := "symmetric"

def classifyNatFromMapped : List (List Char) → String :=
  classifyTexts NATType.unknown NATType.fullCone NATType.symmetric

/-- The data plane and both functions of the control plane name the same type. -/
structure Agrees (results : ProbeResults) : Prop where
  fromAddresses : classifyNatFromAddresses ((successes results).map MappedAddr.text) =
    (classifyNat results).asStr
  fromMapped : classifyNatFromMapped ((successes results).map MappedAddr.text) =
    (classifyNat results).asStr

/-- Nothing was mapped, or it was mapped at least twice and to one IP address: to one address each
time or to different ports. -/
def Unambiguous (addrs : List MappedAddr) : Prop :=
  addrs = [] ∨ 2 ≤ addrs.length ∧ (∀ a ∈ addrs, ∀ b ∈ addrs, a.ip = b.ip) ∧
    ((∀ a ∈ addrs, ∀ b ∈ addrs, a = b) ∨ ∃ a ∈ addrs, ∃ b ∈ addrs, a.port ≠ b.port)

section Classification

/-- What the control plane reads of an address. -/
def MappedAddr.parsed (a : MappedAddr) : List Char × Int :=
  (NetParser.showIp a.ip, (a.port.toNat : Int))

theorem colon_not_mem_decimal (n : Nat) : ':' ∉ decimal n := by
  intro hmem
  rw [decimal, NetParser.toDigits_eq_map (by decide)] at hmem
  obtain ⟨d, hd, hchar⟩ := List.mem_map.mp hmem
  have hlt : d < 10 := NetParser.writtenDigits_lt (by decide) d hd
  clear hd hmem
  interval_cases d <;> exact absurd hchar (by decide)

theorem parseMapped_text (a : MappedAddr) : parseMapped a.text = some a.parsed := by
  have hport : a.port.toNat < 10 ^ Python.maxStrDigits :=
    Nat.lt_of_lt_of_le a.port.toNat_lt
      (Nat.le_trans (show 2 ^ 16 ≤ 10 ^ 5 by decide) (Nat.pow_le_pow_right (by decide) (by decide)))
  rw [parseMapped, MappedAddr.text, Python.rsplitOnce_append _ (colon_not_mem_decimal _),
    Option.bind_some, Python.int_decimal hport]
  rfl

theorem parsed_eq_iff {a b : MappedAddr} : a.parsed = b.parsed ↔ a.ip = b.ip ∧ a.port = b.port := by
  rw [MappedAddr.parsed, MappedAddr.parsed, Prod.mk.injEq, Int.natCast_inj, UInt16.toNat_inj]
  exact and_congr_left' ⟨fun h => NetParser.showIp_injective h, fun h => congrArg _ h⟩

theorem filterMap_text (addrs : List MappedAddr) :
    (addrs.map MappedAddr.text).filterMap parseMapped = addrs.map MappedAddr.parsed := by
  rw [List.filterMap_map, ← List.filterMap_eq_map]
  exact congrArg (fun f => addrs.filterMap f) (funext parseMapped_text)

theorem forall_forall_iff {f : α → β} {l : List α} {a : α} (ha : a ∈ l) :
    (∀ x ∈ l, ∀ y ∈ l, f x = f y) ↔ ∀ x ∈ l, f x = f a :=
  ⟨fun h x hx => h x hx a ha, fun h x hx y hy => (h x hx).trans (h y hy).symm⟩

theorem exists_exists_iff {f : α → β} {l : List α} {a : α} (ha : a ∈ l) :
    (∃ x ∈ l, ∃ y ∈ l, f x ≠ f y) ↔ ∃ x ∈ l, f x ≠ f a := by
  have h := not_congr (forall_forall_iff (f := f) ha)
  push Not at h
  exact h

theorem unambiguous_iff (first second : MappedAddr) (rest : List MappedAddr) :
    Unambiguous (first :: second :: rest) ↔
      (∀ a ∈ first :: second :: rest, a.ip = first.ip) ∧
        ((∀ a ∈ first :: second :: rest, a = first) ∨
          ∃ a ∈ first :: second :: rest, a.port ≠ first.port) := by
  have hfirst : first ∈ first :: second :: rest := List.mem_cons_self
  rw [Unambiguous, or_iff_right (List.cons_ne_nil _ _),
    and_iff_right (show 2 ≤ (first :: second :: rest).length from Nat.le_add_left 2 rest.length),
    forall_forall_iff hfirst, exists_exists_iff hfirst]
  exact and_congr_right' (or_congr_left (forall_forall_iff (f := id) hfirst))

theorem classifyNat_eq {results : ProbeResults} {first second : MappedAddr}
    {rest : List MappedAddr} (h : successes results = first :: second :: rest) :
    (classifyNat results).asStr =
      if ∀ a ∈ first :: second :: rest, a = first then "full_cone" else "symmetric" := by
  have hall : (first :: second :: rest).all (fun a => a = first) =
      decide (∀ a ∈ first :: second :: rest, a = first) := by
    rw [Bool.eq_iff_iff, List.all_eq_true, decide_eq_true_eq]
    exact forall₂_congr (fun a _ => decide_eq_true_iff)
  rw [classifyNat, h]
  dsimp only
  rw [hall, ite_self]
  by_cases hsame : ∀ a ∈ first :: second :: rest, a = first
  · rw [if_pos (decide_eq_true hsame), if_pos hsame]
    rfl
  · rw [if_neg (by rw [decide_eq_true_eq]; exact hsame), if_neg hsame]
    rfl

theorem classifyTexts_eq (unknown fullCone symmetric : String) (first second : MappedAddr)
    (rest : List MappedAddr) :
    classifyTexts unknown fullCone symmetric ((first :: second :: rest).map MappedAddr.text) =
      if ∀ a ∈ first :: second :: rest, a.ip = first.ip then
        if ∀ a ∈ first :: second :: rest, a.port = first.port then fullCone else symmetric
      else unknown := by
  have hip : ((first :: second :: rest).map MappedAddr.parsed).all
      (fun p => p.1 = first.parsed.1) =
        decide (∀ a ∈ first :: second :: rest, a.ip = first.ip) := by
    rw [Bool.eq_iff_iff, List.all_map, List.all_eq_true, decide_eq_true_eq]
    refine forall₂_congr (fun a _ => ?_)
    rw [Function.comp_apply, decide_eq_true_iff]
    exact ⟨fun h => NetParser.showIp_injective h, fun h => congrArg NetParser.showIp h⟩
  have hparsed : ((first :: second :: rest).map MappedAddr.parsed).all
      (fun p => p = first.parsed) = decide ((∀ a ∈ first :: second :: rest, a.ip = first.ip) ∧
        ∀ a ∈ first :: second :: rest, a.port = first.port) := by
    rw [Bool.eq_iff_iff, List.all_map, List.all_eq_true, decide_eq_true_eq, ← forall₂_and]
    refine forall₂_congr (fun a _ => ?_)
    rw [Function.comp_apply, decide_eq_true_iff, parsed_eq_iff]
  rw [classifyTexts, if_neg (fun h => List.cons_ne_nil _ _ (List.map_eq_nil_iff.mp h)),
    filterMap_text]
  change (if ((first :: second :: rest).map MappedAddr.parsed).all (fun p => p = first.parsed) then
    fullCone else if ((first :: second :: rest).map MappedAddr.parsed).all
      (fun p => p.1 = first.parsed.1) then symmetric else unknown) = _
  rw [hip, hparsed]
  simp only [decide_eq_true_eq]
  split
  · next h => rw [if_pos h.1, if_pos h.2]
  · next h =>
    split
    · next hsame => rw [if_neg (fun hport => h ⟨hsame, hport⟩)]
    · rfl

theorem classifications_eq_iff (first second : MappedAddr) (rest : List MappedAddr) :
    (if ∀ a ∈ first :: second :: rest, a.ip = first.ip then
        if ∀ a ∈ first :: second :: rest, a.port = first.port then "full_cone" else "symmetric"
      else "unknown") =
        (if ∀ a ∈ first :: second :: rest, a = first then "full_cone" else "symmetric") ↔
      Unambiguous (first :: second :: rest) := by
  rw [unambiguous_iff]
  by_cases hsame : ∀ a ∈ first :: second :: rest, a = first
  · have hip : ∀ a ∈ first :: second :: rest, a.ip = first.ip :=
      fun a ha => congrArg MappedAddr.ip (hsame a ha)
    have hport : ∀ a ∈ first :: second :: rest, a.port = first.port :=
      fun a ha => congrArg MappedAddr.port (hsame a ha)
    rw [if_pos hip, if_pos hport, if_pos hsame]
    exact iff_of_true rfl ⟨hip, .inl hsame⟩
  · rw [if_neg hsame, or_iff_right hsame]
    by_cases hip : ∀ a ∈ first :: second :: rest, a.ip = first.ip
    · rw [if_pos hip, and_iff_right hip]
      by_cases hport : ∀ a ∈ first :: second :: rest, a.port = first.port
      · rw [if_pos hport]
        refine iff_of_false (by decide) ?_
        rintro ⟨a, ha, hne⟩
        exact hne (hport a ha)
      · rw [if_neg hport]
        push Not at hport
        exact iff_of_true rfl hport
    · rw [if_neg hip]
      exact iff_of_false (by decide) (fun h => hip h.1)

theorem classifyNatFromMapped_eq : classifyNatFromMapped = classifyNatFromAddresses := rfl

end Classification

theorem classifications_agree_iff (results : ProbeResults) :
    Agrees results ↔ Unambiguous (successes results) := by
  have hboth : Agrees results ↔
      classifyNatFromAddresses ((successes results).map MappedAddr.text) =
        (classifyNat results).asStr :=
    ⟨fun h => h.fromAddresses, fun h => ⟨h, by rw [classifyNatFromMapped_eq]; exact h⟩⟩
  rw [hboth]
  match h : successes results with
  | [] =>
    rw [classifyNat, h]
    exact iff_of_true rfl (.inl rfl)
  | [a] =>
    rw [classifyNat, h, classifyNatFromAddresses, classifyTexts,
      if_neg (fun h => List.cons_ne_nil _ _ (List.map_eq_nil_iff.mp h)), filterMap_text]
    refine iff_of_false (show "full_cone" ≠ "unknown" by decide) ?_
    rintro (hnil | ⟨hlength, -⟩)
    · cases hnil
    · exact absurd hlength (by simp)
  | first :: second :: rest =>
    rw [classifyNat_eq h, classifyNatFromAddresses, classifyTexts_eq]
    exact classifications_eq_iff first second rest

/-- One address is unknown to the data plane and a full cone to the control plane; two IP addresses
are symmetric to the data plane and unknown to the control plane. -/
theorem classifications_disagree :
    ¬ Agrees [("stun1", .ok (.v4 0xC6336407 40000)), ("stun2", .error "STUN response timed out")] ∧
      ¬ Agrees [("stun1", .ok (.v4 0xC6336407 40000)), ("stun2", .ok (.v4 0xC6336408 40000))] := by
  constructor
  · intro h
    exact absurd h.fromAddresses (by decide +kernel)
  · intro h
    exact absurd h.fromAddresses (by decide +kernel)

end P2PMesh.NatTraversal
