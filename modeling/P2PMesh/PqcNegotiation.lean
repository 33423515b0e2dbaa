import Mathlib.Data.List.Induction
import P2PMesh.Base.Negotiation
import P2PMesh.Base.Run

namespace P2PMesh.PostQuantum
open P2PMesh.Base
set_option autoImplicit true

inductive PqcAlgorithm where
  | mlKem512
  | mlKem768
  | mlKem1024
  | mlDsa44
  | mlDsa65
  | mlDsa87
  | slhDsa128s
  | slhDsa128f
  | hybridX25519MlKem768
  | hybridEd25519MlDsa65
deriving DecidableEq

def PqcAlgorithm.isKem : PqcAlgorithm → Bool
  | .mlKem512 | .mlKem768 | .mlKem1024 | .hybridX25519MlKem768 => true
  | _ => false

def PqcAlgorithm.isSignature : PqcAlgorithm → Bool
  | .mlDsa44 | .mlDsa65 | .mlDsa87 | .slhDsa128s | .slhDsa128f | .hybridEd25519MlDsa65 => true
  | _ => false

def PqcAlgorithm.securityLevel : PqcAlgorithm → UInt8
  | .mlKem512 => 1
  | .mlKem768 => 3
  | .mlKem1024 => 5
  | .mlDsa44 => 2
  | .mlDsa65 => 3
  | .mlDsa87 => 5
  | .slhDsa128s | .slhDsa128f => 1
  | .hybridX25519MlKem768 => 3
  | .hybridEd25519MlDsa65 => 3

/-- The lists are in order of preference. -/
structure PqcCapabilities where
  kems : List PqcAlgorithm
  signatures : List PqcAlgorithm
  preferHybrid : Bool
  minSecurityLevel : UInt8

def PqcCapabilities.default : PqcCapabilities where
  kems := [.hybridX25519MlKem768, .mlKem768, .mlKem1024]
  signatures := [.hybridEd25519MlDsa65, .mlDsa65, .mlDsa87]
  preferHybrid := true
  minSecurityLevel := 3

/-- The levels that reach the minimum of both peers. -/
def meets (c c' : PqcCapabilities) (a : PqcAlgorithm) : Bool :=
  decide (max c.minSecurityLevel c'.minSecurityLevel ≤ a.securityLevel)

/-- A key encapsulation and a signature, each the first of one's own that both peers have. -/
def negotiatePqc (c remote : PqcCapabilities) : Option (PqcAlgorithm × PqcAlgorithm) := do
  let kem ← firstCommon (meets c remote) c.kems remote.kems
  let sig ← firstCommon (meets c remote) c.signatures remote.signatures
  return (kem, sig)

/-- The counters are atomic and wrap. -/
structure PqcEngine where
  capabilities : PqcCapabilities
  activeKem : Option PqcAlgorithm
  activeSignature : Option PqcAlgorithm
  keyGenerations : UInt64
  encapsulations : UInt64
  signatures : UInt64

def PqcEngine.withCapabilities (capabilities : PqcCapabilities) : PqcEngine :=
  ⟨capabilities, none, none, 0, 0, 0⟩

def PqcEngine.new : PqcEngine := .withCapabilities .default

/-- The keys and secrets themselves are random bytes. -/
inductive PqcOp where
  | negotiate (remote : PqcCapabilities)
  | generateHybridKeypair
  | encapsulate

section Engine
variable (e : PqcEngine)

def PqcEngine.negotiate (remote : PqcCapabilities) : Bool × PqcEngine :=
  match negotiatePqc e.capabilities remote with
  | some (kem, sig) => (true, { e with activeKem := some kem, activeSignature := some sig })
  | none => (false, e)

def PqcEngine.step : PqcOp → PqcEngine
  | .negotiate remote => (e.negotiate remote).2
  | .generateHybridKeypair => { e with keyGenerations := e.keyGenerations + 1 }
  | .encapsulate => { e with encapsulations := e.encapsulations + 1 }

def PqcEngine.run (ops : List PqcOp) : PqcEngine := ops.foldl PqcEngine.step e

end Engine

section Agreement
variable {c c' : PqcCapabilities}

theorem max_le_level {m m' level : UInt8} : max m m' ≤ level ↔ m ≤ level ∧ m' ≤ level := by
  change (if m ≤ m' then m' else m) ≤ level ↔ m ≤ level ∧ m' ≤ level
  split
  · next h => exact (and_iff_right_of_imp (fun h' => UInt8.le_trans h h')).symm
  · next h =>
    have hle : m' ≤ m := UInt8.le_of_lt (UInt8.not_le.mp h)
    exact (and_iff_left_of_imp (fun h' => UInt8.le_trans hle h')).symm

theorem meets_iff {a : PqcAlgorithm} : meets c c' a = true ↔
    c.minSecurityLevel ≤ a.securityLevel ∧ c'.minSecurityLevel ≤ a.securityLevel := by
  rw [meets, decide_eq_true_eq, max_le_level]

theorem meets_swap (c c' : PqcCapabilities) : meets c c' = meets c' c := by
  funext a
  rw [Bool.eq_iff_iff, meets_iff, meets_iff, and_comm]

theorem negotiatePqc_eq_some_iff : negotiatePqc c c' = some (kem, sig) ↔
    Favourite (meets c c') c.kems c'.kems kem ∧
      Favourite (meets c c') c.signatures c'.signatures sig := by
  rw [← firstCommon_eq_some_iff, ← firstCommon_eq_some_iff, negotiatePqc]
  cases firstCommon (meets c c') c.kems c'.kems with
  | none => exact iff_of_false (by rintro ⟨⟩) (by rintro ⟨⟨⟩, -⟩)
  | some k =>
    cases firstCommon (meets c c') c.signatures c'.signatures with
    | none => exact iff_of_false (by rintro ⟨⟩) (by rintro ⟨-, ⟨⟩⟩)
    | some s => simp only [Option.pure_def, Option.bind_eq_bind, Option.bind_some,
        Option.some.injEq, Prod.mk.injEq]

theorem negotiatePqc_isSome (c c' : PqcCapabilities) : (negotiatePqc c c').isSome =
    ((firstCommon (meets c c') c.kems c'.kems).isSome &&
      (firstCommon (meets c c') c.signatures c'.signatures).isSome) := by
  rw [negotiatePqc]
  cases firstCommon (meets c c') c.kems c'.kems with
  | none => rfl
  | some kem => cases firstCommon (meets c c') c.signatures c'.signatures <;> rfl

/-- Two peers either both find algorithms or both find none, and they find the same ones exactly
if among the algorithms that both have and find strong enough there is a pair that both of them
rank first. -/
theorem negotiatePqc_agree_iff (c c' : PqcCapabilities) :
    (negotiatePqc c c').isSome = (negotiatePqc c' c).isSome ∧
      ∀ kem sig, negotiatePqc c c' = some (kem, sig) ∧ negotiatePqc c' c = some (kem, sig) ↔
        (Favourite (meets c c') c.kems c'.kems kem ∧
          Favourite (meets c c') c'.kems c.kems kem) ∧
        (Favourite (meets c c') c.signatures c'.signatures sig ∧
          Favourite (meets c c') c'.signatures c.signatures sig) := by
  constructor
  · rw [negotiatePqc_isSome, negotiatePqc_isSome, ← meets_swap c c',
      firstCommon_isSome_swap _ c.kems, firstCommon_isSome_swap _ c.signatures]
  · intro kem sig
    rw [negotiatePqc_eq_some_iff, negotiatePqc_eq_some_iff, ← meets_swap c c', and_and_and_comm]

end Agreement

/-- An algorithm of one's own that is strong enough for oneself. -/
structure PqcCapabilities.Offers (c : PqcCapabilities) (own : List PqcAlgorithm)
    (a : PqcAlgorithm) : Prop where
  own : a ∈ own
  level : c.minSecurityLevel ≤ a.securityLevel

section Forced
variable {c : PqcCapabilities}

theorem PqcCapabilities.offers_of_common {c' : PqcCapabilities} {own theirs : List PqcAlgorithm}
    (h : Common (meets c c') own theirs a) : c.Offers own a :=
  ⟨h.mine, (meets_iff.mp h.ok).1⟩

/-- An advertisement of just one pair of algorithms, of any level. -/
def onlyPair (kem sig : PqcAlgorithm) : PqcCapabilities where
  kems := [kem]
  signatures := [sig]
  preferHybrid := false
  minSecurityLevel := 0

theorem PqcCapabilities.Offers.meets_onlyPair {own : List PqcAlgorithm} (h : c.Offers own a)
    (kem sig : PqcAlgorithm) :
    meets c (onlyPair kem sig) a = true :=
  meets_iff.mpr ⟨h.level, UInt8.zero_le⟩

theorem exists_negotiatePqc_iff : (∃ remote, negotiatePqc c remote = some (kem, sig)) ↔
    c.Offers c.kems kem ∧ c.Offers c.signatures sig := by
  constructor
  · rintro ⟨remote, h⟩
    rw [negotiatePqc_eq_some_iff] at h
    exact ⟨PqcCapabilities.offers_of_common h.1.common,
      PqcCapabilities.offers_of_common h.2.common⟩
  · rintro ⟨hkem, hsig⟩
    refine ⟨onlyPair kem sig, negotiatePqc_eq_some_iff.mpr ⟨?_, ?_⟩⟩
    · exact firstCommon_eq_some_iff.mp
        (firstCommon_singleton hkem.own (hkem.meets_onlyPair kem sig))
    · exact firstCommon_eq_some_iff.mp
        (firstCommon_singleton hsig.own (hsig.meets_onlyPair kem sig))

theorem PqcEngine.run_capabilities (e : PqcEngine) (ops : List PqcOp) :
    (e.run ops).capabilities = e.capabilities := by
  refine run_invariant (I := fun e' : PqcEngine => e'.capabilities = e.capabilities) _ rfl ?_ ops
  intro e' op he
  cases op with
  | negotiate remote =>
    rw [PqcEngine.step, PqcEngine.negotiate]
    split
    · exact he
    · exact he
  | generateHybridKeypair => exact he
  | encapsulate => exact he

/-- The pair that a call agrees on. -/
def PqcOp.agreed (c : PqcCapabilities) : PqcOp → Option (PqcAlgorithm × PqcAlgorithm)
  | .negotiate remote => negotiatePqc c remote
  | _ => none

theorem PqcEngine.step_active (e : PqcEngine) (op : PqcOp) :
    (e.step op).activeKem = ((op.agreed e.capabilities).map (·.1)).or e.activeKem ∧
      (e.step op).activeSignature =
        ((op.agreed e.capabilities).map (·.2)).or e.activeSignature := by
  cases op with
  | negotiate remote =>
    rw [PqcEngine.step, PqcEngine.negotiate, PqcOp.agreed]
    cases negotiatePqc e.capabilities remote with
    | none => exact ⟨rfl, rfl⟩
    | some pair => exact ⟨rfl, rfl⟩
  | generateHybridKeypair => exact ⟨rfl, rfl⟩
  | encapsulate => exact ⟨rfl, rfl⟩

/-- What is active is what was agreed on last, however many peers there has been no agreement with
since. -/
theorem PqcEngine.run_active (c : PqcCapabilities) (ops : List PqcOp) :
    ((PqcEngine.withCapabilities c).run ops).activeKem =
        ((ops.filterMap (·.agreed c)).getLast?).map (·.1) ∧
      ((PqcEngine.withCapabilities c).run ops).activeSignature =
        ((ops.filterMap (·.agreed c)).getLast?).map (·.2) := by
  induction ops using List.reverseRecOn with
  | nil => exact ⟨rfl, rfl⟩
  | append_singleton ops op ih =>
    have hc : ((PqcEngine.withCapabilities c).run ops).capabilities = c :=
      (PqcEngine.withCapabilities c).run_capabilities ops
    have hstep := ((PqcEngine.withCapabilities c).run ops).step_active op
    have hlast : ([op].filterMap (·.agreed c)).getLast? = op.agreed c := by
      rw [List.filterMap_cons, List.filterMap_nil]
      cases op.agreed c <;> rfl
    rw [hc, ih.1, ih.2] at hstep
    rw [PqcEngine.run, List.foldl_append, List.filterMap_append, List.getLast?_append, hlast,
      Option.map_or, Option.map_or]
    exact hstep

/-- At any time of its life, an engine can be brought to a pair of algorithms by whoever writes
the advertisement of its peer exactly if both are on its own lists and strong enough for itself;
what the peer really has and asks for plays no part. Nothing else is ever active. -/
theorem PqcEngine.run_negotiate_iff (c : PqcCapabilities) (ops : List PqcOp)
    (kem sig : PqcAlgorithm) :
    ((∃ remote e, ((PqcEngine.withCapabilities c).run ops).negotiate remote = (true, e) ∧
        e.activeKem = some kem ∧ e.activeSignature = some sig) ↔
      c.Offers c.kems kem ∧ c.Offers c.signatures sig) ∧
    (((PqcEngine.withCapabilities c).run ops).activeKem = some kem →
      ((PqcEngine.withCapabilities c).run ops).activeSignature = some sig →
        c.Offers c.kems kem ∧ c.Offers c.signatures sig) := by
  have hc : ((PqcEngine.withCapabilities c).run ops).capabilities = c :=
    (PqcEngine.withCapabilities c).run_capabilities ops
  rw [← exists_negotiatePqc_iff]
  constructor
  · apply exists_congr
    intro remote
    rw [PqcEngine.negotiate, hc]
    cases negotiatePqc c remote with
    | none => exact iff_of_false (by rintro ⟨e, ⟨⟩, -⟩) (by rintro ⟨⟩)
    | some pair =>
      rw [Option.some.injEq, Prod.ext_iff]
      constructor
      · rintro ⟨e, ⟨⟩, hkem, hsig⟩
        exact ⟨Option.some.inj hkem, Option.some.inj hsig⟩
      · rintro ⟨rfl, rfl⟩
        exact ⟨_, rfl, rfl, rfl⟩
  · intro hkem hsig
    have hactive := PqcEngine.run_active c ops
    rw [hkem, hsig] at hactive
    cases hlast : (ops.filterMap (·.agreed c)).getLast? with
    | none =>
      rw [hlast] at hactive
      cases hactive.1
    | some pair =>
      rw [hlast] at hactive
      obtain ⟨op, -, hop⟩ := List.mem_filterMap.mp (List.mem_of_getLast? hlast)
      have hpair : pair = (kem, sig) := by
        rw [Prod.ext_iff]
        exact ⟨(Option.some.inj hactive.1).symm, (Option.some.inj hactive.2).symm⟩
      cases op with
      | negotiate remote => exact ⟨remote, hpair ▸ hop⟩
      | generateHybridKeypair => cases hop
      | encapsulate => cases hop

end Forced

end P2PMesh.PostQuantum
