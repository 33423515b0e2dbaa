import P2PMesh.Base.Bytes
import P2PMesh.Base.TimedTable
import P2PMesh.Multipath

namespace P2PMesh.Multipath
open P2PMesh.Base
set_option autoImplicit true

/-- The frames carry eight bytes, random ones in a challenge. -/
structure PathChallenge where
  data : ByteArr 8
deriving DecidableEq

structure PathResponse where
  data : ByteArr 8
deriving DecidableEq

/-- The challenge of each path with the time at which it was sent. -/
structure PathValidator where
  pending : Std.TreeMap PathId (ByteArr 8 × Nat)
  timeout : Nat

def PathValidator.new (timeout : Nat) : PathValidator := ⟨∅, timeout⟩

inductive ValidatorOp where
  | challenge (pathId : PathId) (data : ByteArr 8) (now : Nat)
  | validateResponse (pathId : PathId) (response : PathResponse) (now : Nat)
  | cleanupExpired (now : Nat)

section Validator
variable (v : PathValidator)

def PathValidator.challenge (pathId : PathId) (data : ByteArr 8) (now : Nat) :
    PathChallenge × PathValidator :=
  (⟨data⟩, { v with pending := v.pending.insert pathId (data, now) })

/-- The challenge stays where it is. -/
def PathValidator.validateResponse (pathId : PathId) (response : PathResponse) (now : Nat) :
    Bool :=
  match v.pending[pathId]? with
  | some (expected, sentAt) => decide (expected = response.data ∧ now - sentAt < v.timeout)
  | none => false

/-- How many challenges have been dropped, and the rest. -/
def PathValidator.cleanupExpired (now : Nat) : Nat × PathValidator :=
  let pending := v.pending.filter (fun _ e => decide (now - e.2 < v.timeout))
  (v.pending.size - pending.size, { v with pending })

def PathValidator.step : ValidatorOp → PathValidator
  | .challenge pathId data now => (v.challenge pathId data now).2
  | .validateResponse _ _ _ => v
  | .cleanupExpired now => (v.cleanupExpired now).2

def PathValidator.run (ops : List ValidatorOp) : PathValidator :=
  ops.foldl PathValidator.step v

end Validator

/-- What a call does to the pending challenges. -/
def ValidatorOp.timed : ValidatorOp → Option (TimedEvent PathId (ByteArr 8))
  | .challenge pathId data now => some (.put pathId data now)
  | .validateResponse _ _ _ => none
  | .cleanupExpired now => some (.sweep now)

/-- The challenge of a path that was sent last, whether or not it is still pending. -/
def lastChallenge (pathId : PathId) (ops : List ValidatorOp) : Option (ByteArr 8 × Nat) :=
  lastPut pathId (ops.filterMap ValidatorOp.timed).reverse

theorem PathValidator.run_timeout (timeout : Nat) (ops : List ValidatorOp) :
    ((PathValidator.new timeout).run ops).timeout = timeout := by
  induction ops using List.reverseRecOn with
  | nil => rfl
  | append_singleton ops op ih =>
    rw [PathValidator.run, List.foldl_append]
    cases op <;> exact ih

/-- The pending challenges are what is put into a table and swept out of it. -/
theorem PathValidator.run_pending (timeout : Nat) (ops : List ValidatorOp) (pathId : PathId) :
    ((PathValidator.new timeout).run ops).pending[pathId]? =
      timedTable timeout (ops.filterMap ValidatorOp.timed).reverse pathId := by
  induction ops using List.reverseRecOn generalizing pathId with
  | nil => rfl
  | append_singleton ops op ih =>
    rw [PathValidator.run, List.foldl_append, List.filterMap_append, List.reverse_append]
    cases op with
    | challenge pathId' data now =>
      change (((PathValidator.new timeout).run ops).pending.insert pathId' (data, now))[pathId]? =
        Function.update (timedTable timeout (ops.filterMap ValidatorOp.timed).reverse) pathId'
          (some (data, now)) pathId
      rw [getElem?_insert_eq, Function.update_apply, ih]
      by_cases hp : pathId' = pathId
      · rw [if_pos hp, if_pos hp.symm]
      · rw [if_neg hp, if_neg (Ne.symm hp)]
    | validateResponse pathId' response now => exact ih pathId
    | cleanupExpired now =>
      change (((PathValidator.new timeout).run ops).pending.filter
        (fun _ e => decide (now - e.2 < ((PathValidator.new timeout).run ops).timeout)))[pathId]? =
          young timeout (timedTable timeout (ops.filterMap ValidatorOp.timed).reverse pathId) now
      rw [PathValidator.run_timeout, Std.TreeMap.getElem?_filter', ih]
      rfl

theorem mem_timed_sweep {ops : List ValidatorOp} {since : Nat}
    (h : .sweep since ∈ (ops.filterMap ValidatorOp.timed).reverse) :
    .cleanupExpired since ∈ ops := by
  obtain ⟨op, hop, htimed⟩ := List.mem_filterMap.mp (List.mem_reverse.mp h)
  cases op with
  | challenge pathId data now => cases htimed
  | validateResponse pathId response now => cases htimed
  | cleanupExpired now =>
    cases htimed
    exact hop

theorem PathValidator.validateResponse_iff (v : PathValidator) (pathId : PathId)
    (response : PathResponse) (now : Nat) :
    v.validateResponse pathId response now = true ↔
      ∃ sentAt, young v.timeout v.pending[pathId]? now = some (response.data, sentAt) := by
  rw [PathValidator.validateResponse]
  cases v.pending[pathId]? with
  | none => exact iff_of_false Bool.false_ne_true (by rintro ⟨_, h⟩; cases h)
  | some e =>
    obtain ⟨expected, sentAt⟩ := e
    simp only [young_eq_some, Option.some.injEq, Prod.mk.injEq, decide_eq_true_eq]
    constructor
    · rintro ⟨rfl, hage⟩
      exact ⟨sentAt, ⟨rfl, rfl⟩, hage⟩
    · rintro ⟨_, ⟨hdata, rfl⟩, hage⟩
      exact ⟨hdata, hage⟩

/-- A response validates a path exactly when it repeats the challenge that was sent on that path
last, in time: no earlier challenge, none of another path, and no matter what has been cleaned up
or validated in between. -/
theorem PathValidator.run_validateResponse (timeout : Nat) (ops : List ValidatorOp)
    (pathId : PathId) (response : PathResponse) (now : Nat)
    (hclock : ∀ since, .cleanupExpired since ∈ ops → since ≤ now) :
    ((PathValidator.new timeout).run ops).validateResponse pathId response now = true ↔
      ∃ sentAt, lastChallenge pathId ops = some (response.data, sentAt) ∧
        now - sentAt < timeout := by
  rw [PathValidator.validateResponse_iff, PathValidator.run_pending, PathValidator.run_timeout,
    young_timedTable pathId (fun since h => hclock since (mem_timed_sweep h))]
  simp only [young_eq_some]
  rfl

theorem PathValidator.run_validateResponse_second :
    ((PathValidator.new 10).run [.challenge 1 (.ofNat 8 7) 0, .challenge 1 (.ofNat 8 9) 2,
      .cleanupExpired 5]).validateResponse 1 ⟨.ofNat 8 9⟩ 11 = true :=
  (PathValidator.run_validateResponse 10 _ 1 _ 11 (by
    intro since h
    simp only [List.mem_cons, reduceCtorEq, ValidatorOp.cleanupExpired.injEq, List.not_mem_nil,
      or_false, false_or] at h
    omega)).mpr ⟨2, rfl, by decide⟩

end P2PMesh.Multipath
