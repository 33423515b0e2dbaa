import Mathlib.Data.Rat.Defs
import P2PMesh.Base.Counter
import P2PMesh.Base.TableSum
import P2PMesh.Multipath

namespace P2PMesh.Multipath
open P2PMesh.Base
set_option autoImplicit true

inductive SchedulerStrategy where
  | lowestRttFirst
  | roundRobin
  | bandwidthWeighted
  | redundant
  | adaptive
deriving DecidableEq

/-- The arithmetic of floating point numbers, of which nothing is asked. -/
structure FloatArith (F : Type) where
  zero : F
  one : F
  add : F → F → F
  mul : F → F → F
  div : F → F → F
  le : F → F → Bool
  lt : F → F → Bool
  ofU64 : UInt64 → F

structure MultipathScheduler (F : Type) where
  strategy : SchedulerStrategy
  rrCursor : UInt64
  pathWeights : Std.TreeMap PathId F
  redundancyFactor : UInt8
  pathPackets : Std.TreeMap PathId UInt64
  totalPackets : UInt64

def MultipathScheduler.new (F : Type) (strategy : SchedulerStrategy) : MultipathScheduler F :=
  ⟨strategy, 0, ∅, 2, ∅, 0⟩

structure SchedulerStats where
  strategy : SchedulerStrategy
  totalPackets : UInt64
  activePaths : Nat

/-- A path that data may be sent on. -/
def MultipathEntry.isUsable (e : MultipathEntry) : Bool :=
  decide (e.state = .active) && e.active

def minRtt (active : List MultipathEntry) : UInt64 :=
  ((active.map (·.srttUs)).min?).getD 18446744073709551615

def maxRtt (active : List MultipathEntry) : UInt64 := ((active.map (·.srttUs)).max?).getD 0

section Scheduler
variable (A : FloatArith F) (s : MultipathScheduler F)

def MultipathScheduler.weight (e : MultipathEntry) : F :=
  (s.pathWeights[e.pathId]?).getD A.one

def MultipathScheduler.totalWeight (active : List MultipathEntry) : F :=
  active.foldl (fun total e => A.add total (s.weight A e)) A.zero

/-- The loop over the paths, up to the first at which the weights so far reach the target. -/
def MultipathScheduler.firstReaching (target : F) : F → List MultipathEntry → Option PathId
  | _, [] => none
  | cumulative, e :: rest =>
    let cumulative := A.add cumulative (s.weight A e)
    if A.le target cumulative then some e.pathId
    else MultipathScheduler.firstReaching target cumulative rest

/-- A packet is counted for its path and in the total; the counters are atomic and wrap. -/
def MultipathScheduler.count (pathId : Option PathId) : Option PathId × MultipathScheduler F :=
  match pathId with
  | none => (none, s)
  | some pid =>
    (some pid, { s with
      pathPackets := s.pathPackets.insert pid ((s.pathPackets[pid]?).getD 0 + 1)
      totalPackets := s.totalPackets + 1 })

variable (overflowChecks : Bool)

def MultipathScheduler.takeTurn (active : List MultipathEntry) :
    Option (PathId × MultipathScheduler F) := do
  let idx := s.rrCursor.toNat % active.length
  let rrCursor ← addU64 overflowChecks s.rrCursor 1
  let e ← active[idx]?
  return (e.pathId, { s with rrCursor })

/-- `none` is a panic, which comes before anything is changed. The weighted choice returns out of
its loop, past the counters. -/
def MultipathScheduler.schedulePacket (paths : List MultipathEntry) (draw : F) :
    Option (Option PathId × MultipathScheduler F) :=
  match paths.filter (·.isUsable) with
  | [] => some (none, s)
  | first :: rest =>
    let active := first :: rest
    match s.strategy with
    | .lowestRttFirst => some (s.count ((lowestRtt active).map (·.pathId)))
    | .roundRobin => do
      let (pathId, s) ← s.takeTurn overflowChecks active
      return s.count (some pathId)
    | .bandwidthWeighted =>
      let totalWeight := s.totalWeight A active
      if A.le totalWeight A.zero then some (s.count (some first.pathId))
      else
        match s.firstReaching A (A.mul draw totalWeight) A.zero active with
        | some pathId => some (some pathId, s)
        | none => some (s.count (some (active.getLast (List.cons_ne_nil first rest)).pathId))
    | .redundant => some (s.count (some first.pathId))
    | .adaptive => do
      let bound ← if overflowChecks = true ∧ 2 ^ 64 ≤ (minRtt active).toNat * 3 then none
        else some (minRtt active * 3)
      if bound < maxRtt active then return s.count ((lowestRtt active).map (·.pathId))
      else
        let (pathId, s) ← s.takeTurn overflowChecks active
        return s.count (some pathId)

/-- The bandwidths of some paths become their shares of all of them. -/
def MultipathScheduler.updateWeights (bandwidths : List (PathId × UInt64)) :
    MultipathScheduler F :=
  let total := bandwidths.foldl (fun sum e => A.add sum (A.ofU64 e.2)) A.zero
  let share (weights : Std.TreeMap PathId F) (e : PathId × UInt64) : Std.TreeMap PathId F :=
    weights.insert e.1 (A.div (A.ofU64 e.2) total)
  if A.lt A.zero total then { s with pathWeights := bandwidths.foldl share s.pathWeights }
  else s

def MultipathScheduler.setStrategy (strategy : SchedulerStrategy) : MultipathScheduler F :=
  { s with strategy := strategy }

def MultipathScheduler.stats : SchedulerStats :=
  ⟨s.strategy, s.totalPackets, s.pathPackets.size⟩

end Scheduler

inductive SchedulerOp (F : Type) where
  | schedulePacket (paths : List MultipathEntry) (draw : F)
  | updateWeights (bandwidths : List (PathId × UInt64))
  | setStrategy (strategy : SchedulerStrategy)

/-- The scheduler and the number of its calls that have returned a path. -/
structure SchedulerRun (F : Type) where
  scheduler : MultipathScheduler F
  returned : Nat

section Accounting
variable (A : FloatArith F) (overflowChecks : Bool)

def SchedulerRun.step (r : SchedulerRun F) : SchedulerOp F → SchedulerRun F
  | .schedulePacket paths draw =>
    match r.scheduler.schedulePacket A overflowChecks paths draw with
    | none => r
    | some (none, s) => { r with scheduler := s }
    | some (some _, s) => ⟨s, r.returned + 1⟩
  | .updateWeights bandwidths => { r with scheduler := r.scheduler.updateWeights A bandwidths }
  | .setStrategy strategy => { r with scheduler := r.scheduler.setStrategy strategy }

/-- The total and the sum of the counters of the paths are the number of calls that returned a
path. -/
structure SchedulerRun.Accounted (r : SchedulerRun F) : Prop where
  total : r.scheduler.stats.totalPackets.toNat = r.returned
  paths : tableSum UInt64.toNat r.scheduler.pathPackets = r.returned

/-- A call returns, with no overflow in either build, and with a path exactly if there is one that
data may be sent on, and then with such a path. -/
def SchedulerRun.Contract (r : SchedulerRun F) : SchedulerOp F → Prop
  | .schedulePacket paths draw => ∃ result s,
    r.scheduler.schedulePacket A true paths draw = some (result, s) ∧
      r.scheduler.schedulePacket A overflowChecks paths draw = some (result, s) ∧
        (result.isSome = true ↔ ∃ e ∈ paths, e.state = .active ∧ e.active = true) ∧
          ∀ pathId, result = some pathId →
            ∃ e ∈ paths, e.pathId = pathId ∧ e.state = .active ∧ e.active = true
  | _ => True

variable (s : MultipathScheduler F) (active : List MultipathEntry)

/-- The cursor has room for one more turn if the strategy takes one, and three times the lowest
round-trip time fits if it is asked for. -/
def MultipathScheduler.Fits : Prop :=
  match s.strategy with
  | .roundRobin => s.rrCursor ≠ 18446744073709551615
  | .adaptive => (minRtt active).toNat * 3 < 2 ^ 64 ∧
    ((maxRtt active).toNat ≤ (minRtt active).toNat * 3 → s.rrCursor ≠ 18446744073709551615)
  | _ => True

/-- The weighted choice finds a path at which the weights so far reach its target. -/
def MultipathScheduler.ReturnsEarly (draw : F) : Prop :=
  s.strategy = .bandwidthWeighted ∧ A.le (s.totalWeight A active) A.zero = false ∧
    (s.firstReaching A (A.mul draw (s.totalWeight A active)) A.zero active).isSome = true

/-- A call with a path to choose has room in the total, its arithmetic fits, and it does not return
out of the loop of the weighted choice. -/
def SchedulerRun.Counts (r : SchedulerRun F) : SchedulerOp F → Prop
  | .schedulePacket paths draw =>
    paths.filter (·.isUsable) = [] ∨
      r.scheduler.totalPackets ≠ 18446744073709551615 ∧
        r.scheduler.Fits (paths.filter (·.isUsable)) ∧
          ¬ r.scheduler.ReturnsEarly A (paths.filter (·.isUsable)) draw
  | _ => True

end Accounting

section Choice
variable {A : FloatArith F} {s : MultipathScheduler F} {active : List MultipathEntry}

theorem lowestRtt_mem {l : List MultipathEntry} (h : lowestRtt l = some best) : best ∈ l := by
  induction l with
  | nil => cases h
  | cons e rest ih =>
    rw [lowestRtt] at h
    cases hrest : lowestRtt rest with
    | none =>
      rw [hrest] at h
      cases h
      exact List.mem_cons_self
    | some e' =>
      rw [hrest] at h
      dsimp only at h
      split at h
      · cases h
        exact List.mem_cons_of_mem _ (ih hrest)
      · cases h
        exact List.mem_cons_self

theorem exists_lowestRtt (e : MultipathEntry) (rest : List MultipathEntry) :
    ∃ best ∈ e :: rest, lowestRtt (e :: rest) = some best := by
  cases h : lowestRtt (e :: rest) with
  | none =>
    rw [lowestRtt] at h
    split at h
    · cases h
    · split at h
      · cases h
      · cases h
  | some best => exact ⟨best, lowestRtt_mem h, rfl⟩

theorem MultipathScheduler.firstReaching_mem {target cumulative : F}
    (h : s.firstReaching A target cumulative active = some pathId) :
    ∃ e ∈ active, e.pathId = pathId := by
  induction active generalizing cumulative with
  | nil => cases h
  | cons e rest ih =>
    rw [MultipathScheduler.firstReaching] at h
    split at h
    · cases h
      exact ⟨e, List.mem_cons_self, rfl⟩
    · obtain ⟨e', he', hid⟩ := ih h
      exact ⟨e', List.mem_cons_of_mem _ he', hid⟩

theorem MultipathScheduler.takeTurn_eq (e : MultipathEntry) (rest : List MultipathEntry)
    (hroom : s.rrCursor ≠ 18446744073709551615) : ∃ best ∈ e :: rest, ∀ overflowChecks,
      s.takeTurn overflowChecks (e :: rest) =
        some (best.pathId, { s with rrCursor := s.rrCursor + 1 }) := by
  have hlt : s.rrCursor.toNat % (e :: rest).length < (e :: rest).length :=
    Nat.mod_lt _ (Nat.succ_pos _)
  refine ⟨(e :: rest)[s.rrCursor.toNat % (e :: rest).length], List.getElem_mem hlt, ?_⟩
  intro overflowChecks
  rw [MultipathScheduler.takeTurn, addU64_one, if_neg (fun h => hroom h.2), Option.bind_eq_bind,
    Option.bind_some, List.getElem?_eq_getElem hlt]
  rfl

theorem MultipathScheduler.takeTurn_overflow (e : MultipathEntry) (rest : List MultipathEntry)
    (hfull : s.rrCursor = 18446744073709551615) : s.takeTurn true (e :: rest) = none := by
  rw [MultipathScheduler.takeTurn, addU64_one, if_pos ⟨rfl, hfull⟩]
  rfl

theorem MultipathScheduler.takeTurn_mem {s' : MultipathScheduler F}
    (h : s.takeTurn overflowChecks active = some (pathId, s')) :
    ∃ e ∈ active, e.pathId = pathId := by
  rw [MultipathScheduler.takeTurn, Option.bind_eq_bind, Option.bind_eq_some_iff] at h
  obtain ⟨cursor, -, h⟩ := h
  rw [Option.bind_eq_bind, Option.bind_eq_some_iff] at h
  obtain ⟨e, he, ⟨⟩⟩ := h
  exact ⟨e, List.mem_of_getElem? he, rfl⟩

theorem MultipathScheduler.count_fst (pathId : Option PathId) : (s.count pathId).1 = pathId := by
  cases pathId with
  | none => rfl
  | some pid => rfl

theorem exists_of_lowestRtt {l : List MultipathEntry}
    (h : (lowestRtt l).map (·.pathId) = some pathId) : ∃ e ∈ l, e.pathId = pathId := by
  obtain ⟨best, hbest, hid⟩ := Option.map_eq_some_iff.mp h
  exact ⟨best, lowestRtt_mem hbest, hid⟩

theorem MultipathScheduler.schedulePacket_mem {s' : MultipathScheduler F}
    (h : s.schedulePacket A overflowChecks paths draw = some (some pathId, s')) :
    ∃ e ∈ paths.filter (·.isUsable), e.pathId = pathId := by
  have hcount {l : List MultipathEntry} {turn : MultipathScheduler F} {chosen : Option PathId}
      (hmem : ∀ id, chosen = some id → ∃ e ∈ l, e.pathId = id)
      (hcall : some (turn.count chosen) = some (some pathId, s')) : ∃ e ∈ l, e.pathId = pathId := by
    apply hmem
    rw [← turn.count_fst chosen, Option.some.inj hcall]
  have hfirst {first : MultipathEntry} {rest : List MultipathEntry} (id : PathId)
      (he : some first.pathId = some id) : ∃ e ∈ first :: rest, e.pathId = id :=
    ⟨first, List.mem_cons_self, Option.some.inj he⟩
  have hturn {l : List MultipathEntry} (hcall : (s.takeTurn overflowChecks l).bind
      (fun turn => some (turn.2.count (some turn.1))) = some (some pathId, s')) :
      ∃ e ∈ l, e.pathId = pathId := by
    obtain ⟨⟨turnId, turn⟩, hturn, hcounted⟩ := Option.bind_eq_some_iff.mp hcall
    refine hcount ?_ hcounted
    rintro _ ⟨⟩
    exact takeTurn_mem hturn
  rw [MultipathScheduler.schedulePacket] at h
  cases hactive : paths.filter (·.isUsable) with
  | nil =>
    rw [hactive] at h
    cases h
  | cons first rest =>
    rw [hactive] at h
    dsimp only at h
    cases hstrategy : s.strategy with
    | lowestRttFirst =>
      rw [hstrategy] at h
      exact hcount (fun _ => exists_of_lowestRtt) h
    | roundRobin =>
      rw [hstrategy] at h
      exact hturn h
    | bandwidthWeighted =>
      rw [hstrategy] at h
      dsimp only at h
      split at h
      · exact hcount hfirst h
      · split at h
        · next hreach =>
          cases h
          exact firstReaching_mem hreach
        · exact hcount (fun id hid => ⟨_, List.getLast_mem _, Option.some.inj hid⟩) h
    | redundant =>
      rw [hstrategy] at h
      exact hcount hfirst h
    | adaptive =>
      rw [hstrategy] at h
      dsimp only at h
      split at h
      · cases h
      · rw [Option.bind_eq_bind, Option.bind_some] at h
        split at h
        · exact hcount (fun _ => exists_of_lowestRtt) h
        · exact hturn h

/-- The scheduler after a call that has chosen a path, with the cursor where it then stands. -/
def MultipathScheduler.Chose (A : FloatArith F) (s s' : MultipathScheduler F)
    (active : List MultipathEntry) (draw : F) (pathId : PathId) : Prop :=
  (s.ReturnsEarly A active draw ∧ s' = s) ∨
    (¬ s.ReturnsEarly A active draw ∧
      ∃ cursor, s' = (MultipathScheduler.count { s with rrCursor := cursor } (some pathId)).2)

theorem MultipathScheduler.chose_counted {draw : F} (hs : s.strategy ≠ .bandwidthWeighted)
    (cursor : UInt64) (pathId : PathId) :
    s.Chose A (MultipathScheduler.count { s with rrCursor := cursor } (some pathId)).2 active draw
      pathId :=
  .inr ⟨fun h => hs h.1, cursor, rfl⟩

theorem triple_toNat {x : UInt64} (h : x.toNat * 3 < 2 ^ 64) : (x * 3).toNat = x.toNat * 3 := by
  rw [UInt64.toNat_mul]
  exact Nat.mod_eq_of_lt h

theorem le_of_not_spread {x y : UInt64} (h : x.toNat * 3 < 2 ^ 64) (hspread : ¬ x * 3 < y) :
    y.toNat ≤ x.toNat * 3 := by
  rw [← triple_toNat h]
  exact UInt64.le_iff_toNat_le.mp (UInt64.not_lt.mp hspread)

theorem not_spread_of_le {x y : UInt64} (h : x.toNat * 3 < 2 ^ 64) (hle : y.toNat ≤ x.toNat * 3) :
    ¬ x * 3 < y := by
  rw [← triple_toNat h] at hle
  exact UInt64.not_lt.mpr (UInt64.le_iff_toNat_le.mpr hle)

section Fits
variable {paths rest : List MultipathEntry} {first : MultipathEntry} {draw : F}
  (hactive : paths.filter (·.isUsable) = first :: rest)
include hactive

variable (A draw) in
theorem MultipathScheduler.schedulePacket_fits (hfits : s.Fits (first :: rest)) :
    ∃ best ∈ first :: rest, ∃ s', (∀ overflowChecks, s.schedulePacket A overflowChecks paths
      draw = some (some best.pathId, s')) ∧ s.Chose A s' (first :: rest) draw best.pathId := by
  rw [MultipathScheduler.Fits] at hfits
  simp only [MultipathScheduler.schedulePacket, hactive]
  obtain ⟨lowest, hlowest, hle⟩ := exists_lowestRtt first rest
  cases hstrategy : s.strategy with
  | lowestRttFirst =>
    refine ⟨lowest, hlowest, _, fun _ => ?_, chose_counted ?_ s.rrCursor lowest.pathId⟩
    · rw [hle]
      rfl
    · rw [hstrategy]
      rintro ⟨⟩
  | roundRobin =>
    rw [hstrategy] at hfits
    obtain ⟨best, hbest, hturn⟩ := takeTurn_eq first rest hfits
    refine ⟨best, hbest, _, fun c => ?_, chose_counted ?_ (s.rrCursor + 1) best.pathId⟩
    · dsimp only
      rw [hturn c]
      rfl
    · rw [hstrategy]
      rintro ⟨⟩
  | bandwidthWeighted =>
    dsimp only
    by_cases hle : A.le (s.totalWeight A (first :: rest)) A.zero = true
    · refine ⟨first, List.mem_cons_self, _, fun _ => if_pos hle, .inr ⟨?_, s.rrCursor, rfl⟩⟩
      rintro ⟨-, hpositive, -⟩
      rw [hpositive] at hle
      exact Bool.false_ne_true hle
    · cases hreach : s.firstReaching A (A.mul draw (s.totalWeight A (first :: rest))) A.zero
        (first :: rest) with
      | none =>
        refine ⟨_, List.getLast_mem (List.cons_ne_nil first rest), _, fun _ => ?_,
          .inr ⟨?_, s.rrCursor, rfl⟩⟩
        · rw [if_neg hle]
          rfl
        · rintro ⟨-, -, hsome⟩
          rw [hreach] at hsome
          cases hsome
      | some pathId =>
        obtain ⟨best, hbest, rfl⟩ := firstReaching_mem hreach
        refine ⟨best, hbest, s, fun _ => ?_, .inl ⟨⟨hstrategy, ?_, ?_⟩, rfl⟩⟩
        · rw [if_neg hle]
        · exact Bool.eq_false_iff.mpr hle
        · rw [hreach]
          rfl
  | redundant =>
    refine ⟨first, List.mem_cons_self, _, fun _ => rfl, chose_counted ?_ s.rrCursor _⟩
    rw [hstrategy]
    rintro ⟨⟩
  | adaptive =>
    rw [hstrategy] at hfits
    obtain ⟨hbound, hturns⟩ := hfits
    have hproduct (c : Bool) : ¬ (c = true ∧ 2 ^ 64 ≤ (minRtt (first :: rest)).toNat * 3) :=
      fun h => Nat.not_le.mpr hbound h.2
    have hstrategy' : s.strategy ≠ .bandwidthWeighted := by
      rw [hstrategy]
      rintro ⟨⟩
    by_cases hspread : minRtt (first :: rest) * 3 < maxRtt (first :: rest)
    · refine ⟨lowest, hlowest, _, fun c => ?_, chose_counted hstrategy' s.rrCursor lowest.pathId⟩
      dsimp only
      rw [if_neg (hproduct c), Option.bind_eq_bind, Option.bind_some, if_pos hspread, hle]
      rfl
    · have hroom := hturns (le_of_not_spread hbound hspread)
      obtain ⟨best, hbest, hturn⟩ := takeTurn_eq first rest hroom
      refine ⟨best, hbest, _, fun c => ?_, chose_counted hstrategy' (s.rrCursor + 1) best.pathId⟩
      dsimp only
      rw [if_neg (hproduct c), Option.bind_eq_bind, Option.bind_some, if_neg hspread, hturn c]
      rfl

theorem MultipathScheduler.schedulePacket_overflows (hfits : ¬ s.Fits (first :: rest)) :
    s.schedulePacket A true paths draw = none := by
  rw [MultipathScheduler.Fits] at hfits
  simp only [MultipathScheduler.schedulePacket, hactive]
  cases hstrategy : s.strategy with
  | lowestRttFirst | bandwidthWeighted | redundant =>
    rw [hstrategy] at hfits
    exact (hfits trivial).elim
  | roundRobin =>
    rw [hstrategy] at hfits
    dsimp only at hfits ⊢
    rw [takeTurn_overflow first rest (not_not.mp hfits)]
    rfl
  | adaptive =>
    rw [hstrategy] at hfits
    dsimp only at hfits ⊢
    by_cases hbound : (minRtt (first :: rest)).toNat * 3 < 2 ^ 64
    · rw [and_iff_right hbound, Classical.not_imp, ne_eq, not_not] at hfits
      obtain ⟨hclose, hfull⟩ := hfits
      rw [if_neg (fun h => Nat.not_le.mpr hbound h.2), Option.bind_eq_bind, Option.bind_some,
        if_neg (not_spread_of_le hbound hclose), takeTurn_overflow first rest hfull]
      rfl
    · rw [if_pos ⟨trivial, Nat.not_lt.mp hbound⟩]
      rfl

end Fits

end Choice

section Steps
variable {A : FloatArith F} {overflowChecks : Bool} {r : SchedulerRun F}

theorem mem_usable {paths : List MultipathEntry} {e : MultipathEntry} :
    e ∈ paths.filter (·.isUsable) ↔ e ∈ paths ∧ e.state = .active ∧ e.active = true := by
  rw [List.mem_filter, MultipathEntry.isUsable, Bool.and_eq_true, decide_eq_true_eq]

theorem SchedulerRun.Accounted.count_iff (h : r.Accounted) (cursor : UInt64) (pathId : PathId) :
    SchedulerRun.Accounted ⟨(MultipathScheduler.count
      { r.scheduler with rrCursor := cursor } (some pathId)).2, r.returned + 1⟩ ↔
        r.scheduler.totalPackets ≠ 18446744073709551615 := by
  have htotal : r.scheduler.totalPackets.toNat = r.returned := h.total
  rw [← succ64_toNat_eq_iff]
  constructor
  · intro hcounted
    have hsucc : (r.scheduler.totalPackets + 1).toNat = r.returned + 1 := hcounted.total
    rw [hsucc, htotal]
  · intro hroom
    refine ⟨hroom.trans (congrArg (· + 1) htotal), ?_⟩
    change tableSum UInt64.toNat (r.scheduler.pathPackets.insert pathId _) = r.returned + 1
    have hinsert := tableSum_insert (f := UInt64.toNat) r.scheduler.pathPackets pathId
      ((r.scheduler.pathPackets[pathId]?).getD 0 + 1)
    have hlt := (r.scheduler.totalPackets + 1).toNat_lt
    rw [hroom, htotal] at hlt
    rw [h.paths] at hinsert
    cases hstored : r.scheduler.pathPackets[pathId]? with
    | none =>
      rw [hstored] at hinsert
      exact hinsert
    | some n =>
      rw [hstored, Option.elim_some, Option.getD_some] at hinsert
      have hle := le_tableSum (f := UInt64.toNat) hstored
      rw [h.paths] at hle
      have hsucc : (n + 1).toNat = n.toNat + 1 := by
        rw [succ64_toNat_eq_iff]
        rintro rfl
        change 18446744073709551615 ≤ r.returned at hle
        omega
      rw [hsucc] at hinsert
      rw [Option.getD_some]
      omega

theorem SchedulerRun.Accounted.step_iff (h : r.Accounted) (op : SchedulerOp F) :
    (r.step A overflowChecks op).Accounted ∧ r.Contract A overflowChecks op ↔ r.Counts A op := by
  cases op with
  | setStrategy strategy => exact iff_of_true ⟨⟨h.total, h.paths⟩, trivial⟩ trivial
  | updateWeights bandwidths =>
    refine iff_of_true ⟨?_, trivial⟩ trivial
    rw [SchedulerRun.step, MultipathScheduler.updateWeights]
    split
    · exact ⟨h.total, h.paths⟩
    · exact ⟨h.total, h.paths⟩
  | schedulePacket paths draw =>
    rw [SchedulerRun.Counts]
    cases hactive : paths.filter (·.isUsable) with
    | nil =>
      have hcall (c : Bool) : r.scheduler.schedulePacket A c paths draw =
          some (none, r.scheduler) := by
        rw [MultipathScheduler.schedulePacket, hactive]
      refine iff_of_true ⟨?_, ?_⟩ (.inl rfl)
      · rw [SchedulerRun.step, hcall]
        exact ⟨h.total, h.paths⟩
      · refine ⟨none, r.scheduler, hcall true, hcall overflowChecks, ?_, by rintro _ ⟨⟩⟩
        refine iff_of_false Bool.false_ne_true ?_
        rintro ⟨e, he⟩
        exact List.not_mem_nil (hactive ▸ mem_usable.mpr he)
    | cons first rest =>
      rw [or_iff_right (List.cons_ne_nil first rest)]
      by_cases hfits : r.scheduler.Fits (first :: rest)
      · obtain ⟨best, hbest, s', hcall, hchose⟩ :=
          MultipathScheduler.schedulePacket_fits A draw hactive hfits
        have husable := mem_usable.mp (hactive ▸ hbest)
        have hcontract : r.Contract A overflowChecks (.schedulePacket paths draw) := by
          refine ⟨some best.pathId, s', hcall true, hcall overflowChecks, ?_, ?_⟩
          · exact iff_of_true rfl ⟨best, husable⟩
          · rintro pathId ⟨⟩
            exact ⟨best, husable.1, rfl, husable.2⟩
        have hstep : r.step A overflowChecks (.schedulePacket paths draw) =
            ⟨s', r.returned + 1⟩ := by
          rw [SchedulerRun.step, hcall]
        rw [and_iff_left hcontract, and_iff_right hfits, hstep]
        rcases hchose with ⟨hearly, rfl⟩ | ⟨hearly, cursor, rfl⟩
        · refine iff_of_false ?_ (fun hcounts => hcounts.2 hearly)
          intro hcounted
          exact Nat.succ_ne_self r.returned (hcounted.total.symm.trans h.total)
        · rw [h.count_iff, and_iff_left hearly]
      · refine iff_of_false ?_ (fun hcounts => hfits hcounts.2.1)
        rintro ⟨-, result, s', hchecked, -⟩
        rw [MultipathScheduler.schedulePacket_overflows hactive hfits] at hchecked
        cases hchecked

end Steps

section Run
variable (A : FloatArith F) (overflowChecks : Bool)

/-- A new scheduler with some weights. -/
def SchedulerRun.new (strategy : SchedulerStrategy) (weights : Std.TreeMap PathId F) :
    SchedulerRun F :=
  ⟨{ MultipathScheduler.new F strategy with pathWeights := weights }, 0⟩

def SchedulerRun.run (r : SchedulerRun F) (ops : List (SchedulerOp F)) : SchedulerRun F :=
  ops.foldl (SchedulerRun.step A overflowChecks) r

/-- The packets are accounted for at every point of a run and each call meets its contract, exactly
if every call counts. -/
theorem SchedulerRun.accounted_iff (strategy : SchedulerStrategy)
    (weights : Std.TreeMap PathId F) (ops : List (SchedulerOp F)) :
    ((∀ ops', ops' <+: ops →
        ((SchedulerRun.new strategy weights).run A overflowChecks ops').Accounted) ∧
      Guarded (SchedulerRun.step A overflowChecks) (SchedulerRun.Contract A overflowChecks)
        (.new strategy weights) ops) ↔
      Guarded (SchedulerRun.step A overflowChecks) (SchedulerRun.Counts A)
        (.new strategy weights) ops :=
  forall_prefix_and_guarded_iff ⟨rfl, rfl⟩ (fun _ op h => h.step_iff op) ops

end Run

/-- Arithmetic without rounding. -/
def exactArith : FloatArith ℚ where
  zero := 0
  one := 1
  add := (· + ·)
  mul := (· * ·)
  div := (· / ·)
  le x y := decide (x ≤ y)
  lt x y := decide (x < y)
  ofU64 x := x.toNat

def activePath (srttUs : UInt64) : MultipathEntry :=
  { MultipathEntry.new 1 anyAddr anyAddr 0 with
    state := .active
    srttUs
    active := true }

/-- A weighted choice is not counted; three times a round-trip time of 2^63 microseconds does not
fit. -/
theorem schedule_unaccounted :
    ¬ ((SchedulerRun.new .bandwidthWeighted ∅).run exactArith false
      [.schedulePacket [activePath 0] (1 / 2)]).Accounted ∧
    ¬ (SchedulerRun.new .adaptive ∅).Contract exactArith true
      (.schedulePacket [activePath 9223372036854775808] (1 / 2)) := by
  constructor
  · intro h
    have htotal := h.total
    revert htotal
    decide +kernel
  · rintro ⟨result, s, hcall, -⟩
    have hpanic : ((SchedulerRun.new .adaptive ∅).scheduler.schedulePacket exactArith true
        [activePath 9223372036854775808] (1 / 2)).isNone = true := by
      decide +kernel
    rw [hcall] at hpanic
    cases hpanic

end P2PMesh.Multipath
