import Mathlib.Data.List.Count
import Mathlib.Data.List.Nodup
import Mathlib.Data.List.Perm.Basic
import Mathlib.Data.Rat.Defs
import Mathlib.Tactic.Ring
import P2PMesh.Base.Custody
import P2PMesh.Base.Run

namespace P2PMesh.IoUring
open P2PMesh.Base
set_option autoImplicit true

/-- The indices of the buffers that are free stand in the order in which they were given back. The
counters are atomic and wrap. -/
structure FixedBufferPool where
  bufferSize : Nat
  bufferCount : Nat
  freeIndices : List Nat
  allocations : UInt64
  releases : UInt64
  overflows : UInt64

structure BufferPoolStats where
  totalBuffers : Nat
  freeBuffers : Nat
  allocations : UInt64
  releases : UInt64
  overflows : UInt64
  utilization : ℚ

def FixedBufferPool.new (bufferSize bufferCount : Nat) : FixedBufferPool :=
  ⟨bufferSize, bufferCount, List.range bufferCount, 0, 0, 0⟩

section Pool
variable (pool : FixedBufferPool)

def FixedBufferPool.allocate : Option Nat × FixedBufferPool :=
  match pool.freeIndices with
  | idx :: rest =>
    (some idx, { pool with
      freeIndices := rest
      allocations := pool.allocations + 1 })
  | [] => (none, { pool with overflows := pool.overflows + 1 })

/-- Whether the buffer has been allocated is not looked at. -/
def FixedBufferPool.release (idx : Nat) : FixedBufferPool :=
  if idx < pool.bufferCount then
    { pool with
      freeIndices := pool.freeIndices ++ [idx]
      releases := pool.releases + 1 }
  else pool

/-- The part of the buffers that is held, in exact numbers. -/
def FixedBufferPool.utilization : ℚ :=
  if pool.bufferCount = 0 then 0 else 1 - pool.freeIndices.length / pool.bufferCount

def FixedBufferPool.stats : BufferPoolStats where
  totalBuffers := pool.bufferCount
  freeBuffers := pool.freeIndices.length
  allocations := pool.allocations
  releases := pool.releases
  overflows := pool.overflows
  utilization := pool.utilization

end Pool

inductive PoolOp where
  | allocate
  | release (idx : Nat)
deriving DecidableEq

/-- The pool with the buffers that have been handed out and not been given back. -/
structure PoolRun where
  pool : FixedBufferPool
  held : List Nat

section Run
variable (r : PoolRun)

def PoolRun.new (bufferSize bufferCount : Nat) : PoolRun := ⟨.new bufferSize bufferCount, []⟩

def PoolRun.step : PoolOp → PoolRun
  | .allocate =>
    let (idx, pool) := r.pool.allocate
    ⟨pool, idx.toList ++ r.held⟩
  | .release idx => ⟨r.pool.release idx, r.held.erase idx⟩

def PoolRun.run (ops : List PoolOp) : PoolRun := ops.foldl PoolRun.step r

/-- Every buffer is free or with one holder. -/
def PoolRun.Exclusive : Prop :=
  Kept (fun idx => idx < r.pool.bufferCount) (r.pool.freeIndices ++ r.held)

/-- A buffer is given back by its holder. -/
def PoolRun.Returns : PoolOp → Prop
  | .allocate => True
  | .release idx => idx < r.pool.bufferCount → idx ∈ r.held

/-- What is free or held is a buffer of the pool. -/
def PoolRun.Ranged : Prop := ∀ idx ∈ r.pool.freeIndices ++ r.held, idx < r.pool.bufferCount

end Run

section Steps
variable {r : PoolRun}

theorem PoolRun.new_exclusive (bufferSize bufferCount : Nat) :
    (PoolRun.new bufferSize bufferCount).Exclusive := by
  intro idx hidx
  change (List.range bufferCount ++ []).count idx = 1
  rw [List.append_nil]
  exact List.count_eq_one_of_mem List.nodup_range (List.mem_range.mpr hidx)

theorem PoolRun.new_ranged (bufferSize bufferCount : Nat) :
    (PoolRun.new bufferSize bufferCount).Ranged := by
  intro idx hidx
  change idx ∈ List.range bufferCount ++ [] at hidx
  rw [List.append_nil] at hidx
  exact List.mem_range.mp hidx

theorem PoolRun.step_bufferCount (r : PoolRun) (op : PoolOp) :
    (r.step op).pool.bufferCount = r.pool.bufferCount := by
  cases op with
  | allocate =>
    rw [PoolRun.step, FixedBufferPool.allocate]
    cases r.pool.freeIndices <;> rfl
  | release idx =>
    rw [PoolRun.step, FixedBufferPool.release]
    split
    · rfl
    · rfl

theorem PoolRun.allocate_perm (r : PoolRun) :
    ((r.step .allocate).pool.freeIndices ++ (r.step .allocate).held).Perm
      (r.pool.freeIndices ++ r.held) := by
  rw [PoolRun.step, FixedBufferPool.allocate]
  cases hfree : r.pool.freeIndices with
  | nil => exact .refl _
  | cons idx rest => exact List.perm_middle

theorem PoolRun.release_perm (hidx : idx < r.pool.bufferCount) (hheld : idx ∈ r.held) :
    ((r.step (.release idx)).pool.freeIndices ++ (r.step (.release idx)).held).Perm
      (r.pool.freeIndices ++ r.held) := by
  rw [PoolRun.step, FixedBufferPool.release, if_pos hidx, List.append_assoc]
  exact List.Perm.append_left _ (List.perm_cons_erase hheld).symm

theorem PoolRun.release_extra (hidx : idx < r.pool.bufferCount) (hheld : idx ∉ r.held) :
    ((r.step (.release idx)).pool.freeIndices ++ (r.step (.release idx)).held).Perm
      ([idx] ++ (r.pool.freeIndices ++ r.held)) := by
  rw [PoolRun.step, FixedBufferPool.release, if_pos hidx, List.erase_of_not_mem hheld,
    List.append_assoc]
  exact List.perm_middle

theorem PoolRun.release_foreign (hr : r.Ranged) (hidx : ¬ idx < r.pool.bufferCount) :
    r.step (.release idx) = r := by
  have hheld : idx ∉ r.held := fun h => hidx (hr idx (List.mem_append_right _ h))
  rw [PoolRun.step, FixedBufferPool.release, if_neg hidx, List.erase_of_not_mem hheld]

theorem PoolRun.Ranged.step (hr : r.Ranged) (op : PoolOp) : (r.step op).Ranged := by
  intro i hi
  rw [PoolRun.step_bufferCount]
  cases op with
  | allocate => exact hr i (r.allocate_perm.mem_iff.mp hi)
  | release idx =>
    by_cases hidx : idx < r.pool.bufferCount
    · by_cases hheld : idx ∈ r.held
      · exact hr i ((PoolRun.release_perm hidx hheld).mem_iff.mp hi)
      · have hmem := (PoolRun.release_extra hidx hheld).mem_iff.mp hi
        rcases List.mem_cons.mp hmem with rfl | hmem
        · exact hidx
        · exact hr i hmem
    · rw [PoolRun.release_foreign hr hidx] at hi
      exact hr i hi

theorem PoolRun.step_exclusive_iff (hr : r.Ranged) (h : r.Exclusive) (op : PoolOp) :
    (r.step op).Exclusive ↔ r.Returns op := by
  rw [PoolRun.Exclusive, PoolRun.step_bufferCount]
  cases op with
  | allocate =>
    refine iff_of_true (fun i hi => ?_) trivial
    rw [r.allocate_perm.count_eq]
    exact h i hi
  | release idx =>
    by_cases hidx : idx < r.pool.bufferCount
    · by_cases hheld : idx ∈ r.held
      · refine iff_of_true (fun i hi => ?_) (fun _ => hheld)
        rw [(PoolRun.release_perm hidx hheld).count_eq]
        exact h i hi
      · rw [Kept.repeat_iff h (PoolRun.release_extra hidx hheld)]
        exact iff_of_false (fun hx => hx idx (List.mem_singleton_self idx) hidx)
          (fun hret => hheld (hret hidx))
    · rw [PoolRun.release_foreign hr hidx]
      exact iff_of_true h (fun hlt => (hidx hlt).elim)

theorem PoolRun.Exclusive.length (hr : r.Ranged) (h : r.Exclusive) :
    r.pool.freeIndices.length + r.held.length = r.pool.bufferCount := by
  have hperm : (r.pool.freeIndices ++ r.held).Perm (List.range r.pool.bufferCount) := by
    rw [List.perm_iff_count]
    intro i
    by_cases hi : i < r.pool.bufferCount
    · rw [h i hi, List.count_eq_one_of_mem List.nodup_range (List.mem_range.mpr hi)]
    · rw [List.count_eq_zero.mpr (fun hmem => hi (hr i hmem)),
        List.count_eq_zero.mpr (fun hmem => hi (List.mem_range.mp hmem))]
  rw [← List.length_append, hperm.length_eq, List.length_range]

end Steps

/-- At every point of a run each buffer is free or with a single holder, exactly if no call gives
back a buffer that is not held: one that is given back twice will be handed to two. -/
theorem PoolRun.run_exclusive_iff (bufferSize bufferCount : Nat) (ops : List PoolOp) :
    (∀ ops', ops' <+: ops → ((PoolRun.new bufferSize bufferCount).run ops').Exclusive) ↔
      Guarded PoolRun.step PoolRun.Returns (.new bufferSize bufferCount) ops :=
  forall_prefix_iff_of (PoolRun.new_ranged bufferSize bufferCount)
    (fun _ op hr => hr.step op) (PoolRun.new_exclusive bufferSize bufferCount)
    (fun _ op hr h => PoolRun.step_exclusive_iff hr h op) ops

/-- As long as buffers are given back by their holders only, the statistics tell how many are out:
the rest is free, the utilization is the part that is out, and an allocation fails only if all
are. -/
theorem PoolRun.run_stats (bufferSize bufferCount : Nat) (ops : List PoolOp)
    (h : Guarded PoolRun.step PoolRun.Returns (.new bufferSize bufferCount) ops) :
    let r := (PoolRun.new bufferSize bufferCount).run ops
    r.pool.stats.freeBuffers + r.held.length = bufferCount ∧
      r.pool.stats.utilization * bufferCount = r.held.length ∧
        (r.pool.allocate.1 = none ↔ r.held.length = bufferCount) := by
  intro r
  have hcount : r.pool.bufferCount = bufferCount :=
    run_invariant (I := fun r : PoolRun => r.pool.bufferCount = bufferCount) _ rfl
      (fun r op hr => (r.step_bufferCount op).trans hr) ops
  have hboth : r.Ranged ∧ r.Exclusive :=
    h.invariant (I := fun r => r.Ranged ∧ r.Exclusive)
      ⟨PoolRun.new_ranged bufferSize bufferCount, PoolRun.new_exclusive bufferSize bufferCount⟩
      (fun r op hr hret => ⟨hr.1.step op, (PoolRun.step_exclusive_iff hr.1 hr.2 op).mpr hret⟩)
  have hlength := hboth.2.length hboth.1
  rw [hcount] at hlength
  refine ⟨hlength, ?_, ?_⟩
  · change r.pool.utilization * bufferCount = r.held.length
    rw [FixedBufferPool.utilization, hcount]
    split
    · next hzero =>
      have hheld : r.held.length = 0 := by omega
      rw [hheld, zero_mul, Nat.cast_zero]
    · next hpos =>
      have hne : (bufferCount : ℚ) ≠ 0 := Nat.cast_ne_zero.mpr hpos
      have hsum : (r.pool.freeIndices.length : ℚ) + r.held.length = bufferCount := by
        exact_mod_cast hlength
      rw [sub_mul, one_mul, div_mul_cancel₀ _ hne, ← hsum, add_sub_cancel_left]
  · have hnone : r.pool.allocate.1 = none ↔ r.pool.freeIndices = [] := by
      rw [FixedBufferPool.allocate]
      cases r.pool.freeIndices with
      | nil => exact iff_of_true rfl rfl
      | cons idx rest => exact iff_of_false (by rintro ⟨⟩) (by rintro ⟨⟩)
    rw [hnone, ← List.length_eq_zero_iff]
    omega

theorem PoolRun.run_stats_one_out :
    ((PoolRun.new 4096 2).run [.allocate, .allocate, .release 0]).pool.stats.utilization * 2 =
      1 := by
  have h := PoolRun.run_stats 4096 2 [.allocate, .allocate, .release 0]
    ⟨trivial, trivial, fun _ => by decide, trivial⟩
  exact_mod_cast h.2.1

end P2PMesh.IoUring
