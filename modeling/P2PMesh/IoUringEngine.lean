import P2PMesh.Base.Counter
import P2PMesh.Base.Fifo
import P2PMesh.IoBuffers

namespace P2PMesh.IoUring
open P2PMesh.Base
set_option autoImplicit true

inductive IoUringError where
  | kernelTooOld
  | notInitialized
  | queueFull
deriving DecidableEq

/-- The result is an `i32`, the time is in nanoseconds. -/
structure Cqe where
  userData : UInt64
  result : Int
  more : Bool
  bufferSelect : Bool
  completedAt : Nat
deriving DecidableEq

structure IoUringConfig where
  sqEntries : UInt32
  cqEntries : UInt32

/-- The engine looks at nothing in the entries that are submitted. The counters are atomic and
wrap. -/
structure IoUringEngine (Sqe : Type) where
  config : IoUringConfig
  initialized : Bool
  pendingSqes : List Sqe
  recentCqes : List Cqe
  bufferPool : FixedBufferPool
  submissions : UInt64
  completions : UInt64
  errors : UInt64
  running : Bool

structure IoUringStats where
  initialized : Bool
  running : Bool
  sqDepth : UInt32
  cqDepth : UInt32
  pending : UInt64
  submitted : UInt64
  completed : UInt64
  errors : UInt64
  bufferPool : BufferPoolStats

def IoUringEngine.new (Sqe : Type) (config : IoUringConfig) : IoUringEngine Sqe :=
  ⟨config, false, [], [], .new 65536 1024, 0, 0, 0, false⟩

/-- What is simulated of the kernel: a success, of no entry in particular. -/
def Cqe.success (now : Nat) : Cqe := ⟨0, 0, false, false, now⟩

section Engine
variable {Sqe : Type} (e : IoUringEngine Sqe)

def IoUringEngine.initializeEngine (kernelSupport : Bool) :
    Except IoUringError Unit × IoUringEngine Sqe :=
  if kernelSupport then (.ok (), { e with initialized := true, running := true })
  else (.error .kernelTooOld, e)

/-- The oldest entries go until the queue has its depth, each as an error. -/
def trimmed (depth : Nat) : List Sqe → UInt64 → List Sqe × UInt64
  | [], errors => ([], errors)
  | sqe :: rest, errors =>
    if depth < (sqe :: rest).length then trimmed depth rest (errors + 1)
    else (sqe :: rest, errors)

def IoUringEngine.submit (sqes : List Sqe) :
    Except IoUringError Nat × IoUringEngine Sqe :=
  if e.initialized = false then (.error .notInitialized, e)
  else if e.config.sqEntries.toNat < sqes.length then (.error .queueFull, e)
  else
    let (pendingSqes, errors) :=
      trimmed e.config.sqEntries.toNat (e.pendingSqes ++ sqes) e.errors
    (.ok sqes.length, { e with
      pendingSqes
      errors
      submissions := e.submissions + .ofNat sqes.length })

/-- Some entries are taken from the front of the queue. -/
def IoUringEngine.complete (now : Nat) : Nat → IoUringEngine Sqe → List Cqe × IoUringEngine Sqe
  | 0, e => ([], e)
  | count + 1, e =>
    match e.pendingSqes with
    | [] => IoUringEngine.complete now count e
    | _ :: rest =>
      let recentCqes := e.recentCqes ++ [Cqe.success now]
      let (results, e) := IoUringEngine.complete now count { e with
        pendingSqes := rest
        recentCqes := if 256 ≤ recentCqes.length then recentCqes.tail else recentCqes
        completions := e.completions + 1 }
      (Cqe.success now :: results, e)

def IoUringEngine.pollCompletions (now : Nat) : List Cqe × IoUringEngine Sqe :=
  if e.initialized = false then ([], e)
  else IoUringEngine.complete now (min e.pendingSqes.length 32) e

/-- The instants are those of the polls for which there is time before the deadline. -/
def IoUringEngine.await (minComplete : Nat) :
    List Nat → List Cqe → IoUringEngine Sqe → List Cqe × IoUringEngine Sqe
  | [], results, e => (results, e)
  | now :: later, results, e =>
    if results.length < minComplete then
      let (more, e) := e.pollCompletions now
      IoUringEngine.await minComplete later (results ++ more) e
    else (results, e)

def IoUringEngine.submitAndWait (sqes : List Sqe) (minComplete : UInt32) (polls : List Nat) :
    Except IoUringError (List Cqe) × IoUringEngine Sqe :=
  match e.submit sqes with
  | (.error err, e) => (.error err, e)
  | (.ok _, e) =>
    let (results, e) := IoUringEngine.await minComplete.toNat polls [] e
    (.ok results, e)

def IoUringEngine.stats : IoUringStats where
  initialized := e.initialized
  running := e.running
  sqDepth := e.config.sqEntries
  cqDepth := e.config.cqEntries
  pending := .ofNat e.pendingSqes.length
  submitted := e.submissions
  completed := e.completions
  errors := e.errors
  bufferPool := e.bufferPool.stats

def IoUringEngine.shutdown : IoUringEngine Sqe :=
  { e with
    running := false
    pendingSqes := []
    recentCqes := []
    initialized := false }

end Engine

inductive UringOp (Sqe : Type) where
  | initializeEngine (kernelSupport : Bool)
  | submit (sqes : List Sqe)
  | pollCompletions (now : Nat)
  | submitAndWait (sqes : List Sqe) (minComplete : UInt32) (polls : List Nat)
  | shutdown

/-- The engine with the entries that it has accepted and the completions that it has returned, and
with how many entries have been dropped from a full queue, and cleared by a shutdown. -/
structure UringRun (Sqe : Type) where
  engine : IoUringEngine Sqe
  accepted : List Sqe
  returned : List Cqe
  dropped : Nat
  cleared : Nat

section Run
variable {Sqe : Type} (r : UringRun Sqe)

def UringRun.new (Sqe : Type) (config : IoUringConfig) : UringRun Sqe :=
  ⟨.new Sqe config, [], [], 0, 0⟩

/-- The entries are in the queue, less those for which there was no room. -/
def UringRun.accept (sqes : List Sqe) (e : IoUringEngine Sqe) : UringRun Sqe :=
  { r with
    engine := e
    accepted := r.accepted ++ sqes
    dropped := r.dropped +
      ((r.engine.pendingSqes ++ sqes).length - r.engine.config.sqEntries.toNat) }

def UringRun.giveBack (results : List Cqe) (e : IoUringEngine Sqe) : UringRun Sqe :=
  { r with
    engine := e
    returned := r.returned ++ results }

def UringRun.step : UringOp Sqe → UringRun Sqe
  | .initializeEngine kernelSupport =>
    { r with engine := (r.engine.initializeEngine kernelSupport).2 }
  | .submit sqes =>
    match r.engine.submit sqes with
    | (.ok _, e) => r.accept sqes e
    | (.error _, _) => r
  | .pollCompletions now =>
    r.giveBack (r.engine.pollCompletions now).1 (r.engine.pollCompletions now).2
  | .submitAndWait sqes minComplete polls =>
    match r.engine.submitAndWait sqes minComplete polls with
    | (.ok results, e) => (r.accept sqes r.engine).giveBack results e
    | (.error _, _) => r
  | .shutdown =>
    { r with
      engine := r.engine.shutdown
      cleared := r.cleared + r.engine.pendingSqes.length }

def UringRun.run (ops : List (UringOp Sqe)) : UringRun Sqe := ops.foldl UringRun.step r

/-- The queue is first in, first out, of a bounded depth; the counters count what has gone into it
and out of it; and no completion says of which entry it is. -/
structure UringRun.Accounted : Prop where
  fifo : Fifo id r.accepted (r.returned.length + r.dropped + r.cleared) r.engine.pendingSqes
  depth : r.engine.pendingSqes.length ≤ r.engine.config.sqEntries.toNat
  idle : r.engine.initialized = false → r.engine.pendingSqes = []
  submissions : r.engine.submissions = .ofNat r.accepted.length
  completions : r.engine.completions = .ofNat r.returned.length
  errors : r.engine.errors = .ofNat r.dropped
  anonymous : ∀ cqe ∈ r.returned, cqe = .success cqe.completedAt
  recent : r.engine.recentCqes.length ≤ 255

end Run

/-- The entries at the front of the queue have been completed, one for each result. -/
structure Completes {Sqe : Type} (e : IoUringEngine Sqe) (results : List Cqe)
    (e' : IoUringEngine Sqe) : Prop where
  enough : results.length ≤ e.pendingSqes.length
  engine : e' = { e with
    pendingSqes := e.pendingSqes.drop results.length
    recentCqes := e'.recentCqes
    completions := e.completions + .ofNat results.length }
  anonymous : ∀ cqe ∈ results, cqe = .success cqe.completedAt
  recent : e.recentCqes.length ≤ 255 → e'.recentCqes.length ≤ 255

section Steps
variable {Sqe : Type} {e e' e'' : IoUringEngine Sqe} {r : UringRun Sqe}

theorem Completes.refl (e : IoUringEngine Sqe) : Completes e [] e := by
  refine ⟨Nat.zero_le _, ?_, fun _ h => (List.not_mem_nil h).elim, id⟩
  have hzero : e.completions + .ofNat 0 = e.completions := UInt64.add_zero _
  rw [List.length_nil, List.drop_zero, hzero]

theorem Completes.trans (h : Completes e results e') (h' : Completes e' results' e'') :
    Completes e (results ++ results') e'' := by
  have hpending : e'.pendingSqes = e.pendingSqes.drop results.length := by rw [h.engine]
  have henough := h'.enough
  rw [hpending, List.length_drop] at henough
  refine ⟨?_, ?_, ?_, fun hrecent => h'.recent (h.recent hrecent)⟩
  · have hfirst := h.enough
    rw [List.length_append]
    omega
  · rw [List.length_append, ← List.drop_drop, UInt64.ofNat_add, ← UInt64.add_assoc]
    have hengine := h'.engine
    rw [h.engine] at hengine
    exact hengine
  · intro cqe hcqe
    rcases List.mem_append.mp hcqe with hcqe | hcqe
    · exact h.anonymous cqe hcqe
    · exact h'.anonymous cqe hcqe

theorem trimmed_eq (depth : Nat) (l : List Sqe) (errors : UInt64) :
    trimmed depth l errors =
      (l.drop (l.length - depth), errors + .ofNat (l.length - depth)) := by
  induction l generalizing errors with
  | nil =>
    rw [List.length_nil, Nat.zero_sub]
    exact congrArg (Prod.mk []) (UInt64.add_zero errors).symm
  | cons sqe rest ih =>
    rw [trimmed]
    split
    · next hlt =>
      rw [List.length_cons] at hlt ⊢
      have hone (n : Nat) : errors + 1 + UInt64.ofNat n = errors + .ofNat (n + 1) := by
        rw [Nat.add_comm n, UInt64.ofNat_add, ← UInt64.add_assoc]
        rfl
      rw [Nat.succ_sub (by omega), ih, List.drop_succ_cons, hone]
    · next hle =>
      rw [Nat.sub_eq_zero_of_le (Nat.le_of_not_lt hle), List.drop_zero]
      exact congrArg (Prod.mk _) (UInt64.add_zero errors).symm

theorem complete_completes (now : Nat) {count : Nat} (h : count ≤ e.pendingSqes.length) :
    (IoUringEngine.complete now count e).1.length = count ∧
      Completes e (IoUringEngine.complete now count e).1
        (IoUringEngine.complete now count e).2 := by
  induction count generalizing e with
  | zero => exact ⟨rfl, .refl e⟩
  | succ count ih =>
    cases hpending : e.pendingSqes with
    | nil =>
      rw [hpending] at h
      cases h
    | cons sqe rest =>
      rw [hpending, List.length_cons] at h
      rw [IoUringEngine.complete, hpending]
      have hfirst (recent : List Cqe) (hrecent : e.recentCqes.length ≤ 255 → recent.length ≤ 255) :
          Completes e [.success now] { e with
            pendingSqes := rest
            recentCqes := recent
            completions := e.completions + 1 } := by
        refine ⟨?_, ?_, ?_, hrecent⟩
        · rw [hpending, List.length_cons]
          exact Nat.succ_le_succ (Nat.zero_le _)
        · rw [hpending]
          rfl
        · intro cqe hcqe
          rw [List.mem_singleton.mp hcqe]
          rfl
      have hrest := ih (e := { e with
        pendingSqes := rest
        recentCqes := if 256 ≤ (e.recentCqes ++ [Cqe.success now]).length then
          (e.recentCqes ++ [Cqe.success now]).tail else e.recentCqes ++ [Cqe.success now]
        completions := e.completions + 1 }) (Nat.le_of_succ_le_succ h)
      refine ⟨congrArg Nat.succ hrest.1, (hfirst _ ?_).trans hrest.2⟩
      intro hrecent
      split
      · rw [List.length_tail, List.length_append, List.length_singleton]
        omega
      · omega

theorem pollCompletions_completes (e : IoUringEngine Sqe) (now : Nat) :
    Completes e (e.pollCompletions now).1 (e.pollCompletions now).2 := by
  rw [IoUringEngine.pollCompletions]
  split
  · exact .refl e
  · exact (complete_completes now (Nat.min_le_left _ _)).2

theorem pollCompletions_length (h : e.initialized = true) (now : Nat) :
    (e.pollCompletions now).1.length = min e.pendingSqes.length 32 := by
  rw [IoUringEngine.pollCompletions, if_neg (by rw [h]; exact Bool.noConfusion)]
  exact (complete_completes now (Nat.min_le_left _ _)).1

/-- The waiting loop. It reaches the number of completions that it waits for exactly if there are
so many entries, and enough polls for them. -/
theorem await_completes (minComplete : Nat) (polls : List Nat) (results : List Cqe)
    (e : IoUringEngine Sqe) : ∃ more,
      (IoUringEngine.await minComplete polls results e).1 = results ++ more ∧
        Completes e more (IoUringEngine.await minComplete polls results e).2 := by
  induction polls generalizing results e with
  | nil => exact ⟨[], (List.append_nil results).symm, .refl e⟩
  | cons now later ih =>
    rw [IoUringEngine.await]
    split
    · obtain ⟨more, hresults, hmore⟩ :=
        ih (results ++ (e.pollCompletions now).1) (e.pollCompletions now).2
      refine ⟨(e.pollCompletions now).1 ++ more, ?_, (pollCompletions_completes e now).trans hmore⟩
      rw [← List.append_assoc]
      exact hresults
    · exact ⟨[], (List.append_nil results).symm, .refl e⟩

theorem le_await_length (h : e.initialized = true) (minComplete : Nat) (polls : List Nat)
    (results : List Cqe) :
    minComplete ≤ (IoUringEngine.await minComplete polls results e).1.length ↔
      minComplete ≤ results.length + min e.pendingSqes.length (32 * polls.length) := by
  induction polls generalizing results e with
  | nil =>
    change minComplete ≤ results.length ↔
      minComplete ≤ results.length + min e.pendingSqes.length 0
    omega
  | cons now later ih =>
    rw [IoUringEngine.await, List.length_cons]
    split
    · have hpoll := pollCompletions_completes e now
      have hinit : (e.pollCompletions now).2.initialized = true := by rw [hpoll.engine, h]
      have hpending : (e.pollCompletions now).2.pendingSqes =
          e.pendingSqes.drop (e.pollCompletions now).1.length := by rw [hpoll.engine]
      change minComplete ≤ (IoUringEngine.await minComplete later
        (results ++ (e.pollCompletions now).1) (e.pollCompletions now).2).1.length ↔ _
      rw [ih hinit, hpending, List.length_append, List.length_drop, pollCompletions_length h]
      omega
    · change minComplete ≤ results.length ↔ _
      omega

theorem submit_eq_ok_iff : (∃ n, e.submit sqes = (.ok n, e')) ↔
    (e.initialized = true ∧ sqes.length ≤ e.config.sqEntries.toNat) ∧ e' = { e with
      pendingSqes := (e.pendingSqes ++ sqes).drop
        ((e.pendingSqes ++ sqes).length - e.config.sqEntries.toNat)
      errors := e.errors + .ofNat ((e.pendingSqes ++ sqes).length - e.config.sqEntries.toNat)
      submissions := e.submissions + .ofNat sqes.length } := by
  rw [IoUringEngine.submit, trimmed_eq]
  split
  · next hinit =>
    refine iff_of_false (by rintro ⟨n, h⟩; cases h) ?_
    rintro ⟨⟨h, -⟩, -⟩
    rw [h] at hinit
    cases hinit
  · next hinit =>
    split
    · next hfull =>
      refine iff_of_false (by rintro ⟨n, h⟩; cases h) ?_
      rintro ⟨⟨-, hle⟩, -⟩
      omega
    · next hfits =>
      rw [and_iff_right ⟨(Bool.eq_false_or_eq_true _).resolve_right hinit, by omega⟩]
      constructor
      · rintro ⟨n, h⟩
        exact (Prod.mk.inj h).2.symm
      · intro h
        exact ⟨sqes.length, by rw [h]⟩

end Steps

section Accounting
variable {Sqe : Type} {e' : IoUringEngine Sqe} {r : UringRun Sqe}

theorem UringRun.Accounted.giveBack (h : r.Accounted) (hc : Completes r.engine results e') :
    (r.giveBack results e').Accounted := by
  have hpending : e'.pendingSqes = r.engine.pendingSqes.drop results.length := by rw [hc.engine]
  refine ⟨?_, ?_, ?_, ?_, ?_, ?_, ?_, hc.recent h.recent⟩
  · have hfifo := h.fifo.takeAll hc.enough
    have hsum : (r.returned ++ results).length + r.dropped + r.cleared =
        r.returned.length + r.dropped + r.cleared + results.length := by
      rw [List.length_append]
      omega
    rw [← hpending, ← hsum] at hfifo
    exact hfifo
  · change e'.pendingSqes.length ≤ e'.config.sqEntries.toNat
    rw [hpending, List.length_drop, hc.engine]
    exact Nat.le_trans (Nat.sub_le _ _) h.depth
  · change e'.initialized = false → e'.pendingSqes = []
    intro hidle
    rw [hc.engine] at hidle
    rw [hpending, h.idle hidle, List.drop_nil]
  · change e'.submissions = _
    rw [hc.engine]
    exact h.submissions
  · change e'.completions = .ofNat (r.returned ++ results).length
    rw [hc.engine, List.length_append, UInt64.ofNat_add, ← h.completions]
  · change e'.errors = _
    rw [hc.engine]
    exact h.errors
  · intro cqe hcqe
    rcases List.mem_append.mp hcqe with hcqe | hcqe
    · exact h.anonymous cqe hcqe
    · exact hc.anonymous cqe hcqe

theorem UringRun.Accounted.accept (h : r.Accounted)
    (hs : ∃ n, r.engine.submit sqes = (.ok n, e')) : (r.accept sqes e').Accounted := by
  obtain ⟨⟨hinit, -⟩, he⟩ := submit_eq_ok_iff.mp hs
  have hpending : e'.pendingSqes = (r.engine.pendingSqes ++ sqes).drop
      ((r.engine.pendingSqes ++ sqes).length - r.engine.config.sqEntries.toNat) := by rw [he]
  refine ⟨?_, ?_, ?_, ?_, ?_, ?_, h.anonymous, ?_⟩
  · have hfifo := (h.fifo.putAll sqes).takeAll (n :=
      (r.engine.pendingSqes ++ sqes).length - r.engine.config.sqEntries.toNat) (Nat.sub_le _ _)
    rw [List.map_id, ← hpending, Nat.add_right_comm, Nat.add_assoc r.returned.length] at hfifo
    exact hfifo
  · change e'.pendingSqes.length ≤ e'.config.sqEntries.toNat
    rw [hpending, List.length_drop, he]
    change _ ≤ r.engine.config.sqEntries.toNat
    omega
  · change e'.initialized = false → _
    rw [he, hinit]
    rintro ⟨⟩
  · have hsum : e'.submissions = r.engine.submissions + .ofNat sqes.length := by rw [he]
    change e'.submissions = .ofNat (r.accepted ++ sqes).length
    rw [hsum, List.length_append, UInt64.ofNat_add, ← h.submissions]
  · change e'.completions = _
    rw [he]
    exact h.completions
  · change e'.errors = .ofNat (r.dropped + _)
    rw [he, UInt64.ofNat_add, ← h.errors]
  · change e'.recentCqes.length ≤ 255
    rw [he]
    exact h.recent

theorem UringRun.Accounted.shutdown (h : r.Accounted) : (r.step .shutdown).Accounted where
  fifo := by
    have hfifo := h.fifo.takeAll (Nat.le_refl _)
    rw [List.drop_length, Nat.add_assoc _ r.cleared] at hfifo
    exact hfifo
  depth := Nat.zero_le _
  idle _ := rfl
  submissions := h.submissions
  completions := h.completions
  errors := h.errors
  anonymous := h.anonymous
  recent := Nat.zero_le _

theorem UringRun.Accounted.initializeEngine (h : r.Accounted) (kernelSupport : Bool) :
    (r.step (.initializeEngine kernelSupport)).Accounted := by
  rw [UringRun.step, IoUringEngine.initializeEngine]
  split
  · exact ⟨h.fifo, h.depth, (by rintro ⟨⟩), h.submissions, h.completions, h.errors, h.anonymous,
      h.recent⟩
  · exact h

theorem UringRun.Accounted.step (h : r.Accounted) (op : UringOp Sqe) : (r.step op).Accounted := by
  cases op with
  | initializeEngine kernelSupport => exact h.initializeEngine kernelSupport
  | submit sqes =>
    rw [UringRun.step]
    split
    · next n e hs => exact h.accept ⟨n, hs⟩
    · exact h
  | pollCompletions now => exact h.giveBack (pollCompletions_completes r.engine now)
  | submitAndWait sqes minComplete polls =>
    rw [UringRun.step, IoUringEngine.submitAndWait]
    cases hs : r.engine.submit sqes with
    | mk result e =>
      cases result with
      | error err => exact h
      | ok n =>
        obtain ⟨more, hmore, hc⟩ := await_completes minComplete.toNat polls [] e
        have hboth := (h.accept ⟨n, hs⟩).giveBack hc
        rw [List.nil_append] at hmore
        rw [← hmore] at hboth
        exact hboth
  | shutdown => exact h.shutdown

theorem UringRun.new_accounted (config : IoUringConfig) : (UringRun.new Sqe config).Accounted where
  fifo := .empty id
  depth := Nat.zero_le _
  idle _ := rfl
  submissions := rfl
  completions := rfl
  errors := rfl
  anonymous _ h := (List.not_mem_nil h).elim
  recent := Nat.zero_le _

/-- At every point of a run the queue holds the entries accepted last, in order and no more than its
depth. All before them have been completed, dropped or cleared: the statistics count the completed
and the dropped ones rightly, and no completion says which entry it is of. -/
theorem UringRun.run_accounted (config : IoUringConfig) (ops : List (UringOp Sqe)) :
    let r := (UringRun.new Sqe config).run ops
    r.Accounted ∧ r.engine.stats.submitted =
      r.engine.stats.completed + r.engine.stats.errors + r.engine.stats.pending +
        .ofNat r.cleared := by
  intro r
  have h : r.Accounted :=
    run_invariant (I := UringRun.Accounted) _ (UringRun.new_accounted config)
      (fun r op h => h.step op) ops
  refine ⟨h, ?_⟩
  change r.engine.submissions = r.engine.completions + r.engine.errors +
    .ofNat r.engine.pendingSqes.length + .ofNat r.cleared
  rw [h.submissions, h.completions, h.errors, h.fifo.length, ← UInt64.ofNat_add,
    ← UInt64.ofNat_add, ← UInt64.ofNat_add, Nat.add_right_comm]

end Accounting

/-- Whoever submits and waits gets the completions that are asked for exactly if so many entries
fit into the queue, old ones and new, and there is time for a poll for each 32 of them. -/
theorem submitAndWait_iff {Sqe : Type} (e : IoUringEngine Sqe) (sqes : List Sqe)
    (minComplete : UInt32) (polls : List Nat) :
    (∃ results e', e.submitAndWait sqes minComplete polls = (.ok results, e') ∧
        minComplete.toNat ≤ results.length) ↔
      (e.initialized = true ∧ sqes.length ≤ e.config.sqEntries.toNat) ∧
        minComplete.toNat ≤ min (e.pendingSqes.length + sqes.length) e.config.sqEntries.toNat ∧
          minComplete.toNat ≤ 32 * polls.length := by
  rw [IoUringEngine.submitAndWait]
  cases hs : e.submit sqes with
  | mk result e₁ =>
    cases result with
    | error err =>
      refine iff_of_false (by rintro ⟨results, e', ⟨⟩, -⟩) ?_
      rintro ⟨hfits, -⟩
      obtain ⟨n, hn⟩ := submit_eq_ok_iff.mpr ⟨hfits, rfl⟩
      rw [hs] at hn
      cases hn
    | ok n =>
      obtain ⟨hfits, he⟩ := submit_eq_ok_iff.mp ⟨n, hs⟩
      have hinit : e₁.initialized = true := by rw [he, hfits.1]
      have hpending : e₁.pendingSqes.length =
          min (e.pendingSqes.length + sqes.length) e.config.sqEntries.toNat := by
        rw [he, List.length_drop, List.length_append]
        omega
      have hlength := le_await_length hinit minComplete.toNat polls []
      rw [List.length_nil, Nat.zero_add, hpending] at hlength
      rw [and_iff_right hfits, ← Nat.le_min, ← hlength]
      constructor
      · rintro ⟨results, e', ⟨⟩, hle⟩
        exact hle
      · intro hle
        exact ⟨_, _, rfl, hle⟩

end P2PMesh.IoUring
