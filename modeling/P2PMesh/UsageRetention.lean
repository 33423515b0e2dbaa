import P2PMesh.UsageQueue

namespace P2PMesh.UsageQueue
open P2PMesh.Base
set_option autoImplicit true

section Steps
variable {accepts : Row → Bool} {databaseUrl : Bool} {s s' : UsageWorker}

theorem Marks.acceptable_iff {id : Nat} {r : Option Row} (h : Marks pushed id r) :
    Acceptable accepts pushed id ↔ ∃ row, r = some row ∧ accepts row = true := by
  rw [Acceptable, h.row]

theorem Marks.not_acceptable {id : Nat} (h : Marks pushed id none) :
    ¬ Acceptable accepts pushed id := by
  rw [h.acceptable_iff]
  rintro ⟨row, hrow, -⟩
  cases hrow

theorem Acceptable.of_push {id : Nat} (h : Acceptable accepts (pushed ++ [item]) id)
    (hne : id ≠ pushed.length) : Acceptable accepts pushed id := by
  obtain ⟨row, hrow, haccepts⟩ := h
  refine ⟨row, ?_, haccepts⟩
  rw [rowOf, Option.bind_eq_some_iff] at hrow ⊢
  obtain ⟨i, hi, hrow⟩ := hrow
  have hlt := (List.getElem?_eq_some_iff.mp hi).1
  rw [List.length_append, List.length_singleton] at hlt
  rw [List.getElem?_append_left (by omega)] at hi
  exact ⟨i, hi, hrow⟩

theorem UsageWorker.Tracked.lt_length (h : s.Tracked) (hi : i ∈ s.held) :
    i < s.pushed.length := by
  rw [UsageWorker.held, List.mem_append, List.mem_append] at hi
  rcases hi with hi | hi | hi
  · obtain ⟨e, he, rfl⟩ := List.mem_map.mp hi
    exact (h.inserted e he).lt
  · obtain ⟨e, he, rfl⟩ := List.mem_map.mp hi
    exact (h.queued e he).lt
  · obtain ⟨e, he, rfl⟩ := List.mem_map.mp hi
    exact (h.taken e he).lt

theorem UsageWorker.KeepsRecords.drop_iff (h : s.KeepsRecords accepts)
    (hpushed : s'.pushed = s.pushed) (hp : s.held.Perm (l ++ s'.held)) :
    s'.KeepsRecords accepts ↔ ∀ id ∈ l, ¬ Acceptable accepts s.pushed id := by
  rw [UsageWorker.KeepsRecords, hpushed]
  exact Kept.drop_iff h hp

theorem UsageWorker.KeepsRecords.move (h : s.KeepsRecords accepts)
    (hpushed : s'.pushed = s.pushed) (hp : s.held.Perm s'.held) : s'.KeepsRecords accepts :=
  (h.drop_iff (l := []) hpushed hp).mpr (fun _ hi => (List.not_mem_nil hi).elim)

theorem UsageWorker.KeepsRecords.push (h : s.KeepsRecords accepts) (ht : s.Tracked)
    (item : Item) : (s.push item).KeepsRecords accepts := by
  apply Kept.arrive (i := s.pushed.length) h
  · exact fun hi => Nat.lt_irrefl _ (ht.lt_length hi)
  · exact fun _ hne hacceptable => hacceptable.of_push hne
  · rw [List.perm_iff_count]
    intro i
    simp only [UsageWorker.held, UsageWorker.push, List.map_append, List.map_cons, List.map_nil,
      List.count_append, List.count_cons, List.count_nil]
    omega

theorem UsageWorker.KeepsRecords.setPhase (h : s.KeepsRecords accepts) {phase : WorkerPhase}
    (hb : phase.batch = s.phase.batch) :
    UsageWorker.KeepsRecords accepts { s with phase := phase } := by
  apply h.move (by rfl)
  rw [UsageWorker.held, UsageWorker.held, hb]

theorem UsageWorker.KeepsRecords.abandon_iff (h : s.KeepsRecords accepts) {phase : WorkerPhase}
    (hb : s.phase.batch = b) (hphase : phase.batch = []) :
    UsageWorker.KeepsRecords accepts { s with phase := phase } ↔ Spent accepts s.pushed b := by
  rw [Spent]
  apply h.drop_iff (by rfl)
  rw [List.perm_iff_count]
  intro i
  simp only [UsageWorker.held, hb, hphase, List.map_nil, List.count_append, List.count_nil]
  omega

theorem UsageWorker.KeepsRecords.collected (h : s.KeepsRecords accepts)
    (hp : s.phase = .collecting batch) : (s.collected batch).KeepsRecords accepts := by
  apply h.setPhase
  rw [hp]
  cases batch <;> rfl

theorem UsageWorker.KeepsRecords.dequeue (h : s.KeepsRecords accepts) (ht : s.Tracked)
    (hq : s.queue = e :: rest) (hrow : e.2.row = none) :
    UsageWorker.KeepsRecords accepts { s with queue := rest } := by
  rw [h.drop_iff (l := [e.1]) (by rfl)]
  · intro i hi
    rw [List.mem_singleton.mp hi]
    apply Marks.not_acceptable
    rw [← hrow]
    apply ht.queued
    rw [hq]
    exact List.mem_cons_self
  · rw [List.perm_iff_count]
    intro i
    simp only [UsageWorker.held, hq, List.map_cons, List.count_append, List.count_cons,
      List.count_nil]
    omega

theorem UsageWorker.KeepsRecords.pop_iff (h : s.KeepsRecords accepts) (ht : s.Tracked)
    (hp : s.phase = .collecting batch) :
    (s.pop batch).KeepsRecords accepts ↔ s.Spares accepts databaseUrl .pop := by
  rw [UsageWorker.pop, UsageWorker.Spares, hp]
  split
  · next hlt =>
    split
    · next hq =>
      rw [hq]
      exact iff_of_true (h.collected hp) trivial
    · next hq =>
      rw [hq]
      exact iff_of_true ((h.dequeue ht hq rfl).collected hp) trivial
    · next hq =>
      rw [hq]
      dsimp only
      rw [imp_iff_right hlt]
      exact (h.dequeue ht hq rfl).abandon_iff (by rw [hp]; rfl) rfl
    · next id d rest hq =>
      rw [hq]
      apply iff_of_true _ trivial
      apply h.move (by rfl)
      rw [List.perm_iff_count]
      intro i
      simp only [UsageWorker.held, hp, hq, WorkerPhase.batch, List.map_cons, List.map_append,
        List.map_nil, List.count_append, List.count_cons, List.count_nil]
      omega
  · next hfull =>
    apply iff_of_true (h.collected hp)
    split
    · next hphase _ =>
      cases hphase
      exact fun hlt => (hfull hlt).elim
    · trivial

theorem UsageWorker.KeepsRecords.writeUsageBatch_iff (h : s.KeepsRecords accepts) (ht : s.Tracked)
    (hp : s.phase = .writing batch) (outcome : Outcome) :
    (s.writeUsageBatch accepts databaseUrl batch outcome).KeepsRecords accepts ↔
      s.Spares accepts databaseUrl (.write outcome) := by
  have hspares : s.Spares accepts databaseUrl (.write outcome) ↔
      if databaseUrl then outcome = .unacknowledged → rowsOf accepts batch = none
      else Spent accepts s.pushed batch := by
    rw [UsageWorker.Spares, hp]
  rw [hspares]
  obtain ⟨hd, he⟩ | ⟨hd, ho, rows, hrows, he⟩ | ⟨hd, ho, rows, hrows, he⟩ | ⟨hd, hnone, he⟩ :=
    writeUsageBatch_cases accepts databaseUrl s batch outcome
  · rw [he, hd, if_neg Bool.false_ne_true]
    exact h.abandon_iff (by rw [hp]; rfl) rfl
  · rw [he, hd, if_pos rfl, ho]
    apply iff_of_true
    · apply h.move (by rfl)
      rw [List.perm_iff_count]
      intro i
      simp only [UsageWorker.held, hp, WorkerPhase.batch, List.map_nil, List.map_append,
        map_fst_rowsOf hrows, List.count_append, List.count_nil]
      omega
    · exact fun hunack => Outcome.noConfusion hunack
  · -- every record of the batch is inserted and still in hand
    rw [he, hd, if_pos rfl, ho, hrows]
    apply iff_of_false
    · have hrepeat : UsageWorker.KeepsRecords accepts
          { s with inserted := s.inserted ++ rows, phase := .requeueing batch } ↔
          ∀ id ∈ batch.map (·.1), ¬ Acceptable accepts s.pushed id := by
        apply Kept.repeat_iff h
        rw [List.perm_iff_count]
        intro i
        simp only [UsageWorker.held, hp, WorkerPhase.batch, List.map_append,
          map_fst_rowsOf hrows, List.count_append]
        omega
      rw [hrepeat]
      intro hspent
      obtain ⟨e, rest, hbatch⟩ := List.exists_cons_of_ne_nil (ht.writing batch hp)
      obtain ⟨id, d⟩ := e
      rw [hbatch] at hrows
      obtain ⟨row, -, hrow, haccepts, -, -⟩ := rowsOf_cons_eq_some_iff.mp hrows
      apply hspent id
      · rw [hbatch]
        exact List.mem_cons_self
      · have hmark : Marks s.pushed id d.row := by
          apply ht.taken (id, d)
          rw [hp, hbatch]
          exact List.mem_cons_self
        exact hmark.acceptable_iff.mpr ⟨row, hrow, haccepts⟩
    · intro hnone
      cases hnone rfl
  · rw [he, hd, if_pos rfl]
    exact iff_of_true (h.setPhase (by rw [hp]; rfl)) hnone

theorem UsageWorker.KeepsRecords.requeue_iff (h : s.KeepsRecords accepts)
    (hp : s.phase = .requeueing batch) :
    (s.requeue batch).KeepsRecords accepts ↔ s.Spares accepts databaseUrl .requeue := by
  rw [UsageWorker.Spares, hp]
  cases batch with
  | nil =>
    exact iff_of_true (h.setPhase (by rw [hp]; rfl)) trivial
  | cons e batch =>
    obtain ⟨id, d⟩ := e
    rw [UsageWorker.requeue]
    dsimp only
    split
    · exact h.abandon_iff (by rw [hp]; rfl) rfl
    · next retries _ =>
      split
      · next hlt =>
        apply iff_of_true
        · apply h.move (by rfl)
          rw [List.perm_iff_count]
          intro i
          simp only [UsageWorker.held, hp, WorkerPhase.batch, List.map_nil, List.map_cons,
            List.map_append, List.count_append, List.count_cons, List.count_nil]
          omega
        · exact fun hle => (Rat.not_lt.mpr hle hlt).elim
      · next hnlt =>
        rw [imp_iff_right (Rat.not_lt.mp hnlt), h.drop_iff (l := [id]) (by rfl)]
        · exact List.forall_mem_singleton
        · rw [List.perm_iff_count]
          intro i
          simp only [UsageWorker.held, hp, WorkerPhase.batch, List.map_cons, List.count_append,
            List.count_cons, List.count_nil]
          omega

/-- A step keeps every record exactly when it spares those that it could lose or repeat. -/
theorem UsageWorker.KeepsRecords.step_iff (h : s.KeepsRecords accepts) (ht : s.Tracked)
    (op : WorkerOp) : (s.step accepts databaseUrl op).KeepsRecords accepts ↔
      s.Spares accepts databaseUrl op := by
  cases op with
  | push item => exact iff_of_true (h.push ht item) trivial
  | pop =>
    rw [UsageWorker.step]
    split
    · next hp => exact h.pop_iff ht hp
    · next hp =>
      apply iff_of_true h
      rw [UsageWorker.Spares]
      split
      · next hphase _ => exact (hp _ hphase).elim
      · trivial
  | write outcome =>
    rw [UsageWorker.step]
    split
    · next hp => exact h.writeUsageBatch_iff ht hp outcome
    · next hp =>
      apply iff_of_true h
      rw [UsageWorker.Spares]
      split
      · next batch hphase => exact (hp batch hphase).elim
      · trivial
  | requeue =>
    rw [UsageWorker.step]
    split
    · next hp => exact h.requeue_iff hp
    · next hp =>
      apply iff_of_true h
      rw [UsageWorker.Spares]
      split
      · next hphase => exact (hp _ hphase).elim
      · trivial
  | wake =>
    rw [UsageWorker.step]
    split
    · next hp => exact iff_of_true (h.setPhase (by rw [hp]; rfl)) trivial
    · exact iff_of_true h trivial
  | stop => exact h.abandon_iff rfl rfl

end Steps

theorem UsageWorker.start_keepsRecords (accepts : Row → Bool) :
    UsageWorker.start.KeepsRecords accepts := by
  rintro id ⟨row, hrow, -⟩
  cases hrow

theorem records_kept_iff (accepts : Row → Bool) (databaseUrl : Bool) (ops : List WorkerOp) :
    (∀ ops', ops' <+: ops →
      (UsageWorker.start.run accepts databaseUrl ops').KeepsRecords accepts) ↔
    Guarded (UsageWorker.step accepts databaseUrl) (UsageWorker.Spares accepts databaseUrl)
      .start ops :=
  forall_prefix_iff_of (W := UsageWorker.Tracked) .start (fun _ op h => h.step op)
    (UsageWorker.start_keepsRecords accepts) (fun _ op ht h => h.step_iff ht op) ops

section Examples

def apiRequest : Record :=
  ⟨some (.str "00000000-0000-0000-0000-000000000001"), some (.str "api_request"), some (.int 1),
    some .null, some 0⟩

end Examples

/-- A record is gone when a string that is not JSON comes after it in the queue. -/
theorem malformed_drops_record :
    ¬ (UsageWorker.start.run (fun _ => true) true
      [.push (.document (.record apiRequest)), .push .malformed, .pop, .pop]).KeepsRecords
        (fun _ => true) := by
  intro h
  have hone := h 0 ⟨apiRequest.row, rfl, rfl⟩
  exact absurd hone (by decide)

end P2PMesh.UsageQueue
