import P2PMesh.Base.Custody
import P2PMesh.Base.Json
import P2PMesh.Base.Run

namespace P2PMesh.UsageQueue
open P2PMesh.Base
set_option autoImplicit true

/-- A row of usage_records; without a timestamp of its own it has the time of its insertion. -/
structure Row where
  userId : Json
  metricType : Json
  value : Json
  timestamp : Option Json

/-- A JSON object in the queue. Its retries are 0 unless it has a member for them, and none when
that member is no number. -/
structure Record where
  userId : Option Json
  metricType : Option Json
  value : Option Json
  timestamp : Option Json
  retries : Option Rat

def Record.row (r : Record) : Row :=
  ⟨r.userId.getD .null, r.metricType.getD (.str "unknown"), r.value.getD (.int 1), r.timestamp⟩

/-- What `json.loads` gives: an object or anything else. -/
inductive Document where
  | record (r : Record)
  | other

def Document.row : Document → Option Row
  | .record r => some r.row
  | .other => none

/-- The retries with which the loop compares; none raises an error. -/
def Document.retries : Document → Option Rat
  | .record r => r.retries
  | .other => none

def Document.withRetries (retries : Rat) : Document → Document
  | .record r => .record { r with retries := some retries }
  | .other => .other

/-- A string in the queue, as the empty one, one that is not JSON, or its document. -/
inductive Item where
  | blank
  | malformed
  | document (d : Document)

def Item.row : Item → Option Row
  | .document d => d.row
  | _ => none

/-- A batch being filled, one about to be written, what is left of one that goes back to the queue,
the pause and the end. -/
inductive WorkerPhase where
  | collecting (batch : List (Nat × Document))
  | writing (batch : List (Nat × Document))
  | requeueing (batch : List (Nat × Document))
  | sleeping
  | stopped

def WorkerPhase.batch : WorkerPhase → List (Nat × Document)
  | .collecting batch => batch
  | .writing batch => batch
  | .requeueing batch => batch
  | .sleeping => []
  | .stopped => []

/-- The queue and the inserted rows, with the numbers under which the strings were pushed, and what
the worker does. -/
structure UsageWorker where
  pushed : List Item
  queue : List (Nat × Item)
  phase : WorkerPhase
  inserted : List (Nat × Row)

def UsageWorker.start : UsageWorker := ⟨[], [], .collecting [], []⟩

/-- How the database fares with a transaction apart from the rows in it: it works, it fails, or it
commits and the worker does not learn of it. -/
inductive Outcome where
  | works
  | fails
  | unacknowledged
deriving DecidableEq

inductive WorkerOp where
  | push (item : Item)
  | pop
  | write (outcome : Outcome)
  | requeue
  | wake
  | stop

def batchSize : Nat := 100

def maxRetries : Rat := 3

section Worker
variable (accepts : Row → Bool) (databaseUrl : Bool) (s : UsageWorker)

def UsageWorker.push (item : Item) : UsageWorker :=
  { s with pushed := s.pushed ++ [item], queue := s.queue ++ [(s.pushed.length, item)] }

/-- The end of the loop that fills the batch. -/
def UsageWorker.collected (batch : List (Nat × Document)) : UsageWorker :=
  { s with phase := if batch.isEmpty then .sleeping else .writing batch }

/-- One turn of the loop that fills the batch; what is not JSON raises an error, and the batch goes
with it. -/
def UsageWorker.pop (batch : List (Nat × Document)) : UsageWorker :=
  if batch.length < batchSize then
    match s.queue with
    | [] => s.collected batch
    | (_, .blank) :: queue => { s with queue := queue }.collected batch
    | (_, .malformed) :: queue => { s with queue := queue, phase := .sleeping }
    | (id, .document d) :: queue =>
      { s with queue := queue, phase := .collecting (batch ++ [(id, d)]) }
  else s.collected batch

/-- The rows of a batch that the database accepts as a whole. -/
def rowsOf : List (Nat × Document) → Option (List (Nat × Row))
  | [] => some []
  | (id, d) :: batch =>
    match d.row with
    | none => none
    | some row => if accepts row then (rowsOf batch).map ((id, row) :: ·) else none

/-- One transaction for the batch. A document without a row raises an error as the database does
for a row that it does not accept. -/
def UsageWorker.writeUsageBatch (batch : List (Nat × Document)) (outcome : Outcome) :
    UsageWorker :=
  if ¬ databaseUrl then { s with phase := .collecting [] }
  else
    match rowsOf accepts batch, outcome with
    | some rows, .works => { s with inserted := s.inserted ++ rows, phase := .collecting [] }
    | some rows, .unacknowledged =>
      { s with inserted := s.inserted ++ rows, phase := .requeueing batch }
    | _, _ => { s with phase := .requeueing batch }

/-- One turn of the loop after a failure. -/
def UsageWorker.requeue : List (Nat × Document) → UsageWorker
  | [] => { s with phase := .collecting [] }
  | (id, d) :: batch =>
    match d.retries with
    | none => { s with phase := .sleeping }
    | some retries =>
      if retries < maxRetries then
        { s with
          queue := s.queue ++ [(id, .document (d.withRetries (retries + 1)))]
          phase := .requeueing batch }
      else { s with phase := .requeueing batch }

def UsageWorker.step : WorkerOp → UsageWorker
  | .push item => s.push item
  | .pop =>
    match s.phase with
    | .collecting batch => s.pop batch
    | _ => s
  | .write outcome =>
    match s.phase with
    | .writing batch => s.writeUsageBatch accepts databaseUrl batch outcome
    | _ => s
  | .requeue =>
    match s.phase with
    | .requeueing batch => s.requeue batch
    | _ => s
  | .wake =>
    match s.phase with
    | .sleeping => { s with phase := .collecting [] }
    | _ => s
  | .stop => { s with phase := .stopped }

def UsageWorker.run (ops : List WorkerOp) : UsageWorker :=
  ops.foldl (UsageWorker.step accepts databaseUrl) s

/-- The numbers of the strings in the queue and in the batch and of the inserted rows. -/
def UsageWorker.held : List Nat :=
  s.inserted.map (·.1) ++ (s.queue.map (·.1) ++ s.phase.batch.map (·.1))

end Worker

section Records
variable (accepts : Row → Bool) (databaseUrl : Bool) (pushed : List Item) (s : UsageWorker)

/-- The row of the record that was pushed under a number. -/
def rowOf (id : Nat) : Option Row := (pushed[id]?).bind Item.row

/-- A record was pushed under the number, and the database accepts its row. -/
def Acceptable (id : Nat) : Prop := ∃ row, rowOf pushed id = some row ∧ accepts row = true

/-- No record of the batch is one that the database accepts. -/
def Spent (batch : List (Nat × Document)) : Prop :=
  ∀ id ∈ batch.map (·.1), ¬ Acceptable accepts pushed id

/-- Each record that the database accepts is there exactly once. -/
def UsageWorker.KeepsRecords : Prop := Kept (Acceptable accepts s.pushed) s.held

/-- The worker comes upon a string that is not JSON, or upon a document without a number of
retries, with no acceptable record in its hands that would go with it; acceptable records go back
to the queue with retries left; no commit is taken for a failure; there is a database to write to;
and the worker is not stopped with an acceptable record in its hands. -/
def UsageWorker.Spares : WorkerOp → Prop
  | .push _ => True
  | .pop =>
    match s.phase, s.queue with
    | .collecting batch, (_, .malformed) :: _ =>
      batch.length < batchSize → Spent accepts s.pushed batch
    | _, _ => True
  | .write outcome =>
    match s.phase with
    | .writing batch =>
      if databaseUrl then outcome = .unacknowledged → rowsOf accepts batch = none
      else Spent accepts s.pushed batch
    | _ => True
  | .requeue =>
    match s.phase with
    | .requeueing ((id, d) :: batch) =>
      match d.retries with
      | none => Spent accepts s.pushed ((id, d) :: batch)
      | some retries => maxRetries ≤ retries → ¬ Acceptable accepts s.pushed id
    | _ => True
  | .wake => True
  | .stop => Spent accepts s.pushed s.phase.batch

/-- What stands under a number is what was pushed under it. -/
structure Marks (id : Nat) (row : Option Row) : Prop where
  lt : id < pushed.length
  row : rowOf pushed id = row

structure UsageWorker.Tracked : Prop where
  queued : ∀ e ∈ s.queue, Marks s.pushed e.1 e.2.row
  taken : ∀ e ∈ s.phase.batch, Marks s.pushed e.1 e.2.row
  inserted : ∀ e ∈ s.inserted, Marks s.pushed e.1 (some e.2)
  writing : ∀ batch, s.phase = .writing batch → batch ≠ []

end Records

section Steps
variable {accepts : Row → Bool} {databaseUrl : Bool} {s : UsageWorker}

theorem Marks.push {id : Nat} {r : Option Row} (h : Marks pushed id r) (item : Item) :
    Marks (pushed ++ [item]) id r where
  lt := by
    rw [List.length_append]
    exact Nat.lt_add_right _ h.lt
  row := by
    rw [rowOf, List.getElem?_append_left h.lt]
    exact h.row

theorem Marks.new (pushed : List Item) (item : Item) :
    Marks (pushed ++ [item]) pushed.length item.row where
  lt := by simp only [List.length_append, List.length_singleton, Nat.lt_add_one]
  row := by rw [rowOf, List.getElem?_concat_length, Option.bind_some]

theorem Document.row_withRetries (retries : Rat) (d : Document) :
    (d.withRetries retries).row = d.row := by
  cases d with
  | record r => rfl
  | other => rfl

theorem rowsOf_cons_eq_some_iff {id : Nat} {d : Document} :
    rowsOf accepts ((id, d) :: batch) = some rows ↔
      ∃ row rest, d.row = some row ∧ accepts row = true ∧ rowsOf accepts batch = some rest ∧
        (id, row) :: rest = rows := by
  rw [rowsOf]
  cases d.row with
  | none => simp only [reduceCtorEq, false_and, exists_false]
  | some row =>
    dsimp only
    split
    · next haccepts =>
      simp only [Option.map_eq_some_iff, Option.some.injEq, exists_and_left, exists_eq_left',
        haccepts, true_and]
    · next hrejects =>
      simp only [reduceCtorEq, Option.some.injEq, exists_and_left, exists_eq_left', hrejects,
        false_and]

theorem map_fst_rowsOf (h : rowsOf accepts batch = some rows) :
    rows.map (·.1) = batch.map (·.1) := by
  induction batch generalizing rows with
  | nil =>
    cases h
    rfl
  | cons e batch ih =>
    obtain ⟨row, rest, -, -, hrest, rfl⟩ := rowsOf_cons_eq_some_iff.mp h
    rw [List.map_cons, List.map_cons, ih hrest]

theorem mem_rowsOf (h : rowsOf accepts batch = some rows) (he : e ∈ rows) :
    ∃ d, (e.1, d) ∈ batch ∧ d.row = some e.2 ∧ accepts e.2 = true := by
  induction batch generalizing rows with
  | nil =>
    cases h
    exact (List.not_mem_nil he).elim
  | cons e' batch ih =>
    obtain ⟨id, d⟩ := e'
    obtain ⟨row, rest, hrow, haccepts, hrest, rfl⟩ := rowsOf_cons_eq_some_iff.mp h
    rcases List.mem_cons.mp he with rfl | hmem
    · exact ⟨d, List.mem_cons_self, hrow, haccepts⟩
    · obtain ⟨d', hd, hrow', haccepts'⟩ := ih hrest hmem
      exact ⟨d', List.mem_cons_of_mem _ hd, hrow', haccepts'⟩

theorem UsageWorker.Tracked.inHand (h : s.Tracked) (hb : s.phase.batch = b) :
    ∀ e ∈ b, Marks s.pushed e.1 e.2.row := by
  rw [← hb]
  exact h.taken

theorem UsageWorker.Tracked.start : UsageWorker.start.Tracked where
  queued _ he := (List.not_mem_nil he).elim
  taken _ he := (List.not_mem_nil he).elim
  inserted _ he := (List.not_mem_nil he).elim
  writing _ h := WorkerPhase.noConfusion h

theorem UsageWorker.Tracked.push (h : s.Tracked) (item : Item) : (s.push item).Tracked where
  queued e he := by
    rcases List.mem_append.mp he with he | he
    · exact (h.queued e he).push item
    · cases List.mem_singleton.mp he
      exact .new s.pushed item
  taken e he := (h.taken e he).push item
  inserted e he := (h.inserted e he).push item
  writing := h.writing

theorem UsageWorker.Tracked.setPhase (h : s.Tracked) {phase : WorkerPhase}
    (htaken : ∀ e ∈ phase.batch, Marks s.pushed e.1 e.2.row)
    (hwriting : ∀ batch, phase = .writing batch → batch ≠ []) :
    UsageWorker.Tracked { s with phase := phase } where
  queued := h.queued
  taken := htaken
  inserted := h.inserted
  writing := hwriting

theorem UsageWorker.Tracked.collected (h : s.Tracked)
    (htaken : ∀ e ∈ batch, Marks s.pushed e.1 e.2.row) : (s.collected batch).Tracked := by
  cases batch with
  | nil =>
    apply h.setPhase
    · exact fun _ he => (List.not_mem_nil he).elim
    · exact fun _ hp => WorkerPhase.noConfusion hp
  | cons e batch =>
    apply h.setPhase
    · exact htaken
    · intro batch' hp
      cases hp
      exact List.cons_ne_nil e batch

theorem UsageWorker.Tracked.dequeue (h : s.Tracked) (hq : s.queue = e :: rest) :
    UsageWorker.Tracked { s with queue := rest } where
  queued e' he := h.queued e' (by rw [hq]; exact List.mem_cons_of_mem e he)
  taken := h.taken
  inserted := h.inserted
  writing := h.writing

theorem UsageWorker.Tracked.pop (h : s.Tracked) (hp : s.phase = .collecting batch) :
    (s.pop batch).Tracked := by
  have htaken : ∀ e ∈ batch, Marks s.pushed e.1 e.2.row := h.inHand (by rw [hp]; rfl)
  rw [UsageWorker.pop]
  split
  · split
    · exact h.collected htaken
    · next hq => exact (h.dequeue hq).collected htaken
    · next hq =>
      apply (h.dequeue hq).setPhase
      · exact fun _ he => (List.not_mem_nil he).elim
      · exact fun _ hphase => WorkerPhase.noConfusion hphase
    · next id d queue hq =>
      apply (h.dequeue hq).setPhase
      · intro e he
        rcases List.mem_append.mp he with he | he
        · exact htaken e he
        · cases List.mem_singleton.mp he
          exact h.queued (id, .document d) (by rw [hq]; exact List.mem_cons_self)
      · exact fun _ hphase => WorkerPhase.noConfusion hphase
  · exact h.collected htaken

theorem UsageWorker.Tracked.insert (h : s.Tracked) (hp : s.phase = .writing batch)
    (hrows : rowsOf accepts batch = some rows) :
    UsageWorker.Tracked { s with inserted := s.inserted ++ rows } where
  queued := h.queued
  taken := h.taken
  inserted e he := by
    rcases List.mem_append.mp he with he | he
    · exact h.inserted e he
    · obtain ⟨d, hd, hrow, -⟩ := mem_rowsOf hrows he
      rw [← hrow]
      apply h.taken (e.1, d)
      rw [hp]
      exact hd
  writing := h.writing

/-- What a write can come to: nothing without a database, an inserted batch, an inserted batch that
goes back to the queue all the same, or a batch that only goes back. -/
theorem UsageWorker.writeUsageBatch_cases (accepts : Row → Bool) (databaseUrl : Bool)
    (s : UsageWorker) (batch : List (Nat × Document)) (outcome : Outcome) :
    databaseUrl = false ∧
        s.writeUsageBatch accepts databaseUrl batch outcome = { s with phase := .collecting [] } ∨
      databaseUrl = true ∧ outcome = .works ∧ (∃ rows, rowsOf accepts batch = some rows ∧
        s.writeUsageBatch accepts databaseUrl batch outcome =
          { s with inserted := s.inserted ++ rows, phase := .collecting [] }) ∨
      databaseUrl = true ∧ outcome = .unacknowledged ∧ (∃ rows, rowsOf accepts batch = some rows ∧
        s.writeUsageBatch accepts databaseUrl batch outcome =
          { s with inserted := s.inserted ++ rows, phase := .requeueing batch }) ∨
      databaseUrl = true ∧ (outcome = .unacknowledged → rowsOf accepts batch = none) ∧
        s.writeUsageBatch accepts databaseUrl batch outcome =
          { s with phase := .requeueing batch } := by
  unfold UsageWorker.writeUsageBatch
  cases databaseUrl with
  | false => exact .inl ⟨rfl, rfl⟩
  | true =>
    cases hrows : rowsOf accepts batch with
    | none => exact .inr (.inr (.inr ⟨rfl, fun _ => rfl, rfl⟩))
    | some rows =>
      cases outcome with
      | works => exact .inr (.inl ⟨rfl, rfl, rows, rfl, rfl⟩)
      | fails => exact .inr (.inr (.inr ⟨rfl, fun h => Outcome.noConfusion h, rfl⟩))
      | unacknowledged => exact .inr (.inr (.inl ⟨rfl, rfl, rows, rfl, rfl⟩))

theorem UsageWorker.Tracked.writeUsageBatch (h : s.Tracked) (hp : s.phase = .writing batch)
    (outcome : Outcome) : (s.writeUsageBatch accepts databaseUrl batch outcome).Tracked := by
  have htaken : ∀ e ∈ batch, Marks s.pushed e.1 e.2.row := h.inHand (by rw [hp]; rfl)
  have hnone : ∀ e ∈ (WorkerPhase.collecting []).batch, Marks s.pushed e.1 e.2.row :=
    fun _ he => (List.not_mem_nil he).elim
  obtain ⟨-, he⟩ | ⟨-, -, rows, hrows, he⟩ | ⟨-, -, rows, hrows, he⟩ | ⟨-, -, he⟩ :=
    writeUsageBatch_cases accepts databaseUrl s batch outcome
  · rw [he]
    exact h.setPhase hnone (fun _ hphase => WorkerPhase.noConfusion hphase)
  · rw [he]
    exact (h.insert hp hrows).setPhase hnone (fun _ hphase => WorkerPhase.noConfusion hphase)
  · rw [he]
    exact (h.insert hp hrows).setPhase htaken (fun _ hphase => WorkerPhase.noConfusion hphase)
  · rw [he]
    exact h.setPhase htaken (fun _ hphase => WorkerPhase.noConfusion hphase)

theorem UsageWorker.Tracked.enqueue (h : s.Tracked) {id : Nat} {d : Document}
    (hd : Marks s.pushed id d.row) :
    UsageWorker.Tracked { s with queue := s.queue ++ [(id, .document d)] } where
  queued e he := by
    rcases List.mem_append.mp he with he | he
    · exact h.queued e he
    · cases List.mem_singleton.mp he
      exact hd
  taken := h.taken
  inserted := h.inserted
  writing := h.writing

theorem UsageWorker.Tracked.requeue (h : s.Tracked) (hp : s.phase = .requeueing batch) :
    (s.requeue batch).Tracked := by
  have htaken : ∀ e ∈ batch, Marks s.pushed e.1 e.2.row := h.inHand (by rw [hp]; rfl)
  cases batch with
  | nil => exact h.setPhase htaken (fun _ hphase => WorkerPhase.noConfusion hphase)
  | cons e batch =>
    obtain ⟨id, d⟩ := e
    obtain ⟨hd, hrest⟩ := List.forall_mem_cons.mp htaken
    rw [UsageWorker.requeue]
    split
    · apply h.setPhase
      · exact fun _ he => (List.not_mem_nil he).elim
      · exact fun _ hphase => WorkerPhase.noConfusion hphase
    · next retries _ =>
      have hd' : Marks s.pushed id (d.withRetries (retries + 1)).row := by
        rw [Document.row_withRetries]
        exact hd
      split
      · exact (h.enqueue hd').setPhase hrest (fun _ hphase => WorkerPhase.noConfusion hphase)
      · exact h.setPhase hrest (fun _ hphase => WorkerPhase.noConfusion hphase)

theorem UsageWorker.Tracked.step (h : s.Tracked) (op : WorkerOp) :
    (s.step accepts databaseUrl op).Tracked := by
  cases op with
  | push item => exact h.push item
  | pop =>
    rw [UsageWorker.step]
    split
    · next hp => exact h.pop hp
    · exact h
  | write outcome =>
    rw [UsageWorker.step]
    split
    · next hp => exact h.writeUsageBatch hp outcome
    · exact h
  | requeue =>
    rw [UsageWorker.step]
    split
    · next hp => exact h.requeue hp
    · exact h
  | wake =>
    rw [UsageWorker.step]
    split
    · apply h.setPhase
      · exact fun _ he => (List.not_mem_nil he).elim
      · exact fun _ hphase => WorkerPhase.noConfusion hphase
    · exact h
  | stop =>
    apply h.setPhase
    · exact fun _ he => (List.not_mem_nil he).elim
    · exact fun _ hphase => WorkerPhase.noConfusion hphase

end Steps

end P2PMesh.UsageQueue
