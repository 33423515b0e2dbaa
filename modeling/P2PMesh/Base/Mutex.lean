import Mathlib.Data.List.Basic

namespace P2PMesh.Base
set_option autoImplicit true

/-- A fair mutex: the first of its queue holds it, the others wait in their order. -/
structure Mutex (τ : Type) where
  queue : List τ
deriving DecidableEq

def Mutex.free : Mutex τ := ⟨[]⟩

def Mutex.holder (m : Mutex τ) : Option τ := m.queue.head?

def Mutex.lock (m : Mutex τ) (task : τ) : Mutex τ := ⟨m.queue ++ [task]⟩

/-- The holder leaves and the next one in the queue holds the mutex. -/
def Mutex.unlock (m : Mutex τ) : Mutex τ := ⟨m.queue.tail⟩

theorem Mutex.mem_of_holder {m : Mutex τ} (h : m.holder = some task) : task ∈ m.queue :=
  List.mem_of_head? h

theorem Mutex.queue_of_holder {m : Mutex τ} (h : m.holder = some task) :
    m.queue = task :: m.unlock.queue := by
  obtain ⟨queue⟩ := m
  cases queue with
  | nil => cases h
  | cons first rest =>
    cases h
    rfl

theorem Mutex.holder_lock {m : Mutex τ} (h : m.holder = some task) (other : τ) :
    (m.lock other).holder = some task := by
  obtain ⟨queue⟩ := m
  cases queue with
  | nil => cases h
  | cons first rest => exact h

theorem Mutex.holder_of_lock {m : Mutex τ} (h : (m.lock other).holder = some task)
    (hne : task ≠ other) : m.holder = some task := by
  obtain ⟨queue⟩ := m
  cases queue with
  | nil =>
    cases h
    exact (hne rfl).elim
  | cons first rest => exact h

theorem Mutex.mem_lock {m : Mutex τ} {task other : τ} :
    other ∈ (m.lock task).queue ↔ other ∈ m.queue ∨ other = task := by
  rw [Mutex.lock, List.mem_append, List.mem_singleton]

theorem Mutex.nodup_lock {m : Mutex τ} (hn : m.queue.Nodup) (h : task ∉ m.queue) :
    (m.lock task).queue.Nodup := by
  rw [Mutex.lock, List.nodup_append]
  refine ⟨hn, List.pairwise_singleton (· ≠ ·) task, ?_⟩
  intro a ha b hb hab
  rw [List.mem_singleton] at hb
  exact h (hb ▸ hab ▸ ha)

theorem Mutex.nodup_unlock {m : Mutex τ} (hn : m.queue.Nodup) : m.unlock.queue.Nodup :=
  hn.tail

theorem Mutex.mem_unlock {m : Mutex τ} (hn : m.queue.Nodup) (h : m.holder = some task) :
    other ∈ m.unlock.queue ↔ other ∈ m.queue ∧ other ≠ task := by
  rw [Mutex.queue_of_holder h] at hn ⊢
  obtain ⟨hhead, -⟩ := List.nodup_cons.mp hn
  rw [List.mem_cons]
  constructor
  · intro ho
    refine ⟨Or.inr ho, ?_⟩
    rintro rfl
    exact hhead ho
  · rintro ⟨rfl | ho, hne⟩
    · exact (hne rfl).elim
    · exact ho

/-- A lock that one task holds to write or several hold to read. -/
structure RwLock (τ : Type) where
  writer : Option τ
  readers : List τ
deriving DecidableEq

def RwLock.free : RwLock τ := ⟨none, []⟩

def RwLock.read (l : RwLock τ) (task : τ) : Option (RwLock τ) :=
  match l.writer with
  | none => some { l with readers := task :: l.readers }
  | some _ => none

def RwLock.write (l : RwLock τ) (task : τ) : Option (RwLock τ) :=
  match l.writer, l.readers with
  | none, [] => some { l with writer := some task }
  | _, _ => none

theorem RwLock.read_of_writer {l : RwLock τ} (h : l.writer = some holder) (task : τ) :
    l.read task = none := by
  rw [RwLock.read, h]

theorem RwLock.write_eq_some {l l' : RwLock τ} (h : l.write task = some l') :
    l.writer = none ∧ l'.writer = some task := by
  rw [RwLock.write] at h
  split at h
  · next hnone _ =>
    cases h
    exact ⟨hnone, rfl⟩
  · cases h

section Release
variable [DecidableEq τ]

/-- A task gives up whatever it holds. -/
def RwLock.release (l : RwLock τ) (task : τ) : RwLock τ :=
  ⟨l.writer.filter (· ≠ task), l.readers.filter (· ≠ task)⟩

theorem RwLock.writer_release {l : RwLock τ} (h : l.writer = some holder) (hne : holder ≠ task) :
    (l.release task).writer = some holder := by
  rw [RwLock.release, h]
  exact if_pos (decide_eq_true hne)

end Release

end P2PMesh.Base
