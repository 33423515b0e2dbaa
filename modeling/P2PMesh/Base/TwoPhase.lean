import Mathlib.Data.Prod.Lex
import P2PMesh.Base.Register
import P2PMesh.Base.Run
import P2PMesh.Base.TableSum

namespace P2PMesh.Base
set_option autoImplicit true

inductive LockMode where
  | read
  | write
deriving DecidableEq

structure Request (ι : Type) where
  lock : ι
  mode : LockMode

def locksOf (requests : List (Request ι)) : List ι := requests.map Request.lock

/-- Two states have the same under each of some locks. -/
def SameOn {V : ι → Type} (locks : List ι) (s s' : ∀ i, V i) : Prop := ∀ i ∈ locks, s i = s' i

theorem sameOn_concat {V : ι → Type} {s s' : ∀ i, V i} {front : List (Request ι)}
    {r : Request ι} : SameOn (locksOf (front ++ [r])) s s' ↔
    SameOn (locksOf front) s s' ∧ s r.lock = s' r.lock := by
  rw [SameOn, locksOf, List.map_append, List.map_singleton, List.forall_mem_append,
    List.forall_mem_singleton]
  rfl

/-- Calls that take their locks in the order of the ranks and give none up before they return. What
they write and answer depends on nothing but what they have locked. -/
structure Protocol (ι κ ρ : Type) (V : ι → Type) where
  requests : κ → List (Request ι)
  write : κ → (i : ι) → (∀ j, V j) → V i
  answer : κ → (∀ j, V j) → ρ
  rank : ι → Nat
  ascending : ∀ c, (requests c).Pairwise (fun r r' => rank r.lock < rank r'.lock)
  write_congr : ∀ {c front r back}, requests c = front ++ r :: back →
    ∀ {s s' : ∀ i, V i}, SameOn (locksOf (front ++ [r])) s s' →
      write c r.lock s = write c r.lock s'
  answer_congr : ∀ {c} {s s' : ∀ i, V i}, SameOn (locksOf (requests c)) s s' →
    answer c s = answer c s'

theorem Protocol.lock_ne {ι κ ρ : Type} {V : ι → Type} {P : Protocol ι κ ρ V} {c : κ}
    {front rest : List (Request ι)} {r r' : Request ι} (h : P.requests c = front ++ r :: rest)
    (hr : r' ∈ front) :
    r'.lock ≠ r.lock := by
  have hasc := P.ascending c
  rw [h, List.pairwise_append] at hasc
  intro heq
  exact absurd (hasc.2.2 r' hr r List.mem_cons_self) (by rw [heq]; exact lt_irrefl _)

section Serial
variable {ι κ ρ : Type} {V : ι → Type} [DecidableEq ι] (P : Protocol ι κ ρ V)

def Protocol.apply (c : κ) (s : ∀ i, V i) (r : Request ι) : ∀ i, V i :=
  match r.mode with
  | .read => s
  | .write => Function.update s r.lock (P.write c r.lock s)

def Protocol.applyAll (c : κ) (held : List (Request ι)) (s : ∀ i, V i) : ∀ i, V i :=
  held.foldl (P.apply c) s

/-- A call by itself. -/
def Protocol.exec (s : ∀ i, V i) (c : κ) : ∀ i, V i := P.applyAll c (P.requests c) s

/-- Calls one after the other, each with what it answers. -/
def Protocol.serial (s : ∀ i, V i) : List κ → List (κ × ρ)
  | [] => []
  | c :: cs => (c, P.answer c (P.exec s c)) :: Protocol.serial (P.exec s c) cs

theorem Protocol.serial_concat (s : ∀ i, V i) (cs : List κ) (c : κ) :
    P.serial s (cs ++ [c]) =
      P.serial s cs ++ [(c, P.answer c (P.exec (cs.foldl P.exec s) c))] := by
  induction cs generalizing s with
  | nil => rfl
  | cons c' cs ih => exact congrArg _ (ih (P.exec s c'))

variable {P} {c : κ} {s s' : ∀ i, V i} {r : Request ι} {front rest held : List (Request ι)} {i : ι}

theorem Protocol.applyAll_concat :
    P.applyAll c (front ++ [r]) s = P.apply c (P.applyAll c front s) r := by
  rw [Protocol.applyAll, List.foldl_append]
  rfl

theorem Protocol.apply_read (h : r.mode = .read) : P.apply c s r = s := by
  rw [Protocol.apply, h]

theorem Protocol.apply_write (h : r.mode = .write) :
    P.apply c s r = Function.update s r.lock (P.write c r.lock s) := by
  rw [Protocol.apply, h]

theorem Protocol.apply_of_ne (h : i ≠ r.lock) : P.apply c s r i = s i := by
  cases hm : r.mode with
  | read => rw [Protocol.apply_read hm]
  | write => rw [Protocol.apply_write hm, Function.update_of_ne h]

theorem Protocol.applyAll_of_not_mem (h : ∀ r ∈ held, r.mode = .write → r.lock ≠ i) :
    P.applyAll c held s i = s i := by
  induction held using List.reverseRecOn with
  | nil => rfl
  | append_singleton front r ih =>
    have hfront := ih (fun r' hr' => h r' (List.mem_append_left _ hr'))
    rw [Protocol.applyAll_concat]
    cases hm : r.mode with
    | read => rw [Protocol.apply_read hm, hfront]
    | write =>
      have hne := h r (List.mem_append_right _ List.mem_cons_self) hm
      rw [Protocol.apply_of_ne hne.symm, hfront]

theorem Protocol.applyAll_lock (h : P.requests c = front ++ r :: rest) :
    P.applyAll c front s r.lock = s r.lock :=
  Protocol.applyAll_of_not_mem (fun _ hr _ => Protocol.lock_ne h hr)

theorem Protocol.apply_congr (h : P.requests c = front ++ r :: rest)
    (hs : SameOn (locksOf (front ++ [r])) s s') :
    SameOn (locksOf (front ++ [r])) (P.apply c s r) (P.apply c s' r) := by
  intro i hi
  cases hm : r.mode with
  | read =>
    rw [Protocol.apply_read hm, Protocol.apply_read hm]
    exact hs i hi
  | write =>
    by_cases hne : i = r.lock
    · subst hne
      rw [Protocol.apply_write hm, Protocol.apply_write hm, Function.update_self,
        Function.update_self]
      exact P.write_congr h hs
    · rw [Protocol.apply_of_ne hne, Protocol.apply_of_ne hne]
      exact hs i hi

theorem Protocol.applyAll_congr (h : P.requests c = held ++ rest)
    (hs : SameOn (locksOf held) s s') :
    SameOn (locksOf held) (P.applyAll c held s) (P.applyAll c held s') := by
  induction held using List.reverseRecOn generalizing rest with
  | nil => exact hs
  | append_singleton front r ih =>
    rw [List.append_assoc] at h
    obtain ⟨hfront, hlock⟩ := sameOn_concat.mp hs
    have hboth : SameOn (locksOf (front ++ [r])) (P.applyAll c front s)
        (P.applyAll c front s') := by
      apply sameOn_concat.mpr
      rw [Protocol.applyAll_lock h, Protocol.applyAll_lock h]
      exact ⟨ih h hfront, hlock⟩
    rw [Protocol.applyAll_concat, Protocol.applyAll_concat]
    exact Protocol.apply_congr h hboth

end Serial

/-- A call under way: what it has locked, what it has still to lock, and since when it waits. -/
structure Task (ι κ : Type) where
  call : κ
  held : List (Request ι)
  rest : List (Request ι)
  ticket : Option Nat

/-- What the calls share, those that are under way and those that have returned, in that order. -/
structure Shared (ι κ ρ : Type) (V : ι → Type) where
  state : ∀ i, V i
  tasks : Std.TreeMap Nat (Task ι κ)
  tickets : Nat
  returned : List (κ × ρ)

inductive TaskOp (κ : Type) where
  | start (id : Nat) (call : κ)
  | ask (id : Nat)
  | grant (id : Nat)
  | finish (id : Nat)

def TaskOp.isStart : TaskOp κ → Bool
  | .start _ _ => true
  | _ => false

/-- How many steps a call has still to take. -/
def Task.work {ι κ : Type} (t : Task ι κ) : Nat :=
  match t.rest, t.ticket with
  | [], _ => 1
  | _ :: rest, none => 2 * rest.length + 3
  | _ :: rest, some _ => 2 * rest.length + 2

theorem Task.work_fresh {ι κ : Type} (c : κ) (held rest : List (Request ι)) :
    (Task.mk c held rest none).work = 2 * rest.length + 1 := by
  cases rest <;> rfl

theorem Task.work_pos {ι κ : Type} (t : Task ι κ) : 0 < t.work := by
  rw [Task.work]
  split <;> omega

def Shared.work {ι κ ρ : Type} {V : ι → Type} (m : Shared ι κ ρ V) : Nat :=
  tableSum Task.work m.tasks

theorem Shared.work_eq_zero_iff {ι κ ρ : Type} {V : ι → Type} {m : Shared ι κ ρ V} :
    m.work = 0 ↔ m.tasks.isEmpty = true := by
  rw [← Std.TreeMap.isEmpty_toList, Shared.work, tableSum]
  cases m.tasks.toList with
  | nil => exact iff_of_true rfl rfl
  | cons e l =>
    have hpos := e.2.work_pos
    rw [List.map_cons, List.sum_cons]
    exact iff_of_false (by omega) (by rintro ⟨⟩)

section Machine
variable {ι κ ρ : Type} {V : ι → Type} [DecidableEq ι]

def Request.clashes (h r : Request ι) : Bool :=
  h.lock = r.lock ∧ (h.mode = .write ∨ r.mode = .write)

def Task.conflicts (t : Task ι κ) (r : Request ι) : Bool := t.held.any (fun h => h.clashes r)

/-- A task stands before a ticket in the queue of a lock. -/
def Task.ahead (t : Task ι κ) (lock : ι) (ticket : Nat) : Bool :=
  match t.rest, t.ticket with
  | r :: _, some n => r.lock = lock ∧ n < ticket
  | _, _ => false

/-- Nobody holds the lock against the request, and nobody has asked for the lock before. -/
def Shared.grantable (m : Shared ι κ ρ V) (id : Nat) (r : Request ι) (ticket : Nat) : Bool :=
  m.tasks.toList.all (fun e => e.1 = id ∨ ¬ (e.2.conflicts r ∨ e.2.ahead r.lock ticket))

/-- A call takes its next lock when its turn comes and writes what it has to write there. When it
returns it has given up all its locks at once: nothing is waited for between two of them. -/
def Shared.step (P : Protocol ι κ ρ V) (m : Shared ι κ ρ V) : TaskOp κ → Shared ι κ ρ V
  | .start id c =>
    match m.tasks[id]? with
    | some _ => m
    | none => { m with tasks := m.tasks.insert id ⟨c, [], P.requests c, none⟩ }
  | .ask id =>
    match m.tasks[id]? with
    | some ⟨c, held, r :: rest, none⟩ =>
      { m with
        tasks := m.tasks.insert id ⟨c, held, r :: rest, some m.tickets⟩
        tickets := m.tickets + 1 }
    | _ => m
  | .grant id =>
    match m.tasks[id]? with
    | some ⟨c, held, r :: rest, some n⟩ =>
      if m.grantable id r n then
        { m with
          state := P.apply c m.state r
          tasks := m.tasks.insert id ⟨c, held ++ [r], rest, none⟩ }
      else m
    | _ => m
  | .finish id =>
    match m.tasks[id]? with
    | some ⟨c, _, [], _⟩ =>
      { m with
        tasks := m.tasks.erase id
        returned := m.returned ++ [(c, P.answer c m.state)] }
    | _ => m

def Shared.run (P : Protocol ι κ ρ V) (m : Shared ι κ ρ V) (ops : List (TaskOp κ)) :
    Shared ι κ ρ V :=
  ops.foldl (Shared.step P) m

def Shared.new (s₀ : ∀ i, V i) : Shared ι κ ρ V := ⟨s₀, ∅, 0, []⟩

/-- What a step does when it does something. -/
inductive Shared.Moves (P : Protocol ι κ ρ V) (m : Shared ι κ ρ V) :
    TaskOp κ → Shared ι κ ρ V → Prop where
  | start {id : Nat} {c : κ} (h : m.tasks[id]? = none) : Moves P m (.start id c)
      { m with tasks := m.tasks.insert id ⟨c, [], P.requests c, none⟩ }
  | ask {id : Nat} {c : κ} {held rest : List (Request ι)} {r : Request ι}
      (h : m.tasks[id]? = some ⟨c, held, r :: rest, none⟩) :
      Moves P m (.ask id)
      { m with
        tasks := m.tasks.insert id ⟨c, held, r :: rest, some m.tickets⟩
        tickets := m.tickets + 1 }
  | grant {id n : Nat} {c : κ} {held rest : List (Request ι)} {r : Request ι}
      (h : m.tasks[id]? = some ⟨c, held, r :: rest, some n⟩)
      (hg : m.grantable id r n = true) :
      Moves P m (.grant id)
      { m with
        state := P.apply c m.state r
        tasks := m.tasks.insert id ⟨c, held ++ [r], rest, none⟩ }
  | finish {id : Nat} {c : κ} {held : List (Request ι)} {ticket : Option Nat}
      (h : m.tasks[id]? = some ⟨c, held, [], ticket⟩) :
      Moves P m (.finish id)
      { m with
        tasks := m.tasks.erase id
        returned := m.returned ++ [(c, P.answer c m.state)] }

variable {P : Protocol ι κ ρ V} {m : Shared ι κ ρ V}

theorem Shared.step_cases (m : Shared ι κ ρ V) (op : TaskOp κ) :
    m.step P op = m ∨ m.Moves P op (m.step P op) := by
  cases op with
  | start id c =>
    rw [Shared.step]
    split
    next => exact .inl rfl
    next h => exact .inr (.start h)
  | ask id =>
    rw [Shared.step]
    split
    next h => exact .inr (.ask h)
    next => exact .inl rfl
  | grant id =>
    rw [Shared.step]
    split
    next h =>
      split
      next hg => exact .inr (.grant h hg)
      next => exact .inl rfl
    next => exact .inl rfl
  | finish id =>
    rw [Shared.step]
    split
    next h => exact .inr (.finish h)
    next => exact .inl rfl

theorem Shared.Moves.step_eq {m' : Shared ι κ ρ V} (h : m.Moves P op m') : m.step P op = m' := by
  cases h with
  | start h => rw [Shared.step, h]
  | ask h => rw [Shared.step, h]
  | grant h hg => rw [Shared.step, h]; exact if_pos hg
  | finish h => rw [Shared.step, h]

theorem Shared.grantable_iff {id : Nat} {r : Request ι} {n : Nat} :
    m.grantable id r n = true ↔ ∀ (id' : Nat) t, m.tasks[id']? = some t → id' ≠ id →
      t.conflicts r = false ∧ t.ahead r.lock n = false := by
  rw [Shared.grantable, List.all_eq_true]
  constructor
  · intro h id' t ht hne
    have hmem := h (id', t) (Std.TreeMap.mem_toList_iff_getElem?_eq_some.mpr ht)
    rw [decide_eq_true_eq, or_iff_right hne, not_or, Bool.not_eq_true, Bool.not_eq_true] at hmem
    exact hmem
  · intro h e he
    rw [decide_eq_true_eq, or_iff_not_imp_left, not_or, Bool.not_eq_true, Bool.not_eq_true]
    exact h e.1 e.2 (Std.TreeMap.mem_toList_iff_getElem?_eq_some.mp he)

theorem Request.clashes_comm (h r : Request ι) : h.clashes r = r.clashes h := by
  exact decide_eq_decide.mpr (and_congr eq_comm or_comm)

theorem Request.read_of_clashes {h r : Request ι} (hc : h.clashes r = false)
    (hl : h.lock = r.lock) : h.mode = .read ∧ r.mode = .read := by
  rw [Request.clashes, decide_eq_false_iff_not, not_and, not_or] at hc
  obtain ⟨hh, hr⟩ := hc hl
  constructor
  · cases hm : h.mode with
    | read => rfl
    | write => exact (hh hm).elim
  · cases hm : r.mode with
    | read => rfl
    | write => exact (hr hm).elim

theorem Task.conflicts_eq_false_iff {t : Task ι κ} {r : Request ι} :
    t.conflicts r = false ↔ ∀ h ∈ t.held, h.clashes r = false := by
  rw [Task.conflicts, List.any_eq_false]
  simp only [Bool.not_eq_true]

/-- The state after the calls that have returned, one after the other. -/
def Shared.settled (P : Protocol ι κ ρ V) (s₀ : ∀ i, V i) (m : Shared ι κ ρ V) : ∀ i, V i :=
  (m.returned.map Prod.fst).foldl P.exec s₀

/-- What the calls under way have locked is as if each of them ran by itself after those that have
returned; all the rest is as those have left it. -/
structure Shared.Serializes (P : Protocol ι κ ρ V) (s₀ : ∀ i, V i) (m : Shared ι κ ρ V) :
    Prop where
  shape : ∀ (id : Nat) t, m.tasks[id]? = some t → P.requests t.call = t.held ++ t.rest
  apart : ∀ (id id' : Nat) t t', m.tasks[id]? = some t → m.tasks[id']? = some t' → id' ≠ id →
    ∀ r ∈ t.held, t'.conflicts r = false
  held : ∀ (id : Nat) t, m.tasks[id]? = some t →
    SameOn (locksOf t.held) m.state (P.applyAll t.call t.held (m.settled P s₀))
  free : ∀ i, (∀ (id : Nat) t, m.tasks[id]? = some t → ∀ r ∈ t.held, r.mode = .write →
    r.lock ≠ i) → m.state i = m.settled P s₀ i
  returned : m.returned = P.serial s₀ (m.returned.map Prod.fst)

section Invariant
variable {s₀ : ∀ i, V i}

theorem Shared.Serializes.new : (Shared.new s₀ : Shared ι κ ρ V).Serializes P s₀ := by
  have hnone (id : Nat) : (Shared.new s₀ : Shared ι κ ρ V).tasks[id]? = none :=
    Std.TreeMap.getElem?_emptyc
  refine ⟨?_, ?_, ?_, fun i _ => rfl, rfl⟩
  · intro id t ht
    rw [hnone] at ht
    cases ht
  · intro id _ t _ ht
    rw [hnone] at ht
    cases ht
  · intro id t ht
    rw [hnone] at ht
    cases ht

theorem Shared.Serializes.replace (h : m.Serializes P s₀) {id tickets : Nat} {t : Task ι κ}
    (hshape : P.requests t.call = t.held ++ t.rest)
    (ht : m.tasks[id]? = none ∧ t.held = [] ∨
      ∃ t', m.tasks[id]? = some t' ∧ t'.call = t.call ∧ t'.held = t.held) :
    Shared.Serializes P s₀ { m with tasks := m.tasks.insert id t, tickets := tickets } := by
  -- every task of the new table holds nothing or holds what one under the same id held before
  have hold : ∀ (id' : Nat) u, (m.tasks.insert id t)[id']? = some u → u.held = [] ∨
      ∃ u', m.tasks[id']? = some u' ∧ u'.call = u.call ∧ u'.held = u.held := by
    intro id' u hu
    rw [getElem?_insert_eq] at hu
    split at hu
    next he =>
      cases hu
      cases he
      exact ht.imp_left And.right
    next => exact .inr ⟨u, hu, rfl, rfl⟩
  refine ⟨?_, ?_, ?_, ?_, h.returned⟩
  · intro id' u hu
    rw [getElem?_insert_eq] at hu
    split at hu
    next =>
      cases hu
      exact hshape
    next => exact h.shape id' u hu
  · intro id₁ id₂ u u' hu hu' hne r hr
    rcases hold id₁ u hu with hnil | ⟨v, hv, -, hheld⟩
    · rw [hnil] at hr
      cases hr
    · rcases hold id₂ u' hu' with hnil | ⟨v', hv', -, hheld'⟩
      · rw [Task.conflicts, hnil]
        rfl
      · have hapart := h.apart id₁ id₂ v v' hv hv' hne r (hheld ▸ hr)
        rw [Task.conflicts, ← hheld']
        exact hapart
  · intro id' u hu
    rcases hold id' u hu with hnil | ⟨v, hv, hcall, hheld⟩
    · rw [hnil]
      intro i hi
      cases hi
    · rw [← hcall, ← hheld]
      exact h.held id' v hv
  · intro i hi
    apply h.free i
    intro id' u hu r hr hw
    by_cases he : id = id'
    · cases he
      rcases ht with ⟨hnone, -⟩ | ⟨v, hv, -, hheld⟩
      · rw [hnone] at hu
        cases hu
      · cases hu.symm.trans hv
        exact hi id t (by rw [getElem?_insert_eq, if_pos rfl]) r (hheld ▸ hr) hw
    · exact hi id' u (by rw [getElem?_insert_of_ne _ _ he]; exact hu) r hr hw

section Grant
variable {id n : Nat} {c : κ} {held rest : List (Request ι)} {r : Request ι}

theorem Shared.Serializes.granted (h : m.Serializes P s₀)
    (ht : m.tasks[id]? = some ⟨c, held, r :: rest, some n⟩) (hg : m.grantable id r n = true) :
    m.state r.lock = m.settled P s₀ r.lock := by
  apply h.free
  intro id' u hu r' hr hw hlock
  by_cases he : id' = id
  · cases he
    cases ht.symm.trans hu
    exact Protocol.lock_ne (h.shape id _ ht) hr hlock
  · obtain ⟨hconflicts, -⟩ := Shared.grantable_iff.mp hg id' u hu he
    have hread := Request.read_of_clashes (Task.conflicts_eq_false_iff.mp hconflicts r' hr) hlock
    rw [hw] at hread
    cases hread.1

/-- What is under the locks of a call when it gets one more is what the call by itself finds. -/
theorem Shared.Serializes.locked (h : m.Serializes P s₀)
    (ht : m.tasks[id]? = some ⟨c, held, r :: rest, some n⟩) (hg : m.grantable id r n = true) :
    SameOn (locksOf (held ++ [r])) (P.apply c m.state r)
      (P.applyAll c (held ++ [r]) (m.settled P s₀)) := by
  have hshape : P.requests c = held ++ r :: rest := h.shape id _ ht
  rw [Protocol.applyAll_concat]
  apply Protocol.apply_congr hshape
  apply sameOn_concat.mpr
  rw [Protocol.applyAll_lock hshape]
  exact ⟨h.held id _ ht, h.granted ht hg⟩

theorem Shared.apply_spares {id' : Nat} {u : Task ι κ} (hg : m.grantable id r n = true)
    (hu : m.tasks[id']? = some u) (hne : id' ≠ id) {r' : Request ι} (hr : r' ∈ u.held) :
    P.apply c m.state r r'.lock = m.state r'.lock := by
  cases hm : r.mode with
  | read => rw [Protocol.apply_read hm]
  | write =>
    apply Protocol.apply_of_ne
    intro he
    obtain ⟨hconflicts, -⟩ := Shared.grantable_iff.mp hg id' u hu hne
    have hread := Request.read_of_clashes (Task.conflicts_eq_false_iff.mp hconflicts r' hr) he
    rw [hm] at hread
    cases hread.2

theorem Shared.Serializes.apart_grant (h : m.Serializes P s₀)
    (ht : m.tasks[id]? = some ⟨c, held, r :: rest, some n⟩) (hg : m.grantable id r n = true)
    {id₁ id₂ : Nat} {u u' : Task ι κ}
    (hu : (m.tasks.insert id ⟨c, held ++ [r], rest, none⟩)[id₁]? = some u)
    (hu' : (m.tasks.insert id ⟨c, held ++ [r], rest, none⟩)[id₂]? = some u') (hne : id₂ ≠ id₁)
    {r' : Request ι} (hr : r' ∈ u.held) : u'.conflicts r' = false := by
  rw [getElem?_insert_eq] at hu hu'
  rw [Task.conflicts_eq_false_iff]
  intro hd hhd
  split at hu
  next he =>
    cases hu
    rw [if_neg (fun he' => hne (he'.symm.trans he))] at hu'
    rcases List.mem_append.mp hr with hr | hr
    · exact Task.conflicts_eq_false_iff.mp (h.apart id id₂ _ u' ht hu' (he ▸ hne) r' hr) hd hhd
    · cases List.mem_singleton.mp hr
      exact Task.conflicts_eq_false_iff.mp
        (Shared.grantable_iff.mp hg id₂ u' hu' (he ▸ hne)).1 hd hhd
  next he =>
    split at hu'
    next =>
      cases hu'
      rcases List.mem_append.mp hhd with hhd | hhd
      · exact Task.conflicts_eq_false_iff.mp (h.apart id₁ id u _ hu ht he r' hr) hd hhd
      · cases List.mem_singleton.mp hhd
        rw [Request.clashes_comm]
        exact Task.conflicts_eq_false_iff.mp
          (Shared.grantable_iff.mp hg id₁ u hu (Ne.symm he)).1 r' hr
    next => exact Task.conflicts_eq_false_iff.mp (h.apart id₁ id₂ u u' hu hu' hne r' hr) hd hhd

theorem Shared.Serializes.grant (h : m.Serializes P s₀)
    (ht : m.tasks[id]? = some ⟨c, held, r :: rest, some n⟩) (hg : m.grantable id r n = true) :
    Shared.Serializes P s₀ { m with
      state := P.apply c m.state r
      tasks := m.tasks.insert id ⟨c, held ++ [r], rest, none⟩ } := by
  have hnew : (m.tasks.insert id ⟨c, held ++ [r], rest, none⟩)[id]? =
      some ⟨c, held ++ [r], rest, none⟩ := by rw [getElem?_insert_eq, if_pos rfl]
  refine ⟨?_, fun id₁ id₂ u u' hu hu' hne r' hr => h.apart_grant ht hg hu hu' hne hr, ?_, ?_,
    h.returned⟩
  · intro id' u hu
    rw [getElem?_insert_eq] at hu
    split at hu
    next =>
      cases hu
      rw [h.shape id _ ht, List.append_assoc]
      rfl
    next => exact h.shape id' u hu
  · intro id' u hu
    rw [getElem?_insert_eq] at hu
    split at hu
    next =>
      cases hu
      exact h.locked ht hg
    next he =>
      intro i hi
      obtain ⟨r', hr, rfl⟩ := List.mem_map.mp hi
      exact (Shared.apply_spares hg hu (Ne.symm he) hr).trans (h.held id' u hu r'.lock hi)
  · intro i hi
    have hsame : P.apply c m.state r i = m.state i := by
      cases hm : r.mode with
      | read => rw [Protocol.apply_read hm]
      | write =>
        apply Protocol.apply_of_ne
        intro he
        exact hi id _ hnew r (List.mem_append_right _ List.mem_cons_self) hm he.symm
    change P.apply c m.state r i = m.settled P s₀ i
    rw [hsame]
    apply h.free i
    intro id' u hu r' hr hw
    by_cases he : id = id'
    · cases he
      cases ht.symm.trans hu
      exact hi id _ hnew r' (List.mem_append_left _ hr) hw
    · exact hi id' u (by rw [getElem?_insert_of_ne _ _ he]; exact hu) r' hr hw

end Grant

theorem Shared.Serializes.finish (h : m.Serializes P s₀) {id : Nat} {c : κ}
    {held : List (Request ι)} {ticket : Option Nat}
    (ht : m.tasks[id]? = some ⟨c, held, [], ticket⟩) :
    Shared.Serializes P s₀ { m with
      tasks := m.tasks.erase id
      returned := m.returned ++ [(c, P.answer c m.state)] } := by
  have hshape : P.requests c = held ++ [] := h.shape id _ ht
  have hall : P.requests c = held := hshape.trans (List.append_nil held)
  have hsettled : Shared.settled P s₀ { m with
      tasks := m.tasks.erase id
      returned := m.returned ++ [(c, P.answer c m.state)] } =
        P.applyAll c held (m.settled P s₀) := by
    rw [Shared.settled, List.map_append, List.foldl_append, ← hall]
    rfl
  have hdone : SameOn (locksOf held) m.state (P.applyAll c held (m.settled P s₀)) :=
    h.held id _ ht
  have hstays : ∀ (id' : Nat) u, (m.tasks.erase id)[id']? = some u →
      id ≠ id' ∧ m.tasks[id']? = some u := by
    intro id' u hu
    rw [getElem?_erase_eq] at hu
    split at hu
    next => cases hu
    next he => exact ⟨he, hu⟩
  refine ⟨?_, ?_, ?_, ?_, ?_⟩
  · intro id' u hu
    exact h.shape id' u (hstays id' u hu).2
  · intro id₁ id₂ u u' hu hu'
    exact h.apart id₁ id₂ u u' (hstays id₁ u hu).2 (hstays id₂ u' hu').2
  · intro id' u hu
    obtain ⟨hne, hu⟩ := hstays id' u hu
    rw [hsettled]
    -- the call that returns has not written what another one holds
    have hsame : SameOn (locksOf u.held) (m.settled P s₀)
        (P.applyAll c held (m.settled P s₀)) := by
      intro i hi
      obtain ⟨r', hr', rfl⟩ := List.mem_map.mp hi
      symm
      apply Protocol.applyAll_of_not_mem
      intro r hr hw hlock
      have hclash := Task.conflicts_eq_false_iff.mp
        (h.apart id id' _ u ht hu hne.symm r hr) r' hr'
      have hread := Request.read_of_clashes hclash hlock.symm
      rw [hw] at hread
      cases hread.2
    intro i hi
    exact (h.held id' u hu i hi).trans (Protocol.applyAll_congr (h.shape id' u hu) hsame i hi)
  · intro i hi
    rw [hsettled]
    by_cases hwritten : ∃ r ∈ held, r.mode = .write ∧ r.lock = i
    · obtain ⟨r, hr, -, rfl⟩ := hwritten
      exact hdone r.lock (List.mem_map_of_mem hr)
    · have hnot : ∀ r ∈ held, r.mode = .write → r.lock ≠ i :=
        fun r hr hw hlock => hwritten ⟨r, hr, hw, hlock⟩
      rw [Protocol.applyAll_of_not_mem hnot]
      apply h.free i
      intro id' u hu r hr hw
      by_cases he : id = id'
      · cases he
        cases ht.symm.trans hu
        exact hnot r hr hw
      · exact hi id' u (by rw [getElem?_erase_of_ne _ he]; exact hu) r hr hw
  · have hanswer : P.answer c m.state = P.answer c (P.exec (m.settled P s₀) c) := by
      apply P.answer_congr
      rw [Protocol.exec, hall]
      exact hdone
    change m.returned ++ [(c, P.answer c m.state)] =
      P.serial s₀ ((m.returned ++ [(c, P.answer c m.state)]).map Prod.fst)
    rw [List.map_append, List.map_singleton, Protocol.serial_concat, ← h.returned, hanswer]
    rfl

theorem Shared.Serializes.step (h : m.Serializes P s₀) (op : TaskOp κ) :
    (m.step P op).Serializes P s₀ := by
  rcases m.step_cases (P := P) op with he | hmoves
  · rw [he]
    exact h
  · generalize m.step P op = m' at hmoves ⊢
    cases hmoves with
    | start ht => exact h.replace rfl (.inl ⟨ht, rfl⟩)
    | ask ht =>
      have hshape := h.shape _ _ ht
      exact h.replace hshape (.inr ⟨_, ht, rfl, rfl⟩)
    | grant ht hg => exact h.grant ht hg
    | finish ht => exact h.finish ht

/-- In whatever order calls take their locks, each has answered what it answers in the order in
which they have returned; when none is under way, the state is the one after all of them. -/
theorem Shared.serializable_run (P : Protocol ι κ ρ V) (s₀ : ∀ i, V i) (ops : List (TaskOp κ)) :
    ((Shared.new s₀).run P ops).returned =
        P.serial s₀ (((Shared.new s₀).run P ops).returned.map Prod.fst) ∧
      (((Shared.new s₀).run P ops).tasks.isEmpty = true →
        ((Shared.new s₀).run P ops).state =
          (((Shared.new s₀).run P ops).returned.map Prod.fst).foldl P.exec s₀) := by
  have h : ((Shared.new s₀).run P ops).Serializes P s₀ :=
    run_invariant (I := Shared.Serializes P s₀) _ .new (fun _ op h => h.step op) ops
  refine ⟨h.returned, ?_⟩
  intro hempty
  funext i
  apply h.free i
  intro id t ht
  rw [Std.TreeMap.getElem?_of_isEmpty hempty] at ht
  cases ht

end Invariant

section Progress

theorem Shared.Moves.work {m' : Shared ι κ ρ V} {op : TaskOp κ} (h : m.Moves P op m')
    (hop : op.isStart = false) : m'.work + 1 = m.work := by
  cases h with
  | start ht => cases hop
  | @ask id c held rest r ht =>
    have hsum := tableSum_insert (f := Task.work) m.tasks id ⟨c, held, r :: rest, some m.tickets⟩
    rw [ht, Option.elim_some] at hsum
    change _ + (2 * rest.length + 3) = _ + (2 * rest.length + 2) at hsum
    change tableSum Task.work (m.tasks.insert id _) + 1 = tableSum Task.work m.tasks
    omega
  | @grant id n c held rest r ht hg =>
    have hsum := tableSum_insert (f := Task.work) m.tasks id ⟨c, held ++ [r], rest, none⟩
    rw [ht, Option.elim_some, Task.work_fresh] at hsum
    change _ + (2 * rest.length + 2) = _ at hsum
    change tableSum Task.work (m.tasks.insert id _) + 1 = tableSum Task.work m.tasks
    omega
  | finish ht => exact tableSum_erase ht

/-- What a waiting call waits for, and how long already: who waits for the lock of the highest rank
comes first, and of those who wait for the same one who has asked first. -/
def Task.precedence (P : Protocol ι κ ρ V) (t : Task ι κ) : ℕ ×ₗ ℕᵒᵈ :=
  match t.rest, t.ticket with
  | r :: _, some n => toLex (P.rank r.lock, OrderDual.toDual n)
  | _, _ => toLex (0, OrderDual.toDual 0)

/-- As long as calls are under way one of them gets on. -/
theorem Shared.Serializes.progress {s₀ : ∀ i, V i} (h : m.Serializes P s₀)
    (hne : m.tasks.isEmpty = false) : ∃ op m', op.isStart = false ∧ m.Moves P op m' := by
  by_cases hlast : ∃ (id : Nat) (c : _) (held : _) (ticket : _),
      m.tasks[id]? = some ⟨c, held, [], ticket⟩
  · obtain ⟨id, c, held, ticket, ht⟩ := hlast
    exact ⟨.finish id, _, rfl, .finish ht⟩
  by_cases hfresh : ∃ (id : Nat) (c : _) (held : _) (r : _) (rest : _),
      m.tasks[id]? = some ⟨c, held, r :: rest, none⟩
  · obtain ⟨id, c, held, r, rest, ht⟩ := hfresh
    exact ⟨.ask id, _, rfl, .ask ht⟩
  have hwaits : ∀ (id : Nat) t, m.tasks[id]? = some t → ∃ c held r rest n,
      t = ⟨c, held, r :: rest, some n⟩ := by
    rintro id ⟨c, held, _ | ⟨r, rest⟩, _ | n⟩ ht
    · exact (hlast ⟨id, c, held, none, ht⟩).elim
    · exact (hlast ⟨id, c, held, some n, ht⟩).elim
    · exact (hfresh ⟨id, c, held, r, rest, ht⟩).elim
    · exact ⟨c, held, r, rest, n, rfl⟩
  have hlist : m.tasks.toList ≠ [] := by
    rw [← Std.TreeMap.isEmpty_toList] at hne
    intro hnil
    rw [hnil] at hne
    cases hne
  have hmax : ∃ e, IsFirstMax (fun e : Nat × Task ι κ => e.2.precedence P) m.tasks.toList e :=
    exists_isFirstMax hlist
  obtain ⟨⟨id, t⟩, he⟩ := hmax
  have ht := Std.TreeMap.mem_toList_iff_getElem?_eq_some.mp he.mem
  obtain ⟨c, held, r, rest, n, rfl⟩ := hwaits id t ht
  refine ⟨.grant id, _, rfl, .grant ht (Shared.grantable_iff.mpr ?_)⟩
  intro id' u hu hne'
  have hle := he.le (Std.TreeMap.mem_toList_iff_getElem?_eq_some.mpr hu)
  have hshape := h.shape id' u hu
  obtain ⟨c', held', r', rest', n', rfl⟩ := hwaits id' u hu
  change toLex (P.rank r'.lock, OrderDual.toDual n') ≤ toLex (P.rank r.lock, OrderDual.toDual n)
    at hle
  rw [Prod.Lex.toLex_le_toLex] at hle
  constructor
  · -- whoever holds a lock waits for one of a higher rank
    rw [Task.conflicts_eq_false_iff]
    intro hd hhd
    rw [Request.clashes, decide_eq_false_iff_not]
    rintro ⟨hlock, -⟩
    have hasc := P.ascending c'
    rw [hshape, List.pairwise_append] at hasc
    have hlt := hasc.2.2 hd hhd r' List.mem_cons_self
    rw [hlock] at hlt
    rcases hle with hle | ⟨hle, -⟩
    · exact absurd (hlt.trans hle) (lt_irrefl _)
    · exact hlt.ne' hle
  · rw [Task.ahead, decide_eq_false_iff_not]
    rintro ⟨hlock, hn⟩
    rw [hlock] at hle
    rcases hle with hle | ⟨-, hle⟩
    · exact absurd hle (lt_irrefl _)
    · exact absurd (OrderDual.toDual_le_toDual.mp hle) (by omega)

theorem Shared.Moves.ne {m' : Shared ι κ ρ V} {op : TaskOp κ} (h : m.Moves P op m')
    (hop : op.isStart = false) : m' ≠ m := by
  intro he
  have hwork := h.work hop
  rw [he] at hwork
  omega

theorem Shared.run_work {ops : List (TaskOp κ)} (hops : ∀ op ∈ ops, op.isStart = false)
    (hmoves : Guarded (Shared.step P) (fun m op => m.step P op ≠ m) m ops) :
    (m.run P ops).work + ops.length = m.work := by
  induction ops generalizing m with
  | nil => rfl
  | cons op ops ih =>
    have hmove := (m.step_cases op).resolve_left hmoves.1
    have hwork := hmove.work (hops op List.mem_cons_self)
    have hrest := ih (fun op' hop' => hops op' (List.mem_cons_of_mem op hop')) hmoves.2
    rw [List.length_cons, ← hwork, ← hrest]
    rfl

/-- No call is ever stuck: whatever steps are taken once no new calls come, as long as they do
something, they return all the calls after so many of them, and one is possible until then. -/
theorem Shared.returns_run (P : Protocol ι κ ρ V) (s₀ : ∀ i, V i) (ops ops' : List (TaskOp κ))
    (hops : ∀ op ∈ ops', op.isStart = false)
    (hmoves : Guarded (Shared.step P) (fun m op => m.step P op ≠ m)
      ((Shared.new s₀).run P ops) ops') :
    ops'.length ≤ ((Shared.new s₀).run P ops).work ∧
      ((((Shared.new s₀).run P ops).run P ops').tasks.isEmpty = true ↔
        ops'.length = ((Shared.new s₀).run P ops).work) ∧
      (ops'.length < ((Shared.new s₀).run P ops).work →
        ∃ op, op.isStart = false ∧ (((Shared.new s₀).run P ops).run P ops').step P op ≠
          ((Shared.new s₀).run P ops).run P ops') := by
  have hwork := Shared.run_work hops hmoves
  have h : (((Shared.new s₀).run P ops).run P ops').Serializes P s₀ :=
    run_invariant (I := Shared.Serializes P s₀) _
      (run_invariant (I := Shared.Serializes P s₀) _ .new (fun _ op h => h.step op) ops)
      (fun _ op h => h.step op) ops'
  rw [← Shared.work_eq_zero_iff]
  refine ⟨by omega, by omega, ?_⟩
  intro hlt
  have hne : (((Shared.new s₀).run P ops).run P ops').tasks.isEmpty = false := by
    rw [← Bool.not_eq_true, ← Shared.work_eq_zero_iff]
    omega
  obtain ⟨op, m', hop, hmove⟩ := h.progress hne
  refine ⟨op, hop, ?_⟩
  rw [hmove.step_eq]
  exact hmove.ne hop

end Progress

end Machine

end P2PMesh.Base
