import P2PMesh.AuthSessions
import P2PMesh.Base.Run
import Mathlib.Order.Nat

namespace P2PMesh.Auth
open P2PMesh.Base
set_option autoImplicit true

/-- Where a login waits: for the database, for its failure to be counted, or for the counter to be
deleted. -/
inductive LoginPhase where
  | checked
  | failed
  | clearing
deriving DecidableEq

structure LoginTask where
  email : String
  password : String
  phase : LoginPhase

/-- The logins that are under way, by number, and how many passwords have been found wrong since
the counter of an email was last deleted or ran out. -/
structure Logins where
  auth : AuthState
  tasks : Std.TreeMap Nat LoginTask
  wrong : String → Nat

def Logins.new (users : Std.TreeMap Uuid User) : Logins := ⟨⟨users, .empty⟩, ∅, fun _ => 0⟩

/-- What happens in one go between two awaits of a login; a counter runs out by itself. -/
inductive LoginStep where
  | check (call : Nat) (email password : String)
  | verify (call : Nat)
  | record (call : Nat)
  | clear (call : Nat)
  | expire (email : String)

def Logins.resetWrong (s : Logins) (email : String) : String → Nat :=
  fun e => if e = email then 0 else s.wrong e

section Logins
variable (env : Env)

def Logins.outcome (s : Logins) (task : LoginTask) : Attempt :=
  s.auth.attempt env.verifyPassword task.email task.password

def Logins.check (s : Logins) (call : Nat) (email password : String) : Logins :=
  match s.tasks[call]?, s.auth.checkLockout env.cfg email with
  | none, .ok () => { s with tasks := s.tasks.insert call ⟨email, password, .checked⟩ }
  | _, _ => s

def Logins.verify (s : Logins) (call : Nat) : Logins :=
  match s.tasks[call]? with
  | some ⟨email, password, .checked⟩ =>
    match s.auth.attempt env.verifyPassword email password with
    | .unknown => { s with tasks := s.tasks.insert call ⟨email, password, .failed⟩ }
    | .wrong =>
      { s with
        tasks := s.tasks.insert call ⟨email, password, .failed⟩
        wrong := fun e => if e = email then s.wrong e + 1 else s.wrong e }
    | .disabled _ => { s with tasks := s.tasks.erase call }
    | .accepted _ => { s with tasks := s.tasks.insert call ⟨email, password, .clearing⟩ }
  | _ => s

def Logins.record (s : Logins) (call : Nat) : Logins :=
  match s.tasks[call]? with
  | some ⟨email, _, .failed⟩ =>
    { s with auth := s.auth.recordFailure email, tasks := s.tasks.erase call }
  | _ => s

def Logins.clear (s : Logins) (call : Nat) : Logins :=
  match s.tasks[call]? with
  | some ⟨email, _, .clearing⟩ =>
    ⟨s.auth.clearLockout email, s.tasks.erase call, s.resetWrong email⟩
  | _ => s

def Logins.step (s : Logins) : LoginStep → Logins
  | .check call email password => s.check env call email password
  | .verify call => s.verify env call
  | .record call => s.record call
  | .clear call => s.clear call
  | .expire email => { s with auth := s.auth.clearLockout email, wrong := s.resetWrong email }

def Logins.run (s : Logins) (steps : List LoginStep) : Logins := steps.foldl (Logins.step env) s

def Logins.counted (s : Logins) (email : String) : Nat :=
  s.auth.redis.loginLockouts[email]?.getD 0

/-- The task is a guess of the email's password, and the guess is wrong. -/
def Logins.guesses (s : Logins) (email : String) (task : LoginTask) : Bool :=
  task.email = email ∧ s.outcome env task = .wrong

/-- The wrong guesses that have passed the check of the counter and are not yet counted. -/
def Logins.underWay (s : Logins) (email : String) : Nat :=
  tally (fun _ task => s.guesses env email task) s.tasks

/-- Those of them whose password has been found wrong. -/
def Logins.uncounted (s : Logins) (email : String) : Nat :=
  tally (fun _ task => s.guesses env email task ∧ task.phase = .failed) s.tasks

/-- A wrong guess passes the check of the counter only when the failures counted and the wrong
guesses under way are fewer than the limit. -/
def Logins.LeavesRoom (s : Logins) : LoginStep → Prop
  | .check call email password =>
    s.tasks[call]? = none → s.auth.checkLockout env.cfg email = .ok () →
      s.auth.attempt env.verifyPassword email password = .wrong →
        s.counted email + s.underWay env email < env.cfg.loginMaxAttempts
  | _ => True

/-- The failures counted and the wrong guesses under way keep to the limit, and they are at least
the passwords found wrong. -/
structure Logins.Bounded (s : Logins) (email : String) : Prop where
  failed : ∀ (call : Nat) (task : LoginTask), s.tasks[call]? = some task →
    task.phase = .failed → s.outcome env task = .unknown ∨ s.outcome env task = .wrong
  room : s.auth.userByEmail email ≠ none →
    s.counted email + s.underWay env email ≤ env.cfg.loginMaxAttempts
  wrong_le : s.wrong email ≤ s.counted email + s.uncounted env email
  unknown : s.auth.userByEmail email = none → s.wrong email = 0

end Logins

section Bounded
variable {env : Env} {s : Logins} {email : String}

theorem counted_recordFailure (s : Logins) (email e : String) (tasks : Std.TreeMap Nat LoginTask) :
    ({ s with auth := s.auth.recordFailure e, tasks } : Logins).counted email =
      s.counted email + if e = email then 1 else 0 := by
  rw [Logins.counted, AuthState.recordFailure]
  dsimp only
  rw [getElem?_insert_eq]
  split
  · next he =>
    rw [he]
    rfl
  · rfl

theorem counted_clearLockout (s : Logins) (email e : String) (tasks : Std.TreeMap Nat LoginTask)
    (wrong : String → Nat) : (⟨s.auth.clearLockout e, tasks, wrong⟩ : Logins).counted email =
      if e = email then 0 else s.counted email := by
  rw [Logins.counted, AuthState.clearLockout]
  dsimp only
  rw [getElem?_erase_eq]
  split
  · rfl
  · rfl

theorem attempt_eq_unknown_iff {password : String} :
    s.auth.attempt env.verifyPassword email password = .unknown ↔
      s.auth.userByEmail email = none := by
  rw [AuthState.attempt]
  cases s.auth.userByEmail email with
  | none => exact iff_of_true rfl rfl
  | some user =>
    dsimp only
    refine iff_of_false ?_ nofun
    split
    · nofun
    · split
      · nofun
      · nofun

theorem Logins.Bounded.new (users : Std.TreeMap Uuid User) :
    (Logins.new users).Bounded env email := by
  constructor
  · intro call task ht
    rw [Logins.new, Std.TreeMap.getElem?_emptyc] at ht
    cases ht
  · exact fun _ => Nat.zero_le _
  · exact Nat.zero_le _
  · exact fun _ => rfl

theorem Logins.Bounded.check (h : s.Bounded env email) {call : Nat} {e password : String}
    (hroom : s.LeavesRoom env (.check call e password)) :
    (s.check env call e password).Bounded env email := by
  rw [Logins.check]
  split
  · next hfresh hpass =>
    constructor
    · intro c task ht hphase
      dsimp only at ht
      rw [getElem?_insert_eq] at ht
      split at ht
      · cases ht
        cases hphase
      · exact h.failed c task ht hphase
    · intro hknown
      have hadded : tally (fun _ task => s.guesses env email task)
          (s.tasks.insert call ⟨e, password, .checked⟩) = s.underWay env email + _ :=
        tally_insert_of_none hfresh
      refine Nat.le_trans (Nat.add_le_add_left hadded.le _) ?_
      have hold := h.room hknown
      split
      · next hguess =>
        obtain ⟨he, hwrong⟩ := of_decide_eq_true hguess
        rw [← show e = email from he]
        exact hroom hfresh hpass hwrong
      · exact hold
    · have hsame : tally (fun _ task => s.guesses env email task ∧ task.phase = .failed)
          (s.tasks.insert call ⟨e, password, .checked⟩) = s.uncounted env email := by
        rw [tally_insert_of_none hfresh, if_neg (by simp)]
        rfl
      exact h.wrong_le.trans (Nat.add_le_add_left hsame.ge _)
    · exact h.unknown
  · exact h

theorem underWay_insert {call : Nat} {e password : String} {phase phase' : LoginPhase}
    (ht : s.tasks[call]? = some ⟨e, password, phase⟩) :
    tally (fun _ task => s.guesses env email task) (s.tasks.insert call ⟨e, password, phase'⟩) =
      s.underWay env email :=
  tally_insert_of_same ht rfl

theorem uncounted_insert {call : Nat} {e password : String} {phase' : LoginPhase}
    (ht : s.tasks[call]? = some ⟨e, password, .checked⟩) :
    tally (fun _ task => s.guesses env email task ∧ task.phase = .failed)
        (s.tasks.insert call ⟨e, password, phase'⟩) =
      s.uncounted env email +
        if s.guesses env email ⟨e, password, phase'⟩ ∧ phase' = .failed then 1 else 0 := by
  have hold : s.uncounted env email = _ := tally_of_some ht
  rw [tally_insert, hold]
  simp

theorem uncounted_erase {call : Nat} {task : LoginTask} (ht : s.tasks[call]? = some task)
    (hphase : task.phase ≠ .failed) :
    tally (fun _ task => s.guesses env email task ∧ task.phase = .failed) (s.tasks.erase call) =
      s.uncounted env email := by
  have hold : s.uncounted env email = _ := tally_of_some ht
  rw [hold, if_neg]
  · rfl
  · simp [hphase]

theorem Logins.Bounded.erase (h : s.Bounded env email) {call : Nat} {task : LoginTask}
    (ht : s.tasks[call]? = some task) (hphase : task.phase ≠ .failed) :
    ({ s with tasks := s.tasks.erase call } : Logins).Bounded env email := by
  constructor
  · intro c other hc hfailed
    dsimp only at hc
    rw [getElem?_erase_eq] at hc
    split at hc
    · cases hc
    · exact h.failed c other hc hfailed
  · intro hknown
    exact (Nat.add_le_add_left tally_erase_le _).trans (h.room hknown)
  · exact h.wrong_le.trans (Nat.add_le_add_left (uncounted_erase ht hphase).ge _)
  · exact h.unknown

theorem Logins.Bounded.reset (h : s.Bounded env email) (e : String) :
    (⟨s.auth.clearLockout e, s.tasks, s.resetWrong e⟩ : Logins).Bounded env email := by
  have hcounted := counted_clearLockout s email e s.tasks (s.resetWrong e)
  constructor
  · exact h.failed
  · intro hknown
    rw [hcounted]
    refine (Nat.add_le_add_right ?_ _).trans (h.room hknown)
    split
    · exact Nat.zero_le _
    · exact le_rfl
  · rw [hcounted]
    change (if email = e then 0 else s.wrong email) ≤ _ + s.uncounted env email
    have hold := h.wrong_le
    split
    · exact Nat.zero_le _
    · next hne =>
      rw [if_neg (Ne.symm hne)]
      exact hold
  · intro hnone
    change (if email = e then 0 else s.wrong email) = 0
    rw [h.unknown hnone, ite_self]

/-- A step that moves a task past the comparison of its password, to a phase other than failed. -/
theorem Logins.Bounded.advance (h : s.Bounded env email) {call : Nat} {e password : String}
    {phase : LoginPhase} (ht : s.tasks[call]? = some ⟨e, password, .checked⟩)
    (hphase : phase = .failed → s.auth.attempt env.verifyPassword e password = .unknown) :
    ({ s with tasks := s.tasks.insert call ⟨e, password, phase⟩ } : Logins).Bounded env email := by
  constructor
  · intro c task hc hfailed
    dsimp only at hc
    rw [getElem?_insert_eq] at hc
    split at hc
    · cases hc
      exact .inl (hphase hfailed)
    · exact h.failed c task hc hfailed
  · intro hknown
    exact (Nat.add_le_add_left (underWay_insert ht).le _).trans (h.room hknown)
  · refine h.wrong_le.trans (Nat.add_le_add_left ?_ _)
    exact (Nat.le_add_right _ _).trans (uncounted_insert ht).ge
  · exact h.unknown

theorem Logins.Bounded.verify (h : s.Bounded env email) (call : Nat) :
    (s.verify env call).Bounded env email := by
  rw [Logins.verify]
  split
  · next e password ht =>
    split
    · next hunknown => exact h.advance ht (fun _ => hunknown)
    · next hwrong =>
      constructor
      · intro c task hc hfailed
        dsimp only at hc
        rw [getElem?_insert_eq] at hc
        split at hc
        · cases hc
          exact .inr hwrong
        · exact h.failed c task hc hfailed
      · intro hknown
        exact (Nat.add_le_add_left (underWay_insert ht).le _).trans (h.room hknown)
      · have hold := h.wrong_le
        have hnew : tally _ (s.tasks.insert call ⟨e, password, .failed⟩) =
            s.uncounted env email + _ := uncounted_insert ht
        refine le_of_le_of_eq ?_ (congrArg (s.counted email + ·) hnew).symm
        dsimp only
        split
        · next he =>
          subst he
          rw [if_pos ⟨decide_eq_true ⟨rfl, hwrong⟩, rfl⟩]
          omega
        · omega
      · intro hnone
        dsimp only
        rw [if_neg]
        · exact h.unknown hnone
        · rintro rfl
          rw [attempt_eq_unknown_iff.mpr hnone] at hwrong
          cases hwrong
    · next user hdisabled => exact h.erase ht nofun
    · next user haccepted => exact h.advance ht nofun
  · exact h

theorem underWay_record {call : Nat} {task : LoginTask} (ht : s.tasks[call]? = some task)
    (env : Env) (email e : String) : s.underWay env email =
      ({ s with auth := s.auth.recordFailure e, tasks := s.tasks.erase call } :
        Logins).underWay env email + if s.guesses env email task then 1 else 0 :=
  tally_of_some ht

theorem uncounted_record {call : Nat} {e password : String}
    (ht : s.tasks[call]? = some ⟨e, password, .failed⟩) (env : Env) (email : String) :
    s.uncounted env email =
      ({ s with auth := s.auth.recordFailure e, tasks := s.tasks.erase call } :
        Logins).uncounted env email +
          if s.guesses env email ⟨e, password, .failed⟩ then 1 else 0 := by
  have hold : s.uncounted env email = _ := tally_of_some ht
  rw [hold]
  simp only [and_true, Bool.decide_eq_true]
  rfl

theorem Logins.Bounded.record (h : s.Bounded env email) (call : Nat) :
    (s.record call).Bounded env email := by
  rw [Logins.record]
  split
  · next e password ht =>
    have hcounted := counted_recordFailure s email e (s.tasks.erase call)
    have hunder := underWay_record ht env email e
    have hunc := uncounted_record ht env email
    constructor
    · intro c task hc hfailed
      dsimp only at hc
      rw [getElem?_erase_eq] at hc
      split at hc
      · cases hc
      · exact h.failed c task hc hfailed
    · intro hknown
      have hroom := h.room hknown
      by_cases he : e = email
      · subst he
        -- what is counted is one guess fewer under way
        have hwrong : s.outcome env ⟨e, password, .failed⟩ = .wrong :=
          (h.failed call _ ht rfl).resolve_left (fun hu => hknown (attempt_eq_unknown_iff.mp hu))
        have hguess : s.guesses env e ⟨e, password, .failed⟩ = true := decide_eq_true ⟨rfl, hwrong⟩
        rw [if_pos hguess] at hunder
        rw [if_pos rfl] at hcounted
        omega
      · rw [if_neg he] at hcounted
        omega
    · have hold := h.wrong_le
      by_cases he : e = email
      · rw [if_pos he] at hcounted
        change s.wrong email ≤ _
        split at hunc
        · omega
        · omega
      · have hguess : s.guesses env email ⟨e, password, .failed⟩ ≠ true :=
          fun hg => he (of_decide_eq_true hg).1
        rw [if_neg hguess] at hunc
        rw [if_neg he] at hcounted
        change s.wrong email ≤ _
        omega
    · exact h.unknown
  · exact h

theorem Logins.Bounded.clear (h : s.Bounded env email) (call : Nat) :
    (s.clear call).Bounded env email := by
  rw [Logins.clear]
  split
  · next e password ht => exact (h.erase ht nofun).reset e
  · exact h

theorem Logins.Bounded.step (h : s.Bounded env email) (a : LoginStep) (hroom : s.LeavesRoom env a) :
    (s.step env a).Bounded env email := by
  cases a with
  | check call e password => exact h.check hroom
  | verify call => exact h.verify call
  | record call => exact h.record call
  | clear call => exact h.clear call
  | expire e => exact h.reset e

theorem Logins.Bounded.wrong_le_max (h : s.Bounded env email) :
    s.wrong email ≤ env.cfg.loginMaxAttempts := by
  by_cases hknown : s.auth.userByEmail email = none
  · rw [h.unknown hknown]
    exact Nat.zero_le _
  · have hle : s.uncounted env email ≤ s.underWay env email := by
      apply List.countP_mono_left
      intro e _ he
      exact (of_decide_eq_true he).1
    exact h.wrong_le.trans ((Nat.add_le_add_left hle _).trans (h.room hknown))

end Bounded

/-- A login with no other call between its parts does what the services do in one go. -/
theorem run_alone (env : Env) (s : Logins) {call : Nat} (hfresh : s.tasks[call]? = none)
    (email password : String) :
    (s.run env [.check call email password, .verify call, .record call, .clear call]).auth =
      (s.auth.authenticate env.cfg env.verifyPassword email password).1 := by
  simp only [Logins.run, List.foldl_cons, List.foldl_nil, Logins.step, Logins.check, hfresh,
    AuthState.authenticate]
  cases hlock : s.auth.checkLockout env.cfg email with
  | error e => simp only [Logins.verify, Logins.record, Logins.clear, hfresh]
  | ok _ =>
    simp only [Logins.verify, getElem?_insert_eq, if_true]
    cases hattempt : s.auth.attempt env.verifyPassword email password with
    | unknown =>
      simp only [Logins.record, Logins.clear, getElem?_insert_eq, getElem?_erase_eq, if_true]
    | wrong =>
      simp only [Logins.record, Logins.clear, getElem?_insert_eq, getElem?_erase_eq, if_true]
    | disabled user => simp only [Logins.record, Logins.clear, getElem?_erase_eq, if_true]
    | accepted user => simp only [Logins.record, Logins.clear, getElem?_insert_eq, if_true]

instance (env : Env) (s : Logins) : ∀ a, Decidable (s.LeavesRoom env a)
  | .check .. => inferInstanceAs (Decidable (_ → _ → _ → _))
  | .verify _ | .record _ | .clear _ | .expire _ => .isTrue trivial

end P2PMesh.Auth
