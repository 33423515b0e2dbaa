import P2PMesh.Base.Run
import P2PMesh.Base.SlidingWindow
import P2PMesh.Base.Table

namespace P2PMesh.RateLimit
open P2PMesh.Base
set_option autoImplicit true

/-- One of the two copies of the middleware: the budget that it falls back to, and whether its check
against Redis is given the request that the fallback needs. -/
structure Copy where
  maxRpm : Nat
  hasRequest : Bool
deriving DecidableEq

def controlPlane : Copy := ⟨5, true⟩

def shared : Copy := ⟨20, false⟩

/-- Instants are counted in microseconds. -/
structure MemoryEntry where
  windowStart : Nat
  count : Nat
deriving DecidableEq

/-- What the application's state holds for the check in memory. -/
structure MemoryLimits where
  rateLimits : Std.TreeMap String MemoryEntry
  lastCleanup : Option Nat

def seconds (n : Nat) : Nat := n * 1000000

/-- A new entry goes into the dictionary that a cleanup has just replaced. -/
def MemoryLimits.check (m : MemoryLimits) (clientIp : String) (threshold now : Nat) :
    MemoryLimits × Bool :=
  let lastCleanup := m.lastCleanup.getD now
  let cleanup : Bool := lastCleanup + seconds 120 < now
  let kept := if cleanup then
    m.rateLimits.filter (fun _ entry => now < entry.windowStart + seconds 120) else m.rateLimits
  let current := (m.rateLimits[clientIp]?).filter
    (fun entry => ¬ entry.windowStart + seconds 60 < now)
  let entry := current.getD ⟨now, 0⟩
  let entry := { entry with count := entry.count + 1 }
  let rateLimits := if cleanup ∧ current = none then kept else kept.insert clientIp entry
  (⟨rateLimits, some (if cleanup then now else lastCleanup)⟩, entry.count ≤ threshold)

/-- The answer to a request: from the check against Redis, from the one in memory, or the error of a
name that the method does not have. -/
inductive Verdict where
  | redis (allowed : Bool)
  | memory (allowed : Bool)
  | nameError
deriving DecidableEq

/-- The next command of a check, or its verdict. -/
inductive CheckPhase where
  | zremrangebyscore
  | zcard
  | zadd
  | expire
  | done (v : Verdict)
deriving DecidableEq

def CheckPhase.waits : CheckPhase → Bool
  | .done _ => false
  | _ => true

/-- A check under way and the milliseconds that it has read off the clock. -/
structure Check where
  nowMs : Nat
  phase : CheckPhase
deriving DecidableEq

/-- The request has been allowed by the check against Redis, or has only to be entered. -/
def Check.isLetThrough (c : Check) : Bool :=
  match c.phase with
  | .zadd => true
  | .expire => true
  | .done (.redis allowed) => allowed
  | _ => false

def Check.isAllowed (c : Check) : Bool := c.phase = .done (.redis true)

/-- The clock, the sorted set of a client, whose members are its scores, with the time at which its
key expires, the checks of the client's requests and the application's state. -/
structure Limiter where
  now : Nat
  entries : List Nat
  expiresAt : Option Nat
  checks : Std.TreeMap Nat Check
  memory : MemoryLimits

def Limiter.start : Limiter := ⟨0, [], none, ∅, ⟨∅, none⟩⟩

/-- A request arrives, a command of its check is carried out, or fails, with the effect that it has
in the store or without it, or time passes. -/
inductive LimiterOp where
  | arrive (id : Nat)
  | advance (id : Nat)
  | fail (id : Nat) (applied : Bool)
  | elapse (microseconds : Nat)

def windowMs : Nat := 60000

section Limiter
variable (copy : Copy) (clientIp : String) (callsPerMinute : Nat) (s : Limiter)

def Limiter.at (id : Nat) (c : Check) (phase : CheckPhase) : Limiter :=
  { s with checks := s.checks.insert id { c with phase := phase } }

/-- A set without members has no key. -/
def Limiter.zremrangebyscore (nowMs : Nat) : Limiter :=
  let entries := s.entries.filter (fun t => ¬ t + windowMs ≤ nowMs)
  { s with entries := entries, expiresAt := if entries.isEmpty then none else s.expiresAt }

def Limiter.zadd (nowMs : Nat) : Limiter := { s with entries := s.entries.insert nowMs }

def Limiter.expire : Limiter :=
  { s with expiresAt := if s.entries.isEmpty then s.expiresAt else some (s.now + seconds 120) }

/-- What the next command of a check does to the store. -/
def Limiter.command (c : Check) : Limiter :=
  match c.phase with
  | .zremrangebyscore => s.zremrangebyscore c.nowMs
  | .zadd => s.zadd c.nowMs
  | .expire => s.expire
  | _ => s

/-- What comes after the next command of a check. -/
def Limiter.next (c : Check) : CheckPhase :=
  match c.phase with
  | .zremrangebyscore => .zcard
  | .zcard => if callsPerMinute ≤ s.entries.length then .done (.redis false) else .zadd
  | .zadd => .expire
  | .expire => .done (.redis true)
  | .done v => .done v

/-- The handler of an error of the store. -/
def Limiter.fallBack (id : Nat) (c : Check) : Limiter :=
  if copy.hasRequest then
    let (memory, allowed) := s.memory.check clientIp copy.maxRpm s.now
    { s with memory := memory }.at id c (.done (.memory allowed))
  else s.at id c (.done .nameError)

def Limiter.elapse (microseconds : Nat) : Limiter :=
  let now := s.now + microseconds
  if s.expiresAt.any (fun expiresAt => expiresAt ≤ now) then
    { s with now := now, entries := [], expiresAt := none }
  else { s with now := now }

def Limiter.step : LimiterOp → Limiter
  | .arrive id =>
    match s.checks[id]? with
    | none => s.at id ⟨s.now / 1000, .zremrangebyscore⟩ .zremrangebyscore
    | some _ => s
  | .advance id =>
    match s.checks[id]? with
    | none => s
    | some c => (s.command c).at id c (s.next callsPerMinute c)
  | .fail id applied =>
    match s.checks[id]? with
    | none => s
    | some c =>
      if c.phase.waits then (if applied then s.command c else s).fallBack copy clientIp id c else s
  | .elapse microseconds => s.elapse microseconds

def Limiter.run (ops : List LimiterOp) : Limiter :=
  ops.foldl (Limiter.step copy clientIp callsPerMinute) s

/-- When the requests of the checks of a kind came in. -/
def arrivals (kind : Check → Bool) (checks : Std.TreeMap Nat Check) : List Nat :=
  (checks.toList.filter (fun e => kind e.2)).map (fun e => e.2.nowMs)

/-- The requests that the check against Redis has allowed. -/
def Limiter.allowed : List Nat := arrivals Check.isAllowed s.checks

/-- The requests that it has allowed or is about to allow. -/
def Limiter.letThrough : List Nat := arrivals Check.isLetThrough s.checks

/-- In no minute more requests are allowed than the limit. -/
def Limiter.WithinLimit : Prop := AtMost windowMs callsPerMinute s.allowed

/-- A check whose command fails has the verdict of the check in memory with the budget of the
copy. -/
def Limiter.FallsBack : LimiterOp → Prop
  | .fail id applied =>
    ∀ c, s.checks[id]? = some c → c.phase.waits = true →
      (s.step copy clientIp callsPerMinute (.fail id applied)).checks[id]? =
        some { c with
          phase := .done (.memory (s.memory.check clientIp copy.maxRpm s.now).2) }
  | _ => True

/-- The requests let through less than a minute before or after one that have no entry of their own
in the set. -/
def Limiter.unentered (nowMs : Nat) : List Nat :=
  (s.letThrough.filter (nearBy windowMs nowMs)).diff s.entries

/-- A request that goes on to be entered would do so too if the requests near it without an entry of
their own were counted; and no command fails where the fallback has no request. -/
def Limiter.Spares : LimiterOp → Prop
  | .advance id =>
    match s.checks[id]? with
    | none => True
    | some c => c.phase = .zcard → s.entries.length < callsPerMinute →
        (s.unentered c.nowMs).length + s.entries.length < callsPerMinute
  | .fail id _ =>
    match s.checks[id]? with
    | none => True
    | some c => c.phase.waits = true → copy.hasRequest = true
  | _ => True

instance decidableSpares : ∀ op, Decidable (s.Spares copy callsPerMinute op)
  | .arrive _ => .isTrue trivial
  | .advance id =>
    match h : s.checks[id]? with
    | none => .isTrue (by rw [Limiter.Spares, h]; trivial)
    | some c => decidable_of_iff (c.phase = .zcard → s.entries.length < callsPerMinute →
        (s.unentered c.nowMs).length + s.entries.length < callsPerMinute)
        (by rw [Limiter.Spares, h])
  | .fail id _ =>
    match h : s.checks[id]? with
    | none => .isTrue (by rw [Limiter.Spares, h]; trivial)
    | some c => decidable_of_iff (c.phase.waits = true → copy.hasRequest = true)
        (by rw [Limiter.Spares, h])
  | .elapse _ => .isTrue trivial

end Limiter

end P2PMesh.RateLimit
