import P2PMesh.Base.Table
import P2PMesh.MultipathLifeCycle

namespace P2PMesh.Multipath
open P2PMesh.Base
set_option autoImplicit true

inductive CongestionState where
  | slowStart
  | congestionAvoidance
  | recovery
deriving DecidableEq

/-- The window of a path, in bytes. -/
structure PathCongestion where
  cwnd : UInt64
  ssthresh : UInt64
  bytesInFlight : UInt64
  state : CongestionState
  congestionEvents : UInt32
  lastCongestion : Option Nat
deriving DecidableEq

def PathCongestion.default : PathCongestion where
  cwnd := 14720
  ssthresh := 18446744073709551615
  bytesInFlight := 0
  state := .slowStart
  congestionEvents := 0
  lastCongestion := none

/-- Half of a window, but two segments at least. -/
def halved (cwnd : UInt64) : UInt64 := max (cwnd / 2) 2940

/-- The response to a congestion event. -/
def PathCongestion.respond (c : PathCongestion) : PathCongestion :=
  match c.state with
  | .slowStart =>
    { c with
      ssthresh := halved c.cwnd
      cwnd := halved c.cwnd + 3 * 1460
      state := .recovery }
  | .congestionAvoidance =>
    { c with
      ssthresh := halved c.cwnd
      cwnd := halved c.cwnd
      state := .recovery }
  | .recovery =>
    { c with
      cwnd := halved c.cwnd
      ssthresh := halved c.cwnd }

/-- A session with the windows of its paths. -/
structure CongestedSession (F : Type) where
  session : MultipathSession F
  congestion : Std.TreeMap PathId PathCongestion

def CongestedSession.new (F : Type) (config : MultipathConfig) (strategy : SchedulerStrategy) :
    CongestedSession F :=
  ⟨.new F config strategy, ∅⟩

inductive CongestedOp (F : Type) where
  | call (op : SessionOp F)
  | onCongestion (pathId : PathId) (now : Nat)

/-- The path that a call puts into the map. -/
def MultipathSession.inserted (s : MultipathSession F) : SessionOp F → Option PathId
  | .path (.insertPath call _) =>
    match s.connection.calls[call]? with
    | some (.numbered pathId _ _) => some pathId
    | _ => none
  | _ => none

section Session
variable (A : FloatArith F) (overflowChecks : Bool) (s : CongestedSession F)

/-- A new path starts with a window of its own. -/
def CongestedSession.call (op : SessionOp F) : CongestedSession F where
  session := s.session.step A overflowChecks op
  congestion :=
    match s.session.inserted op with
    | some pathId => s.congestion.insert pathId .default
    | none => s.congestion

/-- `none` is a panic: the counter of events is full. -/
def CongestedSession.onCongestion (pathId : PathId) (now : Nat) :
    Option (Except MultipathError Unit × CongestedSession F) :=
  match s.congestion[pathId]? with
  | none => some (.error .pathNotFound, s)
  | some c =>
    if overflowChecks = true ∧ c.congestionEvents = 4294967295 then none
    else
      let c := { c with
        congestionEvents := c.congestionEvents + 1
        lastCongestion := some now }
      some (.ok (), { s with congestion := s.congestion.insert pathId c.respond })

def CongestedSession.step : CongestedOp F → CongestedSession F
  | .call op => s.call A overflowChecks op
  | .onCongestion pathId now => ((s.onCongestion overflowChecks pathId now).map (·.2)).getD s

def CongestedSession.run (ops : List (CongestedOp F)) : CongestedSession F :=
  ops.foldl (CongestedSession.step A overflowChecks) s

/-- How often congestion has been signalled on a path since it was added, one call later. -/
def CongestedSession.signalled (pathId : PathId) (signals : Option Nat) :
    CongestedOp F → Option Nat
  | .call op => if s.session.inserted op = some pathId then some 0 else signals
  | .onCongestion pathId' _ => if pathId' = pathId then signals.map (· + 1) else signals

/-- How often congestion has been signalled on a path since it was added, after calls of which the
latest comes first. -/
def CongestedSession.signals (pathId : PathId) : List (CongestedOp F) → Option Nat
  | [] => none
  | op :: earlier =>
    (s.run A overflowChecks earlier.reverse).signalled pathId
      (CongestedSession.signals pathId earlier) op

end Session

/-- The window after so many signals. It is halved each time, after the first with three segments
on top, and nothing opens it again. -/
structure PathCongestion.After (overflowChecks : Bool) (signals : Nat) (c : PathCongestion) :
    Prop where
  cwnd : c.cwnd.toNat = if signals = 0 then 14720 else max (23480 / 2 ^ signals) 2940
  ssthresh : c.ssthresh =
    if signals = 0 then 18446744073709551615 else if signals = 1 then 7360 else c.cwnd
  state : c.state = if signals = 0 then .slowStart else .recovery
  events : c.congestionEvents.toNat =
    if overflowChecks then min signals (2 ^ 32 - 1) else signals % 2 ^ 32
  inFlight : c.bytesInFlight = 0

section Window
variable {c : PathCongestion}

theorem halved_toNat (cwnd : UInt64) : (halved cwnd).toNat = max (cwnd.toNat / 2) 2940 := by
  have hdiv : (cwnd / 2).toNat = cwnd.toNat / 2 := UInt64.toNat_div cwnd 2
  change (if cwnd / 2 ≤ 2940 then (2940 : UInt64) else cwnd / 2).toNat = _
  split
  · next hle => exact (max_eq_right (hdiv ▸ UInt64.le_iff_toNat_le.mp hle)).symm
  · next hlt =>
    have hlt' := UInt64.lt_iff_toNat_lt.mp (UInt64.not_le.mp hlt)
    rw [hdiv] at hlt' ⊢
    exact (max_eq_left (Nat.le_of_lt hlt')).symm

/-- Below two segments half of a window makes no difference. -/
theorem halved_window (n : Nat) :
    max (max (23480 / 2 ^ n) 2940 / 2) 2940 = max (23480 / 2 ^ (n + 1)) 2940 := by
  rw [Nat.pow_succ, ← Nat.div_div_eq_div_mul]
  omega

theorem PathCongestion.default_after (overflowChecks : Bool) :
    PathCongestion.default.After overflowChecks 0 := by
  refine ⟨rfl, rfl, rfl, ?_, rfl⟩
  cases overflowChecks <;> rfl

theorem PathCongestion.After.respond {n : Nat} (h : c.After overflowChecks n)
    (events : UInt32) (lastCongestion : Option Nat)
    (hevents : events.toNat =
      if overflowChecks then min (n + 1) (2 ^ 32 - 1) else (n + 1) % 2 ^ 32) :
    (PathCongestion.respond { c with
      congestionEvents := events
      lastCongestion := lastCongestion }).After overflowChecks (n + 1) := by
  cases n with
  | zero =>
    have hcwnd : c.cwnd = 14720 := UInt64.toNat_inj.mp h.cwnd
    have hstate : c.state = .slowStart := h.state
    simp only [PathCongestion.respond, hstate, hcwnd]
    exact ⟨(by decide : (halved 14720 + 3 * 1460).toNat = 11740), rfl, rfl, hevents, h.inFlight⟩
  | succ n =>
    have hcwnd : c.cwnd.toNat = max (23480 / 2 ^ (n + 1)) 2940 := h.cwnd
    have hstate : c.state = .recovery := h.state
    simp only [PathCongestion.respond, hstate]
    refine ⟨?_, (if_neg (by omega)).symm, rfl, hevents, h.inFlight⟩
    rw [if_neg (by omega), halved_toNat, hcwnd, halved_window]

/-- A full counter stops the counting, but the window is at its least by then. -/
theorem PathCongestion.After.full {n : Nat} (h : c.After true n) (hn : 2 ^ 32 - 1 ≤ n) :
    c.After true (n + 1) := by
  have hsmall (m : Nat) (hm : 2 ^ 32 - 1 ≤ m) : 23480 / 2 ^ m = 0 := by
    have hpow : 2 ^ 15 ≤ 2 ^ m := Nat.pow_le_pow_right (by omega) (by omega)
    exact Nat.div_eq_of_lt (by omega)
  refine ⟨?_, ?_, ?_, ?_, h.inFlight⟩
  · rw [h.cwnd, if_neg (by omega), if_neg (by omega), hsmall n hn, hsmall (n + 1) (by omega)]
  · rw [h.ssthresh, if_neg (by omega), if_neg (by omega), if_neg (by omega), if_neg (by omega)]
  · rw [h.state, if_neg (by omega), if_neg (by omega)]
  · rw [h.events, if_pos rfl, if_pos rfl, Nat.min_eq_right hn, Nat.min_eq_right (by omega)]

/-- What a signal makes of a window, unless the counter is full. -/
def PathCongestion.signal (c : PathCongestion) (overflowChecks : Bool) (now : Nat) :
    PathCongestion :=
  if overflowChecks = true ∧ c.congestionEvents = 4294967295 then c
  else
    PathCongestion.respond { c with
      congestionEvents := c.congestionEvents + 1
      lastCongestion := some now }

theorem PathCongestion.After.signal {n : Nat} (h : c.After overflowChecks n) (now : Nat) :
    (c.signal overflowChecks now).After overflowChecks (n + 1) := by
  have hevents := h.events
  have hlt : c.congestionEvents.toNat < 2 ^ 32 := c.congestionEvents.toNat_lt
  have hmax : c.congestionEvents = 4294967295 ↔ c.congestionEvents.toNat = 2 ^ 32 - 1 :=
    UInt32.toNat_inj.symm
  rw [PathCongestion.signal]
  split
  · next hfull =>
    obtain ⟨rfl, hcount⟩ := hfull
    rw [if_pos rfl] at hevents
    have hn := hmax.mp hcount
    exact h.full (by omega)
  · next hroom =>
    refine h.respond _ _ ?_
    rw [UInt32.toNat_add, hevents]
    cases overflowChecks with
    | false =>
      change (n % 2 ^ 32 + 1) % 2 ^ 32 = (n + 1) % 2 ^ 32
      omega
    | true =>
      rw [if_pos rfl] at hevents ⊢
      have hn : c.congestionEvents.toNat ≠ 2 ^ 32 - 1 := fun he => hroom ⟨rfl, hmax.mpr he⟩
      change (min n (2 ^ 32 - 1) + 1) % 2 ^ 32 = min (n + 1) (2 ^ 32 - 1)
      omega

end Window

section Stored
variable {s : MultipathSession F}

theorem MultipathSession.step_stored (A : FloatArith F) (overflowChecks : Bool)
    (op : SessionOp F) (pathId : PathId) :
    ((s.step A overflowChecks op).connection.paths[pathId]?).isSome = true ↔
      s.inserted op = some pathId ∨ (s.connection.paths[pathId]?).isSome = true := by
  cases op with
  | path op =>
    by_cases hop : ∃ call now, op = .insertPath call now
    · obtain ⟨call, now, rfl⟩ := hop
      change ((s.connection.insertPath call now).paths[pathId]?).isSome = true ↔ _
      by_cases hnumbered : ∃ id localAddr remoteAddr,
          s.connection.calls[call]? = some (.numbered id localAddr remoteAddr)
      · obtain ⟨id, localAddr, remoteAddr, hcall⟩ := hnumbered
        rw [MultipathQuicConnection.insertPath, MultipathSession.inserted, hcall]
        change ((s.connection.paths.insert id _)[pathId]?).isSome = true ↔ some id = some pathId ∨ _
        rw [getElem?_insert_eq, Option.some.injEq]
        by_cases hid : id = pathId
        · rw [if_pos hid]
          exact iff_of_true rfl (.inl hid)
        · rw [if_neg hid]
          exact (or_iff_right hid).symm
      · have hsame : s.connection.insertPath call now = s.connection := by
          rw [MultipathQuicConnection.insertPath]
          split
          next he => exact (hnumbered ⟨_, _, _, he⟩).elim
          next => rfl
        have hnone : s.inserted (.path (.insertPath call now)) = none := by
          rw [MultipathSession.inserted]
          split
          next he => exact (hnumbered ⟨_, _, _, he⟩).elim
          next => rfl
        rw [hsame, hnone]
        exact (or_iff_right (by rintro ⟨⟩)).symm
    · have hframe := s.connection.step_frame (fun call now he => hop ⟨call, now, he⟩)
      have hinserted : s.inserted (.path op) = none := by
        cases op with
        | insertPath call now => exact (hop ⟨call, now, rfl⟩).elim
        | _ => rfl
      rw [hinserted, or_iff_right (by rintro ⟨⟩)]
      exact Bool.eq_iff_iff.mp (hframe.stored pathId)
  | updatePathQuality id srttUs bandwidthBps order =>
    refine Iff.trans ?_ (or_iff_right (by rintro ⟨⟩)).symm
    rw [MultipathSession.step, MultipathSession.updatePathQuality]
    split
    · rfl
    · change ((s.connection.paths.modify id _)[pathId]?).isSome = true ↔ _
      rw [getElem?_modify_eq]
      split
      · next he => rw [Option.isSome_map, he]
      · rfl
  | scheduleNext order draw =>
    refine Iff.trans ?_ (or_iff_right (by rintro ⟨⟩)).symm
    rw [MultipathSession.step, MultipathSession.scheduleNext]
    cases s.scheduler.schedulePacket A overflowChecks _ draw with
    | none => rfl
    | some result => rfl

end Stored

section Run
variable (A : FloatArith F) (overflowChecks : Bool)

/-- A path has a window exactly if it is stored, and the window is the one after the signals so
far. -/
structure CongestedSession.Windowed (s : CongestedSession F) (pathId : PathId)
    (signals : Option Nat) : Prop where
  stored : (s.session.connection.paths[pathId]?).isSome = signals.isSome
  window : (s.congestion[pathId]?).isSome = signals.isSome
  after : ∀ c n, s.congestion[pathId]? = some c → signals = some n → c.After overflowChecks n

variable {A overflowChecks} {s : CongestedSession F} {pathId : PathId} {signals : Option Nat}

theorem CongestedSession.congestion_call (op : SessionOp F) :
    (s.call A overflowChecks op).congestion[pathId]? =
      if s.session.inserted op = some pathId then some .default else s.congestion[pathId]? := by
  rw [CongestedSession.call]
  cases s.session.inserted op with
  | none => rfl
  | some id =>
    change (s.congestion.insert id .default)[pathId]? = _
    simp only [getElem?_insert_eq, Option.some.injEq]

theorem CongestedSession.Windowed.call (h : s.Windowed overflowChecks pathId signals)
    (op : SessionOp F) : (s.call A overflowChecks op).Windowed overflowChecks pathId
      (s.signalled pathId signals (.call op)) := by
  have hpaths := MultipathSession.step_stored (s := s.session) A overflowChecks op pathId
  have hcongestion : (s.call A overflowChecks op).congestion[pathId]? = _ :=
    CongestedSession.congestion_call op
  rw [CongestedSession.signalled]
  by_cases hins : s.session.inserted op = some pathId
  · rw [if_pos hins] at hcongestion ⊢
    refine ⟨hpaths.mpr (.inl hins), by rw [hcongestion]; rfl, ?_⟩
    rw [hcongestion]
    rintro c n ⟨⟩ ⟨⟩
    exact PathCongestion.default_after overflowChecks
  · rw [if_neg hins] at hcongestion ⊢
    rw [or_iff_right hins] at hpaths
    refine ⟨(Bool.eq_iff_iff.mpr hpaths).trans h.stored, ?_, ?_⟩
    · rw [hcongestion, h.window]
    · rw [hcongestion]
      exact h.after

theorem CongestedSession.session_onCongestion (id : PathId) (now : Nat) :
    (s.step A overflowChecks (.onCongestion id now)).session = s.session := by
  rw [CongestedSession.step, CongestedSession.onCongestion]
  split
  · rfl
  · split
    · rfl
    · rfl

theorem CongestedSession.congestion_onCongestion (id : PathId) (now : Nat) :
    (s.step A overflowChecks (.onCongestion id now)).congestion[pathId]? =
      if id = pathId then s.congestion[pathId]?.map (·.signal overflowChecks now)
      else s.congestion[pathId]? := by
  rw [CongestedSession.step, CongestedSession.onCongestion]
  cases hc : s.congestion[id]? with
  | none =>
    dsimp only
    split
    · next hid =>
      rw [← hid, hc]
      exact hc
    · rfl
  | some c =>
    dsimp only
    by_cases hfull : overflowChecks = true ∧ c.congestionEvents = 4294967295
    · rw [if_pos hfull]
      split
      · next hid =>
        rw [← hid, hc, Option.map_some, PathCongestion.signal, if_pos hfull]
        exact hc
      · rfl
    · rw [if_neg hfull]
      change (s.congestion.insert id _)[pathId]? = _
      rw [getElem?_insert_eq]
      split
      · next hid => rw [← hid, hc, Option.map_some, PathCongestion.signal, if_neg hfull]
      · rfl

theorem CongestedSession.Windowed.onCongestion (h : s.Windowed overflowChecks pathId signals)
    (id : PathId) (now : Nat) :
    (s.step A overflowChecks (.onCongestion id now)).Windowed overflowChecks pathId
      (s.signalled pathId signals (.onCongestion id now)) := by
  have hcongestion : (s.step A overflowChecks (.onCongestion id now)).congestion[pathId]? = _ :=
    CongestedSession.congestion_onCongestion id now
  rw [CongestedSession.signalled]
  split
  · next hid =>
    rw [if_pos hid] at hcongestion
    refine ⟨?_, ?_, ?_⟩
    · rw [CongestedSession.session_onCongestion, h.stored, Option.isSome_map]
    · rw [hcongestion, Option.isSome_map, h.window, Option.isSome_map]
    · rw [hcongestion]
      intro c n hc hn
      obtain ⟨old, hold, rfl⟩ := Option.map_eq_some_iff.mp hc
      obtain ⟨m, hm, rfl⟩ := Option.map_eq_some_iff.mp hn
      exact (h.after old m hold hm).signal now
  · next hid =>
    rw [if_neg hid] at hcongestion
    refine ⟨?_, ?_, ?_⟩
    · rw [CongestedSession.session_onCongestion, h.stored]
    · rw [hcongestion, h.window]
    · rw [hcongestion]
      exact h.after

variable (A overflowChecks)

/-- A path has a window as long as it is stored, and how often congestion has been signalled on
the path since it was added is all that the window depends on: 14720 bytes at first, then 11740,
then 5870, and from the third signal on 2940 for good, whatever other calls come between. -/
theorem CongestedSession.run_windowed (config : MultipathConfig) (strategy : SchedulerStrategy)
    (ops : List (CongestedOp F)) (pathId : PathId) :
    ((CongestedSession.new F config strategy).run A overflowChecks ops).Windowed overflowChecks
      pathId ((CongestedSession.new F config strategy).signals A overflowChecks pathId
        ops.reverse) := by
  induction ops using List.reverseRecOn with
  | nil =>
    refine ⟨?_, ?_, ?_⟩
    · change ((∅ : Std.TreeMap PathId MultipathEntry)[pathId]?).isSome = false
      rw [Std.TreeMap.getElem?_emptyc]
      rfl
    · change ((∅ : Std.TreeMap PathId PathCongestion)[pathId]?).isSome = false
      rw [Std.TreeMap.getElem?_emptyc]
      rfl
    · rintro c n - ⟨⟩
  | append_singleton ops op ih =>
    rw [CongestedSession.run, List.foldl_append, List.reverse_append]
    change (CongestedSession.step A overflowChecks
      ((CongestedSession.new F config strategy).run A overflowChecks ops) op).Windowed
        overflowChecks pathId (CongestedSession.signalled (CongestedSession.run A overflowChecks
          (CongestedSession.new F config strategy) ops.reverse.reverse) pathId _ op)
    rw [List.reverse_reverse]
    cases op with
    | call op => exact ih.call op
    | onCongestion id now => exact ih.onCongestion id now

end Run

end P2PMesh.Multipath
