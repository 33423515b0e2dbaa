import P2PMesh.Base.Counter
import P2PMesh.Base.FixedWindow
import P2PMesh.Base.Run
import P2PMesh.Stun

namespace P2PMesh.Stun
open P2PMesh.Base
set_option autoImplicit true

/-- What comes to the server's socket; a request with the time at which the loop is done with it,
after the answer if there is one. -/
inductive StunEvent where
  | request (r : StunRequest) (done : Nat)
  | recvError (e : String)

def StunEvent.readings : StunEvent → List Nat
  | .request r done => r.now :: (r.cleanup.toList ++ [done])
  | .recvError _ => []

/-- The clock never goes back over a run. -/
def ClockMonotone (events : List StunEvent) : Prop :=
  (events.flatMap StunEvent.readings).Pairwise (· ≤ ·)

instance (events : List StunEvent) : Decidable (ClockMonotone events) :=
  inferInstanceAs (Decidable (List.Pairwise _ _))

/-- A reply with the request that it answers, the window of its address that the request was
counted in, and the time by which it was sent. -/
structure StunAnswer where
  request : StunRequest
  reply : StunReply
  windowStart : Nat
  sentAt : Nat

/-- The entry that a request of the address is counted in. -/
def RateLimits.window (limits : RateLimits) (ip : IpAddr) (now : Nat) : IpRateLimit :=
  let entry := (limits[ip]?).getD ⟨0, now⟩
  if rateLimitWindow < now - entry.windowStart then ⟨0, now⟩ else entry

/-- The server and the answers that it has sent so far. -/
structure StunHistory where
  server : StunServer
  answers : List StunAnswer

def StunHistory.start : StunHistory := ⟨.start, []⟩

section History
variable (overflowChecks : Bool) (h : StunHistory)

def StunHistory.step : StunEvent → StunHistory
  | .request r done =>
    let result := h.server.step overflowChecks (.request r)
    ⟨result.1, h.answers ++ result.2.toList.map (fun reply =>
      ⟨r, reply, (h.server.limits.window r.src.ip r.now).windowStart, done⟩)⟩
  | .recvError e => ⟨(h.server.step overflowChecks (.recvError e)).1, h.answers⟩

def StunHistory.run (events : List StunEvent) : StunHistory :=
  events.foldl (StunHistory.step overflowChecks) h

/-- The counter of the request's window has not reached its largest value, or the build panics
there. -/
def StunHistory.Unwrapped : StunEvent → Prop
  | .request r _ => overflowChecks = true ∨
    (h.server.limits.window r.src.ip r.now).count ≠ 4294967295
  | .recvError _ => True

instance (event : StunEvent) : Decidable (h.Unwrapped overflowChecks event) :=
  match event with
  | .request _ _ => inferInstanceAs (Decidable (_ ∨ _))
  | .recvError _ => .isTrue trivial

end History

/-- At most 10 answers to an address in one of its windows, at most 20 in any 10 seconds, and each
to the source of a ping. -/
structure Bounded (events : List StunEvent) (answers : List StunAnswer) : Prop where
  window : ∀ ip windowStart, answers.countP (fun a =>
    a.reply.dst.ip = ip ∧ a.windowStart = windowStart) ≤ 10
  interval : ∀ ip begin, answers.countP (fun a => a.reply.dst.ip = ip ∧
    begin ≤ a.sentAt ∧ a.sentAt ≤ begin + rateLimitWindow) ≤ 20
  pings : ∀ a ∈ answers, .request a.request a.sentAt ∈ events ∧
    trim a.request.msg = ['p', 'i', 'n', 'g'] ∧ a.reply.dst = a.request.src

section Limits
variable {overflowChecks : Bool} {limits : RateLimits} {answers : List StunAnswer} {ip : IpAddr}

def RateLimits.entry (limits : RateLimits) (ip : IpAddr) : Option Window :=
  (limits[ip]?).map (fun e => ⟨e.count.toNat, e.windowStart⟩)

def stamps (ip : IpAddr) (answers : List StunAnswer) : List Stamp :=
  (answers.filter (fun a => a.reply.dst.ip = ip)).map (fun a => ⟨a.windowStart, a.sentAt⟩)

/-- The table accounts for the answers sent up to a time. -/
def RateLimits.Accounts (limits : RateLimits) (answers : List StunAnswer) (clock : Nat) : Prop :=
  ∀ ip, Accounted rateLimitWindow 10 (limits.entry ip) (stamps ip answers) clock

theorem RateLimits.count_eq (limits : RateLimits) (ip : IpAddr) (now : Nat) :
    limits.count overflowChecks ip now =
      if overflowChecks = true ∧ (limits.window ip now).count = 4294967295 then none
      else some ((limits.window ip now).count + 1, limits.insert ip
        ⟨(limits.window ip now).count + 1, (limits.window ip now).windowStart⟩) := by
  have hfull : (limits.window ip now).count.toNat + 1 = 2 ^ 32 ↔
      (limits.window ip now).count = 4294967295 := by
    rw [← UInt32.toNat_inj]
    exact Nat.succ_inj
  rw [RateLimits.count]
  change (if overflowChecks = true ∧ (limits.window ip now).count.toNat + 1 = 2 ^ 32 then none
    else _) = _
  simp only [hfull]
  rfl

theorem RateLimits.windowAt_eq (limits : RateLimits) (ip : IpAddr) (now : Nat) :
    windowAt rateLimitWindow (limits.entry ip) now =
      ⟨(limits.window ip now).count.toNat, (limits.window ip now).windowStart⟩ := by
  rw [RateLimits.entry, RateLimits.window]
  cases limits[ip]? with
  | none =>
    dsimp only [Option.map_none, Option.getD_none, windowAt]
    split
    · rfl
    · rfl
  | some e =>
    dsimp only [Option.map_some, Option.getD_some, windowAt]
    split
    · rfl
    · rfl

theorem RateLimits.entry_insert (limits : RateLimits) (ip : IpAddr) (e : IpRateLimit)
    (ip' : IpAddr) : RateLimits.entry (limits.insert ip e) ip' =
      if ip = ip' then some ⟨e.count.toNat, e.windowStart⟩ else limits.entry ip' := by
  rw [RateLimits.entry, getElem?_insert_eq]
  split
  · rfl
  · rfl

theorem RateLimits.entry_cleanup (limits : RateLimits) (now : Nat) (ip : IpAddr) :
    (limits.cleanup now).entry ip =
      (limits.entry ip).filter (fun w => now - w.start < rateLimitWindow * 3) := by
  rw [RateLimits.entry, RateLimits.entry, RateLimits.cleanup, Std.TreeMap.getElem?_filter',
    Option.filter_map]
  rfl

theorem RateLimits.Accounts.later (h : limits.Accounts answers clock) (ht : clock ≤ now) :
    limits.Accounts answers now :=
  fun ip => (h ip).later ht

theorem RateLimits.Accounts.count (h : limits.Accounts answers clock) (ht : clock ≤ now)
    (hroom : (limits.window ip now).count ≠ 4294967295) :
    RateLimits.Accounts (limits.insert ip ⟨(limits.window ip now).count + 1,
      (limits.window ip now).windowStart⟩) answers now := by
  intro ip'
  rw [RateLimits.entry_insert]
  split
  · next hip =>
    have hcount := ((h ip).windowAt ht).count
    rw [RateLimits.windowAt_eq] at hcount
    rw [← hip, (succ32_toNat_eq_iff _).mpr hroom]
    exact hcount
  · exact (h ip').later ht

theorem RateLimits.Accounts.answer (h : limits.Accounts answers clock) (ht : clock ≤ now)
    (hroom : (limits.window r.src.ip now).count ≠ 4294967295) (hdone : now ≤ done)
    (hlimit : ¬ rateLimitMax < (limits.window r.src.ip now).count + 1) :
    RateLimits.Accounts (limits.insert r.src.ip ⟨(limits.window r.src.ip now).count + 1,
      (limits.window r.src.ip now).windowStart⟩)
      (answers ++ [⟨r, ⟨payload, r.src⟩, (limits.window r.src.ip now).windowStart, done⟩])
      done := by
  intro ip'
  have hcount := h.count ht hroom ip'
  rw [RateLimits.entry_insert] at hcount ⊢
  rw [stamps, List.filter_append, List.map_append]
  split
  · next hip =>
    cases hip
    rw [if_pos rfl] at hcount
    have hseen := (((h r.src.ip).windowAt ht).kept _ rfl).2.1
    rw [RateLimits.windowAt_eq] at hseen
    have hsingle : List.filter (fun a : StunAnswer => decide (a.reply.dst.ip = r.src.ip))
        [⟨r, ⟨payload, r.src⟩, (limits.window r.src.ip now).windowStart, done⟩] =
          [⟨r, ⟨payload, r.src⟩, (limits.window r.src.ip now).windowStart, done⟩] :=
      List.filter_cons_of_pos (decide_eq_true rfl)
    rw [hsingle]
    have hsucc := (succ32_toNat_eq_iff _).mpr hroom
    refine hcount.letThrough ?_ ?_ hdone
    · dsimp only
      rw [hsucc]
      exact Nat.lt_succ_of_le hseen
    · exact UInt32.le_iff_toNat_le.mp (UInt32.not_lt.mp hlimit)
  · next hip =>
    rw [if_neg hip] at hcount
    have hnone : List.filter (fun a : StunAnswer => decide (a.reply.dst.ip = ip'))
        [⟨r, ⟨payload, r.src⟩, (limits.window r.src.ip now).windowStart, done⟩] = [] :=
      List.filter_cons_of_neg (fun he => hip (of_decide_eq_true he))
    rw [hnone, List.map_nil, List.append_nil]
    exact hcount.later hdone

theorem RateLimits.Accounts.cleanup (h : limits.Accounts answers clock) (ht : now ≤ clock) :
    (limits.cleanup now).Accounts answers clock := by
  intro ip
  have hip := h ip
  rw [RateLimits.entry_cleanup]
  cases hentry : limits.entry ip with
  | none =>
    rw [hentry] at hip
    exact hip
  | some w =>
    rw [hentry] at hip
    rw [Option.filter_some]
    split
    · exact hip
    · next hover =>
      apply hip.forget
      have hover : ¬ now - w.start < rateLimitWindow * 3 :=
        fun hlt => hover (decide_eq_true hlt)
      have hwidth : 0 < rateLimitWindow := by decide
      omega

/-- The readings of a request in their order. -/
structure StunRequest.Timely (r : StunRequest) (clock done : Nat) : Prop where
  arrived : clock ≤ r.now
  finished : r.now ≤ done
  cleanup : ∀ n ∈ r.cleanup, n ≤ done

theorem RateLimits.Accounts.draw (h : limits.Accounts answers done)
    (ht : StunRequest.Timely r clock done) :
    RateLimits.Accounts (match r.cleanup with
      | some now => limits.cleanup now
      | none => limits) answers done := by
  cases hcleanup : r.cleanup with
  | none => exact h
  | some now => exact h.cleanup (ht.cleanup now hcleanup)

theorem RateLimits.Accounts.round {s : StunServer} (h : s.limits.Accounts answers clock)
    (ht : StunRequest.Timely r clock done)
    (hroom : overflowChecks = true ∨ (s.limits.window r.src.ip r.now).count ≠ 4294967295) :
    (s.round overflowChecks r).1.limits.Accounts
      (answers ++ (s.round overflowChecks r).2.toList.map (fun reply =>
        ⟨r, reply, (s.limits.window r.src.ip r.now).windowStart, done⟩)) done := by
  rw [StunServer.round, RateLimits.count_eq]
  by_cases hpanic : overflowChecks = true ∧ (s.limits.window r.src.ip r.now).count = 4294967295
  · rw [if_pos hpanic]
    dsimp only
    rw [Option.toList_none, List.map_nil, List.append_nil]
    exact h.later (ht.arrived.trans ht.finished)
  · have hroom : (s.limits.window r.src.ip r.now).count ≠ 4294967295 := by
      rcases hroom with hc | hne
      · exact fun he => hpanic ⟨hc, he⟩
      · exact hne
    rw [if_neg hpanic]
    dsimp only
    split
    · rw [Option.toList_none, List.map_nil, List.append_nil]
      exact (h.count ht.arrived hroom).later ht.finished
    · next hlimit =>
      split
      · rw [Option.toList_some, List.map_singleton]
        exact (h.answer ht.arrived hroom ht.finished hlimit).draw ht
      · rw [Option.toList_none, List.map_nil, List.append_nil]
        exact ((h.count ht.arrived hroom).later ht.finished).draw ht

theorem RateLimits.Accounts.countP_window_le (h : limits.Accounts answers clock) (ip : IpAddr)
    (windowStart : Nat) : answers.countP (fun a =>
      a.reply.dst.ip = ip ∧ a.windowStart = windowStart) ≤ 10 := by
  have hlimited := (h ip).limited windowStart
  rw [stamps, List.countP_map, List.countP_filter] at hlimited
  refine Nat.le_trans (Nat.le_of_eq (List.countP_congr ?_)) hlimited
  intro a _
  simp only [Function.comp, Bool.and_eq_true, decide_eq_true_eq, and_comm]

theorem RateLimits.Accounts.countP_interval_le (h : limits.Accounts answers clock) (ip : IpAddr)
    (begin : Nat) : answers.countP (fun a => a.reply.dst.ip = ip ∧
      begin ≤ a.sentAt ∧ a.sentAt ≤ begin + rateLimitWindow) ≤ 20 := by
  have hlimited := (h ip).period_le begin
  rw [stamps, List.countP_map, List.countP_filter] at hlimited
  refine Nat.le_trans (Nat.le_of_eq (List.countP_congr ?_)) hlimited
  intro a _
  simp only [Function.comp, inPeriod, Bool.and_eq_true, decide_eq_true_eq, and_comm]

end Limits

section Run
variable {overflowChecks : Bool} {h : StunHistory}

theorem StunHistory.run_concat (events : List StunEvent) (event : StunEvent) :
    h.run overflowChecks (events ++ [event]) =
      (h.run overflowChecks events).step overflowChecks event := by
  rw [StunHistory.run, List.foldl_append]
  rfl

theorem StunHistory.accounts_step (hs : h.server.limits.Accounts h.answers clock)
    {r : StunRequest} (ht : r.Timely clock done)
    (hroom : h.Unwrapped overflowChecks (.request r done)) :
    (h.step overflowChecks (.request r done)).server.limits.Accounts
      (h.step overflowChecks (.request r done)).answers done := by
  rw [StunHistory.step, StunServer.step]
  by_cases hrunning : h.server.running = true
  · rw [if_pos hrunning]
    exact hs.round ht hroom
  · rw [if_neg hrunning]
    dsimp only
    rw [Option.toList_none, List.map_nil, List.append_nil]
    exact hs.later (ht.arrived.trans ht.finished)

theorem StunHistory.accounts_run {events : List StunEvent} (hclock : ClockMonotone events)
    (htime : ∀ n ∈ events.flatMap StunEvent.readings, clock ≤ n)
    (hs : h.server.limits.Accounts h.answers clock)
    (hu : Guarded (StunHistory.step overflowChecks) (StunHistory.Unwrapped overflowChecks) h
      events) :
    ∃ clock', (h.run overflowChecks events).server.limits.Accounts
      (h.run overflowChecks events).answers clock' := by
  induction events generalizing h clock with
  | nil => exact ⟨clock, hs⟩
  | cons event events ih =>
    rw [ClockMonotone, List.flatMap_cons, List.pairwise_append] at hclock
    obtain ⟨hevent, hrest, hbetween⟩ := hclock
    rw [List.flatMap_cons] at htime
    cases event with
    | request r done =>
      obtain ⟨hnow, hcleanup⟩ := List.pairwise_cons.mp hevent
      have hdone : done ∈ r.cleanup.toList ++ [done] :=
        List.mem_append_right _ (List.mem_singleton_self done)
      have ht : r.Timely clock done :=
        { arrived := htime r.now (List.mem_append_left _ List.mem_cons_self)
          finished := hnow done hdone
          cleanup := fun n hn => (List.pairwise_append.mp hcleanup).2.2 n
            (Option.mem_toList.mpr hn) done (List.mem_singleton_self done) }
      exact ih hrest (fun n hn => hbetween done (List.mem_cons_of_mem _ hdone) n hn)
        (accounts_step hs ht hu.1) hu.2
    | recvError e =>
      exact ih hrest (fun n hn => htime n (List.mem_append_right _ hn)) hs hu.2

theorem StunHistory.answers_run {events : List StunEvent} {a : StunAnswer}
    (ha : a ∈ (h.run overflowChecks events).answers) (hnew : a ∉ h.answers) :
    .request a.request a.sentAt ∈ events ∧ trim a.request.msg = ['p', 'i', 'n', 'g'] ∧
      a.reply.dst = a.request.src := by
  induction events generalizing h with
  | nil => exact (hnew ha).elim
  | cons event events ih =>
    by_cases hstep : a ∈ (h.step overflowChecks event).answers
    · cases event with
      | request r done =>
        obtain hold | hanswer := List.mem_append.mp hstep
        · exact (hnew hold).elim
        · obtain ⟨reply, hreply, rfl⟩ := List.mem_map.mp hanswer
          obtain ⟨r', hr, hping, rfl⟩ := StunServer.step_reply (Option.mem_toList.mp hreply)
          cases hr
          exact ⟨List.mem_cons_self, hping, rfl⟩
      | recvError e => exact (hnew hstep).elim
    · obtain ⟨hevent, hping⟩ := ih ha hstep
      exact ⟨List.mem_cons_of_mem _ hevent, hping⟩

/-- Every run with a clock that never goes back and in which no counter wraps keeps the bounds at
every point. -/
theorem StunHistory.unwrapped_runs_bounded {events : List StunEvent}
    (hclock : ClockMonotone events)
    (hu : Guarded (StunHistory.step overflowChecks) (StunHistory.Unwrapped overflowChecks) .start
      events) : Bounded events (StunHistory.start.run overflowChecks events).answers := by
  have hstart : StunHistory.start.server.limits.Accounts StunHistory.start.answers 0 := by
    intro ip
    rw [RateLimits.entry, StunHistory.start, StunServer.start, Std.TreeMap.getElem?_emptyc]
    exact Accounted.nil _ _ _
  obtain ⟨clock, haccounts⟩ :=
    accounts_run hclock (fun n _ => Nat.zero_le n) hstart hu
  exact
    { window := haccounts.countP_window_le
      interval := haccounts.countP_interval_le
      pings := fun a ha => answers_run ha (List.not_mem_nil) }

/-- Two pings at the ends of a window, and a cleanup. -/
def windowEnds : List StunEvent :=
  [.request (pingFrom ⟨.v4 1, 40000⟩) 1,
    .request { pingFrom ⟨.v4 1, 40000⟩ with
      now := rateLimitWindow
      cleanup := some (rateLimitWindow + 1) } (rateLimitWindow + 2)]

theorem StunHistory.unwrapped_runs_bounded_ends :
    (StunHistory.start.run false windowEnds).answers.length = 2 ∧
      Bounded windowEnds (StunHistory.start.run false windowEnds).answers :=
  ⟨by decide +kernel, StunHistory.unwrapped_runs_bounded (by decide +kernel) (by decide +kernel)⟩

end Run

section Wrap
variable {h : StunHistory} {src : SocketAddr}

def pingAnswer (src : SocketAddr) : StunAnswer :=
  ⟨pingFrom src, ⟨utf8 (response src), src⟩, 0, 0⟩

/-- The server after `n` pings of one address at one time. -/
structure StunHistory.Burst (src : SocketAddr) (n : Nat) (h : StunHistory) : Prop where
  running : h.server.running = true
  window : h.server.limits.window src.ip 0 = ⟨.ofNat n, 0⟩
  answers : h.answers = List.replicate (min n 10) (pingAnswer src)

theorem RateLimits.window_insert (limits : RateLimits) (ip : IpAddr) (count : UInt32) :
    RateLimits.window (limits.insert ip ⟨count, 0⟩) ip 0 = ⟨count, 0⟩ := by
  rw [RateLimits.window, getElem?_insert_eq, if_pos rfl]
  exact if_neg (Nat.not_lt_zero _)

theorem StunHistory.step_ping (hr : h.server.running = true) :
    h.step false (.request (pingFrom src) 0) =
      if rateLimitMax < (h.server.limits.window src.ip 0).count + 1 then
        ⟨⟨h.server.limits.insert src.ip ⟨(h.server.limits.window src.ip 0).count + 1,
          (h.server.limits.window src.ip 0).windowStart⟩, true⟩, h.answers⟩
      else
        ⟨⟨h.server.limits.insert src.ip ⟨(h.server.limits.window src.ip 0).count + 1,
          (h.server.limits.window src.ip 0).windowStart⟩, true⟩, h.answers ++ [⟨pingFrom src,
            ⟨utf8 (response src), src⟩, (h.server.limits.window src.ip 0).windowStart, 0⟩]⟩ := by
  have hping : trim (pingFrom src).msg = ['p', 'i', 'n', 'g'] := by
    -- the text does not depend on the address that it comes from
    change trim (pingFrom ⟨.v4 1, 40000⟩).msg = _
    decide +kernel
  have hsrc : (pingFrom src).src = src := rfl
  have hnow : (pingFrom src).now = 0 := rfl
  rw [StunHistory.step, StunServer.step, if_pos hr, StunServer.round, RateLimits.count_eq,
    if_neg (fun he => Bool.false_ne_true he.1), hsrc, hnow]
  dsimp only
  rw [if_pos hping]
  split
  · rw [Option.toList_none, List.map_nil, List.append_nil, hr]
  · rfl

theorem StunHistory.Burst.start (src : SocketAddr) : StunHistory.Burst src 0 .start :=
  ⟨rfl, by rw [StunHistory.start, StunServer.start, RateLimits.window,
    Std.TreeMap.getElem?_emptyc]; rfl, rfl⟩

theorem StunHistory.Burst.step (hb : h.Burst src n) (hn : n + 1 < 2 ^ 32) :
    (h.step false (.request (pingFrom src) 0)).Burst src (n + 1) := by
  have hsucc : UInt32.ofNat n + 1 = .ofNat (n + 1) := by
    rw [UInt32.ofNat_add]
    rfl
  have hover : rateLimitMax < UInt32.ofNat (n + 1) ↔ 10 < n + 1 := by
    rw [UInt32.lt_iff_toNat_lt, UInt32.toNat_ofNat_of_lt' hn]
    rfl
  rw [step_ping hb.running, hb.window]
  dsimp only
  rw [hsucc]
  split
  · next hlt =>
    have hlt := hover.mp hlt
    refine ⟨rfl, RateLimits.window_insert _ _ _, ?_⟩
    rw [hb.answers, Nat.min_eq_right (by omega), Nat.min_eq_right (by omega)]
  · next hle =>
    have hle : ¬ 10 < n + 1 := fun hlt => hle (hover.mpr hlt)
    refine ⟨rfl, RateLimits.window_insert _ _ _, ?_⟩
    rw [hb.answers, Nat.min_eq_left (by omega), Nat.min_eq_left (by omega),
      List.replicate_succ']
    rfl

theorem StunHistory.burst (src : SocketAddr) (hn : n < 2 ^ 32) : (StunHistory.start.run false
    (List.replicate n (.request (pingFrom src) 0))).Burst src n := by
  induction n with
  | zero => exact .start src
  | succ n ih =>
    rw [List.replicate_succ', StunHistory.run_concat]
    exact (ih (Nat.lt_of_succ_lt hn)).step hn

/-- The 2^32nd ping of an address at one time is answered again, as the 11th in its window. -/
theorem wrapped_counter_answers : ClockMonotone
      (List.replicate (2 ^ 32) (.request (pingFrom ⟨.v4 1, 40000⟩) 0)) ∧
    ¬ Bounded (List.replicate (2 ^ 32) (.request (pingFrom ⟨.v4 1, 40000⟩) 0))
      (StunHistory.start.run false
        (List.replicate (2 ^ 32) (.request (pingFrom ⟨.v4 1, 40000⟩) 0))).answers := by
  obtain ⟨n, hn⟩ : ∃ n, n + 1 = 2 ^ 32 := ⟨2 ^ 32 - 1, rfl⟩
  have hlt : n < 2 ^ 32 := by omega
  have hburst := StunHistory.burst ⟨.v4 1, 40000⟩ hlt
  have hfull : UInt32.ofNat n + 1 = 0 := by
    rw [← UInt32.toNat_inj, UInt32.toNat_add, UInt32.toNat_ofNat_of_lt' hlt]
    change (n + 1) % 2 ^ 32 = 0
    rw [hn, Nat.mod_self]
  have hrun : (StunHistory.start.run false
      (List.replicate (n + 1) (.request (pingFrom ⟨.v4 1, 40000⟩) 0))).answers =
        List.replicate 11 (pingAnswer ⟨.v4 1, 40000⟩) := by
    rw [List.replicate_succ', StunHistory.run_concat,
      StunHistory.step_ping hburst.running, hburst.window, hburst.answers,
      Nat.min_eq_right (by omega)]
    dsimp only
    rw [hfull]
    rfl
  rw [← hn]
  constructor
  · have hzero : ∀ k ∈ (List.replicate (n + 1) (StunEvent.request (pingFrom ⟨.v4 1, 40000⟩)
        0)).flatMap StunEvent.readings, k = 0 := by
      intro k hk
      obtain ⟨event, hevent, hk⟩ := List.mem_flatMap.mp hk
      rw [List.eq_of_mem_replicate hevent] at hk
      obtain rfl | hk := List.mem_cons.mp hk
      · rfl
      · exact List.mem_singleton.mp hk
    apply List.pairwise_of_forall_mem_list
    intro a ha b hb
    rw [hzero a ha]
    exact Nat.zero_le b
  · intro hbounded
    have hwindow := hbounded.window (.v4 1) 0
    rw [hrun] at hwindow
    revert hwindow
    decide

end Wrap

end P2PMesh.Stun
