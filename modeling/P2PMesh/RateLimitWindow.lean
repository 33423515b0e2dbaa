import P2PMesh.Base.Tally
import P2PMesh.RateLimit

namespace P2PMesh.RateLimit
open P2PMesh.Base
set_option autoImplicit true

section Arrivals
variable {kind : Check → Bool} {checks : Std.TreeMap Nat Check} {id : Nat} {c c' : Check}

theorem countP_arrivals (q : Nat → Bool) :
    (arrivals kind checks).countP q = tally (fun _ c => kind c && q c.nowMs) checks := by
  rw [arrivals, List.countP_map, List.countP_filter, tally]
  apply List.countP_congr
  intro e _
  simp only [Function.comp_apply, Bool.and_comm]

theorem countP_arrivals_mono {kind' : Check → Bool} (h : ∀ c, kind c = true → kind' c = true)
    (q : Nat → Bool) : (arrivals kind checks).countP q ≤ (arrivals kind' checks).countP q := by
  rw [countP_arrivals, countP_arrivals]
  apply tally_mono
  intro _ c hc
  rw [Bool.and_eq_true] at hc ⊢
  exact ⟨h c hc.1, hc.2⟩

theorem countP_arrivals_move (hc : checks[id]? = some c) (hn : c'.nowMs = c.nowMs)
    (hkind : kind c' = true → kind c = true) (q : Nat → Bool) :
    (arrivals kind (checks.insert id c')).countP q ≤ (arrivals kind checks).countP q := by
  rw [countP_arrivals, countP_arrivals, tally_insert, tally_of_some hc, hn]
  apply Nat.add_le_add_left
  cases hk : kind c' with
  | true => rw [hkind hk]
  | false => exact Nat.zero_le _

theorem countP_arrivals_new (hc : checks[id]? = none) (hkind : kind c' = false) (q : Nat → Bool) :
    (arrivals kind (checks.insert id c')).countP q = (arrivals kind checks).countP q := by
  rw [countP_arrivals, countP_arrivals, tally_insert_of_none hc, hkind, Bool.false_and]
  rfl

theorem countP_arrivals_join (hc : checks[id]? = some c) (hn : c'.nowMs = c.nowMs)
    (hkind : kind c = false) (hkind' : kind c' = true) (q : Nat → Bool) :
    (arrivals kind (checks.insert id c')).countP q =
      (c.nowMs :: arrivals kind checks).countP q := by
  rw [List.countP_cons, countP_arrivals, countP_arrivals, tally_insert, tally_of_some hc, hkind,
    hkind', hn, Bool.false_and, Bool.true_and]
  rfl

end Arrivals

section Steps
variable {copy : Copy} {clientIp : String} {callsPerMinute : Nat} {s : Limiter} {id : Nat}

/-- The requests that are let through keep to the limit already. -/
def Limiter.Bounded (callsPerMinute : Nat) (s : Limiter) : Prop :=
  AtMost windowMs callsPerMinute s.letThrough

theorem Check.isLetThrough_of_isAllowed (c : Check) (h : c.isAllowed = true) :
    c.isLetThrough = true := by
  rw [Check.isAllowed, decide_eq_true_eq] at h
  rw [Check.isLetThrough, h]

theorem Limiter.Bounded.withinLimit (h : s.Bounded callsPerMinute) :
    s.WithinLimit callsPerMinute :=
  AtMost.mono h (countP_arrivals_mono Check.isLetThrough_of_isAllowed)

theorem Limiter.checks_command (s : Limiter) (c : Check) : (s.command c).checks = s.checks := by
  unfold Limiter.command
  split <;> rfl

theorem Limiter.memory_command (s : Limiter) (c : Check) : (s.command c).memory = s.memory := by
  unfold Limiter.command
  split <;> rfl

theorem Limiter.now_command (s : Limiter) (c : Check) : (s.command c).now = s.now := by
  unfold Limiter.command
  split <;> rfl

theorem Limiter.Bounded.move {s' : Limiter} {c : Check} {phase : CheckPhase}
    (h : s.Bounded callsPerMinute) (hchecks : s'.checks = s.checks) (hc : s.checks[id]? = some c)
    (hphase : Check.isLetThrough { c with phase := phase } = true → c.isLetThrough = true) :
    (s'.at id c phase).Bounded callsPerMinute := by
  apply AtMost.mono h
  intro q
  rw [Limiter.letThrough, Limiter.at, hchecks]
  exact countP_arrivals_move hc (by rfl) hphase q

theorem Limiter.Bounded.arrive (h : s.Bounded callsPerMinute) (hc : s.checks[id]? = none)
    (c : Check) : (s.at id c .zremrangebyscore).Bounded callsPerMinute := by
  apply AtMost.mono h
  intro q
  exact Nat.le_of_eq (countP_arrivals_new hc rfl q)

/-- A check that counts fewer entries than the limit, with the requests near it that have none,
lets its request through. -/
theorem Limiter.Bounded.enter {s' : Limiter} {c : Check} (h : s.Bounded callsPerMinute)
    (hchecks : s'.checks = s.checks) (hc : s.checks[id]? = some c) (hp : c.phase = .zcard)
    (hroom : (s.unentered c.nowMs).length + s.entries.length < callsPerMinute) :
    (s'.at id c .zadd).Bounded callsPerMinute := by
  have hnear : s.letThrough.countP (nearBy windowMs c.nowMs) < callsPerMinute :=
    Nat.lt_of_le_of_lt (countP_nearBy_le c.nowMs s.entries) hroom
  apply AtMost.mono (AtMost.cons h hnear)
  intro q
  rw [Limiter.letThrough, Limiter.at, hchecks]
  refine Nat.le_of_eq (countP_arrivals_join hc (by rfl) ?_ (by rfl) q)
  rw [Check.isLetThrough, hp]

theorem Limiter.Bounded.advance {c : Check} (h : s.Bounded callsPerMinute)
    (hc : s.checks[id]? = some c)
    (hroom : c.phase = .zcard → s.entries.length < callsPerMinute →
      (s.unentered c.nowMs).length + s.entries.length < callsPerMinute) :
    ((s.command c).at id c (s.next callsPerMinute c)).Bounded callsPerMinute := by
  unfold Limiter.next
  cases hp : c.phase with
  | zremrangebyscore => exact h.move (s.checks_command c) hc (fun hl => Bool.noConfusion hl)
  | zcard =>
    dsimp only
    split
    · exact h.move (s.checks_command c) hc (fun hl => Bool.noConfusion hl)
    · next hless => exact h.enter (s.checks_command c) hc hp (hroom hp (Nat.not_le.mp hless))
  | zadd => exact h.move (s.checks_command c) hc (fun _ => by rw [Check.isLetThrough, hp])
  | expire => exact h.move (s.checks_command c) hc (fun _ => by rw [Check.isLetThrough, hp])
  | done v =>
    apply h.move (s.checks_command c) hc
    intro hl
    rw [Check.isLetThrough, hp]
    exact hl

theorem Limiter.Bounded.fallBack {s' : Limiter} {c : Check} (h : s.Bounded callsPerMinute)
    (hchecks : s'.checks = s.checks) (hc : s.checks[id]? = some c) :
    (s'.fallBack copy clientIp id c).Bounded callsPerMinute := by
  rw [Limiter.fallBack]
  split
  · exact h.move hchecks hc (fun hl => Bool.noConfusion hl)
  · exact h.move hchecks hc (fun hl => Bool.noConfusion hl)

theorem Limiter.Bounded.step (h : s.Bounded callsPerMinute) (op : LimiterOp)
    (hop : s.Spares copy callsPerMinute op) :
    (s.step copy clientIp callsPerMinute op).Bounded callsPerMinute := by
  cases op with
  | arrive id =>
    rw [Limiter.step]
    split
    · next hc => exact h.arrive hc _
    · exact h
  | advance id =>
    rw [Limiter.step]
    rw [Limiter.Spares] at hop
    split
    · exact h
    · next c hc =>
      rw [hc] at hop
      exact h.advance hc hop
  | fail id applied =>
    rw [Limiter.step]
    split
    · exact h
    · next c hc =>
      split
      · apply h.fallBack _ hc
        split
        · exact s.checks_command c
        · rfl
      · exact h
  | elapse microseconds =>
    rw [Limiter.step, Limiter.elapse]
    split
    · exact h
    · exact h

theorem Limiter.Spares.fallsBack {op : LimiterOp} (hop : s.Spares copy callsPerMinute op) :
    s.FallsBack copy clientIp callsPerMinute op := by
  cases op with
  | fail id applied =>
    intro c hc hwaits
    rw [Limiter.Spares, hc] at hop
    have hafter : ∀ s' : Limiter, s'.memory = s.memory → s'.now = s.now →
        (s'.fallBack copy clientIp id c).checks[id]? =
          some { c with
            phase := .done (.memory (s.memory.check clientIp copy.maxRpm s.now).2) } := by
      intro s' hmemory hnow
      rw [Limiter.fallBack, if_pos (hop hwaits), hmemory, hnow]
      exact Std.TreeMap.getElem?_insert_self
    rw [Limiter.step, hc]
    dsimp only
    rw [if_pos hwaits]
    cases applied with
    | true => exact hafter _ (s.memory_command c) (s.now_command c)
    | false => exact hafter s rfl rfl
  | _ => trivial

theorem Limiter.Bounded.start (callsPerMinute : Nat) : Limiter.start.Bounded callsPerMinute :=
  AtMost.nil windowMs callsPerMinute

end Steps

theorem rate_limit_holds (copy : Copy) (clientIp : String) (callsPerMinute : Nat)
    (ops : List LimiterOp)
    (h : Guarded (Limiter.step copy clientIp callsPerMinute) (Limiter.Spares copy callsPerMinute)
      .start ops) :
    (∀ l, l <+: ops →
      (Limiter.start.run copy clientIp callsPerMinute l).WithinLimit callsPerMinute) ∧
    ∀ l op, l ++ [op] <+: ops →
      (Limiter.start.run copy clientIp callsPerMinute l).FallsBack copy clientIp callsPerMinute
        op := by
  constructor
  · rintro l ⟨rest, rfl⟩
    have hbounded := (guarded_append.mp h).1.invariant (Limiter.Bounded.start callsPerMinute)
      (fun _ op hs hop => hs.step op hop)
    exact Limiter.Bounded.withinLimit hbounded
  · intro l op hl
    exact (guarded_iff_forall_step.mp h l op hl).fallsBack

section Examples

/-- A request is checked with no other one under way. -/
def wholeCheck (id : Nat) : List LimiterOp := .arrive id :: List.replicate 4 (.advance id)

/-- Two requests are allowed, a third one is not, and the store fails the fourth. -/
def apart : List LimiterOp :=
  wholeCheck 0 ++ .elapse 1000 :: wholeCheck 1 ++ .elapse 1000 :: wholeCheck 2 ++
    [.elapse 1000, .arrive 3, .advance 3, .fail 3 true]

/-- Two requests count before either is entered. -/
def together : List LimiterOp :=
  [.arrive 0, .elapse 1000, .arrive 1, .advance 0, .advance 0, .advance 1, .advance 1,
    .advance 0, .advance 0, .advance 1, .advance 1]

end Examples

theorem rate_limit_holds_apart :
    (∀ l, l <+: apart → (Limiter.start.run controlPlane "10.0.0.1" 2 l).WithinLimit 2) ∧
    ∀ l op, l ++ [op] <+: apart →
      (Limiter.start.run controlPlane "10.0.0.1" 2 l).FallsBack controlPlane "10.0.0.1" 2 op :=
  rate_limit_holds controlPlane "10.0.0.1" 2 apart (by decide +kernel)

/-- With a limit of two, three requests of one millisecond are allowed; with a limit of one, two
requests that count before they are entered are; and the shared copy has no verdict for a request
whose first command fails. -/
theorem limit_exceeded :
    ¬ (Limiter.start.run controlPlane "10.0.0.1" 2
      (wholeCheck 0 ++ wholeCheck 1 ++ wholeCheck 2)).WithinLimit 2 ∧
    ¬ (Limiter.start.run shared "10.0.0.1" 1 together).WithinLimit 1 ∧
    ¬ (Limiter.start.run shared "10.0.0.1" 1 [.arrive 0]).FallsBack shared "10.0.0.1" 1
      (.fail 0 false) := by
  refine ⟨?_, ?_, ?_⟩
  · intro h
    exact absurd (h 0) (by decide +kernel)
  · intro h
    exact absurd (h 0) (by decide +kernel)
  · intro h
    exact absurd (h ⟨0, .zremrangebyscore⟩ (by decide +kernel) rfl) (by decide +kernel)

end P2PMesh.RateLimit
