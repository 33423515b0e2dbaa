import Mathlib.Data.Nat.Basic
import Mathlib.Order.Monotone.Defs
import P2PMesh.Base.Run
import P2PMesh.Usage

namespace P2PMesh.Usage
open P2PMesh.Base
set_option autoImplicit true

deriving instance DecidableEq for Readings

/-- A counter with the time at which its key expires. -/
structure Counter where
  value : Int
  expiresAt : Nat
deriving DecidableEq

def seconds (n : Nat) : Nat := n * 1000000

/-- The counter that a metric is kept in at an instant, with the time its key is given to live. -/
def counterOf (metricType : String) (userId : Uuid) (now : Nat) : Option (CounterKey × Nat) :=
  if metricType = "api_request" then some (.requests userId (minuteOf now), seconds 120)
  else if metricType = "ws_connection" then
    some (.connections userId (dayOf now), seconds (86400 * 2))
  else if metricType = "bandwidth" ∨ metricType = "relay_bytes" then
    some (.bandwidth userId (dayOf now), seconds (86400 * 2))
  else none

/-- An event that was let in, with the instant at which it was recorded. -/
structure Admitted where
  userId : Uuid
  metricType : String
  instant : Nat
deriving DecidableEq

def Admitted.key (e : Admitted) : Option CounterKey :=
  (counterOf e.metricType e.userId e.instant).map (·.1)

/-- The clock, the table of plans, the counters, and the events let in so far. -/
structure UsageHistory where
  now : Nat
  plans : Std.TreeMap Uuid UserPlan
  counters : CounterKey → Option Counter
  admitted : List Admitted

def UsageHistory.new (plans : Std.TreeMap Uuid UserPlan) (now : Nat) : UsageHistory :=
  ⟨now, plans, fun _ => none, []⟩

/-- An event is checked and recorded if it is let in, with the time that passes before the check
looks at the ban, before it looks at the counters and before the event is recorded; or a user is
banned or is so no more. -/
inductive UsageOp where
  | event (userId : Uuid) (metricType : String) (beforeBan beforeCounters beforeRecord : Nat)
  | banUser (userId : Uuid) (bannedUntil : Datetime)
  | unbanUser (userId : Uuid)
  | elapse (time : Nat)

section History
variable (T : Texts) (cfg : Settings) (s : UsageHistory)

/-- What the store has at an instant, with the keys gone that have expired. -/
def UsageHistory.storeAt (t : Nat) : UsageStore where
  plans := s.plans
  counters key := ((s.counters key).filter (fun c => t < c.expiresAt)).map Counter.value
  jwtBlacklist := ∅

def UsageHistory.incrby (key : CounterKey) (value : Int) (ttl : Nat) : UsageHistory :=
  { s with
    counters := Function.update s.counters key
      (some ⟨(s.storeAt s.now).counter key + value, s.now + ttl⟩) }

def UsageHistory.recordUsage (userId : Uuid) (metricType : String) (value : Int) : UsageHistory :=
  match counterOf metricType userId s.now with
  | none => s
  | some (key, ttl) => s.incrby key value ttl

def UsageHistory.planOf (userId : Uuid) : UserPlan := (s.storeAt s.now).planOf userId

def UsageHistory.setPlan (userId : Uuid) (plan : UserPlan) : UsageHistory :=
  { s with plans := s.plans.insert userId plan }

/-- An event that is let in is recorded with the value 1. -/
def UsageHistory.accept (userId : Uuid) (metricType : String) : UsageHistory :=
  { s.recordUsage userId metricType 1 with
    admitted := s.admitted ++ [⟨userId, metricType, s.now⟩] }

/-- What the clock shows when the check looks at the ban and at the counters. -/
def UsageHistory.readings (beforeBan beforeCounters : Nat) : Readings :=
  ⟨s.now, s.now + beforeBan, s.now + beforeBan + beforeCounters⟩

/-- The check of a user. -/
def UsageHistory.check (userId : Uuid) (c : Readings) : UsageStore × Option QuotaAnswer :=
  (s.storeAt c.counters).checkQuota T cfg userId c

def UsageHistory.event (userId : Uuid) (metricType : String)
    (beforeBan beforeCounters beforeRecord : Nat) : UsageHistory :=
  let c := s.readings beforeBan beforeCounters
  let (store, answer) := s.check T cfg userId c
  let checked : UsageHistory :=
    { s with plans := store.plans, now := c.counters + beforeRecord }
  if answer.any (·.allowed) then checked.accept userId metricType else checked

def UsageHistory.step : UsageOp → UsageHistory
  | .event userId metricType beforeBan beforeCounters beforeRecord =>
    s.event T cfg userId metricType beforeBan beforeCounters beforeRecord
  | .banUser userId bannedUntil =>
    s.setPlan userId { s.planOf userId with isBanned := true, bannedUntil := some bannedUntil }
  | .unbanUser userId =>
    s.setPlan userId { s.planOf userId with isBanned := false, bannedUntil := none }
  | .elapse time => { s with now := s.now + time }

def UsageHistory.run (ops : List UsageOp) : UsageHistory := ops.foldl (UsageHistory.step T cfg) s

def UsageHistory.limitsOf (userId : Uuid) : PlanLimits := cfg.limitsOf (s.planOf userId).plan

/-- The events of a kind let in that fall into a window of time. -/
def UsageHistory.admittedIn (metricType : String) (window : Nat → Nat) (userId : Uuid)
    (w : Nat) : Nat :=
  s.admitted.countP (fun e => e.metricType = metricType ∧ e.userId = userId ∧
    window e.instant = w)

/-- In no calendar minute more requests and in no calendar day more connections are let in than
the plan allows, which is none for a limit below zero. -/
structure UsageHistory.Bounded : Prop where
  requests : ∀ userId minute, s.admittedIn "api_request" minuteOf userId minute ≤
    (s.limitsOf cfg userId).maxRequestsPerMin.toNat
  connections : ∀ userId day, s.admittedIn "ws_connection" dayOf userId day ≤
    (s.limitsOf cfg userId).maxConnections.toNat

end History

section Refusals
variable (T : Texts) (cfg : Settings) (s : UsageHistory)

/-- A ban whose end is still to come, with a time zone or without. -/
def UserPlan.InForce (plan : UserPlan) (now : Nat) : Prop :=
  plan.isBanned = true ∧ ∃ bannedUntil ∈ plan.bannedUntil, now < bannedUntil.instant

def UsageStore.LimitReached (cfg : Settings) (store : UsageStore) (userId : Uuid) (now : Nat) :
    Prop :=
  (cfg.limitsOf (store.planOf userId).plan).maxRequestsPerMin ≤ store.currentRequests userId now ∨
  (cfg.limitsOf (store.planOf userId).plan).maxConnections ≤
    store.currentConnections userId now ∨
  (cfg.limitsOf (store.planOf userId).plan).maxBandwidthBytes ≤ store.currentBandwidth userId now

/-- The check refuses the user exactly where a limit is reached or a ban is in force. -/
def UsageHistory.RefusesExactly (userId : Uuid) (c : Readings) : Prop :=
  (∃ answer, (s.check T cfg userId c).2 = some answer ∧ answer.allowed = false) ↔
    (s.storeAt c.counters).LimitReached cfg userId c.counters ∨ (s.planOf userId).InForce c.ban

/-- A ban without a time zone is over and no limit is reached with it; and a user who is not banned
and below all limits else does not have as many connections as allowed. -/
structure UsageHistory.SparesCheck (userId : Uuid) (c : Readings) : Prop where
  withoutZone : (s.planOf userId).BannedWithoutZone →
    ¬ (s.storeAt c.counters).LimitReached cfg userId c.counters ∧
      ¬ (s.planOf userId).InForce c.ban
  atLimit : ¬ (s.planOf userId).BannedWithoutZone → ¬ (s.planOf userId).Banned c.ban →
    (s.storeAt c.counters).BelowLimits cfg userId c.counters →
      (s.storeAt c.counters).currentConnections userId c.counters ≠
        (s.limitsOf cfg userId).maxConnections

def UsageHistory.StepsExactly : UsageOp → Prop
  | .event userId _ beforeBan beforeCounters _ =>
    s.RefusesExactly T cfg userId (s.readings beforeBan beforeCounters)
  | _ => True

def UsageHistory.Spares : UsageOp → Prop
  | .event userId _ beforeBan beforeCounters _ =>
    s.SparesCheck cfg userId (s.readings beforeBan beforeCounters)
  | _ => True

end Refusals

section Exactness
variable {T : Texts} {cfg : Settings} {s : UsageHistory} {userId : Uuid} {c : Readings}

theorem UserPlan.Banned.inForce {plan : UserPlan} (h : plan.Banned now) : plan.InForce now := by
  obtain ⟨hbanned, bannedUntil, he, -, hlt⟩ := h
  exact ⟨hbanned, bannedUntil, he, hlt⟩

theorem UserPlan.inForce_iff {plan : UserPlan} (h : ¬ plan.BannedWithoutZone) :
    plan.InForce now ↔ plan.Banned now := by
  refine ⟨?_, UserPlan.Banned.inForce⟩
  rintro ⟨hbanned, bannedUntil, he, hlt⟩
  refine ⟨hbanned, bannedUntil, he, ?_, hlt⟩
  by_contra hzone
  exact h ⟨hbanned, bannedUntil, he, Bool.eq_false_iff.mpr hzone⟩

theorem UsageStore.limitReached_iff {store : UsageStore} :
    store.LimitReached cfg userId now ↔ ¬ (store.BelowLimits cfg userId now ∧
      store.currentConnections userId now ≠
        (cfg.limitsOf (store.planOf userId).plan).maxConnections) := by
  constructor
  · rintro hreached ⟨hbelow, hne⟩
    have hrequests := hbelow.requests
    have hconnections := hbelow.connections
    have hbandwidth := hbelow.bandwidth
    rw [UsageStore.LimitReached] at hreached
    omega
  · intro h
    rw [UsageStore.LimitReached]
    by_contra hnone
    rw [not_or, not_or, Int.not_le, Int.not_le, Int.not_le] at hnone
    obtain ⟨hrequests, hconnections, hbandwidth⟩ := hnone
    exact h ⟨⟨hrequests, Int.le_of_lt hconnections, hbandwidth⟩, Int.ne_of_lt hconnections⟩

theorem UsageHistory.planOf_storeAt (s : UsageHistory) (t : Nat) (userId : Uuid) :
    (s.storeAt t).planOf userId = s.planOf userId := rfl

theorem UsageHistory.refusesExactly_iff :
    s.RefusesExactly T cfg userId c ↔ s.SparesCheck cfg userId c := by
  rw [UsageHistory.RefusesExactly, UsageHistory.check, UsageStore.checkQuota_refused_iff,
    UsageHistory.planOf_storeAt]
  by_cases hzone : (s.planOf userId).BannedWithoutZone
  · have hanswerless : ¬ ¬ ((s.planOf userId).BannedWithoutZone ∨
        ¬ (s.planOf userId).Banned c.ban ∧
          (s.storeAt c.counters).BelowLimits cfg userId c.counters) := not_not.mpr (.inl hzone)
    rw [iff_false_left hanswerless, not_or]
    exact ⟨fun h => ⟨fun _ => h, fun hn => (hn hzone).elim⟩, fun h => h.withoutZone hzone⟩
  · rw [or_iff_right hzone, UserPlan.inForce_iff hzone, UsageStore.limitReached_iff]
    constructor
    · intro h
      refine ⟨fun hz => (hzone hz).elim, fun _ hban hbelow hat => ?_⟩
      have hrefused := h.mpr (.inl (fun hb => hb.2 hat))
      exact hrefused ⟨hban, hbelow⟩
    · intro h
      by_cases hban : (s.planOf userId).Banned c.ban
      · exact iff_of_true (fun hb => hb.1 hban) (.inr hban)
      · rw [or_iff_left hban, not_iff_not, and_iff_right hban]
        exact ⟨fun hbelow => ⟨hbelow, h.atLimit hzone hban hbelow⟩, fun hb => hb.1⟩

end Exactness

section Counting
variable {T : Texts} {cfg : Settings} {s : UsageHistory} {userId : Uuid}

/-- The end of the minute or the day that a counter is for. -/
def CounterKey.endsAt : CounterKey → Nat
  | .requests _ minute => (minute + 1) * 60000000
  | .connections _ day | .bandwidth _ day => (day + 1) * 86400000000

def UsageHistory.countOf (s : UsageHistory) (key : CounterKey) : Nat :=
  s.admitted.countP (fun e => e.key = some key)

/-- The counters have what was let in, for as long as their time lasts. -/
structure UsageHistory.Counted (s : UsageHistory) : Prop where
  value : ∀ key, ((s.counters key).map Counter.value).getD 0 = s.countOf key
  lasting : ∀ key counter, s.counters key = some counter → key.endsAt ≤ counter.expiresAt
  past : ∀ e ∈ s.admitted, e.instant ≤ s.now

theorem lt_endsAt_of_counterOf {metricType : String} {key : CounterKey} {ttl t : Nat}
    (h : counterOf metricType userId t = some (key, ttl)) :
    t < key.endsAt ∧ key.endsAt ≤ t + ttl := by
  unfold counterOf at h
  split_ifs at h
  all_goals
    cases h
    simp only [CounterKey.endsAt, minuteOf, dayOf, seconds]
    omega

theorem lt_endsAt_requests (userId : Uuid) (t : Nat) :
    t < (CounterKey.requests userId (minuteOf t)).endsAt := by
  simp only [CounterKey.endsAt, minuteOf]
  omega

theorem lt_endsAt_connections (userId : Uuid) (t : Nat) :
    t < (CounterKey.connections userId (dayOf t)).endsAt := by
  simp only [CounterKey.endsAt, dayOf]
  omega

theorem UsageHistory.Counted.counter (h : s.Counted) {key : CounterKey} {t : Nat}
    (ht : t < key.endsAt) : (s.storeAt t).counter key = s.countOf key := by
  rw [← h.value key, UsageStore.counter, UsageHistory.storeAt]
  dsimp only
  cases hc : s.counters key with
  | none => rfl
  | some counter =>
    have hlive : t < counter.expiresAt := Nat.lt_of_lt_of_le ht (h.lasting key counter hc)
    rw [Option.filter_some, if_pos (decide_eq_true hlive)]

theorem Admitted.key_requests (e : Admitted) (userId : Uuid) (minute : Nat) :
    e.key = some (.requests userId minute) ↔
      e.metricType = "api_request" ∧ e.userId = userId ∧ minuteOf e.instant = minute := by
  rw [Admitted.key, counterOf]
  split_ifs with hrequest hconnection hbandwidth
  · simp only [Option.map_some, Option.some.injEq, CounterKey.requests.injEq, hrequest, true_and]
  · simp only [Option.map_some, Option.some.injEq, reduceCtorEq, hrequest, false_and]
  · simp only [Option.map_some, Option.some.injEq, reduceCtorEq, hrequest, false_and]
  · simp only [Option.map_none, reduceCtorEq, hrequest, false_and]

theorem Admitted.key_connections (e : Admitted) (userId : Uuid) (day : Nat) :
    e.key = some (.connections userId day) ↔
      e.metricType = "ws_connection" ∧ e.userId = userId ∧ dayOf e.instant = day := by
  rw [Admitted.key, counterOf]
  split_ifs with hrequest hconnection hbandwidth
  · simp [hrequest]
  · simp only [Option.map_some, Option.some.injEq, CounterKey.connections.injEq, hconnection,
      true_and]
  · simp only [Option.map_some, Option.some.injEq, reduceCtorEq, hconnection, false_and]
  · simp only [Option.map_none, reduceCtorEq, hconnection, false_and]

theorem UsageHistory.admittedIn_requests (s : UsageHistory) (userId : Uuid) (minute : Nat) :
    s.admittedIn "api_request" minuteOf userId minute = s.countOf (.requests userId minute) := by
  rw [UsageHistory.admittedIn, UsageHistory.countOf]
  apply List.countP_congr
  intro e _
  rw [decide_eq_true_eq, decide_eq_true_eq, Admitted.key_requests]

theorem UsageHistory.admittedIn_connections (s : UsageHistory) (userId : Uuid) (day : Nat) :
    s.admittedIn "ws_connection" dayOf userId day = s.countOf (.connections userId day) := by
  rw [UsageHistory.admittedIn, UsageHistory.countOf]
  apply List.countP_congr
  intro e _
  rw [decide_eq_true_eq, decide_eq_true_eq, Admitted.key_connections]

theorem UsageHistory.Counted.countOf_le (h : s.Counted) {window : Nat → Nat}
    (hmono : Monotone window) {key : Nat → CounterKey}
    (hkey : ∀ (e : Admitted) w, e.key = some (key w) → window e.instant = w) {t t' : Nat}
    (ht : s.now ≤ t) (htt : t ≤ t') :
    s.countOf (key (window t')) ≤ s.countOf (key (window t)) := by
  by_cases he : window t' = window t
  · rw [he]
  · have hzero : s.countOf (key (window t')) = 0 := by
      rw [UsageHistory.countOf, List.countP_eq_zero]
      intro e hmem hk
      have hw := hkey e _ (of_decide_eq_true hk)
      have hpast : window e.instant ≤ window t := hmono (Nat.le_trans (h.past e hmem) ht)
      have hlater : window t ≤ window t' := hmono htt
      omega
    rw [hzero]
    exact Nat.zero_le _

theorem minuteOf_mono : Monotone minuteOf := fun _ _ h => Nat.div_le_div_right h

theorem dayOf_mono : Monotone dayOf := fun _ _ h => Nat.div_le_div_right h

section Plans
variable {store : UsageStore}

theorem UsageStore.planOf_setPlan (plan : UserPlan) (other : Uuid) :
    (store.setPlan userId plan).planOf other =
      if userId = other then plan else store.planOf other := by
  rw [UsageStore.planOf, UsageStore.setPlan, getElem?_insert_eq]
  split
  · rfl
  · rfl

theorem UsageStore.planOf_getOrCreate (other : Uuid) :
    (store.getOrCreateUserPlan userId).1.planOf other = store.planOf other := by
  rw [UsageStore.getOrCreateUserPlan]
  cases hplan : store.plans[userId]? with
  | some plan => rfl
  | none =>
    dsimp only
    rw [UsageStore.planOf_setPlan]
    split
    · next he =>
      rw [← he, UsageStore.planOf, hplan]
      rfl
    · rfl

theorem UsageStore.plan_checkQuota (c : Readings) (other : Uuid) :
    ((store.checkQuota T cfg userId c).1.planOf other).plan = (store.planOf other).plan := by
  rw [UsageStore.checkQuota]
  dsimp only
  split
  · rfl
  · dsimp only
    rw [UsageStore.planOf_getOrCreate]
  · dsimp only
    split
    · rw [UsageStore.planOf_setPlan]
      split
      · next he => rw [UsageStore.getOrCreateUserPlan_snd, he]
      · rw [UsageStore.planOf_getOrCreate]
    · rw [UsageStore.planOf_getOrCreate]

end Plans

/-- The state after the check of an event, before it is recorded. -/
def UsageHistory.checked (T : Texts) (cfg : Settings) (s : UsageHistory) (userId : Uuid)
    (beforeBan beforeCounters beforeRecord : Nat) : UsageHistory :=
  { s with
    plans := (s.check T cfg userId (s.readings beforeBan beforeCounters)).1.plans
    now := (s.readings beforeBan beforeCounters).counters + beforeRecord }

theorem UsageHistory.event_eq (metricType : String) (beforeBan beforeCounters beforeRecord : Nat) :
    s.event T cfg userId metricType beforeBan beforeCounters beforeRecord =
      if (s.check T cfg userId (s.readings beforeBan beforeCounters)).2.any (·.allowed) then
        (s.checked T cfg userId beforeBan beforeCounters beforeRecord).accept userId metricType
      else s.checked T cfg userId beforeBan beforeCounters beforeRecord := rfl

theorem UsageHistory.Counted.checked (h : s.Counted)
    (beforeBan beforeCounters beforeRecord : Nat) :
    (s.checked T cfg userId beforeBan beforeCounters beforeRecord).Counted where
  value := h.value
  lasting := h.lasting
  past e he := by
    have hpast := h.past e he
    simp only [UsageHistory.checked, UsageHistory.readings]
    omega

theorem UsageHistory.countOf_accept (metricType : String) (key : CounterKey) :
    (s.accept userId metricType).countOf key = s.countOf key +
      if (counterOf metricType userId s.now).map (·.1) = some key then 1 else 0 := by
  rw [UsageHistory.countOf, UsageHistory.accept, List.countP_append, List.countP_singleton]
  simp only [decide_eq_true_eq]
  rfl

/-- A counter after an event that is let in: it is as it was, or it has what was let in with this
event, and its time begins anew. -/
theorem UsageHistory.Counted.counters_accept (h : s.Counted) (userId : Uuid)
    (metricType : String) (key : CounterKey) :
    ((s.accept userId metricType).counters key = s.counters key ∧
      (counterOf metricType userId s.now).map (·.1) ≠ some key) ∨
    ∃ ttl, counterOf metricType userId s.now = some (key, ttl) ∧
      (s.accept userId metricType).counters key = some ⟨s.countOf key + 1, s.now + ttl⟩ := by
  change ((s.recordUsage userId metricType 1).counters key = _ ∧ _) ∨
    ∃ ttl, _ ∧ (s.recordUsage userId metricType 1).counters key = _
  rw [UsageHistory.recordUsage]
  cases hkey : counterOf metricType userId s.now with
  | none => exact .inl ⟨rfl, by rintro ⟨⟩⟩
  | some counter =>
    obtain ⟨key', ttl⟩ := counter
    dsimp only
    rw [UsageHistory.incrby, h.counter (lt_endsAt_of_counterOf hkey).1]
    dsimp only
    rw [Function.update_apply]
    by_cases he : key = key'
    · subst he
      exact .inr ⟨ttl, rfl, if_pos rfl⟩
    · exact .inl ⟨if_neg he, fun hs => he (Option.some.inj hs).symm⟩

theorem UsageHistory.now_accept (metricType : String) :
    (s.accept userId metricType).now = s.now := by
  rw [UsageHistory.accept, UsageHistory.recordUsage]
  cases counterOf metricType userId s.now with
  | none => rfl
  | some counter => rfl

theorem UsageHistory.Counted.accept (h : s.Counted) (metricType : String) :
    (s.accept userId metricType).Counted where
  value key := by
    rw [UsageHistory.countOf_accept]
    rcases h.counters_accept userId metricType key with
      ⟨hsame, hother⟩ | ⟨ttl, hcounter, hnew⟩
    · rw [hsame, if_neg hother]
      exact h.value key
    · rw [hnew, if_pos (by rw [hcounter]; rfl)]
      rfl
  lasting key counter hc := by
    rcases h.counters_accept userId metricType key with
      ⟨hsame, -⟩ | ⟨ttl, hcounter, hnew⟩
    · rw [hsame] at hc
      exact h.lasting key counter hc
    · rw [hnew] at hc
      cases hc
      exact (lt_endsAt_of_counterOf hcounter).2
  past e he := by
    rw [UsageHistory.now_accept]
    rcases List.mem_append.mp he with he | he
    · exact h.past e he
    · exact Nat.le_of_eq (by rw [List.mem_singleton.mp he])

end Counting

section Bounds
variable {T : Texts} {cfg : Settings} {s : UsageHistory} {userId : Uuid}

theorem UsageStore.checkQuota_allowed {store : UsageStore} {c : Readings}
    (h : (store.checkQuota T cfg userId c).2.any (·.allowed) = true) :
    store.BelowLimits cfg userId c.counters ∧ ¬ (store.planOf userId).BannedWithoutZone ∧
      ¬ (store.planOf userId).Banned c.ban := by
  rw [← UserPlan.banInForce_eq_none_iff, ← UserPlan.banInForce_eq_true_iff,
    ← UsageStore.checkLimits_allowed_iff]
  rw [UsageStore.checkQuota] at h
  simp only [UsageStore.getOrCreateUserPlan_snd] at h
  cases hban : (store.planOf userId).banInForce c.ban with
  | none =>
    rw [hban] at h
    cases h
  | some banned =>
    rw [hban] at h
    cases banned with
    | true => cases h
    | false => exact ⟨h, by rintro ⟨⟩, by rintro ⟨⟩⟩

theorem UsageHistory.limitsOf_congr {s s' : UsageHistory}
    (h : (s'.planOf userId).plan = (s.planOf userId).plan) :
    s'.limitsOf cfg userId = s.limitsOf cfg userId := by
  rw [UsageHistory.limitsOf, UsageHistory.limitsOf, h]

theorem UsageHistory.plan_checked (beforeBan beforeCounters beforeRecord : Nat) (other : Uuid) :
    ((s.checked T cfg userId beforeBan beforeCounters beforeRecord).planOf other).plan =
      (s.planOf other).plan :=
  UsageStore.plan_checkQuota _ other

theorem UsageHistory.planOf_accept (metricType : String) (other : Uuid) :
    (s.accept userId metricType).planOf other = s.planOf other := by
  rw [UsageHistory.accept, UsageHistory.recordUsage]
  cases counterOf metricType userId s.now with
  | none => rfl
  | some counter => rfl

theorem UsageHistory.planOf_setPlan (plan : UserPlan) (other : Uuid) :
    (s.setPlan userId plan).planOf other = if userId = other then plan else s.planOf other := by
  change ((s.storeAt s.now).setPlan userId plan).planOf other = _
  exact UsageStore.planOf_setPlan plan other

theorem UsageHistory.plan_step (op : UsageOp) (other : Uuid) :
    ((s.step T cfg op).planOf other).plan = (s.planOf other).plan := by
  cases op with
  | event userId metricType beforeBan beforeCounters beforeRecord =>
    rw [UsageHistory.step, UsageHistory.event_eq]
    split
    · rw [UsageHistory.planOf_accept, UsageHistory.plan_checked]
    · rw [UsageHistory.plan_checked]
  | banUser userId bannedUntil | unbanUser userId =>
    rw [UsageHistory.step, UsageHistory.planOf_setPlan]
    split
    · next he => rw [he]
    · rfl
  | elapse time => rfl

theorem UsageHistory.Counted.step (h : s.Counted) (op : UsageOp) : (s.step T cfg op).Counted := by
  cases op with
  | event userId metricType beforeBan beforeCounters beforeRecord =>
    rw [UsageHistory.step, UsageHistory.event_eq]
    split
    · exact (h.checked beforeBan beforeCounters beforeRecord).accept metricType
    · exact h.checked beforeBan beforeCounters beforeRecord
  | banUser userId bannedUntil => exact ⟨h.value, h.lasting, h.past⟩
  | unbanUser userId => exact ⟨h.value, h.lasting, h.past⟩
  | elapse time =>
    exact ⟨h.value, h.lasting, fun e he => Nat.le_trans (h.past e he) (Nat.le_add_right _ _)⟩

theorem UsageHistory.countOf_event_le (h : s.Counted) {metric : String} {window : Nat → Nat}
    {key : Nat → CounterKey} (hmono : Monotone window)
    (hkey : ∀ (e : Admitted) w, e.key = some (key w) → e.metricType = metric ∧
      e.userId = userId ∧ window e.instant = w)
    {u : Uuid} {metricType : String} {beforeBan beforeCounters beforeRecord w limit : Nat}
    (hbound : s.countOf (key w) ≤ limit)
    (hroom : u = userId → metricType = metric →
      s.countOf (key (window (s.readings beforeBan beforeCounters).counters)) < limit) :
    ((s.checked T cfg u beforeBan beforeCounters beforeRecord).accept u metricType).countOf
      (key w) ≤ limit := by
  rw [UsageHistory.countOf_accept]
  change s.countOf (key w) + _ ≤ limit
  split
  · next hk =>
    obtain ⟨hmetric, huser, hw⟩ := hkey ⟨u, metricType, _⟩ w hk
    have hlooked := hroom huser hmetric
    have hnow : s.now ≤ (s.readings beforeBan beforeCounters).counters := by
      simp only [UsageHistory.readings]
      omega
    have hlater : s.countOf (key (window
        ((s.readings beforeBan beforeCounters).counters + beforeRecord))) ≤
          s.countOf (key (window (s.readings beforeBan beforeCounters).counters)) :=
      h.countOf_le hmono (fun e w he => (hkey e w he).2.2) hnow (Nat.le_add_right _ _)
    dsimp only [UsageHistory.checked] at hw
    rw [hw] at hlater
    omega
  · exact hbound

theorem Int.lt_toNat_of_lt {n : Nat} {limit : Int} (h : (n : Int) < limit) : n < limit.toNat := by
  omega

/-- In no minute more requests are let in than the plan allows. -/
def UsageHistory.RequestsBounded (cfg : Settings) (s : UsageHistory) : Prop :=
  ∀ userId minute, s.admittedIn "api_request" minuteOf userId minute ≤
    (s.limitsOf cfg userId).maxRequestsPerMin.toNat

theorem UsageHistory.RequestsBounded.step (hc : s.Counted) (h : s.RequestsBounded cfg)
    (op : UsageOp) : (s.step T cfg op).RequestsBounded cfg := by
  intro userId minute
  have hbound := h userId minute
  rw [UsageHistory.admittedIn_requests] at hbound ⊢
  rw [UsageHistory.limitsOf_congr (UsageHistory.plan_step op userId)]
  cases op with
  | event u metricType beforeBan beforeCounters beforeRecord =>
    rw [UsageHistory.step, UsageHistory.event_eq]
    split
    · next hallowed =>
      refine UsageHistory.countOf_event_le hc minuteOf_mono
        (fun e w hk => (e.key_requests userId w).mp hk) hbound ?_
      rintro rfl -
      have hbelow := (UsageStore.checkQuota_allowed hallowed).1.requests
      rw [UsageStore.currentRequests, hc.counter (lt_endsAt_requests _ _)] at hbelow
      exact Int.lt_toNat_of_lt hbelow
    · exact hbound
  | banUser _ _ | unbanUser _ | elapse _ => exact hbound

/-- An event keeps the connections within the limit if it is not let in when they are as many as
allowed. -/
theorem UsageHistory.connections_step (hc : s.Counted) {op : UsageOp} (hop : s.Spares cfg op)
    {day : Nat} (h : s.admittedIn "ws_connection" dayOf userId day ≤
      (s.limitsOf cfg userId).maxConnections.toNat) :
    (s.step T cfg op).admittedIn "ws_connection" dayOf userId day ≤
      ((s.step T cfg op).limitsOf cfg userId).maxConnections.toNat := by
  rw [UsageHistory.admittedIn_connections] at h ⊢
  rw [UsageHistory.limitsOf_congr (UsageHistory.plan_step op userId)]
  cases op with
  | event u metricType beforeBan beforeCounters beforeRecord =>
    rw [UsageHistory.step, UsageHistory.event_eq]
    split
    · next hallowed =>
      refine UsageHistory.countOf_event_le hc dayOf_mono
        (fun e w hk => (e.key_connections userId w).mp hk) h ?_
      rintro rfl -
      obtain ⟨hbelow, hzone, hban⟩ := UsageStore.checkQuota_allowed hallowed
      have hne := hop.atLimit hzone hban hbelow
      have hle := hbelow.connections
      rw [UsageStore.currentConnections, hc.counter (lt_endsAt_connections _ _)] at hle hne
      exact Int.lt_toNat_of_lt (Int.lt_iff_le_and_ne.mpr ⟨hle, hne⟩)
    · exact h
  | banUser _ _ | unbanUser _ | elapse _ => exact h

theorem UsageHistory.step_iff (hc : s.Counted) (h : s.Bounded cfg) (op : UsageOp) :
    (s.step T cfg op).Bounded cfg ∧ s.StepsExactly T cfg op ↔ s.Spares cfg op := by
  have hexact : s.StepsExactly T cfg op ↔ s.Spares cfg op := by
    cases op with
    | event u metricType beforeBan beforeCounters beforeRecord =>
      exact UsageHistory.refusesExactly_iff
    | _ => rfl
  rw [hexact]
  refine ⟨And.right, fun hop => ⟨⟨?_, ?_⟩, hop⟩⟩
  · exact UsageHistory.RequestsBounded.step hc h.requests op
  · exact fun userId day => UsageHistory.connections_step hc hop (h.connections userId day)

theorem UsageHistory.counted_new (plans : Std.TreeMap Uuid UserPlan) (now : Nat) :
    (UsageHistory.new plans now).Counted where
  value _ := rfl
  lasting _ _ hc := by cases hc
  past _ he := (List.not_mem_nil he).elim

end Bounds

/-- In every run the requests of a minute stay within the limit; the connections of a day do too,
and every check refuses exactly where a limit is reached or a ban is in force, exactly where every
check is spared. -/
theorem quota_admission_iff (T : Texts) (cfg : Settings) (plans : Std.TreeMap Uuid UserPlan)
    (now : Nat) (ops : List UsageOp) :
    (∀ ops', ops' <+: ops →
      ((UsageHistory.new plans now).run T cfg ops').RequestsBounded cfg) ∧
    ((∀ ops', ops' <+: ops → ((UsageHistory.new plans now).run T cfg ops').Bounded cfg) ∧
      Guarded (UsageHistory.step T cfg) (UsageHistory.StepsExactly T cfg) (.new plans now) ops ↔
      Guarded (UsageHistory.step T cfg) (UsageHistory.Spares cfg) (.new plans now) ops) := by
  have hnew : (UsageHistory.new plans now).Counted := UsageHistory.counted_new plans now
  constructor
  · intro ops' _
    refine (run_invariant (UsageHistory.step T cfg)
      (I := fun s => s.Counted ∧ s.RequestsBounded cfg) ⟨hnew, ?_⟩ ?_ ops').2
    · exact fun _ _ => Nat.zero_le _
    · exact fun s op h => ⟨h.1.step op, h.2.step h.1 op⟩
  · refine forall_prefix_and_guarded_iff_of (W := UsageHistory.Counted)
      (J := UsageHistory.Bounded cfg) hnew (fun _ op h => h.step op) ⟨?_, ?_⟩
      (fun _ op hc h => UsageHistory.step_iff hc h op) ops
    · exact fun _ _ => Nat.zero_le _
    · exact fun _ _ => Nat.zero_le _

def silentTexts : Texts := ⟨fun _ _ => none, fun _ => "", fun _ => ""⟩

def wsConnection : UsageOp := .event 1 "ws_connection" 0 0 0

/-- Four connections are let in on a day of a plan with three, and the check of the fourth does not
refuse although the limit is reached. -/
theorem fourth_connection_admitted :
    ¬ ((UsageHistory.new ∅ 0).run silentTexts (.default "s")
        (List.replicate 4 wsConnection)).Bounded (.default "s") ∧
      ¬ ((UsageHistory.new ∅ 0).run silentTexts (.default "s")
        (List.replicate 3 wsConnection)).StepsExactly silentTexts (.default "s") wsConnection := by
  constructor
  · intro h
    exact absurd (h.connections 1 0) (by decide +kernel)
  · intro h
    have hspares := UsageHistory.refusesExactly_iff.mp h
    refine hspares.atLimit ?_ ?_ ⟨?_, ?_, ?_⟩ ?_
    · rintro ⟨hbanned, -⟩
      exact absurd hbanned (by decide +kernel)
    · rintro ⟨hbanned, -⟩
      exact absurd hbanned (by decide +kernel)
    · decide +kernel
    · decide +kernel
    · decide +kernel
    · decide +kernel

end P2PMesh.Usage
