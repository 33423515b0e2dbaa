import P2PMesh.Auth

namespace P2PMesh.Usage
open P2PMesh.Base
set_option autoImplicit true

abbrev Uuid := Auth.Uuid

/-- An instant in microseconds, as one with a time zone or without. -/
structure Datetime where
  instant : Nat
  aware : Bool
deriving DecidableEq

/-- Whether the first is later; one with a time zone cannot be compared to one without. -/
def Datetime.after (a b : Datetime) : Option Bool :=
  if a.aware = b.aware then some (decide (b.instant < a.instant)) else none

inductive PlanTier where
  | free
  | pro
  | enterprise
deriving DecidableEq

def PlanTier.value : PlanTier → String
  | .free => "FREE"
  | .pro => "PRO"
  | .enterprise => "ENTERPRISE"

structure PlanLimits where
  maxRequestsPerMin : Int
  maxConnections : Int
  maxBandwidthPerDayGb : Int
deriving DecidableEq

structure Settings where
  jwtSecret : String
  free : PlanLimits
  pro : PlanLimits
  enterprise : PlanLimits

/-- The limits are those that hold unless the environment says otherwise. -/
def Settings.default (jwtSecret : String) : Settings :=
  ⟨jwtSecret, ⟨100, 3, 1⟩, ⟨1000, 10, 50⟩, ⟨10000, 50, 500⟩⟩

def Settings.planLimits (cfg : Settings) : List (String × PlanLimits) :=
  [(PlanTier.free.value, cfg.free), (PlanTier.pro.value, cfg.pro),
    (PlanTier.enterprise.value, cfg.enterprise)]

/-- A plan that is not known has the limits of the free one. -/
def Settings.limitsOf (cfg : Settings) (plan : String) : PlanLimits :=
  (cfg.planLimits.lookup plan).getD cfg.free

/-- A row of the table of plans. -/
structure UserPlan where
  plan : String
  isBanned : Bool
  bannedUntil : Option Datetime
deriving DecidableEq

def UserPlan.new : UserPlan := ⟨PlanTier.free.value, false, none⟩

/-- The counters by the calendar minute or the calendar day that their keys name. -/
inductive CounterKey where
  | requests (userId : Uuid) (minute : Nat)
  | connections (userId : Uuid) (day : Nat)
  | bandwidth (userId : Uuid) (day : Nat)
deriving DecidableEq

def minuteOf (instant : Nat) : Nat := instant / 60000000

def dayOf (instant : Nat) : Nat := instant / 86400000000

/-- The table of plans, the counters and the identifiers of the tokens that are logged out. -/
structure UsageStore where
  plans : Std.TreeMap Uuid UserPlan
  counters : CounterKey → Option Int
  jwtBlacklist : Std.TreeMap String (Auth.Stored Unit)

structure QuotaAnswer where
  allowed : Bool
  reason : String
  current : List (String × Int)
  limits : Option PlanLimits
deriving DecidableEq

structure HttpException where
  status : Nat
  detail : String
  headers : List (String × String)
deriving DecidableEq

/-- What the libraries do: the payload of a token signed with a secret, and the texts of instants
and of ids. -/
structure Texts where
  decode : String → String → Option Auth.Token
  isoformat : Datetime → String
  uuid : Uuid → String

/-- What the clock shows when the token, the ban and the counters are looked at. -/
structure Readings where
  token : Nat
  ban : Nat
  counters : Nat

section Quota
variable (T : Texts) (cfg : Settings) (s : UsageStore) (userId : Uuid)

def UsageStore.planOf : UserPlan := (s.plans[userId]?).getD .new

def UsageStore.setPlan (plan : UserPlan) : UsageStore :=
  { s with plans := s.plans.insert userId plan }

/-- A counter that is not there has counted nothing. -/
def UsageStore.counter (key : CounterKey) : Int := (s.counters key).getD 0

def UsageStore.currentRequests (now : Nat) : Int :=
  s.counter (.requests userId (minuteOf now))

def UsageStore.currentConnections (now : Nat) : Int :=
  s.counter (.connections userId (dayOf now))

def UsageStore.currentBandwidth (now : Nat) : Int :=
  s.counter (.bandwidth userId (dayOf now))

def PlanLimits.maxBandwidthBytes (limits : PlanLimits) : Int :=
  limits.maxBandwidthPerDayGb * 1024 * 1024 * 1024

def UsageStore.getOrCreateUserPlan : UsageStore × UserPlan :=
  match s.plans[userId]? with
  | some plan => (s, plan)
  | none => (s.setPlan userId .new, .new)

/-- The checks after that of the ban. -/
def UsageStore.checkLimits (limits : PlanLimits) (now : Nat) : QuotaAnswer :=
  let currentRequests := s.currentRequests userId now
  let currentConnections := s.currentConnections userId now
  let currentBandwidth := s.currentBandwidth userId now
  let maxBandwidthBytes := limits.maxBandwidthBytes
  if limits.maxRequestsPerMin ≤ currentRequests then
    ⟨false, s!"Rate limit exceeded: {currentRequests}/{limits.maxRequestsPerMin} req/min",
      [("requests_per_min", currentRequests)], limits⟩
  else if limits.maxConnections < currentConnections then
    ⟨false, s!"Connection limit exceeded: {currentConnections}/{limits.maxConnections}",
      [("connections", currentConnections)], limits⟩
  else if maxBandwidthBytes ≤ currentBandwidth then
    ⟨false, s!"Bandwidth limit exceeded: {currentBandwidth}/{maxBandwidthBytes} bytes",
      [("bandwidth_today_bytes", currentBandwidth)], limits⟩
  else
    ⟨true, "ok", [("requests_per_min", currentRequests), ("connections", currentConnections),
      ("bandwidth_today_bytes", currentBandwidth)], limits⟩

/-- Whether a ban is in force; `none` is the error of a comparison that raises. -/
def UserPlan.banInForce (plan : UserPlan) (now : Nat) : Option Bool :=
  match plan.isBanned, plan.bannedUntil with
  | true, some bannedUntil => bannedUntil.after ⟨now, true⟩
  | _, _ => some false

/-- The answer, and none when the check raises, which rolls its transaction back. -/
def UsageStore.checkQuota (c : Readings) : UsageStore × Option QuotaAnswer :=
  let (created, plan) := s.getOrCreateUserPlan userId
  match plan.banInForce c.ban with
  | none => (s, none)
  | some true =>
    let bannedUntil := plan.bannedUntil.elim "" T.isoformat
    (created, some ⟨false, s!"Account banned until {bannedUntil}", [], none⟩)
  | some false =>
    let unbanned := if plan.isBanned then
      created.setPlan userId { plan with isBanned := false, bannedUntil := none } else created
    (unbanned, some (s.checkLimits userId (cfg.limitsOf plan.plan) c.counters))

/-- A ban whose end has a time zone, as the clock has, and is still to come. -/
def UserPlan.Banned (plan : UserPlan) (now : Nat) : Prop :=
  plan.isBanned = true ∧
    ∃ bannedUntil, plan.bannedUntil = some bannedUntil ∧ bannedUntil.aware = true ∧
      now < bannedUntil.instant

/-- A ban whose end has no time zone, as a column of the type DateTime holds it. -/
def UserPlan.BannedWithoutZone (plan : UserPlan) : Prop :=
  plan.isBanned = true ∧
    ∃ bannedUntil, plan.bannedUntil = some bannedUntil ∧ bannedUntil.aware = false

/-- What a user has used in the running minute and day is below the limits of the plan. -/
structure UsageStore.BelowLimits (now : Nat) : Prop where
  requests : s.currentRequests userId now < (cfg.limitsOf (s.planOf userId).plan).maxRequestsPerMin
  connections :
    s.currentConnections userId now ≤ (cfg.limitsOf (s.planOf userId).plan).maxConnections
  bandwidth :
    s.currentBandwidth userId now < (cfg.limitsOf (s.planOf userId).plan).maxBandwidthBytes

end Quota

section Refusal
variable {T : Texts} {cfg : Settings} {s : UsageStore} {userId : Uuid} {c : Readings}

theorem UsageStore.getOrCreateUserPlan_snd :
    (s.getOrCreateUserPlan userId).2 = s.planOf userId := by
  rw [UsageStore.getOrCreateUserPlan, UsageStore.planOf]
  cases s.plans[userId]? with
  | none => rfl
  | some plan => rfl

theorem Datetime.after_eq_some_iff {a : Datetime} {late : Bool} :
    a.after ⟨now, true⟩ = some late ↔ a.aware = true ∧ decide (now < a.instant) = late := by
  rw [Datetime.after]
  cases a.aware with
  | true => simp only [↓reduceIte, Option.some.injEq, true_and]
  | false => simp only [Bool.false_eq_true, ↓reduceIte, reduceCtorEq, false_and]

theorem UserPlan.banInForce_eq_true_iff {plan : UserPlan} :
    plan.banInForce now = some true ↔ plan.Banned now := by
  rw [UserPlan.banInForce, UserPlan.Banned]
  cases plan.isBanned with
  | false => simp only [Option.some.injEq, Bool.false_eq_true, false_and]
  | true =>
    cases plan.bannedUntil with
    | none => simp only [Option.some.injEq, reduceCtorEq, false_and, exists_false, and_false]
    | some bannedUntil =>
      simp only [Datetime.after_eq_some_iff, decide_eq_true_eq, Option.some.injEq, true_and,
        exists_eq_left']

theorem UserPlan.banInForce_eq_none_iff {plan : UserPlan} :
    plan.banInForce now = none ↔ plan.BannedWithoutZone := by
  rw [UserPlan.banInForce, UserPlan.BannedWithoutZone]
  cases plan.isBanned with
  | false => simp only [reduceCtorEq, Bool.false_eq_true, false_and]
  | true =>
    cases plan.bannedUntil with
    | none => simp only [reduceCtorEq, false_and, exists_false, and_false]
    | some bannedUntil =>
      cases haware : bannedUntil.aware with
      | true => simp [Datetime.after, haware]
      | false => simp [Datetime.after, haware]

theorem UsageStore.checkLimits_allowed_iff :
    (s.checkLimits userId (cfg.limitsOf (s.planOf userId).plan) now).allowed = true ↔
      s.BelowLimits cfg userId now := by
  rw [UsageStore.checkLimits]
  split_ifs with hrequests hconnections hbandwidth
  · apply iff_of_false id
    exact fun h => (Int.not_le.mpr h.requests) hrequests
  · apply iff_of_false id
    exact fun h => (Int.not_lt.mpr h.connections) hconnections
  · apply iff_of_false id
    exact fun h => (Int.not_le.mpr h.bandwidth) hbandwidth
  · apply iff_of_true rfl
    exact ⟨Int.not_le.mp hrequests, Int.not_lt.mp hconnections, Int.not_le.mp hbandwidth⟩

theorem UsageStore.checkQuota_refused_iff :
    (∃ answer, (s.checkQuota T cfg userId c).2 = some answer ∧ answer.allowed = false) ↔
      ¬ ((s.planOf userId).BannedWithoutZone ∨
        ¬ (s.planOf userId).Banned c.ban ∧ s.BelowLimits cfg userId c.counters) := by
  rw [UsageStore.checkQuota]
  simp only [UsageStore.getOrCreateUserPlan_snd]
  rw [← UserPlan.banInForce_eq_none_iff, ← UserPlan.banInForce_eq_true_iff]
  cases hban : (s.planOf userId).banInForce c.ban with
  | none =>
    apply iff_of_false
    · rintro ⟨answer, hanswer, -⟩
      cases hanswer
    · exact fun h => h (.inl rfl)
  | some banned =>
    cases banned with
    | true =>
      apply iff_of_true
      · exact ⟨_, rfl, rfl⟩
      · rintro (h | ⟨h, -⟩)
        · cases h
        · exact h rfl
    | false =>
      rw [← UsageStore.checkLimits_allowed_iff]
      constructor
      · rintro ⟨answer, hanswer, hrefused⟩ (h | ⟨-, hallowed⟩)
        · cases h
        · cases hanswer
          rw [hallowed] at hrefused
          cases hrefused
      · intro h
        refine ⟨_, rfl, Bool.eq_false_iff.mpr ?_⟩
        intro hallowed
        exact h (.inr ⟨fun hbanned => Bool.noConfusion (Option.some.inj hbanned), hallowed⟩)

end Refusal

end P2PMesh.Usage
