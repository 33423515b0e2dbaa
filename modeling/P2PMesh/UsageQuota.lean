import P2PMesh.Usage

namespace P2PMesh.Usage
open P2PMesh.Base
set_option autoImplicit true

/-- A request to the usage service. Headers have their names in lower case; of those that the
client adds by itself only the host is looked at. -/
structure HttpRequest where
  headers : List (String × String)
  json : List (String × String)

/-- An answer has the status 200, and no error has it. -/
inductive HttpResponse where
  | answer (a : QuotaAnswer)
  | error (e : HttpException)

structure CurrentUser where
  id : Uuid
  role : String
deriving DecidableEq

/-- The settings have no ALLOWED_HOSTS, and these are what the application falls back to. -/
def allowedHosts : List String := ["localhost", "127.0.0.1"]

def trustedHost (headers : List (String × String)) : Bool :=
  let host := (headers.lookup "host").getD ""
  allowedHosts.contains (String.ofList (host.toList.takeWhile (· ≠ ':')))

/-- `HTTPBearer` without an error of its own: what follows the first space of the header, after a
scheme that reads bearer in any case of its letters. -/
def bearerCredentials (headers : List (String × String)) : Option String :=
  match headers.lookup "authorization" with
  | none => none
  | some authorization =>
    let scheme := String.ofList (authorization.toList.takeWhile (· ≠ ' '))
    let credentials := String.ofList ((authorization.toList.dropWhile (· ≠ ' ')).drop 1)
    if scheme.toLower = "bearer" ∧ credentials ≠ "" then some credentials else none

def unauthorized (detail : String) : HttpException :=
  ⟨401, detail, [("WWW-Authenticate", "Bearer")]⟩

section UsageService
variable (T : Texts) (cfg : Settings) (s : UsageStore) (c : Readings)

def UsageStore.getCurrentUser (headers : List (String × String)) :
    Except HttpException CurrentUser :=
  match bearerCredentials headers with
  | none => .error (unauthorized "Authorization header required")
  | some token =>
    match T.decode cfg.jwtSecret token with
    | none => .error (unauthorized "Invalid or expired token")
    | some payload =>
      if payload.exp < Auth.wholeSeconds c.token then
        .error (unauthorized "Invalid or expired token")
      else if payload.type ≠ .access then .error (unauthorized "Invalid or expired token")
      else if payload.jti = "" then .error (unauthorized "Invalid or expired token")
      else if (Auth.Stored.get s.jwtBlacklist[payload.jti]? c.token).isSome then
        .error (unauthorized "Invalid or expired token")
      else .ok ⟨payload.sub, payload.role⟩

/-- The application on `POST /api/usage/quota/check`. -/
def UsageStore.checkSelfQuota (request : HttpRequest) : UsageStore × HttpResponse :=
  if ¬ trustedHost request.headers then (s, .error ⟨400, "Invalid host header", []⟩)
  else
    match s.getCurrentUser T cfg c request.headers with
    | .error e => (s, .error e)
    | .ok user =>
      match s.checkQuota T cfg user.id c with
      | (s', none) => (s', .error ⟨500, "Internal Server Error", []⟩)
      | (s', some answer) => (s', .answer answer)

end UsageService

/-- What a guarded service has in its environment. -/
structure GuardEnv where
  jwtSecret : String
  usageHost : String
  internalApiKey : String

section Guard
variable (T : Texts) (cfg : Settings) (env : GuardEnv) (s : UsageStore) (c : Readings)

def getUserIdFromRequest (headers : List (String × String)) : Option String :=
  let auth := (headers.lookup "authorization").getD ""
  if "Bearer ".toList.isPrefixOf auth.toList then
    (T.decode env.jwtSecret (String.ofList (auth.toList.drop 7))).map (fun p => T.uuid p.sub)
  else none

def quotaRequest (userId : String) : HttpRequest :=
  ⟨[("host", env.usageHost), ("x-internal-api-key", env.internalApiKey)], [("user_id", userId)]⟩

/-- What the guard makes of a reply, where none is a service that is not reached. -/
def quotaVerdict : Option HttpResponse → Except HttpException Unit
  | some (.answer answer) =>
    if answer.allowed then .ok ()
    else .error ⟨429, s!"Quota exceeded: {answer.reason}", [("Retry-After", "60")]⟩
  | some (.error _) => .ok ()
  | none => .ok ()

def checkUsageQuota (reachable : Bool) (headers : List (String × String)) :
    UsageStore × Except HttpException Unit :=
  match getUserIdFromRequest T env headers with
  | none => (s, .ok ())
  | some userId =>
    if userId = "" then (s, .ok ())
    else if reachable then
      let (s', response) := s.checkSelfQuota T cfg c (quotaRequest env userId)
      (s', quotaVerdict (some response))
    else (s, quotaVerdict none)

end Guard

section Enforcement
variable {T : Texts} {cfg : Settings} {env : GuardEnv} {s : UsageStore} {c : Readings}

theorem bearerCredentials_quotaRequest (userId : String) :
    bearerCredentials (quotaRequest env userId).headers = none := by
  have hlookup : (quotaRequest env userId).headers.lookup "authorization" = none := by
    simp [quotaRequest, List.lookup_cons]
  rw [bearerCredentials, hlookup]

theorem UsageStore.getCurrentUser_quotaRequest (userId : String) :
    s.getCurrentUser T cfg c (quotaRequest env userId).headers =
      .error (unauthorized "Authorization header required") := by
  rw [UsageStore.getCurrentUser, bearerCredentials_quotaRequest]

theorem UsageStore.checkSelfQuota_quotaRequest (userId : String) :
    ∃ e, s.checkSelfQuota T cfg c (quotaRequest env userId) = (s, .error e) := by
  rw [UsageStore.checkSelfQuota, UsageStore.getCurrentUser_quotaRequest]
  split
  · exact ⟨_, rfl⟩
  · exact ⟨_, rfl⟩

theorem checkUsageQuota_ok (reachable : Bool) (headers : List (String × String)) :
    checkUsageQuota T cfg env s c reachable headers = (s, .ok ()) := by
  rw [checkUsageQuota]
  cases getUserIdFromRequest T env headers with
  | none => rfl
  | some userId =>
    dsimp only
    obtain ⟨e, he⟩ := UsageStore.checkSelfQuota_quotaRequest (T := T) (s := s) userId
    rw [he]
    cases reachable with
    | true => split <;> rfl
    | false => split <;> rfl

theorem quota_enforced_iff (T : Texts) (cfg : Settings) (env : GuardEnv) (s : UsageStore)
    (c : Readings) (headers : List (String × String)) (user : CurrentUser)
    (_hvalid : s.getCurrentUser T cfg c headers = .ok user) :
    ((∃ e, (checkUsageQuota T cfg env s c true headers).2 = .error e ∧ e.status = 429) ↔
      ∃ answer, (s.checkQuota T cfg user.id c).2 = some answer ∧ answer.allowed = false) ↔
    (s.planOf user.id).BannedWithoutZone ∨
      ¬ (s.planOf user.id).Banned c.ban ∧ s.BelowLimits cfg user.id c.counters := by
  have hnever : ¬ ∃ e, (checkUsageQuota T cfg env s c true headers).2 = .error e ∧
      e.status = 429 := by
    rintro ⟨e, he, -⟩
    rw [checkUsageQuota_ok] at he
    cases he
  rw [iff_false_left hnever, UsageStore.checkQuota_refused_iff, not_not]

end Enforcement

section Examples

def plainTexts : Texts where
  decode secret token :=
    if secret = "s" ∧ token = "t" then some ⟨1, "user", none, "a0", .access, 0, 900⟩ else none
  isoformat _ := "1970-01-01T00:00:00"
  uuid _ := "00000000-0000-0000-0000-000000000001"

def serviceEnv : GuardEnv := ⟨"s", "usage-service:8000", "k"⟩

/-- The user has made as many requests in the first minute as a free plan has. -/
def spentStore : UsageStore where
  plans := ∅
  counters key := if key = .requests 1 0 then some 100 else none
  jwtBlacklist := ∅

def bearerHeaders : List (String × String) := [("authorization", "Bearer t")]

theorem spentStore_user :
    spentStore.getCurrentUser plainTexts (.default "s") ⟨0, 0, 0⟩ bearerHeaders =
      .ok ⟨1, "user"⟩ := by
  decide +kernel

end Examples

theorem quota_enforced_spent :
    ((∃ e, (checkUsageQuota plainTexts (.default "s") serviceEnv spentStore ⟨0, 0, 0⟩ true
        bearerHeaders).2 = .error e ∧ e.status = 429) ↔
      ∃ answer, (spentStore.checkQuota plainTexts (.default "s") 1 ⟨0, 0, 0⟩).2 = some answer ∧
        answer.allowed = false) ↔
    (spentStore.planOf 1).BannedWithoutZone ∨
      ¬ (spentStore.planOf 1).Banned 0 ∧ spentStore.BelowLimits (.default "s") 1 0 :=
  quota_enforced_iff plainTexts (.default "s") serviceEnv spentStore ⟨0, 0, 0⟩ bearerHeaders
    ⟨1, "user"⟩ spentStore_user

/-- The check would answer that the user is not allowed, and the request goes through. -/
theorem spent_quota_passed :
    spentStore.getCurrentUser plainTexts (.default "s") ⟨0, 0, 0⟩ bearerHeaders =
        .ok ⟨1, "user"⟩ ∧
      (∃ answer, (spentStore.checkQuota plainTexts (.default "s") 1 ⟨0, 0, 0⟩).2 = some answer ∧
        answer.allowed = false) ∧
      (checkUsageQuota plainTexts (.default "s") serviceEnv spentStore ⟨0, 0, 0⟩ true
        bearerHeaders).2 = .ok () := by
  refine ⟨spentStore_user, ?_, by rw [checkUsageQuota_ok]⟩
  rw [UsageStore.checkQuota_refused_iff]
  rintro (⟨hbanned, -⟩ | ⟨-, hbelow⟩)
  · cases hbanned
  · exact absurd hbelow.requests (by decide)

end P2PMesh.Usage
