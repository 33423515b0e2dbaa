import P2PMesh.Base.Run
import P2PMesh.Base.Table

namespace P2PMesh.Auth
open P2PMesh.Base
set_option autoImplicit true

abbrev Uuid := BitVec 128

inductive UserPlan where
  | free
  | pro
  | enterprise
deriving DecidableEq

def UserPlan.value : UserPlan → String
  | .free => "free"
  | .pro => "pro"
  | .enterprise => "enterprise"

inductive UserRole where
  | user
  | admin
deriving DecidableEq

def UserRole.value : UserRole → String
  | .user => "user"
  | .admin => "admin"

/-- Instants are counted in microseconds. -/
structure User where
  id : Uuid
  email : String
  passwordHash : String
  plan : UserPlan
  role : UserRole
  isActive : Bool
  passwordUpdatedAt : Option Nat
deriving DecidableEq

structure Settings where
  jwtAccessExpireMinutes : Nat
  jwtRefreshExpireDays : Nat
  loginMaxAttempts : Nat

inductive TokenType where
  | access
  | refresh
deriving DecidableEq

/-- A token that carries the service's signature, as its payload; the control plane's tokens have
no plan. Its instants are whole seconds. -/
structure Token where
  sub : Uuid
  role : String
  plan : Option String
  jti : String
  type : TokenType
  iat : Nat
  exp : Nat
deriving DecidableEq

inductive AuthError where
  | weakPassword (detail : String)
  | lockedOut
  | invalidCredentials
  | disabled
  | invalidRefreshToken
  | notRefreshToken
  | revoked
  | userNotFound
  | wrongPassword
deriving DecidableEq

def AuthError.text : AuthError → String
  | .weakPassword detail => detail
  | .lockedOut => "Too many login attempts. Please try again later."
  | .invalidCredentials => "Invalid email or password"
  | .disabled => "Account is disabled"
  | .invalidRefreshToken => "Invalid or expired refresh token"
  | .notRefreshToken => "Not a refresh token"
  | .revoked => "Refresh token has been revoked"
  | .userNotFound => "User not found"
  | .wrongPassword => "Current password is incorrect"

/-- The key of a refresh token that is stored for one device session. -/
structure SessionKey where
  userId : Uuid
  deviceId : String
deriving DecidableEq

instance : Ord SessionKey where
  compare := compareLex (compareOn SessionKey.userId) (compareOn SessionKey.deviceId)

instance : Std.TransOrd SessionKey :=
  inferInstanceAs
    (Std.TransCmp (compareLex (compareOn SessionKey.userId) (compareOn SessionKey.deviceId)))

instance : Std.LawfulEqOrd SessionKey where
  eq_of_compare {a b} h := by
    obtain ⟨hu, hd⟩ := Ordering.then_eq_eq.mp h
    cases a
    cases b
    cases Std.compare_eq_iff_eq.mp hu
    cases Std.compare_eq_iff_eq.mp hd
    rfl

/-- A value that is gone from its expiry on. -/
structure Stored (α : Type) where
  value : α
  expiresAt : Nat

def Stored.get (entry : Option (Stored α)) (now : Nat) : Option α :=
  match entry with
  | none => none
  | some stored => if now < stored.expiresAt then some stored.value else none

/-- The keys of the store: refresh tokens by user alone and by user and device, failed logins by
email and the access tokens that have been logged out. The counters of failed logins expire by an
event of their own. -/
structure Redis where
  refreshTokens : Std.TreeMap Uuid (Stored Token)
  sessionTokens : Std.TreeMap SessionKey (Stored Token)
  loginLockouts : Std.TreeMap String Nat
  jwtBlacklist : Std.TreeMap String (Stored Unit)

def Redis.empty : Redis := ⟨∅, ∅, ∅, ∅⟩

structure AuthState where
  users : Std.TreeMap Uuid User
  redis : Redis

/-- A call draws at most these at random. -/
structure Draws where
  accessJti : String
  refreshJti : String
  deviceId : String

structure TokenData where
  accessToken : Token
  expiresIn : Nat
  refreshToken : Token
  deviceId : Option String
deriving DecidableEq

def microseconds (seconds : Nat) : Nat := seconds * 1000000

def wholeSeconds (instant : Nat) : Nat := instant / 1000000

section Tokens
variable (cfg : Settings)

def Settings.refreshLifetime : Nat := cfg.jwtRefreshExpireDays * 86400

def createAccessToken (userId : Uuid) (role : String) (plan : Option String) (now : Nat)
    (jti : String) : Token :=
  ⟨userId, role, plan, jti, .access, wholeSeconds now,
    wholeSeconds (now + microseconds (cfg.jwtAccessExpireMinutes * 60))⟩

def createRefreshToken (userId : Uuid) (role : String) (plan : Option String) (now : Nat)
    (jti : String) : Token :=
  ⟨userId, role, plan, jti, .refresh, wholeSeconds now,
    wholeSeconds (now + microseconds cfg.refreshLifetime)⟩

end Tokens

/-- What the character predicates of a password say. -/
structure CharClasses where
  isUpper : Char → Bool
  isLower : Char → Bool
  isDigit : Char → Bool
  isAlnum : Char → Bool

def validatePasswordStrength (c : CharClasses) (password : String) : Except AuthError Unit :=
  if password.length < 10 then .error (.weakPassword "Password must be at least 10 characters")
  else if 128 < password.length then
    .error (.weakPassword "Password must be at most 128 characters")
  else
    let categories := [c.isUpper, c.isLower, c.isDigit, fun ch => !c.isAlnum ch].countP
      (fun category => password.toList.any category)
    if categories < 3 then
      .error (.weakPassword
        "Password must contain at least 3 of: uppercase, lowercase, digit, special character")
    else .ok ()

/-- What comes of comparing a password. -/
inductive Attempt where
  | unknown
  | wrong
  | disabled (user : User)
  | accepted (user : User)
deriving DecidableEq

section Login
variable (cfg : Settings) (verifyPassword : String → String → Bool) (s : AuthState)

def AuthState.userByEmail (email : String) : Option User :=
  (s.users.toList.find? (fun e => e.2.email = email)).map (·.2)

def AuthState.checkLockout (email : String) : Except AuthError Unit :=
  match s.redis.loginLockouts[email]? with
  | none => .ok ()
  | some attempts => if cfg.loginMaxAttempts ≤ attempts then .error .lockedOut else .ok ()

def AuthState.attempt (email password : String) : Attempt :=
  match s.userByEmail email with
  | none => .unknown
  | some user =>
    if ¬ verifyPassword password user.passwordHash then .wrong
    else if ¬ user.isActive then .disabled user
    else .accepted user

def AuthState.recordFailure (email : String) : AuthState :=
  let attempts := s.redis.loginLockouts[email]?.getD 0 + 1
  { s with redis.loginLockouts := s.redis.loginLockouts.insert email attempts }

def AuthState.clearLockout (email : String) : AuthState :=
  { s with redis.loginLockouts := s.redis.loginLockouts.erase email }

/-- The part of a login that both services share, up to the user who is logged in. -/
def AuthState.authenticate (email password : String) : AuthState × Except AuthError User :=
  match s.checkLockout cfg email with
  | .error e => (s, .error e)
  | .ok () =>
    match s.attempt verifyPassword email password with
    | .unknown | .wrong => (s.recordFailure email, .error .invalidCredentials)
    | .disabled _ => (s, .error .disabled)
    | .accepted user => (s.clearLockout email, .ok user)

end Login

/-- A refresh token is read before anything is looked up; `none` is a string that is not signed. -/
def decodeRefreshToken (token : Option Token) (now : Nat) : Except AuthError Token :=
  match token with
  | none => .error .invalidRefreshToken
  | some payload =>
    if payload.exp < wholeSeconds now then .error .invalidRefreshToken
    else if payload.type ≠ .refresh then .error .notRefreshToken
    else .ok payload

section ControlPlane
variable (cfg : Settings) (verifyPassword : String → String → Bool) (s : AuthState)

def chosenDevice (deviceId : Option String) (drawn : String) : String :=
  match deviceId with
  | none => drawn
  | some d => if d = "" then drawn else d

def AuthState.storeSession (userId : Uuid) (deviceId : String) (token : Token) (now : Nat) :
    AuthState :=
  let stored := ⟨token, now + microseconds cfg.refreshLifetime⟩
  { s with redis.sessionTokens := s.redis.sessionTokens.insert ⟨userId, deviceId⟩ stored }

def AuthState.openSession (user : User) (deviceId : String) (now : Nat) (d : Draws) :
    AuthState × TokenData :=
  let refreshToken := createRefreshToken cfg user.id user.role.value none now d.refreshJti
  (s.storeSession cfg user.id deviceId refreshToken now,
    { accessToken := createAccessToken cfg user.id user.role.value none now d.accessJti
      expiresIn := cfg.jwtAccessExpireMinutes * 60
      refreshToken := refreshToken
      deviceId := some deviceId })

def AuthState.loginUser (email password : String) (deviceId : Option String) (now : Nat)
    (d : Draws) : AuthState × Except AuthError TokenData :=
  match s.authenticate cfg verifyPassword email password with
  | (s', .error e) => (s', .error e)
  | (s', .ok user) =>
    let (s'', data) := s'.openSession cfg user (chosenDevice deviceId d.deviceId) now d
    (s'', .ok data)

/-- Some device session of the user has the token. -/
def Redis.holdsSession (r : Redis) (userId : Uuid) (token : Token) (now : Nat) : Bool :=
  r.sessionTokens.toList.any
    (fun e => e.1.userId = userId ∧ Stored.get (some e.2) now = some token)

def AuthState.checkStored (token : Token) (now : Nat) : Except AuthError Unit :=
  match Stored.get s.redis.refreshTokens[token.sub]? now with
  | some stored => if stored ≠ token then .error .revoked else .ok ()
  | none => if s.redis.holdsSession token.sub token now then .ok () else .error .revoked

/-- Whether the user is active is not asked. -/
def AuthState.refreshAccessToken (token : Option Token) (now : Nat) (d : Draws) :
    Except AuthError Token :=
  match decodeRefreshToken token now with
  | .error e => .error e
  | .ok payload =>
    match s.checkStored payload now with
    | .error e => .error e
    | .ok () =>
      match s.users[payload.sub]? with
      | none => .error .userNotFound
      | some user => .ok (createAccessToken cfg payload.sub user.role.value none now d.accessJti)

/-- The refresh tokens in the store are left as they are. -/
def AuthState.changePassword (c : CharClasses) (hashPassword : String → String) (user : User)
    (oldPassword newPassword : String) (now : Nat) : AuthState × Except AuthError Unit :=
  match validatePasswordStrength c newPassword with
  | .error e => (s, .error e)
  | .ok () =>
    if ¬ verifyPassword oldPassword user.passwordHash then (s, .error .wrongPassword)
    else
      let user := { user with
        passwordHash := hashPassword newPassword, passwordUpdatedAt := some now }
      ({ s with users := s.users.insert user.id user }, .ok ())

end ControlPlane

/-- In both services a logout blacklists the access token and deletes the key that has no
device. -/
def AuthState.logoutUser (s : AuthState) (token : Option Token) (now : Nat) : AuthState :=
  match token with
  | none => s
  | some payload =>
    let ttl := max (wholeSeconds (microseconds payload.exp - now)) 1
    let blacklist := if payload.jti = "" then s.redis.jwtBlacklist
      else s.redis.jwtBlacklist.insert payload.jti ⟨(), now + microseconds ttl⟩
    { s with
      redis.jwtBlacklist := blacklist
      redis.refreshTokens := s.redis.refreshTokens.erase payload.sub }

-- The auth service has one refresh token for each user, and the user's plan in its tokens.
namespace Service
section AuthService
variable (cfg : Settings) (verifyPassword : String → String → Bool) (s : AuthState)

def openSession (user : User) (now : Nat) (d : Draws) : AuthState × TokenData :=
  let role := user.role.value
  let plan := some user.plan.value
  let refreshToken := createRefreshToken cfg user.id role plan now d.refreshJti
  let stored := ⟨refreshToken, now + microseconds cfg.refreshLifetime⟩
  ({ s with redis.refreshTokens := s.redis.refreshTokens.insert user.id stored },
    { accessToken := createAccessToken cfg user.id role plan now d.accessJti
      expiresIn := cfg.jwtAccessExpireMinutes * 60
      refreshToken := refreshToken
      deviceId := none })

def loginUser (email password : String) (now : Nat) (d : Draws) :
    AuthState × Except AuthError TokenData :=
  match s.authenticate cfg verifyPassword email password with
  | (s', .error e) => (s', .error e)
  | (s', .ok user) =>
    let (s'', data) := openSession cfg s' user now d
    (s'', .ok data)

def checkStored (token : Token) (now : Nat) : Except AuthError Unit :=
  if Stored.get s.redis.refreshTokens[token.sub]? now ≠ some token then .error .revoked
  else .ok ()

/-- With a database session. A user who is missing or not active has the claims of the refresh
token in the new one. -/
def refreshAccessToken (token : Option Token) (now : Nat) (d : Draws) : Except AuthError Token :=
  match decodeRefreshToken token now with
  | .error e => .error e
  | .ok payload =>
    match checkStored s payload now with
    | .error e => .error e
    | .ok () =>
      match s.users[payload.sub]?.filter (·.isActive) with
      | some user =>
        .ok (createAccessToken cfg payload.sub user.role.value (some user.plan.value) now
          d.accessJti)
      | none =>
        .ok (createAccessToken cfg payload.sub payload.role (some (payload.plan.getD "FREE")) now
          d.accessJti)

end AuthService
end Service

end P2PMesh.Auth
