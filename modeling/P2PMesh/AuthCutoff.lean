import P2PMesh.AuthSessions

namespace P2PMesh.Auth
open P2PMesh.Base
set_option autoImplicit true

/-- Why a request over HTTP is not let in. -/
inductive RequestRefusal where
  | headerRequired
  | invalidToken
deriving DecidableEq

def RequestRefusal.detail : RequestRefusal → String
  | .headerRequired => "Authorization header required"
  | .invalidToken => "Invalid or expired token"

/-- Why a socket is closed before it is registered. -/
inductive SocketRefusal where
  | authenticationRequired
  | authenticationFailed
  | invalidTokenType
  | invalidToken
  | tokenRevoked
  | invalidDeviceId
  | deviceNotAuthorized
deriving DecidableEq

def SocketRefusal.message : SocketRefusal → String
  | .authenticationRequired => "Authentication required"
  | .authenticationFailed => "Authentication failed"
  | .invalidTokenType => "Invalid token type"
  | .invalidToken => "Invalid token"
  | .tokenRevoked => "Token has been revoked"
  | .invalidDeviceId => "Invalid device ID"
  | .deviceNotAuthorized => "Device not authorized"

def SocketRefusal.code : SocketRefusal → Nat
  | .invalidDeviceId => 4002
  | .deviceNotAuthorized => 4003
  | _ => 4001

/-- The payload of a signed token that is not out of date. -/
def decodeAccessToken (token : Option Token) (now : Nat) : Option Token :=
  token.filter (fun payload => wholeSeconds now ≤ payload.exp)

def Redis.blacklisted (r : Redis) (jti : String) (now : Nat) : Bool :=
  (Stored.get r.jwtBlacklist[jti]? now).isSome

/-- A token has the second in which it was issued, a change of the password the very instant. -/
def User.changedAfter (user : User) (iat : Nat) : Bool :=
  user.passwordUpdatedAt.any (fun changedAt => microseconds iat < changedAt)

theorem User.changedAfter_of_none {user : User} (h : user.passwordUpdatedAt = none) (iat : Nat) :
    user.changedAfter iat = false := by
  rw [changedAfter, h, Option.any_none]

theorem User.changedAfter_of_some {user : User} {changedAt : Nat}
    (h : user.passwordUpdatedAt = some changedAt) (iat : Nat) :
    user.changedAfter iat = true ↔ microseconds iat < changedAt := by
  rw [changedAfter, h, Option.any_some, decide_eq_true_eq]

section Endpoints
variable (s : AuthState)

/-- The header may be absent, or may hold what is not a signed token. -/
def AuthState.getCurrentUser (credentials : Option (Option Token)) (now : Nat) :
    Except RequestRefusal User :=
  match credentials with
  | none => .error .headerRequired
  | some token =>
    match decodeAccessToken token now with
    | none => .error .invalidToken
    | some payload =>
      if payload.type ≠ .access then .error .invalidToken
      else if payload.jti = "" then .error .invalidToken
      else if s.redis.blacklisted payload.jti now then .error .invalidToken
      else
        match s.users[payload.sub]? with
        | none => .error .invalidToken
        | some user =>
          if ¬ user.isActive then .error .invalidToken
          else if user.changedAfter payload.iat then .error .invalidToken
          else .ok user

variable (uuid : String → Option Uuid) (devices : Std.TreeMap Uuid Uuid)

/-- The endpoint up to the limit on connections: the device and the user of a socket that is let
in. Whether the user exists or is active is not asked. -/
def AuthState.websocketEndpoint (credentials : Option (Option Token)) (deviceId : String)
    (now : Nat) : Except SocketRefusal (Uuid × Uuid) :=
  match credentials with
  | none => .error .authenticationRequired
  | some token =>
    match decodeAccessToken token now with
    | none => .error .authenticationFailed
    | some payload =>
      if payload.type ≠ .access then .error .invalidTokenType
      else if payload.jti = "" then .error .invalidToken
      else if s.redis.blacklisted payload.jti now then .error .tokenRevoked
      else
        match uuid deviceId with
        | none => .error .invalidDeviceId
        | some device =>
          if devices[device]? ≠ some payload.sub then .error .deviceNotAuthorized
          else if s.users[payload.sub]?.any (·.changedAfter payload.iat) then
            .error .tokenRevoked
          else .ok (device, payload.sub)

variable {s uuid devices} {token : Token} {now : Nat}

theorem decodeAccessToken_some (token : Token) (now : Nat) : decodeAccessToken (some token) now =
    if wholeSeconds now ≤ token.exp then some token else none := by
  rw [decodeAccessToken, Option.filter_some]
  simp only [decide_eq_true_eq]

/-- What both endpoints ask of a signed token before they look at a row. -/
structure Redis.Valid (r : Redis) (token : Token) (now : Nat) : Prop where
  unexpired : wholeSeconds now ≤ token.exp
  type : token.type = .access
  jti : token.jti ≠ ""
  unrevoked : r.blacklisted token.jti now = false

theorem AuthState.getCurrentUser_eq_ok_iff {user : User} :
    s.getCurrentUser (some (some token)) now = .ok user ↔
      s.redis.Valid token now ∧ s.users[token.sub]? = some user ∧ user.isActive = true ∧
        user.changedAfter token.iat = false := by
  constructor
  · intro h
    rw [getCurrentUser, decodeAccessToken_some] at h
    split_ifs at h with hexp
    dsimp only at h
    split_ifs at h with htype hjti hblack
    have hv : s.redis.Valid token now :=
      ⟨hexp, not_not.mp htype, hjti, Bool.not_eq_true _ ▸ hblack⟩
    split at h
    · cases h
    · next hrow =>
      split_ifs at h with hactive hchanged
      cases h
      exact ⟨hv, hrow, hactive, Bool.not_eq_true _ ▸ hchanged⟩
  · rintro ⟨hv, hrow, hactive, hchanged⟩
    rw [getCurrentUser, decodeAccessToken_some, if_pos hv.unexpired]
    simp only [hv.type, ne_eq, not_true_eq_false, if_false, hv.jti, hv.unrevoked,
      Bool.false_eq_true, hrow, hactive, hchanged]

theorem AuthState.websocketEndpoint_eq_ok_iff {deviceId : String} {device user : Uuid} :
    s.websocketEndpoint uuid devices (some (some token)) deviceId now = .ok (device, user) ↔
      s.redis.Valid token now ∧ uuid deviceId = some device ∧
        devices[device]? = some token.sub ∧
        s.users[token.sub]?.any (·.changedAfter token.iat) = false ∧ user = token.sub := by
  constructor
  · intro h
    rw [websocketEndpoint, decodeAccessToken_some] at h
    split_ifs at h with hexp
    dsimp only at h
    split_ifs at h with htype hjti hblack hchanged
    · split at h
      · cases h
      · split_ifs at h
    · have hv : s.redis.Valid token now :=
        ⟨hexp, not_not.mp htype, hjti, Bool.not_eq_true _ ▸ hblack⟩
      split at h
      · cases h
      · next hdevice =>
        split_ifs at h with howner
        cases h
        exact ⟨hv, hdevice, not_not.mp howner, Bool.not_eq_true _ ▸ hchanged, rfl⟩
  · rintro ⟨hv, hdevice, howner, hchanged, rfl⟩
    rw [websocketEndpoint, decodeAccessToken_some, if_pos hv.unexpired]
    simp only [hv.type, ne_eq, not_true_eq_false, if_false, hv.jti, hv.unrevoked,
      Bool.false_eq_true, hdevice, howner, hchanged]

end Endpoints

/-- The tokens that the control plane draws an identifier for have one. -/
structure AccessDraws extends Draws where
  accessJti_ne : accessJti ≠ ""

/-- The rows of the users, each under its id. -/
structure Accounts where
  rows : Std.TreeMap Uuid User
  keyed : ∀ (id : Uuid) (user : User), rows[id]? = some user → user.id = id

/-- An access token with the reading of the clock at its issue, and whether its user has changed
the password since. -/
structure Access where
  token : Token
  issuedAt : Nat
  superseded : Bool
deriving DecidableEq

def Access.supersede (userId : Uuid) (a : Access) : Access :=
  if a.token.sub = userId then { a with superseded := true } else a

inductive Request where
  | login (email password : String) (deviceId : Option String) (now : Nat) (d : AccessDraws)
  | refresh (token : Option Token) (now : Nat) (d : AccessDraws)
  | changePassword (userId : Uuid) (oldPassword newPassword : String) (now : Nat)
  | logout (token : Option Token) (now : Nat)

def Request.now : Request → Nat
  | .login _ _ _ now _ | .refresh _ now _ | .changePassword _ _ _ now | .logout _ now => now

/-- The control plane with the access tokens it has issued and its last reading of the clock. -/
structure AccessHistory where
  auth : AuthState
  issued : List Access
  clock : Nat

def AccessHistory.new (accounts : Accounts) (redis : Redis) (clock : Nat) : AccessHistory :=
  ⟨⟨accounts.rows, redis⟩, [], clock⟩

section AccessHistory
variable (env : Env)

def AccessHistory.handle (h : AccessHistory) : Request → AuthState × List Access
  | .login email password deviceId now d =>
    match h.auth.loginUser env.cfg env.verifyPassword email password deviceId now d.toDraws with
    | (auth, .error _) => (auth, h.issued)
    | (auth, .ok data) => (auth, ⟨data.accessToken, now, false⟩ :: h.issued)
  | .refresh token now d =>
    match h.auth.refreshAccessToken env.cfg token now d.toDraws with
    | .error _ => (h.auth, h.issued)
    | .ok accessToken => (h.auth, ⟨accessToken, now, false⟩ :: h.issued)
  | .changePassword userId oldPassword newPassword now =>
    match h.auth.users[userId]? with
    | none => (h.auth, h.issued)
    | some user =>
      match h.auth.changePassword env.verifyPassword env.classes env.hashPassword user oldPassword
        newPassword now with
      | (auth, .error _) => (auth, h.issued)
      | (auth, .ok ()) => (auth, h.issued.map (Access.supersede userId))
  | .logout token now => (h.auth.logoutUser token now, h.issued)

def AccessHistory.step (h : AccessHistory) (r : Request) : AccessHistory :=
  let (auth, issued) := h.handle env r
  ⟨auth, issued, r.now⟩

def AccessHistory.run (h : AccessHistory) (requests : List Request) : AccessHistory :=
  requests.foldl (AccessHistory.step env) h

/-- A token that was made when the clock had the reading. -/
structure Access.Made (a : Access) : Prop where
  type : a.token.type = .access
  jti : a.token.jti ≠ ""
  iat : a.token.iat = wholeSeconds a.issuedAt

/-- What one request does to the rows and to the tokens issued. -/
inductive Effect (now : Nat) (users : Std.TreeMap Uuid User) (issued : List Access) :
    Std.TreeMap Uuid User → List Access → Prop where
  | same : Effect now users issued users issued
  | issue (a : Access) (hmade : a.Made) (hnow : a.issuedAt = now) (hfresh : a.superseded = false) :
    Effect now users issued users (a :: issued)
  | change (userId : Uuid) (user : User) (passwordHash : String)
      (hrow : users[userId]? = some user) :
    Effect now users issued
      (users.insert user.id { user with passwordHash, passwordUpdatedAt := some now })
      (issued.map (Access.supersede userId))

variable {env}

theorem made_createAccessToken (cfg : Settings) (userId : Uuid) (role : String)
    (plan : Option String) (now : Nat) (d : AccessDraws) :
    (Access.mk (createAccessToken cfg userId role plan now d.accessJti) now false).Made :=
  ⟨rfl, d.accessJti_ne, rfl⟩

theorem AccessHistory.effect (env : Env) (h : AccessHistory) (r : Request) :
    Effect r.now h.auth.users h.issued (h.step env r).auth.users (h.step env r).issued := by
  rw [step]
  dsimp only
  cases r with
  | login email password deviceId now d =>
    rw [handle, AuthState.loginUser]
    rcases hauth : h.auth.authenticate env.cfg env.verifyPassword email password with ⟨auth, result⟩
    obtain ⟨husers, -⟩ := authenticate_frame hauth
    cases result with
    | error e =>
      dsimp only
      rw [husers]
      exact .same
    | ok user =>
      dsimp only [AuthState.openSession, AuthState.storeSession]
      rw [husers]
      exact .issue _ (made_createAccessToken ..) rfl rfl
  | refresh token now d =>
    rw [handle]
    split
    · exact .same
    · next accessToken hok =>
      rw [AuthState.refreshAccessToken] at hok
      split at hok
      · cases hok
      · split at hok
        · cases hok
        · split at hok
          · cases hok
          · cases hok
            exact .issue _ (made_createAccessToken ..) rfl rfl
  | changePassword userId oldPassword newPassword now =>
    rw [handle]
    split
    · exact .same
    · next user hrow =>
      rcases hchange : h.auth.changePassword env.verifyPassword env.classes env.hashPassword user
        oldPassword newPassword now with ⟨auth, result⟩
      rw [AuthState.changePassword] at hchange
      split at hchange
      · cases hchange
        exact .same
      · split at hchange
        · cases hchange
          exact .same
        · cases hchange
          exact .change userId user _ hrow
  | logout token now =>
    rw [handle]
    cases token with
    | none => exact .same
    | some payload => exact .same

end AccessHistory

section Cutoff
variable (uuid : String → Option Uuid) (devices : Std.TreeMap Uuid Uuid) (s : AuthState)

/-- Neither endpoint lets the token in, whatever device the socket names. -/
structure AuthState.Refuses (token : Token) (now : Nat) : Prop where
  request : ∀ user, s.getCurrentUser (some (some token)) now ≠ .ok user
  socket : ∀ deviceId session,
    s.websocketEndpoint uuid devices (some (some token)) deviceId now ≠ .ok session

/-- Both endpoints let the token in as its user's, on each of the user's devices. -/
structure AuthState.Admits (token : Token) (now : Nat) : Prop where
  request : ∃ user, s.users[token.sub]? = some user ∧
    s.getCurrentUser (some (some token)) now = .ok user
  socket : ∀ deviceId device, uuid deviceId = some device → devices[device]? = some token.sub →
    s.websocketEndpoint uuid devices (some (some token)) deviceId now = .ok (device, token.sub)

/-- An unexpired token from before the last change of the password is refused, and one from after
it is let in unless it is revoked. -/
def AuthState.CutsOff (a : Access) (now : Nat) : Prop :=
  wholeSeconds now ≤ a.token.exp →
    if a.superseded then s.Refuses uuid devices a.token now
    else s.redis.blacklisted a.token.jti now = false → s.Admits uuid devices a.token now

/-- A token from before the change is of an earlier second, or of the same one if the change has a
fraction of a second; a token from after it is of a later second, or of the same one if the change
has no fraction. -/
def Access.Apart (a : Access) (changedAt : Nat) : Prop :=
  if a.superseded then
    wholeSeconds a.issuedAt < wholeSeconds changedAt ∨
      wholeSeconds a.issuedAt = wholeSeconds changedAt ∧ changedAt % 1000000 ≠ 0
  else
    wholeSeconds changedAt < wholeSeconds a.issuedAt ∨
      wholeSeconds changedAt = wholeSeconds a.issuedAt ∧ changedAt % 1000000 = 0

variable {uuid devices s} {a : Access} {user : User} {now : Nat} {token : Token}

theorem truncated_lt_iff (issuedAt changedAt : Nat) :
    microseconds (wholeSeconds issuedAt) < changedAt ↔
      wholeSeconds issuedAt < wholeSeconds changedAt ∨
        wholeSeconds issuedAt = wholeSeconds changedAt ∧ changedAt % 1000000 ≠ 0 := by
  simp only [microseconds, wholeSeconds]
  omega

theorem Access.apart_iff (a : Access) (changedAt : Nat) : a.Apart changedAt ↔
    (a.superseded = true ↔ microseconds (wholeSeconds a.issuedAt) < changedAt) := by
  rw [Apart]
  split
  · next hs => rw [truncated_lt_iff, iff_true_left hs]
  · next hs =>
    rw [iff_false_left hs]
    simp only [microseconds, wholeSeconds]
    omega

theorem AuthState.refuses_iff (hv : s.redis.Valid token now)
    (hrow : s.users[token.sub]? = some user) (hactive : user.isActive = true) :
    s.Refuses uuid devices token now ↔ user.changedAfter token.iat = true := by
  constructor
  · intro h
    by_contra hchanged
    rw [Bool.not_eq_true] at hchanged
    exact h.request user (getCurrentUser_eq_ok_iff.mpr ⟨hv, hrow, hactive, hchanged⟩)
  · intro hchanged
    constructor
    · intro user' hok
      obtain ⟨-, hrow', -, hfresh⟩ := getCurrentUser_eq_ok_iff.mp hok
      cases hrow.symm.trans hrow'
      rw [hchanged] at hfresh
      cases hfresh
    · rintro deviceId ⟨device, u⟩ hok
      obtain ⟨-, -, -, hfresh, -⟩ := websocketEndpoint_eq_ok_iff.mp hok
      rw [hrow, Option.any_some, hchanged] at hfresh
      cases hfresh

theorem AuthState.admits_iff (hv : s.redis.Valid token now)
    (hrow : s.users[token.sub]? = some user) (hactive : user.isActive = true) :
    s.Admits uuid devices token now ↔ user.changedAfter token.iat = false := by
  constructor
  · rintro ⟨⟨user', hrow', hok⟩, -⟩
    cases hrow.symm.trans hrow'
    exact (getCurrentUser_eq_ok_iff.mp hok).2.2.2
  · intro hfresh
    constructor
    · exact ⟨user, hrow, getCurrentUser_eq_ok_iff.mpr ⟨hv, hrow, hactive, hfresh⟩⟩
    · intro deviceId device hdevice howner
      refine websocketEndpoint_eq_ok_iff.mpr ⟨hv, hdevice, howner, ?_, rfl⟩
      rw [hrow, Option.any_some, hfresh]

theorem AuthState.Refuses.of_not_valid (h : ¬ s.redis.Valid token now) :
    s.Refuses uuid devices token now := by
  constructor
  · intro user hok
    exact h (getCurrentUser_eq_ok_iff.mp hok).1
  · rintro deviceId ⟨device, u⟩ hok
    exact h (websocketEndpoint_eq_ok_iff.mp hok).1

/-- Every row is under its id, every token is as it was made, and a user who has a superseded one
has changed the password. -/
structure AccessHistory.Kept (h : AccessHistory) : Prop where
  keyed : ∀ (id : Uuid) (user : User), h.auth.users[id]? = some user → user.id = id
  made : ∀ a ∈ h.issued, a.Made
  changed : ∀ a ∈ h.issued, a.superseded = true → ∀ user,
    h.auth.users[a.token.sub]? = some user → user.passwordUpdatedAt ≠ none

variable {env : Env} {h : AccessHistory}

theorem Access.supersede_frame (userId : Uuid) (a : Access) :
    (a.supersede userId).token = a.token ∧ (a.supersede userId).issuedAt = a.issuedAt := by
  rw [supersede]
  split
  · exact ⟨rfl, rfl⟩
  · exact ⟨rfl, rfl⟩

theorem Access.Made.supersede (userId : Uuid) (ha : a.Made) : (a.supersede userId).Made := by
  obtain ⟨ht, hi⟩ := a.supersede_frame userId
  constructor
  · rw [ht]
    exact ha.type
  · rw [ht]
    exact ha.jti
  · rw [ht, hi]
    exact ha.iat

theorem Access.superseded_supersede (userId : Uuid) (a : Access) :
    (a.supersede userId).superseded = true ↔ a.token.sub = userId ∨ a.superseded = true := by
  rw [supersede]
  split
  · next hs => exact iff_of_true rfl (.inl hs)
  · next hs => rw [or_iff_right hs]

theorem AccessHistory.Kept.new (accounts : Accounts) (redis : Redis) (clock : Nat) :
    (AccessHistory.new accounts redis clock).Kept :=
  ⟨accounts.keyed, List.forall_mem_nil _, List.forall_mem_nil _⟩

theorem AccessHistory.Kept.step (hk : h.Kept) (r : Request) : (h.step env r).Kept := by
  have he := h.effect env r
  generalize (h.step env r) = h' at he ⊢
  obtain ⟨auth, issued, clock⟩ := h'
  obtain ⟨users, redis⟩ := auth
  dsimp only at he
  cases he with
  | same => exact ⟨hk.keyed, hk.made, hk.changed⟩
  | issue a hmade hnow hfresh =>
    refine ⟨hk.keyed, List.forall_mem_cons.mpr ⟨hmade, hk.made⟩, ?_⟩
    refine List.forall_mem_cons.mpr ⟨?_, hk.changed⟩
    intro hs
    rw [hfresh] at hs
    cases hs
  | change userId user passwordHash hrow =>
    cases hk.keyed userId user hrow
    constructor
    · intro id user'
      rw [getElem?_insert_eq]
      split
      · next hid =>
        rintro ⟨⟩
        exact hid
      · exact hk.keyed id user'
    · intro a ha
      obtain ⟨b, hb, rfl⟩ := List.mem_map.mp ha
      exact (hk.made b hb).supersede _
    · intro a ha hs user'
      obtain ⟨b, hb, rfl⟩ := List.mem_map.mp ha
      rw [(b.supersede_frame user.id).1, getElem?_insert_eq]
      split
      · rintro ⟨⟩
        exact Option.some_ne_none r.now
      · next hsub =>
        have hb' := (b.superseded_supersede user.id).mp hs
        exact hk.changed b hb (hb'.resolve_left (Ne.symm hsub)) user'

theorem AccessHistory.Kept.run (hk : h.Kept) (requests : List Request) :
    (h.run env requests).Kept :=
  run_invariant (AccessHistory.step env) hk (fun _ r hs => hs.step r) requests

/-- In the state of a history, the cut is where it should be for a token exactly when the token is
out of date, revoked or apart from the change. -/
theorem AccessHistory.Kept.cutsOff_iff (hk : h.Kept) (ha : a ∈ h.issued)
    (hrow : h.auth.users[a.token.sub]? = some user) (hactive : user.isActive = true) (now : Nat) :
    h.auth.CutsOff uuid devices a now ↔
      a.token.exp < wholeSeconds now ∨ h.auth.redis.blacklisted a.token.jti now = true ∨
        ∀ changedAt ∈ user.passwordUpdatedAt, a.Apart changedAt := by
  rw [AuthState.CutsOff, ← Nat.not_le, imp_iff_not_or]
  apply or_congr_right'
  rw [not_not]
  intro hexp
  have hmade := hk.made a ha
  cases hblack : h.auth.redis.blacklisted a.token.jti now with
  | true =>
    refine iff_of_true ?_ (.inl rfl)
    split
    · refine .of_not_valid ?_
      intro hv
      rw [hv.unrevoked] at hblack
      cases hblack
    · exact nofun
  | false =>
    have hv : h.auth.redis.Valid a.token now := ⟨hexp, hmade.type, hmade.jti, hblack⟩
    rw [AuthState.refuses_iff hv hrow hactive, AuthState.admits_iff hv hrow hactive, hmade.iat]
    simp only [Bool.false_eq_true, false_or, true_imp_iff]
    cases hc : user.passwordUpdatedAt with
    | none =>
      have hfresh : a.superseded ≠ true := fun hs => hk.changed a ha hs user hrow hc
      rw [if_neg hfresh, User.changedAfter_of_none hc]
      exact iff_of_true rfl nofun
    | some changedAt =>
      have hafter := User.changedAfter_of_some hc (wholeSeconds a.issuedAt)
      simp only [Option.mem_def, Option.some_inj, forall_eq', a.apart_iff, ← hafter]
      split
      · next hs => rw [iff_true_left hs]
      · next hs => rw [iff_false_left hs, Bool.not_eq_true]

/-- What a clock that never goes back adds: the instants of a token and of the last change are in
the order in which the two were made. -/
structure AccessHistory.Timed (h : AccessHistory) : Prop where
  row : ∀ (id : Uuid) (user : User), h.auth.users[id]? = some user →
    ∀ changedAt ∈ user.passwordUpdatedAt, changedAt ≤ h.clock
  issued : ∀ a ∈ h.issued, a.issuedAt ≤ h.clock
  order : ∀ a ∈ h.issued, ∀ user, h.auth.users[a.token.sub]? = some user →
    ∀ changedAt ∈ user.passwordUpdatedAt,
      if a.superseded then a.issuedAt ≤ changedAt else changedAt ≤ a.issuedAt

theorem AccessHistory.Timed.step (ht : h.Timed) (hk : h.Kept) {r : Request}
    (hr : h.clock ≤ r.now) : (h.step env r).Timed := by
  have he := h.effect env r
  have hclock : (h.step env r).clock = r.now := rfl
  have hissued : ∀ a ∈ h.issued, a.issuedAt ≤ r.now :=
    fun a ha => Nat.le_trans (ht.issued a ha) hr
  have hrows : ∀ (id : Uuid) (user : User), h.auth.users[id]? = some user →
      ∀ changedAt ∈ user.passwordUpdatedAt, changedAt ≤ r.now :=
    fun id user hrow changedAt hc => Nat.le_trans (ht.row id user hrow changedAt hc) hr
  generalize (h.step env r) = h' at he hclock ⊢
  obtain ⟨auth, issued, clock⟩ := h'
  obtain ⟨users, redis⟩ := auth
  dsimp only at he hclock
  subst hclock
  cases he with
  | same => exact ⟨hrows, hissued, ht.order⟩
  | issue a hmade hnow hfresh =>
    refine ⟨hrows, List.forall_mem_cons.mpr ⟨Nat.le_of_eq hnow, hissued⟩, ?_⟩
    refine List.forall_mem_cons.mpr ⟨?_, ht.order⟩
    intro user hrow changedAt hc
    rw [hfresh, if_neg Bool.false_ne_true, hnow]
    exact hrows _ user hrow changedAt hc
  | change userId user passwordHash hrow =>
    cases hk.keyed userId user hrow
    constructor
    · intro id user' hrow'
      rw [getElem?_insert_eq] at hrow'
      split at hrow'
      · cases hrow'
        rintro changedAt ⟨⟩
        exact Nat.le_refl r.now
      · exact hrows id user' hrow'
    · intro a ha
      obtain ⟨b, hb, rfl⟩ := List.mem_map.mp ha
      rw [(b.supersede_frame user.id).2]
      exact hissued b hb
    · intro a ha user' hrow' changedAt hc
      obtain ⟨b, hb, rfl⟩ := List.mem_map.mp ha
      obtain ⟨htoken, hat⟩ := b.supersede_frame user.id
      rw [htoken, getElem?_insert_eq] at hrow'
      rw [hat]
      split at hrow'
      · next hsub =>
        cases hrow'
        cases hc
        rw [if_pos ((b.superseded_supersede user.id).mpr (.inl hsub.symm))]
        exact hissued b hb
      · next hsub =>
        have hsame := b.superseded_supersede user.id
        rw [or_iff_right (Ne.symm hsub)] at hsame
        rw [if_congr hsame rfl rfl]
        exact ht.order b hb user' hrow' changedAt hc

/-- With a clock that never goes back, a token can only be cut off wrongly in the second in which
the password is changed. -/
theorem AccessHistory.apart_iff_of_clock (accounts : Accounts) (redis : Redis) (clock : Nat)
    (hstart : ∀ (id : Uuid) (user : User), accounts.rows[id]? = some user →
      ∀ changedAt ∈ user.passwordUpdatedAt, changedAt ≤ clock)
    {requests : List Request}
    (hclock : Guarded (AccessHistory.step env) (fun h r => h.clock ≤ r.now)
      (.new accounts redis clock) requests)
    (ha : a ∈ ((AccessHistory.new accounts redis clock).run env requests).issued)
    (hrow : ((AccessHistory.new accounts redis clock).run env requests).auth.users[a.token.sub]? =
      some user) :
    ∀ changedAt ∈ user.passwordUpdatedAt,
      (a.Apart changedAt ↔ (wholeSeconds a.issuedAt = wholeSeconds changedAt →
        (a.superseded = true ↔ changedAt % 1000000 ≠ 0))) := by
  have hboth : ((AccessHistory.new accounts redis clock).run env requests).Kept ∧
      ((AccessHistory.new accounts redis clock).run env requests).Timed := by
    refine hclock.invariant (I := fun h => h.Kept ∧ h.Timed) ?_ ?_
    · exact ⟨.new accounts redis clock, hstart, List.forall_mem_nil _, List.forall_mem_nil _⟩
    · intro h r hs hr
      exact ⟨hs.1.step r, hs.2.step hs.1 hr⟩
  intro changedAt hc
  have horder := hboth.2.order a ha user hrow changedAt hc
  rw [Access.Apart]
  split
  · next hs =>
    rw [if_pos hs] at horder
    rw [iff_true_left hs]
    simp only [wholeSeconds]
    omega
  · next hs =>
    rw [if_neg hs] at horder
    rw [iff_false_left hs]
    simp only [wholeSeconds]
    omega

/-- In every history, the cut that a change of the password makes is where it should be for a token
exactly when the token is out of date, revoked or apart from the change. -/
theorem cutoff_iff (env : Env) (accounts : Accounts) (redis : Redis) (clock : Nat)
    (requests : List Request) (uuid : String → Option Uuid) (devices : Std.TreeMap Uuid Uuid)
    (a : Access) (user : User) (now : Nat)
    (ha : a ∈ ((AccessHistory.new accounts redis clock).run env requests).issued)
    (hrow : ((AccessHistory.new accounts redis clock).run env requests).auth.users[a.token.sub]? =
      some user) (hactive : user.isActive = true) :
    ((AccessHistory.new accounts redis clock).run env requests).auth.CutsOff uuid devices a now ↔
      a.token.exp < wholeSeconds now ∨
        ((AccessHistory.new accounts redis clock).run env requests).auth.redis.blacklisted
          a.token.jti now = true ∨
        ∀ changedAt ∈ user.passwordUpdatedAt, a.Apart changedAt :=
  ((AccessHistory.Kept.new accounts redis clock).run requests).cutsOff_iff ha hrow hactive now

end Cutoff

section Examples

def oneAccount : Accounts where
  rows := oneUser
  keyed := by
    intro id user h
    rw [oneUser, getElem?_insert_eq] at h
    split at h
    · next hid =>
      cases h
      exact hid
    · simp only [Std.TreeMap.getElem?_emptyc, reduceCtorEq] at h

/-- The password is changed at 10.5 s, and the user logs in again at 10.9 s. -/
def changeThenLogin : AccessHistory :=
  (AccessHistory.new oneAccount .empty 0).run plainEnv
    [.changePassword 1 "old-Password1" "new-Password2" 10500000,
      .login "a@mesh" "new-Password2" (some "phone") 10900000 ⟨⟨"a0", "r0", "d0"⟩, by decide⟩]

def newAccess : Access :=
  ⟨createAccessToken plainEnv.cfg 1 "user" none 10900000 "a0", 10900000, false⟩

def onePhone : Std.TreeMap Uuid Uuid := (∅ : Std.TreeMap Uuid Uuid).insert 7 1

def changedUser : User :=
  ⟨1, "a@mesh", "new-Password2", .free, .user, true, some 10500000⟩

theorem cutoff_iff_same_second :
    changeThenLogin.auth.CutsOff (fun _ => some 7) onePhone newAccess 11000000 ↔
      newAccess.token.exp < wholeSeconds 11000000 ∨
        changeThenLogin.auth.redis.blacklisted newAccess.token.jti 11000000 = true ∨
        ∀ changedAt ∈ changedUser.passwordUpdatedAt, newAccess.Apart changedAt :=
  cutoff_iff plainEnv oneAccount .empty 0 _ _ _ newAccess changedUser 11000000
    (by decide +kernel) (by decide +kernel) rfl

/-- A token of a login that follows the change within the same second is refused. -/
theorem new_login_refused :
    newAccess ∈ changeThenLogin.issued ∧
      ¬ changeThenLogin.auth.CutsOff (fun _ => some 7) onePhone newAccess 11000000 := by
  refine ⟨by decide +kernel, ?_⟩
  intro h
  have hadmitted := h (by decide)
  rw [if_neg (by decide)] at hadmitted
  obtain ⟨user, -, hok⟩ := (hadmitted (by decide +kernel)).request
  have hrefused : changeThenLogin.auth.getCurrentUser (some (some newAccess.token)) 11000000 =
      .error .invalidToken := by decide +kernel
  rw [hrefused] at hok
  cases hok

end Examples

end P2PMesh.Auth
