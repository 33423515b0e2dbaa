import P2PMesh.Auth

namespace P2PMesh.Auth
open P2PMesh.Base
set_option autoImplicit true

/-- A refresh token that a login has stored under a key, which a later login may write again. -/
structure Issued (K : Type) where
  key : K
  refreshToken : Token
  issuedAt : Nat
  replaced : Bool

section Issued
variable {K : Type} (cfg : Settings)

def Issued.expiresAt (i : Issued K) : Nat := i.issuedAt + microseconds cfg.refreshLifetime

/-- The token is still what its key holds. -/
def Issued.Current (i : Issued K) (now : Nat) : Prop :=
  i.replaced = false ∧ now < i.expiresAt cfg

instance (i : Issued K) (now : Nat) : Decidable (i.Current cfg now) :=
  inferInstanceAs (Decidable (_ ∧ _))

def Issued.replace [DecidableEq K] (key : K) (i : Issued K) : Issued K :=
  if i.key = key then { i with replaced := true } else i

/-- A store has under each key the last refresh token that has been issued under it. -/
structure Tracks [Ord K] (userOf : K → Uuid) (store : Std.TreeMap K (Stored Token))
    (issued : List (Issued K)) : Prop where
  lookup : ∀ (key : K) (stored : Stored Token), store[key]? = some stored ↔
    ∃ i ∈ issued, i.key = key ∧ i.replaced = false ∧
      stored = ⟨i.refreshToken, i.expiresAt cfg⟩
  sub : ∀ i ∈ issued, i.refreshToken.sub = userOf i.key
  type : ∀ i ∈ issued, i.refreshToken.type = .refresh
  exp : ∀ i ∈ issued, i.refreshToken.exp = wholeSeconds (i.expiresAt cfg)

theorem get_eq_some_iff {entry : Option (Stored α)} {now : Nat} {value : α} :
    Stored.get entry now = some value ↔
      ∃ stored, entry = some stored ∧ now < stored.expiresAt ∧ stored.value = value := by
  cases entry with
  | none => simp only [Stored.get, reduceCtorEq, false_and, exists_false]
  | some stored =>
    rw [Stored.get]
    split
    · next hlive => simp only [Option.some.injEq, exists_eq_left', hlive, true_and]
    · next hlive => simp only [reduceCtorEq, Option.some.injEq, exists_eq_left', hlive, false_and]

theorem eq_some_of_decode {token : Option Token} {now : Nat} {payload : Token}
    (h : decodeRefreshToken token now = .ok payload) : token = some payload := by
  cases token with
  | none => cases h
  | some p =>
    rw [decodeRefreshToken] at h
    split at h
    · cases h
    · split at h
      · cases h
      · cases h
        rfl

variable {cfg} {userOf : K → Uuid} {issued : List (Issued K)} {i : Issued K} {now : Nat}

theorem mem_map_replace [DecidableEq K] {key : K} (hr : i.replaced = false) :
    i ∈ issued.map (Issued.replace key) ↔ i ∈ issued ∧ i.key ≠ key := by
  rw [List.mem_map]
  constructor
  · rintro ⟨j, hj, rfl⟩
    rw [Issued.replace] at hr ⊢
    split at hr
    · cases hr
    · next hk =>
      rw [if_neg hk]
      exact ⟨hj, hk⟩
  · rintro ⟨hi, hk⟩
    exact ⟨i, hi, by rw [Issued.replace, if_neg hk]⟩

theorem replace_same [DecidableEq K] (key : K) (i : Issued K) :
    (i.replace key).key = i.key ∧ (i.replace key).refreshToken = i.refreshToken ∧
      (i.replace key).issuedAt = i.issuedAt := by
  rw [Issued.replace]
  split
  · exact ⟨rfl, rfl, rfl⟩
  · exact ⟨rfl, rfl, rfl⟩

variable [Ord K] {store : Std.TreeMap K (Stored Token)}

theorem Tracks.nil [Std.TransOrd K] : Tracks cfg userOf ∅ [] := by
  constructor
  · intro key stored
    simp only [Std.TreeMap.getElem?_emptyc, reduceCtorEq, List.not_mem_nil, false_and, exists_false]
  · exact List.forall_mem_nil _
  · exact List.forall_mem_nil _
  · exact List.forall_mem_nil _

theorem Tracks.insert [DecidableEq K] [Std.TransOrd K] [Std.LawfulEqOrd K]
    (h : Tracks cfg userOf store issued) {key : K} {token : Token} (hsub : token.sub = userOf key)
    (htype : token.type = .refresh)
    (hexp : token.exp = wholeSeconds (now + microseconds cfg.refreshLifetime)) :
    Tracks cfg userOf (store.insert key ⟨token, now + microseconds cfg.refreshLifetime⟩)
      (⟨key, token, now, false⟩ :: issued.map (Issued.replace key)) := by
  have hkept : ∀ {P : K → Token → Nat → Prop}, (∀ i ∈ issued, P i.key i.refreshToken i.issuedAt) →
      ∀ i ∈ issued.map (Issued.replace key), P i.key i.refreshToken i.issuedAt := by
    intro P hP i hi
    obtain ⟨j, hj, rfl⟩ := List.mem_map.mp hi
    obtain ⟨hk, ht, hat⟩ := replace_same key j
    rw [hk, ht, hat]
    exact hP j hj
  constructor
  · intro k stored
    rw [getElem?_insert_eq]
    split
    · next hk =>
      subst hk
      rw [Option.some_inj]
      constructor
      · intro he
        exact ⟨_, List.mem_cons_self, rfl, rfl, he.symm⟩
      · rintro ⟨i, hi, hik, hr, rfl⟩
        cases List.mem_cons.mp hi with
        | inl hnew =>
          subst hnew
          rfl
        | inr hold => exact absurd hik ((mem_map_replace hr).mp hold).2
    · next hk =>
      rw [h.lookup k stored]
      constructor
      · rintro ⟨i, hi, rfl, hr, hstored⟩
        exact ⟨i, .tail _ ((mem_map_replace hr).mpr ⟨hi, Ne.symm hk⟩), rfl, hr, hstored⟩
      · rintro ⟨i, hi, hik, hr, hstored⟩
        cases List.mem_cons.mp hi with
        | inl hnew =>
          subst hnew
          exact absurd hik hk
        | inr hold => exact ⟨i, ((mem_map_replace hr).mp hold).1, hik, hr, hstored⟩
  · exact List.forall_mem_cons.mpr ⟨hsub, hkept (P := fun k t _ => t.sub = userOf k) h.sub⟩
  · exact List.forall_mem_cons.mpr ⟨htype, hkept (P := fun _ t _ => t.type = .refresh) h.type⟩
  · refine List.forall_mem_cons.mpr ⟨hexp, ?_⟩
    exact hkept (P := fun _ t at' => t.exp = wholeSeconds (at' + microseconds cfg.refreshLifetime))
      h.exp

theorem Tracks.found_iff (h : Tracks cfg userOf store issued) (token : Token) (now : Nat) :
    (∃ key, userOf key = token.sub ∧ Stored.get store[key]? now = some token) ↔
      ∃ i ∈ issued, i.refreshToken = token ∧ i.Current cfg now := by
  constructor
  · rintro ⟨key, -, hget⟩
    obtain ⟨stored, hstored, hlive, rfl⟩ := get_eq_some_iff.mp hget
    obtain ⟨i, hi, -, hr, rfl⟩ := (h.lookup key stored).mp hstored
    exact ⟨i, hi, rfl, hr, hlive⟩
  · rintro ⟨i, hi, rfl, hr, hlive⟩
    refine ⟨i.key, (h.sub i hi).symm, get_eq_some_iff.mpr ?_⟩
    exact ⟨_, (h.lookup i.key _).mpr ⟨i, hi, rfl, hr, rfl⟩, hlive, rfl⟩

theorem Tracks.decode (h : Tracks cfg userOf store issued) (hi : i ∈ issued)
    (hlive : i.Current cfg now) :
    decodeRefreshToken (some i.refreshToken) now = .ok i.refreshToken := by
  have hexp : ¬ i.refreshToken.exp < wholeSeconds now := by
    rw [h.exp i hi, Nat.not_lt]
    exact Nat.div_le_div_right (Nat.le_of_lt hlive.2)
  rw [decodeRefreshToken]
  simp only [hexp, if_false, h.type i hi, ne_eq, not_true_eq_false]

end Issued

section Authenticate
variable {cfg : Settings} {verifyPassword : String → String → Bool} {s s' : AuthState}
  {email password : String} {result : Except AuthError User}

theorem authenticate_frame
    (h : s.authenticate cfg verifyPassword email password = (s', result)) :
    s'.users = s.users ∧ s'.redis.refreshTokens = s.redis.refreshTokens ∧
      s'.redis.sessionTokens = s.redis.sessionTokens := by
  rw [AuthState.authenticate] at h
  split at h
  · cases h
    exact ⟨rfl, rfl, rfl⟩
  · split at h <;> cases h <;> exact ⟨rfl, rfl, rfl⟩

end Authenticate

/-- What the services are run with. -/
structure Env where
  cfg : Settings
  verifyPassword : String → String → Bool
  hashPassword : String → String
  classes : CharClasses

-- A session of the control plane, with the access tokens issued for it and whether its user has
-- asked for its end.
structure Session extends Issued SessionKey where
  accessTokens : List Token
  revoked : Bool

structure ControlPlane where
  auth : AuthState
  sessions : List Session

def ControlPlane.new (users : Std.TreeMap Uuid User) : ControlPlane := ⟨⟨users, .empty⟩, []⟩

inductive Call where
  | login (email password : String) (deviceId : Option String) (now : Nat) (d : Draws)
  | refresh (token : Option Token) (now : Nat) (d : Draws)
  | changePassword (userId : Uuid) (oldPassword newPassword : String) (now : Nat)
  | logout (token : Option Token) (now : Nat)
  | storeUser (user : User)
  | deleteUser (userId : Uuid)

def Session.replace (key : SessionKey) (ses : Session) : Session :=
  { ses with toIssued := ses.toIssued.replace key }

def Session.addAccess (token : Option Token) (accessToken : Token) (ses : Session) : Session :=
  if token = some ses.refreshToken then
    { ses with accessTokens := accessToken :: ses.accessTokens }
  else ses

def Session.revokeIf (p : Session → Bool) (ses : Session) : Session :=
  if p ses then { ses with revoked := true } else ses

/-- The session that a login opens. -/
def Session.of (data : TokenData) (now : Nat) : Session where
  key := ⟨data.refreshToken.sub, data.deviceId.getD ""⟩
  refreshToken := data.refreshToken
  issuedAt := now
  replaced := false
  accessTokens := [data.accessToken]
  revoked := false

section ControlPlane
variable (env : Env)

def ControlPlane.login (s : ControlPlane) (email password : String) (deviceId : Option String)
    (now : Nat) (d : Draws) : ControlPlane :=
  match s.auth.loginUser env.cfg env.verifyPassword email password deviceId now d with
  | (auth, .error _) => { s with auth }
  | (auth, .ok data) =>
    let opened := Session.of data now
    ⟨auth, opened :: s.sessions.map (Session.replace opened.key)⟩

def ControlPlane.refresh (s : ControlPlane) (token : Option Token) (now : Nat) (d : Draws) :
    ControlPlane :=
  match s.auth.refreshAccessToken env.cfg token now d with
  | .error _ => s
  | .ok accessToken => { s with sessions := s.sessions.map (Session.addAccess token accessToken) }

/-- The caller is the user of a row of the database. -/
def ControlPlane.changePassword (s : ControlPlane) (userId : Uuid)
    (oldPassword newPassword : String) (now : Nat) : ControlPlane :=
  match s.auth.users[userId]? with
  | none => s
  | some user =>
    match s.auth.changePassword env.verifyPassword env.classes env.hashPassword user oldPassword
      newPassword now with
    | (auth, .error _) => { s with auth }
    | (auth, .ok ()) =>
      ⟨auth, s.sessions.map (Session.revokeIf (fun ses => ses.key.userId = userId))⟩

def ControlPlane.logout (s : ControlPlane) (token : Option Token) (now : Nat) : ControlPlane :=
  ⟨s.auth.logoutUser token now,
    s.sessions.map (Session.revokeIf (fun ses => token.any (· ∈ ses.accessTokens)))⟩

def ControlPlane.step (s : ControlPlane) : Call → ControlPlane
  | .login email password deviceId now d => s.login env email password deviceId now d
  | .refresh token now d => s.refresh env token now d
  | .changePassword userId oldPassword newPassword now =>
    s.changePassword env userId oldPassword newPassword now
  | .logout token now => s.logout token now
  | .storeUser user => { s with auth.users := s.auth.users.insert user.id user }
  | .deleteUser userId => { s with auth.users := s.auth.users.erase userId }

def ControlPlane.run (s : ControlPlane) (calls : List Call) : ControlPlane :=
  calls.foldl (ControlPlane.step env) s

def ControlPlane.issued (s : ControlPlane) : List (Issued SessionKey) :=
  s.sessions.map Session.toIssued

/-- The store has what the sessions say, and the control plane never writes the key that has no
device. -/
structure ControlPlane.Tracked (s : ControlPlane) : Prop where
  tracks : Tracks env.cfg SessionKey.userId s.auth.redis.sessionTokens s.issued
  legacy : ∀ u : Uuid, s.auth.redis.refreshTokens[u]? = none

end ControlPlane

section Tracked
variable {env : Env} {s : ControlPlane}

theorem map_issued {f : Session → Session} {g : Issued SessionKey → Issued SessionKey}
    (h : ∀ ses, (f ses).toIssued = g ses.toIssued) (sessions : List Session) :
    (sessions.map f).map Session.toIssued = (sessions.map Session.toIssued).map g := by
  rw [List.map_map, List.map_map]
  exact List.map_congr_left (fun ses _ => h ses)

theorem map_issued_same {f : Session → Session} (h : ∀ ses, (f ses).toIssued = ses.toIssued)
    (sessions : List Session) :
    (sessions.map f).map Session.toIssued = sessions.map Session.toIssued := by
  rw [map_issued (g := id) h, List.map_id]

theorem toIssued_addAccess (token : Option Token) (accessToken : Token) (ses : Session) :
    (ses.addAccess token accessToken).toIssued = ses.toIssued := by
  rw [Session.addAccess]
  split
  · rfl
  · rfl

theorem toIssued_revokeIf (p : Session → Bool) (ses : Session) :
    (ses.revokeIf p).toIssued = ses.toIssued := by
  rw [Session.revokeIf]
  split
  · rfl
  · rfl

theorem ControlPlane.Tracked.new (users : Std.TreeMap Uuid User) :
    (ControlPlane.new users).Tracked env :=
  ⟨.nil, fun _ => Std.TreeMap.getElem?_emptyc⟩

theorem ControlPlane.Tracked.login (h : s.Tracked env) (email password : String)
    (deviceId : Option String) (now : Nat) (d : Draws) :
    (s.login env email password deviceId now d).Tracked env := by
  rw [ControlPlane.login, AuthState.loginUser]
  rcases hauth : s.auth.authenticate env.cfg env.verifyPassword email password with ⟨auth, result⟩
  obtain ⟨-, hlegacy, hstore⟩ := authenticate_frame hauth
  cases result with
  | error e =>
    dsimp only
    exact ⟨hstore ▸ h.tracks, fun u => hlegacy ▸ h.legacy u⟩
  | ok user =>
    dsimp only [AuthState.openSession, AuthState.storeSession]
    constructor
    · rw [ControlPlane.issued, List.map_cons,
        map_issued (g := Issued.replace _) (fun ses => rfl), hstore]
      exact h.tracks.insert rfl rfl rfl
    · intro u
      rw [hlegacy]
      exact h.legacy u

theorem ControlPlane.Tracked.logout (h : s.Tracked env) (token : Option Token) (now : Nat) :
    (s.logout token now).Tracked env := by
  rw [ControlPlane.logout]
  constructor
  · rw [ControlPlane.issued, map_issued_same (toIssued_revokeIf _)]
    cases token with
    | none => exact h.tracks
    | some payload => exact h.tracks
  · intro u
    cases token with
    | none => exact h.legacy u
    | some payload =>
      rw [AuthState.logoutUser]
      dsimp only
      rw [getElem?_erase_eq, h.legacy u, ite_self]

theorem ControlPlane.Tracked.changePassword (h : s.Tracked env) (userId : Uuid)
    (oldPassword newPassword : String) (now : Nat) :
    (s.changePassword env userId oldPassword newPassword now).Tracked env := by
  rw [ControlPlane.changePassword]
  split
  · exact h
  · next user hu =>
    rcases hchange : s.auth.changePassword env.verifyPassword env.classes env.hashPassword user
      oldPassword newPassword now with ⟨auth, result⟩
    have hredis : auth.redis = s.auth.redis := by
      rw [AuthState.changePassword] at hchange
      split at hchange
      · cases hchange
        rfl
      · split at hchange <;> cases hchange <;> rfl
    cases result with
    | error e => exact ⟨hredis ▸ h.tracks, hredis ▸ h.legacy⟩
    | ok _ =>
      refine ⟨?_, hredis ▸ h.legacy⟩
      rw [ControlPlane.issued, map_issued_same (toIssued_revokeIf _), hredis]
      exact h.tracks

theorem ControlPlane.Tracked.step (h : s.Tracked env) (call : Call) :
    (s.step env call).Tracked env := by
  cases call with
  | login email password deviceId now d => exact h.login email password deviceId now d
  | refresh token now d =>
    rw [ControlPlane.step, ControlPlane.refresh]
    split
    · exact h
    · next accessToken _ =>
      refine ⟨?_, h.legacy⟩
      rw [ControlPlane.issued, map_issued_same (toIssued_addAccess token accessToken)]
      exact h.tracks
  | changePassword userId oldPassword newPassword now =>
    exact h.changePassword userId oldPassword newPassword now
  | logout token now => exact h.logout token now
  | storeUser user => exact ⟨h.tracks, h.legacy⟩
  | deleteUser userId => exact ⟨h.tracks, h.legacy⟩

theorem ControlPlane.Tracked.checkStored_iff (h : s.Tracked env) (token : Token) (now : Nat) :
    s.auth.checkStored token now = .ok () ↔
      ∃ ses ∈ s.sessions, ses.refreshToken = token ∧ ses.Current env.cfg now := by
  have hfound := h.tracks.found_iff token now
  simp only [ControlPlane.issued, List.mem_map, exists_exists_and_eq_and] at hfound
  rw [← hfound, AuthState.checkStored, h.legacy]
  dsimp only [Stored.get]
  have hholds : s.auth.redis.holdsSession token.sub token now = true ↔
      ∃ key : SessionKey, key.userId = token.sub ∧
        Stored.get s.auth.redis.sessionTokens[key]? now = some token := by
    rw [Redis.holdsSession, List.any_eq_true]
    constructor
    · rintro ⟨e, he, hp⟩
      obtain ⟨hu, hget⟩ := of_decide_eq_true hp
      rw [Std.TreeMap.mem_toList_iff_getElem?_eq_some] at he
      exact ⟨e.1, hu, he.symm ▸ hget⟩
    · rintro ⟨key, hu, hget⟩
      obtain ⟨stored, hstored, -⟩ := get_eq_some_iff.mp hget
      refine ⟨(key, stored), Std.TreeMap.mem_toList_iff_getElem?_eq_some.mpr hstored, ?_⟩
      exact decide_eq_true ⟨hu, hstored ▸ hget⟩
  split
  · next hh => exact iff_of_true rfl (hholds.mp hh)
  · next hh => exact iff_of_false nofun (fun hex => hh (hholds.mpr hex))

/-- A refresh token is accepted exactly when it is the current one of some session whose user
exists. -/
theorem ControlPlane.Tracked.refresh_iff (h : s.Tracked env) (token : Option Token) (now : Nat)
    (d : Draws) (accessToken : Token) :
    s.auth.refreshAccessToken env.cfg token now d = .ok accessToken ↔
      ∃ ses ∈ s.sessions, token = some ses.refreshToken ∧ ses.Current env.cfg now ∧
        ∃ user, s.auth.users[ses.refreshToken.sub]? = some user ∧
          accessToken = createAccessToken env.cfg ses.refreshToken.sub user.role.value none now
            d.accessJti := by
  constructor
  · intro hok
    rw [AuthState.refreshAccessToken] at hok
    split at hok
    · cases hok
    · next payload hdecode =>
      split at hok
      · cases hok
      · next hstored =>
        obtain ⟨ses, hses, rfl, hcur⟩ := (h.checkStored_iff payload now).mp hstored
        split at hok
        · cases hok
        · next user hu =>
          cases hok
          exact ⟨ses, hses, eq_some_of_decode hdecode, hcur, user, hu, rfl⟩
  · rintro ⟨ses, hses, rfl, hcur, user, hu, rfl⟩
    have hdecode := h.tracks.decode (List.mem_map_of_mem hses) hcur
    have hstored := (h.checkStored_iff ses.refreshToken now).mpr ⟨ses, hses, rfl, hcur⟩
    simp only [AuthState.refreshAccessToken, hdecode, hstored, hu]

end Tracked

section Examples

def plainEnv : Env where
  cfg := ⟨15, 30, 5⟩
  verifyPassword password hash := password = hash
  hashPassword password := password
  classes := ⟨Char.isUpper, Char.isLower, Char.isDigit, Char.isAlphanum⟩

def oneUser : Std.TreeMap Uuid User :=
  (∅ : Std.TreeMap Uuid User).insert 1
    ⟨1, "a@mesh", "old-Password1", .free, .user, true, none⟩

end Examples

end P2PMesh.Auth
