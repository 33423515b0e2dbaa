import P2PMesh.AuthSessions
import P2PMesh.Base.Run

namespace P2PMesh.Auth
open P2PMesh.Base
set_option autoImplicit true

/-- The user of a token is stored as active, with the role that the token carries. -/
def HasRole (users : Std.TreeMap Uuid User) (token : Token) : Prop :=
  ∃ user, users[token.sub]? = some user ∧ user.isActive = true ∧ token.role = user.role.value

/-- The same with the plan. -/
def HasRoleAndPlan (users : Std.TreeMap Uuid User) (token : Token) : Prop :=
  ∃ user, users[token.sub]? = some user ∧ user.isActive = true ∧ token.role = user.role.value ∧
    token.plan = some user.plan.value

theorem HasRole.active {users : Std.TreeMap Uuid User} {token : Token} (h : HasRole users token)
    {u : User} (hu : users[token.sub]? = some u) : u.isActive = true := by
  obtain ⟨user, huser, hactive, -⟩ := h
  rw [huser, Option.some_inj] at hu
  rw [← hu]
  exact hactive

theorem HasRoleAndPlan.hasRole {users : Std.TreeMap Uuid User} {token : Token}
    (h : HasRoleAndPlan users token) : HasRole users token := by
  obtain ⟨user, hu, hactive, hrole, -⟩ := h
  exact ⟨user, hu, hactive, hrole⟩

section ControlPlane
variable {env : Env}

/-- An access token that a refresh issues is one of a user who is active. -/
def ControlPlane.IssuesToActive (env : Env) (s : ControlPlane) : Call → Prop
  | .refresh token now d => ∀ accessToken,
    s.auth.refreshAccessToken env.cfg token now d = .ok accessToken →
      HasRole s.auth.users accessToken
  | _ => True

/-- No user who has been deactivated presents a refresh token that is current. -/
def ControlPlane.PresentsActive (env : Env) (s : ControlPlane) : Call → Prop
  | .refresh token now _ => ∀ ses ∈ s.sessions, token = some ses.refreshToken →
    ses.Current env.cfg now → ∀ user, s.auth.users[ses.refreshToken.sub]? = some user →
      user.isActive = true
  | _ => True

theorem ControlPlane.Tracked.issuesToActive_iff {s : ControlPlane} (h : s.Tracked env)
    (call : Call) : s.IssuesToActive env call ↔ s.PresentsActive env call := by
  cases call with
  | refresh token now d =>
    constructor
    · intro hissues ses hses htoken hcur user hu
      have hok := (h.refresh_iff token now d _).mpr ⟨ses, hses, htoken, hcur, user, hu, rfl⟩
      exact (hissues _ hok).active hu
    · intro hpresents accessToken hok
      obtain ⟨ses, hses, htoken, hcur, user, hu, rfl⟩ := (h.refresh_iff token now d _).mp hok
      exact ⟨user, hu, hpresents ses hses htoken hcur user hu, rfl⟩
  | _ => exact Iff.rfl

end ControlPlane

namespace Service

structure History where
  auth : AuthState
  issued : List (Issued Uuid)

def History.new (users : Std.TreeMap Uuid User) : History := ⟨⟨users, .empty⟩, []⟩

inductive Call where
  | login (email password : String) (now : Nat) (d : Draws)
  | refresh (token : Option Token) (now : Nat) (d : Draws)
  | storeUser (user : User)
  | deleteUser (userId : Uuid)

section AuthService
variable (env : Env)

def History.login (h : History) (email password : String) (now : Nat) (d : Draws) : History :=
  match loginUser env.cfg env.verifyPassword h.auth email password now d with
  | (auth, .error _) => { h with auth }
  | (auth, .ok data) =>
    let key := data.refreshToken.sub
    ⟨auth, ⟨key, data.refreshToken, now, false⟩ :: h.issued.map (Issued.replace key)⟩

def History.step (h : History) : Call → History
  | .login email password now d => h.login env email password now d
  | .refresh .. => h
  | .storeUser user => { h with auth.users := h.auth.users.insert user.id user }
  | .deleteUser userId => { h with auth.users := h.auth.users.erase userId }

def History.run (h : History) (calls : List Call) : History :=
  calls.foldl (History.step env) h

def History.Tracked (h : History) : Prop :=
  Tracks env.cfg id h.auth.redis.refreshTokens h.issued

def History.IssuesToActive (h : History) : Call → Prop
  | .refresh token now d => ∀ accessToken,
    refreshAccessToken env.cfg h.auth token now d = .ok accessToken →
      HasRoleAndPlan h.auth.users accessToken
  | _ => True

/-- A refresh token that is current is presented only by a user who exists and is active. -/
def History.PresentsActive (h : History) : Call → Prop
  | .refresh token now _ => ∀ i ∈ h.issued, token = some i.refreshToken → i.Current env.cfg now →
    ∃ user, h.auth.users[i.refreshToken.sub]? = some user ∧ user.isActive = true
  | _ => True

end AuthService

section Tracked
variable {env : Env} {h : History}

theorem History.Tracked.new (users : Std.TreeMap Uuid User) : (History.new users).Tracked env :=
  Tracks.nil

theorem History.Tracked.step (ht : h.Tracked env) (call : Call) :
    (h.step env call).Tracked env := by
  cases call with
  | login email password now d =>
    rw [History.step, History.login, loginUser]
    rcases hauth : h.auth.authenticate env.cfg env.verifyPassword email password with
      ⟨auth, result⟩
    obtain ⟨-, hstore, -⟩ := authenticate_frame hauth
    cases result with
    | error e =>
      rw [History.Tracked]
      dsimp only
      rw [hstore]
      exact ht
    | ok user =>
      rw [History.Tracked]
      dsimp only [openSession]
      rw [hstore]
      exact Tracks.insert ht rfl rfl rfl
  | refresh token now d => exact ht
  | storeUser user => exact ht
  | deleteUser userId => exact ht

theorem History.Tracked.checkStored_iff (ht : h.Tracked env) (token : Token) (now : Nat) :
    checkStored h.auth token now = .ok () ↔
      ∃ i ∈ h.issued, i.refreshToken = token ∧ i.Current env.cfg now := by
  rw [← Tracks.found_iff ht token now, checkStored]
  simp only [id_eq, exists_eq_left]
  split
  · next hne => exact iff_of_false nofun hne
  · next he => exact iff_of_true rfl (not_not.mp he)

theorem History.Tracked.refresh_of_current (ht : h.Tracked env) {i : Issued Uuid}
    (hi : i ∈ h.issued) {now : Nat} (hcur : i.Current env.cfg now) (d : Draws) :
    ∃ accessToken, refreshAccessToken env.cfg h.auth (some i.refreshToken) now d = .ok accessToken ∧
      accessToken.sub = i.refreshToken.sub := by
  have hdecode := Tracks.decode ht hi hcur
  have hstored := (ht.checkStored_iff i.refreshToken now).mpr ⟨i, hi, rfl, hcur⟩
  simp only [refreshAccessToken, hdecode, hstored]
  split
  · exact ⟨_, rfl, rfl⟩
  · exact ⟨_, rfl, rfl⟩

theorem History.Tracked.refresh_cases (ht : h.Tracked env) {token : Option Token} {now : Nat}
    {d : Draws} {accessToken : Token}
    (hok : refreshAccessToken env.cfg h.auth token now d = .ok accessToken) :
    ∃ i ∈ h.issued, token = some i.refreshToken ∧ i.Current env.cfg now ∧
      ∀ user, h.auth.users[i.refreshToken.sub]? = some user → user.isActive = true →
        accessToken = createAccessToken env.cfg i.refreshToken.sub user.role.value
          (some user.plan.value) now d.accessJti := by
  rw [refreshAccessToken] at hok
  split at hok
  · cases hok
  · next payload hdecode =>
    split at hok
    · cases hok
    · next hstored =>
      obtain ⟨i, hi, rfl, hcur⟩ := (ht.checkStored_iff payload now).mp hstored
      refine ⟨i, hi, eq_some_of_decode hdecode, hcur, ?_⟩
      intro user hu hactive
      rw [hu, Option.filter_some_pos hactive] at hok
      cases hok
      rfl

theorem History.Tracked.issuesToActive_iff (ht : h.Tracked env) (call : Call) :
    h.IssuesToActive env call ↔ h.PresentsActive env call := by
  cases call with
  | refresh token now d =>
    constructor
    · rintro hissues i hi rfl hcur
      obtain ⟨accessToken, hok, hsub⟩ := ht.refresh_of_current hi hcur d
      obtain ⟨user, hu, hactive, -⟩ := hissues accessToken hok
      exact ⟨user, hsub ▸ hu, hactive⟩
    · intro hpresents accessToken hok
      obtain ⟨i, hi, htoken, hcur, hstored⟩ := ht.refresh_cases hok
      obtain ⟨user, hu, hactive⟩ := hpresents i hi htoken hcur
      rw [hstored user hu hactive]
      exact ⟨user, hu, hactive, rfl, rfl⟩
  | _ => exact Iff.rfl

end Tracked

end Service

/-- In every history of either service each access token that a refresh issues is one of an active
user, with what is stored of the user, exactly where no refresh token that is still current is
presented of a user who is not active, or who in the auth service does not exist. -/
theorem refresh_active_iff (env : Env) (users : Std.TreeMap Uuid User) :
    (∀ calls : List Call, (∀ l call, l ++ [call] <+: calls →
      ((ControlPlane.new users).run env l).IssuesToActive env call) ↔
        Guarded (ControlPlane.step env) (ControlPlane.PresentsActive env) (.new users) calls) ∧
    ∀ calls : List Service.Call, (∀ l call, l ++ [call] <+: calls →
      ((Service.History.new users).run env l).IssuesToActive env call) ↔
        Guarded (Service.History.step env) (Service.History.PresentsActive env) (.new users)
          calls := by
  constructor
  · intro calls
    rw [← guarded_congr_of_invariant (I := ControlPlane.Tracked env)
      (ControlPlane.Tracked.new users) (fun s call h => h.step call)
      (fun s call h => h.issuesToActive_iff call), guarded_iff_forall_step]
    rfl
  · intro calls
    rw [← guarded_congr_of_invariant (I := Service.History.Tracked env)
      (Service.History.Tracked.new users) (fun h call ht => ht.step call)
      (fun h call ht => ht.issuesToActive_iff call), guarded_iff_forall_step]
    rfl

section Examples

def deactivated : User := ⟨1, "a@mesh", "old-Password1", .free, .user, false, none⟩

/-- A user who is deactivated after a login goes on getting access tokens from both services. -/
theorem refresh_of_deactivated :
    (¬ ((ControlPlane.new oneUser).run plainEnv
      [.login "a@mesh" "old-Password1" none 0 ⟨"a0", "r0", "d0"⟩,
        .storeUser deactivated]).IssuesToActive plainEnv
          (.refresh (some (createRefreshToken plainEnv.cfg 1 "user" none 0 "r0")) 1000000
            ⟨"a1", "r1", "d1"⟩)) ∧
    ¬ ((Service.History.new oneUser).run plainEnv
      [.login "a@mesh" "old-Password1" 0 ⟨"a0", "r0", "d0"⟩,
        .storeUser deactivated]).IssuesToActive plainEnv
          (.refresh (some (createRefreshToken plainEnv.cfg 1 "user" (some "free") 0 "r0")) 1000000
            ⟨"a1", "r1", "d1"⟩) := by
  constructor
  · intro h
    have hrole := h (createAccessToken plainEnv.cfg 1 "user" none 1000000 "a1") (by decide +kernel)
    exact absurd (hrole.active (u := deactivated) (by decide +kernel)) Bool.false_ne_true
  · intro h
    have hrole := h (createAccessToken plainEnv.cfg 1 "user" (some "free") 1000000 "a1")
      (by decide +kernel)
    exact absurd (hrole.hasRole.active (u := deactivated) (by decide +kernel)) Bool.false_ne_true

end Examples

end P2PMesh.Auth
