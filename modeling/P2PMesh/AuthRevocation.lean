import P2PMesh.AuthSessions
import P2PMesh.Base.Run

namespace P2PMesh.Auth
open P2PMesh.Base
set_option autoImplicit true

/-- A refresh token whose session has been revoked, by a change of the password or by a logout
with one of its access tokens, is not accepted. -/
def ControlPlane.RefusesRevoked (env : Env) (s : ControlPlane) : Call → Prop
  | .refresh token now d => ∀ ses ∈ s.sessions, ses.revoked = true →
    token = some ses.refreshToken →
      ∀ accessToken, s.auth.refreshAccessToken env.cfg token now d ≠ .ok accessToken
  | _ => True

/-- A revoked refresh token is presented only when no key has it any more, a later login on the
device having taken its place or its time being over, or when its user is gone. -/
def ControlPlane.PresentsNoLive (env : Env) (s : ControlPlane) : Call → Prop
  | .refresh token now _ => ∀ ses ∈ s.sessions, ses.revoked = true →
    token = some ses.refreshToken →
      (∀ held ∈ s.sessions, held.refreshToken = ses.refreshToken → ¬ held.Current env.cfg now) ∨
        s.auth.users[ses.refreshToken.sub]? = none
  | _ => True

theorem ControlPlane.Tracked.refuses_iff {env : Env} {s : ControlPlane} (h : s.Tracked env)
    (call : Call) : s.RefusesRevoked env call ↔ s.PresentsNoLive env call := by
  cases call with
  | refresh token now d =>
    refine forall₂_congr fun ses hses => forall₂_congr fun hrevoked htoken => ?_
    constructor
    · intro hrefused
      by_contra hlive
      rw [not_or, ← ne_eq, Option.ne_none_iff_exists'] at hlive
      obtain ⟨hheld, user, hu⟩ := hlive
      push Not at hheld
      obtain ⟨held, hmem, he, hcur⟩ := hheld
      refine hrefused _ ((h.refresh_iff token now d _).mpr ⟨held, hmem, ?_, hcur, user, ?_, rfl⟩)
      · rw [he, htoken]
      · rw [he, hu]
    · intro hlive accessToken hok
      obtain ⟨held, hmem, he, hcur, user, hu, -⟩ := (h.refresh_iff token now d _).mp hok
      have hsame : held.refreshToken = ses.refreshToken := Option.some.inj (he.symm.trans htoken)
      cases hlive with
      | inl hnone => exact hnone held hmem hsame hcur
      | inr hgone =>
        rw [hsame, hgone] at hu
        cases hu
  | _ => exact Iff.rfl

/-- In every history a revoked refresh token is never accepted exactly where it is presented only
once it is replaced or out of date. -/
theorem revoked_refused_iff (env : Env) (users : Std.TreeMap Uuid User) (calls : List Call) :
    (∀ l call, l ++ [call] <+: calls →
      ((ControlPlane.new users).run env l).RefusesRevoked env call) ↔
    Guarded (ControlPlane.step env) (ControlPlane.PresentsNoLive env) (.new users) calls := by
  rw [← guarded_congr_of_invariant (I := ControlPlane.Tracked env)
    (ControlPlane.Tracked.new users) (fun s call h => h.step call)
    (fun s call h => h.refuses_iff call), guarded_iff_forall_step]
  rfl

section Examples

def firstLogin : Call :=
  .login "a@mesh" "old-Password1" (some "phone") 0 ⟨"a0", "r0", "d0"⟩

def firstRefresh : Token := createRefreshToken plainEnv.cfg 1 "user" none 0 "r0"

def firstAccess : Token := createAccessToken plainEnv.cfg 1 "user" none 0 "a0"

def secondAccess : Token := createAccessToken plainEnv.cfg 1 "user" none 2000000 "a1"

theorem accepts_revoked {env : Env} {s : ControlPlane} {token t : Token} {now : Nat}
    {d : Draws} (hses : ∃ ses ∈ s.sessions, ses.revoked = true ∧ ses.refreshToken = token)
    (hok : s.auth.refreshAccessToken env.cfg (some token) now d = .ok t) :
    ¬ s.RefusesRevoked env (.refresh (some token) now d) := by
  intro hrefuses
  obtain ⟨ses, hmem, hrevoked, rfl⟩ := hses
  exact hrefuses ses hmem hrevoked rfl t hok

/-- The refresh token of a session is accepted after the password has been changed, and after a
logout with the session's access token. -/
theorem revoked_accepted :
    (¬ ((ControlPlane.new oneUser).run plainEnv
      [firstLogin, .changePassword 1 "old-Password1" "new-Password2" 1000000]).RefusesRevoked
        plainEnv (.refresh (some firstRefresh) 2000000 ⟨"a1", "r1", "d1"⟩)) ∧
    ¬ ((ControlPlane.new oneUser).run plainEnv
      [firstLogin, .logout (some firstAccess) 1000000]).RefusesRevoked
        plainEnv (.refresh (some firstRefresh) 2000000 ⟨"a1", "r1", "d1"⟩) := by
  constructor
  · apply accepts_revoked (t := secondAccess)
    · decide +kernel
    · decide +kernel
  · apply accepts_revoked (t := secondAccess)
    · decide +kernel
    · decide +kernel

end Examples

end P2PMesh.Auth
