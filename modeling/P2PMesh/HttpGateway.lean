import P2PMesh.Base.Machine
import P2PMesh.Base.Utf8

namespace P2PMesh.Gateway
open P2PMesh.Base
set_option autoImplicit true

abbrev Text := List Char

inductive AuthProvider where
  | noAuth
  | bearerToken (token : String)
  | apiKey (key headerName : String)
deriving DecidableEq

/-- The header that authenticates a request. -/
def AuthProvider.header : AuthProvider → Option (String × String)
  | .noAuth => none
  | .bearerToken token => some ("Authorization", "Bearer " ++ token)
  | .apiKey key headerName => some (headerName, key)

/-- Durations are in nanoseconds. -/
structure HttpGatewayConfig where
  baseUrl : Text
  auth : AuthProvider
  requestTimeout : Option Nat
  connectTimeout : Option Nat
  poolIdleTimeout : Option Nat
  maxRetries : UInt32
  retryBackoffBase : Nat
  retryBackoffMax : Nat
  certFingerprint : Option Text
  defaultHeaders : List (String × String)
  userAgent : String

/-- An error of the HTTP library, with what it says about its kind. -/
structure NetworkError where
  isConnect : Bool
  isTimeout : Bool
  isRequest : Bool
  text : String
deriving DecidableEq

inductive HttpGatewayError where
  | network (e : NetworkError)
  | clientError (status : UInt16) (url : Text) (body : String)
  | serverError (status : UInt16) (url : Text) (body : String)
  | unexpectedStatus (status : UInt16) (url : Text)
  | retryExhausted (url : Text) (attempts : UInt32) (lastError : String)
  | json (e : String)
  | invalidUrl (url : Text)
deriving DecidableEq

def HttpGatewayError.text : HttpGatewayError → String
  | .network e => "Network error: " ++ e.text
  | .clientError status url body =>
    "Client error: HTTP " ++ toString status.toNat ++ " for " ++ String.ofList url ++ ": " ++ body
  | .serverError status url body =>
    "Server error: HTTP " ++ toString status.toNat ++ " for " ++ String.ofList url ++ ": " ++ body
  | .unexpectedStatus status url =>
    "Unexpected HTTP " ++ toString status.toNat ++ " for " ++ String.ofList url
  | .retryExhausted url attempts lastError =>
    "Request to " ++ String.ofList url ++ " failed after " ++ toString attempts.toNat ++
      " attempts: " ++ lastError
  | .json e => "JSON error: " ++ e
  | .invalidUrl url => "Invalid URL: " ++ String.ofList url

def HttpGatewayError.isRetryable : HttpGatewayError → Bool
  | .network e => e.isConnect || e.isTimeout || e.isRequest
  | .serverError _ _ _ => true
  | .clientError status _ _ => decide (status = 429)
  | _ => false

structure ClientBuilder where
  userAgent : String
  poolIdleTimeout : Option Nat
  timeout : Option Nat
  connectTimeout : Option Nat
  builtInRootCerts : Bool
  acceptInvalidCerts : Bool
  defaultHeaders : List (String × String)

structure Request where
  method : String
  url : Text
  auth : Option (String × String)
  body : Option String
deriving DecidableEq

structure Response where
  status : UInt16
  body : Except NetworkError String

/-- What is at the other end: nobody, a server without TLS, or one with a certificate, which the
library's own check accepts or not. -/
inductive Connection where
  | failed (e : NetworkError)
  | plain
  | tls (certificate : Bytes) (verdict : Except NetworkError Unit)

def Connection.certificate : Connection → Option Bytes
  | .tls certificate _ => some certificate
  | _ => none

/-- What an attempt meets: an error where the request cannot be put together, the connection, and
what comes back over it. -/
structure Attempt where
  unbuilt : Option NetworkError
  connection : Connection
  response : Except NetworkError Response

/-- The HTTP library: the headers that it takes, whether a client can be built, and the levels
that are logged when one is and when it is used. -/
structure Surroundings where
  header : String × String → Option (String × String)
  buildClient : ClientBuilder → Except NetworkError Unit
  logsWarn : Bool
  logsInfo : Bool
  logsDebug : Bool

/-- The text has a character boundary after so many bytes. -/
def isCharBoundary (text : Text) (n : Nat) : Bool :=
  (List.range (text.length + 1)).any (fun k => (utf8 (text.take k)).length = n)

/-- Sixteen bytes of the fingerprint, or all there are, can be sliced off for the log. -/
def canBeLogged (fingerprint : Text) : Bool :=
  isCharBoundary fingerprint (min 16 (utf8 fingerprint).length)

structure HttpGateway where
  client : ClientBuilder
  config : HttpGatewayConfig

section Construction
variable (E : Surroundings) (config : HttpGatewayConfig)

/-- With a fingerprint the library's check is switched off. -/
def clientBuilder : ClientBuilder where
  userAgent := config.userAgent
  poolIdleTimeout := config.poolIdleTimeout
  timeout := config.requestTimeout
  connectTimeout := config.connectTimeout
  builtInRootCerts := config.certFingerprint.isNone
  acceptInvalidCerts := config.certFingerprint.isSome
  defaultHeaders := config.defaultHeaders.filterMap E.header

def HttpGateway.new : Except (Fault HttpGatewayError) HttpGateway :=
  if E.logsInfo && config.certFingerprint.any (fun fingerprint => !canBeLogged fingerprint) then
    .error .panic
  else
    match E.buildClient (clientBuilder E config) with
    | .error e => .error (.err (.network e))
    | .ok () => .ok ⟨clientBuilder E config, config⟩

end Construction

/-- The request goes out over a connection that stands. -/
def Attempt.reachesServer (a : Attempt) (acceptInvalidCerts : Bool) : Except NetworkError Unit :=
  match a.unbuilt with
  | some e => .error e
  | none =>
    match a.connection with
    | .failed e => .error e
    | .plain => .ok ()
    | .tls _ verdict => if acceptInvalidCerts then .ok () else verdict

def trimEndMatches (c : Char) (text : Text) : Text := text.rdropWhile (· = c)

/-- `2 ^ 64` seconds, which no duration reaches. -/
def durationLimit : Nat := 2 ^ 64 * 10 ^ 9

section Requests
variable (E : Surroundings) (g : HttpGateway)

def HttpGateway.buildUrl (path : Text) : Text :=
  trimEndMatches '/' g.config.baseUrl ++ if path.head? = some '/' then path else '/' :: path

/-- The wait before a retry, without its jitter; it panics where the product is no duration, and
with overflow checks where the power is no 32-bit number. -/
def HttpGateway.computeBackoff (overflowChecks : Bool) (attempt : Nat) : Option Nat :=
  let power := 2 ^ (attempt - 1)
  if overflowChecks && decide (2 ^ 32 ≤ power) then none
  else
    let exponential := g.config.retryBackoffBase * (power % 2 ^ 32)
    if durationLimit ≤ exponential then none else some (min exponential g.config.retryBackoffMax)

def isSuccess (status : UInt16) : Bool := decide (200 ≤ status ∧ status < 300)
def isClientError (status : UInt16) : Bool := decide (400 ≤ status ∧ status < 500)
def isServerError (status : UInt16) : Bool := decide (500 ≤ status ∧ status < 600)

/-- What is done with a response that has come. -/
def readResponse (parse : String → Except String ρ) (url : Text) (r : Response) :
    Except HttpGatewayError ρ :=
  match r.body with
  | .error e => .error (.network e)
  | .ok body =>
    if isSuccess r.status then
      match parse body with
      | .error e => .error (.json e)
      | .ok value => .ok value
    else if isClientError r.status then .error (.clientError r.status url body)
    else if isServerError r.status then .error (.serverError r.status url body)
    else .error (.unexpectedStatus r.status url)

/-- The fingerprint is looked at for the log only. -/
def HttpGateway.executeOnce (parse : String → Except String ρ) (url : Text) (a : Attempt) :
    Except (Fault HttpGatewayError) ρ :=
  match a.reachesServer g.client.acceptInvalidCerts with
  | .error e => .error (.err (.network e))
  | .ok () =>
    match a.response with
    | .error e => .error (.err (.network e))
    | .ok r =>
      if E.logsDebug && g.config.certFingerprint.any (fun fp => !canBeLogged fp) then .error .panic
      else (readResponse parse url r).mapError .err

/-- The request that an attempt sends, if it comes to that. -/
def HttpGateway.sent (method : String) (url : Text) (body : Option String) (a : Attempt) :
    Option Request :=
  match a.reachesServer g.client.acceptInvalidCerts with
  | .error _ => none
  | .ok () => some ⟨method, url, g.config.auth.header, body⟩

/-- The number of all attempts, for the log and the last error; with overflow checks it panics where
it does not fit. -/
def HttpGateway.totalAttempts (overflowChecks : Bool) : Option UInt32 :=
  if overflowChecks && decide (g.config.maxRetries = 4294967295) then none
  else some (g.config.maxRetries + 1)

def HttpGateway.warnPanics (overflowChecks : Bool) : Bool :=
  E.logsWarn && (g.totalAttempts overflowChecks).isNone

/-- The attempts that are still left, the wait before each but the first, and what they come to. -/
def HttpGateway.attempt (overflowChecks : Bool) (parse : String → Except String ρ) (url : Text)
    (attempts : Nat → Attempt) : Nat → Nat → Option HttpGatewayError →
      Except (Fault HttpGatewayError) ρ
  | 0, _, lastError =>
    let last := lastError.getD (.invalidUrl url)
    match g.totalAttempts overflowChecks with
    | none => .error .panic
    | some total => .error (.err (.retryExhausted url total last.text))
  | left + 1, i, _ =>
    if 0 < i ∧ g.computeBackoff overflowChecks i = none then .error .panic
    else
      match g.executeOnce E parse url (attempts i) with
      | .ok value => .ok value
      | .error .panic => .error .panic
      | .error (.err e) =>
        if g.warnPanics E overflowChecks then .error .panic
        else if e.isRetryable then
          HttpGateway.attempt overflowChecks parse url attempts left (i + 1) (some e)
        else .error (.err e)

def HttpGateway.request (overflowChecks : Bool) (parse : String → Except String ρ) (path : Text)
    (attempts : Nat → Attempt) : Except (Fault HttpGatewayError) ρ :=
  g.attempt E overflowChecks parse (g.buildUrl path) attempts (g.config.maxRetries.toNat + 1) 0 none

/-- The attempts that a request makes. -/
def HttpGateway.attemptsFrom (overflowChecks : Bool) (parse : String → Except String ρ) (url : Text)
    (attempts : Nat → Attempt) : Nat → Nat → List Attempt
  | 0, _ => []
  | left + 1, i =>
    if 0 < i ∧ g.computeBackoff overflowChecks i = none then []
    else attempts i :: match g.executeOnce E parse url (attempts i) with
      | .error (.err e) =>
        if !g.warnPanics E overflowChecks && e.isRetryable then
          HttpGateway.attemptsFrom overflowChecks parse url attempts left (i + 1)
        else []
      | _ => []

def HttpGateway.made (overflowChecks : Bool) (parse : String → Except String ρ) (path : Text)
    (attempts : Nat → Attempt) : List Attempt :=
  g.attemptsFrom E overflowChecks parse (g.buildUrl path) attempts
    (g.config.maxRetries.toNat + 1) 0

end Requests

section Pinning
variable (sha256 : Bytes → Bytes)

def hexDigits (data : Bytes) : Text :=
  data.flatMap (fun b => [Nat.digitChar (b.toNat / 16), Nat.digitChar (b.toNat % 16)])

def IsFingerprint (fingerprint : Text) : Prop :=
  fingerprint.length = 64 ∧
    ∀ c ∈ fingerprint, c.isDigit ∨ c.toLower ∈ ['a', 'b', 'c', 'd', 'e', 'f']

/-- The server has shown the certificate of the fingerprint. -/
def Attempt.Pinned (a : Attempt) (fingerprint : Text) : Prop :=
  ∃ certificate, a.connection.certificate = some certificate ∧
    hexDigits (sha256 certificate) = fingerprint.map Char.toLower

/-- The response is one of success, with a body that is what was asked for. -/
def Attempt.IsAccepted (parse : String → Except String ρ) (a : Attempt) : Prop :=
  ∃ r body value, a.response = .ok r ∧ r.body = .ok body ∧ isSuccess r.status = true ∧
    parse body = .ok value

variable (E : Surroundings) (overflowChecks : Bool) (parse : String → Except String ρ)

/-- A request is answered, and the header of its authentication sent, only by a server and to a
server with the certificate of the fingerprint. -/
structure HttpGateway.Pins (g : HttpGateway) (fingerprint : Text) (method : String) (path : Text)
    (body : Option String) (attempts : Nat → Attempt) : Prop where
  answered : ∀ value, g.request E overflowChecks parse path attempts = .ok value →
    ∃ a, (g.made E overflowChecks parse path attempts).getLast? = some a ∧
      a.Pinned sha256 fingerprint
  authenticated : ∀ a ∈ g.made E overflowChecks parse path attempts, ∀ r header,
    g.sent method (g.buildUrl path) body a = some r → r.auth = some header →
      a.Pinned sha256 fingerprint

/-- The certificate is the pinned one, or no server is reached, or there is nothing to send and
nothing to accept from it, unless the log panics before. -/
def HttpGateway.IsHarmless (g : HttpGateway) (fingerprint : Text) (a : Attempt) : Prop :=
  a.Pinned sha256 fingerprint ∨ a.reachesServer g.client.acceptInvalidCerts ≠ .ok () ∨
    (g.config.auth = .noAuth ∧
      (a.IsAccepted parse → (E.logsDebug && !canBeLogged fingerprint) = true))

end Pinning

section Runs
variable {E : Surroundings} {g : HttpGateway} {overflowChecks : Bool}
  {parse : String → Except String ρ} {url : Text} {attempts : Nat → Attempt}

theorem readResponse_eq_ok {r : Response} {value : ρ} :
    readResponse parse url r = .ok value ↔
      ∃ body, r.body = .ok body ∧ isSuccess r.status = true ∧ parse body = .ok value := by
  rw [readResponse]
  cases hbody : r.body with
  | error e => exact iff_of_false (fun h => by cases h) (fun ⟨_, h, _⟩ => by cases h)
  | ok body =>
    dsimp only
    split
    · next hs =>
      constructor
      · intro h
        cases hparse : parse body with
        | error e =>
          rw [hparse] at h
          cases h
        | ok v =>
          rw [hparse] at h
          cases h
          exact ⟨body, rfl, hs, hparse⟩
      · rintro ⟨body', hb, -, hparse⟩
        cases hb
        rw [hparse]
    · next hs =>
      refine iff_of_false ?_ (fun ⟨_, _, h, _⟩ => hs h)
      split
      · intro h
        cases h
      · split
        · intro h
          cases h
        · intro h
          cases h

theorem HttpGateway.executeOnce_ok_iff {fingerprint : Text}
    (hfp : g.config.certFingerprint = some fingerprint) (a : Attempt) :
    (∃ value, g.executeOnce E parse url a = .ok value) ↔
      a.reachesServer g.client.acceptInvalidCerts = .ok () ∧ a.IsAccepted parse ∧
        (E.logsDebug && !canBeLogged fingerprint) = false := by
  rw [HttpGateway.executeOnce]
  cases hreach : a.reachesServer g.client.acceptInvalidCerts with
  | error e => exact iff_of_false (fun ⟨_, h⟩ => by cases h) (fun ⟨h, _⟩ => by cases h)
  | ok u =>
    rw [and_iff_right rfl]
    dsimp only
    cases hresponse : a.response with
    | error e =>
      refine iff_of_false (fun ⟨_, h⟩ => by cases h) ?_
      rintro ⟨⟨r, body, value, hr, -⟩, -⟩
      rw [hresponse] at hr
      cases hr
    | ok r =>
      dsimp only
      rw [hfp, Option.any_some]
      split
      · next hpanic => exact iff_of_false (fun ⟨_, h⟩ => by cases h) (fun h => by simp_all)
      · next hlog =>
        rw [Bool.not_eq_true] at hlog
        rw [and_iff_left hlog]
        constructor
        · rintro ⟨value, h⟩
          cases hread : readResponse parse url r with
          | error e =>
            rw [hread] at h
            cases h
          | ok v =>
            obtain ⟨body, hbody, hs, hparse⟩ := readResponse_eq_ok.mp hread
            exact ⟨r, body, v, hresponse, hbody, hs, hparse⟩
        · rintro ⟨r', body, value, hr, hbody, hs, hparse⟩
          rw [hresponse] at hr
          cases hr
          refine ⟨value, ?_⟩
          rw [readResponse_eq_ok.mpr ⟨body, hbody, hs, hparse⟩]
          rfl

theorem HttpGateway.attempt_ok {left i : Nat} {lastError : Option HttpGatewayError} {value : ρ}
    (h : g.attempt E overflowChecks parse url attempts left i lastError = .ok value) :
    ∃ a, (g.attemptsFrom E overflowChecks parse url attempts left i).getLast? = some a ∧
      g.executeOnce E parse url a = .ok value := by
  induction left generalizing i lastError with
  | zero =>
    rw [HttpGateway.attempt] at h
    split at h
    · cases h
    · cases h
  | succ left ih =>
    rw [HttpGateway.attempt] at h
    rw [HttpGateway.attemptsFrom]
    split at h
    · cases h
    · next hbackoff =>
      rw [if_neg hbackoff]
      split at h
      · next v hv =>
        cases h
        rw [hv]
        exact ⟨attempts i, rfl, hv⟩
      · cases h
      · next e he =>
        rw [he]
        split at h
        · cases h
        · next hwarn =>
          split at h
          · next hretry =>
            obtain ⟨a, hlast, ha⟩ := ih h
            refine ⟨a, ?_, ha⟩
            dsimp only
            rw [Bool.not_eq_true] at hwarn
            rw [hwarn, hretry, Bool.not_false, Bool.and_self, if_pos rfl, List.getLast?_cons, hlast]
            rfl
          · cases h

theorem HttpGateway.attempt_of_success {left i : Nat} (lastError : Option HttpGatewayError)
    {a : Attempt} {value : ρ}
    (hmem : a ∈ g.attemptsFrom E overflowChecks parse url attempts left i)
    (ha : g.executeOnce E parse url a = .ok value) :
    (g.attemptsFrom E overflowChecks parse url attempts left i).getLast? = some a ∧
      g.attempt E overflowChecks parse url attempts left i lastError = .ok value := by
  induction left generalizing i lastError with
  | zero => cases hmem
  | succ left ih =>
    rw [HttpGateway.attemptsFrom] at hmem ⊢
    rw [HttpGateway.attempt]
    split at hmem
    · cases hmem
    · next hbackoff =>
      rw [if_neg hbackoff, if_neg hbackoff]
      cases hexec : g.executeOnce E parse url (attempts i) with
      | ok v =>
        rw [hexec, List.mem_singleton] at hmem
        cases hmem
        rw [hexec] at ha
        exact ⟨rfl, ha⟩
      | error fault =>
        rw [hexec] at hmem
        cases fault with
        | panic =>
          rw [List.mem_singleton] at hmem
          rw [hmem, hexec] at ha
          cases ha
        | err e =>
          dsimp only at hmem ⊢
          split at hmem
          · next hretry =>
            obtain ⟨hwarn, hretry'⟩ := (Bool.and_eq_true _ _).mp hretry
            rw [Bool.not_eq_true'] at hwarn
            rw [if_pos hretry, hwarn, if_neg Bool.false_ne_true, if_pos hretry']
            rcases List.mem_cons.mp hmem with rfl | hlater
            · rw [hexec] at ha
              cases ha
            · obtain ⟨hlast, hok⟩ := ih (some e) hlater
              refine ⟨?_, hok⟩
              rw [List.getLast?_cons, hlast]
              rfl
          · rw [List.mem_singleton] at hmem
            rw [hmem, hexec] at ha
            cases ha

theorem HttpGateway.sent_eq_some {method : String} {body : Option String} {a : Attempt}
    {r : Request} :
    g.sent method url body a = some r ↔
      a.reachesServer g.client.acceptInvalidCerts = .ok () ∧
        r = ⟨method, url, g.config.auth.header, body⟩ := by
  rw [HttpGateway.sent]
  cases a.reachesServer g.client.acceptInvalidCerts with
  | error e => exact iff_of_false (fun h => by cases h) (fun h => by cases h.1)
  | ok u =>
    rw [and_iff_right rfl]
    exact ⟨fun h => (Option.some.inj h).symm, fun h => congrArg some h.symm⟩

theorem AuthProvider.header_eq_none {auth : AuthProvider} :
    auth.header = none ↔ auth = .noAuth := by
  cases auth with
  | noAuth => exact iff_of_true rfl rfl
  | bearerToken token => exact iff_of_false (fun h => by cases h) (fun h => by cases h)
  | apiKey key headerName => exact iff_of_false (fun h => by cases h) (fun h => by cases h)

theorem HttpGateway.pins_iff (sha256 : Bytes → Bytes) (overflowChecks : Bool)
    (parse : String → Except String ρ) {fingerprint : Text}
    (hfp : g.config.certFingerprint = some fingerprint) (method : String) (path : Text)
    (body : Option String) (attempts : Nat → Attempt) :
    g.Pins sha256 E overflowChecks parse fingerprint method path body attempts ↔
      ∀ a ∈ g.made E overflowChecks parse path attempts,
        g.IsHarmless sha256 E parse fingerprint a := by
  constructor
  · intro h a ha
    by_cases hreach : a.reachesServer g.client.acceptInvalidCerts = .ok ()
    · cases hauth : g.config.auth.header with
      | some header =>
        exact .inl (h.authenticated a ha _ header (sent_eq_some.mpr ⟨hreach, rfl⟩) hauth)
      | none =>
        by_cases hok : ∃ value, g.executeOnce E parse (g.buildUrl path) a = .ok value
        · obtain ⟨value, hvalue⟩ := hok
          obtain ⟨hlast, hrequest⟩ := attempt_of_success none ha hvalue
          obtain ⟨a', hlast', hpinned⟩ := h.answered value hrequest
          change (g.attemptsFrom _ _ _ _ _ _ _).getLast? = _ at hlast'
          rw [hlast] at hlast'
          cases hlast'
          exact .inl hpinned
        · refine .inr (.inr ⟨AuthProvider.header_eq_none.mp hauth, ?_⟩)
          intro haccepted
          by_contra hlog
          rw [Bool.not_eq_true] at hlog
          exact hok ((executeOnce_ok_iff hfp a).mpr ⟨hreach, haccepted, hlog⟩)
    · exact .inr (.inl hreach)
  · intro h
    constructor
    · intro value hrequest
      obtain ⟨a, hlast, hvalue⟩ := attempt_ok hrequest
      obtain ⟨hreach, haccepted, hlog⟩ := (executeOnce_ok_iff hfp a).mp ⟨value, hvalue⟩
      refine ⟨a, hlast, ?_⟩
      rcases h a (List.mem_of_getLast? hlast) with hpinned | hunreached | ⟨-, hpanic⟩
      · exact hpinned
      · exact (hunreached hreach).elim
      · rw [hpanic haccepted] at hlog
        cases hlog
    · intro a ha r header hsent hheader
      obtain ⟨hreach, rfl⟩ := sent_eq_some.mp hsent
      rcases h a ha with hpinned | hunreached | ⟨hauth, -⟩
      · exact hpinned
      · exact (hunreached hreach).elim
      · rw [hauth] at hheader
        cases hheader

end Runs

section Enforcement
variable (sha256 : Bytes → Bytes) (E : Surroundings) (overflowChecks : Bool)
  (parse : String → Except String ρ) (config : HttpGatewayConfig)

/-- A gateway with a fingerprint pins its requests, and there is none with a fingerprint that is
not one. -/
structure EnforcesPinning (method : String) (path : Text) (body : Option String)
    (attempts : Nat → Attempt) : Prop where
  pins : ∀ fingerprint g, config.certFingerprint = some fingerprint →
    HttpGateway.new E config = .ok g →
      g.Pins sha256 E overflowChecks parse fingerprint method path body attempts
  rejects : ∀ fingerprint, config.certFingerprint = some fingerprint →
    ¬ IsFingerprint fingerprint → ∃ e, HttpGateway.new E config = .error (.err e)

theorem HttpGateway.new_error_iff {fingerprint : Text}
    (hfp : config.certFingerprint = some fingerprint) :
    (∃ e, HttpGateway.new E config = .error (.err e)) ↔
      (E.logsInfo && !canBeLogged fingerprint) = false ∧
        E.buildClient (clientBuilder E config) ≠ .ok () := by
  rw [HttpGateway.new, hfp, Option.any_some]
  split
  · next hpanic =>
    refine iff_of_false (fun ⟨_, h⟩ => by cases h) ?_
    rintro ⟨hlog, -⟩
    rw [hlog] at hpanic
    cases hpanic
  · next hlog =>
    rw [Bool.not_eq_true] at hlog
    rw [and_iff_right hlog]
    split
    · next e he =>
      refine iff_of_true ⟨_, rfl⟩ ?_
      rw [he]
      intro h
      cases h
    · next hok => exact iff_of_false (fun ⟨_, h⟩ => by cases h) (fun h => h hok)

theorem HttpGateway.config_new {g : HttpGateway} (h : HttpGateway.new E config = .ok g) :
    g.config = config := by
  rw [HttpGateway.new] at h
  split at h
  · cases h
  · split at h
    · cases h
    · cases h
      rfl

end Enforcement

/-- Every header is taken and every client built, and nothing is logged. -/
def plainSurroundings : Surroundings := ⟨some, fun _ => .ok (), false, false, false⟩

def pinnedConfig (fingerprint : Text) : HttpGatewayConfig where
  baseUrl := ['h', 't', 't', 'p', 's', ':', '/', '/', 'a']
  auth := .bearerToken "secret"
  requestTimeout := none
  connectTimeout := none
  poolIdleTimeout := none
  maxRetries := 0
  retryBackoffBase := 0
  retryBackoffMax := 0
  certFingerprint := some fingerprint
  defaultHeaders := []
  userAgent := "p2p-mesh-dataplane"

/-- A server whose certificate the library's own check does not accept answers. -/
def untrustedAttempt : Attempt :=
  ⟨none, .tls [] (.error ⟨true, false, false, "invalid peer certificate"⟩), .ok ⟨200, .ok "{}"⟩⟩

/-- The digest of no bytes. -/
def emptyDigest : Bytes :=
  [0xe3, 0xb0, 0xc4, 0x42, 0x98, 0xfc, 0x1c, 0x14, 0x9a, 0xfb, 0xf4, 0xc8, 0x99, 0x6f, 0xb9, 0x24,
    0x27, 0xae, 0x41, 0xe4, 0x64, 0x9b, 0x93, 0x4c, 0xa4, 0x95, 0x99, 0x1b, 0x78, 0x52, 0xb8, 0x55]

end P2PMesh.Gateway
