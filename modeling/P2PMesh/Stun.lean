import P2PMesh.Base.SocketText
import P2PMesh.Base.Table
import P2PMesh.Base.Utf8

namespace P2PMesh.Stun
open P2PMesh.Base
set_option autoImplicit true

inductive StunError where
  | bind (e : String)
  | send (e : String)
  | timedOut
  | recv (e : String)
  | invalid (e : Utf8Error)
  | unparsed (response : List Char)
deriving DecidableEq

def utf8ErrorText (e : Utf8Error) : String :=
  match e.errorLen with
  | some len => s!"invalid utf-8 sequence of {len} bytes from index {e.validUpTo}"
  | none => s!"incomplete utf-8 byte sequence from index {e.validUpTo}"

def StunError.text : StunError → String
  | .bind e => s!"STUN bind failed: {e}"
  | .send e => s!"STUN send failed: {e}"
  | .timedOut => "STUN response timed out"
  | .recv e => s!"STUN recv failed: {e}"
  | .invalid e => s!"Invalid STUN response: {utf8ErrorText e}"
  | .unparsed response =>
    s!"Failed to parse STUN response '{String.ofList response}': invalid socket address syntax"

/-- What the socket gives the client: the datagram that `recv_from` returns, if nothing fails. -/
abbrev Exchange := Except StunError Bytes

def parseResponse (data : Bytes) : Except StunError SocketAddr :=
  match fromUtf8 data with
  | .error e => .error (.invalid e)
  | .ok response =>
    match NetParser.parseSocketAddr (trim response) with
    | some addr => .ok addr
    | none => .error (.unparsed response)

/-- The client takes the first datagram that comes, cut to its buffer, from whatever source. -/
def getPublicAddr (exchange : Exchange) : Except StunError SocketAddr :=
  exchange.bind (fun datagram => parseResponse (datagram.take 256))

def rateLimitMax : UInt32 := 10

/-- Clock readings are in nanoseconds. -/
def rateLimitWindow : Nat := 10 * 10 ^ 9

structure IpRateLimit where
  count : UInt32
  windowStart : Nat
deriving DecidableEq

abbrev RateLimits := Std.TreeMap IpAddr IpRateLimit

/-- A datagram as the server's loop handles it: the clock at the rate limit, the clock at the
cleanup if the draw asks for one, and the error of the answer's `send_to` if it fails. -/
structure StunRequest where
  payload : Bytes
  src : SocketAddr
  now : Nat
  cleanup : Option Nat
  sendError : Option String

def StunRequest.msg (r : StunRequest) : List Char :=
  match fromUtf8 (r.payload.take 1024) with
  | .ok text => text
  | .error _ => []

def response (src : SocketAddr) : List Char :=
  NetParser.showIp src.ip ++ ':' :: decimal src.port.toNat

/-- The request's count in the window of its address, and the table with it; `none` is the panic
of the counter in a build with overflow checks. -/
def RateLimits.count (limits : RateLimits) (overflowChecks : Bool) (ip : IpAddr) (now : Nat) :
    Option (UInt32 × RateLimits) :=
  let entry := (limits[ip]?).getD ⟨0, now⟩
  let entry := if rateLimitWindow < now - entry.windowStart then ⟨0, now⟩ else entry
  if overflowChecks = true ∧ entry.count.toNat + 1 = 2 ^ 32 then none
  else some (entry.count + 1, limits.insert ip { entry with count := entry.count + 1 })

def RateLimits.cleanup (limits : RateLimits) (now : Nat) : RateLimits :=
  limits.filter (fun _ v => decide (now - v.windowStart < rateLimitWindow * 3))

structure StunReply where
  payload : Bytes
  dst : SocketAddr
deriving DecidableEq

/-- The server's loop; it ends with the first error of its socket. -/
structure StunServer where
  limits : RateLimits
  running : Bool

def StunServer.start : StunServer := ⟨∅, true⟩

inductive StunOp where
  | request (r : StunRequest)
  | recvError (e : String)

/-- One round of the loop and the reply that it hands to the socket. -/
def StunServer.round (overflowChecks : Bool) (s : StunServer) (r : StunRequest) :
    StunServer × Option StunReply :=
  match s.limits.count overflowChecks r.src.ip r.now with
  | none => ({ s with running := false }, none)
  | some (count, limits) =>
    if rateLimitMax < count then ({ s with limits := limits }, none)
    else
      let limits := match r.cleanup with
        | some now => limits.cleanup now
        | none => limits
      if trim r.msg = ['p', 'i', 'n', 'g'] then
        (⟨limits, r.sendError.isNone⟩, some ⟨utf8 (response r.src), r.src⟩)
      else ({ s with limits := limits }, none)

def StunServer.step (overflowChecks : Bool) (s : StunServer) :
    StunOp → StunServer × Option StunReply
  | .request r => if s.running then s.round overflowChecks r else (s, none)
  | .recvError _ => ({ s with running := false }, none)

theorem StunServer.round_reply {s : StunServer} {r : StunRequest}
    (h : (s.round overflowChecks r).2 = some reply) :
    trim r.msg = ['p', 'i', 'n', 'g'] ∧ reply = ⟨utf8 (response r.src), r.src⟩ := by
  rw [StunServer.round] at h
  split at h
  · cases h
  · split at h
    · cases h
    · dsimp only at h
      split at h
      · next hping => exact ⟨hping, (Option.some.inj h).symm⟩
      · cases h

theorem StunServer.step_reply {s : StunServer} {op : StunOp}
    (h : (s.step overflowChecks op).2 = some reply) :
    ∃ r, op = .request r ∧ trim r.msg = ['p', 'i', 'n', 'g'] ∧
      reply = ⟨utf8 (response r.src), r.src⟩ := by
  cases op with
  | request r =>
    rw [StunServer.step] at h
    split at h
    · exact ⟨r, rfl, StunServer.round_reply h⟩
    · cases h
  | recvError e => cases h

theorem written_not_whitespace {c : Char} (h : NetParser.Written c) : isWhitespace c = false := by
  obtain rfl | rfl | ⟨d, hd, rfl⟩ := h
  · rfl
  · rfl
  · interval_cases d <;> rfl

theorem trim_response (src : SocketAddr) : trim (response src) = response src := by
  apply trim_of_forall
  intro c hc
  apply written_not_whitespace
  rw [response, List.mem_append, List.mem_cons] at hc
  obtain hc | rfl | hc := hc
  · exact NetParser.showIp_written _ c hc
  · exact Or.inl rfl
  · exact NetParser.decimal_written _ c hc

theorem response_length_le (src : SocketAddr) : (utf8 (response src)).length ≤ 256 := by
  have hip := NetParser.showIp_length_le src.ip
  have hport : (decimal src.port.toNat).length ≤ 5 :=
    (Nat.length_toDigits_le_iff (by decide) (by decide)).mpr
      (Nat.lt_of_lt_of_le src.port.toNat_lt (by decide))
  have hbytes := utf8_length_le (response src)
  have hlength : (response src).length ≤ 48 := by
    rw [response, List.length_append, List.length_cons]
    omega
  omega

theorem parseResponse_response (src : SocketAddr) :
    getPublicAddr (.ok (utf8 (response src))) =
      match NetParser.parseSocketAddr (response src) with
      | some addr => .ok addr
      | none => .error (.unparsed (response src)) := by
  have htake := List.take_of_length_le (response_length_le src)
  rw [getPublicAddr, Except.bind, htake, parseResponse, fromUtf8_utf8]
  dsimp only
  rw [trim_response]

/-- The answer to an IPv6 source has no brackets around the address, and no text of that kind is
a socket address. -/
theorem parse_response_iff (src : SocketAddr) :
    NetParser.parseSocketAddr (response src) = some src ↔ src.ip.version = 4 := by
  obtain ⟨ip, port⟩ := src
  cases ip with
  | v4 a => exact iff_of_true (NetParser.parseSocketAddr_v4 a port) rfl
  | v6 a =>
    have hnone : NetParser.parseSocketAddr (response ⟨.v6 a, port⟩) = none :=
      NetParser.parseSocketAddr_colonized ((NetParser.showIpv6_colonized a).append _)
    rw [hnone]
    exact iff_of_false (by rintro ⟨⟩) (by rintro ⟨⟩)

/-- Every reply goes to its request's source, and the client reads that address from it exactly
if it is an IPv4 address. -/
theorem reply_parsed_iff {s : StunServer} {r : StunRequest}
    (h : (s.step overflowChecks (.request r)).2 = some reply) :
    reply.dst = r.src ∧
      (getPublicAddr (.ok reply.payload) = .ok r.src ↔ r.src.ip.version = 4) := by
  obtain ⟨r', hr, -, rfl⟩ := StunServer.step_reply h
  cases hr
  refine ⟨rfl, ?_⟩
  rw [parseResponse_response, ← parse_response_iff]
  cases NetParser.parseSocketAddr (response r.src) with
  | none => exact iff_of_false (by rintro ⟨⟩) (by rintro ⟨⟩)
  | some addr => rw [Except.ok.injEq, Option.some_inj]

def pingFrom (src : SocketAddr) : StunRequest := ⟨utf8 ['p', 'i', 'n', 'g'], src, 0, none, none⟩

theorem reply_parsed_ipv4 :
    ((StunServer.start.step true (.request (pingFrom ⟨.v4 0xC0000201, 40000⟩))).2 =
      some ⟨utf8 "192.0.2.1:40000".toList, ⟨.v4 0xC0000201, 40000⟩⟩) ∧
    getPublicAddr (.ok (utf8 "192.0.2.1:40000".toList)) = .ok ⟨.v4 0xC0000201, 40000⟩ := by
  have h : (StunServer.start.step true (.request (pingFrom ⟨.v4 0xC0000201, 40000⟩))).2 =
      some ⟨utf8 "192.0.2.1:40000".toList, ⟨.v4 0xC0000201, 40000⟩⟩ := by
    decide +kernel
  exact ⟨h, (reply_parsed_iff h).2.mpr rfl⟩

theorem loopback_unparsed :
    ((StunServer.start.step true (.request (pingFrom ⟨.v6 1, 3478⟩))).2 =
      some ⟨utf8 "::1:3478".toList, ⟨.v6 1, 3478⟩⟩) ∧
    getPublicAddr (.ok (utf8 "::1:3478".toList)) = .error (.unparsed "::1:3478".toList) := by
  decide +kernel

end P2PMesh.Stun
