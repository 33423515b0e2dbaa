import P2PMesh.Base.CryptoSuite
import P2PMesh.Base.Net
import P2PMesh.Base.RateWindow
import P2PMesh.Base.Utf8

namespace P2PMesh.Relay
open P2PMesh.Base
set_option autoImplicit true

def headerSize : Nat := 64

def maxPacketsPerSec : UInt64 := 100

def maxIpPacketsPerSec : UInt64 := 500

attribute [local instance] lexOrd in
abbrev Routes := Std.TreeMap (String × String) SocketAddr

structure ForwardingTable where
  routes : Routes
  deviceAddrs : Std.TreeMap String SocketAddr
  stats : Std.TreeMap String (UInt64 × UInt64)
  rateLimits : Windows String
  ipRateLimits : Windows String
  hmacKey : Bytes

/-- An empty table with the key of the variable `RELAY_HMAC_KEY`, empty if it is not set. -/
def ForwardingTable.new (relayHmacKey : Option String) : ForwardingTable :=
  ⟨∅, ∅, ∅, ∅, ∅, utf8 (relayHmacKey.getD "").toList⟩

def ForwardingTable.setHmacKey (t : ForwardingTable) (key : Bytes) : ForwardingTable :=
  { t with hmacKey := key }

section Hmac
variable (S : CryptoSuite)

def ForwardingTable.verifyHmac (t : ForwardingTable) (srcId dstId tag : Bytes) : Bool :=
  if t.hmacKey.isEmpty then false
  else (S.hmacSha256 t.hmacKey (srcId ++ dstId)).bytes == tag

def ForwardingTable.computeHmac (t : ForwardingTable) (srcId dstId : String) :
    Except String Bytes :=
  if t.hmacKey.isEmpty then .error "HMAC key not configured"
  else .ok (S.hmacSha256 t.hmacKey (utf8 srcId.toList ++ utf8 dstId.toList)).bytes

end Hmac

def ForwardingTable.registerDevice (t : ForwardingTable) (deviceId : String) (addr : SocketAddr) :
    ForwardingTable :=
  { t with deviceAddrs := t.deviceAddrs.insert deviceId addr }

def ForwardingTable.unregisterDevice (t : ForwardingTable) (deviceId : String) :
    ForwardingTable :=
  { t with deviceAddrs := t.deviceAddrs.erase deviceId }

/-- The route leads to the address that the destination has now; it does not follow it later. -/
def ForwardingTable.addRoute (t : ForwardingTable) (srcDevice dstDevice : String) :
    ForwardingTable :=
  match t.deviceAddrs[dstDevice]? with
  | some dstAddr => { t with routes := t.routes.insert (srcDevice, dstDevice) dstAddr }
  | none => t

def ForwardingTable.removeRoute (t : ForwardingTable) (srcDevice dstDevice : String) :
    ForwardingTable :=
  { t with routes := t.routes.erase (srcDevice, dstDevice) }

def ForwardingTable.lookup (t : ForwardingTable) (srcDevice dstDevice : String) :
    Option SocketAddr := t.routes[(srcDevice, dstDevice)]?

section Counters
variable (overflowChecks : Bool)

/-- The statistics of a device after a forward, and whether no counter panicked; the first
counter is stored before the second is raised. -/
def ForwardingTable.recordForward (t : ForwardingTable) (deviceId : String) (bytes : UInt64) :
    ForwardingTable × Bool :=
  let entry := (t.stats[deviceId]?).getD (0, 0)
  match addU64 overflowChecks entry.1 bytes with
  | none => ({ t with stats := t.stats.insert deviceId entry }, false)
  | some total =>
    match addU64 overflowChecks entry.2 1 with
    | none => ({ t with stats := t.stats.insert deviceId (total, entry.2) }, false)
    | some packets => ({ t with stats := t.stats.insert deviceId (total, packets) }, true)

def ForwardingTable.checkRateLimit (t : ForwardingTable) (deviceId : String) (limit : UInt64)
    (now : Nat) : Option (Bool × ForwardingTable) :=
  (t.rateLimits.hit overflowChecks deviceId limit now).map
    (fun r => (r.1, { t with rateLimits := r.2 }))

def ForwardingTable.checkIpRateLimit (showIp : IpAddr → String) (t : ForwardingTable)
    (ip : IpAddr) (limit : UInt64) (now : Nat) : Option (Bool × ForwardingTable) :=
  (t.ipRateLimits.hit overflowChecks (showIp ip) limit now).map
    (fun r => (r.1, { t with ipRateLimits := r.2 }))

end Counters

/-- A datagram that the loop receives, with the seconds that its two limiters read from the
clock while it is handled and what sending its payload on reports. -/
structure Received where
  data : Bytes
  srcAddr : SocketAddr
  deviceNow : Nat
  ipNow : Nat
  sent : Option UInt64
deriving DecidableEq

def Received.srcIdBytes (d : Received) : Bytes := d.data.take 16

def Received.dstIdBytes (d : Received) : Bytes := (d.data.drop 16).take 16

def Received.hmacTag (d : Received) : Bytes := (d.data.drop 32).take 32

def Received.payload (d : Received) : Bytes := d.data.drop headerSize

/-- The text of a 16-byte field: decoded with replacement characters, without trailing NULs. -/
def idText (field : Bytes) : String :=
  String.ofList ((fromUtf8Lossy field).rdropWhile (· = '\x00'))

structure Forward where
  srcId : String
  dstId : String
  payload : Bytes
  addr : SocketAddr
deriving DecidableEq

/-- The loop with its table, the datagrams that reached address registration and the payloads
sent on, in their order. -/
structure RelayLoop where
  table : ForwardingTable
  admitted : List Received
  forwarded : List Forward
  running : Bool

def RelayLoop.start (t : ForwardingTable) : RelayLoop := ⟨t, [], [], true⟩

section Loop
variable (S : CryptoSuite) (overflowChecks : Bool) (showIp : IpAddr → String)

/-- Long enough for a header, with a tag that the key of the table verifies. -/
def ForwardingTable.authentic (t : ForwardingTable) (d : Received) : Bool :=
  decide (headerSize ≤ d.data.length) && t.verifyHmac S d.srcIdBytes d.dstIdBytes d.hmacTag

/-- What follows the rate limits: the sender's address is registered and the payload sent on. -/
def RelayLoop.accept (r : RelayLoop) (d : Received) : RelayLoop :=
  let srcId := idText d.srcIdBytes
  let dstId := idText d.dstIdBytes
  let table := r.table.registerDevice srcId d.srcAddr
  let admitted := r.admitted ++ [d]
  match table.lookup srcId dstId with
  | none => { r with table := table, admitted := admitted }
  | some dstAddr =>
    let forwarded := r.forwarded ++ [⟨srcId, dstId, d.payload, dstAddr⟩]
    match d.sent with
    | none => ⟨table, admitted, forwarded, r.running⟩
    | some sent =>
      let recorded := table.recordForward overflowChecks srcId sent
      ⟨recorded.1, admitted, forwarded, recorded.2⟩

/-- One turn of the relay loop; a counter that panics ends the loop. -/
def RelayLoop.receive (r : RelayLoop) (d : Received) : RelayLoop :=
  if r.running = false then r
  else if d.data.length < headerSize then r
  else if r.table.verifyHmac S d.srcIdBytes d.dstIdBytes d.hmacTag = false then r
  else
    match r.table.checkRateLimit overflowChecks (idText d.srcIdBytes) maxPacketsPerSec
      d.deviceNow with
    | none => { r with running := false }
    | some (false, table) => { r with table := table }
    | some (true, table) =>
      match table.checkIpRateLimit overflowChecks showIp d.srcAddr.ip maxIpPacketsPerSec
        d.ipNow with
      | none => { r with table := table, running := false }
      | some (false, table) => { r with table := table }
      | some (true, table) => { r with table := table }.accept overflowChecks d

/-- A datagram, or a call of the control plane on the shared table. -/
inductive RelayOp where
  | datagram (d : Received)
  | registerDevice (deviceId : String) (addr : SocketAddr)
  | unregisterDevice (deviceId : String)
  | addRoute (srcDevice dstDevice : String)
  | removeRoute (srcDevice dstDevice : String)

def RelayLoop.step (r : RelayLoop) : RelayOp → RelayLoop
  | .datagram d => r.receive S overflowChecks showIp d
  | .registerDevice deviceId addr => { r with table := r.table.registerDevice deviceId addr }
  | .unregisterDevice deviceId => { r with table := r.table.unregisterDevice deviceId }
  | .addRoute srcDevice dstDevice => { r with table := r.table.addRoute srcDevice dstDevice }
  | .removeRoute srcDevice dstDevice =>
    { r with table := r.table.removeRoute srcDevice dstDevice }

def RelayLoop.run (r : RelayLoop) (ops : List RelayOp) : RelayLoop :=
  ops.foldl (RelayLoop.step S overflowChecks showIp) r

variable {S overflowChecks showIp}

theorem RelayLoop.accept_eq (r : RelayLoop) (d : Received) :
    ∃ stats running, r.accept overflowChecks d =
      ⟨{ r.table with
          deviceAddrs := r.table.deviceAddrs.insert (idText d.srcIdBytes) d.srcAddr
          stats := stats },
        r.admitted ++ [d],
        r.forwarded ++ (r.table.lookup (idText d.srcIdBytes) (idText d.dstIdBytes)).toList.map
          (fun addr => ⟨idText d.srcIdBytes, idText d.dstIdBytes, d.payload, addr⟩),
        running⟩ := by
  have hl : (r.table.registerDevice (idText d.srcIdBytes) d.srcAddr).lookup
      (idText d.srcIdBytes) (idText d.dstIdBytes) =
        r.table.lookup (idText d.srcIdBytes) (idText d.dstIdBytes) := rfl
  simp only [RelayLoop.accept, hl]
  cases r.table.lookup (idText d.srcIdBytes) (idText d.dstIdBytes) with
  | none => exact ⟨r.table.stats, r.running, by rw [Option.toList_none]; simp; rfl⟩
  | some dstAddr =>
    cases d.sent with
    | none => exact ⟨r.table.stats, r.running, rfl⟩
    | some sent =>
      simp only [ForwardingTable.recordForward]
      cases addU64 overflowChecks _ sent with
      | none => exact ⟨_, false, rfl⟩
      | some total =>
        dsimp only
        cases addU64 overflowChecks _ 1 with
        | none => exact ⟨_, false, rfl⟩
        | some packets => exact ⟨_, true, rfl⟩

@[simp] theorem RelayLoop.accept_admitted (r : RelayLoop) (d : Received) :
    (r.accept overflowChecks d).admitted = r.admitted ++ [d] := by
  obtain ⟨stats, running, he⟩ := @RelayLoop.accept_eq overflowChecks r d
  rw [he]

theorem RelayLoop.accept_forwarded (r : RelayLoop) (d : Received) :
    (r.accept overflowChecks d).forwarded =
      r.forwarded ++ (r.table.lookup (idText d.srcIdBytes) (idText d.dstIdBytes)).toList.map
        (fun addr => ⟨idText d.srcIdBytes, idText d.dstIdBytes, d.payload, addr⟩) := by
  obtain ⟨stats, running, he⟩ := @RelayLoop.accept_eq overflowChecks r d
  rw [he]

theorem RelayLoop.accept_deviceAddrs (r : RelayLoop) (d : Received) :
    (r.accept overflowChecks d).table.deviceAddrs =
      r.table.deviceAddrs.insert (idText d.srcIdBytes) d.srcAddr := by
  obtain ⟨stats, running, he⟩ := @RelayLoop.accept_eq overflowChecks r d
  rw [he]

@[simp] theorem RelayLoop.accept_rateLimits (r : RelayLoop) (d : Received) :
    (r.accept overflowChecks d).table.rateLimits = r.table.rateLimits := by
  obtain ⟨stats, running, he⟩ := @RelayLoop.accept_eq overflowChecks r d
  rw [he]

@[simp] theorem RelayLoop.accept_ipRateLimits (r : RelayLoop) (d : Received) :
    (r.accept overflowChecks d).table.ipRateLimits = r.table.ipRateLimits := by
  obtain ⟨stats, running, he⟩ := @RelayLoop.accept_eq overflowChecks r d
  rw [he]

@[simp] theorem RelayLoop.accept_routes (r : RelayLoop) (d : Received) :
    (r.accept overflowChecks d).table.routes = r.table.routes := by
  obtain ⟨stats, running, he⟩ := @RelayLoop.accept_eq overflowChecks r d
  rw [he]

@[simp] theorem RelayLoop.accept_hmacKey (r : RelayLoop) (d : Received) :
    (r.accept overflowChecks d).table.hmacKey = r.table.hmacKey := by
  obtain ⟨stats, running, he⟩ := @RelayLoop.accept_eq overflowChecks r d
  rw [he]

theorem RelayLoop.accept_running (r : RelayLoop) {d : Received} (hd : d.sent = none) :
    (r.accept overflowChecks d).running = r.running := by
  simp only [RelayLoop.accept, hd]
  split <;> rfl

theorem authentic_of_key {t t' : ForwardingTable} (h : t.hmacKey = t'.hmacKey) (d : Received) :
    t.authentic S d = t'.authentic S d := by
  simp only [ForwardingTable.authentic, ForwardingTable.verifyHmac, h]

theorem RelayLoop.receive_refused (r : RelayLoop) {d : Received}
    (h : ¬ (r.running = true ∧ r.table.authentic S d = true)) :
    r.receive S overflowChecks showIp d = r := by
  rw [RelayLoop.receive]
  by_cases hr : r.running = false
  · rw [if_pos hr]
  · rw [if_neg hr]
    by_cases hl : d.data.length < headerSize
    · rw [if_pos hl]
    · rw [if_neg hl, if_pos]
      by_contra hv
      apply h
      rw [ForwardingTable.authentic, decide_eq_true (Nat.le_of_not_lt hl), Bool.true_and]
      exact ⟨eq_true_of_ne_false hr, eq_true_of_ne_false hv⟩

theorem RelayLoop.receive_authentic {r : RelayLoop} (hr : r.running = true) {d : Received}
    (h : r.table.authentic S d = true) :
    r.receive S overflowChecks showIp d =
      match r.table.rateLimits.hit overflowChecks (idText d.srcIdBytes) maxPacketsPerSec
        d.deviceNow with
      | none => { r with running := false }
      | some (false, rates) => { r with table := { r.table with rateLimits := rates } }
      | some (true, rates) =>
        match r.table.ipRateLimits.hit overflowChecks (showIp d.srcAddr.ip) maxIpPacketsPerSec
          d.ipNow with
        | none => { r with table := { r.table with rateLimits := rates }, running := false }
        | some (false, ips) =>
          { r with table := { r.table with rateLimits := rates, ipRateLimits := ips } }
        | some (true, ips) =>
          { r with table := { r.table with rateLimits := rates, ipRateLimits := ips } }.accept
            overflowChecks d := by
  rw [ForwardingTable.authentic, Bool.and_eq_true, decide_eq_true_eq] at h
  have hr' : ¬ r.running = false := by
    rw [hr]
    exact Bool.true_eq_false_eq_False
  have hv : ¬ r.table.verifyHmac S d.srcIdBytes d.dstIdBytes d.hmacTag = false := by
    rw [h.2]
    exact Bool.true_eq_false_eq_False
  rw [RelayLoop.receive, if_neg hr', if_neg (Nat.not_lt.mpr h.1), if_neg hv]
  simp only [ForwardingTable.checkRateLimit, ForwardingTable.checkIpRateLimit]
  cases r.table.rateLimits.hit overflowChecks (idText d.srcIdBytes) maxPacketsPerSec
      d.deviceNow with
  | none => rfl
  | some checked =>
    obtain ⟨ok, rates⟩ := checked
    cases ok with
    | false => rfl
    | true =>
      simp only [Option.map_some]
      cases r.table.ipRateLimits.hit overflowChecks (showIp d.srcAddr.ip) maxIpPacketsPerSec
          d.ipNow with
      | none => rfl
      | some checked =>
        obtain ⟨ok, ips⟩ := checked
        cases ok <;> rfl

section Turn
variable (S) (overflowChecks) (showIp)

/-- What one turn of the loop can do with a datagram, with what the limiters say to it. -/
inductive RelayLoop.Turn (r : RelayLoop) (d : Received) : RelayLoop → Prop where
  | refused (h : ¬ (r.running = true ∧ r.table.authentic S d = true)) : Turn r d r
  | devicePanic (hr : r.running = true) (ha : r.table.authentic S d = true)
    (hdevice : r.table.rateLimits.hit overflowChecks (idText d.srcIdBytes) maxPacketsPerSec
      d.deviceNow = none) : Turn r d { r with running := false }
  | deviceOver (hr : r.running = true) (ha : r.table.authentic S d = true)
    (hdevice : r.table.rateLimits.hit overflowChecks (idText d.srcIdBytes) maxPacketsPerSec
      d.deviceNow = some (false, rates)) :
    Turn r d { r with table := { r.table with rateLimits := rates } }
  | ipPanic (hr : r.running = true) (ha : r.table.authentic S d = true)
    (hdevice : r.table.rateLimits.hit overflowChecks (idText d.srcIdBytes) maxPacketsPerSec
      d.deviceNow = some (true, rates))
    (hip : r.table.ipRateLimits.hit overflowChecks (showIp d.srcAddr.ip) maxIpPacketsPerSec
      d.ipNow = none) :
    Turn r d { r with table := { r.table with rateLimits := rates }, running := false }
  | ipOver (hr : r.running = true) (ha : r.table.authentic S d = true)
    (hdevice : r.table.rateLimits.hit overflowChecks (idText d.srcIdBytes) maxPacketsPerSec
      d.deviceNow = some (true, rates))
    (hip : r.table.ipRateLimits.hit overflowChecks (showIp d.srcAddr.ip) maxIpPacketsPerSec
      d.ipNow = some (false, ips)) :
    Turn r d { r with table := { r.table with rateLimits := rates, ipRateLimits := ips } }
  | accepted (hr : r.running = true) (ha : r.table.authentic S d = true)
    (hdevice : r.table.rateLimits.hit overflowChecks (idText d.srcIdBytes) maxPacketsPerSec
      d.deviceNow = some (true, rates))
    (hip : r.table.ipRateLimits.hit overflowChecks (showIp d.srcAddr.ip) maxIpPacketsPerSec
      d.ipNow = some (true, ips)) :
    Turn r d ({ r with table := { r.table with
      rateLimits := rates, ipRateLimits := ips } }.accept overflowChecks d)

end Turn

theorem RelayLoop.receive_turn (r : RelayLoop) (d : Received) :
    r.Turn S overflowChecks showIp d (r.receive S overflowChecks showIp d) := by
  by_cases h : r.running = true ∧ r.table.authentic S d = true
  · obtain ⟨hr, ha⟩ := h
    rw [RelayLoop.receive_authentic hr ha]
    cases hdevice : r.table.rateLimits.hit overflowChecks (idText d.srcIdBytes) maxPacketsPerSec
        d.deviceNow with
    | none => exact .devicePanic hr ha hdevice
    | some checked =>
      obtain ⟨ok, rates⟩ := checked
      cases ok with
      | false => exact .deviceOver hr ha hdevice
      | true =>
        dsimp only
        cases hip : r.table.ipRateLimits.hit overflowChecks (showIp d.srcAddr.ip)
            maxIpPacketsPerSec d.ipNow with
        | none => exact .ipPanic hr ha hdevice hip
        | some checked =>
          obtain ⟨ok, ips⟩ := checked
          cases ok with
          | false => exact .ipOver hr ha hdevice hip
          | true => exact .accepted hr ha hdevice hip
  · rw [RelayLoop.receive_refused r h]
    exact .refused h

/-- Besides counting, a turn does nothing or accepts a datagram with a right tag. -/
theorem RelayLoop.Turn.cases {r r' : RelayLoop} (h : r.Turn S overflowChecks showIp d r') :
    r'.table.routes = r.table.routes ∧ r'.table.hmacKey = r.table.hmacKey ∧
      ((r'.admitted = r.admitted ∧ r'.forwarded = r.forwarded ∧
          r'.table.deviceAddrs = r.table.deviceAddrs) ∨
        (r.running = true ∧ r.table.authentic S d = true ∧
          r'.admitted = r.admitted ++ [d] ∧
          r'.forwarded = r.forwarded ++
            (r.table.lookup (idText d.srcIdBytes) (idText d.dstIdBytes)).toList.map
              (fun addr => ⟨idText d.srcIdBytes, idText d.dstIdBytes, d.payload, addr⟩) ∧
          r'.table.deviceAddrs =
            r.table.deviceAddrs.insert (idText d.srcIdBytes) d.srcAddr)) := by
  cases h with
  | accepted hr ha =>
    rw [RelayLoop.accept_routes, RelayLoop.accept_hmacKey, RelayLoop.accept_admitted,
      RelayLoop.accept_forwarded, RelayLoop.accept_deviceAddrs]
    exact ⟨rfl, rfl, Or.inr ⟨hr, ha, rfl, rfl, rfl⟩⟩
  | _ => exact ⟨rfl, rfl, Or.inl ⟨rfl, rfl, rfl⟩⟩

end Loop

def dottedIp : IpAddr → String
  | .v4 a => String.ofList (dotted (toBe 4 a.toNat))
  | .v6 _ => ""

def keyedTable : ForwardingTable := (ForwardingTable.new none).setHmacKey [1]

end P2PMesh.Relay
