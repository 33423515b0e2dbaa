import P2PMesh.Base.CryptoSuite

namespace P2PMesh.Puncher
open P2PMesh.Base
set_option autoImplicit true

inductive PunchMessage where
  | hello (nonce : ByteArr 10)
  | helloAck (nonce : ByteArr 10)
  | ping (seq : UInt32)
  | pong (seq : UInt32)
  | data
deriving DecidableEq

def hexChar (n : UInt8) : UInt8 := if n ≤ 9 then 48 + n else 97 + (n - 10)

def hexEncode (bytes : Bytes) : Bytes :=
  bytes.flatMap (fun b : UInt8 => [hexChar ((b >>> 4) &&& 0x0F), hexChar (b &&& 0x0F)])

def hexVal (b : UInt8) : Option UInt8 :=
  if 48 ≤ b ∧ b ≤ 57 then some (b - 48)
  else if 97 ≤ b ∧ b ≤ 102 then some (b - 97 + 10)
  else if 65 ≤ b ∧ b ≤ 70 then some (b - 65 + 10)
  else none

def hexPairs : Bytes → Option Bytes
  | high :: low :: rest =>
    match hexVal high, hexVal low, hexPairs rest with
    | some h, some l, some out => some ((h <<< 4 ||| l) :: out)
    | _, _, _ => none
  | _ => some []

/-- Decodes into an array of `n` bytes; the text must have exactly two digits for each. -/
def hexDecode (n : Nat) (hex : Bytes) : Option (ByteArr n) :=
  if hex.length ≠ n * 2 then none else (hexPairs hex).map (ByteArr.ofSlice n)

section Hmac
variable (S : CryptoSuite)

/-- HMAC over the device id, the message type and the nonce; an empty key is an error. -/
def computePunchHmac (hmacKey : Bytes) (deviceId : ByteArr 16) (messageType : Bytes)
    (nonce : ByteArr 10) : Except String (ByteArr 32) :=
  if hmacKey.isEmpty then .error "Punch HMAC key not configured"
  else .ok (S.hmacSha256 hmacKey (deviceId.bytes ++ messageType ++ nonce.bytes))

def verifyPunchHmac (hmacKey : Bytes) (deviceId : ByteArr 16) (messageType : Bytes)
    (nonce : ByteArr 10) (tag : Bytes) : Bool :=
  (S.hmacSha256 hmacKey (deviceId.bytes ++ messageType ++ nonce.bytes)).bytes == tag

/-- A tag and the zero tag that stands for a failed computation. -/
def hmacTag (hmacKey : Bytes) (deviceId : ByteArr 16) (messageType : Bytes)
    (nonce : ByteArr 10) : ByteArr 32 :=
  match computePunchHmac S hmacKey deviceId messageType nonce with
  | .ok tag => tag
  | .error _ => .zero 32

def buildHelloPacketWithHmac (hmacKey : Bytes) (deviceId : ByteArr 16) (nonce : ByteArr 10) :
    Bytes :=
  ascii "HELLO" ++ hexEncode nonce.bytes ++
    (hmacTag S hmacKey deviceId (ascii "HELLO") nonce).bytes

def buildHelloAckPacketWithHmac (hmacKey : Bytes) (deviceId : ByteArr 16) (nonce : ByteArr 10) :
    Bytes :=
  ascii "HELLO_ACK" ++ hexEncode nonce.bytes ++
    (hmacTag S hmacKey deviceId (ascii "HELLO_ACK") nonce).bytes

/-- The nonce of a punching session; the candidates and timers play no part in its packets. -/
structure HolePuncher where
  ourNonce : ByteArr 10

def HolePuncher.buildHello (self : HolePuncher) (hmacKey : Bytes) (deviceId : ByteArr 16) :
    Bytes :=
  ascii "HELLO" ++ hexEncode self.ourNonce.bytes ++
    (hmacTag S hmacKey deviceId (ascii "HELLO") self.ourNonce).bytes

def HolePuncher.buildHelloAck (_self : HolePuncher) (peerNonce : ByteArr 10) (hmacKey : Bytes)
    (deviceId : ByteArr 16) : Bytes :=
  ascii "HELLO_ACK" ++ hexEncode peerNonce.bytes ++
    (hmacTag S hmacKey deviceId (ascii "HELLO_ACK") peerNonce).bytes

end Hmac

def buildHelloPacket (nonce : ByteArr 10) : Bytes := ascii "HELLO" ++ hexEncode nonce.bytes

def buildHelloAckPacket (nonce : ByteArr 10) : Bytes := ascii "HELLO_ACK" ++ hexEncode nonce.bytes

def buildPing (seq : UInt32) : Bytes := ascii "PING" ++ toBe 4 seq.toNat

def buildPong (seq : UInt32) : Bytes := ascii "PONG" ++ toBe 4 seq.toNat

def slice (data : Bytes) (start stop : Nat) : Bytes := (data.take stop).drop start

/-- The ten characters from an offset, which must be UTF-8, decoded as a nonce. -/
def nonceAt (data : Bytes) (offset : Nat) : Option (ByteArr 10) :=
  let hexStr := slice data offset (offset + 10)
  if ByteArray.validateUTF8 ⟨hexStr.toArray⟩ then hexDecode 10 hexStr else none

/-- The branches of both parsers after the HELLO messages. -/
def parseHeartbeat (data : Bytes) : PunchMessage :=
  let seq := UInt32.ofNat (ofBe (slice data 4 8))
  if (ascii "PONG").isPrefixOf data ∧ 8 ≤ data.length then .pong seq
  else if (ascii "PING").isPrefixOf data ∧ 8 ≤ data.length then .ping seq
  else .data

def parseMessage (S : CryptoSuite) (data hmacKey : Bytes) (deviceId : ByteArr 16) :
    Option PunchMessage :=
  if data.length < 5 then none
  else if (ascii "HELLO_ACK").isPrefixOf data ∧ 51 ≤ data.length then
    match nonceAt data 9 with
    | none => none
    | some nonce =>
      if verifyPunchHmac S hmacKey deviceId (ascii "HELLO_ACK") nonce (slice data 19 51) then
        some (.helloAck nonce)
      else none
  else if (ascii "HELLO").isPrefixOf data ∧ 47 ≤ data.length then
    match nonceAt data 5 with
    | none => none
    | some nonce =>
      if verifyPunchHmac S hmacKey deviceId (ascii "HELLO") nonce (slice data 15 47) then
        some (.hello nonce)
      else none
  else some (parseHeartbeat data)

def parseMessageUnauthenticated (data : Bytes) : Option PunchMessage :=
  if data.length < 5 then none
  else if (ascii "HELLO_ACK").isPrefixOf data ∧ 19 ≤ data.length then
    (nonceAt data 9).map .helloAck
  else if (ascii "HELLO").isPrefixOf data ∧ 15 ≤ data.length then
    (nonceAt data 5).map .hello
  else some (parseHeartbeat data)

theorem hexVal_hexChar (b : UInt8) :
    hexVal (hexChar ((b >>> 4) &&& 0x0F)) = some ((b >>> 4) &&& 0x0F) ∧
      hexVal (hexChar (b &&& 0x0F)) = some (b &&& 0x0F) ∧
      ((b >>> 4) &&& 0x0F) <<< 4 ||| (b &&& 0x0F) = b := by
  have h : ∀ v : BitVec 8, let b := UInt8.ofBitVec v
      hexVal (hexChar ((b >>> 4) &&& 0x0F)) = some ((b >>> 4) &&& 0x0F) ∧
        hexVal (hexChar (b &&& 0x0F)) = some (b &&& 0x0F) ∧
        ((b >>> 4) &&& 0x0F) <<< 4 ||| (b &&& 0x0F) = b := by
    decide +kernel
  exact h b.toBitVec

theorem hexPairs_hexEncode (bytes : Bytes) : hexPairs (hexEncode bytes) = some bytes := by
  induction bytes with
  | nil => rfl
  | cons b bytes ih =>
    obtain ⟨hh, hl, hb⟩ := hexVal_hexChar b
    change hexPairs (hexChar _ :: hexChar _ :: hexEncode bytes) = _
    simp only [hexPairs, hh, hl, ih, hb]

theorem hexEncode_length (bytes : Bytes) : (hexEncode bytes).length = bytes.length * 2 := by
  induction bytes with
  | nil => rfl
  | cons b bytes ih =>
    change (hexEncode bytes).length + 1 + 1 = (bytes.length + 1) * 2
    omega

theorem hexDecode_hexEncode (a : ByteArr n) : hexDecode n (hexEncode a.bytes) = some a := by
  have hl : (hexEncode a.bytes).length = n * 2 := by rw [hexEncode_length, a.length_eq]
  rw [hexDecode, if_neg (fun h => h hl), hexPairs_hexEncode, Option.map_some,
    ByteArr.ofSlice_bytes]

/-- The parsers cut out ten characters where a nonce of ten bytes needs twenty. -/
theorem nonceAt_eq_none (data : Bytes) (offset : Nat) : nonceAt data offset = none := by
  have hl : (slice data offset (offset + 10)).length ≤ 10 := by
    rw [slice, List.length_drop, List.length_take]
    omega
  have hd : hexDecode 10 (slice data offset (offset + 10)) = none := if_pos (by omega)
  rw [nonceAt, hd]
  exact ite_self _

theorem parseHeartbeat_ne (data : Bytes) (nonce : ByteArr 10) :
    parseHeartbeat data ≠ .hello nonce ∧ parseHeartbeat data ≠ .helloAck nonce := by
  simp only [parseHeartbeat]
  split
  · exact ⟨nofun, nofun⟩
  · split <;> exact ⟨nofun, nofun⟩

theorem parseMessage_ne_hello (S : CryptoSuite) (data key : Bytes) (id : ByteArr 16)
    (nonce : ByteArr 10) : parseMessage S data key id ≠ some (.hello nonce) ∧
      parseMessage S data key id ≠ some (.helloAck nonce) := by
  have hh := parseHeartbeat_ne data nonce
  simp only [parseMessage, nonceAt_eq_none, ne_eq]
  split
  · exact ⟨nofun, nofun⟩
  · split
    · exact ⟨nofun, nofun⟩
    · split
      · exact ⟨nofun, nofun⟩
      · simpa only [Option.some.injEq] using hh

theorem parseMessageUnauthenticated_ne_hello (data : Bytes) (nonce : ByteArr 10) :
    parseMessageUnauthenticated data ≠ some (.hello nonce) ∧
      parseMessageUnauthenticated data ≠ some (.helloAck nonce) := by
  have hh := parseHeartbeat_ne data nonce
  simp only [parseMessageUnauthenticated, nonceAt_eq_none, Option.map_none, ne_eq]
  split
  · exact ⟨nofun, nofun⟩
  · split
    · exact ⟨nofun, nofun⟩
    · split
      · exact ⟨nofun, nofun⟩
      · simpa only [Option.some.injEq] using hh

theorem seq_roundTrip (tag : Bytes) (ht : tag.length = 4) (seq : UInt32) :
    UInt32.ofNat (ofBe (slice (tag ++ toBe 4 seq.toNat) 4 8)) = seq := by
  have hs : slice (tag ++ toBe 4 seq.toNat) 4 8 = toBe 4 seq.toNat := by
    rw [slice, List.take_of_length_le (by simp [ht]), ← ht, List.drop_left]
  rw [hs, ofBe_toBe_of_lt seq.toNat_lt, UInt32.ofNat_toNat]

theorem parseMessage_of_heartbeat (S : CryptoSuite) {data : Bytes} (key : Bytes)
    (id : ByteArr 16) (hl : 5 ≤ data.length) (hh : (ascii "HELLO").isPrefixOf data = false)
    (ha : (ascii "HELLO_ACK").isPrefixOf data = false) :
    parseMessage S data key id = some (parseHeartbeat data) ∧
      parseMessageUnauthenticated data = some (parseHeartbeat data) := by
  simp only [parseMessage, parseMessageUnauthenticated, Nat.not_lt.mpr hl, hh, ha, false_and,
    ↓reduceIte, Bool.false_eq_true, and_self]

theorem parse_buildPing (S : CryptoSuite) (key : Bytes) (id : ByteArr 16) (seq : UInt32) :
    parseMessage S (buildPing seq) key id = some (.ping seq) ∧
      parseMessageUnauthenticated (buildPing seq) = some (.ping seq) := by
  have hl : (buildPing seq).length = 8 := by simp [buildPing, ascii]
  have hp : parseHeartbeat (buildPing seq) = .ping seq := by
    rw [parseHeartbeat, buildPing, seq_roundTrip (ascii "PING") rfl seq]
    rfl
  rw [← hp]
  exact parseMessage_of_heartbeat S key id (by omega) rfl rfl

theorem parse_buildPong (S : CryptoSuite) (key : Bytes) (id : ByteArr 16) (seq : UInt32) :
    parseMessage S (buildPong seq) key id = some (.pong seq) ∧
      parseMessageUnauthenticated (buildPong seq) = some (.pong seq) := by
  have hl : (buildPong seq).length = 8 := by simp [buildPong, ascii]
  have hp : parseHeartbeat (buildPong seq) = .pong seq := by
    rw [parseHeartbeat, buildPong, seq_roundTrip (ascii "PONG") rfl seq]
    rfl
  rw [← hp]
  exact parseMessage_of_heartbeat S key id (by omega) rfl rfl

inductive PacketKind where
  | hello
  | helloAck
  | helloPacketWithHmac
  | helloAckPacketWithHmac
  | helloPacket
  | helloAckPacket
  | ping
  | pong

/-- The parsers for a kind of packet give back what its builder was given. -/
def PacketKind.RoundTrips (S : CryptoSuite) (key : Bytes) (id : ByteArr 16) (nonce : ByteArr 10)
    (seq : UInt32) : PacketKind → Prop
  | .hello =>
    parseMessage S (HolePuncher.buildHello S ⟨nonce⟩ key id) key id = some (.hello nonce)
  | .helloAck => ∀ puncher : HolePuncher,
    parseMessage S (puncher.buildHelloAck S nonce key id) key id = some (.helloAck nonce)
  | .helloPacketWithHmac =>
    parseMessage S (buildHelloPacketWithHmac S key id nonce) key id = some (.hello nonce)
  | .helloAckPacketWithHmac =>
    parseMessage S (buildHelloAckPacketWithHmac S key id nonce) key id = some (.helloAck nonce)
  | .helloPacket => parseMessageUnauthenticated (buildHelloPacket nonce) = some (.hello nonce)
  | .helloAckPacket =>
    parseMessageUnauthenticated (buildHelloAckPacket nonce) = some (.helloAck nonce)
  | .ping => parseMessage S (buildPing seq) key id = some (.ping seq) ∧
    parseMessageUnauthenticated (buildPing seq) = some (.ping seq)
  | .pong => parseMessage S (buildPong seq) key id = some (.pong seq) ∧
    parseMessageUnauthenticated (buildPong seq) = some (.pong seq)

def PacketKind.Heartbeat : PacketKind → Prop
  | .ping | .pong => True
  | _ => False

/-- Heartbeats round-trip; no HELLO and no HELLO_ACK does, whatever its key, id and nonce. -/
theorem punch_packet_roundTrips_iff (S : CryptoSuite) (key : Bytes) (id : ByteArr 16)
    (nonce : ByteArr 10) (seq : UInt32) (kind : PacketKind) :
    kind.RoundTrips S key id nonce seq ↔ kind.Heartbeat := by
  cases kind with
  | hello => exact iff_of_false (parseMessage_ne_hello S _ key id nonce).1 nofun
  | helloAck =>
    exact iff_of_false (fun h => (parseMessage_ne_hello S _ key id nonce).2 (h ⟨nonce⟩)) nofun
  | helloPacketWithHmac => exact iff_of_false (parseMessage_ne_hello S _ key id nonce).1 nofun
  | helloAckPacketWithHmac => exact iff_of_false (parseMessage_ne_hello S _ key id nonce).2 nofun
  | helloPacket => exact iff_of_false (parseMessageUnauthenticated_ne_hello _ nonce).1 nofun
  | helloAckPacket => exact iff_of_false (parseMessageUnauthenticated_ne_hello _ nonce).2 nofun
  | ping => exact iff_of_true (parse_buildPing S key id seq) trivial
  | pong => exact iff_of_true (parse_buildPong S key id seq) trivial

/-- The 57 bytes of an authenticated HELLO are refused by the parser they were built for. -/
theorem hello_packet_refused :
    parseMessage arithmeticSuite (HolePuncher.buildHello arithmeticSuite ⟨.zero 10⟩ [1] (.zero 16))
      [1] (.zero 16) ≠ some (.hello (.zero 10)) :=
  (parseMessage_ne_hello arithmeticSuite _ _ _ _).1

end P2PMesh.Puncher
