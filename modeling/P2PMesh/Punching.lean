import Mathlib.Data.List.Induction
import P2PMesh.Base.Net
import P2PMesh.Base.Run
import P2PMesh.PunchPacket

namespace P2PMesh.Puncher
open P2PMesh.Base
set_option autoImplicit true

def maxPeerCandidates : Nat := 10

def maxTotalPunchPackets : Nat := 500

def isSafeTarget (addr : SocketAddr) : Bool :=
  match addr.ip with
  | .v4 ip => ip != 0#32 && ip != 0xffffffff#32 && ip >>> 28 != 0xe#32 && ip >>> 24 != 127#32
  | .v6 ip => ip != 0#128 && ip >>> 120 != 0xff#128 && ip != 1#128

structure Candidate where
  addr : SocketAddr
  candidateType : String
  priority : Nat
deriving DecidableEq

inductive PunchError where
  | noPeerCandidates
  | tooManyPeerCandidates (count : Nat)
  | unsafeTarget (addr : SocketAddr)
  | timedOut (elapsed : Nat)
  | budgetExceeded
deriving DecidableEq

/-- The error texts, over the display of an address and of a duration. -/
def PunchError.text (showAddr : SocketAddr → String) (showDuration : Nat → String) :
    PunchError → String
  | .noPeerCandidates => "No peer candidates to punch"
  | .tooManyPeerCandidates count =>
    s!"Too many peer candidates: {count} (max {maxPeerCandidates})"
  | .unsafeTarget addr => "Unsafe target address rejected: " ++ showAddr addr
  | .timedOut elapsed => "Hole punch timed out after " ++ showDuration elapsed
  | .budgetExceeded => s!"Punch packet budget exceeded ({maxTotalPunchPackets})"

inductive Received where
  | datagram (data : Bytes) (srcAddr : SocketAddr)
  | socketError
  | timeout

/-- What one pass of the loop observes: two readings of the clock and the socket. -/
structure PunchRound where
  elapsed : Nat
  elapsedAtReport : Nat
  received : Received

structure PunchSession where
  hmacKey : Bytes
  peerDevId : ByteArr 16
  ourDevId : ByteArr 16
  nonce : ByteArr 10
  peerCandidates : List Candidate
  timeout : Nat

structure PunchLoop where
  totalPacketsSent : Nat
  bestAddr : Option SocketAddr
  sent : List (SocketAddr × Bytes)
  result : Option (Except PunchError SocketAddr)

def PunchLoop.start : PunchLoop := ⟨0, none, [], none⟩

/-- The first 16 bytes of a device id, padded with zeros. -/
def deviceIdBytes (id : String) : ByteArr 16 := .ofSlice 16 id.toUTF8.data.toList

section Loop
variable (S : CryptoSuite) (c : PunchSession)

/-- A HELLO to every candidate; failed sends count as well. -/
def PunchLoop.sendHellos (s : PunchLoop) : PunchLoop :=
  let helloPacket := buildHelloPacketWithHmac S c.hmacKey c.peerDevId c.nonce
  { s with
    sent := s.sent ++ c.peerCandidates.map (fun candidate => (candidate.addr, helloPacket))
    totalPacketsSent := s.totalPacketsSent + c.peerCandidates.length }

def PunchLoop.handle (s : PunchLoop) : Received → PunchLoop
  | .datagram data srcAddr =>
    match parseMessage S data c.hmacKey c.ourDevId with
    | some (.hello peerNonce) =>
      let ack := buildHelloAckPacketWithHmac S c.hmacKey c.peerDevId peerNonce
      { s with
        sent := s.sent ++ [(srcAddr, ack)]
        totalPacketsSent := s.totalPacketsSent + 1
        bestAddr := some srcAddr }
    | some (.helloAck ackNonce) =>
      if ackNonce = c.nonce then { s with result := some (.ok srcAddr) } else s
    | _ => s
  | .socketError => s
  | .timeout => s

def PunchLoop.round (s : PunchLoop) (r : PunchRound) : PunchLoop :=
  if s.result.isSome then s
  else if c.timeout ≤ r.elapsed then
    match s.bestAddr with
    | some addr => { s with result := some (.ok addr) }
    | none => { s with result := some (.error (.timedOut r.elapsedAtReport)) }
  else if maxTotalPunchPackets ≤ s.totalPacketsSent then
    { s with result := some (.error .budgetExceeded) }
  else (s.sendHellos S c).handle S c r.received

end Loop

/-- `none` while the loop is still running after the given rounds. -/
def executePunch (S : CryptoSuite) (hmacKey : Bytes) (peerId ourDeviceId : String)
    (peerCandidates : List Candidate) (timeout : Nat) (nonce : ByteArr 10)
    (rounds : List PunchRound) : Option (Except PunchError SocketAddr) :=
  if peerCandidates.isEmpty then some (.error .noPeerCandidates)
  else if maxPeerCandidates < peerCandidates.length then
    some (.error (.tooManyPeerCandidates peerCandidates.length))
  else
    match peerCandidates.find? (fun c => !isSafeTarget c.addr) with
    | some c => some (.error (.unsafeTarget c.addr))
    | none =>
      (rounds.foldl (PunchLoop.round S
        ⟨hmacKey, deviceIdBytes peerId, deviceIdBytes ourDeviceId, nonce, peerCandidates, timeout⟩)
        .start).result

section Termination
variable {S : CryptoSuite} {c : PunchSession}

theorem PunchLoop.handle_total (s : PunchLoop) (received : Received) :
    s.totalPacketsSent ≤ (s.handle S c received).totalPacketsSent := by
  cases received with
  | datagram data srcAddr =>
    simp only [PunchLoop.handle]
    split
    · exact Nat.le_succ _
    · split <;> exact Nat.le_refl _
    · exact Nat.le_refl _
  | socketError | timeout => exact Nat.le_refl _

/-- A pass that does not end the loop spends at least one packet of the budget. -/
theorem PunchLoop.round_spends (hc : c.peerCandidates ≠ []) (s : PunchLoop) (r : PunchRound)
    (h : (s.round S c r).result = none) :
    s.totalPacketsSent < (s.round S c r).totalPacketsSent ∧
      s.totalPacketsSent < maxTotalPunchPackets ∧ s.result = none := by
  have hlen : 0 < c.peerCandidates.length := List.length_pos_iff.mpr hc
  unfold PunchLoop.round at h ⊢
  split at h
  · next hs =>
    rw [h] at hs
    cases hs
  · next hs =>
    split at h
    · split at h <;> cases h
    · next ht =>
      split at h
      · cases h
      · next hb =>
        rw [if_neg ht, if_neg hb]
        have hle := (s.sendHellos S c).handle_total (S := S) (c := c) r.received
        have hsent : (s.sendHellos S c).totalPacketsSent =
            s.totalPacketsSent + c.peerCandidates.length := rfl
        have hnone : s.result = none := Option.not_isSome_iff_eq_none.mp hs
        rw [if_neg hs]
        exact ⟨by omega, by omega, hnone⟩

theorem PunchLoop.rounds_spend (hc : c.peerCandidates ≠ []) (rounds : List PunchRound)
    (h : (rounds.foldl (PunchLoop.round S c) .start).result = none) :
    rounds.length ≤ (rounds.foldl (PunchLoop.round S c) .start).totalPacketsSent ∧
      (rounds ≠ [] → rounds.length ≤ maxTotalPunchPackets) := by
  induction rounds using List.reverseRecOn with
  | nil => exact ⟨Nat.le_refl _, fun hn => (hn rfl).elim⟩
  | append_singleton rounds r ih =>
    rw [List.foldl_append] at h ⊢
    obtain ⟨hlt, hbudget, hnone⟩ := PunchLoop.round_spends hc _ r h
    obtain ⟨hle, -⟩ := ih hnone
    rw [List.length_append]
    exact ⟨Nat.lt_of_le_of_lt hle hlt, fun _ => Nat.lt_of_le_of_lt hle hbudget⟩

end Termination

/-- The loop ends: more rounds than the packet budget always give a result. -/
theorem executePunch_returns (S : CryptoSuite) (hmacKey : Bytes) (peerId ourDeviceId : String)
    (peerCandidates : List Candidate) (timeout : Nat) (nonce : ByteArr 10)
    {rounds : List PunchRound} (h : maxTotalPunchPackets < rounds.length) :
    (executePunch S hmacKey peerId ourDeviceId peerCandidates timeout nonce rounds).isSome := by
  rw [executePunch]
  split
  · rfl
  · next hc =>
    split
    · rfl
    · split
      · rfl
      · by_contra hn
        have hne : peerCandidates ≠ [] := fun he => hc (List.isEmpty_iff.mpr he)
        have hs := PunchLoop.rounds_spend hne rounds (Option.not_isSome_iff_eq_none.mp hn)
        have hlen := hs.2 (List.ne_nil_of_length_pos (by omega))
        omega

end P2PMesh.Puncher
