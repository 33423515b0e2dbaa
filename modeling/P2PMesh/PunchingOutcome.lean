import P2PMesh.Punching

namespace P2PMesh.Puncher
open P2PMesh.Base
set_option autoImplicit true

/-- A list of candidates that passes the checks before the loop. -/
structure Accepted (peerCandidates : List Candidate) : Prop where
  nonempty : peerCandidates ≠ []
  length_le : peerCandidates.length ≤ maxPeerCandidates
  safe : ∀ candidate ∈ peerCandidates, isSafeTarget candidate.addr = true

def punchSession (hmacKey : Bytes) (peerId ourDeviceId : String)
    (peerCandidates : List Candidate) (timeout : Nat) (nonce : ByteArr 10) : PunchSession :=
  ⟨hmacKey, deviceIdBytes peerId, deviceIdBytes ourDeviceId, nonce, peerCandidates, timeout⟩

theorem executePunch_accepted (S : CryptoSuite) (hmacKey : Bytes) (peerId ourDeviceId : String)
    {peerCandidates : List Candidate} (h : Accepted peerCandidates) (timeout : Nat)
    (nonce : ByteArr 10) (rounds : List PunchRound) :
    executePunch S hmacKey peerId ourDeviceId peerCandidates timeout nonce rounds =
      (rounds.foldl (PunchLoop.round S
        (punchSession hmacKey peerId ourDeviceId peerCandidates timeout nonce)) .start).result := by
  have hempty : peerCandidates.isEmpty = false := List.isEmpty_eq_false_iff.mpr h.nonempty
  have hfind : peerCandidates.find? (fun c => !isSafeTarget c.addr) = none := by
    rw [List.find?_eq_none]
    intro candidate hmem
    rw [h.safe candidate hmem]
    exact Bool.noConfusion
  rw [executePunch, hempty, if_neg Bool.false_ne_true, if_neg (Nat.not_lt.mpr h.length_le), hfind]
  rfl

section Rounds
variable (S : CryptoSuite) (c : PunchSession)

/-- The rounds before the one in which the clock reaches the timeout. -/
def PunchSession.roundsInTime (rounds : List PunchRound) : Nat :=
  (rounds.takeWhile (fun r => r.elapsed < c.timeout)).length

/-- The rounds of HELLOs after which the budget counts as spent. -/
def PunchSession.roundsOfBudget : Nat :=
  (maxTotalPunchPackets + c.peerCandidates.length - 1) / c.peerCandidates.length

/-- What a loop that nothing answers has come to after some rounds. -/
structure PunchLoop.Unanswered (s : PunchLoop) (rounds : List PunchRound) : Prop where
  counted : s.sent.length = s.totalPacketsSent
  total : s.totalPacketsSent =
    c.peerCandidates.length * min (c.roundsInTime rounds) c.roundsOfBudget
  running : s.result = none ↔
    c.roundsInTime rounds = rounds.length ∧ rounds.length ≤ c.roundsOfBudget
  bestAddr : s.bestAddr = none
  failed : ∀ addr, s.result ≠ some (.ok addr)

end Rounds

section Unanswered
variable {S : CryptoSuite} {c : PunchSession}

theorem PunchLoop.handle_eq (s : PunchLoop) (received : Received) :
    s.handle S c received = s := by
  cases received with
  | datagram data srcAddr =>
    have hne := parseMessage_ne_hello S data c.hmacKey c.ourDevId
    simp only [PunchLoop.handle]
    split
    · next peerNonce hparse => exact ((hne peerNonce).1 hparse).elim
    · next ackNonce hparse => exact ((hne ackNonce).2 hparse).elim
    · rfl
  | socketError | timeout => rfl

theorem roundsInTime_concat (rounds : List PunchRound) (r : PunchRound) :
    c.roundsInTime (rounds ++ [r]) =
      if c.roundsInTime rounds = rounds.length ∧ r.elapsed < c.timeout then rounds.length + 1
      else c.roundsInTime rounds := by
  have happend : c.roundsInTime (rounds ++ [r]) =
      (if c.roundsInTime rounds = rounds.length then
        rounds ++ [r].takeWhile (fun r => r.elapsed < c.timeout)
      else rounds.takeWhile (fun r => r.elapsed < c.timeout)).length :=
    congrArg List.length List.takeWhile_append
  rw [happend]
  by_cases hall : c.roundsInTime rounds = rounds.length
  · by_cases ht : r.elapsed < c.timeout
    · rw [if_pos hall, if_pos ⟨hall, ht⟩, List.takeWhile_cons, decide_eq_true ht,
        List.length_append]
      rfl
    · rw [if_pos hall, if_neg (fun h => ht h.2), List.takeWhile_cons, decide_eq_false ht, hall,
        List.length_append]
      rfl
  · rw [if_neg hall, if_neg (fun h => hall h.1)]
    rfl

theorem roundsInTime_le (rounds : List PunchRound) : c.roundsInTime rounds ≤ rounds.length :=
  (List.takeWhile_sublist _).length_le

theorem roundsInTime_mono {l rounds : List PunchRound} (h : l <+: rounds) :
    c.roundsInTime l ≤ c.roundsInTime rounds := by
  obtain ⟨rest, rfl⟩ := h
  simp only [PunchSession.roundsInTime, List.takeWhile_append]
  split
  · next hall =>
    rw [hall, List.length_append]
    exact Nat.le_add_right _ _
  · exact Nat.le_refl _

theorem lt_roundsOfBudget_iff (hc : c.peerCandidates ≠ []) (m : Nat) :
    m < c.roundsOfBudget ↔ c.peerCandidates.length * m < maxTotalPunchPackets := by
  have hlen : 0 < c.peerCandidates.length := List.length_pos_iff.mpr hc
  rw [PunchSession.roundsOfBudget, Nat.lt_iff_add_one_le, Nat.le_div_iff_mul_le hlen, Nat.add_mul,
    Nat.one_mul, Nat.mul_comm]
  omega

theorem unanswered_start : PunchLoop.start.Unanswered c [] where
  counted := rfl
  total := by
    rw [PunchSession.roundsInTime, List.takeWhile_nil, List.length_nil, Nat.zero_min]
    rfl
  running := iff_of_true rfl ⟨rfl, Nat.zero_le _⟩
  bestAddr := rfl
  failed := by
    rintro addr ⟨⟩

theorem PunchLoop.Unanswered.round {s : PunchLoop} {rounds : List PunchRound}
    (hc : c.peerCandidates ≠ []) (h : s.Unanswered c rounds) (r : PunchRound) :
    (s.round S c r).Unanswered c (rounds ++ [r]) := by
  have hle := roundsInTime_le (c := c) rounds
  have hconcat := roundsInTime_concat (c := c) rounds r
  have hlength : (rounds ++ [r]).length = rounds.length + 1 := List.length_append
  rw [PunchLoop.round]
  split
  · next hsome =>
    -- the loop has ended, so time or budget has run out before
    have hended : ¬ (c.roundsInTime rounds = rounds.length ∧
        rounds.length ≤ c.roundsOfBudget) := by
      intro hrunning
      rw [h.running.mpr hrunning] at hsome
      cases hsome
    have hmin : min (c.roundsInTime (rounds ++ [r])) c.roundsOfBudget =
        min (c.roundsInTime rounds) c.roundsOfBudget := by
      rw [hconcat]
      split <;> omega
    refine ⟨h.counted, by rw [hmin, h.total], ?_, h.bestAddr, h.failed⟩
    rw [hlength, hconcat]
    refine iff_of_false (fun hnone => ?_) ?_
    · rw [hnone] at hsome
      cases hsome
    · split <;> omega
  · next hrunning =>
    have hnone : s.result = none := Option.not_isSome_iff_eq_none.mp hrunning
    obtain ⟨hall, hbudget⟩ := h.running.mp hnone
    have htotal : s.totalPacketsSent = c.peerCandidates.length * rounds.length := by
      rw [h.total, hall, Nat.min_eq_left hbudget]
    have hlt := lt_roundsOfBudget_iff hc rounds.length
    rw [← htotal] at hlt
    split
    · next htime =>
      have hsame : c.roundsInTime (rounds ++ [r]) = rounds.length := by
        rw [hconcat, if_neg (fun hin => Nat.not_lt.mpr htime hin.2), hall]
      rw [h.bestAddr]
      refine ⟨h.counted, by rw [hsame, h.total, hall], ?_, rfl, by rintro addr ⟨⟩⟩
      rw [hsame, hlength]
      exact iff_of_false (Option.some_ne_none _) (by omega)
    · next htime =>
      have hmore : c.roundsInTime (rounds ++ [r]) = rounds.length + 1 := by
        rw [hconcat, if_pos ⟨hall, Nat.lt_of_not_le htime⟩]
      split
      · next hspent =>
        refine ⟨h.counted, ?_, ?_, h.bestAddr, by rintro addr ⟨⟩⟩
        · rw [hmore, htotal]
          congr 1
          omega
        · rw [hmore, hlength]
          exact iff_of_false (Option.some_ne_none _) (by omega)
      · next hspent =>
        rw [PunchLoop.handle_eq]
        refine ⟨?_, ?_, ?_, h.bestAddr, h.failed⟩
        · rw [PunchLoop.sendHellos, List.length_append, List.length_map, h.counted]
        · rw [PunchLoop.sendHellos, hmore, htotal, Nat.min_eq_left (by omega), Nat.mul_add,
            Nat.mul_one]
        · rw [hmore, hlength]
          exact iff_of_true hnone (by omega)

theorem unanswered_run (hc : c.peerCandidates ≠ []) (rounds : List PunchRound) :
    (rounds.foldl (PunchLoop.round S c) .start).Unanswered c rounds := by
  induction rounds using List.reverseRecOn with
  | nil => exact unanswered_start
  | append_singleton rounds r ih =>
    rw [List.foldl_append]
    exact ih.round hc r

/-- The budget is looked at once a round, so the last round may go over it. -/
theorem sent_le_budget_iff (hc : c.peerCandidates ≠ []) (rounds : List PunchRound) :
    (rounds.foldl (PunchLoop.round S c) .start).sent.length ≤ maxTotalPunchPackets ↔
      c.peerCandidates.length ∣ maxTotalPunchPackets ∨
        c.roundsInTime rounds ≤ maxTotalPunchPackets / c.peerCandidates.length := by
  have h := unanswered_run (S := S) hc rounds
  have hlen : 0 < c.peerCandidates.length := List.length_pos_iff.mpr hc
  have hfull (m : Nat) : m ≤ maxTotalPunchPackets / c.peerCandidates.length ↔
      c.peerCandidates.length * m ≤ maxTotalPunchPackets := by
    rw [Nat.le_div_iff_mul_le hlen, Nat.mul_comm]
  rw [h.counted, h.total, ← hfull, min_le_iff, or_comm, hfull c.roundsOfBudget]
  apply or_congr_left
  have hlt := lt_roundsOfBudget_iff hc (maxTotalPunchPackets / c.peerCandidates.length)
  have hover := mt (lt_roundsOfBudget_iff hc c.roundsOfBudget).mpr (Nat.lt_irrefl _)
  constructor
  · intro hle
    exact ⟨c.roundsOfBudget, by omega⟩
  · rintro ⟨m, hm⟩
    rw [hm, Nat.mul_div_cancel_left m hlen, ← hm] at hlt
    rw [hm]
    apply Nat.mul_le_mul_left
    by_contra hmore
    have hless := hlt.mp (Nat.lt_of_not_le hmore)
    omega

end Unanswered

/-- The calls that keep within the budget are those with a number of candidates that divides it,
and those that time out before the round that would go over it. -/
theorem budget_kept_iff (S : CryptoSuite) {c : PunchSession} (h : Accepted c.peerCandidates)
    (rounds : List PunchRound) :
    (∀ l, l <+: rounds →
      (l.foldl (PunchLoop.round S c) .start).sent.length ≤ maxTotalPunchPackets) ↔
      c.peerCandidates.length ∣ maxTotalPunchPackets ∨
        c.roundsInTime rounds ≤ maxTotalPunchPackets / c.peerCandidates.length := by
  rw [← sent_le_budget_iff h.nonempty rounds]
  constructor
  · intro hall
    exact hall rounds (List.prefix_refl rounds)
  · intro hle l hl
    rw [sent_le_budget_iff h.nonempty] at hle ⊢
    exact hle.imp_right (Nat.le_trans (roundsInTime_mono hl))

/-- Candidates on public hosts. -/
def publicCandidates (count : Nat) : List Candidate :=
  (List.range count).map (fun i => ⟨⟨.v4 (0x08080800#32 + BitVec.ofNat 32 i), 4000⟩, "srflx", 0⟩)

/-- A call with a budget of its own that time never ends. -/
def publicSession (count : Nat) : PunchSession :=
  punchSession [1] "peer" "self" (publicCandidates count) 10000 (.zero 10)

def quietRounds (count : Nat) : List PunchRound := List.replicate count ⟨0, 0, .timeout⟩

theorem accepted_public_two : Accepted (publicSession 2).peerCandidates where
  nonempty := List.cons_ne_nil _ _
  length_le := by decide
  safe := by decide

theorem budget_kept_two :
    ((quietRounds 250).foldl (PunchLoop.round arithmeticSuite (publicSession 2))
      .start).sent.length ≤ maxTotalPunchPackets :=
  (budget_kept_iff arithmeticSuite accepted_public_two (quietRounds 250)).mpr
    (Or.inl (by decide)) _ (List.prefix_refl _)

/-- Three candidates get 167 rounds of HELLOs, 501 in all. -/
theorem budget_overrun :
    ¬ ∀ (S : CryptoSuite) (c : PunchSession), Accepted c.peerCandidates →
      ∀ rounds : List PunchRound,
        (rounds.foldl (PunchLoop.round S c) .start).sent.length ≤ maxTotalPunchPackets := by
  intro h
  have haccepted : Accepted (publicSession 3).peerCandidates :=
    ⟨List.cons_ne_nil _ _, by decide, by decide⟩
  have hle := h arithmeticSuite (publicSession 3) haccepted (quietRounds 167)
  rw [sent_le_budget_iff haccepted.nonempty] at hle
  revert hle
  decide +kernel

section Heard
variable (S : CryptoSuite) (c : PunchSession)

/-- The loop goes through the whole of the round. -/
def PunchLoop.Plays (s : PunchLoop) (r : PunchRound) : Prop :=
  s.result = none ∧ r.elapsed < c.timeout ∧ s.totalPacketsSent < maxTotalPunchPackets

instance decidablePlays (s : PunchLoop) (r : PunchRound) : Decidable (s.Plays c r) :=
  inferInstanceAs (Decidable (_ ∧ _))

/-- The datagrams that the loop processes, with their sources. -/
def PunchLoop.heard (s : PunchLoop) : List PunchRound → List (Bytes × SocketAddr)
  | [] => []
  | r :: rest =>
    let later := PunchLoop.heard (s.round S c r) rest
    if s.Plays c r then
      match r.received with
      | .datagram data srcAddr => (data, srcAddr) :: later
      | .socketError | .timeout => later
    else later

/-- An authenticated HELLO for this device: one that the peer builds with the key that both have,
or any other datagram that the loop takes for one. -/
def PunchSession.IsHello (data : Bytes) : Prop :=
  (c.hmacKey ≠ [] ∧ ∃ nonce, data = buildHelloPacketWithHmac S c.hmacKey c.ourDevId nonce) ∨
    ∃ nonce, parseMessage S data c.hmacKey c.ourDevId = some (.hello nonce)

/-- A HELLO_ACK for the nonce of this call. -/
def PunchSession.IsMatchingAck (data : Bytes) : Prop :=
  (c.hmacKey ≠ [] ∧ data = buildHelloAckPacketWithHmac S c.hmacKey c.ourDevId c.nonce) ∨
    parseMessage S data c.hmacKey c.ourDevId = some (.helloAck c.nonce)

/-- The result that a call owes to what it has processed: the source of a matching HELLO_ACK, or
else of the last HELLO; an error only where there was neither. -/
def PunchSession.Owes (heard : List (Bytes × SocketAddr)) :
    Except PunchError SocketAddr → Prop
  | .ok addr =>
    (∃ data, (data, addr) ∈ heard ∧ c.IsMatchingAck S data) ∨
      ((∀ e ∈ heard, ¬ c.IsMatchingAck S e.1) ∧
        ∃ before data after, heard = before ++ (data, addr) :: after ∧ c.IsHello S data ∧
          ∀ e ∈ after, ¬ c.IsHello S e.1)
  | .error _ => ∀ e ∈ heard, ¬ c.IsHello S e.1 ∧ ¬ c.IsMatchingAck S e.1

end Heard

/-- No call runs for more rounds than these. -/
def longestRun (rounds : Nat → PunchRound) : List PunchRound :=
  (List.range (maxTotalPunchPackets + 1)).map rounds

/-- What a call has processed when it ends. -/
def punchHeard (S : CryptoSuite) (c : PunchSession) (rounds : Nat → PunchRound) :
    List (Bytes × SocketAddr) :=
  PunchLoop.start.heard S c (longestRun rounds)

theorem longestRun_eq (rounds : Nat → PunchRound) :
    longestRun rounds = rounds 0 ::
      (List.range maxTotalPunchPackets).map (fun i => rounds (i + 1)) := by
  rw [longestRun, List.range_succ_eq_map, List.map_cons, List.map_map]
  rfl

theorem heard_eq_nil {S : CryptoSuite} {c : PunchSession} {rounds : List PunchRound}
    (h : ∀ r ∈ rounds, r.received = .timeout) (s : PunchLoop) : s.heard S c rounds = [] := by
  induction rounds generalizing s with
  | nil => rfl
  | cons r rest ih =>
    have hrest := ih (fun r hr => h r (List.mem_cons_of_mem _ hr)) (s.round S c r)
    rw [PunchLoop.heard, h r List.mem_cons_self, hrest]
    exact ite_self _

theorem mem_punchHeard {S : CryptoSuite} {c : PunchSession} {rounds : Nat → PunchRound}
    {data : Bytes} {srcAddr : SocketAddr} (htime : (rounds 0).elapsed < c.timeout)
    (hreceived : (rounds 0).received = .datagram data srcAddr) :
    (data, srcAddr) ∈ punchHeard S c rounds := by
  have hplays : PunchLoop.start.Plays c (rounds 0) := ⟨rfl, htime, by decide⟩
  rw [punchHeard, longestRun_eq, PunchLoop.heard, if_pos hplays, hreceived]
  exact List.mem_cons_self

theorem executePunch_fails (S : CryptoSuite) (hmacKey : Bytes) (peerId ourDeviceId : String)
    {peerCandidates : List Candidate} (h : Accepted peerCandidates) (timeout : Nat)
    (nonce : ByteArr 10) (rounds : Nat → PunchRound) :
    ∃ e, executePunch S hmacKey peerId ourDeviceId peerCandidates timeout nonce
      (longestRun rounds) = some (.error e) := by
  have hlong : maxTotalPunchPackets < (longestRun rounds).length := by
    rw [longestRun, List.length_map, List.length_range]
    exact Nat.lt_succ_self _
  have hreturns := executePunch_returns S hmacKey peerId ourDeviceId peerCandidates timeout nonce
    hlong
  obtain ⟨result, hresult⟩ := Option.isSome_iff_exists.mp hreturns
  cases result with
  | error e => exact ⟨e, hresult⟩
  | ok addr =>
    rw [executePunch_accepted S hmacKey peerId ourDeviceId h] at hresult
    exact ((unanswered_run h.nonempty _).failed addr hresult).elim

/-- A call that is let into its loop ends with an error whatever it has heard, so it owes nobody
anything exactly when neither a HELLO nor a matching HELLO_ACK has come. -/
theorem success_kept_iff (S : CryptoSuite) (hmacKey : Bytes) (peerId ourDeviceId : String)
    {peerCandidates : List Candidate} (h : Accepted peerCandidates) (timeout : Nat)
    (nonce : ByteArr 10) (rounds : Nat → PunchRound) :
    let c := punchSession hmacKey peerId ourDeviceId peerCandidates timeout nonce
    (∃ result, executePunch S hmacKey peerId ourDeviceId peerCandidates timeout nonce
      (longestRun rounds) = some result ∧ c.Owes S (punchHeard S c rounds) result) ↔
      ∀ e ∈ punchHeard S c rounds, ¬ c.IsHello S e.1 ∧ ¬ c.IsMatchingAck S e.1 := by
  intro c
  obtain ⟨e, he⟩ := executePunch_fails S hmacKey peerId ourDeviceId h timeout nonce rounds
  constructor
  · rintro ⟨result, hresult, howes⟩
    rw [he, Option.some_inj] at hresult
    rw [← hresult] at howes
    exact howes
  · intro hnone
    exact ⟨.error e, he, hnone⟩

/-- A HELLO of the peer in the first round, and then nothing. -/
def helloFirst (i : Nat) : PunchRound :=
  match i with
  | 0 => ⟨0, 0, .datagram (buildHelloPacketWithHmac arithmeticSuite [1] (deviceIdBytes "self")
      (.zero 10)) ⟨.v4 0x08080800#32, 4000⟩⟩
  | _ + 1 => ⟨10000, 10000, .timeout⟩

theorem success_kept_quiet :
    ∃ result, executePunch arithmeticSuite [1] "peer" "self" (publicCandidates 2) 10000 (.zero 10)
      (longestRun (fun _ => ⟨0, 0, .timeout⟩)) = some result ∧
        (publicSession 2).Owes arithmeticSuite
          (punchHeard arithmeticSuite (publicSession 2) (fun _ => ⟨0, 0, .timeout⟩)) result := by
  refine (success_kept_iff arithmeticSuite [1] "peer" "self" accepted_public_two 10000 (.zero 10)
    (fun _ => ⟨0, 0, .timeout⟩)).mpr ?_
  have hnothing :
      punchHeard arithmeticSuite (publicSession 2) (fun _ => ⟨0, 0, .timeout⟩) = [] := by
    apply heard_eq_nil
    intro r hr
    obtain ⟨i, -, rfl⟩ := List.mem_map.mp hr
    rfl
  intro e he
  exact absurd (hnothing ▸ he) List.not_mem_nil

/-- The HELLO of the peer is dropped, half of its nonce being cut off, and the call fails. -/
theorem hello_lost :
    ¬ ∀ (S : CryptoSuite) (hmacKey : Bytes) (peerId ourDeviceId : String)
      (peerCandidates : List Candidate), Accepted peerCandidates →
      ∀ (timeout : Nat) (nonce : ByteArr 10) (rounds : Nat → PunchRound),
        let c := punchSession hmacKey peerId ourDeviceId peerCandidates timeout nonce
        (∃ e ∈ punchHeard S c rounds, c.IsHello S e.1) →
          ∃ addr, executePunch S hmacKey peerId ourDeviceId peerCandidates timeout nonce
            (longestRun rounds) = some (.ok addr) := by
  intro h
  have hhello : (publicSession 2).IsHello arithmeticSuite (buildHelloPacketWithHmac
      arithmeticSuite [1] (deviceIdBytes "self") (.zero 10)) :=
    Or.inl ⟨List.cons_ne_nil _ _, .zero 10, rfl⟩
  obtain ⟨addr, hok⟩ := h arithmeticSuite [1] "peer" "self" (publicCandidates 2)
    accepted_public_two 10000 (.zero 10) helloFirst
    ⟨_, mem_punchHeard (by decide) rfl, hhello⟩
  obtain ⟨e, herror⟩ := executePunch_fails arithmeticSuite [1] "peer" "self" accepted_public_two
    10000 (.zero 10) helloFirst
  cases Option.some.inj (herror.symm.trans hok)

end P2PMesh.Puncher
