import P2PMesh.Base.Run
import P2PMesh.Tunnel

namespace P2PMesh.Ice
open P2PMesh.Base P2PMesh.Puncher P2PMesh.Tunnel
set_option autoImplicit true

def magicCookie : Bytes := [0x21, 0x12, 0xA4, 0x42]

/-- A Binding Success Response with the transaction id of the request. -/
def bindingResponse (transactionId : Bytes) : Bytes :=
  [0x01, 0x01] ++ [0x00, 0x00] ++ magicCookie ++ transactionId

def handleBindingRequest (data : Bytes) : Option Bytes :=
  if data.length < 20 then none
  else if slice data 4 8 ≠ magicCookie then none
  else some (bindingResponse (slice data 8 20))

/-- What the handler looks at: the length and the cookie, never the message type. -/
def Answerable (data : Bytes) : Prop := 20 ≤ data.length ∧ slice data 4 8 = magicCookie

instance (data : Bytes) : Decidable (Answerable data) := inferInstanceAs (Decidable (_ ∧ _))

/-- The message type of a Binding Request. -/
def IsBindingRequest (data : Bytes) : Prop := data.take 2 = [0x00, 0x01]

instance (data : Bytes) : Decidable (IsBindingRequest data) :=
  inferInstanceAs (Decidable (_ = _))

theorem handleBindingRequest_some (h : Answerable data) :
    handleBindingRequest data = some (bindingResponse (slice data 8 20)) := by
  rw [handleBindingRequest, if_neg (Nat.not_lt.mpr h.1), if_neg (not_not.mpr h.2)]

theorem handleBindingRequest_none (h : ¬ Answerable data) : handleBindingRequest data = none := by
  rw [handleBindingRequest]
  by_cases hl : data.length < 20
  · rw [if_pos hl]
  · rw [if_neg hl, if_pos]
    exact fun hc => h ⟨Nat.le_of_not_lt hl, hc⟩

theorem bindingResponse_answerable (h : Answerable data) :
    Answerable (bindingResponse (slice data 8 20)) := by
  have hl : (slice data 8 20).length = 12 := by
    rw [slice, List.length_drop, List.length_take, Nat.min_eq_left h.1]
  constructor
  · rw [bindingResponse, List.length_append, hl]
    exact Nat.le_refl 20
  · rfl

section Demultiplexing

/-- Where a datagram goes in a receiver that puts the STUN check before the punch parser. -/
inductive Handler where
  | answer (response : Bytes)
  | punch (message : PunchMessage)
  | decapsulate
  | ignore
deriving DecidableEq

def demultiplex (data : Bytes) : Handler :=
  match handleBindingRequest data with
  | some response => .answer response
  | none =>
    match parseMessageUnauthenticated data with
    | some .data => .decapsulate
    | some message => .punch message
    | none => .ignore

/-- The packet is data for the punch parser and not answered, so it comes to decapsulation. -/
def ReachesTunnel (wire : Bytes) : Prop :=
  parseMessageUnauthenticated wire = some .data ∧ handleBindingRequest wire = none ∧
    demultiplex wire = .decapsulate

instance (wire : Bytes) : Decidable (ReachesTunnel wire) :=
  inferInstanceAs (Decidable (_ ∧ _ ∧ _))

/-- The nonce begins with no punch message type and has no cookie in its middle. -/
def NonceClear (nonce : ByteArr 12) : Prop :=
  nonce.bytes.take 5 ≠ ascii "HELLO" ∧ nonce.bytes.take 4 ≠ ascii "PONG" ∧
    nonce.bytes.take 4 ≠ ascii "PING" ∧ slice nonce.bytes 4 8 ≠ magicCookie

instance (nonce : ByteArr 12) : Decidable (NonceClear nonce) :=
  inferInstanceAs (Decidable (_ ∧ _ ∧ _ ∧ _))

theorem isPrefixOf_iff_take (tag data : Bytes) :
    tag.isPrefixOf data = true ↔ data.take tag.length = tag := by
  rw [List.isPrefixOf_iff_prefix, List.prefix_iff_eq_take, eq_comm]

theorem parse_data_iff (hl : 19 ≤ data.length) :
    parseMessageUnauthenticated data = some .data ↔
      data.take 5 ≠ ascii "HELLO" ∧ data.take 4 ≠ ascii "PONG" ∧ data.take 4 ≠ ascii "PING" := by
  have hhello := isPrefixOf_iff_take (ascii "HELLO") data
  have hpong := isPrefixOf_iff_take (ascii "PONG") data
  have hping := isPrefixOf_iff_take (ascii "PING") data
  have hshort : ¬ data.length < 5 := by omega
  rw [parseMessageUnauthenticated, if_neg hshort, nonceAt_eq_none, nonceAt_eq_none]
  by_cases hh : (ascii "HELLO").isPrefixOf data = true
  · have hlong : (ascii "HELLO").isPrefixOf data = true ∧ 15 ≤ data.length := ⟨hh, by omega⟩
    rw [if_pos hlong, Option.map_none, Option.map_none, ite_self]
    constructor
    · exact fun hd => (Option.some_ne_none _ hd.symm).elim
    · exact fun hd => (hd.1 (hhello.mp hh)).elim
  · have hack : ¬ ((ascii "HELLO_ACK").isPrefixOf data = true ∧ 19 ≤ data.length) := by
      rintro ⟨ha, -⟩
      apply hh
      rw [List.isPrefixOf_iff_prefix] at ha ⊢
      exact List.IsPrefix.trans ⟨ascii "_ACK", rfl⟩ ha
    rw [if_neg hack, if_neg (fun h => hh h.1), Option.some.injEq, parseHeartbeat]
    have hlong : 8 ≤ data.length := by omega
    have hh' : data.take 5 ≠ ascii "HELLO" := fun h => hh (hhello.mpr h)
    by_cases hp : (ascii "PONG").isPrefixOf data = true
    · rw [if_pos ⟨hp, hlong⟩]
      constructor
      · exact fun hd => PunchMessage.noConfusion hd
      · exact fun hd => (hd.2.1 (hpong.mp hp)).elim
    · have hp' : data.take 4 ≠ ascii "PONG" := fun h => hp (hpong.mpr h)
      rw [if_neg (fun h => hp h.1)]
      by_cases hq : (ascii "PING").isPrefixOf data = true
      · rw [if_pos ⟨hq, hlong⟩]
        constructor
        · exact fun hd => PunchMessage.noConfusion hd
        · exact fun hd => (hd.2.2 (hping.mp hq)).elim
      · rw [if_neg (fun h => hq h.1)]
        exact ⟨fun _ => ⟨hh', hp', fun h => hq (hping.mpr h)⟩, fun _ => rfl⟩

theorem demultiplex_decapsulate (hs : handleBindingRequest data = none)
    (hp : parseMessageUnauthenticated data = some .data) : demultiplex data = .decapsulate := by
  rw [demultiplex, hs, hp]

section Wire
variable {S : CryptoSuite} {key : SessionKey} {nonce : ByteArr 12} {payload wire : Bytes}

theorem reachesTunnel_of_wire (hS : S.Lawful) (h : encrypt S key nonce payload = .ok wire) :
    ReachesTunnel wire ↔ NonceClear nonce := by
  obtain ⟨c, hc, hw⟩ := encrypt_eq_ok h
  have hn := nonce.length_eq
  have hl : 28 ≤ wire.length := by
    rw [hw, List.length_append, hn, hS.encrypt_length _ _ _ _ hc]
    omega
  have htake : ∀ k, k ≤ 12 → wire.take k = nonce.bytes.take k := by
    intro k hk
    rw [hw, List.take_append_of_le_length]
    rw [hn]
    exact hk
  have hslice : slice wire 4 8 = slice nonce.bytes 4 8 := by
    rw [slice, slice, htake 8 (by omega)]
  have hparse := @parse_data_iff wire (by omega)
  rw [htake 5 (by omega), htake 4 (by omega)] at hparse
  constructor
  · rintro ⟨hp, hb, -⟩
    obtain ⟨hhello, hpong, hping⟩ := hparse.mp hp
    refine ⟨hhello, hpong, hping, fun hcookie => ?_⟩
    rw [handleBindingRequest_some ⟨by omega, hslice.trans hcookie⟩] at hb
    cases hb
  · rintro ⟨hhello, hpong, hping, hcookie⟩
    have hp := hparse.mpr ⟨hhello, hpong, hping⟩
    have hb : handleBindingRequest wire = none := by
      apply handleBindingRequest_none
      exact fun ha => hcookie (hslice.symm.trans ha.2)
    exact ⟨hp, hb, demultiplex_decapsulate hb hp⟩

theorem encapsulate_wire {t t' : P2PTunnel}
    (h : t.encapsulate S overflowChecks nonce payload = some (some wire, t')) :
    encrypt S t.sessionKey nonce payload = .ok wire := by
  rw [P2PTunnel.encapsulate] at h
  split at h
  · cases h
  · next he =>
    split at h
    · cases h
    · cases h
      exact he

/-- For every key and payload, an encrypted packet comes to decapsulation exactly where its
nonce cannot be taken for a control message. -/
theorem encrypted_packet_reaches_tunnel_iff (hS : S.Lawful) (nonce : ByteArr 12)
    (payload wire : Bytes) :
    (∀ key, encrypt S key nonce payload = .ok wire →
      (ReachesTunnel wire ↔ NonceClear nonce)) ∧
    ∀ overflowChecks (t t' : P2PTunnel),
      t.encapsulate S overflowChecks nonce payload = some (some wire, t') →
      (ReachesTunnel wire ↔ NonceClear nonce) :=
  ⟨fun _ h => reachesTunnel_of_wire hS h,
    fun _ _ _ h => reachesTunnel_of_wire hS (encapsulate_wire h)⟩

end Wire

def wireOf (nonce : ByteArr 12) (payload : Bytes) : Bytes :=
  (encrypt arithmeticSuite ⟨.zero 32⟩ nonce payload).toOption.getD []

theorem encrypted_packet_reaches_tunnel_iff_zeroNonce :
    ReachesTunnel (wireOf (.zero 12) [1, 2, 3]) :=
  ((encrypted_packet_reaches_tunnel_iff arithmeticSuite_lawful (.zero 12) [1, 2, 3] _).1
    ⟨.zero 32⟩ rfl).mpr (by decide)

/-- A packet whose nonce has the cookie in its middle is answered as a STUN request. -/
theorem packets_taken_for_control :
    ¬ ∀ key nonce payload wire, encrypt arithmeticSuite key nonce payload = .ok wire →
      ReachesTunnel wire := by
  intro h
  have hcookie := h ⟨.zero 32⟩ (.ofSlice 12 ([0, 0, 0, 0] ++ magicCookie)) [1, 2, 3] _ rfl
  have hanswered : ¬ ReachesTunnel
      (wireOf (.ofSlice 12 ([0, 0, 0, 0] ++ magicCookie)) [1, 2, 3]) := by
    decide +kernel
  exact hanswered hcookie

end Demultiplexing

section Exchange

structure Datagram where
  data : Bytes
  src : SocketAddr
  dst : SocketAddr
deriving DecidableEq

/-- The datagrams in flight between two nodes, with the replies sent so far. -/
structure Exchange where
  inFlight : List Datagram
  replies : Nat

def Exchange.start (inFlight : List Datagram) : Exchange := ⟨inFlight, 0⟩

inductive ExchangeOp where
  | deliver (index : Nat)
  | lose (index : Nat)

variable (a b : SocketAddr)

/-- One of the two nodes has the address. -/
def IsNode (addr : SocketAddr) : Prop := addr = a ∨ addr = b

instance (addr : SocketAddr) : Decidable (IsNode a b addr) :=
  inferInstanceAs (Decidable (_ ∨ _))

/-- The main loop of a node answers a STUN datagram towards its source and does nothing else
with it; the reply takes the place of the datagram among those in flight. -/
def Exchange.step (x : Exchange) : ExchangeOp → Exchange
  | .deliver index =>
    match x.inFlight[index]? with
    | none => x
    | some d =>
      if IsNode a b d.dst then
        match handleBindingRequest d.data with
        | some response => ⟨x.inFlight.set index ⟨response, d.dst, d.src⟩, x.replies + 1⟩
        | none => { x with inFlight := x.inFlight.eraseIdx index }
      else { x with inFlight := x.inFlight.eraseIdx index }
  | .lose index => { x with inFlight := x.inFlight.eraseIdx index }

/-- Every endless run from these datagrams sends finitely many replies. -/
def Exchange.Settles (inFlight : List Datagram) : Prop :=
  ∀ schedule : ℕ → ExchangeOp, ∃ bound, ∀ n,
    (stateAt (Exchange.step a b) (.start inFlight) schedule n).replies ≤ bound

/-- The datagram is answered by a node towards a node. -/
def Datagram.Bounces (d : Datagram) : Prop :=
  Answerable d.data ∧ IsNode a b d.dst ∧ IsNode a b d.src

instance (d : Datagram) : Decidable (d.Bounces a b) := inferInstanceAs (Decidable (_ ∧ _ ∧ _))

variable {a b}

/-- What a delivery does: nothing, a loss, or an answer in place of the datagram. -/
theorem Exchange.step_cases (x : Exchange) (op : ExchangeOp) :
    x.step a b op = x ∨
    (∃ index, x.step a b op = { x with inFlight := x.inFlight.eraseIdx index }) ∨
    ∃ index d, x.inFlight[index]? = some d ∧ IsNode a b d.dst ∧ Answerable d.data ∧
      x.step a b op = ⟨x.inFlight.set index
        ⟨bindingResponse (slice d.data 8 20), d.dst, d.src⟩, x.replies + 1⟩ := by
  cases op with
  | lose index => exact Or.inr (Or.inl ⟨index, rfl⟩)
  | deliver index =>
    rw [Exchange.step]
    cases hd : x.inFlight[index]? with
    | none => exact Or.inl rfl
    | some d =>
      dsimp only
      by_cases hn : IsNode a b d.dst
      · rw [if_pos hn]
        by_cases ha : Answerable d.data
        · rw [handleBindingRequest_some ha]
          exact Or.inr (Or.inr ⟨index, d, hd, hn, ha, rfl⟩)
        · rw [handleBindingRequest_none ha]
          exact Or.inr (Or.inl ⟨index, rfl⟩)
      · rw [if_neg hn]
        exact Or.inr (Or.inl ⟨index, rfl⟩)

theorem Exchange.step_bounce {x : Exchange} {d : Datagram} (hd : x.inFlight[index]? = some d)
    (hb : d.Bounces a b) :
    ∃ d', d'.Bounces a b ∧ (x.step a b (.deliver index)).inFlight[index]? = some d' ∧
      (x.step a b (.deliver index)).replies = x.replies + 1 := by
  obtain ⟨ha, hdst, hsrc⟩ := hb
  refine ⟨⟨bindingResponse (slice d.data 8 20), d.dst, d.src⟩,
    ⟨bindingResponse_answerable ha, hsrc, hdst⟩, ?_, ?_⟩
  all_goals
    simp only [Exchange.step, hd, if_pos hdst, handleBindingRequest_some ha]
  rw [List.getElem?_set_self]
  exact (List.getElem?_eq_some_iff.mp hd).1

theorem Exchange.bounce_forever {inFlight : List Datagram} (hd : inFlight[index]? = some d)
    (hb : d.Bounces a b) (n : ℕ) :
    ∃ d', d'.Bounces a b ∧
      (stateAt (Exchange.step a b) (.start inFlight) (fun _ => .deliver index) n).inFlight[index]?
        = some d' ∧
      (stateAt (Exchange.step a b) (.start inFlight) (fun _ => .deliver index) n).replies = n := by
  induction n with
  | zero => exact ⟨d, hb, hd, rfl⟩
  | succ n ih =>
    obtain ⟨d', hb', hd', hr⟩ := ih
    obtain ⟨d'', hb'', hd'', hr'⟩ := Exchange.step_bounce hd' hb'
    exact ⟨d'', hb'', hd'', by rw [stateAt, hr', hr]⟩

/-- The datagrams in flight that a node will receive. -/
def Exchange.pending (a b : SocketAddr) (x : Exchange) : Nat :=
  x.inFlight.countP (fun d => IsNode a b d.dst)

/-- Without a datagram that bounces, each reply uses up one that a node will receive. -/
structure Exchange.Spends (a b : SocketAddr) (total : Nat) (x : Exchange) : Prop where
  quiet : ∀ d ∈ x.inFlight, ¬ d.Bounces a b
  spent : x.replies + x.pending a b ≤ total

theorem Exchange.Spends.step {x : Exchange} (h : x.Spends a b total) (op : ExchangeOp) :
    (x.step a b op).Spends a b total := by
  obtain he | ⟨index, he⟩ | ⟨index, d, hd, hn, ha, he⟩ := @Exchange.step_cases a b x op
  all_goals rw [he]
  · exact h
  · constructor
    · exact fun d hd => h.quiet d (List.mem_of_mem_eraseIdx hd)
    · have hle := (List.eraseIdx_sublist x.inFlight index).countP_le
        (p := fun d => decide (IsNode a b d.dst))
      have hs := h.spent
      simp only [Exchange.pending] at hs ⊢
      omega
  · have hsrc : ¬ IsNode a b d.src := fun hsrc =>
      h.quiet d (List.mem_of_getElem? hd) ⟨ha, hn, hsrc⟩
    constructor
    · intro d' hd'
      rcases List.mem_or_eq_of_mem_set hd' with hold | hnew
      · exact h.quiet d' hold
      · rw [hnew]
        exact fun hb => hsrc hb.2.1
    · obtain ⟨hlt, hget⟩ := List.getElem?_eq_some_iff.mp hd
      have hcount := List.countP_set (p := fun d => decide (IsNode a b d.dst))
        (a := ⟨bindingResponse (slice d.data 8 20), d.dst, d.src⟩) hlt
      have hpos : 0 < x.pending a b := by
        rw [Exchange.pending, List.countP_pos_iff]
        exact ⟨d, List.mem_of_getElem? hd, decide_eq_true hn⟩
      have hs := h.spent
      rw [hget, decide_eq_true hn, decide_eq_false hsrc] at hcount
      simp only [Exchange.pending] at hs hpos ⊢
      rw [hcount]
      simp only [↓reduceIte, Bool.false_eq_true]
      omega

theorem Exchange.settles_iff (inFlight : List Datagram) :
    Exchange.Settles a b inFlight ↔ ∀ d ∈ inFlight, ¬ d.Bounces a b := by
  constructor
  · intro hs d hd hb
    obtain ⟨index, hindex⟩ := List.mem_iff_getElem?.mp hd
    obtain ⟨bound, hbound⟩ := hs (fun _ => .deliver index)
    obtain ⟨-, -, -, hr⟩ := Exchange.bounce_forever hindex hb (bound + 1)
    have hle := hbound (bound + 1)
    omega
  · intro hq schedule
    refine ⟨(Exchange.start inFlight).pending a b, fun n => ?_⟩
    have hstart : (Exchange.start inFlight).Spends a b ((Exchange.start inFlight).pending a b) :=
      ⟨hq, Nat.le_of_eq (Nat.zero_add _)⟩
    have hspends := stateAt_invariant (I := Exchange.Spends a b _) hstart
      (fun x op h => h.step op) schedule n
    exact Nat.le_trans (Nat.le_add_right _ _) hspends.spent

/-- The handler answers Binding Requests and everything else that carries the cookie; two nodes
stop answering exactly where nothing answerable in flight to one claims to come from one. -/
theorem binding_replies_settle_iff (a b : SocketAddr) :
    (∀ data, (∀ response, handleBindingRequest data = some response → IsBindingRequest data) ↔
      (IsBindingRequest data ∨ ¬ Answerable data)) ∧
    ∀ inFlight, Exchange.Settles a b inFlight ↔ ∀ d ∈ inFlight, ¬ d.Bounces a b := by
  constructor
  · intro data
    constructor
    · intro h
      by_cases ha : Answerable data
      · exact Or.inl (h _ (handleBindingRequest_some ha))
      · exact Or.inr ha
    · rintro (hr | ha) response h
      · exact hr
      · rw [handleBindingRequest_none ha] at h
        cases h
  · exact Exchange.settles_iff

end Exchange

/-- A response is answered like a request, and one that claims to come from the other node goes
back and forth for ever. -/
theorem spoofed_response_bounces :
    (¬ ∀ data response, handleBindingRequest data = some response → IsBindingRequest data) ∧
      ¬ ∀ (a b : SocketAddr) inFlight, Exchange.Settles a b inFlight := by
  constructor
  · intro h
    have hrequest := h (bindingResponse (List.replicate 12 7)) _ rfl
    have htype : ¬ IsBindingRequest (bindingResponse (List.replicate 12 7)) := by decide
    exact htype hrequest
  · intro h
    have hsettles := h ⟨.v4 1, 4000⟩ ⟨.v4 2, 4000⟩
      [⟨bindingResponse (List.replicate 12 7), ⟨.v4 1, 4000⟩, ⟨.v4 2, 4000⟩⟩]
    apply Exchange.settles_iff _ |>.mp hsettles _ List.mem_cons_self
    decide +kernel

end P2PMesh.Ice
