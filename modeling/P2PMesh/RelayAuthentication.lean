import P2PMesh.Base.Run
import P2PMesh.Relay

namespace P2PMesh.Relay
open P2PMesh.Base
set_option autoImplicit true

section Interference
variable (S : CryptoSuite)

/-- A call of the control plane, or a datagram that the table takes for authentic. -/
def RelayOp.authentic (t : ForwardingTable) : RelayOp → Bool
  | .datagram d => t.authentic S d
  | _ => true

variable {S} {overflowChecks : Bool} {showIp : IpAddr → String}

theorem RelayLoop.step_hmacKey (r : RelayLoop) (op : RelayOp) :
    (r.step S overflowChecks showIp op).table.hmacKey = r.table.hmacKey := by
  cases op with
  | datagram d => exact (r.receive_turn d).cases.2.1
  | registerDevice deviceId addr => rfl
  | unregisterDevice deviceId => rfl
  | addRoute srcDevice dstDevice =>
    simp only [RelayLoop.step, ForwardingTable.addRoute]
    split <;> rfl
  | removeRoute srcDevice dstDevice => rfl

theorem RelayLoop.run_hmacKey (r : RelayLoop) (ops : List RelayOp) :
    (r.run S overflowChecks showIp ops).table.hmacKey = r.table.hmacKey := by
  induction ops generalizing r with
  | nil => rfl
  | cons op ops ih =>
    rw [RelayLoop.run, List.foldl_cons]
    exact (ih _).trans (RelayLoop.step_hmacKey r op)

theorem RelayLoop.step_unauthentic (r : RelayLoop) {op : RelayOp}
    (h : op.authentic S r.table = false) : r.step S overflowChecks showIp op = r := by
  cases op with
  | datagram d =>
    have ha : r.table.authentic S d = false := h
    apply RelayLoop.receive_refused
    rintro ⟨-, hd⟩
    rw [ha] at hd
    cases hd
  | _ => cases h

theorem RelayLoop.run_filter {t : ForwardingTable} {r : RelayLoop}
    (hr : r.table.hmacKey = t.hmacKey) (ops : List RelayOp) :
    r.run S overflowChecks showIp (ops.filter (RelayOp.authentic S t)) =
      r.run S overflowChecks showIp ops := by
  induction ops generalizing r with
  | nil => rfl
  | cons op ops ih =>
    have hop : op.authentic S t = op.authentic S r.table := by
      cases op with
      | datagram d => exact authentic_of_key hr.symm d
      | _ => rfl
    have hstep := @RelayLoop.step_hmacKey S overflowChecks showIp r op
    cases ha : op.authentic S t with
    | true =>
      rw [List.filter_cons_of_pos ha, RelayLoop.run, RelayLoop.run, List.foldl_cons,
        List.foldl_cons]
      exact ih (hstep.trans hr)
    | false =>
      rw [List.filter_cons_of_neg (Bool.eq_false_iff.mp ha), ih hr, RelayLoop.run, RelayLoop.run,
        List.foldl_cons, RelayLoop.step_unauthentic r (hop.symm.trans ha)]

theorem RelayLoop.step_forwarded (r : RelayLoop) (op : RelayOp) :
    (r.step S overflowChecks showIp op).forwarded = r.forwarded ∨
      ∃ d addr, op = .datagram d ∧ r.table.authentic S d = true ∧
        r.table.routes[(idText d.srcIdBytes, idText d.dstIdBytes)]? = some addr ∧
        (r.step S overflowChecks showIp op).forwarded =
          r.forwarded ++ [⟨idText d.srcIdBytes, idText d.dstIdBytes, d.payload, addr⟩] := by
  cases op with
  | datagram d =>
    obtain ⟨-, -, ⟨-, hf, -⟩ | ⟨-, ha, -, hf, -⟩⟩ :=
      (@RelayLoop.receive_turn S overflowChecks showIp r d).cases
    · exact Or.inl hf
    · cases hl : r.table.lookup (idText d.srcIdBytes) (idText d.dstIdBytes) with
      | none =>
        rw [hl, Option.toList_none, List.map_nil, List.append_nil] at hf
        exact Or.inl hf
      | some addr =>
        rw [hl, Option.toList_some, List.map_singleton] at hf
        exact Or.inr ⟨d, addr, rfl, ha, hl, hf⟩
  | _ => exact Or.inl rfl

theorem RelayLoop.run_forwarded (t : ForwardingTable) (ops : List RelayOp) :
    ∀ f ∈ (RelayLoop.run S overflowChecks showIp (.start t) ops).forwarded,
      ∃ before d after, ops = before ++ .datagram d :: after ∧ t.authentic S d = true ∧
        f.payload = d.payload ∧ f.srcId = idText d.srcIdBytes ∧ f.dstId = idText d.dstIdBytes ∧
        (RelayLoop.run S overflowChecks showIp (.start t) before).table.routes[(f.srcId, f.dstId)]?
          = some f.addr := by
  induction ops using List.reverseRecOn with
  | nil => exact fun f hf => (List.not_mem_nil hf).elim
  | append_singleton ops op ih =>
    intro f hf
    rw [RelayLoop.run, List.foldl_concat] at hf
    obtain he | ⟨d, addr, hop, ha, hl, he⟩ :=
      RelayLoop.step_forwarded (RelayLoop.run S overflowChecks showIp (.start t) ops) op
    all_goals
      rw [RelayLoop.run] at he
      rw [he] at hf
    · obtain ⟨before, d, after, hops, hrest⟩ := ih f hf
      refine ⟨before, d, after ++ [op], ?_, hrest⟩
      rw [hops, List.append_assoc, List.cons_append]
    · rcases List.mem_append.mp hf with hold | hnew
      · obtain ⟨before, d, after, hops, hrest⟩ := ih f hold
        refine ⟨before, d, after ++ [op], ?_, hrest⟩
        rw [hops, List.append_assoc, List.cons_append]
      · cases List.mem_singleton.mp hnew
        rw [authentic_of_key (RelayLoop.run_hmacKey (.start t) ops)] at ha
        exact ⟨ops, d, [], by rw [hop], ha, rfl, rfl, rfl, hl⟩

/-- Datagrams without a right tag leave no trace, and what is sent on is the payload of one
with a right tag, to the address that the route of its two ids leads to at that moment. -/
theorem unauthenticated_datagrams_do_not_interfere (t : ForwardingTable) (ops : List RelayOp) :
    RelayLoop.run S overflowChecks showIp (.start t) (ops.filter (RelayOp.authentic S t)) =
        RelayLoop.run S overflowChecks showIp (.start t) ops ∧
      ∀ f ∈ (RelayLoop.run S overflowChecks showIp (.start t) ops).forwarded,
        ∃ before d after, ops = before ++ .datagram d :: after ∧ t.authentic S d = true ∧
          f.payload = d.payload ∧ f.srcId = idText d.srcIdBytes ∧
          f.dstId = idText d.dstIdBytes ∧
          (RelayLoop.run S overflowChecks showIp (.start t) before).table.routes[
            (f.srcId, f.dstId)]? = some f.addr :=
  ⟨RelayLoop.run_filter rfl ops, RelayLoop.run_forwarded t ops⟩

end Interference

section Replay
variable (S : CryptoSuite) (overflowChecks : Bool) (showIp : IpAddr → String)

/-- A datagram that the holder of its source id makes and sends from its address. -/
structure Sent where
  srcId : ByteArr 16
  dstId : ByteArr 16
  payload : Bytes
  addr : SocketAddr
deriving DecidableEq

/-- Its header: both ids and the tag, which covers nothing else. -/
def Sent.header (key : Bytes) (e : Sent) : Bytes :=
  e.srcId.bytes ++ e.dstId.bytes ++ (S.hmacSha256 key (e.srcId.bytes ++ e.dstId.bytes)).bytes

/-- The relay and the datagrams that holders have sent towards it, all of them observed. -/
structure Network where
  relay : RelayLoop
  sent : List Sent

def Network.start (t : ForwardingTable) : Network := ⟨.start t, []⟩

/-- A holder sends, or the relay receives what the network delivers, or the control plane calls. -/
inductive NetworkOp where
  | send (e : Sent)
  | deliver (d : Received)
  | unregisterDevice (deviceId : String)
  | addRoute (srcDevice dstDevice : String)
  | removeRoute (srcDevice dstDevice : String)

def Network.step (n : Network) : NetworkOp → Network
  | .send e => { n with sent := n.sent ++ [e] }
  | .deliver d => { n with relay := n.relay.receive S overflowChecks showIp d }
  | .unregisterDevice deviceId =>
    { n with relay := n.relay.step S overflowChecks showIp (.unregisterDevice deviceId) }
  | .addRoute srcDevice dstDevice =>
    { n with relay := n.relay.step S overflowChecks showIp (.addRoute srcDevice dstDevice) }
  | .removeRoute srcDevice dstDevice =>
    { n with relay := n.relay.step S overflowChecks showIp (.removeRoute srcDevice dstDevice) }

def Network.run (n : Network) (ops : List NetworkOp) : Network :=
  ops.foldl (Network.step S overflowChecks showIp) n

/-- Whoever delivers cannot forge: a tag that verifies is one for ids that a holder has sent.
The address, the payload and the moment are free. -/
def Network.Unforged (n : Network) : NetworkOp → Prop
  | .deliver d => n.relay.table.authentic S d = true →
      ∃ e ∈ n.sent, e.srcId.bytes = d.srcIdBytes ∧ e.dstId.bytes = d.dstIdBytes
  | _ => True

instance decidableUnforged (n : Network) : ∀ op, Decidable (n.Unforged S op)
  | .deliver d => inferInstanceAs (Decidable (n.relay.table.authentic S d = true →
      ∃ e ∈ n.sent, e.srcId.bytes = d.srcIdBytes ∧ e.dstId.bytes = d.dstIdBytes))
  | .send _ | .unregisterDevice _ | .addRoute _ _ | .removeRoute _ _ => .isTrue trivial

/-- A run against an attacker that observes, resends and redirects but cannot forge. -/
def Network.Attack (t : ForwardingTable) (ops : List NetworkOp) : Prop :=
  Guarded (Network.step S overflowChecks showIp) (Network.Unforged S) (.start t) ops

/-- Every registered address is one that the holder of the id sent from, and every payload
sent on is one that the holder of its source id sent. -/
def Network.SourceAuthentic (n : Network) : Prop :=
  (∀ deviceId addr, n.relay.table.deviceAddrs[deviceId]? = some addr →
    ∃ e ∈ n.sent, idText e.srcId.bytes = deviceId ∧ e.addr = addr) ∧
  ∀ f ∈ n.relay.forwarded, ∃ e ∈ n.sent, idText e.srcId.bytes = f.srcId ∧ e.payload = f.payload

/-- Every registered address is that of a datagram under a header which the holder of the id
sent, and every payload sent on came under a header which the holder of its source id sent to
its destination id. -/
def Network.HeaderAuthentic (key : Bytes) (n : Network) : Prop :=
  (∀ deviceId addr, n.relay.table.deviceAddrs[deviceId]? = some addr →
    ∃ e ∈ n.sent, idText e.srcId.bytes = deviceId ∧
      ∃ d ∈ n.relay.admitted, d.data.take headerSize = e.header S key ∧ d.srcAddr = addr) ∧
  ∀ f ∈ n.relay.forwarded, ∃ e ∈ n.sent,
    idText e.srcId.bytes = f.srcId ∧ idText e.dstId.bytes = f.dstId ∧
      ∃ d ∈ n.relay.admitted, d.data.take headerSize = e.header S key ∧ d.payload = f.payload

variable {S overflowChecks showIp}

theorem authentic_header {t : ForwardingTable} (h : t.authentic S d = true) :
    d.data.take headerSize = d.srcIdBytes ++ d.dstIdBytes ++
      (S.hmacSha256 t.hmacKey (d.srcIdBytes ++ d.dstIdBytes)).bytes := by
  rw [ForwardingTable.authentic, ForwardingTable.verifyHmac, Bool.and_eq_true] at h
  obtain ⟨-, hv⟩ := h
  split at hv
  · cases hv
  · rw [beq_iff_eq.mp hv, Received.srcIdBytes, Received.dstIdBytes, Received.hmacTag,
      ← List.take_add, ← List.take_add]
    rfl

/-- What holds of the relay at every point of a run: entries and payloads come from admitted
datagrams, and the header of each of these was sent by a holder. -/
structure Network.Sound (key : Bytes) (n : Network) : Prop where
  key_eq : n.relay.table.hmacKey = key
  registered : ∀ deviceId addr, n.relay.table.deviceAddrs[deviceId]? = some addr →
    ∃ d ∈ n.relay.admitted, idText d.srcIdBytes = deviceId ∧ d.srcAddr = addr
  forwarded : ∀ f ∈ n.relay.forwarded, ∃ d ∈ n.relay.admitted,
    idText d.srcIdBytes = f.srcId ∧ idText d.dstIdBytes = f.dstId ∧ d.payload = f.payload
  admitted : ∀ d ∈ n.relay.admitted, ∃ e ∈ n.sent, e.srcId.bytes = d.srcIdBytes ∧
    e.dstId.bytes = d.dstIdBytes ∧ d.data.take headerSize = e.header S key

theorem Network.Sound.headerAuthentic {n : Network} (h : n.Sound (S := S) key) :
    n.HeaderAuthentic S key := by
  constructor
  · intro deviceId addr ha
    obtain ⟨d, hd, htext, haddr⟩ := h.registered deviceId addr ha
    obtain ⟨e, he, hsrc, -, hheader⟩ := h.admitted d hd
    exact ⟨e, he, by rw [hsrc, htext], d, hd, hheader, haddr⟩
  · intro f hf
    obtain ⟨d, hd, hsrcText, hdstText, hpay⟩ := h.forwarded f hf
    obtain ⟨e, he, hsrc, hdst, hheader⟩ := h.admitted d hd
    exact ⟨e, he, by rw [hsrc, hsrcText], by rw [hdst, hdstText], d, hd, hheader, hpay⟩

theorem Network.Sound.start {t : ForwardingTable} (ht : t.deviceAddrs = ∅) :
    (Network.start t).Sound (S := S) t.hmacKey where
  key_eq := rfl
  registered deviceId addr ha := by
    rw [Network.start, RelayLoop.start, ht, Std.TreeMap.getElem?_emptyc] at ha
    cases ha
  forwarded f hf := (List.not_mem_nil hf).elim
  admitted d hd := (List.not_mem_nil hd).elim

theorem Network.Sound.send {n : Network} (h : n.Sound (S := S) key) (e : Sent) :
    Network.Sound (S := S) key { n with sent := n.sent ++ [e] } where
  key_eq := h.key_eq
  registered := h.registered
  forwarded := h.forwarded
  admitted d hd := by
    obtain ⟨e', he', hrest⟩ := h.admitted d hd
    exact ⟨e', List.mem_append_left [e] he', hrest⟩

theorem Network.Sound.control {n : Network} (h : n.Sound (S := S) key) {r : RelayLoop}
    (hk : r.table.hmacKey = n.relay.table.hmacKey) (ha : r.admitted = n.relay.admitted)
    (hf : r.forwarded = n.relay.forwarded)
    (hr : ∀ (deviceId : String) addr, r.table.deviceAddrs[deviceId]? = some addr →
      n.relay.table.deviceAddrs[deviceId]? = some addr) :
    Network.Sound (S := S) key { n with relay := r } where
  key_eq := hk.trans h.key_eq
  registered deviceId addr he := by
    rw [ha]
    exact h.registered deviceId addr (hr deviceId addr he)
  forwarded := by
    rw [ha, hf]
    exact h.forwarded
  admitted := by
    rw [ha]
    exact h.admitted

theorem Network.Sound.deliver {n : Network} (h : n.Sound (S := S) key) {d : Received}
    (hu : n.Unforged S (.deliver d)) :
    Network.Sound (S := S) key
      { n with relay := n.relay.receive S overflowChecks showIp d } := by
  obtain ⟨-, hk, ⟨ha, hf, hd⟩ | ⟨-, hauth, ha, hf, hd⟩⟩ :=
    (@RelayLoop.receive_turn S overflowChecks showIp n.relay d).cases
  · apply h.control hk ha hf
    rw [hd]
    exact fun deviceId addr he => he
  · constructor
    · exact hk.trans h.key_eq
    · intro deviceId addr he
      rw [hd, getElem?_insert_eq] at he
      rw [ha]
      split at he
      · next hc =>
        cases he
        exact ⟨d, List.mem_concat_self, hc, rfl⟩
      · obtain ⟨d', hd', hrest⟩ := h.registered deviceId addr he
        exact ⟨d', List.mem_append_left [d] hd', hrest⟩
    · intro f hfor
      rw [hf] at hfor
      rw [ha]
      rcases List.mem_append.mp hfor with hold | hnew
      · obtain ⟨d', hd', hrest⟩ := h.forwarded f hold
        exact ⟨d', List.mem_append_left [d] hd', hrest⟩
      · obtain ⟨addr, -, he⟩ := List.mem_map.mp hnew
        cases he
        exact ⟨d, List.mem_concat_self, rfl, rfl, rfl⟩
    · intro d' hd'
      rw [ha] at hd'
      rcases List.mem_append.mp hd' with hold | hnew
      · exact h.admitted d' hold
      · cases List.mem_singleton.mp hnew
        obtain ⟨e, he, hsrc, hdst⟩ := hu hauth
        refine ⟨e, he, hsrc, hdst, ?_⟩
        rw [authentic_header hauth, Sent.header, hsrc, hdst, h.key_eq]

theorem Network.Sound.step {n : Network} (h : n.Sound (S := S) key) {op : NetworkOp}
    (hu : n.Unforged S op) :
    (n.step S overflowChecks showIp op).Sound (S := S) key := by
  cases op with
  | send e => exact h.send e
  | deliver d => exact h.deliver hu
  | unregisterDevice deviceId =>
    apply h.control (r := n.relay.step S overflowChecks showIp (.unregisterDevice deviceId))
      rfl rfl rfl
    intro deviceId' addr he
    simp only [RelayLoop.step, ForwardingTable.unregisterDevice] at he
    rw [getElem?_erase_eq] at he
    split at he
    · cases he
    · exact he
  | addRoute srcDevice dstDevice =>
    apply h.control (r := n.relay.step S overflowChecks showIp (.addRoute srcDevice dstDevice))
    · exact RelayLoop.step_hmacKey n.relay (.addRoute srcDevice dstDevice)
    · rfl
    · rfl
    · intro deviceId addr he
      simp only [RelayLoop.step, ForwardingTable.addRoute] at he
      split at he <;> exact he
  | removeRoute srcDevice dstDevice =>
    exact h.control (r := n.relay.step S overflowChecks showIp (.removeRoute srcDevice dstDevice))
      rfl rfl rfl (fun deviceId addr he => he)

/-- Against an attacker that cannot forge, what the relay registers and sends on came under a
header which the holder of the source id sent: the address and the payload are not covered. -/
theorem source_headers_authentic {t : ForwardingTable} (ht : t.deviceAddrs = ∅)
    (ops : List NetworkOp) (hattack : Network.Attack S overflowChecks showIp t ops) :
    (Network.run S overflowChecks showIp (.start t) ops).HeaderAuthentic S t.hmacKey := by
  have hsound := Guarded.invariant (I := Network.Sound (S := S) t.hmacKey) hattack
    (Network.Sound.start ht) (fun n op h hu => h.step hu)
  exact hsound.headerAuthentic

end Replay

def hostAddr (host : Nat) : SocketAddr := ⟨.v4 (.ofNat 32 host), 4000⟩

def aliceMessage : Sent :=
  ⟨.ofSlice 16 (utf8 "alice".toList), .ofSlice 16 (utf8 "bob".toList), [1, 2], hostAddr 1⟩

def bobMessage : Sent :=
  ⟨.ofSlice 16 (utf8 "bob".toList), .ofSlice 16 (utf8 "alice".toList), [3, 4], hostAddr 2⟩

/-- A datagram under the header of a message, with a payload and an address of another's choice. -/
def underHeader (e : Sent) (payload : Bytes) (addr : SocketAddr) : Received :=
  ⟨e.header arithmeticSuite [1] ++ payload, addr, 0, 0, some (.ofNat payload.length)⟩

/-- Bob's message arrives; the header of Alice's arrives from a third host. -/
def replayRun : List NetworkOp :=
  [.send bobMessage, .deliver (underHeader bobMessage [3, 4] (hostAddr 2)),
    .addRoute "alice" "bob", .send aliceMessage,
    .deliver (underHeader aliceMessage [6, 6, 6] (hostAddr 3))]

theorem replayRun_attack : Network.Attack arithmeticSuite true dottedIp keyedTable replayRun := by
  unfold Network.Attack
  decide +kernel

theorem source_headers_authentic_replayRun :
    (Network.run arithmeticSuite true dottedIp (.start keyedTable) replayRun).HeaderAuthentic
      arithmeticSuite keyedTable.hmacKey :=
  source_headers_authentic rfl replayRun replayRun_attack

/-- A header sent on from another host takes over the address of its source id and carries a
payload that nobody of that id sent. -/
theorem replayed_header_takes_over :
    ¬ ∀ (t : ForwardingTable) (ops : List NetworkOp), t.deviceAddrs = ∅ →
      Network.Attack arithmeticSuite true dottedIp t ops →
      (Network.run arithmeticSuite true dottedIp (.start t) ops).SourceAuthentic := by
  intro h
  obtain ⟨haddr, -⟩ := h keyedTable replayRun rfl replayRun_attack
  have hentry : (Network.run arithmeticSuite true dottedIp (.start keyedTable)
      replayRun).relay.table.deviceAddrs["alice"]? = some (hostAddr 3) := by
    decide +kernel
  have hsent : ∀ e ∈ (Network.run arithmeticSuite true dottedIp (.start keyedTable)
      replayRun).sent, e.addr ≠ hostAddr 3 := by
    decide +kernel
  obtain ⟨e, he, -, hea⟩ := haddr "alice" (hostAddr 3) hentry
  exact hsent e he hea

end P2PMesh.Relay
