import P2PMesh.SignalingService

namespace P2PMesh.ControlSignaling
open P2PMesh.Base P2PMesh.Signaling
set_option autoImplicit true

/-- The hub of the control plane with what devices have told about themselves. -/
structure Hub where
  connections : SignalingHub
  candidates : Std.TreeMap Uuid (List Json)
  natTypes : Std.TreeMap Uuid Json
  publicAddrs : Std.TreeMap Uuid Json

/-- A message that has been read as an object: of two members with one name the later counts. -/
abbrev Message := Std.TreeMap String Json

def Message.get (msg : Message) (key : String) (default : Json) : Json := (msg[key]?).getD default

/-- What a message has been answered with, passed on as, and what the loss of a connection has
told the other devices of its user. -/
inductive Sent where
  | reply (message : Json)
  | relay (target : Uuid) (message : Json)
  | notify (deviceId : Uuid) (message : Json)

def Sent.isReply : Sent → Bool
  | .reply _ => true
  | _ => false

def Sent.isRelay : Sent → Bool
  | .relay .. => true
  | _ => false

def repliesIn (sent : List Sent) : Nat := sent.countP Sent.isReply

def relaysIn (sent : List Sent) : Nat := sent.countP Sent.isRelay

/-- Which of the replies and relays of one message raise, and what the other tasks do to the hub
while a send is awaited. -/
structure World where
  replyFails : Nat → Bool
  relayFails : Nat → Bool
  during : Nat → Hub → Hub

structure Progress where
  hub : Hub
  sent : List Sent

def Progress.send (w : World) (item : Sent) (p : Progress) : Progress :=
  ⟨w.during p.sent.length p.hub, p.sent ++ [item]⟩

/-- Where the handling of a message stands: it goes on, has returned, or has raised. -/
inductive Flow where
  | next (p : Progress)
  | returned (p : Progress)
  | raised (p : Progress)

def Flow.progress : Flow → Progress
  | .next p | .returned p | .raised p => p

/-- A block that is entered under its condition, where the handling still goes on. -/
def Flow.on (f : Flow) (c : Prop) [Decidable c] (block : Progress → Flow) : Flow :=
  match f with
  | .next p => if c then block p else .next p
  | done => done

def errorMessage (text : String) : Json := .obj [("type", .str "error"), ("message", .str text)]

def deviceStatus (deviceId : Uuid) (online : Bool) : Json :=
  .obj [("type", .str "device_status"), ("device_id", .str (uuidText deviceId)),
    ("online", .bool online)]

def signalMessage (signalType : String) (fromDeviceId toDeviceId : Uuid) (payload : Json) : Json :=
  .obj [("type", .str signalType), ("from", .str (uuidText fromDeviceId)),
    ("to", .str (uuidText toDeviceId)), ("payload", payload)]

/-- Python's truth of a value; `nonzero` says it of a number with a fraction or an exponent. -/
def truthy (nonzero : String → Bool) : Json → Bool
  | .null => false
  | .bool b => b
  | .int n => n ≠ 0
  | .real text => nonzero text
  | .str s => s ≠ ""
  | .arr items => !items.isEmpty
  | .obj fields => !fields.isEmpty

section Hub

def Hub.storeCandidates (h : Hub) (deviceId : Uuid) (candidates : List Json) : Hub :=
  { h with candidates := h.candidates.insert deviceId candidates }

def Hub.getPeerCandidates (h : Hub) (requestingDevice peerDevice : Uuid) : Option (List Json) :=
  match h.connections.connection requestingDevice, h.connections.connection peerDevice with
  | some requesting, some peer =>
    if requesting.userId ≠ peer.userId then none else some ((h.candidates[peerDevice]?).getD [])
  | _, _ => none

def Hub.updateDeviceNat (h : Hub) (deviceId : Uuid) (natType publicAddr : Json) : Hub :=
  { h with
    natTypes := h.natTypes.insert deviceId natType
    publicAddrs := h.publicAddrs.insert deviceId publicAddr }

variable (w : World)

/-- A device that is not connected any more is passed over, and a send that raises is logged. -/
def broadcastToUser (userId : Uuid) (message : Json) (p : Progress) : Progress :=
  (p.hub.connections.devicesOf userId).toList.foldl (fun p deviceId =>
    if (p.hub.connections.connection deviceId).isSome then p.send w (.notify deviceId message)
    else p) p

def disconnect (deviceId : Uuid) (p : Progress) : Progress :=
  match p.hub.connections.connection deviceId with
  | none => p
  | some conn =>
    let connections := p.hub.connections.disconnect deviceId
    broadcastToUser w conn.userId (deviceStatus deviceId false)
      { p with hub := { p.hub with connections := connections } }

/-- Whether the target has received the signal, and the hub after it. -/
def relaySignal (fromDeviceId toDeviceId : Uuid) (signalType : String) (payload : Json)
    (p : Progress) : Bool × Progress :=
  match p.hub.connections.relayTarget fromDeviceId toDeviceId with
  | none => (false, p)
  | some _ =>
    let fails := w.relayFails (relaysIn p.sent)
    let p := p.send w
      (.relay toDeviceId (signalMessage signalType fromDeviceId toDeviceId payload))
    if fails then (false, disconnect w toDeviceId p) else (true, p)

end Hub

section Handler
variable (uuid : String → Option Uuid) (nonzero : String → Bool) (w : World) (deviceId : Uuid)

def reply (message : Json) (p : Progress) : Flow :=
  if w.replyFails (repliesIn p.sent) then .raised (p.send w (.reply message))
  else .next (p.send w (.reply message))

/-- A reply after which the handling returns. -/
def answer (message : Json) (p : Progress) : Flow :=
  (reply w message p).on True .returned

/-- A text that is read as a UUID; `uuid.UUID` raises for a value that is not a text, which nothing
catches. -/
def withUuid (value : Json) (missing invalid : String) (p : Progress)
    (block : Uuid → Progress → Flow) : Flow :=
  if !truthy nonzero value then answer w (errorMessage missing) p
  else
    match value with
    | .str text =>
      match uuid text with
      | none => answer w (errorMessage invalid) p
      | some target => block target p
    | _ => .raised p

def getPeers (p : Progress) : Flow :=
  let peers := p.hub.connections.getOnlinePeers deviceId
  answer w (.obj [("type", .str "peers_list"),
    ("peers", .arr (peers.map (fun peer => .obj [("device_id", .str (uuidText peer))])))]) p

def stunResult (msg : Message) (p : Progress) : Flow :=
  let publicAddr := msg.get "public_addr" (.str "")
  let natType := msg.get "nat_type" (.str "unknown")
  answer w (.obj [("type", .str "stun_ack")])
    { p with hub := p.hub.updateDeviceNat deviceId natType publicAddr }

def shareCandidates (msg : Message) (p : Progress) : Flow :=
  match msg.get "candidates" (.arr []) with
  | .arr candidates =>
    if 20 < candidates.length then answer w (errorMessage "Invalid candidates") p
    else
      answer w (.obj [("type", .str "candidates_ack"), ("count", .int candidates.length)])
        { p with hub := p.hub.storeCandidates deviceId candidates }
  | _ => answer w (errorMessage "Invalid candidates") p

def candidatesResponse (targetStr : Json) : Option (List Json) → Json
  | none => .obj [("type", .str "candidates_response"), ("peer_id", targetStr),
      ("candidates", .arr []), ("error", .str "Peer not authorized or no candidates")]
  | some candidates => .obj [("type", .str "candidates_response"), ("peer_id", targetStr),
      ("candidates", .arr candidates)]

/-- The block ends without returning. -/
def candidatesRequest (msg : Message) (p : Progress) : Flow :=
  let targetStr := msg.get "peer_id" (.str "")
  withUuid uuid nonzero w targetStr "Missing peer_id" "Invalid peer ID" p fun targetId p =>
    reply w (candidatesResponse targetStr (p.hub.getPeerCandidates deviceId targetId)) p

/-- The block ends without returning. -/
def punchRequest (msg : Message) (p : Progress) : Flow :=
  let targetStr := msg.get "peer_id" (.str "")
  withUuid uuid nonzero w targetStr "Missing peer_id" "Invalid peer ID" p fun targetId p =>
    let relayed := relaySignal w deviceId targetId "punch_offer"
      (.obj [("from_device", .str (uuidText deviceId)),
        ("candidates", msg.get "our_candidates" (.arr []))]) p
    if !relayed.1 then reply w (errorMessage "Peer not available") relayed.2
    else reply w (.obj [("type", .str "punch_ack"), ("peer_id", targetStr)]) relayed.2

/-- The payload of a message to another device, or the text of its error. -/
def signalPayload (msgType : String) (msg : Message) : Except String Json :=
  if msgType = "offer" ∨ msgType = "answer" then
    match msg.get "sdp" .null with
    | .str sdp =>
      if sdp = "" ∨ 32768 < sdp.length then .error "Invalid SDP"
      else .ok (.obj [("sdp", .str sdp)])
    | _ => .error "Invalid SDP"
  else if msgType = "ice_candidate" then
    match msg.get "candidate" (.str "") with
    | .str candidate =>
      if 4096 < candidate.length then .error "Invalid ICE candidate"
      else .ok (.obj [("candidate", .str candidate), ("sdp_mid", msg.get "sdp_mid" (.str "")),
        ("sdp_mline_index", msg.get "sdp_mline_index" (.int 0))])
    | _ => .error "Invalid ICE candidate"
  else .ok (.obj [])

/-- The part for a message to another device, which every message reaches that has not been
returned from. -/
def forward (msgType : String) (msg : Message) (p : Progress) : Flow :=
  withUuid uuid nonzero w (msg.get "to" (.str "")) "Missing target device"
    "Invalid target device ID" p fun targetId p =>
      if targetId = deviceId then answer w (errorMessage "Cannot signal yourself") p
      else
        match signalPayload msgType msg with
        | .error text => answer w (errorMessage text) p
        | .ok payload =>
          let relayed := relaySignal w deviceId targetId msgType payload p
          if !relayed.1 then reply w (errorMessage "Target device not available") relayed.2
          else .next relayed.2

def allowedTypes : List String :=
  ["ping", "offer", "answer", "ice_candidate", "get_peers", "candidates", "candidates_request",
    "stun_result", "punch_request", "punch_result", "path_quality"]

def handleTyped (msgType : String) (msg : Message) (p : Progress) : Flow :=
  Flow.next p
    |>.on (msgType = "ping") (answer w (.obj [("type", .str "pong")]))
    |>.on (msgType = "get_peers") (getPeers w deviceId)
    |>.on (msgType = "stun_result") (stunResult w deviceId msg)
    |>.on (msgType = "candidates") (shareCandidates w deviceId msg)
    |>.on (msgType = "candidates_request") (candidatesRequest uuid nonzero w deviceId msg)
    |>.on (msgType = "punch_request") (punchRequest uuid nonzero w deviceId msg)
    |>.on (msgType = "punch_result") (reply w (.obj [("type", .str "punch_result_ack")]))
    |>.on (msgType = "path_quality") (answer w (.obj [("type", .str "path_quality_ack")]))
    |>.on True (forward uuid nonzero w deviceId msgType msg)

/-- A type that is a list or an object cannot be looked up in a set, which raises. -/
def handleSignal (msg : Message) (p : Progress) : Flow :=
  match msg.get "type" (.str "") with
  | .str msgType =>
    if msgType ∈ allowedTypes then handleTyped uuid nonzero w deviceId msgType msg p
    else answer w (errorMessage "Unknown message type") p
  | .arr _ | .obj _ => .raised p
  | _ => answer w (errorMessage "Unknown message type") p

end Handler

/-- The type that a message carries. -/
def typeOf : Json → Option String
  | .obj fields => (fields.lookup "type").bind Json.toStr
  | _ => none

/-- The reply to a request for candidates, a punch request or a punch result that has succeeded. -/
def Succeeds : Json → Prop
  | .obj fields => fields.lookup "error" = none ∧
      ((fields.lookup "type").bind Json.toStr) ∈
        [some "candidates_response", some "punch_ack", some "punch_result_ack"]
  | _ => False

/-- At most one reply and one relay, the relay of a type that the message may have, and neither an
error nor a relay after the reply to a success. -/
structure OneOutcome (msgType : String) (sent : List Sent) : Prop where
  replies : repliesIn sent ≤ 1
  relays : relaysIn sent ≤ 1
  types : ∀ target message, .relay target message ∈ sent →
    if msgType = "punch_request" then typeOf message = some "punch_offer"
    else typeOf message ∈ [some "offer", some "answer", some "ice_candidate"]
  last : ∀ l₁ l₂ message, sent = l₁ ++ .reply message :: l₂ → Succeeds message →
    ∀ item ∈ l₂, item.isRelay = false ∧ ∀ m, item = .reply m → typeOf m ≠ some "error"

section Values
variable (uuid : String → Option Uuid) (nonzero : String → Bool)

/-- The UUID that a value names. -/
def uuidOf : Json → Option Uuid
  | .str text => if text = "" then none else uuid text
  | _ => none

/-- A value that is given and that is not a text. -/
def Unreadable (value : Json) : Prop := truthy nonzero value = true ∧ value.toStr = none

/-- The messages whose handling ends in time: those that are returned from, those that name no
peer where one is needed, those whose target is not a text, which raises, and those whose first
reply raises. -/
def Settles (w : World) (msgType : String) (msg : Message) : Prop :=
  msgType ∉ ["candidates_request", "punch_request", "punch_result"] ∨
    (msgType ≠ "punch_result" ∧ uuidOf uuid (msg.get "peer_id" (.str "")) = none) ∨
    Unreadable nonzero (msg.get "to" (.str "")) ∨ w.replyFails 0 = true

end Values

section Sends
variable {w : World}

theorem repliesIn_append (l l' : List Sent) :
    repliesIn (l ++ l') = repliesIn l + repliesIn l' := List.countP_append

theorem relaysIn_append (l l' : List Sent) : relaysIn (l ++ l') = relaysIn l + relaysIn l' :=
  List.countP_append

/-- Nothing but word of a lost connection. -/
def Silent (l : List Sent) : Prop := ∀ item ∈ l, item.isReply = false ∧ item.isRelay = false

theorem Silent.repliesIn (h : Silent l) : repliesIn l = 0 :=
  List.countP_eq_zero.mpr fun item hi => by rw [(h item hi).1]; exact Bool.false_ne_true

theorem Silent.relaysIn (h : Silent l) : relaysIn l = 0 :=
  List.countP_eq_zero.mpr fun item hi => by rw [(h item hi).2]; exact Bool.false_ne_true

/-- No reply yet, and at most one relay, of the given type. -/
structure Quiet (signalType : String) (l : List Sent) : Prop where
  replies : repliesIn l = 0
  relays : relaysIn l ≤ 1
  types : ∀ target message, .relay target message ∈ l → typeOf message = some signalType

theorem Quiet.nil : Quiet signalType [] where
  replies := rfl
  relays := Nat.zero_le 1
  types _ _ h := (List.not_mem_nil h).elim

theorem Quiet.relay (h : Silent l) (target : Uuid) (hm : typeOf message = some signalType) :
    Quiet signalType (.relay target message :: l) where
  replies := by
    change repliesIn ([.relay target message] ++ l) = 0
    rw [repliesIn_append, h.repliesIn]
    rfl
  relays := by
    change relaysIn ([.relay target message] ++ l) ≤ 1
    rw [relaysIn_append, h.relaysIn]
    exact Nat.le_refl 1
  types target' message' hmem := by
    rcases List.mem_cons.mp hmem with he | hl
    · cases he
      exact hm
    · exact (Bool.false_ne_true (h _ hl).2.symm).elim

theorem typeOf_signalMessage (signalType : String) (fromDeviceId toDeviceId : Uuid)
    (payload : Json) :
    typeOf (signalMessage signalType fromDeviceId toDeviceId payload) = some signalType := rfl

theorem broadcastToUser_sent (w : World) (userId : Uuid) (message : Json) (p : Progress) :
    ∃ l, (broadcastToUser w userId message p).sent = p.sent ++ l ∧ Silent l := by
  rw [broadcastToUser]
  refine run_invariant _ (I := fun p' : Progress => ∃ l, p'.sent = p.sent ++ l ∧ Silent l)
    ⟨[], (List.append_nil _).symm, fun item hi => (List.not_mem_nil hi).elim⟩ ?_ _
  rintro p' deviceId ⟨l, hl, hs⟩
  split
  · refine ⟨l ++ [.notify deviceId message], ?_, ?_⟩
    · rw [Progress.send, hl, List.append_assoc]
    · intro item hi
      rcases List.mem_append.mp hi with hi | hi
      · exact hs item hi
      · rw [List.mem_singleton.mp hi]
        exact ⟨rfl, rfl⟩
  · exact ⟨l, hl, hs⟩

theorem disconnect_sent (w : World) (deviceId : Uuid) (p : Progress) :
    ∃ l, (disconnect w deviceId p).sent = p.sent ++ l ∧ Silent l := by
  rw [disconnect]
  split
  · exact ⟨[], (List.append_nil _).symm, fun item hi => (List.not_mem_nil hi).elim⟩
  · exact broadcastToUser_sent w _ _ _

/-- A relay finds no target, or is sent, with word of the lost connection after it. -/
theorem relaySignal_cases (w : World) (fromDeviceId toDeviceId : Uuid) (signalType : String)
    (payload : Json) (p : Progress) :
    relaySignal w fromDeviceId toDeviceId signalType payload p = (false, p) ∨
      ∃ l, (relaySignal w fromDeviceId toDeviceId signalType payload p).2.sent = p.sent ++
        .relay toDeviceId (signalMessage signalType fromDeviceId toDeviceId payload) :: l ∧
          Silent l := by
  rw [relaySignal]
  split
  · exact Or.inl rfl
  · dsimp only
    split
    · obtain ⟨l, hl, hs⟩ := disconnect_sent w toDeviceId (p.send w
        (.relay toDeviceId (signalMessage signalType fromDeviceId toDeviceId payload)))
      refine Or.inr ⟨l, ?_, hs⟩
      rw [hl, Progress.send, List.append_assoc]
      rfl
    · exact Or.inr ⟨[], rfl, fun item hi => (List.not_mem_nil hi).elim⟩

theorem relaySignal_quiet (hp : p.sent = []) (w : World) (fromDeviceId toDeviceId : Uuid)
    (signalType : String) (payload : Json) :
    Quiet signalType (relaySignal w fromDeviceId toDeviceId signalType payload p).2.sent := by
  rcases relaySignal_cases w fromDeviceId toDeviceId signalType payload p with he | ⟨l, hl, hs⟩
  · rw [he, hp]
    exact Quiet.nil
  · rw [hl, hp]
    exact Quiet.relay hs _ (typeOf_signalMessage ..)

theorem reply_sent (w : World) (message : Json) (p : Progress) :
    (reply w message p).progress.sent = p.sent ++ [.reply message] := by
  rw [reply]
  split <;> rfl

theorem reply_of_fails (h : w.replyFails (repliesIn p.sent) = true) :
    reply w message p = .raised (p.send w (.reply message)) := if_pos h

theorem reply_of_not_fails (h : w.replyFails (repliesIn p.sent) = false) :
    reply w message p = .next (p.send w (.reply message)) :=
  if_neg (fun hf => Bool.false_ne_true (h.symm.trans hf))

theorem answer_cases (w : World) (message : Json) (p : Progress) :
    answer w message p = .returned (p.send w (.reply message)) ∨
      answer w message p = .raised (p.send w (.reply message)) := by
  rw [answer, reply]
  split
  · exact Or.inr rfl
  · exact Or.inl rfl

theorem answer_sent (w : World) (message : Json) (p : Progress) :
    (answer w message p).progress.sent = p.sent ++ [.reply message] := by
  rcases answer_cases w message p with h | h <;> rw [h] <;> rfl

@[simp] theorem answer_on (w : World) (message : Json) (p : Progress) (c : Prop) [Decidable c]
    (block : Progress → Flow) : (answer w message p).on c block = answer w message p := by
  rcases answer_cases w message p with h | h <;> rw [h] <;> rfl

end Sends

section Blocks
variable {uuid : String → Option Uuid} {nonzero : String → Bool} {w : World} {deviceId : Uuid}

theorem withUuid_of_uuid (h : uuidOf uuid value = some target) (missing invalid : String)
    (p : Progress) (block : Uuid → Progress → Flow) :
    withUuid uuid nonzero w value missing invalid p block = block target p := by
  cases value with
  | str text =>
    rw [uuidOf] at h
    split at h
    · cases h
    · next hne =>
      have ht : truthy nonzero (.str text) = true := decide_eq_true hne
      rw [withUuid, ht]
      simp only [Bool.not_true, Bool.false_eq_true, if_false, h]
  | _ => cases h

theorem withUuid_of_unreadable (h : Unreadable nonzero value) (missing invalid : String)
    (p : Progress) (block : Uuid → Progress → Flow) :
    withUuid uuid nonzero w value missing invalid p block = .raised p := by
  obtain ⟨ht, hs⟩ := h
  unfold withUuid
  rw [ht]
  cases value with
  | str text => cases hs
  | _ => rfl

theorem withUuid_of_none (nonzero : String → Bool) (w : World)
    (h : uuidOf uuid value = none) (missing invalid : String) (p : Progress)
    (block : Uuid → Progress → Flow) :
    (¬ Unreadable nonzero value ∧ ∃ text,
      withUuid uuid nonzero w value missing invalid p block = answer w (errorMessage text) p) ∨
    (Unreadable nonzero value ∧
      withUuid uuid nonzero w value missing invalid p block = .raised p) := by
  unfold withUuid
  cases ht : truthy nonzero value with
  | false =>
    have hr : ¬ Unreadable nonzero value := fun hu => Bool.false_ne_true (ht.symm.trans hu.1)
    exact Or.inl ⟨hr, missing, rfl⟩
  | true =>
    cases value with
    | str text =>
      have hne : text ≠ "" := of_decide_eq_true ht
      rw [uuidOf, if_neg hne] at h
      have hr : ¬ Unreadable nonzero (.str text) := fun hu => nomatch hu.2
      refine Or.inl ⟨hr, invalid, ?_⟩
      simp only [Bool.not_true, Bool.false_eq_true, if_false, h]
    | _ => exact Or.inr ⟨⟨ht, rfl⟩, rfl⟩

/-- The block that a message's own type enters, if there is one before the last part. -/
def firstBlock (uuid : String → Option Uuid) (nonzero : String → Bool) (w : World)
    (deviceId : Uuid) (msgType : String) (msg : Message) (p : Progress) : Flow :=
  if msgType = "ping" then answer w (.obj [("type", .str "pong")]) p
  else if msgType = "get_peers" then getPeers w deviceId p
  else if msgType = "stun_result" then stunResult w deviceId msg p
  else if msgType = "candidates" then shareCandidates w deviceId msg p
  else if msgType = "candidates_request" then candidatesRequest uuid nonzero w deviceId msg p
  else if msgType = "punch_request" then punchRequest uuid nonzero w deviceId msg p
  else if msgType = "punch_result" then reply w (.obj [("type", .str "punch_result_ack")]) p
  else if msgType = "path_quality" then answer w (.obj [("type", .str "path_quality_ack")]) p
  else .next p

theorem shareCandidates_eq (w : World) (deviceId : Uuid) (msg : Message) (p : Progress) :
    ∃ message p', p'.sent = p.sent ∧ shareCandidates w deviceId msg p = answer w message p' := by
  rw [shareCandidates]
  split
  · split
    · exact ⟨_, p, rfl, rfl⟩
    · exact ⟨_, { p with hub := p.hub.storeCandidates deviceId _ }, rfl, rfl⟩
  · exact ⟨_, p, rfl, rfl⟩

/-- What a type's own block comes to: an answer, one of the blocks with a peer or a target, or
nothing. -/
theorem firstBlock_cases (uuid : String → Option Uuid) (nonzero : String → Bool) (w : World)
    (deviceId : Uuid) (msgType : String) (msg : Message) (p : Progress) :
    (∃ message p', p'.sent = p.sent ∧
      firstBlock uuid nonzero w deviceId msgType msg p = answer w message p') ∨
    (msgType = "candidates_request" ∧ firstBlock uuid nonzero w deviceId msgType msg p =
      candidatesRequest uuid nonzero w deviceId msg p) ∨
    (msgType = "punch_request" ∧ firstBlock uuid nonzero w deviceId msgType msg p =
      punchRequest uuid nonzero w deviceId msg p) ∨
    (msgType = "punch_result" ∧ firstBlock uuid nonzero w deviceId msgType msg p =
      reply w (.obj [("type", .str "punch_result_ack")]) p) ∨
    (msgType ∉ ["ping", "get_peers", "stun_result", "candidates", "candidates_request",
      "punch_request", "punch_result", "path_quality"] ∧
        firstBlock uuid nonzero w deviceId msgType msg p = .next p) := by
  generalize hblock : firstBlock uuid nonzero w deviceId msgType msg p = block
  rw [firstBlock] at hblock
  by_cases hping : msgType = "ping"
  · rw [if_pos hping] at hblock
    exact .inl ⟨_, p, rfl, hblock.symm⟩
  rw [if_neg hping] at hblock
  by_cases hpeers : msgType = "get_peers"
  · rw [if_pos hpeers] at hblock
    exact .inl ⟨_, p, rfl, hblock.symm⟩
  rw [if_neg hpeers] at hblock
  by_cases hstun : msgType = "stun_result"
  · rw [if_pos hstun, stunResult] at hblock
    refine .inl ⟨_, _, ?_, hblock.symm⟩
    rfl
  rw [if_neg hstun] at hblock
  by_cases hcandidates : msgType = "candidates"
  · rw [if_pos hcandidates] at hblock
    obtain ⟨message, p', hp', he⟩ := shareCandidates_eq w deviceId msg p
    exact .inl ⟨message, p', hp', hblock.symm.trans he⟩
  rw [if_neg hcandidates] at hblock
  by_cases hrequest : msgType = "candidates_request"
  · rw [if_pos hrequest] at hblock
    exact .inr (.inl ⟨hrequest, hblock.symm⟩)
  rw [if_neg hrequest] at hblock
  by_cases hpunch : msgType = "punch_request"
  · rw [if_pos hpunch] at hblock
    exact .inr (.inr (.inl ⟨hpunch, hblock.symm⟩))
  rw [if_neg hpunch] at hblock
  by_cases hresult : msgType = "punch_result"
  · rw [if_pos hresult] at hblock
    exact .inr (.inr (.inr (.inl ⟨hresult, hblock.symm⟩)))
  rw [if_neg hresult] at hblock
  by_cases hquality : msgType = "path_quality"
  · rw [if_pos hquality] at hblock
    exact .inl ⟨_, p, rfl, hblock.symm⟩
  rw [if_neg hquality] at hblock
  refine .inr (.inr (.inr (.inr ⟨?_, hblock.symm⟩)))
  simp only [List.mem_cons, List.not_mem_nil, hping, hpeers, hstun, hcandidates, hrequest, hpunch,
    hresult, hquality, or_self, not_false_eq_true]

theorem on_false (f : Flow) (block : Progress → Flow) : f.on False block = f := by
  cases f <;> rfl

@[simp] theorem next_on_true (p : Progress) (block : Progress → Flow) :
    (Flow.next p).on True block = block p := rfl

theorem handleTyped_eq (msgType : String) (msg : Message) (p : Progress) :
    handleTyped uuid nonzero w deviceId msgType msg p =
      (firstBlock uuid nonzero w deviceId msgType msg p).on True
        (forward uuid nonzero w deviceId msgType msg) := by
  rw [handleTyped, firstBlock]
  by_cases h₁ : msgType = "ping"
  · subst h₁
    simp [on_false]
  by_cases h₂ : msgType = "get_peers"
  · subst h₂
    simp [on_false, getPeers]
  by_cases h₃ : msgType = "stun_result"
  · subst h₃
    simp [on_false, stunResult]
  by_cases h₄ : msgType = "candidates"
  · subst h₄
    simp [on_false]
  by_cases h₅ : msgType = "candidates_request"
  · subst h₅
    simp [on_false]
  by_cases h₆ : msgType = "punch_request"
  · subst h₆
    simp [on_false]
  by_cases h₇ : msgType = "punch_result"
  · subst h₇
    simp [on_false]
  by_cases h₈ : msgType = "path_quality"
  · subst h₈
    simp [on_false]
  simp [on_false, h₁, h₂, h₃, h₄, h₅, h₆, h₇, h₈]

end Blocks

/-- The types that a relay may have. -/
def MayCarry (msgType signalType : String) : Prop :=
  if msgType = "punch_request" then signalType = "punch_offer"
  else signalType ∈ ["offer", "answer", "ice_candidate"]

/-- At most one relay of a type that it may have, and at most one reply, which comes last. -/
def Concludes (msgType : String) (sent : List Sent) : Prop :=
  ∃ l signalType, Quiet signalType l ∧ MayCarry msgType signalType ∧
    (sent = l ∨ ∃ message, sent = l ++ [.reply message])

section Outcomes
variable {uuid : String → Option Uuid} {nonzero : String → Bool} {w : World} {deviceId : Uuid}

theorem Quiet.no_reply (h : Quiet signalType l) (message : Json) : .reply message ∉ l := by
  intro hmem
  exact List.countP_eq_zero.mp h.replies _ hmem rfl

theorem Quiet.last (h : Quiet signalType l) {m message : Json}
    (he : l ++ [.reply m] = l₁ ++ .reply message :: l₂) : l₂ = [] := by
  rcases List.eq_nil_or_concat l₂ with hnil | ⟨l', item, hl⟩
  · exact hnil
  · rw [hl, List.concat_eq_append, ← List.cons_append, ← List.append_assoc] at he
    have hmem : .reply message ∈ l := by
      rw [(List.append_inj' he rfl).1]
      exact List.mem_append_right _ List.mem_cons_self
    exact (h.no_reply message hmem).elim

theorem Concludes.oneOutcome (h : Concludes msgType sent) : OneOutcome msgType sent := by
  obtain ⟨l, signalType, hq, hc, hsent⟩ := h
  have htypes : ∀ target message, .relay target message ∈ l →
      if msgType = "punch_request" then typeOf message = some "punch_offer"
      else typeOf message ∈ [some "offer", some "answer", some "ice_candidate"] := by
    intro target message hmem
    rw [hq.types target message hmem]
    rw [MayCarry] at hc
    split
    · next hp =>
      rw [if_pos hp] at hc
      rw [hc]
    · next hp =>
      rw [if_neg hp] at hc
      simpa only [List.mem_cons, Option.some.injEq, List.not_mem_nil] using hc
  rcases hsent with rfl | ⟨m, rfl⟩
  · constructor
    · rw [hq.replies]
      exact Nat.zero_le 1
    · exact hq.relays
    · exact htypes
    · intro l₁ l₂ message he
      refine absurd ?_ (hq.no_reply message)
      rw [he]
      exact List.mem_append_right _ List.mem_cons_self
  · constructor
    · rw [repliesIn_append, hq.replies]
      exact Nat.le_refl 1
    · rw [relaysIn_append]
      exact hq.relays
    · intro target message hmem
      rcases List.mem_append.mp hmem with hl | hr
      · exact htypes target message hl
      · cases List.mem_singleton.mp hr
    · intro l₁ l₂ message he _ item hi
      rw [hq.last he] at hi
      exact (List.not_mem_nil hi).elim

theorem concludes_nil (msgType : String) : Concludes msgType [] := by
  refine ⟨[], if msgType = "punch_request" then "punch_offer" else "offer", Quiet.nil, ?_,
    Or.inl rfl⟩
  rw [MayCarry]
  split
  · rfl
  · exact List.mem_cons_self

theorem concludes_reply (msgType : String) (message : Json) :
    Concludes msgType [.reply message] := by
  obtain ⟨l, signalType, -, hc, -⟩ := concludes_nil msgType
  exact ⟨[], signalType, Quiet.nil, hc, Or.inr ⟨message, rfl⟩⟩

theorem answer_concludes (msgType : String) (message : Json) (hp : p.sent = []) :
    Concludes msgType (answer w message p).progress.sent := by
  rw [answer_sent, hp]
  exact concludes_reply msgType message

theorem reply_concludes (msgType : String) (message : Json) (hp : p.sent = []) :
    Concludes msgType (reply w message p).progress.sent := by
  rw [reply_sent, hp]
  exact concludes_reply msgType message

theorem withUuid_concludes {block : Uuid → Progress → Flow} (hp : p.sent = [])
    (h : ∀ target, Concludes msgType (block target p).progress.sent) (value : Json)
    (missing invalid : String) :
    Concludes msgType (withUuid uuid nonzero w value missing invalid p block).progress.sent := by
  cases hu : uuidOf uuid value with
  | some target =>
    rw [withUuid_of_uuid hu]
    exact h target
  | none =>
    rcases withUuid_of_none nonzero w hu missing invalid p block with
      ⟨-, text, he⟩ | ⟨-, he⟩
    · rw [he]
      exact answer_concludes msgType _ hp
    · rw [he]
      change Concludes msgType p.sent
      rw [hp]
      exact concludes_nil msgType

theorem punchRequest_concludes (hp : p.sent = []) (msg : Message) :
    Concludes "punch_request" (punchRequest uuid nonzero w deviceId msg p).progress.sent := by
  unfold punchRequest
  refine withUuid_concludes hp ?_ _ _ _
  intro target
  have hq := relaySignal_quiet hp w deviceId target "punch_offer"
    (.obj [("from_device", .str (uuidText deviceId)),
      ("candidates", msg.get "our_candidates" (.arr []))])
  dsimp only
  split
  · rw [reply_sent]
    exact ⟨_, "punch_offer", hq, rfl, Or.inr ⟨_, rfl⟩⟩
  · rw [reply_sent]
    exact ⟨_, "punch_offer", hq, rfl, Or.inr ⟨_, rfl⟩⟩

theorem firstBlock_concludes (hp : p.sent = []) (msgType : String) (msg : Message) :
    Concludes msgType (firstBlock uuid nonzero w deviceId msgType msg p).progress.sent := by
  rcases firstBlock_cases uuid nonzero w deviceId msgType msg p with
    ⟨message, p', hp', he⟩ | ⟨-, he⟩ | ⟨hm, he⟩ | ⟨-, he⟩ | ⟨-, he⟩
  · rw [he]
    exact answer_concludes msgType message (hp'.trans hp)
  · rw [he]
    exact withUuid_concludes hp (fun target => reply_concludes msgType _ hp) _ _ _
  · rw [he, hm]
    exact punchRequest_concludes hp msg
  · rw [he]
    exact reply_concludes msgType _ hp
  · rw [he]
    change Concludes msgType p.sent
    rw [hp]
    exact concludes_nil msgType

theorem forward_concludes (hp : p.sent = [])
    (hm : msgType ∈ ["offer", "answer", "ice_candidate"]) (msg : Message) :
    Concludes msgType (forward uuid nonzero w deviceId msgType msg p).progress.sent := by
  have hcarry : MayCarry msgType msgType := by
    rw [MayCarry, if_neg]
    · exact hm
    · rintro rfl
      exact absurd hm (by decide)
  refine withUuid_concludes hp ?_ _ _ _
  intro target
  split
  · exact answer_concludes msgType _ hp
  · split
    · exact answer_concludes msgType _ hp
    · next payload _ =>
      have hq := relaySignal_quiet hp w deviceId target msgType payload
      dsimp only
      split
      · rw [reply_sent]
        exact ⟨_, msgType, hq, hcarry, Or.inr ⟨_, rfl⟩⟩
      · exact ⟨_, msgType, hq, hcarry, Or.inl rfl⟩

/-- The handling does not go on. -/
def Flow.Stopped (f : Flow) : Prop := ∀ p, f ≠ .next p

theorem Flow.Stopped.on {f : Flow} (h : f.Stopped) (c : Prop) [Decidable c]
    (block : Progress → Flow) : f.on c block = f := by
  cases f with
  | next p => exact (h p rfl).elim
  | returned p => rfl
  | raised p => rfl

theorem answer_stopped (w : World) (message : Json) (p : Progress) :
    (answer w message p).Stopped := by
  intro p' he
  rcases answer_cases w message p with h | h <;> rw [h] at he <;> cases he

theorem reply_stopped (h : w.replyFails 0 = true) (hp : repliesIn p.sent = 0) (message : Json) :
    (reply w message p).Stopped := by
  intro p' he
  rw [reply_of_fails (by rw [hp, h])] at he
  cases he

theorem withUuid_stopped {block : Uuid → Progress → Flow}
    (h : ∀ target, uuidOf uuid value = some target → (block target p).Stopped)
    (missing invalid : String) :
    (withUuid uuid nonzero w value missing invalid p block).Stopped := by
  cases hu : uuidOf uuid value with
  | some target =>
    rw [withUuid_of_uuid hu]
    exact h target hu
  | none =>
    rcases withUuid_of_none nonzero w hu missing invalid p block with
      ⟨-, text, he⟩ | ⟨-, he⟩
    · rw [he]
      exact answer_stopped w _ p
    · rw [he]
      exact fun p' he' => by cases he'

theorem forward_of_unreadable {msg : Message} (h : Unreadable nonzero (msg.get "to" (.str "")))
    (f : Flow) : (f.on True (forward uuid nonzero w deviceId msgType msg)).progress.sent =
      f.progress.sent := by
  cases f with
  | next p =>
    rw [next_on_true, forward, withUuid_of_unreadable h]
    rfl
  | returned p => rfl
  | raised p => rfl

theorem firstBlock_stopped (hp : p.sent = [])
    (hm : msgType ∈ ["candidates_request", "punch_request", "punch_result"]) (msg : Message)
    (h : (msgType ≠ "punch_result" ∧ uuidOf uuid (msg.get "peer_id" (.str "")) = none) ∨
      w.replyFails 0 = true) :
    (firstBlock uuid nonzero w deviceId msgType msg p).Stopped := by
  have hreplies : repliesIn p.sent = 0 := by
    rw [hp]
    rfl
  simp only [List.mem_cons, List.not_mem_nil, or_false] at hm
  rcases hm with rfl | rfl | rfl
  · change (candidatesRequest uuid nonzero w deviceId msg p).Stopped
    refine withUuid_stopped ?_ _ _
    intro target hu
    rcases h with ⟨-, hnone⟩ | hfails
    · rw [hnone] at hu
      cases hu
    · exact reply_stopped hfails hreplies _
  · change (punchRequest uuid nonzero w deviceId msg p).Stopped
    unfold punchRequest
    refine withUuid_stopped ?_ _ _
    intro target hu
    rcases h with ⟨-, hnone⟩ | hfails
    · rw [hnone] at hu
      cases hu
    · have hq := relaySignal_quiet hp w deviceId target "punch_offer"
        (.obj [("from_device", .str (uuidText deviceId)),
          ("candidates", msg.get "our_candidates" (.arr []))])
      dsimp only
      split
      · exact reply_stopped hfails hq.replies _
      · exact reply_stopped hfails hq.replies _
  · rcases h with ⟨hne, -⟩ | hfails
    · exact (hne rfl).elim
    · exact reply_stopped hfails hreplies _

theorem firstBlock_other (hm : msgType ∈ allowedTypes)
    (hn : msgType ∉ ["candidates_request", "punch_request", "punch_result"]) (msg : Message)
    (p : Progress) : (firstBlock uuid nonzero w deviceId msgType msg p).Stopped ∨
      (msgType ∈ ["offer", "answer", "ice_candidate"] ∧
        firstBlock uuid nonzero w deviceId msgType msg p = .next p) := by
  rcases firstBlock_cases uuid nonzero w deviceId msgType msg p with
    ⟨message, p', -, he⟩ | ⟨he, -⟩ | ⟨he, -⟩ | ⟨he, -⟩ | ⟨hnone, he⟩
  · rw [he]
    exact Or.inl (answer_stopped w message p')
  · exact (hn (by rw [he]; decide)).elim
  · exact (hn (by rw [he]; decide)).elim
  · exact (hn (by rw [he]; decide)).elim
  · refine Or.inr ⟨?_, he⟩
    simp only [allowedTypes, List.mem_cons, List.not_mem_nil, or_false] at hm hnone ⊢
    tauto

theorem handleTyped_concludes (hp : p.sent = []) (hm : msgType ∈ allowedTypes) (msg : Message)
    (h : Settles uuid nonzero w msgType msg) :
    Concludes msgType (handleTyped uuid nonzero w deviceId msgType msg p).progress.sent := by
  rw [handleTyped_eq]
  have hfirst : Concludes msgType
      (firstBlock uuid nonzero w deviceId msgType msg p).progress.sent :=
    firstBlock_concludes hp msgType msg
  by_cases hthree : msgType ∈ ["candidates_request", "punch_request", "punch_result"]
  · by_cases hto : Unreadable nonzero (msg.get "to" (.str ""))
    · rw [forward_of_unreadable hto]
      exact hfirst
    · have hstop : (firstBlock uuid nonzero w deviceId msgType msg p).Stopped := by
        refine firstBlock_stopped hp hthree msg ?_
        rcases h with h | h | h | h
        · exact (h hthree).elim
        · exact Or.inl h
        · exact (hto h).elim
        · exact Or.inr h
      rw [hstop.on]
      exact hfirst
  · rcases @firstBlock_other uuid nonzero w deviceId msgType hm hthree msg p with hstop | ⟨hm', he⟩
    · rw [hstop.on]
      exact hfirst
    · rw [he, next_on_true]
      exact forward_concludes hp hm' msg

theorem firstBlock_next (hp : p.sent = [])
    (hm : msgType ∈ ["candidates_request", "punch_request", "punch_result"]) (msg : Message)
    (hpeer : msgType = "punch_result" ∨ ∃ target,
      uuidOf uuid (msg.get "peer_id" (.str "")) = some target)
    (hr : w.replyFails 0 = false) : ∃ p', repliesIn p'.sent = 1 ∧
      firstBlock uuid nonzero w deviceId msgType msg p = .next p' := by
  have hsent : ∀ (p' : Progress) (m : Json), repliesIn p'.sent = 0 →
      ∃ p'', repliesIn p''.sent = 1 ∧ reply w m p' = .next p'' := by
    intro p' m h0
    refine ⟨p'.send w (.reply m), ?_, reply_of_not_fails (by rw [h0, hr])⟩
    rw [Progress.send, repliesIn_append, h0]
    rfl
  have hreplies : repliesIn p.sent = 0 := by
    rw [hp]
    rfl
  simp only [List.mem_cons, List.not_mem_nil, or_false] at hm
  rcases hm with rfl | rfl | rfl
  · obtain ⟨target, hu⟩ := hpeer.resolve_left (by decide)
    change ∃ p', _ ∧ candidatesRequest uuid nonzero w deviceId msg p = .next p'
    unfold candidatesRequest
    rw [withUuid_of_uuid hu]
    exact hsent p _ hreplies
  · obtain ⟨target, hu⟩ := hpeer.resolve_left (by decide)
    change ∃ p', _ ∧ punchRequest uuid nonzero w deviceId msg p = .next p'
    unfold punchRequest
    rw [withUuid_of_uuid hu]
    have hq := relaySignal_quiet hp w deviceId target "punch_offer"
      (.obj [("from_device", .str (uuidText deviceId)),
        ("candidates", msg.get "our_candidates" (.arr []))])
    dsimp only
    split
    · exact hsent _ _ hq.replies
    · exact hsent _ _ hq.replies
  · exact hsent p _ hreplies

theorem forward_breaks (hp : repliesIn p.sent = 1)
    (hm : msgType ∈ ["candidates_request", "punch_request", "punch_result"]) {msg : Message}
    (hto : ¬ Unreadable nonzero (msg.get "to" (.str ""))) :
    ¬ OneOutcome msgType (forward uuid nonzero w deviceId msgType msg p).progress.sent := by
  have hreply : ∀ (m : Json) (p' : Progress) (sent : List Sent), repliesIn p'.sent = 1 →
      sent = p'.sent ++ [.reply m] → ¬ OneOutcome msgType sent := by
    intro m p' sent h1 he ho
    have hle := ho.replies
    rw [he, repliesIn_append, h1] at hle
    change 1 + 1 ≤ 1 at hle
    omega
  have hpayload : signalPayload msgType msg = .ok (.obj []) := by
    rw [signalPayload]
    simp only [List.mem_cons, List.not_mem_nil, or_false] at hm
    rcases hm with rfl | rfl | rfl <;> rfl
  rw [forward]
  cases hu : uuidOf uuid (msg.get "to" (.str "")) with
  | none =>
    rcases withUuid_of_none nonzero w hu "Missing target device"
      "Invalid target device ID" p _ with ⟨-, text, he⟩ | ⟨hun, -⟩
    · rw [he]
      exact hreply _ p _ hp (answer_sent w _ p)
    · exact (hto hun).elim
  | some target =>
    rw [withUuid_of_uuid hu]
    split
    · exact hreply _ p _ hp (answer_sent w _ p)
    · rw [hpayload]
      dsimp only
      rcases relaySignal_cases w deviceId target msgType (.obj []) p with he | ⟨l, hl, -⟩
      · rw [he]
        exact hreply _ p _ hp (reply_sent w _ p)
      · intro ho
        have hmem : .relay target (signalMessage msgType deviceId target (.obj [])) ∈
            (relaySignal w deviceId target msgType (.obj []) p).2.sent := by
          rw [hl]
          exact List.mem_append_right _ List.mem_cons_self
        have htype := ho.types target (signalMessage msgType deviceId target (.obj [])) (by
          split
          · rw [reply_sent]
            exact List.mem_append_left _ hmem
          · exact hmem)
        rw [typeOf_signalMessage] at htype
        simp only [List.mem_cons, List.not_mem_nil, or_false] at hm
        rcases hm with rfl | rfl | rfl
        · exact absurd htype (by decide)
        · exact absurd htype (by decide)
        · exact absurd htype (by decide)

end Outcomes

/-- A message of an allowed type has one outcome exactly where its handling ends in time. -/
theorem one_outcome_iff (uuid : String → Option Uuid) (nonzero : String → Bool) (w : World)
    (hub : Hub) (deviceId : Uuid) (msg : Message) (msgType : String)
    (ht : msg.get "type" (.str "") = .str msgType) (hm : msgType ∈ allowedTypes) :
    OneOutcome msgType (handleSignal uuid nonzero w deviceId msg ⟨hub, []⟩).progress.sent ↔
      Settles uuid nonzero w msgType msg := by
  have hhandle : handleSignal uuid nonzero w deviceId msg ⟨hub, []⟩ =
      handleTyped uuid nonzero w deviceId msgType msg ⟨hub, []⟩ := by
    rw [handleSignal, ht]
    exact if_pos hm
  rw [hhandle]
  constructor
  · intro h
    by_contra hs
    simp only [Settles, not_or, not_not, Bool.not_eq_true] at hs
    obtain ⟨hthree, hpeer, hto, hr⟩ := hs
    have hnamed : msgType = "punch_result" ∨ ∃ target,
        uuidOf uuid (msg.get "peer_id" (.str "")) = some target := by
      by_cases hres : msgType = "punch_result"
      · exact Or.inl hres
      · exact Or.inr (Option.ne_none_iff_exists'.mp (fun hnone => hpeer ⟨hres, hnone⟩))
    obtain ⟨p', hp', he⟩ := @firstBlock_next uuid nonzero w deviceId msgType ⟨hub, []⟩ rfl hthree
      msg hnamed hr
    rw [handleTyped_eq, he, next_on_true] at h
    exact forward_breaks hp' hthree hto h
  · exact fun h => (handleTyped_concludes rfl hm msg h).oneOutcome

/-- Every send succeeds, and no other task touches the hub. -/
def calmWorld : World := ⟨fun _ => false, fun _ => false, fun _ hub => hub⟩

def emptyHub : Hub := ⟨.new 10000 none, ∅, ∅, ∅⟩

def typeOnly (msgType : String) : Message := (∅ : Message).insert "type" (.str msgType)

theorem typeOnly_get (msgType : String) (default : Json) :
    (typeOnly msgType).get "type" default = .str msgType := by
  rw [Message.get, typeOnly, Std.TreeMap.getElem?_insert_self, Option.getD_some]

theorem one_outcome_iff_ping :
    OneOutcome "ping" (handleSignal (fun _ => none) (fun _ => true) calmWorld 1
        (typeOnly "ping") ⟨emptyHub, []⟩).progress.sent ↔
      Settles (fun _ => none) (fun _ => true) calmWorld "ping" (typeOnly "ping") :=
  one_outcome_iff _ _ calmWorld emptyHub 1 (typeOnly "ping") "ping"
    (typeOnly_get "ping" _) (by decide)

/-- The acknowledgement of a punch result is followed by the error that no target is given. -/
theorem punch_result_answered_twice :
    ¬ OneOutcome "punch_result" (handleSignal (fun _ => none) (fun _ => true) calmWorld 1
      (typeOnly "punch_result") ⟨emptyHub, []⟩).progress.sent := by
  intro h
  have htwo : repliesIn (handleSignal (fun _ => none) (fun _ => true) calmWorld 1
      (typeOnly "punch_result") ⟨emptyHub, []⟩).progress.sent = 2 := by decide +kernel
  have hle := h.replies
  rw [htwo] at hle
  exact absurd hle (by decide)

end P2PMesh.ControlSignaling
