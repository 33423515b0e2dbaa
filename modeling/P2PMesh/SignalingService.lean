import P2PMesh.Base.Json
import P2PMesh.SignalingCluster

namespace P2PMesh.Signaling
open P2PMesh.Base
set_option autoImplicit true

inductive SignalType where
  | offer
  | answer
  | iceCandidate
deriving DecidableEq

inductive Payload where
  | sdp (sdp : String)
  | candidate (candidate : String) (sdpMid sdpMlineIndex : Json)

structure Signal where
  type : SignalType
  fromDevice : Uuid
  toDevice : Uuid
  payload : Payload

/-- What is sent on a socket, or returned to a request for peers. -/
inductive ServerMessage where
  | error (message : String)
  | authenticated (deviceId : Uuid)
  | deviceStatus (deviceId : Uuid) (online : Bool)
  | signal (s : Signal)
  | peersList (peers : List Uuid)
  | pong

/-- What a client sends; the checks of its form answer some messages with an error at once. -/
inductive ClientMessage where
  | ping
  | getPeers
  | offer (target : Uuid) (sdp : String)
  | answer (target : Uuid) (sdp : String)
  | iceCandidate (target : Uuid) (candidate : String) (sdpMid sdpMlineIndex : Json)
  | refused (message : String)

/-- What is left to do for a message when its own fields have been looked at. -/
inductive Handling where
  | reply (message : ServerMessage)
  | peers
  | relay (signal : Signal)

/-- The checks of a message to another device; the text that it carries has a limit, and no offer
or answer is without one. -/
def handleSignal (deviceId target : Uuid) (type : SignalType) (payload : Payload) : Handling :=
  if target = deviceId then .reply (.error "Cannot signal yourself")
  else
    match payload with
    | .sdp sdp =>
      if sdp = "" ∨ 32768 < sdp.length then .reply (.error "Invalid SDP")
      else .relay ⟨type, deviceId, target, payload⟩
    | .candidate candidate _ _ =>
      if 4096 < candidate.length then .reply (.error "Invalid ICE candidate")
      else .relay ⟨type, deviceId, target, payload⟩

def ClientMessage.handle (deviceId : Uuid) : ClientMessage → Handling
  | .ping => .reply .pong
  | .getPeers => .peers
  | .offer target sdp => handleSignal deviceId target .offer (.sdp sdp)
  | .answer target sdp => handleSignal deviceId target .answer (.sdp sdp)
  | .iceCandidate target candidate sdpMid sdpMlineIndex =>
    handleSignal deviceId target .iceCandidate (.candidate candidate sdpMid sdpMlineIndex)
  | .refused message => .reply (.error message)

/-- The other devices of the user whom the hub has a device under, so far as they are connected. -/
def SignalingHub.getOnlinePeers (h : SignalingHub) (deviceId : Uuid) : List Uuid :=
  match h.connection deviceId with
  | none => []
  | some conn => (h.devicesOf conn.userId).toList.filter (fun other =>
      other ≠ deviceId ∧ (h.connection other).isSome)

/-- A name that is used and that the module does not have. -/
inductive NameError where
  | undefined (name : String)
deriving DecidableEq

/-- What is sent, and on which socket. -/
abbrev Sent := List (Nat × ServerMessage)

/-- A handler works on the hub of its node and the sockets that are open. -/
abbrev RemoteHandler :=
  SignalingHub → (Nat → Bool) → Signal → Except NameError (SignalingHub × Sent)

/-- Before it looks for the target the handler of `app.main` parses the ids with `uuid`, which the
module does not import; nor has it the `logger` that the rest of the handler reports to. -/
def handleRemoteMessage : RemoteHandler := fun _ _ _ => .error (.undefined "uuid")

structure PubSubHub where
  messageHandler : Option RemoteHandler

def PubSubHub.setMessageHandler (_ : PubSubHub) (handler : RemoteHandler) : PubSubHub :=
  ⟨some handler⟩

/-- What the name `pubsub_hub` stands for in `app.pubsub`, and in `app.main`, which has imported it
before there was a hub. -/
structure PubSubNames where
  pubsub : Option PubSubHub
  main : Option PubSubHub

def PubSubNames.imported : PubSubNames := ⟨none, none⟩

def PubSubNames.initPubsub (names : PubSubNames) : PubSubNames :=
  { names with pubsub := some ⟨none⟩ }

/-- With nothing under its name `app.main` fails to set its handler, which is caught and logged. -/
def PubSubNames.lifespan (names : PubSubNames) : PubSubNames :=
  match names.initPubsub.main with
  | none => names.initPubsub
  | some hub =>
    { names.initPubsub with main := some (hub.setMessageHandler handleRemoteMessage) }

/-- Where a call of `relay_signal` stands: its send on a local socket, the messages that a failed
send leaves to the user's other devices, the lookup of the target's node, or the publication. -/
inductive RelayPhase (k : Nat) where
  | sending (ws : Nat)
  | evicted (userId : Uuid) (notify : List Uuid)
  | lookingUp (userId : Uuid)
  | publishing (node : Fin k)
deriving DecidableEq

structure RelayCall (k : Nat) where
  signal : Signal
  phase : RelayPhase k

/-- The nodes with their sessions and the store, the signals that are being relayed, the sockets
whose clients are gone, and the messages between the nodes that wait for their listeners. -/
structure Service (k : Nat) where
  cluster : Cluster k
  relays : Nat → Option (RelayCall k)
  lost : Nat → Bool
  names : Fin k → PubSubNames
  channels : Fin k → List Signal
  listening : Fin k → Bool

def Service.start (k : Nat) : Service k :=
  ⟨.new k, fun _ => none, fun _ => false, fun _ => PubSubNames.imported.lifespan, fun _ => [],
    fun _ => true⟩

/-- What the store does and clients and listeners do, and a call that goes one await further. -/
inductive ServiceOp (k : Nat) where
  | call (op : CallOp k)
  | receive (id : Nat) (message : ClientMessage)
  | relay (id : Nat)
  | lose (id : Nat)
  | query (id : Nat) (node : Fin k) (deviceId : Uuid)
  | listen (node : Fin k)

section Service
variable (t : Service k)

def Service.hub (node : Fin k) : SignalingHub := t.cluster.hubs node

/-- A socket works while its client is there and its session has not ended. -/
def Service.isOpen (ws : Nat) : Bool :=
  !t.lost ws && (t.cluster.sessions[ws]?).any (fun s => s.phase ≠ .ended)

def Service.send (ws : Nat) (message : ServerMessage) : Sent :=
  if t.isOpen ws then [(ws, message)] else []

/-- A message to a device goes to the connection that it has by then. -/
def Service.notify (node : Fin k) (deviceId : Uuid) (message : ServerMessage) : Sent :=
  match (t.hub node).connection deviceId with
  | none => []
  | some conn => t.send conn.ws message

/-- What the next command of a connecting or disconnecting session sends. -/
def Service.advanceSent (id : Nat) (s : ClusterSession k) : Sent :=
  match s.phase with
  | .arrived =>
    if t.cluster.store.checkGlobalConnectionLimit then []
    else t.send id (.error "Global connection limit reached")
  | .checkedGlobal =>
    if t.cluster.store.checkUserConnectionLimit s.userId then []
    else t.send id (.error "Per-user connection limit reached")
  | .checkedUser =>
    match (t.hub s.node).connect s.deviceId s.userId id with
    | .error e => t.send id (.error e.text)
    | .ok _ => []
  | .connected (d :: _) => t.notify s.node d (.deviceStatus s.deviceId true)
  | .expirySet => t.send id (.authenticated s.deviceId)
  | .left _ (d :: _) => t.notify s.node d (.deviceStatus s.deviceId false)
  | _ => []

def Service.callSent : CallOp k → Sent
  | .advance id =>
    match t.cluster.sessions[id]? with
    | none => []
    | some s => t.advanceSent id s
  | _ => []

def Service.setRelay (id : Nat) (call : Option (RelayCall k)) : Service k :=
  { t with relays := Function.update t.relays id call }

/-- The call returns that the signal has not been delivered, which the endpoint tells its client. -/
def Service.undelivered (id : Nat) : Service k × Sent :=
  (t.setRelay id none, t.send id (.error "Target device not available"))

/-- After its local attempt has failed the call goes on with the user of the sender, who must still
be connected. -/
def Service.lookUp (id : Nat) (node : Fin k) (signal : Signal) : Service k × Sent :=
  match (t.hub node).connection signal.fromDevice with
  | none => t.undelivered id
  | some conn => (t.setRelay id (some ⟨signal, .lookingUp conn.userId⟩), [])

def Service.startRelay (id : Nat) (node : Fin k) (signal : Signal) : Service k × Sent :=
  match (t.hub node).relayTarget signal.fromDevice signal.toDevice with
  | some target => (t.setRelay id (some ⟨signal, .sending target.ws⟩), [])
  | none => t.lookUp id node signal

def Service.dropDevice (node : Fin k) (deviceId : Uuid) : Service k :=
  { t with cluster := t.cluster.setHub node ((t.hub node).disconnect deviceId) }

/-- The local hub drops the target of a send that has failed. -/
def Service.evict (id : Nat) (node : Fin k) (signal : Signal) : Service k × Sent :=
  match (t.hub node).connection signal.toDevice with
  | none => t.lookUp id node signal
  | some conn =>
    let dropped := t.dropDevice node signal.toDevice
    let notify := ((dropped.hub node).devicesOf conn.userId).toList
    (dropped.setRelay id (some ⟨signal, .evicted conn.userId notify⟩), [])

def Service.publish (node : Fin k) (signal : Signal) : Service k :=
  { t with channels := Function.update t.channels node (t.channels node ++ [signal]) }

/-- The next await of a call of `relay_signal`. -/
def Service.relayStep (id : Nat) (node : Fin k) : RelayCall k → Service k × Sent
  | ⟨signal, .sending ws⟩ =>
    if t.isOpen ws then (t.setRelay id none, [(ws, .signal signal)]) else t.evict id node signal
  | ⟨signal, .evicted userId (d :: notify)⟩ =>
    (t.setRelay id (some ⟨signal, .evicted userId notify⟩),
      t.notify node d (.deviceStatus signal.toDevice false))
  | ⟨signal, .evicted _ []⟩ => t.lookUp id node signal
  | ⟨signal, .lookingUp userId⟩ =>
    match t.cluster.store.getDeviceNode signal.toDevice userId with
    | none => t.undelivered id
    | some target =>
      if target = node then t.undelivered id
      else (t.setRelay id (some ⟨signal, .publishing target⟩), [])
  | ⟨signal, .publishing target⟩ => ((t.publish target signal).setRelay id none, [])

/-- What a call of `relay_signal` comes to. -/
structure Relayed (k : Nat) where
  service : Service k
  sent : Sent
  delivered : Bool
  published : Option (Fin k)

/-- What the other devices of a user are told about one that has left. -/
def Service.notifyLeft (node : Fin k) (deviceId userId : Uuid) : Sent :=
  ((t.hub node).devicesOf userId).toList.flatMap (fun d =>
    t.notify node d (.deviceStatus deviceId false))

/-- The attempt of the local hub. A send that fails costs the target its connection, which the
user's other devices are told. -/
def Service.relayLocally (node : Fin k) (signal : Signal) : Service k × Sent × Bool :=
  match (t.hub node).relayTarget signal.fromDevice signal.toDevice with
  | none => (t, [], false)
  | some target =>
    if t.isOpen target.ws then (t, [(target.ws, .signal signal)], true)
    else
      let dropped := t.dropDevice node signal.toDevice
      (dropped, dropped.notifyLeft node signal.toDevice target.userId, false)

/-- The attempt by way of the store, after the messages that the local one has sent. -/
def Service.relayAcross (node : Fin k) (signal : Signal) (sent : Sent) : Relayed k :=
  match (t.hub node).connection signal.fromDevice with
  | none => ⟨t, sent, false, none⟩
  | some conn =>
    match t.cluster.store.getDeviceNode signal.toDevice conn.userId with
    | none => ⟨t, sent, false, none⟩
    | some target =>
      if target = node then ⟨t, sent, false, none⟩
      else ⟨t.publish target signal, sent, true, some target⟩

/-- A call of `relay_signal` with nothing in between its awaits. -/
def Service.relaySignal (node : Fin k) (signal : Signal) : Relayed k :=
  match t.relayLocally node signal with
  | (t, sent, true) => ⟨t, sent, true, none⟩
  | (t, sent, false) => t.relayAcross node signal sent

/-- A message to a session that serves its device and is not in the middle of another one. -/
def Service.receive (id : Nat) (s : ClusterSession k) (message : ClientMessage) :
    Service k × Sent :=
  match message.handle s.deviceId with
  | .reply reply => (t, t.send id reply)
  | .peers => (t, t.send id (.peersList ((t.hub s.node).getOnlinePeers s.deviceId)))
  | .relay signal => t.startRelay id s.node signal

/-- What the listener of a node does with a message for its node. A handler that raises ends it. -/
def Service.process (node : Fin k) (signal : Signal) : Service k × Sent :=
  match (t.names node).pubsub.bind PubSubHub.messageHandler with
  | none => (t, [])
  | some handler =>
    match handler (t.hub node) t.isOpen signal with
    | .ok (hub, sent) => ({ t with cluster := t.cluster.setHub node hub }, sent)
    | .error _ => ({ t with listening := Function.update t.listening node false }, [])

def Service.listen (node : Fin k) : Service k × Sent :=
  match t.channels node, t.listening node with
  | signal :: rest, true =>
    { t with channels := Function.update t.channels node rest }.process node signal
  | _, _ => (t, [])

/-- While a signal of a session is being relayed its connection is neither read nor closed. -/
def Service.busy : CallOp k → Bool
  | .close id => (t.relays id).isSome
  | _ => false

def Service.step : ServiceOp k → Service k × Sent
  | .call op =>
    if t.busy op then (t, [])
    else ({ t with cluster := t.cluster.step op }, t.callSent op)
  | .receive id message =>
    match t.cluster.sessions[id]?, t.relays id with
    | some ⟨node, deviceId, userId, .serving⟩, none =>
      t.receive id ⟨node, deviceId, userId, .serving⟩ message
    | _, _ => (t, [])
  | .relay id =>
    match t.cluster.sessions[id]?, t.relays id with
    | some s, some call => t.relayStep id s.node call
    | _, _ => (t, [])
  | .lose id => ({ t with lost := Function.update t.lost id true }, [])
  | .query id node deviceId => (t, [(id, .peersList ((t.hub node).getOnlinePeers deviceId))])
  | .listen node => t.listen node

def Service.run (ops : List (ServiceOp k)) : Service k := ops.foldl (fun t op => (t.step op).1) t

end Service

end P2PMesh.Signaling
