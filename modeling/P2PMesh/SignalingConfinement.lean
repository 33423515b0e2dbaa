import P2PMesh.SignalingDelivery
import P2PMesh.SignalingViews

namespace P2PMesh.Signaling
open P2PMesh.Base
set_option autoImplicit true

/-- The devices that a message names. -/
def ServerMessage.devices : ServerMessage → List Uuid
  | .authenticated d | .deviceStatus d _ => [d]
  | .signal s => [s.fromDevice, s.toDevice]
  | .peersList peers => peers
  | .error _ | .pong => []

/-- What is sent goes to the user's sockets and names the user's devices. -/
def Sent.Confined (sent : Sent) (owner : Uuid → Uuid) (tokens : Nat → Uuid) (u : Uuid) : Prop :=
  ∀ e ∈ sent, tokens e.1 = u ∧ ∀ d ∈ e.2.devices, owner d = u

def RelayPhase.Concerns (owner : Uuid → Uuid) (tokens : Nat → Uuid) (u target : Uuid) :
    RelayPhase k → Prop
  | .sending ws => tokens ws = u ∧ owner target = u
  | .evicted u' notify => u' = u ∧ owner target = u ∧ ∀ d ∈ notify, owner d = u
  | .lookingUp u' => u' = u
  | .publishing _ => True

structure RelayCall.Concerns (call : RelayCall k) (owner : Uuid → Uuid) (tokens : Nat → Uuid)
    (u : Uuid) : Prop where
  sender : owner call.signal.fromDevice = u
  phase : call.phase.Concerns owner tokens u call.signal.toDevice

/-- A reply to a message names no device, and a signal that is relayed is from the device. -/
def Handling.Of (deviceId : Uuid) : Handling → Prop
  | .reply message => message.devices = []
  | .peers => True
  | .relay signal => signal.fromDevice = deviceId

structure ServiceView (k : Nat) where
  cluster : ClusterView k
  relays : Nat → Option (RelayCall k)
  lost : Nat → Bool

def Service.seenBy (t : Service k) (owner : Uuid → Uuid) (tokens : Nat → Uuid) (v : Uuid) :
    ServiceView k where
  cluster := t.cluster.seenBy owner tokens v
  relays id := if tokens id = v then t.relays id else none
  lost id := if tokens id = v then t.lost id else false

/-- Everything that the nodes have of a user belongs to the user, and no listener has a handler. -/
structure Service.Separate (t : Service k) (owner : Uuid → Uuid) (tokens : Nat → Uuid) :
    Prop where
  cluster : t.cluster.Separate owner tokens
  relays : ∀ id call, t.relays id = some call → call.Concerns owner tokens (tokens id)
  names : t.names = fun _ => PubSubNames.imported.lifespan

/-- A step of the user: nobody else sees it, and what it sends stays with the user. -/
structure Service.Acts (t : Service k) (owner : Uuid → Uuid) (tokens : Nat → Uuid) (u : Uuid)
    (p : Service k × Sent) : Prop where
  unseen : ∀ v, u ≠ v → p.1.seenBy owner tokens v = t.seenBy owner tokens v
  separate : p.1.Separate owner tokens
  confined : p.2.Confined owner tokens u

def ServiceOp.Authentic (tokens : Nat → Uuid) : ServiceOp k → Prop
  | .call op => op.Authentic tokens
  | _ => True

/-- Nobody opens a session, or asks for the peers, of a device that the user of the token does not
own. -/
def ServiceOp.Entitled (owner : Uuid → Uuid) (tokens : Nat → Uuid) : ServiceOp k → Prop
  | .call op => op.Entitled owner tokens
  | .query id _ deviceId => owner deviceId = tokens id
  | _ => True

def Service.HasRoom (t : Service k) (tokens : Nat → Uuid) (v : Uuid) : ServiceOp k → Prop
  | .call op => t.cluster.HasRoom tokens v op
  | _ => True

/-- The user who takes a step; a listener acts for nobody. -/
def ServiceOp.user (tokens : Nat → Uuid) : ServiceOp k → Option Uuid
  | .call op => some (op.user tokens)
  | .receive id _ | .relay id | .lose id | .query id _ _ => some (tokens id)
  | .listen _ => none

section Acting
variable {owner : Uuid → Uuid} {tokens : Nat → Uuid} {t : Service k} {u d : Uuid} {id : Nat}
variable {s : ClusterSession k} {signal : Signal} {node : Fin k}

theorem Service.Separate.hub (h : t.Separate owner tokens) (node : Fin k) :
    (t.hub node).Separate owner tokens :=
  h.cluster.hubs node

theorem confined_nil : Sent.Confined [] owner tokens u := by
  intro e he
  cases he

theorem confined_send {ws : Nat} {m : ServerMessage} (hws : tokens ws = u)
    (hm : ∀ d ∈ m.devices, owner d = u) : (t.send ws m).Confined owner tokens u := by
  unfold Service.send
  split
  · intro e he
    cases List.mem_singleton.mp he
    exact ⟨hws, hm⟩
  · exact confined_nil

theorem confined_error {ws : Nat} (hws : tokens ws = u) (message : String) :
    (t.send ws (.error message)).Confined owner tokens u :=
  confined_send hws (fun _ hd => by cases hd)

theorem Service.Separate.confined_status (h : t.Separate owner tokens) {d' : Uuid}
    (hd : owner d = u) (hd' : owner d' = u) (online : Bool) :
    (t.notify node d (.deviceStatus d' online)).Confined owner tokens u := by
  unfold Service.notify
  split
  · exact confined_nil
  · next conn hconn =>
    apply confined_send (((h.hub node).entry d conn hconn).2.trans hd)
    intro d'' hd''
    cases List.mem_singleton.mp hd''
    exact hd'

theorem Service.seenBy_setRelay (call : Option (RelayCall k)) (v : Uuid) :
    (t.setRelay id call).seenBy owner tokens v =
      if tokens id = v then
        { t.seenBy owner tokens v with
          relays := Function.update (t.seenBy owner tokens v).relays id call }
      else t.seenBy owner tokens v := by
  have hrelays : ((t.setRelay id call).seenBy owner tokens v).relays =
      if tokens id = v then Function.update (t.seenBy owner tokens v).relays id call
      else (t.seenBy owner tokens v).relays := by
    funext id'
    by_cases hid : tokens id = v
    · rw [if_pos hid, Function.update_apply]
      by_cases he : id' = id
      · rw [if_pos he, he]
        exact (if_pos hid).trans (Function.update_self ..)
      · rw [if_neg he]
        exact if_congr Iff.rfl (Function.update_of_ne he ..) rfl
    · rw [if_neg hid]
      by_cases hid' : tokens id' = v
      · have hne : id' ≠ id := by
          rintro rfl
          exact hid hid'
        exact if_congr Iff.rfl (Function.update_of_ne hne ..) rfl
      · exact (if_neg hid').trans (if_neg hid').symm
  split
  · next hid =>
    rw [if_pos hid] at hrelays
    exact congrArg (ServiceView.mk _ · _) hrelays
  · next hid =>
    rw [if_neg hid] at hrelays
    exact congrArg (ServiceView.mk _ · _) hrelays

theorem Service.Separate.setRelay (h : t.Separate owner tokens) {call : Option (RelayCall k)}
    (hcall : ∀ c ∈ call, c.Concerns owner tokens (tokens id)) :
    (t.setRelay id call).Separate owner tokens where
  cluster := h.cluster
  names := h.names
  relays := by
    intro id' c hc
    rw [Service.setRelay] at hc
    dsimp only at hc
    rw [Function.update_apply] at hc
    split at hc
    · next he =>
      rw [he]
      exact hcall c hc
    · exact h.relays id' c hc

theorem Service.Separate.acts_setRelay (h : t.Separate owner tokens) {call : Option (RelayCall k)}
    {sent : Sent} (hcall : ∀ c ∈ call, c.Concerns owner tokens (tokens id))
    (hsent : sent.Confined owner tokens (tokens id)) :
    t.Acts owner tokens (tokens id) (t.setRelay id call, sent) where
  unseen v hv := (Service.seenBy_setRelay call v).trans (if_neg hv)
  separate := h.setRelay hcall
  confined := hsent

theorem Service.Separate.acts_self (h : t.Separate owner tokens) {sent : Sent}
    (hsent : sent.Confined owner tokens u) : t.Acts owner tokens u (t, sent) :=
  ⟨fun _ _ => rfl, h, hsent⟩

theorem Service.Separate.acts_undelivered (h : t.Separate owner tokens) :
    t.Acts owner tokens (tokens id) (t.undelivered id) := by
  apply h.acts_setRelay
  · intro c hc
    cases hc
  · exact confined_error rfl _

theorem Service.Separate.acts_lookUp (h : t.Separate owner tokens)
    (hfrom : owner signal.fromDevice = tokens id) :
    t.Acts owner tokens (tokens id) (t.lookUp id node signal) := by
  unfold Service.lookUp
  split
  · exact h.acts_undelivered
  · next conn hconn =>
    have hu : conn.userId = tokens id := ((h.hub node).entry _ conn hconn).1.trans hfrom
    apply h.acts_setRelay _ confined_nil
    intro c hc
    cases hc
    exact ⟨hfrom, hu⟩

theorem Service.Separate.acts_startRelay (h : t.Separate owner tokens)
    (hfrom : owner signal.fromDevice = tokens id) :
    t.Acts owner tokens (tokens id) (t.startRelay id node signal) := by
  unfold Service.startRelay
  split
  · next target htarget =>
    obtain ⟨sender, hsender, hfound, hu⟩ := relayTarget_eq_some htarget
    have howner := (h.hub node).entry _ sender hsender
    have hentry := (h.hub node).entry _ target hfound
    have hto : owner signal.toDevice = tokens id :=
      hentry.1.symm.trans (hu.trans (howner.1.trans hfrom))
    apply h.acts_setRelay _ confined_nil
    intro c hc
    cases hc
    exact ⟨hfrom, hentry.2.trans hto, hto⟩
  · exact h.acts_lookUp hfrom

theorem Service.Separate.dropDevice (h : t.Separate owner tokens) (node : Fin k) (d : Uuid) :
    (t.dropDevice node d).Separate owner tokens where
  cluster := h.cluster.setHub ((h.hub node).disconnect d)
  relays := h.relays
  names := h.names

theorem Service.Separate.seenBy_dropDevice (h : t.Separate owner tokens) {v : Uuid}
    (hd : owner d ≠ v) :
    (t.dropDevice node d).seenBy owner tokens v = t.seenBy owner tokens v := by
  have hcluster : (t.cluster.setHub node ((t.hub node).disconnect d)).seenBy owner tokens v =
      t.cluster.seenBy owner tokens v :=
    Cluster.seenBy_setHub_of_eq ((h.hub node).seenBy_disconnect_of_ne hd)
  exact congrArg (ServiceView.mk · _ _) hcluster

theorem Service.Separate.acts_evict (h : t.Separate owner tokens)
    (hfrom : owner signal.fromDevice = tokens id) (hto : owner signal.toDevice = tokens id) :
    t.Acts owner tokens (tokens id) (t.evict id node signal) := by
  unfold Service.evict
  split
  · exact h.acts_lookUp hfrom
  · next conn hconn =>
    have hdropped := h.dropDevice node signal.toDevice
    have hu : conn.userId = tokens id := ((h.hub node).entry _ conn hconn).1.trans hto
    have hnotify : ∀ d ∈ (((t.dropDevice node signal.toDevice).hub node).devicesOf
        conn.userId).toList, owner d = tokens id := by
      intro d hd
      exact ((hdropped.hub node).devices _ d (Std.TreeSet.mem_toList.mp hd)).trans hu
    have hcall : ∀ c ∈ some (RelayCall.mk signal (RelayPhase.evicted (k := k) conn.userId
        (((t.dropDevice node signal.toDevice).hub node).devicesOf conn.userId).toList)),
        c.Concerns owner tokens (tokens id) := by
      intro c hc
      cases hc
      exact ⟨hfrom, hu, hto, hnotify⟩
    have hacts := hdropped.acts_setRelay hcall confined_nil
    refine ⟨?_, hacts.separate, hacts.confined⟩
    intro v hv
    exact (hacts.unseen v hv).trans (h.seenBy_dropDevice (hto ▸ hv))

theorem Service.Separate.publish (h : t.Separate owner tokens) (node : Fin k) (signal : Signal) :
    (t.publish node signal).Separate owner tokens where
  cluster := h.cluster
  relays := h.relays
  names := h.names

theorem Service.Separate.acts_relayStep (h : t.Separate owner tokens) {call : RelayCall k}
    (hcall : call.Concerns owner tokens (tokens id)) :
    t.Acts owner tokens (tokens id) (t.relayStep id node call) := by
  obtain ⟨signal, phase⟩ := call
  obtain ⟨hfrom, hphase⟩ := hcall
  dsimp only at hfrom hphase
  cases phase with
  | sending ws =>
    obtain ⟨hws, hto⟩ := hphase
    rw [Service.relayStep]
    split
    · apply h.acts_setRelay
      · intro c hc
        cases hc
      · intro e he
        cases List.mem_singleton.mp he
        refine ⟨hws, ?_⟩
        intro d hd
        rcases List.mem_cons.mp hd with rfl | hd
        · exact hfrom
        · cases List.mem_singleton.mp hd
          exact hto
    · exact h.acts_evict hfrom hto
  | evicted u' notify =>
    obtain ⟨hu, hto, hnotify⟩ := hphase
    cases notify with
    | nil => exact h.acts_lookUp hfrom
    | cons d notify =>
      apply h.acts_setRelay
      · intro c hc
        cases hc
        exact ⟨hfrom, hu, hto, fun d' hd' => hnotify d' (List.mem_cons_of_mem d hd')⟩
      · exact h.confined_status (hnotify d List.mem_cons_self) hto false
  | lookingUp u' =>
    rw [Service.relayStep]
    split
    · exact h.acts_undelivered
    · split
      · exact h.acts_undelivered
      · apply h.acts_setRelay _ confined_nil
        intro c hc
        cases hc
        exact ⟨hfrom, trivial⟩
  | publishing target =>
    have hdone : ∀ c ∈ (none : Option (RelayCall k)), c.Concerns owner tokens (tokens id) := by
      intro c hc
      cases hc
    have hacts := (h.publish target signal).acts_setRelay hdone confined_nil
    exact ⟨hacts.unseen, hacts.separate, hacts.confined⟩

theorem handleSignal_of (target : Uuid) (type : SignalType) (payload : Payload) :
    (handleSignal d target type payload).Of d := by
  unfold handleSignal
  split
  · rfl
  · split
    · split <;> rfl
    · split <;> rfl

theorem handle_of (message : ClientMessage) : (message.handle d).Of d := by
  cases message with
  | ping => rfl
  | getPeers => trivial
  | offer target sdp => exact handleSignal_of target .offer (.sdp sdp)
  | answer target sdp => exact handleSignal_of target .answer (.sdp sdp)
  | iceCandidate target candidate sdpMid sdpMlineIndex =>
    exact handleSignal_of target .iceCandidate (.candidate candidate sdpMid sdpMlineIndex)
  | refused message => rfl

theorem Service.Separate.confined_peers (h : t.Separate owner tokens) (hd : owner d = u) :
    ∀ d' ∈ (ServerMessage.peersList ((t.hub node).getOnlinePeers d)).devices, owner d' = u :=
  fun _ hd' => ((h.hub node).owner_of_mem_peers hd').trans hd

theorem Service.Separate.acts_receive (h : t.Separate owner tokens)
    (hs : s.Concerns owner (tokens id)) (message : ClientMessage) :
    t.Acts owner tokens (tokens id) (t.receive id s message) := by
  have hof : (message.handle s.deviceId).Of s.deviceId := handle_of message
  unfold Service.receive
  split
  · next reply hreply =>
    apply h.acts_self (confined_send rfl _)
    intro d hd
    rw [hreply] at hof
    have hnone : reply.devices = [] := hof
    rw [hnone] at hd
    cases hd
  · exact h.acts_self (confined_send rfl (h.confined_peers hs.device))
  · next signal hrelay =>
    rw [hrelay] at hof
    have hfrom : signal.fromDevice = s.deviceId := hof
    apply h.acts_startRelay
    rw [hfrom]
    exact hs.device

theorem Service.Separate.confined_advanceSent (h : t.Separate owner tokens)
    (hs : s.Concerns owner (tokens id)) :
    (t.advanceSent id s).Confined owner tokens (tokens id) := by
  have hphase := hs.phase
  unfold Service.advanceSent
  generalize s.phase = phase at hphase
  cases phase with
  | arrived =>
    dsimp only
    split
    · exact confined_nil
    · exact confined_error rfl _
  | checkedGlobal =>
    dsimp only
    split
    · exact confined_nil
    · exact confined_error rfl _
  | checkedUser =>
    dsimp only
    split
    · exact confined_error rfl _
    · exact confined_nil
  | connected notify =>
    cases notify with
    | nil => exact confined_nil
    | cons d notify => exact h.confined_status (hphase d List.mem_cons_self) hs.device true
  | expirySet =>
    apply confined_send rfl
    intro d hd
    cases List.mem_singleton.mp hd
    exact hs.device
  | left u notify =>
    cases notify with
    | nil => exact confined_nil
    | cons d notify => exact h.confined_status (hphase.2 d List.mem_cons_self) hs.device false
  | _ => exact confined_nil

theorem Service.Separate.confined_callSent (h : t.Separate owner tokens) (op : CallOp k) :
    (t.callSent op).Confined owner tokens (op.user tokens) := by
  cases op with
  | advance id =>
    rw [Service.callSent]
    cases hs : t.cluster.sessions[id]? with
    | none => exact confined_nil
    | some s => exact h.confined_advanceSent (h.cluster.sessions id s hs)
  | _ => exact confined_nil

theorem Service.Separate.acts_call (h : t.Separate owner tokens) {op : CallOp k}
    (hauthentic : op.Authentic tokens) (hentitled : op.Entitled owner tokens) :
    t.Acts owner tokens (op.user tokens) (t.step (.call op)) := by
  rw [Service.step]
  split
  · exact h.acts_self confined_nil
  · constructor
    · intro v hv
      exact congrArg (ServiceView.mk · _ _) (h.cluster.seenBy_step_of_ne hv)
    · exact ⟨h.cluster.step hauthentic hentitled, h.relays, h.names⟩
    · exact h.confined_callSent op

theorem Service.Separate.acts_step (h : t.Separate owner tokens) {op : ServiceOp k}
    (hauthentic : op.Authentic tokens) (hentitled : op.Entitled owner tokens)
    (hu : op.user tokens = some u) : t.Acts owner tokens u (t.step op) := by
  cases op with
  | call op =>
    cases hu
    exact h.acts_call hauthentic hentitled
  | receive id message =>
    cases hu
    rw [Service.step]
    split
    · next hs _ => exact h.acts_receive (h.cluster.sessions id _ hs) message
    · exact h.acts_self confined_nil
  | relay id =>
    cases hu
    rw [Service.step]
    split
    · next hcall => exact h.acts_relayStep (h.relays id _ hcall)
    · exact h.acts_self confined_nil
  | lose id =>
    cases hu
    constructor
    · intro v hv
      have hlost :
          (fun id' => if tokens id' = v then Function.update t.lost id true id' else false) =
            fun id' => if tokens id' = v then t.lost id' else false := by
        funext id'
        split
        · next hid' =>
          rw [Function.update_of_ne]
          rintro rfl
          exact hv hid'
        · rfl
      exact congrArg (ServiceView.mk _ _) hlost
    · exact ⟨h.cluster, h.relays, h.names⟩
    · exact confined_nil
  | query id node deviceId =>
    cases hu
    apply h.acts_self
    intro e he
    cases List.mem_singleton.mp he
    exact ⟨rfl, h.confined_peers hentitled⟩
  | listen node => cases hu

/-- A listener passes over the messages for its node, which no user sees. -/
theorem Service.Separate.listen (h : t.Separate owner tokens) (node : Fin k) :
    (t.listen node).1.Separate owner tokens ∧ (t.listen node).2 = [] ∧
      ∀ v, (t.listen node).1.seenBy owner tokens v = t.seenBy owner tokens v := by
  unfold Service.listen
  split
  · next signal rest _ _ =>
    have hprocess := Service.process_of_lifespan
      (t := { t with channels := Function.update t.channels node rest }) h.names node signal
    rw [hprocess]
    exact ⟨⟨h.cluster, h.relays, h.names⟩, rfl, fun _ => rfl⟩
  · exact ⟨h, rfl, fun _ => rfl⟩

theorem Service.Separate.step (h : t.Separate owner tokens) {op : ServiceOp k}
    (hauthentic : op.Authentic tokens) (hentitled : op.Entitled owner tokens) :
    (t.step op).1.Separate owner tokens := by
  cases hu : op.user tokens with
  | some u => exact (h.acts_step hauthentic hentitled hu).separate
  | none =>
    cases op with
    | listen node => exact (h.listen node).1
    | _ => cases hu

theorem separate_start (k : Nat) : (Service.start k).Separate owner tokens where
  cluster := by
    constructor
    · intro n
      constructor
      · intro d conn hconn
        rw [Service.start, Cluster.new, SignalingHub.connection, SignalingHub.new,
          Std.TreeMap.getElem?_emptyc] at hconn
        cases hconn
      · intro u d hd
        rw [SignalingHub.devicesOf, Service.start, Cluster.new, SignalingHub.new,
          Std.TreeMap.getElem?_emptyc] at hd
        exact (Std.TreeSet.not_mem_emptyc hd).elim
      · rfl
    · intro id s hs
      rw [Service.start, Cluster.new, Std.TreeMap.getElem?_emptyc] at hs
      cases hs
  relays := by
    intro id call hcall
    cases hcall
  names := rfl

end Acting

end P2PMesh.Signaling
