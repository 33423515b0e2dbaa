import P2PMesh.Base.Noninterference
import P2PMesh.SignalingConfinement

namespace P2PMesh.Signaling
open P2PMesh.Base
set_option autoImplicit true

/-- Two outcomes of one step of a user: to the user they look the same. -/
def SameTo (owner : Uuid → Uuid) (tokens : Nat → Uuid) (v : Uuid) (p p' : Service k × Sent) :
    Prop :=
  p.1.seenBy owner tokens v = p'.1.seenBy owner tokens v ∧ p.2 = p'.2

section Seeing
variable {owner : Uuid → Uuid} {tokens : Nat → Uuid} {t t' : Service k} {v d : Uuid} {id : Nat}
variable {s : ClusterSession k} {signal : Signal} {node : Fin k}

theorem Service.cluster_of_seenBy (hview : t.seenBy owner tokens v = t'.seenBy owner tokens v) :
    t.cluster.seenBy owner tokens v = t'.cluster.seenBy owner tokens v :=
  congrArg ServiceView.cluster hview

theorem Service.hub_of_seenBy (hview : t.seenBy owner tokens v = t'.seenBy owner tokens v)
    (node : Fin k) : (t.hub node).seenBy owner v = (t'.hub node).seenBy owner v :=
  Cluster.hub_of_seenBy (Service.cluster_of_seenBy hview) node

theorem Service.session_of_seenBy (hview : t.seenBy owner tokens v = t'.seenBy owner tokens v)
    (hid : tokens id = v) : t.cluster.sessions[id]? = t'.cluster.sessions[id]? :=
  Cluster.session_of_seenBy (Service.cluster_of_seenBy hview) hid

theorem Service.relay_of_seenBy (hview : t.seenBy owner tokens v = t'.seenBy owner tokens v)
    (hid : tokens id = v) : t.relays id = t'.relays id := by
  have hrelay : (if tokens id = v then t.relays id else none) =
      if tokens id = v then t'.relays id else none :=
    congrFun (congrArg ServiceView.relays hview) id
  rwa [if_pos hid, if_pos hid] at hrelay

theorem Service.isOpen_of_seenBy (hview : t.seenBy owner tokens v = t'.seenBy owner tokens v)
    (hid : tokens id = v) : t.isOpen id = t'.isOpen id := by
  have hlost : (if tokens id = v then t.lost id else false) =
      if tokens id = v then t'.lost id else false :=
    congrFun (congrArg ServiceView.lost hview) id
  rw [if_pos hid, if_pos hid] at hlost
  rw [Service.isOpen, Service.isOpen, hlost, Service.session_of_seenBy hview hid]

theorem Service.send_of_seenBy (hview : t.seenBy owner tokens v = t'.seenBy owner tokens v)
    (hid : tokens id = v) (m : ServerMessage) : t.send id m = t'.send id m := by
  rw [Service.send, Service.isOpen_of_seenBy hview hid, Service.send]

theorem Service.Separate.notify_of_seenBy (h : t.Separate owner tokens)
    (hview : t.seenBy owner tokens v = t'.seenBy owner tokens v) (hd : owner d = v)
    (m : ServerMessage) : t.notify node d m = t'.notify node d m := by
  rw [Service.notify, Service.notify, ← connection_of_seenBy (Service.hub_of_seenBy hview node) hd]
  cases hconn : (t.hub node).connection d with
  | none => rfl
  | some conn =>
    exact Service.send_of_seenBy hview (((h.hub node).entry d conn hconn).2.trans hd) m

theorem Service.seenBy_setRelay_congr (hview : t.seenBy owner tokens v = t'.seenBy owner tokens v)
    (call : Option (RelayCall k)) :
    (t.setRelay id call).seenBy owner tokens v = (t'.setRelay id call).seenBy owner tokens v := by
  rw [Service.seenBy_setRelay, Service.seenBy_setRelay, hview]

theorem Service.undelivered_congr (hview : t.seenBy owner tokens v = t'.seenBy owner tokens v)
    (hid : tokens id = v) : SameTo owner tokens v (t.undelivered id) (t'.undelivered id) :=
  ⟨Service.seenBy_setRelay_congr hview none, Service.send_of_seenBy hview hid _⟩

theorem Service.lookUp_congr (hview : t.seenBy owner tokens v = t'.seenBy owner tokens v)
    (hid : tokens id = v) (hfrom : owner signal.fromDevice = v) :
    SameTo owner tokens v (t.lookUp id node signal) (t'.lookUp id node signal) := by
  rw [Service.lookUp, Service.lookUp,
    connection_of_seenBy (Service.hub_of_seenBy hview node) hfrom]
  cases (t'.hub node).connection signal.fromDevice with
  | none => exact Service.undelivered_congr hview hid
  | some conn => exact ⟨Service.seenBy_setRelay_congr hview _, rfl⟩

theorem Service.Separate.startRelay_congr (h : t.Separate owner tokens)
    (h' : t'.Separate owner tokens)
    (hview : t.seenBy owner tokens v = t'.seenBy owner tokens v) (hid : tokens id = v)
    (hfrom : owner signal.fromDevice = v) :
    SameTo owner tokens v (t.startRelay id node signal) (t'.startRelay id node signal) := by
  have hhub := Service.hub_of_seenBy hview node
  rw [Service.startRelay, Service.startRelay,
    relayTarget_of_seenBy (h.hub node) (h'.hub node) hhub hfrom]
  cases (t'.hub node).relayTarget signal.fromDevice signal.toDevice with
  | none => exact Service.lookUp_congr hview hid hfrom
  | some target => exact ⟨Service.seenBy_setRelay_congr hview _, rfl⟩

theorem Service.seenBy_dropDevice_eq (t : Service k) (v : Uuid) :
    (t.dropDevice node d).seenBy owner tokens v =
      { t.seenBy owner tokens v with
        cluster := (t.cluster.setHub node ((t.hub node).disconnect d)).seenBy owner tokens v } :=
  rfl

theorem Service.seenBy_dropDevice_congr
    (hview : t.seenBy owner tokens v = t'.seenBy owner tokens v) (hd : owner d = v) :
    (t.dropDevice node d).seenBy owner tokens v =
      (t'.dropDevice node d).seenBy owner tokens v := by
  have hhub := seenBy_disconnect_congr (Service.hub_of_seenBy hview node) hd
  rw [Service.seenBy_dropDevice_eq, Service.seenBy_dropDevice_eq, Cluster.seenBy_setHub,
    Cluster.seenBy_setHub, hhub, Service.cluster_of_seenBy hview, hview]

theorem Service.Separate.evict_congr (h' : t'.Separate owner tokens)
    (hview : t.seenBy owner tokens v = t'.seenBy owner tokens v) (hid : tokens id = v)
    (hfrom : owner signal.fromDevice = v) (hto : owner signal.toDevice = v) :
    SameTo owner tokens v (t.evict id node signal) (t'.evict id node signal) := by
  rw [Service.evict, Service.evict, connection_of_seenBy (Service.hub_of_seenBy hview node) hto]
  cases hconn : (t'.hub node).connection signal.toDevice with
  | none => exact Service.lookUp_congr hview hid hfrom
  | some conn =>
    dsimp only
    have hu : conn.userId = v := ((h'.hub node).entry _ conn hconn).1.trans hto
    have hdropped : (t.dropDevice node signal.toDevice).seenBy owner tokens v =
        (t'.dropDevice node signal.toDevice).seenBy owner tokens v :=
      Service.seenBy_dropDevice_congr hview hto
    rw [hu, devicesOf_of_seenBy (Service.hub_of_seenBy hdropped node)]
    exact ⟨Service.seenBy_setRelay_congr hdropped _, rfl⟩

theorem Service.Separate.relayStep_congr (h : t.Separate owner tokens)
    (h' : t'.Separate owner tokens) (hview : t.seenBy owner tokens v = t'.seenBy owner tokens v)
    (hid : tokens id = v) {call : RelayCall k} (hcall : call.Concerns owner tokens v) :
    SameTo owner tokens v (t.relayStep id node call) (t'.relayStep id node call) := by
  obtain ⟨signal, phase⟩ := call
  obtain ⟨hfrom, hphase⟩ := hcall
  dsimp only at hfrom hphase
  cases phase with
  | sending ws =>
    obtain ⟨hws, hto⟩ := hphase
    rw [Service.relayStep, Service.relayStep, Service.isOpen_of_seenBy hview hws]
    split
    · exact ⟨Service.seenBy_setRelay_congr hview none, rfl⟩
    · exact h'.evict_congr hview hid hfrom hto
  | evicted u notify =>
    cases notify with
    | nil => exact Service.lookUp_congr hview hid hfrom
    | cons d notify =>
      exact ⟨Service.seenBy_setRelay_congr hview _,
        h.notify_of_seenBy hview (hphase.2.2 d List.mem_cons_self) _⟩
  | lookingUp u =>
    have hu : u = v := hphase
    have hstore := Cluster.store_of_seenBy (Service.cluster_of_seenBy hview)
    have hnode : t.cluster.store.getDeviceNode signal.toDevice u =
        t'.cluster.store.getDeviceNode signal.toDevice u := by
      rw [hu]
      exact congrFun (congrArg StoreView.nodes hstore) signal.toDevice
    rw [Service.relayStep, Service.relayStep, hnode]
    split
    · exact Service.undelivered_congr hview hid
    · split
      · exact Service.undelivered_congr hview hid
      · exact ⟨Service.seenBy_setRelay_congr hview _, rfl⟩
  | publishing target =>
    have hpublish : (t.publish target signal).seenBy owner tokens v =
        (t'.publish target signal).seenBy owner tokens v := hview
    exact ⟨Service.seenBy_setRelay_congr hpublish none, rfl⟩

theorem Service.Separate.receive_congr (h : t.Separate owner tokens)
    (h' : t'.Separate owner tokens) (hview : t.seenBy owner tokens v = t'.seenBy owner tokens v)
    (hid : tokens id = v) (hd : owner s.deviceId = v) (message : ClientMessage) :
    SameTo owner tokens v (t.receive id s message) (t'.receive id s message) := by
  have hof : (message.handle s.deviceId).Of s.deviceId := handle_of message
  rw [Service.receive, Service.receive]
  generalize message.handle s.deviceId = handling at hof
  cases handling with
  | reply reply => exact ⟨hview, Service.send_of_seenBy hview hid reply⟩
  | peers =>
    dsimp only
    rw [getOnlinePeers_of_seenBy (h.hub s.node) (Service.hub_of_seenBy hview s.node) hd]
    exact ⟨hview, Service.send_of_seenBy hview hid _⟩
  | relay signal =>
    have hfrom : signal.fromDevice = s.deviceId := hof
    exact h.startRelay_congr h' hview hid (hfrom ▸ hd)

theorem Service.Separate.advanceSent_congr (h : t.Separate owner tokens)
    (h' : t'.Separate owner tokens) (hview : t.seenBy owner tokens v = t'.seenBy owner tokens v)
    (hid : tokens id = v) (hs : t.cluster.sessions[id]? = some s)
    (hs' : t'.cluster.sessions[id]? = some s)
    (hroom : t.cluster.HasRoom tokens v (.advance id))
    (hroom' : t'.cluster.HasRoom tokens v (.advance id)) :
    t.advanceSent id s = t'.advanceSent id s := by
  obtain ⟨huser, hdevice, hphase⟩ := h.cluster.sessions id s hs
  obtain ⟨hglobal, hnode⟩ := hroom hid s hs
  obtain ⟨hglobal', hnode'⟩ := hroom' hid s hs'
  have hu : s.userId = v := huser.trans hid
  unfold Service.advanceSent
  generalize s.phase = phase at hphase hglobal hnode hglobal' hnode'
  cases phase with
  | arrived =>
    dsimp only
    rw [hglobal rfl, hglobal' rfl, if_pos rfl, if_pos rfl]
  | checkedGlobal =>
    have hstore := Cluster.store_of_seenBy (Service.cluster_of_seenBy hview)
    dsimp only
    rw [SharedStore.checkUserConnectionLimit, SharedStore.checkUserConnectionLimit, hu,
      SharedStore.userCount_of_seenBy hstore, Service.send_of_seenBy hview hid]
  | checkedUser =>
    have hlimits : (t.hub s.node).checkLimits s.userId = (t'.hub s.node).checkLimits s.userId := by
      rw [(h.hub s.node).checkLimits_eq (hnode rfl), (h'.hub s.node).checkLimits_eq (hnode' rfl),
        hu, devicesOf_of_seenBy (Service.hub_of_seenBy hview s.node)]
    dsimp only
    rw [SignalingHub.connect, SignalingHub.connect, hlimits]
    cases (t'.hub s.node).checkLimits s.userId with
    | error e => exact Service.send_of_seenBy hview hid _
    | ok => rfl
  | connected notify =>
    cases notify with
    | nil => rfl
    | cons d notify =>
      exact h.notify_of_seenBy hview ((hphase d List.mem_cons_self).trans hid) _
  | expirySet => exact Service.send_of_seenBy hview hid _
  | left u notify =>
    cases notify with
    | nil => rfl
    | cons d notify =>
      exact h.notify_of_seenBy hview ((hphase.2 d List.mem_cons_self).trans hid) _
  | _ => rfl

theorem Service.busy_of_seenBy (hview : t.seenBy owner tokens v = t'.seenBy owner tokens v)
    {op : CallOp k} (hop : op.user tokens = v) : t.busy op = t'.busy op := by
  cases op with
  | close id => exact congrArg Option.isSome (Service.relay_of_seenBy hview hop)
  | _ => rfl

theorem Service.Separate.callSent_congr (h : t.Separate owner tokens)
    (h' : t'.Separate owner tokens) (hview : t.seenBy owner tokens v = t'.seenBy owner tokens v)
    {op : CallOp k} (hop : op.user tokens = v) (hroom : t.cluster.HasRoom tokens v op)
    (hroom' : t'.cluster.HasRoom tokens v op) : t.callSent op = t'.callSent op := by
  cases op with
  | advance id =>
    have hsession := Service.session_of_seenBy hview hop
    rw [Service.callSent, Service.callSent, hsession]
    cases hs : t'.cluster.sessions[id]? with
    | none => rfl
    | some s => exact h.advanceSent_congr h' hview hop (hsession.trans hs) hs hroom hroom'
  | _ => rfl

theorem Service.seenBy_lose_congr (hview : t.seenBy owner tokens v = t'.seenBy owner tokens v) :
    Service.seenBy { t with lost := Function.update t.lost id true } owner tokens v =
      Service.seenBy { t' with lost := Function.update t'.lost id true } owner tokens v := by
  have hlost : (fun id' => if tokens id' = v then Function.update t.lost id true id' else false) =
      fun id' => if tokens id' = v then Function.update t'.lost id true id' else false := by
    funext id'
    have hsame : (if tokens id' = v then t.lost id' else false) =
        if tokens id' = v then t'.lost id' else false :=
      congrFun (congrArg ServiceView.lost hview) id'
    by_cases hid : tokens id' = v
    · rw [if_pos hid, if_pos hid] at hsame ⊢
      rw [Function.update_apply, Function.update_apply, hsame]
    · rw [if_neg hid, if_neg hid]
  have hrest := congrArg (fun w => ServiceView.mk w.cluster w.relays
    (fun id' => if tokens id' = v then Function.update t'.lost id true id' else false)) hview
  exact (congrArg (ServiceView.mk _ _) hlost).trans hrest

/-- What a step of the user does to what the user sees, and what it sends, depends on what the user
sees before. -/
theorem Service.Separate.step_congr (h : t.Separate owner tokens) (h' : t'.Separate owner tokens)
    (hview : t.seenBy owner tokens v = t'.seenBy owner tokens v) {op : ServiceOp k}
    (hentitled : op.Entitled owner tokens) (hu : op.user tokens = some v)
    (hroom : t.HasRoom tokens v op) (hroom' : t'.HasRoom tokens v op) :
    SameTo owner tokens v (t.step op) (t'.step op) := by
  cases op with
  | call op =>
    have hop : op.user tokens = v := Option.some.inj hu
    rw [Service.step, Service.step, Service.busy_of_seenBy hview hop]
    split
    · exact ⟨hview, rfl⟩
    · have hcluster := h.cluster.seenBy_step_congr h'.cluster hop hroom hroom'
        (Service.cluster_of_seenBy hview)
      have hrest := congrArg (fun w => ServiceView.mk
        ((t'.cluster.step op).seenBy owner tokens v) w.relays w.lost) hview
      exact ⟨(congrArg (ServiceView.mk · _ _) hcluster).trans hrest,
        h.callSent_congr h' hview hop hroom hroom'⟩
  | receive id message =>
    have hid : tokens id = v := Option.some.inj hu
    rw [Service.step, Service.step, Service.session_of_seenBy hview hid,
      Service.relay_of_seenBy hview hid]
    split
    · next hs _ =>
      have hd := (h'.cluster.sessions id _ hs).device.trans hid
      exact h.receive_congr h' hview hid hd message
    · exact ⟨hview, rfl⟩
  | relay id =>
    have hid : tokens id = v := Option.some.inj hu
    rw [Service.step, Service.step, Service.session_of_seenBy hview hid,
      Service.relay_of_seenBy hview hid]
    split
    · next hcall => exact h.relayStep_congr h' hview hid (hid ▸ h'.relays id _ hcall)
    · exact ⟨hview, rfl⟩
  | lose id => exact ⟨Service.seenBy_lose_congr hview, rfl⟩
  | query id node deviceId =>
    have hd : owner deviceId = v := hentitled.trans (Option.some.inj hu)
    have hpeers := getOnlinePeers_of_seenBy (h.hub node) (Service.hub_of_seenBy hview node) hd
    exact ⟨hview, congrArg (fun peers => [(id, ServerMessage.peersList peers)]) hpeers⟩
  | listen node => cases hu

end Seeing

/-- A step as the service is meant to be used: tokens name their users, sessions and queries are
of devices of the user of the token, and the user of interest is not turned away for capacity. -/
structure Service.Proper (t : Service k) (owner : Uuid → Uuid) (tokens : Nat → Uuid) (v : Uuid)
    (op : ServiceOp k) : Prop where
  authentic : op.Authentic tokens
  entitled : op.Entitled owner tokens
  room : t.HasRoom tokens v op

def takenBy (tokens : Nat → Uuid) (v : Uuid) (op : ServiceOp k) : Bool := op.user tokens = some v

def sentTo (tokens : Nat → Uuid) (v : Uuid) (e : Nat × ServerMessage) : Bool := tokens e.1 = v

/-- A user of the service, with what it sees, the steps of its sockets and requests, and what is
sent to these. -/
def userObserver (owner : Uuid → Uuid) (tokens : Nat → Uuid) (v : Uuid) :
    Observer (Service k) (ServiceOp k) (Nat × ServerMessage) (ServiceView k) where
  view t := t.seenBy owner tokens v
  takes := takenBy tokens v
  receives := sentTo tokens v

theorem userObserver_unwinds (owner : Uuid → Uuid) (tokens : Nat → Uuid) (v : Uuid) :
    (userObserver (k := k) owner tokens v).Unwinds Service.step (fun t => t.Separate owner tokens)
      (fun t op => t.Proper owner tokens v op) where
  keeps t op h hok := h.step hok.authentic hok.entitled
  hidden := by
    intro t op h hok hop
    cases hu : op.user tokens with
    | some u =>
      have hacts := h.acts_step hok.authentic hok.entitled hu
      have hne : u ≠ v := by
        rintro rfl
        exact of_decide_eq_false hop hu
      refine ⟨hacts.unseen v hne, List.filter_eq_nil_iff.mpr ?_⟩
      intro e he hv
      exact hne ((hacts.confined e he).1.symm.trans (of_decide_eq_true hv))
    | none =>
      cases op with
      | listen node =>
        obtain ⟨-, hsent, hview⟩ := h.listen node
        refine ⟨hview v, ?_⟩
        rw [Service.step, hsent]
        rfl
      | _ => cases hu
  own := by
    intro t t' op h h' hok hok' hop hview
    have hsame := h.step_congr h' hview hok.entitled (of_decide_eq_true hop) hok.room hok'.room
    exact ⟨hsame.1, congrArg (List.filter (sentTo tokens v)) hsame.2⟩

theorem Service.Separate.owner_of_mem_sent {owner : Uuid → Uuid} {tokens : Nat → Uuid}
    {t : Service k} (h : t.Separate owner tokens) {op : ServiceOp k}
    (hauthentic : op.Authentic tokens) (hentitled : op.Entitled owner tokens) :
    ∀ e ∈ (t.step op).2, ∀ d ∈ e.2.devices, owner d = tokens e.1 := by
  intro e he d hd
  cases hu : op.user tokens with
  | some u =>
    obtain ⟨hto, hnames⟩ := (h.acts_step hauthentic hentitled hu).confined e he
    exact (hnames d hd).trans hto.symm
  | none =>
    cases op with
    | listen node =>
      rw [Service.step, (h.listen node).2.1] at he
      cases he
    | _ => cases hu

/-- In runs whose steps are proper, what is sent to a user is settled by the steps of the user's own
sockets and requests; it names none but the user's devices; and these steps leave the connections
of everybody else's devices as they are. -/
theorem users_isolated (owner : Uuid → Uuid) (tokens : Nat → Uuid) (v : Uuid) (k : Nat)
    (ops ops' : List (ServiceOp k))
    (h : Guarded (fun t op => (t.step op).1) (fun t op => t.Proper owner tokens v op)
      (Service.start k) ops)
    (h' : Guarded (fun t op => (t.step op).1) (fun t op => t.Proper owner tokens v op)
      (Service.start k) ops')
    (hsame : ops.filter (takenBy tokens v) = ops'.filter (takenBy tokens v)) :
    (emitted Service.step (.start k) ops).filter (sentTo tokens v) =
      (emitted Service.step (.start k) ops').filter (sentTo tokens v) ∧
    (∀ e ∈ emitted Service.step (.start k) ops, tokens e.1 = v →
      ∀ d ∈ e.2.devices, owner d = v) ∧
    ∀ l op, l ++ [op] <+: ops → op.user tokens = some v → ∀ n d, owner d ≠ v →
      (((Service.start k).run (l ++ [op])).hub n).connection d =
        (((Service.start k).run l).hub n).connection d := by
  have hunwinds := userObserver_unwinds (k := k) owner tokens v
  have hstart : (Service.start k).Separate owner tokens := separate_start k
  refine ⟨hunwinds.noninterference hstart hstart rfl h h' hsame, ?_, ?_⟩
  · intro e he hv d hd
    have hnames := forall_mem_emitted (I := fun t => t.Separate owner tokens)
      (p := fun e => ∀ d ∈ e.2.devices, owner d = tokens e.1) hunwinds.keeps
      (fun t op ht hok => ht.owner_of_mem_sent hok.authentic hok.entitled) hstart h
    exact (hnames e he d hd).trans hv
  · rintro l op ⟨rest, rfl⟩ hu n d hd
    rw [guarded_append, guarded_append] at h
    obtain ⟨⟨hl, hop, -⟩, -⟩ := h
    have hseparate : ((Service.start k).run l).Separate owner tokens :=
      hl.invariant hstart hunwinds.keeps
    have hunseen := (hseparate.acts_step hop.authentic hop.entitled hu).unseen (owner d) hd.symm
    rw [Service.run, List.foldl_append]
    exact connection_of_seenBy (Service.hub_of_seenBy hunseen n) rfl

instance decidableAuthentic (tokens : Nat → Uuid) :
    ∀ op : ServiceOp k, Decidable (op.Authentic tokens)
  | .call (.arrive id _ _ userId) => inferInstanceAs (Decidable (userId = tokens id))
  | .call (.advance _) | .call (.close _) | .call (.expire _) => .isTrue trivial
  | .receive .. | .relay _ | .lose _ | .query .. | .listen _ => .isTrue trivial

instance decidableEntitled (owner : Uuid → Uuid) (tokens : Nat → Uuid) :
    ∀ op : ServiceOp k, Decidable (op.Entitled owner tokens)
  | .call (.arrive id _ deviceId _) => inferInstanceAs (Decidable (owner deviceId = tokens id))
  | .query id _ deviceId => inferInstanceAs (Decidable (owner deviceId = tokens id))
  | .call (.advance _) | .call (.close _) | .call (.expire _) => .isTrue trivial
  | .receive .. | .relay _ | .lose _ | .listen _ => .isTrue trivial

instance decidableHasRoom (t : Service k) (tokens : Nat → Uuid) (v : Uuid) :
    ∀ op, Decidable (t.HasRoom tokens v op)
  | .call (.advance id) => inferInstanceAs (Decidable (tokens id = v →
    ∀ s ∈ t.cluster.sessions[id]?,
      (s.phase = .arrived → t.cluster.store.checkGlobalConnectionLimit = true) ∧
      (s.phase = .checkedUser → (t.cluster.hubs s.node).connections.size <
        (t.cluster.hubs s.node).maxConnections)))
  | .call (.arrive ..) | .call (.close _) | .call (.expire _) => .isTrue trivial
  | .receive .. | .relay _ | .lose _ | .query .. | .listen _ => .isTrue trivial

instance decidableProper (t : Service k) (owner : Uuid → Uuid) (tokens : Nat → Uuid) (v : Uuid)
    (op : ServiceOp k) : Decidable (t.Proper owner tokens v op) :=
  decidable_of_iff (op.Authentic tokens ∧ op.Entitled owner tokens ∧ t.HasRoom tokens v op)
    ⟨fun h => ⟨h.1, h.2.1, h.2.2⟩, fun h => ⟨h.1, h.2, h.3⟩⟩

/-- The third device is the second user's, and so is the token of the ninth socket. -/
def twoOwners (deviceId : Uuid) : Uuid := if deviceId = 3 then 8 else 7

def twoTokens (id : Nat) : Uuid := if id = 9 then 8 else 7

/-- The second user connects the third device, with and without the first one there. -/
theorem users_isolated_apart :
    let own := connected (k := 2) 9 0 3 8
    let ops := connected 0 0 1 7 ++ own
    (emitted Service.step (.start 2) ops).filter (sentTo twoTokens 8) =
      (emitted Service.step (.start 2) own).filter (sentTo twoTokens 8) ∧
    (∀ e ∈ emitted Service.step (.start 2) ops, twoTokens e.1 = 8 →
      ∀ d ∈ e.2.devices, twoOwners d = 8) ∧
    ∀ l op, l ++ [op] <+: ops → op.user twoTokens = some 8 → ∀ n d, twoOwners d ≠ 8 →
      (((Service.start 2).run (l ++ [op])).hub n).connection d =
        (((Service.start 2).run l).hub n).connection d :=
  users_isolated twoOwners twoTokens 8 2 _ _ (by decide +kernel) (by decide +kernel) (by rfl)

/-- Two devices of the first user are connected, and the second user asks for the peers of one. -/
def askForPeers : List (ServiceOp 1) :=
  connected 0 0 1 7 ++ connected 1 0 2 7 ++ [.query 9 0 1]

/-- What the second user is returned names a device of the first one and depends on what the first
one does; and a session of the second user takes the first one's connection away. -/
theorem peers_disclosed :
    (¬ ∀ ops ops' : List (ServiceOp 1), (∀ op ∈ ops, op.Authentic twoTokens) →
      (∀ op ∈ ops', op.Authentic twoTokens) →
      ops.filter (takenBy twoTokens 8) = ops'.filter (takenBy twoTokens 8) →
      (emitted Service.step (.start 1) ops).filter (sentTo twoTokens 8) =
        (emitted Service.step (.start 1) ops').filter (sentTo twoTokens 8)) ∧
    (¬ ∀ ops : List (ServiceOp 1), (∀ op ∈ ops, op.Authentic twoTokens) →
      ∀ e ∈ emitted Service.step (.start 1) ops, twoTokens e.1 = 8 →
        ∀ d ∈ e.2.devices, twoOwners d = 8) ∧
    ¬ ∀ (l : List (ServiceOp 1)) (op : ServiceOp 1),
      (∀ op' ∈ l ++ [op], op'.Authentic twoTokens) → op.user twoTokens = some 8 →
      ∀ n d, twoOwners d ≠ 8 →
        (((Service.start 1).run (l ++ [op])).hub n).connection d =
          (((Service.start 1).run l).hub n).connection d := by
  refine ⟨?_, ?_, ?_⟩
  · intro h
    have hsame := h askForPeers [.query 9 0 1] (by decide) (by decide) (by rfl)
    exact absurd (congrArg (List.map (fun e => e.2.devices)) hsame) (by decide +kernel)
  · intro h
    have hnames := h askForPeers (by decide)
    have hany : (emitted Service.step (.start 1) askForPeers).any (fun e =>
        decide (twoTokens e.1 = 8) && e.2.devices.any (fun d => twoOwners d ≠ 8)) = true := by
      decide +kernel
    obtain ⟨e, he, hbad⟩ := List.any_eq_true.mp hany
    obtain ⟨hv, hd⟩ := Bool.and_eq_true_iff.mp hbad
    obtain ⟨d, hmem, hne⟩ := List.any_eq_true.mp hd
    exact of_decide_eq_true hne (hnames e he (of_decide_eq_true hv) d hmem)
  · intro h
    have hkept := h (connected 0 0 1 7 ++ [.call (.arrive 9 0 1 8), .call (.advance 9),
      .call (.advance 9)]) (.call (.advance 9)) (by decide) rfl 0 1 (by decide)
    exact absurd hkept (by decide +kernel)

end P2PMesh.Signaling
