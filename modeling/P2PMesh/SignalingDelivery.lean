import P2PMesh.Base.Noninterference
import P2PMesh.SignalingService

namespace P2PMesh.Signaling
open P2PMesh.Base
set_option autoImplicit true

/-- The signals among what is sent on a socket. -/
def signalsOn (ws : Nat) (sent : Sent) : List Signal :=
  sent.filterMap (fun e =>
    if e.1 = ws then
      match e.2 with
      | .signal s => some s
      | _ => none
    else none)

section Delivery
variable (t : Service k)

/-- The device has a connection as one of the user's on the node, and its socket works. -/
def Service.LiveAt (node : Fin k) (deviceId userId : Uuid) : Prop :=
  ∃ conn, (t.hub node).connection deviceId = some conn ∧ conn.userId = userId ∧
    t.isOpen conn.ws = true

def Service.Absent (deviceId : Uuid) : Prop := ∀ node userId, ¬ t.LiveAt node deviceId userId

/-- A signal that is published to another node for a target that is connected there as a device of
the sender's user is sent on the target's socket once its message has been processed: that signal,
and once. -/
def Service.DeliversAcross (node : Fin k) (signal : Signal) : Prop :=
  ∀ sender target other, (t.hub node).connection signal.fromDevice = some sender →
    other ≠ node → (t.hub other).connection signal.toDevice = some target →
    target.userId = sender.userId → t.isOpen target.ws = true →
    let r := t.relaySignal node signal
    r.delivered = true → ∀ n, r.published = some n →
      signalsOn target.ws (r.sent ++ (r.service.process n signal).2) = [signal]

/-- A relay to a device that is connected nowhere returns that it has not been delivered. -/
def Service.RefusesAbsent (node : Fin k) (signal : Signal) : Prop :=
  t.Absent signal.toDevice → (t.relaySignal node signal).delivered = false

/-- The node that a relay publishes to: what the store has for the target and the user of the
sender, unless it is the sender's own node or the local hub has sent the signal itself. -/
def Service.relayNode (node : Fin k) (signal : Signal) : Option (Fin k) :=
  let found := (t.hub node).relayTarget signal.fromDevice signal.toDevice
  match (t.hub node).connection signal.fromDevice with
  | none => none
  | some sender =>
    if found.any (fun target => t.isOpen target.ws) then none
    else if found.isSome ∧ signal.fromDevice = signal.toDevice then none
    else (t.cluster.store.getDeviceNode signal.toDevice sender.userId).filter (· ≠ node)

/-- The relay does not go through the store, or the target is connected, though nowhere else as a
device of the sender's user. -/
def Service.KeepsLocal (node : Fin k) (signal : Signal) : Prop :=
  ∀ n, t.relayNode node signal = some n → ¬ t.Absent signal.toDevice ∧
    ∀ sender other, (t.hub node).connection signal.fromDevice = some sender → other ≠ node →
      ¬ t.LiveAt other signal.toDevice sender.userId

end Delivery

section Relays
variable {t : Service k}

theorem relayTarget_eq_some {h : SignalingHub} {d d' : Uuid} {target : DeviceConnection}
    (ht : h.relayTarget d d' = some target) :
    ∃ sender, h.connection d = some sender ∧ h.connection d' = some target ∧
      target.userId = sender.userId := by
  unfold SignalingHub.relayTarget at ht
  split at ht
  · next sender target' hsender htarget =>
    split at ht
    · cases ht
    · next hu =>
      cases ht
      exact ⟨sender, hsender, htarget, (not_not.mp hu).symm⟩
  · cases ht

theorem signalsOn_notify (node : Fin k) (d d' : Uuid) (online : Bool) (ws : Nat) :
    signalsOn ws (t.notify node d (.deviceStatus d' online)) = [] := by
  unfold Service.notify
  split
  · rfl
  · next conn _ =>
    unfold Service.send
    split
    · rw [signalsOn, List.filterMap_cons_none]
      · rfl
      · split <;> rfl
    · rfl

theorem signalsOn_notifyLeft (node : Fin k) (d u : Uuid) (ws : Nat) :
    signalsOn ws (t.notifyLeft node d u) = [] := by
  rw [Service.notifyLeft, signalsOn, List.filterMap_flatMap, List.flatMap_eq_nil_iff]
  exact fun d' _ => signalsOn_notify node d' d false ws

theorem Service.hub_dropDevice (node : Fin k) (d : Uuid) :
    (t.dropDevice node d).hub node = (t.hub node).disconnect d :=
  Function.update_self ..

/-- The node that the store has for the target and the user of the sender, if it is another one. -/
def Service.storedNode (t : Service k) (node : Fin k) (signal : Signal) : Option (Fin k) :=
  ((t.hub node).connection signal.fromDevice).bind (fun sender =>
    (t.cluster.store.getDeviceNode signal.toDevice sender.userId).filter (· ≠ node))

theorem Service.relayAcross_eq (t : Service k) (node : Fin k) (signal : Signal) (sent : Sent) :
    t.relayAcross node signal sent =
      match t.storedNode node signal with
      | none => ⟨t, sent, false, none⟩
      | some n => ⟨t.publish n signal, sent, true, some n⟩ := by
  unfold Service.relayAcross Service.storedNode
  cases (t.hub node).connection signal.fromDevice with
  | none => rfl
  | some sender =>
    dsimp only [Option.bind_some]
    cases t.cluster.store.getDeviceNode signal.toDevice sender.userId with
    | none => rfl
    | some n =>
      dsimp only
      rw [Option.filter_some]
      by_cases hn : n = node
      · rw [if_pos hn, if_neg (by simp only [hn, ne_eq, not_true, decide_false]; decide)]
      · rw [if_neg hn, if_pos (decide_eq_true hn)]

theorem Service.relaySignal_cases (t : Service k) (node : Fin k) (signal : Signal) :
    (∃ target, (t.hub node).connection signal.toDevice = some target ∧
      t.isOpen target.ws = true ∧ t.relayNode node signal = none ∧
      t.relaySignal node signal = ⟨t, [(target.ws, .signal signal)], true, none⟩) ∨
    ∃ after sent, after.names = t.names ∧ after.relays = t.relays ∧
      (∀ ws, signalsOn ws sent = []) ∧
      t.relaySignal node signal =
        match t.relayNode node signal with
        | none => ⟨after, sent, false, none⟩
        | some n => ⟨after.publish n signal, sent, true, some n⟩ := by
  unfold Service.relaySignal Service.relayLocally Service.relayNode
  cases htarget : (t.hub node).relayTarget signal.fromDevice signal.toDevice with
  | none =>
    refine .inr ⟨t, [], rfl, rfl, fun _ => rfl, ?_⟩
    dsimp only
    rw [Service.relayAcross_eq, Service.storedNode]
    cases (t.hub node).connection signal.fromDevice <;> rfl
  | some target =>
    obtain ⟨sender, hsender, hfound, -⟩ := relayTarget_eq_some htarget
    dsimp only
    rw [hsender]
    cases hopen : t.isOpen target.ws with
    | true =>
      refine .inl ⟨target, hfound, hopen, ?_, rfl⟩
      dsimp only
      rw [Option.any_some, hopen, if_pos rfl]
    | false =>
      refine .inr ⟨t.dropDevice node signal.toDevice,
        (t.dropDevice node signal.toDevice).notifyLeft node signal.toDevice target.userId, rfl, rfl,
        signalsOn_notifyLeft node signal.toDevice target.userId, ?_⟩
      dsimp only
      rw [if_neg Bool.false_ne_true]
      dsimp only
      rw [Service.relayAcross_eq, Service.storedNode, Service.hub_dropDevice, connection_disconnect,
        Option.any_some, hopen, if_neg Bool.false_ne_true]
      by_cases hself : signal.fromDevice = signal.toDevice
      · rw [if_pos hself.symm, if_pos ⟨rfl, hself⟩]
        rfl
      · rw [if_neg (Ne.symm hself), if_neg (fun h => hself h.2), hsender]
        rfl

theorem Service.names_lookUp (id : Nat) (node : Fin k) (signal : Signal) :
    (t.lookUp id node signal).1.names = t.names := by
  unfold Service.lookUp
  split <;> rfl

theorem Service.names_relayStep (id : Nat) (node : Fin k) (call : RelayCall k) :
    (t.relayStep id node call).1.names = t.names := by
  obtain ⟨signal, phase⟩ := call
  cases phase with
  | sending ws =>
    rw [Service.relayStep]
    split
    · rfl
    · unfold Service.evict
      split
      · exact names_lookUp id node signal
      · rfl
  | evicted userId notify =>
    cases notify with
    | nil => exact names_lookUp id node signal
    | cons d notify => rfl
  | lookingUp userId =>
    rw [Service.relayStep]
    split
    · rfl
    · split <;> rfl
  | publishing target => rfl

theorem Service.names_receive (id : Nat) (s : ClusterSession k) (message : ClientMessage) :
    (t.receive id s message).1.names = t.names := by
  unfold Service.receive
  split
  · rfl
  · rfl
  · unfold Service.startRelay
    split
    · rfl
    · exact names_lookUp id s.node _

theorem Service.names_process (node : Fin k) (signal : Signal) :
    (t.process node signal).1.names = t.names := by
  unfold Service.process
  split
  · rfl
  · split <;> rfl

theorem Service.names_step (op : ServiceOp k) : (t.step op).1.names = t.names := by
  cases op with
  | call op =>
    rw [Service.step]
    split <;> rfl
  | receive id message =>
    rw [Service.step]
    split
    · exact names_receive id _ message
    · rfl
  | relay id =>
    rw [Service.step]
    split
    · exact names_relayStep id _ _
    · rfl
  | lose id => rfl
  | query id node deviceId => rfl
  | listen node =>
    rw [Service.step, Service.listen]
    split
    · exact names_process node _
    · rfl

theorem Service.process_of_lifespan (h : t.names = fun _ => PubSubNames.imported.lifespan)
    (node : Fin k) (signal : Signal) : t.process node signal = (t, []) := by
  rw [Service.process, h]
  rfl

theorem names_run (ops : List (ServiceOp k)) :
    ((Service.start k).run ops).names = fun _ => PubSubNames.imported.lifespan :=
  run_invariant (I := fun t : Service k => t.names = fun _ => PubSubNames.imported.lifespan)
    (fun (t : Service k) op => (t.step op).1) rfl
    (fun _ op h => (Service.names_step op).trans h) ops

end Relays

section Steps
variable {t : Service k} {id : Nat} {s : ClusterSession k}

/-- Going on with the relay of a session, and nothing else, comes to a state and to what has been
sent in all. -/
def Service.ComesTo (id : Nat) (p r : Service k × Sent) : Prop :=
  ∃ n, (p.1.run (List.replicate n (.relay id)),
    p.2 ++ emitted Service.step p.1 (List.replicate n (.relay id))) = r

theorem Service.comesTo_refl (p : Service k × Sent) : Service.ComesTo id p p :=
  ⟨0, by rw [List.replicate_zero, emitted, List.append_nil]; rfl⟩

theorem Service.comesTo_step {sent : Sent} {call : RelayCall k} {p r : Service k × Sent}
    (hs : t.cluster.sessions[id]? = some s)
    (hstep : (t.setRelay id (some call)).relayStep id s.node call = p)
    (h : Service.ComesTo id (p.1, sent ++ p.2) r) :
    Service.ComesTo id (t.setRelay id (some call), sent) r := by
  obtain ⟨n, h⟩ := h
  have hcall : (t.setRelay id (some call)).relays id = some call := Function.update_self ..
  have hsession : (t.setRelay id (some call)).cluster.sessions[id]? = some s := hs
  have hrelay : (t.setRelay id (some call)).step (.relay id) = p := by
    rw [Service.step, hsession, hcall]
    exact hstep
  refine ⟨n + 1, ?_⟩
  rw [List.replicate_succ, emitted, Service.run, List.foldl_cons, hrelay, ← List.append_assoc]
  exact h

theorem Service.setRelay_setRelay (call call' : Option (RelayCall k)) :
    (t.setRelay id call).setRelay id call' = t.setRelay id call' := by
  rw [Service.setRelay, Service.setRelay, Service.setRelay, Function.update_idem]

/-- The state after a relay, and what has been sent when the endpoint has told its client. -/
def Relayed.finish (r : Relayed k) (id : Nat) : Service k × Sent :=
  (r.service.setRelay id none,
    r.sent ++ if r.delivered then [] else r.service.send id (.error "Target device not available"))

theorem Service.relayStep_lookingUp (node : Fin k) (signal : Signal) (u : Uuid)
    (call : Option (RelayCall k)) :
    (t.setRelay id call).relayStep id node ⟨signal, .lookingUp u⟩ =
      match (t.cluster.store.getDeviceNode signal.toDevice u).filter (· ≠ node) with
      | none => (t.setRelay id none, t.send id (.error "Target device not available"))
      | some target => (t.setRelay id (some ⟨signal, .publishing target⟩), []) := by
  have hstore : (t.setRelay id call).cluster.store = t.cluster.store := rfl
  rw [Service.relayStep, hstore, Service.undelivered, Service.setRelay_setRelay]
  cases t.cluster.store.getDeviceNode signal.toDevice u with
  | none => rfl
  | some target =>
    dsimp only
    rw [Option.filter_some]
    by_cases hn : target = node
    · rw [if_pos hn, if_neg (by simp only [hn, ne_eq, not_true, decide_false]; decide)]
      rfl
    · rw [if_neg hn, if_pos (decide_eq_true hn), Service.setRelay_setRelay]

theorem Service.lookUp_comesTo (hs : t.cluster.sessions[id]? = some s) (signal : Signal)
    (sent : Sent) :
    Service.ComesTo id ((t.lookUp id s.node signal).1, sent ++ (t.lookUp id s.node signal).2)
      ((t.relayAcross s.node signal sent).finish id) := by
  rw [Service.relayAcross_eq, Service.storedNode, Service.lookUp]
  cases (t.hub s.node).connection signal.fromDevice with
  | none => exact Service.comesTo_refl _
  | some conn =>
    rw [Option.bind_some]
    dsimp only
    apply Service.comesTo_step hs (t.relayStep_lookingUp s.node signal conn.userId _)
    cases (t.cluster.store.getDeviceNode signal.toDevice conn.userId).filter (· ≠ s.node) with
    | none =>
      rw [List.append_nil]
      exact Service.comesTo_refl _
    | some target =>
      dsimp only
      have hpublish : (t.setRelay id (some ⟨signal, .publishing target⟩)).relayStep id s.node
          ⟨signal, .publishing target⟩ = ((t.publish target signal).setRelay id none, []) :=
        congrArg (·, []) (Service.setRelay_setRelay (t := t.publish target signal) _ _)
      apply Service.comesTo_step hs hpublish
      rw [List.append_nil, List.append_nil, List.append_nil]
      have hfinish : (Relayed.mk (t.publish target signal) sent true (some target)).finish id =
          ((t.publish target signal).setRelay id none, sent) := by
        rw [Relayed.finish, if_pos rfl, List.append_nil]
      rw [hfinish]
      exact Service.comesTo_refl _

theorem Service.lookUp_setRelay (node : Fin k) (signal : Signal) (call : Option (RelayCall k)) :
    (t.setRelay id call).lookUp id node signal = t.lookUp id node signal := by
  have hhub : (t.setRelay id call).hub node = t.hub node := rfl
  rw [Service.lookUp, Service.lookUp, hhub]
  cases (t.hub node).connection signal.fromDevice with
  | none => exact congrArg (·, _) (Service.setRelay_setRelay _ _)
  | some conn => exact congrArg (·, []) (Service.setRelay_setRelay _ _)

theorem Service.evicted_comesTo (hs : t.cluster.sessions[id]? = some s) (signal : Signal)
    (u : Uuid) (notify : List Uuid) (sent : Sent) :
    Service.ComesTo id (t.setRelay id (some ⟨signal, .evicted u notify⟩), sent)
      ((t.relayAcross s.node signal (sent ++ notify.flatMap (fun d =>
        t.notify s.node d (.deviceStatus signal.toDevice false)))).finish id) := by
  induction notify generalizing sent with
  | nil =>
    have hend : (t.setRelay id (some ⟨signal, .evicted u []⟩)).relayStep id s.node
        ⟨signal, .evicted u []⟩ = t.lookUp id s.node signal := t.lookUp_setRelay s.node signal _
    apply Service.comesTo_step hs hend
    rw [List.flatMap_nil, List.append_nil]
    exact Service.lookUp_comesTo hs signal sent
  | cons d notify ih =>
    have hnotify : (t.setRelay id (some ⟨signal, .evicted u (d :: notify)⟩)).relayStep id s.node
        ⟨signal, .evicted u (d :: notify)⟩ = (t.setRelay id (some ⟨signal, .evicted u notify⟩),
          t.notify s.node d (.deviceStatus signal.toDevice false)) :=
      congrArg (·, _) (Service.setRelay_setRelay _ _)
    apply Service.comesTo_step hs hnotify
    rw [List.flatMap_cons, ← List.append_assoc]
    exact ih _

theorem Service.startRelay_comesTo (hs : t.cluster.sessions[id]? = some s) (signal : Signal) :
    Service.ComesTo id (t.startRelay id s.node signal)
      ((t.relaySignal s.node signal).finish id) := by
  unfold Service.startRelay Service.relaySignal Service.relayLocally
  cases htarget : (t.hub s.node).relayTarget signal.fromDevice signal.toDevice with
  | none => exact Service.lookUp_comesTo hs signal []
  | some target =>
    obtain ⟨sender, -, hfound, -⟩ := relayTarget_eq_some htarget
    dsimp only
    cases hopen : t.isOpen target.ws with
    | true =>
      have hsend : (t.setRelay id (some ⟨signal, .sending target.ws⟩)).relayStep id s.node
          ⟨signal, .sending target.ws⟩ = (t.setRelay id none, [(target.ws, .signal signal)]) := by
        rw [Service.relayStep, Service.setRelay_setRelay]
        exact if_pos hopen
      apply Service.comesTo_step hs hsend
      have hfinish : (Relayed.mk t [(target.ws, .signal signal)] true none).finish id =
          (t.setRelay id none, [(target.ws, .signal signal)]) := by
        rw [Relayed.finish, if_pos rfl, List.append_nil]
      rw [if_pos rfl]
      exact hfinish ▸ Service.comesTo_refl _
    | false =>
      rw [if_neg Bool.false_ne_true]
      have hevict : (t.setRelay id (some ⟨signal, .sending target.ws⟩)).relayStep id s.node
          ⟨signal, .sending target.ws⟩ =
            ((t.dropDevice s.node signal.toDevice).setRelay id (some ⟨signal, .evicted target.userId
              (((t.dropDevice s.node signal.toDevice).hub s.node).devicesOf
                target.userId).toList⟩), []) := by
        have hclosed : (t.setRelay id (some ⟨signal, .sending target.ws⟩)).isOpen target.ws =
            false := hopen
        have hthere : ((t.setRelay id (some ⟨signal, .sending target.ws⟩)).hub s.node).connection
            signal.toDevice = some target := hfound
        rw [Service.relayStep, hclosed, if_neg Bool.false_ne_true, Service.evict, hthere]
        exact congrArg (·, [])
          (Service.setRelay_setRelay (t := t.dropDevice s.node signal.toDevice) _ _)
      apply Service.comesTo_step hs hevict
      exact Service.evicted_comesTo (t := t.dropDevice s.node signal.toDevice) hs signal
        target.userId _ []

/-- Going on with a relay step by step comes to what the whole call does. -/
theorem Service.relay_steps (hs : t.cluster.sessions[id]? = some s) (hidle : t.relays id = none)
    (signal : Signal) : ∃ n, let started := t.startRelay id s.node signal
      let r := t.relaySignal s.node signal
      started.1.run (List.replicate n (.relay id)) = r.service ∧
      started.2 ++ emitted Service.step started.1 (List.replicate n (.relay id)) = r.sent ++
        if r.delivered then [] else r.service.send id (.error "Target device not available") := by
  obtain ⟨n, hn⟩ := Service.startRelay_comesTo hs signal
  obtain ⟨hservice, hsent⟩ := Prod.ext_iff.mp hn
  have hrelays : (t.relaySignal s.node signal).service.relays = t.relays := by
    rcases t.relaySignal_cases s.node signal with
      ⟨target, -, -, -, hrelay⟩ | ⟨after, sent, -, hafter, -, hrelay⟩
    · rw [hrelay]
    · rw [hrelay]
      cases t.relayNode s.node signal with
      | none => exact hafter
      | some n => exact hafter
  refine ⟨n, hservice.trans ?_, hsent⟩
  rw [Relayed.finish, Service.setRelay, hrelays, ← hidle, Function.update_eq_self, ← hrelays]

end Steps

/-- In every state that a run of the started nodes reaches, a signal that is relayed to another
node is sent once there, and no relay to an absent device succeeds, exactly where the relay does
not go through the store, or the target has no connection of the sender's user elsewhere. -/
theorem relay_delivers_iff (k : Nat) (ops : List (ServiceOp k)) (node : Fin k) (signal : Signal) :
    ((Service.start k).run ops).DeliversAcross node signal ∧
      ((Service.start k).run ops).RefusesAbsent node signal ↔
    ((Service.start k).run ops).KeepsLocal node signal := by
  have hnames := names_run ops
  generalize (Service.start k).run ops = t at hnames
  rcases t.relaySignal_cases node signal with
    ⟨target, htarget, hopen, hnode, hrelay⟩ | ⟨after, sent, hafter, -, hsent, hrelay⟩
  · refine iff_of_true ⟨?_, ?_⟩ ?_
    · intro sender target' other _ _ _ _ _
      rw [hrelay]
      intro r _ n hn
      cases hn
    · intro habsent
      exact (habsent node target.userId ⟨target, htarget, rfl, hopen⟩).elim
    · intro n hn
      rw [hnode] at hn
      cases hn
  · cases hnode : t.relayNode node signal with
    | none =>
      rw [hnode] at hrelay
      refine iff_of_true ⟨?_, ?_⟩ ?_
      · intro sender target other _ _ _ _ _
        rw [hrelay]
        intro r hdelivered
        cases hdelivered
      · intro _
        rw [hrelay]
      · intro n hn
        rw [hnode] at hn
        cases hn
    | some n =>
      rw [hnode] at hrelay
      have hprocess : (after.publish n signal).process n signal = (after.publish n signal, []) :=
        Service.process_of_lifespan (t := after.publish n signal) (hafter.trans hnames) n signal
      constructor
      · rintro ⟨hacross, hrefuses⟩ n' -
        constructor
        · intro habsent
          have hfalse := hrefuses habsent
          rw [hrelay] at hfalse
          cases hfalse
        · rintro sender other hsender hother ⟨target, htarget, hu, hopen⟩
          have hdelivered := hacross sender target other hsender hother htarget hu hopen
          rw [hrelay] at hdelivered
          have hsignals := hdelivered rfl n rfl
          dsimp only at hsignals
          rw [hprocess, List.append_nil, hsent] at hsignals
          cases hsignals
      · intro hkeeps
        obtain ⟨hpresent, hlocal⟩ := hkeeps n hnode
        constructor
        · intro sender target other hsender hother htarget hu hopen
          exact (hlocal sender other hsender hother ⟨target, htarget, hu, hopen⟩).elim
        · intro habsent
          exact (hpresent habsent).elim

/-- A device connects to a node of the service. -/
def connected (id : Nat) (node : Fin k) (deviceId userId : Uuid) : List (ServiceOp k) :=
  .call (.arrive id node deviceId userId) :: List.replicate 10 (.call (.advance id))

def anOffer : Signal := ⟨.offer, 1, 2, .sdp "v=0"⟩

/-- Two devices of a user, one on each node. -/
def apart : List (ServiceOp 2) := connected 0 0 1 7 ++ connected 1 1 2 7

/-- The second device loses its connection to a signal that its own node fails to send, so that its
session ends without the store being told. -/
def stale : List (ServiceOp 2) :=
  apart ++ connected 2 1 3 7 ++ [.lose 1, .receive 2 (.iceCandidate 2 "" .null .null)] ++
    List.replicate 5 (.relay 2) ++ [.call (.close 1), .call (.advance 1)]

/-- A signal for a device on the other node is published, which counts as delivered, and is never
sent; and so is one for a device that is connected nowhere any more. -/
theorem cross_node_lost :
    (¬ ∀ (ops : List (ServiceOp 2)) (node : Fin 2) (signal : Signal),
      ((Service.start 2).run ops).DeliversAcross node signal) ∧
    ¬ ∀ (ops : List (ServiceOp 2)) (node : Fin 2) (signal : Signal),
      ((Service.start 2).run ops).RefusesAbsent node signal := by
  constructor
  · intro h
    have hsent := h apart 0 anOffer ⟨1, 7, 0⟩ ⟨2, 7, 1⟩ 1 (by decide +kernel) (by decide)
      (by decide +kernel) rfl (by decide +kernel) (by decide +kernel) 1 (by decide +kernel)
    exact absurd (congrArg List.length hsent) (by decide +kernel)
  · intro h
    have hnone : ∀ node, (((Service.start 2).run stale).hub node).connection 2 = none := by
      decide +kernel
    have hrefused := h stale 0 anOffer (by
      rintro node u ⟨conn, hconn, -⟩
      rw [anOffer, hnone node] at hconn
      cases hconn)
    exact absurd hrefused (by decide +kernel)

end P2PMesh.Signaling
