import P2PMesh.TurnLedger

namespace P2PMesh.Turn
open P2PMesh.Base
set_option autoImplicit true

/-- The clock never goes back over a run. -/
def ClockMonotone (ops : List TurnOp) : Prop :=
  (ops.filterMap TurnOp.reading).Pairwise (· ≤ ·)

instance (ops : List TurnOp) : Decidable (ClockMonotone ops) :=
  inferInstanceAs (Decidable (List.Pairwise _ _))

/-- The step is a refresh, a channel binding or a send on an allocation, and it is granted. -/
def TurnSystem.Succeeds (t : TurnSystem) (r : SocketAddr) : TurnOp → Prop
  | .refresh clientAddr relayedAddr lifetime now => relayedAddr = r ∧
    (t.server.handleRefresh clientAddr relayedAddr lifetime now).2 = .ok (min lifetime maxLifetime)
  | .channelBind clientAddr relayedAddr channelNumber peerAddr _ => relayedAddr = r ∧
    (t.server.handleChannelBind clientAddr relayedAddr channelNumber peerAddr).2 = .ok ()
  | .send id clientAddr relayedAddr _ _ now => relayedAddr = r ∧ t.tasks id = none ∧
    t.server.checkSend clientAddr relayedAddr now = .ok ()
  | _ => False

/-- The step neither puts another allocation under the address nor refreshes the one there before
an instant. -/
def TurnSystem.LeavesAlone (r : SocketAddr) (expiresAt : Nat) (t : TurnSystem) (op : TurnOp) :
    Prop :=
  (∀ a, t.writeOf op = some (.insert a) → a.relayedAddr ≠ r) ∧
    ∀ clientAddr lifetime now, op = .refresh clientAddr r lifetime now → t.Succeeds r op →
      expiresAt ≤ now

/-- No expired allocation is in the table whose owner asks for a refresh or a channel: it asks in
time, or the sweep has come before it. -/
def TurnSystem.InTime (t : TurnSystem) : TurnOp → Prop
  | .refresh clientAddr relayedAddr _ now => ∀ a ∈ t.server.allocation relayedAddr,
    a.clientAddr = clientAddr → now < a.expiresAt
  | .channelBind clientAddr relayedAddr channelNumber _ now => ValidChannel channelNumber →
    ∀ a ∈ t.server.allocation relayedAddr, a.clientAddr = clientAddr → now ≤ a.expiresAt
  | _ => True

instance (t : TurnSystem) : ∀ op, Decidable (t.InTime op)
  | .refresh _ _ _ _ => inferInstanceAs (Decidable (∀ a ∈ _, _ → _))
  | .channelBind _ _ _ _ _ => inferInstanceAs (Decidable (_ → ∀ a ∈ _, _ → _))
  | .addCredential _ _ | .allocate _ _ _ _ _ | .checkQuota _ | .assignPort _ | .prepare _ _ _
  | .insert _ | .send _ _ _ _ _ _ | .charge _ | .cleanup _ | .release _ => .isTrue trivial

section Expiry
variable {s : TurnServer} {t : TurnSystem} {r : SocketAddr}

theorem handleRefresh_owner {c : SocketAddr} {lifetime now newLifetime : Nat}
    (h : (s.handleRefresh c r lifetime now).2 = .ok newLifetime) :
    ∃ a, s.allocation r = some a ∧ a.clientAddr = c := by
  unfold TurnServer.handleRefresh at h
  split at h
  · cases h
  · next a ha =>
    split at h
    · cases h
    · next hc => exact ⟨a, ha, not_not.mp hc⟩

theorem handleChannelBind_owner {c : SocketAddr} {channelNumber : UInt16} {peerAddr : SocketAddr}
    (h : (s.handleChannelBind c r channelNumber peerAddr).2 = .ok ()) :
    ValidChannel channelNumber ∧ ∃ a, s.allocation r = some a ∧ a.clientAddr = c := by
  unfold TurnServer.handleChannelBind at h
  split at h
  · cases h
  · next hchannel =>
    split at h
    · cases h
    · next a ha =>
      split at h
      · cases h
      · next hc => exact ⟨not_not.mp hchannel, a, ha, not_not.mp hc⟩

theorem checkSend_in_time {c : SocketAddr} {now : Nat} (h : s.checkSend c r now = .ok ()) :
    ∃ a, s.allocation r = some a ∧ now ≤ a.expiresAt := by
  unfold TurnServer.checkSend at h
  split at h
  · cases h
  · next a ha =>
    split at h
    · cases h
    · split at h
      · cases h
      · next hexpired => exact ⟨a, ha, Nat.not_lt.mp hexpired⟩

/-- A send asks for the expiry itself; the other two leave it to the condition. -/
theorem TurnSystem.Succeeds.in_time {op : TurnOp} (h : t.Succeeds r op) (hop : t.InTime op)
    (hnow : op.reading = some now) : ∃ a, t.server.allocation r = some a ∧ now ≤ a.expiresAt := by
  cases op with
  | refresh c r' lifetime time =>
    obtain ⟨rfl, hok⟩ := h
    obtain ⟨a, ha, hc⟩ := handleRefresh_owner hok
    cases hnow
    exact ⟨a, ha, Nat.le_of_lt (hop a ha hc)⟩
  | channelBind c r' channelNumber peerAddr time =>
    obtain ⟨rfl, hok⟩ := h
    obtain ⟨hchannel, a, ha, hc⟩ := handleChannelBind_owner hok
    cases hnow
    exact ⟨a, ha, hop hchannel a ha hc⟩
  | send id c r' peerAddr data time =>
    obtain ⟨rfl, -, hok⟩ := h
    cases hnow
    exact checkSend_in_time hok
  | _ => exact h.elim

theorem handleRefresh_of_owner {c : SocketAddr} {a : Allocation} (ha : s.allocation r = some a)
    (hc : a.clientAddr = c) (lifetime now : Nat) :
    (s.handleRefresh c r lifetime now).2 = .ok (min lifetime maxLifetime) := by
  simp only [TurnServer.handleRefresh, ha, hc, ne_eq, not_true_eq_false, ↓reduceIte]

theorem TurnSystem.step_expiresAt {op : TurnOp}
    (h : ∀ a, t.server.allocation r = some a → a.expiresAt = expiresAt)
    (halone : t.LeavesAlone r expiresAt op) (hop : t.InTime op) :
    ∀ a, (t.step op).server.allocation r = some a → a.expiresAt = expiresAt := by
  intro a ha
  rw [TurnServer.allocation, t.step_allocations op] at ha
  cases hw : t.writeOf op with
  | none =>
    rw [hw] at ha
    exact h a ha
  | some w =>
    rw [hw] at ha
    have hleaves := TurnServer.write_leaves ha
    cases hleaves with
    | inserted hr => exact (halone.1 a hw hr).elim
    | kept ha => exact h a ha
    | refreshed hb hc =>
      cases writeOf_origin hw
      have hlate := halone.2 _ _ _ rfl ⟨rfl, handleRefresh_of_owner hb hc _ _⟩
      have hearly := hop _ hb hc
      rw [h _ hb] at hearly
      omega
    | bound hb =>
      have hsame := h _ hb
      exact hsame
    | charged hb =>
      have hsame := h _ hb
      exact hsame

end Expiry

/-- In a run whose refreshes and channel bindings are in time or behind the sweep, an allocation
that is not refreshed before its expiry is granted nothing any more after it. -/
theorem expiry_final (bindAddr : SocketAddr) (realm : String) (ops : List TurnOp)
    (h : Guarded TurnSystem.step TurnSystem.InTime (.new bindAddr realm) ops) :
    ∀ before between op, before ++ between ++ [op] <+: ops →
      ∀ r a, ((TurnSystem.new bindAddr realm).run before).server.allocation r = some a →
      Guarded TurnSystem.step (TurnSystem.LeavesAlone r a.expiresAt)
        ((TurnSystem.new bindAddr realm).run before) between →
      ∀ now ∈ op.reading, a.expiresAt < now →
      ¬ ((TurnSystem.new bindAddr realm).run (before ++ between)).Succeeds r op := by
  rintro before between op ⟨rest, rfl⟩ r a ha halone now hnow hexpired hsucceeds
  obtain ⟨hbetween, hop, -⟩ := guarded_append.mp (guarded_append.mp h).1
  have hboth := guarded_and.mpr ⟨halone, (guarded_append.mp hbetween).2⟩
  have hkept := hboth.invariant
    (I := fun t => ∀ b, t.server.allocation r = some b → b.expiresAt = a.expiresAt)
    (fun b hb => by rw [Option.some.inj (ha.symm.trans hb)])
    (fun t op hi hstep => t.step_expiresAt hi hstep.1 hstep.2)
  obtain ⟨b, hb, hle⟩ := hsucceeds.in_time hop hnow
  have hsame : b.expiresAt = a.expiresAt := by
    apply hkept b
    rwa [TurnSystem.run, List.foldl_append] at hb
  omega

/-- A server with one allocation, which expires after 600 seconds. -/
def oneGranted : List TurnOp :=
  .addCredential "user" "secret" :: (asks 0 ⟨.v4 2, 1000⟩ ++ takes 0)

def lateSend : TurnOp := .send 1 ⟨.v4 2, 1000⟩ ⟨.v4 1, 50000⟩ ⟨.v4 9, 9⟩ [1] (seconds 700)

def lateRefresh : TurnOp :=
  .refresh ⟨.v4 2, 1000⟩ ⟨.v4 1, 50000⟩ (seconds 300) (seconds 700)

theorem allocation_of_oneGranted :
    ∃ a, ((TurnSystem.new ⟨.v4 1, 3478⟩ "p2p-mesh").run oneGranted).server.allocation
      ⟨.v4 1, 50000⟩ = some a ∧ a.expiresAt = seconds 600 := by
  have he : (((TurnSystem.new ⟨.v4 1, 3478⟩ "p2p-mesh").run oneGranted).server.allocation
      ⟨.v4 1, 50000⟩).map Allocation.expiresAt = some (seconds 600) := by
    decide +kernel
  exact Option.map_eq_some_iff.mp he

theorem expiry_final_send :
    ¬ ((TurnSystem.new ⟨.v4 1, 3478⟩ "p2p-mesh").run (oneGranted ++ [])).Succeeds
      ⟨.v4 1, 50000⟩ lateSend := by
  obtain ⟨a, ha, he⟩ := allocation_of_oneGranted
  refine expiry_final ⟨.v4 1, 3478⟩ "p2p-mesh" (oneGranted ++ [] ++ [lateSend]) (by decide +kernel)
    oneGranted [] lateSend (List.prefix_refl _) ⟨.v4 1, 50000⟩ a ha trivial (seconds 700) rfl ?_
  rw [he]
  decide

/-- A refresh that comes 100 seconds after the expiry, and before the sweep, is granted. -/
theorem refreshed_after_expiry :
    ¬ ∀ (bindAddr : SocketAddr) (realm : String) (ops : List TurnOp), ClockMonotone ops →
      ∀ before between op, before ++ between ++ [op] <+: ops →
      ∀ r a, ((TurnSystem.new bindAddr realm).run before).server.allocation r = some a →
      Guarded TurnSystem.step (TurnSystem.LeavesAlone r a.expiresAt)
        ((TurnSystem.new bindAddr realm).run before) between →
      ∀ now ∈ op.reading, a.expiresAt < now →
      ¬ ((TurnSystem.new bindAddr realm).run (before ++ between)).Succeeds r op := by
  intro h
  obtain ⟨a, ha, he⟩ := allocation_of_oneGranted
  refine h ⟨.v4 1, 3478⟩ "p2p-mesh"
    (oneGranted ++ [] ++ [lateRefresh]) (by decide) oneGranted [] lateRefresh (List.prefix_refl _)
    ⟨.v4 1, 50000⟩ a ha trivial (seconds 700) rfl
    ?_ ⟨rfl, ?_⟩
  · rw [he]
    decide
  · decide +kernel

end P2PMesh.Turn
