import P2PMesh.TurnLedger

namespace P2PMesh.Turn
open P2PMesh.Base
set_option autoImplicit true

/-- A system with an account of its sends: how many allocations each address has had, which of
them the send of a task has been authorised against, and the bytes of the sends that have been
completed, for each allocation of each address. -/
structure TurnAccounts where
  system : TurnSystem
  inserted : SocketAddr → Nat
  authorised : Nat → Nat
  sent : SocketAddr → Nat → Nat

def TurnAccounts.new (bindAddr : SocketAddr) (realm : String) : TurnAccounts :=
  ⟨.new bindAddr realm, fun _ => 0, fun _ => 0, fun _ _ => 0⟩

def TurnAccounts.insertedAfter (t : TurnAccounts) : Option TurnWrite → SocketAddr → Nat
  | some (.insert a) => Function.update t.inserted a.relayedAddr (t.inserted a.relayedAddr + 1)
  | _ => t.inserted

def TurnAccounts.authorisedAfter (t : TurnAccounts) : TurnOp → Nat → Nat
  | .send id _ relayedAddr _ _ _ =>
    if (t.system.tasks id).isNone then Function.update t.authorised id (t.inserted relayedAddr)
    else t.authorised
  | _ => t.authorised

def TurnAccounts.sentAfter (t : TurnAccounts) : Option TurnWrite → SocketAddr → Nat → Nat
  | some (.charge id relayedAddr data) => fun r k =>
    if r = relayedAddr ∧ k = t.authorised id then t.sent r k + data.length else t.sent r k
  | _ => t.sent

def TurnAccounts.step (t : TurnAccounts) (op : TurnOp) : TurnAccounts where
  system := t.system.step op
  inserted := t.insertedAfter (t.system.writeOf op)
  authorised := t.authorisedAfter op
  sent := t.sentAfter (t.system.writeOf op)

def TurnAccounts.run (t : TurnAccounts) (ops : List TurnOp) : TurnAccounts :=
  ops.foldl TurnAccounts.step t

/-- Every allocation has counted the bytes of the sends that were authorised against it. -/
def TurnAccounts.Accurate (t : TurnAccounts) : Prop :=
  ∀ r a, t.system.server.allocation r = some a → a.bytesSent.toNat = t.sent r (t.inserted r)

/-- A send charges the allocation that it has been authorised against, up to the largest count; a
send that finds another one there adds nothing to what it has counted. -/
def TurnAccounts.OwnWrite (t : TurnAccounts) : Option TurnWrite → Prop
  | some (.charge id r data) => ∀ a ∈ t.system.server.allocation r,
    if t.authorised id = t.inserted r then a.bytesSent.toNat + data.length < 2 ^ 64
    else data.length % 2 ^ 64 = 0 ∨ a.bytesSent.toNat + 1 = 2 ^ 64
  | _ => True

def TurnAccounts.ChargesOwn (t : TurnAccounts) (op : TurnOp) : Prop :=
  t.OwnWrite (t.system.writeOf op)

/-- No bytes are counted for allocations to come, and a new allocation starts to count at zero. -/
structure TurnAccounts.Wf (t : TurnAccounts) : Prop where
  unsent : ∀ r k, t.inserted r < k → t.sent r k = 0
  authorised_le : ∀ id r data, t.system.tasks id = some (.checked r data) →
    t.authorised id ≤ t.inserted r
  prepared : ∀ id a, t.system.tasks id = some (.prepared a) → a.bytesSent = 0

section Accounts
variable {t : TurnAccounts}

theorem TurnAccounts.step_inserted_le (t : TurnAccounts) (op : TurnOp) (r : SocketAddr) :
    t.inserted r ≤ (t.step op).inserted r := by
  simp only [TurnAccounts.step]
  cases t.system.writeOf op with
  | none => exact Nat.le_refl _
  | some w =>
    cases w with
    | insert a =>
      rw [TurnAccounts.insertedAfter, Function.update_apply]
      split
      · next hr =>
        rw [hr]
        exact Nat.le_succ _
      · exact Nat.le_refl _
    | _ => exact Nat.le_refl _

theorem TurnAccounts.step_authorised {id : Nat} {task : TurnTask}
    (h : t.system.tasks id = some task) (op : TurnOp) :
    (t.step op).authorised id = t.authorised id := by
  simp only [TurnAccounts.step]
  cases op with
  | send id' c r p data now =>
    rw [TurnAccounts.authorisedAfter]
    split
    · next hnone =>
      apply Function.update_of_ne
      rintro rfl
      rw [h] at hnone
      cases hnone
    · rfl
  | _ => rfl

theorem TurnAccounts.Wf.step (h : t.Wf) (op : TurnOp) : (t.step op).Wf where
  unsent := by
    intro r k hk
    have hlt := Nat.lt_of_le_of_lt (t.step_inserted_le op r) hk
    simp only [TurnAccounts.step]
    cases hw : t.system.writeOf op with
    | none => exact h.unsent r k hlt
    | some w =>
      cases w with
      | charge id r' data =>
        have hauth := h.authorised_le id r' data (writeOf_origin hw)
        dsimp only [TurnAccounts.sentAfter]
        split
        · next hc =>
          rw [← hc.1, ← hc.2] at hauth
          omega
        · exact h.unsent r k hlt
      | _ => exact h.unsent r k hlt
  authorised_le := by
    intro id r data htask
    rcases TurnSystem.step_tasks htask with hold | hmove
    · rw [t.step_authorised hold op]
      exact Nat.le_trans (h.authorised_le id r data hold) (t.step_inserted_le op r)
    · cases hmove with
      | checked hnone hsend =>
        refine Nat.le_of_eq ?_
        simp only [TurnAccounts.step, TurnAccounts.authorisedAfter, hnone, Option.isNone_none,
          ↓reduceIte, Function.update_self]
        rfl
  prepared := by
    intro id a htask
    rcases TurnSystem.step_tasks htask with hold | hmove
    · exact h.prepared id a hold
    · cases hmove with
      | prepared hassigned => rfl

theorem TurnAccounts.insert_accurate (h : t.Wf) (hacc : t.Accurate) {a : Allocation}
    (hzero : a.bytesSent = 0) : ∀ r b, (t.system.server.insert a).allocation r = some b →
      b.bytesSent.toNat = t.sent r (t.insertedAfter (some (.insert a)) r) := by
  intro r b hb
  rw [allocation_insert] at hb
  rw [TurnAccounts.insertedAfter, Function.update_apply]
  split at hb
  · next hr =>
    cases hb
    rw [if_pos hr.symm, hr, h.unsent r _ (Nat.lt_succ_self _), hzero]
    rfl
  · next hr =>
    rw [if_neg (Ne.symm hr)]
    exact hacc r b hb

theorem charge_toNat (a : Allocation) (data : Bytes) : (a.charge data).bytesSent.toNat =
    min (a.bytesSent.toNat + data.length % 2 ^ 64) 18446744073709551615 := by
  rw [Allocation.charge, saturatingAddU64_toNat, UInt64.toNat_ofNat']

theorem TurnAccounts.charge_accurate_iff (hacc : t.Accurate) (id : Nat) (r : SocketAddr)
    (data : Bytes) :
    (∀ r' b, (t.system.server.charge r data).allocation r' = some b →
      b.bytesSent.toNat = t.sentAfter (some (.charge id r data)) r' (t.inserted r')) ↔
    t.OwnWrite (some (.charge id r data)) := by
  have hlookup : ∀ r', (t.system.server.charge r data).allocation r' =
      (t.system.server.allocation r').map (fun a => if r = r' then a.charge data else a) :=
    fun r' => allocation_modify r r' _
  have hcase : ∀ a, t.system.server.allocation r = some a →
      ((a.charge data).bytesSent.toNat = t.sentAfter (some (.charge id r data)) r (t.inserted r) ↔
        if t.authorised id = t.inserted r then a.bytesSent.toNat + data.length < 2 ^ 64
        else data.length % 2 ^ 64 = 0 ∨ a.bytesSent.toNat + 1 = 2 ^ 64) := by
    intro a ha
    have hlt := a.bytesSent.toNat_lt
    rw [charge_toNat]
    dsimp only [TurnAccounts.sentAfter]
    rw [← hacc r a ha]
    simp only [true_and, eq_comm (a := t.inserted r)]
    split <;> omega
  constructor
  · intro h a ha
    refine (hcase a ha).mp (h r (a.charge data) ?_)
    rw [hlookup, ha, Option.map_some, if_pos rfl]
  · intro h r' b hb
    rw [hlookup] at hb
    obtain ⟨a, ha, rfl⟩ := Option.map_eq_some_iff.mp hb
    split
    · next hr =>
      cases hr
      exact (hcase a ha).mpr (h a ha)
    · next hr =>
      dsimp only [TurnAccounts.sentAfter]
      rw [if_neg (fun hc => hr hc.1.symm)]
      exact hacc r' a ha

theorem TurnServer.Leaves.bytesSent {s : TurnServer} {w : TurnWrite} (h : s.Leaves r w a)
    (hinsert : w ≠ .insert a) (hcharge : ∀ id data, w ≠ .charge id r data) :
    ∃ b, s.allocation r = some b ∧ b.bytesSent = a.bytesSent := by
  cases h with
  | inserted => exact (hinsert rfl).elim
  | kept ha => exact ⟨_, ha, rfl⟩
  | refreshed ha => exact ⟨_, ha, rfl⟩
  | bound ha => exact ⟨_, ha, rfl⟩
  | charged => exact (hcharge _ _ rfl).elim

theorem TurnAccounts.step_accurate_iff (h : t.Wf) (hacc : t.Accurate) (op : TurnOp) :
    (t.step op).Accurate ↔ t.ChargesOwn op := by
  have htable : (t.step op).Accurate ↔ ∀ r a,
      ((t.system.writeOf op).elim t.system.server t.system.server.write).allocation r = some a →
      a.bytesSent.toNat = t.sentAfter (t.system.writeOf op) r
        (t.insertedAfter (t.system.writeOf op) r) := by
    simp only [TurnAccounts.Accurate, TurnAccounts.step, TurnServer.allocation,
      TurnSystem.step_allocations]
  rw [htable, TurnAccounts.ChargesOwn]
  cases hw : t.system.writeOf op with
  | none => exact iff_of_true hacc trivial
  | some w =>
    have hother : (∀ a, w ≠ .insert a) → (∀ id r data, w ≠ .charge id r data) → ∀ r a,
        (t.system.server.write w).allocation r = some a →
        a.bytesSent.toNat = t.sent r (t.inserted r) := by
      intro hinsert hcharge r a ha
      obtain ⟨b, hb, he⟩ := (TurnServer.write_leaves ha).bytesSent (hinsert a)
        (fun id data => hcharge id r data)
      rw [← he]
      exact hacc r b hb
    cases w with
    | insert a =>
      obtain ⟨id, hid⟩ := writeOf_origin hw
      exact iff_of_true (t.insert_accurate h hacc (h.prepared id a hid)) trivial
    | charge id r data => exact t.charge_accurate_iff hacc id r data
    | _ => exact iff_of_true (hother (by simp) (by simp)) trivial

end Accounts

/-- At every point of a run every allocation has counted the bytes of the completed sends that
were authorised against it, exactly where each send still finds that allocation when it charges
it, and the count does not reach its end. -/
theorem bytes_accounted_iff (bindAddr : SocketAddr) (realm : String) (ops : List TurnOp) :
    (∀ l, l <+: ops → ((TurnAccounts.new bindAddr realm).run l).Accurate) ↔
      Guarded TurnAccounts.step TurnAccounts.ChargesOwn (.new bindAddr realm) ops := by
  apply forall_prefix_iff_of (W := TurnAccounts.Wf) (J := TurnAccounts.Accurate)
  · exact ⟨fun _ _ _ => rfl, by rintro id r data ⟨⟩, by rintro id a ⟨⟩⟩
  · exact fun t op h => h.step op
  · intro r a ha
    have hnone := ha.symm.trans (allocation_new bindAddr realm r)
    cases hnone
  · exact fun t op h hacc => t.step_accurate_iff h hacc op

/-- A client sends, its allocation is released and its port granted to another client, and only
then is the send charged. -/
def overtakenSend : List TurnOp :=
  .addCredential "user" "secret" :: (asks 0 ⟨.v4 2, 1000⟩ ++ takes 0 ++
    [.send 1 ⟨.v4 2, 1000⟩ ⟨.v4 1, 50000⟩ ⟨.v4 9, 9⟩ [1, 2, 3] 0, .release ⟨.v4 1, 50000⟩] ++
    asks 2 ⟨.v4 3, 1000⟩ ++ takes 2 ++ [.charge 1])

theorem stranger_charged :
    ¬ ∀ (bindAddr : SocketAddr) (realm : String) (ops : List TurnOp),
      ((TurnAccounts.new bindAddr realm).run ops).Accurate := by
  intro h
  have hran : let t := (TurnAccounts.new ⟨.v4 1, 3478⟩ "p2p-mesh").run overtakenSend
      (t.system.server.allocation ⟨.v4 1, 50000⟩).map Allocation.bytesSent = some 3 ∧
        t.sent ⟨.v4 1, 50000⟩ (t.inserted ⟨.v4 1, 50000⟩) = 0 := by
    decide +kernel
  obtain ⟨hbytes, hsent⟩ := hran
  obtain ⟨a, ha, he⟩ := Option.map_eq_some_iff.mp hbytes
  have haccurate := h _ _ overtakenSend _ a ha
  rw [he, hsent] at haccurate
  cases haccurate

end P2PMesh.Turn
