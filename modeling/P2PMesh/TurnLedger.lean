import P2PMesh.Turn

namespace P2PMesh.Turn
open P2PMesh.Base
set_option autoImplicit true

/-- What a client holds: an address of the server until an instant. -/
structure Grant where
  clientAddr : SocketAddr
  relayedAddr : SocketAddr
  username : String
  expiresAt : Nat
deriving DecidableEq

def Allocation.grant (a : Allocation) : Grant :=
  ⟨a.clientAddr, a.relayedAddr, a.username, a.expiresAt⟩

def Grant.extend (clientAddr relayedAddr : SocketAddr) (expiresAt : Nat) (g : Grant) : Grant :=
  if relayedAddr = g.relayedAddr ∧ g.clientAddr = clientAddr then { g with expiresAt := expiresAt }
  else g

/-- The grants after a write: a grant stays until its address is released or its time is over. -/
def grantsAfter (s : TurnServer) (grants : List Grant) : TurnWrite → List Grant
  | .insert allocation => allocation.grant :: grants
  | .refresh clientAddr relayedAddr lifetime now =>
    match (s.handleRefresh clientAddr relayedAddr lifetime now).2 with
    | .ok newLifetime => grants.map (Grant.extend clientAddr relayedAddr (now + newLifetime))
    | .error _ => grants
  | .channelBind _ _ _ _ => grants
  | .charge _ _ _ => grants
  | .cleanup now => grants.filter (fun g => now < g.expiresAt)
  | .release relayedAddr => grants.filter (fun g => g.relayedAddr ≠ relayedAddr)

/-- A system with a ledger of what its clients have been told. -/
structure TurnLedger where
  system : TurnSystem
  grants : List Grant

def TurnLedger.new (bindAddr : SocketAddr) (realm : String) : TurnLedger :=
  ⟨.new bindAddr realm, []⟩

def TurnLedger.step (l : TurnLedger) (op : TurnOp) : TurnLedger where
  system := l.system.step op
  grants := (l.system.writeOf op).elim l.grants (grantsAfter l.system.server l.grants)

def TurnLedger.run (l : TurnLedger) (ops : List TurnOp) : TurnLedger := ops.foldl TurnLedger.step l

/-- At an instant every grant that has not expired is in the table as its client knows it, no two
of them have one address, and no IP address has more than ten. -/
structure TurnLedger.Honoured (l : TurnLedger) (now : Nat) : Prop where
  kept : ∀ g ∈ l.grants, now < g.expiresAt →
    ∃ a, l.system.server.allocation g.relayedAddr = some a ∧ a.grant = g
  distinct : l.grants.Pairwise (fun g g' => now < g.expiresAt → now < g'.expiresAt →
    g.relayedAddr ≠ g'.relayedAddr)
  quota : ∀ ip, l.grants.countP (fun g => g.clientAddr.ip = ip ∧ now < g.expiresAt) ≤ 10

/-- What an allocate request has checked still holds when it inserts its allocation. -/
def TurnServer.StillChecked (s : TurnServer) (a : Allocation) : Prop :=
  s.allocation a.relayedAddr = none ∧ s.checkQuota a.clientAddr = .ok ()

instance (s : TurnServer) (a : Allocation) : Decidable (s.StillChecked a) :=
  @instDecidableAnd _ _ (decidable_of_iff _ Option.isNone_iff_eq_none) inferInstance

def TurnServer.Allows (s : TurnServer) : Option TurnWrite → Prop
  | some (.insert a) => s.StillChecked a
  | _ => True

instance (s : TurnServer) : ∀ w, Decidable (s.Allows w)
  | some (.insert a) => inferInstanceAs (Decidable (s.StillChecked a))
  | some (.refresh _ _ _ _) => .isTrue trivial
  | some (.channelBind _ _ _ _) => .isTrue trivial
  | some (.charge _ _ _) => .isTrue trivial
  | some (.cleanup _) => .isTrue trivial
  | some (.release _) => .isTrue trivial
  | none => .isTrue trivial

def TurnLedger.Undisturbed (l : TurnLedger) (op : TurnOp) : Prop :=
  l.system.server.Allows (l.system.writeOf op)

instance (l : TurnLedger) (op : TurnOp) : Decidable (l.Undisturbed op) :=
  inferInstanceAs (Decidable (l.system.server.Allows _))

/-- The ledger and the table hold the same. -/
structure Reconciled (s : TurnServer) (grants : List Grant) : Prop where
  keyed : ∀ r a, s.allocation r = some a → a.relayedAddr = r
  mem_iff : ∀ g, g ∈ grants ↔ ∃ a, s.allocation g.relayedAddr = some a ∧ a.grant = g
  nodup : (grants.map Grant.relayedAddr).Nodup
  quota : ∀ ip, grants.countP (fun g => g.clientAddr.ip = ip) ≤ 10

section Reconciled
variable {s s' : TurnServer} {grants : List Grant}

theorem Reconciled.perm (h : Reconciled s grants) :
    grants.Perm (s.allocations.toList.map (fun e => e.2.grant)) := by
  have hentry : ∀ e ∈ s.allocations.toList, e.2.relayedAddr = e.1 := fun e he =>
    h.keyed e.1 e.2 (Std.TreeMap.mem_toList_iff_getElem?_eq_some.mp he)
  have hnodup : (s.allocations.toList.map (fun e => e.2.grant)).Nodup := by
    refine List.pairwise_map.mpr (Std.TreeMap.distinct_keys_toList.imp_of_mem ?_)
    intro e e' he he' hne hgrant
    have haddr : e.1 = e'.1 := by
      rw [← hentry e he, ← hentry e' he']
      exact congrArg Grant.relayedAddr hgrant
    exact hne (haddr ▸ Std.compare_self)
  rw [List.perm_ext_iff_of_nodup h.nodup.of_map hnodup]
  intro g
  rw [h.mem_iff, List.mem_map]
  constructor
  · rintro ⟨a, ha, hg⟩
    exact ⟨(g.relayedAddr, a), Std.TreeMap.mem_toList_iff_getElem?_eq_some.mpr ha, hg⟩
  · rintro ⟨e, he, rfl⟩
    refine ⟨e.2, ?_, rfl⟩
    have ha := Std.TreeMap.mem_toList_iff_getElem?_eq_some.mp he
    rw [← hentry e he] at ha
    exact ha

theorem Reconciled.ipCount (h : Reconciled s grants) (ip : IpAddr) :
    grants.countP (fun g => g.clientAddr.ip = ip) = s.ipCount ip := by
  rw [h.perm.countP_eq, List.countP_map]
  rfl

theorem Reconciled.insert (h : Reconciled s grants) {a : Allocation}
    (hmax : s.maxAllocationsPerIp = 10) (hchecked : s.StillChecked a) :
    Reconciled (s.insert a) (a.grant :: grants) where
  keyed := by
    intro r b hb
    rw [allocation_insert] at hb
    split at hb
    · next hr =>
      cases hb
      exact hr
    · exact h.keyed r b hb
  mem_iff := by
    intro g
    rw [List.mem_cons, h.mem_iff, allocation_insert]
    by_cases hr : a.relayedAddr = g.relayedAddr
    · have hfree : s.allocation g.relayedAddr = none := hr ▸ hchecked.1
      simp [hr, hfree, eq_comm]
    · have hne : g ≠ a.grant := by
        rintro rfl
        exact hr rfl
      simp [hr, hne]
  nodup := by
    refine List.nodup_cons.mpr ⟨?_, h.nodup⟩
    intro hmem
    obtain ⟨g, hg, haddr⟩ := List.mem_map.mp hmem
    obtain ⟨b, hb, -⟩ := (h.mem_iff g).mp hg
    have hfree : s.allocation g.relayedAddr = none := haddr ▸ hchecked.1
    rw [hfree] at hb
    cases hb
  quota := by
    intro ip
    rw [List.countP_cons]
    split
    · next hip =>
      have hlt : ¬ s.maxAllocationsPerIp ≤ s.ipCount a.clientAddr.ip := by
        intro hle
        have hq := hchecked.2
        rw [TurnServer.checkQuota, if_pos hle] at hq
        cases hq
      have hcount := h.ipCount ip
      have hgrant : a.clientAddr.ip = ip := of_decide_eq_true hip
      rw [hgrant] at hlt
      omega
    · exact h.quota ip

theorem Reconciled.map (h : Reconciled s grants) {f : SocketAddr → Allocation → Allocation}
    {e : Grant → Grant} (hs : ∀ r, s'.allocation r = (s.allocation r).map (f r))
    (hf : ∀ r a, a.relayedAddr = r → (f r a).grant = e a.grant)
    (haddr : ∀ g, (e g).relayedAddr = g.relayedAddr)
    (hclient : ∀ g, (e g).clientAddr = g.clientAddr) : Reconciled s' (grants.map e) where
  keyed := by
    intro r b hb
    rw [hs] at hb
    obtain ⟨a, ha, hb⟩ := Option.map_eq_some_iff.mp hb
    have hr := h.keyed r a ha
    calc b.relayedAddr = (f r a).grant.relayedAddr := by rw [hb]; rfl
      _ = (e a.grant).relayedAddr := by rw [hf r a hr]
      _ = r := (haddr a.grant).trans hr
  mem_iff := by
    intro g
    rw [List.mem_map, hs]
    constructor
    · rintro ⟨g₀, hg₀, rfl⟩
      obtain ⟨a, ha, rfl⟩ := (h.mem_iff g₀).mp hg₀
      refine ⟨f (e a.grant).relayedAddr a, ?_, hf _ a (haddr a.grant).symm⟩
      rw [haddr a.grant, ha, Option.map_some]
    · rintro ⟨b, hb, rfl⟩
      obtain ⟨a, ha, hb⟩ := Option.map_eq_some_iff.mp hb
      have hr := h.keyed _ a ha
      have hgranted : a.grant ∈ grants := by
        refine (h.mem_iff a.grant).mpr ⟨a, ?_, rfl⟩
        change s.allocation a.relayedAddr = some a
        rw [hr]
        exact ha
      refine ⟨a.grant, hgranted, ?_⟩
      rw [← hf _ a hr, hb]
  nodup := by
    have hmap : (grants.map e).map Grant.relayedAddr = grants.map Grant.relayedAddr := by
      rw [List.map_map]
      exact List.map_congr_left (fun g _ => haddr g)
    rw [hmap]
    exact h.nodup
  quota := by
    intro ip
    rw [List.countP_map]
    simp only [Function.comp_def, hclient]
    exact h.quota ip

theorem Reconciled.filter (h : Reconciled s grants) {p : SocketAddr → Allocation → Bool}
    {q : Grant → Bool} (hs : ∀ r, s'.allocation r = (s.allocation r).filter (p r))
    (hp : ∀ r a, a.relayedAddr = r → p r a = q a.grant) :
    Reconciled s' (grants.filter q) where
  keyed := by
    intro r a ha
    rw [hs] at ha
    exact h.keyed r a (Option.filter_eq_some_iff.mp ha).1
  mem_iff := by
    intro g
    rw [List.mem_filter, h.mem_iff, hs]
    constructor
    · rintro ⟨⟨a, ha, rfl⟩, hkeep⟩
      exact ⟨a, Option.filter_eq_some_iff.mpr ⟨ha, (hp _ a rfl).trans hkeep⟩, rfl⟩
    · rintro ⟨a, ha, rfl⟩
      obtain ⟨ha, hkeep⟩ := Option.filter_eq_some_iff.mp ha
      exact ⟨⟨a, ha, rfl⟩, (hp _ a rfl).symm.trans hkeep⟩
  nodup := h.nodup.sublist (List.filter_sublist.map _)
  quota := by
    intro ip
    exact Nat.le_trans (List.filter_sublist.countP_le) (h.quota ip)

theorem grant_refresh (c r : SocketAddr) (lifetime now : Nat) {a : Allocation}
    (hr : a.relayedAddr = r') :
    (if r = r' ∧ a.clientAddr = c then a.refresh lifetime now else a).grant =
      a.grant.extend c r (now + min lifetime maxLifetime) := by
  cases hr
  split
  · next hc => exact (if_pos hc).symm
  · next hc => exact (if_neg hc).symm

theorem Grant.extend_relayedAddr (g : Grant) : (g.extend c r time).relayedAddr = g.relayedAddr := by
  rw [Grant.extend]
  split <;> rfl

theorem Grant.extend_clientAddr (g : Grant) : (g.extend c r time).clientAddr = g.clientAddr := by
  rw [Grant.extend]
  split <;> rfl

theorem Reconciled.same (h : Reconciled s grants) {f : SocketAddr → Allocation → Allocation}
    (hs : ∀ r, s'.allocation r = (s.allocation r).map (f r))
    (hf : ∀ r a, (f r a).grant = a.grant) : Reconciled s' grants := by
  have hmap := h.map (e := fun g => g) hs (fun r a _ => hf r a) (fun _ => rfl) (fun _ => rfl)
  rwa [List.map_id'] at hmap

/-- A write keeps table and ledger reconciled; of an insertion it takes that what the request has
checked still holds. -/
theorem Reconciled.write (h : Reconciled s grants) (hmax : s.maxAllocationsPerIp = 10)
    (w : TurnWrite) (hw : s.Allows (some w)) :
    Reconciled (s.write w) (grantsAfter s grants w) := by
  cases w with
  | insert a => exact h.insert hmax hw
  | refresh c r lifetime now =>
    cases hresult : (s.handleRefresh c r lifetime now).2 with
    | error e =>
      have hsame : (s.handleRefresh c r lifetime now).1 = s := handleRefresh_error hresult
      simp only [grantsAfter, hresult, TurnServer.write, hsame]
      exact h
    | ok newLifetime =>
      have hnew : newLifetime = min lifetime maxLifetime := handleRefresh_ok hresult
      simp only [grantsAfter, hresult, hnew]
      exact h.map (allocation_handleRefresh c r lifetime now)
        (fun _ _ ha => grant_refresh c r lifetime now ha) Grant.extend_relayedAddr
        Grant.extend_clientAddr
  | channelBind c r channelNumber peerAddr =>
    apply h.same (allocation_handleChannelBind c r channelNumber peerAddr)
    intro r' a
    split <;> rfl
  | charge id r data =>
    apply h.same (fun r' => allocation_modify r r' (Allocation.charge data))
    intro r' a
    split <;> rfl
  | cleanup now => exact h.filter (allocation_cleanup now) (fun _ _ _ => rfl)
  | release r =>
    refine h.filter (p := fun r' _ => r' ≠ r) ?_ ?_
    · intro r'
      refine (allocation_release r r').trans ?_
      split
      · next hr =>
        cases hr
        simp
      · next hr =>
        have hkeep : decide (r' ≠ r) = true := decide_eq_true (Ne.symm hr)
        cases s.allocation r' with
        | none => rfl
        | some a => rw [Option.filter_some, if_pos hkeep]
    · rintro r' a rfl
      rfl

end Reconciled

theorem reconciled_new (bindAddr : SocketAddr) (realm : String) :
    Reconciled (TurnServer.new bindAddr realm) [] where
  keyed := by
    intro r a ha
    rw [allocation_new] at ha
    cases ha
  mem_iff := by
    intro g
    rw [allocation_new]
    simp
  nodup := List.nodup_nil
  quota := fun _ => Nat.zero_le 10

theorem Reconciled.congr {s s' : TurnServer} (h : Reconciled s grants)
    (hs : s'.allocations = s.allocations) : Reconciled s' grants where
  keyed := fun r a ha => h.keyed r a (by rwa [TurnServer.allocation, hs] at ha)
  mem_iff := by
    intro g
    rw [h.mem_iff, TurnServer.allocation, TurnServer.allocation, hs]
  nodup := h.nodup
  quota := h.quota

theorem TurnLedger.step_reconciled {l : TurnLedger} (op : TurnOp)
    (h : Reconciled l.system.server l.grants) (hmax : l.system.server.maxAllocationsPerIp = 10)
    (hop : l.Undisturbed op) : Reconciled (l.step op).system.server (l.step op).grants := by
  have hs := l.system.step_allocations op
  rw [TurnLedger.Undisturbed] at hop
  rw [TurnLedger.step]
  cases hw : l.system.writeOf op with
  | none =>
    rw [hw] at hs
    exact h.congr hs
  | some w =>
    rw [hw] at hs hop
    exact (h.write hmax w hop).congr hs

theorem Reconciled.honoured {l : TurnLedger} (h : Reconciled l.system.server l.grants)
    (now : Nat) : l.Honoured now where
  kept := fun g hg _ => (h.mem_iff g).mp hg
  distinct := by
    refine (List.pairwise_map.mp h.nodup).imp ?_
    intro g g' hne _ _
    exact hne
  quota := by
    intro ip
    refine Nat.le_trans (List.countP_mono_left ?_) (h.quota ip)
    intro g _ hg
    exact decide_eq_true (of_decide_eq_true hg).1

/-- In a run in which what each request has checked still holds when it inserts its allocation,
the server honours all it has granted, at every point of the run and at every instant. -/
theorem grants_honoured (bindAddr : SocketAddr) (realm : String) (ops : List TurnOp)
    (h : Guarded TurnLedger.step TurnLedger.Undisturbed (.new bindAddr realm) ops) :
    ∀ l, l <+: ops → ∀ now, ((TurnLedger.new bindAddr realm).run l).Honoured now := by
  rintro l ⟨rest, rfl⟩ now
  have hl := (guarded_append.mp h).1
  have hinv := hl.invariant
    (I := fun l => Reconciled l.system.server l.grants ∧ l.system.server.maxAllocationsPerIp = 10)
    ⟨reconciled_new bindAddr realm, rfl⟩ (fun l op hi hop =>
      ⟨l.step_reconciled op hi.1 hi.2 hop, (l.system.step_maxAllocationsPerIp op).trans hi.2⟩)
  exact hinv.1.honoured now

/-- The steps of an allocate request that look for an address, and those that take it. -/
def asks (id : Nat) (clientAddr : SocketAddr) : List TurnOp :=
  [.allocate id clientAddr "user" "secret" none, .checkQuota id, .assignPort id]

def takes (id : Nat) : List TurnOp := [.prepare id 0 "nonce", .insert id]

theorem grants_honoured_twice :
    ((TurnLedger.new ⟨.v4 1, 3478⟩ "p2p-mesh").run (.addCredential "user" "secret" ::
      (asks 0 ⟨.v4 2, 1000⟩ ++ takes 0 ++ asks 1 ⟨.v4 3, 1000⟩ ++ takes 1))).Honoured 5 :=
  grants_honoured ⟨.v4 1, 3478⟩ "p2p-mesh" _ (by decide +kernel) _ (List.prefix_refl _) 5

/-- Two requests that look for a port before either has taken one are granted the same. -/
theorem port_granted_twice :
    ¬ ∀ (bindAddr : SocketAddr) (realm : String) (ops : List TurnOp) (now : Nat),
      (∀ op ∈ ops, ∀ time ∈ op.reading, time ≤ now) →
      ((TurnLedger.new bindAddr realm).run ops).Honoured now := by
  intro h
  have hrun := h ⟨.v4 1, 3478⟩ "p2p-mesh" (.addCredential "user" "secret" ::
    (asks 0 ⟨.v4 2, 1000⟩ ++ asks 1 ⟨.v4 3, 1000⟩ ++ takes 0 ++ takes 1)) 0 (by decide)
  have hgrants : ((TurnLedger.new ⟨.v4 1, 3478⟩ "p2p-mesh").run (.addCredential "user" "secret" ::
      (asks 0 ⟨.v4 2, 1000⟩ ++ asks 1 ⟨.v4 3, 1000⟩ ++ takes 0 ++ takes 1))).grants =
      [⟨⟨.v4 3, 1000⟩, ⟨.v4 1, 50000⟩, "user", seconds 600⟩,
        ⟨⟨.v4 2, 1000⟩, ⟨.v4 1, 50000⟩, "user", seconds 600⟩] := by
    decide +kernel
  have hdistinct := hrun.distinct
  rw [hgrants] at hdistinct
  exact (List.pairwise_cons.mp hdistinct).1 _ List.mem_cons_self (by decide) (by decide) rfl

end P2PMesh.Turn
