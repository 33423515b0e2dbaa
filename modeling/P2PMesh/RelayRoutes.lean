import P2PMesh.RelayIdentity

namespace P2PMesh.Relay
open P2PMesh.Base
set_option autoImplicit true

/-- Every route leads to the address under which its destination is registered now. -/
def ForwardingTable.RoutesFollow (t : ForwardingTable) : Prop :=
  ∀ srcDevice dstDevice addr, t.lookup srcDevice dstDevice = some addr →
    t.deviceAddrs[dstDevice]? = some addr

section Routes
variable (S : CryptoSuite) (overflowChecks : Bool) (showIp : IpAddr → String)

/-- A step that changes the address of a device, or drops it, finds no route to the device that
leads elsewhere. -/
def RelayLoop.KeepsRoutes (r : RelayLoop) : RelayOp → Prop
  | .datagram d => r.running = true → r.table.authentic S d = true →
      r.table.WithinLimits overflowChecks showIp d →
      ∀ srcDevice addr, r.table.lookup srcDevice (idText d.srcIdBytes) = some addr →
        addr = d.srcAddr
  | .registerDevice deviceId newAddr => ∀ srcDevice addr,
      r.table.lookup srcDevice deviceId = some addr → addr = newAddr
  | .unregisterDevice deviceId => ∀ srcDevice, r.table.lookup srcDevice deviceId = none
  | .addRoute _ _ | .removeRoute _ _ => True

variable {S overflowChecks showIp}

theorem ForwardingTable.lookup_eq {t t' : ForwardingTable} (h : t'.routes = t.routes)
    (srcDevice dstDevice : String) :
    t'.lookup srcDevice dstDevice = t.lookup srcDevice dstDevice := by
  rw [ForwardingTable.lookup, ForwardingTable.lookup, h]

/-- A new address of a device keeps the routes right exactly where they lead to it already. -/
theorem ForwardingTable.RoutesFollow.insert_iff {t t' : ForwardingTable} (h : t.RoutesFollow)
    (deviceId : String) (newAddr : SocketAddr) (hroutes : t'.routes = t.routes)
    (haddrs : t'.deviceAddrs = t.deviceAddrs.insert deviceId newAddr) :
    t'.RoutesFollow ↔
      ∀ srcDevice addr, t.lookup srcDevice deviceId = some addr → addr = newAddr := by
  constructor
  · intro h' srcDevice addr hl
    have hentry := h' srcDevice deviceId addr ((lookup_eq hroutes _ _).trans hl)
    rw [haddrs, Std.TreeMap.getElem?_insert_self] at hentry
    exact (Option.some.inj hentry).symm
  · intro hsame srcDevice dstDevice addr hl
    rw [lookup_eq hroutes] at hl
    rw [haddrs]
    by_cases hd : deviceId = dstDevice
    · cases hd
      rw [Std.TreeMap.getElem?_insert_self, hsame srcDevice addr hl]
    · rw [getElem?_insert_of_ne _ _ hd]
      exact h srcDevice dstDevice addr hl

theorem ForwardingTable.RoutesFollow.unregister_iff {t : ForwardingTable} (h : t.RoutesFollow)
    (deviceId : String) :
    (t.unregisterDevice deviceId).RoutesFollow ↔
      ∀ srcDevice, t.lookup srcDevice deviceId = none := by
  constructor
  · intro h' srcDevice
    cases hl : t.lookup srcDevice deviceId with
    | none => rfl
    | some addr =>
      have hentry := h' srcDevice deviceId addr hl
      rw [ForwardingTable.unregisterDevice, Std.TreeMap.getElem?_erase_self] at hentry
      cases hentry
  · intro hnone srcDevice dstDevice addr hl
    have hold : t.lookup srcDevice dstDevice = some addr := hl
    have hne : deviceId ≠ dstDevice := by
      rintro rfl
      rw [hnone] at hold
      cases hold
    rw [ForwardingTable.unregisterDevice, getElem?_erase_of_ne _ hne]
    exact h srcDevice dstDevice addr hold

attribute [local instance] lexOrd in
theorem ForwardingTable.lookup_insert (t : ForwardingTable) {routes : Routes} :
    ForwardingTable.lookup { t with routes := routes.insert (src, dst) dstAddr } src' dst' =
      if (src, dst) = (src', dst') then some dstAddr else routes[(src', dst')]? :=
  getElem?_insert_eq _ _ _ _

attribute [local instance] lexOrd in
theorem ForwardingTable.lookup_erase (t : ForwardingTable) {routes : Routes} :
    ForwardingTable.lookup { t with routes := routes.erase (src, dst) } src' dst' =
      if (src, dst) = (src', dst') then none else routes[(src', dst')]? :=
  getElem?_erase_eq _ _ _

theorem ForwardingTable.RoutesFollow.addRoute {t : ForwardingTable} (h : t.RoutesFollow)
    (srcDevice dstDevice : String) : (t.addRoute srcDevice dstDevice).RoutesFollow := by
  rw [ForwardingTable.addRoute]
  split
  · next dstAddr haddr =>
    intro srcDevice' dstDevice' addr hl
    rw [ForwardingTable.lookup_insert] at hl
    split at hl
    · next hc =>
      cases hc
      cases hl
      exact haddr
    · exact h srcDevice' dstDevice' addr hl
  · exact h

theorem ForwardingTable.RoutesFollow.removeRoute {t : ForwardingTable} (h : t.RoutesFollow)
    (srcDevice dstDevice : String) : (t.removeRoute srcDevice dstDevice).RoutesFollow := by
  intro srcDevice' dstDevice' addr hl
  rw [ForwardingTable.removeRoute, ForwardingTable.lookup_erase] at hl
  split at hl
  · cases hl
  · exact h srcDevice' dstDevice' addr hl

theorem RelayLoop.Turn.routesFollow_iff {r r' : RelayLoop}
    (hturn : r.Turn S overflowChecks showIp d r') (h : r.table.RoutesFollow) :
    r'.table.RoutesFollow ↔ r.KeepsRoutes S overflowChecks showIp (.datagram d) := by
  have hstopped : ¬ r.table.WithinLimits overflowChecks showIp d →
      (r.table.RoutesFollow ↔ r.KeepsRoutes S overflowChecks showIp (.datagram d)) :=
    fun hno => iff_of_true h (fun _ _ hwithin => (hno hwithin).elim)
  cases hturn with
  | accepted hr ha hdevice hip =>
    have hwithin : r.table.WithinLimits overflowChecks showIp d := ⟨⟨_, hdevice⟩, ⟨_, hip⟩⟩
    refine (h.insert_iff (idText d.srcIdBytes) d.srcAddr ?_ ?_).trans ?_
    · exact RelayLoop.accept_routes _ d
    · exact RelayLoop.accept_deviceAddrs _ d
    · exact ⟨fun hsame _ _ _ => hsame, fun hkeeps => hkeeps hr ha hwithin⟩
  | refused hno => exact iff_of_true h (fun hr ha => (hno ⟨hr, ha⟩).elim)
  | devicePanic hr ha hdevice =>
    apply hstopped
    rintro ⟨⟨rates, hd⟩, -⟩
    cases hdevice.symm.trans hd
  | deviceOver hr ha hdevice =>
    apply hstopped
    rintro ⟨⟨rates, hd⟩, -⟩
    cases hdevice.symm.trans hd
  | ipPanic hr ha hdevice hip =>
    apply hstopped
    rintro ⟨-, ips, hi⟩
    cases hip.symm.trans hi
  | ipOver hr ha hdevice hip =>
    apply hstopped
    rintro ⟨-, ips, hi⟩
    cases hip.symm.trans hi

theorem RelayLoop.step_routesFollow_iff (r : RelayLoop) (op : RelayOp)
    (h : r.table.RoutesFollow) :
    (r.step S overflowChecks showIp op).table.RoutesFollow ↔
      r.KeepsRoutes S overflowChecks showIp op := by
  cases op with
  | datagram d => exact (r.receive_turn d).routesFollow_iff h
  | registerDevice deviceId addr => exact h.insert_iff deviceId addr rfl rfl
  | unregisterDevice deviceId => exact h.unregister_iff deviceId
  | addRoute srcDevice dstDevice => exact iff_of_true (h.addRoute _ _) trivial
  | removeRoute srcDevice dstDevice => exact iff_of_true (h.removeRoute _ _) trivial

/-- At every point of a run the routes lead where their destinations are registered, exactly
where no step moves or drops a device that a route leads to. -/
theorem routes_follow_devices_iff {t : ForwardingTable} (ht : t.RoutesFollow)
    (ops : List RelayOp) :
    (∀ before, before <+: ops →
      (RelayLoop.run S overflowChecks showIp (.start t) before).table.RoutesFollow) ↔
    Guarded (RelayLoop.step S overflowChecks showIp)
      (RelayLoop.KeepsRoutes S overflowChecks showIp) (.start t) ops :=
  forall_prefix_iff (I := fun r : RelayLoop => r.table.RoutesFollow) ht
    RelayLoop.step_routesFollow_iff ops

end Routes

theorem routesFollow_new (relayHmacKey : Option String) :
    (ForwardingTable.new relayHmacKey).RoutesFollow := by
  intro srcDevice dstDevice addr hl
  rw [ForwardingTable.lookup, ForwardingTable.new, Std.TreeMap.getElem?_emptyc] at hl
  cases hl

theorem routes_follow_devices_iff_fresh :
    (RelayLoop.run arithmeticSuite true dottedIp (.start (ForwardingTable.new none))
      [.registerDevice "bob" ⟨.v4 2, 4000⟩, .addRoute "alice" "bob"]).table.RoutesFollow := by
  have hrun := (@routes_follow_devices_iff arithmeticSuite true dottedIp (ForwardingTable.new none)
    (routesFollow_new none) [.registerDevice "bob" ⟨.v4 2, 4000⟩, .addRoute "alice" "bob"]).mpr
  apply hrun ⟨?_, trivial, trivial⟩ _ (List.prefix_refl _)
  intro srcDevice addr hl
  have hentry : (ForwardingTable.new none).deviceAddrs["bob"]? = some addr :=
    routesFollow_new none srcDevice "bob" addr hl
  rw [ForwardingTable.new, Std.TreeMap.getElem?_emptyc] at hentry
  cases hentry

/-- A device that comes back under another address leaves its routes behind, and one that is
dropped leaves them too. -/
theorem stale_routes_remain :
    ¬ ∀ (ops : List RelayOp), (RelayLoop.run arithmeticSuite true dottedIp
      (.start (ForwardingTable.new none)) ops).table.RoutesFollow := by
  intro h
  have hfollow := h [.registerDevice "bob" ⟨.v4 2, 4000⟩, .addRoute "alice" "bob",
    .registerDevice "bob" ⟨.v4 3, 4000⟩]
  have hentry := hfollow "alice" "bob" ⟨.v4 2, 4000⟩ (by decide +kernel)
  have hmoved : (RelayLoop.run arithmeticSuite true dottedIp (.start (ForwardingTable.new none))
      [.registerDevice "bob" ⟨.v4 2, 4000⟩, .addRoute "alice" "bob",
        .registerDevice "bob" ⟨.v4 3, 4000⟩]).table.deviceAddrs["bob"]? =
      some ⟨.v4 3, 4000⟩ := by
    decide +kernel
  rw [hmoved] at hentry
  cases hentry

end P2PMesh.Relay
