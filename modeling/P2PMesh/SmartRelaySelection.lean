import Mathlib.Tactic.Linarith
import P2PMesh.SmartRelayIndexes

namespace P2PMesh.SmartRelay
open P2PMesh.Base
set_option autoImplicit true

section Distance
variable {distanceKm : GeoLocation → GeoLocation → ℚ}

/-- The estimate is below 100 ms for distances up to 6666.7 km, which whole metres tell. -/
theorem estimatedRttUs_lt_iff (a b : GeoLocation) :
    estimatedRttUs distanceKm a b < 100000 ↔ ⌊distanceKm a b * 1000⌋₊ < 6666700 := by
  rw [estimatedRttUs]
  generalize distanceKm a b = d
  rw [Nat.floor_lt' (by decide), Nat.cast_ofNat]
  constructor
  · intro h
    by_contra hlt
    have hfiber : 66667 ≤ ⌊2 * d / 200000 * 1000000⌋₊ := by
      apply Nat.le_floor
      push_cast
      linarith
    have hswitching : 33333 ≤ ⌊d / 1000 * 5000⌋₊ := by
      apply Nat.le_floor
      push_cast
      linarith
    omega
  · intro h
    have hfiber : ⌊2 * d / 200000 * 1000000⌋₊ < 66667 := by
      rw [Nat.floor_lt' (by decide)]
      push_cast
      linarith
    have hswitching : ⌊d / 1000 * 5000⌋₊ < 33334 := by
      rw [Nat.floor_lt' (by decide)]
      push_cast
      linarith
    omega

theorem estimatedRttUs_comm (hsymm : ∀ a b, distanceKm a b = distanceKm b a) (a b : GeoLocation) :
    estimatedRttUs distanceKm a b = estimatedRttUs distanceKm b a := by
  rw [estimatedRttUs, estimatedRttUs, hsymm]

end Distance

section Keyed
variable {m : SmartRelayManager} {distanceKm : GeoLocation → GeoLocation → ℚ}

/-- Every relay is stored under its own id. -/
def SmartRelayManager.Keyed (m : SmartRelayManager) : Prop :=
  ∀ (relayId : String) (relay : SmartRelayNode), m.relays[relayId]? = some relay →
    relay.id = relayId

theorem SmartRelayManager.step_relays (distanceKm : GeoLocation → GeoLocation → ℚ)
    (m : SmartRelayManager) (op : RelayOp) :
    (m.step distanceKm op).relays = m.relays ∨
      (∃ relay, (m.step distanceKm op).relays = m.relays.insert relay.id relay) ∨
        (∃ relayId, (m.step distanceKm op).relays = m.relays.erase relayId) ∨
          ∃ relayId load now, (m.step distanceKm op).relays =
            m.relays.modify relayId (fun r => { r with load := load, lastSeen := now }) := by
  cases op with
  | registerRelay call relay =>
    rw [SmartRelayManager.step, SmartRelayManager.registerRelay]
    split
    · exact .inr (.inl ⟨relay, rfl⟩)
    · exact .inl rfl
  | enter call =>
    rw [SmartRelayManager.step, SmartRelayManager.enter]
    split
    next i key keys _ => exact .inl (SmartRelayManager.enterKey_rest i key).1
    next => exact .inl rfl
  | removeRelay relayId =>
    rw [SmartRelayManager.step, SmartRelayManager.removeRelay]
    cases m.relays[relayId]? with
    | none => exact .inl (by split <;> rfl)
    | some relay =>
      split
      · exact .inr (.inr (.inl ⟨relayId, rfl⟩))
      · exact .inl rfl
  | leave =>
    rw [SmartRelayManager.step, SmartRelayManager.leave]
    split
    next i key keys _ => exact .inl (SmartRelayManager.leaveKey_rest i key).1
    next => exact .inl rfl
  | updateLoad relayId load now =>
    rw [SmartRelayManager.step, SmartRelayManager.updateLoad]
    split
    · exact .inr (.inr (.inr ⟨relayId, load, now, rfl⟩))
    · exact .inl rfl
  | observe now =>
    rw [SmartRelayManager.step, SmartRelayManager.observe]
    exact .inl (by split <;> rfl)
  | findBestRelay call loc bw hint now order =>
    rw [SmartRelayManager.step, SmartRelayManager.findBestRelay]
    cases m.bestRelay distanceKm loc bw hint now order <;> exact .inl (by split <;> rfl)
  | count call =>
    rw [SmartRelayManager.step, SmartRelayManager.count]
    exact .inl (by split <;> rfl)

theorem SmartRelayManager.Keyed.step (h : m.Keyed) (op : RelayOp) :
    (m.step distanceKm op).Keyed := by
  intro relayId relay hr
  rcases m.step_relays distanceKm op with he | ⟨relay', he⟩ | ⟨relayId', he⟩ |
    ⟨relayId', load, now, he⟩
  · rw [he] at hr
    exact h relayId relay hr
  · rw [he, getElem?_insert_eq] at hr
    split at hr
    next hid =>
      cases hr
      exact hid
    next => exact h relayId relay hr
  · rw [he, getElem?_erase_eq] at hr
    split at hr
    next => cases hr
    next => exact h relayId relay hr
  · rw [he, getElem?_modify_eq] at hr
    split at hr
    next hid =>
      obtain ⟨relay', hrelay, rfl⟩ := Option.map_eq_some_iff.mp hr
      exact (h relayId' relay' hrelay).trans hid
    next => exact h relayId relay hr

theorem SmartRelayManager.run_keyed (distanceKm : GeoLocation → GeoLocation → ℚ)
    (ops : List RelayOp) :
    (SmartRelayManager.new.run distanceKm ops).Keyed := by
  apply run_invariant (I := SmartRelayManager.Keyed) _ ?_ (fun m op h => h.step op)
  intro relayId relay hr
  change (none : Option SmartRelayNode) = some relay at hr
  cases hr

/-- The order in which a map of the relays may be gone through: each of its ids once. -/
structure SmartRelayManager.Enumerates (m : SmartRelayManager) (order : List String) : Prop where
  nodup : order.Nodup
  mem : ∀ relayId, relayId ∈ order ↔ (m.relays[relayId]?).isSome = true

theorem SmartRelayManager.mem_values {order : List String} (ho : m.Enumerates order) (hk : m.Keyed)
    {relay : SmartRelayNode} : relay ∈ m.values order ↔ m.relays[relay.id]? = some relay := by
  rw [SmartRelayManager.values, List.mem_filterMap]
  constructor
  · rintro ⟨relayId, -, hr⟩
    rwa [hk relayId relay hr]
  · intro hr
    refine ⟨relay.id, (ho.mem relay.id).mpr ?_, hr⟩
    rw [hr]
    rfl

theorem SmartRelayManager.values_nodup {order : List String} (ho : m.Enumerates order)
    (hk : m.Keyed) : (m.values order).Nodup := by
  refine List.Nodup.filterMap ?_ ho.nodup
  intro i i' relay hi hi'
  exact (hk i relay hi).symm.trans (hk i' relay hi')

/-- Two relays, on a map where a degree of latitude is 111 km. -/
def paris : SmartRelayNode :=
  ⟨"paris", .edge, ⟨48, 2⟩, ⟨1000, 10, 100⟩, ⟨0, 0, 0, 0⟩, 0, 100⟩

def oslo : SmartRelayNode :=
  ⟨"oslo", .edge, ⟨59, 10⟩, ⟨1000, 10, 100⟩, ⟨0, 0, 0, 0⟩, 0, 100⟩

def latitudeKm (a b : GeoLocation) : ℚ :=
  max (a.latitude - b.latitude) (b.latitude - a.latitude) * 111

def twoRelays : List RelayOp := [.registerRelay 0 paris, .registerRelay 1 oslo]

theorem twoRelays_enumerated :
    (SmartRelayManager.new.run latitudeKm twoRelays).Enumerates ["paris", "oslo"] := by
  refine ⟨by decide, ?_⟩
  intro relayId
  change _ ↔ ((((∅ : Std.TreeMap String SmartRelayNode).insert "paris" paris).insert "oslo"
    oslo)[relayId]?).isSome = true
  rw [isSome_insert_at, isSome_insert_at]
  simp

end Keyed

section Selecting
variable {m : SmartRelayManager} {distanceKm : GeoLocation → GeoLocation → ℚ}

/-- A call that writes shares the relays with no selection, and a relay that has been selected
stays until it has been counted. -/
structure SmartRelayManager.Exclusive (m : SmartRelayManager) : Prop where
  alone : m.writer ≠ none → m.selecting.isEmpty = true
  kept : ∀ (call : Nat) relayId, m.selecting[call]? = some relayId →
    ∃ relay, m.relays[relayId]? = some relay

theorem SmartRelayManager.unlocked_iff :
    m.unlocked = true ↔ m.writer = none ∧ m.selecting.isEmpty = true := by
  rw [SmartRelayManager.unlocked, Bool.and_eq_true, Option.isNone_iff_eq_none]

theorem SmartRelayManager.Exclusive.of_unlocked {m' : SmartRelayManager} (hu : m.unlocked = true)
    (hs : m'.selecting = m.selecting) : m'.Exclusive := by
  obtain ⟨-, hempty⟩ := SmartRelayManager.unlocked_iff.mp hu
  rw [← hs] at hempty
  refine ⟨fun _ => hempty, ?_⟩
  intro call relayId h
  rw [Std.TreeMap.getElem?_of_isEmpty hempty] at h
  cases h

theorem SmartRelayManager.Exclusive.congr {m' : SmartRelayManager} (h : m.Exclusive)
    (hr : m'.relays = m.relays) (hw : m'.writer ≠ none → m.writer ≠ none)
    (hs : m'.selecting = m.selecting) : m'.Exclusive := by
  constructor
  · intro hne
    rw [hs]
    exact h.alone (hw hne)
  · rw [hs, hr]
    exact h.kept

theorem SmartRelayManager.bestRelay_mem {order : List String} (hk : m.Keyed)
    (h : m.bestRelay distanceKm loc bw hint now order = some best) :
    m.relays[best.id]? = some best ∧ best.serves bw hint now = true := by
  have hmem := List.mem_filter.mp (mem_sortByKey.mp (List.mem_of_head? h))
  obtain ⟨relayId, -, hr⟩ := List.mem_filterMap.mp hmem.1
  rw [hk relayId best hr]
  exact ⟨hr, hmem.2⟩

theorem SmartRelayManager.Exclusive.step (h : m.Exclusive) (hk : m.Keyed) (op : RelayOp) :
    (m.step distanceKm op).Exclusive := by
  cases op with
  | registerRelay call relay =>
    rw [SmartRelayManager.step, SmartRelayManager.registerRelay]
    split
    next hu => exact .of_unlocked hu.1 rfl
    next => exact h
  | enter call =>
    rw [SmartRelayManager.step, SmartRelayManager.enter]
    split
    next i key keys _ =>
      obtain ⟨hr, hw⟩ := SmartRelayManager.enterKey_rest (m := m) i key
      refine h.congr hr ?_ (by cases key <;> rfl)
      intro hne
      rwa [← hw]
    next => exact h
  | removeRelay relayId =>
    rw [SmartRelayManager.step, SmartRelayManager.removeRelay]
    split
    next hu =>
      cases m.relays[relayId]? with
      | none => exact h
      | some relay => exact .of_unlocked hu rfl
    next => exact h
  | leave =>
    rw [SmartRelayManager.step, SmartRelayManager.leave]
    split
    next i key keys hw =>
      refine h.congr (SmartRelayManager.leaveKey_rest i key).1 ?_ (by cases key <;> rfl)
      intro _
      rw [hw]
      exact Option.some_ne_none _
    next => exact h
  | updateLoad relayId load now =>
    rw [SmartRelayManager.step, SmartRelayManager.updateLoad]
    split
    next hu => exact .of_unlocked hu rfl
    next => exact h
  | observe now =>
    rw [SmartRelayManager.step, SmartRelayManager.observe]
    split
    next => exact h.congr rfl (fun hne => (hne rfl).elim) rfl
    next => exact h
  | findBestRelay call loc bw hint now order =>
    rw [SmartRelayManager.step, SmartRelayManager.findBestRelay]
    split
    next hfree =>
      cases hbest : m.bestRelay distanceKm loc bw hint now order with
      | none => exact h
      | some best =>
        constructor
        · intro hne
          exact (hne (Option.isNone_iff_eq_none.mp hfree.1)).elim
        · intro call' relayId hs
          change (m.selecting.insert call best.id)[call']? = some relayId at hs
          rw [getElem?_insert_eq] at hs
          split at hs
          next =>
            cases hs
            exact ⟨best, (bestRelay_mem hk hbest).1⟩
          next => exact h.kept call' relayId hs
    next => exact h
  | count call =>
    rw [SmartRelayManager.step, SmartRelayManager.count]
    split
    next => exact h
    next relayId hc =>
      constructor
      · intro hne
        rw [Std.TreeMap.getElem?_of_isEmpty (h.alone hne)] at hc
        cases hc
      · intro call' relayId' hs
        change (m.selecting.erase call)[call']? = some relayId' at hs
        rw [getElem?_erase_eq] at hs
        split at hs
        next => cases hs
        next => exact h.kept call' relayId' hs

theorem SmartRelayManager.run_exclusive (ops : List RelayOp) :
    (SmartRelayManager.new.run distanceKm ops).Exclusive := by
  have hboth : (SmartRelayManager.new.run distanceKm ops).Exclusive ∧
      (SmartRelayManager.new.run distanceKm ops).Keyed := by
    apply run_invariant (I := fun m : SmartRelayManager => m.Exclusive ∧ m.Keyed) _ _ (fun m op h =>
      ⟨h.1.step h.2 op, h.2.step op⟩)
    exact ⟨.of_unlocked (m := .new) rfl rfl, run_keyed distanceKm []⟩
  exact hboth.1

/-- A relay that serves, and scores no less than any other that does. -/
def SmartRelayManager.IsBest (m : SmartRelayManager)
    (distanceKm : GeoLocation → GeoLocation → ℚ) (loc : GeoLocation) (bw : UInt64)
    (hint : Option RelayTier) (now : Nat) (best : SmartRelayNode) : Prop :=
  best.serves bw hint now = true ∧ ∀ (relayId : String) relay,
    m.relays[relayId]? = some relay → relay.serves bw hint now = true →
      healthScore relay (estimatedRttUs distanceKm loc relay.location) 0 ≤
        healthScore best (estimatedRttUs distanceKm loc best.location) 0

theorem SmartRelayManager.bestRelay_isBest {order : List String} (ho : m.Enumerates order)
    (hk : m.Keyed) (h : m.bestRelay distanceKm loc bw hint now order = some best) :
    m.IsBest distanceKm loc bw hint now best := by
  refine ⟨(bestRelay_mem hk h).2, ?_⟩
  intro relayId relay hr hserves
  have hid := hk relayId relay hr
  rw [← hid] at hr
  have hmem : relay ∈ (m.values order).filter (fun relay => relay.serves bw hint now) :=
    List.mem_filter.mpr ⟨(mem_values ho hk).mpr hr, hserves⟩
  obtain ⟨rest, hrest⟩ := List.head?_eq_some_iff.mp h
  have hsorted : (best :: rest).Pairwise (fun x y =>
      OrderDual.toDual (healthScore x (estimatedRttUs distanceKm loc x.location) 0) ≤
        OrderDual.toDual (healthScore y (estimatedRttUs distanceKm loc y.location) 0)) := by
    rw [← hrest]
    exact sortByKey_sorted _
  have hmem' : relay ∈ best :: rest := by
    rw [← hrest]
    exact mem_sortByKey.mpr hmem
  rcases List.mem_cons.mp hmem' with rfl | hmem'
  · exact le_refl _
  · exact OrderDual.toDual_le_toDual.mp ((List.pairwise_cons.mp hsorted).1 relay hmem')

theorem SmartRelayManager.exists_bestRelay {order : List String} (ho : m.Enumerates order)
    (hk : m.Keyed) {relayId : String} {relay : SmartRelayNode}
    (hr : m.relays[relayId]? = some relay) (hs : relay.serves bw hint now = true) :
    ∃ best, m.bestRelay distanceKm loc bw hint now order = some best := by
  rw [← hk relayId relay hr] at hr
  have hmem : relay ∈ (m.values order).filter (fun relay => relay.serves bw hint now) :=
    List.mem_filter.mpr ⟨(mem_values ho hk).mpr hr, hs⟩
  rw [SmartRelayManager.bestRelay]
  cases hsort : sortByKey (fun relay => OrderDual.toDual
      (healthScore relay (estimatedRttUs distanceKm loc relay.location) 0))
        ((m.values order).filter (fun relay => relay.serves bw hint now)) with
  | nil =>
    have hmem' : relay ∈ ([] : List SmartRelayNode) := by
      rw [← hsort]
      exact mem_sortByKey.mpr hmem
    exact (List.not_mem_nil hmem').elim
  | cons best rest => exact ⟨best, rfl⟩

/-- At any moment of any run a selection finds a relay exactly when one serves, one that is stored
and scores highest; and what it has found stays until it has been counted. -/
theorem SmartRelayManager.run_bestRelay (ops : List RelayOp) (order : List String)
    (loc : GeoLocation) (bw : UInt64) (hint : Option RelayTier) (now : Nat)
    (ho : (SmartRelayManager.new.run distanceKm ops).Enumerates order) :
    ((∃ best, (SmartRelayManager.new.run distanceKm ops).bestRelay distanceKm loc bw hint now
        order = some best) ↔
      ∃ (relayId : String) (relay : SmartRelayNode),
        (SmartRelayManager.new.run distanceKm ops).relays[relayId]? = some relay ∧
          relay.serves bw hint now = true) ∧
      (∀ best, (SmartRelayManager.new.run distanceKm ops).bestRelay distanceKm loc bw hint now
        order = some best →
          (SmartRelayManager.new.run distanceKm ops).relays[best.id]? = some best ∧
            (SmartRelayManager.new.run distanceKm ops).IsBest distanceKm loc bw hint now best) ∧
        (SmartRelayManager.new.run distanceKm ops).Exclusive := by
  have hk := SmartRelayManager.run_keyed distanceKm ops
  refine ⟨⟨?_, ?_⟩, ?_, SmartRelayManager.run_exclusive ops⟩
  · rintro ⟨best, h⟩
    exact ⟨best.id, best, bestRelay_mem hk h⟩
  · rintro ⟨relayId, relay, hr, hs⟩
    exact exists_bestRelay ho hk hr hs
  · intro best h
    exact ⟨(bestRelay_mem hk h).1, bestRelay_isBest ho hk h⟩

theorem SmartRelayManager.run_bestRelay_oslo :
    ∃ best, (SmartRelayManager.new.run latitudeKm twoRelays).bestRelay latitudeKm oslo.location 1000
      (some .edge) 0 ["paris", "oslo"] = some best :=
  (SmartRelayManager.run_bestRelay _ _ _ _ _ _ twoRelays_enumerated).1.mpr
    ⟨"oslo", oslo, by decide +kernel, by decide +kernel⟩

end Selecting

section Paths
variable {m : SmartRelayManager} {distanceKm : GeoLocation → GeoLocation → ℚ}

/-- Two relays that are alive, the one within 100 ms of the source, the other of the target. -/
structure SmartRelayManager.Bridges (m : SmartRelayManager)
    (distanceKm : GeoLocation → GeoLocation → ℚ) (srcLocation dstLocation : GeoLocation)
    (now : Nat) (src dst : SmartRelayNode) : Prop where
  distinct : src ≠ dst
  srcStored : m.relays[src.id]? = some src
  dstStored : m.relays[dst.id]? = some dst
  srcAlive : src.alive now = true
  dstAlive : dst.alive now = true
  srcNear : estimatedRttUs distanceKm srcLocation src.location < 100000
  dstNear : estimatedRttUs distanceKm dst.location dstLocation < 100000

section Search
variable {order : List String} {now : Nat} {srcLocation dstLocation : GeoLocation}

theorem SmartRelayManager.mem_live (ho : m.Enumerates order) (hk : m.Keyed)
    {relay : SmartRelayNode} :
    relay ∈ (m.values order).filter (fun relay => relay.alive now) ↔
      m.relays[relay.id]? = some relay ∧ relay.alive now = true := by
  rw [List.mem_filter, SmartRelayManager.mem_values ho hk]

theorem SmartRelayManager.findNearestRelays_live (ho : m.Enumerates order) (hk : m.Keyed)
    {relay : SmartRelayNode} {n : Nat}
    (h : relay ∈ m.findNearestRelays distanceKm location n now order) :
    m.relays[relay.id]? = some relay ∧ relay.alive now = true :=
  (SmartRelayManager.mem_live ho hk).mp (mem_sortByKey.mp (List.mem_of_mem_take h))

theorem mem_pairs {l l' : List SmartRelayNode} {pair : SmartRelayNode × SmartRelayNode} :
    pair ∈ l.flatMap (fun src => l'.map (fun dst => (src, dst))) ↔ pair.1 ∈ l ∧ pair.2 ∈ l' := by
  simp only [List.mem_flatMap, List.mem_map]
  constructor
  · rintro ⟨src, hsrc, dst, hdst, rfl⟩
    exact ⟨hsrc, hdst⟩
  · rintro ⟨hsrc, hdst⟩
    exact ⟨pair.1, hsrc, pair.2, hdst, rfl⟩

theorem SmartRelayManager.findBestPath_bridges (ho : m.Enumerates order) (hk : m.Keyed)
    (h : m.findBestPath distanceKm srcLocation dstLocation now order = some path) :
    ∃ src dst, m.Bridges distanceKm srcLocation dstLocation now src dst ∧
      path = [src.id, dst.id] := by
  obtain ⟨pair, hpair, rfl⟩ := Option.map_eq_some_iff.mp h
  obtain ⟨hsrc, hdst⟩ := mem_pairs.mp (List.mem_of_find?_eq_some hpair)
  have hcond := List.find?_some hpair
  rw [decide_eq_true_eq] at hcond
  obtain ⟨hne, hsrcNear, hdstNear⟩ := hcond
  obtain ⟨hsrcStored, hsrcAlive⟩ := findNearestRelays_live ho hk hsrc
  obtain ⟨hdstStored, hdstAlive⟩ := findNearestRelays_live ho hk hdst
  exact ⟨pair.1, pair.2,
    ⟨hne, hsrcStored, hdstStored, hsrcAlive, hdstAlive, hsrcNear, hdstNear⟩, rfl⟩

/-- The three relays nearest to each end hold a pair that bridges the locations if any two do. -/
theorem SmartRelayManager.exists_findBestPath (ho : m.Enumerates order) (hk : m.Keyed)
    (hsymm : ∀ a b, distanceKm a b = distanceKm b a) {src dst : SmartRelayNode}
    (h : m.Bridges distanceKm srcLocation dstLocation now src dst) :
    ∃ path, m.findBestPath distanceKm srcLocation dstLocation now order = some path := by
  have hclosed : ∀ (location : GeoLocation) (x y : SmartRelayNode),
      ⌊distanceKm location x.location * 1000⌋₊ ≤ ⌊distanceKm location y.location * 1000⌋₊ →
        estimatedRttUs distanceKm location y.location < 100000 →
          estimatedRttUs distanceKm location x.location < 100000 := by
    intro location x y hle hy
    rw [estimatedRttUs_lt_iff] at hy ⊢
    exact hle.trans_lt hy
  have hdstNear : estimatedRttUs distanceKm dstLocation dst.location < 100000 := by
    rw [estimatedRttUs_comm hsymm]
    exact h.dstNear
  have hnodup := (SmartRelayManager.values_nodup ho hk).filter (fun relay => relay.alive now)
  obtain ⟨a, ha, b, hb, hne, hpa, hqb⟩ := (exists_pair_take (n := 3) (hclosed srcLocation)
    (hclosed dstLocation) hnodup (by decide)).mpr
      ⟨src, (mem_live ho hk).mpr ⟨h.srcStored, h.srcAlive⟩,
        dst, (mem_live ho hk).mpr ⟨h.dstStored, h.dstAlive⟩, h.distinct, h.srcNear, hdstNear⟩
  rw [estimatedRttUs_comm hsymm] at hqb
  cases hpath : m.findBestPath distanceKm srcLocation dstLocation now order with
  | some path => exact ⟨path, rfl⟩
  | none =>
    have hnone := List.find?_eq_none.mp (Option.map_eq_none_iff.mp hpath) (a, b)
      (mem_pairs.mpr ⟨ha, hb⟩)
    exact (hnone (decide_eq_true_eq.mpr ⟨hne, hpa, hqb⟩)).elim

end Search

/-- At any moment of any run the search finds a path exactly when two relays bridge the
locations, and then one that does. -/
theorem SmartRelayManager.run_findBestPath (ops : List RelayOp) (order : List String) (now : Nat)
    (srcLocation dstLocation : GeoLocation) (hsymm : ∀ a b, distanceKm a b = distanceKm b a)
    (ho : (SmartRelayManager.new.run distanceKm ops).Enumerates order) :
    ((∃ path, (SmartRelayManager.new.run distanceKm ops).findBestPath distanceKm srcLocation
        dstLocation now order = some path) ↔
      ∃ src dst, (SmartRelayManager.new.run distanceKm ops).Bridges distanceKm srcLocation
        dstLocation now src dst) ∧
      ∀ path, (SmartRelayManager.new.run distanceKm ops).findBestPath distanceKm srcLocation
        dstLocation now order = some path → ∃ src dst,
          (SmartRelayManager.new.run distanceKm ops).Bridges distanceKm srcLocation dstLocation now
            src dst ∧ path = [src.id, dst.id] := by
  have hk := SmartRelayManager.run_keyed distanceKm ops
  refine ⟨⟨?_, ?_⟩, fun path h => findBestPath_bridges ho hk h⟩
  · rintro ⟨path, h⟩
    obtain ⟨src, dst, hbridges, -⟩ := findBestPath_bridges ho hk h
    exact ⟨src, dst, hbridges⟩
  · rintro ⟨src, dst, h⟩
    exact exists_findBestPath ho hk hsymm h

theorem SmartRelayManager.run_findBestPath_oslo :
    ∃ path, (SmartRelayManager.new.run latitudeKm twoRelays).findBestPath latitudeKm
      paris.location oslo.location 0 ["paris", "oslo"] = some path := by
  have hsymm : ∀ a b, latitudeKm a b = latitudeKm b a := by
    intro a b
    rw [latitudeKm, latitudeKm, max_comm]
  apply (SmartRelayManager.run_findBestPath _ _ _ _ _ hsymm twoRelays_enumerated).1.mpr
  exact ⟨paris, oslo, by decide, by decide +kernel, by decide +kernel, by decide, by decide,
    by decide +kernel, by decide +kernel⟩

end Paths

end P2PMesh.SmartRelay
