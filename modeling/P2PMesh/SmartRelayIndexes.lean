import P2PMesh.Base.Tally
import P2PMesh.SmartRelay

namespace P2PMesh.SmartRelay
open P2PMesh.Base
set_option autoImplicit true

section Indexes
variable (m : SmartRelayManager)

/-- Whether a relay is entered somewhere. -/
def SmartRelayManager.Entered : IndexKey → String → Prop
  | .tier t, relayId => relayId ∈ m.byTier[t]?.getD ∅
  | .region name, relayId => relayId ∈ m.byRegion[name]?.getD ∅
  | .predictor, relayId => (m.predictors[relayId]?).isSome = true
  | .selection, relayId => (m.selections[relayId]?).isSome = true

def SmartRelayManager.removing : Option (String × List IndexKey) :=
  match m.writer with
  | some (.removing relayId keys) => some (relayId, keys)
  | _ => none

/-- The relays as records that are filed in the maps beside them. -/
def SmartRelayManager.catalogue : Catalogue String IndexKey Nat where
  record relayId := m.relays[relayId]?.map SmartRelayNode.keys
  filed := m.Entered
  pending call := m.registering[call]?
  leaving := m.removing

/-- What a step is to the catalogue. -/
def SmartRelayManager.catalogued : RelayOp → CatalogueEvent String IndexKey Nat
  | .registerRelay call relay =>
    if m.unlocked then .store call relay.id relay.keys else .idle
  | .enter call => .file call
  | .removeRelay relayId => if m.unlocked then .take relayId else .idle
  | .leave => .unfile
  | _ => .idle

end Indexes

section Simulation
variable {m : SmartRelayManager} {distanceKm : GeoLocation → GeoLocation → ℚ}

theorem mem_insert_at {K : Type} [Ord K] [Std.TransOrd K] [Std.LawfulEqOrd K] [DecidableEq K]
    (t : Std.TreeMap K (Std.TreeSet String)) (k k' : K) (i i' : String) :
    i' ∈ (t.insert k ((t[k]?.getD ∅).insert i))[k']?.getD ∅ ↔
      i' ∈ t[k']?.getD ∅ ∨ k' = k ∧ i' = i := by
  rw [getElem?_insert_eq]
  by_cases hk : k = k'
  · cases hk
    rw [if_pos rfl, Option.getD_some, Std.TreeSet.mem_insert, Std.compare_eq_iff_eq]
    constructor
    · rintro (rfl | hi)
      · exact .inr ⟨rfl, rfl⟩
      · exact .inl hi
    · rintro (hi | ⟨-, rfl⟩)
      · exact .inr hi
      · exact .inl rfl
  · rw [if_neg hk]
    exact (or_iff_left (fun h => hk h.1.symm)).symm

theorem mem_modify_at {K : Type} [Ord K] [Std.TransOrd K] [Std.LawfulEqOrd K] [DecidableEq K]
    (t : Std.TreeMap K (Std.TreeSet String)) (k k' : K) (i i' : String) :
    i' ∈ (t.modify k (fun ids => ids.erase i))[k']?.getD ∅ ↔
      i' ∈ t[k']?.getD ∅ ∧ ¬ (k' = k ∧ i' = i) := by
  rw [getElem?_modify_eq]
  by_cases hk : k = k'
  · cases hk
    rw [if_pos rfl]
    cases t[k]? with
    | none =>
      rw [Option.map_none, Option.getD_none]
      exact iff_of_false Std.TreeSet.not_mem_emptyc (fun h => Std.TreeSet.not_mem_emptyc h.1)
    | some ids =>
      rw [Option.map_some, Option.getD_some, Option.getD_some, Std.TreeSet.mem_erase, Ne,
        Std.compare_eq_iff_eq]
      constructor
      · rintro ⟨hne, hi⟩
        exact ⟨hi, fun h => hne h.2.symm⟩
      · rintro ⟨hi, hne⟩
        exact ⟨fun h => hne ⟨rfl, h.symm⟩, hi⟩
  · rw [if_neg hk]
    exact (and_iff_left (fun h => hk h.1.symm)).symm

theorem isSome_insert_at {β : Type} (t : Std.TreeMap String β) (i i' : String) (v : β) :
    ((t.insert i v)[i']?).isSome = true ↔ (t[i']?).isSome = true ∨ i' = i := by
  rw [getElem?_insert_eq]
  by_cases hi : i = i'
  · rw [if_pos hi]
    exact iff_of_true rfl (.inr hi.symm)
  · rw [if_neg hi]
    exact (or_iff_left (fun h => hi h.symm)).symm

theorem isSome_erase_at {β : Type} (t : Std.TreeMap String β) (i i' : String) :
    ((t.erase i)[i']?).isSome = true ↔ (t[i']?).isSome = true ∧ ¬ i' = i := by
  rw [getElem?_erase_eq]
  by_cases hi : i = i'
  · rw [if_pos hi]
    exact iff_of_false Bool.false_ne_true (fun h => h.2 hi.symm)
  · rw [if_neg hi]
    exact (and_iff_left (fun h => hi h.symm)).symm

theorem isSome_modify_at {β : Type} (t : Std.TreeMap String β) (i i' : String) (f : β → β) :
    ((t.modify i f)[i']?).isSome = (t[i']?).isSome := by
  rw [getElem?_modify_eq]
  split
  next hi => rw [hi, Option.isSome_map]
  next => rfl

theorem SmartRelayManager.enterKey_entered (key k : IndexKey) (i i' : String) :
    (m.enterKey i key).Entered k i' ↔ m.Entered k i' ∨ k = key ∧ i' = i := by
  cases key with
  | tier t =>
    cases k with
    | tier t' =>
      rw [IndexKey.tier.injEq]
      exact mem_insert_at m.byTier t t' i i'
    | region | predictor | selection => exact (or_iff_left (by rintro ⟨⟨⟩, -⟩)).symm
  | region name =>
    cases k with
    | region name' =>
      rw [IndexKey.region.injEq]
      exact mem_insert_at m.byRegion name name' i i'
    | tier | predictor | selection => exact (or_iff_left (by rintro ⟨⟨⟩, -⟩)).symm
  | predictor =>
    cases k with
    | predictor =>
      rw [eq_self, true_and]
      exact isSome_insert_at m.predictors i i' _
    | tier | region | selection => exact (or_iff_left (by rintro ⟨⟨⟩, -⟩)).symm
  | selection =>
    cases k with
    | selection =>
      rw [eq_self, true_and]
      exact isSome_insert_at m.selections i i' _
    | tier | region | predictor => exact (or_iff_left (by rintro ⟨⟨⟩, -⟩)).symm

theorem SmartRelayManager.leaveKey_entered (key k : IndexKey) (i i' : String) :
    (m.leaveKey i key).Entered k i' ↔ m.Entered k i' ∧ ¬ (k = key ∧ i' = i) := by
  cases key with
  | tier t =>
    cases k with
    | tier t' =>
      rw [IndexKey.tier.injEq]
      exact mem_modify_at m.byTier t t' i i'
    | region | predictor | selection => exact (and_iff_left (by rintro ⟨⟨⟩, -⟩)).symm
  | region name =>
    cases k with
    | region name' =>
      rw [IndexKey.region.injEq]
      exact mem_modify_at m.byRegion name name' i i'
    | tier | predictor | selection => exact (and_iff_left (by rintro ⟨⟨⟩, -⟩)).symm
  | predictor =>
    cases k with
    | predictor =>
      rw [eq_self, true_and]
      exact isSome_erase_at m.predictors i i'
    | tier | region | selection => exact (and_iff_left (by rintro ⟨⟨⟩, -⟩)).symm
  | selection =>
    cases k with
    | selection =>
      rw [eq_self, true_and]
      exact isSome_erase_at m.selections i i'
    | tier | region | predictor => exact (and_iff_left (by rintro ⟨⟨⟩, -⟩)).symm

theorem SmartRelayManager.enterKey_rest (i : String) (key : IndexKey) :
    (m.enterKey i key).relays = m.relays ∧ (m.enterKey i key).writer = m.writer := by
  cases key <;> exact ⟨rfl, rfl⟩

theorem SmartRelayManager.leaveKey_rest (i : String) (key : IndexKey) :
    (m.leaveKey i key).relays = m.relays ∧ (m.leaveKey i key).registering = m.registering := by
  cases key <;> exact ⟨rfl, rfl⟩

theorem SmartRelayManager.removing_of_unlocked (h : m.unlocked = true) : m.removing = none := by
  rw [SmartRelayManager.unlocked, Bool.and_eq_true, Option.isNone_iff_eq_none] at h
  rw [SmartRelayManager.removing, h.1]

theorem SmartRelayManager.catalogue_registerRelay (call : Nat) (relay : SmartRelayNode) :
    (m.registerRelay call relay).catalogue =
      m.catalogue.step (m.catalogued (.registerRelay call relay)) := by
  rw [SmartRelayManager.registerRelay, SmartRelayManager.catalogued]
  by_cases hu : m.unlocked = true
  · rw [if_pos hu]
    have hl : m.catalogue.leaving = none := SmartRelayManager.removing_of_unlocked hu
    cases hc : m.registering[call]? with
    | some rest =>
      rw [if_neg (fun h => Bool.false_ne_true h.2), Catalogue.step, if_neg]
      rintro ⟨-, h⟩
      have hp : m.catalogue.pending call = some rest := hc
      rw [hp] at h
      exact Bool.false_ne_true h
    | none =>
      rw [if_pos ⟨hu, rfl⟩, Catalogue.step_store hl hc]
      apply Catalogue.ext
      · exact map_getElem?_insert_eq_update m.relays relay.id relay SmartRelayNode.keys
      · rfl
      · exact getElem?_insert_eq_update m.registering call (relay.id, relay.keys)
      · rfl
  · rw [if_neg hu, if_neg (fun h => hu h.1)]
    rfl

theorem SmartRelayManager.catalogue_enter (call : Nat) :
    (m.enter call).catalogue = m.catalogue.step (.file call) := by
  rw [SmartRelayManager.enter]
  split
  next i key keys hc =>
    have hp : m.catalogue.pending call = some (i, key :: keys) := hc
    rw [Catalogue.step_file hp]
    obtain ⟨hrelays, hwriter⟩ := SmartRelayManager.enterKey_rest (m := m) i key
    apply Catalogue.ext
    · change (fun i' => (m.enterKey i key).relays[i']?.map SmartRelayNode.keys) =
        fun i' => m.relays[i']?.map SmartRelayNode.keys
      rw [hrelays]
    · funext k i'
      exact propext (SmartRelayManager.enterKey_entered key k i i')
    · cases hrest : unfinished i keys with
      | none => exact getElem?_erase_eq_update m.registering call
      | some rest => exact getElem?_insert_eq_update m.registering call rest
    · change SmartRelayManager.removing { m.enterKey i key with registering := _ } = m.removing
      rw [SmartRelayManager.removing, SmartRelayManager.removing, hwriter]
  next hc =>
    rw [Catalogue.step]
    split
    next i key keys hp => exact (hc i key keys hp).elim
    next => rfl

theorem SmartRelayManager.catalogue_removeRelay (relayId : String) :
    (m.removeRelay relayId).catalogue =
      m.catalogue.step (m.catalogued (.removeRelay relayId)) := by
  rw [SmartRelayManager.removeRelay, SmartRelayManager.catalogued]
  by_cases hu : m.unlocked = true
  · rw [if_pos hu, if_pos hu]
    have hl : m.catalogue.leaving = none := SmartRelayManager.removing_of_unlocked hu
    cases hr : m.relays[relayId]? with
    | none =>
      have hrecord : m.catalogue.record relayId = none := by
        change m.relays[relayId]?.map SmartRelayNode.keys = none
        rw [hr, Option.map_none]
      rw [Catalogue.step, hl, hrecord]
    | some relay =>
      have hrecord : m.catalogue.record relayId = some relay.keys := by
        change m.relays[relayId]?.map SmartRelayNode.keys = some relay.keys
        rw [hr, Option.map_some]
      rw [Catalogue.step_take hl hrecord]
      apply Catalogue.ext
      · exact map_getElem?_erase_eq_update m.relays relayId SmartRelayNode.keys
      · rfl
      · rfl
      · rfl
  · rw [if_neg hu, if_neg hu]
    rfl

theorem SmartRelayManager.catalogue_leave : m.leave.catalogue = m.catalogue.step .unfile := by
  rw [SmartRelayManager.leave]
  split
  next i key keys hw =>
    have hl : m.catalogue.leaving = some (i, key :: keys) := by
      change m.removing = _
      rw [SmartRelayManager.removing, hw]
    rw [Catalogue.step_unfile hl]
    obtain ⟨hrelays, hregistering⟩ := SmartRelayManager.leaveKey_rest (m := m) i key
    apply Catalogue.ext
    · change (fun i' => (m.leaveKey i key).relays[i']?.map SmartRelayNode.keys) =
        fun i' => m.relays[i']?.map SmartRelayNode.keys
      rw [hrelays]
    · funext k i'
      exact propext (SmartRelayManager.leaveKey_entered key k i i')
    · change (fun c => (m.leaveKey i key).registering[c]?) = fun c => m.registering[c]?
      rw [hregistering]
    · cases hrest : unfinished i keys <;> rfl
  next hw =>
    have hl : ∀ i k ks, m.catalogue.leaving ≠ some (i, k :: ks) := by
      intro i k ks hl
      change m.removing = _ at hl
      rw [SmartRelayManager.removing] at hl
      split at hl
      next i' keys hw' =>
        cases hl
        exact hw i k ks hw'
      next => cases hl
    rw [Catalogue.step]
    split
    next i k ks h => exact (hl i k ks h).elim
    next => rfl

theorem SmartRelayManager.catalogue_updateLoad (relayId : String) (load : RelayLoad) (now : Nat) :
    (m.updateLoad relayId load now).catalogue = m.catalogue := by
  rw [SmartRelayManager.updateLoad]
  split
  next hu =>
    apply Catalogue.ext
    · funext i
      change (m.relays.modify relayId _)[i]?.map SmartRelayNode.keys =
        m.relays[i]?.map SmartRelayNode.keys
      rw [getElem?_modify_eq]
      split
      next hi =>
        rw [hi, Option.map_map]
        rfl
      next => rfl
    · rfl
    · rfl
    · exact (SmartRelayManager.removing_of_unlocked hu).symm
  next => rfl

theorem SmartRelayManager.catalogue_observe (now : Nat) :
    (m.observe now).catalogue = m.catalogue := by
  rw [SmartRelayManager.observe]
  split
  next i load hw =>
    apply Catalogue.ext
    · rfl
    · funext key i'
      cases key with
      | predictor =>
        exact congrArg (· = true) (isSome_modify_at m.predictors i i' (fun p => p.observe load now))
      | tier | region | selection => rfl
    · rfl
    · change none = m.removing
      rw [SmartRelayManager.removing, hw]
  next => rfl

theorem SmartRelayManager.catalogue_findBestRelay (call : Nat) (loc : GeoLocation) (bw : UInt64)
    (hint : Option RelayTier) (now : Nat) (order : List String) :
    (m.findBestRelay distanceKm call loc bw hint now order).catalogue = m.catalogue := by
  rw [SmartRelayManager.findBestRelay]
  split
  · cases m.bestRelay distanceKm loc bw hint now order <;> rfl
  · rfl

theorem SmartRelayManager.catalogue_count (call : Nat) :
    (m.count call).catalogue = m.catalogue := by
  rw [SmartRelayManager.count]
  split
  next => rfl
  next relayId _ =>
    apply Catalogue.ext
    · rfl
    · funext key i'
      cases key with
      | selection =>
        exact congrArg (· = true) (isSome_modify_at m.selections relayId i' (fun n => n + 1))
      | tier | region | predictor => rfl
    · rfl
    · rfl

/-- Step by step the manager is a catalogue of its relays. -/
theorem SmartRelayManager.catalogue_step (op : RelayOp) :
    (m.step distanceKm op).catalogue = m.catalogue.step (m.catalogued op) := by
  cases op with
  | registerRelay call relay => exact SmartRelayManager.catalogue_registerRelay call relay
  | enter call => exact SmartRelayManager.catalogue_enter call
  | removeRelay relayId => exact SmartRelayManager.catalogue_removeRelay relayId
  | leave => exact SmartRelayManager.catalogue_leave
  | updateLoad relayId load now => exact SmartRelayManager.catalogue_updateLoad relayId load now
  | observe now => exact SmartRelayManager.catalogue_observe now
  | findBestRelay call loc bw hint now order =>
    exact SmartRelayManager.catalogue_findBestRelay call loc bw hint now order
  | count call => exact SmartRelayManager.catalogue_count call

end Simulation

section Runs
variable (m : SmartRelayManager) (distanceKm : GeoLocation → GeoLocation → ℚ)

/-- Every relay that is stored is entered under its tier and its region and has its predictor and
its counter, but for what a registration under way has still to write. -/
def SmartRelayManager.Indexed : Prop :=
  ∀ relayId relay, m.relays[relayId]? = some relay → ∀ key ∈ relay.keys,
    m.Entered key relayId ∨
      ∃ (call : Nat) (keys : _), m.registering[call]? = some (relayId, keys) ∧ key ∈ keys

/-- Whatever is entered somewhere is a relay that is stored and belongs there, or one that is being
removed and has still to be taken from there. -/
def SmartRelayManager.Ghostless : Prop :=
  ∀ key relayId, m.Entered key relayId →
    (∃ relay, m.relays[relayId]? = some relay ∧ key ∈ relay.keys) ∨
      ∃ keys, m.writer = some (.removing relayId keys) ∧ key ∈ keys

/-- A relay that is registered again keeps its tier and its region, and no registration writes an
entry of a relay that has been removed, or registered again with others, meanwhile. -/
def SmartRelayManager.Tidy : RelayOp → Prop
  | .registerRelay call relay => m.unlocked = true → m.registering[call]? = none →
      ∀ key, m.Entered key relay.id → key ∈ relay.keys
  | .enter call => ∀ relayId key keys, m.registering[call]? = some (relayId, key :: keys) →
      (∃ relay, m.relays[relayId]? = some relay ∧ key ∈ relay.keys) ∨
        ∃ keys', m.writer = some (.removing relayId keys') ∧ key ∈ keys'
  | _ => True

variable {m distanceKm}

theorem SmartRelayManager.record_iff (key : IndexKey) (relayId : String) :
    (∃ keys, m.catalogue.record relayId = some keys ∧ key ∈ keys) ↔
      ∃ relay, m.relays[relayId]? = some relay ∧ key ∈ relay.keys := by
  constructor
  · rintro ⟨keys, hrecord, hk⟩
    obtain ⟨relay, hr, rfl⟩ := Option.map_eq_some_iff.mp hrecord
    exact ⟨relay, hr, hk⟩
  · rintro ⟨relay, hr, hk⟩
    exact ⟨relay.keys, Option.map_eq_some_iff.mpr ⟨relay, hr, rfl⟩, hk⟩

theorem SmartRelayManager.removing_iff {relayId : String} {keys : List IndexKey} :
    m.removing = some (relayId, keys) ↔ m.writer = some (.removing relayId keys) := by
  rw [SmartRelayManager.removing]
  split
  next relayId' keys' hw => rw [hw, Option.some_inj, Option.some_inj, Writer.removing.injEq,
    Prod.mk.injEq]
  next hw => exact iff_of_false (Option.some_ne_none _).symm (fun h => hw relayId keys h)

theorem SmartRelayManager.Indexed.of_complete (h : m.catalogue.Complete) : m.Indexed := by
  intro relayId relay hr key hk
  exact h.filed relayId relay.keys (Option.map_eq_some_iff.mpr ⟨relay, hr, rfl⟩) key hk

theorem SmartRelayManager.exact_iff : m.catalogue.Exact ↔ m.Ghostless := by
  refine forall_congr' (fun key => forall_congr' (fun relayId => imp_congr_right (fun _ => ?_)))
  refine or_congr (SmartRelayManager.record_iff key relayId) ?_
  exact exists_congr (fun keys => and_congr_left' SmartRelayManager.removing_iff)

theorem SmartRelayManager.tidy_iff (op : RelayOp) :
    m.catalogue.Tidy (m.catalogued op) ↔ m.Tidy op := by
  cases op with
  | registerRelay call relay =>
    rw [SmartRelayManager.catalogued]
    by_cases hu : m.unlocked = true
    · rw [if_pos hu]
      constructor
      · intro h _ hc
        exact h (SmartRelayManager.removing_of_unlocked hu) hc
      · intro h _ hc
        exact h hu hc
    · rw [if_neg hu]
      exact iff_of_true trivial (fun h => (hu h).elim)
  | enter call =>
    refine forall_congr' (fun relayId => forall_congr' (fun key => forall_congr' (fun keys =>
      imp_congr_right (fun _ => ?_))))
    refine or_congr (SmartRelayManager.record_iff key relayId) ?_
    exact exists_congr (fun keys' => and_congr_left' SmartRelayManager.removing_iff)
  | removeRelay relayId =>
    rw [SmartRelayManager.catalogued]
    split <;> exact Iff.rfl
  | leave | updateLoad | observe | findBestRelay | count => exact Iff.rfl

theorem SmartRelayManager.new_entered (key : IndexKey) (relayId : String) :
    ¬ SmartRelayManager.new.Entered key relayId := by
  cases key with
  | tier t => exact Std.TreeSet.not_mem_emptyc
  | region name => exact Std.TreeSet.not_mem_emptyc
  | predictor => exact Bool.false_ne_true
  | selection => exact Bool.false_ne_true

theorem SmartRelayManager.new_complete : SmartRelayManager.new.catalogue.Complete where
  filed relayId keys h := by
    change (none : Option SmartRelayNode).map SmartRelayNode.keys = some keys at h
    cases h
  left relayId keys h := by cases h

theorem SmartRelayManager.run_complete (ops : List RelayOp) :
    (SmartRelayManager.new.run distanceKm ops).catalogue.Complete := by
  apply run_invariant (I := fun m : SmartRelayManager => m.catalogue.Complete) _ new_complete
  intro m op h
  rw [SmartRelayManager.catalogue_step]
  exact h.step _

/-- In whatever order the calls take their locks, a relay that is stored is found in every map. -/
theorem SmartRelayManager.run_indexed (ops : List RelayOp) :
    (SmartRelayManager.new.run distanceKm ops).Indexed :=
  .of_complete (run_complete ops)

theorem SmartRelayManager.Ghostless.step_iff (h : m.Ghostless) (op : RelayOp) :
    (m.step distanceKm op).Ghostless ↔ m.Tidy op := by
  rw [← SmartRelayManager.exact_iff, SmartRelayManager.catalogue_step,
    (SmartRelayManager.exact_iff.mpr h).step_iff, SmartRelayManager.tidy_iff]

theorem SmartRelayManager.new_ghostless : SmartRelayManager.new.Ghostless :=
  fun key relayId h => (SmartRelayManager.new_entered key relayId h).elim

/-- The maps never list a relay that does not belong there exactly where every registration is
tidy. -/
theorem SmartRelayManager.run_ghostless_iff (ops : List RelayOp) :
    (∀ ops', ops' <+: ops → (SmartRelayManager.new.run distanceKm ops').Ghostless) ↔
      Guarded (SmartRelayManager.step distanceKm) SmartRelayManager.Tidy .new ops := by
  exact forall_prefix_iff SmartRelayManager.new_ghostless (fun m op h => h.step_iff op) ops

/-- No registration and no removal is under way. -/
structure SmartRelayManager.Settled (m : SmartRelayManager) : Prop where
  registered : ∀ call : Nat, m.registering[call]? = none
  removed : m.removing = none

/-- What `stats` answers when it says the truth about the tiers. -/
def SmartRelayManager.Counts (m : SmartRelayManager) (stats : SmartRelayStats) : Prop :=
  (∀ e ∈ stats.byTier, e.2 = tally (fun _ relay => decide (relay.tier = e.1)) m.relays) ∧
    (stats.byTier.map (fun e => e.2)).sum = stats.totalRelays ∧
      stats.aliveRelays ≤ stats.totalRelays

theorem SmartRelayManager.entered_iff (hexact : m.Ghostless) (hcomplete : m.catalogue.Complete)
    (hs : m.Settled) (key : IndexKey) (relayId : String) :
    m.Entered key relayId ↔ ∃ relay, m.relays[relayId]? = some relay ∧ key ∈ relay.keys := by
  rw [← SmartRelayManager.record_iff]
  exact (SmartRelayManager.exact_iff.mpr hexact).filed_iff hcomplete hs.registered hs.removed key
    relayId

theorem SmartRelayNode.tier_mem_keys {relay : SmartRelayNode} {t : RelayTier} :
    IndexKey.tier t ∈ relay.keys ↔ relay.tier = t := by
  simp only [SmartRelayNode.keys, List.mem_cons, IndexKey.tier.injEq, reduceCtorEq,
    List.not_mem_nil, or_false]
  exact eq_comm

theorem SmartRelayManager.stats_eq_some {stats : SmartRelayStats} {now : Nat}
    (h : m.stats overflowChecks now = some stats) :
    stats.totalRelays = m.relays.size ∧
      stats.aliveRelays = (m.relays.toList.map (fun e => e.2)).countP (fun r => r.alive now) ∧
        stats.byTier = m.byTier.toList.map (fun e => (e.1, e.2.size)) := by
  obtain ⟨total, -, h⟩ := Option.bind_eq_some_iff.mp h
  obtain ⟨used, -, h⟩ := Option.bind_eq_some_iff.mp h
  cases h
  exact ⟨rfl, rfl, rfl⟩

theorem SmartRelayManager.counts_of_entered {stats : SmartRelayStats} {now : Nat}
    (he : ∀ t relayId, m.Entered (.tier t) relayId ↔
      ∃ relay, m.relays[relayId]? = some relay ∧ relay.tier = t)
    (h : m.stats overflowChecks now = some stats) : m.Counts stats := by
  obtain ⟨htotal, halive, htiers⟩ := SmartRelayManager.stats_eq_some h
  have hsize : ∀ e ∈ m.byTier.toList,
      e.2.size = tally (fun _ relay => decide (relay.tier = e.1)) m.relays := by
    intro e hmem
    apply size_eq_tally
    intro relayId
    have hids : m.byTier[e.1]? = some e.2 := Std.TreeMap.mem_toList_iff_getElem?_eq_some.mp hmem
    have hentered := he e.1 relayId
    rw [SmartRelayManager.Entered, hids, Option.getD_some] at hentered
    simp only [hentered, decide_eq_true_eq]
  refine ⟨?_, ?_, ?_⟩
  · rw [htiers]
    intro e hmem
    obtain ⟨e', he', rfl⟩ := List.mem_map.mp hmem
    exact hsize e' he'
  · have htally : stats.byTier.map (fun e => e.2) = (m.byTier.toList.map (fun e => e.1)).map
        (fun t => m.relays.toList.countP (fun e => e.2.tier = t)) := by
      rw [htiers, List.map_map, List.map_map]
      apply List.map_congr_left
      intro e hmem
      exact hsize e hmem
    rw [htally, htotal, ← Std.TreeMap.length_toList]
    apply sum_countP_eq_length
    · have hdistinct := Std.TreeMap.distinct_keys_toList (t := m.byTier)
      refine List.pairwise_map.mpr (hdistinct.imp ?_)
      intro e e' hne heq
      exact hne (Std.compare_eq_iff_eq.mpr heq)
    · intro e hmem
      have hrelay := Std.TreeMap.mem_toList_iff_getElem?_eq_some.mp hmem
      have hids := (he e.2.tier e.1).mpr ⟨e.2, hrelay, rfl⟩
      rw [SmartRelayManager.Entered] at hids
      cases hset : m.byTier[e.2.tier]? with
      | none =>
        rw [hset] at hids
        exact (Std.TreeSet.not_mem_emptyc hids).elim
      | some ids =>
        exact List.mem_map.mpr
          ⟨(e.2.tier, ids), Std.TreeMap.mem_toList_iff_getElem?_eq_some.mpr hset, rfl⟩
  · rw [halive, htotal, ← Std.TreeMap.length_toList]
    exact List.countP_le_length.trans_eq (List.length_map _)

/-- Once nothing is under way, a tidy run has left each map with the relays that belong there, and
the statistics count them. -/
theorem SmartRelayManager.run_settled (ops : List RelayOp)
    (htidy : Guarded (SmartRelayManager.step distanceKm) SmartRelayManager.Tidy .new ops)
    (hs : (SmartRelayManager.new.run distanceKm ops).Settled) :
    (∀ key relayId, (SmartRelayManager.new.run distanceKm ops).Entered key relayId ↔
      ∃ relay, (SmartRelayManager.new.run distanceKm ops).relays[relayId]? = some relay ∧
        key ∈ relay.keys) ∧
      ∀ overflowChecks now stats,
        (SmartRelayManager.new.run distanceKm ops).stats overflowChecks now = some stats →
          (SmartRelayManager.new.run distanceKm ops).Counts stats := by
  have hghostless : (SmartRelayManager.new.run distanceKm ops).Ghostless :=
    htidy.invariant SmartRelayManager.new_ghostless (fun m op h hok => (h.step_iff op).mpr hok)
  have hentered := SmartRelayManager.entered_iff hghostless (run_complete ops) hs
  refine ⟨hentered, ?_⟩
  intro overflowChecks now stats h
  refine SmartRelayManager.counts_of_entered ?_ h
  intro t relayId
  rw [hentered]
  simp only [SmartRelayNode.tier_mem_keys]

theorem SmartRelayManager.tidy_enter {call : Nat} {relayId : String} {keys : List IndexKey}
    (relay : SmartRelayNode) (hc : m.registering[call]? = some (relayId, keys))
    (hr : m.relays[relayId]? = some relay) (hk : ∀ key ∈ keys, key ∈ relay.keys) :
    m.Tidy (.enter call) := by
  intro relayId' key keys' h
  cases hc.symm.trans h
  exact .inl ⟨relay, hr, hk key List.mem_cons_self⟩

/-- Two relays without any load in the same region. -/
def berlin : SmartRelayNode :=
  ⟨"berlin", .edge, ⟨52, 13⟩, ⟨1000, 10, 100⟩, ⟨0, 0, 0, 0⟩, 0, 100⟩
def madrid : SmartRelayNode :=
  ⟨"madrid", .core, ⟨40, -3⟩, ⟨1000, 10, 100⟩, ⟨0, 0, 0, 0⟩, 0, 100⟩

def firstOps : List RelayOp := [.registerRelay 0 berlin, .enter 0]

/-- The two are registered at the same time, and one of them leaves. -/
def berlinOps : List RelayOp :=
  firstOps ++ [.registerRelay 1 madrid, .enter 1, .enter 0, .enter 0, .enter 0, .enter 1, .enter 1,
    .enter 1, .removeRelay "berlin", .leave, .leave, .leave, .leave]

theorem firstOps_tidy :
    Guarded (SmartRelayManager.step (fun _ _ => 0)) SmartRelayManager.Tidy .new firstOps := by
  refine ⟨?_, ?_, trivial⟩
  · intro _ _ key h
    exact (SmartRelayManager.new_entered key _ h).elim
  · exact SmartRelayManager.tidy_enter berlin rfl rfl (by decide)

theorem SmartRelayManager.run_settled_berlin :
    (∀ key relayId, (SmartRelayManager.new.run (fun _ _ => 0) berlinOps).Entered key relayId ↔
      ∃ relay, (SmartRelayManager.new.run (fun _ _ => 0) berlinOps).relays[relayId]? =
        some relay ∧ key ∈ relay.keys) ∧
      ∀ overflowChecks now stats,
        (SmartRelayManager.new.run (fun _ _ => 0) berlinOps).stats overflowChecks now = some stats →
          (SmartRelayManager.new.run (fun _ _ => 0) berlinOps).Counts stats := by
  apply SmartRelayManager.run_settled
  · rw [berlinOps, guarded_append]
    refine ⟨firstOps_tidy, ?_, ?_, ?_, ?_, ?_, ?_, ?_, ?_, trivial, trivial, trivial, trivial,
      trivial, trivial⟩
    · intro _ _ key h
      have hghostless := firstOps_tidy.invariant SmartRelayManager.new_ghostless
        (fun m op h hok => (h.step_iff op).mpr hok)
      rcases hghostless key "madrid" h with ⟨relay, hr, -⟩ | ⟨keys, hwriter, -⟩
      · cases hr
      · cases hwriter
    · exact SmartRelayManager.tidy_enter madrid rfl rfl (by decide)
    · exact SmartRelayManager.tidy_enter berlin rfl rfl (by decide)
    · exact SmartRelayManager.tidy_enter berlin rfl rfl (by decide)
    · exact SmartRelayManager.tidy_enter berlin rfl rfl (by decide)
    · exact SmartRelayManager.tidy_enter madrid rfl rfl (by decide)
    · exact SmartRelayManager.tidy_enter madrid rfl rfl (by decide)
    · exact SmartRelayManager.tidy_enter madrid rfl rfl (by decide)
  · refine ⟨?_, rfl⟩
    intro call
    have hnone :
        (SmartRelayManager.new.run (fun _ _ => 0) berlinOps).registering.isEmpty = true := by
      decide +kernel
    exact Std.TreeMap.getElem?_of_isEmpty hnone

end Runs

end P2PMesh.SmartRelay
