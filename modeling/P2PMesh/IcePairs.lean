import P2PMesh.Base.Json
import P2PMesh.IceAgent

namespace P2PMesh.Ice
open P2PMesh.Base
set_option autoImplicit true

/-- The priority of a pair as the standard has it, from those of the controlling candidate and of
the controlled one. -/
def priorityValue (controlling controlled : Nat) : Nat :=
  2 ^ 32 * min controlling controlled + 2 * max controlling controlled +
    if controlled < controlling then 1 else 0

abbrev Ends := IceCandidate × IceCandidate

def CandidatePair.ends (p : CandidatePair) : Ends := (p.loc, p.remote)

def endsPriority (e : Ends) : Nat := priorityValue e.1.priority.toNat e.2.priority.toNat

def SameFamily (l r : IceCandidate) : Prop := l.addr.ip.version = r.addr.ip.version

instance (l r : IceCandidate) : Decidable (SameFamily l r) := inferInstanceAs (Decidable (_ = _))

/-- A local and a remote candidate for each two of them that go together. -/
def matching (ok : IceCandidate → IceCandidate → Prop) [∀ l r, Decidable (ok l r)]
    (locals remotes : List IceCandidate) : List Ends :=
  locals.flatMap fun l => (remotes.filter (fun r => ok l r)).map (fun r => (l, r))

/-- The pairs are exactly those of the same family and component, in the order of their priorities,
with the first five waiting. -/
structure Formed (locals remotes : List IceCandidate) (pairs : List CandidatePair) : Prop where
  exact : (pairs.map CandidatePair.ends).Perm
    (matching (fun l r => SameFamily l r ∧ l.component = r.component) locals remotes)
  sorted : (pairs.map CandidatePair.ends).Pairwise (fun e e' => endsPriority e' ≤ endsPriority e)
  waiting : ∀ p ∈ pairs.take 5, p.state = .waiting
  frozen : ∀ p ∈ pairs.drop 5, p.state = .frozen
  unchecked : ∀ p ∈ pairs, p.checksSent = 0
  fits : ∀ e ∈ matching SameFamily locals remotes, endsPriority e < 2 ^ 64

/-- Candidates of the same family are of the same component. -/
def SameComponents (locals remotes : List IceCandidate) : Prop :=
  ∀ l ∈ locals, ∀ r ∈ remotes, SameFamily l r → l.component = r.component

/-- No two candidates of the same family both have the greatest priority that there is. -/
def NotBothGreatest (locals remotes : List IceCandidate) : Prop :=
  ∀ l ∈ locals, ∀ r ∈ remotes, SameFamily l r →
    ¬ (l.priority = 4294967295 ∧ r.priority = 4294967295)

section Priority

theorem priorityValue_lt_iff {g d : Nat} (hg : g < 2 ^ 32) (hd : d < 2 ^ 32) :
    priorityValue g d < 2 ^ 64 ↔ ¬ (g = 2 ^ 32 - 1 ∧ d = 2 ^ 32 - 1) := by
  rw [priorityValue]
  split
  · omega
  · omega

theorem min_toNat (a b : UInt64) : (min a b).toNat = min a.toNat b.toNat := by
  change (if a ≤ b then a else b).toNat = _
  by_cases h : a ≤ b
  · rw [if_pos h, Nat.min_eq_left (UInt64.le_iff_toNat_le.mp h)]
  · rw [if_neg h, Nat.min_eq_right (Nat.le_of_not_le (mt UInt64.le_iff_toNat_le.mpr h))]

theorem max_toNat (a b : UInt64) : (max a b).toNat = max a.toNat b.toNat := by
  change (if a ≤ b then b else a).toNat = _
  by_cases h : a ≤ b
  · rw [if_pos h, Nat.max_eq_right (UInt64.le_iff_toNat_le.mp h)]
  · rw [if_neg h, Nat.max_eq_left (Nat.le_of_not_le (mt UInt64.le_iff_toNat_le.mpr h))]

/-- The two products fit, so only their sum may not. -/
theorem products_toNat (a b : UInt32) :
    (min a.toUInt64 b.toUInt64 <<< 32).toNat = 2 ^ 32 * min a.toNat b.toNat ∧
      (2 * max a.toUInt64 b.toUInt64).toNat = 2 * max a.toNat b.toNat := by
  have ha := a.toNat_lt
  have hb := b.toNat_lt
  rw [UInt64.toNat_shiftLeft, UInt64.toNat_mul, min_toNat, max_toNat, UInt32.toNat_toUInt64,
    UInt32.toNat_toUInt64]
  change min a.toNat b.toNat <<< 32 % 2 ^ 64 = _ ∧ 2 * max a.toNat b.toNat % 2 ^ 64 = _
  rw [Nat.shiftLeft_eq]
  constructor
  · omega
  · omega

theorem greater_toNat (a b : UInt32) :
    (if b.toUInt64 < a.toUInt64 then (1 : UInt64) else 0).toNat =
      if b.toNat < a.toNat then 1 else 0 := by
  have hiff : b.toUInt64 < a.toUInt64 ↔ b.toNat < a.toNat := by
    rw [UInt64.lt_iff_toNat_lt, UInt32.toNat_toUInt64, UInt32.toNat_toUInt64]
  by_cases h : b.toNat < a.toNat
  · rw [if_pos h, if_pos (hiff.mpr h)]
    rfl
  · rw [if_neg h, if_neg (mt hiff.mp h)]
    rfl

theorem pairPriority_eq (overflowChecks : Bool) (localPrio remotePrio : UInt32) :
    pairPriority overflowChecks localPrio remotePrio =
      if overflowChecks = true ∧ 2 ^ 64 ≤ priorityValue localPrio.toNat remotePrio.toNat then none
      else some (UInt64.ofNat (priorityValue localPrio.toNat remotePrio.toNat)) := by
  obtain ⟨hleast, hgreatest⟩ := products_toNat localPrio remotePrio
  have hbit := greater_toNat localPrio remotePrio
  rw [pairPriority, addU64_eq, hleast, hgreatest]
  generalize (if remotePrio.toUInt64 < localPrio.toUInt64 then (1 : UInt64) else 0) = bit at hbit ⊢
  by_cases hfits : 2 ^ 64 ≤ 2 ^ 32 * min localPrio.toNat remotePrio.toNat +
      2 * max localPrio.toNat remotePrio.toNat
  · -- both priorities are the greatest, so nothing is added to the sum
    have hl := localPrio.toNat_lt
    have hr := remotePrio.toNat_lt
    have hsame : remotePrio.toNat = localPrio.toNat := by omega
    have hvalue : priorityValue localPrio.toNat remotePrio.toNat =
        2 ^ 32 * min localPrio.toNat remotePrio.toNat +
          2 * max localPrio.toNat remotePrio.toNat := by
      rw [priorityValue, if_neg (by omega), Nat.add_zero]
    rw [hvalue]
    cases overflowChecks with
    | true =>
      rw [if_pos ⟨rfl, hfits⟩]
      rfl
    | false =>
      rw [if_neg (fun h => Bool.false_ne_true h.1)]
      change addU64 false _ _ = _
      rw [addU64_eq, if_neg (fun h => Bool.false_ne_true h.1), hbit, if_neg (by omega),
        Nat.add_zero, UInt64.ofNat_toNat]
  · rw [if_neg (fun h => hfits h.2)]
    change addU64 overflowChecks _ _ = _
    rw [addU64_eq, hbit, UInt64.toNat_ofNat_of_lt' (Nat.not_le.mp hfits)]
    rfl

end Priority

section Matching
variable {ok ok' : IceCandidate → IceCandidate → Prop} [∀ l r, Decidable (ok l r)]
  [∀ l r, Decidable (ok' l r)] {locals remotes : List IceCandidate}

theorem mem_matching {e : Ends} :
    e ∈ matching ok locals remotes ↔ e.1 ∈ locals ∧ e.2 ∈ remotes ∧ ok e.1 e.2 := by
  simp only [matching, List.mem_flatMap, List.mem_map, List.mem_filter, decide_eq_true_eq]
  constructor
  · rintro ⟨l, hl, r, ⟨hr, hok⟩, rfl⟩
    exact ⟨hl, hr, hok⟩
  · rintro ⟨hl, hr, hok⟩
    exact ⟨e.1, hl, e.2, ⟨hr, hok⟩, rfl⟩

theorem matching_and : matching (fun l r => ok l r ∧ ok' l r) locals remotes =
    (matching ok locals remotes).filter (fun e => ok' e.1 e.2) := by
  rw [matching, matching, List.filter_flatMap]
  congr 1
  funext l
  rw [List.filter_map, List.filter_filter]
  congr 1
  apply List.filter_congr
  intro r _
  rw [Bool.decide_and, Bool.and_comm]
  rfl

theorem perm_matching_and_iff :
    (matching ok locals remotes).Perm (matching (fun l r => ok l r ∧ ok' l r) locals remotes) ↔
      ∀ l ∈ locals, ∀ r ∈ remotes, ok l r → ok' l r := by
  rw [matching_and]
  constructor
  · intro hperm l hl r hr hok
    have hlength := List.length_filter_eq_length_iff.mp hperm.length_eq.symm
    exact of_decide_eq_true (hlength (l, r) (mem_matching.mpr ⟨hl, hr, hok⟩))
  · intro h
    rw [List.filter_eq_self.mpr]
    intro e he
    obtain ⟨hl, hr, hok⟩ := mem_matching.mp he
    exact decide_eq_true (h e.1 hl e.2 hr hok)

theorem compatiblePairs_ends :
    (compatiblePairs locals remotes).map CandidatePair.ends =
      matching SameFamily locals remotes := by
  rw [compatiblePairs, List.map_flatMap, matching]
  congr 1
  funext l
  rw [List.map_map]
  rfl

theorem compatiblePairs_fresh {p : CandidatePair} (h : p ∈ compatiblePairs locals remotes) :
    p.state = .frozen ∧ p.checksSent = 0 := by
  simp only [compatiblePairs, List.mem_flatMap, List.mem_map] at h
  obtain ⟨l, -, r, -, rfl⟩ := h
  exact ⟨rfl, rfl⟩

end Matching

section Formation
variable {overflowChecks : Bool} {locals remotes : List IceCandidate} {pairs : List CandidatePair}

/-- The priority that is computed for a pair. -/
def computedPriority (overflowChecks : Bool) (e : Ends) : Option UInt64 :=
  pairPriority overflowChecks e.1.priority e.2.priority

/-- Pairs in the order of the priorities that are computed for them. -/
def InOrder (overflowChecks : Bool) (es : List Ends) : Prop :=
  es.Pairwise (fun e e' => ∀ x y, computedPriority overflowChecks e = some x →
    computedPriority overflowChecks e' = some y → y.toNat ≤ x.toNat)

theorem entries_spec {ps : List CandidatePair} {entries : List (UInt64 × CandidatePair)}
    (h : ps.Forall₂ (fun p entry => (pairPriority overflowChecks p.loc.priority
      p.remote.priority).map (fun prio => (prio, p)) = some entry) entries) :
    entries.map Prod.snd = ps ∧
      ∀ entry ∈ entries, computedPriority overflowChecks entry.2.ends = some entry.1 := by
  induction h with
  | nil => exact ⟨rfl, fun entry hentry => (List.not_mem_nil hentry).elim⟩
  | cons hentry _ ih =>
    obtain ⟨prio, hprio, rfl⟩ := Option.map_eq_some_iff.mp hentry
    rw [List.map_cons, ih.1, List.forall_mem_cons]
    exact ⟨rfl, hprio, ih.2⟩

/-- What the function forms, if no sum is too large: every compatible pair once, in order, with the
first ones unfrozen. -/
theorem formCandidatePairs_eq_some
    (h : formCandidatePairs overflowChecks locals remotes = some pairs) :
    ∃ sorted, pairs = unfreeze sorted ∧ sorted.Perm (compatiblePairs locals remotes) ∧
      InOrder overflowChecks (sorted.map CandidatePair.ends) := by
  obtain ⟨entries, hentries, hpairs⟩ := Option.map_eq_some_iff.mp h
  rw [mapM_eq_some_iff] at hentries
  obtain ⟨hsnd, hprio⟩ := entries_spec hentries
  refine ⟨_, hpairs.symm, ?_, ?_⟩
  · rw [← hsnd]
    exact (sortByKey_perm entries).map Prod.snd
  · rw [InOrder, List.map_map, List.pairwise_map]
    refine (sortByKey_sorted entries).imp_of_mem ?_
    intro p q hp hq hle x y hx hy
    have hpx := (hprio p (mem_sortByKey.mp hp)).symm.trans hx
    have hqy := (hprio q (mem_sortByKey.mp hq)).symm.trans hy
    rw [← Option.some.inj hpx, ← Option.some.inj hqy]
    exact hle

theorem endsPriority_lt_iff (e : Ends) : endsPriority e < 2 ^ 64 ↔
    ¬ (e.1.priority = 4294967295 ∧ e.2.priority = 4294967295) := by
  rw [endsPriority, priorityValue_lt_iff e.1.priority.toNat_lt e.2.priority.toNat_lt,
    ← UInt32.toNat_inj, ← UInt32.toNat_inj]
  rfl

theorem fits_iff : (∀ e ∈ matching SameFamily locals remotes, endsPriority e < 2 ^ 64) ↔
    NotBothGreatest locals remotes := by
  constructor
  · intro h l hl r hr hfamily
    exact (endsPriority_lt_iff (l, r)).mp (h (l, r) (mem_matching.mpr ⟨hl, hr, hfamily⟩))
  · intro h e he
    obtain ⟨hl, hr, hfamily⟩ := mem_matching.mp he
    exact (endsPriority_lt_iff e).mpr (h e.1 hl e.2 hr hfamily)

theorem computedPriority_of_fits {e : Ends} (h : endsPriority e < 2 ^ 64) :
    computedPriority overflowChecks e = some (UInt64.ofNat (endsPriority e)) := by
  rw [computedPriority, pairPriority_eq, if_neg (fun hover => absurd h (Nat.not_lt.mpr hover.2))]
  rfl

theorem formCandidatePairs_of_fits (overflowChecks : Bool)
    (h : ∀ e ∈ matching SameFamily locals remotes, endsPriority e < 2 ^ 64) :
    ∃ pairs, formCandidatePairs overflowChecks locals remotes = some pairs := by
  have hmapM : (compatiblePairs locals remotes).mapM (fun p =>
      (pairPriority overflowChecks p.loc.priority p.remote.priority).map (fun prio => (prio, p))) =
        some ((compatiblePairs locals remotes).map
          (fun p => (UInt64.ofNat (endsPriority p.ends), p))) := by
    rw [mapM_eq_some_iff, List.forall₂_map_right_iff, List.forall₂_same]
    intro p hp
    have hfits := h p.ends (by rw [← compatiblePairs_ends]; exact List.mem_map_of_mem hp)
    exact congrArg (Option.map _) (computedPriority_of_fits hfits)
  rw [formCandidatePairs, hmapM]
  exact ⟨_, rfl⟩

theorem InOrder.endsPriority {es : List Ends} (h : InOrder overflowChecks es)
    (hfits : ∀ e ∈ es, endsPriority e < 2 ^ 64) :
    es.Pairwise (fun e e' => Ice.endsPriority e' ≤ Ice.endsPriority e) := by
  refine h.imp_of_mem ?_
  intro e e' he he' hle
  have hnat := hle _ _ (computedPriority_of_fits (hfits e he))
    (computedPriority_of_fits (hfits e' he'))
  rwa [UInt64.toNat_ofNat_of_lt' (hfits e he), UInt64.toNat_ofNat_of_lt' (hfits e' he')] at hnat

theorem unfreeze_ends (pairs : List CandidatePair) :
    (unfreeze pairs).map CandidatePair.ends = pairs.map CandidatePair.ends := by
  rw [unfreeze, List.map_append, List.map_map]
  change (pairs.take 5).map CandidatePair.ends ++ _ = _
  rw [← List.map_append, List.take_append_drop]

theorem formCandidatePairs_ends
    (h : formCandidatePairs overflowChecks locals remotes = some pairs) :
    (pairs.map CandidatePair.ends).Perm (matching SameFamily locals remotes) := by
  obtain ⟨sorted, rfl, hperm, -⟩ := formCandidatePairs_eq_some h
  rw [unfreeze_ends, ← compatiblePairs_ends]
  exact hperm.map CandidatePair.ends

theorem unfreeze_take_drop (pairs : List CandidatePair) :
    (unfreeze pairs).take 5 = (pairs.take 5).map (fun p => { p with state := .waiting }) ∧
      (unfreeze pairs).drop 5 = pairs.drop 5 := by
  rcases Nat.le_total 5 pairs.length with hmany | hfew
  · have hfive : ((pairs.take 5).map
        (fun p : CandidatePair => { p with state := .waiting })).length = 5 := by
      rw [List.length_map, List.length_take_of_le hmany]
    exact ⟨List.take_left' hfive, List.drop_left' hfive⟩
  · have hshort : ((pairs.take 5).map
        (fun p : CandidatePair => { p with state := .waiting })).length ≤ 5 := by
      rw [List.length_map]
      exact List.length_take_le 5 pairs
    rw [unfreeze, List.drop_eq_nil_of_le hfew, List.append_nil]
    exact ⟨List.take_of_length_le hshort, List.drop_eq_nil_of_le hshort⟩

theorem formCandidatePairs_formed_iff :
    (∃ pairs, formCandidatePairs overflowChecks locals remotes = some pairs ∧
      Formed locals remotes pairs) ↔
        SameComponents locals remotes ∧ NotBothGreatest locals remotes := by
  constructor
  · rintro ⟨pairs, hpairs, hformed⟩
    have hends := (formCandidatePairs_ends hpairs).symm.trans hformed.exact
    exact ⟨perm_matching_and_iff.mp hends, fits_iff.mp hformed.fits⟩
  · rintro ⟨hcomponents, hgreatest⟩
    have hfits := fits_iff.mpr hgreatest
    obtain ⟨pairs, hpairs⟩ := formCandidatePairs_of_fits overflowChecks hfits
    have hends := formCandidatePairs_ends hpairs
    obtain ⟨sorted, rfl, hperm, horder⟩ := formCandidatePairs_eq_some hpairs
    obtain ⟨htake, hdrop⟩ := unfreeze_take_drop sorted
    have hfresh : ∀ p ∈ sorted, p.state = .frozen ∧ p.checksSent = 0 :=
      fun p hp => compatiblePairs_fresh (hperm.mem_iff.mp hp)
    refine ⟨_, hpairs, ?_, ?_, ?_, ?_, ?_, hfits⟩
    · exact hends.trans (perm_matching_and_iff.mpr hcomponents)
    · rw [unfreeze_ends] at hends ⊢
      exact horder.endsPriority (fun e he => hfits e (hends.mem_iff.mp he))
    · intro p hp
      rw [htake] at hp
      obtain ⟨q, -, rfl⟩ := List.mem_map.mp hp
      rfl
    · intro p hp
      rw [hdrop] at hp
      exact (hfresh p (List.mem_of_mem_drop hp)).1
    · intro p hp
      rw [unfreeze, List.mem_append] at hp
      rcases hp with hp | hp
      · obtain ⟨q, hq, rfl⟩ := List.mem_map.mp hp
        exact (hfresh q (List.mem_of_mem_take hq)).2
      · exact (hfresh p (List.mem_of_mem_drop hp)).2

end Formation

section Waiting
variable {overflowChecks : Bool} {a : IceAgent} {id : Nat} {candidates : List IceCandidate}

/-- The call that sets the remote candidates has not ended. -/
def UnderWay (a : IceAgent) (id : Nat) (candidates : List IceCandidate) : Prop :=
  ∃ phase, a.calls[id]? = some (.setRemote candidates phase)

theorem UnderWay.of_calls {a' : IceAgent} (h : UnderWay a id candidates)
    (hcalls : a'.calls[id]? = a.calls[id]?) : UnderWay a' id candidates := by
  obtain ⟨phase, hphase⟩ := h
  exact ⟨phase, hcalls.trans hphase⟩

theorem calls_wait_self (call : IceCall) : (a.wait id call).calls[id]? = some call := by
  rw [IceAgent.wait]
  dsimp only
  rw [getElem?_insert_eq, if_pos rfl]

theorem calls_wait_of_ne {other : Nat} (hne : other ≠ id) (call : IceCall) :
    (a.wait other call).calls[id]? = a.calls[id]? := by
  rw [IceAgent.wait]
  dsimp only
  rw [getElem?_insert_eq, if_neg hne]

theorem calls_finish_of_ne {other : Nat} (hne : other ≠ id) :
    (a.finish other).calls[id]? = a.calls[id]? := by
  rw [IceAgent.finish]
  dsimp only
  rw [getElem?_erase_eq, if_neg hne]

theorem UnderWay.begin (h : UnderWay a id candidates) (other : Nat) (call : IceCall) :
    UnderWay (a.begin other call) id candidates := by
  rw [IceAgent.begin]
  split
  · exact h
  · next hnone =>
    have hne : other ≠ id := by
      rintro rfl
      obtain ⟨phase, hphase⟩ := h
      rw [hnone] at hphase
      cases hphase
    exact h.of_calls (calls_wait_of_ne hne call)

/-- A call that sets the remote candidates goes from one wait to the next, but not past that for the
lock that it has itself. -/
theorem runSetRemote_calls (hp : a.Pairless) {phase : SetPhase}
    (hcall : a.calls[id]? = some (.setRemote candidates phase)) :
    (a.runSetRemote overflowChecks id candidates phase).calls = a.calls ∨
      ∃ phase', (a.runSetRemote overflowChecks id candidates phase).calls =
        a.calls.insert id (.setRemote candidates phase') := by
  have hwaits := hp.calls id _ hcall
  cases phase with
  | lockRemote =>
    rw [IceAgent.runSetRemote]
    split
    · exact .inl rfl
    · exact .inr ⟨.readLocal, rfl⟩
  | readLocal =>
    rw [IceAgent.runSetRemote]
    split
    · exact .inl rfl
    · exact .inr ⟨.readRemote, rfl⟩
  | readRemote =>
    rw [IceAgent.runSetRemote, RwLock.read_of_writer hwaits]
    exact .inl rfl
  | writePairs pairs => exact hwaits.elim
  | writeState => exact hwaits.elim

theorem UnderWay.run_self (h : UnderWay a id candidates) (hp : a.Pairless) :
    UnderWay (a.run overflowChecks id) id candidates := by
  obtain ⟨phase, hphase⟩ := h
  rw [IceAgent.run, hphase]
  dsimp only
  rcases runSetRemote_calls hp hphase with hsame | ⟨phase', hnext⟩
  · exact ⟨phase, by rw [hsame, hphase]⟩
  · exact ⟨phase', by rw [hnext, getElem?_insert_eq, if_pos rfl]⟩

theorem calls_run_of_ne {other : Nat} (hne : other ≠ id) (hp : a.Pairless) :
    (a.run overflowChecks other).calls[id]? = a.calls[id]? := by
  rw [IceAgent.run]
  split
  · split
    · rfl
    · exact calls_finish_of_ne hne
  · next hcall =>
    rcases runSetRemote_calls hp hcall with hsame | ⟨phase', hnext⟩
    · rw [hsame]
    · rw [hnext, getElem?_insert_eq, if_neg hne]
  · next phase hcall => exact (hp.no_check other phase hcall).elim
  · rfl

theorem UnderWay.step (h : UnderWay a id candidates) (hp : a.Pairless) {op : IceOp}
    (hop : op ≠ .cancel id) : UnderWay (a.step overflowChecks op) id candidates := by
  cases op with
  | gather other hostAddrs srflxAddr relayAddr => exact h.begin other _
  | setRemote other remotes => exact h.begin other _
  | check other =>
    rw [IceAgent.step, hp.check_eq]
    exact h
  | run other =>
    by_cases hne : other = id
    · rw [hne]
      exact h.run_self hp
    · exact h.of_calls (calls_run_of_ne hne hp)
  | send other transactionId ok =>
    rw [IceAgent.step, hp.send_eq]
    exact h
  | receive other src data =>
    rw [IceAgent.step, hp.receive_eq]
    exact h
  | timeout other =>
    rw [IceAgent.step, hp.timeout_eq]
    exact h
  | cancel other =>
    have hne : other ≠ id := fun he => hop (by rw [he])
    exact h.of_calls (calls_finish_of_ne hne)
  | restart => exact h

theorem UnderWay.runs (h : UnderWay a id candidates) (hp : a.Pairless) {ops : List IceOp}
    (hops : ∀ op ∈ ops, op ≠ .cancel id) : UnderWay (a.runs overflowChecks ops) id candidates := by
  induction ops generalizing a with
  | nil => exact h
  | cons op ops ih =>
    rw [List.forall_mem_cons] at hops
    exact ih (h.step hp hops.1) (hp.step op) hops.2

end Waiting

/-- An agent with any local candidates. -/
def IceAgent.withCandidates (localUfrag : String) (locals : List IceCandidate) : IceAgent :=
  { IceAgent.new localUfrag with localCandidates := locals }

section Setting
variable (overflowChecks : Bool) (a : IceAgent) (id : Nat) (remotes : List IceCandidate)

/-- The agent once a call that sets the remote candidates has begun, and other things have
happened. -/
def afterSet (ops : List IceOp) : IceAgent :=
  (a.step overflowChecks (.setRemote id remotes)).runs overflowChecks ops

/-- In some course of things the call comes to its end, and the pairs are as they should be. -/
def SetsPairs : Prop :=
  a.calls[id]? = none ∧ ∃ ops, (∀ op ∈ ops, op ≠ .cancel id) ∧
    (afterSet overflowChecks a id remotes ops).calls[id]? = none ∧
      Formed a.localCandidates remotes (afterSet overflowChecks a id remotes ops).pairs

/-- Once it has the lock to write the remote candidates, the call waits for itself. -/
theorem not_setsPairs (hp : a.Pairless) : ¬ SetsPairs overflowChecks a id remotes := by
  rintro ⟨hfresh, ops, hops, hended, -⟩
  have hbegun : UnderWay (a.step overflowChecks (.setRemote id remotes)) id remotes := by
    rw [IceAgent.step, IceAgent.begin, hfresh]
    exact ⟨_, calls_wait_self _⟩
  obtain ⟨phase, hphase⟩ := hbegun.runs (hp.step (.setRemote id remotes)) hops
  rw [afterSet, hphase] at hended
  cases hended

end Setting

theorem pairless_withCandidates (localUfrag : String) (locals : List IceCandidate) :
    (IceAgent.withCandidates localUfrag locals).Pairless :=
  have h := IceAgent.pairless_new localUfrag
  ⟨h.pairs, h.selected, h.calls⟩

/-- The pairs are never set, whatever the candidates and whatever has happened before; and forming
them would be right exactly for candidates of the same family that are of the same component and
not both of the greatest priority. -/
theorem setRemoteCandidates_never (overflowChecks : Bool) (localUfrag : String)
    (locals remotes : List IceCandidate) (ops : List IceOp) (id : Nat) :
    ¬ SetsPairs overflowChecks ((IceAgent.withCandidates localUfrag locals).runs overflowChecks ops)
      id remotes ∧
    ((∃ pairs, formCandidatePairs overflowChecks locals remotes = some pairs ∧
      Formed locals remotes pairs) ↔
        SameComponents locals remotes ∧ NotBothGreatest locals remotes) := by
  refine ⟨not_setsPairs _ _ _ _ ?_, formCandidatePairs_formed_iff⟩
  exact run_invariant (IceAgent.step overflowChecks) (pairless_withCandidates localUfrag locals)
    (fun _ op h => h.step op) ops

def exampleCandidate (host : BitVec 32) : IceCandidate :=
  .new .host ⟨.v4 host, 9000⟩ none "host0"

/-- One local candidate and one remote candidate of its family and component. -/
theorem one_pair_never_set : ¬ SetsPairs false
    (IceAgent.withCandidates "ufrag" [exampleCandidate 0x0A000001]) 1
      [exampleCandidate 0x0A000002] :=
  not_setsPairs _ _ _ _ (pairless_withCandidates _ _)

end P2PMesh.Ice
