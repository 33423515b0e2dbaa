import P2PMesh.IcePairs

namespace P2PMesh.Ice
open P2PMesh.Base
set_option autoImplicit true

inductive IceRole where
  | controlling
  | controlled
deriving DecidableEq

/-- One end of a negotiation. -/
structure IceEnd where
  role : IceRole
  tiebreaker : UInt64
  localCandidates : List IceCandidate

def IceEnd.resolveRoleConflict (s : IceEnd) (peerTiebreaker : UInt64) : IceEnd :=
  { s with role := if peerTiebreaker < s.tiebreaker then .controlling else .controlled }

/-- The priority of a pair at an end, whose role is not looked at. -/
def IceEnd.priorityOf (_ : IceEnd) (overflowChecks : Bool) (e : Ends) : Option UInt64 :=
  computedPriority overflowChecks e

/-- The check list of an end that has got the candidates of the other one. -/
def IceEnd.checkList (s peer : IceEnd) (overflowChecks : Bool) : Option (List CandidatePair) :=
  formCandidatePairs overflowChecks s.localCandidates peer.localCandidates

/-- The ends give each pair the same priority, and order two pairs differently only if these are the
same. -/
structure Agree (overflowChecks : Bool) (s peer : IceEnd) : Prop where
  priorities : ∀ e ∈ matching SameFamily s.localCandidates peer.localCandidates,
    ∃ priority, s.priorityOf overflowChecks e = some priority ∧
      peer.priorityOf overflowChecks e.swap = some priority
  order : ∀ pairs pairs', s.checkList peer overflowChecks = some pairs →
    peer.checkList s overflowChecks = some pairs' → ∀ e e',
      [e, e'].Sublist (pairs.map CandidatePair.ends) →
      [e'.swap, e.swap].Sublist (pairs'.map CandidatePair.ends) →
        s.priorityOf overflowChecks e = s.priorityOf overflowChecks e'

/-- The candidates of a pair have the same priority, and one whose own pair's fits. -/
def EqualPriorities (overflowChecks : Bool) (s peer : IceEnd) : Prop :=
  ∀ l ∈ s.localCandidates, ∀ r ∈ peer.localCandidates, SameFamily l r →
    l.priority = r.priority ∧ (overflowChecks = true → l.priority ≠ 4294967295)

section Roles

theorem resolveRoleConflict_ne {s peer : IceEnd} (h : s.tiebreaker ≠ peer.tiebreaker) :
    (s.resolveRoleConflict peer.tiebreaker).role ≠
      (peer.resolveRoleConflict s.tiebreaker).role := by
  have hne : s.tiebreaker.toNat ≠ peer.tiebreaker.toNat := fun heq => h (UInt64.toNat_inj.mp heq)
  rw [IceEnd.resolveRoleConflict, IceEnd.resolveRoleConflict]
  dsimp only
  rcases Nat.lt_or_gt_of_ne hne with hlt | hgt
  · rw [if_neg (UInt64.not_lt.mpr (UInt64.le_iff_toNat_le.mpr hlt.le)),
      if_pos (UInt64.lt_iff_toNat_lt.mpr hlt)]
    rintro ⟨⟩
  · rw [if_pos (UInt64.lt_iff_toNat_lt.mpr hgt),
      if_neg (UInt64.not_lt.mpr (UInt64.le_iff_toNat_le.mpr hgt.le))]
    rintro ⟨⟩

theorem priorityValue_comm_iff {g d : Nat} :
    priorityValue g d = priorityValue d g ↔ g = d := by
  constructor
  · intro h
    rw [priorityValue, priorityValue, min_comm, max_comm] at h
    split at h
    · split at h <;> omega
    · split at h <;> omega
  · rintro rfl
    rfl

theorem greatest_iff (x : UInt32) :
    2 ^ 64 ≤ priorityValue x.toNat x.toNat ↔ x = 4294967295 := by
  rw [← not_lt, priorityValue_lt_iff x.toNat_lt x.toNat_lt, not_not, and_self, ← UInt32.toNat_inj]
  rfl

theorem pairPriority_swap_iff (overflowChecks : Bool) (x y : UInt32) :
    (∃ priority, pairPriority overflowChecks x y = some priority ∧
      pairPriority overflowChecks y x = some priority) ↔
        x = y ∧ (overflowChecks = true → x ≠ 4294967295) := by
  rw [pairPriority_eq, pairPriority_eq]
  constructor
  · rintro ⟨priority, hxy, hyx⟩
    have hsame : x = y := by
      by_contra hne
      have hnat : x.toNat ≠ y.toNat := fun heq => hne (UInt32.toNat_inj.mp heq)
      have hfits : priorityValue x.toNat y.toNat < 2 ^ 64 :=
        (priorityValue_lt_iff x.toNat_lt y.toNat_lt).mpr (by omega)
      have hfits' : priorityValue y.toNat x.toNat < 2 ^ 64 :=
        (priorityValue_lt_iff y.toNat_lt x.toNat_lt).mpr (by omega)
      rw [if_neg (fun h => absurd hfits (Nat.not_lt.mpr h.2))] at hxy
      rw [if_neg (fun h => absurd hfits' (Nat.not_lt.mpr h.2))] at hyx
      have heq := congrArg UInt64.toNat (Option.some.inj (hxy.trans hyx.symm))
      rw [UInt64.toNat_ofNat_of_lt' hfits, UInt64.toNat_ofNat_of_lt' hfits'] at heq
      exact hnat (priorityValue_comm_iff.mp heq)
    subst hsame
    refine ⟨rfl, fun hchecks hgreatest => ?_⟩
    rw [if_pos ⟨hchecks, (greatest_iff x).mpr hgreatest⟩] at hxy
    cases hxy
  · rintro ⟨rfl, hgreatest⟩
    rw [if_neg (fun h => hgreatest h.1 ((greatest_iff x).mp h.2))]
    exact ⟨_, rfl, rfl⟩

end Roles

section Order
variable {overflowChecks : Bool} {s peer : IceEnd} {pairs : List CandidatePair}

theorem checkList_inOrder (h : s.checkList peer overflowChecks = some pairs) :
    InOrder overflowChecks (pairs.map CandidatePair.ends) := by
  obtain ⟨sorted, rfl, -, horder⟩ := formCandidatePairs_eq_some h
  rw [unfreeze_ends]
  exact horder

/-- Priorities that are the same at both ends leave no two pairs in different orders. -/
theorem order_of_priorities {pairs' : List CandidatePair} {e e' : Ends}
    (h : ∀ e ∈ matching SameFamily s.localCandidates peer.localCandidates,
      ∃ priority, s.priorityOf overflowChecks e = some priority ∧
        peer.priorityOf overflowChecks e.swap = some priority)
    (hpairs : s.checkList peer overflowChecks = some pairs)
    (hpairs' : peer.checkList s overflowChecks = some pairs')
    (hsub : [e, e'].Sublist (pairs.map CandidatePair.ends))
    (hsub' : [e'.swap, e.swap].Sublist (pairs'.map CandidatePair.ends)) :
    s.priorityOf overflowChecks e = s.priorityOf overflowChecks e' := by
  have hmem : ∀ x ∈ [e, e'], x ∈ matching SameFamily s.localCandidates peer.localCandidates :=
    fun x hx => (formCandidatePairs_ends hpairs).mem_iff.mp (hsub.subset hx)
  obtain ⟨x, hx, hx'⟩ := h e (hmem e List.mem_cons_self)
  obtain ⟨y, hy, hy'⟩ := h e' (hmem e' (List.mem_cons_of_mem _ (List.mem_singleton_self e')))
  have hle := List.pairwise_iff_forall_sublist.mp (checkList_inOrder hpairs) hsub x y hx hy
  have hle' := List.pairwise_iff_forall_sublist.mp (checkList_inOrder hpairs') hsub' y x hy' hx'
  rw [hx, hy, UInt64.toNat_inj.mp (Nat.le_antisymm hle' hle)]

end Order

/-- The ends agree on their pairs, whatever their roles, exactly where the candidates of every pair
have the same priority. -/
theorem agree_iff (overflowChecks : Bool) (s peer : IceEnd) :
    (s.tiebreaker ≠ peer.tiebreaker → (s.resolveRoleConflict peer.tiebreaker).role ≠
      (peer.resolveRoleConflict s.tiebreaker).role) ∧
    (Agree overflowChecks s peer ↔ EqualPriorities overflowChecks s peer) := by
  refine ⟨resolveRoleConflict_ne, ?_⟩
  constructor
  · intro h l hl r hr hfamily
    exact (pairPriority_swap_iff overflowChecks l.priority r.priority).mp
      (h.priorities (l, r) (mem_matching.mpr ⟨hl, hr, hfamily⟩))
  · intro h
    have hpriorities : ∀ e ∈ matching SameFamily s.localCandidates peer.localCandidates,
        ∃ priority, s.priorityOf overflowChecks e = some priority ∧
          peer.priorityOf overflowChecks e.swap = some priority := by
      intro e he
      obtain ⟨hl, hr, hfamily⟩ := mem_matching.mp he
      exact (pairPriority_swap_iff overflowChecks e.1.priority e.2.priority).mpr
        (h e.1 hl e.2 hr hfamily)
    exact ⟨hpriorities, fun pairs pairs' hpairs hpairs' e e' =>
      order_of_priorities hpriorities hpairs hpairs'⟩

def candidateOf (host : BitVec 32) (priority : UInt32) : IceCandidate :=
  { exampleCandidate host with priority := priority }

/-- The candidates of the end have the priorities 2 and 1. -/
def exampleEnd (role : IceRole) (tiebreaker : UInt64) (host host' : BitVec 32) : IceEnd :=
  ⟨role, tiebreaker, [candidateOf host 2, candidateOf host' 1]⟩

def exampleControlling : IceEnd := exampleEnd .controlling 2 0x0A000001 0x0A000002

def exampleControlled : IceEnd := exampleEnd .controlled 1 0x0A000003 0x0A000004

/-- Of the pairs with the priorities 2 and 1, each end puts the one first in which its own candidate
has the greater. -/
theorem pairs_ordered_differently : ¬ Agree false exampleControlling exampleControlled := by
  intro h
  have hsame := h.order ((exampleControlling.checkList exampleControlled false).getD [])
    ((exampleControlled.checkList exampleControlling false).getD []) (by decide +kernel)
    (by decide +kernel) (candidateOf 0x0A000001 2, candidateOf 0x0A000004 1)
    (candidateOf 0x0A000002 1, candidateOf 0x0A000003 2) (by decide +kernel) (by decide +kernel)
  exact absurd hsame (by decide +kernel)

end P2PMesh.Ice
