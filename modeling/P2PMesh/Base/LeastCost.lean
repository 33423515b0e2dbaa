import Mathlib.Data.Finset.Card
import Mathlib.Data.List.Induction
import Mathlib.Data.Nat.Find
import Mathlib.Order.Bounds.Basic
import P2PMesh.Base.Run

namespace P2PMesh.Base
set_option autoImplicit true

section Costs
variable {V : Type*} (origin : V → ℕ → Prop) (edge : V → V → ℕ → Prop)

/-- The costs at which a node is reached: that of an origin, or that of a node with an edge to
it and the cost of the edge. -/
inductive Costs : V → ℕ → Prop
  | origin (h : origin v n) : Costs v n
  | hop (h : Costs u n) (he : edge u v c) : Costs v (n + c)

def LeastCost (v : V) (d : ℕ) : Prop := IsLeast {n | Costs origin edge v n} d

variable {origin edge}

theorem LeastCost.unique (h : LeastCost origin edge v d) (h' : LeastCost origin edge v d') :
    d = d' := IsLeast.unique h h'

theorem Costs.exists_least (h : Costs origin edge v n) :
    ∃ d, LeastCost origin edge v d ∧ d ≤ n := by
  classical
  have hex : ∃ n, Costs origin edge v n := ⟨n, h⟩
  exact ⟨Nat.find hex, ⟨Nat.find_spec hex, fun m hm => Nat.find_min' hex hm⟩,
    Nat.find_min' hex h⟩

theorem LeastCost.origin_or_hop (h : LeastCost origin edge v d) :
    origin v d ∨ ∃ u c d', edge u v c ∧ LeastCost origin edge u d' ∧ d' + c = d := by
  obtain ⟨hd, hmin⟩ := h
  cases hd with
  | origin ho => exact Or.inl ho
  | @hop u n _ c hu he =>
    obtain ⟨d', hd', hle⟩ := hu.exists_least
    refine Or.inr ⟨u, c, d', he, hd', ?_⟩
    have hback : n + c ≤ d' + c := hmin (.hop hd'.1 he)
    omega

open scoped Classical in
/-- The number of nodes that are reached at less cost. -/
noncomputable def costRank (origin : V → ℕ → Prop) (edge : V → V → ℕ → Prop) (nodes : Finset V)
    (v : V) : ℕ :=
  (nodes.filter (fun u => ∃ d d', LeastCost origin edge u d' ∧ LeastCost origin edge v d ∧
    d' < d)).card

open scoped Classical in
theorem costRank_le (nodes : Finset V) (v : V) : costRank origin edge nodes v ≤ nodes.card :=
  Finset.card_filter_le _ _

theorem costRank_lt {nodes : Finset V} (hu : u ∈ nodes) (hd' : LeastCost origin edge u d')
    (hd : LeastCost origin edge v d) (hlt : d' < d) :
    costRank origin edge nodes u < costRank origin edge nodes v := by
  classical
  apply Finset.card_lt_card
  rw [Finset.ssubset_iff_of_subset]
  · refine ⟨u, Finset.mem_filter.mpr ⟨hu, d, d', hd', hd, hlt⟩, ?_⟩
    intro hmem
    obtain ⟨-, e, e', he', he, hlt'⟩ := Finset.mem_filter.mp hmem
    rw [he'.unique he] at hlt'
    exact lt_irrefl _ hlt'
  · intro w hw
    obtain ⟨hwn, e, e', he', he, hlt'⟩ := Finset.mem_filter.mp hw
    rw [he.unique hd'] at hlt'
    exact Finset.mem_filter.mpr ⟨hwn, d, e', he', hd, hlt'.trans hlt⟩

end Costs

section Rounds
variable {σ α V : Type*} {step : σ → α → σ} {ok : α → Prop} {I : σ → Prop}
  {Settled : σ → V → Prop} {feeds : α → V → V → Prop} {rank : V → ℕ}

/-- A round in which a step feeds a settled node's successor settles it, and nothing is unsettled
after that step. -/
theorem round_settles (hI : ∀ s a, ok a → I s → I (step s a))
    (hkeep : ∀ s a v, ok a → I s → Settled s v → Settled (step s a) v)
    (hfeed : ∀ s a u v, ok a → I s → feeds a u v → Settled s u → Settled (step s a) v)
    {round : List α} (hok : ∀ a ∈ round, ok a) (hs : I s) (hu : Settled s u)
    (hround : ∃ a ∈ round, feeds a u v) : Settled (round.foldl step s) v := by
  have hrun : ∀ {l : List α} {s v}, (∀ a ∈ l, ok a) → I s → Settled s v →
      I (l.foldl step s) ∧ Settled (l.foldl step s) v := by
    intro l s v hl hs hv
    have hg : Guarded step (fun _ a => ok a) s l := .of_forall (fun _ a ha => hl a ha)
    exact hg.invariant (I := fun s => I s ∧ Settled s v) ⟨hs, hv⟩
      (fun s a h ha => ⟨hI s a ha h.1, hkeep s a v ha h.1 h.2⟩)
  obtain ⟨a, ha, hfeeds⟩ := hround
  obtain ⟨before, after, he⟩ := List.append_of_mem ha
  rw [he] at hok ⊢
  have hbefore := hrun (fun b hb => hok b (List.mem_append_left _ hb)) hs hu
  have hoka : ok a := hok a (List.mem_append_right _ List.mem_cons_self)
  rw [List.foldl_append, List.foldl_cons]
  exact (hrun (fun b hb => hok b (List.mem_append_right _ (.tail a hb)))
    (hI _ a hoka hbefore.1) (hfeed _ a u v hoka hbefore.1 hfeeds hbefore.2)).2

/-- If every node that matters is settled from the start, or is fed in each round by one of lower
rank, then each round settles one more rank. -/
theorem rounds_settle (hI : ∀ s a, ok a → I s → I (step s a))
    (hkeep : ∀ s a v, ok a → I s → Settled s v → Settled (step s a) v)
    (hfeed : ∀ s a u v, ok a → I s → feeds a u v → Settled s u → Settled (step s a) v)
    {P : V → Prop} {rounds : List (List α)} (hok : ∀ round ∈ rounds, ∀ a ∈ round, ok a)
    (hdep : ∀ v, P v → (∀ s, I s → Settled s v) ∨
      ∃ u, P u ∧ rank u < rank v ∧ ∀ round ∈ rounds, ∃ a ∈ round, feeds a u v)
    (hs : I s) (hv : P v) (hrank : rank v ≤ rounds.length) :
    Settled (rounds.flatten.foldl step s) v := by
  have hinv : ∀ {rounds : List (List α)}, (∀ round ∈ rounds, ∀ a ∈ round, ok a) →
      I (rounds.flatten.foldl step s) := by
    intro rounds hok
    have hg : Guarded step (fun _ a => ok a) s rounds.flatten := by
      apply Guarded.of_forall
      intro _ a ha
      obtain ⟨round, hround, ha⟩ := List.mem_flatten.mp ha
      exact hok round hround a ha
    exact hg.invariant hs (fun s a h ha => hI s a ha h)
  induction rounds using List.reverseRecOn generalizing v with
  | nil =>
    rcases hdep v hv with hsource | ⟨u, -, hlt, -⟩
    · exact hsource s hs
    · rw [List.length_nil] at hrank
      omega
  | append_singleton rounds round ih =>
    rcases hdep v hv with hsource | ⟨u, hu, hlt, hround⟩
    · exact hsource _ (hinv hok)
    · have hokInit : ∀ r ∈ rounds, ∀ a ∈ r, ok a :=
        fun r hr => hok r (List.mem_append_left _ hr)
      have hdepInit : ∀ v, P v → (∀ s, I s → Settled s v) ∨
          ∃ u, P u ∧ rank u < rank v ∧ ∀ r ∈ rounds, ∃ a ∈ r, feeds a u v := by
        intro v hv
        exact (hdep v hv).imp_right (fun ⟨u, hu, hlt, hr⟩ =>
          ⟨u, hu, hlt, fun r hmem => hr r (List.mem_append_left _ hmem)⟩)
      rw [List.length_append, List.length_singleton] at hrank
      have hsettled := ih hokInit hdepInit hu (by omega)
      have hlast : round ∈ rounds ++ [round] := List.mem_append_right _ List.mem_cons_self
      rw [List.flatten_append, List.flatten_singleton, List.foldl_append]
      exact round_settles hI hkeep hfeed (hok round hlast) (hinv hokInit) hsettled
        (hround round hlast)

end Rounds

end P2PMesh.Base
