import P2PMesh.Babel

namespace P2PMesh.Babel
open P2PMesh.Base
set_option autoImplicit true

/-- What the data plane is given for the prefix: nothing if the table has only retracted routes
for it, else a route of the table that is not retracted and whose metric is least. -/
def BabelProtocol.Selects (b : BabelProtocol) (p : Ipv4Net) : Prop :=
  ((∀ r ∈ b.prefixRoutes p, r.retracted = true) ∧
    b.getRoutingTable.filter (fun r => r.destPrefix = p) = []) ∨
  ∃ r ∈ b.prefixRoutes p, r.retracted = false ∧
    (∀ r' ∈ b.prefixRoutes p, r'.retracted = false → r.metric ≤ r'.metric) ∧
    b.getRoutingTable.filter (fun r => r.destPrefix = p) = [{ r with selected := true }]

/-- No neighbor is lost that a selected route leads to. -/
def BabelProtocol.KeepsSelected (b : BabelProtocol) (p : Ipv4Net) : BabelOp → Prop
  | .message _ _ _ => True
  | .removeNeighbor neighborId =>
    ∀ r, b.selectedRoutes[p]? = some r → r.nextHop ≠ neighborId

/-- The routes of a prefix are of one router: while there is one, an update of another router
is not feasible. They and the selected route are of the prefix. -/
structure BabelProtocol.WellFormed (b : BabelProtocol) : Prop where
  oneRouter : ∀ p, ∀ r ∈ b.prefixRoutes p, ∀ r' ∈ b.prefixRoutes p, r.routerId = r'.routerId
  routes : ∀ p, ∀ r ∈ b.prefixRoutes p, r.destPrefix = p
  selected : ∀ p (r : BabelRoute), b.selectedRoutes[p]? = some r → r.destPrefix = p

/-- An update that is taken up beside another route replaces a route of its router. -/
theorem exists_route_of_accepted (h : isFeasible msg l = true ∨ l = []) (hr : r ∈ l) :
    ∃ r₀ ∈ l, r₀.routerId = msg.routerId := by
  rcases h with h | h
  · obtain ⟨r₀, hr₀, -⟩ := List.any_eq_true.mp h
    obtain ⟨hmem, hid⟩ := List.mem_filter.mp hr₀
    exact ⟨r₀, hmem, of_decide_eq_true hid⟩
  · rw [h] at hr
    cases hr

theorem BabelProtocol.WellFormed.of_turn {b : BabelProtocol} (h : b.WellFormed)
    (hturn : b.Turn p op l sel) :
    (∀ r ∈ l, ∀ r' ∈ l, r.routerId = r'.routerId) ∧
      (∀ r ∈ l, r.destPrefix = p) ∧ ∀ r, sel = some r → r.destPrefix = p := by
  cases hturn with
  | idle => exact ⟨h.oneRouter p, h.routes p, h.selected p⟩
  | refused => exact ⟨h.oneRouter p, h.routes p, h.selected p⟩
  | retracted =>
    refine ⟨?_, fun r hr => h.routes p r (mem_otherRoutes.mp hr).1, ?_⟩
    · intro r hr r' hr'
      exact h.oneRouter p r (mem_otherRoutes.mp hr).1 r' (mem_otherRoutes.mp hr').1
    · intro r hr
      split at hr
      · cases hr
      · exact h.selected p r hr
  | @accepted msg now best _ hupdate hmetric hfeasible hbest =>
    have hroutes : ∀ r ∈ b.routesWith msg p now, r.destPrefix = p := by
      intro r hr
      rcases List.mem_append.mp hr with hr | hr
      · exact h.routes p r (mem_otherRoutes.mp hr).1
      · cases List.mem_singleton.mp hr
        rfl
    refine ⟨?_, hroutes, ?_⟩
    · have hrouter : ∀ r ∈ b.routesWith msg p now, r.routerId = msg.routerId := by
        intro r hr
        rcases List.mem_append.mp hr with hr | hr
        · obtain ⟨hr, hne⟩ := mem_otherRoutes.mp hr
          obtain ⟨r₀, hr₀, he⟩ := exists_route_of_accepted hfeasible hr
          exact ((h.oneRouter p r hr r₀ hr₀).trans he)
        · cases List.mem_singleton.mp hr
          rfl
      exact fun r hr r' hr' => (hrouter r hr).trans (hrouter r' hr').symm
    · intro r hr
      cases hr
      exact hroutes best (mem_bestRoute hbest).1
  | @removed neighborId =>
    have hmap : ∀ r ∈ (b.prefixRoutes p).map (BabelRoute.retractVia neighborId),
        ∃ r₀ ∈ b.prefixRoutes p, r.routerId = r₀.routerId ∧ r.destPrefix = r₀.destPrefix := by
      intro r hr
      obtain ⟨r₀, hr₀, rfl⟩ := List.mem_map.mp hr
      rw [retractVia_eq]
      exact ⟨r₀, hr₀, rfl, rfl⟩
    refine ⟨?_, ?_, h.selected p⟩
    · intro r hr r' hr'
      obtain ⟨r₀, hr₀, hid, -⟩ := hmap r hr
      obtain ⟨r₁, hr₁, hid', -⟩ := hmap r' hr'
      rw [hid, hid', h.oneRouter p r₀ hr₀ r₁ hr₁]
    · intro r hr
      obtain ⟨r₀, hr₀, -, hp⟩ := hmap r hr
      exact hp.trans (h.routes p r₀ hr₀)

theorem BabelProtocol.WellFormed.step {b : BabelProtocol} (h : b.WellFormed) (op : BabelOp) :
    (b.step op).WellFormed where
  oneRouter p := (h.of_turn (b.step_turn op p)).1
  routes p := (h.of_turn (b.step_turn op p)).2.1
  selected p := (h.of_turn (b.step_turn op p)).2.2

/-- What is selected from the routes of a prefix: nothing if all are retracted, else one of the
least metric that is not. -/
def Chosen (l : List BabelRoute) (sel : Option BabelRoute) : Prop :=
  ((∀ r ∈ l, r.retracted = true) ∧ sel = none) ∨
  ∃ r ∈ l, r.retracted = false ∧ (∀ r' ∈ l, r'.retracted = false → r.metric ≤ r'.metric) ∧
    sel = some { r with selected := true }

theorem BabelProtocol.WellFormed.selects_iff {b : BabelProtocol} (h : b.WellFormed)
    (p : Ipv4Net) : b.Selects p ↔ Chosen (b.prefixRoutes p) b.selectedRoutes[p]? := by
  have htable : b.getRoutingTable.filter (fun r => r.destPrefix = p) =
      b.selectedRoutes[p]?.toList := values_filter_key b.selectedRoutes h.selected p
  simp only [BabelProtocol.Selects, Chosen, htable, Option.toList_eq_nil_iff,
    Option.toList_eq_singleton_iff]

section Turns
variable {b : BabelProtocol} {p : Ipv4Net} {sel : Option BabelRoute}

theorem Chosen.retract_iff (h : Chosen (b.prefixRoutes p) sel) (routerId : RouterId) :
    Chosen (otherRoutes routerId (b.prefixRoutes p)) sel ↔
      ∀ r, sel = some r → r.routerId ≠ routerId := by
  constructor
  · intro h' r hr
    rcases h' with ⟨-, hnone⟩ | ⟨r', hr', -, -, hsome⟩
    · cases hnone.symm.trans hr
    · cases hsome.symm.trans hr
      exact (mem_otherRoutes.mp hr').2
  · intro hne
    rcases h with ⟨hall, hnone⟩ | ⟨r, hr, hret, hle, hsome⟩
    · exact Or.inl ⟨fun r hr => hall r (mem_otherRoutes.mp hr).1, hnone⟩
    · have hother := hne _ hsome
      refine Or.inr ⟨r, mem_otherRoutes.mpr ⟨hr, hother⟩, hret, ?_, hsome⟩
      exact fun r' hr' => hle r' (mem_otherRoutes.mp hr').1

theorem Chosen.exists_route (h : Chosen l sel) (hr : sel = some r) :
    ∃ r₀ ∈ l, r.routerId = r₀.routerId := by
  rcases h with ⟨-, hnone⟩ | ⟨r₀, hr₀, -, -, hsome⟩
  · cases hnone.symm.trans hr
  · cases hsome.symm.trans hr
    exact ⟨r₀, hr₀, rfl⟩

theorem Chosen.remove_iff (h : Chosen (b.prefixRoutes p) sel) (neighborId : RouterId) :
    Chosen ((b.prefixRoutes p).map (BabelRoute.retractVia neighborId)) sel ↔
      ∀ r, sel = some r → r.nextHop ≠ neighborId := by
  constructor
  · intro h' r hr hvia
    rcases h' with ⟨-, hnone⟩ | ⟨r', hr', hret', -, hsome'⟩
    · cases hnone.symm.trans hr
    · cases hsome'.symm.trans hr
      obtain ⟨r₀, hr₀, he⟩ := List.mem_map.mp hr'
      rw [retractVia_eq] at he
      cases he
      rw [decide_eq_true hvia, Bool.or_true] at hret'
      cases hret'
  · intro hne
    rcases h with ⟨hall, hnone⟩ | ⟨r, hr, hret, hle, hsome⟩
    · refine Or.inl ⟨?_, hnone⟩
      intro r hr
      obtain ⟨r₀, hr₀, he⟩ := List.mem_map.mp hr
      rw [← he, retractVia_eq]
      exact Bool.or_eq_true_iff.mpr (Or.inl (hall r₀ hr₀))
    · have hkept : r.retractVia neighborId = r := if_neg (hne _ hsome)
      refine Or.inr ⟨r, List.mem_map.mpr ⟨r, hr, hkept⟩, hret, ?_, hsome⟩
      intro r' hr' hret'
      obtain ⟨r₀, hr₀, he⟩ := List.mem_map.mp hr'
      rw [← he, retractVia_eq] at hret' ⊢
      exact hle r₀ hr₀ (Bool.or_eq_false_iff.mp hret').1

theorem Chosen.turn_iff (hb : b.WellFormed) (h : Chosen (b.prefixRoutes p) b.selectedRoutes[p]?)
    (hturn : b.Turn p op l sel) : Chosen l sel ↔ b.KeepsSelected p op := by
  cases hturn with
  | idle => exact iff_of_true h trivial
  | refused => exact iff_of_true h trivial
  | @accepted msg now best _ _ _ _ hbest =>
    obtain ⟨hmem, hret⟩ := mem_bestRoute hbest
    have hchosen : Chosen (b.routesWith msg p now) (some { best with selected := true }) :=
      Or.inr ⟨best, hmem, hret, fun _ hr => bestRoute_le hbest hr, rfl⟩
    exact iff_of_true hchosen trivial
  | @retracted msg =>
    split
    · next hempty =>
      rw [hempty]
      exact iff_of_true (Or.inl ⟨fun r hr => (List.not_mem_nil hr).elim, rfl⟩) trivial
    · next hmore =>
      refine iff_of_true ((h.retract_iff _).mpr ?_) trivial
      obtain ⟨r, hr⟩ := List.exists_mem_of_ne_nil _ hmore
      obtain ⟨hr, hother⟩ := mem_otherRoutes.mp hr
      intro r' hr'
      obtain ⟨r₀, hr₀, he⟩ := h.exists_route hr'
      rw [he, hb.oneRouter p r₀ hr₀ r hr]
      exact hother
  | removed => exact h.remove_iff _

end Turns

theorem BabelProtocol.step_selects_iff (b : BabelProtocol) (op : BabelOp) (hb : b.WellFormed)
    (h : ∀ p, b.Selects p) : (∀ p, (b.step op).Selects p) ↔ ∀ p, b.KeepsSelected p op := by
  apply forall_congr'
  intro p
  rw [(hb.step op).selects_iff]
  exact Chosen.turn_iff hb ((hb.selects_iff p).mp (h p)) (b.step_turn op p)

theorem wellFormed_new (routerId : RouterId) : (BabelProtocol.new routerId).WellFormed where
  oneRouter p r hr := by
    rw [prefixRoutes_new] at hr
    cases hr
  routes p r hr := by
    rw [prefixRoutes_new] at hr
    cases hr
  selected p r hr := by
    rw [BabelProtocol.new, Std.TreeMap.getElem?_emptyc] at hr
    cases hr

/-- At every point of a run the data plane has for each prefix the best route of the table that
is not retracted, exactly where no neighbor is lost that a selected route leads to. -/
theorem selected_route_current_iff (routerId : RouterId) (ops : List BabelOp) :
    (∀ before, before <+: ops → ∀ p, ((BabelProtocol.new routerId).run before).Selects p) ↔
      Guarded BabelProtocol.step (fun b op => ∀ p, b.KeepsSelected p op) (.new routerId) ops := by
  have hstart : ∀ p, (BabelProtocol.new routerId).Selects p := by
    intro p
    rw [(wellFormed_new routerId).selects_iff]
    refine Or.inl ⟨?_, Std.TreeMap.getElem?_emptyc⟩
    intro r hr
    rw [prefixRoutes_new] at hr
    cases hr
  exact forall_prefix_iff_of (wellFormed_new routerId) (fun b op hb => hb.step op) hstart
    BabelProtocol.step_selects_iff ops

/-- The route of a neighbor that is lost stays selected. -/
theorem stale_route_selected :
    ¬ ∀ (ops : List BabelOp), ((BabelProtocol.new 100).run ops).Selects babelNet := by
  intro h
  have hstale := h [routeUpdate 1 1 10 5 0, .removeNeighbor 1]
  have hroutes : ((BabelProtocol.new 100).run
      [routeUpdate 1 1 10 5 0, .removeNeighbor 1]).prefixRoutes babelNet =
      [⟨babelNet, 1, 1, 10, 5, 1, false, 0, 20000000000, true⟩] := by
    decide +kernel
  have htable : ((BabelProtocol.new 100).run
      [routeUpdate 1 1 10 5 0, .removeNeighbor 1]).getRoutingTable =
      [⟨babelNet, 1, 1, 10, 5, 1, true, 0, 20000000000, false⟩] := by
    decide +kernel
  rw [BabelProtocol.Selects, hroutes, htable] at hstale
  rcases hstale with ⟨-, hnone⟩ | ⟨r, hr, hret, -⟩
  · cases hnone
  · cases List.mem_singleton.mp hr
    cases hret

end P2PMesh.Babel
