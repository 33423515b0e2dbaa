import P2PMesh.RouteLookup

namespace P2PMesh.Router
open P2PMesh.Base
set_option autoImplicit true

variable {N : Ipnet}

/-- No key stands over an empty list. -/
def RouteTable.Filled (t : RouteTable) : Prop := ∀ key : String, t.routes[key]? ≠ some []

theorem RouteTable.filled_of_empty {t : RouteTable} (h : t.routes = ∅) : t.Filled := by
  intro key
  rw [h, Std.TreeMap.getElem?_emptyc]
  exact (Option.some_ne_none []).symm

theorem RouteTable.Filled.insert {t : RouteTable} (h : t.Filled) (hl : l ≠ []) (key key' : String) :
    (t.routes.insert key l)[key']? ≠ some [] := by
  rw [getElem?_insert_eq]
  split
  · intro he
    cases he
    exact hl rfl
  · exact h key'

theorem RouteTable.Filled.map {t : RouteTable} (h : t.Filled) (f : Route → Route) (key : String) :
    (t.routes.map (fun _ entry => entry.map f))[key]? ≠ some [] := by
  rw [Std.TreeMap.getElem?_map]
  intro he
  obtain ⟨entry, hentry, hmap⟩ := Option.map_eq_some_iff.mp he
  rw [List.map_eq_nil_iff.mp hmap] at hentry
  exact h key hentry

theorem mergeRoute_ne_nil (entry : List Route) (route : Route) : mergeRoute entry route ≠ [] := by
  have hm : route ∈ mergeRoute entry route := mem_mergeRoute.mpr (Or.inr rfl)
  exact List.ne_nil_of_mem hm

theorem sortByKey_ne_nil {entry : List Route} (h : entry ≠ []) :
    sortByKey Route.metric entry ≠ [] := by
  obtain ⟨r, hr⟩ := List.exists_mem_of_ne_nil entry h
  exact List.ne_nil_of_mem (mem_sortByKey.mpr hr)

theorem RouteTable.Filled.removeRoute {t : RouteTable} (h : t.Filled) (cidr : Ipv4Net)
    (p : String) : (t.removeRoute N cidr p).Filled := by
  intro key
  rw [RouteTable.removeRoute]
  split
  · exact h key
  · next entry he =>
    simp only
    split
    · rw [getElem?_erase_eq]
      split
      · exact (Option.some_ne_none []).symm
      · exact h key
    · next hne =>
      refine h.insert ?_ _ key
      intro hnil
      exact hne (List.isEmpty_iff.mpr hnil)

theorem RouteTable.Filled.updateMetric {t : RouteTable} (h : t.Filled) (cidr : Ipv4Net)
    (p : String) (m : Nat) : (t.updateMetric N cidr p m).Filled := by
  intro key
  rw [RouteTable.updateMetric]
  split
  · exact h key
  · next entry he =>
    refine h.insert (sortByKey_ne_nil ?_) _ key
    intro hnil
    rw [List.map_eq_nil_iff.mp hnil] at he
    exact h _ he

theorem RouteTable.Filled.step {t : RouteTable} (h : t.Filled) (op : RouteOp) :
    (t.step N op).Filled := by
  cases op with
  | addRoute route =>
    intro key
    change (t.addRoute N route).routes[key]? ≠ _
    rw [RouteTable.addRoute_routes]
    exact h.insert (mergeRoute_ne_nil _ route) _ key
  | removeRoute cidr p => exact h.removeRoute cidr p
  | deactivateRoute p => exact h.map _
  | activateRoute p => exact h.map _
  | updateMetric cidr p m => exact h.updateMetric cidr p m
  | flush => exact RouteTable.filled_of_empty rfl
  | setDefaultRoute route => exact h
  | lookupEcmp dst =>
    intro key
    change (t.lookupEcmp N dst).2.routes[key]? ≠ _
    rw [RouteTable.lookupEcmp_routes]
    exact h key

theorem RouteTable.run_filled (N : Ipnet) (ops : List RouteOp) :
    (RouteTable.new.run N ops).Filled :=
  run_invariant _ (I := RouteTable.Filled) (RouteTable.filled_of_empty rfl)
    (fun _ op h => h.step op) ops

section Frame
variable (t : RouteTable)

theorem RouteTable.addRoute_frame (route : Route) (h : N.toString route.cidr ≠ key) :
    (t.addRoute N route).routes[key]? = t.routes[key]? := by
  rw [RouteTable.addRoute_routes]
  exact getElem?_insert_of_ne _ _ h

theorem RouteTable.removeRoute_frame (p : String) (h : N.toString cidr ≠ key) :
    (t.removeRoute N cidr p).routes[key]? = t.routes[key]? := by
  rw [RouteTable.removeRoute]
  split
  · rfl
  · simp only
    split
    · exact getElem?_erase_of_ne _ h
    · exact getElem?_insert_of_ne _ _ h

theorem RouteTable.updateMetric_frame (p : String) (m : Nat) (h : N.toString cidr ≠ key) :
    (t.updateMetric N cidr p m).routes[key]? = t.routes[key]? := by
  rw [RouteTable.updateMetric]
  split
  · rfl
  · exact getElem?_insert_of_ne _ _ h

end Frame

/-- What every run leaves under a key, and that an operation on one network leaves the keys of
the others alone. -/
theorem routeTable_representation (N : Ipnet) (ops : List RouteOp) :
    (∀ key entry, (RouteTable.new.run N ops).routes[key]? = some entry →
      entry ≠ [] ∧ EntryOk N key entry) ∧
    (∀ route key, N.toString route.cidr ≠ key →
      ((RouteTable.new.run N ops).addRoute N route).routes[key]? =
        (RouteTable.new.run N ops).routes[key]?) ∧
    (∀ cidr p key, N.toString cidr ≠ key →
      ((RouteTable.new.run N ops).removeRoute N cidr p).routes[key]? =
        (RouteTable.new.run N ops).routes[key]?) ∧
    (∀ cidr p m key, N.toString cidr ≠ key →
      ((RouteTable.new.run N ops).updateMetric N cidr p m).routes[key]? =
        (RouteTable.new.run N ops).routes[key]?) := by
  refine ⟨?_, ?_, ?_, ?_⟩
  · intro key entry he
    constructor
    · intro hnil
      rw [hnil] at he
      exact RouteTable.run_filled N ops key he
    · have hok := RouteTable.run_ok N ops key
      rwa [RouteTable.entry, he, Option.getD_some] at hok
  · exact fun route key h => RouteTable.addRoute_frame _ route h
  · exact fun cidr p key h => RouteTable.removeRoute_frame _ p h
  · exact fun cidr p m key h => RouteTable.updateMetric_frame _ p m h

end P2PMesh.Router
