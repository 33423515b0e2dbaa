import P2PMesh.RouteTable

namespace P2PMesh.Router
open P2PMesh.Base
set_option autoImplicit true

variable {N : Ipnet}

/-- What every list of routes in a table satisfies: its routes print to the key, are sorted by
metric, and go to different peers. -/
structure EntryOk (N : Ipnet) (key : String) (entry : List Route) : Prop where
  keyed : ∀ r ∈ entry, N.toString r.cidr = key
  sorted : entry.Pairwise (fun r r' => r.metric ≤ r'.metric)
  peers : (entry.map Route.peerId).Nodup

def RouteTable.Ok (N : Ipnet) (t : RouteTable) : Prop := ∀ key, EntryOk N key (t.entry key)

@[simp] theorem Route.setActive_cidr (p : String) (b : Bool) (r : Route) :
    (r.setActive p b).cidr = r.cidr := by
  rw [Route.setActive]
  split <;> rfl

@[simp] theorem Route.setActive_peerId (p : String) (b : Bool) (r : Route) :
    (r.setActive p b).peerId = r.peerId := by
  rw [Route.setActive]
  split <;> rfl

@[simp] theorem Route.setActive_metric (p : String) (b : Bool) (r : Route) :
    (r.setActive p b).metric = r.metric := by
  rw [Route.setActive]
  split <;> rfl

@[simp] theorem Route.setMetric_cidr (p : String) (m : Nat) (r : Route) :
    (r.setMetric p m).cidr = r.cidr := by
  rw [Route.setMetric]
  split <;> rfl

@[simp] theorem Route.setMetric_peerId (p : String) (m : Nat) (r : Route) :
    (r.setMetric p m).peerId = r.peerId := by
  rw [Route.setMetric]
  split <;> rfl

@[simp] theorem Route.setMetric_active (p : String) (m : Nat) (r : Route) :
    (r.setMetric p m).active = r.active := by
  rw [Route.setMetric]
  split <;> rfl

theorem mem_mergeRoute : r ∈ mergeRoute entry route ↔
    (r ∈ entry ∧ r.peerId ≠ route.peerId) ∨ r = route := by
  simp only [mergeRoute, mem_sortByKey, List.mem_append, List.mem_filter, List.mem_singleton,
    decide_eq_true_eq]

theorem sortByKey_peers (entry : List Route) :
    ((sortByKey Route.metric entry).map Route.peerId).Nodup ↔
      (entry.map Route.peerId).Nodup :=
  ((List.perm_insertionSort _ entry).map _).nodup_iff

theorem EntryOk.nil : EntryOk N key [] := ⟨by simp, List.Pairwise.nil, by simp⟩

theorem EntryOk.merge (h : EntryOk N key entry) (hk : N.toString route.cidr = key) :
    EntryOk N key (mergeRoute entry route) := by
  have hkeyed : ∀ r ∈ mergeRoute entry route, N.toString r.cidr = key := by
    intro r hr
    rcases mem_mergeRoute.mp hr with ⟨hr, -⟩ | hr
    · exact h.keyed r hr
    · rw [hr, hk]
  have hne : ∀ p ∈ (entry.filter (fun r => r.peerId ≠ route.peerId)).map Route.peerId,
      ∀ q ∈ [route].map Route.peerId, p ≠ q := by
    intro p hp q hq
    obtain ⟨r, hr, hrp⟩ := List.mem_map.mp hp
    obtain ⟨r', hr', hrq⟩ := List.mem_map.mp hq
    have hne := of_decide_eq_true (List.mem_filter.mp hr).2
    rwa [hrp, ← List.mem_singleton.mp hr', hrq] at hne
  have hpeers : ((mergeRoute entry route).map Route.peerId).Nodup := by
    rw [mergeRoute, sortByKey_peers, List.map_append, List.nodup_append]
    exact ⟨h.peers.sublist (List.filter_sublist.map _), by simp, hne⟩
  exact ⟨hkeyed, sortByKey_sorted _, hpeers⟩

theorem EntryOk.filter (h : EntryOk N key entry) (p : Route → Bool) :
    EntryOk N key (entry.filter p) :=
  ⟨fun r hr => h.keyed r (List.mem_filter.mp hr).1, h.sorted.filter p,
    h.peers.sublist (List.filter_sublist.map _)⟩

theorem EntryOk.map_setActive (h : EntryOk N key entry) (p : String) (b : Bool) :
    EntryOk N key (entry.map (Route.setActive p b)) := by
  have hkeyed : ∀ r ∈ entry.map (Route.setActive p b), N.toString r.cidr = key := by
    intro r hr
    obtain ⟨r', hr', he⟩ := List.mem_map.mp hr
    rw [← he, Route.setActive_cidr, h.keyed r' hr']
  have hsorted : (entry.map (Route.setActive p b)).Pairwise
      (fun r r' => r.metric ≤ r'.metric) := by
    simpa only [List.pairwise_map, Route.setActive_metric] using h.sorted
  have hpeers : ((entry.map (Route.setActive p b)).map Route.peerId).Nodup := by
    simpa only [List.map_map, Function.comp_def, Route.setActive_peerId] using h.peers
  exact ⟨hkeyed, hsorted, hpeers⟩

theorem EntryOk.setMetric (h : EntryOk N key entry) (p : String) (m : Nat) :
    EntryOk N key (sortByKey Route.metric (entry.map (Route.setMetric p m))) := by
  have hkeyed : ∀ r ∈ sortByKey Route.metric (entry.map (Route.setMetric p m)),
      N.toString r.cidr = key := by
    intro r hr
    obtain ⟨r', hr', he⟩ := List.mem_map.mp (mem_sortByKey.mp hr)
    rw [← he, Route.setMetric_cidr, h.keyed r' hr']
  have hpeers : ((entry.map (Route.setMetric p m)).map Route.peerId).Nodup := by
    simpa only [List.map_map, Function.comp_def, Route.setMetric_peerId] using h.peers
  exact ⟨hkeyed, sortByKey_sorted _, (sortByKey_peers _).mpr hpeers⟩

theorem EntryOk.onEntry (h : EntryOk N key entry) (op : RouteOp) :
    EntryOk N key (op.onEntry N key entry) := by
  cases op with
  | addRoute route =>
    simp only [RouteOp.onEntry]
    split
    · next hk => exact h.merge hk
    · exact h
  | removeRoute cidr p =>
    simp only [RouteOp.onEntry]
    split
    · exact h.filter _
    · exact h
  | deactivateRoute p => exact h.map_setActive p false
  | activateRoute p => exact h.map_setActive p true
  | updateMetric cidr p m =>
    simp only [RouteOp.onEntry]
    split
    · exact h.setMetric p m
    · exact h
  | flush => exact EntryOk.nil
  | setDefaultRoute | lookupEcmp => exact h

theorem RouteTable.entry_new (key : String) : RouteTable.new.entry key = [] := by
  change ((∅ : Std.TreeMap String (List Route))[key]?).getD [] = []
  rw [Std.TreeMap.getElem?_emptyc, Option.getD_none]

theorem RouteTable.Ok.step {t : RouteTable} (h : t.Ok N) (op : RouteOp) : (t.step N op).Ok N := by
  intro key
  rw [RouteTable.entry_step]
  exact (h key).onEntry op

theorem RouteTable.run_ok (N : Ipnet) (ops : List RouteOp) : (RouteTable.new.run N ops).Ok N := by
  apply run_invariant (I := RouteTable.Ok N)
  · intro key
    rw [RouteTable.entry_new]
    exact EntryOk.nil
  · exact fun _ op h => h.step op

def RouteTable.Candidate (t : RouteTable) (dstIp : Ipv4Addr) (r : Route) : Prop :=
  (∃ key, r ∈ t.entry key) ∧ r.active = true ∧ r.cidr.Covers dstIp

/-- A candidate of greatest prefix length and, among those, least metric. -/
def RouteTable.Best (t : RouteTable) (dstIp : Ipv4Addr) (r : Route) : Prop :=
  t.Candidate dstIp r ∧ ∀ r', t.Candidate dstIp r' → r'.cidr.prefixLen ≤ r.cidr.prefixLen ∧
    (r'.cidr.prefixLen = r.cidr.prefixLen → r.metric ≤ r'.metric)

/-- Longest-prefix match with the default route as the last resort. -/
def RouteTable.LongestPrefixMatch (t : RouteTable) (dstIp : Ipv4Addr) : Option Route → Prop
  | some r => t.Best dstIp r ∨ ((∀ r', ¬ t.Candidate dstIp r') ∧ t.defaultRoute = some r)
  | none => (∀ r', ¬ t.Candidate dstIp r') ∧ t.defaultRoute = none

/-- The routes that the scan compares: the first active one of each key that contains the
address. -/
def RouteTable.scanned (N : Ipnet) (t : RouteTable) (dstIp : Ipv4Addr) : List Route :=
  t.routes.toList.filterMap
    (fun e => (e.2.find? (·.active)).filter (fun r => N.contains r.cidr dstIp))

theorem RouteTable.entry_of_mem {t : RouteTable} {e : String × List Route}
    (h : e ∈ t.routes.toList) : t.entry e.1 = e.2 := by
  have he := Std.TreeMap.mem_toList_iff_getElem?_eq_some.mp h
  rw [RouteTable.entry, he, Option.getD_some]

theorem RouteTable.mem_toList_of_mem {t : RouteTable} (h : r ∈ t.entry key) :
    (key, t.entry key) ∈ t.routes.toList := by
  rw [Std.TreeMap.mem_toList_iff_getElem?_eq_some]
  unfold RouteTable.entry at h ⊢
  cases hl : t.routes[key]? with
  | none =>
    rw [hl] at h
    cases h
  | some l => rfl

theorem RouteTable.mem_scanned {t : RouteTable} : r ∈ t.scanned N dst ↔
    ∃ key, (t.entry key).find? (·.active) = some r ∧ N.contains r.cidr dst = true := by
  simp only [RouteTable.scanned, List.mem_filterMap, Option.filter_eq_some_iff]
  constructor
  · intro ⟨e, he, hf, hc⟩
    rw [← RouteTable.entry_of_mem he] at hf
    exact ⟨e.1, hf, hc⟩
  · intro ⟨key, hf, hc⟩
    exact ⟨_, RouteTable.mem_toList_of_mem (List.mem_of_find?_eq_some hf), hf, hc⟩

theorem scanEntry_eq (hN : N.Lawful) (hok : EntryOk N e.1 e.2) (best : Option Route × Nat) :
    scanEntry N dst best e =
      match (e.2.find? (·.active)).filter (fun r => N.contains r.cidr dst) with
      | some r => if best.2 < r.cidr.prefixLen then (some r, r.cidr.prefixLen) else best
      | none => best := by
  have hany : e.2.any (·.active) = (e.2.find? (·.active)).isSome := by
    rw [Bool.eq_iff_iff, List.find?_isSome, List.any_eq_true]
  rw [scanEntry, hany]
  cases hf : e.2.find? (·.active) with
  | none =>
    simp only [Option.isSome_none, Bool.and_false, Bool.false_and, Bool.false_eq_true,
      ↓reduceIte, Option.filter_none]
    split <;> rfl
  | some r =>
    have hp : N.parse e.1 = some r.cidr := by
      rw [← hok.keyed r (List.mem_of_find?_eq_some hf), hN.parse_toString]
    rw [hp]
    by_cases hc : N.contains r.cidr dst = true
    · simp only [hc, Option.isSome_some, Bool.and_true, Bool.true_and, decide_eq_true_eq,
        Option.filter_some, ↓reduceIte]
    · simp only [hc, Option.filter_some, Bool.false_and, Bool.false_eq_true, ↓reduceIte]

theorem RouteTable.lookup_eq (hN : N.Lawful) {t : RouteTable} (hok : t.Ok N) (dst : Ipv4Addr) :
    t.lookup N dst =
      (scanMax (fun r => r.cidr.prefixLen) (t.scanned N dst)).1.or t.defaultRoute := by
  have hscan : t.routes.toList.foldl (scanEntry N dst) (none, 0) =
      scanMax (fun r => r.cidr.prefixLen) (t.scanned N dst) := by
    rw [scanMax, RouteTable.scanned, List.foldl_filterMap]
    apply List.foldl_ext
    intro best e he
    have hk := hok e.1
    rw [RouteTable.entry_of_mem he] at hk
    rw [scanEntry_eq hN hk best]
    cases (e.2.find? (·.active)).filter (fun r => N.contains r.cidr dst) <;> rfl
  rw [RouteTable.lookup, hscan]
  cases (scanMax (fun r => r.cidr.prefixLen) (t.scanned N dst)).1 <;> rfl

theorem RouteTable.scanned_candidate {t : RouteTable} (hN : N.Lawful) (h : r ∈ t.scanned N dst) :
    t.Candidate dst r := by
  obtain ⟨key, hf, hc⟩ := RouteTable.mem_scanned.mp h
  have ha := List.find?_some hf
  exact ⟨⟨key, List.mem_of_find?_eq_some hf⟩, ha, (hN.contains_iff _ _).mp hc⟩

/-- Every candidate is represented in the scan by one of its network that costs no more. -/
theorem RouteTable.Candidate.represented {t : RouteTable} (hN : N.Lawful) (hok : t.Ok N)
    (h : t.Candidate dst r) :
    ∃ r₀ ∈ t.scanned N dst, r₀.cidr = r.cidr ∧ r₀.metric ≤ r.metric := by
  obtain ⟨⟨key, hr⟩, ha, hc⟩ := h
  have hany : ((t.entry key).find? (·.active)).isSome := List.find?_isSome.mpr ⟨r, hr, ha⟩
  obtain ⟨r₀, hf⟩ := Option.isSome_iff_exists.mp hany
  have hcidr : r₀.cidr = r.cidr := by
    apply hN.toString_injective
    rw [(hok key).keyed r hr, (hok key).keyed r₀ (List.mem_of_find?_eq_some hf)]
  have hcontains : N.contains r₀.cidr dst = true := by
    rw [hcidr]
    exact (hN.contains_iff _ _).mpr hc
  exact ⟨r₀, RouteTable.mem_scanned.mpr ⟨key, hf, hcontains⟩, hcidr,
    find?_sorted_le (hok key).sorted hf hr ha⟩

theorem RouteTable.scanned_sorted {t : RouteTable} (hok : t.Ok N) (dst : Ipv4Addr) :
    (t.scanned N dst).Pairwise (fun r r' => N.toString r.cidr < N.toString r'.cidr) := by
  rw [RouteTable.scanned, List.pairwise_filterMap]
  apply List.Pairwise.imp_of_mem _ (Std.TreeMap.ordered_keys_toList (t := t.routes))
  intro e e' he he' hlt r hr r' hr'
  have hkey : ∀ {e : String × List Route} {r : Route}, e ∈ t.routes.toList →
      (e.2.find? (·.active)).filter (fun r => N.contains r.cidr dst) = some r →
      N.toString r.cidr = e.1 := by
    intro e r he hr
    have hm := List.mem_of_find?_eq_some (Option.filter_eq_some_iff.mp hr).1
    rw [← RouteTable.entry_of_mem he] at hm
    exact (hok e.1).keyed r hm
  rw [hkey he hr, hkey he' hr']
  exact compareOfLessAndEq_eq_lt.mp hlt

/-- The tables and addresses for which the scan is right: nothing to find, or a best match of
positive prefix length whose network is the first in print among the candidates of that length,
or a best match of length 0 that the default route repeats. -/
def RouteTable.LookupDecides (N : Ipnet) (t : RouteTable) (dstIp : Ipv4Addr) : Prop :=
  (∀ r, ¬ t.Candidate dstIp r) ∨ ∃ r, t.Best dstIp r ∧
    ((0 < r.cidr.prefixLen ∧ ∀ r', t.Candidate dstIp r' →
        r'.cidr.prefixLen = r.cidr.prefixLen → N.toString r.cidr ≤ N.toString r'.cidr) ∨
      (r.cidr.prefixLen = 0 ∧ t.defaultRoute = some r))

section Lookup
variable {t : RouteTable} (hN : N.Lawful) (hok : t.Ok N)
include hN hok

theorem RouteTable.scan_none (h : (scanMax (fun r => r.cidr.prefixLen) (t.scanned N dst)).1 = none)
    (hr : t.Candidate dst r) : r.cidr.prefixLen = 0 := by
  obtain ⟨r₀, hr₀, hcidr, -⟩ := hr.represented hN hok
  rw [← hcidr]
  exact scanMax_eq_none h r₀ hr₀

/-- The route that the scan finds has the greatest prefix length, and its network is printed
first among the candidates of that length. -/
theorem RouteTable.scan_some
    (h : (scanMax (fun r => r.cidr.prefixLen) (t.scanned N dst)).1 = some x) :
    t.Candidate dst x ∧ 0 < x.cidr.prefixLen ∧
      ∀ r, t.Candidate dst r → r.cidr.prefixLen ≤ x.cidr.prefixLen ∧
        (r.cidr.prefixLen = x.cidr.prefixLen →
          (r.cidr = x.cidr ∧ x.metric ≤ r.metric) ∨ N.toString x.cidr < N.toString r.cidr) := by
  obtain ⟨hpos, hmax⟩ := scanMax_eq_some h
  refine ⟨RouteTable.scanned_candidate hN hmax.mem, hpos, ?_⟩
  intro r hr
  obtain ⟨r₀, hr₀, hcidr, hm⟩ := hr.represented hN hok
  rw [← hcidr]
  refine ⟨hmax.le hr₀, ?_⟩
  intro he
  rcases hmax.precedes (RouteTable.scanned_sorted hok dst) hr₀ he with hx | hlt
  · rw [hx] at hm ⊢
    exact Or.inl ⟨rfl, hm⟩
  · exact Or.inr hlt

theorem RouteTable.lookup_lpm_of_decides (h : t.LookupDecides N dst) :
    t.LongestPrefixMatch dst (t.lookup N dst) := by
  rw [RouteTable.lookup_eq hN hok]
  cases hs : (scanMax (fun r => r.cidr.prefixLen) (t.scanned N dst)).1 with
  | none =>
    rw [Option.none_or]
    rcases h with hnone | ⟨r, hr, ⟨hpos, -⟩ | ⟨-, hd⟩⟩
    · cases hd : t.defaultRoute with
      | none => exact ⟨hnone, hd⟩
      | some d => exact Or.inr ⟨hnone, hd⟩
    · have h0 := RouteTable.scan_none hN hok hs hr.1
      omega
    · rw [hd]
      exact Or.inl hr
  | some x =>
    rw [Option.some_or]
    obtain ⟨hx, hpos, hmax⟩ := RouteTable.scan_some hN hok hs
    rcases h with hnone | ⟨r, ⟨hr, hbest⟩, hcase⟩
    · exact (hnone x hx).elim
    · have hlen : r.cidr.prefixLen = x.cidr.prefixLen :=
        Nat.le_antisymm (hmax r hr).1 (hbest x hx).1
      rcases hcase with ⟨-, hfirst⟩ | ⟨h0, -⟩
      · -- the best match lies in the network printed first, where `x` costs least
        have hxr : x.metric ≤ r.metric := by
          rcases (hmax r hr).2 hlen with ⟨-, hm⟩ | hlt
          · exact hm
          · exact (String.not_le.mpr hlt (hfirst x hx hlen.symm)).elim
        exact Or.inl ⟨hx, fun r' hr' => ⟨(hmax r' hr').1,
          fun he => hxr.trans ((hbest r' hr').2 (he.trans hlen.symm))⟩⟩
      · omega

theorem RouteTable.decides_of_lookup_lpm (h : t.LongestPrefixMatch dst (t.lookup N dst)) :
    t.LookupDecides N dst := by
  rw [RouteTable.lookup_eq hN hok] at h
  cases hs : (scanMax (fun r => r.cidr.prefixLen) (t.scanned N dst)).1 with
  | none =>
    rw [hs, Option.none_or] at h
    cases hd : t.defaultRoute with
    | none =>
      rw [hd] at h
      exact Or.inl h.1
    | some d =>
      rw [hd] at h
      rcases h with hbest | ⟨hnone, -⟩
      · exact Or.inr ⟨d, hbest, Or.inr ⟨RouteTable.scan_none hN hok hs hbest.1, hd⟩⟩
      · exact Or.inl hnone
  | some x =>
    rw [hs, Option.some_or] at h
    obtain ⟨hx, hpos, hmax⟩ := RouteTable.scan_some hN hok hs
    rcases h with hbest | ⟨hnone, -⟩
    · have hfirst : ∀ r, t.Candidate dst r → r.cidr.prefixLen = x.cidr.prefixLen →
          N.toString x.cidr ≤ N.toString r.cidr := by
        intro r hr hlen
        rcases (hmax r hr).2 hlen with ⟨he, -⟩ | hlt
        · simp only [he, String.le_refl]
        · exact String.not_lt.mp (String.lt_asymm hlt)
      exact Or.inr ⟨x, hbest, Or.inl ⟨hpos, hfirst⟩⟩
    · exact (hnone x hx).elim

end Lookup

/-- After every run, the lookup is a longest-prefix match exactly where the scan decides it. -/
theorem lookup_longestPrefixMatch_iff (hN : N.Lawful) (ops : List RouteOp) (dstIp : Ipv4Addr) :
    (RouteTable.new.run N ops).LongestPrefixMatch dstIp
        ((RouteTable.new.run N ops).lookup N dstIp) ↔
      (RouteTable.new.run N ops).LookupDecides N dstIp :=
  ⟨RouteTable.decides_of_lookup_lpm hN (RouteTable.run_ok N ops),
    RouteTable.lookup_lpm_of_decides hN (RouteTable.run_ok N ops)⟩

def directRoute (addr : Ipv4Addr) (prefixLen : Nat) (h : prefixLen ≤ 32) (peerId : String)
    (metric : Nat) : Route :=
  ⟨⟨addr, prefixLen, h⟩, peerId, metric, 1, .direct, true, 0, none⟩

def nestedRoutes : List RouteOp :=
  [.addRoute (directRoute 0x64400100#32 24 (by decide) "a" 10),
    .addRoute (directRoute 0x64400000#32 16 (by decide) "b" 10)]

theorem lookup_longestPrefixMatch_iff_nested :
    (RouteTable.new.run dottedIpnet nestedRoutes).LongestPrefixMatch 0x64400105#32
        ((RouteTable.new.run dottedIpnet nestedRoutes).lookup dottedIpnet 0x64400105#32) ↔
      (RouteTable.new.run dottedIpnet nestedRoutes).LookupDecides dottedIpnet 0x64400105#32 :=
  lookup_longestPrefixMatch_iff dottedIpnet_lawful _ _

def wholeInternet : Route := directRoute 0#32 0 (by decide) "gateway" 10

/-- Two spellings of 10.0.0.0/24, the cheaper one printed later. -/
def spelledTwice : List RouteOp :=
  [.addRoute (directRoute 0x0a000001#32 24 (by decide) "a" 20),
    .addRoute (directRoute 0x0a000002#32 24 (by decide) "b" 10)]

/-- A stored route to 0.0.0.0/0 is never found, and of two spellings of one network the first
in print is found even where it costs more. -/
theorem lookup_misses_best_route :
    ¬ (RouteTable.new.run dottedIpnet [.addRoute wholeInternet]).LongestPrefixMatch 0x08080808#32
        ((RouteTable.new.run dottedIpnet [.addRoute wholeInternet]).lookup dottedIpnet
          0x08080808#32) ∧
      ¬ (RouteTable.new.run dottedIpnet spelledTwice).LongestPrefixMatch 0x0a000005#32
        ((RouteTable.new.run dottedIpnet spelledTwice).lookup dottedIpnet 0x0a000005#32) := by
  constructor
  · intro h
    have hl : (RouteTable.new.run dottedIpnet [.addRoute wholeInternet]).lookup dottedIpnet
        0x08080808#32 = none := by decide +kernel
    rw [hl] at h
    apply h.1 wholeInternet
    exact ⟨⟨"0.0.0.0/0", by decide +kernel⟩, rfl, by decide⟩
  · intro h
    have hl : (RouteTable.new.run dottedIpnet spelledTwice).lookup dottedIpnet 0x0a000005#32 =
        some (directRoute 0x0a000001#32 24 (by decide) "a" 20) := by decide +kernel
    have hc : (RouteTable.new.run dottedIpnet spelledTwice).Candidate 0x0a000005#32
        (directRoute 0x0a000002#32 24 (by decide) "b" 10) :=
      ⟨⟨"10.0.0.2/24", by decide +kernel⟩, rfl, by decide⟩
    rw [hl] at h
    rcases h with h | h
    · exact absurd ((h.2 _ hc).2 rfl) (by decide)
    · exact h.1 _ hc

end P2PMesh.Router
