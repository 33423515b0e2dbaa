import Mathlib.Data.List.MinMax
import P2PMesh.Base.Net
import P2PMesh.Base.Run
import P2PMesh.Base.Table

namespace P2PMesh.Babel
open P2PMesh.Base
set_option autoImplicit true

abbrev SeqNo := UInt16
abbrev RouterId := UInt64
abbrev FeasibilityDistance := UInt32
abbrev BabelMetric := UInt16

def babelInfinity : BabelMetric := 0xFFFF

/-- A neighbor; instants and durations are counted in nanoseconds. -/
structure BabelNeighbor where
  routerId : RouterId
  addr : SocketAddr
  lastHello : Nat
  lastIhu : Nat
  rxcost : UInt16
  reachable : Bool
  helloInterval : Nat
  seqno : SeqNo
deriving DecidableEq

structure BabelRoute where
  destPrefix : Ipv4Net
  routerId : RouterId
  nextHop : RouterId
  metric : BabelMetric
  feasibilityDistance : FeasibilityDistance
  seqno : SeqNo
  selected : Bool
  updated : Nat
  expires : Nat
  retracted : Bool
deriving DecidableEq

structure BabelProtocol where
  routerId : RouterId
  neighbors : Std.TreeMap RouterId BabelNeighbor
  routeTable : Std.TreeMap Ipv4Net (List BabelRoute)
  selectedRoutes : Std.TreeMap Ipv4Net BabelRoute
  seqno : SeqNo
  helloInterval : Nat
  ihuInterval : Nat
  holdTime : Nat

def BabelProtocol.new (routerId : RouterId) : BabelProtocol :=
  ⟨routerId, ∅, ∅, ∅, 0, 4000000000, 4000000000, 20000000000⟩

inductive BabelMsgType where
  | hello
  | ihu
  | update
  | request
deriving DecidableEq

structure BabelMessage where
  msgType : BabelMsgType
  routerId : RouterId
  seqno : SeqNo
  destPrefix : Option Ipv4Net
  metric : BabelMetric
  feasibilityDistance : FeasibilityDistance
  interval : Nat
deriving DecidableEq

section Building
variable (b : BabelProtocol)

def BabelProtocol.buildHello : BabelMessage :=
  ⟨.hello, b.routerId, 0, none, 0, 0, b.helloInterval⟩

def BabelProtocol.buildIhu (rxcost : UInt16) : BabelMessage :=
  ⟨.ihu, b.routerId, 0, none, rxcost, 0, b.ihuInterval⟩

/-- Each update takes the next sequence number, which wraps after 65535. -/
def BabelProtocol.buildUpdate (destPrefix : Ipv4Net) (metric : BabelMetric)
    (feasibilityDistance : FeasibilityDistance) : BabelProtocol × BabelMessage :=
  let seqno := b.seqno + 1
  ({ b with seqno := seqno },
    ⟨.update, b.routerId, seqno, some destPrefix, metric, feasibilityDistance, b.helloInterval⟩)

end Building

section Processing
variable (b : BabelProtocol)

def BabelProtocol.processHello (neighborId : RouterId) (neighborAddr : SocketAddr)
    (interval now : Nat) : BabelProtocol :=
  let neighbor := (b.neighbors[neighborId]?).getD
    ⟨neighborId, neighborAddr, now, now, 0, false, interval, 0⟩
  let expectedHellos := UInt16.ofNat (neighbor.helloInterval / 1000000000)
  let neighbor :=
    { neighbor with
      lastHello := now
      addr := neighborAddr
      rxcost := 65535 / max expectedHellos 1 }
  { b with neighbors := b.neighbors.insert neighborId neighbor }

def BabelProtocol.processIhu (neighborId : RouterId) (rxcost : UInt16) (now : Nat) :
    BabelProtocol :=
  match b.neighbors[neighborId]? with
  | none => b
  | some neighbor =>
    let neighbor := { neighbor with reachable := true, lastIhu := now, rxcost := rxcost }
    { b with neighbors := b.neighbors.insert neighborId neighbor }

/-- The routes that the table has for a prefix. -/
def BabelProtocol.prefixRoutes (destPrefix : Ipv4Net) : List BabelRoute :=
  (b.routeTable[destPrefix]?).getD []

/-- The update has a smaller distance or a larger sequence number than the route that the table
has of its router. -/
def isFeasible (msg : BabelMessage) (prefixRoutes : List BabelRoute) : Bool :=
  (prefixRoutes.filter (fun r => r.routerId = msg.routerId)).any (fun r =>
    msg.feasibilityDistance < r.feasibilityDistance || r.seqno < msg.seqno)

def newRoute (holdTime : Nat) (msg : BabelMessage) (destPrefix : Ipv4Net) (now : Nat) :
    BabelRoute where
  destPrefix := destPrefix
  routerId := msg.routerId
  nextHop := msg.routerId
  metric := msg.metric
  feasibilityDistance := msg.feasibilityDistance
  seqno := msg.seqno
  selected := false
  updated := now
  expires := now + holdTime
  retracted := false

/-- The first of the routes of least metric that are not retracted. -/
def bestRoute (prefixRoutes : List BabelRoute) : Option BabelRoute :=
  (prefixRoutes.filter (fun r => r.retracted = false)).argmin (fun r => r.metric.toNat)

def otherRoutes (routerId : RouterId) (prefixRoutes : List BabelRoute) : List BabelRoute :=
  prefixRoutes.filter (fun r => r.routerId ≠ routerId)

def BabelProtocol.withRoutes (destPrefix : Ipv4Net) (prefixRoutes : List BabelRoute) :
    BabelProtocol :=
  { b with routeTable := b.routeTable.insert destPrefix prefixRoutes }

/-- An update that carries a prefix; looking the prefix up makes an entry for it. -/
def BabelProtocol.updatePrefix (msg : BabelMessage) (destPrefix : Ipv4Net) (now : Nat) :
    BabelProtocol × List BabelRoute :=
  let prefixRoutes := b.prefixRoutes destPrefix
  if msg.metric = babelInfinity then
    let remaining := otherRoutes msg.routerId prefixRoutes
    let b := b.withRoutes destPrefix remaining
    (if remaining.isEmpty then
      { b with selectedRoutes := b.selectedRoutes.erase destPrefix }
    else b, [])
  else if !isFeasible msg prefixRoutes && !prefixRoutes.isEmpty then
    (b.withRoutes destPrefix prefixRoutes, prefixRoutes)
  else
    let prefixRoutes := otherRoutes msg.routerId prefixRoutes ++
      [newRoute b.holdTime msg destPrefix now]
    let b := b.withRoutes destPrefix prefixRoutes
    match bestRoute prefixRoutes with
    | none => (b, prefixRoutes)
    | some best =>
      ({ b with
        selectedRoutes := b.selectedRoutes.insert destPrefix { best with selected := true } },
        prefixRoutes)

def BabelProtocol.processUpdate (msg : BabelMessage) (now : Nat) :
    BabelProtocol × List BabelRoute :=
  match msg.destPrefix with
  | none => (b, [])
  | some destPrefix => b.updatePrefix msg destPrefix now

def BabelProtocol.processMessage (msg : BabelMessage) (fromAddr : SocketAddr) (now : Nat) :
    BabelProtocol × Option (List BabelRoute) :=
  match msg.msgType with
  | .hello => (b.processHello msg.routerId fromAddr msg.interval now, none)
  | .ihu => (b.processIhu msg.routerId msg.metric now, none)
  | .update => ((b.processUpdate msg now).1, some (b.processUpdate msg now).2)
  | .request => (b, none)

/-- The routes that the data plane uses. -/
def BabelProtocol.getRoutingTable : List BabelRoute := b.selectedRoutes.toList.map (·.2)

def BabelRoute.retractVia (neighborId : RouterId) (r : BabelRoute) : BabelRoute :=
  if r.nextHop = neighborId then { r with retracted := true } else r

def BabelProtocol.removeNeighbor (neighborId : RouterId) : BabelProtocol :=
  { b with
    neighbors := b.neighbors.erase neighborId
    routeTable := b.routeTable.map (fun _ routes => routes.map (BabelRoute.retractVia neighborId)) }

end Processing

/-- What a node goes through: messages that it processes, and neighbors that it loses. -/
inductive BabelOp where
  | message (msg : BabelMessage) (fromAddr : SocketAddr) (now : Nat)
  | removeNeighbor (neighborId : RouterId)

def BabelProtocol.step (b : BabelProtocol) : BabelOp → BabelProtocol
  | .message msg fromAddr now => (b.processMessage msg fromAddr now).1
  | .removeNeighbor neighborId => b.removeNeighbor neighborId

def BabelProtocol.run (b : BabelProtocol) (ops : List BabelOp) : BabelProtocol :=
  ops.foldl BabelProtocol.step b

/-- The network 100.64.0.0/14. -/
def babelNet : Ipv4Net := ⟨100 <<< 24 ||| 64 <<< 16, 14, by decide⟩

def routeUpdate (routerId : RouterId) (seqno : SeqNo) (metric : BabelMetric)
    (feasibilityDistance : FeasibilityDistance) (now : Nat) : BabelOp :=
  .message ⟨.update, routerId, seqno, some babelNet, metric, feasibilityDistance, 4000000000⟩
    ⟨.v4 1, 9999⟩ now

/-- The message is an update for the prefix. -/
def BabelMessage.IsUpdate (msg : BabelMessage) (p : Ipv4Net) : Prop :=
  msg.msgType = .update ∧ msg.destPrefix = some p

/-- The routes of a prefix after an update of it is taken up. -/
def BabelProtocol.routesWith (b : BabelProtocol) (msg : BabelMessage) (p : Ipv4Net) (now : Nat) :
    List BabelRoute :=
  otherRoutes msg.routerId (b.prefixRoutes p) ++ [newRoute b.holdTime msg p now]

/-- What a step makes of the routes of a prefix and of the selected one. -/
inductive BabelProtocol.Turn (b : BabelProtocol) (p : Ipv4Net) :
    BabelOp → List BabelRoute → Option BabelRoute → Prop where
  | idle (hidle : ¬ msg.IsUpdate p) :
    Turn b p (.message msg fromAddr now) (b.prefixRoutes p) b.selectedRoutes[p]?
  | retracted (hupdate : msg.IsUpdate p) (hmetric : msg.metric = babelInfinity) :
    Turn b p (.message msg fromAddr now) (otherRoutes msg.routerId (b.prefixRoutes p))
      (if otherRoutes msg.routerId (b.prefixRoutes p) = [] then none else b.selectedRoutes[p]?)
  | refused (hupdate : msg.IsUpdate p) (hmetric : msg.metric ≠ babelInfinity)
    (hfeasible : isFeasible msg (b.prefixRoutes p) = false) (hsome : b.prefixRoutes p ≠ []) :
    Turn b p (.message msg fromAddr now) (b.prefixRoutes p) b.selectedRoutes[p]?
  | accepted (hupdate : msg.IsUpdate p) (hmetric : msg.metric ≠ babelInfinity)
    (hfeasible : isFeasible msg (b.prefixRoutes p) = true ∨ b.prefixRoutes p = [])
    (hbest : bestRoute (b.routesWith msg p now) = some best) :
    Turn b p (.message msg fromAddr now) (b.routesWith msg p now)
      (some { best with selected := true })
  | removed : Turn b p (.removeNeighbor neighborId)
      ((b.prefixRoutes p).map (BabelRoute.retractVia neighborId)) b.selectedRoutes[p]?

section Turns
variable {b : BabelProtocol} {p : Ipv4Net} {now : Nat}

theorem mem_otherRoutes : r ∈ otherRoutes routerId l ↔ r ∈ l ∧ r.routerId ≠ routerId := by
  rw [otherRoutes, List.mem_filter, decide_eq_true_eq]

theorem retractVia_eq (neighborId : RouterId) (r : BabelRoute) :
    r.retractVia neighborId = { r with retracted := r.retracted || r.nextHop = neighborId } := by
  rw [BabelRoute.retractVia]
  split
  · next h => rw [h, decide_eq_true rfl, Bool.or_true]
  · next h => rw [decide_eq_false h, Bool.or_false]

@[simp] theorem prefixRoutes_new (routerId : RouterId) (p : Ipv4Net) :
    (BabelProtocol.new routerId).prefixRoutes p = [] := by
  rw [BabelProtocol.prefixRoutes, BabelProtocol.new, Std.TreeMap.getElem?_emptyc]
  rfl

theorem prefixRoutes_withRoutes (b : BabelProtocol) (q : Ipv4Net) (l : List BabelRoute) :
    (b.withRoutes q l).prefixRoutes p = if q = p then l else b.prefixRoutes p := by
  rw [BabelProtocol.prefixRoutes, BabelProtocol.withRoutes, getElem?_insert_eq]
  split <;> rfl

theorem mem_bestRoute (h : bestRoute l = some best) : best ∈ l ∧ best.retracted = false := by
  have hmem := List.mem_filter.mp (List.argmin_mem (Option.mem_def.mpr h))
  exact ⟨hmem.1, of_decide_eq_true hmem.2⟩

theorem bestRoute_le (h : bestRoute l = some best) (hr : r ∈ l) (hret : r.retracted = false) :
    best.metric ≤ r.metric := by
  have hmem : r ∈ l.filter (fun r => r.retracted = false) :=
    List.mem_filter.mpr ⟨hr, decide_eq_true hret⟩
  have hle : best.metric.toNat ≤ r.metric.toNat :=
    List.le_of_mem_argmin (f := fun r : BabelRoute => r.metric.toNat) hmem (Option.mem_def.mpr h)
  exact UInt16.le_iff_toNat_le.mpr hle

theorem bestRoute_eq_none : bestRoute l = none ↔ ∀ r ∈ l, r.retracted = true := by
  rw [bestRoute, List.argmin_eq_none, List.filter_eq_nil_iff]
  simp

theorem exists_bestRoute (b : BabelProtocol) (msg : BabelMessage) (p : Ipv4Net) (now : Nat) :
    ∃ best, bestRoute (b.routesWith msg p now) = some best := by
  rw [← Option.ne_none_iff_exists']
  intro hnone
  have hret := bestRoute_eq_none.mp hnone (newRoute b.holdTime msg p now)
    (List.mem_append_right _ List.mem_cons_self)
  cases hret

theorem updatePrefix_of_ne (msg : BabelMessage) (h : q ≠ p) :
    (b.updatePrefix msg q now).1.prefixRoutes p = b.prefixRoutes p ∧
      (b.updatePrefix msg q now).1.selectedRoutes[p]? = b.selectedRoutes[p]? := by
  have hroutes : ∀ l, (b.withRoutes q l).prefixRoutes p = b.prefixRoutes p :=
    fun l => (prefixRoutes_withRoutes b q l).trans (if_neg h)
  simp only [BabelProtocol.updatePrefix]
  split
  · split
    · exact ⟨hroutes _, getElem?_erase_of_ne _ h⟩
    · exact ⟨hroutes _, rfl⟩
  · split
    · exact ⟨hroutes _, rfl⟩
    · split
      · exact ⟨hroutes _, rfl⟩
      · exact ⟨hroutes _, getElem?_insert_of_ne _ _ h⟩

theorem updatePrefix_turn (hupdate : msg.IsUpdate p) :
    b.Turn p (.message msg fromAddr now) ((b.updatePrefix msg p now).1.prefixRoutes p)
      (b.updatePrefix msg p now).1.selectedRoutes[p]? := by
  have hroutes : ∀ l, (b.withRoutes p l).prefixRoutes p = l :=
    fun l => (prefixRoutes_withRoutes b p l).trans (if_pos rfl)
  simp only [BabelProtocol.updatePrefix]
  split
  · next hm =>
    have hturn : b.Turn p (.message msg fromAddr now) _ _ := .retracted hupdate hm
    split
    · next hempty =>
      rw [if_pos (List.isEmpty_iff.mp hempty)] at hturn
      have hsel : (b.selectedRoutes.erase p)[p]? = none := Std.TreeMap.getElem?_erase_self
      rw [← hroutes (otherRoutes msg.routerId (b.prefixRoutes p)), ← hsel] at hturn
      exact hturn
    · next hne =>
      rw [if_neg (fun he => hne (List.isEmpty_iff.mpr he))] at hturn
      rw [hroutes]
      exact hturn
  · next hm =>
    split
    · next hskip =>
      rw [Bool.and_eq_true, Bool.not_eq_true', Bool.not_eq_true', List.isEmpty_eq_false_iff]
        at hskip
      rw [hroutes]
      exact .refused hupdate hm hskip.1 hskip.2
    · next htake =>
      have hfeasible : isFeasible msg (b.prefixRoutes p) = true ∨ b.prefixRoutes p = [] := by
        rw [Bool.and_eq_true, Bool.not_eq_true', Bool.not_eq_true', List.isEmpty_eq_false_iff,
          not_and_or, Bool.not_eq_false, not_not] at htake
        exact htake
      obtain ⟨best, hbest⟩ := exists_bestRoute b msg p now
      have hbest' : bestRoute (otherRoutes msg.routerId (b.prefixRoutes p) ++
          [newRoute b.holdTime msg p now]) = some best := hbest
      have hsel : (b.selectedRoutes.insert p { best with selected := true })[p]? =
          some { best with selected := true } := Std.TreeMap.getElem?_insert_self
      have hturn : b.Turn p (.message msg fromAddr now) (b.routesWith msg p now) _ :=
        .accepted hupdate hm hfeasible hbest
      rw [← hsel, ← hroutes (b.routesWith msg p now)] at hturn
      rw [hbest']
      exact hturn

theorem BabelProtocol.step_turn (b : BabelProtocol) (op : BabelOp) (p : Ipv4Net) :
    b.Turn p op ((b.step op).prefixRoutes p) (b.step op).selectedRoutes[p]? := by
  cases op with
  | removeNeighbor neighborId =>
    have hroutes : (b.removeNeighbor neighborId).prefixRoutes p =
        (b.prefixRoutes p).map (BabelRoute.retractVia neighborId) := by
      rw [BabelProtocol.prefixRoutes, BabelProtocol.removeNeighbor, Std.TreeMap.getElem?_map,
        BabelProtocol.prefixRoutes]
      cases b.routeTable[p]? <;> rfl
    rw [BabelProtocol.step, hroutes]
    exact .removed
  | message msg fromAddr now =>
    rw [BabelProtocol.step, BabelProtocol.processMessage]
    cases htype : msg.msgType with
    | update =>
      rw [BabelProtocol.processUpdate]
      cases hprefix : msg.destPrefix with
      | none =>
        apply BabelProtocol.Turn.idle
        rintro ⟨-, hp⟩
        cases hprefix.symm.trans hp
      | some q =>
        by_cases hq : q = p
        · cases hq
          exact updatePrefix_turn ⟨htype, hprefix⟩
        · obtain ⟨hroutes, hsel⟩ := updatePrefix_of_ne msg hq
          rw [hroutes, hsel]
          apply BabelProtocol.Turn.idle
          rintro ⟨-, hp⟩
          cases hprefix.symm.trans hp
          exact hq rfl
    | hello => exact .idle (fun hupdate => nomatch htype.symm.trans hupdate.1)
    | ihu =>
      have hidle : b.Turn p (.message msg fromAddr now) (b.prefixRoutes p) b.selectedRoutes[p]? :=
        .idle (fun hupdate => nomatch htype.symm.trans hupdate.1)
      simp only [BabelProtocol.processIhu]
      split <;> exact hidle
    | request => exact .idle (fun hupdate => nomatch htype.symm.trans hupdate.1)

end Turns

end P2PMesh.Babel
