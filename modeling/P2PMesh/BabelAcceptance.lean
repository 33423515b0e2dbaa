import P2PMesh.BabelFeasibility

namespace P2PMesh.Babel
open P2PMesh.Base
set_option autoImplicit true

/-- What a router advertises with one update, and how the update arrives. -/
structure Advert where
  destPrefix : Ipv4Net
  metric : BabelMetric
  feasibilityDistance : FeasibilityDistance
  fromAddr : SocketAddr
  now : Nat

def BabelProtocol.advertise (s : BabelProtocol) (u : Advert) : BabelProtocol × BabelMessage :=
  s.buildUpdate u.destPrefix u.metric u.feasibilityDistance

/-- The updates that a router builds one after the other. -/
def BabelProtocol.built : BabelProtocol → List Advert → List BabelMessage
  | _, [] => []
  | s, u :: us => (s.advertise u).2 :: (s.advertise u).1.built us

/-- Their arrival at another node, in their order. -/
def BabelProtocol.delivered : BabelProtocol → List Advert → List BabelOp
  | _, [] => []
  | s, u :: us =>
    .message (s.advertise u).2 u.fromAddr u.now :: (s.advertise u).1.delivered us

/-- An update that does not retract is accepted. -/
def BabelProtocol.TakesUp (b : BabelProtocol) : BabelOp → Prop
  | .message msg _ _ => msg.metric ≠ babelInfinity → b.accepts msg = true
  | .removeNeighbor _ => True

/-- The last update of a router for a prefix. -/
def lastAbout (p : Ipv4Net) (routerId : RouterId) (history : List BabelMessage) :
    Option BabelMessage :=
  (history.filter (fun msg => msg.About p routerId)).getLast?

/-- An update has a larger number or a smaller distance than the router's previous one for the
prefix; after a retraction, other routers have no routes for it; and if it is the first since
the node was in state `b`, the routes there allow it. -/
def FreshAfter (b : BabelProtocol) (history : List BabelMessage) (msg : BabelMessage) : Prop :=
  ∀ p, msg.destPrefix = some p →
    match lastAbout p msg.routerId history with
    | none => isFeasible msg (b.prefixRoutes p) = true ∨ b.prefixRoutes p = []
    | some last =>
      if last.metric = babelInfinity then otherRoutes msg.routerId (b.prefixRoutes p) = []
      else msg.feasibilityDistance < last.feasibilityDistance ∨ last.seqno < msg.seqno

/-- The routes of a prefix once the last update of the router for it was taken up. -/
def Mirrors (b₀ : BabelProtocol) (routerId : RouterId) (history : List BabelMessage)
    (b : BabelProtocol) : Prop :=
  ∀ p,
    match lastAbout p routerId history with
    | none => b.prefixRoutes p = b₀.prefixRoutes p
    | some last =>
      if last.metric = babelInfinity then
        b.prefixRoutes p = otherRoutes routerId (b₀.prefixRoutes p)
      else ∃ r : BabelRoute, r.routerId = routerId ∧ r.seqno = last.seqno ∧
        r.feasibilityDistance = last.feasibilityDistance ∧
        b.prefixRoutes p = otherRoutes routerId (b₀.prefixRoutes p) ++ [r]

theorem lastAbout_concat (h : msg.About p routerId) :
    lastAbout p routerId (history ++ [msg]) = some msg := by
  rw [lastAbout, getLast?_filter_concat]
  exact decide_eq_true h

theorem lastAbout_concat_of_not (h : ¬ msg.About p routerId) :
    lastAbout p routerId (history ++ [msg]) = lastAbout p routerId history := by
  rw [lastAbout, lastAbout, getLast?_filter_concat_of_not]
  exact fun hq => h (of_decide_eq_true hq)

theorem otherRoutes_self (l : List BabelRoute) :
    otherRoutes routerId (otherRoutes routerId l) = otherRoutes routerId l := by
  rw [otherRoutes, otherRoutes, List.filter_filter]
  simp

theorem otherRoutes_concat (l : List BabelRoute) {r : BabelRoute} (hr : r.routerId = routerId) :
    otherRoutes routerId (otherRoutes routerId l ++ [r]) = otherRoutes routerId l := by
  rw [otherRoutes, List.filter_append, List.filter_cons_of_neg (by simpa using hr),
    List.filter_nil, List.append_nil]
  exact otherRoutes_self l

theorem not_isFeasible_otherRoutes (l : List BabelRoute) :
    isFeasible msg (otherRoutes msg.routerId l) = false := by
  apply Bool.eq_false_of_not_eq_true
  intro hfeasible
  obtain ⟨r, hr, hid, -⟩ := isFeasible_iff.mp hfeasible
  exact (mem_otherRoutes.mp hr).2 hid

theorem isFeasible_concat (l : List BabelRoute) {r : BabelRoute}
    (hr : r.routerId = msg.routerId) :
    isFeasible msg (otherRoutes msg.routerId l ++ [r]) = true ↔
      msg.feasibilityDistance < r.feasibilityDistance ∨ r.seqno < msg.seqno := by
  rw [isFeasible_iff]
  constructor
  · rintro ⟨r', hr', hid, hor⟩
    rcases List.mem_append.mp hr' with hr' | hr'
    · exact ((mem_otherRoutes.mp hr').2 hid).elim
    · cases List.mem_singleton.mp hr'
      exact hor
  · intro hor
    exact ⟨r, List.mem_append_right _ List.mem_cons_self, hr, hor⟩

theorem accepts_iff_of_update {b : BabelProtocol} (hupdate : msg.IsUpdate p)
    (hmetric : msg.metric ≠ babelInfinity) : b.accepts msg = true ↔
      isFeasible msg (b.prefixRoutes p) = true ∨ b.prefixRoutes p = [] := by
  rw [accepts_iff]
  constructor
  · rintro ⟨q, hq, -, htake⟩
    cases hq.unique hupdate
    exact htake
  · intro htake
    exact ⟨p, hupdate, hmetric, htake⟩

section Mirror
variable {b₀ b : BabelProtocol} {history : List BabelMessage} {msg : BabelMessage}
  {p : Ipv4Net} {routerId : RouterId}

theorem Mirrors.otherRoutes_eq (h : Mirrors b₀ routerId history b) (p : Ipv4Net) :
    otherRoutes routerId (b.prefixRoutes p) = otherRoutes routerId (b₀.prefixRoutes p) := by
  have hp := h p
  split at hp
  · rw [hp]
  · split at hp
    · rw [hp, otherRoutes_self]
    · obtain ⟨r, hr, -, -, hroutes⟩ := hp
      rw [hroutes, otherRoutes_concat _ hr]

/-- The table that mirrors the history accepts an update exactly where it is fresh after it. -/
theorem Mirrors.accepts_iff_fresh (h : Mirrors b₀ msg.routerId history b)
    (hupdate : msg.IsUpdate p) (hmetric : msg.metric ≠ babelInfinity) :
    b.accepts msg = true ↔ FreshAfter b₀ history msg := by
  have hfresh : FreshAfter b₀ history msg ↔
      match lastAbout p msg.routerId history with
      | none => isFeasible msg (b₀.prefixRoutes p) = true ∨ b₀.prefixRoutes p = []
      | some last =>
        if last.metric = babelInfinity then otherRoutes msg.routerId (b₀.prefixRoutes p) = []
        else msg.feasibilityDistance < last.feasibilityDistance ∨ last.seqno < msg.seqno := by
    constructor
    · intro hfresh
      exact hfresh p hupdate.2
    · intro hp q hq
      cases hupdate.2.symm.trans hq
      exact hp
  have hp := h p
  rw [accepts_iff_of_update hupdate hmetric, hfresh]
  split at hp
  · rw [hp]
  · split at hp
    · next hinf =>
      rw [hp, not_isFeasible_otherRoutes, if_pos hinf]
      simp
    · next hfin =>
      obtain ⟨r, hr, hseqno, hdistance, hroutes⟩ := hp
      rw [hroutes, isFeasible_concat _ hr, if_neg hfin, hseqno, hdistance]
      simp

theorem Mirrors.step (h : Mirrors b₀ msg.routerId history b) (htype : msg.msgType = .update)
    (htake : msg.metric ≠ babelInfinity → b.accepts msg = true) :
    Mirrors b₀ msg.routerId (history ++ [msg]) (b.step (.message msg fromAddr now)) := by
  intro p
  have hturn := b.step_turn (.message msg fromAddr now) p
  generalize (b.step (.message msg fromAddr now)).prefixRoutes p = routes at hturn ⊢
  generalize (b.step (.message msg fromAddr now)).selectedRoutes[p]? = sel at hturn
  cases hturn with
  | idle hidle =>
    have hnot : ¬ msg.About p msg.routerId := fun habout => hidle ⟨htype, habout.1⟩
    rw [lastAbout_concat_of_not hnot]
    exact h p
  | retracted hupdate hmetric =>
    have habout : msg.About p msg.routerId := ⟨hupdate.2, rfl⟩
    simp only [lastAbout_concat habout, hmetric, ↓reduceIte]
    exact h.otherRoutes_eq p
  | refused hupdate hmetric hfeasible hsome =>
    rcases (accepts_iff_of_update hupdate hmetric).mp (htake hmetric) with hyes | hyes
    · rw [hfeasible] at hyes
      cases hyes
    · exact (hsome hyes).elim
  | accepted hupdate hmetric =>
    have habout : msg.About p msg.routerId := ⟨hupdate.2, rfl⟩
    simp only [lastAbout_concat habout, hmetric, ↓reduceIte]
    refine ⟨newRoute b.holdTime msg p now, rfl, rfl, rfl, ?_⟩
    rw [BabelProtocol.routesWith, h.otherRoutes_eq p]

end Mirror

theorem guarded_takesUp_iff (us : List Advert) {s b₀ b : BabelProtocol}
    {history : List BabelMessage} (h : Mirrors b₀ s.routerId history b) :
    Guarded BabelProtocol.step BabelProtocol.TakesUp b (s.delivered us) ↔
      ∀ before msg after, s.built us = before ++ msg :: after → msg.metric ≠ babelInfinity →
        FreshAfter b₀ (history ++ before) msg := by
  induction us generalizing s b history with
  | nil =>
    refine iff_of_true trivial ?_
    intro before msg after he
    rw [BabelProtocol.built] at he
    cases before <;> cases he
  | cons u us ih =>
    have hfirst : (s.advertise u).2.metric ≠ babelInfinity →
        (b.accepts (s.advertise u).2 = true ↔ FreshAfter b₀ history (s.advertise u).2) :=
      fun hmetric => Mirrors.accepts_iff_fresh h (p := u.destPrefix) ⟨rfl, rfl⟩ hmetric
    have hrest : ((s.advertise u).2.metric ≠ babelInfinity →
          b.accepts (s.advertise u).2 = true) →
        (Guarded BabelProtocol.step BabelProtocol.TakesUp
          (b.step (.message (s.advertise u).2 u.fromAddr u.now)) ((s.advertise u).1.delivered us) ↔
        ∀ before msg after, (s.advertise u).1.built us = before ++ msg :: after →
          msg.metric ≠ babelInfinity →
          FreshAfter b₀ (history ++ [(s.advertise u).2] ++ before) msg) :=
      fun htake => ih (s := (s.advertise u).1) (Mirrors.step h rfl htake)
    constructor
    · rintro ⟨htake, hg⟩ before msg after he hmetric
      rw [BabelProtocol.built] at he
      cases before with
      | nil =>
        cases he
        rw [List.append_nil]
        exact (hfirst hmetric).mp (htake hmetric)
      | cons m before =>
        obtain ⟨hm, htail⟩ := List.cons_eq_cons.mp he
        rw [← hm, List.append_cons]
        exact (hrest htake).mp hg before msg after htail hmetric
    · intro hfresh
      have htake : (s.advertise u).2.metric ≠ babelInfinity →
          b.accepts (s.advertise u).2 = true := by
        intro hmetric
        have hnow := hfresh [] (s.advertise u).2 ((s.advertise u).1.built us) rfl hmetric
        rw [List.append_nil] at hnow
        exact (hfirst hmetric).mpr hnow
      refine ⟨htake, (hrest htake).mpr ?_⟩
      intro before msg after he hmetric
      have hlater := hfresh ((s.advertise u).2 :: before) msg after
        (by rw [BabelProtocol.built, he]; rfl) hmetric
      rwa [List.append_cons] at hlater

/-- The first update of a router for a prefix is accepted exactly where no router has a route
for it; and the updates that a router builds one after the other are all accepted exactly where
each is fresh after those before it. -/
theorem fresh_updates_accepted_iff (b : BabelProtocol) :
    (∀ (msg : BabelMessage) (p : Ipv4Net), msg.IsUpdate p → msg.metric ≠ babelInfinity →
      (∀ r ∈ b.prefixRoutes p, r.routerId ≠ msg.routerId) →
      (b.accepts msg = true ↔ b.prefixRoutes p = [])) ∧
    ∀ (s : BabelProtocol) (us : List Advert),
      Guarded BabelProtocol.step BabelProtocol.TakesUp b (s.delivered us) ↔
        ∀ before msg after, s.built us = before ++ msg :: after → msg.metric ≠ babelInfinity →
          FreshAfter b before msg := by
  constructor
  · intro msg p hupdate hmetric hfirst
    rw [accepts_iff_of_update hupdate hmetric, or_iff_right]
    intro hfeasible
    obtain ⟨r, hr, hid, -⟩ := isFeasible_iff.mp hfeasible
    exact hfirst r hr hid
  · intro s us
    have hstart : Mirrors b s.routerId [] b := fun _ => rfl
    exact guarded_takesUp_iff us hstart

theorem fresh_updates_accepted_iff_new :
    (BabelProtocol.new 100).accepts ⟨.update, 1, 1, some babelNet, 10, 5, 4000000000⟩ = true := by
  have hfirst := (fresh_updates_accepted_iff (.new 100)).1
    ⟨.update, 1, 1, some babelNet, 10, 5, 4000000000⟩ babelNet ⟨rfl, rfl⟩ (by decide)
  apply (hfirst ?_).mpr (prefixRoutes_new 100 babelNet)
  intro r hr
  rw [prefixRoutes_new] at hr
  cases hr

theorem built_concat (s : BabelProtocol) (us : List Advert) (u : Advert) :
    s.built (us ++ [u]) = s.built us ++
      [⟨.update, s.routerId, s.seqno + UInt16.ofNat (us.length + 1), some u.destPrefix, u.metric,
        u.feasibilityDistance, s.helloInterval⟩] := by
  induction us generalizing s with
  | nil => rfl
  | cons u' us ih =>
    have hseqno : s.seqno + 1 + UInt16.ofNat (us.length + 1) =
        s.seqno + UInt16.ofNat ((u' :: us).length + 1) := by
      rw [List.length_cons, UInt16.add_assoc, UInt16.ofNat_add (us.length + 1) 1,
        UInt16.add_comm 1]
      rfl
    rw [List.cons_append, BabelProtocol.built, ih, BabelProtocol.built, List.cons_append,
      ← hseqno]
    rfl

theorem lastAbout_built (s : BabelProtocol) (us : List Advert) (u : Advert) :
    lastAbout u.destPrefix s.routerId (s.built (us ++ [u])) =
      some ⟨.update, s.routerId, s.seqno + UInt16.ofNat (us.length + 1), some u.destPrefix,
        u.metric, u.feasibilityDistance, s.helloInterval⟩ := by
  rw [built_concat]
  exact lastAbout_concat ⟨rfl, rfl⟩

/-- After 65535 updates the number is 0 again, and the update that carries it is not accepted. -/
theorem wrapped_update_refused (u : Advert) (hmetric : u.metric ≠ babelInfinity) :
    ¬ Guarded BabelProtocol.step BabelProtocol.TakesUp (.new 100)
      ((BabelProtocol.new 1).delivered (List.replicate 65534 u ++ [u] ++ [u])) := by
  intro hg
  have hstart : Mirrors (.new 100) (BabelProtocol.new 1).routerId [] (.new 100) := fun _ => rfl
  have hfresh := (guarded_takesUp_iff _ hstart).mp hg _ _ [] (built_concat _ _ u) hmetric
    u.destPrefix rfl
  simp only [List.nil_append, lastAbout_built, hmetric, ↓reduceIte, UInt32.lt_irrefl, false_or,
    List.length_append, List.length_replicate, List.length_singleton] at hfresh
  exact absurd hfresh (by decide)

/-- An update of a second router is refused, and so is one of the only router once its numbers
have wrapped. -/
theorem fresh_update_refused :
    (¬ ∀ (b : BabelProtocol) (msg : BabelMessage) (p : Ipv4Net), msg.IsUpdate p →
      msg.metric ≠ babelInfinity → (∀ r ∈ b.prefixRoutes p, r.routerId ≠ msg.routerId) →
      b.accepts msg = true) ∧
    ¬ ∀ us : List Advert, Guarded BabelProtocol.step BabelProtocol.TakesUp (.new 100)
      ((BabelProtocol.new 1).delivered us) := by
  constructor
  · intro h
    have hroutes : ((BabelProtocol.new 100).run [routeUpdate 1 1 10 5 0]).prefixRoutes babelNet =
        [⟨babelNet, 1, 1, 10, 5, 1, false, 0, 20000000000, false⟩] := by
      decide +kernel
    have hother :
        ∀ r ∈ ((BabelProtocol.new 100).run [routeUpdate 1 1 10 5 0]).prefixRoutes babelNet,
          r.routerId ≠ 2 := by
      rw [hroutes]
      intro r hr
      cases List.mem_singleton.mp hr
      decide
    have haccepts := h ((BabelProtocol.new 100).run [routeUpdate 1 1 10 5 0])
      ⟨.update, 2, 1, some babelNet, 5, 5, 4000000000⟩ babelNet ⟨rfl, rfl⟩ (by decide) hother
    have hrefused : ((BabelProtocol.new 100).run [routeUpdate 1 1 10 5 0]).accepts
        ⟨.update, 2, 1, some babelNet, 5, 5, 4000000000⟩ = false := by
      decide +kernel
    rw [hrefused] at haccepts
    cases haccepts
  · intro h
    exact wrapped_update_refused ⟨babelNet, 10, 5, ⟨.v4 1, 9999⟩, 0⟩ (by decide) (h _)

end P2PMesh.Babel
