import P2PMesh.Babel

namespace P2PMesh.Babel
open P2PMesh.Base
set_option autoImplicit true

/-- The message is an update that enters the route table. -/
def BabelProtocol.accepts (b : BabelProtocol) (msg : BabelMessage) : Bool :=
  msg.destPrefix.any (fun p => decide (msg.msgType = .update ∧ msg.metric ≠ babelInfinity) &&
    (isFeasible msg (b.prefixRoutes p) || (b.prefixRoutes p).isEmpty))

/-- The message is about the prefix and from the router. -/
def BabelMessage.About (p : Ipv4Net) (routerId : RouterId) (msg : BabelMessage) : Prop :=
  msg.destPrefix = some p ∧ msg.routerId = routerId

instance (p : Ipv4Net) (routerId : RouterId) (msg : BabelMessage) :
    Decidable (msg.About p routerId) := inferInstanceAs (Decidable (_ ∧ _))

/-- How far a sequence number is ahead of another as they wrap around: by less than half of them,
else it is behind. -/
def ahead (s s' : SeqNo) : Int :=
  if (s - s').toNat < 2 ^ 15 then (s - s').toNat else (s - s').toNat - 2 ^ 16

/-- An update that has entered the table, with its sequence number counted on through the wraps. -/
structure AcceptedUpdate where
  msg : BabelMessage
  count : Int
  count_emod : count % 2 ^ 16 = msg.seqno.toNat
deriving DecidableEq

/-- A newer sequence number, or the same with a smaller distance. -/
def Better (later earlier : AcceptedUpdate) : Prop :=
  earlier.count < later.count ∨ (later.count = earlier.count ∧
    later.msg.feasibilityDistance < earlier.msg.feasibilityDistance)

/-- Of the updates of one router for one prefix each is better than every earlier one. -/
def Improving (accepted : List AcceptedUpdate) : Prop :=
  accepted.Pairwise (fun earlier later => ∀ p routerId,
    earlier.msg.About p routerId → later.msg.About p routerId → Better later earlier)

/-- The last update of a router for a prefix. -/
def lastAccepted (p : Ipv4Net) (routerId : RouterId) (accepted : List AcceptedUpdate) :
    Option AcceptedUpdate :=
  (accepted.filter (fun a => a.msg.About p routerId)).getLast?

def countAfter : Option AcceptedUpdate → SeqNo → Int
  | none, s => s.toNat
  | some last, s => last.count + ahead s last.msg.seqno

theorem countAfter_emod (last : Option AcceptedUpdate) (s : SeqNo) :
    countAfter last s % 2 ^ 16 = s.toNat := by
  have hs := s.toNat_lt
  cases last with
  | none =>
    rw [countAfter]
    omega
  | some last =>
    have hlast := last.count_emod
    rw [countAfter, ahead, UInt16.toNat_sub]
    split <;> omega

/-- A node with the updates that have entered its table, in their order. -/
structure BabelLog where
  node : BabelProtocol
  accepted : List AcceptedUpdate

/-- The message as it goes to the end of the log. -/
def BabelLog.entry (l : BabelLog) (msg : BabelMessage) : AcceptedUpdate :=
  let last := msg.destPrefix.bind (fun p => lastAccepted p msg.routerId l.accepted)
  ⟨msg, countAfter last msg.seqno, countAfter_emod last msg.seqno⟩

def BabelLog.step (l : BabelLog) (op : BabelOp) : BabelLog where
  node := l.node.step op
  accepted :=
    match op with
    | .message msg _ _ =>
      if l.node.accepts msg then l.accepted ++ [l.entry msg] else l.accepted
    | .removeNeighbor _ => l.accepted

def BabelLog.run (l : BabelLog) (ops : List BabelOp) : BabelLog := ops.foldl BabelLog.step l

def BabelLog.new (routerId : RouterId) : BabelLog := ⟨.new routerId, []⟩

/-- Where the table has no routes for the prefix of an update, it has forgotten none of the router:
no update of it has been accepted. -/
def BabelLog.Remembers (l : BabelLog) (msg : BabelMessage) (p : Ipv4Net) : Prop :=
  l.node.prefixRoutes p = [] → lastAccepted p msg.routerId l.accepted = none

/-- An update that is older than the route of its router has neither a smaller distance nor, for a
wrap in between, a larger sequence number. -/
def BabelProtocol.Judges (b : BabelProtocol) (msg : BabelMessage) (p : Ipv4Net) : Prop :=
  ∀ r ∈ b.prefixRoutes p, r.routerId = msg.routerId → ahead msg.seqno r.seqno < 0 →
    r.feasibilityDistance ≤ msg.feasibilityDistance ∧ msg.seqno ≤ r.seqno

instance (l : BabelLog) (msg : BabelMessage) (p : Ipv4Net) : Decidable (l.Remembers msg p) :=
  inferInstanceAs (Decidable (_ → _))

instance (b : BabelProtocol) (msg : BabelMessage) (p : Ipv4Net) : Decidable (b.Judges msg p) :=
  inferInstanceAs (Decidable (∀ _ ∈ _, _))

/-- The update is compared with the last one of its router, if there is one, and rightly. -/
def BabelLog.InOrder (l : BabelLog) : BabelOp → Prop
  | .message msg _ _ => ∀ p ∈ msg.destPrefix, msg.msgType = .update →
    msg.metric ≠ babelInfinity → l.Remembers msg p ∧ l.node.Judges msg p
  | .removeNeighbor _ => True

instance : ∀ (l : BabelLog) (op : BabelOp), Decidable (l.InOrder op)
  | _, .message msg _ _ => inferInstanceAs (Decidable (∀ _ ∈ msg.destPrefix, _))
  | _, .removeNeighbor _ => .isTrue trivial

theorem Better.trans (h : Better c b) (h' : Better b a) : Better c a := by
  rcases h with h | ⟨hs, hd⟩ <;> rcases h' with h' | ⟨hs', hd'⟩
  · exact Or.inl (Int.lt_trans h' h)
  · exact Or.inl (hs' ▸ h)
  · exact Or.inl (hs ▸ h')
  · exact Or.inr ⟨hs.trans hs', UInt32.lt_trans hd hd'⟩

theorem ahead_eq_zero : ahead s s' = 0 ↔ s = s' := by
  rw [← UInt16.toNat_inj, ahead, UInt16.toNat_sub]
  have hs := s.toNat_lt
  have hs' := s'.toNat_lt
  split <;> omega

theorem accepts_iff {b : BabelProtocol} : b.accepts msg = true ↔ ∃ p, msg.IsUpdate p ∧
    msg.metric ≠ babelInfinity ∧
      (isFeasible msg (b.prefixRoutes p) = true ∨ b.prefixRoutes p = []) := by
  simp only [BabelProtocol.accepts, BabelMessage.IsUpdate, Option.any_eq_true, Bool.and_eq_true,
    Bool.or_eq_true, decide_eq_true_eq, List.isEmpty_iff]
  constructor
  · rintro ⟨p, hp, ⟨htype, hmetric⟩, htake⟩
    exact ⟨p, ⟨htype, hp⟩, hmetric, htake⟩
  · rintro ⟨p, ⟨htype, hp⟩, hmetric, htake⟩
    exact ⟨p, hp, ⟨htype, hmetric⟩, htake⟩

theorem BabelMessage.IsUpdate.unique {msg : BabelMessage} (h : msg.IsUpdate p)
    (h' : msg.IsUpdate q) : p = q := Option.some.inj (h.2.symm.trans h'.2)

theorem isFeasible_iff : isFeasible msg l = true ↔ ∃ r ∈ l, r.routerId = msg.routerId ∧
    (msg.feasibilityDistance < r.feasibilityDistance ∨ r.seqno < msg.seqno) := by
  simp only [isFeasible, List.any_eq_true, List.mem_filter, decide_eq_true_eq, Bool.or_eq_true,
    and_assoc]

theorem improving_concat : Improving (accepted ++ [a]) ↔ Improving accepted ∧
    ∀ earlier ∈ accepted, ∀ p routerId, earlier.msg.About p routerId → a.msg.About p routerId →
      Better a earlier := by
  rw [Improving, List.pairwise_append]
  simp [Improving]

theorem getLast?_filter_concat {q : α → Bool} (h : q a = true) (l : List α) :
    ((l ++ [a]).filter q).getLast? = some a := by
  rw [List.filter_append, List.filter_cons_of_pos h, List.filter_nil, List.getLast?_concat]

theorem getLast?_filter_concat_of_not {q : α → Bool} (h : ¬ q a = true) (l : List α) :
    ((l ++ [a]).filter q).getLast? = (l.filter q).getLast? := by
  rw [List.filter_append, List.filter_cons_of_neg h, List.filter_nil, List.append_nil]

theorem lastAccepted_concat (h : a.msg.About p routerId) :
    lastAccepted p routerId (accepted ++ [a]) = some a := by
  rw [lastAccepted, getLast?_filter_concat]
  exact decide_eq_true h

theorem lastAccepted_concat_of_not (h : ¬ a.msg.About p routerId) :
    lastAccepted p routerId (accepted ++ [a]) = lastAccepted p routerId accepted := by
  rw [lastAccepted, lastAccepted, getLast?_filter_concat_of_not]
  exact fun hq => h (of_decide_eq_true hq)

theorem lastAccepted_mem (h : lastAccepted p routerId accepted = some last) :
    last ∈ accepted ∧ last.msg.About p routerId := by
  have hmem := List.mem_filter.mp (List.mem_of_getLast? h)
  exact ⟨hmem.1, of_decide_eq_true hmem.2⟩

theorem not_about_of_lastAccepted (h : lastAccepted p routerId accepted = none)
    (he : earlier ∈ accepted) : ¬ earlier.msg.About p routerId := by
  rw [lastAccepted, List.getLast?_eq_none_iff, List.filter_eq_nil_iff] at h
  exact fun habout => h earlier he (decide_eq_true habout)

theorem Improving.lastAccepted_better (h : Improving accepted)
    (hlast : lastAccepted p routerId accepted = some last) (he : earlier ∈ accepted)
    (habout : earlier.msg.About p routerId) : earlier = last ∨ Better last earlier := by
  obtain ⟨before, hfilter⟩ := List.getLast?_eq_some_iff.mp hlast
  have hmem : earlier ∈ accepted.filter (fun a => a.msg.About p routerId) :=
    List.mem_filter.mpr ⟨he, decide_eq_true habout⟩
  have hpair := h.filter (fun a => a.msg.About p routerId)
  rw [hfilter] at hmem hpair
  rcases List.mem_append.mp hmem with hmem | hmem
  · exact Or.inr ((List.pairwise_append.mp hpair).2.2 earlier hmem last List.mem_cons_self p
      routerId habout (lastAccepted_mem hlast).2)
  · exact Or.inl (List.mem_singleton.mp hmem)

/-- Each route in the table is that of the last accepted update of its router. -/
def BabelLog.Tracks (l : BabelLog) : Prop :=
  ∀ p, ∀ r ∈ l.node.prefixRoutes p, ∃ last, lastAccepted p r.routerId l.accepted = some last ∧
    last.msg.seqno = r.seqno ∧ last.msg.feasibilityDistance = r.feasibilityDistance

theorem BabelLog.lastAccepted_step {l : BabelLog}
    (h : ¬ (l.node.accepts msg = true ∧ msg.About p routerId)) :
    lastAccepted p routerId (l.step (.message msg fromAddr now)).accepted =
      lastAccepted p routerId l.accepted := by
  simp only [BabelLog.step]
  split
  · next hacc => exact lastAccepted_concat_of_not (fun habout => h ⟨hacc, habout⟩)
  · rfl

theorem BabelLog.Tracks.of_turn {l : BabelLog} (h : l.Tracks)
    (hturn : l.node.Turn p op routes sel) : ∀ r ∈ routes,
      ∃ last, lastAccepted p r.routerId (l.step op).accepted = some last ∧
        last.msg.seqno = r.seqno ∧ last.msg.feasibilityDistance = r.feasibilityDistance := by
  intro r hr
  cases hturn with
  | idle hidle =>
    rw [BabelLog.lastAccepted_step]
    · exact h p r hr
    · rintro ⟨hacc, habout⟩
      obtain ⟨q, hq, -⟩ := accepts_iff.mp hacc
      exact hidle ⟨hq.1, habout.1⟩
  | retracted hupdate hmetric =>
    rw [BabelLog.lastAccepted_step]
    · exact h p r (mem_otherRoutes.mp hr).1
    · rintro ⟨hacc, -⟩
      obtain ⟨q, -, hne, -⟩ := accepts_iff.mp hacc
      exact hne hmetric
  | refused hupdate _ hfeasible hsome =>
    rw [BabelLog.lastAccepted_step]
    · exact h p r hr
    · rintro ⟨hacc, -⟩
      obtain ⟨q, hq, -, htake⟩ := accepts_iff.mp hacc
      cases hq.unique hupdate
      rcases htake with htake | htake
      · rw [hfeasible] at htake
        cases htake
      · exact hsome htake
  | @accepted msg now best _ hupdate hmetric hfeasible =>
    rcases List.mem_append.mp hr with hr | hr
    · obtain ⟨hr, hother⟩ := mem_otherRoutes.mp hr
      rw [BabelLog.lastAccepted_step]
      · exact h p r hr
      · exact fun hboth => hother hboth.2.2.symm
    · cases List.mem_singleton.mp hr
      have hacc : l.node.accepts msg = true := accepts_iff.mpr ⟨p, hupdate, hmetric, hfeasible⟩
      simp only [BabelLog.step, hacc, ↓reduceIte]
      exact ⟨l.entry msg, lastAccepted_concat ⟨hupdate.2, rfl⟩, rfl, rfl⟩
  | removed =>
    obtain ⟨r₀, hr₀, rfl⟩ := List.mem_map.mp hr
    rw [retractVia_eq]
    exact h p r₀ hr₀

theorem BabelLog.Tracks.step {l : BabelLog} (h : l.Tracks) (op : BabelOp) : (l.step op).Tracks :=
  fun p => h.of_turn (l.node.step_turn op p)

theorem BabelLog.Tracks.better_iff {l : BabelLog} (h : l.Tracks) (hp : msg.destPrefix = some p)
    (hr : r ∈ l.node.prefixRoutes p) (hid : r.routerId = msg.routerId) :
    ∃ last, lastAccepted p msg.routerId l.accepted = some last ∧
      (Better (l.entry msg) last ↔ 0 < ahead msg.seqno r.seqno ∨
        msg.seqno = r.seqno ∧ msg.feasibilityDistance < r.feasibilityDistance) := by
  obtain ⟨last, hlast, hseqno, hdistance⟩ := h p r hr
  rw [hid] at hlast
  have hentry : (l.entry msg).count = countAfter
      (msg.destPrefix.bind (fun p => lastAccepted p msg.routerId l.accepted)) msg.seqno := rfl
  rw [hp, Option.bind_some, hlast, countAfter, hseqno] at hentry
  have hlt : last.count < last.count + ahead msg.seqno r.seqno ↔ 0 < ahead msg.seqno r.seqno := by
    omega
  have heq : last.count + ahead msg.seqno r.seqno = last.count ↔ ahead msg.seqno r.seqno = 0 := by
    omega
  refine ⟨last, hlast, ?_⟩
  rw [Better, hentry, hdistance, hlt, heq, ahead_eq_zero]
  rfl

/-- Where the table has not forgotten the router, accepted updates go on improving exactly where
the update is judged against the route of its router. -/
theorem BabelLog.Tracks.improving_iff {l : BabelLog} (h : l.Tracks) (hi : Improving l.accepted)
    (hupdate : msg.IsUpdate p) (hmetric : msg.metric ≠ babelInfinity) (hrem : l.Remembers msg p) :
    Improving (l.step (.message msg fromAddr now)).accepted ↔ l.node.Judges msg p := by
  have hmsg : (l.entry msg).msg.About p msg.routerId := ⟨hupdate.2, rfl⟩
  cases hacc : l.node.accepts msg with
  | false =>
    simp only [BabelLog.step, hacc, Bool.false_eq_true, ↓reduceIte]
    refine iff_of_true hi ?_
    intro r hr hid hold
    by_contra hnot
    rw [not_and_or, UInt32.not_le, UInt16.not_le] at hnot
    have hfeasible := isFeasible_iff.mpr ⟨r, hr, hid, hnot⟩
    rw [accepts_iff.mpr ⟨p, hupdate, hmetric, .inl hfeasible⟩] at hacc
    cases hacc
  | true =>
    obtain ⟨q, hq, -, htake⟩ := accepts_iff.mp hacc
    cases hq.unique hupdate
    simp only [BabelLog.step, hacc, ↓reduceIte]
    rw [improving_concat, and_iff_right hi]
    constructor
    · intro hbetter r hr hid hold
      obtain ⟨last, hlast, hiff⟩ := h.better_iff hupdate.2 hr hid
      obtain ⟨hmem, habout⟩ := lastAccepted_mem hlast
      have hnew := hiff.mp (hbetter last hmem p _ habout hmsg)
      rw [← ahead_eq_zero] at hnew
      omega
    · intro hjudges earlier he q routerId habout hmsg'
      cases hmsg.1.symm.trans hmsg'.1
      cases hmsg.2.symm.trans hmsg'.2
      rcases htake with htake | htake
      · obtain ⟨r, hr, hid, hor⟩ := isFeasible_iff.mp htake
        obtain ⟨last, hlast, hiff⟩ := h.better_iff hupdate.2 hr hid
        have hnewer : Better (l.entry msg) last := by
          rw [hiff, ← ahead_eq_zero]
          have hold : ¬ ahead msg.seqno r.seqno < 0 := by
            intro hlt
            obtain ⟨hdistance, hseqno⟩ := hjudges r hr hid hlt
            rcases hor with hless | hnew
            · exact UInt32.not_le.mpr hless hdistance
            · exact UInt16.not_le.mpr hnew hseqno
          rcases Int.lt_or_eq_of_le (Int.not_lt.mp hold) with hlt | heq
          · exact .inl hlt
          · refine .inr ⟨heq.symm, ?_⟩
            rcases hor with hless | hnew
            · exact hless
            · rw [ahead_eq_zero.mp heq.symm] at hnew
              exact (UInt16.lt_irrefl _ hnew).elim
        rcases hi.lastAccepted_better hlast he habout with heq | hbetter
        · rw [heq]
          exact hnewer
        · exact hnewer.trans hbetter
      · exact (not_about_of_lastAccepted (hrem htake) he habout).elim

theorem BabelLog.Tracks.improving_step {l : BabelLog} (h : l.Tracks) (hi : Improving l.accepted)
    {op : BabelOp} (horder : l.InOrder op) : Improving (l.step op).accepted := by
  cases op with
  | removeNeighbor neighborId => exact hi
  | message msg fromAddr now =>
    cases hacc : l.node.accepts msg with
    | false =>
      simp only [BabelLog.step, hacc, Bool.false_eq_true, ↓reduceIte]
      exact hi
    | true =>
      obtain ⟨p, hupdate, hmetric, -⟩ := accepts_iff.mp hacc
      obtain ⟨hrem, hjudges⟩ := horder p hupdate.2 hupdate.1 hmetric
      exact (h.improving_iff hi hupdate hmetric hrem).mpr hjudges

/-- The accepted updates of each router for each prefix improve in every run of updates in
order. -/
theorem accepted_updates_improve {routerId : RouterId} {ops : List BabelOp}
    (h : Guarded BabelLog.step BabelLog.InOrder (.new routerId) ops) :
    Improving ((BabelLog.new routerId).run ops).accepted := by
  have hstart : (BabelLog.new routerId).Tracks := by
    intro p r hr
    rw [BabelLog.new, prefixRoutes_new] at hr
    cases hr
  have hnil : Improving (BabelLog.new routerId).accepted := List.Pairwise.nil
  exact (h.invariant (I := fun l => l.Tracks ∧ Improving l.accepted) ⟨hstart, hnil⟩
    (fun l op hl horder => ⟨hl.1.step op, hl.1.improving_step hl.2 horder⟩)).2

/-- The numbers go through their wrap, the neighbor is lost, and the next update is newer. -/
theorem accepted_updates_improve_wrapped :
    Improving ((BabelLog.new 100).run [routeUpdate 1 65535 10 5 0, routeUpdate 1 0 10 4 1,
      .removeNeighbor 1, routeUpdate 1 1 10 9 2]).accepted :=
  accepted_updates_improve (by decide +kernel)

/-- A smaller distance makes up for an older sequence number. -/
theorem older_update_accepted :
    ¬ ∀ (ops : List BabelOp), Improving ((BabelLog.new 100).run ops).accepted := by
  intro h
  have hpair := h [routeUpdate 1 7 10 5 0, routeUpdate 1 3 10 4 1]
  have haccepted : ((BabelLog.new 100).run
      [routeUpdate 1 7 10 5 0, routeUpdate 1 3 10 4 1]).accepted =
      [⟨⟨.update, 1, 7, some babelNet, 10, 5, 4000000000⟩, 7, rfl⟩,
        ⟨⟨.update, 1, 3, some babelNet, 10, 4, 4000000000⟩, 3, rfl⟩] := by
    decide +kernel
  rw [haccepted, Improving, List.pairwise_cons] at hpair
  have hbetter := hpair.1 _ List.mem_cons_self babelNet 1 ⟨rfl, rfl⟩ ⟨rfl, rfl⟩
  rcases hbetter with hnew | ⟨hsame, -⟩
  · exact absurd hnew (by decide)
  · exact absurd hsame (by decide)

end P2PMesh.Babel
