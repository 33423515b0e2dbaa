import P2PMesh.Base.OpenedWindow
import P2PMesh.RateLimit

namespace P2PMesh.RateLimit
open P2PMesh.Base
set_option autoImplicit true

section Check
variable (m : MemoryLimits) (clientIp : String) (now : Nat)

/-- More than two minutes have passed since the last cleanup. -/
def MemoryLimits.CleanupDue : Prop := m.lastCleanup.getD now + seconds 120 < now

/-- The client has no entry or one of more than a minute ago. -/
def MemoryLimits.OpensWindow : Prop :=
  ∀ entry ∈ m.rateLimits[clientIp]?, entry.windowStart + seconds 60 < now

instance : Decidable (m.CleanupDue now) := inferInstanceAs (Decidable (_ < _))

instance : Decidable (m.OpensWindow clientIp now) :=
  inferInstanceAs (Decidable (∀ entry ∈ m.rateLimits[clientIp]?, _))

/-- The entry that a request of the client is counted in. -/
def MemoryLimits.counted : MemoryEntry :=
  let entry := ((m.rateLimits[clientIp]?).filter
    (fun entry => ¬ entry.windowStart + seconds 60 < now)).getD ⟨now, 0⟩
  { entry with count := entry.count + 1 }

end Check

section Lookup
variable {m : MemoryLimits} {clientIp : String} {now : Nat}

theorem MemoryLimits.opensWindow_iff : m.OpensWindow clientIp now ↔
    (m.rateLimits[clientIp]?).filter (fun entry => ¬ entry.windowStart + seconds 60 < now) =
      none := by
  rw [MemoryLimits.OpensWindow, Option.filter_eq_none_iff]
  simp only [Option.mem_def, decide_eq_true_eq, not_not]

theorem MemoryLimits.counted_new (h : m.OpensWindow clientIp now) :
    m.counted clientIp now = ⟨now, 1⟩ := by
  rw [MemoryLimits.counted, MemoryLimits.opensWindow_iff.mp h]
  rfl

theorem MemoryLimits.counted_again {entry : MemoryEntry} (h : m.rateLimits[clientIp]? = some entry)
    (hopen : ¬ entry.windowStart + seconds 60 < now) :
    m.counted clientIp now = { entry with count := entry.count + 1 } := by
  rw [MemoryLimits.counted, h, Option.filter_some, if_pos (decide_eq_true hopen)]
  rfl

theorem MemoryLimits.check_allowed (threshold : Nat) :
    (m.check clientIp threshold now).2 = decide ((m.counted clientIp now).count ≤ threshold) := rfl

/-- What the table has for a client after a cleanup, if one is due. -/
def MemoryLimits.kept (m : MemoryLimits) (now : Nat) (client : String) : Option MemoryEntry :=
  (m.rateLimits[client]?).filter
    (fun entry => ¬ m.CleanupDue now ∨ now < entry.windowStart + seconds 120)

/-- The table after the cleanup, if there was one, before the request is entered. -/
def MemoryLimits.cleaned (m : MemoryLimits) (now : Nat) : Std.TreeMap String MemoryEntry :=
  if m.CleanupDue now then
    m.rateLimits.filter (fun _ entry => now < entry.windowStart + seconds 120)
  else m.rateLimits

theorem MemoryLimits.cleaned_lookup (client : String) :
    (m.cleaned now)[client]? = m.kept now client := by
  rw [MemoryLimits.cleaned, MemoryLimits.kept]
  split
  · next hdue =>
    rw [Std.TreeMap.getElem?_filter']
    simp only [hdue, not_true_eq_false, false_or]
  · next hdue =>
    simp only [hdue, not_false_eq_true, true_or, decide_true]
    cases m.rateLimits[client]? with
    | none => rfl
    | some entry => rfl

theorem MemoryLimits.check_rateLimits (threshold : Nat) :
    (m.check clientIp threshold now).1.rateLimits =
      if m.CleanupDue now ∧ m.OpensWindow clientIp now then m.cleaned now
      else (m.cleaned now).insert clientIp (m.counted clientIp now) := by
  rw [MemoryLimits.check, MemoryLimits.cleaned]
  simp only [decide_eq_true_eq, ← MemoryLimits.opensWindow_iff]
  rfl

theorem MemoryLimits.check_lookup (m : MemoryLimits) (clientIp : String) (now threshold : Nat)
    (client : String) :
    (m.check clientIp threshold now).1.rateLimits[client]? =
      if clientIp = client ∧ ¬ (m.CleanupDue now ∧ m.OpensWindow clientIp now) then
        some (m.counted clientIp now)
      else m.kept now client := by
  rw [MemoryLimits.check_rateLimits]
  by_cases hlost : m.CleanupDue now ∧ m.OpensWindow clientIp now
  · rw [if_pos hlost, if_neg (fun h => h.2 hlost), MemoryLimits.cleaned_lookup]
  · rw [if_neg hlost, getElem?_insert_eq, MemoryLimits.cleaned_lookup]
    simp only [hlost, not_false_eq_true, and_true]

theorem MemoryLimits.kept_eq_none_or (m : MemoryLimits) (now : Nat) (client : String) :
    m.kept now client = m.rateLimits[client]? ∨
      m.kept now client = none ∧ ∃ entry ∈ m.rateLimits[client]?,
        entry.windowStart + seconds 120 ≤ now := by
  rw [MemoryLimits.kept]
  cases hentry : m.rateLimits[client]? with
  | none => exact .inl rfl
  | some entry =>
    rw [Option.filter_some]
    split
    · exact .inl rfl
    · next hold =>
      rw [decide_eq_true_eq, not_or, not_not] at hold
      exact .inr ⟨rfl, entry, rfl, Nat.le_of_not_lt hold.2⟩

end Lookup

/-- The clock, the table in memory and every request so far. -/
structure MemoryHistory where
  now : Nat
  memory : MemoryLimits
  requests : List (String × Nat)

/-- A request of a client comes in, some time after the one before it. -/
structure MemoryRequest where
  clientIp : String
  waited : Nat

def MemoryHistory.new (now : Nat) : MemoryHistory := ⟨now, ⟨∅, none⟩, []⟩

section History
variable (budget : Nat) (s : MemoryHistory)

def MemoryHistory.step (r : MemoryRequest) : MemoryHistory where
  now := s.now + r.waited
  memory := (s.memory.check r.clientIp budget (s.now + r.waited)).1
  requests := s.requests ++ [(r.clientIp, s.now + r.waited)]

def MemoryHistory.run (requests : List MemoryRequest) : MemoryHistory :=
  requests.foldl (MemoryHistory.step budget) s

def MemoryHistory.allows (r : MemoryRequest) : Bool :=
  (s.memory.check r.clientIp budget (s.now + r.waited)).2

def MemoryHistory.instantsOf (client : String) : List Nat :=
  (s.requests.filter (fun e => e.1 = client)).map (·.2)

/-- The requests of a client that have fallen in the client's current window. -/
def MemoryHistory.windowOf (client : String) : List Nat :=
  currentWindow (seconds 60) (s.instantsOf client)

/-- The entry that a window is counted by. -/
def entryOf (window : List Nat) : Option MemoryEntry :=
  window.head?.map (fun start => ⟨start, window.length⟩)

/-- A request is counted in the client's current window, and is allowed exactly where the window
has at most so many requests as the budget. -/
structure MemoryHistory.CountsRight (r : MemoryRequest) : Prop where
  counted : (s.step budget r).memory.rateLimits[r.clientIp]? =
    entryOf ((s.step budget r).windowOf r.clientIp)
  allowed : s.allows budget r = true ↔ ((s.step budget r).windowOf r.clientIp).length ≤ budget

/-- No cleanup comes with a request that opens a window. -/
def MemoryHistory.Spares (r : MemoryRequest) : Prop :=
  ¬ (s.memory.CleanupDue (s.now + r.waited) ∧
    s.memory.OpensWindow r.clientIp (s.now + r.waited))

instance (r : MemoryRequest) : Decidable (s.Spares r) := inferInstanceAs (Decidable (¬ _))

/-- The table has for every client the entry of the current window, or none if that is long
over. -/
def MemoryHistory.Tracks : Prop :=
  ∀ client : String, s.memory.rateLimits[client]? = entryOf (s.windowOf client) ∨
    s.memory.rateLimits[client]? = none ∧
      ∀ start ∈ (s.windowOf client).head?, start + seconds 120 ≤ s.now

end History

section Tracking
variable {budget : Nat} {s : MemoryHistory} {r : MemoryRequest}

theorem MemoryHistory.windowOf_step_self (budget : Nat) (s : MemoryHistory) (r : MemoryRequest) :
    (s.step budget r).windowOf r.clientIp =
      nextWindow (seconds 60) (s.windowOf r.clientIp) (s.now + r.waited) := by
  rw [MemoryHistory.windowOf, MemoryHistory.instantsOf, MemoryHistory.step, List.filter_append,
    List.filter_singleton, decide_eq_true (by rfl), List.map_append]
  exact currentWindow_concat _ _ _

theorem MemoryHistory.windowOf_step_of_ne {client : String} (hne : r.clientIp ≠ client) :
    (s.step budget r).windowOf client = s.windowOf client := by
  rw [MemoryHistory.windowOf, MemoryHistory.instantsOf, MemoryHistory.step, List.filter_append,
    List.filter_singleton, decide_eq_false hne]
  change currentWindow _ ((_ ++ []).map _) = _
  rw [List.append_nil]
  rfl

theorem MemoryHistory.Tracks.counted (h : s.Tracks) (budget : Nat) (r : MemoryRequest) :
    some (s.memory.counted r.clientIp (s.now + r.waited)) =
      entryOf ((s.step budget r).windowOf r.clientIp) := by
  rw [MemoryHistory.windowOf_step_self]
  rcases h r.clientIp with hentry | ⟨hnone, hold⟩
  · cases hwindow : s.windowOf r.clientIp with
    | nil =>
      rw [hwindow] at hentry
      rw [MemoryLimits.counted_new]
      · rfl
      · intro entry he
        rw [hentry] at he
        cases he
    | cons start rest =>
      rw [hwindow] at hentry
      by_cases hover : start + seconds 60 < s.now + r.waited
      · rw [MemoryLimits.counted_new, nextWindow_over]
        · rfl
        · rintro _ ⟨⟩
          exact hover
        · intro entry he
          rw [hentry] at he
          cases he
          exact hover
      · rw [MemoryLimits.counted_again hentry hover, nextWindow_cons hover, entryOf,
          List.length_append, List.length_singleton]
        rfl
  · rw [MemoryLimits.counted_new, nextWindow_over]
    · rfl
    · intro start hstart
      have hlong := hold start hstart
      have hunits : seconds 60 < seconds 120 := by decide
      omega
    · intro entry he
      rw [hnone] at he
      cases he

theorem MemoryHistory.Tracks.allowed (h : s.Tracks) (budget : Nat) (r : MemoryRequest) :
    s.allows budget r = true ↔ ((s.step budget r).windowOf r.clientIp).length ≤ budget := by
  have hcounted := h.counted budget r
  obtain ⟨start, -, he⟩ := Option.map_eq_some_iff.mp hcounted.symm
  rw [MemoryHistory.allows, MemoryLimits.check_allowed, decide_eq_true_eq, ← he]

/-- Under the condition a request is counted; without it, its entry goes to the table that the
cleanup has replaced. -/
theorem MemoryHistory.Tracks.countsRight_iff (h : s.Tracks) (budget : Nat) (r : MemoryRequest) :
    s.CountsRight budget r ↔ s.Spares r := by
  have hcounted := h.counted budget r
  have hlookup := s.memory.check_lookup r.clientIp (s.now + r.waited) budget r.clientIp
  constructor
  · intro hright hlost
    have hkept := hright.counted
    rw [← hcounted, MemoryLimits.counted_new hlost.2] at hkept
    change (s.memory.check r.clientIp budget (s.now + r.waited)).1.rateLimits[r.clientIp]? = _
      at hkept
    rw [hlookup, if_neg (fun hspared => hspared.2 hlost)] at hkept
    rcases s.memory.kept_eq_none_or (s.now + r.waited) r.clientIp with he | ⟨hnone, -⟩
    · rw [he] at hkept
      have hstart := hlost.2 _ hkept
      dsimp only at hstart
      omega
    · rw [hnone] at hkept
      cases hkept
  · intro hspared
    refine ⟨?_, h.allowed budget r⟩
    change (s.memory.check r.clientIp budget (s.now + r.waited)).1.rateLimits[r.clientIp]? = _
    rw [hlookup, if_pos ⟨rfl, hspared⟩, hcounted]

theorem MemoryHistory.Tracks.step (h : s.Tracks) (hright : s.CountsRight budget r) :
    (s.step budget r).Tracks := by
  intro client
  by_cases he : r.clientIp = client
  · rw [← he]
    exact .inl hright.counted
  · have hlookup : (s.step budget r).memory.rateLimits[client]? =
        s.memory.kept (s.now + r.waited) client :=
      (s.memory.check_lookup _ _ budget client).trans (if_neg (fun hspared => he hspared.1))
    rw [hlookup, MemoryHistory.windowOf_step_of_ne he]
    change _ ∨ _ ∧ ∀ start ∈ _, start + seconds 120 ≤ s.now + r.waited
    rcases s.memory.kept_eq_none_or (s.now + r.waited) client with hk | ⟨hk, entry, hmem, hold⟩
    · rw [hk]
      refine (h client).imp_right (And.imp_right ?_)
      intro hlong start hstart
      exact Nat.le_trans (hlong start hstart) (Nat.le_add_right _ _)
    · refine .inr ⟨hk, ?_⟩
      rcases h client with hentry | ⟨hnone, -⟩
      · rw [Option.mem_def, hentry] at hmem
        obtain ⟨start, hstart, rfl⟩ := Option.map_eq_some_iff.mp hmem
        rw [hstart]
        rintro _ ⟨⟩
        exact hold
      · rw [Option.mem_def, hnone] at hmem
        cases hmem

theorem MemoryHistory.tracks_new (now : Nat) : (MemoryHistory.new now).Tracks := by
  intro client
  left
  rw [MemoryHistory.new, Std.TreeMap.getElem?_emptyc]
  rfl

end Tracking

/-- In every run each request is counted in its client's window and judged by it, exactly where no
cleanup comes with a request that opens a window. -/
theorem memory_limit_counts_iff (budget now : Nat) (requests : List MemoryRequest) :
    (∀ l r, l ++ [r] <+: requests → ((MemoryHistory.new now).run budget l).CountsRight budget r) ↔
      Guarded (MemoryHistory.step budget) MemoryHistory.Spares (.new now) requests := by
  unfold MemoryHistory.run
  rw [← guarded_iff_forall_step]
  exact guarded_congr_of_guarded (MemoryHistory.tracks_new now)
    (fun _ _ h hright => h.step hright) (fun _ r h => h.countsRight_iff budget r)

/-- Two requests of a client, of which the first comes with a cleanup: more than two minutes after
the request of another client. -/
def requestsWithCleanup : List MemoryRequest :=
  [⟨"10.0.0.1", 0⟩, ⟨"10.0.0.2", seconds 121⟩, ⟨"10.0.0.2", seconds 1⟩]

/-- The request with the cleanup is not counted, so that with a budget of one the next one is
allowed too. -/
theorem cleanup_loses_request :
    ¬ (∀ l r, l ++ [r] <+: requestsWithCleanup →
      ((MemoryHistory.new 0).run 1 l).CountsRight 1 r) ∧
    ((MemoryHistory.new 0).run 1 (requestsWithCleanup.take 2)).allows 1
        ⟨"10.0.0.2", seconds 1⟩ = true ∧
      ((MemoryHistory.new 0).run 1 requestsWithCleanup).windowOf "10.0.0.2" =
        [seconds 121, seconds 122] := by
  refine ⟨?_, by decide +kernel, by decide +kernel⟩
  intro h
  have hright := h (requestsWithCleanup.take 2) ⟨"10.0.0.2", seconds 1⟩ (List.prefix_refl _)
  exact absurd (hright.allowed.mp (by decide +kernel)) (by decide +kernel)

end P2PMesh.RateLimit
