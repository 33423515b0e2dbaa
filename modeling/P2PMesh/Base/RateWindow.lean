import Mathlib.Data.List.Count
import P2PMesh.Base.Machine
import P2PMesh.Base.Table

namespace P2PMesh.Base
set_option autoImplicit true

section Passed
variable {α : Type} {passed : List α} {event : α} {ok : Bool}

theorem mem_passed (h : e ∈ passed ++ if ok then [event] else []) : e ∈ passed ∨ e = event := by
  apply (List.mem_append.mp h).imp_right
  intro he
  cases ok with
  | true => exact List.mem_singleton.mp he
  | false => exact (List.not_mem_nil he).elim

variable [BEq α] [LawfulBEq α]

theorem count_passed_of_ne (hne : e ≠ event) :
    (passed ++ if ok then [event] else []).count e = passed.count e := by
  rw [List.count_append]
  cases ok with
  | true =>
    rw [if_pos rfl, List.count_singleton, if_neg (fun hb => hne (beq_iff_eq.mp hb).symm),
      Nat.add_zero]
  | false => rfl

theorem count_passed_le :
    (passed ++ if ok then [event] else []).count event ≤ passed.count event + 1 := by
  rw [List.count_append]
  apply Nat.add_le_add_left
  cases ok with
  | true => exact Nat.le_of_eq List.count_singleton_self
  | false => exact Nat.zero_le 1

end Passed

/-- For each key a window of one time unit: when it began and how many events it has seen. -/
abbrev Windows (K : Type) [Ord K] := Std.TreeMap K (Nat × UInt64)

section Hit
variable {K : Type} [Ord K] (overflowChecks : Bool)

/-- One event of a key: whether it stays within the limit of the window it falls in. A new time
unit opens a new window; `none` is the panic of the counter. -/
def Windows.hit (rates : Windows K) (key : K) (limit : UInt64) (now : Nat) :
    Option (Bool × Windows K) :=
  let entry := (rates[key]?).getD (now, 0)
  let entry := if entry.1 = now then entry else (now, 0)
  match addU64 overflowChecks entry.2 1 with
  | none => none
  | some count => some (decide (count ≤ limit), rates.insert key (now, count))

/-- The window of a key is full up to the largest counter, which the next event would wrap. -/
def Windows.Spent (rates : Windows K) (key : K) (now : Nat) : Prop :=
  overflowChecks = false ∧ rates[key]? = some (now, .ofNat (2 ^ 64 - 1))

end Hit

section Account
variable {K : Type} [Ord K]

/-- The events of a key counted so far in the window of a time unit. -/
def Windows.seen (rates : Windows K) (key : K) (now : Nat) : UInt64 :=
  match rates[key]? with
  | some (start, count) => if start = now then count else 0
  | none => 0

theorem Windows.hit_eq (rates : Windows K) (key : K) (limit : UInt64) (now : Nat) :
    rates.hit overflowChecks key limit now =
      (addU64 overflowChecks (rates.seen key now) 1).map
        (fun count => (decide (count ≤ limit), rates.insert key (now, count))) := by
  have he : (if ((rates[key]?).getD (now, 0)).1 = now then (rates[key]?).getD (now, 0)
      else (now, 0)).2 = rates.seen key now := by
    rw [Windows.seen]
    cases rates[key]? with
    | none => simp only [Option.getD_none, ↓reduceIte]
    | some entry =>
      simp only [Option.getD_some]
      split <;> rfl
  simp only [Windows.hit, he]
  cases addU64 overflowChecks (rates.seen key now) 1 <;> rfl

theorem Windows.hit_counts {rates : Windows K} (hs : ¬ rates.Spent overflowChecks key now)
    (h : rates.hit overflowChecks key limit now = some (ok, rates')) :
    ∃ count, rates' = rates.insert key (now, count) ∧ ok = decide (count ≤ limit) ∧
      count.toNat = (rates.seen key now).toNat + 1 := by
  rw [Windows.hit_eq, Option.map_eq_some_iff] at h
  obtain ⟨count, ha, he⟩ := h
  cases he
  refine ⟨count, rfl, rfl, ?_⟩
  cases overflowChecks with
  | true => exact addU64_fits ha
  | false =>
    have hn := addU64_toNat ha
    have hlt : (rates.seen key now).toNat + 1 < 2 ^ 64 := by
      by_contra hle
      have hmax : rates.seen key now = .ofNat (2 ^ 64 - 1) := by
        rw [← UInt64.toNat_inj, UInt64.toNat_ofNat']
        have := (rates.seen key now).toNat_lt
        omega
      apply hs
      refine ⟨rfl, ?_⟩
      rw [Windows.seen] at hmax
      split at hmax
      · next start c hr =>
        split at hmax
        · next hnow => rw [hr, hnow, hmax]
        · cases hmax
      · cases hmax
    rw [hn]
    exact Nat.mod_eq_of_lt hlt

section Other
variable [Std.TransOrd K]

theorem Windows.hit_of_ne [Std.LawfulEqOrd K] {rates : Windows K} (hk : key ≠ key')
    (h : rates.hit overflowChecks key limit now = some (ok, rates')) :
    rates'[key']? = rates[key']? := by
  rw [Windows.hit_eq, Option.map_eq_some_iff] at h
  obtain ⟨count, -, he⟩ := h
  cases he
  exact getElem?_insert_of_ne rates _ hk

theorem Windows.seen_insert (rates : Windows K) (key : K) (now : Nat) (count : UInt64) :
    Windows.seen (rates.insert key (now, count)) key now = count := by
  simp only [Windows.seen, Std.TreeMap.getElem?_insert_self, ↓reduceIte]

theorem Windows.hit_empty (key : K) (limit : UInt64) (now : Nat) (hl : 1 ≤ limit) :
    (∅ : Windows K).hit overflowChecks key limit now =
      some (true, (∅ : Windows K).insert key (now, 1)) := by
  have hs : (∅ : Windows K).seen key now = 0 := by
    rw [Windows.seen, Std.TreeMap.getElem?_emptyc]
  have ha : addU64 overflowChecks 0 1 = some 1 := by
    cases overflowChecks <;> rfl
  rw [Windows.hit_eq, hs, ha, Option.map_some, decide_eq_true hl]

end Other

variable [DecidableEq K]

/-- The windows account for the events let through up to a time: never more than the limit in
one time unit, and no more in a key's window than it has counted. -/
structure Windows.Accounts (rates : Windows K) (limit : UInt64) (passed : List (K × Nat))
    (time : Nat) : Prop where
  bounded : ∀ e, passed.count e ≤ limit.toNat
  counted : ∀ key start count, rates[key]? = some (start, count) →
    passed.count (key, start) ≤ count.toNat
  current : ∀ e ∈ passed, ∃ start count, rates[e.1]? = some (start, count) ∧
    e.2 ≤ start ∧ start ≤ time

theorem Windows.Accounts.nil (rates : Windows K) (limit : UInt64) (time : Nat) :
    rates.Accounts limit [] time where
  bounded _ := Nat.zero_le _
  counted _ _ _ _ := Nat.zero_le _
  current _ he := (List.not_mem_nil he).elim

theorem Windows.Accounts.later {rates : Windows K} (h : rates.Accounts limit passed time)
    (ht : time ≤ time') : rates.Accounts limit passed time' where
  bounded := h.bounded
  counted := h.counted
  current e he := by
    obtain ⟨start, count, hr, hs, hc⟩ := h.current e he
    exact ⟨start, count, hr, hs, Nat.le_trans hc ht⟩

theorem Windows.Accounts.le_seen {rates : Windows K} (h : rates.Accounts limit passed time)
    (ht : time ≤ now) (key : K) : passed.count (key, now) ≤ (rates.seen key now).toNat := by
  by_cases hm : (key, now) ∈ passed
  · obtain ⟨start, count, hr, hs, hc⟩ := h.current _ hm
    have hnow : start = now := Nat.le_antisymm (Nat.le_trans hc ht) hs
    rw [hnow] at hr
    simp only [Windows.seen, hr, ↓reduceIte]
    exact h.counted key now count hr
  · rw [List.count_eq_zero_of_not_mem hm]
    exact Nat.zero_le _

variable [Std.TransOrd K] [Std.LawfulEqOrd K]

theorem Windows.Accounts.hit {rates : Windows K} (h : rates.Accounts limit passed time)
    (ht : time ≤ now) (hs : ¬ rates.Spent overflowChecks key now)
    (hh : rates.hit overflowChecks key limit now = some (ok, rates')) :
    rates'.Accounts limit (passed ++ if ok then [(key, now)] else []) now := by
  obtain ⟨count, he, hok, hc⟩ := Windows.hit_counts hs hh
  have hkey : (passed ++ if ok then [(key, now)] else []).count (key, now) ≤ count.toNat := by
    rw [hc]
    exact Nat.le_trans count_passed_le (Nat.succ_le_succ (h.le_seen ht key))
  constructor
  · intro e
    by_cases hek : e = (key, now)
    · cases ok with
      | true =>
        rw [hek]
        exact Nat.le_trans hkey (UInt64.le_iff_toNat_le.mp (of_decide_eq_true hok.symm))
      | false =>
        rw [if_neg Bool.false_ne_true, List.append_nil]
        exact h.bounded e
    · rw [count_passed_of_ne hek]
      exact h.bounded e
  · intro k start c hr
    rw [he, Std.TreeMap.getElem?_insert] at hr
    split at hr
    · next hk =>
      cases hr
      cases Std.compare_eq_iff_eq.mp hk
      exact hkey
    · next hk =>
      rw [count_passed_of_ne]
      · exact h.counted k start c hr
      · exact fun hp => hk (Std.compare_eq_iff_eq.mpr (congrArg Prod.fst hp).symm)
  · intro e hm
    rw [he, Std.TreeMap.getElem?_insert]
    rcases mem_passed hm with hp | rfl
    · obtain ⟨start, c, hr, hes, hst⟩ := h.current e hp
      by_cases hk : compare key e.1 = .eq
      · rw [if_pos hk]
        exact ⟨now, count, rfl, Nat.le_trans hes (Nat.le_trans hst ht), Nat.le_refl _⟩
      · rw [if_neg hk]
        exact ⟨start, c, hr, hes, Nat.le_trans hst ht⟩
    · rw [if_pos Std.ReflCmp.compare_self]
      exact ⟨now, count, rfl, Nat.le_refl _, Nat.le_refl _⟩

end Account

end P2PMesh.Base
