import Mathlib.Data.Option.Basic
import Mathlib.Logic.Function.Basic

namespace P2PMesh.Base
set_option autoImplicit true

/-- A value may be put under a key, with the time, and what is old may be swept out. -/
inductive TimedEvent (K V : Type*) where
  | put (k : K) (v : V) (now : Nat)
  | sweep (now : Nat)

section TimedTable
variable {K V : Type*} (lifetime : Nat)

/-- Values with the times at which they were put in. -/
abbrev TimedTable (K V : Type*) := K → Option (V × Nat)

/-- An entry, as long as it is younger than the lifetime. -/
def young (entry : Option (V × Nat)) (now : Nat) : Option (V × Nat) :=
  entry.filter (fun e => now - e.2 < lifetime)

variable {lifetime}

theorem young_eq_some {entry : Option (V × Nat)} {e : V × Nat} :
    young lifetime entry now = some e ↔ entry = some e ∧ now - e.2 < lifetime := by
  rw [young, Option.filter_eq_some_iff, decide_eq_true_eq]

theorem young_young (entry : Option (V × Nat)) (h : now ≤ later) :
    young lifetime (young lifetime entry now) later = young lifetime entry later := by
  rw [young, young, young, Option.filter_filter]
  congr 1
  funext e
  rw [Bool.and_eq_right_iff_imp, decide_eq_true_eq, decide_eq_true_eq]
  omega

variable [DecidableEq K] (lifetime)

def TimedTable.step (t : TimedTable K V) : TimedEvent K V → TimedTable K V
  | .put k v now => Function.update t k (some (v, now))
  | .sweep now => fun k => young lifetime (t k) now

/-- The value that was put under a key last, whether or not it has been swept out. -/
def lastPut (k : K) : List (TimedEvent K V) → Option (V × Nat)
  | [] => none
  | .put k' v now :: earlier => if k' = k then some (v, now) else lastPut k earlier
  | .sweep _ :: earlier => lastPut k earlier

/-- The table after events of which the latest comes first. -/
def timedTable : List (TimedEvent K V) → TimedTable K V
  | [] => fun _ => none
  | e :: earlier => (timedTable earlier).step lifetime e

variable {lifetime}

/-- Sweeping makes no difference to whoever looks no earlier. -/
theorem young_timedTable {events : List (TimedEvent K V)} (k : K)
    (h : ∀ since, .sweep since ∈ events → since ≤ now) :
    young lifetime (timedTable lifetime events k) now = young lifetime (lastPut k events) now := by
  induction events with
  | nil => rfl
  | cons e earlier ih =>
    have hearlier := ih (fun since hmem => h since (.tail e hmem))
    cases e with
    | put k' v since =>
      rw [timedTable, TimedTable.step, lastPut, Function.update_apply]
      by_cases hk : k' = k
      · rw [if_pos hk, if_pos hk.symm]
      · rw [if_neg hk, if_neg (Ne.symm hk), hearlier]
    | sweep since =>
      rw [timedTable, TimedTable.step, lastPut, young_young _ (h since List.mem_cons_self),
        hearlier]

end TimedTable

end P2PMesh.Base
