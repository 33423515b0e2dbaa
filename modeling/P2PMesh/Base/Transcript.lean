import Mathlib.Data.List.Basic

namespace P2PMesh.Base
set_option autoImplicit true

/-- The symmetric state of a key exchange: a chaining key and a running transcript hash. -/
@[ext] structure Transcript (K H : Type*) where
  chainingKey : K
  hash : H

/-- One absorption into a transcript: public data into the hash, a shared secret into the key. -/
inductive Mix (M D : Type*) where
  | hash (m : M)
  | key (d : D)

section Transcript
variable {K H M D : Type*} (mixHash : H → M → H) (mixKey : K → D → K)

def Transcript.mix (t : Transcript K H) : Mix M D → Transcript K H
  | .hash m => { t with hash := mixHash t.hash m }
  | .key d => { t with chainingKey := mixKey t.chainingKey d }

def Transcript.mixAll (t : Transcript K H) (l : List (Mix M D)) : Transcript K H :=
  l.foldl (Transcript.mix mixHash mixKey) t

def mixedKeys (l : List (Mix M D)) : List D :=
  l.filterMap fun
    | .hash _ => none
    | .key d => some d

/-- The chaining key depends on the shared secrets only, not on what the hash absorbs. -/
theorem Transcript.mixAll_chainingKey (t : Transcript K H) (l : List (Mix M D)) :
    (t.mixAll mixHash mixKey l).chainingKey = (mixedKeys l).foldl mixKey t.chainingKey := by
  induction l generalizing t with
  | nil => rfl
  | cons m l ih =>
    cases m with
    | hash m => exact ih _
    | key d => exact ih _

theorem Transcript.mixAll_append (t : Transcript K H) (l l' : List (Mix M D)) :
    t.mixAll mixHash mixKey (l ++ l') =
      (t.mixAll mixHash mixKey l).mixAll mixHash mixKey l' :=
  List.foldl_append

end Transcript

end P2PMesh.Base
