import P2PMesh.Base.Ledger
import P2PMesh.NoiseSession

namespace P2PMesh.Noise
open P2PMesh.Base
set_option autoImplicit true

/-- A transport key object, with the number of `encrypt` calls made on it as a history variable. -/
structure KeyObject where
  transport : NoiseTransportKey
  calls : ℕ

/-- One party: its handshake object, the transport keys obtained from it, and as a history
variable the key bytes and nonce of every successful encryption. -/
structure Party (S : CryptoSuite) where
  handshake : NoiseIKHandshake S
  objects : List KeyObject
  issued : List (ByteArr 32 × ByteArr 12)

inductive Call (S : CryptoSuite) where
  | buildInitiatorMessage (ephemeral : S.Secret) (nonce : ByteArr 12)
  | processResponderMessage (response : Bytes)
  | processInitiatorMessage (message : Bytes)
  | buildResponderMessage (ephemeral : S.Secret)
  | transportKeys
  | encrypt (i : ℕ) (plaintext : Bytes)

section Party
variable {S : CryptoSuite}

def Party.fresh (handshake : NoiseIKHandshake S) : Party S := ⟨handshake, [], []⟩

def Party.obtain (p : Party S) (keys : NoiseTransportKey × NoiseTransportKey) : Party S :=
  { p with objects := p.objects ++ [⟨keys.1, 0⟩] ++ [⟨keys.2, 0⟩] }

variable (overflowChecks : Bool)

def Party.encrypt (p : Party S) (i : ℕ) (plaintext : Bytes) : Party S :=
  match p.objects[i]? with
  | none => p
  | some o =>
    let r := o.transport.encrypt S overflowChecks plaintext
    { p with
      objects := p.objects.set i ⟨r.2, o.calls + 1⟩
      issued := if r.1.toBool then p.issued ++ [(o.transport.key, nonceBytes o.transport.nonce)]
        else p.issued }

def Party.step (p : Party S) : Call S → Party S
  | .buildInitiatorMessage e n =>
    { p with handshake := (p.handshake.buildInitiatorMessage e n).2 }
  | .processInitiatorMessage m =>
    { p with handshake := (p.handshake.processInitiatorMessage m).2 }
  | .processResponderMessage m =>
    match p.handshake.processResponderMessage m with
    | (.ok keys, hs) => { p with handshake := hs }.obtain keys
    | (.error _, hs) => { p with handshake := hs }
  | .buildResponderMessage e =>
    match p.handshake.buildResponderMessage e with
    | (.ok (_, keys), hs) => { p with handshake := hs }.obtain keys
    | (.error _, hs) => { p with handshake := hs }
  | .transportKeys =>
    match p.handshake.transportKeys with
    | some keys => p.obtain keys
    | none => p
  | .encrypt i plaintext => p.encrypt overflowChecks i plaintext

/-- An encryption on a key object while no other object with its key bytes has been used, and in
a build without overflow checks before the counter of the object wraps. -/
def Party.EncryptsAlone (p : Party S) : Call S → Prop
  | .encrypt i _ => ∀ o, p.objects[i]? = some o →
      (overflowChecks = false → o.calls < 2 ^ 64) ∧
      ∀ (j : ℕ) o', p.objects[j]? = some o' → o'.transport.key = o.transport.key →
        0 < o'.calls → j = i
  | _ => True

def Party.EncryptSucceeds (p : Party S) : Call S → Prop
  | .encrypt i plaintext => ∀ o, p.objects[i]? = some o →
      (o.transport.encrypt S overflowChecks plaintext).1.toBool = true
  | _ => True

instance (p : Party S) (c : Call S) : Decidable (p.EncryptsAlone overflowChecks c) :=
  match c with
  | .encrypt i _ => decidable_of_iff (∀ o ∈ p.objects[i]?,
      (overflowChecks = false → o.calls < 2 ^ 64) ∧ ∀ j < p.objects.length,
        ∀ o' ∈ p.objects[j]?, o'.transport.key = o.transport.key → 0 < o'.calls → j = i) (by
      constructor
      · intro h o ho
        refine ⟨(h o ho).1, fun j o' hj => (h o ho).2 j ?_ o' hj⟩
        exact (List.getElem?_eq_some_iff.mp hj).1
      · intro h o ho
        exact ⟨(h o ho).1, fun j _ o' hj => (h o ho).2 j o' hj⟩)
  | .buildInitiatorMessage _ _ | .processResponderMessage _ | .processInitiatorMessage _
  | .buildResponderMessage _ | .transportKeys => .isTrue trivial

def KeyObject.holder (o : KeyObject) : ByteArr 32 × ℕ := (o.transport.key, o.calls)

def issuedPair (d : ByteArr 32 × ℕ) : ByteArr 32 × ByteArr 12 :=
  (d.1, nonceBytes (UInt64.ofNat d.2))

/-- The counter of a key object: it stops at the largest `u64` in a build with overflow checks
and wraps in a build without them. -/
def KeyObject.Counts (o : KeyObject) : Prop :=
  o.transport.nonce.toNat =
    if overflowChecks then min o.calls (2 ^ 64 - 1) else o.calls % 2 ^ 64

/-- A party behaves as a ledger of its key objects. -/
structure Party.Refines (p : Party S) (l : Ledger (ByteArr 32)) : Prop where
  holders : l.holders = p.objects.map KeyObject.holder
  issued : p.issued = l.drawn.map issuedPair
  counts : ∀ o ∈ p.objects, o.Counts overflowChecks

variable {overflowChecks}

theorem Party.Refines.obtain {p : Party S} {l : Ledger (ByteArr 32)}
    (h : p.Refines overflowChecks l) (k k' : ByteArr 32) :
    (p.obtain (.new k, .new k')).Refines overflowChecks
      ((l.step (.grant k)).step (.grant k')) where
  holders := by
    simp only [Party.obtain, Ledger.step, h.holders, List.map_append, List.map_cons, List.map_nil]
    rfl
  issued := h.issued
  counts := by
    have hz (k : ByteArr 32) : (KeyObject.mk (.new k) 0).Counts overflowChecks := by
      cases overflowChecks <;> rfl
    intro o ho
    simp only [Party.obtain, List.append_assoc, List.mem_append, List.mem_singleton] at ho
    rcases ho with ho | he | he
    · exact h.counts o ho
    · rw [he]
      exact hz k
    · rw [he]
      exact hz k'

theorem Party.Refines.handshake {p : Party S} {l : Ledger (ByteArr 32)}
    (h : p.Refines overflowChecks l) (hs : NoiseIKHandshake S) :
    ({ p with handshake := hs } : Party S).Refines overflowChecks l :=
  ⟨h.holders, h.issued, h.counts⟩

theorem KeyObject.Counts.encrypt {o : KeyObject} (h : o.Counts overflowChecks)
    (plaintext : Bytes) :
    (KeyObject.mk (o.transport.encrypt S overflowChecks plaintext).2 (o.calls + 1)).Counts
      overflowChecks := by
  have he : (o.transport.encrypt S overflowChecks plaintext).2.nonce =
      (addU64 overflowChecks o.transport.nonce 1).getD o.transport.nonce :=
    (NoiseTransportKey.encrypt_eq o.transport plaintext).1
  have hlt := o.transport.nonce.toNat_lt
  simp only [KeyObject.Counts] at h ⊢
  rw [he]
  cases overflowChecks with
  | true =>
    simp only [↓reduceIte] at h ⊢
    cases hn : addU64 true o.transport.nonce 1 with
    | none =>
      -- the call panics at the largest counter and leaves it there
      have hm := addU64_none hn
      have h1 : (1 : UInt64).toNat = 1 := rfl
      rw [Option.getD_none]
      omega
    | some next =>
      have hf := addU64_fits hn
      have hb := next.toNat_lt
      have h1 : (1 : UInt64).toNat = 1 := rfl
      rw [Option.getD_some]
      omega
  | false =>
    simp only [Bool.false_eq_true, ↓reduceIte] at h ⊢
    rw [addU64_wraps, Option.getD_some, UInt64.toNat_add, h]
    have h1 : (1 : UInt64).toNat = 1 := rfl
    omega

theorem KeyObject.Counts.nonce_eq {o : KeyObject} (h : o.Counts overflowChecks)
    (hs : (o.transport.encrypt S overflowChecks plaintext).1.toBool = true) :
    o.transport.nonce = UInt64.ofNat o.calls ∧
      (overflowChecks = true → o.calls < 2 ^ 64) := by
  have hi := (NoiseTransportKey.encrypt_eq o.transport plaintext).2 hs
  obtain ⟨next, hn⟩ := Option.isSome_iff_exists.mp hi
  simp only [KeyObject.Counts] at h
  cases overflowChecks with
  | true =>
    have hf := addU64_fits hn
    have hb := next.toNat_lt
    have h1 : (1 : UInt64).toNat = 1 := rfl
    simp only [↓reduceIte] at h
    have hc : o.transport.nonce.toNat = o.calls := by omega
    refine ⟨?_, fun _ => by omega⟩
    rw [← hc, UInt64.ofNat_toNat]
  | false =>
    simp only [Bool.false_eq_true, ↓reduceIte] at h
    refine ⟨?_, nofun⟩
    rw [← UInt64.toNat_inj, h, UInt64.toNat_ofNat']

theorem Party.Refines.encrypt {p : Party S} {l : Ledger (ByteArr 32)}
    (h : p.Refines overflowChecks l) {i : ℕ} (ho : p.objects[i]? = some o) (plaintext : Bytes) :
    (p.encrypt overflowChecks i plaintext).Refines overflowChecks
      (l.step (.draw i (o.transport.encrypt S overflowChecks plaintext).1.toBool)) := by
  have hl : l.holders[i]? = some (o.transport.key, o.calls) := by
    rw [h.holders, List.getElem?_map, ho]
    rfl
  have hc := h.counts o (List.mem_of_getElem? ho)
  simp only [Party.encrypt, ho, Ledger.step, hl]
  refine ⟨?_, ?_, ?_⟩
  · rw [h.holders, List.map_set]
    simp only [KeyObject.holder, NoiseTransportKey.encrypt_key]
  · cases hb : (o.transport.encrypt S overflowChecks plaintext).1.toBool with
    | false => simpa only [hb, Bool.false_eq_true, ↓reduceIte] using h.issued
    | true =>
      simp only [↓reduceIte, List.map_append, List.map_cons, List.map_nil, h.issued, issuedPair]
      rw [(hc.nonce_eq hb).1]
  · intro o' ho'
    rcases List.mem_or_eq_of_mem_set ho' with ho' | he
    · exact h.counts o' ho'
    · rw [he]
      exact hc.encrypt plaintext

theorem Party.Refines.exclusive {p : Party S} {l : Ledger (ByteArr 32)}
    (h : p.Refines overflowChecks l) {i : ℕ} (ho : p.objects[i]? = some o) (b : Bool) :
    l.Exclusive (.draw i b) ↔ ∀ (j : ℕ) o', p.objects[j]? = some o' →
      o'.transport.key = o.transport.key → 0 < o'.calls → j = i := by
  simp only [Ledger.Exclusive, h.holders, List.getElem?_map]
  constructor
  · intro hx j o' hj hk hc
    exact hx o.transport.key o.calls (by rw [ho]; rfl) j o'.calls
      (by rw [hj, ← hk]; rfl) hc
  · intro hx k c hi j c' hj hc
    rw [ho] at hi
    cases hi
    obtain ⟨o', ho', he⟩ := Option.map_eq_some_iff.mp hj
    obtain ⟨hk, hn⟩ := Prod.mk.inj he
    exact hx j o' ho' hk (hn ▸ hc)

/-- A party with the ledger that explains it: distinct draws, all below the counter's range. -/
structure Party.Sound (overflowChecks : Bool) (p : Party S) (l : Ledger (ByteArr 32)) : Prop where
  refines : p.Refines overflowChecks l
  inv : l.Inv
  bounded : ∀ k c, (k, c) ∈ l.drawn → c < 2 ^ 64

theorem Party.Sound.obtain {p : Party S} {l : Ledger (ByteArr 32)}
    (h : p.Sound overflowChecks l) (k k' : ByteArr 32) :
    (p.obtain (.new k, .new k')).Sound overflowChecks ((l.step (.grant k)).step (.grant k')) :=
  ⟨h.refines.obtain k k', (h.inv.grant k).grant k', h.bounded⟩

theorem Party.Sound.handshake {p : Party S} {l : Ledger (ByteArr 32)}
    (h : p.Sound overflowChecks l) (hs : NoiseIKHandshake S) :
    ({ p with handshake := hs } : Party S).Sound overflowChecks l :=
  ⟨h.refines.handshake hs, h.inv, h.bounded⟩

theorem issuedPair_injOn {l : List (ByteArr 32 × ℕ)} (hb : ∀ k c, (k, c) ∈ l → c < 2 ^ 64) :
    Set.InjOn issuedPair {d | d ∈ l} := by
  rintro ⟨k, c⟩ hd ⟨k', c'⟩ hd' he
  obtain ⟨hk, hn⟩ := Prod.mk.inj he
  have hv := List.append_cancel_left (congrArg ByteArr.bytes hn)
  have hlt (n : ℕ) : (UInt64.ofNat n).toNat < 256 ^ 8 := (UInt64.ofNat n).toNat_lt
  have hm := toBe_injective (hlt c) (hlt c') hv
  rw [UInt64.toNat_ofNat', UInt64.toNat_ofNat', Nat.mod_eq_of_lt (hb k c hd),
    Nat.mod_eq_of_lt (hb k' c' hd')] at hm
  exact Prod.ext hk hm

theorem Party.Sound.nodup {p : Party S} {l : Ledger (ByteArr 32)}
    (h : p.Sound overflowChecks l) : p.issued.Nodup := by
  rw [h.refines.issued]
  exact h.inv.nodup.map_on (fun d hd d' hd' he => issuedPair_injOn h.bounded hd hd' he)

theorem Party.Sound.encrypt {p : Party S} {l : Ledger (ByteArr 32)}
    (h : p.Sound overflowChecks l) {i : ℕ} (ho : p.objects[i]? = some o)
    (hx : p.EncryptsAlone overflowChecks (.encrypt i plaintext)) :
    (p.encrypt overflowChecks i plaintext).Sound overflowChecks
      (l.step (.draw i (o.transport.encrypt S overflowChecks plaintext).1.toBool)) := by
  obtain ⟨hcalls, halone⟩ := hx o ho
  refine ⟨h.refines.encrypt ho plaintext, h.inv.draw ((h.refines.exclusive ho _).mpr halone), ?_⟩
  have hl : l.holders[i]? = some (o.transport.key, o.calls) := by
    rw [h.refines.holders, List.getElem?_map, ho]
    rfl
  have hc := h.refines.counts o (List.mem_of_getElem? ho)
  intro k c hd
  simp only [Ledger.step, hl] at hd
  split at hd
  · next hb =>
    rcases List.mem_append.mp hd with hd | hd
    · exact h.bounded k c hd
    · cases List.mem_singleton.mp hd
      cases hoc : overflowChecks with
      | true =>
        subst hoc
        exact (hc.nonce_eq hb).2 rfl
      | false => exact hcalls hoc
  · exact h.bounded k c hd

/-- The ledger operations of the calls that are not `encrypt`: the two grants of a call that
returns keys, or nothing. -/
theorem Party.step_obtains (p : Party S) (c : Call S) (hc : ∀ i m, c ≠ .encrypt i m) :
    (∃ hs, p.step overflowChecks c = { p with handshake := hs }) ∨
      ∃ hs k k', p.step overflowChecks c =
        ({ p with handshake := hs } : Party S).obtain (.new k, .new k') := by
  cases c with
  | buildInitiatorMessage e n => exact .inl ⟨_, rfl⟩
  | processInitiatorMessage m => exact .inl ⟨_, rfl⟩
  | processResponderMessage m =>
    simp only [Party.step, NoiseIKHandshake.processResponderMessage]
    split
    · next hr =>
      split at hr
      · cases hr
      · split at hr
        · cases hr
        · split at hr <;> cases hr
          exact .inr ⟨_, _, _, rfl⟩
    · exact .inl ⟨_, rfl⟩
  | buildResponderMessage e =>
    simp only [Party.step, NoiseIKHandshake.buildResponderMessage]
    split
    · next hr =>
      split at hr <;> cases hr
      exact .inr ⟨_, _, _, rfl⟩
    · exact .inl ⟨_, rfl⟩
  | transportKeys =>
    simp only [Party.step, NoiseIKHandshake.transportKeys]
    split
    · next hr =>
      split at hr <;> cases hr
      exact .inr ⟨p.handshake, _, _, rfl⟩
    · exact .inl ⟨p.handshake, rfl⟩
  | encrypt i m => exact (hc i m rfl).elim

/-- One call that encrypts alone keeps the party explained by a ledger, and a ledger that has
recorded every draw keeps doing so if the call succeeds. -/
theorem Party.Sound.step {p : Party S} {l : Ledger (ByteArr 32)}
    (h : p.Sound overflowChecks l) {c : Call S} (hx : p.EncryptsAlone overflowChecks c) :
    ∃ l', (p.step overflowChecks c).Sound overflowChecks l' ∧
      (p.EncryptSucceeds overflowChecks c → l.Full → l'.Full) := by
  by_cases hc : ∃ i m, c = .encrypt i m
  · obtain ⟨i, m, he⟩ := hc
    subst he
    cases ho : p.objects[i]? with
    | none =>
      refine ⟨l, ?_, fun _ hf => hf⟩
      simpa only [Party.step, Party.encrypt, ho] using h
    | some o =>
      refine ⟨_, h.encrypt ho hx, fun hs hf => ?_⟩
      rw [hs o ho]
      exact hf.draw i
  · have hc' : ∀ i m, c ≠ .encrypt i m := fun i m he => hc ⟨i, m, he⟩
    rcases p.step_obtains c hc' with ⟨hs, he⟩ | ⟨hs, k, k', he⟩
    · rw [he]
      exact ⟨l, h.handshake hs, fun _ hf => hf⟩
    · rw [he]
      exact ⟨_, (h.handshake hs).obtain k k', fun _ hf => (hf.grant k).grant k'⟩

theorem Party.fresh_sound (hs : NoiseIKHandshake S) :
    (Party.fresh hs).Sound overflowChecks ⟨[], []⟩ where
  refines := ⟨rfl, rfl, fun _ ho => (List.not_mem_nil ho).elim⟩
  inv := Ledger.inv_empty
  bounded := fun _ _ hd => (List.not_mem_nil hd).elim

theorem Party.run_sound {calls : List (Call S)}
    (hg : Guarded (Party.step overflowChecks) (Party.EncryptsAlone overflowChecks)
      (.fresh hs) calls) :
    ∃ l, (calls.foldl (Party.step overflowChecks) (.fresh hs)).Sound overflowChecks l :=
  hg.invariant (I := fun p => ∃ l, p.Sound overflowChecks l) ⟨_, Party.fresh_sound hs⟩
    (fun _ _ ⟨_, h⟩ hx => (h.step hx).imp fun _ h' => h'.1)

theorem Party.run_full {calls : List (Call S)}
    (hg : Guarded (Party.step overflowChecks) (fun p c => p.EncryptsAlone overflowChecks c ∧
      p.EncryptSucceeds overflowChecks c) (.fresh hs) calls) :
    ∃ l, (calls.foldl (Party.step overflowChecks) (.fresh hs)).Sound overflowChecks l ∧
      l.Full := by
  apply hg.invariant (I := fun p => ∃ l, p.Sound overflowChecks l ∧ l.Full)
  · exact ⟨_, Party.fresh_sound hs, fun i k n h => by simp at h⟩
  · rintro p c ⟨l, h, hf⟩ ⟨hx, hs⟩
    obtain ⟨l', h', hf'⟩ := h.step hx
    exact ⟨l', h', hf' hs hf⟩

theorem Party.step_issued (p : Party S) (c : Call S) :
    p.issued <+: (p.step overflowChecks c).issued := by
  by_cases hc : ∃ i m, c = .encrypt i m
  · obtain ⟨i, m, he⟩ := hc
    subst he
    simp only [Party.step, Party.encrypt]
    split
    · exact List.prefix_rfl
    · split
      · exact List.prefix_append _ _
      · exact List.prefix_rfl
  · have hsame : (p.step overflowChecks c).issued = p.issued := by
      rcases p.step_obtains c (fun i m he => hc ⟨i, m, he⟩) with ⟨hs, he⟩ | ⟨hs, k, k', he⟩
      · rw [he]
      · rw [he, Party.obtain]
    exact ⟨[], (List.append_nil _).trans hsame.symm⟩

theorem Party.run_issued (p : Party S) (calls : List (Call S)) :
    p.issued <+: (calls.foldl (Party.step overflowChecks) p).issued :=
  run_invariant (I := fun p' : Party S => p.issued <+: p'.issued) _ List.prefix_rfl
    (fun p' c h => h.trans (p'.step_issued c)) calls

theorem Party.Sound.repeats {p : Party S} {l : Ledger (ByteArr 32)}
    (h : p.Sound overflowChecks l) (hf : l.Full) {c : Call S}
    (hs : p.EncryptSucceeds overflowChecks c) (hx : ¬ p.EncryptsAlone overflowChecks c) :
    ¬ (p.step overflowChecks c).issued.Nodup := by
  cases c with
  | encrypt i m =>
    simp only [Party.EncryptsAlone, not_forall] at hx
    obtain ⟨o, ho, hx⟩ := hx
    have hb := hs o ho
    have hr := h.refines.encrypt ho m
    rw [hb] at hr
    have hl : l.holders[i]? = some (o.transport.key, o.calls) := by
      rw [h.refines.holders, List.getElem?_map, ho]
      rfl
    rw [Party.step, hr.issued]
    by_cases hx' : l.Exclusive (.draw i true)
    · -- the counter has wrapped: the object repeats its own first nonce
      rw [h.refines.exclusive ho] at hx'
      have hwrap : 2 ^ 64 ≤ o.calls := by
        by_contra hlt
        exact hx ⟨fun _ => Nat.lt_of_not_le hlt, hx'⟩
      have hmod : issuedPair (o.transport.key, o.calls - 2 ^ 64) =
          issuedPair (o.transport.key, o.calls) := by
        have hu : UInt64.ofNat (o.calls - 2 ^ 64) = UInt64.ofNat o.calls := by
          rw [← UInt64.toNat_inj, UInt64.toNat_ofNat', UInt64.toNat_ofNat']
          omega
        simp only [issuedPair, hu]
      have hmem : (o.transport.key, o.calls - 2 ^ 64) ∈ l.drawn :=
        hf i o.transport.key o.calls hl _ (by omega)
      simp only [Ledger.step, hl, ↓reduceIte, List.map_append, List.map_cons, List.map_nil]
      intro hn
      exact (List.nodup_append.mp hn).2.2 _ (List.mem_map_of_mem hmem) _
        (List.mem_singleton_self _) hmod
    · exact fun hn => hf.repeats h.inv hx' (List.Nodup.of_map _ hn)
  | _ => exact (hx trivial).elim

/-- The encryptions of a party never repeat a pair of key and nonce in a run in which each is
made alone; and where every call succeeds, that is the only way not to repeat one. -/
theorem transport_nonces_unique (overflowChecks : Bool) (hs : NoiseIKHandshake S)
    (calls : List (Call S)) :
    (Guarded (Party.step overflowChecks) (Party.EncryptsAlone overflowChecks) (.fresh hs) calls →
      (calls.foldl (Party.step overflowChecks) (.fresh hs)).issued.Nodup) ∧
    (Guarded (Party.step overflowChecks) (Party.EncryptSucceeds overflowChecks) (.fresh hs) calls →
      (calls.foldl (Party.step overflowChecks) (.fresh hs)).issued.Nodup →
      Guarded (Party.step overflowChecks) (Party.EncryptsAlone overflowChecks)
        (.fresh hs) calls) := by
  constructor
  · intro hg
    obtain ⟨l, h⟩ := Party.run_sound hg
    exact h.nodup
  · intro hsucc hn
    by_contra hg
    obtain ⟨l₁, c, l₂, he, hg₁, hc⟩ := exists_first_violation hg
    subst he
    obtain ⟨hs₁, hs₂⟩ := guarded_append.mp hsucc
    obtain ⟨l, h, hf⟩ := Party.run_full (guarded_and.mpr ⟨hg₁, hs₁⟩)
    apply h.repeats hf hs₂.1 hc
    rw [List.foldl_append] at hn
    exact (Party.run_issued _ l₂).sublist.nodup hn

theorem transport_nonces_unique_arithmetic :
    (List.foldl (Party.step false)
      (.fresh (S := arithmeticSuite) (.initiator (.generate _ (3 : Nat)) (.ofNat 32 5)))
      [.buildInitiatorMessage (7 : Nat) (.zero 12), .processResponderMessage (toBe 32 11),
        .encrypt 0 [1], .encrypt 0 [2], .encrypt 1 [3]]).issued.Nodup :=
  (transport_nonces_unique false _ _).1 (by decide +kernel)

/-- Keys from the completing call and from `transportKeys` encrypt under one key and nonce. -/
theorem transport_keys_repeat_nonce :
    ¬ (List.foldl (Party.step false)
      (.fresh (S := arithmeticSuite) (.initiator (.generate _ (3 : Nat)) (.ofNat 32 5)))
      [.buildInitiatorMessage (7 : Nat) (.zero 12), .processResponderMessage (toBe 32 11),
        .transportKeys, .encrypt 0 [1], .encrypt 2 [2]]).issued.Nodup := by
  decide +kernel

end Party

end P2PMesh.Noise
