import P2PMesh.Base.Run
import P2PMesh.NoiseSession

namespace P2PMesh.Noise
open P2PMesh.Base
set_option autoImplicit true

section Recovery
variable {S : CryptoSuite}

def NoiseIKHandshake.receive (r : NoiseIKHandshake S) (message : Bytes) : NoiseIKHandshake S :=
  (r.processInitiatorMessage message).2

def NoiseIKHandshake.Rejects (r : NoiseIKHandshake S) (message : Bytes) : Prop :=
  ∃ e, (r.processInitiatorMessage message).1 = .error e

/-- The genuine message of an initiator is accepted, and both sides complete with crossed keys. -/
def NoiseIKHandshake.CompletesWith (r : NoiseIKHandshake S) (si sr : NoiseStaticKeypair S)
    (ei er : S.Secret) (n : ByteArr 12) : Prop :=
  ∃ message i r' reply respKeys r'' initKeys i',
    (NoiseIKHandshake.initiator si sr.publicKey).buildInitiatorMessage ei n = (.ok message, i) ∧
    r.processInitiatorMessage message = (.ok si.publicKey, r') ∧
    r'.buildResponderMessage er = (.ok (reply, respKeys), r'') ∧
    i.processResponderMessage reply = (.ok initKeys, i') ∧
    (Session.mk initKeys.1 initKeys.2 respKeys.1 respKeys.2).Crossed

theorem responder_completesWith (hS : S.Lawful) (si sr : NoiseStaticKeypair S)
    (ei er : S.Secret) (n : ByteArr 12) :
    (NoiseIKHandshake.responder sr).CompletesWith si sr ei er n := by
  obtain ⟨run, h⟩ := honestRun_exists hS si sr ei er n
  have ha := run.accepted
  rw [h.learned] at ha
  exact ⟨_, _, _, _, _, _, _, _, run.built, ha, run.replied, run.finished, h.crossed⟩

theorem short_message_rejected (r : NoiseIKHandshake S) (hm : m.length < 32 + 12 + 16) :
    r.Rejects m ∧ r.receive m = r := by
  have he : r.processInitiatorMessage m = (.error .invalidState, r) := by
    simp only [NoiseIKHandshake.processInitiatorMessage, hm, ↓reduceIte, ite_self]
  exact ⟨⟨.invalidState, by rw [he]⟩, by rw [NoiseIKHandshake.receive, he]⟩

theorem long_message_mixes {r : NoiseIKHandshake S} (hr : r.state = .init)
    (hm : ¬ m.length < 32 + 12 + 16) (hx : r.Rejects m) :
    (r.receive m).state = .init ∧ (r.receive m).staticKeypair = r.staticKeypair ∧
      (r.receive m).chainingKey =
        mixKey S r.chainingKey (S.diffieHellman r.staticKeypair.secret (.ofSlice 32 m)) := by
  obtain ⟨e, he⟩ := hx
  simp only [NoiseIKHandshake.receive, NoiseIKHandshake.processInitiatorMessage,
    NoiseIKHandshake.mixHash, NoiseIKHandshake.mixKey, hr, hm, ne_eq, not_true_eq_false,
    ↓reduceIte] at he ⊢
  split at he
  · simp only [and_self]
  · split at he
    · next hl => simp only [hl, not_false_eq_true, ↓reduceIte, and_self]
    · cases he

/-- A run of rejected messages leaves the state tag at `init` and the chaining key mixed with
the shared secret of every message that was long enough to be parsed. -/
theorem rejected_run_mixes (junk : List Bytes) {r : NoiseIKHandshake S} (hr : r.state = .init)
    (hj : Guarded NoiseIKHandshake.receive NoiseIKHandshake.Rejects r junk) :
    (junk.foldl NoiseIKHandshake.receive r).state = .init ∧
      (junk.foldl NoiseIKHandshake.receive r).chainingKey =
        ((junk.filter (fun m => ¬ m.length < 32 + 12 + 16)).map
          (fun m => S.diffieHellman r.staticKeypair.secret (.ofSlice 32 m))).foldl
            (mixKey S) r.chainingKey := by
  induction junk generalizing r with
  | nil => exact ⟨hr, rfl⟩
  | cons m junk ih =>
    by_cases hm : m.length < 32 + 12 + 16
    · have he := (short_message_rejected r hm).2
      have hj' := hj.2
      rw [he] at hj'
      simp only [List.foldl_cons, he, List.filter_cons, hm, not_true_eq_false, decide_false,
        Bool.false_eq_true, ↓reduceIte]
      exact ih hr hj'
    · obtain ⟨hs, hk, hc⟩ := long_message_mixes hr hm hj.1
      have h := ih hs hj.2
      rw [hk, hc] at h
      simpa only [List.foldl_cons, List.filter_cons, hm, not_false_eq_true, decide_true,
        ↓reduceIte, List.map_cons] using h

/-- After any run of rejected messages that are all too short, the genuine message completes. -/
theorem rejected_messages_recover (hS : S.Lawful) (si sr : NoiseStaticKeypair S)
    (ei er : S.Secret) (n : ByteArr 12) (junk : List Bytes)
    (hj : Guarded NoiseIKHandshake.receive (fun r m => r.Rejects m ∧ m.length < 32 + 12 + 16)
      (.responder sr) junk) :
    (junk.foldl NoiseIKHandshake.receive (.responder sr)).CompletesWith si sr ei er n := by
  have hr : junk.foldl NoiseIKHandshake.receive (.responder sr) =
      NoiseIKHandshake.responder sr := by
    apply hj.invariant (I := fun r => r = NoiseIKHandshake.responder sr) rfl
    intro r m he hm
    rw [(short_message_rejected r hm.2).2, he]
  rw [hr]
  exact responder_completesWith hS si sr ei er n

theorem rejected_messages_recover_arithmetic :
    (List.foldl NoiseIKHandshake.receive
      (.responder (.generate arithmeticSuite (5 : Nat))) [[], [1, 2, 3]]).CompletesWith
        (.generate _ (3 : Nat)) (.generate _ (5 : Nat)) (7 : Nat) (11 : Nat) (.zero 12) :=
  rejected_messages_recover arithmeticSuite_lawful _ _ _ _ _ _
    ⟨⟨(short_message_rejected _ (by decide)).1, by decide⟩,
      ⟨(short_message_rejected _ (by decide)).1, by decide⟩, trivial⟩

/-- Sixty zero bytes are rejected, and so is every genuine message of this initiator after them. -/
theorem rejected_message_poisons_responder :
    (NoiseIKHandshake.responder (.generate arithmeticSuite (5 : Nat))).Rejects
        (List.replicate 60 0) ∧
      ¬ ((NoiseIKHandshake.responder (.generate arithmeticSuite (5 : Nat))).receive
        (List.replicate 60 0)).CompletesWith (.generate _ (3 : Nat)) (.generate _ (5 : Nat))
          (7 : Nat) (11 : Nat) (.zero 12) := by
  have hx : (NoiseIKHandshake.processInitiatorMessage
      (.responder (.generate arithmeticSuite (5 : Nat))) (List.replicate 60 0)).1 =
        .error .decryptionFailed := by decide +kernel
  refine ⟨⟨_, hx⟩, ?_⟩
  rintro ⟨message, i, r', reply, respKeys, r'', initKeys, i', hb, ha, -⟩
  have hg : (((NoiseIKHandshake.responder (.generate arithmeticSuite (5 : Nat))).receive
      (List.replicate 60 0)).processInitiatorMessage
        (((NoiseIKHandshake.initiator (S := arithmeticSuite) (.generate _ (3 : Nat))
          (.ofNat 32 5)).buildInitiatorMessage (7 : Nat) (.zero 12)).1.toOption.getD [])).1 =
      .error .decryptionFailed := by decide +kernel
  change ((NoiseIKHandshake.initiator (S := arithmeticSuite) (.generate _ (3 : Nat))
    (.ofNat 32 5)).buildInitiatorMessage (7 : Nat) (.zero 12)) = _ at hb
  rw [hb] at hg
  change (NoiseIKHandshake.processInitiatorMessage _ message).1 = _ at hg
  rw [ha] at hg
  cases hg

end Recovery

end P2PMesh.Noise
