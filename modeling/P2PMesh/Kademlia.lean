import Mathlib.Data.List.Nodup
import P2PMesh.Base.Net
import P2PMesh.Base.Run
import P2PMesh.Base.XorMetric

namespace P2PMesh.Kademlia
open P2PMesh.Base P2PMesh.Base.XorMetric
set_option autoImplicit true

abbrev KademliaId := ByteArr 20

/-- The most peers of a bucket. -/
def K : Nat := 20

structure KademliaPeer where
  nodeId : KademliaId
  addr : SocketAddr
  lastSeen : Nat
deriving DecidableEq

structure KBucket where
  peers : List KademliaPeer
  lastUpdated : Nat

/-- The table, with a bucket for each bit of an id. -/
structure KademliaDht where
  ourId : KademliaId
  buckets : List KBucket
  count : buckets.length = 160

/-- Our id is drawn at random. -/
def KademliaDht.new (ourId : KademliaId) (created : Nat → Nat) : KademliaDht where
  ourId := ourId
  buckets := (List.range 160).map (fun i => ⟨[], created i⟩)
  count := by rw [List.length_map, List.length_range]

/-- The loop over the bytes of a distance. -/
def bucketLoop : Nat → Bytes → Nat
  | _, [] => 0
  | byteIdx, byte :: rest =>
    if byte ≠ 0 then min (byteIdx * 8 + leadingZeros byte) 159 else bucketLoop (byteIdx + 1) rest

def bucketIndex (ourId peerId : KademliaId) : Nat := bucketLoop 0 (distance ourId peerId).bytes

/-- The first peer with an id has been seen again. -/
def touch (nodeId : KademliaId) (seen : Nat) : List KademliaPeer → List KademliaPeer
  | [] => []
  | p :: peers =>
    if p.nodeId = nodeId then { p with lastSeen := seen } :: peers else p :: touch nodeId seen peers

/-- A call of the function that adds a peer, with the times that it reads. -/
structure AddPeer where
  peer : KademliaPeer
  updated : Nat
  seen : Nat

def KBucket.add (bucket : KBucket) (call : AddPeer) : KBucket where
  peers :=
    if bucket.peers.any (fun p => p.nodeId = call.peer.nodeId) then
      touch call.peer.nodeId call.seen bucket.peers
    else if bucket.peers.length < K then bucket.peers ++ [call.peer]
    else bucket.peers
  lastUpdated := call.updated

def KademliaDht.addPeer (dht : KademliaDht) (call : AddPeer) : KademliaDht where
  ourId := dht.ourId
  buckets := dht.buckets.modify (bucketIndex dht.ourId call.peer.nodeId) (fun b => b.add call)
  count := by rw [List.length_modify, dht.count]

def KademliaDht.addAll (dht : KademliaDht) (calls : List AddPeer) : KademliaDht :=
  calls.foldl KademliaDht.addPeer dht

/-- The peers of a bucket. -/
def KademliaDht.peersAt (dht : KademliaDht) (i : Nat) : List KademliaPeer :=
  (dht.buckets[i]?).elim [] KBucket.peers

/-- What is kept of a peer for good. -/
def KademliaPeer.contact (p : KademliaPeer) : KademliaId × SocketAddr := (p.nodeId, p.addr)

def KademliaDht.contactsAt (dht : KademliaDht) (i : Nat) : List (KademliaId × SocketAddr) :=
  (dht.peersAt i).map KademliaPeer.contact

def KademliaDht.idsAt (dht : KademliaDht) (i : Nat) : List KademliaId :=
  (dht.peersAt i).map KademliaPeer.nodeId

/-- The buckets are as the protocol has them. -/
structure Sound (dht : KademliaDht) : Prop where
  capacity : ∀ i, (dht.peersAt i).length ≤ K
  distinct : ∀ i, (dht.idsAt i).Nodup
  placed : ∀ i, ∀ id ∈ dht.idsAt i, FirstDifference dht.ourId id i
  notOwn : ∀ i, dht.ourId ∉ dht.idsAt i

/-- No peer of a table is dropped on the way to another. -/
def Kept (dht dht' : KademliaDht) : Prop :=
  ∀ i, ∀ contact ∈ dht.contactsAt i, contact ∈ dht'.contactsAt i

/-- A peer with our own id is added to a full bucket only. -/
def OwnIdFull (dht : KademliaDht) (call : AddPeer) : Prop :=
  call.peer.nodeId = dht.ourId → K ≤ (dht.peersAt 0).length

section Index

theorem bucketLoop_zero {data : Bytes} (h : ∀ x ∈ data, x = 0) (byteIdx : Nat) :
    bucketLoop byteIdx data = 0 := by
  induction data generalizing byteIdx with
  | nil => rfl
  | cons b data ih =>
    rw [List.forall_mem_cons] at h
    rw [bucketLoop, if_neg (fun hb => hb h.1)]
    exact ih h.2 _

theorem bucketLoop_firstSet {data : Bytes} (h : ¬ ∀ x ∈ data, x = 0) (byteIdx : Nat) :
    ∃ i < 8 * data.length, FirstSet data i ∧
      bucketLoop byteIdx data = min (byteIdx * 8 + i) 159 := by
  induction data generalizing byteIdx with
  | nil => exact (h fun x hx => (List.not_mem_nil hx).elim).elim
  | cons b data ih =>
    rw [bucketLoop, List.length_cons]
    by_cases hb : b = 0
    · subst hb
      have hrest : ¬ ∀ x ∈ data, x = 0 := fun hrest => h (List.forall_mem_cons.mpr ⟨rfl, hrest⟩)
      obtain ⟨i, hi, hset, hloop⟩ := ih hrest (byteIdx + 1)
      refine ⟨8 + i, by omega, hset.cons_zero, ?_⟩
      rw [if_neg (fun hne => hne rfl), hloop, Nat.succ_mul, Nat.add_assoc]
    · have hlt := (leadingZeros_firstSet hb).1
      refine ⟨leadingZeros b, by omega, firstSet_head hb data, ?_⟩
      rw [if_pos hb]

theorem bucketIndex_self (ourId : KademliaId) : bucketIndex ourId ourId = 0 :=
  bucketLoop_zero (distance_self ourId) 0

/-- The bucket of another id is numbered by the first bit in which it differs from ours. -/
theorem firstDifference_bucketIndex {ourId id : KademliaId} (h : id ≠ ourId) :
    FirstDifference ourId id (bucketIndex ourId id) := by
  have hdistance : ¬ ∀ x ∈ (distance ourId id).bytes, x = 0 :=
    fun hzero => h (eq_of_distance_zero hzero).symm
  obtain ⟨i, hi, hset, hloop⟩ := bucketLoop_firstSet hdistance 0
  rw [(distance ourId id).length_eq] at hi
  have hindex : bucketIndex ourId id = i := by
    rw [bucketIndex, hloop]
    omega
  rw [hindex]
  exact firstSet_distance_iff.mp hset

theorem bucketIndex_lt (ourId id : KademliaId) : bucketIndex ourId id < 160 := by
  by_cases h : ∀ x ∈ (distance ourId id).bytes, x = 0
  · rw [bucketIndex, bucketLoop_zero h]
    decide
  · obtain ⟨i, -, -, hloop⟩ := bucketLoop_firstSet h 0
    rw [bucketIndex, hloop]
    omega

end Index

section Adding
variable (dht : KademliaDht) (call : AddPeer)

theorem touch_contacts (nodeId : KademliaId) (seen : Nat) (peers : List KademliaPeer) :
    (touch nodeId seen peers).map KademliaPeer.contact = peers.map KademliaPeer.contact := by
  induction peers with
  | nil => rfl
  | cons p peers ih =>
    rw [touch]
    split
    · rfl
    · rw [List.map_cons, ih, List.map_cons]

theorem idsAt_eq (i : Nat) : dht.idsAt i = (dht.contactsAt i).map Prod.fst := by
  rw [KademliaDht.contactsAt, List.map_map]
  rfl

theorem idsAt_length (i : Nat) : (dht.idsAt i).length = (dht.peersAt i).length :=
  List.length_map _

/-- The bucket that a call goes to. -/
def indexOf : Nat := bucketIndex dht.ourId call.peer.nodeId

theorem contactsAt_addPeer_of_ne {i : Nat} (h : i ≠ indexOf dht call) :
    (dht.addPeer call).contactsAt i = dht.contactsAt i := by
  rw [KademliaDht.contactsAt, KademliaDht.peersAt, KademliaDht.addPeer]
  dsimp only
  rw [← indexOf, List.getElem?_modify_ne _ _ h.symm]
  rfl

theorem peersAt_addPeer : ∃ bucket ∈ dht.buckets, dht.peersAt (indexOf dht call) = bucket.peers ∧
    (dht.addPeer call).peersAt (indexOf dht call) = (bucket.add call).peers := by
  have hlt : indexOf dht call < dht.buckets.length := by
    rw [dht.count]
    exact bucketIndex_lt _ _
  refine ⟨dht.buckets[indexOf dht call], List.getElem_mem hlt, ?_, ?_⟩
  · rw [KademliaDht.peersAt, List.getElem?_eq_getElem hlt]
    rfl
  · rw [KademliaDht.peersAt, KademliaDht.addPeer]
    dsimp only
    rw [← indexOf, List.getElem?_modify_eq, List.getElem?_eq_getElem hlt]
    rfl

/-- What a call does: a known peer and a full bucket leave the contacts as they are, and another
peer comes behind those of its bucket. -/
theorem addPeer_cases :
    ((call.peer.nodeId ∈ dht.idsAt (indexOf dht call) ∨
        K ≤ (dht.peersAt (indexOf dht call)).length) ∧
      ∀ i, (dht.addPeer call).contactsAt i = dht.contactsAt i) ∨
    (call.peer.nodeId ∉ dht.idsAt (indexOf dht call) ∧
      (dht.peersAt (indexOf dht call)).length < K ∧
      (dht.addPeer call).contactsAt (indexOf dht call) =
        dht.contactsAt (indexOf dht call) ++ [call.peer.contact]) := by
  obtain ⟨bucket, -, hbefore, hafter⟩ := peersAt_addPeer dht call
  have hsame (h : (bucket.add call).peers.map KademliaPeer.contact =
      bucket.peers.map KademliaPeer.contact) (i : Nat) :
      (dht.addPeer call).contactsAt i = dht.contactsAt i := by
    by_cases hi : i = indexOf dht call
    · rw [hi, KademliaDht.contactsAt, KademliaDht.contactsAt, hafter, hbefore, h]
    · exact contactsAt_addPeer_of_ne dht call hi
  have hknown : (bucket.peers.any fun p => p.nodeId = call.peer.nodeId) = true ↔
      call.peer.nodeId ∈ dht.idsAt (indexOf dht call) := by
    rw [KademliaDht.idsAt, hbefore, List.any_eq_true, List.mem_map]
    simp only [decide_eq_true_eq]
  by_cases hmem : call.peer.nodeId ∈ dht.idsAt (indexOf dht call)
  · refine .inl ⟨.inl hmem, hsame ?_⟩
    rw [KBucket.add, if_pos (hknown.mpr hmem)]
    exact touch_contacts _ _ _
  · by_cases hfull : K ≤ (dht.peersAt (indexOf dht call)).length
    · refine .inl ⟨.inr hfull, hsame ?_⟩
      rw [hbefore] at hfull
      rw [KBucket.add, if_neg (mt hknown.mp hmem), if_neg (Nat.not_lt.mpr hfull)]
    · refine .inr ⟨hmem, Nat.not_le.mp hfull, ?_⟩
      rw [hbefore] at hfull
      rw [KademliaDht.contactsAt, KademliaDht.contactsAt, hafter, hbefore, KBucket.add,
        if_neg (mt hknown.mp hmem), if_pos (Nat.not_le.mp hfull), List.map_append]
      rfl

theorem idsAt_addPeer (i : Nat) : (dht.addPeer call).idsAt i = dht.idsAt i ∨
    i = indexOf dht call ∧ call.peer.nodeId ∉ dht.idsAt i ∧ (dht.peersAt i).length < K ∧
      (dht.addPeer call).idsAt i = dht.idsAt i ++ [call.peer.nodeId] := by
  rcases addPeer_cases dht call with ⟨-, hsame⟩ | ⟨hfresh, hroom, hadded⟩
  · left
    rw [idsAt_eq, hsame, ← idsAt_eq]
  · by_cases hi : i = indexOf dht call
    · subst hi
      refine .inr ⟨rfl, hfresh, hroom, ?_⟩
      rw [idsAt_eq, hadded, List.map_append, ← idsAt_eq]
      rfl
    · left
      rw [idsAt_eq, contactsAt_addPeer_of_ne dht call hi, ← idsAt_eq]

theorem kept_addPeer : Kept dht (dht.addPeer call) := by
  intro i contact hcontact
  rcases addPeer_cases dht call with ⟨-, hsame⟩ | ⟨-, -, hadded⟩
  · rw [hsame]
    exact hcontact
  · by_cases hi : i = indexOf dht call
    · rw [hi] at hcontact ⊢
      rw [hadded]
      exact List.mem_append_left _ hcontact
    · rw [contactsAt_addPeer_of_ne dht call hi]
      exact hcontact

end Adding

section Soundness
variable {dht : KademliaDht} {call : AddPeer}

theorem mem_idsAt_addPeer {id : KademliaId} {i : Nat} (h : id ∈ (dht.addPeer call).idsAt i) :
    id ∈ dht.idsAt i ∨ id = call.peer.nodeId ∧ i = indexOf dht call := by
  rcases idsAt_addPeer dht call i with hsame | ⟨hi, -, -, hadded⟩
  · rw [hsame] at h
    exact .inl h
  · rw [hadded, List.mem_append, List.mem_singleton] at h
    exact h.imp_right (fun hid => ⟨hid, hi⟩)

theorem nodup_idsAt_addPeer (h : ∀ i, (dht.idsAt i).Nodup) (i : Nat) :
    ((dht.addPeer call).idsAt i).Nodup := by
  rcases idsAt_addPeer dht call i with hsame | ⟨-, hfresh, -, hadded⟩
  · rw [hsame]
    exact h i
  · rw [hadded, ← List.concat_eq_append]
    exact (List.nodup_concat _ _).mpr ⟨hfresh, h i⟩

theorem Sound.congr {dht' : KademliaDht} (h : Sound dht) (hid : dht'.ourId = dht.ourId)
    (hsame : ∀ i, dht'.idsAt i = dht.idsAt i) : Sound dht' := by
  constructor
  · intro i
    rw [← idsAt_length, hsame, idsAt_length]
    exact h.capacity i
  · intro i
    rw [hsame]
    exact h.distinct i
  · intro i
    rw [hsame, hid]
    exact h.placed i
  · intro i
    rw [hsame, hid]
    exact h.notOwn i

theorem Sound.addPeer (h : Sound dht) (hother : call.peer.nodeId ≠ dht.ourId) :
    Sound (dht.addPeer call) := by
  constructor
  · intro i
    rw [← idsAt_length]
    rcases idsAt_addPeer dht call i with hsame | ⟨-, -, hroom, hadded⟩
    · rw [hsame, idsAt_length]
      exact h.capacity i
    · rw [hadded, List.length_append, idsAt_length]
      exact hroom
  · exact nodup_idsAt_addPeer h.distinct
  · intro i id hid
    rcases mem_idsAt_addPeer hid with hid | ⟨rfl, rfl⟩
    · exact h.placed i id hid
    · exact firstDifference_bucketIndex hother
  · intro i hid
    rcases mem_idsAt_addPeer hid with hid | ⟨hid, -⟩
    · exact h.notOwn i hid
    · exact hother hid.symm

theorem sound_addPeer_iff (h : Sound dht) : Sound (dht.addPeer call) ↔ OwnIdFull dht call := by
  by_cases hown : call.peer.nodeId = dht.ourId
  · have hindex : indexOf dht call = 0 := by rw [indexOf, hown, bucketIndex_self]
    rcases addPeer_cases dht call with ⟨hcause, hsame⟩ | ⟨-, hroom, hadded⟩
    · rw [hindex, hown] at hcause
      refine iff_of_true (h.congr rfl fun i => ?_) fun _ => hcause.resolve_left (h.notOwn 0)
      rw [idsAt_eq, hsame, ← idsAt_eq]
    · rw [hindex] at hroom
      refine iff_of_false (fun h' => h'.notOwn (indexOf dht call) ?_)
        (fun hfull => Nat.not_le.mpr hroom (hfull hown))
      have hid : (dht.addPeer call).ourId = call.peer.nodeId := hown.symm
      rw [hid, idsAt_eq, hadded, List.map_append]
      exact List.mem_append_right _ (List.mem_singleton_self _)
  · exact iff_of_true (h.addPeer hown) (fun h => (hown h).elim)

theorem peersAt_new (ourId : KademliaId) (created : Nat → Nat) (i : Nat) :
    (KademliaDht.new ourId created).peersAt i = [] := by
  rw [KademliaDht.peersAt, KademliaDht.new, List.getElem?_map]
  cases (List.range 160)[i]? with
  | none => rfl
  | some k => rfl

theorem idsAt_new (ourId : KademliaId) (created : Nat → Nat) (i : Nat) :
    (KademliaDht.new ourId created).idsAt i = [] := by
  rw [KademliaDht.idsAt, peersAt_new]
  rfl

theorem sound_new (ourId : KademliaId) (created : Nat → Nat) :
    Sound (KademliaDht.new ourId created) := by
  constructor
  · intro i
    rw [peersAt_new]
    exact Nat.zero_le K
  · intro i
    rw [idsAt_new]
    exact List.nodup_nil
  · intro i id hid
    rw [idsAt_new] at hid
    cases hid
  · intro i hid
    rw [idsAt_new] at hid
    cases hid

end Soundness

/-- The table stays sound, and drops no peer, exactly as long as our own id is not added to a bucket
that has room. -/
theorem table_sound_iff (ourId : KademliaId) (created : Nat → Nat) (calls : List AddPeer) :
    (∀ l, l <+: calls → Sound ((KademliaDht.new ourId created).addAll l)) ∧
      (∀ l₁ l₂, l₁ ++ l₂ <+: calls → Kept ((KademliaDht.new ourId created).addAll l₁)
        ((KademliaDht.new ourId created).addAll (l₁ ++ l₂))) ↔
    Guarded KademliaDht.addPeer OwnIdFull (KademliaDht.new ourId created) calls := by
  have hkept : ∀ l₁ l₂, l₁ ++ l₂ <+: calls → Kept ((KademliaDht.new ourId created).addAll l₁)
      ((KademliaDht.new ourId created).addAll (l₁ ++ l₂)) := by
    refine (forall_between_iff (fun dht i contact h => h) ?_ calls).mpr
      (Guarded.of_forall (fun dht call _ => kept_addPeer dht call))
    intro dht dht' dht'' h h' i contact hcontact
    exact h' i contact (h i contact hcontact)
  rw [and_iff_left hkept]
  exact forall_prefix_iff (sound_new ourId created) (fun dht call h => sound_addPeer_iff h) calls

/-- Adding our own id to a new table puts it into the bucket of the ids that are farthest away. -/
theorem own_id_stored : ¬ Sound ((KademliaDht.new (.zero 20) id).addPeer
    ⟨⟨.zero 20, ⟨.v4 0x0A000001, 9000⟩, 0⟩, 0, 0⟩) := by
  intro h
  exact h.notOwn 0 (by decide +kernel)

end P2PMesh.Kademlia
