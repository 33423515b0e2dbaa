import P2PMesh.Base.Selection
import P2PMesh.Kademlia

namespace P2PMesh.Kademlia
open P2PMesh.Base P2PMesh.Base.XorMetric
set_option autoImplicit true

/-- The key of the sort: the first eight bytes of the distance, as a number. -/
def prefixKey (target : KademliaId) (p : KademliaPeer) : Nat :=
  ofBe ((distance p.nodeId target).bytes.take 8)

def KademliaDht.allPeers (dht : KademliaDht) : List KademliaPeer :=
  dht.buckets.flatMap KBucket.peers

def KademliaDht.findClosest (dht : KademliaDht) (target : KademliaId) (count : Nat) :
    List KademliaPeer :=
  (sortByKey (prefixKey target) dht.allPeers).take count

/-- The whole distance, as a number. -/
def distanceTo (target : KademliaId) (p : KademliaPeer) : Nat :=
  ofBe (distance p.nodeId target).bytes

/-- Of the stored peers these are the closest ones, in order. -/
structure Closest (target : KademliaId) (count : Nat) (stored found : List KademliaPeer) :
    Prop where
  length : found.length = min count stored.length
  subset : ∀ p ∈ found, p ∈ stored
  distinct : (found.map KademliaPeer.nodeId).Nodup
  sorted : found.Pairwise (fun p q => distanceTo target p ≤ distanceTo target q)
  complete : ∀ p ∈ stored, p ∉ found → ∀ q ∈ found, distanceTo target q ≤ distanceTo target p

/-- A peer that stands in the table before a closer one, with the same key, comes behind as many
others as are asked for. -/
def TiesLeftOut (target : KademliaId) (count : Nat) (stored : List KademliaPeer) : Prop :=
  ∀ before p after, stored = before ++ p :: after → ∀ q ∈ after,
    prefixKey target q = prefixKey target p → distanceTo target q < distanceTo target p →
      count ≤ rankIn (prefixKey target) before p after

/-- Every peer is in the bucket of its id, and no id twice in one bucket. -/
structure InPlace (dht : KademliaDht) : Prop where
  distinct : ∀ i, (dht.idsAt i).Nodup
  placed : ∀ i, ∀ id ∈ dht.idsAt i, bucketIndex dht.ourId id = i

section Places
variable {dht : KademliaDht} {call : AddPeer}

theorem InPlace.addPeer (h : InPlace dht) (call : AddPeer) : InPlace (dht.addPeer call) := by
  constructor
  · exact nodup_idsAt_addPeer h.distinct
  · intro i id hid
    rcases mem_idsAt_addPeer hid with hid | ⟨rfl, rfl⟩
    · exact h.placed i id hid
    · rfl

theorem inPlace_new (ourId : KademliaId) (created : Nat → Nat) :
    InPlace (KademliaDht.new ourId created) := by
  constructor
  · intro i
    rw [idsAt_new]
    exact List.nodup_nil
  · intro i id hid
    rw [idsAt_new] at hid
    cases hid

theorem inPlace_addAll (ourId : KademliaId) (created : Nat → Nat) (calls : List AddPeer) :
    InPlace ((KademliaDht.new ourId created).addAll calls) :=
  run_invariant KademliaDht.addPeer (inPlace_new ourId created) (fun _ call h => h.addPeer call)
    calls

theorem idsAt_getElem {i : Nat} (hi : i < dht.buckets.length) :
    dht.idsAt i = dht.buckets[i].peers.map KademliaPeer.nodeId := by
  rw [KademliaDht.idsAt, KademliaDht.peersAt, List.getElem?_eq_getElem hi]
  rfl

theorem InPlace.nodup_ids (h : InPlace dht) : (dht.allPeers.map KademliaPeer.nodeId).Nodup := by
  rw [KademliaDht.allPeers, List.map_flatMap, List.nodup_flatMap]
  constructor
  · intro bucket hbucket
    obtain ⟨i, hi, rfl⟩ := List.getElem_of_mem hbucket
    rw [← idsAt_getElem hi]
    exact h.distinct i
  · rw [List.pairwise_iff_getElem]
    intro i j hi hj hlt id hid hid'
    have hi' : id ∈ dht.idsAt i := by rw [idsAt_getElem hi]; exact hid
    have hj' : id ∈ dht.idsAt j := by rw [idsAt_getElem hj]; exact hid'
    exact hlt.ne ((h.placed i id hi').symm.trans (h.placed j id hj'))

theorem InPlace.nodup (h : InPlace dht) : dht.allPeers.Nodup := h.nodup_ids.of_map _

end Places

section Order
variable {dht : KademliaDht} {target : KademliaId} {count : Nat}

theorem distanceTo_eq (target : KademliaId) (p : KademliaPeer) : distanceTo target p =
    prefixKey target p * 256 ^ 12 + ofBe ((distance p.nodeId target).bytes.drop 8) := by
  have hrest : ((distance p.nodeId target).bytes.drop 8).length = 12 := by
    rw [List.length_drop, (distance p.nodeId target).length_eq]
  rw [prefixKey, ← hrest, ← ofBe_append, List.take_append_drop, distanceTo]

theorem distanceTo_lt_of_prefixKey_lt {p q : KademliaPeer}
    (h : prefixKey target p < prefixKey target q) : distanceTo target p < distanceTo target q := by
  have hrest := ofBe_lt ((distance p.nodeId target).bytes.drop 8)
  rw [List.length_drop, (distance p.nodeId target).length_eq] at hrest
  calc distanceTo target p
      < prefixKey target p * 256 ^ 12 + 256 ^ 12 := by
        rw [distanceTo_eq]
        exact Nat.add_lt_add_left hrest _
    _ = (prefixKey target p + 1) * 256 ^ 12 := (Nat.succ_mul _ _).symm
    _ ≤ prefixKey target q * 256 ^ 12 := Nat.mul_le_mul_right _ h
    _ ≤ distanceTo target q := by
        rw [distanceTo_eq]
        exact Nat.le_add_right _ _

/-- The peers that are found are the closest ones exactly if the first ones in the order of the keys
are. -/
theorem closest_iff_take (h : InPlace dht) :
    Closest target count dht.allPeers (dht.findClosest target count) ↔
      ((dht.findClosest target count).Pairwise
        (fun p q => distanceTo target p ≤ distanceTo target q) ∧
      ∀ p ∈ dht.findClosest target count, ∀ q ∈ (sortByKey (prefixKey target) dht.allPeers).drop
        count, distanceTo target p ≤ distanceTo target q) := by
  have hperm : (sortByKey (prefixKey target) dht.allPeers).Perm dht.allPeers := sortByKey_perm _
  have hsplit := List.take_append_drop count (sortByKey (prefixKey target) dht.allPeers)
  constructor
  · intro hc
    refine ⟨hc.sorted, fun p hp q hq => hc.complete q ?_ ?_ p hp⟩
    · exact hperm.mem_iff.mp (List.mem_of_mem_drop hq)
    · have hnodup := hperm.nodup_iff.mpr h.nodup
      rw [← hsplit, List.nodup_append'] at hnodup
      exact fun hmem => hnodup.2.2 hmem hq
  · rintro ⟨hsorted, hrest⟩
    constructor
    · rw [KademliaDht.findClosest, List.length_take, hperm.length_eq]
    · exact fun p hp => hperm.mem_iff.mp (List.mem_of_mem_take hp)
    · have hnodup := (hperm.map KademliaPeer.nodeId).nodup_iff.mpr h.nodup_ids
      exact hnodup.sublist ((List.take_sublist _ _).map _)
    · exact hsorted
    · intro p hp hnot q hq
      apply hrest q hq p
      rw [← hperm.mem_iff, ← hsplit, List.mem_append] at hp
      exact hp.resolve_left hnot

end Order

/-- The closest peers of a table are found exactly if of peers that share the first eight bytes of
their distance none that is asked for stands before a closer one. -/
theorem findClosest_closest_iff (ourId : KademliaId) (created : Nat → Nat) (calls : List AddPeer)
    (target : KademliaId) (count : Nat) :
    Closest target count ((KademliaDht.new ourId created).addAll calls).allPeers
      (((KademliaDht.new ourId created).addAll calls).findClosest target count) ↔
    TiesLeftOut target count ((KademliaDht.new ourId created).addAll calls).allPeers := by
  have h := inPlace_addAll ourId created calls
  rw [closest_iff_take h]
  exact take_sortByKey_iff (fun p q => distanceTo_lt_of_prefixKey_lt) h.nodup

/-- An id of which only the first and the last byte are not zero. -/
def exampleId (first last : UInt8) : KademliaId :=
  ⟨first :: List.replicate 18 0 ++ [last], rfl⟩

def exampleCall (last : UInt8) : AddPeer :=
  ⟨⟨exampleId 0x80 last, ⟨.v4 0x0A000001, 9000⟩, 0⟩, 0, 0⟩

/-- The peer that is stored first is found instead of the closest one. -/
theorem prefix_hides_closest : ¬ Closest (exampleId 0x80 1) 1
    ((KademliaDht.new (.zero 20) id).addAll [exampleCall 2, exampleCall 1]).allPeers
    (((KademliaDht.new (.zero 20) id).addAll [exampleCall 2, exampleCall 1]).findClosest
      (exampleId 0x80 1) 1) := by
  intro h
  have hle := h.complete (exampleCall 1).peer (by decide +kernel) (by decide +kernel)
    (exampleCall 2).peer (by decide +kernel)
  exact absurd hle (by decide +kernel)

end P2PMesh.Kademlia
