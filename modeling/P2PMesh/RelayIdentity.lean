import P2PMesh.Base.Malformed
import P2PMesh.Base.Run
import P2PMesh.Relay

namespace P2PMesh.Relay
open P2PMesh.Base
set_option autoImplicit true

/-- A device id as clients use it: at most 16 bytes of UTF-8, none of them zero. -/
structure DeviceId where
  text : String
  length_le : (utf8 text.toList).length ≤ 16
  noNul : '\x00' ∉ text.toList

def DeviceId.bytes (id : DeviceId) : Bytes := utf8 id.text.toList

/-- The field of a header that carries the id: zero-padded to 16 bytes. -/
def DeviceId.field (id : DeviceId) : Bytes := (ByteArr.ofSlice 16 id.bytes).bytes

theorem DeviceId.field_length (id : DeviceId) : id.field.length = 16 := ByteArr.length_eq _

theorem DeviceId.field_eq (id : DeviceId) :
    id.field = id.bytes ++ List.replicate (16 - id.bytes.length) 0 :=
  ByteArr.ofSlice_padded id.length_le

theorem DeviceId.idText_field (id : DeviceId) : idText id.field = id.text := by
  have hn : id.text.toList.rdropWhile (· = '\x00') = id.text.toList := by
    rw [List.rdropWhile_eq_self_iff]
    intro hl hp
    apply id.noNul
    rw [← of_decide_eq_true hp]
    exact List.getLast_mem hl
  have hp := @rdropWhile_replicate Char '\x00' (· = '\x00') (decide_eq_true rfl)
  rw [idText, id.field_eq, DeviceId.bytes, fromUtf8Lossy_padded, hp, hn, String.ofList_toList]

/-- The datagram of a client: both ids padded, the tag and the payload. -/
def clientDatagram (src dst : DeviceId) (tag payload : Bytes) : Bytes :=
  src.field ++ dst.field ++ tag ++ payload

section Client
variable (S : CryptoSuite) (overflowChecks : Bool) (showIp : IpAddr → String)

/-- Both limiters let the datagram through. -/
def ForwardingTable.WithinLimits (t : ForwardingTable) (d : Received) : Prop :=
  (∃ rates, t.rateLimits.hit overflowChecks (idText d.srcIdBytes) maxPacketsPerSec d.deviceNow =
    some (true, rates)) ∧
  ∃ ips, t.ipRateLimits.hit overflowChecks (showIp d.srcAddr.ip) maxIpPacketsPerSec d.ipNow =
    some (true, ips)

/-- The tag that a client computes passes the relay, and the payload goes where the route leads
unless a limiter stops it. -/
def ForwardingTable.Serves (t : ForwardingTable) (src dst : DeviceId) (payload : Bytes) : Prop :=
  ∃ tag, t.computeHmac S src.text dst.text = .ok tag ∧
    t.verifyHmac S src.field dst.field tag = true ∧
    ∀ (d : Received) (addr : SocketAddr), d.data = clientDatagram src dst tag payload →
      t.lookup src.text dst.text = some addr → t.WithinLimits overflowChecks showIp d →
      (RelayLoop.receive S overflowChecks showIp (.start t) d).forwarded =
        [⟨src.text, dst.text, payload, addr⟩]

/-- Two messages with one tag under a key. -/
def HmacCollision (key m m' : Bytes) : Prop := m ≠ m' ∧ S.hmacSha256 key m = S.hmacSha256 key m'

variable {S overflowChecks showIp}

theorem received_fields {d : Received} (src dst : ByteArr 16) (tag : ByteArr 32)
    (h : d.data = src.bytes ++ (dst.bytes ++ (tag.bytes ++ payload))) :
    d.srcIdBytes = src.bytes ∧ d.dstIdBytes = dst.bytes ∧ d.hmacTag = tag.bytes ∧
      d.payload = payload ∧ headerSize ≤ d.data.length := by
  have hs := src.length_eq
  have hd := dst.length_eq
  have ht := tag.length_eq
  have h₁ : d.data.drop 16 = dst.bytes ++ (tag.bytes ++ payload) := by
    rw [h, List.drop_left' hs]
  have h₂ : d.data.drop 32 = tag.bytes ++ payload := by
    rw [← List.drop_drop (i := 16) (j := 16), h₁, List.drop_left' hd]
  have h₃ : d.data.drop headerSize = payload := by
    rw [headerSize, ← List.drop_drop (i := 32) (j := 32), h₂, List.drop_left' ht]
  refine ⟨?_, ?_, ?_, h₃, ?_⟩
  · rw [Received.srcIdBytes, h, List.take_left' hs]
  · rw [Received.dstIdBytes, h₁, List.take_left' hd]
  · rw [Received.hmacTag, h₂, List.take_left' ht]
  · rw [h, List.length_append, List.length_append, List.length_append, hs, hd, ht, headerSize]
    omega

theorem clientDatagram_fields {src dst : DeviceId} {tag : ByteArr 32} {d : Received}
    (h : d.data = clientDatagram src dst tag.bytes payload) :
    d.srcIdBytes = src.field ∧ d.dstIdBytes = dst.field ∧ d.hmacTag = tag.bytes ∧
      d.payload = payload ∧ headerSize ≤ d.data.length := by
  apply received_fields (.ofSlice 16 src.bytes) (.ofSlice 16 dst.bytes) tag
  rw [h, clientDatagram, List.append_assoc, List.append_assoc]
  rfl

theorem RelayLoop.receive_client {t : ForwardingTable} {src dst : DeviceId} {tag : ByteArr 32}
    (hv : t.verifyHmac S src.field dst.field tag.bytes = true)
    (hd : d.data = clientDatagram src dst tag.bytes payload)
    (hl : t.lookup src.text dst.text = some addr) (hw : t.WithinLimits overflowChecks showIp d) :
    (RelayLoop.receive S overflowChecks showIp (.start t) d).forwarded =
      [⟨src.text, dst.text, payload, addr⟩] := by
  obtain ⟨hsrc, hdst, htag, hpay, hlen⟩ := clientDatagram_fields hd
  obtain ⟨⟨rates, hr⟩, ⟨ips, hi⟩⟩ := hw
  have ha : t.authentic S d = true := by
    rw [ForwardingTable.authentic, hsrc, hdst, htag, hv, Bool.and_true]
    exact decide_eq_true hlen
  rw [@RelayLoop.receive_authentic S overflowChecks showIp (.start t) rfl d ha]
  simp only [RelayLoop.start, hr, hi]
  have hlook : ForwardingTable.lookup { t with rateLimits := rates, ipRateLimits := ips }
      src.text dst.text = some addr := hl
  rw [RelayLoop.accept_forwarded]
  simp only [hsrc, hdst, src.idText_field, dst.idText_field, hpay, hlook, Option.toList_some,
    List.map_cons, List.map_nil, List.nil_append]

theorem DeviceId.bytes_eq_fields_iff (src dst : DeviceId) :
    src.bytes ++ dst.bytes = src.field ++ dst.field ↔
      src.bytes.length = 16 ∧ dst.bytes.length = 16 := by
  constructor
  · intro he
    have hl := congrArg List.length he
    rw [List.length_append, List.length_append, src.field_length, dst.field_length] at hl
    have hs := src.length_le
    have hd := dst.length_le
    simp only [DeviceId.bytes] at hl ⊢
    omega
  · rintro ⟨hs, hd⟩
    rw [src.field_eq, dst.field_eq, hs, hd]
    simp only [Nat.sub_self, List.replicate_zero, List.append_nil]

theorem ForwardingTable.computeHmac_keyed {t : ForwardingTable} (hk : t.hmacKey ≠ [])
    (src dst : DeviceId) : t.computeHmac S src.text dst.text =
      .ok (S.hmacSha256 t.hmacKey (src.bytes ++ dst.bytes)).bytes := by
  have hempty : t.hmacKey.isEmpty = false := List.isEmpty_eq_false_iff.mpr hk
  simp only [ForwardingTable.computeHmac, hempty, Bool.false_eq_true, ↓reduceIte]
  rfl

theorem ForwardingTable.verifyHmac_keyed {t : ForwardingTable} (hk : t.hmacKey ≠ [])
    (srcId dstId tag : Bytes) : t.verifyHmac S srcId dstId tag = true ↔
      (S.hmacSha256 t.hmacKey (srcId ++ dstId)).bytes = tag := by
  have hempty : t.hmacKey.isEmpty = false := List.isEmpty_eq_false_iff.mpr hk
  simp only [ForwardingTable.verifyHmac, hempty, Bool.false_eq_true, ↓reduceIte, beq_iff_eq]

/-- A client's datagram is served exactly where both ids fill their fields, or the tags of the
ids as strings and of the padded fields collide. -/
theorem client_tag_verifies_iff {t : ForwardingTable} (hk : t.hmacKey ≠ []) (src dst : DeviceId)
    (payload : Bytes) :
    t.Serves S overflowChecks showIp src dst payload ↔
      (src.bytes.length = 16 ∧ dst.bytes.length = 16) ∨
        HmacCollision S t.hmacKey (src.bytes ++ dst.bytes) (src.field ++ dst.field) := by
  have htag := @ForwardingTable.computeHmac_keyed S t hk src dst
  have hfull := DeviceId.bytes_eq_fields_iff src dst
  constructor
  · rintro ⟨tag, ht, hv, -⟩
    rw [htag] at ht
    cases ht
    by_cases he : src.bytes ++ dst.bytes = src.field ++ dst.field
    · exact Or.inl (hfull.mp he)
    · have htags := (ForwardingTable.verifyHmac_keyed hk _ _ _).mp hv
      exact Or.inr ⟨he, (ByteArr.ext htags).symm⟩
  · intro h
    have hs : S.hmacSha256 t.hmacKey (src.field ++ dst.field) =
        S.hmacSha256 t.hmacKey (src.bytes ++ dst.bytes) := by
      rcases h with h | h
      · rw [hfull.mpr h]
      · exact h.2.symm
    have hv := (ForwardingTable.verifyHmac_keyed hk _ _ _).mpr (congrArg ByteArr.bytes hs)
    exact ⟨_, htag, hv, fun d addr hd hl hw => RelayLoop.receive_client hv hd hl hw⟩

end Client

theorem client_tag_verifies_iff_fullWidth :
    keyedTable.Serves arithmeticSuite true dottedIp
      ⟨"alice-laptop-001", by decide, by decide⟩ ⟨"bob-workstation1", by decide, by decide⟩
      [1, 2, 3] :=
  (client_tag_verifies_iff (by decide) _ _ _).mpr (Or.inl ⟨by decide, by decide⟩)

/-- The tag of two short ids does not pass. -/
theorem short_ids_refused :
    ¬ keyedTable.Serves arithmeticSuite true dottedIp ⟨"alice", by decide, by decide⟩
      ⟨"bob", by decide, by decide⟩ [1, 2, 3] := by
  rintro ⟨tag, ht, hv, -⟩
  have hrefused : keyedTable.verifyHmac arithmeticSuite
      (DeviceId.field ⟨"alice", by decide, by decide⟩)
      (DeviceId.field ⟨"bob", by decide, by decide⟩)
      ((keyedTable.computeHmac arithmeticSuite "alice" "bob").toOption.getD []) = false := by
    decide +kernel
  rw [ht] at hrefused
  cases hrefused.symm.trans hv

section Separation
variable (S : CryptoSuite) (overflowChecks : Bool) (showIp : IpAddr → String)

/-- At every point of every run, a datagram under one source field leaves the address entry and
the quota of the other field as they are, and goes where it went with other routes of that
field. -/
def Separate (field field' : ByteArr 16) : Prop :=
  ∀ (t : ForwardingTable) (ops : List RelayOp) (d : Received), d.srcIdBytes = field.bytes →
    let r := RelayLoop.run S overflowChecks showIp (.start t) ops
    let r' := r.receive S overflowChecks showIp d
    r'.table.deviceAddrs[idText field'.bytes]? = r.table.deviceAddrs[idText field'.bytes]? ∧
    r'.table.rateLimits[idText field'.bytes]? = r.table.rateLimits[idText field'.bytes]? ∧
    ∀ routes : Routes, (∀ srcId dstId : String, srcId ≠ idText field'.bytes →
        routes[(srcId, dstId)]? = r.table.routes[(srcId, dstId)]?) →
      (RelayLoop.receive S overflowChecks showIp
        { r with table := { r.table with routes := routes } } d).forwarded = r'.forwarded

variable {S overflowChecks showIp}

theorem RelayLoop.Turn.frame {r r' : RelayLoop} (h : r.Turn S overflowChecks showIp d r')
    (hne : idText d.srcIdBytes ≠ key) :
    r'.table.deviceAddrs[key]? = r.table.deviceAddrs[key]? ∧
      r'.table.rateLimits[key]? = r.table.rateLimits[key]? := by
  cases h with
  | refused => exact ⟨rfl, rfl⟩
  | devicePanic => exact ⟨rfl, rfl⟩
  | deviceOver hr ha hdevice => exact ⟨rfl, Windows.hit_of_ne hne hdevice⟩
  | ipPanic hr ha hdevice => exact ⟨rfl, Windows.hit_of_ne hne hdevice⟩
  | ipOver hr ha hdevice => exact ⟨rfl, Windows.hit_of_ne hne hdevice⟩
  | accepted hr ha hdevice =>
    rw [RelayLoop.accept_deviceAddrs, RelayLoop.accept_rateLimits]
    exact ⟨getElem?_insert_of_ne _ _ hne, Windows.hit_of_ne hne hdevice⟩

theorem RelayLoop.receive_routes (r : RelayLoop) {d : Received} {routes : Routes}
    (h : routes[(idText d.srcIdBytes, idText d.dstIdBytes)]? =
      r.table.routes[(idText d.srcIdBytes, idText d.dstIdBytes)]?) :
    (RelayLoop.receive S overflowChecks showIp
      { r with table := { r.table with routes := routes } } d).forwarded =
        (r.receive S overflowChecks showIp d).forwarded := by
  have hauth : ForwardingTable.authentic S { r.table with routes := routes } d =
      r.table.authentic S d := rfl
  by_cases hr : r.running = true ∧ r.table.authentic S d = true
  · rw [RelayLoop.receive_authentic hr.1 hr.2,
      @RelayLoop.receive_authentic S overflowChecks showIp
        { r with table := { r.table with routes := routes } } hr.1 d (hauth.trans hr.2)]
    dsimp only
    cases r.table.rateLimits.hit overflowChecks (idText d.srcIdBytes) maxPacketsPerSec
        d.deviceNow with
    | none => rfl
    | some checked =>
      obtain ⟨ok, rates⟩ := checked
      cases ok with
      | false => rfl
      | true =>
        dsimp only
        cases r.table.ipRateLimits.hit overflowChecks (showIp d.srcAddr.ip) maxIpPacketsPerSec
            d.ipNow with
        | none => rfl
        | some checked =>
          obtain ⟨ok, ips⟩ := checked
          cases ok with
          | false => rfl
          | true =>
            rw [RelayLoop.accept_forwarded, RelayLoop.accept_forwarded]
            simp only [ForwardingTable.lookup, h]
  · rw [RelayLoop.receive_refused r hr]
    have hrefused := @RelayLoop.receive_refused S overflowChecks showIp
      { r with table := { r.table with routes := routes } } d hr
    rw [hrefused]

theorem separate_of_ne {field field' : ByteArr 16}
    (h : idText field.bytes ≠ idText field'.bytes) :
    Separate S overflowChecks showIp field field' := by
  intro t ops d hd
  dsimp only
  have hk : idText d.srcIdBytes ≠ idText field'.bytes := by
    rw [hd]
    exact h
  obtain ⟨haddr, hquota⟩ :=
    ((RelayLoop.run S overflowChecks showIp (.start t) ops).receive_turn d).frame hk
  exact ⟨haddr, hquota, fun routes hroutes => RelayLoop.receive_routes _ (hroutes _ _ hk)⟩

variable (S) in
/-- A datagram from a source field, with the right tag for a table with the key. -/
def tagged (key : Bytes) (field : ByteArr 16) : Received :=
  ⟨field.bytes ++ ((ByteArr.zero 16).bytes ++
    ((S.hmacSha256 key (field.bytes ++ (ByteArr.zero 16).bytes)).bytes ++ [])), ⟨.v4 0, 0⟩, 0, 0,
    none⟩

theorem tagged_authentic {t : ForwardingTable} (hk : t.hmacKey ≠ []) (field : ByteArr 16) :
    (tagged S t.hmacKey field).srcIdBytes = field.bytes ∧
      t.authentic S (tagged S t.hmacKey field) = true := by
  obtain ⟨hsrc, hdst, htag, -, hlen⟩ := received_fields field (.zero 16)
    (S.hmacSha256 t.hmacKey (field.bytes ++ (ByteArr.zero 16).bytes))
    (show (tagged S t.hmacKey field).data = _ from rfl)
  have hv := (ForwardingTable.verifyHmac_keyed hk field.bytes (ByteArr.zero 16).bytes _).mpr
    (Eq.refl (S.hmacSha256 t.hmacKey (field.bytes ++ (ByteArr.zero 16).bytes)).bytes)
  rw [ForwardingTable.authentic, hsrc, hdst, htag, hv, Bool.and_true]
  exact ⟨rfl, decide_eq_true hlen⟩

/-- Under a table with a key, a datagram with the right tag takes over the address entry of
every field that reads as its own. -/
theorem not_separate_of_eq {field field' : ByteArr 16}
    (h : idText field.bytes = idText field'.bytes) :
    ¬ Separate S overflowChecks showIp field field' := by
  intro hsep
  obtain ⟨hsrc, hauth⟩ := @tagged_authentic S keyedTable (by decide) field
  have hfirst := (hsep keyedTable [] _ hsrc).1
  rw [RelayLoop.run, List.foldl_nil, RelayLoop.receive_authentic rfl hauth] at hfirst
  simp only [RelayLoop.start, keyedTable, ForwardingTable.setHmacKey, ForwardingTable.new]
    at hfirst
  rw [Windows.hit_empty _ _ _ (by decide)] at hfirst
  dsimp only at hfirst
  rw [Windows.hit_empty _ _ _ (by decide)] at hfirst
  dsimp only at hfirst
  rw [RelayLoop.accept_deviceAddrs] at hfirst
  have hentry : idText (tagged S [1] field).srcIdBytes = idText field'.bytes := by
    rw [← h]
    exact congrArg idText hsrc
  rw [hentry, Std.TreeMap.getElem?_insert_self, Std.TreeMap.getElem?_emptyc] at hfirst
  cases hfirst

/-- Two source fields are kept apart exactly where more than malformed sequences, in the same
places, and zero bytes at the end tells them apart. -/
theorem source_fields_separate_iff {field field' : ByteArr 16} :
    Separate S overflowChecks showIp field field' ↔ ¬ Alike field.bytes field'.bytes := by
  constructor
  · intro hsep halike
    exact not_separate_of_eq (congrArg String.ofList (alike_iff.mp halike)) hsep
  · intro h
    apply separate_of_ne
    intro heq
    exact h (alike_iff.mpr (String.ofList_injective heq))

/-- Two fields of malformed bytes stand for one device. -/
theorem malformed_fields_share_entry :
    ¬ ∀ field field' : ByteArr 16, field ≠ field' →
      Separate arithmeticSuite true dottedIp field field' := fun h =>
  @not_separate_of_eq arithmeticSuite true dottedIp ⟨List.replicate 16 0xFF, by decide⟩
    ⟨List.replicate 16 0xFE, by decide⟩ (by decide +kernel) (h _ _ (by decide))

end Separation

end P2PMesh.Relay
