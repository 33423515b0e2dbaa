import P2PMesh.Base.SocketText

namespace P2PMesh.Base.NetParser
set_option autoImplicit true

/-- The groups of a span are there, and zero. -/
def ZeroSpan (groups : List Nat) (span : Span) : Prop :=
  ∀ j, span.start ≤ j → j < span.start + span.len → groups[j]? = some 0

theorem longestZeros_zeros {groups rest : List Nat} {i : Nat} {current longest : Span}
    (hrest : groups.drop i = rest) (hcurrent : ZeroSpan groups current)
    (hends : current.len ≠ 0 → current.start + current.len = i)
    (hlongest : ZeroSpan groups longest) :
    ZeroSpan groups (longestZeros rest i current longest) := by
  induction rest generalizing i current longest with
  | nil => exact hlongest
  | cons segment rest ih =>
    have hhead : groups[i]? = some segment := by
      rw [← Nat.add_zero i, ← List.getElem?_drop, hrest]
      rfl
    have htail : groups.drop (i + 1) = rest := by
      rw [← List.drop_drop, hrest]
      rfl
    rw [longestZeros]
    split
    · next hzero =>
      have hlonger : ZeroSpan groups
          ⟨if current.len = 0 then i else current.start, current.len + 1⟩ := by
        intro j hstart hend
        dsimp only at hstart hend
        by_cases hj : j = i
        · rw [hj, hhead, hzero]
        · split at hstart
          · next hempty =>
            rw [if_pos hempty] at hend
            omega
          · next hsome =>
            rw [if_neg hsome] at hend
            have hi := hends hsome
            exact hcurrent j hstart (by omega)
      apply ih htail hlonger
      · intro _
        dsimp only
        split
        · next hempty => rw [hempty]
        · next hsome =>
          have hi := hends hsome
          omega
      · dsimp only
        split
        · exact hlonger
        · exact hlongest
    · apply ih htail
      · intro j hstart hend
        exact absurd (Nat.lt_of_le_of_lt hstart hend) (Nat.lt_irrefl 0)
      · exact fun h => (h rfl).elim
      · exact hlongest

theorem ZeroSpan.split {groups : List Nat} {span : Span} (h : ZeroSpan groups span)
    (hlen : 0 < span.len) : span.start + span.len ≤ groups.length ∧
      groups = groups.take span.start ++ List.replicate span.len 0 ++
        groups.drop (span.start + span.len) := by
  have hle : span.start + span.len ≤ groups.length := by
    have hlast := h (span.start + span.len - 1) (by omega) (by omega)
    obtain ⟨hlt, -⟩ := List.getElem?_eq_some_iff.mp hlast
    omega
  have hzeros : (groups.drop span.start).take span.len = List.replicate span.len 0 := by
    rw [List.eq_replicate_iff]
    constructor
    · rw [List.length_take, List.length_drop]
      omega
    · intro g hg
      obtain ⟨j, hj, rfl⟩ := List.getElem_of_mem hg
      rw [List.length_take] at hj
      have hzero := h (span.start + j) (by omega) (by omega)
      rw [List.getElem_take, List.getElem_drop]
      exact Option.some.inj ((List.getElem?_eq_getElem _).symm.trans hzero)
  refine ⟨hle, ?_⟩
  rw [← hzeros, List.append_assoc, ← List.drop_drop, List.take_append_drop,
    List.take_append_drop]

theorem foldl_digits (base k n : Nat) :
    ((List.range k).map (fun i => n / base ^ (k - 1 - i) % base)).foldl
      (fun v g => v * base + g) 0 = n % base ^ k := by
  induction k generalizing n with
  | zero => rw [List.range_zero, List.map_nil, List.foldl_nil, Nat.pow_zero, Nat.mod_one]
  | succ k ih =>
    have hfront : (List.range k).map (fun i => n / base ^ (k + 1 - 1 - i) % base) =
        (List.range k).map (fun i => n / base / base ^ (k - 1 - i) % base) := by
      apply List.map_congr_left
      intro i hi
      have hlt := List.mem_range.mp hi
      rw [Nat.div_div_eq_div_mul, ← Nat.pow_succ', show k + 1 - 1 - i = (k - 1 - i).succ by omega]
    rw [List.range_succ, List.map_append, List.foldl_append, hfront, ih, List.map_singleton,
      List.foldl_cons, List.foldl_nil, Nat.add_sub_cancel, Nat.sub_self, Nat.pow_zero, Nat.div_one,
      Nat.pow_succ', Nat.mod_mul, Nat.mul_comm, Nat.add_comm]

theorem ofGroups_segments (a : Ipv6Addr) : ofGroups (segments a) = a := by
  have hlt : a.toNat < 65536 ^ 8 := a.isLt
  rw [ofGroups, segments, foldl_digits 65536 8, Nat.mod_eq_of_lt hlt, BitVec.ofNat_toNat,
    BitVec.setWidth_eq]

section Reading
variable {text rest : List Char}

/-- No digit of a group and no dot can follow: there is nothing more, or a colon. -/
def Delimited (text : List Char) : Prop := text = [] ∨ ∃ more, text = ':' :: more

/-- No group can follow either. -/
def Stops (text : List Char) : Prop := text = [] ∨ ∃ more, text = ':' :: ':' :: more

theorem Stops.delimited (h : Stops rest) : Delimited rest := by
  rcases h with rfl | ⟨more, rfl⟩
  · exact .inl rfl
  · exact .inr ⟨':' :: more, rfl⟩

theorem Delimited.readDigits (h : Delimited text) (base : Nat) :
    readDigits base text = ([], text) := by
  rcases h with rfl | ⟨more, rfl⟩
  · rfl
  · exact readDigits_colon base more

theorem Delimited.no_dot (h : Delimited text) :
    (NetParser.readDigits 10 text).2.head? ≠ some '.' := by
  rw [h.readDigits]
  rcases h with rfl | ⟨more, rfl⟩ <;> simp

theorem Delimited.readNumber (h : Delimited text) :
    readNumber 16 65536 (some 4) true text = none := by
  rw [NetParser.readNumber, h.readDigits]
  rfl

theorem Stops.readGroups (h : Stops rest) (k : Nat) (first : Bool) :
    readGroups k first rest = ([], false, rest) := by
  have hnone {α : Type} (inner : List Char → Option (α × List Char))
      (hinner : ∀ t, Delimited t → inner t = none) :
      readSeparated ':' first inner rest = none := by
    rw [readSeparated]
    split
    · exact hinner rest h.delimited
    · rcases h with rfl | ⟨more, rfl⟩
      · rfl
      · exact hinner (':' :: more) (.inr ⟨more, rfl⟩)
  cases k with
  | zero => rfl
  | succ k =>
    rw [NetParser.readGroups, hnone _ (fun t ht => readIpv4Addr_of_no_dot ht.no_dot), ite_self,
      hnone _ (fun t ht => ht.readNumber)]

theorem readGroups_group {g k : Nat} (hg : g < 65536) (htext : Delimited text) (first : Bool) :
    readGroups (k + 1) first ((if first then [] else [':']) ++ (Nat.toDigits 16 g ++ text)) =
      (g :: (readGroups k false text).1, (readGroups k false text).2) := by
  have hinner {α : Type} (inner : List Char → Option (α × List Char)) :
      readSeparated ':' first inner
        ((if first then [] else [':']) ++ (Nat.toDigits 16 g ++ text)) =
          inner (Nat.toDigits 16 g ++ text) := by
    cases first <;> rfl
  have hnumber : readNumber 16 65536 (some 4) true (Nat.toDigits 16 g ++ text) =
      some (g, text) := by
    apply readNumber_toDigits (by decide) (by decide) hg (show 0 < 4 by decide) hg
    · intro m hm
      cases hm
      exact Nat.le_refl 4
    · intro c hc
      rcases htext with rfl | ⟨more, rfl⟩
      · cases hc
      · cases hc
        rfl
  rw [readGroups, hinner, readIpv4Addr_toDigits g htext.no_dot, ite_self, hinner, hnumber]

/-- Groups with a colon before each. -/
def followingGroups (groups : List Nat) : List Char :=
  groups.flatMap (fun g => ':' :: Nat.toDigits 16 g)

theorem followingGroups_cons (g : Nat) (groups : List Nat) :
    followingGroups (g :: groups) = ':' :: (Nat.toDigits 16 g ++ followingGroups groups) := rfl

theorem showGroups_eq (g : Nat) (groups : List Nat) :
    showGroups (g :: groups) = Nat.toDigits 16 g ++ followingGroups groups := by
  induction groups generalizing g with
  | nil =>
    rw [showGroups, List.map_singleton, List.intercalate_singleton, followingGroups,
      List.flatMap_nil, List.append_nil]
  | cons g' groups ih =>
    rw [showGroups_cons_cons, ih, followingGroups_cons]

theorem delimited_followingGroups (groups : List Nat) (hrest : Stops rest) :
    Delimited (followingGroups groups ++ rest) := by
  cases groups with
  | nil => exact hrest.delimited
  | cons g groups => exact .inr ⟨_, rfl⟩

theorem readGroups_followingGroups {groups : List Nat} {k : Nat} (hlt : ∀ g ∈ groups, g < 65536)
    (hk : groups.length ≤ k) (hrest : Stops rest) :
    readGroups k false (followingGroups groups ++ rest) = (groups, false, rest) := by
  induction groups generalizing k with
  | nil => exact hrest.readGroups k false
  | cons g groups ih =>
    obtain ⟨k, rfl⟩ : ∃ j, k = j + 1 := ⟨k - 1, by rw [List.length_cons] at hk; omega⟩
    have hnext := ih (fun g hg => hlt g (List.mem_cons_of_mem _ hg)) (Nat.le_of_succ_le_succ hk)
    have hgroup := readGroups_group (k := k) (hlt g List.mem_cons_self)
      (delimited_followingGroups groups hrest) false
    rw [hnext] at hgroup
    rw [followingGroups_cons, List.cons_append, List.append_assoc]
    exact hgroup

theorem readGroups_showGroups {groups : List Nat} {k : Nat} (hlt : ∀ g ∈ groups, g < 65536)
    (hk : groups.length ≤ k) (hrest : Stops rest) :
    readGroups k true (showGroups groups ++ rest) = (groups, false, rest) := by
  cases groups with
  | nil => exact hrest.readGroups k true
  | cons g groups =>
    obtain ⟨k, rfl⟩ : ∃ j, k = j + 1 := ⟨k - 1, by rw [List.length_cons] at hk; omega⟩
    have hgroup := readGroups_group (k := k) (hlt g List.mem_cons_self)
      (delimited_followingGroups groups hrest) true
    rw [readGroups_followingGroups (fun g hg => hlt g (List.mem_cons_of_mem _ hg))
      (Nat.le_of_succ_le_succ hk) hrest] at hgroup
    rw [showGroups_eq, List.append_assoc]
    exact hgroup

end Reading

theorem readIpv4Addr_dotted (n : Nat) :
    readIpv4Addr (dotted (toBe 4 n)) = some (BitVec.ofNat 32 n, []) := by
  have hoctets : readOctets (toBe 4 n).length true (dotted (toBe 4 n) ++ []) =
      some (toBe 4 n, []) :=
    readOctets_dotted (toBe 4 n) (fun c hc => by cases hc)
  rw [List.append_nil, toBe_length] at hoctets
  have hmod : BitVec.ofNat 32 (n % 256 ^ 4) = BitVec.ofNat 32 n := by
    apply BitVec.eq_of_toNat_eq
    rw [BitVec.toNat_ofNat, BitVec.toNat_ofNat]
    exact Nat.mod_mod n (2 ^ 32)
  rw [readIpv4Addr, hoctets, Option.map_some, ofBe_toBe, hmod]

theorem ofGroups_mapped {a : Ipv6Addr} (h : a.toNat / 2 ^ 32 = 0xffff) :
    ofGroups (List.replicate 5 0 ++ [0xffff, (BitVec.ofNat 32 a.toNat).toNat / 65536,
      (BitVec.ofNat 32 a.toNat).toNat % 65536]) = a := by
  have hvalue : (0xffff * 65536 + a.toNat % 2 ^ 32 / 65536) * 65536 + a.toNat % 2 ^ 32 % 65536 =
      a.toNat := by omega
  rw [BitVec.toNat_ofNat]
  change BitVec.ofNat 128
    ((0xffff * 65536 + a.toNat % 2 ^ 32 / 65536) * 65536 + a.toNat % 2 ^ 32 % 65536) = a
  rw [hvalue, BitVec.ofNat_toNat, BitVec.setWidth_eq]

theorem readIpv6Addr_compressed {front back : List Nat} {len : Nat}
    (hlt : ∀ g ∈ front ++ back, g < 65536) (hlen : 0 < len)
    (hcount : front.length + len + back.length = 8) :
    readIpv6Addr (showGroups front ++ ':' :: ':' :: showGroups back) =
      some (ofGroups (front ++ List.replicate len 0 ++ back), []) := by
  have hfront : readGroups 8 true (showGroups front ++ ':' :: ':' :: showGroups back) =
      (front, false, ':' :: ':' :: showGroups back) :=
    readGroups_showGroups (fun g hg => hlt g (List.mem_append_left back hg)) (by omega)
      (.inr ⟨_, rfl⟩)
  have hback : readGroups (8 - (front.length + 1)) true (showGroups back ++ []) =
      (back, false, []) :=
    readGroups_showGroups (fun g hg => hlt g (List.mem_append_right front hg)) (by omega) (.inl rfl)
  rw [List.append_nil] at hback
  have hzeros : 8 - front.length - back.length = len := by omega
  rw [readIpv6Addr, hfront]
  dsimp only
  rw [if_neg (by omega), if_neg Bool.false_ne_true]
  change some (_, _) = _
  rw [hback, hzeros]

theorem readIpv6Addr_showGroups {groups : List Nat} (hlt : ∀ g ∈ groups, g < 65536)
    (hcount : groups.length = 8) :
    readIpv6Addr (showGroups groups) = some (ofGroups groups, []) := by
  have hread : readGroups 8 true (showGroups groups ++ []) = (groups, false, []) :=
    readGroups_showGroups hlt (Nat.le_of_eq hcount) (.inl rfl)
  rw [List.append_nil] at hread
  rw [readIpv6Addr, hread]
  dsimp only
  rw [if_pos hcount]

theorem readIpv6Addr_mapped {a : Ipv6Addr} (h : a.toNat / 2 ^ 32 = 0xffff) :
    readIpv6Addr ([':', ':', 'f', 'f', 'f', 'f', ':'] ++ dotted (toBe 4 a.toNat)) =
      some (a, []) := by
  have hfront : readGroups 8 true
      ([':', ':', 'f', 'f', 'f', 'f', ':'] ++ dotted (toBe 4 a.toNat)) = ([], false, _) :=
    Stops.readGroups (.inr ⟨_, rfl⟩) 8 true
  have hlast : readGroups 6 false (':' :: dotted (toBe 4 a.toNat)) =
      ([(BitVec.ofNat 32 a.toNat).toNat / 65536, (BitVec.ofNat 32 a.toNat).toNat % 65536], true,
        []) := by
    have hread : readSeparated ':' false readIpv4Addr (':' :: dotted (toBe 4 a.toNat)) =
        readIpv4Addr (dotted (toBe 4 a.toNat)) := rfl
    rw [readGroups, if_pos (by decide), hread, readIpv4Addr_dotted]
  have hback : readGroups 7 true (['f', 'f', 'f', 'f', ':'] ++ dotted (toBe 4 a.toNat)) =
      ([0xffff, (BitVec.ofNat 32 a.toNat).toNat / 65536,
        (BitVec.ofNat 32 a.toNat).toNat % 65536], true, []) := by
    have hgroup := readGroups_group (g := 0xffff) (k := 6) (by decide)
      (.inr ⟨dotted (toBe 4 a.toNat), rfl⟩) true
    rw [hlast] at hgroup
    exact hgroup
  rw [readIpv6Addr, hfront]
  dsimp only
  rw [if_neg (by decide), if_neg Bool.false_ne_true]
  change Option.map _ (some (['f', 'f', 'f', 'f', ':'] ++ dotted (toBe 4 a.toNat))) = _
  rw [Option.map_some, List.length_nil, hback]
  exact congrArg (fun a => some (a, [])) (ofGroups_mapped h)

/-- An IPv6 address is read back as it is written. -/
theorem readIpv6Addr_showIpv6 (a : Ipv6Addr) : readIpv6Addr (showIpv6 a) = some (a, []) := by
  have hlt := segments_lt a
  rw [showIpv6]
  split
  · next hmapped => exact readIpv6Addr_mapped hmapped
  · dsimp only
    split
    · next hlen =>
      have hzeros : ZeroSpan (segments a) (longestZeros (segments a) 0 ⟨0, 0⟩ ⟨0, 0⟩) := by
        have hnone : ZeroSpan (segments a) ⟨0, 0⟩ := fun j hstart hend =>
          absurd (Nat.lt_of_le_of_lt hstart hend) (Nat.lt_irrefl 0)
        exact longestZeros_zeros rfl hnone (fun h => (h rfl).elim) hnone
      obtain ⟨hle, hsplit⟩ := hzeros.split (by omega)
      have hcount : (segments a).length = 8 := rfl
      refine (readIpv6Addr_compressed ?_ (Nat.lt_of_succ_lt hlen) ?_).trans ?_
      · intro g hg
        rcases List.mem_append.mp hg with hg | hg
        · exact hlt g (List.mem_of_mem_take hg)
        · exact hlt g (List.mem_of_mem_drop hg)
      · rw [List.length_take, List.length_drop]
        omega
      · rw [← hsplit, ofGroups_segments]
    · rw [readIpv6Addr_showGroups hlt rfl, ofGroups_segments]

theorem showIp_injective {a b : IpAddr} (h : showIp a = showIp b) : a = b := by
  have hapart (a : Ipv4Addr) (b : Ipv6Addr) : showIp (.v4 a) ≠ showIp (.v6 b) := by
    intro h
    have hread := (showIpv6_colonized b).readIpv4Addr
    rw [show showIpv6 b = showIp (.v4 a) from h.symm, showIp, readIpv4Addr_dotted] at hread
    cases hread
  cases a with
  | v4 a =>
    cases b with
    | v4 b =>
      have hread := readIpv4Addr_dotted b.toNat
      rw [show dotted (toBe 4 b.toNat) = dotted (toBe 4 a.toNat) from h.symm,
        readIpv4Addr_dotted] at hread
      simp only [BitVec.ofNat_toNat, BitVec.setWidth_eq, Option.some.injEq, Prod.mk.injEq,
        and_true] at hread
      rw [hread]
    | v6 b => exact (hapart a b h).elim
  | v6 a =>
    cases b with
    | v4 b => exact (hapart b a h.symm).elim
    | v6 b =>
      have hread := readIpv6Addr_showIpv6 b
      rw [show showIpv6 b = showIpv6 a from h.symm, readIpv6Addr_showIpv6] at hread
      cases hread
      rfl

end P2PMesh.Base.NetParser
