import P2PMesh.MeshDns

namespace P2PMesh.Dns
open P2PMesh.Base P2PMesh.Base.DnsWire
set_option autoImplicit true

/-- A datagram from the server is a response to the query for the name, and the message is what it
says. -/
structure RespondsTo (hostname : Hostname) (server : SocketAddr) (d : Datagram) (m : Message) :
    Prop where
  source : d.source = server
  payload : d.payload = m.encode
  id : toBe 2 m.id.toNat = (buildDnsQuery hostname).take 2
  isResponse : m.IsResponse
  qdcount : m.qdcount = 1
  question : m.question = (buildDnsQuery hostname).drop 12

/-- The datagrams that arrive at the sockets of the queries that are made. -/
def heardBy : Queries → List (SocketAddr × Datagram)
  | [] => []
  | (server, exchange) :: rest =>
    exchange.arrivals.map (fun d => (server, d)) ++
      match dnsQuery server exchange with
      | .ok _ => []
      | .error _ => heardBy rest

/-- The server whose query gives an address, with the datagram that it is taken from. -/
def answering : Queries → Option (SocketAddr × Datagram)
  | [] => none
  | (server, exchange) :: rest =>
    match dnsQuery server exchange, exchange.arrivals with
    | .ok _, d :: _ => some (server, d)
    | _, _ => answering rest

/-- The resolver, and every datagram that has arrived at a query's socket so far. -/
structure DnsHistory where
  dns : MeshDns
  heard : List (Hostname × SocketAddr × Datagram)

def DnsHistory.new (upstream : List SocketAddr) (now : Nat) : DnsHistory :=
  ⟨.new upstream now, []⟩

section History
variable (h : DnsHistory)

/-- A resolution makes queries for a name that is no mesh name and is not cached. -/
def DnsHistory.Asks (hostname : Hostname) : Prop :=
  ¬ IsMesh hostname ∧ h.dns.cached hostname = none

instance (hostname : Hostname) : Decidable (h.Asks hostname) :=
  inferInstanceAs (Decidable (_ ∧ _))

def DnsHistory.hears : DnsOp → List (Hostname × SocketAddr × Datagram)
  | .resolve hostname _ exchanges =>
    if h.Asks hostname then
      (heardBy (h.dns.queries exchanges)).map (fun e => (hostname, e.1, e.2))
    else []
  | _ => []

def DnsHistory.step (op : DnsOp) : DnsHistory := ⟨h.dns.step op, h.heard ++ h.hears op⟩

def DnsHistory.run (ops : List DnsOp) : DnsHistory := ops.foldl DnsHistory.step h

/-- A response to a query for the name that has arrived from the server it was sent to has the
address in an A record. -/
def DnsHistory.Vouched (hostname : Hostname) (ip : Ipv4Addr) : Prop :=
  ∃ server d m, (hostname, server, d) ∈ h.heard ∧ RespondsTo hostname server d m ∧
    ∃ r ∈ m.answers, r.IsA (toBe 4 ip.toNat)

/-- An address that a name of the outside resolves to is vouched for. -/
def DnsHistory.ResolvesAuthentically : DnsOp → Prop
  | .resolve hostname took exchanges => ¬ IsMesh hostname → ∀ ip,
      (h.dns.resolve hostname took exchanges).1 = some ip →
        (h.step (.resolve hostname took exchanges)).Vouched hostname ip
  | _ => True

end History

/-- A datagram is a response that the parser reads as it is meant: the query's labels fit their
length bytes, the response fits the buffer, no name of its records goes over from labels to a
pointer, and the records are all there, at least to an A record. -/
def Trustworthy (hostname : Hostname) (server : SocketAddr) (d : Datagram) : Prop :=
  Encodable hostname ∧ d.payload.length ≤ 4096 ∧
    ∃ m, RespondsTo hostname server d m ∧ (∀ r ∈ m.answers, r.name.IsPlain) ∧ m.ReachesA

/-- A query is answered by no other datagram than one to be trusted. -/
def DnsHistory.Trusts (h : DnsHistory) : DnsOp → Prop
  | .resolve hostname _ exchanges => h.Asks hostname →
      ∀ server d, answering (h.dns.queries exchanges) = some (server, d) →
        Trustworthy hostname server d
  | _ => True

section Authenticity
variable {h : DnsHistory} {hostname : Hostname} {ip : Ipv4Addr}

theorem DnsHistory.Vouched.step (hv : h.Vouched hostname ip) (op : DnsOp) :
    (h.step op).Vouched hostname ip := by
  obtain ⟨server, d, m, hmem, hrest⟩ := hv
  exact ⟨server, d, m, List.mem_append_left _ hmem, hrest⟩

theorem dnsQuery_eq_ok {server : SocketAddr} {exchange : Exchange}
    (hq : dnsQuery server exchange = .ok ip) : ∃ first later, exchange = .hears first later ∧
      parseDnsResponse (first.payload.take 4096) = .ok ip := by
  cases exchange with
  | hears first later => exact ⟨first, later, rfl, hq⟩
  | bindFails e => cases hq
  | sendTimesOut => cases hq
  | sendFails e => cases hq
  | silent => cases hq
  | recvFails e => cases hq

theorem answering_of_forwardLookup {queries : Queries} (hl : forwardLookup queries = some ip) :
    ∃ server d, answering queries = some (server, d) ∧
      parseDnsResponse (d.payload.take 4096) = .ok ip := by
  induction queries with
  | nil => cases hl
  | cons query rest ih =>
    obtain ⟨server, exchange⟩ := query
    rw [forwardLookup] at hl
    rw [answering]
    cases hq : dnsQuery server exchange with
    | error e =>
      rw [hq] at hl
      exact ih hl
    | ok ip' =>
      rw [hq] at hl
      cases hl
      obtain ⟨first, later, rfl, hparse⟩ := dnsQuery_eq_ok hq
      exact ⟨server, first, rfl, hparse⟩

theorem heardBy_of_answering {queries : Queries} {server : SocketAddr} {d : Datagram}
    (ha : answering queries = some (server, d)) : (server, d) ∈ heardBy queries := by
  induction queries with
  | nil => cases ha
  | cons query rest ih =>
    obtain ⟨server', exchange⟩ := query
    rw [answering] at ha
    rw [heardBy]
    cases hq : dnsQuery server' exchange with
    | error e =>
      rw [hq] at ha
      exact List.mem_append_right _ (ih ha)
    | ok ip =>
      obtain ⟨first, later, rfl, -⟩ := dnsQuery_eq_ok hq
      rw [hq, Exchange.arrivals] at ha
      cases ha
      exact List.mem_append_left _ List.mem_cons_self

theorem Trustworthy.isA {server : SocketAddr} {d : Datagram}
    (ht : Trustworthy hostname server d) (hp : parseDnsResponse (d.payload.take 4096) = .ok ip) :
    ∃ m, RespondsTo hostname server d m ∧ ∃ r ∈ m.answers, r.IsA (toBe 4 ip.toNat) := by
  obtain ⟨hhost, hshort, m, hm, hplain, hreach⟩ := ht
  rw [List.take_of_length_le hshort, hm.payload] at hp
  exact ⟨m, hm, parseDnsResponse_isA hhost hm.question hplain hreach hp⟩

/-- Whatever is cached after a step was cached before, or is what the step has resolved. -/
theorem MeshDns.cached_step {s : MeshDns} {op : DnsOp}
    (hc : (s.step op).cached hostname = some ip) :
    s.cached hostname = some ip ∨ ∃ took exchanges, op = .resolve hostname took exchanges ∧
      (s.resolve hostname took exchanges).1 = some ip := by
  cases op with
  | register name ip ttl => exact .inl hc
  | unregister name => exact .inl hc
  | resolve name took exchanges =>
    change (s.resolve name took exchanges).2.cached hostname = some ip at hc
    unfold MeshDns.resolve at hc ⊢
    cases hcached : s.cached name with
    | some cachedIp =>
      rw [hcached] at hc
      exact .inl (cached_of_elapse hc)
    | none =>
      cases hlookup : s.lookup name exchanges with
      | none =>
        rw [hcached, hlookup] at hc
        exact .inl (cached_of_elapse hc)
      | some found =>
        rw [hcached, hlookup] at hc
        rcases cached_store hc with ⟨rfl, rfl⟩ | hold
        · refine .inr ⟨took, exchanges, rfl, ?_⟩
          rw [hcached, hlookup]
        · exact .inl (cached_of_elapse hold)
  | clearCache =>
    rw [MeshDns.cached_of_empty rfl] at hc
    cases hc
  | setUpstream servers => exact .inl hc
  | elapse time => exact .inl (cached_of_elapse hc)

/-- Every address that is cached for a name of the outside is vouched for. -/
def DnsHistory.CachesAuthentically (h : DnsHistory) : Prop :=
  ∀ hostname ip, ¬ IsMesh hostname → h.dns.cached hostname = some ip → h.Vouched hostname ip

theorem DnsHistory.new_cachesAuthentically (upstream : List SocketAddr) (now : Nat) :
    (DnsHistory.new upstream now).CachesAuthentically := by
  intro hostname ip _ hcached
  rw [MeshDns.cached_of_empty rfl] at hcached
  cases hcached

theorem DnsHistory.CachesAuthentically.step (hc : h.CachesAuthentically) {op : DnsOp}
    (hr : h.ResolvesAuthentically op) : (h.step op).CachesAuthentically := by
  intro hostname ip hmesh hcached
  rcases MeshDns.cached_step hcached with hold | ⟨took, exchanges, rfl, hresolved⟩
  · exact (hc hostname ip hmesh hold).step op
  · exact hr hmesh ip hresolved

theorem DnsHistory.CachesAuthentically.resolves (hc : h.CachesAuthentically) {op : DnsOp}
    (ht : h.Trusts op) : h.ResolvesAuthentically op := by
  cases op with
  | resolve hostname took exchanges =>
    intro hmesh ip hresolved
    cases hcached : h.dns.cached hostname with
    | some cachedIp =>
      rw [MeshDns.resolve, hcached] at hresolved
      cases hresolved
      exact (hc hostname ip hmesh hcached).step _
    | none =>
      have hasks : h.Asks hostname := ⟨hmesh, hcached⟩
      have hforward : forwardLookup (h.dns.queries exchanges) = some ip := by
        rw [MeshDns.resolve, hcached] at hresolved
        dsimp only at hresolved
        rw [MeshDns.lookup, if_neg hmesh] at hresolved
        split at hresolved
        · cases hresolved
        · next hforward =>
          cases hresolved
          exact hforward
      obtain ⟨server, d, hanswer, hparse⟩ := answering_of_forwardLookup hforward
      obtain ⟨m, hm, hA⟩ := (ht hasks server d hanswer).isA hparse
      refine ⟨server, d, m, List.mem_append_right _ ?_, hm, hA⟩
      rw [DnsHistory.hears, if_pos hasks]
      exact List.mem_map.mpr ⟨(server, d), heardBy_of_answering hanswer, rfl⟩
  | register hostname ip ttl => trivial
  | unregister hostname => trivial
  | clearCache => trivial
  | setUpstream servers => trivial
  | elapse time => trivial

theorem guarded_resolves {ops : List DnsOp} (hc : h.CachesAuthentically)
    (ht : Guarded DnsHistory.step DnsHistory.Trusts h ops) :
    Guarded DnsHistory.step DnsHistory.ResolvesAuthentically h ops := by
  induction ops generalizing h with
  | nil => trivial
  | cons op ops ih =>
    have hresolves := hc.resolves ht.1
    exact ⟨hresolves, ih (hc.step hresolves) ht.2⟩

end Authenticity

theorem resolves_authentically {upstream : List SocketAddr} {now : Nat} {ops : List DnsOp}
    (ht : Guarded DnsHistory.step DnsHistory.Trusts (DnsHistory.new upstream now) ops) :
    ∀ ops₁ op, ops₁ ++ [op] <+: ops →
      ((DnsHistory.new upstream now).run ops₁).ResolvesAuthentically op := by
  unfold DnsHistory.run
  rw [← guarded_iff_forall_step]
  exact guarded_resolves (DnsHistory.new_cachesAuthentically upstream now) ht

/-- The response of 8.8.8.8 to the query for `a.b`, with the address 9.9.9.9. -/
def genuineResponse : Message where
  id := 1
  flags := 0x8180
  qdcount := 1
  ancount := 1
  nscount := 0
  arcount := 0
  question := questionBytes ['a', '.', 'b']
  answers := [⟨⟨[], some ⟨0xC0, 0x0C, by decide⟩⟩, 1, 1, 60, [9, 9, 9, 9], by decide⟩]
  counted := by decide
  rest := []

def genuineAnswer : Datagram := ⟨⟨.v4 0x08080808, 53⟩, genuineResponse.encode⟩

theorem genuineAnswer_trustworthy :
    Trustworthy ['a', '.', 'b'] ⟨.v4 0x08080808, 53⟩ genuineAnswer := by
  refine ⟨by decide, by decide +kernel, genuineResponse, ?_, ?_, .inl rfl⟩
  · constructor
    · rfl
    · rfl
    · rfl
    · rw [Message.IsResponse]
      decide
    · rfl
    · rfl
  · intro r hr
    rw [List.mem_singleton.mp hr]
    exact .inl rfl

theorem resolves_authentically_genuine :
    ((DnsHistory.new [⟨.v4 0x08080808, 53⟩] 0).run []).ResolvesAuthentically
      (.resolve ['a', '.', 'b'] 0 [.hears genuineAnswer []]) := by
  have hanswer : answering
      ((DnsHistory.new [⟨.v4 0x08080808, 53⟩] 0).dns.queries [.hears genuineAnswer []]) =
        some (⟨.v4 0x08080808, 53⟩, genuineAnswer) := by decide +kernel
  refine resolves_authentically (?_ : Guarded _ _ _
    [.resolve ['a', '.', 'b'] 0 [.hears genuineAnswer []]]) _ _ (List.prefix_refl _)
  refine ⟨?_, trivial⟩
  intro _ server d h
  rw [hanswer] at h
  cases h
  exact genuineAnswer_trustworthy

/-- A response with the address 6.6.6.6 to another query, which somebody else sends. -/
def forgedAnswer : Datagram :=
  ⟨⟨.v4 0x06060606, 53⟩, [0xAB, 0xCD, 0x00, 0x00, 0x00, 0x00, 0x00, 0x01, 0x00, 0x00, 0x00, 0x00,
    0x00, 0x00, 0x01, 0x00, 0x01, 0xC0, 0x0C, 0x00, 0x01, 0x00, 0x01, 0x00, 0x00, 0x00, 0x3C, 0x00,
    0x04, 0x06, 0x06, 0x06, 0x06]⟩

/-- A datagram of a stranger, with another id, the response bit unset and another question, is
taken for the answer. -/
theorem forged_answer_taken :
    ¬ ∀ ops₁ op,
      ops₁ ++ [op] <+: [.resolve ['a', '.', 'b'] 0 [.hears forgedAnswer []]] →
        ((DnsHistory.new [⟨.v4 0x08080808, 53⟩] 0).run ops₁).ResolvesAuthentically op := by
  intro h
  obtain ⟨server, d, m, hheard, hm, -⟩ := h [] (.resolve ['a', '.', 'b'] 0 [.hears forgedAnswer []])
    (List.prefix_refl _) (by decide) 0x06060606 (by decide +kernel)
  have hlist : ((DnsHistory.new [⟨.v4 0x08080808, 53⟩] 0).step
      (.resolve ['a', '.', 'b'] 0 [.hears forgedAnswer []])).heard =
        [(['a', '.', 'b'], ⟨.v4 0x08080808, 53⟩, forgedAnswer)] := by decide +kernel
  change _ ∈ ((DnsHistory.new [⟨.v4 0x08080808, 53⟩] 0).step
    (.resolve ['a', '.', 'b'] 0 [.hears forgedAnswer []])).heard at hheard
  rw [hlist, List.mem_singleton] at hheard
  cases hheard
  exact absurd hm.source (by decide)

end P2PMesh.Dns
