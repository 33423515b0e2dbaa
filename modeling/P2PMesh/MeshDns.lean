import P2PMesh.Base.Run
import P2PMesh.Base.Table
import P2PMesh.DnsQuery

namespace P2PMesh.Dns
open P2PMesh.Base
set_option autoImplicit true

structure DnsRecord where
  fqdn : Hostname
  ip : Ipv4Addr
  recordType : String
  ttl : UInt32
  addedAt : Nat

structure CacheEntry where
  ip : Ipv4Addr
  expiresAt : Nat

/-- The resolver and its clock, in nanoseconds. -/
structure MeshDns where
  records : Std.TreeMap Hostname DnsRecord
  cache : Std.TreeMap Hostname CacheEntry
  upstream : List SocketAddr
  now : Nat

def MeshDns.new (upstream : List SocketAddr) (now : Nat) : MeshDns := ⟨∅, ∅, upstream, now⟩

def meshSuffix : Hostname := ['.', 'm', 'e', 's', 'h']

def IsMesh (hostname : Hostname) : Prop := meshSuffix <:+ hostname

instance (hostname : Hostname) : Decidable (IsMesh hostname) :=
  inferInstanceAs (Decidable (meshSuffix <:+ hostname))

def fqdnOf (hostname : Hostname) : Hostname :=
  if IsMesh hostname then hostname else hostname ++ meshSuffix

/-- Five minutes. -/
def cacheTtl : Nat := 300 * 10 ^ 9

/-- A resolution reads the clock once more when it caches its result. -/
inductive DnsOp where
  | register (hostname : Hostname) (ip : Ipv4Addr) (ttl : UInt32)
  | unregister (hostname : Hostname)
  | resolve (hostname : Hostname) (took : Nat) (exchanges : List Exchange)
  | clearCache
  | setUpstream (servers : List SocketAddr)
  | elapse (time : Nat)

section Resolver
variable (s : MeshDns)

def MeshDns.register (hostname : Hostname) (ip : Ipv4Addr) (ttl : UInt32) : MeshDns :=
  let record := ⟨fqdnOf hostname, ip, "A", ttl, s.now⟩
  { s with records := s.records.insert (fqdnOf hostname) record }

def MeshDns.unregister (hostname : Hostname) : MeshDns :=
  { s with records := s.records.erase (fqdnOf hostname) }

def MeshDns.registered (hostname : Hostname) : Option Ipv4Addr :=
  (s.records[hostname]?).map DnsRecord.ip

def MeshDns.cached (hostname : Hostname) : Option Ipv4Addr :=
  match s.cache[hostname]? with
  | none => none
  | some entry => if s.now < entry.expiresAt then some entry.ip else none

/-- The servers in their order, each with its exchange; one that is not told of stays silent. -/
def MeshDns.queries (exchanges : List Exchange) : Queries :=
  s.upstream.zip (exchanges ++ List.replicate s.upstream.length .silent)

def MeshDns.lookup (hostname : Hostname) (exchanges : List Exchange) : Option Ipv4Addr :=
  if IsMesh hostname then s.registered hostname else forwardLookup (s.queries exchanges)

def MeshDns.elapse (time : Nat) : MeshDns := { s with now := s.now + time }

def MeshDns.store (hostname : Hostname) (ip : Ipv4Addr) : MeshDns :=
  { s with cache := s.cache.insert hostname ⟨ip, s.now + cacheTtl⟩ }

def MeshDns.resolve (hostname : Hostname) (took : Nat) (exchanges : List Exchange) :
    Option Ipv4Addr × MeshDns :=
  match s.cached hostname with
  | some ip => (some ip, s.elapse took)
  | none =>
    match s.lookup hostname exchanges with
    | none => (none, s.elapse took)
    | some ip => (some ip, (s.elapse took).store hostname ip)

def MeshDns.step : DnsOp → MeshDns
  | .register hostname ip ttl => s.register hostname ip ttl
  | .unregister hostname => s.unregister hostname
  | .resolve hostname took exchanges => (s.resolve hostname took exchanges).2
  | .clearCache => { s with cache := ∅ }
  | .setUpstream servers => { s with upstream := servers }
  | .elapse time => s.elapse time

def MeshDns.run (ops : List DnsOp) : MeshDns := ops.foldl MeshDns.step s

/-- Whenever a mesh name is resolved from now on, before anything else happens, the address is that
of its record. -/
def MeshDns.Coherent : Prop :=
  ∀ hostname, IsMesh hostname → ∀ time took exchanges,
    ((s.elapse time).resolve hostname took exchanges).1 = s.registered hostname

/-- A record is put in or taken out only while the cache has no other address for its name. -/
def MeshDns.Spares : DnsOp → Prop
  | .register hostname ip _ =>
    ∀ cachedIp, s.cached (fqdnOf hostname) = some cachedIp → cachedIp = ip
  | .unregister hostname => s.cached (fqdnOf hostname) = none
  | _ => True

end Resolver

section Coherence
variable {s : MeshDns}

theorem fqdnOf_isMesh (hostname : Hostname) : IsMesh (fqdnOf hostname) := by
  rw [fqdnOf]
  split
  · next h => exact h
  · exact List.suffix_append hostname meshSuffix

theorem MeshDns.cached_of_empty (h : s.cache = ∅) (hostname : Hostname) :
    s.cached hostname = none := by
  rw [MeshDns.cached, h, Std.TreeMap.getElem?_emptyc]

theorem MeshDns.cached_of_elapse {hostname : Hostname} {time : Nat} {ip : Ipv4Addr}
    (h : (s.elapse time).cached hostname = some ip) : s.cached hostname = some ip := by
  unfold MeshDns.cached at h ⊢
  change (match s.cache[hostname]? with
    | none => none
    | some entry => if s.now + time < entry.expiresAt then some entry.ip else none) = _ at h
  split at h
  · cases h
  · split at h
    · rw [if_pos (by omega)]
      exact h
    · cases h

/-- The records and the cache agree about mesh names. -/
theorem MeshDns.coherent_iff :
    s.Coherent ↔ ∀ hostname, IsMesh hostname → ∀ ip, s.cached hostname = some ip →
      s.registered hostname = some ip := by
  constructor
  · intro h hostname hmesh ip hcached
    have hresolve := h hostname hmesh 0 0 []
    rw [MeshDns.resolve, show (s.elapse 0).cached hostname = some ip from hcached] at hresolve
    exact hresolve.symm
  · intro h hostname hmesh time took exchanges
    rw [MeshDns.resolve]
    split
    · next ip hcached => exact (h hostname hmesh ip (cached_of_elapse hcached)).symm
    · rw [MeshDns.lookup, if_pos hmesh]
      change (match s.registered hostname with
        | none => (none, _)
        | some ip => (some ip, _)).1 = _
      split
      · next hnone => exact hnone.symm
      · next ip hsome => exact hsome.symm

theorem MeshDns.new_coherent (upstream : List SocketAddr) (now : Nat) :
    (MeshDns.new upstream now).Coherent := by
  rw [MeshDns.coherent_iff]
  intro hostname _ ip hcached
  rw [MeshDns.cached_of_empty rfl] at hcached
  cases hcached

theorem MeshDns.registered_register (s : MeshDns) (name : Hostname) (ip : Ipv4Addr)
    (ttl : UInt32) (hostname : Hostname) :
    (s.register name ip ttl).registered hostname =
      if fqdnOf name = hostname then some ip else s.registered hostname := by
  rw [MeshDns.registered, MeshDns.register]
  dsimp only
  rw [getElem?_insert_eq]
  split <;> rfl

theorem MeshDns.registered_unregister (s : MeshDns) (name hostname : Hostname) :
    (s.unregister name).registered hostname =
      if fqdnOf name = hostname then none else s.registered hostname := by
  rw [MeshDns.registered, MeshDns.unregister]
  dsimp only
  rw [getElem?_erase_eq]
  split <;> rfl

theorem MeshDns.Coherent.register_iff (h : s.Coherent) (name : Hostname) (ip : Ipv4Addr)
    (ttl : UInt32) :
    (s.register name ip ttl).Coherent ↔ s.Spares (.register name ip ttl) := by
  rw [MeshDns.coherent_iff] at h ⊢
  constructor
  · intro hafter cachedIp hcached
    have hregistered := hafter (fqdnOf name) (fqdnOf_isMesh name) cachedIp hcached
    rw [MeshDns.registered_register, if_pos rfl] at hregistered
    exact (Option.some.inj hregistered).symm
  · intro hspares hostname hmesh cachedIp hcached
    rw [MeshDns.registered_register]
    split
    · next he =>
      subst he
      rw [hspares cachedIp hcached]
    · exact h hostname hmesh cachedIp hcached

theorem MeshDns.Coherent.unregister_iff (h : s.Coherent) (name : Hostname) :
    (s.unregister name).Coherent ↔ s.Spares (.unregister name) := by
  rw [MeshDns.coherent_iff] at h ⊢
  constructor
  · intro hafter
    rw [MeshDns.Spares, Option.eq_none_iff_forall_ne_some]
    intro cachedIp hcached
    have hregistered := hafter (fqdnOf name) (fqdnOf_isMesh name) cachedIp hcached
    rw [MeshDns.registered_unregister, if_pos rfl] at hregistered
    cases hregistered
  · intro hspares hostname hmesh cachedIp hcached
    rw [MeshDns.registered_unregister]
    split
    · next he =>
      subst he
      change s.cached (fqdnOf name) = some cachedIp at hcached
      rw [MeshDns.Spares] at hspares
      rw [hspares] at hcached
      cases hcached
    · exact h hostname hmesh cachedIp hcached

theorem MeshDns.Coherent.elapse (h : s.Coherent) (time : Nat) : (s.elapse time).Coherent := by
  rw [MeshDns.coherent_iff] at h ⊢
  intro hostname hmesh ip hcached
  exact h hostname hmesh ip (cached_of_elapse hcached)

theorem MeshDns.cached_store {name hostname : Hostname} {ip cachedIp : Ipv4Addr}
    (h : (s.store name ip).cached hostname = some cachedIp) :
    (name = hostname ∧ cachedIp = ip) ∨ s.cached hostname = some cachedIp := by
  rw [MeshDns.cached, MeshDns.store] at h
  dsimp only at h
  rw [getElem?_insert_eq] at h
  split at h
  · cases h
  · next entry he =>
    split at he
    · next hname =>
      cases he
      dsimp only at h
      split at h
      · exact .inl ⟨hname, (Option.some.inj h).symm⟩
      · cases h
    · refine .inr ?_
      rw [MeshDns.cached, he]
      exact h

theorem MeshDns.Coherent.resolve (h : s.Coherent) (name : Hostname) (took : Nat)
    (exchanges : List Exchange) : (s.resolve name took exchanges).2.Coherent := by
  have helapse := h.elapse took
  rw [MeshDns.resolve]
  split
  · exact helapse
  · split
    · exact helapse
    · next ip hlookup =>
      rw [MeshDns.coherent_iff] at helapse ⊢
      intro hostname hmesh cachedIp hcached
      rcases cached_store hcached with ⟨rfl, rfl⟩ | hold
      · rw [MeshDns.lookup, if_pos hmesh] at hlookup
        exact hlookup
      · exact helapse hostname hmesh cachedIp hold

theorem MeshDns.Coherent.step_iff (h : s.Coherent) (op : DnsOp) :
    (s.step op).Coherent ↔ s.Spares op := by
  cases op with
  | register name ip ttl => exact h.register_iff name ip ttl
  | unregister name => exact h.unregister_iff name
  | resolve name took exchanges => exact iff_of_true (h.resolve name took exchanges) trivial
  | clearCache =>
    refine iff_of_true ?_ trivial
    rw [MeshDns.coherent_iff]
    intro hostname _ ip hcached
    rw [MeshDns.cached_of_empty rfl] at hcached
    cases hcached
  | setUpstream servers =>
    refine iff_of_true ?_ trivial
    rw [MeshDns.coherent_iff] at h ⊢
    exact h
  | elapse time => exact iff_of_true (h.elapse time) trivial

end Coherence

theorem mesh_names_coherent_iff (upstream : List SocketAddr) (now : Nat) (ops : List DnsOp) :
    (∀ ops', ops' <+: ops → ((MeshDns.new upstream now).run ops').Coherent) ↔
      Guarded MeshDns.step MeshDns.Spares (MeshDns.new upstream now) ops :=
  forall_prefix_iff (MeshDns.new_coherent upstream now) (fun _ op h => h.step_iff op) ops

/-- A name that is resolved and then unregistered still resolves to its address. -/
theorem unregistered_name_resolves :
    ¬ ((MeshDns.new [] 0).run [.register ['a'] 1 300, .resolve ['a', '.', 'm', 'e', 's', 'h'] 0 [],
      .unregister ['a']]).Coherent := by
  intro h
  have hresolve := h ['a', '.', 'm', 'e', 's', 'h'] (by decide) 0 0 []
  exact absurd hresolve (by decide +kernel)

end P2PMesh.Dns
