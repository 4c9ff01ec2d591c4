import Rendezvous.Address

/-!
Addresses that a packet can carry: those of an IPv4 endpoint, as it is or in IPv6 clothes, whatever
the scope. Every other address has no endpoint.
-/
namespace Rendezvous

/-- An address is that of an endpoint, as it is or in IPv6 clothes. -/
inductive SocketAddress.HasIpv4Form : SocketAddress → Endpoint → Prop
  | plain (endpoint : Endpoint) : HasIpv4Form (.v4 endpoint) endpoint
  | mapped (endpoint : Endpoint) (scope : UInt32) :
    HasIpv4Form (.v6 (.mapped endpoint.ip) endpoint.port scope) endpoint

theorem Ipv6.mapped?_mapped (ip : Ipv4) : (mapped ip).mapped? = some ip := by
  have hoctets (high low : UInt8) :
      UInt8.ofNat ((Wire.decode16 high low).toNat / 256) = high ∧
        UInt8.ofNat (Wire.decode16 high low).toNat = low := by
    simpa [Wire.encode16] using Wire.encode16_decode16 high low
  show some (Ipv4.mk _ _ _ _) = some ip
  rw [(hoctets ip.a ip.b).1, (hoctets ip.a ip.b).2, (hoctets ip.c ip.d).1, (hoctets ip.c ip.d).2]

theorem Ipv6.eq_mapped_of_mapped? {ip : Ipv6} {inner : Ipv4} (h : ip.mapped? = some inner) :
    ip = mapped inner := by
  unfold mapped? at h
  split at h
  · next high low hgroups =>
    obtain rfl := Option.some.inj h
    obtain ⟨groups⟩ := ip
    rw [mapped, Ipv6.mk.injEq, ← Vector.toList_inj, hgroups]
    dsimp only
    rw [Wire.decode16_encode16, Wire.decode16_encode16]
    rfl
  · cases h

theorem SocketAddress.endpoint?_eq_some_iff {address : SocketAddress} {endpoint : Endpoint} :
    address.endpoint? = some endpoint ↔ address.HasIpv4Form endpoint := by
  constructor
  · intro h
    cases address with
    | v4 e =>
      obtain rfl := Option.some.inj h
      exact .plain e
    | v6 ip port scope =>
      obtain ⟨inner, hinner, rfl⟩ := Option.map_eq_some_iff.1 h
      rw [Ipv6.eq_mapped_of_mapped? hinner]
      exact .mapped ⟨inner, port⟩ scope
  · rintro (_ | ⟨_, scope⟩)
    · rfl
    · rw [endpoint?, Ipv6.mapped?_mapped]
      rfl

end Rendezvous
