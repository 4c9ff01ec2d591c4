import Rendezvous.Wire.BigEndian

/-!
Socket addresses. A packet has room for an IPv4 address and a port alone; an IPv6 address fits
when it is an IPv4 address in IPv6 clothes (`::ffff:a.b.c.d`), whatever its scope.
-/
namespace Rendezvous

structure Ipv4 where
  a : UInt8
  b : UInt8
  c : UInt8
  d : UInt8
  deriving DecidableEq, Repr

structure Ipv6 where
  groups : Vector UInt16 8
  deriving DecidableEq, Repr

/-- An address that a packet can carry. -/
structure Endpoint where
  ip : Ipv4
  port : UInt16
  deriving DecidableEq, Repr

/-- Where a datagram comes from or goes to. The flow label that an IPv6 address can have is left
out: it is never looked at, written or shown. -/
inductive SocketAddress
  | v4 (endpoint : Endpoint)
  | v6 (ip : Ipv6) (port : UInt16) (scope : UInt32)
  deriving DecidableEq, Repr

namespace Ipv4

def octets (ip : Ipv4) : Wire.Bytes :=
  [ip.a, ip.b, ip.c, ip.d]

@[simp] theorem length_octets (ip : Ipv4) : ip.octets.length = 4 := rfl

end Ipv4

namespace Ipv6

def ofGroups? (groups : List UInt16) : Option Ipv6 :=
  if h : groups.length = 8 then some ⟨⟨⟨groups⟩, h⟩⟩ else none

/-- The IPv6 form of an IPv4 address. -/
def mapped (ip : Ipv4) : Ipv6 :=
  ⟨#v[0, 0, 0, 0, 0, 0xFFFF, Wire.decode16 ip.a ip.b, Wire.decode16 ip.c ip.d]⟩

/-- The IPv4 address inside, when there is one. -/
def mapped? (ip : Ipv6) : Option Ipv4 :=
  match ip.groups.toList with
  | [0, 0, 0, 0, 0, 0xFFFF, high, low] =>
    some ⟨UInt8.ofNat (high.toNat / 256), UInt8.ofNat high.toNat,
      UInt8.ofNat (low.toNat / 256), UInt8.ofNat low.toNat⟩
  | _ => none

end Ipv6

namespace SocketAddress

def port : SocketAddress → UInt16
  | v4 endpoint => endpoint.port
  | v6 _ port _ => port

def withPort : SocketAddress → UInt16 → SocketAddress
  | v4 endpoint, port => v4 { endpoint with port := port }
  | v6 ip _ scope, port => v6 ip port scope

/-- What a packet carries for this address. -/
def endpoint? : SocketAddress → Option Endpoint
  | v4 endpoint => some endpoint
  | v6 ip port _ => ip.mapped?.map fun inner => ⟨inner, port⟩

end SocketAddress

end Rendezvous
