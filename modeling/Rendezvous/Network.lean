import Rendezvous.Address

/-!
What the system does with sockets and datagrams. A network decides which addresses a socket can
have and which datagrams leave it; nothing is known about a datagram once it has left.
-/
namespace Rendezvous

structure Datagram where
  destination : SocketAddress
  contents : Wire.Bytes
  deriving DecidableEq, Repr

/-- Why the system refuses to make a socket, or to take or to give a datagram. -/
inductive SocketError
  | networkUnreachable
  | addressUnavailable
  | addressFamily
  | invalidArgument
  /-- Any other error, in the words of the system. -/
  | system (text : String)
  deriving DecidableEq, Repr

def SocketError.message : SocketError → String
  | .networkUnreachable => "Network is unreachable (os error 101)"
  | .addressUnavailable => "Cannot assign requested address (os error 99)"
  | .addressFamily => "Address family not supported by protocol (os error 97)"
  | .invalidArgument => "Invalid argument (os error 22)"
  | .system text => text

structure Network where
  /-- The address that a socket gets when it asks for one. -/
  bind : SocketAddress → Except SocketError SocketAddress
  /-- The error, if there is one, of sending a datagram. -/
  sendError? : Datagram → Option SocketError

namespace Network

/-- Addresses that every host has: loopback, or any address of the host. -/
def isLocal : SocketAddress → Bool
  | .v4 endpoint => endpoint.ip.a == 127 || endpoint.ip == ⟨0, 0, 0, 0⟩
  | .v6 ip _ _ =>
    match ip.mapped? with
    | some inner => inner.a == 127
    | none =>
      match ip.groups.toList with
      | [0, 0, 0, 0, 0, 0, 0, last] => last ≤ 1
      | _ => false

/-- A port for a socket that asks for none. -/
def freePort : UInt16 := 49152

def bindLocal (address : SocketAddress) : Except SocketError SocketAddress :=
  if isLocal address then
    .ok (if address.port = 0 then address.withPort freePort else address)
  else .error .addressUnavailable

/-- A host whose IPv4 socket reaches every IPv4 address that has a port. -/
def routed : Network where
  bind := bindLocal
  sendError? datagram :=
    match datagram.destination with
    | .v6 _ _ _ => some .addressFamily
    | .v4 endpoint => if endpoint.port = 0 then some .invalidArgument else none

/-- A host without a route to anywhere: sockets can be made, and no datagram leaves them. -/
def isolated : Network where
  bind := bindLocal
  sendError? _ := some .networkUnreachable

end Network

end Rendezvous
