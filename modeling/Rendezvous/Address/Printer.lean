import Rendezvous.Address
import Rendezvous.Text.Hex

/-!
The text of addresses. An IPv6 address is written with lower case groups without leading zeros;
its longest run of two or more zero groups, the first of several, shrinks to `::`; an IPv4
address inside keeps its dots; a scope is written only when it is not zero.
-/
namespace Rendezvous

def Ipv4.text (ip : Ipv4) : String :=
  String.intercalate "." (ip.octets.map fun octet => toString octet.toNat)

namespace Ipv6

/-- The length of the run of zero groups that starts at a position. -/
def zerosAt (groups : List UInt16) (start : Nat) : Nat :=
  ((groups.drop start).takeWhile (· == 0)).length

/-- Start and length of the first longest run of zero groups. -/
def longestZeros (groups : List UInt16) : Nat × Nat :=
  (List.range groups.length).foldl
    (fun best start =>
      if best.2 < zerosAt groups start then (start, zerosAt groups start) else best)
    (0, 0)

def groupsText (groups : List UInt16) : String :=
  String.intercalate ":" (groups.map fun group => Text.hex group.toNat)

def text (ip : Ipv6) : String :=
  match ip.mapped? with
  | some inner => "::ffff:" ++ inner.text
  | none =>
    let groups := ip.groups.toList
    let (start, length) := longestZeros groups
    if 1 < length then
      groupsText (groups.take start) ++ "::" ++ groupsText (groups.drop (start + length))
    else
      groupsText groups

end Ipv6

def Endpoint.text (endpoint : Endpoint) : String :=
  endpoint.ip.text ++ ":" ++ toString endpoint.port.toNat

def SocketAddress.text : SocketAddress → String
  | v4 endpoint => endpoint.text
  | v6 ip port scope =>
    let zone := if scope = 0 then "" else "%" ++ toString scope.toNat
    "[" ++ ip.text ++ zone ++ "]:" ++ toString port.toNat

end Rendezvous
