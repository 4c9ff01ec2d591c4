/-!
What clients say about themselves with one byte each: the socket a probe comes from, the kind of
NAT they sit behind and the way it maps ports.
-/
namespace Rendezvous

/-- The socket that a probe was sent from. -/
inductive PortType
  | gamePort
  | probe1
  | probe2
  | probe3
  deriving DecidableEq, Repr

namespace PortType

def code : PortType → UInt8
  | gamePort => 0
  | probe1 => 1
  | probe2 => 2
  | probe3 => 3

def ofCode? (code : UInt8) : Option PortType :=
  match code with
  | 0 => some gamePort
  | 1 => some probe1
  | 2 => some probe2
  | 3 => some probe3
  | _ => none

def text : PortType → String
  | gamePort => "GamePort"
  | probe1 => "NATNEG1"
  | probe2 => "NATNEG2"
  | probe3 => "NATNEG3"

@[simp] theorem ofCode?_code (port : PortType) : ofCode? port.code = some port := by
  cases port <;> rfl

theorem eq_code_of_ofCode? {code : UInt8} {port : PortType} (h : ofCode? code = some port) :
    code = port.code := by
  unfold ofCode? at h
  split at h <;> first
    | (obtain rfl := Option.some.inj h; rfl)
    | cases h

end PortType

inductive NatType
  | noNat
  | firewallOnly
  | fullCone
  | restrictedCone
  | portRestrictedCone
  | symmetric
  | unknown
  deriving DecidableEq, Repr

namespace NatType

def ofCode? (code : UInt8) : Option NatType :=
  match code with
  | 0 => some noNat
  | 1 => some firewallOnly
  | 2 => some fullCone
  | 3 => some restrictedCone
  | 4 => some portRestrictedCone
  | 5 => some symmetric
  | 6 => some unknown
  | _ => none

def text : NatType → String
  | noNat => "NoNat"
  | firewallOnly => "FirewallOnly"
  | fullCone => "FullCone"
  | restrictedCone => "RestrictedCone"
  | portRestrictedCone => "PortRestrictedCone"
  | symmetric => "Symmetric"
  | unknown => "Unknown"

end NatType

/-- How a NAT chooses the public port for a private one. -/
inductive MappingScheme
  | unknown
  | samePrivatePublic
  | consistent
  | incremental
  | mixed
  deriving DecidableEq, Repr

namespace MappingScheme

def ofCode? (code : UInt8) : Option MappingScheme :=
  match code with
  | 0 => some unknown
  | 1 => some samePrivatePublic
  | 2 => some consistent
  | 3 => some incremental
  | 4 => some mixed
  | _ => none

def text : MappingScheme → String
  | unknown => "Unknown"
  | samePrivatePublic => "SamePrivatePublic"
  | consistent => "Consistent"
  | incremental => "Incremental"
  | mixed => "Mixed"

end MappingScheme

end Rendezvous
