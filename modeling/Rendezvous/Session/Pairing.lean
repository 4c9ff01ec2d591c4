import Rendezvous.Session

/-!
Pairing. Clients are looked at in ascending order of their indices; one that is available is
paired with the lowest client that is available too, and to which it has not been connected
before, seen from either side. Both then have each other as targets.
-/
namespace Rendezvous.Session

/-- Whether a pairing may join the client `a`, which is available, with the index `second`. -/
def canPair (s : Session) (a : Client) (second : UInt8) : Bool :=
  a.index != second &&
    match s.client? second with
    | none => false
    | some b => b.isAvailable && !b.hasConnectedTo a.index && !a.hasConnectedTo second

/-- The lowest partner of a client that is available. -/
def partner? (s : Session) (first : UInt8) : Option UInt8 :=
  match s.client? first with
  | none => none
  | some a => if a.isAvailable then s.clients.keys.find? (s.canPair a) else none

/-- Gives two clients each other as targets. -/
def join (s : Session) (edge : Edge) : Session :=
  (s.update edge.first (·.aimAt edge.second)).update edge.second (·.aimAt edge.first)

def pairAlong (s : Session) : List UInt8 → Session × List Edge
  | [] => (s, [])
  | first :: rest =>
    match s.partner? first with
    | none => s.pairAlong rest
    | some second =>
      let (paired, edges) := (s.join ⟨first, second⟩).pairAlong rest
      (paired, ⟨first, second⟩ :: edges)

/-- Pairs all clients that can be paired; the edges are in the order in which they arise. -/
def pairIdle (s : Session) : Session × List Edge :=
  s.pairAlong s.clients.keys

/-- Each pairing is worth knowing. -/
def pairingLogs (s : Session) (edges : List Edge) : List LogEvent :=
  edges.map fun edge => .paired s.cookie edge.first edge.second

end Rendezvous.Session
