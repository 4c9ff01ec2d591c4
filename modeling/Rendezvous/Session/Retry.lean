import Rendezvous.Packet.Connect
import Rendezvous.Session

/-!
Retries. As long as one end of an edge aims at the other and has not acknowledged, it is sent the
other's address again. When neither end needs that, the edge has settled.
-/
namespace Rendezvous.Session

inductive EdgeStep
  | pending (datagrams : List Datagram)
  | settled
  deriving DecidableEq, Repr

/-- Whether a client still has to hear of its peer. -/
def waitsFor (c peer : Client) : Bool :=
  !c.acknowledged && c.target == peer.index

/-- Tells a client to dial its peer. It goes where the signalling of the client goes, and is left
out when an address is not known or cannot be carried. -/
def connectRequest (s : Session) (peer receiver : Client) : List Datagram × List LogEvent :=
  match receiver.negotiateAddress, peer.serverAddress with
  | some destination, some address =>
    match ConnectRequest.forPeer address with
    | .ok request => ([⟨destination, request.encode s.version s.cookie⟩], [])
    | .error failure => ([], [.notCarried s.cookie peer.index failure])
  | _, _ => ([], [])

/-- The Connect-Request, when it is needed. -/
def reminder (s : Session) (peer receiver : Client) : List Datagram × List LogEvent :=
  if waitsFor receiver peer then s.connectRequest peer receiver else ([], [])

/-- One retry of an edge: the second end is served before the first. -/
def retryStep (s : Session) (edge : Edge) : EdgeStep × List LogEvent :=
  match s.client? edge.first, s.client? edge.second with
  | some a, some b =>
    if waitsFor b a || waitsFor a b then
      let (forSecond, logs) := s.reminder a b
      let (forFirst, moreLogs) := s.reminder b a
      (.pending (forSecond ++ forFirst), logs ++ moreLogs)
    else (.settled, [])
  | _, _ => (.settled, [])

end Rendezvous.Session
