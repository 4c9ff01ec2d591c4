import Rendezvous.Packet.Init
import Rendezvous.Table

/-!
A participant of a session. A client is idle or has a target. It is mapped once both the address
for signalling and the address for peers are known; addresses are learned from probes, may be
replaced and are never forgotten. The set of connected peers only grows.
-/
namespace Rendezvous

structure Client where
  cookie : UInt32
  /-- Chosen by the client itself. -/
  index : UInt8
  /-- The peer it is to connect to, or its own index while it is idle. -/
  target : UInt8
  /-- Whether the Connect-Request of the current attempt is acknowledged. -/
  acknowledged : Bool
  connected : IndexSet
  /-- Where signalling goes. -/
  negotiateAddress : Option SocketAddress
  /-- What the client says about its own network. -/
  localAddress : Option Endpoint
  /-- What peers dial. -/
  serverAddress : Option SocketAddress
  gameName : String
  deriving DecidableEq, Repr

namespace Client

def fresh (cookie : UInt32) (index : UInt8) (gameName : String) : Client where
  cookie := cookie
  index := index
  target := index
  acknowledged := false
  connected := .empty
  negotiateAddress := none
  localAddress := none
  serverAddress := none
  gameName := gameName

def isMapped (c : Client) : Bool :=
  c.negotiateAddress.isSome && c.serverAddress.isSome

def isIdle (c : Client) : Bool :=
  c.target == c.index

/-- Ready to be paired. -/
def isAvailable (c : Client) : Bool :=
  c.isIdle && c.isMapped

def hasConnectedTo (c : Client) (peer : UInt8) : Bool :=
  c.connected.contains peer

/-- Probe sockets show where signalling goes; the game port, or any socket when the game port is
not used, shows what peers dial. -/
def learn (c : Client) (r : InitRequest) (source : SocketAddress) : Client :=
  { c with
    negotiateAddress := if r.port = .gamePort then c.negotiateAddress else some source
    localAddress := if r.localEndpoint.port = 0 then c.localAddress else some r.localEndpoint
    serverAddress :=
      if r.useGamePort = false ∨ r.port = .gamePort then some source else c.serverAddress }

/-- A new attempt waits for an acknowledgement of its own. -/
def aimAt (c : Client) (peer : UInt8) : Client :=
  { c with target := peer, acknowledged := false }

def acknowledge (c : Client) : Client :=
  { c with acknowledged := true }

/-- The peer of the current attempt. -/
def peer? (c : Client) : Option UInt8 :=
  if c.isIdle then none else some c.target

/-- Ends the attempt, if there is one, and counts its peer as connected. -/
def finish (c : Client) : Client :=
  { c with
    target := c.index
    acknowledged := false
    connected := match c.peer? with
      | none => c.connected
      | some peer => c.connected.insertIndex peer }

def signallingAddress (c : Client) : Option SocketAddress :=
  c.negotiateAddress.or c.serverAddress

end Client

end Rendezvous
