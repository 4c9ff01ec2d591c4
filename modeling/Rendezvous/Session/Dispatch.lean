import Rendezvous.Packet.Connect
import Rendezvous.Session.Pairing

/-!
What a packet does to a session. The outcome of a packet is the session after it, the replies to
send, the edges that come into being or the failure, and what there is to log. A packet that
fails leaves the session as it was; the replies that it had caused by then are still sent.
-/
namespace Rendezvous

/-- The outcome of a packet. -/
structure Reaction where
  session : Session
  result : Except Failure (List Edge)
  replies : List Datagram
  logs : List LogEvent

namespace Session

/-- Nothing changes and nothing is sent. -/
def ignore (s : Session) (logs : List LogEvent) : Reaction :=
  ⟨s, .ok [], [], logs⟩

def refuse (s : Session) (failure : Failure) : Reaction :=
  ⟨s, .error failure, [], []⟩

/-- Only a new client has to name the game of the session. -/
def checkGame (s : Session) (r : InitRequest) : Except Failure Unit :=
  match s.client? r.index, s.gameName with
  | none, some established =>
    if established = r.gameName then .ok ()
    else .error (.gameNameMismatch established r.gameName)
  | _, _ => .ok ()

/-- The client that sends a probe, as it is before the probe. -/
def prober (s : Session) (r : InitRequest) : Client :=
  (s.client? r.index).getD (.fresh s.cookie r.index r.gameName)

/-- Takes in a probe. The first client to register names the game of the session. -/
def register (s : Session) (r : InitRequest) (source : SocketAddress) : Session :=
  { s with
    clients := s.clients.insert r.index ((s.prober r).learn r source)
    gameName := s.gameName.or (some r.gameName) }

/-- Pairs the clients when the one that sent the probe is mapped. -/
def pairAfter (s : Session) (index : UInt8) : Session × List Edge :=
  if (s.client? index).any (·.isMapped) then s.pairIdle else (s, [])

/-- A probe is acknowledged first, also when the client is then refused. -/
def handleInit (s : Session) (r : InitRequest) (source : SocketAddress) : Reaction :=
  let replies := [⟨source, (InitReply.forRequest r).encode s.version s.cookie⟩]
  let strays := if r.stray = 0 then [] else [.strayBytes s.cookie source r.stray]
  match s.checkGame r with
  | .error failure => ⟨s, .error failure, replies, strays⟩
  | .ok () =>
    let created := if (s.client? r.index).isSome then []
      else [.clientCreated s.cookie source r.index]
    let (after, edges) := (s.register r source).pairAfter r.index
    ⟨after, .ok edges, replies, strays ++ created ++ s.pairingLogs edges⟩

/-- An index that is not registered is ignored. -/
def acknowledge (s : Session) (index : UInt8) : Session :=
  s.update index (·.acknowledge)

/-- Ends the attempt of a client, which can then be paired again. -/
def rotate (s : Session) (index : UInt8) : Session :=
  s.update index (·.finish)

/-- A report is answered whether or not its client is known. -/
def handleReport (s : Session) (r : ReportRequest) (source : SocketAddress) : Reaction :=
  let (after, edges) := (s.rotate r.index).pairIdle
  ⟨after, .ok edges, [⟨source, ReportReply.forRequest s.version s.cookie r⟩],
    .reported s.cookie source r :: s.pairingLogs edges⟩

/-- What a packet with this header and payload does. Version and cookie are not looked at. -/
def dispatch (s : Session) (header : Header) (payload : Wire.Bytes) (source : SocketAddress) :
    Reaction :=
  match header.command? with
  | none => s.ignore [.unknownCommand s.cookie source header.code]
  | some .initRequest =>
    match InitRequest.decode payload with
    | .error failure => s.refuse failure
    | .ok request => s.handleInit request source
  | some .connectReply =>
    match ConnectReply.decode payload with
    | .error failure => s.refuse failure
    | .ok reply => (s.acknowledge reply.index).ignore []
  | some .reportRequest =>
    match ReportRequest.decode payload with
    | .error failure => s.refuse failure
    | .ok report => s.handleReport report source
  | some command =>
    if command.isFromServer then s.ignore [.serverCommand s.cookie source command]
    else s.ignore [.noted s.cookie source command]

/-- A packet of another version than the session's is refused. -/
def accept (s : Session) (header : Header) (payload : Wire.Bytes) (source : SocketAddress) :
    Reaction :=
  match s.checkVersion header.version with
  | .error failure => s.refuse failure
  | .ok () => s.dispatch header payload source

/-- Hands a datagram over, whatever its version and cookie. -/
def deliver (s : Session) (datagram : Wire.Bytes) (source : SocketAddress) : Reaction :=
  match Header.decode datagram with
  | .error failure => s.refuse failure
  | .ok (header, payload) => s.dispatch header payload source

/-- What makes a client give up, with its log; nothing for a client that is idle. -/
def cancellation? (s : Session) (c : Client) : Option (Datagram × LogEvent) :=
  if c.isIdle then none
  else c.signallingAddress.map fun destination =>
    (⟨destination, ReportReply.cancellation s.version s.cookie c.index⟩,
      .disconnecting s.cookie destination c.index)

/-- Makes every client give up that is in the middle of an attempt. -/
def cancellations (s : Session) : List Datagram × List LogEvent :=
  (s.clients.values.filterMap s.cancellation?).unzip

end Session

end Rendezvous
