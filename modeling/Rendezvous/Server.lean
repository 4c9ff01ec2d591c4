import Rendezvous.Registry
import Rendezvous.Session.Retry
import Rendezvous.Settings

/-!
The server: a registry of sessions, the retries that run for their edges, the expiries that are
due for them, and what is counted. Everything happens in steps that nothing interrupts: a datagram
comes in, or the socket fails to give one, a retry wakes up, a session expires, the server stops
listening. What becomes of the datagrams of a step is not for the server to say; every step is told.
-/
namespace Rendezvous

/-- What becomes of the datagrams of a step, which are numbered in the order of their sending. -/
abbrev Delivery := Nat → Datagram → Option SocketError

/-- A datagram that the server tried to send. -/
structure Attempt where
  datagram : Datagram
  error? : Option SocketError
  deriving DecidableEq, Repr

def Attempt.isSent (a : Attempt) : Bool :=
  a.error?.isNone

structure Traffic where
  packetsSent : Nat := 0
  packetsReceived : Nat := 0
  bytesSent : Nat := 0
  bytesReceived : Nat := 0
  sendErrors : Nat := 0
  receiveErrors : Nat := 0
  deriving DecidableEq, Repr

namespace Traffic

def countAttempt (t : Traffic) (a : Attempt) : Traffic :=
  if a.isSent then
    { t with
      packetsSent := t.packetsSent + 1
      bytesSent := t.bytesSent + a.datagram.contents.length }
  else { t with sendErrors := t.sendErrors + 1 }

def countAttempts (t : Traffic) (attempts : List Attempt) : Traffic :=
  attempts.foldl countAttempt t

def countReceived (t : Traffic) (bytes : Nat) : Traffic :=
  { t with
    packetsReceived := t.packetsReceived + 1
    bytesReceived := t.bytesReceived + bytes }

def countReceiveError (t : Traffic) : Traffic :=
  { t with receiveErrors := t.receiveErrors + 1 }

end Traffic

structure Counters where
  sessionsCreated : Nat := 0
  sessionsExpired : Nat := 0
  packetsDropped : Nat := 0
  connectRequestsSent : Nat := 0
  deriving DecidableEq, Repr

/-- A retry that runs for an edge of a session, and when it wakes up. -/
structure Retry where
  handle : Nat
  edge : Edge
  due : Nat
  deriving DecidableEq, Repr

structure Server where
  settings : Settings
  valid : settings.Valid
  /-- Where the server listens. -/
  address : SocketAddress
  registry : Registry
  retries : List Retry
  /-- The handles of the sessions whose expiry is to come. -/
  expiries : List Nat
  counters : Counters
  traffic : Traffic
  isListening : Bool

namespace Server

inductive Event
  /-- A datagram reaches the socket. -/
  | receive (source : SocketAddress) (datagram : Wire.Bytes)
  /-- The socket has an error instead of a datagram. -/
  | receiveFailed (cause : SocketError)
  /-- A datagram is handed over without the socket. -/
  | handle (source : SocketAddress) (datagram : Wire.Bytes)
  /-- The retry at this place of the list of retries wakes up. -/
  | retry (place : Nat)
  | expire (handle : Nat)
  | stop
  deriving DecidableEq, Repr

/-- The outcome of a step. -/
structure Outcome where
  server : Server
  result : Except Failure Unit
  attempts : List Attempt
  logs : List LogEvent

def start (settings : Settings) (valid : settings.Valid) (address : SocketAddress) : Server where
  settings := settings
  valid := valid
  address := address
  registry := .empty
  retries := []
  expiries := []
  counters := {}
  traffic := {}
  isListening := true

/-- Settings are looked at before a socket is made. -/
def bind (network : Network) (settings : Settings) : Except Failure Outcome :=
  match valid : settings.validate with
  | .error failure => .error failure
  | .ok () =>
    match network.bind settings.bindAddress with
    | .error cause => .error (.socket cause)
    | .ok address =>
      .ok ⟨start settings (Settings.validate_eq_ok_iff.1 valid) address, .ok (), [],
        [.listening address]⟩

def quiet (s : Server) (logs : List LogEvent) : Outcome :=
  ⟨s, .ok (), [], logs⟩

def attempt (delivery : Delivery) (datagrams : List Datagram) : List Attempt :=
  datagrams.mapIdx fun n datagram => ⟨datagram, delivery n datagram⟩

def countAttempts (s : Server) (attempts : List Attempt) : Server :=
  { s with traffic := s.traffic.countAttempts attempts }

/-- One event for each datagram that could not be sent. -/
def failures (event : SocketAddress → SocketError → LogEvent) (attempts : List Attempt) :
    List LogEvent :=
  attempts.filterMap fun a => a.error?.map (event a.datagram.destination)

/-- The session that a packet belongs to. A new session is counted and will expire. -/
def enter (s : Server) (now : Nat) (header : Header) : Server × Nat × List LogEvent :=
  let entrance := s.registry.enter now header.cookie header.version
  if entrance.created then
    ({ s with
        registry := entrance.registry
        expiries := s.expiries ++ [entrance.handle]
        counters := { s.counters with sessionsCreated := s.counters.sessionsCreated + 1 } },
      entrance.handle, [.sessionCreated header.cookie header.version])
  else (s, entrance.handle, [])

/-- Hands a packet to its session, which looks at its version, sends the replies and starts a
retry for every new edge. -/
def process (s : Server) (delivery : Delivery) (now handle : Nat) (session : Session)
    (header : Header) (payload : Wire.Bytes) (source : SocketAddress) : Outcome :=
  let reaction := session.accept header payload source
  let attempts := attempt delivery reaction.replies
  let logs := reaction.logs ++ failures (.replyFailed header.cookie) attempts
  let s := { s with registry := s.registry.setSession handle reaction.session }.countAttempts
    attempts
  match reaction.result with
  | .error failure => ⟨s, .error failure, attempts, logs⟩
  | .ok edges =>
    ⟨{ s with retries := s.retries ++ edges.map fun edge => ⟨handle, edge, now⟩ }, .ok (),
      attempts, logs⟩

/-- What one datagram does. Commands that nobody knows and commands that need no session end
here; every other packet goes to the session of its cookie. -/
def handleDatagram (s : Server) (delivery : Delivery) (now : Nat) (source : SocketAddress)
    (datagram : Wire.Bytes) : Outcome :=
  match Header.decode datagram with
  | .error failure => ⟨s, .error failure, [], []⟩
  | .ok (header, payload) =>
    match header.command? with
    | none => s.quiet [.unknownCommand header.cookie source header.code]
    | some command =>
      if command.isStateless then s.quiet [.noted header.cookie source command]
      else
        let (s, handle, opened) := s.enter now header
        match s.registry.lease? handle with
        | none => s.quiet opened
        | some lease =>
          let outcome := s.process delivery now handle lease.session header payload source
          { outcome with logs := opened ++ outcome.logs }

def countDrop (s : Server) : Server :=
  { s with counters := { s.counters with packetsDropped := s.counters.packetsDropped + 1 } }

/-- A datagram from the socket is cut to the limit and counted; a failure is counted and logged
and goes no further. -/
def receive (s : Server) (delivery : Delivery) (now : Nat) (source : SocketAddress)
    (datagram : Wire.Bytes) : Outcome :=
  if s.isListening then
    let datagram := datagram.take s.settings.datagramLimit
    let s := { s with traffic := s.traffic.countReceived datagram.length }
    let outcome := s.handleDatagram delivery now source datagram
    match outcome.result with
    | .ok () => outcome
    | .error failure =>
      ⟨outcome.server.countDrop, .ok (), outcome.attempts,
        outcome.logs ++ [.dropped source failure]⟩
  else s.quiet []

/-- An error of the socket is counted and logged, and the server goes on listening. -/
def receiveFailed (s : Server) (cause : SocketError) : Outcome :=
  if s.isListening then
    { s with traffic := s.traffic.countReceiveError }.quiet [.receiveFailed cause]
  else s.quiet []

def countConnectRequests (s : Server) (attempts : List Attempt) : Server :=
  { s with
    counters := { s.counters with
      connectRequestsSent := s.counters.connectRequestsSent + attempts.countP (·.isSent) } }

/-- A retry ends when its session is closed or its edge has settled. Otherwise it sends what is
needed and sleeps. -/
def wake (s : Server) (delivery : Delivery) (now place : Nat) : Outcome :=
  match s.retries[place]? with
  | none => s.quiet []
  | some retry =>
    let ended := { s with retries := s.retries.eraseIdx place }
    match s.registry.lease? retry.handle with
    | none => ended.quiet []
    | some lease =>
      if lease.isOpen then
        match lease.session.retryStep retry.edge with
        | (.settled, logs) =>
          ended.quiet
            (logs ++ [.settled lease.session.cookie retry.edge.first retry.edge.second])
        | (.pending datagrams, logs) =>
          let attempts := attempt delivery datagrams
          let asleep := { retry with due := now + s.settings.retryInterval }
          ⟨({ s with retries := s.retries.set place asleep }.countAttempts
              attempts).countConnectRequests attempts,
            .ok (), attempts,
            logs ++ failures (.connectRequestFailed lease.session.cookie) attempts⟩
      else ended.quiet []

def countExpired (s : Server) : Server :=
  { s with counters := { s.counters with sessionsExpired := s.counters.sessionsExpired + 1 } }

/-- The expiry of a session happens once. -/
def expire (s : Server) (delivery : Delivery) (handle : Nat) : Outcome :=
  if handle ∈ s.expiries then
    let s := { s with expiries := s.expiries.erase handle }
    match s.registry.lease? handle with
    | none => s.quiet []
    | some lease =>
      let (registry, datagrams, logs) := s.registry.expire handle
      let attempts := attempt delivery datagrams
      let cookie := lease.session.cookie
      ⟨({ s with registry := registry }.countAttempts attempts).countExpired, .ok (), attempts,
        logs ++ failures (.cancellationFailed cookie) attempts ++ [.sessionDeleted cookie]⟩
  else s.quiet []

/-- Sessions outlive the end of listening; their retries and expiries go on. -/
def stop (s : Server) : Outcome :=
  if s.isListening then
    { s with isListening := false }.quiet [.shuttingDown s.registry.size]
  else s.quiet []

def step (s : Server) (delivery : Delivery) (now : Nat) : Event → Outcome
  | .receive source datagram => s.receive delivery now source datagram
  | .receiveFailed cause => s.receiveFailed cause
  | .handle source datagram => s.handleDatagram delivery now source datagram
  | .retry place => s.wake delivery now place
  | .expire handle => s.expire delivery handle
  | .stop => s.stop

end Server

end Rendezvous
