import Rendezvous.CommandLine
import Rendezvous.Server.Timeline
import Std.Async.Signal
import Std.Async.Timer
import Std.Async.UDP
import Std.Sync.CancellationToken

/-!
The command that serves on a real socket until it is interrupted. It waits for the next datagram,
the next timer or the interrupt, takes the step that belongs to it, and sends what the step wants
to send. What a step sends does not depend on what becomes of it, so the step is looked at once
to learn its datagrams and taken when their fate is known.
-/
namespace Rendezvous.Command

open Std.Async (Async Selectable)

def toNet : SocketAddress → Std.Net.SocketAddress
  | .v4 e => .v4 ⟨⟨#v[e.ip.a, e.ip.b, e.ip.c, e.ip.d]⟩, e.port⟩
  | .v6 ip port _ => .v6 ⟨⟨ip.groups⟩, port⟩

def ofNet : Std.Net.SocketAddress → SocketAddress
  | .v4 a => .v4 ⟨⟨a.addr.octets[0], a.addr.octets[1], a.addr.octets[2], a.addr.octets[3]⟩, a.port⟩
  | .v6 a => .v6 ⟨a.addr.segments⟩ a.port 0

def levelText : LogLevel → String
  | .debug => "DEBUG"
  | .info => " INFO"
  | .warn => " WARN"
  | .error => "ERROR"

/-- Events of the lowest level are not shown. -/
def print (events : List LogEvent) : IO Unit := do
  for event in events do
    if event.level ≠ .debug then
      IO.println (levelText event.level ++ " " ++ event.text)
  (← IO.getStdout).flush

def send (socket : Std.Async.UDP.Socket) (datagram : Datagram) : IO (Option SocketError) := do
  try
    (socket.send ⟨datagram.contents.toArray⟩ (some (toNet datagram.destination))).block
    return none
  catch e => return some (.system e.toString)

def perform (socket : Std.Async.UDP.Socket) (t : Timeline) (time : Nat) (event : Server.Event) :
    IO Timeline := do
  let wanted := (t.server.step (fun _ _ => none) time event).attempts
  let fates ← wanted.mapM fun attempt => send socket attempt.datagram
  let (after, moment) := t.take (fun _ n _ => fates[n]?.join) time event
  print moment.outcome.logs
  return after

inductive Wakeup
  | datagram (source : Option SocketAddress) (contents : Wire.Bytes)
  | failure (cause : SocketError)
  | timer
  | interrupt

/-- A token that the interrupt cancels, also between two waits. -/
def interruption : IO Std.CancellationToken := do
  let token ← Std.CancellationToken.new
  let signal ← (← Std.Async.Signal.Waiter.mk .sigint false).wait
  discard <| signal.mapIO fun _ => token.cancel .shutdown
  return token

/-- The first of a datagram, the next timer and the interrupt. -/
def first (socket : Std.Async.UDP.Socket) (interrupt : Std.CancellationToken) (t : Timeline)
    (now : Nat) : Async Wakeup := do
  let size := UInt64.ofNat t.server.settings.datagramLimit
  let arrival : Selectable Wakeup := .case (socket.recvSelector size) fun (contents, source) =>
    return .datagram (source.map ofNet) contents.toList
  let stop : Selectable Wakeup := .case interrupt.selector fun () => return .interrupt
  match Server.earliest (t.server.expiryTimers ++ t.server.retryTimers) with
  | none => Selectable.one #[arrival, stop]
  | some (due, _) =>
    let sleep ← Std.Async.Selector.sleep (.ofNat (due - now))
    Selectable.one #[arrival, stop, .case sleep fun () => return .timer]

/-- Waits for the first of them; the socket is the one that can fail. -/
def wait (socket : Std.Async.UDP.Socket) (interrupt : Std.CancellationToken) (t : Timeline)
    (now : Nat) : IO Wakeup := do
  try (first socket interrupt t now).block
  catch e => return .failure (.system e.toString)

/-- Serves until the interrupt; returns the server as it is then. -/
partial def serve (socket : Std.Async.UDP.Socket) (interrupt : Std.CancellationToken)
    (started : Nat) (t : Timeline) : IO Server := do
  let now := (← IO.monoMsNow) - started
  match t.server.next? now with
  | some (_, timer) => serve socket interrupt started (← perform socket t now timer.event)
  | none =>
    match ← wait socket interrupt t now with
    | .interrupt => return (← perform socket t now .stop).server
    | .timer | .datagram none _ => serve socket interrupt started t
    | .datagram (some source) contents =>
      let now := (← IO.monoMsNow) - started
      serve socket interrupt started (← perform socket t now (.receive source contents))
    | .failure cause =>
      let now := (← IO.monoMsNow) - started
      serve socket interrupt started (← perform socket t now (.receiveFailed cause))

def summary (s : Server) : List String :=
  ["Sessions created: " ++ toString s.counters.sessionsCreated ++ ", expired: " ++
      toString s.counters.sessionsExpired ++ ", dropped packets: " ++
      toString s.counters.packetsDropped ++ ", connect requests: " ++
      toString s.counters.connectRequestsSent,
    "Packets in: " ++ toString s.traffic.packetsReceived ++ ", out: " ++
      toString s.traffic.packetsSent ++ ", send errors: " ++ toString s.traffic.sendErrors]

def readFile (path : String) : IO (Except FileFault Wire.Bytes) := do
  try
    return .ok (← IO.FS.readBinFile path).toList
  catch
    | .noFileOrDirectory _ _ _ => return .error .missing
    | e => return .error (.system e.toString)

def readSettings : Option String → IO (Except Failure Settings)
  | none => return .ok {}
  | some path => return Settings.ofFile path (← readFile path)

def fail (text : String) : IO UInt32 := do
  IO.println (levelText .error ++ " " ++ text)
  return 1

def run (line : CommandLine) : IO UInt32 := do
  match ← readSettings line.settingsFile with
  | .error failure => fail failure.message
  | .ok settings =>
    let settings := line.settings settings
    let socket ← Std.Async.UDP.Socket.mk
    let bound ← try
        socket.bind (toNet settings.bindAddress)
        pure (Except.ok (ofNet (← socket.getSockName)))
      catch e => pure (.error (SocketError.system e.toString))
    match Server.bind ⟨fun _ => bound, fun _ => none⟩ settings with
    | .error failure => fail ("Failed to start: " ++ failure.message)
    | .ok outcome =>
      print outcome.logs
      let final ← serve socket (← interruption) (← IO.monoMsNow) (.start outcome.server)
      for text in summary final do
        IO.println (levelText .info ++ " " ++ text)
      return 0

end Rendezvous.Command

def main (arguments : List String) : IO UInt32 := do
  match Rendezvous.CommandLine.parse {} arguments with
  | .error fault => Rendezvous.Command.fail fault.message
  | .ok line => Rendezvous.Command.run line
