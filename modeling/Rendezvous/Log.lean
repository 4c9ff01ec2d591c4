import Rendezvous.Packet.Report

/-!
What the coordinator tells its operator: one event for each thing worth knowing, with its level
and its text. Events that concern a session begin with its cookie, and with the source of the
packet where there is one.
-/
namespace Rendezvous

inductive LogLevel
  | debug
  | info
  | warn
  | error
  deriving DecidableEq, Repr

inductive LogEvent
  | listening (address : SocketAddress)
  | shuttingDown (sessions : Nat)
  /-- A packet that is not processed any further. -/
  | dropped (source : SocketAddress) (failure : Failure)
  | unknownCommand (cookie : UInt32) (source : SocketAddress) (code : UInt8)
  /-- A command that changes nothing. -/
  | noted (cookie : UInt32) (source : SocketAddress) (command : Command)
  | serverCommand (cookie : UInt32) (source : SocketAddress) (command : Command)
  | strayBytes (cookie : UInt32) (source : SocketAddress) (count : Nat)
  | clientCreated (cookie : UInt32) (source : SocketAddress) (index : UInt8)
  | reported (cookie : UInt32) (source : SocketAddress) (report : ReportRequest)
  | paired (cookie : UInt32) (first second : UInt8)
  /-- A client whose address no packet can carry. -/
  | notCarried (cookie : UInt32) (index : UInt8) (failure : Failure)
  | settled (cookie : UInt32) (first second : UInt8)
  | disconnecting (cookie : UInt32) (destination : SocketAddress) (index : UInt8)
  | sessionCreated (cookie : UInt32) (version : UInt8)
  | sessionDeleted (cookie : UInt32)
  | replyFailed (cookie : UInt32) (destination : SocketAddress) (cause : SocketError)
  | connectRequestFailed (cookie : UInt32) (destination : SocketAddress) (cause : SocketError)
  | cancellationFailed (cookie : UInt32) (destination : SocketAddress) (cause : SocketError)
  | receiveFailed (cause : SocketError)
  deriving DecidableEq, Repr

namespace LogEvent

def level : LogEvent → LogLevel
  | noted _ _ _ | settled _ _ _ | receiveFailed _ => .debug
  | listening _ | shuttingDown _ | clientCreated _ _ _ | reported _ _ _ | paired _ _ _
  | disconnecting _ _ _ | sessionCreated _ _ | sessionDeleted _ => .info
  | unknownCommand _ _ _ | serverCommand _ _ _ | strayBytes _ _ _ | notCarried _ _ _
  | replyFailed _ _ _ | connectRequestFailed _ _ _ | cancellationFailed _ _ _ => .warn
  | dropped _ failure =>
    match failure.kind with
    | .malformed => .debug
    | .protocolViolation | .identityConflict => .warn
    | .internal => .error

def cookieTag (cookie : UInt32) : String :=
  "[" ++ Text.hexPadded 8 cookie.toNat ++ "] "

def packetTag (cookie : UInt32) (source : SocketAddress) : String :=
  "[" ++ Text.hexPadded 8 cookie.toNat ++ "/" ++ source.text ++ "] "

/-- A name for a code that has one, and the code itself otherwise. -/
def codeText (name? : Option String) (code : UInt8) : String :=
  match name? with
  | some name => "Ok(" ++ name ++ ")"
  | none => "Err(" ++ toString code.toNat ++ ")"

def reportText (r : ReportRequest) : String :=
  "Report from " ++ toString r.index.toNat ++ " result: " ++ toString r.result.toNat ++
    " nat: " ++ codeText ((NatType.ofCode? r.natCode).map (·.text)) r.natCode ++
    " mapping: " ++ codeText ((MappingScheme.ofCode? r.mappingCode).map (·.text)) r.mappingCode ++
    " game: " ++ Text.quoted (r.gameName.getD "")

def text : LogEvent → String
  | listening address => "Listening on " ++ address.text
  | shuttingDown sessions => "Shutting down with " ++ toString sessions ++ " live sessions"
  | dropped source failure =>
    "[" ++ source.text ++ "] " ++
      (if failure.kind = .internal then "" else "Dropped packet: ") ++ failure.message
  | unknownCommand cookie source code =>
    packetTag cookie source ++ "Received unknown command type: 0x" ++ Text.hexPadded 2 code.toNat
  | noted cookie source command => packetTag cookie source ++ "Command: " ++ command.name
  | serverCommand cookie source command =>
    packetTag cookie source ++ "Received server command: " ++ command.name
  | strayBytes cookie source count =>
    packetTag cookie source ++ "Stray " ++ toString count ++ " bytes after packet"
  | clientCreated cookie source index =>
    packetTag cookie source ++ "Creating client index " ++ toString index.toNat
  | reported cookie source report => packetTag cookie source ++ reportText report
  | paired cookie first second =>
    cookieTag cookie ++ "Exchange connect requests between " ++ toString first.toNat ++ " and " ++
      toString second.toNat
  | notCarried cookie index failure =>
    cookieTag cookie ++ "Client " ++ toString index.toNat ++ ": " ++ failure.message
  | settled cookie first second =>
    cookieTag cookie ++ "Edge " ++ toString first.toNat ++ "-" ++ toString second.toNat ++
      " settled"
  | disconnecting cookie destination index =>
    packetTag cookie destination ++ "Disconnecting client " ++ toString index.toNat
  | sessionCreated cookie version =>
    cookieTag cookie ++ "Created session (version " ++ toString version.toNat ++ ")"
  | sessionDeleted cookie => cookieTag cookie ++ "Deleted session"
  | replyFailed cookie destination cause =>
    cookieTag cookie ++ "Send to " ++ destination.text ++ " failed: " ++ cause.message
  | connectRequestFailed cookie destination cause =>
    cookieTag cookie ++ "Connect request to " ++ destination.text ++ " failed: " ++ cause.message
  | cancellationFailed cookie destination cause =>
    cookieTag cookie ++ "Cancellation to " ++ destination.text ++ " failed: " ++ cause.message
  | receiveFailed cause => "Receive failed: " ++ cause.message

end LogEvent

end Rendezvous
