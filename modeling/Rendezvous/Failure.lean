import Rendezvous.Address.Printer
import Rendezvous.Network
import Rendezvous.Text.NulTerminated
import Rendezvous.Text.Quoted

/-!
Everything that can go wrong, each with its cause, the text that reports it and the family it
belongs to. A failure concerns one packet, or the start of the server; none ends a session.
-/
namespace Rendezvous

/-- Values that the server cannot run with, in the order they are looked for. -/
inductive SettingsFault
  | lifetimeNotPositive
  | retryNotPositive
  | datagramTooSmall
  deriving DecidableEq, Repr

/-- Why a settings file cannot be read. -/
inductive FileFault
  | missing
  | notText
  /-- Any other error, in the words of the system. -/
  | system (text : String)
  deriving DecidableEq, Repr

inductive Failure
  /-- A layout needs more bytes than there are. -/
  | packetTooShort (needed actual : Nat)
  | badMagic
  | badString (cause : Text.FieldError)
  /-- A session keeps the version of the packet that opened it. -/
  | versionMismatch (session packet : UInt8)
  | invalidPortType (value : UInt8)
  | invalidUseGamePort (value : UInt8)
  /-- A probe from the game port says that the game port is not used. -/
  | gamePortDisabled
  /-- A new client names another game than the session's. -/
  | gameNameMismatch (established received : String)
  | unsupportedAddress (address : SocketAddress)
  | socket (cause : SocketError)
  /-- A settings document that is not one, or holds something else. -/
  | document
  | settings (fault : SettingsFault)
  | file (path : String) (fault : FileFault)
  deriving DecidableEq, Repr

/-- How a failure is treated when a packet is dropped for it. -/
inductive FailureKind
  | malformed
  | protocolViolation
  | identityConflict
  | internal
  deriving DecidableEq, Repr

def SettingsFault.message : SettingsFault → String
  | .lifetimeNotPositive => "session_ttl_ms must be positive"
  | .retryNotPositive => "retry_interval_ms must be positive"
  | .datagramTooSmall => "max_datagram_size must hold at least a 12 byte header"

def FileFault.message : FileFault → String
  | .missing => "No such file or directory (os error 2)"
  | .notText => "stream did not contain valid UTF-8"
  | .system text => text

namespace Failure

def kind : Failure → FailureKind
  | packetTooShort _ _ | badMagic | badString _ => .malformed
  | versionMismatch _ _ | invalidPortType _ | invalidUseGamePort _ | gamePortDisabled =>
    .protocolViolation
  | gameNameMismatch _ _ => .identityConflict
  | unsupportedAddress _ | socket _ | document | settings _ | file _ _ => .internal

def message : Failure → String
  | packetTooShort needed actual =>
    "packet too short: need " ++ toString needed ++ " bytes, got " ++ toString actual
  | badMagic => "invalid packet magic"
  | badString cause => "invalid string field: " ++ cause.message
  | versionMismatch session packet =>
    "version mismatch: session uses " ++ toString session.toNat ++ ", packet has " ++
      toString packet.toNat
  | invalidPortType value => "invalid port type 0x" ++ Text.hexPadded 2 value.toNat
  | invalidUseGamePort value => "invalid use-game-port value 0x" ++ Text.hexPadded 2 value.toNat
  | gamePortDisabled => "request uses the game port but use-game-port is disabled"
  | gameNameMismatch established received =>
    "game name mismatch: session is " ++ Text.quoted established ++ ", client sent " ++
      Text.quoted received
  | unsupportedAddress address => "address " ++ address.text ++ " cannot be encoded as IPv4"
  | socket cause => "I/O error: " ++ cause.message
  | document => "invalid configuration: not a settings document"
  | settings fault => "invalid configuration: " ++ fault.message
  | file path fault => "invalid configuration: " ++ path ++ ": " ++ fault.message

end Failure

end Rendezvous
