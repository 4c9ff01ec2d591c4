import Rendezvous.Packet.Field
import Rendezvous.Packet.Trait

/-!
Init packets. A client sends probes from several of its sockets; each names the socket, the
client and its game, and is acknowledged with its first two bytes and a fixed trailer. Decoding
reports the first fault in a fixed order: length, name, port type, flag, and the two of them
together.
-/
namespace Rendezvous

open Wire (Bytes Cursor)

structure InitRequest where
  port : PortType
  index : UInt8
  /-- Whether the game's own socket carries the connection to come. -/
  useGamePort : Bool
  localEndpoint : Endpoint
  gameName : String
  /-- Bytes after the terminator of the name. -/
  stray : Nat
  deriving DecidableEq, Repr

namespace InitRequest

/-- Nine bytes and the terminator of an empty name. -/
def minimum : Nat := 10

def flag? (value : UInt8) : Option Bool :=
  match value with
  | 0 => some false
  | 1 => some true
  | _ => none

def decode (payload : Bytes) : Except Failure InitRequest := do
  if payload.length < minimum then throw (.packetTooShort minimum payload.length)
  let c := Cursor.start payload
  let (portCode, c) ← c.byte
  let (index, c) ← c.byte
  let (flag, c) ← c.byte
  let (ip, c) ← c.quad
  let (localPort, c) ← c.word16
  let (gameName, c) ← c.text
  let some port := PortType.ofCode? portCode | throw (.invalidPortType portCode)
  let some useGamePort := flag? flag | throw (.invalidUseGamePort flag)
  if !useGamePort && port = .gamePort then throw .gamePortDisabled
  return ⟨port, index, useGamePort, ⟨ip, localPort⟩, gameName, c.remaining⟩

def fields (r : InitRequest) : List Field :=
  [.byte r.port.code, .byte r.index, .byte (if r.useGamePort then 1 else 0),
    .quad r.localEndpoint.ip, .word16 r.localEndpoint.port, .text r.gameName]

def encode (r : InitRequest) (version : UInt8) (cookie : UInt32) : Bytes :=
  Field.encodeAll (.header (.forCommand version .initRequest cookie) :: r.fields)

end InitRequest

structure InitReply where
  port : PortType
  index : UInt8
  deriving DecidableEq, Repr

namespace InitReply

def trailer : Bytes :=
  [0xFF, 0xFF, 0x6D, 0x16, 0xB5, 0x7D, 0xEA]

def forRequest (r : InitRequest) : InitReply :=
  ⟨r.port, r.index⟩

def encode (r : InitReply) (version : UInt8) (cookie : UInt32) : Bytes :=
  (Header.forCommand version .initReply cookie).encode ++ [r.port.code, r.index] ++ trailer

@[simp] theorem length_encode (r : InitReply) (version : UInt8) (cookie : UInt32) :
    (r.encode version cookie).length = 21 := by
  simp [encode, trailer, Header.width]

end InitReply

end Rendezvous
