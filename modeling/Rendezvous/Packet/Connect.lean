import Rendezvous.Packet.Field

/-!
Connect packets. A Connect-Request gives a client the address of its peer; a Connect-Reply
acknowledges it.
-/
namespace Rendezvous

open Wire (Bytes Cursor)

structure ConnectRequest where
  peer : Endpoint
  deriving DecidableEq, Repr

namespace ConnectRequest

/-- "Got your data", then "not finished". -/
def trailer : Bytes :=
  [0x42, 0x00]

/-- Points the receiver at a peer, whose address a packet must have room for. -/
def forPeer (peer : SocketAddress) : Except Failure ConnectRequest :=
  match peer.endpoint? with
  | some endpoint => .ok ⟨endpoint⟩
  | none => .error (.unsupportedAddress peer)

def encode (r : ConnectRequest) (version : UInt8) (cookie : UInt32) : Bytes :=
  (Header.forCommand version .connectRequest cookie).encode ++ r.peer.ip.octets ++
    Wire.encode16 r.peer.port ++ trailer

/-- The trailer has to be there and may hold anything. -/
def decode (payload : Bytes) : Except Failure ConnectRequest := do
  let (ip, c) ← (Cursor.start payload).quad
  let (port, c) ← c.word16
  let _ ← c.take trailer.length
  return ⟨⟨ip, port⟩⟩

theorem encode_eq (r : ConnectRequest) (version : UInt8) (cookie : UInt32) :
    r.encode version cookie = (Header.forCommand version .connectRequest cookie).encode ++
      (r.peer.ip.octets ++ Wire.encode16 r.peer.port ++ trailer) := by
  simp [encode]

/-- Reading undoes writing, whatever follows. -/
theorem decode_fields_append (r : ConnectRequest) (after : Bytes) :
    decode (r.peer.ip.octets ++ Wire.encode16 r.peer.port ++ trailer ++ after) = .ok r := by
  have hread : decode (r.peer.ip.octets ++ Wire.encode16 r.peer.port ++ trailer ++ after) =
      .ok ⟨⟨r.peer.ip, Wire.decode16 (UInt8.ofNat (r.peer.port.toNat / 256))
        (UInt8.ofNat r.peer.port.toNat)⟩⟩ := rfl
  rw [hread, Wire.decode16_encode16]

@[simp] theorem length_encode (r : ConnectRequest) (version : UInt8) (cookie : UInt32) :
    (r.encode version cookie).length = 20 := by
  simp [encode, trailer, Header.width]

end ConnectRequest

structure ConnectReply where
  /-- As it stands in the packet; no use is made of it. -/
  portCode : UInt8
  index : UInt8
  deriving DecidableEq, Repr

def ConnectReply.decode (payload : Bytes) : Except Failure ConnectReply := do
  let (portCode, c) ← (Cursor.start payload).byte
  let (index, _) ← c.byte
  return ⟨portCode, index⟩

end Rendezvous
