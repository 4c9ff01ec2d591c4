import Rendezvous.Packet.Command
import Rendezvous.Wire.Cursor

/-!
The twelve bytes that every packet begins with: six fixed bytes, the protocol version, the
command code and the cookie of the session.
-/
namespace Rendezvous

open Wire (Bytes Cursor)

structure Header where
  magic : Vector UInt8 6
  version : UInt8
  /-- The code as it stands in the packet, whether a command has it or not. -/
  code : UInt8
  cookie : UInt32
  deriving DecidableEq, Repr

namespace Header

/-- The bytes that mark a packet of the protocol. -/
def mark : Vector UInt8 6 :=
  #v[0xFD, 0xFC, 0x1E, 0x66, 0x6A, 0xB2]

def width : Nat := 12

def forCommand (version : UInt8) (command : Command) (cookie : UInt32) : Header :=
  ⟨mark, version, command.code, cookie⟩

def command? (h : Header) : Option Command :=
  Command.ofCode? h.code

def encode (h : Header) : Bytes :=
  h.magic.toList ++ [h.version, h.code] ++ Wire.encode32 h.cookie

@[simp] theorem length_encode (h : Header) : h.encode.length = width := by
  simp [encode, width]

@[simp] theorem command?_forCommand (version : UInt8) (command : Command) (cookie : UInt32) :
    (forCommand version command cookie).command? = some command := by
  simp [forCommand, command?]

/-- Any twelve bytes, also without the mark. -/
def read (c : Cursor) : Except Failure (Header × Cursor) :=
  match c.rest with
  | m0 :: m1 :: m2 :: m3 :: m4 :: m5 :: version :: code :: k0 :: k1 :: k2 :: k3 :: _ =>
    .ok (⟨#v[m0, m1, m2, m3, m4, m5], version, code, Wire.decode32 k0 k1 k2 k3⟩,
      c.advance width)
  | _ => .error (c.short width)

/-- The header of a packet of the protocol, and the payload after it. -/
def decode (datagram : Bytes) : Except Failure (Header × Bytes) := do
  let (header, c) ← read (Cursor.start datagram)
  if header.magic = mark then return (header, c.rest) else throw .badMagic

theorem read_encode_append (h : Header) (payload : Bytes) :
    read (Cursor.start (h.encode ++ payload)) =
      .ok (h, (Cursor.start (h.encode ++ payload)).advance width) := by
  obtain ⟨⟨⟨magic⟩, hsize⟩, version, code, cookie⟩ := h
  match magic, hsize with
  | [m0, m1, m2, m3, m4, m5], _ =>
    simpa [read, encode, Wire.encode32] using Wire.decode32_encode32 cookie

/-- Reading undoes writing. -/
theorem decode_encode_append {h : Header} (hmark : h.magic = mark) (payload : Bytes) :
    decode (h.encode ++ payload) = .ok (h, payload) := by
  have hrest : ((Cursor.start (h.encode ++ payload)).advance width).rest = payload := by
    rw [Cursor.rest_advance, Cursor.rest_start, ← length_encode h, List.drop_left]
  simp [decode, read_encode_append, hmark, hrest, bind, Except.bind, pure, Except.pure]

end Header

end Rendezvous
