import Rendezvous.Packet.Header

/-!
The kinds of field that packets are made of, their values, how a value is written and how a kind
is read. A packet is written by writing its fields one after the other.
-/
namespace Rendezvous

open Wire (Bytes Cursor)

inductive FieldKind
  | byte
  | word16
  | quad
  | nine
  | header
  | text
  deriving DecidableEq, Repr

inductive Field
  | byte (value : UInt8)
  | word16 (value : UInt16)
  | quad (value : Ipv4)
  | nine (value : Vector UInt8 9)
  | header (value : Header)
  | text (value : String)
  deriving DecidableEq, Repr

namespace Field

def kind : Field → FieldKind
  | byte _ => .byte
  | word16 _ => .word16
  | quad _ => .quad
  | nine _ => .nine
  | header _ => .header
  | text _ => .text

def encode : Field → Bytes
  | byte value => [value]
  | word16 value => Wire.encode16 value
  | quad value => value.octets
  | nine value => value.toList
  | header value => value.encode
  | text value => Text.LossyUtf8.encode value ++ [0]

def encodeAll (fields : List Field) : Bytes :=
  fields.flatMap encode

end Field

def FieldKind.read (c : Cursor) : FieldKind → Except Failure (Field × Cursor)
  | byte => c.byte.map fun (value, c) => (.byte value, c)
  | word16 => c.word16.map fun (value, c) => (.word16 value, c)
  | quad => c.quad.map fun (value, c) => (.quad value, c)
  | nine => c.nine.map fun (value, c) => (.nine value, c)
  | header => (Header.read c).map fun (value, c) => (.header value, c)
  | text => c.text.map fun (value, c) => (.text value, c)

end Rendezvous
