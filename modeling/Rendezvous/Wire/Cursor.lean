import Rendezvous.Failure

/-!
A cursor over the bytes of a packet. A read takes what stands at the position and moves the
position past it, or fails and leaves the position where it is. A read of fixed width that finds
too few bytes says where it would have ended.
-/
namespace Rendezvous.Wire

structure Cursor where
  buffer : Bytes
  position : Nat
  deriving DecidableEq, Repr

namespace Cursor

def start (buffer : Bytes) : Cursor :=
  ⟨buffer, 0⟩

/-- What has not been read. -/
def rest (c : Cursor) : Bytes :=
  c.buffer.drop c.position

def remaining (c : Cursor) : Nat :=
  c.buffer.length - c.position

def advance (c : Cursor) (n : Nat) : Cursor :=
  { c with position := c.position + n }

/-- The failure of a read of `n` bytes. -/
def short (c : Cursor) (n : Nat) : Failure :=
  .packetTooShort (c.position + n) c.buffer.length

def take (c : Cursor) (n : Nat) : Except Failure (Bytes × Cursor) :=
  if c.buffer.length < c.position + n then .error (c.short n)
  else .ok (c.rest.take n, c.advance n)

/-- Positions are machine words. Where the end of a skip is none, there is no result: the reader
halts. -/
def skip (c : Cursor) (n : UInt64) : Option (Except Failure Cursor) :=
  if c.position + n.toNat < UInt64.size then some ((c.take n.toNat).map (·.2)) else none

def byte (c : Cursor) : Except Failure (UInt8 × Cursor) :=
  match c.rest with
  | b :: _ => .ok (b, c.advance 1)
  | _ => .error (c.short 1)

def word16 (c : Cursor) : Except Failure (UInt16 × Cursor) :=
  match c.rest with
  | high :: low :: _ => .ok (decode16 high low, c.advance 2)
  | _ => .error (c.short 2)

def quad (c : Cursor) : Except Failure (Ipv4 × Cursor) :=
  match c.rest with
  | w :: x :: y :: z :: _ => .ok (⟨w, x, y, z⟩, c.advance 4)
  | _ => .error (c.short 4)

def nine (c : Cursor) : Except Failure (Vector UInt8 9 × Cursor) :=
  match c.rest with
  | b0 :: b1 :: b2 :: b3 :: b4 :: b5 :: b6 :: b7 :: b8 :: _ =>
    .ok (#v[b0, b1, b2, b3, b4, b5, b6, b7, b8], c.advance 9)
  | _ => .error (c.short 9)

/-- A text field, with its terminator. -/
def text (c : Cursor) : Except Failure (String × Cursor) :=
  match Text.readNulTerminated c.rest with
  | .ok (value, width) => .ok (value, c.advance width)
  | .error cause => .error (.badString cause)

@[simp] theorem rest_start (buffer : Bytes) : (start buffer).rest = buffer := by
  simp [start, rest]

@[simp] theorem length_rest (c : Cursor) : c.rest.length = c.remaining := by
  simp [rest, remaining]

theorem rest_advance (c : Cursor) (n : Nat) : (c.advance n).rest = c.rest.drop n := by
  simp [advance, rest, List.drop_drop]

end Cursor

end Rendezvous.Wire
