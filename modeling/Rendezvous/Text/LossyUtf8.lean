import Rendezvous.Wire.BigEndian

/-!
Text out of bytes that may be anything. A well-formed UTF-8 sequence gives its character; every
longest part that begins such a sequence and breaks off, and every byte that begins none, gives
one replacement character. No byte is skipped and none is read twice.
-/
namespace Rendezvous.Text.LossyUtf8

open Wire (Bytes)

/-- Stands for each part that is not UTF-8. -/
def replacement : Char := '\uFFFD'

def isTail (b : UInt8) : Bool :=
  0x80 ≤ b && b ≤ 0xBF

/-- A lead byte whose sequence ends with the tail byte after it. -/
def opensTwo (a : UInt8) : Bool :=
  0xC2 ≤ a && a ≤ 0xDF

/-- The first two of three bytes: no overlong form, no surrogate. -/
def opensThree (a b : UInt8) : Bool :=
  (a == 0xE0 && 0xA0 ≤ b && b ≤ 0xBF) || (0xE1 ≤ a && a ≤ 0xEC && isTail b) ||
    (a == 0xED && 0x80 ≤ b && b ≤ 0x9F) || (0xEE ≤ a && a ≤ 0xEF && isTail b)

/-- The first two of four bytes: no overlong form, nothing above the last code point. -/
def opensFour (a b : UInt8) : Bool :=
  (a == 0xF0 && 0x90 ≤ b && b ≤ 0xBF) || (0xF1 ≤ a && a ≤ 0xF3 && isTail b) ||
    (a == 0xF4 && 0x80 ≤ b && b ≤ 0x8F)

def char2 (a b : UInt8) : Char :=
  Char.ofNat (a.toNat % 32 * 64 + b.toNat % 64)

def char3 (a b c : UInt8) : Char :=
  Char.ofNat (a.toNat % 16 * 4096 + b.toNat % 64 * 64 + c.toNat % 64)

def char4 (a b c d : UInt8) : Char :=
  Char.ofNat (a.toNat % 8 * 262144 + b.toNat % 64 * 4096 + c.toNat % 64 * 64 + d.toNat % 64)

def decode : Bytes → List Char
  | [] => []
  | a :: afterA =>
    if a < 0x80 then Char.ofNat a.toNat :: decode afterA
    else match afterA with
      | [] => [replacement]
      | b :: afterB =>
        if opensTwo a && isTail b then char2 a b :: decode afterB
        else if opensThree a b then
          match afterB with
          | [] => [replacement]
          | c :: afterC =>
            if isTail c then char3 a b c :: decode afterC
            else replacement :: decode (c :: afterC)
        else if opensFour a b then
          match afterB with
          | [] => [replacement]
          | c :: afterC =>
            if isTail c then
              match afterC with
              | [] => [replacement]
              | d :: afterD =>
                if isTail d then char4 a b c d :: decode afterD
                else replacement :: decode (d :: afterD)
            else replacement :: decode (c :: afterC)
        else replacement :: decode (b :: afterB)

/-- The text of the bytes, never refused. -/
def text (bytes : Bytes) : String :=
  String.ofList (decode bytes)

/-- The UTF-8 form of a text. -/
def encode (s : String) : Bytes :=
  s.toList.flatMap String.utf8EncodeChar

/-- The text of bytes that are UTF-8 throughout. -/
def strict? (bytes : Bytes) : Option String :=
  if encode (text bytes) = bytes then some (text bytes) else none

end Rendezvous.Text.LossyUtf8
