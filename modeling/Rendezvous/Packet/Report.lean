import Rendezvous.Packet.Field
import Rendezvous.Packet.Trait

/-!
Report packets. A client reports how an attempt ended; the reply repeats the beginning of the
report with the result set to zero. The same reply, not asked for, makes a client give up.
-/
namespace Rendezvous

open Wire (Bytes Cursor)

structure ReportRequest where
  /-- The beginning of the payload, which the reply repeats. -/
  echo : Vector UInt8 9
  /-- The name of the game, when it is there and ends. -/
  gameName : Option String
  deriving DecidableEq, Repr

namespace ReportRequest

def index (r : ReportRequest) : UInt8 := r.echo[1]

def result (r : ReportRequest) : UInt8 := r.echo[2]

def natCode (r : ReportRequest) : UInt8 := r.echo[3]

def mappingCode (r : ReportRequest) : UInt8 := r.echo[7]

def nameOffset : Nat := 11

def decode (payload : Bytes) : Except Failure ReportRequest := do
  let (echo, _) ← (Cursor.start payload).nine
  let name := Text.readNulTerminated (payload.drop nameOffset)
  return ⟨echo, name.toOption.map (·.1)⟩

end ReportRequest

namespace ReportReply

def forRequest (version : UInt8) (cookie : UInt32) (r : ReportRequest) : Bytes :=
  (Header.forCommand version .reportReply cookie).encode ++ (r.echo.set 2 0).toList

/-- Makes the client give up its attempt. -/
def cancellation (version : UInt8) (cookie : UInt32) (index : UInt8) : Bytes :=
  (Header.forCommand version .reportReply cookie).encode ++ [0, index, 0, 0, 0, 0, 6, 0, 0]

@[simp] theorem length_forRequest (version : UInt8) (cookie : UInt32) (r : ReportRequest) :
    (forRequest version cookie r).length = 21 := by
  simp [forRequest, Header.width]

@[simp] theorem length_cancellation (version : UInt8) (cookie : UInt32) (index : UInt8) :
    (cancellation version cookie index).length = 21 := by
  simp [cancellation, Header.width]

end ReportReply

end Rendezvous
