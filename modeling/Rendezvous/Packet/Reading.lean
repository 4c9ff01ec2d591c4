import Rendezvous.Packet.Field

/-!
Reading a packet step by step. A step reads a field or skips bytes. A step that fails leaves the
cursor where it is, and the next one is tried from there. A step that halts the reader has no
outcome, and then the whole sequence has none, whatever was read before.
-/
namespace Rendezvous

open Wire (Cursor)

inductive Read
  | field (kind : FieldKind)
  | skip (count : UInt64)
  deriving DecidableEq, Repr

inductive Reading
  | value (field : Field)
  | skipped
  | failed (failure : Failure)
  deriving DecidableEq, Repr

namespace Read

def perform (c : Cursor) : Read → Option (Reading × Cursor)
  | field kind =>
    match kind.read c with
    | .ok (value, after) => some (.value value, after)
    | .error failure => some (.failed failure, c)
  | skip count =>
    match c.skip count with
    | none => none
    | some (.ok after) => some (.skipped, after)
    | some (.error failure) => some (.failed failure, c)

/-- The readings of all steps, each with the cursor after it. -/
def performAll (c : Cursor) : List Read → Option (List (Reading × Cursor))
  | [] => some []
  | read :: rest =>
    match read.perform c with
    | none => none
    | some outcome => (performAll outcome.2 rest).map (outcome :: ·)

end Read

end Rendezvous
