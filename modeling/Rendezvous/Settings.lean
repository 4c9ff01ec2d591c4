import Rendezvous.Address.Parser
import Rendezvous.Failure
import Rendezvous.Settings.Document

/-!
The settings of a server. Every setting has a default, so an empty document gives settings that
work. Values that the server cannot run with are refused, the first of them by name.
-/
namespace Rendezvous

structure Settings where
  bindAddress : SocketAddress := .v4 ⟨⟨0, 0, 0, 0⟩, 27901⟩
  /-- How long a session lives from its creation, in milliseconds. -/
  lifetime : Nat := 30000
  /-- How long a retry waits for the next one, in milliseconds. -/
  retryInterval : Nat := 500
  /-- Longer datagrams are cut to this many bytes. -/
  datagramLimit : Nat := 1024
  deriving DecidableEq, Repr

namespace Settings

def validate (s : Settings) : Except Failure Unit :=
  if s.lifetime = 0 then .error (.settings .lifetimeNotPositive)
  else if s.retryInterval = 0 then .error (.settings .retryNotPositive)
  else if s.datagramLimit < 12 then .error (.settings .datagramTooSmall)
  else .ok ()

/-- What a server needs of its settings. -/
def Valid (s : Settings) : Prop :=
  0 < s.lifetime ∧ 0 < s.retryInterval ∧ 12 ≤ s.datagramLimit

instance (s : Settings) : Decidable s.Valid :=
  inferInstanceAs (Decidable (_ ∧ _))

theorem validate_eq_ok_iff {s : Settings} : s.validate = .ok () ↔ s.Valid := by
  unfold validate Valid
  split
  · simp; omega
  · split
    · simp; omega
    · split
      · simp; omega
      · simp; omega

/-- One entry of a document; numbers are not negative. -/
def assign? (s : Settings) (entry : Entry) : Option Settings :=
  match entry.key, entry.value with
  | "bind_address", .string text =>
    (SocketAddress.parse? text).map fun address => { s with bindAddress := address }
  | "session_ttl_ms", .integer (.ofNat n) => some { s with lifetime := n }
  | "retry_interval_ms", .integer (.ofNat n) => some { s with retryInterval := n }
  | "max_datagram_size", .integer (.ofNat n) => some { s with datagramLimit := n }
  | _, _ => none

/-- The settings of a document that names each setting at most once. -/
def ofEntries? (entries : List Entry) : Option Settings :=
  if (entries.map (·.key)).Nodup then entries.foldlM assign? {} else none

def ofDocument (text : String) : Except Failure Settings := do
  let some entries := Document.entries? text.toList | throw .document
  let some settings := ofEntries? entries | throw .document
  settings.validate
  return settings

/-- The settings of a file with these contents, unless there was a fault in reading it. -/
def ofFile (path : String) (contents : Except FileFault Wire.Bytes) : Except Failure Settings := do
  match contents with
  | .error fault => throw (.file path fault)
  | .ok bytes =>
    match Text.LossyUtf8.strict? bytes with
    | none => throw (.file path .notText)
    | some text => ofDocument text

end Settings

end Rendezvous
