import Rendezvous.Proofs.Packet.Grammar
import Rendezvous.Proofs.Session.Run

/-!
Packets that fail. A packet can be wrong in itself: it is too short, or holds a value that does not
exist. Or it does not fit its session: it has another version, or it is the probe of a new client
that names another game. Whatever the fault, the session stays as it was, and only the last one is
found so late that an answer has already been prepared.
-/
namespace Rendezvous

/-! ### Faults of the bytes -/

/-- The failures that the bytes of a packet can cause, whatever session they are meant for. -/
def Failure.IsOfBytes : Failure → Prop
  | .packetTooShort _ _ | .badMagic | .badString _ | .invalidPortType _ | .invalidUseGamePort _
  | .gamePortDisabled => True
  | .versionMismatch _ _ | .gameNameMismatch _ _ | .unsupportedAddress _ | .socket _ | .document
  | .settings _ | .file _ _ => False

theorem Failure.IsOfBytes.kind_ne_internal {failure : Failure} (h : failure.IsOfBytes) :
    failure.kind ≠ .internal := by
  cases failure <;> first | exact h.elim | simp [Failure.kind]

/-- A reading that fails, if it does, for its bytes. -/
def FailsForBytes {α : Type} (reading : Except Failure α) : Prop :=
  ∀ failure, reading = .error failure → failure.IsOfBytes

namespace FailsForBytes

variable {α β : Type}

theorem ok (a : α) : FailsForBytes (.ok a) := by
  rintro failure ⟨⟩

theorem error {failure : Failure} (h : failure.IsOfBytes) :
    FailsForBytes (.error failure : Except Failure α) := by
  rintro _ ⟨⟩
  exact h

/-- A reading step by step fails where one of its steps fails. -/
theorem bind {reading : Except Failure α} {next : α → Except Failure β}
    (h : FailsForBytes reading) (hnext : ∀ a, FailsForBytes (next a)) :
    FailsForBytes (reading >>= next) := by
  cases reading with
  | error failure => exact .error (h failure rfl)
  | ok a => exact hnext a

theorem map {reading : Except Failure α} (h : FailsForBytes reading) (f : α → β) :
    FailsForBytes (reading.map f) := by
  cases reading with
  | error failure => exact .error (h failure rfl)
  | ok a => exact .ok (f a)

end FailsForBytes

namespace Wire.Cursor

variable (c : Cursor)

theorem failsForBytes_byte : FailsForBytes c.byte := by
  unfold byte
  split
  · exact .ok _
  · exact .error trivial

theorem failsForBytes_nine : FailsForBytes c.nine := by
  unfold nine
  split
  · exact .ok _
  · exact .error trivial

end Wire.Cursor

open Wire (Bytes Cursor)

theorem Header.failsForBytes_decode (datagram : Bytes) : FailsForBytes (decode datagram) := by
  have hread : FailsForBytes (read (Cursor.start datagram)) := by
    unfold read
    split
    · exact .ok _
    · exact .error trivial
  refine hread.bind fun _ => ?_
  dsimp only
  split
  · exact .ok _
  · exact .error trivial

/-- Every verdict on a payload that is no probe is about its bytes. -/
theorem InitRequest.failsForBytes_decode (payload : Bytes) : FailsForBytes (decode payload) := by
  intro failure h
  cases verdict_of_decode h <;> exact trivial

theorem ConnectReply.failsForBytes_decode (payload : Bytes) : FailsForBytes (decode payload) :=
  (Cursor.failsForBytes_byte _).bind fun _ => (Cursor.failsForBytes_byte _).bind fun _ => .ok _

theorem ReportRequest.failsForBytes_decode (payload : Bytes) : FailsForBytes (decode payload) :=
  (Cursor.failsForBytes_nine _).bind fun _ => .ok _

/-- What a packet asks cannot be read for its bytes alone. -/
theorem Packet.failsForBytes_request (p : Packet) : FailsForBytes p.request := by
  unfold Packet.request
  split
  · exact (InitRequest.failsForBytes_decode p.payload).map _
  · exact (ConnectReply.failsForBytes_decode p.payload).map _
  · exact (ReportRequest.failsForBytes_decode p.payload).map _
  · exact .ok _

/-! ### Failing in a session -/

namespace Session

/-- What a session does with a packet that fails: it stays as it is, and it has an answer only when
the packet is a probe that names another game than the session's. -/
inductive Fails (s : Session) (p : Packet) (reaction : Reaction) : Failure → Prop
  | version (hversion : s.version ≠ p.header.version) (hsession : reaction.session = s)
    (hreplies : reaction.replies = []) :
    Fails s p reaction (.versionMismatch s.version p.header.version)
  | bytes {failure : Failure} (hbytes : failure.IsOfBytes) (hsession : reaction.session = s)
    (hreplies : reaction.replies = []) : Fails s p reaction failure
  | game {r : InitRequest} {established : String} (hversion : s.version = p.header.version)
    (hprobe : p.request = .ok (.probe r)) (hgame : s.gameName = some established)
    (hsession : reaction.session = s)
    (hreplies : reaction.replies =
      [⟨p.source, (InitReply.forRequest r).encode s.version s.cookie⟩]) :
    Fails s p reaction (.gameNameMismatch established r.gameName)

theorem checkGame_eq_error {s : Session} {r : InitRequest} {failure : Failure}
    (h : s.checkGame r = .error failure) :
    ∃ established, s.gameName = some established ∧
      failure = .gameNameMismatch established r.gameName := by
  unfold checkGame at h
  split at h
  · next established _ hgame =>
    split at h
    · cases h
    · obtain rfl := Except.error.inj h
      exact ⟨established, hgame, rfl⟩
  · cases h

/-- Of the packets of its version, a session fails those that cannot be read, and the probes of new
clients that name another game. -/
theorem fails_of_handle_eq_error {s : Session} {p : Packet} {failure : Failure}
    (hversion : s.version = p.header.version) (h : (s.handle p).result = .error failure) :
    Fails s p (s.handle p) failure := by
  rw [handle_eq] at h ⊢
  cases hrequest : p.request with
  | error fault =>
      rw [hrequest] at h
      obtain rfl := Except.error.inj h
      exact .bytes (p.failsForBytes_request fault hrequest) rfl rfl
  | ok request =>
      rw [hrequest] at h
      cases request with
      | probe r =>
          dsimp only at h ⊢
          cases hgame : s.checkGame r with
          | error fault =>
              simp only [handleInit, hgame] at h ⊢
              obtain rfl := Except.error.inj h
              obtain ⟨established, hestablished, rfl⟩ := checkGame_eq_error hgame
              exact .game hversion hrequest hestablished rfl rfl
          | ok _ =>
              simp only [handleInit, hgame] at h
              cases h
      | reply r => cases h
      | report r => cases h
      | nothing => cases h

theorem fails_of_accept_eq_error {s : Session} {p : Packet} {failure : Failure}
    (h : (s.accept p.header p.payload p.source).result = .error failure) :
    Fails s p (s.accept p.header p.payload p.source) failure := by
  by_cases hversion : s.version = p.header.version
  · rw [accept_of_version hversion] at h ⊢
    exact fails_of_handle_eq_error hversion h
  · rw [accept_of_other_version hversion] at h ⊢
    obtain rfl := Except.error.inj h
    exact .version hversion rfl rfl

namespace Fails

variable {s : Session} {p : Packet} {reaction : Reaction} {failure : Failure}

theorem session_eq (h : Fails s p reaction failure) : reaction.session = s := by
  cases h <;> assumption

/-- No packet makes a session fail in a way that is the server's own. -/
theorem kind_ne_internal (h : Fails s p reaction failure) : failure.kind ≠ .internal := by
  cases h with
  | version => exact nofun
  | bytes hbytes => exact hbytes.kind_ne_internal
  | game => exact nofun

theorem replies_eq_nil (h : Fails s p reaction failure)
    (hgame : ∀ established received, failure ≠ .gameNameMismatch established received) :
    reaction.replies = [] := by
  cases h with
  | version _ _ hreplies => exact hreplies
  | bytes _ _ hreplies => exact hreplies
  | game => exact absurd rfl (hgame _ _)

/-- A client that names another game has sent a probe of the right version, which is answered. -/
theorem of_gameNameMismatch {established received : String}
    (h : Fails s p reaction (.gameNameMismatch established received)) :
    ∃ r, InitRequest.decode p.payload = .ok r ∧ s.version = p.header.version ∧
      reaction.replies = [⟨p.source, (InitReply.forRequest r).encode s.version s.cookie⟩] := by
  cases h with
  | bytes hbytes => exact hbytes.elim
  | game hversion hprobe _ _ hreplies =>
      exact ⟨_, (Packet.request_eq_probe_iff.1 hprobe).2, hversion, hreplies⟩

/-- A session that has just been opened has the version of the packet and no game yet. -/
theorem isOfBytes_of_fresh
    (h : Fails (.fresh p.header.cookie p.header.version) p reaction failure) :
    failure.IsOfBytes := by
  cases h with
  | version hversion => exact absurd rfl hversion
  | bytes hbytes => exact hbytes
  | game _ _ hgame => cases hgame

end Fails

/-! ### What is logged of a packet -/

theorem level_ne_error_of_pairing (s : Session) (edges : List Edge) :
    ∀ event ∈ s.pairingLogs edges, event.level ≠ .error := by
  simp [pairingLogs, LogEvent.level]

theorem level_ne_error_of_handleInit (s : Session) (r : InitRequest) (source : SocketAddress) :
    ∀ event ∈ (s.handleInit r source).logs, event.level ≠ .error := by
  have hstrays : ∀ event ∈ (if r.stray = 0 then [] else
      [LogEvent.strayBytes s.cookie source r.stray]), event.level ≠ .error := by
    split <;> simp [LogEvent.level]
  have hcreated : ∀ event ∈ (if (s.client? r.index).isSome then [] else
      [LogEvent.clientCreated s.cookie source r.index]), event.level ≠ .error := by
    split <;> simp [LogEvent.level]
  intro event hevent
  cases hgame : s.checkGame r with
  | error failure =>
      simp only [handleInit, hgame] at hevent
      exact hstrays event hevent
  | ok _ =>
      simp only [handleInit, hgame, List.mem_append] at hevent
      rcases hevent with (hevent | hevent) | hevent
      · exact hstrays event hevent
      · exact hcreated event hevent
      · exact level_ne_error_of_pairing s _ event hevent

/-- Nothing that a session logs of a packet is an error of the server. -/
theorem level_ne_error_of_accept (s : Session) (p : Packet) :
    ∀ event ∈ (s.accept p.header p.payload p.source).logs, event.level ≠ .error := by
  by_cases hversion : s.version = p.header.version
  · rw [accept_of_version hversion, handle_eq]
    rcases p.request with failure | (r | r | r | _)
    · simp [refuse]
    · exact level_ne_error_of_handleInit s r p.source
    · simp [ignore]
    · intro event hevent
      rcases List.mem_cons.1 hevent with rfl | hevent
      · simp [LogEvent.level]
      · exact level_ne_error_of_pairing s _ event hevent
    · simp only [ignore, List.forall_mem_singleton, Packet.notice]
      split
      · simp [LogEvent.level]
      · split <;> simp [LogEvent.level]
  · rw [accept_of_other_version hversion]
    simp [refuse]

end Session

end Rendezvous
