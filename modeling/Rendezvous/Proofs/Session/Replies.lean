import Rendezvous.Proofs.Packet.Init
import Rendezvous.Proofs.Packet.Report
import Rendezvous.Proofs.Session.Run

/-!
Replies. Two kinds of packets are answered: probes, whether or not their client is then taken in,
and reports, whether or not their client is known. The answer depends on the packet alone and on the
version and the cookie of the session. It goes back to where the packet came from, repeats the first
two bytes of its payload and is never longer than the packet.
-/
namespace Rendezvous

open Wire (Bytes)

/-- The command that answers a command. -/
def Command.answer? : Command → Option Command
  | initRequest => some initReply
  | reportRequest => some reportReply
  | _ => none

namespace Packet

/-- The reply to a packet, from a session with this version and cookie. -/
def reply? (p : Packet) (version : UInt8) (cookie : UInt32) : Option Datagram :=
  match p.request with
  | .ok (.probe r) => some ⟨p.source, (InitReply.forRequest r).encode version cookie⟩
  | .ok (.report r) => some ⟨p.source, ReportReply.forRequest version cookie r⟩
  | .ok (.reply _) | .ok .nothing | .error _ => none

/-- A packet that has to be answered: a probe that can be read, or a report with all that its
answer repeats. -/
def IsAnswered (p : Packet) : Prop :=
  p.header.command? = some .initRequest ∧ (∃ r, InitRequest.decode p.payload = .ok r) ∨
    p.header.command? = some .reportRequest ∧ ReportRequest.minimum ≤ p.payload.length

/-- How a datagram acknowledges a packet of a version and a cookie. -/
structure AcknowledgedBy (p : Packet) (version : UInt8) (cookie : UInt32) (d : Datagram) :
    Prop where
  destination : d.destination = p.source
  length_le : d.contents.length ≤ Header.width + p.payload.length
  answer : ∃ command answer payload, p.header.command? = some command ∧
    command.answer? = some answer ∧
    Header.decode d.contents = .ok (.forCommand version answer cookie, payload) ∧
    2 ≤ p.payload.length ∧ payload.take 2 = p.payload.take 2

variable {p : Packet} {version : UInt8} {cookie : UInt32}

theorem isSome_reply?_iff : (p.reply? version cookie).isSome ↔ p.IsAnswered := by
  rw [IsAnswered, ← ReportRequest.exists_decode_eq_ok_iff]
  constructor
  · intro h
    unfold reply? at h
    split at h
    · next r hrequest =>
      obtain ⟨hcommand, hdecode⟩ := request_eq_probe_iff.1 hrequest
      exact .inl ⟨hcommand, r, hdecode⟩
    · next r hrequest =>
      obtain ⟨hcommand, hdecode⟩ := request_eq_report_iff.1 hrequest
      exact .inr ⟨hcommand, r, hdecode⟩
    · cases h
    · cases h
    · cases h
  · rintro (⟨hcommand, r, hdecode⟩ | ⟨hcommand, r, hdecode⟩)
    · simp [reply?, request_eq_probe_iff.2 ⟨hcommand, hdecode⟩]
    · simp [reply?, request_eq_report_iff.2 ⟨hcommand, hdecode⟩]

theorem acknowledgedBy_of_probe {r : InitRequest} (h : p.request = .ok (.probe r)) :
    p.AcknowledgedBy version cookie
      ⟨p.source, (InitReply.forRequest r).encode version cookie⟩ := by
  obtain ⟨hcommand, hdecode⟩ := request_eq_probe_iff.1 h
  obtain ⟨name, after, hspells⟩ := InitRequest.decode_eq_ok_iff.1 hdecode
  have hlength : InitRequest.minimum ≤ p.payload.length := by
    rw [hspells.layout, List.length_append, List.length_append, List.length_cons,
      InitRequest.length_fixedPart, InitRequest.minimum]
    omega
  have hcontents : (InitReply.forRequest r).encode version cookie =
      (Header.forCommand version .initReply cookie).encode ++
        ([r.port.code, r.index] ++ InitReply.trailer) :=
    List.append_assoc _ _ _
  refine ⟨rfl, ?_, .initRequest, .initReply, [r.port.code, r.index] ++ InitReply.trailer, hcommand,
    rfl, ?_, ?_, ?_⟩
  · simp only [InitReply.length_encode, Header.width, InitRequest.minimum] at hlength ⊢
    omega
  · dsimp only
    rw [hcontents]
    exact Header.decode_encode_append rfl _
  · exact Nat.le_trans (by decide) hlength
  · rw [hspells.layout]
    rfl

theorem acknowledgedBy_of_report {r : ReportRequest} (h : p.request = .ok (.report r)) :
    p.AcknowledgedBy version cookie ⟨p.source, ReportReply.forRequest version cookie r⟩ := by
  obtain ⟨hcommand, hdecode⟩ := request_eq_report_iff.1 h
  obtain ⟨rest, hpayload⟩ := ReportRequest.eq_append_of_decode hdecode
  have hlength : ReportRequest.minimum ≤ p.payload.length :=
    ReportRequest.exists_decode_eq_ok_iff.1 ⟨r, hdecode⟩
  refine ⟨rfl, ?_, .reportRequest, .reportReply, (r.echo.set 2 0).toList, hcommand, rfl,
    Header.decode_encode_append rfl _, Nat.le_trans (by decide) hlength, ?_⟩
  · simp only [ReportReply.length_forRequest, Header.width, ReportRequest.minimum] at hlength ⊢
    omega
  · rw [hpayload, Vector.toList_set, List.take_set_of_le (Nat.le_refl 2),
      List.take_append_of_le_length (by simp)]

/-- Whatever answers a packet acknowledges it. -/
theorem acknowledgedBy_of_reply? {d : Datagram} (h : p.reply? version cookie = some d) :
    p.AcknowledgedBy version cookie d := by
  unfold reply? at h
  split at h
  · next hrequest =>
    obtain rfl := Option.some.inj h
    exact acknowledgedBy_of_probe hrequest
  · next hrequest =>
    obtain rfl := Option.some.inj h
    exact acknowledgedBy_of_report hrequest
  · cases h
  · cases h
  · cases h

end Packet

namespace Session

theorem replies_handleInit (s : Session) (r : InitRequest) (source : SocketAddress) :
    (s.handleInit r source).replies =
      [⟨source, (InitReply.forRequest r).encode s.version s.cookie⟩] := by
  unfold handleInit
  cases s.checkGame r with
  | error failure => rfl
  | ok _ => rfl

/-- A session answers the packets of its version, and answers each at most once. -/
theorem replies_accept (s : Session) (p : Packet) :
    (s.accept p.header p.payload p.source).replies =
      (if s.version = p.header.version then p.reply? s.version s.cookie else none).toList := by
  split
  · next hversion =>
    rw [accept_of_version hversion, handle_eq, Packet.reply?]
    rcases p.request with failure | (r | r | r | _)
    · rfl
    · exact s.replies_handleInit r p.source
    · rfl
    · rfl
    · rfl
  · next hversion =>
    rw [accept_of_other_version hversion]
    rfl

end Session

end Rendezvous
