import Rendezvous.Proofs.Packet.Init
import Rendezvous.Proofs.Packet.Report
import Rendezvous.Proofs.Session.Run

/-!
Packets whose end is missing. Every field that a session makes use of is read from the front, so
cutting the end of a payload either leaves too little to read, or takes away what no session makes
use of: stray bytes behind a probe, the name in a report, anything behind an acknowledgement. In the
first case the packet is malformed and nothing happens; in the second the session does the same as
with the whole packet, and only the log may tell the two apart.
-/
namespace Rendezvous

open Wire (Bytes)

/-! ### What can still be read -/

/-- A reading that fails because its bytes are no packet. -/
def Malformed {α : Type} (reading : Except Failure α) : Prop :=
  ∃ failure, reading = .error failure ∧ failure.kind = .malformed

/-- What reading a part of some bytes gives: what reading the whole gives, as far as it is of any
use, or a failure because the part is no packet. -/
def ReadsAlike {α β : Type} (use : α → β) (part whole : Except Failure α) : Prop :=
  Malformed part ∨ part.map use = whole.map use

theorem ReadsAlike.map {α β γ δ : Type} {use : α → β} {part whole : Except Failure α}
    (h : ReadsAlike use part whole) {f : α → γ} {use' : γ → δ} (g : β → δ)
    (hfactor : ∀ a, use' (f a) = g (use a)) : ReadsAlike use' (part.map f) (whole.map f) := by
  have hmap (reading : Except Failure α) : (reading.map f).map use' = (reading.map use).map g := by
    cases reading with
    | error failure => rfl
    | ok a => exact congrArg Except.ok (hfactor a)
  rcases h with ⟨failure, rfl, hkind⟩ | h
  · exact .inl ⟨failure, rfl, hkind⟩
  · exact .inr (by rw [hmap, hmap, h])

/-- A text that is cut has lost its end, or is the text that it was. -/
theorem Text.readNulTerminated_take (bytes : Bytes) (n : Nat) :
    readNulTerminated (bytes.take n) = .error .unterminated ∨
      readNulTerminated (bytes.take n) = readNulTerminated bytes := by
  unfold readNulTerminated
  cases hcut : splitAtNul (bytes.take n) with
  | none => exact .inl rfl
  | some parts =>
      obtain ⟨field, after⟩ := parts
      obtain ⟨hlayout, hunbroken⟩ := splitAtNul_eq_some hcut
      have hwhole : bytes = field ++ 0 :: (after ++ bytes.drop n) := by
        calc bytes = bytes.take n ++ bytes.drop n := (List.take_append_drop n bytes).symm
          _ = field ++ 0 :: (after ++ bytes.drop n) := by rw [hlayout]; simp
      have hsplit : splitAtNul bytes = some (field, after ++ bytes.drop n) :=
        (congrArg splitAtNul hwhole).trans (splitAtNul_append hunbroken _)
      exact .inr (by rw [hsplit])

namespace InitRequest

/-- A probe without its stray bytes. -/
def bare (r : InitRequest) : InitRequest :=
  { r with stray := 0 }

theorem map_bare_ofValues (portCode index flag : UInt8) (localEndpoint : Endpoint)
    (gameName : String) (stray : Nat) :
    (ofValues portCode index flag localEndpoint gameName stray).map bare =
      ofValues portCode index flag localEndpoint gameName 0 := by
  unfold ofValues
  cases PortType.ofCode? portCode with
  | none => rfl
  | some port =>
      cases flag? flag with
      | none => rfl
      | some useGamePort =>
          dsimp only
          split
          · rfl
          · rfl

theorem decode_take (payload : Bytes) (n : Nat) :
    ReadsAlike bare (decode (payload.take n)) (decode payload) := by
  by_cases hlong : minimum ≤ (payload.take n).length
  · have hn : 10 ≤ n := Nat.le_trans hlong (List.length_take_le n payload)
    have hpayload : minimum ≤ payload.length := Nat.le_trans hlong (List.length_take_le' n payload)
    obtain ⟨portCode, index, flag, w, x, y, z, high, low, rest, hrest, rfl⟩ :=
      exists_cons_of_long hpayload
    obtain ⟨k, rfl⟩ : ∃ k, n = k + 10 := ⟨n - 10, by omega⟩
    have hcut : (portCode :: index :: flag :: w :: x :: y :: z :: high :: low :: rest).take
        (k + 10) =
          portCode :: index :: flag :: w :: x :: y :: z :: high :: low :: rest.take (k + 1) := rfl
    have hrest' : rest.take (k + 1) ≠ [] := by simpa using hrest
    rw [hcut, decode_cons _ _ _ _ _ _ _ _ _ hrest', decode_cons _ _ _ _ _ _ _ _ _ hrest]
    rcases Text.readNulTerminated_take rest (k + 1) with hname | hname
    · rw [hname]
      exact .inl ⟨_, rfl, rfl⟩
    · rw [hname]
      cases Text.readNulTerminated rest with
      | error cause => exact .inr rfl
      | ok field =>
          refine .inr ?_
          dsimp only
          rw [map_bare_ofValues, map_bare_ofValues]
  · exact .inl ⟨_, decode_of_short (Nat.lt_of_not_le hlong), rfl⟩

end InitRequest

namespace ReportRequest

/-- A report without its name. -/
def bare (r : ReportRequest) : ReportRequest :=
  { r with gameName := none }

theorem decode_take (payload : Bytes) (n : Nat) :
    ReadsAlike bare (decode (payload.take n)) (decode payload) := by
  by_cases hlong : minimum ≤ (payload.take n).length
  · have hn : 9 ≤ n := Nat.le_trans hlong (List.length_take_le n payload)
    have hpayload : minimum ≤ payload.length := Nat.le_trans hlong (List.length_take_le' n payload)
    obtain ⟨echo, rest, rfl⟩ := exists_append_of_long hpayload
    have hcut : (echo.toList ++ rest).take n = echo.toList ++ rest.take (n - 9) := by
      rw [List.take_append, Vector.length_toList, List.take_of_length_le (by simpa using hn)]
    rw [hcut, decode_append, decode_append]
    exact .inr rfl
  · exact .inl ⟨_, decode_of_short (Nat.lt_of_not_le hlong), rfl⟩

end ReportRequest

theorem ConnectReply.decode_take (payload : Bytes) (n : Nat) :
    ReadsAlike id (decode (payload.take n)) (decode payload) := by
  match payload, n with
  | [], _ => exact .inr (by rw [List.take_nil])
  | _ :: _, 0 => exact .inl ⟨_, rfl, rfl⟩
  | [_], _ + 1 => exact .inr (by rw [List.take_succ_cons, List.take_nil])
  | _ :: _ :: _, 1 => exact .inl ⟨_, rfl, rfl⟩
  | _ :: _ :: _, _ + 2 => exact .inr rfl

/-! ### Requests -/

/-- What a session makes use of in a request. -/
def Request.bare : Request → Request
  | probe r => probe r.bare
  | reply r => reply r
  | report r => report r.bare
  | nothing => nothing

namespace Packet

/-- A packet whose payload is cut. -/
def cut (p : Packet) (n : Nat) : Packet :=
  { p with payload := p.payload.take n }

/-- A packet that is cut is malformed, or asks for the same. -/
theorem request_cut (p : Packet) (n : Nat) :
    ReadsAlike Request.bare (p.cut n).request p.request := by
  cases hcommand : p.header.command? with
  | none => exact .inr (by simp [request, cut, hcommand])
  | some command =>
      cases command
      case initRequest =>
        simp only [request, cut, hcommand]
        exact (InitRequest.decode_take p.payload n).map Request.probe fun _ => rfl
      case connectReply =>
        simp only [request, cut, hcommand]
        exact (ConnectReply.decode_take p.payload n).map Request.reply fun _ => rfl
      case reportRequest =>
        simp only [request, cut, hcommand]
        exact (ReportRequest.decode_take p.payload n).map Request.report fun _ => rfl
      all_goals exact .inr (by simp [request, cut, hcommand])

end Packet

/-! ### What is still done -/

/-- The same reaction, but for what is logged. -/
structure Reaction.Agrees (a b : Reaction) : Prop where
  session : a.session = b.session
  result : a.result = b.result
  replies : a.replies = b.replies

namespace Reaction.Agrees

variable {a b c : Reaction}

theorem refl (a : Reaction) : a.Agrees a :=
  ⟨rfl, rfl, rfl⟩

theorem symm (h : a.Agrees b) : b.Agrees a :=
  ⟨h.session.symm, h.result.symm, h.replies.symm⟩

theorem trans (h : a.Agrees b) (h' : b.Agrees c) : a.Agrees c :=
  ⟨h.session.trans h'.session, h.result.trans h'.result, h.replies.trans h'.replies⟩

end Reaction.Agrees

namespace Session

/-- What a session does for a request; of one that asks for nothing, it has nothing to log here. -/
def serve (s : Session) (source : SocketAddress) : Except Failure Request → Reaction
  | .error failure => s.refuse failure
  | .ok (.probe r) => s.handleInit r source
  | .ok (.reply r) => (s.acknowledge r.index).ignore []
  | .ok (.report r) => s.handleReport r source
  | .ok .nothing => s.ignore []

theorem handle_agrees_serve (s : Session) (p : Packet) :
    (s.handle p).Agrees (s.serve p.source p.request) := by
  rw [handle_eq]
  rcases p.request with failure | (r | r | r | _)
  · exact .refl _
  · exact .refl _
  · exact .refl _
  · exact .refl _
  · exact ⟨rfl, rfl, rfl⟩

theorem handleInit_bare (s : Session) (r : InitRequest) (source : SocketAddress) :
    (s.handleInit r.bare source).Agrees (s.handleInit r source) := by
  have hgame : s.checkGame r.bare = s.checkGame r := rfl
  unfold handleInit
  rw [hgame]
  cases s.checkGame r with
  | error failure => exact ⟨rfl, rfl, rfl⟩
  | ok _ => exact ⟨rfl, rfl, rfl⟩

/-- What no session makes use of changes nothing of what is done. -/
theorem serve_bare (s : Session) (source : SocketAddress) (request : Except Failure Request) :
    (s.serve source (request.map Request.bare)).Agrees (s.serve source request) := by
  rcases request with failure | (r | r | r | _)
  · exact .refl _
  · exact s.handleInit_bare r source
  · exact .refl _
  · exact ⟨rfl, rfl, rfl⟩
  · exact .refl _

/-- Packets that ask for the same have the same done to them. -/
theorem handle_agrees (s : Session) {p q : Packet} (hsource : p.source = q.source)
    (hrequest : p.request.map Request.bare = q.request.map Request.bare) :
    (s.handle p).Agrees (s.handle q) := by
  have hp := (s.handle_agrees_serve p).trans (s.serve_bare p.source p.request).symm
  have hq := (s.serve_bare q.source q.request).trans (s.handle_agrees_serve q).symm
  rw [hsource, hrequest] at hp
  exact hp.trans hq

/-- A packet that is cut is refused as malformed, or has the same done to it as the whole one. -/
theorem accept_cut (s : Session) (p : Packet) (n : Nat) :
    (∃ failure, failure.kind = .malformed ∧
        s.accept p.header (p.payload.take n) p.source = s.refuse failure) ∨
      (s.accept p.header (p.payload.take n) p.source).Agrees
        (s.accept p.header p.payload p.source) := by
  show (∃ failure, failure.kind = .malformed ∧
      s.accept (p.cut n).header (p.cut n).payload (p.cut n).source = s.refuse failure) ∨
    (s.accept (p.cut n).header (p.cut n).payload (p.cut n).source).Agrees
      (s.accept p.header p.payload p.source)
  by_cases hversion : s.version = p.header.version
  · rw [accept_of_version (p := p.cut n) hversion, accept_of_version hversion]
    rcases p.request_cut n with ⟨failure, hrequest, hkind⟩ | hrequest
    · exact .inl ⟨failure, hkind, by rw [handle_eq, hrequest]⟩
    · exact .inr (s.handle_agrees rfl hrequest)
  · rw [accept_of_other_version (p := p.cut n) hversion, accept_of_other_version hversion]
    exact .inr (.refl _)

end Session

end Rendezvous
