import Rendezvous.Proofs.Server.Failures
import Rendezvous.Proofs.Session.Replies

/-!
The Connect-Requests that a server attempts to send. Packets are answered by Init-Replies and
Report-Replies, and an expiry sends Report-Replies, so every Connect-Request comes from a retry that
wakes up, and belongs to the session of that retry. A retry has two of them to send at most, and
none when its session is closed.
-/
namespace Rendezvous

/-! ### Which datagrams are Connect-Requests -/

/-- The command of the packet in a datagram. -/
def Datagram.command? (d : Datagram) : Option Command :=
  match Header.decode d.contents with
  | .ok (header, _) => header.command?
  | .error _ => none

theorem Datagram.command?_eq {d : Datagram} {version : UInt8} {command : Command}
    {cookie : UInt32} {payload : Wire.Bytes}
    (h : d.contents = (Header.forCommand version command cookie).encode ++ payload) :
    d.command? = some command := by
  rw [command?, h, Header.decode_encode_append rfl]
  exact Header.command?_forCommand version command cookie

theorem Datagram.command?_eq_some_iff {d : Datagram} {command : Command} :
    d.command? = some command ↔
      ∃ header payload, Header.decode d.contents = .ok (header, payload) ∧
        header.command? = some command := by
  unfold command?
  cases Header.decode d.contents with
  | error failure => simp
  | ok decoded =>
      obtain ⟨header, payload⟩ := decoded
      simp

/-- What tells a client that it was heard, or that it has to give up; all of it is of one length. -/
structure Datagram.IsAnswer (d : Datagram) : Prop where
  command : d.command? = some .initReply ∨ d.command? = some .reportReply
  length : d.contents.length = 21

structure Datagram.IsConnectRequest (d : Datagram) : Prop where
  command : d.command? = some .connectRequest
  length : d.contents.length = 20

theorem Datagram.IsAnswer.command?_ne {d : Datagram} (h : d.IsAnswer) :
    d.command? ≠ some .connectRequest := by
  rcases h.command with hcommand | hcommand <;> simp [hcommand]

/-- Packets are acknowledged by Init-Replies and Report-Replies. -/
theorem Packet.AcknowledgedBy.command?_eq {p : Packet} {version : UInt8} {cookie : UInt32}
    {d : Datagram} (h : p.AcknowledgedBy version cookie d) :
    d.command? = some .initReply ∨ d.command? = some .reportReply := by
  obtain ⟨command, answer, payload, -, hanswer, hdecode, -⟩ := h.answer
  have hcommand : d.command? = some answer :=
    Datagram.command?_eq_some_iff.2 ⟨_, payload, hdecode, by simp⟩
  rw [hcommand]
  cases command with
  | initRequest => exact .inl hanswer.symm
  | reportRequest => exact .inr hanswer.symm
  | _ => cases hanswer

theorem Packet.isAnswer_of_reply? {p : Packet} {version : UInt8} {cookie : UInt32} {d : Datagram}
    (h : p.reply? version cookie = some d) : d.IsAnswer where
  command := (acknowledgedBy_of_reply? h).command?_eq
  length := by
    unfold reply? at h
    split at h
    · obtain rfl := Option.some.inj h
      exact InitReply.length_encode _ _ _
    · obtain rfl := Option.some.inj h
      exact ReportReply.length_forRequest _ _ _
    · cases h
    · cases h
    · cases h

namespace Session

variable {s : Session} {d : Datagram}

theorem isAnswer_of_mem_replies {p : Packet}
    (h : d ∈ (s.accept p.header p.payload p.source).replies) : d.IsAnswer := by
  rw [replies_accept, Option.mem_toList] at h
  split at h
  · exact Packet.isAnswer_of_reply? h
  · cases h

theorem isAnswer_of_mem_cancellations (h : d ∈ s.cancellations.1) : d.IsAnswer := by
  rw [cancellations, List.unzip_fst, List.mem_map] at h
  obtain ⟨⟨_, log⟩, hmem, rfl⟩ := h
  obtain ⟨c, -, hsome⟩ := List.mem_filterMap.1 hmem
  unfold cancellation? at hsome
  split at hsome
  · cases hsome
  · obtain ⟨destination, -, heq⟩ := Option.map_eq_some_iff.1 hsome
    obtain ⟨rfl, -⟩ := Prod.mk.inj heq
    exact ⟨.inr (Datagram.command?_eq rfl), ReportReply.length_cancellation _ _ _⟩

/-- A reminder is one Connect-Request or none. -/
theorem datagrams_of_reminder (s : Session) (peer receiver : Client) :
    (s.reminder peer receiver).1.length ≤ 1 ∧
      ∀ d ∈ (s.reminder peer receiver).1, d.IsConnectRequest := by
  unfold reminder connectRequest
  split
  · split
    · split
      · next request _ =>
        refine ⟨le_rfl, fun d hd => ?_⟩
        obtain rfl := List.mem_singleton.1 hd
        exact ⟨Datagram.command?_eq (request.encode_eq _ _), ConnectRequest.length_encode _ _ _⟩
      · simp
    · simp
  · simp

/-- A retry sends at most two Connect-Requests, and nothing else. -/
theorem datagrams_of_retryStep {edge : Edge} {datagrams : List Datagram}
    (h : (s.retryStep edge).1 = .pending datagrams) :
    datagrams.length ≤ 2 ∧ ∀ d ∈ datagrams, d.IsConnectRequest := by
  unfold retryStep at h
  split at h
  · next a b _ _ =>
    split at h
    · obtain rfl := EdgeStep.pending.inj h
      obtain ⟨hsecond, hsecond'⟩ := s.datagrams_of_reminder a b
      obtain ⟨hfirst, hfirst'⟩ := s.datagrams_of_reminder b a
      refine ⟨?_, fun d hd => ?_⟩
      · rw [List.length_append]
        omega
      · rcases List.mem_append.1 hd with hd | hd
        · exact hsecond' d hd
        · exact hfirst' d hd
    · cases h
  · cases h

end Session

namespace Server

variable {s : Server} {t : Turn} {handle : Nat}

/-! ### The Connect-Requests of a session -/

/-- What a turn attempts to send for a session when a retry of the session wakes up. -/
def requestsIn (s : Server) (handle : Nat) (t : Turn) : List Attempt :=
  match t.event with
  | .retry place =>
    if (s.retries[place]?).any (·.handle = handle) then
      (s.step t.delivery t.now t.event).attempts
    else []
  | .receive _ _ | .receiveFailed _ | .handle _ _ | .expire _ | .stop => []

/-- What is attempted in a run for the retries of a session. -/
def requests (s : Server) (handle : Nat) : List Turn → List Attempt
  | [] => []
  | t :: rest => s.requestsIn handle t ++ (s.turn t).requests handle rest

theorem requestsIn_of_ne (hevent : ∀ place, t.event ≠ .retry place) (s : Server) (handle : Nat) :
    s.requestsIn handle t = [] := by
  obtain ⟨event, now, delivery⟩ := t
  cases event with
  | retry place => exact absurd rfl (hevent place)
  | receive source datagram => rfl
  | receiveFailed cause => rfl
  | handle source datagram => rfl
  | expire handle => rfl
  | stop => rfl

theorem requestsIn_of_retry {place : Nat} {retry : Retry}
    (hretry : s.retries[place]? = some retry) (delivery : Delivery) (now handle : Nat) :
    s.requestsIn handle ⟨.retry place, now, delivery⟩ =
      if retry.handle = handle then (s.wake delivery now place).attempts else [] := by
  simp [requestsIn, hretry, step]

theorem mem_attempt {delivery : Delivery} {datagrams : List Datagram} {a : Attempt}
    (h : a ∈ attempt delivery datagrams) : a.datagram ∈ datagrams := by
  rw [← map_datagram_attempt delivery datagrams]
  exact List.mem_map_of_mem h

/-- What a retry attempts to send when it wakes up are Connect-Requests, two at most. -/
theorem attempts_wake {place : Nat} {retry : Retry} (hretry : s.retries[place]? = some retry)
    (delivery : Delivery) (now : Nat) :
    (s.wake delivery now place).attempts.length ≤ 2 ∧
      ∀ a ∈ (s.wake delivery now place).attempts, a.datagram.IsConnectRequest := by
  rcases essence_wake hretry delivery now with ⟨-, hnone, -⟩ |
    ⟨lease, datagrams, -, -, hpending, hattempts, -⟩
  · simp [hnone]
  · obtain ⟨hlength, hrequests⟩ := Session.datagrams_of_retryStep hpending
    rw [hattempts]
    refine ⟨?_, fun a ha => hrequests _ (mem_attempt ha)⟩
    simpa [attempt] using hlength

theorem isAnswer_of_handleDatagram {delivery : Delivery} {now : Nat} {source : SocketAddress}
    {datagram : Wire.Bytes} {a : Attempt}
    (h : a ∈ (s.handleDatagram delivery now source datagram).attempts) : a.datagram.IsAnswer := by
  cases hp : Packet.ofDatagram? source datagram with
  | none =>
      rw [(handleDatagram_of_no_packet hp s delivery now).2.1] at h
      cases h
  | some p =>
      rw [(handleDatagram_of_packet hp s delivery now).1] at h
      cases hreaction : s.registry.reaction? now p with
      | none => simp [hreaction, attempt] at h
      | some reaction =>
          obtain ⟨lease, -, rfl⟩ := Option.map_eq_some_iff.1 hreaction
          rw [hreaction] at h
          exact lease.session.isAnswer_of_mem_replies (mem_attempt h)

theorem isAnswer_of_expire {delivery : Delivery} {now : Nat} {a : Attempt}
    (h : a ∈ (s.step delivery now (.expire handle)).attempts) : a.datagram.IsAnswer := by
  by_cases hdue : handle ∈ s.expiries
  · cases hlease : s.registry.lease? handle with
    | none => simp [step, expire, hdue, hlease, quiet] at h
    | some lease =>
        rw [attempts_of_mem hdue hlease] at h
        exact lease.session.isAnswer_of_mem_cancellations (mem_attempt h)
  · rw [attempts_of_not_mem hdue] at h
    cases h

/-- A retry sends Connect-Requests and every other event sends answers. -/
theorem connectRequest_or_answer_of_step {a : Attempt}
    (h : a ∈ (s.step t.delivery t.now t.event).attempts) :
    (∃ place, t.event = .retry place) ∧ a.datagram.IsConnectRequest ∨
      (∀ place, t.event ≠ .retry place) ∧ a.datagram.IsAnswer := by
  obtain ⟨event, now, delivery⟩ := t
  cases event with
  | receive source datagram =>
      refine .inr ⟨by simp, ?_⟩
      by_cases hlistening : s.isListening
      · obtain ⟨counted, -, -, hattempts⟩ :=
          receive_of_listening hlistening delivery now source datagram
        simp only [step, hattempts] at h
        exact isAnswer_of_handleDatagram h
      · simp [step, receive, hlistening, quiet] at h
  | receiveFailed cause =>
      simp only [step, receiveFailed] at h
      split at h
      · cases h
      · cases h
  | handle source datagram => exact .inr ⟨by simp, isAnswer_of_handleDatagram h⟩
  | retry place =>
      refine .inl ⟨⟨place, rfl⟩, ?_⟩
      dsimp only [step] at h
      cases hretry : s.retries[place]? with
      | none =>
          rw [wake, hretry] at h
          cases h
      | some retry => exact (attempts_wake hretry delivery now).2 a h
  | expire handle => exact .inr ⟨by simp, isAnswer_of_expire h⟩
  | stop =>
      simp only [step, stop] at h
      split at h
      · cases h
      · cases h

/-- A Connect-Request is sent for a session by one of its retries, and by nothing else. -/
theorem command?_eq_connectRequest_iff {a : Attempt}
    (h : a ∈ (s.step t.delivery t.now t.event).attempts) :
    a.datagram.command? = some .connectRequest ↔ ∃ handle, a ∈ s.requestsIn handle t := by
  rcases connectRequest_or_answer_of_step h with ⟨⟨place, hevent⟩, hrequest⟩ | ⟨hevent, hanswer⟩
  · refine iff_of_true hrequest.command ?_
    obtain ⟨event, now, delivery⟩ := t
    obtain rfl : event = .retry place := hevent
    cases hretry : s.retries[place]? with
    | none => simp [step, wake, hretry, quiet] at h
    | some retry => exact ⟨retry.handle, by simpa [requestsIn, hretry] using h⟩
  · refine iff_of_false hanswer.command?_ne ?_
    rintro ⟨handle, ha⟩
    rw [requestsIn_of_ne hevent] at ha
    cases ha

/-- A retry that finds its session closed has nothing to send. -/
theorem requestsIn_of_closed
    (hclosed : ∃ lease, s.registry.lease? handle = some lease ∧ ¬lease.isOpen) (t : Turn) :
    s.requestsIn handle t = [] := by
  by_cases hwake : ∃ place, t.event = .retry place
  · obtain ⟨place, hevent⟩ := hwake
    obtain ⟨event, now, delivery⟩ := t
    obtain rfl : event = .retry place := hevent
    cases hretry : s.retries[place]? with
    | none => simp [requestsIn, hretry]
    | some retry =>
        rw [requestsIn_of_retry hretry]
        split
        · next hhandle =>
          rcases essence_wake hretry delivery now with ⟨-, hsilent, -⟩ |
            ⟨lease, _, hlease, hopen, -⟩
          · exact hsilent
          · obtain ⟨closed, hlease', hnot⟩ := hclosed
            rw [hhandle] at hlease
            obtain rfl := Option.some.inj (hlease.symm.trans hlease')
            exact absurd hopen hnot
        · rfl
  · exact requestsIn_of_ne (fun place heq => hwake ⟨place, heq⟩) s handle

theorem requests_of_closed (hsound : s.registry.Sound)
    (hclosed : ∃ lease, s.registry.lease? handle = some lease ∧ ¬lease.isOpen)
    (turns : List Turn) : s.requests handle turns = [] := by
  induction turns generalizing s with
  | nil => rfl
  | cons t rest ih =>
      rw [requests, requestsIn_of_closed hclosed, List.nil_append]
      exact ih (sound_after hsound [t]) (closed_after hsound hclosed [t])

end Server

end Rendezvous
