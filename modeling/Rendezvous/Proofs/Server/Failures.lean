import Rendezvous.Proofs.Server.Expiry
import Rendezvous.Proofs.Session.Failures

/-!
Datagrams that fail. Failures are found at several places: in the header, in the session that the
packet belongs to, or in the one that was opened for it a moment before. At each of them nothing has
been done yet that would have to be undone: the sessions that were there are as they were, no retry
has started, and nothing is sent but the answer to a probe that names another game. What may remain
is a session without clients, and then the fault lies in the bytes of the packet. No failure is the
server's own.
-/
namespace Rendezvous

theorem Packet.decode_of_ofDatagram? {source : SocketAddress} {datagram : Wire.Bytes} {p : Packet}
    (h : Packet.ofDatagram? source datagram = some p) :
    Header.decode datagram = .ok (p.header, p.payload) ∧ p.source = source ∧
      ∃ command, p.header.command? = some command ∧ ¬command.isStateless := by
  unfold ofDatagram? at h
  cases hdecode : Header.decode datagram with
  | error failure => simp [hdecode] at h
  | ok decoded =>
      obtain ⟨header, payload⟩ := decoded
      cases hcommand : header.command? with
      | none => simp [hdecode, hcommand] at h
      | some command =>
          by_cases hstateless : command.isStateless
          · simp [hdecode, hcommand, hstateless] at h
          · simp only [hdecode, hcommand, hstateless, Bool.false_eq_true, if_false] at h
            obtain rfl := Option.some.inj h
            exact ⟨rfl, rfl, command, hcommand, hstateless⟩

theorem Packet.ofDatagram?_of_decode {source : SocketAddress} {datagram : Wire.Bytes}
    {header : Header} {payload : Wire.Bytes} {command : Command}
    (hdecode : Header.decode datagram = .ok (header, payload))
    (hcommand : header.command? = some command) (hstateful : ¬command.isStateless) :
    ofDatagram? source datagram = some ⟨header, payload, source⟩ := by
  simp [ofDatagram?, hdecode, hcommand, hstateful]

/-- What the session of a packet makes of it, or the session that the packet opens. -/
def Registry.reaction? (r : Registry) (now : Nat) (p : Packet) : Option Reaction :=
  let entrance := r.enter now p.header.cookie p.header.version
  (entrance.registry.lease? entrance.handle).map fun lease =>
    lease.session.accept p.header p.payload p.source

namespace Server

variable {s : Server} {delivery : Delivery} {now : Nat} {source : SocketAddress}
  {datagram : Wire.Bytes} {failure : Failure}

/-! ### Where a datagram fails -/

/-- What comes of handing a packet to its session: its replies are tried, and only those. -/
theorem process_eq (s : Server) (delivery : Delivery) (now handle : Nat) (session : Session)
    (header : Header) (payload : Wire.Bytes) (source : SocketAddress) :
    let reaction := session.accept header payload source
    let outcome := s.process delivery now handle session header payload source
    (∀ failure, outcome.result = .error failure ↔ reaction.result = .error failure) ∧
      outcome.attempts = attempt delivery reaction.replies ∧
      outcome.logs = reaction.logs ++
        failures (.replyFailed header.cookie) (attempt delivery reaction.replies) := by
  simp only [process]
  cases (session.accept header payload source).result with
  | error fault => exact ⟨by simp, rfl, rfl⟩
  | ok edges => exact ⟨by simp, rfl, rfl⟩

/-- A datagram without a packet for a session changes nothing and sends nothing. -/
theorem handleDatagram_of_no_packet (hp : Packet.ofDatagram? source datagram = none)
    (s : Server) (delivery : Delivery) (now : Nat) :
    (s.handleDatagram delivery now source datagram).server = s ∧
      (s.handleDatagram delivery now source datagram).attempts = [] ∧
      ∀ failure, (s.handleDatagram delivery now source datagram).result = .error failure →
        failure.IsOfBytes := by
  unfold handleDatagram Packet.ofDatagram? at *
  cases hdecode : Header.decode datagram with
  | error fault =>
      refine ⟨rfl, rfl, fun failure h => ?_⟩
      obtain rfl := Except.error.inj h
      exact Header.failsForBytes_decode datagram _ hdecode
  | ok decoded =>
      obtain ⟨header, payload⟩ := decoded
      cases hcommand : header.command? with
      | none => simp [hcommand, quiet]
      | some command =>
          by_cases hstateless : command.isStateless
          · simp [hcommand, hstateless, quiet]
          · simp [hdecode, hcommand, hstateless] at hp

/-- A packet is answered and fails as its session has it. -/
theorem handleDatagram_of_packet {p : Packet} (hp : Packet.ofDatagram? source datagram = some p)
    (s : Server) (delivery : Delivery) (now : Nat) :
    (s.handleDatagram delivery now source datagram).attempts =
        attempt delivery ((s.registry.reaction? now p).elim [] (·.replies)) ∧
      ∀ failure, (s.handleDatagram delivery now source datagram).result = .error failure ↔
        ∃ reaction, s.registry.reaction? now p = some reaction ∧
          reaction.result = .error failure := by
  obtain ⟨hdecode, rfl, command, hcommand, hstateful⟩ := Packet.decode_of_ofDatagram? hp
  obtain ⟨header, payload, source⟩ := p
  obtain ⟨hessence, hhandle⟩ := essence_enter s now header
  rcases hentered : s.enter now header with ⟨entered, handle, opened⟩
  rw [hentered] at hessence hhandle
  have hregistry := congrArg Essence.registry hessence
  dsimp only [essence] at hregistry hhandle hdecode hcommand ⊢
  simp only [handleDatagram, hdecode, hcommand, hstateful, hentered, Bool.false_eq_true, if_false,
    Registry.reaction?, ← hregistry, ← hhandle]
  cases entered.registry.lease? handle with
  | none => simp [quiet, attempt]
  | some lease =>
      obtain ⟨hresult, hattempts, -⟩ :=
        process_eq entered delivery now handle lease.session header payload source
      exact ⟨hattempts, by simpa using hresult⟩

/-- A datagram fails because it has no header, or in the session that its packet belongs to. -/
theorem handleDatagram_eq_error
    (h : (s.handleDatagram delivery now source datagram).result = .error failure) :
    (failure.IsOfBytes ∧ (s.handleDatagram delivery now source datagram).server = s ∧
        (s.handleDatagram delivery now source datagram).attempts = []) ∨
      ∃ p lease, Packet.ofDatagram? source datagram = some p ∧
        (s.registry.enter now p.header.cookie p.header.version).registry.lease?
          (s.registry.enter now p.header.cookie p.header.version).handle = some lease ∧
        (lease.session.accept p.header p.payload p.source).result = .error failure ∧
        (s.handleDatagram delivery now source datagram).attempts =
          attempt delivery (lease.session.accept p.header p.payload p.source).replies := by
  cases hp : Packet.ofDatagram? source datagram with
  | none =>
      obtain ⟨hserver, hattempts, hbytes⟩ := handleDatagram_of_no_packet hp s delivery now
      exact .inl ⟨hbytes failure h, hserver, hattempts⟩
  | some p =>
      obtain ⟨hattempts, hresult⟩ := handleDatagram_of_packet hp s delivery now
      obtain ⟨reaction, hreaction, hfailure⟩ := (hresult failure).1 h
      obtain ⟨lease, hlease, rfl⟩ := Option.map_eq_some_iff.1 hreaction
      rw [hreaction] at hattempts
      exact .inr ⟨p, lease, rfl, hlease, hfailure, hattempts⟩

/-! ### What is logged of a datagram -/

theorem level_ne_error_of_failures {event : SocketAddress → SocketError → LogEvent}
    (hevent : ∀ destination cause, (event destination cause).level ≠ .error)
    (attempts : List Attempt) : ∀ e ∈ failures event attempts, e.level ≠ .error := by
  intro e he
  obtain ⟨a, -, ha⟩ := List.mem_filterMap.1 he
  obtain ⟨cause, -, rfl⟩ := Option.map_eq_some_iff.1 ha
  exact hevent _ cause

theorem level_ne_error_of_process (s : Server) (delivery : Delivery) (now handle : Nat)
    (session : Session) (p : Packet) :
    ∀ event ∈ (s.process delivery now handle session p.header p.payload p.source).logs,
      event.level ≠ .error := by
  intro event hevent
  rw [(process_eq s delivery now handle session p.header p.payload p.source).2.2] at hevent
  rcases List.mem_append.1 hevent with hevent | hevent
  · exact session.level_ne_error_of_accept p event hevent
  · exact level_ne_error_of_failures (by simp [LogEvent.level]) _ event hevent

theorem level_ne_error_of_handleDatagram (s : Server) (delivery : Delivery) (now : Nat)
    (source : SocketAddress) (datagram : Wire.Bytes) :
    ∀ event ∈ (s.handleDatagram delivery now source datagram).logs, event.level ≠ .error := by
  have hentered (header : Header) : ∀ event ∈ (s.enter now header).2.2, event.level ≠ .error := by
    unfold enter
    dsimp only
    split
    · simp [LogEvent.level]
    · simp
  unfold handleDatagram
  split
  · simp
  · next header payload _ =>
    split
    · simp [quiet, LogEvent.level]
    · split
      · simp [quiet, LogEvent.level]
      · dsimp only
        split
        · exact hentered header
        · intro event hevent
          rcases List.mem_append.1 hevent with hevent | hevent
          · exact hentered header event hevent
          · exact level_ne_error_of_process _ delivery now _ _ ⟨header, payload, source⟩ event
              hevent

/-! ### No trace -/

theorem kind_ne_internal_of_handleDatagram
    (h : (s.handleDatagram delivery now source datagram).result = .error failure) :
    failure.kind ≠ .internal := by
  rcases handleDatagram_eq_error h with ⟨hbytes, -, -⟩ | ⟨p, lease, -, -, hresult, -⟩
  · exact hbytes.kind_ne_internal
  · exact (Session.fails_of_accept_eq_error hresult).kind_ne_internal

/-- A datagram from the socket that fails is logged as one that was dropped, and its failure is not
the server's own. -/
theorem level_ne_error_of_receive (s : Server) (delivery : Delivery) (now : Nat)
    (source : SocketAddress) (datagram : Wire.Bytes) :
    ∀ event ∈ (s.receive delivery now source datagram).logs, event.level ≠ .error := by
  unfold receive
  split
  · dsimp only
    split
    · exact level_ne_error_of_handleDatagram _ delivery now source _
    · next failure hfailure =>
      intro event hevent
      rcases List.mem_append.1 hevent with hevent | hevent
      · exact level_ne_error_of_handleDatagram _ delivery now source _ event hevent
      · obtain rfl := List.mem_singleton.1 hevent
        have hkind := kind_ne_internal_of_handleDatagram hfailure
        rw [LogEvent.level]
        split <;> simp_all
  · simp [quiet]

/-- A packet that its session does not take leaves the sessions and the retries of the server as the
look-up of the session has left them. -/
theorem core_handleDatagram_of_error {p : Packet} {lease : Lease} (delivery : Delivery)
    (hp : Packet.ofDatagram? source datagram = some p)
    (hlease : (s.registry.enter now p.header.cookie p.header.version).registry.lease?
      (s.registry.enter now p.header.cookie p.header.version).handle = some lease)
    (hresult : (lease.session.accept p.header p.payload p.source).result = .error failure) :
    (s.handleDatagram delivery now source datagram).server.core =
      ((s.registry.enter now p.header.cookie p.header.version).registry, s.retries) := by
  have hsession := (Session.fails_of_accept_eq_error hresult).session_eq
  rw [core_handleDatagram_of_packet hp, Registry.route]
  simp only [hlease, hsession, Registry.setSession_self hlease, Reaction.edges, hresult,
    List.map_nil, List.append_nil]

/-- What a look-up can leave behind and no more: every session is as it was, no retry has started,
and the sessions that have come have no clients and no game. -/
structure OnlyOpens (before after : Server) : Prop where
  retries : after.retries = before.retries
  kept : ∀ handle lease, before.registry.lease? handle = some lease →
    after.registry.lease? handle = some lease
  empty : ∀ handle lease, after.registry.lease? handle = some lease →
    before.registry.lease? handle = some lease ∨
      lease.session = .fresh lease.session.cookie lease.session.version

theorem OnlyOpens.refl (s : Server) : s.OnlyOpens s :=
  ⟨rfl, fun _ _ h => h, fun _ _ h => .inl h⟩

theorem OnlyOpens.trans {later last : Server} (h : s.OnlyOpens later) (h' : later.OnlyOpens last) :
    s.OnlyOpens last where
  retries := h'.retries.trans h.retries
  kept handle lease hlease := h'.kept handle lease (h.kept handle lease hlease)
  empty handle lease hlease := by
    rcases h'.empty handle lease hlease with hlater | hempty
    · exact h.empty handle lease hlater
    · exact .inr hempty

theorem OnlyOpens.of_essence_eq {after : Server} (h : after.essence = s.essence) :
    s.OnlyOpens after := by
  have hregistry : after.registry = s.registry := congrArg Essence.registry h
  exact ⟨congrArg Essence.retries h, fun _ _ hlease => hregistry ▸ hlease,
    fun _ _ hlease => .inl (hregistry ▸ hlease)⟩

theorem OnlyOpens.of_enter {after : Server} {cookie : UInt32} {version : UInt8}
    (h : after.core = ((s.registry.enter now cookie version).registry, s.retries)) :
    s.OnlyOpens after := by
  obtain ⟨hregistry, hretries⟩ := Prod.mk.inj h
  refine ⟨hretries, fun handle lease hold => ?_, fun handle lease hlease => ?_⟩
  · rw [hregistry, Registry.lease?_enter_eq_some_iff]
    exact .inl hold
  · rw [hregistry, Registry.lease?_enter_eq_some_iff] at hlease
    rcases hlease with hold | ⟨-, -, rfl⟩
    · exact .inl hold
    · exact .inr rfl

/-- In every state of every run, a datagram that fails leaves every session that is there as it is
and starts no retry. It sends nothing, unless a new client names another game than the session's,
and then exactly the answer to that client's probe. At most one session is opened, without clients
and without a game, and only for a packet with a known command that needs a session when no session
answers to its cookie; then the fault is neither the version nor the game. No failure is of the
server's own kind, so nothing that a datagram from the socket causes to be logged is an error. -/
theorem failing_datagram_leaves_no_trace {network : Network} {settings : Settings}
    {start : Outcome} (hbind : bind network settings = .ok start) (turns : List Turn)
    (delivery : Delivery) (now : Nat) (source : SocketAddress) (datagram : Wire.Bytes) :
    let s := start.server.after turns
    let outcome := s.handleDatagram delivery now source datagram
    (∀ failure, outcome.result = .error failure →
      (∀ handle lease, s.registry.lease? handle = some lease →
        outcome.server.registry.lease? handle = some lease) ∧
      outcome.server.retries = s.retries ∧
      ((∀ established received, failure ≠ .gameNameMismatch established received) →
        outcome.attempts = []) ∧
      (∀ established received, failure = .gameNameMismatch established received →
        ∃ header payload r, Header.decode datagram = .ok (header, payload) ∧
          InitRequest.decode payload = .ok r ∧
          outcome.attempts.map (·.datagram) =
            [⟨source, (InitReply.forRequest r).encode header.version header.cookie⟩]) ∧
      (outcome.server.registry = s.registry ∨
        ∃ header payload command, Header.decode datagram = .ok (header, payload) ∧
          header.command? = some command ∧ ¬command.isStateless ∧
          (¬∃ handle lease, s.registry.lease? handle = some lease ∧ lease.isOpen ∧
            lease.session.cookie = header.cookie) ∧
          outcome.server.registry = s.registry.opened now header.cookie header.version ∧
          (∀ session packet, failure ≠ .versionMismatch session packet) ∧
          ∀ established received, failure ≠ .gameNameMismatch established received) ∧
      failure.kind ≠ .internal) ∧
    ∀ event ∈ (s.receive delivery now source datagram).logs, event.level ≠ .error := by
  intro s outcome
  have hsound : s.registry.Sound := sound_stable.run Registry.sound_empty hbind turns
  refine ⟨fun failure hfailure => ?_, ?_⟩
  · have hinternal : failure.kind ≠ .internal := kind_ne_internal_of_handleDatagram hfailure
    rcases handleDatagram_eq_error hfailure with ⟨hbytes, hserver, hattempts⟩ |
      ⟨p, lease, hp, hlease, hresult, hattempts⟩
    · have hgame : ∀ established received, failure ≠ .gameNameMismatch established received := by
        rintro established received rfl
        exact hbytes
      have hsame : outcome.server = s := hserver
      rw [hsame]
      exact ⟨fun _ _ h => h, rfl, fun _ => hattempts, fun established received heq =>
        absurd heq (hgame established received), .inl rfl, hinternal⟩
    · obtain ⟨hdecode, rfl, command, hcommand, hstateful⟩ := Packet.decode_of_ofDatagram? hp
      have hfails := Session.fails_of_accept_eq_error hresult
      obtain ⟨hregistry, hretries⟩ := Prod.mk.inj
        (core_handleDatagram_of_error delivery hp hlease hresult)
      have hsent
          (hgame : ∀ established received, failure ≠ .gameNameMismatch established received) :
          outcome.attempts = [] := by
        rw [hattempts, hfails.replies_eq_nil hgame]
        rfl
      cases hlinked : s.registry.linked? p.header.cookie with
      | none =>
          rw [Registry.enter_of_not_linked hlinked] at hlease hregistry
          obtain rfl := Option.some.inj ((Registry.lease?_opened_self _ _ _ _).symm.trans hlease)
          have hbytes : failure.IsOfBytes := hfails.isOfBytes_of_fresh
          have hgame : ∀ established received,
              failure ≠ .gameNameMismatch established received := by
            rintro established received rfl
            exact hbytes
          refine ⟨fun handle lease hold => ?_, hretries, hsent, fun established received heq =>
            absurd heq (hgame established received), .inr ⟨p.header, p.payload, command, hdecode,
            hcommand, hstateful, ?_, hregistry, ?_, hgame⟩, hinternal⟩
          · rw [hregistry, Registry.lease?_opened,
              if_neg (Registry.lt_length_of_lease? hold).ne, hold]
          · rintro ⟨handle, hfound⟩
            rw [(hsound p.header.cookie handle).2 hfound] at hlinked
            cases hlinked
          · rintro session packet rfl
            exact hbytes
      | some handle =>
          rw [Registry.enter_of_linked hlinked] at hlease hregistry
          have hcookie := (hsound.of_linked? hlinked hlease).2
          have hsame : outcome.server.registry = s.registry := hregistry
          refine ⟨fun _ _ h => hsame ▸ h, hretries, hsent, ?_, .inl hsame, hinternal⟩
          rintro established received rfl
          obtain ⟨r, hr, hversion, hreplies⟩ := hfails.of_gameNameMismatch
          refine ⟨p.header, p.payload, r, hdecode, hr, ?_⟩
          rw [hattempts, map_datagram_attempt, hreplies, hversion, hcookie]
  · exact level_ne_error_of_receive s delivery now source datagram

/-- The second client of a session names another game: its probe is answered and leaves nothing
behind. A probe for another cookie, from a socket that does not exist, leaves an empty session. -/
theorem failing_datagram_leaves_no_trace_of_two :
    ∃ start, bind .isolated {} = .ok start ∧
      let s := start.server.after [.ofPacket (.probeOf 1)]
      let sent : Delivery := fun _ _ => none
      let source : SocketAddress := .v4 ⟨⟨192, 0, 2, 2⟩, 27900⟩
      let probe (cookie : UInt32) (payload : Wire.Bytes) : Wire.Bytes :=
        (Header.forCommand 3 .initRequest cookie).encode ++ payload
      let otherGame := s.handleDatagram sent 10 source (probe 7 [1, 2, 0, 0, 0, 0, 0, 0, 0, 97, 0])
      let otherSocket := s.handleDatagram sent 20 source (probe 8 [9, 2, 0, 0, 0, 0, 0, 0, 0, 0])
      otherGame.result = .error (.gameNameMismatch "" "a") ∧
        otherGame.attempts.length = 1 ∧ otherGame.server.retries = s.retries ∧
        otherSocket.result = .error (.invalidPortType 9) ∧ otherSocket.attempts = [] ∧
        otherSocket.server.registry.size = s.registry.size + 1 := by
  have hbind : bind .isolated {} = .ok _ := rfl
  refine ⟨_, hbind, ?_⟩
  intro s sent source probe otherGame otherSocket
  have hgame : otherGame.result = .error (.gameNameMismatch "" "a") := rfl
  have hsocket : otherSocket.result = .error (.invalidPortType 9) := rfl
  obtain ⟨-, hretries, -, hanswer, -⟩ := (failing_datagram_leaves_no_trace hbind
    [.ofPacket (.probeOf 1)] sent 10 source _).1 _ hgame
  obtain ⟨-, -, hsilent, -⟩ := (failing_datagram_leaves_no_trace hbind
    [.ofPacket (.probeOf 1)] sent 20 source _).1 _ hsocket
  obtain ⟨header, payload, r, -, -, hattempts⟩ := hanswer _ _ rfl
  refine ⟨hgame, ?_, hretries, hsocket, hsilent nofun, by decide⟩
  simpa using congrArg List.length hattempts

end Server

end Rendezvous
