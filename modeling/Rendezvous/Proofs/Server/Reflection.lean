import Rendezvous.Proofs.Packet.Header
import Rendezvous.Proofs.Server.Requests

/-!
Datagrams that come back. Anybody can make a server send an answer to another server, or to itself,
by claiming its address. All that a server sends has a command that servers send, in a header that
a cut leaves alone, and a server that receives such a command does nothing about it, whatever
sessions it has. So what a server has sent never makes a server send anything, and no number of
servers can be kept busy with each other.
-/
namespace Rendezvous

/-! ### What servers send -/

/-- A datagram whose command servers send. -/
def IsFromServer (datagram : Wire.Bytes) : Prop :=
  ∃ header payload command, Header.decode datagram = .ok (header, payload) ∧
    header.command? = some command ∧ command.isFromServer

/-- The command stands in the header, so it survives every cut that settings allow. -/
theorem IsFromServer.take {datagram : Wire.Bytes} (h : IsFromServer datagram) {limit : Nat}
    (hlimit : Header.width ≤ limit) : IsFromServer (datagram.take limit) := by
  obtain ⟨header, payload, command, hdecode, hcommand, hserver⟩ := h
  refine ⟨header, payload.take (limit - Header.width), command, ?_, hcommand, hserver⟩
  rw [Header.decode_take hlimit, hdecode]
  rfl

theorem Datagram.isFromServer_of_command? {d : Datagram} {command : Command}
    (h : d.command? = some command) (hserver : command.isFromServer) :
    IsFromServer d.contents := by
  obtain ⟨header, payload, hdecode, hcommand⟩ := Datagram.command?_eq_some_iff.1 h
  exact ⟨header, payload, command, hdecode, hcommand, hserver⟩

/-! ### What becomes of it in a session -/

/-- Sessions have nothing to do for the commands of servers. -/
theorem Packet.request_of_isFromServer {p : Packet} {command : Command}
    (hcommand : p.header.command? = some command) (hserver : command.isFromServer) :
    p.request = .ok .nothing := by
  rw [request, hcommand]
  cases command with
  | initRequest | connectReply | reportRequest => cases hserver
  | _ => rfl

theorem Session.accept_of_isFromServer (s : Session) {p : Packet} {command : Command}
    (hcommand : p.header.command? = some command) (hserver : command.isFromServer) :
    let reaction := s.accept p.header p.payload p.source
    reaction.session = s ∧ reaction.replies = [] ∧ reaction.edges = [] ∧
      ∀ failure, reaction.result = .error failure →
        failure = .versionMismatch s.version p.header.version := by
  by_cases hversion : s.version = p.header.version
  · rw [accept_of_version hversion, handle_eq, Packet.request_of_isFromServer hcommand hserver]
    exact ⟨rfl, rfl, rfl, nofun⟩
  · rw [accept_of_other_version hversion]
    exact ⟨rfl, rfl, rfl, fun failure h => (Except.error.inj h).symm⟩

theorem Registry.reaction?_of_isFromServer {r : Registry} {now : Nat} {p : Packet}
    {command : Command} (hcommand : p.header.command? = some command)
    (hserver : command.isFromServer) {reaction : Reaction}
    (h : r.reaction? now p = some reaction) :
    reaction.replies = [] ∧ ∀ failure, reaction.result = .error failure →
      ∃ session, failure = .versionMismatch session p.header.version := by
  obtain ⟨lease, -, rfl⟩ := Option.map_eq_some_iff.1 h
  obtain ⟨-, hsilent, -, hversion⟩ := lease.session.accept_of_isFromServer hcommand hserver
  exact ⟨hsilent, fun failure hfailure => ⟨_, hversion failure hfailure⟩⟩

/-- The registry is left as the look-up of the session leaves it. -/
theorem Registry.route_of_isFromServer (r : Registry) (now : Nat) {p : Packet} {command : Command}
    (hcommand : p.header.command? = some command) (hserver : command.isFromServer) :
    r.route now p = ((r.enter now p.header.cookie p.header.version).registry, []) := by
  unfold route
  generalize r.enter now p.header.cookie p.header.version = entrance
  dsimp only
  cases hlease : entrance.registry.lease? entrance.handle with
  | none => rfl
  | some lease =>
      obtain ⟨hsession, -, hedges, -⟩ := lease.session.accept_of_isFromServer hcommand hserver
      dsimp only
      rw [hsession, hedges, setSession_self hlease, List.map_nil]

namespace Server

variable {s : Server} {t : Turn} {datagram : Wire.Bytes}

/-! ### What becomes of it in a server -/

/-- A server that gets what servers send opens a session at most. -/
theorem handleDatagram_of_isFromServer (h : IsFromServer datagram) (s : Server)
    (delivery : Delivery) (now : Nat) (source : SocketAddress) :
    let outcome := s.handleDatagram delivery now source datagram
    (outcome.result = .ok () ∨
        ∃ session packet, outcome.result = .error (.versionMismatch session packet)) ∧
      outcome.attempts = [] ∧ s.OnlyOpens outcome.server := by
  intro outcome
  obtain ⟨header, payload, command, hdecode, hcommand, hserver⟩ := h
  have hstateful : ¬command.isStateless := by
    cases command with
    | addressCheckRequest | natifyRequest => cases hserver
    | _ => decide
  have hp : Packet.ofDatagram? source datagram = some ⟨header, payload, source⟩ :=
    Packet.ofDatagram?_of_decode hdecode hcommand hstateful
  have hcore : outcome.server.core =
      ((s.registry.enter now header.cookie header.version).registry, s.retries) := by
    have hroute := s.registry.route_of_isFromServer (p := ⟨header, payload, source⟩) now hcommand
      hserver
    show (s.handleDatagram delivery now source datagram).server.core = _
    rw [core_handleDatagram_of_packet hp, hroute, List.append_nil]
  obtain ⟨hattempts, hfails⟩ := handleDatagram_of_packet hp s delivery now
  refine ⟨?_, ?_, .of_enter hcore⟩
  · cases hresult : outcome.result with
    | ok _ => exact .inl rfl
    | error failure =>
        obtain ⟨reaction, hreaction, hfailure⟩ := (hfails failure).1 hresult
        obtain ⟨-, hversion⟩ := Registry.reaction?_of_isFromServer hcommand hserver hreaction
        obtain ⟨session, rfl⟩ := hversion failure hfailure
        exact .inr ⟨session, _, rfl⟩
  · show outcome.attempts = []
    rw [hattempts]
    cases hreaction : s.registry.reaction? now ⟨header, payload, source⟩ with
    | none => rfl
    | some reaction =>
        rw [Option.elim_some, (Registry.reaction?_of_isFromServer hcommand hserver hreaction).1]
        rfl

/-! ### Runs -/

/-- What a run attempts to send. -/
def sendings (s : Server) : List Turn → List Attempt
  | [] => []
  | t :: rest => (s.step t.delivery t.now t.event).attempts ++ (s.turn t).sendings rest

theorem isFromServer_of_mem_step {a : Attempt}
    (h : a ∈ (s.step t.delivery t.now t.event).attempts) : IsFromServer a.datagram.contents := by
  rcases connectRequest_or_answer_of_step h with ⟨-, hrequest⟩ | ⟨-, hanswer⟩
  · exact Datagram.isFromServer_of_command? hrequest.command rfl
  · rcases hanswer.command with hcommand | hcommand
    · exact Datagram.isFromServer_of_command? hcommand rfl
    · exact Datagram.isFromServer_of_command? hcommand rfl

/-- What is attempted in a run is attempted in one of its steps. -/
theorem mem_step_of_mem_sendings {turns : List Turn} {a : Attempt} (h : a ∈ s.sendings turns) :
    ∃ (between : Server) (t : Turn), a ∈ (between.step t.delivery t.now t.event).attempts := by
  induction turns generalizing s with
  | nil => cases h
  | cons t rest ih =>
      rcases List.mem_append.1 h with hstep | hrest
      · exact ⟨s, t, hstep⟩
      · exact ih hrest

theorem isFromServer_of_mem_sendings {turns : List Turn} {a : Attempt}
    (h : a ∈ s.sendings turns) : IsFromServer a.datagram.contents := by
  obtain ⟨between, t, hstep⟩ := mem_step_of_mem_sendings h
  exact isFromServer_of_mem_step hstep

/-- A turn that brings back what a server attempted to send in a run, over the socket or cut to a
limit that settings can have. -/
def Turn.IsEcho (t : Turn) : Prop :=
  ∃ (origin : Server) (turns : List Turn), ∃ a ∈ origin.sendings turns, ∃ source,
    t.event = .receive source a.datagram.contents ∨
      ∃ receiver : Settings, receiver.validate = .ok () ∧
        t.event = .handle source (a.datagram.contents.take receiver.datagramLimit)

theorem onlyOpens_step_of_isEcho (h : t.IsEcho) (s : Server) :
    (s.step t.delivery t.now t.event).attempts = [] ∧ s.OnlyOpens (s.turn t) := by
  obtain ⟨event, now, delivery⟩ := t
  obtain ⟨origin, turns, a, ha, source, rfl | ⟨receiver, hreceiver, rfl⟩⟩ := h
  · have hserver := (isFromServer_of_mem_sendings ha).take s.valid.2.2
    by_cases hlistening : s.isListening
    · obtain ⟨counted, hcounted, hafter, hattempts⟩ :=
        receive_of_listening hlistening delivery now source a.datagram.contents
      obtain ⟨-, hsilent, honly⟩ := handleDatagram_of_isFromServer hserver counted delivery now source
      have hbefore : s.OnlyOpens counted := .of_essence_eq hcounted
      exact ⟨hattempts.trans hsilent, (hbefore.trans honly).trans (.of_essence_eq hafter)⟩
    · rw [turn, step, receive, if_neg hlistening]
      exact ⟨rfl, .refl s⟩
  · have hlimit : Header.width ≤ receiver.datagramLimit :=
      (Settings.validate_eq_ok_iff.1 hreceiver).2.2
    exact (handleDatagram_of_isFromServer ((isFromServer_of_mem_sendings ha).take hlimit) s delivery
      now source).2

/-- Echoes never make a server send anything, however many there are. -/
theorem sendings_of_isEcho {echoes : List Turn} (h : ∀ t ∈ echoes, t.IsEcho) (s : Server) :
    s.sendings echoes = [] ∧ s.OnlyOpens (s.after echoes) := by
  induction echoes generalizing s with
  | nil => exact ⟨rfl, .refl s⟩
  | cons t rest ih =>
      obtain ⟨ht, hrest⟩ := List.forall_mem_cons.1 h
      obtain ⟨hsilent, honly⟩ := onlyOpens_step_of_isEcho ht s
      obtain ⟨hsilent', honly'⟩ := ih hrest (s.turn t)
      exact ⟨by rw [sendings, hsilent, hsilent', List.append_nil], honly.trans honly'⟩

/-- Whatever a server attempts to send in any run, any server that is handed it back, from whatever
source and cut to whatever limit settings can have, takes it or finds that its version is not that
of the session; it sends nothing, starts no retry and changes no session that it has. So a run in
which nothing but such datagrams comes in sends nothing at all. -/
theorem reflected_datagrams_die_out :
    (∀ (origin : Server) (turns : List Turn), ∀ a ∈ origin.sendings turns,
      ∀ receiver : Settings, receiver.validate = .ok () →
      ∀ (s : Server) (delivery : Delivery) (now : Nat) (source : SocketAddress),
        let outcome := s.handleDatagram delivery now source
          (a.datagram.contents.take receiver.datagramLimit)
        (outcome.result = .ok () ∨
            ∃ session packet, outcome.result = .error (.versionMismatch session packet)) ∧
          outcome.attempts = [] ∧ s.OnlyOpens outcome.server) ∧
      ∀ (s : Server) (echoes : List Turn), (∀ t ∈ echoes, t.IsEcho) →
        s.sendings echoes = [] ∧ s.OnlyOpens (s.after echoes) := by
  refine ⟨fun origin turns a ha receiver hreceiver s delivery now source => ?_,
    fun s echoes h => sendings_of_isEcho h s⟩
  have hlimit : Header.width ≤ receiver.datagramLimit :=
    (Settings.validate_eq_ok_iff.1 hreceiver).2.2
  exact handleDatagram_of_isFromServer ((isFromServer_of_mem_sendings ha).take hlimit) s delivery now
    source

/-- Two clients are answered, told to dial each other and told to give up. All of this is sent back
to the server, from its own address, while their session is live: no answer comes, and both clients
keep waiting for each other. When the cookie is in use with another version, the header of the first
answer alone is refused for its version. -/
theorem reflected_datagrams_die_out_of_two :
    ∃ start, bind .isolated {} = .ok start ∧
      let sent : Delivery := fun _ _ => none
      let paired : List Turn := [.ofPacket (.probeOf 1), .ofPacket (.probeOf 2)]
      let turns := paired ++ [⟨.retry 0, 0, sent⟩, ⟨.expire 0, 30000, sent⟩]
      let sendings := start.server.sendings turns
      let echo (a : Attempt) : Turn := ⟨.receive start.server.address a.datagram.contents, 20, sent⟩
      let s := start.server.after paired
      let receiver : Settings := { datagramLimit := 12 }
      let other := start.server.after
        [⟨.handle start.server.address (Header.forCommand 2 .connectPing 7).encode, 0, sent⟩]
      sendings.map (·.datagram.command?) = [some .initReply, some .initReply, some .connectRequest,
          some .connectRequest, some .reportReply, some .reportReply] ∧
        s.sendings (sendings.map echo) = [] ∧
        (s.after (sendings.map echo)).retries = [⟨0, ⟨1, 2⟩, 0⟩] ∧
        receiver.validate = .ok () ∧
        ∀ a ∈ sendings.head?,
          let outcome := other.handleDatagram sent 20 start.server.address
            (a.datagram.contents.take receiver.datagramLimit)
          outcome.result = .error (.versionMismatch 2 3) ∧ outcome.attempts = [] := by
  have hbind : bind .isolated {} = .ok _ := rfl
  refine ⟨_, hbind, ?_⟩
  intro sent paired turns sendings echo s receiver other
  have hreceiver : receiver.validate = .ok () := rfl
  have hechoes : ∀ t ∈ sendings.map echo, t.IsEcho := fun t ht => by
    obtain ⟨a, ha, rfl⟩ := List.mem_map.1 ht
    exact ⟨_, turns, a, ha, _, .inl rfl⟩
  obtain ⟨hsilent, honly⟩ := reflected_datagrams_die_out.2 s (sendings.map echo) hechoes
  refine ⟨by decide, hsilent, honly.retries.trans (by decide), hreceiver, fun a ha => ⟨?_, ?_⟩⟩
  · obtain rfl := Option.some.inj ha
    rfl
  · exact (reflected_datagrams_die_out.1 _ turns a (List.mem_of_mem_head? ha) receiver hreceiver other
      sent 20 _).2.1

end Server

end Rendezvous
