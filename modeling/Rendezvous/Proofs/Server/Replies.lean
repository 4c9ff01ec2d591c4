import Rendezvous.Proofs.Registry.Links
import Rendezvous.Proofs.Server.Requests
import Rendezvous.Proofs.Server.Truncation
import Rendezvous.Proofs.Session.Replies

/-!
What a server answers. Of all that a datagram causes, one datagram at most goes out with it: the
acknowledgement of a probe or of a report, back to where the datagram came from. Since the decoders
insist on as many bytes as an acknowledgement has, nobody gets more bytes out of a server than were
sent in, whatever address they claim to have.
-/
namespace Rendezvous

/-- What has to be answered concerns a session. -/
theorem Packet.IsAnswered.ofDatagram?_eq {source : SocketAddress} {datagram : Wire.Bytes}
    {header : Header} {payload : Wire.Bytes}
    (h : IsAnswered ⟨header, payload, source⟩)
    (hdecode : Header.decode datagram = .ok (header, payload)) :
    ofDatagram? source datagram = some ⟨header, payload, source⟩ := by
  rcases h with ⟨hcommand, -⟩ | ⟨hcommand, -⟩
  · exact ofDatagram?_of_decode hdecode hcommand (by decide)
  · exact ofDatagram?_of_decode hdecode hcommand (by decide)

namespace Server

variable {s : Server} {delivery : Delivery} {now : Nat} {source : SocketAddress}
  {datagram : Wire.Bytes} {p : Packet}

/-- The one live session with the cookie of a packet, once the packet has been handled, is the one
that it came to. -/
theorem live_version_iff (hsound : s.registry.Sound)
    (hp : Packet.ofDatagram? source datagram = some p) {lease : Lease}
    (hlease : (s.registry.enter now p.header.cookie p.header.version).registry.lease?
      (s.registry.enter now p.header.cookie p.header.version).handle = some lease)
    (hopen : lease.isOpen) (hcookie : lease.session.cookie = p.header.cookie)
    (delivery : Delivery) (version : UInt8) :
    (∃ handle found, (s.handleDatagram delivery now source datagram).server.registry.lease? handle =
        some found ∧ found.isOpen ∧ found.session.cookie = p.header.cookie ∧
        found.session.version = version) ↔ lease.session.version = version := by
  have hregistry : (s.handleDatagram delivery now source datagram).server.registry =
      (s.registry.route now p).1 :=
    congrArg Prod.fst (core_handleDatagram_of_packet hp s delivery now)
  have hsound' : (s.registry.route now p).1.Sound :=
    hregistry ▸ sound_after hsound [⟨.handle source datagram, now, delivery⟩]
  obtain ⟨-, horigin⟩ := s.registry.origin_route now p
  have hkept := horigin (s.registry.enter now p.header.cookie p.header.version).handle
  rw [hlease, Option.map_some] at hkept
  obtain ⟨kept, hkeptLease, hsame⟩ := Option.map_eq_some_iff.1 hkept
  simp only [Lease.origin, Prod.mk.injEq] at hsame
  obtain ⟨hkeptCookie, hkeptVersion, -, hkeptOpen⟩ := hsame
  rw [hregistry]
  constructor
  · rintro ⟨handle, found, hfound, hfoundOpen, hfoundCookie, rfl⟩
    have hhandle := hsound'.eq_of_cookie hfound hfoundOpen hkeptLease (hkeptOpen.trans hopen)
      (hfoundCookie.trans (hkeptCookie.trans hcookie).symm)
    rw [hhandle, hkeptLease] at hfound
    obtain rfl := Option.some.inj hfound
    exact hkeptVersion.symm
  · rintro rfl
    exact ⟨_, kept, hkeptLease, hkeptOpen.trans hopen, hkeptCookie.trans hcookie, hkeptVersion⟩

/-- A server tries to send what its session replies to a packet. -/
theorem attempts_handleDatagram_of_packet (hp : Packet.ofDatagram? source datagram = some p)
    {lease : Lease}
    (hlease : (s.registry.enter now p.header.cookie p.header.version).registry.lease?
      (s.registry.enter now p.header.cookie p.header.version).handle = some lease)
    (hcookie : lease.session.cookie = p.header.cookie) (delivery : Delivery) :
    (s.handleDatagram delivery now source datagram).attempts = attempt delivery
      (if lease.session.version = p.header.version then
        p.reply? p.header.version p.header.cookie else none).toList := by
  have hreaction : s.registry.reaction? now p =
      some (lease.session.accept p.header p.payload p.source) := by
    simp [Registry.reaction?, hlease]
  rw [(handleDatagram_of_packet hp s delivery now).1, hreaction, Option.elim_some,
    Session.replies_accept, hcookie]
  split
  · next hversion => rw [hversion]
  · rfl

/-- In every state of every run, a datagram is answered by one datagram at most. The answer goes
back to the source of the datagram, is not longer than it, has the reply command to its command, its
version and its cookie, and repeats the first two bytes of its payload. There is an answer exactly
when the live session of the cookie, which may have been opened for the datagram, has its version,
and the datagram is a probe that can be read, even if its client is then refused, or a report of at
least nine bytes. -/
theorem at_most_one_acknowledgement {network : Network} {settings : Settings} {start : Outcome}
    (hbind : bind network settings = .ok start) (turns : List Turn) (delivery : Delivery)
    (now : Nat) (source : SocketAddress) (datagram : Wire.Bytes) :
    let s := start.server.after turns
    let outcome := s.handleDatagram delivery now source datagram
    outcome.attempts.length ≤ 1 ∧
      (∀ a ∈ outcome.attempts, ∃ header payload,
        Header.decode datagram = .ok (header, payload) ∧
        Packet.AcknowledgedBy ⟨header, payload, source⟩ header.version header.cookie a.datagram ∧
        a.datagram.contents.length ≤ datagram.length) ∧
      (outcome.attempts ≠ [] ↔ ∃ header payload,
        Header.decode datagram = .ok (header, payload) ∧
        (∃ handle lease, outcome.server.registry.lease? handle = some lease ∧ lease.isOpen ∧
          lease.session.cookie = header.cookie ∧ lease.session.version = header.version) ∧
        Packet.IsAnswered ⟨header, payload, source⟩) := by
  intro s outcome
  have hsound : s.registry.Sound := sound_stable.run Registry.sound_empty hbind turns
  cases hp : Packet.ofDatagram? source datagram with
  | none =>
      have hsilent : outcome.attempts = [] := (handleDatagram_of_no_packet hp s delivery now).2.1
      rw [hsilent]
      refine ⟨Nat.zero_le 1, nofun, iff_of_false (fun h => h rfl) ?_⟩
      rintro ⟨header, payload, hdecode, -, hanswered⟩
      rw [hanswered.ofDatagram?_eq hdecode] at hp
      cases hp
  | some p =>
      obtain ⟨lease, hlease, hopen, hcookie⟩ :=
        hsound.lease?_enter now p.header.cookie p.header.version
      obtain ⟨hdecode, rfl, -⟩ := Packet.decode_of_ofDatagram? hp
      have hattempts : outcome.attempts = _ :=
        attempts_handleDatagram_of_packet hp hlease hcookie delivery
      have hlive := live_version_iff hsound hp hlease hopen hcookie delivery p.header.version
      refine ⟨?_, fun a ha => ⟨p.header, p.payload, hdecode, ?_⟩, ?_⟩
      · rw [hattempts, attempt, List.length_mapIdx]
        exact Option.length_toList_le
      · rw [hattempts] at ha
        have hanswer := Option.mem_toList.1 (mem_attempt ha)
        split at hanswer
        · have hacknowledged := Packet.acknowledgedBy_of_reply? hanswer
          refine ⟨hacknowledged, ?_⟩
          rw [Header.eq_append_of_decode hdecode, List.length_append, Header.length_encode]
          exact hacknowledged.length_le
        · cases hanswer
      · have hanswered : (p.reply? p.header.version p.header.cookie).isSome ↔ p.IsAnswered :=
          Packet.isSome_reply?_iff
        rw [hattempts, attempt, Ne, List.mapIdx_eq_nil_iff, Option.toList_eq_nil_iff]
        constructor
        · intro hsome
          split at hsome
          · next hversion =>
            exact ⟨p.header, p.payload, hdecode, hlive.2 hversion,
              hanswered.1 (Option.isSome_iff_ne_none.2 hsome)⟩
          · exact absurd rfl hsome
        · rintro ⟨header, payload, hdecode', hsession, hasked⟩
          obtain ⟨rfl, rfl⟩ := Prod.mk.inj (Except.ok.inj (hdecode.symm.trans hdecode'))
          rw [if_pos (hlive.1 hsession)]
          exact Option.isSome_iff_ne_none.1 (hanswered.2 hasked)

/-- A client that names another game is refused and still gets its one answer; a report of a client
that nobody knows gets one, too. A probe of another version and a report of eight bytes get none. -/
theorem at_most_one_acknowledgement_of_two :
    ∃ start, bind .isolated {} = .ok start ∧
      let s := start.server.after [.ofPacket (.probeOf 1)]
      let sent : Delivery := fun _ _ => none
      let source : SocketAddress := .v4 ⟨⟨192, 0, 2, 2⟩, 27900⟩
      let packet (version : UInt8) (command : Command) (payload : Wire.Bytes) : Wire.Bytes :=
        (Header.forCommand version command 7).encode ++ payload
      let handled (datagram : Wire.Bytes) := s.handleDatagram sent 10 source datagram
      let otherGame := handled (packet 3 .initRequest [1, 2, 0, 0, 0, 0, 0, 0, 0, 97, 0])
      let report := handled (packet 3 .reportRequest [0, 2, 1, 0, 0, 0, 0, 0, 0])
      otherGame.result = .error (.gameNameMismatch "" "a") ∧ otherGame.attempts.length = 1 ∧
        (∀ a ∈ report.attempts, a.datagram.destination = source) ∧ report.attempts.length = 1 ∧
        (handled (packet 2 .initRequest [1, 2, 0, 0, 0, 0, 0, 0, 0, 0])).attempts = [] ∧
        (handled (packet 3 .reportRequest [0, 2, 1, 0, 0, 0, 0, 0])).attempts = [] := by
  have hbind : bind .isolated {} = .ok _ := rfl
  refine ⟨_, hbind, ?_⟩
  intro s sent source packet handled otherGame report
  obtain ⟨hgameOne, -, hgame⟩ := at_most_one_acknowledgement hbind [.ofPacket (.probeOf 1)] sent 10
    source (packet 3 .initRequest [1, 2, 0, 0, 0, 0, 0, 0, 0, 97, 0])
  obtain ⟨hreportOne, hacknowledged, hreport⟩ := at_most_one_acknowledgement hbind
    [.ofPacket (.probeOf 1)] sent 10 source (packet 3 .reportRequest [0, 2, 1, 0, 0, 0, 0, 0, 0])
  have hgameSome : otherGame.attempts ≠ [] :=
    hgame.2 ⟨_, _, rfl, ⟨0, _, rfl, rfl, rfl, rfl⟩, .inl ⟨rfl, _, rfl⟩⟩
  have hreportSome : report.attempts ≠ [] :=
    hreport.2 ⟨_, _, rfl, ⟨0, _, rfl, rfl, rfl, rfl⟩, .inr ⟨rfl, by decide⟩⟩
  refine ⟨rfl, Nat.le_antisymm hgameOne (List.length_pos_iff.2 hgameSome), fun a ha => ?_,
    Nat.le_antisymm hreportOne (List.length_pos_iff.2 hreportSome), by decide, by decide⟩
  obtain ⟨_, _, -, hanswer, -⟩ := hacknowledged a ha
  exact hanswer.destination

end Server

end Rendezvous
