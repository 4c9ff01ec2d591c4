import Rendezvous.Proofs.Packet.Header
import Rendezvous.Proofs.Server.Failures
import Rendezvous.Proofs.Session.Truncation

/-!
Datagrams that are longer than the buffer that receives them. What is left of such a datagram has
the same header, so it goes to the same session, or opens the same one. There it does what the whole
datagram would have done, or it is dropped as malformed and has touched nothing; it is never taken
for something else.
-/
namespace Rendezvous

/-! ### Sessions and where they come from -/

/-- What is settled about a session when it is opened, and whether it is still open. -/
def Lease.origin (l : Lease) : UInt32 × UInt8 × Nat × Bool :=
  (l.session.cookie, l.session.version, l.createdAt, l.isOpen)

theorem Session.identity_accept (s : Session) (p : Packet) :
    (s.accept p.header p.payload p.source).session.cookie = s.cookie ∧
      (s.accept p.header p.payload p.source).session.version = s.version := by
  by_cases hversion : s.version = p.header.version
  · rw [accept_of_version hversion]
    exact ⟨cookie_handle s p, version_handle s p⟩
  · rw [accept_of_other_version hversion]
    exact ⟨rfl, rfl⟩

/-- A packet opens what its look-up opens, and touches the links and origins of no session. -/
theorem Registry.origin_route (r : Registry) (now : Nat) (p : Packet) :
    (r.route now p).1.links = (r.enter now p.header.cookie p.header.version).registry.links ∧
      ∀ handle, ((r.route now p).1.lease? handle).map Lease.origin =
        ((r.enter now p.header.cookie p.header.version).registry.lease? handle).map
          Lease.origin := by
  unfold route
  generalize r.enter now p.header.cookie p.header.version = entrance
  dsimp only
  cases hlease : entrance.registry.lease? entrance.handle with
  | none => exact ⟨rfl, fun _ => rfl⟩
  | some lease =>
      obtain ⟨hcookie, hversion⟩ := lease.session.identity_accept p
      dsimp only
      refine ⟨by rw [setSession, hlease]; rfl, fun handle => ?_⟩
      rw [lease?_setSession, Option.map_map]
      by_cases hhandle : handle = entrance.handle
      · simp [hhandle, hlease, Lease.origin, hcookie, hversion]
      · simp [hhandle, Function.comp_def]

namespace Server

/-- The same outcome, but for what is logged. -/
structure Outcome.Agrees (a b : Outcome) : Prop where
  server : a.server = b.server
  result : a.result = b.result
  attempts : a.attempts = b.attempts

theorem Outcome.Agrees.refl (a : Outcome) : a.Agrees a :=
  ⟨rfl, rfl, rfl⟩

variable {s : Server} {delivery : Delivery} {now : Nat} {source : SocketAddress}
  {datagram : Wire.Bytes} {failure : Failure}

theorem process_agrees (s : Server) (delivery : Delivery) (now handle : Nat) (session : Session)
    (header : Header) {part whole : Wire.Bytes} {source : SocketAddress}
    (h : (session.accept header part source).Agrees (session.accept header whole source)) :
    (s.process delivery now handle session header part source).Agrees
      (s.process delivery now handle session header whole source) := by
  obtain ⟨hsession, hresult, hreplies⟩ := h
  simp only [process, hsession, hresult, hreplies]
  cases (session.accept header whole source).result with
  | error failure => exact ⟨rfl, rfl, rfl⟩
  | ok edges => exact ⟨rfl, rfl, rfl⟩

/-- What is left of a datagram behind its header has the same effect, or is malformed. -/
theorem handleDatagram_take {limit : Nat} (hlimit : Header.width ≤ limit) (s : Server)
    (delivery : Delivery) (now : Nat) (source : SocketAddress) (datagram : Wire.Bytes) :
    Malformed (s.handleDatagram delivery now source (datagram.take limit)).result ∨
      (s.handleDatagram delivery now source (datagram.take limit)).Agrees
        (s.handleDatagram delivery now source datagram) := by
  unfold handleDatagram
  rw [Header.decode_take hlimit]
  cases Header.decode datagram with
  | error failure => exact .inr (.refl _)
  | ok decoded =>
      obtain ⟨header, payload⟩ := decoded
      dsimp only [Except.map]
      cases header.command? with
      | none => exact .inr (.refl _)
      | some command =>
          dsimp only
          split
          · exact .inr (.refl _)
          · cases hlease : (s.enter now header).1.registry.lease? (s.enter now header).2.1 with
            | none => exact .inr (.refl _)
            | some lease =>
                dsimp only
                rcases lease.session.accept_cut ⟨header, payload, source⟩ (limit - Header.width)
                  with ⟨failure, hkind, hrefused⟩ | hagrees
                · refine .inl ⟨failure, ?_, hkind⟩
                  simp [process, hrefused, Session.refuse]
                · obtain ⟨hserver, hresult, hattempts⟩ :=
                    process_agrees (s.enter now header).1 delivery now (s.enter now header).2.1
                      lease.session header hagrees
                  exact .inr ⟨hserver, hresult, hattempts⟩

/-! ### What is left of a packet -/

theorem ofDatagram?_take {limit : Nat} (hlimit : Header.width ≤ limit) (source : SocketAddress)
    (datagram : Wire.Bytes) :
    Packet.ofDatagram? source (datagram.take limit) =
      (Packet.ofDatagram? source datagram).map (·.cut (limit - Header.width)) := by
  unfold Packet.ofDatagram?
  rw [Header.decode_take hlimit]
  cases Header.decode datagram with
  | error failure => rfl
  | ok decoded =>
      obtain ⟨header, payload⟩ := decoded
      dsimp only [Except.map]
      cases header.command? with
      | none => rfl
      | some command =>
          dsimp only
          split
          · rfl
          · rfl

/-- Both datagrams go to the same session, or open the same one. -/
theorem opened_alike {limit : Nat} (hlimit : Header.width ≤ limit) (s : Server)
    (delivery : Delivery) (now : Nat) (source : SocketAddress) (datagram : Wire.Bytes) :
    let whole := (s.handleDatagram delivery now source datagram).server
    let cut := (s.handleDatagram delivery now source (datagram.take limit)).server
    cut.registry.links = whole.registry.links ∧ cut.expiries = whole.expiries ∧
      ∀ handle, (cut.registry.lease? handle).map Lease.origin =
        (whole.registry.lease? handle).map Lease.origin := by
  intro whole cut
  have hwhole : whole.essence = _ := essence_handleDatagram s delivery now source datagram
  have hcut : cut.essence = _ :=
    essence_handleDatagram s delivery now source (datagram.take limit)
  rw [ofDatagram?_take hlimit] at hcut
  show cut.essence.registry.links = whole.essence.registry.links ∧
    cut.essence.expiries = whole.essence.expiries ∧
    ∀ handle, (cut.essence.registry.lease? handle).map Lease.origin =
      (whole.essence.registry.lease? handle).map Lease.origin
  rw [hcut, hwhole]
  cases Packet.ofDatagram? source datagram with
  | none => exact ⟨rfl, rfl, fun _ => rfl⟩
  | some p =>
      obtain ⟨hlinks, horigin⟩ := s.registry.origin_route now p
      obtain ⟨hlinks', horigin'⟩ := s.registry.origin_route now (p.cut (limit - Header.width))
      exact ⟨hlinks'.trans hlinks.symm, rfl, fun handle =>
        (horigin' handle).trans (horigin handle).symm⟩

/-- A malformed datagram sends nothing and leaves no more behind than a look-up does. -/
theorem onlyOpens_of_malformed
    (hresult : (s.handleDatagram delivery now source datagram).result = .error failure)
    (hkind : failure.kind = .malformed) :
    (s.handleDatagram delivery now source datagram).attempts = [] ∧
      s.OnlyOpens (s.handleDatagram delivery now source datagram).server := by
  rcases handleDatagram_eq_error hresult with ⟨-, hserver, hattempts⟩ |
    ⟨p, lease, hp, hlease, haccept, hattempts⟩
  · exact ⟨hattempts, .of_essence_eq (congrArg essence hserver)⟩
  · have hsilent : (lease.session.accept p.header p.payload p.source).replies = [] := by
      refine (Session.fails_of_accept_eq_error haccept).replies_eq_nil ?_
      rintro established received rfl
      cases hkind
    refine ⟨by rw [hattempts, hsilent]; rfl, ?_⟩
    exact .of_enter (core_handleDatagram_of_error delivery hp hlease haccept)

/-- Cutting a datagram to a limit that settings can have never changes what it means. Either what is
left of it has the same outcome, but for what is logged; or it is malformed, and then it sends
nothing, starts no retry, leaves every session as it was, and at most opens one without clients.
Both datagrams leave the same sessions linked, with the same cookies, versions and times of their
opening. Where what is left is handled with success, so is the whole datagram, with the same
effect. -/
theorem cut_datagram_keeps_its_meaning {receiver : Settings} (hreceiver : receiver.validate = .ok ())
    (s : Server) (delivery : Delivery) (now : Nat) (source : SocketAddress)
    (datagram : Wire.Bytes) :
    let whole := s.handleDatagram delivery now source datagram
    let cut := s.handleDatagram delivery now source (datagram.take receiver.datagramLimit)
    (cut.Agrees whole ∨
        (∃ failure, cut.result = .error failure ∧ failure.kind = .malformed) ∧
          cut.attempts = [] ∧ s.OnlyOpens cut.server) ∧
      cut.server.registry.links = whole.server.registry.links ∧
      cut.server.expiries = whole.server.expiries ∧
      (∀ handle, (cut.server.registry.lease? handle).map Lease.origin =
        (whole.server.registry.lease? handle).map Lease.origin) ∧
      (cut.result = .ok () → whole.result = .ok () ∧ cut.Agrees whole) := by
  intro whole cut
  have hlimit : Header.width ≤ receiver.datagramLimit :=
    (Settings.validate_eq_ok_iff.1 hreceiver).2.2
  have halike : Malformed cut.result ∨ cut.Agrees whole :=
    handleDatagram_take hlimit s delivery now source datagram
  obtain ⟨hlinks, hexpiries, horigin⟩ := opened_alike hlimit s delivery now source datagram
  refine ⟨?_, hlinks, hexpiries, horigin, fun hok => ?_⟩
  · rcases halike with ⟨failure, hresult, hkind⟩ | hagrees
    · exact .inr ⟨⟨failure, hresult, hkind⟩, onlyOpens_of_malformed hresult hkind⟩
    · exact .inl hagrees
  · rcases halike with ⟨failure, hresult, -⟩ | hagrees
    · rw [hok] at hresult
      cases hresult
    · exact ⟨hagrees.result.symm.trans hok, hagrees⟩

/-- A buffer of twenty-two bytes takes the stray bytes from a probe, and two clients are paired as
with them. It takes the end of its name from another probe, which is dropped without a trace. -/
theorem cut_datagram_keeps_its_meaning_of_two :
    ∃ start, bind .isolated {} = .ok start ∧
      let s := start.server.after [.ofPacket (.probeOf 1)]
      let receiver : Settings := { datagramLimit := 22 }
      let lost : Delivery := fun _ _ => some .networkUnreachable
      let source : SocketAddress := .v4 ⟨⟨192, 0, 2, 2⟩, 27900⟩
      let probe (name : Wire.Bytes) : Wire.Bytes :=
        (Header.forCommand 3 .initRequest 7).encode ++ [1, 2, 0, 0, 0, 0, 0, 0, 0] ++ name
      let handled (datagram : Wire.Bytes) := s.handleDatagram lost 10 source datagram
      let stray := handled ((probe [0, 1, 2]).take receiver.datagramLimit)
      let broken := handled ((probe [97, 98, 0]).take receiver.datagramLimit)
      receiver.validate = .ok () ∧
        stray.Agrees (handled (probe [0, 1, 2])) ∧ stray.server.retries = [⟨0, ⟨1, 2⟩, 10⟩] ∧
        broken.result = .error (.badString .unterminated) ∧ broken.attempts = [] ∧
        broken.server.retries = s.retries ∧ (handled (probe [97, 98, 0])).attempts.length = 1 := by
  have hbind : bind .isolated {} = .ok _ := rfl
  refine ⟨_, hbind, ?_⟩
  intro s receiver lost source probe handled stray broken
  have hreceiver : receiver.validate = .ok () := rfl
  have hstray : stray.result = .ok () := rfl
  have hbroken : broken.result = .error (.badString .unterminated) := rfl
  obtain ⟨-, -, -, -, hsame⟩ := cut_datagram_keeps_its_meaning hreceiver s lost 10 source
    (probe [0, 1, 2])
  obtain ⟨hmeaning, -⟩ := cut_datagram_keeps_its_meaning hreceiver s lost 10 source
    (probe [97, 98, 0])
  have hwhole : (handled (probe [97, 98, 0])).result = .error (.gameNameMismatch "" "ab") := rfl
  rcases hmeaning with hagrees | ⟨-, hsilent, honly⟩
  · exact absurd (hbroken.symm.trans (hagrees.result.trans hwhole)) (by simp)
  · exact ⟨hreceiver, (hsame hstray).2, by decide, hbroken, hsilent, honly.retries, by decide⟩

end Server

end Rendezvous
