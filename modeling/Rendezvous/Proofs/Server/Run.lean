import Rendezvous.Proofs.Registry
import Rendezvous.Proofs.Session.Settled
import Rendezvous.Server

/-!
Runs of a server. A server takes one turn after the other, at any times and with any fate of the
datagrams that it sends. What matters of a turn for the sessions and their retries is the packet
that it brings to a session, if it brings one, or else the retry or the expiry that it lets happen.

Whatever a turn does to the registry and the retries is a sequence of six changes: a session is
opened, a packet is handled by its session or refused for its version, a retry ends or goes back to
sleep, a session expires. So a property of the registry, the retries and the packets so far holds
along every run as soon as it holds at the start and each of the six changes keeps it. That
induction is done here, once.
-/
namespace Rendezvous

/-- The packet in a datagram that concerns a session: it decodes, and its command is known and
needs a session. -/
def Packet.ofDatagram? (source : SocketAddress) (datagram : Wire.Bytes) : Option Packet :=
  match Header.decode datagram with
  | .error _ => none
  | .ok (header, payload) =>
    match header.command? with
    | none => none
    | some command => if command.isStateless then none else some ⟨header, payload, source⟩

/-! ### Packets for a registry -/

namespace Registry

/-- What a packet does to its session, or to the one that it opens, and the retries that start. -/
def route (r : Registry) (now : Nat) (p : Packet) : Registry × List Retry :=
  let entrance := r.enter now p.header.cookie p.header.version
  match entrance.registry.lease? entrance.handle with
  | none => (entrance.registry, [])
  | some lease =>
    let reaction := lease.session.accept p.header p.payload p.source
    (entrance.registry.setSession entrance.handle reaction.session,
      reaction.edges.map fun edge => ⟨entrance.handle, edge, now⟩)

/-- The handle of the session that a packet with this cookie opens, if it opens one. -/
def newHandle? (r : Registry) (cookie : UInt32) : Option Nat :=
  match r.linked? cookie with
  | none => some r.leases.length
  | some _ => none

theorem route_of_linked {r : Registry} {p : Packet} {handle : Nat} {lease : Lease}
    (hlinked : r.linked? p.header.cookie = some handle) (hlease : r.lease? handle = some lease)
    (now : Nat) :
    r.route now p =
      let reaction := lease.session.accept p.header p.payload p.source
      (r.setSession handle reaction.session,
        reaction.edges.map fun edge => ⟨handle, edge, now⟩) := by
  simp [route, enter_of_linked hlinked, hlease]

/-- A packet without a session opens one and then finds it. -/
theorem route_of_not_linked {r : Registry} {p : Packet}
    (hlinked : r.linked? p.header.cookie = none) (now : Nat) :
    r.route now p = (r.opened now p.header.cookie p.header.version).route now p := by
  rw [route_of_linked (r.linked?_opened_self now p.header.cookie p.header.version)
    (r.lease?_opened_self now p.header.cookie p.header.version)]
  simp [route, enter_of_not_linked hlinked]

/-- The session that is opened has the version of the packet, so it handles it. -/
theorem route_fst_of_not_linked {r : Registry} {p : Packet}
    (hlinked : r.linked? p.header.cookie = none) (now : Nat) :
    (r.route now p).1 =
      (r.opened now p.header.cookie p.header.version).setSession r.leases.length
        ((Session.fresh p.header.cookie p.header.version).handle p).session := by
  rw [route_of_not_linked hlinked,
    route_of_linked (r.linked?_opened_self now p.header.cookie p.header.version)
      (r.lease?_opened_self now p.header.cookie p.header.version)]
  dsimp only
  rw [Session.accept_of_version rfl]

end Registry

namespace Server

/-- A step, when it is taken, and what becomes of its datagrams. -/
structure Turn where
  event : Event
  now : Nat
  delivery : Delivery

def turn (s : Server) (t : Turn) : Server :=
  (s.step t.delivery t.now t.event).server

def after (s : Server) (turns : List Turn) : Server :=
  turns.foldl turn s

/-- The datagram that a server has to handle; one from the socket is cut to the limit, and is not
received any more once the server has stopped listening. -/
def datagram? (s : Server) : Event → Option (SocketAddress × Wire.Bytes)
  | .receive source datagram =>
    if s.isListening then some (source, datagram.take s.settings.datagramLimit) else none
  | .handle source datagram => some (source, datagram)
  | .receiveFailed _ | .retry _ | .expire _ | .stop => none

/-- The packet that a turn brings to a session. -/
def packet? (s : Server) (event : Event) : Option Packet :=
  (s.datagram? event).bind fun d => Packet.ofDatagram? d.1 d.2

/-- The packets that a run brings to sessions, in their order. -/
def packets (s : Server) : List Turn → List Packet
  | [] => []
  | t :: rest => (s.packet? t.event).toList ++ (s.turn t).packets rest

theorem after_append (s : Server) (turns later : List Turn) :
    s.after (turns ++ later) = (s.after turns).after later :=
  List.foldl_append

/-! ### What a turn does -/

/-- The sessions and the retries: what one turn leaves for the others to find. -/
def core (s : Server) : Registry × List Retry :=
  (s.registry, s.retries)

/-- All of a server but what it counts and whether it listens. -/
structure Essence where
  settings : Settings
  address : SocketAddress
  registry : Registry
  retries : List Retry
  expiries : List Nat

def essence (s : Server) : Essence :=
  ⟨s.settings, s.address, s.registry, s.retries, s.expiries⟩

/-- What a packet does: its session handles it, and a session that it opens will expire. -/
def Essence.accept (e : Essence) (now : Nat) (p : Packet) : Essence :=
  { e with
    registry := (e.registry.route now p).1
    retries := e.retries ++ (e.registry.route now p).2
    expiries := e.expiries ++ (e.registry.newHandle? p.header.cookie).toList }

theorem essence_enter (s : Server) (now : Nat) (header : Header) :
    (s.enter now header).1.essence =
        ⟨s.settings, s.address, (s.registry.enter now header.cookie header.version).registry,
          s.retries, s.expiries ++ (s.registry.newHandle? header.cookie).toList⟩ ∧
      (s.enter now header).2.1 = (s.registry.enter now header.cookie header.version).handle := by
  unfold enter Registry.newHandle?
  cases hlinked : s.registry.linked? header.cookie with
  | none => simp [Registry.enter_of_not_linked hlinked, essence]
  | some handle => simp [Registry.enter_of_linked hlinked, essence]

theorem essence_process (s : Server) (delivery : Delivery) (now handle : Nat)
    (session : Session) (header : Header) (payload : Wire.Bytes) (source : SocketAddress) :
    (s.process delivery now handle session header payload source).server.essence =
      let reaction := session.accept header payload source
      ⟨s.settings, s.address, s.registry.setSession handle reaction.session,
        s.retries ++ reaction.edges.map fun edge => ⟨handle, edge, now⟩, s.expiries⟩ := by
  simp only [process, Reaction.edges]
  cases (session.accept header payload source).result with
  | error failure => simp [essence, countAttempts]
  | ok edges => simp [essence, countAttempts]

/-- A datagram matters only through the packet in it. -/
theorem essence_handleDatagram (s : Server) (delivery : Delivery) (now : Nat)
    (source : SocketAddress) (datagram : Wire.Bytes) :
    (s.handleDatagram delivery now source datagram).server.essence =
      match Packet.ofDatagram? source datagram with
      | none => s.essence
      | some p => s.essence.accept now p := by
  unfold handleDatagram Packet.ofDatagram?
  cases Header.decode datagram with
  | error failure => rfl
  | ok decoded =>
      obtain ⟨header, payload⟩ := decoded
      cases hcommand : header.command? with
      | none => simp [hcommand, quiet]
      | some command =>
          by_cases hstateless : command.isStateless
          · simp [hcommand, hstateless, quiet]
          · obtain ⟨hessence, hhandle⟩ := essence_enter s now header
            rcases hentered : s.enter now header with ⟨entered, handle, opened⟩
            rw [hentered] at hessence hhandle
            simp only [essence, Essence.mk.injEq] at hessence
            obtain ⟨hsettings, haddress, hregistry, hretries, hexpiries⟩ := hessence
            simp only [hcommand, hstateless, hentered, Bool.false_eq_true, if_false, essence,
              Essence.accept, Registry.route, ← hregistry, ← hhandle, ← hretries, ← hexpiries,
              ← hsettings, ← haddress]
            cases hlease : entered.registry.lease? handle with
            | none => simp [quiet]
            | some lease =>
                exact essence_process entered delivery now handle lease.session header payload
                  source

theorem core_handleDatagram_of_packet {source : SocketAddress} {datagram : Wire.Bytes} {p : Packet}
    (hp : Packet.ofDatagram? source datagram = some p) (s : Server) (delivery : Delivery)
    (now : Nat) :
    (s.handleDatagram delivery now source datagram).server.core =
      ((s.registry.route now p).1, s.retries ++ (s.registry.route now p).2) := by
  have hessence := essence_handleDatagram s delivery now source datagram
  rw [hp] at hessence
  exact congrArg (fun e : Essence => (e.registry, e.retries)) hessence

/-- The socket counts a datagram before it is handled, and a failure afterwards; nothing else is
different from a datagram without the socket. -/
theorem receive_of_listening {s : Server} (hlistening : s.isListening) (delivery : Delivery)
    (now : Nat) (source : SocketAddress) (datagram : Wire.Bytes) :
    ∃ counted : Server, counted.essence = s.essence ∧
      let handled := counted.handleDatagram delivery now source
        (datagram.take s.settings.datagramLimit)
      (s.receive delivery now source datagram).server.essence = handled.server.essence ∧
        (s.receive delivery now source datagram).attempts = handled.attempts := by
  rw [receive, if_pos hlistening]
  refine ⟨{ s with
    traffic := s.traffic.countReceived (datagram.take s.settings.datagramLimit).length }, rfl, ?_⟩
  dsimp only
  split
  · exact ⟨rfl, rfl⟩
  · exact ⟨rfl, rfl⟩

theorem essence_turn_of_datagram {s : Server} {t : Turn} {source : SocketAddress}
    {datagram : Wire.Bytes} (hd : s.datagram? t.event = some (source, datagram)) :
    (s.turn t).essence =
      match Packet.ofDatagram? source datagram with
      | none => s.essence
      | some p => s.essence.accept t.now p := by
  obtain ⟨event, now, delivery⟩ := t
  cases event with
  | receive sender received =>
      simp only [datagram?] at hd
      split at hd
      · next hlistening =>
        obtain ⟨rfl, rfl⟩ := Prod.mk.inj (Option.some.inj hd)
        obtain ⟨counted, hcounted, hserver, -⟩ :=
          receive_of_listening hlistening delivery now sender received
        simp only [turn, step]
        rw [hserver, essence_handleDatagram, hcounted]
      · cases hd
  | handle sender handled =>
      obtain ⟨rfl, rfl⟩ := Prod.mk.inj (Option.some.inj hd)
      exact essence_handleDatagram s delivery now _ _
  | receiveFailed cause => cases hd
  | retry place => cases hd
  | expire handle => cases hd
  | stop => cases hd

theorem essence_turn_of_packet {s : Server} {t : Turn} {p : Packet}
    (hp : s.packet? t.event = some p) : (s.turn t).essence = s.essence.accept t.now p := by
  obtain ⟨⟨source, datagram⟩, hd, hdatagram⟩ := Option.bind_eq_some_iff.1 hp
  dsimp only at hdatagram
  rw [essence_turn_of_datagram hd, hdatagram]

theorem core_turn_of_packet {s : Server} {t : Turn} {p : Packet} (hp : s.packet? t.event = some p) :
    (s.turn t).core =
      ((s.registry.route t.now p).1, s.retries ++ (s.registry.route t.now p).2) :=
  congrArg (fun e : Essence => (e.registry, e.retries)) (essence_turn_of_packet hp)

/-- A retry that wakes up ends without a word, because its session is closed or its edge has
settled, or it sends what the edge needs and sleeps on; it touches nothing else. -/
theorem essence_wake {s : Server} {place : Nat} {retry : Retry}
    (hretry : s.retries[place]? = some retry) (delivery : Delivery) (now : Nat) :
    ((∀ lease, s.registry.lease? retry.handle = some lease → lease.isOpen →
          lease.session.Settled retry.edge) ∧
        (s.wake delivery now place).attempts = [] ∧
        (s.wake delivery now place).server.essence =
          { s.essence with retries := s.retries.eraseIdx place }) ∨
      ∃ lease datagrams, s.registry.lease? retry.handle = some lease ∧ lease.isOpen ∧
        (lease.session.retryStep retry.edge).1 = .pending datagrams ∧
        (s.wake delivery now place).attempts = attempt delivery datagrams ∧
        (s.wake delivery now place).server.essence =
          { s.essence with
            retries :=
              s.retries.set place { retry with due := now + s.settings.retryInterval } } := by
  unfold wake
  rw [hretry]
  dsimp only
  cases hlease : s.registry.lease? retry.handle with
  | none => exact .inl ⟨by simp, rfl, rfl⟩
  | some lease =>
      dsimp only
      by_cases hopen : lease.isOpen
      · rw [if_pos hopen]
        split
        · next hstep =>
          refine .inl ⟨?_, rfl, rfl⟩
          rintro _ heq -
          obtain rfl := Option.some.inj heq
          exact congrArg Prod.fst hstep
        · next datagrams _ hstep =>
          exact .inr ⟨lease, datagrams, rfl, hopen, congrArg Prod.fst hstep, rfl, rfl⟩
      · rw [if_neg hopen]
        refine .inl ⟨?_, rfl, rfl⟩
        rintro _ heq hopen'
        obtain rfl := Option.some.inj heq
        exact absurd hopen' hopen

/-- An expiry that is to come closes its session, and is not to come any more. -/
theorem essence_expire {s : Server} {handle : Nat} (hdue : handle ∈ s.expiries)
    (delivery : Delivery) :
    (s.expire delivery handle).server.essence =
      { s.essence with
        registry := (s.registry.expire handle).1
        expiries := s.expiries.erase handle } := by
  unfold expire
  rw [if_pos hdue]
  dsimp only
  cases hlease : s.registry.lease? handle with
  | none => simp [quiet, Registry.expire, hlease, essence]
  | some lease => rfl

/-- What a turn does that brings no packet to a session: nothing, or it lets a retry wake up, or a
session expire. -/
theorem essence_turn_of_no_packet {s : Server} {t : Turn} (hp : s.packet? t.event = none) :
    (s.turn t).essence = s.essence ∨
      (∃ place retry, t.event = .retry place ∧ s.retries[place]? = some retry ∧
        (∀ lease, s.registry.lease? retry.handle = some lease → lease.isOpen →
          lease.session.Settled retry.edge) ∧
        (s.turn t).essence = { s.essence with retries := s.retries.eraseIdx place }) ∨
      (∃ place retry, t.event = .retry place ∧ s.retries[place]? = some retry ∧
        (s.turn t).essence =
          { s.essence with
            retries :=
              s.retries.set place { retry with due := t.now + s.settings.retryInterval } }) ∨
      ∃ handle, t.event = .expire handle ∧ handle ∈ s.expiries ∧
        (s.turn t).essence =
          { s.essence with
            registry := (s.registry.expire handle).1
            expiries := s.expiries.erase handle } := by
  obtain ⟨event, now, delivery⟩ := t
  -- A datagram without a packet in it changes nothing.
  have hdatagram {source datagram} (hd : s.datagram? event = some (source, datagram)) :
      (s.turn ⟨event, now, delivery⟩).essence = s.essence := by
    have hnone : Packet.ofDatagram? source datagram = none := by
      simpa [packet?, hd] using hp
    rw [essence_turn_of_datagram hd, hnone]
  cases event with
  | receive sender received =>
      by_cases hlistening : s.isListening
      · exact .inl (hdatagram (if_pos hlistening))
      · refine .inl ?_
        simp [turn, step, receive, hlistening, quiet]
  | receiveFailed cause =>
      refine .inl ?_
      unfold turn step receiveFailed
      dsimp only
      split
      · rfl
      · rfl
  | handle sender handled => exact .inl (hdatagram rfl)
  | retry place =>
      cases hretry : s.retries[place]? with
      | none =>
          refine .inl ?_
          simp [turn, step, wake, hretry, quiet]
      | some retry =>
          rcases essence_wake hretry delivery now with ⟨hsettled, -, hended⟩ |
            ⟨_, _, -, -, -, -, hdelayed⟩
          · exact .inr (.inl ⟨place, retry, rfl, hretry, hsettled, hended⟩)
          · exact .inr (.inr (.inl ⟨place, retry, rfl, hretry, hdelayed⟩))
  | expire handle =>
      by_cases hdue : handle ∈ s.expiries
      · exact .inr (.inr (.inr ⟨handle, rfl, hdue, essence_expire hdue delivery⟩))
      · refine .inl ?_
        simp [turn, step, expire, hdue, quiet]
  | stop =>
      refine .inl ?_
      unfold turn step stop
      dsimp only
      split
      · rfl
      · rfl

/-! ### What the six changes keep -/

/-- Each of the six changes keeps the property. -/
structure Stable (P : Registry → List Retry → List Packet → Prop) : Prop where
  opened : ∀ {r retries packets} (now : Nat) {cookie : UInt32} (version : UInt8),
    r.linked? cookie = none → P r retries packets → P (r.opened now cookie version) retries packets
  handled : ∀ {r retries packets handle lease} (now : Nat) {p : Packet},
    r.linked? p.header.cookie = some handle → r.lease? handle = some lease →
    lease.session.version = p.header.version → P r retries packets →
    P (r.setSession handle (lease.session.handle p).session)
      (retries ++ (lease.session.handle p).edges.map fun edge => ⟨handle, edge, now⟩)
      (packets ++ [p])
  refused : ∀ {r retries packets handle lease} {p : Packet},
    r.linked? p.header.cookie = some handle → r.lease? handle = some lease →
    lease.session.version ≠ p.header.version → P r retries packets →
    P r retries (packets ++ [p])
  ended : ∀ {r retries packets} {place : Nat} {retry : Retry}, retries[place]? = some retry →
    (∀ lease, r.lease? retry.handle = some lease → lease.isOpen →
      lease.session.Settled retry.edge) →
    P r retries packets → P r (retries.eraseIdx place) packets
  delayed : ∀ {r retries packets} {place : Nat} {retry : Retry} (due : Nat),
    retries[place]? = some retry → P r retries packets →
    P r (retries.set place { retry with due := due }) packets
  expired : ∀ {r retries packets handle lease}, r.lease? handle = some lease →
    P r retries packets → P (r.expire handle).1 retries packets

namespace Stable

variable {P : Registry → List Retry → List Packet → Prop} {r : Registry} {retries : List Retry}
  {packets : List Packet} {s : Server}

theorem route_linked (h : Stable P) {handle : Nat} {lease : Lease} {p : Packet}
    (hlinked : r.linked? p.header.cookie = some handle) (hlease : r.lease? handle = some lease)
    (now : Nat) (hr : P r retries packets) :
    P (r.route now p).1 (retries ++ (r.route now p).2) (packets ++ [p]) := by
  rw [Registry.route_of_linked hlinked hlease]
  by_cases hversion : lease.session.version = p.header.version
  · rw [Session.accept_of_version hversion]
    exact h.handled now hlinked hlease hversion hr
  · rw [Session.accept_of_other_version hversion]
    simpa [Session.refuse, Reaction.edges, Registry.setSession_self hlease] using
      h.refused hlinked hlease hversion hr

theorem route (h : Stable P) (hsound : r.Sound) (now : Nat) (p : Packet)
    (hr : P r retries packets) :
    P (r.route now p).1 (retries ++ (r.route now p).2) (packets ++ [p]) := by
  cases hlinked : r.linked? p.header.cookie with
  | none =>
      rw [Registry.route_of_not_linked hlinked]
      have hopened := h.opened now p.header.version hlinked hr
      exact h.route_linked (r.linked?_opened_self now _ _) (r.lease?_opened_self now _ _) now
        hopened
  | some handle =>
      obtain ⟨lease, hlease, -⟩ := (hsound p.header.cookie handle).1 hlinked
      exact h.route_linked hlinked hlease now hr

theorem turn (h : Stable P) (hsound : s.registry.Sound) (t : Turn)
    (hs : P s.registry s.retries packets) :
    P (s.turn t).registry (s.turn t).retries (packets ++ (s.packet? t.event).toList) := by
  show P (s.turn t).essence.registry (s.turn t).essence.retries
    (packets ++ (s.packet? t.event).toList)
  cases hp : s.packet? t.event with
  | none =>
      rw [Option.toList_none, List.append_nil]
      rcases essence_turn_of_no_packet hp with hsame | ⟨place, retry, -, hretry, hsettled, hended⟩ |
        ⟨place, retry, -, hretry, hdelayed⟩ | ⟨handle, -, -, hexpired⟩
      · rw [hsame]
        exact hs
      · rw [hended]
        exact h.ended hretry hsettled hs
      · rw [hdelayed]
        exact h.delayed (t.now + s.settings.retryInterval) hretry hs
      · rw [hexpired]
        cases hlease : s.registry.lease? handle with
        | none => simpa [Registry.expire, hlease, essence] using hs
        | some lease => exact h.expired hlease hs
  | some p =>
      rw [essence_turn_of_packet hp]
      exact h.route hsound t.now p hs

end Stable

theorem sound_stable : Stable fun r _ _ => r.Sound where
  opened now _ version hnot h := h.opened hnot now version
  handled _ _ _ hlease _ h := h.setSession hlease (Session.cookie_handle _ _)
  refused _ _ _ h := h
  ended _ _ h := h
  delayed _ _ h := h
  expired hlease h := h.expire hlease

namespace Stable

variable {P : Registry → List Retry → List Packet → Prop} {packets : List Packet} {s : Server}

theorem after (h : Stable P) (hsound : s.registry.Sound) (turns : List Turn)
    (hs : P s.registry s.retries packets) :
    P (s.after turns).registry (s.after turns).retries (packets ++ s.packets turns) := by
  induction turns generalizing s packets with
  | nil =>
      rw [Server.packets, List.append_nil]
      exact hs
  | cons t rest ih =>
      have hturn := h.turn hsound t hs
      have hsound' : (s.turn t).registry.Sound := @turn _ [] s sound_stable hsound t hsound
      rw [Server.packets, ← List.append_assoc]
      exact ih hsound' hturn

end Stable

theorem sound_after {s : Server} (h : s.registry.Sound) (turns : List Turn) :
    (s.after turns).registry.Sound :=
  @Stable.after _ [] s sound_stable h turns h

/-! ### From the beginning -/

theorem server_of_bind {network : Network} {settings : Settings} {start : Outcome}
    (h : bind network settings = .ok start) :
    ∃ valid address, start.server = Server.start settings valid address := by
  unfold bind at h
  split at h
  · cases h
  · split at h
    · cases h
    · obtain rfl := Except.ok.inj h
      exact ⟨_, _, rfl⟩

/-- A server begins without sessions and without retries. -/
theorem bind_eq_ok {network : Network} {settings : Settings} {start : Outcome}
    (h : bind network settings = .ok start) :
    start.server.registry = .empty ∧ start.server.retries = [] := by
  obtain ⟨valid, address, hserver⟩ := server_of_bind h
  rw [hserver]
  exact ⟨rfl, rfl⟩

/-- What the six changes keep holds along every run of a server. -/
theorem Stable.run {P : Registry → List Retry → List Packet → Prop} (h : Stable P)
    (hstart : P .empty [] []) {network : Network} {settings : Settings} {start : Outcome}
    (hbind : bind network settings = .ok start) (turns : List Turn) :
    P (start.server.after turns).registry (start.server.after turns).retries
      (start.server.packets turns) := by
  obtain ⟨hregistry, hretries⟩ := bind_eq_ok hbind
  have hsound : start.server.registry.Sound := hregistry ▸ Registry.sound_empty
  rw [← List.nil_append (start.server.packets turns)]
  refine h.after hsound turns ?_
  rw [hregistry, hretries]
  exact hstart

/-! ### Small turns -/

/-- A packet comes in, and all that the server sends then goes out. -/
def Turn.ofPacket (p : Packet) : Turn where
  event := .handle p.source (p.header.encode ++ p.payload)
  now := 0
  delivery _ _ := none

end Server

end Rendezvous
