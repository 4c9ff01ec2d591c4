import Rendezvous.Proofs.Server.Run

/-!
What a live session owes to the rest of the server: nothing. A packet opens it, and from then on it
is where the packets of its cookie and its version bring it, one after the other, as if there were
no server around it. Packets of other cookies go to other sessions, packets of other versions are
refused, and neither retries nor the expiries of other sessions touch it; a session that had the
cookie before has left nothing behind.
-/
namespace Rendezvous.Server

/-! ### How a session begins -/

/-- A turn that gives a handle for the first time, and the packet for which it does. -/
structure Opens (s : Server) (t : Turn) (handle : Nat) (first : Packet) : Prop where
  packet : s.packet? t.event = some first
  before : s.registry.lease? handle = none
  after : (s.turn t).registry.lease? handle ≠ none

/-- A turn that gives a new handle brings a packet that no session answers to. -/
theorem packet?_of_new_handle {s : Server} (hsound : s.registry.Sound) {t : Turn} {handle : Nat}
    (hbefore : s.registry.lease? handle = none)
    (hafter : (s.turn t).registry.lease? handle ≠ none) :
    ∃ first, s.packet? t.event = some first ∧ s.registry.linked? first.header.cookie = none := by
  have hgiven : (s.turn t).essence.registry.lease? handle ≠ none := hafter
  cases hp : s.packet? t.event with
  | none =>
      refine absurd ?_ hgiven
      rcases essence_turn_of_no_packet hp with hturn | ⟨_, _, _, _, _, hturn⟩ | ⟨_, _, _, _, hturn⟩ |
        ⟨expired, _, _, hturn⟩
      · rw [hturn]
        exact hbefore
      · rw [hturn]
        exact hbefore
      · rw [hturn]
        exact hbefore
      · rw [hturn, Registry.lease?_expire, hbefore, Option.map_none]
  | some first =>
      refine ⟨first, rfl, ?_⟩
      cases hlinked : s.registry.linked? first.header.cookie with
      | none => rfl
      | some old =>
          refine absurd ?_ hgiven
          obtain ⟨lease, hlease, -⟩ := (hsound first.header.cookie old).1 hlinked
          show (s.turn t).core.1.lease? handle = none
          rw [core_turn_of_packet hp, Registry.route_of_linked hlinked hlease,
            Registry.lease?_setSession, hbefore, Option.map_none]

/-- A session begins with the packet that opens it, which it handles at once. -/
theorem Opens.lease? {s : Server} {t : Turn} {handle : Nat} {first : Packet}
    (h : s.Opens t handle first) (hlinked : s.registry.linked? first.header.cookie = none) :
    (s.turn t).registry.lease? handle =
      some ⟨((Session.fresh first.header.cookie first.header.version).handle first).session, true,
        t.now⟩ := by
  have hregistry := (Prod.mk.inj (core_turn_of_packet h.packet)).1
  rw [Registry.route_fst_of_not_linked hlinked] at hregistry
  have hlease := h.after
  rw [hregistry, Registry.lease?_setSession, Registry.lease?_opened] at hlease ⊢
  by_cases hnew : handle = s.registry.leases.length
  · simp [hnew]
  · simp [hnew, h.before] at hlease

/-- A handle that is given in the course of a run is given by one of its turns. -/
theorem exists_new_handle {s : Server} {handle : Nat} (turns : List Turn)
    (hbefore : s.registry.lease? handle = none)
    (hafter : (s.after turns).registry.lease? handle ≠ none) :
    ∃ earlier opening later, turns = earlier ++ opening :: later ∧
      (s.after earlier).registry.lease? handle = none ∧
      ((s.after earlier).turn opening).registry.lease? handle ≠ none := by
  induction turns generalizing s with
  | nil => exact absurd hbefore hafter
  | cons t rest ih =>
      by_cases hturn : (s.turn t).registry.lease? handle = none
      · obtain ⟨earlier, opening, later, rfl, hnone, hsome⟩ := ih hturn hafter
        exact ⟨t :: earlier, opening, later, rfl, hnone, hsome⟩
      · exact ⟨[], t, rest, rfl, hbefore, hturn⟩

/-! ### How it goes on -/

/-- The packets that a session has to handle, among those of a run: the ones of its cookie and its
version. -/
def heard (start : Session) (packets : List Packet) : List Packet :=
  packets.filter fun p => p.header.cookie = start.cookie ∧ p.header.version = start.version

theorem heard_append_of_mem {start : Session} {p : Packet}
    (hcookie : p.header.cookie = start.cookie) (hversion : p.header.version = start.version)
    (packets : List Packet) : heard start (packets ++ [p]) = heard start packets ++ [p] := by
  simp [heard, hcookie, hversion]

theorem heard_append_of_not_mem {start : Session} {p : Packet}
    (h : ¬(p.header.cookie = start.cookie ∧ p.header.version = start.version))
    (packets : List Packet) : heard start (packets ++ [p]) = heard start packets := by
  rw [heard, List.filter_append, List.filter_singleton, decide_eq_false h]
  exact List.append_nil _

/-- As long as it is open, the session of a handle is where its own packets bring it. -/
structure Follows (start : Session) (handle : Nat) (r : Registry) (packets : List Packet) :
    Prop where
  sound : r.Sound
  known : handle < r.leases.length
  session : ∀ {lease}, r.lease? handle = some lease → lease.isOpen →
    lease.session = start.after (heard start packets)

namespace Follows

variable {start : Session} {handle other : Nat} {r : Registry} {packets : List Packet}

/-- An open session still has its cookie, so it answers to it. -/
theorem linked? (h : Follows start handle r packets) {lease : Lease}
    (hlease : r.lease? handle = some lease) (hopen : lease.isOpen) :
    r.linked? start.cookie = some handle := by
  refine (h.sound start.cookie handle).2 ⟨lease, hlease, hopen, ?_⟩
  rw [h.session hlease hopen, Session.cookie_after]

/-- A packet that goes to another session is none that this one would have to handle. -/
theorem skip (h : Follows start handle r packets) {p : Packet}
    (hlinked : r.linked? p.header.cookie = some other) (hother : other ≠ handle) :
    Follows start handle r (packets ++ [p]) where
  sound := h.sound
  known := h.known
  session hlease hopen := by
    rw [heard_append_of_not_mem, h.session hlease hopen]
    rintro ⟨hcookie, -⟩
    rw [hcookie, h.linked? hlease hopen] at hlinked
    exact hother (Option.some.inj hlinked).symm

theorem opened (h : Follows start handle r packets) {cookie : UInt32}
    (hnot : r.linked? cookie = none) (now : Nat) (version : UInt8) :
    Follows start handle (r.opened now cookie version) packets where
  sound := h.sound.opened hnot now version
  known := by
    rw [Registry.length_leases_opened]
    exact Nat.lt_succ_of_lt h.known
  session hlease hopen := by
    rw [Registry.lease?_opened, if_neg h.known.ne] at hlease
    exact h.session hlease hopen

theorem handled (h : Follows start handle r packets) {lease : Lease} {p : Packet}
    (hlinked : r.linked? p.header.cookie = some other) (hlease : r.lease? other = some lease)
    (hversion : lease.session.version = p.header.version) :
    Follows start handle (r.setSession other (lease.session.handle p).session)
      (packets ++ [p]) where
  sound := h.sound.setSession hlease (Session.cookie_handle _ p)
  known := by
    rw [Registry.length_leases_setSession]
    exact h.known
  session {own} hown hopen := by
    rw [Registry.lease?_setSession] at hown
    obtain ⟨old, hold, rfl⟩ := Option.map_eq_some_iff.1 hown
    by_cases hother : other = handle
    · subst hother
      obtain rfl := Option.some.inj (hlease.symm.trans hold)
      -- A packet that comes by the link and passes the version check is one of its own.
      obtain ⟨hlive, hcookie⟩ := h.sound.of_linked? hlinked hlease
      have hsession := h.session hlease hlive
      rw [hsession, Session.cookie_after] at hcookie
      rw [hsession, Session.version_after] at hversion
      rw [if_pos rfl, heard_append_of_mem hcookie.symm hversion.symm, Session.after_append,
        ← hsession]
      rfl
    · rw [if_neg (Ne.symm hother)] at hopen ⊢
      exact (h.skip hlinked hother).session hold hopen

theorem refused (h : Follows start handle r packets) {lease : Lease} {p : Packet}
    (hlinked : r.linked? p.header.cookie = some other) (hlease : r.lease? other = some lease)
    (hversion : lease.session.version ≠ p.header.version) :
    Follows start handle r (packets ++ [p]) := by
  by_cases hother : other = handle
  · subst hother
    refine ⟨h.sound, h.known, fun {own} hown hopen => ?_⟩
    obtain rfl := Option.some.inj (hlease.symm.trans hown)
    have hsession := h.session hlease hopen
    rw [heard_append_of_not_mem, hsession]
    rintro ⟨-, hsame⟩
    rw [hsession, Session.version_after] at hversion
    exact hversion hsame.symm
  · exact h.skip hlinked hother

theorem expired (h : Follows start handle r packets) {lease : Lease}
    (hlease : r.lease? other = some lease) :
    Follows start handle (r.expire other).1 packets where
  sound := h.sound.expire hlease
  known := by
    rw [Registry.length_leases_expire]
    exact h.known
  session {own} hown hopen := by
    rw [Registry.lease?_expire] at hown
    obtain ⟨old, hold, rfl⟩ := Option.map_eq_some_iff.1 hown
    by_cases hother : handle = other
    · rw [if_pos hother] at hopen
      exact absurd hopen Bool.false_ne_true
    · rw [if_neg hother] at hopen ⊢
      exact h.session hold hopen

end Follows

theorem follows_stable (start : Session) (handle : Nat) :
    Stable fun r _ packets => Follows start handle r packets where
  opened now _ version hnot h := h.opened hnot now version
  handled _ _ hlinked hlease hversion h := h.handled hlinked hlease hversion
  refused hlinked hlease hversion h := h.refused hlinked hlease hversion
  ended _ _ h := h
  delayed _ _ h := h
  expired hlease h := h.expired hlease

/-- A session that has handled the packet that opened it is where that packet brings it. -/
theorem Opens.follows {s : Server} (hsound : s.registry.Sound) {t : Turn} {handle : Nat}
    {first : Packet} (h : s.Opens t handle first)
    (hlinked : s.registry.linked? first.header.cookie = none) :
    Follows (.fresh first.header.cookie first.header.version) handle (s.turn t).registry
      [first] where
  sound := sound_after hsound [t]
  known := Registry.lt_length_of_lease? (h.lease? hlinked)
  session hlease _ := by
    obtain rfl := Option.some.inj ((h.lease? hlinked).symm.trans hlease)
    rw [← List.nil_append [first], heard_append_of_mem rfl rfl]
    rfl

/-- A live session is the one that its first packet opened, after the packets of its cookie and of
the version of the first, in their order, from the first one on, and after no others: in every state
of every run, whatever else the server takes, and whatever becomes of its datagrams. -/
theorem live_session_is_its_own_packets {network : Network} {settings : Settings}
    {start : Outcome} (hbind : bind network settings = .ok start) (turns : List Turn)
    {cookie : UInt32} {handle : Nat}
    (hlinked : (start.server.after turns).registry.linked? cookie = some handle) :
    ∃ earlier opening later first lease,
      turns = earlier ++ opening :: later ∧
      (start.server.after earlier).Opens opening handle first ∧
      first.header.cookie = cookie ∧
      (start.server.after turns).registry.lease? handle = some lease ∧
      lease.session = (Session.fresh cookie first.header.version).after
        (((start.server.after earlier).packets (opening :: later)).filter fun p =>
          p.header.cookie = cookie ∧ p.header.version = first.header.version) := by
  obtain ⟨hregistry, -⟩ := bind_eq_ok hbind
  have hempty : start.server.registry.Sound := hregistry ▸ Registry.sound_empty
  obtain ⟨lease, hlease, hopen, hcookie⟩ := (sound_after hempty turns cookie handle).1 hlinked
  have hbefore : start.server.registry.lease? handle = none := by
    simp [hregistry, Registry.empty, Registry.lease?]
  obtain ⟨earlier, opening, later, rfl, hnone, hsome⟩ :=
    exists_new_handle turns hbefore (by simp [hlease])
  have hsound := sound_after hempty earlier
  obtain ⟨first, hpacket, hfree⟩ := packet?_of_new_handle hsound hnone hsome
  have hopens : (start.server.after earlier).Opens opening handle first := ⟨hpacket, hnone, hsome⟩
  have hfollows := (follows_stable _ handle).after (sound_after hsound [opening]) later
    (hopens.follows hsound hfree)
  rw [after_append] at hlease ⊢
  have hsession := hfollows.session hlease hopen
  have hfirst : first.header.cookie = cookie := by
    rw [← hcookie, hsession, Session.cookie_after]
    rfl
  subst hfirst
  refine ⟨earlier, opening, later, first, lease, rfl, hopens, rfl, hlease, ?_⟩
  rw [hsession, packets, hpacket]
  rfl

/-- A cookie whose first session has expired, another cookie, another version, and a retry whose
datagrams are lost: the second session of the cookie has handled its own two packets. -/
theorem live_session_is_its_own_packets_of_reopened :
    ∃ start, bind .isolated {} = .ok start ∧
      let probeFrom (version : UInt8) (index : UInt8) (cookie : UInt32) : Packet :=
        { Packet.probeOf index with header := .forCommand version .initRequest cookie }
      let expiry : Turn := ⟨.expire 0, 30000, fun _ _ => none⟩
      let lost : Turn := ⟨.retry 0, 30500, fun _ _ => some .networkUnreachable⟩
      let turns := [.ofPacket (probeFrom 3 0 7), expiry, .ofPacket (probeFrom 2 0 8),
        .ofPacket (probeFrom 3 1 7), .ofPacket (probeFrom 2 3 7), .ofPacket (probeFrom 3 2 7), lost]
      (start.server.after turns).registry.linked? 7 = some 2 ∧
        ∃ earlier opening later first lease,
          turns = earlier ++ opening :: later ∧
          (start.server.after earlier).Opens opening 2 first ∧
          first.header.cookie = 7 ∧
          (start.server.after turns).registry.lease? 2 = some lease ∧
          lease.session = (Session.fresh 7 first.header.version).after
            (((start.server.after earlier).packets (opening :: later)).filter fun p =>
              p.header.cookie = 7 ∧ p.header.version = first.header.version) := by
  have hbind : bind .isolated {} = .ok _ := rfl
  refine ⟨_, hbind, ?_⟩
  intro probeFrom expiry lost turns
  exact ⟨by decide, live_session_is_its_own_packets hbind turns (by decide)⟩

end Rendezvous.Server
