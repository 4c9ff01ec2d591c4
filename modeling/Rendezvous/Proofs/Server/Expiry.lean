import Rendezvous.Proofs.Server.Retries
import Rendezvous.Proofs.Session.Cancellations

/-!
The expiries of a server. Every session has one expiry, which is to come as long as the session is
open and never again after it. When it comes, each client in the middle of an attempt is told to
give up, at the address for its signalling, and nobody else is told anything.
-/
namespace Rendezvous.Server

variable {s : Server} {t : Turn} {handle : Nat}

/-! ### What a turn does to the expiries -/

/-- An expiry that is to come closes its session, and is not to come any more. -/
theorem turn_of_expiry (hevent : t.event = .expire handle) (hdue : handle ∈ s.expiries) :
    (s.turn t).registry = (s.registry.expire handle).1 ∧
      (s.turn t).expiries = s.expiries.erase handle := by
  obtain ⟨event, now, delivery⟩ := t
  obtain rfl : event = .expire handle := hevent
  have hturn := essence_expire hdue delivery
  exact ⟨congrArg Essence.registry hturn, congrArg Essence.expiries hturn⟩

/-- A turn that brings no packet to a session leaves the sessions and the expiries to come as they
are, or it is an expiry that was to come. -/
theorem expiries_turn_of_no_packet (hp : s.packet? t.event = none) :
    (s.turn t).registry = s.registry ∧ (s.turn t).expiries = s.expiries ∨
      ∃ handle, t.event = .expire handle ∧ handle ∈ s.expiries ∧
        (s.turn t).registry = (s.registry.expire handle).1 ∧
        (s.turn t).expiries = s.expiries.erase handle := by
  have hfields {e : Essence} (hturn : (s.turn t).essence = e) :
      (s.turn t).registry = e.registry ∧ (s.turn t).expiries = e.expiries :=
    ⟨congrArg Essence.registry hturn, congrArg Essence.expiries hturn⟩
  rcases essence_turn_of_no_packet hp with hturn | ⟨_, _, _, _, _, hturn⟩ | ⟨_, _, _, _, hturn⟩ |
    ⟨expired, hevent, hdue, hturn⟩
  · exact .inl (hfields hturn)
  · exact .inl (hfields hturn)
  · exact .inl (hfields hturn)
  · exact .inr ⟨expired, hevent, hdue, hfields hturn⟩

/-! ### One expiry for each open session -/

/-- The expiries to come are those of the open sessions, one for each. -/
structure Armed (r : Registry) (expiries : List Nat) : Prop where
  nodup : expiries.Nodup
  mem_iff : ∀ handle, handle ∈ expiries ↔ ∃ lease, r.lease? handle = some lease ∧ lease.isOpen

namespace Armed

variable {r : Registry} {expiries : List Nat}

theorem start : Armed .empty [] where
  nodup := List.nodup_nil
  mem_iff handle := by simp [Registry.empty, Registry.lease?]

theorem opened (h : Armed r expiries) (now : Nat) (cookie : UInt32) (version : UInt8) :
    Armed (r.opened now cookie version) (expiries ++ [r.leases.length]) where
  nodup := by
    have hnew : r.leases.length ∉ expiries := by
      rw [h.mem_iff]
      rintro ⟨lease, hlease, -⟩
      exact Nat.lt_irrefl _ (Registry.lt_length_of_lease? hlease)
    simpa [List.nodup_append] using ⟨h.nodup, fun handle hmem heq => hnew (heq ▸ hmem)⟩
  mem_iff handle := by
    rw [List.mem_append, List.mem_singleton, h.mem_iff, Registry.lease?_opened]
    by_cases hnew : handle = r.leases.length
    · simp [hnew]
    · simp [hnew]

theorem setSession (h : Armed r expiries) (handle : Nat) (session : Session) :
    Armed (r.setSession handle session) expiries where
  nodup := h.nodup
  mem_iff other := by
    rw [h.mem_iff, Registry.lease?_setSession]
    cases r.lease? other with
    | none => simp
    | some lease =>
        by_cases hother : other = handle
        · simp [hother]
        · simp [hother]

theorem expire (h : Armed r expiries) (handle : Nat) :
    Armed (r.expire handle).1 (expiries.erase handle) where
  nodup := h.nodup.erase handle
  mem_iff other := by
    rw [h.nodup.mem_erase_iff, h.mem_iff, Registry.lease?_expire]
    cases r.lease? other with
    | none => simp
    | some lease =>
        by_cases hother : other = handle
        · simp [hother, Lease.close]
        · simp [hother]

/-- A packet for a linked session arms nothing, and one that opens a session arms its expiry. -/
theorem route (h : Armed r expiries) (hsound : r.Sound) (now : Nat) (p : Packet) :
    Armed (r.route now p).1 (expiries ++ (r.newHandle? p.header.cookie).toList) := by
  unfold Registry.newHandle?
  cases hlinked : r.linked? p.header.cookie with
  | none =>
      rw [Registry.route_fst_of_not_linked hlinked]
      exact (h.opened now _ _).setSession _ _
  | some handle =>
      obtain ⟨lease, hlease, -⟩ := (hsound p.header.cookie handle).1 hlinked
      rw [Registry.route_of_linked hlinked hlease, Option.toList_none, List.append_nil]
      exact h.setSession _ _

theorem turn {s : Server} (h : Armed s.registry s.expiries) (hsound : s.registry.Sound)
    (t : Turn) : Armed (s.turn t).registry (s.turn t).expiries := by
  cases hp : s.packet? t.event with
  | none =>
      rcases expiries_turn_of_no_packet hp with ⟨hregistry, hexpiries⟩ |
        ⟨handle, -, -, hregistry, hexpiries⟩
      · rw [hregistry, hexpiries]
        exact h
      · rw [hregistry, hexpiries]
        exact h.expire handle
  | some p =>
      show Armed (s.turn t).essence.registry (s.turn t).essence.expiries
      rw [essence_turn_of_packet hp]
      exact h.route hsound t.now p

theorem after {s : Server} (h : Armed s.registry s.expiries) (hsound : s.registry.Sound)
    (turns : List Turn) : Armed (s.after turns).registry (s.after turns).expiries := by
  induction turns generalizing s with
  | nil => exact h
  | cons t rest ih => exact ih (h.turn hsound t) (sound_after hsound [t])

end Armed

/-- The expiries of a server, in every state of every run. -/
theorem armed_run {network : Network} {settings : Settings} {start : Outcome}
    (hbind : bind network settings = .ok start) (turns : List Turn) :
    Armed (start.server.after turns).registry (start.server.after turns).expiries := by
  obtain ⟨valid, address, hserver⟩ := server_of_bind hbind
  rw [hserver]
  exact Armed.after .start Registry.sound_empty turns

/-! ### A session does not open again -/

/-- A closed session stays closed. -/
theorem closed_stable (handle : Nat) :
    Stable fun r _ _ => ∃ lease, r.lease? handle = some lease ∧ ¬lease.isOpen where
  opened now cookie version _ h := by
    obtain ⟨lease, hlease, hclosed⟩ := h
    refine ⟨lease, ?_, hclosed⟩
    rw [Registry.lease?_opened, if_neg (Registry.lt_length_of_lease? hlease).ne, hlease]
  handled {r retries packets other l} now p _ _ _ h := by
    obtain ⟨lease, hlease, hclosed⟩ := h
    rw [Registry.lease?_setSession, hlease, Option.map_some]
    refine ⟨_, rfl, ?_⟩
    split
    · exact hclosed
    · exact hclosed
  refused _ _ _ h := h
  ended _ _ h := h
  delayed _ _ h := h
  expired _ h := by
    obtain ⟨lease, hlease, hclosed⟩ := h
    rw [Registry.lease?_expire, hlease, Option.map_some]
    refine ⟨_, rfl, ?_⟩
    split
    · exact Bool.false_ne_true
    · exact hclosed

theorem closed_after (hsound : s.registry.Sound)
    (hclosed : ∃ lease, s.registry.lease? handle = some lease ∧ ¬lease.isOpen)
    (turns : List Turn) :
    ∃ lease, (s.after turns).registry.lease? handle = some lease ∧ ¬lease.isOpen :=
  @Stable.after _ [] s (closed_stable handle) hsound turns hclosed

/-- The expiry of a session leaves it closed, also when it has come before. -/
theorem closed_of_expiry (h : Armed s.registry s.expiries) (hsound : s.registry.Sound)
    (hevent : t.event = .expire handle) {lease : Lease}
    (hlease : s.registry.lease? handle = some lease) :
    ∃ lease, (s.turn t).registry.lease? handle = some lease ∧ ¬lease.isOpen := by
  by_cases hdue : handle ∈ s.expiries
  · refine ⟨lease.close, ?_, Bool.false_ne_true⟩
    rw [(turn_of_expiry hevent hdue).1, Registry.lease?_expire, hlease, Option.map_some, if_pos rfl]
  · have hclosed : ¬lease.isOpen := fun hopen => hdue ((h.mem_iff handle).2 ⟨lease, hlease, hopen⟩)
    exact closed_after hsound ⟨lease, hlease, hclosed⟩ [t]

/-! ### What an expiry sends -/

theorem map_datagram_attempt (delivery : Delivery) (datagrams : List Datagram) :
    (attempt delivery datagrams).map (·.datagram) = datagrams := by
  simp [attempt, List.ext_getElem_iff]

/-- An expiry that is not to come sends nothing. -/
theorem attempts_of_not_mem (h : handle ∉ s.expiries) (delivery : Delivery) (now : Nat) :
    (s.step delivery now (.expire handle)).attempts = [] := by
  simp [step, expire, h, quiet]

theorem attempts_of_mem (h : handle ∈ s.expiries) {lease : Lease}
    (hlease : s.registry.lease? handle = some lease) (delivery : Delivery) (now : Nat) :
    (s.step delivery now (.expire handle)).attempts =
      attempt delivery lease.session.cancellations.1 := by
  simp [step, expire, h, hlease, Registry.expire]

/-- An expiry that has come is never to come again. -/
theorem not_mem_expiries_after_expiry (h : Armed s.registry s.expiries) (hsound : s.registry.Sound)
    (hevent : t.event = .expire handle) (hdue : handle ∈ s.expiries) (later : List Turn) :
    handle ∉ ((s.turn t).after later).expiries := by
  obtain ⟨lease, hlease, -⟩ := (h.mem_iff handle).1 hdue
  have hsound' : (s.turn t).registry.Sound := sound_after hsound [t]
  obtain ⟨closed, hclosed, hnot⟩ :=
    closed_after hsound' (closed_of_expiry h hsound hevent hlease) later
  rw [((h.turn hsound t).after hsound' later).mem_iff]
  rintro ⟨again, hagain, hopen⟩
  obtain rfl := Option.some.inj (hclosed.symm.trans hagain)
  exact hnot hopen

/-- Whenever the expiry of an open session comes, it attempts one cancellation for each client whose
target is another, in ascending order of their indices and at the address for the client's
signalling, and none for anybody else; and however the run goes on, no expiry of that session
attempts anything again. A session that is not open has no expiry to come. -/
theorem expiry_calls_off_every_attempt_once {network : Network} {settings : Settings}
    {start : Outcome} (hbind : bind network settings = .ok start) (turns : List Turn)
    (handle : Nat) (delivery : Delivery) (now : Nat) :
    let s := start.server.after turns
    let expiry : Turn := ⟨.expire handle, now, delivery⟩
    let attempts := (s.step delivery now (.expire handle)).attempts
    ((¬∃ lease, s.registry.lease? handle = some lease ∧ lease.isOpen) → attempts = []) ∧
      ∀ lease, s.registry.lease? handle = some lease → lease.isOpen →
        (∀ index c, (index, c) ∈ lease.session.busyClients ↔
          lease.session.client? index = some c ∧ c.target ≠ index) ∧
        (lease.session.busyClients.map (·.1)).Pairwise (· < ·) ∧
        List.Forall₂ (fun e a => e.2.negotiateAddress = some a.datagram.destination ∧
          lease.session.CallsOff e.1 a.datagram) lease.session.busyClients attempts ∧
        ∀ (later : List Turn) (delivery' : Delivery) (now' : Nat),
          (((s.turn expiry).after later).step delivery' now' (.expire handle)).attempts = [] := by
  intro s expiry attempts
  have harmed : Armed s.registry s.expiries := armed_run hbind turns
  have hsound : s.registry.Sound := sound_stable.run Registry.sound_empty hbind turns
  have hattended : Attended s.registry s.retries := attended_stable.run .start hbind turns
  constructor
  · intro hclosed
    exact attempts_of_not_mem (fun hdue => hclosed ((harmed.mem_iff handle).1 hdue)) delivery now
  · intro lease hlease hopen
    have hdue : handle ∈ s.expiries := (harmed.mem_iff handle).2 ⟨lease, hlease, hopen⟩
    obtain ⟨issued, hissued⟩ := hattended.attended hlease
    refine ⟨fun index c => ?_, lease.session.busyClients_ascending, ?_,
      fun later delivery' now' => ?_⟩
    · rw [Session.mem_busyClients]
      refine and_congr_right fun hc => ?_
      rw [Client.isIdle, hissued.accounted.indexed hc, beq_iff_eq]
    · have hcancellations := hissued.accounted.forall₂_cancellations
      rw [← map_datagram_attempt delivery lease.session.cancellations.1,
        List.forall₂_map_right_iff] at hcancellations
      rwa [← attempts_of_mem hdue hlease delivery now] at hcancellations
    · exact attempts_of_not_mem (not_mem_expiries_after_expiry harmed hsound rfl hdue later)
        delivery' now'

/-- Two clients are paired and their session expires: both are told, and no expiry tells them
again. -/
theorem expiry_calls_off_every_attempt_once_of_two :
    ∃ start, bind .isolated {} = .ok start ∧
      let s := start.server.after [.ofPacket (.probeOf 1), .ofPacket (.probeOf 2)]
      let lost : Delivery := fun _ _ => some .networkUnreachable
      let expiry : Turn := ⟨.expire 0, 30000, lost⟩
      ∃ lease, s.registry.lease? 0 = some lease ∧ lease.session.busyClients.map (·.1) = [1, 2] ∧
        List.Forall₂ (fun e a => e.2.negotiateAddress = some a.datagram.destination ∧
          lease.session.CallsOff e.1 a.datagram) lease.session.busyClients
          (s.step lost 30000 (.expire 0)).attempts ∧
        (((s.turn expiry).after [.ofPacket (.reportOf 1)]).step lost 60000
          (.expire 0)).attempts = [] := by
  have hbind : bind .isolated {} = .ok _ := rfl
  refine ⟨_, hbind, ?_⟩
  intro s lost expiry
  obtain ⟨-, -, htold, hnever⟩ := (expiry_calls_off_every_attempt_once hbind
    [.ofPacket (.probeOf 1), .ofPacket (.probeOf 2)] 0 lost 30000).2 _
    (Option.some_get (by decide)).symm (by decide)
  exact ⟨_, (Option.some_get (by decide)).symm, by decide, htold, hnever _ lost 60000⟩

end Rendezvous.Server
