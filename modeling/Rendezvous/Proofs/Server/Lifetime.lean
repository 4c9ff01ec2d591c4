import Rendezvous.Proofs.Server.Timeline

/-!
The lifetime of a session, which is absolute: it begins with the packet that opens the session and
ends when the expiry comes, and no traffic makes it longer or shorter. Up to its end the session
answers to its cookie; from then on it is closed and answers to none. What the expiry of a session
does to the registry it does to that session alone, so a later session with the same cookie has a
lifetime of its own.
-/
namespace Rendezvous

namespace Server

variable {s : Server} {t : Turn} {handle : Nat}

/-- The expiry of a session leaves all other sessions and their links as they are. -/
theorem expiry_leaves_others {old : Nat} (hevent : t.event = .expire old) (hne : handle ≠ old) :
    (s.turn t).registry.lease? handle = s.registry.lease? handle ∧
      ∀ cookie, s.registry.linked? cookie = some handle →
        (s.turn t).registry.linked? cookie = some handle := by
  have hp : s.packet? t.event = none := by
    rw [hevent]
    rfl
  rcases expiries_turn_of_no_packet hp with ⟨hregistry, -⟩ | ⟨expired, heq, -, hregistry, -⟩
  · rw [hregistry]
    exact ⟨rfl, fun _ h => h⟩
  · obtain rfl := Event.expire.inj (hevent.symm.trans heq)
    rw [hregistry, Registry.lease?_expire]
    refine ⟨by simp [hne], fun cookie hlinked => ?_⟩
    cases hlease : s.registry.lease? old with
    | none => simpa [Registry.expire, hlease] using hlinked
    | some lease =>
        rw [Registry.linked?_expire hlease, hlinked, if_neg]
        simp [hne]

/-- However a run goes on, a session keeps the time at which it was opened. -/
theorem createdAt_after (hsound : s.registry.Sound) (harmed : Armed s.registry s.expiries)
    {lease : Lease} (h : s.registry.lease? handle = some lease) (turns : List Turn) :
    ∃ after, (s.after turns).registry.lease? handle = some after ∧
      after.createdAt = lease.createdAt := by
  induction turns generalizing s lease with
  | nil => exact ⟨lease, h, rfl⟩
  | cons t rest ih =>
      obtain ⟨next, hnext, hcreated, -⟩ := lease?_turn_of_some hsound harmed t h
      obtain ⟨after, hafter, hsame⟩ := ih (sound_after hsound [t]) (harmed.turn hsound t) hnext
      exact ⟨after, hafter, hsame.trans hcreated⟩

/-- A session that is found in a run was opened by one of its turns, at the time that its lease
says. -/
theorem exists_opening (hsound : s.registry.Sound) (harmed : Armed s.registry s.expiries)
    (hbefore : s.registry.lease? handle = none) {turns : List Turn} {lease : Lease}
    (h : (s.after turns).registry.lease? handle = some lease) :
    ∃ earlier opening later first, turns = earlier ++ opening :: later ∧
      (s.after earlier).Opens opening handle first ∧ opening.now = lease.createdAt := by
  obtain ⟨earlier, opening, later, rfl, hnone, hsome⟩ :=
    exists_new_handle turns hbefore (by simp [h])
  have hsound' := sound_after hsound earlier
  have harmed' := harmed.after hsound earlier
  obtain ⟨first, hpacket, hfree⟩ := packet?_of_new_handle hsound' hnone hsome
  have hopens : (s.after earlier).Opens opening handle first := ⟨hpacket, hnone, hsome⟩
  obtain ⟨after, hafter, hcreated⟩ := createdAt_after (sound_after hsound' [opening])
    (harmed'.turn hsound' opening) (hopens.lease? hfree) later
  rw [after_append] at h
  obtain rfl := Option.some.inj (hafter.symm.trans h)
  exact ⟨earlier, opening, later, first, rfl, hopens, hcreated.symm⟩

end Server

namespace Timeline

open Server

variable {t : Timeline} {deliveries : Nat → Delivery} {moments : List Moment}
  {time handle lifetime : Nat} {event : Event} {lease : Lease}

/-- The times at which the expiry of a session has come. -/
def expiryTimes (handle : Nat) (moments : List Moment) : List Nat :=
  (moments.filter (·.event = .expire handle)).map (·.time)

theorem expiryTimes_append_of_expiry {m : Moment} (h : m.event = .expire handle)
    (moments : List Moment) :
    expiryTimes handle (moments ++ [m]) = expiryTimes handle moments ++ [m.time] := by
  simp [expiryTimes, h]

theorem expiryTimes_append_of_ne {m : Moment} (h : m.event ≠ .expire handle)
    (moments : List Moment) :
    expiryTimes handle (moments ++ [m]) = expiryTimes handle moments := by
  simp [expiryTimes, h]

/-! ### A step and the sessions -/

/-- The expiry that comes is that of an open session, at the end of its lifetime. -/
theorem Due.of_expire (h : t.Due time event) (ht : t.Timely) (hevent : event = .expire handle) :
    ∃ lease, t.server.registry.lease? handle = some lease ∧ lease.isOpen ∧
      time = lease.createdAt + t.server.settings.lifetime := by
  obtain ⟨hmem, htime⟩ := h.expiry handle hevent
  obtain ⟨lease, hlease, hopen⟩ := (ht.armed.mem_iff handle).1 hmem
  exact ⟨lease, hlease, hopen, htime.trans (deadline_eq hlease)⟩

/-- A session that is open after a step is not beyond its lifetime. -/
theorem Timely.le_of_isOpen (ht : t.Timely) (hlease : t.server.registry.lease? handle = some lease)
    (hopen : lease.isOpen) : t.now ≤ lease.createdAt + t.server.settings.lifetime := by
  rw [← deadline_eq hlease]
  exact ht.expiries handle ((ht.armed.mem_iff handle).2 ⟨lease, hlease, hopen⟩)

theorem AtRest.lt_of_isOpen (ht : t.AtRest) (hlease : t.server.registry.lease? handle = some lease)
    (hopen : lease.isOpen) : t.now < lease.createdAt + t.server.settings.lifetime := by
  rw [← deadline_eq hlease]
  exact (lt_of_next?_eq_none ht.next).1 handle
    ((ht.timely.armed.mem_iff handle).2 ⟨lease, hlease, hopen⟩)

/-- What a step leaves open is within its lifetime, unless expiries of the instant are still to
come. -/
theorem Due.lt_of_isOpen (h : t.Due time event) (ht : t.Timely)
    (hevent : ∀ other, event ≠ .expire other)
    (hlease : (t.take deliveries time event).1.server.registry.lease? handle = some lease)
    (hopen : lease.isOpen) : time < lease.createdAt + t.server.settings.lifetime := by
  let turn : Turn := ⟨event, time, deliveries t.taken⟩
  rcases lease?_before_turn ht.sound ht.armed turn hlease with ⟨-, -, hcreated⟩ |
    ⟨old, hold, hcreated, hopened⟩
  · have hlifetime := t.server.valid.1
    rw [hcreated]
    exact Nat.lt_add_of_pos_right (by omega)
  · have hmem := (ht.armed.mem_iff handle).2 ⟨old, hold, (hopened.1 hopen).1⟩
    rw [hcreated, ← deadline_eq hold]
    exact h.settled hevent handle hmem

/-- A session that a step leaves open has not expired in it. -/
theorem Due.ne_expire (h : t.Due time event) (ht : t.Timely) (deliveries : Nat → Delivery)
    (hopen : ∀ lease, (t.take deliveries time event).1.server.registry.lease? handle = some lease →
      lease.isOpen) : event ≠ .expire handle := by
  intro hevent
  obtain ⟨lease, hlease, -⟩ := h.of_expire ht hevent
  obtain ⟨after, hafter, -, hopened⟩ :=
    lease?_turn_of_some ht.sound ht.armed ⟨event, time, deliveries t.taken⟩ hlease
  exact (hopened.1 (hopen after hafter)).2 hevent

/-! ### What the clock says about the sessions -/

/-- At a time, a session is there for its lifetime and no longer: before the end it is open and
answers to its cookie, and from then on it is closed and answers to none. -/
structure Punctual (lifetime : Nat) (s : Server) (now handle : Nat) (lease : Lease) : Prop where
  during : now < lease.createdAt + lifetime →
    lease.isOpen ∧ s.registry.linked? lease.session.cookie = some handle
  afterwards : lease.createdAt + lifetime ≤ now →
    ¬lease.isOpen ∧ ∀ cookie, s.registry.linked? cookie ≠ some handle

theorem Punctual.of_sound {s : Server} {now : Nat} (hsound : s.registry.Sound)
    (hlease : s.registry.lease? handle = some lease)
    (hiff : lease.isOpen ↔ now < lease.createdAt + lifetime) :
    Punctual lifetime s now handle lease where
  during hlt := ⟨hiff.2 hlt, (hsound _ handle).2 ⟨lease, hlease, hiff.2 hlt, rfl⟩⟩
  afterwards hle := by
    have hclosed : ¬lease.isOpen := fun hopen => by
      have := hiff.1 hopen
      omega
    exact ⟨hclosed, fun cookie hlinked => hclosed (hsound.of_linked? hlinked hlease).1⟩

/-- The expiry of a session that is not closed is still to come, that of a closed one has come at
the end of its lifetime and not again, and all steps have found the sessions on time; only where
several lifetimes end at one instant, their expiries come one after the other. -/
structure OnTime (lifetime : Nat) (t : Timeline) (moments : List Moment) : Prop where
  settings : t.server.settings.lifetime = lifetime
  waiting : ∀ {handle}, (∀ lease, t.server.registry.lease? handle = some lease → lease.isOpen) →
    expiryTimes handle moments = []
  ended : ∀ {handle lease}, t.server.registry.lease? handle = some lease → ¬lease.isOpen →
    lease.createdAt + lifetime ≤ t.now ∧
      expiryTimes handle moments = [lease.createdAt + lifetime]
  punctual : ∀ m ∈ moments, ∀ handle lease,
    m.outcome.server.registry.lease? handle = some lease →
      Punctual lifetime m.outcome.server m.time handle lease ∨
        m.time = lease.createdAt + lifetime ∧ ∃ other, other ≠ handle ∧ m.event = .expire other

namespace OnTime

theorem waiting_take (h : OnTime lifetime t moments) (ht : t.Timely) (hdue : t.Due time event)
    (hopen : ∀ lease, (t.take deliveries time event).1.server.registry.lease? handle = some lease →
      lease.isOpen) :
    expiryTimes handle (moments ++ [(t.take deliveries time event).2]) = [] := by
  rw [expiryTimes_append_of_ne (m := (t.take deliveries time event).2)
    (hdue.ne_expire ht deliveries hopen)]
  refine h.waiting fun lease hlease => ?_
  obtain ⟨after, hafter, -, hopened⟩ :=
    lease?_turn_of_some ht.sound ht.armed ⟨event, time, deliveries t.taken⟩ hlease
  exact (hopened.1 (hopen after hafter)).1

theorem ended_take (h : OnTime lifetime t moments) (ht : t.Timely) (hdue : t.Due time event)
    (hlease : (t.take deliveries time event).1.server.registry.lease? handle = some lease)
    (hclosed : ¬lease.isOpen) :
    lease.createdAt + lifetime ≤ time ∧
      expiryTimes handle (moments ++ [(t.take deliveries time event).2]) =
        [lease.createdAt + lifetime] := by
  let turn : Turn := ⟨event, time, deliveries t.taken⟩
  rcases lease?_before_turn ht.sound ht.armed turn hlease with ⟨-, hopen, -⟩ |
    ⟨old, hold, hcreated, hopened⟩
  · exact absurd hopen hclosed
  · rw [hcreated]
    by_cases hevent : event = .expire handle
    · obtain ⟨expired, hexpired, hopen, htime⟩ := hdue.of_expire ht hevent
      obtain rfl := Option.some.inj (hold.symm.trans hexpired)
      rw [h.settings] at htime
      have hwaiting : expiryTimes handle moments = [] := h.waiting fun other hother => by
        rwa [← Option.some.inj (hold.symm.trans hother)]
      rw [expiryTimes_append_of_expiry (m := (t.take deliveries time event).2) hevent, hwaiting]
      exact ⟨htime.ge, congrArg (fun n => [n]) htime⟩
    · have hover : ¬old.isOpen := fun hopen => hclosed (hopened.2 ⟨hopen, hevent⟩)
      obtain ⟨hle, htimes⟩ := h.ended hold hover
      rw [expiryTimes_append_of_ne (m := (t.take deliveries time event).2) hevent]
      exact ⟨hle.trans hdue.now_le, htimes⟩

theorem punctual_take (h : OnTime lifetime t moments) (ht : t.Timely) (hdue : t.Due time event)
    (hlease : (t.take deliveries time event).1.server.registry.lease? handle = some lease) :
    Punctual lifetime (t.take deliveries time event).1.server time handle lease ∨
      time = lease.createdAt + lifetime ∧ ∃ other, other ≠ handle ∧ event = .expire other := by
  have ht' := ht.take hdue deliveries
  have hsettings : (t.take deliveries time event).1.server.settings.lifetime = lifetime := by
    rw [← h.settings]
    exact congrArg Settings.lifetime (settings_turn t.server ⟨event, time, deliveries t.taken⟩)
  by_cases hopen : lease.isOpen
  · have hle : time ≤ lease.createdAt + lifetime := hsettings ▸ ht'.le_of_isOpen hlease hopen
    have hpunctual (hlt : time < lease.createdAt + lifetime) :
        Punctual lifetime (t.take deliveries time event).1.server time handle lease :=
      .of_sound ht'.sound hlease (iff_of_true hopen hlt)
    by_cases hother : ∃ other, other ≠ handle ∧ event = .expire other
    · rcases hle.lt_or_eq with hlt | heq
      · exact .inl (hpunctual hlt)
      · exact .inr ⟨heq, hother⟩
    · have hevent (other : Nat) : event ≠ .expire other := by
        by_cases hsame : other = handle
        · rw [hsame]
          refine hdue.ne_expire ht deliveries fun found hfound => ?_
          rwa [← Option.some.inj (hlease.symm.trans hfound)]
        · exact fun heq => hother ⟨other, hsame, heq⟩
      exact .inl (hpunctual (h.settings ▸ hdue.lt_of_isOpen ht hevent hlease hopen))
  · have hle := (h.ended_take ht hdue hlease hopen).1
    exact .inl (.of_sound ht'.sound hlease (iff_of_false hopen hle.not_gt))

end OnTime

theorem onTime_kept (lifetime : Nat) (deliveries : Nat → Delivery) :
    Kept deliveries (OnTime lifetime) where
  take {t moments time event} ht hdue h := {
    settings := by
      rw [← h.settings]
      exact congrArg Settings.lifetime (settings_turn t.server ⟨event, time, deliveries t.taken⟩)
    waiting := h.waiting_take ht hdue
    ended := h.ended_take ht hdue
    punctual := fun m hm handle lease hlease => by
      rcases List.mem_append.1 hm with hold | hnew
      · exact h.punctual m hold handle lease hlease
      · obtain rfl := List.mem_singleton.1 hnew
        exact h.punctual_take ht hdue hlease }
  rest hle h := {
    settings := h.settings
    waiting := h.waiting
    ended := fun hlease hclosed =>
      ⟨(h.ended hlease hclosed).1.trans hle, (h.ended hlease hclosed).2⟩
    punctual := h.punctual }

namespace OnTime

/-- Where nothing has happened, everything is on time. -/
theorem start {server : Server} (hnone : ∀ handle, server.registry.lease? handle = none) :
    OnTime server.settings.lifetime (Timeline.start server) [] where
  settings := rfl
  waiting _ := rfl
  ended hlease := by
    cases (hnone _).symm.trans hlease
  punctual _ hm := absurd hm List.not_mem_nil

/-- Between two actions a session is open exactly up to the end of its lifetime. -/
theorem isOpen_iff (h : OnTime lifetime t moments) (ht : t.AtRest)
    (hlease : t.server.registry.lease? handle = some lease) :
    lease.isOpen ↔ t.now < lease.createdAt + lifetime := by
  constructor
  · intro hopen
    rw [← h.settings]
    exact ht.lt_of_isOpen hlease hopen
  · intro hlt
    by_contra hclosed
    exact absurd (h.ended hlease hclosed).1 hlt.not_ge

/-- The expiry of a session has come once when its lifetime is over, and not before. -/
theorem expiryTimes_eq (h : OnTime lifetime t moments) (ht : t.AtRest)
    (hlease : t.server.registry.lease? handle = some lease) :
    expiryTimes handle moments =
      if t.now < lease.createdAt + lifetime then [] else [lease.createdAt + lifetime] := by
  have hiff := h.isOpen_iff ht hlease
  split
  · next hlt =>
    refine h.waiting fun other hother => ?_
    rw [← Option.some.inj (hlease.symm.trans hother)]
    exact hiff.2 hlt
  · next hge => exact (h.ended hlease fun hopen => hge (hiff.1 hopen)).2

end OnTime

/-- In every run in time, with any traffic and any fate of the datagrams, a session is open and
answers to its cookie exactly as long as less than the lifetime has gone by since the packet that
opened it; then it is closed and answers to none, and its expiry has come once, at the end of the
lifetime. Every single step finds it so, but for the expiries of other sessions at the very instant
at which its own is due. What an expiry does, it does to no session but its own. -/
theorem session_lifetime_is_absolute {network : Network} {settings : Settings} {bound : Outcome}
    (hbind : bind network settings = .ok bound) (deliveries : Nat → Delivery)
    (actions : List Action) :
    let ran := (start bound.server).run deliveries actions
    let turns := turns deliveries ran.2
    ran.1.server = bound.server.after turns ∧
      (∀ handle lease, ran.1.server.registry.lease? handle = some lease →
        (∃ earlier opening later first, turns = earlier ++ opening :: later ∧
          (bound.server.after earlier).Opens opening handle first ∧
          opening.now = lease.createdAt) ∧
        Punctual settings.lifetime ran.1.server ran.1.now handle lease ∧
        expiryTimes handle ran.2 =
          if ran.1.now < lease.createdAt + settings.lifetime then []
          else [lease.createdAt + settings.lifetime]) ∧
      (∀ m ∈ ran.2, ∀ handle lease, m.outcome.server.registry.lease? handle = some lease →
        Punctual settings.lifetime m.outcome.server m.time handle lease ∨
          m.time = lease.createdAt + settings.lifetime ∧
            ∃ other, other ≠ handle ∧ m.event = .expire other) ∧
      ∀ earlier expiry later old handle, turns = earlier ++ expiry :: later →
        expiry.event = .expire old → handle ≠ old →
          let s := bound.server.after earlier
          (s.turn expiry).registry.lease? handle = s.registry.lease? handle ∧
            ∀ cookie, s.registry.linked? cookie = some handle →
              (s.turn expiry).registry.linked? cookie = some handle := by
  intro ran turns
  have hserver : ran.1.server = bound.server.after turns := run_follows hbind deliveries actions
  obtain ⟨valid, address, hbound⟩ := server_of_bind hbind
  have hsound : bound.server.registry.Sound := hbound ▸ Registry.sound_empty
  have harmed : Armed bound.server.registry bound.server.expiries := hbound ▸ .start
  have hnone (handle : Nat) : bound.server.registry.lease? handle = none := by
    rw [hbound]
    rfl
  have hsettings : bound.server.settings = settings := by
    rw [hbound]
    rfl
  obtain ⟨hrest, hontime⟩ :=
    (onTime_kept _ deliveries).run (atRest_start hbind) (.start hnone) actions
  rw [List.nil_append, hsettings] at hontime
  refine ⟨hserver, fun handle lease hlease => ⟨?_, ?_, ?_⟩, hontime.punctual, ?_⟩
  · rw [hserver] at hlease
    exact exists_opening hsound harmed (hnone handle) hlease
  · exact .of_sound hrest.timely.sound hlease (hontime.isOpen_iff hrest hlease)
  · exact hontime.expiryTimes_eq hrest hlease
  · intro earlier expiry later old handle _ hevent hne
    exact expiry_leaves_others hevent hne

/-- A cookie is used again at the instant at which its first session ends: the first session is
over, and the second one has all of its own lifetime. -/
theorem session_lifetime_is_absolute_of_reopened :
    ∃ bound, bind .isolated {} = .ok bound ∧
      let probe := Packet.probeOf 1
      let arrival : Action := .handle probe.source (probe.header.encode ++ probe.payload)
      let ran := (start bound.server).run (fun _ _ _ => none)
        [arrival, .wait 30000, arrival, .wait 29999]
      ∃ first second, ran.1.server.registry.lease? 0 = some first ∧
        ran.1.server.registry.lease? 1 = some second ∧
        ¬first.isOpen ∧ expiryTimes 0 ran.2 = [30000] ∧
        second.isOpen ∧ ran.1.server.registry.linked? second.session.cookie = some 1 ∧
        expiryTimes 1 ran.2 = [] := by
  have hbind : bind .isolated {} = .ok _ := rfl
  refine ⟨_, hbind, ?_⟩
  intro probe arrival ran
  have hnow : ran.1.now = 59999 := by decide +kernel
  have hzero : (ran.1.server.registry.lease? 0).map (·.createdAt) = some 0 := by decide +kernel
  have hone : (ran.1.server.registry.lease? 1).map (·.createdAt) = some 30000 := by
    decide +kernel
  obtain ⟨first, hfirst, hbegan⟩ := Option.map_eq_some_iff.1 hzero
  obtain ⟨second, hsecond, hbegan'⟩ := Option.map_eq_some_iff.1 hone
  have hleases (handle : Nat) (lease : Lease)
      (hlease : ran.1.server.registry.lease? handle = some lease) :
      Punctual 30000 ran.1.server ran.1.now handle lease ∧
        expiryTimes handle ran.2 =
          if ran.1.now < lease.createdAt + 30000 then [] else [lease.createdAt + 30000] :=
    ((session_lifetime_is_absolute hbind (fun _ _ _ => none)
      [arrival, .wait 30000, arrival, .wait 29999]).2.1 handle lease hlease).2
  obtain ⟨hover, hcame⟩ := hleases 0 first hfirst
  obtain ⟨hlive, hwaits⟩ := hleases 1 second hsecond
  rw [hbegan, if_neg (by omega)] at hcame
  rw [if_pos (by omega)] at hwaits
  obtain ⟨hopen, hlinked⟩ := hlive.during (by omega)
  exact ⟨first, second, hfirst, hsecond, (hover.afterwards (by omega)).1, hcame, hopen, hlinked,
    hwaits⟩

end Timeline

end Rendezvous
