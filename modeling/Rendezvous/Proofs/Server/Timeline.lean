import Rendezvous.Proofs.Server.Expiry
import Rendezvous.Proofs.Server.Isolation
import Rendezvous.Server.Timeline

/-!
Runs in time. The clock moves on from one timer to the next and skips none, so every step is taken
at a time that no timer has passed: a timer goes off at the instant at which it is due, and a
datagram comes in when nothing is due any more. Of the timers that are due at one instant, the
expiries go first.

A property that every such step keeps, and the mere passing of time, holds along every run in time.
That induction is done here, once.
-/
namespace Rendezvous

namespace Server

variable {s : Server} {t : Turn} {handle limit due : Nat}

/-! ### Which timer goes off first -/

theorem earliest_eq_none {timers : List (Nat × Timer)} (h : earliest timers = none) :
    timers = [] := by
  cases timers with
  | nil => rfl
  | cons timer rest =>
      unfold earliest at h
      split at h
      · cases h
      · split at h
        · cases h
        · cases h

/-- It is due before all timers that stand in front of it, and not after any that stands behind. -/
theorem earliest_split {timers : List (Nat × Timer)} {timer : Nat × Timer}
    (h : earliest timers = some timer) :
    ∃ before later, timers = before ++ timer :: later ∧
      (∀ other ∈ before, timer.1 < other.1) ∧ ∀ other ∈ later, timer.1 ≤ other.1 := by
  induction timers generalizing timer with
  | nil => cases h
  | cons head rest ih =>
      unfold earliest at h
      split at h
      · next hnone =>
        obtain rfl := Option.some.inj h
        obtain rfl := earliest_eq_none hnone
        exact ⟨[], [], rfl, by simp, by simp⟩
      · next other hother =>
        obtain ⟨before, later, rfl, hbefore, hlater⟩ := ih hother
        split at h
        · next hlt =>
          obtain rfl := Option.some.inj h
          refine ⟨head :: before, later, rfl, ?_, hlater⟩
          rintro x (_ | ⟨_, hx⟩)
          · exact hlt
          · exact hbefore x hx
        · next hle =>
          obtain rfl := Option.some.inj h
          refine ⟨[], _, rfl, by simp, fun x hx => ?_⟩
          rcases List.mem_append.1 hx with hx | hx
          · have := hbefore x hx
            omega
          · rcases List.mem_cons.1 hx with rfl | hx
            · omega
            · have := hlater x hx
              omega

/-- Between two lists of timers, those of the first go off first. -/
theorem earliest_append {first second : List (Nat × Timer)} {timer : Nat × Timer}
    (h : earliest (first ++ second) = some timer) :
    (∀ other ∈ first ++ second, timer.1 ≤ other.1) ∧
      (timer ∉ first → ∀ other ∈ first, timer.1 < other.1) := by
  obtain ⟨before, later, heq, hbefore, hlater⟩ := earliest_split h
  constructor
  · intro other hother
    rw [heq] at hother
    rcases List.mem_append.1 hother with hother | hother
    · exact (hbefore other hother).le
    · rcases List.mem_cons.1 hother with rfl | hother
      · exact le_rfl
      · exact hlater other hother
  · intro hnot other hother
    refine hbefore other ?_
    rcases List.append_eq_append_iff.1 heq with ⟨more, rfl, -⟩ | ⟨rest, rfl, hrest⟩
    · exact List.mem_append_left _ hother
    · cases rest with
      | nil => simpa using hother
      | cons x rest =>
          obtain ⟨rfl, -⟩ := List.cons.inj hrest
          simp at hnot

theorem mem_expiryTimers {timer : Nat × Timer} :
    timer ∈ s.expiryTimers ↔ ∃ handle ∈ s.expiries, (s.deadline handle, .expiry handle) = timer :=
  List.mem_map

theorem mem_retryTimers {retry : Retry} (h : retry ∈ s.retries) :
    ∃ place, (retry.due, Timer.retry place) ∈ s.retryTimers := by
  obtain ⟨place, hplace, rfl⟩ := List.mem_iff_getElem.1 h
  exact ⟨place, List.mem_mapIdx.2 ⟨place, hplace, rfl⟩⟩

/-- When no timer goes off by then, none is due by then. -/
theorem lt_of_next?_eq_none (h : s.next? limit = none) :
    (∀ handle ∈ s.expiries, limit < s.deadline handle) ∧ ∀ retry ∈ s.retries, limit < retry.due := by
  have hlate : ∀ timer ∈ s.expiryTimers ++ s.retryTimers, limit < timer.1 := by
    intro timer htimer
    cases hfirst : earliest (s.expiryTimers ++ s.retryTimers) with
    | none =>
        rw [earliest_eq_none hfirst] at htimer
        cases htimer
    | some first =>
        have hle := (earliest_append hfirst).1 timer htimer
        rw [next?, hfirst, Option.filter_some] at h
        have hlt : ¬first.1 ≤ limit := by simpa using h
        omega
  constructor
  · intro handle hhandle
    exact hlate _ (List.mem_append_left _ (mem_expiryTimers.2 ⟨handle, hhandle, rfl⟩))
  · intro retry hretry
    obtain ⟨place, hmem⟩ := mem_retryTimers hretry
    exact hlate _ (List.mem_append_right _ hmem)

/-- No timer is due before the one that goes off, and a retry waits for the expiries of its
instant. -/
theorem le_of_next?_eq_some {timer : Timer} (h : s.next? limit = some (due, timer)) :
    (∀ handle ∈ s.expiries, due ≤ s.deadline handle) ∧ (∀ retry ∈ s.retries, due ≤ retry.due) ∧
      ((∀ handle, timer ≠ .expiry handle) → ∀ handle ∈ s.expiries, due < s.deadline handle) := by
  obtain ⟨hle, hlt⟩ := earliest_append (Option.filter_eq_some_iff.1 h).1
  refine ⟨fun handle hhandle => ?_, fun retry hretry => ?_, fun hretry handle hhandle => ?_⟩
  · exact hle _ (List.mem_append_left _ (mem_expiryTimers.2 ⟨handle, hhandle, rfl⟩))
  · obtain ⟨place, hmem⟩ := mem_retryTimers hretry
    exact hle _ (List.mem_append_right _ hmem)
  · refine hlt ?_ _ (mem_expiryTimers.2 ⟨handle, hhandle, rfl⟩)
    intro hmem
    obtain ⟨expired, -, heq⟩ := mem_expiryTimers.1 hmem
    exact hretry expired (Prod.mk.inj heq).2.symm

/-! ### What a turn leaves to wait for -/

/-- A handle that is not given yet is given by a turn at most to a session of its own instant. -/
theorem lease?_turn_of_none (hsound : s.registry.Sound) (t : Turn)
    (h : s.registry.lease? handle = none) :
    (s.turn t).registry.lease? handle = none ∨
      ∃ session, (s.turn t).registry.lease? handle = some ⟨session, true, t.now⟩ := by
  by_cases hafter : (s.turn t).registry.lease? handle = none
  · exact .inl hafter
  · obtain ⟨first, hpacket, hfree⟩ := packet?_of_new_handle hsound h hafter
    have hopens : s.Opens t handle first := ⟨hpacket, h, hafter⟩
    exact .inr ⟨_, hopens.lease? hfree⟩

/-- A session keeps the time at which it was opened, and only its own expiry closes it. -/
theorem lease?_turn_of_some (hsound : s.registry.Sound) (harmed : Armed s.registry s.expiries)
    (t : Turn) {lease : Lease} (h : s.registry.lease? handle = some lease) :
    ∃ after, (s.turn t).registry.lease? handle = some after ∧
      after.createdAt = lease.createdAt ∧
      (after.isOpen ↔ lease.isOpen ∧ t.event ≠ .expire handle) := by
  cases hp : s.packet? t.event with
  | none =>
      rcases expiries_turn_of_no_packet hp with ⟨hregistry, hexpiries⟩ |
        ⟨expired, hevent, hdue, hregistry, -⟩
      · refine ⟨lease, by rw [hregistry, h], rfl, ?_⟩
        rw [iff_self_and]
        rintro hopen hevent
        -- The expiry of an open session is to come, so it could not have passed by.
        have hdue : handle ∈ s.expiries := (harmed.mem_iff handle).2 ⟨lease, h, hopen⟩
        have hgone : handle ∉ (s.turn t).expiries := by
          rw [(turn_of_expiry hevent hdue).2]
          exact harmed.nodup.not_mem_erase
        exact hgone (hexpiries ▸ hdue)
      · rw [hregistry, hevent, Registry.lease?_expire, h, Option.map_some]
        refine ⟨_, rfl, ?_⟩
        by_cases hsame : handle = expired
        · simp [hsame, Lease.close]
        · simp [hsame, Ne.symm hsame]
  | some p =>
      have hregistry : (s.turn t).registry = (s.registry.route t.now p).1 :=
        congrArg Prod.fst (core_turn_of_packet hp)
      have hevent : t.event ≠ .expire handle := by
        intro hevent
        rw [hevent] at hp
        cases hp
      have hknown := Registry.lt_length_of_lease? h
      rw [hregistry]
      cases hlinked : s.registry.linked? p.header.cookie with
      | none =>
          rw [Registry.route_fst_of_not_linked hlinked, Registry.lease?_setSession,
            Registry.lease?_opened, if_neg hknown.ne, h]
          exact ⟨lease, by simp [hknown.ne], rfl, by simp [hevent]⟩
      | some linked =>
          obtain ⟨found, hfound, -⟩ := (hsound p.header.cookie linked).1 hlinked
          rw [Registry.route_of_linked hlinked hfound, Registry.lease?_setSession, h,
            Option.map_some]
          refine ⟨_, rfl, ?_⟩
          by_cases hsame : handle = linked
          · simp [hsame, hsame ▸ hevent]
          · simp [hsame, hevent]

/-- A session that is found after a turn has just been opened, or was there before. -/
theorem lease?_before_turn (hsound : s.registry.Sound) (harmed : Armed s.registry s.expiries)
    (t : Turn) {after : Lease} (h : (s.turn t).registry.lease? handle = some after) :
    s.registry.lease? handle = none ∧ after.isOpen ∧ after.createdAt = t.now ∨
      ∃ old, s.registry.lease? handle = some old ∧ after.createdAt = old.createdAt ∧
        (after.isOpen ↔ old.isOpen ∧ t.event ≠ .expire handle) := by
  cases hbefore : s.registry.lease? handle with
  | none =>
      rcases lease?_turn_of_none hsound t hbefore with hnone | ⟨session, hsome⟩
      · rw [hnone] at h
        cases h
      · obtain rfl := Option.some.inj (hsome.symm.trans h)
        exact .inl ⟨rfl, rfl, rfl⟩
  | some old =>
      obtain ⟨same, hsame, hcreated, hopened⟩ := lease?_turn_of_some hsound harmed t hbefore
      obtain rfl := Option.some.inj (hsame.symm.trans h)
      exact .inr ⟨old, rfl, hcreated, hopened⟩

theorem due_of_mem_route {r : Registry} {now : Nat} {p : Packet} {retry : Retry}
    (h : retry ∈ (r.route now p).2) : retry.due = now := by
  unfold Registry.route at h
  dsimp only at h
  split at h
  · cases h
  · obtain ⟨edge, -, rfl⟩ := List.mem_map.1 h
    rfl

/-- A retry that a turn starts or puts back to sleep is not due before the turn. -/
theorem mem_retries_turn {retry : Retry} (h : retry ∈ (s.turn t).retries) :
    retry ∈ s.retries ∨ t.now ≤ retry.due := by
  have hmem : retry ∈ (s.turn t).essence.retries := h
  cases hp : s.packet? t.event with
  | none =>
      rcases essence_turn_of_no_packet hp with hturn | ⟨place, ended, -, -, -, hturn⟩ |
        ⟨place, woken, -, -, hturn⟩ | ⟨expired, -, -, hturn⟩
      · rw [hturn] at hmem
        exact .inl hmem
      · rw [hturn] at hmem
        exact .inl (List.mem_of_mem_eraseIdx hmem)
      · rw [hturn] at hmem
        rcases List.mem_or_eq_of_mem_set hmem with hold | rfl
        · exact .inl hold
        · exact .inr (Nat.le_add_right t.now _)
      · rw [hturn] at hmem
        exact .inl hmem
  | some p =>
      rw [essence_turn_of_packet hp] at hmem
      rcases List.mem_append.1 hmem with hold | hnew
      · exact .inl hold
      · exact .inr (due_of_mem_route hnew).ge

theorem settings_turn (s : Server) (t : Turn) : (s.turn t).settings = s.settings := by
  show (s.turn t).essence.settings = s.settings
  cases hp : s.packet? t.event with
  | none =>
      rcases essence_turn_of_no_packet hp with hturn | ⟨_, _, _, _, _, hturn⟩ | ⟨_, _, _, _, hturn⟩ |
        ⟨_, _, _, hturn⟩
      · rw [hturn]
        rfl
      · rw [hturn]
        rfl
      · rw [hturn]
        rfl
      · rw [hturn]
        rfl
  | some p =>
      rw [essence_turn_of_packet hp]
      rfl

end Server

namespace Timeline

open Server

variable {t : Timeline} {deliveries : Nat → Delivery} {moments : List Moment} {limit time : Nat}
  {event : Event}

/-! ### The steps of a timeline -/

/-- The clock is at the end of an advance exactly when no timer is due by then. -/
theorem advanceTo_of_none (h : t.server.next? limit = none) (deliveries : Nat → Delivery) :
    t.advanceTo deliveries limit = ({ t with now := limit }, []) := by
  rw [advanceTo]
  split
  · rfl
  · next hsome =>
    rw [h] at hsome
    cases hsome

theorem advanceTo_of_some {due : Nat} {timer : Timer}
    (h : t.server.next? limit = some (due, timer)) (deliveries : Nat → Delivery) :
    t.advanceTo deliveries limit =
      let first := t.take deliveries due timer.event
      let others := first.1.advanceTo deliveries limit
      (others.1, first.2 :: others.2) := by
  rw [advanceTo]
  split
  · next hnone =>
    rw [h] at hnone
    cases hnone
  · next hsome =>
    obtain ⟨rfl, rfl⟩ := Prod.mk.inj (Option.some.inj (h.symm.trans hsome))
    rfl

/-- The clock is not behind, no timer is due, and the expiries belong to the open sessions. -/
structure Timely (t : Timeline) : Prop where
  sound : t.server.registry.Sound
  armed : Armed t.server.registry t.server.expiries
  expiries : ∀ handle ∈ t.server.expiries, t.now ≤ t.server.deadline handle
  retries : ∀ retry ∈ t.server.retries, t.now ≤ retry.due

/-- The steps that a timeline takes: none before its time and none after that of a timer. A timer
goes off when it is due; everything else finds the expiries of its instant done. -/
structure Due (t : Timeline) (time : Nat) (event : Event) : Prop where
  now_le : t.now ≤ time
  expiries : ∀ handle ∈ t.server.expiries, time ≤ t.server.deadline handle
  retries : ∀ retry ∈ t.server.retries, time ≤ retry.due
  expiry : ∀ handle, event = .expire handle →
    handle ∈ t.server.expiries ∧ time = t.server.deadline handle
  retry : ∀ place, event = .retry place →
    ∃ retry, t.server.retries[place]? = some retry ∧ time = retry.due
  settled : (∀ handle, event ≠ .expire handle) →
    ∀ handle ∈ t.server.expiries, time < t.server.deadline handle

/-- What comes from outside finds no timer that is due. -/
theorem Due.outside (h : t.server.next? t.now = none) (hexpire : ∀ handle, event ≠ .expire handle)
    (hretry : ∀ place, event ≠ .retry place) : t.Due t.now event := by
  obtain ⟨hexpiries, hretries⟩ := lt_of_next?_eq_none h
  exact {
    now_le := le_rfl
    expiries := fun handle hhandle => (hexpiries handle hhandle).le
    retries := fun retry hmem => (hretries retry hmem).le
    expiry := fun handle hevent => absurd hevent (hexpire handle)
    retry := fun place hevent => absurd hevent (hretry place)
    settled := fun _ => hexpiries }

/-- A timer that is next is due. -/
theorem Timely.due {due : Nat} {timer : Timer} (h : t.Timely)
    (hnext : t.server.next? limit = some (due, timer)) : t.Due due timer.event := by
  obtain ⟨hexpiries, hretries, hsettled⟩ := le_of_next?_eq_some hnext
  rcases (next?_eq_some hnext).2 with ⟨handle, hhandle, rfl, rfl⟩ | ⟨place, retry, hplace, rfl, rfl⟩
  · exact {
      now_le := h.expiries handle hhandle
      expiries := hexpiries
      retries := hretries
      expiry := fun other heq => by
        obtain rfl := Event.expire.inj heq
        exact ⟨hhandle, rfl⟩
      retry := fun place heq => by cases heq
      settled := fun hnot => absurd rfl (hnot handle) }
  · exact {
      now_le := h.retries retry (List.mem_of_getElem? hplace)
      expiries := hexpiries
      retries := hretries
      expiry := fun other heq => by cases heq
      retry := fun other heq => by
        obtain rfl := Event.retry.inj heq
        exact ⟨retry, hplace, rfl⟩
      settled := fun _ => hsettled fun handle heq => by cases heq }

theorem deadline_eq {s : Server} {handle : Nat} {lease : Lease}
    (h : s.registry.lease? handle = some lease) :
    s.deadline handle = lease.createdAt + s.settings.lifetime := by
  rw [deadline, h]

theorem Timely.take (h : t.Timely) (hdue : t.Due time event) (deliveries : Nat → Delivery) :
    (t.take deliveries time event).1.Timely := by
  let turn : Turn := ⟨event, time, deliveries t.taken⟩
  have hsound : (t.server.turn turn).registry.Sound := sound_after h.sound [turn]
  have harmed : Armed (t.server.turn turn).registry (t.server.turn turn).expiries :=
    h.armed.turn h.sound turn
  refine ⟨hsound, harmed, fun handle hhandle => ?_, fun retry hretry => ?_⟩
  · show time ≤ (t.server.turn turn).deadline handle
    obtain ⟨after, hafter, hopen⟩ := (harmed.mem_iff handle).1 hhandle
    rw [deadline_eq hafter, settings_turn]
    rcases lease?_before_turn h.sound h.armed turn hafter with ⟨-, -, hcreated⟩ |
      ⟨old, hold, hcreated, hopened⟩
    · rw [hcreated]
      exact Nat.le_add_right time _
    · have hmem := (h.armed.mem_iff handle).2 ⟨old, hold, (hopened.1 hopen).1⟩
      rw [hcreated, ← deadline_eq hold]
      exact hdue.expiries handle hmem
  · rcases mem_retries_turn (t := turn) hretry with hold | hnew
    · exact hdue.retries retry hold
    · exact hnew

/-- The clock may move on as long as nothing is due. -/
theorem Timely.rest (h : t.Timely) (hnext : t.server.next? limit = none) :
    ({ t with now := limit } : Timeline).Timely := by
  obtain ⟨hexpiries, hretries⟩ := lt_of_next?_eq_none hnext
  exact {
    sound := h.sound
    armed := h.armed
    expiries := fun handle hhandle => (hexpiries handle hhandle).le
    retries := fun retry hmem => (hretries retry hmem).le }

/-- A timeline on which nothing is due. -/
structure AtRest (t : Timeline) : Prop where
  timely : t.Timely
  next : t.server.next? t.now = none

/-! ### Runs -/

/-- What can happen to a server in time. -/
inductive Action
  | receive (source : SocketAddress) (datagram : Wire.Bytes)
  | receiveFailed (cause : SocketError)
  | handle (source : SocketAddress) (datagram : Wire.Bytes)
  | stop
  | wait (milliseconds : Nat)
  deriving DecidableEq, Repr

def perform (t : Timeline) (deliveries : Nat → Delivery) : Action → Timeline × List Moment
  | .receive source datagram => t.act deliveries (.receive source datagram)
  | .receiveFailed cause => t.act deliveries (.receiveFailed cause)
  | .handle source datagram => t.act deliveries (.handle source datagram)
  | .stop => t.act deliveries .stop
  | .wait milliseconds => t.advanceTo deliveries (t.now + milliseconds)

def run (t : Timeline) (deliveries : Nat → Delivery) : List Action → Timeline × List Moment
  | [] => (t, [])
  | action :: rest =>
    let first := t.perform deliveries action
    let others := first.1.run deliveries rest
    (others.1, first.2 ++ others.2)

/-- Every step that is due keeps the property, and so does the passing of time. -/
structure Kept (deliveries : Nat → Delivery) (P : Timeline → List Moment → Prop) : Prop where
  take : ∀ {t moments time event}, t.Timely → t.Due time event → P t moments →
    P (t.take deliveries time event).1 (moments ++ [(t.take deliveries time event).2])
  rest : ∀ {t moments limit}, t.now ≤ limit → P t moments → P { t with now := limit } moments

namespace Kept

variable {P : Timeline → List Moment → Prop}

theorem advanceTo (h : Kept deliveries P) (ht : t.Timely) (hle : t.now ≤ limit)
    (hP : P t moments) :
    (t.advanceTo deliveries limit).1.AtRest ∧
      P (t.advanceTo deliveries limit).1 (moments ++ (t.advanceTo deliveries limit).2) := by
  induction t using Timeline.advanceTo.induct deliveries limit generalizing moments with
  | case1 t hnext =>
      rw [advanceTo_of_none hnext, List.append_nil]
      exact ⟨⟨ht.rest hnext, hnext⟩, h.rest hle hP⟩
  | case2 t due timer hnext first =>
      rename_i ih
      have hdue := ht.due hnext
      have hrest := ih (ht.take hdue deliveries) (next?_eq_some hnext).1 (h.take ht hdue hP)
      rw [List.append_assoc] at hrest
      rw [advanceTo_of_some hnext]
      exact hrest

theorem act (h : Kept deliveries P) (ht : t.AtRest) (hexpire : ∀ handle, event ≠ .expire handle)
    (hretry : ∀ place, event ≠ .retry place) (hP : P t moments) :
    (t.act deliveries event).1.AtRest ∧
      P (t.act deliveries event).1 (moments ++ (t.act deliveries event).2) := by
  have hdue : t.Due t.now event := .outside ht.next hexpire hretry
  have hrest := h.advanceTo (ht.timely.take hdue deliveries) (Nat.le_refl t.now)
    (h.take ht.timely hdue hP)
  rw [List.append_assoc] at hrest
  exact hrest

theorem perform (h : Kept deliveries P) (ht : t.AtRest) (hP : P t moments) (action : Action) :
    (t.perform deliveries action).1.AtRest ∧
      P (t.perform deliveries action).1 (moments ++ (t.perform deliveries action).2) := by
  cases action with
  | receive source datagram => exact h.act ht (by simp) (by simp) hP
  | receiveFailed cause => exact h.act ht (by simp) (by simp) hP
  | handle source datagram => exact h.act ht (by simp) (by simp) hP
  | stop => exact h.act ht (by simp) (by simp) hP
  | wait milliseconds => exact h.advanceTo ht.timely (Nat.le_add_right _ _) hP

theorem run (h : Kept deliveries P) (ht : t.AtRest) (hP : P t moments) (actions : List Action) :
    (t.run deliveries actions).1.AtRest ∧
      P (t.run deliveries actions).1 (moments ++ (t.run deliveries actions).2) := by
  induction actions generalizing t moments with
  | nil =>
      rw [Timeline.run, List.append_nil]
      exact ⟨ht, hP⟩
  | cons action rest ih =>
      obtain ⟨ht', hP'⟩ := h.perform ht hP action
      have hrest := ih ht' hP'
      rw [List.append_assoc] at hrest
      exact hrest

end Kept

/-- A server that has just been bound waits for nothing. -/
theorem atRest_start {network : Network} {settings : Settings} {bound : Outcome}
    (hbind : bind network settings = .ok bound) : (start bound.server).AtRest := by
  obtain ⟨valid, address, hserver⟩ := server_of_bind hbind
  rw [hserver]
  exact {
    timely := {
      sound := Registry.sound_empty
      armed := .start
      expiries := fun _ h => absurd h List.not_mem_nil
      retries := fun _ h => absurd h List.not_mem_nil }
    next := rfl }

/-! ### Runs in time are runs -/

/-- The turns that a server takes in these moments. -/
def turns (deliveries : Nat → Delivery) (moments : List Moment) : List Turn :=
  moments.mapIdx fun n m => ⟨m.event, m.time, deliveries n⟩

theorem turns_append_singleton (deliveries : Nat → Delivery) (moments : List Moment) (m : Moment) :
    turns deliveries (moments ++ [m]) =
      turns deliveries moments ++ [⟨m.event, m.time, deliveries moments.length⟩] := by
  simp [turns, List.mapIdx_append]

/-- The steps of a timeline are numbered, and its server has taken them. -/
structure Follows (origin : Server) (deliveries : Nat → Delivery) (t : Timeline)
    (moments : List Moment) : Prop where
  taken : t.taken = moments.length
  server : t.server = origin.after (turns deliveries moments)

theorem follows_kept (origin : Server) (deliveries : Nat → Delivery) :
    Kept deliveries (Follows origin deliveries) where
  take _ _ h := by
    refine ⟨by simp [Timeline.take, h.taken], ?_⟩
    rw [turns_append_singleton, after_append, ← h.server, ← h.taken]
    rfl
  rest _ h := ⟨h.taken, h.server⟩

theorem run_follows {network : Network} {settings : Settings} {bound : Outcome}
    (hbind : bind network settings = .ok bound) (deliveries : Nat → Delivery)
    (actions : List Action) :
    let ran := (start bound.server).run deliveries actions
    ran.1.server = bound.server.after (turns deliveries ran.2) := by
  have hstart : Follows bound.server deliveries (start bound.server) [] := ⟨rfl, rfl⟩
  exact ((follows_kept bound.server deliveries).run (atRest_start hbind) hstart actions).2.server

end Timeline

end Rendezvous
