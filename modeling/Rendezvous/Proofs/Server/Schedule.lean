import Rendezvous.Proofs.Server.Timeline

/-!
Turns in time. A turn may be taken when the clock can show its time: the turns before it were not
later, no timer has been passed over, and a timer goes off at its own instant. That leaves open
which of the turns of one instant comes first, so a packet or a retry may come before the expiry
that is due with it, or after. A timeline, which lets the expiries go first, is one way among
others.
-/
namespace Rendezvous

namespace Server

variable {s : Server} {t : Turn} {now handle : Nat} {turns : List Turn}

/-- When the timer of an event goes off; what is no timer that runs may come at any time. -/
def dueTime? (s : Server) : Event → Option Nat
  | .expire handle => if handle ∈ s.expiries then some (s.deadline handle) else none
  | .retry place => (s.retries[place]?).map (·.due)
  | .receive _ _ | .receiveFailed _ | .handle _ _ | .stop => none

/-- A turn can be taken when the clock has come to `now`. -/
structure Allows (s : Server) (now : Nat) (t : Turn) : Prop where
  now_le : now ≤ t.now
  expiries : ∀ handle ∈ s.expiries, t.now ≤ s.deadline handle
  retries : ∀ retry ∈ s.retries, t.now ≤ retry.due
  due : ∀ due ∈ s.dueTime? t.event, t.now = due

instance (s : Server) (now : Nat) (t : Turn) : Decidable (s.Allows now t) :=
  decidable_of_iff (now ≤ t.now ∧ (∀ handle ∈ s.expiries, t.now ≤ s.deadline handle) ∧
      (∀ retry ∈ s.retries, t.now ≤ retry.due) ∧ ∀ due ∈ s.dueTime? t.event, t.now = due)
    ⟨fun ⟨hnow, hexpiries, hretries, hdue⟩ => ⟨hnow, hexpiries, hretries, hdue⟩,
      fun h => ⟨h.now_le, h.expiries, h.retries, h.due⟩⟩

/-- The turns can be taken one after the other from the time `now` on. -/
def InTime (s : Server) (now : Nat) : List Turn → Prop
  | [] => True
  | t :: rest => s.Allows now t ∧ (s.turn t).InTime t.now rest

instance decidableInTime (s : Server) (now : Nat) : (turns : List Turn) →
    Decidable (s.InTime now turns)
  | [] => .isTrue trivial
  | t :: rest =>
    have := decidableInTime (s.turn t) t.now rest
    inferInstanceAs (Decidable (_ ∧ _))

/-- What the clock shows after the turns. -/
def clock (now : Nat) : List Turn → Nat
  | [] => now
  | t :: rest => clock t.now rest

theorem clock_append_singleton (now : Nat) (turns : List Turn) (t : Turn) :
    clock now (turns ++ [t]) = t.now := by
  induction turns generalizing now with
  | nil => rfl
  | cons head rest ih => exact ih head.now

theorem inTime_append_singleton :
    s.InTime now (turns ++ [t]) ↔
      s.InTime now turns ∧ (s.after turns).Allows (clock now turns) t := by
  induction turns generalizing s now with
  | nil => simp [InTime, after, clock]
  | cons head rest ih =>
      show s.Allows now head ∧ (s.turn head).InTime head.now (rest ++ [t]) ↔ _
      rw [ih, ← and_assoc]
      rfl

end Server

namespace Timeline

open Server

variable {t : Timeline} {deliveries : Nat → Delivery} {moments : List Moment} {time : Nat}
  {event : Event}

/-- A step that is due can be taken. -/
theorem Due.allows (h : t.Due time event) {now : Nat} (hnow : now ≤ t.now) (delivery : Delivery) :
    t.server.Allows now ⟨event, time, delivery⟩ where
  now_le := hnow.trans h.now_le
  expiries := h.expiries
  retries := h.retries
  due due hdue := by
    cases event with
    | expire handle =>
        obtain ⟨hmem, htime⟩ := h.expiry handle rfl
        simp only [dueTime?, if_pos hmem] at hdue
        exact htime.trans (Option.some.inj hdue)
    | retry place =>
        obtain ⟨retry, hretry, htime⟩ := h.retry place rfl
        simp only [dueTime?, hretry] at hdue
        exact htime.trans (Option.some.inj hdue)
    | receive source datagram => cases hdue
    | receiveFailed cause => cases hdue
    | handle source datagram => cases hdue
    | stop => cases hdue

/-- The steps of a timeline are turns in time, and its clock is not behind them. -/
structure Scheduled (origin : Server) (deliveries : Nat → Delivery) (t : Timeline)
    (moments : List Moment) : Prop where
  follows : Follows origin deliveries t moments
  inTime : origin.InTime 0 (turns deliveries moments)
  clock_le : clock 0 (turns deliveries moments) ≤ t.now

theorem scheduled_kept (origin : Server) (deliveries : Nat → Delivery) :
    Kept deliveries (Scheduled origin deliveries) where
  take {t moments time event} ht hdue h := by
    have hallows := hdue.allows h.clock_le (deliveries moments.length)
    rw [h.follows.server] at hallows
    refine ⟨(follows_kept origin deliveries).take ht hdue h.follows, ?_, ?_⟩
    · rw [turns_append_singleton, inTime_append_singleton]
      exact ⟨h.inTime, hallows⟩
    · rw [turns_append_singleton, clock_append_singleton]
      exact le_rfl
  rest hle h := ⟨⟨h.follows.taken, h.follows.server⟩, h.inTime, h.clock_le.trans hle⟩

theorem scheduled_run {network : Network} {settings : Settings} {bound : Outcome}
    (hbind : bind network settings = .ok bound) (deliveries : Nat → Delivery)
    (actions : List Action) :
    let ran := (start bound.server).run deliveries actions
    ran.1.AtRest ∧ Scheduled bound.server deliveries ran.1 ran.2 := by
  have hstart : Scheduled bound.server deliveries (start bound.server) [] :=
    ⟨⟨rfl, rfl⟩, trivial, le_rfl⟩
  exact (scheduled_kept bound.server deliveries).run (atRest_start hbind) hstart actions

end Timeline

end Rendezvous
