import Rendezvous.Server

/-!
A server in time. The clock stands still while a step is taken and moves only when it is told to;
on its way it stops at every timer that is due and lets it go off. Where several are due at one
instant, expiries come before retries, and older ones before younger ones.
-/
namespace Rendezvous

namespace Server

inductive Timer
  | expiry (handle : Nat)
  | retry (place : Nat)
  deriving DecidableEq, Repr

def Timer.event : Timer → Event
  | expiry handle => .expire handle
  | retry place => .retry place

/-- When a session expires. -/
def deadline (s : Server) (handle : Nat) : Nat :=
  match s.registry.lease? handle with
  | none => 0
  | some lease => lease.createdAt + s.settings.lifetime

def expiryTimers (s : Server) : List (Nat × Timer) :=
  s.expiries.map fun handle => (s.deadline handle, .expiry handle)

def retryTimers (s : Server) : List (Nat × Timer) :=
  s.retries.mapIdx fun place retry => (retry.due, .retry place)

/-- The first of those that are due before all others. -/
def earliest : List (Nat × Timer) → Option (Nat × Timer)
  | [] => none
  | timer :: rest =>
    match earliest rest with
    | none => some timer
    | some other => if other.1 < timer.1 then some other else some timer

/-- The next timer to go off, when it is due by then. -/
def next? (s : Server) (limit : Nat) : Option (Nat × Timer) :=
  (earliest (s.expiryTimers ++ s.retryTimers)).filter (·.1 ≤ limit)

/-- Bounds the number of timers that go off up to a time. -/
def pending (s : Server) (limit : Nat) : Nat :=
  s.expiries.length + s.retries.foldr (limit + 1 - ·.due + ·) 0

theorem earliest_mem {timers : List (Nat × Timer)} {timer : Nat × Timer}
    (h : earliest timers = some timer) : timer ∈ timers := by
  induction timers generalizing timer with
  | nil => simp [earliest] at h
  | cons head rest ih =>
    unfold earliest at h
    split at h
    · obtain rfl := Option.some.inj h
      exact List.mem_cons_self
    · next other hother =>
      split at h <;> obtain rfl := Option.some.inj h
      · exact List.mem_cons_of_mem _ (ih hother)
      · exact List.mem_cons_self

theorem next?_eq_some {s : Server} {limit due : Nat} {timer : Timer}
    (h : s.next? limit = some (due, timer)) :
    due ≤ limit ∧
      ((∃ handle ∈ s.expiries, due = s.deadline handle ∧ timer = .expiry handle) ∨
        ∃ place retry, s.retries[place]? = some retry ∧ due = retry.due ∧
          timer = .retry place) := by
  obtain ⟨hmem, hdue⟩ := Option.filter_eq_some_iff.1 h
  refine ⟨by simpa using hdue, ?_⟩
  rcases List.mem_append.1 (earliest_mem hmem) with hexp | hret
  · obtain ⟨handle, hhandle, heq⟩ := List.mem_map.1 hexp
    obtain ⟨rfl, rfl⟩ := Prod.mk.inj heq
    exact .inl ⟨handle, hhandle, rfl, rfl⟩
  · obtain ⟨place, hplace, heq⟩ := List.mem_mapIdx.1 hret
    obtain ⟨rfl, rfl⟩ := Prod.mk.inj heq
    exact .inr ⟨place, s.retries[place], by simp [hplace], rfl, rfl⟩

theorem wake_expiries (s : Server) (delivery : Delivery) (now place : Nat) :
    (s.wake delivery now place).server.expiries = s.expiries := by
  unfold wake
  split
  · rfl
  · dsimp only
    split
    · rfl
    · split
      · split <;> rfl
      · rfl

/-- A retry that wakes up either ends or sleeps for its interval. -/
theorem wake_retries {s : Server} (delivery : Delivery) (now : Nat) {place : Nat} {retry : Retry}
    (h : s.retries[place]? = some retry) :
    (s.wake delivery now place).server.retries = s.retries.eraseIdx place ∨
      (s.wake delivery now place).server.retries =
        s.retries.set place { retry with due := now + s.settings.retryInterval } := by
  unfold wake
  rw [h]
  dsimp only
  split
  · exact .inl rfl
  · split
    · split
      · exact .inl rfl
      · exact .inr rfl
    · exact .inl rfl

theorem expire_retries (s : Server) (delivery : Delivery) (handle : Nat) :
    (s.expire delivery handle).server.retries = s.retries := by
  unfold expire
  split
  · dsimp only
    split <;> rfl
  · rfl

theorem expire_expiries {s : Server} {delivery : Delivery} {handle : Nat}
    (h : handle ∈ s.expiries) :
    (s.expire delivery handle).server.expiries = s.expiries.erase handle := by
  unfold expire
  rw [if_pos h]
  dsimp only
  split <;> rfl

theorem foldr_add_eraseIdx {α : Type} (f : α → Nat) {l : List α} {place : Nat} {a : α}
    (h : l[place]? = some a) : (l.eraseIdx place).foldr (f · + ·) 0 + f a = l.foldr (f · + ·) 0 := by
  induction l generalizing place with
  | nil => simp at h
  | cons head rest ih =>
    cases place with
    | zero =>
      obtain rfl : head = a := by simpa using h
      simp [Nat.add_comm]
    | succ place =>
      have := ih (show rest[place]? = some a by simpa using h)
      simp only [List.eraseIdx_cons_succ, List.foldr_cons]
      omega

theorem foldr_add_set {α : Type} (f : α → Nat) {l : List α} {place : Nat} {a : α} (b : α)
    (h : l[place]? = some a) :
    (l.set place b).foldr (f · + ·) 0 + f a = l.foldr (f · + ·) 0 + f b := by
  induction l generalizing place with
  | nil => simp at h
  | cons head rest ih =>
    cases place with
    | zero =>
      obtain rfl : head = a := by simpa using h
      simp only [List.set_cons_zero, List.foldr_cons]
      omega
    | succ place =>
      have := ih (show rest[place]? = some a by simpa using h)
      simp only [List.set_cons_succ, List.foldr_cons]
      omega

/-- Every timer that goes off leaves less to be done. -/
theorem pending_step_lt {s : Server} {delivery : Delivery} {limit due : Nat} {timer : Timer}
    (h : s.next? limit = some (due, timer)) :
    (s.step delivery due timer.event).server.pending limit < s.pending limit := by
  obtain ⟨hdue, ⟨handle, hhandle, -, rfl⟩ | ⟨place, retry, hretry, rfl, rfl⟩⟩ := next?_eq_some h
  · have hpos := List.length_pos_of_mem hhandle
    simp only [Timer.event, step, pending, expire_retries, expire_expiries hhandle,
      List.length_erase_of_mem hhandle]
    omega
  · have hinterval := s.valid.2.1
    simp only [Timer.event, step, pending, wake_expiries]
    rcases wake_retries delivery retry.due hretry with hafter | hafter
    · rw [hafter]
      have := foldr_add_eraseIdx (fun r : Retry => limit + 1 - r.due) hretry
      omega
    · rw [hafter]
      have := foldr_add_set (fun r : Retry => limit + 1 - r.due)
        { retry with due := retry.due + s.settings.retryInterval } hretry
      dsimp only at this
      omega

end Server

/-- One step that was taken, and when. -/
structure Moment where
  time : Nat
  event : Server.Event
  outcome : Server.Outcome

structure Timeline where
  now : Nat
  server : Server
  /-- How many steps have been taken. -/
  taken : Nat

namespace Timeline

def start (server : Server) : Timeline :=
  ⟨0, server, 0⟩

/-- Takes one step; `deliveries` tells what becomes of the datagrams of every step. -/
def take (t : Timeline) (deliveries : Nat → Delivery) (time : Nat) (event : Server.Event) :
    Timeline × Moment :=
  let outcome := t.server.step (deliveries t.taken) time event
  (⟨time, outcome.server, t.taken + 1⟩, ⟨time, event, outcome⟩)

/-- Moves the clock, and lets every timer go off that is due on the way. -/
def advanceTo (t : Timeline) (deliveries : Nat → Delivery) (limit : Nat) :
    Timeline × List Moment :=
  match _h : t.server.next? limit with
  | none => ({ t with now := limit }, [])
  | some (due, timer) =>
    let first := t.take deliveries due timer.event
    let others := first.1.advanceTo deliveries limit
    (others.1, first.2 :: others.2)
termination_by t.server.pending limit
decreasing_by exact Server.pending_step_lt ‹_›

/-- A step from outside; retries that it starts take their first step at the same instant. -/
def act (t : Timeline) (deliveries : Nat → Delivery) (event : Server.Event) :
    Timeline × List Moment :=
  let first := t.take deliveries t.now event
  let others := first.1.advanceTo deliveries t.now
  (others.1, first.2 :: others.2)

end Timeline

end Rendezvous
