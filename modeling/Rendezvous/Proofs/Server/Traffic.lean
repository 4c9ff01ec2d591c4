import Rendezvous.Proofs.Server.Requests
import Rendezvous.Proofs.Server.Schedule

/-!
How much the retries send. A retry wakes up at its start and after every interval until its session
is closed, so within the lifetime of the session it wakes up a bounded number of times, and each
time it has at most two Connect-Requests to send. As no two clients are joined twice, a session has
no more retries than pairs of clients. Nothing but a retry sends Connect-Requests, so this bounds
all of them, whether they arrive or not, whatever the clients answer, and whichever of several turns
of one instant comes first.

The account is kept by what the retries of a session have sent so far and what they may still send
before the session expires: an edge adds to it once, when it is issued.
-/
namespace Rendezvous

namespace Server

variable {s : Server} {t : Turn} {handle : Nat}

/-! ### What may still be sent -/

/-- How often a retry may still wake up and send for a session that expires at `deadline`. -/
def wakingsOf (deadline interval handle : Nat) (retry : Retry) : Nat :=
  if retry.handle = handle then (deadline + interval - retry.due) / interval else 0

def wakings (deadline interval handle : Nat) (retries : List Retry) : Nat :=
  retries.foldr (wakingsOf deadline interval handle · + ·) 0

variable {deadline interval place : Nat} {retries : List Retry} {retry : Retry}

theorem wakings_cons (deadline interval handle : Nat) (retry : Retry) (rest : List Retry) :
    wakings deadline interval handle (retry :: rest) =
      wakingsOf deadline interval handle retry + wakings deadline interval handle rest := rfl

theorem wakings_append (deadline interval handle : Nat) (retries more : List Retry) :
    wakings deadline interval handle (retries ++ more) =
      wakings deadline interval handle retries + wakings deadline interval handle more := by
  induction retries with
  | nil => simp [wakings]
  | cons retry rest ih => rw [List.cons_append, wakings_cons, wakings_cons, ih, Nat.add_assoc]

theorem wakings_eq_zero (h : ∀ retry ∈ retries, retry.handle ≠ handle) :
    wakings deadline interval handle retries = 0 := by
  induction retries with
  | nil => rfl
  | cons retry rest ih =>
      rw [wakings_cons, ih fun other hother => h other (List.mem_cons_of_mem _ hother), wakingsOf,
        if_neg (h retry List.mem_cons_self)]

/-- A retry that starts wakes up at once, and then once for every interval up to the deadline. -/
theorem wakings_started (handle lifetime : Nat) {createdAt now : Nat} (hinterval : 0 < interval)
    (hnow : createdAt ≤ now) (edges : List Edge) :
    wakings (createdAt + lifetime) interval handle (edges.map fun edge => ⟨handle, edge, now⟩) ≤
      edges.length * (lifetime / interval + 1) := by
  have hone (edge : Edge) : wakingsOf (createdAt + lifetime) interval handle ⟨handle, edge, now⟩ ≤
      lifetime / interval + 1 := by
    rw [wakingsOf, if_pos rfl, ← Nat.add_div_right lifetime hinterval]
    exact Nat.div_le_div_right (by dsimp only; omega)
  induction edges with
  | nil => exact Nat.zero_le _
  | cons edge rest ih =>
      rw [List.map_cons, wakings_cons, List.length_cons, Nat.succ_mul, Nat.add_comm]
      exact Nat.add_le_add ih (hone edge)

theorem wakings_ended (deadline interval handle : Nat) (h : retries[place]? = some retry) :
    wakings deadline interval handle (retries.eraseIdx place) ≤
      wakings deadline interval handle retries :=
  Nat.le_of_add_right_le (foldr_add_eraseIdx (wakingsOf deadline interval handle) h).le

/-- A retry that wakes up before the deadline and sleeps on wakes up once less. -/
theorem wakings_delayed (hinterval : 0 < interval) (h : retries[place]? = some retry)
    {handle : Nat} (hdue : retry.handle = handle → retry.due ≤ deadline) :
    wakings deadline interval handle
        (retries.set place { retry with due := retry.due + interval }) +
      (if retry.handle = handle then 1 else 0) = wakings deadline interval handle retries := by
  have hsum := foldr_add_set (wakingsOf deadline interval handle)
    { retry with due := retry.due + interval } h
  have hone : wakingsOf deadline interval handle retry =
      wakingsOf deadline interval handle { retry with due := retry.due + interval } +
        if retry.handle = handle then 1 else 0 := by
    unfold wakingsOf
    dsimp only
    split
    · next hhandle =>
      have hle := hdue hhandle
      rw [← Nat.add_div_right _ hinterval]
      congr 1
      omega
    · rfl
  simp only [wakings]
  omega

/-! ### The account of a session -/

/-- Every edge that a session has issued pays for the Connect-Requests of one retry: for those that
have been sent, `spent` in all, and those that may still be sent. No retry of a session sleeps for
longer than an interval beyond its lifetime. -/
structure Paid (lifetime interval handle : Nat) (retries : List Retry) (now spent : Nat)
    (l : Lease) : Prop where
  created : l.createdAt ≤ now
  within : ∃ issued, l.session.Accounted issued ∧
    spent + 2 * wakings (l.createdAt + lifetime) interval handle retries ≤
      2 * (issued.length * (lifetime / interval + 1))
  latest : ∀ retry ∈ retries, retry.handle = handle →
    retry.due ≤ l.createdAt + lifetime + interval

namespace Paid

variable {lifetime now spent : Nat} {l : Lease}

theorem fresh (cookie : UInt32) (version : UInt8)
    (hnone : ∀ retry ∈ retries, retry.handle ≠ handle) :
    Paid lifetime interval handle retries now 0 ⟨.fresh cookie version, true, now⟩ where
  created := le_rfl
  within := ⟨[], .start cookie version, by rw [wakings_eq_zero hnone]; exact Nat.zero_le _⟩
  latest retry hretry hhandle := absurd hhandle (hnone retry hretry)

theorem later {after : Nat} (h : Paid lifetime interval handle retries now spent l)
    (hle : now ≤ after) : Paid lifetime interval handle retries after spent l where
  created := h.created.trans hle
  within := h.within
  latest := h.latest

theorem close (h : Paid lifetime interval handle retries now spent l) :
    Paid lifetime interval handle retries now spent l.close where
  created := h.created
  within := h.within
  latest := h.latest

/-- Every edge that a packet brings about starts a retry, and pays for it. -/
theorem handled (h : Paid lifetime interval handle retries now spent l) (hinterval : 0 < interval)
    (hnow : now ≤ l.createdAt + lifetime) (p : Packet) :
    Paid lifetime interval handle
      (retries ++ (l.session.handle p).edges.map fun edge => ⟨handle, edge, now⟩) now spent
      { l with session := (l.session.handle p).session } where
  created := h.created
  within := by
    obtain ⟨issued, haccounted, hwithin⟩ := h.within
    have hstarted := wakings_started handle lifetime hinterval h.created
      (l.session.handle p).edges
    refine ⟨_, Session.accounted_stable.handle p haccounted, ?_⟩
    rw [wakings_append, List.length_append, Nat.add_mul]
    dsimp only
    omega
  latest retry hretry hhandle := by
    rcases List.mem_append.1 hretry with hold | hnew
    · exact h.latest retry hold hhandle
    · obtain ⟨edge, -, rfl⟩ := List.mem_map.1 hnew
      exact hnow.trans (Nat.le_add_right _ _)

/-- The retries of other sessions do not matter. -/
theorem append (h : Paid lifetime interval handle retries now spent l) {more : List Retry}
    (hmore : ∀ retry ∈ more, retry.handle ≠ handle) :
    Paid lifetime interval handle (retries ++ more) now spent l where
  created := h.created
  within := by
    rw [wakings_append, wakings_eq_zero hmore]
    exact h.within
  latest retry hretry hhandle := by
    rcases List.mem_append.1 hretry with hold | hnew
    · exact h.latest retry hold hhandle
    · exact absurd hhandle (hmore retry hnew)

theorem ended (h : Paid lifetime interval handle retries now spent l)
    (hretry : retries[place]? = some retry) :
    Paid lifetime interval handle (retries.eraseIdx place) now spent l where
  created := h.created
  within := by
    obtain ⟨issued, haccounted, hwithin⟩ := h.within
    have hfewer := wakings_ended (l.createdAt + lifetime) interval handle hretry
    exact ⟨issued, haccounted, by omega⟩
  latest other hother := h.latest other (List.mem_of_mem_eraseIdx hother)

/-- A retry that sleeps on has sent two Connect-Requests at most, and wakes up once less. -/
theorem delayed (h : Paid lifetime interval handle retries now spent l) (hinterval : 0 < interval)
    (hretry : retries[place]? = some retry) (hdue : now = retry.due) {count : Nat}
    (hcount : count ≤ 2) (hnow : retry.handle = handle → now ≤ l.createdAt + lifetime) :
    Paid lifetime interval handle (retries.set place { retry with due := now + interval }) now
      (spent + if retry.handle = handle then count else 0) l where
  created := h.created
  within := by
    obtain ⟨issued, haccounted, hwithin⟩ := h.within
    subst hdue
    have hfewer := wakings_delayed hinterval hretry hnow
    refine ⟨issued, haccounted, ?_⟩
    split
    · next hhandle =>
      rw [if_pos hhandle] at hfewer
      omega
    · next hhandle =>
      rw [if_neg hhandle] at hfewer
      omega
  latest other hother hhandle := by
    rcases List.mem_or_eq_of_mem_set hother with hold | rfl
    · exact h.latest other hold hhandle
    · exact Nat.add_le_add_right (hnow hhandle) interval

end Paid

/-! ### The account of all sessions -/

/-- The account is kept for every session that there is, and nothing is sent for any other. -/
structure Frugal (lifetime interval : Nat) (r : Registry) (retries : List Retry) (now : Nat)
    (spent : Nat → Nat) : Prop where
  known : ∀ retry ∈ retries, retry.handle < r.leases.length
  unspent : ∀ {handle}, r.lease? handle = none → spent handle = 0
  paid : ∀ {handle lease}, r.lease? handle = some lease →
    Paid lifetime interval handle retries now (spent handle) lease

namespace Frugal

variable {lifetime now : Nat} {r : Registry} {spent : Nat → Nat} {lease : Lease}

theorem start (lifetime interval now : Nat) :
    Frugal lifetime interval .empty [] now (fun _ => 0) where
  known _ h := absurd h List.not_mem_nil
  unspent _ := rfl
  paid h := by simp [Registry.empty, Registry.lease?] at h

theorem later {after : Nat} (h : Frugal lifetime interval r retries now spent)
    (hle : now ≤ after) : Frugal lifetime interval r retries after spent where
  known := h.known
  unspent := h.unspent
  paid hlease := (h.paid hlease).later hle

theorem opened (h : Frugal lifetime interval r retries now spent) (cookie : UInt32)
    (version : UInt8) :
    Frugal lifetime interval (r.opened now cookie version) retries now spent where
  known retry hretry := by
    rw [Registry.length_leases_opened]
    exact Nat.lt_succ_of_lt (h.known retry hretry)
  unspent hnone := by
    rw [Registry.lease?_opened] at hnone
    split at hnone
    · cases hnone
    · exact h.unspent hnone
  paid hlease := by
    rw [Registry.lease?_opened] at hlease
    split at hlease
    · next hnew =>
      obtain rfl := Option.some.inj hlease
      rw [h.unspent (List.getElem?_eq_none hnew.ge)]
      -- No retry can be meant for a handle that has only now been given.
      exact .fresh cookie version fun retry hretry => (hnew ▸ h.known retry hretry).ne
    · exact h.paid hlease

theorem handled (h : Frugal lifetime interval r retries now spent) (hinterval : 0 < interval)
    (hlease : r.lease? handle = some lease) (hnow : now ≤ lease.createdAt + lifetime)
    (p : Packet) :
    Frugal lifetime interval (r.setSession handle (lease.session.handle p).session)
      (retries ++ (lease.session.handle p).edges.map fun edge => ⟨handle, edge, now⟩) now
      spent where
  known retry hretry := by
    rw [Registry.length_leases_setSession]
    rcases List.mem_append.1 hretry with hold | hnew
    · exact h.known retry hold
    · obtain ⟨edge, -, rfl⟩ := List.mem_map.1 hnew
      exact Registry.lt_length_of_lease? hlease
  unspent hnone := by
    rw [Registry.lease?_setSession, Option.map_eq_none_iff] at hnone
    exact h.unspent hnone
  paid {other l} hl := by
    rw [Registry.lease?_setSession] at hl
    obtain ⟨old, hold, rfl⟩ := Option.map_eq_some_iff.1 hl
    by_cases hother : other = handle
    · subst hother
      obtain rfl := Option.some.inj (hlease.symm.trans hold)
      rw [if_pos rfl]
      exact (h.paid hlease).handled hinterval hnow p
    · rw [if_neg hother]
      refine (h.paid hold).append fun retry hretry => ?_
      obtain ⟨edge, -, rfl⟩ := List.mem_map.1 hretry
      exact Ne.symm hother

theorem ended (h : Frugal lifetime interval r retries now spent)
    (hretry : retries[place]? = some retry) :
    Frugal lifetime interval r (retries.eraseIdx place) now spent where
  known other hother := h.known other (List.mem_of_mem_eraseIdx hother)
  unspent := h.unspent
  paid hlease := (h.paid hlease).ended hretry

theorem delayed (h : Frugal lifetime interval r retries now spent) (hinterval : 0 < interval)
    (hretry : retries[place]? = some retry) (hdue : now = retry.due)
    (hlease : r.lease? retry.handle = some lease) (hnow : now ≤ lease.createdAt + lifetime)
    {count : Nat} (hcount : count ≤ 2) :
    Frugal lifetime interval r (retries.set place { retry with due := now + interval }) now
      (fun handle => spent handle + if retry.handle = handle then count else 0) where
  known other hother := by
    rcases List.mem_or_eq_of_mem_set hother with hold | rfl
    · exact h.known other hold
    · exact Registry.lt_length_of_lease? hlease
  unspent {handle} hnone := by
    have hother : retry.handle ≠ handle := by
      rintro rfl
      rw [hlease] at hnone
      cases hnone
    rw [if_neg hother]
    exact h.unspent hnone
  paid {handle l} hl := by
    refine (h.paid hl).delayed hinterval hretry hdue hcount fun hhandle => ?_
    obtain rfl := Option.some.inj (hlease.symm.trans (hhandle ▸ hl))
    exact hnow

theorem expired (h : Frugal lifetime interval r retries now spent) (handle : Nat) :
    Frugal lifetime interval (r.expire handle).1 retries now spent where
  known retry hretry := by
    rw [Registry.length_leases_expire]
    exact h.known retry hretry
  unspent hnone := by
    rw [Registry.lease?_expire, Option.map_eq_none_iff] at hnone
    exact h.unspent hnone
  paid hl := by
    rw [Registry.lease?_expire] at hl
    obtain ⟨old, hold, rfl⟩ := Option.map_eq_some_iff.1 hl
    split
    · exact (h.paid hold).close
    · exact h.paid hold

/-- A packet comes to an open session, or opens one, and nothing is sent for it by a retry. -/
theorem route (h : Frugal lifetime interval r retries now spent) (hinterval : 0 < interval)
    (hsound : r.Sound)
    (hnow : ∀ {handle lease}, r.lease? handle = some lease → lease.isOpen →
      now ≤ lease.createdAt + lifetime) (p : Packet) :
    Frugal lifetime interval (r.route now p).1 (retries ++ (r.route now p).2) now spent := by
  have hlinked {r : Registry} {handle : Nat} {lease : Lease}
      (h : Frugal lifetime interval r retries now spent)
      (hlinked : r.linked? p.header.cookie = some handle) (hlease : r.lease? handle = some lease)
      (hnow : now ≤ lease.createdAt + lifetime) :
      Frugal lifetime interval (r.route now p).1 (retries ++ (r.route now p).2) now spent := by
    rw [Registry.route_of_linked hlinked hlease]
    by_cases hversion : lease.session.version = p.header.version
    · rw [Session.accept_of_version hversion]
      exact h.handled hinterval hlease hnow p
    · rw [Session.accept_of_other_version hversion]
      simpa [Session.refuse, Reaction.edges, Registry.setSession_self hlease] using h
  cases hfree : r.linked? p.header.cookie with
  | none =>
      rw [Registry.route_of_not_linked hfree]
      exact hlinked (h.opened _ _) (r.linked?_opened_self now _ _) (r.lease?_opened_self now _ _)
        (Nat.le_add_right now lifetime)
  | some handle =>
      obtain ⟨lease, hlease, hopen, -⟩ := (hsound p.header.cookie handle).1 hfree
      exact hlinked h hfree hlease (hnow hlease hopen)

end Frugal

/-- The account is kept by every turn in time. -/
theorem Frugal.turn {now : Nat} {spent : Nat → Nat}
    (h : Frugal s.settings.lifetime s.settings.retryInterval s.registry s.retries now spent)
    (hsound : s.registry.Sound) (harmed : Armed s.registry s.expiries) (ht : s.Allows now t) :
    Frugal s.settings.lifetime s.settings.retryInterval (s.turn t).registry (s.turn t).retries t.now
      (fun handle => spent handle + (s.requestsIn handle t).length) := by
  have hinterval : 0 < s.settings.retryInterval := s.valid.2.1
  have hnow {handle lease} (hlease : s.registry.lease? handle = some lease) (hopen : lease.isOpen) :
      t.now ≤ lease.createdAt + s.settings.lifetime := by
    have hdue := ht.expiries handle ((harmed.mem_iff handle).2 ⟨lease, hlease, hopen⟩)
    rwa [deadline, hlease] at hdue
  replace h := h.later ht.now_le
  show Frugal _ _ (s.turn t).essence.registry (s.turn t).essence.retries t.now _
  by_cases hwake : ∃ place, t.event = .retry place
  · obtain ⟨place, hevent⟩ := hwake
    obtain ⟨event, now, delivery⟩ := t
    obtain rfl : event = .retry place := hevent
    cases hretry : s.retries[place]? with
    | none =>
        have hturn : (s.turn ⟨.retry place, now, delivery⟩).essence = s.essence := by
          simp [turn, step, wake, hretry, quiet]
        rw [hturn]
        simpa [requestsIn, hretry, essence] using h
    | some retry =>
        have hdue : now = retry.due := ht.due retry.due (by simp [dueTime?, hretry])
        simp only [requestsIn_of_retry hretry]
        rcases essence_wake hretry delivery now with ⟨-, hnone, hturn⟩ |
          ⟨lease, datagrams, hlease, hopen, -, -, hturn⟩
        · change (s.turn ⟨.retry place, now, delivery⟩).essence = _ at hturn
          rw [hturn, hnone]
          simpa [essence] using h.ended hretry
        · change (s.turn ⟨.retry place, now, delivery⟩).essence = _ at hturn
          have hsleeps := h.delayed hinterval hretry hdue hlease (hnow hlease hopen)
            (attempts_wake hretry delivery now).1
          rw [hturn]
          simpa [apply_ite List.length, essence] using hsleeps
  · have hevent (place : Nat) : t.event ≠ .retry place := fun heq => hwake ⟨place, heq⟩
    simp only [requestsIn_of_ne hevent, List.length_nil, Nat.add_zero]
    cases hp : s.packet? t.event with
    | some p =>
        rw [essence_turn_of_packet hp]
        exact h.route hinterval hsound hnow p
    | none =>
        rcases essence_turn_of_no_packet hp with hturn | ⟨place, _, heq, -⟩ | ⟨place, _, heq, -⟩ |
          ⟨expired, -, -, hturn⟩
        · rw [hturn]
          exact h
        · exact absurd heq (hevent place)
        · exact absurd heq (hevent place)
        · rw [hturn]
          exact h.expired expired

theorem Frugal.after {now : Nat} {spent : Nat → Nat}
    (h : Frugal s.settings.lifetime s.settings.retryInterval s.registry s.retries now spent)
    (hsound : s.registry.Sound) (harmed : Armed s.registry s.expiries) {turns : List Turn}
    (hturns : s.InTime now turns) :
    Frugal s.settings.lifetime s.settings.retryInterval (s.after turns).registry
      (s.after turns).retries (clock now turns)
      (fun handle => spent handle + (s.requests handle turns).length) := by
  induction turns generalizing s now spent with
  | nil => simpa [requests, Server.after, clock] using h
  | cons t rest ih =>
      have hturn := h.turn hsound harmed hturns.1
      rw [← settings_turn s t] at hturn ⊢
      have hrest := ih hturn (sound_after hsound [t]) (harmed.turn hsound t) hturns.2
      simp only [requests, List.length_append, ← Nat.add_assoc]
      exact hrest

/-- The account of a server that has taken any turns in time from its beginning on. -/
theorem frugal_run {network : Network} {settings : Settings} {start : Outcome}
    (hbind : bind network settings = .ok start) {turns : List Turn}
    (hturns : start.server.InTime 0 turns) :
    let s := start.server.after turns
    Frugal settings.lifetime settings.retryInterval s.registry s.retries (clock 0 turns)
      fun handle => (start.server.requests handle turns).length := by
  obtain ⟨valid, address, hserver⟩ := server_of_bind hbind
  rw [hserver] at hturns ⊢
  have h := (Frugal.start settings.lifetime settings.retryInterval 0).after
    (s := Server.start settings valid address) Registry.sound_empty .start hturns
  simp only [Nat.zero_add] at h
  exact h

/-! ### The bound -/

/-- A session with `n` clients has been sent at most `n * (n - 1)` Connect-Requests for every time
that a retry can wake up in its lifetime. -/
theorem Paid.spent_le {lifetime now spent : Nat} {l : Lease}
    (h : Paid lifetime interval handle retries now spent l) :
    spent ≤ l.session.clients.size * (l.session.clients.size - 1) * (lifetime / interval + 1) := by
  obtain ⟨issued, haccounted, hwithin⟩ := h.within
  have hissued : 2 * issued.length ≤ l.session.clients.size * (l.session.clients.size - 1) := by
    have hpairs := haccounted.length_issued_le
    rw [Nat.choose_two_right] at hpairs
    omega
  calc spent ≤ 2 * (issued.length * (lifetime / interval + 1)) := by omega
    _ = 2 * issued.length * (lifetime / interval + 1) := (Nat.mul_assoc _ _ _).symm
    _ ≤ _ := Nat.mul_le_mul_right _ hissued

/-- When the last time at which a retry can still wake up has passed, none runs any more. -/
theorem Paid.running_eq_nil {lifetime now spent : Nat} {l : Lease}
    (h : Paid lifetime interval handle s.retries now spent l)
    (hpassed : ∀ retry ∈ s.retries, l.createdAt + lifetime + interval < retry.due) :
    s.running handle = [] :=
  edgesFor_eq_nil fun retry hretry hhandle =>
    absurd (h.latest retry hretry hhandle) (hpassed retry hretry).not_ge

/-- In every run in time, with any traffic, any fate of the datagrams and any order of the turns of
one instant, at most `n * (n - 1) * (lifetime / retryInterval + 1)` Connect-Requests are attempted
for a session that has `n` clients by then, and none after its expiry. When its lifetime and one
interval more have gone by, every retry of the session has ended. Retries attempt Connect-Requests
and nothing else does. The runs of timelines are among these runs. -/
theorem retry_traffic_is_bounded {network : Network} {settings : Settings} {bound : Outcome}
    (hbind : bind network settings = .ok bound) :
    (∀ turns, bound.server.InTime 0 turns →
      let s := bound.server.after turns
      (∀ handle lease, s.registry.lease? handle = some lease →
        let n := lease.session.clients.size
        (bound.server.requests handle turns).length ≤
            n * (n - 1) * (settings.lifetime / settings.retryInterval + 1) ∧
          (∀ expiry later, expiry.event = .expire handle →
            (s.turn expiry).requests handle later = []) ∧
          ∀ t, s.Allows (clock 0 turns) t →
            lease.createdAt + settings.lifetime + settings.retryInterval < t.now →
            s.running handle = []) ∧
      ∀ t, ∀ a ∈ (s.step t.delivery t.now t.event).attempts,
        a.datagram.command? = some .connectRequest ↔ ∃ handle, a ∈ s.requestsIn handle t) ∧
    ∀ deliveries actions,
      let ran := (Timeline.start bound.server).run deliveries actions
      let turns := Timeline.turns deliveries ran.2
      ran.1.server = bound.server.after turns ∧ bound.server.InTime 0 turns ∧
        ∀ handle lease, ran.1.server.registry.lease? handle = some lease →
          lease.createdAt + settings.lifetime + settings.retryInterval ≤ ran.1.now →
          ran.1.server.running handle = [] := by
  refine ⟨fun turns hturns => ⟨fun handle lease hlease => ?_, fun t a ha =>
    command?_eq_connectRequest_iff ha⟩, fun deliveries actions => ?_⟩
  · have hpaid := (frugal_run hbind hturns).paid hlease
    refine ⟨hpaid.spent_le, fun expiry later hevent => ?_, fun t ht hlate => ?_⟩
    · have hsound := sound_stable.run Registry.sound_empty hbind turns
      have hclosed := closed_of_expiry (armed_run hbind turns) hsound hevent hlease
      exact requests_of_closed (sound_after hsound [expiry]) hclosed later
    · exact hpaid.running_eq_nil fun retry hretry => hlate.trans_le (ht.retries retry hretry)
  · intro ran turns
    obtain ⟨hrest, hscheduled⟩ := Timeline.scheduled_run hbind deliveries actions
    refine ⟨hscheduled.follows.server, hscheduled.inTime, fun handle lease hlease hlate => ?_⟩
    rw [hscheduled.follows.server] at hlease
    have hpaid := (frugal_run hbind hscheduled.inTime).paid hlease
    rw [← hscheduled.follows.server] at hpaid
    exact hpaid.running_eq_nil fun retry hretry =>
      hlate.trans_lt ((lt_of_next?_eq_none hrest.next).2 retry hretry)

/-- Two clients that never acknowledge, in a session that lives for two intervals: the last retry
comes at the instant of the expiry and before it, so the bound is reached, and after it nothing is
sent. -/
theorem retry_traffic_is_bounded_of_two :
    ∃ bound, bind .isolated { lifetime := 1000 } = .ok bound ∧
      let lost : Delivery := fun _ _ => some .networkUnreachable
      let turns : List Turn := [.ofPacket (.probeOf 1), .ofPacket (.probeOf 2), ⟨.retry 0, 0, lost⟩,
        ⟨.retry 0, 500, lost⟩, ⟨.retry 0, 1000, lost⟩]
      let expiry : Turn := ⟨.expire 0, 1000, lost⟩
      let s := bound.server.after turns
      bound.server.InTime 0 (turns ++ [expiry]) ∧
        (bound.server.requests 0 turns).length = 6 ∧
        (bound.server.requests 0 turns).length ≤ 2 * (2 - 1) * (1000 / 500 + 1) ∧
        (s.turn expiry).requests 0 [⟨.retry 0, 1500, lost⟩] = [] := by
  have hbind : bind .isolated { lifetime := 1000 } = .ok _ := rfl
  refine ⟨_, hbind, ?_⟩
  intro lost turns expiry s
  have hlease : s.registry.lease? 0 = some _ := (Option.some_get (by decide +kernel)).symm
  obtain ⟨hbound, hnever, -⟩ :=
    ((retry_traffic_is_bounded hbind).1 turns (by decide +kernel)).1 0 _ hlease
  exact ⟨by decide +kernel, by decide +kernel, hbound, hnever expiry _ rfl⟩

end Server

end Rendezvous
