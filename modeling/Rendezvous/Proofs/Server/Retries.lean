import Rendezvous.Proofs.Server.Run

/-!
The retries of a session. A retry starts for every edge that is issued, and it ends only when its
session is closed or its edge has settled. An edge that has settled stays settled, so of the edges
of an open session those without a retry are settled for good; and as no two clients are joined
twice, no two retries serve the same two clients. So a client that waits for its peer has exactly
one retry that reminds it, whatever else the server does and whatever becomes of its datagrams.
-/
namespace Rendezvous

/-- How the retries that run for a session stand to the edges that it issued: no edge has two, and
one without a retry needs none. -/
structure Lease.Attended (l : Lease) (running issued : List Edge) : Prop where
  accounted : l.session.Accounted issued
  subperm : running.Subperm issued
  settled : l.isOpen → ∀ e ∈ issued, e ∈ running ∨ l.session.Settled e

namespace Lease.Attended

variable {l : Lease} {running issued : List Edge}

theorem fresh (cookie : UInt32) (version : UInt8) (now : Nat) :
    Attended ⟨.fresh cookie version, true, now⟩ [] [] where
  accounted := .start cookie version
  subperm := List.Subperm.refl _
  settled _ _ he := absurd he List.not_mem_nil

/-- Every edge that a packet brings about starts a retry, and settled edges stay settled. -/
theorem handle (h : l.Attended running issued) (p : Packet) :
    Attended { l with session := (l.session.handle p).session }
      (running ++ (l.session.handle p).edges) (issued ++ (l.session.handle p).edges) where
  accounted := Session.accounted_stable.handle p h.accounted
  subperm := (List.subperm_append_right _).2 h.subperm
  settled hopen e he := by
    rcases List.mem_append.1 he with hold | hnew
    · rcases h.settled hopen e hold with hrunning | hsettled
      · exact .inl (List.mem_append_left _ hrunning)
      · exact .inr ((Session.settled_stable e).handle p ⟨h.accounted, hold, hsettled⟩).2.2
    · exact .inl (List.mem_append_right _ hnew)

theorem perm (h : l.Attended running issued) {others : List Edge} (hperm : others.Perm running) :
    l.Attended others issued where
  accounted := h.accounted
  subperm := hperm.subperm.trans h.subperm
  settled hopen e he := (h.settled hopen e he).imp_left hperm.mem_iff.2

/-- A retry may end when its edge has settled, or its session is closed. -/
theorem finish {e : Edge} (h : l.Attended (e :: running) issued)
    (hsettled : l.isOpen → l.session.Settled e) : l.Attended running issued where
  accounted := h.accounted
  subperm := (List.sublist_cons_self e running).subperm.trans h.subperm
  settled hopen other hother := by
    rcases h.settled hopen other hother with hmem | hdone
    · rcases List.mem_cons.1 hmem with rfl | hmem
      · exact .inr (hsettled hopen)
      · exact .inl hmem
    · exact .inr hdone

theorem close (h : l.Attended running issued) : l.close.Attended running issued where
  accounted := h.accounted
  subperm := h.subperm
  settled hopen := absurd hopen Bool.false_ne_true

/-- No two retries serve the same two clients. -/
theorem nodup_ends (h : l.Attended running issued) : (running.map Edge.ends).Nodup := by
  obtain ⟨sub, hperm, hsublist⟩ := h.subperm
  exact (hperm.map Edge.ends).nodup_iff.1 (h.accounted.nodup.sublist (hsublist.map Edge.ends))

/-- A client that waits for another has a retry. -/
theorem mem_ends_of_awaits (h : l.Attended running issued) (hopen : l.isOpen) {a b : UInt8}
    (hab : a ≠ b) (hawaits : l.session.Awaits a b) : s(a, b) ∈ running.map Edge.ends := by
  have hmet : l.session.HasMet a b := by
    obtain ⟨c, hc, htarget, -⟩ := hawaits
    exact ⟨c, hc, .inl htarget⟩
  obtain ⟨e, he, hends⟩ := List.mem_map.1 ((h.accounted.hasMet_iff hab).1 hmet)
  rcases h.settled hopen e he with hrunning | hsettled
  · exact List.mem_map.2 ⟨e, hrunning, hends⟩
  · exact absurd hawaits ((h.accounted.settled_iff he).1 hsettled a b hends)

end Lease.Attended

namespace Server

variable {retries : List Retry} {handle : Nat}

/-! ### The retries of one session -/

/-- The edges that these retries serve for a session. -/
def edgesFor (handle : Nat) (retries : List Retry) : List Edge :=
  (retries.filter (·.handle = handle)).map (·.edge)

/-- The edges of the retries that run for a session. -/
def running (s : Server) (handle : Nat) : List Edge :=
  edgesFor handle s.retries

@[simp] theorem edgesFor_append (handle : Nat) (retries more : List Retry) :
    edgesFor handle (retries ++ more) = edgesFor handle retries ++ edgesFor handle more := by
  simp [edgesFor]

theorem edgesFor_started (handle now : Nat) (edges : List Edge) :
    edgesFor handle (edges.map fun edge => ⟨handle, edge, now⟩) = edges := by
  simp [edgesFor, List.filter_map, Function.comp_def]

theorem edgesFor_started_of_ne {other : Nat} (h : other ≠ handle) (now : Nat)
    (edges : List Edge) : edgesFor handle (edges.map fun edge => ⟨other, edge, now⟩) = [] := by
  simp [edgesFor, List.filter_map, Function.comp_def, h]

theorem edgesFor_eq_nil (h : ∀ retry ∈ retries, retry.handle ≠ handle) :
    edgesFor handle retries = [] := by
  simpa [edgesFor] using h

theorem edgesFor_cons (handle : Nat) (retry : Retry) (rest : List Retry) :
    edgesFor handle (retry :: rest) =
      if retry.handle = handle then retry.edge :: edgesFor handle rest
      else edgesFor handle rest := by
  by_cases h : retry.handle = handle
  · simp [edgesFor, h]
  · simp [edgesFor, h]

/-- When a retry wakes up next does not matter. -/
theorem edgesFor_delayed {place : Nat} {retry : Retry} (h : retries[place]? = some retry)
    (due : Nat) (handle : Nat) :
    edgesFor handle (retries.set place { retry with due := due }) = edgesFor handle retries := by
  induction retries generalizing place with
  | nil => rfl
  | cons head rest ih =>
      cases place with
      | zero =>
          obtain rfl : head = retry := by simpa using h
          rw [List.set_cons_zero, edgesFor_cons, edgesFor_cons]
      | succ place =>
          rw [List.set_cons_succ, edgesFor_cons, edgesFor_cons, ih (by simpa using h)]

theorem edgesFor_ended {place : Nat} {retry : Retry} (h : retries[place]? = some retry)
    (handle : Nat) :
    (edgesFor handle (retry :: retries.eraseIdx place)).Perm (edgesFor handle retries) := by
  obtain ⟨hlt, rfl⟩ := List.getElem?_eq_some_iff.1 h
  exact ((List.getElem_cons_eraseIdx_perm hlt).filter _).map _

/-! ### The retries of all sessions -/

/-- The retries that run attend to the sessions that there are, and to no others. -/
structure Attended (r : Registry) (retries : List Retry) : Prop where
  known : ∀ retry ∈ retries, retry.handle < r.leases.length
  attended : ∀ {handle lease}, r.lease? handle = some lease →
    ∃ issued, lease.Attended (edgesFor handle retries) issued

namespace Attended

variable {r : Registry}

theorem start : Attended .empty [] where
  known _ h := absurd h List.not_mem_nil
  attended h := by simp [Registry.empty, Registry.lease?] at h

theorem opened (h : Attended r retries) (now : Nat) (cookie : UInt32) (version : UInt8) :
    Attended (r.opened now cookie version) retries where
  known retry hretry := by
    have hlt := h.known retry hretry
    rw [Registry.length_leases_opened]
    omega
  attended {handle lease} hlease := by
    rw [Registry.lease?_opened] at hlease
    split at hlease
    · next hnew =>
      obtain rfl := Option.some.inj hlease
      -- No retry can be meant for a handle that has only now been given.
      have hnone : edgesFor handle retries = [] :=
        edgesFor_eq_nil fun retry hretry => by
          have hlt := h.known retry hretry
          omega
      rw [hnone]
      exact ⟨[], .fresh cookie version now⟩
    · exact h.attended hlease

theorem handled (h : Attended r retries) {lease : Lease} (hlease : r.lease? handle = some lease)
    (now : Nat) (p : Packet) :
    Attended (r.setSession handle (lease.session.handle p).session)
      (retries ++ (lease.session.handle p).edges.map fun edge => ⟨handle, edge, now⟩) where
  known retry hretry := by
    rw [Registry.length_leases_setSession]
    rcases List.mem_append.1 hretry with hold | hnew
    · exact h.known retry hold
    · obtain ⟨edge, -, rfl⟩ := List.mem_map.1 hnew
      exact Registry.lt_length_of_lease? hlease
  attended {other l} hl := by
    rw [Registry.lease?_setSession] at hl
    obtain ⟨old, hold, rfl⟩ := Option.map_eq_some_iff.1 hl
    obtain ⟨issued, hissued⟩ := h.attended hold
    rw [edgesFor_append]
    by_cases hother : other = handle
    · subst hother
      obtain rfl := Option.some.inj (hlease.symm.trans hold)
      rw [if_pos rfl, edgesFor_started]
      exact ⟨_, hissued.handle p⟩
    · rw [if_neg hother, edgesFor_started_of_ne (Ne.symm hother), List.append_nil]
      exact ⟨issued, hissued⟩

theorem ended (h : Attended r retries) {place : Nat} {retry : Retry}
    (hretry : retries[place]? = some retry)
    (hsettled : ∀ lease, r.lease? retry.handle = some lease → lease.isOpen →
      lease.session.Settled retry.edge) :
    Attended r (retries.eraseIdx place) where
  known other hother := h.known other (List.mem_of_mem_eraseIdx hother)
  attended {handle lease} hlease := by
    obtain ⟨issued, hissued⟩ := h.attended hlease
    have hperm := hissued.perm (edgesFor_ended hretry handle)
    rw [edgesFor_cons] at hperm
    split at hperm
    · next hhandle =>
      subst hhandle
      exact ⟨issued, hperm.finish (hsettled lease hlease)⟩
    · exact ⟨issued, hperm⟩

theorem delayed (h : Attended r retries) {place : Nat} {retry : Retry} (due : Nat)
    (hretry : retries[place]? = some retry) :
    Attended r (retries.set place { retry with due := due }) where
  known other hother := by
    rcases List.mem_or_eq_of_mem_set hother with hold | rfl
    · exact h.known other hold
    · exact h.known retry (List.mem_of_getElem? hretry)
  attended hlease := by
    rw [edgesFor_delayed hretry]
    exact h.attended hlease

theorem expired (h : Attended r retries) (handle : Nat) :
    Attended (r.expire handle).1 retries where
  known retry hretry := by
    rw [Registry.length_leases_expire]
    exact h.known retry hretry
  attended {other l} hl := by
    rw [Registry.lease?_expire] at hl
    obtain ⟨old, hold, rfl⟩ := Option.map_eq_some_iff.1 hl
    obtain ⟨issued, hissued⟩ := h.attended hold
    split
    · exact ⟨issued, hissued.close⟩
    · exact ⟨issued, hissued⟩

theorem nodup_ends (h : Attended r retries) (handle : Nat) :
    ((edgesFor handle retries).map Edge.ends).Nodup := by
  cases hlease : r.lease? handle with
  | none =>
      have hnone : edgesFor handle retries = [] :=
        edgesFor_eq_nil fun retry hretry => by
          have hlt := h.known retry hretry
          have hge := List.getElem?_eq_none_iff.1 hlease
          omega
      rw [hnone]
      exact List.nodup_nil
  | some lease =>
      obtain ⟨issued, hissued⟩ := h.attended hlease
      exact hissued.nodup_ends

end Attended

theorem attended_stable : Stable fun r retries _ => Attended r retries where
  opened now _ version _ h := h.opened now _ version
  handled now _ _ hlease _ h := h.handled hlease now _
  refused _ _ _ h := h
  ended hretry hsettled h := h.ended hretry hsettled
  delayed due hretry h := h.delayed due hretry
  expired _ h := h.expired _

/-- A client of a live session that waits for its peer has exactly one retry for the two of them,
and no two retries of a session, live or closed, serve the same two clients: in every state of every
run, whatever the server takes, and whatever becomes of its datagrams. -/
theorem waiting_client_has_exactly_one_retry {network : Network} {settings : Settings}
    {start : Outcome} (hbind : bind network settings = .ok start) (turns : List Turn) :
    let s := start.server.after turns
    (∀ cookie handle lease a b c, s.registry.linked? cookie = some handle →
        s.registry.lease? handle = some lease → lease.session.client? a = some c →
        c.target = b → b ≠ a → ¬c.acknowledged →
        ((s.running handle).map Edge.ends).count s(a, b) = 1) ∧
      ∀ handle, ((s.running handle).map Edge.ends).Nodup := by
  intro s
  have hattended : Attended s.registry s.retries := attended_stable.run .start hbind turns
  have hsound : s.registry.Sound := sound_stable.run Registry.sound_empty hbind turns
  refine ⟨?_, hattended.nodup_ends⟩
  intro cookie handle lease a b c hlinked hlease hc htarget hba hack
  have hopen := (hsound.of_linked? hlinked hlease).1
  obtain ⟨issued, hissued⟩ := hattended.attended hlease
  refine List.count_eq_one_of_mem (hattended.nodup_ends handle) ?_
  exact hissued.mem_ends_of_awaits hopen hba.symm ⟨c, hc, htarget, hack⟩

/-- Two clients are paired, nothing that is sent arrives, and one of them acknowledges: the other
still has its retry. -/
theorem waiting_client_has_exactly_one_retry_of_two :
    ∃ start, bind .isolated {} = .ok start ∧
      let lost : Turn := ⟨.retry 0, 500, fun _ _ => some .networkUnreachable⟩
      let s := start.server.after [.ofPacket (.probeOf 1), .ofPacket (.probeOf 2), lost,
        .ofPacket (.replyOf 2)]
      ∃ lease c, s.registry.linked? 7 = some 0 ∧ s.registry.lease? 0 = some lease ∧
        lease.session.client? 1 = some c ∧ c.target = 2 ∧ ¬c.acknowledged ∧
        ((s.running 0).map Edge.ends).count s(1, 2) = 1 := by
  have hbind : bind .isolated {} = .ok _ := rfl
  refine ⟨_, hbind, ?_⟩
  intro lost s
  refine ⟨_, _, by decide, (Option.some_get (by decide)).symm, (Option.some_get (by decide)).symm,
    by decide, by decide, ?_⟩
  exact (waiting_client_has_exactly_one_retry hbind _).1 7 0 _ 1 2 _ (by decide)
    (Option.some_get (by decide)).symm (Option.some_get (by decide)).symm (by decide) (by decide)
    (by decide)

end Server

end Rendezvous
