import Rendezvous.Proofs.Registry.Run
import Rendezvous.Proofs.Session.Cancellations
import Rendezvous.Proofs.Session.Scan

/-!
An expiry that races with handlers. A handler that has found its session before the expiry may hand
its packet over after it, and nothing in a session looks at whether it is still open. So a packet
that comes late can begin an attempt in a closed session, whose clients nobody tells to give up: the
cancellations were made before, and no retry runs for a closed session. That is the only way to be
left behind. The expiry reaches every client that is in the middle of an attempt at that time, and
who is in the middle of one later, and was not reached, has been given a new peer by a late packet.
-/
namespace Rendezvous

namespace Session

variable {s : Session} {issued : List Edge} {index : UInt8}

/-- One of the datagrams tells every client in the middle of an attempt to give up. -/
def AllCalledOff (s : Session) (datagrams : List Datagram) : Prop :=
  ∀ index c, s.client? index = some c → ¬c.isIdle → ∃ d ∈ datagrams, s.CallsOff index d

/-! ### Who is in the middle of an attempt -/

/-- Both ends of an edge that a scan has just made are in the middle of an attempt. -/
theorem Accounted.busy_of_mem_pairIdle (h : s.Accounted issued) {e : Edge} (he : e ∈ s.pairIdle.2)
    (hindex : index ∈ e.ends) : ∃ c, s.pairIdle.1.client? index = some c ∧ ¬c.isIdle := by
  obtain ⟨peer, hpeer⟩ : ∃ peer, newPeer? s.pairIdle.2 index = some peer := by
    rw [← Option.ne_none_iff_exists', Ne, newPeer?_eq_none_iff]
    exact fun hnone => hnone e he hindex
  have hne : index ≠ peer :=
    ne_of_newPeer? (fun e he => (accounted_stable.pairIdle h).ends_ne e
      (List.mem_append_right _ he)) hpeer
  have hclient : s.pairIdle.1.client? index =
      (s.client? index).map (retarget s.pairIdle.2 index) :=
    client?_pairAlong h.indexed s.clients.keys
  cases hc : s.client? index with
  | none =>
      -- An index without a client gets no peer.
      have hnone : newPeer? s.pairIdle.2 index = none :=
        newPeer?_pairAlong_eq_none h.indexed _ fun c hsome => by
          rw [hc] at hsome
          cases hsome
      rw [hnone] at hpeer
      cases hpeer
  | some c =>
      refine ⟨retarget s.pairIdle.2 index c, by rw [hclient, hc]; rfl, ?_⟩
      rw [retarget, hpeer, Client.isIdle_iff, Client.target_aimAt, Client.index_aimAt, h.indexed hc]
      exact hne.symm

/-- A packet leaves both ends of an edge that it brings about in the middle of an attempt. -/
theorem Accounted.busy_of_mem_edges (h : s.Accounted issued) {p : Packet} {e : Edge}
    (he : e ∈ (s.handle p).edges) (hindex : index ∈ e.ends) :
    ∃ c, (s.handle p).session.client? index = some c ∧ ¬c.isIdle := by
  revert he
  rw [handle_eq]
  rcases p.request with failure | (r | r | r | _)
  · intro he
    cases he
  · cases hgame : s.checkGame r with
    | error failure =>
        simp [(handleInit_of_refused hgame p.source).2]
    | ok _ =>
        obtain ⟨hsession, hedges⟩ := handleInit_of_accepted hgame p.source
        simp only [hsession, hedges]
        unfold pairAfter
        split
        · exact fun he => (h.register r p.source).busy_of_mem_pairIdle he hindex
        · intro he
          cases he
  · intro he
    cases he
  · exact fun he => (h.rotate r.index).busy_of_mem_pairIdle he hindex
  · intro he
    cases he

/-- A peer that a client counts as connected stays counted. -/
theorem connected_stable (index peer : UInt8) :
    Stable fun s _ => ∃ c, s.client? index = some c ∧ c.hasConnectedTo peer where
  register := by
    rintro s issued r source - ⟨c, hc, hconnected⟩
    rw [client?_register]
    split
    · next hindex =>
      subst hindex
      refine ⟨_, rfl, ?_⟩
      rw [prober, hc]
      exact hconnected
    · exact ⟨c, hc, hconnected⟩
  acknowledge := by
    rintro s issued other ⟨c, hc, hconnected⟩
    rw [client?_acknowledge, hc]
    refine ⟨_, rfl, ?_⟩
    split
    · exact hconnected
    · exact hconnected
  rotate := by
    rintro s issued other ⟨c, hc, hconnected⟩
    rw [client?_rotate, hc]
    refine ⟨_, rfl, ?_⟩
    split
    · exact (Client.hasConnectedTo_finish c peer).2 (.inr hconnected)
    · exact hconnected
  join := by
    rintro s issued first second - ⟨c, hc, hconnected⟩
    simp only [join, client?_update, hc, Option.map_some]
    refine ⟨_, rfl, ?_⟩
    split
    · split
      · exact hconnected
      · exact hconnected
    · split
      · exact hconnected
      · exact hconnected

end Session

namespace Registry

variable {r : Registry} {handle : Nat} {lease : Lease}

/-- A client that is in the middle of an attempt in a later state was so before, or its attempt is
with the peer that an edge has given it since. -/
theorem busy_before_or_issued {issued : List Edge} (h : lease.session.Accounted issued)
    (hlease : r.lease? handle = some lease) {operations : List Operation} {final : Lease}
    (hfinal : (r.after operations).lease? handle = some final) {index : UInt8} {c : Client}
    (hc : final.session.client? index = some c) (hbusy : ¬c.isIdle) :
    (∃ old, lease.session.client? index = some old ∧ ¬old.isIdle) ∨
      ∃ e ∈ r.issuedTo handle operations, e.ends = s(index, c.target) := by
  obtain ⟨final', hfinal', -, haccounted⟩ :=
    stable_after Session.accounted_stable hlease issued h operations
  obtain rfl := Option.some.inj (hfinal.symm.trans hfinal')
  obtain ⟨-, hne, -, hnew⟩ := haccounted.of_busy hc hbusy
  obtain ⟨e, he, hends⟩ :=
    List.mem_map.1 ((haccounted.hasMet_iff hne.symm).1 ⟨c, hc, .inl rfl⟩)
  rcases List.mem_append.1 he with hold | hlate
  · -- The two had met before. Had they connected by then, they would not aim at each other now.
    obtain ⟨old, hclient, hmet⟩ :=
      (h.hasMet_iff hne.symm).2 (List.mem_map.2 ⟨e, hold, hends⟩)
    rcases hmet with htarget | hconnected
    · refine .inl ⟨old, hclient, ?_⟩
      rw [Client.isIdle_iff, htarget, h.indexed hclient]
      exact hne
    · obtain ⟨final', hfinal', -, c', hc', hconnected'⟩ :=
        stable_after (Session.connected_stable index c.target) hlease []
          ⟨old, hclient, hconnected⟩ operations
      obtain rfl := Option.some.inj (hfinal.symm.trans hfinal')
      obtain rfl := Option.some.inj (hc.symm.trans hc')
      exact absurd hconnected' hnew
  · exact .inr ⟨e, hlate, hends⟩

/-- Right after the packet that brings an edge about, both of its ends are in the middle of an
attempt. -/
theorem exists_busy_of_mem_issuedTo {issued : List Edge} (h : lease.session.Accounted issued)
    (hlease : r.lease? handle = some lease) {operations : List Operation} {e : Edge}
    (he : e ∈ r.issuedTo handle operations) {index : UInt8} (hindex : index ∈ e.ends) :
    ∃ between, between <+: operations ∧ ∃ next c, (r.after between).lease? handle = some next ∧
      next.session.client? index = some c ∧ ¬c.isIdle := by
  obtain ⟨before, p, found, next, hprefix, hfound, hmem, hnext, hsession⟩ :=
    exists_dispatch_of_mem_issuedTo hlease he
  obtain ⟨found', hfound', -, haccounted⟩ :=
    stable_after Session.accounted_stable hlease issued h before
  obtain rfl := Option.some.inj (hfound.symm.trans hfound')
  obtain ⟨c, hc, hbusy⟩ := haccounted.busy_of_mem_edges hmem hindex
  rw [← hsession] at hc
  exact ⟨_, hprefix, next, c, hnext, hc, hbusy⟩

/-- A session that is closed stays closed, and what is addressed to it stays addressed to it. -/
theorem callsOff_iff_after (hlease : r.lease? handle = some lease) (operations : List Operation) :
    ∃ final, (r.after operations).lease? handle = some final ∧ (¬lease.isOpen → ¬final.isOpen) ∧
      ∀ index d, final.session.CallsOff index d ↔ lease.session.CallsOff index d := by
  obtain ⟨final, hfinal, hclosed, hcookie, hversion⟩ := stable_after
    (Session.identity_stable lease.session.cookie lease.session.version) hlease [] ⟨rfl, rfl⟩
    operations
  refine ⟨final, hfinal, hclosed, fun index d => ?_⟩
  rw [Session.CallsOff, Session.CallsOff, hcookie, hversion]

theorem expire_of_lease (hlease : r.lease? handle = some lease) :
    (r.expire handle).1.lease? handle = some lease.close ∧
      (r.expire handle).2.1 = lease.session.cancellations.1 := by
  constructor
  · rw [lease?_expire, hlease, Option.map_some, if_pos rfl]
  · rw [expire, hlease]

/-- An expiry calls off the attempts of its time, and no others. So nobody is left behind in the
closed session, in any state that late packets bring it to, exactly when the edges that these
packets bring about join only clients that the expiry has reached. -/
theorem nobody_is_left_behind_iff (earlier later : List Operation) {handle : Nat} {lease : Lease}
    (hlease : (empty.after earlier).lease? handle = some lease) :
    let expiry := (empty.after earlier).expire handle
    let reached (index : UInt8) : Prop := ∃ d ∈ expiry.2.1, lease.session.CallsOff index d
    (∀ index, reached index ↔ ∃ c, lease.session.client? index = some c ∧ ¬c.isIdle) ∧
      ((∀ between, between <+: later → ∃ closed,
          (expiry.1.after between).lease? handle = some closed ∧ ¬closed.isOpen ∧
            closed.session.AllCalledOff expiry.2.1) ↔
        ∀ e ∈ expiry.1.issuedTo handle later, ∀ index ∈ e.ends, reached index) := by
  intro expiry reached
  obtain ⟨issued, haccounted⟩ := reachable_after earlier hlease
  obtain ⟨hclose, hdatagrams⟩ := expire_of_lease hlease
  have hbefore : lease.close.session.Accounted issued := haccounted
  have hreached (index : UInt8) :
      reached index ↔ ∃ c, lease.session.client? index = some c ∧ ¬c.isIdle := by
    show (∃ d ∈ expiry.2.1, _) ↔ _
    rw [hdatagrams]
    exact haccounted.calledOff_iff
  refine ⟨hreached, ?_, ?_⟩
  · intro hall e he index hindex
    obtain ⟨between, hprefix, next, c, hnext, hc, hbusy⟩ :=
      exists_busy_of_mem_issuedTo hbefore hclose he hindex
    obtain ⟨closed, hclosed, -, hcalled⟩ := hall between hprefix
    obtain ⟨final, hfinal, -, hsame⟩ := callsOff_iff_after hclose between
    obtain rfl := Option.some.inj (hclosed.symm.trans hnext)
    obtain rfl := Option.some.inj (hclosed.symm.trans hfinal)
    obtain ⟨d, hd, hcalls⟩ := hcalled index c hc hbusy
    exact ⟨d, hd, (hsame index d).1 hcalls⟩
  · rintro hends between ⟨rest, rfl⟩
    obtain ⟨closed, hclosed, hnot, hsame⟩ := callsOff_iff_after hclose between
    refine ⟨closed, hclosed, hnot Bool.false_ne_true, fun index c hc hbusy => ?_⟩
    have hnamed : reached index := by
      rcases busy_before_or_issued hbefore hclose hclosed hc hbusy with hold | ⟨e, he, hpair⟩
      · exact (hreached index).2 hold
      · refine hends e ?_ index ?_
        · rw [issuedTo_append]
          exact List.mem_append_left _ he
        · rw [hpair]
          exact Sym2.mem_mk_left index c.target
    obtain ⟨d, hd, hcalls⟩ := hnamed
    exact ⟨d, hd, (hsame index d).2 hcalls⟩

/-- A handler finds the session of a single client, which then expires; the probe that the handler
holds pairs the two clients in the closed session, and no cancellation names either. -/
theorem late_packet_leaves_its_clients_behind :
    let found := empty.after [.enter 0 7 3, .dispatch 0 (.probeOf 1), .enter 0 7 3]
    let expiry := found.expire 0
    expiry.2.1 = [] ∧
      ∃ closed a b, (expiry.1.after [.dispatch 0 (.probeOf 2)]).lease? 0 = some closed ∧
        ¬closed.isOpen ∧ closed.session.client? 1 = some a ∧ closed.session.client? 2 = some b ∧
        ¬a.isIdle ∧ ¬b.isIdle ∧ ¬closed.session.AllCalledOff expiry.2.1 := by
  intro found expiry
  have hnone : expiry.2.1 = [] := by decide
  refine ⟨hnone, _, _, _, (Option.some_get (by decide)).symm, by decide,
    (Option.some_get (by decide)).symm, (Option.some_get (by decide)).symm, by decide, by decide, ?_⟩
  intro hcalled
  obtain ⟨d, hd, -⟩ := hcalled 1 _ (Option.some_get (by decide)).symm (by decide)
  rw [hnone] at hd
  cases hd

/-- The expiry of a session of two clients reaches both, and a late report that ends the attempt of
one of them leaves nobody behind. -/
theorem nobody_is_left_behind_of_two :
    let found := empty.after [.enter 0 7 3, .dispatch 0 (.probeOf 1), .dispatch 0 (.probeOf 2)]
    let expiry := found.expire 0
    ∃ closed, (expiry.1.after [.dispatch 0 (.reportOf 1)]).lease? 0 = some closed ∧
      ¬closed.isOpen ∧ closed.session.AllCalledOff expiry.2.1 := by
  intro found expiry
  have hnone : expiry.1.issuedTo 0 [.dispatch 0 (.reportOf 1)] = [] := by decide
  refine (nobody_is_left_behind_iff
    [.enter 0 7 3, .dispatch 0 (.probeOf 1), .dispatch 0 (.probeOf 2)]
    [.dispatch 0 (.reportOf 1)] (Option.some_get (by decide)).symm).2.2 ?_ _ (List.prefix_refl _)
  intro e he
  rw [hnone] at he
  cases he

end Registry

end Rendezvous
