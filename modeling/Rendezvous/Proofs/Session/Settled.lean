import Rendezvous.Proofs.Session.Meetings
import Rendezvous.Session.Retry

/-!
Edges that have settled. An edge is pending as long as one of its ends aims at the other and has
not acknowledged that attempt. An end can stop waiting in several ways, by an acknowledgement, by
its report, by a new attempt, but it starts to wait for a peer only when an edge joins the two. As
no two clients are ever joined twice, an edge that has settled never becomes pending again, and its
retry can end at the first sight of it.
-/
namespace Rendezvous.Session

variable {s : Session} {issued : List Edge} {a b : UInt8} {e : Edge}

/-- The first client aims at the second and has not acknowledged that yet. -/
def Awaits (s : Session) (a b : UInt8) : Prop :=
  ∃ c, s.client? a = some c ∧ c.target = b ∧ ¬c.acknowledged

/-- Neither end needs a retry. -/
def Settled (s : Session) (e : Edge) : Prop :=
  (s.retryStep e).1 = .settled

theorem waitsFor_iff {c peer : Client} : waitsFor c peer ↔ c.target = peer.index ∧ ¬c.acknowledged := by
  simp [waitsFor, and_comm]

/-- A registered client waits for another as a retry sees it. -/
theorem awaits_iff_waitsFor (hindexed : s.Indexed) {c peer : Client} (hc : s.client? a = some c)
    (hpeer : s.client? b = some peer) : s.Awaits a b ↔ waitsFor c peer := by
  rw [waitsFor_iff, hindexed hpeer]
  simp [Awaits, hc]

/-- An edge is pending for the sake of an end that waits for the other; an end that is not
registered keeps it from being pending. -/
theorem settled_iff_of_clients (hindexed : s.Indexed) {first second : Client}
    (hfirst : s.client? e.first = some first) (hsecond : s.client? e.second = some second) :
    s.Settled e ↔ ¬s.Awaits e.first e.second ∧ ¬s.Awaits e.second e.first := by
  rw [awaits_iff_waitsFor hindexed hfirst hsecond, awaits_iff_waitsFor hindexed hsecond hfirst,
    Settled, retryStep, hfirst, hsecond]
  by_cases hback : waitsFor second first
  · simp [hback]
  · by_cases hforth : waitsFor first second
    · simp [hforth]
    · simp [hback, hforth]

/-! ### Who starts to wait -/

/-- The client of a probe waits no more than before; a new one has no peer to wait for. -/
theorem Awaits.of_register {r : InitRequest} {source : SocketAddress} (hab : a ≠ b)
    (h : (s.register r source).Awaits a b) : s.Awaits a b := by
  obtain ⟨c, hc, htarget, hack⟩ := h
  rw [client?_register] at hc
  split at hc
  · next hindex =>
    subst hindex
    obtain rfl := Option.some.inj hc
    rw [prober] at htarget hack
    cases hold : s.client? r.index with
    | none =>
        rw [hold] at htarget
        exact absurd htarget hab
    | some old =>
        rw [hold] at htarget hack
        exact ⟨old, hold, htarget, hack⟩
  · exact ⟨c, hc, htarget, hack⟩

theorem Awaits.of_acknowledge {index : UInt8} (h : (s.acknowledge index).Awaits a b) :
    s.Awaits a b := by
  obtain ⟨c, hc, htarget, hack⟩ := h
  rw [client?_acknowledge] at hc
  obtain ⟨old, hold, rfl⟩ := Option.map_eq_some_iff.1 hc
  split at htarget
  · next hindex =>
    rw [if_pos hindex] at hack
    exact absurd rfl hack
  · next hindex =>
    rw [if_neg hindex] at hack
    exact ⟨old, hold, htarget, hack⟩

/-- A client that has ended its attempt aims at nobody. -/
theorem Awaits.of_rotate (hindexed : s.Indexed) {index : UInt8} (hab : a ≠ b)
    (h : (s.rotate index).Awaits a b) : s.Awaits a b := by
  obtain ⟨c, hc, htarget, hack⟩ := h
  rw [client?_rotate] at hc
  obtain ⟨old, hold, rfl⟩ := Option.map_eq_some_iff.1 hc
  split at htarget
  · rw [Client.target_finish, hindexed hold] at htarget
    exact absurd htarget hab
  · next hindex =>
    rw [if_neg hindex] at hack
    exact ⟨old, hold, htarget, hack⟩

/-- A new edge makes its ends wait for each other, and for nobody else. -/
theorem Awaits.of_join {first second : UInt8} (hne : first ≠ second)
    (h : (s.join ⟨first, second⟩).Awaits a b) : s(a, b) = s(first, second) ∨ s.Awaits a b := by
  obtain ⟨c, hc, htarget, hack⟩ := h
  rw [client?_join s hne] at hc
  obtain ⟨old, hold, rfl⟩ := Option.map_eq_some_iff.1 hc
  by_cases hfirst : a = first
  · rw [if_pos hfirst, Client.target_aimAt] at htarget
    exact .inl (by rw [hfirst, htarget])
  · rw [if_neg hfirst] at htarget hack
    by_cases hsecond : a = second
    · rw [if_pos hsecond, Client.target_aimAt] at htarget
      exact .inl (by rw [hsecond, htarget, Sym2.eq_swap])
    · rw [if_neg hsecond] at htarget hack
      exact .inr ⟨old, hold, htarget, hack⟩

/-! ### Once settled, always settled -/

/-- The ends of an edge that was issued have met, so they are registered and mapped. -/
theorem Accounted.exists_ends (h : s.Accounted issued) (he : e ∈ issued) :
    ∃ first second, s.client? e.first = some first ∧ s.client? e.second = some second ∧
      first.isMapped ∧ second.isMapped := by
  have hne := h.ends_ne e he
  have hmet : s.HasMet e.first e.second := (h.hasMet_iff hne).2 (List.mem_map_of_mem he)
  obtain ⟨first, hfirst, hfirstMapped⟩ := h.isMapped hne hmet
  obtain ⟨second, hsecond, hsecondMapped⟩ := h.isMapped hne.symm (h.hasMet_symm hne hmet)
  exact ⟨first, second, hfirst, hsecond, hfirstMapped, hsecondMapped⟩

/-- All that keeps an edge pending that was issued is that one of its ends waits for the other. -/
theorem Accounted.settled_iff (h : s.Accounted issued) (he : e ∈ issued) :
    s.Settled e ↔ ∀ a b, e.ends = s(a, b) → ¬s.Awaits a b := by
  obtain ⟨first, second, hfirst, hsecond, -⟩ := h.exists_ends he
  rw [settled_iff_of_clients h.indexed hfirst hsecond]
  constructor
  · rintro ⟨hforth, hback⟩ a b hends
    rcases Sym2.eq_iff.1 hends with ⟨rfl, rfl⟩ | ⟨rfl, rfl⟩
    · exact hforth
    · exact hback
  · intro h
    exact ⟨h _ _ rfl, h _ _ Sym2.eq_swap⟩

/-- A change that makes neither end of a settled edge wait for the other leaves it settled. -/
theorem Settled.of_awaits {t : Session} {later : List Edge} (hsettled : s.Settled e)
    (hs : s.Accounted issued) (he : e ∈ issued) (ht : t.Accounted later) (hlater : e ∈ later)
    (h : ∀ a b, a ≠ b → e.ends = s(a, b) → t.Awaits a b → s.Awaits a b) : t.Settled e := by
  rw [ht.settled_iff hlater]
  intro a b hends hawaits
  have hne : a ≠ b := Edge.ne_of_ends_eq (hs.ends_ne e he) hends
  exact (hs.settled_iff he).1 hsettled a b hends (h a b hne hends hawaits)

theorem settled_stable (e : Edge) :
    Stable fun s issued => s.Accounted issued ∧ e ∈ issued ∧ s.Settled e where
  register := by
    rintro s issued r source - ⟨hs, he, hsettled⟩
    have ht := hs.register r source
    exact ⟨ht, he, hsettled.of_awaits hs he ht he fun _ _ hne _ => .of_register hne⟩
  acknowledge := by
    rintro s issued index ⟨hs, he, hsettled⟩
    have ht := hs.acknowledge index
    exact ⟨ht, he, hsettled.of_awaits hs he ht he fun _ _ _ _ => .of_acknowledge⟩
  rotate := by
    rintro s issued index ⟨hs, he, hsettled⟩
    have ht := hs.rotate index
    exact ⟨ht, he, hsettled.of_awaits hs he ht he fun _ _ hne _ => .of_rotate hs.indexed hne⟩
  join := by
    rintro s issued first second hpartner ⟨hs, he, hsettled⟩
    have heligible : s.Eligible first second := eligible_of_partner? hs.indexed hpartner
    have ht := hs.join heligible
    have hlater := List.mem_append_left [⟨first, second⟩] he
    refine ⟨ht, hlater, hsettled.of_awaits hs he ht hlater fun a b hne hends hawaits => ?_⟩
    rcases hawaits.of_join heligible.1 with hjoined | hawaits
    · -- The two ends have met, so no new edge joins them.
      have hmet : s.HasMet first second := by
        rw [hs.hasMet_iff heligible.1, ← hjoined, ← hends]
        exact List.mem_map_of_mem he
      exact absurd hmet (heligible.not_hasMet hs.indexed)
    · exact hawaits

/-- An edge that was issued and has settled is settled in every later state of the run, whatever the
session takes in the meantime. So a retry that ends when it sees its edge settled is not missed. -/
theorem settled_edge_stays_settled (cookie : UInt32) (version : UInt8)
    (operations later : List Operation) {e : Edge}
    (hissued : e ∈ ((fresh cookie version).run operations).issued)
    (hsettled : (((fresh cookie version).run operations).session.retryStep e).1 = .settled) :
    (((fresh cookie version).run (operations ++ later)).session.retryStep e).1 = .settled := by
  have haccounted := accounted_run cookie version operations
  have hlater := (settled_stable e).extend ⟨haccounted, hissued, hsettled⟩ later
  rw [← run_append] at hlater
  exact hlater.2.2

/-- The edge of two clients that have reported is left alone, although one of them is joined with a
third client afterwards. -/
theorem settled_edge_stays_settled_of_three :
    let before : List Operation :=
      [.probeOf 1, .probeOf 2, .reportOf 1, .reportOf 2].map .packet
    let later : List Operation := [.packet (.probeOf 3), .pair, .rotate 1]
    ⟨1, 2⟩ ∈ ((fresh 7 3).run before).issued ∧
      (((fresh 7 3).run before).session.retryStep ⟨1, 2⟩).1 = .settled ∧
      ⟨1, 3⟩ ∈ ((fresh 7 3).run (before ++ later)).issued ∧
      (((fresh 7 3).run (before ++ later)).session.retryStep ⟨1, 2⟩).1 = .settled := by
  intro before later
  have hissued : ⟨1, 2⟩ ∈ ((fresh 7 3).run before).issued := by decide
  have hsettled : (((fresh 7 3).run before).session.retryStep ⟨1, 2⟩).1 = .settled := by decide
  exact ⟨hissued, hsettled, by decide, settled_edge_stays_settled 7 3 before later hissued hsettled⟩

end Rendezvous.Session
