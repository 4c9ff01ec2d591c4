import Rendezvous.Proofs.Session.Scan

/-!
The pairs that a scan makes. A scan takes the clients in ascending order and joins each that is
still available with the lowest partner that is left. Joining two clients takes them out of all
eligible pairs and leaves the other pairs as they were, so what holds in the middle of a scan can be
said of the session before it and of the edges so far.

Two facts are not written in the scan. The search for a partner starts at the lowest index every
time and still never ends below the client that it is for: that client would have been found from
the other side before. And the rule that every client takes the lowest partner in its turn leaves
no choice, so it determines the edges.
-/
namespace Rendezvous.Session

variable {s : Session} {a b : UInt8} {edges earlier later : List Edge} {e : Edge}

/-- The clients at the ends of the edges, two for each. -/
def endpoints (edges : List Edge) : List UInt8 :=
  edges.flatMap fun e => [e.first, e.second]

theorem mem_endpoints {index : UInt8} :
    index ∈ endpoints edges ↔ ∃ e ∈ edges, index ∈ e.ends := by
  simp [endpoints, Edge.ends]

@[simp] theorem endpoints_nil : endpoints [] = [] := rfl

@[simp] theorem endpoints_cons (e : Edge) (edges : List Edge) :
    endpoints (e :: edges) = e.first :: e.second :: endpoints edges := rfl

@[simp] theorem endpoints_append (edges more : List Edge) :
    endpoints (edges ++ more) = endpoints edges ++ endpoints more :=
  List.flatMap_append

/-- The edges are those of a scan: its clients come in ascending order, each of them is joined with
the lowest partner that no earlier edge has taken, and whoever is left out has in its turn found all
its partners taken. -/
structure Greedy (s : Session) (edges : List Edge) : Prop where
  ascending : (edges.map (·.first)).Pairwise (· < ·)
  ordered : ∀ e ∈ edges, e.first < e.second
  distinct : (endpoints edges).Nodup
  eligible : ∀ e ∈ edges, s.Eligible e.first e.second
  lowest : ∀ earlier e later, edges = earlier ++ e :: later → e.second ∉ endpoints earlier ∧
    ∀ c, s.Eligible e.first c → c ∉ endpoints earlier → e.second ≤ c
  inTurn : ∀ a c, a ∉ endpoints edges → s.Eligible a c → ∃ e ∈ edges, e.first < a ∧ c ∈ e.ends

/-! ### Eligible pairs in the middle of a scan -/

theorem client?_join_of_not_mem (s : Session) {first second : UInt8} (hne : first ≠ second)
    {index : UInt8} (h : index ∉ Edge.ends ⟨first, second⟩) :
    (s.join ⟨first, second⟩).client? index = s.client? index := by
  rw [Edge.ends, Sym2.mem_iff, not_or] at h
  simp [client?_join s hne, h.1, h.2]

/-- Joining two clients takes both out of all eligible pairs, and leaves the other pairs as they
were. -/
theorem eligible_join_iff (hindexed : s.Indexed) {first second : UInt8} (hne : first ≠ second) :
    (s.join ⟨first, second⟩).Eligible a b ↔
      s.Eligible a b ∧ a ∉ Edge.ends ⟨first, second⟩ ∧ b ∉ Edge.ends ⟨first, second⟩ := by
  constructor
  · intro h
    have hout {index : UInt8} {c : Client}
        (hc : (s.join ⟨first, second⟩).client? index = some c) (havailable : c.isAvailable) :
        index ∉ Edge.ends ⟨first, second⟩ := by
      rw [Edge.ends, Sym2.mem_iff, not_or]
      exact (client?_of_join_available hindexed hne hc havailable).1
    have hold : s.Eligible a b := h.of_available fun index c hc havailable =>
      ⟨c, (client?_of_join_available hindexed hne hc havailable).2, havailable, rfl⟩
    obtain ⟨-, ca, cb, ha, hb, hca, hcb, -⟩ := h
    exact ⟨hold, hout ha hca, hout hb hcb⟩
  · rintro ⟨⟨hab, ca, cb, ha, hb, hfree⟩, hnota, hnotb⟩
    refine ⟨hab, ca, cb, ?_, ?_, hfree⟩
    · rw [client?_join_of_not_mem s hne hnota, ha]
    · rw [client?_join_of_not_mem s hne hnotb, hb]

/-- The edges of a scan join eligible pairs of the session before it. -/
theorem eligible_of_mem_pairAlong (hindexed : s.Indexed) {indices : List UInt8}
    (he : e ∈ (s.pairAlong indices).2) : s.Eligible e.first e.second := by
  induction indices generalizing s with
  | nil => cases he
  | cons first rest ih =>
      cases hpartner : s.partner? first with
      | none =>
          simp only [pairAlong, hpartner] at he
          exact ih hindexed he
      | some second =>
          have heligible := eligible_of_partner? hindexed hpartner
          simp only [pairAlong, hpartner] at he
          rcases List.mem_cons.1 he with rfl | he
          · exact heligible
          · exact ((eligible_join_iff hindexed heligible.1).1 (ih (hindexed.join _) he)).1

/-- A later edge of a scan has no end in common with the edge that has just been made. -/
theorem not_mem_ends_of_mem_pairAlong_join (hindexed : s.Indexed) {first second : UInt8}
    (hne : first ≠ second) {indices : List UInt8}
    (he : e ∈ ((s.join ⟨first, second⟩).pairAlong indices).2) :
    e.first ∉ Edge.ends ⟨first, second⟩ ∧ e.second ∉ Edge.ends ⟨first, second⟩ :=
  ((eligible_join_iff hindexed hne).1 (eligible_of_mem_pairAlong (hindexed.join _) he)).2

theorem sublist_pairAlong (s : Session) (indices : List UInt8) :
    ((s.pairAlong indices).2.map (·.first)).Sublist indices := by
  induction indices generalizing s with
  | nil => exact .slnil
  | cons first rest ih =>
      cases hpartner : s.partner? first with
      | none =>
          simp only [pairAlong, hpartner]
          exact (ih s).cons _
      | some second =>
          simp only [pairAlong, hpartner, List.map_cons]
          exact (ih _).cons_cons _

theorem nodup_endpoints_pairAlong (hindexed : s.Indexed) (indices : List UInt8) :
    (endpoints (s.pairAlong indices).2).Nodup := by
  induction indices generalizing s with
  | nil => exact List.nodup_nil
  | cons first rest ih =>
      cases hpartner : s.partner? first with
      | none =>
          simp only [pairAlong, hpartner]
          exact ih hindexed
      | some second =>
          have hne : first ≠ second := (eligible_of_partner? hindexed hpartner).1
          have hlater {index : UInt8} (hindex : index ∈ Edge.ends ⟨first, second⟩) :
              index ∉ endpoints ((s.join ⟨first, second⟩).pairAlong rest).2 := by
            rw [mem_endpoints]
            rintro ⟨e, he, hend⟩
            obtain ⟨hfirst, hsecond⟩ := not_mem_ends_of_mem_pairAlong_join hindexed hne he
            rcases Sym2.mem_iff.1 hend with rfl | rfl
            · exact hfirst hindex
            · exact hsecond hindex
          simp only [pairAlong, hpartner, endpoints_cons, List.nodup_cons, List.mem_cons, not_or]
          exact ⟨⟨hne, hlater (Sym2.mem_mk_left _ _)⟩, hlater (Sym2.mem_mk_right _ _),
            ih (hindexed.join _)⟩

/-! ### Partners -/

/-- The partner that is found is the lowest. -/
theorem le_of_partner? (hindexed : s.Indexed) (h : s.partner? a = some b) {c : UInt8}
    (hc : s.Eligible a c) : b ≤ c := by
  obtain ⟨client, hclient, havailable, hpair⟩ := (eligible_iff_canPair hindexed).1 hc
  rw [partner?, hclient] at h
  dsimp only at h
  rw [if_pos havailable, List.find?_eq_some_iff_append] at h
  obtain ⟨-, below, above, hkeys, hbelow⟩ := h
  have hmem : c ∈ s.clients.keys := by
    obtain ⟨-, -, d, -, hd, -⟩ := hc
    exact mem_keys_iff.2 ⟨d, hd⟩
  have hascending := s.clients.keys_ascending
  rw [hkeys] at hmem hascending
  rcases List.mem_append.1 hmem with hmem | hmem
  · have hnot := hbelow c hmem
    rw [hpair] at hnot
    cases hnot
  · rcases List.mem_cons.1 hmem with rfl | hmem
    · exact Std.le_refl _
    · exact Std.le_of_lt ((List.pairwise_cons.1 (List.pairwise_append.1 hascending).2.1).1 c hmem)

/-- When all below have no partner left, a partner that is found is above: the pair would have been
eligible from its side, too. -/
theorem lt_of_partner? (hindexed : s.Indexed) (h : s.partner? a = some b)
    (hdone : ∀ c, c < a → s.partner? c = none) : a < b := by
  have heligible := eligible_of_partner? hindexed h
  by_contra hnot
  have hlt : b < a := Std.lt_of_le_of_ne (Std.not_lt.1 hnot) heligible.1.symm
  exact (partner?_eq_none_iff hindexed).1 (hdone b hlt) a heligible.symm

/-! ### The rule of a scan -/

theorem first_lt_second_of_mem_pairAlong (hindexed : s.Indexed) {indices : List UInt8}
    (hascending : indices.Pairwise (· < ·)) (hdone : ∀ c, c ∈ indices ∨ s.partner? c = none)
    (he : e ∈ (s.pairAlong indices).2) : e.first < e.second := by
  -- The invariant: whoever is not to be looked at any more has no partner.
  induction indices generalizing s with
  | nil => cases he
  | cons first rest ih =>
      obtain ⟨hbelow, hrest⟩ := List.pairwise_cons.1 hascending
      cases hpartner : s.partner? first with
      | none =>
          simp only [pairAlong, hpartner] at he
          refine ih hindexed hrest (fun c => ?_) he
          rcases hdone c with hc | hc
          · rcases List.mem_cons.1 hc with rfl | hc
            · exact .inr hpartner
            · exact .inl hc
          · exact .inr hc
      | some second =>
          have hne : first ≠ second := (eligible_of_partner? hindexed hpartner).1
          simp only [pairAlong, hpartner] at he
          rcases List.mem_cons.1 he with rfl | he
          · refine lt_of_partner? hindexed hpartner fun c hlt => (hdone c).resolve_left fun hc => ?_
            rcases List.mem_cons.1 hc with rfl | hc
            · exact Std.lt_irrefl hlt
            · exact Std.lt_irrefl (Std.lt_trans hlt (hbelow c hc))
          · refine ih (hindexed.join _) hrest (fun c => ?_) he
            rcases hdone c with hc | hc
            · rcases List.mem_cons.1 hc with rfl | hc
              · exact .inr (partner?_join_eq_none hindexed hne (.inl rfl))
              · exact .inl hc
            · exact .inr (partner?_join_eq_none hindexed hne (.inr hc))

theorem second_le_of_pairAlong_eq (hindexed : s.Indexed) {indices : List UInt8}
    (h : (s.pairAlong indices).2 = earlier ++ e :: later) {c : UInt8}
    (hc : s.Eligible e.first c) (hfree : c ∉ endpoints earlier) : e.second ≤ c := by
  induction indices generalizing s earlier with
  | nil => simp [pairAlong] at h
  | cons first rest ih =>
      cases hpartner : s.partner? first with
      | none =>
          simp only [pairAlong, hpartner] at h
          exact ih hindexed h hc hfree
      | some second =>
          have hne : first ≠ second := (eligible_of_partner? hindexed hpartner).1
          simp only [pairAlong, hpartner] at h
          cases earlier with
          | nil =>
              obtain ⟨rfl, -⟩ := List.cons.inj h
              exact le_of_partner? hindexed hpartner hc
          | cons made earlier =>
              obtain ⟨rfl, hrest⟩ := List.cons.inj h
              have he : e ∈ ((s.join ⟨first, second⟩).pairAlong rest).2 := by
                rw [hrest]
                exact List.mem_append_right _ List.mem_cons_self
              simp only [endpoints_cons, List.mem_cons, not_or] at hfree
              refine ih (hindexed.join _) hrest ((eligible_join_iff hindexed hne).2 ⟨hc, ?_, ?_⟩)
                hfree.2.2
              · exact (not_mem_ends_of_mem_pairAlong_join hindexed hne he).1
              · rw [Edge.ends, Sym2.mem_iff, not_or]
                exact ⟨hfree.1, hfree.2.1⟩

/-- A client that is left out has been looked at, and all its partners had been taken by then. -/
theorem taken_of_not_mem_endpoints (hindexed : s.Indexed) {indices : List UInt8}
    (hascending : indices.Pairwise (· < ·)) (ha : a ∈ indices)
    (hout : a ∉ endpoints (s.pairAlong indices).2) {c : UInt8} (hc : s.Eligible a c) :
    ∃ e ∈ (s.pairAlong indices).2, e.first < a ∧ c ∈ e.ends := by
  induction indices generalizing s with
  | nil => cases ha
  | cons first rest ih =>
      obtain ⟨hbelow, hrest⟩ := List.pairwise_cons.1 hascending
      cases hpartner : s.partner? first with
      | none =>
          simp only [pairAlong, hpartner] at hout ⊢
          rcases List.mem_cons.1 ha with rfl | ha
          · exact absurd hc ((partner?_eq_none_iff hindexed).1 hpartner c)
          · exact ih hindexed hrest ha hout hc
      | some second =>
          have hne : first ≠ second := (eligible_of_partner? hindexed hpartner).1
          simp only [pairAlong, hpartner, endpoints_cons, List.mem_cons, not_or] at hout ⊢
          obtain ⟨hfirst, hsecond, hout⟩ := hout
          have ha' : a ∈ rest := (List.mem_cons.1 ha).resolve_left hfirst
          by_cases htaken : c ∈ Edge.ends ⟨first, second⟩
          · exact ⟨_, .inl rfl, hbelow a ha', htaken⟩
          · have hnot : a ∉ Edge.ends ⟨first, second⟩ := by
              rw [Edge.ends, Sym2.mem_iff, not_or]
              exact ⟨hfirst, hsecond⟩
            obtain ⟨e, he, hlt, hmem⟩ := ih (hindexed.join _) hrest ha' hout
              ((eligible_join_iff hindexed hne).2 ⟨hc, hnot, htaken⟩)
            exact ⟨e, .inr he, hlt, hmem⟩

theorem greedy_pairIdle (hindexed : s.Indexed) : s.Greedy s.pairIdle.2 where
  ascending := s.clients.keys_ascending.sublist (s.sublist_pairAlong _)
  ordered e he := by
    refine first_lt_second_of_mem_pairAlong hindexed s.clients.keys_ascending (fun c => ?_) he
    cases hc : s.client? c with
    | none => exact .inr (by simp [partner?, hc])
    | some client => exact .inl (mem_keys_iff.2 ⟨client, hc⟩)
  distinct := nodup_endpoints_pairAlong hindexed _
  eligible e he := eligible_of_mem_pairAlong hindexed he
  lowest earlier e later h := by
    refine ⟨?_, fun c hc hfree => second_le_of_pairAlong_eq hindexed h hc hfree⟩
    have hdistinct := nodup_endpoints_pairAlong hindexed s.clients.keys
    rw [pairIdle] at h
    rw [h, endpoints_append, List.nodup_append'] at hdistinct
    exact fun hmem => hdistinct.2.2 hmem (by simp)
  inTurn a c hout hc := by
    obtain ⟨client, hclient, -⟩ := (eligible_iff_canPair hindexed).1 hc
    exact taken_of_not_mem_endpoints hindexed s.clients.keys_ascending
      (mem_keys_iff.2 ⟨client, hclient⟩) hout hc

/-! ### The rule leaves no choice -/

namespace Greedy

theorem not_mem_of_append (h : s.Greedy (earlier ++ e :: later)) :
    e.first ∉ endpoints earlier ∧ e.second ∉ endpoints earlier := by
  have hdistinct := h.distinct
  rw [endpoints_append, List.nodup_append'] at hdistinct
  exact ⟨fun hmem => hdistinct.2.2 hmem (by simp), fun hmem => hdistinct.2.2 hmem (by simp)⟩

/-- Where one list of edges goes on, every other that has begun alike goes on, too, and with no
higher client: the client would be left out there although it has a partner in its turn. -/
theorem exists_next (h : s.Greedy (earlier ++ edges)) (h' : s.Greedy (earlier ++ e :: later)) :
    ∃ d rest, edges = d :: rest ∧ d.first ≤ e.first := by
  by_contra hnone
  have habove : ∀ d ∈ edges, e.first < d.first := by
    intro d hd
    cases edges with
    | nil => cases hd
    | cons head rest =>
        have hhead : e.first < head.first :=
          Std.not_le.1 fun hle => hnone ⟨head, rest, rfl, hle⟩
        have hascending := h.ascending
        rw [List.map_append, List.map_cons] at hascending
        have hrest := (List.pairwise_cons.1 (List.pairwise_append.1 hascending).2.1).1
        rcases List.mem_cons.1 hd with rfl | hd
        · exact hhead
        · exact Std.lt_trans hhead (hrest _ (List.mem_map_of_mem hd))
  obtain ⟨hfirst, hsecond⟩ := h'.not_mem_of_append
  have hout : e.first ∉ endpoints (earlier ++ edges) := by
    rw [endpoints_append, List.mem_append, not_or]
    refine ⟨hfirst, fun hmem => ?_⟩
    obtain ⟨d, hd, hend⟩ := mem_endpoints.1 hmem
    have hlt := habove d hd
    rcases Sym2.mem_iff.1 hend with heq | heq
    · rw [heq] at hlt
      exact Std.lt_irrefl hlt
    · have hordered := h.ordered d (List.mem_append_right _ hd)
      rw [heq] at hlt
      exact Std.lt_irrefl (Std.lt_trans hlt hordered)
  obtain ⟨d, hd, hlt, hend⟩ :=
    h.inTurn e.first e.second hout (h'.eligible e (List.mem_append_right _ List.mem_cons_self))
  rcases List.mem_append.1 hd with hd | hd
  · exact hsecond (mem_endpoints.2 ⟨d, hd, hend⟩)
  · exact Std.lt_irrefl (Std.lt_trans hlt (habove d hd))

theorem eq_of_append (h : s.Greedy (earlier ++ edges)) (h' : s.Greedy (earlier ++ later)) :
    edges = later := by
  induction edges generalizing earlier later with
  | nil =>
      cases later with
      | nil => rfl
      | cons e rest =>
          obtain ⟨d, more, heq, -⟩ := h.exists_next h'
          cases heq
  | cons d more ih =>
      obtain ⟨e, rest, rfl, hle⟩ := h'.exists_next h
      obtain ⟨_, _, heq, hge⟩ := h.exists_next h'
      obtain ⟨rfl, rfl⟩ := List.cons.inj heq
      have hfirst : d.first = e.first := Std.le_antisymm hge hle
      have hsecond : d.second = e.second := by
        have hd := h.eligible d (List.mem_append_right _ List.mem_cons_self)
        have he := h'.eligible e (List.mem_append_right _ List.mem_cons_self)
        rw [hfirst] at hd
        refine Std.le_antisymm ((h.lowest earlier d more rfl).2 _ ?_ h'.not_mem_of_append.2)
          ((h'.lowest earlier e rest rfl).2 _ hd h.not_mem_of_append.2)
        rw [hfirst]
        exact he
      obtain rfl : d = e := by
        cases d
        cases e
        simp_all
      rw [List.append_cons] at h h'
      rw [ih h h']

/-- A session has one list of edges that follows the rule. -/
theorem unique (h : s.Greedy edges) (h' : s.Greedy later) : edges = later := by
  have hstart : s.Greedy ([] ++ edges) := h
  exact hstart.eq_of_append h'

end Greedy

/-! ### The clients after a scan -/

/-- An end of an edge is given the other end, when the edges have no ends in common. -/
theorem newPeer?_of_mem (hdistinct : (endpoints edges).Nodup) (he : e ∈ edges) :
    newPeer? edges e.first = some e.second ∧ newPeer? edges e.second = some e.first := by
  induction edges with
  | nil => cases he
  | cons d rest ih =>
      simp only [endpoints_cons, List.nodup_cons, List.mem_cons, not_or] at hdistinct
      obtain ⟨⟨hne, hfirst⟩, hsecond, hrest⟩ := hdistinct
      rcases List.mem_cons.1 he with rfl | he
      · simp [newPeer?_cons, Edge.peerOf?, hne]
      · have hother {index : UInt8} (hindex : index ∈ e.ends) : d.peerOf? index = none := by
          rw [Edge.peerOf?_eq_none_iff]
          have hmem := mem_endpoints.2 ⟨e, he, hindex⟩
          intro hend
          rcases Sym2.mem_iff.1 hend with rfl | rfl
          · exact hfirst hmem
          · exact hsecond hmem
        rw [newPeer?_cons, newPeer?_cons, hother (Sym2.mem_mk_left _ _),
          hother (Sym2.mem_mk_right _ _)]
        exact ih hrest he

/-- A client at the end of no edge is left as it was. -/
theorem retarget_of_not_mem {index : UInt8} (h : index ∉ endpoints edges) (c : Client) :
    retarget edges index c = c := by
  have hnone : newPeer? edges index = none :=
    newPeer?_eq_none_iff.2 fun e he hend => h (mem_endpoints.2 ⟨e, he, hend⟩)
  rw [retarget, hnone]

/-- The ends of a new edge are registered, and the scan aims them at each other. -/
theorem client?_ends_of_mem_pairIdle (hindexed : s.Indexed) (he : e ∈ s.pairIdle.2) :
    ∃ c d, s.client? e.first = some c ∧ s.client? e.second = some d ∧
      s.pairIdle.1.client? e.first = some (c.aimAt e.second) ∧
      s.pairIdle.1.client? e.second = some (d.aimAt e.first) := by
  have hgreedy := greedy_pairIdle hindexed
  obtain ⟨-, c, d, hc, hd, -⟩ := hgreedy.eligible e he
  obtain ⟨hfirst, hsecond⟩ := newPeer?_of_mem hgreedy.distinct he
  refine ⟨c, d, hc, hd, ?_, ?_⟩
  · simp [client?_pairIdle hindexed, hc, retarget, hfirst]
  · simp [client?_pairIdle hindexed, hd, retarget, hsecond]

/-- A scan makes the pairs that the greedy rule determines. Its edges go up in their first clients,
each first is below its second, no client is at the end of two edges, every edge joins two clients
that were available and not connected, the second always the lowest such client that no earlier edge
has taken; and no two clients are left out that could be paired. After the scan the ends of each
edge aim at each other and wait for acknowledgements, nothing else about them and nothing about
anybody else or the session has changed, and a second scan finds nothing to do. -/
theorem scan_makes_the_greedy_pairs (hindexed : s.Indexed) :
    let after := s.pairIdle.1
    let edges := s.pairIdle.2
    (∀ other, s.Greedy other ↔ other = edges) ∧
      (∀ a b, a ∉ endpoints edges → b ∉ endpoints edges → ¬s.Eligible a b) ∧
      (∀ e ∈ edges, ∃ c d, s.client? e.first = some c ∧ s.client? e.second = some d ∧
        after.client? e.first = some { c with target := e.second, acknowledged := false } ∧
        after.client? e.second = some { d with target := e.first, acknowledged := false }) ∧
      (∀ index, index ∉ endpoints edges → after.client? index = s.client? index) ∧
      after = { s with clients := after.clients } ∧
      after.pairIdle = (after, []) := by
  intro after edges
  have hgreedy : s.Greedy edges := greedy_pairIdle hindexed
  have hafter : after.Indexed := @Stable.pairIdle _ s [] indexed_stable hindexed
  refine ⟨fun other => ⟨fun h => h.unique hgreedy, fun h => h ▸ hgreedy⟩, ?_, ?_, ?_,
    s.pairAlong_fields _, (pairIdle_eq_self_iff hafter).2 (exhausted_pairIdle hindexed)⟩
  · intro a b ha hb hab
    obtain ⟨e, he, -, hend⟩ := hgreedy.inTurn a b ha hab
    exact hb (mem_endpoints.2 ⟨e, he, hend⟩)
  · intro e he
    exact client?_ends_of_mem_pairIdle hindexed he
  · intro index hout
    have hsame : retarget edges index = id := funext (retarget_of_not_mem hout)
    rw [client?_pairIdle hindexed, hsame, Option.map_id_fun, id]

/-- The first two of four clients have connected before, so each takes one of the others, the lower
first. The pairs crossed over do not follow the rule. -/
theorem scan_makes_the_greedy_pairs_of_four :
    let met := (fresh 7 3).after [.probeOf 1, .probeOf 2, .reportOf 1, .reportOf 2]
    let s := (met.prepare (.probeOf 3)).prepare (.probeOf 4)
    s.Indexed ∧ s.pairIdle.2 = [⟨1, 3⟩, ⟨2, 4⟩] ∧ s.Greedy [⟨1, 3⟩, ⟨2, 4⟩] ∧
      ¬s.Greedy [⟨1, 4⟩, ⟨2, 3⟩] ∧ (∃ c, s.pairIdle.1.client? 3 = some c ∧ c.target = 1) ∧
      s.pairIdle.1.pairIdle = (s.pairIdle.1, []) := by
  intro met s
  have hindexed : s.Indexed := ((indexed_after 7 3 _).prepare _).prepare _
  have hedges : s.pairIdle.2 = [⟨1, 3⟩, ⟨2, 4⟩] := by decide
  obtain ⟨hrule, -, hends, -, -, hagain⟩ := scan_makes_the_greedy_pairs hindexed
  rw [hedges] at hrule hends
  obtain ⟨c, d, -, -, -, hd⟩ := hends ⟨1, 3⟩ List.mem_cons_self
  exact ⟨hindexed, hedges, (hrule _).2 rfl, fun h => absurd ((hrule _).1 h) (by decide),
    ⟨_, hd, rfl⟩, hagain⟩

end Rendezvous.Session
