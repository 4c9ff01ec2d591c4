import Rendezvous.Proofs.Session.Clients

/-!
What a scan for pairs leaves behind. Two clients are eligible for each other when both are
available and neither has connected to the other. A scan takes the clients in ascending order and
looks at each once, although the pairs it makes change who is available; still no eligible pair
is left after it, since a pair only makes clients unavailable. Every packet that could make a
client available, or a pair eligible, is followed by a scan, so a session that takes nothing but
packets never holds an eligible pair.
-/
namespace Rendezvous.Session

variable {s : Session} {a b : UInt8}

/-- A scan may pair the two clients. -/
def Eligible (s : Session) (a b : UInt8) : Prop :=
  a ≠ b ∧ ∃ ca cb, s.client? a = some ca ∧ s.client? b = some cb ∧
    ca.isAvailable ∧ cb.isAvailable ∧ ¬ca.hasConnectedTo b ∧ ¬cb.hasConnectedTo a

/-- No two clients can be paired. -/
def Exhausted (s : Session) : Prop :=
  ∀ a b, ¬s.Eligible a b

theorem Eligible.symm (h : s.Eligible a b) : s.Eligible b a := by
  obtain ⟨hne, ca, cb, ha, hb, hca, hcb, hab, hba⟩ := h
  exact ⟨hne.symm, cb, ca, hb, ha, hcb, hca, hba, hab⟩

/-- What makes a pair eligible is there already when the clients that are available were
available before, with the same connected peers. -/
theorem Eligible.of_available {t : Session} (h : t.Eligible a b)
    (hold : ∀ ⦃index c⦄, t.client? index = some c → c.isAvailable →
      ∃ old, s.client? index = some old ∧ old.isAvailable ∧ old.connected = c.connected) :
    s.Eligible a b := by
  obtain ⟨hne, ca, cb, ha, hb, hca, hcb, hab, hba⟩ := h
  obtain ⟨oa, hoa, hoca, hconnecteda⟩ := hold ha hca
  obtain ⟨ob, hob, hocb, hconnectedb⟩ := hold hb hcb
  refine ⟨hne, oa, ob, hoa, hob, hoca, hocb, ?_, ?_⟩
  · rwa [Client.hasConnectedTo, hconnecteda]
  · rwa [Client.hasConnectedTo, hconnectedb]

/-! ### Partners -/

theorem canPair_iff {c : Client} {second : UInt8} :
    s.canPair c second ↔ c.index ≠ second ∧ ∃ d, s.client? second = some d ∧ d.isAvailable ∧
      ¬d.hasConnectedTo c.index ∧ ¬c.hasConnectedTo second := by
  unfold canPair
  cases s.client? second with
  | none => simp
  | some d => simp [and_assoc]

theorem eligible_iff_canPair (hindexed : s.Indexed) :
    s.Eligible a b ↔ ∃ c, s.client? a = some c ∧ c.isAvailable ∧ s.canPair c b := by
  constructor
  · rintro ⟨hne, ca, cb, ha, hb, hca, hcb, hab, hba⟩
    refine ⟨ca, ha, hca, canPair_iff.2 ?_⟩
    rw [hindexed ha]
    exact ⟨hne, cb, hb, hcb, hba, hab⟩
  · rintro ⟨ca, ha, hca, hpair⟩
    rw [canPair_iff, hindexed ha] at hpair
    obtain ⟨hne, cb, hb, hcb, hba, hab⟩ := hpair
    exact ⟨hne, ca, cb, ha, hb, hca, hcb, hab, hba⟩

theorem eligible_of_partner? (hindexed : s.Indexed) (h : s.partner? a = some b) :
    s.Eligible a b := by
  unfold partner? at h
  split at h
  · cases h
  · next c hc =>
    split at h
    · next havailable =>
      exact (eligible_iff_canPair hindexed).2 ⟨c, hc, havailable, List.find?_some h⟩
    · cases h

theorem partner?_eq_none_iff (hindexed : s.Indexed) :
    s.partner? a = none ↔ ∀ b, ¬s.Eligible a b := by
  simp only [eligible_iff_canPair hindexed, partner?]
  cases hc : s.client? a with
  | none => simp
  | some c =>
      by_cases havailable : c.isAvailable
      · simp only [havailable, if_true, List.find?_eq_none]
        constructor
        · rintro h b ⟨d, hd, -, hpair⟩
          obtain rfl := Option.some.inj hd
          obtain ⟨-, d, hd, -⟩ := canPair_iff.1 hpair
          exact h b (mem_keys_iff.2 ⟨d, hd⟩) hpair
        · intro h b _ hpair
          exact h b ⟨c, rfl, havailable, hpair⟩
      · simp [havailable]

/-! ### Scans -/

/-- Both ends of a new edge are busy, and the other clients are as before. -/
theorem client?_of_join_available (hindexed : s.Indexed) {first second index : UInt8} {c : Client}
    (hne : first ≠ second) (hc : (s.join ⟨first, second⟩).client? index = some c)
    (havailable : c.isAvailable) :
    (index ≠ first ∧ index ≠ second) ∧ s.client? index = some c := by
  rw [client?_join s hne] at hc
  obtain ⟨old, hold, rfl⟩ := Option.map_eq_some_iff.1 hc
  have hindex := hindexed hold
  split at havailable
  · next hfirst =>
    refine absurd havailable (Client.not_isAvailable_aimAt ?_)
    rw [hindex, hfirst]
    exact hne.symm
  · next hfirst =>
    split at havailable
    · next hsecond =>
      refine absurd havailable (Client.not_isAvailable_aimAt ?_)
      rw [hindex, hsecond]
      exact hne
    · next hsecond =>
      refine ⟨⟨hfirst, hsecond⟩, ?_⟩
      rw [if_neg hfirst, if_neg hsecond]
      exact hold

theorem partner?_join_eq_none (hindexed : s.Indexed) {first second : UInt8} (hne : first ≠ second)
    (h : a = first ∨ s.partner? a = none) :
    (s.join ⟨first, second⟩).partner? a = none := by
  rw [partner?_eq_none_iff (hindexed.join _)]
  intro b hb
  rcases h with rfl | h
  · obtain ⟨-, c, -, hc, -, havailable, -⟩ := hb
    exact (client?_of_join_available hindexed hne hc havailable).1.1 rfl
  · refine (partner?_eq_none_iff hindexed).1 h b (hb.of_available ?_)
    intro index c hc havailable
    exact ⟨c, (client?_of_join_available hindexed hne hc havailable).2, havailable, rfl⟩

/-- A client without a partner stays without, and one that was looked at is without. -/
theorem partner?_pairAlong_eq_none (hindexed : s.Indexed) (indices : List UInt8)
    (h : a ∈ indices ∨ s.partner? a = none) : (s.pairAlong indices).1.partner? a = none := by
  -- The session changes with every pair, so the invariant is the disjunction: the client is still
  -- to be looked at, or has no partner now.
  induction indices generalizing s with
  | nil => exact h.resolve_left List.not_mem_nil
  | cons first rest ih =>
      cases hpartner : s.partner? first with
      | none =>
          simp only [pairAlong, hpartner]
          refine ih hindexed ?_
          rcases h with h | h
          · rcases List.mem_cons.1 h with rfl | hrest
            · exact .inr hpartner
            · exact .inl hrest
          · exact .inr h
      | some second =>
          have hne : first ≠ second := (eligible_of_partner? hindexed hpartner).1
          simp only [pairAlong, hpartner]
          refine ih (hindexed.join _) ?_
          rcases h with h | h
          · rcases List.mem_cons.1 h with rfl | hrest
            · exact .inr (partner?_join_eq_none hindexed hne (.inl rfl))
            · exact .inl hrest
          · exact .inr (partner?_join_eq_none hindexed hne (.inr h))

/-- One scan in ascending order leaves no pair behind. -/
theorem exhausted_pairIdle (hindexed : s.Indexed) : s.pairIdle.1.Exhausted := by
  intro a
  have hfinal : s.pairIdle.1.Indexed := @Stable.pairIdle _ s [] indexed_stable hindexed
  refine (partner?_eq_none_iff hfinal).1 (partner?_pairAlong_eq_none hindexed _ ?_)
  -- Every registered client is looked at, and no other has a partner.
  cases hc : s.client? a with
  | none => exact .inr (by simp [partner?, hc])
  | some c => exact .inl (mem_keys_iff.2 ⟨c, hc⟩)

theorem pairAlong_eq_self {indices : List UInt8} (h : ∀ i ∈ indices, s.partner? i = none) :
    s.pairAlong indices = (s, []) := by
  induction indices with
  | nil => rfl
  | cons first rest ih =>
      rw [pairAlong, h first List.mem_cons_self]
      exact ih fun i hi => h i (List.mem_cons_of_mem _ hi)

/-- A scan finds nothing to do exactly when there is nothing to do. -/
theorem pairIdle_eq_self_iff (hindexed : s.Indexed) : s.pairIdle = (s, []) ↔ s.Exhausted := by
  constructor
  · intro h
    have hexhausted := exhausted_pairIdle hindexed
    rwa [h] at hexhausted
  · intro h
    exact pairAlong_eq_self fun i _ => (partner?_eq_none_iff hindexed).2 (h i)

/-! ### Packets -/

theorem exhausted_fresh (cookie : UInt32) (version : UInt8) :
    (fresh cookie version).Exhausted := by
  rintro a b ⟨-, ca, -, ha, -⟩
  cases ha

theorem Exhausted.acknowledge (h : s.Exhausted) (index : UInt8) :
    (s.acknowledge index).Exhausted := by
  intro a b hab
  refine h a b (hab.of_available ?_)
  intro other c hc havailable
  rw [client?_acknowledge] at hc
  obtain ⟨old, hold, rfl⟩ := Option.map_eq_some_iff.1 hc
  refine ⟨old, hold, ?_, ?_⟩
  · split at havailable
    · exact havailable
    · exact havailable
  · split
    · rfl
    · rfl

/-- A probe that leaves its client unmapped makes nobody available. -/
theorem Exhausted.register_of_unmapped (h : s.Exhausted) {r : InitRequest}
    {source : SocketAddress} (hunmapped : ¬((s.prober r).learn r source).isMapped) :
    (s.register r source).Exhausted := by
  intro a b hab
  refine h a b (hab.of_available ?_)
  intro other c hc havailable
  rw [client?_register] at hc
  -- The client of the probe is not available, and the others are as before.
  split at hc
  · obtain rfl := Option.some.inj hc
    exact absurd (Client.isAvailable_iff.1 havailable).2 hunmapped
  · exact ⟨c, hc, havailable, rfl⟩

theorem Exhausted.pairAfter_register (h : s.Exhausted) (hindexed : s.Indexed) (r : InitRequest)
    (source : SocketAddress) : ((s.register r source).pairAfter r.index).1.Exhausted := by
  unfold pairAfter
  split
  · exact exhausted_pairIdle (hindexed.register r source)
  · next hunmapped =>
    refine h.register_of_unmapped ?_
    simpa using hunmapped

theorem Exhausted.handle (h : s.Exhausted) (hindexed : s.Indexed) (p : Packet) :
    (s.handle p).session.Exhausted := by
  rw [handle_eq]
  rcases p.request with failure | (r | r | r | _)
  · show s.Exhausted
    exact h
  · show (s.handleInit r p.source).session.Exhausted
    cases hgame : s.checkGame r with
    | error failure =>
        rw [(handleInit_of_refused hgame p.source).1]
        exact h
    | ok _ =>
        rw [(handleInit_of_accepted hgame p.source).1]
        exact h.pairAfter_register hindexed r p.source
  · show (s.acknowledge r.index).Exhausted
    exact h.acknowledge r.index
  · show (s.rotate r.index).pairIdle.1.Exhausted
    exact exhausted_pairIdle (hindexed.rotate r.index)
  · show s.Exhausted
    exact h

theorem indexed_after (cookie : UInt32) (version : UInt8) (packets : List Packet) :
    ((fresh cookie version).after packets).Indexed :=
  after_induct (fun _ p h => h.handle p) (indexed_fresh cookie version) packets

theorem exhausted_after (cookie : UInt32) (version : UInt8) (packets : List Packet) :
    ((fresh cookie version).after packets).Exhausted := by
  have hboth := after_induct (P := fun s => s.Indexed ∧ s.Exhausted)
    (fun _ p h => ⟨h.1.handle p, h.2.handle h.1 p⟩)
    ⟨indexed_fresh cookie version, exhausted_fresh cookie version⟩ packets
  exact hboth.2

/-- Whatever packets a session took, and whether or not they failed, no two clients are left that
could be paired, and another scan would find nothing. -/
theorem no_pair_is_missed (cookie : UInt32) (version : UInt8) (packets : List Packet) :
    let s := (fresh cookie version).after packets
    (∀ a b, ¬s.Eligible a b) ∧ s.pairIdle = (s, []) := by
  intro s
  have hindexed : s.Indexed := indexed_after cookie version packets
  have hexhausted : s.Exhausted := exhausted_after cookie version packets
  exact ⟨hexhausted, (pairIdle_eq_self_iff hindexed).2 hexhausted⟩

end Rendezvous.Session
