import Mathlib.Data.Sym.Card
import Rendezvous.Proofs.Session.Pairing
import Rendezvous.Proofs.Table

/-!
Who has met whom. A client has met a peer from the moment an attempt of the two begins, whether
it still aims at the peer or already counts it as connected; reports move a peer from the one to
the other, at different times for the two ends. So the edges issued so far are exactly the pairs
that have met, seen from either end, and a pair that has met is not eligible any more. It follows
that no pair is ever issued twice, and that an attempt is one-sided only because the other end has
reported it already.
-/
namespace Rendezvous

/-- The two clients of an edge, in no order. -/
def Edge.ends (e : Edge) : Sym2 UInt8 :=
  s(e.first, e.second)

theorem Edge.ne_of_ends_eq {e : Edge} {a b : UInt8} (hne : e.first ≠ e.second)
    (h : e.ends = s(a, b)) : a ≠ b := by
  rintro rfl
  rw [ends, Sym2.eq_iff] at h
  rcases h with ⟨hfirst, hsecond⟩ | ⟨hfirst, hsecond⟩
  · exact hne (hfirst.trans hsecond.symm)
  · exact hne (hfirst.trans hsecond.symm)

namespace Session

variable {s : Session} {issued : List Edge} {a b : UInt8}

/-- The client of the first index has met that of the second. -/
def HasMet (s : Session) (a b : UInt8) : Prop :=
  ∃ c, s.client? a = some c ∧ c.HasMet b

/-! ### How the four changes bear on meetings -/

theorem hasMet_register (hab : a ≠ b) (r : InitRequest) (source : SocketAddress) :
    (s.register r source).HasMet a b ↔ s.HasMet a b := by
  simp only [HasMet, client?_register]
  split
  · next hindex =>
    subst hindex
    simp only [Option.some.injEq, exists_eq_left', Client.hasMet_learn, prober]
    cases s.client? r.index with
    | none => simpa [Client.hasMet_fresh] using hab
    | some c => simp
  · rfl

theorem hasMet_acknowledge (index : UInt8) : (s.acknowledge index).HasMet a b ↔ s.HasMet a b := by
  simp only [HasMet, client?_acknowledge]
  cases s.client? a with
  | none => simp
  | some c => by_cases h : a = index <;> simp [h]

theorem hasMet_rotate (hindexed : s.Indexed) (hab : a ≠ b) (index : UInt8) :
    (s.rotate index).HasMet a b ↔ s.HasMet a b := by
  simp only [HasMet, client?_rotate]
  cases hc : s.client? a with
  | none => simp
  | some c =>
      have hb : b ≠ c.index := by
        rw [hindexed hc]
        exact hab.symm
      by_cases h : a = index <;> simp [h, Client.hasMet_finish hb]

/-- A new edge makes its two ends meet, and nobody else. -/
theorem hasMet_join (hindexed : s.Indexed) {first second : UInt8}
    (heligible : s.Eligible first second) (hab : a ≠ b) :
    (s.join ⟨first, second⟩).HasMet a b ↔ s(a, b) = s(first, second) ∨ s.HasMet a b := by
  obtain ⟨hne, cfirst, csecond, hfirst, hsecond, havfirst, havsecond, -⟩ := heligible
  -- Each end was idle, so it loses no peer when it aims at another.
  have hidle {index c} (hc : s.client? index = some c) (hav : c.isAvailable) (hb : index ≠ b) :
      ∀ peer, (c.aimAt peer).HasMet b ↔ b = peer ∨ c.HasMet b := by
    intro peer
    refine Client.hasMet_aimAt (Client.isAvailable_iff.1 hav).1 ?_
    rw [hindexed hc]
    exact hb.symm
  simp only [HasMet, client?_join s hne, Sym2.eq_iff]
  by_cases ha : a = first
  · subst ha
    simp [hfirst, hidle hfirst havfirst hab, hne]
  · by_cases ha' : a = second
    · subst ha'
      simp [hsecond, hidle hsecond havsecond hab, ha]
    · cases s.client? a with
      | none => simp [ha, ha']
      | some c => simp [ha, ha']

/-- An idle client aims at nobody else. -/
theorem target_ne_of_isAvailable (hindexed : s.Indexed) {c : Client} (hc : s.client? a = some c)
    (havailable : c.isAvailable) (hab : a ≠ b) : c.target ≠ b := by
  rw [Client.isIdle_iff.1 (Client.isAvailable_iff.1 havailable).1, hindexed hc]
  exact hab

theorem Eligible.not_hasMet (h : s.Eligible a b) (hindexed : s.Indexed) : ¬s.HasMet a b := by
  obtain ⟨hne, ca, cb, ha, hb, hca, hcb, hab, hba⟩ := h
  rintro ⟨c, hc, hmet⟩
  obtain rfl := Option.some.inj (ha.symm.trans hc)
  rcases hmet with htarget | hconnected
  · exact target_ne_of_isAvailable hindexed ha hca hne htarget
  · exact hab hconnected

/-! ### The account of the edges -/

/-- The edges issued so far account for the state of the session. -/
structure Accounted (s : Session) (issued : List Edge) : Prop where
  coherent : s.EachClient Client.Coherent
  nodup : (issued.map Edge.ends).Nodup
  ends_ne : ∀ e ∈ issued, e.first ≠ e.second
  hasMet_iff : ∀ {a b}, a ≠ b → (s.HasMet a b ↔ s(a, b) ∈ issued.map Edge.ends)

namespace Accounted

theorem indexed (h : s.Accounted issued) : s.Indexed :=
  fun _ _ hc => (h.coherent hc).index_eq

theorem hasMet_symm (h : s.Accounted issued) (hab : a ≠ b) (hmet : s.HasMet a b) :
    s.HasMet b a := by
  rw [h.hasMet_iff hab.symm, Sym2.eq_swap]
  exact (h.hasMet_iff hab).1 hmet

/-- Clients that have met are registered and mapped. -/
theorem isMapped (h : s.Accounted issued) (hab : a ≠ b) (hmet : s.HasMet a b) :
    ∃ c, s.client? a = some c ∧ c.isMapped := by
  obtain ⟨c, hc, hmet⟩ := hmet
  exact ⟨c, hc, (h.coherent hc).mapped hab.symm hmet⟩

theorem start (cookie : UInt32) (version : UInt8) : (fresh cookie version).Accounted [] where
  coherent := EachClient.fresh cookie version
  nodup := List.nodup_nil
  ends_ne e he := absurd he List.not_mem_nil
  hasMet_iff := by simp [HasMet]

theorem register (h : s.Accounted issued) (r : InitRequest) (source : SocketAddress) :
    (s.register r source).Accounted issued where
  coherent := by
    have hprober : Client.Coherent r.index (s.prober r) :=
      EachClient.prober h.coherent (.fresh s.cookie r.index r.gameName)
    exact h.coherent.register (hprober.learn r source)
  nodup := h.nodup
  ends_ne := h.ends_ne
  hasMet_iff hab := (hasMet_register hab r source).trans (h.hasMet_iff hab)

theorem acknowledge (h : s.Accounted issued) (index : UInt8) :
    (s.acknowledge index).Accounted issued where
  coherent := h.coherent.update fun _ _ hc => hc.acknowledge
  nodup := h.nodup
  ends_ne := h.ends_ne
  hasMet_iff hab := (hasMet_acknowledge index).trans (h.hasMet_iff hab)

theorem rotate (h : s.Accounted issued) (index : UInt8) :
    (s.rotate index).Accounted issued where
  coherent := h.coherent.update fun _ _ hc => hc.finish
  nodup := h.nodup
  ends_ne := h.ends_ne
  hasMet_iff hab := (hasMet_rotate h.indexed hab index).trans (h.hasMet_iff hab)

theorem join (h : s.Accounted issued) {first second : UInt8}
    (heligible : s.Eligible first second) :
    (s.join ⟨first, second⟩).Accounted (issued ++ [⟨first, second⟩]) := by
  -- Had an edge joined the two before, they would have met and not be eligible.
  have hnew : s(first, second) ∉ issued.map Edge.ends := by
    rw [← h.hasMet_iff heligible.1]
    exact heligible.not_hasMet h.indexed
  have hjoin {a b} (hab : a ≠ b) := hasMet_join h.indexed heligible hab
  obtain ⟨hne, cfirst, csecond, hfirst, hsecond, havfirst, havsecond, hfs, hsf⟩ := heligible
  refine ⟨?_, ?_, ?_, ?_⟩
  · refine h.coherent.join hne ?_ ?_
    · intro c hc
      obtain rfl := Option.some.inj (hfirst.symm.trans hc)
      exact (h.coherent hfirst).aimAt hfs (Client.isAvailable_iff.1 havfirst).2
    · intro c hc
      obtain rfl := Option.some.inj (hsecond.symm.trans hc)
      exact (h.coherent hsecond).aimAt hsf (Client.isAvailable_iff.1 havsecond).2
  · rw [List.map_append, List.nodup_append']
    exact ⟨h.nodup, List.nodup_singleton _, by simpa [Edge.ends] using hnew⟩
  · intro e he
    rcases List.mem_append.1 he with he | he
    · exact h.ends_ne e he
    · rw [List.mem_singleton.1 he]
      exact hne
  · intro a b hab
    rw [hjoin hab, h.hasMet_iff hab]
    simp [Edge.ends, or_comm]

end Accounted

theorem accounted_stable : Stable Accounted where
  register r source _ h := h.register r source
  acknowledge index h := h.acknowledge index
  rotate index h := h.rotate index
  join hpartner h := h.join (eligible_of_partner? h.indexed hpartner)

theorem accounted_run (cookie : UInt32) (version : UInt8) (operations : List Operation) :
    ((fresh cookie version).run operations).session.Accounted
      ((fresh cookie version).run operations).issued :=
  accounted_stable.run (Accounted.start cookie version) operations

/-- As many pairs can meet as there are pairs of registered clients. -/
theorem Accounted.length_issued_le (h : s.Accounted issued) :
    issued.length ≤ s.clients.size.choose 2 := by
  have hkey {a b : UInt8} (hab : a ≠ b) (hmet : s.HasMet a b) : a ∈ s.clients.keys := by
    obtain ⟨c, hc, -⟩ := hmet
    exact mem_keys_iff.2 ⟨c, hc⟩
  -- Edges join registered clients, two different ones each.
  have hsubset : (issued.map Edge.ends).toFinset ⊆
      s.clients.keys.toFinset.offDiag.image Sym2.mk.uncurry := by
    intro pair hpair
    rw [List.mem_toFinset, List.mem_map] at hpair
    obtain ⟨e, he, rfl⟩ := hpair
    have hne := h.ends_ne e he
    have hmet : s.HasMet e.first e.second :=
      (h.hasMet_iff hne).2 (List.mem_map_of_mem he)
    refine Finset.mem_image.2 ⟨(e.first, e.second), ?_, rfl⟩
    simp only [Finset.mem_offDiag, List.mem_toFinset]
    exact ⟨hkey hne hmet, hkey hne.symm (h.hasMet_symm hne hmet), hne⟩
  calc issued.length = (issued.map Edge.ends).toFinset.card := by
        rw [List.toFinset_card_of_nodup h.nodup, List.length_map]
    _ ≤ (s.clients.keys.toFinset.offDiag.image Sym2.mk.uncurry).card :=
        Finset.card_le_card hsubset
    _ = s.clients.keys.toFinset.card.choose 2 := Sym2.card_image_offDiag _
    _ = s.clients.size.choose 2 := by
        rw [List.toFinset_card_of_nodup s.clients.nodup_keys, Table.length_keys]

/-- Over a whole run, no two clients are told to connect twice. A session that ends with `n`
clients issued at most `n * (n - 1) / 2` edges, each of which starts one retry. -/
theorem no_pair_issued_twice (cookie : UInt32) (version : UInt8) (operations : List Operation) :
    let run := (fresh cookie version).run operations
    (run.issued.map Edge.ends).Nodup ∧
      run.issued.length ≤ run.session.clients.size * (run.session.clients.size - 1) / 2 := by
  intro run
  have h : run.session.Accounted run.issued := accounted_run cookie version operations
  refine ⟨h.nodup, ?_⟩
  rw [← Nat.choose_two_right]
  exact h.length_issued_le

/-- Three clients, each of which reports as soon as it can, are joined pair by pair. -/
example : ((fresh 7 3).run
    ([.probeOf 1, .probeOf 2, .probeOf 3, .reportOf 1, .reportOf 2, .reportOf 3].map
      .packet)).issued = [⟨1, 2⟩, ⟨1, 3⟩, ⟨2, 3⟩] := by
  decide

/-- What the edges issued so far say of two clients, and what each of the two says of the other,
is the same. A client aims at a peer or counts it as connected, never both. -/
theorem issued_iff_met_from_either_end (cookie : UInt32) (version : UInt8)
    (operations : List Operation) {a b : UInt8} (hab : a ≠ b) :
    let run := (fresh cookie version).run operations
    ∀ ca cb, run.session.client? a = some ca → run.session.client? b = some cb →
      ((∃ e ∈ run.issued, e.ends = s(a, b)) ↔ ca.target = b ∨ ca.hasConnectedTo b) ∧
      ((∃ e ∈ run.issued, e.ends = s(a, b)) ↔ cb.target = a ∨ cb.hasConnectedTo a) ∧
      ¬(ca.target = b ∧ ca.hasConnectedTo b) ∧
      ¬(cb.target = a ∧ cb.hasConnectedTo a) ∧
      (ca.target = b → cb.target ≠ a → cb.hasConnectedTo a) := by
  intro run ca cb ha hb
  have h : run.session.Accounted run.issued := accounted_run cookie version operations
  have hissued : (∃ e ∈ run.issued, e.ends = s(a, b)) ↔ ca.target = b ∨ ca.hasConnectedTo b := by
    rw [← List.mem_map, ← h.hasMet_iff hab]
    simp [HasMet, ha, Client.HasMet]
  have hissued' : (∃ e ∈ run.issued, e.ends = s(a, b)) ↔ cb.target = a ∨ cb.hasConnectedTo a := by
    rw [← List.mem_map, Sym2.eq_swap, ← h.hasMet_iff hab.symm]
    simp [HasMet, hb, Client.HasMet]
  refine ⟨hissued, hissued', ?_, ?_, ?_⟩
  · rintro ⟨rfl, hconnected⟩
    exact (h.coherent ha).not_again hconnected
  · rintro ⟨rfl, hconnected⟩
    exact (h.coherent hb).not_again hconnected
  · intro htarget hother
    exact (hissued'.1 (hissued.2 (.inl htarget))).resolve_left hother

/-- After the first report of a pair, the other end still aims at a client that has connected. -/
theorem met_from_either_end_after_one_report :
    let run := (fresh 7 3).run ([.probeOf 1, .probeOf 2, .reportOf 1].map .packet)
    ∃ ca cb, run.session.client? 2 = some ca ∧ run.session.client? 1 = some cb ∧
      ca.target = 1 ∧ cb.target ≠ 2 ∧ cb.hasConnectedTo 2 := by
  refine ⟨_, _, (Option.some_get (by decide)).symm, (Option.some_get (by decide)).symm,
    by decide, by decide, ?_⟩
  have hmet := issued_iff_met_from_either_end 7 3
    ([.probeOf 1, .probeOf 2, .reportOf 1].map .packet) (a := 2) (b := 1) (by decide) _ _
    (Option.some_get (by decide)).symm (Option.some_get (by decide)).symm
  exact hmet.2.2.2.2 (by decide) (by decide)

end Session

end Rendezvous
