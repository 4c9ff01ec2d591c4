import Rendezvous.Proofs.Session.Meetings

/-!
What a scan for pairs does to each client. A client that is busy, or not mapped, is left alone. A
client that is available is at the end of at most one new edge; it then aims at the other end of
that edge, and nothing else about it changes.
-/
namespace Rendezvous

/-- The end of an edge that a client at the other end aims at. -/
def Edge.peerOf? (e : Edge) (index : UInt8) : Option UInt8 :=
  if e.first = index then some e.second
  else if e.second = index then some e.first
  else none

theorem Edge.peerOf?_eq_some {e : Edge} {index peer : UInt8} (h : e.peerOf? index = some peer) :
    e.ends = s(index, peer) := by
  unfold peerOf? at h
  split at h
  · next hfirst =>
    obtain rfl := Option.some.inj h
    rw [ends, hfirst]
  · split at h
    · next hsecond =>
      obtain rfl := Option.some.inj h
      rw [ends, hsecond, Sym2.eq_swap]
    · cases h

theorem Edge.peerOf?_eq_none_iff {e : Edge} {index : UInt8} :
    e.peerOf? index = none ↔ index ∉ e.ends := by
  simp only [peerOf?, ends, Sym2.mem_iff, not_or]
  by_cases hfirst : e.first = index
  · simp [hfirst]
  · by_cases hsecond : e.second = index
    · simp [hfirst, hsecond]
    · simp [hfirst, hsecond, Ne.symm hfirst, Ne.symm hsecond]

namespace Session

variable {s : Session} {index : UInt8} {c : Client}

/-- The peer that one of the edges gives to a client. -/
def newPeer? (edges : List Edge) (index : UInt8) : Option UInt8 :=
  edges.findSome? (·.peerOf? index)

theorem newPeer?_eq_none_iff {edges : List Edge} :
    newPeer? edges index = none ↔ ∀ e ∈ edges, index ∉ e.ends := by
  simp [newPeer?, List.findSome?_eq_none_iff, Edge.peerOf?_eq_none_iff]

theorem mem_ends_of_newPeer? {edges : List Edge} {peer : UInt8}
    (h : newPeer? edges index = some peer) : ∃ e ∈ edges, e.ends = s(index, peer) := by
  obtain ⟨e, he, hpeer⟩ := List.exists_of_findSome?_eq_some h
  exact ⟨e, he, Edge.peerOf?_eq_some hpeer⟩

theorem ne_of_newPeer? {edges : List Edge} {peer : UInt8}
    (hends : ∀ e ∈ edges, e.first ≠ e.second) (h : newPeer? edges index = some peer) :
    index ≠ peer := by
  obtain ⟨e, he, hpair⟩ := mem_ends_of_newPeer? h
  exact Edge.ne_of_ends_eq (hends e he) hpair

/-- What new edges make of a client. -/
def retarget (edges : List Edge) (index : UInt8) (c : Client) : Client :=
  match newPeer? edges index with
  | none => c
  | some peer => c.aimAt peer

@[simp] theorem addresses_retarget (edges : List Edge) (index : UInt8) (c : Client) :
    (retarget edges index c).addresses = c.addresses := by
  unfold retarget
  split
  · rfl
  · rfl

@[simp] theorem connected_retarget (edges : List Edge) (index : UInt8) (c : Client) :
    (retarget edges index c).connected = c.connected := by
  unfold retarget
  split
  · rfl
  · rfl

theorem newPeer?_cons (e : Edge) (edges : List Edge) :
    newPeer? (e :: edges) index = (e.peerOf? index).or (newPeer? edges index) := by
  simp only [newPeer?, List.findSome?_cons]
  cases e.peerOf? index with
  | none => rfl
  | some peer => rfl

/-- A client that is not available gets no new edge. -/
theorem newPeer?_pairAlong_eq_none (hindexed : s.Indexed) (indices : List UInt8)
    (hunavailable : ∀ c, s.client? index = some c → ¬c.isAvailable) :
    newPeer? (s.pairAlong indices).2 index = none := by
  induction indices generalizing s with
  | nil => rfl
  | cons first rest ih =>
      cases hpartner : s.partner? first with
      | none =>
          simp only [pairAlong, hpartner]
          exact ih hindexed hunavailable
      | some second =>
          simp only [pairAlong, hpartner]
          have heligible := eligible_of_partner? hindexed hpartner
          obtain ⟨hne, cfirst, csecond, hfirst, hsecond, havfirst, havsecond, -⟩ := heligible
          have hindex : index ≠ first ∧ index ≠ second := by
            constructor
            · rintro rfl
              exact hunavailable cfirst hfirst havfirst
            · rintro rfl
              exact hunavailable csecond hsecond havsecond
          have hpeer : Edge.peerOf? ⟨first, second⟩ index = none := by
            simp [Edge.peerOf?, hindex.1.symm, hindex.2.symm]
          have hrest : newPeer? ((s.join ⟨first, second⟩).pairAlong rest).2 index = none := by
            refine ih (hindexed.join _) ?_
            intro c hc havailable
            exact hunavailable c (client?_of_join_available hindexed hne hc havailable).2 havailable
          rw [newPeer?_cons, hpeer, hrest]
          rfl

/-- The ends of a new edge are busy, so a scan does not come back to them. -/
theorem newPeer?_pairAlong_join (hindexed : s.Indexed) {first second : UInt8} (hne : first ≠ second)
    (indices : List UInt8) (hindex : index = first ∨ index = second) :
    newPeer? ((s.join ⟨first, second⟩).pairAlong indices).2 index = none := by
  refine newPeer?_pairAlong_eq_none (hindexed.join _) indices fun c hc havailable => ?_
  rw [client?_join s hne] at hc
  obtain ⟨old, hold, rfl⟩ := Option.map_eq_some_iff.1 hc
  rcases hindex with rfl | rfl
  · rw [if_pos rfl] at havailable
    refine Client.not_isAvailable_aimAt ?_ havailable
    rw [hindexed hold]
    exact hne.symm
  · rw [if_neg hne.symm, if_pos rfl] at havailable
    refine Client.not_isAvailable_aimAt ?_ havailable
    rw [hindexed hold]
    exact hne

/-- Every client after a scan: as before, or aimed at the peer that its new edge gives it. -/
theorem client?_pairAlong (hindexed : s.Indexed) (indices : List UInt8) :
    (s.pairAlong indices).1.client? index =
      (s.client? index).map (retarget (s.pairAlong indices).2 index) := by
  induction indices generalizing s with
  | nil =>
      have hid : retarget [] index = id := rfl
      simp [pairAlong, hid]
  | cons first rest ih =>
      cases hpartner : s.partner? first with
      | none =>
          simp only [pairAlong, hpartner]
          exact ih hindexed
      | some second =>
          have hne : first ≠ second := (eligible_of_partner? hindexed hpartner).1
          simp only [pairAlong, hpartner]
          rw [ih (hindexed.join _), client?_join s hne, Option.map_map]
          congr 1
          funext c
          simp only [Function.comp_apply, retarget, newPeer?_cons, Edge.peerOf?]
          by_cases hfirst : index = first
          · have hlater := newPeer?_pairAlong_join hindexed hne rest (.inl hfirst)
            simp [hfirst] at hlater ⊢
            simp [hlater]
          · by_cases hsecond : index = second
            · have hlater := newPeer?_pairAlong_join hindexed hne rest (.inr hsecond)
              simp [hsecond, hne] at hlater ⊢
              simp [hlater, hne.symm]
            · simp [hfirst, hsecond, Ne.symm hfirst, Ne.symm hsecond]

theorem client?_pairIdle (hindexed : s.Indexed) (index : UInt8) :
    s.pairIdle.1.client? index = (s.client? index).map (retarget s.pairIdle.2 index) :=
  client?_pairAlong hindexed s.clients.keys

/-- A scan changes nothing of a session but its clients. -/
theorem pairAlong_fields (s : Session) (indices : List UInt8) :
    (s.pairAlong indices).1 = { s with clients := (s.pairAlong indices).1.clients } := by
  induction indices generalizing s with
  | nil => rfl
  | cons first rest ih =>
      cases hpartner : s.partner? first with
      | none =>
          simp only [pairAlong, hpartner]
          exact ih s
      | some second =>
          simp only [pairAlong, hpartner]
          exact ih (s.join ⟨first, second⟩)

/-! ### The scan of a packet -/

/-- The session as a packet leaves it for the scan, if there is one. -/
def prepare (s : Session) (p : Packet) : Session :=
  match p.request with
  | .ok (.probe r) =>
    match s.checkGame r with
    | .error _ => s
    | .ok () => s.register r p.source
  | .ok (.reply r) => s.acknowledge r.index
  | .ok (.report r) => s.rotate r.index
  | _ => s

/-- What a packet makes of its session is what it prepares, with or without a scan. -/
theorem handle_eq_prepare (s : Session) (p : Packet) :
    (s.handle p).session = s.prepare p ∧ (s.handle p).edges = [] ∨
      (s.handle p).session = (s.prepare p).pairIdle.1 ∧
        (s.handle p).edges = (s.prepare p).pairIdle.2 := by
  rw [handle_eq, prepare]
  rcases p.request with failure | (r | r | r | _)
  · exact .inl ⟨rfl, rfl⟩
  · cases hgame : s.checkGame r with
    | error failure =>
        simp only [hgame]
        exact .inl (handleInit_of_refused hgame p.source)
    | ok _ =>
        obtain ⟨hsession, hedges⟩ := handleInit_of_accepted hgame p.source
        simp only [hgame, hsession, hedges]
        unfold pairAfter
        split
        · exact .inr ⟨rfl, rfl⟩
        · exact .inl ⟨rfl, rfl⟩
  · exact .inl ⟨rfl, rfl⟩
  · exact .inr ⟨rfl, rfl⟩
  · exact .inl ⟨rfl, rfl⟩

theorem gameName_pairIdle (s : Session) : s.pairIdle.1.gameName = s.gameName := by
  rw [pairIdle, pairAlong_fields]

theorem gameName_handle (s : Session) (p : Packet) :
    (s.handle p).session.gameName = (s.prepare p).gameName := by
  rcases handle_eq_prepare s p with ⟨hsession, -⟩ | ⟨hsession, -⟩
  · rw [hsession]
  · rw [hsession, gameName_pairIdle]

theorem Indexed.prepare (h : s.Indexed) (p : Packet) : (s.prepare p).Indexed := by
  unfold Session.prepare
  split
  · split
    · exact h
    · exact h.register _ _
  · exact h.acknowledge _
  · exact h.rotate _
  · exact h

/-- Every client after a packet: as the packet has prepared it, or aimed at the peer that its new
edge gives it. -/
theorem client?_handle (hindexed : s.Indexed) (p : Packet) (index : UInt8) :
    (s.handle p).session.client? index =
      ((s.prepare p).client? index).map (retarget (s.handle p).edges index) := by
  rcases handle_eq_prepare s p with ⟨hsession, hedges⟩ | ⟨hsession, hedges⟩
  · have hid : retarget [] index = id := rfl
    rw [hsession, hedges, hid, Option.map_id_fun, id]
  · rw [hsession, hedges]
    exact client?_pairIdle (hindexed.prepare p) _

/-- A packet gives a new peer only to a client that it leaves available. -/
theorem isIdle_of_newPeer?_handle (hindexed : s.Indexed) {p : Packet}
    (hpeer : newPeer? (s.handle p).edges index ≠ none)
    (hc : (s.prepare p).client? index = some c) : c.isIdle := by
  rcases handle_eq_prepare s p with ⟨-, hedges⟩ | ⟨-, hedges⟩
  · rw [hedges] at hpeer
    exact absurd rfl hpeer
  · rw [hedges] at hpeer
    by_contra hbusy
    refine hpeer (newPeer?_pairAlong_eq_none (hindexed.prepare p) _ fun d hd havailable => ?_)
    obtain rfl := Option.some.inj (hc.symm.trans hd)
    exact hbusy (Client.isAvailable_iff.1 havailable).1

end Session

end Rendezvous
