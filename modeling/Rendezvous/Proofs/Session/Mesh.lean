import Mathlib
import Rendezvous.Proofs.Session.Meetings

/-!
Rotation. A report moves the peer of an attempt into the set of connected peers and leaves its
client to be paired again. The connected sets of all clients together grow by one with each such
report and never shrink; a client counts no peer twice, and only mapped clients are counted. So
with `m` mapped clients there are at most `m * (m - 1)` such reports, and when nobody is in the
middle of an attempt any more, every two mapped clients have connected, seen from either end.
-/
namespace Rendezvous

namespace Session

variable {s : Session} {issued : List Edge} {α : Type}

/-- The number of clients that can ever be paired. -/
def mappedCount (s : Session) : Nat :=
  s.clients.values.countP (·.isMapped)

/-- The sizes of all connected sets together. -/
def connectedTotal (s : Session) : Nat :=
  (s.clients.values.map fun c => c.connected.size).sum

/-- Whether a packet is a report of a client in the middle of an attempt. -/
def endsAttempt (s : Session) (p : Packet) : Bool :=
  match p.request with
  | .ok (.report r) => (s.client? r.index).any fun c => !c.isIdle
  | _ => false

/-- The number of packets that find their client in the middle of an attempt and end it. -/
def attemptsEnded (s : Session) : List Packet → Nat
  | [] => 0
  | p :: rest => (if s.endsAttempt p then 1 else 0) + (s.handle p).session.attemptsEnded rest

/-! ### What every change leaves alone -/

theorem map_values_update {f : Client → α} (index : UInt8) (change : Client → Client)
    (h : ∀ c, f (change c) = f c) :
    (s.update index change).clients.values.map f = s.clients.values.map f :=
  Table.map_values_modify s.clients index h

theorem map_values_pairAlong {f : Client → α} (h : ∀ c peer, f (c.aimAt peer) = f c)
    (indices : List UInt8) :
    (s.pairAlong indices).1.clients.values.map f = s.clients.values.map f := by
  induction indices generalizing s with
  | nil => rfl
  | cons first rest ih =>
      cases hpartner : s.partner? first with
      | none =>
          simp only [pairAlong, hpartner]
          exact ih
      | some second =>
          simp only [pairAlong, hpartner]
          rw [ih, join, map_values_update second _ fun c => h c first,
            map_values_update first _ fun c => h c second]

theorem mappedCount_congr {t : Session}
    (h : t.clients.values.map (·.isMapped) = s.clients.values.map (·.isMapped)) :
    t.mappedCount = s.mappedCount := by
  have hcount (u : Session) : u.mappedCount = (u.clients.values.map (·.isMapped)).countP id := by
    rw [List.countP_map]
    rfl
  rw [hcount, hcount, h]

theorem mappedCount_acknowledge (s : Session) (index : UInt8) :
    (s.acknowledge index).mappedCount = s.mappedCount :=
  mappedCount_congr (map_values_update index _ Client.isMapped_acknowledge)

theorem mappedCount_rotate (s : Session) (index : UInt8) :
    (s.rotate index).mappedCount = s.mappedCount :=
  mappedCount_congr (map_values_update index _ Client.isMapped_finish)

theorem mappedCount_pairIdle (s : Session) : s.pairIdle.1.mappedCount = s.mappedCount :=
  mappedCount_congr (map_values_pairAlong Client.isMapped_aimAt s.clients.keys)

theorem connectedTotal_acknowledge (s : Session) (index : UInt8) :
    (s.acknowledge index).connectedTotal = s.connectedTotal := by
  have hsizes : (s.acknowledge index).clients.values.map (fun c => c.connected.size) =
      s.clients.values.map fun c => c.connected.size :=
    map_values_update index Client.acknowledge fun _ => rfl
  rw [connectedTotal, hsizes, connectedTotal]

theorem connectedTotal_pairIdle (s : Session) :
    s.pairIdle.1.connectedTotal = s.connectedTotal := by
  have hsizes : s.pairIdle.1.clients.values.map (fun c => c.connected.size) =
      s.clients.values.map fun c => c.connected.size :=
    map_values_pairAlong (fun _ _ => rfl) s.clients.keys
  rw [connectedTotal, hsizes, connectedTotal]

/-! ### What a report adds -/

/-- The peer of an attempt is not among the connected peers yet, so it counts for one more. -/
theorem size_connected_finish {index : UInt8} {c : Client} (h : c.Coherent index) :
    c.finish.connected.size = c.connected.size + if c.isIdle then 0 else 1 := by
  by_cases hidle : c.isIdle
  · rw [Client.connected_finish_of_idle hidle, if_pos hidle, Nat.add_zero]
  · rw [Client.connected_finish_of_busy hidle, if_neg hidle]
    exact Table.size_insert_of_not_contains h.not_again ()

theorem connectedTotal_rotate (hcoherent : s.EachClient Client.Coherent) (index : UInt8) :
    (s.rotate index).connectedTotal =
      s.connectedTotal + if (s.client? index).any fun c => !c.isIdle then 1 else 0 := by
  simp only [connectedTotal, rotate, update]
  cases hc : s.client? index with
  | none =>
      rw [Table.modify_of_get?_eq_none hc]
      simp
  | some c =>
      have hsum := Table.sum_values_modify s.clients hc (·.finish) fun c => c.connected.size
      rw [size_connected_finish (hcoherent hc)] at hsum
      have hcount : (if (some c).any fun c => !c.isIdle then 1 else 0) =
          if c.isIdle then 0 else 1 := by
        by_cases hidle : c.isIdle
        · simp [hidle]
        · simp [hidle]
      rw [hcount]
      omega

/-! ### Packets without probes -/

section Probeless

variable {p : Packet}

theorem mappedCount_handle (h : p.header.command? ≠ some .initRequest) :
    (s.handle p).session.mappedCount = s.mappedCount := by
  rw [handle_eq]
  rcases hrequest : p.request with failure | (r | r | r | _)
  · rfl
  · exact absurd (Packet.request_eq_probe_iff.1 hrequest).1 h
  · show (s.acknowledge r.index).mappedCount = s.mappedCount
    exact mappedCount_acknowledge s r.index
  · show (s.rotate r.index).pairIdle.1.mappedCount = s.mappedCount
    rw [mappedCount_pairIdle, mappedCount_rotate]
  · rfl

theorem connectedTotal_handle (hcoherent : s.EachClient Client.Coherent)
    (h : p.header.command? ≠ some .initRequest) :
    (s.handle p).session.connectedTotal =
      s.connectedTotal + if s.endsAttempt p then 1 else 0 := by
  rw [handle_eq, endsAttempt]
  rcases hrequest : p.request with failure | (r | r | r | _)
  · rfl
  · exact absurd (Packet.request_eq_probe_iff.1 hrequest).1 h
  · show (s.acknowledge r.index).connectedTotal = s.connectedTotal
    exact connectedTotal_acknowledge s r.index
  · show (s.rotate r.index).pairIdle.1.connectedTotal =
      s.connectedTotal + if (s.client? r.index).any fun c => !c.isIdle then 1 else 0
    rw [connectedTotal_pairIdle, connectedTotal_rotate hcoherent]
  · rfl

end Probeless

theorem mappedCount_after {packets : List Packet}
    (h : ∀ p ∈ packets, p.header.command? ≠ some .initRequest) :
    (s.after packets).mappedCount = s.mappedCount := by
  induction packets generalizing s with
  | nil => rfl
  | cons p rest ih =>
      have hrest := ih (s := (s.handle p).session) fun q hq => h q (List.mem_cons_of_mem _ hq)
      exact hrest.trans (mappedCount_handle (h p List.mem_cons_self))

/-- The connected sets hold as much more as attempts were ended. -/
theorem connectedTotal_after {packets : List Packet} (haccounted : s.Accounted issued)
    (h : ∀ p ∈ packets, p.header.command? ≠ some .initRequest) :
    (s.after packets).connectedTotal = s.connectedTotal + s.attemptsEnded packets := by
  induction packets generalizing s issued with
  | nil => rfl
  | cons p rest ih =>
      have hstep := connectedTotal_handle haccounted.coherent (h p List.mem_cons_self)
      have hrest := ih (accounted_stable.handle p haccounted)
        fun q hq => h q (List.mem_cons_of_mem _ hq)
      have hafter : s.after (p :: rest) = (s.handle p).session.after rest := rfl
      rw [hafter, hrest, hstep, attemptsEnded]
      omega

/-! ### How much can be reported -/

/-- The indices of the clients that can ever be paired. -/
def mappedIndices (s : Session) : List UInt8 :=
  (s.clients.entries.filter (·.2.isMapped)).map (·.1)

theorem length_mappedIndices (s : Session) : s.mappedIndices.length = s.mappedCount := by
  rw [mappedIndices, List.length_map, ← List.countP_eq_length_filter, mappedCount, Table.values,
    List.countP_map]
  rfl

theorem mem_mappedIndices {index : UInt8} :
    index ∈ s.mappedIndices ↔ ∃ c, s.client? index = some c ∧ c.isMapped := by
  simp [mappedIndices, Table.mem_entries_iff, client?]

/-- A mapped client counts at most all other mapped clients. -/
theorem Accounted.size_connected_lt (h : s.Accounted issued) {index : UInt8} {c : Client}
    (hc : s.client? index = some c) (hmapped : c.isMapped) :
    c.connected.size < s.mappedCount := by
  have hcoherent := h.coherent hc
  -- The client and the peers that it counts are all different, and all of them are mapped.
  have hnodup : (index :: c.connected.keys).Nodup := by
    rw [List.nodup_cons, ← Table.contains_iff]
    exact ⟨hcoherent.not_self, Table.nodup_keys c.connected⟩
  have hsubset : index :: c.connected.keys ⊆ s.mappedIndices := by
    intro peer hpeer
    rw [mem_mappedIndices]
    rcases List.mem_cons.1 hpeer with rfl | hpeer
    · exact ⟨c, hc, hmapped⟩
    · have hconnected : c.hasConnectedTo peer := Table.contains_iff.2 hpeer
      have hne : index ≠ peer := by
        rintro rfl
        exact hcoherent.not_self hconnected
      exact h.isMapped hne.symm (h.hasMet_symm hne ⟨c, hc, .inr hconnected⟩)
  have hlength := (List.subperm_of_subset hnodup hsubset).length_le
  rw [length_mappedIndices, List.length_cons, Table.length_keys] at hlength
  exact hlength

/-- A client that is not mapped counts nobody. -/
theorem Accounted.size_connected_eq_zero (h : s.Accounted issued) {index : UInt8} {c : Client}
    (hc : s.client? index = some c) (hunmapped : ¬c.isMapped) : c.connected.size = 0 := by
  have hcoherent := h.coherent hc
  rw [← Table.length_keys, List.length_eq_zero_iff, List.eq_nil_iff_forall_not_mem]
  intro peer hpeer
  have hconnected : c.hasConnectedTo peer := Table.contains_iff.2 hpeer
  have hne : peer ≠ index := by
    rintro rfl
    exact hcoherent.not_self hconnected
  exact hunmapped (hcoherent.mapped hne (.inr hconnected))

theorem Accounted.connectedTotal_le (h : s.Accounted issued) :
    s.connectedTotal ≤ s.mappedCount * (s.mappedCount - 1) := by
  have hclient {c : Client} (hc : c ∈ s.clients.values) : ∃ index, s.client? index = some c := by
    obtain ⟨e, he, rfl⟩ := List.mem_map.1 hc
    exact ⟨e.1, Table.mem_entries_iff.1 he⟩
  refine Table.sum_map_le_countP_mul ?_ ?_
  · intro c hc hmapped
    obtain ⟨index, hindex⟩ := hclient hc
    exact Nat.le_sub_one_of_lt (h.size_connected_lt hindex hmapped)
  · intro c hc hunmapped
    obtain ⟨index, hindex⟩ := hclient hc
    exact h.size_connected_eq_zero hindex hunmapped

/-! ### The mesh -/

theorem accounted_after (cookie : UInt32) (version : UInt8) (packets : List Packet) :
    ∃ issued, ((fresh cookie version).after packets).Accounted issued := by
  rw [after_eq_run]
  exact ⟨_, accounted_run cookie version _⟩

/-- When two mapped clients are idle and not eligible, one has connected to the other; they have
met, so the other has connected as well. -/
theorem Accounted.connected_of_idle (h : s.Accounted issued) (hexhausted : s.Exhausted)
    {a b : UInt8} {ca cb : Client} (hab : a ≠ b) (ha : s.client? a = some ca)
    (hb : s.client? b = some cb) (hca : ca.isAvailable) (hcb : cb.isAvailable) :
    ca.hasConnectedTo b := by
  by_contra hnot
  have hba : cb.hasConnectedTo a := by
    by_contra hnot'
    exact hexhausted a b ⟨hab, ca, cb, ha, hb, hca, hcb, hnot, hnot'⟩
  obtain ⟨c, hc, hmet⟩ := h.hasMet_symm hab.symm ⟨cb, hb, .inr hba⟩
  obtain rfl := Option.some.inj (ha.symm.trans hc)
  rcases hmet with htarget | hconnected
  · exact target_ne_of_isAvailable h.indexed ha hca hab htarget
  · exact hnot hconnected

/-- Rotation completes the mesh and comes to an end. When no client is in the middle of an
attempt, every two mapped clients have connected, in both directions. And without new probes the
reports that end an attempt are bounded by the pairs of mapped clients not counted yet. -/
theorem rotation_completes_the_mesh (cookie : UInt32) (version : UInt8) (packets : List Packet) :
    let s := (fresh cookie version).after packets
    ((∀ index c, s.client? index = some c → c.target = c.index) →
        ∀ a b ca cb, a ≠ b → s.client? a = some ca → s.client? b = some cb →
          ca.isMapped → cb.isMapped → ca.hasConnectedTo b ∧ cb.hasConnectedTo a) ∧
      ∀ later : List Packet, (∀ p ∈ later, p.header.command? ≠ some .initRequest) →
        s.attemptsEnded later + s.connectedTotal ≤ s.mappedCount * (s.mappedCount - 1) := by
  intro s
  obtain ⟨issued, haccounted⟩ : ∃ issued, s.Accounted issued :=
    accounted_after cookie version packets
  have hexhausted : s.Exhausted := exhausted_after cookie version packets
  refine ⟨?_, ?_⟩
  · intro hidle a b ca cb hab ha hb hmappeda hmappedb
    have hca : ca.isAvailable :=
      Client.isAvailable_iff.2 ⟨Client.isIdle_iff.2 (hidle a ca ha), hmappeda⟩
    have hcb : cb.isAvailable :=
      Client.isAvailable_iff.2 ⟨Client.isIdle_iff.2 (hidle b cb hb), hmappedb⟩
    exact ⟨haccounted.connected_of_idle hexhausted hab ha hb hca hcb,
      haccounted.connected_of_idle hexhausted hab.symm hb ha hcb hca⟩
  · intro later hlater
    -- Reports add to the connected sets, whose bound no packet but a probe moves.
    obtain ⟨final, hfinal⟩ := accounted_after cookie version (packets ++ later)
    rw [after_append] at hfinal
    have hbound : (s.after later).connectedTotal ≤
        (s.after later).mappedCount * ((s.after later).mappedCount - 1) :=
      hfinal.connectedTotal_le
    rw [mappedCount_after hlater, connectedTotal_after haccounted hlater] at hbound
    omega

/-- Two clients that both reported, and before that two reports that are as many as can be. -/
theorem rotation_completes_the_mesh_of_two :
    let paired := (fresh 7 3).after [.probeOf 1, .probeOf 2]
    let reported := (fresh 7 3).after [.probeOf 1, .probeOf 2, .reportOf 1, .reportOf 2]
    (∃ ca cb, reported.client? 1 = some ca ∧ reported.client? 2 = some cb ∧
        ca.hasConnectedTo 2 ∧ cb.hasConnectedTo 1) ∧
      paired.attemptsEnded [.reportOf 1, .reportOf 2] = 2 ∧
      2 + paired.connectedTotal ≤ paired.mappedCount * (paired.mappedCount - 1) := by
  intro paired reported
  have hended : paired.attemptsEnded [.reportOf 1, .reportOf 2] = 2 := by decide
  refine ⟨⟨_, _, (Option.some_get (by decide)).symm, (Option.some_get (by decide)).symm, ?_⟩,
    hended, ?_⟩
  · have hidle : ∀ e ∈ reported.clients.entries, e.2.target = e.2.index := by decide
    exact (rotation_completes_the_mesh 7 3
        [.probeOf 1, .probeOf 2, .reportOf 1, .reportOf 2]).1
      (fun _ _ hc => hidle _ (Table.mem_entries_of_get? hc)) 1 2 _ _ (by decide)
      (Option.some_get _).symm (Option.some_get _).symm (by decide) (by decide)
  · rw [← hended]
    exact (rotation_completes_the_mesh 7 3 [.probeOf 1, .probeOf 2]).2
      [.reportOf 1, .reportOf 2] (by decide)

end Session

end Rendezvous
