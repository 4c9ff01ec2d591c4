import Rendezvous.Proofs.Session.Members

/-!
What clients are told when their session expires. A client in the middle of an attempt is mapped,
so it is known where its signalling goes: there is one cancellation for each such client, in
ascending order of their indices, and none for anybody else.
-/
namespace Rendezvous.Session

variable {s : Session} {issued : List Edge}

/-- The datagram tells the client of an index to give up its attempt. -/
def CallsOff (s : Session) (index : UInt8) (d : Datagram) : Prop :=
  Header.decode d.contents =
    .ok (.forCommand s.version .reportReply s.cookie, [0, index, 0, 0, 0, 0, 6, 0, 0])

theorem callsOff_cancellation {index : UInt8} {d : Datagram}
    (h : d.contents = ReportReply.cancellation s.version s.cookie index) : s.CallsOff index d := by
  rw [CallsOff, h, ReportReply.cancellation, Header.decode_encode_append rfl]

/-- A datagram names one client. -/
theorem CallsOff.unique {first second : UInt8} {d : Datagram} (h : s.CallsOff first d)
    (h' : s.CallsOff second d) : first = second := by
  have hboth := h.symm.trans h'
  simp only [Except.ok.injEq, Prod.mk.injEq, List.cons.injEq] at hboth
  exact hboth.2.2.1

/-- The clients that are in the middle of an attempt, with their indices. -/
def busyClients (s : Session) : List (UInt8 × Client) :=
  s.clients.entries.filter fun e => !e.2.isIdle

theorem mem_busyClients {index : UInt8} {c : Client} :
    (index, c) ∈ s.busyClients ↔ s.client? index = some c ∧ ¬c.isIdle := by
  simp [busyClients, Table.mem_entries_iff, client?]

theorem busyClients_ascending (s : Session) : (s.busyClients.map (·.1)).Pairwise (· < ·) :=
  List.pairwise_map.2 (s.clients.ascending.filter _)

/-- What a client in the middle of an attempt is told goes where its signalling goes. -/
theorem cancellation?_of_mapped {c : Client} (hbusy : ¬c.isIdle) (hmapped : c.isMapped) :
    ∃ d log, s.cancellation? c = some (d, log) ∧ c.negotiateAddress = some d.destination ∧
      s.CallsOff c.index d := by
  have hsome : c.negotiateAddress.isSome := by
    rw [Client.isMapped, Bool.and_eq_true] at hmapped
    exact hmapped.1
  obtain ⟨address, haddress⟩ := Option.isSome_iff_exists.1 hsome
  refine ⟨⟨address, ReportReply.cancellation s.version s.cookie c.index⟩,
    .disconnecting s.cookie address c.index, ?_, haddress, callsOff_cancellation rfl⟩
  simp [cancellation?, hbusy, Client.signallingAddress, haddress]

theorem forall₂_cancellations {entries : List (UInt8 × Client)}
    (hindex : ∀ e ∈ entries, e.2.index = e.1)
    (hmapped : ∀ e ∈ entries, ¬e.2.isIdle → e.2.isMapped) :
    List.Forall₂ (fun e d => e.2.negotiateAddress = some d.destination ∧ s.CallsOff e.1 d)
      (entries.filter fun e => !e.2.isIdle)
      (((entries.map (·.2)).filterMap s.cancellation?).map (·.1)) := by
  induction entries with
  | nil => exact .nil
  | cons e rest ih =>
      have htail := ih (fun e he => hindex e (List.mem_cons_of_mem _ he))
        fun e he => hmapped e (List.mem_cons_of_mem _ he)
      rw [List.map_cons]
      by_cases hidle : e.2.isIdle
      · have hnone : s.cancellation? e.2 = none := by
          rw [cancellation?, if_pos hidle]
        rw [List.filter_cons_of_neg (by simp [hidle]), List.filterMap_cons_none hnone]
        exact htail
      · obtain ⟨d, log, hsome, hdestination, hcalls⟩ :=
          cancellation?_of_mapped (s := s) hidle (hmapped e List.mem_cons_self hidle)
        rw [hindex e List.mem_cons_self] at hcalls
        rw [List.filter_cons_of_pos (by simp [hidle]), List.filterMap_cons_some hsome,
          List.map_cons]
        exact .cons ⟨hdestination, hcalls⟩ htail

/-- One cancellation for each client in the middle of an attempt, in their order. -/
theorem Accounted.forall₂_cancellations (h : s.Accounted issued) :
    List.Forall₂ (fun e d => e.2.negotiateAddress = some d.destination ∧ s.CallsOff e.1 d)
      s.busyClients s.cancellations.1 := by
  have hclient {e} (he : e ∈ s.clients.entries) : s.client? e.1 = some e.2 :=
    Table.get?_of_mem_entries he
  rw [cancellations, List.unzip_fst]
  exact Session.forall₂_cancellations (fun e he => h.indexed (hclient he))
    fun e he hbusy => (h.of_busy (hclient he) hbusy).1

/-- A cancellation names a client exactly when the client is in the middle of an attempt. -/
theorem Accounted.calledOff_iff (h : s.Accounted issued) {index : UInt8} :
    (∃ d ∈ s.cancellations.1, s.CallsOff index d) ↔
      ∃ c, s.client? index = some c ∧ ¬c.isIdle := by
  rw [cancellations, List.unzip_fst]
  constructor
  · rintro ⟨d, hd, hcalls⟩
    obtain ⟨⟨d, log⟩, hmem, rfl⟩ := List.mem_map.1 hd
    obtain ⟨c, hvalue, hsome⟩ := List.mem_filterMap.1 hmem
    obtain ⟨e, he, rfl⟩ := List.mem_map.1 hvalue
    have hc : s.client? e.1 = some e.2 := Table.get?_of_mem_entries he
    have hbusy : ¬e.2.isIdle := by
      intro hidle
      rw [cancellation?, if_pos hidle] at hsome
      cases hsome
    obtain ⟨d', log', hsome', -, hown⟩ :=
      cancellation?_of_mapped (s := s) hbusy (h.of_busy hc hbusy).1
    obtain ⟨rfl, rfl⟩ := Prod.mk.inj (Option.some.inj (hsome.symm.trans hsome'))
    rw [h.indexed hc] at hown
    obtain rfl := hcalls.unique hown
    exact ⟨e.2, hc, hbusy⟩
  · rintro ⟨c, hc, hbusy⟩
    obtain ⟨d, log, hsome, -, hcalls⟩ :=
      cancellation?_of_mapped (s := s) hbusy (h.of_busy hc hbusy).1
    rw [h.indexed hc] at hcalls
    have hvalue : c ∈ s.clients.values := List.mem_map.2 ⟨_, Table.mem_entries_of_get? hc, rfl⟩
    have hmem := List.mem_filterMap.2 ⟨c, hvalue, hsome⟩
    exact ⟨d, List.mem_map.2 ⟨(d, log), hmem, rfl⟩, hcalls⟩

end Rendezvous.Session
