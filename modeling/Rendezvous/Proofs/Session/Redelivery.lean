import Rendezvous.Proofs.Session.Mesh
import Rendezvous.Proofs.Session.Scan

/-!
Reports that come twice. A report names its client and not the peer of the attempt that it ends, so
it ends whatever attempt it finds. When the first copy leaves the client idle, the second finds
nothing to end and no connected set changes. When the scan after the first copy gives the client a
new peer, the second copy ends the new attempt and counts the new peer as connected, although
nobody has reported that. These are the only two cases.
-/
namespace Rendezvous.Session

variable {s : Session} {issued : List Edge} {p : Packet} {r : ReportRequest}

/-- The peers that a client counts as connected. -/
def connected? (s : Session) (index : UInt8) : Option IndexSet :=
  (s.client? index).map (·.connected)

theorem request_of_report (hp : p.header.command? = some .reportRequest) :
    p.request = (ReportRequest.decode p.payload).map .report := by
  simp only [Packet.request, hp]

/-! ### One report -/

theorem client?_handle_report (hindexed : s.Indexed) (hr : p.request = .ok (.report r))
    (index : UInt8) :
    (s.handle p).session.client? index =
      (s.client? index).map fun c =>
        retarget (s.handle p).edges index (if index = r.index then c.finish else c) := by
  have hprepare : s.prepare p = s.rotate r.index := by simp only [prepare, hr]
  rw [client?_handle hindexed, hprepare, client?_rotate, Option.map_map]
  rfl

/-- Only the client of a report counts a peer, and only the peer of its attempt. -/
theorem connected?_handle_report (hindexed : s.Indexed) (hr : p.request = .ok (.report r))
    (index : UInt8) :
    (s.handle p).session.connected? index =
      (s.client? index).map fun c => if index = r.index then c.finish.connected else c.connected := by
  rw [connected?, client?_handle_report hindexed hr, Option.map_map]
  congr 1
  funext c
  simp only [Function.comp_apply, connected_retarget]
  split
  · rfl
  · rfl

/-! ### The same report again -/

/-- What a client counts when the attempt is ended that the edges give it. -/
def countNewPeer (edges : List Edge) (index : UInt8) (set : IndexSet) : IndexSet :=
  match newPeer? edges index with
  | none => set
  | some peer => set.insertIndex peer

/-- The second copy finds the client of a report with the peer that the first copy gave it, or with
none. -/
theorem connected_finish_retarget {index : UInt8} {edges : List Edge} {c : Client}
    (hindex : c.index = index) (hends : ∀ e ∈ edges, e.first ≠ e.second) :
    (retarget edges index c.finish).finish.connected =
      countNewPeer edges index c.finish.connected := by
  unfold retarget countNewPeer
  cases hpeer : newPeer? edges index with
  | none =>
      refine Client.connected_finish_of_idle ?_
      rw [Client.isIdle_iff]
      rfl
  | some peer =>
      refine Client.connected_finish_of_busy ?_
      rw [Client.isIdle_iff]
      exact fun htarget => ne_of_newPeer? hends hpeer (htarget.trans hindex).symm

theorem connected?_handle_report_twice (h : s.Accounted issued)
    (hr : p.request = .ok (.report r)) (index : UInt8) :
    ((s.handle p).session.handle p).session.connected? index =
      ((s.handle p).session.connected? index).map fun set =>
        if index = r.index then countNewPeer (s.handle p).edges index set else set := by
  have hends : ∀ e ∈ (s.handle p).edges, e.first ≠ e.second := fun e he =>
    (accounted_stable.handle p h).ends_ne e (List.mem_append_right _ he)
  rw [connected?_handle_report (h.indexed.handle p) hr, connected?,
    client?_handle_report h.indexed hr]
  cases hc : s.client? index with
  | none => rfl
  | some c =>
      simp only [Option.map_some, Option.some.injEq, connected_retarget]
      split
      · exact connected_finish_retarget (h.indexed hc) hends
      · rfl

/-- The client that a report gives a new peer is registered, and does not count the peer yet. -/
theorem connected?_of_newPeer? (h : s.Accounted issued) (hr : p.request = .ok (.report r))
    {index peer : UInt8} (hpeer : newPeer? (s.handle p).edges index = some peer) :
    ∃ set, (s.handle p).session.connected? index = some set ∧ ¬set.contains peer := by
  have hafter := accounted_stable.handle p h
  obtain ⟨e, he, hends⟩ := mem_ends_of_newPeer? hpeer
  have hmem : e ∈ issued ++ (s.handle p).edges := List.mem_append_right _ he
  have hne : index ≠ peer :=
    ne_of_newPeer? (fun e he => hafter.ends_ne e (List.mem_append_right _ he)) hpeer
  obtain ⟨c, hc, -⟩ := (hafter.hasMet_iff hne).2 (List.mem_map.2 ⟨e, hmem, hends⟩)
  have hnot := (hafter.coherent hc).not_again
  have htarget : c.target = peer := by
    rw [client?_handle_report h.indexed hr] at hc
    obtain ⟨old, -, rfl⟩ := Option.map_eq_some_iff.1 hc
    simp [retarget, hpeer]
  refine ⟨c.connected, ?_, ?_⟩
  · rw [connected?, hc]
    rfl
  · rw [htarget] at hnot
    exact hnot

/-- A report that comes twice changes no connected set the second time, exactly when the first copy
gives its client no new peer. Otherwise the second copy counts that peer as connected, and changes
nothing else. -/
theorem second_report_is_harmless_iff (cookie : UInt32) (version : UInt8) (packets : List Packet)
    {p : Packet} (hp : p.header.command? = some .reportRequest) :
    let first := ((fresh cookie version).after packets).handle p
    let second := first.session.handle p
    ((∀ index, second.session.connected? index = first.session.connected? index) ↔
        ∀ r, ReportRequest.decode p.payload = .ok r → ∀ e ∈ first.edges, r.index ∉ e.ends) ∧
      ∀ r, ReportRequest.decode p.payload = .ok r → ∀ index,
        second.session.connected? index =
          (first.session.connected? index).map fun set =>
            if index = r.index then countNewPeer first.edges index set else set := by
  intro first second
  obtain ⟨issued, haccounted⟩ := accounted_after cookie version packets
  have hrequest {r} (hr : ReportRequest.decode p.payload = .ok r) :
      p.request = .ok (.report r) := by
    rw [request_of_report hp, hr]
    rfl
  have htwice {r} (hr : ReportRequest.decode p.payload = .ok r) (index : UInt8) :
      second.session.connected? index =
        (first.session.connected? index).map fun set =>
          if index = r.index then countNewPeer first.edges index set else set :=
    connected?_handle_report_twice haccounted (hrequest hr) index
  refine ⟨⟨?_, ?_⟩, fun r hr => htwice hr⟩
  · intro hsame r hr
    rw [← newPeer?_eq_none_iff]
    by_contra hnone
    obtain ⟨peer, hpeer⟩ := Option.ne_none_iff_exists'.1 hnone
    obtain ⟨set, hset, hnot⟩ := connected?_of_newPeer? haccounted (hrequest hr) hpeer
    have hcount := hsame r.index
    rw [htwice hr, hset, Option.map_some, if_pos rfl, Option.some.injEq, countNewPeer,
      hpeer] at hcount
    exact IndexSet.insertIndex_ne hnot hcount
  · intro hnone index
    cases hr : ReportRequest.decode p.payload with
    | error failure =>
        have hrefused : second = first.session.refuse failure := by
          show first.session.handle p = _
          rw [handle_eq, request_of_report hp, hr]
          rfl
        rw [hrefused]
        rfl
    | ok r =>
        have hpeer := newPeer?_eq_none_iff.2 (hnone r hr)
        rw [htwice hr]
        cases first.session.connected? index with
        | none => rfl
        | some set =>
            rw [Option.map_some, Option.some.injEq]
            split
            · next hindex => rw [countNewPeer, hindex, hpeer]
            · rfl

/-- With three clients, the first copy of a report pairs its client anew, and the second copy counts
the new peer. -/
theorem second_report_counts_an_unreported_peer :
    let s := (fresh 7 3).after [.probeOf 1, .probeOf 2, .probeOf 3]
    let first := s.handle (.reportOf 1)
    let second := first.session.handle (.reportOf 1)
    (Packet.reportOf 1).header.command? = some .reportRequest ∧
      (first.session.connected? 1).map Table.keys = some [2] ∧
      (second.session.connected? 1).map Table.keys = some [2, 3] := by
  decide

/-- With two clients, the first copy leaves its client without a peer, and the second copy changes
nothing. -/
theorem second_report_is_harmless_of_two :
    let first := ((fresh 7 3).after [.probeOf 1, .probeOf 2]).handle (.reportOf 1)
    let second := first.session.handle (.reportOf 1)
    ∀ index, second.session.connected? index = first.session.connected? index := by
  have hp : (Packet.reportOf 1).header.command? = some .reportRequest := by decide
  refine (second_report_is_harmless_iff 7 3 [.probeOf 1, .probeOf 2] hp).1.2 ?_
  intro r _ e he
  have hnone : (((fresh 7 3).after [.probeOf 1, .probeOf 2]).handle (.reportOf 1)).edges = [] := by
    decide
  rw [hnone] at he
  cases he

end Rendezvous.Session
