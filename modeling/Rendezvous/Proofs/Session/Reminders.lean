import Rendezvous.Proofs.Packet.Connect
import Rendezvous.Proofs.Session.Matching
import Rendezvous.Proofs.Session.Settled

/-!
What a retry sends. An edge is pending for its two ends separately: each end that aims at the other
and has not acknowledged is told the address of the other as it is now, and nobody is told anything
else. Addresses that a Connect-Request cannot carry are the only reason to leave an end out, since
whoever is joined by an edge is mapped for good. At first both ends are waiting.
-/
namespace Rendezvous

namespace Session

variable {s : Session} {issued : List Edge} {a b : UInt8} {e : Edge}

/-! ### The two halves of a retry -/

/-- Bytes that are read as a Connect-Request of the session, for this endpoint. -/
def PointsTo (s : Session) (contents : Wire.Bytes) (endpoint : Endpoint) : Prop :=
  ∃ header payload, Header.decode contents = .ok (header, payload) ∧
    header.command? = some .connectRequest ∧ header.version = s.version ∧
    header.cookie = s.cookie ∧ ConnectRequest.decode payload = .ok ⟨endpoint⟩

/-- What a retry sends to a client for the sake of its peer. -/
inductive Reminds (s : Session) (receiver peer : UInt8) : List Datagram → Prop
  | told {c d : Client} {address : SocketAddress} {endpoint : Endpoint} {datagram : Datagram}
    (hwaits : s.Awaits receiver peer) (hc : s.client? receiver = some c)
    (hd : s.client? peer = some d) (haddress : d.serverAddress = some address)
    (hform : address.HasIpv4Form endpoint)
    (hdestination : c.negotiateAddress = some datagram.destination)
    (hcontents : s.PointsTo datagram.contents endpoint) : Reminds s receiver peer [datagram]
  | spared (hwaits : ¬s.Awaits receiver peer) : Reminds s receiver peer []
  | notCarried {d : Client} {address : SocketAddress} (hd : s.client? peer = some d)
    (haddress : d.serverAddress = some address)
    (hform : ∀ endpoint, ¬address.HasIpv4Form endpoint) : Reminds s receiver peer []

theorem pointsTo_encode (s : Session) (endpoint : Endpoint) :
    s.PointsTo ((ConnectRequest.mk endpoint).encode s.version s.cookie) endpoint := by
  obtain ⟨payload, hheader, hpayload⟩ :=
    ConnectRequest.decode_encode_append ⟨endpoint⟩ s.version s.cookie []
  rw [List.append_nil] at hheader
  exact ⟨_, payload, hheader, by simp, rfl, rfl, hpayload⟩

theorem reminds_connectRequest {c d : Client} (hwaits : s.Awaits a b) (hc : s.client? a = some c)
    (hd : s.client? b = some d) (hcMapped : c.isMapped) (hdMapped : d.isMapped) :
    s.Reminds a b (s.connectRequest d c).1 := by
  -- Both addresses are known, so only the form of the peer's can keep the datagram back.
  simp only [Client.isMapped, Bool.and_eq_true, Option.isSome_iff_exists] at hcMapped hdMapped
  obtain ⟨⟨destination, hdestination⟩, -⟩ := hcMapped
  obtain ⟨-, address, haddress⟩ := hdMapped
  rw [connectRequest, hdestination, haddress]
  dsimp only
  cases hrequest : ConnectRequest.forPeer address with
  | error failure =>
    refine .notCarried hd haddress fun endpoint hform => ?_
    have hok : ConnectRequest.forPeer address = .ok ⟨endpoint⟩ :=
      ConnectRequest.forPeer_eq_ok_iff.2 hform
    rw [hok] at hrequest
    cases hrequest
  | ok request =>
    exact .told hwaits hc hd haddress (ConnectRequest.forPeer_eq_ok_iff.1 hrequest) hdestination
      (s.pointsTo_encode request.peer)

theorem reminds_reminder (hindexed : s.Indexed) {c d : Client} (hc : s.client? a = some c)
    (hd : s.client? b = some d) (hcMapped : c.isMapped) (hdMapped : d.isMapped) :
    s.Reminds a b (s.reminder d c).1 := by
  have hwaits := awaits_iff_waitsFor hindexed hc hd
  unfold reminder
  split
  · next h => exact reminds_connectRequest (hwaits.2 h) hc hd hcMapped hdMapped
  · next h => exact .spared fun hawaits => h (hwaits.1 hawaits)

/-- A retry of an edge that was issued, in any later state. -/
theorem Accounted.retryStep_eq (h : s.Accounted issued) (he : e ∈ issued) :
    (¬(s.Awaits e.second e.first ∨ s.Awaits e.first e.second) →
        (s.retryStep e).1 = .settled) ∧
      (s.Awaits e.second e.first ∨ s.Awaits e.first e.second →
        ∃ forSecond forFirst, (s.retryStep e).1 = .pending (forSecond ++ forFirst) ∧
          s.Reminds e.second e.first forSecond ∧ s.Reminds e.first e.second forFirst) := by
  obtain ⟨first, second, hfirst, hsecond, hfirstMapped, hsecondMapped⟩ := h.exists_ends he
  rw [awaits_iff_waitsFor h.indexed hfirst hsecond, awaits_iff_waitsFor h.indexed hsecond hfirst,
    ← Bool.or_eq_true, retryStep, hfirst, hsecond]
  dsimp only
  refine ⟨fun hnone => ?_, fun hwaits => ⟨(s.reminder first second).1, (s.reminder second first).1,
    ?_, reminds_reminder h.indexed hsecond hfirst hsecondMapped hfirstMapped,
    reminds_reminder h.indexed hfirst hsecond hfirstMapped hsecondMapped⟩⟩
  · rw [if_neg hnone]
  · rw [if_pos hwaits]

/-! ### New edges -/

theorem awaits_of_mem_pairIdle (hindexed : s.Indexed) (he : e ∈ s.pairIdle.2) :
    s.pairIdle.1.Awaits e.first e.second ∧ s.pairIdle.1.Awaits e.second e.first := by
  obtain ⟨c, d, -, -, hfirst, hsecond⟩ := client?_ends_of_mem_pairIdle hindexed he
  exact ⟨⟨_, hfirst, rfl, by simp [Client.aimAt]⟩, ⟨_, hsecond, rfl, by simp [Client.aimAt]⟩⟩

/-- Right after it has come into being, an edge is pending for both of its ends. -/
theorem awaits_of_mem_perform (hindexed : s.Indexed) {operation : Operation}
    (he : e ∈ (s.perform operation).2) :
    (s.perform operation).1.Awaits e.first e.second ∧
      (s.perform operation).1.Awaits e.second e.first := by
  cases operation with
  | packet p =>
    simp only [perform] at he ⊢
    rcases handle_eq_prepare s p with ⟨-, hedges⟩ | ⟨hsession, hedges⟩
    · rw [hedges] at he
      cases he
    · rw [hedges] at he
      rw [hsession]
      exact awaits_of_mem_pairIdle (hindexed.prepare p) he
  | pair => exact awaits_of_mem_pairIdle hindexed he
  | rotate index => cases he

/-- In every state of a run, the retry of an edge that was issued before has something to send
exactly when one of its ends waits for the other. It then reminds the second end, if that one waits,
and after it the first, if that one waits; each of the present address of the other, if a packet can
carry it. In the state that an operation leads to, both ends of every edge that it has issued wait.
-/
theorem retry_reminds_the_ends_that_wait (cookie : UInt32) (version : UInt8)
    (operations : List Operation) :
    let run := (fresh cookie version).run operations
    let s := run.session
    s.cookie = cookie ∧ s.version = version ∧
      (∀ e ∈ run.issued,
        (¬(s.Awaits e.second e.first ∨ s.Awaits e.first e.second) →
            (s.retryStep e).1 = .settled) ∧
          (s.Awaits e.second e.first ∨ s.Awaits e.first e.second →
            ∃ forSecond forFirst, (s.retryStep e).1 = .pending (forSecond ++ forFirst) ∧
              s.Reminds e.second e.first forSecond ∧ s.Reminds e.first e.second forFirst)) ∧
      ∀ operation, ∀ e ∈ (s.perform operation).2,
        (s.perform operation).1.Awaits e.first e.second ∧
          (s.perform operation).1.Awaits e.second e.first := by
  intro run s
  have haccounted : s.Accounted run.issued := accounted_run cookie version operations
  have hidentity : s.cookie = cookie ∧ s.version = version :=
    (identity_stable cookie version).run ⟨rfl, rfl⟩ operations
  exact ⟨hidentity.1, hidentity.2, fun e he => haccounted.retryStep_eq he,
    fun operation e he => awaits_of_mem_perform haccounted.indexed he⟩

/-- Of two clients the second, which probes from an IPv4 address in IPv6 clothes, has acknowledged.
So the first alone is reminded, and of that address without its clothes. -/
theorem retry_reminds_the_ends_that_wait_of_two :
    let probe : Packet := { Packet.probeOf 2 with source := .v6 (.mapped ⟨192, 0, 2, 2⟩) 27900 5 }
    let operations := [Packet.probeOf 1, probe, .replyOf 2].map Operation.packet
    let run := (fresh 7 3).run operations
    ⟨1, 2⟩ ∈ run.issued ∧ run.session.Awaits 1 2 ∧
      (∃ datagram, (run.session.retryStep ⟨1, 2⟩).1 = .pending [datagram] ∧
        run.session.PointsTo datagram.contents ⟨⟨192, 0, 2, 2⟩, 27900⟩) ∧
      ((fresh 7 3).run (operations.take 1)).session.perform (.packet probe) =
        (((fresh 7 3).run (operations.take 2)).session, [⟨1, 2⟩]) ∧
      ((fresh 7 3).run (operations.take 2)).session.Awaits 2 1 := by
  intro probe operations run
  have hissued : ⟨1, 2⟩ ∈ run.issued := by decide
  have hfirst : run.session.Awaits 1 2 := by
    unfold Awaits
    decide
  have hsecond : ¬run.session.Awaits 2 1 := by
    unfold Awaits
    decide
  have haddress : (run.session.client? 2).bind (·.serverAddress) = some probe.source := by decide
  have hendpoint : probe.source.endpoint? = some ⟨⟨192, 0, 2, 2⟩, 27900⟩ := by decide
  have hperform : ((fresh 7 3).run (operations.take 1)).session.perform (.packet probe) =
      (((fresh 7 3).run (operations.take 2)).session, [⟨1, 2⟩]) := by decide
  obtain ⟨-, -, hretries, -⟩ := retry_reminds_the_ends_that_wait 7 3 operations
  obtain ⟨forSecond, forFirst, hpending, hforSecond, hforFirst⟩ :=
    (hretries _ hissued).2 (.inr hfirst)
  obtain ⟨-, -, -, hnew⟩ := retry_reminds_the_ends_that_wait 7 3 (operations.take 1)
  have hboth := hnew (.packet probe) ⟨1, 2⟩ (by rw [hperform]; exact List.mem_cons_self)
  rw [hperform] at hboth
  refine ⟨hissued, hfirst, ?_, hperform, hboth.2⟩
  have hnothing : forSecond = [] := by
    cases hforSecond with
    | told hwaits => exact absurd hwaits hsecond
    | spared _ => rfl
    | notCarried _ _ _ => rfl
  subst hnothing
  cases hforFirst with
  | told hwaits hc hd hpeer hform hdestination hcontents =>
    rw [hd, Option.bind_some, hpeer] at haddress
    obtain rfl := Option.some.inj haddress
    rw [SocketAddress.endpoint?_eq_some_iff.2 hform] at hendpoint
    obtain rfl := Option.some.inj hendpoint
    exact ⟨_, hpending, hcontents⟩
  | spared hwaits => exact absurd hfirst hwaits
  | notCarried hd hpeer hform =>
    rw [hd, Option.bind_some, hpeer] at haddress
    obtain rfl := Option.some.inj haddress
    exact absurd (SocketAddress.endpoint?_eq_some_iff.1 hendpoint) (hform _)

end Session

end Rendezvous
