import Rendezvous.Proofs.Session.Frame
import Rendezvous.Proofs.Session.Replies

/-!
Probes and acknowledgements that come twice. What a probe or an acknowledgement asks for is done by
the first copy: the client is registered, its addresses are known, its attempt is acknowledged. So
the second copy finds what it would make. It may still cause a scan, as the first copy did; but the
first copy has left no pair behind, and so the second makes none. All that it does is to be answered
again.
-/
namespace Rendezvous

/-! ### Doing it again -/

namespace Client

variable (c : Client) (r : InitRequest) (source : SocketAddress)

/-- A probe teaches nothing the second time. -/
theorem learn_learn : (c.learn r source).learn r source = c.learn r source := by
  simp only [learn]
  congr 1
  · split
    · rfl
    · rfl
  · split
    · rfl
    · rfl
  · split
    · rfl
    · rfl

theorem learn_aimAt (peer : UInt8) :
    (c.aimAt peer).learn r source = (c.learn r source).aimAt peer := rfl

theorem acknowledge_acknowledge : c.acknowledge.acknowledge = c.acknowledge := rfl

end Client

namespace Session

variable {s t : Session} {p : Packet} {r : InitRequest}

theorem learn_retarget (edges : List Edge) (index : UInt8) (c : Client) (r : InitRequest)
    (source : SocketAddress) :
    (retarget edges index c).learn r source = retarget edges index (c.learn r source) := by
  unfold retarget
  split
  · rfl
  · exact c.learn_aimAt r source _

/-- A session is its cookie, its version, its game and its clients. -/
theorem ext_client? (hcookie : s.cookie = t.cookie) (hversion : s.version = t.version)
    (hgame : s.gameName = t.gameName) (hclients : ∀ index, s.client? index = t.client? index) :
    s = t := by
  obtain ⟨cookie, version, gameName, clients⟩ := s
  obtain ⟨cookie', version', gameName', clients'⟩ := t
  obtain rfl : clients = clients' := Table.ext_get? hclients
  obtain rfl : cookie = cookie' := hcookie
  obtain rfl : version = version' := hversion
  obtain rfl : gameName = gameName' := hgame
  rfl

theorem acknowledge_acknowledge (s : Session) (index : UInt8) :
    (s.acknowledge index).acknowledge index = s.acknowledge index := by
  refine ext_client? rfl rfl rfl fun other => ?_
  simp only [client?_acknowledge, Option.map_map]
  congr 1
  funext c
  by_cases hother : other = index
  · simp [hother, Client.acknowledge_acknowledge]
  · simp [hother]

/-- A probe whose client has learned from it already. -/
structure Knows (s : Session) (r : InitRequest) (source : SocketAddress) : Prop where
  game : s.gameName.isSome
  learned : ∃ c, s.client? r.index = some c ∧ c.learn r source = c

namespace Knows

variable {source : SocketAddress}

theorem register_eq (h : s.Knows r source) : s.register r source = s := by
  obtain ⟨c, hc, hlearned⟩ := h.learned
  obtain ⟨name, hname⟩ := Option.isSome_iff_exists.1 h.game
  refine ext_client? rfl rfl ?_ fun index => ?_
  · rw [register, hname]
    rfl
  · rw [client?_register, prober, hc, Option.getD_some, hlearned]
    split
    · next hindex => rw [← hindex, hc]
    · rfl

/-- A probe that brings nothing new is accepted, and makes no edge when there is none to make. -/
theorem handleInit_eq (h : s.Knows r source) (hindexed : s.Indexed) (hexhausted : s.Exhausted) :
    (s.handleInit r source).session = s ∧ (s.handleInit r source).result = .ok [] := by
  obtain ⟨c, hc, -⟩ := h.learned
  have hgame : s.checkGame r = .ok () := checkGame_of_registered hc
  have hpair : s.pairAfter r.index = (s, []) := by
    unfold pairAfter
    split
    · exact (pairIdle_eq_self_iff hindexed).2 hexhausted
    · rfl
  simp [handleInit, hgame, h.register_eq, hpair]

end Knows

/-- Whoever has sent an accepted probe is known from then on. -/
theorem knows_handle (hindexed : s.Indexed) (hr : p.request = .ok (.probe r))
    (hgame : s.checkGame r = .ok ()) : (s.handle p).session.Knows r p.source := by
  have hprepare : s.prepare p = s.register r p.source := by simp only [prepare, hr, hgame]
  constructor
  · rw [gameName_handle, hprepare, register]
    simp
  · -- The scan may aim the client at a peer, which takes nothing from what it has learned.
    refine ⟨retarget (s.handle p).edges r.index ((s.prober r).learn r p.source), ?_, ?_⟩
    · rw [client?_handle hindexed, hprepare, client?_register, if_pos rfl]
      rfl
    · rw [learn_retarget, Client.learn_learn]

/-! ### The second copy -/

/-- What the second copy of a packet does after the first. -/
structure Repeats (first second : Reaction) : Prop where
  session : second.session = first.session
  replies : second.replies = first.replies
  result : (∃ failure, first.result = .error failure ∧ second.result = .error failure) ∨
    (∃ edges, first.result = .ok edges) ∧ second.result = .ok []

/-- A packet that fails leaves the session as it was, and so it fails again. -/
theorem Repeats.of_error {failure : Failure} (h : (s.handle p).result = .error failure) :
    Repeats (s.handle p) ((s.handle p).session.handle p) := by
  rw [session_handle_of_error h]
  exact ⟨rfl, rfl, .inl ⟨failure, h, h⟩⟩

theorem Repeats.of_unreadable {failure : Failure} (h : p.request = .error failure) :
    Repeats (s.handle p) ((s.handle p).session.handle p) := by
  have herror : (s.handle p).result = .error failure := by
    rw [handle_eq, h]
    rfl
  exact of_error herror

theorem Repeats.of_probe (hindexed : s.Indexed) (hexhausted : s.Exhausted)
    (hr : p.request = .ok (.probe r)) : Repeats (s.handle p) ((s.handle p).session.handle p) := by
  have hhandle (t : Session) : t.handle p = t.handleInit r p.source := by
    rw [handle_eq, hr]
  cases hgame : s.checkGame r with
  | error failure =>
    have herror : (s.handle p).result = .error failure := by
      rw [hhandle]
      simp [handleInit, hgame]
    exact of_error herror
  | ok _ =>
    have hknows := knows_handle hindexed hr hgame
    obtain ⟨hsession, hresult⟩ := hknows.handleInit_eq (hindexed.handle p)
      (hexhausted.handle hindexed p)
    refine ⟨?_, ?_, .inr ⟨⟨((s.register r p.source).pairAfter r.index).2, ?_⟩, ?_⟩⟩
    · rw [hhandle (s.handle p).session, hsession]
    · rw [hhandle (s.handle p).session, replies_handleInit, version_handle, cookie_handle, hhandle,
        replies_handleInit]
    · rw [hhandle]
      simp [handleInit, hgame]
    · rw [hhandle (s.handle p).session, hresult]

theorem Repeats.of_reply {r : ConnectReply} (hr : p.request = .ok (.reply r)) :
    Repeats (s.handle p) ((s.handle p).session.handle p) := by
  have hhandle (t : Session) : t.handle p = (t.acknowledge r.index).ignore [] := by
    rw [handle_eq, hr]
  rw [hhandle (s.handle p).session, hhandle s]
  exact ⟨acknowledge_acknowledge s r.index, rfl, .inr ⟨⟨[], rfl⟩, rfl⟩⟩

/-- After any packets, a probe or an acknowledgement that comes twice has done all by its first
copy. The second leaves the session as it is, to the last field, and is answered like the first; it
fails as the first did, or makes no edge. -/
theorem second_copy_is_harmless (cookie : UInt32) (version : UInt8) (packets : List Packet)
    {p : Packet}
    (hp : p.header.command? = some .initRequest ∨ p.header.command? = some .connectReply) :
    let first := ((fresh cookie version).after packets).handle p
    let second := first.session.handle p
    second.session = first.session ∧ second.replies = first.replies ∧
      ((∃ failure, first.result = .error failure ∧ second.result = .error failure) ∨
        (∃ edges, first.result = .ok edges) ∧ second.result = .ok []) := by
  intro first second
  have hindexed := indexed_after cookie version packets
  have hexhausted := exhausted_after cookie version packets
  have hrepeats : Repeats first second := by
    rcases hp with hprobe | hreply
    · have hrequest : p.request = (InitRequest.decode p.payload).map .probe := by
        simp only [Packet.request, hprobe]
      cases hdecode : InitRequest.decode p.payload with
      | error failure => exact .of_unreadable (by rw [hrequest, hdecode, Except.map])
      | ok r => exact .of_probe hindexed hexhausted (by rw [hrequest, hdecode, Except.map])
    · have hrequest : p.request = (ConnectReply.decode p.payload).map .reply := by
        simp only [Packet.request, hreply]
      cases hdecode : ConnectReply.decode p.payload with
      | error failure => exact .of_unreadable (by rw [hrequest, hdecode, Except.map])
      | ok r => exact .of_reply (by rw [hrequest, hdecode, Except.map])
  exact ⟨hrepeats.session, hrepeats.replies, hrepeats.result⟩

/-- The first copy of a probe registers its client and gives it a partner; the second is answered
and no more. A stranger who plays another game is answered and refused both times. -/
theorem second_copy_is_harmless_of_two :
    let s := (fresh 7 3).after [.probeFor 103 .probe1 1 10, .probeFor 103 .gamePort 1 10,
      .probeFor 103 .probe1 2 20]
    let first := s.handle (.probeFor 103 .gamePort 2 20)
    let second := first.session.handle (.probeFor 103 .gamePort 2 20)
    let refused := s.handle (.probeFor 104 .probe1 3 30)
    let refusedAgain := refused.session.handle (.probeFor 104 .probe1 3 30)
    (Packet.probeFor 103 .gamePort 2 20).header.command? = some .initRequest ∧
      first.result = .ok [⟨1, 2⟩] ∧ second.session = first.session ∧ second.result = .ok [] ∧
      second.replies = first.replies ∧
      refusedAgain.result = .error (.gameNameMismatch "g" "h") ∧
      refusedAgain.replies = refused.replies ∧ refused.replies.length = 1 := by
  intro s first second refused refusedAgain
  have hfirst : first.result = .ok [⟨1, 2⟩] := rfl
  have hrefused : refused.result = .error (.gameNameMismatch "g" "h") := rfl
  obtain ⟨hsession, hreplies, hresult⟩ := second_copy_is_harmless 7 3
    [.probeFor 103 .probe1 1 10, .probeFor 103 .gamePort 1 10, .probeFor 103 .probe1 2 20]
    (p := .probeFor 103 .gamePort 2 20) (.inl rfl)
  obtain ⟨-, hsame, hagain⟩ := second_copy_is_harmless 7 3
    [.probeFor 103 .probe1 1 10, .probeFor 103 .gamePort 1 10, .probeFor 103 .probe1 2 20]
    (p := .probeFor 104 .probe1 3 30) (.inl rfl)
  refine ⟨rfl, hfirst, hsession, ?_, hreplies, ?_, hsame, rfl⟩
  · rcases hresult with ⟨failure, herror, -⟩ | ⟨-, hok⟩
    · cases hfirst.symm.trans herror
    · exact hok
  · rcases hagain with ⟨failure, herror, hfails⟩ | ⟨⟨edges, hok⟩, -⟩
    · rw [hrefused] at herror
      obtain rfl := Except.error.inj herror
      exact hfails
    · cases hrefused.symm.trans hok

end Session

end Rendezvous
