import Rendezvous.Proofs.Session.Matching
import Rendezvous.Proofs.Session.Probes

/-!
What a packet leaves alone. A packet names at most one client and changes that one by what it asks;
a scan may follow, which aims the ends of its edges and does nothing else to them. So one equation
describes every registered client after a packet: first what the packet itself makes of it, and then
what its new edge does. Everything that stays the same is read off this equation, request by
request.
-/
namespace Rendezvous

/-! ### What a packet makes of one client -/

namespace Packet

/-- The client that a packet names. -/
def named? (p : Packet) : Option UInt8 :=
  match p.request with
  | .ok (.probe r) => some r.index
  | .ok (.reply r) => some r.index
  | .ok (.report r) => some r.index
  | _ => none

/-- What a packet by itself makes of a registered client. -/
def touch (p : Packet) (index : UInt8) (c : Client) : Client :=
  match p.request with
  | .ok (.probe r) => if r.index = index then c.learn r p.source else c
  | .ok (.reply r) => if r.index = index then c.acknowledge else c
  | .ok (.report r) => if r.index = index then c.finish else c
  | _ => c

theorem touch_of_not_named {p : Packet} {index : UInt8} (h : p.named? ≠ some index) (c : Client) :
    p.touch index c = c := by
  revert h
  unfold named? touch
  rcases p.request with failure | (r | r | r | _)
  · exact fun _ => rfl
  · exact fun h => if_neg fun hindex => h (congrArg some hindex)
  · exact fun h => if_neg fun hindex => h (congrArg some hindex)
  · exact fun h => if_neg fun hindex => h (congrArg some hindex)
  · exact fun _ => rfl

end Packet

namespace Client

/-- Whatever is known of a client is known later, and the client is the same. -/
structure KeptIn (c d : Client) : Prop where
  cookie : d.cookie = c.cookie
  index : d.index = c.index
  gameName : d.gameName = c.gameName
  negotiate : c.negotiateAddress.isSome → d.negotiateAddress.isSome
  own : c.localAddress.isSome → d.localAddress.isSome
  server : c.serverAddress.isSome → d.serverAddress.isSome
  connected : ∀ peer, c.hasConnectedTo peer → d.hasConnectedTo peer

namespace KeptIn

theorem refl (c : Client) : c.KeptIn c :=
  ⟨rfl, rfl, rfl, id, id, id, fun _ => id⟩

theorem learn (c : Client) (r : InitRequest) (source : SocketAddress) :
    c.KeptIn (c.learn r source) where
  cookie := rfl
  index := rfl
  gameName := rfl
  negotiate h := by
    simp only [Client.learn]
    split
    · exact h
    · rfl
  own h := by
    simp only [Client.learn]
    split
    · exact h
    · rfl
  server h := by
    simp only [Client.learn]
    split
    · rfl
    · exact h
  connected _ h := h

theorem acknowledge (c : Client) : c.KeptIn c.acknowledge :=
  ⟨rfl, rfl, rfl, id, id, id, fun _ => id⟩

theorem finish (c : Client) : c.KeptIn c.finish :=
  ⟨rfl, rfl, rfl, id, id, id, fun peer h => (c.hasConnectedTo_finish peer).2 (.inr h)⟩

theorem aimAt {c d : Client} (h : c.KeptIn d) (peer : UInt8) : c.KeptIn (d.aimAt peer) :=
  ⟨h.cookie, h.index, h.gameName, h.negotiate, h.own, h.server, h.connected⟩

theorem touch (p : Packet) (index : UInt8) (c : Client) : c.KeptIn (p.touch index c) := by
  unfold Packet.touch
  rcases p.request with failure | (r | r | r | _)
  · exact refl c
  · dsimp only
    split
    · exact learn c r p.source
    · exact refl c
  · dsimp only
    split
    · exact acknowledge c
    · exact refl c
  · dsimp only
    split
    · exact finish c
    · exact refl c
  · exact refl c

theorem retarget {c d : Client} (h : c.KeptIn d) (edges : List Edge) (index : UInt8) :
    c.KeptIn (Session.retarget edges index d) := by
  unfold Session.retarget
  split
  · exact h
  · exact h.aimAt _

end KeptIn

end Client

/-! ### Every client after a packet -/

namespace Session

variable {s : Session} {p : Packet} {index : UInt8}

/-- Nobody who is registered is asked for the name of the game. -/
theorem checkGame_of_registered {r : InitRequest} {c : Client} (hc : s.client? r.index = some c) :
    s.checkGame r = .ok () := by
  simp [checkGame, hc]

theorem client?_prepare_of_some {c : Client} (hc : s.client? index = some c) (p : Packet) :
    (s.prepare p).client? index = some (p.touch index c) := by
  unfold prepare Packet.touch
  rcases p.request with failure | (r | r | r | _)
  · exact hc
  · by_cases hindex : r.index = index
    · subst hindex
      simp [checkGame_of_registered hc, prober, hc]
    · -- The probe of another client may be refused, but nothing of it concerns this one.
      cases hgame : s.checkGame r with
      | error failure => simp [hgame, hindex, hc]
      | ok _ => simp [hgame, hindex, hc]
  · simp [hc, eq_comm]
  · simp [hc, eq_comm]
  · exact hc

/-- A client that was not there before has sent the probe. -/
theorem client?_prepare_of_none (hnone : s.client? index = none) {d : Client} :
    (s.prepare p).client? index = some d ↔ ∃ q, s.accepted? p = some q ∧ q.request.index = index ∧
      (Client.fresh s.cookie index q.request.gameName).learn q.request q.source = d := by
  rw [accepted?_eq]
  unfold prepare
  rcases p.request with failure | (r | r | r | _)
  · simp [hnone]
  · cases hgame : s.checkGame r with
    | error failure => simp [hgame, hnone]
    | ok _ =>
        by_cases hindex : r.index = index
        · subst hindex
          simp [hgame, prober, hnone]
        · simp [hgame, hindex, hnone]
  · simp [hnone]
  · simp [hnone]
  · simp [hnone]

/-- A registered client after a packet: what the packet makes of it, and then its new edge. -/
theorem client?_handle_of_some (hindexed : s.Indexed) {c : Client} (hc : s.client? index = some c)
    (p : Packet) :
    (s.handle p).session.client? index =
      some (retarget (s.handle p).edges index (p.touch index c)) := by
  rw [client?_handle hindexed, client?_prepare_of_some hc]
  rfl

/-- A game that has a name keeps it. -/
theorem gameName_stable (name : String) : Stable fun s _ => s.gameName = some name where
  register r _ _ h := by rw [register, h, Option.some_or]
  acknowledge _ h := h
  rotate _ h := h
  join _ h := h

/-- A packet that is not a probe, an acknowledgement or a report asks for nothing. -/
theorem handle_of_other_command (hprobe : p.header.command? ≠ some .initRequest)
    (hreply : p.header.command? ≠ some .connectReply)
    (hreport : p.header.command? ≠ some .reportRequest) :
    s.handle p = s.ignore [p.notice s.cookie] := by
  have hrequest : p.request = .ok .nothing := by
    unfold Packet.request
    split
    · contradiction
    · contradiction
    · contradiction
    · rfl
  rw [handle_eq, hrequest]

theorem session_handle_of_error {failure : Failure} (h : (s.handle p).result = .error failure) :
    (s.handle p).session = s := by
  revert h
  rw [handle_eq]
  rcases p.request with refusal | (r | r | r | _)
  · exact fun _ => rfl
  · cases hgame : s.checkGame r with
    | error refusal => exact fun _ => (handleInit_of_refused hgame p.source).1
    | ok _ => simp [handleInit, hgame]
  · intro h
    cases h
  · intro h
    cases h
  · intro h
    cases h

/-! ### The frame -/

/-- What a packet makes of every client that was there before. -/
def EachChange (s : Session) (p : Packet) (P : UInt8 → Client → Client → Prop) : Prop :=
  ∀ index c d, s.client? index = some c → (s.handle p).session.client? index = some d → P index c d

/-- What a packet can change, and what it leaves alone. -/
structure Frame (s : Session) (p : Packet) : Prop where
  /-- Nobody is removed, and only the sender of an accepted probe is added. -/
  registered : ∀ index, (∃ d, (s.handle p).session.client? index = some d) ↔
    (∃ c, s.client? index = some c) ∨ ∃ q, s.accepted? p = some q ∧ q.request.index = index
  newcomer : ∀ index d, s.client? index = none → (s.handle p).session.client? index = some d →
    d.connected = .empty
  kept : s.EachChange p fun _ c d => c.KeptIn d
  game : ∀ name, s.gameName = some name → (s.handle p).session.gameName = some name
  probe : ∀ r, p.request = .ok (.probe r) → s.EachChange p fun index c d =>
    d.connected = c.connected ∧ (index ≠ r.index → d.addresses = c.addresses)
  reply : ∀ r, p.request = .ok (.reply r) →
    s.handle p = ⟨{ s with clients := s.clients.modify r.index fun c =>
      { c with acknowledged := true } }, .ok [], [], []⟩
  report : ∀ r, p.request = .ok (.report r) → s.EachChange p fun index c d =>
    d.addresses = c.addresses ∧ d.connected =
      if index = r.index ∧ ¬c.isIdle then c.connected.insertIndex c.target else c.connected
  /-- Edges reach clients that the packet does not name, but change no more than the attempt. -/
  unnamed : s.EachChange p fun index c d => p.named? ≠ some index →
    d = { c with target := d.target, acknowledged := d.acknowledged } ∧
      (index ∉ endpoints (s.handle p).edges → d = c)
  other : p.header.command? ≠ some .initRequest → p.header.command? ≠ some .connectReply →
    p.header.command? ≠ some .reportRequest →
      (s.handle p).session = s ∧ (s.handle p).replies = [] ∧ (s.handle p).result = .ok []
  failed : ∀ failure, (s.handle p).result = .error failure → (s.handle p).session = s

theorem frame_of_probe (hindexed : s.Indexed) {r : InitRequest} (hr : p.request = .ok (.probe r)) :
    s.EachChange p fun index c d =>
      d.connected = c.connected ∧ (index ≠ r.index → d.addresses = c.addresses) := by
  intro index c d hc hd
  rw [client?_handle_of_some hindexed hc] at hd
  obtain rfl := Option.some.inj hd
  simp only [Packet.touch, hr, connected_retarget, addresses_retarget]
  split
  · next hindex => exact ⟨rfl, fun hne => absurd hindex.symm hne⟩
  · exact ⟨rfl, fun _ => rfl⟩

theorem frame_of_report (hindexed : s.Indexed) {r : ReportRequest}
    (hr : p.request = .ok (.report r)) :
    s.EachChange p fun index c d => d.addresses = c.addresses ∧ d.connected =
      if index = r.index ∧ ¬c.isIdle then c.connected.insertIndex c.target else c.connected := by
  intro index c d hc hd
  rw [client?_handle_of_some hindexed hc] at hd
  obtain rfl := Option.some.inj hd
  simp only [Packet.touch, hr, connected_retarget, addresses_retarget]
  by_cases hindex : r.index = index
  · by_cases hidle : c.isIdle
    · simp [hindex, hidle, Client.connected_finish_of_idle hidle]
    · simp [hindex, hidle, Client.connected_finish_of_busy hidle]
  · simp [hindex, Ne.symm hindex]

theorem frame_of_not_named (hindexed : s.Indexed) :
    s.EachChange p fun index c d => p.named? ≠ some index →
      d = { c with target := d.target, acknowledged := d.acknowledged } ∧
        (index ∉ endpoints (s.handle p).edges → d = c) := by
  intro index c d hc hd hname
  rw [client?_handle_of_some hindexed hc, Packet.touch_of_not_named hname] at hd
  obtain rfl := Option.some.inj hd
  refine ⟨?_, fun hout => retarget_of_not_mem hout c⟩
  unfold retarget
  split
  · rfl
  · rfl

/-- Whatever a packet is, and whatever it finds, it stays within its frame. -/
theorem packet_stays_within_its_frame (hindexed : s.Indexed) (p : Packet) : Frame s p where
  registered index := by
    cases hc : s.client? index with
    | some c => simp [client?_handle_of_some hindexed hc]
    | none =>
        rw [client?_handle hindexed]
        simp [client?_prepare_of_none hc]
  newcomer index d hnone hd := by
    rw [client?_handle hindexed] at hd
    obtain ⟨ready, hready, rfl⟩ := Option.map_eq_some_iff.1 hd
    obtain ⟨q, -, -, rfl⟩ := (client?_prepare_of_none hnone).1 hready
    exact connected_retarget _ _ _
  kept index c d hc hd := by
    rw [client?_handle_of_some hindexed hc] at hd
    obtain rfl := Option.some.inj hd
    exact (Client.KeptIn.touch p index c).retarget _ _
  game name hname := @Stable.handle _ s [] (gameName_stable name) p hname
  probe _ hr := frame_of_probe hindexed hr
  reply r hr := by
    rw [handle_eq, hr]
    rfl
  report _ hr := frame_of_report hindexed hr
  unnamed := frame_of_not_named hindexed
  other hprobe hreply hreport := by
    rw [handle_of_other_command hprobe hreply hreport]
    exact ⟨rfl, rfl, rfl⟩
  failed _ := session_handle_of_error

/-- The report of one of three clients, the first two of which are in the middle of an attempt. The
third, which nobody names, is aimed at the first; the second still aims at it, too. -/
theorem packet_stays_within_its_frame_of_three :
    let s := (fresh 7 3).after [.probeOf 1, .probeOf 2, .probeOf 3]
    let edges := (s.handle (.reportOf 1)).edges
    s.Indexed ∧ edges = [⟨1, 3⟩] ∧
      (∃ c d, s.client? 2 = some c ∧ (s.handle (.reportOf 1)).session.client? 2 = some d ∧ d = c) ∧
      ∃ c d, s.client? 3 = some c ∧ (s.handle (.reportOf 1)).session.client? 3 = some d ∧
        d = { c with target := 1 } := by
  intro s edges
  have hindexed : s.Indexed := indexed_after 7 3 _
  have hframe := packet_stays_within_its_frame hindexed (.reportOf 1)
  have hsecond : s.client? 2 = some _ := (Option.some_get (by decide)).symm
  have hthird : s.client? 3 = some _ := (Option.some_get (by decide)).symm
  have hsecond' : (s.handle (.reportOf 1)).session.client? 2 = some _ :=
    (Option.some_get (by decide)).symm
  have hthird' : (s.handle (.reportOf 1)).session.client? 3 = some _ :=
    (Option.some_get (by decide)).symm
  refine ⟨hindexed, by decide, ⟨_, _, hsecond, hsecond', ?_⟩, ⟨_, _, hthird, hthird', ?_⟩⟩
  · exact (hframe.unnamed 2 _ _ hsecond hsecond' (by decide)).2 (by decide)
  · exact (hframe.unnamed 3 _ _ hthird hthird' (by decide)).1

end Session

end Rendezvous
