import Rendezvous.Proofs.Session.Frame
import Rendezvous.Session.Retry

/-!
Connect-Requests on a network that keeps no promise. Retries send a client the address of its peer
until the client acknowledges; what they send may be lost, held back, overtaken and doubled, and a
client acknowledges only when it has received a Connect-Request. But an acknowledgement names its
client and not the attempt. One that is held back until the client has a new peer acknowledges the
new attempt, the retries for it stop, and the client may never hear of that peer. This is all that
can go wrong: as long as every acknowledgement finds its client either idle or informed of its
peer, every client that has acknowledged is informed; and in its first attempt no client is at risk.
-/
namespace Rendezvous

/-- A Connect-Request, with the client that it is for and the peer that it names. -/
structure Letter where
  receiver : UInt8
  peer : UInt8
  datagram : Datagram
  deriving DecidableEq

/-- The client for which a packet acknowledges a Connect-Request. -/
def Packet.acknowledges? (p : Packet) : Option UInt8 :=
  match p.request with
  | .ok (.reply r) => some r.index
  | _ => none

namespace Session

variable {s : Session}

/-- The Connect-Request, when it is needed. -/
def letter (s : Session) (peer receiver : Client) : List Letter :=
  (s.reminder peer receiver).1.map (⟨receiver.index, peer.index, ·⟩)

/-- The Connect-Requests of one retry of an edge. -/
def letters (s : Session) (edge : Edge) : List Letter :=
  match s.client? edge.first, s.client? edge.second with
  | some a, some b => s.letter a b ++ s.letter b a
  | _, _ => []

/-- What a retry sends are its letters. -/
theorem datagrams_of_pending {edge : Edge} {datagrams : List Datagram}
    (h : (s.retryStep edge).1 = .pending datagrams) :
    datagrams = (s.letters edge).map (·.datagram) := by
  have hletter (peer receiver : Client) :
      (s.letter peer receiver).map (·.datagram) = (s.reminder peer receiver).1 := by
    simp [letter, Function.comp_def]
  unfold retryStep at h
  split at h
  · next a b ha hb =>
    split at h
    · simp only [letters, ha, hb, List.map_append, hletter]
      exact (EdgeStep.pending.inj h).symm
    · cases h
  · cases h

/-- A letter goes to a client that aims at the peer in it. -/
theorem of_mem_letters (hindexed : s.Indexed) {edge : Edge} (hne : edge.first ≠ edge.second)
    {l : Letter} (h : l ∈ s.letters edge) :
    ∃ c, s.client? l.receiver = some c ∧ ¬c.isIdle ∧ c.target = l.peer := by
  have hletter {x y : UInt8} {peer receiver : Client} (hx : s.client? x = some peer)
      (hy : s.client? y = some receiver) (hxy : x ≠ y) (h : l ∈ s.letter peer receiver) :
      ∃ c, s.client? l.receiver = some c ∧ ¬c.isIdle ∧ c.target = l.peer := by
    obtain ⟨d, hd, rfl⟩ := List.mem_map.1 h
    unfold reminder at hd
    split at hd
    · next hwaits =>
      simp only [waitsFor, Bool.and_eq_true, beq_iff_eq] at hwaits
      refine ⟨receiver, (hindexed hy).symm ▸ hy, ?_, hwaits.2⟩
      rw [Client.isIdle_iff, hwaits.2, hindexed hx, hindexed hy]
      exact hxy
    · cases hd
  unfold letters at h
  split at h
  · next a b ha hb =>
    rcases List.mem_append.1 h with h | h
    · exact hletter ha hb hne h
    · exact hletter hb ha hne.symm h
  · cases h

/-- Who has acknowledged once a packet has been taken in is as busy as before, and had acknowledged
before, unless the packet is the acknowledgement. -/
theorem acknowledged_touch {p : Packet} {index : UInt8} {c : Client}
    (hack : (p.touch index c).acknowledged) :
    ((p.touch index c).isIdle ↔ c.isIdle) ∧ (c.acknowledged ∨ p.acknowledges? = some index) := by
  revert hack
  unfold Packet.touch Packet.acknowledges?
  rcases p.request with failure | (r | r | r | _)
  · exact fun hack => ⟨Iff.rfl, .inl hack⟩
  · dsimp only
    split
    · exact fun hack => ⟨Iff.rfl, .inl hack⟩
    · exact fun hack => ⟨Iff.rfl, .inl hack⟩
  · dsimp only
    split
    · next hindex => exact fun _ => ⟨Iff.rfl, .inr (congrArg some hindex)⟩
    · exact fun hack => ⟨Iff.rfl, .inl hack⟩
  · dsimp only
    split
    · intro hack
      cases hack
    · exact fun hack => ⟨Iff.rfl, .inl hack⟩
  · exact fun hack => ⟨Iff.rfl, .inl hack⟩

theorem acknowledged_prepare {p : Packet} {index : UInt8} {c : Client}
    (hc : (s.prepare p).client? index = some c) (hack : c.acknowledged) :
    ∃ old, s.client? index = some old ∧ (c.isIdle ↔ old.isIdle) ∧
      (old.acknowledged ∨ p.acknowledges? = some index) := by
  cases hold : s.client? index with
  | some old =>
      rw [client?_prepare_of_some hold] at hc
      obtain rfl := Option.some.inj hc
      exact ⟨old, rfl, acknowledged_touch hack⟩
  | none =>
      obtain ⟨q, -, -, rfl⟩ := (client?_prepare_of_none hold).1 hc
      cases hack

/-- A new attempt is not acknowledged yet, so nobody who has acknowledged begins one. -/
theorem acknowledged_handle (hindexed : s.Indexed) {p : Packet} {index : UInt8} {c : Client}
    (hc : (s.handle p).session.client? index = some c) (hack : c.acknowledged) :
    newPeer? (s.handle p).edges index = none ∧
      ∃ old, s.client? index = some old ∧ (c.isIdle ↔ old.isIdle) ∧
        (old.acknowledged ∨ p.acknowledges? = some index) := by
  rw [client?_handle hindexed] at hc
  obtain ⟨ready, hready, rfl⟩ := Option.map_eq_some_iff.1 hc
  unfold retarget at hack ⊢
  cases hpeer : newPeer? (s.handle p).edges index with
  | none =>
      rw [hpeer] at hack
      exact ⟨rfl, acknowledged_prepare hready hack⟩
  | some peer =>
      rw [hpeer] at hack
      cases hack

end Session

/-! ### A session, its retries and the network -/

/-- A session with its retries, and the Connect-Requests between it and its clients. -/
structure Exchange where
  session : Session
  /-- The edges that a retry runs for. -/
  running : List Edge
  /-- Every Connect-Request so far, in the order of sending. -/
  sent : List Letter
  /-- The numbers of those that their clients have received, as often as they have. -/
  received : List Nat
  /-- How many had been sent when the current attempt of a client began. -/
  begun : UInt8 → Nat

namespace Exchange

inductive Event
  /-- A packet reaches the session. -/
  | packet (p : Packet)
  /-- The retry at this place of the list of retries wakes up. -/
  | wake (place : Nat)
  /-- The network hands out the Connect-Request of this number, for the first time or again. -/
  | hand (number : Nat)
  deriving DecidableEq

def start (cookie : UInt32) (version : UInt8) : Exchange :=
  ⟨.fresh cookie version, [], [], [], fun _ => 0⟩

/-- A client has received a Connect-Request, of those that were sent from the given number on. -/
def HasReceived (x : Exchange) (index : UInt8) (since : Nat) : Prop :=
  ∃ number ∈ x.received, since ≤ number ∧ ∃ l ∈ x.sent[number]?, l.receiver = index

instance (x : Exchange) (index : UInt8) (since : Nat) : Decidable (x.HasReceived index since) :=
  inferInstanceAs (Decidable (∃ number ∈ x.received, _))

/-- A packet may come, whatever it is, but an acknowledgement only when its client has received a
Connect-Request; then it may come at any time, and again. -/
def MayCome (x : Exchange) (p : Packet) : Prop :=
  ∀ index ∈ p.acknowledges?, x.HasReceived index 0

instance (x : Exchange) (p : Packet) : Decidable (x.MayCome p) :=
  inferInstanceAs (Decidable (∀ index ∈ p.acknowledges?, _))

/-- The session handles the packet. A retry starts for every edge, whose ends begin an attempt. -/
def take (x : Exchange) (p : Packet) : Exchange :=
  if x.MayCome p then
    let reaction := x.session.handle p
    { x with
      session := reaction.session
      running := x.running ++ reaction.edges
      begun := fun index =>
        if (Session.newPeer? reaction.edges index).isSome then x.sent.length else x.begun index }
  else x

def wake (x : Exchange) (place : Nat) : Exchange :=
  match x.running[place]? with
  | none => x
  | some edge =>
    match (x.session.retryStep edge).1 with
    | .settled => { x with running := x.running.eraseIdx place }
    | .pending _ => { x with sent := x.sent ++ x.session.letters edge }

def step (x : Exchange) : Event → Exchange
  | .packet p => x.take p
  | .wake place => x.wake place
  | .hand number =>
    if number < x.sent.length then { x with received := number :: x.received } else x

def after (x : Exchange) (events : List Event) : Exchange :=
  events.foldl step x

variable {x : Exchange} {issued : List Edge} {index : UInt8} {c : Client} {number since : Nat}

/-! ### Which attempt a Connect-Request belongs to -/

/-- A Connect-Request with this number and for this peer belongs to the current attempt of a client,
which began when so many had been sent, or to an earlier one. -/
def Belongs (c : Client) (begun number : Nat) (peer : UInt8) : Prop :=
  (¬c.isIdle ∧ c.target = peer ∧ begun ≤ number) ∨
    (c.hasConnectedTo peer ∧ (¬c.isIdle → number < begun))

theorem Belongs.finish {begun later : Nat} {peer : UInt8} (h : Belongs c begun number peer) :
    Belongs c.finish later number peer := by
  have hidle : c.finish.isIdle := Client.isIdle_iff.2 rfl
  refine .inr ⟨?_, fun hbusy => absurd hidle hbusy⟩
  rw [Client.hasConnectedTo_finish]
  rcases h with ⟨hbusy, htarget, -⟩ | ⟨hconnected, -⟩
  · exact .inl ⟨hbusy, htarget⟩
  · exact .inr hconnected

/-- When an idle client begins an attempt, all that it was sent so far belongs to earlier ones. -/
theorem Belongs.aimAt {begun later : Nat} {peer : UInt8} (h : Belongs c begun number peer)
    (hidle : c.isIdle) (hlater : number < later) (next : UInt8) :
    Belongs (c.aimAt next) later number peer := by
  rcases h with ⟨hbusy, -⟩ | ⟨hconnected, -⟩
  · exact absurd hidle hbusy
  · exact .inr ⟨hconnected, fun _ => hlater⟩

theorem Belongs.touch {begun : Nat} {peer : UInt8} (h : Belongs c begun number peer) (p : Packet) :
    Belongs (p.touch index c) begun number peer := by
  unfold Packet.touch
  rcases p.request with failure | (r | r | r | _)
  · exact h
  · dsimp only
    split
    · exact h
    · exact h
  · dsimp only
    split
    · exact h
    · exact h
  · dsimp only
    split
    · exact h.finish
    · exact h
  · exact h

/-- The Connect-Requests of an exchange account for its clients: each belongs to an attempt of the
client that it is for, and who has acknowledged has received one. -/
structure Traced (x : Exchange) (issued : List Edge) : Prop where
  accounted : x.session.Accounted issued
  running : ∀ e ∈ x.running, e ∈ issued
  begun_le : ∀ index, x.begun index ≤ x.sent.length
  belongs : ∀ {number l}, x.sent[number]? = some l → ∃ c, x.session.client? l.receiver = some c ∧
    Belongs c (x.begun l.receiver) number l.peer
  received : ∀ {index c}, x.session.client? index = some c → c.acknowledged → x.HasReceived index 0

/-- What a client has received stays received. -/
theorem HasReceived.mono {y : Exchange} (h : x.HasReceived index since)
    (hsent : x.sent <+: y.sent) (hreceived : ∀ number ∈ x.received, number ∈ y.received) :
    y.HasReceived index since := by
  obtain ⟨number, hnumber, hsince, l, hl, hreceiver⟩ := h
  obtain ⟨more, hmore⟩ := hsent
  refine ⟨number, hreceived number hnumber, hsince, l, ?_, hreceiver⟩
  rw [← hmore, List.getElem?_append_left (List.getElem?_eq_some_iff.1 hl).1]
  exact hl

/-- A retry does nothing but send. -/
theorem wake_eq (x : Exchange) (place : Nat) :
    (x.wake place).session = x.session ∧ (x.wake place).begun = x.begun ∧
      (x.wake place).received = x.received ∧ x.sent <+: (x.wake place).sent := by
  unfold wake
  split
  · exact ⟨rfl, rfl, rfl, List.prefix_refl _⟩
  · split
    · exact ⟨rfl, rfl, rfl, List.prefix_refl _⟩
    · exact ⟨rfl, rfl, rfl, List.prefix_append _ _⟩

namespace Traced

theorem start (cookie : UInt32) (version : UInt8) : (start cookie version).Traced [] where
  accounted := .start cookie version
  running e he := absurd he List.not_mem_nil
  begun_le index := Nat.le_refl 0
  belongs h := by simp [Exchange.start] at h
  received h := by simp [Exchange.start] at h

theorem take (h : x.Traced issued) (p : Packet) : ∃ later, (x.take p).Traced later := by
  unfold Exchange.take
  split
  · next hcome =>
    refine ⟨issued ++ (x.session.handle p).edges, ?_, ?_, ?_, ?_, ?_⟩
    · exact Session.accounted_stable.handle p h.accounted
    · intro e he
      rcases List.mem_append.1 he with he | he
      · exact List.mem_append_left _ (h.running e he)
      · exact List.mem_append_right _ he
    · intro index
      dsimp only
      split
      · exact Nat.le_refl _
      · exact h.begun_le index
    · intro number l hl
      obtain ⟨c, hc, hbelongs⟩ := h.belongs hl
      refine ⟨_, Session.client?_handle_of_some h.accounted.indexed hc p, ?_⟩
      dsimp only
      unfold Session.retarget
      cases hpeer : Session.newPeer? (x.session.handle p).edges l.receiver with
      | none => exact hbelongs.touch p
      | some peer =>
          refine (hbelongs.touch p).aimAt ?_ (List.getElem?_eq_some_iff.1 hl).1 peer
          exact Session.isIdle_of_newPeer?_handle h.accounted.indexed (by simp [hpeer])
            (Session.client?_prepare_of_some hc p)
    · intro index c hc hack
      obtain ⟨-, old, hold, -, hbefore | hnow⟩ :=
        Session.acknowledged_handle h.accounted.indexed hc hack
      · exact h.received hold hbefore
      · exact hcome index hnow
  · exact ⟨issued, h⟩

theorem wake (h : x.Traced issued) (place : Nat) : (x.wake place).Traced issued := by
  unfold Exchange.wake
  split
  · exact h
  · next edge hedge =>
    have hissued : edge ∈ issued := h.running edge (List.mem_of_getElem? hedge)
    split
    · exact { h with
        running := fun e he => h.running e (List.mem_of_mem_eraseIdx he) }
    · refine ⟨h.accounted, h.running, fun index => ?_, fun {number l} hl => ?_,
        fun hc hack => (h.received hc hack).mono (List.prefix_append _ _) fun _ hn => hn⟩
      · exact (h.begun_le index).trans (by simp)
      · rcases Nat.lt_or_ge number x.sent.length with hold | hnew
        · rw [List.getElem?_append_left hold] at hl
          exact h.belongs hl
        · rw [List.getElem?_append_right hnew] at hl
          obtain ⟨c, hc, hbusy, htarget⟩ := Session.of_mem_letters h.accounted.indexed
            (h.accounted.ends_ne edge hissued) (List.mem_of_getElem? hl)
          exact ⟨c, hc, .inl ⟨hbusy, htarget, (h.begun_le l.receiver).trans hnew⟩⟩

theorem step (h : x.Traced issued) (event : Event) : ∃ later, (x.step event).Traced later := by
  cases event with
  | packet p => exact h.take p
  | wake place => exact ⟨issued, h.wake place⟩
  | hand number =>
      refine ⟨issued, ?_⟩
      rw [Exchange.step]
      split
      · exact { h with
          received := fun hc hack => (h.received hc hack).mono (List.prefix_refl _)
            fun _ hn => List.mem_cons_of_mem number hn }
      · exact h

/-- A client in the middle of an attempt has received a Connect-Request of that attempt exactly if
it has received the address of its peer. -/
theorem hasReceived_begun_iff (h : x.Traced issued) (hc : x.session.client? index = some c)
    (hbusy : ¬c.isIdle) :
    x.HasReceived index (x.begun index) ↔
      ∃ number ∈ x.received, ∃ l ∈ x.sent[number]?, l.receiver = index ∧ l.peer = c.target := by
  have hbelongs {number} {l : Letter} (hl : l ∈ x.sent[number]?) (hreceiver : l.receiver = index) :
      Belongs c (x.begun index) number l.peer := by
    subst hreceiver
    obtain ⟨d, hd, hbelongs⟩ := h.belongs hl
    obtain rfl := Option.some.inj (hc.symm.trans hd)
    exact hbelongs
  constructor
  · rintro ⟨number, hnumber, hbegun, l, hl, hreceiver⟩
    refine ⟨number, hnumber, l, hl, hreceiver, ?_⟩
    rcases hbelongs hl hreceiver with ⟨-, htarget, -⟩ | ⟨-, hearlier⟩
    · exact htarget.symm
    · exact absurd (hearlier hbusy) (Nat.not_lt.2 hbegun)
  · rintro ⟨number, hnumber, l, hl, hreceiver, htarget⟩
    refine ⟨number, hnumber, ?_, l, hl, hreceiver⟩
    rcases hbelongs hl hreceiver with ⟨-, -, hbegun⟩ | ⟨hconnected, -⟩
    · exact hbegun
    · rw [htarget] at hconnected
      exact absurd hconnected (h.accounted.coherent hc).not_again

/-- In its first attempt, a client can have received no Connect-Request of another one. -/
theorem hasReceived_of_first (h : x.Traced issued) (hc : x.session.client? index = some c)
    (hack : c.acknowledged) (hfirst : ∀ peer, ¬c.hasConnectedTo peer) :
    x.HasReceived index (x.begun index) := by
  obtain ⟨number, hnumber, -, l, hl, rfl⟩ := h.received hc hack
  obtain ⟨d, hd, hbelongs⟩ := h.belongs hl
  obtain rfl := Option.some.inj (hc.symm.trans hd)
  rcases hbelongs with ⟨-, -, hbegun⟩ | ⟨hconnected, -⟩
  · exact ⟨number, hnumber, hbegun, l, hl, rfl⟩
  · exact absurd hconnected (hfirst l.peer)

end Traced

theorem after_append (x : Exchange) (events later : List Event) :
    x.after (events ++ later) = (x.after events).after later :=
  List.foldl_append

theorem traced_after (cookie : UInt32) (version : UInt8) (events : List Event) :
    ∃ issued, ((start cookie version).after events).Traced issued := by
  induction events using List.reverseRecOn with
  | nil => exact ⟨[], .start cookie version⟩
  | append_singleton earlier event ih =>
      obtain ⟨issued, h⟩ := ih
      rw [after_append]
      exact h.step event

/-! ### Acknowledged and informed -/

/-- Whoever has acknowledged the current attempt has received a Connect-Request of it. -/
def Informed (x : Exchange) : Prop :=
  ∀ index c, x.session.client? index = some c → ¬c.isIdle → c.acknowledged →
    x.HasReceived index (x.begun index)

/-- An acknowledgement that comes while its client is in the middle of an attempt stands for a
Connect-Request of that attempt. -/
def Timely (x : Exchange) (p : Packet) : Prop :=
  ∀ index c, p.acknowledges? = some index → x.MayCome p → x.session.client? index = some c →
    ¬c.isIdle → x.HasReceived index (x.begun index)

/-- What comes in time leaves everybody informed; nothing else is in danger of not doing so. -/
theorem Informed.step (h : x.Informed) (htraced : x.Traced issued) {event : Event}
    (htimely : ∀ p, event = .packet p → x.Timely p) : (x.step event).Informed := by
  intro index c hc hbusy hack
  cases event with
  | packet p =>
      rw [Exchange.step, take] at hc ⊢
      split at hc
      · next hcome =>
        obtain ⟨hnone, old, hold, hidle, hbefore⟩ :=
          Session.acknowledged_handle htraced.accounted.indexed hc hack
        rw [hidle] at hbusy
        have hinformed : x.HasReceived index (x.begun index) := by
          rcases hbefore with hbefore | hnow
          · exact h index old hold hbusy hbefore
          · exact htimely p rfl index old hnow hcome hold hbusy
        simp only [if_pos hcome, hnone, Option.isSome_none, Bool.false_eq_true, if_false]
        exact hinformed
      · next hnot =>
        rw [if_neg hnot]
        exact h index c hc hbusy hack
  | wake place =>
      obtain ⟨hsession, hbegun, hreceived, hsent⟩ := wake_eq x place
      rw [Exchange.step, hsession] at hc
      rw [Exchange.step, hbegun]
      exact (h index c hc hbusy hack).mono hsent fun _ hn => hreceived ▸ hn
  | hand number =>
      rw [Exchange.step] at hc ⊢
      split at hc
      · next hknown =>
        rw [if_pos hknown]
        exact (h index c hc hbusy hack).mono (List.prefix_refl _)
          fun _ hn => List.mem_cons_of_mem number hn
      · next hunknown =>
        rw [if_neg hunknown]
        exact h index c hc hbusy hack

/-- An acknowledgement does nothing but acknowledge, whatever attempt it finds its client in. -/
theorem take_of_reply {p : Packet} (hreply : p.acknowledges? = some index) (hcome : x.MayCome p) :
    x.take p = { x with session := x.session.acknowledge index } := by
  unfold Packet.acknowledges? at hreply
  split at hreply
  · next r hrequest =>
    obtain rfl := Option.some.inj hreply
    have hhandle : x.session.handle p = (x.session.acknowledge r.index).ignore [] := by
      rw [Session.handle_eq, hrequest]
    rw [take, if_pos hcome, hhandle]
    simp [Session.ignore, Reaction.edges, Session.newPeer?]
  · cases hreply

/-- In every state of a run, whoever has acknowledged the current attempt has received a
Connect-Request of it, exactly if every acknowledgement that came on the way, and found its client
in the middle of an attempt, found it informed. A client is informed exactly if it has received the
address of its present peer; and whoever has acknowledged in its first attempt is informed, come
what may. -/
theorem acknowledged_clients_are_informed_iff (cookie : UInt32) (version : UInt8)
    (events : List Event) :
    ((∀ earlier, earlier <+: events → ((start cookie version).after earlier).Informed) ↔
        ∀ earlier p, earlier ++ [.packet p] <+: events →
          ((start cookie version).after earlier).Timely p) ∧
      let x := (start cookie version).after events
      ∀ index c, x.session.client? index = some c → ¬c.isIdle →
        (x.HasReceived index (x.begun index) ↔
          ∃ number ∈ x.received, ∃ l ∈ x.sent[number]?, l.receiver = index ∧ l.peer = c.target) ∧
        (c.acknowledged → (∀ peer, ¬c.hasConnectedTo peer) →
          x.HasReceived index (x.begun index)) := by
  refine ⟨⟨fun hall earlier p hprefix => ?_, fun htimely earlier hprefix => ?_⟩, ?_⟩
  · intro index c hreply hcome hc hbusy
    have hinformed := hall _ hprefix
    rw [after_append] at hinformed
    change Informed (take _ p) at hinformed
    rw [take_of_reply hreply hcome] at hinformed
    refine hinformed index c.acknowledge ?_ hbusy rfl
    rw [Session.client?_acknowledge, hc, Option.map_some, if_pos rfl]
  · induction earlier using List.reverseRecOn with
    | nil =>
        intro index c hc
        cases hc
    | append_singleton earlier event ih =>
        obtain ⟨issued, htraced⟩ := traced_after cookie version earlier
        rw [after_append]
        refine (ih ((List.prefix_append _ _).trans hprefix)).step htraced fun p hevent => ?_
        exact htimely earlier p (hevent ▸ hprefix)
  · intro x index c hc hbusy
    obtain ⟨issued, h⟩ := traced_after cookie version events
    exact ⟨h.hasReceived_begun_iff hc hbusy, h.hasReceived_of_first hc⟩

/-- The first client is told the address of the second, reports, and is joined with a third, whose
address is sent to it and lost. Only now its acknowledgement of the first attempt comes, and counts
for the second: the client is in the middle of an attempt, has not received the address of its peer,
and no retry that runs sends it again. -/
theorem late_acknowledgement_leaves_its_client_uninformed :
    let x := (start 7 3).after [.packet (.probeOf 1), .packet (.probeOf 2), .wake 0, .hand 1,
      .packet (.probeOf 3), .packet (.reportOf 1), .wake 1, .packet (.replyOf 1)]
    ∃ c, x.session.client? 1 = some c ∧ c.target = 3 ∧ c.acknowledged ∧
      ¬x.HasReceived 1 (x.begun 1) ∧ ⟨1, 3⟩ ∈ x.running ∧
      ∀ e ∈ x.running, ∀ l ∈ x.session.letters e, l.receiver ≠ 1 := by
  decide +kernel

/-- The acknowledgement comes while the first attempt lasts: the first client has the address of the
second, also when its Connect-Request and its acknowledgement come twice. -/
theorem acknowledged_clients_are_informed_of_two :
    let events : List Event := [.packet (.probeOf 1), .packet (.probeOf 2), .wake 0, .hand 1,
      .packet (.replyOf 1), .hand 1, .packet (.replyOf 1)]
    let x := (start 7 3).after events
    ∃ c, x.session.client? 1 = some c ∧ c.target = 2 ∧ c.acknowledged ∧
      x.HasReceived 1 (x.begun 1) ∧
      ∃ number ∈ x.received, ∃ l ∈ x.sent[number]?, l.receiver = 1 ∧ l.peer = c.target := by
  intro events
  have hclient : ∃ c, ((start 7 3).after events).session.client? 1 = some c ∧
      c.target = 2 ∧ ¬c.isIdle ∧ c.acknowledged ∧ c.connected = .empty := by
    decide +kernel
  have hevents := (acknowledged_clients_are_informed_iff 7 3 events).2
  generalize (start 7 3).after events = x at hclient hevents ⊢
  obtain ⟨c, hc, htarget, hbusy, hack, hconnected⟩ := hclient
  obtain ⟨hiff, hinformed⟩ := hevents 1 c hc hbusy
  have hreceived := hinformed hack (by simp [Client.hasConnectedTo, hconnected, Table.contains])
  exact ⟨c, hc, htarget, hack, hreceived, hiff.1 hreceived⟩

end Exchange

end Rendezvous
