import Rendezvous.Proofs.Registry.Links
import Rendezvous.Proofs.Server.Reflection

/-!
What the counters say. They are kept by different parts of a server, before and after it sends, so
no one of them can be trusted to fit the others by itself. Each step is therefore accounted for as a
whole: how much more is counted after it than before, in terms of what it attempted to send and of
the sessions that there are. Accounts of one step and the next add up to one of both, and a server
starts with nothing, so the account of a whole run is what the counters show.

The counters here have no largest value.
-/
namespace Rendezvous

/-- The attempts that succeeded. -/
def departed (attempts : List Attempt) : List Attempt :=
  attempts.filter (·.isSent)

@[simp] theorem departed_append (attempts more : List Attempt) :
    departed (attempts ++ more) = departed attempts ++ departed more :=
  List.filter_append ..

theorem length_departed_add (attempts : List Attempt) :
    (departed attempts).length + attempts.countP (!·.isSent) = attempts.length := by
  rw [departed, ← List.countP_eq_length_filter, List.length_eq_countP_add_countP (·.isSent)]
  simp

/-- How many Connect-Requests were sent. -/
def connectRequests (attempts : List Attempt) : Nat :=
  (departed attempts).countP (·.datagram.command? = some .connectRequest)

section ConnectRequests

variable {attempts : List Attempt}

@[simp] theorem connectRequests_append (attempts more : List Attempt) :
    connectRequests (attempts ++ more) = connectRequests attempts + connectRequests more := by
  rw [connectRequests, departed_append, List.countP_append]
  rfl

theorem connectRequests_le (attempts : List Attempt) :
    connectRequests attempts ≤ (departed attempts).length :=
  List.countP_le_length

theorem connectRequests_of_answers (h : ∀ a ∈ attempts, a.datagram.IsAnswer) :
    connectRequests attempts = 0 := by
  rw [connectRequests, List.countP_eq_zero]
  intro a ha
  simpa using (h a (List.mem_of_mem_filter ha)).command?_ne

theorem connectRequests_of_requests (h : ∀ a ∈ attempts, a.datagram.IsConnectRequest) :
    connectRequests attempts = attempts.countP (·.isSent) := by
  rw [List.countP_eq_length_filter]
  refine List.countP_eq_length.2 fun a ha => ?_
  simpa using (h a (List.mem_of_mem_filter ha)).command

/-- All datagrams are of one length, but for the Connect-Requests, which lack one byte. -/
theorem sum_length_departed
    (h : ∀ a ∈ attempts, a.datagram.IsConnectRequest ∨ a.datagram.IsAnswer) :
    ((departed attempts).map (·.datagram.contents.length)).sum + connectRequests attempts =
      21 * (departed attempts).length := by
  have hdeparted : ∀ a ∈ departed attempts, a.datagram.IsConnectRequest ∨ a.datagram.IsAnswer :=
    fun a ha => h a (List.mem_of_mem_filter ha)
  rw [connectRequests]
  generalize departed attempts = sent at hdeparted ⊢
  induction sent with
  | nil => rfl
  | cons a rest ih =>
      obtain ⟨ha, hrest⟩ := List.forall_mem_cons.1 hdeparted
      have hbytes := ih hrest
      rw [List.map_cons, List.sum_cons, List.length_cons]
      rcases ha with hrequest | hanswer
      · rw [List.countP_cons_of_pos (by simpa using hrequest.command), hrequest.length]
        omega
      · rw [List.countP_cons_of_neg (by simpa using hanswer.command?_ne), hanswer.length]
        omega

end ConnectRequests

theorem Traffic.countAttempts_eq (t : Traffic) (attempts : List Attempt) :
    t.countAttempts attempts =
      { t with
        packetsSent := t.packetsSent + (departed attempts).length
        bytesSent := t.bytesSent + ((departed attempts).map (·.datagram.contents.length)).sum
        sendErrors := t.sendErrors + attempts.countP (!·.isSent) } := by
  induction attempts generalizing t with
  | nil => rfl
  | cons a rest ih =>
      have hcons : t.countAttempts (a :: rest) = (t.countAttempt a).countAttempts rest := rfl
      rw [hcons, ih, countAttempt, departed, departed]
      by_cases hsent : a.isSent
      · simp [hsent, Nat.add_assoc, Nat.add_comm 1]
      · simp [hsent, Nat.add_assoc, Nat.add_comm 1]

namespace Server

variable {s after later : Server} {t : Turn} {attempts more : List Attempt}

/-- The account of what happens between two states: what the counters gain. Of the sessions and the
datagrams received it only says how they go with what is counted of them. -/
structure Accounts (s after : Server) (attempts : List Attempt) : Prop where
  sent : after.traffic.packetsSent = s.traffic.packetsSent + (departed attempts).length
  bytes : after.traffic.bytesSent =
    s.traffic.bytesSent + ((departed attempts).map (·.datagram.contents.length)).sum
  errors : after.traffic.sendErrors = s.traffic.sendErrors + attempts.countP (!·.isSent)
  requests : after.counters.connectRequestsSent =
    s.counters.connectRequestsSent + connectRequests attempts
  sessions : after.counters.sessionsCreated + s.counters.sessionsExpired + s.registry.size =
    s.counters.sessionsCreated + after.counters.sessionsExpired + after.registry.size
  dropped : after.counters.packetsDropped + s.traffic.packetsReceived ≤
    s.counters.packetsDropped + after.traffic.packetsReceived

namespace Accounts

theorem refl (s : Server) : s.Accounts s [] :=
  ⟨rfl, rfl, rfl, rfl, rfl, Nat.le_refl _⟩

theorem trans (h : s.Accounts after attempts) (h' : after.Accounts later more) :
    s.Accounts later (attempts ++ more) where
  sent := by
    rw [h'.sent, h.sent, departed_append, List.length_append, Nat.add_assoc]
  bytes := by
    rw [h'.bytes, h.bytes, departed_append, List.map_append, List.sum_append, Nat.add_assoc]
  errors := by
    rw [h'.errors, h.errors, List.countP_append, Nat.add_assoc]
  requests := by
    rw [h'.requests, h.requests, connectRequests_append, Nat.add_assoc]
  sessions := by
    have hfirst := h.sessions
    have hsecond := h'.sessions
    omega
  dropped := by
    have hfirst := h.dropped
    have hsecond := h'.dropped
    omega

/-- A change that counts the attempts, and the Connect-Requests among them once more, and that opens
and closes no session. -/
theorem of_counted (htraffic : after.traffic = s.traffic.countAttempts attempts)
    (hcounters : after.counters = { s.counters with
      connectRequestsSent := s.counters.connectRequestsSent + connectRequests attempts })
    (hsize : after.registry.size = s.registry.size) : s.Accounts after attempts where
  sent := by rw [htraffic, Traffic.countAttempts_eq]
  bytes := by rw [htraffic, Traffic.countAttempts_eq]
  errors := by rw [htraffic, Traffic.countAttempts_eq]
  requests := by rw [hcounters]
  sessions := by rw [hcounters, hsize]
  dropped := by rw [hcounters, htraffic, Traffic.countAttempts_eq]

theorem of_answers (htraffic : after.traffic = s.traffic.countAttempts attempts)
    (hcounters : after.counters = s.counters) (hsize : after.registry.size = s.registry.size)
    (hanswers : ∀ a ∈ attempts, a.datagram.IsAnswer) : s.Accounts after attempts := by
  refine of_counted htraffic ?_ hsize
  rw [hcounters, connectRequests_of_answers hanswers]
  rfl

/-- A change of nothing that is counted. -/
theorem of_eq (htraffic : after.traffic = s.traffic) (hcounters : after.counters = s.counters)
    (hsize : after.registry.size = s.registry.size) : s.Accounts after [] :=
  of_answers htraffic hcounters hsize (by simp)

end Accounts

/-! ### The account of a step -/

/-- A session that is opened is counted, and one that is found is not. -/
theorem accounts_enter (s : Server) (now : Nat) (header : Header) :
    s.Accounts (s.enter now header).1 [] := by
  unfold enter
  cases hlinked : s.registry.linked? header.cookie with
  | some handle =>
      rw [Registry.enter_of_linked hlinked]
      exact .refl s
  | none =>
      have hsize := Registry.size_opened hlinked now header.version
      rw [Registry.enter_of_not_linked hlinked]
      refine ⟨rfl, rfl, rfl, rfl, ?_, Nat.le_refl _⟩
      dsimp only
      rw [if_pos rfl, hsize]
      dsimp only
      omega

theorem accounts_process (s : Server) (delivery : Delivery) (now handle : Nat) (session : Session)
    (header : Header) (payload : Wire.Bytes) (source : SocketAddress) :
    let outcome := s.process delivery now handle session header payload source
    s.Accounts outcome.server outcome.attempts := by
  intro outcome
  obtain ⟨-, hattempts, -⟩ := s.process_eq delivery now handle session header payload source
  have hanswers : ∀ a ∈ outcome.attempts, a.datagram.IsAnswer := by
    intro a ha
    rw [hattempts] at ha
    exact session.isAnswer_of_mem_replies (p := ⟨header, payload, source⟩) (mem_attempt ha)
  have hsize := s.registry.size_setSession handle (session.accept header payload source).session
  refine .of_answers ?_ ?_ (Eq.trans ?_ hsize) hanswers
  all_goals
    simp only [outcome, process]
    split
    · rfl
    · rfl

theorem accounts_handleDatagram (s : Server) (delivery : Delivery) (now : Nat)
    (source : SocketAddress) (datagram : Wire.Bytes) :
    let outcome := s.handleDatagram delivery now source datagram
    s.Accounts outcome.server outcome.attempts := by
  unfold handleDatagram
  cases Header.decode datagram with
  | error failure => exact .refl s
  | ok decoded =>
      obtain ⟨header, payload⟩ := decoded
      dsimp only
      cases header.command? with
      | none => exact .refl s
      | some command =>
          by_cases hstateless : command.isStateless
          · simp only [hstateless, if_true]
            exact .refl s
          · have henter := s.accounts_enter now header
            rcases hentered : s.enter now header with ⟨entered, handle, opened⟩
            rw [hentered] at henter
            simp only [hstateless, Bool.false_eq_true, if_false]
            cases entered.registry.lease? handle with
            | none => exact henter
            | some lease =>
                exact henter.trans (entered.accounts_process delivery now handle lease.session header
                  payload source)

/-- A datagram is received before it can be dropped. -/
theorem accounts_receive (s : Server) (delivery : Delivery) (now : Nat) (source : SocketAddress)
    (datagram : Wire.Bytes) :
    let outcome := s.receive delivery now source datagram
    s.Accounts outcome.server outcome.attempts := by
  unfold receive
  split
  · have h := accounts_handleDatagram
      { s with
        traffic := s.traffic.countReceived (datagram.take s.settings.datagramLimit).length }
      delivery now source (datagram.take s.settings.datagramLimit)
    have hdropped := h.dropped
    -- The account begins with one datagram more received, which pays for the one that is dropped.
    dsimp only [Traffic.countReceived] at hdropped ⊢
    split
    · refine ⟨h.sent, h.bytes, h.errors, h.requests, h.sessions, ?_⟩
      omega
    · refine ⟨h.sent, h.bytes, h.errors, h.requests, h.sessions, ?_⟩
      dsimp only [countDrop]
      omega
  · exact .refl s

theorem accounts_receiveFailed (s : Server) (cause : SocketError) :
    s.Accounts (s.receiveFailed cause).server (s.receiveFailed cause).attempts := by
  unfold receiveFailed
  split
  · exact ⟨rfl, rfl, rfl, rfl, rfl, Nat.le_refl _⟩
  · exact .refl s

theorem accounts_wake (s : Server) (delivery : Delivery) (now place : Nat) :
    let outcome := s.wake delivery now place
    s.Accounts outcome.server outcome.attempts := by
  cases hretry : s.retries[place]? with
  | none =>
      simp only [wake, hretry]
      exact .refl s
  | some retry =>
      have hrequests := (attempts_wake hretry delivery now).2
      revert hrequests
      simp only [wake, hretry]
      cases s.registry.lease? retry.handle with
      | none => exact fun _ => .of_eq rfl rfl rfl
      | some lease =>
          dsimp only
          split
          · split
            · exact fun _ => .of_eq rfl rfl rfl
            · intro hrequests
              refine .of_counted rfl ?_ rfl
              rw [connectRequests_of_requests hrequests]
              rfl
          · exact fun _ => .of_eq rfl rfl rfl

/-- An expiry that is to come finds its session open, so the registry is smaller afterwards. -/
theorem accounts_expire (hsound : s.registry.Sound) (harmed : Armed s.registry s.expiries)
    (delivery : Delivery) (now handle : Nat) :
    let outcome := s.step delivery now (.expire handle)
    s.Accounts outcome.server outcome.attempts := by
  intro outcome
  by_cases hdue : handle ∈ s.expiries
  · obtain ⟨lease, hlease, hopen⟩ := (harmed.mem_iff handle).1 hdue
    have hsize := Registry.size_expire hlease ((hsound _ _).2 ⟨lease, hlease, hopen, rfl⟩)
    have hanswers : ∀ a ∈ outcome.attempts, a.datagram.IsAnswer := fun a => isAnswer_of_expire
    -- The session and its link go together, so the account is that of the cancellations otherwise.
    have hcounted : s.Accounts (s.countAttempts outcome.attempts) outcome.attempts :=
      .of_answers rfl rfl rfl hanswers
    have hserver : outcome.server = ({ s with
        registry := (s.registry.expire handle).1
        expiries := s.expiries.erase handle }.countAttempts outcome.attempts).countExpired := by
      simp only [outcome, step, expire, hdue, hlease, if_true]
    rw [hserver]
    refine ⟨hcounted.sent, hcounted.bytes, hcounted.errors, hcounted.requests, ?_,
      hcounted.dropped⟩
    dsimp only [countExpired, Server.countAttempts]
    omega
  · have hnothing : outcome = s.quiet [] := if_neg hdue
    rw [hnothing]
    exact .refl s

theorem accounts_stop (s : Server) : s.Accounts s.stop.server s.stop.attempts := by
  unfold stop
  split
  · exact .of_eq rfl rfl rfl
  · exact .refl s

theorem accounts_turn (hsound : s.registry.Sound) (harmed : Armed s.registry s.expiries)
    (t : Turn) : s.Accounts (s.turn t) (s.step t.delivery t.now t.event).attempts := by
  obtain ⟨event, now, delivery⟩ := t
  cases event with
  | receive source datagram => exact s.accounts_receive delivery now source datagram
  | receiveFailed cause => exact s.accounts_receiveFailed cause
  | handle source datagram => exact s.accounts_handleDatagram delivery now source datagram
  | retry place => exact s.accounts_wake delivery now place
  | expire handle => exact accounts_expire hsound harmed delivery now handle
  | stop => exact s.accounts_stop

/-! ### The account of a run -/

theorem accounts_after (hsound : s.registry.Sound) (harmed : Armed s.registry s.expiries)
    (turns : List Turn) : s.Accounts (s.after turns) (s.sendings turns) := by
  induction turns generalizing s with
  | nil => exact .refl s
  | cons t rest ih =>
      have hrest := ih (sound_after hsound [t]) (harmed.turn hsound t)
      exact (accounts_turn hsound harmed t).trans hrest

/-- A server that begins has counted nothing. -/
theorem counters_of_bind {network : Network} {settings : Settings} {start : Outcome}
    (hbind : bind network settings = .ok start) :
    start.server.traffic = {} ∧ start.server.counters = {} ∧ start.server.registry.size = 0 := by
  obtain ⟨valid, address, hserver⟩ := server_of_bind hbind
  rw [hserver]
  exact ⟨rfl, rfl, rfl⟩

theorem accounts_run {network : Network} {settings : Settings} {start : Outcome}
    (hbind : bind network settings = .ok start) (turns : List Turn) :
    start.server.Accounts (start.server.after turns) (start.server.sendings turns) := by
  have hsound : start.server.registry.Sound := sound_stable.run Registry.sound_empty hbind []
  exact accounts_after hsound (armed_run hbind []) turns

/-- In every state of every run, the counters of a server fit each other, what it attempted to send
so far and the sessions that it has: every session that was opened and has not expired is there;
every attempt was counted once, as sent or as failed; all that was sent had a length of 21 bytes,
but for the Connect-Requests, which have 20; and what was dropped had been received. -/
theorem counters_balance {network : Network} {settings : Settings} {start : Outcome}
    (hbind : bind network settings = .ok start) (turns : List Turn) :
    let s := start.server.after turns
    s.counters.sessionsCreated = s.counters.sessionsExpired + s.registry.size ∧
      s.traffic.bytesSent + s.counters.connectRequestsSent = 21 * s.traffic.packetsSent ∧
      s.counters.connectRequestsSent ≤ s.traffic.packetsSent ∧
      s.traffic.packetsSent + s.traffic.sendErrors = (start.server.sendings turns).length ∧
      s.counters.packetsDropped ≤ s.traffic.packetsReceived := by
  intro s
  have hforms : ∀ a ∈ start.server.sendings turns,
      a.datagram.IsConnectRequest ∨ a.datagram.IsAnswer := by
    intro a ha
    obtain ⟨between, t, hstep⟩ := mem_step_of_mem_sendings ha
    exact (connectRequest_or_answer_of_step hstep).imp And.right And.right
  have hlengths := sum_length_departed hforms
  have hattempts := length_departed_add (start.server.sendings turns)
  have hrequests := connectRequests_le (start.server.sendings turns)
  obtain ⟨hsent, hbytes, herrors, hrequested, hsessions, hdropped⟩ := accounts_run hbind turns
  obtain ⟨htraffic, hcounters, hsize⟩ := counters_of_bind hbind
  rw [htraffic, Nat.zero_add] at hsent hbytes herrors
  rw [hcounters, Nat.zero_add] at hrequested
  rw [hcounters, hsize, Nat.add_zero, Nat.add_zero, Nat.zero_add] at hsessions
  rw [htraffic, hcounters, Nat.add_zero, Nat.zero_add] at hdropped
  refine ⟨hsessions, ?_, ?_, ?_, hdropped⟩
  · rw [hbytes, hrequested, hsent, hlengths]
  · rwa [hrequested, hsent]
  · rw [hsent, herrors, hattempts]

/-- Two clients are paired, told to dial each other and told to give up, and each time the first
datagram is lost; in between something comes in that is no packet. Then the cookie is used again. -/
theorem counters_balance_of_two :
    ∃ start, bind .isolated {} = .ok start ∧
      let lossy : Delivery := fun n _ => if n = 0 then some .networkUnreachable else none
      let turns : List Turn := [.ofPacket (.probeOf 1), .ofPacket (.probeOf 2),
        ⟨.retry 0, 0, lossy⟩, ⟨.receive start.server.address [1, 2], 5, lossy⟩,
        ⟨.expire 0, 30000, lossy⟩, .ofPacket (.probeOf 1)]
      let s := start.server.after turns
      s.counters = ⟨2, 1, 1, 1⟩ ∧ s.traffic.packetsSent = 5 ∧ s.traffic.sendErrors = 2 ∧
        s.registry.size = 1 ∧ s.traffic.bytesSent = 21 * 5 - 1 ∧
        (start.server.sendings turns).length = 7 ∧ 1 ≤ s.traffic.packetsReceived := by
  have hbind : bind .isolated {} = .ok _ := rfl
  refine ⟨_, hbind, ?_⟩
  intro lossy turns
  have hbalance := counters_balance hbind turns
  extract_lets s at hbalance
  obtain ⟨hsessions, hbytes, -, hattempts, hdropped⟩ := hbalance
  have hcounters : s.counters = ⟨2, 1, 1, 1⟩ := by decide
  have hsent : s.traffic.packetsSent = 5 := by decide
  have herrors : s.traffic.sendErrors = 2 := by decide
  rw [hcounters] at hsessions hbytes hdropped
  rw [hsent] at hbytes hattempts
  rw [herrors] at hattempts
  have hopen : 1 + 1 = 1 + s.registry.size := hsessions
  exact ⟨hcounters, hsent, herrors, (Nat.add_left_cancel hopen).symm, Nat.eq_sub_of_add_eq hbytes,
    hattempts.symm, hdropped⟩

end Server

end Rendezvous
