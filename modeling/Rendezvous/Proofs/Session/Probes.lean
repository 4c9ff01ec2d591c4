import Rendezvous.Proofs.Session.Members
import Rendezvous.Proofs.Session.Scan

/-!
What probes leave behind. A probe can show where signalling goes, what peers dial and what the
client says about its own network, each of these or not, and every showing replaces the one before.
Nothing else touches addresses: acknowledgements, reports, scans and packets that fail all leave
them alone. So the addresses of a client are those of the last of its accepted probes that show
them, a client is registered from its first accepted probe on, and the first of all accepted probes
names the game. Which probes are accepted depends on the session as it is when they come.
-/
namespace Rendezvous

/-- A probe that a session has taken in, and where it came from. -/
structure Probe where
  request : InitRequest
  source : SocketAddress
  deriving DecidableEq

namespace Probe

/-- Every socket but the game's own shows where signalling goes. -/
def ShowsSignalling (q : Probe) : Prop :=
  q.request.port ≠ .gamePort

/-- The game's own socket shows what peers dial, or any when the game's own is not used. -/
def ShowsGame (q : Probe) : Prop :=
  q.request.port = .gamePort ∨ q.request.useGamePort = false

/-- A port that is not zero says that there is an address of the client's own network. -/
def ShowsLocal (q : Probe) : Prop :=
  q.request.localEndpoint.port ≠ 0

instance : DecidablePred ShowsSignalling :=
  fun q => inferInstanceAs (Decidable (q.request.port ≠ .gamePort))

instance : DecidablePred ShowsGame :=
  fun q => inferInstanceAs (Decidable (q.request.port = .gamePort ∨ q.request.useGamePort = false))

instance : DecidablePred ShowsLocal :=
  fun q => inferInstanceAs (Decidable (q.request.localEndpoint.port ≠ 0))

variable (P : Probe → Prop) [DecidablePred P]

/-- The last of the probes that show something. -/
def last? (probes : List Probe) : Option Probe :=
  (probes.filter P).getLast?

theorem last?_append_singleton (probes : List Probe) (q : Probe) :
    last? P (probes ++ [q]) = if P q then some q else last? P probes := by
  rw [last?, List.filter_append]
  by_cases h : P q
  · simp [h]
  · simp [h, last?]

theorem isSome_last?_iff {probes : List Probe} : (last? P probes).isSome ↔ ∃ q ∈ probes, P q := by
  rw [last?, List.getLast?_isSome, Ne, List.filter_eq_nil_iff]
  simp

end Probe

open Probe

/-! ### What a client has learned -/

namespace Client

/-- The addresses of a client are those that its probes have shown last. -/
structure Learned (c : Client) (probes : List Probe) : Prop where
  negotiate : c.negotiateAddress = (last? ShowsSignalling probes).map (·.source)
  server : c.serverAddress = (last? ShowsGame probes).map (·.source)
  own : c.localAddress = (last? ShowsLocal probes).map (·.request.localEndpoint)

namespace Learned

variable {c : Client} {probes : List Probe}

theorem fresh (cookie : UInt32) (index : UInt8) (gameName : String) :
    (Client.fresh cookie index gameName).Learned [] :=
  ⟨rfl, rfl, rfl⟩

theorem learn (h : c.Learned probes) (q : Probe) :
    (c.learn q.request q.source).Learned (probes ++ [q]) where
  negotiate := by
    rw [last?_append_singleton]
    by_cases hport : q.request.port = .gamePort
    · simp [Client.learn, hport, h.negotiate, ShowsSignalling]
    · simp [Client.learn, hport, ShowsSignalling]
  server := by
    rw [last?_append_singleton]
    by_cases hport : q.request.useGamePort = false ∨ q.request.port = .gamePort
    · simp [Client.learn, hport, ShowsGame, hport.symm]
    · simp [Client.learn, hport, h.server, ShowsGame, mt Or.symm hport]
  own := by
    rw [last?_append_singleton]
    by_cases hport : q.request.localEndpoint.port = 0
    · simp [Client.learn, hport, h.own, ShowsLocal]
    · simp [Client.learn, hport, ShowsLocal]

theorem of_addresses_eq (h : c.Learned probes) {d : Client} (hsame : d.addresses = c.addresses) :
    d.Learned probes := by
  simp only [addresses, Prod.mk.injEq] at hsame
  obtain ⟨hnegotiate, hown, hserver⟩ := hsame
  exact ⟨hnegotiate.trans h.negotiate, hserver.trans h.server, hown.trans h.own⟩

theorem isMapped_iff (h : c.Learned probes) :
    c.isMapped ↔ (∃ q ∈ probes, q.ShowsSignalling) ∧ ∃ q ∈ probes, q.ShowsGame := by
  rw [isMapped, h.negotiate, h.server, Bool.and_eq_true, Option.isSome_map, Option.isSome_map,
    isSome_last?_iff, isSome_last?_iff]

end Learned

end Client

/-! ### Probes that are accepted -/

namespace Session

variable {s : Session} {p : Packet} {q : Probe} {probes : List Probe} {index : UInt8}

/-- The probe in a packet, when the session does not fail it. -/
def accepted? (s : Session) (p : Packet) : Option Probe :=
  match p.request, (s.handle p).result with
  | .ok (.probe r), .ok _ => some ⟨r, p.source⟩
  | _, _ => none

/-- The probe that an operation brings, when it is accepted. -/
def acceptedIn? (s : Session) : Operation → Option Probe
  | .packet p => s.accepted? p
  | .pair | .rotate _ => none

/-- The probes that a session accepts in the course of a run, in their order. -/
def accepted (s : Session) : List Operation → List Probe
  | [] => []
  | operation :: rest =>
    (s.acceptedIn? operation).toList ++ (s.perform operation).1.accepted rest

/-- The probes of one client. -/
def probesOf (index : UInt8) (probes : List Probe) : List Probe :=
  probes.filter fun q => q.request.index = index

theorem probesOf_append_singleton (index : UInt8) (probes : List Probe) (q : Probe) :
    probesOf index (probes ++ [q]) =
      if q.request.index = index then probesOf index probes ++ [q] else probesOf index probes := by
  rw [probesOf, List.filter_append]
  by_cases h : q.request.index = index
  · simp [h, probesOf]
  · simp [h, probesOf]

/-- A probe is accepted unless its client is new and names another game. -/
theorem accepted?_eq (s : Session) (p : Packet) :
    s.accepted? p =
      match p.request with
      | .ok (.probe r) =>
        match s.checkGame r with
        | .error _ => none
        | .ok () => some ⟨r, p.source⟩
      | _ => none := by
  unfold accepted?
  rw [handle_eq]
  rcases p.request with failure | (r | r | r | _)
  · rfl
  · cases hgame : s.checkGame r with
    | error failure => simp [handleInit, hgame]
    | ok _ => simp [handleInit, hgame]
  · rfl
  · rfl
  · rfl

/-! ### What a session has been taught -/

/-- The clients of a session, their addresses and its game come from these probes. -/
structure Taught (s : Session) (probes : List Probe) : Prop where
  game : s.gameName = probes.head?.map (·.request.gameName)
  registered : ∀ index, (∃ c, s.client? index = some c) ↔ probesOf index probes ≠ []
  learned : s.EachClient fun index c => c.Learned (probesOf index probes)

namespace Taught

theorem fresh (cookie : UInt32) (version : UInt8) : (Session.fresh cookie version).Taught [] where
  game := rfl
  registered index := by simp [probesOf]
  learned := EachClient.fresh cookie version

/-- Whatever leaves addresses and the game alone teaches nothing. -/
theorem of_map (h : s.Taught probes) {after : Session} {change : UInt8 → Client → Client}
    (hgame : after.gameName = s.gameName)
    (hkept : ∀ index c, (change index c).addresses = c.addresses)
    (hclients : ∀ index, after.client? index = (s.client? index).map (change index)) :
    after.Taught probes where
  game := hgame.trans h.game
  registered index := by simp [hclients, ← h.registered]
  learned index c hc := by
    rw [hclients] at hc
    obtain ⟨old, hold, rfl⟩ := Option.map_eq_some_iff.1 hc
    exact (h.learned hold).of_addresses_eq (hkept index old)

theorem register (h : s.Taught probes) (q : Probe) :
    (s.register q.request q.source).Taught (probes ++ [q]) where
  game := by
    show s.gameName.or (some q.request.gameName) = _
    rw [h.game, List.head?_append]
    cases probes.head? with
    | none => rfl
    | some first => rfl
  registered index := by
    rw [client?_register, probesOf_append_singleton]
    by_cases hindex : q.request.index = index
    · simp [hindex]
    · simp [hindex, h.registered]
  learned := by
    have hprober : (s.prober q.request).Learned (probesOf q.request.index probes) := by
      unfold prober
      cases hc : s.client? q.request.index with
      | some c => exact h.learned hc
      | none =>
          -- A client that is not registered has no probes, and has learned nothing.
          have hnil : probesOf q.request.index probes = [] := by
            by_contra hprobes
            obtain ⟨c, hsome⟩ := (h.registered _).2 hprobes
            rw [hc] at hsome
            cases hsome
          rw [hnil]
          exact .fresh s.cookie q.request.index q.request.gameName
    intro index c hc
    rw [client?_register] at hc
    rw [probesOf_append_singleton]
    split at hc
    · next hindex =>
      subst hindex
      obtain rfl := Option.some.inj hc
      rw [if_pos rfl]
      exact hprober.learn q
    · next hindex =>
      rw [if_neg hindex]
      exact h.learned hc

theorem update (h : s.Taught probes) (index : UInt8) {change : Client → Client}
    (hkept : ∀ c, (change c).addresses = c.addresses) : (s.update index change).Taught probes := by
  refine h.of_map rfl (fun other c => ?_) (client?_update s index change)
  split
  · exact hkept c
  · rfl

theorem prepare (h : s.Taught probes) (p : Packet) :
    (s.prepare p).Taught (probes ++ (s.accepted? p).toList) := by
  have hsame : s.Taught (probes ++ []) := by rwa [List.append_nil]
  unfold Session.prepare
  rw [accepted?_eq]
  rcases p.request with failure | (r | r | r | _)
  · exact hsame
  · cases hgame : s.checkGame r with
    | error failure => simpa [hgame] using h
    | ok _ => simpa [hgame] using h.register ⟨r, p.source⟩
  · exact hsame.update r.index Client.addresses_acknowledge
  · exact hsame.update r.index Client.addresses_finish
  · exact hsame

theorem pairIdle (h : s.Taught probes) (hindexed : s.Indexed) : s.pairIdle.1.Taught probes :=
  h.of_map s.gameName_pairIdle (fun _ _ => addresses_retarget _ _ _)
    fun _ => client?_pairAlong hindexed _

theorem perform (h : s.Taught probes) (hindexed : s.Indexed) (operation : Operation) :
    (s.perform operation).1.Taught (probes ++ (s.acceptedIn? operation).toList) := by
  have hsame : s.Taught (probes ++ []) := by rwa [List.append_nil]
  cases operation with
  | packet p =>
      exact (h.prepare p).of_map (s.gameName_handle p) (fun _ _ => addresses_retarget _ _ _)
        (client?_handle hindexed p)
  | pair => exact hsame.pairIdle hindexed
  | rotate index => exact hsame.update index Client.addresses_finish

/-- What a whole run teaches, on top of what came before. -/
theorem extend {start : Run} (h : start.session.Taught probes) (hindexed : start.session.Indexed)
    (operations : List Operation) :
    (operations.foldl Run.extend start).session.Taught
      (probes ++ start.session.accepted operations) := by
  induction operations generalizing start probes with
  | nil =>
      rw [accepted, List.append_nil]
      exact h
  | cons operation rest ih =>
      have hnext : (start.extend operation).session.Indexed :=
        @Stable.perform _ start.session [] indexed_stable operation hindexed
      rw [accepted, ← List.append_assoc]
      exact ih (h.perform hindexed operation) hnext

theorem hasMapped_iff (h : s.Taught probes) :
    s.HasMapped index ↔ (∃ q ∈ probesOf index probes, q.ShowsSignalling) ∧
      ∃ q ∈ probesOf index probes, q.ShowsGame := by
  constructor
  · rintro ⟨c, hc, hmapped⟩
    exact (h.learned hc).isMapped_iff.1 hmapped
  · intro hshown
    obtain ⟨q, hq, -⟩ := hshown.1
    obtain ⟨c, hc⟩ := (h.registered index).2 (List.ne_nil_of_mem hq)
    exact ⟨c, hc, (h.learned hc).isMapped_iff.2 hshown⟩

end Taught

theorem taught_run (cookie : UInt32) (version : UInt8) (operations : List Operation) :
    ((Session.fresh cookie version).run operations).session.Taught
      ((Session.fresh cookie version).accepted operations) :=
  @Taught.extend [] ⟨.fresh cookie version, []⟩ (.fresh cookie version)
    (indexed_fresh cookie version) operations

/-- After any run, what a session knows is in the probes that it has accepted. The first of them
names the game. A client is registered as soon as there is one of its own; its three addresses are
those that its own probes have shown last, and it is mapped as soon as they have shown where
signalling goes and what peers dial, and from then on whatever comes. -/
theorem addresses_follow_the_probes (cookie : UInt32) (version : UInt8)
    (operations : List Operation) :
    let start := Session.fresh cookie version
    let s := (start.run operations).session
    let probes := start.accepted operations
    s.gameName = probes.head?.map (·.request.gameName) ∧
      ∀ index,
        let own := probesOf index probes
        ((∃ c, s.client? index = some c) ↔ own ≠ []) ∧
        (∀ c, s.client? index = some c →
          c.negotiateAddress = (last? ShowsSignalling own).map (·.source) ∧
          c.serverAddress = (last? ShowsGame own).map (·.source) ∧
          c.localAddress = (last? ShowsLocal own).map (·.request.localEndpoint)) ∧
        (s.HasMapped index ↔ (∃ q ∈ own, q.ShowsSignalling) ∧ ∃ q ∈ own, q.ShowsGame) ∧
        (s.HasMapped index →
          ∀ later, (start.run (operations ++ later)).session.HasMapped index) := by
  intro start s probes
  have htaught : s.Taught probes := taught_run cookie version operations
  have hindexed : s.Indexed := indexed_stable.run (indexed_fresh cookie version) operations
  refine ⟨htaught.game, fun index => ⟨htaught.registered index, fun c hc => ?_,
    htaught.hasMapped_iff, fun hmapped later => ?_⟩⟩
  · have hlearned := htaught.learned hc
    exact ⟨hlearned.negotiate, hlearned.server, hlearned.own⟩
  · -- Later probes come after the earlier ones, so what has been shown stays shown.
    have hlater := htaught.extend hindexed later
    rw [← run_append] at hlater
    have hgrows {q : Probe} (hq : q ∈ probesOf index probes) :
        q ∈ probesOf index (probes ++ s.accepted later) := by
      rw [probesOf, List.filter_append]
      exact List.mem_append_left _ hq
    obtain ⟨⟨q, hq, hsignalling⟩, r, hr, hgame⟩ := htaught.hasMapped_iff.1 hmapped
    exact hlater.hasMapped_iff.2 ⟨⟨q, hgrows hq, hsignalling⟩, r, hgrows hr, hgame⟩

end Session

/-! ### A client with two sockets -/

/-- Where everybody sends from whose address ends in `host`. -/
def hostOf (host : UInt8) : SocketAddress :=
  .v4 ⟨⟨192, 0, 2, host⟩, 27900⟩

/-- A probe for a game of one letter that also shows an address of the client's own network. -/
def Packet.probeFor (letter : UInt8) (port : PortType) (index host : UInt8) : Packet where
  header := .forCommand 3 .initRequest 7
  payload := [port.code, index, 1, 10, 0, 0, host, 0, 80, letter, 0]
  source := hostOf host

namespace Session

/-- A client probes from both of its sockets, and again from one of them after it has moved, with
another name for the game. In between, a stranger who plays another game is turned away, and a
report comes for it. -/
theorem addresses_follow_the_probes_of_one :
    let operations := ([.probeFor 103 .probe1 1 10, .probeFor 104 .gamePort 2 20,
      .probeFor 103 .gamePort 1 11, .reportOf 2, .probeFor 104 .probe1 1 12, .replyOf 1].map
        Operation.packet)
    let start := Session.fresh 7 3
    let s := (start.run operations).session
    (start.accepted operations).map (·.source) = [10, 11, 12].map hostOf ∧
      s.gameName = some "g" ∧ (¬∃ c, s.client? 2 = some c) ∧
      (∃ c, s.client? 1 = some c ∧ c.negotiateAddress = some (hostOf 12) ∧
        c.serverAddress = some (hostOf 11) ∧ c.localAddress = some ⟨⟨10, 0, 0, 12⟩, 80⟩) ∧
      ∀ later, (start.run (operations ++ later)).session.HasMapped 1 := by
  intro operations start s
  obtain ⟨hgame, hclients⟩ := addresses_follow_the_probes 7 3 operations
  obtain ⟨hregistered, haddresses, hmapped, hstays⟩ := hclients 1
  obtain ⟨c, hc⟩ := hregistered.2 (by decide)
  obtain ⟨hnegotiate, hserver, hown⟩ := haddresses c hc
  exact ⟨by decide, hgame, fun hstranger => absurd ((hclients 2).1.1 hstranger) (by decide),
    ⟨c, hc, hnegotiate, hserver, hown⟩, hstays (hmapped.2 (by decide))⟩

end Session

end Rendezvous
