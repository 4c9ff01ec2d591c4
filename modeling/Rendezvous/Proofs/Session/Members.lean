import Rendezvous.Proofs.Session.Meetings

/-!
The members of a session. Indices, names and addresses come from the network, and only a new client
is asked for its game. Still all clients of a session carry its cookie and play one game, which is
the session's, and whomever a client aims at or counts as connected is another client of the
session that is mapped. Retries and expiries rely on that: they look up what clients refer to.
-/
namespace Rendezvous.Session

variable {s : Session} {issued : List Edge}

/-- There is a client with this index, and it is mapped. -/
def HasMapped (s : Session) (index : UInt8) : Prop :=
  ∃ c, s.client? index = some c ∧ c.isMapped

/-! ### One cookie and one game -/

/-- The clients carry the cookie of the session and play its game, which has a name as soon as there
is a client. -/
structure United (s : Session) : Prop where
  members : s.EachClient fun _ c => c.cookie = s.cookie ∧ s.gameName = some c.gameName
  unnamed : (∀ index, s.client? index = none) → s.gameName = none

namespace United

theorem fresh (cookie : UInt32) (version : UInt8) : (Session.fresh cookie version).United where
  members := EachClient.fresh cookie version
  unnamed _ := rfl

/-- The client of an accepted probe names the game that the session has then. -/
theorem gameName_prober (h : s.United) {r : InitRequest} (hgame : s.checkGame r = .ok ()) :
    s.gameName.or (some r.gameName) = some (s.prober r).gameName := by
  unfold checkGame at hgame
  unfold prober
  cases hc : s.client? r.index with
  | some c =>
      rw [(h.members hc).2]
      rfl
  | none =>
      rw [hc] at hgame
      cases hname : s.gameName with
      | none => rfl
      | some established =>
          rw [hname] at hgame
          dsimp only at hgame
          split at hgame
          · next hsame =>
            subst hsame
            rfl
          · cases hgame

theorem register (h : s.United) {r : InitRequest} (hgame : s.checkGame r = .ok ())
    (source : SocketAddress) : (s.register r source).United where
  members := by
    have hcookie : (s.prober r).cookie = s.cookie :=
      EachClient.prober (P := fun _ c => c.cookie = s.cookie)
        (fun _ _ hc => (h.members hc).1) rfl
    intro index c hc
    rw [client?_register] at hc
    show c.cookie = s.cookie ∧ s.gameName.or (some r.gameName) = some c.gameName
    split at hc
    · obtain rfl := Option.some.inj hc
      exact ⟨hcookie, h.gameName_prober hgame⟩
    · obtain ⟨hold, hname⟩ := h.members hc
      refine ⟨hold, ?_⟩
      rw [hname]
      rfl
  unnamed hnone := by
    have hclient := hnone r.index
    rw [client?_register, if_pos rfl] at hclient
    cases hclient

theorem update (h : s.United) (index : UInt8) {change : Client → Client}
    (hcookie : ∀ c, (change c).cookie = c.cookie) (hname : ∀ c, (change c).gameName = c.gameName) :
    (s.update index change).United where
  members := EachClient.update h.members fun c _ hc => by
    rw [hcookie, hname]
    exact hc
  unnamed hnone := h.unnamed fun other => by
    have hclient := hnone other
    rwa [client?_update, Option.map_eq_none_iff] at hclient

theorem join (h : s.United) (edge : Edge) : (s.join edge).United := by
  have hfirst : (s.update edge.first (·.aimAt edge.second)).United :=
    h.update edge.first (fun _ => rfl) fun _ => rfl
  exact hfirst.update edge.second (fun _ => rfl) fun _ => rfl

end United

theorem united_stable : Stable fun s _ => s.United where
  register _ source hgame h := h.register hgame source
  acknowledge index h := h.update index (fun _ => rfl) fun _ => rfl
  rotate index h := h.update index (fun _ => rfl) fun _ => rfl
  join _ h := h.join _

/-! ### Whom a client refers to -/

/-- Both ends of a meeting are mapped. -/
theorem Accounted.hasMapped_of_met (h : s.Accounted issued) {index peer : UInt8}
    (hne : index ≠ peer) {c : Client} (hc : s.client? index = some c) (hmet : c.HasMet peer) :
    c.isMapped ∧ s.HasMapped peer :=
  ⟨(h.coherent hc).mapped hne.symm hmet, h.isMapped hne.symm (h.hasMet_symm hne ⟨c, hc, hmet⟩)⟩

/-- The client in the middle of an attempt is mapped, and so is the other client that it aims at,
which it does not count as connected yet. -/
theorem Accounted.of_busy (h : s.Accounted issued) {index : UInt8} {c : Client}
    (hc : s.client? index = some c) (hbusy : ¬c.isIdle) :
    c.isMapped ∧ c.target ≠ index ∧ s.HasMapped c.target ∧ ¬c.hasConnectedTo c.target := by
  have hne : c.target ≠ index := by
    rw [Client.isIdle_iff, h.indexed hc] at hbusy
    exact hbusy
  obtain ⟨hmapped, hpeer⟩ := h.hasMapped_of_met hne.symm hc (.inl rfl)
  exact ⟨hmapped, hne, hpeer, (h.coherent hc).not_again⟩

theorem Accounted.of_connected (h : s.Accounted issued) {index peer : UInt8} {c : Client}
    (hc : s.client? index = some c) (hconnected : c.hasConnectedTo peer) :
    peer ≠ index ∧ s.HasMapped peer := by
  have hne : peer ≠ index := by
    rintro rfl
    exact (h.coherent hc).not_self hconnected
  exact ⟨hne, (h.hasMapped_of_met hne.symm hc (.inr hconnected)).2⟩

/-- In every state of every run, each client is kept under its own index, carries the cookie of the
session and plays the game of the session, which has a name exactly when there are clients. A client
in the middle of an attempt is mapped and aims at another mapped client that it has not connected
to; the peers that a client counts as connected are other mapped clients. -/
theorem every_client_is_well_formed (cookie : UInt32) (version : UInt8)
    (operations : List Operation) :
    let s := ((fresh cookie version).run operations).session
    s.cookie = cookie ∧
      (s.gameName = none ↔ ∀ index, s.client? index = none) ∧
      ∀ index c, s.client? index = some c →
        c.index = index ∧ c.cookie = cookie ∧ s.gameName = some c.gameName ∧
        (¬c.isIdle → c.isMapped ∧ c.target ≠ index ∧ s.HasMapped c.target ∧
          ¬c.hasConnectedTo c.target) ∧
        ∀ peer, c.hasConnectedTo peer → peer ≠ index ∧ s.HasMapped peer := by
  intro s
  have haccounted := accounted_run cookie version operations
  have hunited : s.United := united_stable.run (United.fresh cookie version) operations
  have hcookie : s.cookie = cookie :=
    ((identity_stable cookie version).run ⟨rfl, rfl⟩ operations).1
  refine ⟨hcookie, ⟨?_, hunited.unnamed⟩, ?_⟩
  · intro hnone index
    by_contra hsome
    obtain ⟨c, hc⟩ := Option.ne_none_iff_exists'.1 hsome
    have hnamed := (hunited.members hc).2
    rw [hnone] at hnamed
    cases hnamed
  · intro index c hc
    obtain ⟨hown, hnamed⟩ := hunited.members hc
    exact ⟨haccounted.indexed hc, hown.trans hcookie, hnamed, haccounted.of_busy hc,
      fun _ => haccounted.of_connected hc⟩

/-- A client that has connected to one of two others, and aims at the other one. -/
theorem every_client_is_well_formed_of_three :
    let s := ((fresh 7 3).run
      ([.probeOf 1, .probeOf 2, .probeOf 3, .reportOf 1].map .packet)).session
    ∃ c, s.client? 1 = some c ∧ ¬c.isIdle ∧ c.hasConnectedTo 2 ∧
      c.target ≠ 1 ∧ s.HasMapped c.target ∧ ¬c.hasConnectedTo c.target ∧ s.HasMapped 2 := by
  intro s
  have hc : s.client? 1 = some _ := (Option.some_get (by decide)).symm
  obtain ⟨-, -, hclients⟩ := every_client_is_well_formed 7 3
    ([.probeOf 1, .probeOf 2, .probeOf 3, .reportOf 1].map .packet)
  obtain ⟨-, -, -, hbusy, hconnected⟩ := hclients 1 _ hc
  obtain ⟨-, hother, htarget, hnew⟩ := hbusy (by decide)
  exact ⟨_, hc, by decide, by decide, hother, htarget, hnew, (hconnected 2 (by decide)).2⟩

end Rendezvous.Session
