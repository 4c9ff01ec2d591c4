import Rendezvous.Client

/-!
What each change of a client does to what others see of it: whether it is mapped, idle or
available, and which peers it has met. A client has met a peer once an attempt with that peer
began; the attempt may still go on, or have been reported. No change but a new attempt adds to
the peers that a client has met, and none takes from them.
-/
namespace Rendezvous.Client

variable {c : Client}

theorem isIdle_iff : c.isIdle ↔ c.target = c.index := by
  simp [isIdle]

theorem isAvailable_iff : c.isAvailable ↔ c.isIdle ∧ c.isMapped := by
  simp [isAvailable]

/-! ### Addresses -/

/-- Where a client can be reached, by the server and by its peers. -/
def addresses (c : Client) : Option SocketAddress × Option Endpoint × Option SocketAddress :=
  (c.negotiateAddress, c.localAddress, c.serverAddress)

@[simp] theorem addresses_acknowledge (c : Client) : c.acknowledge.addresses = c.addresses := rfl

@[simp] theorem addresses_finish (c : Client) : c.finish.addresses = c.addresses := rfl

@[simp] theorem addresses_aimAt (c : Client) (peer : UInt8) :
    (c.aimAt peer).addresses = c.addresses := rfl

/-! ### Probes -/

theorem isMapped_learn (r : InitRequest) (source : SocketAddress) (h : c.isMapped) :
    (c.learn r source).isMapped := by
  simp only [isMapped, learn, Bool.and_eq_true] at h ⊢
  refine ⟨?_, ?_⟩
  · split
    · exact h.1
    · rfl
  · split
    · rfl
    · exact h.2

@[simp] theorem hasConnectedTo_fresh (cookie : UInt32) (index : UInt8) (gameName : String)
    (peer : UInt8) : (fresh cookie index gameName).hasConnectedTo peer = false := rfl

/-! ### Acknowledgements -/

@[simp] theorem isMapped_acknowledge (c : Client) : c.acknowledge.isMapped = c.isMapped := rfl

/-! ### Attempts -/

@[simp] theorem isMapped_aimAt (c : Client) (peer : UInt8) :
    (c.aimAt peer).isMapped = c.isMapped := rfl

@[simp] theorem index_aimAt (c : Client) (peer : UInt8) : (c.aimAt peer).index = c.index := rfl

@[simp] theorem target_aimAt (c : Client) (peer : UInt8) : (c.aimAt peer).target = peer := rfl

@[simp] theorem hasConnectedTo_aimAt (c : Client) (peer other : UInt8) :
    (c.aimAt peer).hasConnectedTo other = c.hasConnectedTo other := rfl

theorem not_isAvailable_aimAt {peer : UInt8} (h : peer ≠ c.index) :
    ¬(c.aimAt peer).isAvailable := by
  simp [isAvailable, isIdle, h]

@[simp] theorem isMapped_finish (c : Client) : c.finish.isMapped = c.isMapped := rfl

@[simp] theorem target_finish (c : Client) : c.finish.target = c.index := rfl

theorem connected_finish_of_idle (h : c.isIdle) : c.finish.connected = c.connected := by
  simp [finish, peer?, h]

theorem connected_finish_of_busy (h : ¬c.isIdle) :
    c.finish.connected = c.connected.insertIndex c.target := by
  simp [finish, peer?, h]

theorem hasConnectedTo_finish (c : Client) (peer : UInt8) :
    c.finish.hasConnectedTo peer ↔ (¬c.isIdle ∧ c.target = peer) ∨ c.hasConnectedTo peer := by
  by_cases h : c.isIdle
  · simp [hasConnectedTo, connected_finish_of_idle h, h]
  · simp [hasConnectedTo, connected_finish_of_busy h, IndexSet.contains_insertIndex, h]

/-! ### Peers met -/

/-- The peer is, or was, the peer of an attempt. -/
def HasMet (c : Client) (peer : UInt8) : Prop :=
  c.target = peer ∨ c.hasConnectedTo peer

theorem hasMet_fresh {cookie : UInt32} {index : UInt8} {gameName : String} {peer : UInt8} :
    (fresh cookie index gameName).HasMet peer ↔ index = peer := by
  simp [HasMet, fresh, hasConnectedTo, Table.contains]

@[simp] theorem hasMet_learn {r : InitRequest} {source : SocketAddress} {peer : UInt8} :
    (c.learn r source).HasMet peer ↔ c.HasMet peer := Iff.rfl

@[simp] theorem hasMet_acknowledge {peer : UInt8} : c.acknowledge.HasMet peer ↔ c.HasMet peer :=
  Iff.rfl

/-- The peer of the attempt moves into the set of connected peers. -/
theorem hasMet_finish {peer : UInt8} (h : peer ≠ c.index) : c.finish.HasMet peer ↔ c.HasMet peer := by
  simp only [HasMet, target_finish, hasConnectedTo_finish]
  constructor
  · rintro (heq | ⟨-, htarget⟩ | hconnected)
    · exact absurd heq.symm h
    · exact .inl htarget
    · exact .inr hconnected
  · rintro (htarget | hconnected)
    · have hbusy : ¬c.isIdle := by
        rw [isIdle_iff, htarget]
        exact h
      exact .inr (.inl ⟨hbusy, htarget⟩)
    · exact .inr (.inr hconnected)

/-- An idle client has nothing to lose by a new attempt. -/
theorem hasMet_aimAt {peer other : UInt8} (hidle : c.isIdle) (h : other ≠ c.index) :
    (c.aimAt peer).HasMet other ↔ other = peer ∨ c.HasMet other := by
  have htarget : c.target ≠ other := by
    rw [isIdle_iff.1 hidle]
    exact h.symm
  simp only [HasMet, target_aimAt, hasConnectedTo_aimAt]
  constructor
  · rintro (rfl | hconnected)
    · exact .inl rfl
    · exact .inr (.inr hconnected)
  · rintro (rfl | hother | hconnected)
    · exact .inl rfl
    · exact absurd hother htarget
    · exact .inr hconnected

/-! ### Coherence -/

/-- What every client of a session is like. In particular nobody aims at a peer that it already
counts as connected, and only mapped clients meet anyone. -/
structure Coherent (index : UInt8) (c : Client) : Prop where
  index_eq : c.index = index
  not_self : ¬c.hasConnectedTo index
  not_again : ¬c.hasConnectedTo c.target
  mapped : ∀ {peer}, peer ≠ index → c.HasMet peer → c.isMapped

namespace Coherent

variable {index : UInt8}

theorem fresh (cookie : UInt32) (index : UInt8) (gameName : String) :
    Coherent index (Client.fresh cookie index gameName) where
  index_eq := rfl
  not_self := by simp
  not_again := by simp
  mapped hpeer hmet := absurd (hasMet_fresh.1 hmet).symm hpeer

theorem learn (h : Coherent index c) (r : InitRequest) (source : SocketAddress) :
    Coherent index (c.learn r source) where
  index_eq := h.index_eq
  not_self := h.not_self
  not_again := h.not_again
  mapped hpeer hmet := isMapped_learn r source (h.mapped hpeer hmet)

theorem acknowledge (h : Coherent index c) : Coherent index c.acknowledge where
  index_eq := h.index_eq
  not_self := h.not_self
  not_again := h.not_again
  mapped hpeer hmet := h.mapped hpeer hmet

theorem finish (h : Coherent index c) : Coherent index c.finish := by
  have hself : ¬c.finish.hasConnectedTo index := by
    rw [hasConnectedTo_finish]
    rintro (⟨hbusy, htarget⟩ | hconnected)
    · exact hbusy (isIdle_iff.2 (htarget.trans h.index_eq.symm))
    · exact h.not_self hconnected
  refine ⟨h.index_eq, hself, ?_, ?_⟩
  · rw [target_finish, h.index_eq]
    exact hself
  · intro peer hpeer hmet
    refine h.mapped hpeer ((hasMet_finish ?_).1 hmet)
    rw [h.index_eq]
    exact hpeer

theorem aimAt (h : Coherent index c) {peer : UInt8} (hnew : ¬c.hasConnectedTo peer)
    (hmapped : c.isMapped) : Coherent index (c.aimAt peer) where
  index_eq := h.index_eq
  not_self := h.not_self
  not_again := hnew
  mapped _ _ := hmapped

end Coherent

end Rendezvous.Client
