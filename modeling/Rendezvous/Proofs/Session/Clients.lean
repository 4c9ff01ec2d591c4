import Rendezvous.Proofs.Client
import Rendezvous.Proofs.Session.Run

/-!
What the four changes of a session do to each of its clients, and properties that every client of
a session has. A property of clients survives a change of the session once it survives the change
of the one or two clients that are touched.
-/
namespace Rendezvous.Session

variable {s : Session}

@[simp] theorem client?_fresh (cookie : UInt32) (version : UInt8) (index : UInt8) :
    (fresh cookie version).client? index = none := rfl

@[simp] theorem client?_register (s : Session) (r : InitRequest) (source : SocketAddress)
    (index : UInt8) :
    (s.register r source).client? index =
      if r.index = index then some ((s.prober r).learn r source) else s.client? index :=
  Table.get?_insert s.clients r.index _ index

@[simp] theorem client?_acknowledge (s : Session) (index other : UInt8) :
    (s.acknowledge index).client? other =
      (s.client? other).map fun c => if other = index then c.acknowledge else c :=
  client?_update s index _ other

@[simp] theorem client?_rotate (s : Session) (index other : UInt8) :
    (s.rotate index).client? other =
      (s.client? other).map fun c => if other = index then c.finish else c :=
  client?_update s index _ other

/-- The ends of an edge differ wherever one comes into being, so neither change undoes the
other. -/
theorem client?_join (s : Session) {first second : UInt8} (h : first ≠ second) (index : UInt8) :
    (s.join ⟨first, second⟩).client? index =
      (s.client? index).map fun c =>
        if index = first then c.aimAt second
        else if index = second then c.aimAt first
        else c := by
  simp only [join, client?_update, Option.map_map]
  congr 1
  funext c
  by_cases hfirst : index = first
  · subst hfirst
    simp [h]
  · simp [hfirst]

theorem mem_keys_iff {index : UInt8} : index ∈ s.clients.keys ↔ ∃ c, s.client? index = some c :=
  Table.mem_keys_iff

/-! ### Properties of every client -/

def EachClient (s : Session) (P : UInt8 → Client → Prop) : Prop :=
  ∀ ⦃index c⦄, s.client? index = some c → P index c

namespace EachClient

variable {P : UInt8 → Client → Prop}

theorem fresh (cookie : UInt32) (version : UInt8) :
    (Session.fresh cookie version).EachClient P := by
  intro index c h
  cases h

theorem register (h : s.EachClient P) {r : InitRequest} {source : SocketAddress}
    (hprober : P r.index ((s.prober r).learn r source)) :
    (s.register r source).EachClient P := by
  intro index c hc
  rw [client?_register] at hc
  split at hc
  · next hindex =>
    obtain rfl := Option.some.inj hc
    exact hindex ▸ hprober
  · exact h hc

/-- The client that sends a probe was there, or is new. -/
theorem prober (h : s.EachClient P) {r : InitRequest}
    (hnew : P r.index (.fresh s.cookie r.index r.gameName)) : P r.index (s.prober r) := by
  unfold Session.prober
  cases hc : s.client? r.index with
  | none => exact hnew
  | some c => exact h hc

theorem update (h : s.EachClient P) {index : UInt8} {change : Client → Client}
    (hchange : ∀ c, s.client? index = some c → P index c → P index (change c)) :
    (s.update index change).EachClient P := by
  intro other c hc
  rw [client?_update] at hc
  obtain ⟨old, hold, rfl⟩ := Option.map_eq_some_iff.1 hc
  split
  · next hother =>
    subst hother
    exact hchange old hold (h hold)
  · exact h hold

/-- Only the two ends of an edge are touched when they are joined. -/
theorem join (h : s.EachClient P) {first second : UInt8} (hne : first ≠ second)
    (hfirst : ∀ c, s.client? first = some c → P first (c.aimAt second))
    (hsecond : ∀ c, s.client? second = some c → P second (c.aimAt first)) :
    (s.join ⟨first, second⟩).EachClient P := by
  intro index c hc
  rw [client?_join s hne] at hc
  obtain ⟨old, hold, rfl⟩ := Option.map_eq_some_iff.1 hc
  split
  · next hindex =>
    subst hindex
    exact hfirst old hold
  · split
    · next hindex =>
      subst hindex
      exact hsecond old hold
    · exact h hold

end EachClient

/-! ### Clients under their own indices -/

/-- Every client is kept under the index that it has chosen. -/
def Indexed (s : Session) : Prop :=
  s.EachClient fun index c => c.index = index

theorem indexed_fresh (cookie : UInt32) (version : UInt8) : (fresh cookie version).Indexed :=
  EachClient.fresh cookie version

theorem Indexed.register (h : s.Indexed) (r : InitRequest) (source : SocketAddress) :
    (s.register r source).Indexed :=
  EachClient.register h (EachClient.prober h rfl)

theorem Indexed.acknowledge (h : s.Indexed) (index : UInt8) : (s.acknowledge index).Indexed :=
  EachClient.update h fun _ _ hindex => hindex

theorem Indexed.rotate (h : s.Indexed) (index : UInt8) : (s.rotate index).Indexed :=
  EachClient.update h fun _ _ hindex => hindex

theorem Indexed.join (h : s.Indexed) (edge : Edge) : (s.join edge).Indexed := by
  have hfirst : (s.update edge.first (·.aimAt edge.second)).Indexed :=
    EachClient.update h fun _ _ hindex => hindex
  exact EachClient.update hfirst fun _ _ hindex => hindex

theorem indexed_stable : Stable fun s _ => s.Indexed where
  register r source _ h := h.register r source
  acknowledge index h := h.acknowledge index
  rotate index h := h.rotate index
  join _ h := h.join _

theorem Indexed.handle (h : s.Indexed) (p : Packet) : (s.handle p).session.Indexed :=
  @Stable.handle _ s [] indexed_stable p h

end Rendezvous.Session
