import Rendezvous.Proofs.Registry
import Rendezvous.Proofs.Session.Meetings

/-!
Runs of a registry. Handlers look a session up and hand a packet to the session that they found;
these are two operations, and any others may come between them. Timers let sessions expire. Whatever
the order is, a session that was opened stays where it is, a closed one stays closed, and all that
changes the state of a session is the packets that are handed to it.
-/
namespace Rendezvous.Registry

variable {r : Registry} {handle : Nat} {lease : Lease}

inductive Operation
  /-- A handler looks up the session of a cookie, or opens it. -/
  | enter (now : Nat) (cookie : UInt32) (version : UInt8)
  /-- A handler hands a packet to the session of a handle, open or not. -/
  | dispatch (handle : Nat) (p : Packet)
  | expire (handle : Nat)
  deriving DecidableEq

def perform (r : Registry) : Operation → Registry
  | .enter now cookie version => (r.enter now cookie version).registry
  | .dispatch handle p =>
    match r.lease? handle with
    | none => r
    | some lease => r.setSession handle (lease.session.handle p).session
  | .expire handle => (r.expire handle).1

def after (r : Registry) (operations : List Operation) : Registry :=
  operations.foldl perform r

/-- The edges that an operation brings about in the session of a handle. -/
def edgesOf (r : Registry) (handle : Nat) : Operation → List Edge
  | .dispatch other p =>
    match r.lease? handle with
    | none => []
    | some lease => if other = handle then (lease.session.handle p).edges else []
  | .enter _ _ _ | .expire _ => []

/-- The edges that a run brings about in the session of a handle. -/
def issuedTo (r : Registry) (handle : Nat) : List Operation → List Edge
  | [] => []
  | operation :: rest => r.edgesOf handle operation ++ (r.perform operation).issuedTo handle rest

theorem issuedTo_append (r : Registry) (handle : Nat) (operations later : List Operation) :
    r.issuedTo handle (operations ++ later) =
      r.issuedTo handle operations ++ (r.after operations).issuedTo handle later := by
  induction operations generalizing r with
  | nil => rfl
  | cons operation rest ih =>
      rw [List.cons_append, issuedTo, ih, issuedTo, List.append_assoc]
      rfl

/-! ### What an operation does to one session -/

/-- A session is left alone, or handles a packet; its own expiry closes it, and nothing else does,
nor is it opened again. -/
theorem lease?_perform (hlease : r.lease? handle = some lease) (operation : Operation) :
    ∃ next, (r.perform operation).lease? handle = some next ∧
      (next.isOpen ↔ lease.isOpen ∧ operation ≠ .expire handle) ∧
      (next.session = lease.session ∧ r.edgesOf handle operation = [] ∨
        ∃ p, operation = .dispatch handle p ∧
          next.session = (lease.session.handle p).session ∧
          r.edgesOf handle operation = (lease.session.handle p).edges) := by
  cases operation with
  | enter now cookie version =>
      refine ⟨lease, ?_, by simp, .inl ⟨rfl, rfl⟩⟩
      rw [perform]
      cases hlinked : r.linked? cookie with
      | none =>
          rw [enter_of_not_linked hlinked, lease?_opened, if_neg (lt_length_of_lease? hlease).ne]
          exact hlease
      | some other =>
          rw [enter_of_linked hlinked]
          exact hlease
  | dispatch other p =>
      by_cases hother : other = handle
      · subst hother
        refine ⟨{ lease with session := (lease.session.handle p).session }, ?_, by simp,
          .inr ⟨p, rfl, rfl, ?_⟩⟩
        · simp [perform, hlease, lease?_setSession]
        · simp [edgesOf, hlease]
      · refine ⟨lease, ?_, by simp, .inl ⟨rfl, by simp [edgesOf, hlease, hother]⟩⟩
        rw [perform]
        split
        · exact hlease
        · rw [lease?_setSession, hlease, Option.map_some, if_neg (Ne.symm hother)]
  | expire other =>
      by_cases hother : other = handle
      · subst hother
        refine ⟨lease.close, ?_, by simp [Lease.close], .inl ⟨rfl, rfl⟩⟩
        rw [perform, lease?_expire, hlease, Option.map_some, if_pos rfl]
      · refine ⟨lease, ?_, by simp [hother], .inl ⟨rfl, rfl⟩⟩
        rw [perform, lease?_expire, hlease, Option.map_some, if_neg (Ne.symm hother)]

/-- A handle that is new belongs to a session that has just been opened. -/
theorem eq_opened_of_new_handle (hlease : r.lease? handle = none) {operation : Operation}
    {next : Lease} (hnext : (r.perform operation).lease? handle = some next) :
    ∃ now cookie version, operation = .enter now cookie version ∧ r.linked? cookie = none ∧
      handle = r.leases.length ∧ next = ⟨.fresh cookie version, true, now⟩ := by
  cases operation with
  | enter now cookie version =>
      rw [perform] at hnext
      cases hlinked : r.linked? cookie with
      | none =>
          rw [enter_of_not_linked hlinked, lease?_opened, hlease] at hnext
          split at hnext
          · next hnew =>
            exact ⟨now, cookie, version, rfl, hlinked, hnew, (Option.some.inj hnext).symm⟩
          · cases hnext
      | some other =>
          rw [enter_of_linked hlinked, hlease] at hnext
          cases hnext
  | dispatch other p =>
      rw [perform] at hnext
      split at hnext
      · rw [hlease] at hnext
        cases hnext
      · rw [lease?_setSession, hlease] at hnext
        cases hnext
  | expire other =>
      rw [perform, lease?_expire, hlease] at hnext
      cases hnext

/-- What the four changes of a session keep holds of the session of a handle along every run, with
the edges that the run brings about in it. -/
theorem stable_after {P : Session → List Edge → Prop} (h : Session.Stable P)
    (hlease : r.lease? handle = some lease) (issued : List Edge) (hP : P lease.session issued)
    (operations : List Operation) :
    ∃ final, (r.after operations).lease? handle = some final ∧
      (¬lease.isOpen → ¬final.isOpen) ∧
      P final.session (issued ++ r.issuedTo handle operations) := by
  induction operations generalizing r lease issued with
  | nil => exact ⟨lease, hlease, id, by simpa [issuedTo] using hP⟩
  | cons operation rest ih =>
      obtain ⟨next, hnext, hopened, hstep⟩ := lease?_perform hlease operation
      have hP' : P next.session (issued ++ r.edgesOf handle operation) := by
        rcases hstep with ⟨hsession, hedges⟩ | ⟨p, -, hsession, hedges⟩
        · rw [hsession, hedges, List.append_nil]
          exact hP
        · rw [hsession, hedges]
          exact h.handle p hP
      obtain ⟨final, hfinal, hclosed, hP''⟩ := ih hnext _ hP'
      rw [List.append_assoc] at hP''
      exact ⟨final, hfinal, fun hnot => hclosed fun hopen => hnot (hopened.1 hopen).1, hP''⟩

/-- An edge is brought about by a packet, in the state that the run has reached by then. -/
theorem exists_dispatch_of_mem_issuedTo (hlease : r.lease? handle = some lease)
    {operations : List Operation} {e : Edge} (he : e ∈ r.issuedTo handle operations) :
    ∃ before p found next, before ++ [.dispatch handle p] <+: operations ∧
      (r.after before).lease? handle = some found ∧ e ∈ (found.session.handle p).edges ∧
      (r.after (before ++ [.dispatch handle p])).lease? handle = some next ∧
      next.session = (found.session.handle p).session := by
  induction operations generalizing r lease with
  | nil => cases he
  | cons operation rest ih =>
      obtain ⟨next, hnext, -, hstep⟩ := lease?_perform hlease operation
      rcases List.mem_append.1 he with hnow | hlater
      · rcases hstep with ⟨-, hedges⟩ | ⟨p, rfl, hsession, hedges⟩
        · rw [hedges] at hnow
          cases hnow
        · rw [hedges] at hnow
          exact ⟨[], p, lease, next, ⟨rest, rfl⟩, hlease, hnow, hnext, hsession⟩
      · obtain ⟨before, p, found, last, hprefix, hfound, hmem, hlast, hsession⟩ := ih hnext hlater
        exact ⟨operation :: before, p, found, last,
          (List.prefix_cons_inj operation).2 hprefix, hfound, hmem, hlast, hsession⟩

/-! ### From the beginning -/

/-- The state of every session comes about by the four changes of sessions. -/
def Reachable (r : Registry) : Prop :=
  ∀ ⦃handle lease⦄, r.lease? handle = some lease → ∃ issued, lease.session.Accounted issued

theorem Reachable.perform (h : r.Reachable) (operation : Operation) :
    (r.perform operation).Reachable := by
  intro handle next hnext
  cases hlease : r.lease? handle with
  | some lease =>
      obtain ⟨next', hnext', -, hstep⟩ := lease?_perform hlease operation
      obtain rfl := Option.some.inj (hnext.symm.trans hnext')
      obtain ⟨issued, hissued⟩ := h hlease
      rcases hstep with ⟨hsession, -⟩ | ⟨p, -, hsession, -⟩
      · rw [hsession]
        exact ⟨issued, hissued⟩
      · rw [hsession]
        exact ⟨_, Session.accounted_stable.handle p hissued⟩
  | none =>
      obtain ⟨now, cookie, version, -, -, -, rfl⟩ := eq_opened_of_new_handle hlease hnext
      exact ⟨[], .start cookie version⟩

theorem reachable_after (operations : List Operation) : (empty.after operations).Reachable := by
  suffices H : ∀ r : Registry, r.Reachable → (r.after operations).Reachable by
    refine H empty ?_
    intro handle lease hlease
    simp [empty, lease?] at hlease
  induction operations with
  | nil => exact fun _ h => h
  | cons operation rest ih => exact fun r h => ih (r.perform operation) (h.perform operation)

end Rendezvous.Registry
