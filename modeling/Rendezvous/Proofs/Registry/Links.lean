import Rendezvous.Proofs.Registry.Run
import Rendezvous.Proofs.Table

/-!
Open sessions. Closing a session and taking its link away are two things, and a cookie may be used
again in between or afterwards. Still the two never come apart: a session is open until its first
expiry, and as long as it is open it is the one that answers to its cookie. So a look-up never finds
a closed session, it opens one exactly when no open session has the cookie, and the links count the
open sessions. An expiry that comes late, or comes again, finds its own session closed and touches
no other.
-/
namespace Rendezvous.Registry

variable {r : Registry} {cookie : UInt32} {handle : Nat} {lease : Lease}

/-! ### As many links as open sessions -/

theorem size_opened (hnot : r.linked? cookie = none) (now : Nat) (version : UInt8) :
    (r.opened now cookie version).size = r.size + 1 := by
  refine Table.size_insert_of_not_contains ?_ _
  rw [Table.contains, Option.isSome_iff_exists]
  rintro ⟨linked, hlinked⟩
  exact absurd (hnot.symm.trans hlinked) (by simp)

theorem size_unlink (hlinked : r.linked? cookie = some handle) :
    (r.unlink cookie handle).size + 1 = r.size := by
  rw [unlink, if_pos hlinked]
  refine Table.size_erase_of_contains (t := r.links) ?_
  rw [Table.contains, Option.isSome_iff_exists]
  exact ⟨handle, hlinked⟩

theorem size_setSession (r : Registry) (handle : Nat) (session : Session) :
    (r.setSession handle session).size = r.size := by
  unfold setSession
  split
  · rfl
  · rfl

/-- A session that answers to its cookie when it expires does so no more. -/
theorem size_expire (hlease : r.lease? handle = some lease)
    (hlinked : r.linked? lease.session.cookie = some handle) :
    (r.expire handle).1.size + 1 = r.size := by
  rw [Registry.expire, hlease]
  exact size_unlink (r := r.setLease handle lease.close) hlinked

/-- A change of one lease counts for what it does to that lease. -/
theorem countP_setLease (hlease : r.lease? handle = some lease) (other : Lease) :
    (r.setLease handle other).leases.countP (·.isOpen) + (if lease.isOpen then 1 else 0) =
      r.leases.countP (·.isOpen) + if other.isOpen then 1 else 0 := by
  obtain ⟨hlt, rfl⟩ := List.getElem?_eq_some_iff.1 hlease
  have hpos : (if r.leases[handle].isOpen then 1 else 0) ≤ r.leases.countP (·.isOpen) := by
    split
    · next hopen => exact List.countP_pos_iff.2 ⟨_, List.getElem_mem hlt, hopen⟩
    · exact Nat.zero_le _
  rw [setLease, List.countP_set hlt]
  omega

/-- The sessions that answer to their cookies are as many as the open ones. -/
def Counted (r : Registry) : Prop :=
  r.size = r.leases.countP (·.isOpen)

theorem Counted.opened (h : r.Counted) (hnot : r.linked? cookie = none) (now : Nat)
    (version : UInt8) : (r.opened now cookie version).Counted := by
  rw [Counted, size_opened hnot, h, Registry.opened, List.countP_append]
  rfl

theorem Counted.setSession (h : r.Counted) (hlease : r.lease? handle = some lease)
    (session : Session) : (r.setSession handle session).Counted := by
  have hcount := countP_setLease hlease { lease with session := session }
  rw [Registry.setSession, hlease]
  exact h.trans (Nat.add_right_cancel hcount).symm

/-- An expiry closes a session that is open, and then takes a link away, or does neither. -/
theorem Counted.expire (h : r.Counted) (hsound : r.Sound) (hlease : r.lease? handle = some lease) :
    (r.expire handle).1.Counted := by
  have hcount := countP_setLease hlease lease.close
  have hlinked : r.linked? lease.session.cookie = some handle ↔ lease.isOpen := by
    rw [hsound]
    simp [hlease]
  rw [Registry.expire, hlease]
  show ((r.setLease handle lease.close).unlink lease.session.cookie handle).Counted
  have hleases : ((r.setLease handle lease.close).unlink lease.session.cookie handle).leases =
      (r.setLease handle lease.close).leases := by
    unfold unlink
    split
    · rfl
    · rfl
  rw [Counted, hleases]
  by_cases hopen : lease.isOpen
  · have hsize : ((r.setLease handle lease.close).unlink lease.session.cookie handle).size + 1 =
        r.size := size_unlink (r := r.setLease handle lease.close) (hlinked.2 hopen)
    rw [if_pos hopen] at hcount
    rw [h] at hsize
    simp only [Lease.close, Bool.false_eq_true, if_false] at hcount
    exact Nat.succ_injective (hsize.trans hcount.symm)
  · rw [unlink, linked?_setLease, if_neg (mt hlinked.1 hopen)]
    rw [if_neg hopen] at hcount
    simp only [Lease.close, Bool.false_eq_true, if_false] at hcount
    exact h.trans hcount.symm

/-! ### From the beginning -/

/-- What an operation keeps of the links: they are the open sessions, and as many. -/
theorem sound_counted_perform (hsound : r.Sound) (hcounted : r.Counted) (operation : Operation) :
    (r.perform operation).Sound ∧ (r.perform operation).Counted := by
  cases operation with
  | enter now cookie version =>
      rw [perform]
      cases hlinked : r.linked? cookie with
      | none =>
          rw [enter_of_not_linked hlinked]
          exact ⟨hsound.opened hlinked now version, hcounted.opened hlinked now version⟩
      | some linked =>
          rw [enter_of_linked hlinked]
          exact ⟨hsound, hcounted⟩
  | dispatch handle p =>
      rw [perform]
      split
      · exact ⟨hsound, hcounted⟩
      · next lease hlease =>
        exact ⟨hsound.setSession hlease (Session.cookie_handle _ p), hcounted.setSession hlease _⟩
  | expire handle =>
      rw [perform]
      cases hlease : r.lease? handle with
      | none => simpa [Registry.expire, hlease] using And.intro hsound hcounted
      | some lease => exact ⟨hsound.expire hlease, hcounted.expire hsound hlease⟩

theorem after_append (r : Registry) (operations later : List Operation) :
    r.after (operations ++ later) = (r.after operations).after later :=
  List.foldl_append

theorem sound_counted_after (operations : List Operation) :
    (empty.after operations).Sound ∧ (empty.after operations).Counted := by
  induction operations using List.reverseRecOn with
  | nil => exact ⟨sound_empty, rfl⟩
  | append_singleton earlier operation ih =>
      rw [after_append]
      exact sound_counted_perform ih.1 ih.2 operation

/-- The session of a handle has expired: an expiry came when the handle had been given. -/
def HasExpired (operations : List Operation) (handle : Nat) : Prop :=
  ∃ earlier later, operations = earlier ++ .expire handle :: later ∧
    (empty.after earlier).lease? handle ≠ none

/-- The look-up that gave a handle opened the session for its cookie, with its version. -/
def OpenedBy (operations : List Operation) (handle : Nat) (cookie : UInt32) (version : UInt8) :
    Prop :=
  ∃ earlier now later, operations = earlier ++ .enter now cookie version :: later ∧
    (empty.after earlier).lease? handle = none ∧
    ((empty.after earlier).enter now cookie version).handle = handle ∧
    ((empty.after earlier).enter now cookie version).created

theorem hasExpired_append_singleton {operations : List Operation} {operation : Operation} :
    HasExpired (operations ++ [operation]) handle ↔
      HasExpired operations handle ∨
        operation = .expire handle ∧ (empty.after operations).lease? handle ≠ none := by
  constructor
  · rintro ⟨earlier, later, heq, hknown⟩
    rcases List.eq_nil_or_concat later with rfl | ⟨rest, last, rfl⟩
    · obtain ⟨rfl, hlast⟩ := List.append_inj' heq rfl
      exact .inr ⟨List.head_eq_of_cons_eq hlast, hknown⟩
    · rw [List.concat_eq_append, ← List.cons_append, ← List.append_assoc] at heq
      exact .inl ⟨earlier, rest, (List.append_inj' heq rfl).1, hknown⟩
  · rintro (⟨earlier, later, rfl, hknown⟩ | ⟨rfl, hknown⟩)
    · exact ⟨earlier, later ++ [operation], by simp, hknown⟩
    · exact ⟨operations, [], rfl, hknown⟩

theorem OpenedBy.append {operations : List Operation} {version : UInt8}
    (h : OpenedBy operations handle cookie version) (more : List Operation) :
    OpenedBy (operations ++ more) handle cookie version := by
  obtain ⟨earlier, now, later, rfl, hopened⟩ := h
  exact ⟨earlier, now, later ++ more, by simp, hopened⟩

/-- A look-up finds an open session with the cookie, or opens one. -/
theorem Sound.lease?_enter (h : r.Sound) (now : Nat) (cookie : UInt32) (version : UInt8) :
    ∃ lease, (r.enter now cookie version).registry.lease? (r.enter now cookie version).handle =
      some lease ∧ lease.isOpen ∧ lease.session.cookie = cookie := by
  cases hlinked : r.linked? cookie with
  | none =>
      rw [enter_of_not_linked hlinked]
      exact ⟨_, r.lease?_opened_self now cookie version, rfl, rfl⟩
  | some handle =>
      rw [enter_of_linked hlinked]
      exact (h cookie handle).1 hlinked

theorem Sound.created_enter_iff (h : r.Sound) (now : Nat) (cookie : UInt32) (version : UInt8) :
    (r.enter now cookie version).created ↔ ¬∃ handle lease, r.lease? handle = some lease ∧
      lease.isOpen ∧ lease.session.cookie = cookie := by
  cases hlinked : r.linked? cookie with
  | none =>
      rw [enter_of_not_linked hlinked]
      refine iff_of_true rfl ?_
      rintro ⟨handle, hfound⟩
      rw [(h cookie handle).2 hfound] at hlinked
      cases hlinked
  | some handle =>
      rw [enter_of_linked hlinked]
      exact iff_of_false Bool.false_ne_true (not_not_intro ⟨handle, (h cookie handle).1 hlinked⟩)

/-- What a look-up has returned stays in the registry. -/
theorem lease?_of_entered (earlier later : List Operation) (now : Nat) (cookie : UInt32)
    (version : UInt8) :
    (empty.after (earlier ++ .enter now cookie version :: later)).lease?
      ((empty.after earlier).enter now cookie version).handle ≠ none := by
  obtain ⟨lease, hlease, -⟩ := (sound_counted_after earlier).1.lease?_enter now cookie version
  obtain ⟨final, hfinal, -⟩ := stable_after (Session.identity_stable lease.session.cookie
    lease.session.version) hlease [] ⟨rfl, rfl⟩ later
  have hsplit : empty.after (earlier ++ .enter now cookie version :: later) =
      ((empty.after earlier).enter now cookie version).registry.after later := by
    rw [after_append]
    rfl
  rw [hsplit, hfinal]
  exact Option.some_ne_none final

/-- What the past of a session says about it. -/
theorem past_of_lease? (operations : List Operation)
    (hlease : (empty.after operations).lease? handle = some lease) :
    (lease.isOpen ↔ ¬HasExpired operations handle) ∧
      OpenedBy operations handle lease.session.cookie lease.session.version := by
  induction operations using List.reverseRecOn generalizing lease with
  | nil => simp [after, empty, lease?] at hlease
  | append_singleton earlier operation ih =>
      rw [after_append] at hlease
      change ((empty.after earlier).perform operation).lease? handle = some lease at hlease
      rw [hasExpired_append_singleton]
      cases hbefore : (empty.after earlier).lease? handle with
      | none =>
          obtain ⟨now, cookie, version, rfl, hlinked, hnew, rfl⟩ :=
            eq_opened_of_new_handle hbefore hlease
          have hnot : ¬HasExpired earlier handle := by
            rintro ⟨first, rest, rfl, hknown⟩
            obtain ⟨old, hold⟩ := Option.ne_none_iff_exists'.1 hknown
            obtain ⟨final, hfinal, -⟩ := stable_after (Session.identity_stable old.session.cookie
              old.session.version) hold [] ⟨rfl, rfl⟩ (.expire handle :: rest)
            rw [after_append, hfinal] at hbefore
            cases hbefore
          refine ⟨by simp [hnot], earlier, now, [], rfl, hbefore, ?_⟩
          rw [Session.fresh, enter_of_not_linked hlinked]
          exact ⟨hnew.symm, rfl⟩
      | some old =>
          obtain ⟨next, hnext, hopened, hstep⟩ := lease?_perform hbefore operation
          obtain rfl := Option.some.inj (hlease.symm.trans hnext)
          obtain ⟨hopen, hby⟩ := ih hbefore
          have hsame : lease.session.cookie = old.session.cookie ∧
              lease.session.version = old.session.version := by
            rcases hstep with ⟨hsession, -⟩ | ⟨p, -, hsession, -⟩
            · rw [hsession]
              exact ⟨rfl, rfl⟩
            · rw [hsession]
              exact ⟨Session.cookie_handle _ p, Session.version_handle _ p⟩
          rw [hopened, hopen, hsame.1, hsame.2]
          exact ⟨by simp, hby.append [operation]⟩

/-- After any operations on a registry, every session that a look-up has returned is still there. It
is open exactly as long as no expiry of it has come, which is exactly as long as it answers to its
cookie, and it has the cookie and the version of the look-up that opened it; the registry is as
large as it has open sessions. The next look-up finds an open session or opens one, and it opens one
exactly when there is none with the cookie. The next expiry changes no other session and takes no
other session's link away. -/
theorem open_sessions_are_the_linked_ones (operations : List Operation) :
    let r := empty.after operations
    (∀ earlier now cookie version later,
      operations = earlier ++ .enter now cookie version :: later →
      r.lease? ((empty.after earlier).enter now cookie version).handle ≠ none) ∧
    (∀ handle lease, r.lease? handle = some lease →
      (lease.isOpen ↔ ¬HasExpired operations handle) ∧
      (lease.isOpen ↔ r.linked? lease.session.cookie = some handle) ∧
      OpenedBy operations handle lease.session.cookie lease.session.version) ∧
    r.size = r.leases.countP (·.isOpen) ∧
    (∀ cookie handle, r.linked? cookie = some handle →
      ∃ lease, r.lease? handle = some lease ∧ lease.isOpen ∧ lease.session.cookie = cookie) ∧
    (∀ now cookie version,
      let entrance := r.enter now cookie version
      (∃ lease, entrance.registry.lease? entrance.handle = some lease ∧ lease.isOpen ∧
        lease.session.cookie = cookie) ∧
      (entrance.created ↔ ¬∃ handle lease, r.lease? handle = some lease ∧ lease.isOpen ∧
        lease.session.cookie = cookie)) ∧
    ∀ expired handle, handle ≠ expired →
      (r.expire expired).1.lease? handle = r.lease? handle ∧
      ∀ cookie, (r.expire expired).1.linked? cookie = some handle ↔
        r.linked? cookie = some handle := by
  intro r
  obtain ⟨hsound, hcounted⟩ : r.Sound ∧ r.Counted := sound_counted_after operations
  refine ⟨?_, fun handle lease hlease => ?_, hcounted,
    fun cookie handle => (hsound cookie handle).1,
    fun now cookie version => ⟨hsound.lease?_enter now cookie version,
      hsound.created_enter_iff now cookie version⟩,
    fun expired handle hne => ⟨?_, fun cookie => ?_⟩⟩
  · rintro earlier now cookie version later heq
    show (empty.after operations).lease? _ ≠ none
    rw [heq]
    exact lease?_of_entered earlier later now cookie version
  · obtain ⟨hopen, hby⟩ := past_of_lease? operations hlease
    refine ⟨hopen, ?_, hby⟩
    rw [hsound]
    simp [hlease]
  · rw [lease?_expire]
    simp [hne]
  · cases hlease : r.lease? expired with
    | none => simp [Registry.expire, hlease]
    | some lease =>
        rw [linked?_expire hlease]
        split
        · next hgone => simp [hgone.2, Ne.symm hne]
        · rfl

/-- A cookie is used again after its first session has expired, and the first expiry comes once
more: the second session has the version of its own look-up, stays open and has the cookie. -/
theorem open_sessions_are_the_linked_ones_of_reopened :
    let operations : List Operation :=
      [.enter 0 7 3, .dispatch 0 (.probeOf 1), .expire 0, .enter 30000 7 2, .expire 0]
    let r := empty.after operations
    ∃ lease, r.lease? 1 = some lease ∧ lease.session.version = 2 ∧
      ¬HasExpired operations 1 ∧ lease.isOpen ∧ r.linked? 7 = some 1 ∧ r.size = 1 := by
  intro operations r
  obtain ⟨-, hsessions, -⟩ := open_sessions_are_the_linked_ones operations
  have hlease : r.lease? 1 = some _ := (Option.some_get (by decide)).symm
  obtain ⟨hexpired, hlinked, -⟩ := hsessions 1 _ hlease
  have hopen := hlinked.2 (by decide)
  exact ⟨_, hlease, by decide, hexpired.1 hopen, hopen, by decide, by decide⟩

end Rendezvous.Registry
