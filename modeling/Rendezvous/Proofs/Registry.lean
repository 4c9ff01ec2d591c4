import Rendezvous.Proofs.Session.Run
import Rendezvous.Registry

/-!
What each change of a registry does to its leases and links: a session is opened, its state is
replaced, it expires. Handles are places of the list of leases, which only grows, so no handle is
ever given twice. At all times the links are the open sessions, each under its own cookie.
-/
namespace Rendezvous.Registry

variable {r : Registry} {cookie : UInt32} {handle : Nat}

/-! ### Opening a session -/

/-- The registry with one more session, which answers to its cookie. -/
def opened (r : Registry) (now : Nat) (cookie : UInt32) (version : UInt8) : Registry :=
  ⟨r.leases ++ [⟨.fresh cookie version, true, now⟩], r.links.insert cookie r.leases.length⟩

theorem enter_of_linked (h : r.linked? cookie = some handle) (now : Nat) (version : UInt8) :
    r.enter now cookie version = ⟨r, handle, false⟩ := by
  rw [enter, h]

theorem enter_of_not_linked (h : r.linked? cookie = none) (now : Nat) (version : UInt8) :
    r.enter now cookie version = ⟨r.opened now cookie version, r.leases.length, true⟩ := by
  rw [enter, h]
  rfl

theorem lease?_opened (r : Registry) (now : Nat) (cookie : UInt32) (version : UInt8)
    (other : Nat) :
    (r.opened now cookie version).lease? other =
      if other = r.leases.length then some ⟨.fresh cookie version, true, now⟩
      else r.lease? other := by
  simp only [opened, lease?]
  by_cases h : other = r.leases.length
  · simp [h]
  · rw [if_neg h]
    rcases Nat.lt_or_gt_of_ne h with hlt | hgt
    · rw [List.getElem?_append_left hlt]
    · rw [List.getElem?_eq_none (by simp; omega), List.getElem?_eq_none (by omega)]

@[simp] theorem lease?_opened_self (r : Registry) (now : Nat) (cookie : UInt32)
    (version : UInt8) :
    (r.opened now cookie version).lease? r.leases.length =
      some ⟨.fresh cookie version, true, now⟩ := by
  rw [lease?_opened, if_pos rfl]

@[simp] theorem linked?_opened (r : Registry) (now : Nat) (cookie : UInt32) (version : UInt8)
    (other : UInt32) :
    (r.opened now cookie version).linked? other =
      if cookie = other then some r.leases.length else r.linked? other :=
  Table.get?_insert r.links cookie r.leases.length other

theorem linked?_opened_self (r : Registry) (now : Nat) (cookie : UInt32) (version : UInt8) :
    (r.opened now cookie version).linked? cookie = some r.leases.length := by
  rw [linked?_opened, if_pos rfl]

@[simp] theorem length_leases_opened (r : Registry) (now : Nat) (cookie : UInt32)
    (version : UInt8) : (r.opened now cookie version).leases.length = r.leases.length + 1 := by
  simp [opened]

/-- A look-up keeps every session, and there is at most one more after it, without clients. -/
theorem lease?_enter_eq_some_iff (now : Nat) (version : UInt8) {other : Nat} {lease : Lease} :
    (r.enter now cookie version).registry.lease? other = some lease ↔
      r.lease? other = some lease ∨
        r.linked? cookie = none ∧ other = r.leases.length ∧
          lease = ⟨.fresh cookie version, true, now⟩ := by
  cases hlinked : r.linked? cookie with
  | some handle =>
      rw [enter_of_linked hlinked]
      simp
  | none =>
      rw [enter_of_not_linked hlinked, lease?_opened]
      by_cases hnew : other = r.leases.length
      · have hnone : r.lease? other = none := by simp [lease?, hnew]
        simp [hnew, hnew ▸ hnone, eq_comm]
      · simp [hnew]

theorem lt_length_of_lease? {lease : Lease} (h : r.lease? handle = some lease) :
    handle < r.leases.length :=
  (List.getElem?_eq_some_iff.1 h).1

/-! ### Replacing the state of a session -/

theorem lease?_setSession (r : Registry) (handle : Nat) (session : Session) (other : Nat) :
    (r.setSession handle session).lease? other =
      (r.lease? other).map fun lease =>
        if other = handle then { lease with session := session } else lease := by
  unfold setSession
  cases hlease : r.lease? handle with
  | none =>
      by_cases h : other = handle
      · simp [h, hlease]
      · simp [h]
  | some lease =>
      rw [lease?_setLease]
      by_cases h : other = handle
      · subst h
        simp [hlease, lt_length_of_lease? hlease]
      · simp [h, Ne.symm h]

theorem setSession_self {lease : Lease} (h : r.lease? handle = some lease) :
    r.setSession handle lease.session = r := by
  have hset : r.leases.set handle lease = r.leases := by
    obtain ⟨hlt, rfl⟩ := List.getElem?_eq_some_iff.1 h
    exact List.set_getElem_self hlt
  rw [setSession, h]
  show r.setLease handle lease = r
  rw [setLease, hset]

@[simp] theorem linked?_setSession (r : Registry) (handle : Nat) (session : Session)
    (cookie : UInt32) : (r.setSession handle session).linked? cookie = r.linked? cookie := by
  unfold setSession
  split
  · rfl
  · rfl

@[simp] theorem length_leases_setSession (r : Registry) (handle : Nat) (session : Session) :
    (r.setSession handle session).leases.length = r.leases.length := by
  unfold setSession
  split
  · rfl
  · simp [setLease]

/-! ### Expiry -/

@[simp] theorem lease?_unlink (r : Registry) (cookie : UInt32) (handle other : Nat) :
    (r.unlink cookie handle).lease? other = r.lease? other := by
  unfold unlink
  split
  · rfl
  · rfl

theorem linked?_unlink (r : Registry) (cookie : UInt32) (handle : Nat) (other : UInt32) :
    (r.unlink cookie handle).linked? other =
      if cookie = other ∧ r.linked? cookie = some handle then none else r.linked? other := by
  unfold unlink
  by_cases hlinked : r.linked? cookie = some handle
  · simp only [hlinked, if_true, and_true]
    exact Table.get?_erase r.links cookie other
  · simp [hlinked]

theorem lease?_expire (r : Registry) (handle other : Nat) :
    (r.expire handle).1.lease? other =
      (r.lease? other).map fun lease => if other = handle then lease.close else lease := by
  unfold expire
  cases hlease : r.lease? handle with
  | none =>
      by_cases h : other = handle
      · simp [h, hlease]
      · simp [h]
  | some lease =>
      simp only [lease?_unlink, lease?_setLease]
      by_cases h : other = handle
      · subst h
        simp [hlease, lt_length_of_lease? hlease]
      · simp [h, Ne.symm h]

@[simp] theorem length_leases_expire (r : Registry) (handle : Nat) :
    (r.expire handle).1.leases.length = r.leases.length := by
  unfold expire unlink
  cases r.lease? handle with
  | none => rfl
  | some lease =>
      dsimp only
      split
      · simp [setLease]
      · simp [setLease]

theorem linked?_expire {lease : Lease} (hlease : r.lease? handle = some lease)
    (cookie : UInt32) :
    (r.expire handle).1.linked? cookie =
      if lease.session.cookie = cookie ∧ r.linked? cookie = some handle then none
      else r.linked? cookie := by
  simp only [expire, hlease, linked?_unlink, linked?_setLease]
  by_cases h : lease.session.cookie = cookie
  · simp [h]
  · simp [h]

/-! ### Links are the open sessions -/

/-- The links are the open sessions, each under its own cookie. -/
def Sound (r : Registry) : Prop :=
  ∀ cookie handle, r.linked? cookie = some handle ↔
    ∃ lease, r.lease? handle = some lease ∧ lease.isOpen ∧ lease.session.cookie = cookie

/-- A link leads to an open session with that cookie. -/
theorem Sound.of_linked? (h : r.Sound) {lease : Lease} (hlinked : r.linked? cookie = some handle)
    (hlease : r.lease? handle = some lease) : lease.isOpen ∧ lease.session.cookie = cookie := by
  obtain ⟨linked, heq, hopen, hcookie⟩ := (h cookie handle).1 hlinked
  obtain rfl := Option.some.inj (hlease.symm.trans heq)
  exact ⟨hopen, hcookie⟩

/-- A cookie has one open session at most. -/
theorem Sound.eq_of_cookie (h : r.Sound) {other : Nat} {lease found : Lease}
    (hlease : r.lease? handle = some lease) (hopen : lease.isOpen)
    (hfound : r.lease? other = some found) (hfoundOpen : found.isOpen)
    (hcookie : lease.session.cookie = found.session.cookie) : handle = other := by
  have hlinked := (h lease.session.cookie handle).2 ⟨lease, hlease, hopen, rfl⟩
  have hotherLinked := (h lease.session.cookie other).2 ⟨found, hfound, hfoundOpen, hcookie.symm⟩
  exact Option.some.inj (hlinked.symm.trans hotherLinked)

theorem sound_empty : Registry.empty.Sound := by
  intro cookie handle
  simp [Registry.empty, linked?, lease?]

theorem Sound.opened (h : r.Sound) (hnot : r.linked? cookie = none) (now : Nat)
    (version : UInt8) : (r.opened now cookie version).Sound := by
  intro other handle
  rw [linked?_opened, lease?_opened]
  by_cases hnew : handle = r.leases.length
  · subst hnew
    have hfree : r.linked? other ≠ some r.leases.length := by
      rw [Ne, h]
      rintro ⟨lease, hlease, -⟩
      exact Nat.lt_irrefl _ (lt_length_of_lease? hlease)
    by_cases hcookie : cookie = other
    · simp [hcookie, Session.fresh]
    · simp [hcookie, hfree, Session.fresh]
  · rw [if_neg hnew, ← h]
    by_cases hcookie : cookie = other
    · subst hcookie
      simp [hnot, Ne.symm hnew]
    · simp [hcookie]

theorem Sound.setSession (h : r.Sound) {lease : Lease} (hlease : r.lease? handle = some lease)
    {session : Session} (hcookie : session.cookie = lease.session.cookie) :
    (r.setSession handle session).Sound := by
  intro other place
  rw [linked?_setSession, lease?_setSession, h]
  by_cases hplace : place = handle
  · subst hplace
    simp [hlease, hcookie]
  · simp [hplace]

theorem Sound.expire (h : r.Sound) {lease : Lease} (hlease : r.lease? handle = some lease) :
    (r.expire handle).1.Sound := by
  intro other place
  rw [linked?_expire hlease, lease?_expire]
  by_cases hplace : place = handle
  · subst hplace
    -- The link of a closed session is gone: it had at most the one under its own cookie.
    have hclosed : ¬∃ closed, some lease.close = some closed ∧ closed.isOpen ∧
        closed.session.cookie = other := by
      simp [Lease.close]
    rw [hlease, Option.map_some, if_pos rfl, iff_false_right hclosed]
    split
    · simp
    · next hnot =>
      intro hlinked
      exact hnot ⟨(h.of_linked? hlinked hlease).2, hlinked⟩
  · have hsame : (r.lease? place).map (fun lease => if place = handle then lease.close else lease) =
        r.lease? place := by
      simp [hplace]
    rw [hsame, ← h]
    split
    · next hgone =>
      rw [hgone.2]
      simp [Ne.symm hplace]
    · rfl

end Rendezvous.Registry
