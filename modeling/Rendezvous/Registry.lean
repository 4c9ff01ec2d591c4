import Rendezvous.Session.Dispatch

/-!
The registry of sessions. Every session that was ever opened keeps its place, which serves as its
handle; the links say which of them answers to a cookie now. An expired session is closed and
loses its link, and only its own: a later session with the same cookie is not touched.
-/
namespace Rendezvous

/-- A session and how long it has been there. -/
structure Lease where
  session : Session
  isOpen : Bool
  createdAt : Nat
  deriving DecidableEq, Repr

def Lease.close (l : Lease) : Lease :=
  { l with isOpen := false }

structure Registry where
  leases : List Lease
  links : Table UInt32 Nat
  deriving DecidableEq, Repr

namespace Registry

def empty : Registry :=
  ⟨[], .empty⟩

def lease? (r : Registry) (handle : Nat) : Option Lease :=
  r.leases[handle]?

/-- The handle of the session that answers to a cookie. -/
def linked? (r : Registry) (cookie : UInt32) : Option Nat :=
  r.links.get? cookie

/-- The number of sessions that answer to their cookies. -/
def size (r : Registry) : Nat :=
  r.links.size

/-- The session of a cookie. One is opened, with the given version, where there is none. -/
structure Entrance where
  registry : Registry
  handle : Nat
  created : Bool

def enter (r : Registry) (now : Nat) (cookie : UInt32) (version : UInt8) : Entrance :=
  match r.linked? cookie with
  | some handle => ⟨r, handle, false⟩
  | none =>
    let lease : Lease := ⟨.fresh cookie version, true, now⟩
    ⟨⟨r.leases ++ [lease], r.links.insert cookie r.leases.length⟩, r.leases.length, true⟩

def setLease (r : Registry) (handle : Nat) (lease : Lease) : Registry :=
  { r with leases := r.leases.set handle lease }

/-- Replaces the state of a session. -/
def setSession (r : Registry) (handle : Nat) (session : Session) : Registry :=
  match r.lease? handle with
  | none => r
  | some lease => r.setLease handle { lease with session := session }

def unlink (r : Registry) (cookie : UInt32) (handle : Nat) : Registry :=
  if r.linked? cookie = some handle then { r with links := r.links.erase cookie } else r

/-- Closes a session and takes its link away. What its clients have to be told is returned. -/
def expire (r : Registry) (handle : Nat) : Registry × List Datagram × List LogEvent :=
  match r.lease? handle with
  | none => (r, [], [])
  | some lease =>
    ((r.setLease handle lease.close).unlink lease.session.cookie handle,
      lease.session.cancellations)

/-- Hands a datagram to the session of a handle, open or not. -/
def deliver (r : Registry) (handle : Nat) (datagram : Wire.Bytes) (source : SocketAddress) :
    Option (Registry × Reaction) :=
  (r.lease? handle).map fun lease =>
    let reaction := match Header.decode datagram with
      | .error failure => lease.session.refuse failure
      | .ok (header, payload) => lease.session.accept header payload source
    (r.setSession handle reaction.session, reaction)

@[simp] theorem lease?_setLease (r : Registry) (handle : Nat) (lease : Lease) (other : Nat) :
    (r.setLease handle lease).lease? other =
      if handle = other ∧ handle < r.leases.length then some lease else r.lease? other := by
  simp only [setLease, lease?, List.getElem?_set]
  by_cases h : handle = other
  · subst h
    by_cases hlt : handle < r.leases.length
    · simp [hlt]
    · simp [hlt]
  · simp [h]

@[simp] theorem linked?_setLease (r : Registry) (handle : Nat) (lease : Lease)
    (cookie : UInt32) : (r.setLease handle lease).linked? cookie = r.linked? cookie := rfl

end Registry

end Rendezvous
