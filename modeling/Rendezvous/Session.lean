import Rendezvous.Client
import Rendezvous.Log

/-!
A session: the clients that share a cookie, in ascending order of their indices, and the game
that the first of them named. The version is that of the packet that opened the session.
-/
namespace Rendezvous

structure Session where
  cookie : UInt32
  version : UInt8
  gameName : Option String
  clients : Table UInt8 Client
  deriving DecidableEq, Repr

/-- An attempt of two clients to connect, named by the client that was looked at first. -/
structure Edge where
  first : UInt8
  second : UInt8
  deriving DecidableEq, Repr

namespace Session

def fresh (cookie : UInt32) (version : UInt8) : Session :=
  ⟨cookie, version, none, .empty⟩

def client? (s : Session) (index : UInt8) : Option Client :=
  s.clients.get? index

/-- Changes one client, if it is there. -/
def update (s : Session) (index : UInt8) (change : Client → Client) : Session :=
  { s with clients := s.clients.modify index change }

def checkVersion (s : Session) (version : UInt8) : Except Failure Unit :=
  if version = s.version then .ok () else .error (.versionMismatch s.version version)

@[simp] theorem client?_update (s : Session) (index : UInt8) (change : Client → Client)
    (other : UInt8) :
    (s.update index change).client? other =
      (s.client? other).map fun c => if other = index then change c else c :=
  Table.get?_modify s.clients index change other

end Session

end Rendezvous
