import Rendezvous.Session.Dispatch

/-!
Runs of a session. A session takes packets, scans for pairs and rotates clients, in any order; a
run collects the edges that come into being.

Whatever an operation does is a sequence of four changes: a probe is registered, a client
acknowledges, a client ends its attempt, a client is joined with its partner. The edges are those
of the joins. So a property of a session and the edges issued so far holds along every run as soon
as it holds at the start and each of the four changes keeps it. That induction is done here, once.
-/
namespace Rendezvous

/-- A packet as a session gets it. -/
structure Packet where
  header : Header
  payload : Wire.Bytes
  source : SocketAddress
  deriving DecidableEq

/-- What a packet asks of a session. -/
inductive Request
  | probe (r : InitRequest)
  | reply (r : ConnectReply)
  | report (r : ReportRequest)
  /-- No command, or one that changes no session. -/
  | nothing

/-- A packet asks the same whatever session it comes to. -/
def Packet.request (p : Packet) : Except Failure Request :=
  match p.header.command? with
  | some .initRequest => (InitRequest.decode p.payload).map .probe
  | some .connectReply => (ConnectReply.decode p.payload).map .reply
  | some .reportRequest => (ReportRequest.decode p.payload).map .report
  | _ => .ok .nothing

/-- What is asked is decided by the command, and read from the payload. -/
theorem Packet.request_eq_probe_iff {p : Packet} {r : InitRequest} :
    p.request = .ok (.probe r) ↔
      p.header.command? = some .initRequest ∧ InitRequest.decode p.payload = .ok r := by
  unfold request
  split
  · next hcommand => cases InitRequest.decode p.payload <;> simp [hcommand, Except.map]
  · next hcommand => cases ConnectReply.decode p.payload <;> simp [hcommand, Except.map]
  · next hcommand => cases ReportRequest.decode p.payload <;> simp [hcommand, Except.map]
  · next hinit _ _ => exact iff_of_false (by simp) fun h => hinit h.1

theorem Packet.request_eq_report_iff {p : Packet} {r : ReportRequest} :
    p.request = .ok (.report r) ↔
      p.header.command? = some .reportRequest ∧ ReportRequest.decode p.payload = .ok r := by
  unfold request
  split
  · next hcommand => cases InitRequest.decode p.payload <;> simp [hcommand, Except.map]
  · next hcommand => cases ConnectReply.decode p.payload <;> simp [hcommand, Except.map]
  · next hcommand => cases ReportRequest.decode p.payload <;> simp [hcommand, Except.map]
  · next _ _ hreport => exact iff_of_false (by simp) fun h => hreport h.1

/-- What is logged of a packet that asks for nothing. -/
def Packet.notice (p : Packet) (cookie : UInt32) : LogEvent :=
  match p.header.command? with
  | none => .unknownCommand cookie p.source p.header.code
  | some command =>
    if command.isFromServer then .serverCommand cookie p.source command
    else .noted cookie p.source command

/-- The edges that come into being; a packet that fails makes none. -/
def Reaction.edges (r : Reaction) : List Edge :=
  match r.result with
  | .ok edges => edges
  | .error _ => []

namespace Session

def handle (s : Session) (p : Packet) : Reaction :=
  s.dispatch p.header p.payload p.source

/-- A session looks at a packet only through what the packet asks. -/
theorem handle_eq (s : Session) (p : Packet) :
    s.handle p =
      match p.request with
      | .error failure => s.refuse failure
      | .ok (.probe r) => s.handleInit r p.source
      | .ok (.reply r) => (s.acknowledge r.index).ignore []
      | .ok (.report r) => s.handleReport r p.source
      | .ok .nothing => s.ignore [p.notice s.cookie] := by
  simp only [handle, dispatch, Packet.request, Packet.notice]
  cases p.header.command? with
  | none => rfl
  | some command =>
      cases command
      case initRequest => cases InitRequest.decode p.payload <;> rfl
      case connectReply => cases ConnectReply.decode p.payload <;> rfl
      case reportRequest => cases ReportRequest.decode p.payload <;> rfl
      all_goals rfl

theorem handleInit_of_refused {s : Session} {r : InitRequest} {failure : Failure}
    (h : s.checkGame r = .error failure) (source : SocketAddress) :
    (s.handleInit r source).session = s ∧ (s.handleInit r source).edges = [] := by
  simp [handleInit, h, Reaction.edges]

theorem handleInit_of_accepted {s : Session} {r : InitRequest} (h : s.checkGame r = .ok ())
    (source : SocketAddress) :
    (s.handleInit r source).session = ((s.register r source).pairAfter r.index).1 ∧
      (s.handleInit r source).edges = ((s.register r source).pairAfter r.index).2 := by
  simp [handleInit, h, Reaction.edges]

/-! ### Operations and runs -/

inductive Operation
  | packet (p : Packet)
  | pair
  | rotate (index : UInt8)
  deriving DecidableEq

/-- How far a session has got, and the edges that it issued on the way, in their order. -/
structure Run where
  session : Session
  issued : List Edge

def perform (s : Session) : Operation → Session × List Edge
  | .packet p => ((s.handle p).session, (s.handle p).edges)
  | .pair => s.pairIdle
  | .rotate index => (s.rotate index, [])

def Run.extend (run : Run) (operation : Operation) : Run :=
  let (session, edges) := run.session.perform operation
  ⟨session, run.issued ++ edges⟩

def run (s : Session) (operations : List Operation) : Run :=
  operations.foldl Run.extend ⟨s, []⟩

/-- The session after packets and nothing else. -/
def after (s : Session) (packets : List Packet) : Session :=
  packets.foldl (fun s p => (s.handle p).session) s

theorem after_append (s : Session) (packets later : List Packet) :
    s.after (packets ++ later) = (s.after packets).after later :=
  List.foldl_append

theorem run_append (s : Session) (operations later : List Operation) :
    s.run (operations ++ later) = later.foldl Run.extend (s.run operations) :=
  List.foldl_append

/-- Packets alone make a run, too. -/
theorem after_eq_run (s : Session) (packets : List Packet) :
    s.after packets = (s.run (packets.map .packet)).session := by
  suffices H : ∀ run : Run, packets.foldl (fun s p => (s.handle p).session) run.session =
      ((packets.map Operation.packet).foldl Run.extend run).session from H ⟨s, []⟩
  induction packets with
  | nil => intro run; rfl
  | cons p rest ih => intro run; exact ih (run.extend (.packet p))

/-- What every packet keeps holds after any number of them. -/
theorem after_induct {P : Session → Prop} (hstep : ∀ s p, P s → P (s.handle p).session)
    {s : Session} (hs : P s) (packets : List Packet) : P (s.after packets) := by
  induction packets generalizing s with
  | nil => exact hs
  | cons p rest ih => exact ih (hstep s p hs)

/-! ### What the four changes keep -/

/-- Each of the four changes keeps the property. -/
structure Stable (P : Session → List Edge → Prop) : Prop where
  register : ∀ {s issued} (r : InitRequest) (source : SocketAddress),
    s.checkGame r = .ok () → P s issued → P (s.register r source) issued
  acknowledge : ∀ {s issued} (index : UInt8), P s issued → P (s.acknowledge index) issued
  rotate : ∀ {s issued} (index : UInt8), P s issued → P (s.rotate index) issued
  join : ∀ {s issued} {first second : UInt8}, s.partner? first = some second →
    P s issued → P (s.join ⟨first, second⟩) (issued ++ [⟨first, second⟩])

namespace Stable

variable {P : Session → List Edge → Prop} {s : Session} {issued : List Edge}

theorem pairAlong (h : Stable P) (indices : List UInt8) (hs : P s issued) :
    P (s.pairAlong indices).1 (issued ++ (s.pairAlong indices).2) := by
  induction indices generalizing s issued with
  | nil => simpa [Session.pairAlong] using hs
  | cons first rest ih =>
      cases hpartner : s.partner? first with
      | none =>
          simp only [Session.pairAlong, hpartner]
          exact ih hs
      | some second =>
          simp only [Session.pairAlong, hpartner]
          rw [List.append_cons]
          exact ih (h.join hpartner hs)

theorem pairIdle (h : Stable P) (hs : P s issued) : P s.pairIdle.1 (issued ++ s.pairIdle.2) :=
  h.pairAlong _ hs

theorem pairAfter (h : Stable P) (index : UInt8) (hs : P s issued) :
    P (s.pairAfter index).1 (issued ++ (s.pairAfter index).2) := by
  unfold Session.pairAfter
  split
  · exact h.pairIdle hs
  · simpa using hs

theorem handle (h : Stable P) (p : Packet) (hs : P s issued) :
    P (s.handle p).session (issued ++ (s.handle p).edges) := by
  rw [handle_eq]
  rcases p.request with failure | (r | r | r | _)
  · simpa [refuse, Reaction.edges] using hs
  · cases hgame : s.checkGame r with
    | error failure =>
        obtain ⟨hsession, hedges⟩ := handleInit_of_refused hgame p.source
        simpa [hsession, hedges] using hs
    | ok _ =>
        obtain ⟨hsession, hedges⟩ := handleInit_of_accepted hgame p.source
        simp only [hsession, hedges]
        exact h.pairAfter r.index (h.register r p.source hgame hs)
  · simpa [ignore, Reaction.edges] using h.acknowledge r.index hs
  · exact h.pairIdle (h.rotate r.index hs)
  · simpa [ignore, Reaction.edges] using hs

theorem perform (h : Stable P) (operation : Operation) (hs : P s issued) :
    P (s.perform operation).1 (issued ++ (s.perform operation).2) := by
  cases operation with
  | packet p => exact h.handle p hs
  | pair => exact h.pairIdle hs
  | rotate index => simpa [Session.perform] using h.rotate index hs

theorem extend (h : Stable P) {start : Run} (hstart : P start.session start.issued)
    (operations : List Operation) :
    P (operations.foldl Run.extend start).session (operations.foldl Run.extend start).issued := by
  induction operations generalizing start with
  | nil => exact hstart
  | cons operation rest ih => exact ih (h.perform operation hstart)

/-- What the four changes keep holds along every run. -/
theorem run (h : Stable P) (hs : P s []) (operations : List Operation) :
    P (s.run operations).session (s.run operations).issued :=
  h.extend hs operations

end Stable

/-! ### Cookie and version -/

/-- Nothing changes the cookie of a session, or its version. -/
theorem identity_stable (cookie : UInt32) (version : UInt8) :
    Stable fun s _ => s.cookie = cookie ∧ s.version = version where
  register _ _ _ h := h
  acknowledge _ h := h
  rotate _ h := h
  join _ h := h

theorem cookie_handle (s : Session) (p : Packet) : (s.handle p).session.cookie = s.cookie :=
  (@Stable.handle _ s [] (identity_stable s.cookie s.version) p ⟨rfl, rfl⟩).1

theorem version_handle (s : Session) (p : Packet) : (s.handle p).session.version = s.version :=
  (@Stable.handle _ s [] (identity_stable s.cookie s.version) p ⟨rfl, rfl⟩).2

theorem cookie_after (s : Session) (packets : List Packet) : (s.after packets).cookie = s.cookie :=
  @after_induct (fun t => t.cookie = s.cookie) (fun t p h => (cookie_handle t p).trans h) s rfl
    packets

theorem version_after (s : Session) (packets : List Packet) :
    (s.after packets).version = s.version :=
  @after_induct (fun t => t.version = s.version) (fun t p h => (version_handle t p).trans h) s rfl
    packets

theorem accept_of_version {s : Session} {p : Packet} (h : s.version = p.header.version) :
    s.accept p.header p.payload p.source = s.handle p := by
  simp [accept, checkVersion, h, handle]

theorem accept_of_other_version {s : Session} {p : Packet} (h : s.version ≠ p.header.version) :
    s.accept p.header p.payload p.source =
      s.refuse (.versionMismatch s.version p.header.version) := by
  simp [accept, checkVersion, Ne.symm h]

end Session

/-! ### Small packets -/

namespace Packet

/-- A probe that makes its client mapped at once. -/
def probeOf (index : UInt8) : Packet where
  header := .forCommand 3 .initRequest 7
  payload := [1, index, 0, 0, 0, 0, 0, 0, 0, 0]
  source := .v4 ⟨⟨192, 0, 2, index⟩, 27900⟩

/-- An acknowledgement of the Connect-Request of a client. -/
def replyOf (index : UInt8) : Packet where
  header := .forCommand 3 .connectReply 7
  payload := [0, index]
  source := .v4 ⟨⟨192, 0, 2, index⟩, 27900⟩

/-- A report that the attempt of a client succeeded. -/
def reportOf (index : UInt8) : Packet where
  header := .forCommand 3 .reportRequest 7
  payload := [0, index, 1, 0, 0, 0, 0, 0, 0]
  source := .v4 ⟨⟨192, 0, 2, index⟩, 27900⟩

end Packet

end Rendezvous
