import GoBgp.Packet

/-!
# Message counters

`bgpMessageStateUpdate` counts a message in `Total` and in the counter of its type, on the
received or the sent side. The FSM calls it where it writes to the peer connection and where
its receive goroutine reads from it. `Wire` records what went over the connection, and
`Messages.ofWire` the counters that count exactly that; each site is compared with it one step
at a time.
-/

namespace GoBgp

/-! ## The counters -/

/-- The counters of one direction of `config.Messages`. -/
structure Counters where
  total : Nat
  «open» : Nat
  update : Nat
  notification : Nat
  keepalive : Nat
  refresh : Nat
  discarded : Nat
  deriving DecidableEq, Repr

structure Messages where
  received : Counters
  sent : Counters
  deriving DecidableEq, Repr

/-- One count of `bgpMessageStateUpdate` on one side: `Total`, and the counter its `switch`
picks for the type. -/
def Counters.bump (c : Counters) (MessageType : Nat) : Counters :=
  let c := { c with total := c.total + 1 }
  if MessageType = BGP_MSG_OPEN then { c with «open» := c.«open» + 1 }
  else if MessageType = BGP_MSG_UPDATE then { c with update := c.update + 1 }
  else if MessageType = BGP_MSG_NOTIFICATION then { c with notification := c.notification + 1 }
  else if MessageType = BGP_MSG_KEEPALIVE then { c with keepalive := c.keepalive + 1 }
  else if MessageType = BGP_MSG_ROUTE_REFRESH then { c with refresh := c.refresh + 1 }
  else { c with discarded := c.discarded + 1 }

/-- `bgpMessageStateUpdate`; the time stamp of the last UPDATE received is left out. -/
def Messages.bgpMessageStateUpdate (m : Messages) (MessageType : Nat) (isIn : Bool) : Messages :=
  if isIn then { m with received := m.received.bump MessageType }
  else { m with sent := m.sent.bump MessageType }

/-! ## The counters of a log -/

/-- The message types with a counter of their own. -/
def countedTypes : List Nat :=
  [BGP_MSG_OPEN, BGP_MSG_UPDATE, BGP_MSG_NOTIFICATION, BGP_MSG_KEEPALIVE, BGP_MSG_ROUTE_REFRESH]

/-- The counters of the messages of types `ts`: each one in `Total` and under its type, or
in `Discarded` when its type has no counter. -/
def Counters.count (ts : List Nat) : Counters where
  total := ts.length
  «open» := ts.count BGP_MSG_OPEN
  update := ts.count BGP_MSG_UPDATE
  notification := ts.count BGP_MSG_NOTIFICATION
  keepalive := ts.count BGP_MSG_KEEPALIVE
  refresh := ts.count BGP_MSG_ROUTE_REFRESH
  discarded := ts.countP (· ∉ countedTypes)

theorem count_append_singleton (ts : List Nat) (t a : Nat) :
    (ts ++ [t]).count a = ts.count a + if t = a then 1 else 0 := by
  by_cases h : t = a <;> simp [List.count_singleton, h]

theorem Counters.bump_count (ts : List Nat) (t : Nat) :
    (Counters.count ts).bump t = Counters.count (ts ++ [t]) := by
  by_cases h : t ∈ countedTypes
  · simp only [countedTypes, List.mem_cons, List.mem_singleton, List.not_mem_nil, or_false] at h
    rcases h with rfl | rfl | rfl | rfl | rfl <;>
      simp [Counters.bump, Counters.count, count_append_singleton, countedTypes, BGP_MSG_OPEN,
        BGP_MSG_UPDATE, BGP_MSG_NOTIFICATION, BGP_MSG_KEEPALIVE, BGP_MSG_ROUTE_REFRESH]
  · have hne : t ≠ BGP_MSG_OPEN ∧ t ≠ BGP_MSG_UPDATE ∧ t ≠ BGP_MSG_NOTIFICATION ∧ t ≠ BGP_MSG_KEEPALIVE ∧
        t ≠ BGP_MSG_ROUTE_REFRESH := by simpa [countedTypes] using h
    simp [Counters.bump, Counters.count, count_append_singleton, List.count_singleton, hne, h]

@[simp] theorem Counters.count_append_singleton_ne (ts : List Nat) (t : Nat) :
    Counters.count (ts ++ [t]) ≠ Counters.count ts := by
  simp [Counters.count]

@[simp] theorem Counters.count_ne_append_singleton (ts : List Nat) (t : Nat) :
    Counters.count ts ≠ Counters.count (ts ++ [t]) :=
  (Counters.count_append_singleton_ne ts t).symm

/-- What went over the peer connection: a message written, with whether `Write` succeeded; a
header that did not decode; a body read in full that did not parse; a message read. -/
inductive Wire
  | write (type : Nat) (ok : Bool)
  | headerError
  | bodyError
  | read (type : Nat)
  deriving DecidableEq, Repr

/-- The type a message written in full counts under. -/
def Wire.sent? : Wire → Option Nat
  | .write t true => some t
  | _ => none

/-- The type an inbound message counts under: a header that did not decode and a body that
did not parse are counted as type 0, which has no counter of its own. -/
def Wire.received? : Wire → Option Nat
  | .headerError | .bodyError => some 0
  | .read t => some t
  | .write _ _ => none

/-- The counters that count every message written in full and every message read. -/
def Messages.ofWire (log : List Wire) : Messages :=
  ⟨Counters.count (log.filterMap Wire.received?), Counters.count (log.filterMap Wire.sent?)⟩

/-! ## The sites that count -/

/-- `sendNotificatonFromErrorMsg`: the NOTIFICATION is counted when `Write` returns an
error. -/
def sendNotificatonFromErrorMsg (c : Messages) (ok : Bool) : Messages × List Wire :=
  (if !ok then c.bgpMessageStateUpdate BGP_MSG_NOTIFICATION false else c, [.write BGP_MSG_NOTIFICATION ok])

/-- `fsm.conn.Write(b)` with its error dropped, then the count: `opensent`'s OPEN and
KEEPALIVE, and each KEEPALIVE of `openconfirm`'s ticker. -/
def writeUnchecked (c : Messages) (type : Nat) (ok : Bool) : Messages × List Wire :=
  (c.bgpMessageStateUpdate type false, [.write type ok])

/-- `sendMessageloop`'s `send`: a message that does not serialize is counted as type 0 and not
written, a write deadline that cannot be set stops it before the write, and the message is
counted after a write that succeeded. -/
def send (c : Messages) (m : BGPMessage) (serialized deadlineSet ok : Bool) : Messages × List Wire :=
  if !serialized then (c.bgpMessageStateUpdate 0 false, [])
  else if !deadlineSet then (c, [])
  else if !ok then (c, [.write m.type false])
  else (c.bgpMessageStateUpdate m.type false, [.write m.type true])

/-- How a read of `recvMessageWithError` ends. -/
inductive RecvOutcome
  | headerReadFailed
  | headerDecodeFailed
  | bodyReadFailed
  | bodyParseFailed
  | parsed (m : BGPMessage)
  deriving DecidableEq, Repr

/-- `recvMessageWithError`: a header that does not decode and a body that does not parse are
counted as type 0, a parsed message under its header's type; a failed read counts nothing. -/
def recvMessageWithError (c : Messages) : RecvOutcome → Messages × List Wire
  | .headerReadFailed => (c, [])
  | .headerDecodeFailed => (c.bgpMessageStateUpdate 0 true, [.headerError])
  | .bodyReadFailed => (c, [])
  | .bodyParseFailed => (c.bgpMessageStateUpdate 0 true, [.bodyError])
  | .parsed m => (c.bgpMessageStateUpdate m.type true, [.read m.type])

/-- A place where the FSM writes to or reads from the connection, with what the connection
makes of it. -/
inductive Site
  | opensentOpen (ok : Bool)
  | opensentKeepalive (ok : Bool)
  | openconfirmKeepalive (ok : Bool)
  | notification (ok : Bool)
  | send (m : BGPMessage) (serialized deadlineSet ok : Bool)
  | recv (r : RecvOutcome)
  deriving DecidableEq, Repr

def Site.run (c : Messages) : Site → Messages × List Wire
  | .opensentOpen ok => writeUnchecked c BGP_MSG_OPEN ok
  | .opensentKeepalive ok => writeUnchecked c BGP_MSG_KEEPALIVE ok
  | .openconfirmKeepalive ok => writeUnchecked c BGP_MSG_KEEPALIVE ok
  | .notification ok => sendNotificatonFromErrorMsg c ok
  | .send m serialized deadlineSet ok => GoBgp.send c m serialized deadlineSet ok
  | .recv r => recvMessageWithError c r

/-! ## Runs -/

/-- The counters, and what went over the connection so far. -/
structure Link where
  counters : Messages
  wire : List Wire
  deriving DecidableEq, Repr

def Link.init : Link := ⟨⟨Counters.count [], Counters.count []⟩, []⟩

def Link.step (s : Link) (site : Site) : Link :=
  ⟨(site.run s.counters).1, s.wire ++ (site.run s.counters).2⟩

def Link.run (s : Link) (sites : List Site) : Link := sites.foldl Link.step s

/-- The counters count exactly what went over the connection. -/
def Link.Counted (s : Link) : Prop := s.counters = Messages.ofWire s.wire

instance : DecidablePred Link.Counted := fun _ => inferInstanceAs (Decidable (_ = _))

/-- The sites whose count matches the connection: a write of `opensent` or `openconfirm` that
succeeded, a `send` of a message that serialized, and every read. -/
def Site.countsRight : Site → Bool
  | .opensentOpen ok | .opensentKeepalive ok | .openconfirmKeepalive ok => ok
  | .notification _ => false
  | .send _ serialized _ _ => serialized
  | .recv _ => true

theorem Messages.ofWire_append (log w : List Wire) :
    Messages.ofWire (log ++ w) =
      ⟨Counters.count (log.filterMap Wire.received? ++ w.filterMap Wire.received?),
        Counters.count (log.filterMap Wire.sent? ++ w.filterMap Wire.sent?)⟩ := by
  simp [Messages.ofWire]

/-- From counters that count what went over the connection, one site keeps them so exactly
when it is one of `Site.countsRight`. -/
theorem Link.step_counted_iff {s : Link} (h : s.Counted) (site : Site) :
    (s.step site).Counted ↔ site.countsRight := by
  obtain ⟨c, w⟩ := s
  simp only [Link.Counted] at h
  subst h
  -- every site under every outcome the connection can give it
  rcases site with (_ | _) | (_ | _) | (_ | _) | (_ | _) | ⟨m, _ | _, _ | _, _ | _⟩ | (_ | _ | _ | _ | m) <;>
    simp [Link.step, Link.Counted, Site.run, writeUnchecked, sendNotificatonFromErrorMsg, send,
      recvMessageWithError, Messages.bgpMessageStateUpdate, Messages.ofWire_append, Messages.ofWire,
      Counters.bump_count, Wire.sent?, Wire.received?, Site.countsRight]

theorem Link.init_counted : Link.init.Counted := rfl

theorem Link.Counted.run {s : Link} (h : s.Counted) {sites : List Site}
    (hs : ∀ site ∈ sites, site.countsRight) : (s.run sites).Counted := by
  induction sites generalizing s with
  | nil => exact h
  | cons site sites ih =>
    exact ih ((Link.step_counted_iff h site).mpr (hs site (.head _)))
      fun site' h' => hs site' (.tail _ h')

theorem Link.step_received (s : Link) (site : Site)
    (h : s.counters.received = Counters.count (s.wire.filterMap Wire.received?)) :
    (s.step site).counters.received = Counters.count ((s.step site).wire.filterMap Wire.received?) := by
  rcases site with (_ | _) | (_ | _) | (_ | _) | (_ | _) | ⟨m, _ | _, _ | _, _ | _⟩ | (_ | _ | _ | _ | m) <;>
    simp_all [Link.step, Site.run, writeUnchecked, sendNotificatonFromErrorMsg, send, recvMessageWithError,
      Messages.bgpMessageStateUpdate, Wire.received?, Counters.bump_count]

theorem Link.run_received (s : Link) (sites : List Site)
    (h : s.counters.received = Counters.count (s.wire.filterMap Wire.received?)) :
    (s.run sites).counters.received = Counters.count ((s.run sites).wire.filterMap Wire.received?) := by
  induction sites generalizing s with
  | nil => exact h
  | cons site sites ih => exact ih _ (Link.step_received s site h)

/-- From counters that count what went over the connection, a NOTIFICATION that
`sendNotificatonFromErrorMsg` writes is miscounted whether or not the write succeeds, and so
are a failed write of `opensent` or `openconfirm` and a message that `send` could not
serialize. -/
theorem counters_miscount_writes {s : Link} (h : s.Counted) (ok : Bool) (m : BGPMessage) (deadlineSet : Bool) :
    ¬(s.step (.notification ok)).Counted ∧ ¬(s.step (.opensentOpen false)).Counted ∧
    ¬(s.step (.opensentKeepalive false)).Counted ∧ ¬(s.step (.openconfirmKeepalive false)).Counted ∧
    ¬(s.step (.send m false deadlineSet ok)).Counted := by
  simp only [Link.step_counted_iff h, Site.countsRight, Bool.false_eq_true, not_false_eq_true, and_self]

/-- The first NOTIFICATION written without error leaves the sent counters at zero. -/
theorem counters_miscount_writes_init :
    Link.init.Counted ∧
    (¬(Link.init.step (.notification true)).Counted ∧ ¬(Link.init.step (.opensentOpen false)).Counted ∧
      ¬(Link.init.step (.opensentKeepalive false)).Counted ∧ ¬(Link.init.step (.openconfirmKeepalive false)).Counted ∧
      ¬(Link.init.step (.send .keepalive false true true)).Counted) :=
  ⟨rfl, @counters_miscount_writes Link.init rfl true .keepalive true⟩

/-- Over every run from the start, the received counters count every message read; and a run
whose `opensent` and `openconfirm` writes succeed, whose `send`s serialize and which writes no
NOTIFICATION through `sendNotificatonFromErrorMsg` keeps all counters right. -/
theorem Link.init_run_counters (sites : List Site) :
    (Link.init.run sites).counters.received =
      Counters.count ((Link.init.run sites).wire.filterMap Wire.received?) ∧
    ((∀ site ∈ sites, site.countsRight) → (Link.init.run sites).Counted) :=
  ⟨Link.run_received _ sites rfl, Link.init_counted.run⟩

theorem Link.init_run_counters_three :
    (∀ site ∈ ([.recv (.parsed .keepalive), .recv .bodyParseFailed, .send (.update ⟨[], [], []⟩) true true true] :
      List Site), site.countsRight) ∧
    (Link.init.run [.recv (.parsed .keepalive), .recv .bodyParseFailed,
      .send (.update ⟨[], [], []⟩) true true true]).Counted :=
  ⟨by decide, (Link.init_run_counters _).2 (by decide)⟩

end GoBgp
