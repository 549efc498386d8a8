import GoBgp.Packet
import Mathlib.Algebra.Order.Ring.Rat

/-!
# The peer FSM

`FSMHandler.loop` runs the handler of the FSM's state; the handler waits in a `select`
until it returns the next state, which `loop` reports on `stateCh` and the server applies
with `StateChange`. A handler is modelled by its reaction to each case its `select` can
take; timers, connections, messages from the receive goroutine, errors and admin requests
are events the environment delivers in any order, at any time.
-/

namespace GoBgp

/-! ## Configuration and OPEN negotiation -/

/-- The `config.Neighbor` fields the FSM reads; `afiSafis` are the configured families. -/
structure Neighbor where
  peerAs : Nat
  holdTime : ℚ
  keepaliveInterval : ℚ
  afiSafis : List Nat
  adminDown : Bool
  deriving DecidableEq, Repr

/-- A neighbour in AS 65002 with hold time 90 and keepalive interval 30, for IPv4 unicast. -/
def sampleNeighbor : Neighbor := ⟨65002, 90, 30, [RF_IPv4_UC], false⟩

/-- A `ValidateOpenMsg` that accepts every OPEN, and the OPEN of the peer 10.0.0.2 in AS 65002
with hold time 180, for IPv4 unicast. -/
def acceptAll (_ : BGPOpen) (_ : Nat) : Except MessageError Unit := .ok ()
def peerOpen : BGPOpen := ⟨4, 65002, 180, [10, 0, 0, 2], [.capability [.multiProtocol RF_IPv4_UC]]⟩

/-- Modelled from the spec: `config.CreateRfMap`, the configured families as map keys. -/
def createRfMap (n : Neighbor) : List Nat := n.afiSafis

/-- `capMap[c.Code()] = append(capMap[c.Code()], c)`, the map held as its entries. -/
def capMapAppend (c : Capability) : List (Nat × List Capability) → List (Nat × List Capability)
  | [] => [(c.code, [c])]
  | (k, l) :: rest => if k = c.code then (k, l ++ [c]) :: rest else (k, l) :: capMapAppend c rest

/-- One capability of `open2Cap`'s inner loop: into `capMap`, and a MultiProtocol family
into `r`. -/
def addCap (acc : List (Nat × List Capability) × List Nat) (c : Capability) :
    List (Nat × List Capability) × List Nat :=
  (capMapAppend c acc.1, match c with
    | .multiProtocol rf => acc.2 ++ [rf]
    | .other _ _ _ => acc.2)

/-- `open2Cap`: the capabilities by code, and the configured families the peer also named,
or IPv4 unicast alone when it named none. -/
def open2Cap (o : BGPOpen) (n : Neighbor) : List (Nat × List Capability) × List Nat :=
  let (capMap, r) := o.optParams.foldl (fun acc p => match p with
    | .capability caps => caps.foldl addCap acc
    | .unknown _ _ => acc) ([], [])
  if r.length > 0 then (capMap, (createRfMap n).filter (· ∈ r)) else (capMap, [RF_IPv4_UC])

/-! ## The FSM record -/

/-- `bgp.FSMState`. `CONNECT` has no handler. -/
inductive FSMState
  | idle
  | connect
  | active
  | opensent
  | openconfirm
  | established
  deriving DecidableEq, Repr

def FSMState.toInt : FSMState → Int
  | .idle => 0
  | .connect => 1
  | .active => 2
  | .opensent => 3
  | .openconfirm => 4
  | .established => 5

inductive AdminState
  | up
  | down
  deriving DecidableEq, Repr

/-- `FsmStateReason`; `zero` is the unnamed reason 0. -/
inductive FsmStateReason
  | zero
  | dying
  | adminDown
  | readFailed
  | writeFailed
  | notificationSent
  | notificationRecv
  | holdTimerExpired
  | idleHoldTimerExpired
  | restartTimerExpired
  | gracefulRestart
  | invalidMsg
  deriving DecidableEq, Repr

/-- The `FSM` fields the handlers read or write. `received` is not a field of the source:
it records the messages the OPENSENT and OPENCONFIRM handlers took from the connection
`conn`, since ACTIVE attached it. -/
structure FSM where
  state : FSMState
  reason : FsmStateReason
  conn : Option Nat
  idleHoldTime : ℚ
  adminState : AdminState
  rfMap : List Nat
  capMap : List (Nat × List Capability)
  recvOpen : Option BGPMessage
  peerID : List UInt8
  negotiatedHoldTime : ℚ
  keepaliveInterval : ℚ
  establishedCount : Nat
  received : List BGPMessage
  deriving DecidableEq, Repr

def HOLDTIME_IDLE : ℚ := 5

/-- `NewFSM`: IDLE, administratively down when the neighbor is configured so. -/
def newFSM (n : Neighbor) : FSM where
  state := .idle
  reason := .zero
  conn := none
  idleHoldTime := 0
  adminState := if n.adminDown then .down else .up
  rfMap := []
  capMap := []
  recvOpen := none
  peerID := []
  negotiatedHoldTime := 0
  keepaliveInterval := 0
  establishedCount := 0
  received := []

/-- `StateChange`; the time stamps are left out. -/
def FSM.stateChange (fsm : FSM) (nextState : FSMState) : FSM :=
  { fsm with
    state := nextState
    establishedCount := if nextState = .established then fsm.establishedCount + 1 else fsm.establishedCount }

def changeAdminState (fsm : FSM) (s : AdminState) : Except String FSM :=
  if fsm.adminState ≠ s then .ok { fsm with adminState := s }
  else .error "cannot change to the same state."

/-- The fields `opensent` sets from an OPEN that passed validation. -/
def FSM.negotiate (fsm : FSM) (n : Neighbor) (o : BGPOpen) : FSM :=
  let holdTime : ℚ := o.holdTime
  let negotiated := if holdTime > n.holdTime then n.holdTime else holdTime
  { fsm with
    peerID := o.ID
    capMap := (open2Cap o n).1
    rfMap := (open2Cap o n).2
    negotiatedHoldTime := negotiated
    keepaliveInterval := if negotiated < n.holdTime then negotiated / 3 else n.keepaliveInterval }

/-! ## Handlers -/

/-- The cases a handler's `select` takes. -/
inductive Event
  | dying
  | connCh (c : Nat)
  | idleHoldTimer
  | adminStateCh (s : AdminState)
  | msgCh (d : MsgData)
  | errorCh (r : FsmStateReason)
  | holdTimer
  | ticker
  | holdTimerResetCh
  deriving DecidableEq, Repr

/-- A handler's next state: a state, or `bgp.FSMState(-1)` when the tomb is dying. -/
inductive NextState
  | state (s : FSMState)
  | dying
  deriving DecidableEq, Repr

def NextState.toInt : NextState → Int
  | .state s => s.toInt
  | .dying => -1

/-- What one case of a handler's `select` does: the handler waits again, returns, or panics. -/
inductive Outcome
  | stay (fsm : FSM)
  | leave (fsm : FSM) (next : NextState) (reason : FsmStateReason)
  | panic (msg : String)
  deriving DecidableEq, Repr

/-- An admin request in IDLE or ESTABLISHED: the handler stays whether or not it is taken. -/
def stayOnAdmin (fsm : FSM) (s : AdminState) : Outcome :=
  match changeAdminState fsm s with
  | .ok fsm' => .stay fsm'
  | .error _ => .stay fsm

/-- An admin request in ACTIVE, OPENSENT or OPENCONFIRM: a taken DOWN leads to IDLE, a
taken UP is a logic bug. -/
def leaveOnAdmin (fsm : FSM) (s : AdminState) : Outcome :=
  match changeAdminState fsm s with
  | .ok fsm' => match s with
    | .down => .leave fsm' (.state .idle) .adminDown
    | .up => .panic "code logic bug"
  | .error _ => .stay fsm

def idle (fsm : FSM) : Event → Outcome
  | .dying => .leave fsm .dying .dying
  | .idleHoldTimer =>
    if fsm.adminState = .up then
      .leave { fsm with idleHoldTime := HOLDTIME_IDLE } (.state .active) .idleHoldTimerExpired
    else .stay fsm
  | .adminStateCh s => stayOnAdmin fsm s
  | _ => .stay fsm

def active (fsm : FSM) : Event → Outcome
  | .dying => .leave fsm .dying .dying
  | .connCh c => .leave { fsm with conn := some c, received := [] } (.state .opensent) .zero
  | .errorCh r => .leave fsm (.state .idle) r
  | .adminStateCh s => leaveOnAdmin fsm s
  | _ => .stay fsm

section Handshake

variable (validateOpenMsg : BGPOpen → Nat → Except MessageError Unit) (n : Neighbor)

/-- A message from the receive goroutine in OPENSENT: an OPEN that passes validation leads
to OPENCONFIRM, anything else to IDLE. -/
def opensentMsg (fsm : FSM) (m : BGPMessage) : Outcome :=
  let fsm := { fsm with received := fsm.received ++ [m] }
  match m with
  | .bgpOpen o =>
    let fsm := { fsm with recvOpen := some m }
    match validateOpenMsg o n.peerAs with
    | .error _ => .leave fsm (.state .idle) .invalidMsg
    | .ok () => .leave (fsm.negotiate n o) (.state .openconfirm) .zero
  | _ => .leave fsm (.state .idle) .invalidMsg

def opensent (fsm : FSM) : Event → Outcome
  | .dying => .leave fsm .dying .dying
  | .msgCh (.message m) => opensentMsg validateOpenMsg n fsm m
  | .msgCh (.messageError _) => .leave fsm (.state .idle) .invalidMsg
  | .msgCh .other => .panic "unknown msg type"
  | .errorCh r => .leave fsm (.state .idle) r
  | .holdTimer => .leave fsm (.state .idle) .holdTimerExpired
  | .adminStateCh s => leaveOnAdmin fsm s
  | _ => .stay fsm

end Handshake

def openconfirm (fsm : FSM) : Event → Outcome
  | .dying => .leave fsm .dying .dying
  | .msgCh (.message m) =>
    .leave { fsm with received := fsm.received ++ [m] }
      (.state (if m.type = BGP_MSG_KEEPALIVE then .established else .idle)) .zero
  | .msgCh (.messageError _) => .leave fsm (.state .idle) .invalidMsg
  | .msgCh .other => .panic "unknown msg type"
  | .errorCh r => .leave fsm (.state .idle) r
  | .holdTimer => .leave fsm (.state .idle) .holdTimerExpired
  | .adminStateCh s => leaveOnAdmin fsm s
  | _ => .stay fsm

/-- A taken admin DOWN in ESTABLISHED queues a CEASE NOTIFICATION and stays. -/
def established (fsm : FSM) : Event → Outcome
  | .dying => .leave fsm .dying .dying
  | .errorCh r => .leave fsm (.state .idle) r
  | .holdTimer => .leave fsm (.state .idle) .holdTimerExpired
  | .adminStateCh s => stayOnAdmin fsm s
  | _ => .stay fsm

/-- The handler `loop` runs for the FSM's state; in CONNECT none runs and `nextState`
keeps its initial -1. -/
def handler (validateOpenMsg : BGPOpen → Nat → Except MessageError Unit) (n : Neighbor)
    (fsm : FSM) (ev : Event) : Outcome :=
  match fsm.state with
  | .idle => idle fsm ev
  | .connect => .leave fsm .dying .zero
  | .active => active fsm ev
  | .opensent => opensent validateOpenMsg n fsm ev
  | .openconfirm => openconfirm fsm ev
  | .established => established fsm ev

/-! ## Runs -/

inductive Phase
  | running
  | stopped
  | crashed (msg : String)
  deriving DecidableEq, Repr

/-- The FSM with its handler's phase, and each report on `stateCh` with the state the FSM
was in when it was made. -/
structure Sys where
  fsm : FSM
  phase : Phase
  stateCh : List (FSMState × NextState)
  deriving DecidableEq, Repr

section Run

variable (validateOpenMsg : BGPOpen → Nat → Except MessageError Unit) (n : Neighbor)

def Sys.init : Sys := ⟨newFSM n, .running, []⟩

/-- One case taken by the running handler. When it returns, `loop` stores the reason and
reports a next state of at least `BGP_FSM_IDLE`, which the server applies with
`StateChange` before it starts the next handler; a dying handler reports nothing. -/
def Sys.step (s : Sys) (ev : Event) : Sys :=
  match s.phase with
  | .running =>
    match handler validateOpenMsg n s.fsm ev with
    | .stay fsm => { s with fsm := fsm }
    | .leave fsm next reason =>
      let fsm := { fsm with reason := reason }
      if next.toInt ≥ FSMState.idle.toInt then
        ⟨match next with
          | .state t => fsm.stateChange t
          | .dying => fsm, .running, s.stateCh ++ [(fsm.state, next)]⟩
      else ⟨fsm, .stopped, s.stateCh⟩
    | .panic msg => { s with phase := .crashed msg }
  | _ => s

theorem FSMState.toInt_nonneg (s : FSMState) : FSMState.idle.toInt ≤ s.toInt := by
  cases s <;> decide

variable {validateOpenMsg n} {s : Sys} {ev : Event}

theorem Sys.step_halted (h : s.phase ≠ .running) : s.step validateOpenMsg n ev = s := by
  unfold Sys.step; split <;> simp_all

theorem Sys.step_stay {f : FSM} (hrun : s.phase = .running)
    (h : handler validateOpenMsg n s.fsm ev = .stay f) : s.step validateOpenMsg n ev = { s with fsm := f } := by
  simp [Sys.step, hrun, h]

theorem Sys.step_leave {f : FSM} {t : FSMState} {r : FsmStateReason} (hrun : s.phase = .running)
    (h : handler validateOpenMsg n s.fsm ev = .leave f (.state t) r) :
    s.step validateOpenMsg n ev = ⟨{ f with reason := r }.stateChange t, .running, s.stateCh ++ [(f.state, .state t)]⟩ := by
  simp only [Sys.step, hrun, h]
  rw [if_pos (show (NextState.state t).toInt ≥ FSMState.idle.toInt from t.toInt_nonneg)]

theorem Sys.step_dying {f : FSM} {r : FsmStateReason} (hrun : s.phase = .running)
    (h : handler validateOpenMsg n s.fsm ev = .leave f .dying r) :
    s.step validateOpenMsg n ev = ⟨{ f with reason := r }, .stopped, s.stateCh⟩ := by
  simp only [Sys.step, hrun, h]
  rw [if_neg (show ¬NextState.dying.toInt ≥ FSMState.idle.toInt by decide)]

theorem Sys.step_panic {msg : String} (hrun : s.phase = .running)
    (h : handler validateOpenMsg n s.fsm ev = .panic msg) :
    s.step validateOpenMsg n ev = { s with phase := .crashed msg } := by
  simp [Sys.step, hrun, h]

variable (validateOpenMsg n)

def Sys.run : Sys → List Event → Sys
  | s, [] => s
  | s, ev :: evs => (s.step validateOpenMsg n ev).run evs

/-- The configurations of every run from `NewFSM`. -/
def Reachable (s : Sys) : Prop := ∃ evs, (Sys.init n).run validateOpenMsg n evs = s

end Run

end GoBgp
