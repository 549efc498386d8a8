import GoBgp.OpenNegotiation

/-!
# Two speakers on one connection

Each speaker runs the FSM of `fsm.go` for the other, and what one writes the other reads in
order. The handlers write the OPEN and the KEEPALIVEs of the handshake; in ESTABLISHED
`sendMessageloop` writes the ticker's KEEPALIVEs, the CEASE of a dying tomb, and what waits on
`h.outgoing`, where the state handler and the server queue messages. Whatever the order of the
steps, an OPEN a speaker reads is its peer's (`session_agreement`).
-/

namespace GoBgp

/-! ## The OPEN a speaker sends -/

/-- The `config.Global` fields the FSM reads: the local AS and the router ID. -/
structure GlobalConfig where
  AS : Nat
  routerId : List UInt8
  deriving DecidableEq, Repr

/-- A speaker's configuration for its peer: `fsm.gConf` and `fsm.pConf`. -/
structure Speaker where
  global : GlobalConfig
  neighbor : Neighbor
  deriving DecidableEq, Repr

def BGP_CAP_ROUTE_REFRESH : Nat := 2
def BGP_CAP_FOUR_OCTET_AS_NUMBER : Nat := 65

/-- `NewCapFourOctetASNumber(as)`: the AS in four octets, most significant first. -/
def capFourOctetASNumber (as : Nat) : Capability :=
  .other BGP_CAP_FOUR_OCTET_AS_NUMBER
    [(as / 2 ^ 24 % 256).toUInt8, (as / 2 ^ 16 % 256).toUInt8, (as / 2 ^ 8 % 256).toUInt8, (as % 256).toUInt8]
    (by decide)

/-- `capabilitiesFromConfig`: route refresh, a MultiProtocol capability for each configured
family, and the four-octet AS. -/
def capabilitiesFromConfig (g : GlobalConfig) (n : Neighbor) : List Capability :=
  [.other BGP_CAP_ROUTE_REFRESH [] (by decide)] ++ n.afiSafis.map .multiProtocol ++ [capFourOctetASNumber g.AS]

/-- `uint16(x)` of a float64: truncation toward zero, exact below 2^16. Go leaves a value out
of range to the implementation; this keeps the low 16 bits of the truncation. -/
def uint16OfFloat (x : ℚ) : Nat := (x.num.tdiv x.den % 65536).toNat

/-- The body of the OPEN `buildopen` makes: version 4, the local AS (`AS_TRANS` when it needs
four octets), the configured hold time, the router ID, and one capability parameter. -/
def buildopen (g : GlobalConfig) (n : Neighbor) : BGPOpen :=
  ⟨4, if g.AS > 2 ^ 16 - 1 then AS_TRANS else g.AS, uint16OfFloat n.holdTime, g.routerId,
    [.capability (capabilitiesFromConfig g n)]⟩

/-! ## What the handlers write -/

def BGP_ERROR_HOLD_TIMER_EXPIRED : Nat := 4
def BGP_ERROR_CEASE : Nat := 6
def BGP_ERROR_SUB_ADMINISTRATIVE_SHUTDOWN : Nat := 2
def BGP_ERROR_SUB_PEER_DECONFIGURED : Nat := 3

/-- The CEASE the send loop writes when the tomb is dying and the FSM is ESTABLISHED. -/
def peerDeconfigured : BGPMessage := .notification BGP_ERROR_CEASE BGP_ERROR_SUB_PEER_DECONFIGURED []

/-- What `established` queues on `h.outgoing`: the hold-timer NOTIFICATION, and a CEASE for
an admin DOWN it takes. -/
def establishedOutgoing (fsm : FSM) : Event → List BGPMessage
  | .holdTimer => [.notification BGP_ERROR_HOLD_TIMER_EXPIRED 0 []]
  | .adminStateCh .down =>
    if fsm.adminState ≠ .down then [.notification BGP_ERROR_CEASE BGP_ERROR_SUB_ADMINISTRATIVE_SHUTDOWN []]
    else []
  | _ => []

/-- What a handler queues on `h.outgoing` when it takes a case. -/
def queues (fsm : FSM) (ev : Event) : List BGPMessage :=
  if fsm.state = .established then establishedOutgoing fsm ev else []

/-- The NOTIFICATION `sendNotificatonFromErrorMsg` writes for a `MessageError`. -/
def notificationOf (e : MessageError) : BGPMessage := .notification e.typeCode e.subTypeCode e.data

section Writes

variable (validateOpenMsg : BGPOpen → Nat → Except MessageError Unit) (c : Speaker)

/-- `opensent`: a KEEPALIVE after an OPEN it accepts, a NOTIFICATION for an OPEN that fails
validation or a message error, and one when the hold timer expires. -/
def opensentWrites : Event → List BGPMessage
  | .msgCh (.message (.bgpOpen o)) => match validateOpenMsg o c.neighbor.peerAs with
    | .ok () => [.keepalive]
    | .error e => [notificationOf e]
  | .msgCh (.messageError e) => [notificationOf e]
  | .holdTimer => [.notification BGP_ERROR_HOLD_TIMER_EXPIRED 0 []]
  | _ => []

/-- `openconfirm`: a KEEPALIVE on each tick, a NOTIFICATION for a message error and one when
the hold timer expires. -/
def openconfirmWrites : Event → List BGPMessage
  | .ticker => [.keepalive]
  | .msgCh (.messageError e) => [notificationOf e]
  | .holdTimer => [.notification BGP_ERROR_HOLD_TIMER_EXPIRED 0 []]
  | _ => []

/-- What a speaker writes when its handler takes a case: ACTIVE hands `opensent` the
connection and `opensent` first writes its OPEN; in ESTABLISHED `sendMessageloop` writes a
KEEPALIVE on each tick, and the CEASE when the tomb dies. -/
def writes (fsm : FSM) (ev : Event) : List BGPMessage :=
  match fsm.state with
  | .active => match ev with
    | .connCh _ => [.bgpOpen (buildopen c.global c.neighbor)]
    | _ => []
  | .opensent => opensentWrites validateOpenMsg c ev
  | .openconfirm => openconfirmWrites ev
  | .established => match ev with
    | .ticker => [.keepalive]
    | .dying => [peerDeconfigured]
    | _ => []
  | _ => []

theorem writes_open {fsm : FSM} {ev : Event} {o : BGPOpen} (h : .bgpOpen o ∈ writes validateOpenMsg c fsm ev) :
    o = buildopen c.global c.neighbor := by
  unfold writes at h
  split at h
  · split at h <;> simp_all
  · unfold opensentWrites at h
    split at h
    · split at h <;> simp_all [notificationOf]
    all_goals simp_all [notificationOf]
  · unfold openconfirmWrites at h
    split at h <;> simp_all [notificationOf]
  · split at h <;> simp_all [peerDeconfigured]
  all_goals simp_all

theorem open_not_mem_queues {fsm : FSM} {ev : Event} (o : BGPOpen) : .bgpOpen o ∉ queues fsm ev := by
  unfold queues establishedOutgoing
  split
  · split
    · simp
    · split <;> simp
    · simp
  · simp

end Writes

/-! ## The session -/

/-- A speaker on the connection: its FSM with the handler's phase, what its peer wrote that it
has not read yet, and the server's `h.outgoing` queue, in order. -/
structure End where
  sys : Sys
  inbox : List BGPMessage
  outgoing : List BGPMessage
  deriving DecidableEq, Repr

/-- A receive goroutine runs: the handler is OPENSENT, OPENCONFIRM or ESTABLISHED. -/
def Sys.Receiving (s : Sys) : Prop :=
  s.phase = .running ∧ (s.fsm.state = .opensent ∨ s.fsm.state = .openconfirm ∨ s.fsm.state = .established)

instance (s : Sys) : Decidable s.Receiving := inferInstanceAs (Decidable (_ ∧ _))

/-- `sendMessageloop` runs: the handler is ESTABLISHED. -/
def Sys.Sending (s : Sys) : Prop := s.phase = .running ∧ s.fsm.state = .established

instance (s : Sys) : Decidable s.Sending := inferInstanceAs (Decidable (_ ∧ _))

/-- What a speaker does: its handler takes a case that reads nothing from the connection, its
receive goroutine reads the next message and the handler takes it, its server queues a message
on `h.outgoing`, or `sendMessageloop` writes the head of that queue. -/
inductive Move
  | select (ev : Event)
  | deliver
  | enqueue (m : BGPMessage)
  | send
  deriving DecidableEq, Repr

inductive Side
  | a
  | b
  deriving DecidableEq, Repr

structure Session where
  a : End
  b : End
  deriving DecidableEq, Repr

section Step

variable (validateOpenMsg : BGPOpen → Nat → Except MessageError Unit) (c : Speaker)

/-- The speaker `x` takes a case: its system steps, what it queues goes to the end of its
`outgoing`, and what it writes to the end of its peer's inbox. -/
def End.take (x y : End) (ev : Event) : End × End :=
  (⟨x.sys.step validateOpenMsg c.neighbor ev, x.inbox,
      if x.sys.phase = .running then x.outgoing ++ queues x.sys.fsm ev else x.outgoing⟩,
   { y with inbox := if x.sys.phase = .running then y.inbox ++ writes validateOpenMsg c x.sys.fsm ev else y.inbox })

/-- A move of the speaker `x`, configured as `c`, toward its peer `y`. -/
def End.move (x y : End) : Move → Option (End × End)
  | .select (.msgCh _) => none
  | .select ev => some (x.take validateOpenMsg c y ev)
  | .deliver => match x.inbox with
    | m :: rest => if x.sys.Receiving then some ({ x with inbox := rest }.take validateOpenMsg c y (.msgCh (.message m)))
      else none
    | [] => none
  | .enqueue (.bgpOpen _) => none
  | .enqueue m => some ({ x with outgoing := x.outgoing ++ [m] }, y)
  | .send => match x.outgoing with
    | m :: rest => if x.sys.Sending then some ({ x with outgoing := rest }, { y with inbox := y.inbox ++ [m] }) else none
    | [] => none

variable (A B : Speaker)

def Session.init : Session := ⟨⟨Sys.init A.neighbor, [], []⟩, ⟨Sys.init B.neighbor, [], []⟩⟩

def Session.step (t : Session) : Side × Move → Option Session
  | (.a, mv) => (t.a.move validateOpenMsg A t.b mv).map fun p => ⟨p.1, p.2⟩
  | (.b, mv) => (t.b.move validateOpenMsg B t.a mv).map fun p => ⟨p.2, p.1⟩

def Session.run : Session → List (Side × Move) → Option Session
  | t, [] => some t
  | t, mv :: mvs => (t.step validateOpenMsg A B mv).bind (·.run mvs)

end Step

/-! ## What a speaker heard from its peer -/

/-- What `opensent` stores from the OPEN it accepts: `peerInfo.ID`, `capMap`, `rfMap` and the
negotiated hold time. -/
def FSM.heard (f : FSM) : List UInt8 × List (Nat × List Capability) × List Nat × ℚ :=
  (f.peerID, f.capMap, f.rfMap, f.negotiatedHoldTime)

/-- What a speaker configured as `c` stores from the OPEN `o`. -/
def heardFrom (c : Speaker) (o : BGPOpen) : List UInt8 × List (Nat × List Capability) × List Nat × ℚ :=
  (o.ID, (open2Cap o c.neighbor).1, (open2Cap o c.neighbor).2, min (o.holdTime : ℚ) c.neighbor.holdTime)

/-- A speaker configured as `cx`, whose peer is configured as `cy`: every OPEN in its inbox is
the peer's, past OPENSENT its FSM holds what it took from that OPEN, and no OPEN waits in its
`outgoing`. -/
structure Heard (cx cy : Speaker) (x : End) : Prop where
  inbox : ∀ o, .bgpOpen o ∈ x.inbox → o = buildopen cy.global cy.neighbor
  negotiated : x.sys.fsm.state = .openconfirm ∨ x.sys.fsm.state = .established →
    x.sys.fsm.heard = heardFrom cx (buildopen cy.global cy.neighbor)
  outgoing : ∀ o, .bgpOpen o ∉ x.outgoing

section Heard

variable {validateOpenMsg : BGPOpen → Nat → Except MessageError Unit} {n : Neighbor}

theorem handler_leave_dying {f f' : FSM} {ev : Event} {r : FsmStateReason}
    (h : handler validateOpenMsg n f ev = .leave f' .dying r) : f' = f := by
  unfold handler at h
  split at h
  all_goals
    cases ev <;> simp only [idle, active, opensent, openconfirm, established, opensentMsg, leaveOnAdmin_eq,
      stayOnAdmin_eq, reduceCtorEq, Outcome.leave.injEq, and_false, false_and] at h
  all_goals first | exact h.1.symm | (repeat' split at h) <;> simp_all

@[simp] theorem FSM.heard_reason (f : FSM) (r : FsmStateReason) : { f with reason := r }.heard = f.heard := rfl
@[simp] theorem FSM.heard_adminState (f : FSM) (a : AdminState) : { f with adminState := a }.heard = f.heard := rfl
@[simp] theorem FSM.heard_stateChange (f : FSM) (t : FSMState) : (f.stateChange t).heard = f.heard := rfl

theorem FSM.negotiate_heard (f : FSM) (c : Speaker) (o : BGPOpen) :
    (f.negotiate c.neighbor o).heard = heardFrom c o := by
  simp only [FSM.heard, heardFrom, FSM.negotiate_negotiatedHoldTime]
  rfl

theorem Sys.step_heard {s : Sys} {ev : Event} {cx : Speaker} {o : BGPOpen}
    (hs : s.fsm.state = .openconfirm ∨ s.fsm.state = .established → s.fsm.heard = heardFrom cx o)
    (hev : ∀ o', ev = .msgCh (.message (.bgpOpen o')) → o' = o) :
    (s.step validateOpenMsg cx.neighbor ev).fsm.state = .openconfirm ∨
      (s.step validateOpenMsg cx.neighbor ev).fsm.state = .established →
      (s.step validateOpenMsg cx.neighbor ev).fsm.heard = heardFrom cx o := by
  by_cases hrun : s.phase = .running
  swap
  · rwa [Sys.step_halted hrun]
  cases ho : handler validateOpenMsg cx.neighbor s.fsm ev with
  | stay f =>
    rw [Sys.step_stay hrun ho]
    rcases handler_stay ho with rfl | ⟨-, a, rfl⟩
    · exact hs
    · simpa using hs
  | leave f next r =>
    cases next with
    | dying =>
      rw [Sys.step_dying hrun ho, handler_leave_dying ho]
      simpa using hs
    | state t =>
      rw [Sys.step_leave hrun ho]
      intro ht
      simp only [FSM.stateChange] at ht
      rcases handler_leave ho with ⟨rfl, -⟩ | ⟨-, rfl, -, rfl⟩ | ⟨-, rfl, -, rfl⟩ | ⟨-, rfl, o', hm, -, rfl⟩ |
        ⟨hfrom, rfl, -, rfl⟩
      · simp at ht
      · simp at ht
      · simp at ht
      · rw [FSM.heard_stateChange, FSM.heard_reason, FSM.negotiate_heard, hev o' hm]
      · exact hs (.inl hfrom)
  | panic msg =>
    rw [Sys.step_panic hrun ho]
    exact hs

variable (validateOpenMsg) in
/-- What a move can do: take a case that reads no message, read the head of the inbox while a
receive goroutine runs and take it, queue a message that is no OPEN, or write the head of
`outgoing` in ESTABLISHED. -/
theorem End.move_cases {x y : End} {c : Speaker} {mv : Move} {p : End × End}
    (h : x.move validateOpenMsg c y mv = some p) :
    (∃ ev, mv = .select ev ∧ (∀ d, ev ≠ .msgCh d) ∧ p = x.take validateOpenMsg c y ev) ∨
    (∃ m rest, mv = .deliver ∧ x.inbox = m :: rest ∧ x.sys.Receiving ∧
      p = { x with inbox := rest }.take validateOpenMsg c y (.msgCh (.message m))) ∨
    (∃ m, mv = .enqueue m ∧ (∀ o, m ≠ .bgpOpen o) ∧ p = ({ x with outgoing := x.outgoing ++ [m] }, y)) ∨
    (∃ m rest, mv = .send ∧ x.outgoing = m :: rest ∧ x.sys.Sending ∧
      p = ({ x with outgoing := rest }, { y with inbox := y.inbox ++ [m] })) := by
  cases mv with
  | select ev =>
    cases ev
    case msgCh d => simp [End.move] at h
    all_goals exact .inl ⟨_, rfl, fun _ => nofun, (Option.some.inj h).symm⟩
  | deliver =>
    simp only [End.move] at h
    split at h
    · split at h
      · exact .inr (.inl ⟨_, _, rfl, ‹_›, ‹_›, (Option.some.inj h).symm⟩)
      · cases h
    · cases h
  | enqueue m =>
    cases m
    case bgpOpen o => simp [End.move] at h
    all_goals exact .inr (.inr (.inl ⟨_, rfl, fun _ => nofun, (Option.some.inj h).symm⟩))
  | send =>
    simp only [End.move] at h
    split at h
    · split at h
      · exact .inr (.inr (.inr ⟨_, _, rfl, ‹_›, ‹_›, (Option.some.inj h).symm⟩))
      · cases h
    · cases h

theorem End.take_heard {x y : End} {ev : Event} {cx cy : Speaker} (hx : Heard cx cy x) (hy : Heard cy cx y)
    (hev : ∀ o, ev = .msgCh (.message (.bgpOpen o)) → o = buildopen cy.global cy.neighbor) :
    Heard cx cy (x.take validateOpenMsg cx y ev).1 ∧ Heard cy cx (x.take validateOpenMsg cx y ev).2 := by
  refine ⟨⟨hx.inbox, Sys.step_heard hx.negotiated hev, fun o ho => ?_⟩, ⟨fun o ho => ?_, hy.negotiated, hy.outgoing⟩⟩
  · simp only [End.take] at ho
    split at ho
    · rcases List.mem_append.mp ho with ho | ho
      · exact hx.outgoing o ho
      · exact open_not_mem_queues o ho
    · exact hx.outgoing o ho
  · simp only [End.take] at ho
    split at ho
    · rcases List.mem_append.mp ho with ho | ho
      · exact hy.inbox o ho
      · exact writes_open validateOpenMsg cx ho
    · exact hy.inbox o ho

theorem End.move_heard {x y : End} {mv : Move} {p : End × End} {cx cy : Speaker} (hx : Heard cx cy x)
    (hy : Heard cy cx y) (h : x.move validateOpenMsg cx y mv = some p) : Heard cx cy p.1 ∧ Heard cy cx p.2 := by
  rcases End.move_cases validateOpenMsg h with ⟨ev, -, hne, rfl⟩ | ⟨m, rest, -, hin, -, rfl⟩ |
    ⟨m, -, hm, rfl⟩ | ⟨m, rest, -, hout, -, rfl⟩
  · exact End.take_heard hx hy fun o he => absurd he (hne _)
  · refine End.take_heard ⟨fun o ho => hx.inbox o (by simp [hin, ho]), hx.negotiated, hx.outgoing⟩ hy
      fun o he => ?_
    cases he
    exact hx.inbox o (by simp [hin])
  · refine ⟨⟨hx.inbox, hx.negotiated, fun o ho => ?_⟩, hy⟩
    rcases List.mem_append.mp ho with ho | ho
    · exact hx.outgoing o ho
    · exact hm o (List.mem_singleton.mp ho).symm
  · refine ⟨⟨hx.inbox, hx.negotiated, fun o ho => hx.outgoing o (by simp [hout, ho])⟩,
      ⟨fun o ho => ?_, hy.negotiated, hy.outgoing⟩⟩
    rcases List.mem_append.mp ho with ho | ho
    · exact hy.inbox o ho
    · exact absurd (by simp [hout, (List.mem_singleton.mp ho).symm]) (hx.outgoing o)

end Heard

section Run

variable {validateOpenMsg : BGPOpen → Nat → Except MessageError Unit} {A B : Speaker}

/-- Each speaker heard only the other. -/
def Session.Heard (A B : Speaker) (t : Session) : Prop := GoBgp.Heard A B t.a ∧ GoBgp.Heard B A t.b

theorem Session.init_heard : (Session.init A B).Heard A B :=
  ⟨⟨by simp [Session.init], by simp [Session.init, Sys.init, newFSM], by simp [Session.init]⟩,
    ⟨by simp [Session.init], by simp [Session.init, Sys.init, newFSM], by simp [Session.init]⟩⟩

theorem Session.Heard.step {t t' : Session} {mv : Side × Move} (ht : t.Heard A B)
    (h : t.step validateOpenMsg A B mv = some t') : t'.Heard A B := by
  obtain ⟨side, mv⟩ := mv
  cases side with
  | a =>
    obtain ⟨p, hp, rfl⟩ := Option.map_eq_some'.mp h
    exact End.move_heard ht.1 ht.2 hp
  | b =>
    obtain ⟨p, hp, rfl⟩ := Option.map_eq_some'.mp h
    exact (End.move_heard ht.2 ht.1 hp).symm

theorem Session.Heard.run {t t' : Session} (ht : t.Heard A B) :
    ∀ {mvs : List (Side × Move)}, t.run validateOpenMsg A B mvs = some t' → t'.Heard A B
  | [], h => Option.some.inj h ▸ ht
  | mv :: mvs, h => by
    obtain ⟨t₁, h₁, h₂⟩ := Option.bind_eq_some.mp h
    exact (ht.step h₁).run h₂

theorem uint16OfFloat_natCast {k : Nat} (h : k < 65536) : uint16OfFloat k = k := by
  simp only [uint16OfFloat, Rat.num_natCast, Rat.den_natCast, Nat.cast_one, Int.tdiv_one]
  omega

theorem buildopen_families (g : GlobalConfig) (n : Neighbor) : (buildopen g n).families = n.afiSafis := by
  simp [buildopen, BGPOpen.families, BGPOpen.capabilities, OptionParameter.caps, capabilitiesFromConfig,
    capFourOctetASNumber, Capability.family?, List.filterMap_map, Function.comp_def]

theorem mem_open2Cap_buildopen (cx cy : Speaker) (rf : Nat) :
    rf ∈ (open2Cap (buildopen cy.global cy.neighbor) cx.neighbor).2 ↔
      if cy.neighbor.afiSafis = [] then rf = RF_IPv4_UC else rf ∈ cx.neighbor.afiSafis ∧ rf ∈ cy.neighbor.afiSafis := by
  rw [open2Cap_eq, buildopen_families]
  by_cases h : cy.neighbor.afiSafis = [] <;> simp [h, List.length_pos, createRfMap]

/-- Two speakers past OPENSENT, in any run from `NewFSM` whatever the order of their steps and
whatever timers, errors and admin requests occurred: each holds the other's router ID, both
hold the smaller configured hold time when the hold times are whole seconds below 2^16, and
each accepted the configured families the other also configured, or IPv4 unicast alone when
the other configured none. -/
theorem session_agreement {acts : List (Side × Move)} {t : Session}
    (hrun : (Session.init A B).run validateOpenMsg A B acts = some t)
    (hA : ∃ k : Nat, k < 65536 ∧ A.neighbor.holdTime = k) (hB : ∃ k : Nat, k < 65536 ∧ B.neighbor.holdTime = k)
    (ha : t.a.sys.fsm.state = .openconfirm ∨ t.a.sys.fsm.state = .established)
    (hb : t.b.sys.fsm.state = .openconfirm ∨ t.b.sys.fsm.state = .established) :
    t.a.sys.fsm.peerID = B.global.routerId ∧ t.b.sys.fsm.peerID = A.global.routerId ∧
    t.a.sys.fsm.negotiatedHoldTime = min A.neighbor.holdTime B.neighbor.holdTime ∧
    t.b.sys.fsm.negotiatedHoldTime = min A.neighbor.holdTime B.neighbor.holdTime ∧
    (∀ rf, rf ∈ t.a.sys.fsm.rfMap ↔
      if B.neighbor.afiSafis = [] then rf = RF_IPv4_UC else rf ∈ A.neighbor.afiSafis ∧ rf ∈ B.neighbor.afiSafis) ∧
    (∀ rf, rf ∈ t.b.sys.fsm.rfMap ↔
      if A.neighbor.afiSafis = [] then rf = RF_IPv4_UC else rf ∈ B.neighbor.afiSafis ∧ rf ∈ A.neighbor.afiSafis) := by
  obtain ⟨hha, hhb⟩ := Session.init_heard.run hrun
  have hfa := hha.negotiated ha
  have hfb := hhb.negotiated hb
  simp only [FSM.heard, heardFrom, Prod.mk.injEq] at hfa hfb
  obtain ⟨kA, hkA, hA⟩ := hA
  obtain ⟨kB, hkB, hB⟩ := hB
  have hoA : ((buildopen A.global A.neighbor).holdTime : ℚ) = kA := by
    simp only [buildopen, hA, uint16OfFloat_natCast hkA]
  have hoB : ((buildopen B.global B.neighbor).holdTime : ℚ) = kB := by
    simp only [buildopen, hB, uint16OfFloat_natCast hkB]
  refine ⟨hfa.1, hfb.1, ?_, ?_, fun rf => hfa.2.2.1 ▸ mem_open2Cap_buildopen A B rf,
    fun rf => hfb.2.2.1 ▸ mem_open2Cap_buildopen B A rf⟩
  · rw [hfa.2.2.2, hoB, hA, hB, min_comm]
  · rw [hfb.2.2.2, hoA, hA, hB]

/-- Two routers configured for each other: AS 65001 (router ID 10.0.0.1, hold time 90) and
AS 65002 (router ID 10.0.0.2, hold time 180). -/
def router1 : Speaker := ⟨⟨65001, [10, 0, 0, 1]⟩, sampleNeighbor⟩
def router2 : Speaker := ⟨⟨65002, [10, 0, 0, 2]⟩, ⟨65001, 180, 60, [RF_IPv4_UC], false⟩⟩

/-- A `ValidateOpenMsg` that checks the peer's AS only. -/
def checkPeerAs (o : BGPOpen) (peerAs : Nat) : Except MessageError Unit :=
  if o.myAS = peerAs then .ok () else .error ⟨2, 2, [], "bad peer AS"⟩

/-- Both routers leave IDLE, take the connection and read each other's OPEN. -/
def openExchange : List (Side × Move) :=
  [(.a, .select .idleHoldTimer), (.b, .select .idleHoldTimer), (.a, .select (.connCh 0)),
    (.b, .select (.connCh 0)), (.a, .deliver), (.b, .deliver)]

theorem session_agreement_two_routers :
    ∃ t, (Session.init router1 router2).run checkPeerAs router1 router2 openExchange = some t ∧
      t.a.sys.fsm.state = .openconfirm ∧ t.b.sys.fsm.state = .openconfirm ∧
      t.a.sys.fsm.peerID = [10, 0, 0, 2] ∧ t.b.sys.fsm.peerID = [10, 0, 0, 1] ∧
      t.a.sys.fsm.negotiatedHoldTime = 90 ∧ t.b.sys.fsm.negotiatedHoldTime = 90 := by
  refine ⟨_, rfl, by decide, by decide, ?_⟩
  obtain ⟨h1, h2, h3, h4, -⟩ := @session_agreement checkPeerAs router1 router2 openExchange _ rfl
    ⟨90, by decide, by norm_num [router1, sampleNeighbor]⟩ ⟨180, by decide, by norm_num [router2]⟩
    (.inl (by decide)) (.inl (by decide))
  exact ⟨h1, h2, h3.trans (by norm_num [router1, router2, sampleNeighbor]),
    h4.trans (by norm_num [router1, router2, sampleNeighbor])⟩

end Run

end GoBgp
