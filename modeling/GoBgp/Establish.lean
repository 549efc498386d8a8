import GoBgp.Session

/-!
# The handshake without failures

Runs in which no timer expires, no error or admin request reaches a handler and the tomb is never
killed, while each server may queue any message but an OPEN on `h.outgoing`. When each speaker
accepts the other's OPEN, both keep to IDLE, ACTIVE, OPENSENT, OPENCONFIRM and ESTABLISHED in that
order, the wire carries only OPENs, KEEPALIVEs and what a server queued, and from every point of
the run both speakers can still reach ESTABLISHED.
-/

namespace GoBgp

/-! ## Benign moves and what they do -/

/-- The cases that are no timer expiry, error, admin request or dying tomb. -/
def Event.benign : Event → Bool
  | .idleHoldTimer | .connCh _ | .ticker | .holdTimerResetCh => true
  | _ => false

def Move.benign : Move → Bool
  | .select ev => ev.benign
  | .deliver | .enqueue _ | .send => true

/-- One speaker's part of a handshake without failures, with the OPEN `o` of its peer, its own
OPEN `o'` and the messages `S` its server may queue: from a state and an inbox to a state and an
inbox, writing some messages. -/
inductive HandshakeMove (o o' : BGPOpen) (S : BGPMessage → Prop) :
    FSMState → List BGPMessage → FSMState → List BGPMessage → List BGPMessage → Prop
  | wait (s w) : HandshakeMove o o' S s w s w []
  | tick (s w) (hs : s = .openconfirm ∨ s = .established) : HandshakeMove o o' S s w s w [.keepalive]
  | send (w m) (hm : S m) : HandshakeMove o o' S .established w .established w [m]
  | read (m w) : HandshakeMove o o' S .established (m :: w) .established w []
  | start (w) : HandshakeMove o o' S .idle w .active w []
  | connect (w) : HandshakeMove o o' S .active w .opensent w [.bgpOpen o']
  | accept (w) : HandshakeMove o o' S .opensent (.bgpOpen o :: w) .openconfirm w [.keepalive]
  | confirm (w) : HandshakeMove o o' S .openconfirm (.keepalive :: w) .established w []

def handshakeReports : FSMState → List (FSMState × NextState)
  | .idle | .connect => []
  | .active => [(.idle, .state .active)]
  | .opensent => [(.idle, .state .active), (.active, .state .opensent)]
  | .openconfirm => [(.idle, .state .active), (.active, .state .opensent), (.opensent, .state .openconfirm)]
  | .established =>
    [(.idle, .state .active), (.active, .state .opensent), (.opensent, .state .openconfirm),
      (.openconfirm, .state .established)]

/-- A speaker configured as `c` on the handshake: its handler runs outside CONNECT, it reported
each step of the handshake up to its state, and its admin state is the one `NewFSM` set. -/
structure OnPath (c : Speaker) (x : End) : Prop where
  running : x.sys.phase = .running
  notConnect : x.sys.fsm.state ≠ .connect
  reports : x.sys.stateCh = handshakeReports x.sys.fsm.state
  admin : x.sys.fsm.adminState = (newFSM c.neighbor).adminState

theorem OnPath.of_sys {c : Speaker} {x x' : End} (h : OnPath c x) (hs : x'.sys = x.sys) : OnPath c x' := by
  obtain ⟨h1, h2, h3, h4⟩ := h
  exact ⟨hs ▸ h1, hs ▸ h2, hs ▸ h3, hs ▸ h4⟩

section Move

variable {validateOpenMsg : BGPOpen → Nat → Except MessageError Unit} {c : Speaker} {x y : End}
  {mv : Move} {p : End × End} {o : BGPOpen} {f : FSM} {ev : Event}

theorem handler_benign (hb : ev.benign) (hcon : f.state ≠ .connect) :
    (f.state = .idle ∧ ev = .idleHoldTimer ∧
      handler validateOpenMsg c.neighbor f ev =
        .leave { f with idleHoldTime := HOLDTIME_IDLE } (.state .active) .idleHoldTimerExpired ∧
      writes validateOpenMsg c f ev = []) ∨
    (∃ k, f.state = .active ∧ ev = .connCh k ∧
      handler validateOpenMsg c.neighbor f ev = .leave { f with conn := some k, received := [] } (.state .opensent) .zero ∧
      writes validateOpenMsg c f ev = [.bgpOpen (buildopen c.global c.neighbor)]) ∨
    (handler validateOpenMsg c.neighbor f ev = .stay f ∧
      (writes validateOpenMsg c f ev = [] ∨
        (f.state = .openconfirm ∨ f.state = .established) ∧ writes validateOpenMsg c f ev = [.keepalive])) := by
  cases ev <;> simp only [Event.benign, Bool.false_eq_true] at hb
  all_goals cases hs : f.state <;>
    simp only [hs, ne_eq, reduceCtorEq, not_false_eq_true, not_true_eq_false, handler, idle, active, opensent,
      openconfirm, established, writes, opensentWrites, openconfirmWrites, and_true, true_and, and_self, and_false,
      Event.connCh.injEq, List.ne_cons_self, List.cons_ne_self, exists_const, exists_eq', or_self, or_false, or_true,
      false_or, Outcome.leave.injEq, FSM.mk.injEq, List.nil_eq, NextState.state.injEq, Option.some.injEq,
      List.cons.injEq] at hcon ⊢
  by_cases hup : f.adminState = .up <;> simp [hup]

theorem queues_benign (hb : ev.benign) : queues f ev = [] := by
  cases ev <;> simp only [Event.benign, Bool.false_eq_true] at hb <;> simp [queues, establishedOutgoing]

theorem queues_msgCh (d : MsgData) : queues f (.msgCh d) = [] := by
  unfold queues
  split <;> rfl

theorem Sys.step_stay_self {s : Sys} (hrun : s.phase = .running)
    (h : handler validateOpenMsg c.neighbor s.fsm ev = .stay s.fsm) : s.step validateOpenMsg c.neighbor ev = s :=
  Sys.step_stay hrun h

theorem OnPath.leave {t : FSMState} {r : FsmStateReason} (hx : OnPath c x)
    (h : handler validateOpenMsg c.neighbor x.sys.fsm ev = .leave f (.state t) r)
    (hf : f.state = x.sys.fsm.state ∧ f.adminState = x.sys.fsm.adminState) (ht : t ≠ .connect)
    (hrep : handshakeReports t = handshakeReports x.sys.fsm.state ++ [(x.sys.fsm.state, .state t)])
    (w q : List BGPMessage) :
    OnPath c ⟨x.sys.step validateOpenMsg c.neighbor ev, w, q⟩ ∧
      (x.sys.step validateOpenMsg c.neighbor ev).fsm.state = t := by
  rw [Sys.step_leave hx.running h]
  refine ⟨⟨rfl, ht, ?_, ?_⟩, rfl⟩
  · simp only [FSM.stateChange, hx.reports, hf.1, hrep]
  · simp only [FSM.stateChange, hf.2, hx.admin]

theorem handler_idle_up (hs : f.state = .idle) (hup : f.adminState = .up) :
    handler validateOpenMsg c.neighbor f .idleHoldTimer =
      .leave { f with idleHoldTime := HOLDTIME_IDLE } (.state .active) .idleHoldTimerExpired := by
  simp [handler, hs, idle, hup]

theorem handler_active_connCh (k : Nat) (hs : f.state = .active) :
    handler validateOpenMsg c.neighbor f (.connCh k) = .leave { f with conn := some k, received := [] } (.state .opensent) .zero := by
  simp [handler, hs, active]

theorem handler_opensent_open (hs : f.state = .opensent) (hv : validateOpenMsg o c.neighbor.peerAs = .ok ()) :
    handler validateOpenMsg c.neighbor f (.msgCh (.message (.bgpOpen o))) =
      .leave (({ f with received := f.received ++ [.bgpOpen o], recvOpen := some (.bgpOpen o) } : FSM).negotiate
        c.neighbor o) (.state .openconfirm) .zero := by
  conv_lhs => simp only [handler, hs]
  exact opensent_open_ok hv

theorem handler_openconfirm_keepalive (hs : f.state = .openconfirm) :
    handler validateOpenMsg c.neighbor f (.msgCh (.message .keepalive)) =
      .leave { f with received := f.received ++ [.keepalive] } (.state .established) .zero := by
  simp [handler, hs, openconfirm, BGPMessage.type, BGP_MSG_KEEPALIVE]

theorem handler_established_msg {m : BGPMessage} (hs : f.state = .established) :
    handler validateOpenMsg c.neighbor f (.msgCh (.message m)) = .stay f := by
  simp [handler, hs, established]

theorem End.move_deliver {m : BGPMessage} {w : List BGPMessage} (hin : x.inbox = m :: w) (hr : x.sys.Receiving) :
    x.move validateOpenMsg c y .deliver = some ({ x with inbox := w }.take validateOpenMsg c y (.msgCh (.message m))) := by
  simp only [End.move, hin, if_pos hr]

/-- A benign move of a speaker on the handshake, whose next message is its peer's OPEN `o` in
OPENSENT and a KEEPALIVE in OPENCONFIRM, keeps it on the handshake and is a `HandshakeMove`; its
server's queue keeps to `S`, and what it writes goes to its peer's inbox. -/
theorem End.move_benign {S : BGPMessage → Prop} (hx : OnPath c x) (hout : ∀ m ∈ x.outgoing, S m)
    (hv : validateOpenMsg o c.neighbor.peerAs = .ok ())
    (hhead : ∀ m w, x.inbox = m :: w →
      (x.sys.fsm.state = .opensent → m = .bgpOpen o) ∧ (x.sys.fsm.state = .openconfirm → m = .keepalive))
    (hb : mv.benign) (hq : ∀ m, mv = .enqueue m → S m) (h : x.move validateOpenMsg c y mv = some p) :
    OnPath c p.1 ∧ (∀ m ∈ p.1.outgoing, S m) ∧ p.2.sys = y.sys ∧ p.2.outgoing = y.outgoing ∧
      ∃ w', p.2.inbox = y.inbox ++ w' ∧
        HandshakeMove o (buildopen c.global c.neighbor) S x.sys.fsm.state x.inbox p.1.sys.fsm.state p.1.inbox w' := by
  rcases End.move_cases validateOpenMsg h with ⟨ev, rfl, -, rfl⟩ | ⟨m, w, rfl, hin, ⟨-, hs⟩, rfl⟩ |
    ⟨m, rfl, -, rfl⟩ | ⟨m, w, rfl, hw, ⟨-, hs⟩, rfl⟩
  case inl =>
    simp only [End.take, hx.running, if_true, queues_benign hb, List.append_nil]
    rcases handler_benign hb hx.notConnect with ⟨hs, rfl, hh, hw⟩ | ⟨k, hs, rfl, hh, hw⟩ | ⟨hh, hw⟩
    · obtain ⟨hp, ht⟩ := hx.leave hh ⟨rfl, rfl⟩ (by decide) (by rw [hs]; rfl) x.inbox x.outgoing
      refine ⟨hp, hout, trivial, trivial, _, congrArg _ hw, ?_⟩
      rw [ht, hs]
      exact .start _
    · obtain ⟨hp, ht⟩ := hx.leave hh ⟨rfl, rfl⟩ (by decide) (by rw [hs]; rfl) x.inbox x.outgoing
      refine ⟨hp, hout, trivial, trivial, _, congrArg _ hw, ?_⟩
      rw [ht, hs]
      exact .connect _
    · rw [Sys.step_stay_self hx.running hh]
      refine ⟨hx, hout, trivial, trivial, _, rfl, ?_⟩
      rcases hw with hw | ⟨hs, hw⟩ <;> rw [hw]
      · exact .wait _ _
      · exact .tick _ _ hs
  case inr.inl =>
    obtain ⟨hopen, hka⟩ := hhead m w hin
    simp only [End.take, hx.running, if_true, queues_msgCh, List.append_nil]
    rw [hin]
    rcases hs with hs | hs | hs
    · obtain rfl := hopen hs
      obtain ⟨hp, ht⟩ := hx.leave (handler_opensent_open hs hv) ⟨rfl, rfl⟩ (by decide) (by rw [hs]; rfl) w x.outgoing
      refine ⟨hp, hout, trivial, trivial, [.keepalive], by simp [writes, hs, opensentWrites, hv], ?_⟩
      rw [ht, hs]
      exact .accept _
    · obtain rfl := hka hs
      obtain ⟨hp, ht⟩ := hx.leave (handler_openconfirm_keepalive hs) ⟨rfl, rfl⟩ (by decide) (by rw [hs]; rfl) w
        x.outgoing
      refine ⟨hp, hout, trivial, trivial, [], by simp [writes, hs, openconfirmWrites], ?_⟩
      rw [ht, hs]
      exact .confirm _
    · rw [Sys.step_stay_self hx.running (handler_established_msg hs)]
      refine ⟨hx.of_sys rfl, hout, trivial, trivial, [], by simp [writes, hs], ?_⟩
      rw [hs]
      exact .read _ _
  case inr.inr.inl =>
    refine ⟨hx.of_sys rfl, fun m' hm' => ?_, rfl, rfl, [], (List.append_nil _).symm, .wait _ _⟩
    rcases List.mem_append.mp hm' with hm' | hm'
    · exact hout m' hm'
    · exact List.mem_singleton.mp hm' ▸ hq m rfl
  case inr.inr.inr =>
    refine ⟨hx.of_sys rfl, fun m' hm' => hout m' (by rw [hw]; exact List.mem_cons_of_mem _ hm'), rfl, rfl, [m], rfl,
      ?_⟩
    show HandshakeMove _ _ S x.sys.fsm.state x.inbox x.sys.fsm.state x.inbox [m]
    rw [hs]
    exact .send _ _ (hout m (by rw [hw]; exact List.mem_cons_self _ _))

end Move

/-! ## What is in flight -/

/-- What a speaker whose OPEN is `o` has written by the time it is in `s`: its OPEN, the
KEEPALIVE for the OPEN it accepted, and then `ws`. -/
def sentBy (o : BGPOpen) (ws : List BGPMessage) : FSMState → List BGPMessage
  | .opensent => [.bgpOpen o]
  | .openconfirm | .established => .bgpOpen o :: .keepalive :: ws
  | _ => []

def readIn : FSMState → Nat → Prop
  | .openconfirm, j => j = 1
  | .established, j => 2 ≤ j
  | _, j => j = 0

/-- The inbox `w` of a speaker in `r` whose peer, in `s`, has the OPEN `o` and a server that
queues only `S`: what the peer wrote and the speaker has not read. -/
def InFlight (o : BGPOpen) (S : BGPMessage → Prop) (r s : FSMState) (w : List BGPMessage) : Prop :=
  ∃ ws j, (∀ m ∈ ws, m = .keepalive ∨ S m) ∧ w = (sentBy o ws s).drop j ∧ j ≤ (sentBy o ws s).length ∧ readIn r j

section InFlight

variable {o : BGPOpen} {S : BGPMessage → Prop} {r r' s s' : FSMState} {m : BGPMessage} {w w' : List BGPMessage}

theorem InFlight.head (h : InFlight o S r s (m :: w)) :
    (r = .opensent → m = .bgpOpen o) ∧ (r = .openconfirm → m = .keepalive) := by
  obtain ⟨ws, j, -, hw, -, hr⟩ := h
  constructor <;> rintro rfl <;> simp only [readIn] at hr <;> subst hr <;> cases s <;> simp_all [sentBy]

theorem InFlight.append (h : InFlight o S r s w)
    (hs : ∀ ws, (∀ m ∈ ws, m = .keepalive ∨ S m) →
      ∃ ws', (∀ m ∈ ws', m = .keepalive ∨ S m) ∧ sentBy o ws' s' = sentBy o ws s ++ w') :
    InFlight o S r s' (w ++ w') := by
  obtain ⟨ws, j, hws, rfl, hj, hr⟩ := h
  obtain ⟨ws', hws', hk'⟩ := hs ws hws
  refine ⟨ws', j, hws', ?_, ?_, hr⟩
  · rw [hk', List.drop_append_of_le_length hj]
  · rw [hk', List.length_append]
    omega

theorem InFlight.snoc (h : InFlight o S r s w) (hs : s = .openconfirm ∨ s = .established)
    (hm : m = .keepalive ∨ S m) : InFlight o S r s (w ++ [m]) := by
  refine h.append fun ws hws => ⟨ws ++ [m], fun m' hm' => ?_, ?_⟩
  · rcases List.mem_append.mp hm' with hm' | hm'
    · exact hws m' hm'
    · exact List.mem_singleton.mp hm' ▸ hm
  · rcases hs with rfl | rfl <;> rfl

theorem InFlight.pop (h : InFlight o S r s (m :: w)) (hr : ∀ j, readIn r j → readIn r' (j + 1)) :
    InFlight o S r' s w := by
  obtain ⟨ws, j, hws, hw, hj, hrj⟩ := h
  have hlen : j < (sentBy o ws s).length := by
    have := congrArg List.length hw
    simp only [List.length_cons, List.length_drop] at this
    omega
  exact ⟨ws, j + 1, hws, by rw [← List.tail_drop, ← hw, List.tail_cons], hlen, hr j hrj⟩

/-- A move of a speaker keeps what is in flight toward it and toward its peer. -/
theorem HandshakeMove.inFlight {o' : BGPOpen} {S' : BGPMessage → Prop} {sx sx' sy : FSMState}
    {wx wx' wy : List BGPMessage} (hm : HandshakeMove o o' S sx wx sx' wx' w') (hx : InFlight o S' sx sy wx)
    (hy : InFlight o' S sy sx wy) : InFlight o S' sx' sy wx' ∧ InFlight o' S sy sx' (wy ++ w') := by
  cases hm with
  | wait => exact ⟨hx, by rwa [List.append_nil]⟩
  | tick _ _ hs => exact ⟨hx, hy.snoc hs (.inl rfl)⟩
  | send _ _ hm => exact ⟨hx, hy.snoc (.inr rfl) (.inr hm)⟩
  | read => exact ⟨hx.pop fun j hj => by simp only [readIn] at hj ⊢; omega, by rwa [List.append_nil]⟩
  | start => exact ⟨hx, hy.append fun ws hws => ⟨ws, hws, rfl⟩⟩
  | connect => exact ⟨hx, hy.append fun ws hws => ⟨ws, hws, rfl⟩⟩
  | accept =>
    exact ⟨hx.pop fun j hj => by simp only [readIn] at hj ⊢; omega, hy.append fun _ _ => ⟨[], by simp, rfl⟩⟩
  | confirm =>
    exact ⟨hx.pop fun j hj => by simp only [readIn] at hj ⊢; omega, hy.append fun ws hws => ⟨ws, hws, by simp [sentBy]⟩⟩

theorem mem_sentBy {ws : List BGPMessage} (h : m ∈ sentBy o ws s) : m = .bgpOpen o ∨ m = .keepalive ∨ m ∈ ws := by
  cases s <;> simp_all [sentBy]

theorem InFlight.mem (h : InFlight o S r s w) (hm : m ∈ w) : m = .bgpOpen o ∨ m = .keepalive ∨ S m := by
  obtain ⟨ws, j, hws, rfl, -, -⟩ := h
  rcases mem_sentBy (List.mem_of_mem_drop hm) with h | h | h
  · exact .inl h
  · exact .inr (.inl h)
  · exact .inr (hws m h)

theorem InFlight.nil_opensent (h : InFlight o S .opensent s []) : s = .idle ∨ s = .connect ∨ s = .active := by
  obtain ⟨ws, j, -, hw, -, rfl⟩ := h
  cases s <;> simp_all [sentBy]

theorem InFlight.nil_openconfirm (h : InFlight o S .openconfirm s []) : s = .opensent := by
  obtain ⟨ws, j, -, hw, hj, rfl⟩ := h
  cases s <;> simp_all [sentBy]

theorem InFlight.opensent_head (h : InFlight o S .opensent s w) (hs : s = .openconfirm) :
    ∃ w', w = .bgpOpen o :: w' := by
  obtain ⟨ws, j, -, rfl, -, rfl⟩ := h
  subst hs
  exact ⟨_, rfl⟩

end InFlight

/-! ## The session on the handshake -/

theorem InFlight.established_of_nil {ox oy : BGPOpen} {Sx Sy : BGPMessage → Prop} {sx sy : FSMState}
    (hxi : InFlight oy Sy sx sy []) (hyi : InFlight ox Sx sy sx []) (hx : sx ≠ .idle ∧ sx ≠ .connect ∧ sx ≠ .active)
    (hy : sy ≠ .idle ∧ sy ≠ .connect ∧ sy ≠ .active) : sx = .established := by
  cases sx
  case opensent => rcases hxi.nil_opensent with h | h | h <;> simp_all
  case openconfirm =>
    obtain ⟨w, hw⟩ := (hxi.nil_openconfirm ▸ hyi).opensent_head rfl
    cases hw
  all_goals simp_all

theorem OnPath.length_le {c : Speaker} {x : End} (h : OnPath c x) : x.sys.stateCh.length ≤ 4 := by
  rw [h.reports]
  cases x.sys.fsm.state <;> simp [handshakeReports]

/-- The speaker can take the next step of the handshake by itself: the idle hold timer in IDLE,
a connection in ACTIVE, and its peer's OPEN or a KEEPALIVE to read in OPENSENT or OPENCONFIRM. -/
def Ready (o : BGPOpen) (x : End) : Prop :=
  x.sys.fsm.state = .idle ∨ x.sys.fsm.state = .active ∨
    (x.sys.fsm.state = .opensent ∧ ∃ w, x.inbox = .bgpOpen o :: w) ∨
    (x.sys.fsm.state = .openconfirm ∧ ∃ w, x.inbox = .keepalive :: w)

theorem ready_either {cx cy : Speaker} {x y : End} {Sx Sy : BGPMessage → Prop} (hx : OnPath cx x) (hy : OnPath cy y)
    (hxi : InFlight (buildopen cy.global cy.neighbor) Sy x.sys.fsm.state y.sys.fsm.state x.inbox)
    (hyi : InFlight (buildopen cx.global cx.neighbor) Sx y.sys.fsm.state x.sys.fsm.state y.inbox)
    (hne : x.sys.fsm.state ≠ .established) :
    Ready (buildopen cy.global cy.neighbor) x ∨ Ready (buildopen cx.global cx.neighbor) y := by
  cases hs : x.sys.fsm.state
  case idle => exact .inl (.inl hs)
  case active => exact .inl (.inr (.inl hs))
  case connect => exact absurd hs hx.notConnect
  case established => exact absurd hs hne
  case opensent =>
    rw [hs] at hxi hyi
    cases hw : x.inbox with
    | cons m w =>
      rw [hw] at hxi
      exact .inl (.inr (.inr (.inl ⟨hs, w, by rw [hw, hxi.head.1 rfl]⟩)))
    | nil =>
      rw [hw] at hxi
      rcases hxi.nil_opensent with h | h | h
      · exact .inr (.inl h)
      · exact absurd h hy.notConnect
      · exact .inr (.inr (.inl h))
  case openconfirm =>
    rw [hs] at hxi hyi
    cases hw : x.inbox with
    | cons m w =>
      rw [hw] at hxi
      exact .inl (.inr (.inr (.inr ⟨hs, w, by rw [hw, hxi.head.2 rfl]⟩)))
    | nil =>
      rw [hw] at hxi
      have hsy := hxi.nil_openconfirm
      exact .inr (.inr (.inr (.inl ⟨hsy, (hsy ▸ hyi).opensent_head rfl⟩)))

section Session

variable {validateOpenMsg : BGPOpen → Nat → Except MessageError Unit}

theorem Sys.step_leave_length {s : Sys} {n : Neighbor} {ev : Event} {f : FSM} {t : FSMState} {r : FsmStateReason}
    (hrun : s.phase = .running) (h : handler validateOpenMsg n s.fsm ev = .leave f (.state t) r) :
    (s.step validateOpenMsg n ev).stateCh.length = s.stateCh.length + 1 := by
  rw [Sys.step_leave hrun h, List.length_append, List.length_singleton]

theorem End.advance {c : Speaker} {x y : End} {o : BGPOpen} (hx : OnPath c x) (hup : c.neighbor.adminDown = false)
    (hv : validateOpenMsg o c.neighbor.peerAs = .ok ()) (hr : Ready o x) :
    ∃ mv p, mv.benign ∧ x.move validateOpenMsg c y mv = some p ∧
      x.sys.stateCh.length < p.1.sys.stateCh.length ∧ p.2.sys = y.sys := by
  rcases hr with hs | hs | ⟨hs, w, hin⟩ | ⟨hs, w, hin⟩
  · have hup' : x.sys.fsm.adminState = .up := by simp [hx.admin, newFSM, hup]
    exact ⟨.select .idleHoldTimer, _, rfl, rfl,
      by simp [End.take, Sys.step_leave_length hx.running (handler_idle_up hs hup')], rfl⟩
  · exact ⟨.select (.connCh 0), _, rfl, rfl,
      by simp [End.take, Sys.step_leave_length hx.running (handler_active_connCh 0 hs)], rfl⟩
  · exact ⟨.deliver, _, rfl, End.move_deliver hin ⟨hx.running, .inl hs⟩,
      by simp [End.take, Sys.step_leave_length hx.running (handler_opensent_open hs hv)], rfl⟩
  · exact ⟨.deliver, _, rfl, End.move_deliver hin ⟨hx.running, .inr (.inl hs)⟩,
      by simp [End.take, Sys.step_leave_length hx.running (handler_openconfirm_keepalive hs)], rfl⟩

theorem End.move_onPath {x y : End} {mv : Move} {p : End × End} {cx cy : Speaker} {Sx Sy : BGPMessage → Prop}
    (hx : OnPath cx x) (hy : OnPath cy y)
    (hxi : InFlight (buildopen cy.global cy.neighbor) Sy x.sys.fsm.state y.sys.fsm.state x.inbox)
    (hyi : InFlight (buildopen cx.global cx.neighbor) Sx y.sys.fsm.state x.sys.fsm.state y.inbox)
    (hxo : ∀ m ∈ x.outgoing, Sx m) (hyo : ∀ m ∈ y.outgoing, Sy m)
    (hv : validateOpenMsg (buildopen cy.global cy.neighbor) cx.neighbor.peerAs = .ok ()) (hb : mv.benign)
    (hq : ∀ m, mv = .enqueue m → Sx m) (h : x.move validateOpenMsg cx y mv = some p) :
    OnPath cx p.1 ∧ OnPath cy p.2 ∧
      InFlight (buildopen cy.global cy.neighbor) Sy p.1.sys.fsm.state p.2.sys.fsm.state p.1.inbox ∧
      InFlight (buildopen cx.global cx.neighbor) Sx p.2.sys.fsm.state p.1.sys.fsm.state p.2.inbox ∧
      (∀ m ∈ p.1.outgoing, Sx m) ∧ (∀ m ∈ p.2.outgoing, Sy m) := by
  obtain ⟨hp, hpo, hsys, hout, w', hw, hm⟩ := End.move_benign hx hxo hv (fun m w hin => (hin ▸ hxi).head) hb hq h
  obtain ⟨h1, h2⟩ := hm.inFlight hxi hyi
  rw [hsys, hw, hout]
  exact ⟨hp, hy.of_sys hsys, h1, h2, hpo, hyo⟩

variable {A B : Speaker} {S : Side → BGPMessage → Prop}

/-- Both speakers on the handshake, each inbox holding what the other wrote and it has not read,
and each server's queue holding only what `S` allows that side. -/
structure Session.OnPath (A B : Speaker) (S : Side → BGPMessage → Prop) (t : Session) : Prop where
  a : GoBgp.OnPath A t.a
  b : GoBgp.OnPath B t.b
  toA : InFlight (buildopen B.global B.neighbor) (S .b) t.a.sys.fsm.state t.b.sys.fsm.state t.a.inbox
  toB : InFlight (buildopen A.global A.neighbor) (S .a) t.b.sys.fsm.state t.a.sys.fsm.state t.b.inbox
  outA : ∀ m ∈ t.a.outgoing, S .a m
  outB : ∀ m ∈ t.b.outgoing, S .b m

theorem Session.init_onPath : (Session.init A B).OnPath A B S :=
  ⟨⟨rfl, nofun, rfl, rfl⟩, ⟨rfl, nofun, rfl, rfl⟩, ⟨[], 0, nofun, rfl, le_rfl, rfl⟩, ⟨[], 0, nofun, rfl, le_rfl, rfl⟩,
    nofun, nofun⟩

def Session.Advances (validateOpenMsg : BGPOpen → Nat → Except MessageError Unit) (A B : Speaker)
    (t : Session) : Prop :=
  ∃ mv t', mv.2.benign ∧ t.step validateOpenMsg A B mv = some t' ∧
    t.a.sys.stateCh.length + t.b.sys.stateCh.length < t'.a.sys.stateCh.length + t'.b.sys.stateCh.length

section Accepting

variable (hvA : validateOpenMsg (buildopen B.global B.neighbor) A.neighbor.peerAs = .ok ())
  (hvB : validateOpenMsg (buildopen A.global A.neighbor) B.neighbor.peerAs = .ok ())
include hvA hvB

theorem Session.OnPath.step {t t' : Session} {mv : Side × Move} (ht : t.OnPath A B S) (hb : mv.2.benign)
    (hq : ∀ m, mv.2 = .enqueue m → S mv.1 m) (h : t.step validateOpenMsg A B mv = some t') : t'.OnPath A B S := by
  obtain ⟨side, mv⟩ := mv
  cases side with
  | a =>
    obtain ⟨p, hp, rfl⟩ := Option.map_eq_some'.mp h
    obtain ⟨h1, h2, h3, h4, h5, h6⟩ := End.move_onPath ht.a ht.b ht.toA ht.toB ht.outA ht.outB hvA hb hq hp
    exact ⟨h1, h2, h3, h4, h5, h6⟩
  | b =>
    obtain ⟨p, hp, rfl⟩ := Option.map_eq_some'.mp h
    obtain ⟨h1, h2, h3, h4, h5, h6⟩ := End.move_onPath ht.b ht.a ht.toB ht.toA ht.outB ht.outA hvB hb hq hp
    exact ⟨h2, h1, h4, h3, h6, h5⟩

theorem Session.OnPath.run {t t' : Session} (ht : t.OnPath A B S) :
    ∀ {mvs : List (Side × Move)}, (∀ mv ∈ mvs, mv.2.benign ∧ ∀ m, mv.2 = .enqueue m → S mv.1 m) →
      t.run validateOpenMsg A B mvs = some t' → t'.OnPath A B S
  | [], _, h => Option.some.inj h ▸ ht
  | mv :: mvs, hb, h => by
    obtain ⟨t₁, h₁, h₂⟩ := Option.bind_eq_some.mp h
    obtain ⟨hb₁, hq₁⟩ := hb mv (List.mem_cons_self _ _)
    exact (ht.step hvA hvB hb₁ hq₁ h₁).run (fun mv hm => hb mv (List.mem_cons_of_mem _ hm)) h₂

variable (hupA : A.neighbor.adminDown = false) (hupB : B.neighbor.adminDown = false)
include hupA hupB

theorem Session.OnPath.progress {t : Session} (ht : t.OnPath A B S)
    (hne : t.a.sys.fsm.state ≠ .established ∨ t.b.sys.fsm.state ≠ .established) :
    t.Advances validateOpenMsg A B := by
  have advA : Ready (buildopen B.global B.neighbor) t.a → t.Advances validateOpenMsg A B := fun hr => by
    obtain ⟨mv, p, hb, hp, hlt, hsys⟩ := End.advance (y := t.b) ht.a hupA hvA hr
    exact ⟨(.a, mv), ⟨p.1, p.2⟩, hb, by simp [Session.step, hp], by dsimp only; rw [hsys]; omega⟩
  have advB : Ready (buildopen A.global A.neighbor) t.b → t.Advances validateOpenMsg A B := fun hr => by
    obtain ⟨mv, p, hb, hp, hlt, hsys⟩ := End.advance (y := t.a) ht.b hupB hvB hr
    exact ⟨(.b, mv), ⟨p.2, p.1⟩, hb, by simp [Session.step, hp], by dsimp only; rw [hsys]; omega⟩
  rcases hne with hne | hne
  · exact (ready_either ht.a ht.b ht.toA ht.toB hne).elim advA advB
  · exact (ready_either ht.b ht.a ht.toB ht.toA hne).elim advB advA

theorem Session.OnPath.complete {t : Session} (ht : t.OnPath A B fun _ _ => True) :
    ∃ mvs t', (∀ mv ∈ mvs, mv.2.benign) ∧ t.run validateOpenMsg A B mvs = some t' ∧
      t'.a.sys.fsm.state = .established ∧ t'.b.sys.fsm.state = .established := by
  by_cases hdone : t.a.sys.fsm.state = .established ∧ t.b.sys.fsm.state = .established
  · exact ⟨[], t, nofun, rfl, hdone⟩
  obtain ⟨mv, t₁, hb, h₁, hlt⟩ := ht.progress hvA hvB hupA hupB (not_and_or.mp hdone)
  have ht₁ := ht.step hvA hvB hb (fun _ _ => trivial) h₁
  obtain ⟨mvs, t', hbs, hrun, hfin⟩ := ht₁.complete
  exact ⟨mv :: mvs, t', List.forall_mem_cons.mpr ⟨hb, hbs⟩, by rw [Session.run, h₁, Option.some_bind, hrun], hfin⟩
termination_by 8 - (t.a.sys.stateCh.length + t.b.sys.stateCh.length)
decreasing_by
  have := ht₁.a.length_le
  have := ht₁.b.length_le
  omega

end Accepting

end Session

/-! ## Runs without failures -/

/-- After `openExchange` both routers read the other's KEEPALIVE. -/
def handshake : List (Side × Move) := openExchange ++ [(.a, .deliver), (.b, .deliver)]

/-- After the handshake, router 1's server queues an End-of-RIB UPDATE and its send loop writes it. -/
def handshakeThenUpdate : List (Side × Move) := handshake ++ [(.a, .enqueue (.update ⟨[], [], []⟩)), (.a, .send)]

section Runs

variable {validateOpenMsg : BGPOpen → Nat → Except MessageError Unit} {A B : Speaker}
  {acts : List (Side × Move)} {t : Session}
  (hvA : validateOpenMsg (buildopen B.global B.neighbor) A.neighbor.peerAs = .ok ())
  (hvB : validateOpenMsg (buildopen A.global A.neighbor) B.neighbor.peerAs = .ok ())
  (hrun : (Session.init A B).run validateOpenMsg A B acts = some t) (hb : ∀ mv ∈ acts, mv.2.benign)
include hvA hvB hrun hb

/-- When no timer expires, no error or admin request occurs, and each speaker accepts the
other's OPEN, then whatever the order of the two speakers' moves neither handler stops or
panics, each speaker has reported exactly the steps of the handshake up to its state, and every
message written and not yet read is the writer's OPEN, a KEEPALIVE, or a message the writer's
server queued: no handler writes a NOTIFICATION of its own. -/
theorem handshake_without_failures :
    t.a.sys.phase = .running ∧ t.b.sys.phase = .running ∧
    t.a.sys.stateCh = handshakeReports t.a.sys.fsm.state ∧ t.b.sys.stateCh = handshakeReports t.b.sys.fsm.state ∧
    (∀ m ∈ t.a.inbox, m = .bgpOpen (buildopen B.global B.neighbor) ∨ m = .keepalive ∨ (.b, .enqueue m) ∈ acts) ∧
    (∀ m ∈ t.b.inbox, m = .bgpOpen (buildopen A.global A.neighbor) ∨ m = .keepalive ∨ (.a, .enqueue m) ∈ acts) := by
  have ht := (Session.init_onPath (S := fun side m => (side, Move.enqueue m) ∈ acts)).run hvA hvB
    (fun mv hm => ⟨hb mv hm, fun m h => by rw [← h]; exact hm⟩) hrun
  exact ⟨ht.a.running, ht.b.running, ht.a.reports, ht.b.reports, fun _ => ht.toA.mem, fun _ => ht.toB.mem⟩

omit hvA hvB hrun hb in
theorem handshake_without_failures_two_routers :
    ∃ t, (Session.init router1 router2).run checkPeerAs router1 router2 handshakeThenUpdate = some t ∧
      t.a.sys.stateCh = handshakeReports t.a.sys.fsm.state ∧ t.b.sys.stateCh = handshakeReports t.b.sys.fsm.state ∧
      t.b.inbox = [.update ⟨[], [], []⟩] ∧
      ∀ m ∈ t.b.inbox, m = .bgpOpen (buildopen router1.global router1.neighbor) ∨ m = .keepalive ∨
        (.a, .enqueue m) ∈ handshakeThenUpdate := by
  obtain ⟨-, -, h1, h2, -, h3⟩ :=
    @handshake_without_failures checkPeerAs router1 router2 handshakeThenUpdate _ rfl rfl rfl (by decide)
  exact ⟨_, rfl, h1, h2, by decide, h3⟩

theorem onPath_of_benign_run : t.OnPath A B fun _ _ => True :=
  (Session.init_onPath (S := fun _ _ => True)).run hvA hvB (fun _ hm => ⟨hb _ hm, fun _ _ => trivial⟩) hrun

/-- Under the same conditions, two speakers past ACTIVE with nothing in flight either way are
both ESTABLISHED: the handshake cannot stall with both waiting to read. -/
theorem handshake_quiet_established
    (ha : t.a.sys.fsm.state ≠ .idle ∧ t.a.sys.fsm.state ≠ .active)
    (hb' : t.b.sys.fsm.state ≠ .idle ∧ t.b.sys.fsm.state ≠ .active) (hin : t.a.inbox = [] ∧ t.b.inbox = []) :
    t.a.sys.fsm.state = .established ∧ t.b.sys.fsm.state = .established := by
  have ht := onPath_of_benign_run hvA hvB hrun hb
  have hA := ht.toA
  have hB := ht.toB
  rw [hin.1] at hA
  rw [hin.2] at hB
  exact ⟨hA.established_of_nil hB ⟨ha.1, ht.a.notConnect, ha.2⟩ ⟨hb'.1, ht.b.notConnect, hb'.2⟩,
    hB.established_of_nil hA ⟨hb'.1, ht.b.notConnect, hb'.2⟩ ⟨ha.1, ht.a.notConnect, ha.2⟩⟩

omit hvA hvB hrun hb in
theorem handshake_quiet_established_two_routers :
    ∃ t, (Session.init router1 router2).run checkPeerAs router1 router2 handshake = some t ∧
      t.a.inbox = [] ∧ t.b.inbox = [] ∧ t.a.sys.fsm.state = .established ∧ t.b.sys.fsm.state = .established := by
  have h := @handshake_quiet_established checkPeerAs router1 router2 handshake _ rfl rfl rfl (by decide)
    ⟨by decide, by decide⟩ ⟨by decide, by decide⟩ ⟨by decide, by decide⟩
  exact ⟨_, rfl, by decide, by decide, h⟩

end Runs

end GoBgp
