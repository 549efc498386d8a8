import GoBgp.Fsm

/-!
# Safety of the peer FSM

Over every run from `NewFSM`: ACTIVE, OPENSENT and OPENCONFIRM run only while the admin
state is UP, so their "code logic bug" panics are unreachable; `loop` reports only the
transitions of the BGP handshake and teardown; and ESTABLISHED is entered only after an
OPEN that passed validation and a KEEPALIVE, both read from the connection ACTIVE
attached. Each result is one invariant of a step, carried over the run.
-/

namespace GoBgp

section

variable {validateOpenMsg : BGPOpen → Nat → Except MessageError Unit} {n : Neighbor}

/-! ## What one case of a handler does -/

theorem stayOnAdmin_eq (fsm : FSM) (s : AdminState) :
    stayOnAdmin fsm s = .stay { fsm with adminState := s } := by
  unfold stayOnAdmin changeAdminState
  by_cases h : fsm.adminState = s
  · subst h; simp
  · simp [h]

theorem leaveOnAdmin_eq (fsm : FSM) (s : AdminState) :
    leaveOnAdmin fsm s =
      if fsm.adminState = s then .stay fsm
      else match s with
        | .down => .leave { fsm with adminState := .down } (.state .idle) .adminDown
        | .up => .panic "code logic bug" := by
  unfold leaveOnAdmin changeAdminState
  by_cases h : fsm.adminState = s <;> cases s <;> simp [h]

theorem leaveOnAdmin_stay {fsm f' : FSM} {s : AdminState} (h : leaveOnAdmin fsm s = .stay f') :
    f' = fsm := by
  rw [leaveOnAdmin_eq] at h
  split at h
  · exact (Outcome.stay.inj h).symm
  · cases s <;> cases h

theorem BGPMessage.type_eq_keepalive {m : BGPMessage} : m.type = BGP_MSG_KEEPALIVE ↔ m = .keepalive := by
  cases m <;> simp [BGPMessage.type, BGP_MSG_KEEPALIVE]

theorem idle_stay {f f' : FSM} {ev : Event} (h : idle f ev = .stay f') :
    ∃ a, f' = { f with adminState := a } := by
  cases ev <;> simp only [idle, stayOnAdmin_eq, Outcome.stay.injEq, reduceCtorEq] at h
  case idleHoldTimer => split at h <;> cases h; exact ⟨_, rfl⟩
  all_goals exact ⟨_, h.symm⟩

theorem established_stay {f f' : FSM} {ev : Event} (h : established f ev = .stay f') :
    ∃ a, f' = { f with adminState := a } := by
  cases ev <;> simp only [established, stayOnAdmin_eq, Outcome.stay.injEq, reduceCtorEq] at h
  all_goals exact ⟨_, h.symm⟩

theorem active_stay {f f' : FSM} {ev : Event} (h : active f ev = .stay f') : f' = f := by
  cases ev <;> simp only [active, Outcome.stay.injEq, reduceCtorEq] at h
  case adminStateCh => exact leaveOnAdmin_stay h
  all_goals exact h.symm

theorem opensent_stay {f f' : FSM} {ev : Event} (h : opensent validateOpenMsg n f ev = .stay f') : f' = f := by
  cases ev <;> simp only [opensent, Outcome.stay.injEq, reduceCtorEq] at h
  case adminStateCh => exact leaveOnAdmin_stay h
  case msgCh d =>
    rcases d with m | e | _ <;> simp only [reduceCtorEq] at h
    cases m <;> simp only [opensentMsg, reduceCtorEq] at h
    split at h <;> cases h
  all_goals exact h.symm

theorem openconfirm_stay {f f' : FSM} {ev : Event} (h : openconfirm f ev = .stay f') : f' = f := by
  cases ev <;> simp only [openconfirm, Outcome.stay.injEq, reduceCtorEq] at h
  case adminStateCh => exact leaveOnAdmin_stay h
  case msgCh d => rcases d with m | e | _ <;> simp only [reduceCtorEq] at h
  all_goals exact h.symm

theorem handler_stay {f f' : FSM} {ev : Event} (h : handler validateOpenMsg n f ev = .stay f') :
    f' = f ∨ (f.state = .idle ∨ f.state = .established) ∧ ∃ a, f' = { f with adminState := a } := by
  unfold handler at h
  split at h
  next hs => exact .inr ⟨.inl hs, idle_stay h⟩
  next => cases h
  next => exact .inl (active_stay h)
  next => exact .inl (opensent_stay h)
  next => exact .inl (openconfirm_stay h)
  next hs => exact .inr ⟨.inr hs, established_stay h⟩

/-- The transitions of the BGP handshake and its teardown. -/
def allowedTransitions : List (FSMState × FSMState) :=
  [(.idle, .active), (.active, .opensent), (.active, .idle), (.opensent, .openconfirm),
    (.opensent, .idle), (.openconfirm, .established), (.openconfirm, .idle), (.established, .idle)]

theorem leaveOnAdmin_leave {fsm f' : FSM} {s : AdminState} {next : NextState} {r : FsmStateReason}
    (h : leaveOnAdmin fsm s = .leave f' next r) :
    next = .state .idle ∧ f' = { fsm with adminState := .down } := by
  rw [leaveOnAdmin_eq] at h
  split at h
  · cases h
  · cases s <;> simp only [Outcome.leave.injEq, reduceCtorEq] at h
    exact ⟨h.2.1.symm, h.1.symm⟩

theorem idle_leave {f f' : FSM} {ev : Event} {t : FSMState} {r : FsmStateReason}
    (h : idle f ev = .leave f' (.state t) r) :
    t = .active ∧ f.adminState = .up ∧ f' = { f with idleHoldTime := HOLDTIME_IDLE } := by
  cases ev <;> simp only [idle, stayOnAdmin_eq, Outcome.leave.injEq, reduceCtorEq, false_and, and_false] at h
  split at h
  · simp only [Outcome.leave.injEq, NextState.state.injEq] at h
    exact ⟨h.2.1.symm, ‹_›, h.1.symm⟩
  · cases h

theorem active_leave {f f' : FSM} {ev : Event} {t : FSMState} {r : FsmStateReason}
    (h : active f ev = .leave f' (.state t) r) :
    (t = .idle ∧ f'.state = f.state) ∨ (t = .opensent ∧ ∃ c, f' = { f with conn := some c, received := [] }) := by
  cases ev <;> simp only [active, Outcome.leave.injEq, NextState.state.injEq, reduceCtorEq, false_and,
    and_false] at h
  case connCh c => exact .inr ⟨h.2.1.symm, c, h.1.symm⟩
  case adminStateCh => obtain ⟨h1, rfl⟩ := leaveOnAdmin_leave h; exact .inl ⟨(NextState.state.inj h1), rfl⟩
  all_goals exact .inl ⟨h.2.1.symm, by rw [← h.1]⟩

theorem opensent_leave {f f' : FSM} {ev : Event} {t : FSMState} {r : FsmStateReason}
    (h : opensent validateOpenMsg n f ev = .leave f' (.state t) r) :
    (t = .idle ∧ f'.state = f.state) ∨
    (t = .openconfirm ∧ ∃ o, ev = .msgCh (.message (.bgpOpen o)) ∧ validateOpenMsg o n.peerAs = .ok () ∧
      f' = ({ f with received := f.received ++ [.bgpOpen o], recvOpen := some (.bgpOpen o) } : FSM).negotiate n o) := by
  cases ev <;> simp only [opensent, Outcome.leave.injEq, NextState.state.injEq, reduceCtorEq, false_and,
    and_false] at h
  case msgCh d =>
    rcases d with m | e | _ <;> simp only [Outcome.leave.injEq, NextState.state.injEq, reduceCtorEq] at h
    · cases m <;> simp only [opensentMsg, Outcome.leave.injEq, NextState.state.injEq] at h
      case bgpOpen o =>
        split at h <;> simp only [Outcome.leave.injEq, NextState.state.injEq] at h
        · exact .inl ⟨h.2.1.symm, by rw [← h.1]⟩
        · exact .inr ⟨h.2.1.symm, o, rfl, ‹_›, h.1.symm⟩
      all_goals exact .inl ⟨h.2.1.symm, by rw [← h.1]⟩
    · exact .inl ⟨h.2.1.symm, by rw [← h.1]⟩
  case adminStateCh => obtain ⟨h1, rfl⟩ := leaveOnAdmin_leave h; exact .inl ⟨(NextState.state.inj h1), rfl⟩
  all_goals exact .inl ⟨h.2.1.symm, by rw [← h.1]⟩

theorem openconfirm_leave {f f' : FSM} {ev : Event} {t : FSMState} {r : FsmStateReason}
    (h : openconfirm f ev = .leave f' (.state t) r) :
    (t = .idle ∧ f'.state = f.state) ∨
    (t = .established ∧ ev = .msgCh (.message .keepalive) ∧ f' = { f with received := f.received ++ [.keepalive] }) := by
  cases ev <;> simp only [openconfirm, Outcome.leave.injEq, NextState.state.injEq, reduceCtorEq, false_and,
    and_false] at h
  case msgCh d =>
    rcases d with m | e | _ <;> simp only [Outcome.leave.injEq, NextState.state.injEq, reduceCtorEq] at h
    · obtain ⟨rfl, rfl, -⟩ := h
      split
      · next hk => rw [BGPMessage.type_eq_keepalive.mp hk]; exact .inr ⟨rfl, rfl, rfl⟩
      · exact .inl ⟨rfl, rfl⟩
    · exact .inl ⟨h.2.1.symm, by rw [← h.1]⟩
  case adminStateCh => obtain ⟨h1, rfl⟩ := leaveOnAdmin_leave h; exact .inl ⟨(NextState.state.inj h1), rfl⟩
  all_goals exact .inl ⟨h.2.1.symm, by rw [← h.1]⟩

theorem established_leave {f f' : FSM} {ev : Event} {t : FSMState} {r : FsmStateReason}
    (h : established f ev = .leave f' (.state t) r) : t = .idle ∧ f'.state = f.state := by
  cases ev <;> simp only [established, stayOnAdmin_eq, Outcome.leave.injEq, NextState.state.injEq,
    reduceCtorEq, false_and, and_false] at h
  all_goals exact ⟨h.2.1.symm, by rw [← h.1]⟩

theorem handler_leave {f f' : FSM} {ev : Event} {t : FSMState} {r : FsmStateReason}
    (h : handler validateOpenMsg n f ev = .leave f' (.state t) r) :
    (t = .idle ∧ f'.state = f.state ∧
      (f.state = .active ∨ f.state = .opensent ∨ f.state = .openconfirm ∨ f.state = .established)) ∨
    (f.state = .idle ∧ t = .active ∧ f.adminState = .up ∧ f' = { f with idleHoldTime := HOLDTIME_IDLE }) ∨
    (f.state = .active ∧ t = .opensent ∧ ∃ c, f' = { f with conn := some c, received := [] }) ∨
    (f.state = .opensent ∧ t = .openconfirm ∧ ∃ o, ev = .msgCh (.message (.bgpOpen o)) ∧
      validateOpenMsg o n.peerAs = .ok () ∧
      f' = ({ f with received := f.received ++ [.bgpOpen o], recvOpen := some (.bgpOpen o) } : FSM).negotiate n o) ∨
    (f.state = .openconfirm ∧ t = .established ∧ ev = .msgCh (.message .keepalive) ∧
      f' = { f with received := f.received ++ [.keepalive] }) := by
  unfold handler at h
  split at h
  next hs => exact .inr (.inl ⟨hs, idle_leave h⟩)
  next => cases h
  next hs =>
    rcases active_leave h with ⟨ht, hf⟩ | hl
    exacts [.inl ⟨ht, hf, .inl hs⟩, .inr (.inr (.inl ⟨hs, hl⟩))]
  next hs =>
    rcases opensent_leave h with ⟨ht, hf⟩ | hl
    exacts [.inl ⟨ht, hf, .inr (.inl hs)⟩, .inr (.inr (.inr (.inl ⟨hs, hl⟩)))]
  next hs =>
    rcases openconfirm_leave h with ⟨ht, hf⟩ | hl
    exacts [.inl ⟨ht, hf, .inr (.inr (.inl hs))⟩, .inr (.inr (.inr (.inr ⟨hs, hl⟩)))]
  next hs =>
    obtain ⟨ht, hf⟩ := established_leave h
    exact .inl ⟨ht, hf, .inr (.inr (.inr hs))⟩

theorem leaveOnAdmin_panic {fsm : FSM} {s : AdminState} {msg : String}
    (h : leaveOnAdmin fsm s = .panic msg) : fsm.adminState = .down := by
  rw [leaveOnAdmin_eq] at h
  split at h
  · cases h
  · cases s <;> cases h
    cases hs : fsm.adminState <;> simp_all

/-- The "code logic bug" panic: an UP request taken in ACTIVE, OPENSENT or OPENCONFIRM. -/
theorem handler_logic_bug {f : FSM} {ev : Event}
    (h : handler validateOpenMsg n f ev = .panic "code logic bug") :
    f.adminState = .down ∧ (f.state = .active ∨ f.state = .opensent ∨ f.state = .openconfirm) := by
  have hne : ("unknown msg type" : String) ≠ "code logic bug" := by decide
  unfold handler at h
  split at h
  next => cases ev <;> simp only [idle, stayOnAdmin_eq, reduceCtorEq] at h; split at h <;> cases h
  next => cases h
  next hs => cases ev <;> simp only [active, reduceCtorEq] at h; exact ⟨leaveOnAdmin_panic h, .inl hs⟩
  next hs =>
    cases ev <;> simp only [opensent, reduceCtorEq, Outcome.panic.injEq] at h
    case msgCh d =>
      rcases d with m | e | _ <;> simp only [reduceCtorEq, Outcome.panic.injEq, hne] at h
      cases m <;> simp only [opensentMsg, reduceCtorEq] at h
      split at h <;> cases h
    case adminStateCh => exact ⟨leaveOnAdmin_panic h, .inr (.inl hs)⟩
  next hs =>
    cases ev <;> simp only [openconfirm, reduceCtorEq, Outcome.panic.injEq] at h
    case msgCh d => rcases d with m | e | _ <;> simp only [reduceCtorEq, Outcome.panic.injEq, hne] at h
    case adminStateCh => exact ⟨leaveOnAdmin_panic h, .inr (.inr hs)⟩
  next => cases ev <;> simp only [established, stayOnAdmin_eq, reduceCtorEq] at h

end

/-! ## The invariant of a run -/

/-- ACTIVE, OPENSENT and OPENCONFIRM run only while the admin state is UP. -/
def AdminUp (f : FSM) : Prop :=
  f.state = .active ∨ f.state = .opensent ∨ f.state = .openconfirm → f.adminState = .up

/-- What `opensent` stored from an OPEN `o` that passed `ValidateOpenMsg`. -/
def Accepted (validateOpenMsg : BGPOpen → Nat → Except MessageError Unit) (n : Neighbor)
    (f : FSM) (o : BGPOpen) : Prop :=
  validateOpenMsg o n.peerAs = .ok () ∧ f.recvOpen = some (.bgpOpen o) ∧ f.peerID = o.ID ∧
    f.capMap = (open2Cap o n).1 ∧ f.rfMap = (open2Cap o n).2 ∧
    f.negotiatedHoldTime = min (o.holdTime : ℚ) n.holdTime

/-- The messages read from the connection ACTIVE attached, by state. -/
def Handshake (validateOpenMsg : BGPOpen → Nat → Except MessageError Unit) (n : Neighbor)
    (f : FSM) : Prop :=
  match f.state with
  | .opensent => ∃ c, f.conn = some c ∧ f.received = []
  | .openconfirm => ∃ c o, f.conn = some c ∧ f.received = [.bgpOpen o] ∧ Accepted validateOpenMsg n f o
  | .established => ∃ c o, f.conn = some c ∧ f.received = [.bgpOpen o, .keepalive] ∧
      Accepted validateOpenMsg n f o
  | _ => True

structure Sys.Inv (validateOpenMsg : BGPOpen → Nat → Except MessageError Unit) (n : Neighbor)
    (s : Sys) : Prop where
  adminUp : s.phase = .running → AdminUp s.fsm
  handshake : s.phase = .running → Handshake validateOpenMsg n s.fsm
  reports : ∀ p ∈ s.stateCh, ∃ t, p.2 = .state t ∧ (p.1, t) ∈ allowedTransitions
  noLogicBug : s.phase ≠ .crashed "code logic bug"

section

variable {validateOpenMsg : BGPOpen → Nat → Except MessageError Unit} {n : Neighbor}

theorem FSM.negotiate_negotiatedHoldTime (f : FSM) (o : BGPOpen) :
    (f.negotiate n o).negotiatedHoldTime = min (o.holdTime : ℚ) n.holdTime := by
  simp only [FSM.negotiate]
  split_ifs with h
  · exact (min_eq_right h.le).symm
  · exact (min_eq_left (not_lt.mp h)).symm

theorem Sys.init_inv : (Sys.init n).Inv validateOpenMsg n :=
  ⟨fun _ h => by simp [Sys.init, newFSM] at h, fun _ => by simp [Handshake, Sys.init, newFSM], by simp [Sys.init],
    by simp [Sys.init]⟩

theorem handler_leave_allowed {f f' : FSM} {ev : Event} {t : FSMState} {r : FsmStateReason}
    (h : handler validateOpenMsg n f ev = .leave f' (.state t) r) : (f'.state, t) ∈ allowedTransitions := by
  rcases handler_leave h with ⟨rfl, hst, hfrom⟩ | ⟨hfrom, rfl, -, rfl⟩ | ⟨hfrom, rfl, c, rfl⟩ |
    ⟨hfrom, rfl, o, -, -, rfl⟩ | ⟨hfrom, rfl, -, rfl⟩
  · rw [hst]; rcases hfrom with h | h | h | h <;> rw [h] <;> decide
  all_goals simp only [FSM.negotiate, hfrom]; decide

theorem handler_leave_adminUp {f f' : FSM} {ev : Event} {t : FSMState} {r : FsmStateReason}
    (hi : AdminUp f) (h : handler validateOpenMsg n f ev = .leave f' (.state t) r) :
    AdminUp ({ f' with reason := r }.stateChange t) := by
  intro ht
  simp only [FSM.stateChange] at ht
  rcases handler_leave h with ⟨rfl, -⟩ | ⟨-, rfl, hup, rfl⟩ | ⟨hfrom, rfl, c, rfl⟩ |
    ⟨hfrom, rfl, o, -, -, rfl⟩ | ⟨-, rfl, -⟩
  · simp at ht
  · exact hup
  · exact hi (.inl hfrom)
  · exact hi (.inr (.inl hfrom))
  · simp at ht

theorem handler_leave_handshake {f f' : FSM} {ev : Event} {t : FSMState} {r : FsmStateReason}
    (hi : Handshake validateOpenMsg n f) (h : handler validateOpenMsg n f ev = .leave f' (.state t) r) :
    Handshake validateOpenMsg n ({ f' with reason := r }.stateChange t) := by
  rcases handler_leave h with ⟨rfl, -⟩ | ⟨-, rfl, -, rfl⟩ | ⟨-, rfl, c, rfl⟩ | ⟨hfrom, rfl, o, -, hv, rfl⟩ |
    ⟨hfrom, rfl, -, rfl⟩
  · simp [Handshake, FSM.stateChange]
  · simp [Handshake, FSM.stateChange]
  · simp [Handshake, FSM.stateChange]
  · simp only [Handshake, hfrom] at hi
    obtain ⟨c, hc, hrec⟩ := hi
    simp only [Handshake, FSM.stateChange]
    exact ⟨c, o, hc, by simp [FSM.negotiate, hrec], hv, rfl, rfl, rfl, rfl,
      by simp [FSM.negotiate_negotiatedHoldTime]⟩
  · simp only [Handshake, hfrom] at hi
    obtain ⟨c, o, hc, hrec, hacc⟩ := hi
    simp only [Handshake, FSM.stateChange]
    exact ⟨c, o, hc, by simp [hrec], hacc⟩

theorem Sys.Inv.step {s : Sys} (hi : s.Inv validateOpenMsg n) (ev : Event) :
    (s.step validateOpenMsg n ev).Inv validateOpenMsg n := by
  by_cases hrun : s.phase = .running
  swap
  · rwa [Sys.step_halted hrun]
  cases ho : handler validateOpenMsg n s.fsm ev with
  | stay f' =>
    rw [Sys.step_stay hrun ho]
    rcases handler_stay ho with rfl | ⟨hst, a, rfl⟩
    · exact hi
    · refine ⟨fun _ h => absurd h ?_, fun _ => hi.handshake hrun, hi.reports, hi.noLogicBug⟩
      rcases hst with hst | hst <;> simp [hst]
  | leave f' next r =>
    cases next with
    | dying =>
      rw [Sys.step_dying hrun ho]
      exact ⟨nofun, nofun, hi.reports, by simp⟩
    | state t =>
      rw [Sys.step_leave hrun ho]
      exact ⟨fun _ => handler_leave_adminUp (hi.adminUp hrun) ho,
        fun _ => handler_leave_handshake (hi.handshake hrun) ho,
        List.forall_mem_append.mpr ⟨hi.reports, by simpa using handler_leave_allowed ho⟩, by simp⟩
  | panic msg =>
    rw [Sys.step_panic hrun ho]
    refine ⟨nofun, nofun, hi.reports, ?_⟩
    simp only [ne_eq, Phase.crashed.injEq]
    rintro rfl
    obtain ⟨hdown, hst⟩ := handler_logic_bug ho
    simp [hi.adminUp hrun hst] at hdown

theorem Sys.Inv.run {s : Sys} (hi : s.Inv validateOpenMsg n) :
    ∀ evs, (s.run validateOpenMsg n evs).Inv validateOpenMsg n
  | [] => hi
  | ev :: evs => (hi.step ev).run evs

theorem Reachable.inv {s : Sys} (h : Reachable validateOpenMsg n s) : s.Inv validateOpenMsg n := by
  obtain ⟨evs, rfl⟩ := h
  exact Sys.init_inv.run evs

end

/-! ## The admin state and the order of the handshake -/

/-- The "code logic bug" panic has not happened, and a running ACTIVE, OPENSENT or
OPENCONFIRM handler has admin state UP, so an admin request there is a rejected UP, or a
DOWN that leads to IDLE. -/
def AdminUpInHandshake (validateOpenMsg : BGPOpen → Nat → Except MessageError Unit) (n : Neighbor)
    (s : Sys) : Prop :=
  s.phase ≠ .crashed "code logic bug" ∧
    (s.phase = .running → s.fsm.state = .active ∨ s.fsm.state = .opensent ∨ s.fsm.state = .openconfirm →
      s.fsm.adminState = .up ∧
      ∀ a, handler validateOpenMsg n s.fsm (.adminStateCh a) =
        if a = .up then .stay s.fsm
        else .leave { s.fsm with adminState := .down } (.state .idle) .adminDown)

/-- Every report on `stateCh` is a state, never the sentinel -1, and makes an allowed
transition; a running ESTABLISHED handler follows exactly an OPEN that passed validation and
set the peer's ID, capabilities, families and hold time, then a KEEPALIVE, read from the
connection ACTIVE attached. -/
def HandshakeOrder (validateOpenMsg : BGPOpen → Nat → Except MessageError Unit) (n : Neighbor)
    (s : Sys) : Prop :=
  (∀ p ∈ s.stateCh, p.2.toInt ≠ -1 ∧ ∃ t, p.2 = .state t ∧ (p.1, t) ∈ allowedTransitions) ∧
    (s.phase = .running → s.fsm.state = .established →
      ∃ c o, s.fsm.conn = some c ∧ s.fsm.received = [.bgpOpen o, .keepalive] ∧
        Accepted validateOpenMsg n s.fsm o)

section

variable {validateOpenMsg : BGPOpen → Nat → Except MessageError Unit} {n : Neighbor}

theorem handshake_states_admin_up {s : Sys} (h : Reachable validateOpenMsg n s) :
    AdminUpInHandshake validateOpenMsg n s := by
  have hi := h.inv
  refine ⟨hi.noLogicBug, fun hrun hst => ⟨hi.adminUp hrun hst, fun a => ?_⟩⟩
  have hup := hi.adminUp hrun hst
  rcases hst with hst | hst | hst <;> cases a <;>
    simp [handler, hst, active, opensent, openconfirm, leaveOnAdmin_eq, hup]

/-- `sampleNeighbor`'s FSM after the idle hold timer and a connection, in OPENSENT. -/
def opensentSys : Sys := (Sys.init sampleNeighbor).run acceptAll sampleNeighbor [.idleHoldTimer, .connCh 1]

theorem handshake_states_admin_up_opensent :
    Reachable acceptAll sampleNeighbor opensentSys ∧ AdminUpInHandshake acceptAll sampleNeighbor opensentSys :=
  have h : Reachable acceptAll sampleNeighbor opensentSys := ⟨_, rfl⟩
  ⟨h, handshake_states_admin_up h⟩

theorem reported_transitions_allowed {s : Sys} (h : Reachable validateOpenMsg n s) :
    HandshakeOrder validateOpenMsg n s := by
  have hi := h.inv
  refine ⟨fun p hp => ?_, fun hrun hst => by simpa [Handshake, hst] using hi.handshake hrun⟩
  obtain ⟨t, ht, hmem⟩ := hi.reports p hp
  refine ⟨?_, t, ht, hmem⟩
  have := t.toInt_nonneg
  simp only [ht, NextState.toInt, FSMState.toInt] at this ⊢
  omega

/-- `sampleNeighbor`'s FSM from IDLE to ESTABLISHED. -/
def establishedSys : Sys :=
  (Sys.init sampleNeighbor).run acceptAll sampleNeighbor
    [.idleHoldTimer, .connCh 1, .msgCh (.message (.bgpOpen peerOpen)), .msgCh (.message .keepalive)]

theorem reported_transitions_allowed_session :
    Reachable acceptAll sampleNeighbor establishedSys ∧ HandshakeOrder acceptAll sampleNeighbor establishedSys :=
  have h : Reachable acceptAll sampleNeighbor establishedSys := ⟨_, rfl⟩
  ⟨h, reported_transitions_allowed h⟩

end

end GoBgp
