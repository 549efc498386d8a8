import GoBgp.FsmSafety

/-!
# The goroutines of a handshake handler

In OPENSENT and OPENCONFIRM the state handler runs beside `recvMessage`, which sends one message
on the unbuffered `msgCh` or `FSM_READ_FAILED` on `errorCh`. `h.t.Wait()` in `loop` returns once
both have returned; a receive goroutine blocked on `msgCh` after the state handler returned is
blocked for good.
-/

namespace GoBgp

/-- Where `recvMessage` is: reading, blocked sending on `msgCh` or on `errorCh`, or done. -/
inductive Receiver
  | reading
  | sendingMsg (d : MsgData)
  | sendingErr (r : FsmStateReason)
  | done
  deriving DecidableEq, Repr

/-- One handler in OPENSENT or OPENCONFIRM: the FSM, the state handler (`none` while it
waits in its `select`, then the next state it returned), the receive goroutine, the
contents of `errorCh`, and whether the connection was closed, by either side. -/
structure Handler where
  fsm : FSM
  returned : Option NextState
  recv : Receiver
  errorCh : List FsmStateReason
  connClosed : Bool
  deriving DecidableEq, Repr

/-- The capacity of `errorCh` in `NewFSMHandler`. -/
def errorChCap : Nat := 2

/-- A step of a goroutine or of the peer. -/
inductive Act
  | read (d : MsgData)
  | readFail
  | pushErr
  | peerClose
  | select (ev : Event)
  deriving DecidableEq, Repr

def Handler.start (fsm : FSM) : Handler := ⟨fsm, none, .reading, [], false⟩

/-- Whether a returning state handler closed `h.conn`: every return of OPENSENT and
OPENCONFIRM does, except the one that moves the handshake on. -/
def closesConn : NextState → Bool
  | .state .openconfirm | .state .established => false
  | _ => true

/-- The channel side of a `select` case: whether it is ready, and what receiving takes. The
other cases are timers, admin requests, arrivals and the tomb, ready whenever they occur. -/
def Handler.take (h : Handler) : Event → Option Handler
  | .msgCh d => if h.recv = .sendingMsg d then some { h with recv := .done } else none
  | .errorCh r => match h.errorCh with
    | r' :: rest => if r' = r then some { h with errorCh := rest } else none
    | [] => none
  | _ => some h

section

variable (validateOpenMsg : BGPOpen → Nat → Except MessageError Unit) (n : Neighbor)

/-- The state handler's reaction to a case, as `handler` computes it; a panic ends the
process. -/
def Handler.drive (h : Handler) (ev : Event) : Option Handler :=
  match handler validateOpenMsg n h.fsm ev with
  | .stay fsm => some { h with fsm := fsm }
  | .leave fsm next r =>
    some { h with
      fsm := { fsm with reason := r }
      returned := some next
      connClosed := h.connClosed || closesConn next }
  | .panic _ => none

/-- `recvMessageWithError` reads a message (or a header it cannot decode) while the
connection is open, or fails to read once it is closed; the peer may close it at any time. -/
def Handler.step (h : Handler) : Act → Option Handler
  | .read d => if h.recv = .reading ∧ h.connClosed = false then some { h with recv := .sendingMsg d } else none
  | .readFail => if h.recv = .reading ∧ h.connClosed = true then some { h with recv := .sendingErr .readFailed }
    else none
  | .pushErr => match h.recv with
    | .sendingErr r =>
      if h.errorCh.length < errorChCap then some { h with recv := .done, errorCh := h.errorCh ++ [r] } else none
    | _ => none
  | .peerClose => some { h with connClosed := true }
  | .select ev => if h.returned.isSome then none else (h.take ev).bind (·.drive validateOpenMsg n ev)

def Handler.run : Handler → List Act → Option Handler
  | h, [] => some h
  | h, a :: acts => (h.step validateOpenMsg n a).bind (·.run acts)

end

/-- `h.t.Wait()` in `loop` returns: the state handler returned and the receiver is done. -/
def Handler.WaitReturns (h : Handler) : Prop := h.returned.isSome ∧ h.recv = .done

section

variable {validateOpenMsg : BGPOpen → Nat → Except MessageError Unit} {n : Neighbor}

/-! ## A receiver blocked on `msgCh` stays blocked -/

theorem Handler.step_blocked {h h' : Handler} {a : Act} {d : MsgData} (hr : h.returned.isSome)
    (hb : h.recv = .sendingMsg d) (hs : h.step validateOpenMsg n a = some h') :
    h'.returned = h.returned ∧ h'.recv = .sendingMsg d := by
  cases a <;> simp [Handler.step, hb, hr] at hs
  obtain rfl := hs
  exact ⟨rfl, rfl⟩

theorem Handler.run_blocked {d : MsgData} :
    ∀ {h h' : Handler} (acts : List Act), h.returned.isSome → h.recv = .sendingMsg d →
      h.run validateOpenMsg n acts = some h' → h'.recv = .sendingMsg d
  | h, h', [], _, hb, hrun => by cases hrun; exact hb
  | h, h', a :: acts, hr, hb, hrun => by
    obtain ⟨h₁, h₁s, h₁r⟩ := Option.bind_eq_some.mp hrun
    obtain ⟨hret, hb₁⟩ := Handler.step_blocked hr hb h₁s
    exact Handler.run_blocked acts (hret ▸ hr) hb₁ h₁r

end

/-! ## Otherwise `Wait` can return -/

/-- What every run of a handler from its start keeps: only the receiver sends on `errorCh`,
once, and a returning state handler closed the connection unless it took the receiver's
message. -/
structure Handler.Inv (h : Handler) : Prop where
  errorCh_nil : h.recv ≠ .done → h.errorCh = []
  errorCh_length : h.errorCh.length ≤ 1
  closed : h.returned.isSome → h.recv = .done ∨ h.connClosed = true

section

variable {validateOpenMsg : BGPOpen → Nat → Except MessageError Unit} {n : Neighbor}

theorem Handler.start_inv (fsm : FSM) : (Handler.start fsm).Inv :=
  ⟨fun _ => rfl, by simp [Handler.start], by simp [Handler.start]⟩

theorem Handler.Inv.take {h h₁ : Handler} {ev : Event} (hi : h.Inv) (hw : h.returned = none)
    (ht : h.take ev = some h₁) : h₁.Inv ∧ h₁.returned = none ∧ ∀ d, ev = .msgCh d → h₁.recv = .done := by
  cases ev <;> simp only [Handler.take] at ht
  case msgCh d =>
    split at ht <;> cases ht
    exact ⟨⟨fun h => absurd rfl h, hi.errorCh_length, by simp [hw]⟩, hw, fun _ _ => rfl⟩
  case errorCh r =>
    rcases hq : h.errorCh with _ | ⟨r', rest⟩ <;> simp only [hq] at ht
    · cases ht
    · split at ht <;> cases ht
      have hdone : h.recv = .done := by
        by_contra hne; simp [hi.errorCh_nil hne] at hq
      have hlen := hi.errorCh_length
      simp only [hq, List.length_cons] at hlen
      exact ⟨⟨fun hne => absurd hdone hne, by simp; omega, by simp [hw]⟩, hw, fun _ h => by cases h⟩
  all_goals cases ht; exact ⟨hi, hw, fun _ h => by cases h⟩

theorem Handler.Inv.select {h h' : Handler} {ev : Event} (hi : h.Inv) (hw : h.returned = none)
    (hs : (h.take ev).bind (·.drive validateOpenMsg n ev) = some h') : h'.Inv := by
  obtain ⟨h₁, ht, hd⟩ := Option.bind_eq_some.mp hs
  obtain ⟨hi₁, hw₁, hmsg⟩ := hi.take hw ht
  unfold Handler.drive at hd
  split at hd
  · cases hd; exact ⟨hi₁.errorCh_nil, hi₁.errorCh_length, fun h => by simp [hw₁] at h⟩
  · next f next r ho =>
    cases hd
    refine ⟨hi₁.errorCh_nil, hi₁.errorCh_length, fun _ => ?_⟩
    cases next with
    | dying => exact .inr (by simp [closesConn])
    | state t =>
      rcases handler_leave ho with ⟨rfl, -⟩ | ⟨-, rfl, -⟩ | ⟨-, rfl, -⟩ | ⟨-, rfl, o, he, -⟩ | ⟨-, rfl, he, -⟩
      · exact .inr (by simp [closesConn])
      · exact .inr (by simp [closesConn])
      · exact .inr (by simp [closesConn])
      · exact .inl (hmsg _ he)
      · exact .inl (hmsg _ he)
  · cases hd

theorem Handler.Inv.step {h h' : Handler} {a : Act} (hi : h.Inv)
    (hs : h.step validateOpenMsg n a = some h') : h'.Inv := by
  cases a with
  | read d =>
    simp only [Handler.step] at hs
    split at hs <;> cases hs
    next hc =>
      exact ⟨fun _ => hi.errorCh_nil (by simp [hc.1]), hi.errorCh_length,
        fun hr => absurd (hi.closed hr) (by simp [hc.1, hc.2])⟩
  | readFail =>
    simp only [Handler.step] at hs
    split at hs <;> cases hs
    next hc => exact ⟨fun _ => hi.errorCh_nil (by simp [hc.1]), hi.errorCh_length, fun _ => .inr hc.2⟩
  | pushErr =>
    simp only [Handler.step] at hs
    split at hs <;> try cases hs
    next r hr =>
      split at hs <;> cases hs
      refine ⟨fun h => absurd rfl h, ?_, fun _ => .inl rfl⟩
      simp [hi.errorCh_nil (by simp [hr])]
  | peerClose =>
    simp only [Handler.step] at hs
    cases hs
    exact ⟨hi.errorCh_nil, hi.errorCh_length, fun _ => .inr rfl⟩
  | select ev =>
    simp only [Handler.step] at hs
    split at hs
    · cases hs
    · next hr => exact hi.select (by simpa using hr) hs

theorem Handler.Inv.run {h h' : Handler} (hi : h.Inv) :
    ∀ {acts : List Act}, h.run validateOpenMsg n acts = some h' → h'.Inv := by
  intro acts
  induction acts generalizing h with
  | nil => intro hr; cases hr; exact hi
  | cons a acts ih =>
    intro hr
    obtain ⟨h₁, h₁s, h₁r⟩ := Option.bind_eq_some.mp hr
    exact ih (hi.step h₁s) h₁r

/-- Once the state handler of OPENSENT or OPENCONFIRM has returned, either the receive
goroutine is blocked on `msgCh`, or it can finish and `h.t.Wait()` can return. -/
theorem Handler.wait_returns_unless_blocked (fsm : FSM) {acts : List Act} {h : Handler}
    (hrun : (Handler.start fsm).run validateOpenMsg n acts = some h) (hret : h.returned.isSome) :
    (∃ d, h.recv = .sendingMsg d) ∨ ∃ acts' h', h.run validateOpenMsg n acts' = some h' ∧ h'.WaitReturns := by
  have hi := (Handler.start_inv fsm).run hrun
  cases hrecv : h.recv with
  | sendingMsg d => exact .inl ⟨d, rfl⟩
  | done => exact .inr ⟨[], h, rfl, hret, hrecv⟩
  | reading =>
    have hc : h.connClosed = true := by simpa [hrecv] using hi.closed hret
    have he := hi.errorCh_nil (by simp [hrecv])
    refine .inr ⟨[.readFail, .pushErr], { h with recv := .done, errorCh := [.readFailed] }, ?_, hret, rfl⟩
    simp [Handler.run, Handler.step, hrecv, hc, he, errorChCap]
  | sendingErr r =>
    have he := hi.errorCh_nil (by simp [hrecv])
    refine .inr ⟨[.pushErr], { h with recv := .done, errorCh := [r] }, ?_, hret, rfl⟩
    simp [Handler.run, Handler.step, hrecv, he, errorChCap]

theorem wait_returns_after_hold_timer :
    ∃ h, (Handler.start opensentSys.fsm).run acceptAll sampleNeighbor [.select .holdTimer] = some h ∧
      h.returned.isSome ∧
      ((∃ d, h.recv = .sendingMsg d) ∨ ∃ acts' h', h.run acceptAll sampleNeighbor acts' = some h' ∧ h'.WaitReturns) :=
  ⟨_, rfl, rfl, @Handler.wait_returns_unless_blocked acceptAll sampleNeighbor opensentSys.fsm [.select .holdTimer] _ rfl rfl⟩

/-! ## The hold timer against a delivered OPEN -/

/-- In OPENSENT the peer's OPEN has been read when the hold timer fires, and the `select`
takes the timer: the state handler closes the connection and returns IDLE while the receive
goroutine waits on `msgCh`, and no continuation lets `h.t.Wait()` return. -/
theorem opensent_hold_timer_blocks_wait :
    ∃ h, (Handler.start opensentSys.fsm).run acceptAll sampleNeighbor
        [.read (.message (.bgpOpen peerOpen)), .select .holdTimer] = some h ∧
      h.returned = some (.state .idle) ∧ h.connClosed = true ∧
      ∀ acts h', h.run acceptAll sampleNeighbor acts = some h' → ¬h'.WaitReturns := by
  refine ⟨_, rfl, rfl, rfl, ?_⟩
  intro acts h' hr hw
  have := Handler.run_blocked acts (by rfl) (by rfl) hr
  simp [Handler.WaitReturns, this] at hw

end

end GoBgp
