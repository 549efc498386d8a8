import GoBgp.Session
import GoBgp.Goroutines
import GoBgp.Counters

/-!
# The goroutines of ESTABLISHED

The state handler, `sendMessageloop` and `recvMessageloop` share `errorCh` (2 slots), which
only the state handler reads, once. When the peer sends no NOTIFICATION at most two values are
ever owed to it, so once the state handler has returned `h.t.Wait()` can return
(`teardown_completes`); a goroutine that finds `errorCh` full after that waits for good
(`teardown_blocks`).
-/

namespace GoBgp

/-- Where `sendMessageloop` is: in its `select`, sending `r` on `errorCh` before it returns,
or returned. -/
inductive SendLoop
  | selecting
  | pushing (r : FsmStateReason)
  | done
  deriving DecidableEq, Repr

/-- Where `recvMessageloop` is: reading, sending `r` on `errorCh`, or returned. -/
inductive RecvLoop
  | reading
  | pushing (r : FsmStateReason)
  | done
  deriving DecidableEq, Repr

/-- An `FSMHandler` in ESTABLISHED: the FSM, the state handler (`none` while it waits in its
`select`, then the next state it returned), the two loops, the buffered `errorCh` and the
length of `holdTimerResetCh`, the server's `outgoing` queue, whether either side closed the
connection, and whether the tomb is dying. -/
structure Est where
  fsm : FSM
  returned : Option NextState
  sender : SendLoop
  recv : RecvLoop
  errorCh : List FsmStateReason
  holdTimerResetCh : Nat
  outgoing : List BGPMessage
  connClosed : Bool
  dying : Bool
  deriving DecidableEq, Repr

def Est.start (fsm : FSM) : Est := ⟨fsm, none, .selecting, .reading, [], 0, [], false, false⟩

/-- A step of a goroutine or of its surroundings: the state handler takes a case; the send
loop takes `Dying`, the next `outgoing` message or a tick, with how its `send` goes (the
message serialized, the write deadline set, the write done); a goroutine's send on `errorCh`
completes; the receive loop reads, or reads a message that parses but that
`ValidateBGPMessage` rejects; the server queues a message; the peer closes the connection; the
tomb is killed from outside. -/
inductive EstAct
  | select (ev : Event)
  | sendDying (serialized deadlineSet ok : Bool)
  | sendOutgoing (serialized deadlineSet ok : Bool)
  | sendTick (serialized deadlineSet ok : Bool)
  | sendPush
  | recv (r : RecvOutcome)
  | recvInvalid (m : BGPMessage)
  | recvPush
  | enqueue (m : BGPMessage)
  | peerClose
  | kill
  deriving DecidableEq, Repr

/-! ## The steps -/

/-- What `send` sends on `errorCh`, exactly when it returns an error: nothing for a message
that does not serialize or was written, `FSM_WRITE_FAILED` when the deadline or the write
fails, and `FSM_NOTIFICATION_SENT` after a NOTIFICATION was written. -/
def sendErr (m : BGPMessage) (serialized deadlineSet ok : Bool) : Option FsmStateReason :=
  if !serialized then none
  else if !deadlineSet || !ok then some .writeFailed
  else if m.type = BGP_MSG_NOTIFICATION then some .notificationSent
  else none

/-- What the codec and the connection allow `send`: only an UPDATE can fail to serialize, and
a write succeeds only on an open connection. -/
def Est.sendable (e : Est) (m : BGPMessage) (serialized deadlineSet ok : Bool) : Bool :=
  (serialized || m.type == BGP_MSG_UPDATE) && !(deadlineSet && ok && e.connClosed)

/-- The send loop after `send` returned: on an error it sends it on `errorCh` and returns. -/
def SendLoop.after : Option FsmStateReason → SendLoop
  | some r => .pushing r
  | none => .selecting

/-- The keepalive ticker of `sendMessageloop` fires: `keepaliveTicker` armed a period. -/
def tickerFires (fsm : FSM) : Bool :=
  match keepaliveTicker fsm with
  | .ok (some _) => true
  | _ => false

/-- The channel side of a case of `established`'s `select`. `ticker`, `idleHoldTimer` and
`msgCh` are not among its cases, and the zero `time.Timer` armed for a negotiated hold time of
0 never fires. -/
def Est.take (e : Est) : Event → Option Est
  | .dying => if e.dying then some e else none
  | .errorCh r => match e.errorCh with
    | r' :: rest => if r' = r then some { e with errorCh := rest } else none
    | [] => none
  | .holdTimerResetCh =>
    if 0 < e.holdTimerResetCh then some { e with holdTimerResetCh := e.holdTimerResetCh - 1 } else none
  | .holdTimer => if e.fsm.negotiatedHoldTime ≠ 0 then some e else none
  | .connCh _ | .adminStateCh _ => some e
  | _ => none

/-- Whether the case closes `h.conn` and kills the tomb before the handler returns. -/
def killsOn : Event → Bool
  | .errorCh _ => true
  | _ => false

/-- The state handler's reaction, as `established` computes it. -/
def Est.drive (e : Est) (ev : Event) : Option Est :=
  match established e.fsm ev with
  | .stay fsm => some { e with fsm := fsm, outgoing := e.outgoing ++ establishedOutgoing e.fsm ev }
  | .leave fsm next r =>
    some { e with
      fsm := { fsm with reason := r }
      returned := some next
      outgoing := e.outgoing ++ establishedOutgoing e.fsm ev
      connClosed := e.connClosed || killsOn ev
      dying := e.dying || killsOn ev }
  | .panic _ => none

/-- `recvMessageWithError` in ESTABLISHED: a failed read is sent on `errorCh` and ends the
loop; a header or a body the codec rejects goes to the server and ends it; a NOTIFICATION is
sent on `errorCh`; an UPDATE or a KEEPALIVE resets the hold timer through `holdTimerResetCh`
unless a reset is pending; the other messages go to the server. -/
def Est.read (e : Est) : RecvOutcome → Est
  | .headerReadFailed | .bodyReadFailed => { e with recv := .pushing .readFailed }
  | .headerDecodeFailed | .bodyParseFailed => { e with recv := .done }
  | .parsed m =>
    if m.type = BGP_MSG_NOTIFICATION then { e with recv := .pushing .notificationRecv }
    else if m.type = BGP_MSG_UPDATE ∨ m.type = BGP_MSG_KEEPALIVE then
      { e with holdTimerResetCh := if e.holdTimerResetCh = 0 then 1 else e.holdTimerResetCh }
    else e

def RecvOutcome.needsOpen : RecvOutcome → Bool
  | .headerReadFailed | .bodyReadFailed => false
  | _ => true

/-- The send loop after its `Dying` case: only in ESTABLISHED does it write the CEASE, and
it sends a failed write on `errorCh` before it returns. -/
def SendLoop.afterDying (fsm : FSM) (err : Option FsmStateReason) : SendLoop :=
  if fsm.state = .established then
    match err with
    | some r => .pushing r
    | none => .done
  else .done

def Est.step (e : Est) : EstAct → Option Est
  | .select ev => if e.returned.isSome then none else (e.take ev).bind (·.drive ev)
  | .sendDying s d ok =>
    if e.sender = .selecting ∧ e.dying ∧ e.sendable peerDeconfigured s d ok then
      some { e with sender := SendLoop.afterDying e.fsm (sendErr peerDeconfigured s d ok) }
    else none
  | .sendOutgoing s d ok => match e.outgoing with
    | m :: rest =>
      if e.sender = .selecting ∧ e.sendable m s d ok then
        some { e with outgoing := rest, sender := SendLoop.after (sendErr m s d ok) }
      else none
    | [] => none
  | .sendTick s d ok =>
    if e.sender = .selecting ∧ tickerFires e.fsm ∧ e.sendable .keepalive s d ok then
      some { e with sender := SendLoop.after (sendErr .keepalive s d ok) }
    else none
  | .sendPush => match e.sender with
    | .pushing r => if e.errorCh.length < errorChCap then some { e with errorCh := e.errorCh ++ [r], sender := .done }
      else none
    | _ => none
  | .recv r => if e.recv = .reading ∧ (r.needsOpen → e.connClosed = false) then some (e.read r) else none
  | .recvInvalid _ => if e.recv = .reading ∧ e.connClosed = false then some { e with recv := .done } else none
  | .recvPush => match e.recv with
    | .pushing r =>
      if e.errorCh.length < errorChCap then
        some { e with errorCh := e.errorCh ++ [r], recv := if r = .notificationRecv then .reading else .done }
      else none
    | _ => none
  | .enqueue m => some { e with outgoing := e.outgoing ++ [m] }
  | .peerClose => some { e with connClosed := true }
  | .kill => some { e with dying := true }

def Est.run : Est → List EstAct → Option Est
  | e, [] => some e
  | e, a :: acts => (e.step a).bind (·.run acts)

/-- `h.t.Wait()` in `loop` returns: the state handler and both loops have returned. -/
def Est.WaitReturns (e : Est) : Prop := e.returned.isSome ∧ e.sender = .done ∧ e.recv = .done

def EstAct.readsNotification : EstAct → Bool
  | .recv (.parsed m) => m.type == BGP_MSG_NOTIFICATION
  | _ => false

/-! ## What a step can do -/

inductive Est.Moves : Est → EstAct → Est → Prop
  | select {e e₁ e' : Est} {ev : Event} (hr : e.returned = none) (ht : e.take ev = some e₁)
      (hd : e₁.drive ev = some e') : Est.Moves e (.select ev) e'
  | sendDying {e : Est} {s d ok : Bool} (hs : e.sender = .selecting) (hdy : e.dying = true) :
      Est.Moves e (.sendDying s d ok)
        { e with sender := SendLoop.afterDying e.fsm (sendErr peerDeconfigured s d ok) }
  | sendOutgoing {e : Est} {s d ok : Bool} {m : BGPMessage} {rest : List BGPMessage}
      (ho : e.outgoing = m :: rest) (hs : e.sender = .selecting) (hok : e.sendable m s d ok = true) :
      Est.Moves e (.sendOutgoing s d ok) { e with outgoing := rest, sender := SendLoop.after (sendErr m s d ok) }
  | sendTick {e : Est} {s d ok : Bool} (hs : e.sender = .selecting) :
      Est.Moves e (.sendTick s d ok) { e with sender := SendLoop.after (sendErr .keepalive s d ok) }
  | sendPush {e : Est} {r : FsmStateReason} (hs : e.sender = .pushing r) (hlt : e.errorCh.length < errorChCap) :
      Est.Moves e .sendPush { e with errorCh := e.errorCh ++ [r], sender := .done }
  | recv {e : Est} {r : RecvOutcome} (hr : e.recv = .reading) : Est.Moves e (.recv r) (e.read r)
  | recvInvalid {e : Est} {m : BGPMessage} (hr : e.recv = .reading) :
      Est.Moves e (.recvInvalid m) { e with recv := .done }
  | recvPush {e : Est} {r : FsmStateReason} (hr : e.recv = .pushing r) (hlt : e.errorCh.length < errorChCap) :
      Est.Moves e .recvPush
        { e with errorCh := e.errorCh ++ [r], recv := if r = .notificationRecv then .reading else .done }
  | enqueue {e : Est} {m : BGPMessage} : Est.Moves e (.enqueue m) { e with outgoing := e.outgoing ++ [m] }
  | peerClose {e : Est} : Est.Moves e .peerClose { e with connClosed := true }
  | kill {e : Est} : Est.Moves e .kill { e with dying := true }

section Frame

variable {e e₁ e' : Est} {a : EstAct} {ev : Event}

theorem Est.step_moves (h : e.step a = some e') : Est.Moves e a e' := by
  cases a <;> simp only [Est.step, Option.ite_none_right_eq_some, Option.some.injEq] at h
  case select ev =>
    split at h
    · cases h
    · next hr =>
      obtain ⟨e₁, ht, hd⟩ := Option.bind_eq_some.mp h
      exact .select (by simpa using hr) ht hd
  case sendOutgoing =>
    split at h
    · next ho =>
      simp only [Option.ite_none_right_eq_some, Option.some.injEq] at h
      obtain ⟨⟨hs, hok⟩, rfl⟩ := h
      exact .sendOutgoing ho hs hok
    · cases h
  case sendPush | recvPush =>
    split at h
    · next hs =>
      simp only [Option.ite_none_right_eq_some, Option.some.injEq] at h
      obtain ⟨hlt, rfl⟩ := h
      first
        | exact .sendPush hs hlt
        | exact .recvPush hs hlt
    · cases h
  all_goals first
    | (obtain ⟨⟨hs, hdy, -⟩, rfl⟩ := h; exact .sendDying hs hdy)
    | (obtain ⟨⟨hs, -⟩, rfl⟩ := h; exact .sendTick hs)
    | (obtain ⟨⟨hr, -⟩, rfl⟩ := h; first | exact .recv hr | exact .recvInvalid hr)
    | (cases h; constructor)

theorem Est.take_frame (h : e.take ev = some e₁) :
    ∃ q n, e₁ = { e with errorCh := q, holdTimerResetCh := n } ∧ q.length ≤ e.errorCh.length ∧
      (ev = .dying → e.dying = true) := by
  cases ev <;> simp only [Est.take] at h
  case errorCh r =>
    split at h
    · next heq => split at h <;> cases h; exact ⟨_, _, rfl, by simp [heq], nofun⟩
    · cases h
  case dying => split at h <;> cases h; exact ⟨_, _, rfl, le_rfl, fun _ => by assumption⟩
  all_goals first | (split at h <;> cases h) | cases h
  all_goals exact ⟨_, _, rfl, le_rfl, nofun⟩

theorem established_leave_of {f f' : FSM} {next : NextState} {r : FsmStateReason}
    (h : established f ev = .leave f' next r) : f' = f ∧ (ev = .dying ∨ killsOn ev ∨ ev = .holdTimer) := by
  cases ev <;> simp only [established, stayOnAdmin_eq, Outcome.leave.injEq, reduceCtorEq] at h
  all_goals simp_all [killsOn]

theorem Est.drive_frame (h : e.drive ev = some e') :
    e'.sender = e.sender ∧ e'.recv = e.recv ∧ e'.errorCh = e.errorCh ∧ e'.fsm.state = e.fsm.state ∧
      (e.dying = true → e'.dying = true) ∧ e'.outgoing = e.outgoing ++ establishedOutgoing e.fsm ev ∧
      (e'.returned ≠ e.returned → ev = .dying ∨ ev = .holdTimer ∨ e'.dying = true) := by
  unfold Est.drive at h
  split at h
  · next f hs =>
    cases h
    obtain ⟨a, rfl⟩ := established_stay hs
    simp
  · next f next r hl =>
    cases h
    obtain ⟨rfl, hev⟩ := established_leave_of hl
    refine ⟨rfl, rfl, rfl, rfl, by simp_all, rfl, fun _ => ?_⟩
    rcases hev with h | h | h <;> simp [h]
  · cases h

theorem sendErr_eq_none {m : BGPMessage} {s d ok : Bool} (hs : e.sendable m s d ok = true)
    (h : sendErr m s d ok = none) : m.type ≠ BGP_MSG_NOTIFICATION := by
  simp only [Est.sendable, Bool.and_eq_true, Bool.or_eq_true, beq_iff_eq] at hs
  simp only [sendErr] at h
  split at h
  · next hser => rcases hs.1 with h' | h' <;> simp_all [BGP_MSG_UPDATE, BGP_MSG_NOTIFICATION]
  · split at h
    · cases h
    · split at h
      · cases h
      · assumption

theorem Est.read_frame (r : RecvOutcome) (hr : e.recv = .reading) :
    ∃ l n, e.read r = { e with recv := l, holdTimerResetCh := n } ∧
      (∀ r', l = .pushing r' → r' = .readFailed ∨ (EstAct.recv r).readsNotification = true) := by
  cases r <;> simp only [Est.read]
  case parsed m =>
    split
    · exact ⟨_, _, rfl, fun _ _ => .inr (by simpa [EstAct.readsNotification])⟩
    · split <;> exact ⟨_, _, rfl, fun _ h => by simp_all⟩
  case headerReadFailed | bodyReadFailed => exact ⟨_, _, rfl, fun _ h => .inl (by cases h; rfl)⟩
  all_goals exact ⟨_, _, rfl, nofun⟩

end Frame

/-! ## The invariants -/

/-- What every run keeps: the FSM stays ESTABLISHED, and once the state handler has returned,
the tomb is dying, the send loop is past its `select`, or a NOTIFICATION waits on
`outgoing`. -/
structure Est.Inv (e : Est) : Prop where
  state : e.fsm.state = .established
  returned : e.returned.isSome → e.dying = true ∨ e.sender ≠ .selecting ∨
    ∃ c s d, .notification c s d ∈ e.outgoing

def SendLoop.owed : SendLoop → Nat
  | .done => 0
  | _ => 1

def RecvLoop.owed : RecvLoop → Nat
  | .done => 0
  | _ => 1

/-- What a run without a NOTIFICATION from the peer keeps: the values in `errorCh` and one for
each loop that has not returned fit in its slots, and the receive loop only ever sends
`FSM_READ_FAILED`. -/
structure Est.Fits (e : Est) : Prop where
  fits : e.errorCh.length + e.sender.owed + e.recv.owed ≤ errorChCap
  readFailed : ∀ r, e.recv = .pushing r → r = .readFailed

theorem Est.start_inv {fsm : FSM} (h : fsm.state = .established) : (Est.start fsm).Inv :=
  ⟨h, by simp [Est.start]⟩

theorem SendLoop.owed_le_one (l : SendLoop) : l.owed ≤ 1 := by cases l <;> simp [owed]

theorem RecvLoop.owed_le_one (l : RecvLoop) : l.owed ≤ 1 := by cases l <;> simp [owed]

theorem mem_of_head_not_notification {m : BGPMessage} {rest : List BGPMessage} {c s : Nat} {d : List UInt8}
    (hm : m.type ≠ BGP_MSG_NOTIFICATION) (h : .notification c s d ∈ m :: rest) :
    .notification c s d ∈ rest := by
  rcases List.mem_cons.mp h with rfl | h
  · exact absurd rfl hm
  · exact h

section Steps

variable {e e' : Est} {a : EstAct} {acts : List EstAct}

theorem Est.Inv.step (hi : e.Inv) (h : e.step a = some e') : e'.Inv := by
  cases Est.step_moves h with
  | select hr ht hd =>
    obtain ⟨q, n, rfl, -, hdy⟩ := Est.take_frame ht
    obtain ⟨-, -, -, hst, hdd, hout, hret⟩ := Est.drive_frame hd
    refine ⟨hst.trans hi.state, fun hsome => ?_⟩
    rcases hret (fun h => by simp [h, hr] at hsome) with rfl | rfl | hk
    · exact .inl (hdd (hdy rfl))
    · exact .inr (.inr ⟨BGP_ERROR_HOLD_TIMER_EXPIRED, 0, [], by simp [hout, establishedOutgoing]⟩)
    · exact .inl hk
  | sendDying _ hdy => exact ⟨hi.state, fun _ => .inl hdy⟩
  | @sendOutgoing s d ok m _ ho hs hok =>
    refine ⟨hi.state, fun hsome => ?_⟩
    rcases hi.returned hsome with hdy | hne | ⟨c, s', d', hn⟩
    · exact .inl hdy
    · exact absurd hs hne
    · cases herr : sendErr m s d ok with
      | none =>
        rw [ho] at hn
        exact .inr (.inr ⟨c, s', d', mem_of_head_not_notification (sendErr_eq_none hok herr) hn⟩)
      | some r => exact .inr (.inl (by simp [SendLoop.after]))
  | sendTick hs =>
    refine ⟨hi.state, fun hsome => ?_⟩
    rcases hi.returned hsome with hdy | hne | hn
    · exact .inl hdy
    · exact absurd hs hne
    · exact .inr (.inr hn)
  | sendPush => exact ⟨hi.state, fun _ => .inr (.inl nofun)⟩
  | recv hr =>
    obtain ⟨l, n, hread, -⟩ := Est.read_frame _ hr
    rw [hread]
    exact ⟨hi.state, hi.returned⟩
  | recvInvalid | recvPush | peerClose => exact ⟨hi.state, hi.returned⟩
  | enqueue =>
    refine ⟨hi.state, fun hsome => ?_⟩
    rcases hi.returned hsome with hdy | hne | ⟨c, s, d, hn⟩
    · exact .inl hdy
    · exact .inr (.inl hne)
    · exact .inr (.inr ⟨c, s, d, List.mem_append_left _ hn⟩)
  | kill => exact ⟨hi.state, fun _ => .inl rfl⟩

theorem Est.Inv.run (hi : e.Inv) (h : e.run acts = some e') : e'.Inv := by
  induction acts generalizing e with
  | nil => cases h; exact hi
  | cons a acts ih =>
    obtain ⟨e₁, h₁, h₂⟩ := Option.bind_eq_some.mp h
    exact ih (hi.step h₁) h₂

theorem Est.Fits.sender_moves (hf : e.Fits) (hs : e.sender = .selecting) (l : SendLoop) :
    ({ e with sender := l } : Est).Fits := by
  have := hf.fits
  have := l.owed_le_one
  rw [hs] at *
  exact ⟨by simp only [SendLoop.owed] at *; omega, hf.readFailed⟩

theorem Est.Fits.step (hf : e.Fits) (hq : a.readsNotification = false) (h : e.step a = some e') :
    e'.Fits := by
  have hfit := hf.fits
  cases Est.step_moves h with
  | select hr ht hd =>
    obtain ⟨q, n, rfl, hlen, -⟩ := Est.take_frame ht
    obtain ⟨hs, hrv, herr, -⟩ := Est.drive_frame hd
    refine ⟨?_, fun r hr => hf.readFailed r (hrv ▸ hr)⟩
    rw [hs, hrv, herr]
    dsimp only at hlen ⊢
    omega
  | sendDying hs _ | sendTick hs => exact hf.sender_moves hs _
  | sendOutgoing _ hs _ => exact ⟨(hf.sender_moves hs (SendLoop.after _)).fits, hf.readFailed⟩
  | sendPush hs _ =>
    rw [hs] at hfit
    exact ⟨by simp only [List.length_append, List.length_singleton, SendLoop.owed] at *; omega, hf.readFailed⟩
  | @recv r hrd =>
    obtain ⟨l, n, hread, hl⟩ := Est.read_frame r hrd
    have := l.owed_le_one
    rw [hrd] at hfit
    rw [hread]
    refine ⟨by simp only [RecvLoop.owed] at *; omega, fun r' hr' => ?_⟩
    simpa [hq] using hl r' hr'
  | recvInvalid hrd =>
    rw [hrd] at hfit
    exact ⟨by simp only [RecvLoop.owed] at *; omega, nofun⟩
  | @recvPush r hr _ =>
    obtain rfl := hf.readFailed r hr
    rw [hr] at hfit
    exact ⟨by simp only [List.length_append, List.length_singleton, RecvLoop.owed, reduceCtorEq, if_false] at *; omega,
      nofun⟩
  | enqueue | peerClose | kill => exact ⟨hf.fits, hf.readFailed⟩

theorem Est.Fits.run (hf : e.Fits) (hq : ∀ a ∈ acts, a.readsNotification = false)
    (h : e.run acts = some e') : e'.Fits := by
  induction acts generalizing e with
  | nil => cases h; exact hf
  | cons a acts ih =>
    obtain ⟨e₁, h₁, h₂⟩ := Option.bind_eq_some.mp h
    exact ih (hf.step (hq a (List.mem_cons_self _ _)) h₁) (fun b hb => hq b (List.mem_cons_of_mem _ hb)) h₂

end Steps

/-! ## Once the state handler has returned, `Wait` can return -/

def SendLoop.rank : SendLoop → Nat
  | .selecting => 2
  | .pushing _ => 1
  | .done => 0

def RecvLoop.rank : RecvLoop → Nat
  | .reading => 2
  | .pushing _ => 1
  | .done => 0

def Est.pending (e : Est) : Nat := e.sender.rank + e.recv.rank + if e.connClosed then 0 else 1

section Completion

/-- Short of `Wait` returning, the send loop fails a write and reports it, or the peer closes
the connection and the receive loop fails its read and reports it, and `errorCh` has room. -/
theorem Est.Inv.progress {e : Est} (hi : e.Inv) (hf : e.Fits) (hr : e.returned.isSome) (hw : ¬e.WaitReturns) :
    ∃ a e', a.readsNotification = false ∧ e.step a = some e' ∧ e'.returned = e.returned ∧
      e'.pending < e.pending := by
  have hfits := hf.fits
  cases hs : e.sender with
  | pushing r =>
    rw [hs] at hfits
    simp only [SendLoop.owed, errorChCap] at hfits
    refine ⟨.sendPush, { e with errorCh := e.errorCh ++ [r], sender := .done }, rfl, ?_, rfl, ?_⟩
    · simp only [Est.step, hs, errorChCap]
      rw [if_pos (by omega)]
    · simp [Est.pending, hs, SendLoop.rank]
  | selecting =>
    rcases hi.returned hr with hdy | hne | ⟨c, s, d, hn⟩
    · refine ⟨.sendDying true true false, { e with sender := .pushing .writeFailed }, rfl, ?_, rfl, ?_⟩
      · simp [Est.step, hs, hdy, hi.state, Est.sendable, sendErr, SendLoop.afterDying]
      · simp [Est.pending, hs, SendLoop.rank]
    · exact absurd hs hne
    · cases ho : e.outgoing with
      | nil => simp [ho] at hn
      | cons m rest =>
        refine ⟨.sendOutgoing true true false, { e with outgoing := rest, sender := .pushing .writeFailed },
          rfl, ?_, rfl, ?_⟩
        · simp [Est.step, ho, hs, Est.sendable, sendErr, SendLoop.after]
        · simp [Est.pending, hs, SendLoop.rank]
  | done =>
    cases hrv : e.recv with
    | done => exact absurd ⟨hr, hs, hrv⟩ hw
    | pushing r =>
      obtain rfl := hf.readFailed r hrv
      rw [hs, hrv] at hfits
      simp only [SendLoop.owed, RecvLoop.owed, errorChCap] at hfits
      refine ⟨.recvPush, { e with errorCh := e.errorCh ++ [.readFailed], recv := .done }, rfl, ?_, rfl, ?_⟩
      · simp only [Est.step, hrv, errorChCap]
        rw [if_pos (by omega)]
        rfl
      · simp [Est.pending, hs, hrv, RecvLoop.rank]
    | reading =>
      cases hc : e.connClosed with
      | false => exact ⟨.peerClose, { e with connClosed := true }, rfl, rfl, rfl, by simp [Est.pending, hc]⟩
      | true =>
        refine ⟨.recv .headerReadFailed, { e with recv := .pushing .readFailed }, rfl, ?_, rfl, ?_⟩
        · simp [Est.step, hrv, RecvOutcome.needsOpen, Est.read]
        · simp [Est.pending, hrv, RecvLoop.rank]

theorem Est.Inv.complete {e : Est} (hi : e.Inv) (hf : e.Fits) (hr : e.returned.isSome) :
    ∃ acts e', (∀ a ∈ acts, a.readsNotification = false) ∧ e.run acts = some e' ∧ e'.WaitReturns := by
  by_cases hw : e.WaitReturns
  · exact ⟨[], e, nofun, rfl, hw⟩
  obtain ⟨a, e₁, hq, h₁, hret, hlt⟩ := hi.progress hf hr hw
  obtain ⟨acts, e', hqs, hrun, hfin⟩ := (hi.step h₁).complete (hf.step hq h₁) (hret ▸ hr)
  exact ⟨a :: acts, e', List.forall_mem_cons.mpr ⟨hq, hqs⟩, by rw [Est.run, h₁, Option.some_bind, hrun], hfin⟩
termination_by e.pending

end Completion

/-! ## A full `errorCh` after the state handler returned -/

/-- The state handler has returned, `errorCh` is full, and a loop waits to send on it. -/
structure Est.Stuck (e : Est) : Prop where
  returned : e.returned.isSome
  full : errorChCap ≤ e.errorCh.length
  pushing : ∃ r, e.sender = .pushing r ∨ e.recv = .pushing r

section Stuck

variable {e e' : Est} {a : EstAct}

theorem Est.Stuck.step (hs : e.Stuck) (h : e.step a = some e') : e'.Stuck := by
  obtain ⟨hr, hfull, r, hp⟩ := hs
  have hsel : e.sender = .selecting → e.recv = .pushing r := fun h => hp.resolve_left (by simp [h])
  have hrd : e.recv = .reading → e.sender = .pushing r := fun h => hp.resolve_right (by simp [h])
  cases Est.step_moves h with
  | select hr' => simp [hr'] at hr
  | sendDying hs | sendOutgoing _ hs | sendTick hs => exact ⟨hr, hfull, r, .inr (hsel hs)⟩
  | sendPush _ hlt | recvPush _ hlt => exact absurd hlt (Nat.not_lt.mpr hfull)
  | recv hr' =>
    obtain ⟨l, n, hread, -⟩ := Est.read_frame _ hr'
    rw [hread]
    exact ⟨hr, hfull, r, .inl (hrd hr')⟩
  | recvInvalid hr' => exact ⟨hr, hfull, r, .inl (hrd hr')⟩
  | enqueue | peerClose | kill => exact ⟨hr, hfull, r, hp⟩

theorem Est.Stuck.run {acts : List EstAct} (hs : e.Stuck) (h : e.run acts = some e') : e'.Stuck := by
  induction acts generalizing e with
  | nil => cases h; exact hs
  | cons a acts ih =>
    obtain ⟨e₁, h₁, h₂⟩ := Option.bind_eq_some.mp h
    exact ih (hs.step h₁) h₂

theorem Est.Stuck.not_waitReturns (hs : e.Stuck) : ¬e.WaitReturns := by
  rintro ⟨-, hsd, hrd⟩
  obtain ⟨r, hp | hp⟩ := hs.pushing <;> simp_all

end Stuck

/-! ## Runs from the start of ESTABLISHED -/

/-- The FSM of `sampleNeighbor` in ESTABLISHED with hold time 90. -/
def establishedFsm : FSM := { newFSM sampleNeighbor with state := .established, negotiatedHoldTime := 90 }

/-- Once the state handler has returned with `errorCh` full and a loop waiting to send on it,
no continuation lets `h.t.Wait()` return: `loop` hangs until its 120-second timer ends the
process with `log.Fatal`. -/
theorem teardown_blocks {e : Est} (hs : e.Stuck) :
    ∀ acts e', e.run acts = some e' → ¬e'.WaitReturns :=
  fun _ _ h => (hs.run h).not_waitReturns

/-- The hold timer expires, the send loop writes its NOTIFICATION while the peer's own
NOTIFICATION arrives, and the peer closes the connection: the receive loop's
`FSM_READ_FAILED` finds `errorCh` full. -/
theorem teardown_blocks_after_notification :
    ∃ e, (Est.start establishedFsm).run
        [.select .holdTimer, .sendOutgoing true true true, .sendPush,
          .recv (.parsed (.notification BGP_ERROR_CEASE BGP_ERROR_SUB_ADMINISTRATIVE_SHUTDOWN [])),
          .recvPush, .peerClose, .recv .headerReadFailed] = some e ∧
      ∀ acts e', e.run acts = some e' → ¬e'.WaitReturns :=
  ⟨_, rfl, teardown_blocks ⟨rfl, by decide, _, .inr rfl⟩⟩

end GoBgp
