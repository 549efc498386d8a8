import GoBgp.FsmSafety
import Mathlib.Data.Rat.Floor
import Mathlib.Tactic.NormNum

/-!
# What OPENSENT negotiates

From an OPEN that passed validation `opensent` keeps the peer's capabilities, by code and in
order, and the configured families the peer also named (`open2Cap`); it takes the smaller
hold time and a keepalive interval, from which `keepaliveTicker` arms the ticker that
OPENCONFIRM and `sendMessageloop` use.
-/

namespace GoBgp

/-! ## open2Cap -/

/-- The capabilities an optional parameter carries. -/
def OptionParameter.caps : OptionParameter → List Capability
  | .capability caps => caps
  | .unknown _ _ => []

/-- The family a MultiProtocol capability names. -/
def Capability.family? : Capability → Option Nat
  | .multiProtocol rf => some rf
  | .other _ _ _ => none

/-- Every capability of an OPEN, in the order of its parameters. -/
def BGPOpen.capabilities (o : BGPOpen) : List Capability := o.optParams.flatMap OptionParameter.caps

/-- The families the MultiProtocol capabilities of an OPEN name. -/
def BGPOpen.families (o : BGPOpen) : List Nat := o.capabilities.filterMap Capability.family?

theorem mem_keys_capMapAppend (c : Capability) (k : Nat) (m : List (Nat × List Capability)) :
    k ∈ (capMapAppend c m).map Prod.fst ↔ k = c.code ∨ k ∈ m.map Prod.fst := by
  induction m with
  | nil => simp [capMapAppend]
  | cons e rest ih =>
    obtain ⟨k', l⟩ := e
    unfold capMapAppend
    split_ifs with h
    · subst h; simp
    · simp only [List.map_cons, List.mem_cons, ih]
      exact or_left_comm

theorem nodup_keys_capMapAppend (c : Capability) {m : List (Nat × List Capability)}
    (h : (m.map Prod.fst).Nodup) : ((capMapAppend c m).map Prod.fst).Nodup := by
  induction m with
  | nil => simp [capMapAppend]
  | cons e rest ih =>
    obtain ⟨k', l⟩ := e
    rw [List.map_cons, List.nodup_cons] at h
    unfold capMapAppend
    split_ifs with hk
    · simpa using h
    · simp only [List.map_cons, List.nodup_cons, mem_keys_capMapAppend]
      exact ⟨by tauto, ih h.2⟩

theorem lookup_cons_ite (k k' : Nat) (l : List Capability) (rest : List (Nat × List Capability)) :
    ((k', l) :: rest).lookup k = if k = k' then some l else rest.lookup k := by
  rw [List.lookup_cons]; split <;> simp_all

theorem lookup_capMapAppend (c : Capability) (k : Nat) (m : List (Nat × List Capability)) :
    (capMapAppend c m).lookup k = if k = c.code then some ((m.lookup k).getD [] ++ [c]) else m.lookup k := by
  induction m with
  | nil => simp [capMapAppend, lookup_cons_ite]
  | cons e rest ih =>
    obtain ⟨k', l⟩ := e
    by_cases hk : k' = c.code
    · subst hk; by_cases h : k = c.code <;> simp [capMapAppend, lookup_cons_ite, h]
    · by_cases h : k = k'
      · subst h; simp [capMapAppend, lookup_cons_ite, hk]
      · simp [capMapAppend, lookup_cons_ite, hk, h, ih]

theorem nodup_keys_foldl_capMapAppend (cs : List Capability) {m : List (Nat × List Capability)}
    (h : (m.map Prod.fst).Nodup) : ((cs.foldl (fun m c => capMapAppend c m) m).map Prod.fst).Nodup := by
  induction cs generalizing m with
  | nil => exact h
  | cons c cs ih => exact ih (nodup_keys_capMapAppend c h)

theorem lookup_foldl_capMapAppend (k : Nat) (cs : List Capability) (m : List (Nat × List Capability)) :
    (cs.foldl (fun m c => capMapAppend c m) m).lookup k =
      if cs.any (·.code = k) then some ((m.lookup k).getD [] ++ cs.filter (·.code = k)) else m.lookup k := by
  induction cs generalizing m with
  | nil => simp
  | cons c cs ih =>
    rw [List.foldl_cons, ih, lookup_capMapAppend]
    by_cases h : c.code = k
    · subst h; by_cases ha : cs.any (·.code = c.code) <;> simp_all
    · simp [h, Ne.symm h]

theorem foldl_addCap (cs : List Capability) (acc : List (Nat × List Capability) × List Nat) :
    cs.foldl addCap acc =
      (cs.foldl (fun m c => capMapAppend c m) acc.1, acc.2 ++ cs.filterMap Capability.family?) := by
  induction cs generalizing acc with
  | nil => simp
  | cons c cs ih => cases c <;> simp [addCap, ih, Capability.family?]

theorem foldl_optParams
    {G : List (Nat × List Capability) × List Nat → OptionParameter → List (Nat × List Capability) × List Nat}
    (hcap : ∀ acc caps, G acc (.capability caps) = caps.foldl addCap acc)
    (hunk : ∀ acc t v, G acc (.unknown t v) = acc) (ps : List OptionParameter)
    (acc : List (Nat × List Capability) × List Nat) :
    ps.foldl G acc = (ps.flatMap OptionParameter.caps).foldl addCap acc := by
  induction ps generalizing acc with
  | nil => rfl
  | cons p ps ih => cases p <;> simp [hcap, hunk, ih, OptionParameter.caps, List.foldl_append]

theorem open2Cap_eq (o : BGPOpen) (n : Neighbor) :
    open2Cap o n = (o.capabilities.foldl (fun m c => capMapAppend c m) [],
      if o.families.length > 0 then (createRfMap n).filter (· ∈ o.families) else [RF_IPv4_UC]) := by
  unfold open2Cap
  rw [foldl_optParams (fun _ _ => rfl) (fun _ _ _ => rfl), foldl_addCap]
  dsimp only [List.nil_append, BGPOpen.families, BGPOpen.capabilities]
  split_ifs <;> rfl

/-- `open2Cap` keeps every capability of the OPEN under its code, in order, and accepts the
configured families the peer named, or IPv4 unicast alone when it named none. -/
theorem open2Cap_spec (o : BGPOpen) (n : Neighbor) :
    ((open2Cap o n).1.map Prod.fst).Nodup ∧
    (∀ k, (open2Cap o n).1.lookup k =
      if o.capabilities.any (·.code = k) then some (o.capabilities.filter (·.code = k)) else none) ∧
    ∀ rf, rf ∈ (open2Cap o n).2 ↔
      if o.families = [] then rf = RF_IPv4_UC else rf ∈ createRfMap n ∧ rf ∈ o.families := by
  rw [open2Cap_eq]
  refine ⟨nodup_keys_foldl_capMapAppend _ List.nodup_nil, fun k => by simp [lookup_foldl_capMapAppend],
    fun rf => ?_⟩
  by_cases h : o.families = [] <;> simp [h, List.length_pos]

/-! ## The keepalive ticker -/

/-- `time.Duration(x)` of a float64 `x`: the conversion truncates toward zero. -/
def durationOf (x : ℚ) : Int := x.num.tdiv x.den

/-- `keepaliveTicker`, as the period in nanoseconds of the ticker it arms; `none` is the zero
`time.Ticker`, which never fires. The period is `time.Second * time.Duration(x)` in int64
arithmetic, with 0 replaced by 1, and `time.NewTicker` panics on one that is not positive. -/
def keepaliveTicker (fsm : FSM) : Except String (Option Int) :=
  if fsm.negotiatedHoldTime = 0 then .ok none
  else
    let sec := toInt64 (1000000000 * durationOf fsm.keepaliveInterval)
    let sec := if sec = 0 then 1 else sec
    if sec ≤ 0 then .error "non-positive interval for NewTicker" else .ok (some sec)

theorem durationOf_eq_floor {x : ℚ} (h : 0 ≤ x) : durationOf x = ⌊x⌋ := by
  rw [durationOf, Rat.floor_def, Int.tdiv_eq_ediv (Rat.num_nonneg.mpr h) (Int.ofNat_zero_le _)]

theorem keepaliveTicker_zero {fsm : FSM} (h : fsm.negotiatedHoldTime = 0) :
    keepaliveTicker fsm = .ok none := by
  simp [keepaliveTicker, h]

theorem keepaliveTicker_of_lt_one {fsm : FSM} (hn : fsm.negotiatedHoldTime ≠ 0)
    (h0 : 0 ≤ fsm.keepaliveInterval) (h1 : fsm.keepaliveInterval < 1) :
    keepaliveTicker fsm = .ok (some 1) := by
  have hd : durationOf fsm.keepaliveInterval = 0 := by
    rw [durationOf_eq_floor h0, Int.floor_eq_zero_iff]; exact ⟨h0, h1⟩
  simp [keepaliveTicker, hn, hd, toInt64]

theorem keepaliveTicker_of_one_le {fsm : FSM} (hn : fsm.negotiatedHoldTime ≠ 0)
    (h1 : 1 ≤ fsm.keepaliveInterval) (h2 : fsm.keepaliveInterval < 9223372037) :
    ∃ d, keepaliveTicker fsm = .ok (some d) ∧ 1000000000 ≤ d := by
  have h0 : (0 : ℚ) ≤ fsm.keepaliveInterval := zero_le_one.trans h1
  have hd1 : 1 ≤ durationOf fsm.keepaliveInterval := by
    rw [durationOf_eq_floor h0, Int.le_floor]; exact_mod_cast h1
  have hd2 : durationOf fsm.keepaliveInterval < 9223372037 := by
    rw [durationOf_eq_floor h0, Int.floor_lt]; exact_mod_cast h2
  have h63 : (2 : Int) ^ 63 = 9223372036854775808 := rfl
  have hs : toInt64 (1000000000 * durationOf fsm.keepaliveInterval) =
      1000000000 * durationOf fsm.keepaliveInterval := toInt64_of_lt (by omega) (by omega)
  refine ⟨_, ?_, (by omega : (1000000000 : Int) ≤ 1000000000 * durationOf fsm.keepaliveInterval)⟩
  have hne : 1000000000 * durationOf fsm.keepaliveInterval ≠ 0 := by omega
  have hpos : ¬1000000000 * durationOf fsm.keepaliveInterval ≤ 0 := by omega
  simp only [keepaliveTicker, hn, hs, hne, hpos, if_false]

section Negotiation

variable {validateOpenMsg : BGPOpen → Nat → Except MessageError Unit} {n : Neighbor}

theorem opensent_open_ok {fsm : FSM} {o : BGPOpen} (hv : validateOpenMsg o n.peerAs = .ok ()) :
    opensent validateOpenMsg n fsm (.msgCh (.message (.bgpOpen o))) =
      .leave (({ fsm with received := fsm.received ++ [.bgpOpen o], recvOpen := some (.bgpOpen o) } : FSM).negotiate
        n o) (.state .openconfirm) .zero := by
  simp [opensent, opensentMsg, hv]

theorem FSM.negotiate_keepaliveInterval (f : FSM) (o : BGPOpen) :
    (f.negotiate n o).keepaliveInterval = if (f.negotiate n o).negotiatedHoldTime < n.holdTime
      then (f.negotiate n o).negotiatedHoldTime / 3 else n.keepaliveInterval :=
  rfl

theorem FSM.negotiate_keepaliveTicker_of_lt_one (f : FSM) {o : BGPOpen} (hh : 0 < n.holdTime)
    (hr : n.holdTime ≤ o.holdTime) (hk0 : 0 ≤ n.keepaliveInterval) (hk1 : n.keepaliveInterval < 1) :
    (f.negotiate n o).negotiatedHoldTime = n.holdTime ∧ keepaliveTicker (f.negotiate n o) = .ok (some 1) := by
  have hN : (f.negotiate n o).negotiatedHoldTime = n.holdTime := by
    rw [FSM.negotiate_negotiatedHoldTime]; exact min_eq_right hr
  have hI : (f.negotiate n o).keepaliveInterval = n.keepaliveInterval := by
    rw [FSM.negotiate_keepaliveInterval, hN, if_neg (lt_irrefl _)]
  exact ⟨hN, keepaliveTicker_of_lt_one (hN ▸ hh.ne') (hI ▸ hk0) (hI ▸ hk1)⟩

theorem FSM.negotiate_keepaliveTicker_of_one_le (f : FSM) {o : BGPOpen}
    (hr : o.holdTime = 0 ∨ 3 ≤ o.holdTime ∧ o.holdTime ≤ 65535)
    (hk1 : 1 ≤ n.keepaliveInterval) (hk2 : n.keepaliveInterval < 9223372037)
    (hN : (f.negotiate n o).negotiatedHoldTime ≠ 0) :
    ∃ d, keepaliveTicker (f.negotiate n o) = .ok (some d) ∧ 1000000000 ≤ d := by
  have hI : 1 ≤ (f.negotiate n o).keepaliveInterval ∧ (f.negotiate n o).keepaliveInterval < 9223372037 := by
    rw [FSM.negotiate_keepaliveInterval]
    split_ifs with hlt
    · rw [FSM.negotiate_negotiatedHoldTime] at hN hlt ⊢
      have hlt' : (o.holdTime : ℚ) < n.holdTime := (min_lt_iff.mp hlt).resolve_right (lt_irrefl _)
      rw [min_eq_left hlt'.le] at hN ⊢
      have h3 : (3 : ℚ) ≤ o.holdTime ∧ (o.holdTime : ℚ) ≤ 65535 := by
        rcases hr with h | h
        · simp [h] at hN
        · exact ⟨by exact_mod_cast h.1, by exact_mod_cast h.2⟩
      constructor <;> linarith [h3.1, h3.2]
    · exact ⟨hk1, hk2⟩
  exact keepaliveTicker_of_one_le hN hI.1 hI.2

/-- A peer hold time not below ours leaves our keepalive interval in force; one under a second
becomes a ticker of one nanosecond, not of a second. -/
theorem opensent_keepalive_nanosecond {fsm : FSM} {o : BGPOpen} (hv : validateOpenMsg o n.peerAs = .ok ())
    (hh : 0 < n.holdTime) (hr : n.holdTime ≤ o.holdTime) (hk0 : 0 ≤ n.keepaliveInterval)
    (hk1 : n.keepaliveInterval < 1) :
    ∃ f', opensent validateOpenMsg n fsm (.msgCh (.message (.bgpOpen o))) = .leave f' (.state .openconfirm) .zero ∧
      f'.negotiatedHoldTime = n.holdTime ∧ keepaliveTicker f' = .ok (some 1) :=
  ⟨_, opensent_open_ok hv, FSM.negotiate_keepaliveTicker_of_lt_one _ hh hr hk0 hk1⟩

theorem opensent_keepalive_nanosecond_half :
    (0 : ℚ) < 90 ∧ (90 : ℚ) ≤ ((90 : Nat) : ℚ) ∧ (0 : ℚ) ≤ 1 / 2 ∧ (1 / 2 : ℚ) < 1 ∧
    ∃ f', opensent acceptAll { sampleNeighbor with keepaliveInterval := 1 / 2 }
        (newFSM { sampleNeighbor with keepaliveInterval := 1 / 2 }) (.msgCh (.message (.bgpOpen ⟨4, 65002, 90, [10, 0, 0, 2], []⟩))) =
          .leave f' (.state .openconfirm) .zero ∧
      f'.negotiatedHoldTime = 90 ∧ keepaliveTicker f' = .ok (some 1) :=
  ⟨by norm_num, by norm_num, by norm_num, by norm_num,
    opensent_keepalive_nanosecond rfl (by norm_num [sampleNeighbor]) (by norm_num [sampleNeighbor]) (by norm_num)
      (by norm_num)⟩

/-- After OPENSENT accepts an OPEN the negotiated hold time is the smaller one, a zero one arms
no ticker, and with a keepalive interval of at least a second an armed ticker's period is at
least a second. -/
theorem opensent_keepalive_period {fsm : FSM} {o : BGPOpen} (hv : validateOpenMsg o n.peerAs = .ok ())
    (hr : o.holdTime = 0 ∨ 3 ≤ o.holdTime ∧ o.holdTime ≤ 65535)
    (hk1 : 1 ≤ n.keepaliveInterval) (hk2 : n.keepaliveInterval < 9223372037) :
    ∃ f', opensent validateOpenMsg n fsm (.msgCh (.message (.bgpOpen o))) = .leave f' (.state .openconfirm) .zero ∧
      f'.negotiatedHoldTime = min n.holdTime o.holdTime ∧
      f'.keepaliveInterval =
        (if f'.negotiatedHoldTime < n.holdTime then f'.negotiatedHoldTime / 3 else n.keepaliveInterval) ∧
      (f'.negotiatedHoldTime = 0 → keepaliveTicker f' = .ok none) ∧
      (f'.negotiatedHoldTime ≠ 0 → ∃ d, keepaliveTicker f' = .ok (some d) ∧ 1000000000 ≤ d) :=
  ⟨_, opensent_open_ok hv, by rw [FSM.negotiate_negotiatedHoldTime, min_comm], FSM.negotiate_keepaliveInterval _ o,
    keepaliveTicker_zero, FSM.negotiate_keepaliveTicker_of_one_le _ hr hk1 hk2⟩

theorem opensent_keepalive_period_sixty :
    (60 = 0 ∨ 3 ≤ 60 ∧ 60 ≤ 65535) ∧ (1 : ℚ) ≤ 30 ∧ (30 : ℚ) < 9223372037 ∧
    ∃ f', opensent acceptAll sampleNeighbor (newFSM sampleNeighbor) (.msgCh (.message (.bgpOpen ⟨4, 65002, 60, [10, 0, 0, 2], []⟩))) =
        .leave f' (.state .openconfirm) .zero ∧
      f'.negotiatedHoldTime = min 90 ((60 : Nat) : ℚ) ∧
      f'.keepaliveInterval = (if f'.negotiatedHoldTime < 90 then f'.negotiatedHoldTime / 3 else 30) ∧
      (f'.negotiatedHoldTime = 0 → keepaliveTicker f' = .ok none) ∧
      (f'.negotiatedHoldTime ≠ 0 → ∃ d, keepaliveTicker f' = .ok (some d) ∧ 1000000000 ≤ d) :=
  ⟨by decide, by norm_num, by norm_num,
    opensent_keepalive_period rfl (by decide) (by norm_num [sampleNeighbor]) (by norm_num [sampleNeighbor])⟩

end Negotiation

end GoBgp
