import GoBgp.Path
import GoBgp.AsPath

/-!
# Rewriting a path for a peer

`PrependAsn` puts the AS `repeat` times into a leading AS_SEQUENCE of up to 255 ASes and spills
the rest into a new one; below 255 repeats the AS_PATH is the copies followed by the old one.
`UpdatePathAttrs` rewrites a path for an EBGP or IBGP peer with these setters, and `SetMed`
replaces the MED or adds to it in int64 arithmetic.
-/

namespace GoBgp

/-! ## PrependAsn -/

/-- `GetAsPath`: the segments of the AS_PATH the path reads. The codec decodes every
attribute of type 2 as an AS_PATH. -/
def Path.getAsPath (p : Path) : Option (List AsPathParamInterface) :=
  match p.getPathAttr BGP_ATTR_TYPE_AS_PATH with
  | some (.asPath v) => some v
  | _ => none

/-- `GetAsPathLen`: the sum of the segments' `ASLen`. -/
def Path.getAsPathLen (p : Path) : Nat :=
  match p.getAsPath with
  | some v => (v.map fun s => s.seg.asLen).sum
  | none => 0

/-- `cloneAsPath`: fresh segments built by `NewAs4PathParam`; the assertion
`param.(*bgp.As4PathParam)` panics on a 2-byte segment. -/
def cloneAsPath (value : List AsPathParamInterface) : Option (List AsSegment) :=
  value.mapM fun param => param.as4?.map fun p => newAs4PathParam p.type p.AS

/-- The leading AS_SEQUENCE case of `PrependAsn`, on `asns`, an array of `times` (the source's
`repeat`) copies of `asn`: the count is cut to `uint8(255 - len(fst.AS))` when the segment
would overflow, `fst.AS = append(asns[:repeat], fst.AS...)` writes into `asns`'s array when
it has room, and `asns[repeat:]` is what is left to spill. Slicing past the array's capacity panics. -/
def prependSeq (asn : Nat) (times : UInt8) (fst : AsSegment) : Option (AsSegment × List Nat) :=
  let cut := if fst.AS.length + times.toNat > 255 then ((255 - fst.AS.length : Int) % 256).toNat
    else times.toNat
  if cut ≤ times.toNat then
    let AS := List.replicate cut asn ++ fst.AS
    let asns := if AS.length ≤ times.toNat then AS ++ List.replicate (times.toNat - AS.length) asn
      else List.replicate times.toNat asn
    some ({ fst with num := (fst.num + cut) % 256, AS := AS }, asns.drop cut)
  else none

/-- The ASes left over, if any, as a new leading AS_SEQUENCE. -/
def prependNewSeq (asns : List Nat) (asPath : List AsSegment) : List AsSegment :=
  if asns.length > 0 then newAs4PathParam .seq asns :: asPath else asPath

/-- The segment loop of `PrependAsn` on the copied AS_PATH. -/
def prependSegs (asn : Nat) (times : UInt8) (asPath : List AsSegment) : Option (List AsSegment) := do
  let (asPath, asns) ← match asPath with
    | fst :: rest =>
      if fst.type = .seq then (prependSeq asn times fst).map fun (fst, asns) => (fst :: rest, asns)
      else some (asPath, List.replicate times.toNat asn)
    | [] => some ([], List.replicate times.toNat asn)
  pure (prependNewSeq asns asPath)

def Path.prependAsn (p : Path) (asn : Nat) (times : UInt8) : Option Path := do
  let asPath ← match p.getAsPath with
    | none => some []
    | some v => cloneAsPath v
  let asPath ← prependSegs asn times asPath
  pure (p.setPathAttr (.asPath (asPath.map .four)))

theorem prependAsn_dels {p q : Path} {asn : Nat} {times : UInt8} (h : p.prependAsn asn times = some q) :
    q.dels = p.dels := by
  unfold Path.prependAsn at h
  dsimp only at h
  split at h
  all_goals
    obtain ⟨_, -, h⟩ := Option.bind_eq_some.mp h
    obtain ⟨_, -, h⟩ := Option.bind_eq_some.mp h
    rw [← Option.some.inj h]
    rfl

/-! ## The law of PrependAsn -/

theorem newAs4PathParam_of_wellFormed {s : AsSegment} (h : s.WellFormed) : newAs4PathParam s.type s.AS = s := by
  obtain ⟨_, h2, h3⟩ := h
  rw [newAs4PathParam, ← h3, Nat.mod_eq_of_lt (by omega)]

theorem cloneAsPath_four {segs : List AsSegment} (hwf : ∀ s ∈ segs, s.WellFormed) :
    cloneAsPath (segs.map .four) = some segs := by
  induction segs with
  | nil => rfl
  | cons s segs ih =>
    have ih := ih fun t ht => hwf t (List.mem_cons_of_mem _ ht)
    simp only [cloneAsPath] at ih ⊢
    rw [List.map_cons, List.mapM_cons, ih]
    simp only [AsPathParamInterface.as4?, Option.map_some', Option.pure_def, Option.bind_eq_bind,
      Option.some_bind, newAs4PathParam_of_wellFormed (hwf s (List.mem_cons_self _ _))]

theorem prependSeq_spec {fst : AsSegment} (hwf : fst.WellFormed) (asn : Nat) (times : UInt8) :
    prependSeq asn times fst = some
      ({ fst with num := fst.AS.length + min times.toNat (255 - fst.AS.length),
                  AS := List.replicate (min times.toNat (255 - fst.AS.length)) asn ++ fst.AS },
       if times.toNat = 255 then fst.AS
       else List.replicate (times.toNat - min times.toNat (255 - fst.AS.length)) asn) := by
  obtain ⟨h1, h2, h3⟩ := hwf
  have hr : times.toNat < 256 := times.toNat_lt_size
  have hcut : (if fst.AS.length + times.toNat > 255 then ((255 - fst.AS.length : Int) % 256).toNat
      else times.toNat) = min times.toNat (255 - fst.AS.length) := by
    split
    · rw [Int.emod_eq_of_lt (by omega) (by omega)]
      omega
    · omega
  simp only [prependSeq, hcut, if_pos (min_le_left _ _), List.length_append, List.length_replicate,
    Option.some.injEq, Prod.mk.injEq]
  refine ⟨by rw [h3, Nat.mod_eq_of_lt (by omega)], ?_⟩
  by_cases h255 : times.toNat = 255
  · have h0 : times.toNat - (min times.toNat (255 - fst.AS.length) + fst.AS.length) = 0 := by omega
    rw [if_pos (by omega), if_pos h255, h0, List.replicate_zero, List.append_nil,
      List.drop_left' (List.length_replicate _ _)]
  · rw [if_neg (by omega), if_neg h255, List.drop_replicate]

theorem prependNewSeq_spec {asns : List Nat} (h : asns.length ≤ 255) {segs : List AsSegment}
    (hwf : ∀ s ∈ segs, s.WellFormed) :
    (∀ s ∈ prependNewSeq asns segs, s.WellFormed) ∧
    ((prependNewSeq asns segs).map AsSegment.asLen).sum = asns.length + (segs.map AsSegment.asLen).sum ∧
    flatten (prependNewSeq asns segs) = asns.map (.seq, ·) ++ flatten segs := by
  cases asns with
  | nil => exact ⟨hwf, by simp [prependNewSeq], by simp [prependNewSeq]⟩
  | cons a as =>
    simp only [prependNewSeq, List.length_cons, gt_iff_lt, Nat.zero_lt_succ, if_true]
    refine ⟨List.forall_mem_cons.mpr ⟨?_, hwf⟩, by simp [newAs4PathParam, AsSegment.asLen], by simp [newAs4PathParam]⟩
    simp only [List.length_cons] at h
    exact ⟨by simp [newAs4PathParam], by simp only [newAs4PathParam, List.length_cons]; omega,
      by simp only [newAs4PathParam, List.length_cons]; omega⟩

theorem prependNewSeq_replicate {segs : List AsSegment} (hwf : ∀ s ∈ segs, s.WellFormed) (asn : Nat)
    (times : UInt8) :
    (∀ s ∈ prependNewSeq (List.replicate times.toNat asn) segs, s.WellFormed) ∧
    ((prependNewSeq (List.replicate times.toNat asn) segs).map AsSegment.asLen).sum =
      (segs.map AsSegment.asLen).sum + times.toNat ∧
    flatten (prependNewSeq (List.replicate times.toNat asn) segs) =
      List.replicate times.toNat (.seq, asn) ++ flatten segs := by
  have hr : times.toNat < 256 := times.toNat_lt_size
  obtain ⟨h1, h2, h3⟩ := @prependNewSeq_spec (List.replicate times.toNat asn)
    (by rw [List.length_replicate]; omega) _ hwf
  exact ⟨h1, by rw [h2, List.length_replicate, Nat.add_comm], by rw [h3, List.map_replicate]⟩

theorem prependSegs_spec {segs : List AsSegment} (hwf : ∀ s ∈ segs, s.WellFormed) (asn : Nat) (times : UInt8) :
    ∃ segs', prependSegs asn times segs = some segs' ∧ (∀ s ∈ segs', s.WellFormed) ∧
      (segs'.map AsSegment.asLen).sum = (segs.map AsSegment.asLen).sum + times.toNat ∧
      (times.toNat < 255 → flatten segs' = List.replicate times.toNat (.seq, asn) ++ flatten segs) := by
  have hr : times.toNat < 256 := times.toNat_lt_size
  match segs, hwf with
  | [], hwf =>
    obtain ⟨h1, h2, h3⟩ := prependNewSeq_replicate hwf asn times
    exact ⟨_, rfl, h1, h2, fun _ => h3⟩
  | fst :: rest, hwf =>
    by_cases hs : fst.type = .seq
    · have hps := prependSeq_spec (hwf fst (List.mem_cons_self _ _)) asn times
      obtain ⟨h1, h2, h3⟩ := hwf fst (List.mem_cons_self _ _)
      generalize hcut : min times.toNat (255 - fst.AS.length) = cut at hps
      have hwf' : ∀ s ∈ ({ fst with num := fst.AS.length + cut, AS := List.replicate cut asn ++ fst.AS } :: rest),
          s.WellFormed :=
        List.forall_mem_cons.mpr ⟨⟨by simp only [List.length_append, List.length_replicate]; omega,
          by simp only [List.length_append, List.length_replicate]; omega,
          by simp only [List.length_append, List.length_replicate]; omega⟩,
          fun s hs => hwf s (List.mem_cons_of_mem _ hs)⟩
      have hspill : (if times.toNat = 255 then fst.AS else List.replicate (times.toNat - cut) asn).length =
          times.toNat - cut := by
        split
        · omega
        · exact List.length_replicate _ _
      obtain ⟨g1, g2, g3⟩ := prependNewSeq_spec (by rw [hspill]; omega) hwf'
      refine ⟨_, by simp [prependSegs, hs, hps], g1, ?_, fun hlt => ?_⟩
      · rw [g2, hspill]
        simp only [List.map_cons, List.sum_cons, AsSegment.asLen, hs, List.length_append, List.length_replicate]
        omega
      · rw [g3, if_neg (by omega)]
        simp only [flatten_cons, hs, List.map_append, List.map_replicate, ← List.append_assoc,
          List.append_replicate_replicate]
        rw [Nat.sub_add_cancel (by omega)]
    · obtain ⟨h1, h2, h3⟩ := prependNewSeq_replicate hwf asn times
      exact ⟨_, by simp [prependSegs, hs], h1, h2, fun _ => h3⟩

theorem getAsPathLen_eq {p : Path} {segs : List AsSegment} (hp : p.getAsPath.getD [] = segs.map .four) :
    p.getAsPathLen = (segs.map AsSegment.asLen).sum := by
  unfold Path.getAsPathLen
  split <;> simp_all [AsPathParamInterface.seg, Function.comp_def]

theorem prependAsn_eq {p : Path} {segs segs' : List AsSegment} (hp : p.getAsPath.getD [] = segs.map .four)
    (hwf : ∀ s ∈ segs, s.WellFormed) {asn : Nat} {times : UInt8} (hs : prependSegs asn times segs = some segs') :
    p.prependAsn asn times = some (p.setPathAttr (.asPath (segs'.map .four))) := by
  unfold Path.prependAsn
  cases hg : p.getAsPath with
  | none =>
    obtain rfl : segs = [] := by simpa [hg] using hp.symm
    simp [hs]
  | some v =>
    obtain rfl : v = segs.map .four := by simpa [hg] using hp
    simp [cloneAsPath_four hwf, hs]

theorem getAsPath_setPathAttr {p : Path} (hdel : BGP_ATTR_TYPE_AS_PATH ∉ p.dels)
    (v : List AsPathParamInterface) : (p.setPathAttr (.asPath v)).getAsPath = some v := by
  simp [Path.getAsPath, getPathAttr_setPathAttr_of_not_mem hdel (.asPath v) rfl]

/-- `PrependAsn` on a path whose own `dels` do not hide AS_PATH and whose AS_PATH segments are
well-formed: the new AS_PATH is well-formed, `GetAsPathLen` grows by `times`, below 255 the AS
stands `times` times in front, and nothing else the path reads or its ancestors hold changes. -/
theorem prependAsn_spec {p : Path} {segs : List AsSegment} (hdel : BGP_ATTR_TYPE_AS_PATH ∉ p.dels)
    (hp : p.getAsPath.getD [] = segs.map .four) (hwf : ∀ s ∈ segs, s.WellFormed) (asn : Nat) (times : UInt8) :
    ∃ p' segs', p.prependAsn asn times = some p' ∧ p'.getAsPath = some (segs'.map .four) ∧
      (∀ s ∈ segs', s.WellFormed) ∧ p'.getAsPathLen = p.getAsPathLen + times.toNat ∧
      (times.toNat < 255 → flatten segs' = List.replicate times.toNat (.seq, asn) ++ flatten segs) ∧
      (∀ t, t ≠ BGP_ATTR_TYPE_AS_PATH → p'.getPathAttr t = p.getPathAttr t) ∧ p'.parents = p.parents := by
  obtain ⟨segs', hs, w, len, fl⟩ := prependSegs_spec hwf asn times
  have hget := getAsPath_setPathAttr hdel (segs'.map .four)
  refine ⟨_, segs', prependAsn_eq hp hwf hs, hget, w, ?_, fl,
    fun t ht => getPathAttr_setPathAttr_ne p (Ne.symm ht), rfl⟩
  rw [getAsPathLen_eq hp, getAsPathLen_eq (by rw [hget]; rfl), len]

theorem prependAsn_spec_three :
    BGP_ATTR_TYPE_AS_PATH ∉ pathAs12.dels ∧
    (∀ s ∈ [(⟨.seq, 2, [1, 2]⟩ : AsSegment)], s.WellFormed) ∧
    ∃ p' segs', pathAs12.prependAsn 7 3 = some p' ∧
      p'.getAsPath = some (segs'.map .four) ∧ (∀ s ∈ segs', s.WellFormed) ∧
      p'.getAsPathLen = pathAs12.getAsPathLen + 3 ∧
      (3 < 255 → flatten segs' = List.replicate 3 (.seq, 7) ++ flatten [⟨.seq, 2, [1, 2]⟩]) ∧
      (∀ t, t ≠ BGP_ATTR_TYPE_AS_PATH → p'.getPathAttr t = pathAs12.getPathAttr t) ∧
      p'.parents = [] :=
  ⟨by decide, by decide, @prependAsn_spec pathAs12 [⟨.seq, 2, [1, 2]⟩] (by decide) (by decide) (by decide) 7 3⟩

set_option maxRecDepth 20000 in
/-- With `repeat = 255` the leading segment's ASes fit into the 255-element array of new ASes,
so the append overwrites the tail that is then spilled: the new leading segment holds the old
ASes again instead of two more copies of the AS. -/
theorem prependAsn_full_repeat_overwrites :
    (pathAs12.prependAsn 7 255).map Path.getAsPath =
      some (some [.four ⟨.seq, 2, [1, 2]⟩, .four ⟨.seq, 255, List.replicate 253 7 ++ [1, 2]⟩]) := by
  rfl

/-! ## UpdatePathAttrs -/

/-- `IsLocal`: the path's source has no address. -/
def Path.isLocal (p : Path) : Bool := p.info.source.address.isNone

/-- `GetNexthop`: NEXT_HOP's address, else MP_REACH_NLRI's next hop, else the empty address. -/
def Path.getNexthop (p : Path) : List UInt8 :=
  match p.getPathAttr BGP_ATTR_TYPE_NEXT_HOP with
  | some (.nextHop v) => v
  | _ => match p.getPathAttr BGP_ATTR_TYPE_MP_REACH_NLRI with
    | some (.mpReachNLRI nh _) => nh
    | _ => []

/-- `SetNexthop`: the next hop of a NEXT_HOP and of an MP_REACH_NLRI the path has. -/
def Path.setNexthop (p : Path) (nexthop : List UInt8) : Path :=
  let p := match p.getPathAttr BGP_ATTR_TYPE_NEXT_HOP with
    | some _ => p.setPathAttr (.nextHop nexthop)
    | none => p
  match p.getPathAttr BGP_ATTR_TYPE_MP_REACH_NLRI with
  | some (.mpReachNLRI _ v) => p.setPathAttr (.mpReachNLRI nexthop v)
  | _ => p

theorem Path.setNexthop_dels_info (p : Path) (nexthop : List UInt8) :
    (p.setNexthop nexthop).dels = p.dels ∧ (p.setNexthop nexthop).info = p.info := by
  unfold Path.setNexthop
  cases p.getPathAttr BGP_ATTR_TYPE_NEXT_HOP <;> dsimp only <;> split <;> exact ⟨rfl, rfl⟩

theorem getPathAttr_setNexthop_ne (p : Path) (nexthop : List UInt8) {t : UInt8} (h1 : t ≠ BGP_ATTR_TYPE_NEXT_HOP)
    (h2 : t ≠ BGP_ATTR_TYPE_MP_REACH_NLRI) : (p.setNexthop nexthop).getPathAttr t = p.getPathAttr t := by
  have hn : ∀ (q : Path) x, (q.setPathAttr (.nextHop x)).getPathAttr t = q.getPathAttr t :=
    fun q _ => getPathAttr_setPathAttr_ne q (Ne.symm h1)
  have hm : ∀ (q : Path) x v, (q.setPathAttr (.mpReachNLRI x v)).getPathAttr t = q.getPathAttr t :=
    fun q _ _ => getPathAttr_setPathAttr_ne q (Ne.symm h2)
  unfold Path.setNexthop
  cases p.getPathAttr BGP_ATTR_TYPE_NEXT_HOP <;> dsimp only <;> split <;> simp only [hn, hm]

theorem getPathAttr_setNexthop_nextHop {p : Path} {v : List UInt8}
    (h : p.getPathAttr BGP_ATTR_TYPE_NEXT_HOP = some (.nextHop v)) (nexthop : List UInt8) :
    (p.setNexthop nexthop).getPathAttr BGP_ATTR_TYPE_NEXT_HOP = some (.nextHop nexthop) := by
  have hm : ∀ (q : Path) x w, (q.setPathAttr (.mpReachNLRI x w)).getPathAttr BGP_ATTR_TYPE_NEXT_HOP =
      q.getPathAttr BGP_ATTR_TYPE_NEXT_HOP := fun q _ _ => getPathAttr_setPathAttr_ne q (show (14 : UInt8) ≠ 3 by decide)
  unfold Path.setNexthop
  rw [h]
  dsimp only
  split <;> simp only [hm, getPathAttr_setPathAttr_of_not_mem (not_mem_dels_of_getPathAttr h) (.nextHop _) rfl]

theorem getPathAttr_setNexthop_mpReach {p : Path} {x : List UInt8} {v : List AddrPrefix}
    (h : p.getPathAttr BGP_ATTR_TYPE_MP_REACH_NLRI = some (.mpReachNLRI x v)) (nexthop : List UInt8) :
    (p.setNexthop nexthop).getPathAttr BGP_ATTR_TYPE_MP_REACH_NLRI = some (.mpReachNLRI nexthop v) := by
  have hn : ∀ (q : Path) y, (q.setPathAttr (.nextHop y)).getPathAttr BGP_ATTR_TYPE_MP_REACH_NLRI =
      q.getPathAttr BGP_ATTR_TYPE_MP_REACH_NLRI := fun q _ => getPathAttr_setPathAttr_ne q (show (3 : UInt8) ≠ 14 by decide)
  unfold Path.setNexthop
  cases p.getPathAttr BGP_ATTR_TYPE_NEXT_HOP <;> dsimp only <;> simp only [hn, h] <;>
    exact getPathAttr_setPathAttr_of_not_mem (by simpa using not_mem_dels_of_getPathAttr h) (.mpReachNLRI _ _) rfl

/-- The first 12 octets of an IPv4-mapped IPv6 address. -/
def v4InV6Prefix : List UInt8 := [0, 0, 0, 0, 0, 0, 0, 0, 0, 0, 0xff, 0xff]

/-- `net.IP.Equal`: equal octets, or a 4-octet address and its IPv4-mapped 16-octet form. -/
def ipEqual (ip x : List UInt8) : Bool :=
  if ip.length = x.length then ip == x
  else if ip.length = 4 ∧ x.length = 16 then x.take 12 == v4InV6Prefix && ip == x.drop 12
  else if ip.length = 16 ∧ x.length = 4 then ip.take 12 == v4InV6Prefix && ip.drop 12 == x
  else false

/-- `config.PeerType`. -/
inductive PeerType
  | internal
  | external
  | other
  deriving DecidableEq, Repr

/-- The `config.Global` field `UpdatePathAttrs` reads. -/
structure Global where
  AS : Nat
  deriving DecidableEq, Repr

/-- The `config.Neighbor` fields `UpdatePathAttrs` reads, with the local address parsed and
`confederationMember` standing for `config.IsConfederationMember(global, peer)`. -/
structure PeerConfig where
  routeServerClient : Bool
  localAddress : List UInt8
  peerType : PeerType
  routeReflectorClient : Bool
  routeReflectorClusterId : List UInt8
  confederationMember : Bool
  deriving DecidableEq, Repr

/-- The EBGP branch of `UpdatePathAttrs`. -/
def Path.updateExternal (p : Path) (global : Global) (peer : PeerConfig) : Option Path := do
  let p := p.setNexthop peer.localAddress
  let p ← p.prependAsn global.AS 1
  let p := if p.getPathAttr BGP_ATTR_TYPE_MULTI_EXIT_DISC ≠ none ∧ !p.isLocal then
    p.delPathAttr BGP_ATTR_TYPE_MULTI_EXIT_DISC else p
  pure (if p.getPathAttr BGP_ATTR_TYPE_LOCAL_PREF ≠ none ∧ !peer.confederationMember then
    p.delPathAttr BGP_ATTR_TYPE_LOCAL_PREF else p)

/-- The route reflection part of the IBGP branch (RFC 4456 §8). -/
def Path.reflect (p : Path) (peer : PeerConfig) : Path :=
  let p := if p.getPathAttr BGP_ATTR_TYPE_ORIGINATOR_ID = none then
    p.setPathAttr (.originatorId p.info.source.ID) else p
  match p.getPathAttr BGP_ATTR_TYPE_CLUSTER_LIST with
  | some (.clusterList l) => p.setPathAttr (.clusterList (peer.routeReflectorClusterId :: l))
  | _ => p.setPathAttr (.clusterList [peer.routeReflectorClusterId])

/-- The IBGP branch of `UpdatePathAttrs`: `0.0.0.0` and `::` are `net.ParseIP`'s 16 octets. -/
def Path.updateInternal (p : Path) (peer : PeerConfig) : Option Path := do
  let nexthop := p.getNexthop
  let p := if p.isLocal ∧ (ipEqual nexthop (v4InV6Prefix ++ [0, 0, 0, 0]) ∨ ipEqual nexthop (List.replicate 16 0))
    then p.setNexthop peer.localAddress else p
  let p ← if p.getPathAttr BGP_ATTR_TYPE_AS_PATH = none then p.prependAsn 0 0 else some p
  let p := if p.getPathAttr BGP_ATTR_TYPE_LOCAL_PREF = none ∨ !p.isLocal then p.setPathAttr (.localPref 100)
    else p
  pure (if peer.routeReflectorClient then p.reflect peer else p)

/-- `UpdatePathAttrs`; a route-server client's paths are left as they are, and a peer of
another type is only logged. -/
def Path.updatePathAttrs (p : Path) (global : Global) (peer : PeerConfig) : Option Path :=
  if peer.routeServerClient then some p
  else match peer.peerType with
    | .external => p.updateExternal global peer
    | .internal => p.updateInternal peer
    | .other => some p

theorem getPathAttr_delIf (p : Path) (t u : UInt8) (c : Bool) :
    (if p.getPathAttr t ≠ none ∧ c then p.delPathAttr t else p).getPathAttr u =
      if u = t ∧ c then none else p.getPathAttr u := by
  by_cases hu : u = t
  · subst hu
    by_cases hc : c <;> by_cases hn : p.getPathAttr u = none <;> simp [hc, hn, getPathAttr_delPathAttr]
  · split <;> simp [hu, getPathAttr_delPathAttr_ne _ (Ne.symm hu)]

theorem getPathAttr_updateExternal {p q : Path} {segs segs' : List AsSegment} {global : Global} {peer : PeerConfig}
    (hp : (p.setNexthop peer.localAddress).getAsPath.getD [] = segs.map .four) (hwf : ∀ s ∈ segs, s.WellFormed)
    (hs : prependSegs global.AS 1 segs = some segs')
    (hq : (p.setNexthop peer.localAddress).setPathAttr (.asPath (segs'.map .four)) = q) :
    ∃ p', p.updateExternal global peer = some p' ∧
      p'.getPathAttr BGP_ATTR_TYPE_MULTI_EXIT_DISC =
        (if p.isLocal then q.getPathAttr BGP_ATTR_TYPE_MULTI_EXIT_DISC else none) ∧
      p'.getPathAttr BGP_ATTR_TYPE_LOCAL_PREF =
        (if peer.confederationMember then q.getPathAttr BGP_ATTR_TYPE_LOCAL_PREF else none) ∧
      ∀ u, u ≠ BGP_ATTR_TYPE_MULTI_EXIT_DISC → u ≠ BGP_ATTR_TYPE_LOCAL_PREF → p'.getPathAttr u = q.getPathAttr u := by
  have hloc : q.isLocal = p.isLocal := by simp [← hq, Path.isLocal, (p.setNexthop_dels_info _).2]
  have hml : BGP_ATTR_TYPE_MULTI_EXIT_DISC ≠ BGP_ATTR_TYPE_LOCAL_PREF := by decide
  simp only [Path.updateExternal, prependAsn_eq hp hwf hs, hq, Option.pure_def, Option.bind_eq_bind,
    Option.some_bind, Option.some.injEq, exists_eq_left']
  -- the path after the MED delete
  generalize hr : (if q.getPathAttr BGP_ATTR_TYPE_MULTI_EXIT_DISC ≠ none ∧ !q.isLocal then
    q.delPathAttr BGP_ATTR_TYPE_MULTI_EXIT_DISC else q) = r
  have hru : ∀ u, r.getPathAttr u = if u = BGP_ATTR_TYPE_MULTI_EXIT_DISC ∧ !p.isLocal then none else q.getPathAttr u :=
    fun u => by rw [← hr, getPathAttr_delIf, hloc]
  simp only [getPathAttr_delIf]
  simp only [hru]
  refine ⟨?_, ?_, fun u h1 h2 => ?_⟩
  · cases p.isLocal <;> simp [hml]
  · cases peer.confederationMember <;> simp [Ne.symm hml]
  · simp [h1, h2]

/-- The EBGP branch on a path whose own `dels` do not hide AS_PATH and whose AS_PATH segments
are well-formed: the next hops the path reads become the local address, the AS_PATH is the
global AS followed by the old one, MED stays only on a local path and LOCAL_PREF only towards a
confederation member, and every other type reads as before. -/
theorem updateExternal_spec {p : Path} {segs : List AsSegment} (hdel : BGP_ATTR_TYPE_AS_PATH ∉ p.dels)
    (hp : p.getAsPath.getD [] = segs.map .four) (hwf : ∀ s ∈ segs, s.WellFormed) (global : Global)
    (peer : PeerConfig) :
    ∃ p' segs', p.updateExternal global peer = some p' ∧ p'.getAsPath = some (segs'.map .four) ∧
      flatten segs' = (.seq, global.AS) :: flatten segs ∧
      (∀ v, p.getPathAttr BGP_ATTR_TYPE_NEXT_HOP = some (.nextHop v) →
        p'.getPathAttr BGP_ATTR_TYPE_NEXT_HOP = some (.nextHop peer.localAddress)) ∧
      (∀ x v, p.getPathAttr BGP_ATTR_TYPE_MP_REACH_NLRI = some (.mpReachNLRI x v) →
        p'.getPathAttr BGP_ATTR_TYPE_MP_REACH_NLRI = some (.mpReachNLRI peer.localAddress v)) ∧
      p'.getPathAttr BGP_ATTR_TYPE_MULTI_EXIT_DISC =
        (if p.isLocal then p.getPathAttr BGP_ATTR_TYPE_MULTI_EXIT_DISC else none) ∧
      p'.getPathAttr BGP_ATTR_TYPE_LOCAL_PREF =
        (if peer.confederationMember then p.getPathAttr BGP_ATTR_TYPE_LOCAL_PREF else none) ∧
      ∀ t, t ∉ [BGP_ATTR_TYPE_AS_PATH, BGP_ATTR_TYPE_NEXT_HOP, BGP_ATTR_TYPE_MP_REACH_NLRI,
        BGP_ATTR_TYPE_MULTI_EXIT_DISC, BGP_ATTR_TYPE_LOCAL_PREF] → p'.getPathAttr t = p.getPathAttr t := by
  have hp1 : (p.setNexthop peer.localAddress).getAsPath.getD [] = segs.map .four := by
    rw [← hp, Path.getAsPath, Path.getAsPath, getPathAttr_setNexthop_ne p _ (by decide) (by decide)]
  obtain ⟨segs', hs, -, -, fl⟩ := prependSegs_spec hwf global.AS 1
  -- `q` is the path after `SetNexthop` and `PrependAsn`
  obtain ⟨q, hq⟩ : ∃ q, (p.setNexthop peer.localAddress).setPathAttr (.asPath (segs'.map .four)) = q := ⟨_, rfl⟩
  have hqu : ∀ u, u ≠ BGP_ATTR_TYPE_AS_PATH → q.getPathAttr u = (p.setNexthop peer.localAddress).getPathAttr u :=
    fun u hu => hq ▸ getPathAttr_setPathAttr_ne _ (Ne.symm hu)
  obtain ⟨p', hupd, hmed, hlp, hother⟩ := getPathAttr_updateExternal hp1 hwf hs hq
  refine ⟨p', segs', hupd, ?_, by rw [fl (by decide)]; rfl, fun v hv => ?_, fun x v hv => ?_, ?_, ?_, fun t ht => ?_⟩
  · rw [Path.getAsPath, hother _ (by decide) (by decide), ← hq, ← Path.getAsPath,
      getAsPath_setPathAttr (by rw [(p.setNexthop_dels_info _).1]; exact hdel)]
  · rw [hother _ (by decide) (by decide), hqu _ (by decide), getPathAttr_setNexthop_nextHop hv]
  · rw [hother _ (by decide) (by decide), hqu _ (by decide), getPathAttr_setNexthop_mpReach hv]
  · rw [hmed, hqu _ (by decide), getPathAttr_setNexthop_ne p _ (by decide) (by decide)]
  · rw [hlp, hqu _ (by decide), getPathAttr_setNexthop_ne p _ (by decide) (by decide)]
  · simp only [List.mem_cons, List.not_mem_nil, or_false, not_or] at ht
    rw [hother _ ht.2.2.2.1 ht.2.2.2.2, hqu _ ht.1, getPathAttr_setNexthop_ne p _ ht.2.1 ht.2.2.1]

theorem updatePathAttrs_eq_updateExternal {p : Path} (global : Global) {peer : PeerConfig}
    (hrs : peer.routeServerClient = false) (hext : peer.peerType = .external) :
    p.updatePathAttrs global peer = p.updateExternal global peer := by
  simp [Path.updatePathAttrs, hrs, hext]

/-- The EBGP rewrite of a path whose own `dels` do not hide AS_PATH and whose AS_PATH segments
are well-formed, as `updateExternal_spec` states it. -/
theorem updatePathAttrs_external_spec {p : Path} {segs : List AsSegment} (hdel : BGP_ATTR_TYPE_AS_PATH ∉ p.dels)
    (hp : p.getAsPath.getD [] = segs.map .four) (hwf : ∀ s ∈ segs, s.WellFormed) (global : Global)
    {peer : PeerConfig} (hrs : peer.routeServerClient = false) (hext : peer.peerType = .external) :
    ∃ p' segs', p.updatePathAttrs global peer = some p' ∧ p'.getAsPath = some (segs'.map .four) ∧
      flatten segs' = (.seq, global.AS) :: flatten segs ∧
      (∀ v, p.getPathAttr BGP_ATTR_TYPE_NEXT_HOP = some (.nextHop v) →
        p'.getPathAttr BGP_ATTR_TYPE_NEXT_HOP = some (.nextHop peer.localAddress)) ∧
      (∀ x v, p.getPathAttr BGP_ATTR_TYPE_MP_REACH_NLRI = some (.mpReachNLRI x v) →
        p'.getPathAttr BGP_ATTR_TYPE_MP_REACH_NLRI = some (.mpReachNLRI peer.localAddress v)) ∧
      p'.getPathAttr BGP_ATTR_TYPE_MULTI_EXIT_DISC =
        (if p.isLocal then p.getPathAttr BGP_ATTR_TYPE_MULTI_EXIT_DISC else none) ∧
      p'.getPathAttr BGP_ATTR_TYPE_LOCAL_PREF =
        (if peer.confederationMember then p.getPathAttr BGP_ATTR_TYPE_LOCAL_PREF else none) ∧
      ∀ t, t ∉ [BGP_ATTR_TYPE_AS_PATH, BGP_ATTR_TYPE_NEXT_HOP, BGP_ATTR_TYPE_MP_REACH_NLRI,
        BGP_ATTR_TYPE_MULTI_EXIT_DISC, BGP_ATTR_TYPE_LOCAL_PREF] → p'.getPathAttr t = p.getPathAttr t := by
  rw [updatePathAttrs_eq_updateExternal global hrs hext]
  exact updateExternal_spec hdel hp hwf global peer

/-- AS 65001, an EBGP peer reached from 192.168.0.1, and a route-reflector client reached from
10.0.0.1 with cluster ID 1.1.1.1. -/
def sampleGlobal : Global := ⟨65001⟩
def ebgpPeer : PeerConfig := ⟨false, [192, 168, 0, 1], .external, false, [], false⟩
def rrClient : PeerConfig := ⟨false, [10, 0, 0, 1], .internal, true, [1, 1, 1, 1], false⟩

theorem updatePathAttrs_external_spec_med :
    BGP_ATTR_TYPE_AS_PATH ∉ pathAs12Med5.dels ∧ (∀ s ∈ [(⟨.seq, 2, [1, 2]⟩ : AsSegment)], s.WellFormed) ∧
    ∃ p' segs', pathAs12Med5.updatePathAttrs sampleGlobal ebgpPeer = some p' ∧
      p'.getAsPath = some (segs'.map .four) ∧ flatten segs' = [(.seq, 65001), (.seq, 1), (.seq, 2)] ∧
      p'.getPathAttr BGP_ATTR_TYPE_MULTI_EXIT_DISC = none :=
  ⟨by decide, by decide,
    match @updatePathAttrs_external_spec pathAs12Med5 [⟨.seq, 2, [1, 2]⟩] (by decide) (by decide) (by decide)
      sampleGlobal ebgpPeer rfl rfl with
    | ⟨p', segs', h, ha, hf, _, _, hmed, _⟩ => ⟨p', segs', h, ha, hf, hmed⟩⟩

theorem setNexthopIf_frame (p : Path) (c : Prop) [Decidable c] (nexthop : List UInt8) :
    (if c then p.setNexthop nexthop else p).dels = p.dels ∧ (if c then p.setNexthop nexthop else p).info = p.info ∧
    ∀ t, t ≠ BGP_ATTR_TYPE_NEXT_HOP → t ≠ BGP_ATTR_TYPE_MP_REACH_NLRI →
      (if c then p.setNexthop nexthop else p).getPathAttr t = p.getPathAttr t := by
  split
  · exact ⟨(p.setNexthop_dels_info _).1, (p.setNexthop_dels_info _).2, fun t h1 h2 => getPathAttr_setNexthop_ne p _ h1 h2⟩
  · exact ⟨rfl, rfl, fun _ _ _ => rfl⟩

theorem prependAsn_zero_of_none {q : Path} (h : q.getPathAttr BGP_ATTR_TYPE_AS_PATH = none) :
    q.prependAsn 0 0 = some (q.setPathAttr (.asPath [])) := by
  simp [Path.prependAsn, Path.getAsPath, h, prependSegs, prependNewSeq]

theorem asPathStep_spec {q : Path} (hdel : BGP_ATTR_TYPE_AS_PATH ∉ q.dels) :
    ∃ q', (if q.getPathAttr BGP_ATTR_TYPE_AS_PATH = none then q.prependAsn 0 0 else some q) = some q' ∧
      q'.dels = q.dels ∧ q'.info = q.info ∧
      q'.getPathAttr BGP_ATTR_TYPE_AS_PATH = some ((q.getPathAttr BGP_ATTR_TYPE_AS_PATH).getD (.asPath [])) ∧
      ∀ t, t ≠ BGP_ATTR_TYPE_AS_PATH → q'.getPathAttr t = q.getPathAttr t := by
  by_cases h : q.getPathAttr BGP_ATTR_TYPE_AS_PATH = none
  · refine ⟨q.setPathAttr (.asPath []), by rw [if_pos h, prependAsn_zero_of_none h], rfl, rfl, ?_,
      fun t ht => getPathAttr_setPathAttr_ne q (Ne.symm ht)⟩
    rw [getPathAttr_setPathAttr_of_not_mem hdel (.asPath []) rfl, h]
    rfl
  · obtain ⟨a, ha⟩ := Option.ne_none_iff_exists'.mp h
    exact ⟨q, if_neg h, rfl, rfl, by rw [ha]; rfl, fun _ _ => rfl⟩

theorem getPathAttr_localPrefStep {q : Path} (hlp : BGP_ATTR_TYPE_LOCAL_PREF ∉ q.dels) (u : UInt8) :
    (if q.getPathAttr BGP_ATTR_TYPE_LOCAL_PREF = none ∨ !q.isLocal then q.setPathAttr (.localPref 100)
      else q).getPathAttr u =
      if u = BGP_ATTR_TYPE_LOCAL_PREF then
        some (if q.isLocal then (q.getPathAttr BGP_ATTR_TYPE_LOCAL_PREF).getD (.localPref 100) else .localPref 100)
      else q.getPathAttr u := by
  have hset := getPathAttr_setPathAttr_of_not_mem hlp (.localPref 100) rfl
  by_cases hu : u = BGP_ATTR_TYPE_LOCAL_PREF
  · subst hu
    cases hl : q.isLocal <;> cases hq : q.getPathAttr BGP_ATTR_TYPE_LOCAL_PREF <;> simp [hl, hq, hset]
  · split <;> simp [hu, getPathAttr_setPathAttr_ne q (a := .localPref 100) (Ne.symm hu)]

theorem Path.reflect_info (q : Path) (peer : PeerConfig) : (q.reflect peer).info = q.info := by
  unfold Path.reflect
  split <;> dsimp only <;> split <;> rfl

theorem Path.reflect_dels (q : Path) (peer : PeerConfig) : (q.reflect peer).dels = q.dels := by
  unfold Path.reflect
  split <;> dsimp only <;> split <;> rfl

theorem getPathAttr_reflect_ne (q : Path) (peer : PeerConfig) {t : UInt8} (h1 : t ≠ BGP_ATTR_TYPE_ORIGINATOR_ID)
    (h2 : t ≠ BGP_ATTR_TYPE_CLUSTER_LIST) : (q.reflect peer).getPathAttr t = q.getPathAttr t := by
  have ho : ∀ (r : Path) x, (r.setPathAttr (.originatorId x)).getPathAttr t = r.getPathAttr t :=
    fun r _ => getPathAttr_setPathAttr_ne r (Ne.symm h1)
  have hc : ∀ (r : Path) l, (r.setPathAttr (.clusterList l)).getPathAttr t = r.getPathAttr t :=
    fun r _ => getPathAttr_setPathAttr_ne r (Ne.symm h2)
  unfold Path.reflect
  split <;> dsimp only <;> split <;> simp only [ho, hc]

theorem getPathAttr_reflect {q : Path} (peer : PeerConfig) (ho : BGP_ATTR_TYPE_ORIGINATOR_ID ∉ q.dels)
    (hc : BGP_ATTR_TYPE_CLUSTER_LIST ∉ q.dels) :
    (q.reflect peer).getPathAttr BGP_ATTR_TYPE_ORIGINATOR_ID =
      some ((q.getPathAttr BGP_ATTR_TYPE_ORIGINATOR_ID).getD (.originatorId q.info.source.ID)) ∧
    (∀ l, q.getPathAttr BGP_ATTR_TYPE_CLUSTER_LIST = some (.clusterList l) →
      (q.reflect peer).getPathAttr BGP_ATTR_TYPE_CLUSTER_LIST =
        some (.clusterList (peer.routeReflectorClusterId :: l))) ∧
    (q.getPathAttr BGP_ATTR_TYPE_CLUSTER_LIST = none →
      (q.reflect peer).getPathAttr BGP_ATTR_TYPE_CLUSTER_LIST = some (.clusterList [peer.routeReflectorClusterId])) := by
  have hoc : ∀ (r : Path) l, (r.setPathAttr (.clusterList l)).getPathAttr BGP_ATTR_TYPE_ORIGINATOR_ID =
      r.getPathAttr BGP_ATTR_TYPE_ORIGINATOR_ID := fun r _ => getPathAttr_setPathAttr_ne r (show (10 : UInt8) ≠ 9 by decide)
  have hco : ∀ (r : Path) x, (r.setPathAttr (.originatorId x)).getPathAttr BGP_ATTR_TYPE_CLUSTER_LIST =
      r.getPathAttr BGP_ATTR_TYPE_CLUSTER_LIST := fun r _ => getPathAttr_setPathAttr_ne r (show (9 : UInt8) ≠ 10 by decide)
  have hsc : ∀ (r : Path) l, r.dels = q.dels →
      (r.setPathAttr (.clusterList l)).getPathAttr BGP_ATTR_TYPE_CLUSTER_LIST = some (.clusterList l) :=
    fun r l hr => getPathAttr_setPathAttr_of_not_mem (hr ▸ hc) (.clusterList l) rfl
  unfold Path.reflect
  dsimp only
  -- the path after the ORIGINATOR_ID step
  generalize hr : (if q.getPathAttr BGP_ATTR_TYPE_ORIGINATOR_ID = none then
    q.setPathAttr (.originatorId q.info.source.ID) else q) = r
  have hrd : r.dels = q.dels := by rw [← hr]; split <;> rfl
  have hro : r.getPathAttr BGP_ATTR_TYPE_ORIGINATOR_ID =
      some ((q.getPathAttr BGP_ATTR_TYPE_ORIGINATOR_ID).getD (.originatorId q.info.source.ID)) := by
    rw [← hr]
    cases hq : q.getPathAttr BGP_ATTR_TYPE_ORIGINATOR_ID <;>
      simp [hq, getPathAttr_setPathAttr_of_not_mem ho (.originatorId _) rfl]
  have hrc : r.getPathAttr BGP_ATTR_TYPE_CLUSTER_LIST = q.getPathAttr BGP_ATTR_TYPE_CLUSTER_LIST := by
    rw [← hr]; split <;> simp only [hco]
  refine ⟨by split <;> simp only [hoc, hro], fun l hl => ?_, fun hl => ?_⟩ <;> simp only [hrc, hl, hsc r _ hrd]

/-- The IBGP branch up to route reflection: after the next hop step, an AS_PATH is kept and a
missing one becomes empty, LOCAL_PREF is 100 unless a local path reads one, and every other type
reads as the next hop step left it. -/
theorem updateInternal_eq {p : Path} (hdel : BGP_ATTR_TYPE_AS_PATH ∉ p.dels)
    (hlp : BGP_ATTR_TYPE_LOCAL_PREF ∉ p.dels) (peer : PeerConfig) :
    ∃ p3, p.updateInternal peer = some (if peer.routeReflectorClient then p3.reflect peer else p3) ∧
      p3.dels = p.dels ∧ p3.info = p.info ∧
      p3.getPathAttr BGP_ATTR_TYPE_AS_PATH = some ((p.getPathAttr BGP_ATTR_TYPE_AS_PATH).getD (.asPath [])) ∧
      p3.getPathAttr BGP_ATTR_TYPE_LOCAL_PREF = some (if p.isLocal then
        (p.getPathAttr BGP_ATTR_TYPE_LOCAL_PREF).getD (.localPref 100) else .localPref 100) ∧
      ∀ u, u ≠ BGP_ATTR_TYPE_LOCAL_PREF → u ≠ BGP_ATTR_TYPE_AS_PATH →
        p3.getPathAttr u = (if p.isLocal ∧ (ipEqual p.getNexthop (v4InV6Prefix ++ [0, 0, 0, 0]) ∨
          ipEqual p.getNexthop (List.replicate 16 0)) then p.setNexthop peer.localAddress else p).getPathAttr u := by
  -- `p1`, `p2`: the path after the next hop and AS_PATH steps
  obtain ⟨hd1, hi1, hf1⟩ := setNexthopIf_frame p (p.isLocal ∧ (ipEqual p.getNexthop (v4InV6Prefix ++ [0, 0, 0, 0]) ∨
    ipEqual p.getNexthop (List.replicate 16 0))) peer.localAddress
  generalize hp1 : (if p.isLocal ∧ (ipEqual p.getNexthop (v4InV6Prefix ++ [0, 0, 0, 0]) ∨
    ipEqual p.getNexthop (List.replicate 16 0)) then p.setNexthop peer.localAddress else p) = p1 at hd1 hi1 hf1 ⊢
  obtain ⟨p2, hp2, hd2, hi2, has2, hf2⟩ := asPathStep_spec (q := p1) (hd1 ▸ hdel)
  have hloc : p2.isLocal = p.isLocal := by simp [Path.isLocal, hi2, hi1]
  have hf3 := getPathAttr_localPrefStep (q := p2) (by rw [hd2, hd1]; exact hlp)
  refine ⟨if p2.getPathAttr BGP_ATTR_TYPE_LOCAL_PREF = none ∨ !p2.isLocal then p2.setPathAttr (.localPref 100)
    else p2, ?_, by rw [← hd1, ← hd2]; split <;> rfl, by rw [← hi1, ← hi2]; split <;> rfl,
    by rw [hf3, if_neg (by decide), has2, hf1 _ (by decide) (by decide)],
    by rw [hf3, if_pos rfl, hloc, hf2 _ (by decide), hf1 _ (by decide) (by decide)],
    fun u h1 h2 => by rw [hf3, if_neg h1, hf2 u h2]⟩
  simp only [Path.updateInternal, hp1]
  split <;> rename_i h <;> simp only [h, if_true, if_false, Option.some.injEq] at hp2 <;>
    simp only [hp2, Option.pure_def, Option.bind_eq_bind, Option.some_bind]

/-- The IBGP rewrite of a path whose own `dels` hide neither AS_PATH nor LOCAL_PREF, nor, towards
a route-reflector client, ORIGINATOR_ID and CLUSTER_LIST: a local path with next hop `0.0.0.0`
or `::` gets the local address, any other keeps its next hops; an AS_PATH is kept and a missing
one becomes empty; LOCAL_PREF is 100 unless a local path reads one; a route-reflector client gets
ORIGINATOR_ID and the cluster ID in front of CLUSTER_LIST; every other type reads as before. -/
theorem updatePathAttrs_internal_spec {p : Path} (hdel : BGP_ATTR_TYPE_AS_PATH ∉ p.dels)
    (hlp : BGP_ATTR_TYPE_LOCAL_PREF ∉ p.dels) (global : Global) {peer : PeerConfig}
    (hrs : peer.routeServerClient = false) (hint : peer.peerType = .internal)
    (hrr : peer.routeReflectorClient → BGP_ATTR_TYPE_ORIGINATOR_ID ∉ p.dels ∧ BGP_ATTR_TYPE_CLUSTER_LIST ∉ p.dels) :
    ∃ p', p.updatePathAttrs global peer = some p' ∧
      (p.isLocal ∧ (ipEqual p.getNexthop (v4InV6Prefix ++ [0, 0, 0, 0]) ∨ ipEqual p.getNexthop (List.replicate 16 0)) →
        (∀ v, p.getPathAttr BGP_ATTR_TYPE_NEXT_HOP = some (.nextHop v) →
          p'.getPathAttr BGP_ATTR_TYPE_NEXT_HOP = some (.nextHop peer.localAddress)) ∧
        (∀ x v, p.getPathAttr BGP_ATTR_TYPE_MP_REACH_NLRI = some (.mpReachNLRI x v) →
          p'.getPathAttr BGP_ATTR_TYPE_MP_REACH_NLRI = some (.mpReachNLRI peer.localAddress v))) ∧
      (¬(p.isLocal ∧ (ipEqual p.getNexthop (v4InV6Prefix ++ [0, 0, 0, 0]) ∨
          ipEqual p.getNexthop (List.replicate 16 0))) →
        p'.getPathAttr BGP_ATTR_TYPE_NEXT_HOP = p.getPathAttr BGP_ATTR_TYPE_NEXT_HOP ∧
        p'.getPathAttr BGP_ATTR_TYPE_MP_REACH_NLRI = p.getPathAttr BGP_ATTR_TYPE_MP_REACH_NLRI) ∧
      p'.getPathAttr BGP_ATTR_TYPE_AS_PATH = some ((p.getPathAttr BGP_ATTR_TYPE_AS_PATH).getD (.asPath [])) ∧
      p'.getPathAttr BGP_ATTR_TYPE_LOCAL_PREF = some (if p.isLocal then
        (p.getPathAttr BGP_ATTR_TYPE_LOCAL_PREF).getD (.localPref 100) else .localPref 100) ∧
      (peer.routeReflectorClient →
        p'.getPathAttr BGP_ATTR_TYPE_ORIGINATOR_ID =
          some ((p.getPathAttr BGP_ATTR_TYPE_ORIGINATOR_ID).getD (.originatorId p.info.source.ID)) ∧
        (∀ l, p.getPathAttr BGP_ATTR_TYPE_CLUSTER_LIST = some (.clusterList l) →
          p'.getPathAttr BGP_ATTR_TYPE_CLUSTER_LIST = some (.clusterList (peer.routeReflectorClusterId :: l))) ∧
        (p.getPathAttr BGP_ATTR_TYPE_CLUSTER_LIST = none →
          p'.getPathAttr BGP_ATTR_TYPE_CLUSTER_LIST = some (.clusterList [peer.routeReflectorClusterId]))) ∧
      (peer.routeReflectorClient = false →
        p'.getPathAttr BGP_ATTR_TYPE_ORIGINATOR_ID = p.getPathAttr BGP_ATTR_TYPE_ORIGINATOR_ID ∧
        p'.getPathAttr BGP_ATTR_TYPE_CLUSTER_LIST = p.getPathAttr BGP_ATTR_TYPE_CLUSTER_LIST) ∧
      ∀ t, t ∉ [BGP_ATTR_TYPE_NEXT_HOP, BGP_ATTR_TYPE_MP_REACH_NLRI, BGP_ATTR_TYPE_AS_PATH,
        BGP_ATTR_TYPE_LOCAL_PREF, BGP_ATTR_TYPE_ORIGINATOR_ID, BGP_ATTR_TYPE_CLUSTER_LIST] →
        p'.getPathAttr t = p.getPathAttr t := by
  obtain ⟨p3, hupd, hd3, hi3, has3, hlp3, h3⟩ := updateInternal_eq hdel hlp peer
  obtain ⟨-, -, hf1⟩ := setNexthopIf_frame p (p.isLocal ∧ (ipEqual p.getNexthop (v4InV6Prefix ++ [0, 0, 0, 0]) ∨
    ipEqual p.getNexthop (List.replicate 16 0))) peer.localAddress
  have hout : ∀ u, u ≠ BGP_ATTR_TYPE_ORIGINATOR_ID → u ≠ BGP_ATTR_TYPE_CLUSTER_LIST →
      (if peer.routeReflectorClient then p3.reflect peer else p3).getPathAttr u = p3.getPathAttr u := by
    intro u h1 h2
    split
    · exact getPathAttr_reflect_ne p3 peer h1 h2
    · rfl
  -- ORIGINATOR_ID and CLUSTER_LIST read as on `p` until route reflection
  have h3p : ∀ u, u ≠ BGP_ATTR_TYPE_LOCAL_PREF → u ≠ BGP_ATTR_TYPE_AS_PATH → u ≠ BGP_ATTR_TYPE_NEXT_HOP →
      u ≠ BGP_ATTR_TYPE_MP_REACH_NLRI → p3.getPathAttr u = p.getPathAttr u :=
    fun u h1 h2 h3' h4 => by rw [h3 u h1 h2, hf1 u h3' h4]
  refine ⟨if peer.routeReflectorClient then p3.reflect peer else p3,
    by simp only [Path.updatePathAttrs, hrs, hint, hupd, Bool.false_eq_true, if_false], fun hc => ?_, fun hc => ?_,
    by rw [hout _ (by decide) (by decide), has3], by rw [hout _ (by decide) (by decide), hlp3],
    fun hr => ?_, fun hr => ?_, fun t ht => ?_⟩
  · rw [if_pos hc] at h3
    exact ⟨fun v hv => by rw [hout _ (by decide) (by decide), h3 _ (by decide) (by decide),
        getPathAttr_setNexthop_nextHop hv],
      fun x v hv => by rw [hout _ (by decide) (by decide), h3 _ (by decide) (by decide),
        getPathAttr_setNexthop_mpReach hv]⟩
  · rw [if_neg hc] at h3
    exact ⟨by rw [hout _ (by decide) (by decide), h3 _ (by decide) (by decide)],
      by rw [hout _ (by decide) (by decide), h3 _ (by decide) (by decide)]⟩
  · have hnd := hrr hr
    obtain ⟨ho, hcl, hcn⟩ := getPathAttr_reflect (q := p3) peer (hd3 ▸ hnd.1) (hd3 ▸ hnd.2)
    have hpc := h3p BGP_ATTR_TYPE_CLUSTER_LIST (by decide) (by decide) (by decide) (by decide)
    simp only [hr, if_true]
    exact ⟨by rw [ho, h3p _ (by decide) (by decide) (by decide) (by decide), hi3], fun l hl => hcl l (hpc ▸ hl),
      fun hl => hcn (hpc ▸ hl)⟩
  · simp only [hr, Bool.false_eq_true, if_false]
    exact ⟨h3p _ (by decide) (by decide) (by decide) (by decide), h3p _ (by decide) (by decide) (by decide) (by decide)⟩
  · simp only [List.mem_cons, List.not_mem_nil, or_false, not_or] at ht
    rw [hout _ ht.2.2.2.2.1 ht.2.2.2.2.2, h3p _ ht.2.2.2.1 ht.2.2.1 ht.1 ht.2.1]

/-- A path originated in AS 65001 with next hop 0.0.0.0 and no AS_PATH. -/
def localPath : Path :=
  ⟨⟨.ipv4 prefix10, ⟨65001, 65001, [1, 1, 1, 1], none⟩, false⟩, false, [.origin 0, .nextHop [0, 0, 0, 0]], [], []⟩

theorem updatePathAttrs_internal_spec_local :
    BGP_ATTR_TYPE_AS_PATH ∉ localPath.dels ∧
    ∃ p', localPath.updatePathAttrs sampleGlobal rrClient = some p' ∧
      p'.getPathAttr BGP_ATTR_TYPE_NEXT_HOP = some (.nextHop [10, 0, 0, 1]) ∧
      p'.getPathAttr BGP_ATTR_TYPE_AS_PATH = some (.asPath []) ∧
      p'.getPathAttr BGP_ATTR_TYPE_LOCAL_PREF = some (.localPref 100) ∧
      p'.getPathAttr BGP_ATTR_TYPE_CLUSTER_LIST = some (.clusterList [[1, 1, 1, 1]]) :=
  ⟨by decide,
    match @updatePathAttrs_internal_spec localPath (by decide) (by decide) sampleGlobal rrClient rfl rfl
      (fun _ => ⟨by decide, by decide⟩) with
    | ⟨p', h, hnh, _, has, hlp, hrr, _, _⟩ => ⟨p', h, (hnh (by decide)).1 _ rfl, has, hlp, (hrr rfl).2.2 rfl⟩⟩

/-- An IBGP rewrite of a path learned from another peer with LOCAL_PREF 200: the condition
`pref == nil || !path.IsLocal()` holds for every path that is not local, so its LOCAL_PREF
becomes 100. -/
theorem updatePathAttrs_internal_resets_local_pref :
    ((samplePath prefix10 false [.origin 0, .asPath [], .nextHop [10, 0, 0, 2], .localPref 200] []).updatePathAttrs
        sampleGlobal ⟨false, [10, 0, 0, 1], .internal, false, [], false⟩).map
      (·.getPathAttr BGP_ATTR_TYPE_LOCAL_PREF) = some (some (.localPref 100)) := by
  decide

/-! ## SetMed -/

/-- `int64(math.MaxUint32)`. -/
def MaxUint32 : Int := 4294967295

/-- `SetMed`'s `parseMed`: a replacement is `uint32(med)`, the low 32 bits of `med`; an
adjustment is checked on the int64 sum. -/
def parseMed (orgMed : Nat) (med : Int) (doReplace : Bool) : Except String PathAttribute :=
  if doReplace then .ok (.multiExitDisc (med % 2 ^ 32).toNat)
  else if toInt64 (orgMed + med) < 0 then .error "med value invalid. it's underflow threshold."
  else if toInt64 (orgMed + med) > MaxUint32 then .error "med value invalid. it's overflow threshold."
  else .ok (.multiExitDisc (toInt64 (orgMed + med) % 2 ^ 32).toNat)

/-- The MED `SetMed` starts from: the one the path reads, or 0. -/
def Path.currentMed (p : Path) : Nat :=
  match p.getPathAttr BGP_ATTR_TYPE_MULTI_EXIT_DISC with
  | some (.multiExitDisc v) => v
  | _ => 0

/-- `SetMed`: the MED is replaced, or adjusted by `med` (int64), and set on the path. -/
def Path.setMed (p : Path) (med : Int) (doReplace : Bool) : Except String Path :=
  (parseMed p.currentMed med doReplace).map p.setPathAttr

theorem parseMed_add {old : Nat} (hold : old < 2 ^ 32) {med : Int} (hmed : -2 ^ 63 ≤ med ∧ med < 2 ^ 63) :
    (∃ e, parseMed old med false = .error e) ∧ (old + med < 0 ∨ MaxUint32 < old + med) ∨
    parseMed old med false = .ok (.multiExitDisc (old + med).toNat) ∧ 0 ≤ old + med ∧ old + med ≤ MaxUint32 := by
  have h32 : (old : Int) < 4294967296 := by exact_mod_cast hold
  have h63 : (2 : Int) ^ 63 = 9223372036854775808 := rfl
  rw [h63] at hmed
  simp only [parseMed, Bool.false_eq_true, if_false, MaxUint32]
  by_cases hs : (old : Int) + med < 2 ^ 63
  · rw [toInt64_of_lt (by omega) hs]
    split
    · exact .inl ⟨⟨_, rfl⟩, .inl ‹_›⟩
    · split
      · exact .inl ⟨⟨_, rfl⟩, .inr ‹_›⟩
      · refine .inr ⟨?_, by omega, by omega⟩
        rw [Int.emod_eq_of_lt (by omega) (by omega)]
  · rw [toInt64_of_ge (by omega) (by rw [show (2 : Int) ^ 64 = 18446744073709551616 from rfl]; omega)]
    rw [if_pos (by rw [show (2 : Int) ^ 64 = 18446744073709551616 from rfl]; omega)]
    exact .inl ⟨⟨_, rfl⟩, .inr (by omega)⟩

/-- In add mode, for every int64 `med` and a MED below 2^32, `SetMed` fails exactly when the
sum leaves `[0, 2^32 - 1]`, wrapped int64 sums included; otherwise the path reads the sum as
its MED and every other attribute as before. -/
theorem setMed_add_spec {p : Path} (hdel : BGP_ATTR_TYPE_MULTI_EXIT_DISC ∉ p.dels)
    (hold : p.currentMed < 2 ^ 32) {med : Int} (hmed : -2 ^ 63 ≤ med ∧ med < 2 ^ 63) :
    ((∃ e, p.setMed med false = .error e) ↔ p.currentMed + med < 0 ∨ MaxUint32 < p.currentMed + med) ∧
    ∀ p', p.setMed med false = .ok p' →
      p'.getPathAttr BGP_ATTR_TYPE_MULTI_EXIT_DISC = some (.multiExitDisc (p.currentMed + med).toNat) ∧
      ∀ t, t ≠ BGP_ATTR_TYPE_MULTI_EXIT_DISC → p'.getPathAttr t = p.getPathAttr t := by
  rcases parseMed_add hold hmed with ⟨⟨e, he⟩, hout⟩ | ⟨hok, hlo, hhi⟩
  · have hset : p.setMed med false = .error e := by simp [Path.setMed, he, Except.map]
    exact ⟨iff_of_true ⟨e, hset⟩ hout, fun p' h => by rw [hset] at h; cases h⟩
  · have hset : p.setMed med false = .ok (p.setPathAttr (.multiExitDisc (p.currentMed + med).toNat)) := by
      simp [Path.setMed, hok, Except.map]
    refine ⟨iff_of_false (fun ⟨e, h⟩ => by rw [hset] at h; cases h) (by omega), fun p' h => ?_⟩
    rw [hset] at h
    cases h
    exact ⟨getPathAttr_setPathAttr_of_not_mem hdel _ rfl, fun t ht => getPathAttr_setPathAttr_ne p (Ne.symm ht)⟩

/-- An announcement of 10.0.0.0/24 with MED 5. -/
def pathMed5 : Path := samplePath prefix10 false [.multiExitDisc 5] []

theorem setMed_add_spec_seven :
    BGP_ATTR_TYPE_MULTI_EXIT_DISC ∉ pathMed5.dels ∧
    pathMed5.currentMed < 2 ^ 32 ∧ (-2 ^ 63 ≤ (7 : Int) ∧ (7 : Int) < 2 ^ 63) ∧
    ((∃ e, pathMed5.setMed 7 false = .error e) ↔ (5 : Int) + 7 < 0 ∨ MaxUint32 < 5 + 7) ∧
    ∀ p', pathMed5.setMed 7 false = .ok p' →
      p'.getPathAttr BGP_ATTR_TYPE_MULTI_EXIT_DISC = some (.multiExitDisc 12) ∧
      ∀ t, t ≠ BGP_ATTR_TYPE_MULTI_EXIT_DISC → p'.getPathAttr t = pathMed5.getPathAttr t :=
  ⟨by decide, by decide, by decide, setMed_add_spec (by decide) (by decide) (by decide)⟩

/-- Replacing the MED with -1: `uint32(med)` keeps the low 32 bits, so `SetMed` returns nil
and the MED becomes 2^32 - 1. -/
theorem setMed_replace_truncates :
    (pathMed5.setMed (-1) true).toOption.map (·.getPathAttr BGP_ATTR_TYPE_MULTI_EXIT_DISC) =
      some (some (.multiExitDisc 4294967295)) := by
  decide

end GoBgp
