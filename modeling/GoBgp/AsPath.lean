import GoBgp.Packet

/-!
# AS_PATH and AS4_PATH reconciliation

`UpdatePathAttrs2ByteAs` rewrites an UPDATE for a 2-byte peer, and `UpdatePathAttrs4ByteAs`
merges a received AS4_PATH back into the AS_PATH (RFC 6793). A Go runtime panic (a failed
type assertion, an index or slice bound out of range) is `none`.
-/

namespace GoBgp

/-! ## UpdatePathAttrs2ByteAs -/

/-- The first AS_PATH attribute and its index `idx`. -/
def findAsPath : List PathAttribute → Option (Nat × List AsPathParamInterface)
  | [] => none
  | .asPath v :: _ => some (0, v)
  | _ :: attrs => (findAsPath attrs).map fun (i, v) => (i + 1, v)

/-- `param.(*bgp.As4PathParam)`: a 2-byte segment fails the assertion. -/
def AsPathParamInterface.as4? : AsPathParamInterface → Option AsSegment
  | .four p => some p
  | .two _ => none

/-- An AS as a 2-byte speaker sees it. -/
def to2ByteAs (a : Nat) : Nat := if a > 65535 then AS_TRANS else a

/-- A segment for a 2-byte speaker: `NewAsPathParam` of the ASes through `to2ByteAs`, which
sets `Num` as `NewAs4PathParam` does. -/
def as2Segment (p : AsSegment) : AsSegment := newAs4PathParam p.type (p.AS.map to2ByteAs)

/-- AS4_PATH keeps the original non-confederation segments. -/
def updatePathAttrs2ByteAs (msg : BGPUpdate) : Option BGPUpdate :=
  match findAsPath msg.pathAttributes with
  | none => some msg
  | some (idx, value) => do
    let params ← value.mapM AsPathParamInterface.as4?
    let as2Params := params.map fun p => AsPathParamInterface.two (as2Segment p)
    let as4Params := params.filter fun p => !p.type.isConfed
    let mkAs4 := params.any fun p => p.AS.any (· > 65535)
    let attrs := msg.pathAttributes.set idx (.asPath as2Params)
    pure { msg with pathAttributes := if mkAs4 then attrs ++ [.as4Path as4Params] else attrs }

/-- The segment of an element of `PathAttributeAsPath.Value`, 2-byte or 4-byte. -/
def AsPathParamInterface.seg : AsPathParamInterface → AsSegment
  | .two p | .four p => p

/-- Every segment of every AS_PATH and AS4_PATH attribute is well-formed. -/
def SegmentsWellFormed (attrs : List PathAttribute) : Prop :=
  ∀ a ∈ attrs, match a with
    | .asPath v => ∀ p ∈ v, p.seg.WellFormed
    | .as4Path v => ∀ s ∈ v, s.WellFormed
    | _ => True

theorem findAsPath_mem {attrs : List PathAttribute} {idx : Nat} {v : List AsPathParamInterface}
    (h : findAsPath attrs = some (idx, v)) : PathAttribute.asPath v ∈ attrs := by
  induction attrs using findAsPath.induct generalizing idx with
  | case1 => cases h
  | case2 w _ => cases h; exact List.mem_cons_self _ _
  | case3 a attrs hne ih =>
    rw [findAsPath.eq_3 _ _ hne] at h
    obtain ⟨⟨i, w⟩, hw, he⟩ := Option.map_eq_some'.mp h
    cases he
    exact List.mem_cons_of_mem _ (ih hw)

theorem mapM_as4?_cons (a : AsPathParamInterface) (value : List AsPathParamInterface) :
    (a :: value).mapM AsPathParamInterface.as4? =
      a.as4?.bind fun p => (value.mapM AsPathParamInterface.as4?).bind fun ps => some (p :: ps) := by
  simp only [List.mapM_cons, Option.pure_def, Option.bind_eq_bind]

theorem mapM_as4?_eq_some : ∀ {value : List AsPathParamInterface} {params : List AsSegment},
    value.mapM AsPathParamInterface.as4? = some params → value = params.map .four
  | [], params, h => by
    simp only [List.mapM_nil, Option.pure_def, Option.some.injEq] at h
    simp [← h]
  | a :: value, params, h => by
    rw [mapM_as4?_cons] at h
    obtain ⟨p, hp, h⟩ := Option.bind_eq_some.mp h
    obtain ⟨ps, hps, hps'⟩ := Option.bind_eq_some.mp h
    cases hps'
    cases a <;> cases hp
    simp [mapM_as4?_eq_some hps]

theorem mapM_as4?_eq_none : ∀ {value : List AsPathParamInterface},
    value.mapM AsPathParamInterface.as4? = none ↔ ∃ p, AsPathParamInterface.two p ∈ value
  | [] => by simp only [List.mapM_nil, Option.pure_def]; simp
  | a :: value => by
    rw [mapM_as4?_cons]
    cases a with
    | two p => simp [AsPathParamInterface.as4?]
    | four p =>
      simp only [AsPathParamInterface.as4?, Option.some_bind, List.mem_cons, reduceCtorEq, false_or,
        ← @mapM_as4?_eq_none value]
      cases value.mapM AsPathParamInterface.as4?
      · exact ⟨fun _ => rfl, fun _ => rfl⟩
      · exact iff_of_false nofun nofun

theorem updatePathAttrs2ByteAs_eq_none_iff (msg : BGPUpdate) :
    updatePathAttrs2ByteAs msg = none ↔
      ∃ idx value, findAsPath msg.pathAttributes = some (idx, value) ∧ ∃ p, AsPathParamInterface.two p ∈ value := by
  unfold updatePathAttrs2ByteAs
  split
  · next hf => simp only [hf, reduceCtorEq, false_and, exists_false]
  · next idx value hf =>
    have hfound : (∃ i v, findAsPath msg.pathAttributes = some (i, v) ∧ ∃ p, .two p ∈ v) ↔
        value.mapM AsPathParamInterface.as4? = none :=
      ⟨fun ⟨i, v, h, hp⟩ => by rw [hf] at h; cases h; exact mapM_as4?_eq_none.mpr hp,
        fun h => ⟨idx, value, hf, mapM_as4?_eq_none.mp h⟩⟩
    rw [hfound]
    cases value.mapM AsPathParamInterface.as4?
    · exact ⟨fun _ => rfl, fun _ => rfl⟩
    · exact iff_of_false nofun nofun

theorem as2Segment_wellFormed {p : AsSegment} (h : p.WellFormed) : (as2Segment p).WellFormed := by
  obtain ⟨h1, h2, -⟩ := h
  simp only [AsSegment.WellFormed, as2Segment, newAs4PathParam, List.length_map]
  exact ⟨h1, h2, Nat.mod_eq_of_lt (by omega)⟩

theorem flatten_as2Segment (params : List AsSegment) :
    flatten (params.map as2Segment) = (flatten params).map fun x => (x.1, to2ByteAs x.2) := by
  induction params with
  | nil => rfl
  | cons p ps ih => simp [as2Segment, newAs4PathParam, ih, Function.comp_def]

theorem updatePathAttrs2ByteAs_wellFormed {msg m : BGPUpdate} (h : updatePathAttrs2ByteAs msg = some m)
    (hwf : SegmentsWellFormed msg.pathAttributes) : SegmentsWellFormed m.pathAttributes := by
  unfold updatePathAttrs2ByteAs at h
  split at h
  · cases h; exact hwf
  · next idx value hf =>
    obtain ⟨params, hp, hm⟩ := Option.bind_eq_some.mp h
    cases hm
    have hparams : ∀ p ∈ params, p.WellFormed := by
      have := hwf _ (findAsPath_mem hf)
      simp only [mapM_as4?_eq_some hp, List.mem_map, forall_exists_index, and_imp,
        forall_apply_eq_imp_iff₂] at this
      exact this
    have hset : SegmentsWellFormed (msg.pathAttributes.set idx (.asPath (params.map fun p => .two (as2Segment p)))) := by
      intro a ha
      rcases List.mem_or_eq_of_mem_set ha with ha | rfl
      · exact hwf a ha
      · simp only [List.mem_map, forall_exists_index, and_imp, forall_apply_eq_imp_iff₂]
        exact fun p hp => as2Segment_wellFormed (hparams p hp)
    split
    · intro a ha
      rcases List.mem_append.mp ha with ha | ha
      · exact hset a ha
      · simp only [List.mem_singleton] at ha; subst ha
        exact fun s hs => hparams s (List.mem_filter.mp hs).1
    · exact hset

/-! ## UpdatePathAttrs4ByteAs -/

/-- A segment after the widening loop: a 2-byte one becomes `NewAs4PathParam(type, asPath)`. -/
def AsPathParamInterface.widen : AsPathParamInterface → AsSegment
  | .two p => newAs4PathParam p.type p.AS
  | .four p => p

/-- What the locating loop leaves: the attributes with every AS_PATH widened in place, and
the position and value of the last AS_PATH and of the last AS4_PATH. -/
structure Located where
  attrs : List PathAttribute
  asAttr : Option (Nat × List AsSegment)
  as4Attr : Option (Nat × List AsSegment)

def locateFrom (i : Nat) : List PathAttribute → Located
  | [] => ⟨[], none, none⟩
  | a :: attrs =>
    let r := locateFrom (i + 1) attrs
    match a with
    | .asPath v =>
      let w := v.map AsPathParamInterface.widen
      ⟨.asPath (w.map .four) :: r.attrs, r.asAttr <|> some (i, w), r.as4Attr⟩
    | .as4Path v => ⟨a :: r.attrs, r.asAttr, r.as4Attr <|> some (i, v)⟩
    | _ => ⟨a :: r.attrs, r.asAttr, r.as4Attr⟩

/-- The confederation part of the count loop, `asConfedLen`. -/
def AsSegment.confedLen (p : AsSegment) : Nat :=
  match p.type with
  | .confedSet => 1
  | .confedSeq => p.AS.length
  | .set | .seq => 0

/-- The keep loop: whole segments while `keepNum` covers their `ASLen`, stopping once it
reaches 0, and the first segment it does not cover cut to `param.AS[:keepNum]`. The cut
leaves `Num` as it was. -/
def keepParams : List AsSegment → Nat → List AsSegment
  | [], _ => []
  | p :: ps, keepNum =>
    if p.asLen ≤ keepNum then
      p :: (if keepNum - p.asLen = 0 then [] else keepParams ps (keepNum - p.asLen))
    else [{ p with AS := p.AS.take keepNum }]

/-- The graft loop, with `newParams` held as `init ++ [lastParam]`. On overflow the source
computes `param.AS[255-len(lastParam.AS):]` after `lastParam.AS` was filled to 255 ASes, so
the new segment keeps all of `param.AS`; appends leave `Num` as it was. -/
def graft (init : List AsSegment) (last : AsSegment) : List AsSegment → Option (List AsSegment)
  | [] => some (init ++ [last])
  | p :: ps =>
    if p.type = last.type ∧ p.type = .seq then
      if last.AS.length + p.AS.length > 255 then
        if last.AS.length ≤ 255 then
          let last' := { last with AS := last.AS ++ p.AS.take (255 - last.AS.length) }
          graft (init ++ [last']) { p with AS := p.AS.drop (255 - last'.AS.length) } ps
        else none
      else graft init { last with AS := last.AS ++ p.AS } ps
    else graft (init ++ [last]) p ps

/-- The graft loop from the kept segments; `newParams[len(newParams)-1]` panics when nothing
was kept and AS4_PATH has a segment left. -/
def graftParams (kept as4Params : List AsSegment) : Option (List AsSegment) :=
  match kept.getLast? with
  | none => if as4Params = [] then some [] else none
  | some last => graft kept.dropLast last as4Params

def updatePathAttrs4ByteAs (msg : BGPUpdate) : Option BGPUpdate :=
  let l := locateFrom 0 msg.pathAttributes
  let attrs := match l.as4Attr with
    | some (as4AttrPos, _) => l.attrs.eraseIdx as4AttrPos
    | none => l.attrs
  match l.asAttr, l.as4Attr with
  | some (asAttrPos, asParams), some (as4AttrPos, as4Value) =>
    let asLen := (asParams.map AsSegment.asLen).sum
    let asConfedLen := (asParams.map AsSegment.confedLen).sum
    let as4Params := as4Value.filter fun p => !p.type.isConfed
    let as4Len := (as4Params.map AsSegment.asLen).sum
    if asLen + asConfedLen < as4Len then some { msg with pathAttributes := attrs }
    else
      let kept := keepParams asParams (asLen + asConfedLen - as4Len)
      match graftParams kept as4Params with
      | none => none
      | some newParams =>
        -- The kept segments are the AS_PATH's own objects: the old attribute, still in the
        -- list when AS4_PATH stood before it, shows the grafted ASes in its last kept one.
        let oldPos := if as4AttrPos < asAttrPos then asAttrPos - 1 else asAttrPos
        let old := asParams.set (kept.length - 1) (newParams.getD (kept.length - 1) last0)
        if asAttrPos < attrs.length then
          some { msg with pathAttributes :=
            ((attrs.set oldPos (.asPath (old.map .four))).set asAttrPos (.asPath (newParams.map .four))) }
        else none
  | _, _ => some { msg with pathAttributes := attrs }
where
  last0 : AsSegment := ⟨.seq, 0, []⟩

/-- Two adjacent AS_SEQUENCE segments of 2 and 1 ASes, then a 1-AS AS4_PATH: the kept
segment takes the AS4 AS by append, and its `Num` stays 2 over 3 ASes. -/
theorem updatePathAttrs4ByteAs_stale_num :
    updatePathAttrs4ByteAs ⟨[], [.asPath [.two ⟨.seq, 2, [1, 2]⟩, .two ⟨.seq, 1, [3]⟩],
      .as4Path [⟨.seq, 1, [70000]⟩]], []⟩ =
      some ⟨[], [.asPath [.four ⟨.seq, 2, [1, 2, 70000]⟩]], []⟩ := by
  decide

/-- AS4_PATH before a last AS_PATH: `asAttrPos` is taken before the AS4_PATH is removed,
and the write-back indexes one past the end. -/
theorem updatePathAttrs4ByteAs_as4_first_panics :
    updatePathAttrs4ByteAs ⟨[], [.origin 0, .as4Path [⟨.seq, 1, [131073]⟩],
      .asPath [.two ⟨.seq, 2, [23456, 300]⟩]], []⟩ = none := by
  decide

/-- A confederation segment enters `keepNum` through `asConfedLen` but counts nothing in the
keep loop, so one AS more than `n - n4` is kept: the AS_PATH counts 3 ASes where it had 2. -/
theorem updatePathAttrs4ByteAs_confed_counted :
    updatePathAttrs4ByteAs ⟨[], [.asPath [.two ⟨.confedSeq, 1, [65000]⟩, .two ⟨.seq, 2, [1, 2]⟩],
      .as4Path [⟨.seq, 1, [70000]⟩]], []⟩ =
      some ⟨[], [.asPath [.four ⟨.confedSeq, 1, [65000]⟩, .four ⟨.seq, 2, [1, 2, 70000]⟩]], []⟩ := by
  decide

/-- AS4_PATH before AS_PATH: the rebuilt AS_PATH is written at the AS_PATH's old position,
one past its place in the shortened list, over the ORIGIN; the old AS_PATH stays, showing the
grafted segment it shares. With the order swapped the ORIGIN is kept. -/
theorem updatePathAttrs4ByteAs_as4_first_overwrites :
    updatePathAttrs4ByteAs ⟨[], [.as4Path [⟨.seq, 1, [70000]⟩], .asPath [.two ⟨.seq, 1, [23456]⟩],
      .origin 0], []⟩ =
      some ⟨[], [.asPath [.four ⟨.seq, 1, [70000]⟩], .asPath [.four ⟨.seq, 1, [70000]⟩]], []⟩ ∧
    updatePathAttrs4ByteAs ⟨[], [.asPath [.two ⟨.seq, 1, [23456]⟩], .as4Path [⟨.seq, 1, [70000]⟩],
      .origin 0], []⟩ =
      some ⟨[], [.asPath [.four ⟨.seq, 1, [70000]⟩], .origin 0], []⟩ := by
  decide

/-! ## Transit through 2-byte speakers -/

/-- One AS prepended by a 2-byte speaker in transit, as RFC 4271 §5.1.2 prescribes: into a
leading AS_SEQUENCE that has room, otherwise as a new leading AS_SEQUENCE. -/
def prependLegacy (a : Nat) : List AsPathParamInterface → List AsPathParamInterface
  | .two p :: rest =>
    if p.type = .seq ∧ p.AS.length < 255 then .two (newAs4PathParam .seq (a :: p.AS)) :: rest
    else .two (newAs4PathParam .seq [a]) :: .two p :: rest
  | segs => .two (newAs4PathParam .seq [a]) :: segs

/-- 2-byte speakers prepend `k`, leftmost AS last, to the AS_PATH and pass AS4_PATH on. -/
def transitPrepend (k : List Nat) (msg : BGPUpdate) : BGPUpdate :=
  { msg with pathAttributes := msg.pathAttributes.map fun
      | .asPath v => .asPath (k.foldr prependLegacy v)
      | a => a }

set_option maxRecDepth 20000 in
/-- A full 255-AS segment with a 4-byte AS, and one AS prepended in transit: the graft fills
the prepended segment to 255 ASes and then appends the whole AS4 segment again, so 254 ASes
appear twice. -/
theorem transit_round_trip_duplicates :
    ((updatePathAttrs2ByteAs ⟨[], [.asPath [.four ⟨.seq, 255, 70000 :: List.replicate 254 1⟩]], []⟩).bind
      fun m => updatePathAttrs4ByteAs (transitPrepend [1] m)) =
      some ⟨[], [.asPath [.four ⟨.seq, 1, 1 :: 70000 :: List.replicate 253 1⟩,
        .four ⟨.seq, 255, 70000 :: List.replicate 254 1⟩]], []⟩ := by
  rfl

end GoBgp
