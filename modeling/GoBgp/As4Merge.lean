import GoBgp.AsPath

/-!
# The AS4_PATH merge in the ordinary case

`rfc6793Merge` is RFC 6793 §4.2.3 on the (type, AS) pairs of the segments. For one AS_PATH of
AS_SEQUENCEs before one AS4_PATH, with at most 255 ASes, `UpdatePathAttrs4ByteAs` writes that
merge in place of the AS_PATH and drops the AS4_PATH (`updatePathAttrs4ByteAs_merges`); each
hypothesis keeps out a defect of the code shown below. A 4-byte AS_PATH sent to an OLD speaker
and back unchanged is restored (`as4_round_trip`).
-/

namespace GoBgp

/-- The attributes `UpdatePathAttrs4ByteAs` looks for. -/
def PathAttribute.isAsAttr : PathAttribute → Bool
  | .asPath _ | .as4Path _ => true
  | _ => false

/-- RFC 6793 §4.2.3 on an AS_PATH of AS_SEQUENCEs, where every AS counts one: the AS4_PATH
without its confederation segments behind the leading ASes of the AS_PATH it does not stand
for; an AS4_PATH that counts more is ignored. -/
def rfc6793Merge (asPath as4Path : List AsSegment) : List (SegType × Nat) :=
  if (asPath.map AsSegment.asLen).sum < ((as4Path.filter fun p => !p.type.isConfed).map AsSegment.asLen).sum then
    flatten asPath
  else
    (flatten asPath).take ((asPath.map AsSegment.asLen).sum -
      ((as4Path.filter fun p => !p.type.isConfed).map AsSegment.asLen).sum) ++
      flatten (as4Path.filter fun p => !p.type.isConfed)

/-! ## Locating the attributes -/

section Locate

theorem locateFrom_cons_of_noAs {a : PathAttribute} (ha : a.isAsAttr = false) (i : Nat) (l : List PathAttribute) :
    locateFrom i (a :: l) =
      ⟨a :: (locateFrom (i + 1) l).attrs, (locateFrom (i + 1) l).asAttr, (locateFrom (i + 1) l).as4Attr⟩ := by
  cases a <;> first | rfl | cases ha

theorem locateFrom_of_noAs {l : List PathAttribute} (h : ∀ a ∈ l, a.isAsAttr = false) (i : Nat) :
    locateFrom i l = ⟨l, none, none⟩ := by
  induction l generalizing i with
  | nil => rfl
  | cons a l ih =>
    rw [locateFrom_cons_of_noAs (h a (List.mem_cons_self _ _)), ih (fun b hb => h b (List.mem_cons_of_mem _ hb))]

theorem locateFrom_noAs_append {pre : List PathAttribute} (h : ∀ a ∈ pre, a.isAsAttr = false)
    (i : Nat) (l : List PathAttribute) :
    locateFrom i (pre ++ l) = ⟨pre ++ (locateFrom (i + pre.length) l).attrs,
      (locateFrom (i + pre.length) l).asAttr, (locateFrom (i + pre.length) l).as4Attr⟩ := by
  induction pre generalizing i with
  | nil => rfl
  | cons a pre ih =>
    rw [List.cons_append, locateFrom_cons_of_noAs (h a (List.mem_cons_self _ _)),
      ih (fun b hb => h b (List.mem_cons_of_mem _ hb)), List.length_cons, Nat.add_assoc, Nat.add_comm 1]
    rfl

theorem locateFrom_shape {pre mid post : List PathAttribute} {v : List AsPathParamInterface}
    {v4 : List AsSegment} (hno : ∀ a ∈ pre ++ mid ++ post, a.isAsAttr = false) :
    locateFrom 0 (pre ++ .asPath v :: (mid ++ .as4Path v4 :: post)) =
      ⟨pre ++ .asPath ((v.map AsPathParamInterface.widen).map .four) :: (mid ++ .as4Path v4 :: post),
        some (pre.length, v.map AsPathParamInterface.widen), some (pre.length + 1 + mid.length, v4)⟩ := by
  have hpre : ∀ a ∈ pre, a.isAsAttr = false := fun a ha => hno a (by simp [ha])
  have hmid : ∀ a ∈ mid, a.isAsAttr = false := fun a ha => hno a (by simp [ha])
  have hpost : ∀ a ∈ post, a.isAsAttr = false := fun a ha => hno a (by simp [ha])
  rw [locateFrom_noAs_append hpre, locateFrom, locateFrom_noAs_append hmid, locateFrom,
    locateFrom_of_noAs hpost]
  simp only [Nat.zero_add]
  rfl

end Locate

/-! ## The keep loop and the graft loop -/

section Loops

theorem flatten_keepParams {segs : List AsSegment} (hseq : ∀ p ∈ segs, p.type = .seq) (n : Nat) :
    flatten (keepParams segs n) = (flatten segs).take n := by
  induction segs generalizing n with
  | nil => simp [keepParams]
  | cons p ps ih =>
    have hp : p.asLen = p.AS.length := by simp [AsSegment.asLen, hseq p (List.mem_cons_self _ _)]
    rw [keepParams, hp]
    split
    · next hle =>
      rw [flatten_cons, flatten_cons, List.take_append_eq_append_take,
        List.take_of_length_le (by simpa using hle), List.length_map]
      congr 1
      split
      · next h0 => rw [h0, List.take_zero, flatten_nil]
      · exact ih (fun q hq => hseq q (List.mem_cons_of_mem _ hq)) _
    · next hlt =>
      rw [flatten_cons, flatten_cons, flatten_nil, List.append_nil,
        List.take_append_of_le_length (by simp; omega), List.map_take]

theorem keepParams_ne_nil {segs : List AsSegment} (hne : segs ≠ []) (n : Nat) : keepParams segs n ≠ [] := by
  obtain ⟨p, ps, rfl⟩ := List.exists_cons_of_ne_nil hne
  rw [keepParams]
  split <;> simp

theorem graft_flatten (init : List AsSegment) (last : AsSegment) (ps : List AsSegment)
    (hb : last.AS.length + (flatten ps).length ≤ 255) :
    ∃ r, graft init last ps = some r ∧ flatten r = flatten init ++ flatten [last] ++ flatten ps := by
  induction ps generalizing init last with
  | nil => exact ⟨_, rfl, by simp⟩
  | cons p ps ih =>
    rw [flatten_cons, List.length_append, List.length_map] at hb
    rw [graft]
    split
    · next hty =>
      rw [if_neg (by omega)]
      obtain ⟨r, hr, hf⟩ := ih init { last with AS := last.AS ++ p.AS } (by simp; omega)
      refine ⟨r, hr, ?_⟩
      rw [hf]
      simp [hty.1]
    · obtain ⟨r, hr, hf⟩ := ih (init ++ [last]) p (by omega)
      exact ⟨r, hr, by rw [hf]; simp⟩

theorem length_flatten_le_of_mem {segs : List AsSegment} {s : AsSegment} (h : s ∈ segs) :
    s.AS.length ≤ (flatten segs).length := by
  induction segs with
  | nil => cases h
  | cons p ps ih =>
    rw [flatten_cons, List.length_append, List.length_map]
    rcases List.mem_cons.mp h with rfl | h
    · omega
    · have := ih h; omega

theorem graftParams_flatten {kept : List AsSegment} (hne : kept ≠ []) (ps : List AsSegment)
    (hb : (flatten kept).length + (flatten ps).length ≤ 255) :
    ∃ r, graftParams kept ps = some r ∧ flatten r = flatten kept ++ flatten ps := by
  have hlast := length_flatten_le_of_mem (List.getLast_mem hne)
  obtain ⟨r, hr, hf⟩ := graft_flatten kept.dropLast (kept.getLast hne) ps (by omega)
  refine ⟨r, by rw [graftParams, List.getLast?_eq_getLast kept hne]; exact hr, ?_⟩
  rw [hf, ← flatten_append, List.dropLast_append_getLast]

end Loops

/-! ## The merge -/

section Merge

variable {segs : List AsSegment}

theorem sum_asLen_of_seq (hseq : ∀ p ∈ segs, p.type = .seq) : (segs.map AsSegment.asLen).sum = (flatten segs).length := by
  induction segs with
  | nil => rfl
  | cons p ps ih =>
    simp [AsSegment.asLen, hseq p (List.mem_cons_self _ _), ih fun q hq => hseq q (List.mem_cons_of_mem _ hq)]

theorem sum_confedLen_of_seq (hseq : ∀ p ∈ segs, p.type = .seq) : (segs.map AsSegment.confedLen).sum = 0 := by
  induction segs with
  | nil => rfl
  | cons p ps ih =>
    simp [AsSegment.confedLen, hseq p (List.mem_cons_self _ _), ih fun q hq => hseq q (List.mem_cons_of_mem _ hq)]

theorem length_flatten_filter_le (f : AsSegment → Bool) : (flatten (segs.filter f)).length ≤ (flatten segs).length := by
  induction segs with
  | nil => exact le_rfl
  | cons p ps ih =>
    rw [List.filter_cons]
    split <;> simp only [flatten_cons, List.length_append, List.length_map] <;> omega

theorem eraseIdx_shape {pre mid post : List PathAttribute} {a b : PathAttribute} :
    (pre ++ a :: (mid ++ b :: post)).eraseIdx (pre.length + 1 + mid.length) = pre ++ a :: (mid ++ post) := by
  rw [List.eraseIdx_append_of_length_le (by omega), show pre.length + 1 + mid.length - pre.length = mid.length + 1 by omega,
    List.eraseIdx_cons_succ, List.eraseIdx_append_of_length_le le_rfl, Nat.sub_self, List.eraseIdx_cons_zero]

end Merge

/-- `UpdatePathAttrs4ByteAs` on one AS_PATH of AS_SEQUENCEs before one AS4_PATH, when the
ASes it keeps and the AS4_PATH's fit in one segment's 255. -/
theorem updatePathAttrs4ByteAs_eq_merge {msg : BGPUpdate} {pre mid post : List PathAttribute}
    {v : List AsPathParamInterface} {v4 : List AsSegment}
    (hmsg : msg.pathAttributes = pre ++ .asPath v :: (mid ++ .as4Path v4 :: post))
    (hno : ∀ a ∈ pre ++ mid ++ post, a.isAsAttr = false) (hseq : ∀ p ∈ v, p.seg.type = .seq) (hne : v ≠ [])
    (hb : (flatten (v.map AsPathParamInterface.widen)).length -
        ((v4.filter fun p => !p.type.isConfed).map AsSegment.asLen).sum +
      (flatten (v4.filter fun p => !p.type.isConfed)).length ≤ 255) :
    ∃ newParams, updatePathAttrs4ByteAs msg =
        some { msg with pathAttributes := pre ++ .asPath (newParams.map .four) :: (mid ++ post) } ∧
      flatten newParams = rfc6793Merge (v.map AsPathParamInterface.widen) v4 := by
  have hw : ∀ p ∈ v.map AsPathParamInterface.widen, p.type = .seq := by
    simp only [List.mem_map, forall_exists_index, and_imp, forall_apply_eq_imp_iff₂]
    intro p hp
    have := hseq p hp
    cases p <;> simpa [AsPathParamInterface.widen, AsPathParamInterface.seg, newAs4PathParam] using this
  have hlen := sum_asLen_of_seq hw
  unfold updatePathAttrs4ByteAs
  rw [hmsg, locateFrom_shape hno]
  dsimp only
  rw [eraseIdx_shape, sum_confedLen_of_seq hw, Nat.add_zero, hlen]
  unfold rfc6793Merge
  rw [hlen]
  split
  · exact ⟨_, rfl, rfl⟩
  · next hge =>
    obtain ⟨r, hr, hf⟩ := graftParams_flatten (@keepParams_ne_nil (v.map AsPathParamInterface.widen)
      (by simpa using hne) ((flatten (v.map AsPathParamInterface.widen)).length -
        ((v4.filter fun p => !p.type.isConfed).map AsSegment.asLen).sum))
      (v4.filter fun p => !p.type.isConfed)
      (by rw [flatten_keepParams hw, List.length_take]; omega)
    rw [hr]
    dsimp only
    rw [if_pos (by simp), if_neg (by omega), List.set_set, List.set_append_right _ _ le_rfl, Nat.sub_self,
      List.set_cons_zero]
    exact ⟨r, rfl, by rw [hf, flatten_keepParams hw]⟩

/-- For one AS_PATH of AS_SEQUENCEs before one AS4_PATH, with at most 255 ASes between them,
`UpdatePathAttrs4ByteAs` replaces the AS_PATH by the RFC 6793 merge and drops the AS4_PATH;
every other attribute stays where it was. -/
theorem updatePathAttrs4ByteAs_merges {msg : BGPUpdate} {pre mid post : List PathAttribute}
    {v : List AsPathParamInterface} {v4 : List AsSegment}
    (hmsg : msg.pathAttributes = pre ++ .asPath v :: (mid ++ .as4Path v4 :: post))
    (hno : ∀ a ∈ pre ++ mid ++ post, a.isAsAttr = false) (hseq : ∀ p ∈ v, p.seg.type = .seq) (hne : v ≠ [])
    (hb : (flatten (v.map AsPathParamInterface.widen)).length + (flatten v4).length ≤ 255) :
    ∃ newParams, updatePathAttrs4ByteAs msg =
        some { msg with pathAttributes := pre ++ .asPath (newParams.map .four) :: (mid ++ post) } ∧
      flatten newParams = rfc6793Merge (v.map AsPathParamInterface.widen) v4 := by
  have hb4 := @length_flatten_filter_le v4 fun p => !p.type.isConfed
  exact updatePathAttrs4ByteAs_eq_merge hmsg hno hseq hne (by omega)

theorem updatePathAttrs4ByteAs_merges_old_speaker :
    ∃ newParams, updatePathAttrs4ByteAs ⟨[], [.origin 0, .asPath [.two ⟨.seq, 3, [65001, 23456, 65002]⟩],
        .as4Path [⟨.seq, 2, [70000, 65002]⟩], .localPref 100], []⟩ =
        some ⟨[], [.origin 0, .asPath (newParams.map .four), .localPref 100], []⟩ ∧
      flatten newParams = [(.seq, 65001), (.seq, 70000), (.seq, 65002)] := by
  obtain ⟨newParams, h, hf⟩ := @updatePathAttrs4ByteAs_merges ⟨[], [.origin 0,
    .asPath [.two ⟨.seq, 3, [65001, 23456, 65002]⟩], .as4Path [⟨.seq, 2, [70000, 65002]⟩], .localPref 100], []⟩
    [.origin 0] [] [.localPref 100] [.two ⟨.seq, 3, [65001, 23456, 65002]⟩] [⟨.seq, 2, [70000, 65002]⟩]
    rfl (by decide) (by decide) (by decide) (by decide)
  exact ⟨newParams, h, hf.trans (by decide)⟩

/-! ## Through an OLD speaker and back -/

section RoundTrip

variable {pre post : List PathAttribute} {segs : List AsSegment}

theorem findAsPath_cons_of_noAs {a : PathAttribute} (ha : a.isAsAttr = false) (l : List PathAttribute) :
    findAsPath (a :: l) = (findAsPath l).map fun (i, v) => (i + 1, v) := by
  cases a <;> first | rfl | cases ha

theorem findAsPath_shape (h : ∀ a ∈ pre, a.isAsAttr = false) (v : List AsPathParamInterface) :
    findAsPath (pre ++ .asPath v :: post) = some (pre.length, v) := by
  induction pre with
  | nil => rfl
  | cons a pre ih =>
    rw [List.cons_append, findAsPath_cons_of_noAs (h a (List.mem_cons_self _ _)),
      ih fun b hb => h b (List.mem_cons_of_mem _ hb)]
    rfl

theorem mapM_as4?_four : ∀ segs : List AsSegment, (segs.map .four).mapM AsPathParamInterface.as4? = some segs
  | [] => rfl
  | s :: segs => by rw [List.map_cons, mapM_as4?_cons, mapM_as4?_four segs]; rfl

theorem locateFrom_shape_noAs4 {v : List AsPathParamInterface} (hno : ∀ a ∈ pre ++ post, a.isAsAttr = false) :
    locateFrom 0 (pre ++ .asPath v :: post) =
      ⟨pre ++ .asPath ((v.map AsPathParamInterface.widen).map .four) :: post,
        some (pre.length, v.map AsPathParamInterface.widen), none⟩ := by
  rw [locateFrom_noAs_append (fun a ha => hno a (List.mem_append_left _ ha)), locateFrom,
    locateFrom_of_noAs (fun a ha => hno a (List.mem_append_right _ ha))]
  simp only [Nat.zero_add]
  rfl

theorem widen_two_as2Segment (p : AsSegment) : (AsPathParamInterface.two (as2Segment p)).widen = as2Segment p := by
  simp [AsPathParamInterface.widen, as2Segment, newAs4PathParam]

theorem updatePathAttrs2ByteAs_shape {msg : BGPUpdate}
    (hmsg : msg.pathAttributes = pre ++ .asPath (segs.map .four) :: post) (hpre : ∀ a ∈ pre, a.isAsAttr = false) :
    updatePathAttrs2ByteAs msg = some { msg with pathAttributes :=
      (if (segs.any fun p => p.AS.any (· > 65535)) then
        (pre ++ .asPath (segs.map fun p => .two (as2Segment p)) :: post) ++
          [.as4Path (segs.filter fun p => !p.type.isConfed)]
      else pre ++ .asPath (segs.map fun p => .two (as2Segment p)) :: post) } := by
  unfold updatePathAttrs2ByteAs
  rw [hmsg, findAsPath_shape hpre]
  simp only [mapM_as4?_four, Option.bind_eq_bind, Option.some_bind, Option.pure_def]
  rw [List.set_append_right _ _ le_rfl, Nat.sub_self, List.set_cons_zero]

theorem flatten_as2Segment_of_small (h : (segs.any fun p => p.AS.any (· > 65535)) = false) :
    flatten (segs.map as2Segment) = flatten segs := by
  simp only [List.any_eq_false, decide_eq_true_eq, not_lt, Bool.not_eq_true] at h
  rw [flatten_as2Segment]
  conv_rhs => rw [← List.map_id (flatten segs)]
  refine List.map_congr_left fun x hx => ?_
  obtain ⟨s, hs, hx⟩ : ∃ s ∈ segs, x ∈ s.AS.map (s.type, ·) := by simpa [flatten] using hx
  obtain ⟨a, ha, rfl⟩ := List.mem_map.mp hx
  simp [to2ByteAs, h s hs a ha]

/-- A 4-byte AS_PATH of AS_SEQUENCEs with at most 255 ASes, sent to an OLD speaker
(`UpdatePathAttrs2ByteAs`) and received back unchanged (`UpdatePathAttrs4ByteAs`), comes back
with every (type, AS) pair in place and every other attribute where it was. -/
theorem as4_round_trip {msg : BGPUpdate} (hmsg : msg.pathAttributes = pre ++ .asPath (segs.map .four) :: post)
    (hno : ∀ a ∈ pre ++ post, a.isAsAttr = false) (hseq : ∀ s ∈ segs, s.type = .seq) (hne : segs ≠ [])
    (hb : (flatten segs).length ≤ 255) :
    ∃ m newParams, updatePathAttrs2ByteAs msg = some m ∧
      updatePathAttrs4ByteAs m = some { msg with pathAttributes := pre ++ .asPath (newParams.map .four) :: post } ∧
      flatten newParams = flatten segs := by
  have h2 := updatePathAttrs2ByteAs_shape hmsg fun a ha => hno a (List.mem_append_left _ ha)
  have hfilter : (segs.filter fun p => !p.type.isConfed) = segs :=
    List.filter_eq_self.mpr fun p hp => by simp [hseq p hp, SegType.isConfed]
  have hw : (segs.map fun p => AsPathParamInterface.two (as2Segment p)).map AsPathParamInterface.widen =
      segs.map as2Segment := by
    simp [Function.comp_def, widen_two_as2Segment]
  have hlen : ((segs.map as2Segment).map AsSegment.asLen).sum = (flatten segs).length := by
    rw [sum_asLen_of_seq (by simpa [as2Segment, newAs4PathParam] using hseq), flatten_as2Segment, List.length_map]
  rw [hfilter] at h2
  split at h2
  · -- a 4-byte AS: AS4_PATH carries the whole path and the merge keeps none of AS_PATH
    have hseq2 : ∀ p ∈ segs.map fun p => AsPathParamInterface.two (as2Segment p), p.seg.type = .seq := by
      simp only [List.mem_map, forall_exists_index, and_imp, forall_apply_eq_imp_iff₂]
      exact fun p hp => by simp [AsPathParamInterface.seg, as2Segment, newAs4PathParam, hseq p hp]
    obtain ⟨newParams, h4, hf⟩ := @updatePathAttrs4ByteAs_eq_merge
      { msg with pathAttributes := (pre ++ .asPath (segs.map fun p => .two (as2Segment p)) :: post) ++ [.as4Path segs] }
      pre post [] _ segs (by simp) (by simpa using hno) hseq2 (by simpa using hne)
      (by rw [hw, hfilter, flatten_as2Segment, List.length_map, sum_asLen_of_seq hseq]; omega)
    refine ⟨_, newParams, h2, by rw [h4, List.append_nil], ?_⟩
    rw [hf, rfc6793Merge, hw, hfilter, hlen, sum_asLen_of_seq hseq, if_neg (Nat.lt_irrefl _), Nat.sub_self,
      List.take_zero, List.nil_append]
  · -- no 4-byte AS: no AS4_PATH, and widening the 2-byte AS_PATH restores it
    next hsmall =>
    refine ⟨_, segs.map as2Segment, h2, ?_, flatten_as2Segment_of_small (Bool.eq_false_iff.mpr hsmall)⟩
    unfold updatePathAttrs4ByteAs
    rw [locateFrom_shape_noAs4 hno]
    simp only [hw]

theorem as4_round_trip_four_byte_origin :
    ∃ m newParams, updatePathAttrs2ByteAs ⟨[], [.origin 0, .asPath [.four ⟨.seq, 2, [70000, 65002]⟩],
        .localPref 100], []⟩ = some m ∧
      updatePathAttrs4ByteAs m = some ⟨[], [.origin 0, .asPath (newParams.map .four), .localPref 100], []⟩ ∧
      flatten newParams = [(.seq, 70000), (.seq, 65002)] :=
  @as4_round_trip [.origin 0] [.localPref 100] [⟨.seq, 2, [70000, 65002]⟩]
    ⟨[], [.origin 0, .asPath [.four ⟨.seq, 2, [70000, 65002]⟩], .localPref 100], []⟩
    rfl (by decide) (by decide) (by decide) (by decide)

end RoundTrip

end GoBgp
