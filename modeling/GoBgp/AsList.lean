import GoBgp.PathUpdate

/-!
# The AS_PATH readers

`getAsListofSpecificType`, behind `GetAsList` and `GetAsSeqList`, and `GetSourceAs` read the
AS_PATH of a path. `prependAsn_readers`: on a path with a well-formed 4-byte AS_PATH,
`PrependAsn` puts the AS exactly `times` times in front of both lists below 255 copies, and
the source AS changes only when the path had no AS to begin with: prepending never changes
where a route comes from.
-/

namespace GoBgp

/-! ## The readers -/

/-- The ASes one segment adds in `getAsListofSpecificType`: all of them when the flags select
its type, else a single 0. -/
def segmentAsList (getAsSeq getAsSet : Bool) (segment : AsSegment) : List Nat :=
  if getAsSeq ∧ segment.type = .seq then segment.AS
  else if getAsSet ∧ segment.type = .set then segment.AS
  else [0]

/-- `getAsListofSpecificType`; the assertion `paramIf.(*bgp.As4PathParam)` panics on a 2-byte
segment. -/
def Path.getAsListofSpecificType (p : Path) (getAsSeq getAsSet : Bool) : Option (List Nat) :=
  match p.getAsPath with
  | none => some []
  | some v =>
    (v.mapM fun (paramIf : AsPathParamInterface) => paramIf.as4?.map (segmentAsList getAsSeq getAsSet)).map
      List.flatten

def Path.getAsList (p : Path) : Option (List Nat) := p.getAsListofSpecificType true true

def Path.getAsSeqList (p : Path) : Option (List Nat) := p.getAsListofSpecificType true false

/-- `GetSourceAs`: the AS at index `Num - 1` of the last segment; 0 without an AS_PATH, for an
empty one, or when that segment's `Num` is 0. The assertion `.(*bgp.As4PathParam)` panics on a
2-byte segment, and so does the index on a `Num` past the segment's ASes. -/
def Path.getSourceAs (p : Path) : Option Nat :=
  match p.getAsPath with
  | none => some 0
  | some v =>
    match v.getLast? with
    | none => some 0
    | some (.four asPath) => if asPath.num = 0 then some 0 else asPath.AS[asPath.num - 1]?
    | some (.two _) => none

/-! ## The readers on well-formed 4-byte segments -/

section Readers

variable {p : Path} {segs : List AsSegment}

theorem mapM_as4?_map_four (f : AsSegment → List Nat) :
    ∀ segs : List AsSegment,
      (segs.map .four).mapM (fun (paramIf : AsPathParamInterface) => paramIf.as4?.map f) = some (segs.map f)
  | [] => rfl
  | s :: segs => by
    rw [List.map_cons, List.mapM_cons, mapM_as4?_map_four f segs]
    rfl

theorem getAsListofSpecificType_four (hp : p.getAsPath.getD [] = segs.map .four) (getAsSeq getAsSet : Bool) :
    p.getAsListofSpecificType getAsSeq getAsSet = some (segs.flatMap (segmentAsList getAsSeq getAsSet)) := by
  unfold Path.getAsListofSpecificType
  cases hg : p.getAsPath with
  | none =>
    obtain rfl : segs = [] := by simpa [hg] using hp.symm
    rfl
  | some v =>
    obtain rfl : v = segs.map .four := by simpa [hg] using hp
    dsimp only
    rw [mapM_as4?_map_four]
    rfl

theorem getSourceAs_four (hp : p.getAsPath.getD [] = segs.map .four) (hwf : ∀ s ∈ segs, s.WellFormed) :
    p.getSourceAs = some ((segs.getLast?.bind (·.AS.getLast?)).getD 0) := by
  have hlast : (segs.map AsPathParamInterface.four).getLast? = segs.getLast?.map .four := by
    simp [List.getLast?_eq_getElem?]
  unfold Path.getSourceAs
  cases hg : p.getAsPath with
  | none =>
    obtain rfl : segs = [] := by simpa [hg] using hp.symm
    rfl
  | some v =>
    obtain rfl : v = segs.map .four := by simpa [hg] using hp
    dsimp only
    rw [hlast]
    cases hs : segs.getLast? with
    | none => rfl
    | some s =>
      obtain ⟨h1, -, h3⟩ := hwf s (List.mem_of_getLast?_eq_some hs)
      simp only [Option.map_some', Option.some_bind, h3, List.getLast?_eq_getElem?]
      rw [if_neg (by omega), List.getElem?_eq_getElem (by omega)]
      rfl

end Readers

/-! ## The readers after `PrependAsn` -/

section Prepend

variable {asns : List Nat} {segs : List AsSegment}

theorem flatMap_prependNewSeq (getAsSet : Bool) :
    (prependNewSeq asns segs).flatMap (segmentAsList true getAsSet) =
      asns ++ segs.flatMap (segmentAsList true getAsSet) := by
  unfold prependNewSeq
  split
  · simp [segmentAsList, newAs4PathParam]
  · next h => simp [List.eq_nil_of_length_eq_zero (by omega : asns.length = 0)]

theorem getLast?_prependNewSeq (hne : segs ≠ []) : (prependNewSeq asns segs).getLast? = segs.getLast? := by
  unfold prependNewSeq
  split
  · obtain ⟨s, rest, rfl⟩ := List.exists_cons_of_ne_nil hne
    exact List.getLast?_cons_cons
  · rfl

theorem prependSegs_seq {fst : AsSegment} {rest : List AsSegment} (hwf : fst.WellFormed) (hs : fst.type = .seq)
    (asn : Nat) (times : UInt8) :
    prependSegs asn times (fst :: rest) = some (prependNewSeq
      (if times.toNat = 255 then fst.AS
        else List.replicate (times.toNat - min times.toNat (255 - fst.AS.length)) asn)
      ({ fst with num := fst.AS.length + min times.toNat (255 - fst.AS.length),
                  AS := List.replicate (min times.toNat (255 - fst.AS.length)) asn ++ fst.AS } :: rest)) := by
  simp [prependSegs, hs, prependSeq_spec hwf]

theorem prependSegs_new (hs : ∀ fst rest, segs = fst :: rest → fst.type ≠ .seq) (asn : Nat) (times : UInt8) :
    prependSegs asn times segs = some (prependNewSeq (List.replicate times.toNat asn) segs) := by
  cases segs with
  | nil => rfl
  | cons fst rest => simp [prependSegs, hs fst rest rfl]

variable {asn : Nat} {times : UInt8} {segs' : List AsSegment}

theorem prependSegs_asList (hwf : ∀ s ∈ segs, s.WellFormed) (hs' : prependSegs asn times segs = some segs')
    (hlt : times.toNat < 255) (getAsSet : Bool) :
    segs'.flatMap (segmentAsList true getAsSet) =
      List.replicate times.toNat asn ++ segs.flatMap (segmentAsList true getAsSet) := by
  match segs, hwf, hs' with
  | fst :: rest, hwf, hs' =>
    by_cases hseq : fst.type = .seq
    · rw [prependSegs_seq (hwf fst (List.mem_cons_self _ _)) hseq, Option.some.injEq] at hs'
      subst hs'
      obtain ⟨-, h2, -⟩ := hwf fst (List.mem_cons_self _ _)
      rw [flatMap_prependNewSeq, if_neg (by omega)]
      simp only [List.flatMap_cons, segmentAsList, hseq, and_self, if_true, ← List.append_assoc,
        List.append_replicate_replicate]
      rw [Nat.sub_add_cancel (by omega)]
    · rw [prependSegs_new (by rintro _ _ ⟨rfl, rfl⟩; exact hseq), Option.some.injEq] at hs'
      rw [← hs', flatMap_prependNewSeq]
  | [], _, hs' =>
    rw [prependSegs_new (by rintro _ _ ⟨⟩), Option.some.injEq] at hs'
    rw [← hs', flatMap_prependNewSeq]

theorem prependSegs_lastAs (hwf : ∀ s ∈ segs, s.WellFormed) (hs' : prependSegs asn times segs = some segs') :
    (segs'.getLast?.bind (·.AS.getLast?)).getD 0 =
      if segs = [] ∧ 0 < times.toNat then asn else (segs.getLast?.bind (·.AS.getLast?)).getD 0 := by
  match segs, hwf, hs' with
  | [], _, hs' =>
    rw [prependSegs_new (by rintro _ _ ⟨⟩), Option.some.injEq] at hs'
    subst hs'
    by_cases ht : 0 < times.toNat
    · simp [prependNewSeq, ht, newAs4PathParam, List.getLast?_replicate, Nat.pos_iff_ne_zero.mp ht]
    · simp [prependNewSeq, ht]
  | fst :: rest, hwf, hs' =>
    simp only [List.cons_ne_nil, false_and, if_false]
    by_cases hseq : fst.type = .seq
    · rw [prependSegs_seq (hwf fst (List.mem_cons_self _ _)) hseq, Option.some.injEq] at hs'
      subst hs'
      rw [getLast?_prependNewSeq (List.cons_ne_nil _ _)]
      obtain ⟨h1, -, -⟩ := hwf fst (List.mem_cons_self _ _)
      cases rest with
      | nil =>
        obtain ⟨a, l, hfa⟩ := List.exists_cons_of_ne_nil (List.ne_nil_of_length_pos h1)
        simp [hfa, List.getLast?_cons]
      | cons s rest => simp
    · rw [prependSegs_new (by rintro _ _ ⟨rfl, rfl⟩; exact hseq), Option.some.injEq] at hs'
      rw [← hs', getLast?_prependNewSeq (List.cons_ne_nil _ _)]

end Prepend

/-- `PrependAsn` on a path whose own `dels` do not hide AS_PATH and whose AS_PATH segments are
well-formed 4-byte segments: below 255 copies, `GetAsList` and `GetAsSeqList` gain exactly
`times` copies of the AS in front; and the source AS only changes on a path with no AS, where
it becomes the prepended one. -/
theorem prependAsn_readers {p : Path} {segs : List AsSegment} (hdel : BGP_ATTR_TYPE_AS_PATH ∉ p.dels)
    (hp : p.getAsPath.getD [] = segs.map .four) (hwf : ∀ s ∈ segs, s.WellFormed) (asn : Nat) (times : UInt8) :
    ∃ p', p.prependAsn asn times = some p' ∧
      (times.toNat < 255 → ∀ getAsSet, p'.getAsListofSpecificType true getAsSet =
        (p.getAsListofSpecificType true getAsSet).map (List.replicate times.toNat asn ++ ·)) ∧
      p'.getSourceAs = if segs = [] ∧ 0 < times.toNat then some asn else p.getSourceAs := by
  obtain ⟨segs', hs', hwf', -⟩ := prependSegs_spec hwf asn times
  have hp' : (p.setPathAttr (.asPath (segs'.map .four))).getAsPath.getD [] = segs'.map .four := by
    rw [getAsPath_setPathAttr hdel]; rfl
  refine ⟨_, prependAsn_eq hp hwf hs', fun hlt getAsSet => ?_, ?_⟩
  · rw [getAsListofSpecificType_four hp', getAsListofSpecificType_four hp, Option.map_some',
      prependSegs_asList hwf hs' hlt]
  · rw [getSourceAs_four hp' hwf', getSourceAs_four hp hwf, prependSegs_lastAs hwf hs']
    split <;> rfl

theorem prependAsn_readers_three :
    ∃ p', pathAs12.prependAsn 7 3 = some p' ∧
      p'.getAsList = some [7, 7, 7, 1, 2] ∧ p'.getSourceAs = some 2 := by
  obtain ⟨p', h, hl, hs⟩ := @prependAsn_readers pathAs12 [⟨.seq, 2, [1, 2]⟩] (by decide) rfl (by decide) 7 3
  exact ⟨p', h, (hl (by decide) true).trans (by decide), hs.trans (by decide)⟩

end GoBgp
