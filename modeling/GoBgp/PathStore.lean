import GoBgp.PathUpdate

/-!
# A path's attributes as a store

A `Path` overlays its own `pathAttrs` and `dels` on its ancestors' levels; what it implements is
a map from attribute type to attribute. `path_store_refines`: `getPathAttr` reads that map over
every run that writes no type after deleting it on the same path, and `path_delete_hides` shows
the exception is real. The community setters refine list edits (`communities_edits_refine`),
and the paths the code builds only ever delete MED, LOCAL_PREF and COMMUNITIES.
-/

namespace GoBgp

/-! ## The store and its operations -/

/-- An operation of `path.go` on a path's attributes. -/
inductive AttrOp
  | set (a : PathAttribute)
  | del (typ : UInt8)
  | clone (isWithdraw : Bool)
  deriving DecidableEq, Repr

def Path.applyOp (p : Path) : AttrOp → Path
  | .set a => p.setPathAttr a
  | .del typ => p.delPathAttr typ
  | .clone isWithdraw => p.clone isWithdraw

def Path.applyOps : Path → List AttrOp → Path
  | p, [] => p
  | p, op :: ops => (p.applyOp op).applyOps ops

def AttrOp.onView (v : UInt8 → Option PathAttribute) : AttrOp → UInt8 → Option PathAttribute
  | .set a => fun t => if t = a.getType then some a else v t
  | .del typ => fun t => if t = typ then none else v t
  | .clone _ => v

def AttrOp.runView : (UInt8 → Option PathAttribute) → List AttrOp → UInt8 → Option PathAttribute
  | v, [] => v
  | v, op :: ops => AttrOp.runView (op.onView v) ops

/-- A write of a type the path itself deleted: its `dels` entry hides the write. -/
def AttrOp.hiddenOn (p : Path) : AttrOp → Bool
  | .set a => decide (a.getType ∈ p.dels)
  | _ => false

def AttrOp.isClone : AttrOp → Bool
  | .clone _ => true
  | _ => false

/-- No operation of the run writes a type that the path it writes deleted. -/
def Path.visible : Path → List AttrOp → Bool
  | _, [] => true
  | p, op :: ops => !(op.hiddenOn p) && (p.applyOp op).visible ops

/-! ## The overlay refines the map -/

theorem getPathAttr_of_mem_dels {p : Path} {t : UInt8} (h : t ∈ p.dels) : p.getPathAttr t = none := by
  simp [Path.getPathAttr, Path.levels, lookupAttr, h]

theorem getPathAttr_applyOp {p : Path} {op : AttrOp} (h : op.hiddenOn p = false) (t : UInt8) :
    (p.applyOp op).getPathAttr t = op.onView p.getPathAttr t := by
  cases op with
  | set a =>
    simp only [AttrOp.hiddenOn, decide_eq_false_iff_not] at h
    by_cases ht : t = a.getType
    · subst ht
      simp [Path.applyOp, AttrOp.onView, getPathAttr_setPathAttr, h]
    · simp [Path.applyOp, AttrOp.onView, getPathAttr_setPathAttr_ne p (Ne.symm ht), ht]
  | del u =>
    by_cases ht : t = u
    · subst ht
      simp [Path.applyOp, AttrOp.onView, getPathAttr_delPathAttr]
    · simp [Path.applyOp, AttrOp.onView, getPathAttr_delPathAttr_ne p (Ne.symm ht), ht]
  | clone w => exact getPathAttr_clone p w t

/-- Over every run that writes no type on a path that deleted it, the overlay reads as the
map the operations build. -/
theorem path_store_refines {p : Path} {ops : List AttrOp} (h : p.visible ops = true) (t : UInt8) :
    (p.applyOps ops).getPathAttr t = AttrOp.runView p.getPathAttr ops t := by
  induction ops generalizing p with
  | nil => rfl
  | cons op ops ih =>
    simp only [Path.visible, Bool.and_eq_true, Bool.not_eq_true'] at h
    have hview : (p.applyOp op).getPathAttr = op.onView p.getPathAttr := funext (getPathAttr_applyOp h.1)
    rw [Path.applyOps, AttrOp.runView, ih h.2, hview]

theorem path_store_refines_after_clone :
    pathCommunity1.visible [.del BGP_ATTR_TYPE_COMMUNITIES, .clone false, .set (.communities [2])] = true ∧
    (pathCommunity1.applyOps [.del BGP_ATTR_TYPE_COMMUNITIES, .clone false, .set (.communities [2])]).getPathAttr
      BGP_ATTR_TYPE_COMMUNITIES = some (.communities [2]) :=
  ⟨by decide, (path_store_refines (by decide) _).trans (by decide)⟩

/-! ## A deleted type stays hidden on its path -/

theorem dels_subset_applyOp {p : Path} {op : AttrOp} (h : op.isClone = false) : p.dels ⊆ (p.applyOp op).dels := by
  cases op with
  | set a => exact fun _ hx => hx
  | del u => exact List.subset_append_left _ _
  | clone w => cases h

theorem dels_subset_applyOps {p : Path} {ops : List AttrOp} (h : ∀ op ∈ ops, op.isClone = false) :
    p.dels ⊆ (p.applyOps ops).dels := by
  induction ops generalizing p with
  | nil => exact fun _ hx => hx
  | cons op ops ih =>
    exact (dels_subset_applyOp (h op (List.mem_cons_self _ _))).trans
      (ih fun o ho => h o (List.mem_cons_of_mem _ ho))

/-- Once a path has deleted a type, every run of writes and deletes on it reads nothing for
that type, whatever it writes. -/
theorem path_delete_hides {p : Path} {t : UInt8} (ht : t ∈ p.dels) {ops : List AttrOp}
    (hno : ∀ op ∈ ops, op.isClone = false) : (p.applyOps ops).getPathAttr t = none :=
  getPathAttr_of_mem_dels (dels_subset_applyOps hno ht)

theorem path_delete_hides_communities :
    BGP_ATTR_TYPE_COMMUNITIES ∈ (pathCommunity1.applyOp (.del BGP_ATTR_TYPE_COMMUNITIES)).dels ∧
    ((pathCommunity1.applyOp (.del BGP_ATTR_TYPE_COMMUNITIES)).applyOps
        [.set (.communities [2]), .set (.communities [3])]).getPathAttr BGP_ATTR_TYPE_COMMUNITIES = none :=
  ⟨by decide, path_delete_hides (by decide) (by decide)⟩

/-! ## Community lists -/

def BGP_ATTR_TYPE_EXTENDED_COMMUNITIES : UInt8 := 16

/-- `GetCommunities`: the values of the COMMUNITIES attribute the path reads, if any. -/
def Path.getCommunities (p : Path) : List Nat :=
  match p.getPathAttr BGP_ATTR_TYPE_COMMUNITIES with
  | some (.communities c) => c
  | _ => []

/-- `GetExtCommunities`: the values of the EXTENDED_COMMUNITIES attribute, if any. -/
def Path.getExtCommunities (p : Path) : List Nat :=
  match p.getPathAttr BGP_ATTR_TYPE_EXTENDED_COMMUNITIES with
  | some (.extendedCommunities l) => l
  | _ => []

/-- `SetExtCommunities`: the new values replace, or are appended to, those the path has. -/
def Path.setExtCommunities (p : Path) (exts : List Nat) (doReplace : Bool) : Path :=
  match p.getPathAttr BGP_ATTR_TYPE_EXTENDED_COMMUNITIES with
  | some (.extendedCommunities l) => p.setPathAttr (.extendedCommunities (if doReplace then exts else l ++ exts))
  | _ => p.setPathAttr (.extendedCommunities exts)

section Communities

variable {p : Path} {t : UInt8}

theorem getCommunities_of_getPathAttr {c : List Nat} (hc : p.getPathAttr BGP_ATTR_TYPE_COMMUNITIES = some (.communities c)) :
    p.getCommunities = c := by
  simp [Path.getCommunities, hc]

theorem getCommunities_setPathAttr (h : BGP_ATTR_TYPE_COMMUNITIES ∉ p.dels) (l : List Nat) :
    (p.setPathAttr (.communities l)).getCommunities = l :=
  getCommunities_of_getPathAttr (getPathAttr_setPathAttr_of_not_mem h (.communities l) rfl)

theorem getCommunities_delPathAttr : (p.delPathAttr BGP_ATTR_TYPE_COMMUNITIES).getCommunities = [] := by
  simp [Path.getCommunities, getPathAttr_delPathAttr]

theorem getCommunities_setCommunities (h : BGP_ATTR_TYPE_COMMUNITIES ∉ p.dels) (cs : List Nat) (doReplace : Bool) :
    (p.setCommunities cs doReplace).getCommunities = if doReplace then cs else p.getCommunities ++ cs := by
  unfold Path.setCommunities
  split
  · next hc =>
    obtain ⟨rfl, rfl⟩ := hc
    exact getCommunities_delPathAttr
  · rw [getCommunities_setPathAttr h]
    unfold Path.getCommunities
    split <;> cases doReplace <;> simp_all

theorem getPathAttr_setCommunities_ne (ht : t ≠ BGP_ATTR_TYPE_COMMUNITIES) (cs : List Nat) (doReplace : Bool) :
    (p.setCommunities cs doReplace).getPathAttr t = p.getPathAttr t := by
  unfold Path.setCommunities
  split
  · exact getPathAttr_delPathAttr_ne p (Ne.symm ht)
  · exact getPathAttr_setPathAttr_ne p (Ne.symm ht)

theorem dels_setCommunities (cs : List Nat) (doReplace : Bool) :
    (p.setCommunities cs doReplace).dels = p.dels ∨ (cs = [] ∧ doReplace = true) := by
  unfold Path.setCommunities
  split
  · exact .inr ‹_›
  · exact .inl rfl

theorem removeCommunities_of_getPathAttr {c cs : List Nat} (hcs : cs ≠ [])
    (hc : p.getPathAttr BGP_ATTR_TYPE_COMMUNITIES = some (.communities c)) :
    p.removeCommunities cs = (c.length - (c.filter (· ∉ cs)).length,
      if c.filter (· ∉ cs) ≠ [] then p.setPathAttr (.communities (c.filter (· ∉ cs)))
      else p.delPathAttr BGP_ATTR_TYPE_COMMUNITIES) := by
  simp only [Path.removeCommunities, if_neg hcs, hc]

theorem removeCommunities_of_not (cs : List Nat)
    (hc : ∀ c, p.getPathAttr BGP_ATTR_TYPE_COMMUNITIES ≠ some (.communities c)) :
    p.removeCommunities cs = (0, p) ∧ p.getCommunities = [] := by
  refine ⟨?_, ?_⟩
  · unfold Path.removeCommunities
    split
    · rfl
    · split
      · next _ c hc' => exact absurd hc' (hc c)
      · rfl
  · unfold Path.getCommunities
    split
    · next _ c hc' => exact absurd hc' (hc c)
    · rfl

theorem removeCommunities_spec (cs : List Nat) :
    (p.removeCommunities cs).1 = (p.getCommunities.filter (· ∈ cs)).length ∧
      (p.removeCommunities cs).2.getCommunities = p.getCommunities.filter (· ∉ cs) ∧
      ∀ t ≠ BGP_ATTR_TYPE_COMMUNITIES, (p.removeCommunities cs).2.getPathAttr t = p.getPathAttr t := by
  by_cases hcs : cs = []
  · subst hcs
    simp [Path.removeCommunities]
  by_cases hc : ∃ c, p.getPathAttr BGP_ATTR_TYPE_COMMUNITIES = some (.communities c)
  · obtain ⟨c, hc⟩ := hc
    have hdel := not_mem_dels_of_getPathAttr hc
    have hlen := List.length_eq_length_filter_add (fun x => decide (x ∈ cs)) (l := c)
    simp only [Bool.not_eq_true', decide_eq_false_iff_not] at hlen
    rw [removeCommunities_of_getPathAttr hcs hc, getCommunities_of_getPathAttr hc]
    refine ⟨by simp only [decide_not]; omega, ?_, fun t ht => ?_⟩
    · split
      · exact getCommunities_setPathAttr hdel _
      · next hnil => exact getCommunities_delPathAttr.trans (not_not.mp hnil).symm
    · split
      · exact getPathAttr_setPathAttr_ne p (Ne.symm ht)
      · exact getPathAttr_delPathAttr_ne p (Ne.symm ht)
  · obtain ⟨hrm, hget⟩ := removeCommunities_of_not cs (not_exists.mp hc)
    simp [hrm, hget]

theorem dels_removeCommunities (cs : List Nat) :
    (p.removeCommunities cs).2.dels = p.dels ∨ (p.removeCommunities cs).2.getCommunities = [] := by
  by_cases hcs : cs = []
  · subst hcs
    exact .inl rfl
  by_cases hc : ∃ c, p.getPathAttr BGP_ATTR_TYPE_COMMUNITIES = some (.communities c)
  · obtain ⟨c, hc⟩ := hc
    rw [removeCommunities_of_getPathAttr hcs hc]
    split
    · exact .inl rfl
    · exact .inr getCommunities_delPathAttr
  · rw [(removeCommunities_of_not cs (not_exists.mp hc)).1]
    exact .inl rfl

theorem getExtCommunities_of_getPathAttr {l : List Nat}
    (hl : p.getPathAttr BGP_ATTR_TYPE_EXTENDED_COMMUNITIES = some (.extendedCommunities l)) :
    p.getExtCommunities = l := by
  simp [Path.getExtCommunities, hl]

theorem getExtCommunities_setExtCommunities (h : BGP_ATTR_TYPE_EXTENDED_COMMUNITIES ∉ p.dels) (exts : List Nat)
    (doReplace : Bool) :
    (p.setExtCommunities exts doReplace).getExtCommunities = if doReplace then exts else p.getExtCommunities ++ exts := by
  have hset : ∀ l, (p.setPathAttr (.extendedCommunities l)).getExtCommunities = l := fun l =>
    getExtCommunities_of_getPathAttr (getPathAttr_setPathAttr_of_not_mem h (.extendedCommunities l) rfl)
  unfold Path.setExtCommunities
  split
  · next _ l hl =>
    rw [hset, getExtCommunities_of_getPathAttr hl]
  · next _ hl =>
    have hnil : p.getExtCommunities = [] := by
      unfold Path.getExtCommunities
      split
      · next _ l hl' => exact absurd hl' (hl l)
      · rfl
    rw [hset, hnil]
    cases doReplace <;> rfl

end Communities

/-! ## Runs of community edits -/

/-- A call of `SetCommunities` or `RemoveCommunities`. -/
inductive CommEdit
  | set (communities : List Nat) (doReplace : Bool)
  | remove (communities : List Nat)
  deriving DecidableEq, Repr

def Path.editCommunities (p : Path) : CommEdit → Path
  | .set cs doReplace => p.setCommunities cs doReplace
  | .remove cs => (p.removeCommunities cs).2

def Path.editsCommunities : Path → List CommEdit → Path
  | p, [] => p
  | p, e :: es => (p.editCommunities e).editsCommunities es

def CommEdit.onList (l : List Nat) : CommEdit → List Nat
  | .set cs doReplace => if doReplace then cs else l ++ cs
  | .remove cs => l.filter (· ∉ cs)

def CommEdit.runList : List Nat → List CommEdit → List Nat
  | l, [] => l
  | l, e :: es => CommEdit.runList (e.onList l) es

/-- No edit but the last leaves the list empty. -/
def CommEdit.keepsList : List Nat → List CommEdit → Bool
  | _, [] | _, [_] => true
  | l, e :: es => !(e.onList l).isEmpty && CommEdit.keepsList (e.onList l) es

section Edits

variable {p : Path}

theorem getCommunities_editCommunities (h : BGP_ATTR_TYPE_COMMUNITIES ∉ p.dels) (e : CommEdit) :
    (p.editCommunities e).getCommunities = e.onList p.getCommunities := by
  cases e with
  | set cs doReplace => exact getCommunities_setCommunities h cs doReplace
  | remove cs => exact (removeCommunities_spec cs).2.1

theorem getPathAttr_editCommunities_ne {t : UInt8} (ht : t ≠ BGP_ATTR_TYPE_COMMUNITIES) (e : CommEdit) :
    (p.editCommunities e).getPathAttr t = p.getPathAttr t := by
  cases e with
  | set cs doReplace => exact getPathAttr_setCommunities_ne ht cs doReplace
  | remove cs => exact (removeCommunities_spec cs).2.2 t ht

theorem not_mem_dels_editCommunities (h : BGP_ATTR_TYPE_COMMUNITIES ∉ p.dels) {e : CommEdit}
    (hne : (p.editCommunities e).getCommunities ≠ []) :
    BGP_ATTR_TYPE_COMMUNITIES ∉ (p.editCommunities e).dels := by
  cases e with
  | set cs doReplace =>
    rcases dels_setCommunities (p := p) cs doReplace with hd | ⟨rfl, rfl⟩
    · exact hd ▸ h
    · simp [getCommunities_editCommunities h, CommEdit.onList] at hne
  | remove cs =>
    rcases dels_removeCommunities (p := p) cs with hd | hd
    · exact hd ▸ h
    · exact absurd hd hne

/-- A run of community edits on a path that has not deleted COMMUNITIES, in which the list
runs out at the last edit at the earliest, reads back as the list operations and leaves every
other attribute as it was. -/
theorem communities_edits_refine (h : BGP_ATTR_TYPE_COMMUNITIES ∉ p.dels) {es : List CommEdit}
    (hkeep : CommEdit.keepsList p.getCommunities es = true) :
    (p.editsCommunities es).getCommunities = CommEdit.runList p.getCommunities es ∧
      ∀ t ≠ BGP_ATTR_TYPE_COMMUNITIES, (p.editsCommunities es).getPathAttr t = p.getPathAttr t := by
  induction es generalizing p with
  | nil => exact ⟨rfl, fun _ _ => rfl⟩
  | cons e es ih =>
    have hget := getCommunities_editCommunities h e
    obtain ⟨hl, hframe⟩ : (p.editCommunities e |>.editsCommunities es).getCommunities =
        CommEdit.runList (p.editCommunities e).getCommunities es ∧
        ∀ t ≠ BGP_ATTR_TYPE_COMMUNITIES, (p.editCommunities e |>.editsCommunities es).getPathAttr t =
          (p.editCommunities e).getPathAttr t := by
      cases es with
      | nil => exact ⟨rfl, fun _ _ => rfl⟩
      | cons e' es' =>
        simp only [CommEdit.keepsList, Bool.and_eq_true, Bool.not_eq_true', List.isEmpty_eq_false] at hkeep
        refine ih (not_mem_dels_editCommunities h (hget ▸ ?_)) (hget ▸ hkeep.2)
        exact List.ne_nil_of_length_pos (List.length_pos_of_ne_nil (by simpa using hkeep.1))
    refine ⟨hl.trans (by rw [hget]; rfl), fun t ht => (hframe t ht).trans (getPathAttr_editCommunities_ne ht e)⟩

/-- An announcement with COMMUNITIES 1 2 and LOCAL_PREF 100. -/
def pathCommunities12 : Path := samplePath prefix10 false [.communities [1, 2], .localPref 100] []

theorem communities_edits_refine_three :
    (pathCommunities12.editsCommunities [.set [3] false, .remove [1], .set [] true]).getCommunities = [] :=
  (@communities_edits_refine pathCommunities12 (by decide) [.set [3] false, .remove [1], .set [] true]
    (by decide)).1.trans (by decide)

end Edits

/-! ## What the code deletes -/

/-- The methods of `Path` that change what it reads: `Clone`, `SetCommunities`,
`RemoveCommunities`, `SetExtCommunities`, `SetMed`, `SetNexthop`, `PrependAsn` and
`UpdatePathAttrs`. -/
inductive PathCall
  | clone (isWithdraw : Bool)
  | setCommunities (communities : List Nat) (doReplace : Bool)
  | removeCommunities (communities : List Nat)
  | setExtCommunities (exts : List Nat) (doReplace : Bool)
  | setMed (med : Int) (doReplace : Bool)
  | setNexthop (nexthop : List UInt8)
  | prependAsn (asn : Nat) (times : UInt8)
  | updatePathAttrs (global : Global) (peer : PeerConfig)
  deriving DecidableEq, Repr

/-- A call on the newest path of its chain: `Clone` gives the child, a `SetMed` that returns an
error leaves the path as it was, and a panic of `PrependAsn` is `none`. -/
def Path.call (p : Path) : PathCall → Option Path
  | .clone isWithdraw => some (p.clone isWithdraw)
  | .setCommunities cs doReplace => some (p.setCommunities cs doReplace)
  | .removeCommunities cs => some (p.removeCommunities cs).2
  | .setExtCommunities exts doReplace => some (p.setExtCommunities exts doReplace)
  | .setMed med doReplace => some ((p.setMed med doReplace).toOption.getD p)
  | .setNexthop nexthop => some (p.setNexthop nexthop)
  | .prependAsn asn times => p.prependAsn asn times
  | .updatePathAttrs global peer => p.updatePathAttrs global peer

def Path.calls (p : Path) : List PathCall → Option Path
  | [] => some p
  | c :: cs => (p.call c).bind (·.calls cs)

/-- The types `delPathAttr` is called with in `path.go`: MED and LOCAL_PREF by
`UpdatePathAttrs`, COMMUNITIES by `SetCommunities` and `RemoveCommunities`. -/
def deletedTypes : List UInt8 :=
  [BGP_ATTR_TYPE_MULTI_EXIT_DISC, BGP_ATTR_TYPE_LOCAL_PREF, BGP_ATTR_TYPE_COMMUNITIES]

/-- A path's own `dels` hold only types the code deletes. -/
def Path.DelsOk (p : Path) : Prop := ∀ t ∈ p.dels, t ∈ deletedTypes

namespace Path.DelsOk

variable {p q : Path}

theorem of_dels_eq (h : p.DelsOk) (hd : q.dels = p.dels) : q.DelsOk := fun t ht => h t (hd ▸ ht)

theorem delPathAttr {t : UInt8} (h : p.DelsOk) (ht : t ∈ deletedTypes) : (p.delPathAttr t).DelsOk := fun u hu => by
  rcases List.mem_append.mp hu with hu | hu
  · exact h u hu
  · exact List.mem_singleton.mp hu ▸ ht

theorem delIf {t : UInt8} (h : p.DelsOk) (ht : t ∈ deletedTypes) (c : Prop) [Decidable c] :
    (if c then p.delPathAttr t else p).DelsOk := by
  split
  · exact h.delPathAttr ht
  · exact h

theorem prependAsn {asn : Nat} {times : UInt8} (h : p.DelsOk) (hq : p.prependAsn asn times = some q) : q.DelsOk :=
  h.of_dels_eq (prependAsn_dels hq)

theorem updateExternal {global : Global} {peer : PeerConfig} (h : p.DelsOk)
    (hq : p.updateExternal global peer = some q) : q.DelsOk := by
  unfold Path.updateExternal at hq
  obtain ⟨p2, hp2, hq⟩ := Option.bind_eq_some.mp hq
  rw [← Option.some.inj hq]
  exact (((h.of_dels_eq (p.setNexthop_dels_info _).1).prependAsn hp2).delIf (by decide) _).delIf (by decide) _

theorem updateInternal {peer : PeerConfig} (h : p.DelsOk) (hq : p.updateInternal peer = some q) : q.DelsOk := by
  unfold Path.updateInternal at hq
  dsimp only at hq
  -- `p1`: the path after the next hop step
  generalize hp1 : (if p.isLocal ∧ (ipEqual p.getNexthop (v4InV6Prefix ++ [0, 0, 0, 0]) ∨
    ipEqual p.getNexthop (List.replicate 16 0)) then p.setNexthop peer.localAddress else p) = p1 at hq
  have h1 : p1.DelsOk := hp1 ▸ h.of_dels_eq (setNexthopIf_frame p _ _).1
  -- `p2`: the path after the AS_PATH step; LOCAL_PREF and route reflection only write
  split at hq
  all_goals
    obtain ⟨p2, hp2, hq⟩ := Option.bind_eq_some.mp hq
    have h2 : p2.DelsOk := by
      first
      | exact h1.prependAsn hp2
      | exact Option.some.inj hp2 ▸ h1
    rw [← Option.some.inj hq]
    split
    · exact of_dels_eq (by split <;> exact h2) (Path.reflect_dels _ _)
    · split <;> exact h2

theorem updatePathAttrs {global : Global} {peer : PeerConfig} (h : p.DelsOk)
    (hq : p.updatePathAttrs global peer = some q) : q.DelsOk := by
  unfold Path.updatePathAttrs at hq
  split at hq
  · exact Option.some.inj hq ▸ h
  split at hq
  · exact h.updateExternal hq
  · exact h.updateInternal hq
  · exact Option.some.inj hq ▸ h

theorem call {c : PathCall} (h : p.DelsOk) (hq : p.call c = some q) : q.DelsOk := by
  cases c with
  | clone => exact Option.some.inj hq ▸ nofun
  | setCommunities cs doReplace =>
    rw [← Option.some.inj hq]
    unfold Path.setCommunities
    split
    · exact h.delPathAttr (by decide)
    · exact h
  | removeCommunities cs =>
    rw [← Option.some.inj hq]
    unfold Path.removeCommunities
    split
    · exact h
    · split
      · dsimp only
        split
        · exact h
        · exact h.delPathAttr (by decide)
      · exact h
  | setExtCommunities exts doReplace =>
    rw [← Option.some.inj hq]
    unfold Path.setExtCommunities
    split <;> exact h
  | setMed med doReplace =>
    rw [← Option.some.inj hq]
    unfold Path.setMed
    cases parseMed p.currentMed med doReplace <;> exact h
  | setNexthop nexthop => exact Option.some.inj hq ▸ h.of_dels_eq (p.setNexthop_dels_info nexthop).1
  | prependAsn asn times => exact h.prependAsn hq
  | updatePathAttrs global peer => exact h.updatePathAttrs hq

theorem calls {cs : List PathCall} (h : p.DelsOk) (hq : p.calls cs = some q) : q.DelsOk := by
  induction cs generalizing p with
  | nil => exact Option.some.inj hq ▸ h
  | cons c cs ih =>
    obtain ⟨p₁, h₁, h₂⟩ := Option.bind_eq_some.mp hq
    exact ih (h.call h₁) h₂

end Path.DelsOk

theorem newPath_delsOk {source : PeerInfo} {nlri : AddrPrefix} {isWithdraw : Bool}
    {pattrs : Option (List PathAttribute)} {noImplicitWithdraw : Bool} {p : Path}
    (h : newPath source nlri isWithdraw pattrs noImplicitWithdraw = some p) : p.DelsOk := by
  unfold newPath at h
  split at h
  · cases h
  · exact Option.some.inj h ▸ nofun

/-- No path the code builds hides AS_PATH in its own `dels`: `delPathAttr` is never called
with AS_PATH. -/
theorem asPath_not_mem_dels_calls {source : PeerInfo} {nlri : AddrPrefix} {isWithdraw : Bool}
    {pattrs : Option (List PathAttribute)} {noImplicitWithdraw : Bool} {p₀ p : Path} {cs : List PathCall}
    (hnew : newPath source nlri isWithdraw pattrs noImplicitWithdraw = some p₀) (hcs : p₀.calls cs = some p) :
    BGP_ATTR_TYPE_AS_PATH ∉ p.dels := fun h =>
  absurd ((newPath_delsOk hnew).calls hcs _ h) (by decide)

/-- The EBGP rewrite of every path built by `NewPath` and a run of `Path` calls whose AS_PATH
segments are well-formed: the next hops the path reads become the local address, the AS_PATH is
the global AS followed by the old one, MED stays only on a local path and LOCAL_PREF only
towards a confederation member, and every other type reads as before. -/
theorem updatePathAttrs_external_of_calls {source : PeerInfo} {nlri : AddrPrefix} {isWithdraw : Bool}
    {pattrs : Option (List PathAttribute)} {noImplicitWithdraw : Bool} {p₀ p : Path} {cs : List PathCall}
    (hnew : newPath source nlri isWithdraw pattrs noImplicitWithdraw = some p₀) (hcs : p₀.calls cs = some p)
    {segs : List AsSegment} (hp : p.getAsPath.getD [] = segs.map .four) (hwf : ∀ s ∈ segs, s.WellFormed)
    (global : Global) {peer : PeerConfig} (hrs : peer.routeServerClient = false) (hext : peer.peerType = .external) :
    ∃ p' segs', p.updatePathAttrs global peer = some p' ∧ p'.getAsPath = some (segs'.map .four) ∧
      flatten segs' = (.seq, global.AS) :: flatten segs ∧
      (∀ v, p.getPathAttr BGP_ATTR_TYPE_NEXT_HOP = some (.nextHop v) →
        p'.getPathAttr BGP_ATTR_TYPE_NEXT_HOP = some (.nextHop peer.localAddress)) ∧
      (∀ x v, p.getPathAttr BGP_ATTR_TYPE_MP_REACH_NLRI = some (.mpReachNLRI x v) →
        p'.getPathAttr BGP_ATTR_TYPE_MP_REACH_NLRI = some (.mpReachNLRI peer.localAddress v)) ∧
      p'.getPathAttr BGP_ATTR_TYPE_MULTI_EXIT_DISC =
        (if p.isLocal then p.getPathAttr BGP_ATTR_TYPE_MULTI_EXIT_DISC else none) ∧
      p'.getPathAttr BGP_ATTR_TYPE_LOCAL_PREF =
        (if peer.confederationMember then p.getPathAttr BGP_ATTR_TYPE_LOCAL_PREF else none) ∧
      ∀ t, t ∉ [BGP_ATTR_TYPE_AS_PATH, BGP_ATTR_TYPE_NEXT_HOP, BGP_ATTR_TYPE_MP_REACH_NLRI,
        BGP_ATTR_TYPE_MULTI_EXIT_DISC, BGP_ATTR_TYPE_LOCAL_PREF] → p'.getPathAttr t = p.getPathAttr t := by
  rw [updatePathAttrs_eq_updateExternal global hrs hext]
  exact updateExternal_spec (asPath_not_mem_dels_calls hnew hcs) hp hwf global peer

theorem updatePathAttrs_external_of_calls_clone :
    ∃ p₀ p, newPath samplePeer (.ipv4 prefix10) false (some pathAs12Med5.pathAttrs) false = some p₀ ∧
      p₀.calls [.clone false, .setMed 7 true] = some p ∧
      ∃ p' segs', p.updatePathAttrs sampleGlobal ebgpPeer = some p' ∧
        flatten segs' = [(.seq, 65001), (.seq, 1), (.seq, 2)] ∧ p'.getPathAttr BGP_ATTR_TYPE_MULTI_EXIT_DISC = none :=
  ⟨_, _, rfl, rfl,
    match @updatePathAttrs_external_of_calls samplePeer (.ipv4 prefix10) false (some pathAs12Med5.pathAttrs) false _ _
      [.clone false, .setMed 7 true] rfl rfl [⟨.seq, 2, [1, 2]⟩] (by decide) (by decide) sampleGlobal ebgpPeer rfl rfl with
    | ⟨p', segs', h, _, hf, _, _, hmed, _⟩ => ⟨p', segs', h, hf, hmed⟩⟩

end GoBgp
