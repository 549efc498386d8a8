import GoBgp.Packet

/-!
# Paths and their attribute overlay

A `Path` reads its attributes through the chain of its parents: `Clone` starts a child with
no attributes of its own, `setPathAttr` and `delPathAttr` edit the path they are called on,
and the lookups walk from the path to the root. The chain is the list of the levels'
own `pathAttrs` and `dels`, nearest first; `originInfo` is the root's.
-/

namespace GoBgp

/-! ## Bitmap -/

/-- `Bitmap`: bit `i` is bit `i % 64` of word `i / 64`. -/
structure Bitmap where
  words : List UInt64
  deriving DecidableEq, Repr

def Bitmap.flag (b : Bitmap) (i : Nat) : Bitmap :=
  ⟨b.words.modify (· ||| (1 : UInt64) <<< (i % 64).toUInt64) (i / 64)⟩

def Bitmap.unflag (b : Bitmap) (i : Nat) : Bitmap :=
  ⟨b.words.modify (· &&& ~~~((1 : UInt64) <<< (i % 64).toUInt64)) (i / 64)⟩

def Bitmap.getFlag (b : Bitmap) (i : Nat) : Bool :=
  (b.words.getD (i / 64) 0 &&& (1 : UInt64) <<< (i % 64).toUInt64) > 0

def newBitmap (size : Nat) : Bitmap := ⟨List.replicate ((size + 64 - 1) / 64) 0⟩

theorem one_shiftLeft_toNat {k : Nat} (hk : k < 64) : ((1 : UInt64) <<< k.toUInt64).toNat = 2 ^ k := by
  have hk' : (k.toUInt64 % 64).toNat = k := by
    rw [UInt64.toNat_mod, Nat.toUInt64, UInt64.toNat_ofNat_of_lt (by simp [UInt64.size]; omega)]
    exact Nat.mod_eq_of_lt (by simpa using hk)
  show (1#64 <<< (k.toUInt64 % 64).toNat).toNat = 2 ^ k
  rw [BitVec.toNat_shiftLeft, hk', BitVec.toNat_ofNat, show 1 % 2 ^ 64 = 1 from rfl, Nat.one_shiftLeft]
  exact Nat.mod_eq_of_lt (Nat.pow_lt_pow_right (by decide : 1 < 2) hk)

theorem testBit_and_two_pow (w k : Nat) : 0 < w &&& 2 ^ k ↔ w.testBit k := by
  constructor
  · intro h
    by_contra hb
    have : w &&& 2 ^ k = 0 := Nat.eq_of_testBit_eq fun i => by
      simp only [Nat.testBit_and, Nat.testBit_two_pow, Nat.zero_testBit]
      by_cases hi : k = i
      · subst hi; simpa using hb
      · simp [hi]
    omega
  · intro h
    apply Nat.pos_of_ne_zero
    intro h0
    have := congrArg (Nat.testBit · k) h0
    simp [Nat.testBit_and, h] at this

theorem word_getFlag (w : UInt64) {k : Nat} (hk : k < 64) :
    (w &&& (1 : UInt64) <<< k.toUInt64 > 0) ↔ w.toNat.testBit k := by
  rw [gt_iff_lt, UInt64.lt_def, BitVec.lt_def]
  change 0 < (w &&& (1 : UInt64) <<< k.toUInt64).toNat ↔ _
  rw [UInt64.and_toNat, one_shiftLeft_toNat hk]
  exact testBit_and_two_pow _ _

theorem word_flag_testBit (w : UInt64) {k : Nat} (hk : k < 64) (m : Nat) :
    (w ||| (1 : UInt64) <<< k.toUInt64).toNat.testBit m = (w.toNat.testBit m || decide (k = m)) := by
  show (w.toBitVec ||| ((1 : UInt64) <<< k.toUInt64).toBitVec).toNat.testBit m = _
  rw [BitVec.toNat_or]
  change (w.toNat ||| ((1 : UInt64) <<< k.toUInt64).toNat).testBit m = _
  rw [one_shiftLeft_toNat hk, Nat.testBit_or, Nat.testBit_two_pow]

theorem word_unflag_testBit (w : UInt64) {k : Nat} (hk : k < 64) (m : Nat) :
    (w &&& ~~~((1 : UInt64) <<< k.toUInt64)).toNat.testBit m = (w.toNat.testBit m && !decide (k = m)) := by
  change (w.toBitVec &&& ~~~((1 : UInt64) <<< k.toUInt64).toBitVec).getLsbD m = _
  rw [BitVec.getLsbD_and, BitVec.getLsbD_not, ← BitVec.testBit_toNat, ← BitVec.testBit_toNat]
  change (w.toNat.testBit m && (decide (m < 64) && !((1 : UInt64) <<< k.toUInt64).toNat.testBit m)) = _
  rw [one_shiftLeft_toNat hk, Nat.testBit_two_pow]
  by_cases hm : m < 64
  · simp [hm]
  · -- a word has no bit at 64 or above
    have hw : w.toNat.testBit m = false := w.toBitVec.getLsbD_ge m (by omega)
    simp [hm, hw]

theorem Bitmap.getFlag_eq (b : Bitmap) (i : Nat) :
    b.getFlag i = (b.words.getD (i / 64) 0).toNat.testBit (i % 64) := by
  rw [Bitmap.getFlag, Bool.eq_iff_iff, decide_eq_true_iff, word_getFlag _ (Nat.mod_lt i (by decide))]

theorem Bitmap.length_flag (b : Bitmap) (i : Nat) : (b.flag i).words.length = b.words.length :=
  List.length_modify _ _ _

theorem Bitmap.getFlag_modify {b : Bitmap} {i : Nat} (hi : i / 64 < b.words.length) (f : UInt64 → UInt64)
    (j : Nat) : (⟨b.words.modify f (i / 64)⟩ : Bitmap).getFlag j =
      if i / 64 = j / 64 then (f (b.words.getD (i / 64) 0)).toNat.testBit (j % 64) else b.getFlag j := by
  rw [Bitmap.getFlag_eq, Bitmap.getFlag_eq]
  simp only [List.getD_eq_getElem?_getD, List.getElem?_modify]
  split
  · rename_i hq
    rw [← hq, List.getElem?_eq_getElem hi]
    rfl
  · simp only [Option.map_eq_map, Option.map_id']

theorem Bitmap.getFlag_flag {b : Bitmap} {i : Nat} (hi : i / 64 < b.words.length) (j : Nat) :
    (b.flag i).getFlag j = (decide (i = j) || b.getFlag j) := by
  rw [Bitmap.flag, Bitmap.getFlag_modify hi]
  split
  · rename_i hq
    rw [word_flag_testBit _ (Nat.mod_lt i (by decide)), Bitmap.getFlag_eq, hq, Bool.or_comm]
    congr 1
    exact decide_eq_decide.mpr (by omega)
  · rename_i hq
    have : i ≠ j := fun h => hq (h ▸ rfl)
    simp [this]

theorem Bitmap.getFlag_unflag {b : Bitmap} {i : Nat} (hi : i / 64 < b.words.length) (j : Nat) :
    (b.unflag i).getFlag j = (!decide (i = j) && b.getFlag j) := by
  rw [Bitmap.unflag, Bitmap.getFlag_modify hi]
  split
  · rename_i hq
    rw [word_unflag_testBit _ (Nat.mod_lt i (by decide)), Bitmap.getFlag_eq, hq, Bool.and_comm]
    congr 2
    exact decide_eq_decide.mpr (by omega)
  · rename_i hq
    have : i ≠ j := fun h => hq (h ▸ rfl)
    simp [this]

theorem Bitmap.getFlag_flag_type {b : Bitmap} (hb : 4 ≤ b.words.length) (t u : UInt8) :
    (b.flag t.toNat).getFlag u.toNat = (decide (t = u) || b.getFlag u.toNat) := by
  have ht : t.toNat < 256 := t.toNat_lt_size
  rw [Bitmap.getFlag_flag (by omega)]
  congr 1
  exact decide_eq_decide.mpr ⟨UInt8.toNat.inj, congrArg _⟩

theorem newBitmap_length : (newBitmap 255).words.length = 4 := rfl

theorem newBitmap_zero (size : Nat) : ∀ w ∈ (newBitmap size).words, w = 0 :=
  fun _ h => List.eq_of_mem_replicate h

theorem newBitmap_length_ceil (size : Nat) :
    size ≤ 64 * (newBitmap size).words.length ∧ 64 * (newBitmap size).words.length < size + 64 := by
  simp only [newBitmap, List.length_replicate]
  omega

theorem newBitmap_getFlag {size : Nat} (i : Nat) : (newBitmap size).getFlag i = false := by
  have hw : (newBitmap size).words.getD (i / 64) 0 = 0 := by
    simp only [newBitmap, List.getD_eq_getElem?_getD, List.getElem?_replicate]
    split <;> rfl
  rw [Bitmap.getFlag_eq, hw, UInt64.toNat_zero, Nat.zero_testBit]

theorem newBitmap_maxUint8_type (t : UInt8) : t.toNat / 64 < (newBitmap 255).words.length := by
  have : t.toNat < 256 := t.toNat_lt_size
  rw [newBitmap_length]
  omega

/-- The bitmap of `GetPathAttrs`. On a bitmap of `w` words, for indices below `64 * w`, `Flag(i)`
sets bit `i`, `Unflag(i)` clears it, and no other bit changes. `NewBitmap(size)` is `⌈size / 64⌉`
zero words, so every index below `64 * ⌈size / 64⌉` selects one of them, and every attribute
type selects a word of `NewBitmap(math.MaxUint8)`. -/
theorem bitmap_flag_unflag_newBitmap :
    (∀ (b : Bitmap) (i j : Nat), i < 64 * b.words.length → j < 64 * b.words.length →
      (b.flag i).getFlag j = (decide (j = i) || b.getFlag j) ∧
      (b.unflag i).getFlag j = (decide (j ≠ i) && b.getFlag j)) ∧
    (∀ size, (∀ w ∈ (newBitmap size).words, w = 0) ∧
      size ≤ 64 * (newBitmap size).words.length ∧ 64 * (newBitmap size).words.length < size + 64 ∧
      ∀ i, i < 64 * (newBitmap size).words.length → i / 64 < (newBitmap size).words.length) ∧
    ∀ t : UInt8, t.toNat / 64 < (newBitmap 255).words.length := by
  refine ⟨fun b i j hi _ => ?_, fun size => ⟨newBitmap_zero size, (newBitmap_length_ceil size).1,
    (newBitmap_length_ceil size).2, fun i hi => by omega⟩, newBitmap_maxUint8_type⟩
  have hji : decide (j = i) = decide (i = j) := decide_eq_decide.mpr eq_comm
  rw [Bitmap.getFlag_flag (by omega), Bitmap.getFlag_unflag (by omega), decide_not, hji]
  exact ⟨rfl, rfl⟩

theorem bitmap_flag_unflag_newBitmap_last :
    255 < 64 * (newBitmap 255).words.length ∧
      ((newBitmap 255).flag 255).getFlag 255 = (decide (255 = 255) || (newBitmap 255).getFlag 255) ∧
      ((newBitmap 255).unflag 255).getFlag 255 = (decide (255 ≠ 255) && (newBitmap 255).getFlag 255) :=
  ⟨by decide, bitmap_flag_unflag_newBitmap.1 (newBitmap 255) 255 255 (by decide) (by decide)⟩

/-! ## Paths -/

/-- The source fields of `PeerInfo` that the modelled code reads. `Address` is `nil` for a
locally originated path. -/
structure PeerInfo where
  AS : Nat
  localAS : Nat
  ID : List UInt8
  address : Option (List UInt8)
  deriving DecidableEq, Repr

/-- The root's `originInfo` fields that the modelled code reads. -/
structure OriginInfo where
  nlri : AddrPrefix
  source : PeerInfo
  noImplicitWithdraw : Bool
  deriving DecidableEq, Repr

structure Level where
  pathAttrs : List PathAttribute
  dels : List UInt8
  deriving DecidableEq, Repr

/-- A path: its own fields, its ancestors' levels nearest first, and the root's origin. -/
structure Path where
  info : OriginInfo
  isWithdraw : Bool
  pathAttrs : List PathAttribute
  dels : List UInt8
  parents : List Level
  deriving DecidableEq, Repr

def Path.levels (p : Path) : List Level := ⟨p.pathAttrs, p.dels⟩ :: p.parents

/-- `NewPath`: a non-withdrawal needs attributes (`pattrs == nil` is `none` here). -/
def newPath (source : PeerInfo) (nlri : AddrPrefix) (isWithdraw : Bool)
    (pattrs : Option (List PathAttribute)) (noImplicitWithdraw : Bool) : Option Path :=
  if !isWithdraw ∧ pattrs = none then none
  else some ⟨⟨nlri, source, noImplicitWithdraw⟩, isWithdraw, pattrs.getD [], [], []⟩

/-- `Clone`: a child with empty `pathAttrs` and `dels` whose parent is `p`. -/
def Path.clone (p : Path) (isWithdraw : Bool) : Path :=
  ⟨p.info, isWithdraw, [], [], p.levels⟩

/-- The lookup of `getPathAttr` over a chain: a level's `dels` hide the type before its
`pathAttrs` are read. -/
def lookupAttr (typ : UInt8) : List Level → Option PathAttribute
  | [] => none
  | l :: ls =>
    if typ ∈ l.dels then none
    else match l.pathAttrs.find? (·.getType == typ) with
      | some a => some a
      | none => lookupAttr typ ls

def Path.getPathAttr (p : Path) (typ : UInt8) : Option PathAttribute := lookupAttr typ p.levels

/-- One level's attribute loop of `GetPathAttrs`: keep each attribute whose type is not yet
flagged in `seen`, and flag it. -/
def collectAttrs : Bitmap → List PathAttribute → List PathAttribute × Bitmap
  | seen, [] => ([], seen)
  | seen, a :: attrs =>
    if seen.getFlag a.getType.toNat then collectAttrs seen attrs
    else
      let r := collectAttrs (seen.flag a.getType.toNat) attrs
      (a :: r.1, r.2)

/-- The walk of `GetPathAttrs`: at each level flag the `dels`, then collect. -/
def getPathAttrsFrom (seen : Bitmap) : List Level → List PathAttribute
  | [] => []
  | l :: ls =>
    let r := collectAttrs (l.dels.foldl (fun b t => b.flag t.toNat) seen) l.pathAttrs
    r.1 ++ getPathAttrsFrom r.2 ls

/-- `GetPathAttrs`, with `seen := NewBitmap(math.MaxUint8)`. -/
def Path.getPathAttrs (p : Path) : List PathAttribute :=
  getPathAttrsFrom (newBitmap 255) p.levels

def setAttr (a : PathAttribute) : List PathAttribute → List PathAttribute
  | [] => [a]
  | b :: bs => if a.getType = b.getType then a :: bs else b :: setAttr a bs

def Path.setPathAttr (p : Path) (a : PathAttribute) : Path :=
  { p with pathAttrs := setAttr a p.pathAttrs }

def Path.delPathAttr (p : Path) (typ : UInt8) : Path :=
  { p with dels := p.dels ++ [typ] }

/-! ## The lookup through the chain -/

@[simp] theorem Path.setPathAttr_dels (p : Path) (a : PathAttribute) : (p.setPathAttr a).dels = p.dels := rfl

@[simp] theorem Path.setPathAttr_info (p : Path) (a : PathAttribute) : (p.setPathAttr a).info = p.info := rfl

@[simp] theorem Path.delPathAttr_info (p : Path) (t : UInt8) : (p.delPathAttr t).info = p.info := rfl

theorem not_mem_dels_of_getPathAttr {p : Path} {t : UInt8} {a : PathAttribute} (h : p.getPathAttr t = some a) :
    t ∉ p.dels := by
  intro ht
  simp [Path.getPathAttr, Path.levels, lookupAttr, ht] at h

theorem getPathAttr_clone (p : Path) (isWithdraw : Bool) (typ : UInt8) :
    (p.clone isWithdraw).getPathAttr typ = p.getPathAttr typ := by
  simp [Path.getPathAttr, Path.clone, Path.levels, lookupAttr]

theorem getPathAttr_delPathAttr (p : Path) (typ : UInt8) :
    (p.delPathAttr typ).getPathAttr typ = none := by
  simp [Path.getPathAttr, Path.delPathAttr, Path.levels, lookupAttr]

theorem find?_setAttr (a : PathAttribute) :
    ∀ attrs : List PathAttribute, (setAttr a attrs).find? (·.getType == a.getType) = some a
  | [] => by simp [setAttr]
  | b :: bs => by
    unfold setAttr
    by_cases h : a.getType = b.getType
    · simp [h]
    · simp [h, Ne.symm h, find?_setAttr a bs]

theorem getPathAttr_setPathAttr (p : Path) (a : PathAttribute) :
    (p.setPathAttr a).getPathAttr a.getType = if a.getType ∈ p.dels then none else some a := by
  simp [Path.getPathAttr, Path.setPathAttr, Path.levels, lookupAttr, find?_setAttr]

theorem getPathAttr_setPathAttr_of_not_mem {p : Path} {t : UInt8} (h : t ∉ p.dels) (a : PathAttribute)
    (ht : a.getType = t) : (p.setPathAttr a).getPathAttr t = some a := by
  rw [← ht, getPathAttr_setPathAttr, if_neg (ht ▸ h)]

theorem find?_setAttr_ne {a : PathAttribute} {t : UInt8} (h : a.getType ≠ t) :
    ∀ attrs : List PathAttribute, (setAttr a attrs).find? (·.getType == t) = attrs.find? (·.getType == t)
  | [] => by simp [setAttr, h]
  | b :: bs => by
    unfold setAttr
    by_cases hb : a.getType = b.getType
    · simp [hb, show b.getType ≠ t from hb ▸ h]
    · rw [if_neg hb, List.find?_cons, List.find?_cons, find?_setAttr_ne h bs]

theorem getPathAttr_setPathAttr_ne (p : Path) {a : PathAttribute} {t : UInt8} (h : a.getType ≠ t) :
    (p.setPathAttr a).getPathAttr t = p.getPathAttr t := by
  simp [Path.getPathAttr, Path.setPathAttr, Path.levels, lookupAttr, find?_setAttr_ne h]

theorem getPathAttr_delPathAttr_ne (p : Path) {t u : UInt8} (h : t ≠ u) :
    (p.delPathAttr t).getPathAttr u = p.getPathAttr u := by
  simp [Path.getPathAttr, Path.delPathAttr, Path.levels, lookupAttr, Ne.symm h]

/-! ## The two walks agree

`getPathAttr` returns at the first level that deletes or holds the type; `GetPathAttrs`
flags deleted and taken types in `seen`, so at each level it keeps exactly the first
attribute of every type no nearer level has deleted or taken. -/

theorem collectAttrs_length (seen : Bitmap) (attrs : List PathAttribute) :
    (collectAttrs seen attrs).2.words.length = seen.words.length := by
  induction attrs generalizing seen with
  | nil => rfl
  | cons a attrs ih =>
    unfold collectAttrs
    split
    · exact ih seen
    · exact (ih _).trans (Bitmap.length_flag _ _)

section Walk

variable {seen : Bitmap} (hb : 4 ≤ seen.words.length)
include hb

theorem collectAttrs_getFlag (attrs : List PathAttribute) (u : UInt8) :
    (collectAttrs seen attrs).2.getFlag u.toNat = (seen.getFlag u.toNat || attrs.any (·.getType == u)) := by
  induction attrs generalizing seen with
  | nil => simp [collectAttrs]
  | cons a attrs ih =>
    unfold collectAttrs
    split
    · next h =>
      rw [ih hb]
      by_cases hu : a.getType = u
      · subst hu; simp [h]
      · simp [beq_false_of_ne hu]
    · rw [ih (by rw [Bitmap.length_flag]; exact hb), Bitmap.getFlag_flag_type hb]
      by_cases hu : a.getType = u
      · simp [hu]
      · simp [hu, beq_false_of_ne hu]

theorem collectAttrs_mem {attrs : List PathAttribute} {a : PathAttribute}
    (h : a ∈ (collectAttrs seen attrs).1) : a ∈ attrs ∧ seen.getFlag a.getType.toNat = false := by
  induction attrs generalizing seen with
  | nil => simp [collectAttrs] at h
  | cons b attrs ih =>
    unfold collectAttrs at h
    split at h
    · have := ih hb h
      exact ⟨List.mem_cons_of_mem _ this.1, this.2⟩
    · next hf =>
      rcases List.mem_cons.mp h with rfl | h
      · exact ⟨List.mem_cons_self _ _, by simpa using hf⟩
      · have := ih (by rw [Bitmap.length_flag]; exact hb) h
        rw [Bitmap.getFlag_flag_type hb, Bool.or_eq_false_iff] at this
        exact ⟨List.mem_cons_of_mem _ this.1, this.2.2⟩

theorem collectAttrs_nodup (attrs : List PathAttribute) :
    ((collectAttrs seen attrs).1.map PathAttribute.getType).Nodup := by
  induction attrs generalizing seen with
  | nil => simp [collectAttrs]
  | cons a attrs ih =>
    unfold collectAttrs
    split
    · exact ih hb
    · have hb' : 4 ≤ (seen.flag a.getType.toNat).words.length := by rw [Bitmap.length_flag]; exact hb
      refine List.nodup_cons.mpr ⟨fun hm => ?_, ih hb'⟩
      obtain ⟨c, hc, hca⟩ := List.mem_map.mp hm
      have := (collectAttrs_mem hb' hc).2
      rw [Bitmap.getFlag_flag_type hb, hca] at this
      simp at this

theorem collectAttrs_find (attrs : List PathAttribute) (u : UInt8) :
    (collectAttrs seen attrs).1.find? (·.getType == u) =
      if seen.getFlag u.toNat then none else attrs.find? (·.getType == u) := by
  induction attrs generalizing seen with
  | nil => simp [collectAttrs]
  | cons a attrs ih =>
    unfold collectAttrs
    split
    · next h =>
      rw [ih hb]
      by_cases hu : a.getType = u
      · subst hu; simp [h]
      · simp [beq_false_of_ne hu]
    · next h =>
      have hb' : 4 ≤ (seen.flag a.getType.toNat).words.length := by rw [Bitmap.length_flag]; exact hb
      by_cases hu : a.getType = u
      · subst hu; simp [h]
      · simp only [List.find?_cons, beq_false_of_ne hu, ih hb', Bitmap.getFlag_flag_type hb,
          decide_eq_false hu, Bool.false_or]

omit hb in
theorem delsFlag_length (seen : Bitmap) (dels : List UInt8) :
    (dels.foldl (fun b t => b.flag t.toNat) seen).words.length = seen.words.length := by
  induction dels generalizing seen with
  | nil => rfl
  | cons t dels ih => exact (ih _).trans (Bitmap.length_flag _ _)

theorem delsFlag_getFlag (dels : List UInt8) (u : UInt8) :
    (dels.foldl (fun b t => b.flag t.toNat) seen).getFlag u.toNat = (decide (u ∈ dels) || seen.getFlag u.toNat) := by
  induction dels generalizing seen with
  | nil => simp
  | cons t dels ih =>
    rw [List.foldl_cons, ih (by rw [Bitmap.length_flag]; exact hb), Bitmap.getFlag_flag_type hb]
    by_cases h : t = u
    · subst h; simp
    · simp [h, Ne.symm h]

theorem getPathAttrsFrom_find (ls : List Level) (u : UInt8) :
    (getPathAttrsFrom seen ls).find? (·.getType == u) =
      if seen.getFlag u.toNat then none else lookupAttr u ls := by
  induction ls generalizing seen with
  | nil => simp [getPathAttrsFrom, lookupAttr]
  | cons l ls ih =>
    have hd := delsFlag_length seen l.dels
    have hc := collectAttrs_length (l.dels.foldl (fun b t => b.flag t.toNat) seen) l.pathAttrs
    simp only [getPathAttrsFrom, List.find?_append, collectAttrs_find (hd ▸ hb), ih (hc ▸ hd ▸ hb),
      collectAttrs_getFlag (hd ▸ hb), delsFlag_getFlag hb, lookupAttr]
    by_cases hs : seen.getFlag u.toNat
    · simp [hs]
    · by_cases hu : u ∈ l.dels
      · simp [hs, hu]
      · cases hf : l.pathAttrs.find? (·.getType == u) with
        | some a => simp [hs, hu, hf]
        | none =>
          have : (l.pathAttrs.any (·.getType == u)) = false := by
            simpa using List.find?_eq_none.mp hf
          simp [hs, hu, hf, this]

theorem getPathAttrsFrom_mem {ls : List Level} {a : PathAttribute} (h : a ∈ getPathAttrsFrom seen ls) :
    seen.getFlag a.getType.toNat = false ∧ ∃ pre l post, ls = pre ++ l :: post ∧ a ∈ l.pathAttrs ∧
      a.getType ∉ l.dels ∧ ∀ l' ∈ pre, a.getType ∉ l'.dels := by
  induction ls generalizing seen with
  | nil => simp [getPathAttrsFrom] at h
  | cons l ls ih =>
    have hd := delsFlag_length seen l.dels
    have hc := collectAttrs_length (l.dels.foldl (fun b t => b.flag t.toNat) seen) l.pathAttrs
    simp only [getPathAttrsFrom, List.mem_append] at h
    rcases h with h | h
    · obtain ⟨hm, hf⟩ := collectAttrs_mem (hd ▸ hb) h
      rw [delsFlag_getFlag hb, Bool.or_eq_false_iff] at hf
      exact ⟨hf.2, [], l, ls, rfl, hm, by simpa using hf.1, by simp⟩
    · obtain ⟨hf, pre, l', post, rfl, hm, hd', hpre⟩ := ih (hc ▸ hd ▸ hb) h
      rw [collectAttrs_getFlag (hd ▸ hb), delsFlag_getFlag hb, Bool.or_eq_false_iff,
        Bool.or_eq_false_iff] at hf
      exact ⟨hf.1.2, l :: pre, l', post, rfl, hm, hd',
        List.forall_mem_cons.mpr ⟨by simpa using hf.1.1, hpre⟩⟩

theorem getPathAttrsFrom_nodup (ls : List Level) :
    ((getPathAttrsFrom seen ls).map PathAttribute.getType).Nodup := by
  induction ls generalizing seen with
  | nil => simp [getPathAttrsFrom]
  | cons l ls ih =>
    have hd := delsFlag_length seen l.dels
    have hc := collectAttrs_length (l.dels.foldl (fun b t => b.flag t.toNat) seen) l.pathAttrs
    simp only [getPathAttrsFrom, List.map_append]
    refine (collectAttrs_nodup (hd ▸ hb) _).append (ih (hc ▸ hd ▸ hb)) fun t h1 h2 => ?_
    obtain ⟨a, ha, rfl⟩ := List.mem_map.mp h1
    obtain ⟨b, hb', hbt⟩ := List.mem_map.mp h2
    have hflag := (getPathAttrsFrom_mem (hc ▸ hd ▸ hb) hb').1
    rw [hbt, collectAttrs_getFlag (hd ▸ hb)] at hflag
    have : l.pathAttrs.any (·.getType == a.getType) = true :=
      List.any_eq_true.mpr ⟨a, (collectAttrs_mem (hd ▸ hb) ha).1, by simp⟩
    simp [this] at hflag

end Walk

/-- Every index the walk passes to `Flag` and `GetFlag` selects one of the bitmap's words,
where the source's `b[i/64]` would otherwise panic. -/
def WalkInRange (seen : Bitmap) (ls : List Level) : Prop :=
  ∀ l ∈ ls, (∀ t ∈ l.dels, t.toNat / 64 < seen.words.length) ∧
    ∀ a ∈ l.pathAttrs, a.getType.toNat / 64 < seen.words.length

/-- `getPathAttr` is the lookup in `GetPathAttrs`, which holds one attribute per type, each
from a level where no nearer `dels` hides it, and indexes its bitmap in range. -/
theorem getPathAttr_agrees_getPathAttrs (p : Path) :
    (∀ t, p.getPathAttr t = p.getPathAttrs.find? (·.getType == t)) ∧
    (p.getPathAttrs.map PathAttribute.getType).Nodup ∧
    (∀ a ∈ p.getPathAttrs, ∃ pre l post, p.levels = pre ++ l :: post ∧ a ∈ l.pathAttrs ∧
      a.getType ∉ l.dels ∧ ∀ l' ∈ pre, a.getType ∉ l'.dels) ∧
    WalkInRange (newBitmap 255) p.levels := by
  have hb : 4 ≤ (newBitmap 255).words.length := by rw [newBitmap_length]
  refine ⟨fun t => ?_, getPathAttrsFrom_nodup hb _, fun a ha => (getPathAttrsFrom_mem hb ha).2,
    fun l _ => ⟨fun t _ => newBitmap_maxUint8_type t, fun a _ => newBitmap_maxUint8_type a.getType⟩⟩
  rw [Path.getPathAttrs, getPathAttrsFrom_find hb, newBitmap_getFlag, if_neg Bool.false_ne_true]
  rfl

/-! ## Sample paths -/

/-- The prefixes 10.0.0.0/24 and 10.0.1.0/24. -/
def prefix10 : IPAddrPrefix := ⟨24, 167772160, by decide⟩
def prefix11 : IPAddrPrefix := ⟨24, 167772416, by decide⟩

/-- The peer 10.0.0.2 in AS 65002, seen from AS 65001. -/
def samplePeer : PeerInfo := ⟨65002, 65001, [10, 0, 0, 2], some [10, 0, 0, 2]⟩

/-- A root path from `samplePeer` for `nlri`, with its own attributes and `dels`. -/
def samplePath (nlri : IPAddrPrefix) (isWithdraw : Bool) (attrs : List PathAttribute) (dels : List UInt8) : Path :=
  ⟨⟨.ipv4 nlri, samplePeer, false⟩, isWithdraw, attrs, dels, []⟩

/-- Announcements of 10.0.0.0/24 with the AS_PATH 1 2, with it and MED 5, and with COMMUNITIES 1. -/
def pathAs12 : Path := samplePath prefix10 false [.asPath [.four ⟨.seq, 2, [1, 2]⟩]] []
def pathAs12Med5 : Path := samplePath prefix10 false [.asPath [.four ⟨.seq, 2, [1, 2]⟩], .multiExitDisc 5] []
def pathCommunity1 : Path := samplePath prefix10 false [.communities [1]] []

/-- Announcements of 10.0.0.0/24 and 10.0.1.0/24 with ORIGIN IGP, and a withdrawal of the first. -/
def announce10 : Path := samplePath prefix10 false [.origin 0] []
def announce11 : Path := samplePath prefix11 false [.origin 0] []
def withdraw10 : Path := samplePath prefix10 true [] []

/-! ## Communities -/

/-- `SetCommunities`: an empty replacement deletes the attribute; otherwise the new list
replaces, or is appended to, the communities the path has. -/
def Path.setCommunities (p : Path) (communities : List Nat) (doReplace : Bool) : Path :=
  if communities = [] ∧ doReplace then p.delPathAttr BGP_ATTR_TYPE_COMMUNITIES
  else
    let newList := match p.getPathAttr BGP_ATTR_TYPE_COMMUNITIES with
      | some (.communities c) => if doReplace then communities else c ++ communities
      | _ => communities
    p.setPathAttr (.communities newList)

/-- `RemoveCommunities`: the number removed, and the path, whose communities attribute is
deleted when none remains. -/
def Path.removeCommunities (p : Path) (communities : List Nat) : Nat × Path :=
  if communities = [] then (0, p)
  else match p.getPathAttr BGP_ATTR_TYPE_COMMUNITIES with
    | some (.communities c) =>
      let newList := c.filter (· ∉ communities)
      (c.length - newList.length,
        if newList ≠ [] then p.setPathAttr (.communities newList)
        else p.delPathAttr BGP_ATTR_TYPE_COMMUNITIES)
    | _ => (0, p)

/-- Communities removed down to none, then one added: `setPathAttr` writes the attribute
but the `dels` entry on the same path still hides it. -/
theorem setCommunities_after_removeCommunities_hidden :
    ((pathCommunity1.removeCommunities [1]).2.setCommunities [2] false).getPathAttr
        BGP_ATTR_TYPE_COMMUNITIES = none ∧
    ((pathCommunity1.removeCommunities [1]).2.setCommunities [2] false).getPathAttrs
      = [] := by
  decide

end GoBgp
